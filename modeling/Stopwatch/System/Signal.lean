import Stopwatch.Bytes

/-!
# Signals

The signals by number and name, what they do to a process, and what is said about a process that one of them
has ended.
-/

namespace Stopwatch.System

/-- A signal by its number; zero stands for none. -/
abbrev Signal := Nat

namespace Signal

/-- The names of signals without the letters that they all share. -/
def names : List (String × Signal) :=
  [("EXIT", 0), ("HUP", 1), ("INT", 2), ("QUIT", 3), ("ILL", 4), ("TRAP", 5), ("ABRT", 6), ("BUS", 7),
    ("FPE", 8), ("KILL", 9), ("USR1", 10), ("SEGV", 11), ("USR2", 12), ("PIPE", 13), ("ALRM", 14),
    ("TERM", 15), ("CHLD", 17), ("CONT", 18), ("STOP", 19), ("TSTP", 20), ("TTIN", 21),
    ("TTOU", 22), ("URG", 23), ("XCPU", 24), ("XFSZ", 25), ("VTALRM", 26), ("PROF", 27), ("WINCH", 28),
    ("IO", 29), ("PWR", 30), ("SYS", 31)] ++ realTime
where
  /-- Those for the use of programs. -/
  realTime : List (String × Signal) :=
    ("RTMIN", 34) :: ("RTMAX", 64) ::
      ((List.range 15).map fun i => ("RTMIN+" ++ toString (i + 1), 35 + i)) ++
      ((List.range 14).map fun i => ("RTMAX-" ++ toString (i + 1), 63 - i))

def interrupt : Signal := 2

def quit : Signal := 3

def kill : Signal := 9

def brokenPipe : Signal := 13

def terminate : Signal := 15

def child : Signal := 17

def resume : Signal := 18

/-- The greatest number of a signal. -/
def greatest : Signal := 64

/-- The signal that a name or a number stands for. -/
def ofBytes? (text : Bytes) : Option Signal :=
  match Bytes.number? text with
  | some n => if n ≤ greatest then some n else none
  | none => names.lookup (String.ofList (text.map Char.toUpper))

/-- The name of a signal without the letters that all share, or its number if it has no name. -/
def name (signal : Signal) : String :=
  match names.find? (·.2 = signal) with
  | some (name, _) => name
  | none => toString signal

/-- Whether a process that does nothing about a signal goes on. -/
def isHarmless (signal : Signal) : Bool := [0, 17, 18, 23, 28].contains signal

/-- Whether a process that does nothing about a signal stops until it is told to go on. -/
def isPausing (signal : Signal) : Bool := [19, 20, 21, 22].contains signal

/-- Whether nothing can be done about a signal. -/
def isFinal (signal : Signal) : Bool := signal = 9 || signal = 19

/-- The exit status of a process that a signal has ended. -/
def status (signal : Signal) : Nat := 128 + signal

/-- What is said about a program that a signal has ended. -/
def obituary? (signal : Signal) : Option String :=
  match signal with
  | 1 => some "Hangup"
  | 3 => some "Quit"
  | 4 => some "Illegal instruction"
  | 5 => some "Trace/breakpoint trap"
  | 6 => some "Aborted"
  | 7 => some "Bus error"
  | 8 => some "Floating point exception"
  | 9 => some "Killed"
  | 10 => some "User defined signal 1"
  | 11 => some "Segmentation fault"
  | 12 => some "User defined signal 2"
  | 14 => some "Alarm clock"
  | 15 => some "Terminated"
  | 16 => some "Stack fault"
  | 24 => some "CPU time limit exceeded"
  | 25 => some "File size limit exceeded"
  | 26 => some "Virtual timer expired"
  | 27 => some "Profiling timer expired"
  | 29 => some "I/O possible"
  | 30 => some "Power failure"
  | 31 => some "Bad system call"
  | 32 => some "Unknown signal 32"
  | 33 => some "Unknown signal 33"
  | n => if 34 ≤ n && n ≤ 64 then some ("Real-time signal " ++ toString (n - 34)) else none

end Signal

end Stopwatch.System
