import Stopwatch.Text.Quoted

/-!
# Faults

What can go wrong, by cause, with one message and one exit code for each. Nothing to measure and nothing
to compare with are not faults: they give empty results.
-/

namespace Stopwatch

/-- Why the system refused a request. -/
inductive SystemError where
  | notFound
  | noSuchProcess
  | interrupted
  | ioFailure
  | noDevice
  | badFormat
  | badDescriptor
  | permissionDenied
  | fileExists
  | notDirectory
  | isDirectory
  | textBusy
  | noSpace
  | illegalSeek
  | brokenPipe
  | nameTooLong
  | directoryNotEmpty
  | tooManyLinks
deriving DecidableEq, Repr, Inhabited

namespace SystemError

/-- The number of an error. -/
def code : SystemError → Nat
  | notFound => 2
  | noSuchProcess => 3
  | interrupted => 4
  | ioFailure => 5
  | noDevice => 6
  | badFormat => 8
  | badDescriptor => 9
  | permissionDenied => 13
  | fileExists => 17
  | notDirectory => 20
  | isDirectory => 21
  | textBusy => 26
  | noSpace => 28
  | illegalSeek => 29
  | brokenPipe => 32
  | nameTooLong => 36
  | directoryNotEmpty => 39
  | tooManyLinks => 40

def description : SystemError → String
  | notFound => "No such file or directory"
  | noSuchProcess => "No such process"
  | interrupted => "Interrupted system call"
  | ioFailure => "Input/output error"
  | noDevice => "No such device or address"
  | badFormat => "Exec format error"
  | badDescriptor => "Bad file descriptor"
  | permissionDenied => "Permission denied"
  | fileExists => "File exists"
  | notDirectory => "Not a directory"
  | isDirectory => "Is a directory"
  | textBusy => "Text file busy"
  | noSpace => "No space left on device"
  | illegalSeek => "Illegal seek"
  | brokenPipe => "Broken pipe"
  | nameTooLong => "File name too long"
  | directoryNotEmpty => "Directory not empty"
  | tooManyLinks => "Too many levels of symbolic links"

end SystemError

/-- Why a file operation failed. -/
inductive IoError where
  | system (e : SystemError)
  /-- The bytes are not text. -/
  | notText
  /-- A path has a character with the code zero, at which the system would take it to end. -/
  | zeroInPath
  /-- A word for a process has such a character. -/
  | zeroInWord
  | other (text : String)
deriving DecidableEq, Repr, Inhabited

def IoError.message : IoError → String
  | system e => e.description ++ " (os error " ++ toString e.code ++ ")"
  | notText => "stream did not contain valid UTF-8"
  | zeroInPath => "file name contained an unexpected NUL byte"
  | zeroInWord => "nul byte found in provided data"
  | other text => text

inductive Fault where
  /-- A workload failed while it was measured. -/
  | measurement (category test source : String)
  /-- The executable of a runtime is at none of the searched places. -/
  | runtimeNotFound (label : String) (searched : List String)
  /-- The process of a runtime could not be started. -/
  | spawn (runtime file : String) (source : IoError)
  /-- A suite file could not be read. -/
  | suiteParse (path reason : String)
  /-- A suite lists no files. -/
  | emptySuite (name : String)
  /-- A setting has a value that makes no sense. -/
  | config (field reason : String)
  | io (source : IoError)
  /-- A text is not the document that it should be. -/
  | json
deriving DecidableEq, Repr, Inhabited

namespace Fault

/-- The fault in words. -/
def message : Fault → String
  | measurement category test source =>
    "workload '" ++ test ++ "' in category '" ++ category ++ "' failed: " ++ source
  | runtimeNotFound label searched =>
    "runtime '" ++ label ++ "' not found (searched: " ++ Text.quotedList searched ++ ")"
  | spawn runtime file source =>
    "failed to spawn " ++ runtime ++ " for " ++ file ++ ": " ++ source.message
  | suiteParse path reason => "suite file " ++ path ++ ": " ++ reason
  | emptySuite name => "suite '" ++ name ++ "' lists no workload files"
  | config field reason => "invalid configuration: " ++ field ++ ": " ++ reason
  | io source => source.message
  | json => "JSON error: not a valid document"

/-- The fault behind a fault. -/
def source? : Fault → Option String
  | measurement _ _ source => some source
  | spawn _ _ source => some source.message
  | _ => none

/-- The exit code: two for mistakes in the request, one for failures. -/
def exitCode : Fault → Nat
  | config _ _ => 2
  | suiteParse _ _ => 2
  | emptySuite _ => 2
  | _ => 1

end Fault

end Stopwatch
