import Stopwatch.Calendar
import Stopwatch.Tool.Words

/-!
# Facts

The tools that tell what time it is, who runs them, and where, and the one that finds a new name for a file.

- `dateFields`: what stands for the letters in a date;
- `date`, `id`, `uname`, `mktemp`: the tools.
-/

namespace Stopwatch.Tool

/-! ### Time -/

/-- The names of the days of a week, from Sunday on. -/
def weekdays : List String := ["Sunday", "Monday", "Tuesday", "Wednesday", "Thursday", "Friday", "Saturday"]

/-- The number of a day in its year. -/
def dayOfYear (m : Moment) : Nat :=
  let isLeap := m.year % 4 = 0 && (m.year % 100 ≠ 0 || m.year % 400 = 0)
  let lengths := [31, if isLeap then 29 else 28, 31, 30, 31, 30, 31, 31, 30, 31, 30, 31]
  (lengths.take (m.month - 1)).foldl (· + ·) m.day

/-- A number with blanks in front, up to two places. -/
def spaced (n : Nat) : String := String.ofList (column 2 n)

/-- What a letter in a date stands for, at a time in nanoseconds. -/
def dateField? (time : Nat) (letter : Char) : Option String :=
  let m := Moment.ofNanoseconds time
  let weekday := (time / Span.second / 86400 + 4) % 7
  let hour := (m.hour + 11) % 12 + 1
  let two (n : Nat) : String := Moment.padded 2 n
  let clock := two m.hour ++ ":" ++ two m.minute
  let day := weekdays.getD weekday ""
  match letter with
  | 'Y' => some (Moment.yearText m.year)
  | 'y' => some (two (m.year.toNat % 100))
  | 'C' => some (two (m.year.toNat / 100))
  | 'm' => some (two m.month)
  | 'd' => some (two m.day)
  | 'e' => some (spaced m.day)
  | 'H' => some (two m.hour)
  | 'k' => some (spaced m.hour)
  | 'I' => some (two hour)
  | 'l' => some (spaced hour)
  | 'M' => some (two m.minute)
  | 'S' => some (two m.second)
  | 'N' => some (Moment.padded 9 m.nanosecond)
  | 's' => some (toString (time / Span.second))
  | 'p' => some (if m.hour < 12 then "AM" else "PM")
  | 'F' => some (Moment.yearText m.year ++ "-" ++ two m.month ++ "-" ++ two m.day)
  | 'D' => some (two m.month ++ "/" ++ two m.day ++ "/" ++ two (m.year.toNat % 100))
  | 'T' => some (clock ++ ":" ++ two m.second)
  | 'R' => some clock
  | 'a' => some (String.ofList (day.toList.take 3))
  | 'A' => some day
  | 'b' => some (String.ofList (m.monthName.toList.take 3))
  | 'h' => some (String.ofList (m.monthName.toList.take 3))
  | 'B' => some m.monthName
  | 'u' => some (toString (if weekday = 0 then 7 else weekday))
  | 'w' => some (toString weekday)
  | 'j' => some (Moment.padded 3 (dayOfYear m))
  | 'Z' => some "UTC"
  | 'z' => some "+0000"
  | 'n' => some "\n"
  | 't' => some "\t"
  | '%' => some "%"
  | _ => none

/-- A date under a format. -/
def dateUnder (time : Nat) : Bytes → Bytes
  | '%' :: c :: rest =>
    (match dateField? time c with
      | some text => Bytes.ofString text
      | none => ['%', c]) ++ dateUnder time rest
  | c :: rest => c :: dateUnder time rest
  | [] => []

/-- The date as it is usually written. -/
def usualDate : Bytes := "%a %b %e %H:%M:%S %Z %Y".toList

/-- The time that a text names as a number of seconds. -/
def secondsOf? : Bytes → Option Nat
  | '@' :: digits => (Bytes.number? digits).map (· * Span.second)
  | _ => none

/-- Shows the date. -/
def date : Errand :=
  withCall ⟨"u", "d", [("date", 'd'), ("utc", 'u'), ("universal", 'u')]⟩ 1 fun call => do
    let now ← ask .time
    let time : Option Nat := match call.value? 'd' with
      | none => some now
      | some text => if text = "now".toList then some now else secondsOf? text
    match time, call.operands with
    | none, _ =>
      blame (Bytes.ofString "invalid date " ++ quote ((call.value? 'd').getD []))
      return 1
    | some time, [] =>
      put (dateUnder time usualDate ++ ['\n'])
      return 0
    | some time, [ '+' :: format ] =>
      put (dateUnder time format ++ ['\n'])
      return 0
    | some _, [text] =>
      blame (Bytes.ofString "invalid date " ++ quote text)
      return 1
    | some _, _ :: extra :: _ => misuse (Bytes.ofString "extra operand " ++ quote extra) 1

/-! ### Places and people -/

/-- Tells who runs it. -/
def id : Errand :=
  withCall ⟨"gGnru", "", [("user", 'u'), ("group", 'g'), ("groups", 'G'), ("name", 'n')]⟩ 1 fun call => do
    let isOne := call.has 'u' || call.has 'g' || call.has 'G'
    line (if !isOne then "uid=0(root) gid=0(root) groups=0(root)" else if call.has 'n' then "root" else "0")

/-- What is known about the machine, by letters. -/
def machineFacts : List (Char × String) :=
  [('s', "Linux"), ('n', "localhost"), ('r', "6.1.0"), ('v', "#1 SMP"), ('m', "x86_64"), ('o', "GNU/Linux")]

/-- Tells what is known about the machine. -/
def uname : Errand :=
  withCall ⟨"asnrvmo", "", [("all", 'a'), ("kernel-name", 's'), ("nodename", 'n'), ("kernel-release", 'r'),
      ("kernel-version", 'v'), ("machine", 'm'), ("operating-system", 'o')]⟩ 1 fun call =>
    let asked := machineFacts.filter fun fact => call.has 'a' || call.has fact.1
    line (" ".intercalate ((if asked.isEmpty then machineFacts.take 1 else asked).map Prod.snd))

/-! ### Names -/

/-- The characters of new names. -/
def nameLetters : Bytes := "ABCDEFGHIJKLMNOPQRSTUVWXYZabcdefghijklmnopqrstuvwxyz0123456789".toList

/-- A template with letters that a number chooses in place of the marks at its end. -/
def nameOf (template : Bytes) (number : Nat) : Bytes :=
  let marks := (template.reverse.takeWhile (· = 'X')).length
  let letters := (List.range marks).map fun i =>
    nameLetters.getD (number / Nat.pow nameLetters.length i % nameLetters.length) 'A'
  template.take (template.length - marks) ++ letters

/-- Makes a new file or directory with a name that nothing else has, and tells it. -/
def mktemp : Errand :=
  withCall ⟨"dqtu", "p", [("directory", 'd'), ("quiet", 'q'), ("dry-run", 'u'), ("tmpdir", 'p')]⟩ 1 fun call => do
    let template := call.operands.headD "tmp.XXXXXXXXXX".toList
    let isPlaced := call.operands.isEmpty || call.has 't' || call.has 'p'
    let directory := (call.value? 'p').getD ((((← read).environment.lookup "TMPDIR".toList).filter fun d =>
      !d.isEmpty).getD "/tmp".toList)
    let marks := (template.reverse.takeWhile (· = 'X')).length
    if marks < 3 then
      blame (Bytes.ofString "too few X's in template " ++ quote template)
      return 1
    else
      let template := if isPlaced then directory ++ '/' :: template else template
      let path := nameOf template ((← ask .time) * 7919 + (← ask .identity).pid)
      let outcome ← if call.has 'u' then pure (Except.ok ())
        else if call.has 'd' then ask (.alter fun v => v.disk.makeDirectory v.directory path.toText)
        else ask (.alter fun v => v.disk.write v.directory path.toText .empty)
      match outcome with
      | .ok _ =>
        put (path ++ ['\n'])
        return 0
      | .error e =>
        blame (quotedly (if call.has 'd' then "failed to create directory via template "
          else "failed to create file via template ") template e)
        return 1

end Stopwatch.Tool
