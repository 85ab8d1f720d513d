import Stopwatch.Results.Document
import Stopwatch.Text.Blank

/-!
# Results that a program prints

A program may print its results on standard output, as a document or as a bare list of categories. The
whole output is tried first, then its lines from the last to the first.
-/

namespace Stopwatch.Reported

/-- Reads a text as a document or as a list of categories. -/
def ofText? (text : String) : Option (List ResultGroup) :=
  ((Results.codec.read? text).map Results.groups).or ((Json.Codec.list ResultGroup.codec).read? text)

/-- Whether a line may hold results: it starts with a bracket. -/
def mayHold (line : List Char) : Bool :=
  line.head? == some '\x7b' || line.head? == some '['

/-- The categories that an output reports. -/
def groups? (stdout : String) : Option (List ResultGroup) :=
  let whole := Text.trimChars stdout.toList
  if whole.isEmpty then none
  else
    (ofText? (String.ofList whole)).or <|
      (((Text.lines whole).reverse.map Text.trimChars).filter mayHold).findSome? fun line =>
        ofText? (String.ofList line)

end Stopwatch.Reported
