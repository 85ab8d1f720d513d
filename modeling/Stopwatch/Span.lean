/-!
# Spans of time

A span is a number of nanoseconds. The units are multiples of each other by a thousand.
-/

namespace Stopwatch.Span

def microsecond : Nat := 1000

def millisecond : Nat := 1000 * microsecond

def second : Nat := 1000 * millisecond

end Stopwatch.Span
