import Stopwatch.Decimal.Fixed
import Stopwatch.Regression

/-!
# Plain text

The results and the regressions as text for a terminal.
-/

namespace Stopwatch.Plain

/-- The line of one test. -/
def testLine (t : TestResult) : String :=
  "  " ++ t.name ++ ": " ++ Decimal.fixed 3 t.stats.mean ++ "ms (mean), " ++
    Decimal.fixed 3 t.stats.median ++ "ms (median)\n"

/-- The lines of one category. -/
def groupLines (g : ResultGroup) : String :=
  "\n" ++ g.category ++ ":\n" ++
    if g.tests.isEmpty then "  (no tests)\n" else String.join (g.tests.map testLine)

/-- The mean and median of every test. -/
def summary (groups : List ResultGroup) : String :=
  "=== Benchmark Summary ===\n" ++ String.join (groups.map groupLines)

/-- The line of one regression. -/
def regressionLine (r : Regression) : String :=
  "  - " ++ r.name ++ " [" ++ r.category ++ "]: " ++ Decimal.fixed 3 r.baselineMean ++ "ms -> " ++
    Decimal.fixed 3 r.currentMean ++ "ms (+" ++ Decimal.fixed 1 r.percentChange ++ "%)\n"

/-- The regressions at a threshold. -/
def regressions (rs : List Regression) (threshold : Float) : String :=
  "=== REGRESSIONS (threshold " ++ Decimal.fixed 1 threshold ++ "%)\n" ++
    String.join (rs.map regressionLine)

end Stopwatch.Plain
