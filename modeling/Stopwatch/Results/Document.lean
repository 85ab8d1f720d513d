import Stopwatch.Comparison
import Stopwatch.Results.Process

/-!
# The results document

A `Results` document is the machine-readable record of a run: its test results, the comparison if there
was a baseline, the process runs and the environment. It is what a baseline file holds.
-/

namespace Stopwatch

/-- Where and with what a run was made. -/
structure Environment where
  schemaVersion : Nat
  benchVersion : String
  profile : String
  os : String
  arch : String
  cpuCount : Nat
  commit : Option String
  candidateVersion : Option String
  baselineVersion : Option String
deriving DecidableEq, Inhabited

namespace Environment

/-- The version of the document format. -/
def currentSchema : Nat := 1

/-- The version of this program. -/
def programVersion : String := "0.3.0"

/-- The machine that a run is made on. -/
structure Machine where
  os : String
  arch : String
  cpuCount : Nat
deriving DecidableEq, Inhabited

/-- The first twelve characters of the commit that a build script names. -/
def commitOf (gitSha githubSha : Option String) : Option String :=
  (gitSha.or githubSha).map fun s => String.ofList (s.toList.take 12)

/-- The environment of a run; the versions of the runtimes are not known yet. -/
def capture (profile : String) (machine : Machine) (commit : Option String) : Environment where
  schemaVersion := currentSchema
  benchVersion := programVersion
  profile
  os := machine.os
  arch := machine.arch
  cpuCount := machine.cpuCount
  commit
  candidateVersion := none
  baselineVersion := none

open Json in
def codec : Codec Environment :=
  .record
    (.cons (.required "schemaVersion" (.natural 32)) <|
      .cons (.required "benchVersion" .text) <|
      .cons (.required "profile" .text) <|
      .cons (.required "os" .text) <|
      .cons (.required "arch" .text) <|
      .cons (.required "cpuCount" .count) <|
      .cons (.optional "gitSha" .text) <|
      .cons (.optional "candidateVersion" .text) <|
      .cons (.optional "baselineVersion" .text) .nil)
    (fun e => (e.schemaVersion, e.benchVersion, e.profile, e.os, e.arch, e.cpuCount, e.commit,
      e.candidateVersion, e.baselineVersion, ()))
    (fun (schemaVersion, benchVersion, profile, os, arch, cpuCount, commit, candidateVersion,
      baselineVersion, _) =>
      ⟨schemaVersion, benchVersion, profile, os, arch, cpuCount, commit, candidateVersion,
        baselineVersion⟩)

end Environment

/-- Everything that a run recorded. -/
structure Results where
  timestamp : String
  groups : List ResultGroup
  comparison : Option Comparison
  processRuns : Option (List RunPair)
  environment : Option Environment
deriving DecidableEq, Inhabited

namespace Results

open Json in
def codec : Codec Results :=
  .record
    (.cons (.required "timestamp" .text) <|
      .cons (.required "results" (.list ResultGroup.codec)) <|
      .cons (.nullable "comparison" Comparison.codec) <|
      .cons (.optional "processRuns" (.list RunPair.codec)) <|
      .cons (.optional "environment" Environment.codec) .nil)
    (fun r => (r.timestamp, r.groups, r.comparison, r.processRuns, r.environment, ()))
    (fun (timestamp, groups, comparison, processRuns, environment, _) =>
      ⟨timestamp, groups, comparison, processRuns, environment⟩)

/-- The text of a results file: indented, with a line feed at its end. -/
def render (r : Results) : String := codec.printIndented r ++ "\n"

/-- Whether some category has a test. -/
def hasTests (r : Results) : Bool := !r.groups.all (·.tests.isEmpty)

end Results

end Stopwatch
