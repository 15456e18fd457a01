import Assay.Report.Basic

/-! Plans: suites with their checks, in the order of running. A run reports
every suite it starts and every check it runs; when it is to fail fast, the
first failed check is the last one run. -/
namespace Assay

def Check.finding (suite : Suite) (check : Check) : Finding where
  suite := suite
  check := check.name
  outcome :=
    match check.outcome with
    | .ok () => .passed
    | .error fault => .failed fault.message

/-- A list of suites with the checks to run for each. -/
abbrev Plan : Type := List (Suite × List Check)

namespace Plan

/-- The findings of the checks of one suite, up to the first failure when
failing fast. -/
def runChecks (failFast : Bool) (suite : Suite) : List Check → List Finding
  | [] => []
  | check :: rest =>
    let finding := check.finding suite
    if failFast && !finding.passed then [finding] else finding :: runChecks failFast suite rest

def run (failFast : Bool) : Plan → Report
  | [] => ⟨[], []⟩
  | (suite, checks) :: rest =>
    let findings := runChecks failFast suite checks
    if failFast && !findings.all Finding.passed then ⟨[suite], findings⟩
    else
      let later := run failFast rest
      ⟨suite :: later.suites, findings ++ later.findings⟩

/-- Every suite with its own checks. -/
def ofSuites (suites : List Suite) : Plan := suites.map fun suite => (suite, suite.checks)

end Plan

end Assay
