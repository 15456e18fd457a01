import Assay.Decimal.Integer
import Assay.Report.Basic

/-! Reports for people: a success line for every suite that passed, a line for
every failed check of the others, and the number of failures at the end. -/
namespace Assay

/-- The line of a failed check; checks that passed have none. -/
def Finding.failureLine? (finding : Finding) : Option String :=
  match finding.outcome with
  | .passed => none
  | .failed message =>
    some ("FAIL " ++ finding.suite.name ++ "/" ++ finding.check ++ ": " ++ message)

namespace Report

def suiteLines (report : Report) (suite : Suite) : List String :=
  if report.suitePassed suite then [suite.successMessage]
  else (report.ofSuite suite).filterMap Finding.failureLine?

def countLine (report : Report) : List String :=
  if report.failures.length = 0 then []
  else [Decimal.intString report.failures.length ++ " check(s) failed"]

def lines (report : Report) : List String :=
  report.suites.flatMap report.suiteLines ++ report.countLine

/-- The lines, one below the other, with a line break at the end. -/
def text (report : Report) : String := "\n".intercalate report.lines ++ "\n"

end Report

end Assay
