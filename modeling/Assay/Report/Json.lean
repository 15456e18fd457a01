import Assay.Json.Writer
import Assay.Report.Basic

/-! Reports as JSON. A check has its suite, its name and a status, and a message
when it failed. -/
namespace Assay

def Suite.toJson (suite : Suite) : Json := .string suite.tag

theorem Suite.toJson_eq (suite : Suite) : suite.toJson = .string suite.name :=
  congrArg Json.string suite.tag_eq_name

def Outcome.members : Outcome → Fields Json
  | .passed => [("status", .string "passed")]
  | .failed message => [("status", .string "failed"), ("message", .string message)]

def Finding.toJson (finding : Finding) : Json :=
  .object ([("suite", finding.suite.toJson), ("check", .string finding.check)] ++
    finding.outcome.members)

namespace Report

def toJson (report : Report) : Json :=
  .object
    [("suites", .array (report.suites.map Suite.toJson)),
      ("checks", .array (report.findings.map Finding.toJson))]

def prettyJson (report : Report) : String := report.toJson.pretty

end Report

end Assay
