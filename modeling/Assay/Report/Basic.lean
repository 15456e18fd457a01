import Assay.Suite.Checks

/-! Reports of a run: the suites that were started and what came of every check,
both in order. A suite passes when all of its checks were run and none failed. -/
namespace Assay

inductive Outcome where
  | passed
  | failed (message : String)
deriving DecidableEq

/-- One check of a run with its outcome. -/
structure Finding where
  suite : Suite
  check : String
  outcome : Outcome
deriving DecidableEq

def Finding.passed (finding : Finding) : Bool := finding.outcome = .passed

structure Report where
  suites : List Suite
  findings : List Finding
deriving DecidableEq

namespace Report

def passed (report : Report) : Bool := report.findings.all Finding.passed

def failures (report : Report) : List Finding := report.findings.filter fun f => !f.passed

def ofSuite (report : Report) (suite : Suite) : List Finding :=
  report.findings.filter fun f => f.suite = suite

def suitePassed (report : Report) (suite : Suite) : Bool :=
  (report.ofSuite suite).length = suite.checks.length && (report.ofSuite suite).all Finding.passed

end Report

end Assay
