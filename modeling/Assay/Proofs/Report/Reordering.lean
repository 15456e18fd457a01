import Assay.Proofs.Report.Lines

/-! Plans with the same entries in another order. A full run reports the same findings
for both, so the verdicts agree and the text has the same lines, up to their order. Runs
that fail fast may stop at different failures. Their verdicts still agree, and each
holds one failure at most, at its end. -/
namespace Assay

namespace Report

/-- Reports with the same suites and the same findings, each in some order. -/
structure Reordered (first second : Report) : Prop where
  suites : first.suites.Perm second.suites
  findings : first.findings.Perm second.findings

namespace Reordered

variable {first second : Report} (reordered : Reordered first second)
include reordered

theorem ofSuite (suite : Suite) : (first.ofSuite suite).Perm (second.ofSuite suite) :=
  reordered.findings.filter _

theorem suitePassed (suite : Suite) : first.suitePassed suite = second.suitePassed suite := by
  have same := reordered.ofSuite suite
  rw [Report.suitePassed, Report.suitePassed, same.length_eq, same.all_eq]

theorem passed : first.passed = second.passed := reordered.findings.all_eq

theorem failures : first.failures.Perm second.failures := reordered.findings.filter _

theorem suiteLines (suite : Suite) : (first.suiteLines suite).Perm (second.suiteLines suite) := by
  unfold Report.suiteLines
  rw [reordered.suitePassed suite]
  split
  · exact .refl _
  · exact (reordered.ofSuite suite).filterMap _

theorem lines : first.lines.Perm second.lines := by
  have count : first.countLine = second.countLine := by
    rw [countLine, countLine, reordered.failures.length_eq]
  rw [Report.lines, Report.lines, count]
  exact (reordered.suites.flatMap fun suite _ => reordered.suiteLines suite).append_right _

theorem shownLines : (shownLines first.text).Perm (Report.shownLines second.text) := by
  have same := reordered.lines
  rw [text, text]
  by_cases silent : first.lines = []
  · -- Without lines the text is the same line break for both.
    rw [silent] at same
    rw [silent, List.nil_perm.mp same]
  · have other : second.lines ≠ [] := fun none => silent (List.perm_nil.mp (none ▸ same))
    rw [shownLines_intercalate silent, shownLines_intercalate other]
    exact same.flatMap_right _

end Reordered

/-- At most one check has failed, and it is the last one. -/
structure StopsAtFailure (report : Report) : Prop where
  single : report.failures.length ≤ 1
  last : ∀ failed ∈ report.failures, report.findings.getLast? = some failed

end Report

namespace Plan

variable {plan other : Plan}

theorem reordered_run (perm : plan.Perm other) :
    Report.Reordered (plan.run false) (other.run false) := by
  rw [run_false, run_false]
  exact ⟨perm.map _, (perm.flatMap_right _).map _⟩

theorem passes_perm_iff (perm : plan.Perm other) : plan.Passes ↔ other.Passes := by
  simp only [passes_iff, perm.mem_iff]

theorem stopsAtFailure_run (plan : Plan) : (plan.run true).StopsAtFailure := by
  by_cases passes : plan.Passes
  · have none := Report.failures_eq_nil_iff.mpr ((run_passed_iff true plan).mpr passes)
    constructor
    · simp [none]
    · simp [none]
  · obtain ⟨failure, rfl⟩ := exists_firstFailure passes
    have before : failure.before.filter (fun finding => !finding.passed) = [] := by
      rw [List.filter_eq_nil_iff]
      intro finding member
      simp [failure.before_passed finding member]
    have only : (failure.plan.run true).failures = [failure.finding] := by
      rw [failure.run_true_plan, Report.failures, List.filter_append, before]
      simp [failure.finding_failed]
    constructor
    · simp [only]
    · intro failed member
      rw [only] at member
      rw [List.mem_singleton.mp member, failure.run_true_plan, List.getLast?_concat]

/-- Full runs of a plan and of its entries in another order have the same findings,
verdicts and lines, up to order; the lines are counted as the report writes them and as
a reader sees them. Runs that fail fast have the same verdict, and neither has a failure
but at its end. -/
theorem run_perm (plan other : Plan) (perm : plan.Perm other) :
    ((plan.run false).findings.Perm (other.run false).findings ∧
      (∀ suite, (plan.run false).suitePassed suite = (other.run false).suitePassed suite) ∧
      (plan.run false).passed = (other.run false).passed ∧
      (plan.run false).failures.length = (other.run false).failures.length ∧
      (plan.run false).lines.Perm (other.run false).lines ∧
      (Report.shownLines (plan.run false).text).Perm
        (Report.shownLines (other.run false).text)) ∧
    (plan.run true).passed = (other.run true).passed ∧
    (plan.run true).StopsAtFailure ∧ (other.run true).StopsAtFailure := by
  have reordered := reordered_run perm
  refine ⟨⟨reordered.findings, reordered.suitePassed, reordered.passed,
    reordered.failures.length_eq, reordered.lines, reordered.shownLines⟩, ?_,
    stopsAtFailure_run plan, stopsAtFailure_run other⟩
  rw [Bool.eq_iff_iff, run_passed_iff, run_passed_iff]
  exact passes_perm_iff perm

/-- A plan that has a suite twice, one check at a time. Two other suites fail, one of them
with a message of two lines. -/
def interleaved : Plan :=
  [(.statistics, [⟨"first", .ok ()⟩]),
    (.records, [⟨"second", .error ⟨["lost", "one\nAll tests passed!"]⟩⟩, ⟨"third", .ok ()⟩]),
    (.statistics, [⟨"fourth", .ok ()⟩]),
    (.arithmetic, [⟨"fifth", .error ⟨["two"]⟩⟩])]

/-- The same entries from the last to the first. -/
def turned : Plan := interleaved.reverse

theorem interleaved_perm :
    interleaved.Perm turned ∧ (turned.run false).suitePassed .statistics = true ∧
      (turned.run false).failures.length = 2 ∧
      (Report.shownLines (interleaved.run false).text).Perm
        (Report.shownLines (turned.run false).text) ∧
      (turned.run true).passed = false ∧
      (interleaved.run true).findings.length ≠ (turned.run true).findings.length := by
  have perm : interleaved.Perm turned := (List.reverse_perm _).symm
  obtain ⟨⟨_, suites, _, failures, _, shown⟩, verdict, _⟩ := run_perm interleaved turned perm
  have passes : (interleaved.run false).suitePassed .statistics = true := by decide
  have fails : (interleaved.run true).passed = false := by decide
  exact ⟨perm, (suites .statistics).symm.trans passes, failures.symm.trans rfl, shown,
    verdict.symm.trans fails, by decide⟩

end Plan

end Assay
