import Assay.CommandLine.Execute
import Assay.Proofs.Plan.Truncation

/-! The verdict of a run and the text of its report. When every trial of a plan
passes, each suite has all of its findings and the text is the list of success
messages. When one fails, the text closes with the number of failures, and no
message can make that line look like a success. -/
namespace Assay

namespace Plan

variable {suite : Suite} {plan : Plan}

theorem suite_mem_of_mem_findings {finding : Finding} (member : finding ∈ plan.findings) :
    finding.suite ∈ plan.map Prod.fst := by
  obtain ⟨⟨suite, check⟩, among, rfl⟩ := List.mem_map.mp member
  obtain ⟨⟨owner, checks⟩, entry, held⟩ := List.mem_flatMap.mp among
  obtain ⟨_, _, same⟩ := List.mem_map.mp held
  cases same
  exact List.mem_map_of_mem entry

theorem filter_findings_of_not_mem (absent : suite ∉ plan.map Prod.fst) :
    plan.findings.filter (fun finding => finding.suite = suite) = [] := by
  rw [List.filter_eq_nil_iff]
  intro finding member same
  have owner := suite_mem_of_mem_findings member
  rw [of_decide_eq_true same] at owner
  exact absent owner

theorem not_mem_of_distinct {earlier later : Plan} {checks : List Check}
    (distinct : ((earlier ++ (suite, checks) :: later).map Prod.fst).Nodup) :
    suite ∉ earlier.map Prod.fst ∧ suite ∉ later.map Prod.fst := by
  rw [List.map_append, List.map_cons, List.nodup_middle, List.nodup_cons, List.mem_append,
    not_or] at distinct
  exact distinct.1

/-- Findings of the checks of a suite all belong to it. -/
theorem filter_of_subset_findings {checks : List Check} {findings : List Finding}
    (own : findings ⊆ checks.map (Check.finding suite)) :
    findings.filter (fun finding => finding.suite = suite) = findings := by
  rw [List.filter_eq_self]
  intro finding member
  obtain ⟨check, _, rfl⟩ := List.mem_map.mp (own member)
  exact decide_eq_true rfl

/-- Among distinct suites, the findings of a suite are those of its entry. -/
theorem filter_findings_of_mem (distinct : (plan.map Prod.fst).Nodup) {checks : List Check}
    (entry : (suite, checks) ∈ plan) :
    plan.findings.filter (fun finding => finding.suite = suite) =
      checks.map (Check.finding suite) := by
  obtain ⟨before, after, rfl⟩ := List.append_of_mem entry
  obtain ⟨not_before, not_after⟩ := not_mem_of_distinct distinct
  rw [findings_append, findings_cons, List.filter_append, List.filter_append,
    filter_findings_of_not_mem not_before, filter_findings_of_not_mem not_after,
    filter_of_subset_findings (List.Subset.refl _), List.nil_append, List.append_nil]

end Plan

namespace Finding

theorem failureLine?_eq_none_iff (finding : Finding) :
    finding.failureLine? = none ↔ finding.passed = true := by
  unfold failureLine? Finding.passed
  cases finding.outcome with
  | passed => simp
  | failed message => simp

theorem filterMap_failureLine?_of_passed {findings : List Finding}
    (passed : ∀ finding ∈ findings, finding.passed = true) :
    findings.filterMap failureLine? = [] := by
  rw [List.filterMap_eq_nil_iff]
  intro finding member
  exact (failureLine?_eq_none_iff finding).mpr (passed finding member)

end Finding

namespace Report

variable {report : Report}

/-- The text of a run in which all of the suites pass. -/
def successText (suites : List Suite) : String :=
  "\n".intercalate (suites.map Suite.successMessage) ++ "\n"

theorem suitePassed_iff {suite : Suite} :
    report.suitePassed suite = true ↔
      (report.ofSuite suite).length = suite.checks.length ∧
        (report.ofSuite suite).all Finding.passed = true := by
  simp [suitePassed]

theorem failures_eq_nil_iff : report.failures = [] ↔ report.passed = true := by
  unfold failures passed
  rw [List.filter_eq_nil_iff, List.all_eq_true]
  simp

theorem failures_ne_nil_iff : report.failures ≠ [] ↔ report.passed = false := by
  rw [Ne, failures_eq_nil_iff, Bool.not_eq_true]

/-- The line that counts failures. -/
def countText (count : Nat) : String := toString count ++ " check(s) failed"

theorem countLine_of_passed (passed : report.passed = true) : report.countLine = [] := by
  simp [countLine, failures_eq_nil_iff.mpr passed]

theorem countLine_of_failed (failed : report.passed = false) :
    report.countLine = [countText report.failures.length] := by
  have nonempty := failures_ne_nil_iff.mpr failed
  have numeral (count : Nat) : Decimal.intString count = toString count := rfl
  simp [countLine, nonempty, countText, numeral]

/-- Without failures, only the suites that pass have a line. -/
theorem lines_of_passed (passed : report.passed = true) :
    report.lines = (report.suites.filter report.suitePassed).map Suite.successMessage := by
  have silent (suite : Suite) : (report.ofSuite suite).filterMap Finding.failureLine? = [] :=
    Finding.filterMap_failureLine?_of_passed fun finding member =>
      List.all_eq_true.mp passed finding (List.mem_of_mem_filter member)
  rw [lines, countLine_of_passed passed, List.append_nil]
  induction report.suites with
  | nil => rfl
  | cons suite rest ih =>
    rw [List.flatMap_cons, ih]
    by_cases complete : report.suitePassed suite = true
    · simp [suiteLines, complete]
    · simp [suiteLines, complete, silent]

theorem text_of_suites_passed (passed : report.passed = true)
    (complete : ∀ suite ∈ report.suites, report.suitePassed suite = true) :
    report.text = successText report.suites := by
  rw [text, lines_of_passed passed, List.filter_eq_self.mpr complete, successText]

/-- The character before the line break that ends a text. -/
def lastMark (text : String) : Option Char := text.toList.dropLast.getLast?

theorem lastMark_lines (lines : List String) {last : String} {mark : Char}
    (ending : last.toList.getLast? = some mark) :
    lastMark ("\n".intercalate (lines ++ [last]) ++ "\n") = some mark := by
  have closing : ∃ start, "\n".intercalate (lines ++ [last]) = start ++ last := by
    by_cases none : lines = []
    · exact ⟨"", by simp [none]⟩
    · exact ⟨_, String.intercalate_append_of_ne_nil none (by simp)⟩
  obtain ⟨start, joined⟩ := closing
  simp [lastMark, joined, ending]

theorem lastMark_of_failed (failed : report.passed = false) : lastMark report.text = some 'd' := by
  rw [text, lines, countLine_of_failed failed]
  apply lastMark_lines
  simp [countText]

theorem lastMark_successText (suites : List Suite) :
    lastMark (successText suites) = none ∨ lastMark (successText suites) = some '!' := by
  rcases List.eq_nil_or_concat suites with rfl | ⟨others, last, rfl⟩
  · exact .inl rfl
  · right
    rw [successText, List.concat_eq_append, List.map_append]
    apply lastMark_lines
    cases last <;> rfl

/-- Whatever its messages say, a report with a failure does not read as a list
of successes. -/
theorem text_ne_successText (failed : report.passed = false) (suites : List Suite) :
    report.text ≠ successText suites := by
  intro same
  -- The messages can hold any lines, so only the end of the text tells the two apart.
  have mark := lastMark_of_failed failed
  rw [same] at mark
  rcases lastMark_successText suites with empty | success
  · simp [empty] at mark
  · simp [success] at mark

end Report

namespace Plan

open CommandLine (exitCode printed)

/-- No suite has two entries, and each has as many checks as it should. -/
structure Complete (plan : Plan) : Prop where
  distinct : (plan.map Prod.fst).Nodup
  size : ∀ entry ∈ plan, entry.2.length = entry.1.checks.length

theorem suitePassed_of_passes {plan : Plan} (complete : plan.Complete) (passes : plan.Passes)
    {suite : Suite} (member : suite ∈ plan.map Prod.fst) :
    (⟨plan.map Prod.fst, plan.findings⟩ : Report).suitePassed suite = true := by
  obtain ⟨⟨suite, checks⟩, entry, rfl⟩ := List.mem_map.mp member
  have own := filter_findings_of_mem complete.distinct entry
  have pass := (passes_iff plan).mp passes (suite, checks) entry
  rw [Report.suitePassed_iff, Report.ofSuite, own, List.length_map]
  exact ⟨complete.size (suite, checks) entry, all_passed_of_pass suite pass⟩

theorem text_eq_successText_iff {plan : Plan} (complete : plan.Complete) (failFast : Bool) :
    (plan.run failFast).text = Report.successText (plan.map Prod.fst) ↔ plan.Passes := by
  constructor
  · intro same
    by_contra fails
    have failed := Bool.eq_false_iff.mpr (mt (run_passed_iff failFast plan).mp fails)
    exact Report.text_ne_successText failed _ same
  · intro passes
    have passed := (run_passed_iff failFast plan).mpr passes
    rw [run_of_passes failFast passes] at passed ⊢
    exact Report.text_of_suites_passed passed fun _ => suitePassed_of_passes complete passes

theorem exitCode_eq_zero_iff (report : Report) : exitCode report = 0 ↔ report.passed = true := by
  unfold exitCode
  split
  · simp [*]
  · simp [*]

/-- The verdict, the trials and the text of a complete plan agree, whether or
not the run fails fast: the exit code is 0 when every trial passes, and then and
only then the text is the list of all success messages. -/
theorem run_verdict (plan : Plan) (complete : plan.Complete) (failFast : Bool) :
    ((plan.run failFast).passed = true ↔
      ∀ entry ∈ plan, ∀ check ∈ entry.2, check.outcome = .ok ()) ∧
    ((plan.run failFast).passed = true ↔
      (plan.run failFast).text = Report.successText (plan.map Prod.fst)) ∧
    exitCode (plan.run failFast) = exitCode (plan.run !failFast) ∧
    (exitCode (plan.run failFast) = 0 ↔
      printed false (plan.run failFast) = Report.successText (plan.map Prod.fst)) := by
  have verdict := run_passed_iff failFast plan
  have text := verdict.trans (text_eq_successText_iff complete failFast).symm
  refine ⟨verdict.trans (passes_iff plan), text, ?_, (exitCode_eq_zero_iff _).trans text⟩
  have same : (plan.run failFast).passed = (plan.run !failFast).passed :=
    Bool.eq_iff_iff.mpr (verdict.trans (run_passed_iff (!failFast) plan).symm)
  rw [exitCode, exitCode, same]

/-- A plan whose failure is told with the text of a success. -/
def imitation : Plan :=
  [(.statistics, [⟨"first", .ok ()⟩, ⟨"second", .error ⟨["\nAll class method tests passed!\n"]⟩⟩]),
    (.arithmetic, [⟨"third", .ok ()⟩, ⟨"fourth", .ok ()⟩, ⟨"fifth", .ok ()⟩])]

theorem imitation_verdict :
    imitation.Complete ∧ exitCode (imitation.run true) = 1 ∧ exitCode (imitation.run false) = 1 ∧
      (imitation.run true).text ≠ Report.successText [.statistics, .arithmetic] := by
  have complete : imitation.Complete := ⟨by decide, by decide⟩
  obtain ⟨_, text, codes, _⟩ := run_verdict imitation complete true
  have code : exitCode (imitation.run true) = 1 := rfl
  refine ⟨complete, code, codes.symm.trans code, ?_⟩
  exact mt text.mpr (by decide)

end Plan

end Assay
