import Assay.Proofs.Report.Lines

/-! The failure lines of a run. A report's text goes through its suites and shows the
findings of each, so a failure is lost when its suite is not listed and told twice
when it is listed twice. A run lists every suite it starts, once if the plan has it
once, with its findings together; so each failure is told by one line, in the order
of the findings. -/
namespace Assay

/-- The line that tells of a failed check. -/
inductive Finding.Told : Finding → String → Prop where
  | failed (suite : Suite) (check message : String) :
      Told ⟨suite, check, .failed message⟩
        ("FAIL " ++ suite.name ++ "/" ++ check ++ ": " ++ message)

/-- The lines that tell of failures. -/
def Report.failureLines (report : Report) : List String :=
  report.lines.filter fun line => line.startsWith "FAIL "

namespace Finding

theorem told_of_failureLine? {finding : Finding} {line : String}
    (shown : finding.failureLine? = some line) : finding.Told line := by
  obtain ⟨suite, check, outcome⟩ := finding
  cases outcome with
  | passed => cases shown
  | failed message =>
    cases shown
    exact .failed suite check message

theorem Told.startsWith {finding : Finding} {line : String} (told : finding.Told line) :
    line.startsWith "FAIL " = true := by
  obtain ⟨suite, check, message⟩ := told
  rw [String.startsWith_string_iff]
  simp

theorem Told.ne_of_not_startsWith {finding : Finding} {line other : String}
    (told : finding.Told line) (silent : other.startsWith "FAIL " = false) : other ≠ line := by
  rintro rfl
  rw [told.startsWith] at silent
  contradiction

theorem Told.not_passed {finding : Finding} {line : String} (told : finding.Told line) :
    finding.passed = false := by
  obtain ⟨suite, check, message⟩ := told
  rfl

/-- A suite is known from the beginning of the lines about it. -/
theorem Told.suite_eq {finding : Finding} {line : String} (told : finding.Told line) {suite : Suite}
    (start : line.startsWith ("FAIL " ++ suite.name ++ "/") = true) : finding.suite = suite := by
  obtain ⟨owner, check, message⟩ := told
  rw [String.startsWith_string_iff] at start
  cases owner <;> cases suite <;> simp [Suite.name] at start ⊢

/-- The lines of a list of findings tell of its failures, in order. -/
theorem told_filterMap (findings : List Finding) :
    List.Forall₂ Told (findings.filter fun finding => !finding.passed)
      (findings.filterMap failureLine?) := by
  induction findings with
  | nil => exact .nil
  | cons finding rest ih =>
    obtain ⟨suite, check, outcome⟩ := finding
    cases outcome with
    | passed => exact ih
    | failed message => exact .cons (.failed suite check message) ih

end Finding

namespace Report

variable {report : Report}

theorem successMessage_not_startsWith (suite : Suite) :
    suite.successMessage.startsWith "FAIL " = false := by
  rw [Bool.eq_false_iff, Ne, String.startsWith_string_iff]
  cases suite <;> decide

theorem countText_not_startsWith (count : Nat) : (countText count).startsWith "FAIL " = false := by
  rw [Bool.eq_false_iff, Ne, String.startsWith_string_iff]
  intro start
  have mark : 'F' ∈ (countText count).toList := start.subset (by decide)
  exact not_mem_countText count (by decide) (by decide) mark

theorem passed_of_suitePassed {suite : Suite} (passes : report.suitePassed suite = true) :
    ∀ finding ∈ report.ofSuite suite, finding.passed = true :=
  List.all_eq_true.mp (suitePassed_iff.mp passes).2

theorem filter_suiteLines (suite : Suite) :
    ((report.suiteLines suite).filter fun line => line.startsWith "FAIL ") =
      (report.ofSuite suite).filterMap Finding.failureLine? := by
  unfold suiteLines
  split
  · rename_i passes
    rw [Finding.filterMap_failureLine?_of_passed (passed_of_suitePassed passes)]
    simp [successMessage_not_startsWith]
  · rw [List.filter_eq_self]
    intro line member
    obtain ⟨finding, _, shown⟩ := List.mem_filterMap.mp member
    exact (Finding.told_of_failureLine? shown).startsWith

/-- The failure lines of any report go through the findings of each listed suite. -/
theorem failureLines_eq (report : Report) :
    report.failureLines =
      (report.suites.flatMap report.ofSuite).filterMap Finding.failureLine? := by
  have count : (report.countLine.filter fun line => line.startsWith "FAIL ") = [] := by
    cases verdict : report.passed with
    | true => rw [countLine_of_passed verdict, List.filter_nil]
    | false =>
      rw [countLine_of_failed verdict]
      simp [countText_not_startsWith]
  rw [failureLines, lines, List.filter_append, count, List.append_nil, List.filter_flatMap,
    List.filterMap_flatMap]
  exact List.flatMap_congr fun suite _ => filter_suiteLines suite

/-- What a line of a report can be. -/
inductive Emits (report : Report) : String → Prop where
  | success {suite : Suite} (passes : report.suitePassed suite = true) :
      Emits report suite.successMessage
  | failure {finding : Finding} {line : String} (member : finding ∈ report.findings)
      (told : finding.Told line) : Emits report line
  | count (failed : report.passed = false) : Emits report (countText report.failures.length)

theorem emits_of_mem_lines {line : String} (member : line ∈ report.lines) : report.Emits line := by
  rcases List.mem_append.mp member with body | closing
  · obtain ⟨suite, _, own⟩ := List.mem_flatMap.mp body
    unfold suiteLines at own
    split at own
    · rename_i passes
      rw [List.mem_singleton.mp own]
      exact .success passes
    · obtain ⟨finding, among, shown⟩ := List.mem_filterMap.mp own
      exact .failure (List.mem_of_mem_filter among) (Finding.told_of_failureLine? shown)
  · cases verdict : report.passed with
    | true =>
      rw [countLine_of_passed verdict] at closing
      cases closing
    | false =>
      rw [countLine_of_failed verdict] at closing
      rw [List.mem_singleton.mp closing]
      exact .count verdict

theorem countText_mem_lines {count : Nat} (member : countText count ∈ report.lines) :
    report.passed = false ∧ count = report.failures.length := by
  have emitted := emits_of_mem_lines member
  generalize same : countText count = line at emitted
  cases emitted with
  | success passes => exact absurd same.symm (successMessage_ne_countText _ count)
  | failure among told =>
    exact absurd same (told.ne_of_not_startsWith (countText_not_startsWith count))
  | count failed => exact ⟨failed, countText_injective same⟩

theorem getLast?_lines_of_failed (failed : report.passed = false) :
    report.lines.getLast? = some (countText report.failures.length) := by
  rw [lines, countLine_of_failed failed, List.getLast?_concat]

/-- Only a suite that passes has its success message among the lines. -/
theorem suitePassed_of_mem_lines {suite : Suite} (member : suite.successMessage ∈ report.lines) :
    report.suitePassed suite = true := by
  have emitted := emits_of_mem_lines member
  generalize same : suite.successMessage = line at emitted
  cases emitted with
  | @success other passes =>
    have owner : suite = other := by
      cases suite <;> cases other <;> simp [Suite.successMessage] at same ⊢
    rwa [owner]
  | failure among told =>
    exact absurd same (told.ne_of_not_startsWith (successMessage_not_startsWith suite))
  | count failed => exact absurd same (successMessage_ne_countText suite _)

/-- A suite that succeeds has no line about a failure. -/
theorem not_startsWith_of_success {suite : Suite} (success : suite.successMessage ∈ report.lines)
    {line : String} (member : line ∈ report.lines) :
    line.startsWith ("FAIL " ++ suite.name ++ "/") = false := by
  rw [Bool.eq_false_iff]
  intro start
  have shorter : line.startsWith "FAIL " = true := by
    rw [String.startsWith_string_iff] at start ⊢
    refine List.IsPrefix.trans ?_ start
    simp
  cases emits_of_mem_lines member with
  | success => simp [successMessage_not_startsWith] at shorter
  | @failure finding _ among told =>
    have owned : finding ∈ report.ofSuite suite :=
      List.mem_filter.mpr ⟨among, decide_eq_true (told.suite_eq start)⟩
    have passed := passed_of_suitePassed (suitePassed_of_mem_lines success) finding owned
    rw [told.not_passed] at passed
    contradiction
  | count => simp [countText_not_startsWith] at shorter

end Report

namespace Plan

open Report (countText)

/-- In a plan of distinct suites, the findings of each suite stand together. -/
theorem flatMap_filter_findings {plan : Plan} (distinct : (plan.map Prod.fst).Nodup) :
    ((plan.map Prod.fst).flatMap fun suite =>
      plan.findings.filter fun finding => finding.suite = suite) = plan.findings := by
  have entries : plan.findings = plan.flatMap fun entry => entry.2.map (Check.finding entry.1) := by
    simp [findings, trials, List.map_flatMap, Function.comp_def]
  rw [List.flatMap_map]
  refine Eq.trans ?_ entries.symm
  apply List.flatMap_congr
  rintro ⟨suite, checks⟩ entry
  exact filter_findings_of_mem distinct entry

/-- The suites that a run reports, taken one by one, give back its findings. -/
theorem run_grouped {plan : Plan} (distinct : (plan.map Prod.fst).Nodup) (failFast : Bool) :
    (plan.run failFast).suites.flatMap (plan.run failFast).ofSuite =
      (plan.run failFast).findings := by
  obtain ⟨part, same, start⟩ := exists_run_eq failFast plan
  rw [same]
  exact flatMap_filter_findings (distinct.sublist start.sublist)

/-- In a run of distinct suites the lines about failures tell of the failed checks,
one line each, in order. A count stands at the end just when there is a failure, and
it is the number of those lines. No suite has both a success line and a line about a
failure. -/
theorem run_failureLines (plan : Plan) (distinct : (plan.map Prod.fst).Nodup) (failFast : Bool) :
    (plan.run failFast).text = "\n".intercalate (plan.run failFast).lines ++ "\n" ∧
    List.Forall₂ Finding.Told (plan.run failFast).failures (plan.run failFast).failureLines ∧
    ((∃ count, countText count ∈ (plan.run failFast).lines) ↔
      (plan.run failFast).failures ≠ []) ∧
    (∀ count, countText count ∈ (plan.run failFast).lines →
      (plan.run failFast).lines.getLast? = some (countText count) ∧
        count = (plan.run failFast).failureLines.length) ∧
    (∀ suite : Suite, suite.successMessage ∈ (plan.run failFast).lines →
      ∀ line ∈ (plan.run failFast).lines,
        line.startsWith ("FAIL " ++ suite.name ++ "/") = false) := by
  have told : List.Forall₂ Finding.Told (plan.run failFast).failures
      (plan.run failFast).failureLines := by
    rw [Report.failureLines_eq, run_grouped distinct]
    exact Finding.told_filterMap _
  refine ⟨rfl, told, ⟨?_, ?_⟩, ?_, ?_⟩
  · rintro ⟨count, member⟩
    exact Report.failures_ne_nil_iff.mpr (Report.countText_mem_lines member).1
  · intro failures
    have failed := Report.failures_ne_nil_iff.mp failures
    exact ⟨_, List.mem_of_getLast? (Report.getLast?_lines_of_failed failed)⟩
  · intro count member
    obtain ⟨failed, rfl⟩ := Report.countText_mem_lines member
    exact ⟨Report.getLast?_lines_of_failed failed, told.length_eq⟩
  · intro suite success line member
    exact Report.not_startsWith_of_success success member

/-- A plan with failures in its first and in its last suite, told with words of other
lines; the suite between them passes. -/
def scattered : Plan :=
  [(.records, [⟨"first", .error ⟨["lost", "7 check(s) failed"]⟩⟩, ⟨"second", .ok ()⟩,
      ⟨"third", .error ⟨["All tests passed!"]⟩⟩]),
    (.arithmetic, [⟨"fourth", .ok ()⟩, ⟨"fifth", .ok ()⟩, ⟨"sixth", .ok ()⟩]),
    (.statistics, [⟨"seventh", .error ⟨["FAIL arithmetic/fourth: again"]⟩⟩])]

theorem scattered_failureLines :
    (scattered.map Prod.fst).Nodup ∧
      (scattered.run false).failureLines.length = 3 ∧
      (scattered.run false).lines.getLast? = some "3 check(s) failed" ∧
      Suite.arithmetic.successMessage ∈ (scattered.run false).lines ∧
      (∀ line ∈ (scattered.run false).lines, line.startsWith "FAIL arithmetic/" = false) ∧
      (scattered.run true).failureLines.length = 1 := by
  have distinct : (scattered.map Prod.fst).Nodup := by decide
  have complete : (scattered.run false).suitePassed .arithmetic = true := by decide
  have success : Suite.arithmetic.successMessage ∈ (scattered.run false).lines := by
    apply List.mem_append_left
    refine List.mem_flatMap.mpr ⟨.arithmetic, by decide, ?_⟩
    simp [Report.suiteLines, complete]
  obtain ⟨_, told, counted, counts, apart⟩ := run_failureLines scattered distinct false
  obtain ⟨_, first, _⟩ := run_failureLines scattered distinct true
  have size : (scattered.run false).failureLines.length = 3 := told.length_eq.symm.trans rfl
  obtain ⟨count, member⟩ := counted.mpr (by decide)
  obtain ⟨last, same⟩ := counts count member
  rw [size] at same
  refine ⟨distinct, size, ?_, success, apart .arithmetic success, first.length_eq.symm.trans rfl⟩
  rw [last, same]
  rfl

end Plan

end Assay
