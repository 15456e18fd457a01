import Assay.Proofs.Report.Verdict

/-! The suites that pass in a run. A report knows that a suite is complete only by
the number of its findings, and a run that fails fast may stop inside a suite or
before it. The findings of a suite are those of its own checks when the run gets to
it, and none otherwise. So a suite passes just when all of its checks do and no
failure before it stops the run. -/
namespace Assay

theorem Suite.checks_pos (suite : Suite) : 0 < suite.checks.length := by
  cases suite <;> decide

namespace Report

variable {report : Report} {suite : Suite}

/-- Every suite has checks, so one without findings is not complete. -/
theorem suitePassed_of_ofSuite_nil (silent : report.ofSuite suite = []) :
    report.suitePassed suite = false := by
  rw [Bool.eq_false_iff, Ne, suitePassed_iff, silent]
  rintro ⟨size, _⟩
  exact suite.checks_pos.ne size

end Report

namespace Plan

variable {suite : Suite} {checks : List Check} {plan earlier later : Plan}

/-- What is run of a suite is a beginning of its checks. -/
theorem isPrefix_runChecks (failFast : Bool) (suite : Suite) (checks : List Check) :
    runChecks failFast suite checks <+: checks.map (Check.finding suite) := by
  induction checks with
  | nil => exact List.prefix_refl _
  | cons check rest ih =>
    rw [runChecks, List.map_cons]
    split
    · exact List.prefix_append [check.finding suite] _
    · exact (List.prefix_cons_inj _).mpr ih

/-- A failure among the checks is not passed over, wherever the run of them ends. -/
theorem runChecks_all_passed_iff (failFast : Bool) (suite : Suite) (checks : List Check) :
    (runChecks failFast suite checks).all Finding.passed = true ↔
      ∀ check ∈ checks, check.outcome = .ok () := by
  induction checks with
  | nil => simp [runChecks]
  | cons check rest ih =>
    by_cases first : check.outcome = .ok ()
    · have passed := (check.finding_passed_iff suite).mpr first
      simp [runChecks, passed, first, ih]
    · have failed := mt (check.finding_passed_iff suite).mp first
      cases failFast with
      | false => simp [runChecks, failed, first]
      | true => simp [runChecks, failed, first]

theorem ofSuite_run_of_not_mem_suites {failFast : Bool}
    (absent : suite ∉ (plan.run failFast).suites) : (plan.run failFast).ofSuite suite = [] := by
  obtain ⟨part, same, _⟩ := exists_run_eq failFast plan
  rw [same] at absent ⊢
  exact filter_findings_of_not_mem absent

theorem ofSuite_run_of_not_mem (failFast : Bool) (absent : suite ∉ plan.map Prod.fst) :
    (plan.run failFast).ofSuite suite = [] := by
  apply ofSuite_run_of_not_mem_suites
  obtain ⟨part, same, start⟩ := exists_run_eq failFast plan
  rw [same]
  exact mt (fun member => start.subset member) absent

/-- The findings of the first suite are those of its checks, whether or not the run
stops there. -/
theorem ofSuite_run_cons (failFast : Bool) (absent : suite ∉ later.map Prod.fst) :
    (run failFast ((suite, checks) :: later)).ofSuite suite = runChecks failFast suite checks := by
  have own := filter_of_subset_findings (isPrefix_runChecks failFast suite checks).subset
  have others := ofSuite_run_of_not_mem failFast absent
  unfold Report.ofSuite at others ⊢
  rw [run]
  split
  · exact own
  · rw [List.filter_append, own, others, List.append_nil]

theorem findings_run_append {failFast : Bool} (reached : failFast = true → earlier.Passes)
    (later : Plan) :
    (run failFast (earlier ++ later)).findings =
      earlier.findings ++ (run failFast later).findings := by
  cases failFast with
  | false => simp [run_false]
  | true => rw [run_append_of_passes true (reached rfl)]

/-- A run that fails fast does not get past entries with a failure. -/
theorem run_append_of_fails (fails : ¬earlier.Passes) (later : Plan) :
    run true (earlier ++ later) = run true earlier := by
  obtain ⟨failure, rfl⟩ := exists_firstFailure fails
  have longer : failure.plan ++ later =
      FirstFailure.plan { failure with later := failure.later ++ later } := by
    simp [FirstFailure.plan]
  rw [longer, FirstFailure.run_true_plan, FirstFailure.run_true_plan]
  rfl

section Split

variable {failFast : Bool} (distinct : ((earlier ++ (suite, checks) :: later).map Prod.fst).Nodup)
include distinct

theorem ofSuite_run_of_reached (reached : failFast = true → earlier.Passes) :
    (run failFast (earlier ++ (suite, checks) :: later)).ofSuite suite =
      runChecks failFast suite checks := by
  obtain ⟨not_earlier, not_later⟩ := not_mem_of_distinct distinct
  rw [Report.ofSuite, findings_run_append reached, List.filter_append,
    filter_findings_of_not_mem not_earlier, List.nil_append]
  exact ofSuite_run_cons failFast not_later

theorem ofSuite_run_of_stopped (fails : ¬earlier.Passes) :
    (run true (earlier ++ (suite, checks) :: later)).ofSuite suite = [] := by
  rw [run_append_of_fails fails]
  exact ofSuite_run_of_not_mem true (not_mem_of_distinct distinct).1

/-- A suite with as many checks as it should have passes when they do and the run
gets to it. -/
theorem suitePassed_run_iff (size : checks.length = suite.checks.length) :
    (run failFast (earlier ++ (suite, checks) :: later)).suitePassed suite = true ↔
      (∀ check ∈ checks, check.outcome = .ok ()) ∧ (failFast = true → earlier.Passes) := by
  by_cases reached : failFast = true → earlier.Passes
  · rw [Report.suitePassed_iff, ofSuite_run_of_reached distinct reached, runChecks_all_passed_iff]
    constructor
    · rintro ⟨_, pass⟩
      exact ⟨pass, reached⟩
    · rintro ⟨pass, _⟩
      refine ⟨?_, pass⟩
      rw [runChecks_of_pass failFast pass, List.length_map, size]
  · -- Behind a failure the suite has no findings, and their number gives it away.
    obtain ⟨rfl, fails⟩ := Classical.not_imp.mp reached
    rw [Report.suitePassed_of_ofSuite_nil (ofSuite_run_of_stopped distinct fails)]
    simp [fails]

end Split

theorem suitePassed_run_iff_split (complete : plan.Complete) (failFast : Bool) (suite : Suite) :
    (plan.run failFast).suitePassed suite = true ↔
      ∃ (earlier : Plan) (checks : List Check) (later : Plan),
        plan = earlier ++ (suite, checks) :: later ∧
        (∀ check ∈ checks, check.outcome = .ok ()) ∧ (failFast = true → earlier.Passes) := by
  constructor
  · intro passes
    have member : suite ∈ plan.map Prod.fst := by
      by_contra absent
      rw [Report.suitePassed_of_ofSuite_nil (ofSuite_run_of_not_mem failFast absent)] at passes
      contradiction
    obtain ⟨⟨suite, checks⟩, entry, rfl⟩ := List.mem_map.mp member
    obtain ⟨earlier, later, rfl⟩ := List.append_of_mem entry
    have size := complete.size (suite, checks) entry
    exact ⟨earlier, checks, later, rfl, (suitePassed_run_iff complete.distinct size).mp passes⟩
  · rintro ⟨earlier, checks, later, rfl, pass⟩
    have size := complete.size (suite, checks) (by simp)
    exact (suitePassed_run_iff complete.distinct size).mpr pass

theorem suitePassed_run_false (complete : plan.Complete)
    (fast : (plan.run true).suitePassed suite = true) :
    (plan.run false).suitePassed suite = true := by
  obtain ⟨earlier, checks, later, split, pass, _⟩ :=
    (suitePassed_run_iff_split complete true suite).mp fast
  exact (suitePassed_run_iff_split complete false suite).mpr
    ⟨earlier, checks, later, split, pass, nofun⟩

/-- A suite passes in the run of a complete plan just when the plan has it, all of
its checks pass and, failing fast, so do all checks of the suites before it. A suite
that a fast run leaves out or cuts short does not pass, and one that passes in a fast
run passes in the full run. -/
theorem run_suitePassed (plan : Plan) (complete : plan.Complete) (failFast : Bool) (suite : Suite) :
    ((plan.run failFast).suitePassed suite = true ↔
      ∃ earlier checks later, plan = earlier ++ (suite, checks) :: later ∧
        (∀ check ∈ checks, check.outcome = .ok ()) ∧
        (failFast = true → ∀ entry ∈ earlier, ∀ check ∈ entry.2, check.outcome = .ok ())) ∧
    (suite ∉ (plan.run true).suites → (plan.run true).suitePassed suite = false) ∧
    (((plan.run true).ofSuite suite).length < ((plan.run false).ofSuite suite).length →
      (plan.run true).suitePassed suite = false) ∧
    ((plan.run true).suitePassed suite = true → (plan.run false).suitePassed suite = true) := by
  refine ⟨?_, ?_, ?_, suitePassed_run_false complete⟩
  · simpa only [passes_iff] using suitePassed_run_iff_split complete failFast suite
  · intro skipped
    exact Report.suitePassed_of_ofSuite_nil (ofSuite_run_of_not_mem_suites skipped)
  · intro shorter
    rw [Bool.eq_false_iff]
    intro fast
    have part := (Report.suitePassed_iff.mp fast).1
    have whole := (Report.suitePassed_iff.mp (suitePassed_run_false complete fast)).1
    omega

/-- A complete plan that fails in the middle of its second suite; the third would
pass. -/
def stalled : Plan :=
  [(.statistics, [⟨"first", .ok ()⟩, ⟨"second", .ok ()⟩]),
    (.arithmetic, [⟨"third", .ok ()⟩, ⟨"fourth", .error ⟨["stuck"]⟩⟩, ⟨"fifth", .ok ()⟩]),
    (.records, [⟨"sixth", .ok ()⟩, ⟨"seventh", .ok ()⟩, ⟨"eighth", .ok ()⟩])]

theorem stalled_suitePassed :
    stalled.Complete ∧ (stalled.run true).suitePassed .statistics = true ∧
      (stalled.run false).suitePassed .statistics = true ∧
      (stalled.run true).suitePassed .arithmetic = false ∧
      (stalled.run true).suitePassed .records = false ∧
      (stalled.run false).suitePassed .records = true := by
  have complete : stalled.Complete := ⟨by decide, by decide⟩
  obtain ⟨first, _, _, slower⟩ := run_suitePassed stalled complete true .statistics
  obtain ⟨_, _, cut, _⟩ := run_suitePassed stalled complete true .arithmetic
  obtain ⟨_, skipped, _, _⟩ := run_suitePassed stalled complete true .records
  obtain ⟨last, _, _, _⟩ := run_suitePassed stalled complete false .records
  have passes := first.mpr ⟨[], _, stalled.tail, rfl, by simp, by simp⟩
  exact ⟨complete, passes, slower passes, cut (by decide), skipped (by decide),
    last.mpr ⟨stalled.take 2, _, [], rfl, by simp, by simp⟩⟩

end Plan

end Assay
