import Assay.Plan
import Mathlib

/-! Runs of a plan against its list of trials. A full run has one finding for
every trial. A plan that fails has a first failure, and a run that fails fast
goes exactly that far: it is the full run cut there. -/
namespace Assay

/-- What a finding says of the trial it comes from. The circumstances of a fault are told
in one line, from the outermost to the root. -/
inductive Finding.Reports : Suite × Check → Finding → Prop where
  | passed {suite : Suite} {check : Check} (succeeded : check.outcome = .ok ()) :
      Reports (suite, check) ⟨suite, check.name, .passed⟩
  | failed {suite : Suite} {check : Check} {fault : Fault} (faulty : check.outcome = .error fault) :
      Reports (suite, check) ⟨suite, check.name, .failed (": ".intercalate fault.messages)⟩

/-- A fault without circumstances is told as it is. -/
theorem Finding.Reports.eq_of_single {suite : Suite} {check : Check} {finding : Finding}
    {message : String} (reports : Reports (suite, check) finding)
    (faulty : check.outcome = .error ⟨[message]⟩) :
    finding = ⟨suite, check.name, .failed message⟩ := by
  cases reports with
  | passed succeeded => simp [succeeded] at faulty
  | failed other =>
    rw [faulty] at other
    cases other
    rw [String.intercalate_singleton]

namespace Check

theorem finding_passed_iff (suite : Suite) (check : Check) :
    (check.finding suite).passed = true ↔ check.outcome = .ok () := by
  unfold finding Finding.passed
  cases check.outcome with
  | ok done => simp
  | error fault => simp

theorem finding_reports (suite : Suite) (check : Check) :
    Finding.Reports (suite, check) (check.finding suite) := by
  unfold finding
  cases outcome : check.outcome with
  | ok done => exact .passed outcome
  | error fault => exact .failed outcome

end Check

namespace Plan

/-- The checks of a plan with their suites, in the order of running. -/
def trials (plan : Plan) : List (Suite × Check) :=
  plan.flatMap fun (suite, checks) => checks.map fun check => (suite, check)

/-- The findings of all trials. -/
def findings (plan : Plan) : List Finding :=
  plan.trials.map fun (suite, check) => check.finding suite

def Passes (plan : Plan) : Prop := ∀ trial ∈ plan.trials, trial.2.outcome = .ok ()

@[simp] theorem trials_nil : trials [] = [] := rfl

@[simp] theorem trials_cons (suite : Suite) (checks : List Check) (rest : Plan) :
    trials ((suite, checks) :: rest) = checks.map (fun check => (suite, check)) ++ trials rest := rfl

@[simp] theorem trials_append (first second : Plan) :
    trials (first ++ second) = trials first ++ trials second :=
  List.flatMap_append

@[simp] theorem findings_nil : findings [] = [] := rfl

@[simp] theorem findings_cons (suite : Suite) (checks : List Check) (rest : Plan) :
    findings ((suite, checks) :: rest) = checks.map (Check.finding suite) ++ findings rest := by
  simp [findings, Function.comp_def]

@[simp] theorem findings_append (first second : Plan) :
    findings (first ++ second) = findings first ++ findings second := by
  simp [findings]

@[simp] theorem length_findings (plan : Plan) : plan.findings.length = plan.trials.length :=
  List.length_map _

theorem findings_report (plan : Plan) :
    List.Forall₂ Finding.Reports plan.trials plan.findings := by
  unfold findings
  rw [List.forall₂_map_right_iff, List.forall₂_same]
  rintro ⟨suite, check⟩ _
  exact check.finding_reports suite

theorem findings_of_single {plan : Plan} {index : Nat} {suite : Suite} {check : Check}
    {message : String} (tried : plan.trials[index]? = some (suite, check))
    (faulty : check.outcome = .error ⟨[message]⟩) :
    plan.findings[index]? = some ⟨suite, check.name, .failed message⟩ := by
  have found : plan.findings[index]? = some (check.finding suite) := by
    rw [findings, List.getElem?_map, tried]
    rfl
  rw [found, (check.finding_reports suite).eq_of_single faulty]

theorem findings_all_passed_iff (plan : Plan) :
    plan.findings.all Finding.passed = true ↔ plan.Passes := by
  unfold findings Passes
  rw [List.all_map, List.all_eq_true]
  constructor
  · rintro passed ⟨suite, check⟩ member
    exact (check.finding_passed_iff suite).mp (passed _ member)
  · rintro passes ⟨suite, check⟩ member
    exact (check.finding_passed_iff suite).mpr (passes _ member)

theorem passes_iff (plan : Plan) :
    plan.Passes ↔ ∀ entry ∈ plan, ∀ check ∈ entry.2, check.outcome = .ok () := by
  unfold Passes trials
  rw [List.forall_mem_flatMap]
  simp only [List.forall_mem_map]

theorem passes_cons_iff (suite : Suite) (checks : List Check) (rest : Plan) :
    Passes ((suite, checks) :: rest) ↔
      (∀ check ∈ checks, check.outcome = .ok ()) ∧ Passes rest := by
  unfold Passes
  rw [trials_cons, List.forall_mem_append, List.forall_mem_map]

section Run

variable {suite : Suite} {checks passing skipped : List Check} {failing : Check}

theorem all_passed_of_pass (suite : Suite) (pass : ∀ check ∈ checks, check.outcome = .ok ()) :
    (checks.map (Check.finding suite)).all Finding.passed = true := by
  rw [List.all_map, List.all_eq_true]
  intro check member
  exact (check.finding_passed_iff suite).mpr (pass check member)

theorem runChecks_false (suite : Suite) (checks : List Check) :
    runChecks false suite checks = checks.map (Check.finding suite) := by
  induction checks with
  | nil => rfl
  | cons check rest ih => simp [runChecks, ih]

theorem runChecks_of_pass (failFast : Bool) (pass : ∀ check ∈ checks, check.outcome = .ok ()) :
    runChecks failFast suite checks = checks.map (Check.finding suite) := by
  induction checks with
  | nil => rfl
  | cons check rest ih =>
    obtain ⟨first, others⟩ := List.forall_mem_cons.mp pass
    have passed := (check.finding_passed_iff suite).mpr first
    simp [runChecks, passed, ih others]

theorem runChecks_of_fail (pass : ∀ check ∈ passing, check.outcome = .ok ())
    (fails : failing.outcome ≠ .ok ()) :
    runChecks true suite (passing ++ failing :: skipped) =
      passing.map (Check.finding suite) ++ [failing.finding suite] := by
  induction passing with
  | nil =>
    have failed := mt (failing.finding_passed_iff suite).mp fails
    simp [runChecks, failed]
  | cons check rest ih =>
    obtain ⟨first, others⟩ := List.forall_mem_cons.mp pass
    have passed := (check.finding_passed_iff suite).mpr first
    simp [runChecks, passed, ih others]

theorem run_false (plan : Plan) : plan.run false = ⟨plan.map Prod.fst, plan.findings⟩ := by
  induction plan with
  | nil => rfl
  | cons entry rest ih =>
    obtain ⟨suite, checks⟩ := entry
    simp [run, runChecks_false, ih]

theorem run_cons_of_pass (failFast : Bool) (rest : Plan)
    (pass : ∀ check ∈ checks, check.outcome = .ok ()) :
    run failFast ((suite, checks) :: rest) =
      ⟨suite :: (run failFast rest).suites,
        checks.map (Check.finding suite) ++ (run failFast rest).findings⟩ := by
  simp only [run, runChecks_of_pass failFast pass, all_passed_of_pass suite pass, Bool.not_true,
    Bool.and_false, Bool.false_eq_true, if_false]

theorem run_cons_of_fail (rest : Plan) (pass : ∀ check ∈ passing, check.outcome = .ok ())
    (fails : failing.outcome ≠ .ok ()) :
    run true ((suite, passing ++ failing :: skipped) :: rest) =
      ⟨[suite], passing.map (Check.finding suite) ++ [failing.finding suite]⟩ := by
  have failed := mt (failing.finding_passed_iff suite).mp fails
  simp [run, runChecks_of_fail pass fails, failed]

/-- Entries that pass do not stop a run. -/
theorem run_append_of_passes (failFast : Bool) {earlier : Plan} (passes : earlier.Passes)
    (later : Plan) :
    run failFast (earlier ++ later) =
      ⟨earlier.map Prod.fst ++ (run failFast later).suites,
        earlier.findings ++ (run failFast later).findings⟩ := by
  induction earlier with
  | nil => rfl
  | cons entry rest ih =>
    obtain ⟨suite, checks⟩ := entry
    obtain ⟨first, others⟩ := (passes_cons_iff suite checks rest).mp passes
    simp [run_cons_of_pass failFast _ first, ih others]

theorem run_of_passes (failFast : Bool) {plan : Plan} (passes : plan.Passes) :
    plan.run failFast = ⟨plan.map Prod.fst, plan.findings⟩ := by
  have whole := run_append_of_passes failFast passes []
  simpa [run] using whole

end Run

/-- A plan taken apart at its first failure: every trial before it passes. -/
structure FirstFailure where
  earlier : Plan
  suite : Suite
  passing : List Check
  failing : Check
  skipped : List Check
  later : Plan
  earlier_passes : earlier.Passes
  passing_pass : ∀ check ∈ passing, check.outcome = .ok ()
  fails : failing.outcome ≠ .ok ()

namespace FirstFailure

variable (failure : FirstFailure)

def plan : Plan :=
  failure.earlier ++
    (failure.suite, failure.passing ++ failure.failing :: failure.skipped) :: failure.later

/-- The findings before the failure. -/
def before : List Finding :=
  failure.earlier.findings ++ failure.passing.map (Check.finding failure.suite)

/-- The finding that failed. -/
def finding : Finding := failure.failing.finding failure.suite

/-- The findings that only a full run has. -/
def after : List Finding :=
  failure.skipped.map (Check.finding failure.suite) ++ failure.later.findings

theorem before_passed : ∀ finding ∈ failure.before, finding.passed = true := by
  have early := (findings_all_passed_iff failure.earlier).mpr failure.earlier_passes
  have own := all_passed_of_pass failure.suite failure.passing_pass
  have passed : failure.before.all Finding.passed = true := by
    rw [before, List.all_append, early, own, Bool.and_true]
  exact List.all_eq_true.mp passed

theorem finding_failed : failure.finding.passed = false :=
  Bool.eq_false_iff.mpr (mt (failure.failing.finding_passed_iff _).mp failure.fails)

theorem findings_plan :
    failure.plan.findings = failure.before ++ failure.finding :: failure.after := by
  simp [plan, before, finding, after]

theorem run_true_plan :
    failure.plan.run true =
      ⟨failure.earlier.map Prod.fst ++ [failure.suite], failure.before ++ [failure.finding]⟩ := by
  rw [plan, run_append_of_passes true failure.earlier_passes,
    run_cons_of_fail _ failure.passing_pass failure.fails]
  simp [before, finding]

/-- There is only one way to take the findings apart at the first failure. -/
theorem split_unique {before after : List Finding} {failed : Finding}
    (split : failure.plan.findings = before ++ failed :: after)
    (passed : ∀ finding ∈ before, finding.passed = true) (fails : failed.passed = false) :
    before = failure.before ∧ failed = failure.finding := by
  rw [findings_plan] at split
  -- Both beginnings are what comes before the first finding that is not passed.
  have same : before = failure.before := by
    have heads := congrArg (List.takeWhile Finding.passed) split
    rw [List.takeWhile_append_of_pos passed,
      List.takeWhile_append_of_pos failure.before_passed] at heads
    simpa [fails, failure.finding_failed] using heads.symm
  subst same
  have tails := List.append_cancel_left split
  exact ⟨rfl, (List.cons.inj tails).1.symm⟩

end FirstFailure

/-- A list that is not all of one kind has a first item that is not. -/
theorem exists_first_not {α : Type} {kind : α → Prop} {items : List α}
    (mixed : ¬∀ item ∈ items, kind item) :
    ∃ before item after, items = before ++ item :: after ∧
      (∀ earlier ∈ before, kind earlier) ∧ ¬kind item := by
  induction items with
  | nil => exact absurd nofun mixed
  | cons item rest ih =>
    by_cases first : kind item
    · obtain ⟨before, other, after, rfl, same, differs⟩ :=
        ih fun all => mixed (List.forall_mem_cons.mpr ⟨first, all⟩)
      exact ⟨item :: before, other, after, rfl, List.forall_mem_cons.mpr ⟨first, same⟩, differs⟩
    · exact ⟨[], item, rest, rfl, nofun, first⟩

theorem exists_firstFailure {plan : Plan} (fails : ¬plan.Passes) :
    ∃ failure : FirstFailure, plan = failure.plan := by
  rw [passes_iff] at fails
  obtain ⟨earlier, ⟨suite, checks⟩, later, rfl, passes, fails⟩ := exists_first_not fails
  obtain ⟨passing, failing, skipped, rfl, pass, fails⟩ := exists_first_not fails
  exact ⟨⟨earlier, suite, passing, failing, skipped, later,
    (passes_iff earlier).mpr passes, pass, fails⟩, rfl⟩

/-- The verdict does not depend on whether the run fails fast. -/
theorem run_passed_iff (failFast : Bool) (plan : Plan) :
    (plan.run failFast).passed = true ↔ plan.Passes := by
  by_cases passes : plan.Passes
  · rw [run_of_passes failFast passes]
    exact findings_all_passed_iff plan
  · cases failFast with
    | false =>
      rw [run_false]
      exact findings_all_passed_iff plan
    | true =>
      obtain ⟨failure, rfl⟩ := exists_firstFailure passes
      rw [failure.run_true_plan]
      simp [Report.passed, failure.finding_failed, passes]

/-- A run reports the whole of some plan, which has the same suites up to where it
stopped. -/
theorem exists_run_eq (failFast : Bool) (plan : Plan) :
    ∃ part : Plan, plan.run failFast = ⟨part.map Prod.fst, part.findings⟩ ∧
      part.map Prod.fst <+: plan.map Prod.fst := by
  cases failFast with
  | false => exact ⟨plan, run_false plan, List.prefix_refl _⟩
  | true =>
    by_cases passes : plan.Passes
    · exact ⟨plan, run_of_passes true passes, List.prefix_refl _⟩
    · obtain ⟨failure, rfl⟩ := exists_firstFailure passes
      refine ⟨failure.earlier ++ [(failure.suite, failure.passing ++ [failure.failing])], ?_, ?_⟩
      · rw [failure.run_true_plan]
        simp [FirstFailure.before, FirstFailure.finding]
      · simp [FirstFailure.plan]

/-- The first `count` entries of a plan are the fewest that hold the trial at
`index`. -/
structure Covers (plan : Plan) (index count : Nat) : Prop where
  inside : index < (trials (plan.take count)).length
  fewest : ∀ fewer < count, (trials (plan.take fewer)).length ≤ index

theorem FirstFailure.covers (failure : FirstFailure) :
    failure.plan.Covers failure.before.length (failure.earlier.length + 1) := by
  have size : failure.before.length = failure.earlier.trials.length + failure.passing.length := by
    simp [before]
  constructor
  · rw [size, plan, List.take_length_add_append]
    simp
  · intro fewer less
    have start : failure.plan.take fewer = failure.earlier.take fewer := by
      rw [plan, List.take_append_of_le_length (by omega)]
    have whole := congrArg (List.length ∘ trials) (List.take_append_drop fewer failure.earlier)
    simp only [Function.comp_apply, trials_append, List.length_append] at whole
    rw [start, size]
    omega

/-- `short` is `full` up to its first failure. The findings end with the first
one that failed, and the suites with the entry that holds its check. A report
without failures is not cut. -/
structure CutAtFailure (plan : Plan) (full short : Report) : Prop where
  whole : full.passed = true → short = full
  cut : ∀ before failed after, full.findings = before ++ failed :: after →
    (∀ finding ∈ before, finding.passed = true) → failed.passed = false →
    short.findings = before ++ [failed] ∧
      ∃ count, plan.Covers before.length count ∧ short.suites = full.suites.take count

/-- A full run reports every suite and every trial of the plan, in order, a failure with
the message of its fault; a run that fails fast is the full run cut at its first failure. -/
theorem run_cutAtFailure (plan : Plan) :
    (plan.run false).suites = plan.map Prod.fst ∧
    List.Forall₂ Finding.Reports plan.trials (plan.run false).findings ∧
    (∀ (index : Nat) (suite : Suite) (check : Check) (message : String),
      plan.trials[index]? = some (suite, check) → check.outcome = .error ⟨[message]⟩ →
      (plan.run false).findings[index]? = some ⟨suite, check.name, .failed message⟩) ∧
    CutAtFailure plan (plan.run false) (plan.run true) := by
  rw [run_false]
  refine ⟨rfl, plan.findings_report, fun _ _ _ _ => findings_of_single, ?_⟩
  by_cases passes : plan.Passes
  · refine ⟨fun _ => run_of_passes true passes, ?_⟩
    -- Without a failure there is nothing to split off.
    intro before failed after split _ fails
    have all := (findings_all_passed_iff plan).mpr passes
    have member : failed ∈ plan.findings := by
      rw [show plan.findings = before ++ failed :: after from split]
      exact List.mem_append_right before List.mem_cons_self
    have passed := List.all_eq_true.mp all failed member
    simp [fails] at passed
  · obtain ⟨failure, rfl⟩ := exists_firstFailure passes
    refine ⟨fun passed => absurd ((findings_all_passed_iff _).mp passed) passes, ?_⟩
    intro before failed after split passed fails
    obtain ⟨rfl, rfl⟩ := failure.split_unique split passed fails
    rw [failure.run_true_plan]
    refine ⟨rfl, failure.earlier.length + 1, failure.covers, ?_⟩
    have size : (failure.earlier.map Prod.fst).length = failure.earlier.length := List.length_map _
    rw [FirstFailure.plan, List.map_append, ← size, List.take_length_add_append]
    rfl

end Plan

end Assay
