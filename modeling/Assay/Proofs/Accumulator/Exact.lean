import Assay.Accumulator
import Mathlib

/-! Runs of an accumulator over a machine integer format, against exact integers.
A step fails just when the format cannot hold the exact result, and then changes
nothing. A run therefore holds the exact value of the steps that succeeded, and
when all of them did, that value is affine in the first one. -/
namespace Assay

/-- The integers of a format: two's complement when signed, plain binary when not. -/
def IntFormat.Holds (format : IntFormat) (n : Int) : Prop :=
  if format.signed then -2 ^ (format.bits - 1) ≤ n ∧ n < 2 ^ (format.bits - 1)
  else 0 ≤ n ∧ n < 2 ^ format.bits

theorem IntFormat.holds_iff (format : IntFormat) (n : Int) :
    format.Holds n ↔ format.least ≤ n ∧ n ≤ format.greatest := by
  have power (k : Nat) : ((Nat.pow 2 k : Nat) : Int) = 2 ^ k := Int.natCast_pow 2 k
  unfold Holds least greatest
  cases format.signed with
  | true =>
    simp only [if_true, power]
    omega
  | false =>
    simp only [Bool.false_eq_true, if_false, power]
    omega

namespace Accumulator

variable {format : IntFormat}

/-- The result of a step on an unbounded integer. -/
def Step.exact : Step format.Value → Int → Int
  | .add x, n => n + x.val
  | .multiply x, n => n * x.val

/-- The overflow that a step can cause. -/
def Step.overflow : Step format.Value → Overflow
  | .add _ => .add
  | .multiply _ => .multiply

theorem compute_eq_checked (value : format.Value) (step : Step format.Value) :
    step.compute value = BoundedInt.checked step.overflow (step.exact value.val) := by
  cases step with
  | add x => rfl
  | multiply x => rfl

/-- What a step can come to: its result, with the accumulator after it. -/
inductive Takes (accumulator : Accumulator format.Value) (step : Step format.Value) :
    Except Overflow format.Value → Accumulator format.Value → Prop where
  | exact {result : format.Value} (held : format.Holds (step.exact accumulator.value.val))
      (value : result.val = step.exact accumulator.value.val) :
      Takes accumulator step (.ok result) ⟨result⟩
  | overflow (outside : ¬format.Holds (step.exact accumulator.value.val)) :
      Takes accumulator step (.error step.overflow) accumulator

theorem takes_apply (accumulator : Accumulator format.Value) (step : Step format.Value) :
    Takes accumulator step (accumulator.apply step) (accumulator.advance step) := by
  rw [apply, advance, run_perform, compute_eq_checked, BoundedInt.checked]
  cases found : BoundedInt.ofInt? (step.exact accumulator.value.val) with
  | some result =>
    have value := BoundedInt.ofInt?_eq_some_iff.mp found
    refine .exact ?_ value
    rw [IntFormat.holds_iff, ← value]
    exact ⟨result.lo_le, result.le_hi⟩
  | none =>
    refine .overflow ?_
    rw [IntFormat.holds_iff]
    exact BoundedInt.ofInt?_eq_none_iff.mp found

theorem apply_fails_iff (accumulator : Accumulator format.Value) (step : Step format.Value) :
    (∃ overflow, accumulator.apply step = .error overflow) ↔
      ¬format.Holds (step.exact accumulator.value.val) := by
  have outcome := takes_apply accumulator step
  generalize accumulator.apply step = result at outcome
  generalize accumulator.advance step = after at outcome
  cases outcome with
  | exact held => simp [held]
  | overflow outside => simp [outside]

theorem advance_of_error {accumulator : Accumulator format.Value} {step : Step format.Value}
    {overflow : Overflow} (failed : accumulator.apply step = .error overflow) :
    accumulator.advance step = accumulator := by
  have outcome := takes_apply accumulator step
  rw [failed] at outcome
  generalize accumulator.advance step = after at outcome ⊢
  cases outcome with
  | overflow outside => rfl

theorem advance_of_ok {accumulator : Accumulator format.Value} {step : Step format.Value}
    {result : format.Value} (succeeded : accumulator.apply step = .ok result) :
    accumulator.advance step = ⟨result⟩ ∧ result.val = step.exact accumulator.value.val := by
  have outcome := takes_apply accumulator step
  rw [succeeded] at outcome
  generalize accumulator.advance step = after at outcome ⊢
  cases outcome with
  | exact held value => exact ⟨rfl, value⟩

/-- The steps of a run that succeed. -/
def accepted (accumulator : Accumulator format.Value) :
    List (Step format.Value) → List (Step format.Value)
  | [] => []
  | step :: rest =>
    match accumulator.apply step with
    | .ok _ => step :: (accumulator.advance step).accepted rest
    | .error _ => (accumulator.advance step).accepted rest

/-- The value of a list of steps on an unbounded integer. -/
def evaluate (n : Int) (steps : List (Step format.Value)) : Int :=
  steps.foldl (fun value step => step.exact value) n

def Step.multiplier? : Step format.Value → Option Int
  | .add _ => none
  | .multiply x => some x.val

/-- The product of all multipliers. -/
def factor (steps : List (Step format.Value)) : Int := (steps.filterMap Step.multiplier?).prod

/-- The sum of the addends, each times the product of the multipliers after it. -/
def offset : List (Step format.Value) → Int
  | [] => 0
  | .add x :: later => x.val * factor later + offset later
  | .multiply _ :: later => offset later

theorem evaluate_eq_affine (n : Int) (steps : List (Step format.Value)) :
    evaluate n steps = n * factor steps + offset steps := by
  induction steps generalizing n with
  | nil => simp [evaluate, factor, offset]
  | cons step later ih =>
    have first : evaluate n (step :: later) = evaluate (step.exact n) later := rfl
    rw [first, ih]
    cases step with
    | add x =>
      have same : factor (.add x :: later) = factor later := rfl
      rw [same, offset, Step.exact]
      ring
    | multiply x =>
      have scaled : factor (.multiply x :: later) = x.val * factor later := List.prod_cons
      rw [scaled, offset, Step.exact]
      ring

theorem run_eq_evaluate_accepted (accumulator : Accumulator format.Value)
    (steps : List (Step format.Value)) :
    (accumulator.run steps).value.val =
      evaluate accumulator.value.val (accumulator.accepted steps) := by
  induction steps generalizing accumulator with
  | nil => rfl
  | cons step later ih =>
    have first : accumulator.run (step :: later) = (accumulator.advance step).run later := rfl
    rw [first, accepted]
    cases outcome : accumulator.apply step with
    | ok result =>
      obtain ⟨after, value⟩ := advance_of_ok outcome
      rw [ih, after, value]
      rfl
    | error overflow => rw [ih, advance_of_error outcome]

/-- No step of the run fails at the moment it is taken. -/
def Smooth (accumulator : Accumulator format.Value) (steps : List (Step format.Value)) : Prop :=
  ∀ before step after, steps = before ++ step :: after →
    ∃ result, (accumulator.run before).apply step = .ok result

theorem Smooth.accepted_eq {accumulator : Accumulator format.Value}
    {steps : List (Step format.Value)} (smooth : accumulator.Smooth steps) :
    accumulator.accepted steps = steps := by
  induction steps generalizing accumulator with
  | nil => rfl
  | cons step later ih =>
    obtain ⟨result, first⟩ : ∃ result, accumulator.apply step = .ok result :=
      smooth [] step later rfl
    have rest : (accumulator.advance step).Smooth later := by
      intro before other after split
      exact smooth (step :: before) other after (by rw [split, List.cons_append])
    simp only [accepted, first, ih rest]

/-- A step fails just when the format cannot hold its exact result, and then changes
nothing; otherwise that result is returned and kept. After any run the value is in
the format and is the exact value of the steps that succeeded; when none failed, it
is the first value times all multipliers plus each addend times the multipliers
after it. -/
theorem run_exact (initial : format.Value) (steps : List (Step format.Value)) :
    (∀ (accumulator : Accumulator format.Value) (step : Step format.Value),
      ((∃ overflow, accumulator.apply step = .error overflow) ↔
        ¬format.Holds (step.exact accumulator.value.val)) ∧
      (∀ overflow, accumulator.apply step = .error overflow →
        accumulator.advance step = accumulator) ∧
      (∀ result, accumulator.apply step = .ok result →
        accumulator.advance step = ⟨result⟩ ∧
          result.val = step.exact accumulator.value.val)) ∧
    format.Holds (run ⟨initial⟩ steps).value.val ∧
    (run ⟨initial⟩ steps).value.val = evaluate initial.val (accepted ⟨initial⟩ steps) ∧
    (Smooth ⟨initial⟩ steps →
      (run ⟨initial⟩ steps).value.val = initial.val * factor steps + offset steps) := by
  refine ⟨?_, ?_, run_eq_evaluate_accepted _ steps, ?_⟩
  · intro accumulator step
    refine ⟨apply_fails_iff accumulator step, ?_, ?_⟩
    · intro overflow failed
      exact advance_of_error failed
    · intro result succeeded
      exact advance_of_ok succeeded
  · rw [IntFormat.holds_iff]
    exact ⟨BoundedInt.lo_le _, BoundedInt.le_hi _⟩
  · intro smooth
    rw [run_eq_evaluate_accepted, smooth.accepted_eq, evaluate_eq_affine]

/-- The number of eight bits nearest to an integer. -/
def octet (n : Int) : IntFormat.int8.Value :=
  .clamp (Int.le_trans (IntFormat.least_le_zero _) (IntFormat.zero_le_greatest _)) n

/-- Steps of which the first and the fourth fail from the least octet. -/
def rebound : List (Step IntFormat.int8.Value) :=
  [.multiply (octet (-1)), .add (octet 100), .multiply (octet 3), .multiply (octet 2),
    .add (octet 127)]

theorem rebound_exact :
    (∃ overflow, apply ⟨octet (-128)⟩ (.multiply (octet (-1))) = .error overflow) ∧
    (run ⟨octet (-128)⟩ rebound).value.val = (-128 + 100) * 3 + 127 ∧
    Smooth ⟨octet (-28)⟩ [.multiply (octet 3), .add (octet 127)] ∧
    (run ⟨octet (-28)⟩ [.multiply (octet 3), .add (octet 127)]).value.val = -28 * 3 + 127 := by
  have smooth : Smooth ⟨octet (-28)⟩ [.multiply (octet 3), .add (octet 127)] := by
    intro before step after split
    rcases before with _ | ⟨first, _ | ⟨second, rest⟩⟩
    · cases split
      exact ⟨_, rfl⟩
    · cases split
      exact ⟨_, rfl⟩
    · simp at split
  obtain ⟨law, _, exact, _⟩ := run_exact (octet (-128)) rebound
  obtain ⟨_, _, _, affine⟩ := run_exact (octet (-28)) [.multiply (octet 3), .add (octet 127)]
  refine ⟨?_, exact.trans rfl, smooth, (affine smooth).trans rfl⟩
  rw [(law ⟨octet (-128)⟩ (.multiply (octet (-1)))).1, IntFormat.holds_iff]
  decide

end Accumulator

end Assay
