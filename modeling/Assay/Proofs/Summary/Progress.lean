import Assay.Summary
import Mathlib

/-! One pass over a list of numbers. The pass carries a total and two extremes; it
comes apart into three folds, and only the total can fail. Each extreme is the
earliest element at the end of the line, as long as the first element has a place on
it. -/
namespace Assay

namespace Summary

section Earliest

variable {α : Type} {place : α → Option Int} {items rest : List α} {best x : α}

/-- The extreme after one more element. An element without a place takes no other's
place and leaves its own to none. -/
def pick (place : α → Option Int) (best x : α) : α :=
  match place x, place best with
  | some i, some j => if i < j then x else best
  | _, _ => best

/-- `best` is the first of the items at the least place; items without a place do
not count. -/
def Earliest (place : α → Option Int) (items : List α) (best : α) : Prop :=
  ∃ earlier later i, items = earlier ++ best :: later ∧ place best = some i ∧
    (∀ item ∈ earlier, ∀ j ∈ place item, i < j) ∧ ∀ item ∈ later, ∀ j ∈ place item, i ≤ j

namespace Earliest

theorem mem (earliest : Earliest place items best) : best ∈ items := by
  obtain ⟨earlier, later, i, rfl, _⟩ := earliest
  simp

theorem le (earliest : Earliest place items best) {item : α} (member : item ∈ items) {i j : Int}
    (own : place best = some i) (other : place item = some j) : i ≤ j := by
  obtain ⟨earlier, later, k, rfl, placed, before, after⟩ := earliest
  obtain rfl : k = i := Option.some.inj (placed.symm.trans own)
  rcases List.mem_append.mp member with early | late
  · exact (before item early j other).le
  · rcases List.mem_cons.mp late with rfl | late
    · exact (Option.some.inj (own.symm.trans other)).le
    · exact after item late j other

theorem singleton {i : Int} (placed : place x = some i) : Earliest place [x] x :=
  ⟨[], [], i, rfl, placed, by simp, by simp⟩

/-- An element that does not come before the extreme leaves it as it is. -/
theorem concat_of_le (earliest : Earliest place items best)
    (later : ∀ i ∈ place best, ∀ j ∈ place x, i ≤ j) : Earliest place (items ++ [x]) best := by
  obtain ⟨before, after, i, rfl, placed, smaller, least⟩ := earliest
  refine ⟨before, after ++ [x], i, by simp, placed, smaller, ?_⟩
  intro item member
  rcases List.mem_append.mp member with old | new
  · exact least item old
  · rw [List.mem_singleton.mp new]
    exact later i placed

/-- An element that comes before the extreme comes before all items. -/
theorem concat_of_lt (earliest : Earliest place items best) {i j : Int} (own : place best = some i)
    (placed : place x = some j) (less : j < i) : Earliest place (items ++ [x]) x := by
  refine ⟨items, [], j, rfl, placed, ?_, by simp⟩
  intro item member k other
  exact lt_of_lt_of_le less (earliest.le member own other)

theorem concat (earliest : Earliest place items best) (x : α) :
    Earliest place (items ++ [x]) (pick place best x) := by
  unfold pick
  split
  · rename_i j i placed own
    split
    · rename_i less
      exact earliest.concat_of_lt own placed less
    · rename_i reach
      apply earliest.concat_of_le
      intro i' own' j' placed'
      rw [own] at own'
      rw [placed] at placed'
      cases own'
      cases placed'
      exact not_lt.mp reach
  · rename_i apart
    apply earliest.concat_of_le
    intro i own j placed
    exact absurd own (apart j i placed)

theorem foldl (earliest : Earliest place items best) (rest : List α) :
    Earliest place (items ++ rest) (rest.foldl (pick place) best) := by
  induction rest generalizing items best with
  | nil => simpa using earliest
  | cons x rest ih =>
    have step := ih (earliest.concat x)
    rwa [List.append_assoc, List.singleton_append] at step

end Earliest

end Earliest

section Pass

open OrderKey (key)

variable {α τ : Type} [OrderKey α]

/-- The place of an element when the line is read backwards. -/
def backKey (x : α) : Option Int := (key x).map Neg.neg

theorem pick_key (best x : α) :
    pick key best x = if OrderKey.less x best then x else best := by
  unfold pick OrderKey.less
  cases key x with
  | none => rfl
  | some i =>
    cases key best with
    | none => rfl
    | some j => simp

theorem pick_backKey (best x : α) :
    pick backKey best x = if OrderKey.less best x then x else best := by
  unfold pick backKey OrderKey.less
  cases key x with
  | none => cases key best <;> rfl
  | some i =>
    cases key best with
    | none => rfl
    | some j => simp

variable [Totals α τ]

/-- The pass after the first elements of a list. -/
def Progress.ofList (first : α) (part : List α) : Except Overflow (Progress α τ) := do
  part.foldlM Progress.next (← Progress.first first)

/-- The total of the first elements of a list. -/
def totalOf (first : α) (part : List α) : Except Overflow τ := do
  part.foldlM Totals.plus (← Totals.first first)

theorem foldlM_next (part : List α) (start : Progress α τ) :
    part.foldlM Progress.next start =
      (part.foldlM Totals.plus start.sum).map fun sum =>
        ⟨sum, part.foldl (pick key) start.least, part.foldl (pick backKey) start.greatest⟩ := by
  induction part generalizing start with
  | nil => rfl
  | cons x rest ih =>
    rw [List.foldlM_cons, List.foldlM_cons, Progress.next]
    cases Totals.plus start.sum x with
    | error overflow => rfl
    | ok sum =>
      refine (ih _).trans ?_
      rw [List.foldl_cons, List.foldl_cons, pick_key, pick_backKey]
      rfl

theorem Progress.ofList_eq (first : α) (part : List α) :
    (Progress.ofList first part : Except Overflow (Progress α τ)) =
      (totalOf first part).map fun sum =>
        ⟨sum, part.foldl (pick key) first, part.foldl (pick backKey) first⟩ := by
  unfold Progress.ofList totalOf Progress.first
  cases Totals.first first with
  | error overflow => rfl
  | ok sum => exact foldlM_next part ⟨sum, first, first⟩

theorem ofList_cons (first : α) (rest : List α) :
    (ofList (first :: rest) : Except Overflow (Summary α τ)) =
      (Progress.ofList first rest).map fun progress =>
        { count := rest.length + 1
          sum := progress.sum
          average := Totals.toFloat α progress.sum / Float.ofNat (rest.length + 1)
          least := some progress.least
          greatest := some progress.greatest } := by
  rw [ofList, Progress.ofList]
  cases (Progress.first first : Except Overflow (Progress α τ)) with
  | error overflow => rfl
  | ok start =>
    simp only [bind, Except.bind]
    cases (List.foldlM Progress.next start rest : Except Overflow (Progress α τ)) with
    | error overflow => rfl
    | ok progress => rfl

end Pass

end Summary

end Assay
