import Assay.Proofs.Journal.Session
import Assay.Proofs.Number.Comparison

/-! Journals of floating-point numbers and their equality. Numbers compare as IEEE says, so
what is not a number does not equal itself, and a log with such an operand does not equal
its own copy, entry by entry the same though the two are. A journal compares its value as
well, which may be no number even where every operand is one. -/
namespace Assay

theorem OrderKey.same_self_iff (x : Float) : same x x = true ↔ x.isNaN = false := by
  rw [same_eq_true_iff, ← isNone_key_float, Option.isNone_eq_false_iff, Option.isSome_iff_exists]
  simp only [and_self]

namespace Journal

section Logs

theorem Entry.same_iff {one two : Entry Float} :
    one.same two = true ↔
      one.operation = two.operation ∧ (one.operand == two.operand) = true := by
  rw [Entry.same, Bool.and_eq_true, decide_eq_true_iff, OrderKey.same_float_iff]

/-- Logs are equal when they are so entry by entry. -/
theorem sameHistory_iff {one two : List (Entry Float)} :
    sameHistory one two = true ↔
      List.Forall₂ (fun left right =>
        left.operation = right.operation ∧ (left.operand == right.operand) = true) one two := by
  induction one generalizing two with
  | nil =>
    cases two with
    | nil => simp [sameHistory]
    | cons right rights => simp [sameHistory]
  | cons left lefts ih =>
    cases two with
    | nil => simp [sameHistory]
    | cons right rights => simp [sameHistory, Entry.same_iff, ih]

theorem sameHistory_self_iff (history : List (Entry Float)) :
    sameHistory history history = true ↔ ∀ entry ∈ history, entry.operand.isNaN = false := by
  rw [sameHistory_iff, List.forall₂_same]
  simp only [true_and, ← OrderKey.same_float_iff, OrderKey.same_self_iff]

end Logs

section Operands

theorem Call.entry?_eq_some_iff {α : Type} {call : Call α} {entry : Entry α} :
    call.entry? = some entry ↔ call = entry.call := by
  constructor
  · intro leaves
    cases call with
    | add x | multiply x =>
      cases leaves
      rfl
    | look => cases leaves
  · rintro rfl
    exact entry.entry?_call

theorem mem_entries_iff {α : Type} {calls : List (Call α)} {entry : Entry α} :
    entry ∈ entries calls ↔ entry.call ∈ calls := by
  simp [entries, List.mem_filterMap, Call.entry?_eq_some_iff]

/-- Every operation among the calls is on a number. -/
def NumbersOnly (calls : List (Call Float)) : Prop :=
  ∀ x, .add x ∈ calls ∨ .multiply x ∈ calls → x.isNaN = false

theorem numbersOnly_iff {calls : List (Call Float)} :
    NumbersOnly calls ↔ ∀ entry ∈ entries calls, entry.operand.isNaN = false := by
  simp only [mem_entries_iff]
  constructor
  · rintro numbers ⟨operation, operand⟩ called
    cases operation with
    | add => exact numbers operand (.inl called)
    | multiply => exact numbers operand (.inr called)
  · rintro numbers x (added | multiplied)
    · exact numbers ⟨.add, x⟩ added
    · exact numbers ⟨.multiply, x⟩ multiplied

end Operands

section Copies

variable {α : Type} [Add α] [Mul α]

/-- Looks change nothing, and each is answered with the same log. -/
theorem Session.run_append_looks (x : α) (calls : List (Call α)) (looks : Nat) :
    Session.run x (calls ++ List.replicate looks .look) =
      ⟨(Session.run x calls).journal, (Session.run x calls).answers ++
        List.replicate looks (.history (Session.run x calls).journal.history)⟩ := by
  induction looks with
  | zero => simp
  | succ looks ih =>
    have last : Session.run x (calls ++ List.replicate (looks + 1) .look) =
        (Session.run x (calls ++ List.replicate looks .look)).act .look := by
      rw [List.replicate_succ', ← List.append_assoc]
      exact List.foldl_append
    rw [last, ih, List.replicate_succ', ← List.append_assoc]
    rfl

end Copies

/-- After any session the log is copied as it is, however often it is looked at, and the
copies are equal exactly when every operation was on a number. The journal equals its own
copy exactly when moreover its value is a number. Numbers are equal here as IEEE says. -/
theorem session_copies_same (x : Float) (calls : List (Call Float)) :
    (∀ looks, Session.run x (calls ++ List.replicate looks .look) =
      ⟨(Session.run x calls).journal, (Session.run x calls).answers ++
        List.replicate looks (.history (Session.run x calls).journal.history)⟩) ∧
    (sameHistory (Session.run x calls).journal.history (Session.run x calls).journal.history =
      true ↔ NumbersOnly calls) ∧
    ((Session.run x calls).journal.same (Session.run x calls).journal = true ↔
      NumbersOnly calls ∧ (Session.run x calls).journal.value.isNaN = false) ∧
    (∀ one two : List (Entry Float), sameHistory one two = true ↔
      List.Forall₂ (fun left right =>
        left.operation = right.operation ∧ (left.operand == right.operand) = true) one two) ∧
    ∀ y : Float, (y == y) = true ↔ y.isNaN = false := by
  have history : sameHistory (Session.run x calls).journal.history
      (Session.run x calls).journal.history = true ↔ NumbersOnly calls := by
    rw [sameHistory_self_iff, numbersOnly_iff, (Session.run_faithful x calls).history]
  refine ⟨?_, history, ?_, ?_, ?_⟩
  · intro looks
    exact Session.run_append_looks x calls looks
  · rw [same, Bool.and_eq_true, history, OrderKey.same_self_iff, and_comm]
  · intro one two
    exact sameHistory_iff
  · intro y
    rw [← OrderKey.same_float_iff, OrderKey.same_self_iff]

/-- From an infinite value on, this leaves no number, though the operand is one. -/
def cancelling : List (Call Float) := [.look, .add (-1.0 / 0.0)]

/-- One operand is not a number. -/
def spoiled : List (Call Float) := [.add 1.0, .multiply (0.0 / 0.0), .add 2.0]

theorem cancelling_copies_same :
    sameHistory (Session.run (1.0 / 0.0) cancelling).journal.history
      (Session.run (1.0 / 0.0) cancelling).journal.history = true ∧
    ¬(Session.run (1.0 / 0.0) cancelling).journal.same
      (Session.run (1.0 / 0.0) cancelling).journal = true ∧
    ¬sameHistory (Session.run 0.5 spoiled).journal.history
      (Session.run 0.5 spoiled).journal.history = true := by
  obtain ⟨-, history, journal, -, -⟩ := session_copies_same (1.0 / 0.0) cancelling
  obtain ⟨-, other, -, -, -⟩ := session_copies_same 0.5 spoiled
  refine ⟨?_, ?_, ?_⟩
  · rw [history]
    rintro x (added | multiplied)
    · obtain rfl : x = -1.0 / 0.0 := by simpa [cancelling] using added
      decide
    · simp [cancelling] at multiplied
  · rw [journal]
    rintro ⟨-, number⟩
    have lost : (Session.run (1.0 / 0.0) cancelling).journal.value.isNaN = true := by decide
    rw [lost] at number
    contradiction
  · rw [other]
    intro numbers
    have lost : (0.0 / 0.0 : Float).isNaN = true := by decide
    rw [numbers _ (.inr (by simp [spoiled]))] at lost
    contradiction

end Journal

end Assay
