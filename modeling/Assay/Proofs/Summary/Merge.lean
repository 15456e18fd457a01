import Assay.Proofs.Summary.Exact

/-! Summaries of integers put together. What a summary says of a list does not depend on
the order of the list, and there is only one summary that says it. So the summary of two
lists in a row is made of theirs, wherever the cut is, and reordering changes nothing. -/
namespace Assay

namespace BoundedInt

variable {lo hi : Int}

/-- The smaller of two numbers. -/
def lower (x y : BoundedInt lo hi) : BoundedInt lo hi := if x.val ≤ y.val then x else y

/-- The larger of two numbers. -/
def higher (x y : BoundedInt lo hi) : BoundedInt lo hi := if y.val ≤ x.val then x else y

theorem val_injective : Function.Injective (val : BoundedInt lo hi → Int) := fun _ _ => ext

theorem neg_val_injective : Function.Injective fun x : BoundedInt lo hi => -x.val := by
  intro x y same
  exact ext (neg_injective same)

end BoundedInt

namespace Summary

section Interval

variable {lo hi : Int} {numbers others : List (BoundedInt lo hi)}

namespace IsExtreme

variable {place : BoundedInt lo hi → Int} {first second : Option (BoundedInt lo hi)}

theorem unique (injective : Function.Injective place) (one : IsExtreme place numbers first)
    (other : IsExtreme place numbers second) : first = second := by
  cases first with
  | none => exact (other.eq_none_iff.mpr one).symm
  | some x =>
    cases second with
    | none => exact one.eq_none_iff.mpr other
    | some y =>
      obtain ⟨member, least⟩ := one
      obtain ⟨member', least'⟩ := other
      exact congrArg some (injective (le_antisymm (least y member') (least' x member)))

theorem perm (perm : numbers.Perm others) (isExtreme : IsExtreme place numbers first) :
    IsExtreme place others first := by
  cases first with
  | none =>
    cases (isExtreme : numbers = [])
    exact List.nil_perm.mp perm
  | some x =>
    obtain ⟨member, least⟩ := isExtreme
    exact ⟨perm.mem_iff.mp member, fun y among => least y (perm.mem_iff.mpr among)⟩

/-- The extreme of two lists in a row is the nearer one of theirs, where a missing one
gives way. -/
theorem append {nearer : BoundedInt lo hi → BoundedInt lo hi → BoundedInt lo hi}
    (chosen : ∀ x y, nearer x y = if place x ≤ place y then x else y)
    (one : IsExtreme place numbers first) (other : IsExtreme place others second) :
    IsExtreme place (numbers ++ others) (Option.merge nearer first second) := by
  cases first with
  | none =>
    cases (one : numbers = [])
    rwa [Option.merge_none_left]
  | some x =>
    cases second with
    | none =>
      cases (other : others = [])
      rwa [Option.merge_none_right, List.append_nil]
    | some y =>
      obtain ⟨member, least⟩ := one
      obtain ⟨member', least'⟩ := other
      rw [Option.merge_some_some, chosen]
      split
      · rename_i nearest
        refine ⟨List.mem_append_left _ member, List.forall_mem_append.mpr ⟨least, ?_⟩⟩
        exact fun z among => nearest.trans (least' z among)
      · rename_i further
        refine ⟨List.mem_append_right _ member', List.forall_mem_append.mpr ⟨?_, least'⟩⟩
        exact fun z among => (not_le.mp further).le.trans (least z among)

end IsExtreme

variable {summary other : Summary (BoundedInt lo hi) Int128}

namespace Describes

theorem unique (one : Describes numbers summary) (two : Describes numbers other) :
    summary = other := by
  have sum : summary.sum = other.sum := BoundedInt.ext (one.sum.trans two.sum.symm)
  have count : summary.count = other.count := one.count.trans two.count.symm
  have average : summary.average = other.average := by
    rw [one.average, two.average, sum, count]
  have least := one.least.unique BoundedInt.val_injective two.least
  have greatest := one.greatest.unique BoundedInt.neg_val_injective two.greatest
  cases summary
  cases other
  rw [mk.injEq]
  exact ⟨count, sum, average, least, greatest⟩

theorem perm (perm : numbers.Perm others) (described : Describes numbers summary) :
    Describes others summary where
  count := described.count.trans perm.length_eq
  sum := described.sum.trans (perm.map _).sum_eq
  average := described.average
  least := described.least.perm perm
  greatest := described.greatest.perm perm

end Describes

/-- `whole` is `first` and `second` put together: counts and sums add up, the nearer
extreme is taken, a missing one giving way, and the average is that of the new sum and
count. -/
structure Merges (first second whole : Summary (BoundedInt lo hi) Int128) : Prop where
  count : whole.count = first.count + second.count
  sum : whole.sum.val = first.sum.val + second.sum.val
  average : whole.average = mean whole.sum whole.count
  least : whole.least = Option.merge BoundedInt.lower first.least second.least
  greatest : whole.greatest = Option.merge BoundedInt.higher first.greatest second.greatest

theorem Describes.merges {first second whole : Summary (BoundedInt lo hi) Int128}
    (one : Describes numbers first) (two : Describes others second)
    (both : Describes (numbers ++ others) whole) : Merges first second whole where
  count := by rw [both.count, one.count, two.count, List.length_append]
  sum := by rw [both.sum, one.sum, two.sum, total_append]
  average := both.average
  least :=
    both.least.unique BoundedInt.val_injective (one.least.append (fun _ _ => rfl) two.least)
  greatest := by
    refine both.greatest.unique BoundedInt.neg_val_injective (one.greatest.append ?_ two.greatest)
    intro x y
    simp only [BoundedInt.higher, neg_le_neg_iff]

end Interval

section Format

variable {format : IntFormat}

/-- Two lists of narrow integers and the two in a row have summaries that describe them, the
last is made of the others, and any other order of the elements has the same summary. -/
theorem ofList_append_merges (narrow : format.bits ≤ 64) (xs ys : List format.Value)
    (short : xs.length + ys.length < 2 ^ 63) :
    (∃ first second whole, ofList xs = .ok first ∧ ofList ys = .ok second ∧
      ofList (xs ++ ys) = .ok whole ∧ Describes xs first ∧ Describes ys second ∧
      Describes (xs ++ ys) whole ∧ Merges first second whole) ∧
    ∀ zs, (xs ++ ys).Perm zs → ofList zs = ofList (xs ++ ys) := by
  have size : (xs ++ ys).length < 2 ^ 63 := by rwa [List.length_append]
  obtain ⟨first, front, one⟩ := exists_describes_of_short narrow xs (by omega)
  obtain ⟨second, back, two⟩ := exists_describes_of_short narrow ys (by omega)
  obtain ⟨whole, made, both⟩ := exists_describes_of_short narrow (xs ++ ys) size
  refine ⟨⟨first, second, whole, front, back, made, one, two, both, one.merges two both⟩, ?_⟩
  intro zs perm
  obtain ⟨again, remade, described⟩ :=
    exists_describes_of_short narrow zs (perm.length_eq ▸ size)
  rw [made, remade, described.unique (both.perm perm)]

/-- The first part of a list with peaks of 64 bits at both ends and the least element
between them. -/
def front : List IntFormat.uint64.Value := [nearest .uint64 18446744073709551615]

def back : List IntFormat.uint64.Value :=
  [nearest .uint64 7, nearest .uint64 18446744073709551615]

theorem front_merges :
    IntFormat.uint64.bits ≤ 64 ∧ front.length + back.length < 2 ^ 63 ∧
      (front ++ back).Perm (back ++ front) ∧
      ∃ first second whole, ofList front = .ok first ∧ ofList back = .ok second ∧
        ofList (front ++ back) = .ok whole ∧ Merges first second whole ∧
        ofList (back ++ front) = .ok whole ∧ first.count = 1 ∧ second.count = 2 ∧
        whole.count = 3 ∧ whole.sum.val = 36893488147419103237 ∧
        whole.least = some (nearest .uint64 7) ∧
        whole.greatest = some (nearest .uint64 18446744073709551615) := by
  have narrow : IntFormat.uint64.bits ≤ 64 := by decide
  have short : front.length + back.length < 2 ^ 63 := by decide
  have perm : (front ++ back).Perm (back ++ front) := List.perm_append_comm
  obtain ⟨⟨first, second, whole, made, made', joined, one, two, both, merges⟩, reordered⟩ :=
    ofList_append_merges narrow front back short
  have least : whole.least = some (nearest .uint64 7) :=
    both.least.unique BoundedInt.val_injective ⟨by decide, by decide⟩
  have greatest : whole.greatest = some (nearest .uint64 18446744073709551615) :=
    both.greatest.unique BoundedInt.neg_val_injective ⟨by decide, by decide⟩
  exact ⟨narrow, short, perm, first, second, whole, made, made', joined, merges,
    (reordered _ perm).trans joined, one.count, two.count, both.count, both.sum, least, greatest⟩

end Format

end Summary

end Assay
