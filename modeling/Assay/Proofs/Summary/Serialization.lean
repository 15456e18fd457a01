import Assay.Proofs.Json.Lexemes
import Assay.Proofs.Number.Comparison
import Assay.Proofs.Success
import Assay.Proofs.Summary.Exact

/-! Two ways from a summary to JSON text: straight from its numbers, and through a JSON
value. The value holds integers of 64 bits only, so it exists just when the sum is one;
then both ways lead to the same text. -/
namespace Assay

namespace Json

/-- An object is written from the texts of its values. -/
theorem compactText_object (members : Fields Json) :
    (Json.object members).compactText =
      objectText (members.map fun member => (member.1, member.2.compactText)) := by
  have inside : compactMembers members =
      membersText (members.map fun member => (member.1, member.2.compactText)) := by
    induction members with
    | nil => rfl
    | cons member rest ih =>
      cases rest with
      | nil => rfl
      | cons next rest =>
        rw [compactMembers, ih]
        rfl
  rw [compactText, inside, objectText]

theorem float64Text_of_not_isFinite {x : Float} (wild : ¬x.isFinite = true) :
    float64Text x = ['n', 'u', 'l', 'l'] := by
  rw [BinaryFormat.isFinite_float, decide_eq_true_iff, not_lt] at wild
  unfold float64Text Decimal.Layout.text
  dsimp only
  split
  · rfl
  · rename_i number
    rw [if_pos (le_antisymm (not_lt.mp number) wild)]
    cases BinaryFormat.binary64.negative x.toBits.toNat with
    | true => rfl
    | false => rfl

/-- What is not finite is null either way. -/
theorem compactText_ofFloat (x : Float) : (Json.ofFloat x).compactText = float64Text x := by
  unfold ofFloat
  split
  · rw [compactText, Number.text]
  · rename_i wild
    rw [compactText, float64Text_of_not_isFinite wild]

end Json

namespace Summary

section Conversion

variable {α : Type} [Reported α] {lo hi : Int}

/-- The value of a number, where it has one, is written as the number itself is. -/
def Plain (x : α) : Prop := ∀ v, Reported.json x = .ok v → v.compactText = Reported.text x

theorem plain_float (x : Float) : Plain x := by
  intro v converted
  cases converted
  exact Json.compactText_ofFloat x

/-- An integer as a JSON value, whatever its format. -/
def integerJson (n : Int) : Except ConversionError Json :=
  match BoundedInt.ofInt? n with
  | some n => .ok (.number (.integer n))
  | none => .error .outOfRange

theorem integerJson_eq_ok_iff {n : Int} {v : Json} :
    integerJson n = .ok v ↔ ∃ m : Json.Integer, m.val = n ∧ v = .number (.integer m) := by
  simp only [integerJson, ← BoundedInt.ofInt?_eq_some_iff]
  cases (BoundedInt.ofInt? n : Option Json.Integer) with
  | none => simp
  | some m => simp [eq_comm]

theorem exists_integerJson_iff {n : Int} : (∃ v, integerJson n = .ok v) ↔ Json.Held n := by
  rw [← Json.exists_integer_iff]
  constructor
  · rintro ⟨v, converted⟩
    obtain ⟨m, same, _⟩ := integerJson_eq_ok_iff.mp converted
    exact ⟨m, same⟩
  · rintro ⟨m, same⟩
    exact ⟨_, integerJson_eq_ok_iff.mpr ⟨m, same, rfl⟩⟩

theorem compactText_integerJson {n : Int} {v : Json} (converted : integerJson n = .ok v) :
    v.compactText = Decimal.intText n := by
  obtain ⟨m, rfl, rfl⟩ := integerJson_eq_ok_iff.mp converted
  rw [Json.compactText, Json.Number.text]

theorem plain_bounded (x : BoundedInt lo hi) : Plain x := fun _ => compactText_integerJson

theorem plain_nat (n : Nat) : Plain n := by
  intro v converted
  rw [compactText_integerJson converted, Decimal.intText, if_neg (by omega), Int.natAbs_natCast]
  rfl

end Conversion

section Fields

variable {α τ : Type} [Reported α] [Reported τ] {summary : Summary α τ} {v : Json}

/-- The fields of a summary, each with its text. -/
def fieldTexts (summary : Summary α τ) : Fields (List Char) :=
  [("count", Reported.text summary.count), ("sum", Reported.text summary.sum),
    ("average", Reported.text summary.average)] ++
  summary.least.toList.map (fun x => ("min", Reported.text x)) ++
  summary.greatest.toList.map (fun x => ("max", Reported.text x))

theorem text_eq (summary : Summary α τ) :
    summary.text = String.ofList (Json.objectText summary.fieldTexts) := by
  obtain ⟨count, sum, average, least, greatest⟩ := summary
  cases least <;> cases greatest <;> rfl

/-- The member for an extreme, if there is one. -/
def extremeJson (name : String) : Option α → Except ConversionError (Fields Json)
  | some x => (Reported.json x).map fun v => [(name, v)]
  | none => .ok []

/-- The fields are converted one after the other, and one failure fails the whole. -/
theorem toJson_eq_ok_iff :
    summary.toJson = .ok v ↔
      ∃ count, Reported.json summary.count = .ok count ∧
      ∃ sum, Reported.json summary.sum = .ok sum ∧
      ∃ average, Reported.json summary.average = .ok average ∧
      ∃ least, extremeJson "min" summary.least = .ok least ∧
      ∃ greatest, extremeJson "max" summary.greatest = .ok greatest ∧
        .object ([("count", count), ("sum", sum), ("average", average)] ++ least ++ greatest) =
          v := by
  have steps : summary.toJson = (do
      let count ← Reported.json summary.count
      let sum ← Reported.json summary.sum
      let average ← Reported.json summary.average
      let least ← extremeJson "min" summary.least
      let greatest ← extremeJson "max" summary.greatest
      pure (.object
        ([("count", count), ("sum", sum), ("average", average)] ++ least ++ greatest))) := by
    obtain ⟨count, sum, average, least, greatest⟩ := summary
    cases least <;> cases greatest <;> rfl
  simp only [steps, bind_eq_ok_iff, pure, Except.pure, Except.ok.injEq]

theorem extremeJson_texts {name : String} {extreme : Option α} {members : Fields Json}
    (plain : ∀ x : α, Plain x) (converted : extremeJson name extreme = .ok members) :
    (members.map fun member => (member.1, member.2.compactText)) =
      extreme.toList.map fun x => (name, Reported.text x) := by
  cases extreme with
  | none =>
    cases converted
    rfl
  | some x =>
    cases value : (Reported.json x : Except ConversionError Json) with
    | error fault => simp [extremeJson, value, Except.map] at converted
    | ok v =>
      simp only [extremeJson, value, Except.map, Except.ok.injEq] at converted
      subst converted
      simp [plain x v value]

/-- The value of a summary has its fields, each written as in the summary's own text. -/
theorem toJson_members (number : ∀ x : α, Plain x) (total : ∀ sum : τ, Plain sum)
    (converted : summary.toJson = .ok v) :
    ∃ members : Fields Json, v = .object members ∧
      (members.map fun member => (member.1, member.2.compactText)) = summary.fieldTexts := by
  obtain ⟨count, counted, sum, summed, average, averaged, least, low, greatest, high, rfl⟩ :=
    toJson_eq_ok_iff.mp converted
  refine ⟨_, rfl, ?_⟩
  rw [List.map_append, List.map_append, extremeJson_texts number low, extremeJson_texts number high]
  simp only [List.map_cons, List.map_nil, plain_nat _ _ counted, total _ _ summed,
    plain_float _ _ averaged, fieldTexts]

end Fields

section Integers

variable {format : IntFormat} {numbers : List format.Value}

/-- Every number of at most 64 bits has a JSON value. -/
theorem held_of_narrow (narrow : format.bits ≤ 64) (x : format.Value) : Json.Held x.val := by
  have held := (format.holds_iff x.val).mpr ⟨x.lo_le, x.le_hi⟩
  have long : (2 : Int) ^ format.bits ≤ 2 ^ 64 := pow_le_pow_right₀ (by decide) narrow
  have short : (2 : Int) ^ (format.bits - 1) ≤ 2 ^ 63 :=
    pow_le_pow_right₀ (by decide) (by omega)
  unfold IntFormat.Holds at held
  unfold Json.Held
  split at held <;> omega

theorem exists_extremeJson (narrow : format.bits ≤ 64) (name : String)
    (extreme : Option format.Value) : ∃ members, extremeJson name extreme = .ok members := by
  cases extreme with
  | none => exact ⟨[], rfl⟩
  | some x =>
    obtain ⟨v, converted⟩ := exists_integerJson_iff.mpr (held_of_narrow narrow x)
    exact ⟨[(name, v)], congrArg (Except.map _) converted⟩

theorem exists_toJson_iff (narrow : format.bits ≤ 64) (summary : Summary format.Value Int128)
    (count : summary.count < 2 ^ 63) :
    (∃ v, summary.toJson = .ok v) ↔ Json.Held summary.sum.val := by
  rw [← exists_integerJson_iff]
  constructor
  · rintro ⟨v, converted⟩
    obtain ⟨_, _, sum, summed, _⟩ := toJson_eq_ok_iff.mp converted
    exact ⟨sum, summed⟩
  · rintro ⟨sum, summed⟩
    obtain ⟨size, counted⟩ : ∃ v, integerJson summary.count = .ok v :=
      exists_integerJson_iff.mpr ⟨by omega, by omega⟩
    obtain ⟨least, low⟩ := exists_extremeJson narrow "min" summary.least
    obtain ⟨greatest, high⟩ := exists_extremeJson narrow "max" summary.greatest
    exact ⟨_, toJson_eq_ok_iff.mpr
      ⟨size, counted, sum, summed, _, rfl, least, low, greatest, high, rfl⟩⟩

/-- The names of the fields, in order. -/
def fieldNames : List format.Value → List String
  | [] => ["count", "sum", "average"]
  | _ :: _ => ["count", "sum", "average", "min", "max"]

theorem Describes.names_fieldTexts {summary : Summary format.Value Int128}
    (described : Describes numbers summary) : summary.fieldTexts.names = fieldNames numbers := by
  have low := described.least.eq_none_iff
  have high := described.greatest.eq_none_iff
  obtain ⟨count, sum, average, least, greatest⟩ := summary
  cases numbers with
  | nil =>
    cases low.mpr rfl
    cases high.mpr rfl
    rfl
  | cons x rest =>
    obtain ⟨bottom, rfl⟩ := Option.ne_none_iff_exists'.mp (mt low.mp (List.cons_ne_nil x rest))
    obtain ⟨top, rfl⟩ := Option.ne_none_iff_exists'.mp (mt high.mp (List.cons_ne_nil x rest))
    rfl

/-- The summary of fewer than 2^63 numbers of at most 64 bits always has a text, with the
exact sum in it. It has a JSON value just when the sum is an integer that a value holds,
and then the value is written as the text. The extremes are left out for no numbers. -/
theorem ofList_serialized (narrow : format.bits ≤ 64) (numbers : List format.Value)
    (short : numbers.length < 2 ^ 63) :
    ∃ summary, ofList numbers = .ok summary ∧
      ((∃ v, summary.toJson = .ok v) ↔ -2 ^ 63 ≤ total numbers ∧ total numbers ≤ 2 ^ 64 - 1) ∧
      (¬(-2 ^ 63 ≤ total numbers ∧ total numbers ≤ 2 ^ 64 - 1) →
        ∃ fault, summary.toJson = .error fault ∧ fault.message = "number out of range") ∧
      (∃ texts : Fields (List Char), summary.text = String.ofList (Json.objectText texts) ∧
        texts.names = fieldNames numbers ∧
        texts.get? "sum" = some (Decimal.intText (total numbers))) ∧
      ∀ v, summary.toJson = .ok v → v.compact = summary.text ∧
        ∃ members : Fields Json, v = .object members ∧ members.names = fieldNames numbers := by
  obtain ⟨summary, made, described⟩ := exists_describes_of_short narrow numbers short
  have converts := exists_toJson_iff narrow summary (described.count ▸ short)
  rw [described.sum] at converts
  refine ⟨summary, made, converts, ?_, ?_, ?_⟩
  · intro outside
    cases result : summary.toJson with
    | error fault =>
      cases fault
      exact ⟨.outOfRange, rfl, rfl⟩
    | ok v => exact absurd (converts.mp ⟨v, result⟩) outside
  · refine ⟨summary.fieldTexts, summary.text_eq, described.names_fieldTexts, ?_⟩
    rw [← described.sum]
    rfl
  · intro v converted
    obtain ⟨members, rfl, texts⟩ := toJson_members plain_bounded plain_bounded converted
    have names : members.names = summary.fieldTexts.names := by
      rw [← texts, Fields.names, Fields.names, List.map_map]
      rfl
    refine ⟨?_, members, rfl, names.trans described.names_fieldTexts⟩
    rw [Json.compact, Json.compactText_object, texts, text_eq]

/-- The last total that a JSON value holds. -/
def brim : List IntFormat.uint64.Value :=
  [nearest .uint64 18446744073709551614, nearest .uint64 1]

/-- One more than that. -/
def spill : List IntFormat.uint64.Value := nearest .uint64 1 :: brim

theorem spill_serialized :
    IntFormat.uint64.bits ≤ 64 ∧ brim.length < 2 ^ 63 ∧ spill.length < 2 ^ 63 ∧
      (∃ summary v, ofList brim = .ok summary ∧ summary.toJson = .ok v ∧
        v.compact = summary.text) ∧
      ∃ summary fault, ofList spill = .ok summary ∧ summary.toJson = .error fault ∧
        fault.message = "number out of range" ∧
        ∃ texts : Fields (List Char), summary.text = String.ofList (Json.objectText texts) ∧
          texts.get? "sum" = some "18446744073709551616".toList := by
  have narrow : IntFormat.uint64.bits ≤ 64 := by decide
  have few : brim.length < 2 ^ 63 := by decide
  have short : spill.length < 2 ^ 63 := by decide
  refine ⟨narrow, few, short, ?_, ?_⟩
  · obtain ⟨summary, made, converts, _, _, same⟩ := ofList_serialized narrow brim few
    obtain ⟨v, converted⟩ := converts.mpr (by decide)
    exact ⟨summary, v, made, converted, (same v converted).1⟩
  · obtain ⟨summary, made, _, fails, ⟨texts, written, _, sum⟩, _⟩ :=
      ofList_serialized narrow spill short
    obtain ⟨fault, failed, message⟩ := fails (by decide)
    exact ⟨summary, fault, made, failed, message, texts, written, sum.trans (by decide)⟩

end Integers

end Summary

end Assay
