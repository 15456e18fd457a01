import Assay.Proofs.Shape.Description

/-! Descriptions of the members of an object. They are inserted one by one into a new
object, which keeps the place of a name it has already. An object has each name once, so
no description meets another: every member is described or left out by itself. -/
namespace Assay

namespace Fields

variable {α : Type} {fields others : Fields α}

theorem get?_congr {name : String} (first : fields.Distinct) (second : others.Distinct)
    (same : ∀ value, (name, value) ∈ fields ↔ (name, value) ∈ others) :
    get? fields name = get? others name := by
  apply Option.ext
  intro value
  rw [get?_eq_some_iff first, get?_eq_some_iff second, same]

theorem distinct_filter (distinct : fields.Distinct) (keep : String × α → Bool) :
    Distinct (fields.filter keep) :=
  List.Nodup.sublist (List.filter_sublist.map Prod.fst) distinct

theorem distinct_perm (perm : fields.Perm others) : fields.Distinct ↔ others.Distinct :=
  (perm.map Prod.fst).nodup_iff

end Fields

namespace Shape

variable {data : Fields Json} {name : String} {told : Json}

theorem names_describedPairs_sublist (data : Fields Json) :
    (Fields.names (describedPairs data)).Sublist data.names := by
  induction data with
  | nil => exact .slnil
  | cons member rest ih =>
    obtain ⟨key, v⟩ := member
    cases described : (ofJson v).describe with
    | none =>
      have dropped : describedPairs ((key, v) :: rest) = describedPairs rest := by
        simp [describedPairs, described]
      rw [dropped]
      exact ih.cons key
    | some words =>
      have kept : describedPairs ((key, v) :: rest) =
          (key, .string words) :: describedPairs rest := by
        simp [describedPairs, described]
      rw [kept]
      exact ih.cons_cons key

theorem distinct_describedPairs (distinct : data.Distinct) :
    Fields.Distinct (describedPairs data) :=
  List.Nodup.sublist (names_describedPairs_sublist data) distinct

/-- Nothing is overwritten on the way. -/
theorem describeFields_eq (distinct : data.Distinct) :
    describeFields data = describedPairs data :=
  Fields.ofPairs_of_distinct (distinct_describedPairs distinct)

theorem mem_describedPairs :
    (name, told) ∈ describedPairs data ↔
      ∃ v words, (name, v) ∈ data ∧ Described v words ∧ told = .string words := by
  simp only [describedPairs, List.mem_filterMap, Option.map_eq_some_iff, Prod.mk.injEq,
    Prod.exists, describe_eq_some_iff]
  constructor
  · rintro ⟨key, v, member, words, described, rfl, rfl⟩
    exact ⟨v, words, member, described, rfl⟩
  · rintro ⟨v, words, member, described, rfl⟩
    exact ⟨name, v, member, words, described, rfl, rfl⟩

theorem get?_describeFields (distinct : data.Distinct) :
    Fields.get? (describeFields data) name = some told ↔
      ∃ v words, Fields.get? data name = some v ∧ Described v words ∧ told = .string words := by
  rw [describeFields_eq distinct, Fields.get?_eq_some_iff (distinct_describedPairs distinct),
    mem_describedPairs]
  simp only [Fields.get?_eq_some_iff distinct]

/-- The description under a name is told by the member under that name alone. -/
theorem get?_describeFields_congr {other : Fields Json} (first : other.Distinct)
    (second : data.Distinct) (same : Fields.get? other name = Fields.get? data name) :
    Fields.get? (describeFields other) name = Fields.get? (describeFields data) name := by
  apply Option.ext
  intro told
  rw [get?_describeFields first, get?_describeFields second, same]

/-- The kinds of values that have a description. -/
inductive Describable : Json → Prop where
  | integer (n : Json.Integer) : Describable (.number (.integer n))
  | boolean (b : Bool) : Describable (.bool b)
  | string (s : String) : Describable (.string s)
  | array (items : List Json) : Describable (.array items)

theorem exists_described_iff {v : Json} : (∃ words, Described v words) ↔ Describable v := by
  constructor
  · rintro ⟨words, n | b | s | items⟩
    · exact .integer n
    · exact .boolean b
    · exact .string s
    · exact .array items
  · rintro (n | b | s | items)
    · exact ⟨_, .integer n⟩
    · exact ⟨_, .boolean b⟩
    · exact ⟨_, .string s⟩
    · exact ⟨_, .array items⟩

theorem get?_of_removed {key : String} {rest : Fields Json} (distinct : data.Distinct)
    (removed : rest.Perm (data.filter fun member => member.1 ≠ key)) (apart : key ≠ name) :
    rest.Distinct ∧ Fields.get? rest name = Fields.get? data name := by
  have restDistinct : rest.Distinct :=
    (Fields.distinct_perm removed).mpr (Fields.distinct_filter distinct _)
  refine ⟨restDistinct, Fields.get?_congr restDistinct distinct ?_⟩
  intro v
  simp [removed.mem_iff, Ne.symm apart]

/-- The described members of an object. A name has a description exactly when the object has
an integer, a boolean, a string or an array under it, and then it is a string, the
description of that value. No name comes twice and the order is that of the object. What is
under the other names has no part in it: members may be inserted, replaced or removed there,
and the removal may move others. -/
theorem describeFields_memberwise (data : Fields Json) (distinct : data.Distinct) :
    (∀ name told, Fields.get? (describeFields data) name = some told ↔
      ∃ v words, Fields.get? data name = some v ∧ (ofJson v).describe = some words ∧
        told = .string words) ∧
    (∀ name, (∃ told, Fields.get? (describeFields data) name = some told) ↔
      ∃ v, Fields.get? data name = some v ∧ Describable v) ∧
    (describeFields data).Distinct ∧
    (describeFields data).names.Sublist data.names ∧
    (∀ (other : Fields Json) (name : String), other.Distinct →
      Fields.get? other name = Fields.get? data name →
      Fields.get? (describeFields other) name = Fields.get? (describeFields data) name) ∧
    (∀ (key name : String) (v : Json), key ≠ name →
      Fields.get? (describeFields (Fields.insert data key v)) name =
        Fields.get? (describeFields data) name) ∧
    ∀ (key name : String) (rest : Fields Json), key ≠ name →
      rest.Perm (data.filter fun member => member.1 ≠ key) →
      Fields.get? (describeFields rest) name = Fields.get? (describeFields data) name := by
  refine ⟨?_, ?_, ?_, ?_, ?_, ?_, ?_⟩
  · intro name told
    simp only [describe_eq_some_iff]
    exact get?_describeFields distinct
  · intro name
    simp only [get?_describeFields distinct, ← exists_described_iff]
    constructor
    · rintro ⟨told, v, words, found, described, rfl⟩
      exact ⟨v, found, words, described⟩
    · rintro ⟨v, found, words, described⟩
      exact ⟨.string words, v, words, found, described, rfl⟩
  · exact Fields.distinct_ofPairs _
  · rw [describeFields_eq distinct]
    exact names_describedPairs_sublist data
  · intro other name otherDistinct same
    exact get?_describeFields_congr otherDistinct distinct same
  · intro key name v apart
    apply get?_describeFields_congr (Fields.distinct_insert distinct key v) distinct
    rw [Fields.get?_insert, if_neg apart]
  · intro key name rest apart removed
    obtain ⟨restDistinct, same⟩ := get?_of_removed distinct removed apart
    exact get?_describeFields_congr restDistinct distinct same

/-- An object with members of either sort, one of them a string that reads like the
description of another. -/
def mixed : Fields Json :=
  [("ratio", .number (.float 0.5)), ("flag", .bool true), ("note", .string "number: True"),
    ("nothing", .null)]

theorem mixed_memberwise :
    mixed.Distinct ∧ Fields.get? (describeFields mixed) "flag" = some (.string "number: True") ∧
    (¬∃ told, Fields.get? (describeFields mixed) "nothing" = some told) ∧
    Fields.get? (describeFields (Fields.insert mixed "ratio" (.array []))) "flag" =
      some (.string "number: True") := by
  have distinct : mixed.Distinct := by
    unfold Fields.Distinct
    decide
  obtain ⟨entry, present, _, _, _, inserted, _⟩ := describeFields_memberwise mixed distinct
  have flag := (entry "flag" (.string "number: True")).mpr ⟨.bool true, _, rfl, rfl, rfl⟩
  refine ⟨distinct, flag, ?_, ?_⟩
  · rw [present]
    rintro ⟨v, found, describable⟩
    cases found
    cases describable
  · rw [inserted "ratio" "flag" _ (by decide)]
    exact flag

end Shape

end Assay
