import Assay.Record
import Mathlib

/-! Finding a record by its identity. What counts is the field `id`, and only when it is an
integer of the format: a number of the other kind, however whole, or an integer beyond the
format is no identity at all. The first record with the identity is found, so records
without it may come and go anywhere. -/
namespace Assay.Record

variable {id : IntFormat.int64.Value} {records : List Record} {record : Record}

section Identity

/-- The field `id` is there and holds the integer. -/
def Bears (n : Int) (record : Record) : Prop :=
  ∃ held : Json.Integer, Fields.get? record "id" = some (.number (.integer held)) ∧ held.val = n

theorem int64?_eq_some_iff {v : Json} :
    v.int64? = some id ↔ ∃ held : Json.Integer, v = .number (.integer held) ∧ held.val = id.val := by
  cases v with
  | number n =>
    cases n with
    | integer held =>
      rw [Json.int64?, BoundedInt.ofInt?_eq_some_iff, eq_comm]
      simp
    | float x => simp [Json.int64?]
  | null | bool | string | array | object => simp [Json.int64?]

theorem hasId_iff : hasId id record = true ↔ Bears id.val record := by
  rw [hasId, decide_eq_true_iff, id?, Option.bind_eq_some_iff]
  simp only [int64?_eq_some_iff, Bears]
  constructor
  · rintro ⟨v, field, held, rfl, same⟩
    exact ⟨held, field, same⟩
  · rintro ⟨held, field, same⟩
    exact ⟨_, field, held, rfl, same⟩

/-- What stands at the place of an identity and is none. -/
inductive NoIdentity : Option Json → Prop where
  | missing : NoIdentity none
  | null : NoIdentity (some .null)
  | bool (b : Bool) : NoIdentity (some (.bool b))
  | float (x : Float) : NoIdentity (some (.number (.float x)))
  | large (n : Json.Integer) (above : IntFormat.int64.greatest < n.val) :
      NoIdentity (some (.number (.integer n)))
  | string (s : String) : NoIdentity (some (.string s))
  | array (items : List Json) : NoIdentity (some (.array items))
  | object (members : List (String × Json)) : NoIdentity (some (.object members))

theorem noIdentity_iff :
    NoIdentity (Fields.get? record "id") ↔ ∀ id : IntFormat.int64.Value, ¬Bears id.val record := by
  constructor
  · rintro none id ⟨held, field, same⟩
    rw [field] at none
    cases none with
    | large _ above =>
      have inside := id.le_hi
      omega
  · intro unborne
    cases field : Fields.get? record "id" with
    | none => exact .missing
    | some v =>
      cases v with
      | null => exact .null
      | bool b => exact .bool b
      | string s => exact .string s
      | array items => exact .array items
      | object members => exact .object members
      | number n =>
        cases n with
        | float x => exact .float x
        | integer held =>
          -- The integers of JSON begin where those of the format do.
          refine .large held (not_le.mp fun inside => ?_)
          exact unborne ⟨held.val, held.lo_le, inside⟩ ⟨held, field, rfl⟩

end Identity

section First

/-- The record is at the place, with the identity, and none before it has the identity. -/
structure FirstAt (n : Int) (records : List Record) (index : Nat) (record : Record) : Prop where
  here : records[index]? = some record
  bears : Bears n record
  first : ∀ earlier < index, ∀ other, records[earlier]? = some other → ¬Bears n other

theorem find?_eq_some_iff :
    find? id records = some record ↔ ∃ index, FirstAt id.val records index record := by
  rw [find?, List.find?_eq_some_iff_getElem, hasId_iff]
  constructor
  · rintro ⟨bears, index, inside, rfl, first⟩
    refine ⟨index, List.getElem?_eq_getElem inside, bears, ?_⟩
    intro earlier before other there
    obtain ⟨_, rfl⟩ := List.getElem?_eq_some_iff.mp there
    rw [← hasId_iff]
    simpa using first earlier before
  · rintro ⟨index, here, bears, first⟩
    obtain ⟨inside, same⟩ := List.getElem?_eq_some_iff.mp here
    refine ⟨bears, index, inside, same, ?_⟩
    intro earlier before
    have other := first earlier before _ (List.getElem?_eq_getElem (before.trans inside))
    rw [← hasId_iff] at other
    simpa using other

theorem find?_eq_none_iff :
    find? id records = none ↔ ∀ record ∈ records, ¬Bears id.val record := by
  rw [find?, List.find?_eq_none]
  simp only [hasId_iff]

end First

section Others

/-- The second list is the first with records put in, at any places, that do not have the
identity. -/
inductive Widens (n : Int) : List Record → List Record → Prop where
  | nil : Widens n [] []
  | keep {fewer more : List Record} (record : Record) (rest : Widens n fewer more) :
      Widens n (record :: fewer) (record :: more)
  | extra {fewer more : List Record} (record : Record) (other : ¬Bears n record)
      (rest : Widens n fewer more) : Widens n fewer (record :: more)

theorem find?_of_widens {fewer more : List Record} (widens : Widens id.val fewer more) :
    find? id more = find? id fewer := by
  induction widens with
  | nil => rfl
  | keep record rest ih =>
    simp only [find?, List.find?_cons] at ih ⊢
    rw [ih]
  | extra record other rest ih =>
    rw [← hasId_iff] at other
    rw [← ih, find?, List.find?_cons_of_neg other]
    rfl

end Others

/-- A record is found exactly when it is the first with the identity, and none when no record
has it. A record whose field `id` is missing or is no integer of the format is not found,
whatever the identity. Records without the identity may be put in and taken out anywhere,
and the same record is found. -/
theorem lookup_first (id : IntFormat.int64.Value) (records : List Record) :
    (∀ record, find? id records = some record ↔ ∃ index, FirstAt id.val records index record) ∧
    (find? id records = none ↔
      ¬∃ (index : Nat) (record : Record), records[index]? = some record ∧ Bears id.val record) ∧
    (∀ record, find? id records = some record → ¬NoIdentity (Fields.get? record "id")) ∧
    (∀ more, Widens id.val records more → find? id more = find? id records) ∧
    ∀ fewer, Widens id.val fewer records → find? id fewer = find? id records := by
  refine ⟨?_, ?_, ?_, ?_, ?_⟩
  · intro record
    exact find?_eq_some_iff
  · simp only [find?_eq_none_iff, List.mem_iff_getElem?]
    constructor
    · rintro absent ⟨index, record, here, bears⟩
      exact absent record ⟨index, here⟩ bears
    · rintro absent record ⟨index, here⟩ bears
      exact absent ⟨index, record, here, bears⟩
  · intro record found none
    obtain ⟨index, first⟩ := find?_eq_some_iff.mp found
    exact noIdentity_iff.mp none id first.bears
  · intro more widens
    exact find?_of_widens widens
  · intro fewer widens
    exact (find?_of_widens widens).symm

def wanted : IntFormat.int64.Value := ⟨31, by decide, by decide⟩

/-- A record with the wanted identity. -/
def member (name : String) : Record :=
  [("id", .number (.integer ⟨31, by decide, by decide⟩)), ("name", .string name)]

/-- Two records with one identity, among others that only look like it. -/
def roster : List Record :=
  [[("id", .number (.float 31.0))], [("id", .string "31")], member "first",
    [("name", .string "nobody")], member "second"]

theorem roster_lookup :
    find? wanted roster = some (member "first") ∧
    ¬NoIdentity (Fields.get? (member "first") "id") ∧
    Widens wanted.val [member "first", member "second"] roster ∧
    find? wanted [member "first", member "second"] = find? wanted roster := by
  obtain ⟨-, -, borne, -, removed⟩ := lookup_first wanted roster
  have found : find? wanted roster = some (member "first") := rfl
  have widens : Widens wanted.val [member "first", member "second"] roster := by
    refine .extra _ ?_ (.extra _ ?_ (.keep _ (.extra _ ?_ (.keep _ .nil))))
    · exact noIdentity_iff.mp (by exact .float 31.0) wanted
    · exact noIdentity_iff.mp (by exact .string "31") wanted
    · exact noIdentity_iff.mp (by exact .missing) wanted
  exact ⟨found, borne _ found, widens, removed _ widens⟩

end Assay.Record
