/-! Named values in insertion order. A name keeps the place of its first
insertion and the value of its last. Lists built by `insert` never repeat a
name; operations that only read make no use of that. -/
namespace Assay

abbrev Fields (α : Type) : Type := List (String × α)

namespace Fields

variable {α : Type}

def get? : Fields α → String → Option α
  | [], _ => none
  | (key, value) :: rest, name => if key = name then some value else get? rest name

def insert : Fields α → String → α → Fields α
  | [], name, value => [(name, value)]
  | (key, old) :: rest, name, value =>
    if key = name then (key, value) :: rest else (key, old) :: insert rest name value

/-- The fields made by inserting the pairs one after the other. -/
def ofPairs (pairs : List (String × α)) : Fields α :=
  pairs.foldl (fun fields pair => Fields.insert fields pair.1 pair.2) []

def names (fields : Fields α) : List String := fields.map (·.1)

/-- No name stands for two values. -/
def Distinct (fields : Fields α) : Prop := fields.names.Nodup

theorem get?_cons_self (fields : Fields α) (name : String) (value : α) :
    get? ((name, value) :: fields) name = some value :=
  if_pos rfl

theorem get?_cons_of_ne {key name : String} (apart : key ≠ name) (fields : Fields α) (value : α) :
    get? ((key, value) :: fields) name = get? fields name :=
  if_neg apart

theorem get?_insert (fields : Fields α) (name other : String) (value : α) :
    get? (insert fields name value) other = if name = other then some value else get? fields other := by
  induction fields with
  | nil => rfl
  | cons entry rest ih =>
    obtain ⟨key, old⟩ := entry
    by_cases same : key = name
    · subst same
      by_cases key = other <;> simp_all [insert, get?]
    · by_cases at_other : key = other
      · subst at_other
        simp [insert, get?, same, Ne.symm same]
      · simp [insert, get?, same, at_other, ih]

theorem insert_of_not_mem {fields : Fields α} {name : String} (fresh : name ∉ fields.names)
    (value : α) : insert fields name value = fields ++ [(name, value)] := by
  induction fields with
  | nil => rfl
  | cons entry rest ih =>
    simp only [names, List.map_cons, List.mem_cons, not_or] at fresh
    simp [insert, Ne.symm fresh.1, ih fresh.2]

/-- A new name comes last, and a known one keeps its place. -/
theorem names_insert (fields : Fields α) (name : String) (value : α) :
    (insert fields name value).names =
      if name ∈ fields.names then fields.names else fields.names ++ [name] := by
  induction fields with
  | nil => rfl
  | cons entry rest ih =>
    obtain ⟨key, old⟩ := entry
    by_cases same : key = name
    · simp [insert, names, same]
    · have unfolded : (insert ((key, old) :: rest) name value).names =
          key :: (insert rest name value).names := by
        simp [insert, names, same]
      have member : name ∈ names ((key, old) :: rest) ↔ name ∈ names rest := by
        simp [names, Ne.symm same]
      by_cases later : name ∈ names rest
      · rw [unfolded, ih, if_pos later, if_pos (member.mpr later)]
        rfl
      · rw [unfolded, ih, if_neg later, if_neg (mt member.mp later)]
        rfl

theorem distinct_insert {fields : Fields α} (distinct : fields.Distinct) (name : String)
    (value : α) : (insert fields name value).Distinct := by
  unfold Distinct
  rw [names_insert]
  split
  · exact distinct
  · rename_i fresh
    refine List.nodup_append.mpr ⟨distinct, by simp, ?_⟩
    intro key member other last same
    rw [List.mem_singleton.mp last] at same
    exact fresh (same ▸ member)

theorem distinct_ofPairs (pairs : List (String × α)) : (ofPairs pairs).Distinct := by
  suffices inserted : ∀ fields : Fields α, fields.Distinct →
      (pairs.foldl (fun fields pair => Fields.insert fields pair.1 pair.2) fields).Distinct from
    inserted [] List.nodup_nil
  induction pairs with
  | nil => exact fun _ distinct => distinct
  | cons pair rest ih =>
    intro fields distinct
    exact ih _ (distinct_insert distinct pair.1 pair.2)

theorem foldl_insert_of_distinct {fields pairs : Fields α} (distinct : Distinct (fields ++ pairs)) :
    pairs.foldl (fun fields pair => Fields.insert fields pair.1 pair.2) fields =
      fields ++ pairs := by
  induction pairs generalizing fields with
  | nil => exact (List.append_nil fields).symm
  | cons pair rest ih =>
    have fresh : pair.1 ∉ fields.names := by
      intro known
      rw [Distinct, names, List.map_append, List.map_cons, List.nodup_append] at distinct
      exact distinct.2.2 pair.1 known pair.1 List.mem_cons_self rfl
    rw [List.append_cons] at distinct ⊢
    rw [List.foldl_cons, insert_of_not_mem fresh, ih distinct]

/-- Pairs that repeat no name stay as they are. -/
theorem ofPairs_of_distinct {pairs : Fields α} (distinct : pairs.Distinct) : ofPairs pairs = pairs :=
  @foldl_insert_of_distinct α [] pairs distinct

theorem get?_eq_none_iff {fields : Fields α} {name : String} :
    get? fields name = none ↔ name ∉ fields.names := by
  induction fields with
  | nil => simp [get?, names]
  | cons entry rest ih =>
    obtain ⟨key, first⟩ := entry
    by_cases same : key = name
    · simp [get?, names, same]
    · simpa [get?, names, same, Ne.symm same] using ih

/-- Where no name repeats, finding a value is having the pair. -/
theorem get?_eq_some_iff {fields : Fields α} (distinct : fields.Distinct) {name : String}
    {value : α} : get? fields name = some value ↔ (name, value) ∈ fields := by
  induction fields with
  | nil => simp [get?]
  | cons entry rest ih =>
    obtain ⟨key, first⟩ := entry
    obtain ⟨once, others⟩ := List.nodup_cons.mp distinct
    by_cases same : key = name
    · subst same
      have absent : (key, value) ∉ rest := by
        intro member
        exact once (List.mem_map.mpr ⟨(key, value), member, rfl⟩)
      simp [get?, absent, eq_comm]
    · simp [get?, same, Ne.symm same, ih others]

end Fields

end Assay
