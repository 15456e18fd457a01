import Assay.Proofs.Config.Validity
import Assay.Proofs.Toml.Keys

/-! Which tables are configurations. The entries of a table are taken one by one, and each
sets a field that the others leave alone, so what is decoded is told by the values under the
two known keys. An entry under any other key is refused, never passed over. -/
namespace Assay

theorem Suite.name_injective : Function.Injective Suite.name := fun _ _ => eq_of_name_eq

namespace Config

variable {entries : Fields Toml} {config next result : Config} {key : String} {v : Toml}

section Decoding

theorem readFlag_eq_ok_iff {b : Bool} : readFlag v = .ok b ↔ v = .boolean b := by
  constructor
  · intro read
    unfold readFlag at read
    split at read
    · cases read
      rfl
    · contradiction
  · rintro rfl
    rfl

theorem readSuite_string_eq_ok_iff {name : String} {suite : Suite} :
    readSuite (.string name) = .ok suite ↔ suite.name = name := by
  rw [← Suite.ofTag?_eq_some_iff, readSuite, namedSuite]
  cases Suite.ofTag? name with
  | none => simp
  | some found => simp

/-- An array of strings. -/
def nameArray (names : List String) : Toml := .array (names.map .string)

theorem readSuites_nameArray_eq_ok_iff {names : List String} {suites : List Suite} :
    readSuites (nameArray names) = .ok suites ↔ suites.map Suite.name = names := by
  calc
    readSuites (nameArray names) = .ok suites ↔
        List.Forall₂ (fun name suite => readSuite (.string name) = .ok suite) names suites := by
      rw [readSuites.eq_def, nameArray]
      simp only [mapM_eq_ok_iff, List.forall₂_map_left_iff]
    _ ↔ List.Forall₂ (fun name suite => name = Suite.name suite) names suites := by
      simp only [readSuite_string_eq_ok_iff, @eq_comm String]
    _ ↔ suites.map Suite.name = names := by
      rw [← List.forall₂_map_right_iff, List.forall₂_eq_eq_eq, eq_comm]

/-- What an entry can do to a configuration. -/
theorem setField_eq_ok_iff :
    setField config (key, v) = .ok next ↔
      (key = "suites" ∧ ∃ suites, readSuites v = .ok suites ∧ next = { config with suites }) ∨
      (key = "fail_fast" ∧
        ∃ failFast, readFlag v = .ok failFast ∧ next = { config with failFast }) := by
  simp only [setField]
  split
  · rename_i suites
    simp [suites, map_eq_ok_iff, @eq_comm Config]
  · rename_i other
    split
    · rename_i flag
      simp [flag, map_eq_ok_iff, @eq_comm Config]
    · rename_i unknown
      simp [other, unknown]

/-- The value of a field: what was read, or the one before when there was nothing to read. -/
def Settles {α : Type} (read : Toml → Except DecodeError α) (before : α) : Option Toml → α → Prop
  | none, after => after = before
  | some v, after => read v = .ok after

section Settling

variable {α : Type} {read : Toml → Except DecodeError α} {before after : α}

theorem settles_cons_self (once : Fields.get? entries key = none) :
    Settles read before (Fields.get? ((key, v) :: entries) key) after ↔
      ∃ value, read v = .ok value ∧ Settles read value (Fields.get? entries key) after := by
  rw [Fields.get?_cons_self, once]
  constructor
  · intro settled
    exact ⟨after, settled, rfl⟩
  · rintro ⟨value, settled, rfl⟩
    exact settled

theorem settles_cons_of_ne {field : String} (apart : key ≠ field) :
    Settles read before (Fields.get? ((key, v) :: entries) field) after ↔
      Settles read before (Fields.get? entries field) after := by
  rw [Fields.get?_cons_of_ne apart]

end Settling

/-- The keys of the fields. -/
def IsField (key : String) : Prop := key = "suites" ∨ key = "fail_fast"

/-- Decoding from any configuration on. -/
theorem foldlM_setField_eq_ok_iff (distinct : entries.Distinct) :
    entries.foldlM setField config = .ok result ↔
      (∀ key ∈ entries.names, IsField key) ∧
      Settles readSuites config.suites (Fields.get? entries "suites") result.suites ∧
      Settles readFlag config.failFast (Fields.get? entries "fail_fast") result.failFast := by
  induction entries generalizing config with
  | nil =>
    constructor
    · intro same
      cases same
      exact ⟨nofun, rfl, rfl⟩
    · rintro ⟨_, suites, failFast⟩
      cases config
      cases result
      cases suites
      cases failFast
      rfl
  | cons entry rest ih =>
    obtain ⟨key, v⟩ := entry
    obtain ⟨once, others⟩ := List.nodup_cons.mp distinct
    -- No later entry sets the same field again.
    have absent : Fields.get? rest key = none := Fields.get?_eq_none_iff.mpr once
    have known : (∀ other ∈ Fields.names ((key, v) :: rest), IsField other) ↔
        IsField key ∧ ∀ other ∈ Fields.names rest, IsField other := List.forall_mem_cons
    rw [List.foldlM_cons, bind_eq_ok_iff, known]
    simp only [setField_eq_ok_iff, ih others]
    constructor
    · rintro ⟨next, ⟨rfl, suites, read, rfl⟩ | ⟨rfl, failFast, read, rfl⟩, fields, first, second⟩
      · refine ⟨⟨.inl rfl, fields⟩, ?_, (settles_cons_of_ne (by decide)).mpr second⟩
        exact (settles_cons_self absent).mpr ⟨suites, read, first⟩
      · refine ⟨⟨.inr rfl, fields⟩, (settles_cons_of_ne (by decide)).mpr first, ?_⟩
        exact (settles_cons_self absent).mpr ⟨failFast, read, second⟩
    · rintro ⟨⟨rfl | rfl, fields⟩, first, second⟩
      · obtain ⟨suites, read, first⟩ := (settles_cons_self absent).mp first
        rw [settles_cons_of_ne (by decide)] at second
        exact ⟨{ config with suites }, .inl ⟨rfl, suites, read, rfl⟩, fields, first, second⟩
      · obtain ⟨failFast, read, second⟩ := (settles_cons_self absent).mp second
        rw [settles_cons_of_ne (by decide)] at first
        exact ⟨{ config with failFast }, .inr ⟨rfl, failFast, read, rfl⟩, fields, first, second⟩

theorem ofTable_eq_ok_iff (distinct : entries.Distinct) :
    ofTable entries = .ok config ↔
      (∀ key ∈ entries.names, IsField key) ∧
      Settles readSuites standard.suites (Fields.get? entries "suites") config.suites ∧
      Settles readFlag standard.failFast (Fields.get? entries "fail_fast") config.failFast :=
  foldlM_setField_eq_ok_iff distinct

end Decoding

section Tables

/-- The table lists these names as its suites. -/
def Lists (entries : Fields Toml) (names : List String) : Prop :=
  Fields.get? entries "suites" = some (nameArray names)

/-- The table has no key but the two, and what it has under them will do: names of suites,
at least one and none of them twice, and a boolean. -/
structure Acceptable (entries : Fields Toml) : Prop where
  fields : ∀ key ∈ entries.names, IsField key
  named : ∀ names, Lists entries names → ∀ name ∈ names, ∃ suite : Suite, suite.name = name
  nonempty : ∀ names, Lists entries names → names ≠ []
  distinct : ∀ names, Lists entries names → names.Nodup
  flag : ∀ v, Fields.get? entries "fail_fast" = some v → ∃ b, v = .boolean b

/-- The configuration has what the table has, in its order, and where the table has nothing
every suite, to the end. -/
structure Follows (config : Config) (entries : Fields Toml) : Prop where
  listed : ∀ names, Lists entries names → config.suites.map Suite.name = names
  unlisted : Fields.get? entries "suites" = none →
    config.suites = [.arithmetic, .statistics, .records]
  flagged : ∀ b, Fields.get? entries "fail_fast" = some (.boolean b) → config.failFast = b
  unflagged : Fields.get? entries "fail_fast" = none → config.failFast = false

theorem follows_of_ofTable (distinct : entries.Distinct) (decoded : ofTable entries = .ok config) :
    config.Follows entries := by
  obtain ⟨_, suites, failFast⟩ := (ofTable_eq_ok_iff distinct).mp decoded
  constructor
  · intro names lists
    rw [lists] at suites
    exact readSuites_nameArray_eq_ok_iff.mp suites
  · intro absent
    rw [absent] at suites
    exact suites
  · intro b given
    rw [given] at failFast
    cases failFast
    rfl
  · intro absent
    rw [absent] at failFast
    exact failFast

theorem acceptable_of_loadTable (distinct : entries.Distinct)
    (loaded : loadTable entries = .ok config) : Acceptable entries := by
  obtain ⟨decoded, valid⟩ := loadTable_eq_ok_iff.mp loaded
  have listed := (follows_of_ofTable distinct decoded).listed
  obtain ⟨fields, _, failFast⟩ := (ofTable_eq_ok_iff distinct).mp decoded
  constructor
  · exact fields
  · intro names lists name member
    rw [← listed names lists] at member
    obtain ⟨suite, _, same⟩ := List.mem_map.mp member
    exact ⟨suite, same⟩
  · rintro names lists rfl
    exact valid.nonempty (List.map_eq_nil_iff.mp (listed [] lists))
  · intro names lists
    rw [← listed names lists]
    exact valid.distinct.map Suite.name_injective
  · intro v given
    rw [given] at failFast
    exact ⟨config.failFast, readFlag_eq_ok_iff.mp failFast⟩

theorem exists_suites (acceptable : Acceptable entries)
    (listed : ∀ v, Fields.get? entries "suites" = some v → ∃ names, v = nameArray names) :
    ∃ suites, Settles readSuites standard.suites (Fields.get? entries "suites") suites ∧
      suites ≠ [] ∧ suites.Nodup := by
  cases given : Fields.get? entries "suites" with
  | none => exact ⟨standard.suites, rfl, standard_valid.nonempty, standard_valid.distinct⟩
  | some v =>
    obtain ⟨names, rfl⟩ := listed v given
    obtain ⟨suites, rfl⟩ : ∃ suites : List Suite, suites.map Suite.name = names := by
      have named := acceptable.named names given
      rwa [← Set.mem_range, Set.range_list_map]
    refine ⟨suites, readSuites_nameArray_eq_ok_iff.mpr rfl, ?_, ?_⟩
    · rintro rfl
      exact acceptable.nonempty _ given rfl
    · exact List.Nodup.of_map _ (acceptable.distinct _ given)

theorem exists_flag (acceptable : Acceptable entries) :
    ∃ failFast,
      Settles readFlag standard.failFast (Fields.get? entries "fail_fast") failFast := by
  cases given : Fields.get? entries "fail_fast" with
  | none => exact ⟨standard.failFast, rfl⟩
  | some v =>
    obtain ⟨b, rfl⟩ := acceptable.flag v given
    exact ⟨b, rfl⟩

theorem exists_loadTable (distinct : entries.Distinct) (acceptable : Acceptable entries)
    (listed : ∀ v, Fields.get? entries "suites" = some v → ∃ names, v = nameArray names) :
    ∃ config, loadTable entries = .ok config := by
  obtain ⟨suites, settled, nonempty, once⟩ := exists_suites acceptable listed
  obtain ⟨failFast, flag⟩ := exists_flag acceptable
  refine ⟨⟨suites, failFast⟩, loadTable_eq_ok_iff.mpr ⟨?_, nonempty, once⟩⟩
  exact (ofTable_eq_ok_iff distinct).mpr ⟨acceptable.fields, settled, flag⟩

/-- Loading goes by the table of the text, in which no key comes twice, and a missing file
counts as an empty table. Where the suites of a table, if it has any, are an array of
strings, the table is accepted exactly when it has the two known keys only, every string is
the name of a suite, there is at least one and none twice, and the flag is a boolean. The
configuration takes each field that is there from the table and each other one from the
standard. -/
theorem load_accepts :
    (∀ (contents : String) (entries : Fields Toml), Toml.parse? contents = some entries →
      entries.Distinct ∧ load (.text contents) = loadTable entries) ∧
    load .missing = loadTable [] ∧ loadTable [] = .ok standard ∧
    ∀ entries : Fields Toml, entries.Distinct →
      (∀ v, Fields.get? entries "suites" = some v → ∃ names, v = nameArray names) →
      ((∃ config, loadTable entries = .ok config) ↔ Acceptable entries) ∧
      ∀ config, loadTable entries = .ok config → config.Follows entries := by
  refine ⟨?_, rfl, rfl, ?_⟩
  · intro contents entries parsed
    exact ⟨Toml.parse?_distinct parsed, by rw [load, parsed]⟩
  · intro entries distinct listed
    refine ⟨⟨?_, ?_⟩, ?_⟩
    · rintro ⟨config, loaded⟩
      exact acceptable_of_loadTable distinct loaded
    · intro acceptable
      exact exists_loadTable distinct acceptable listed
    · intro config loaded
      exact follows_of_ofTable distinct (loadTable_eq_ok_iff.mp loaded).1

def flagOnly : Fields Toml := [("fail_fast", .boolean true)]

/-- The second name is not the name of a suite, though one differs from it in case only. -/
def misspelled : Fields Toml := [("suites", nameArray ["records", "Arithmetic"])]

theorem fragment_accepts :
    Toml.parse? "fail_fast = true\n" = some flagOnly ∧
    load (.text "fail_fast = true\n") = .ok ⟨[.arithmetic, .statistics, .records], true⟩ ∧
    ¬∃ config, loadTable misspelled = .ok config := by
  obtain ⟨texts, _, _, tables⟩ := load_accepts
  have parsed : Toml.parse? "fail_fast = true\n" = some flagOnly := by cbv
  refine ⟨parsed, ?_, ?_⟩
  · obtain ⟨distinct, same⟩ := texts _ _ parsed
    have unlisted : Fields.get? flagOnly "suites" = none := by simp [flagOnly, Fields.get?]
    obtain ⟨accepted, follows⟩ := tables flagOnly distinct (by simp [unlisted])
    have acceptable : Acceptable flagOnly := by
      constructor <;> simp [flagOnly, Lists, IsField, Fields.names, Fields.get?]
    obtain ⟨⟨suites, failFast⟩, loaded⟩ := accepted.mpr acceptable
    obtain rfl := (follows _ loaded).unlisted unlisted
    obtain rfl := (follows _ loaded).flagged true (by simp [flagOnly, Fields.get?])
    rw [same, loaded]
  · have lists : Lists misspelled ["records", "Arithmetic"] := by
      simp [misspelled, Lists, Fields.get?]
    have distinct : misspelled.Distinct := List.nodup_singleton _
    rw [(tables misspelled distinct ?_).1]
    · intro acceptable
      obtain ⟨suite, same⟩ := acceptable.named _ lists "Arithmetic" (by decide)
      cases suite with
      | arithmetic | statistics | records => contradiction
    · intro v given
      rw [lists] at given
      exact ⟨_, (Option.some.inj given).symm⟩

end Tables

end Config

end Assay
