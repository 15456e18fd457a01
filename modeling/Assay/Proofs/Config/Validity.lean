import Assay.Config.File
import Assay.Proofs.Success

/-! Which configurations are accepted. Validation accepts a list of suites that
is not empty and does not repeat itself, and whatever is loaded has passed it. -/
namespace Assay.Config

structure Valid (config : Config) : Prop where
  nonempty : config.suites ≠ []
  distinct : config.suites.Nodup

theorem firstRepeat?_eq_none_iff (seen suites : List Suite) :
    firstRepeat? seen suites = none ↔ (∀ suite ∈ suites, suite ∉ seen) ∧ suites.Nodup := by
  induction suites generalizing seen with
  | nil => simp [firstRepeat?]
  | cons suite rest ih =>
    by_cases old : suite ∈ seen
    · simp [firstRepeat?, old]
    · -- The suite joins the ones seen, so it must not come again.
      have later : (∀ other ∈ rest, other ∉ suite :: seen) ↔
          (∀ other ∈ rest, other ∉ seen) ∧ suite ∉ rest := by
        constructor
        · intro fresh
          refine ⟨fun other member => ?_, fun member => fresh suite member List.mem_cons_self⟩
          exact fun known => fresh other member (List.mem_cons_of_mem suite known)
        · rintro ⟨fresh, once⟩ other member known
          rcases List.mem_cons.mp known with rfl | known
          · exact once member
          · exact fresh other member known
      simp only [firstRepeat?, old, if_false, ih, later, List.forall_mem_cons, not_false_eq_true,
        true_and, List.nodup_cons, and_assoc]

theorem validate_eq_ok_iff (config : Config) : config.validate = .ok () ↔ config.Valid := by
  have distinct := firstRepeat?_eq_none_iff [] config.suites
  simp only [List.not_mem_nil, not_false_eq_true, implies_true, true_and] at distinct
  unfold validate
  split
  · rename_i empty
    exact ⟨nofun, fun valid => absurd empty valid.nonempty⟩
  · rename_i nonempty
    split
    · rename_i suite found
      refine ⟨nofun, fun valid => ?_⟩
      rw [distinct.mpr valid.distinct] at found
      contradiction
    · rename_i none
      exact ⟨fun _ => ⟨nonempty, distinct.mp none⟩, fun _ => rfl⟩

theorem validated_eq_ok_iff (config accepted : Config) :
    config.validated = .ok accepted ↔ accepted = config ∧ config.Valid := by
  rw [← validate_eq_ok_iff]
  unfold validated
  cases config.validate with
  | ok done => simp [Except.map, eq_comm]
  | error invalid => simp [Except.map]

theorem standard_valid : standard.Valid := ⟨by decide, by decide⟩

theorem loadTable_eq_ok_iff {entries : List (String × Toml)} {config : Config} :
    loadTable entries = .ok config ↔ ofTable entries = .ok config ∧ config.Valid := by
  simp only [loadTable, bind_eq_ok_iff, mapError_eq_ok_iff, validated_eq_ok_iff]
  constructor
  · rintro ⟨described, decoded, rfl, valid⟩
    exact ⟨decoded, valid⟩
  · rintro ⟨decoded, valid⟩
    exact ⟨config, decoded, rfl, valid⟩

theorem load_valid {file : File} {config : Config} (loaded : load file = .ok config) :
    config.Valid := by
  cases file with
  | missing =>
    cases loaded
    exact standard_valid
  | unreadable reason => cases loaded
  | text contents =>
    simp only [load] at loaded
    split at loaded
    · exact (loadTable_eq_ok_iff.mp loaded).2
    · contradiction

end Assay.Config
