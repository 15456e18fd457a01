import Assay.Proofs.Config.Acceptance

/-! Why a list of suites is refused. The list is walked once, and the suites met so far are
those before the place that was reached. So the suite that a refusal names is the one at
the first place that holds what an earlier place holds, whatever comes after it. -/
namespace Assay.Config

variable {seen suites : List Suite} {suite : Suite} {index : Nat}

section Walking

/-- The walk stops at a suite when those before it are new, each met once, and the suite is
not. -/
theorem firstRepeat?_eq_some_iff :
    firstRepeat? seen suites = some suite ↔
      ∃ fresh rest, suites = fresh ++ suite :: rest ∧ (suite ∈ fresh ∨ suite ∈ seen) ∧
        firstRepeat? seen fresh = none := by
  induction suites generalizing seen with
  | nil => simp [firstRepeat?]
  | cons next later ih =>
    by_cases old : next ∈ seen
    · -- The walk goes no further, so nothing can be before the suite.
      simp only [firstRepeat?, old, if_true, Option.some.injEq]
      constructor
      · rintro rfl
        exact ⟨[], later, rfl, .inr old, rfl⟩
      · rintro ⟨fresh, rest, split, -, new⟩
        cases fresh with
        | nil => exact (List.cons.inj split).1
        | cons first others =>
          obtain ⟨rfl, -⟩ := List.cons.inj split
          simp [firstRepeat?, old] at new
    · -- The walk goes on with one suite more seen, which is then the first of those before.
      simp only [firstRepeat?, old, if_false, ih]
      constructor
      · rintro ⟨fresh, rest, rfl, known, new⟩
        refine ⟨next :: fresh, rest, rfl, ?_, ?_⟩
        · simpa [or_assoc, or_left_comm] using known
        · simpa [firstRepeat?, old] using new
      · rintro ⟨fresh, rest, split, known, new⟩
        cases fresh with
        | nil =>
          obtain ⟨rfl, -⟩ := List.cons.inj split
          simp [old] at known
        | cons first others =>
          obtain ⟨rfl, rfl⟩ := List.cons.inj split
          refine ⟨others, rest, rfl, ?_, ?_⟩
          · simpa [or_assoc, or_left_comm] using known
          · simpa [firstRepeat?, old] using new

end Walking

section Places

/-- The suite is at the place and at an earlier one. -/
def RepeatsAt (suites : List Suite) (index : Nat) (suite : Suite) : Prop :=
  suites[index]? = some suite ∧ ∃ earlier < index, suites[earlier]? = some suite

/-- The smallest place at which a suite comes again, and that suite. -/
structure FirstRepeat (suites : List Suite) (index : Nat) (suite : Suite) : Prop where
  repeats : RepeatsAt suites index suite
  smallest : ∀ smaller < index, ∀ other, ¬RepeatsAt suites smaller other

theorem repeatsAt_iff :
    RepeatsAt suites index suite ↔ suites[index]? = some suite ∧ suite ∈ suites.take index := by
  simp only [RepeatsAt, List.mem_iff_getElem?, List.getElem?_take, Option.ite_none_right_eq_some]

theorem nodup_take_iff :
    (suites.take index).Nodup ↔ ∀ smaller < index, ∀ other, ¬RepeatsAt suites smaller other := by
  rw [List.nodup_iff_getElem?_ne_getElem?]
  simp only [List.getElem?_take, List.length_take, Nat.lt_min]
  constructor
  · rintro distinct smaller below other ⟨here, earlier, before, there⟩
    have inside : smaller < suites.length := (List.getElem?_eq_some_iff.mp here).1
    apply distinct earlier smaller before ⟨below, inside⟩
    rw [if_pos (before.trans below), if_pos below, here, there]
  · rintro unrepeated earlier place before ⟨below, inside⟩ same
    rw [if_pos (before.trans below), if_pos below, List.getElem?_eq_getElem inside] at same
    exact unrepeated place below _ ⟨List.getElem?_eq_getElem inside, earlier, before, same⟩

theorem firstRepeat_iff :
    FirstRepeat suites index suite ↔
      suites[index]? = some suite ∧ suite ∈ suites.take index ∧ (suites.take index).Nodup := by
  rw [nodup_take_iff, ← and_assoc, ← repeatsAt_iff]
  exact ⟨fun first => ⟨first.repeats, first.smallest⟩, fun first => ⟨first.1, first.2⟩⟩

theorem firstRepeat?_nil_eq_some_iff :
    firstRepeat? [] suites = some suite ↔ ∃ index, FirstRepeat suites index suite := by
  simp only [firstRepeat?_eq_some_iff, firstRepeat_iff, firstRepeat?_eq_none_iff]
  constructor
  · rintro ⟨fresh, rest, rfl, known, -, distinct⟩
    refine ⟨fresh.length, ?_, ?_, ?_⟩
    · simp
    · simpa using known
    · simpa using distinct
  · rintro ⟨index, here, known, distinct⟩
    obtain ⟨inside, rfl⟩ := List.getElem?_eq_some_iff.mp here
    refine ⟨suites.take index, suites.drop (index + 1), ?_, .inl known, by simp, distinct⟩
    rw [← List.drop_eq_getElem_cons, List.take_append_drop]

end Places

section Refusing

theorem length_le_of_nodup (distinct : suites.Nodup) : suites.length ≤ 3 :=
  (distinct.subperm fun suite _ => suite.mem_all).length_le

theorem exists_firstRepeat (repeated : ¬suites.Nodup) :
    ∃ index suite, FirstRepeat suites index suite := by
  cases found : firstRepeat? [] suites with
  | none => exact absurd ((firstRepeat?_eq_none_iff [] suites).mp found).2 repeated
  | some suite =>
    obtain ⟨index, first⟩ := firstRepeat?_nil_eq_some_iff.mp found
    exact ⟨index, suite, first⟩

theorem validate_eq_noSuites_iff (config : Config) :
    config.validate = .error .noSuites ↔ config.suites = [] := by
  unfold validate
  split
  · rename_i empty
    simp [empty]
  · rename_i nonempty
    split <;> exact ⟨nofun, fun empty => absurd empty nonempty⟩

theorem validate_eq_repeated_iff (config : Config) :
    config.validate = .error (.repeated suite) ↔ ∃ index, FirstRepeat config.suites index suite := by
  rw [← firstRepeat?_nil_eq_some_iff]
  unfold validate
  split
  · rename_i empty
    simp [empty, firstRepeat?]
  · split
    · rename_i found
      simp [found]
    · rename_i none
      simp [none]

/-- The text of a refusal tells which one it is. -/
theorem Invalid.message_injective : Function.Injective Invalid.message := by
  intro first second same
  cases first with
  | noSuites =>
    cases second with
    | noSuites => rfl
    | repeated suite => cases suite <;> contradiction
  | repeated suite =>
    cases second with
    | noSuites => cases suite <;> contradiction
    | repeated other =>
      simp only [message, String.append_left_inj, String.append_right_inj] at same
      rw [Suite.name_injective same]

/-- What is said of a configuration: nothing when it is accepted, else why it is not. -/
def verdict (config : Config) : Except String Unit := config.validate.mapError Invalid.message

theorem verdict_eq_message_iff (config : Config) (invalid : Invalid) :
    config.verdict = .error invalid.message ↔ config.validate = .error invalid := by
  rw [verdict, mapError_eq_error_iff]
  constructor
  · rintro ⟨told, refused, same⟩
    rw [refused, Invalid.message_injective same]
  · intro refused
    exact ⟨invalid, refused, rfl⟩

/-- Suites are accepted exactly when there is one and none comes twice, so never more than
three of them. Refused suites are none at all, or the text names the suite at the first
place that holds what an earlier place holds. Whether to fail fast has no part in it. -/
theorem validate_verdict (suites : List Suite) (failFast : Bool) :
    (validate ⟨suites, failFast⟩ = .ok () ↔ suites ≠ [] ∧ suites.Pairwise (· ≠ ·)) ∧
    (3 < suites.length → ∃ invalid, validate ⟨suites, failFast⟩ = .error invalid) ∧
    (verdict ⟨suites, failFast⟩ = .error "suites must be a non-empty array" ↔ suites = []) ∧
    (∀ suite, verdict ⟨suites, failFast⟩ =
        .error ("suite `" ++ suite.name ++ "` listed more than once") ↔
      ∃ index, FirstRepeat suites index suite) ∧
    (¬suites.Pairwise (· ≠ ·) → ∃ index suite, FirstRepeat suites index suite) ∧
    ∀ other, validate ⟨suites, other⟩ = validate ⟨suites, failFast⟩ := by
  have accepted := validate_eq_ok_iff ⟨suites, failFast⟩
  refine ⟨?_, ?_, ?_, ?_, ?_, ?_⟩
  · rw [accepted]
    exact ⟨fun valid => ⟨valid.nonempty, valid.distinct⟩, fun valid => ⟨valid.1, valid.2⟩⟩
  · intro long
    cases told : validate ⟨suites, failFast⟩ with
    | error invalid => exact ⟨invalid, rfl⟩
    | ok done =>
      have few : suites.length ≤ 3 := length_le_of_nodup (accepted.mp told).distinct
      omega
  · exact (verdict_eq_message_iff _ .noSuites).trans (validate_eq_noSuites_iff _)
  · intro suite
    exact (verdict_eq_message_iff _ (.repeated suite)).trans (validate_eq_repeated_iff _)
  · exact exists_firstRepeat
  · intro other
    rfl

/-- Two suites come again, and the one that came first comes again last. -/
def crowded : List Suite := [.records, .statistics, .arithmetic, .statistics, .records]

theorem crowded_verdict :
    3 < crowded.length ∧ ¬crowded.Pairwise (· ≠ ·) ∧
    (∃ invalid, validate ⟨crowded, true⟩ = .error invalid) ∧
    (∃ index suite, FirstRepeat crowded index suite) ∧
    verdict ⟨crowded, true⟩ = .error "suite `statistics` listed more than once" := by
  obtain ⟨-, refused, -, named, again, -⟩ := validate_verdict crowded true
  have long : 3 < crowded.length := by simp [crowded]
  have repeated : ¬crowded.Pairwise (· ≠ ·) := by simp [crowded]
  refine ⟨long, repeated, refused long, again repeated, (named .statistics).mpr ?_⟩
  refine ⟨3, ⟨rfl, 1, by omega, rfl⟩, nodup_take_iff.mp ?_⟩
  simp [crowded]

end Refusing

end Assay.Config
