import Assay.Proofs.Config.Validity

/-! Runs of overrides. Each override is put to the last accepted configuration,
and one that is rejected leaves that configuration as it is. Every configuration
of a run is valid, an override is rejected only for repeating a suite, and where
a run ends is told by its accepted overrides alone. -/
namespace Assay.Config

/-- What the arguments ask of a configuration. -/
structure Override where
  suites : List Suite
  failFast : Bool

variable {config : Config} {step : Override}

/-- The configuration with the override in it, valid or not. -/
def merged (config : Config) (step : Override) : Config where
  suites := if step.suites = [] then config.suites else step.suites
  failFast := config.failFast || step.failFast

/-- The configuration after the override was accepted or rejected. -/
def advance (config : Config) (step : Override) : Config :=
  match config.override step.suites step.failFast with
  | .ok next => next
  | .error _ => config

def after (config : Config) (steps : List Override) : Config := steps.foldl advance config

/-- The overrides of a run that are accepted, in order. -/
def accepted (config : Config) : List Override → List Override
  | [] => []
  | step :: rest =>
    match config.override step.suites step.failFast with
    | .ok next => step :: accepted next rest
    | .error _ => accepted config rest

/-- Naming no suites is always acceptable: it keeps a list that is valid. -/
theorem merged_valid_iff (valid : config.Valid) :
    (config.merged step).Valid ↔ step.suites.Nodup := by
  by_cases none : step.suites = []
  · have same : (config.merged step).suites = config.suites := by simp [merged, none]
    rw [none]
    refine ⟨fun _ => List.nodup_nil, fun _ => ⟨?_, ?_⟩⟩
    · exact same ▸ valid.nonempty
    · exact same ▸ valid.distinct
  · have replaced : (config.merged step).suites = step.suites := by simp [merged, none]
    refine ⟨fun accepted => replaced ▸ accepted.distinct, fun distinct => ⟨?_, ?_⟩⟩
    · exact replaced.symm ▸ none
    · exact replaced.symm ▸ distinct

/-- The two things that can come of an override of a valid configuration. -/
theorem override_cases (valid : config.Valid) (step : Override) :
    (step.suites.Nodup ∧
      config.override step.suites step.failFast = .ok (config.merged step)) ∨
    (¬step.suites.Nodup ∧
      ∃ invalid, config.override step.suites step.failFast = .error invalid) := by
  have candidate : config.override step.suites step.failFast = (config.merged step).validated := rfl
  by_cases distinct : step.suites.Nodup
  · refine .inl ⟨distinct, ?_⟩
    rw [candidate, validated_eq_ok_iff]
    exact ⟨rfl, (merged_valid_iff valid).mpr distinct⟩
  · refine .inr ⟨distinct, ?_⟩
    cases outcome : config.override step.suites step.failFast with
    | error invalid => exact ⟨invalid, rfl⟩
    | ok next =>
      rw [candidate, validated_eq_ok_iff] at outcome
      exact absurd ((merged_valid_iff valid).mp outcome.2) distinct

theorem override_rejected_iff (valid : config.Valid) (step : Override) :
    (∃ invalid, config.override step.suites step.failFast = .error invalid) ↔
      ¬step.suites.Nodup := by
  rcases override_cases valid step with ⟨distinct, taken⟩ | ⟨repeated, rejected⟩
  · simp [taken, distinct]
  · exact iff_of_true rejected repeated

theorem advance_of_rejected {invalid : Invalid}
    (rejected : config.override step.suites step.failFast = .error invalid) :
    config.advance step = config := by
  simp only [advance, rejected]

theorem advance_valid (valid : config.Valid) (step : Override) : (config.advance step).Valid := by
  rcases override_cases valid step with ⟨distinct, taken⟩ | ⟨_, invalid, rejected⟩
  · simpa only [advance, taken] using (merged_valid_iff valid).mpr distinct
  · simpa only [advance_of_rejected rejected] using valid

theorem after_valid (valid : config.Valid) (steps : List Override) :
    (config.after steps).Valid := by
  induction steps generalizing config with
  | nil => exact valid
  | cons step rest ih => exact ih (advance_valid valid step)

theorem after_append (config : Config) (first second : List Override) :
    config.after (first ++ second) = (config.after first).after second :=
  List.foldl_append

/-- A run is the run of its accepted overrides, with nothing left to check. -/
theorem after_eq_foldl_merged (valid : config.Valid) (steps : List Override) :
    config.after steps = (config.accepted steps).foldl merged config := by
  induction steps generalizing config with
  | nil => rfl
  | cons step rest ih =>
    have next := ih (advance_valid valid step)
    rw [after, List.foldl_cons, accepted]
    rcases override_cases valid step with ⟨_, taken⟩ | ⟨_, invalid, rejected⟩
    · rw [advance, taken] at next ⊢
      exact next
    · rw [advance_of_rejected rejected] at next ⊢
      rw [rejected]
      exact next

theorem accepted_eq_filter (valid : config.Valid) (steps : List Override) :
    config.accepted steps = steps.filter fun step => step.suites.Nodup := by
  induction steps generalizing config with
  | nil => rfl
  | cons step rest ih =>
    rw [accepted]
    rcases override_cases valid step with ⟨distinct, taken⟩ | ⟨repeated, invalid, rejected⟩
    · rw [taken, List.filter_cons_of_pos (by simpa using distinct)]
      exact congrArg _ (ih ((merged_valid_iff valid).mpr distinct))
    · rw [rejected, List.filter_cons_of_neg (by simpa using repeated)]
      exact ih valid

theorem suites_foldl_merged (config : Config) (steps : List Override) :
    (steps.foldl merged config).suites =
      ((steps.map Override.suites).filter (· ≠ [])).getLastD config.suites := by
  induction steps generalizing config with
  | nil => rfl
  | cons step rest ih =>
    rw [List.foldl_cons, ih, List.map_cons]
    by_cases none : step.suites = []
    · simp [merged, none]
    · rw [List.filter_cons_of_pos (by simpa using none), List.getLastD_cons]
      simp [merged, none]

theorem failFast_foldl_merged (config : Config) (steps : List Override) :
    (steps.foldl merged config).failFast =
      (config.failFast || steps.any Override.failFast) := by
  induction steps generalizing config with
  | nil => exact (Bool.or_false _).symm
  | cons step rest ih => rw [List.foldl_cons, ih, List.any_cons, merged, Bool.or_assoc]

theorem failFast_after_of_prefix (valid : config.Valid) {earlier later : List Override}
    (before : earlier <+: later) (on : (config.after earlier).failFast = true) :
    (config.after later).failFast = true := by
  obtain ⟨rest, rfl⟩ := before
  rw [after_append, after_eq_foldl_merged (after_valid valid earlier), failFast_foldl_merged, on,
    Bool.true_or]

/-- Overrides from the standard configuration or a loaded one. Along the whole
run the configuration is valid and a step is rejected exactly when it repeats a
suite, which changes nothing. At the end the suites are those of the last accepted
override that names any, and failing fast is on when it was on at the start or an
accepted override turned it on; it is never turned off. -/
theorem overrides_run (start : Config)
    (origin : start = standard ∨ ∃ file, load file = .ok start) (steps : List Override) :
    (∀ done, done <+: steps → (start.after done).validate = .ok ()) ∧
    (∀ done step, done ++ [step] <+: steps →
      ((∃ invalid, (start.after done).override step.suites step.failFast = .error invalid) ↔
        ¬step.suites.Nodup) ∧
      (¬step.suites.Nodup → start.after (done ++ [step]) = start.after done)) ∧
    start.accepted steps = steps.filter (fun step => step.suites.Nodup) ∧
    (start.after steps).suites =
      (((start.accepted steps).map Override.suites).filter (· ≠ [])).getLastD start.suites ∧
    (start.after steps).failFast =
      (start.failFast || (start.accepted steps).any Override.failFast) ∧
    (∀ earlier later, earlier <+: later → later <+: steps →
      (start.after earlier).failFast = true → (start.after later).failFast = true) := by
  have valid : start.Valid := by
    rcases origin with rfl | ⟨file, loaded⟩
    · exact standard_valid
    · exact load_valid loaded
  refine ⟨?_, ?_, accepted_eq_filter valid steps, ?_, ?_, ?_⟩
  · intro done _
    exact (validate_eq_ok_iff _).mpr (after_valid valid done)
  · intro done step _
    have rejection := override_rejected_iff (after_valid valid done) step
    refine ⟨rejection, fun repeated => ?_⟩
    obtain ⟨invalid, rejected⟩ := rejection.mpr repeated
    rw [after_append]
    exact advance_of_rejected rejected
  · rw [after_eq_foldl_merged valid, suites_foldl_merged]
  · rw [after_eq_foldl_merged valid, failFast_foldl_merged]
  · intro earlier later before _ on
    exact failFast_after_of_prefix valid before on

/-- An override that is rejected between two that are not. -/
def contested : List Override :=
  [⟨[.records, .arithmetic], false⟩, ⟨[.statistics, .statistics], true⟩, ⟨[], false⟩]

theorem contested_run :
    standard.accepted contested = [⟨[.records, .arithmetic], false⟩, ⟨[], false⟩] ∧
      (standard.after contested).suites = [.records, .arithmetic] ∧
      (standard.after contested).failFast = false := by
  obtain ⟨_, _, taken, suites, failFast, _⟩ := overrides_run standard (.inl rfl) contested
  have accepted : standard.accepted contested = [⟨[.records, .arithmetic], false⟩, ⟨[], false⟩] :=
    taken.trans rfl
  rw [accepted] at suites failFast
  exact ⟨accepted, suites, failFast⟩

end Assay.Config
