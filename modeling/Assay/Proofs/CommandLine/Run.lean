import Assay.Proofs.Config.Overrides
import Assay.Proofs.Report.Payload
import Assay.Proofs.Report.Verdict

/-! What the command that runs the suites does for every configuration file and
every list of arguments. It fails when the file does not load or an argument is
repeated, and for no other reason. Otherwise the checks that come with the
suites all pass, so the exit code is 0 and the output is the same whether or not
the run fails fast. -/
namespace Assay

theorem Suite.checks_pass (suite : Suite) :
    ∀ check ∈ suite.checks, check.outcome = .ok () := by
  cases suite with
  | arithmetic =>
    have add : Check.add = .ok () := rfl
    have amplify : Check.amplify = .ok () := rfl
    have accumulate : Check.accumulate = .ok () := rfl
    simp [checks, add, amplify, accumulate]
  | statistics =>
    have journal : Check.journal = .ok () := rfl
    have summarize : Check.summarize = .ok () := rfl
    simp [checks, journal, summarize]
  | records =>
    have describe : Check.describe = .ok () := rfl
    have find : Check.find = .ok () := rfl
    -- Reading a document recurses on the length of its text, which `rfl` does not unfold.
    have archive : Check.archive = .ok () := by cbv
    simp [checks, describe, find, archive]

namespace Plan

theorem map_fst_ofSuites (suites : List Suite) : (ofSuites suites).map Prod.fst = suites := by
  simp [ofSuites, Function.comp_def]

theorem ofSuites_passes (suites : List Suite) : (ofSuites suites).Passes := by
  rw [passes_iff]
  intro entry member
  obtain ⟨suite, _, rfl⟩ := List.mem_map.mp member
  exact suite.checks_pass

theorem ofSuites_complete {suites : List Suite} (distinct : suites.Nodup) :
    (ofSuites suites).Complete := by
  refine ⟨by rwa [map_fst_ofSuites], ?_⟩
  intro entry member
  obtain ⟨suite, _, rfl⟩ := List.mem_map.mp member
  rfl

/-- Every check of the suites, with no failure. -/
def passedFindings (suites : List Suite) : List Finding :=
  suites.flatMap fun suite => suite.checks.map fun check => ⟨suite, check.name, .passed⟩

theorem findings_ofSuites (suites : List Suite) :
    (ofSuites suites).findings = passedFindings suites := by
  induction suites with
  | nil => rfl
  | cons suite rest ih =>
    have own : suite.checks.map (Check.finding suite) =
        suite.checks.map fun check => ⟨suite, check.name, .passed⟩ := by
      apply List.map_congr_left
      intro check member
      simp only [Check.finding, suite.checks_pass check member]
    rw [ofSuites, List.map_cons, findings_cons, own, passedFindings, List.flatMap_cons]
    exact congrArg _ ih

theorem run_ofSuites (failFast : Bool) (suites : List Suite) :
    (ofSuites suites).run failFast = ⟨suites, passedFindings suites⟩ := by
  rw [run_of_passes failFast (ofSuites_passes suites), map_fst_ofSuites, findings_ofSuites]

end Plan

namespace CommandLine

/-- The success messages, one on each line. -/
def successLines (suites : List Suite) : String :=
  String.join (suites.map fun suite => suite.successMessage ++ "\n")

/-- The suites by name, and for each in turn all of its checks as passed. -/
def successJson (suites : List Suite) : Json :=
  .object
    [("suites", .array (suites.map fun suite => .string suite.name)),
      ("checks", .array (suites.flatMap fun suite => suite.checks.map fun check =>
        .object [("suite", .string suite.name), ("check", .string check.name),
          ("status", .string "passed")]))]

theorem successText_eq_successLines {suites : List Suite} (nonempty : suites ≠ []) :
    Report.successText suites = successLines suites := by
  induction suites with
  | nil => contradiction
  | cons suite rest ih =>
    cases rest with
    | nil => simp [Report.successText, successLines]
    | cons next rest =>
      have later := ih (List.cons_ne_nil next rest)
      calc Report.successText (suite :: next :: rest)
          = suite.successMessage ++ "\n" ++ Report.successText (next :: rest) := by
            simp [Report.successText, String.append_assoc]
        _ = suite.successMessage ++ "\n" ++ successLines (next :: rest) := by rw [later]
        _ = successLines (suite :: next :: rest) := String.join_cons.symm

theorem toJson_passedFindings (suites : List Suite) :
    (⟨suites, Plan.passedFindings suites⟩ : Report).toJson = successJson suites := by
  simp [Report.toJson, successJson, Plan.passedFindings, List.map_flatMap, Function.comp_def,
    Finding.toJson, Suite.toJson_eq, Outcome.members]

theorem parse?_successJson (suites : List Suite) :
    Json.parse? ((successJson suites).pretty ++ "\n") = some (successJson suites) := by
  rw [← toJson_passedFindings]
  exact Report.parse?_printed ⟨suites, Plan.passedFindings suites⟩

/-- The suites that a run is about: the arguments if there are any. -/
def chosenSuites (configured arguments : List Suite) : List Suite :=
  if arguments = [] then configured else arguments

theorem configure_of_load_error {file : Config.File} {error : Config.LoadError}
    (failed : Config.load file = .error error) (options : RunOptions) :
    configure file options = .error error := by
  simp only [configure, failed, bind, Except.bind]

theorem configure_of_load_ok {file : Config.File} {loaded : Config}
    (success : Config.load file = .ok loaded) (options : RunOptions) :
    (options.suites.Nodup ∧ configure file options =
      .ok ⟨chosenSuites loaded.suites options.suites, loaded.failFast || options.failFast⟩) ∨
    (¬options.suites.Nodup ∧ ∃ error, configure file options = .error error) := by
  have step := Config.override_cases (Config.load_valid success) ⟨options.suites, options.failFast⟩
  simp only [configure, success, bind, Except.bind]
  rcases step with ⟨distinct, taken⟩ | ⟨repeated, invalid, rejected⟩
  · rw [taken]
    exact .inl ⟨distinct, rfl⟩
  · rw [rejected]
    exact .inr ⟨repeated, _, rfl⟩

theorem configure_eq_error_iff (file : Config.File) (options : RunOptions) :
    (∃ error, configure file options = .error error) ↔
      (∃ error, Config.load file = .error error) ∨ ¬options.suites.Nodup := by
  cases loading : Config.load file with
  | error error =>
    exact iff_of_true ⟨error, configure_of_load_error loading options⟩ (.inl ⟨error, rfl⟩)
  | ok loaded =>
    rcases configure_of_load_ok loading options with ⟨distinct, taken⟩ | ⟨repeated, rejected⟩
    · simp [taken, distinct]
    · exact iff_of_true rejected (.inr repeated)

theorem configure_valid {file : Config.File} {options : RunOptions} {config : Config}
    (configured : configure file options = .ok config) : config.Valid := by
  rw [configure, bind_eq_ok_iff] at configured
  obtain ⟨loaded, _, overridden⟩ := configured
  obtain ⟨rfl, valid⟩ := (Config.validated_eq_ok_iff _ _).mp (mapError_eq_ok_iff.mp overridden)
  exact valid

theorem printed_run_ofSuites (json failFast : Bool) {suites : List Suite}
    (nonempty : suites ≠ []) (distinct : suites.Nodup) :
    printed json ((Plan.ofSuites suites).run failFast) =
      if json then (successJson suites).pretty ++ "\n" else successLines suites := by
  cases json with
  | true =>
    rw [Plan.run_ofSuites]
    simp only [printed, if_true, Report.prettyJson, toJson_passedFindings]
  | false =>
    have text := (Plan.text_eq_successText_iff (Plan.ofSuites_complete distinct) failFast).mpr
      (Plan.ofSuites_passes suites)
    rw [Plan.map_fst_ofSuites, successText_eq_successLines nonempty] at text
    simpa [printed] using text

theorem runSuites_of_configure_ok {file : Config.File} {options : RunOptions} {config : Config}
    (configured : configure file options = .ok config) :
    runSuites file options =
      ⟨0, if options.json then (successJson config.suites).pretty ++ "\n"
        else successLines config.suites, ""⟩ := by
  have valid := configure_valid configured
  have passed := (Plan.run_passed_iff config.failFast _).mpr (Plan.ofSuites_passes config.suites)
  simp only [runSuites, configured, exitCode, passed, if_true,
    printed_run_ofSuites options.json config.failFast valid.nonempty valid.distinct]

theorem runSuites_of_load_ok {file : Config.File} {options : RunOptions} {loaded : Config}
    (success : Config.load file = .ok loaded) (distinct : options.suites.Nodup) :
    runSuites file options =
      ⟨0, if options.json
        then (successJson (chosenSuites loaded.suites options.suites)).pretty ++ "\n"
        else successLines (chosenSuites loaded.suites options.suites), ""⟩ := by
  rcases configure_of_load_ok success options with ⟨_, taken⟩ | ⟨repeated, _⟩
  · rw [runSuites_of_configure_ok taken]
  · contradiction

/-- The command fails exactly when the file does not load or an argument is
repeated; a file that does not load is reported whatever the arguments are, and
nothing is printed. Otherwise it runs the arguments, or without any the suites of
the file, and succeeds. What is printed then is determined by these suites, so
nothing that turns failing fast on can show in it; as JSON it reads back as the
suites with all of their checks passed. -/
theorem run_command (file : Config.File) (options : RunOptions) :
    ((∃ error, configure file options = .error error) ↔
      (∃ error, Config.load file = .error error) ∨ ¬options.suites.Nodup) ∧
    (∀ error, Config.load file = .error error → configure file options = .error error) ∧
    (∀ error, configure file options = .error error →
      runSuites file options = ⟨2, "", error.message options.configPath ++ "\n"⟩) ∧
    (∀ loaded, Config.load file = .ok loaded → options.suites.Nodup →
      runSuites file options =
        ⟨0, if options.json
          then (successJson (chosenSuites loaded.suites options.suites)).pretty ++ "\n"
          else successLines (chosenSuites loaded.suites options.suites), ""⟩) ∧
    (∀ loaded, Config.load file = .ok loaded → options.suites.Nodup → options.json = true →
      Json.parse? (runSuites file options).output =
        some (successJson (chosenSuites loaded.suites options.suites))) := by
  refine ⟨configure_eq_error_iff file options, ?_, ?_, ?_, ?_⟩
  · intro error failed
    exact configure_of_load_error failed options
  · intro error failed
    simp only [runSuites, failed]
  · intro loaded success distinct
    exact runSuites_of_load_ok success distinct
  · intro loaded success distinct json
    rw [runSuites_of_load_ok success distinct, if_pos json]
    exact parse?_successJson _

end CommandLine

end Assay
