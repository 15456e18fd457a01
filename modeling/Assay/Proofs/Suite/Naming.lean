import Assay.CommandLine.Arguments
import Assay.Proofs.Config.Acceptance
import Assay.Proofs.Json.RoundTrip
import Assay.Report.Json

/-! Names of suites. A configuration goes by the identifier in snake case and a command line
by the identifier in kebab case. Identifiers are single words, so both are the name of the
suite, and nothing else is; where case is ignored the ASCII letters of the name may be of
either case. Since the names are in small letters and differ, no text stands for two
suites. -/
namespace Assay

section Letters

/-- The same character, or the capital and the small form of one of the 26 letters. -/
def SameLetter (c d : Char) : Prop :=
  c = d ∨ ∃ i < 26, (c.toNat = 'A'.toNat + i ∧ d.toNat = 'a'.toNat + i) ∨
    (c.toNat = 'a'.toNat + i ∧ d.toNat = 'A'.toNat + i)

theorem toNat_toLower (c : Char) :
    c.toLower.toNat = if 65 ≤ c.toNat ∧ c.toNat ≤ 90 then c.toNat + 32 else c.toNat := by
  have bounds : (c.val ≥ 'A'.val ∧ c.val ≤ 'Z'.val) ↔ 65 ≤ c.toNat ∧ c.toNat ≤ 90 := Iff.rfl
  unfold Char.toLower
  simp only [bounds]
  split
  · rename_i capital
    change (c.toNat + 32) % 2 ^ 32 = c.toNat + 32
    exact Nat.mod_eq_of_lt (by omega)
  · rfl

theorem toLower_eq_toLower_iff {c d : Char} : c.toLower = d.toLower ↔ SameLetter c d := by
  have capital : 'A'.toNat = 65 := rfl
  have small : 'a'.toNat = 97 := rfl
  rw [SameLetter, capital, small, ← Char.toNat_inj, toNat_toLower, toNat_toLower, ← Char.toNat_inj]
  constructor
  · intro same
    by_cases equal : c.toNat = d.toNat
    · exact .inl equal
    · -- Of two characters that differ, just one is a capital letter.
      right
      split at same <;> split at same
      · omega
      · exact ⟨c.toNat - 65, by omega, .inl (by omega)⟩
      · exact ⟨d.toNat - 65, by omega, .inr (by omega)⟩
      · omega
  · rintro (same | ⟨i, bound, ⟨first, second⟩ | ⟨first, second⟩⟩)
    · rw [same]
    · rw [if_pos (by omega), if_neg (by omega)]
      omega
    · rw [if_neg (by omega), if_pos (by omega)]
      omega

end Letters

namespace Suite

variable {s : String} {suite : Suite}

/-- The texts agree, but for the case of ASCII letters. -/
def Spells (name s : String) : Prop := List.Forall₂ SameLetter name.toList s.toList

theorem sameLetters_iff {name : String} : sameLetters name s = true ↔ Spells name s := by
  rw [sameLetters, decide_eq_true_iff, ← List.forall₂_eq_eq_eq, List.forall₂_map_left_iff,
    List.forall₂_map_right_iff]
  simp only [toLower_eq_toLower_iff, Spells]

theorem map_toLower_name (suite : Suite) :
    suite.name.toList.map Char.toLower = suite.name.toList := by
  cases suite with
  | arithmetic | statistics | records => rfl

theorem Spells.unique {first second : Suite} (one : Spells first.name s)
    (two : Spells second.name s) : first = second := by
  rw [← sameLetters_iff, sameLetters, decide_eq_true_iff, map_toLower_name] at one two
  exact name_injective (String.toList_inj.mp (one.trans two.symm))

theorem select?_false_eq_some_iff : select? false s = some suite ↔ suite.name = s := by
  rw [select?, find?_all_eq_some_iff]
  · simp [argument_eq_name]
  · intro first second one two
    simp only [Bool.false_eq_true, if_false, decide_eq_true_eq, argument_eq_name] at one two
    exact name_injective (one.trans two.symm)

theorem select?_true_eq_some_iff : select? true s = some suite ↔ Spells suite.name s := by
  rw [select?, find?_all_eq_some_iff]
  · simp [sameLetters_iff, argument_eq_name]
  · intro first second one two
    simp only [if_true, sameLetters_iff, argument_eq_name] at one two
    exact one.unique two

theorem compact_toJson (suite : Suite) : suite.toJson.compact = "\"" ++ suite.name ++ "\"" := by
  rw [toJson_eq]
  cases suite with
  | arithmetic | statistics | records => rfl

end Suite

namespace CommandLine

theorem Progress.suite_eq_ok_iff {word : String} {suite : Suite} :
    Progress.suite word = .ok suite ↔ suite.name = word := by
  rw [← Suite.select?_false_eq_some_iff, Progress.suite]
  cases Suite.select? false word with
  | none => simp [misuse]
  | some found => simp

/-- After the end of the options a word can only be a suite. -/
theorem parse_named (s : String) :
    parse ["run", "--", s] =
      (Progress.suite s).map fun suite => .run ⟨[suite], "selfcheck.toml", false, false⟩ := by
  have command : parse ["run", "--", s] = parseRun ["--", s] := rfl
  have words : ["--", s].foldlM Progress.step Progress.start =
      .ok { Progress.start with optionsEnded := true, pending := .suites [s] } := rfl
  rw [command, parseRun, words]
  cases named : Progress.suite s with
  | error stop => simp [Progress.settle, named, bind, Except.bind, Except.map]
  | ok suite =>
    simp [Progress.settle, Progress.options, Progress.start, named, bind, Except.bind, pure,
      Except.pure, Except.map]

theorem parse_named_eq_ok_iff {s : String} {command : Command} :
    parse ["run", "--", s] = .ok command ↔
      ∃ suite : Suite, suite.name = s ∧ command = .run ⟨[suite], "selfcheck.toml", false, false⟩ := by
  simp only [parse_named, map_eq_ok_iff, Progress.suite_eq_ok_iff, @eq_comm Command]

end CommandLine

namespace Config

/-- The table that lists one suite, by this name. -/
def listing (name : String) : Fields Toml := [("suites", nameArray [name])]

theorem loadTable_listing_eq_ok_iff {name : String} {config : Config} :
    loadTable (listing name) = .ok config ↔
      ∃ suite : Suite, suite.name = name ∧ config = ⟨[suite], false⟩ := by
  have read : ofTable (listing name) =
      (readSuites (nameArray [name])).map fun suites => ⟨suites, false⟩ := by
    simp [ofTable, listing, setField, standard]
  rw [loadTable_eq_ok_iff, read, map_eq_ok_iff]
  simp only [readSuites_nameArray_eq_ok_iff, List.map_eq_singleton_iff]
  constructor
  · rintro ⟨⟨suites, ⟨suite, rfl, named⟩, rfl⟩, -⟩
    exact ⟨suite, named, rfl⟩
  · rintro ⟨suite, named, rfl⟩
    exact ⟨⟨[suite], ⟨suite, rfl, named⟩, rfl⟩, List.cons_ne_nil _ _, List.nodup_singleton _⟩

end Config

namespace Suite

/-- The conventions for data and for command lines make the name of a suite of its identifier.
So a text names a suite in a configuration exactly when it does on a command line, which is
when it is the name of the suite. A line that ignores case takes the name in either case of
its ASCII letters and nothing else. Either way there is one suite at most, and it is written
as its name, which is read as that suite again. -/
theorem naming_agrees (s : String) :
    (∀ suite : Suite, Text.snakeCase suite.identifier = suite.name ∧
      Text.kebabCase suite.identifier = suite.name) ∧
    (∀ suite, Config.readSuite (.string s) = .ok suite ↔ suite.name = s) ∧
    (∀ config, Config.loadTable (Config.listing s) = .ok config ↔
      ∃ suite : Suite, suite.name = s ∧ config = ⟨[suite], false⟩) ∧
    (∀ suite, select? false s = some suite ↔ suite.name = s) ∧
    (∀ command, CommandLine.parse ["run", "--", s] = .ok command ↔
      ∃ suite : Suite, suite.name = s ∧ command = .run ⟨[suite], "selfcheck.toml", false, false⟩) ∧
    (∀ suite, select? true s = some suite ↔ Spells suite.name s) ∧
    (∀ first second : Suite, Spells first.name s → Spells second.name s → first = second) ∧
    ∀ ignoreCase suite, select? ignoreCase s = some suite →
      suite.toJson = .string suite.name ∧ suite.toJson.compact = "\"" ++ suite.name ++ "\"" ∧
      Json.parse? suite.toJson.compact = some (.string suite.name) ∧
      Config.readSuite (.string suite.name) = .ok suite := by
  refine ⟨?_, ?_, ?_, ?_, ?_, ?_, ?_, ?_⟩
  · intro suite
    exact suite.names_agree
  · intro suite
    exact Config.readSuite_string_eq_ok_iff
  · intro config
    exact Config.loadTable_listing_eq_ok_iff
  · intro suite
    exact select?_false_eq_some_iff
  · intro command
    exact CommandLine.parse_named_eq_ok_iff
  · intro suite
    exact select?_true_eq_some_iff
  · intro first second one two
    exact one.unique two
  · intro ignoreCase suite _
    refine ⟨suite.toJson_eq, suite.compact_toJson, ?_, Config.readSuite_string_eq_ok_iff.mpr rfl⟩
    rw [toJson_eq]
    exact Json.parse?_compact (.string suite.name) (Nat.zero_le _)

/-- The last letter of the second text is not an ASCII letter, though its capital form is. -/
theorem lookalike_agrees :
    select? true "ReCoRdS" = some .records ∧ (¬∃ suite, select? false "ReCoRdS" = some suite) ∧
    (¬∃ suite, select? true "recordſ" = some suite) ∧
    Suite.records.toJson.compact = "\"records\"" := by
  obtain ⟨-, -, -, exactly, -, -, -, written⟩ := naming_agrees "ReCoRdS"
  obtain ⟨-, -, -, -, -, spelled, -, -⟩ := naming_agrees "recordſ"
  have chosen : select? true "ReCoRdS" = some .records := rfl
  refine ⟨chosen, ?_, ?_, (written true .records chosen).2.1⟩
  · rintro ⟨suite, found⟩
    rw [exactly] at found
    cases suite with
    | arithmetic | statistics | records => contradiction
  · rintro ⟨suite, found⟩
    rw [spelled, ← sameLetters_iff] at found
    cases suite with
    | arithmetic | statistics | records => contradiction

end Suite

end Assay
