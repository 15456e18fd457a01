import Assay.Proofs.Config.Acceptance

/-! Loading a configuration from its own TOML text. The text is well formed and
names every suite in order, also when the list is empty or repeats itself; only then
is the configuration that was read put to validation. -/
namespace Assay

namespace Toml

namespace Token

variable {previous : Option Char} {c : Char} {text rest : List Char} {token : Token}

theorem scan_blank (blank : isBlank c = true) : scan previous (c :: rest) = scan (some c) rest := by
  rw [scan, if_pos blank]

theorem scan_token (visible : isBlank c = false) (code : c ≠ '#')
    (found : next? previous c text = some (token, rest)) :
    scan previous (c :: text) = (scan (some c) rest).map (token :: ·) := by
  rw [scan, if_neg (by simp [visible]), if_neg code]
  split
  · rename_i missing
    rw [found] at missing
    contradiction
  · rename_i same
    rw [found] at same
    cases same
    rfl

/-- A character that stands for itself in a basic string. -/
def isPlain (c : Char) : Bool := c ≠ '"' && c ≠ '\\' && isTextChar c

theorem basicString_append {s : List Char} (plain : ∀ c ∈ s, isPlain c = true) (rest : List Char) :
    basicString (s ++ '"' :: rest) = some (s, rest) := by
  induction s with
  | nil =>
    rw [List.nil_append, basicString]
    simp
  | cons c s ih =>
    obtain ⟨first, others⟩ := List.forall_mem_cons.mp plain
    simp only [isPlain, Bool.and_eq_true, decide_eq_true_eq] at first
    rw [List.cons_append, basicString, if_neg first.1.1, if_neg first.1.2, if_pos first.2,
      ih others]
    rfl

theorem next?_quoted {s : List Char} (nonempty : s ≠ []) (plain : ∀ c ∈ s, isPlain c = true)
    (rest : List Char) :
    next? previous '"' (s ++ '"' :: rest) = some (.quoted (String.ofList s), rest) := by
  have line := basicString_append plain rest
  have opened : ∀ text, next? previous '"' text = string? '"' basicBlock basicString text := by
    intro text
    simp [next?, punctuation?]
  cases s with
  | nil => contradiction
  | cons first others =>
    -- The first character is no quote, so this is not the opening of a block.
    have single : first ≠ '"' := by
      rintro rfl
      have impossible := plain '"' List.mem_cons_self
      contradiction
    obtain ⟨second, tail, split⟩ : ∃ second tail, others ++ '"' :: rest = second :: tail := by
      cases others with
      | nil => exact ⟨_, _, rfl⟩
      | cons second others => exact ⟨_, _, rfl⟩
    rw [List.cons_append, split] at line ⊢
    rw [opened, string?, if_neg (by simp [single]), line]
    rfl

end Token

end Toml

namespace Config

open Toml (Token Reader)

section Scanning

def suitesKey : List Char := ['s', 'u', 'i', 't', 'e', 's']

def failFastKey : List Char := ['f', 'a', 'i', 'l', '_', 'f', 'a', 's', 't']

/-- The names between the brackets. -/
def namesText (suites : List Suite) : List Char :=
  [',', ' '].intercalate (suites.map fun suite => '"' :: suite.name.toList ++ ['"'])

def nameTokens (suites : List Suite) : List Token :=
  [.comma].intercalate (suites.map fun suite => [.quoted suite.name])

def flagWord (b : Bool) : List Char :=
  if b then ['t', 'r', 'u', 'e'] else ['f', 'a', 'l', 's', 'e']

theorem toList_toToml (config : Config) :
    config.toToml.toList =
      suitesKey ++ ' ' :: '=' :: ' ' :: '[' :: (namesText config.suites ++
        ']' :: '\n' :: (failFastKey ++ ' ' :: '=' :: ' ' :: (flagWord config.failFast ++
          ['\n']))) := by
  have flag : (if config.failFast then "true" else "false").toList = flagWord config.failFast := by
    cases config.failFast with
    | true => rfl
    | false => rfl
  simp [toToml, suitesText, Suite.tag_eq_name, suitesKey, namesText, failFastKey, flag,
    String.toList_intercalate, Function.comp_def]

theorem next?_name (previous : Option Char) (suite : Suite) (rest : List Char) :
    Token.next? previous '"' (suite.name.toList ++ '"' :: rest) =
      some (.quoted suite.name, rest) := by
  have nonempty : suite.name.toList ≠ [] := by
    cases suite with
    | arithmetic | statistics | records => exact List.cons_ne_nil _ _
  have plain : suite.name.toList.all Token.isPlain = true := by
    cases suite with
    | arithmetic | statistics | records => rfl
  rw [Token.next?_quoted nonempty (List.all_eq_true.mp plain), String.ofList_toList]

theorem scan_names {previous : Option Char} (apart : previous ≠ some ']') (suites : List Suite)
    (rest : List Char) :
    Token.scan previous (namesText suites ++ ']' :: rest) =
      (Token.scan (some ']') rest).map (nameTokens suites ++ .closeBracket false :: ·) := by
  have close : ∀ {before : Option Char}, before ≠ some ']' →
      Token.scan before (']' :: rest) =
        (Token.scan (some ']') rest).map (.closeBracket false :: ·) := by
    intro before apart
    exact Token.scan_token rfl (by decide) (by simp [Token.next?, Token.punctuation?, apart])
  -- A closing bracket remembers whether it touches another one, so the induction is
  -- over what may stand before the names as well: the open bracket or a blank.
  induction suites generalizing previous with
  | nil => exact close apart
  | cons suite others ih =>
    have name : ∀ text, Token.scan previous ('"' :: (suite.name.toList ++ '"' :: text)) =
        (Token.scan (some '"') text).map (.quoted suite.name :: ·) := by
      intro text
      exact Token.scan_token rfl (by decide) (next?_name previous suite text)
    cases others with
    | nil =>
      have written : namesText [suite] ++ ']' :: rest =
          '"' :: (suite.name.toList ++ '"' :: ']' :: rest) := by
        simp [namesText]
      rw [written, name, close (by decide), Option.map_map]
      rfl
    | cons next others =>
      have written : namesText (suite :: next :: others) ++ ']' :: rest =
          '"' :: (suite.name.toList ++
            '"' :: ',' :: ' ' :: (namesText (next :: others) ++ ']' :: rest)) := by
        simp [namesText]
      have comma : ∀ text, Token.scan (some '"') (',' :: text) =
          (Token.scan (some ',') text).map (.comma :: ·) := by
        intro text
        exact Token.scan_token rfl (by decide) rfl
      rw [written, name, comma, Token.scan_blank rfl, ih (by decide), Option.map_map,
        Option.map_map]
      rfl

/-- The tokens of a configuration. -/
def documentTokens (config : Config) : List Token :=
  [Token.bare suitesKey, .equals, .openBracket false] ++
    ((nameTokens config.suites ++ [Token.closeBracket false]) ++
      [Token.newline, .bare failFastKey, .equals, .bare (flagWord config.failFast), .newline])

theorem scan_key (text : List Char) :
    Token.scan none (suitesKey ++ ' ' :: '=' :: ' ' :: '[' :: text) =
      (Token.scan (some '[') text).map ([.bare suitesKey, .equals, .openBracket false] ++ ·) := by
  have word : Token.next? none 's' (suitesKey.tail ++ ' ' :: '=' :: ' ' :: '[' :: text) =
      some (.bare suitesKey, ' ' :: '=' :: ' ' :: '[' :: text) := rfl
  change Token.scan none ('s' :: (suitesKey.tail ++ ' ' :: '=' :: ' ' :: '[' :: text)) = _
  rw [Token.scan_token rfl (by decide) word, Token.scan_blank rfl,
    Token.scan_token rfl (by decide) rfl, Token.scan_blank rfl,
    Token.scan_token rfl (by decide) rfl, Option.map_map, Option.map_map]
  rfl

theorem scan_flag (b : Bool) :
    Token.scan (some ']') ('\n' :: (failFastKey ++ ' ' :: '=' :: ' ' :: (flagWord b ++ ['\n']))) =
      some [.newline, .bare failFastKey, .equals, .bare (flagWord b), .newline] := by
  cases b with
  | true => cbv
  | false => cbv

theorem scan_toToml (config : Config) :
    Token.scan none config.toToml.toList = some (documentTokens config) := by
  rw [toList_toToml, scan_key, scan_names (by decide), scan_flag]
  simp [documentTokens]

end Scanning

section Reading

/-- The names in a TOML array. -/
def nameItems (suites : List Suite) : List Toml := suites.map fun suite => .string suite.name

/-- Inside an array the names are collected, and its end finishes the value. -/
theorem read_names (reader : Reader) (path : List String) (before : List Toml)
    (suites : List Suite) :
    (nameTokens suites ++ [Token.closeBracket false]).foldlM Reader.step
        { reader with state := .item [.line path] before } =
      reader.finish (.array (before.reverse ++ nameItems suites)) [.line path] := by
  induction suites generalizing before with
  | nil =>
    have close : Reader.step { reader with state := .item [.line path] before }
        (.closeBracket false) = reader.finish (.array before.reverse) [.line path] := rfl
    simpa [nameTokens, nameItems] using close
  | cons suite others ih =>
    have quoted : Reader.step { reader with state := .item [.line path] before }
        (.quoted suite.name) =
      some { reader with state := .after [.array before, .line path] (.string suite.name) } := rfl
    cases others with
    | nil =>
      have close : Reader.step
          { reader with state := .after [.array before, .line path] (.string suite.name) }
          (.closeBracket false) =
        reader.finish (.array (.string suite.name :: before).reverse) [.line path] := rfl
      simpa [nameTokens, nameItems, quoted] using close
    | cons next others =>
      have comma : Reader.step
          { reader with state := .after [.array before, .line path] (.string suite.name) } .comma =
        some { reader with state := .item [.line path] (.string suite.name :: before) } := rfl
      have spelled : nameTokens (suite :: next :: others) =
          .quoted suite.name :: .comma :: nameTokens (next :: others) := by
        simp [nameTokens]
      simp only [spelled, List.cons_append, List.foldlM_cons, quoted, comma, Option.bind_eq_bind,
        Option.bind_some, ih]
      simp [nameItems]

theorem read_flag (v : Toml) (b : Bool) :
    [Token.newline, .bare failFastKey, .equals, .bare (flagWord b), .newline].foldlM Reader.step
        ⟨[("suites", .value v)], [], .lineEnd⟩ =
      some ⟨[("fail_fast", .value (.boolean b)), ("suites", .value v)], [], .lineStart⟩ := by
  cases b with
  | true => rfl
  | false => rfl

/-- Every configuration has a well-formed text, a valid one or not. -/
theorem parse?_toToml (config : Config) :
    Toml.parse? config.toToml =
      some [("fail_fast", .boolean config.failFast),
        ("suites", .array (nameItems config.suites))] := by
  have unmarked : Toml.dropMark config.toToml.toList = config.toToml.toList := by
    rw [toList_toToml]
    rfl
  have opened : [Token.bare suitesKey, .equals, .openBracket false].foldlM Reader.step
      Reader.start = some { Reader.start with state := .item [.line ["suites"]] [] } := rfl
  have closed : Reader.start.finish (.array (nameItems config.suites)) [.line ["suites"]] =
      some ⟨[("suites", .value (.array (nameItems config.suites)))], [], .lineEnd⟩ := rfl
  have names := read_names Reader.start ["suites"] [] config.suites
  rw [List.reverse_nil, List.nil_append, closed] at names
  have read : (documentTokens config).foldlM Reader.step Reader.start =
      some ⟨[("fail_fast", .value (.boolean config.failFast)),
        ("suites", .value (.array (nameItems config.suites)))], [], .lineStart⟩ := by
    rw [documentTokens, List.foldlM_append, opened]
    change List.foldlM _ _ _ = _
    rw [List.foldlM_append, names]
    exact read_flag _ _
  rw [Toml.parse?, unmarked, scan_toToml]
  change ((documentTokens config).foldlM Reader.step Reader.start).bind Reader.document? = _
  rw [read]
  rfl

end Reading

theorem ofTable_toToml (config : Config) :
    ofTable [("fail_fast", .boolean config.failFast),
        ("suites", .array (nameItems config.suites))] = .ok config := by
  have items : .array (nameItems config.suites) = nameArray (config.suites.map Suite.name) := by
    simp [nameItems, nameArray]
  have distinct : Fields.Distinct [("fail_fast", .boolean config.failFast),
      ("suites", nameArray (config.suites.map Suite.name))] := by
    simp [Fields.Distinct, Fields.names]
  rw [items, ofTable_eq_ok_iff distinct]
  refine ⟨?_, ?_, ?_⟩
  · simp [Fields.names, IsField]
  · exact readSuites_nameArray_eq_ok_iff.mpr rfl
  · rfl

/-- Loading the text of a configuration gives the configuration back when it is
valid. Otherwise it fails with what validation says and nothing else. -/
theorem load_toToml (config : Config) :
    (load (.text config.toToml) =
      match config.validate with
      | .ok () => .ok config
      | .error invalid => .error (.invalid invalid)) ∧
    (∀ fault, load (.text config.toToml) = .error fault →
      ∃ invalid, config.validate = .error invalid ∧
        ∀ path, fault.message path = invalid.message) := by
  have loaded : load (.text config.toToml) = config.validated.mapError .invalid := by
    simp only [load, parse?_toToml, loadTable, ofTable_toToml]
    rfl
  rw [loaded, validated]
  cases config.validate with
  | ok done =>
    refine ⟨rfl, ?_⟩
    intro fault failed
    cases failed
  | error invalid =>
    refine ⟨rfl, ?_⟩
    intro fault failed
    cases failed
    exact ⟨invalid, rfl, fun _ => rfl⟩

end Config

end Assay
