import Assay.Text.Case

/-! The suites of the self-check and the ways to name one. Messages use the name. Data that
is written and read, a configuration or a report, uses the suite's identifier in snake case,
and a command line uses it in kebab case; identifiers of one word make all three the same. -/
namespace Assay

inductive Suite where
  | arithmetic
  | statistics
  | records
deriving DecidableEq

namespace Suite

def all : List Suite := [.arithmetic, .statistics, .records]

def name : Suite → String
  | .arithmetic => "arithmetic"
  | .statistics => "statistics"
  | .records => "records"

def identifier : Suite → String
  | .arithmetic => "Arithmetic"
  | .statistics => "Statistics"
  | .records => "Records"

/-- The name in data. -/
def tag (suite : Suite) : String := Text.snakeCase suite.identifier

/-- The name on a command line. -/
def argument (suite : Suite) : String := Text.kebabCase suite.identifier

/-- The line printed when every check of the suite has passed. -/
def successMessage : Suite → String
  | .arithmetic => "All tests passed!"
  | .statistics => "All class method tests passed!"
  | .records => "All complex type tests passed!"

/-- The suite that a configuration or a report names. -/
def ofTag? (s : String) : Option Suite := all.find? fun suite => suite.tag = s

/-- Equality of text up to the case of ASCII letters. -/
def sameLetters (s t : String) : Bool :=
  s.toList.map Char.toLower = t.toList.map Char.toLower

/-- The suite that a command line names. -/
def select? (ignoreCase : Bool) (s : String) : Option Suite :=
  all.find? fun suite => if ignoreCase then sameLetters suite.argument s else suite.argument = s

theorem mem_all (suite : Suite) : suite ∈ all := by
  cases suite with
  | arithmetic | statistics | records => simp [all]

theorem isCapitalized_identifier (suite : Suite) :
    ∃ first rest, suite.identifier.toList = first :: rest ∧ Text.IsCapitalized first rest := by
  cases suite with
  | arithmetic | statistics | records => exact ⟨_, _, rfl, rfl, List.all_eq_true.mp rfl⟩

/-- The name is the identifier in small letters. -/
theorem name_eq (suite : Suite) :
    suite.name = String.ofList (suite.identifier.toList.map Char.toLower) := by
  cases suite with
  | arithmetic | statistics | records => rfl

theorem names_agree (suite : Suite) : suite.tag = suite.name ∧ suite.argument = suite.name := by
  obtain ⟨first, rest, spelled, single⟩ := suite.isCapitalized_identifier
  rw [name_eq]
  exact single.cases_agree spelled

theorem tag_eq_name (suite : Suite) : suite.tag = suite.name := suite.names_agree.1

theorem argument_eq_name (suite : Suite) : suite.argument = suite.name := suite.names_agree.2

theorem eq_of_name_eq {first second : Suite} (same : first.name = second.name) :
    first = second := by
  cases first with
  | arithmetic | statistics | records =>
    cases second with
    | arithmetic | statistics | records => simp [name] at same ⊢

/-- A test that no two suites pass finds the one that does. -/
theorem find?_all_eq_some_iff {test : Suite → Bool} {suite : Suite}
    (once : ∀ first second, test first = true → test second = true → first = second) :
    all.find? test = some suite ↔ test suite = true := by
  constructor
  · exact List.find?_some
  · intro passes
    cases found : all.find? test with
    | none => exact absurd passes (List.find?_eq_none.mp found suite suite.mem_all)
    | some other => rw [once other suite (List.find?_some found) passes]

/-- Data names a suite by its name and nothing else. -/
theorem ofTag?_eq_some_iff {s : String} {suite : Suite} :
    ofTag? s = some suite ↔ suite.name = s := by
  rw [ofTag?, find?_all_eq_some_iff]
  · simp only [decide_eq_true_eq, tag_eq_name]
  · intro first second one two
    simp only [decide_eq_true_eq, tag_eq_name] at one two
    exact eq_of_name_eq (one.trans two.symm)

end Suite

end Assay
