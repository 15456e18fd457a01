import Assay.Report.Json

/-! Reports from JSON. Reading takes exactly what writing produces: the same
members, in the same order, and no others. -/
namespace Assay

def Outcome.ofMembers? : Fields Json → Option Outcome
  | [("status", .string "passed")] => some .passed
  | [("status", .string "failed"), ("message", .string message)] => some (.failed message)
  | _ => none

def Suite.ofJson? : Json → Option Suite
  | .string name => Suite.ofTag? name
  | _ => none

def Finding.ofJson? : Json → Option Finding
  | .object (("suite", suite) :: ("check", .string check) :: outcome) => do
    return ⟨← Suite.ofJson? suite, check, ← Outcome.ofMembers? outcome⟩
  | _ => none

def Report.ofJson? : Json → Option Report
  | .object [("suites", .array suites), ("checks", .array findings)] => do
    return ⟨← suites.mapM Suite.ofJson?, ← findings.mapM Finding.ofJson?⟩
  | _ => none

theorem Suite.ofJson?_toJson (suite : Suite) : Suite.ofJson? suite.toJson = some suite := by
  rw [toJson_eq]
  exact ofTag?_eq_some_iff.mpr rfl

theorem Outcome.ofMembers?_members (outcome : Outcome) :
    Outcome.ofMembers? outcome.members = some outcome := by
  cases outcome <;> rfl

theorem Finding.ofJson?_toJson (finding : Finding) :
    Finding.ofJson? finding.toJson = some finding := by
  simp [Finding.toJson, Finding.ofJson?, Suite.ofJson?_toJson, Outcome.ofMembers?_members]

/-- Decoding every encoded item gives the list back. -/
theorem mapM_map_eq_some {α β : Type} {encode : α → β} {decode? : β → Option α}
    (inverse : ∀ x, decode? (encode x) = some x) (items : List α) :
    (items.map encode).mapM decode? = some items := by
  induction items with
  | nil => rfl
  | cons item rest ih => rw [List.map_cons, List.mapM_cons, inverse, ih]; rfl

theorem Report.ofJson?_toJson (report : Report) : Report.ofJson? report.toJson = some report := by
  unfold Report.toJson Report.ofJson?
  simp only
  rw [mapM_map_eq_some Suite.ofJson?_toJson, mapM_map_eq_some Finding.ofJson?_toJson]
  rfl

end Assay
