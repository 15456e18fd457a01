/-! What a scanner returns: the characters that it has read, and the text after
them. -/
namespace Assay.Text

abbrev Scanned : Type := List Char × List Char

/-- The result with one more character, read before the others. -/
def Scanned.push (c : Char) (scanned : Scanned) : Scanned := (c :: scanned.1, scanned.2)

theorem Scanned.map_push_eq_some_iff {c : Char} {result : Option Scanned} {s rest : List Char} :
    result.map (push c) = some (s, rest) ↔ ∃ tail, result = some (tail, rest) ∧ s = c :: tail := by
  constructor
  · intro found
    obtain ⟨⟨tail, after⟩, read, same⟩ := Option.map_eq_some_iff.mp found
    cases same
    exact ⟨tail, read, rfl⟩
  · rintro ⟨tail, rfl, rfl⟩
    rfl

/-- One more character read does not lengthen what remains. -/
theorem Scanned.length_lt_of_map_push {c : Char} {result : Option Scanned} {s rest : List Char}
    {bound : Nat} (shorter : ∀ {s rest : List Char}, result = some (s, rest) → rest.length < bound)
    (found : result.map (push c) = some (s, rest)) : rest.length < bound := by
  obtain ⟨tail, read, _⟩ := map_push_eq_some_iff.mp found
  exact shorter read

end Assay.Text
