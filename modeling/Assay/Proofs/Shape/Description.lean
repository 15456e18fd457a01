import Assay.Proofs.Json.Lexemes
import Assay.Shape

/-! Descriptions of JSON values. The words that describe a value tell its kind, and all of
its contents but the items of an array, of which they tell the number. So two values share
a description only where they agree in that, however a string among them is chosen. -/
namespace Assay

namespace Decimal

theorem intString_eq_repr (n : Int) : intString n = n.repr := by
  cases n with
  | ofNat n => rfl
  | negSucc n =>
    rw [intString, intText, if_pos (Int.negSucc_lt_zero n)]
    exact String.ofList_cons

theorem intString_injective : Function.Injective intString := by
  intro first second same
  rw [intString_eq_repr, intString_eq_repr] at same
  exact Int.repr_injective same

/-- A word that begins with neither a sign nor a digit is no numeral. -/
theorem intString_ne {word : String} {c : Char} (head : word.toList.head? = some c)
    (sign : c ≠ '-') (digit : c.isDigit = false) (n : Int) : intString n ≠ word := by
  rintro rfl
  obtain ⟨first, others, written, starts⟩ := Json.intText_cons n
  rw [intString, String.toList_ofList, written] at head
  cases head
  rcases starts with rfl | decimal
  · contradiction
  · rw [digit] at decimal
    contradiction

end Decimal

namespace Shape

def truthWord (b : Bool) : String := if b then "True" else "False"

/-- The words for a value that has a description. -/
inductive Described : Json → String → Prop where
  | integer (n : Json.Integer) :
      Described (.number (.integer n)) ("number: " ++ Decimal.intString n.val)
  | boolean (b : Bool) : Described (.bool b) ("number: " ++ truthWord b)
  | string (s : String) : Described (.string s) ("text: " ++ s)
  | array (items : List Json) :
      Described (.array items) ("list with " ++ Decimal.intString items.length ++ " items")

theorem describe_bool (b : Bool) :
    (ofJson (.bool b)).describe = some ("number: " ++ truthWord b) := by
  cases b with
  | true => rfl
  | false => rfl

theorem describe_eq_some_iff {v : Json} {words : String} :
    (ofJson v).describe = some words ↔ Described v words := by
  constructor
  · intro described
    cases v with
    | number n =>
      cases n with
      | integer n =>
        rw [ofJson_integer] at described
        cases described
        exact .integer n
      | float x => cases described
    | bool b =>
      rw [describe_bool] at described
      cases described
      exact .boolean b
    | string s =>
      cases described
      exact .string s
    | array items =>
      cases described
      exact .array items
    | null | object members => cases described
  · rintro (n | b | s | items)
    · rw [ofJson_integer]
      rfl
    · exact describe_bool b
    · rfl
    · rfl

theorem intString_ne_truthWord (n : Int) (b : Bool) : Decimal.intString n ≠ truthWord b := by
  cases b with
  | true => exact Decimal.intString_ne (c := 'T') rfl (by decide) (by decide) n
  | false => exact Decimal.intString_ne (c := 'F') rfl (by decide) (by decide) n

theorem truthWord_injective : Function.Injective truthWord := by
  unfold Function.Injective
  decide

/-- Values of which the same is said. -/
inductive Alike : Json → Json → Prop where
  | integer (n : Json.Integer) : Alike (.number (.integer n)) (.number (.integer n))
  | boolean (b : Bool) : Alike (.bool b) (.bool b)
  | string (s : String) : Alike (.string s) (.string s)
  | array {items others : List Json} (size : items.length = others.length) :
      Alike (.array items) (.array others)

/-- Numbers, texts and lists are told apart by their first letter, and booleans from
integers by the letter after the colon. -/
theorem Described.alike {v w : Json} {words others : String} (first : Described v words)
    (second : Described w others) (same : words = others) : Alike v w := by
  cases first with
  | integer n =>
    cases second with
    | integer m =>
      have value := Decimal.intString_injective ((String.append_right_inj _).mp same)
      obtain rfl : n = m := BoundedInt.ext value
      exact .integer n
    | boolean b => exact absurd ((String.append_right_inj _).mp same) (intString_ne_truthWord _ _)
    | string s | array items => simp [← String.toList_inj] at same
  | boolean b =>
    cases second with
    | integer n =>
      exact absurd ((String.append_right_inj _).mp same.symm) (intString_ne_truthWord _ _)
    | boolean c =>
      obtain rfl : b = c := truthWord_injective ((String.append_right_inj _).mp same)
      exact .boolean b
    | string s | array items => simp [← String.toList_inj] at same
  | string s =>
    cases second with
    | string t =>
      obtain rfl : s = t := (String.append_right_inj _).mp same
      exact .string s
    | integer n | boolean b | array items => simp [← String.toList_inj] at same
  | array items =>
    cases second with
    | array others =>
      rw [String.append_left_inj, String.append_right_inj] at same
      exact .array (Int.ofNat.inj (Decimal.intString_injective same))
    | integer n | boolean b | string s => simp [← String.toList_inj] at same

theorem Alike.exists_described {v w : Json} (alike : Alike v w) :
    ∃ words, Described v words ∧ Described w words := by
  cases alike with
  | integer n => exact ⟨_, .integer n, .integer n⟩
  | boolean b => exact ⟨_, .boolean b, .boolean b⟩
  | string s => exact ⟨_, .string s, .string s⟩
  | @array items others size =>
    refine ⟨_, .array items, ?_⟩
    rw [size]
    exact .array others

/-- Two values have descriptions that are the same exactly when they are the same integer,
the same boolean, the same string, or arrays of one length. A string has its description
to itself. -/
theorem describe_shared_iff :
    (∀ v w : Json,
      (∃ words, (ofJson v).describe = some words ∧ (ofJson w).describe = some words) ↔
        Alike v w) ∧
    ∀ (s : String) (v : Json),
      (ofJson v).describe = (ofJson (.string s)).describe ↔ v = .string s := by
  constructor
  · intro v w
    simp only [describe_eq_some_iff]
    constructor
    · rintro ⟨words, first, second⟩
      exact first.alike second rfl
    · exact Alike.exists_described
  · intro s v
    constructor
    · intro same
      have described := describe_eq_some_iff.mp same
      cases described.alike (.string s) rfl
      rfl
    · rintro rfl
      rfl

end Shape

end Assay
