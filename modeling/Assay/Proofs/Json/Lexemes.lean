import Assay.Json.Token
import Assay.Json.Writer
import Mathlib

/-! How written text is read as tokens. A stretch of text is always read with the
text that follows it in place, because a number goes on for as long as it can. What
is written for a string or an integer reads as that string or integer. -/
namespace Assay.Json

section Strings

theorem codeUnit?_control : ∀ n < 32,
    codeUnit? '0' '0' (Nat.digitChar (n / 16)) (Nat.digitChar (n % 16)) = some n := by
  decide

theorem not_surrogate_of_lt {unit : Nat} (small : unit < 32) :
    isLeading unit = false ∧ isTrailing unit = false := by
  simp only [isLeading, isTrailing, Bool.and_eq_false_iff, decide_eq_false_iff_not]
  omega

/-- A control character comes back from its four digits. -/
theorem scanString_control {c : Char} (control : c < ' ') (rest : List Char) :
    scanString (['\\', 'u', '0', '0', Nat.digitChar (c.toNat / 16), Nat.digitChar (c.toNat % 16)] ++
      rest) = (scanString rest).map (.push c) := by
  have small : c.toNat < 32 := control
  obtain ⟨leading, trailing⟩ := not_surrogate_of_lt small
  simp [scanString, codeUnit?_control c.toNat small, leading, trailing]

theorem scanString_short {escaped plain : Char} (known : shortEscape? escaped = some plain)
    (rest : List Char) :
    scanString ('\\' :: escaped :: rest) = (scanString rest).map (.push plain) := by
  have not_numeric : escaped ≠ 'u' := by
    rintro rfl
    simp [shortEscape?] at known
  rw [scanString.eq_def]
  simp [not_numeric, known]

theorem scanString_plain {c : Char} (quote : c ≠ '"') (backslash : c ≠ '\\') (visible : ¬c < ' ')
    (rest : List Char) : scanString (c :: rest) = (scanString rest).map (.push c) := by
  rw [scanString.eq_def]
  simp [quote, backslash, visible]

/-- An escaped character reads as itself. -/
theorem scanString_escape (c : Char) (rest : List Char) :
    scanString (escape c ++ rest) = (scanString rest).map (.push c) := by
  unfold escape
  -- The seven characters with a letter or a mark of their own come first.
  iterate 7
    split
    · subst c
      exact scanString_short rfl rest
  split
  · rename_i control
    exact scanString_control control rest
  · rename_i quote backslash _ _ _ _ _ visible
    exact scanString_plain quote backslash visible rest

theorem scanString_flatMap_escape (s rest : List Char) :
    scanString (s.flatMap escape ++ '"' :: rest) = some (s, rest) := by
  induction s with
  | nil =>
    rw [List.flatMap_nil, List.nil_append, scanString.eq_def]
    simp
  | cons c s ih =>
    rw [List.flatMap_cons, List.append_assoc, scanString_escape, ih]
    rfl

end Strings

section Integers

open Decimal (digitValue intText)

/-- Characters with which a number that has begun may go on. -/
def continuesNumber (c : Char) : Bool := c.isDigit || c = '.' || c = 'e' || c = 'E'

/-- A number just before this text ends there. -/
def EndsNumber (rest : List Char) : Prop := ∀ c ∈ rest.head?, continuesNumber c = false

theorem endsNumber_nil : EndsNumber [] := nofun

theorem endsNumber_cons {c : Char} (ends : continuesNumber c = false) (rest : List Char) :
    EndsNumber (c :: rest) := by
  intro other first
  cases first
  exact ends

theorem toDigits_head {n : Nat} (positive : n ≠ 0) : (Nat.toDigits 10 n).head? ≠ some '0' := by
  induction n using Nat.strongRecOn with
  | ind n ih =>
    rw [Nat.toDigits_eq_if (by decide)]
    split
    · simpa using positive
    · have leading := ih (n / 10) (by omega) (by omega)
      rwa [List.head?_append_of_ne_nil _ Nat.toDigits_ne_nil]

theorem isDigit_of_mem_toDigits {n : Nat} {c : Char} (member : c ∈ Nat.toDigits 10 n) :
    c.isDigit = true :=
  Nat.isDigit_of_mem_toDigits (by decide) (by decide) member

theorem digits?_append {digits rest : List Char} (nonempty : digits ≠ [])
    (decimal : ∀ c ∈ digits, c.isDigit = true) (ends : EndsNumber rest) :
    digits? (digits ++ rest) = some (digits, rest) := by
  have stop : rest.takeWhile Char.isDigit = [] ∧ rest.dropWhile Char.isDigit = rest := by
    cases rest with
    | nil => exact ⟨rfl, rfl⟩
    | cons c rest =>
      have other := ends c rfl
      simp only [continuesNumber, Bool.or_eq_false_iff] at other
      simp [other.1.1.1]
  unfold digits?
  rw [List.takeWhile_append_of_pos decimal, List.dropWhile_append_of_pos decimal, stop.1, stop.2,
    List.append_nil]
  split
  · contradiction
  · rfl

theorem wholeDigits?_toDigits (n : Nat) {rest : List Char} (ends : EndsNumber rest) :
    wholeDigits? (Nat.toDigits 10 n ++ rest) = some (Nat.toDigits 10 n, rest) := by
  by_cases zero : n = 0
  · subst zero
    rfl
  · have run := digits?_append Nat.toDigits_ne_nil
      (fun _ => isDigit_of_mem_toDigits (n := n)) ends
    cases written : Nat.toDigits 10 n with
    | nil => exact absurd written Nat.toDigits_ne_nil
    | cons first others =>
      have leading : first ≠ '0' := by
        have head := toDigits_head zero
        rw [written] at head
        simpa using head
      rw [written] at run
      rw [List.cons_append, wholeDigits?]
      · exact run
      · intro tail same
        exact leading (List.cons.inj same).1

theorem fraction?_of_endsNumber {rest : List Char} (ends : EndsNumber rest) :
    fraction? rest = some (none, rest) := by
  unfold fraction?
  split
  · have point := ends '.' rfl
    contradiction
  · rfl

theorem exponent?_of_endsNumber {rest : List Char} (ends : EndsNumber rest) :
    exponent? rest = some (none, rest) := by
  cases rest with
  | nil => rfl
  | cons c rest =>
    have other := ends c rfl
    simp only [continuesNumber, Bool.or_eq_false_iff, decide_eq_false_iff_not] at other
    simp [exponent?, other.1.2, other.2]

theorem le_ofDigitChars (digits : List Char) (n : Nat) : n ≤ Nat.ofDigitChars 10 digits n := by
  rw [Nat.ofDigitChars_eq_ofDigitChars_zero]
  exact Nat.le_add_right_of_le (Nat.le_mul_of_pos_left n (by positivity))

/-- Digits join a significand that 64 bits hold until the end. -/
theorem takeWhole_eq (significand : Nat) (digits : List Char)
    (fits : Nat.ofDigitChars 10 digits significand < Nat.pow 2 64) :
    Literal.takeWhole significand digits = (Nat.ofDigitChars 10 digits significand, 0) := by
  induction digits generalizing significand with
  | nil => rfl
  | cons digit digits ih =>
    have below : 10 * significand + digitValue digit < Nat.pow 2 64 :=
      Nat.lt_of_le_of_lt (le_ofDigitChars digits _) fits
    rw [Literal.takeWhole, if_pos below]
    exact ih _ fits

/-- Where no digit was left over, they all joined the significand. -/
theorem eq_ofDigitChars_of_takeWhole {significand value : Nat} {digits : List Char}
    (whole : Literal.takeWhole significand digits = (value, 0)) :
    value = Nat.ofDigitChars 10 digits significand := by
  induction digits generalizing significand with
  | nil => exact (Prod.mk.inj whole).1.symm
  | cons digit digits ih =>
    rw [Literal.takeWhole] at whole
    split at whole
    · exact ih whole
    · have skipped := (Prod.mk.inj whole).2
      omega

/-- The integers that a JSON value holds. -/
def Held (n : Int) : Prop := -2 ^ 63 ≤ n ∧ n ≤ 2 ^ 64 - 1

instance (n : Int) : Decidable (Held n) := inferInstanceAs (Decidable (_ ∧ _))

theorem exists_integer_iff {n : Int} : (∃ m : Integer, m.val = n) ↔ Held n := by
  constructor
  · rintro ⟨m, rfl⟩
    exact ⟨m.lo_le, m.le_hi⟩
  · rintro ⟨low, high⟩
    exact ⟨⟨n, low, high⟩, rfl⟩

/-- An integer as it is written. -/
def intLiteral (n : Int) : Literal := ⟨n < 0, Nat.toDigits 10 n.natAbs, none, none⟩

theorem scan?_intText (n : Int) {rest : List Char} (ends : EndsNumber rest) :
    Literal.scan? (intText n ++ rest) = some (intLiteral n, rest) := by
  have whole := wholeDigits?_toDigits n.natAbs ends
  have fraction := fraction?_of_endsNumber ends
  have exponent := exponent?_of_endsNumber ends
  unfold intText
  split
  · rename_i negative
    simp [Literal.scan?, whole, fraction, exponent, negative, intLiteral]
  · rename_i positive
    -- The first digit is no sign.
    have unsigned : ∀ tail, Nat.toDigits 10 n.natAbs ++ rest ≠ '-' :: tail := by
      intro tail same
      have first : (Nat.toDigits 10 n.natAbs).head? = some '-' := by
        rw [← List.head?_append_of_ne_nil _ Nat.toDigits_ne_nil, same]
        rfl
      have digit := isDigit_of_mem_toDigits (List.mem_of_mem_head? first)
      contradiction
    simp [Literal.scan?, whole, fraction, exponent, positive, intLiteral]

/-- An integer literal is what its digits and its sign say. -/
theorem value?_integer (n : Integer) : (intLiteral n.val).value? = some (.integer n) := by
  have fits : n.val.natAbs < Nat.pow 2 64 := by
    have lower := n.lo_le
    have upper := n.le_hi
    have power : Nat.pow 2 64 = 18446744073709551616 := rfl
    omega
  have whole : Literal.takeWhole 0 (Nat.toDigits 10 n.val.natAbs) = (n.val.natAbs, 0) := by
    have read := Nat.ofDigitChars_ten_toDigits (n := n.val.natAbs)
    rw [takeWhole_eq 0 _ (read.symm ▸ fits), read]
  have held : (BoundedInt.ofInt? n.val : Option Integer) = some n :=
    BoundedInt.ofInt?_eq_some_iff.mpr rfl
  by_cases negative : n.val < 0
  · have signed : (-(n.val.natAbs : Int)) = n.val := by omega
    have nonzero : n.val.natAbs ≠ 0 := by omega
    simp only [Literal.value?, intLiteral, whole, negative, nonzero, signed, held, decide_true,
      if_true, and_false, if_false]
  · have unsigned : (n.val.natAbs : Int) = n.val := by omega
    simp only [Literal.value?, intLiteral, whole, negative, unsigned, held, decide_false,
      Bool.false_eq_true, if_true, if_false, false_and]

/-- A literal that comes out as an integer is that integer. -/
theorem val_eq_of_value? {n : Int} {m : Integer}
    (value : (intLiteral n).value? = some (.integer m)) : m.val = n := by
  cases whole : Literal.takeWhole 0 (Nat.toDigits 10 n.natAbs) with
  | mk significand skipped =>
    simp only [Literal.value?, intLiteral, whole] at value
    split at value
    · rename_i all
      subst all
      obtain rfl : significand = n.natAbs := by
        rw [eq_ofDigitChars_of_takeWhole whole, Nat.ofDigitChars_ten_toDigits]
      split at value
      · simp at value
      · split at value
        · rename_i held
          cases value
          rw [BoundedInt.ofInt?_eq_some_iff.mp held]
          simp only [decide_eq_true_eq]
          omega
        · simp at value
    · simp at value

theorem intText_cons (n : Int) :
    ∃ c others, intText n = c :: others ∧ (c = '-' ∨ c.isDigit = true) := by
  unfold intText
  split
  · exact ⟨_, _, rfl, .inl rfl⟩
  · have nonempty : Nat.toDigits 10 n.natAbs ≠ [] := Nat.toDigits_ne_nil
    obtain ⟨c, others, written⟩ := List.exists_cons_of_ne_nil nonempty
    refine ⟨c, others, written, .inr (isDigit_of_mem_toDigits (n := n.natAbs) ?_)⟩
    rw [written]
    exact List.mem_cons_self

end Integers

namespace Token

/-- The text reads as the tokens, up to the text that remains. -/
inductive Reads : List Char → List Token → List Char → Prop where
  | done {rest : List Char} : Reads rest [] rest
  | blank {c : Char} {text rest : List Char} {tokens : List Token} :
      isBlank c = true → Reads text tokens rest → Reads (c :: text) tokens rest
  | token {c : Char} {text middle rest : List Char} {token : Token} {tokens : List Token} :
      isBlank c = false → next? c text = some (token, middle) → Reads middle tokens rest →
      Reads (c :: text) (token :: tokens) rest

section Numbers

variable {c : Char} {text rest : List Char} {literal : Literal}

theorem ne_of_starts (starts : c = '-' ∨ c.isDigit = true) (mark : Char)
    (other : ¬(mark = '-' ∨ mark.isDigit = true)) : c ≠ mark := by
  rintro rfl
  exact other starts

theorem isBlank_of_starts (starts : c = '-' ∨ c.isDigit = true) : isBlank c = false := by
  have other := ne_of_starts starts
  simp [isBlank, other ' ' (by decide), other '\t' (by decide), other '\n' (by decide),
    other '\r' (by decide)]

/-- A sign or a digit starts nothing but a number. -/
theorem next?_of_starts (starts : c = '-' ∨ c.isDigit = true)
    (scanned : Literal.scan? (c :: text) = some (literal, rest)) :
    next? c text = literal.value?.map fun n => (.number n, rest) := by
  have other := ne_of_starts starts
  have unmarked : punctuation? c = none := by
    simp [punctuation?, other '[' (by decide), other ']' (by decide), other '\x7b' (by decide),
      other '\x7d' (by decide), other ',' (by decide), other ':' (by decide)]
  simp [next?, unmarked, other '"' (by decide), starts, scanned]

end Numbers

namespace Reads

variable {text middle rest : List Char} {tokens others : List Token}

theorem append (first : Reads text tokens middle) (second : Reads middle others rest) :
    Reads text (tokens ++ others) rest := by
  induction first with
  | done => exact second
  | blank blank _ ih => exact .blank blank (ih second)
  | token visible found _ ih => exact .token visible found (ih second)

/-- Reading to the end is scanning. -/
theorem scan_eq (reads : Reads text tokens []) : scan text = some tokens := by
  generalize finish : ([] : List Char) = rest at reads
  induction reads with
  | done =>
    subst finish
    rw [scan]
  | blank blank _ ih =>
    rw [scan, if_pos blank]
    exact ih finish
  | token visible found _ ih =>
    rw [scan, if_neg (by simp [visible])]
    split
    · rename_i missing
      rw [found] at missing
      contradiction
    · rename_i same
      rw [found] at same
      cases same
      rw [ih finish]
      rfl

theorem blanks {gap : List Char} (blank : ∀ c ∈ gap, isBlank c = true)
    (reads : Reads text tokens rest) : Reads (gap ++ text) tokens rest := by
  induction gap with
  | nil => exact reads
  | cons c gap ih =>
    obtain ⟨first, others⟩ := List.forall_mem_cons.mp blank
    exact .blank first (ih others)

theorem punctuation {c : Char} {token : Token} (mark : punctuation? c = some token)
    (rest : List Char) : Reads (c :: rest) [token] rest := by
  have visible : isBlank c = false := by
    rw [Bool.eq_false_iff]
    intro blank
    simp only [isBlank, Bool.or_eq_true, decide_eq_true_eq] at blank
    rcases blank with ((rfl | rfl) | rfl) | rfl
    all_goals simp [punctuation?] at mark
  refine .token visible ?_ .done
  simp only [next?, mark]

theorem null (rest : List Char) : Reads (['n', 'u', 'l', 'l'] ++ rest) [.null] rest :=
  .token rfl rfl .done

theorem bool (b : Bool) (rest : List Char) : Reads (boolText b ++ rest) [.bool b] rest := by
  cases b with
  | true => exact .token rfl rfl .done
  | false => exact .token rfl rfl .done

theorem string (s : String) (rest : List Char) : Reads (quote s ++ rest) [.string s] rest := by
  have written : quote s ++ rest = '"' :: (s.toList.flatMap escape ++ '"' :: rest) := by
    simp [quote]
  rw [written]
  refine .token rfl ?_ .done
  simp [next?, punctuation?, scanString_flatMap_escape]

theorem number {c : Char} {literal : Literal} {n : Number} (starts : c = '-' ∨ c.isDigit = true)
    (scanned : Literal.scan? (c :: text) = some (literal, rest)) (value : literal.value? = some n) :
    Reads (c :: text) [.number n] rest := by
  refine .token (isBlank_of_starts starts) ?_ .done
  rw [next?_of_starts starts scanned, value]
  rfl

theorem integer (n : Integer) (ends : EndsNumber rest) :
    Reads (Number.text (.integer n) ++ rest) [.number (.integer n)] rest := by
  have scanned := scan?_intText n.val ends
  obtain ⟨c, others, written, starts⟩ := intText_cons n.val
  rw [Number.text, written]
  rw [written] at scanned
  exact number starts scanned (value?_integer n)

end Reads

/-- The text of an integer, of any size, is one number or nothing. -/
theorem scan_intText (n : Int) :
    scan (Decimal.intText n) = (intLiteral n).value?.map fun number => [.number number] := by
  obtain ⟨c, others, written, starts⟩ := intText_cons n
  have scanned := scan?_intText n endsNumber_nil
  rw [List.append_nil, written] at scanned
  have next := next?_of_starts starts scanned
  rw [written]
  cases value : (intLiteral n).value? with
  | none =>
    rw [value, Option.map_none] at next
    rw [scan, if_neg (by simp [isBlank_of_starts starts])]
    split
    · rfl
    · rename_i found
      rw [next] at found
      contradiction
  | some number =>
    rw [value] at next
    exact (Reads.token (isBlank_of_starts starts) next .done).scan_eq

end Token

end Assay.Json
