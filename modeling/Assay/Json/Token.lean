import Assay.Json.Literal
import Assay.Json.Text

/-! Tokens of JSON text. Blanks separate tokens and are dropped. -/
namespace Assay.Json

inductive Token where
  | openArray
  | closeArray
  | openObject
  | closeObject
  | comma
  | colon
  | null
  | bool (b : Bool)
  | number (n : Number)
  | string (s : String)
deriving DecidableEq

namespace Token

def isBlank (c : Char) : Bool := c = ' ' || c = '\t' || c = '\n' || c = '\r'

/-- The token that one character is. -/
def punctuation? (c : Char) : Option Token :=
  if c = '[' then some .openArray
  else if c = ']' then some .closeArray
  else if c = '\x7b' then some .openObject
  else if c = '\x7d' then some .closeObject
  else if c = ',' then some .comma
  else if c = ':' then some .colon
  else none

/-- The word at the front of the text, and what follows it. -/
def word? : List Char → Option (Token × List Char)
  | 't' :: 'r' :: 'u' :: 'e' :: rest => some (.bool true, rest)
  | 'f' :: 'a' :: 'l' :: 's' :: 'e' :: rest => some (.bool false, rest)
  | 'n' :: 'u' :: 'l' :: 'l' :: rest => some (.null, rest)
  | _ => none

/-- The token that starts with `c`. -/
def next? (c : Char) (rest : List Char) : Option (Token × List Char) :=
  match punctuation? c with
  | some token => some (token, rest)
  | none =>
    if c = '"' then
      (scanString rest).map fun (s, rest) => (.string (String.ofList s), rest)
    else if c = '-' ∨ c.isDigit then
      match Literal.scan? (c :: rest) with
      | none => none
      | some (literal, rest) => literal.value?.map fun n => (.number n, rest)
    else word? (c :: rest)

theorem word?_length {text rest : List Char} {token : Token} (found : word? text = some (token, rest)) :
    rest.length < text.length := by
  unfold word? at found
  split at found
  · cases found; simp; omega
  · cases found; simp; omega
  · cases found; simp; omega
  · contradiction

theorem next?_length {c : Char} {text rest : List Char} {token : Token}
    (found : next? c text = some (token, rest)) : rest.length ≤ text.length := by
  unfold next? at found
  split at found
  · cases found; exact Nat.le_refl _
  · split at found
    · obtain ⟨⟨s, after⟩, scanned, same⟩ := Option.map_eq_some_iff.mp found
      cases same
      exact Nat.le_of_lt (scanString_length scanned)
    · split at found
      · split at found
        · contradiction
        · rename_i literal after scanned
          obtain ⟨n, _, same⟩ := Option.map_eq_some_iff.mp found
          cases same
          exact Nat.le_of_lt_succ (Literal.scan?_length scanned)
      · exact Nat.le_of_lt_succ (word?_length found)

/-- The tokens of the whole text. -/
def scan : List Char → Option (List Token)
  | [] => some []
  | c :: rest =>
    if isBlank c then scan rest
    else
      match found : next? c rest with
      | none => none
      | some (token, rest') =>
        have := next?_length found
        (scan rest').map (token :: ·)
termination_by text => text.length

end Token

end Assay.Json
