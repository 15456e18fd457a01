import Assay.Text.Hex
import Assay.Text.Scanned

/-! TOML strings. Basic strings take escapes, literal strings take none. A
string between triple quotes may span lines; a line break right after its
opening is dropped, and up to two quotes may stand right before its closing. In
a basic one a backslash at the end of a line joins the next text that is not
blank. -/
namespace Assay.Toml

open Text (Scanned)

/-- Spaces and tabs. -/
def isBlank (c : Char) : Bool := c = ' ' || c = '\t'

/-- Characters that may stand in strings and comments: tabs, and everything that
is not a control character. -/
def isTextChar (c : Char) : Bool := c = '\t' || (' ' ≤ c && c ≠ '\x7f')

/-- The character whose code is written with `count` hexadecimal digits. -/
def codePoint? (count : Nat) (text : List Char) : Option (Char × List Char) :=
  let digits := text.take count
  if digits.length = count then
    match Text.natOfHex? digits with
    | some code =>
      if code.isValidChar then some (Char.ofNat code, text.drop count) else none
    | none => none
  else none

/-- The character of a one-letter escape. -/
def shortEscape? (c : Char) : Option Char :=
  if c = '"' then some '"'
  else if c = '\\' then some '\\'
  else if c = 'b' then some '\x08'
  else if c = 't' then some '\t'
  else if c = 'n' then some '\n'
  else if c = 'f' then some '\x0c'
  else if c = 'r' then some '\r'
  else if c = 'e' then some '\x1b'
  else none

/-- How many digits follow the letter of a numeric escape. -/
def escapeDigits? (c : Char) : Option Nat :=
  if c = 'x' then some 2 else if c = 'u' then some 4 else if c = 'U' then some 8 else none

/-- The character of an escape whose backslash has been read. -/
def escape? : List Char → Option (Char × List Char)
  | [] => none
  | c :: rest =>
    match shortEscape? c with
    | some plain => some (plain, rest)
    | none =>
      match escapeDigits? c with
      | some count => codePoint? count rest
      | none => none

theorem codePoint?_length {count : Nat} {text rest : List Char} {c : Char}
    (found : codePoint? count text = some (c, rest)) : rest.length ≤ text.length := by
  simp only [codePoint?] at found
  split at found
  · split at found
    · split at found
      · cases found; simp
      · contradiction
    · contradiction
  · contradiction

theorem escape?_length {text rest : List Char} {c : Char} (found : escape? text = some (c, rest)) :
    rest.length < text.length := by
  unfold escape? at found
  split at found
  · contradiction
  · split at found
    · cases found; exact Nat.lt_succ_self _
    · split at found
      · exact Nat.lt_succ_of_le (codePoint?_length found)
      · contradiction

/-- The text of a basic string after its opening quote, and what follows its
closing quote. -/
def basicString : List Char → Option Scanned
  | [] => none
  | c :: rest =>
    if c = '"' then some ([], rest)
    else if c = '\\' then
      match found : escape? rest with
      | none => none
      | some (plain, rest') =>
        have := escape?_length found
        (basicString rest').map (.push plain)
    else if isTextChar c then (basicString rest).map (.push c)
    else none
termination_by text => text.length

/-- The text of a literal string after its opening quote, and what follows its
closing quote. -/
def literalString : List Char → Option Scanned
  | [] => none
  | c :: rest =>
    if c = '\'' then some ([], rest)
    else if isTextChar c then (literalString rest).map (.push c)
    else none

/-- The text without a line break at its front. -/
def dropLineBreak : List Char → List Char
  | '\n' :: rest => rest
  | '\r' :: '\n' :: rest => rest
  | text => text

/-- The text without blanks and line breaks at its front. -/
def dropBlankLines : List Char → List Char
  | '\r' :: '\n' :: rest => dropBlankLines rest
  | c :: rest => if isBlank c || c = '\n' then dropBlankLines rest else c :: rest
  | [] => []

theorem dropBlankLines_length (text : List Char) : (dropBlankLines text).length ≤ text.length := by
  fun_induction dropBlankLines text with
  | case1 rest shorter => exact Nat.le_trans shorter (by simp only [List.length_cons]; omega)
  | case2 c rest _ _ shorter => exact Nat.le_succ_of_le shorter
  | case3 | case4 => exact Nat.le_refl _

/-- Whether only blanks stand before the end of the line. -/
def endsLine (text : List Char) : Bool :=
  match text.dropWhile isBlank with
  | '\n' :: _ => true
  | '\r' :: '\n' :: _ => true
  | _ => false

/-- What follows a closing triple quote: the quotes of the string itself that
stood before it, and the rest. -/
def afterClosing (quote : Char) : List Char → Scanned
  | c :: d :: rest =>
    if c = quote then if d = quote then ([quote, quote], rest) else ([quote], d :: rest)
    else ([], c :: d :: rest)
  | [c] => if c = quote then ([quote], []) else ([], [c])
  | [] => ([], [])

/-- Whether the text starts with a triple quote. -/
def closes (quote : Char) : List Char → Bool
  | a :: b :: c :: _ => a = quote && b = quote && c = quote
  | _ => false

/-- The text of a basic string that spans lines, after its opening. -/
def basicBlock : List Char → Option Scanned
  | [] => none
  | c :: rest =>
    if closes '"' (c :: rest) then some (afterClosing '"' (rest.drop 2))
    else if c = '\\' then
      if endsLine rest then
        have := dropBlankLines_length rest
        basicBlock (dropBlankLines rest)
      else
        match found : escape? rest with
        | none => none
        | some (plain, rest') =>
          have := escape?_length found
          (basicBlock rest').map (.push plain)
    else if isTextChar c || c = '\n' || (c = '\r' && rest.head? = some '\n') then
      (basicBlock rest).map (.push c)
    else none
termination_by text => text.length

/-- The text of a literal string that spans lines, after its opening. -/
def literalBlock : List Char → Option Scanned
  | [] => none
  | c :: rest =>
    if closes '\'' (c :: rest) then some (afterClosing '\'' (rest.drop 2))
    else if isTextChar c || c = '\n' || (c = '\r' && rest.head? = some '\n') then
      (literalBlock rest).map (.push c)
    else none

theorem basicString_length {text s rest : List Char} (found : basicString text = some (s, rest)) :
    rest.length < text.length := by
  fun_induction basicString text generalizing s rest with
  | case2 => cases found; simp
  | case4 =>
    rename_i escaped _ shorter
    exact Nat.lt_trans (Scanned.length_lt_of_map_push shorter found) (Nat.lt_succ_of_lt escaped)
  | case5 =>
    rename_i shorter
    exact Nat.lt_succ_of_lt (Scanned.length_lt_of_map_push shorter found)
  | _ => contradiction

theorem literalString_length {text s rest : List Char}
    (found : literalString text = some (s, rest)) : rest.length < text.length := by
  fun_induction literalString text generalizing s rest with
  | case2 => cases found; simp
  | case3 =>
    rename_i shorter
    exact Nat.lt_succ_of_lt (Scanned.length_lt_of_map_push shorter found)
  | _ => contradiction

theorem afterClosing_length (quote : Char) (text : List Char) :
    (afterClosing quote text).2.length ≤ text.length := by
  unfold afterClosing
  split
  · split
    · split
      · simp only [List.length_cons]; omega
      · exact Nat.le_succ _
    · exact Nat.le_refl _
  · split
    · exact Nat.zero_le _
    · exact Nat.le_refl _
  · exact Nat.le_refl _

/-- A closing triple quote is not part of what follows it. -/
theorem length_lt_of_afterClosing {quote c : Char} {text s rest : List Char}
    (found : some (afterClosing quote (text.drop 2)) = some (s, rest)) :
    rest.length < (c :: text).length := by
  have bound := afterClosing_length quote (text.drop 2)
  rw [Option.some.inj found, List.length_drop] at bound
  exact Nat.lt_succ_of_le (Nat.le_trans bound (Nat.sub_le _ _))

theorem basicBlock_length {text s rest : List Char} (found : basicBlock text = some (s, rest)) :
    rest.length < text.length := by
  fun_induction basicBlock text generalizing s rest with
  | case2 => exact length_lt_of_afterClosing found
  | case3 =>
    rename_i joined _ shorter
    exact Nat.lt_succ_of_lt (Nat.lt_of_lt_of_le (shorter found) joined)
  | case5 =>
    rename_i escaped _ shorter
    exact Nat.lt_trans (Scanned.length_lt_of_map_push shorter found) (Nat.lt_succ_of_lt escaped)
  | case6 =>
    rename_i shorter
    exact Nat.lt_succ_of_lt (Scanned.length_lt_of_map_push shorter found)
  | _ => contradiction

theorem literalBlock_length {text s rest : List Char} (found : literalBlock text = some (s, rest)) :
    rest.length < text.length := by
  fun_induction literalBlock text generalizing s rest with
  | case2 => exact length_lt_of_afterClosing found
  | case3 =>
    rename_i shorter
    exact Nat.lt_succ_of_lt (Scanned.length_lt_of_map_push shorter found)
  | _ => contradiction

end Assay.Toml
