import Assay.Toml.Text

/-! Tokens of TOML text. Blanks and comments between tokens are dropped. Brackets
remember whether they touch a bracket of their kind, because the headers of
arrays of tables are written with two that touch. A bare word is everything up
to a delimiter, dots and the blanks between its parts included, so that a dotted
key, a number with a point, or a date and a time are one word. A quote opens a
string only where a part may begin. -/
namespace Assay.Toml

inductive Token where
  | newline
  | equals
  | comma
  | openBracket (touching : Bool)
  | closeBracket (touching : Bool)
  | openBrace
  | closeBrace
  | bare (text : List Char)
  | quoted (s : String)
  | block (s : String)
deriving DecidableEq

namespace Token

def isDelimiter (c : Char) : Bool :=
  c = '=' || c = ',' || c = '[' || c = ']' || c = '\x7b' || c = '\x7d' || c = '#' || c = '\n' ||
    c = '\r'

def isQuote (c : Char) : Bool := c = '"' || c = '\''

/-- Whether the text starts with a part of a bare word, or with a dot. -/
def startsPart : List Char → Bool
  | [] => false
  | c :: _ => !(isDelimiter c || isBlank c || isQuote c)

/-- More of a bare word, and what follows it. A quote is one of its characters
only when `inside` a part. -/
def word (inside : Bool) : List Char → Text.Scanned
  | [] => ([], [])
  | c :: rest =>
    if isBlank c then
      if startsPart (rest.dropWhile isBlank) then (word false rest).push c else ([], c :: rest)
    else if isDelimiter c || (isQuote c && !inside) then ([], c :: rest)
    else (word (c ≠ '.') rest).push c

def isLineEnd (c : Char) : Bool := c = '\n' || c = '\r'

/-- What follows a comment, whose mark has been read. -/
def afterComment? (text : List Char) : Option (List Char) :=
  if (text.takeWhile fun c => !isLineEnd c).all isTextChar then
    some (text.dropWhile fun c => !isLineEnd c)
  else none

/-- A string whose opening quote has been read: a block after two more quotes,
an ordinary string otherwise. -/
def string? (quote : Char) (block line : List Char → Option Text.Scanned) :
    List Char → Option (Token × List Char)
  | a :: b :: rest =>
    if a = quote ∧ b = quote then
      (block (dropLineBreak rest)).map fun (s, rest) => (.block (String.ofList s), rest)
    else (line (a :: b :: rest)).map fun (s, rest) => (.quoted (String.ofList s), rest)
  | text => (line text).map fun (s, rest) => (.quoted (String.ofList s), rest)

/-- The token that one character is, given the character before it. -/
def punctuation? (previous : Option Char) (c : Char) : Option Token :=
  if c = '\n' then some .newline
  else if c = '=' then some .equals
  else if c = ',' then some .comma
  else if c = '[' then some (.openBracket (previous = some '['))
  else if c = ']' then some (.closeBracket (previous = some ']'))
  else if c = '\x7b' then some .openBrace
  else if c = '\x7d' then some .closeBrace
  else none

/-- The token that starts with `c`, which is neither blank nor a comment's
mark. -/
def next? (previous : Option Char) (c : Char) (rest : List Char) : Option (Token × List Char) :=
  match punctuation? previous c with
  | some token => some (token, rest)
  | none =>
    if c = '\r' then
      match rest with
      | '\n' :: rest => some (.newline, rest)
      | _ => none
    else if c = '"' then string? '"' basicBlock basicString rest
    else if c = '\'' then string? '\'' literalBlock literalString rest
    else
      let (text, rest) := (word (c ≠ '.') rest).push c
      some (.bare text, rest)

theorem length_dropWhile_le (p : Char → Bool) (text : List Char) :
    (text.dropWhile p).length ≤ text.length := (List.dropWhile_suffix p).length_le

theorem word_length (inside : Bool) (text : List Char) :
    (word inside text).2.length ≤ text.length := by
  fun_induction word inside text with
  | case2 _ _ _ _ _ shorter => exact Nat.le_succ_of_le shorter
  | case5 _ _ _ _ _ shorter => exact Nat.le_succ_of_le shorter
  | _ => exact Nat.le_refl _

theorem afterComment?_length {text rest : List Char} (found : afterComment? text = some rest) :
    rest.length ≤ text.length := by
  unfold afterComment? at found
  split at found
  · cases found; exact length_dropWhile_le _ _
  · contradiction

theorem dropLineBreak_length (text : List Char) : (dropLineBreak text).length ≤ text.length := by
  fun_cases dropLineBreak text with
  | case1 rest => exact Nat.le_succ _
  | case2 rest => exact Nat.le_trans (Nat.le_succ _) (Nat.le_succ _)
  | case3 => exact Nat.le_refl _

theorem string?_length {quote : Char} {block line : List Char → Option Text.Scanned}
    (block_shrinks : ∀ {text s rest}, block text = some (s, rest) → rest.length < text.length)
    (line_shrinks : ∀ {text s rest}, line text = some (s, rest) → rest.length < text.length)
    {text rest : List Char} {token : Token} (found : string? quote block line text = some (token, rest)) :
    rest.length ≤ text.length := by
  unfold string? at found
  split at found
  · split at found
    · obtain ⟨⟨s, after⟩, scanned, same⟩ := Option.map_eq_some_iff.mp found
      cases same
      have := block_shrinks scanned
      rename_i opened _
      have := dropLineBreak_length opened
      simp only [List.length_cons]
      omega
    · obtain ⟨⟨s, after⟩, scanned, same⟩ := Option.map_eq_some_iff.mp found
      cases same
      exact Nat.le_of_lt (line_shrinks scanned)
  · obtain ⟨⟨s, after⟩, scanned, same⟩ := Option.map_eq_some_iff.mp found
    cases same
    exact Nat.le_of_lt (line_shrinks scanned)

theorem next?_length {previous : Option Char} {c : Char} {text rest : List Char} {token : Token}
    (found : next? previous c text = some (token, rest)) : rest.length ≤ text.length := by
  unfold next? at found
  split at found
  · cases found; exact Nat.le_refl _
  split at found
  · split at found
    · cases found; exact Nat.le_succ _
    · contradiction
  split at found
  · exact string?_length basicBlock_length basicString_length found
  split at found
  · exact string?_length literalBlock_length literalString_length found
  cases found
  exact word_length _ text

/-- The tokens of the text, given the character before it. -/
def scan (previous : Option Char) (text : List Char) : Option (List Token) :=
  match text with
  | [] => some []
  | c :: rest =>
    if isBlank c then scan (some c) rest
    else if c = '#' then
      match found : afterComment? rest with
      | none => none
      | some rest' =>
        have := afterComment?_length found
        scan (some c) rest'
    else
      match found : next? previous c rest with
      | none => none
      | some (token, rest') =>
        have := next?_length found
        (scan (some c) rest').map (token :: ·)
termination_by text.length

end Token

end Assay.Toml
