import Assay.Json.Basic
import Assay.Text.Hex
import Assay.Text.Scanned

/-! JSON string literals. Writing escapes the quote, the backslash and the
control characters below the space, and nothing else. Reading takes every
escape of the format; code units above the basic plane come as a leading and a
trailing surrogate, one right after the other. -/
namespace Assay.Json

open Text (Scanned)

/-- The code unit written with four hexadecimal digits. -/
def codeUnit? (a b c d : Char) : Option Nat := Text.natOfHex? [a, b, c, d]

/-- The character of a one-letter escape. -/
def shortEscape? (c : Char) : Option Char :=
  if c = '"' then some '"'
  else if c = '\\' then some '\\'
  else if c = '/' then some '/'
  else if c = 'b' then some '\x08'
  else if c = 'f' then some '\x0c'
  else if c = 'n' then some '\n'
  else if c = 'r' then some '\r'
  else if c = 't' then some '\t'
  else none

def isLeading (unit : Nat) : Bool := 0xD800 ≤ unit && unit < 0xDC00

def isTrailing (unit : Nat) : Bool := 0xDC00 ≤ unit && unit < 0xE000

/-- The character of a surrogate pair. -/
def pairedChar (leading trailing : Nat) : Char :=
  Char.ofNat (0x10000 + (leading - 0xD800) * 0x400 + (trailing - 0xDC00))

/-- The characters of a string literal whose opening quote has been read, and
the text after its closing quote. -/
def scanString : List Char → Option Scanned
  | [] => none
  | c :: rest =>
    if c = '"' then some ([], rest)
    else if c = '\\' then
      match rest with
      | 'u' :: h₁ :: h₂ :: h₃ :: h₄ :: rest =>
        match codeUnit? h₁ h₂ h₃ h₄ with
        | none => none
        | some unit =>
          if isLeading unit then
            match rest with
            | '\\' :: 'u' :: l₁ :: l₂ :: l₃ :: l₄ :: rest =>
              match codeUnit? l₁ l₂ l₃ l₄ with
              | none => none
              | some trailing =>
                if isTrailing trailing then
                  (scanString rest).map (.push (pairedChar unit trailing))
                else none
            | _ => none
          else if isTrailing unit then none
          else (scanString rest).map (.push (Char.ofNat unit))
      | escaped :: rest =>
        match shortEscape? escaped with
        | none => none
        | some plain => (scanString rest).map (.push plain)
      | [] => none
    else if c < ' ' then none
    else (scanString rest).map (.push c)

/-- A character inside a string literal. -/
def escape (c : Char) : List Char :=
  if c = '"' then ['\\', '"']
  else if c = '\\' then ['\\', '\\']
  else if c = '\x08' then ['\\', 'b']
  else if c = '\x0c' then ['\\', 'f']
  else if c = '\n' then ['\\', 'n']
  else if c = '\r' then ['\\', 'r']
  else if c = '\t' then ['\\', 't']
  else if c < ' ' then
    ['\\', 'u', '0', '0', Nat.digitChar (c.toNat / 16), Nat.digitChar (c.toNat % 16)]
  else [c]

/-- A string literal with its quotes. -/
def quote (s : String) : List Char :=
  '"' :: s.toList.flatMap escape ++ ['"']

theorem scanString_length {text s rest : List Char} (found : scanString text = some (s, rest)) :
    rest.length < text.length := by
  fun_induction scanString text generalizing s rest with
  | case2 => cases found; simp
  | case5 | case9 | case11 | case14 =>
    rename_i shorter
    exact Nat.lt_trans (Scanned.length_lt_of_map_push shorter found)
      (by simp only [List.length_cons]; omega)
  | _ => contradiction

end Assay.Json
