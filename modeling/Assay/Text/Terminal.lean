/-! Text without the control sequences of terminals. A sequence begins with the
escape character, and the next characters tell its kind and so where it ends.
Control characters outside of sequences are left out too, unless they are
blanks. Such a blank inside a short sequence is kept with the text after it; the
sequence goes on at the next control character that is left out. -/
namespace Assay.Text

/-- What the next character is part of. -/
inductive Sequence where
  /-- No sequence. -/
  | none
  /-- A sequence of which only the escape character has been read. -/
  | escape
  /-- An escape sequence with punctuation, before its last letter. -/
  | marked
  /-- A control sequence, before its last letter. -/
  | control
  /-- The parameters of a device control string. -/
  | device
  /-- A string that a terminator ends. -/
  | string
  /-- An operating system command, which a bell ends. -/
  | command
deriving DecidableEq

namespace Sequence

/-- Control characters that are blanks. -/
def isBlankControl (c : Char) : Bool := c = '\t' || c = '\n' || c = '\x0c' || c = '\r'

/-- Characters that are kept outside of sequences. -/
def isShown (c : Char) : Bool := isBlankControl c || (' ' ≤ c && c ≠ '\x7f')

/-- Characters that take part in no sequence but a string. -/
def isOutside (c : Char) : Bool := c < ' ' || '\x7f' ≤ c

/-- Whether the encoding of the character has the octet that ends a string. -/
def terminates (c : Char) : Bool := (String.utf8EncodeChar c).contains 0x9C

/-- The kind of sequence that a character after the escape character opens. -/
def opened (c : Char) : Sequence :=
  if c < '0' then .marked
  else if c = '[' then .control
  else if c = ']' then .command
  else if c = 'P' then .device
  else if c = 'X' || c = '^' || c = '_' then .string
  else .none

/-- What follows a character, and whether the character is kept. -/
def step (sequence : Sequence) (c : Char) : Sequence × Bool :=
  if c = '\x1b' then (.escape, false)
  else if c = '\x18' || c = '\x1a' then (.none, false)
  else
    match sequence with
    | .none => (.none, isShown c)
    | .escape => if isOutside c then (.escape, isBlankControl c) else (opened c, false)
    | .marked =>
      if isOutside c || c < '0' then (.marked, isBlankControl c) else (.none, false)
    | .control =>
      if isOutside c || c < '@' then (.control, isBlankControl c) else (.none, false)
    | .device => if isOutside c || c < '@' then (.device, false) else (.string, false)
    | .string => (if terminates c then .none else .string, false)
    | .command => (if c = '\x07' then .none else .command, false)

/-- The characters that are kept. Those after one that is `shown` are shown too,
and a character beyond ASCII among them ends the sequence. -/
def kept (sequence : Sequence) (shown : Bool) : List Char → List Char
  | [] => []
  | c :: rest =>
    if shown && isShown c then
      c :: kept (if c ≤ '\x7f' then sequence else .none) true rest
    else
      let (next, keep) := sequence.step c
      if keep then c :: kept next true rest else kept next false rest

end Sequence

/-- The text without control sequences; one that is not finished ends with the
text. -/
def plain (s : String) : String := String.ofList (Sequence.none.kept true s.toList)

end Assay.Text
