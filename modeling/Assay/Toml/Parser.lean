import Assay.Toml.Scalar
import Assay.Toml.Table
import Assay.Toml.Token

/-! Reading TOML text. The reader takes one token at a time and keeps the tables
built so far, the path of the header it is under, and what may follow. -/
namespace Assay.Toml

/-- How many arrays and inline tables may be open at once. -/
def depthLimit : Nat := 80

/-- How many names a key may have. -/
def keyLimit : Nat := 80

/-- A piece of a key: a name, or the dot between two names. -/
inductive Piece where
  | dot
  | name (text : List Char)
deriving DecidableEq

namespace Piece

/-- Puts a character before the pieces. It joins the name at their front when no
blank is between them. -/
def before (c : Char) : Bool × List Piece → Bool × List Piece
  | (isOpen, pieces) =>
    if isBlank c then (false, pieces)
    else if c = '.' then (false, .dot :: pieces)
    else
      match isOpen, pieces with
      | true, .name rest :: pieces => (true, .name (c :: rest) :: pieces)
      | _, pieces => (true, .name [c] :: pieces)

/-- The pieces of a bare word. -/
def ofBare (text : List Char) : List Piece := (text.foldr before (false, [])).2

def isKeyChar (c : Char) : Bool := c.isAlphanum || c = '_' || c = '-'

/-- Whether a bare word may be part of a key. -/
def isBareKey (text : List Char) : Bool := text.all fun c => isKeyChar c || c = '.' || isBlank c

/-- The names of a key, with one dot between neighbours. -/
def path? : List Piece → Option (List String)
  | [.name text] => some [String.ofList text]
  | .name text :: .dot :: rest => (path? rest).map (String.ofList text :: ·)
  | _ => none

/-- The names of a key that is not too long. -/
def key? (pieces : List Piece) : Option (List String) :=
  (path? pieces).filter fun path => path.length ≤ keyLimit

/-- The pieces of a token that belongs to a key. -/
def ofToken? : Token → Option (List Piece)
  | .bare text => if isBareKey text then some (ofBare text) else none
  | .quoted s => some [.name s.toList]
  | _ => none

end Piece

/-- What waits for a value: the assignment of a line, an array with its items so
far, last first, or a key of an inline table. -/
inductive Frame where
  | line (path : List String)
  | array (items : List Toml)
  | entry (entries : Entries) (path : List String)

/-- What has been read of a line, and so what may follow. -/
inductive State where
  /-- Nothing yet. -/
  | lineStart
  /-- A whole statement. -/
  | lineEnd
  /-- An opening bracket, or two, and pieces of a key. -/
  | header (many : Bool) (pieces : List Piece)
  /-- A header of an array of tables but for its last bracket. -/
  | headerEnd (pieces : List Piece)
  /-- Pieces of a key. -/
  | key (pieces : List Piece)
  /-- An equals sign: a value must follow. -/
  | value (frames : List Frame)
  /-- The opening of an array, or a comma in one. -/
  | item (frames : List Frame) (items : List Toml)
  /-- The opening of an inline table or a comma in one, and pieces of a key. -/
  | entry (frames : List Frame) (entries : Entries) (pieces : List Piece)
  /-- A key of an inline table and a line break: an equals sign must follow. -/
  | entryKey (frames : List Frame) (entries : Entries) (path : List String)
  /-- A value inside an array or an inline table. -/
  | after (frames : List Frame) (v : Toml)

structure Reader where
  root : Entries
  /-- The table that lines add to. -/
  current : List String
  state : State

namespace Reader

def start : Reader := ⟨[], [], .lineStart⟩

/-- After a value: the line is done, or the container goes on. -/
def finish (reader : Reader) (v : Toml) : List Frame → Option Reader
  | [.line path] => do
    let root ← Entries.descend (Entries.assign v path) reader.current reader.root
    return { reader with root, state := .lineEnd }
  | frames => some { reader with state := .after frames v }

/-- After the first token of a value. -/
def beginValue (reader : Reader) (frames : List Frame) : Token → Option Reader
  | .bare text => do reader.finish (← scalar? text) frames
  | .quoted s => reader.finish (.string s) frames
  | .block s => reader.finish (.string s) frames
  | .openBracket _ =>
    if frames.length ≤ depthLimit then some { reader with state := .item frames [] } else none
  | .openBrace =>
    if frames.length ≤ depthLimit then some { reader with state := .entry frames [] [] } else none
  | _ => none

/-- Opens the table that a header names. -/
def openHeader (reader : Reader) (openLast : String → Entries → Option Entries) (pieces : List Piece) :
    Option Reader := do
  let path ← Piece.key? pieces
  let last ← path.getLast?
  let root ← Entries.descend (openLast last) path.dropLast reader.root
  return ⟨root, path, .lineEnd⟩

def step (reader : Reader) (token : Token) : Option Reader :=
  match reader.state, token with
  | .lineStart, .newline => some reader
  | .lineStart, .openBracket _ => some { reader with state := .header false [] }
  | .lineStart, token => do return { reader with state := .key (← Piece.ofToken? token) }
  | .lineEnd, .newline => some { reader with state := .lineStart }
  | .header false [], .openBracket true => some { reader with state := .header true [] }
  | .header false pieces, .closeBracket _ => reader.openHeader Entries.openTable pieces
  | .header true pieces, .closeBracket _ => some { reader with state := .headerEnd pieces }
  | .header many pieces, token => do
    return { reader with state := .header many (pieces ++ (← Piece.ofToken? token)) }
  | .headerEnd pieces, .closeBracket true => reader.openHeader Entries.openElement pieces
  | .key pieces, .equals => do
    return { reader with state := .value [.line (← Piece.key? pieces)] }
  | .key pieces, token => do
    return { reader with state := .key (pieces ++ (← Piece.ofToken? token)) }
  | .value (.entry _ _ :: _), .newline => some reader
  | .value frames, token => reader.beginValue frames token
  | .item _ _, .newline => some reader
  | .item frames items, .closeBracket _ => reader.finish (.array items.reverse) frames
  | .item frames items, token => reader.beginValue (.array items :: frames) token
  | .entry _ _ [], .newline => some reader
  | .entry frames entries [], .closeBrace => reader.finish (.table (finishEntries entries)) frames
  | .entry frames entries pieces, .newline => do
    return { reader with state := .entryKey frames entries (← Piece.key? pieces) }
  | .entry frames entries pieces, .equals => do
    return { reader with state := .value (.entry entries (← Piece.key? pieces) :: frames) }
  | .entry frames entries pieces, token => do
    return { reader with state := .entry frames entries (pieces ++ (← Piece.ofToken? token)) }
  | .entryKey _ _ _, .newline => some reader
  | .entryKey frames entries path, .equals =>
    some { reader with state := .value (.entry entries path :: frames) }
  | .after _ _, .newline => some reader
  | .after (.array items :: frames) v, .comma =>
    some { reader with state := .item frames (v :: items) }
  | .after (.array items :: frames) v, .closeBracket _ =>
    reader.finish (.array (v :: items).reverse) frames
  | .after (.entry entries path :: frames) v, .comma => do
    return { reader with state := .entry frames (← Entries.assign v path entries) [] }
  | .after (.entry entries path :: frames) v, .closeBrace => do
    reader.finish (.table (finishEntries (← Entries.assign v path entries))) frames
  | _, _ => none

/-- The finished document; its last line needs no line break. -/
def document? (reader : Reader) : Option (List (String × Toml)) :=
  match reader.state with
  | .lineStart | .lineEnd => some (finishEntries reader.root)
  | _ => none

end Reader

/-- The text without a byte order mark at its front. -/
def dropMark : List Char → List Char
  | '\uFEFF' :: rest => rest
  | text => text

/-- The top table of a TOML text, none when the text is malformed or gives a key
twice. -/
def parse? (text : String) : Option (List (String × Toml)) := do
  let tokens ← Token.scan none (dropMark text.toList)
  let reader ← tokens.foldlM Reader.step Reader.start
  reader.document?

end Assay.Toml
