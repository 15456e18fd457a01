import Assay.Json.Token

/-! Reading JSON text. The reader takes one token at a time and keeps the
arrays and objects that are still open, innermost first; a document is the value
left over when nothing is open and no token remains. -/
namespace Assay.Json

/-- How many arrays and objects may be open at once. -/
def depthLimit : Nat := 127

/-- An open container: what it holds so far, and for an object the key whose
value is awaited. Items of an array stand last first. -/
inductive Frame where
  | array (items : List Json)
  | object (members : Fields Json) (key : String)

/-- What has been read, and so what may follow. -/
inductive State where
  /-- A value must follow. -/
  | value (frames : List Frame)
  /-- An array was opened: a value or its end must follow. -/
  | firstItem (frames : List Frame)
  /-- An object was opened: a key or its end must follow. -/
  | firstKey (frames : List Frame)
  /-- A comma was read in an object: a key must follow. -/
  | nextKey (frames : List Frame) (members : Fields Json)
  /-- A key was read: a colon must follow. -/
  | colon (frames : List Frame) (members : Fields Json) (key : String)
  /-- A value was read: a comma, an end, or the end of the text must follow. -/
  | after (frames : List Frame) (v : Json)

namespace State

/-- The state after the first token of a value. -/
def beginValue (frames : List Frame) : Token → Option State
  | .null => some (.after frames .null)
  | .bool b => some (.after frames (.bool b))
  | .number n => some (.after frames (.number n))
  | .string s => some (.after frames (.string s))
  | .openArray => if frames.length < depthLimit then some (.firstItem frames) else none
  | .openObject => if frames.length < depthLimit then some (.firstKey frames) else none
  | _ => none

def step : State → Token → Option State
  | .value frames, token => beginValue frames token
  | .firstItem frames, .closeArray => some (.after frames (.array []))
  | .firstItem frames, token => beginValue (.array [] :: frames) token
  | .firstKey frames, .closeObject => some (.after frames (.object []))
  | .firstKey frames, .string key => some (.colon frames [] key)
  | .nextKey frames members, .string key => some (.colon frames members key)
  | .colon frames members key, .colon => some (.value (.object members key :: frames))
  | .after (.array items :: frames) v, .comma => some (.value (.array (v :: items) :: frames))
  | .after (.array items :: frames) v, .closeArray =>
    some (.after frames (.array (v :: items).reverse))
  | .after (.object members key :: frames) v, .comma =>
    some (.nextKey frames (Fields.insert members key v))
  | .after (.object members key :: frames) v, .closeObject =>
    some (.after frames (.object (Fields.insert members key v)))
  | _, _ => none

def run (state : State) (tokens : List Token) : Option State := tokens.foldlM step state

/-- The finished document. -/
def document? : State → Option Json
  | .after [] v => some v
  | _ => none

end State

/-- The value that the tokens spell. -/
def ofTokens? (tokens : List Token) : Option Json :=
  ((State.value []).run tokens).bind State.document?

/-- The value of a JSON text, none when the text is malformed, nested too
deeply, or holds a number out of range. -/
def parse? (text : String) : Option Json := (Token.scan text.toList).bind ofTokens?

end Assay.Json
