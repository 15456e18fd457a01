import Assay.Cell
import Assay.Journal
import Assay.Json.Writer
import Assay.Text.Quoted

/-! Values in the messages of failing checks. A number by itself is written plainly and, if
it is whole, without a point. Inside a structure numbers keep their point, take an exponent
when they are very large or very small, and every alternative stands under its name. -/
namespace Assay.Check

/-- A number by itself. Only whole numbers end in the digit zero after the point. -/
def floatShown (x : Float) : String :=
  let text := Decimal.messageLayout.text .binary64 x.toBits.toNat
  String.ofList (if ['.', '0'].isSuffixOf text then text.take (text.length - 2) else text)

/-- Numbers from `1e-4` up to sixteen whole digits are written plainly. -/
def nestedLayout : Decimal.Layout :=
  { Decimal.messageLayout with plain e := -4 ≤ e && e ≤ 15 }

/-- A number inside a structure; its exponent has no plus sign. -/
def nestedFloatShown (x : Float) : String :=
  String.ofList ((nestedLayout.text .binary64 x.toBits.toNat).filter (· ≠ '+'))

def listShown {α : Type} (shown : α → String) (items : List α) : String :=
  "[" ++ ", ".intercalate (items.map shown) ++ "]"

def optionShown {α : Type} (shown : α → String) : Option α → String
  | some x => "Some(" ++ shown x ++ ")"
  | none => "None"

def intShown {lo hi : Int} (n : BoundedInt lo hi) : String := Decimal.intString n.val

def cellShown : Cell → String
  | .number n => "Int(" ++ intShown n ++ ")"
  | .text s => "Text(" ++ Text.quoted s ++ ")"
  | .other => "Other"

/-- The name of an operation with its operand. -/
def pairShown (pair : String × Float) : String :=
  "(" ++ Text.quoted pair.1 ++ ", " ++ nestedFloatShown pair.2 ++ ")"

mutual

def jsonShown : Json → String
  | .null => "Null"
  | .bool b => "Bool(" ++ String.ofList (Json.boolText b) ++ ")"
  | .number n => "Number(" ++ String.ofList n.text ++ ")"
  | .string s => "String(" ++ Text.quoted s ++ ")"
  | .array items => "Array [" ++ ", ".intercalate (itemsShown items) ++ "]"
  | .object members => "Object \x7b" ++ ", ".intercalate (membersShown members) ++ "\x7d"

def itemsShown : List Json → List String
  | [] => []
  | item :: rest => jsonShown item :: itemsShown rest

def membersShown : Fields Json → List String
  | [] => []
  | (name, value) :: rest => (Text.quoted name ++ ": " ++ jsonShown value) :: membersShown rest

end

/-- A member of a document as JSON, null where there is none. -/
def memberShown (name : String) (document : Json) : String :=
  ((document.member? name).getD .null).compact

/-- The members of an object, without a word for the object itself. -/
def recordShown (record : Fields Json) : String :=
  "\x7b" ++ ", ".intercalate (membersShown record) ++ "\x7d"

end Assay.Check
