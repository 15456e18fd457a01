import Assay.Config.Basic
import Assay.Decimal.Integer
import Assay.Decimal.Layout
import Assay.Text.Quoted
import Assay.Toml.Basic

/-! Configurations from TOML tables. Entries are taken in the order of the
table, and the first one that does not fit is the error. A suite is a name, or a
table whose only key is a name and whose value is empty. -/
namespace Assay.Config

/-- What a field had to be. -/
inductive Expected where
  | sequence
  | boolean
deriving DecidableEq

def Expected.words : Expected → String
  | .sequence => "a sequence"
  | .boolean => "a boolean"

inductive DecodeError where
  | unknownField (name : String)
  | unknownSuite (name : String)
  | wrongKind (found : String) (expected : Expected)
  | unreadableNumber
  | notASuite
  | notOneEntry
  | notEmpty
deriving DecidableEq

def unknownSuiteMessage (name : String) : String :=
  "unknown variant `" ++ name ++ "`, expected one of " ++
    ", ".intercalate (Suite.all.map fun suite => "`" ++ suite.tag ++ "`")

def DecodeError.message : DecodeError → String
  | .unknownField name => "unknown field `" ++ name ++ "`, expected `suites` or `fail_fast`"
  | .unknownSuite name => unknownSuiteMessage name
  | .wrongKind found expected => "invalid type: " ++ found ++ ", expected " ++ expected.words
  | .unreadableNumber => "unreadable number"
  | .notASuite => "wanted string or table"
  | .notOneEntry => "wanted exactly 1 element"
  | .notEmpty => "expected empty table"

/-- An integer with the width it needs beyond 64 bits. -/
def integerKind? (n : Int) : Option String :=
  let number := "integer `" ++ Decimal.intString n ++ "`"
  if IntFormat.int64.least ≤ n ∧ n ≤ IntFormat.uint64.greatest then some number
  else if IntFormat.int128.least ≤ n ∧ n ≤ IntFormat.int128.greatest then
    some (number ++ " as i128")
  else if 0 ≤ n ∧ n ≤ IntFormat.uint128.greatest then some (number ++ " as u128")
  else none

/-- How a message calls a value; none for a number that cannot be read. -/
def kind? : Toml → Option String
  | .string s => some ("string " ++ Text.quoted s)
  | .integer n => integerKind? n
  | .float x =>
    let text := Decimal.messageLayout.text .binary64 x.toBits.toNat
    some ("floating point `" ++ String.ofList text ++ "`")
  | .boolean b => some ("boolean `" ++ (if b then "true" else "false") ++ "`")
  | .dateTime _ => some "map"
  | .unreadable => none
  | .array _ => some "sequence"
  | .table _ => some "map"

def wrongKind (v : Toml) (expected : Expected) : DecodeError :=
  match kind? v with
  | some found => .wrongKind found expected
  | none => .unreadableNumber

def namedSuite (name : String) : Except DecodeError Suite :=
  match Suite.ofTag? name with
  | some suite => .ok suite
  | none => .error (.unknownSuite name)

def readSuite : Toml → Except DecodeError Suite
  | .string name => namedSuite name
  | .table [(name, content)] => do
    let suite ← namedSuite name
    match content with
    | .table [] => .ok suite
    | .array [] => .ok suite
    | _ => .error .notEmpty
  | .table _ => .error .notOneEntry
  | _ => .error .notASuite

def readSuites : Toml → Except DecodeError (List Suite)
  | .array items => items.mapM readSuite
  | v => .error (wrongKind v .sequence)

def readFlag : Toml → Except DecodeError Bool
  | .boolean b => .ok b
  | v => .error (wrongKind v .boolean)

/-- The configuration with one field set. -/
def setField (config : Config) : String × Toml → Except DecodeError Config
  | (name, v) =>
    if name = "suites" then (readSuites v).map fun suites => { config with suites }
    else if name = "fail_fast" then (readFlag v).map fun failFast => { config with failFast }
    else .error (.unknownField name)

/-- The configuration that a table describes; absent fields are standard. -/
def ofTable (entries : List (String × Toml)) : Except DecodeError Config :=
  entries.foldlM setField standard

end Assay.Config
