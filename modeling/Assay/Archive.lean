import Assay.Json.Parser

/-! A reader of JSON documents that counts the ones it could read and keeps
values by name. A text that is no document reads as an empty object and changes
nothing. -/
namespace Assay

structure Archive where
  documents : Nat
  cache : Fields Json

namespace Archive

def empty : Archive := ⟨0, []⟩

def read (archive : Archive) (text : String) : Json × Archive :=
  match Json.parse? text with
  | some document => (document, { archive with documents := archive.documents + 1 })
  | none => (.object [], archive)

def store (archive : Archive) (name : String) (value : Json) : Archive :=
  { archive with cache := Fields.insert archive.cache name value }

def get? (archive : Archive) (name : String) : Option Json := Fields.get? archive.cache name

/-- The kept values in ascending order of their names. -/
def sorted (archive : Archive) : Fields Json :=
  archive.cache.mergeSort fun left right => decide (left.1 ≤ right.1)

end Archive

end Assay
