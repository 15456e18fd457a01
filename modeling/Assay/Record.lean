import Assay.Json.Basic

/-! Records with an integer identity. -/
namespace Assay

abbrev Record : Type := Fields Json

namespace Record

/-- The field `id`, when it is an integer of the signed 64-bit format. -/
def id? (record : Record) : Option IntFormat.int64.Value :=
  (Fields.get? record "id").bind Json.int64?

def hasId (id : IntFormat.int64.Value) (record : Record) : Bool := id? record = some id

/-- The first record with the identity. -/
def find? (id : IntFormat.int64.Value) (records : List Record) : Option Record :=
  records.find? (hasId id)

end Record

end Assay
