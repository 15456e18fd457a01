/-! Checks: a name and what came of it. A fault is told from the outermost
circumstance to the root cause. -/
namespace Assay

structure Fault where
  messages : List String
deriving DecidableEq

def Fault.message (fault : Fault) : String := ": ".intercalate fault.messages

/-- A named trial with its outcome. -/
structure Check where
  name : String
  outcome : Except Fault Unit

namespace Check

/-- Passes when the condition holds. -/
def ensure (condition : Bool) (message : String) : Except Fault Unit :=
  if condition then .ok () else .error ⟨[message]⟩

end Check

end Assay
