import Assay.Accumulator
import Assay.Archive
import Assay.Record
import Assay.Sample
import Assay.Shape
import Assay.Suite.Basic
import Assay.Suite.Check
import Assay.Suite.Shown
import Assay.Summary

/-! The checks of each suite. Every check runs the library on a small example
and compares with the known answer. -/
namespace Assay

namespace Check

abbrev Word : Type := IntFormat.int32.Value

/-- The value, or the overflow as a fault. -/
def orOverflow {α : Type} : Except Overflow α → Except Fault α
  | .ok x => .ok x
  | .error overflow => .error ⟨[overflow.message]⟩

def orMissing {α : Type} (message : String) : Option α → Except Fault α
  | some x => .ok x
  | none => .error ⟨[message]⟩

def add : Except Fault Unit := do
  let five ← orOverflow (Checked.add (⟨2, by decide, by decide⟩ : Word) ⟨3, by decide, by decide⟩)
  ensure (five.val = 5) "add(2, 3) != 5"
  let zero ← orOverflow (Checked.add (⟨-1, by decide, by decide⟩ : Word) ⟨1, by decide, by decide⟩)
  ensure (zero.val = 0) "add(-1, 1) != 0"
  let two ← orOverflow (Checked.add (0.5 : Float) 1.5)
  ensure (OrderKey.same two 2) "add(0.5, 1.5) != 2.0"

/-- The cell of an integer. -/
def cell (n : Int) (fits : IntFormat.int128.least ≤ n ∧ n ≤ IntFormat.int128.greatest) : Cell :=
  .number ⟨n, fits.1, fits.2⟩

def amplify : Except Fault Unit :=
  let cells : List Cell := [cell 1 (by decide), .text "hello", cell 2 (by decide), .text "world"]
  let expected : List Cell :=
    [cell 2 (by decide), .text "HELLO", cell 4 (by decide), .text "WORLD"]
  let result := Cell.amplify cells
  ensure (result = expected) ("process_list returned " ++ listShown cellShown result)

def accumulate : Except Fault Unit := do
  let start : Accumulator Word := ⟨⟨10, by decide, by decide⟩⟩
  let addition := .add ⟨5, by decide, by decide⟩
  let added ← orOverflow (start.apply addition)
  ensure (added.val = 15) ("add(5) returned " ++ intShown added)
  let multiplied ← orOverflow ((start.advance addition).apply (.multiply ⟨2, by decide, by decide⟩))
  ensure (multiplied.val = 30) ("multiply(2) returned " ++ intShown multiplied)

/-- The same names with numbers that compare equal. -/
def samePairs (pairs expected : List (String × Float)) : Bool :=
  pairs.isEqv expected fun left right => left.1 = right.1 && OrderKey.same left.2 right.2

def journal : Except Fault Unit := do
  let added := (Journal.start (10 : Float)).add 5
  ensure (OrderKey.same added.value 15) ("add(5.0) returned " ++ floatShown added.value)
  let multiplied := added.multiply 2
  ensure (OrderKey.same multiplied.value 30)
    ("multiply(2.0) returned " ++ floatShown multiplied.value)
  let history := multiplied.history.map Journal.Entry.pair
  ensure (samePairs history [("add", 5), ("multiply", 2)])
    ("unexpected history " ++ listShown pairShown history)
  ensure (Journal.sameHistory multiplied.history multiplied.history)
    "repeated get_history calls differ"

def summarize : Except Fault Unit := do
  let numbers : List IntFormat.int64.Value :=
    [⟨1, by decide, by decide⟩, ⟨2, by decide, by decide⟩, ⟨3, by decide, by decide⟩,
      ⟨4, by decide, by decide⟩, ⟨5, by decide, by decide⟩]
  let result ← orOverflow (Summary.ofList numbers)
  ensure (result.count = 5) ("count " ++ Decimal.intString result.count)
  ensure (result.sum.val = 15) ("sum " ++ intShown result.sum)
  ensure (OrderKey.same result.average 3) ("average " ++ floatShown result.average)
  ensure (result.least = some ⟨1, by decide, by decide⟩)
    ("min " ++ optionShown intShown result.least)
  ensure (result.greatest = some ⟨5, by decide, by decide⟩)
    ("max " ++ optionShown intShown result.greatest)
  let empty ← orOverflow (Summary.ofList ([] : List IntFormat.int64.Value))
  ensure (empty.count = 0) ("empty count " ++ Decimal.intString empty.count)
  ensure (empty.least.isNone && empty.greatest.isNone) "empty input reported min/max"

def describe : Except Fault Unit :=
  let described := Shape.describeFields Sample.profile
  ["name", "age", "scores"].forM fun key =>
    ensure (Fields.get? described key).isSome ("missing key " ++ key)

def isString (s : String) : Option Json → Bool
  | some (.string t) => s = t
  | _ => false

def isInteger (n : Int) : Option Json → Bool
  | some (.number (.integer m)) => n = m.val
  | _ => false

def find : Except Fault Unit := do
  let user ← orMissing "user 2 not found"
    (Record.find? ⟨2, by decide, by decide⟩ Sample.users)
  ensure (isString "Bob" (Fields.get? user "name")) ("user 2 is " ++ recordShown user)
  ensure (Record.find? ⟨999, by decide, by decide⟩ Sample.users).isNone "user 999 unexpectedly found"

def wordJson (n : Word) : Json := .number (.integer (n.widen (by decide) (by decide)))

def archive : Except Fault Unit := do
  let (document, read) := Archive.empty.read "\x7b\"key\": \"value\", \"number\": 42\x7d"
  ensure (isString "value" (document.member? "key")) ("key is " ++ memberShown "key" document)
  ensure (isInteger 42 (document.member? "number")) ("number is " ++ memberShown "number" document)
  ensure (read.documents = 1) ("processed count " ++ Decimal.intString read.documents)
  let kept := read.store "test"
    (.array [wordJson ⟨1, by decide, by decide⟩, wordJson ⟨2, by decide, by decide⟩,
      wordJson ⟨3, by decide, by decide⟩])
  let items :=
    match kept.get? "test" with
    | some (.array items) => items
    | _ => []
  ensure (items.length = 3 && isInteger 1 items[0]? && isInteger 2 items[1]? && isInteger 3 items[2]?)
    "cache entry missing"

end Check

/-- The checks of a suite, in the order in which they run. -/
def Suite.checks : Suite → List Check
  | .arithmetic =>
    [⟨"add", Check.add⟩, ⟨"process_list", Check.amplify⟩, ⟨"calculator", Check.accumulate⟩]
  | .statistics =>
    [⟨"math_operations", Check.journal⟩, ⟨"process_numbers", Check.summarize⟩]
  | .records =>
    [⟨"process_data", Check.describe⟩, ⟨"find_user", Check.find⟩,
      ⟨"data_processor", Check.archive⟩]

end Assay
