/-! Integers confined to an interval, and the machine formats that are such
intervals. Arithmetic elsewhere is exact on the value; a result outside the
interval is refused or clamped, never wrapped. -/
namespace Assay

/-- An integer between `lo` and `hi`, both ends included. -/
structure BoundedInt (lo hi : Int) where
  val : Int
  lo_le : lo ≤ val
  le_hi : val ≤ hi
deriving DecidableEq

namespace BoundedInt

variable {lo hi : Int}

@[ext] theorem ext {x y : BoundedInt lo hi} (same : x.val = y.val) : x = y := by
  cases x; cases y; cases same; rfl

/-- The integer as a member of the interval, if it lies there. -/
def ofInt? (n : Int) : Option (BoundedInt lo hi) :=
  if inside : lo ≤ n ∧ n ≤ hi then some ⟨n, inside.1, inside.2⟩ else none

/-- The member of the interval nearest to `n`. -/
def clamp (ordered : lo ≤ hi) (n : Int) : BoundedInt lo hi :=
  ⟨max lo (min n hi), by omega, by omega⟩

/-- The same integer in a wider interval. -/
def widen {lo' hi' : Int} (below : lo' ≤ lo) (above : hi ≤ hi') (x : BoundedInt lo hi) :
    BoundedInt lo' hi' :=
  ⟨x.val, Int.le_trans below x.lo_le, Int.le_trans x.le_hi above⟩

theorem ofInt?_eq_some_iff {n : Int} {x : BoundedInt lo hi} :
    ofInt? n = some x ↔ x.val = n := by
  constructor
  · intro found
    unfold ofInt? at found
    split at found
    · cases found; rfl
    · contradiction
  · rintro rfl
    simp [ofInt?, x.lo_le, x.le_hi]

theorem ofInt?_eq_none_iff {n : Int} :
    (ofInt? n : Option (BoundedInt lo hi)) = none ↔ ¬(lo ≤ n ∧ n ≤ hi) := by
  unfold ofInt?
  split
  · rename_i inside
    exact ⟨nofun, fun outside => absurd inside outside⟩
  · rename_i outside
    exact ⟨fun _ => outside, fun _ => rfl⟩

end BoundedInt

/-- A machine integer format: two's complement when signed, plain binary when
not. -/
structure IntFormat where
  signed : Bool
  bits : Nat
deriving DecidableEq

namespace IntFormat

def least (format : IntFormat) : Int :=
  if format.signed then -(Nat.pow 2 (format.bits - 1) : Int) else 0

def greatest (format : IntFormat) : Int :=
  if format.signed then (Nat.pow 2 (format.bits - 1) : Int) - 1
  else (Nat.pow 2 format.bits : Int) - 1

/-- The integers the format holds. -/
abbrev Value (format : IntFormat) : Type := BoundedInt format.least format.greatest

theorem least_le_zero (format : IntFormat) : format.least ≤ 0 := by
  have power : 0 < Nat.pow 2 (format.bits - 1) := Nat.pow_pos (by decide)
  unfold least
  split <;> omega

theorem zero_le_greatest (format : IntFormat) : 0 ≤ format.greatest := by
  have short : 0 < Nat.pow 2 (format.bits - 1) := Nat.pow_pos (by decide)
  have long : 0 < Nat.pow 2 format.bits := Nat.pow_pos (by decide)
  unfold greatest
  split <;> omega

def int8 : IntFormat := ⟨true, 8⟩
def int16 : IntFormat := ⟨true, 16⟩
def int32 : IntFormat := ⟨true, 32⟩
def int64 : IntFormat := ⟨true, 64⟩
def int128 : IntFormat := ⟨true, 128⟩
def uint8 : IntFormat := ⟨false, 8⟩
def uint16 : IntFormat := ⟨false, 16⟩
def uint32 : IntFormat := ⟨false, 32⟩
def uint64 : IntFormat := ⟨false, 64⟩
def uint128 : IntFormat := ⟨false, 128⟩

end IntFormat

/-- The widest signed format; every total and every doubled number is kept in
it. -/
abbrev Int128 : Type := IntFormat.int128.Value

namespace Int128

def ofInt64 (n : IntFormat.int64.Value) : Int128 := n.widen (by decide) (by decide)

def ofUInt64 (n : IntFormat.uint64.Value) : Int128 := n.widen (by decide) (by decide)

end Int128

end Assay
