/-!
# `FeatureFlags.Binary64.Basic` — double-precision numbers, exactly

A double is not-a-number, or a sign and the *rank* of its magnitude.  Rank 0 is zero, each further
rank is the next larger magnitude, and the last rank is infinity; the rank of a finite magnitude is
also its bit pattern.  Comparison is therefore comparison of integers, and the exact value of a
finite magnitude is `units rank / 2 ^ 1074`.

Every operation that has to round goes through `roundRank`, which takes an exact quotient to the
nearest rank, ties to the even one.

## Contents

1. Ranks and their values: `units`, `floorRank`
2. Rounding a quotient: `roundRank`
3. The type, its constants and its bit pattern
4. Order and exact comparison with integers
-/

namespace FeatureFlags

namespace Binary64

/-! ## Ranks and their values -/

/-- The rank of infinity, one above the largest finite magnitude. -/
def infRank : Nat := 0x7FF0000000000000

/-- The number of ranks between two neighbouring powers of two. -/
def binadeSize : Nat := 1 <<< 52

/-- One over the smallest positive magnitude. -/
def unitsPerOne : Nat := 1 <<< 1074

/-- The value of a rank, counted in smallest positive magnitudes.  The first two binades have
spacing one, and each later binade has twice the spacing of the one before. -/
def units (rank : Nat) : Nat :=
  let doublings := rank / binadeSize - 1
  (rank - doublings * binadeSize) <<< doublings

/-- The largest rank whose value is at most `n`. -/
def floorRank (n : Nat) : Nat :=
  let doublings := Nat.log2 n - 52
  doublings * binadeSize + n >>> doublings

/-! ## Rounding a quotient -/

/-- The rank nearest to `num / den`, counted in smallest positive magnitudes; a quotient half way
between two ranks goes to the even one.  What lies at or above the middle between the largest
finite magnitude and the next power of two overflows to infinity. -/
def roundRank (num den : Nat) : Nat :=
  let lo := floorRank (num / den)
  let middle := den * (units lo + units (lo + 1))
  let rank :=
    match compare (2 * num) middle with
    | .lt => lo
    | .gt => lo + 1
    | .eq => if lo % 2 = 0 then lo else lo + 1
  min rank infRank

theorem roundRank_le_infRank (num den : Nat) : roundRank num den ≤ infRank :=
  Nat.min_le_right _ _

end Binary64

/-! ## The type, its constants and its bit pattern -/

/-- A double-precision number: `nan`, or a sign and the rank of the magnitude. -/
inductive Binary64 where
  | nan
  | num (negative : Bool) (rank : Nat) (rank_le : rank ≤ Binary64.infRank)
  deriving DecidableEq

namespace Binary64

instance : Inhabited Binary64 := ⟨.nan⟩

/-- Positive zero. -/
def zero : Binary64 := .num false 0 (Nat.zero_le _)

/-- Infinity of the given sign. -/
def infinity (negative : Bool) : Binary64 := .num negative infRank (Nat.le_refl _)

/-- The double nearest to `num / den`, with the given sign. -/
def ofRatio (negative : Bool) (num den : Nat) : Binary64 :=
  .num negative (roundRank (num * unitsPerOne) den) (roundRank_le_infRank _ _)

/-- The double nearest to an integer; infinite when the integer lies beyond the finite range. -/
def ofInt (n : Int) : Binary64 :=
  ofRatio (n < 0) n.natAbs 1

/-- Whether the number is neither infinite nor not-a-number. -/
def isFinite : Binary64 → Bool
  | .nan => false
  | .num _ rank _ => rank < infRank

/-- Whether the number is positive or negative zero. -/
def isZero : Binary64 → Bool
  | .nan => false
  | .num _ rank _ => rank == 0

/-- The 64 bits of the number: sign, then rank.  Not-a-number has no bit pattern of its own. -/
def bits? : Binary64 → Option Nat
  | .nan => none
  | .num negative rank _ => some (if negative then 0x8000000000000000 + rank else rank)

/-! ## Order and exact comparison with integers -/

/-- The place of a number among all numbers: its rank, counted downwards for negative numbers.
Both zeros have place 0. -/
def place? : Binary64 → Option Int
  | .nan => none
  | .num negative rank _ => some (if negative then -rank else rank)

/-- How two numbers compare; not-a-number compares with nothing. -/
def compare? (x y : Binary64) : Option Ordering :=
  match x.place?, y.place? with
  | some a, some b => some (compare a b)
  | _, _ => none

/-- How a number compares with an integer, by exact value. -/
def compareInt? (x : Binary64) (n : Int) : Option Ordering :=
  match x with
  | .nan => none
  | .num negative rank _ =>
    if rank = infRank then
      some (if negative then .lt else .gt)
    else
      let value : Int := if negative then -(units rank : Int) else units rank
      some (compare value (n * unitsPerOne))

/-- Strictly less; zeros of either sign are equal, and not-a-number compares with nothing. -/
def lt (x y : Binary64) : Bool := x.compare? y == some .lt

/-- Less or equal. -/
def le (x y : Binary64) : Bool := x.compare? y == some .lt || x.compare? y == some .eq

end Binary64

end FeatureFlags
