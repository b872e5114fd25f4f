import FeatureFlags.Binary64.Basic

/-!
# `FeatureFlags.Binary64.Arithmetic` — addition, multiplication, and division by a hundred

Every operation takes the exact result and rounds it once.
-/

namespace FeatureFlags

namespace Binary64

/-- The exact value of a finite number, counted in smallest positive magnitudes. -/
def signedUnits (negative : Bool) (rank : Nat) : Int :=
  if negative then -(units rank : Int) else units rank

/-- The double nearest to a signed count of smallest positive magnitudes that is not zero. -/
def ofSignedUnits (n : Int) : Binary64 :=
  .num (n < 0) (roundRank n.natAbs 1) (roundRank_le_infRank _ _)

/-- The sum, rounded once.  Infinities of opposite sign have no sum; a sum that is exactly zero is
negative only when both terms are negative. -/
def add : Binary64 → Binary64 → Binary64
  | .nan, _ => .nan
  | _, .nan => .nan
  | .num s a ha, .num t b hb =>
    if a = infRank then
      if b = infRank ∧ s ≠ t then .nan else .num s a ha
    else if b = infRank then
      .num t b hb
    else
      let sum := signedUnits s a + signedUnits t b
      if sum = 0 then .num (s && t) 0 (Nat.zero_le _) else ofSignedUnits sum

/-- The product, rounded once.  Zero and infinity have no product. -/
def mul : Binary64 → Binary64 → Binary64
  | .nan, _ => .nan
  | _, .nan => .nan
  | .num s a _, .num t b _ =>
    if a = infRank ∨ b = infRank then
      if a = 0 ∨ b = 0 then .nan else infinity (s != t)
    else
      .num (s != t) (roundRank (units a * units b) unitsPerOne) (roundRank_le_infRank _ _)

/-- The number with the opposite sign. -/
def neg : Binary64 → Binary64
  | .nan => .nan
  | .num s a h => .num (!s) a h

/-- A hundredth of the number, rounded once. -/
def hundredth : Binary64 → Binary64
  | .nan => .nan
  | .num s a ha =>
    if a = infRank then .num s a ha
    else .num s (roundRank (units a) 100) (roundRank_le_infRank _ _)

/-- The number brought into the range from 0 to 100; not-a-number and negative zero stay. -/
def clampPercent (x : Binary64) : Binary64 :=
  if x.compareInt? 0 = some .lt then zero
  else if x.compareInt? 100 = some .gt then ofInt 100
  else x

end Binary64

end FeatureFlags
