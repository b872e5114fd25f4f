import FeatureFlags.Binary64.Basic

/-!
# `FeatureFlags.Binary64.Decimal` — reading and writing numbers in decimal

`ofDecimal` rounds a decimal numeral once.  `shortest` finds the fewest digits that read back as
the same number and, among those, the nearest, a tie going to the even digit; `text` lays them out.

## Contents

1. Reading: `ofDecimal`
2. The fewest digits that read back: `shortest`
3. Layout: positional from `0.0001` up to 16 integer digits, otherwise with an exponent
-/

namespace FeatureFlags

namespace Binary64

/-! ## Reading -/

/-- The double nearest to `digits * 10 ^ exponent`.  A numeral far outside the finite range is
decided by its length alone, so that its power of ten is never computed. -/
def ofDecimal (negative : Bool) (digits : Nat) (exponent : Int) : Binary64 :=
  let width : Int := Nat.log2 digits
  if digits = 0 then .num negative 0 (Nat.zero_le _)
  else if exponent > 400 then infinity negative
  else if exponent < 0 ∧ width + 3 * exponent < -1200 then .num negative 0 (Nat.zero_le _)
  else if exponent ≥ 0 then ofRatio negative (digits * Nat.pow 10 exponent.toNat) 1
  else ofRatio negative digits (Nat.pow 10 (-exponent).toNat)

/-! ## The fewest digits that read back -/

/-- The decimal `digits * 10 ^ exponent`. -/
structure Numeral where
  digits : Nat
  exponent : Int

/-- `10 ^ e`, as a fraction. -/
def powerOfTen (e : Int) : Nat × Nat :=
  if e ≥ 0 then (Nat.pow 10 e.toNat, 1) else (1, Nat.pow 10 (-e).toNat)

/-- The least `point` at or above a lower bound with `num / den < 10 ^ point`. -/
def decimalPoint (num den : Nat) : Nat → Int → Int
  | 0, point => point
  | fuel + 1, point =>
    let (p, q) := powerOfTen point
    if num * q < p * den then point else decimalPoint num den fuel (point + 1)

/-- The multiples `d` and `d + 1` of `10 ^ scale` around the number of the given positive rank,
those that read back as that rank, the nearer of two and the even one if both are as near. -/
def nearestOnGrid (rank : Nat) (scale : Int) : Option Nat :=
  let (p, q) := powerOfTen scale
  let here := 2 * units rank
  let below := units (rank - 1) + units rank
  let above := units rank + units (rank + 1)
  -- `d * 10 ^ scale` counted in halves of the smallest magnitude is `d * step / q`
  let step := p * 2 * unitsPerOne
  let d := here * q / step
  let readsBack (d : Nat) : Bool :=
    if rank % 2 = 0 then below * q ≤ d * step && d * step ≤ above * q
    else below * q < d * step && d * step < above * q
  match d != 0 && readsBack d, readsBack (d + 1) with
  | true, true =>
    match compare (here * q - d * step) ((d + 1) * step - here * q) with
    | .lt => some d
    | .eq => some (if d % 2 = 0 then d else d + 1)
    | .gt => some (d + 1)
  | true, false => some d
  | false, true => some (d + 1)
  | false, false => none

/-- The first grid, from the coarsest on, that holds a point that reads back. -/
def shortestFrom (rank : Nat) (point : Int) : Nat → Nat → Numeral
  | 0, count => ⟨units rank, point + count⟩
  | fuel + 1, count =>
    match nearestOnGrid rank (point - count) with
    | some d => ⟨d, point - count⟩
    | none => shortestFrom rank point fuel (count + 1)

/-- The shortest decimal `digits * 10 ^ exponent` that reads back as a positive finite rank; 17
digits always suffice. -/
def shortest (rank : Nat) : Numeral :=
  let estimate : Int := ((Nat.log2 (units rank) : Int) - 1074) * 30103 / 100000 - 1
  shortestFrom rank (decimalPoint (units rank) unitsPerOne 8 estimate) 17 1

/-- Moves trailing zeros of the digits into the exponent, at most `fuel` of them. -/
def Numeral.dropZeros : Nat → Numeral → Numeral
  | 0, n => n
  | fuel + 1, n =>
    if n.digits % 10 = 0 ∧ n.digits ≠ 0 then dropZeros fuel ⟨n.digits / 10, n.exponent + 1⟩
    else n

/-! ## Layout -/

/-- How a number is written. -/
structure Layout where
  /-- Positional notation is used while the decimal point lies above this. -/
  pointAbove : Int
  /-- Positional notation is used while the decimal point lies at or below this. -/
  pointUpTo : Int
  /-- What follows the digits of a number with no fraction. -/
  wholeSuffix : String
  /-- The least number of digits of an exponent. -/
  exponentWidth : Nat
  nan : String
  infinity : String

/-- Numbers are positional from `0.0001` up to 16 integer digits, whole numbers end in `.0`, and an
exponent has a sign and at least two digits. -/
def Layout.standard : Layout where
  pointAbove := -4
  pointUpTo := 16
  wholeSuffix := ".0"
  exponentWidth := 2
  nan := "nan"
  infinity := "inf"

/-- Zeros. -/
def zeros (n : Nat) : String := String.ofList (List.replicate n '0')

/-- An exponent with its sign, padded with zeros. -/
def exponentText (width : Nat) (e : Int) : String :=
  let digits := toString e.natAbs
  (if e < 0 then "-" else "+") ++ zeros (width - digits.length) ++ digits

/-- The text of a positive magnitude given by its digits and the place of the decimal point. -/
def magnitudeText (layout : Layout) (digits : List Char) (point : Int) : String :=
  if layout.pointAbove < point ∧ point ≤ layout.pointUpTo then
    if point ≤ 0 then
      "0." ++ zeros (-point).toNat ++ String.ofList digits
    else if digits.length ≤ point.toNat then
      String.ofList digits ++ zeros (point.toNat - digits.length) ++ layout.wholeSuffix
    else
      String.ofList (digits.take point.toNat) ++ "." ++ String.ofList (digits.drop point.toNat)
  else
    let lead := String.ofList (digits.take 1)
    let rest := digits.drop 1
    let mantissa := if rest.isEmpty then lead else lead ++ "." ++ String.ofList rest
    mantissa ++ "e" ++ exponentText layout.exponentWidth (point - 1)

/-- The text of a number under a layout. -/
def textWith (layout : Layout) : Binary64 → String
  | .nan => layout.nan
  | .num negative rank _ =>
    let sign := if negative then "-" else ""
    if rank = infRank then sign ++ layout.infinity
    else if rank = 0 then sign ++ "0" ++ layout.wholeSuffix
    else
      let numeral := (shortest rank).dropZeros 20
      let digits := (toString numeral.digits).toList
      sign ++ magnitudeText layout digits (numeral.exponent + digits.length)

/-- The standard text of a number: the fewest digits that read back. -/
def text (x : Binary64) : String := x.textWith .standard

end Binary64

end FeatureFlags
