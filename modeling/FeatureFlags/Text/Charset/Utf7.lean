import FeatureFlags.Text.Utf8

/-!
# `FeatureFlags.Text.Charset.Utf7` — UTF-7

Text stands as it is in ASCII; behind a plus sign, digits with 64 values give units of 16 bits.  The
first character that is no digit ends them, and a hyphen that does so is no part of the text.
-/

namespace FeatureFlags

namespace Charset

namespace Utf7

/-- The value of a digit. -/
def digit? (b : Nat) : Option Nat :=
  if 0x41 ≤ b ∧ b ≤ 0x5A then some (b - 0x41)
  else if 0x61 ≤ b ∧ b ≤ 0x7A then some (b - 0x61 + 26)
  else if 0x30 ≤ b ∧ b ≤ 0x39 then some (b - 0x30 + 52)
  else if b = 0x2B then some 62
  else if b = 0x2F then some 63
  else none

/-- How far the digits behind a plus sign have been read. -/
structure Units where
  /-- The bits that do not fill a unit yet. -/
  bits : Nat := 0
  count : Nat := 0
  /-- The first half of a pair of units. -/
  high : Option Nat := none

/-- Where reading stands. -/
inductive Mode where
  | direct
  /-- Behind a plus sign. -/
  | plus
  | units (u : Units)

/-- The character with a code point; half of a pair is replaced. -/
def char (code : Nat) : Char :=
  if code.isValidChar then Char.ofNat code else Utf8.replacement

/-- Reads a unit. -/
def Units.unit (u : Units) (n : Nat) : List (Option Char) × Units :=
  let isHigh := 0xD800 ≤ n && n < 0xDC00
  let isLow := 0xDC00 ≤ n && n < 0xE000
  match u.high with
  | some h =>
    if isLow then
      ([some (char (0x10000 + (h - 0xD800) * 0x400 + (n - 0xDC00)))], { u with high := none })
    else if isHigh then ([some Utf8.replacement], { u with high := some n })
    else ([some Utf8.replacement, some (char n)], { u with high := none })
  | none => if isHigh then ([], { u with high := some n }) else ([some (char n)], u)

/-- Reads a digit. -/
def Units.digit (u : Units) (d : Nat) : List (Option Char) × Units :=
  let bits := 64 * u.bits + d
  let count := u.count + 6
  if count < 16 then ([], { u with bits, count })
  else
    let rest := count - 16
    ({ u with bits := bits % (1 <<< rest), count := rest }).unit (bits >>> rest)

/-- Whether the digits stop within a unit: at least a whole digit is left over, or bits that are not
zero. -/
def Units.isBroken (u : Units) : Bool := 6 ≤ u.count || u.bits ≠ 0

/-- What a byte outside the digits spells. -/
def direct (b : Nat) : Option Char := if b < 0x80 then some (Char.ofNat b) else none

/-- What a byte that ends the digits spells. -/
def leave (u : Units) (b : Nat) : List (Option Char) :=
  if u.isBroken then [none]
  else
    (if u.high.isSome ∧ b < 0x80 then [some Utf8.replacement] else []) ++
      if b = 0x2D then [] else [direct b]

/-- Goes past a byte. -/
def step (mode : Mode) (b : Nat) : List (Option Char) × Mode :=
  match mode with
  | .direct => if b = 0x2B then ([], .plus) else ([direct b], .direct)
  | .plus =>
    if b = 0x2D then ([some '+'], .direct)
    else
      match digit? b with
      | some d =>
        let (cs, u) := ({} : Units).digit d
        (cs, .units u)
      | none => ([none], .direct)
  | .units u =>
    match digit? b with
    | some d =>
      let (cs, u) := u.digit d
      (cs, .units u)
    | none => (leave u b, .direct)

/-- What the end of data spells. -/
def finish : Mode → List (Option Char)
  | .units u => if u.isBroken || u.high.isSome then [none] else []
  | _ => []

/-- What bytes spell. -/
def chars (bytes : List Nat) : List (Option Char) :=
  let (done, mode) := bytes.foldl
    (fun (done, mode) b =>
      let (cs, mode) := step mode b
      (cs.reverse ++ done, mode))
    ([], .direct)
  done.reverse ++ finish mode

end Utf7

end Charset

end FeatureFlags
