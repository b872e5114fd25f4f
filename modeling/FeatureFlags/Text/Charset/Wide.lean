import FeatureFlags.Text.Utf8

/-!
# `FeatureFlags.Text.Charset.Wide` — UTF-16 and UTF-32

The units of two or four bytes have their bytes in either order.  Two units of two bytes may be the
halves of a pair, which together spell a character.
-/

namespace FeatureFlags

/-- Which byte of a unit comes first. -/
inductive ByteOrder where
  | big
  | little
  deriving DecidableEq

namespace ByteOrder

/-- The number that the bytes of a unit give. -/
def number (order : ByteOrder) (bytes : List UInt8) : Nat :=
  let bytes := match order with | .big => bytes | .little => bytes.reverse
  bytes.foldl (fun n b => 256 * n + b.toNat) 0

end ByteOrder

namespace Charset

namespace Wide

/-! ## Units -/

/-- The units of two bytes; a single byte at the end is none. -/
def units16 (order : ByteOrder) : List UInt8 → List (Option Nat)
  | a :: b :: rest => some (order.number [a, b]) :: units16 order rest
  | [_] => [none]
  | [] => []

/-- The units of four bytes; fewer bytes at the end are none. -/
def units32 (order : ByteOrder) : List UInt8 → List (Option Nat)
  | a :: b :: c :: d :: rest => some (order.number [a, b, c, d]) :: units32 order rest
  | [] => []
  | _ => [none]

/-! ## Code points -/

/-- Whether a number is the first half of a pair. -/
def isHighHalf (n : Nat) : Bool := 0xD800 ≤ n && n < 0xDC00

/-- Whether a number is the second half of a pair. -/
def isLowHalf (n : Nat) : Bool := 0xDC00 ≤ n && n < 0xE000

/-- The code point that a pair spells. -/
def paired (high low : Nat) : Nat := 0x10000 + (high - 0xD800) * 0x400 + (low - 0xDC00)

/-- The code points of units of two bytes, among them halves without another one.  A first half
before a single byte at the end is one flaw with it. -/
def pairs : List (Option Nat) → List (Option Nat)
  | [] => []
  | some a :: some b :: rest =>
    if isHighHalf a && isLowHalf b then some (paired a b) :: pairs rest
    else some a :: pairs (some b :: rest)
  | [some a, none] => if isHighHalf a then [none] else [some a, none]
  | unit :: rest => unit :: pairs rest

/-- The code points that bytes spell in UTF-16, among them halves without another one. -/
def codes16 (order : ByteOrder) (bytes : List UInt8) : List (Option Nat) :=
  pairs (units16 order bytes)

/-- The code points that bytes spell in UTF-32, among them halves of pairs. -/
def codes32 (order : ByteOrder) (bytes : List UInt8) : List (Option Nat) :=
  (units32 order bytes).map fun unit => unit.filter (· ≤ 0x10FFFF)

/-! ## Marks -/

/-- The byte order that the mark at the beginning of UTF-16 tells, and what follows the mark. -/
def mark16? : List UInt8 → Option (ByteOrder × List UInt8)
  | 0xFE :: 0xFF :: rest => some (.big, rest)
  | 0xFF :: 0xFE :: rest => some (.little, rest)
  | _ => none

/-- The byte order that the mark at the beginning of UTF-32 tells, and what follows the mark. -/
def mark32? : List UInt8 → Option (ByteOrder × List UInt8)
  | 0 :: 0 :: 0xFE :: 0xFF :: rest => some (.big, rest)
  | 0xFF :: 0xFE :: 0 :: 0 :: rest => some (.little, rest)
  | _ => none

end Wide

end Charset

end FeatureFlags
