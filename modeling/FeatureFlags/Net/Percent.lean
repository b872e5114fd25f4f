import FeatureFlags.Text.Utf8

/-!
# `FeatureFlags.Net.Percent` — percent-encoding

A character that a place does not allow is written as the bytes of its UTF-8 form, each as a percent
sign and two hexadecimal digits.
-/

namespace FeatureFlags

namespace Percent

/-! ## Writing -/

/-- A hexadecimal digit in capitals. -/
def digit (n : Nat) : Char :=
  if n < 10 then Char.ofNat ('0'.toNat + n) else Char.ofNat ('A'.toNat + (n - 10))

/-- A byte as an escape. -/
def escape (b : UInt8) : List Char := ['%', digit (b.toNat / 16), digit (b.toNat % 16)]

/-- Writes a character, as it is if it is kept. -/
def encodeChar (keep : Char → Bool) (c : Char) : List Char :=
  if keep c then [c] else (String.utf8EncodeChar c).flatMap escape

/-- Whether a character never has a meaning of its own. -/
def isUnreserved (c : Char) : Bool := c.isAlphanum || ['-', '.', '_', '~'].contains c

/-! ## Reading -/

/-- The value of a hexadecimal digit. -/
def value? (c : Char) : Option Nat :=
  if c.isDigit then some (c.toNat - '0'.toNat)
  else if 'a' ≤ c ∧ c ≤ 'f' then some (c.toNat - 'a'.toNat + 10)
  else if 'A' ≤ c ∧ c ≤ 'F' then some (c.toNat - 'A'.toNat + 10)
  else none

/-- The byte that two hexadecimal digits give. -/
def byte? (a b : Char) : Option UInt8 :=
  match value? a, value? b with
  | some x, some y => some (UInt8.ofNat (16 * x + y))
  | _, _ => none

/-- The bytes of a text with escapes. -/
def decode : List Char → List UInt8
  | [] => []
  | '%' :: a :: b :: rest =>
    match byte? a b with
    | some byte => byte :: decode rest
    | none => String.utf8EncodeChar '%' ++ decode (a :: b :: rest)
  | c :: rest => String.utf8EncodeChar c ++ decode rest

/-- Writes the characters that are not kept as escapes, and leaves alone the escapes that are there
already. -/
def quote (keep : Char → Bool) : List Char → List Char
  | [] => []
  | '%' :: a :: b :: rest =>
    if (byte? a b).isSome then '%' :: a :: b :: quote keep rest
    else encodeChar keep '%' ++ quote keep (a :: b :: rest)
  | c :: rest => encodeChar keep c ++ quote keep rest

end Percent

end FeatureFlags
