/-!
# `FeatureFlags.Digest.Adler32` — two sums as a check

The check of a message holds two sums modulo a prime: that of the bytes, counted from one, and that
of all the values which the first sum takes.
-/

namespace FeatureFlags

namespace Adler32

/-- The largest prime below `2 ^ 16`. -/
def modulus : Nat := 65521

/-- Adds a byte to both sums. -/
def step (s : Nat × Nat) (b : UInt8) : Nat × Nat :=
  let low := (s.1 + b.toNat) % modulus
  (low, (s.2 + low) % modulus)

/-- The check of a message. -/
def check (bytes : List UInt8) : Nat :=
  let (low, high) := bytes.foldl step (1, 0)
  high * 65536 + low

end Adler32

end FeatureFlags
