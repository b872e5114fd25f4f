/-!
# `FeatureFlags.Digest.Crc32` — the cyclic redundancy check of 32 bits

The bytes of a message are the coefficients of a polynomial over the field with two elements, the
lowest bit of a byte first; the check is its remainder, where the first and the last 32 bits are
inverted.
-/

namespace FeatureFlags

namespace Crc32

/-- The generator without its leading coefficient, in the order of the bits of a message. -/
def generator : UInt32 := 0xEDB88320

/-- Takes the lowest coefficient out of a remainder. -/
def shift (r : UInt32) : UInt32 := if r &&& 1 = 1 then generator ^^^ (r >>> 1) else r >>> 1

/-- Adds a byte. -/
def step (r : UInt32) (b : UInt8) : UInt32 :=
  let r := r ^^^ b.toUInt32
  shift (shift (shift (shift (shift (shift (shift (shift r)))))))

/-- The check of a message. -/
def check (bytes : List UInt8) : Nat := (bytes.foldl step 0xFFFFFFFF ^^^ 0xFFFFFFFF).toNat

end Crc32

end FeatureFlags
