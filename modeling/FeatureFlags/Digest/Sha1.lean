/-!
# `FeatureFlags.Digest.Sha1` — the SHA-1 digest of a text

The digest of the UTF-8 bytes of a text, in 40 lower-case hexadecimal digits.
-/

namespace FeatureFlags

namespace Sha1

/-- The five words that the blocks are mixed into. -/
structure State where
  a : UInt32
  b : UInt32
  c : UInt32
  d : UInt32
  e : UInt32

/-- The state before the first block. -/
def State.initial : State :=
  ⟨0x67452301, 0xEFCDAB89, 0x98BADCFE, 0x10325476, 0xC3D2E1F0⟩

/-- Rotates a word to the left. -/
def rotateLeft (w : UInt32) (n : UInt32) : UInt32 := (w <<< n) ||| (w >>> (32 - n))

/-- The big-endian bytes of a 64-bit number. -/
def bigEndian64 (n : Nat) : List UInt8 :=
  (List.range 8).map fun i => UInt8.ofNat (n >>> (8 * (7 - i)))

/-- A message filled up to whole blocks: a one bit, zeros, and the length in bits. -/
def padded (message : ByteArray) : ByteArray :=
  let zeros := (119 - message.size % 64) % 64
  let tail := 0x80 :: (List.replicate zeros 0 ++ bigEndian64 (8 * message.size))
  tail.foldl ByteArray.push message

/-- The big-endian word at a position. -/
def word (bytes : ByteArray) (at_ : Nat) : UInt32 :=
  (List.range 4).foldl (fun w i => (w <<< 8) ||| (bytes.get! (at_ + i)).toUInt32) 0

/-- The eighty words of the schedule of the block at a position. -/
def schedule (bytes : ByteArray) (block : Nat) : Array UInt32 :=
  let first := (Array.range 16).map fun i => word bytes (block + 4 * i)
  (List.range 64).foldl (fun w i =>
    let t := i + 16
    w.push (rotateLeft (w[t - 3]! ^^^ w[t - 8]! ^^^ w[t - 14]! ^^^ w[t - 16]!) 1)) first

/-- The mixing function and the constant of a round. -/
def roundParts (t : Nat) (b c d : UInt32) : UInt32 × UInt32 :=
  if t < 20 then ((b &&& c) ||| ((~~~b) &&& d), 0x5A827999)
  else if t < 40 then (b ^^^ c ^^^ d, 0x6ED9EBA1)
  else if t < 60 then ((b &&& c) ||| (b &&& d) ||| (c &&& d), 0x8F1BBCDC)
  else (b ^^^ c ^^^ d, 0xCA62C1D6)

/-- One round. -/
def round (w : Array UInt32) (s : State) (t : Nat) : State :=
  let (f, k) := roundParts t s.b s.c s.d
  ⟨rotateLeft s.a 5 + f + s.e + k + w[t]!, s.a, rotateLeft s.b 30, s.c, s.d⟩

/-- Mixes the block at a position into a state. -/
def mixBlock (bytes : ByteArray) (s : State) (block : Nat) : State :=
  let r := (List.range 80).foldl (round (schedule bytes block)) s
  ⟨s.a + r.a, s.b + r.b, s.c + r.c, s.d + r.d, s.e + r.e⟩

/-- The state after all blocks of a message. -/
def run (message : ByteArray) : State :=
  let bytes := padded message
  (List.range (bytes.size / 64)).foldl (fun s i => mixBlock bytes s (64 * i)) .initial

/-- The eight hexadecimal digits of a word. -/
def wordDigits (w : UInt32) : List Char :=
  (List.range 8).map fun i =>
    let d := (w.toNat >>> (4 * (7 - i))) % 16
    if d < 10 then Char.ofNat ('0'.toNat + d) else Char.ofNat ('a'.toNat + (d - 10))

/-- The digest of a text in hexadecimal. -/
def hexDigest (text : String) : String :=
  let s := run text.toUTF8
  String.ofList ([s.a, s.b, s.c, s.d, s.e].flatMap wordDigits)

end Sha1

end FeatureFlags
