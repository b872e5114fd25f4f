import FeatureFlags.Text.Quoted

/-!
# `FeatureFlags.Text.Utf8` — bytes as text

Bytes are read one character at a time.  Bytes that are no character are a `Flaw`: the longest
stretch with which a character could begin, or else a single byte.  A strict reading fails at the
first flaw, a lenient one puts one replacement character in the place of each.
-/

namespace FeatureFlags

namespace Utf8

/-! ## Flaws -/

/-- What is wrong with a stretch of bytes. -/
inductive Fault where
  /-- No character begins with the byte. -/
  | start
  /-- The byte after the stretch cannot go on with the character. -/
  | continuation
  /-- The bytes end before the character does. -/
  | truncated
  deriving DecidableEq

/-- The wording of a fault. -/
def Fault.text : Fault → String
  | .start => "invalid start byte"
  | .continuation => "invalid continuation byte"
  | .truncated => "unexpected end of data"

/-- A stretch of bytes that is no character. -/
structure Flaw where
  offset : Nat
  /-- How many bytes belong to it. -/
  size : Nat
  first : UInt8
  fault : Fault
  deriving DecidableEq

/-- The message about a flaw. -/
def Flaw.message (f : Flaw) : String :=
  let place :=
    if f.size = 1 then
      "byte 0x" ++ String.ofList (Text.hexDigits 2 f.first.toNat) ++ " in position " ++
        toString f.offset
    else
      "bytes in position " ++ toString f.offset ++ "-" ++ toString (f.offset + f.size - 1)
  "'utf-8' codec can't decode " ++ place ++ ": " ++ f.fault.text

/-! ## Reading -/

/-- What a first byte promises: its own bits, how many bytes follow, and the range of the next. -/
structure Lead where
  bits : Nat
  need : Nat
  low : Nat := 0x80
  high : Nat := 0xBF

/-- The promise of a first byte. -/
def lead? (b : Nat) : Option Lead :=
  if b < 0x80 then some { bits := b, need := 0 }
  else if b < 0xC2 then none
  else if b < 0xE0 then some { bits := b - 0xC0, need := 1 }
  else if b = 0xE0 then some { bits := 0, need := 2, low := 0xA0 }
  else if b = 0xED then some { bits := 13, need := 2, high := 0x9F }
  else if b < 0xF0 then some { bits := b - 0xE0, need := 2 }
  else if b = 0xF0 then some { bits := 0, need := 3, low := 0x90 }
  else if b < 0xF4 then some { bits := b - 0xF0, need := 3 }
  else if b = 0xF4 then some { bits := 4, need := 3, high := 0x8F }
  else none

/-- Reads the further bytes of a character.  A failure says how many of them were good. -/
def readTail (code low high : Nat) : Nat → List UInt8 → Except (Nat × Fault) Nat
  | 0, _ => .ok code
  | _ + 1, [] => .error (0, .truncated)
  | need + 1, b :: rest =>
    if low ≤ b.toNat ∧ b.toNat ≤ high then
      (readTail (64 * code + b.toNat % 64) 0x80 0xBF need rest).mapError fun e => (e.1 + 1, e.2)
    else .error (0, .continuation)

/-- Reads the character that begins with a byte, and says how many further bytes it takes. -/
def readChar (offset : Nat) (b : UInt8) (rest : List UInt8) : Except Flaw Char × Nat :=
  match lead? b.toNat with
  | none => (.error ⟨offset, 1, b, .start⟩, 0)
  | some l =>
    match readTail l.bits l.low l.high l.need rest with
    | .ok code => (.ok (Char.ofNat code), l.need)
    | .error (good, fault) => (.error ⟨offset, good + 1, b, fault⟩, good)

/-- The characters and flaws of bytes, the first `skip` of which belong to what stands before. -/
def items (offset skip : Nat) : List UInt8 → List (Except Flaw Char)
  | [] => []
  | b :: rest =>
    match skip with
    | k + 1 => items (offset + 1) k rest
    | 0 =>
      let (item, more) := readChar offset b rest
      item :: items (offset + 1) more rest

/-- The text that bytes spell, or the first flaw. -/
def decode (bytes : List UInt8) : Except Flaw String :=
  String.ofList <$> (items 0 0 bytes).mapM id

/-- The character that stands for a flaw. -/
def replacement : Char := '\uFFFD'

/-- The text that bytes spell, with one replacement character for each flaw. -/
def decodeLossy (bytes : List UInt8) : String :=
  String.ofList ((items 0 0 bytes).map fun item => item.toOption.getD replacement)

/-- Puts the replacement character in the place of each half of a pair of 16-bit units that is
written like a character. -/
def replaceHalves : List UInt8 → List UInt8
  | [] => []
  | 0xED :: b :: c :: rest =>
    if 0xA0 ≤ b ∧ b ≤ 0xBF ∧ 0x80 ≤ c ∧ c ≤ 0xBF then
      0xEF :: 0xBF :: 0xBD :: replaceHalves rest
    else 0xED :: replaceHalves (b :: c :: rest)
  | b :: rest => b :: replaceHalves rest

/-- The bytes that spell a text. -/
def encode (s : String) : List UInt8 := s.toUTF8.toList

end Utf8

end FeatureFlags
