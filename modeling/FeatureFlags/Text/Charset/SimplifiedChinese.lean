import FeatureFlags.Text.Charset.Basic
import FeatureFlags.Text.Charset.Gb18030

/-!
# `FeatureFlags.Text.Charset.SimplifiedChinese` — encodings of simplified Chinese

Each encoding extends the one before: the simplified set, the extended set with all ideographs of
the first block, and the complete set with codes of four bytes.  One more encoding writes the
simplified set in ASCII.
-/

namespace FeatureFlags

namespace Charset

namespace SimplifiedChinese

/-! ## The simplified set -/

/-- The encoding of the simplified set. -/
def simplified (bytes : List Nat) : Chunk :=
  match bytes with
  | a :: b :: _ =>
    if a < 0x80 then .code a 1 else .ofChar? ((highPair? a b).bind gb2312.char?) 2
  | [a] => if a < 0x80 then .code a 1 else .short bytes
  | [] => .short bytes

/-! ## The extended set -/

/-- The place of a second byte, which is neither a control character nor `DEL`. -/
def trailPlace? (b : Nat) : Option Nat :=
  if 0x40 ≤ b ∧ b ≤ 0x7E then some (b - 0x40)
  else if 0x80 ≤ b ∧ b ≤ 0xFE then some (b - 0x41)
  else none

/-- The ideograph with the given code that the simplified set lacks. -/
def ideograph? (a b : Nat) : Option Char := do
  let place ← trailPlace? b
  let index ←
    if 0x81 ≤ a ∧ a ≤ 0xA0 then some ((a - 0x81) * 190 + place)
    else if 0xAA ≤ a ∧ a ≤ 0xFE ∧ place < 96 then some (32 * 190 + (a - 0xAA) * 96 + place)
    else none
  (gbkIdeographs[index]?).map Char.ofNat

/-- The character of the extended set with the given code. -/
def extended? (a b : Nat) : Option Char :=
  gbkSigns.char? (pairCode a b) <|> (highPair? a b).bind gb2312.char? <|> ideograph? a b

/-- The encoding of the extended set. -/
def extended (bytes : List Nat) : Chunk :=
  match bytes with
  | a :: b :: _ => if a < 0x80 then .code a 1 else .ofChar? (extended? a b) 2
  | [a] => if a < 0x80 then .code a 1 else .short bytes
  | [] => .short bytes

/-! ## The complete set -/

/-- The code point of a place that is left to the user. -/
def private? (a b : Nat) : Option Nat := do
  let place ← trailPlace? b
  if 0xAA ≤ a ∧ a ≤ 0xAF ∧ 96 ≤ place then some (0xE000 + 94 * (a - 0xAA) + (place - 96))
  else if 0xF8 ≤ a ∧ a ≤ 0xFE ∧ 96 ≤ place then some (0xE234 + 94 * (a - 0xF8) + (place - 96))
  else if 0xA1 ≤ a ∧ a ≤ 0xA7 ∧ place < 96 then some (0xE4C6 + 96 * (a - 0xA1) + place)
  else Table.codeIn? gb18030Private (pairCode a b)

/-- The character of the complete set with a code of two bytes. -/
def complete? (a b : Nat) : Option Char :=
  gb18030Signs.char? (pairCode a b) <|> extended? a b <|> (private? a b).map Char.ofNat

/-- How many codes of four bytes there are for code points below 0x10000. -/
def lowCodes : Nat := 39420

/-- The code point of a code of four bytes. -/
def fourBytes? (a b c d : Nat) : Option Nat :=
  if a < 0x81 ∨ 0xFE < a ∨ c < 0x81 ∨ 0xFE < c ∨ d < 0x30 ∨ 0x39 < d then none
  else
    let number (first : Nat) : Nat :=
      (((a - first) * 10 + (b - 0x30)) * 126 + (c - 0x81)) * 10 + (d - 0x30)
    if a < 0x85 then
      let n := number 0x81
      if n < lowCodes then Table.codeIn? gb18030Ranges n else none
    else if 0x90 ≤ a then
      let code := 0x10000 + number 0x90
      if code ≤ 0x10FFFF then some code else none
    else none

/-- The encoding of the complete set. -/
def complete (bytes : List Nat) : Chunk :=
  match bytes with
  | a :: b :: rest =>
    if a < 0x80 then .code a 1
    else if 0x30 ≤ b ∧ b ≤ 0x39 then
      match rest with
      | c :: d :: _ =>
        match fourBytes? a b c d with
        | some code => .code code 4
        | none => .flaw 1
      | _ => .short bytes
    else .ofChar? (complete? a b) 2
  | [a] => if a < 0x80 then .code a 1 else .short bytes
  | [] => .short bytes

/-! ## The simplified set in ASCII -/

/-- A sign that begins with a tilde: another tilde is one, a line end is left out, and braces begin
and end characters of the simplified set. -/
def tilde (inside : Bool) (b : Nat) : Chunk × Bool :=
  if b = 0x7E ∧ !inside then (.code 0x7E 2, inside)
  else if b = 0x7B ∧ !inside then (⟨[], 2, false⟩, true)
  else if b = 0x0A ∧ !inside then (⟨[], 2, false⟩, inside)
  else if b = 0x7D ∧ inside then (⟨[], 2, false⟩, false)
  else (.flaw 1, inside)

/-- The encoding in ASCII, whose state tells whether characters of the simplified set follow. -/
def inAscii (inside : Bool) (bytes : List Nat) : Chunk × Bool :=
  match bytes with
  | [] => (.short bytes, inside)
  | a :: rest =>
    if a = 0x7E then
      match rest with
      | b :: _ => tilde inside b
      | [] => (.short bytes, inside)
    else if 0x80 ≤ a then (.flaw 1, inside)
    else if !inside then (.code a 1, inside)
    else
      match rest with
      | b :: _ => (.ofChar? (gb2312.char? (pairCode a b)) 2, inside)
      | [] => (.short bytes, inside)

end SimplifiedChinese

end Charset

end FeatureFlags
