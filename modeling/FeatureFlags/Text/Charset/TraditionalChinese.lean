import FeatureFlags.Text.Charset.Basic
import FeatureFlags.Text.Charset.Big5
import FeatureFlags.Text.Charset.Hkscs

/-!
# `FeatureFlags.Text.Charset.TraditionalChinese` — encodings of traditional Chinese

There is the common encoding, the one of a manufacturer, and the one with the characters of Hong
Kong.
-/

namespace FeatureFlags

namespace Charset

namespace TraditionalChinese

/-- An encoding with codes of one byte for ASCII and of two bytes for all else. -/
def twoBytes (chunk : Nat → Nat → Chunk) (bytes : List Nat) : Chunk :=
  match bytes with
  | a :: b :: _ => if a < 0x80 then .code a 1 else chunk a b
  | [a] => if a < 0x80 then .code a 1 else .short bytes
  | [] => .short bytes

/-- The common encoding. -/
def common : List Nat → Chunk := twoBytes fun a b => .ofChar? (big5.char? (pairCode a b)) 2

/-- The encoding of a manufacturer. -/
def codePage : List Nat → Chunk :=
  twoBytes fun a b =>
    .ofChar? (cp950Extension.char? (pairCode a b) <|> big5.char? (pairCode a b)) 2

/-- The codes that do not stand for characters of the common encoding. -/
def isReassigned (a b : Nat) : Bool := 0xC6 ≤ a && a ≤ 0xC8 && (0xC7 ≤ a || 0xA1 ≤ b)

/-- The encoding with the characters of Hong Kong. -/
def hongKong : List Nat → Chunk :=
  twoBytes fun a b =>
    let code := pairCode a b
    let old := if isReassigned a b then none else big5.char? code
    match old <|> hkscs.char? code with
    | some c => .char c 2
    | none =>
      match hkscsPairs.lookup code with
      | some codes => ⟨codes.map fun n => some (Char.ofNat n), 2, false⟩
      | none => .flaw 1

end TraditionalChinese

end Charset

end FeatureFlags
