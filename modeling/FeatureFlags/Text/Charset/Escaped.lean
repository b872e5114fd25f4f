import FeatureFlags.Text.CharacterName
import FeatureFlags.Text.Charset.Basic

/-!
# `FeatureFlags.Text.Charset.Escaped` — text with escapes

Bytes stand for the characters with their values, and a backslash begins an escape.  In raw text
only escapes that give a code point in hexadecimal digits count.
-/

namespace FeatureFlags

namespace Charset

namespace Escaped

/-- The value of a hexadecimal digit. -/
def hex? (b : Nat) : Option Nat :=
  if 0x30 ≤ b ∧ b ≤ 0x39 then some (b - 0x30)
  else if 0x61 ≤ b ∧ b ≤ 0x66 then some (b - 0x61 + 10)
  else if 0x41 ≤ b ∧ b ≤ 0x46 then some (b - 0x41 + 10)
  else none

/-- The character that the given number of hexadecimal digits stands for, of which those before have
the given value; `size` counts the bytes of the escape so far. -/
def hexChunk (bytes : List Nat) (size value : Nat) : Nat → List Nat → Chunk
  | 0, _ => if value ≤ 0x10FFFF then .code value size else .flaw size
  | _ + 1, [] => .short bytes
  | n + 1, b :: rest =>
    match hex? b with
    | some d => hexChunk bytes (size + 1) (16 * value + d) n rest
    | none => .flaw size

/-- How many hexadecimal digits follow a letter. -/
def hexCount? (b : Nat) : Option Nat :=
  if b = 0x75 then some 4 else if b = 0x55 then some 8 else none

/-- The first bytes of raw text. -/
def raw (bytes : List Nat) : Chunk :=
  match bytes with
  | [] => .short bytes
  | [a] => .code a 1
  | a :: b :: rest =>
    if a = 0x5C then
      match hexCount? b with
      | some n => hexChunk bytes 2 0 n rest
      | none => ⟨[some '\\', some (Char.ofNat b)], 2, false⟩
    else .code a 1

/-- The character that a letter behind a backslash stands for. -/
def simple? (b : Nat) : Option Nat :=
  [(0x5C, 0x5C), (0x27, 0x27), (0x22, 0x22), (0x62, 0x08), (0x66, 0x0C), (0x74, 0x09),
    (0x6E, 0x0A), (0x72, 0x0D), (0x76, 0x0B), (0x61, 0x07)].lookup b

/-- Whether a byte is an octal digit. -/
def isOctal (b : Nat) : Bool := 0x30 ≤ b && b ≤ 0x37

/-- The character that up to three octal digits stand for. -/
def octal (digits : List Nat) : Chunk :=
  let digits := (digits.take 3).takeWhile isOctal
  .code (digits.foldl (fun n b => 8 * n + (b - 0x30)) 0) (1 + digits.length)

/-- The character that a name in braces stands for, behind a backslash and a letter. -/
def named (bytes rest : List Nat) : Chunk :=
  match rest with
  | [] => .short bytes
  | 0x7B :: inside =>
    let name := inside.takeWhile (· ≠ 0x7D)
    if name.length = inside.length then .short bytes
    else if name.isEmpty then .flaw 3
    else
      match CharacterName.lookUp? (String.ofList (name.map Char.ofNat)) with
      | some code => .code code (4 + name.length)
      | none => .flaw (4 + name.length)
  | _ => .flaw 2

/-- The first bytes of text with escapes. -/
def escaped (bytes : List Nat) : Chunk :=
  match bytes with
  | [] => .short bytes
  | a :: rest =>
    if a ≠ 0x5C then .code a 1
    else
      match rest with
      | [] => .short bytes
      | b :: rest =>
        if b = 0x0A then ⟨[], 2, false⟩
        else if isOctal b then octal (b :: rest)
        else if b = 0x78 then hexChunk bytes 2 0 2 rest
        else if b = 0x4E then named bytes rest
        else
          match hexCount? b, simple? b with
          | some n, _ => hexChunk bytes 2 0 n rest
          | none, some code => .code code 2
          | none, none => ⟨[some '\\', some (Char.ofNat b)], 2, false⟩

end Escaped

end Charset

end FeatureFlags
