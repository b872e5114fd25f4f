import FeatureFlags.Text.Charset.Basic
import FeatureFlags.Text.Charset.Cp932Extension
import FeatureFlags.Text.Charset.JisX0208
import FeatureFlags.Text.Charset.JisX0212
import FeatureFlags.Text.Charset.JisX0213

/-!
# `FeatureFlags.Text.Charset.Japanese` — Japanese encodings

Characters have a row and a cell in a set.  One family of encodings sets the highest bits of both;
the other shifts them into the places that single bytes for Katakana leave.

## Contents

1. Sets
2. Codes with high bits
3. Shifted codes
-/

namespace FeatureFlags

namespace Charset

namespace Japanese

/-! ## Sets -/

/-- The editions of the extended standard. -/
inductive Edition where
  | of2000
  | of2004
  deriving DecidableEq

/-- Narrow Katakana. -/
def narrowKana? (b : Nat) : Option Char :=
  if 0xA1 ≤ b ∧ b ≤ 0xDF then some (Char.ofNat (0xFEC0 + b)) else none

/-- What a code in the first plane of the extended standard stands for.  A place that an edition
leaves empty is a flaw as a whole. -/
def plane1 (edition : Edition) (code : Nat) : Option (List (Option Char)) :=
  if edition = .of2000 ∧ jisX0213Added.contains code then some [none]
  else
    match jisX0208.char? code <|> jisX0213Plane1.char? code with
    | some c => some [some c]
    | none => (jisX0213Pairs.lookup code).map fun codes => codes.map fun n => some (Char.ofNat n)

/-- The character of a code in the second plane of the extended standard. -/
def plane2? (edition : Edition) (code : Nat) : Option Char :=
  if edition = .of2000 ∧ code = 0x7D3B then some (Char.ofNat 0x9B1D)
  else jisX0213Plane2.char? code

/-- What a code stands for, or a flaw of one byte if there is no such code. -/
def chunkOf (chars : Option (List (Option Char))) (size : Nat) : Chunk :=
  match chars with
  | some cs => ⟨cs, size, false⟩
  | none => .flaw 1

/-! ## Codes with high bits -/

/-- An encoding in which the codes of two bytes, and those of three bytes behind 0x8F, are given. -/
def highBits (two three : Nat → Option (List (Option Char))) (bytes : List Nat) : Chunk :=
  match bytes with
  | [] => .short bytes
  | a :: rest =>
    if a < 0x80 then .code a 1
    else if a = 0x8E then
      match rest with
      | b :: _ => .ofChar? (narrowKana? b) 2
      | [] => .short bytes
    else if a = 0x8F then
      match rest with
      | b :: c :: _ => chunkOf ((highPair? b c).bind three) 3
      | _ => .short bytes
    else
      match rest with
      | b :: _ => chunkOf ((highPair? a b).bind two) 2
      | [] => .short bytes

/-- The encoding of the first standard. -/
def standard : List Nat → Chunk :=
  highBits (fun code => single (jisX0208.char? code)) fun code => single (jisX0212.char? code)

/-- The encoding of the extended standard. -/
def extended (edition : Edition) : List Nat → Chunk :=
  highBits (plane1 edition) fun code =>
    single (plane2? edition code <|> jisX0212.char? code)

/-! ## Shifted codes -/

/-- The row and the cell of shifted bytes, each counted from zero. -/
def unshift? (a b : Nat) : Option (Nat × Nat) :=
  if b < 0x40 ∨ b = 0x7F ∨ 0xFC < b then none
  else
    let row := 2 * (if a < 0xE0 then a - 0x81 else a - 0xC1)
    let cell := if b < 0x80 then b - 0x40 else b - 0x41
    some (if cell < 94 then (row, cell) else (row + 1, cell - 94))

/-- Whether a byte begins a shifted code. -/
def isLead (a : Nat) : Bool := (0x81 ≤ a && a ≤ 0x9F) || (0xE0 ≤ a && a ≤ 0xFC)

/-- The code of a row and a cell that are counted from zero. -/
def codeAt (row cell : Nat) : Nat := pairCode (row + 0x21) (cell + 0x21)

/-- An encoding with shifted codes, given those of one byte and of two bytes. -/
def shifted (one : Nat → Option Char) (two : Nat → Nat → Option (List (Option Char)))
    (bytes : List Nat) : Chunk :=
  match bytes with
  | [] => .short bytes
  | a :: rest =>
    match one a with
    | some c => .char c 1
    | none =>
      if isLead a then
        match rest with
        | b :: _ => chunkOf ((unshift? a b).bind fun (row, cell) => two row cell) 2
        | [] => .short bytes
      else .flaw 1

/-- ASCII and narrow Katakana. -/
def asciiOrKana? (a : Nat) : Option Char :=
  if a < 0x80 then some (Char.ofNat a) else narrowKana? a

/-- The encoding of the first standard with shifted codes. -/
def shiftedStandard : List Nat → Chunk :=
  shifted asciiOrKana? fun row cell => single (jisX0208.char? (codeAt row cell))

/-- The row of the second plane at a row of shifted codes behind those of the first plane. -/
def secondRow (row : Nat) : Nat :=
  if 0x67 ≤ row then row + 7 else if 0x63 ≤ row ∨ row = 0x5F then row - 0x37 else row - 0x3D

/-- The Japanese variant of ASCII, in which two signs differ, and narrow Katakana. -/
def romanOrKana? (a : Nat) : Option Char :=
  if a = 0x5C then some '¥' else if a = 0x7E then some '‾' else asciiOrKana? a

/-- The encoding of the extended standard with shifted codes; the two signs of ASCII that single
bytes lack have places among those of two bytes. -/
def shiftedExtended (edition : Edition) : List Nat → Chunk :=
  shifted romanOrKana? fun row cell =>
    if row < 94 then
      let code := codeAt row cell
      if code = 0x2140 then some [some '\\']
      else if code = 0x2232 then some [some '~']
      else plane1 edition code
    else single (plane2? edition (pairCode (secondRow row) (cell + 0x21)))

/-- The codes of one byte in the code page of a manufacturer. -/
def codePageSingle? (a : Nat) : Option Char :=
  if a ≤ 0x80 then some (Char.ofNat a)
  else if a = 0xA0 then some (Char.ofNat 0xF8F0)
  else if 0xFD ≤ a then some (Char.ofNat (0xF8F1 + (a - 0xFD)))
  else narrowKana? a

/-- The character of the code page at a row and a cell; some rows are left to the user. -/
def codePageChar? (row cell : Nat) : Option Char :=
  cp932Extension.char? (codeAt row cell) <|> jisX0208.char? (codeAt row cell) <|>
    if 94 ≤ row ∧ row < 114 then some (Char.ofNat (0xE000 + 94 * (row - 94) + cell)) else none

/-- The code page of a manufacturer. -/
def codePage : List Nat → Chunk :=
  shifted codePageSingle? fun row cell => single (codePageChar? row cell)

end Japanese

end Charset

end FeatureFlags
