import FeatureFlags.Text.Charset.Basic
import FeatureFlags.Text.Charset.KsX1001

/-!
# `FeatureFlags.Text.Charset.Korean` — Korean encodings

A syllable of the Korean script consists of an initial letter, a vowel and perhaps a final letter.
Encodings give common syllables, or all of them, codes of their own; others are put together from
letters.
-/

namespace FeatureFlags

namespace Charset

namespace Korean

/-! ## Letters and syllables -/

/-- The letters that begin syllables. -/
def initials : List Char := "ㄱㄲㄴㄷㄸㄹㅁㅂㅃㅅㅆㅇㅈㅉㅊㅋㅌㅍㅎ".toList

/-- The letters that end syllables. -/
def finals : List Char := "ㄱㄲㄳㄴㄵㄶㄷㄹㄺㄻㄼㄽㄾㄿㅀㅁㅂㅄㅅㅆㅇㅈㅊㅋㅌㅍㅎ".toList

/-- The vowel with a number. -/
def vowel (n : Nat) : Char := Char.ofNat (0x314F + n)

/-- How many vowels there are. -/
def vowelCount : Nat := 21

/-- The code point of the syllable of letters with the given numbers; zero is no final letter. -/
def syllable (first vowel last : Nat) : Nat := 0xAC00 + (first * vowelCount + vowel) * 28 + last

/-! ## The encoding of the standard -/

/-- The byte before a letter. -/
def letterLead : Nat := 0xA4

/-- The byte that stands for no letter. -/
def filler : Nat := 0xD4

/-- The letter that a byte stands for behind the one for letters. -/
def letter? (b : Nat) : Option Char :=
  if 0xA1 ≤ b ∧ b ≤ 0xBE then some (Char.ofNat (0x3131 + (b - 0xA1))) else none

/-- The place of a letter among letters. -/
def placeIn (letters : List Char) (c : Char) : Option Nat := letters.findIdx? (· = c)

/-- The syllable that three bytes for letters make. -/
def made? (first middle last : Nat) : Option Nat := do
  let i ← (letter? first).bind (placeIn initials)
  let v ← if 0xBF ≤ middle ∧ middle ≤ 0xD3 then some (middle - 0xBF) else none
  let f ← if last = filler then some 0 else ((letter? last).bind (placeIn finals)).map (· + 1)
  return syllable i v f

/-- A syllable that is put together from letters. -/
def madeChunk (bytes : List Nat) : Chunk :=
  match bytes with
  | _ :: _ :: a :: first :: b :: middle :: c :: last :: _ =>
    if a = letterLead ∧ b = letterLead ∧ c = letterLead then
      match made? first middle last with
      | some code => .code code 8
      | none => .flaw 1
    else .flaw 1
  | _ => .short bytes

/-- The encoding of the standard. -/
def standard (bytes : List Nat) : Chunk :=
  match bytes with
  | a :: b :: _ =>
    if a < 0x80 then .code a 1
    else if a = letterLead ∧ b = filler then madeChunk bytes
    else .ofChar? ((highPair? a b).bind ksX1001.char?) 2
  | [a] => if a < 0x80 then .code a 1 else .short bytes
  | [] => .short bytes

/-! ## All syllables in order -/

/-- The place of a second byte among those of the codes of other syllables. -/
def trailPlace? (b : Nat) : Option Nat :=
  if 0x41 ≤ b ∧ b ≤ 0x5A then some (b - 0x41)
  else if 0x61 ≤ b ∧ b ≤ 0x7A then some (b - 0x61 + 26)
  else if 0x81 ≤ b ∧ b ≤ 0xFE then some (b - 0x81 + 52)
  else none

/-- The syllable that the standard lacks with the given code. -/
def otherSyllable? (a b : Nat) : Option Char := do
  let place ← trailPlace? b
  let index ←
    if 0x81 ≤ a ∧ a < 0xA1 then some ((a - 0x81) * 178 + place)
    else if 0xA1 ≤ a ∧ place < 84 then some (32 * 178 + (a - 0xA1) * 84 + place)
    else none
  (otherSyllables[index]?).map Char.ofNat

/-- The encoding with codes for all syllables. -/
def unified (bytes : List Nat) : Chunk :=
  match bytes with
  | a :: b :: _ =>
    if a < 0x80 then .code a 1
    else .ofChar? ((highPair? a b).bind ksX1001.char? <|> otherSyllable? a b) 2
  | [a] => if a < 0x80 then .code a 1 else .short bytes
  | [] => .short bytes

/-! ## Syllables by letters -/

/-- What a part of a code of letters stands for: nothing, or the letter with a number. -/
inductive Part where
  | filler
  | letter (n : Nat)

/-- The initial letter of a code. -/
def initialPart? (n : Nat) : Option Part :=
  if n = 1 then some .filler
  else if 2 ≤ n ∧ n ≤ 20 then some (.letter (n - 2))
  else none

/-- The vowel of a code. -/
def vowelPart? (n : Nat) : Option Part :=
  if n = 2 then some .filler
  else if 3 ≤ n ∧ n ≤ 7 then some (.letter (n - 3))
  else if 10 ≤ n ∧ n ≤ 15 then some (.letter (n - 5))
  else if 18 ≤ n ∧ n ≤ 23 then some (.letter (n - 7))
  else if 26 ≤ n ∧ n ≤ 29 then some (.letter (n - 9))
  else none

/-- The final letter of a code, counted from zero. -/
def finalPart? (n : Nat) : Option Part :=
  if n = 1 then some .filler
  else if 2 ≤ n ∧ n ≤ 17 then some (.letter (n - 2))
  else if 19 ≤ n ∧ n ≤ 29 then some (.letter (n - 3))
  else none

/-- The syllable or the single letter of a code of letters. -/
def combined? (a b : Nat) : Option Char := do
  let first ← initialPart? (a / 4 % 32)
  let middle ← vowelPart? (a % 4 * 8 + b / 32)
  let last ← finalPart? (b % 32)
  match first, middle, last with
  | .filler, .filler, .filler => some '\u3000'
  | .filler, .filler, .letter f => finals[f]?
  | .filler, .letter v, .filler => some (vowel v)
  | .letter i, .filler, .filler => initials[i]?
  | .letter i, .letter v, .filler => some (Char.ofNat (syllable i v 0))
  | .letter i, .letter v, .letter f => some (Char.ofNat (syllable i v (f + 1)))
  | _, _, _ => none

/-- The character of the standard with the given code, apart from syllables and letters. -/
def rearranged? (a b : Nat) : Option Char :=
  if a < 0xD9 ∨ a = 0xDF ∨ 0xF9 < a ∨ b < 0x31 ∨ (0x80 ≤ b ∧ b < 0x91) ∨ b % 0x80 = 0x7F ∨
      (a = 0xDA ∧ 0xA1 ≤ b ∧ b ≤ 0xD3) then none
  else
    let row := if a < 0xE0 then 2 * (a - 0xD9) else 2 * a - 0x197
    let cell := if b < 0x91 then b - 0x31 else b - 0x43
    let (row, cell) := if cell < 0x5E then (row, cell) else (row + 1, cell - 0x5E)
    ksX1001.char? (pairCode (row + 0x21) (cell + 0x21))

/-- The encoding of syllables by their letters. -/
def byLetters (bytes : List Nat) : Chunk :=
  match bytes with
  | a :: b :: _ =>
    if a < 0x80 then .code a 1
    else .ofChar? (if a < 0xD8 then combined? a b else rearranged? a b) 2
  | [a] => if a < 0x80 then .code a 1 else .short bytes
  | [] => .short bytes

end Korean

end Charset

end FeatureFlags
