import FeatureFlags.Text.Charset.Japanese
import FeatureFlags.Text.Charset.Gb2312
import FeatureFlags.Text.Charset.KsX1001

/-!
# `FeatureFlags.Text.Charset.Iso2022` — encodings that switch between sets

The same bytes stand for characters of different sets.  Escape sequences designate sets for places,
and control characters choose the place from which characters are taken.  Each encoding allows some
sets only.

## Contents

1. Sets and encodings
2. The state
3. Characters
4. Escape sequences
-/

namespace FeatureFlags

namespace Charset

namespace Iso2022

/-! ## Sets and encodings -/

/-- A set of characters. -/
inductive CharacterSet where
  | ascii
  /-- The Japanese variant of ASCII. -/
  | roman
  | kana
  | latin
  | greek
  | jisX0208
  | jisX0212
  | jisX0213 (edition : Japanese.Edition)
  | jisX0213Second
  | gb2312
  | ksX1001
  deriving DecidableEq

/-- How a set is called in escape sequences: by a byte, with one or two bytes to a character. -/
structure Mark where
  byte : Nat
  wide : Bool
  deriving DecidableEq

namespace Mark

/-- The mark of ASCII. -/
def ascii : Mark := ⟨0x42, false⟩

end Mark

/-- An encoding. -/
structure Variant where
  sets : List (Mark × CharacterSet)
  /-- Whether control characters switch between the first two places. -/
  shifts : Bool := false
  /-- Whether there is a third place. -/
  third : Bool := false
  /-- Whether an escape sequence may announce an edition of a set. -/
  announces : Bool := true

namespace Variant

/-- The first Japanese standard, in both of its editions. -/
def basicJapanese : List (Mark × CharacterSet) :=
  [(⟨0x42, true⟩, .jisX0208), (⟨0x4A, false⟩, .roman), (⟨0x40, true⟩, .jisX0208)]

/-- Supplementary Japanese characters. -/
def supplement : Mark × CharacterSet := (⟨0x44, true⟩, .jisX0212)

/-- The Korean encoding. -/
def korean : Variant where
  sets := [(⟨0x43, true⟩, .ksX1001)]
  shifts := true
  announces := false

/-- The Japanese encoding. -/
def japanese : Variant where
  sets := basicJapanese

/-- The Japanese encoding with supplementary characters. -/
def japanese1 : Variant where
  sets := supplement :: basicJapanese

/-- The Japanese encoding with other languages. -/
def japanese2 : Variant where
  sets := basicJapanese ++
    [supplement, (⟨0x43, true⟩, .ksX1001), (⟨0x41, true⟩, .gb2312), (⟨0x41, false⟩, .latin),
      (⟨0x46, false⟩, .greek)]
  third := true

/-- The Japanese encoding with the extended standard, by the marks of its two planes. -/
def japaneseExtended (edition : Japanese.Edition) (mark : Nat) : Variant where
  sets :=
    [(⟨0x42, true⟩, .jisX0208), (⟨mark, true⟩, .jisX0213 edition), (⟨0x50, true⟩, .jisX0213Second)]

/-- The Japanese encoding with supplementary characters and narrow Katakana. -/
def japaneseKana : Variant where
  sets := supplement :: (⟨0x49, false⟩, .kana) :: basicJapanese

/-- The set with a mark. -/
def set? (v : Variant) (mark : Mark) : Option CharacterSet :=
  if mark = .ascii then some .ascii else v.sets.lookup mark

end Variant

/-! ## The state -/

/-- The state of reading. -/
structure State where
  first : CharacterSet := .ascii
  second : CharacterSet := .ascii
  third : CharacterSet := .ascii
  /-- Whether characters are taken from the second place. -/
  shifted : Bool := false
  /-- Whether an escape sequence that is not known is being passed through. -/
  passing : Bool := false

namespace State

/-- The set from which characters are taken. -/
def current (s : State) : CharacterSet := if s.shifted then s.second else s.first

end State

/-! ## Characters -/

namespace CharacterSet

/-- How many bytes a character takes. -/
def width : CharacterSet → Nat
  | .ascii | .roman | .kana | .latin | .greek => 1
  | _ => 2

/-- What a code stands for. -/
def chars? (set : CharacterSet) (code : Nat) : Option (List (Option Char)) :=
  match set with
  | .ascii => some [some (Char.ofNat code)]
  | .roman =>
    if code = 0x5C then some [some '¥']
    else if code = 0x7E then some [some '‾']
    else some [some (Char.ofNat code)]
  | .kana => single (Japanese.narrowKana? (code + 0x80))
  | .latin | .greek => none
  | .jisX0208 => single (Charset.jisX0208.char? code)
  | .jisX0212 => single (Charset.jisX0212.char? code)
  | .jisX0213 edition => if code = 0x2232 then some [some '~'] else Japanese.plane1 edition code
  | .jisX0213Second => single (Japanese.plane2? .of2004 code)
  | .gb2312 => single (Charset.gb2312.char? code)
  | .ksX1001 => single (Charset.ksX1001.char? code)

end CharacterSet

/-- A character from a set. -/
def charChunk (set : CharacterSet) (bytes : List Nat) : Chunk :=
  if bytes.length < set.width then .short bytes
  else
    let code := (bytes.take set.width).foldl (fun n b => 256 * n + b) 0
    match set.chars? code with
    | some cs => ⟨cs, set.width, false⟩
    | none => .flaw set.width

/-- The Greek letters and the signs among them. -/
def greek? (c : Nat) : Option Nat :=
  if c < 0xA0 then some c
  else if c < 0xC0 ∧ Nat.testBit 0x288F3BC9 (c - 0xA0) then some c
  else if 0xB4 ≤ c ∧ c ≤ 0xFE ∧ (0xD4 ≤ c ∨ Nat.testBit 0xBFFFFD77 (c - 0xB4)) then
    some (0x2D0 + c)
  else if c = 0xA1 then some 0x2018
  else if c = 0xA2 then some 0x2019
  else if c = 0xAF then some 0x2015
  else none

/-- The character from the third place that a byte stands for. -/
def thirdPlace? (set : CharacterSet) (b : Nat) : Option Nat :=
  match set with
  | .latin => if b < 0x80 then some (b + 0x80) else none
  | .greek => greek? (b ^^^ 0x80)
  | _ => if b < 0x80 then some b else none

/-! ## Escape sequences -/

/-- The byte that begins an escape sequence. -/
def escape : Nat := 0x1B

/-- Whether a byte ends an escape sequence. -/
def isEnd (b : Nat) : Bool := 0x40 ≤ b && b ≤ 0x5A

/-- Whether a byte goes on with an escape sequence that designates a set. -/
def isDesignation (b : Nat) : Bool := [0x28, 0x29, 0x24, 0x2E, 0x26].contains b

/-- How far an escape sequence can go. -/
def maxSequence : Nat := 16

/-- The length of an escape sequence. -/
inductive Extent where
  | known (size : Nat)
  | endless
  | short

/-- The length of an escape sequence, of which `size` bytes have been seen. -/
def extent (announces : Bool) : Nat → Nat → List Nat → Extent
  | 0, _, _ => .endless
  | fuel + 1, size, bytes =>
    if maxSequence ≤ size then .endless
    else
      match bytes with
      | [] => .short
      | b :: rest =>
        if isEnd b then .known (size + 1)
        else if announces ∧ b = 0x26 ∧ rest.head? = some 0x40 then
          extent announces fuel (size + 3) (rest.drop 2)
        else extent announces fuel (size + 1) rest

/-- The places for which sets are designated. -/
inductive Place where
  | first
  | second
  | third

/-- What an escape sequence designates, if it is one. -/
def designation? (v : Variant) (sequence : List Nat) : Option (Mark × Place) :=
  match sequence with
  | [_, 0x24, m] => some (⟨m, true⟩, .first)
  | [_, 0x28, m] => some (⟨m, false⟩, .first)
  | [_, 0x29, m] => some (⟨m, false⟩, .second)
  | [_, 0x2E, m] => if v.third then some (⟨m, false⟩, .third) else none
  | [_, 0x24, 0x28, m] => some (⟨m, true⟩, .first)
  | [_, 0x24, 0x29, m] => some (⟨m, true⟩, .second)
  | [_, _, _, 0x1B, 0x24, 0x42] => if v.announces then some (⟨0x42, true⟩, .first) else none
  | _ => none

/-- Designates a set for a place. -/
def State.designate (s : State) (place : Place) (set : CharacterSet) : State :=
  match place with
  | .first => { s with first := set }
  | .second => { s with second := set }
  | .third => { s with third := set }

/-- An escape sequence that designates a set. -/
def designate (v : Variant) (s : State) (bytes : List Nat) : Chunk × State :=
  match extent v.announces maxSequence 1 (bytes.drop 1) with
  | .endless => (.flaw 1, s)
  | .short => (.short bytes, s)
  | .known size =>
    match designation? v (bytes.take size) with
    | none => (.flaw size, s)
    | some (mark, place) =>
      match v.set? mark with
      | none => (.flaw size, s)
      | some set => (⟨[], size, false⟩, s.designate place set)

/-- What begins with an escape. -/
def escaped (v : Variant) (s : State) (bytes : List Nat) : Chunk × State :=
  match bytes.drop 1 with
  | [] => (.short bytes, s)
  | b :: rest =>
    if isDesignation b then designate v s bytes
    else if v.third ∧ b = 0x4E then
      match rest with
      | [] => (.short bytes, s)
      | c :: _ =>
        match thirdPlace? s.third c with
        | some code => (.code code 3, s)
        | none => (.flaw 3, s)
    else (.code escape 1, { s with passing := true })

/-- What the first bytes of data spell. -/
def step (v : Variant) (s : State) (bytes : List Nat) : Chunk × State :=
  match bytes with
  | [] => (.short bytes, s)
  | a :: _ =>
    if s.passing then (.code a 1, { s with passing := !isEnd a })
    else if a = escape then escaped v s bytes
    else if v.shifts ∧ a = 0x0F then (⟨[], 1, false⟩, { s with shifted := false })
    else if v.shifts ∧ a = 0x0E then (⟨[], 1, false⟩, { s with shifted := true })
    else if a = 0x0A then (.code a 1, { s with shifted := false })
    else if a < 0x20 then (.code a 1, s)
    else if 0x80 ≤ a then (.flaw 1, s)
    else (charChunk s.current bytes, s)

end Iso2022

end Charset

end FeatureFlags
