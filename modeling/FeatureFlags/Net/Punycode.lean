/-!
# `FeatureFlags.Net.Punycode` — text as letters, digits and hyphens

The ASCII characters of a text come first, in order; what follows tells in turn, for each other
character in order of its code point, how far it is from the one before.  A distance is a number of
digits with 36 values, and what a digit is worth adapts to the distances met so far.

What such a text spells is a list of code points; not every list of digits spells one.

## Contents

1. Digits and distances
2. Writing
3. Reading
-/

namespace FeatureFlags

namespace Punycode

/-! ## Digits and distances -/

/-- A digit: the letters stand for 0 to 25, the decimal digits for 26 to 35. -/
def digit (d : Nat) : Char :=
  if d < 26 then Char.ofNat ('a'.toNat + d) else Char.ofNat ('0'.toNat + (d - 26))

/-- The value from which on the digit at a position is not the last one. -/
def threshold (position bias : Nat) : Nat := max 1 (min 26 (position - bias))

theorem threshold_pos (position bias : Nat) : 1 ≤ threshold position bias := by
  unfold threshold
  omega

theorem threshold_le (position bias : Nat) : threshold position bias ≤ 26 := by
  unfold threshold
  omega

/-- The digits of a distance, from the given position on. -/
def digits (bias position n : Nat) : List Char :=
  let t := threshold position bias
  if h : n < t then [digit n]
  else
    have : (n - t) / (36 - t) < n := by
      have h₁ := threshold_pos position bias
      have h₂ := threshold_le position bias
      calc (n - t) / (36 - t) ≤ n - t := Nat.div_le_self _ _
        _ < n := by omega
    digit (t + (n - t) % (36 - t)) :: digits bias (position + 36) ((n - t) / (36 - t))
termination_by n

/-- Scales a distance down into the range of the bias. -/
def scale (position n : Nat) : Nat :=
  if 455 < n then scale (position + 36) (n / 35) else position + 36 * n / (n + 38)
termination_by n
decreasing_by omega

/-- The bias after a distance, where `count` characters have been written. -/
def adapt (n count : Nat) (first : Bool) : Nat :=
  let n := if first then n / 700 else n / 2
  scale 0 (n + n / count)

/-! ## Writing -/

/-- How far the writing of a text has come. -/
structure Progress where
  /-- The distance since the character written last. -/
  distance : Nat := 0
  bias : Nat := 72
  /-- How many characters have been written. -/
  count : Nat
  /-- Whether no distance has been written yet. -/
  first : Bool := true
  output : List Char

/-- Goes past a character of the text while those with code point `n` are being written. -/
def Progress.pass (n : Nat) (p : Progress) (c : Char) : Progress :=
  if c.toNat < n then { p with distance := p.distance + 1 }
  else if c.toNat = n then
    { distance := 0
      bias := adapt p.distance (p.count + 1) p.first
      count := p.count + 1
      first := false
      output := p.output ++ digits p.bias 36 p.distance }
  else p

/-- Writes the characters with the given code points, which ascend. -/
def writeCodes (text : List Char) (previous : Nat) (p : Progress) : List Nat → Progress
  | [] => p
  | n :: rest =>
    let p := { p with distance := p.distance + (n - previous) * (p.count + 1) }
    let p := text.foldl (Progress.pass n) p
    writeCodes text (n + 1) { p with distance := p.distance + 1 } rest

/-- Writes a text. -/
def encode (text : List Char) : List Char :=
  let basic := text.filter fun c => c.toNat < 0x80
  let codes := ((text.filter fun c => 0x80 ≤ c.toNat).map Char.toNat).mergeSort.eraseDups
  let start := if basic.isEmpty then [] else basic ++ ['-']
  (writeCodes text 0x80 { count := basic.length, output := start } codes).output

/-! ## Reading -/

/-- The value of a digit, which is a letter of either case or a decimal digit. -/
def digitValue? (c : Char) : Option Nat :=
  if 'a' ≤ c ∧ c ≤ 'z' then some (c.toNat - 'a'.toNat)
  else if 'A' ≤ c ∧ c ≤ 'Z' then some (c.toNat - 'A'.toNat)
  else if c.isDigit then some (c.toNat - '0'.toNat + 26)
  else none

/-- Reads a distance, in which the next digit has the given position and weight. -/
def readDistance? (bias position weight value : Nat) : List Char → Option (Nat × List Char)
  | [] => none
  | c :: rest =>
    match digitValue? c with
    | none => none
    | some d =>
      let t := threshold position bias
      if d < t then some (value + d * weight, rest)
      else readDistance? bias (position + 36) (weight * (36 - t)) (value + d * weight) rest

theorem length_of_readDistance? {bias position weight value n : Nat} {cs rest : List Char}
    (h : readDistance? bias position weight value cs = some (n, rest)) :
    rest.length < cs.length := by
  induction cs generalizing position weight value with
  | nil => simp [readDistance?] at h
  | cons c cs ih =>
    unfold readDistance? at h
    split at h
    · exact absurd h (by simp)
    · dsimp only at h
      split at h
      · cases h
        simp
      · exact Nat.lt_succ_of_lt (ih h)

/-- How far the reading of a text has come. -/
structure Insertion where
  /-- The code point that is being put in. -/
  code : Nat := 0x80
  /-- The place from which the next distance counts. -/
  place : Nat := 0
  bias : Nat := 72
  /-- Whether no distance has been read yet. -/
  first : Bool := true
  output : List Nat

/-- Puts in the character at a distance.  A code point that is too large is replaced if there is
something to replace it with. -/
def Insertion.insert? (substitute : Option Nat) (s : Insertion) (distance : Nat) :
    Option Insertion :=
  let size := s.output.length + 1
  let code := s.code + (s.place + distance) / size
  let place := (s.place + distance) % size
  (if code ≤ 0x10FFFF then some code else substitute).map fun code =>
    { code
      place := place + 1
      bias := adapt distance size s.first
      first := false
      output := s.output.insertIdx place code }

/-- Reads what follows the ASCII characters of a text, and gives the code points and whether there
was no fault; what was read before a fault remains. -/
def readCodes (substitute : Option Nat) (s : Insertion) (cs : List Char) : List Nat × Bool :=
  if cs.isEmpty then (s.output, true)
  else
    match h : readDistance? s.bias 36 1 0 cs with
    | none => (s.output, false)
    | some (distance, rest) =>
      have : rest.length < cs.length := length_of_readDistance? h
      match s.insert? substitute distance with
      | none => (s.output, false)
      | some s => readCodes substitute s rest
termination_by cs.length

/-- Splits a text at its last hyphen; without one, all of it is what follows. -/
def splitLastHyphen (cs : List Char) : List Char × List Char :=
  let after := (cs.reverse.takeWhile (· ≠ '-')).reverse
  ((cs.take (cs.length - after.length)).dropLast, after)

/-- The code points that a text in ASCII spells, none if there is a fault. -/
def decode? (cs : List Char) : Option (List Nat) :=
  let (basic, rest) := splitLastHyphen cs
  match readCodes none { output := basic.map Char.toNat } rest with
  | (codes, true) => some codes
  | (_, false) => none

end Punycode

end FeatureFlags
