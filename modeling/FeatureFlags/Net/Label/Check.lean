import FeatureFlags.Net.Label.Basic
import FeatureFlags.Net.Label.Data
import FeatureFlags.Text.Composed

/-!
# `FeatureFlags.Net.Label.Check` — what a label of a domain name must be like

A label is written in its composed form, hyphens neither begin nor end it nor stand in its third and
fourth place, it does not begin with a mark, and it holds allowed characters only.  Some characters
are allowed only among certain others.  Where a label has letters that are written from right to
left, the directions of its characters must fit together.  The first rule that is broken decides the
fault.

## Contents

1. Characters that depend on others
2. Directions
3. The rules together
-/

namespace FeatureFlags

namespace Label

/-! ## Characters that depend on others -/

/-- The class of the marks that take the vowel away. -/
def vowelKiller : Nat := 9

/-- Whether the first character that joining notices joins in a way. -/
def joins (set : CodeSet) (codes : List Nat) : Bool :=
  match codes.dropWhile transparentSet.containsCode with
  | [] => false
  | c :: _ => dualJoiningSet.containsCode c || set.containsCode c

/-- Whether a joiner may stand after some characters, the nearest one first, and before others. -/
def joinerFits (joiner : Nat) (before after : List Nat) : Bool :=
  match before with
  | [] => joiner = 0x200C && joins leftJoiningSet before && joins rightJoiningSet after
  | c :: _ =>
    Text.markClass c = vowelKiller ||
      (joiner = 0x200C && !undirectedSet.containsCode c && joins leftJoiningSet before &&
        joins rightJoiningSet after)

/-- Whether a character is a digit of the Arabic scripts of the west or the east. -/
def isArabicDigit (eastern : Bool) (c : Nat) : Bool :=
  if eastern then 0x6F0 ≤ c && c ≤ 0x6F9 else 0x660 ≤ c && c ≤ 0x669

/-- Whether a character that depends on others may stand in a label after some characters, the
nearest one first, and before others; none if it does not depend on others. -/
def fits? (label : List Nat) (c : Nat) (before after : List Nat) : Option Bool :=
  if c = 0xB7 then some (before.head? == some 0x6C && after.head? == some 0x6C)
  else if c = 0x375 then some (after.head?.any greekSet.containsCode)
  else if c = 0x5F3 ∨ c = 0x5F4 then some (before.head?.any hebrewSet.containsCode)
  else if c = 0x30FB then
    some (label.any fun d => d ≠ 0x30FB && ideographicSet.containsCode d)
  else if isArabicDigit false c then some (!label.any (isArabicDigit true))
  else if isArabicDigit true c then some (!label.any (isArabicDigit false))
  else none

/-- Checks the characters of a label from a position on; `before` are those behind, the nearest one
first. -/
def checkCharacters (label : List Nat) (position : Nat) (before : List Nat) :
    List Nat → Except Fault Unit
  | [] => .ok ()
  | c :: after => do
    if allowedSet.containsCode c then pure ()
    else if c = 0x200C ∨ c = 0x200D then
      if !joinerFits c before after then throw (.joiner c position label)
    else
      match fits? label c before after with
      | some true => pure ()
      | some false => throw (.notAllowedHere c position label)
      | none => throw (.notAllowed c position label)
    checkCharacters label (position + 1) (c :: before) after

/-! ## Directions -/

/-- The directions of the characters of labels. -/
inductive Direction where
  | left
  | right
  | arabic
  | europeanDigit
  | arabicDigit
  /-- That of the character before. -/
  | unspaced
  | neutral
  | unknown
  deriving DecidableEq

namespace Direction

/-- The direction of a character of a label. -/
def of (c : Nat) : Direction :=
  if rightToLeftSet.containsCode c then .right
  else if arabicSet.containsCode c then .arabic
  else if europeanDigitSet.containsCode c then .europeanDigit
  else if arabicDigitSet.containsCode c then .arabicDigit
  else if unspacedSet.containsCode c then .unspaced
  else if neutralSet.containsCode c then .neutral
  else if undirectedSet.containsCode c then .unknown
  else .left

/-- Whether a direction makes a label one to which the rules of directions apply. -/
def isRightward (d : Direction) : Bool := [.right, .arabic, .arabicDigit].contains d

/-- Whether a direction is that of digits. -/
def isDigit (d : Direction) : Bool := d = .europeanDigit || d = .arabicDigit

/-- Whether a label of a kind may end in a direction. -/
def mayEnd (rightToLeft : Bool) (d : Direction) : Bool :=
  d = .europeanDigit || if rightToLeft then d.isRightward else d = .left

end Direction

/-- Checks the directions of a label that is written from right to left, from a position on.
`numeral` is the direction of the digits so far. -/
def checkRightToLeft (position : Nat) (numeral : Option Direction) :
    List Direction → Except Fault Unit
  | [] => .ok ()
  | d :: rest =>
    if d = .left ∨ d = .unknown then .error (.directionInRightToLeft position)
    else if d.isDigit then
      if numeral.any (· ≠ d) then .error .numeralsMixed
      else checkRightToLeft (position + 1) (some d) rest
    else checkRightToLeft (position + 1) numeral rest

/-- Checks the directions of a label that is written from left to right, from a position on. -/
def checkLeftToRight (position : Nat) : List Direction → Except Fault Unit
  | [] => .ok ()
  | d :: rest =>
    if d.isRightward ∨ d = .unknown then .error (.directionInLeftToRight position)
    else checkLeftToRight (position + 1) rest

/-- Checks the last direction of a label that is not taken over from the one before. -/
def checkEnd (rightToLeft : Bool) (ds : List Direction) : Except Fault Unit :=
  if (ds.reverse.find? (· ≠ .unspaced)).any (Direction.mayEnd rightToLeft) then .ok ()
  else .error .directionLast

/-- Checks the directions of a label. -/
def checkDirections (label : List Nat) : Except Fault Unit := do
  let ds := label.map Direction.of
  match ds.findIdx? (· = .unknown) with
  | some i => throw (.directionUnknown (i + 1) label)
  | none => pure ()
  if ds.any Direction.isRightward then
    match ds.head? with
    | some .right | some .arabic =>
      checkRightToLeft 1 none ds
      checkEnd true ds
    | some .left =>
      checkLeftToRight 1 ds
      checkEnd false ds
    | _ => throw (.directionFirst label)

/-! ## The rules together -/

/-- A hyphen. -/
def hyphen : Nat := 0x2D

/-- Checks the hyphens of a label. -/
def checkHyphens (label : List Nat) : Except Fault Unit :=
  if (label.drop 2).take 2 = [hyphen, hyphen] then .error .hyphensInside
  else if label.head? = some hyphen ∨ label.getLast? = some hyphen then .error .hyphenOutside
  else .ok ()

/-- How many characters a label may have before it is looked at. -/
def maxCharacters : Nat := 254

/-- Checks a label. -/
def check (label : List Nat) : Except Fault Unit := do
  if maxCharacters < label.length then throw .tooLong
  if label.isEmpty then throw .empty
  if !Text.isComposed label then throw .notComposed
  checkHyphens label
  if label.head?.any markSet.containsCode then throw .markFirst
  checkCharacters label 1 [] label
  checkDirections label

end Label

end FeatureFlags
