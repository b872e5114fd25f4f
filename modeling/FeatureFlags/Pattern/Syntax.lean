/-!
# `FeatureFlags.Pattern.Syntax` — patterns as trees

A pattern is a sequence of items.  Characters are code points, since an escape may name a code
point that no text contains.  The flags that are in force at an item are not part of it: they are
set for the whole pattern and changed by groups.

## Contents

1. Flags
2. Sets, anchors, items
3. The least and greatest length of what an item matches
-/

namespace FeatureFlags

namespace Pattern

/-! ## Flags -/

/-- What changes the meaning of items. -/
structure Flags where
  ignoreCase : Bool := false
  multiline : Bool := false
  dotAll : Bool := false
  verbose : Bool := false
  /-- Classes and case hold ASCII characters only. -/
  ascii : Bool := false
  unicode : Bool := false
  /-- Repetition is not allowed. -/
  template : Bool := false
  deriving DecidableEq

namespace Flags

/-- No flag. -/
def none : Flags := {}

/-- The flags of either. -/
def union (a b : Flags) : Flags where
  ignoreCase := a.ignoreCase || b.ignoreCase
  multiline := a.multiline || b.multiline
  dotAll := a.dotAll || b.dotAll
  verbose := a.verbose || b.verbose
  ascii := a.ascii || b.ascii
  unicode := a.unicode || b.unicode
  template := a.template || b.template

/-- The flags of the first that are not of the second. -/
def minus (a b : Flags) : Flags where
  ignoreCase := a.ignoreCase && !b.ignoreCase
  multiline := a.multiline && !b.multiline
  dotAll := a.dotAll && !b.dotAll
  verbose := a.verbose && !b.verbose
  ascii := a.ascii && !b.ascii
  unicode := a.unicode && !b.unicode
  template := a.template && !b.template

/-- Whether two have a flag in common. -/
def meets (a b : Flags) : Bool :=
  (a.ignoreCase && b.ignoreCase) || (a.multiline && b.multiline) || (a.dotAll && b.dotAll) ||
    (a.verbose && b.verbose) || (a.ascii && b.ascii) || (a.unicode && b.unicode) ||
    (a.template && b.template)

/-- The flags inside a group that adds and removes some; a group that chooses between ASCII and
Unicode replaces the earlier choice. -/
def enter (flags added removed : Flags) : Flags :=
  let base :=
    if added.ascii || added.unicode then { flags with ascii := false, unicode := false } else flags
  (base.union added).minus removed

end Flags

/-! ## Sets, anchors, items -/

/-- The classes of characters that have an escape. -/
inductive CharClass where
  | digit
  | space
  | word
  deriving DecidableEq

/-- What a character set lists. -/
inductive SetMember where
  | char (code : Nat)
  | range (low high : Nat)
  | inClass (cls : CharClass) (negated : Bool)
  deriving DecidableEq

/-- Places in a text. -/
inductive Anchor where
  | lineStart
  | lineEnd
  | textStart
  | textEnd
  | wordBoundary
  | notWordBoundary
  deriving DecidableEq

/-- How many times a repetition is tried first: as often as possible, as rarely as possible, or as
often as possible and never fewer. -/
inductive RepeatKind where
  | greedy
  | lazily
  | possessive
  deriving DecidableEq

/-- What a pattern is made of. -/
inductive Item where
  | char (code : Nat)
  | notChar (code : Nat)
  | any
  | set (negated : Bool) (members : List SetMember)
  | anchor (a : Anchor)
  /-- The text that a group matched. -/
  | backref (index : Nat)
  | branch (alternatives : List (List Item))
  /-- A group; it captures when it has an index. -/
  | group (index : Option Nat) (added removed : Flags) (body : List Item)
  /-- A group that is not tried again once it has matched. -/
  | atomic (body : List Item)
  | repeated (kind : RepeatKind) (min : Nat) (max : Option Nat) (body : List Item)
  /-- What must or must not follow or precede. -/
  | look (ahead positive : Bool) (body : List Item)
  /-- One of two sequences, by whether a group has matched. -/
  | conditional (index : Nat) (yes no : List Item)

namespace Item

/-- Equality of items that hold no other items. -/
def sameLeaf : Item → Item → Bool
  | .char a, .char b => a == b
  | .notChar a, .notChar b => a == b
  | .any, .any => true
  | .set n ms, .set m ns => n == m && ms == ns
  | .anchor a, .anchor b => a == b
  | .backref a, .backref b => a == b
  | _, _ => false

end Item

/-! ## The least and greatest length of what an item matches -/

/-- The least and greatest length of a match. -/
structure Width where
  least : Nat
  greatest : Nat
  deriving DecidableEq

namespace Width

/-- Greatest lengths are counted up to this, and least lengths up to one less. -/
def unbounded : Nat := 0xFFFFFFFF

/-- Lengths added. -/
def add (a b : Width) : Width := ⟨a.least + b.least, a.greatest + b.greatest⟩

/-- Either of two. -/
def either (a b : Width) : Width := ⟨min a.least b.least, max a.greatest b.greatest⟩

/-- Cut off where counting ends. -/
def cut (a : Width) : Width := ⟨min a.least (unbounded - 1), min a.greatest unbounded⟩

/-- Repeated. -/
def times (a : Width) (least : Nat) (most : Option Nat) : Width :=
  ⟨a.least * least, a.greatest * most.getD unbounded⟩

end Width

mutual

/-- The width of an item, given those of the groups. -/
def Item.width (groups : Nat → Width) : Item → Width
  | .char _ | .notChar _ | .any | .set _ _ => ⟨1, 1⟩
  | .anchor _ | .look _ _ _ => ⟨0, 0⟩
  | .backref index => groups index
  | .branch [] => ⟨0, 0⟩
  | .branch (first :: rest) => alternativesWidth groups (sequenceWidth groups first).cut rest
  | .group _ _ _ body | .atomic body => (sequenceWidth groups body).cut
  | .repeated _ least most body => (sequenceWidth groups body).cut.times least most
  | .conditional _ yes no =>
    (sequenceWidth groups yes).cut.either (sequenceWidth groups no).cut

/-- The width of a sequence. -/
def sequenceWidth (groups : Nat → Width) : List Item → Width
  | [] => ⟨0, 0⟩
  | item :: rest => (item.width groups).add (sequenceWidth groups rest)

/-- The width of one of several sequences. -/
def alternativesWidth (groups : Nat → Width) (soFar : Width) : List (List Item) → Width
  | [] => soFar
  | items :: rest => alternativesWidth groups (soFar.either (sequenceWidth groups items).cut) rest

end

end Pattern

/-- Why a pattern cannot be compiled. -/
inductive PatternError where
  /-- It is no pattern. -/
  | invalid
  /-- A repetition count is larger than can be counted. -/
  | repetitionTooLarge
  /-- An escape gives a number beyond 31 bits for a code point. -/
  | codeTooLarge
  /-- It asks for ASCII and for Unicode at once. -/
  | flagsIncompatible
  /-- A repetition count has more digits than are read. -/
  | countTooLong (digits : Nat)
  /-- Groups are nested too deeply. -/
  | tooDeep
  deriving DecidableEq

end FeatureFlags
