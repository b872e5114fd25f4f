import FeatureFlags.Deflate.Reader

/-!
# `FeatureFlags.Deflate.PrefixCode` — codes in which no code word begins another

Such a code is given by the lengths of its code words alone: the words of each length follow one
another in the order of their symbols, and the shorter ones come first.
-/

namespace FeatureFlags

namespace Deflate

/-- A code in which no code word begins another. -/
structure PrefixCode where
  /-- How many code words there are of each length, from one bit on. -/
  counts : List Nat
  /-- The symbols in the order of their code words. -/
  symbols : Array Nat

namespace PrefixCode

/-- The code with the given lengths of code words, by symbol; a symbol with length zero has none. -/
def ofLengths (lengths : List Nat) : PrefixCode :=
  let longest := max 1 (lengths.foldl max 0)
  let ofLength (n : Nat) : List Nat :=
    (lengths.zipIdx.filter fun p => p.1 = n).map Prod.snd
  let groups := (List.range longest).map fun n => ofLength (n + 1)
  { counts := groups.map List.length, symbols := groups.flatten.toArray }

/-- How many code words of the last length are left over, when `room` of the first length are there;
none if there are too many code words. -/
def leftOver? (room : Nat) : List Nat → Option Nat
  | [] => some room
  | count :: rest =>
    if 2 * room < count then none else leftOver? (2 * room - count) rest

/-- Whether a code has no more code words than there are, and leaves none over.  It may leave some
over if it has no code word at all or, where that is allowed, a single one of one bit. -/
def isValid (single : Bool) (code : PrefixCode) : Bool :=
  code.symbols.isEmpty ||
    match leftOver? 1 code.counts with
    | none => false
    | some 0 => true
    | some _ => single && code.counts.length = 1

/-- Reads the bits of a code word and gives its symbol.  Among the words of the length in turn,
those from `first` on have symbols, from the one at `index` on; `word` is what was read so far. -/
def symbolFrom (symbols : Array Nat) (word first index : Nat) : List Nat → Read (Option Nat)
  | [] => return none
  | count :: rest => do
    let word := 2 * word + (← Read.bits 1)
    let first := 2 * first
    if word < first + count then return symbols[index + (word - first)]?
    else symbolFrom symbols word (first + count) (index + count) rest

/-- Reads a code word and gives its symbol, none if there is no such word. -/
def symbol? (code : PrefixCode) : Read (Option Nat) := symbolFrom code.symbols 0 0 0 code.counts

end PrefixCode

end Deflate

end FeatureFlags
