/-!
# `FeatureFlags.Text.CodeTable` — sets of characters and maps on characters, as tables

The tables of the Unicode standard are written as text: code points in hexadecimal, ascending and
disjoint, `41..5A` for a range and `100..12E/2` for every second code point of a range.  A map adds
the signed distance to the image, as in `41..5A+20`.

## Contents

1. Reading the entries
2. Looking a code point up: binary search over the entries
3. `CodeSet` and `CodeMap`
-/

namespace FeatureFlags

namespace CodeTable

/-! ## Reading the entries -/

/-- The code points from `first` to `last` in steps of `stride`, each taken to the code point
`shift` away. -/
structure Entry where
  first : Nat
  last : Nat
  stride : Nat
  shift : Int
  deriving Inhabited

/-- The value of a hexadecimal digit in capitals, if it is one. -/
def hexDigit? (c : Char) : Option Nat :=
  if '0' ≤ c ∧ c ≤ '9' then some (c.toNat - '0'.toNat)
  else if 'A' ≤ c ∧ c ≤ 'F' then some (c.toNat - 'A'.toNat + 10)
  else none

/-- Splits a hexadecimal number off a text. -/
def hexNumber (value : Nat) : List Char → Nat × List Char
  | [] => (value, [])
  | c :: rest =>
    match hexDigit? c with
    | some d => hexNumber (16 * value + d) rest
    | none => (value, c :: rest)

/-- The words of a text, which are separated by blanks and line ends. -/
def words (text : String) : List (List Char) :=
  let (word, rest) := text.toList.foldr
    (fun c (word, rest) =>
      if c = ' ' ∨ c = '\n' then ([], if word.isEmpty then rest else word :: rest)
      else (c :: word, rest))
    ([], [])
  if word.isEmpty then rest else word :: rest

/-- Reads one entry. -/
def Entry.ofWord (word : List Char) : Entry :=
  let (first, rest) := hexNumber 0 word
  let (last, rest) :=
    match rest with
    | '.' :: '.' :: r => hexNumber 0 r
    | _ => (first, rest)
  let (stride, rest) :=
    match rest with
    | '/' :: r => hexNumber 0 r
    | _ => (1, rest)
  let shift : Int :=
    match rest with
    | '+' :: r => (hexNumber 0 r).1
    | '-' :: r => -(hexNumber 0 r).1
    | _ => 0
  ⟨first, last, stride, shift⟩

/-- Reads the entries of a table. -/
def entries (text : String) : Array Entry := ((words text).map Entry.ofWord).toArray

/-- Reads hexadecimal numbers separated by plus signs. -/
def readSum (word : List Char) : List Nat :=
  let (number, rest) := word.foldr
    (fun c (number, rest) => if c = '+' then ([], number :: rest) else (c :: number, rest))
    ([], [])
  (number :: rest).map fun digits => (hexNumber 0 digits).1

/-! ## Looking a code point up -/

/-- Whether an entry covers a code point. -/
def Entry.covers (e : Entry) (c : Nat) : Bool :=
  e.first ≤ c && c ≤ e.last && (c - e.first) % e.stride == 0

/-- The entry of a sorted table that covers `c`, looked for between two positions. -/
def search (table : Array Entry) (c : Nat) (lo hi : Nat) : Option Entry :=
  if h : lo < hi then
    let mid := (lo + hi) / 2
    let e := table[mid]!
    if c < e.first then search table c lo mid
    else if e.last < c then search table c (mid + 1) hi
    else if e.covers c then some e else none
  else none
termination_by hi - lo

end CodeTable

/-! ## `CodeSet` and `CodeMap` -/

/-- A set of characters. -/
structure CodeSet where
  table : Array CodeTable.Entry

namespace CodeSet

/-- The set with the given table. -/
def ofText (text : String) : CodeSet := ⟨CodeTable.entries text⟩

/-- Whether a code point belongs to the set. -/
def containsCode (s : CodeSet) (c : Nat) : Bool :=
  (CodeTable.search s.table c 0 s.table.size).isSome

/-- Whether a character belongs to the set. -/
def contains (s : CodeSet) (c : Char) : Bool := s.containsCode c.toNat

end CodeSet

/-- A map that moves some characters and leaves the others alone. -/
structure CodeMap where
  table : Array CodeTable.Entry

namespace CodeMap

/-- The map with the given table. -/
def ofText (text : String) : CodeMap := ⟨CodeTable.entries text⟩

/-- How far a code point is moved. -/
def shift (m : CodeMap) (c : Nat) : Int :=
  ((CodeTable.search m.table c 0 m.table.size).map CodeTable.Entry.shift).getD 0

/-- The image of a character. -/
def apply (m : CodeMap) (c : Char) : Char :=
  match CodeTable.search m.table c.toNat 0 m.table.size with
  | some e => Char.ofNat (c.toNat + e.shift).toNat
  | none => c

end CodeMap

end FeatureFlags
