import FeatureFlags.Text.CodeTable

/-!
# `FeatureFlags.Text.Charset.Table` — tables of characters by code

A table gives runs of characters with codes that follow one another: `2330:0123` stands for four
characters from the code 0x2330 on.  The replacement character marks a code without a character.
-/

namespace FeatureFlags

namespace Charset

namespace Table

/-- Characters with codes that follow one another. -/
structure Run where
  first : Nat
  chars : Array Char

/-- Reads a run. -/
def Run.ofWord (word : List Char) : Run :=
  let (first, rest) := CodeTable.hexNumber 0 word
  ⟨first, (rest.drop 1).toArray⟩

/-- Codes that follow one another and stand for code points that follow one another. -/
structure Range where
  first : Nat
  last : Nat
  code : Nat

/-- Reads a range, as in `A2AB..A2B0=E766`. -/
def Range.ofWord (word : List Char) : Range :=
  let (first, rest) := CodeTable.hexNumber 0 word
  let (last, rest) :=
    match rest with
    | '.' :: '.' :: r => CodeTable.hexNumber 0 r
    | _ => (first, rest)
  ⟨first, last, (CodeTable.hexNumber 0 (rest.drop 1)).1⟩

/-- Reads ranges. -/
def ranges (text : String) : List Range := (CodeTable.words text).map Range.ofWord

/-- The code point of a code in ranges. -/
def codeIn? (ranges : List Range) (code : Nat) : Option Nat :=
  (ranges.find? fun r => r.first ≤ code && code ≤ r.last).map fun r => r.code + (code - r.first)

/-- Reads what codes stand for, as in `8862=CA+304`. -/
def sums (text : String) : List (Nat × List Nat) :=
  (CodeTable.words text).map fun word =>
    let (code, rest) := CodeTable.hexNumber 0 word
    (code, CodeTable.readSum (rest.drop 1))

/-- The numbers of an ascending list that another ascending list lacks. -/
def without : List Nat → List Nat → List Nat
  | [], _ => []
  | xs, [] => xs
  | x :: xs, y :: ys =>
    if x < y then x :: without xs (y :: ys)
    else if y < x then without (x :: xs) ys
    else without xs ys

end Table

/-- A table of characters by code. -/
structure Table where
  runs : Array Table.Run

namespace Table

/-- The table with the given runs. -/
def ofText (text : String) : Table := ⟨((CodeTable.words text).map Run.ofWord).toArray⟩

/-- The run in which a code lies, looked for between two positions of a sorted table. -/
def search (runs : Array Run) (code lo hi : Nat) : Option Run :=
  if _h : lo < hi then
    let mid := (lo + hi) / 2
    match runs[mid]? with
    | none => none
    | some r =>
      if code < r.first then search runs code lo mid
      else if r.first + r.chars.size ≤ code then search runs code (mid + 1) hi
      else some r
  else none
termination_by hi - lo

/-- The character with a code. -/
def char? (t : Table) (code : Nat) : Option Char := do
  let r ← search t.runs code 0 t.runs.size
  let c ← r.chars[code - r.first]?
  if c = '\ufffd' then none else some c

/-- The code points of the characters of a table, in the order of their codes. -/
def codes (t : Table) : List Nat :=
  (t.runs.toList.flatMap fun r => r.chars.toList.map Char.toNat).filter (· ≠ 0xFFFD)

end Table

end Charset

end FeatureFlags
