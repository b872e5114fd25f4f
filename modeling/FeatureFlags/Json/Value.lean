import FeatureFlags.Binary64.Arithmetic
import FeatureFlags.Binary64.Decimal
import FeatureFlags.Text.Numeral
import FeatureFlags.Text.Quoted

/-!
# `FeatureFlags.Json.Value` — the values of flag records and property bags

A number keeps whether it was written as an integer or as a double.  An object keeps its members in
order; the readers of this library never build one with a repeated name.

## Contents

1. `Number`
2. `Json`, look-up and emptiness
3. Names and texts of values, as error messages give them
-/

namespace FeatureFlags

/-! ## `Number` -/

/-- An integer of any size, or a double. -/
inductive Number where
  | int (n : Int)
  | float (x : Binary64)
  deriving DecidableEq

namespace Number

/-- How two numbers compare by exact value; not-a-number compares with nothing. -/
def compare? : Number → Number → Option Ordering
  | .int a, .int b => some (compare a b)
  | .int a, .float y => (y.compareInt? a).map Ordering.swap
  | .float x, .int b => x.compareInt? b
  | .float x, .float y => x.compare? y

/-- Equality by exact value. -/
def sameValue (a b : Number) : Bool := a.compare? b == some .eq

/-- The double nearest to a number; an integer beyond the finite range has none. -/
def toBinary64? : Number → Option Binary64
  | .float x => some x
  | .int n =>
    let x := Binary64.ofInt n
    if x.isFinite then some x else none

/-- A hundredth of a number, rounded once; an integer whose hundredth lies beyond the finite range
has none. -/
def hundredth? : Number → Option Binary64
  | .float x => some x.hundredth
  | .int n =>
    let x := Binary64.ofRatio (n < 0) n.natAbs 100
    if x.isFinite then some x else none

/-- The number brought into the range from 0 to 100 and then rounded to a double. -/
def clampPercent : Number → Binary64
  | .float x => x.clampPercent
  | .int n => Binary64.ofInt (min (max n 0) 100)

def text : Number → String
  | .int n => toString n
  | .float x => x.text

/-- Whether a number can be written. -/
def isWritable : Number → Bool
  | .int n => Numeral.isWritable n
  | .float _ => true

end Number

/-! ## `Json`, look-up and emptiness -/

/-- A JSON value. -/
inductive Json where
  | null
  | bool (b : Bool)
  | number (n : Number)
  | str (s : String)
  | arr (items : List Json)
  | obj (members : List (String × Json))

namespace Json

instance : Inhabited Json := ⟨.null⟩

/-- An integer value. -/
abbrev int (n : Int) : Json := .number (.int n)

/-- A double value. -/
abbrev float (x : Binary64) : Json := .number (.float x)

/-- Puts a member into an object: in the place of the member of that name, else at the end. -/
def insertMember {α : Type} (name : String) (value : α) : List (String × α) → List (String × α)
  | [] => [(name, value)]
  | (k, v) :: rest =>
    if k = name then (k, value) :: rest else (k, v) :: insertMember name value rest

/-- The object with the given members, where the last of several of one name counts. -/
def ofMembers (members : List (String × Json)) : Json :=
  .obj (members.foldl (fun acc m => insertMember m.1 m.2 acc) [])

/-- Whether a value counts as absent where a default stands in for it: null, false, zero, and the
empty text, list and object. -/
def isEmpty : Json → Bool
  | .null => true
  | .bool b => !b
  | .number (.int n) => n == 0
  | .number (.float x) => x.isZero
  | .str s => s == ""
  | .arr items => items.isEmpty
  | .obj members => members.isEmpty

/-! ## Names and texts of values -/

/-- The kinds of values that messages tell apart. -/
inductive Kind where
  | null
  | bool
  | int
  | float
  | str
  | arr
  | obj
  deriving DecidableEq

/-- The kind of a value. -/
def kind : Json → Kind
  | .null => .null
  | .bool _ => .bool
  | .number (.int _) => .int
  | .number (.float _) => .float
  | .str _ => .str
  | .arr _ => .arr
  | .obj _ => .obj

/-- The name of a kind in messages. -/
def Kind.text : Kind → String
  | .null => "NoneType"
  | .bool => "bool"
  | .int => "int"
  | .float => "float"
  | .str => "str"
  | .arr => "list"
  | .obj => "dict"

mutual

/-- The text of a value in messages. -/
def text : Json → String
  | .null => "None"
  | .bool true => "True"
  | .bool false => "False"
  | .number n => n.text
  | .str s => Text.quoted s
  | .arr items => "[" ++ itemsText items ++ "]"
  | .obj members => "\x7b" ++ membersText members ++ "\x7d"

/-- The texts of list items, separated by commas. -/
def itemsText : List Json → String
  | [] => ""
  | [v] => v.text
  | v :: rest => v.text ++ ", " ++ itemsText rest

/-- The texts of object members, separated by commas. -/
def membersText : List (String × Json) → String
  | [] => ""
  | [(k, v)] => Text.quoted k ++ ": " ++ v.text
  | (k, v) :: rest => Text.quoted k ++ ": " ++ v.text ++ ", " ++ membersText rest

end

mutual

/-- Whether the text of a value can be written: the integers in it must not be too long. -/
def isWritable : Json → Bool
  | .number n => n.isWritable
  | .arr items => itemsWritable items
  | .obj members => membersWritable members
  | .null | .bool _ | .str _ => true

def itemsWritable : List Json → Bool
  | [] => true
  | v :: rest => v.isWritable && itemsWritable rest

def membersWritable : List (String × Json) → Bool
  | [] => true
  | (_, v) :: rest => v.isWritable && membersWritable rest

end

end Json

end FeatureFlags
