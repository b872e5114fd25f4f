import FeatureFlags.Config.Moment
import FeatureFlags.Json.Value

/-!
# `FeatureFlags.Config.Setting` — the values of settings before they are checked

A setting is what a configuration file or a JSON document holds in a place.  A map may have keys
that are not text.
-/

namespace FeatureFlags

/-- A value that has not been checked against anything. -/
inductive Setting where
  | null
  | bool (b : Bool)
  | number (n : Number)
  | text (s : String)
  | bytes (b : List UInt8)
  | moment (m : Moment)
  | list (items : List Setting)
  | set (items : List Setting)
  | map (entries : List (Setting × Setting))

namespace Setting

/-- The number that a number or a truth value counts as. -/
def number? : Setting → Option Number
  | .bool b => some (.int (if b then 1 else 0))
  | .number n => some n
  | _ => none

/-- Equality as keys: by value between numbers and truth values, and only between scalars. -/
def sameKey (a b : Setting) : Bool :=
  match a.number?, b.number? with
  | some m, some n => m.sameValue n
  | _, _ =>
    match a, b with
    | .null, .null => true
    | .text s, .text t => s == t
    | .bytes s, .bytes t => s == t
    | .moment m, .moment n => m.same n
    | _, _ => false

/-- Null, false, zero, and whatever has nothing in it. -/
def isEmpty : Setting → Bool
  | .null => true
  | .bool b => !b
  | .number n => n.sameValue (.int 0)
  | .text s => s.isEmpty
  | .bytes b => b.isEmpty
  | .moment _ => false
  | .list items => items.isEmpty
  | .set items => items.isEmpty
  | .map entries => entries.isEmpty

/-- The value of a text key. -/
def lookUp (name : String) : List (Setting × Setting) → Option Setting
  | [] => none
  | (key, value) :: rest =>
    match key with
    | .text s => if s = name then some value else lookUp name rest
    | _ => lookUp name rest

mutual

/-- A JSON value as a setting. -/
def ofJson : Json → Setting
  | .null => .null
  | .bool b => .bool b
  | .number n => .number n
  | .str s => .text s
  | .arr items => .list (ofItems items)
  | .obj members => .map (ofMembers members)

/-- The items of a JSON list as settings. -/
def ofItems : List Json → List Setting
  | [] => []
  | item :: rest => ofJson item :: ofItems rest

/-- The members of a JSON object as entries of a map. -/
def ofMembers : List (String × Json) → List (Setting × Setting)
  | [] => []
  | (name, value) :: rest => (.text name, ofJson value) :: ofMembers rest

end

end Setting

end FeatureFlags
