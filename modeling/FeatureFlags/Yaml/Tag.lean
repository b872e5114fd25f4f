import FeatureFlags.Pattern.Search

/-!
# `FeatureFlags.Yaml.Tag` — the types of YAML nodes

A node has a tag.  A plain scalar without one takes the first tag whose form its text has, among the
forms that go with the text's first character, and is text if there is none.
-/

namespace FeatureFlags

namespace Yaml

/-- The tags that have a meaning. -/
inductive Tag where
  | null
  | bool
  | int
  | float
  | binary
  | timestamp
  | text
  | sequence
  | mapping
  | set
  | orderedMap
  | pairs
  /-- The key under which other mappings are merged in. -/
  | merge
  /-- The key of a mapping's default value. -/
  | default
  /-- Anything else, none of which has a value. -/
  | unknown
  deriving DecidableEq

namespace Tag

/-- What the names of the tags begin with. -/
def base : String := "tag:yaml.org,2002:"

/-- The tag of a name. -/
def ofName (name : String) : Tag :=
  if name = base ++ "null" then .null
  else if name = base ++ "bool" then .bool
  else if name = base ++ "int" then .int
  else if name = base ++ "float" then .float
  else if name = base ++ "binary" then .binary
  else if name = base ++ "timestamp" then .timestamp
  else if name = base ++ "str" then .text
  else if name = base ++ "seq" then .sequence
  else if name = base ++ "map" then .mapping
  else if name = base ++ "set" then .set
  else if name = base ++ "omap" then .orderedMap
  else if name = base ++ "pairs" then .pairs
  else if name = base ++ "merge" then .merge
  else if name = base ++ "value" then .default
  else .unknown

/-- The form of the plain scalars of a tag. -/
structure Form where
  tag : Tag
  /-- The characters with which they begin. -/
  first : List Char
  /-- Whether the empty text is one of them. -/
  empty : Bool := false
  pattern : String

/-- The forms of plain scalars, in the order in which they are tried. -/
def forms : List Form :=
  [ { tag := .bool
      first := "yYnNtTfFoO".toList
      pattern := "^(?:yes|Yes|YES|no|No|NO|true|True|TRUE|false|False|FALSE|on|On|ON|off|Off|OFF)$" },
    { tag := .float
      first := "-+0123456789.".toList
      pattern := "(?x)^(?:[-+]?(?:[0-9][0-9_]*)\\.[0-9_]*(?:[eE][-+][0-9]+)?
        | \\.[0-9][0-9_]*(?:[eE][-+][0-9]+)?
        | [-+]?[0-9][0-9_]*(?::[0-5]?[0-9])+\\.[0-9_]*
        | [-+]?\\.(?:inf|Inf|INF)
        | \\.(?:nan|NaN|NAN))$" },
    { tag := .int
      first := "-+0123456789".toList
      pattern := "(?x)^(?:[-+]?0b[0-1_]+
        | [-+]?0[0-7_]+
        | [-+]?(?:0|[1-9][0-9_]*)
        | [-+]?0x[0-9a-fA-F_]+
        | [-+]?[1-9][0-9_]*(?::[0-5]?[0-9])+)$" },
    { tag := .merge
      first := ['<']
      pattern := "^(?:<<)$" },
    { tag := .null
      first := "~nN".toList
      empty := true
      pattern := "^(?:~|null|Null|NULL|)$" },
    { tag := .timestamp
      first := "0123456789".toList
      pattern := "(?x)^(?:[0-9][0-9][0-9][0-9]-[0-9][0-9]-[0-9][0-9]
        | [0-9][0-9][0-9][0-9]-[0-9][0-9]?-[0-9][0-9]?
          (?:[Tt]|[ \\t]+)[0-9][0-9]?:[0-9][0-9]:[0-9][0-9](?:\\.[0-9]*)?
          (?:[ \\t]*(?:Z|[-+][0-9][0-9]?(?::[0-9][0-9])?))?)$" },
    { tag := .default
      first := ['=']
      pattern := "^(?:=)$" },
    { tag := .unknown
      first := "!&*".toList
      pattern := "^(?:!|&|\\*)$" } ]

/-- Whether a text has a form. -/
def Form.fits (f : Form) (text : List Char) : Bool :=
  (match text.head? with
    | some c => f.first.contains c
    | none => f.empty) &&
  match Pattern.compile f.pattern.toList with
  | .ok p => p.search text
  | .error _ => false

/-- The tag of a plain scalar that is written without one. -/
def ofPlain (text : List Char) : Tag :=
  match forms.find? (·.fits text) with
  | some f => f.tag
  | none => .text

end Tag

end Yaml

end FeatureFlags
