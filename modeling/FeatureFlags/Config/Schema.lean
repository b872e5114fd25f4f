import FeatureFlags.Config.Quantity
import FeatureFlags.Config.Setting
import FeatureFlags.Text.Utf8

/-!
# `FeatureFlags.Config.Schema` — the configuration of a client

A `Config` is read from settings.  Every setting is checked, and all that is wrong is reported
together, in the order in which the settings are declared.

## Contents

1. Issues
2. Readings that collect their issues
3. Values of the expected type
4. `Config`
-/

namespace FeatureFlags

/-! ## Issues -/

/-- What can be wrong with a setting. -/
inductive Problem where
  | missing
  | notText
  | textUnreadable
  | notNumber
  | numberUnreadable
  | notPositive
  | notMap
  | notSection
  | notChoice
  deriving DecidableEq

/-- The code of a problem. -/
def Problem.code : Problem → String
  | .missing => "missing"
  | .notText => "string_type"
  | .textUnreadable => "string_unicode"
  | .notNumber => "float_type"
  | .numberUnreadable => "float_parsing"
  | .notPositive => "greater_than"
  | .notMap => "dict_type"
  | .notSection => "model_type"
  | .notChoice => "literal_error"

/-- One step on the way to a setting. -/
inductive Step where
  | name (s : String)
  | index (n : Int)
  deriving DecidableEq

/-- A problem and where it is. -/
structure Issue where
  path : List Step
  problem : Problem
  deriving DecidableEq

/-! ## Readings that collect their issues -/

/-- A value, or everything that is wrong. -/
inductive Checked (α : Type) where
  | valid (value : α)
  | invalid (issues : List Issue)

namespace Checked

variable {α β : Type}

/-- A single problem with the value that is being read. -/
def problem (p : Problem) : Checked α := .invalid [⟨[], p⟩]

/-- The issues of a reading. -/
def issues : Checked α → List Issue
  | .valid _ => []
  | .invalid is => is

/-- Changes a value that was read. -/
def map (f : α → β) : Checked α → Checked β
  | .valid x => .valid (f x)
  | .invalid is => .invalid is

/-- Two readings one after the other; the issues of both are kept. -/
def seq (f : Checked (α → β)) (x : Checked α) : Checked β :=
  match f, x with
  | .valid g, .valid a => .valid (g a)
  | f, x => .invalid (f.issues ++ x.issues)

instance : Applicative Checked where
  pure := .valid
  map := map
  seq f x := seq f (x ())

/-- Puts a step in front of the path of every issue. -/
def under (step : Step) : Checked α → Checked α
  | .valid x => .valid x
  | .invalid is => .invalid (is.map fun i => { i with path := step :: i.path })

end Checked

/-! ## Values of the expected type -/

namespace Setting

/-- Reads text; bytes are read as UTF-8. -/
def readText : Setting → Checked String
  | .text s => .valid s
  | .bytes b =>
    match Utf8.decode b with
    | .ok s => .valid s
    | .error _ => .problem .textUnreadable
  | _ => .problem .notText

/-- Reads a number that is written as text. -/
def readQuantity (s : String) : Checked Binary64 :=
  match Quantity.read? s with
  | some x => .valid x
  | none => .problem .numberUnreadable

/-- Reads a number. -/
def readNumber : Setting → Checked Binary64
  | .text s => readQuantity s
  | .bytes b =>
    match Utf8.decode b with
    | .ok s => readQuantity s
    | .error _ => .problem .numberUnreadable
  | setting =>
    match setting.number?.bind Number.toBinary64? with
    | some x => .valid x
    | none => .problem .notNumber

/-- Reads a number above zero. -/
def readPositive (s : Setting) : Checked Binary64 :=
  match s.readNumber with
  | .valid x => if Binary64.zero.lt x then .valid x else .problem .notPositive
  | .invalid is => .invalid is

/-- The text of a key in a path. -/
def keyText : Setting → String
  | .null => "None"
  | .bool b => if b then "True" else "False"
  | .number n => n.text
  | .text s => s
  | .bytes b => Text.quotedBytes b
  | .moment m => m.literal
  | .list _ | .set _ | .map _ => ""

/-- The step to the value of a key: an integer of 64 bits stays one, and so does a truth value. -/
def keyStep (key : Setting) : Step :=
  match key.number? with
  | some (.int n) => if -0x8000000000000000 ≤ n ∧ n < 0x8000000000000000 then .index n else .name key.keyText
  | _ => .name key.keyText

/-- Reads an entry of a map from text to text. -/
def readTextEntry (entry : Setting × Setting) : Checked (String × String) :=
  let (key, value) := entry
  Prod.mk <$> (key.readText.under (.name "[key]")).under key.keyStep <*>
    value.readText.under key.keyStep

/-- Reads the entries of a map from text to text; the last value of a key counts. -/
def readTextEntries : List (Setting × Setting) → Checked (List (String × String))
  | entries =>
    (fun pairs => pairs.foldl (fun m (k, v) => Json.insertMember k v m) []) <$>
      entries.foldr (fun e rest => List.cons <$> readTextEntry e <*> rest) (.valid [])

/-- Reads a map from text to text. -/
def readTextMap : Setting → Checked (List (String × String))
  | .map entries => readTextEntries entries
  | _ => .problem .notMap

/-- Reads the entry of a name, which must be there. -/
def required {α : Type} (entries : List (Setting × Setting)) (name : String)
    (read : Setting → Checked α) : Checked α :=
  match lookUp name entries with
  | some value => (read value).under (.name name)
  | none => Checked.under (.name name) (.problem .missing)

/-- Reads the entry of a name, or takes the default where there is none. -/
def optional {α : Type} (entries : List (Setting × Setting)) (name : String)
    (read : Setting → Checked α) (default : α) : Checked α :=
  match lookUp name entries with
  | some value => (read value).under (.name name)
  | none => .valid default

end Setting

/-! ## `Config` -/

/-- How log entries are written. -/
inductive LogFormat where
  | json
  | text
  deriving DecidableEq

/-- The name of a format. -/
def LogFormat.name : LogFormat → String
  | .json => "json"
  | .text => "text"

/-- The settings of the log. -/
structure LogSection where
  level : String := "INFO"
  format : LogFormat := .json

/-- The settings of a client. -/
structure Config where
  endpoint : String
  projectKey : String
  personalKey : String
  /-- Seconds between refreshes. -/
  pollInterval : Binary64
  /-- Seconds until a request is given up. -/
  timeout : Binary64
  /-- From the index of a group type, as text, to its name. -/
  groupTypes : List (String × String)
  log : LogSection

namespace LogFormat

/-- Reads the name of a format. -/
def ofSetting : Setting → Checked LogFormat
  | .text "json" => .valid .json
  | .text "text" => .valid .text
  | _ => .problem .notChoice

end LogFormat

namespace LogSection

/-- Reads the settings of the log. -/
def ofSetting : Setting → Checked LogSection
  | .map entries =>
    LogSection.mk <$> Setting.optional entries "level" Setting.readText "INFO" <*>
      Setting.optional entries "format" LogFormat.ofSetting .json
  | _ => .problem .notSection

end LogSection

namespace Config

/-- Seconds between refreshes, unless set. -/
def defaultPollInterval : Binary64 := .ofInt 300

/-- Seconds until a request is given up, unless set. -/
def defaultTimeout : Binary64 := .ofInt 10

/-- Reads the settings of a client. -/
def ofSetting : Setting → Checked Config
  | .map entries =>
    Config.mk <$> Setting.required entries "endpoint" Setting.readText <*>
      Setting.required entries "project_api_key" Setting.readText <*>
      Setting.required entries "personal_api_key" Setting.readText <*>
      Setting.optional entries "poll_interval_seconds" Setting.readPositive defaultPollInterval <*>
      Setting.optional entries "timeout_seconds" Setting.readPositive defaultTimeout <*>
      Setting.optional entries "group_type_mapping" Setting.readTextMap [] <*>
      Setting.optional entries "log" LogSection.ofSetting (LogSection.mk "INFO" .json)
  | _ => .problem .notSection

end Config

end FeatureFlags
