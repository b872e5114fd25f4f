import FeatureFlags.Config.Schema
import FeatureFlags.Yaml.Document

/-!
# `FeatureFlags.Config.File` — configurations in files

A configuration file is YAML in UTF-8.  The settings stand at its top level, or in a section of
their own.

## Contents

1. Failures
2. Text of a file
3. Loading
-/

namespace FeatureFlags

/-- What is found where a file should be. -/
inductive FileContent where
  | bytes (content : List UInt8)
  /-- There is no such file, or it cannot be read. -/
  | unreadable

/-! ## Failures -/

/-- Why a configuration could not be loaded. -/
inductive LoadError where
  | unreadable
  /-- The file is not UTF-8. -/
  | notText (flaw : Utf8.Flaw)
  | malformed
  /-- The collections of the file are nested too deeply. -/
  | tooDeep
  /-- A scalar of the file stands for no value. -/
  | noValue (e : ForeignError)
  | invalid (issues : List Issue)

namespace LoadError

/-- The failure as it is reported.  The message about a configuration that is not valid goes on with a list
of its issues; that part is left out here, and the issues are given apart (`LoadError.issues`). -/
def report (path : String) : LoadError → Failure
  | .unreadable => .library (.general "READ_FILE_ERROR" ("Failed to read config file: " ++ path))
  | .notText flaw => .foreign ⟨.unicodeDecode, flaw.message⟩
  | .malformed => .library (.general "PARSE_YAML_ERROR" ("Failed to parse YAML: " ++ path))
  | .tooDeep => .foreign ⟨.recursion, "maximum recursion depth exceeded"⟩
  | .noValue e => .foreign e
  | .invalid _ => .library (.misuse "Config validation failed")

/-- The issues of a configuration that was read but is not valid. -/
def issues : LoadError → List Issue
  | .invalid is => is
  | _ => []

end LoadError

namespace Config

/-! ## Text of a file -/

/-- Turns every way of ending a line into a line feed. -/
def unifyLineEnds : List Char → List Char
  | '\r' :: '\n' :: rest => '\n' :: unifyLineEnds rest
  | c :: rest => (if c = '\r' then '\n' else c) :: unifyLineEnds rest
  | [] => []

/-- The text of a file. -/
def fileText (bytes : List UInt8) : Except LoadError String :=
  match Utf8.decode bytes with
  | .ok s => .ok (String.ofList (unifyLineEnds s.toList))
  | .error flaw => .error (.notText flaw)

/-! ## Loading -/

/-- How deep the settings of a configuration lie in a file: in a section, a map or the log's
settings, under a name. -/
def depth : Nat := 4

/-- The settings in a file; an empty value counts as no settings. -/
def fileSettings (text : String) : Except LoadError Setting :=
  match Yaml.load depth text with
  | .ok data => .ok (if data.isEmpty then .map [] else data)
  | .error .malformed => .error .malformed
  | .error .tooDeep => .error .tooDeep
  | .error (.value e) => .error (.noValue e)

/-- The settings themselves, or those of the section for them. -/
def ownSection : Setting → Setting
  | .map entries =>
    match Setting.lookUp "featureflag" entries with
    | some (.map inner) => .map inner
    | _ => .map entries
  | other => other

/-- Loads a configuration from what is found at its path. -/
def load : FileContent → Except LoadError Config
  | .unreadable => .error .unreadable
  | .bytes content => do
    let text ← fileText content
    let settings ← fileSettings text
    match ofSetting (ownSection settings) with
    | .valid config => .ok config
    | .invalid issues => .error (.invalid issues)

end Config

end FeatureFlags
