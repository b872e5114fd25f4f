import FeatureFlags.Config.Schema
import FeatureFlags.Error
import FeatureFlags.Log.Line
import FeatureFlags.Text.Case

/-!
# `FeatureFlags.Log.Logger` — loggers

A logger writes the entries that are at least as severe as its threshold.  The threshold is given by
a name in capitals or small letters; a name that is not known stands for `INFO`.
-/

namespace FeatureFlags

namespace Log

/-- The thresholds by name. -/
def thresholds : List (String × Nat) :=
  [("DEBUG", 10), ("INFO", 20), ("WARN", 30), ("WARNING", 30), ("ERROR", 40), ("CRITICAL", 50),
    ("FATAL", 50), ("NOTSET", 0)]

/-- The names that are taken by something other than a threshold, and so are refused. -/
def reserved : List (String × ForeignError) :=
  [("BASIC_FORMAT", ⟨.value, "Unknown level: '%(levelname)s:%(name)s:%(message)s'"⟩),
    ("_STYLES", ⟨.type,
      "Level not an integer or a valid string: \x7b'%': (<class 'logging.PercentStyle'>, " ++
      "'%(levelname)s:%(name)s:%(message)s'), '\x7b': (<class 'logging.StrFormatStyle'>, " ++
      "'\x7blevelname\x7d:\x7bname\x7d:\x7bmessage\x7d'), '$': " ++
      "(<class 'logging.StringTemplateStyle'>, '$\x7blevelname\x7d:$\x7bname\x7d:" ++
      "$\x7bmessage\x7d')\x7d"⟩)]

/-- The threshold of a name. -/
def threshold (name : String) : Except ForeignError Nat :=
  let capitals := String.ofList (Text.upperCase name.toList)
  match reserved.lookup capitals with
  | some e => .error e
  | none => .ok ((thresholds.lookup capitals).getD Level.info.number)

/-- A logger. -/
structure Logger where
  name : String
  threshold : Nat
  format : LogFormat

namespace Logger

/-- The name of the library's logger. -/
def libraryName : String := "k1s0_featureflag"

/-- The logger with the given threshold and format; any format but `json` is the one for the eye. -/
def configure (level format : String) : Except ForeignError Logger :=
  (Log.threshold level).map fun t => ⟨libraryName, t, if format = "json" then .json else .text⟩

/-- The logger that a configuration asks for. -/
def ofSection (s : LogSection) : Except ForeignError Logger := configure s.level s.format.name

/-- Whether entries of a level are written. -/
def writes (l : Logger) (level : Level) : Bool := l.threshold ≤ level.number

/-- What is written for an entry, none if it is not severe enough.  An entry that cannot be written
fails even then. -/
def write? (l : Logger) (time : String) (bound : List (String × Json)) (e : Entry) :
    Except ForeignError (Option String) :=
  let r : Record := { entry := e, bound, logger := l.name, time }
  (r.write l.format).map fun text => if l.writes e.level then some text else none

end Logger

end Log

end FeatureFlags
