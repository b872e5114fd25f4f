import FeatureFlags.Config.Schema
import FeatureFlags.Error
import FeatureFlags.Json.Writer
import FeatureFlags.Log.Entry

/-!
# `FeatureFlags.Log.Line` — the text of an entry

A record is an entry together with the fields bound to its logger, the name of the logger and the
time.  It is written as a JSON object, or as a line for the eye: time, level, event and name in
columns, then the fields, sorted by name, and below them what the record brings along.

Some names are not free for fields.  Those of the arguments of a logging call are refused, the two
that ask for what brought an entry about have nothing to show and are left out, and a record cannot
be taken from a field.
-/

namespace FeatureFlags

namespace Log

/-- What is written for one entry. -/
structure Record where
  entry : Entry
  /-- The fields that the logger adds to every entry. -/
  bound : List (String × Json) := []
  /-- The name of the logger. -/
  logger : String
  time : String

namespace Record

/-- The fields that ask for the stack and for the failure behind an entry. -/
def askedFor : List String := ["stack_info", "exc_info"]

/-- The fields of a record in order.  A field that is given twice keeps its first place and its last
value, and so does one that has the name of a part that every record has. -/
def members (r : Record) : List (String × Json) :=
  let parts : List (String × Json) :=
    [("event", .str r.entry.event), ("logger", .str r.logger), ("level", .str r.entry.level.name),
      ("timestamp", .str r.time)]
  ((r.bound ++ r.entry.fields ++ parts).foldl (fun ms m => Json.insertMember m.1 m.2 ms) []).filter
    fun m => !askedFor.contains m.1

/-- The failure of a logging call that is given one of its arguments twice. -/
def givenTwice (function argument : String) : ForeignError :=
  ⟨.type, "BoundLogger." ++ function ++ "() got multiple values for argument '" ++ argument ++ "'"⟩

/-- What keeps a record from being written in any format: a field that has the name of an argument
of the call, or one that stands for the record itself. -/
def obstacle? (r : Record) : Option ForeignError :=
  match r.entry.fields.find? fun m => ["event", "self"].contains m.1 with
  | some m => some (givenTwice r.entry.level.name m.1)
  | none =>
    if r.entry.fields.any fun m => m.1 = "method_name" then
      some (givenTwice "_proxy_to_logger" "method_name")
    else
      match r.members.lookup "_record" with
      | none | some .null => none
      | some v =>
        some ⟨.attribute, "'" ++ v.kind.text ++ "' object has no attribute 'name'"⟩

/-- A record as a JSON object. -/
def json (r : Record) : String := (Json.obj r.members).write .spaced

/-! ## Lines for the eye -/

/-- Fills a text up with blanks. -/
def padded (width : Nat) (s : String) : String :=
  s ++ String.ofList (List.replicate (width - s.length) ' ')

/-- Whether a character keeps a text from being written as it is. -/
def needsQuotes (c : Char) : Bool := [' ', '\t', '=', '\r', '\n', '"', '\''].contains c

/-- The text of a field's value. -/
def valueText : Json → String
  | .str s => if s.toList.any needsQuotes then Text.quoted s else s
  | v => v.text

/-- The names that have a column of their own. -/
def columns : List String := ["timestamp", "level", "event", "logger", "logger_name"]

/-- The names whose values stand below the line. -/
def attachments : List String := ["stack", "exception"]

/-- The fields outside the columns, sorted by name. -/
def otherMembers (r : Record) : List (String × Json) :=
  (r.members.filter fun m => !(columns ++ attachments).contains m.1).mergeSort fun a b =>
    decide (a.1 ≤ b.1)

/-- The first line of a record. -/
def line (r : Record) : String :=
  let second :=
    match r.members.lookup "logger_name" with
    | some (.str s) => ["[" ++ s ++ "]"]
    | some v => ["[" ++ v.text ++ "]"]
    | none => []
  " ".intercalate
    ([r.time, "[" ++ padded 9 r.entry.level.name ++ "]", padded 30 r.entry.event,
      "[" ++ r.logger ++ "]"] ++ second ++
      r.otherMembers.map fun (k, v) => k ++ "=" ++ valueText v)

/-- The value of a field that stands below the line, if it has one; it must be a text. -/
def attachment? (r : Record) (name : String) : Except ForeignError (Option String) :=
  match r.members.lookup name with
  | none | some .null => .ok none
  | some (.str s) => .ok (some s)
  | some v =>
    .error ⟨.type, "can only concatenate str (not \"" ++ v.kind.text ++ "\") to str"⟩

/-- Between the two texts below a line. -/
def divider : String := "\n\n" ++ String.ofList (List.replicate 79 '=') ++ "\n"

/-- A record for the eye: its line, and below it the stack and the failure that it brings along. -/
def lines (r : Record) : Except ForeignError String := do
  let stack ← r.attachment? "stack"
  let failure ← r.attachment? "exception"
  let below :=
    match stack, failure with
    | none, none => ""
    | some s, none => "\n" ++ s
    | none, some e => "\n" ++ e
    | some s, some e => "\n" ++ s ++ divider ++ "\n" ++ e
  return r.line ++ below

/-- A record in a format. -/
def write (r : Record) (format : LogFormat) : Except ForeignError String :=
  match r.obstacle?, format with
  | some e, _ => .error e
  | none, .json => .ok r.json
  | none, .text => r.lines

end Record

end Log

end FeatureFlags
