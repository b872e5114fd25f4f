import FeatureFlags.Config.Schema
import FeatureFlags.Evaluation.Rules
import FeatureFlags.Flag.Snapshot
import FeatureFlags.Log.Entry
import FeatureFlags.Service.Basic

/-!
# `FeatureFlags.Client.Evaluation` — the value of a flag for a caller

A client decides a flag by the snapshot alone where it can, and asks the service where the flag has
no rules for that.  Where neither gives a value the caller's default is returned, and the reason is
logged.

## Contents

1. Queries and replies
2. Deciding by the snapshot
3. Asking the service
4. The operations of a client
-/

namespace FeatureFlags

/-! ## Queries and replies -/

/-- What a caller asks. -/
structure Query where
  key : String
  /-- The person that the flag is decided for. -/
  subject : String
  /-- The value returned when the flag cannot be decided. -/
  default : Json := .bool false
  /-- The properties of the person. -/
  properties : Properties := []
  /-- The properties of the groups, by group type. -/
  groupProperties : List (String × Properties) := []
  /-- The groups that the person belongs to. -/
  groups : Groups := []

/-- What a caller gets: a value, or a failure that is not the library's own. -/
structure Reply where
  value : Except ForeignError Json
  entries : List Log.Entry := []

namespace Query

/-- The reply with the caller's default, and the reason for it. -/
def fallback (q : Query) (entries : List Log.Entry) : Reply := ⟨.ok q.default, entries⟩

/-- An entry about a query and the error that kept it from being decided. -/
def entry (q : Query) (level : Log.Level) (event : String) (e : LibraryError) : Log.Entry where
  level
  event
  fields := [("flag_key", .str q.key), ("error_code", .str e.code), ("error", .str e.text)]

/-- The entry for a query before the flags are available. -/
def unavailableEntry (q : Query) (e : LibraryError) : Log.Entry :=
  q.entry .error "Feature flags are not available" e

/-- The entry for a flag that could not be decided by its rules. -/
def undecidedEntry (q : Query) (e : LibraryError) : Log.Entry :=
  q.entry .warning "Unable to evaluate feature flag locally" e

/-- The entry for a flag that the service did not decide. -/
def unansweredEntry (q : Query) (e : LibraryError) : Log.Entry :=
  q.entry .error "Unable to get flag value from decide" e

end Query

/-- Whether a value counts as on: anything but off and the text `false`. -/
def countsAsOn : Json → Bool
  | .bool b => b
  | .str s => s != "false"
  | _ => true

namespace Client

/-! ## Deciding by the snapshot -/

/-- The value of a flag by its rules.  A flag of a group type is decided for the caller's group of
that type. -/
def decideByRules (digest : Digest) (groupTypes : List (String × String)) (flag : Flag)
    (q : Query) : Except EvaluationError FlagValue :=
  match flag.filters.groupTypeIndex with
  | none => flag.evaluate digest q.subject q.properties
  | some index =>
    if Numeral.isWritable index then
      let unknown := .error (.unknownGroup flag.key index)
      match groupTypes.lookup (toString index) with
      | none => unknown
      | some groupType =>
        match q.groups.lookup groupType with
        | none => unknown
        | some group =>
          flag.evaluate digest group ((q.groupProperties.lookup groupType).getD [])
    else .error .integerUnwritable

/-- What the snapshot says about a query. -/
inductive Verdict where
  | reply (r : Reply)
  /-- The service has to be asked. -/
  | undecided

/-- What follows from an error of the rules. -/
def verdictOfError (q : Query) (e : EvaluationError) : Verdict :=
  match e.report with
  | .library err =>
    if err.kind.isA .inconclusive then .undecided
    else .reply (q.fallback [q.undecidedEntry err])
  | .foreign err => .reply ⟨.error err, []⟩

/-- What a snapshot says about a query. -/
def verdict (digest : Digest) (groupTypes : List (String × String)) (snapshot : Snapshot)
    (q : Query) : Verdict :=
  match snapshot.get? q.key with
  | none => .reply (q.fallback [])
  | some flag =>
    match decideByRules digest groupTypes flag q with
    | .ok v => .reply ⟨.ok v.toJson, []⟩
    | .error e => verdictOfError q e

/-! ## Asking the service -/

/-- The reply that an answer of the service gives.  A flag that the service does not mention is off,
and so is one whose value does not count as on. -/
def replyOfAnswer (q : Query) : Except Failure Answers → Reply
  | .ok answers =>
    let value := (answers.lookup q.key).getD (.bool false)
    ⟨.ok (if countsAsOn value then value else .bool false), []⟩
  | .error (.library e) => q.fallback [q.unansweredEntry e]
  | .error (.foreign e) => ⟨.error e, []⟩

/-! ## The operations of a client -/

/-- The value of a flag, given what reading the snapshot gave. -/
def getFlag {σ : Type} (service : Service σ) (digest : Digest)
    (groupTypes : List (String × String)) (snapshot : Except LibraryError Snapshot) (q : Query)
    (s : σ) : Reply × σ :=
  match snapshot with
  | .error e => (q.fallback [q.unavailableEntry e], s)
  | .ok snapshot =>
    match verdict digest groupTypes snapshot q with
    | .reply r => (r, s)
    | .undecided =>
      let (answer, s) := service.decide s q.subject q.groups
      (replyOfAnswer q answer, s)

/-- Whether a flag is on. -/
def isEnabled {σ : Type} (service : Service σ) (digest : Digest)
    (groupTypes : List (String × String)) (snapshot : Except LibraryError Snapshot) (q : Query)
    (s : σ) : Reply × σ :=
  let (r, s) := getFlag service digest groupTypes snapshot q s
  (⟨r.value.map fun v => .bool (countsAsOn v), r.entries⟩, s)

end Client

end FeatureFlags
