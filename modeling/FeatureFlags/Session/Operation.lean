import FeatureFlags.Client.Evaluation
import FeatureFlags.Session.State

/-!
# `FeatureFlags.Session.Operation` — what the driving caller of a session does

An operation begins on the driving caller and every thread then goes as far as it can.  A wait that
is timed runs out if it is still on then.  An operation that would wait for the driving caller
itself is not begun at all.

## Contents

1. Performing operations
2. Operations of a poller
3. Operations of a client
-/

namespace FeatureFlags

namespace Session

variable {σ : Type}

/-! ## Performing operations -/

/-- Whether the loop is being kept from listing the flags. -/
def isHeld (s : Session σ) : Bool :=
  s.held &&
    match s.poller.pending .loop with
    | .fetching :: _ => true
    | _ => false

/-- Whether a reader would wait: the loop has been started, and readers have not been let in. -/
def keepsReaders (s : Session σ) : Bool := s.poller.started && !s.poller.loaded

/-- Whether an operation is not to be begun, because it would wait for what only the driving caller
can do. -/
def wouldWait (s : Session σ) : Poller.Operation → Bool
  | .start | .reload => false
  | .refresh => s.held
  | .read timed => !timed && s.keepsReaders
  | .stop timed => !timed && s.isHeld
  | .stopAndClose => s.isHeld

/-- Lets the timed wait of the driving caller run out, if it is in one. -/
def endWait (s : Session σ) : Session σ :=
  match s.poller.step? (.timesOut (.caller driver)) with
  | some m => (s.after (.caller driver) m).settle
  | none => s

/-- Performs an operation and gives what it ended with, none if it was not begun. -/
def perform (s : Session σ) (op : Poller.Operation) : Option Poller.Result × Session σ :=
  if s.wouldWait op then (none, s)
  else
    match s.poller.step? (.begins driver op) with
    | some m =>
      let s := { s with results := s.results.filter (·.1 ≠ driver) }
      let s := (s.after (.caller driver) m).settle.endWait
      (s.results.lookup driver, s)
    | none => (none, s)

/-! ## Operations of a poller -/

/-- Begins or ends the holding back of listings. -/
def hold (held : Bool) (s : Session σ) : Session σ := { s with held }.settle

/-- Asks for a reload several times over. -/
def reload : Nat → Session σ → Session σ
  | 0, s => s
  | n + 1, s => reload n (s.perform .reload).2

/-- Adds a caller who waits for the flags. -/
def addReader (name : String) (s : Session σ) : Session σ :=
  let number := s.readers.length + 1
  match s.poller.step? (.begins number (.read false)) with
  | some m =>
    let s := s.after (.caller number) m
    { s with readers := s.readers ++ [(name, number)] }.settle
  | none => s

/-! ## Operations of a client -/

/-- The snapshot that a reading ended with. -/
def snapshotOf : Poller.Result → Except LibraryError Snapshot
  | .read snapshot => .ok snapshot
  | .refused e => .error e
  | .done | .refreshed _ => .ok .empty

/-- Asks for a flag by a function of the client; what it logs goes to the session's log. -/
def ask (f : Except LibraryError Snapshot → σ → Reply × σ) (s : Session σ) :
    Option (Except ForeignError Json) × Session σ :=
  match s.perform (.read false) with
  | (some r, s) =>
    let (reply, store) := f (snapshotOf r) s.store
    (some reply.value, { s with store, log := s.log ++ reply.entries })
  | (none, s) => (none, s)

/-- The value of a flag. -/
def getFlag (digest : Digest) (groupTypes : List (String × String)) (q : Query) (s : Session σ) :
    Option (Except ForeignError Json) × Session σ :=
  s.ask fun snapshot store => Client.getFlag s.service digest groupTypes snapshot q store

/-- Whether a flag is on. -/
def isEnabled (digest : Digest) (groupTypes : List (String × String)) (q : Query)
    (s : Session σ) : Option (Except ForeignError Json) × Session σ :=
  s.ask fun snapshot store => Client.isEnabled s.service digest groupTypes snapshot q store

end Session

end FeatureFlags
