import FeatureFlags.Poller.State

/-!
# `FeatureFlags.Poller.Step` — the steps of a poller's threads

Every step is atomic: it takes or gives a lock, reads or sets an event, or looks at and changes what
a lock guards.  `Frame.move?` says what a step does, and is `none` where the thread has to wait for
others; `State.step?` lets a thread, a service, an error sink or the clock make the next move.

## Contents

1. Outcomes and entries of the log
2. The step of a frame
3. Actions
4. Steps and runs
-/

namespace FeatureFlags

namespace Poller

/-! ## Outcomes and entries of the log -/

/-- What an operation ends with. -/
inductive Result where
  | done
  | refreshed (ok : Bool)
  | refused (e : LibraryError)
  | read (s : Snapshot)

/-- A failure to list the flags, as it is reported. -/
def reportOf : Failure → LibraryError
  | .library e => e
  | .foreign e =>
    .general "TRANSPORT_ERROR" ("Unexpected error fetching feature flags: " ++ e.text)

/-- The entry for a refresh. -/
def refreshedEntry (flags : List Flag) : Log.Entry where
  level := .debug
  event := "Feature flags refreshed"
  fields := [("fetched", .int flags.length), ("active", .int (Snapshot.ofFlags flags).size)]

/-- The entry for an error sink that raised. -/
def sinkRaisedEntry (e : LibraryError) : Log.Entry where
  level := .error
  event := "Feature flag error sink raised"
  fields := [("error_code", .str e.code), ("exc_info", .bool true)]

/-- The entry for the end of a poller. -/
def stoppedEntry : Log.Entry where
  level := .debug
  event := "Feature flag poller stopped"

/-- The entry that the usual error sink writes. -/
def unableEntry (e : LibraryError) : Log.Entry where
  level := .error
  event := "Unable to refresh feature flags"
  fields := [("error_code", .str e.code), ("error", .str e.text)]

/-- The error of a start that comes too late. -/
def cannotStart (phase : Phase) : LibraryError :=
  .misuse ("Poller cannot be started in state " ++ phase.name)

/-- The error of a reader that comes too early. -/
def notStarted : LibraryError := .misuse "Poller has not been started"

/-! ## The step of a frame -/

/-- What a step does. -/
structure Move where
  state : State
  /-- What the thread does next, before what it had still to do. -/
  next : List Frame := []
  entries : List Log.Entry := []
  /-- The outcome of the operation that the step ends. -/
  result : Option Result := none

/-- The step that a thread is about to take, none if it has to wait. -/
def Frame.move? (s : State) (who : Who) : Frame → Option Move
  | .start =>
    if s.started || s.phase ≠ .uninitialized then
      some { state := s, result := some (.refused (cannotStart s.phase)) }
    else
      some { state := { s.setPending .loop [.loopCheck] with started := true }, result := some .done }
  | .acquire =>
    if s.refresher.isNone then
      some { state := { s with refresher := some who }, next := [.checkStopping] }
    else none
  | .checkStopping =>
    some { state := s, next := if s.stopping then [.release false] else [.markLoading] }
  | .markLoading => some { state := s.enter .loading, next := [.fetch] }
  | .fetch => some { state := s, next := [.fetching] }
  | .fetching => none
  | .publish flags =>
    some {
      state := { s with snapshot := .ofFlags flags, loadedOnce := true }
      next := [.markReady flags] }
  | .markReady flags => some { state := s.enter .ready, next := [.openGate flags] }
  | .openGate flags => some { state := { s with loaded := true }, next := [.noteRefreshed flags] }
  | .noteRefreshed flags =>
    some { state := s, next := [.release true], entries := [refreshedEntry flags] }
  | .report _ => none
  | .noteSinkRaised e =>
    some { state := s, next := [.chooseRest], entries := [sinkRaisedEntry e] }
  | .chooseRest =>
    some { state := s, next := [.settle (if s.loadedOnce then .ready else .uninitialized)] }
  | .settle phase => some { state := s.enter phase, next := [.release false] }
  | .release refreshed =>
    some { state := { s with refresher := none }, result := some (.refreshed refreshed) }
  | .loopCheck => some { state := s, next := if s.stopping then [] else [.loopClear] }
  | .loopClear => some { state := { s with wake := false }, next := [.loopRecheck] }
  | .loopRecheck => some { state := s, next := if s.stopping then [] else [.acquire, .loopWait] }
  | .loopWait =>
    if s.wake then some { state := s, next := [.loopCheck] }
    else if s.canWait then some { state := { s with woken := false }, next := [.loopParked] }
    else some { state := s }
  | .loopParked => if s.woken then some { state := s, next := [.loopCheck] } else none
  | .reloadCheck =>
    if s.stopping then some { state := s, result := some .done }
    else some { state := s, next := [.reloadWake] }
  | .reloadWake => some { state := s.setWake, result := some .done }
  | .readCheck timed =>
    if s.phase = .uninitialized && !s.started then
      some { state := s, result := some (.refused notStarted) }
    else some { state := s, next := [.readWait timed] }
  | .readWait _ => if s.loaded then some { state := s, next := [.readSnapshot] } else none
  | .readSnapshot => some { state := s, result := some (.read s.snapshot) }
  | .stopMark timed =>
    if s.phase.isFinal then some { state := s, result := some .done }
    else
      some { state := { s with phase := .shuttingDown }, next := [.stopSignal timed s.started] }
  | .stopSignal timed joins =>
    some { state := { s with stopping := true }, next := [.stopWake timed joins] }
  | .stopWake timed joins =>
    some { state := s.setWake, next := [.stopOpenGate timed joins] }
  | .stopOpenGate timed joins =>
    some { state := { s with loaded := true }, next := [.stopJoin timed joins] }
  | .stopJoin _ joins =>
    if !joins || who = .loop || s.loopEnded then some { state := s, next := [.stopClear] } else none
  | .stopClear => some { state := { s with wake := false }, next := [.stopFinish] }
  | .stopFinish => some { state := { s with phase := .stopped }, next := [.stopNote] }
  | .stopNote => some { state := s, entries := [stoppedEntry], result := some .done }
  | .closeService => some { state := { s with serviceClosed := true }, result := some .done }

/-- What becomes of a thread whose timed wait is over, none if it does not wait. -/
def Frame.timeOut? (s : State) : Frame → Option Move
  | .loopParked => some { state := s, next := [.loopCheck] }
  | .readWait true => some { state := s, result := some (.read .empty) }
  | .stopJoin true _ => some { state := s, next := [.stopClear] }
  | _ => none

/-! ## Actions -/

/-- What an error sink does with the error it is given. -/
inductive SinkBehaviour where
  | returns
  | raises
  /-- It stops the poller, with a timed wait or without, and then returns or raises. -/
  | stops (timed failing : Bool)
  deriving DecidableEq

/-- What a thread does when the sink has dealt with an error. -/
def afterSink (e : LibraryError) (raised : Bool) : Frame :=
  if raised then .noteSinkRaised e else .chooseRest

/-- What a sink's behaviour makes its thread do next. -/
def SinkBehaviour.frames (e : LibraryError) : SinkBehaviour → List Frame
  | .returns => [afterSink e false]
  | .raises => [afterSink e true]
  | .stops timed failing => [.stopMark timed, afterSink e failing]

/-- What happens next. -/
inductive Action where
  /-- A caller that is idle begins an operation. -/
  | begins (n : Nat) (op : Operation)
  /-- A thread takes its next step. -/
  | runs (who : Who)
  /-- The service answers a thread that lists the flags. -/
  | answers (who : Who) (outcome : Except Failure (List Flag))
  /-- The error sink deals with the error that a thread gave it. -/
  | sinks (who : Who) (behaviour : SinkBehaviour)
  /-- The wait of a thread is over because its time is up. -/
  | timesOut (who : Who)

/-! ## Steps and runs -/

namespace State

/-- Makes a move of the thread whose remaining frames are given. -/
def apply (who : Who) (rest : List Frame) (m : Move) : Move :=
  { m with state := m.state.setPending who (m.next ++ rest) }

/-- Begins something on a thread, before what it has still to do. -/
def push (s : State) (who : Who) (frame : Frame) : State :=
  s.setPending who (frame :: s.pending who)

/-- What a thread does next with the answer of the service. -/
def answerFrames : Except Failure (List Flag) → List Frame
  | .ok flags => [.publish flags]
  | .error failure => [.report (reportOf failure)]

/-- The next step, none if the action cannot happen now. -/
def step? (s : State) : Action → Option Move
  | .begins n op =>
    match s.pending (.caller n) with
    | [] => some { state := s.setPending (.caller n) op.frames }
    | _ :: _ => none
  | .runs who =>
    match s.pending who with
    | frame :: rest => (frame.move? s who).map (apply who rest)
    | [] => none
  | .answers who outcome =>
    match s.pending who with
    | .fetching :: rest => some (apply who rest { state := s, next := answerFrames outcome })
    | _ => none
  | .sinks who behaviour =>
    match s.pending who with
    | .report e :: rest => some (apply who rest { state := s, next := behaviour.frames e })
    | _ => none
  | .timesOut who =>
    match s.pending who with
    | frame :: rest => (frame.timeOut? s).map (apply who rest)
    | [] => none

/-- The state after a sequence of actions, none if one of them cannot happen. -/
def run? (s : State) : List Action → Option State
  | [] => some s
  | action :: rest => (s.step? action).bind fun m => m.state.run? rest

/-- Whether a state can come about from a new poller. -/
def Reachable (interval : Binary64) (s : State) : Prop :=
  ∃ actions, (State.new interval).run? actions = some s

end State

end Poller

end FeatureFlags
