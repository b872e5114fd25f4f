import FeatureFlags.Poller.Step
import FeatureFlags.Service.Basic

/-!
# `FeatureFlags.Session.State` — a poller at work with a service

A session runs a poller together with a service and an error sink.  It is driven by one caller; any
number of other callers may wait for the flags.  Whenever the driving caller is not busy, every
thread has gone as far as it can, so that a session is deterministic.

## Contents

1. Error sinks
2. The state
3. Single moves
4. Settling
-/

namespace FeatureFlags

/-! ## Error sinks -/

/-- What becomes of the errors of refreshes. -/
inductive Sink where
  /-- They are collected. -/
  | collect
  /-- They are collected, and the sink raises. -/
  | collectAndRaise
  /-- They are collected, and the sink stops the poller. -/
  | collectAndStop
  /-- They are written to the log. -/
  | log
  deriving DecidableEq

namespace Sink

/-- How a sink behaves towards the poller. -/
def behaviour : Sink → Poller.SinkBehaviour
  | .collect | .log => .returns
  | .collectAndRaise => .raises
  | .collectAndStop => .stops false false

end Sink

/-! ## The state -/

/-- A session with a service whose state is a `σ`. -/
structure Session (σ : Type) where
  service : Service σ
  store : σ
  poller : Poller.State
  sink : Sink := .collect
  /-- Whether listings are held back. -/
  held : Bool := false
  /-- Whether the thread that clears the wake-up event next stops the poller from there. -/
  stopsAtClear : Bool := false
  /-- The callers that wait for the flags, by name; callers are numbered from one on. -/
  readers : List (String × Nat) := []
  /-- What the operations of callers ended with. -/
  results : List (Nat × Poller.Result) := []
  /-- The errors that the sink collected. -/
  errors : List LibraryError := []
  log : List Log.Entry := []

namespace Session

variable {σ : Type}

/-- The caller who drives a session. -/
def driver : Nat := 0

/-- The threads in the order in which they are let go on. -/
def threads (s : Session σ) : List Poller.Who :=
  .caller driver :: .loop :: s.readers.map fun r => .caller r.2

/-- Changes the service. -/
def update (f : σ → σ) (s : Session σ) : Session σ := { s with store := f s.store }

/-! ## Single moves -/

/-- Keeps what an operation of a caller ended with. -/
def keepResult (s : Session σ) : Poller.Who → Option Poller.Result → Session σ
  | .caller n, some r => { s with results := (n, r) :: s.results.filter (·.1 ≠ n) }
  | _, _ => s

/-- The session after a move of a thread. -/
def after (s : Session σ) (who : Poller.Who) (m : Poller.Move) : Session σ :=
  { s with poller := m.state, log := s.log ++ m.entries }.keepResult who m.result

/-- Gives an error to the sink. -/
def tell (s : Session σ) (e : LibraryError) : Session σ :=
  if s.sink = .log then { s with log := s.log ++ [Poller.unableEntry e] }
  else { s with errors := s.errors ++ [e] }

/-- Whether a step clears the wake-up event. -/
def clears : Poller.Frame → Bool
  | .loopClear | .stopClear => true
  | _ => false

/-- The session after a thread has taken a step: if the step cleared the wake-up event and the
poller is to be stopped from there, it is. -/
def afterStep (s : Session σ) (who : Poller.Who) (frame : Poller.Frame) : Session σ :=
  match frame with
  | .closeService => s.update s.service.close
  | _ =>
    if s.stopsAtClear && clears frame then
      { s with stopsAtClear := false, poller := s.poller.push who (.stopMark false) }
    else s

/-- Lets the service answer a thread that lists the flags. -/
def answer? (s : Session σ) (who : Poller.Who) : Option (Session σ) :=
  if s.held then none
  else
    let (outcome, store) := s.service.fetch s.store
    (s.poller.step? (.answers who outcome)).map fun m => { s with store }.after who m

/-- One move of a thread, none if it has to wait or has nothing to do. -/
def advance? (s : Session σ) (who : Poller.Who) : Option (Session σ) :=
  match s.poller.pending who with
  | [] => none
  | .fetching :: _ => s.answer? who
  | .report e :: _ =>
    (s.poller.step? (.sinks who s.sink.behaviour)).map fun m => (s.tell e).after who m
  | frame :: _ =>
    (s.poller.step? (.runs who)).map fun m => (s.after who m).afterStep who frame

/-! ## Settling -/

/-- The next move of a session, none if every thread waits. -/
def next? (s : Session σ) : Option (Session σ) := s.threads.findSome? s.advance?

/-- Makes up to so many moves. -/
def settleWithin : Nat → Session σ → Session σ
  | 0, s => s
  | n + 1, s =>
    match s.next? with
    | some t => settleWithin n t
    | none => s

/-- More moves than a session can make before every thread waits: an operation leads to at most two
refreshes and three stops, and each waiting caller takes three moves. -/
def enoughMoves (s : Session σ) : Nat := 200 + 4 * s.readers.length

/-- Lets every thread go as far as it can. -/
def settle (s : Session σ) : Session σ := settleWithin s.enoughMoves s

end Session

end FeatureFlags
