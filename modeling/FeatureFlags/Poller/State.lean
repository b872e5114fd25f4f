import FeatureFlags.Binary64.Arithmetic
import FeatureFlags.Error
import FeatureFlags.Flag.Snapshot
import FeatureFlags.Log.Entry

/-!
# `FeatureFlags.Poller.State` — a poller and the threads that use it

A poller keeps a snapshot of the flags.  Its loop, which runs on a thread of its own, refreshes the
snapshot at once, after every interval, and whenever a reload is asked for; any number of callers
start it, refresh, ask for reloads, read and stop it at the same time.

What the threads share is a phase, the snapshot, a lock that makes refreshes exclusive, and three
events.  What a thread has still to do is a stack of frames, the next one on top.

## Contents

1. Phases
2. Threads and frames
3. The state
-/

namespace FeatureFlags

namespace Poller

/-! ## Phases -/

/-- The phases of a poller's life. -/
inductive Phase where
  | uninitialized
  | loading
  | ready
  | shuttingDown
  | stopped
  deriving DecidableEq

namespace Phase

/-- The name of a phase. -/
def name : Phase → String
  | .uninitialized => "uninitialized"
  | .loading => "loading"
  | .ready => "ready"
  | .shuttingDown => "shutting_down"
  | .stopped => "stopped"

/-- Whether the poller is being stopped or has been. -/
def isFinal : Phase → Bool
  | .shuttingDown | .stopped => true
  | _ => false

end Phase

/-! ## Threads and frames -/

/-- The threads: the loop's own, and those of callers. -/
inductive Who where
  | loop
  | caller (n : Nat)
  deriving DecidableEq

/-- What callers can ask of a poller.  A wait may be timed, and then it can run out. -/
inductive Operation where
  | start
  | refresh
  | reload
  | read (timed : Bool)
  | stop (timed : Bool)
  /-- Stop the poller, and then close the service. -/
  | stopAndClose
  deriving DecidableEq

/-- The steps that a thread can be about to take. -/
inductive Frame where
  /-- Start the loop. -/
  | start
  /-- Wait for the lock on refreshes, and take it. -/
  | acquire
  /-- Refuse to refresh once the poller is being stopped. -/
  | checkStopping
  | markLoading
  /-- Begin to list the flags. -/
  | fetch
  /-- The flags are being listed. -/
  | fetching
  /-- Replace the snapshot. -/
  | publish (flags : List Flag)
  | markReady (flags : List Flag)
  /-- Let readers in. -/
  | openGate (flags : List Flag)
  | noteRefreshed (flags : List Flag)
  /-- The error sink is being called. -/
  | report (e : LibraryError)
  | noteSinkRaised (e : LibraryError)
  /-- Find out which phase a failed refresh leads back to. -/
  | chooseRest
  | settle (phase : Phase)
  /-- Give the lock on refreshes back. -/
  | release (refreshed : Bool)
  /-- End the loop if the poller is being stopped. -/
  | loopCheck
  | loopClear
  /-- Look again, before a refresh. -/
  | loopRecheck
  /-- Begin to wait, unless there is a wake-up already. -/
  | loopWait
  /-- Wait until woken or until the interval is over. -/
  | loopParked
  | reloadCheck
  | reloadWake
  /-- Refuse to read from a poller that nobody has used. -/
  | readCheck (timed : Bool)
  /-- Wait until readers are let in. -/
  | readWait (timed : Bool)
  | readSnapshot
  /-- Become the one who stops the poller. -/
  | stopMark (timed : Bool)
  | stopSignal (timed joins : Bool)
  | stopWake (timed joins : Bool)
  | stopOpenGate (timed joins : Bool)
  /-- Wait for the end of the loop. -/
  | stopJoin (timed joins : Bool)
  | stopClear
  | stopFinish
  | stopNote
  /-- Close the service that the flags come from. -/
  | closeService

/-- The steps with which an operation begins. -/
def Operation.frames : Operation → List Frame
  | .start => [.start]
  | .refresh => [.acquire]
  | .reload => [.reloadCheck]
  | .read timed => [.readCheck timed]
  | .stop timed => [.stopMark timed]
  | .stopAndClose => [.stopMark false, .closeService]

/-! ## The state -/

/-- A poller, and what the threads that use it have still to do. -/
structure State where
  /-- The seconds between two refreshes. -/
  interval : Binary64
  phase : Phase := .uninitialized
  snapshot : Snapshot := .empty
  /-- Whether a snapshot has been published. -/
  loadedOnce : Bool := false
  /-- The event that lets readers in. -/
  loaded : Bool := false
  /-- The event that wakes the loop. -/
  wake : Bool := false
  /-- Whether that event has been set since the loop last began to wait.  It ends the wait even if
  the event is cleared again before the loop goes on. -/
  woken : Bool := false
  /-- The event that ends the loop. -/
  stopping : Bool := false
  /-- The thread that holds the lock on refreshes. -/
  refresher : Option Who := none
  /-- Whether the loop has been started. -/
  started : Bool := false
  /-- Whether the service has been closed. -/
  serviceClosed : Bool := false
  pending : Who → List Frame := fun _ => []

namespace State

/-- A new poller. -/
def new (interval : Binary64) : State := { interval }

/-- Replaces what a thread has still to do. -/
def setPending (s : State) (who : Who) (frames : List Frame) : State :=
  { s with pending := fun w => if w = who then frames else s.pending w }

/-- Enters a phase, unless the poller is being stopped. -/
def enter (s : State) (phase : Phase) : State :=
  if s.phase.isFinal then s else { s with phase }

/-- Sets the event that wakes the loop. -/
def setWake (s : State) : State := { s with wake := true, woken := true }

/-- Whether the loop has been started and has ended. -/
def loopEnded (s : State) : Bool := s.started && (s.pending .loop).isEmpty

/-- Whether a wait as long as the interval is possible: its nanoseconds must fit into 63 bits. -/
def canWait (s : State) : Bool := (s.interval.mul (.ofInt 1000000000)).lt (.ofInt 0x8000000000000000)

end State

end Poller

end FeatureFlags
