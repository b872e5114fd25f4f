import FeatureFlags.Poller.Step

/-!
# `Proofs.Poller.Turn` — what one step of a poller can do

`State.step?` says what an action does to a poller.  Read the other way round, a step is one of three
things: an idle caller begins an operation, a caller starts the loop, or a thread takes a *turn* at
its topmost frame, which changes what the threads share but no other thread's stack.

`Layout` says which stacks there are; every step keeps it.

## Contents

1. Families of frames
2. Turns, and the cases of a step
3. What follows a frame, and what a turn ends with
4. Stacks
5. Runs, and where they can lead
-/

namespace FeatureFlags

namespace Poller

/-! ## Families of frames -/

/-- The families of frames. -/
inductive Family where
  /-- The loop, outside a refresh. -/
  | loop
  | refresh
  /-- A call that stops the poller. -/
  | stop
  /-- The calls that neither refresh nor stop the poller. -/
  | call
  deriving DecidableEq

namespace Frame

/-- The family of a frame. -/
@[grind]
def family : Frame → Family
  | .loopCheck | .loopClear | .loopRecheck | .loopWait | .loopParked => .loop
  | .acquire | .checkStopping | .markLoading | .fetch | .fetching | .publish _ | .markReady _
  | .openGate _ | .noteRefreshed _ | .report _ | .noteSinkRaised _ | .chooseRest | .settle _
  | .release _ => .refresh
  | .stopMark _ | .stopSignal .. | .stopWake .. | .stopOpenGate .. | .stopJoin .. | .stopClear
  | .stopFinish | .stopNote => .stop
  | .start | .reloadCheck | .reloadWake | .readCheck _ | .readWait _ | .readSnapshot
  | .closeService => .call

/-- The frames of a refresh whose thread has the lock on refreshes. -/
@[grind]
def holdsLock (f : Frame) : Bool :=
  match f with
  | .acquire => false
  | _ => f.family = .refresh

/-- The frames of the one who stops the poller, until the poller is stopped. -/
def performsStop (f : Frame) : Bool :=
  match f with
  | .stopMark _ | .stopNote => false
  | _ => f.family = .stop

/-- The frames that a refresh goes on with once the error sink has returned or raised. -/
def isAfterSink : Frame → Bool
  | .chooseRest | .noteSinkRaised _ => true
  | _ => false

/-- The frames of a read. -/
def reads : Frame → Bool
  | .readCheck _ | .readWait _ | .readSnapshot => true
  | _ => false

/-- The frames at which a thread leaves alone what the threads share. -/
def quiet : Frame → Bool
  | .start | .checkStopping | .fetch | .fetching | .noteRefreshed _ | .report _ | .noteSinkRaised _
  | .chooseRest | .loopCheck | .loopRecheck | .loopParked | .reloadCheck | .readCheck _ | .readWait _
  | .readSnapshot | .stopJoin .. | .stopNote => true
  | _ => false

theorem holdsLock_of_isAfterSink {f : Frame} (h : f.isAfterSink) : f.holdsLock := by
  cases f <;> simp_all [isAfterSink, holdsLock, family]

theorem family_of_holdsLock {f : Frame} (h : f.holdsLock) : f.family = .refresh := by
  cases f <;> simp_all [holdsLock]

theorem holdsLock_of_family {f : Frame} (h : f.family = .refresh) (ha : f ≠ .acquire) :
    f.holdsLock := by
  cases f <;> simp_all [holdsLock]

theorem family_of_performsStop {f : Frame} (h : f.performsStop) : f.family = .stop := by
  cases f <;> simp_all [performsStop]

end Frame

theorem isAfterSink_afterSink (e : LibraryError) (raised : Bool) :
    (afterSink e raised).isAfterSink := by
  cases raised <;> rfl

/-! ## Turns, and the cases of a step -/

namespace State

variable {s : State} {who w : Who} {f : Frame} {frames : List Frame}

@[simp] theorem setPending_self : (s.setPending who frames).pending who = frames := by
  simp [setPending]

theorem setPending_of_ne (h : w ≠ who) : (s.setPending who frames).pending w = s.pending w := by
  simp [setPending, h]

theorem mem_setPending : f ∈ (s.setPending who frames).pending w ↔
    (w = who ∧ f ∈ frames) ∨ (w ≠ who ∧ f ∈ s.pending w) := by
  by_cases h : w = who <;> simp [setPending, h]

@[simp] theorem setPending_phase : (s.setPending who frames).phase = s.phase := rfl
@[simp] theorem setPending_snapshot : (s.setPending who frames).snapshot = s.snapshot := rfl
@[simp] theorem setPending_loadedOnce : (s.setPending who frames).loadedOnce = s.loadedOnce := rfl
@[simp] theorem setPending_started : (s.setPending who frames).started = s.started := rfl
@[simp] theorem setPending_stopping : (s.setPending who frames).stopping = s.stopping := rfl
@[simp] theorem setWake_pending : s.setWake.pending = s.pending := rfl

end State

/-- Whether a start would launch the loop. -/
def State.canStart (s : State) : Prop := s.started = false ∧ s.phase = .uninitialized

/-- The state in which the loop has just been launched. -/
def State.launched (s : State) : State :=
  { s.setPending .loop [.loopCheck] with started := true }

/-- A turn of a thread at a frame: the frame's own step, or the environment's answer to it.  The start
that launches the loop is no turn. -/
inductive Turn (s : State) (who : Who) (f : Frame) : Action → Move → Prop where
  | runs {m : Move} (h : f.move? s who = some m) (hs : f = .start → ¬ s.canStart) :
      Turn s who f (.runs who) m
  | answers (outcome : Except Failure (List Flag)) (h : f = .fetching) :
      Turn s who f (.answers who outcome) { state := s, next := State.answerFrames outcome }
  | sinks (e : LibraryError) (behaviour : SinkBehaviour) (h : f = .report e) :
      Turn s who f (.sinks who behaviour) { state := s, next := behaviour.frames e }
  | timesOut {m : Move} (h : f.timeOut? s = some m) : Turn s who f (.timesOut who) m

/-- **The cases of a step.** -/
theorem State.step?_cases {s : State} {a : Action} {m : Move} (h : s.step? a = some m) :
    (∃ n op, a = .begins n op ∧ s.pending (.caller n) = [] ∧
      m = { state := s.setPending (.caller n) op.frames }) ∨
    (∃ who rest, a = .runs who ∧ s.pending who = .start :: rest ∧ s.canStart ∧
      m = { state := s.launched.setPending who rest, result := some .done }) ∨
    (∃ who f rest μ, s.pending who = f :: rest ∧ Turn s who f a μ ∧
      m = State.apply who rest μ) := by
  cases a with
  | begins n op =>
      left
      cases hp : s.pending (.caller n) with
      | nil => simp only [step?, hp, Option.some.injEq] at h; exact ⟨n, op, rfl, hp, h.symm⟩
      | cons f rest => simp [step?, hp] at h
  | runs who =>
      right
      cases hp : s.pending who with
      | nil => simp [step?, hp] at h
      | cons f rest =>
          simp only [step?, hp, Option.map_eq_some_iff] at h
          obtain ⟨μ, hμ, rfl⟩ := h
          by_cases hs : f = .start ∧ s.canStart
          · obtain ⟨rfl, hc⟩ := hs
            left
            have hgo : ¬ (s.started || s.phase ≠ .uninitialized) = true := by simp [hc.1, hc.2]
            simp only [Frame.move?, if_neg hgo, Option.some.injEq] at hμ
            exact ⟨who, rest, rfl, hp, hc, by rw [← hμ]; rfl⟩
          · right
            exact ⟨who, f, rest, μ, hp, .runs hμ fun hf hc => hs ⟨hf, hc⟩, rfl⟩
  | answers who outcome =>
      right; right
      simp only [step?] at h
      split at h
      · rename_i rest hp
        simp only [Option.some.injEq] at h
        exact ⟨who, .fetching, rest, _, hp, .answers outcome rfl, h.symm⟩
      · simp at h
  | sinks who behaviour =>
      right; right
      simp only [step?] at h
      split at h
      · rename_i e rest hp
        simp only [Option.some.injEq] at h
        exact ⟨who, .report e, rest, _, hp, .sinks e behaviour rfl, h.symm⟩
      · simp at h
  | timesOut who =>
      right; right
      cases hp : s.pending who with
      | nil => simp [step?, hp] at h
      | cons f rest =>
          simp only [step?, hp, Option.map_eq_some_iff] at h
          obtain ⟨μ, hμ, rfl⟩ := h
          exact ⟨who, f, rest, μ, hp, .timesOut hμ, rfl⟩

/-- What a turn at a frame does to what the threads share. -/
structure Effect (s : State) (who : Who) (f : Frame) (t : State) : Prop where
  pending : t.pending = s.pending
  started : t.started = s.started
  phase : t.phase = s.phase ∨ (f = .stopFinish ∧ t.phase = .stopped) ∨
    (s.phase.isFinal = false ∧ ((∃ timed, f = .stopMark timed ∧ t.phase = .shuttingDown) ∨
      (f = .markLoading ∧ t.phase = .loading) ∨ (∃ flags, f = .markReady flags ∧ t.phase = .ready) ∨
      f = .settle t.phase))
  snapshot : t.snapshot = s.snapshot ∨ ∃ flags, f = .publish flags ∧ t.snapshot = .ofFlags flags
  loadedOnce : t.loadedOnce = true ↔ s.loadedOnce = true ∨ ∃ flags, f = .publish flags
  loaded : t.loaded = true ↔
    s.loaded = true ∨ (∃ flags, f = .openGate flags) ∨ ∃ timed joins, f = .stopOpenGate timed joins
  stopping : t.stopping = true ↔ s.stopping = true ∨ ∃ timed joins, f = .stopSignal timed joins
  refresher : (f = .acquire ∧ s.refresher = none ∧ t.refresher = some who) ∨
    ((∃ ok, f = .release ok) ∧ t.refresher = none) ∨
    (f ≠ .acquire ∧ (∀ ok, f ≠ .release ok) ∧ t.refresher = s.refresher)
  wake : t.wake = s.wake ∨ ((f = .loopClear ∨ f = .stopClear) ∧ t.wake = false) ∨
    ((f = .reloadWake ∨ ∃ timed joins, f = .stopWake timed joins) ∧ t.wake = true)
  woken : t.woken = s.woken ∨ (f = .loopWait ∧ s.wake = false) ∨ t.woken = true
  stopMarked : ∀ timed, f = .stopMark timed →
    t.phase = if s.phase.isFinal then s.phase else .shuttingDown
  stopFinished : f = .stopFinish → t.phase = .stopped
  stopWoke : ∀ timed joins, f = .stopWake timed joins → t.wake = true ∧ t.woken = true
  publishes : ∀ flags, f = .publish flags → t.snapshot = .ofFlags flags

section

variable {s : State} {who : Who} {f : Frame} {a : Action} {m : Move}

/-- A turn at a quiet frame leaves what the threads share as it is. -/
theorem Turn.eq_of_quiet (h : Turn s who f a m) (hq : f.quiet) : m.state = s := by
  cases h with
  | runs h hs =>
      cases f <;> simp [Frame.quiet] at hq <;> simp only [Frame.move?] at h <;> (try split at h)
      all_goals cases h; try rfl
      -- what is left is the start that launches the loop
      rename_i hc
      refine absurd ?_ (hs rfl)
      simpa [State.canStart] using hc
  | answers outcome h | sinks e behaviour h => rfl
  | timesOut h =>
      cases f with
      | loopParked => cases h; rfl
      | readWait timed | stopJoin timed joins => cases timed <;> cases h; rfl
      | _ => cases h

/-- A quiet frame is none of those at which something changes. -/
theorem Effect.of_quiet (hq : f.quiet) : Effect s who f s := by
  constructor <;> cases f <;> simp_all [Frame.quiet]

/-- **The effect of a turn.** -/
theorem Turn.effect (h : Turn s who f a m) : Effect s who f m.state := by
  by_cases hq : f.quiet
  · rw [h.eq_of_quiet hq]
    exact .of_quiet hq
  · cases h with
    | runs h hs =>
        -- a frame's own step may look at the phase first, or at the wake-up and the interval
        cases f <;> simp [Frame.quiet] at hq <;>
          simp only [Frame.move?, State.enter, State.setWake] at h <;> (try split at h) <;>
          (try split at h) <;> simp only [Option.some.injEq, reduceCtorEq] at h <;> subst h <;>
          constructor <;> simp_all [Phase.isFinal]
    | answers outcome h | sinks e behaviour h => subst h; exact absurd rfl hq
    | timesOut h => cases f <;> first | exact absurd rfl hq | cases h

/-- A turn leaves alone what the other threads have still to do. -/
theorem Turn.pending_apply_of_ne {w : Who} {rest : List Frame} (h : Turn s who f a m) (hw : w ≠ who) :
    (State.apply who rest m).state.pending w = s.pending w := by
  simp only [State.apply, State.setPending_of_ne hw, h.effect.pending]

/-- A turn at another frame than a publication leaves the snapshot as it is. -/
theorem Effect.unpublished {t : State} (he : Effect s who f t) (hf : ∀ flags, f ≠ .publish flags) :
    t.snapshot = s.snapshot ∧ t.loadedOnce = s.loadedOnce := by
  have hnone : ¬ ∃ flags, f = .publish flags := fun ⟨flags, h⟩ => hf flags h
  constructor
  · rcases he.snapshot with h | ⟨flags, h, _⟩
    · exact h
    · exact absurd h (hf flags)
  · rw [Bool.eq_iff_iff, he.loadedOnce]
    simp [hnone]

/-- **How a turn goes on.**  It goes on with at most one frame, of the same family, except that the
loop begins a refresh and that the error sink stops the poller. -/
theorem Turn.next_family (h : Turn s who f a m) :
    (m.next = [] ∧ (f.family = .refresh → ∃ ok, f = .release ok)) ∨
    (∃ g, m.next = [g] ∧ g.family = f.family ∧ g ≠ .acquire) ∨
    (f = .loopRecheck ∧ m.next = [.acquire, .loopWait]) ∨
    ∃ e timed failing, f = .report e ∧ m.next = [.stopMark timed, afterSink e failing] := by
  -- a case for each frame, and for each branch of its step
  cases h with
  | runs h hs => cases f <;> simp [Frame.move?] at h <;> (try split at h) <;> grind
  | answers outcome h =>
      subst h
      cases outcome <;> simp [State.answerFrames, Frame.family]
  | sinks e behaviour h =>
      subst h
      cases behaviour <;> simp [SinkBehaviour.frames, afterSink, Frame.family]
  | timesOut h => cases f <;> simp [Frame.timeOut?] at h <;> grind [Frame.timeOut?]

/-- A refresh goes on, with the lock, until it gives the lock back. -/
theorem Turn.next_holdsLock (h : Turn s who f a m) (hf : f.family = .refresh)
    (hr : ∀ ok, f ≠ .release ok) : ∃ g ∈ m.next, g.holdsLock := by
  rcases h.next_family with ⟨_, hn⟩ | ⟨g, hn, hg, ha⟩ | ⟨rfl, _⟩ | ⟨e, timed, failing, _, hn⟩
  · obtain ⟨ok, rfl⟩ := hn hf
    exact absurd rfl (hr ok)
  · exact ⟨g, by simp [hn], Frame.holdsLock_of_family (hg.trans hf) ha⟩
  · cases hf
  · exact ⟨afterSink e failing, by simp [hn],
      Frame.holdsLock_of_isAfterSink (isAfterSink_afterSink e failing)⟩

/-- A stop goes on until the poller is stopped. -/
theorem Turn.next_performsStop (h : Turn s who f a m)
    (hf : (f.performsStop ∧ f ≠ .stopFinish) ∨ ∃ timed, f = .stopMark timed ∧ s.phase.isFinal = false) :
    ∃ g ∈ m.next, g.performsStop := by
  cases h with
  | runs h hs =>
      cases f <;> simp [Frame.performsStop, Frame.family] at hf <;> simp [Frame.move?, hf] at h
      case stopJoin timed joins =>
        obtain ⟨_, rfl⟩ := h
        exact ⟨.stopClear, by simp, rfl⟩
      all_goals subst h; simp [Frame.performsStop, Frame.family]
  | answers outcome h | sinks e behaviour h =>
      subst h
      simp [Frame.performsStop, Frame.family] at hf
  | timesOut h =>
      cases f <;> simp [Frame.performsStop, Frame.family] at hf
      case stopJoin timed joins =>
        cases timed <;> simp [Frame.timeOut?] at h
        subst h
        exact ⟨.stopClear, by simp, rfl⟩
      all_goals simp [Frame.timeOut?] at h

end

/-! ## What follows a frame, and what a turn ends with -/

/-- What follows a frame in a turn, and when. -/
inductive Follows (s : State) (who : Who) : Action → Frame → Frame → Prop where
  | acquires : Follows s who (.runs who) .acquire .checkStopping
  | refuses (h : s.stopping = true) : Follows s who (.runs who) .checkStopping (.release false)
  | proceeds (h : s.stopping = false) : Follows s who (.runs who) .checkStopping .markLoading
  | marksLoading : Follows s who (.runs who) .markLoading .fetch
  | fetches : Follows s who (.runs who) .fetch .fetching
  | lists (flags : List Flag) : Follows s who (.answers who (.ok flags)) .fetching (.publish flags)
  | fails (failure : Failure) :
      Follows s who (.answers who (.error failure)) .fetching (.report (reportOf failure))
  | publishes (flags : List Flag) : Follows s who (.runs who) (.publish flags) (.markReady flags)
  | marksReady (flags : List Flag) : Follows s who (.runs who) (.markReady flags) (.openGate flags)
  | opensGate (flags : List Flag) : Follows s who (.runs who) (.openGate flags) (.noteRefreshed flags)
  | notesRefreshed (flags : List Flag) :
      Follows s who (.runs who) (.noteRefreshed flags) (.release true)
  | sinkStops (e : LibraryError) (timed failing : Bool) :
      Follows s who (.sinks who (.stops timed failing)) (.report e) (.stopMark timed)
  | sinkReturns (e : LibraryError) (behaviour : SinkBehaviour) :
      Follows s who (.sinks who behaviour) (.report e) .chooseRest
  | sinkRaises (e : LibraryError) (behaviour : SinkBehaviour) :
      Follows s who (.sinks who behaviour) (.report e) (.noteSinkRaised e)
  | notesRaised (e : LibraryError) : Follows s who (.runs who) (.noteSinkRaised e) .chooseRest
  | choosesRest : Follows s who (.runs who) .chooseRest
      (.settle (if s.loadedOnce then .ready else .uninitialized))
  | settles (phase : Phase) : Follows s who (.runs who) (.settle phase) (.release false)
  | loops (h : s.stopping = false) : Follows s who (.runs who) .loopCheck .loopClear
  | clears : Follows s who (.runs who) .loopClear .loopRecheck
  | refreshes (h : s.stopping = false) : Follows s who (.runs who) .loopRecheck .acquire
  | waits (h : s.stopping = false) : Follows s who (.runs who) .loopRecheck .loopWait
  | skips (h : s.wake = true) : Follows s who (.runs who) .loopWait .loopCheck
  | parks (h : s.wake = false) : Follows s who (.runs who) .loopWait .loopParked
  | wakes (h : s.woken = true) : Follows s who (.runs who) .loopParked .loopCheck
  | elapses : Follows s who (.timesOut who) .loopParked .loopCheck
  | reloads : Follows s who (.runs who) .reloadCheck .reloadWake
  | enters (timed : Bool) : Follows s who (.runs who) (.readCheck timed) (.readWait timed)
  | letsIn (timed : Bool) (h : s.loaded = true) :
      Follows s who (.runs who) (.readWait timed) .readSnapshot
  | marksStop (timed : Bool) (h : s.phase.isFinal = false) :
      Follows s who (.runs who) (.stopMark timed) (.stopSignal timed s.started)
  | signals (timed joins : Bool) :
      Follows s who (.runs who) (.stopSignal timed joins) (.stopWake timed joins)
  | wakesLoop (timed joins : Bool) :
      Follows s who (.runs who) (.stopWake timed joins) (.stopOpenGate timed joins)
  | letsAllIn (timed joins : Bool) :
      Follows s who (.runs who) (.stopOpenGate timed joins) (.stopJoin timed joins)
  | joins (timed joins : Bool) (h : joins = false ∨ who = .loop ∨ s.loopEnded = true) :
      Follows s who (.runs who) (.stopJoin timed joins) .stopClear
  | givesUp (joins : Bool) : Follows s who (.timesOut who) (.stopJoin true joins) .stopClear
  | unwakes : Follows s who (.runs who) .stopClear .stopFinish
  | stops : Follows s who (.runs who) .stopFinish .stopNote

/-- What a turn at a frame ends an operation with. -/
inductive Ends (s : State) (who : Who) : Action → Frame → Result → Prop where
  | refusesStart : Ends s who (.runs who) .start (.refused (cannotStart s.phase))
  | releases (ok : Bool) : Ends s who (.runs who) (.release ok) (.refreshed ok)
  | reloadsNothing : Ends s who (.runs who) .reloadCheck .done
  | reloads : Ends s who (.runs who) .reloadWake .done
  | refusesRead (timed : Bool) (hp : s.phase = .uninitialized) (hs : s.started = false) :
      Ends s who (.runs who) (.readCheck timed) (.refused notStarted)
  | reads : Ends s who (.runs who) .readSnapshot (.read s.snapshot)
  | expires : Ends s who (.timesOut who) (.readWait true) (.read .empty)
  | stopsNothing (timed : Bool) : Ends s who (.runs who) (.stopMark timed) .done
  | stops : Ends s who (.runs who) .stopNote .done
  | closes : Ends s who (.runs who) .closeService .done

section

variable {s : State} {who : Who} {f g : Frame} {a : Action} {m : Move} {r : Result}

theorem eq_of_mem_next {μ : Move} {g' : Frame} (h : some μ = some m) (hμ : μ.next = [g'])
    (hg : g ∈ m.next) : g' = g := by
  obtain rfl := Option.some.inj h
  rw [hμ, List.mem_singleton] at hg
  exact hg.symm

theorem not_mem_next {μ : Move} (h : some μ = some m) (hμ : μ.next = []) : g ∉ m.next := by
  obtain rfl := Option.some.inj h
  simp [hμ]

theorem Frame.follows_of_move? (h : f.move? s who = some m) (hg : g ∈ m.next) :
    Follows s who (.runs who) f g := by
  cases f with
  | fetching | report _ => cases h
  | release _ | reloadWake | readSnapshot | stopNote | closeService =>
      exact absurd hg (not_mem_next h rfl)
  | markLoading | fetch | publish _ | markReady _ | openGate _ | noteRefreshed _ | noteSinkRaised _
  | chooseRest | settle _ | loopClear | stopSignal _ _ | stopWake _ _ | stopOpenGate _ _ | stopClear
  | stopFinish =>
      obtain rfl := eq_of_mem_next h rfl hg
      constructor
  | start =>
      simp only [Frame.move?] at h
      split at h <;> exact absurd hg (not_mem_next h rfl)
  | acquire =>
      simp only [Frame.move?] at h
      split at h
      · obtain rfl := eq_of_mem_next h rfl hg
        exact .acquires
      · cases h
  | checkStopping =>
      obtain rfl := Option.some.inj h
      cases hs : s.stopping <;> simp [hs] at hg <;> subst hg
      · exact .proceeds hs
      · exact .refuses hs
  | loopCheck =>
      obtain rfl := Option.some.inj h
      cases hs : s.stopping <;> simp [hs] at hg
      subst hg
      exact .loops hs
  | loopRecheck =>
      obtain rfl := Option.some.inj h
      cases hs : s.stopping <;> simp [hs] at hg
      rcases hg with rfl | rfl
      · exact .refreshes hs
      · exact .waits hs
  | loopWait =>
      simp only [Frame.move?] at h
      split at h
      · rename_i hw
        obtain rfl := eq_of_mem_next h rfl hg
        exact .skips hw
      · rename_i hw
        split at h
        · obtain rfl := eq_of_mem_next h rfl hg
          exact .parks (Bool.eq_false_iff.mpr hw)
        · exact absurd hg (not_mem_next h rfl)
  | loopParked =>
      simp only [Frame.move?] at h
      split at h
      · rename_i hw
        obtain rfl := eq_of_mem_next h rfl hg
        exact .wakes hw
      · cases h
  | reloadCheck =>
      simp only [Frame.move?] at h
      split at h
      · exact absurd hg (not_mem_next h rfl)
      · obtain rfl := eq_of_mem_next h rfl hg
        exact .reloads
  | readCheck timed =>
      simp only [Frame.move?] at h
      split at h
      · exact absurd hg (not_mem_next h rfl)
      · obtain rfl := eq_of_mem_next h rfl hg
        exact .enters timed
  | readWait timed =>
      simp only [Frame.move?] at h
      split at h
      · rename_i hl
        obtain rfl := eq_of_mem_next h rfl hg
        exact .letsIn timed hl
      · cases h
  | stopMark timed =>
      simp only [Frame.move?] at h
      split at h
      · exact absurd hg (not_mem_next h rfl)
      · rename_i hf
        obtain rfl := eq_of_mem_next h rfl hg
        exact .marksStop timed (Bool.eq_false_iff.mpr hf)
  | stopJoin timed joins =>
      simp only [Frame.move?] at h
      split at h
      · rename_i hj
        obtain rfl := eq_of_mem_next h rfl hg
        exact .joins timed joins (by simpa [or_assoc] using hj)
      · cases h

theorem Frame.follows_of_timeOut? (h : f.timeOut? s = some m) (hg : g ∈ m.next) :
    Follows s who (.timesOut who) f g := by
  cases f with
  | loopParked =>
      obtain rfl := eq_of_mem_next h rfl hg
      exact .elapses
  | readWait timed =>
      cases timed with
      | false => cases h
      | true => exact absurd hg (not_mem_next h rfl)
  | stopJoin timed joins =>
      cases timed with
      | false => cases h
      | true =>
          obtain rfl := eq_of_mem_next h rfl hg
          exact .givesUp joins
  | _ => cases h

/-- **The cases of what follows in a turn.** -/
theorem Turn.follows (h : Turn s who f a m) (hg : g ∈ m.next) : Follows s who a f g := by
  cases h with
  | runs h hs => exact Frame.follows_of_move? h hg
  | answers outcome h =>
      subst h
      cases outcome <;> (rw [State.answerFrames, List.mem_singleton] at hg; subst hg; constructor)
  | sinks e behaviour h =>
      subst h
      cases behaviour with
      | returns =>
          rw [SinkBehaviour.frames, List.mem_singleton] at hg
          exact hg ▸ .sinkReturns e .returns
      | raises =>
          rw [SinkBehaviour.frames, List.mem_singleton] at hg
          exact hg ▸ .sinkRaises e .raises
      | stops timed failing =>
          simp only [SinkBehaviour.frames, List.mem_cons, List.not_mem_nil, or_false] at hg
          rcases hg with rfl | rfl
          · exact .sinkStops e timed failing
          · cases failing with
            | false => exact .sinkReturns e (.stops timed false)
            | true => exact .sinkRaises e (.stops timed true)
  | timesOut h => exact Frame.follows_of_timeOut? h hg

theorem eq_of_result {μ : Move} {r' : Result} (h : some μ = some m) (hμ : μ.result = some r')
    (hr : m.result = some r) : r' = r := by
  obtain rfl := Option.some.inj h
  exact Option.some.inj (hμ.symm.trans hr)

theorem not_result {μ : Move} (h : some μ = some m) (hμ : μ.result = none) : m.result ≠ some r := by
  obtain rfl := Option.some.inj h
  simp [hμ]

/-- **The cases of what a turn ends with.** -/
theorem Turn.ends (h : Turn s who f a m) (hr : m.result = some r) : Ends s who a f r := by
  cases h with
  | runs h hs =>
      cases f with
      | release _ | reloadWake | readSnapshot | stopNote | closeService =>
          obtain rfl := eq_of_result h rfl hr
          constructor
      | start =>
          simp only [Frame.move?] at h
          split at h
          · obtain rfl := eq_of_result h rfl hr
            exact .refusesStart
          · rename_i hc
            exact absurd (by simpa [State.canStart] using hc) (hs rfl)
      | reloadCheck | stopMark _ =>
          simp only [Frame.move?] at h
          split at h
          · obtain rfl := eq_of_result h rfl hr
            constructor
          · exact absurd hr (not_result h rfl)
      | readCheck timed =>
          simp only [Frame.move?] at h
          split at h
          · rename_i hc
            obtain rfl := eq_of_result h rfl hr
            simp only [Bool.and_eq_true, decide_eq_true_eq, Bool.not_eq_true'] at hc
            exact .refusesRead timed hc.1 hc.2
          · exact absurd hr (not_result h rfl)
      | acquire | loopWait | loopParked | readWait _ | stopJoin _ _ =>
          simp only [Frame.move?] at h
          repeat' split at h
          all_goals first | exact absurd hr (not_result h rfl) | cases h
      | fetching | report _ => cases h
      | _ => exact absurd hr (not_result h rfl)
  | answers outcome h | sinks e behaviour h => cases hr
  | timesOut h =>
      cases f with
      | loopParked => exact absurd hr (not_result h rfl)
      | readWait timed =>
          cases timed with
          | false => cases h
          | true => obtain rfl := eq_of_result h rfl hr; exact .expires
      | stopJoin timed joins =>
          cases timed with
          | false => cases h
          | true => exact absurd hr (not_result h rfl)
      | _ => cases h

/-- A refresh returns when it gives the lock back. -/
theorem State.release_of_refreshed {ok : Bool} (h : s.step? a = some m)
    (hr : m.result = some (.refreshed ok)) :
    ∃ who rest, a = .runs who ∧ s.pending who = .release ok :: rest ∧
      m.state = { s with refresher := none }.setPending who rest := by
  rcases step?_cases h with ⟨_, _, _, _, rfl⟩ | ⟨_, _, _, _, _, rfl⟩ |
    ⟨who, f, rest, μ, hp, ht, rfl⟩
  · cases hr
  · cases hr
  · cases ht.ends hr with
    | releases ok =>
        refine ⟨who, rest, rfl, hp, ?_⟩
        cases ht with
        | runs hm _ =>
            obtain rfl := Option.some.inj hm
            rfl

end

/-! ## Stacks -/

/-- What lies below a refresh on the stack of a thread. -/
def base : Who → List Frame
  | .loop => [.loopWait]
  | .caller _ => []

/-- The stacks that threads have. -/
inductive Layout (who : Who) : List Frame → Prop where
  | idle : Layout who []
  | loop {f : Frame} (hw : who = .loop) (hf : f.family = .loop) : Layout who [f]
  | call {f : Frame} (hw : who ≠ .loop) (hf : f.family = .call) : Layout who [f]
  | refresh {f : Frame} (hf : f.family = .refresh) : Layout who (f :: base who)
  /-- The error sink, which stops the poller, is called within a refresh. -/
  | sink {f g : Frame} (hf : f.family = .stop) (hg : g.isAfterSink) : Layout who (f :: g :: base who)
  | stop {f : Frame} {rest : List Frame} (hw : who ≠ .loop) (hf : f.family = .stop)
      (hr : rest = [] ∨ rest = [.closeService]) : Layout who (f :: rest)

namespace Layout

variable {s : State} {who : Who} {f g : Frame} {a : Action} {m : Move} {rest : List Frame}

theorem ofBase (who : Who) : Layout who (base who) := by
  cases who with
  | loop => exact .loop rfl rfl
  | caller n => exact .idle

theorem ofOperation (n : Nat) (op : Operation) : Layout (.caller n) op.frames := by
  cases op with
  | start | reload | read timed => exact .call (by simp) rfl
  | refresh => exact .refresh rfl
  | stop timed => exact .stop (by simp) rfl (.inl rfl)
  | stopAndClose => exact .stop (by simp) rfl (.inr rfl)

/-- A call that neither refreshes nor stops the poller is all that its thread has to do. -/
theorem call_alone (h : Layout who (f :: rest)) (hf : f.family = .call) : who ≠ .loop ∧ rest = [] := by
  cases h with
  | call hw _ => exact ⟨hw, rfl⟩
  | loop _ hf' | refresh hf' | sink hf' _ | stop _ hf' _ => simp [hf] at hf'

/-- What can lie below the topmost frame. -/
theorem below (h : Layout who (f :: rest)) (hg : g ∈ rest) :
    (g = .loopWait ∧ f.family ≠ .loop) ∨ g = .closeService ∨ (f.family = .stop ∧ g.isAfterSink) := by
  cases h with
  | loop hw hf => simp at hg
  | call hw hf => simp at hg
  | refresh hf =>
      cases who with
      | loop => simp only [base, List.mem_singleton] at hg; exact .inl ⟨hg, by simp [hf]⟩
      | caller n => simp [base] at hg
  | @sink _ g' hf hg' =>
      rcases List.mem_cons.mp hg with rfl | hg
      · exact .inr (.inr ⟨hf, hg'⟩)
      · cases who with
        | loop => simp only [base, List.mem_singleton] at hg; exact .inl ⟨hg, by simp [hf]⟩
        | caller n => simp [base] at hg
  | stop hw hf hr =>
      rcases hr with rfl | rfl
      · simp at hg
      · exact .inr (.inl (by simpa using hg))

/-- Only the loop's own thread runs the loop. -/
theorem family_ne_loop {n : Nat} (h : Layout (.caller n) rest) (hg : g ∈ rest) : g.family ≠ .loop := by
  cases h with
  | idle => simp at hg
  | loop hw _ => cases hw
  | call _ hf | refresh hf =>
      simp only [base, List.mem_singleton] at hg
      simp [hg, hf]
  | sink hf hg' =>
      simp only [base, List.mem_cons, List.not_mem_nil, or_false] at hg
      rcases hg with rfl | rfl
      · simp [hf]
      · simp [Frame.family_of_holdsLock (Frame.holdsLock_of_isAfterSink hg')]
  | stop _ hf hr =>
      rcases hr with rfl | rfl <;> simp only [List.mem_cons, List.not_mem_nil, or_false] at hg
      · simp [hg, hf]
      · rcases hg with rfl | rfl
        · simp [hf]
        · simp [Frame.family]

/-- **A turn keeps the layout.** -/
theorem turn (hl : Layout who (f :: rest)) (h : Turn s who f a m) : Layout who (m.next ++ rest) := by
  rcases h.next_family with ⟨hn, _⟩ | ⟨g, hn, hg, _⟩ | ⟨rfl, hn⟩ | ⟨e, timed, failing, rfl, hn⟩ <;>
    rw [hn]
  · cases hl with
    | loop | call => exact .idle
    | refresh hf => exact ofBase who
    | sink hf hg => exact .refresh (Frame.family_of_holdsLock (Frame.holdsLock_of_isAfterSink hg))
    | stop hw hf hr =>
        rcases hr with rfl | rfl
        · exact .idle
        · exact .call hw rfl
  · cases hl with
    | loop hw hf => exact .loop hw (hg.trans hf)
    | call hw hf => exact .call hw (hg.trans hf)
    | refresh hf => exact .refresh (hg.trans hf)
    | sink hf hg' => exact .sink (hg.trans hf) hg'
    | stop hw hf hr => exact .stop hw (hg.trans hf) hr
  · cases hl with
    | loop hw hf => subst hw; exact .refresh rfl
    | call _ hf | refresh hf | sink hf _ | stop _ hf _ => simp [Frame.family] at hf
  · cases hl with
    | refresh hf => exact .sink rfl (isAfterSink_afterSink e failing)
    | loop _ hf | call _ hf | sink hf _ | stop _ hf _ => simp [Frame.family] at hf

end Layout

/-! ## Runs -/

/-- What every step keeps, every run keeps, whatever it is that takes the steps. -/
theorem foldlM_keeps {σ α : Type} {step? : σ → α → Option σ} {P : σ → Prop} {s t : σ} {as : List α}
    (hstep : ∀ s, ∀ a ∈ as, ∀ t, P s → step? s a = some t → P t) (hs : P s)
    (h : as.foldlM step? s = some t) : P t := by
  induction as generalizing s with
  | nil => exact Option.some.inj h ▸ hs
  | cons a rest ih =>
      rw [List.foldlM_cons, Option.bind_eq_bind, Option.bind_eq_some_iff] at h
      obtain ⟨u, hu, hr⟩ := h
      exact ih (fun s b hb => hstep s b (List.mem_cons_of_mem a hb))
        (hstep s a List.mem_cons_self u hs hu) hr

/-- A caller begins an operation and takes the first steps of it. -/
def calls (n : Nat) (op : Operation) (steps : Nat) : List Action :=
  .begins n op :: List.replicate steps (.runs (.caller n))

/-- A caller starts the poller, and the loop comes to its first listing. -/
def startUp : List Action := calls 0 .start 1 ++ List.replicate 7 (.runs .loop)

/-- A flag to be published. -/
def beta : Flag := { key := "beta" }

namespace State

variable {s t u : State} {actions more : List Action} {a : Action} {m : Move} {who : Who} {f : Frame}
  {rest : List Frame}

theorem step?_runs (hp : s.pending who = f :: rest) :
    s.step? (.runs who) = (f.move? s who).map (apply who rest) := by
  simp [step?, hp]

theorem run?_cons_eq_some :
    s.run? (a :: actions) = some t ↔ ∃ m, s.step? a = some m ∧ m.state.run? actions = some t := by
  simp [run?, Option.bind_eq_some_iff]

theorem run?_append (h : s.run? actions = some t) : s.run? (actions ++ more) = t.run? more := by
  induction actions generalizing s with
  | nil => simp only [run?, Option.some.injEq] at h; rw [h]; rfl
  | cons a rest ih =>
      obtain ⟨m, hm, hr⟩ := run?_cons_eq_some.mp h
      simp only [List.cons_append, run?, hm, Option.bind_some]
      exact ih hr

/-- What every step keeps, every run keeps. -/
theorem run?_keeps {P : State → Prop} (hstep : ∀ s a m, P s → s.step? a = some m → P m.state)
    (hs : P s) (h : s.run? actions = some t) : P t := by
  induction actions generalizing s with
  | nil => simp only [run?, Option.some.injEq] at h; exact h ▸ hs
  | cons a rest ih =>
      obtain ⟨m, hm, hr⟩ := run?_cons_eq_some.mp h
      exact ih (hstep s a m hs hm) hr

/-- What every step keeps that is not a breach, a run keeps, or there is a breach in it. -/
theorem run?_keeps_unless {P : State → Prop} {B : State → Action → Prop}
    (hstep : ∀ s a m, P s → ¬ B s a → s.step? a = some m → P m.state)
    (hs : P s) (h : s.run? actions = some t) :
    P t ∨ ∃ before a after u, actions = before ++ a :: after ∧ s.run? before = some u ∧ B u a := by
  induction actions generalizing s with
  | nil => simp only [run?, Option.some.injEq] at h; exact .inl (h ▸ hs)
  | cons a rest ih =>
      obtain ⟨m, hm, hr⟩ := run?_cons_eq_some.mp h
      -- the first breach, if there is one, splits the run
      by_cases hb : B s a
      · exact .inr ⟨[], a, rest, s, rfl, rfl, hb⟩
      · rcases ih (hstep s a m hs hb hm) hr with ht | ⟨before, b, after, u, hsplit, hu, hbu⟩
        · exact .inl ht
        · refine .inr ⟨a :: before, b, after, u, by rw [hsplit]; rfl, ?_, hbu⟩
          exact run?_cons_eq_some.mpr ⟨m, hm, hu⟩

end State

/-- Whether an action is an answer of the service. -/
def Action.isAnswer : Action → Bool
  | .answers .. => true
  | _ => false

namespace State

/-- A run in which the service answers nobody leads to such a state. -/
def Leads (s : State) (P : State → Prop) : Prop :=
  ∃ actions t, s.run? actions = some t ∧ (∀ a ∈ actions, a.isAnswer = false) ∧ P t

variable {s : State} {a : Action} {m μ : Move} {who : Who} {f : Frame} {rest : List Frame}
  {P Q : State → Prop}

theorem Leads.refl (h : P s) : s.Leads P := ⟨[], s, rfl, by simp, h⟩

theorem Leads.of_step? (h : m.state.Leads P) (hs : s.step? a = some m) (ha : a.isAnswer = false) :
    s.Leads P := by
  obtain ⟨actions, t, hr, hn, ht⟩ := h
  exact ⟨a :: actions, t, run?_cons_eq_some.mpr ⟨m, hs, hr⟩, by simpa [ha] using hn, ht⟩

theorem Leads.of_runs (hp : s.pending who = f :: rest) (hm : f.move? s who = some μ)
    (h : (apply who rest μ).state.Leads P) : s.Leads P :=
  h.of_step? (by rw [step?_runs hp, hm]; rfl) rfl

theorem Leads.trans (h : s.Leads Q) (hq : ∀ t, Q t → t.Leads P) : s.Leads P := by
  obtain ⟨before, t, hr, hn, ht⟩ := h
  obtain ⟨after, u, hr', hn', hu⟩ := hq t ht
  refine ⟨before ++ after, u, (run?_append hr).trans hr', fun a ha => ?_, hu⟩
  rcases List.mem_append.mp ha with h | h
  · exact hn a h
  · exact hn' a h

theorem Leads.mono (h : s.Leads Q) (hq : ∀ t, Q t → P t) : s.Leads P :=
  h.trans fun t ht => .refl (hq t ht)

end State

end Poller

end FeatureFlags
