import FeatureFlags.Proofs.Poller.Reading

/-!
# `Proofs.Poller.Lifecycle` — what the phase of a poller says

A refresh that has the lock enters the loading phase and leaves it again, for the phase that a poller
rests in: ready once a list has been published, uninitialized before.  Only a stop can interfere, and
what it enters is final.  `Phased` ties the phase to the frames of the threads; every step keeps it.

`run_has_lifecycle` collects, for every run, what a caller who looks at a poller may conclude.

## Contents

1. The frames of the loading phase
2. The phase and the frames
3. Launches of the loop
4. The lifecycle of a poller
-/

namespace FeatureFlags

namespace Poller

/-! ## The frames of the loading phase -/

namespace Frame

/-- The frames of a refresh between the one that enters the loading phase and the one that leaves it,
which is among them. -/
def loads : Frame → Bool
  | .fetch | .fetching | .publish _ | .markReady _ | .report _ | .noteSinkRaised _ | .chooseRest
  | .settle _ => true
  | _ => false

/-- The phase that a refresh enters at a frame. -/
def enters? : Frame → Option Phase
  | .markLoading => some .loading
  | .markReady _ => some .ready
  | .settle phase => some phase
  | _ => none

theorem holdsLock_of_loads {f : Frame} (h : f.loads) : f.holdsLock := by
  cases f <;> first | rfl | cases h

theorem loads_of_isAfterSink {f : Frame} (h : f.isAfterSink) : f.loads := by
  cases f <;> first | rfl | cases h

theorem holdsLock_of_enters? {f : Frame} {phase : Phase} (h : f.enters? = some phase) :
    f.holdsLock := by
  cases f <;> first | rfl | cases h

theorem not_loads_of_mem_frames {f : Frame} {op : Operation} (hf : f ∈ op.frames) : ¬ f.loads := by
  cases op <;> simp only [Operation.frames, List.mem_cons, List.not_mem_nil, or_false] at hf <;>
    rcases hf with rfl | rfl <;> simp [loads]

end Frame

namespace State

/-- The phase that a poller is in while nobody refreshes or stops it. -/
def restPhase (s : State) : Phase := if s.loadedOnce then .ready else .uninitialized

theorem restPhase_ne_loading (s : State) : s.restPhase ≠ .loading := by
  unfold restPhase
  split <;> simp

theorem enter_of_isFinal {s : State} {phase : Phase} (h : s.phase.isFinal) : s.enter phase = s := by
  simp [enter, h]

theorem enter_of_not_isFinal {s : State} {phase : Phase} (h : s.phase.isFinal = false) :
    s.enter phase = { s with phase } := by
  simp [enter, h]

end State

section

variable {s : State} {who w : Who} {f g : Frame} {a : Action} {m : Move} {rest : List Frame}
  {phase : Phase}

/-- A turn at a frame that enters a phase does nothing else. -/
theorem Turn.enters (h : Turn s who f a m) (hf : f.enters? = some phase) :
    m.state = s.enter phase := by
  cases h with
  | runs h hs => cases f <;> cases hf <;> cases h <;> rfl
  | answers outcome h | sinks e behaviour h => subst h; cases hf
  | timesOut h => cases f <;> cases hf <;> cases h

/-- Elsewhere the phase is left alone, except by a stop. -/
theorem Effect.phase_eq_or_isFinal {t : State} (he : Effect s who f t) (hf : f.enters? = none) :
    t.phase = s.phase ∨ t.phase.isFinal := by
  rcases he.phase with h | ⟨_, h⟩ | ⟨_, ⟨_, _, h⟩ | ⟨rfl, _⟩ | ⟨_, rfl, _⟩ | hs⟩
  · exact .inl h
  · exact .inr (by rw [h]; rfl)
  · exact .inr (by rw [h]; rfl)
  · cases hf
  · cases hf
  · rw [hs] at hf
    cases hf

/-- The loading phase goes on with a turn, unless the turn leaves it. -/
theorem Turn.next_loads (h : Turn s who f a m) (hf : f.loads) (hn : f.enters? = none) :
    ∃ g ∈ m.next, g.loads := by
  have hfam : f.family = .refresh := Frame.family_of_holdsLock (Frame.holdsLock_of_loads hf)
  rcases h.next_family with ⟨_, hr⟩ | ⟨g, hm, hg, _⟩ | ⟨rfl, _⟩ | ⟨e, timed, failing, _, hm⟩
  · obtain ⟨ok, rfl⟩ := hr hfam
    cases hf
  · have hgm : g ∈ m.next := by simp [hm]
    refine ⟨g, hgm, ?_⟩
    cases h.follows hgm <;> simp_all [Frame.loads, Frame.enters?, Frame.family]
  · cases hf
  · exact ⟨afterSink e failing, by simp [hm],
      Frame.loads_of_isAfterSink (isAfterSink_afterSink e failing)⟩

/-- A turn comes into the loading phase, or was in it and does not leave it. -/
theorem Turn.of_next_loads (h : Turn s who f a m) (hg : g ∈ m.next) (hgl : g.loads) :
    f.enters? = some .loading ∨ (f.loads ∧ f.enters? = none) := by
  cases h.follows hg <;> first | exact .inl rfl | exact .inr ⟨rfl, rfl⟩ | cases hgl

/-- After a turn of the thread that has the lock, frames that need the lock follow in that turn. -/
theorem Invariant.next_of_holdsLock (hi : Invariant s) (hp : s.pending who = f :: rest)
    (ht : Turn s who f a m) (hf : f.holdsLock) (hg : g ∈ (State.apply who rest m).state.pending w)
    (hgl : g.holdsLock) : w = who ∧ g ∈ m.next := by
  rcases mem_pending_apply.mp hg with ⟨rfl, hn | hr⟩ | ⟨hw, hg⟩
  · exact ⟨rfl, hn⟩
  · have hfam := Frame.family_of_holdsLock hf
    rcases (hp ▸ hi.layout w : Layout w (f :: rest)).below hr with ⟨rfl, _⟩ | rfl | ⟨hs, _⟩
    · cases hgl
    · cases hgl
    · simp [hfam] at hs
  · rw [ht.effect.pending] at hg
    exact absurd (hi.refresher_unique hg (by simp [hp]) hgl hf) hw

/-! ## The phase and the frames -/

/-- What the phase says about the frames of the threads, and the frames about the phase. -/
structure Phased (s : State) : Prop where
  /-- The loading phase is that of a refresh. -/
  loading : s.phase = .loading → ∃ w, ∃ f ∈ s.pending w, f.loads
  loads : ∀ w, ∀ f ∈ s.pending w, f.loads → s.phase = .loading ∨ s.phase.isFinal
  rest : s.phase = .loading ∨ s.phase.isFinal ∨ s.phase = s.restPhase

theorem phased_new (interval : Binary64) : Phased (State.new interval) where
  loading h := by cases h
  loads _ _ hf := by cases hf
  rest := .inr (.inr rfl)

/-- In a final phase nothing is left to show. -/
theorem Phased.of_isFinal (h : s.phase.isFinal) : Phased s where
  loading hl := by simp [hl, Phase.isFinal] at h
  loads _ _ _ _ := .inr h
  rest := .inr (.inl h)

theorem Phased.begin (h : Phased s) {n : Nat} {op : Operation} (hp : s.pending (.caller n) = []) :
    Phased (s.setPending (.caller n) op.frames) := by
  refine ⟨fun hl => ?_, fun w f hf hfl => ?_, h.rest⟩
  · obtain ⟨w, f, hf, hfl⟩ := h.loading hl
    refine ⟨w, f, ?_, hfl⟩
    rw [State.setPending_of_ne]
    · exact hf
    · rintro rfl
      simp [hp] at hf
  · rcases State.mem_setPending.mp hf with ⟨_, hf⟩ | ⟨_, hf⟩
    · exact absurd hfl (Frame.not_loads_of_mem_frames hf)
    · exact h.loads w f hf hfl

theorem Phased.launch (h : Phased s) (hi : Invariant s) (hc : s.canStart)
    (hp : s.pending who = .start :: rest) : Phased (s.launched.setPending who rest) := by
  have hphase : (s.launched.setPending who rest).phase = .uninitialized := hc.2
  refine ⟨fun hl => ?_, fun w f hf hfl => ?_, h.rest⟩
  · rw [hphase] at hl
    cases hl
  · rcases (hi.mem_pending_launched hc hp).mp hf with ⟨_, rfl⟩ | ⟨_, hf⟩
    · cases hfl
    · exact h.loads w f hf hfl

/-- The loading phase begins with a turn. -/
theorem Phased.turn_markLoading (ht : Turn s who .markLoading a m) :
    Phased (State.apply who rest m).state := by
  have hstate : m.state = s.enter .loading := ht.enters rfl
  cases hfinal : s.phase.isFinal with
  | true =>
      rw [State.enter_of_isFinal hfinal] at hstate
      exact .of_isFinal (by simpa [State.apply, hstate] using hfinal)
  | false =>
      rw [State.enter_of_not_isFinal hfinal] at hstate
      have hphase : (State.apply who rest m).state.phase = .loading := by
        simp [State.apply, hstate]
      refine ⟨fun _ => ?_, fun _ _ _ _ => .inl hphase, .inl hphase⟩
      have hnext : .fetch ∈ m.next := by
        cases ht with
        | runs hm _ => cases hm; simp
        | answers _ hm | sinks _ _ hm => cases hm
        | timesOut hm => cases hm
      exact ⟨who, .fetch, mem_pending_apply.mpr (.inl ⟨rfl, .inl hnext⟩), rfl⟩

/-- The loading phase is over with a turn, and the phase that a poller rests in follows. -/
theorem Phased.turn_leaves (hi : Invariant s) (hp : s.pending who = f :: rest)
    (ht : Turn s who f a m) (hf : f.enters? = some phase) (hrest : phase = m.state.restPhase) :
    Phased (State.apply who rest m).state := by
  have hstate := ht.enters hf
  cases hfinal : s.phase.isFinal with
  | true =>
      rw [State.enter_of_isFinal hfinal] at hstate
      exact .of_isFinal (by simpa [State.apply, hstate] using hfinal)
  | false =>
      rw [State.enter_of_not_isFinal hfinal] at hstate
      have hphase : (State.apply who rest m).state.phase = phase := by simp [State.apply, hstate]
      have hne : phase ≠ .loading := by
        rw [hrest]
        exact m.state.restPhase_ne_loading
      refine ⟨fun hl => absurd (hphase.symm.trans hl) hne, fun w g hg hgl => ?_,
        .inr (.inr (hphase.trans hrest))⟩
      -- whoever else would be loading would have the lock
      obtain ⟨_, hn⟩ := hi.next_of_holdsLock hp ht (Frame.holdsLock_of_enters? hf) hg
        (Frame.holdsLock_of_loads hgl)
      rcases ht.of_next_loads hn hgl with h' | ⟨_, h'⟩
      · rw [hf, Option.some.injEq] at h'
        exact absurd h' hne
      · rw [hf] at h'
        cases h'

/-- A turn at a frame that enters a phase. -/
theorem Phased.turn_enters (hi : Invariant s) (hp : s.pending who = f :: rest)
    (ht : Turn s who f a m) (hf : f.enters? = some phase) :
    Phased (State.apply who rest m).state := by
  have hff : f.Fits s who := hi.fits who f (by simp [hp])
  have hlo : m.state.loadedOnce = s.loadedOnce := by
    refine (ht.effect.unpublished ?_).2
    rintro flags rfl
    cases hf
  cases f with
  | markLoading => exact turn_markLoading ht
  | markReady flags =>
      refine turn_leaves hi hp ht rfl ?_
      rw [State.restPhase, hlo, hff.published rfl]
      rfl
  | settle rested =>
      refine turn_leaves hi hp ht rfl ?_
      rw [State.restPhase, hlo]
      exact hff.settles rested rfl
  | _ => cases hf

theorem Phased.turn (h : Phased s) (hi : Invariant s) (hp : s.pending who = f :: rest)
    (ht : Turn s who f a m) : Phased (State.apply who rest m).state := by
  cases hf : f.enters? with
  | some phase => exact turn_enters hi hp ht hf
  | none =>
      have he := ht.effect
      have hmem : f ∈ s.pending who := by simp [hp]
      rcases he.phase_eq_or_isFinal hf with hphase | hfinal
      · have hphase : (State.apply who rest m).state.phase = s.phase := hphase
        refine ⟨fun hl => ?_, fun w g hg hgl => ?_, ?_⟩
        · -- who was loading goes on with it, if it is its turn
          obtain ⟨w, g, hg, hgl⟩ := h.loading (hphase.symm.trans hl)
          by_cases hgf : w = who ∧ g = f
          · obtain ⟨rfl, rfl⟩ := hgf
            obtain ⟨g', hn, hgl'⟩ := ht.next_loads hgl hf
            exact ⟨w, g', mem_pending_apply.mpr (.inl ⟨rfl, .inl hn⟩), hgl'⟩
          · refine ⟨w, g, mem_pending_apply.mpr ?_, hgl⟩
            by_cases hw : w = who
            · subst hw
              rw [hp, List.mem_cons] at hg
              exact .inl ⟨rfl, .inr (hg.resolve_left fun hg' => hgf ⟨rfl, hg'⟩)⟩
            · exact .inr ⟨hw, by rwa [he.pending]⟩
        · rw [hphase]
          rcases ht.mem_pending hp hg with ⟨rfl, hn⟩ | hg
          · rcases ht.of_next_loads hn hgl with h' | ⟨hfl, _⟩
            · rw [hf] at h'
              cases h'
            · exact h.loads w f hmem hfl
          · exact h.loads w g hg hgl
        · rw [hphase]
          by_cases hpub : ∃ flags, f = .publish flags
          · -- a list is published by a refresh that is loading
            obtain ⟨flags, rfl⟩ := hpub
            exact (h.loads who _ hmem rfl).imp_right .inl
          · have hlo : m.state.loadedOnce = s.loadedOnce :=
              (he.unpublished fun flags hfp => hpub ⟨flags, hfp⟩).2
            have hrest : (State.apply who rest m).state.restPhase = s.restPhase := by
              simp [State.apply, State.restPhase, hlo]
            rw [hrest]
            exact h.rest
      · exact .of_isFinal (s := (State.apply who rest m).state) hfinal

/-- **Every step keeps the phase and the frames together.** -/
theorem Phased.step (h : Phased s) (hi : Invariant s) (hs : s.step? a = some m) : Phased m.state := by
  rcases State.step?_cases hs with ⟨n, op, _, hp, rfl⟩ | ⟨who, rest, _, hp, hc, rfl⟩ |
    ⟨who, f, rest, μ, hp, ht, rfl⟩
  · exact h.begin hp
  · exact h.launch hi hc hp
  · exact h.turn hi hp ht

/-- Whoever is loading has the lock. -/
theorem Phased.refresher (h : Phased s) (hi : Invariant s) (hl : s.phase = .loading) :
    ∃ w, s.refresher = some w ∧ ∃ f ∈ s.pending w, f.loads := by
  obtain ⟨w, f, hf, hfl⟩ := h.loading hl
  exact ⟨w, (hi.fits w f hf).lock (Frame.holdsLock_of_loads hfl), f, hf, hfl⟩

end

theorem reachable_phased {interval : Binary64} {s : State} (h : State.Reachable interval s) :
    Invariant s ∧ Phased s := by
  obtain ⟨actions, h⟩ := h
  refine State.run?_keeps (P := fun s => Invariant s ∧ Phased s) ?_
    ⟨invariant_new interval, phased_new interval⟩ h
  rintro s a m ⟨hi, hs⟩ hm
  exact ⟨hi.step hm, hs.step hi hm⟩

/-! ## Launches of the loop -/

namespace State

/-- Whether an action launches the loop. -/
def launches (s : State) : Action → Bool
  | .runs who =>
    match s.pending who with
    | .start :: _ => !s.started && s.phase = .uninitialized
    | _ => false
  | _ => false

/-- How often a sequence of actions launches the loop. -/
def launchCount (s : State) : List Action → Nat
  | [] => 0
  | a :: rest =>
    (s.launches a).toNat + match s.step? a with
      | some m => m.state.launchCount rest
      | none => 0

variable {s t : State} {a : Action} {m : Move} {actions : List Action}

/-- The loop has been started once it has been launched, and not before. -/
theorem launches_step? (h : s.step? a = some m) :
    (s.launches a).toNat + s.started.toNat = m.state.started.toNat := by
  rcases step?_cases h with ⟨n, op, rfl, hp, rfl⟩ | ⟨who, rest, rfl, hp, hc, rfl⟩ |
    ⟨who, f, rest, μ, hp, ht, rfl⟩
  · simp [launches]
  · simp [launches, hp, hc.1, hc.2, launched]
  · have hstarted : (apply who rest μ).state.started = s.started := ht.effect.started
    rw [hstarted]
    cases ht with
    | runs hm hs =>
        cases f with
        | start =>
            have hl : s.launches (.runs who) = false := by
              simpa [launches, hp, canStart] using hs rfl
            simp [hl]
        | _ => simp [launches, hp]
    | answers _ _ | sinks _ _ _ | timesOut _ => simp [launches]

/-- **A run launches the loop at most once.** -/
theorem launchCount_run? (h : s.run? actions = some t) :
    s.launchCount actions + s.started.toNat = t.started.toNat := by
  induction actions generalizing s with
  | nil =>
      simp only [run?, Option.some.injEq] at h
      simp [launchCount, h]
  | cons a rest ih =>
      obtain ⟨m, hm, hr⟩ := run?_cons_eq_some.mp h
      have hstep := launches_step? hm
      have hrest := ih hr
      simp only [launchCount, hm]
      omega

end State

/-! ## The lifecycle of a poller -/

/-- What a poller with its history shows, and what can become of it.  The loop has been launched so
many times. -/
structure Lifecycle (c : Chronicle) (launches : Nat) : Prop where
  oneLoop : launches ≤ 1
  /-- At most one thread waits for the service, and it waits for one answer. -/
  oneFetch : ∀ v w, .fetching ∈ c.state.pending v → .fetching ∈ c.state.pending w → v = w
  fetchAlone : ∀ w, .fetching ∈ c.state.pending w → c.state.pending w = .fetching :: base w
  ready : c.state.phase = .ready → c.published ≠ []
  uninitialized : c.state.phase = .uninitialized → c.published = []
  /-- Loading is done in a refresh that has the lock. -/
  loading : c.state.phase = .loading →
    ∃ w, c.state.refresher = some w ∧ ∃ f ∈ c.state.pending w, f.family = .refresh ∧ f.holdsLock
  gate : c.state.loaded → c.published ≠ [] ∨ c.state.stopping
  stopping : c.state.stopping → c.state.phase = .shuttingDown ∨ c.state.phase = .stopped
  stops : ∀ a m, c.state.step? a = some m → c.state.phase = .shuttingDown →
    m.state.phase = .shuttingDown ∨ m.state.phase = .stopped
  stopped : ∀ a m, c.state.step? a = some m → c.state.phase = .stopped → m.state.phase = .stopped

section

variable {s : State} {who : Who} {f : Frame} {a : Action} {m : Move}

theorem Phase.eq_of_isFinal {phase : Phase} (h : phase.isFinal) :
    phase = .shuttingDown ∨ phase = .stopped := by
  cases phase <;> simp_all [isFinal]

/-- A thread that waits for the service does so in a refresh that was not interrupted. -/
theorem Layout.of_fetching {frames : List Frame} (hl : Layout who frames) (hf : .fetching ∈ frames) :
    frames = .fetching :: base who := by
  cases hl with
  | idle => cases hf
  | loop _ hg | call _ hg =>
      rw [List.mem_singleton] at hf
      subst hf
      cases hg
  | refresh hg =>
      rcases List.mem_cons.mp hf with rfl | hf
      · rfl
      · cases who <;> simp [base] at hf
  | sink hg hg' =>
      rcases List.mem_cons.mp hf with rfl | hf
      · cases hg
      · rcases List.mem_cons.mp hf with rfl | hf
        · cases hg'
        · cases who <;> simp [base] at hf
  | stop _ hg hr =>
      rcases List.mem_cons.mp hf with rfl | hf
      · cases hg
      · rcases hr with rfl | rfl <;> simp at hf

/-- **A final phase can only become more final.** -/
theorem State.step?_isFinal (h : s.step? a = some m) (hs : s.phase.isFinal) :
    (m.state.phase = s.phase ∨ m.state.phase = .stopped) ∧
      (s.phase = .stopped → m.state.phase = .stopped) := by
  rcases step?_cases h with ⟨_, _, _, _, rfl⟩ | ⟨_, _, _, _, hc, rfl⟩ | ⟨who, f, rest, μ, _, ht, rfl⟩
  · exact ⟨.inl rfl, id⟩
  · exact ⟨.inl rfl, id⟩
  · have he := ht.effect
    refine ⟨?_, he.stopped⟩
    by_cases hf : f = .stopFinish
    · exact .inr (he.stopFinished hf)
    · exact .inl (he.phase_eq_of_isFinal hs hf)

end

/-- **Every run of a poller has this lifecycle.** -/
theorem run_has_lifecycle {interval : Binary64} {actions : List Action} {c : Chronicle}
    (h : (Chronicle.new interval).run? actions = some c) :
    Lifecycle c ((State.new interval).launchCount actions) := by
  have hc : c.Sound :=
    Chronicle.run?_keeps (fun _ _ _ hc h => hc.step h) (Chronicle.sound_new interval) h
  have hrun : (State.new interval).run? actions = some c.state := by
    have := Chronicle.run?_state (Chronicle.new interval) actions
    rw [h] at this
    exact this.symm
  obtain ⟨hi, hph⟩ := reachable_phased ⟨actions, hrun⟩
  have hrest (hl : c.state.phase ≠ .loading) (hf : c.state.phase.isFinal = false) :
      c.state.phase = c.state.restPhase :=
    (hph.rest.resolve_left hl).resolve_left (by simp [hf])
  refine ⟨?_, ?_, ?_, ?_, ?_, ?_, ?_, ?_, ?_, ?_⟩
  · -- launches are counted by the flag that the start sets
    have hcount := State.launchCount_run? hrun
    have hle : c.state.started.toNat ≤ 1 := Bool.toNat_le _
    omega
  · intro v w hv hw
    exact hi.refresher_unique hv hw rfl rfl
  · intro w hw
    exact (hi.layout w).of_fetching hw
  · intro hp
    refine hc.loadedOnce.mp ?_
    have := hrest (by simp [hp]) (by simp [hp, Phase.isFinal])
    rw [hp, State.restPhase] at this
    split at this
    · assumption
    · cases this
  · intro hp
    have := hrest (by simp [hp]) (by simp [hp, Phase.isFinal])
    rw [hp, State.restPhase] at this
    split at this
    · cases this
    · rename_i hlo
      exact Classical.not_not.mp fun hne => hlo (hc.loadedOnce.mpr hne)
  · intro hp
    obtain ⟨w, hw, f, hf, hfl⟩ := hph.refresher hi hp
    have hlock := Frame.holdsLock_of_loads hfl
    exact ⟨w, hw, f, hf, Frame.family_of_holdsLock hlock, hlock⟩
  · intro hl
    exact (hi.gate hl).imp_left hc.loadedOnce.mp
  · intro hs
    exact Phase.eq_of_isFinal (hi.stopping hs)
  · intro a m hm hp
    have := (State.step?_isFinal hm (by rw [hp]; rfl)).1
    rwa [hp] at this
  · intro a m hm hp
    exact (State.step?_isFinal hm (by rw [hp]; rfl)).2 hp

/-- A reload is asked for while the loop fetches, and the loop fetches again when a caller stops it with
a timeout. -/
def stoppedReload : List Action :=
  startUp ++ calls 0 .reload 2 ++ .answers .loop (.ok [beta]) :: List.replicate 13 (.runs .loop) ++
    calls 0 (.stop true) 4 ++ .timesOut (.caller 0) :: List.replicate 2 (.runs (.caller 0))

/-- One of these runs: the poller is stopped, and its loop is still fetching. -/
theorem stopped_reload_has_lifecycle :
    ∃ c, (Chronicle.new (.ofInt 30)).run? stoppedReload = some c ∧
      (c.state.phase, c.published, c.state.pending .loop) =
        (.stopped, [[beta]], [.fetching, .loopWait]) ∧ Lifecycle c 1 := by
  obtain ⟨c, hrun, hc⟩ := Option.map_eq_some_iff.mp (show
    ((Chronicle.new (.ofInt 30)).run? stoppedReload).map
      (fun c => (c.state.phase, c.published, c.state.pending .loop)) =
        some (.stopped, [[beta]], [.fetching, .loopWait]) from rfl)
  exact ⟨c, hrun, hc, run_has_lifecycle hrun⟩

end Poller

end FeatureFlags
