import FeatureFlags.Proofs.Poller.Turn

/-!
# `Proofs.Poller.Invariant` — what holds in every state of a poller

The invariant is a proof outline.  `Frame.Fits` says what a thread that has a frame on its stack may
rely on; a turn establishes it for the frames it goes on with, and no step takes it from the frames of
other threads.  `Invariant` adds what holds whatever the threads are doing: who has the lock on
refreshes, that at most one thread performs the stop, and what the events say about the phase.

`reachable_invariant` is the result: every reachable state satisfies the invariant.
-/

namespace FeatureFlags

namespace Poller

/-! ## What a frame relies on -/

namespace Frame

/-- The frames of a refresh that has published a snapshot. -/
def followsPublish : Frame → Bool
  | .markReady _ | .openGate _ | .noteRefreshed _ => true
  | _ => false

/-- The frames of a stop that has set the event that ends the loop. -/
def followsSignal : Frame → Bool
  | .stopWake .. | .stopOpenGate .. | .stopJoin .. | .stopClear | .stopFinish => true
  | _ => false

/-- The frames of a stop that has let readers in. -/
def followsOpening : Frame → Bool
  | .stopJoin .. | .stopClear | .stopFinish => true
  | _ => false

/-- Whether a stop waits for the loop, as it found out when it began. -/
def joins? : Frame → Option Bool
  | .stopSignal _ joins | .stopWake _ joins | .stopOpenGate _ joins | .stopJoin _ joins => some joins
  | _ => none

theorem performsStop_of_joins? {f : Frame} {joins : Bool} (h : f.joins? = some joins) :
    f.performsStop := by
  cases f <;> simp_all [joins?, performsStop, family]

/-- The frames for which a thread relies on nothing. -/
def carefree : Frame → Bool
  | .start | .reloadCheck | .readCheck _ | .closeService | .acquire | .stopMark _ | .loopCheck
  | .loopWait => true
  | _ => false

/-- What a thread with a frame on its stack relies on. -/
structure Fits (s : State) (who : Who) (f : Frame) : Prop where
  lock : f.holdsLock → s.refresher = some who
  published : f.followsPublish → s.loadedOnce
  settles : ∀ phase, f = .settle phase → phase = if s.loadedOnce then .ready else .uninitialized
  letIn : f = .readSnapshot → s.loaded
  stopping : f.performsStop → s.phase = .shuttingDown
  signalled : f.followsSignal → s.stopping
  opened : f.followsOpening → s.loaded
  joins : ∀ joins, f.joins? = some joins → joins = s.started
  noted : f = .stopNote → s.phase = .stopped

theorem fits_of_carefree {s : State} {who : Who} {f : Frame} (h : f.carefree) : f.Fits s who := by
  constructor <;> cases f <;> simp_all [carefree, holdsLock, followsPublish, performsStop,
    followsSignal, followsOpening, joins?, family]

end Frame

/-- What a thread relies on in a state is there in another one. -/
structure Keeps (s t : State) (w : Who) : Prop where
  lock : s.refresher = some w → t.refresher = some w ∧ t.loadedOnce = s.loadedOnce
  loadedOnce : s.loadedOnce → t.loadedOnce
  loaded : s.loaded → t.loaded
  stopping : s.stopping → t.stopping
  performing : (∃ f ∈ s.pending w, f.performsStop) → s.phase = .shuttingDown →
    t.phase = .shuttingDown ∧ t.started = s.started
  stopped : s.phase = .stopped → t.phase = .stopped

theorem Frame.Fits.mono {s t : State} {w : Who} {f : Frame} (h : f.Fits s w) (hf : f ∈ s.pending w)
    (hk : Keeps s t w) : f.Fits t w where
  lock hl := (hk.lock (h.lock hl)).1
  published hp := hk.loadedOnce (h.published hp)
  settles phase hp := by
    rw [(hk.lock (h.lock (by rw [hp]; rfl))).2]
    exact h.settles phase hp
  letIn hr := hk.loaded (h.letIn hr)
  stopping hs := (hk.performing ⟨f, hf, hs⟩ (h.stopping hs)).1
  signalled hs := hk.stopping (h.signalled hs)
  opened ho := hk.loaded (h.opened ho)
  joins joins hj := by
    have hs := Frame.performsStop_of_joins? hj
    rw [(hk.performing ⟨f, hf, hs⟩ (h.stopping hs)).2]
    exact h.joins joins hj
  noted hn := hk.stopped (h.noted hn)

/-- What a thread relies on does not depend on what the threads have still to do. -/
theorem Frame.Fits.setPending {s : State} {who w : Who} {f : Frame} {frames : List Frame}
    (h : f.Fits s w) : f.Fits (s.setPending who frames) w :=
  ⟨h.lock, h.published, h.settles, h.letIn, h.stopping, h.signalled, h.opened, h.joins, h.noted⟩

section

variable {s : State} {who w : Who} {f g : Frame} {a : Action} {m : Move}

/-- Where the frames come from that a turn goes on with. -/
structure Origin (s : State) (f g : Frame) : Prop where
  lock : g.holdsLock → f = .acquire ∨ (f.holdsLock ∧ ∀ ok, f ≠ .release ok)
  published : g.followsPublish → f.followsPublish ∨ ∃ flags, f = .publish flags
  settles : ∀ phase, g = .settle phase →
    f.holdsLock ∧ (∀ flags, f ≠ .publish flags) ∧ phase = if s.loadedOnce then .ready else .uninitialized
  letIn : g = .readSnapshot → s.loaded
  stopping : g.performsStop → (f.performsStop ∧ f ≠ .stopFinish) ∨
    ∃ timed, f = .stopMark timed ∧ s.phase.isFinal = false
  signalled : g.followsSignal → f.followsSignal ∨ ∃ timed joins, f = .stopSignal timed joins
  opened : g.followsOpening → f.followsOpening ∨ ∃ timed joins, f = .stopOpenGate timed joins
  joins : ∀ joins, g.joins? = some joins → f.joins? = some joins ∨ joins = s.started
  noted : g = .stopNote → f = .stopFinish

/-- **Where a turn's frames come from.** -/
theorem Turn.origin (h : Turn s who f a m) (hg : g ∈ m.next) : Origin s f g := by
  cases h.follows hg <;> constructor <;>
    simp_all [Frame.holdsLock, Frame.followsPublish, Frame.performsStop, Frame.followsSignal,
      Frame.followsOpening, Frame.joins?, Frame.family]

/-- The phase changes only as long as it is not final, and at the end of a stop. -/
theorem Effect.phase_eq_of_isFinal {t : State} (he : Effect s who f t) (hs : s.phase.isFinal)
    (hf : f ≠ .stopFinish) : t.phase = s.phase := by
  rcases he.phase with h | ⟨h, _⟩ | ⟨h, _⟩
  · exact h
  · exact absurd h hf
  · simp [hs] at h

/-- **A turn establishes what the frames that follow rely on.** -/
theorem Turn.fits_next (h : Turn s who f a m) (hf : f.Fits s who) (hg : g ∈ m.next) :
    g.Fits m.state who := by
  have he := h.effect
  have ho := h.origin hg
  refine ⟨fun hl => ?_, fun hp => ?_, fun phase hp => ?_, fun hr => ?_, fun hs => ?_, fun hs => ?_,
    fun hs => ?_, fun joins hj => ?_, fun hn => ?_⟩
  · -- the lock has just been taken, or was there and is not given back
    rcases ho.lock hl with rfl | ⟨hfl, hr⟩
    · rcases he.refresher with ⟨_, _, h'⟩ | ⟨⟨_, h'⟩, _⟩ | ⟨h', _⟩
      · exact h'
      · cases h'
      · exact absurd rfl h'
    · rcases he.refresher with ⟨h', _⟩ | ⟨⟨ok, h'⟩, _⟩ | ⟨_, _, h'⟩
      · rw [h'] at hfl; cases hfl
      · exact absurd h' (hr ok)
      · exact h'.trans (hf.lock hfl)
  · exact he.loadedOnce.mpr ((ho.published hp).imp_left hf.published)
  · obtain ⟨_, hnp, hp⟩ := ho.settles phase hp
    have hl : m.state.loadedOnce = s.loadedOnce := by
      rw [Bool.eq_iff_iff, he.loadedOnce]
      exact ⟨fun h => h.resolve_right fun ⟨flags, hf⟩ => hnp flags hf, .inl⟩
    rw [hl]; exact hp
  · exact he.loaded.mpr (.inl (ho.letIn hr))
  · -- the phase is final already, and stays so until the stop is over
    rcases ho.stopping hs with ⟨hp, hn⟩ | ⟨timed, rfl, hn⟩
    · have hsd := hf.stopping hp
      rw [he.phase_eq_of_isFinal (by rw [hsd]; rfl) hn, hsd]
    · rw [he.stopMarked timed rfl, hn]; rfl
  · exact he.stopping.mpr ((ho.signalled hs).imp_left hf.signalled)
  · exact he.loaded.mpr ((ho.opened hs).imp hf.opened .inr)
  · rw [he.started]
    exact (ho.joins joins hj).elim (hf.joins joins) id
  · exact he.stopFinished (ho.noted hn)

end

/-! ## The invariant -/

/-- What holds in every reachable state. -/
structure Invariant (s : State) : Prop where
  layout : ∀ w, Layout w (s.pending w)
  fits : ∀ w, ∀ f ∈ s.pending w, f.Fits s w
  /-- Whoever has the lock on refreshes is in a refresh. -/
  lockHeld : ∀ w, s.refresher = some w → ∃ f ∈ s.pending w, f.holdsLock
  /-- At most one thread performs the stop. -/
  oneStopper : ∀ v w f g, f ∈ s.pending v → g ∈ s.pending w → f.performsStop → g.performsStop → v = w
  stopper : s.phase = .shuttingDown → ∃ w, ∃ f ∈ s.pending w, f.performsStop
  notLaunched : s.started = false → s.pending .loop = []
  stopping : s.stopping → s.phase.isFinal
  stopped : s.phase = .stopped → s.stopping ∧ s.loaded
  /-- Readers are let in once a snapshot has been published or the poller is being stopped. -/
  gate : s.loaded → s.loadedOnce ∨ s.stopping

theorem invariant_new (interval : Binary64) : Invariant (State.new interval) where
  layout _ := .idle
  fits _ _ hf := by cases hf
  lockHeld _ h := by cases h
  oneStopper _ _ _ _ hf := by cases hf
  stopper h := by cases h
  notLaunched _ := rfl
  stopping h := by cases h
  stopped h := by cases h
  gate h := by cases h

section

variable {s : State} {who w : Who} {f g : Frame} {a : Action} {m : Move} {rest : List Frame}

/-- The frames of a state in which a thread has taken a turn. -/
theorem mem_pending_apply : g ∈ (State.apply who rest m).state.pending w ↔
    (w = who ∧ (g ∈ m.next ∨ g ∈ rest)) ∨ (w ≠ who ∧ g ∈ m.state.pending w) := by
  simp only [State.apply, State.mem_setPending, List.mem_append]

/-- A frame that a thread has after a turn follows in the turn, or was there before. -/
theorem Turn.mem_pending (h : Turn s who f a m) (hp : s.pending who = f :: rest)
    (hg : g ∈ (State.apply who rest m).state.pending w) :
    (w = who ∧ g ∈ m.next) ∨ g ∈ s.pending w := by
  rcases mem_pending_apply.mp hg with ⟨rfl, hn | hr⟩ | ⟨_, hg⟩
  · exact .inl ⟨rfl, hn⟩
  · exact .inr (hp ▸ List.mem_cons_of_mem f hr)
  · exact .inr (h.effect.pending ▸ hg)

/-- The thread that holds the lock is the only one with a frame of a refresh that has it. -/
theorem Invariant.refresher_unique (hi : Invariant s) {v : Who} (hf : f ∈ s.pending v)
    (hg : g ∈ s.pending w) (hfl : f.holdsLock) (hgl : g.holdsLock) : v = w := by
  have hv := (hi.fits v f hf).lock hfl
  have hw := (hi.fits w g hg).lock hgl
  exact Option.some.inj (hv.symm.trans hw)

/-- A final phase stays final. -/
theorem Effect.isFinal {t : State} (he : Effect s who f t) (hs : s.phase.isFinal) :
    t.phase.isFinal := by
  by_cases hf : f = .stopFinish
  · rw [he.stopFinished hf]; rfl
  · rw [he.phase_eq_of_isFinal hs hf]; exact hs

/-- A poller that is stopped stays so. -/
theorem Effect.stopped {t : State} (he : Effect s who f t) (hs : s.phase = .stopped) :
    t.phase = .stopped := by
  by_cases hf : f = .stopFinish
  · exact he.stopFinished hf
  · rw [he.phase_eq_of_isFinal (by rw [hs]; rfl) hf, hs]

/-- Only the end of a stop stops the poller. -/
theorem Effect.eq_stopFinish {t : State} (he : Effect s who f t) (hf : f.Fits s who)
    (ht : t.phase = .stopped) : s.phase = .stopped ∨ f = .stopFinish := by
  rcases he.phase with h | ⟨h, _⟩ | ⟨_, ⟨_, _, h⟩ | ⟨_, h⟩ | ⟨_, _, h⟩ | h⟩
  · exact .inl (h.symm.trans ht)
  · exact .inr h
  · simp [ht] at h
  · simp [ht] at h
  · simp [ht] at h
  · have hp := hf.settles _ h
    split at hp <;> simp [ht] at hp

/-- A turn takes nothing from what other threads rely on. -/
theorem Turn.keeps (hi : Invariant s) (hp : s.pending who = f :: rest) (h : Turn s who f a m)
    (hw : w ≠ who) : Keeps s m.state w := by
  have he := h.effect
  have hf : f ∈ s.pending who := by simp [hp]
  refine ⟨fun hl => ?_, fun h => he.loadedOnce.mpr (.inl h), fun h => he.loaded.mpr (.inl h),
    fun h => he.stopping.mpr (.inl h), fun ⟨g, hg, hgs⟩ hs => ⟨?_, he.started⟩, he.stopped⟩
  · -- the thread that takes the turn does not have the lock, and so changes nothing under it
    obtain ⟨g, hg, hgl⟩ := hi.lockHeld w hl
    have hnl : ¬ f.holdsLock := fun hfl => hw (hi.refresher_unique hg hf hgl hfl)
    refine ⟨?_, ?_⟩
    · rcases he.refresher with ⟨_, h', _⟩ | ⟨⟨ok, rfl⟩, _⟩ | ⟨_, _, h'⟩
      · rw [hl] at h'; cases h'
      · exact absurd rfl hnl
      · exact h'.trans hl
    · rw [Bool.eq_iff_iff, he.loadedOnce]
      refine ⟨fun h => h.resolve_right ?_, .inl⟩
      rintro ⟨flags, rfl⟩
      exact hnl rfl
  · rw [he.phase_eq_of_isFinal (by rw [hs]; rfl) ?_, hs]
    rintro rfl
    exact hw (hi.oneStopper w who g .stopFinish hg hf hgs rfl)

/-- A thread relies on nothing for the frames that an operation begins with. -/
theorem Frame.fits_of_mem_frames {op : Operation} (hf : f ∈ op.frames) : f.Fits s w := by
  cases op <;> simp only [Operation.frames, List.mem_cons, List.not_mem_nil, or_false] at hf <;>
    rcases hf with rfl | rfl <;> exact Frame.fits_of_carefree rfl

theorem Frame.not_performsStop_of_mem_frames {op : Operation} (hf : f ∈ op.frames) :
    ¬ f.performsStop := by
  cases op <;> simp only [Operation.frames, List.mem_cons, List.not_mem_nil, or_false] at hf <;>
    rcases hf with rfl | rfl <;> simp [Frame.performsStop, Frame.family]

/-- Nobody performs a stop that he has just begun. -/
theorem Frame.mem_pending_of_begin {n : Nat} {op : Operation}
    (hf : f ∈ (s.setPending (.caller n) op.frames).pending w) (hfs : f.performsStop) :
    f ∈ s.pending w := by
  rcases State.mem_setPending.mp hf with ⟨_, hf⟩ | ⟨_, hf⟩
  · exact absurd hfs (Frame.not_performsStop_of_mem_frames hf)
  · exact hf

theorem Frame.fits_of_isAfterSink (hg : g.isAfterSink) (hl : s.refresher = some w) :
    g.Fits s w := by
  constructor <;> cases g <;> simp_all [isAfterSink, followsPublish, performsStop, followsSignal,
    followsOpening, joins?, family]

/-- What a thread relies on for the frames below the one at which it takes a turn. -/
theorem Turn.fits_below (hi : Invariant s) (hp : s.pending who = f :: rest)
    (h : Turn s who f a m) (hg : g ∈ rest) : g.Fits m.state who := by
  have hgf : g.Fits s who := hi.fits who g (by simp [hp, hg])
  rcases (hp ▸ hi.layout who : Layout who (f :: rest)).below hg with ⟨rfl, _⟩ | rfl | ⟨hfs, hga⟩
  · exact Frame.fits_of_carefree rfl
  · exact Frame.fits_of_carefree rfl
  · have hr : m.state.refresher = s.refresher := by
      rcases h.effect.refresher with ⟨rfl, _⟩ | ⟨⟨ok, rfl⟩, _⟩ | ⟨_, _, h'⟩
      · cases hfs
      · cases hfs
      · exact h'
    exact Frame.fits_of_isAfterSink hga
      (hr.trans (hgf.lock (Frame.holdsLock_of_isAfterSink hga)))

/-- No frame below another one performs the stop. -/
theorem Layout.not_performsStop_below (hl : Layout who (f :: rest)) (hg : g ∈ rest) :
    ¬ g.performsStop := by
  rcases hl.below hg with ⟨rfl, _⟩ | rfl | ⟨_, hga⟩
  · simp [Frame.performsStop, Frame.family]
  · simp [Frame.performsStop, Frame.family]
  · intro hs
    have hr := Frame.family_of_holdsLock (Frame.holdsLock_of_isAfterSink hga)
    rw [Frame.family_of_performsStop hs] at hr
    cases hr

/-! ## Every step keeps the invariant -/

theorem Invariant.begin (hi : Invariant s) {n : Nat} (hp : s.pending (.caller n) = [])
    (op : Operation) : Invariant (s.setPending (.caller n) op.frames) := by
  have new {w : Who} {f : Frame} (hf : f ∈ s.pending w) :
      f ∈ (s.setPending (.caller n) op.frames).pending w := by
    rwa [State.setPending_of_ne (by rintro rfl; simp [hp] at hf)]
  refine ⟨fun w => ?_, fun w f hf => ?_, fun w hw => ?_, fun v w f g hf hg hfs hgs => ?_,
    fun hs => ?_, fun hs => ?_, hi.stopping, hi.stopped, hi.gate⟩
  · by_cases hw : w = .caller n
    · subst hw; rw [State.setPending_self]; exact .ofOperation n op
    · rw [State.setPending_of_ne hw]; exact hi.layout w
  · rcases State.mem_setPending.mp hf with ⟨_, hn⟩ | ⟨_, hf'⟩
    · exact Frame.fits_of_mem_frames hn
    · exact (hi.fits w f hf').mono hf' ⟨fun h => ⟨h, rfl⟩, id, id, id, fun _ h => ⟨h, rfl⟩, id⟩
  · obtain ⟨f, hf, hl⟩ := hi.lockHeld w hw
    exact ⟨f, new hf, hl⟩
  · exact hi.oneStopper v w f g (f.mem_pending_of_begin hf hfs) (g.mem_pending_of_begin hg hgs) hfs hgs
  · obtain ⟨w, f, hf, hfs⟩ := hi.stopper hs
    exact ⟨w, f, new hf, hfs⟩
  · rw [State.setPending_of_ne (by simp)]; exact hi.notLaunched hs

/-- The frames of a state in which the loop has been launched. -/
theorem Invariant.mem_pending_launched (hi : Invariant s) (hc : s.canStart)
    (hp : s.pending who = .start :: rest) :
    g ∈ (s.launched.setPending who rest).pending w ↔
      (w = .loop ∧ g = .loopCheck) ∨ (w ≠ who ∧ g ∈ s.pending w) := by
  have hloop : s.pending .loop = [] := hi.notLaunched hc.1
  obtain ⟨hw, hrest⟩ := (hp ▸ hi.layout who : Layout who (.start :: rest)).call_alone rfl
  by_cases h : w = who
  · subst h; simp [hrest, hw]
  · rw [State.setPending_of_ne h]
    by_cases h' : w = .loop
    · subst h'; simp [State.launched, hloop]
    · simp [State.launched, State.setPending_of_ne h', h, h']

theorem Invariant.launch (hi : Invariant s) (hc : s.canStart) (hp : s.pending who = .start :: rest) :
    Invariant (s.launched.setPending who rest) := by
  obtain ⟨_, hrest⟩ := (hp ▸ hi.layout who : Layout who (.start :: rest)).call_alone rfl
  refine ⟨fun w => ?_, fun w f hf => ?_, fun w h => ?_, fun v w f g hf hg hfs hgs => ?_,
    fun hs => ?_, fun hs => ?_, hi.stopping, hi.stopped, hi.gate⟩
  · by_cases h : w = who
    · subst h
      rw [State.setPending_self, hrest]
      exact .idle
    · rw [State.setPending_of_ne h]
      by_cases h' : w = .loop
      · subst h'; simp only [State.launched, State.setPending_self]; exact .loop rfl rfl
      · simp only [State.launched, State.setPending_of_ne h']; exact hi.layout w
  · rcases (hi.mem_pending_launched hc hp).mp hf with ⟨rfl, rfl⟩ | ⟨_, hf'⟩
    · exact Frame.fits_of_carefree rfl
    · refine (hi.fits w f hf').mono hf' ⟨fun h => ⟨h, rfl⟩, id, id, id, fun _ h => ?_, id⟩
      rw [hc.2] at h; cases h
  · obtain ⟨f, hf, hl⟩ := hi.lockHeld w h
    refine ⟨f, (hi.mem_pending_launched hc hp).mpr (.inr ⟨?_, hf⟩), hl⟩
    rintro rfl
    simp only [hp, hrest, List.mem_singleton] at hf
    subst hf
    cases hl
  · rcases (hi.mem_pending_launched hc hp).mp hf with ⟨_, rfl⟩ | ⟨_, hf⟩
    · cases hfs
    · rcases (hi.mem_pending_launched hc hp).mp hg with ⟨_, rfl⟩ | ⟨_, hg⟩
      · cases hgs
      · exact hi.oneStopper v w f g hf hg hfs hgs
  · simp [State.launched, hc.2] at hs
  · simp [State.launched] at hs

theorem Invariant.turn (hi : Invariant s) (hp : s.pending who = f :: rest) (h : Turn s who f a m) :
    Invariant (State.apply who rest m).state := by
  have he := h.effect
  have hf : f ∈ s.pending who := by simp [hp]
  have hff := hi.fits who f hf
  have hl : Layout who (f :: rest) := hp ▸ hi.layout who
  -- the frames of other threads, and those below, are where they were
  have stay {w : Who} {g : Frame} (hg : g ∈ s.pending w) (hgf : w = who → g ≠ f) :
      g ∈ (State.apply who rest m).state.pending w := by
    rw [mem_pending_apply]
    by_cases hw : w = who
    · subst hw
      rw [hp, List.mem_cons] at hg
      exact .inl ⟨rfl, .inr (hg.resolve_left (hgf rfl))⟩
    · exact .inr ⟨hw, by rwa [he.pending]⟩
  -- who performs the stop now did so before, or has just become the one
  have source {w : Who} {g : Frame} (hg : g ∈ (State.apply who rest m).state.pending w)
      (hgs : g.performsStop) :
      (∃ g₀ ∈ s.pending w, g₀.performsStop) ∨ (w = who ∧ s.phase.isFinal = false) := by
    rcases mem_pending_apply.mp hg with ⟨rfl, hn | hr⟩ | ⟨hw, hg⟩
    · rcases (h.origin hn).stopping hgs with ⟨hfs, _⟩ | ⟨timed, _, hs⟩
      · exact .inl ⟨f, hf, hfs⟩
      · exact .inr ⟨rfl, hs⟩
    · exact absurd hgs (hl.not_performsStop_below hr)
    · exact .inl ⟨g, he.pending ▸ hg, hgs⟩
  have final {w : Who} (hg : ∃ g ∈ s.pending w, g.performsStop) : s.phase.isFinal := by
    obtain ⟨g, hg, hgs⟩ := hg
    rw [(hi.fits w g hg).stopping hgs]; rfl
  refine ⟨fun w => ?_, fun w g hg => ?_, fun w hw => ?_, fun v w g g' hg hg' hgs hgs' => ?_,
    fun (hs : m.state.phase = .shuttingDown) => ?_, fun hs => ?_, fun hs => ?_,
    fun (hs : m.state.phase = .stopped) => ?_, fun hs => ?_⟩
  · by_cases hw : w = who
    · subst hw; simp only [State.apply, State.setPending_self]; exact hl.turn h
    · simp only [State.apply, State.setPending_of_ne hw, he.pending]; exact hi.layout w
  · rcases mem_pending_apply.mp hg with ⟨rfl, hn | hr⟩ | ⟨hw, hg⟩
    · exact (h.fits_next hff hn).setPending
    · exact (h.fits_below hi hp hr).setPending
    · rw [he.pending] at hg
      exact ((hi.fits w g hg).mono hg (h.keeps hi hp hw)).setPending
  · have hw : m.state.refresher = some w := hw
    have goesOn (hr : f.family = .refresh) (hn : ∀ ok, f ≠ .release ok) :
        ∃ g ∈ (State.apply who rest m).state.pending who, g.holdsLock := by
      obtain ⟨g, hg, hgl⟩ := h.next_holdsLock hr hn
      exact ⟨g, mem_pending_apply.mpr (.inl ⟨rfl, .inl hg⟩), hgl⟩
    rcases he.refresher with ⟨rfl, _, h'⟩ | ⟨_, h'⟩ | ⟨_, hn, h'⟩
    · obtain rfl : who = w := Option.some.inj (h'.symm.trans hw)
      exact goesOn rfl (by simp)
    · rw [hw] at h'; cases h'
    · obtain ⟨g, hg, hgl⟩ := hi.lockHeld w (h'.symm.trans hw)
      by_cases hgf : w = who ∧ g = f
      · obtain ⟨rfl, rfl⟩ := hgf
        exact goesOn (Frame.family_of_holdsLock hgl) hn
      · exact ⟨g, stay hg fun hw hg' => hgf ⟨hw, hg'⟩, hgl⟩
  · rcases source hg hgs with h₁ | ⟨rfl, h₁⟩ <;> rcases source hg' hgs' with h₂ | ⟨rfl, h₂⟩
    · obtain ⟨g₁, hg₁, hs₁⟩ := h₁
      obtain ⟨g₂, hg₂, hs₂⟩ := h₂
      exact hi.oneStopper v w g₁ g₂ hg₁ hg₂ hs₁ hs₂
    · rw [final h₁] at h₂; cases h₂
    · rw [final h₂] at h₁; cases h₁
    · rfl
  · have goesOn (hfs : (f.performsStop ∧ f ≠ .stopFinish) ∨
        ∃ timed, f = .stopMark timed ∧ s.phase.isFinal = false) :
        ∃ w, ∃ g ∈ (State.apply who rest m).state.pending w, g.performsStop := by
      obtain ⟨g, hg, hgs⟩ := h.next_performsStop hfs
      exact ⟨who, g, mem_pending_apply.mpr (.inl ⟨rfl, .inl hg⟩), hgs⟩
    rcases he.phase with h' | ⟨_, h'⟩ | ⟨hn, ⟨timed, hm, _⟩ | ⟨_, h'⟩ | ⟨_, _, h'⟩ | h'⟩
    · obtain ⟨w, g, hg, hgs⟩ := hi.stopper (h'.symm.trans hs)
      by_cases hgf : w = who ∧ g = f
      · obtain ⟨rfl, rfl⟩ := hgf
        refine goesOn (.inl ⟨hgs, ?_⟩)
        rintro rfl
        rw [he.stopFinished rfl] at hs; cases hs
      · exact ⟨w, g, stay hg fun hw hg' => hgf ⟨hw, hg'⟩, hgs⟩
    · rw [hs] at h'; cases h'
    · exact goesOn (.inr ⟨timed, hm, hn⟩)
    · rw [hs] at h'; cases h'
    · rw [hs] at h'; cases h'
    · have := hff.settles _ h'
      rw [hs] at this
      split at this <;> cases this
  · have hloop := hi.notLaunched (he.started.symm.trans hs)
    have hw : Who.loop ≠ who := by rintro rfl; simp [hloop] at hp
    simp only [State.apply, State.setPending_of_ne hw, he.pending, hloop]
  · rcases he.stopping.mp hs with hs | ⟨timed, joins, rfl⟩
    · exact he.isFinal (hi.stopping hs)
    · exact he.isFinal (by rw [hff.stopping rfl]; rfl)
  · rcases he.eq_stopFinish hff hs with h' | rfl
    · have := hi.stopped h'
      exact ⟨he.stopping.mpr (.inl this.1), he.loaded.mpr (.inl this.2)⟩
    · exact ⟨he.stopping.mpr (.inl (hff.signalled rfl)), he.loaded.mpr (.inl (hff.opened rfl))⟩
  · rcases he.loaded.mp hs with hs | ⟨flags, rfl⟩ | ⟨timed, joins, rfl⟩
    · exact (hi.gate hs).imp (fun h => he.loadedOnce.mpr (.inl h)) fun h => he.stopping.mpr (.inl h)
    · exact .inl (he.loadedOnce.mpr (.inl (hff.published rfl)))
    · exact .inr (he.stopping.mpr (.inl (hff.signalled rfl)))

/-- **Every step keeps the invariant.** -/
theorem Invariant.step (hi : Invariant s) (h : s.step? a = some m) : Invariant m.state := by
  rcases State.step?_cases h with ⟨n, op, _, hp, rfl⟩ | ⟨who, rest, _, hp, hc, rfl⟩ |
    ⟨who, f, rest, μ, hp, ht, rfl⟩
  · exact hi.begin hp op
  · exact hi.launch hc hp
  · exact hi.turn hp ht

end

/-- **Every reachable state satisfies the invariant.** -/
theorem reachable_invariant {interval : Binary64} {s : State} (h : State.Reachable interval s) :
    Invariant s := by
  obtain ⟨actions, h⟩ := h
  exact State.run?_keeps (fun _ _ _ hi h => Invariant.step hi h) (invariant_new interval) h

end Poller

end FeatureFlags
