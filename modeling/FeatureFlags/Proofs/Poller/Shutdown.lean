import FeatureFlags.Proofs.Poller.Invariant

/-!
# `Proofs.Poller.Shutdown` — an orderly stop is final

A stop is orderly if no caller's refresh overlaps it, and if it is not timed and not asked for by the
loop itself.  Then the one who stops the poller leaves the join only when the loop has ended, and
nothing is left that could fetch: the poller is `Settled`.  Every step keeps it so, whatever callers do
from then on.

`shutdown_is_final` puts the two together, for runs that are orderly until the stop has returned and go
on in any way.
-/

namespace FeatureFlags

namespace Poller

/-! ## Orderly runs -/

namespace Frame

/-- Whether a frame belongs to a stop whose wait is timed. -/
def timed : Frame → Bool
  | .stopMark timed | .stopSignal timed _ | .stopWake timed _ | .stopOpenGate timed _
  | .stopJoin timed _ => timed
  | _ => false

/-- The frames that can be left once the poller has been stopped in an orderly way. -/
def rests : Frame → Bool
  | .acquire | .checkStopping | .release false | .stopMark _ | .stopNote => true
  | f => f.family = .call

theorem rests_of_call {f : Frame} (h : f.family = .call) : f.rests := by
  cases f <;> simp_all [rests, family]

theorem rests_of_stop {f : Frame} (h : f.family = .stop) (hp : ¬ f.performsStop) : f.rests := by
  cases f <;> simp_all [rests, family, performsStop]

theorem eq_of_rests {f : Frame} (h : f.rests) (hl : f.holdsLock) :
    f = .checkStopping ∨ f = .release false := by
  cases f with
  | checkStopping => exact .inl rfl
  | release ok =>
      cases ok with
      | false => exact .inr rfl
      | true => cases h
  | _ => simp_all [rests, holdsLock, family]

end Frame

/-- No caller's refresh overlaps a stop, and stops are untimed ones of callers. -/
structure State.Orderly (s : State) : Prop where
  apart : ∀ n w, ∀ f ∈ s.pending (.caller n), ∀ g ∈ s.pending w, f.family = .refresh → g.family ≠ .stop
  untimed : ∀ w, ∀ f ∈ s.pending w, f.family = .stop → w ≠ .loop ∧ f.timed = false

/-- The states that a run leads to all of whose states are orderly. -/
inductive OrderlyRun (interval : Binary64) : State → Prop where
  | new : OrderlyRun interval (State.new interval)
  | step {s : State} {a : Action} {m : Move} (h : OrderlyRun interval s) (hs : s.step? a = some m)
      (ho : m.state.Orderly) : OrderlyRun interval m.state

/-- The call that stopped the poller has returned. -/
structure State.StopReturned (s : State) : Prop where
  final : s.phase.isFinal
  returned : ∀ w, ∀ f ∈ s.pending w, ¬ f.performsStop ∧ f ≠ .stopNote

/-- The one who stops the poller has returned only when the poller is stopped. -/
theorem Invariant.stopped_of_stopReturned {s : State} (hi : Invariant s) (h : s.StopReturned) :
    s.phase = .stopped := by
  cases hp : s.phase with
  | stopped => rfl
  | shuttingDown =>
      obtain ⟨w, f, hf, hfs⟩ := hi.stopper hp
      exact absurd hfs (h.returned w f hf).1
  | uninitialized | loading | ready =>
      have := h.final
      simp [hp, Phase.isFinal] at this

/-! ## Pollers that have settled -/

/-- A poller that has been stopped, and in which nothing is left that could fetch. -/
structure Settled (s : State) : Prop where
  stopped : s.phase = .stopped
  stopping : s.stopping
  loaded : s.loaded
  loopEnded : s.pending .loop = []
  rests : ∀ w, ∀ f ∈ s.pending w, f.rests

section

variable {s : State} {who w : Who} {f g : Frame} {a : Action} {m : Move} {rest : List Frame}

/-- **A settled poller stays settled**, and its snapshot stays as it is. -/
theorem Settled.turn (h : Settled s) (hp : s.pending who = f :: rest) (ht : Turn s who f a m) :
    Settled (State.apply who rest m).state ∧ m.state.snapshot = s.snapshot ∧
      m.state.loadedOnce = s.loadedOnce := by
  have he := ht.effect
  have hf : f.rests := h.rests who f (by simp [hp])
  have hloop : Who.loop ≠ who := by
    rintro rfl
    simp [h.loopEnded] at hp
  have hnext : ∀ g ∈ m.next, g.rests := by
    intro g hg
    have hfinal : s.phase.isFinal = true := by rw [h.stopped]; rfl
    have hstopping := h.stopping
    cases ht.follows hg <;> simp_all [Frame.rests, Frame.family]
  refine ⟨⟨?_, ?_, ?_, ?_, ?_⟩, ?_⟩
  · exact he.stopped h.stopped
  · exact he.stopping.mpr (.inl h.stopping)
  · exact he.loaded.mpr (.inl h.loaded)
  · simp only [State.apply, State.setPending_of_ne hloop, he.pending, h.loopEnded]
  · intro w g hg
    rcases ht.mem_pending hp hg with ⟨_, hn⟩ | hg
    · exact hnext g hn
    · exact h.rests w g hg
  · refine he.unpublished ?_
    rintro flags rfl
    cases hf

theorem Settled.step (h : Settled s) (hs : s.step? a = some m) :
    Settled m.state ∧ m.state.snapshot = s.snapshot ∧ m.state.loadedOnce = s.loadedOnce := by
  rcases State.step?_cases hs with ⟨n, op, rfl, hp, rfl⟩ | ⟨who, rest, rfl, hp, hc, rfl⟩ |
    ⟨who, f, rest, μ, hp, ht, rfl⟩
  · refine ⟨⟨h.stopped, h.stopping, h.loaded, ?_, ?_⟩, rfl, rfl⟩
    · rw [State.setPending_of_ne (by simp)]
      exact h.loopEnded
    · intro w g hg
      rcases State.mem_setPending.mp hg with ⟨_, hg⟩ | ⟨_, hg⟩
      · cases op <;> simp_all [Operation.frames, Frame.rests, Frame.family]
        rcases hg with rfl | rfl <;> rfl
      · exact h.rests w g hg
  · -- a poller that has been stopped cannot be started
    have hphase := hc.2
    simp [h.stopped] at hphase
  · exact h.turn hp ht

/-! ## Orderly stops settle the poller -/

/-- What holds in the states of an orderly run. -/
structure Joined (s : State) : Prop where
  /-- The one who stops the poller leaves the join when the loop has ended. -/
  loopEnded : ∀ w, ∀ f ∈ s.pending w, f = .stopClear ∨ f = .stopFinish → s.pending .loop = []
  settled : s.phase = .stopped → Settled s

theorem joined_new (interval : Binary64) : Joined (State.new interval) where
  loopEnded w f hf := by cases hf
  settled h := by cases h

/-- The last frames of a stop follow the join, which a caller without a timeout leaves only when the
loop has ended. -/
theorem Turn.next_stopClear (h : Turn s who f a m) (hn : g ∈ m.next)
    (hg : g = .stopClear ∨ g = .stopFinish) (hl : who ≠ .loop) (ht : f.timed = false) :
    f = .stopClear ∨ ∃ timed joins, f = .stopJoin timed joins ∧ (joins = false ∨ s.loopEnded) := by
  cases h.follows hn with
  | joins timed joins hj => exact .inr ⟨timed, joins, rfl, hj.imp_right fun h => h.resolve_left hl⟩
  | givesUp joins => cases ht
  | unwakes => exact .inl rfl
  | _ => simp at hg

/-- In an orderly run the loop has ended by the time at which a stop goes on after the join. -/
theorem Joined.loopEnded_next (h : Joined s) (hi : Invariant s) (ho : s.Orderly)
    (hp : s.pending who = f :: rest) (ht : Turn s who f a m) (hn : g ∈ m.next)
    (hg : g = .stopClear ∨ g = .stopFinish) : s.pending .loop = [] := by
  have hf : f ∈ s.pending who := by simp [hp]
  have hgs : g.performsStop := by rcases hg with rfl | rfl <;> rfl
  have hfs : f.family = .stop := by
    rcases (ht.origin hn).stopping hgs with ⟨hfs, _⟩ | ⟨timed, rfl, _⟩
    · exact Frame.family_of_performsStop hfs
    · rfl
  obtain ⟨hw, htimed⟩ := ho.untimed who f hf hfs
  rcases ht.next_stopClear hn hg hw htimed with rfl | ⟨timed, joins, rfl, hj | he⟩
  · exact h.loopEnded who _ hf (.inl rfl)
  · refine hi.notLaunched ?_
    rw [← (hi.fits who _ hf).joins joins rfl, hj]
  · simp only [State.loopEnded, Bool.and_eq_true, List.isEmpty_iff] at he
    exact he.2

/-- When an orderly stop is about to be over, no other thread has anything left that could fetch. -/
theorem Joined.rests_of_stopFinish (h : Joined s) (hi : Invariant s) (ho : s.Orderly)
    (hf : .stopFinish ∈ s.pending who) (hg : g ∈ s.pending w) (hgw : w = who → ¬ g.performsStop) :
    g.rests := by
  have hloop : s.pending .loop = [] := h.loopEnded who _ hf (.inr rfl)
  cases hfam : g.family with
  | call => exact Frame.rests_of_call hfam
  | stop =>
      refine Frame.rests_of_stop hfam fun hgs => ?_
      exact hgw (hi.oneStopper w who g _ hg hf hgs rfl) hgs
  | refresh =>
      cases w with
      | loop => simp [hloop] at hg
      | caller n => exact absurd rfl (ho.apart n who g hg _ hf hfam)
  | loop =>
      cases w with
      | loop => simp [hloop] at hg
      | caller n => exact absurd hfam ((hi.layout (.caller n)).family_ne_loop hg)

theorem Joined.turn (h : Joined s) (hi : Invariant s) (ho : s.Orderly) (hp : s.pending who = f :: rest)
    (ht : Turn s who f a m) : Joined (State.apply who rest m).state := by
  have he := ht.effect
  have hf : f ∈ s.pending who := by simp [hp]
  have hl : Layout who (f :: rest) := hp ▸ hi.layout who
  -- the loop, if it has ended, takes no turn
  have hloop (hend : s.pending .loop = []) : (State.apply who rest m).state.pending .loop = [] := by
    have hw : Who.loop ≠ who := by
      rintro rfl
      simp [hend] at hp
    simp only [State.apply, State.setPending_of_ne hw, he.pending, hend]
  refine ⟨?_, ?_⟩
  · intro w g hg hgc
    refine hloop ?_
    rcases ht.mem_pending hp hg with ⟨rfl, hn⟩ | hg
    · exact h.loopEnded_next hi ho hp ht hn hgc
    · exact h.loopEnded w g hg hgc
  · intro (hs : m.state.phase = .stopped)
    rcases he.eq_stopFinish (hi.fits who f hf) hs with hst | rfl
    · exact ((h.settled hst).turn hp ht).1
    · refine ⟨hs, ?_, ?_, hloop (h.loopEnded who _ hf (.inr rfl)), ?_⟩
      · exact he.stopping.mpr (.inl ((hi.fits who _ hf).signalled rfl))
      · exact he.loaded.mpr (.inl ((hi.fits who _ hf).opened rfl))
      · intro w g hg
        rcases mem_pending_apply.mp hg with ⟨rfl, hn | hr⟩ | ⟨hw, hg⟩
        · rcases ht.next_family with ⟨hm, _⟩ | ⟨g', hm, hg', _⟩ | ⟨h, _⟩ | ⟨_, _, _, h, _⟩
          · simp [hm] at hn
          · rw [hm, List.mem_singleton] at hn
            subst hn
            refine Frame.rests_of_stop hg' fun hgs => ?_
            rcases (ht.origin (by simp [hm])).stopping hgs with ⟨_, h⟩ | ⟨_, h, _⟩
            · exact h rfl
            · cases h
          · cases h
          · cases h
        · have hg : g ∈ s.pending w := by simp [hp, hr]
          exact h.rests_of_stopFinish hi ho hf hg fun _ => hl.not_performsStop_below hr
        · exact h.rests_of_stopFinish hi ho hf (he.pending ▸ hg) fun h => absurd h hw

theorem Joined.step (h : Joined s) (hi : Invariant s) (ho : s.Orderly) (hs : s.step? a = some m) :
    Joined m.state := by
  rcases State.step?_cases hs with ⟨n, op, rfl, hp, rfl⟩ | ⟨who, rest, rfl, hp, hc, rfl⟩ |
    ⟨who, f, rest, μ, hp, ht, rfl⟩
  · refine ⟨?_, fun hst => ((h.settled hst).step hs).1⟩
    intro w g hg hgc
    rw [State.setPending_of_ne (by simp)]
    refine h.loopEnded w g (g.mem_pending_of_begin hg ?_) hgc
    rcases hgc with rfl | rfl <;> rfl
  · -- nobody stops a poller that can be started
    have hphase : s.phase = .uninitialized := hc.2
    refine ⟨?_, fun hst => ?_⟩
    · intro w g hg hgc
      have hgs : g.performsStop := by rcases hgc with rfl | rfl <;> rfl
      rcases (hi.mem_pending_launched hc hp).mp hg with ⟨_, rfl⟩ | ⟨_, hg⟩
      · cases hgs
      · have := (hi.fits w g hg).stopping hgs
        simp [hphase] at this
    · have : s.phase = .stopped := hst
      simp [hphase] at this
  · exact h.turn hi ho hp ht

end

/-- **Every orderly run** keeps the invariant, and its stops join the loop. -/
theorem OrderlyRun.joined {interval : Binary64} {s : State} (h : OrderlyRun interval s) :
    Invariant s ∧ s.Orderly ∧ Joined s := by
  induction h with
  | new =>
      refine ⟨invariant_new interval, ⟨?_, ?_⟩, joined_new interval⟩
      · intro n w f hf
        cases hf
      · intro w f hf
        cases hf
  | step _ hs ho ih =>
      obtain ⟨hi, ho', hj⟩ := ih
      exact ⟨hi.step hs, ho, hj.step hi ho' hs⟩

/-! ## Orderly actions -/

/-- The actions of callers that leave it to the loop to refresh, and stop the poller without a
timeout. -/
def Action.orderly : Action → Bool
  | .begins _ .refresh | .begins _ (.stop true) | .sinks _ (.stops ..) => false
  | _ => true

/-- No caller refreshes, and stops are untimed ones of callers. -/
structure State.LoopRefreshes (s : State) : Prop where
  callers : ∀ n, ∀ f ∈ s.pending (.caller n), f.family ≠ .refresh
  untimed : ∀ w, ∀ f ∈ s.pending w, f.family = .stop → w ≠ .loop ∧ f.timed = false

theorem State.LoopRefreshes.orderly {s : State} (h : s.LoopRefreshes) : s.Orderly where
  apart n _ f hf _ _ hr := absurd hr (h.callers n f hf)
  untimed := h.untimed

section

variable {s : State} {who : Who} {f g : Frame} {a : Action} {m : Move} {rest : List Frame}

theorem Turn.next_orderly (h : Turn s who f a m) (ha : a.orderly) (hn : g ∈ m.next) :
    (g.family = .refresh → f.family = .refresh ∨ f.family = .loop) ∧
    (g.family = .stop → f.family = .stop) ∧ (f.timed = false → g.timed = false) := by
  cases h.follows hn with
  | sinkStops e timed failing => cases ha
  | _ => simp [Frame.family, Frame.timed]

theorem Frame.of_orderly {n : Nat} {op : Operation} (ha : (Action.begins n op).orderly)
    (hf : f ∈ op.frames) : f.family ≠ .refresh ∧ f.timed = false := by
  cases op with
  | refresh => cases ha
  | stop timed =>
      cases timed with
      | true => cases ha
      | false =>
          rw [Operation.frames, List.mem_singleton] at hf
          subst hf
          simp [family, Frame.timed]
  | start | reload | read _ =>
      rw [Operation.frames, List.mem_singleton] at hf
      subst hf
      simp [family, timed]
  | stopAndClose =>
      simp only [Operation.frames, List.mem_cons, List.not_mem_nil, or_false] at hf
      rcases hf with rfl | rfl <;> simp [family, timed]

theorem State.LoopRefreshes.step (h : s.LoopRefreshes) (hi : Invariant s) (ha : a.orderly)
    (hs : s.step? a = some m) : m.state.LoopRefreshes := by
  rcases State.step?_cases hs with ⟨n, op, rfl, hp, rfl⟩ | ⟨who, rest, rfl, hp, hc, rfl⟩ |
    ⟨who, f, rest, μ, hp, ht, rfl⟩
  · refine ⟨fun k g hg => ?_, fun w g hg hgs => ?_⟩
    · rcases mem_setPending.mp hg with ⟨_, hg⟩ | ⟨_, hg⟩
      · exact (Frame.of_orderly ha hg).1
      · exact h.callers k g hg
    · rcases mem_setPending.mp hg with ⟨rfl, hn⟩ | ⟨_, hg⟩
      · exact ⟨by simp, (Frame.of_orderly ha hn).2⟩
      · exact h.untimed w g hg hgs
  · refine ⟨fun k g hg => ?_, fun w g hg hgs => ?_⟩
    · rcases (hi.mem_pending_launched hc hp).mp hg with ⟨hw, _⟩ | ⟨_, hg⟩
      · cases hw
      · exact h.callers k g hg
    · rcases (hi.mem_pending_launched hc hp).mp hg with ⟨_, rfl⟩ | ⟨_, hg⟩
      · cases hgs
      · exact h.untimed w g hg hgs
  · have hf : f ∈ s.pending who := by simp [hp]
    refine ⟨fun k g hg => ?_, fun w g hg hgs => ?_⟩
    · rcases ht.mem_pending hp hg with ⟨rfl, hn⟩ | hg
      · intro hgr
        rcases (ht.next_orderly ha hn).1 hgr with hfr | hfl
        · exact h.callers k f hf hfr
        · exact (hi.layout (.caller k)).family_ne_loop hf hfl
      · exact h.callers k g hg
    · rcases ht.mem_pending hp hg with ⟨rfl, hn⟩ | hg
      · obtain ⟨_, hstop, htimed⟩ := ht.next_orderly ha hn
        obtain ⟨hw, hft⟩ := h.untimed w f hf (hstop hgs)
        exact ⟨hw, htimed hft⟩
      · exact h.untimed w g hg hgs

end

/-- Runs of orderly actions are orderly. -/
theorem OrderlyRun.of_actions {interval : Binary64} {s t : State} {actions : List Action}
    (h : OrderlyRun interval s) (hl : s.LoopRefreshes) (ha : ∀ a ∈ actions, a.orderly)
    (hr : s.run? actions = some t) : OrderlyRun interval t := by
  induction actions generalizing s with
  | nil => simp only [State.run?, Option.some.injEq] at hr; exact hr ▸ h
  | cons a rest ih =>
      obtain ⟨m, hm, hr⟩ := State.run?_cons_eq_some.mp hr
      have hl' := hl.step h.joined.1 (ha a (by simp)) hm
      exact ih (h.step hm hl'.orderly) hl' (fun b hb => ha b (by simp [hb])) hr

theorem State.loopRefreshes_new (interval : Binary64) : (State.new interval).LoopRefreshes where
  callers n f hf := by cases hf
  untimed w f hf := by cases hf

theorem orderlyRun_of_actions {interval : Binary64} {s : State} {actions : List Action}
    (ha : ∀ a ∈ actions, a.orderly) (hr : (State.new interval).run? actions = some s) :
    OrderlyRun interval s :=
  OrderlyRun.of_actions .new (State.loopRefreshes_new interval) ha hr

/-! ## After the stop -/

/-- What a poller that settled in one state is like in a later one. -/
structure Rests (s t : State) : Prop where
  stopped : t.phase = .stopped
  snapshot : t.snapshot = s.snapshot
  loadedOnce : t.loadedOnce = s.loadedOnce
  loaded : t.loaded = s.loaded
  loopEnded : t.pending .loop = []
  noFetch : ∀ w, ∀ f ∈ t.pending w, f ≠ .fetch ∧ f ≠ .fetching
  /-- Every refresh that ends returns false. -/
  refreshed : ∀ a m ok, t.step? a = some m → m.result = some (.refreshed ok) → ok = false
  /-- Every refresh can end, whichever other one has the lock. -/
  refreshes : ∀ who rest, t.pending who = .acquire :: rest → ∃ actions u m,
    t.run? actions = some u ∧ u.step? (.runs who) = some m ∧ m.result = some (.refreshed false)
  starts : ∀ who rest, t.pending who = .start :: rest → ∃ m e, t.step? (.runs who) = some m ∧
    m.result = some (.refused e) ∧ e.code = "CONFIG_ERROR"
  /-- A thread that reads gets the snapshot in at most three steps of its own. -/
  reads : ∀ who f rest, t.pending who = f :: rest → f.reads → ∃ k u m, k ≤ 2 ∧
    t.run? (List.replicate k (.runs who)) = some u ∧ u.step? (.runs who) = some m ∧
    m.result = some (.read s.snapshot)

section

variable {s t : State} {who v : Who} {f : Frame} {a : Action} {m : Move} {rest : List Frame}

theorem Settled.refreshed {ok : Bool} (h : Settled t) (hs : t.step? a = some m)
    (hr : m.result = some (.refreshed ok)) : ok = false := by
  obtain ⟨w, rest, _, hp, _⟩ := State.release_of_refreshed hs hr
  have := h.rests w (.release ok) (by simp [hp])
  cases ok with
  | false => rfl
  | true => cases this

/-- The thread that has the lock on refreshes is about to refuse, or has just refused, to refresh. -/
theorem Settled.refresher (h : Settled t) (hi : Invariant t) (hl : t.refresher = some v) :
    ∃ f rest, t.pending v = f :: rest ∧ (f = .checkStopping ∨ f = .release false) := by
  obtain ⟨f, hf, hfl⟩ := hi.lockHeld v hl
  have hfr := Frame.eq_of_rests (h.rests v f hf) hfl
  cases hp : t.pending v with
  | nil => simp [hp] at hf
  | cons g rest =>
      rw [hp, List.mem_cons] at hf
      rcases hf with rfl | hf
      · exact ⟨f, rest, rfl, hfr⟩
      · rcases (hp ▸ hi.layout v : Layout v (g :: rest)).below hf with ⟨rfl, _⟩ | rfl | ⟨_, ha⟩
        · simp at hfr
        · simp at hfr
        · rcases hfr with rfl | rfl <;> cases ha

theorem State.step?_release {ok : Bool} (hp : s.pending who = .release ok :: rest) :
    ∃ m, s.step? (.runs who) = some m ∧ m.result = some (.refreshed ok) ∧ m.state.refresher = none ∧
      ∀ w ≠ who, m.state.pending w = s.pending w := by
  refine ⟨_, by rw [State.step?_runs hp]; rfl, rfl, rfl, ?_⟩
  intro w hw
  exact setPending_of_ne hw

/-- Once the poller is being stopped, a refresh is over in two more steps. -/
theorem State.step?_checkStopping (hp : s.pending who = .checkStopping :: rest) (hs : s.stopping) :
    ∃ m, s.step? (.runs who) = some m ∧ m.state.pending who = .release false :: rest ∧
      ∀ w ≠ who, m.state.pending w = s.pending w := by
  refine ⟨_, by rw [State.step?_runs hp]; rfl, ?_, ?_⟩
  · simp [apply, hs]
  · intro w hw
    exact setPending_of_ne hw

/-- The thread that has the lock gives it back, whatever the others do. -/
theorem Settled.giveBack (h : Settled t) (hi : Invariant t) (hl : t.refresher = some v) :
    ∃ k u, t.run? (List.replicate k (.runs v)) = some u ∧ u.refresher = none ∧
      ∀ w ≠ v, u.pending w = t.pending w := by
  obtain ⟨f, rest, hp, rfl | rfl⟩ := h.refresher hi hl
  · obtain ⟨m, hm, hpm, hother⟩ := State.step?_checkStopping hp h.stopping
    obtain ⟨m', hm', _, hr, hother'⟩ := State.step?_release hpm
    refine ⟨2, m'.state, ?_, hr, fun w hw => (hother' w hw).trans (hother w hw)⟩
    simp [List.replicate, State.run?, hm, hm']
  · obtain ⟨m, hm, _, hr, hother⟩ := State.step?_release hp
    refine ⟨1, m.state, ?_, hr, hother⟩
    simp [List.replicate, State.run?, hm]

theorem State.step?_acquire (hp : s.pending who = .acquire :: rest) (hl : s.refresher = none) :
    ∃ m, s.step? (.runs who) = some m ∧ m.state.pending who = .checkStopping :: rest ∧
      m.state.stopping = s.stopping := by
  refine ⟨_, by rw [State.step?_runs hp]; simp only [Frame.move?, hl]; rfl, ?_, rfl⟩
  simp [apply]

theorem Settled.refreshes_free (h : Settled t) (hp : t.pending who = .acquire :: rest)
    (hl : t.refresher = none) : ∃ u m, t.run? [.runs who, .runs who] = some u ∧
      u.step? (.runs who) = some m ∧ m.result = some (.refreshed false) := by
  obtain ⟨m₁, h₁, hp₁, hs₁⟩ := State.step?_acquire hp hl
  obtain ⟨m₂, h₂, hp₂, _⟩ := State.step?_checkStopping hp₁ (hs₁.trans h.stopping)
  obtain ⟨m₃, h₃, hr, _⟩ := State.step?_release hp₂
  exact ⟨m₂.state, m₃, by simp [State.run?, h₁, h₂], h₃, hr⟩

/-- **A refresh of a settled poller returns false.** -/
theorem Settled.refreshes (h : Settled t) (hi : Invariant t) (hp : t.pending who = .acquire :: rest) :
    ∃ actions u m, t.run? actions = some u ∧ u.step? (.runs who) = some m ∧
      m.result = some (.refreshed false) := by
  cases hl : t.refresher with
  | none =>
      obtain ⟨u, m, hu, hm, hr⟩ := h.refreshes_free hp hl
      exact ⟨_, u, m, hu, hm, hr⟩
  | some v =>
      -- the thread that has the lock gives it back first
      have hv : who ≠ v := by
        rintro rfl
        obtain ⟨f, rest', hp', hf⟩ := h.refresher hi hl
        rw [hp, List.cons.injEq] at hp'
        rw [← hp'.1] at hf
        simp at hf
      obtain ⟨k, u, hu, hl', hother⟩ := h.giveBack hi hl
      have hsu : Settled u := State.run?_keeps (fun s a m h hs => (Settled.step h hs).1) h hu
      obtain ⟨u', m, hu', hm, hr⟩ := hsu.refreshes_free ((hother who hv).trans hp) hl'
      exact ⟨_, u', m, (State.run?_append hu).trans hu', hm, hr⟩

/-- **A start of a settled poller is refused.** -/
theorem Settled.starts (h : Settled t) (hp : t.pending who = .start :: rest) :
    ∃ m e, t.step? (.runs who) = some m ∧ m.result = some (.refused e) ∧
      e.code = "CONFIG_ERROR" := by
  refine ⟨State.apply who rest { state := t, result := some (.refused (cannotStart .stopped)) }, _, ?_,
    rfl, rfl⟩
  rw [State.step?_runs hp]
  simp [Frame.move?, h.stopped]

theorem State.step?_readSnapshot (hp : s.pending who = .readSnapshot :: rest) :
    ∃ m, s.step? (.runs who) = some m ∧ m.result = some (.read s.snapshot) := by
  rw [State.step?_runs hp]
  exact ⟨_, rfl, rfl⟩

theorem Settled.step?_readWait {timed : Bool} (h : Settled t)
    (hp : t.pending who = .readWait timed :: rest) :
    ∃ m, t.step? (.runs who) = some m ∧ m.state.pending who = .readSnapshot :: rest := by
  rw [State.step?_runs hp]
  simp [Frame.move?, h.loaded, State.apply]

theorem Settled.step?_readCheck {timed : Bool} (h : Settled t)
    (hp : t.pending who = .readCheck timed :: rest) :
    ∃ m, t.step? (.runs who) = some m ∧ m.state.pending who = .readWait timed :: rest := by
  rw [State.step?_runs hp]
  simp [Frame.move?, h.stopped, State.apply]

/-- **A read of a settled poller returns at once.** -/
theorem Settled.reads (h : Settled t) (hp : t.pending who = f :: rest) (hf : f.reads) :
    ∃ k u m, k ≤ 2 ∧ t.run? (List.replicate k (.runs who)) = some u ∧
      u.step? (.runs who) = some m ∧ m.result = some (.read t.snapshot) := by
  cases f with
  | readSnapshot =>
      obtain ⟨m, hm, hr⟩ := State.step?_readSnapshot hp
      exact ⟨0, t, m, by omega, rfl, hm, hr⟩
  | readWait timed =>
      obtain ⟨m₁, h₁, hp₁⟩ := h.step?_readWait hp
      obtain ⟨_, hs₁, _⟩ := h.step h₁
      obtain ⟨m₂, h₂, hr⟩ := State.step?_readSnapshot hp₁
      exact ⟨1, m₁.state, m₂, by omega, by simp [State.run?, h₁], h₂, hs₁ ▸ hr⟩
  | readCheck timed =>
      obtain ⟨m₁, h₁, hp₁⟩ := h.step?_readCheck hp
      obtain ⟨hm₁, hs₁, _⟩ := h.step h₁
      obtain ⟨m₂, h₂, hp₂⟩ := hm₁.step?_readWait hp₁
      obtain ⟨_, hs₂, _⟩ := hm₁.step h₂
      obtain ⟨m₃, h₃, hr⟩ := State.step?_readSnapshot hp₂
      refine ⟨2, m₂.state, m₃, by omega, ?_, h₃, ?_⟩
      · simp [List.replicate, State.run?, h₁, h₂]
      · rw [hr, hs₂, hs₁]
  | _ => cases hf

theorem Settled.noFetch (h : Settled t) (hf : f ∈ t.pending who) : f ≠ .fetch ∧ f ≠ .fetching := by
  have hr := h.rests who f hf
  refine ⟨?_, ?_⟩ <;> rintro rfl <;> cases hr

/-- A poller that settled rests, whatever happens. -/
theorem Settled.rests_of_run? {actions : List Action} (h : Settled s) (hi : Invariant s)
    (hr : s.run? actions = some t) : Rests s t := by
  obtain ⟨ht, hit, hsnapshot, hloadedOnce⟩ : Settled t ∧ Invariant t ∧ t.snapshot = s.snapshot ∧
      t.loadedOnce = s.loadedOnce := by
    refine State.run?_keeps (P := fun t => Settled t ∧ Invariant t ∧ t.snapshot = s.snapshot ∧
      t.loadedOnce = s.loadedOnce) ?_ ⟨h, hi, rfl, rfl⟩ hr
    rintro u a m ⟨hu, hiu, hsu, hlu⟩ hm
    obtain ⟨hm', hs', hl'⟩ := hu.step hm
    exact ⟨hm', hiu.step hm, hs'.trans hsu, hl'.trans hlu⟩
  constructor
  case stopped => exact ht.stopped
  case snapshot => exact hsnapshot
  case loadedOnce => exact hloadedOnce
  case loaded => exact ht.loaded.trans h.loaded.symm
  case loopEnded => exact ht.loopEnded
  case noFetch => exact fun w f hf => ht.noFetch hf
  case refreshed => exact fun a m ok hm hr => ht.refreshed hm hr
  case refreshes => exact fun who rest hp => ht.refreshes hit hp
  case starts => exact fun who rest hp => ht.starts hp
  case reads =>
    intro who f rest hp hf
    rw [← hsnapshot]
    exact ht.reads hp hf

end

/-- **An orderly stop is final.**  When it has returned, the loop has ended and no fetch is in flight;
from then on nothing is fetched and nothing changes, whatever callers do. -/
theorem shutdown_is_final {interval : Binary64} {s : State} (h : OrderlyRun interval s)
    (hs : s.StopReturned) :
    s.phase = .stopped ∧ s.pending .loop = [] ∧
      (∀ w, ∀ f ∈ s.pending w, f ≠ .fetch ∧ f ≠ .fetching) ∧
      ∀ actions t, s.run? actions = some t → Rests s t := by
  obtain ⟨hi, _, hj⟩ := h.joined
  have hst := hi.stopped_of_stopReturned hs
  have hset := hj.settled hst
  refine ⟨hst, hset.loopEnded, fun w f hf => hset.noFetch hf, ?_⟩
  intro actions t ht
  exact hset.rests_of_run? hi ht

/-- The loop is fetching when a caller stops the poller, and the call returns. -/
def stopWhileFetching : List Action :=
  startUp ++ calls 0 (.stop false) 4 ++ .answers .loop (.ok [beta]) :: List.replicate 7 (.runs .loop) ++
    List.replicate 4 (.runs (.caller 0))

/-- One of these runs: the list that arrives during the stop is published, and who reads later gets
it. -/
theorem shutdown_while_fetching_is_final :
    ∃ s, OrderlyRun (.ofInt 30) s ∧ s.StopReturned ∧ s.snapshot = .ofFlags [beta] ∧
      (∀ actions t, s.run? actions = some t → Rests s t) ∧
      ∃ t k u m, s.run? [.begins 1 (.read false)] = some t ∧ k ≤ 2 ∧
        t.run? (List.replicate k (.runs (.caller 1))) = some u ∧
        u.step? (.runs (.caller 1)) = some m ∧ m.result = some (.read (.ofFlags [beta])) := by
  have hrun : ((State.new (.ofInt 30)).run? stopWhileFetching).isSome := rfl
  let s := ((State.new (.ofInt 30)).run? stopWhileFetching).get hrun
  have ho : OrderlyRun (.ofInt 30) s :=
    orderlyRun_of_actions (by decide) (Option.some_get hrun).symm
  have hs : s.StopReturned := by
    refine ⟨rfl, fun w f hf => ?_⟩
    cases w with
    | loop => cases hf
    | caller n =>
        cases n with
        | zero => cases hf
        | succ n => cases hf
  have hfinal := (shutdown_is_final ho hs).2.2.2
  -- somebody else begins to read
  have hread : (s.run? [.begins 1 (.read false)]).isSome := rfl
  have ht := (Option.some_get hread).symm
  obtain ⟨k, u, m, hk, hu, hm, hr⟩ := (hfinal _ _ ht).reads (.caller 1) (.readCheck false) [] rfl rfl
  exact ⟨s, ho, hs, rfl, hfinal, _, k, u, m, ht, hk, hu, hm, hr⟩

end Poller

end FeatureFlags
