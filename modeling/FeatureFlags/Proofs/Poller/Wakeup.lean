import FeatureFlags.Proofs.Poller.Shutdown

/-!
# `Proofs.Poller.Wakeup` — when a stop leaves the loop asleep

The one who stops the poller wakes the loop, waits for its end, and then clears the wake-up.  If he
does not wait to the end — his time is up, or he is the loop — then the loop may come to its wait after
the wake-up has been cleared, and sleeps through a whole interval: it `Oversleeps`.

`oversleeps_exactly_after_abandoning` says that this is the only way to it, and that this way is open
whenever the loop has still to wait at the moment at which the join is given up (`State.Abandons`).

## Contents

1. Sleeping through the stop
2. The wake-up reaches the loop, unless the join is given up
3. The loop oversleeps once the join has been given up
4. The theorem, and a run in which the loop oversleeps
-/

namespace FeatureFlags

namespace Poller

/-! ## Sleeping through the stop -/

/-- The poller is stopped and the call that stopped it has returned, but the loop is about to wait, or
waiting, without a wake-up. -/
structure State.Oversleeps (s : State) : Prop where
  stopped : s.phase = .stopped
  returned : s.StopReturned
  cleared : s.wake = false
  asleep : s.pending .loop = [.loopWait] ∨ (s.pending .loop = [.loopParked] ∧ s.woken = false)

/-- An action with which a thread gives up the wait for the end of the loop, although the loop has still
to wait for its next refresh. -/
def State.Abandons (s : State) (a : Action) : Prop :=
  ∃ who timed joins rest, s.pending who = .stopJoin timed joins :: rest ∧
    (a = .runs who ∨ a = .timesOut who) ∧ .loopWait ∈ s.pending .loop

/-! ## The wake-up reaches the loop, unless the join is given up -/

namespace Frame

/-- The frames of a stop between waking the loop and leaving the join. -/
def followsWake : Frame → Bool
  | .stopOpenGate .. | .stopJoin .. => true
  | _ => false

theorem performsStop_of_followsWake {f : Frame} (h : f.followsWake) : f.performsStop := by
  cases f <;> simp_all [followsWake, performsStop, family]

theorem followsSignal_of_followsWake {f : Frame} (h : f.followsWake) : f.followsSignal := by
  cases f <;> simp_all [followsWake, followsSignal]

end Frame

/-- If the loop waits, or is going to, it is going to be woken. -/
structure Roused (s : State) : Prop where
  wake : .loopWait ∈ s.pending .loop → s.wake
  woken : .loopParked ∈ s.pending .loop → s.woken

/-- The loop has been told to end, and is not going to wait any more. -/
structure Ending (s : State) : Prop where
  stopping : s.stopping
  noWait : .loopWait ∉ s.pending .loop
  woken : .loopParked ∈ s.pending .loop → s.woken

/-- What holds as long as nobody gives up the wait for the end of the loop. -/
structure Vigilant (s : State) : Prop where
  roused : ∀ w, ∀ f ∈ s.pending w, f.followsWake → Roused s
  ending : ∀ w, ∀ f ∈ s.pending w, f = .stopClear ∨ f = .stopFinish → Ending s
  stopped : s.phase = .stopped → Ending s

theorem vigilant_new (interval : Binary64) : Vigilant (State.new interval) where
  roused w f hf := by cases hf
  ending w f hf := by cases hf
  stopped h := by cases h

section

variable {s : State} {who w : Who} {f g : Frame} {a : Action} {m : Move} {rest : List Frame}

/-- Where the frames come from that matter for the loop's wait. -/
structure WaitOrigin (s : State) (f g : Frame) : Prop where
  wait : g = .loopWait → f = .loopRecheck ∧ s.stopping = false
  parked : g = .loopParked → f = .loopWait ∧ s.wake = false
  wakes : g.followsWake → f.followsWake ∨ ∃ timed joins, f = .stopWake timed joins
  ends : g = .stopClear ∨ g = .stopFinish → f = .stopClear ∨ ∃ timed joins, f = .stopJoin timed joins

theorem Turn.waitOrigin (h : Turn s who f a m) (hg : g ∈ m.next) : WaitOrigin s f g := by
  cases h.follows hg <;> constructor <;> simp_all [Frame.followsWake]

/-- Only the loop runs the loop. -/
theorem Invariant.eq_loop (hi : Invariant s) (hf : f ∈ s.pending who) (hl : f.family = .loop) :
    who = .loop := by
  cases who with
  | loop => rfl
  | caller n => exact absurd hl ((hi.layout (.caller n)).family_ne_loop hf)

theorem Invariant.loop_alone (hi : Invariant s) (hp : s.pending who = f :: rest)
    (hl : f.family = .loop) : who = .loop ∧ rest = [] := by
  refine ⟨hi.eq_loop (by simp [hp]) hl, ?_⟩
  cases (hp ▸ hi.layout who : Layout who (f :: rest)) with
  | loop _ _ => rfl
  | call _ hf | refresh hf | sink hf _ | stop _ hf _ => simp [hl] at hf

/-- Nobody but the one at this frame performs the stop. -/
theorem Invariant.eq_of_performsStop (hi : Invariant s) (hp : s.pending who = f :: rest)
    (hf : f.performsStop) (hg : g ∈ s.pending w) (hgs : g.performsStop) : w = who ∧ g = f := by
  obtain rfl := hi.oneStopper w who g f hg (by simp [hp]) hgs hf
  rw [hp, List.mem_cons] at hg
  rcases hg with rfl | hg
  · exact ⟨rfl, rfl⟩
  · exact absurd hgs ((hp ▸ hi.layout w : Layout w (f :: rest)).not_performsStop_below hg)

/-- Nobody takes a wake-up from the loop while it may still wait. -/
theorem Roused.turn (h : Roused s) (hi : Invariant s) (hs : s.stopping) (hp : s.pending who = f :: rest)
    (ht : Turn s who f a m) (hf : f ≠ .stopClear) : Roused (State.apply who rest m).state := by
  have he := ht.effect
  have hmem : f ∈ s.pending who := by simp [hp]
  refine ⟨fun hg => ?_, fun hg => ?_⟩
  · have hwait : .loopWait ∈ s.pending .loop := by
      rcases ht.mem_pending hp hg with ⟨_, hn⟩ | hg
      · have := ((ht.waitOrigin hn).wait rfl).2
        simp [hs] at this
      · exact hg
    show m.state.wake = true
    rcases he.wake with h' | ⟨rfl | rfl, _⟩ | ⟨_, h'⟩
    · rw [h']
      exact h.wake hwait
    · -- the loop clears the wake-up only where it is not about to wait
      obtain ⟨rfl, rfl⟩ := hi.loop_alone hp rfl
      simp [hp] at hwait
    · exact absurd rfl hf
    · exact h'
  · have hnoPark : f ≠ .loopWait ∨ s.wake = true := by
      by_cases hfw : f = .loopWait
      · subst hfw
        exact .inr (h.wake (hi.eq_loop hmem rfl ▸ hmem))
      · exact .inl hfw
    have hparked : .loopParked ∈ s.pending .loop := by
      rcases ht.mem_pending hp hg with ⟨_, hn⟩ | hg
      · obtain ⟨hfw, hwake⟩ := (ht.waitOrigin hn).parked rfl
        rcases hnoPark with h' | h'
        · exact absurd hfw h'
        · simp [hwake] at h'
      · exact hg
    show m.state.woken = true
    rcases he.woken with h' | ⟨hfw, hwake⟩ | h'
    · rw [h']
      exact h.woken hparked
    · rcases hnoPark with h' | h'
      · exact absurd hfw h'
      · simp [hwake] at h'
    · exact h'

/-- A loop that is ending goes on doing so. -/
theorem Ending.turn (h : Ending s) (hi : Invariant s) (hp : s.pending who = f :: rest)
    (ht : Turn s who f a m) : Ending (State.apply who rest m).state := by
  have he := ht.effect
  have hmem : f ∈ s.pending who := by simp [hp]
  have hfw : f ≠ .loopWait := by
    rintro rfl
    exact h.noWait (hi.eq_loop hmem rfl ▸ hmem)
  refine ⟨he.stopping.mpr (.inl h.stopping), fun hg => ?_, fun hg => ?_⟩
  · rcases ht.mem_pending hp hg with ⟨_, hn⟩ | hg
    · have := ((ht.waitOrigin hn).wait rfl).2
      simp [h.stopping] at this
    · exact h.noWait hg
  · have hparked : .loopParked ∈ s.pending .loop := by
      rcases ht.mem_pending hp hg with ⟨_, hn⟩ | hg
      · exact absurd ((ht.waitOrigin hn).parked rfl).1 hfw
      · exact hg
    show m.state.woken = true
    rcases he.woken with h' | ⟨h', _⟩ | h'
    · rw [h']
      exact h.woken hparked
    · exact absurd h' hfw
    · exact h'

/-- What the one who stops the poller relies on when he leaves the join without giving it up. -/
theorem Vigilant.ending_next (h : Vigilant s) (hi : Invariant s) (hp : s.pending who = f :: rest)
    (ht : Turn s who f a m) (hn : g ∈ m.next) (hg : g = .stopClear ∨ g = .stopFinish)
    (ha : ¬ s.Abandons a) : Ending s := by
  have hf : f ∈ s.pending who := by simp [hp]
  rcases (ht.waitOrigin hn).ends hg with rfl | ⟨timed, joins, rfl⟩
  · exact h.ending who _ hf (.inl rfl)
  · have hact : a = .runs who ∨ a = .timesOut who := by
      cases ht with
      | runs _ _ => exact .inl rfl
      | answers _ hm | sinks _ _ hm => cases hm
      | timesOut _ => exact .inr rfl
    refine ⟨(hi.fits who _ hf).signalled rfl, fun hw => ?_, (h.roused who _ hf rfl).woken⟩
    exact ha ⟨who, timed, joins, rest, hp, hact, hw⟩

theorem Vigilant.turn (h : Vigilant s) (hi : Invariant s) (hp : s.pending who = f :: rest)
    (ht : Turn s who f a m) (ha : ¬ s.Abandons a) : Vigilant (State.apply who rest m).state := by
  have he := ht.effect
  have hf : f ∈ s.pending who := by simp [hp]
  refine ⟨?_, ?_, ?_⟩
  · intro w g hg hgw
    rcases ht.mem_pending hp hg with ⟨rfl, hn⟩ | hg
    · rcases (ht.waitOrigin hn).wakes hgw with hfw | ⟨timed, joins, rfl⟩
      · refine (h.roused w f hf hfw).turn hi ?_ hp ht ?_
        · exact (hi.fits w f hf).signalled (Frame.followsSignal_of_followsWake hfw)
        · rintro rfl
          cases hfw
      · obtain ⟨hwake, hwoken⟩ := he.stopWoke timed joins rfl
        exact ⟨fun _ => hwake, fun _ => hwoken⟩
    · refine (h.roused w g hg hgw).turn hi ?_ hp ht ?_
      · exact (hi.fits w g hg).signalled (Frame.followsSignal_of_followsWake hgw)
      · -- there is only one who stops the poller, and he has not left the join
        rintro rfl
        obtain ⟨_, rfl⟩ := hi.eq_of_performsStop hp rfl hg (Frame.performsStop_of_followsWake hgw)
        cases hgw
  · intro w g hg hgc
    rcases ht.mem_pending hp hg with ⟨rfl, hn⟩ | hg
    · exact (h.ending_next hi hp ht hn hgc ha).turn hi hp ht
    · exact (h.ending w g hg hgc).turn hi hp ht
  · intro (hs : m.state.phase = .stopped)
    rcases he.eq_stopFinish (hi.fits who f hf) hs with hst | rfl
    · exact (h.stopped hst).turn hi hp ht
    · exact (h.ending who _ hf (.inr rfl)).turn hi hp ht

theorem Vigilant.step (h : Vigilant s) (hi : Invariant s) (ha : ¬ s.Abandons a)
    (hs : s.step? a = some m) : Vigilant m.state := by
  rcases State.step?_cases hs with ⟨n, op, rfl, hp, rfl⟩ | ⟨who, rest, rfl, hp, hc, rfl⟩ |
    ⟨who, f, rest, μ, hp, ht, rfl⟩
  · have hloop : (s.setPending (.caller n) op.frames).pending .loop = s.pending .loop :=
      State.setPending_of_ne (by simp)
    have ending (he : Ending s) : Ending (s.setPending (.caller n) op.frames) :=
      ⟨he.stopping, by rw [hloop]; exact he.noWait, by rw [hloop]; exact he.woken⟩
    refine ⟨fun w g hg hgw => ?_, fun w g hg hgc => ?_, fun hst => ending (h.stopped hst)⟩
    · have hr := h.roused w g (g.mem_pending_of_begin hg (Frame.performsStop_of_followsWake hgw)) hgw
      exact ⟨by rw [hloop]; exact hr.wake, by rw [hloop]; exact hr.woken⟩
    · refine ending (h.ending w g (g.mem_pending_of_begin hg ?_) hgc)
      rcases hgc with rfl | rfl <;> rfl
  · -- nobody stops a poller that can be started
    have none {w : Who} {g : Frame} (hg : g ∈ (s.launched.setPending who rest).pending w)
        (hgs : g.performsStop) : False := by
      have := ((hi.launch hc hp).fits w g hg).stopping hgs
      have hphase : s.phase = .uninitialized := hc.2
      simp [State.launched, hphase] at this
    refine ⟨fun w g hg hgw => ?_, fun w g hg hgc => ?_, fun hst => ?_⟩
    · exact (none hg (Frame.performsStop_of_followsWake hgw)).elim
    · refine (none hg ?_).elim
      rcases hgc with rfl | rfl <;> rfl
    · have hphase : s.phase = .uninitialized := hc.2
      simp [State.launched, hphase] at hst
  · exact h.turn hi hp ht ha

end

/-- **A run wakes the loop, unless somebody gives up the join in it.** -/
theorem Vigilant.run {s t : State} {actions : List Action} (h : Vigilant s) (hi : Invariant s)
    (hr : s.run? actions = some t) :
    Vigilant t ∨ ∃ before a after u, actions = before ++ a :: after ∧ s.run? before = some u ∧
      u.Abandons a := by
  have hsplit := State.run?_keeps_unless (P := fun s => Invariant s ∧ Vigilant s)
    (B := State.Abandons) (fun s a m h ha hm => ⟨h.1.step hm, h.2.step h.1 ha hm⟩) ⟨hi, h⟩ hr
  exact hsplit.imp_left And.right

theorem Vigilant.not_oversleeps {s : State} (h : Vigilant s) : ¬ s.Oversleeps := by
  intro ho
  have he := h.stopped ho.stopped
  rcases ho.asleep with hl | ⟨hl, hw⟩
  · exact he.noWait (by simp [hl])
  · have := he.woken (by simp [hl])
    simp [hw] at this

/-! ## The loop oversleeps once the join has been given up -/

section

variable {s t : State} {who v w : Who} {f g : Frame} {a : Action} {m : Move} {rest : List Frame}

/-- Who gives up the join is the loop, or has waited as long as he wanted to. -/
theorem State.Abandons.by (h : s.Abandons a) (hi : Invariant s) (hs : s.step? a = some m) :
    a = .runs .loop ∨ ∃ who joins rest, a = .timesOut who ∧
      s.pending who = .stopJoin true joins :: rest := by
  obtain ⟨who, timed, joins, rest, hp, rfl | rfl, hw⟩ := h
  · left
    have hf : Frame.stopJoin timed joins ∈ s.pending who := by simp [hp]
    have hstarted : s.started = true := by
      cases hs' : s.started with
      | true => rfl
      | false => simp [hi.notLaunched hs'] at hw
    have hjoins := (hi.fits who _ hf).joins joins rfl
    have hend : s.loopEnded = false := by
      cases hl : s.pending .loop with
      | nil => simp [hl] at hw
      | cons g frames => simp [State.loopEnded, hl]
    simp only [State.step?_runs hp, Frame.move?, hjoins, hstarted, hend, Option.map_eq_some_iff] at hs
    obtain ⟨μ, hμ, _⟩ := hs
    split at hμ
    · rename_i hc
      simpa using hc
    · cases hμ
  · right
    cases timed with
    | true => exact ⟨who, joins, rest, rfl, hp⟩
    | false => simp [State.step?, hp, Frame.timeOut?] at hs

/-- Who gives up the join goes on to clear the wake-up. -/
theorem State.Abandons.next (h : s.Abandons a) (hs : s.step? a = some m) :
    ∃ who rest, m.state = s.setPending who (.stopClear :: rest) ∧
      .loopWait ∈ (s.setPending who rest).pending .loop := by
  obtain ⟨who, timed, joins, rest, hp, ha, hw⟩ := h
  refine ⟨who, rest, ?_, ?_⟩
  · rcases ha with rfl | rfl
    · simp only [State.step?_runs hp, Frame.move?, Option.map_eq_some_iff] at hs
      obtain ⟨μ, hμ, rfl⟩ := hs
      split at hμ
      · simp only [Option.some.injEq] at hμ
        subst hμ
        rfl
      · cases hμ
    · simp only [State.step?, hp, Option.map_eq_some_iff] at hs
      obtain ⟨μ, hμ, rfl⟩ := hs
      cases timed with
      | true =>
          simp only [Frame.timeOut?, Option.some.injEq] at hμ
          subst hμ
          rfl
      | false => simp [Frame.timeOut?] at hμ
  · by_cases hl : Who.loop = who
    · subst hl
      rw [hp, List.mem_cons] at hw
      simpa using hw
    · rwa [setPending_of_ne hl]

/-- The end of a stop clears the wake-up, whatever the loop is about to do. -/
theorem State.run?_stopClear (hp : s.pending who = .stopClear :: rest) :
    ∃ t, s.run? (List.replicate 3 (.runs who)) = some t ∧ t.phase = .stopped ∧ t.wake = false ∧
      t.pending who = rest ∧ ∀ w ≠ who, t.pending w = s.pending w := by
  refine ⟨_, by simp [run?, step?, List.replicate, hp, Frame.move?, apply]; rfl, rfl, rfl, ?_, ?_⟩
  · simp
  · intro w hw
    simp [setPending, hw]

end

/-! ### A refresh can end -/

namespace Frame

/-- A bound on the steps that a refresh has still to take. -/
def left : Frame → Nat
  | .acquire => 11
  | .checkStopping => 10
  | .markLoading => 9
  | .fetch => 8
  | .fetching => 7
  | .publish _ => 6
  | .markReady _ => 5
  | .openGate _ => 4
  | .report _ => 5
  | .noteSinkRaised _ => 4
  | .chooseRest => 3
  | .noteRefreshed _ | .settle _ => 2
  | _ => 1

end Frame

/-- What the steps of a thread leave alone that only refreshes. -/
structure Aside (v : Who) (s t : State) : Prop where
  phase : t.phase = s.phase
  wake : t.wake = s.wake
  others : ∀ w ≠ v, t.pending w = s.pending w

section

variable {s t : State} {who v w : Who} {f g : Frame} {a : Action} {m : Move} {rest : List Frame}

/-- A refresh can always take a turn, unless it has to wait for the lock, and is closer to its end
afterwards. -/
theorem exists_turn (hp : s.pending who = f :: rest) (hf : f.family = .refresh)
    (hl : f = .acquire → s.refresher = none) :
    ∃ a m, Turn s who f a m ∧ s.step? a = some (State.apply who rest m) ∧
      ∀ g ∈ m.next, g.family = .refresh ∧ g.left < f.left := by
  -- the service answers with a list, and the error sink returns
  have run {m : Move} (hm : f.move? s who = some m)
      (hn : ∀ g ∈ m.next, g.family = .refresh ∧ g.left < f.left) :
      ∃ a m, Turn s who f a m ∧ s.step? a = some (State.apply who rest m) ∧
        ∀ g ∈ m.next, g.family = .refresh ∧ g.left < f.left := by
    refine ⟨.runs who, m, .runs hm ?_, by rw [State.step?_runs hp, hm]; rfl, hn⟩
    rintro rfl
    cases hf
  cases f with
  | fetching =>
      refine ⟨.answers who (.ok []), _, .answers (.ok []) rfl, by simp [State.step?, hp], ?_⟩
      simp [State.answerFrames, Frame.left, Frame.family]
  | report e =>
      refine ⟨.sinks who .returns, _, .sinks e .returns rfl, by simp [State.step?, hp], ?_⟩
      simp [SinkBehaviour.frames, afterSink, Frame.left, Frame.family]
  | acquire => exact run (by simp only [Frame.move?, hl rfl]; rfl) (by simp [Frame.left, Frame.family])
  | checkStopping => exact run rfl (by simp only; split <;> simp [Frame.left, Frame.family])
  | markLoading | fetch | publish _ | markReady _ | openGate _ | noteRefreshed _ | noteSinkRaised _
  | chooseRest | settle _ | release _ => exact run rfl (by simp [Frame.left, Frame.family])
  | _ => cases hf

/-- A turn of a refresh leaves alone what the loop's wait depends on. -/
theorem Turn.aside (h : Turn s who f a m) (hf : f.family = .refresh) (hs : s.phase.isFinal) :
    Aside who s (State.apply who rest m).state where
  phase := by
    refine h.effect.phase_eq_of_isFinal hs ?_
    rintro rfl
    cases hf
  wake := by
    rcases h.effect.wake with h' | ⟨rfl | rfl, _⟩ | ⟨rfl | ⟨_, _, rfl⟩, _⟩
    · exact h'
    all_goals cases hf
  others w hw := by simp only [State.apply, State.setPending_of_ne hw, h.effect.pending]

theorem Aside.trans {u : State} (h : Aside v s t) (h' : Aside v t u) : Aside v s u where
  phase := h'.phase.trans h.phase
  wake := h'.wake.trans h.wake
  others w hw := (h'.others w hw).trans (h.others w hw)

/-- **A refresh can end**, with the lock given back. -/
theorem refresh_ends (hp : s.pending who = f :: rest) (hf : f.family = .refresh)
    (hl : f = .acquire → s.refresher = none) (hs : s.phase.isFinal) :
    ∃ actions t, s.run? actions = some t ∧ t.pending who = rest ∧ t.refresher = none ∧
      Aside who s t := by
  -- by induction on the number of steps that are left: the next one leaves fewer, or ends the refresh
  induction hn : f.left using Nat.strongRecOn generalizing s f with
  | ind n ih =>
      obtain ⟨a, m, ht, hstep, hleft⟩ := exists_turn hp hf hl
      have haside : Aside who s (State.apply who rest m).state := ht.aside hf hs
      rcases ht.next_family with ⟨hm, hr⟩ | ⟨g, hm, hg, hga⟩ | ⟨rfl, _⟩ | ⟨e, _, failing, rfl, hm⟩
      · obtain ⟨ok, rfl⟩ := hr hf
        refine ⟨[a], _, by simp [State.run?, hstep], by simp [State.apply, hm], ?_, haside⟩
        rcases ht.effect.refresher with ⟨h, _⟩ | ⟨_, h⟩ | ⟨_, h, _⟩
        · cases h
        · exact h
        · exact absurd rfl (h ok)
      · obtain ⟨actions, t, hrun, hpt, hlt, hat⟩ :=
          ih g.left (hn ▸ (hleft g (by simp [hm])).2) (s := (State.apply who rest m).state)
            (by simp [State.apply, hm]) (hg.trans hf) (fun h => absurd h hga)
            (by rw [haside.phase]; exact hs) rfl
        exact ⟨a :: actions, t, State.run?_cons_eq_some.mpr ⟨_, hstep, hrun⟩, hpt, hlt,
          haside.trans hat⟩
      · cases hf
      · have := (hleft (.stopMark _) (by rw [hm]; exact List.mem_cons_self)).1
        cases this

/-- A thread within a refresh, be it that its error sink has still to return, can end it. -/
theorem State.StopReturned.refresh_ends (h : s.StopReturned) (hp : s.pending who = f :: rest ∨
      ∃ g, g.family = .stop ∧ s.pending who = g :: f :: rest)
    (hf : f.family = .refresh) (hl : f = .acquire → s.refresher = none) :
    ∃ actions t, s.run? actions = some t ∧ t.pending who = rest ∧ t.refresher = none ∧
      Aside who s t := by
  rcases hp with hp | ⟨g, hg, hp⟩
  · exact Poller.refresh_ends hp hf hl h.final
  · -- the sink asked for another stop, which returns at once
    have hmark : ∃ timed, g = .stopMark timed := by
      have := h.returned who g (by simp [hp])
      cases g <;> simp_all [Frame.family, Frame.performsStop]
    obtain ⟨timed, rfl⟩ := hmark
    have hs : s.step? (.runs who) =
        some (apply who (f :: rest) { state := s, result := some .done }) := by
      rw [step?_runs hp]
      simp [Frame.move?, h.final]
    have haside : Aside who s (s.setPending who (f :: rest)) :=
      ⟨rfl, rfl, fun w hw => setPending_of_ne hw⟩
    obtain ⟨actions, t, hrun, hpt, hlt, hat⟩ :=
      Poller.refresh_ends (s := s.setPending who (f :: rest)) setPending_self hf hl h.final
    exact ⟨.runs who :: actions, t, run?_cons_eq_some.mpr ⟨_, hs, hrun⟩, hpt, hlt, haside.trans hat⟩

/-- A stop that has returned does not come back. -/
theorem State.StopReturned.step (h : s.StopReturned) (hi : Invariant s) (hs : s.step? a = some m) :
    m.state.StopReturned := by
  have hst := hi.stopped_of_stopReturned h
  have hst' : m.state.phase = .stopped := by
    rcases step?_cases hs with ⟨_, _, _, _, rfl⟩ | ⟨_, _, _, _, _, rfl⟩ | ⟨who, f, rest, μ, hp, ht, rfl⟩
    · exact hst
    · exact hst
    · exact ht.effect.stopped hst
  refine ⟨by rw [hst']; rfl, fun w g hg => ⟨fun hgs => ?_, ?_⟩⟩
  · have := ((hi.step hs).fits w g hg).stopping hgs
    simp [hst'] at this
  · rintro rfl
    rcases step?_cases hs with ⟨n, op, rfl, hp, rfl⟩ | ⟨who, rest, rfl, hp, hc, rfl⟩ |
      ⟨who, f, rest, μ, hp, ht, rfl⟩
    · rcases mem_setPending.mp hg with ⟨_, hg⟩ | ⟨_, hg⟩
      · cases op <;> simp [Operation.frames] at hg
      · exact (h.returned w _ hg).2 rfl
    · have := hc.2
      simp [hst] at this
    · rcases ht.mem_pending hp hg with ⟨rfl, hn⟩ | hg
      · obtain rfl := (ht.origin hn).noted rfl
        exact (h.returned w .stopFinish (by simp [hp])).1 rfl
      · exact (h.returned w _ hg).2 rfl

/-- The stack of a thread that has the lock on refreshes: above the refresh there is nothing, or the
stop that its error sink has asked for. -/
theorem Layout.of_holdsLock {frames : List Frame} (hl : Layout who frames) (hf : f ∈ frames)
    (hfl : f.holdsLock) :
    frames = f :: base who ∨
      ∃ g, g.family = .stop ∧ f.isAfterSink ∧ frames = g :: f :: base who := by
  have hfam := Frame.family_of_holdsLock hfl
  have hbase : f ∉ base who := by
    cases who with
    | loop => simp only [base, List.mem_singleton]; rintro rfl; cases hfam
    | caller n => simp [base]
  cases hl with
  | idle => cases hf
  | loop _ hg | call _ hg =>
      rw [List.mem_singleton] at hf
      subst hf
      simp [hfam] at hg
  | refresh hg =>
      rcases List.mem_cons.mp hf with rfl | hf
      · exact .inl rfl
      · exact absurd hf hbase
  | @sink g g' hg hg' =>
      simp only [List.mem_cons] at hf
      rcases hf with rfl | rfl | hf
      · simp [hfam] at hg
      · exact .inr ⟨g, hg, hg', rfl⟩
      · exact absurd hf hbase
  | stop _ hg hr =>
      rcases hr with rfl | rfl
      · rw [List.mem_singleton] at hf
        subst hf
        simp [hfam] at hg
      · simp only [List.mem_cons, List.not_mem_nil, or_false] at hf
        rcases hf with rfl | rfl
        · simp [hfam] at hg
        · cases hfam

/-- The stack of the loop when it has still to wait. -/
theorem Layout.of_loopWait {frames : List Frame} (hl : Layout .loop frames) (hf : .loopWait ∈ frames) :
    frames = [.loopWait] ∨ ∃ f, f.family = .refresh ∧ (frames = [f, .loopWait] ∨
      ∃ g, g.family = .stop ∧ frames = [g, f, .loopWait]) := by
  cases hl with
  | idle => cases hf
  | loop _ hg => exact .inl (by rw [List.mem_singleton] at hf; rw [hf])
  | refresh hg => exact .inr ⟨_, hg, .inl rfl⟩
  | sink hg hg' =>
      exact .inr ⟨_, Frame.family_of_holdsLock (Frame.holdsLock_of_isAfterSink hg'), .inr ⟨_, hg, rfl⟩⟩
  | call hw _ | stop hw _ _ => exact absurd rfl hw

/-- A refresh that has the lock can give it back. -/
theorem State.StopReturned.lock_freed (h : s.StopReturned) (hi : Invariant s)
    (hl : s.refresher = some v) :
    ∃ actions t, s.run? actions = some t ∧ t.refresher = none ∧ Aside v s t := by
  obtain ⟨f, hf, hfl⟩ := hi.lockHeld v hl
  have hstack : s.pending v = f :: base v ∨ ∃ g, g.family = .stop ∧ s.pending v = g :: f :: base v :=
    ((hi.layout v).of_holdsLock hf hfl).imp_right fun ⟨g, hg, _, hp⟩ => ⟨g, hg, hp⟩
  obtain ⟨actions, t, hrun, _, hfree, hat⟩ :=
    h.refresh_ends hstack (Frame.family_of_holdsLock hfl) (by rintro rfl; cases hfl)
  exact ⟨actions, t, hrun, hfree, hat⟩

/-- **The loop oversleeps** if it comes to its wait after the stop has cleared the wake-up. -/
theorem State.StopReturned.can_oversleep (h : s.StopReturned) (hi : Invariant s) (hwake : s.wake = false)
    (hw : .loopWait ∈ s.pending .loop) :
    ∃ actions t, s.run? actions = some t ∧ t.Oversleeps := by
  have keep {actions : List Action} {t : State} (hr : s.run? actions = some t) :
      Invariant t ∧ t.StopReturned := by
    refine run?_keeps (P := fun t => Invariant t ∧ t.StopReturned) ?_ ⟨hi, h⟩ hr
    rintro u a m ⟨hiu, hu⟩ hm
    exact ⟨hiu.step hm, hu.step hiu hm⟩
  have finish {actions : List Action} {t : State} (hr : s.run? actions = some t)
      (hwt : t.wake = false) (hl : t.pending .loop = [.loopWait]) : t.Oversleeps := by
    obtain ⟨hit, ht⟩ := keep hr
    exact ⟨hit.stopped_of_stopReturned ht, ht, hwt, .inl hl⟩
  rcases (hi.layout .loop).of_loopWait hw with hl | ⟨f, hf, hl⟩
  · exact ⟨[], s, rfl, @finish [] s rfl hwake hl⟩
  · -- another thread may have the lock that the loop is waiting for
    obtain ⟨before, u, hu, hfree, hpu, hwu⟩ : ∃ before u, s.run? before = some u ∧
        (f = .acquire → u.refresher = none) ∧ u.pending .loop = s.pending .loop ∧
        u.wake = false := by
      by_cases hv : ∃ v, s.refresher = some v ∧ v ≠ .loop
      · obtain ⟨v, hv, hvl⟩ := hv
        obtain ⟨before, u, hu, hfree, hau⟩ := h.lock_freed hi hv
        exact ⟨before, u, hu, fun _ => hfree, hau.others .loop (Ne.symm hvl), hau.wake.trans hwake⟩
      · refine ⟨[], s, rfl, fun hfa => ?_, rfl, hwake⟩
        cases hr : s.refresher with
        | none => rfl
        | some v =>
            obtain rfl : v = .loop := Classical.not_not.mp fun hvl => hv ⟨v, hr, hvl⟩
            obtain ⟨f', hf', hfl⟩ := hi.lockHeld .loop hr
            have hfam := Frame.family_of_holdsLock hfl
            rcases hl with hl | ⟨g, hg, hl⟩ <;>
              simp only [hl, List.mem_cons, List.not_mem_nil, or_false] at hf' <;> grind
    obtain ⟨_, hru⟩ := keep hu
    obtain ⟨actions, t, hrun, hpt, _, hat⟩ := hru.refresh_ends (hpu ▸ hl) hf hfree
    have hr := (run?_append hu).trans hrun
    exact ⟨_, t, hr, finish hr (hat.wake.trans hwu) hpt⟩

/-- Once the join has been given up, the stop can return, with the wake-up cleared and the loop as it
was. -/
theorem State.Abandons.can_return (h : s.Abandons a) (hi : Invariant s) (hs : s.step? a = some m) :
    ∃ actions t, m.state.run? actions = some t ∧ Invariant t ∧ t.StopReturned ∧ t.wake = false ∧
      .loopWait ∈ t.pending .loop := by
  have him := hi.step hs
  obtain ⟨who, rest, hnext, hw⟩ := h.next hs
  have hpm : m.state.pending who = .stopClear :: rest := by rw [hnext, setPending_self]
  obtain ⟨t, ht, hst, hwake, hpt, hother⟩ := run?_stopClear hpm
  have hit : Invariant t := run?_keeps (fun _ _ _ hi h => Invariant.step hi h) him ht
  have hshutting : m.state.phase = .shuttingDown :=
    (him.fits who .stopClear (by simp [hpm])).stopping rfl
  refine ⟨_, t, ht, hit, ⟨by rw [hst]; rfl, fun w g hg => ⟨fun hgs => ?_, ?_⟩⟩, hwake, ?_⟩
  · have := (hit.fits w g hg).stopping hgs
    simp [hst] at this
  · -- nobody has stopped the poller before
    rintro rfl
    have hold : Frame.stopNote ∈ m.state.pending w := by
      by_cases hww : w = who
      · subst hww
        rw [hpm]
        exact List.mem_cons_of_mem _ (hpt ▸ hg)
      · exact hother w hww ▸ hg
    have := (him.fits w _ hold).noted rfl
    simp [hshutting] at this
  · by_cases hl : Who.loop = who
    · subst hl
      rwa [setPending_self, ← hpt] at hw
    · rw [hother .loop hl, hnext, setPending_of_ne hl]
      rwa [setPending_of_ne hl] at hw

end

/-! ## The theorem, and a run in which the loop oversleeps -/

/-- **When a stop leaves the loop asleep.**  A run in which it does is one in which somebody gives up
the join while the loop has still to wait, and whenever that happens the run can go on to leave the loop
asleep.  Who gives up the join is the loop itself, or a caller whose time is up. -/
theorem oversleeps_exactly_after_abandoning (interval : Binary64) :
    (∀ actions s, (State.new interval).run? actions = some s → s.Oversleeps →
      ∃ before a after t, actions = before ++ a :: after ∧
        (State.new interval).run? before = some t ∧ t.Abandons a) ∧
    (∀ s a m, State.Reachable interval s → s.Abandons a → s.step? a = some m →
      (a = .runs .loop ∨ ∃ who joins rest, a = .timesOut who ∧
        s.pending who = .stopJoin true joins :: rest) ∧
      ∃ more t, m.state.run? more = some t ∧ t.Oversleeps) := by
  refine ⟨?_, ?_⟩
  · intro actions s hr ho
    rcases (vigilant_new interval).run (invariant_new interval) hr with hv | h
    · exact absurd ho hv.not_oversleeps
    · exact h
  · intro s a m hs ha hm
    have hi := reachable_invariant hs
    refine ⟨ha.by hi hm, ?_⟩
    obtain ⟨first, u, hu, hiu, hru, hwake, hw⟩ := ha.can_return hi hm
    obtain ⟨second, t, ht, ho⟩ := hru.can_oversleep hiu hwake hw
    exact ⟨first ++ second, t, (State.run?_append hu).trans ht, ho⟩

/-- A caller stops the poller with a timeout and waits for the loop, which is fetching. -/
def timedStopWhileFetching : List Action := startUp ++ calls 0 (.stop true) 4

/-- One of these runs: the caller's time is up. -/
theorem expired_stop_can_leave_loop_asleep :
    ∃ actions s, (State.new (.ofInt 30)).run? actions = some s ∧ s.Oversleeps ∧
      ∃ before a after t, actions = before ++ a :: after ∧
        (State.new (.ofInt 30)).run? before = some t ∧ t.Abandons a := by
  have hrun : ((State.new (.ofInt 30)).run? timedStopWhileFetching).isSome := rfl
  let s := ((State.new (.ofInt 30)).run? timedStopWhileFetching).get hrun
  have hs : (State.new (.ofInt 30)).run? timedStopWhileFetching = some s := (Option.some_get hrun).symm
  have ha : s.Abandons (.timesOut (.caller 0)) :=
    ⟨.caller 0, true, true, [], rfl, .inr rfl,
      show Frame.loopWait ∈ [Frame.fetching, .loopWait] by simp⟩
  have hstep : (s.step? (.timesOut (.caller 0))).isSome := rfl
  have hm : s.step? (.timesOut (.caller 0)) = some ((s.step? (.timesOut (.caller 0))).get hstep) :=
    (Option.some_get hstep).symm
  obtain ⟨_, more, t, ht, ho⟩ :=
    (oversleeps_exactly_after_abandoning (.ofInt 30)).2 s _ _ ⟨_, hs⟩ ha hm
  have hall : (State.new (.ofInt 30)).run? (timedStopWhileFetching ++ .timesOut (.caller 0) :: more) =
      some t :=
    (State.run?_append hs).trans (State.run?_cons_eq_some.mpr ⟨_, hm, ht⟩)
  exact ⟨_, t, hall, ho, (oversleeps_exactly_after_abandoning (.ofInt 30)).1 _ t hall ho⟩

/-- The first listing fails, and the error sink stops the poller on the loop's own thread. -/
def sinkStopsOnLoop : List Action :=
  startUp ++ .answers .loop (.error (.library (.misuse "unavailable"))) ::
    .sinks .loop (.stops false false) :: List.replicate 11 (.runs .loop)

/-- Another one: the loop does not join itself. -/
theorem sink_stop_leaves_loop_asleep :
    ∃ s, State.Reachable (.ofInt 30) s ∧ s.Oversleeps := by
  have hrun : ((State.new (.ofInt 30)).run? sinkStopsOnLoop).isSome := rfl
  refine ⟨((State.new (.ofInt 30)).run? sinkStopsOnLoop).get hrun, ⟨_, (Option.some_get hrun).symm⟩, rfl,
    ⟨rfl, fun w f hf => ?_⟩, rfl, .inl rfl⟩
  cases w with
  | loop =>
      obtain rfl : f = .loopWait := List.mem_singleton.mp hf
      exact ⟨by decide, by simp⟩
  | caller n =>
      cases n with
      | zero => cases hf
      | succ n => cases hf

end Poller

end FeatureFlags
