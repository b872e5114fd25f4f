import FeatureFlags.Proofs.Poller.Deadlock

/-!
# `Proofs.Poller.Return` — a refresh whose listing is over can return

A refresh has the lock until it returns.  If its listing has succeeded, it publishes the list and can
return, with success.  If its listing has failed, it first has the error sink deal with the error, and
the sink may stop the poller.  It can return from there, too, without success, unless the stop waits
for a loop that waits for the lock: then it is `Ensnared`, and about to be deadlocked or so already.

`Invariant.canComplete` and `Invariant.canReturn` are about any state that has the invariant, so they
can be used after every step of a run.

## Contents

1. What can become of a refresh
2. A listing that has succeeded
3. A listing that has failed
4. The end of the loop
5. The stop that the error sink has asked for
6. A refresh that has the lock
-/

namespace FeatureFlags

namespace Poller

/-! ## What can become of a refresh -/

/-- The frames of a refresh that has the lock, by what its listing has come to. -/
def Frame.suits (f : Frame) : Option (Except Failure (List Flag)) → Bool
  | none =>
    match f with
    | .checkStopping | .markLoading | .fetch | .fetching | .release false => true
    | _ => false
  | some (.ok _) =>
    match f with
    | .publish _ | .markReady _ | .openGate _ | .noteRefreshed _ | .release true => true
    | _ => false
  | some (.error _) =>
    match f with
    | .report _ | .noteSinkRaised _ | .chooseRest | .settle _ | .release false => true
    | _ => false

/-- A refresh returns whether its listing has succeeded. -/
@[simp] theorem Frame.suits_release_ok {ok : Bool} {flags : List Flag} :
    (Frame.release ok).suits (some (.ok flags)) = ok := by
  cases ok <;> rfl

@[simp] theorem Frame.suits_release_error {ok : Bool} {failure : Failure} :
    (Frame.release ok).suits (some (.error failure)) = !ok := by
  cases ok <;> rfl

/-- The refresh of a thread can return, with success, and then readers see these flags. -/
def State.CanComplete (s : State) (who : Who) (flags : List Flag) : Prop :=
  s.Leads fun t => ∃ m, t.step? (.runs who) = some m ∧ m.result = some (.refreshed true) ∧
    m.state.snapshot = .ofFlags flags

/-- The refresh of a thread can return, without success. -/
def State.CanReturn (s : State) (who : Who) : Prop :=
  s.Leads fun t => ∃ m, t.step? (.runs who) = some m ∧ m.result = some (.refreshed false)

/-- The stop of a thread need not wait for a loop that does not end. -/
def State.CanJoin (s : State) (who : Who) (timed : Bool) : Prop :=
  timed = true ∨ s.started = false ∨ who = .loop ∨ s.pending .loop = [] ∨
    ∃ f, s.pending .loop = [f] ∧ f.family = .loop

/-- The loop waits for the lock on refreshes, and the error sink of the refresh that has it has asked
for a stop without a timeout, which has not left the join. -/
def State.Ensnared (s : State) (who : Who) : Prop :=
  (∃ rest, s.pending .loop = .acquire :: rest) ∧
    ∃ f rest, s.pending who = f :: rest ∧ (f = .stopMark false ∨ f.joinsForever)

section

variable {s t : State} {who : Who} {f g : Frame} {rest frames : List Frame} {timed joins : Bool}
  {flags flags' : List Flag}

namespace State

/-! ## A listing that has succeeded -/

theorem enter_snapshot {phase : Phase} : (s.enter phase).snapshot = s.snapshot := by
  unfold enter
  split <;> rfl

theorem canComplete_of_release (hp : s.pending who = .release true :: rest)
    (hs : s.snapshot = .ofFlags flags) : s.CanComplete who flags :=
  .refl ⟨_, (step?_runs hp).trans rfl, rfl, hs⟩

theorem canComplete_of_noteRefreshed (hp : s.pending who = .noteRefreshed flags' :: rest)
    (hs : s.snapshot = .ofFlags flags) : s.CanComplete who flags :=
  .of_runs hp rfl (canComplete_of_release setPending_self hs)

theorem canComplete_of_openGate (hp : s.pending who = .openGate flags' :: rest)
    (hs : s.snapshot = .ofFlags flags) : s.CanComplete who flags :=
  .of_runs hp rfl (canComplete_of_noteRefreshed setPending_self hs)

theorem canComplete_of_markReady (hp : s.pending who = .markReady flags' :: rest)
    (hs : s.snapshot = .ofFlags flags) : s.CanComplete who flags :=
  .of_runs hp rfl (canComplete_of_openGate setPending_self (enter_snapshot.trans hs))

/-- Whatever readers have seen before, they see the list that is published now. -/
theorem canComplete_of_publish (hp : s.pending who = .publish flags :: rest) :
    s.CanComplete who flags :=
  .of_runs hp rfl (canComplete_of_markReady setPending_self rfl)

/-! ## A listing that has failed -/

theorem canReturn_of_release (hp : s.pending who = .release false :: rest) : s.CanReturn who :=
  .refl ⟨_, (step?_runs hp).trans rfl, rfl⟩

theorem canReturn_of_settle {phase : Phase} (hp : s.pending who = .settle phase :: rest) :
    s.CanReturn who :=
  .of_runs hp rfl (canReturn_of_release setPending_self)

theorem canReturn_of_chooseRest (hp : s.pending who = .chooseRest :: rest) : s.CanReturn who :=
  .of_runs hp rfl (canReturn_of_settle setPending_self)

theorem canReturn_of_isAfterSink (hp : s.pending who = g :: rest) (hg : g.isAfterSink) :
    s.CanReturn who := by
  cases g with
  | chooseRest => exact canReturn_of_chooseRest hp
  | noteSinkRaised e => exact .of_runs hp rfl (canReturn_of_chooseRest setPending_self)
  | _ => cases hg

/-- The error sink may return. -/
theorem canReturn_of_report {e : LibraryError} (hp : s.pending who = .report e :: rest) :
    s.CanReturn who := by
  have hs : s.step? (.sinks who .returns) =
      some (apply who rest { state := s, next := [.chooseRest] }) := by
    simp [step?, hp, SinkBehaviour.frames, afterSink]
  exact .of_step? (canReturn_of_chooseRest setPending_self) hs rfl

/-! ## The end of the loop -/

/-- The loop ends when it looks at the event that ends it. -/
theorem leads_of_loopCheck (hp : s.pending .loop = [f]) (hf : f = .loopCheck ∨ f = .loopRecheck)
    (hs : s.stopping) (hst : s.started) (hw : s.pending who = frames) (hne : who ≠ .loop) :
    s.Leads fun t => t.loopEnded ∧ t.pending who = frames := by
  have hm : f.move? s .loop = some { state := s } := by
    rcases hf with rfl | rfl <;> simp [Frame.move?, hs]
  refine .of_runs hp hm (.refl ⟨?_, ?_⟩)
  · simp [loopEnded, apply, hst]
  · exact (setPending_of_ne hne).trans hw

theorem leads_of_loopParked (hp : s.pending .loop = [.loopParked]) (hs : s.stopping)
    (hst : s.started) (hw : s.pending who = frames) (hne : who ≠ .loop) :
    s.Leads fun t => t.loopEnded ∧ t.pending who = frames := by
  have hstep : s.step? (.timesOut .loop) =
      some (apply .loop [] { state := s, next := [.loopCheck] }) := by
    simp [step?, hp, Frame.timeOut?]
  refine .of_step? (leads_of_loopCheck setPending_self (.inl rfl) hs hst ?_ hne) hstep rfl
  exact (setPending_of_ne hne).trans hw

/-- **The loop can end** once it has been told to, unless it is in a refresh. -/
theorem leads_to_loopEnded (hp : s.pending .loop = [f]) (hf : f.family = .loop) (hs : s.stopping)
    (hst : s.started) (hw : s.pending who = frames) (hne : who ≠ .loop) :
    s.Leads fun t => t.loopEnded ∧ t.pending who = frames := by
  have keep {t : State} {next : List Frame} (ht : t.pending = s.pending) :
      (t.setPending .loop next).pending who = frames := by
    rw [setPending_of_ne hne, ht, hw]
  cases f <;> cases hf
  case loopCheck => exact leads_of_loopCheck hp (.inl rfl) hs hst hw hne
  case loopRecheck => exact leads_of_loopCheck hp (.inr rfl) hs hst hw hne
  case loopParked => exact leads_of_loopParked hp hs hst hw hne
  case loopClear =>
    exact .of_runs hp rfl (leads_of_loopCheck setPending_self (.inr rfl) hs hst (keep rfl) hne)
  case loopWait =>
    by_cases hwake : s.wake
    · have hm : Frame.loopWait.move? s .loop = some { state := s, next := [.loopCheck] } := by
        simp [Frame.move?, hwake]
      exact .of_runs hp hm (leads_of_loopCheck setPending_self (.inl rfl) hs hst (keep rfl) hne)
    by_cases hcan : s.canWait
    · have hm : Frame.loopWait.move? s .loop =
          some { state := { s with woken := false }, next := [.loopParked] } := by
        simp [Frame.move?, hwake, hcan]
      exact .of_runs hp hm (leads_of_loopParked setPending_self hs hst (keep rfl) hne)
    · -- an interval that is too long ends the loop, too
      have hm : Frame.loopWait.move? s .loop = some { state := s } := by
        simp [Frame.move?, hwake, hcan]
      exact .of_runs hp hm (.refl ⟨by simp [loopEnded, apply, hst], keep rfl⟩)

/-! ## The stop that the error sink has asked for -/

theorem CanJoin.mono (h : s.CanJoin who timed) (hs : t.started = s.started)
    (hl : who ≠ .loop → t.pending .loop = s.pending .loop) : t.CanJoin who timed := by
  by_cases hw : who = .loop
  · exact .inr (.inr (.inl hw))
  · simpa only [CanJoin, hs, hl hw] using h

theorem canReturn_of_stopNote (hp : s.pending who = .stopNote :: g :: rest) (hg : g.isAfterSink) :
    s.CanReturn who :=
  .of_runs hp rfl (canReturn_of_isAfterSink setPending_self hg)

theorem canReturn_of_stopFinish (hp : s.pending who = .stopFinish :: g :: rest)
    (hg : g.isAfterSink) : s.CanReturn who :=
  .of_runs hp rfl (canReturn_of_stopNote setPending_self hg)

theorem canReturn_of_stopClear (hp : s.pending who = .stopClear :: g :: rest)
    (hg : g.isAfterSink) : s.CanReturn who :=
  .of_runs hp rfl (canReturn_of_stopFinish setPending_self hg)

theorem canReturn_of_stopJoin (hp : s.pending who = .stopJoin timed joins :: g :: rest)
    (hg : g.isAfterSink) (hs : s.stopping) (hj : joins = s.started) (hc : s.CanJoin who timed) :
    s.CanReturn who := by
  have leave {t : State} (hp : t.pending who = .stopJoin timed joins :: g :: rest)
      (h : joins = false ∨ who = .loop ∨ t.loopEnded) : t.CanReturn who := by
    have hm : (Frame.stopJoin timed joins).move? t who = some { state := t, next := [.stopClear] } := by
      rcases h with h | h | h <;> simp [Frame.move?, h]
    exact .of_runs hp hm (canReturn_of_stopClear setPending_self hg)
  rcases hc with rfl | hst | hw | hl | ⟨f, hl, hf⟩
  · -- the timeout runs out
    have hstep : s.step? (.timesOut who) =
        some (apply who (g :: rest) { state := s, next := [.stopClear] }) := by
      simp [step?, hp, Frame.timeOut?]
    exact .of_step? (canReturn_of_stopClear setPending_self hg) hstep rfl
  · -- there is no loop to be joined, and no thread joins itself
    exact leave hp (.inl (hj.trans hst))
  · exact leave hp (.inr (.inl hw))
  · cases hst : s.started with
    | false => exact leave hp (.inl (hj.trans hst))
    | true => exact leave hp (.inr (.inr (by simp [loopEnded, hst, hl])))
  · -- the loop is outside a refresh, and can end first
    cases hst : s.started with
    | false => exact leave hp (.inl (hj.trans hst))
    | true =>
        have hne : who ≠ .loop := by
          rintro rfl
          rw [hp, List.cons.injEq] at hl
          cases hl.2
        exact (leads_to_loopEnded hl hf hs hst hp hne).trans fun t ht => leave ht.2 (.inr (.inr ht.1))

theorem canReturn_of_stopOpenGate (hp : s.pending who = .stopOpenGate timed joins :: g :: rest)
    (hg : g.isAfterSink) (hs : s.stopping) (hj : joins = s.started) (hc : s.CanJoin who timed) :
    s.CanReturn who := by
  refine .of_runs hp rfl (canReturn_of_stopJoin setPending_self hg hs hj (hc.mono rfl fun hw => ?_))
  exact setPending_of_ne (Ne.symm hw)

theorem canReturn_of_stopWake (hp : s.pending who = .stopWake timed joins :: g :: rest)
    (hg : g.isAfterSink) (hs : s.stopping) (hj : joins = s.started) (hc : s.CanJoin who timed) :
    s.CanReturn who := by
  refine .of_runs hp rfl
    (canReturn_of_stopOpenGate setPending_self hg hs hj (hc.mono rfl fun hw => ?_))
  exact setPending_of_ne (Ne.symm hw)

theorem canReturn_of_stopSignal (hp : s.pending who = .stopSignal timed joins :: g :: rest)
    (hg : g.isAfterSink) (hj : joins = s.started) (hc : s.CanJoin who timed) : s.CanReturn who := by
  refine .of_runs hp rfl (canReturn_of_stopWake setPending_self hg rfl hj (hc.mono rfl fun hw => ?_))
  exact setPending_of_ne (Ne.symm hw)

theorem canReturn_of_stopMark (hp : s.pending who = .stopMark timed :: g :: rest)
    (hg : g.isAfterSink) (hc : s.CanJoin who timed) : s.CanReturn who := by
  cases hfinal : s.phase.isFinal with
  | true =>
      have hm : (Frame.stopMark timed).move? s who = some { state := s, result := some .done } := by
        simp [Frame.move?, hfinal]
      exact .of_runs hp hm (canReturn_of_isAfterSink setPending_self hg)
  | false =>
      have hm : (Frame.stopMark timed).move? s who = some
          { state := { s with phase := .shuttingDown }, next := [.stopSignal timed s.started] } := by
        simp [Frame.move?, hfinal]
      refine .of_runs hp hm
        (canReturn_of_stopSignal setPending_self hg rfl (hc.mono rfl fun hw => ?_))
      exact setPending_of_ne (Ne.symm hw)

end State

/-! ## A refresh that has the lock -/

/-- A stop that cannot leave the join waits for a loop that waits for the lock. -/
theorem Invariant.of_not_canJoin (hi : Invariant s) (hl : s.refresher = some who)
    (hc : ¬ s.CanJoin who timed) :
    timed = false ∧ s.started = true ∧ ∃ rest, s.pending .loop = .acquire :: rest := by
  simp only [State.CanJoin, not_or, Bool.not_eq_true, Bool.not_eq_false] at hc
  obtain ⟨ht, hst, hw, hnil, hloop⟩ := hc
  rcases hi.loop_of_refresher hl hw with h | h | h
  · exact absurd h hnil
  · exact absurd h hloop
  · exact ⟨ht, hst, _, h⟩

/-- The stop that an error sink has asked for can return, and then the refresh, unless it is ensnared. -/
theorem Invariant.canReturn_of_sink (hi : Invariant s) (hl : s.refresher = some who)
    (hp : s.pending who = f :: g :: rest) (hf : f.family = .stop) (hg : g.isAfterSink) :
    s.CanReturn who ∨ (s.started ∧ s.Ensnared who) := by
  have hff : f.Fits s who := hi.fits who f (by simp [hp])
  -- whether the stop can leave the join matters only if it has not left it
  have either (timed : Bool) (hforever : timed = false → s.started = true →
        f = .stopMark false ∨ f.joinsForever) (hreturn : s.CanJoin who timed → s.CanReturn who) :
      s.CanReturn who ∨ (s.started ∧ s.Ensnared who) := by
    by_cases hc : s.CanJoin who timed
    · exact .inl (hreturn hc)
    · obtain ⟨ht, hst, hloop⟩ := hi.of_not_canJoin hl hc
      exact .inr ⟨hst, hloop, f, g :: rest, hp, hforever ht hst⟩
  cases f with
  | stopMark timed =>
      exact either timed (fun ht _ => .inl (by rw [ht])) fun hc => State.canReturn_of_stopMark hp hg hc
  | stopSignal timed joins =>
      have hj := hff.joins joins rfl
      refine either timed (fun ht hst => .inr (by rw [hj, ht, hst]; rfl)) fun hc => ?_
      exact State.canReturn_of_stopSignal hp hg hj hc
  | stopWake timed joins =>
      have hj := hff.joins joins rfl
      refine either timed (fun ht hst => .inr (by rw [hj, ht, hst]; rfl)) fun hc => ?_
      exact State.canReturn_of_stopWake hp hg (hff.signalled rfl) hj hc
  | stopOpenGate timed joins =>
      have hj := hff.joins joins rfl
      refine either timed (fun ht hst => .inr (by rw [hj, ht, hst]; rfl)) fun hc => ?_
      exact State.canReturn_of_stopOpenGate hp hg (hff.signalled rfl) hj hc
  | stopJoin timed joins =>
      have hj := hff.joins joins rfl
      refine either timed (fun ht hst => .inr (by rw [hj, ht, hst]; rfl)) fun hc => ?_
      exact State.canReturn_of_stopJoin hp hg (hff.signalled rfl) hj hc
  | stopClear => exact .inl (State.canReturn_of_stopClear hp hg)
  | stopFinish => exact .inl (State.canReturn_of_stopFinish hp hg)
  | stopNote => exact .inl (State.canReturn_of_stopNote hp hg)
  | _ => cases hf

/-- A refresh that is about to publish a list can do so, and return. -/
theorem Invariant.canComplete_of_publish (hi : Invariant s) (hf : .publish flags ∈ s.pending who) :
    s.CanComplete who flags := by
  rcases (hi.layout who).of_holdsLock hf rfl with hp | ⟨_, _, hfa, _⟩
  · exact State.canComplete_of_publish hp
  · cases hfa

/-- **A refresh that has published a list can return**, with success. -/
theorem Invariant.canComplete (hi : Invariant s) (hl : s.refresher = some who)
    (hs : ∀ f ∈ s.pending who, f.holdsLock → f.suits (some (.ok flags)))
    (hnone : ∀ flags', .publish flags' ∉ s.pending who) (hsnapshot : s.snapshot = .ofFlags flags) :
    s.CanComplete who flags := by
  obtain ⟨f, hf, hfl⟩ := hi.lockHeld who hl
  have hsuits := hs f hf hfl
  rcases (hi.layout who).of_holdsLock hf hfl with hp | ⟨g, hg, hfa, hp⟩
  · cases f with
    | publish flags' => exact absurd hf (hnone flags')
    | markReady flags' => exact State.canComplete_of_markReady hp hsnapshot
    | openGate flags' => exact State.canComplete_of_openGate hp hsnapshot
    | noteRefreshed flags' => exact State.canComplete_of_noteRefreshed hp hsnapshot
    | release ok =>
        obtain rfl : ok = true := by simpa using hsuits
        exact State.canComplete_of_release hp hsnapshot
    | _ => cases hsuits
  · -- the error sink is not called
    cases f with
    | noteSinkRaised e | chooseRest => cases hsuits
    | _ => cases hfa

/-- **A refresh that has failed can return**, without success, unless it is ensnared. -/
theorem Invariant.canReturn (hi : Invariant s) (hl : s.refresher = some who) {failure : Failure}
    (hs : ∀ f ∈ s.pending who, f.holdsLock → f.suits (some (.error failure))) :
    s.CanReturn who ∨ (s.started ∧ s.Ensnared who) := by
  obtain ⟨f, hf, hfl⟩ := hi.lockHeld who hl
  have hsuits := hs f hf hfl
  rcases (hi.layout who).of_holdsLock hf hfl with hp | ⟨g, hg, hfa, hp⟩
  · left
    cases f with
    | report e => exact State.canReturn_of_report hp
    | noteSinkRaised e => exact State.canReturn_of_isAfterSink hp rfl
    | chooseRest => exact State.canReturn_of_chooseRest hp
    | settle phase => exact State.canReturn_of_settle hp
    | release ok =>
        obtain rfl : ok = false := by simpa using hsuits
        exact State.canReturn_of_release hp
    | _ => cases hsuits
  · exact hi.canReturn_of_sink hl hp hg hfa

end

end Poller

end FeatureFlags
