import FeatureFlags.Proofs.Poller.Wakeup

/-!
# `Proofs.Poller.Deadlock` — when a stop and the loop wait for each other

The error sink is called by a refresh that has the lock.  If it stops the poller without a timeout,
and is called by a caller's refresh, then the caller waits for the end of the loop with the lock in its
hands; a loop that has come to its own refresh by then waits for the lock.  They are `Deadlocked`, and
stay so whatever happens.

`deadlocks_exactly_after_entangling` says that this is the only way to it, and that this way is open
whenever such a stop begins (`State.Entangles`) while the loop has not ended.

## Contents

1. Threads that wait for each other
2. Nobody gets out of it
3. Nobody gets into it, unless a sink's stop entangles him
4. A loop that has not ended can come to its refresh
5. The theorem, and a run into a deadlock
-/

namespace FeatureFlags

namespace Poller

/-! ## Threads that wait for each other -/

/-- A thread that has the lock on refreshes waits, without a timeout, for the end of the loop, and the
loop waits for the lock. -/
structure State.Deadlocked (s : State) (v : Who) : Prop where
  holds : s.refresher = some v
  joining : ∃ rest, s.pending v = .stopJoin false true :: rest
  waiting : ∃ rest, s.pending .loop = .acquire :: rest

/-- An action with which a stop without a timeout begins that the error sink of a caller's refresh has
asked for, while the loop has not ended. -/
def State.Entangles (s : State) (a : Action) : Prop :=
  ∃ n g rest, a = .runs (.caller n) ∧ s.pending (.caller n) = .stopMark false :: g :: rest ∧
    g.isAfterSink ∧ s.phase.isFinal = false ∧ s.pending .loop ≠ []

section

variable {s t : State} {who v w : Who} {f g : Frame} {a : Action} {m : Move} {rest : List Frame}

/-! ## Nobody gets out of it -/

theorem State.Deadlocked.ne_loop (h : s.Deadlocked v) : v ≠ .loop := by
  rintro rfl
  obtain ⟨rest, hp⟩ := h.joining
  obtain ⟨rest', hp'⟩ := h.waiting
  simp [hp] at hp'

/-- Neither of the two takes a turn. -/
theorem State.Deadlocked.not_turn (h : s.Deadlocked v) (hp : s.pending who = f :: rest)
    (ht : Turn s who f a m) : who ≠ v ∧ who ≠ .loop := by
  refine ⟨?_, ?_⟩
  · rintro rfl
    obtain ⟨rest', hp'⟩ := h.joining
    obtain ⟨rfl, _⟩ : f = .stopJoin false true ∧ rest = rest' := by simpa [hp] using hp'
    have hend : s.loopEnded = false := by
      obtain ⟨_, hl⟩ := h.waiting
      simp [State.loopEnded, hl]
    cases ht with
    | runs hm _ => simp [Frame.move?, hend, h.ne_loop] at hm
    | answers _ hm | sinks _ _ hm => cases hm
    | timesOut hm => cases hm
  · rintro rfl
    obtain ⟨rest', hp'⟩ := h.waiting
    obtain ⟨rfl, _⟩ : f = .acquire ∧ rest = rest' := by simpa [hp] using hp'
    cases ht with
    | runs hm _ => simp [Frame.move?, h.holds] at hm
    | answers _ hm | sinks _ _ hm => cases hm
    | timesOut hm => cases hm

/-- **A deadlock stays.** -/
theorem State.Deadlocked.step (h : s.Deadlocked v) (hi : Invariant s) (hs : s.step? a = some m) :
    m.state.Deadlocked v := by
  obtain ⟨rest, hv⟩ := h.joining
  obtain ⟨rest', hl⟩ := h.waiting
  rcases State.step?_cases hs with ⟨n, op, _, hp, rfl⟩ | ⟨who, _, _, _, hc, _⟩ |
    ⟨who, f, rest₀, μ, hp, ht, rfl⟩
  · have hn : v ≠ .caller n := by
      rintro rfl
      simp [hp] at hv
    exact ⟨h.holds, ⟨rest, (setPending_of_ne hn).trans hv⟩,
      ⟨rest', (setPending_of_ne (by simp)).trans hl⟩⟩
  · -- the loop has been launched already
    have := hi.notLaunched hc.1
    simp [hl] at this
  · obtain ⟨hwv, hwl⟩ := h.not_turn hp ht
    refine ⟨?_, ⟨rest, (ht.pending_apply_of_ne hwv.symm).trans hv⟩,
      ⟨rest', (ht.pending_apply_of_ne hwl.symm).trans hl⟩⟩
    show μ.state.refresher = some v
    rcases ht.effect.refresher with ⟨_, hn, _⟩ | ⟨⟨ok, rfl⟩, _⟩ | ⟨_, _, h'⟩
    · rw [h.holds] at hn
      cases hn
    · -- who gives the lock back has it
      have := (hi.fits who (.release ok) (by simp [hp])).lock rfl
      exact absurd (Option.some.inj (this.symm.trans h.holds)) hwv
    · exact h'.trans h.holds

/-- The stop of a deadlocked poller does not come to its end. -/
theorem State.Deadlocked.phase (h : s.Deadlocked v) (hi : Invariant s) : s.phase = .shuttingDown := by
  obtain ⟨rest, hv⟩ := h.joining
  exact (hi.fits v (.stopJoin false true) (by simp [hv])).stopping rfl

/-! ## Nobody gets into it, unless a sink's stop entangles him -/

namespace Frame

/-- The frames of a stop that is going to wait for the loop without a timeout, or does so. -/
def joinsForever : Frame → Bool
  | .stopSignal false true | .stopWake false true | .stopOpenGate false true
  | .stopJoin false true => true
  | _ => false

theorem performsStop_of_joinsForever {f : Frame} (h : f.joinsForever) : f.performsStop := by
  unfold joinsForever at h
  split at h <;> first | rfl | cases h

theorem not_joinsForever_of_mem_frames {op : Operation} (hf : f ∈ op.frames) :
    ¬ f.joinsForever :=
  fun h => not_performsStop_of_mem_frames hf (performsStop_of_joinsForever h)

end Frame

/-- While the loop has not ended, no caller that waits for its end is within a refresh. -/
def Untangled (s : State) : Prop :=
  ∀ n, ∀ f ∈ s.pending (.caller n), f.joinsForever →
    s.pending .loop = [] ∨ ∀ g ∈ s.pending (.caller n), ¬ g.isAfterSink

theorem untangled_new (interval : Binary64) : Untangled (State.new interval) := by
  intro n f hf
  cases hf

/-- A stop that waits for the loop without a timeout has gone on from one, or has just begun. -/
theorem Turn.of_next_joinsForever (h : Turn s who f a m) (hn : g ∈ m.next) (hg : g.joinsForever) :
    f.joinsForever ∨ (f = .stopMark false ∧ a = .runs who ∧ s.phase.isFinal = false) := by
  cases h.follows hn with
  | marksStop timed hf =>
      cases timed with
      | false => exact .inr ⟨rfl, rfl, hf⟩
      | true => cases hg
  | signals timed joins | wakesLoop timed joins | letsAllIn timed joins =>
      cases timed <;> cases joins <;> first | exact .inl rfl | cases hg
  | _ => cases hg

/-- The refresh below a stop that its error sink asked for. -/
theorem Layout.of_isAfterSink {n : Nat} (hl : Layout (.caller n) (f :: rest)) (hf : f.family = .stop)
    (hg : g ∈ rest) (hga : g.isAfterSink) : rest = [g] := by
  cases hl with
  | loop hw _ => cases hw
  | call _ hf' | refresh hf' => simp [hf] at hf'
  | sink _ _ => simp only [base, List.mem_singleton] at hg ⊢; rw [hg]
  | stop _ _ hr =>
      rcases hr with rfl | rfl
      · cases hg
      · rw [List.mem_singleton] at hg
        subst hg
        cases hga

/-- A stop goes on with no refresh of its own. -/
theorem Turn.not_isAfterSink_next (h : Turn s who f a m) (hf : f.family = .stop) (hn : g ∈ m.next) :
    ¬ g.isAfterSink := by
  intro hg
  have hfam := Frame.family_of_holdsLock (Frame.holdsLock_of_isAfterSink hg)
  rcases h.next_family with ⟨hm, _⟩ | ⟨g', hm, hg', _⟩ | ⟨rfl, _⟩ | ⟨_, _, _, rfl, _⟩
  · simp [hm] at hn
  · rw [hm, List.mem_singleton] at hn
    rw [hn, hg', hf] at hfam
    cases hfam
  · cases hf
  · cases hf

theorem Untangled.turn (h : Untangled s) (hi : Invariant s) (hp : s.pending who = f :: rest)
    (ht : Turn s who f a m) (ha : ¬ s.Entangles a) : Untangled (State.apply who rest m).state := by
  intro n g hg hgj
  have hl : Layout who (f :: rest) := hp ▸ hi.layout who
  by_cases hw : .caller n = who
  · subst hw
    have hloop : (State.apply (.caller n) rest m).state.pending .loop = s.pending .loop :=
      ht.pending_apply_of_ne (by simp)
    rw [hloop]
    rcases mem_pending_apply.mp hg with ⟨_, hn | hr⟩ | ⟨hne, _⟩
    · -- the thread is about to wait for the loop, and goes on with nothing else
      have hfs : f.family = .stop := by
        rcases ht.of_next_joinsForever hn hgj with hfj | ⟨rfl, _⟩
        · exact Frame.family_of_performsStop (Frame.performsStop_of_joinsForever hfj)
        · rfl
      have hbelow (hr : ∀ g' ∈ rest, ¬ g'.isAfterSink) :
          ∀ g' ∈ (State.apply (.caller n) rest m).state.pending (.caller n), ¬ g'.isAfterSink := by
        intro g' hg'
        rcases mem_pending_apply.mp hg' with ⟨_, hn' | hr'⟩ | ⟨hne, _⟩
        · exact ht.not_isAfterSink_next hfs hn'
        · exact hr g' hr'
        · exact absurd rfl hne
      rcases ht.of_next_joinsForever hn hgj with hfj | ⟨rfl, rfl, hphase⟩
      · refine (h n f (by simp [hp]) hfj).imp_right fun hnone => hbelow fun g' hg' => ?_
        exact hnone g' (by simp [hp, hg'])
      · by_cases hend : s.pending .loop = []
        · exact .inl hend
        · -- a stop that begins now, above a refresh, would entangle the caller
          refine .inr (hbelow fun g' hg' hga => ha ?_)
          have hrest := hl.of_isAfterSink rfl hg' hga
          exact ⟨n, g', [], rfl, by rw [hp, hrest], hga, hphase, hend⟩
    · exact absurd (Frame.performsStop_of_joinsForever hgj) (hl.not_performsStop_below hr)
    · exact absurd rfl hne
  · rw [ht.pending_apply_of_ne hw] at hg ⊢
    refine (h n g hg hgj).imp_left fun hend => ?_
    have hwl : .loop ≠ who := by
      rintro rfl
      simp [hend] at hp
    exact (ht.pending_apply_of_ne hwl).trans hend

theorem Untangled.step (h : Untangled s) (hi : Invariant s) (ha : ¬ s.Entangles a)
    (hs : s.step? a = some m) : Untangled m.state := by
  rcases State.step?_cases hs with ⟨k, op, _, hp, rfl⟩ | ⟨who, rest, _, hp, hc, rfl⟩ |
    ⟨who, f, rest, μ, hp, ht, rfl⟩
  · intro n f hf hfj
    have hloop : (s.setPending (.caller k) op.frames).pending .loop = s.pending .loop :=
      State.setPending_of_ne (by simp)
    by_cases hn : .caller n = Who.caller k
    · rw [hn, State.setPending_self] at hf
      exact absurd hfj (Frame.not_joinsForever_of_mem_frames hf)
    · rw [State.setPending_of_ne hn] at hf ⊢
      rw [hloop]
      exact h n f hf hfj
  · -- nobody stops a poller that can be started
    intro n f hf hfj
    have hphase := ((hi.launch hc hp).fits _ f hf).stopping (Frame.performsStop_of_joinsForever hfj)
    have huninit : s.phase = .uninitialized := hc.2
    simp [State.launched, huninit] at hphase
  · exact h.turn hi hp ht ha

theorem Untangled.not_deadlocked (h : Untangled s) (hi : Invariant s) : ¬ s.Deadlocked v := by
  intro hd
  obtain ⟨rest, hv⟩ := hd.joining
  obtain ⟨rest', hl⟩ := hd.waiting
  obtain ⟨f, hf, hfl⟩ := hi.lockHeld v hd.holds
  -- what has the lock lies below the stop
  rw [hv, List.mem_cons] at hf
  have hfr : f ∈ rest := by
    refine hf.resolve_left ?_
    rintro rfl
    cases hfl
  have hfa : f.isAfterSink := by
    rcases (hv ▸ hi.layout v : Layout v (.stopJoin false true :: rest)).below hfr with
      ⟨rfl, _⟩ | rfl | ⟨_, ha⟩
    · cases hfl
    · cases hfl
    · exact ha
  cases v with
  | loop => exact hd.ne_loop rfl
  | caller n =>
      rcases h n (.stopJoin false true) (by simp [hv]) rfl with hend | hnone
      · simp [hend] at hl
      · exact hnone f (by simp [hv, hfr]) hfa

end

/-! ## A loop that has not ended can come to its refresh -/

/-- What the loop leaves alone on its way to a refresh. -/
structure Beside (s t : State) : Prop where
  refresher : t.refresher = s.refresher
  stopping : t.stopping = s.stopping
  others : ∀ w ≠ .loop, t.pending w = s.pending w

/-- The loop can come to where it waits for the lock on refreshes. -/
def State.ComesToLock (s : State) : Prop :=
  s.Leads fun t => t.pending .loop = [.acquire, .loopWait] ∧ Beside s t

section

variable {s t : State} {who v w : Who} {f g : Frame} {a : Action} {m μ : Move}
  {rest frames : List Frame}

theorem Beside.refl (s : State) : Beside s s := ⟨rfl, rfl, fun _ _ => rfl⟩

theorem Beside.setPending (h : Beside s t) : Beside s (t.setPending .loop frames) where
  refresher := h.refresher
  stopping := h.stopping
  others w hw := (State.setPending_of_ne hw).trans (h.others w hw)

theorem Beside.trans {u : State} (h : Beside s t) (h' : Beside t u) : Beside s u where
  refresher := h'.refresher.trans h.refresher
  stopping := h'.stopping.trans h.stopping
  others w hw := (h'.others w hw).trans (h.others w hw)

/-- While another thread has the lock, the loop is outside a refresh or waits for the lock, if it has
not ended. -/
theorem Invariant.loop_of_refresher (hi : Invariant s) (hv : s.refresher = some v) (hvl : v ≠ .loop) :
    s.pending .loop = [] ∨ (∃ f, s.pending .loop = [f] ∧ f.family = .loop) ∨
      s.pending .loop = [.acquire, .loopWait] := by
  have hnone : ∀ f ∈ s.pending .loop, ¬ f.holdsLock := by
    intro f hf hfl
    have hl := (hi.fits .loop f hf).lock hfl
    exact hvl (Option.some.inj (hv.symm.trans hl))
  cases hp : s.pending .loop with
  | nil => exact .inl rfl
  | cons f rest =>
      right
      cases (hp ▸ hi.layout .loop : Layout .loop (f :: rest)) with
      | loop _ hf => exact .inl ⟨f, rfl, hf⟩
      | call hw _ | stop hw _ _ => exact absurd rfl hw
      | refresh hf =>
          have hfa : f = .acquire :=
            Classical.byContradiction fun h => hnone f (by simp [hp]) (Frame.holdsLock_of_family hf h)
          exact .inr (by rw [hfa]; rfl)
      | @sink _ g _ hg => exact absurd (Frame.holdsLock_of_isAfterSink hg) (hnone g (by simp [hp]))

namespace State

theorem ComesToLock.of_leads (h : s.Leads fun t => Beside s t ∧ t.ComesToLock) : s.ComesToLock := by
  refine h.trans ?_
  rintro t ⟨hb, ht⟩
  refine ht.mono ?_
  rintro u ⟨hl, hb'⟩
  exact ⟨hl, hb.trans hb'⟩

/-- A step of the loop's own that changes nothing but its stack and the wake-up. -/
theorem ComesToLock.of_runs (hp : s.pending .loop = f :: rest) (hm : f.move? s .loop = some μ)
    (hb : Beside s μ.state) (h : (apply .loop rest μ).state.ComesToLock) : s.ComesToLock :=
  .of_leads (.of_runs hp hm (.refl ⟨hb.setPending, h⟩))

theorem comesToLock_of_acquire (hp : s.pending .loop = [.acquire, .loopWait]) : s.ComesToLock :=
  .refl ⟨hp, .refl s⟩

theorem comesToLock_of_loopRecheck (hp : s.pending .loop = [.loopRecheck])
    (hs : s.stopping = false) : s.ComesToLock := by
  have hm : Frame.loopRecheck.move? s .loop = some { state := s, next := [.acquire, .loopWait] } := by
    simp [Frame.move?, hs]
  exact .of_runs hp hm (.refl s) (comesToLock_of_acquire setPending_self)

theorem comesToLock_of_loopClear (hp : s.pending .loop = [.loopClear]) (hs : s.stopping = false) :
    s.ComesToLock :=
  .of_runs hp rfl ⟨rfl, rfl, fun _ _ => rfl⟩ (comesToLock_of_loopRecheck setPending_self hs)

theorem comesToLock_of_loopCheck (hp : s.pending .loop = [.loopCheck]) (hs : s.stopping = false) :
    s.ComesToLock := by
  have hm : Frame.loopCheck.move? s .loop = some { state := s, next := [.loopClear] } := by
    simp [Frame.move?, hs]
  exact .of_runs hp hm (.refl s) (comesToLock_of_loopClear setPending_self hs)

/-- A parked loop goes on when its interval is over. -/
theorem comesToLock_of_loopParked (hp : s.pending .loop = [.loopParked]) (hs : s.stopping = false) :
    s.ComesToLock := by
  have hstep : s.step? (.timesOut .loop) =
      some (apply .loop [] { state := s, next := [.loopCheck] }) := by
    simp [step?, hp, Frame.timeOut?]
  have hcheck := comesToLock_of_loopCheck (s := s.setPending .loop [.loopCheck]) setPending_self hs
  exact .of_leads (.of_step? (.refl ⟨(Beside.refl s).setPending, hcheck⟩) hstep rfl)

/-- A caller that is idle can set the wake-up. -/
theorem reload_wakes {k : Nat} (hk : s.pending (.caller k) = []) (hs : s.stopping = false) :
    s.Leads fun t => t.wake ∧ t.pending .loop = s.pending .loop ∧ Beside s t := by
  let who := Who.caller k
  let asked := s.setPending who [.reloadCheck]
  have hbegins : s.step? (.begins k .reload) = some { state := asked } := by
    simp only [step?, hk]
    rfl
  have hcheck : Frame.reloadCheck.move? asked who = some { state := asked, next := [.reloadWake] } := by
    simp [Frame.move?, asked, hs]
  refine .of_step? ?_ hbegins rfl
  refine .of_runs (s := asked) setPending_self hcheck (.of_runs setPending_self rfl (.refl ?_))
  refine ⟨rfl, by simp [apply, asked, who, setPending], rfl, rfl, fun w hw => ?_⟩
  by_cases hwk : w = who
  · subst hwk
    simp [apply, who, hk]
  · simp [apply, asked, setPending, hwk]

/-- A loop at its wait can go on, however long its interval is: a reload can be asked for. -/
theorem comesToLock_of_loopWait {k : Nat} (hp : s.pending .loop = [.loopWait])
    (hs : s.stopping = false) (hk : s.pending (.caller k) = []) : s.ComesToLock := by
  refine .of_leads ((reload_wakes hk hs).mono ?_)
  rintro t ⟨hwake, hpt, hb⟩
  refine ⟨hb, ?_⟩
  have hm : Frame.loopWait.move? t .loop = some { state := t, next := [.loopCheck] } := by
    simp [Frame.move?, hwake]
  have hst : t.stopping = false := hb.stopping.trans hs
  exact .of_runs (hpt.trans hp) hm (.refl t) (comesToLock_of_loopCheck setPending_self hst)

/-- **The loop can come to its refresh**, as long as it has not ended and nobody stops it. -/
theorem comesToLock {k : Nat} (hi : Invariant s) (hl : s.pending .loop ≠ [])
    (hs : s.stopping = false) (hv : s.refresher = some v) (hvl : v ≠ .loop)
    (hk : s.pending (.caller k) = []) : s.ComesToLock := by
  rcases hi.loop_of_refresher hv hvl with hnil | ⟨f, hp, hf⟩ | hp
  · exact absurd hnil hl
  · cases f <;> cases hf
    · exact comesToLock_of_loopCheck hp hs
    · exact comesToLock_of_loopClear hp hs
    · exact comesToLock_of_loopRecheck hp hs
    · exact comesToLock_of_loopWait hp hs hk
    · exact comesToLock_of_loopParked hp hs
  · exact comesToLock_of_acquire hp

/-- A stop that has marked the poller comes to its join. -/
theorem leads_of_stopSignal {timed joins : Bool} (hp : s.pending who = .stopSignal timed joins :: rest) :
    s.Leads fun t => t.refresher = s.refresher ∧ t.pending who = .stopJoin timed joins :: rest ∧
      ∀ w ≠ who, t.pending w = s.pending w := by
  refine .of_runs hp rfl (.of_runs setPending_self rfl (.of_runs setPending_self rfl (.refl ?_)))
  refine ⟨rfl, setPending_self, fun w hw => ?_⟩
  simp [apply, setPending, hw]

/-- There are always callers that are idle. -/
theorem exists_idle {interval : Binary64} (h : Reachable interval s) :
    ∃ k, ∀ n ≥ k, s.pending (.caller n) = [] := by
  obtain ⟨actions, h⟩ := h
  refine run?_keeps (P := fun s => ∃ k, ∀ n ≥ k, s.pending (.caller n) = []) ?_
    ⟨0, fun _ _ => rfl⟩ h
  rintro s a m ⟨k, hk⟩ hm
  have busy {who : Who} {f : Frame} {rest : List Frame} (hp : s.pending who = f :: rest) (n : Nat)
      (hn : n ≥ k) : Who.caller n ≠ who := by
    rintro rfl
    simp [hk n hn] at hp
  rcases step?_cases hm with ⟨i, op, _, _, rfl⟩ | ⟨who, rest, _, hp, _, rfl⟩ |
    ⟨who, f, rest, μ, hp, ht, rfl⟩
  · refine ⟨max k (i + 1), fun n hn => ?_⟩
    rw [setPending_of_ne (by rw [ne_eq, Who.caller.injEq]; omega)]
    exact hk n (by omega)
  · refine ⟨k, fun n hn => ?_⟩
    rw [setPending_of_ne (busy hp n hn)]
    simp only [launched, setPending_of_ne (show Who.caller n ≠ .loop by simp)]
    exact hk n hn
  · refine ⟨k, fun n hn => ?_⟩
    rw [ht.pending_apply_of_ne (busy hp n hn)]
    exact hk n hn

/-- **An entangled caller can end in a deadlock.** -/
theorem Entangles.can_deadlock {interval : Binary64} (h : s.Entangles a) (hr : Reachable interval s)
    (hs : s.step? a = some m) : ∃ more t v, m.state.run? more = some t ∧ t.Deadlocked v := by
  obtain ⟨n, g, rest, rfl, hp, hga, hphase, hl⟩ := h
  have hi := reachable_invariant hr
  -- the loop is running, nobody else stops the poller, and the caller has the lock
  have hstarted : s.started = true := by
    cases hs' : s.started with
    | true => rfl
    | false => exact absurd (hi.notLaunched hs') hl
  have hstopping : s.stopping = false :=
    Bool.eq_false_iff.mpr fun hst => by simp [hi.stopping hst] at hphase
  have hlock : s.refresher = some (.caller n) :=
    (hi.fits (.caller n) g (by simp [hp])).lock (Frame.holdsLock_of_isAfterSink hga)
  -- the stop is marked
  rw [step?_runs hp] at hs
  simp only [Frame.move?, hphase, hstarted, Bool.false_eq_true, if_false, Option.map_some,
    Option.some.injEq] at hs
  obtain ⟨k, hk⟩ := exists_idle hr
  have hmr : Reachable interval m.state := by
    obtain ⟨actions, ha⟩ := hr
    refine ⟨actions ++ [.runs (.caller n)], (run?_append ha).trans ?_⟩
    simp [run?, step?_runs hp, Frame.move?, hphase, hstarted, hs]
  have hpm : m.state.pending (.caller n) = .stopSignal false true :: g :: rest := by
    rw [← hs]
    exact setPending_self
  have hml : m.state.pending .loop = s.pending .loop := by
    rw [← hs]
    exact setPending_of_ne (by simp)
  obtain ⟨j, hj⟩ := exists_idle hmr
  -- the loop comes to the lock, and then the stop to its join
  have hlock' : m.state.refresher = some (.caller n) := by
    rw [← hs]
    exact hlock
  have hcomes : m.state.ComesToLock :=
    comesToLock (reachable_invariant hmr) (hml ▸ hl) (by rw [← hs]; exact hstopping) hlock' (by simp)
      (hj j (Nat.le_refl j))
  have hleads : m.state.Leads fun t => t.Deadlocked (.caller n) := by
    refine hcomes.trans ?_
    rintro u ⟨hul, hb⟩
    refine (leads_of_stopSignal ((hb.others (.caller n) (by simp)).trans hpm)).mono ?_
    rintro t ⟨hlt, hpt, hother⟩
    refine ⟨?_, ⟨_, hpt⟩, ⟨_, (hother .loop (by simp)).trans hul⟩⟩
    rw [hlt, hb.refresher, hlock']
  obtain ⟨more, t, ht, _, hd⟩ := hleads
  exact ⟨more, t, .caller n, ht, hd⟩

end State

end

/-! ## The theorem, and a run into a deadlock -/

/-- **When a stop and the loop wait for each other.**  A run in which they do is one in which a stop
without a timeout has begun that the error sink of a caller's refresh asked for, before the loop had
ended; whenever such a stop begins the run can go on into the deadlock; and out of it leads nothing: the
poller is not stopped, and nobody gets the lock. -/
theorem deadlocks_exactly_after_entangling (interval : Binary64) :
    (∀ actions s v, (State.new interval).run? actions = some s → s.Deadlocked v →
      ∃ before a after t, actions = before ++ a :: after ∧
        (State.new interval).run? before = some t ∧ t.Entangles a) ∧
    (∀ s a m, State.Reachable interval s → s.Entangles a → s.step? a = some m →
      ∃ more t v, m.state.run? more = some t ∧ t.Deadlocked v) ∧
    (∀ s v actions t, State.Reachable interval s → s.Deadlocked v → s.run? actions = some t →
      t.Deadlocked v ∧ t.phase = .shuttingDown) := by
  refine ⟨?_, ?_, ?_⟩
  · intro actions s v hr hd
    have hsplit := State.run?_keeps_unless (P := fun s => Invariant s ∧ Untangled s)
      (B := State.Entangles) (fun s a m h ha hm => ⟨h.1.step hm, h.2.step h.1 ha hm⟩)
      ⟨invariant_new interval, untangled_new interval⟩ hr
    rcases hsplit with ⟨hi, hu⟩ | h
    · exact absurd hd (hu.not_deadlocked hi)
    · exact h
  · intro s a m hr he hm
    exact he.can_deadlock hr hm
  · intro s v actions t hr hd ht
    obtain ⟨hi, hdt⟩ := State.run?_keeps (P := fun t => Invariant t ∧ t.Deadlocked v)
      (fun s a m h hm => ⟨h.1.step hm, h.2.step h.1 hm⟩) ⟨reachable_invariant hr, hd⟩ ht
    exact ⟨hdt, hdt.phase hi⟩

/-- A caller refreshes a poller that has just been started. -/
def earlyRefresh : List Action := calls 0 .start 1 ++ calls 0 .refresh 4

/-- The listing of that refresh fails, and the error sink asks for a stop. -/
def failureStops : List Action :=
  [.answers (.caller 0) (.error (.library (.misuse "unavailable"))),
    .sinks (.caller 0) (.stops false false)]

/-- One of these runs: the stop begins before the loop has taken its first step. -/
theorem callers_sink_can_deadlock :
    ∃ actions s v, (State.new (.ofInt 30)).run? actions = some s ∧ s.Deadlocked v ∧
      (∃ before a after t, actions = before ++ a :: after ∧
        (State.new (.ofInt 30)).run? before = some t ∧ t.Entangles a) ∧
      ∀ more t, s.run? more = some t → t.Deadlocked v ∧ t.phase = .shuttingDown := by
  have hrun : ((State.new (.ofInt 30)).run? (earlyRefresh ++ failureStops)).isSome := rfl
  let s := ((State.new (.ofInt 30)).run? (earlyRefresh ++ failureStops)).get hrun
  have hs : (State.new (.ofInt 30)).run? (earlyRefresh ++ failureStops) = some s :=
    (Option.some_get hrun).symm
  have he : s.Entangles (.runs (.caller 0)) :=
    ⟨0, .chooseRest, [], rfl, rfl, rfl, rfl, show [Frame.loopCheck] ≠ [] by simp⟩
  have hstep : (s.step? (.runs (.caller 0))).isSome := rfl
  have hm := (Option.some_get hstep).symm
  obtain ⟨more, t, v, ht, hd⟩ :=
    (deadlocks_exactly_after_entangling (.ofInt 30)).2.1 s _ _ ⟨_, hs⟩ he hm
  have hall : (State.new (.ofInt 30)).run?
      (earlyRefresh ++ failureStops ++ .runs (.caller 0) :: more) = some t :=
    (State.run?_append hs).trans (State.run?_cons_eq_some.mpr ⟨_, hm, ht⟩)
  refine ⟨_, t, v, hall, hd, (deadlocks_exactly_after_entangling (.ofInt 30)).1 _ t v hall hd, ?_⟩
  intro more u hu
  exact (deadlocks_exactly_after_entangling (.ofInt 30)).2.2 t v more u ⟨_, hall⟩ hd hu

/-- The loop comes to the lock while the caller fetches, and the stop comes to its join. -/
def stopMeetsLoop : List Action :=
  earlyRefresh ++ List.replicate 3 (.runs .loop) ++ failureStops ++
    List.replicate 4 (.runs (.caller 0))

/-- Another one, step by step: it ends in a deadlock. -/
theorem sink_stop_deadlocks : ∃ s v, State.Reachable (.ofInt 30) s ∧ s.Deadlocked v := by
  have hrun : ((State.new (.ofInt 30)).run? stopMeetsLoop).isSome := rfl
  exact ⟨((State.new (.ofInt 30)).run? stopMeetsLoop).get hrun, .caller 0,
    ⟨_, (Option.some_get hrun).symm⟩, rfl, ⟨[.chooseRest], rfl⟩, ⟨[.loopWait], rfl⟩⟩

end Poller

end FeatureFlags
