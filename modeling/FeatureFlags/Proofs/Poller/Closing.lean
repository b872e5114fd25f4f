import FeatureFlags.Proofs.Poller.Shutdown

/-!
# `Proofs.Poller.Closing` — a client closes its service when its stop has returned

A client that owns its service stops the poller and then closes the service.  The stop returns when the
loop has ended, with one exception: a stop that finds another one under way returns at once, while the
other one may still wait for a loop that is listing the flags.  Whoever made it has then *overtaken* the
other stop, and closes the service under the loop.

`closes_at_rest_unless_overtaking` says that this is the only way: in orderly runs in which nobody
overtakes a stop, the service is closed only once the poller is stopped and the loop has ended; and after
every overtaking the service can be closed, and the call return, with the stop still under way.
-/

namespace FeatureFlags

namespace Poller

/-! ## Closing and overtaking -/

namespace State

/-- The action closes the service; with it, the call of the client returns. -/
def Closes (s : State) (a : Action) : Prop :=
  ∃ n rest, a = .runs (.caller n) ∧ s.pending (.caller n) = .closeService :: rest

/-- The action is the beginning of a client's stop that finds another stop under way. -/
def Overtakes (s : State) (a : Action) : Prop :=
  s.phase = .shuttingDown ∧ ∃ n timed rest, a = .runs (.caller n) ∧
    s.pending (.caller n) = .stopMark timed :: .closeService :: rest

/-- The loop is inside a listing of the flags. -/
def LoopLists (s : State) : Prop := ∃ rest, s.pending .loop = .fetching :: rest

/-- Whoever is about to close the service has a poller that has settled. -/
def ClosesSettled (s : State) : Prop :=
  ∀ n rest, s.pending (.caller n) = .closeService :: rest → Settled s

end State

section

variable {s : State} {who : Who} {f : Frame} {a : Action} {m : Move} {rest : List Frame}

/-- A stop is over when it finds that it need not be made, or when it has been noted. -/
theorem Turn.stop_over (h : Turn s who f a m) (hf : f.family = .stop) (hn : m.next = []) :
    a = .runs who ∧ ((∃ timed, f = .stopMark timed ∧ s.phase.isFinal) ∨ f = .stopNote) := by
  cases h with
  | runs h _ =>
      refine ⟨rfl, ?_⟩
      cases f with
      | stopNote => exact .inr rfl
      | stopMark timed =>
          refine .inl ⟨timed, rfl, ?_⟩
          simp only [Frame.move?] at h
          split at h
          · assumption
          · simp [← Option.some.inj h] at hn
      | stopJoin timed joins =>
          simp only [Frame.move?] at h
          split at h
          · simp [← Option.some.inj h] at hn
          · cases h
      | stopSignal _ _ | stopWake _ _ | stopOpenGate _ _ | stopClear | stopFinish =>
          simp [← Option.some.inj h] at hn
      | _ => cases hf
  | answers _ h | sinks _ _ h =>
      subst h
      cases hf
  | timesOut h =>
      cases f with
      | stopJoin timed joins =>
          cases timed with
          | false => cases h
          | true => simp [← Option.some.inj h] at hn
      | loopParked | readWait _ => cases hf
      | _ => cases h

/-- Only a stop has the closing of the service below it. -/
theorem Layout.of_closeService {frames : List Frame} (hl : Layout who frames)
    (hf : frames = f :: .closeService :: rest) : f.family = .stop ∧ rest = [] := by
  cases hl with
  | idle | loop _ _ | call _ _ => cases hf
  | refresh _ => cases who <;> cases hf
  | sink _ hg =>
      cases hf
      cases hg
  | stop _ hstop hr =>
      rcases hr with rfl | rfl <;> cases hf
      exact ⟨hstop, rfl⟩

/-- **A stop that nobody overtakes returns only when the poller has settled.** -/
theorem State.ClosesSettled.turn (h : s.ClosesSettled) (hi : Invariant s) (hj : Joined s)
    (hb : ¬ s.Overtakes a) (hp : s.pending who = f :: rest) (ht : Turn s who f a m) :
    (apply who rest m).state.ClosesSettled := by
  intro n rest' hn
  have hl : Layout who (f :: rest) := hp ▸ hi.layout who
  by_cases hw : Who.caller n = who
  · subst hw
    simp only [apply, setPending_self] at hn
    rcases ht.next_family with ⟨hm, _⟩ | ⟨g, hm, _⟩ | ⟨_, hm⟩ | ⟨_, _, _, _, hm⟩
    · -- the closing was below the frame at which the turn was taken
      rw [hm, List.nil_append] at hn
      subst hn
      obtain ⟨hf, rfl⟩ := hl.of_closeService rfl
      have hstopped : s.phase = .stopped := by
        obtain ⟨rfl, ⟨timed, rfl, hfinal⟩ | rfl⟩ := ht.stop_over hf hm
        · cases hphase : s.phase with
          | stopped => rfl
          | shuttingDown => exact absurd ⟨hphase, n, timed, [], rfl, hp⟩ hb
          | uninitialized | loading | ready => simp [hphase, Phase.isFinal] at hfinal
        · exact (hi.fits (.caller n) .stopNote (by simp [hp])).noted rfl
      exact ((hj.settled hstopped).turn hp ht).1
    · -- no turn goes on to the closing
      rw [hm, List.singleton_append, List.cons.injEq] at hn
      obtain ⟨rfl, -⟩ := hn
      cases ht.follows (by rw [hm]; exact List.mem_singleton_self _)
    · simp [hm] at hn
    · simp [hm] at hn
  · rw [ht.pending_apply_of_ne hw] at hn
    exact ((h n rest' hn).turn hp ht).1

theorem State.ClosesSettled.step (h : s.ClosesSettled) (hi : Invariant s) (hj : Joined s)
    (hb : ¬ s.Overtakes a) (hs : s.step? a = some m) : m.state.ClosesSettled := by
  rcases step?_cases hs with ⟨k, op, rfl, hp, rfl⟩ | ⟨who, rest, rfl, hp, hc, rfl⟩ |
    ⟨who, f, rest, μ, hp, ht, rfl⟩
  · intro n rest hn
    by_cases hw : Who.caller n = .caller k
    · rw [hw, setPending_self] at hn
      cases op <;> simp [Operation.frames] at hn
    · rw [setPending_of_ne hw] at hn
      exact ((h n rest hn).step hs).1
  · -- a poller that can be started has not settled
    have unsettled {n : Nat} {rest' : List Frame} : s.pending (.caller n) ≠ .closeService :: rest' := by
      intro hn
      have hphase := (h n rest' hn).stopped
      simp [hc.2] at hphase
    intro n rest' hn
    obtain ⟨_, hrest⟩ := (hp ▸ hi.layout who : Layout who (.start :: rest)).call_alone rfl
    by_cases hw : Who.caller n = who
    · rw [← hw, setPending_self, hrest] at hn
      cases hn
    · rw [setPending_of_ne hw] at hn
      simp only [launched, setPending_of_ne (show Who.caller n ≠ .loop by simp)] at hn
      exact absurd hn unsettled
  · exact h.turn hi hj hb hp ht

/-- A stop that finds another one returns at once. -/
theorem State.step?_stopMark {timed : Bool} (hp : s.pending who = .stopMark timed :: rest)
    (hs : s.phase.isFinal) : ∃ m, s.step? (.runs who) = some m ∧ m.state.phase = s.phase ∧
      m.state.pending who = rest ∧ ∀ w ≠ who, m.state.pending w = s.pending w := by
  refine ⟨apply who rest { state := s, result := some .done }, ?_, rfl, setPending_self, ?_⟩
  · rw [step?_runs hp]
    simp [Frame.move?, hs]
  · intro w hw
    exact setPending_of_ne hw

theorem State.step?_closeService (hp : s.pending who = .closeService :: rest) :
    ∃ m, s.step? (.runs who) = some m ∧ m.result = some .done ∧ m.state.serviceClosed ∧
      m.state.phase = s.phase ∧ ∀ w ≠ who, m.state.pending w = s.pending w := by
  refine ⟨_, step?_runs hp, rfl, rfl, rfl, ?_⟩
  intro w hw
  exact setPending_of_ne hw

end

/-! ## The theorem, and a run in which a stop is overtaken -/

/-- **When a client closes its service.**  In an orderly run the service is closed only when the poller
is stopped and the loop has ended, unless a client has overtaken another stop; and whenever a client
does so, it can close the service and return at once, with the other stop still under way and the loop
wherever it was. -/
theorem closes_at_rest_unless_overtaking (interval : Binary64) :
    (∀ actions s a, (∀ b ∈ actions, b.orderly) → (State.new interval).run? actions = some s →
      s.Closes a → (s.phase = .stopped ∧ s.pending .loop = []) ∨
        ∃ before b after t, actions = before ++ b :: after ∧
          (State.new interval).run? before = some t ∧ t.Overtakes b) ∧
    (∀ (s : State) a m, s.Overtakes a → s.step? a = some m →
      m.state.Closes a ∧ ∃ m', m.state.step? a = some m' ∧ m'.result = some .done ∧
        m'.state.serviceClosed ∧ m'.state.phase = .shuttingDown ∧
        m.state.pending .loop = s.pending .loop ∧ m'.state.pending .loop = s.pending .loop) := by
  refine ⟨?_, ?_⟩
  · intro actions s a ha hr hc
    have hsplit := State.run?_keeps_unless
      (P := fun s => Invariant s ∧ s.LoopRefreshes ∧ Joined s ∧ s.ClosesSettled)
      (B := fun s b => s.Overtakes b ∨ ¬ b.orderly)
      (fun s b m h hb hm => by
        obtain ⟨hi, hl, hj, hcs⟩ := h
        obtain ⟨hno, hb⟩ := not_or.mp hb
        exact ⟨hi.step hm, hl.step hi (Classical.not_not.mp hb) hm, hj.step hi hl.orderly hm,
          hcs.step hi hj hno hm⟩)
      ⟨invariant_new interval, State.loopRefreshes_new interval, joined_new interval,
        fun n rest hn => by cases hn⟩ hr
    rcases hsplit with ⟨_, _, _, hcs⟩ | ⟨before, b, after, t, rfl, ht, hb⟩
    · obtain ⟨n, rest, _, hn⟩ := hc
      have hset := hcs n rest hn
      exact .inl ⟨hset.stopped, hset.loopEnded⟩
    · refine .inr ⟨before, b, after, t, rfl, ht, hb.resolve_right fun h => h ?_⟩
      exact ha b (by simp)
  · rintro s a m ⟨hphase, n, timed, rest, rfl, hp⟩ hm
    obtain ⟨m₁, h₁, hphase₁, hp₁, hother₁⟩ := State.step?_stopMark hp (by rw [hphase]; rfl)
    obtain rfl : m₁ = m := Option.some.inj (h₁.symm.trans hm)
    obtain ⟨m₂, h₂, hr, hclosed, hphase₂, hother₂⟩ := State.step?_closeService hp₁
    have hloop : Who.loop ≠ .caller n := by simp
    exact ⟨⟨n, rest, rfl, hp₁⟩, m₂, h₂, hr, hclosed, (hphase₂.trans hphase₁).trans hphase,
      hother₁ .loop hloop, (hother₂ .loop hloop).trans (hother₁ .loop hloop)⟩

/-- A poller whose loop is inside a listing, with two clients on their way to stop it: the first is
waiting for the loop, and the second is about to look at the phase. -/
def overlappingStops : List Action :=
  startUp ++ calls 1 .stopAndClose 4 ++ calls 2 .stopAndClose 0

/-- One of these runs: the second client closes the service and returns while the first one waits, and
it has overtaken the first one's stop. -/
theorem overtaken_stop_is_under_way :
    ∃ s m m' : State, (State.new (.ofInt 30)).run? overlappingStops = some s ∧
      s.Overtakes (.runs (.caller 2)) ∧ m'.serviceClosed ∧ m'.phase = .shuttingDown ∧
      (State.new (.ofInt 30)).run? (overlappingStops ++ [.runs (.caller 2)]) = some m ∧
      ∃ before b after t, overlappingStops ++ [.runs (.caller 2)] = before ++ b :: after ∧
        (State.new (.ofInt 30)).run? before = some t ∧ t.Overtakes b := by
  have hrun : ((State.new (.ofInt 30)).run? overlappingStops).isSome := rfl
  let s := ((State.new (.ofInt 30)).run? overlappingStops).get hrun
  have hs : (State.new (.ofInt 30)).run? overlappingStops = some s := (Option.some_get hrun).symm
  have ho : s.Overtakes (.runs (.caller 2)) := ⟨rfl, 2, false, [], rfl, rfl⟩
  have hstep : (s.step? (.runs (.caller 2))).isSome := rfl
  have hm := (Option.some_get hstep).symm
  obtain ⟨hc, m', _, _, hclosed, hphase, _⟩ :=
    (closes_at_rest_unless_overtaking (.ofInt 30)).2 s _ _ ho hm
  have hall : (State.new (.ofInt 30)).run? (overlappingStops ++ [.runs (.caller 2)]) = some _ :=
    (State.run?_append hs).trans (State.run?_cons_eq_some.mpr ⟨_, hm, rfl⟩)
  refine ⟨s, _, m'.state, hs, ho, hclosed, hphase, hall, ?_⟩
  refine ((closes_at_rest_unless_overtaking (.ofInt 30)).1 _ _ _ (by decide) hall hc).resolve_left ?_
  rintro ⟨hstopped, _⟩
  cases hstopped

/-- Step by step: the service is closed while the loop is inside a listing, and the client's call returns
with the poller not stopped. -/
theorem overlapping_stops_close_during_listing :
    ∃ actions s a m, (∀ b ∈ actions, b.orderly) ∧ (State.new (.ofInt 30)).run? actions = some s ∧
      s.Closes a ∧ s.LoopLists ∧ s.step? a = some m ∧ m.result = some .done ∧
      m.state.phase ≠ .stopped := by
  have hrun : ((State.new (.ofInt 30)).run? (overlappingStops ++ [.runs (.caller 2)])).isSome := rfl
  let s := ((State.new (.ofInt 30)).run? (overlappingStops ++ [.runs (.caller 2)])).get hrun
  have hstep : (s.step? (.runs (.caller 2))).isSome := rfl
  refine ⟨_, s, .runs (.caller 2), (s.step? (.runs (.caller 2))).get hstep, by decide,
    (Option.some_get hrun).symm, ⟨2, [], rfl, rfl⟩, ⟨[.loopWait], rfl⟩, (Option.some_get hstep).symm, rfl,
    ?_⟩
  rintro ⟨⟩

end Poller

end FeatureFlags
