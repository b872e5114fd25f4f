import FeatureFlags.Proofs.Binary64.Magnitude
import FeatureFlags.Proofs.Config.Validation
import FeatureFlags.Proofs.Poller.Deadlock

/-!
# `Proofs.Poller.Endurance` — when the loop ends untold

Whatever the service answers and whatever the error sink does, the loop goes on; a step that ends it is one
at which it finds the event that ends it, with one exception.  To wait is itself something that can
fail: the nanoseconds of the interval must fit into 63 bits.  A loop that is about to wait for longer than
that *overreaches* (`State.Overreaches`), and its thread is gone for good, though nobody has told it to end.

Validation asks of an interval only that it is above zero, and so lets such intervals through.
`deserted_exactly_after_overreaching` says what becomes of them, and `canWait_iff` which they are.

## Contents

1. Intervals that can be waited for
2. Steps that end the loop
3. A loop that has ended
4. The way to a wait that is too long
5. The theorem, and an accepted interval that ends the loop
-/

namespace FeatureFlags

namespace Poller

/-! ## Intervals that can be waited for -/

section

open Binary64 (units infRank unitsPerOne roundRank)

/-- The rank of the smallest number that does not fit into 63 bits. -/
def limitRank : Nat := 1086 * Binary64.binadeSize

theorem rank_limit : (Binary64.ofInt 0x8000000000000000).rank = limitRank := by decide +kernel

theorem units_rank_billion : units (Binary64.ofInt 1000000000).rank = 10 ^ 9 * unitsPerOne := by
  decide +kernel

/-- The middle below that number belongs to it: the number below it is odd. -/
theorem roundRank_lt_limit_iff {num den : Nat} (hden : 0 < den) :
    roundRank num den < limitRank ↔ 2 * num < den * ((2 ^ 64 - 1024) * unitsPerOne) := by
  have hmiddle : units (limitRank - 1) + units (limitRank - 1 + 1) = (2 ^ 64 - 1024) * unitsPerOne := by
    decide +kernel
  have hodd : (limitRank - 1) % 2 = 1 := by decide
  have hfinite : limitRank - 1 < infRank := by decide
  have hpos : 0 < limitRank := by decide
  have hiff : limitRank - 1 < roundRank num den ↔ den * ((2 ^ 64 - 1024) * unitsPerOne) ≤ 2 * num := by
    rw [Binary64.lt_roundRank_iff hden, Binary64.Above, hmiddle, Nat.le_iff_lt_or_eq]
    simp only [hfinite, hodd, true_and, and_true]
  omega

/-- **Which intervals can be waited for**: those whose nanoseconds are less than half a spacing below
`2 ^ 63`, which is where they would be rounded up to it. -/
theorem canWait_iff {s : State} (h : Binary64.zero.lt s.interval) :
    s.canWait ↔ s.interval.isFinite ∧ s.interval.value * 10 ^ 9 < 2 ^ 63 - 512 := by
  have hnonneg := Binary64.isNonneg_of_zero_le (Binary64.le_of_lt h)
  have hpos := (Binary64.lt_iff_rank Binary64.isNonneg_zero hnonneg).mp h
  have hbillion : (Binary64.ofInt 1000000000).IsNonneg ∧ 0 < (Binary64.ofInt 1000000000).rank ∧
      (Binary64.ofInt 1000000000).rank ≠ infRank := by
    decide +kernel
  have hlimit : (Binary64.ofInt 0x8000000000000000).IsNonneg := by decide +kernel
  obtain ⟨hmul, hrank⟩ := Binary64.mul_share hnonneg hbillion.1 hpos hbillion.2.1
  rw [State.canWait, Binary64.lt_iff_rank hmul hlimit, hrank, rank_limit, units_rank_billion]
  rw [Binary64.isFinite_iff_rank hnonneg]
  simp only [hbillion.2.2, or_false]
  by_cases hlt : s.interval.rank < infRank
  · rw [if_neg hlt.ne, roundRank_lt_limit_iff (by decide +kernel), Binary64.value_of_isNonneg hnonneg hlt,
      and_iff_right hlt, div_mul_eq_mul_div, div_lt_iff₀ Binary64.unitsPerOne_pos]
    have hone : 0 < unitsPerOne := by decide +kernel
    generalize units s.interval.rank = n
    generalize unitsPerOne = one at hone
    -- both sides count in smallest positive magnitudes, the left-hand one twice
    have hnat : 2 * (n * (10 ^ 9 * one)) < one * ((2 ^ 64 - 1024) * one) ↔
        n * 10 ^ 9 < (2 ^ 63 - 512) * one := by
      have hcount : 2 * (n * (10 ^ 9 * one)) = one * (2 * (n * 10 ^ 9)) := by ring
      rw [hcount, Nat.mul_lt_mul_left hone]
      omega
    have hcast : ((n * 10 ^ 9 : ℕ) : ℚ) < ((2 ^ 63 - 512) * one : ℕ) ↔
        n * 10 ^ 9 < (2 ^ 63 - 512) * one := Nat.cast_lt
    rw [hnat, ← hcast]
    norm_num
  · have hinf : s.interval.rank = infRank := by
      have := s.interval.rank_le
      omega
    rw [if_pos hinf]
    exact iff_of_false (by decide) fun h => hlt h.1

end

/-! ## Steps that end the loop -/

/-- The loop has ended, though nobody has told it to. -/
structure State.Deserted (s : State) : Prop where
  loopEnded : s.loopEnded
  untold : s.stopping = false

/-- An action with which the loop begins to wait, for longer than is possible, while nobody has told it to
end. -/
structure State.Overreaches (s : State) (a : Action) : Prop where
  action : a = .runs .loop
  waits : s.pending .loop = [.loopWait]
  notWoken : s.wake = false
  untold : s.stopping = false
  tooLong : s.canWait = false

section

variable {s t : State} {who : Who} {f : Frame} {a : Action} {m : Move} {rest : List Frame}

theorem Turn.interval_eq (h : Turn s who f a m) : m.state.interval = s.interval := by
  by_cases hq : f.quiet
  · rw [h.eq_of_quiet hq]
  · cases h with
    | runs h hs =>
        cases f <;> simp [Frame.quiet] at hq <;>
          simp only [Frame.move?, State.enter, State.setWake] at h <;> (try split at h) <;>
          (try split at h) <;> simp only [Option.some.injEq, reduceCtorEq] at h <;> subst h <;> rfl
    | answers outcome h | sinks e behaviour h => rfl
    | timesOut h => cases f <;> first | exact absurd rfl hq | cases h

theorem State.step?_interval (h : s.step? a = some m) : m.state.interval = s.interval := by
  rcases State.step?_cases h with ⟨n, op, _, _, rfl⟩ | ⟨who, rest, _, _, _, rfl⟩ |
    ⟨who, f, rest, μ, _, ht, rfl⟩
  · rfl
  · rfl
  · exact ht.interval_eq

theorem State.canWait_eq (h : t.interval = s.interval) : t.canWait = s.canWait := by
  rw [canWait, canWait, h]

/-- **A turn of the loop, outside a refresh, that nothing follows**: it has been told to end, or it
overreaches. -/
theorem Turn.ends_loop (h : Turn s who f a m) (hf : f.family = .loop) (hn : m.next = []) :
    s.stopping = true ∨
      (a = .runs who ∧ f = .loopWait ∧ s.wake = false ∧ s.canWait = false) := by
  cases h with
  | runs h hs =>
      cases f with
      | loopCheck | loopRecheck =>
          left
          by_contra hst
          obtain rfl := Option.some.inj h
          simp [hst] at hn
      | loopClear =>
          obtain rfl := Option.some.inj h
          cases hn
      | loopWait =>
          right
          simp only [Frame.move?] at h
          split_ifs at h with hwake hcan
          · obtain rfl := Option.some.inj h
            cases hn
          · obtain rfl := Option.some.inj h
            cases hn
          · exact ⟨rfl, rfl, by simpa using hwake, by simpa using hcan⟩
      | loopParked =>
          simp only [Frame.move?] at h
          split_ifs at h
          obtain rfl := Option.some.inj h
          cases hn
      | _ => cases hf
  | answers outcome h | sinks e behaviour h =>
      subst h
      cases hf
  | timesOut h =>
      cases f with
      | loopParked =>
          obtain rfl := Option.some.inj h
          cases hn
      | _ => cases hf <;> cases h

/-- The loop has not been started, goes on, or has been told to end. -/
def State.Enduring (s : State) : Prop := s.started → s.pending .loop ≠ [] ∨ s.stopping

theorem State.not_deserted (h : s.Enduring) : ¬ s.Deserted := by
  rintro ⟨hended, hst⟩
  simp only [loopEnded, Bool.and_eq_true, List.isEmpty_iff] at hended
  rcases h hended.1 with hloop | hstop
  · exact hloop hended.2
  · simp [hst] at hstop

/-- On the loop's own thread nothing lies below the frames of the loop, and something below all others. -/
theorem Layout.family_of_loop (hl : Layout .loop [f]) : f.family = .loop := by
  cases hl with
  | loop _ hf => exact hf
  | call hw _ | stop hw _ _ => exact absurd rfl hw

theorem State.Enduring.turn (h : s.Enduring) (hi : Invariant s) (hp : s.pending who = f :: rest)
    (ht : Turn s who f a m) (ha : ¬ s.Overreaches a) : (apply who rest m).state.Enduring := by
  intro hstarted
  have he := ht.effect
  have hst : s.stopping → (apply who rest m).state.stopping := fun hs => he.stopping.mpr (.inl hs)
  have hwas : s.started := by rwa [apply, setPending_started, he.started] at hstarted
  rcases h hwas with hloop | hs
  · by_cases hw : who = .loop
    · subst hw
      by_cases hnil : m.next ++ rest = []
      · -- the loop's last frame is gone
        right
        obtain ⟨hn, rfl⟩ := List.append_eq_nil_iff.mp hnil
        have hfamily : f.family = .loop := Layout.family_of_loop (hp ▸ hi.layout .loop)
        rcases ht.ends_loop hfamily hn with hs | ⟨haction, rfl, hwake, hcan⟩
        · exact hst hs
        · refine hst (Classical.byContradiction fun hs => ha ?_)
          exact ⟨haction, hp, hwake, by simpa using hs, hcan⟩
      · left
        rwa [apply, setPending_self]
    · left
      rwa [ht.pending_apply_of_ne fun h => hw h.symm]
  · exact .inr (hst hs)

theorem State.Enduring.step (h : s.Enduring) (hi : Invariant s) (ha : ¬ s.Overreaches a)
    (hm : s.step? a = some m) : m.state.Enduring := by
  rcases State.step?_cases hm with ⟨n, op, _, _, rfl⟩ | ⟨who, rest, _, hp, _, rfl⟩ |
    ⟨who, f, rest, μ, hp, ht, rfl⟩
  · intro hstarted
    rw [setPending_of_ne (by simp)]
    exact h hstarted
  · -- the loop is launched by a caller
    have hw := (Layout.call_alone (hp ▸ hi.layout who) rfl).1
    intro _
    rw [setPending_of_ne hw.symm, launched]
    exact .inl (by simp [setPending])
  · exact h.turn hi hp ht ha

/-! ## A loop that has ended -/

/-- **A loop that has ended is not started again.** -/
theorem State.loopEnded_step (h : s.loopEnded) (hm : s.step? a = some m) : m.state.loopEnded := by
  simp only [loopEnded, Bool.and_eq_true, List.isEmpty_iff] at h ⊢
  obtain ⟨hstarted, hloop⟩ := h
  rcases State.step?_cases hm with ⟨n, op, _, _, rfl⟩ | ⟨who, rest, _, _, hc, rfl⟩ |
    ⟨who, f, rest, μ, hp, ht, rfl⟩
  · exact ⟨hstarted, (setPending_of_ne (by simp)).trans hloop⟩
  · exact absurd (hstarted.symm.trans hc.1) (by simp)
  · have hw : Who.loop ≠ who := by
      rintro rfl
      simp [hloop] at hp
    exact ⟨ht.effect.started.trans hstarted, (ht.pending_apply_of_ne hw).trans hloop⟩

/-- **Whoever overreaches, ends.** -/
theorem State.Overreaches.deserted (h : s.Overreaches a) (hi : Invariant s) :
    ∃ m, s.step? a = some m ∧ m.state.Deserted := by
  obtain ⟨rfl, hp, hwake, hst, hcan⟩ := h
  have hmove : Frame.loopWait.move? s .loop = some { state := s } := by
    simp [Frame.move?, hwake, hcan]
  have hstarted : s.started := by
    by_contra hno
    simp [hi.notLaunched (by simpa using hno)] at hp
  refine ⟨_, by rw [step?_runs hp, hmove]; rfl, ?_, hst⟩
  simp [loopEnded, apply, hstarted]

end

/-! ## The way to a wait that is too long -/

/-- The loop refreshes once, and comes to its wait. -/
def untilWait : List Action :=
  startUp ++ .answers .loop (.ok [beta]) :: List.replicate 5 (.runs .loop)

/-- The loop of every poller can come to its wait, and nobody has asked for a reload. -/
theorem State.exists_at_wait (interval : Binary64) : ∃ s, Reachable interval s ∧
    s.pending .loop = [.loopWait] ∧ s.wake = false ∧ s.stopping = false ∧ s.interval = interval := by
  have hrun : ((State.new interval).run? untilWait).isSome := rfl
  exact ⟨((State.new interval).run? untilWait).get hrun, ⟨_, (Option.some_get hrun).symm⟩,
    rfl, rfl, rfl, rfl⟩

/-- **A poller whose interval is too long can be deserted.** -/
theorem State.exists_deserted {interval : Binary64} (h : (State.new interval).canWait = false) :
    ∃ s, Reachable interval s ∧ s.Deserted := by
  obtain ⟨s, hr, hp, hwake, hst, hs⟩ := exists_at_wait interval
  have ho : s.Overreaches (.runs .loop) := ⟨rfl, hp, hwake, hst, (canWait_eq hs).trans h⟩
  obtain ⟨m, hm, hd⟩ := ho.deserted (reachable_invariant hr)
  obtain ⟨actions, hr⟩ := hr
  have hmore : s.run? [.runs .loop] = some m.state := run?_cons_eq_some.mpr ⟨m, hm, rfl⟩
  exact ⟨m.state, ⟨actions ++ [.runs .loop], (run?_append hr).trans hmore⟩, hd⟩

/-! ## The theorem, and an accepted interval that ends the loop -/

/-- **When the loop of a configured poller ends untold.**  Whatever becomes of the refreshes, it does so only
by overreaching; whoever overreaches ends, and is not started again; and there are runs in which this
happens exactly if the interval, which validation has found to be above zero, is infinite or has too many
nanoseconds. -/
theorem deserted_exactly_after_overreaching {settings : Setting} {config : Config}
    (h : Config.ofSetting settings = .valid config) :
    (∀ actions s, (State.new config.pollInterval).run? actions = some s → s.Deserted →
      ∃ before a after t, actions = before ++ a :: after ∧
        (State.new config.pollInterval).run? before = some t ∧ t.Overreaches a) ∧
    (∀ s a, State.Reachable config.pollInterval s → s.Overreaches a →
      ∃ m, s.step? a = some m ∧ m.state.Deserted ∧
        ∀ more t, m.state.run? more = some t → t.loopEnded) ∧
    ((∃ s, State.Reachable config.pollInterval s ∧ s.Deserted) ↔
      ¬ (config.pollInterval.isFinite ∧ config.pollInterval.value * 10 ^ 9 < 2 ^ 63 - 512)) := by
  have hpos := (Config.validated_of_ofSetting h).interval_pos
  generalize config.pollInterval = interval at hpos
  have hunless {actions : List Action} {s : State} (hr : (State.new interval).run? actions = some s)
      (hd : s.Deserted) : ∃ before a after t, actions = before ++ a :: after ∧
        (State.new interval).run? before = some t ∧ t.Overreaches a := by
    have hsplit := State.run?_keeps_unless (P := fun s => Invariant s ∧ s.Enduring)
      (B := State.Overreaches) (fun s a m h ha hm => ⟨h.1.step hm, h.2.step h.1 ha hm⟩)
      ⟨invariant_new interval, fun h => by cases h⟩ hr
    rcases hsplit with ⟨_, hs⟩ | h
    · exact absurd hd (State.not_deserted hs)
    · exact h
  refine ⟨fun actions s => hunless, fun s a hr ho => ?_, ?_⟩
  · obtain ⟨m, hm, hd⟩ := ho.deserted (reachable_invariant hr)
    exact ⟨m, hm, hd, fun more t ht =>
      State.run?_keeps (P := fun t => t.loopEnded) (fun _ _ _ => State.loopEnded_step) hd.loopEnded ht⟩
  · have hwaits : (State.new interval).canWait ↔
        interval.isFinite ∧ interval.value * 10 ^ 9 < 2 ^ 63 - 512 := canWait_iff hpos
    rw [← hwaits, Bool.not_eq_true]
    constructor
    · rintro ⟨s, ⟨actions, hr⟩, hd⟩
      obtain ⟨before, a, after, t, -, ht, ho⟩ := hunless hr hd
      have hinterval : t.interval = interval :=
        State.run?_keeps (P := fun t => t.interval = interval)
          (fun _ _ _ h hm => (State.step?_interval hm).trans h) rfl ht
      exact (State.canWait_eq hinterval).symm.trans ho.tooLong
    · exact State.exists_deserted

/-- The settings of a client with the given interval. -/
def settingsEvery (interval : Binary64) : Setting :=
  .map [(.text "endpoint", .text "https://flags.test"), (.text "project_api_key", .text "phc"),
    (.text "personal_api_key", .text "phx"), (.text "poll_interval_seconds", .number (.float interval))]

/-- Every interval above zero is accepted. -/
theorem exists_config_of_pos {interval : Binary64} (h : Binary64.zero.lt interval) :
    ∃ config, Config.ofSetting (settingsEvery interval) = .valid config ∧
      config.pollInterval = interval := by
  have hread : (Setting.number (.float interval)).readPositive = .valid interval := by
    simp [Setting.readPositive, Setting.readNumber, Setting.number?, Number.toBinary64?, h]
  refine ⟨⟨"https://flags.test", "phc", "phx", interval, Config.defaultTimeout, [], {}⟩, ?_, rfl⟩
  simp [Config.ofSetting, settingsEvery, Setting.required, Setting.optional, Setting.lookUp, hread,
    Setting.readText, Checked.under, Functor.map, Checked.map, Seq.seq, Checked.seq]

/-- With five minutes between the refreshes the loop ends only when it has been told to. -/
theorem five_minutes_endure : ∃ config, Config.ofSetting (settingsEvery (.ofInt 300)) = .valid config ∧
    ∀ s, State.Reachable config.pollInterval s → s.loopEnded → s.stopping := by
  obtain ⟨config, hconfig, hinterval⟩ :=
    exists_config_of_pos (show Binary64.zero.lt (.ofInt 300) by decide +kernel)
  refine ⟨config, hconfig, fun s hr hended => ?_⟩
  by_contra hst
  refine (deserted_exactly_after_overreaching hconfig).2.2.mp ⟨s, hr, hended, by simpa using hst⟩ ?_
  rw [hinterval]
  decide +kernel

/-- **An interval of ten thousand million seconds is accepted, and the loop ends**, though nobody has told it
to. -/
theorem accepted_interval_ends_loop : ∃ config s,
    Config.ofSetting (settingsEvery (.ofInt 10000000000)) = .valid config ∧
      State.Reachable config.pollInterval s ∧ s.loopEnded ∧ s.stopping = false := by
  obtain ⟨config, hconfig, hinterval⟩ :=
    exists_config_of_pos (show Binary64.zero.lt (.ofInt 10000000000) by decide +kernel)
  have htooLong : (State.new config.pollInterval).canWait = false := by
    rw [hinterval]
    decide +kernel
  obtain ⟨s, hr, hd⟩ := State.exists_deserted htooLong
  exact ⟨config, s, hconfig, hr, hd.loopEnded, hd.untold⟩

end Poller

end FeatureFlags
