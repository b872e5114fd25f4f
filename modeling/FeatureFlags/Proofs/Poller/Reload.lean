import FeatureFlags.Proofs.Poller.Wakeup

/-!
# `Proofs.Poller.Reload` — reloads are not lost, and are merged

A reload sets the event that wakes the loop, and the loop clears the event on its way to a fetch, not
after it.  So a reload that comes after the start of a fetch leaves the event set until the loop has
started another one, and all the reloads that come during a fetch leave no more than that: one event
that is set.

`Tally` is a poller with counters, and `reloads_are_merged` reads them off after any run: the loop does
not wait for its interval while a reload is waiting, and it fetches no more often than once, once for
every interval that is over, and once for the reloads, those that fell into one fetch counted as one.

## Contents

1. Counting fetches and wake-ups
2. The fetches that are due
3. What a turn does to them
4. What every step keeps
5. The theorem, and a run in which two reloads are merged
-/

namespace FeatureFlags

namespace Poller

/-! ## Counting fetches and wake-ups -/

/-- A wake-up that a reload has set. -/
structure Wakeup where
  /-- How many fetches the loop had started by then. -/
  fetches : Nat
  /-- Whether the last of them was still going on. -/
  fetching : Bool
  deriving DecidableEq

/-- Whether an action is a request to reload. -/
def Action.asksReload : Action → Bool
  | .begins _ .reload => true
  | _ => false

namespace State

/-- Whether the loop waits for the service. -/
def loopFetching (s : State) : Bool :=
  match s.pending .loop with
  | .fetching :: _ => true
  | _ => false

/-- Whether an action starts a fetch of the loop. -/
def startsFetch (s : State) : Action → Bool
  | .runs .loop =>
    match s.pending .loop with
    | .fetch :: _ => true
    | _ => false
  | _ => false

/-- Whether an action ends the wait of the loop because the interval is over. -/
def endsInterval (s : State) : Action → Bool
  | .timesOut .loop =>
    match s.pending .loop with
    | .loopParked :: _ => true
    | _ => false
  | _ => false

/-- Whether a reload wakes the loop with an action. -/
def reloads (s : State) : Action → Bool
  | .runs who =>
    match s.pending who with
    | .reloadWake :: _ => true
    | _ => false
  | _ => false

end State

/-- A poller and what has been counted in it. -/
structure Tally where
  state : State
  /-- How many fetches the loop has started. -/
  fetches : Nat := 0
  /-- How many times the loop has waited until its interval was over. -/
  intervals : Nat := 0
  /-- How many reloads have been asked for. -/
  calls : Nat := 0
  /-- The wake-ups that reloads have set, the newest first. -/
  wakeups : List Wakeup := []

namespace Tally

/-- A new poller, in which nothing has been counted. -/
def new (interval : Binary64) : Tally := { state := .new interval }

/-- What an action adds to the counters, and leads to. -/
def record (t : Tally) (a : Action) (s : State) : Tally where
  state := s
  fetches := t.fetches + (t.state.startsFetch a).toNat
  intervals := t.intervals + (t.state.endsInterval a).toNat
  calls := t.calls + a.asksReload.toNat
  wakeups :=
    if t.state.reloads a then ⟨t.fetches, t.state.loopFetching⟩ :: t.wakeups else t.wakeups

/-- The next step. -/
def step? (t : Tally) (a : Action) : Option Tally :=
  (t.state.step? a).map fun m => t.record a m.state

/-- The tally after a sequence of actions. -/
def run? (t : Tally) (actions : List Action) : Option Tally := actions.foldlM step? t

/-- How many fetches the reloads are good for: each one for one, except that those that fell into the
same fetch of the loop are good for one together. -/
def requests : List Wakeup → Nat
  | [] => 0
  | w :: older => requests older + if w.fetching ∧ w ∈ older then 0 else 1

variable {t u : Tally} {a : Action} {w : Wakeup} {wakeups : List Wakeup}

theorem step?_eq_some : t.step? a = some u ↔ ∃ m, t.state.step? a = some m ∧ t.record a m.state = u := by
  simp [step?, Option.map_eq_some_iff]

theorem requests_le_length : requests wakeups ≤ wakeups.length := by
  induction wakeups with
  | nil => exact Nat.le_refl 0
  | cons w older ih =>
      simp only [requests, List.length_cons]
      split <;> omega

end Tally

/-! ## The fetches that are due -/

/-- The fetch that the wake-up is good for, if the loop comes to see it. -/
def State.wakeCredit (s : State) : Nat := (s.wake && !s.stopping).toNat

/-- How many fetches the loop can start, if nobody wakes it and no interval is over, when it is at this
frame. -/
def Frame.due (s : State) : Frame → Nat
  -- a wake-up that is set here is cleared before the fetch
  | .loopCheck | .loopClear => (!s.stopping).toNat
  | .loopRecheck | .acquire | .checkStopping => (!s.stopping).toNat + s.wakeCredit
  -- from here on a stop comes too late for the fetch
  | .markLoading | .fetch => 1 + s.wakeCredit
  | .loopParked => (s.woken && !s.stopping).toNat
  | _ => s.wakeCredit

/-- How many fetches the loop can start, if nobody wakes it and no interval is over. -/
def State.due (s : State) : Nat :=
  match s.pending .loop with
  | [] => (!s.started).toNat
  | f :: _ => f.due s

section

variable {s t : State} {who w : Who} {f g : Frame} {a : Action} {m : Move} {rest : List Frame}

theorem State.due_of_pending (hp : s.pending .loop = f :: rest) : s.due = f.due s := by
  simp [State.due, hp]

/-- No more fetches are due if no wake-up has come, except to a poller that is being stopped. -/
theorem Frame.due_mono (hs : s.stopping → t.stopping) (hwake : t.wake → s.wake ∨ t.stopping)
    (hwoken : t.woken → s.woken ∨ t.stopping) : f.due t ≤ f.due s := by
  cases ht : t.stopping with
  | true =>
      -- only the fetch that a stop comes too late for is still due
      cases f <;> simp [Frame.due, State.wakeCredit, ht]
  | false =>
      have hrun : s.stopping = false := by
        rw [Bool.eq_false_iff]
        exact fun h => by simp [hs h] at ht
      have hcredit : t.wake.toNat ≤ s.wake.toNat := by
        cases h : t.wake <;> simp_all
      have hparked : t.woken.toNat ≤ s.woken.toNat := by
        cases h : t.woken <;> simp_all
      cases f <;> simp only [Frame.due, State.wakeCredit, ht, hrun, Bool.not_false, Bool.and_true] <;>
        omega

/-- A wake-up is good for one more fetch at most. -/
theorem Frame.due_setWake_le : f.due s.setWake ≤ f.due s + 1 := by
  have hcredit : s.setWake.wakeCredit ≤ s.wakeCredit + 1 := by
    have := Bool.toNat_le (s.setWake.wake && !s.setWake.stopping)
    unfold State.wakeCredit
    omega
  have hparked := Bool.toNat_le (s.setWake.woken && !s.setWake.stopping)
  have hstopping : s.setWake.stopping = s.stopping := rfl
  cases f <;> simp only [Frame.due, hstopping] at hparked ⊢ <;> omega

/-- A wake-up is good for nothing more if there is one already. -/
theorem Frame.due_setWake_of_fetching (h : s.stopping = false → s.wake) :
    Frame.fetching.due s.setWake ≤ Frame.fetching.due s := by
  cases hs : s.stopping with
  | true => simp [Frame.due, State.wakeCredit, State.setWake, hs]
  | false => simp [Frame.due, State.wakeCredit, State.setWake, hs, h hs]

/-! ## What a turn does to them -/

/-- The wait of the loop is ended by a reload or by a stop. -/
theorem Turn.woken_of (h : Turn s who f a m) (hw : m.state.woken) :
    s.woken ∨ f = .reloadWake ∨ ∃ timed joins, f = .stopWake timed joins := by
  by_cases hq : f.quiet
  · rw [h.eq_of_quiet hq] at hw
    exact .inl hw
  · cases h with
    | runs hm hs =>
        cases f <;> simp [Frame.quiet] at hq <;> simp only [Frame.move?, State.enter] at hm <;>
          (try split at hm) <;> (try split at hm) <;>
          simp only [Option.some.injEq, reduceCtorEq] at hm <;> subst hm <;> simp_all
    | answers _ hm | sinks _ _ hm => subst hm; exact absurd rfl hq
    | timesOut hm => cases f <;> first | exact absurd rfl hq | cases hm

/-- Only a reload makes another fetch due. -/
theorem Turn.due_le (h : Turn s who f a m) (hf : f.Fits s who) (hr : f ≠ .reloadWake) :
    g.due m.state ≤ g.due s := by
  have he := h.effect
  have stops {timed joins : Bool} (hfw : f = .stopWake timed joins) : m.state.stopping :=
    he.stopping.mpr (.inl (hf.signalled (by rw [hfw]; rfl)))
  refine Frame.due_mono (fun hs => he.stopping.mpr (.inl hs)) (fun hw => ?_) fun hw => ?_
  · rcases he.wake with h' | ⟨_, h'⟩ | ⟨h' | ⟨timed, joins, h'⟩, _⟩
    · exact .inl (h' ▸ hw)
    · simp [h'] at hw
    · exact absurd h' hr
    · exact .inr (stops h')
  · rcases h.woken_of hw with h' | h' | ⟨timed, joins, h'⟩
    · exact .inl h'
    · exact absurd h' hr
    · exact .inr (stops h')

/-- The loop goes on to frames at which no more fetches are due, unless its interval is over. -/
theorem Follows.due_le (h : Follows s .loop a f g) (hf : f ≠ .fetch) (hc : f ≠ .loopClear)
    (hg : g ≠ .loopParked) (ha : f = .loopParked → a ≠ .timesOut .loop) : g.due s ≤ f.due s := by
  cases h <;> simp_all [Frame.due, State.wakeCredit]

theorem State.startsFetch_iff :
    s.startsFetch a ↔ a = .runs .loop ∧ ∃ rest, s.pending .loop = .fetch :: rest := by
  unfold startsFetch
  split
  · split <;> simp_all
  · simp_all

theorem State.endsInterval_iff :
    s.endsInterval a ↔ a = .timesOut .loop ∧ ∃ rest, s.pending .loop = .loopParked :: rest := by
  unfold endsInterval
  split
  · split <;> simp_all
  · simp_all

theorem State.loopFetching_iff : s.loopFetching ↔ ∃ rest, s.pending .loop = .fetching :: rest := by
  unfold loopFetching
  split <;> simp_all

theorem Frame.due_setPending {frames : List Frame} : f.due (s.setPending who frames) = f.due s := rfl

/-- What is due after a turn of the loop, when it is at this frame then. -/
theorem State.due_apply {more : List Frame} (h : m.next ++ rest = g :: more) :
    (State.apply .loop rest m).state.due = g.due m.state := by
  have hp : (State.apply .loop rest m).state.pending .loop = g :: more := by simp [State.apply, h]
  rw [State.due_of_pending hp]
  exact Frame.due_setPending

theorem Frame.due_of_stop (h : f.family = .stop) : f.due s = s.wakeCredit := by
  cases f <;> first | rfl | cases h

theorem Frame.due_of_isAfterSink (h : f.isAfterSink) : f.due s = s.wakeCredit := by
  cases f <;> first | rfl | cases h

/-- A turn of the loop that goes on with nothing makes no fetch due. -/
theorem Turn.loop_due_of_nil (hi : Invariant s) (hp : s.pending .loop = f :: rest)
    (ht : Turn s .loop f a m) (hr : f ≠ .reloadWake) (hn : m.next = []) :
    (State.apply .loop rest m).state.due ≤ f.due s := by
  have hf : f.Fits s .loop := hi.fits .loop f (by simp [hp])
  cases (hp ▸ hi.layout .loop : Layout .loop (f :: rest)) with
  | call hw _ | stop hw _ _ => exact absurd rfl hw
  | loop _ _ =>
      -- the loop has ended
      have hstarted : m.state.started = true := by
        cases hs : m.state.started with
        | true => rfl
        | false => simp [hi.notLaunched (ht.effect.started ▸ hs)] at hp
      simp [State.due, State.apply, hn, hstarted]
  | refresh hfam =>
      -- the lock is given back, and the loop comes to its wait
      obtain ⟨ok, rfl⟩ : ∃ ok, f = .release ok := by
        rcases ht.next_family with ⟨_, h⟩ | ⟨_, h, _⟩ | ⟨_, h⟩ | ⟨_, _, _, _, h⟩
        · exact h hfam
        all_goals simp [hn] at h
      rw [State.due_apply (g := .loopWait) (by rw [hn]; rfl)]
      exact ht.due_le hf hr
  | @sink _ g hfam hg =>
      -- the stop that the error sink has asked for is over
      rw [State.due_apply (g := g) (by rw [hn]; rfl), Frame.due_of_stop hfam,
        ← Frame.due_of_isAfterSink hg]
      exact ht.due_le hf hr

/-- A turn of the loop that goes on with a frame makes no fetch due, unless the interval is over. -/
theorem Turn.loop_due_of_cons {more : List Frame} (hp : s.pending .loop = f :: rest)
    (ht : Turn s .loop f a m) (hf : f.Fits s .loop) (hr : f ≠ .reloadWake) (hfetch : f ≠ .fetch)
    (hclear : f ≠ .loopClear) (hn : m.next = g :: more) :
    g.due m.state ≤ f.due s + (s.endsInterval a).toNat := by
  have hg : g ∈ m.next := by simp [hn]
  have hfollows := ht.follows hg
  by_cases hpark : g = .loopParked
  · -- the loop begins to wait only if there is no wake-up
    subst hpark
    cases hfollows with
    | parks hw =>
        cases ht with
        | runs hm _ =>
            simp only [Frame.move?, hw, Bool.false_eq_true, if_false] at hm
            split at hm <;> obtain rfl := Option.some.inj hm
            · simp [Frame.due]
            · cases hg
  by_cases hover : f = .loopParked ∧ a = .timesOut .loop
  · obtain ⟨rfl, rfl⟩ := hover
    have hends : s.endsInterval (.timesOut .loop) = true := State.endsInterval_iff.mpr ⟨rfl, rest, hp⟩
    cases hfollows with
    | elapses =>
        have hle := Bool.toNat_le (!m.state.stopping)
        simp only [Frame.due, hends, Bool.toNat_true]
        omega
  · have hle := hfollows.due_le hfetch hclear hpark fun hfp hat => hover ⟨hfp, hat⟩
    exact Nat.le_add_right_of_le (Nat.le_trans (ht.due_le hf hr) hle)

/-- **A turn of the loop starts a fetch that was due, or makes none due**, unless its interval is
over. -/
theorem Turn.loop_due (hi : Invariant s) (hp : s.pending .loop = f :: rest) (ht : Turn s .loop f a m)
    (hr : f ≠ .reloadWake) :
    (State.apply .loop rest m).state.due + (s.startsFetch a).toNat ≤
      s.due + (s.endsInterval a).toNat := by
  rw [State.due_of_pending hp]
  by_cases hfetch : f = .fetch
  · subst hfetch
    cases ht with
    | answers _ hm | sinks _ _ hm | timesOut hm => cases hm
    | runs hm _ =>
        have hstep : some { state := s, next := [.fetching] } = some m := hm
        obtain rfl := Option.some.inj hstep
        have hle := Bool.toNat_le (s.startsFetch (.runs .loop))
        rw [State.due_apply (g := .fetching) rfl]
        simp only [Frame.due]
        omega
  have hstart : s.startsFetch a = false := by
    rw [Bool.eq_false_iff, ne_eq, State.startsFetch_iff]
    rintro ⟨_, rest', hp'⟩
    rw [hp, List.cons.injEq] at hp'
    exact hfetch hp'.1
  rw [hstart, Bool.toNat_false, Nat.add_zero]
  by_cases hclear : f = .loopClear
  · -- the wake-up that the loop has seen is cleared
    subst hclear
    cases ht with
    | answers _ hm | sinks _ _ hm | timesOut hm => cases hm
    | runs hm _ =>
        have hstep : some { state := { s with wake := false }, next := [.loopRecheck] } = some m := hm
        obtain rfl := Option.some.inj hstep
        rw [State.due_apply (g := .loopRecheck) rfl]
        simp [Frame.due, State.wakeCredit]
  cases hn : m.next with
  | nil => exact Nat.le_add_right_of_le (ht.loop_due_of_nil hi hp hr hn)
  | cons g more =>
      rw [State.due_apply (g := g) (by rw [hn]; rfl)]
      exact ht.loop_due_of_cons hp (hi.fits .loop f (by simp [hp])) hr hfetch hclear hn

/-- What is due of a loop that has not taken the step. -/
theorem State.due_le_due {k : Nat} (hl : t.pending .loop = s.pending .loop)
    (hs : t.started = s.started) (h : ∀ g : Frame, g.due t ≤ g.due s + k) : t.due ≤ s.due + k := by
  simp only [State.due, hl, hs]
  cases s.pending .loop with
  | nil => exact Nat.le_add_right _ _
  | cons g frames => exact h g

/-- A turn of another thread makes no fetch of the loop due, unless it is that of a reload. -/
theorem Turn.others_due (ht : Turn s who f a m) (hf : f.Fits s who) (hw : who ≠ .loop)
    (hr : f ≠ .reloadWake) : (State.apply who rest m).state.due ≤ s.due := by
  have hl : (State.apply who rest m).state.pending .loop = s.pending .loop :=
    ht.pending_apply_of_ne hw.symm
  exact State.due_le_due (k := 0) hl ht.effect.started fun g => ht.due_le hf hr

/-! ## What every step keeps -/

namespace Frame

/-- The frames on the way from clearing the wake-up to a fetch. -/
def precedesFetch : Frame → Bool
  | .loopRecheck | .acquire | .checkStopping | .markLoading | .fetch => true
  | _ => false

/-- The frames of a reload. -/
def reloading : Frame → Bool
  | .reloadCheck | .reloadWake => true
  | _ => false

end Frame

/-- A reload that has come is going to lead to a fetch of the loop. -/
def State.HoldsReload (s : State) : Prop :=
  s.wake ∨ ∃ f rest, s.pending .loop = f :: rest ∧ f.precedesFetch

/-- On its way to a fetch the loop goes on to the fetch. -/
theorem Turn.next_precedesFetch (ht : Turn s who f a m) (hf : f.precedesFetch) (hfetch : f ≠ .fetch)
    (hs : s.stopping = false) : ∃ g more, m.next = g :: more ∧ g.precedesFetch := by
  cases ht with
  | answers _ hm | sinks _ _ hm => subst hm; cases hf
  | timesOut hm => cases f <;> simp [Frame.precedesFetch] at hf <;> cases hm
  | runs hm _ =>
      cases f with
      | acquire =>
          simp only [Frame.move?] at hm
          split at hm
          · obtain rfl := Option.some.inj hm
            exact ⟨_, _, rfl, rfl⟩
          · cases hm
      | loopRecheck | checkStopping =>
          simp only [Frame.move?, hs, Bool.false_eq_true, if_false] at hm
          obtain rfl := Option.some.inj hm
          exact ⟨_, _, rfl, rfl⟩
      | markLoading =>
          obtain rfl := Option.some.inj hm
          exact ⟨_, _, rfl, rfl⟩
      | fetch => exact absurd rfl hfetch
      | _ => cases hf

/-- **A turn loses no reload**, as long as nobody stops the poller. -/
theorem State.HoldsReload.turn (h : s.HoldsReload) (hi : Invariant s) (hp : s.pending who = f :: rest)
    (ht : Turn s who f a m) (hs : m.state.stopping = false) (hfetch : ¬ s.startsFetch a) :
    (State.apply who rest m).state.HoldsReload := by
  have he := ht.effect
  have hrun : s.stopping = false :=
    Bool.eq_false_iff.mpr fun h => by simp [he.stopping.mpr (.inl h)] at hs
  rcases h with hw | ⟨g, frames, hl, hg⟩
  · rcases he.wake with h' | ⟨rfl | rfl, _⟩ | ⟨_, h'⟩
    · exact .inl (h'.trans hw)
    · -- the loop is on its way to a fetch
      obtain ⟨rfl, rfl⟩ := hi.loop_alone hp rfl
      cases ht with
      | answers _ hm | sinks _ _ hm | timesOut hm => cases hm
      | runs hm _ =>
          obtain rfl := Option.some.inj hm
          exact .inr ⟨.loopRecheck, [], by simp [State.apply], rfl⟩
    · have := (hi.fits who .stopClear (by simp [hp])).signalled rfl
      simp [hrun] at this
    · exact .inl h'
  · by_cases hw : who = .loop
    · subst hw
      obtain ⟨rfl, rfl⟩ : f = g ∧ rest = frames := by simpa [hp] using hl
      have hff : f ≠ .fetch := by
        rintro rfl
        refine hfetch (State.startsFetch_iff.mpr ⟨?_, rest, hp⟩)
        cases ht with
        | answers _ hm | sinks _ _ hm | timesOut hm => cases hm
        | runs _ _ => rfl
      obtain ⟨g', more, hn, hg'⟩ := ht.next_precedesFetch hg hff hrun
      exact .inr ⟨g', more ++ rest, by simp [State.apply, hn], hg'⟩
    · exact .inr ⟨g, frames, (ht.pending_apply_of_ne (Ne.symm hw)).trans hl, hg⟩

/-- A turn at the end of a reload. -/
theorem Turn.of_reloadWake (hi : Invariant s) (hp : s.pending who = .reloadWake :: rest)
    (ht : Turn s who .reloadWake a m) :
    a = .runs who ∧ m = { state := s.setWake, result := some .done } ∧ rest = [] ∧
      ∃ n, who = .caller n := by
  obtain ⟨hw, hrest⟩ := (hp ▸ hi.layout who : Layout who (.reloadWake :: rest)).call_alone rfl
  cases ht with
  | answers _ hm | sinks _ _ hm | timesOut hm => cases hm
  | runs hm _ =>
      refine ⟨rfl, (Option.some.inj hm).symm, hrest, ?_⟩
      cases who with
      | loop => exact absurd rfl hw
      | caller n => exact ⟨n, rfl⟩

/-- Whether a turn is the end of a reload can be seen from its frame. -/
theorem Turn.reloads_eq_false (hp : s.pending who = f :: rest) (ht : Turn s who f a m)
    (hr : f ≠ .reloadWake) : s.reloads a = false := by
  cases ht with
  | answers _ _ | sinks _ _ _ | timesOut _ => rfl
  | runs _ _ => cases f <;> simp_all [State.reloads]

/-- Only a turn of the loop starts a fetch of the loop, or is the end of its interval. -/
theorem Turn.loop_counts (ht : Turn s who f a m) (hw : who ≠ .loop) :
    s.startsFetch a = false ∧ s.endsInterval a = false := by
  cases who with
  | loop => exact absurd rfl hw
  | caller n => cases ht <;> exact ⟨rfl, rfl⟩

end

namespace Tally

section

variable {t u : Tally} {s : State} {who : Who} {f g : Frame} {a : Action} {m : Move}
  {rest : List Frame}

/-- A reload has come since the loop started its last fetch. -/
def ReloadPending (t : Tally) : Prop := ∃ w ∈ t.wakeups, w.fetches = t.fetches

/-- What holds of the reloads that have come. -/
structure Kept (t : Tally) : Prop where
  past : ∀ w ∈ t.wakeups, w.fetches ≤ t.fetches
  held : t.state.stopping = false → t.ReloadPending → t.state.HoldsReload
  /-- A wake-up ends the wait. -/
  roused : .loopParked ∈ t.state.pending .loop → t.state.wake → t.state.woken

/-- The fetches that the loop has started, and those that are due, are paid for. -/
def Paid (t : Tally) : Prop := t.fetches + t.state.due ≤ 1 + t.intervals + requests t.wakeups

/-- Every wake-up is that of a call, and so are those to come of the callers who ask for a reload. -/
def Called (t : Tally) : Prop :=
  ∃ asking : List Nat, (∀ n, ∀ f ∈ t.state.pending (.caller n), f.reloading → n ∈ asking) ∧
    t.wakeups.length + asking.length ≤ t.calls

/-! ### Reloads that have come -/

theorem Kept.past_record (h : t.Kept) :
    ∀ w ∈ (t.record a s).wakeups, w.fetches ≤ (t.record a s).fetches := by
  intro w hw
  have hle : t.fetches ≤ (t.record a s).fetches := Nat.le_add_right _ _
  simp only [record] at hw
  split at hw
  · rcases List.mem_cons.mp hw with rfl | hw
    · exact hle
    · exact Nat.le_trans (h.past w hw) hle
  · exact Nat.le_trans (h.past w hw) hle

/-- A reload that is pending after a step has come with the step, or was pending before, and no fetch
of the loop has been started. -/
theorem Kept.reloadPending_record (h : t.Kept) (hp : (t.record a s).ReloadPending) :
    t.state.reloads a ∨ (t.state.startsFetch a = false ∧ t.ReloadPending) := by
  obtain ⟨w, hw, hf⟩ := hp
  cases hr : t.state.reloads a with
  | true => exact .inl rfl
  | false =>
      simp only [record, hr, Bool.false_eq_true, if_false] at hw hf
      cases hs : t.state.startsFetch a with
      | true =>
          have := h.past w hw
          simp only [hs, Bool.toNat_true] at hf
          omega
      | false => exact .inr ⟨rfl, w, hw, by simpa [hs] using hf⟩

theorem Kept.begin (h : t.Kept) (n : Nat) (op : Operation) :
    (t.record (.begins n op) (t.state.setPending (.caller n) op.frames)).Kept := by
  have hloop : (t.state.setPending (.caller n) op.frames).pending .loop = t.state.pending .loop :=
    State.setPending_of_ne (by simp)
  refine ⟨h.past_record, fun hs hp => ?_, fun hl => h.roused (hloop ▸ hl)⟩
  rcases h.reloadPending_record hp with hr | ⟨_, hp⟩
  · cases hr
  · refine (h.held hs hp).imp_right fun ⟨f, rest, hl, hf⟩ => ⟨f, rest, ?_, hf⟩
    exact hloop.trans hl

theorem Kept.launch (h : t.Kept) (hi : Invariant t.state) (hp : t.state.pending who = .start :: rest)
    (hc : t.state.canStart) :
    (t.record (.runs who) (t.state.launched.setPending who rest)).Kept := by
  have hloop : t.state.pending .loop = [] := hi.notLaunched hc.1
  refine ⟨h.past_record, fun hs hr => ?_, fun hl => ?_⟩
  · rcases h.reloadPending_record hr with hr | ⟨_, hr⟩
    · simp [State.reloads, hp] at hr
    · -- the wake-up is still set, as no loop has been there to clear it
      refine .inl ((h.held hs hr).resolve_right ?_)
      rintro ⟨f, rest, hl, _⟩
      simp [hloop] at hl
  · rcases (hi.mem_pending_launched hc hp).mp hl with ⟨_, hl⟩ | ⟨_, hl⟩
    · cases hl
    · simp [hloop] at hl

theorem Kept.turn (h : t.Kept) (hi : Invariant t.state) (hp : t.state.pending who = f :: rest)
    (ht : Turn t.state who f a m) : (t.record a (State.apply who rest m).state).Kept := by
  have he := ht.effect
  refine ⟨h.past_record, fun (hs : m.state.stopping = false) hr => ?_, fun hl hw => ?_⟩
  · rcases h.reloadPending_record hr with hr | ⟨hf, hr⟩
    · by_cases hrw : f = .reloadWake
      · subst hrw
        obtain ⟨_, rfl, _⟩ := ht.of_reloadWake hi hp
        exact .inl rfl
      · simp [ht.reloads_eq_false hp hrw] at hr
    · have hrun : t.state.stopping = false :=
        Bool.eq_false_iff.mpr fun h => by simp [he.stopping.mpr (.inl h)] at hs
      exact (h.held hrun hr).turn hi hp ht hs (by simp [hf])
  · show m.state.woken = true
    have hw : m.state.wake = true := hw
    have hwoken (hsw : t.state.wake = true) (hparked : .loopParked ∈ t.state.pending .loop) :
        m.state.woken = true := by
      rcases he.woken with h' | ⟨_, h'⟩ | h'
      · rw [h']
        exact h.roused hparked hsw
      · simp [hsw] at h'
      · exact h'
    rcases he.wake with hsw | ⟨_, hsw⟩ | ⟨rfl | ⟨timed, joins, rfl⟩, _⟩
    · rw [hsw] at hw
      rcases ht.mem_pending hp hl with ⟨_, hn⟩ | hparked
      · -- the loop does not begin to wait if there is a wake-up
        obtain ⟨_, hwake⟩ := (ht.waitOrigin hn).parked rfl
        simp [hw] at hwake
      · exact hwoken hw hparked
    · simp [hsw] at hw
    · obtain ⟨_, rfl, _⟩ := ht.of_reloadWake hi hp
      rfl
    · exact (he.stopWoke timed joins rfl).2

/-! ### Fetches that are paid for -/

/-- A wake-up by a reload makes a fetch due, unless it is the second one in a fetch of the loop. -/
theorem Paid.reload (h : t.Paid) (hk : t.Kept) {n : Nat}
    (hr : t.state.reloads (.runs (.caller n)) = true) (frames : List Frame) :
    (t.record (.runs (.caller n)) (t.state.setWake.setPending (.caller n) frames)).Paid := by
  have hl : (t.state.setWake.setPending (.caller n) frames).pending .loop = t.state.pending .loop :=
    State.setPending_of_ne (by simp)
  let w : Wakeup := ⟨t.fetches, t.state.loopFetching⟩
  have hcounts : (t.record (.runs (.caller n)) (t.state.setWake.setPending (.caller n) frames)) =
      { t with state := t.state.setWake.setPending (.caller n) frames, wakeups := w :: t.wakeups } := by
    simp [record, hr, State.startsFetch, State.endsInterval, Action.asksReload, w]
  unfold Paid at h ⊢
  rw [hcounts]
  by_cases hw : w.fetching ∧ w ∈ t.wakeups
  · -- the wake-up of the first one is still set
    obtain ⟨frames', hfetching⟩ := t.state.loopFetching_iff.mp hw.1
    have hwake : t.state.stopping = false → t.state.wake := by
      intro hs
      refine (hk.held hs ⟨w, hw.2, rfl⟩).resolve_right ?_
      rintro ⟨f, rest, hl, hf⟩
      rw [hfetching, List.cons.injEq] at hl
      obtain ⟨rfl, _⟩ := hl
      cases hf
    have hdue := Frame.due_setWake_of_fetching hwake
    have hs : t.state.due = Frame.fetching.due t.state := State.due_of_pending hfetching
    have ht : (t.state.setWake.setPending (.caller n) frames).due =
        Frame.fetching.due t.state.setWake := State.due_of_pending (hl.trans hfetching)
    simp only [requests, if_pos hw]
    omega
  · have hle (g : Frame) :
        g.due (t.state.setWake.setPending (.caller n) frames) ≤ g.due t.state + 1 := by
      rw [Frame.due_setPending]
      exact Frame.due_setWake_le
    have hdue := State.due_le_due hl rfl hle
    simp only [requests, if_neg hw]
    omega

theorem Paid.turn (h : t.Paid) (hk : t.Kept) (hi : Invariant t.state)
    (hp : t.state.pending who = f :: rest) (ht : Turn t.state who f a m) :
    (t.record a (State.apply who rest m).state).Paid := by
  have hf : f.Fits t.state who := hi.fits who f (by simp [hp])
  unfold Paid at h ⊢
  by_cases hr : f = .reloadWake
  · subst hr
    obtain ⟨rfl, rfl, rfl, n, rfl⟩ := ht.of_reloadWake hi hp
    exact Paid.reload h hk (by simp [State.reloads, hp]) []
  · have hreloads := ht.reloads_eq_false hp hr
    by_cases hw : who = .loop
    · subst hw
      have hle := ht.loop_due hi hp hr
      simp only [record, hreloads, Bool.false_eq_true, if_false]
      omega
    · have hle : (State.apply who rest m).state.due ≤ t.state.due := ht.others_due hf hw hr
      obtain ⟨hstart, hends⟩ := ht.loop_counts hw
      simp only [record, hreloads, hstart, hends, Bool.false_eq_true, if_false, Bool.toNat_false]
      omega

theorem Paid.begin (h : t.Paid) (n : Nat) (op : Operation) :
    (t.record (.begins n op) (t.state.setPending (.caller n) op.frames)).Paid := by
  have hdue : (t.state.setPending (.caller n) op.frames).due = t.state.due := by
    simp only [State.due, State.setPending_of_ne (show Who.loop ≠ .caller n by simp)]
    cases t.state.pending .loop <;> rfl
  unfold Paid at h ⊢
  simpa [record, State.startsFetch, State.endsInterval, State.reloads, hdue] using h

/-- The fetch with which the loop begins is due from the start. -/
theorem Paid.launch (h : t.Paid) (hi : Invariant t.state) (hp : t.state.pending who = .start :: rest)
    (hc : t.state.canStart) :
    (t.record (.runs who) (t.state.launched.setPending who rest)).Paid := by
  obtain ⟨hw, _⟩ := (hp ▸ hi.layout who : Layout who (.start :: rest)).call_alone rfl
  have hloop : (t.state.launched.setPending who rest).pending .loop = [.loopCheck] := by
    rw [State.setPending_of_ne hw.symm]
    rfl
  have hdue : (t.state.launched.setPending who rest).due ≤ t.state.due := by
    have hle := Bool.toNat_le (!(t.state.launched.setPending who rest).stopping)
    rw [State.due_of_pending hloop]
    simp only [State.due, hi.notLaunched hc.1, hc.1, Frame.due]
    exact hle
  unfold Paid at h ⊢
  cases who with
  | loop => exact absurd rfl hw
  | caller n =>
      simp only [record, State.startsFetch, State.endsInterval, State.reloads, hp, Bool.toNat_false,
        Bool.false_eq_true, if_false]
      omega

/-! ### Calls -/

theorem Called.begin (h : t.Called) (n : Nat) (op : Operation) :
    (t.record (.begins n op) (t.state.setPending (.caller n) op.frames)).Called := by
  obtain ⟨asking, hasking, hle⟩ := h
  by_cases hop : op = .reload
  · subst hop
    refine ⟨n :: asking, fun k g hg hgr => ?_, ?_⟩
    · rcases State.mem_setPending.mp hg with ⟨hk, _⟩ | ⟨_, hg⟩
      · simp [Who.caller.inj hk]
      · exact List.mem_cons_of_mem n (hasking k g hg hgr)
    · simp only [record, Action.asksReload, State.reloads, Bool.false_eq_true, if_false,
        Bool.toNat_true, List.length_cons]
      omega
  · refine ⟨asking, fun k g hg hgr => ?_, ?_⟩
    · rcases State.mem_setPending.mp hg with ⟨_, hg⟩ | ⟨_, hg⟩
      · cases op <;> simp only [Operation.frames, List.mem_cons, List.not_mem_nil, or_false] at hg
        case reload => exact absurd rfl hop
        all_goals rcases hg with rfl | rfl <;> cases hgr
      · exact hasking k g hg hgr
    · simp only [record, State.reloads, Bool.false_eq_true, if_false]
      omega

theorem Called.launch (h : t.Called) (hi : Invariant t.state)
    (hp : t.state.pending who = .start :: rest) (hc : t.state.canStart) :
    (t.record (.runs who) (t.state.launched.setPending who rest)).Called := by
  obtain ⟨asking, hasking, hle⟩ := h
  refine ⟨asking, fun k g hg hgr => ?_, ?_⟩
  · rcases (hi.mem_pending_launched hc hp).mp hg with ⟨hk, _⟩ | ⟨_, hg⟩
    · cases hk
    · exact hasking k g hg hgr
  · simp only [record, State.reloads, hp, Bool.false_eq_true, if_false]
    omega

theorem Called.turn (h : t.Called) (hi : Invariant t.state) (hp : t.state.pending who = f :: rest)
    (ht : Turn t.state who f a m) : (t.record a (State.apply who rest m).state).Called := by
  obtain ⟨asking, hasking, hle⟩ := h
  by_cases hr : f = .reloadWake
  · subst hr
    obtain ⟨rfl, rfl, rfl, n, rfl⟩ := ht.of_reloadWake hi hp
    have hmem : n ∈ asking := hasking n .reloadWake (by simp [hp]) rfl
    refine ⟨asking.erase n, fun k g hg hgr => ?_, ?_⟩
    · rcases mem_pending_apply.mp hg with ⟨_, hn | hn⟩ | ⟨hk, hg⟩
      · cases hn
      · cases hn
      · have hkn : k ≠ n := by
          rintro rfl
          exact hk rfl
        exact (List.mem_erase_of_ne hkn).mpr (hasking k g hg hgr)
    · have hlen := List.length_erase_of_mem hmem
      have hpos := List.length_pos_of_mem hmem
      simp only [record, State.reloads, hp, if_true, List.length_cons, Action.asksReload,
        Bool.toNat_false]
      omega
  · refine ⟨asking, fun k g hg hgr => ?_, ?_⟩
    · rcases ht.mem_pending hp hg with ⟨rfl, hn⟩ | hg
      · -- who is about to wake the loop has been asking before
        have hfr : f.reloading := by
          cases ht.follows hn <;> first | rfl | cases hgr
        exact hasking k f (by simp [hp]) hfr
      · exact hasking k g hg hgr
    · simp only [record, ht.reloads_eq_false hp hr, Bool.false_eq_true, if_false]
      omega

/-! ### Every step -/

/-- What holds after every step. -/
structure Sound (t : Tally) : Prop where
  invariant : Invariant t.state
  kept : t.Kept
  paid : t.Paid
  called : t.Called

theorem sound_new (interval : Binary64) : (new interval).Sound where
  invariant := invariant_new interval
  kept := ⟨fun w hw => (by cases hw), fun _ ⟨w, hw, _⟩ => (by cases hw), fun h => (by cases h)⟩
  paid := by simp [Paid, new, State.new, State.due, requests]
  called := ⟨[], fun n f hf => (by cases hf), Nat.le_refl 0⟩

/-- **Every step of a tally is sound.** -/
theorem Sound.step (h : t.Sound) (hs : t.step? a = some u) : u.Sound := by
  obtain ⟨m, hm, rfl⟩ := step?_eq_some.mp hs
  have hi := h.invariant.step hm
  rcases State.step?_cases hm with ⟨n, op, rfl, hp, rfl⟩ | ⟨who, rest, rfl, hp, hc, rfl⟩ |
    ⟨who, f, rest, μ, hp, ht, rfl⟩
  · exact ⟨hi, h.kept.begin n op, h.paid.begin n op, h.called.begin n op⟩
  · exact ⟨hi, h.kept.launch h.invariant hp hc, h.paid.launch h.invariant hp hc,
      h.called.launch h.invariant hp hc⟩
  · exact ⟨hi, h.kept.turn h.invariant hp ht, h.paid.turn h.kept h.invariant hp ht,
      h.called.turn h.invariant hp ht⟩

end

/-! ## The theorem, and a run in which two reloads are merged -/

/-- **Reloads are not lost, and are merged.** -/
structure Merged (t : Tally) : Prop where
  /-- The loop does not wait if a reload has woken it since it started its last fetch, unless it is
  about to be woken. -/
  kept : t.state.started → t.state.stopping = false → t.state.pending .loop = [.loopParked] →
    ∀ w ∈ t.wakeups, w.fetches = t.fetches → t.state.wake ∧ t.state.woken
  /-- The first fetch needs no reason; every other one is that of an interval or of reloads, and those
  that fell into one fetch are the reason of one other fetch. -/
  bounded : t.fetches ≤ 1 + t.intervals + requests t.wakeups
  /-- Reloads are the reason of no more fetches than there were calls. -/
  called : requests t.wakeups ≤ t.wakeups.length ∧ t.wakeups.length ≤ t.calls

/-- **In every run of a poller reloads are kept and merged.** -/
theorem reloads_are_merged {interval : Binary64} {actions : List Action} {t : Tally}
    (h : (new interval).run? actions = some t) : t.Merged := by
  have hs : t.Sound := foldlM_keeps (fun _ _ _ _ ht h => Sound.step ht h) (sound_new interval) h
  refine ⟨fun _ hrun hl w hw hf => ?_, ?_, requests_le_length, ?_⟩
  · have hwake : t.state.wake := by
      refine (hs.kept.held hrun ⟨w, hw, hf⟩).resolve_right ?_
      rintro ⟨f, rest, hl', hf⟩
      rw [hl, List.cons.injEq] at hl'
      obtain ⟨rfl, _⟩ := hl'
      cases hf
    exact ⟨hwake, hs.kept.roused (by simp [hl]) hwake⟩
  · have := hs.paid
    unfold Paid at this
    omega
  · obtain ⟨asking, _, hle⟩ := hs.called
    omega

/-- Two callers ask for a reload while the loop fetches, and the loop comes to its wait. -/
def twoReloads : List Action :=
  startUp ++ Poller.calls 0 .reload 2 ++ Poller.calls 1 .reload 2 ++
    .answers .loop (.ok [beta]) :: List.replicate 13 (.runs .loop)

/-- One of these runs: both reloads are the reason of one more fetch. -/
theorem reloads_during_a_fetch_are_merged :
    ∃ t, (new (.ofInt 30)).run? twoReloads = some t ∧
      (t.fetches, t.intervals, t.calls, requests t.wakeups) = (2, 0, 2, 1) ∧ t.Merged := by
  obtain ⟨t, hrun, ht⟩ := Option.map_eq_some_iff.mp (show
    ((new (.ofInt 30)).run? twoReloads).map
      (fun t => (t.fetches, t.intervals, t.calls, requests t.wakeups)) = some (2, 0, 2, 1) from rfl)
  exact ⟨t, hrun, ht, reloads_are_merged hrun⟩

end Tally

end Poller

end FeatureFlags
