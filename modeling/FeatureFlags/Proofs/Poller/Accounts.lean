import FeatureFlags.Proofs.Poller.Lifecycle
import FeatureFlags.Proofs.Poller.Return
import FeatureFlags.Service.Memory

/-!
# `Proofs.Poller.Accounts` — refreshes, and what becomes of what was listed

A poller that lists the flags of a service in memory: the flags are set and failures are scheduled at
any moment, and whatever a thread is told when it lists the flags is what the service says then.
`Ledger` keeps the books of such a run — the failures that were scheduled and those that were raised,
the errors that the sink was given, the flags that were there to be listed — and the state in which the
refresh began that has the lock.

`refreshes_are_accounted_for` says that the books balance: a refresh whose fetch fails changes nothing
and returns false; every failure that is raised is reported once, and in order; every fetch that
succeeds publishes the flags that were set last, and readers see these until the next one does.

## Contents

1. A poller with a service in memory
2. What the service has done
3. The refresh that has the lock
4. Since the lock was taken
5. Every step of a ledger
6. What becomes of a refresh
7. The theorem, and a run with failures
-/

namespace FeatureFlags

namespace Poller

/-! ## A poller with a service in memory -/

namespace State

/-- The error with which the sink is done with an action. -/
def reporting (s : State) : Action → List LibraryError
  | .sinks who _ =>
    match s.pending who with
    | .report e :: _ => [e]
    | _ => []
  | _ => []

/-- Whether a refresh takes the lock with an action. -/
def takesLock (s : State) : Action → Bool
  | .runs who =>
    match s.pending who with
    | .acquire :: _ => true
    | _ => false
  | _ => false

end State

/-- What happens to a poller and its service. -/
inductive Event where
  /-- The flags of the service are replaced. -/
  | sets (flags : List Flag)
  /-- The next listings are to fail. -/
  | schedules (failure : Failure) (times : Int)
  /-- The service answers a thread that lists the flags. -/
  | lists (who : Who)
  /-- Anything else. -/
  | acts (a : Action)

/-- A poller, its service and the books. -/
structure Ledger where
  /-- The poller and what has happened to it. -/
  chronicle : Chronicle
  service : Memory
  /-- The flags that were set last. -/
  current : List Flag
  /-- The failures that have been scheduled, the first one first. -/
  scheduled : List Failure := []
  /-- The failures that have been raised, the first one first. -/
  raised : List Failure := []
  /-- What was there to be listed whenever a listing succeeded. -/
  served : List (List Flag) := []
  /-- The errors that the sink has dealt with, the first one first. -/
  reported : List LibraryError := []
  /-- The poller before the lock on refreshes was taken last. -/
  before : State
  /-- What the listing has come to since, none if there was none yet. -/
  outcome : Option (Except Failure (List Flag)) := none

namespace Ledger

/-- A new poller of a service with these flags. -/
def new (interval : Binary64) (flags : List Flag) : Ledger where
  chronicle := .new interval
  service := { flags }
  current := flags
  before := .new interval

/-- The poller. -/
def state (l : Ledger) : State := l.chronicle.state

/-- What an action adds to the books, and leads to. -/
def record (l : Ledger) (a : Action) (c : Chronicle) : Ledger :=
  { l with
    chronicle := c
    reported := l.reported ++ l.state.reporting a
    before := if l.state.takesLock a then l.state else l.before
    outcome := if l.state.takesLock a then none else l.outcome }

/-- The next step, none if the event cannot happen now. -/
def step? (l : Ledger) : Event → Option Ledger
  | .sets flags => some { l with service := l.service.setFlags flags, current := flags }
  | .schedules failure times =>
    some { l with
      service := l.service.failNext failure times
      scheduled := l.scheduled ++ List.replicate times.toNat failure }
  | .lists who =>
    match l.service.fetch with
    | (.ok flags, service) =>
      (l.chronicle.step? (.answers who (.ok flags))).map fun c =>
        { l with
          chronicle := c, service, outcome := some (.ok flags), served := l.served ++ [l.current] }
    | (.error failure, service) =>
      (l.chronicle.step? (.answers who (.error failure))).map fun c =>
        { l with
          chronicle := c, service, outcome := some (.error failure),
          raised := l.raised ++ [failure] }
  | .acts a => if a.isAnswer then none else (l.chronicle.step? a).map (l.record a)

/-- The ledger after a sequence of events. -/
def run? (l : Ledger) (events : List Event) : Option Ledger := events.foldlM step? l

section

variable {l k : Ledger} {e : Event} {a : Action} {c : Chronicle} {who w : Who} {f g : Frame} {m : Move}
  {rest : List Frame} {flags : List Flag} {failure : Failure}

/-- The books after a listing that succeeded. -/
def listed (l : Ledger) (c : Chronicle) : Ledger :=
  { l with
    chronicle := c
    service := { l.service with fetchCount := l.service.fetchCount + 1 }
    outcome := some (.ok l.service.flags)
    served := l.served ++ [l.current] }

/-- The books after a listing that failed. -/
def failed (l : Ledger) (c : Chronicle) (failure : Failure) (failures : List Failure) : Ledger :=
  { l with
    chronicle := c
    service := { l.service with fetchCount := l.service.fetchCount + 1, failures }
    outcome := some (.error failure)
    raised := l.raised ++ [failure] }

/-- **The cases of a step.** -/
theorem step?_cases (h : l.step? e = some k) :
    (∃ flags, e = .sets flags ∧
      k = { l with service := l.service.setFlags flags, current := flags }) ∨
    (∃ failure times, e = .schedules failure times ∧
      k = { l with
            service := l.service.failNext failure times
            scheduled := l.scheduled ++ List.replicate times.toNat failure }) ∨
    (∃ who c, e = .lists who ∧ l.service.failures = [] ∧
      l.chronicle.step? (.answers who (.ok l.service.flags)) = some c ∧ k = l.listed c) ∨
    (∃ who c failure failures, e = .lists who ∧ l.service.failures = failure :: failures ∧
      l.chronicle.step? (.answers who (.error failure)) = some c ∧ k = l.failed c failure failures) ∨
    (∃ a c, e = .acts a ∧ a.isAnswer = false ∧ l.chronicle.step? a = some c ∧ k = l.record a c) := by
  cases e with
  | sets flags => exact .inl ⟨flags, rfl, (Option.some.inj h).symm⟩
  | schedules failure times => exact .inr (.inl ⟨failure, times, rfl, (Option.some.inj h).symm⟩)
  | lists who =>
      right; right
      cases hf : l.service.failures with
      | nil =>
          left
          simp only [step?, Memory.fetch, hf, Option.map_eq_some_iff] at h
          obtain ⟨c, hc, rfl⟩ := h
          exact ⟨who, c, rfl, rfl, hc, by simp [listed, hf]⟩
      | cons failure failures =>
          right; left
          simp only [step?, Memory.fetch, hf, Option.map_eq_some_iff] at h
          obtain ⟨c, hc, rfl⟩ := h
          exact ⟨who, c, failure, failures, rfl, rfl, hc, rfl⟩
  | acts a =>
      right; right; right; right
      simp only [step?] at h
      split at h
      · cases h
      · rename_i ha
        obtain ⟨c, hc, rfl⟩ := Option.map_eq_some_iff.mp h
        exact ⟨a, c, rfl, by simpa using ha, hc, rfl⟩

/-! ## What the service has done -/

/-- What the books say about the service. -/
structure Stocked (l : Ledger) : Prop where
  flags : l.service.flags = l.current
  failures : l.scheduled = l.raised ++ l.service.failures
  fetches : l.service.fetchCount = l.served.length + l.raised.length
  listed : l.chronicle.listed = l.served
  /-- A refresh whose listing succeeded was given what was served last. -/
  served : ∀ flags, l.outcome = some (.ok flags) → l.served.getLast? = some flags

theorem stocked_new (interval : Binary64) (flags : List Flag) : (new interval flags).Stocked :=
  ⟨rfl, rfl, rfl, rfl, fun _ h => by cases h⟩

theorem Stocked.step (h : l.Stocked) (hs : l.step? e = some k) : k.Stocked := by
  rcases step?_cases hs with ⟨flags, _, rfl⟩ | ⟨failure, times, _, rfl⟩ |
    ⟨who, c, _, hf, hc, rfl⟩ | ⟨who, c, failure, failures, _, hf, hc, rfl⟩ | ⟨a, c, _, ha, hc, rfl⟩
  · exact ⟨rfl, h.failures, h.fetches, h.listed, h.served⟩
  · refine ⟨h.flags, ?_, h.fetches, h.listed, h.served⟩
    simp only [Memory.failNext, h.failures, List.append_assoc]
  · obtain ⟨m, _, rfl⟩ := Chronicle.step?_eq_some.mp hc
    refine ⟨h.flags, h.failures, ?_, ?_, fun flags ho => ?_⟩
    · have := h.fetches
      simp only [Ledger.listed, List.length_append, List.length_singleton]
      omega
    · simp [Ledger.listed, Chronicle.record, Action.listing, h.listed, h.flags]
    · obtain rfl : l.service.flags = flags := Except.ok.inj (Option.some.inj ho)
      simp [Ledger.listed, h.flags]
  · obtain ⟨m, _, rfl⟩ := Chronicle.step?_eq_some.mp hc
    refine ⟨h.flags, ?_, ?_, ?_, fun flags ho => by cases ho⟩
    · simp [Ledger.failed, h.failures, hf]
    · have := h.fetches
      simp only [Ledger.failed, List.length_append, List.length_singleton]
      omega
    · simp [Ledger.failed, Chronicle.record, Action.listing, h.listed]
  · obtain ⟨m, _, rfl⟩ := Chronicle.step?_eq_some.mp hc
    have hlisting : a.listing = [] := by cases a <;> first | rfl | cases ha
    refine ⟨h.flags, h.failures, h.fetches, ?_, fun flags ho => h.served flags ?_⟩
    · simp [record, Chronicle.record, hlisting, h.listed]
    · -- who takes the lock has not listed yet
      by_cases htakes : l.state.takesLock a <;> simp_all [record]

end

end Ledger

/-! ## The refresh that has the lock -/

namespace Frame

/-- The error that the sink has been given and has not dealt with yet. -/
def owed : Frame → List LibraryError
  | .report e => [e]
  | _ => []

end Frame

section

variable {s t : State} {who w : Who} {f g : Frame} {a : Action} {m : Move} {rest : List Frame}

theorem Frame.not_holdsLock_of_mem_frames {op : Operation} (hf : f ∈ op.frames) : ¬ f.holdsLock := by
  cases op <;> simp only [Operation.frames, List.mem_cons, List.not_mem_nil, or_false] at hf <;>
    rcases hf with rfl | rfl <;> simp [Frame.holdsLock, Frame.family]

theorem Turn.takesLock_eq_false (hp : s.pending who = f :: rest) (ht : Turn s who f a m)
    (hf : f ≠ .acquire) : s.takesLock a = false := by
  cases ht with
  | answers _ _ | sinks _ _ _ | timesOut _ => rfl
  | runs _ _ => cases f <;> simp_all [State.takesLock]

theorem Turn.reporting_eq_nil (ht : Turn s who f a m) (hf : ∀ e, f ≠ .report e) :
    s.reporting a = [] := by
  cases ht with
  | answers _ _ | runs _ _ | timesOut _ => rfl
  | sinks e _ hm => exact absurd hm (hf e)

/-- The turn that takes the lock. -/
theorem Turn.of_acquire (hp : s.pending who = .acquire :: rest) (ht : Turn s who .acquire a m) :
    s.refresher = none ∧ m.state.refresher = some who ∧ s.takesLock a = true := by
  have htakes : s.takesLock a = true := by
    cases ht with
    | runs _ _ => simp [State.takesLock, hp]
    | answers _ hm | sinks _ _ hm | timesOut hm => cases hm
  rcases ht.effect.refresher with ⟨_, hfree, htaken⟩ | ⟨⟨ok, h⟩, _⟩ | ⟨h, _⟩
  · exact ⟨hfree, htaken, htakes⟩
  · cases h
  · exact absurd rfl h

/-- A refresh goes on as its listing has come to, and the sink deals with the error it was given. -/
theorem Turn.next_suits {outcome : Option (Except Failure (List Flag))}
    (hp : s.pending who = f :: rest) (ht : Turn s who f a m) (ha : a.isAnswer = false)
    (hf : f.suits outcome) (hg : g ∈ m.next) (hgl : g.holdsLock) :
    g.suits outcome ∧ s.reporting a ++ g.owed = f.owed := by
  have hnone (he : ∀ e, f ≠ .report e) := ht.reporting_eq_nil he
  cases ht.follows hg with
  | lists _ | fails _ => cases ha
  | sinkReturns e behaviour | sinkRaises e behaviour =>
      rcases outcome with _ | (failure | flags) <;> simp_all [Frame.suits, Frame.owed, State.reporting]
  | acquires => rcases outcome with _ | (failure | flags) <;> cases hf
  | _ =>
      rcases outcome with _ | (failure | flags) <;>
        simp_all [Frame.suits, Frame.owed, Frame.holdsLock, Frame.family]

end

/-- What readers see in two states is the same, unless the poller is being stopped. -/
structure Untouched (s t : State) : Prop where
  snapshot : t.snapshot = s.snapshot
  loadedOnce : t.loadedOnce = s.loadedOnce
  loaded : t.loaded = s.loaded ∨ t.stopping

theorem Untouched.refl (s : State) : Untouched s s := ⟨rfl, rfl, .inl rfl⟩

/-- What readers see does not depend on what the threads have still to do. -/
theorem Untouched.setPending {s t : State} {who : Who} {frames : List Frame} (h : Untouched s t) :
    Untouched s (t.setPending who frames) :=
  ⟨h.snapshot, h.loadedOnce, h.loaded⟩

/-- Only a publication touches what readers see. -/
theorem Untouched.turn {s t u : State} {who : Who} {f : Frame} (h : Untouched s t)
    (he : Effect t who f u) (hf : f.Fits t who) (hp : ∀ flags, f ≠ .publish flags)
    (ho : ∀ flags, f ≠ .openGate flags) : Untouched s u := by
  obtain ⟨hs, hl⟩ := he.unpublished hp
  refine ⟨hs.trans h.snapshot, hl.trans h.loadedOnce, ?_⟩
  by_cases hopen : ∃ timed joins, f = .stopOpenGate timed joins
  · obtain ⟨timed, joins, rfl⟩ := hopen
    exact .inr (he.stopping.mpr (.inl (hf.signalled rfl)))
  · have hloaded : u.loaded = t.loaded := by
      have hnone : ¬ ∃ flags, f = .openGate flags := fun ⟨flags, h⟩ => ho flags h
      rw [Bool.eq_iff_iff, he.loaded, or_iff_left (not_or.mpr ⟨hnone, hopen⟩)]
    rw [hloaded]
    exact h.loaded.imp_right fun h => he.stopping.mpr (.inl h)

namespace Ledger

section

variable {l k : Ledger} {e : Event} {a : Action} {c : Chronicle} {who w : Who} {f g : Frame} {m : Move}
  {rest : List Frame} {flags : List Flag} {failure : Failure}

/-- What the books say about the refresh that has the lock. -/
structure Refreshing (l : Ledger) : Prop where
  /-- While nobody has the lock, every failure that was raised has been reported. -/
  free : l.state.refresher = none → l.raised.map reportOf = l.reported
  suits : ∀ w, ∀ f ∈ l.state.pending w, f.holdsLock → f.suits l.outcome
  /-- At most the failure that the sink is being told is missing. -/
  owed : ∀ w, ∀ f ∈ l.state.pending w, f.holdsLock → l.raised.map reportOf = l.reported ++ f.owed

theorem refreshing_new (interval : Binary64) (flags : List Flag) : (new interval flags).Refreshing where
  free _ := rfl
  suits w f hf := by cases hf
  owed w f hf := by cases hf

/-- A step at which nobody takes a turn within a refresh leaves these books alone. -/
theorem Refreshing.of_keeps (h : l.Refreshing) (hc : c.state.refresher = l.state.refresher)
    (hmem : ∀ w, ∀ f ∈ c.state.pending w, f.holdsLock → f ∈ l.state.pending w)
    (hr : l.state.reporting a = []) (ht : l.state.takesLock a = false) : (l.record a c).Refreshing := by
  refine ⟨fun hf => ?_, fun w f hf hl => ?_, fun w f hf hl => ?_⟩
  · simpa [record, hr] using h.free (hc.symm.trans hf)
  · simpa [record, ht] using h.suits w f (hmem w f hf hl) hl
  · simpa [record, hr] using h.owed w f (hmem w f hf hl) hl

/-- A turn of the refresh that has the lock. -/
theorem Refreshing.turn_holdsLock (h : l.Refreshing) (hi : Invariant l.state)
    (hp : l.state.pending who = f :: rest) (ht : Turn l.state who f a m) (ha : a.isAnswer = false)
    (hc : c.state = (State.apply who rest m).state) (hfl : f.holdsLock) : (l.record a c).Refreshing := by
  have hmem : f ∈ l.state.pending who := by simp [hp]
  have hff : f.Fits l.state who := hi.fits who f hmem
  have htakes : l.state.takesLock a = false := ht.takesLock_eq_false hp (by rintro rfl; cases hfl)
  have hnext {w : Who} {g : Frame} (hg : g ∈ c.state.pending w) (hgl : g.holdsLock) :
      g.suits l.outcome ∧ l.state.reporting a ++ g.owed = f.owed := by
    obtain ⟨rfl, hn⟩ := hi.next_of_holdsLock hp ht hfl (hc ▸ hg) hgl
    exact ht.next_suits hp ha (h.suits w f hmem hfl) hn hgl
  refine ⟨fun (hfree : c.state.refresher = none) => ?_, fun w g hg hgl => ?_, fun w g hg hgl => ?_⟩
  · rw [hc] at hfree
    have hfree : m.state.refresher = none := hfree
    rcases ht.effect.refresher with ⟨rfl, _⟩ | ⟨⟨ok, rfl⟩, _⟩ | ⟨_, _, h'⟩
    · cases hfl
    · -- who gives the lock back owes nothing
      have hr := ht.reporting_eq_nil (by simp)
      simpa [record, hr, Frame.owed] using h.owed who _ hmem hfl
    · rw [h', hff.lock hfl] at hfree
      cases hfree
  · simpa [record, htakes] using (hnext hg hgl).1
  · have howed := h.owed who f hmem hfl
    rw [← (hnext hg hgl).2] at howed
    simpa [record] using howed

/-- The turn with which a refresh takes the lock. -/
theorem Refreshing.turn_acquire (h : l.Refreshing) (hi : Invariant l.state)
    (hp : l.state.pending who = .acquire :: rest) (ht : Turn l.state who .acquire a m)
    (hc : c.state = (State.apply who rest m).state) : (l.record a c).Refreshing := by
  obtain ⟨hfree, htaken, htakes⟩ := ht.of_acquire hp
  have hr := ht.reporting_eq_nil (by simp)
  have hnew {w : Who} {g : Frame} (hg : g ∈ c.state.pending w) (hgl : g.holdsLock) :
      g = .checkStopping := by
    rw [hc] at hg
    rcases ht.mem_pending hp hg with ⟨_, hn⟩ | hg
    · cases ht.follows hn with
      | acquires => rfl
    · -- nobody has had the lock before
      have := (hi.fits w g hg).lock hgl
      simp [hfree] at this
  refine ⟨fun (hf : c.state.refresher = none) => ?_, fun w g hg hgl => ?_, fun w g hg hgl => ?_⟩
  · rw [hc] at hf
    have hf : m.state.refresher = none := hf
    rw [htaken] at hf
    cases hf
  · simp [hnew hg hgl, record, htakes, Frame.suits]
  · simpa [hnew hg hgl, record, hr, Frame.owed] using h.free hfree

theorem Refreshing.turn (h : l.Refreshing) (hi : Invariant l.state)
    (hp : l.state.pending who = f :: rest) (ht : Turn l.state who f a m) (ha : a.isAnswer = false)
    (hc : c.state = (State.apply who rest m).state) : (l.record a c).Refreshing := by
  by_cases hfl : f.holdsLock
  · exact h.turn_holdsLock hi hp ht ha hc hfl
  by_cases hacq : f = .acquire
  · subst hacq
    exact h.turn_acquire hi hp ht hc
  · -- a turn outside the refresh that has the lock
    refine h.of_keeps ?_ (fun w g hg hgl => ?_) ?_ (ht.takesLock_eq_false hp hacq)
    · rw [hc]
      rcases ht.effect.refresher with ⟨h', _⟩ | ⟨⟨ok, rfl⟩, _⟩ | ⟨_, _, h'⟩
      · exact absurd h' hacq
      · exact absurd rfl hfl
      · exact h'
    · rw [hc] at hg
      rcases ht.mem_pending hp hg with ⟨rfl, hn⟩ | hg
      · rcases (ht.origin hn).lock hgl with h' | ⟨h', _⟩
        · exact absurd h' hacq
        · exact absurd h' hfl
      · exact hg
    · refine ht.reporting_eq_nil ?_
      rintro e rfl
      exact hfl rfl

/-- What the books say about the refresh that has the lock, after a listing. -/
theorem Refreshing.lists (hi : Invariant l.state) (hp : l.state.pending who = .fetching :: rest)
    (ht : Turn l.state who .fetching a m) (hk : k.state = (State.apply who rest m).state)
    (hn : m.next = [g]) (hg : g.suits k.outcome)
    (ho : k.raised.map reportOf = k.reported ++ g.owed) : k.Refreshing := by
  have hff : Frame.fetching.Fits l.state who := hi.fits who .fetching (by simp [hp])
  have hstate : m.state = l.state := ht.eq_of_quiet rfl
  have hnext {w : Who} {g' : Frame} (hg' : g' ∈ k.state.pending w) (hgl : g'.holdsLock) : g' = g := by
    obtain ⟨_, hg'⟩ := hi.next_of_holdsLock hp ht rfl (hk ▸ hg') hgl
    simpa [hn] using hg'
  refine ⟨fun hf => ?_, fun w g' hg' hgl => ?_, fun w g' hg' hgl => ?_⟩
  · rw [hk] at hf
    have hfree : m.state.refresher = none := hf
    rw [hstate, hff.lock rfl] at hfree
    cases hfree
  · rw [hnext hg' hgl]
    exact hg
  · rw [hnext hg' hgl]
    exact ho

/-- The turn with which the service answers a thread. -/
theorem turn_of_answers {s : State} {outcome : Except Failure (List Flag)} {m : Move}
    (h : s.step? (.answers who outcome) = some m) :
    ∃ rest, s.pending who = .fetching :: rest ∧ m.state = (State.apply who rest
      { state := s, next := State.answerFrames outcome }).state := by
  simp only [State.step?] at h
  split at h
  · rename_i rest hp
    exact ⟨rest, hp, by rw [← Option.some.inj h]⟩
  · cases h

theorem Refreshing.acts (h : l.Refreshing) (hi : Invariant l.state) (ha : a.isAnswer = false)
    (hc : l.chronicle.step? a = some c) : (l.record a c).Refreshing := by
  obtain ⟨m, hm, rfl⟩ := Chronicle.step?_eq_some.mp hc
  rcases State.step?_cases hm with ⟨n, op, rfl, hp, rfl⟩ | ⟨who, rest, rfl, hp, hs, rfl⟩ |
    ⟨who, f, rest, μ, hp, ht, rfl⟩
  · refine h.of_keeps rfl (fun w f hf hl => ?_) rfl rfl
    rcases State.mem_setPending.mp hf with ⟨_, hf⟩ | ⟨_, hf⟩
    · exact absurd hl (Frame.not_holdsLock_of_mem_frames hf)
    · exact hf
  · have htakes : l.state.takesLock (.runs who) = false := by
      simp [State.takesLock, state, hp]
    refine h.of_keeps rfl (fun w f hf hl => ?_) rfl htakes
    rcases (hi.mem_pending_launched hs hp).mp hf with ⟨_, rfl⟩ | ⟨_, hf⟩
    · cases hl
    · exact hf
  · exact h.turn hi hp ht ha rfl

theorem Refreshing.step (h : l.Refreshing) (hi : Invariant l.state) (hs : l.step? e = some k) :
    k.Refreshing := by
  rcases step?_cases hs with ⟨flags, _, rfl⟩ | ⟨failure, times, _, rfl⟩ |
    ⟨who, c, _, hf, hc, rfl⟩ | ⟨who, c, failure, failures, _, hf, hc, rfl⟩ | ⟨a, c, _, ha, hc, rfl⟩
  · exact ⟨h.free, h.suits, h.owed⟩
  · exact ⟨h.free, h.suits, h.owed⟩
  · obtain ⟨m, hm, rfl⟩ := Chronicle.step?_eq_some.mp hc
    obtain ⟨rest, hp, hstate⟩ := turn_of_answers hm
    have howed := h.owed who .fetching (by simp [state, hp]) rfl
    exact Refreshing.lists hi hp (.answers (.ok l.service.flags) rfl) hstate rfl rfl howed
  · obtain ⟨m, hm, rfl⟩ := Chronicle.step?_eq_some.mp hc
    obtain ⟨rest, hp, hstate⟩ := turn_of_answers hm
    have howed : l.raised.map reportOf = l.reported :=
      (h.owed who .fetching (by simp [state, hp]) rfl).trans (List.append_nil _)
    refine Refreshing.lists hi hp (.answers (.error failure) rfl) hstate rfl rfl ?_
    simp [Ledger.failed, howed, Frame.owed]
  · exact h.acts hi ha hc

/-! ## Since the lock was taken -/

/-- What the books say about the time since the lock was taken last. -/
structure Since (l : Ledger) : Prop where
  invariant : Invariant l.before
  phased : Phased l.before
  free : l.before.refresher = none
  final : l.before.phase.isFinal → l.state.phase.isFinal
  untouched : l.state.refresher ≠ none → (∀ flags, l.outcome ≠ some (.ok flags)) →
    Untouched l.before l.state

theorem since_new (interval : Binary64) (flags : List Flag) : (new interval flags).Since where
  invariant := invariant_new interval
  phased := phased_new interval
  free := rfl
  final := id
  untouched _ _ := .refl _

/-- A step that is no turn within a refresh, or that brings a failure, changes none of this. -/
theorem Since.of_same (h : l.Since) (hb : k.before = l.before) (hphase : k.state.phase = l.state.phase)
    (hr : k.state.refresher = l.state.refresher)
    (ho : (∀ flags, k.outcome ≠ some (.ok flags)) → ∀ flags, l.outcome ≠ some (.ok flags))
    (hu : Untouched l.before l.state → Untouched l.before k.state) : k.Since where
  invariant := hb ▸ h.invariant
  phased := hb ▸ h.phased
  free := hb ▸ h.free
  final := by rw [hb, hphase]; exact h.final
  untouched hlock hok := by
    rw [hb]
    exact hu (h.untouched (hr ▸ hlock) (ho hok))

theorem Since.turn (h : l.Since) (hr : l.Refreshing) (hi : Invariant l.state) (hph : Phased l.state)
    (hp : l.state.pending who = f :: rest) (ht : Turn l.state who f a m)
    (hc : c.state = (State.apply who rest m).state) : (l.record a c).Since := by
  have he := ht.effect
  have hmem : f ∈ l.state.pending who := by simp [hp]
  have hff := hi.fits who f hmem
  have hstate : (l.record a c).state = (State.apply who rest m).state := hc
  by_cases hacq : f = .acquire
  · -- the books are opened again
    subst hacq
    obtain ⟨hfree, _, htakes⟩ := ht.of_acquire hp
    have hb : (l.record a c).before = l.state := by simp [record, htakes]
    refine ⟨hb ▸ hi, hb ▸ hph, hb ▸ hfree, fun hf => ?_, fun _ _ => ?_⟩
    · rw [hstate]
      exact he.isFinal (hb ▸ hf)
    · rw [hstate, hb]
      exact ((Untouched.refl _).turn he hff (by simp) (by simp)).setPending
  · have htakes := ht.takesLock_eq_false hp hacq
    have hb : (l.record a c).before = l.before := by simp [record, htakes]
    refine ⟨hb ▸ h.invariant, hb ▸ h.phased, hb ▸ h.free, fun hf => ?_, fun hlock hok => ?_⟩
    · rw [hstate]
      exact he.isFinal (h.final (hb ▸ hf))
    · have hok : ∀ flags, l.outcome ≠ some (.ok flags) := by simpa [record, htakes] using hok
      rw [hstate] at hlock ⊢
      rw [hb]
      have hheld : l.state.refresher ≠ none := by
        rcases he.refresher with ⟨h', _⟩ | ⟨_, h'⟩ | ⟨_, _, h'⟩
        · exact absurd h' hacq
        · exact absurd h' hlock
        · exact h' ▸ hlock
      -- only a refresh whose listing has succeeded touches what readers see
      refine ((h.untouched hheld hok).turn he hff ?_ ?_).setPending <;> rintro flags rfl
      all_goals
        have hs := hr.suits who _ hmem rfl
        rcases ho : l.outcome with _ | (failure | flags) <;> simp [ho, Frame.suits] at hs
        exact hok flags ho

theorem Since.acts (h : l.Since) (hr : l.Refreshing) (hi : Invariant l.state) (hph : Phased l.state)
    (hc : l.chronicle.step? a = some c) : (l.record a c).Since := by
  obtain ⟨m, hm, rfl⟩ := Chronicle.step?_eq_some.mp hc
  rcases State.step?_cases hm with ⟨n, op, rfl, hp, rfl⟩ | ⟨who, rest, rfl, hp, hs, rfl⟩ |
    ⟨who, f, rest, μ, hp, ht, rfl⟩
  · exact h.of_same rfl rfl rfl id .setPending
  · have htakes : l.state.takesLock (.runs who) = false := by simp [State.takesLock, state, hp]
    refine h.of_same (by simp [record, htakes]) rfl rfl (by simp [record, htakes]) fun hu => ?_
    exact ⟨hu.snapshot, hu.loadedOnce, hu.loaded⟩
  · exact h.turn hr hi hph hp ht rfl

/-- A listing that fails is the first one since the lock was taken. -/
theorem Since.failed (h : l.Since) (hr : l.Refreshing) {failures : List Failure}
    (hc : l.chronicle.step? (.answers who (.error failure)) = some c) :
    (l.failed c failure failures).Since := by
  obtain ⟨m, hm, rfl⟩ := Chronicle.step?_eq_some.mp hc
  obtain ⟨rest, hp, hstate⟩ := turn_of_answers hm
  refine h.of_same rfl (by rw [Ledger.failed, state, Chronicle.record_state, hstate]; rfl) ?_
    (fun _ flags ho => ?_) fun hu => ?_
  · rw [Ledger.failed, state, Chronicle.record_state, hstate]
    rfl
  · -- who waits for the service has not listed yet
    have hs := hr.suits who .fetching (by simp [state, hp]) rfl
    rw [ho] at hs
    cases hs
  · rw [Ledger.failed, state, Chronicle.record_state, hstate]
    exact hu.setPending

theorem Since.step (h : l.Since) (hr : l.Refreshing) (hi : Invariant l.state) (hph : Phased l.state)
    (hs : l.step? e = some k) : k.Since := by
  rcases step?_cases hs with ⟨flags, _, rfl⟩ | ⟨failure, times, _, rfl⟩ |
    ⟨who, c, _, hf, hc, rfl⟩ | ⟨who, c, failure, failures, _, hf, hc, rfl⟩ | ⟨a, c, _, ha, hc, rfl⟩
  · exact h.of_same rfl rfl rfl id id
  · exact h.of_same rfl rfl rfl id id
  · obtain ⟨m, hm, rfl⟩ := Chronicle.step?_eq_some.mp hc
    obtain ⟨rest, hp, hstate⟩ := turn_of_answers hm
    have hphase : m.state.phase = l.state.phase := by rw [hstate]; rfl
    exact ⟨h.invariant, h.phased, h.free, fun hf => hphase ▸ h.final hf,
      fun _ hok => absurd rfl (hok l.service.flags)⟩
  · exact h.failed hr hc
  · exact h.acts hr hi hph hc

end

end Ledger

/-! ## Every step of a ledger -/

/-- A poller that nobody starts is not started. -/
theorem State.step?_unstarted {s : State} {a : Action} {m : Move}
    (h : s.started = false ∧ ∀ w, .start ∉ s.pending w) (ha : ∀ n, a ≠ .begins n .start)
    (hm : s.step? a = some m) : m.state.started = false ∧ ∀ w, .start ∉ m.state.pending w := by
  rcases step?_cases hm with ⟨n, op, rfl, hp, rfl⟩ | ⟨who, rest, rfl, hp, hs, rfl⟩ |
    ⟨who, f, rest, μ, hp, ht, rfl⟩
  · refine ⟨h.1, fun w hw => ?_⟩
    rcases mem_setPending.mp hw with ⟨_, hw⟩ | ⟨_, hw⟩
    · cases op <;> simp [Operation.frames] at hw
      exact ha n rfl
    · exact h.2 w hw
  · exact absurd (by simp [hp]) (h.2 who)
  · refine ⟨ht.effect.started.trans h.1, fun w hw => ?_⟩
    rcases ht.mem_pending hp hw with ⟨_, hn⟩ | hw
    · cases ht.follows hn
    · exact h.2 w hw

namespace Ledger

section

variable {l k : Ledger} {e : Event} {who : Who} {m : Move} {flags : List Flag} {failure : Failure}

/-- What holds after every step. -/
structure Sound (l : Ledger) : Prop where
  chronicle : l.chronicle.Sound
  phased : Phased l.state
  stocked : l.Stocked
  refreshing : l.Refreshing
  since : l.Since

theorem sound_new (interval : Binary64) (flags : List Flag) : (new interval flags).Sound where
  chronicle := Chronicle.sound_new interval
  phased := phased_new interval
  stocked := stocked_new interval flags
  refreshing := refreshing_new interval flags
  since := since_new interval flags

/-- What the poller itself does in a step of the ledger. -/
theorem chronicle_step? (h : l.step? e = some k) :
    k.chronicle = l.chronicle ∨ ∃ a, l.chronicle.step? a = some k.chronicle := by
  rcases step?_cases h with ⟨flags, _, rfl⟩ | ⟨failure, times, _, rfl⟩ |
    ⟨who, c, _, hf, hc, rfl⟩ | ⟨who, c, failure, failures, _, hf, hc, rfl⟩ | ⟨a, c, _, ha, hc, rfl⟩
  · exact .inl rfl
  · exact .inl rfl
  · exact .inr ⟨_, hc⟩
  · exact .inr ⟨_, hc⟩
  · exact .inr ⟨a, hc⟩

/-- **Every step of a ledger is sound.** -/
theorem Sound.step (h : l.Sound) (hs : l.step? e = some k) : k.Sound := by
  have hi : Invariant l.state := h.chronicle.invariant
  refine ⟨?_, ?_, h.stocked.step hs, h.refreshing.step hi hs, h.since.step h.refreshing hi h.phased hs⟩
  · rcases chronicle_step? hs with hc | ⟨a, hc⟩
    · exact hc ▸ h.chronicle
    · exact h.chronicle.step hc
  · rcases chronicle_step? hs with hc | ⟨a, hc⟩
    · have hstate : k.state = l.state := congrArg Chronicle.state hc
      exact hstate ▸ h.phased
    · obtain ⟨m, hm, hc⟩ := Chronicle.step?_eq_some.mp hc
      have hstate : k.state = m.state := by rw [state, ← hc, Chronicle.record_state]
      exact hstate ▸ h.phased.step hi hm

/-- Nobody has started the poller in a run without a start. -/
theorem started_eq_false {interval : Binary64} {flags : List Flag} {events : List Event}
    (h : (new interval flags).run? events = some l) (hn : ∀ n, .acts (.begins n .start) ∉ events) :
    l.state.started = false := by
  refine (foldlM_keeps (P := fun l : Ledger => l.state.started = false ∧ ∀ w, .start ∉ l.state.pending w)
    (fun l e he k hl hs => ?_) ⟨rfl, fun w hw => by cases hw⟩ h).1
  have keep {a : Action} {c : Chronicle} (hc : l.chronicle.step? a = some c)
      (ha : ∀ n, a ≠ .begins n .start) :
      c.state.started = false ∧ ∀ w, .start ∉ c.state.pending w := by
    obtain ⟨m, hm, rfl⟩ := Chronicle.step?_eq_some.mp hc
    exact State.step?_unstarted hl ha hm
  rcases step?_cases hs with ⟨flags, _, rfl⟩ | ⟨failure, times, _, rfl⟩ |
    ⟨who, c, _, hf, hc, rfl⟩ | ⟨who, c, failure, failures, _, hf, hc, rfl⟩ |
    ⟨a, c, rfl, ha, hc, rfl⟩
  · exact hl
  · exact hl
  · exact keep hc (by simp)
  · exact keep hc (by simp)
  · refine keep hc ?_
    rintro n rfl
    exact hn n he

/-! ## What becomes of a refresh -/

/-- Nothing that readers see is touched by a refresh whose listing failed. -/
theorem Sound.untouched (h : l.Sound) (hl : l.state.refresher = some who)
    (ho : l.outcome = some (.error failure)) : Untouched l.before l.state :=
  h.since.untouched (by simp [hl]) (by simp [ho])

/-- A refresh that gives the lock back has left the loading phase for the one before it, unless the
poller is being stopped. -/
theorem Sound.phase_restored (h : l.Sound) {ok : Bool} {rest : List Frame}
    (hp : l.state.pending who = .release ok :: rest) (hu : Untouched l.before l.state) :
    l.state.phase = l.before.phase ∨ l.state.phase.isFinal := by
  have hi : Invariant l.state := h.chronicle.invariant
  have hl : l.state.refresher = some who := (hi.fits who (.release ok) (by simp [hp])).lock rfl
  have hrest : l.state.restPhase = l.before.restPhase := by
    simp only [State.restPhase, hu.loadedOnce]
  rcases h.phased.rest with hload | hfinal | hphase
  · -- whoever is loading has the lock, and has not come to giving it back
    obtain ⟨w, hw, f, hf, hfl⟩ := h.phased.refresher hi hload
    obtain rfl : who = w := Option.some.inj (hl.symm.trans hw)
    rcases (hi.layout who).of_holdsLock hf (Frame.holdsLock_of_loads hfl) with hp' | ⟨g, hg, _, hp'⟩
    · rw [hp, List.cons.injEq] at hp'
      rw [← hp'.1] at hfl
      cases hfl
    · rw [hp, List.cons.injEq] at hp'
      rw [← hp'.1] at hg
      cases hg
  · exact .inr hfinal
  · rcases h.since.phased.rest with hload | hfinal | hphase'
    · obtain ⟨w, hw, _⟩ := h.since.phased.refresher h.since.invariant hload
      simp [h.since.free] at hw
    · exact .inr (h.since.final hfinal)
    · exact .inl (by rw [hphase, hphase', hrest])

/-- The end of a refresh whose listing failed. -/
theorem Sound.ends (h : l.Sound) {ok : Bool} (hl : l.state.refresher = some who)
    (ho : l.outcome = some (.error failure)) (hm : l.state.step? (.runs who) = some m)
    (hr : m.result = some (.refreshed ok)) :
    ok = false ∧ Untouched l.before m.state ∧
      (m.state.phase = l.before.phase ∨ m.state.phase.isFinal) := by
  obtain ⟨w, rest, hw, hp, hstate⟩ := State.release_of_refreshed hm hr
  obtain rfl := Action.runs.inj hw
  have hu := h.untouched hl ho
  have hsuits := h.refreshing.suits who (.release ok) (by simp [hp]) rfl
  refine ⟨by simpa [ho] using hsuits, ?_, ?_⟩
  · rw [hstate]
    exact ⟨hu.snapshot, hu.loadedOnce, hu.loaded⟩
  · rw [hstate]
    exact h.phase_restored hp hu

/-- A refresh whose listing succeeded is about to publish the list, or readers see it. -/
theorem Sound.shows_outcome (h : l.Sound) (hl : l.state.refresher = some who)
    (ho : l.outcome = some (.ok flags)) :
    .publish flags ∈ l.state.pending who ∨
      (l.state.snapshot = .ofFlags flags ∧ ∀ flags', .publish flags' ∉ l.state.pending who) := by
  have hlast : l.chronicle.listed.getLast? = some flags := by
    rw [h.stocked.listed]
    exact h.stocked.served flags ho
  rcases h.chronicle.order with ⟨horder, hnone⟩ | ⟨w, flags', horder, hw⟩
  · refine .inr ⟨?_, hnone who⟩
    rw [horder] at hlast
    rw [state, h.chronicle.snapshot, hlast]
    rfl
  · obtain rfl : flags' = flags := by simpa [horder] using hlast
    have hlock : l.state.refresher = some w := (h.chronicle.invariant.fits w _ hw).lock rfl
    obtain rfl := Option.some.inj (hl.symm.trans hlock)
    exact .inl hw

/-- A refresh whose listing succeeded can return, and readers see the list then. -/
theorem Sound.canComplete (h : l.Sound) (hl : l.state.refresher = some who)
    (ho : l.outcome = some (.ok flags)) : l.state.CanComplete who flags := by
  have hi : Invariant l.state := h.chronicle.invariant
  rcases h.shows_outcome hl ho with hpublish | ⟨hsnapshot, hnone⟩
  · exact hi.canComplete_of_publish hpublish
  · exact hi.canComplete hl (fun f hf hfl => ho ▸ h.refreshing.suits who f hf hfl) hnone hsnapshot

/-- The end of a refresh whose listing succeeded. -/
theorem Sound.completes (h : l.Sound) {ok : Bool} (hl : l.state.refresher = some who)
    (ho : l.outcome = some (.ok flags)) (hm : l.state.step? (.runs who) = some m)
    (hr : m.result = some (.refreshed ok)) : ok = true ∧ m.state.snapshot = .ofFlags flags := by
  obtain ⟨w, rest, hw, hp, hstate⟩ := State.release_of_refreshed hm hr
  obtain rfl := Action.runs.inj hw
  have hsuits := h.refreshing.suits who (.release ok) (by simp [hp]) rfl
  refine ⟨by simpa [ho] using hsuits, ?_⟩
  rw [hstate]
  rcases h.shows_outcome hl ho with hpublish | ⟨hsnapshot, _⟩
  · exact absurd hpublish (h.chronicle.not_publishing hp rfl (by simp) who flags)
  · exact hsnapshot

/-- The books are closed while nobody refreshes. -/
theorem Sound.closed (h : l.Sound) (hfree : l.state.refresher = none) :
    l.reported = l.raised.map reportOf ∧ l.chronicle.published = l.served := by
  refine ⟨(h.refreshing.free hfree).symm, ?_⟩
  rw [← h.stocked.listed]
  rcases h.chronicle.order with ⟨horder, _⟩ | ⟨w, flags, _, hw⟩
  · exact horder.symm
  · -- who is about to publish a list has the lock
    have := (h.chronicle.invariant.fits w _ hw).lock rfl
    rw [state] at hfree
    simp [hfree] at this

/-- The errors that the sink has dealt with are those of the first failures that were raised. -/
theorem Sound.reported_isPrefix (h : l.Sound) : l.reported <+: l.raised.map reportOf := by
  cases hl : l.state.refresher with
  | none => simp [h.refreshing.free hl]
  | some who =>
      obtain ⟨f, hf, hfl⟩ := h.chronicle.invariant.lockHeld who hl
      rw [h.refreshing.owed who f hf hfl]
      exact List.prefix_append ..

/-- The lists that have been published are those that were served first. -/
theorem Sound.published_isPrefix (h : l.Sound) : l.chronicle.published <+: l.served := by
  rw [← h.stocked.listed]
  rcases h.chronicle.order with ⟨horder, _⟩ | ⟨w, flags, horder, _⟩ <;> simp [horder]

/-! ## The theorem, and a run with failures -/

/-- What readers see after these lists: the last one, or the initial snapshot if there is none. -/
structure Shows (s : Snapshot) (lists : List (List Flag)) : Prop where
  snapshot : s = lists.getLast?.elim .empty .ofFlags
  /-- These are the flags of the last list that are active. -/
  flags : s.flags = (lists.getLast?.getD []).filter (·.active)

theorem shows_of_eq {s : Snapshot} {lists : List (List Flag)}
    (h : s = lists.getLast?.elim .empty .ofFlags) : Shows s lists := by
  refine ⟨h, ?_⟩
  subst h
  cases lists.getLast? with
  | none => rfl
  | some flags => rfl

/-- **The books balance.** -/
structure Balanced (l : Ledger) : Prop where
  /-- A refresh whose listing failed has touched nothing that readers see. -/
  untouched : ∀ who failure, l.state.refresher = some who → l.outcome = some (.error failure) →
    Untouched l.before l.state
  /-- When it returns, it returns false, and the phase is the one before it, unless the poller is being
  stopped. -/
  ends : ∀ who failure m ok, l.state.refresher = some who → l.outcome = some (.error failure) →
    l.state.step? (.runs who) = some m → m.result = some (.refreshed ok) →
    ok = false ∧ Untouched l.before m.state ∧
      (m.state.phase = l.before.phase ∨ m.state.phase.isFinal)
  /-- It can return, unless its error sink stops a poller whose loop waits for the lock. -/
  returns : ∀ who failure, l.state.refresher = some who → l.outcome = some (.error failure) →
    l.state.CanReturn who ∨ (l.state.started ∧ l.state.Ensnared who)
  /-- While nobody refreshes, every listing has led to a publication or to a call of the sink. -/
  fetches : l.state.refresher = none →
    l.service.fetchCount = l.chronicle.published.length + l.reported.length
  /-- The failures that were raised are those that were scheduled first. -/
  scheduled : l.scheduled = l.raised ++ l.service.failures
  /-- The sink is given the errors of those that were raised, in order and each one once; an error of
  the library is given as it is. -/
  reported : l.reported <+: l.raised.map reportOf ∧
    (l.state.refresher = none → l.reported = l.raised.map reportOf) ∧
    ∀ errors, l.raised = errors.map .library → l.raised.map reportOf = errors
  /-- What is published is what was set last whenever a listing succeeded, in that order. -/
  published : l.chronicle.published <+: l.served ∧
    (l.state.refresher = none → l.chronicle.published = l.served)
  /-- Readers see the list that was published last; while nobody refreshes, it is what was set last when
  a listing last succeeded. -/
  shows : Shows l.state.snapshot l.chronicle.published ∧
    (l.state.refresher = none → Shows l.state.snapshot l.served)
  /-- A refresh whose listing succeeded was given what was set last.  It can return; and when it returns,
  it returns true, and readers see these flags. -/
  completes : ∀ who flags, l.state.refresher = some who → l.outcome = some (.ok flags) →
    l.served.getLast? = some flags ∧ l.state.CanComplete who flags ∧
      ∀ m ok, l.state.step? (.runs who) = some m → m.result = some (.refreshed ok) →
        ok = true ∧ m.state.snapshot = .ofFlags flags

/-- **In every run the books balance**; and if nobody starts the poller, then its refreshes are not
ensnared by a loop. -/
theorem refreshes_are_accounted_for {interval : Binary64} {flags : List Flag} {events : List Event}
    {l : Ledger} (h : (new interval flags).run? events = some l) :
    l.Balanced ∧ ((∀ n, .acts (.begins n .start) ∉ events) → l.state.started = false) := by
  have hs : l.Sound := foldlM_keeps (fun _ _ _ _ hl h => Sound.step hl h) (sound_new interval flags) h
  refine ⟨?_, started_eq_false h⟩
  constructor
  case untouched => exact fun who failure hl ho => hs.untouched hl ho
  case ends => exact fun who failure m ok hl ho hm hr => hs.ends hl ho hm hr
  case returns =>
    intro who failure hl ho
    exact hs.chronicle.invariant.canReturn hl fun f hf hfl => ho ▸ hs.refreshing.suits who f hf hfl
  case fetches =>
    intro hfree
    obtain ⟨hreported, hpublished⟩ := hs.closed hfree
    rw [hs.stocked.fetches, hreported, hpublished, List.length_map]
  case scheduled => exact hs.stocked.failures
  case reported =>
    refine ⟨hs.reported_isPrefix, fun hfree => (hs.closed hfree).1, fun errors he => ?_⟩
    rw [he, List.map_map]
    exact List.map_id' errors
  case published => exact ⟨hs.published_isPrefix, fun hfree => (hs.closed hfree).2⟩
  case shows =>
    have hshows : Shows l.state.snapshot l.chronicle.published := shows_of_eq hs.chronicle.snapshot
    exact ⟨hshows, fun hfree => (hs.closed hfree).2 ▸ hshows⟩
  case completes =>
    intro who flags hl ho
    exact ⟨hs.stocked.served flags ho, hs.canComplete hl ho, fun m ok hm hr => hs.completes hl ho hm hr⟩

/-- A flag that is not to be seen by readers. -/
def draft : Flag := { key := "draft", active := false }

/-- A caller refreshes: the flags are listed, the sink deals with the error if there is one, and the
caller goes on for some steps. -/
def refreshing (n : Nat) (sink : List Action) (steps : Nat) : List Event :=
  (calls n .refresh 4).map .acts ++ .lists (.caller n) :: sink.map .acts ++
    List.replicate steps (.acts (.runs (.caller n)))

/-- A refresh publishes the flags that have been set.  Then three failures are scheduled and two are
raised, and the sink raises at the first of them and stops the poller at the second. -/
def twoOfThreeFailures : List Event :=
  .sets [draft, beta] :: refreshing 0 [] 5 ++
    .schedules (.library (.misuse "unavailable")) 3 :: .schedules (.library (.misuse "never")) (-1) ::
    refreshing 0 [.sinks (.caller 0) .raises] 4 ++
    refreshing 1 [.sinks (.caller 1) (.stops false true)] 12

/-- One of these runs: both refreshes that failed have left readers with the flags that were set, and
with those of them that are active. -/
theorem raising_and_stopping_sinks_are_accounted_for :
    ∃ l, (new (.ofInt 30) []).run? twoOfThreeFailures = some l ∧
      (l.service.fetchCount, l.served, l.reported.length, l.state.phase, l.state.refresher) =
        (3, [[draft, beta]], 2, .stopped, none) ∧
      l.Balanced ∧ l.state.started = false ∧
      l.state.snapshot = .ofFlags [draft, beta] ∧ l.state.snapshot.flags = [beta] := by
  obtain ⟨l, hrun, hl⟩ := Option.map_eq_some_iff.mp (show
    ((new (.ofInt 30) []).run? twoOfThreeFailures).map (fun l =>
      (l.service.fetchCount, l.served, l.reported.length, l.state.phase, l.state.refresher)) =
        some (3, [[draft, beta]], 2, .stopped, none) from rfl)
  obtain ⟨hbalanced, hstarted⟩ := refreshes_are_accounted_for hrun
  have hserved : l.served = [[draft, beta]] := congrArg (·.2.1) hl
  have hfree : l.state.refresher = none := congrArg (·.2.2.2.2) hl
  obtain ⟨hsnapshot, hflags⟩ := hbalanced.shows.2 hfree
  rw [hserved] at hsnapshot hflags
  refine ⟨l, hrun, hl, hbalanced, hstarted fun n hn => ?_, hsnapshot, hflags⟩
  simp [twoOfThreeFailures, refreshing, calls] at hn

end

end Ledger

end Poller

end FeatureFlags
