import FeatureFlags.Proofs.Poller.Invariant

/-!
# `Proofs.Poller.Reading` — what readers see

`Chronicle` is a poller with a history: the lists of flags that the service returned, those that have
been published, and whether anybody has asked for a stop.  It follows the poller's own steps
(`Chronicle.run?_state`), and its history only grows.

`reads_are_linearizable` says, for every run, that a read which gets in returns the list that was
published last, that lists are published in the order in which they were fetched, and that a read
returns the initial snapshot only if the poller is being stopped before any list was published.
-/

namespace FeatureFlags

namespace Poller

/-! ## The history of a poller -/

namespace Action

/-- The list that an action brings from the service. -/
def listing : Action → List (List Flag)
  | .answers _ (.ok flags) => [flags]
  | _ => []

/-- Whether an action is a request to stop the poller. -/
def asksStop : Action → Bool
  | .begins _ (.stop _) | .begins _ .stopAndClose | .sinks _ (.stops ..) => true
  | _ => false

end Action

/-- The list that an action publishes. -/
def State.publishing (s : State) : Action → List (List Flag)
  | .runs who =>
    match s.pending who with
    | .publish flags :: _ => [flags]
    | _ => []
  | _ => []

/-- A poller and what has happened to it. -/
structure Chronicle where
  state : State
  /-- The lists that the service returned, the oldest first. -/
  listed : List (List Flag) := []
  /-- The lists that have been published, the oldest first. -/
  published : List (List Flag) := []
  /-- Whether anybody has asked for a stop. -/
  stopAsked : Bool := false

namespace Chronicle

/-- A new poller, to which nothing has happened. -/
def new (interval : Binary64) : Chronicle := { state := .new interval }

/-- What an action adds to the history, and leads to. -/
def record (c : Chronicle) (a : Action) (s : State) : Chronicle where
  state := s
  listed := c.listed ++ a.listing
  published := c.published ++ c.state.publishing a
  stopAsked := c.stopAsked || a.asksStop

/-- The next step. -/
def step? (c : Chronicle) (a : Action) : Option Chronicle :=
  (c.state.step? a).map fun m => c.record a m.state

/-- The chronicle after a sequence of actions. -/
def run? (c : Chronicle) : List Action → Option Chronicle
  | [] => some c
  | a :: rest => (c.step? a).bind fun d => d.run? rest

variable {c d : Chronicle} {a : Action} {actions : List Action} {m : Move}

@[simp] theorem record_state {s : State} : (c.record a s).state = s := rfl

theorem step?_eq_some : c.step? a = some d ↔ ∃ m, c.state.step? a = some m ∧ c.record a m.state = d := by
  simp [step?, Option.map_eq_some_iff]

theorem run?_cons_eq_some :
    c.run? (a :: actions) = some d ↔ ∃ e, c.step? a = some e ∧ e.run? actions = some d := by
  simp [run?, Option.bind_eq_some_iff]

/-- A chronicle follows the steps of its poller. -/
theorem run?_state (c : Chronicle) (actions : List Action) :
    (c.run? actions).map state = c.state.run? actions := by
  induction actions generalizing c with
  | nil => rfl
  | cons a rest ih =>
      cases h : c.state.step? a with
      | none => simp [run?, step?, State.run?, h]
      | some m => simpa [run?, step?, State.run?, h] using ih (c.record a m.state)

/-- What every step keeps, every run keeps. -/
theorem run?_keeps {P : Chronicle → Prop} (hstep : ∀ c a d, P c → c.step? a = some d → P d) (hc : P c)
    (h : c.run? actions = some d) : P d := by
  induction actions generalizing c with
  | nil => simp only [run?, Option.some.injEq] at h; exact h ▸ hc
  | cons a rest ih =>
      obtain ⟨e, he, hr⟩ := run?_cons_eq_some.mp h
      exact ih (hstep c a e hc he) hr

/-- The history grows. -/
theorem published_isPrefix (h : c.run? actions = some d) : c.published <+: d.published := by
  refine run?_keeps (P := fun e => c.published <+: e.published) (fun e a e' hp he => ?_)
    List.prefix_rfl h
  obtain ⟨m, _, rfl⟩ := step?_eq_some.mp he
  exact hp.trans (List.prefix_append ..)

end Chronicle

/-! ## Where lists and stops come from -/

section

variable {s : State} {who : Who} {f g : Frame} {a : Action} {m : Move} {rest : List Frame}

/-- A thread is about to publish a list only if the service has just returned it. -/
theorem Turn.next_publish {flags : List Flag} (h : Turn s who f a m) (hn : .publish flags ∈ m.next) :
    a = .answers who (.ok flags) := by
  cases h.follows hn with
  | lists flags => rfl

/-- What a turn adds to the history. -/
theorem Turn.listing_publishing (h : Turn s who f a m) (hp : s.pending who = f :: rest) :
    (∃ flags, a = .answers who (.ok flags) ∧ f = .fetching ∧ m.next = [.publish flags] ∧
      a.listing = [flags] ∧ s.publishing a = []) ∨
    (∃ flags, f = .publish flags ∧ a.listing = [] ∧ s.publishing a = [flags]) ∨
    ((∀ flags, a ≠ .answers who (.ok flags)) ∧ (∀ flags, f ≠ .publish flags) ∧
      a.listing = [] ∧ s.publishing a = []) := by
  cases h with
  | runs h hs => cases f <;> simp [Action.listing, State.publishing, hp]
  | answers outcome h =>
      subst h
      cases outcome <;> simp [Action.listing, State.publishing, State.answerFrames]
  | sinks e behaviour h => subst h; simp [Action.listing, State.publishing]
  | timesOut h => cases f <;> simp [Frame.timeOut?] at h <;> simp [Action.listing, State.publishing]

/-- A thread stops the poller only if it did so before or was asked to. -/
theorem Turn.next_family_stop (h : Turn s who f a m) (hn : g ∈ m.next) (hg : g.family = .stop) :
    f.family = .stop ∨ a.asksStop := by
  cases h.follows hn with
  | sinkStops e timed failing => exact .inr rfl
  | marksStop | signals | wakesLoop | letsAllIn | joins | givesUp | unwakes | stops => exact .inl rfl
  | _ => cases hg

/-- A phase becomes final only because of a thread that stops the poller. -/
theorem Effect.family_of_isFinal {t : State} (he : Effect s who f t) (hf : f.Fits s who)
    (ht : t.phase.isFinal) : s.phase.isFinal ∨ f.family = .stop := by
  rcases he.phase with h | ⟨rfl, _⟩ | ⟨_, ⟨_, rfl, _⟩ | ⟨_, h⟩ | ⟨_, _, h⟩ | h⟩
  · exact .inl (h ▸ ht)
  · exact .inr rfl
  · exact .inr rfl
  · simp [h, Phase.isFinal] at ht
  · simp [h, Phase.isFinal] at ht
  · have hp := hf.settles _ h
    split at hp <;> simp [hp, Phase.isFinal] at ht

/-- A publication is never below another frame. -/
theorem Layout.publish_not_below {flags : List Flag} (hl : Layout who (f :: rest)) :
    .publish flags ∉ rest := by
  intro hg
  rcases hl.below hg with ⟨h, _⟩ | h | ⟨_, h⟩ <;> cases h

end

/-! ## The outcomes of a read -/

namespace Frame

/-- The frames of a thread between asking the service for a list and having published it. -/
def lists : Frame → Bool
  | .fetching | .publish _ => true
  | _ => false

theorem holdsLock_of_lists {f : Frame} (h : f.lists) : f.holdsLock := by
  cases f <;> first | rfl | cases h

end Frame

section

variable {s : State} {who : Who} {f : Frame} {m : Move} {rest : List Frame} {snapshot : Snapshot}

/-- A thread that runs to the end of a read has been let in, and returns the snapshot. -/
theorem Invariant.read_of_runs (hi : Invariant s) (h : s.step? (.runs who) = some m)
    (hr : m.result = some (.read snapshot)) : s.loaded ∧ snapshot = s.snapshot := by
  rcases State.step?_cases h with ⟨_, _, ha, _⟩ | ⟨_, _, _, _, _, rfl⟩ |
    ⟨w, f, rest, μ, hp, ht, rfl⟩
  · cases ha
  · cases hr
  · cases ht.ends hr with
    | reads => exact ⟨(hi.fits who .readSnapshot (by simp [hp])).letIn rfl, rfl⟩

theorem State.readWait_of_timesOut (h : s.step? (.timesOut who) = some m)
    (hr : m.result = some (.read snapshot)) : ∃ rest, s.pending who = .readWait true :: rest := by
  rcases step?_cases h with ⟨_, _, ha, _⟩ | ⟨_, _, ha, _⟩ | ⟨w, f, rest, μ, hp, ht, rfl⟩
  · cases ha
  · cases ha
  · cases ht.ends hr with
    | expires => exact ⟨rest, hp⟩

/-- A read is refused at its start, and only by a poller that nobody has used. -/
theorem State.refusal_of_reads {e : LibraryError} (hp : s.pending who = f :: rest) (hf : f.reads)
    (h : s.step? (.runs who) = some m ∨ s.step? (.timesOut who) = some m)
    (hr : m.result = some (.refused e)) :
    (∃ timed, f = .readCheck timed) ∧ s.phase = .uninitialized ∧ s.started = false ∧
      e.code = "CONFIG_ERROR" := by
  obtain ⟨a, ha, h⟩ : ∃ a, (a = .runs who ∨ a = .timesOut who) ∧ s.step? a = some m := by
    rcases h with h | h
    · exact ⟨_, .inl rfl, h⟩
    · exact ⟨_, .inr rfl, h⟩
  rcases step?_cases h with ⟨_, _, rfl, _⟩ | ⟨_, _, _, _, _, rfl⟩ | ⟨w, g, rest', μ, hw, ht, rfl⟩
  · simp at ha
  · cases hr
  · have hw' : w = who := by
      cases ht <;> simp_all
    subst hw'
    obtain rfl : f = g := by rw [hp, List.cons.injEq] at hw; exact hw.1
    cases ht.ends hr with
    | refusesStart => cases hf
    | refusesRead timed hphase hstarted => exact ⟨⟨timed, rfl⟩, hphase, hstarted, rfl⟩

end

/-! ## What the history says about the poller -/

namespace Chronicle

/-- What holds of a poller with its history. -/
structure Sound (c : Chronicle) : Prop where
  invariant : Invariant c.state
  snapshot : c.state.snapshot = (c.published.getLast?.elim .empty Snapshot.ofFlags)
  loadedOnce : c.state.loadedOnce ↔ c.published ≠ []
  /-- Every list is published before the next one is fetched. -/
  order : (c.listed = c.published ∧ ∀ w flags, .publish flags ∉ c.state.pending w) ∨
    ∃ w flags, c.listed = c.published ++ [flags] ∧ .publish flags ∈ c.state.pending w
  asked : ∀ w, ∀ f ∈ c.state.pending w, f.family = .stop → c.stopAsked
  final : c.state.phase.isFinal → c.stopAsked

theorem sound_new (interval : Binary64) : (new interval).Sound where
  invariant := invariant_new interval
  snapshot := rfl
  loadedOnce := by simp [new, State.new]
  order := .inl ⟨rfl, fun w flags h => by cases h⟩
  asked w f hf := by cases hf
  final h := by cases h

variable {c d : Chronicle} {a : Action} {s : State} {m : Move} {who : Who} {f : Frame}
  {rest : List Frame}

/-- A step makes a stop underway only if somebody has asked for it. -/
theorem Sound.extend (hc : c.Sound) (hi : Invariant s)
    (hfinal : s.phase.isFinal → c.state.phase.isFinal ∨ c.stopAsked)
    (hstop : ∀ w, ∀ g ∈ s.pending w, g.family = .stop → c.stopAsked ∨ a.asksStop)
    (hsnapshot : s.snapshot = (c.record a s).published.getLast?.elim .empty Snapshot.ofFlags)
    (hloadedOnce : s.loadedOnce ↔ (c.record a s).published ≠ [])
    (horder : ((c.record a s).listed = (c.record a s).published ∧
        ∀ w flags, .publish flags ∉ s.pending w) ∨
      ∃ w flags, (c.record a s).listed = (c.record a s).published ++ [flags] ∧
        .publish flags ∈ s.pending w) :
    (c.record a s).Sound where
  invariant := hi
  snapshot := hsnapshot
  loadedOnce := hloadedOnce
  order := horder
  asked w g hg hs := by simpa [record] using hstop w g hg hs
  final hf := by
    have := (hfinal hf).elim hc.final id
    simp [record, this]

/-- What a step keeps that neither brings nor publishes a list. -/
theorem Sound.quiet (hc : c.Sound) (hi : Invariant s)
    (hfinal : s.phase.isFinal → c.state.phase.isFinal ∨ c.stopAsked)
    (hstop : ∀ w, ∀ g ∈ s.pending w, g.family = .stop → c.stopAsked ∨ a.asksStop)
    (hlisting : a.listing = []) (hpublishing : c.state.publishing a = [])
    (hsnapshot : s.snapshot = c.state.snapshot) (hloadedOnce : s.loadedOnce = c.state.loadedOnce)
    (hpublish : ∀ w flags, .publish flags ∈ s.pending w ↔ .publish flags ∈ c.state.pending w) :
    (c.record a s).Sound := by
  refine hc.extend hi hfinal hstop ?_ ?_ ?_
  · simpa [record, hpublishing, hsnapshot] using hc.snapshot
  · simpa [record, hpublishing, hloadedOnce] using hc.loadedOnce
  · simpa [record, hlisting, hpublishing, hpublish] using hc.order

theorem Sound.begin (hc : c.Sound) {n : Nat} {op : Operation} (hp : c.state.pending (.caller n) = []) :
    (c.record (.begins n op) (c.state.setPending (.caller n) op.frames)).Sound := by
  refine hc.quiet (hc.invariant.begin hp op) .inl ?_ rfl rfl rfl rfl ?_
  · intro w g hg hs
    rcases State.mem_setPending.mp hg with ⟨_, hg⟩ | ⟨_, hg⟩
    · right
      cases op <;> simp only [Operation.frames, List.mem_cons, List.not_mem_nil, or_false] at hg <;>
        rcases hg with rfl | rfl <;> simp_all [Frame.family, Action.asksStop]
    · exact .inl (hc.asked w g hg hs)
  · intro w flags
    by_cases hw : w = .caller n
    · subst hw; cases op <;> simp [hp, Operation.frames]
    · rw [State.setPending_of_ne hw]

theorem Sound.launch (hc : c.Sound) (hp : c.state.pending who = .start :: rest)
    (hs : c.state.canStart) :
    (c.record (.runs who) (c.state.launched.setPending who rest)).Sound := by
  obtain ⟨_, hrest⟩ := (hp ▸ hc.invariant.layout who : Layout who (.start :: rest)).call_alone rfl
  have hpublishing : c.state.publishing (.runs who) = [] := by simp [State.publishing, hp]
  refine hc.quiet (hc.invariant.launch hs hp) .inl ?_ rfl hpublishing rfl rfl ?_
  · intro w g hg hgs
    rcases (hc.invariant.mem_pending_launched hs hp).mp hg with ⟨_, rfl⟩ | ⟨_, hg⟩
    · cases hgs
    · exact .inl (hc.asked w g hg hgs)
  · intro w flags
    rw [hc.invariant.mem_pending_launched hs hp]
    constructor
    · rintro (⟨_, h⟩ | ⟨_, h⟩)
      · cases h
      · exact h
    · intro h
      refine .inr ⟨?_, h⟩
      rintro rfl
      simp [hp, hrest] at h

/-- A thread that has the lock on refreshes is the only one that can be about to publish a list. -/
theorem Sound.not_publishing (hc : c.Sound) (hp : c.state.pending who = f :: rest) (hf : f.holdsLock)
    (hnp : ∀ flags, f ≠ .publish flags) (w : Who) (flags : List Flag) :
    .publish flags ∉ c.state.pending w := by
  intro hg
  obtain rfl : who = w := hc.invariant.refresher_unique (f := f) (by simp [hp]) hg hf rfl
  rw [hp, List.mem_cons] at hg
  rcases hg with hg | hg
  · exact hnp flags hg.symm
  · exact (hp ▸ hc.invariant.layout who : Layout who (f :: rest)).publish_not_below hg

theorem Sound.turn (hc : c.Sound) (hp : c.state.pending who = f :: rest)
    (h : Turn c.state who f a m) : (c.record a (State.apply who rest m).state).Sound := by
  have he := h.effect
  have hi := hc.invariant.turn hp h
  have hf : f ∈ c.state.pending who := by simp [hp]
  have hl : Layout who (f :: rest) := hp ▸ hc.invariant.layout who
  have hfinal : m.state.phase.isFinal → c.state.phase.isFinal ∨ c.stopAsked := by
    intro ht
    exact (he.family_of_isFinal (hc.invariant.fits who f hf) ht).imp_right (hc.asked who f hf)
  have hstop : ∀ w, ∀ g ∈ (State.apply who rest m).state.pending w, g.family = .stop →
      c.stopAsked ∨ a.asksStop := by
    intro w g hg hgs
    rcases h.mem_pending hp hg with ⟨rfl, hn⟩ | hg
    · exact (h.next_family_stop hn hgs).imp_left (hc.asked w f hf)
    · exact .inl (hc.asked w g hg hgs)
  rcases h.listing_publishing hp with ⟨flags, _, rfl, hn, hlisting, hpublishing⟩ |
    ⟨flags, rfl, hlisting, hpublishing⟩ | ⟨ha, hnp, hlisting, hpublishing⟩
  · -- a list arrives, and none that arrived before has still to be published
    have hnone := hc.not_publishing hp rfl (by simp)
    obtain ⟨hs, hlo⟩ := he.unpublished (by simp)
    have horder : c.listed = c.published := by
      rcases hc.order with ⟨h, _⟩ | ⟨w, flags', _, hw⟩
      · exact h
      · exact absurd hw (hnone w flags')
    refine hc.extend hi hfinal hstop ?_ ?_ (.inr ⟨who, flags, ?_, ?_⟩)
    · simpa [record, hpublishing, State.apply, hs] using hc.snapshot
    · simpa [record, hpublishing, State.apply, hlo] using hc.loadedOnce
    · simp [record, hlisting, hpublishing, horder]
    · exact mem_pending_apply.mpr (.inl ⟨rfl, .inl (by simp [hn])⟩)
  · -- the one list that has arrived and has not been published is published
    have hpub : m.state.snapshot = .ofFlags flags := he.publishes flags rfl
    have hlo : m.state.loadedOnce = true := he.loadedOnce.mpr (.inr ⟨flags, rfl⟩)
    have honly {w : Who} {flags' : List Flag} (hw : .publish flags' ∈ c.state.pending w) :
        w = who ∧ flags' = flags := by
      obtain rfl : who = w := hc.invariant.refresher_unique hf hw rfl rfl
      rw [hp, List.mem_cons] at hw
      rcases hw with hw | hw
      · cases hw; exact ⟨rfl, rfl⟩
      · exact absurd hw hl.publish_not_below
    have horder : c.listed = c.published ++ [flags] := by
      rcases hc.order with ⟨_, hnone⟩ | ⟨w, flags', h, hw⟩
      · exact absurd hf (hnone who flags)
      · rw [h, (honly hw).2]
    refine hc.extend hi hfinal hstop ?_ ?_ (.inl ⟨?_, ?_⟩)
    · simp [record, hpublishing, State.apply, hpub]
    · simp [record, hpublishing, State.apply, hlo]
    · simp [record, hlisting, hpublishing, horder]
    · intro w flags' hg
      rcases mem_pending_apply.mp hg with ⟨rfl, hn | hr⟩ | ⟨hw, hg⟩
      · have := h.next_publish hn
        subst this
        simp [Action.listing] at hlisting
      · exact hl.publish_not_below hr
      · exact hw (honly (he.pending ▸ hg)).1
  · obtain ⟨hs, hlo⟩ := he.unpublished hnp
    refine hc.quiet hi hfinal hstop hlisting hpublishing hs hlo ?_
    intro w flags
    rw [mem_pending_apply, he.pending]
    by_cases hw : w = who
    · subst hw
      have hn : .publish flags ∉ m.next := fun hn => ha flags (h.next_publish hn)
      simp [hp, hn, (hnp flags).symm]
    · simp [hw]

/-- **Every step of a chronicle is sound.** -/
theorem Sound.step (hc : c.Sound) (h : c.step? a = some d) : d.Sound := by
  obtain ⟨m, hm, rfl⟩ := step?_eq_some.mp h
  rcases State.step?_cases hm with ⟨n, op, rfl, hp, rfl⟩ | ⟨who, rest, rfl, hp, hs, rfl⟩ |
    ⟨who, f, rest, μ, hp, ht, rfl⟩
  · exact hc.begin hp
  · exact hc.launch hp hs
  · exact hc.turn hp ht

/-! ## Reads -/

/-- **Reads are linearizable.**  Each read takes effect when it returns, between the publications
before and after that moment. -/
structure Linearizable (c : Chronicle) : Prop where
  /-- At most one thread is between asking for a list and having published it. -/
  exclusive : ∀ v w f g, f ∈ c.state.pending v → g ∈ c.state.pending w → f.lists → g.lists → v = w
  /-- Lists are published in the order in which they were fetched; only the last one may still have to
  be. -/
  ordered : c.listed = c.published ∨ ∃ w flags, c.listed = c.published ++ [flags] ∧
    .publish flags ∈ c.state.pending w
  /-- No later reader sees an older list. -/
  grows : ∀ actions d, c.run? actions = some d → c.published <+: d.published
  /-- A read that got in returns the list that was published last. -/
  reads : ∀ who m snapshot, c.state.step? (.runs who) = some m → m.result = some (.read snapshot) →
    (∃ flags, c.published.getLast? = some flags ∧ snapshot = .ofFlags flags) ∨
    (c.published = [] ∧ snapshot = .empty ∧ c.stopAsked)
  /-- Any other read was timed. -/
  expires : ∀ who m snapshot, c.state.step? (.timesOut who) = some m →
    m.result = some (.read snapshot) → ∃ rest, c.state.pending who = .readWait true :: rest
  /-- A read is refused only by a poller that nobody has used. -/
  refuses : ∀ who f rest m e, c.state.pending who = f :: rest → f.reads →
    (c.state.step? (.runs who) = some m ∨ c.state.step? (.timesOut who) = some m) →
    m.result = some (.refused e) → (∃ timed, f = .readCheck timed) ∧
      c.state.phase = .uninitialized ∧ c.state.started = false ∧ e.code = "CONFIG_ERROR"

/-- **Every run of a poller is linearizable.** -/
theorem reads_are_linearizable {interval : Binary64} {actions : List Action}
    (h : (new interval).run? actions = some c) : c.Linearizable := by
  have hc : c.Sound := run?_keeps (fun _ _ _ hc h => Sound.step hc h) (sound_new interval) h
  refine ⟨?_, ?_, ?_, ?_, ?_, ?_⟩
  · intro v w f g hf hg hfl hgl
    exact hc.invariant.refresher_unique hf hg (Frame.holdsLock_of_lists hfl)
      (Frame.holdsLock_of_lists hgl)
  · exact hc.order.imp_left And.left
  · intro actions d hd
    exact published_isPrefix hd
  · intro who m snapshot hm hr
    obtain ⟨hl, rfl⟩ := hc.invariant.read_of_runs hm hr
    rw [hc.snapshot]
    cases hlast : c.published.getLast? with
    | some flags => exact .inl ⟨flags, rfl, rfl⟩
    | none =>
        have hnil : c.published = [] := List.getLast?_eq_none_iff.mp hlast
        refine .inr ⟨hnil, rfl, hc.final (hc.invariant.stopping ?_)⟩
        exact (hc.invariant.gate hl).resolve_left fun h => hc.loadedOnce.mp h hnil
  · intro who m snapshot hm hr
    exact State.readWait_of_timesOut hm hr
  · intro who f rest m e hp hf hm hr
    exact State.refusal_of_reads hp hf hm hr

/-- A refresh publishes a list, and then a reader is let in. -/
def refreshThenRead : List Action :=
  calls 0 .refresh 4 ++ .answers (.caller 0) (.ok [beta]) :: List.replicate 5 (.runs (.caller 0)) ++
    calls 1 (.read false) 2

/-- One of these runs: the reader returns with the list that was published. -/
theorem refresh_then_read_is_linearizable :
    ∃ c m, (new (.ofInt 30)).run? refreshThenRead = some c ∧ c.Linearizable ∧
      (c.published, c.state.pending (.caller 1)) = ([[beta]], [.readSnapshot]) ∧
      c.state.step? (.runs (.caller 1)) = some m ∧ m.result = some (.read (.ofFlags [beta])) := by
  obtain ⟨c, hrun, hc⟩ := Option.map_eq_some_iff.mp (show
    ((new (.ofInt 30)).run? refreshThenRead).map
      (fun c => (c.published, c.state.pending (.caller 1))) = some ([[beta]], [.readSnapshot]) from rfl)
  obtain ⟨hpublished, hp⟩ := Prod.mk.inj hc
  have hm : c.state.step? (.runs (.caller 1)) = some _ := State.step?_runs hp
  have hl := reads_are_linearizable hrun
  refine ⟨c, _, hrun, hl, hc, hm, ?_⟩
  rcases hl.reads (.caller 1) _ c.state.snapshot hm rfl with ⟨flags, hlast, hsnapshot⟩ | ⟨hnone, _⟩
  · obtain rfl : [beta] = flags := by simpa [hpublished] using hlast
    exact congrArg (some ∘ Result.read) hsnapshot
  · simp [hpublished] at hnone

end Chronicle

end Poller

end FeatureFlags
