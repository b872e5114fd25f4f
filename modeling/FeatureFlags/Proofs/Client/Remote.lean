import FeatureFlags.Proofs.Client.Fallback
import FeatureFlags.Proofs.Evaluation.Inconclusive
import FeatureFlags.Proofs.Poller.Lifecycle

/-!
# `Proofs.Client.Remote` — when the service is asked, and what its answer becomes

A call for a flag reads the snapshot and decides the flag by its rules.  It asks the service only where
the rules leave the decision open: the flag is decided for a group that the caller does not name, or it
has no rules (`NeedsService`).

`service_is_asked_exactly_when_needed` puts a recorder in front of any service.  A call that needs the
service asks it once, for the caller's subject and groups, and turns its answer into a value; every other
call leaves the service alone.  The reading changes nothing in the poller.
-/

namespace FeatureFlags

/-! ## A service with a recorder -/

/-- What a service can be asked to do. -/
inductive ServiceCall where
  | fetch
  | decide (subject : String) (groups : Groups)
  | close
  deriving DecidableEq

/-- A service in front of which every call is recorded, the first one first. -/
def Service.recorded {σ : Type} (service : Service σ) : Service (σ × List ServiceCall) where
  fetch s :=
    let (flags, t) := service.fetch s.1
    (flags, t, s.2 ++ [.fetch])
  decide s subject groups :=
    let (answer, t) := service.decide s.1 subject groups
    (answer, t, s.2 ++ [.decide subject groups])
  close s := (service.close s.1, s.2 ++ [.close])

/-! ## What an answer becomes -/

/-- The reply that an answer of the service becomes: the default if the service fails with an error of
the library; off if the answer does not mention the flag, or calls it off; and otherwise what the answer
says. -/
structure Reply.Reflects (r : Reply) (q : Query) (answer : Except Failure Answers) : Prop where
  failed : ∀ e, answer = .error (.library e) → r.value = .ok q.default
  off : ∀ answers, answer = .ok answers →
    (answers.lookup q.key = none ∨ answers.lookup q.key = some (.bool false) ∨
      answers.lookup q.key = some (.str "false")) → r.value = .ok (.bool false)
  on : ∀ answers v, answer = .ok answers → answers.lookup q.key = some v → v ≠ .bool false →
    v ≠ .str "false" → r.value = .ok v

namespace Client

variable {digest : Digest} {groupTypes : List (String × String)} {snapshot : Snapshot} {q : Query}
  {flag : Flag}

theorem countsAsOn_eq_false {v : Json} : countsAsOn v = false ↔ v = .bool false ∨ v = .str "false" := by
  cases v <;> simp [countsAsOn]

theorem replyOfAnswer_reflects {answer : Except Failure Answers} :
    (replyOfAnswer q answer).Reflects q answer where
  failed := by
    rintro e rfl
    rfl
  off := by
    rintro answers rfl h
    rcases h with h | h | h <;> simp [replyOfAnswer, h, countsAsOn]
  on := by
    rintro answers v rfl h hb hs
    have hon : ¬ countsAsOn v = false := fun hoff => (countsAsOn_eq_false.mp hoff).elim hb hs
    simp [replyOfAnswer, h, hon]

/-! ## Which queries need the service -/

/-- **When a query needs the service.**  The flag is decided for groups of a type that is not known, or
of which the caller names none; or it is known whom it is decided for, and it has no rules. -/
inductive NeedsService (groupTypes : List (String × String)) (flag : Flag) (q : Query) : Prop where
  | groupType {index : Int} (hi : flag.filters.groupTypeIndex = some index)
      (hw : Numeral.isWritable index) (ht : groupTypes.lookup (toString index) = none)
  | group {index : Int} {groupType : String} (hi : flag.filters.groupTypeIndex = some index)
      (hw : Numeral.isWritable index) (ht : groupTypes.lookup (toString index) = some groupType)
      (hg : q.groups.lookup groupType = none)
  | rules (hi : ∀ index, flag.filters.groupTypeIndex = some index → Numeral.isWritable index)
      (hd : (decidedFor? groupTypes flag q).isSome) (hr : flag.groups = []) (hs : flag.isSimple = false)

/-- Nobody is known to decide a flag for if its group type is not, or the caller's group of that type. -/
theorem decidedFor?_eq_none {index : Int} (hi : flag.filters.groupTypeIndex = some index) :
    decidedFor? groupTypes flag q = none ↔ groupTypes.lookup (toString index) = none ∨
      ∃ groupType, groupTypes.lookup (toString index) = some groupType ∧
        q.groups.lookup groupType = none := by
  simp only [decidedFor?, hi, Option.bind_eq_bind]
  cases groupTypes.lookup (toString index) with
  | none => simp
  | some groupType => cases hg : q.groups.lookup groupType <;> simp [-List.lookup_eq_none_iff, hg]

theorem needsService_of_known {subject : String} {properties : Properties}
    (hi : ∀ index, flag.filters.groupTypeIndex = some index → Numeral.isWritable index)
    (hd : decidedFor? groupTypes flag q = some (subject, properties)) :
    NeedsService groupTypes flag q ↔ flag.groups = [] ∧ flag.isSimple = false := by
  constructor
  · rintro (⟨hf, _, ht⟩ | ⟨hf, _, ht, hg⟩ | ⟨_, _, hr, hs⟩)
    · cases hd.symm.trans ((decidedFor?_eq_none hf).mpr (.inl ht))
    · cases hd.symm.trans ((decidedFor?_eq_none hf).mpr (.inr ⟨_, ht, hg⟩))
    · exact ⟨hr, hs⟩
  · rintro ⟨hr, hs⟩
    exact .rules hi (by rw [hd]; rfl) hr hs

/-- The service is needed if nobody is known to decide the flag for, and the rules say so. -/
theorem needsService_of_unknown (digest : Digest)
    (hi : ∀ index, flag.filters.groupTypeIndex = some index → Numeral.isWritable index)
    (hd : decidedFor? groupTypes flag q = none) : NeedsService groupTypes flag q ∧
      ¬ Conclusive (decideByRules digest groupTypes flag q) := by
  -- only a flag with a group type can lack somebody to be decided for
  cases hf : flag.filters.groupTypeIndex with
  | none => simp [decidedFor?, hf] at hd
  | some index =>
      have hw := hi index hf
      rcases (decidedFor?_eq_none hf).mp hd with ht | ⟨groupType, ht, hg⟩
      · refine ⟨.groupType hf hw ht, ?_⟩
        simp only [decideByRules, hf, hw, ht, if_true, conclusive_error]
        simp [EvaluationError.isInconclusive]
      · refine ⟨.group hf hw ht hg, ?_⟩
        simp only [decideByRules, hf, hw, ht, hg, if_true, conclusive_error]
        simp [EvaluationError.isInconclusive]

/-- The rules leave the decision open where the service is needed, and nowhere else. -/
theorem decideByRules_conclusive_iff (digest : Digest) :
    Conclusive (decideByRules digest groupTypes flag q) ↔ ¬ NeedsService groupTypes flag q := by
  by_cases hi : ∀ index, flag.filters.groupTypeIndex = some index → Numeral.isWritable index
  · cases hd : decidedFor? groupTypes flag q with
    | none =>
        obtain ⟨hn, hc⟩ := needsService_of_unknown digest hi hd
        exact iff_of_false hc (not_not_intro hn)
    | some decided =>
        obtain ⟨subject, properties⟩ := decided
        rw [decideByRules_of_known hi hd, Flag.evaluate_conclusive_iff, needsService_of_known hi hd]
        cases flag.isSimple <;> simp
  · obtain ⟨index, h⟩ := Classical.not_forall.mp hi
    obtain ⟨hf, hw⟩ := Classical.not_imp.mp h
    refine iff_of_true ?_ ?_
    · simp [decideByRules, hf, hw, EvaluationError.isInconclusive]
    · rintro (⟨hf', hw', _⟩ | ⟨hf', hw', _, _⟩ | ⟨hi', _, _, _⟩)
      · exact hw (Option.some.inj (hf.symm.trans hf') ▸ hw')
      · exact hw (Option.some.inj (hf.symm.trans hf') ▸ hw')
      · exact hi hi'

theorem verdictOfError_eq_undecided {e : EvaluationError} :
    verdictOfError q e = .undecided ↔ e.isInconclusive := by
  rw [EvaluationError.isInconclusive_iff, verdictOfError]
  cases e.report with
  | library err => by_cases h : err.kind.isA .inconclusive <;> simp [h]
  | foreign err => simp

/-- **The service has to be asked about the flags of the snapshot that need it, and no others.** -/
theorem verdict_eq_undecided_iff : verdict digest groupTypes snapshot q = .undecided ↔
    ∃ flag, snapshot.get? q.key = some flag ∧ NeedsService groupTypes flag q := by
  unfold verdict
  cases hg : snapshot.get? q.key with
  | none => simp
  | some flag =>
      simp only [Option.some.injEq, exists_eq_left']
      rw [← Classical.not_not (a := NeedsService groupTypes flag q), ← decideByRules_conclusive_iff digest]
      cases decideByRules digest groupTypes flag q with
      | ok v => simp
      | error e => simp [verdictOfError_eq_undecided]

end Client

/-! ## Reading the snapshot -/

namespace Poller

namespace State

variable {s : State} {n : Nat} {f : Frame} {rest : List Frame} {m : Move}

/-- A step of a read that has `rest` below it: the reader goes on reading or is done, and nothing else
changes. -/
def ReadsOn (s : State) (n : Nat) (rest : List Frame) (t : State) : Prop :=
  ∃ frames, (∀ f ∈ frames, f.reads) ∧ t = s.setPending (.caller n) (frames ++ rest)

theorem readsOn_of_reads (hp : s.pending (.caller n) = f :: rest) (hf : f.reads)
    (hs : s.step? (.runs (.caller n)) = some m) : s.ReadsOn n rest m.state := by
  rcases step?_cases hs with ⟨_, _, h, _⟩ | ⟨who, rest', ⟨⟩, hp', _⟩ | ⟨who, g, rest', μ, hp', ht, rfl⟩
  · cases h
  · cases hp.symm.trans hp'
    cases hf
  · obtain rfl : who = .caller n := by cases ht; rfl
    cases hp.symm.trans hp'
    have hq : f.quiet := by cases f <;> first | rfl | cases hf
    refine ⟨μ.next, fun g hg => ?_, by rw [apply, ht.eq_of_quiet hq]⟩
    cases ht.follows hg <;> first | rfl | cases hf

@[simp] theorem setPending_loaded {who : Who} {frames : List Frame} :
    (s.setPending who frames).loaded = s.loaded := rfl

theorem setPending_setPending {who : Who} {frames more : List Frame} :
    (s.setPending who frames).setPending who more = s.setPending who more := by
  simp only [setPending, State.mk.injEq, true_and]
  funext w
  by_cases hw : w = who <;> simp [hw]

theorem setPending_eq_self {who : Who} {frames : List Frame} (h : s.pending who = frames) :
    s.setPending who frames = s := by
  subst h
  simp only [setPending]
  congr
  funext w
  by_cases hw : w = who <;> simp [hw]

/-- Nobody is let in to a poller that has not been used. -/
theorem phase_ne_of_loaded {interval : Binary64} (h : Reachable interval s) (hl : s.loaded) :
    s.phase ≠ .uninitialized := by
  obtain ⟨hi, hp⟩ := reachable_phased h
  intro hu
  have hfinal : s.phase.isFinal = false := by rw [hu]; rfl
  rcases hi.gate hl with ho | hs
  · rcases hp.rest with h | h | h
    · cases hu.symm.trans h
    · cases hfinal.symm.trans h
    · simp [hu, restPhase, ho] at h
  · cases hfinal.symm.trans (hi.stopping hs)

/-- A read of a poller that lets readers in ends with the snapshot, and leaves the poller as it was. -/
theorem exists_read (hu : s.phase ≠ .uninitialized) (hl : s.loaded) (hp : s.pending (.caller n) = []) :
    ∃ t m, s.run? [.begins n (.read false), .runs (.caller n), .runs (.caller n)] = some t ∧
      t.step? (.runs (.caller n)) = some m ∧ m.result = some (.read s.snapshot) ∧ m.state = s := by
  have begun : s.step? (.begins n (.read false)) =
      some { state := s.setPending (.caller n) [.readCheck false] } := by simp [step?, hp, Operation.frames]
  have checked : (s.setPending (.caller n) [.readCheck false]).step? (.runs (.caller n)) =
      some { state := s.setPending (.caller n) [.readWait false], next := [.readWait false] } := by
    rw [step?_runs setPending_self]
    simp [Frame.move?, hu, apply, setPending_setPending]
  have waited : (s.setPending (.caller n) [.readWait false]).step? (.runs (.caller n)) =
      some { state := s.setPending (.caller n) [.readSnapshot], next := [.readSnapshot] } := by
    rw [step?_runs setPending_self]
    simp [Frame.move?, hl, apply, setPending_setPending]
  refine ⟨s.setPending (.caller n) [.readSnapshot], _, ?_, step?_runs setPending_self, rfl, ?_⟩
  · simp only [run?, begun, checked, waited, Option.bind_some]
  · exact setPending_setPending.trans (setPending_eq_self hp)

end State

end Poller

namespace Client

/-! ## The theorem, and a flag that the service calls off -/

variable {σ : Type} {service : Service σ} {s : σ} {calls : List ServiceCall}

theorem getFlag_of_needed (h : ∃ flag, snapshot.get? q.key = some flag ∧ NeedsService groupTypes flag q) :
    getFlag service.recorded digest groupTypes (.ok snapshot) q (s, calls) =
      (replyOfAnswer q (service.decide s q.subject q.groups).1,
        (service.decide s q.subject q.groups).2, calls ++ [.decide q.subject q.groups]) := by
  simp only [getFlag, verdict_eq_undecided_iff.mpr h, Service.recorded]

theorem getFlag_of_not_needed
    (h : ¬ ∃ flag, snapshot.get? q.key = some flag ∧ NeedsService groupTypes flag q) :
    (getFlag service.recorded digest groupTypes (.ok snapshot) q (s, calls)).2 = (s, calls) := by
  cases hv : verdict digest groupTypes snapshot q with
  | undecided => exact absurd (verdict_eq_undecided_iff.mp hv) h
  | reply r => simp only [getFlag, hv]

/-- **When the service is asked, and what its answer becomes.**  Whatever the snapshot that a call for a
flag has read: if the query needs the service, then the service is asked once, for the caller's subject
and groups, and the reply reflects its answer; if not, it is not called at all.

A poller that lets readers in gives its snapshot, and is left as it was; and whatever others do
meanwhile, no step of a reader changes more than what the reader has still to do. -/
theorem service_is_asked_exactly_when_needed {σ : Type} (service : Service σ) (digest : Digest)
    (groupTypes : List (String × String)) (q : Query) :
    (∀ snapshot s calls,
      let needed := ∃ flag, snapshot.get? q.key = some flag ∧ NeedsService groupTypes flag q
      let r := getFlag service.recorded digest groupTypes (.ok snapshot) q (s, calls)
      let answer := service.decide s q.subject q.groups
      (needed → r.2 = (answer.2, calls ++ [.decide q.subject q.groups]) ∧ r.1.Reflects q answer.1) ∧
      (¬ needed → r.2 = (s, calls))) ∧
    (∀ interval (p : Poller.State) n, p.Reachable interval → p.loaded → p.pending (.caller n) = [] →
      ∃ t m, p.run? [.begins n (.read false), .runs (.caller n), .runs (.caller n)] = some t ∧
        t.step? (.runs (.caller n)) = some m ∧ m.result = some (.read p.snapshot) ∧ m.state = p) ∧
    ∀ (p : Poller.State) n f rest m, p.pending (.caller n) = f :: rest → f.reads →
      p.step? (.runs (.caller n)) = some m → p.ReadsOn n rest m.state := by
  refine ⟨?_, ?_, ?_⟩
  · intro snapshot s calls needed r answer
    refine ⟨fun h => ?_, getFlag_of_not_needed⟩
    have hr : r = _ := getFlag_of_needed h
    rw [hr]
    exact ⟨rfl, replyOfAnswer_reflects⟩
  · intro interval p n hreach hl hp
    exact Poller.State.exists_read (Poller.State.phase_ne_of_loaded hreach hl) hl hp
  · intro p n f rest m hp hf hs
    exact Poller.State.readsOn_of_reads hp hf hs

/-- A flag that is decided for organisations. -/
def perOrganisation : Flag where
  key := "seats"
  filters := { groups := [{}], groupTypeIndex := some 0 }

/-- The query for that flag, by a member of a team. -/
def ofMember : Query where
  key := "seats"
  subject := "u"
  default := .str "fallback"
  groups := [("team", "red")]

/-- A caller refreshes the poller, and that flag is listed. -/
def refreshed : List Poller.Action :=
  Poller.calls 0 .refresh 4 ++ .answers (.caller 0) (.ok [perOrganisation]) ::
    List.replicate 5 (.runs (.caller 0))

/-- A caller has refreshed the poller, and asks for a flag of a group that it does not name: the service
is asked for the caller, and what it calls off is off. -/
theorem unnamed_organisation_is_asked_for :
    ∃ p t m, (Poller.State.new (.ofInt 30)).run? refreshed = some p ∧
      p.run? [.begins 0 (.read false), .runs (.caller 0), .runs (.caller 0)] = some t ∧
      t.step? (.runs (.caller 0)) = some m ∧ m.result = some (.read p.snapshot) ∧ m.state = p ∧
      let r := getFlag (Memory.service).recorded (fun _ => "") [("0", "organisation")]
        (.ok p.snapshot) ofMember ({ decisions := [("u", [("seats", .str "false")])] }, [])
      r.1.value = .ok (.bool false) ∧ r.2.2 = [.decide "u" [("team", "red")]] := by
  obtain ⟨hask, hread, -⟩ := service_is_asked_exactly_when_needed Memory.service (fun _ => "")
    [("0", "organisation")] ofMember
  have hrun : ((Poller.State.new (.ofInt 30)).run? refreshed).isSome := rfl
  have hp := (Option.some_get hrun).symm
  obtain ⟨t, m, ht, hm, hres, hsame⟩ := hread (.ofInt 30) _ 0 ⟨_, hp⟩ rfl rfl
  obtain ⟨hneeded, -⟩ := hask (((Poller.State.new (.ofInt 30)).run? refreshed).get hrun).snapshot
    { decisions := [("u", [("seats", .str "false")])] } []
  have hneeds : NeedsService [("0", "organisation")] perOrganisation ofMember :=
    @NeedsService.group _ _ _ 0 _ rfl (by decide +kernel) rfl rfl
  obtain ⟨hcalls, hreply⟩ := hneeded ⟨perOrganisation, rfl, hneeds⟩
  refine ⟨_, t, m, hp, ht, hm, hres, hsame, hreply.off _ rfl (.inr (.inr rfl)), ?_⟩
  exact congrArg Prod.snd hcalls

end Client

end FeatureFlags
