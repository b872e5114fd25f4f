import FeatureFlags.Proofs.Client.Remote

/-!
# `Proofs.Client.Subject` — a flag is decided for its subject, and by nothing else

A flag of a group type is decided for the caller's group of that type, every other flag for the caller.
Two calls that have the same subject in this sense may differ in everything else: they get the same reply,
and neither asks the service (`same_subject_gets_same_reply`).  So the members of a group are never told
apart by a flag of the group, and a flag of persons takes no notice of their groups.

What carries this is that the rules see a query through `decidedFor?` alone (`decideByRules_congr`): the
rollout, the choice of a variant and every condition are handed the same subject and properties.
-/

namespace FeatureFlags

namespace Client

/-- **When two queries have the same subject.**  The flag is decided for groups of a known type, both
callers name the same group of that type, and they say the same of its properties; or the flag is decided
for persons, and the callers are the same person with the same properties. -/
inductive SameSubject (groupTypes : List (String × String)) (flag : Flag) (q q' : Query) : Prop where
  | group {index : Int} {groupType group : String} (hi : flag.filters.groupTypeIndex = some index)
      (ht : groupTypes.lookup (toString index) = some groupType)
      (hg : q.groups.lookup groupType = some group) (hg' : q'.groups.lookup groupType = some group)
      (hp : q'.groupProperties.lookup groupType = q.groupProperties.lookup groupType)
  | person (hi : flag.filters.groupTypeIndex = none) (hs : q'.subject = q.subject)
      (hp : q'.properties = q.properties)

section

variable {digest : Digest} {groupTypes : List (String × String)} {snapshot : Snapshot} {flag : Flag}
  {q q' : Query}

/-! ## What the rules see of a query -/

theorem decidedFor?_of_group {index : Int} {groupType group : String}
    (hi : flag.filters.groupTypeIndex = some index)
    (ht : groupTypes.lookup (toString index) = some groupType) (hg : q.groups.lookup groupType = some group) :
    decidedFor? groupTypes flag q = some (group, (q.groupProperties.lookup groupType).getD []) := by
  simp only [decidedFor?, hi, Option.bind_eq_bind, ht, Option.bind_some, hg]
  rfl

theorem decidedFor?_of_person (hi : flag.filters.groupTypeIndex = none) :
    decidedFor? groupTypes flag q = some (q.subject, q.properties) := by
  simp only [decidedFor?, hi]

/-- Where nobody is known to decide a flag for, the rules say so. -/
theorem decideByRules_of_nobody {index : Int} (hi : flag.filters.groupTypeIndex = some index)
    (hw : Numeral.isWritable index) (hd : decidedFor? groupTypes flag q = none) :
    decideByRules digest groupTypes flag q = .error (.unknownGroup flag.key index) := by
  unfold decideByRules
  rcases (decidedFor?_eq_none hi).mp hd with ht | ⟨groupType, ht, hg⟩
  · simp only [hi, hw, if_true, ht]
  · simp only [hi, hw, if_true, ht, hg]

/-- **The rules see nothing of a query but whom the flag is decided for.** -/
theorem decideByRules_congr (h : decidedFor? groupTypes flag q' = decidedFor? groupTypes flag q) :
    decideByRules digest groupTypes flag q' = decideByRules digest groupTypes flag q := by
  by_cases hw : ∀ index, flag.filters.groupTypeIndex = some index → Numeral.isWritable index
  · cases hd : decidedFor? groupTypes flag q with
    | some decided =>
        rw [decideByRules_of_known hw hd, decideByRules_of_known hw (h.trans hd)]
    | none =>
        cases hi : flag.filters.groupTypeIndex with
        | none => cases (decidedFor?_of_person hi).symm.trans hd
        | some index =>
            rw [decideByRules_of_nobody hi (hw index hi) hd,
              decideByRules_of_nobody hi (hw index hi) (h.trans hd)]
  · -- an index that cannot be looked up fails before the caller's groups are looked at
    obtain ⟨index, hw⟩ := Classical.not_forall.mp hw
    obtain ⟨hi, hw⟩ := Classical.not_imp.mp hw
    simp only [decideByRules, hi, if_neg hw]

/-- What a snapshot says depends on the key, the default and whom the flag is decided for. -/
theorem verdict_congr (hkey : q'.key = q.key) (hdefault : q'.default = q.default)
    (hflag : snapshot.get? q.key = some flag)
    (h : decidedFor? groupTypes flag q' = decidedFor? groupTypes flag q) :
    verdict digest groupTypes snapshot q' = verdict digest groupTypes snapshot q := by
  simp only [verdict, hkey, hflag, decideByRules_congr h, verdictOfError, Query.fallback,
    Query.undecidedEntry, Query.entry, hdefault]

/-! ## Queries with the same subject -/

/-- Queries with the same subject are decided for somebody, and for the same one. -/
theorem SameSubject.exists_decidedFor? (h : SameSubject groupTypes flag q q') : ∃ decided,
    decidedFor? groupTypes flag q = some decided ∧ decidedFor? groupTypes flag q' = some decided := by
  cases h with
  | group hi ht hg hg' hp => exact ⟨_, decidedFor?_of_group hi ht hg, hp ▸ decidedFor?_of_group hi ht hg'⟩
  | person hi hs hp => exact ⟨_, decidedFor?_of_person hi, hs ▸ hp ▸ decidedFor?_of_person hi⟩

/-- The service is not needed for a flag with rules, once it is known whom the flag is decided for. -/
theorem not_needsService {decided : String × Properties}
    (hd : decidedFor? groupTypes flag q = some decided) (hrules : flag.groups ≠ [] ∨ flag.isSimple) :
    ¬ NeedsService groupTypes flag q := by
  rintro (⟨hi, _, ht⟩ | ⟨hi, _, ht, hg⟩ | ⟨_, _, hr, hs⟩)
  · cases hd.symm.trans ((decidedFor?_eq_none hi).mpr (.inl ht))
  · cases hd.symm.trans ((decidedFor?_eq_none hi).mpr (.inr ⟨_, ht, hg⟩))
  · simp [hr, hs] at hrules

/-- A flag with rules is replied to from the snapshot, once it is known whom it is decided for. -/
theorem exists_reply {decided : String × Properties} (hflag : snapshot.get? q.key = some flag)
    (hd : decidedFor? groupTypes flag q = some decided) (hrules : flag.groups ≠ [] ∨ flag.isSimple) :
    ∃ r, verdict digest groupTypes snapshot q = .reply r := by
  cases hv : verdict digest groupTypes snapshot q with
  | reply r => exact ⟨r, rfl⟩
  | undecided =>
      obtain ⟨flag', hflag', hn⟩ := verdict_eq_undecided_iff.mp hv
      obtain rfl := Option.some.inj (hflag.symm.trans hflag')
      exact absurd hn (not_needsService hd hrules)

end

/-- **Calls that have the same subject get the same reply.**  Let a flag of the snapshot have rules, and let
two calls for it bring the same default and the same subject.  Whatever else they bring, and whatever has
become of the service between them, they get the same reply, value or failure, with the same entries in the
log; and neither calls the service. -/
theorem same_subject_gets_same_reply {σ : Type} (service : Service σ) (digest : Digest)
    {groupTypes : List (String × String)} {snapshot : Snapshot} {flag : Flag} {q q' : Query}
    (hkey : q'.key = q.key) (hdefault : q'.default = q.default) (hflag : snapshot.get? q.key = some flag)
    (hrules : flag.groups ≠ [] ∨ flag.isSimple) (hsame : SameSubject groupTypes flag q q')
    (s s' : σ) (calls calls' : List ServiceCall) :
    let r := getFlag service.recorded digest groupTypes (.ok snapshot) q (s, calls)
    let r' := getFlag service.recorded digest groupTypes (.ok snapshot) q' (s', calls')
    r'.1 = r.1 ∧ r.2 = (s, calls) ∧ r'.2 = (s', calls') := by
  obtain ⟨decided, hd, hd'⟩ := hsame.exists_decidedFor?
  obtain ⟨reply, hv⟩ : ∃ reply, verdict digest groupTypes snapshot q = .reply reply :=
    exists_reply hflag hd hrules
  have hv' : verdict digest groupTypes snapshot q' = .reply reply :=
    (verdict_congr hkey hdefault hflag (hd'.trans hd.symm)).trans hv
  simp only [getFlag, hv, hv', and_self]

/-- A flag for the organisations that have the large plan. -/
def largePlan : Flag where
  key := "seats"
  filters :=
    { groups := [{ conditions := [{ key := "plan", value := .str "large" }] }], groupTypeIndex := some 0 }

/-- A query for that flag, of somebody who works in an organisation and in a team. -/
def ofWorker (name team : String) : Query where
  key := "seats"
  subject := name
  properties := [("plan", .str name)]
  groupProperties := [("team", [("plan", .str "small")]), ("organisation", [("plan", .str "large")])]
  groups := [("team", team), ("organisation", "acme")]

/-- Two people of one organisation, in different teams and with plans of their own, have the flag that their
organisation has, and the service is not asked for either. -/
theorem colleagues_get_same_reply :
    SameSubject [("0", "organisation")] largePlan (ofWorker "ann" "red") (ofWorker "bob" "blue") ∧
    let ask q := getFlag Memory.service.recorded (fun _ => "") [("0", "organisation")]
      (.ok (.ofFlags [largePlan])) q ({}, [])
    (ask (ofWorker "ann" "red")).1.value = .ok (.bool true) ∧
      (ask (ofWorker "bob" "blue")).1.value = .ok (.bool true) ∧
      (ask (ofWorker "ann" "red")).2.2 = [] ∧ (ask (ofWorker "bob" "blue")).2.2 = [] := by
  have hsame : SameSubject [("0", "organisation")] largePlan (ofWorker "ann" "red")
      (ofWorker "bob" "blue") :=
    @SameSubject.group _ _ _ _ 0 "organisation" "acme" rfl rfl rfl rfl rfl
  have hflag : (Snapshot.ofFlags [largePlan]).get? (ofWorker "ann" "red").key = some largePlan := rfl
  have hdecided : decideByRules (fun _ => "") [("0", "organisation")] largePlan (ofWorker "ann" "red") =
      .ok .on := by
    have hw : ∀ index, largePlan.filters.groupTypeIndex = some index → Numeral.isWritable index := by
      rintro _ ⟨⟩
      decide +kernel
    exact (decideByRules_of_known hw (decidedFor?_of_group rfl rfl rfl)).trans rfl
  obtain ⟨hreply, hcalls, hcalls'⟩ := same_subject_gets_same_reply Memory.service (fun _ => "")
    (by rfl) (by rfl) hflag (.inl (List.cons_ne_nil _ _)) hsame {} {} [] []
  have hann : (getFlag Memory.service.recorded (fun _ => "") [("0", "organisation")]
      (.ok (.ofFlags [largePlan])) (ofWorker "ann" "red") ({}, [])).1.value = .ok (.bool true) := by
    simp only [getFlag, verdict, hflag, hdecided]
    rfl
  refine ⟨hsame, ?_⟩
  dsimp only
  rw [hreply, hann, hcalls, hcalls']
  exact ⟨rfl, rfl, rfl, rfl⟩

end Client

end FeatureFlags
