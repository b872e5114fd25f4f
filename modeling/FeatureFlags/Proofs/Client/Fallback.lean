import FeatureFlags.Client.Evaluation
import FeatureFlags.Proofs.Evaluation.Escape
import FeatureFlags.Service.Memory
import Mathlib.Algebra.Group.Int.Defs

/-!
# `Proofs.Client.Fallback` — a flag that cannot be decided has the caller's default

A client answers an error of an evaluation with the caller's default.  What it lets through are the
failures that are not the library's own: `Client.Escapes` says for which queries there is one, and
`getFlag_returns_iff` that every other query which the service need not be asked for gets a value.
-/

namespace FeatureFlags

namespace Client

/-! ## Which queries escape -/

/-- Whom a flag is decided for, and by which properties; none if the caller does not say it. -/
def decidedFor? (groupTypes : List (String × String)) (flag : Flag) (q : Query) :
    Option (String × Properties) :=
  match flag.filters.groupTypeIndex with
  | none => some (q.subject, q.properties)
  | some index => do
    let groupType ← groupTypes.lookup (toString index)
    let group ← q.groups.lookup groupType
    return (group, (q.groupProperties.lookup groupType).getD [])

variable {digest : Digest} {groupTypes : List (String × String)} {snapshot : Snapshot} {q : Query}
  {flag : Flag}

/-- **When a query escapes.**  The index of the flag's group type has too many digits to be looked up,
or the walk through the rule groups of the flag comes to a condition that escapes. -/
inductive Escapes (digest : Digest) (groupTypes : List (String × String)) (flag : Flag) (q : Query) :
    Prop where
  | index {index : Int} (hi : flag.filters.groupTypeIndex = some index)
      (hw : Numeral.isWritable index = false)
  | condition {subject : String} {properties : Properties} {c : Condition}
      (hi : ∀ index, flag.filters.groupTypeIndex = some index → Numeral.isWritable index)
      (hd : decidedFor? groupTypes flag q = some (subject, properties))
      (hr : flag.Reaches digest subject properties c) (hc : c.Escapes properties)

theorem decideByRules_of_known {subject : String} {properties : Properties}
    (hi : ∀ index, flag.filters.groupTypeIndex = some index → Numeral.isWritable index)
    (hd : decidedFor? groupTypes flag q = some (subject, properties)) :
    decideByRules digest groupTypes flag q = flag.evaluate digest subject properties := by
  unfold decidedFor? at hd
  unfold decideByRules
  cases hf : flag.filters.groupTypeIndex with
  | none =>
      simp only [hf, Option.some.injEq, Prod.mk.injEq] at hd
      obtain ⟨rfl, rfl⟩ := hd
      rfl
  | some index =>
      simp only [hf, Option.bind_eq_bind, Option.bind_eq_some_iff] at hd
      obtain ⟨groupType, ht, group, hg, h⟩ := hd
      cases h
      simp only [hi index hf, if_true, ht, hg]

theorem decideByRules_of_unknown
    (hi : ∀ index, flag.filters.groupTypeIndex = some index → Numeral.isWritable index)
    (hd : decidedFor? groupTypes flag q = none) :
    ¬ FeatureFlags.Escapes (decideByRules digest groupTypes flag q) := by
  unfold decidedFor? at hd
  unfold decideByRules
  cases hf : flag.filters.groupTypeIndex with
  | none => simp [hf] at hd
  | some index =>
      simp only [hi index hf, if_true]
      cases ht : groupTypes.lookup (toString index) with
      | none => simp [EvaluationError.escapes]
      | some groupType =>
          cases hg : q.groups.lookup groupType with
          | none =>
              simp only [hg]
              simp [EvaluationError.escapes]
          | some group =>
              simp only [hf, ht, hg, Option.bind_eq_bind, Option.bind_some] at hd
              cases hd

/-- A query escapes in the listed cases, and in no others. -/
theorem decideByRules_escapes_iff :
    FeatureFlags.Escapes (decideByRules digest groupTypes flag q) ↔
      Escapes digest groupTypes flag q := by
  by_cases hi : ∀ index, flag.filters.groupTypeIndex = some index → Numeral.isWritable index
  · cases hd : decidedFor? groupTypes flag q with
    | none =>
        refine iff_of_false (decideByRules_of_unknown hi hd) ?_
        rintro (⟨hf, hw⟩ | ⟨_, hd', _, _⟩)
        · rw [hi _ hf] at hw
          cases hw
        · rw [hd] at hd'
          cases hd'
    | some decided =>
        obtain ⟨subject, properties⟩ := decided
        rw [decideByRules_of_known hi hd, Flag.evaluate_escapes_iff]
        constructor
        · rintro ⟨c, hr, hc⟩
          exact .condition hi hd hr hc
        · rintro (⟨hf, hw⟩ | ⟨_, hd', hr, hc⟩)
          · rw [hi _ hf] at hw
            cases hw
          · rw [hd] at hd'
            cases hd'
            exact ⟨_, hr, hc⟩
  · obtain ⟨index, h⟩ := Classical.not_forall.mp hi
    obtain ⟨hf, hw⟩ := Classical.not_imp.mp h
    have hw : Numeral.isWritable index = false := Bool.eq_false_iff.mpr hw
    refine iff_of_true ⟨.integerUnwritable, ?_, rfl⟩ (.index hf hw)
    simp [decideByRules, hf, hw]

/-! ## Replies -/

/-- What a snapshot says about a query, unless the service has to be asked: a foreign failure where the
query escapes, and otherwise the flag's value, or the default if it has none. -/
theorem verdict_reply {r : Reply} (h : verdict digest groupTypes snapshot q = .reply r) :
    (∃ err flag, r.value = .error err ∧ snapshot.get? q.key = some flag ∧
      Escapes digest groupTypes flag q) ∨
    (∃ v, r.value = .ok v ∧
      (∀ flag, snapshot.get? q.key = some flag → ¬ Escapes digest groupTypes flag q) ∧
      ((snapshot.get? q.key = none ∨ ∃ flag e, snapshot.get? q.key = some flag ∧
        decideByRules digest groupTypes flag q = .error e) → v = q.default)) := by
  unfold verdict at h
  cases hg : snapshot.get? q.key with
  | none =>
      simp only [hg, Verdict.reply.injEq] at h
      subst h
      exact .inr ⟨q.default, rfl, by simp, fun _ => rfl⟩
  | some flag =>
      have only {P : Flag → Prop} (h : P flag) : ∀ flag', some flag = some flag' → P flag' := by
        rintro flag' ⟨⟩
        exact h
      simp only [hg] at h
      cases hd : decideByRules digest groupTypes flag q with
      | ok v =>
          simp only [hd, Verdict.reply.injEq] at h
          subst h
          refine .inr ⟨v.toJson, rfl, only ?_, ?_⟩
          · rw [← decideByRules_escapes_iff, hd]
            exact escapes_ok.mp
          · rintro (h | ⟨_, e, ⟨⟩, he⟩)
            · cases h
            · rw [hd] at he
              cases he
      | error e =>
          have hesc : e.escapes ↔ Escapes digest groupTypes flag q := by
            rw [← decideByRules_escapes_iff, hd, escapes_error]
          simp only [hd, verdictOfError] at h
          cases hr : e.report with
          | foreign err =>
              simp only [hr, Verdict.reply.injEq] at h
              subst h
              exact .inl ⟨err, flag, rfl, rfl, hesc.mp (EvaluationError.escapes_iff.mpr ⟨err, hr⟩)⟩
          | library err =>
              simp only [hr] at h
              split at h
              · cases h
              · rw [Verdict.reply.injEq] at h
                subst h
                refine .inr ⟨q.default, rfl, only ?_, fun _ => rfl⟩
                rw [← hesc, EvaluationError.escapes_iff]
                rintro ⟨err', hr'⟩
                rw [hr] at hr'
                cases hr'

/-- A query that escapes is not passed on to the service. -/
theorem verdict_of_escapes (hg : snapshot.get? q.key = some flag)
    (h : Escapes digest groupTypes flag q) :
    ∃ err, verdict digest groupTypes snapshot q = .reply ⟨.error err, []⟩ := by
  obtain ⟨e, hd, he⟩ := decideByRules_escapes_iff.mpr h
  obtain ⟨err, hr⟩ := EvaluationError.escapes_iff.mp he
  exact ⟨err, by simp only [verdict, hg, hd, verdictOfError, hr]⟩

/-- **A query that the service need not be asked for gets a value if, and only if, it does not escape.**
The value is the caller's default if the snapshot has no such flag or its rules could not decide it. -/
theorem getFlag_returns_iff {σ : Type} (service : Service σ) (digest : Digest)
    (groupTypes : List (String × String)) (snapshot : Snapshot) (q : Query) (s : σ)
    (hv : verdict digest groupTypes snapshot q ≠ .undecided) :
    let escapes := ∃ flag, snapshot.get? q.key = some flag ∧ Escapes digest groupTypes flag q
    let value := (getFlag service digest groupTypes (.ok snapshot) q s).1.value
    let enabled := (isEnabled service digest groupTypes (.ok snapshot) q s).1.value
    ((∃ v, value = .ok v) ↔ ¬ escapes) ∧ ((∃ b, enabled = .ok (.bool b)) ↔ ¬ escapes) ∧
      (¬ escapes → (snapshot.get? q.key = none ∨ ∃ flag e, snapshot.get? q.key = some flag ∧
        decideByRules digest groupTypes flag q = .error e) → value = .ok q.default) := by
  intro escapes value enabled
  cases hr : verdict digest groupTypes snapshot q with
  | undecided => exact absurd hr hv
  | reply r =>
      have hvalue : value = r.value := by simp only [value, getFlag, hr]
      have henabled : enabled = r.value.map fun v => .bool (countsAsOn v) := by
        simp only [enabled, isEnabled, getFlag, hr]
      rw [hvalue, henabled]
      rcases verdict_reply hr with ⟨err, flag, he, hg, hesc⟩ | ⟨v, hok, hesc, hdefault⟩
      · have hescapes : escapes := ⟨flag, hg, hesc⟩
        rw [he]
        refine ⟨iff_of_false ?_ (not_not_intro hescapes), iff_of_false ?_ (not_not_intro hescapes),
          fun h => absurd hescapes h⟩
        · rintro ⟨v, ⟨⟩⟩
        · rintro ⟨b, ⟨⟩⟩
      · have hescapes : ¬ escapes := fun ⟨flag, hg, h⟩ => hesc flag hg h
        rw [hok]
        refine ⟨iff_of_true ⟨v, rfl⟩ hescapes, iff_of_true ⟨countsAsOn v, rfl⟩ hescapes, ?_⟩
        intro _ h
        rw [hdefault h]

/-- A flag for those whose age is greater than five. -/
def overFive : Flag where
  key := "over-five"
  filters := { groups := [{ conditions := [{ key := "age", operator := .str "gt", value := .int 5 }] }] }

/-- The query for that flag, of somebody of a given age. -/
def ofAge (age : Json) : Query where
  key := "over-five"
  subject := "u"
  default := .str "fallback"
  properties := [("age", age)]

/-- An age that is a text cannot be ordered, and the caller gets the default. -/
theorem getFlag_of_text_age :
    (getFlag Memory.service (fun _ => "") [] (.ok (.ofFlags [overFive])) (ofAge (.str "six")) {}).1.value
      = .ok (.str "fallback") := by
  have hv : verdict (fun _ => "") [] (.ofFlags [overFive]) (ofAge (.str "six")) ≠ .undecided := by
    intro h
    cases (show Verdict.reply _ = _ from h)
  obtain ⟨hvalue, _, hdefault⟩ := getFlag_returns_iff Memory.service (fun _ => "") []
    (.ofFlags [overFive]) (ofAge (.str "six")) {} hv
  exact hdefault (hvalue.mp ⟨_, rfl⟩) (.inr ⟨overFive, _, rfl, rfl⟩)

/-- An age of four hundred digits has no double, and the caller gets a foreign failure. -/
theorem getFlag_of_huge_age :
    Flag.listOfJson (.obj [("results", .arr [.obj [("key", .str "over-five"), ("active", .bool true),
      ("filters", .obj [("groups", .arr [.obj [("properties", .arr [.obj [("key", .str "age"),
        ("operator", .str "gt"), ("value", .int 5)]])]])])]])]) = .ok [overFive] ∧
    ∃ err, (getFlag Memory.service (fun _ => "") [] (.ok (.ofFlags [overFive]))
      (ofAge (.int (10 ^ 200 * 10 ^ 200))) {}).1.value = .error err := by
  refine ⟨rfl, ?_⟩
  have hbreaks : Json.BreaksOrdering (.int (10 ^ 200 * 10 ^ 200)) :=
    .inl ⟨_, rfl, by decide +kernel⟩
  have hc : Condition.Escapes { key := "age", operator := .str "gt", value := .int 5 }
      [("age", .int (10 ^ 200 * 10 ^ 200))] := @Condition.Escapes.order _ _ .gt _ rfl rfl (.inl hbreaks)
  have hesc : Escapes (fun _ => "") [] overFive (ofAge (.int (10 ^ 200 * 10 ^ 200))) :=
    .condition (by rintro _ ⟨⟩) rfl ⟨[], _, [], [], [], rfl, by simp, rfl, by simp⟩ hc
  have hg : (Snapshot.ofFlags [overFive]).get? "over-five" = some overFive := rfl
  obtain ⟨err, h⟩ := verdict_of_escapes hg hesc
  exact ⟨err, by simp only [getFlag, h]⟩

end Client

end FeatureFlags
