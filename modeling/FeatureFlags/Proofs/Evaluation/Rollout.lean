import FeatureFlags.Proofs.Binary64.Order
import FeatureFlags.Proofs.Evaluation.Place
import Mathlib.Data.List.Forall2

/-!
# `Proofs.Evaluation.Rollout` — raising rollouts only adds subjects

Two flags are walked through side by side, the second with larger percentages.  At each group either both
answer alike, or the second lets the subject in where the first went on (`groupMatches_of_raised`).  What
the first flag might find later, an error or a group that matches, then no longer counts; but a matched
group gives the same value whichever it is, so that nobody who had a value gets another one
(`raising_rollouts_only_adds`).
-/

namespace FeatureFlags

/-! ## Raised flags -/

/-- A gate is raised: it is taken away, or its percentage is not made smaller. -/
inductive GateRaised : Option Binary64 → Option Binary64 → Prop where
  | removed (gate : Option Binary64) : GateRaised gate none
  | raised {p q : Binary64} (h : p.le q) : GateRaised (some p) (some q)

/-- A rule group with the same conditions and a raised gate. -/
structure RuleGroup.Raised (group raised : RuleGroup) : Prop where
  conditions : raised.conditions = group.conditions
  gate : GateRaised group.rollout raised.rollout

/-- A flag that is the same for every evaluation but for its rollouts, which are raised.  A flag without a
rollout of its own is open to everyone, as with a hundred percent. -/
structure Flag.Raised (flag raised : Flag) : Prop where
  key : raised.key = flag.key
  isSimple : raised.isSimple = flag.isSimple
  variants : raised.variants = flag.variants
  groups : List.Forall₂ RuleGroup.Raised flag.groups raised.groups
  rollout : (flag.rollout.getD (.ofInt 100)).le (raised.rollout.getD (.ofInt 100))

/-- The value of a flag for those it is on for. -/
def Flag.resolved (digest : Digest) (flag : Flag) (subject : String) : Except EvaluationError FlagValue :=
  if flag.groups.isEmpty then .ok .on else flag.matchedValue digest subject

section

variable {digest : Digest} {flag raised : Flag} {subject : String} {properties : Properties}
  {p : Binary64}

/-! ## One gate -/

/-- Whoever a gate lets in, the raised gate lets in. -/
theorem GateRaised.le {gate gate' : Option Binary64} (h : GateRaised gate gate')
    (hin : gate.all fun q => p.le q.hundredth) : gate'.all fun q => p.le q.hundredth := by
  cases h with
  | removed => rfl
  | raised hle => exact Binary64.le_trans hin (Binary64.hundredth_le_hundredth hle)

namespace Flag

/-- A group with a raised gate answers alike, or lets the subject in where the other does not. -/
theorem groupMatches_of_raised {group raisedGroup : RuleGroup} (hkey : raised.key = flag.key)
    (h : group.Raised raisedGroup) (hp : Bucket.place digest flag.key subject "" = .ok p) :
    raised.groupMatches digest subject properties raisedGroup =
        flag.groupMatches digest subject properties group ∨
      flag.groupMatches digest subject properties group = .ok false ∧
        raised.groupMatches digest subject properties raisedGroup = .ok true := by
  rw [groupMatches_of_place hp, groupMatches_of_place (hkey ▸ hp), h.conditions]
  cases allHold properties group.conditions with
  | error e => exact .inl rfl
  | ok hold =>
      cases hold with
      | false => exact .inl rfl
      | true =>
          have hgate := h.gate.le (p := p)
          simp only [Functor.map, Except.map, Bool.true_and]
          cases hin : group.rollout.all fun q => p.le q.hundredth with
          | true => exact .inl (by rw [hgate hin])
          | false =>
              cases raisedGroup.rollout.all fun q => p.le q.hundredth with
              | true => exact .inr ⟨rfl, rfl⟩
              | false => exact .inl rfl

/-! ## The walk through the groups -/

/-- The walk gives nothing but *off* and the value of a group that matched. -/
theorem firstMatch_eq_ok {groups : List RuleGroup} {value resolved : FlagValue}
    (hr : flag.matchedValue digest subject = .ok resolved)
    (h : flag.firstMatch digest subject properties groups = .ok value) :
    value = .off ∨ value = resolved := by
  induction groups with
  | nil => exact .inl (Except.ok.inj h).symm
  | cons group rest ih =>
      unfold firstMatch at h
      cases hm : flag.groupMatches digest subject properties group with
      | error e => rw [hm] at h; cases h
      | ok found =>
          rw [hm] at h
          cases found with
          | true => exact .inr (Except.ok.inj (h.symm.trans hr))
          | false => exact ih h

/-- With raised gates the walk ends as before, or at a group that matches. -/
theorem firstMatch_of_raised {groups raisedGroups : List RuleGroup} (hkey : raised.key = flag.key)
    (hvalue : raised.matchedValue digest subject = flag.matchedValue digest subject)
    (hp : Bucket.place digest flag.key subject "" = .ok p)
    (h : List.Forall₂ RuleGroup.Raised groups raisedGroups) :
    raised.firstMatch digest subject properties raisedGroups =
        flag.firstMatch digest subject properties groups ∨
      raised.firstMatch digest subject properties raisedGroups = flag.matchedValue digest subject := by
  induction h with
  | nil => exact .inl rfl
  | @cons group raisedGroup rest raisedRest hgroup _ ih =>
      unfold firstMatch
      rcases groupMatches_of_raised hkey hgroup hp with heq | ⟨hout, hin⟩
      · rw [heq]
        cases flag.groupMatches digest subject properties group with
        | error e => exact .inl rfl
        | ok found =>
            cases found with
            | true => exact .inl hvalue
            | false => exact ih
      · -- the first flag goes on to the other groups; what it finds there no longer counts
        rw [hin]
        exact .inr hvalue

/-! ## Whole flags -/

theorem Raised.matchedValue_eq (h : flag.Raised raised) :
    raised.matchedValue digest subject = flag.matchedValue digest subject := by
  simp only [matchedValue, resolveVariant, h.variants, h.key]

theorem Raised.isEmpty_groups (h : flag.Raised raised) : raised.groups.isEmpty = flag.groups.isEmpty := by
  have hgroups := h.groups
  cases hg : flag.groups <;> cases hr : raised.groups <;> simp_all

/-- A hundredth of the rollout of a simple flag, which is one when it has none. -/
theorem simpleRollout_hundredth? :
    flag.simpleRollout.hundredth? = some (flag.rollout.getD (.ofInt 100)).hundredth := by
  unfold simpleRollout
  cases flag.rollout with
  | some q => rfl
  | none =>
      show (Number.int 100).hundredth? = some (Binary64.ofInt 100).hundredth
      decide +kernel

theorem exists_resolved (hp : Bucket.place digest flag.key subject VariantRange.salt = .ok p) :
    ∃ value, flag.resolved digest subject = .ok value ∧ value ≠ .off := by
  unfold resolved
  split
  · exact ⟨.on, rfl, by decide⟩
  · exact exists_matchedValue hp

/-- An evaluation gives nothing but *off* and the value of the flag for those it is on for. -/
theorem evaluate_eq_ok {value resolved : FlagValue} (hr : flag.resolved digest subject = .ok resolved)
    (h : flag.evaluate digest subject properties = .ok value) : value = .off ∨ value = resolved := by
  unfold Flag.resolved at hr
  unfold evaluate at h
  by_cases hg : flag.groups.isEmpty
  · rw [if_pos hg] at hr h
    obtain rfl := Except.ok.inj hr
    by_cases hs : flag.isSimple
    · rw [if_pos hs] at h
      cases ha : Bucket.admits digest flag.key subject flag.simpleRollout with
      | error e => rw [ha] at h; cases h
      | ok admitted =>
          rw [ha] at h
          obtain rfl := Except.ok.inj h
          cases admitted with
          | false => exact .inl rfl
          | true => exact .inr rfl
    · rw [if_neg hs] at h
      cases h
  · rw [if_neg hg] at hr h
    exact firstMatch_eq_ok hr h

/-- With raised rollouts an evaluation ends as before, or the flag is on for the subject. -/
theorem evaluate_of_raised (h : flag.Raised raised)
    (hp : Bucket.place digest flag.key subject "" = .ok p) :
    raised.evaluate digest subject properties = flag.evaluate digest subject properties ∨
      raised.evaluate digest subject properties = flag.resolved digest subject := by
  unfold evaluate resolved
  rw [h.isEmpty_groups, h.isSimple, h.key]
  by_cases hg : flag.groups.isEmpty
  · simp only [if_pos hg]
    by_cases hs : flag.isSimple
    · simp only [if_pos hs, Bucket.admits_of_place hp simpleRollout_hundredth?]
      have hle := Binary64.hundredth_le_hundredth h.rollout
      cases hin : p.le (flag.rollout.getD (.ofInt 100)).hundredth with
      | true => exact .inl (by rw [Binary64.le_trans hin hle])
      | false =>
          cases p.le (raised.rollout.getD (.ofInt 100)).hundredth with
          | true => exact .inr rfl
          | false => exact .inl rfl
    · exact .inl (by rw [if_neg hs, if_neg hs])
  · simp only [if_neg hg]
    exact firstMatch_of_raised h.key h.matchedValue_eq hp h.groups

/-- **Raising rollouts only adds subjects and never reassigns anyone.**  Let some percentages of a flag be
raised or taken away.  Whoever had a value keeps it; for everyone else, for whom the flag was off or could
not be evaluated, this is as before, or the flag now has the value that it has for those it is on for. -/
theorem raising_rollouts_only_adds (h : flag.Raised raised) (hdigest : ∀ text, IsHex (digest text)) :
    ∃ resolved, flag.resolved digest subject = .ok resolved ∧ resolved ≠ .off ∧
      (∀ value, flag.evaluate digest subject properties = .ok value → value ≠ .off →
        raised.evaluate digest subject properties = .ok value) ∧
      (flag.evaluate digest subject properties = .ok .off →
        raised.evaluate digest subject properties = .ok .off ∨
          raised.evaluate digest subject properties = .ok resolved) ∧
      (∀ e, flag.evaluate digest subject properties = .error e →
        raised.evaluate digest subject properties = .error e ∨
          raised.evaluate digest subject properties = .ok resolved) := by
  obtain ⟨place, hplace⟩ := Bucket.exists_place hdigest flag.key subject ""
  obtain ⟨variantPlace, hvariantPlace⟩ := Bucket.exists_place hdigest flag.key subject VariantRange.salt
  obtain ⟨resolved, hresolved, hon⟩ := exists_resolved hvariantPlace
  have hraised : raised.evaluate digest subject properties = flag.evaluate digest subject properties ∨
      raised.evaluate digest subject properties = .ok resolved :=
    hresolved ▸ evaluate_of_raised h hplace
  refine ⟨resolved, hresolved, hon, ?_, ?_, ?_⟩
  · intro value hvalue hne
    obtain rfl := (evaluate_eq_ok hresolved hvalue).resolve_left hne
    rw [hvalue] at hraised
    exact hraised.elim id id
  · intro hoff
    rwa [hoff] at hraised
  · intro e he
    rwa [he] at hraised

/-- A flag with one group, which is open to some percentage of all subjects. -/
def openTo (percentage : Int) : Flag where
  key := "beta"
  filters := { groups := [{ rollout := some (.ofInt percentage) }] }

/-- For a subject in the middle a flag that is open to thirty percent is off; open to sixty, it stays so or
is on. -/
theorem raised_from_thirty_to_sixty :
    let digest : Digest := fun _ => "8000000000000000000000000000000000000000"
    (openTo 30).Raised (openTo 60) ∧ (∀ text, IsHex (digest text)) ∧
      (openTo 30).evaluate digest "user" [] = .ok .off ∧
      ((openTo 60).evaluate digest "user" [] = .ok .off ∨
        (openTo 60).evaluate digest "user" [] = .ok .on) := by
  intro digest
  have hdigest (text : String) : IsHex (digest text) := by
    show IsHex "8000000000000000000000000000000000000000"
    decide +kernel
  have hraised : (openTo 30).Raised (openTo 60) :=
    ⟨rfl, rfl, rfl, .cons ⟨rfl, .raised (by decide +kernel)⟩ .nil, by decide +kernel⟩
  have hoff : (openTo 30).evaluate digest "user" [] = .ok .off := by
    have hplace := Bucket.place_of_isHex (hdigest (Bucket.source (openTo 30).key "user" ""))
    have hbeyond : (Binary64.ofRatio false (Bucket.lead (digest "")) Bucket.scale).le
        (Binary64.ofInt 30).hundredth = false := by
      decide +kernel
    have hout : (openTo 30).groupMatches digest "user" [] { rollout := some (.ofInt 30) } = .ok false := by
      rw [groupMatches_of_place hplace]
      simp only [digest] at hbeyond ⊢
      simp only [allHold, Option.all_some, Functor.map, Except.map, Bool.true_and, hbeyond]
    show (openTo 30).firstMatch digest "user" [] [{ rollout := some (.ofInt 30) }] = .ok .off
    rw [firstMatch, hout]
    rfl
  obtain ⟨resolved, hresolved, _, _, hadded, _⟩ :=
    raising_rollouts_only_adds hraised hdigest
  obtain rfl := Except.ok.inj hresolved
  exact ⟨hraised, hdigest, hoff, hadded hoff⟩

end Flag

end

end FeatureFlags
