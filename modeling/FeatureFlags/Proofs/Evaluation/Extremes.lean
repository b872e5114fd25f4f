import FeatureFlags.Proofs.Binary64.Nearest
import FeatureFlags.Proofs.Evaluation.Unknown
import FeatureFlags.Proofs.Flag.Clamping

/-!
# `Proofs.Evaluation.Extremes` — rollouts to nobody and to everybody

A percentage of no more than zero is read as zero, and one of at least a hundred as a hundred; their
shares are zero and one, the two ends of the unit interval.  A rollout admits the subjects whose place is
no more than its share, and both ends are places of subjects.

So a full rollout admits everyone, the subject at one included (`full_rollout_admits_everybody`), and a
group without a percentage can be told from one of a hundred percent by nobody.  An empty rollout does not
keep everyone out: the subject at zero is admitted, and it alone
(`zero_rollout_admits_leading_zeros`).

## Contents

1. Digests that lead with zeros
2. The ends of the unit interval
3. The shares of both rollouts
4. Rollouts to nobody
5. Rollouts to everybody
-/

namespace FeatureFlags

open Record (field)

/-! ## Digests that lead with zeros -/

namespace Numeral

theorem digitValue_eq_zero_iff {c : Char} (hc : c ∈ hexDigits) :
    (digitValue? c).getD 0 = 0 ↔ c = '0' := by
  have hall : hexDigits.all fun c => decide ((digitValue? c).getD 0 = 0 ↔ c = '0') := by decide +kernel
  exact of_decide_eq_true (List.all_eq_true.mp hall c hc)

/-- Digits denote zero if each of them does. -/
theorem value_eq_zero_iff {cs : List Char} (h : ∀ c ∈ cs, c ∈ hexDigits) :
    value 16 cs = 0 ↔ ∀ c ∈ cs, c = '0' := by
  -- what the digits read so far denote is not made smaller by the others
  suffices hfrom : ∀ n, cs.foldl (fun n c => 16 * n + (digitValue? c).getD 0) n = 0 ↔
      n = 0 ∧ ∀ c ∈ cs, c = '0' by
    simpa [value] using hfrom 0
  induction cs with
  | nil => simp
  | cons c rest ih =>
      intro n
      have hdigit := digitValue_eq_zero_iff (h c List.mem_cons_self)
      have hrest := ih fun d hd => h d (List.mem_cons_of_mem c hd)
      rw [List.foldl_cons, hrest, Nat.add_eq_zero_iff, hdigit, List.forall_mem_cons, and_assoc]
      simp

end Numeral

/-! ## The ends of the unit interval -/

namespace Bucket

/-- The digits of a digest that count are all zero. -/
def LeadsWithZeros (hex : String) : Prop := ∀ c ∈ hex.toList.take digits, c = '0'

instance (hex : String) : Decidable (LeadsWithZeros hex) :=
  List.decidableBAll (· = '0') (hex.toList.take digits)

/-- The quotient of a number that is not zero is not rounded to zero. -/
theorem rank_ofRatio_eq_zero_iff (n : Nat) : (Binary64.ofRatio false n scale).rank = 0 ↔ n = 0 := by
  constructor
  · intro h
    by_contra hn
    have hone : 0 < (Binary64.ofRatio false 1 scale).rank := by decide +kernel
    have hmono : (Binary64.ofRatio false 1 scale).rank ≤ (Binary64.ofRatio false n scale).rank := by
      rw [Binary64.ofRatio, Binary64.ofRatio, Binary64.rank_num, Binary64.rank_num]
      refine Binary64.roundRank_mono (by decide) (by decide) ?_
      exact Nat.mul_le_mul_right _ (Nat.mul_le_mul_right _ (Nat.pos_of_ne_zero hn))
    exact Nat.ne_of_gt (hone.trans_le hmono) h
  · rintro rfl
    decide +kernel

variable {digest : Digest} {key subject salt : String}

/-- **The lower end of the unit interval is the place of those whose digest leads with zeros.** -/
theorem rank_place_eq_zero_iff {p : Binary64} (h : IsHex (digest (source key subject salt)))
    (hp : place digest key subject salt = .ok p) :
    p.rank = 0 ↔ LeadsWithZeros (digest (source key subject salt)) := by
  have htake : ∀ c ∈ (digest (source key subject salt)).toList.take digits, c ∈ hexDigits :=
    fun c hc => h.digits c (List.mem_of_mem_take hc)
  obtain rfl := Except.ok.inj ((place_of_isHex h).symm.trans hp)
  rw [rank_ofRatio_eq_zero_iff, lead, Numeral.value_eq_zero_iff htake]
  rfl

end Bucket

/-! ## The shares of both rollouts -/

/-- One number is at most another, by exact value. -/
def Number.AtMost (m n : Number) : Prop := m.compare? n = some .lt ∨ m.compare? n = some .eq

instance (m n : Number) : Decidable (m.AtMost n) :=
  inferInstanceAs (Decidable (m.compare? n = some .lt ∨ m.compare? n = some .eq))

theorem Number.atMost_iff {m n : Number} :
    m.AtMost n ↔ ∃ a b, m.exactValue? = some a ∧ n.exactValue? = some b ∧ a ≤ b := by
  simp only [AtMost, compare?_eq_some_iff, le_iff_lt_or_eq]
  constructor
  · rintro (⟨a, b, ha, hb, h⟩ | ⟨a, b, ha, hb, h⟩)
    · exact ⟨a, b, ha, hb, .inl h⟩
    · exact ⟨a, b, ha, hb, .inr h⟩
  · rintro ⟨a, b, ha, hb, h | h⟩
    · exact .inl ⟨a, b, ha, hb, h⟩
    · exact .inr ⟨a, b, ha, hb, h⟩

namespace ReadAs

variable {n : Number} {rollout : Option Binary64}

/-- What is read for a number of which an exact value is known is that value, brought into the range. -/
theorem exists_of_exactValue? {a : Extended} (h : ReadAs (.number n) rollout)
    (hn : n.exactValue? = some a) : ∃ q, rollout = some q ∧ q.exactValue? = some a.clamp := by
  cases h with
  | number hn' hq =>
      obtain rfl := Option.some.inj (hn.symm.trans hn')
      exact ⟨_, rfl, hq⟩
  | nan => cases hn

/-- A number of no more than zero is read as zero, of either sign. -/
theorem exists_of_atMost_zero (h : ReadAs (.number n) rollout) (hn : n.AtMost (.int 0)) :
    ∃ q, rollout = some q ∧ q.IsNonneg ∧ q.rank = 0 := by
  obtain ⟨a, b, ha, hb, hab⟩ := Number.atMost_iff.mp hn
  obtain rfl := Option.some.inj hb
  obtain ⟨q, rfl, hq⟩ := h.exists_of_exactValue? ha
  rw [Extended.clamp_of_le_zero hab] at hq
  have hzero : Binary64.zero.exactValue? = some (.ofInt 0) :=
    Binary64.exactValue?_ofInt (n := 0) (by decide) (by decide)
  have hnonneg : q.IsNonneg :=
    Binary64.isNonneg_of_zero_le (Binary64.le_iff_exact.mpr ⟨_, _, hzero, hq, le_rfl⟩)
  have hle : q.le .zero := Binary64.le_iff_exact.mpr ⟨_, _, hq, hzero, le_rfl⟩
  have hrank := (Binary64.le_iff_rank hnonneg Binary64.isNonneg_zero).mp hle
  exact ⟨q, rfl, hnonneg, Nat.le_zero.mp hrank⟩

/-- A number of at least a hundred is read as no less than a hundred. -/
theorem exists_of_hundred_atMost (h : ReadAs (.number n) rollout) (hn : (Number.int 100).AtMost n) :
    ∃ q, rollout = some q ∧ (Binary64.ofInt 100).le q := by
  obtain ⟨a, b, ha, hb, hab⟩ := Number.atMost_iff.mp hn
  obtain rfl := Option.some.inj ha
  obtain ⟨q, rfl, hq⟩ := h.exists_of_exactValue? hb
  rw [Extended.clamp_of_hundred_le hab] at hq
  have hhundred : (Binary64.ofInt 100).exactValue? = some (.ofInt 100) :=
    Binary64.exactValue?_ofInt (by decide) (by decide)
  exact ⟨q, rfl, Binary64.le_iff_exact.mpr ⟨_, _, hhundred, hq, le_rfl⟩⟩

end ReadAs

/-- The percentage of a group is read from its record. -/
theorem RuleGroup.readAs_of_ofJson {v : Json} {group : RuleGroup} (h : RuleGroup.ofJson v = .ok group) :
    ReadAs (field "rollout_percentage" v) group.rollout := by
  obtain ⟨members, rfl, hgroup⟩ := RuleGroup.ofJson_eq_ok.mp h
  exact readAs_of_said hgroup.rollout

/-- The percentage of a flag is read from its record. -/
theorem Flag.readAs_of_ofJson {data : Json} {flag : Flag} (h : Flag.ofJson data = .ok flag) :
    ReadAs (field "rollout_percentage" data) flag.rollout := by
  obtain ⟨members, rfl, hflag⟩ := Flag.ofJson_eq_ok.mp h
  exact readAs_of_said hflag.rollout

namespace Binary64

variable {p q : Binary64}

/-- A share of nothing is reached by nothing but zero. -/
theorem le_hundredth_iff_of_rank_eq_zero (hp : p.IsNonneg) (hq : q.IsNonneg) (h0 : q.rank = 0) :
    p.le q.hundredth ↔ p.rank = 0 := by
  obtain ⟨hshare, hrank⟩ := hundredth_share hq
  rw [le_iff_rank hp hshare, hrank, h0, hundredthRank_zero, Nat.le_zero]

/-- A full share is no less than one. -/
theorem le_hundredth_of_hundred_le (hp : p.IsNonneg) (hone : p.rank ≤ oneRank) (hq : (ofInt 100).le q) :
    p.le q.hundredth := by
  have hhundredth : (ofInt 100).hundredth = one := by decide +kernel
  have hpone : p.le one := (le_iff_rank hp isNonneg_one).mpr hone
  have hshare : one.le q.hundredth := hhundredth ▸ hundredth_le_hundredth hq
  exact le_trans hpone hshare

end Binary64

namespace Flag

variable {digest : Digest} {flag : Flag} {subject : String} {properties : Properties} {p : Binary64}

/-- A group whose conditions hold leaves the answer to its gate. -/
theorem groupMatches_eq_true_iff_of_place (hp : Bucket.place digest flag.key subject "" = .ok p)
    {group : RuleGroup} : flag.groupMatches digest subject properties group = .ok true ↔
      allHold properties group.conditions = .ok true ∧ group.rollout.all fun q => p.le q.hundredth := by
  rw [groupMatches_of_place hp]
  cases allHold properties group.conditions with
  | error e => simp [Functor.map, Except.map]
  | ok hold => simp [Functor.map, Except.map]

/-- A simple flag without groups is decided by its gate. -/
theorem evaluate_simple_of_place (hp : Bucket.place digest flag.key subject "" = .ok p)
    (hsimple : flag.isSimple) (hgroups : flag.groups = []) :
    flag.evaluate digest subject properties =
      .ok (.bool (p.le (flag.rollout.getD (.ofInt 100)).hundredth)) := by
  have hadmits : Bucket.admits digest flag.key subject flag.simpleRollout =
      .ok (p.le (flag.rollout.getD (.ofInt 100)).hundredth) :=
    Bucket.admits_of_place hp simpleRollout_hundredth?
  simp only [evaluate, hgroups, List.isEmpty_nil, hsimple, if_true, hadmits]
  rfl

/-! ## Rollouts to nobody -/

section

variable {v data : Json} {n : Number} {group : RuleGroup}

/-- Of a group with a rollout to nobody, those are admitted whose digest leads with zeros. -/
theorem groupMatches_eq_true_iff_of_atMost_zero (hhex : IsHex (digest (Bucket.source flag.key subject "")))
    (hread : RuleGroup.ofJson v = .ok group) (hsent : field "rollout_percentage" v = .number n)
    (hn : n.AtMost (.int 0)) : flag.groupMatches digest subject properties group = .ok true ↔
      allHold properties group.conditions = .ok true ∧
        Bucket.LeadsWithZeros (digest (Bucket.source flag.key subject "")) := by
  obtain ⟨p, hp, hnonneg, -⟩ := Bucket.exists_place_le_one hhex
  obtain ⟨q, hq, hshare, hrank⟩ := (hsent ▸ RuleGroup.readAs_of_ofJson hread).exists_of_atMost_zero hn
  rw [groupMatches_eq_true_iff_of_place hp, hq, Option.all_some,
    Binary64.le_hundredth_iff_of_rank_eq_zero hnonneg hshare hrank, Bucket.rank_place_eq_zero_iff hhex hp]

/-- Of a simple flag with a rollout to nobody, those are admitted whose digest leads with zeros. -/
theorem evaluate_of_atMost_zero (hhex : IsHex (digest (Bucket.source flag.key subject "")))
    (hread : Flag.ofJson data = .ok flag) (hsimple : flag.isSimple) (hgroups : flag.groups = [])
    (hsent : field "rollout_percentage" data = .number n) (hn : n.AtMost (.int 0)) :
    flag.evaluate digest subject properties =
      .ok (.bool (decide (Bucket.LeadsWithZeros (digest (Bucket.source flag.key subject ""))))) := by
  obtain ⟨p, hp, hnonneg, -⟩ := Bucket.exists_place_le_one hhex
  obtain ⟨q, hq, hshare, hrank⟩ := (hsent ▸ readAs_of_ofJson hread).exists_of_atMost_zero hn
  have hzero := (Binary64.le_hundredth_iff_of_rank_eq_zero hnonneg hshare hrank).trans
    (Bucket.rank_place_eq_zero_iff hhex hp)
  have hanswer : p.le q.hundredth =
      decide (Bucket.LeadsWithZeros (digest (Bucket.source flag.key subject ""))) :=
    Bool.eq_iff_iff.mpr (hzero.trans decide_eq_true_iff.symm)
  rw [evaluate_simple_of_place hp hsimple hgroups, hq, Option.getD_some, hanswer]

end

/-- **A rollout to nobody admits those whose digest leads with zeros, and nobody else.**  This is so for a
group whose record gives a percentage of no more than zero, if its conditions hold, and for a simple flag
without groups whose record does. -/
theorem zero_rollout_admits_leading_zeros (hhex : IsHex (digest (Bucket.source flag.key subject ""))) :
    (∀ v group n properties, RuleGroup.ofJson v = .ok group →
      field "rollout_percentage" v = .number n → n.AtMost (.int 0) →
      (flag.groupMatches digest subject properties group = .ok true ↔
        allHold properties group.conditions = .ok true ∧
          Bucket.LeadsWithZeros (digest (Bucket.source flag.key subject "")))) ∧
    ∀ data n properties, Flag.ofJson data = .ok flag → flag.isSimple → flag.groups = [] →
      field "rollout_percentage" data = .number n → n.AtMost (.int 0) →
      flag.evaluate digest subject properties =
        .ok (.bool (decide (Bucket.LeadsWithZeros (digest (Bucket.source flag.key subject ""))))) := by
  constructor
  · intro v group n properties hread hsent hn
    exact groupMatches_eq_true_iff_of_atMost_zero hhex hread hsent hn
  · intro data n properties hread hsimple hgroups hsent hn
    exact evaluate_of_atMost_zero hhex hread hsimple hgroups hsent hn

/-- The record of a group with a percentage. -/
def gateRecord (n : Number) : Json := .obj [("rollout_percentage", .number n)]

/-- The record of a simple flag with a percentage. -/
def simpleRecord (n : Number) : Json :=
  .obj [("key", .str "beta"), ("is_simple_flag", .bool true), ("rollout_percentage", .number n)]

/-- The flag that it is read as. -/
def simpleFlag (n : Number) : Flag where
  key := "beta"
  isSimple := true
  rollout := some n.clampPercent
  active := false

/-- With percentages below zero, one digit that is not zero keeps a subject out. -/
theorem below_zero_keeps_out :
    let digest : Digest := fun _ => "0000000000000010000000000000000000000000"
    let half : Number := .float (.ofRatio true 1 2)
    let group : RuleGroup := { rollout := some half.clampPercent }
    IsHex (digest (Bucket.source "beta" "user" "")) ∧ RuleGroup.ofJson (gateRecord half) = .ok group ∧
      half.AtMost (.int 0) ∧ (simpleFlag half).groupMatches digest "user" [] group ≠ .ok true ∧
      Flag.ofJson (simpleRecord half) = .ok (simpleFlag half) ∧
      (simpleFlag half).evaluate digest "user" [] = .ok .off := by
  intro digest half group
  have hhex : IsHex (digest (Bucket.source "beta" "user" "")) := by
    show IsHex "0000000000000010000000000000000000000000"
    decide +kernel
  have hn : half.AtMost (.int 0) := by decide +kernel
  have hdigit : ¬ Bucket.LeadsWithZeros "0000000000000010000000000000000000000000" := by decide +kernel
  obtain ⟨hgroup, hflag⟩ := @zero_rollout_admits_leading_zeros digest (simpleFlag half) "user" hhex
  refine ⟨hhex, rfl, hn, fun hin => ?_, rfl, ?_⟩
  · exact hdigit ((hgroup (gateRecord half) group half [] rfl rfl hn).mp hin).2
  · rw [hflag (simpleRecord half) half [] rfl rfl rfl rfl hn]
    exact congrArg (fun b => Except.ok (FlagValue.bool b)) (decide_eq_false hdigit)

/-- **A rollout to nobody lets somebody in**: the subject whose digest is all zeros, by a group and by a
simple flag. -/
theorem zeros_pass_zero_rollout :
    let digest : Digest := fun _ => "0000000000000000000000000000000000000000"
    let group : RuleGroup := { rollout := some (Number.int 0).clampPercent }
    (∀ text, IsHex (digest text)) ∧ Flag.ofJson (simpleRecord (.int 0)) = .ok (simpleFlag (.int 0)) ∧
      RuleGroup.ofJson (gateRecord (.int 0)) = .ok group ∧
      (simpleFlag (.int 0)).groupMatches digest "user" [] group = .ok true ∧
      (simpleFlag (.int 0)).evaluate digest "user" [] = .ok .on := by
  intro digest group
  have hhex (text : String) : IsHex (digest text) := by
    show IsHex "0000000000000000000000000000000000000000"
    decide +kernel
  have hn : (Number.int 0).AtMost (.int 0) := by decide +kernel
  have hzeros : Bucket.LeadsWithZeros "0000000000000000000000000000000000000000" := by decide +kernel
  refine ⟨hhex, rfl, rfl, ?_, ?_⟩
  · exact (groupMatches_eq_true_iff_of_atMost_zero (v := gateRecord (.int 0)) (hhex _) rfl rfl hn).mpr
      ⟨rfl, hzeros⟩
  · have hread : Flag.ofJson (simpleRecord (.int 0)) = .ok (simpleFlag (.int 0)) := rfl
    rw [evaluate_of_atMost_zero (hhex _) hread rfl rfl rfl hn]
    exact congrArg (fun b => Except.ok (FlagValue.bool b)) (decide_eq_true hzeros)

/-! ## Rollouts to everybody -/

/-- What a record gives for a rollout to everybody: nothing, or a number of at least a hundred. -/
inductive GivesFull : Json → Prop where
  | null : GivesFull .null
  | number {n : Number} (h : (Number.int 100).AtMost n) : GivesFull (.number n)

/-- What is read for a rollout to everybody: nothing, or no less than a hundred. -/
theorem hundred_le_of_readAs {v : Json} {rollout : Option Binary64} (h : ReadAs v rollout)
    (hv : GivesFull v) : ∀ q ∈ rollout, (Binary64.ofInt 100).le q := by
  intro q hq
  cases hv with
  | null =>
      cases h
      cases hq
  | number hn =>
      obtain ⟨q', rfl, hle⟩ := h.exists_of_hundred_atMost hn
      exact Option.some.inj hq ▸ hle

/-- Everyone passes a gate that is open to everybody. -/
theorem passes_of_hundred_le (hnonneg : p.IsNonneg) (hone : p.rank ≤ Binary64.oneRank)
    {rollout : Option Binary64} (h : ∀ q ∈ rollout, (Binary64.ofInt 100).le q) :
    (rollout.all fun q => p.le q.hundredth) ∧ p.le (rollout.getD (.ofInt 100)).hundredth := by
  have hhundred : (Binary64.ofInt 100).le (.ofInt 100) := by decide +kernel
  cases rollout with
  | none => exact ⟨rfl, Binary64.le_hundredth_of_hundred_le hnonneg hone hhundred⟩
  | some q =>
      have hq := Binary64.le_hundredth_of_hundred_le hnonneg hone (h q rfl)
      exact ⟨hq, hq⟩

/-- The flag with another percentage. -/
def setRollout (flag : Flag) (rollout : Option Binary64) : Flag := { flag with rollout }

/-- The walk through rule groups does not look at the percentage of the flag. -/
theorem firstMatch_setRollout (rollout : Option Binary64) (groups : List RuleGroup) :
    (flag.setRollout rollout).firstMatch digest subject properties groups =
      flag.firstMatch digest subject properties groups := by
  induction groups with
  | nil => rfl
  | cons group rest ih =>
      rw [firstMatch, firstMatch, ih]
      rfl

/-- A percentage of one hundred is as good as none, for every subject and every place that it has. -/
theorem evaluate_setRollout_none :
    (flag.setRollout none).evaluate digest subject properties =
      (flag.setRollout (some (.ofInt 100))).evaluate digest subject properties := by
  -- a simple flag without a percentage is given the integer, and not the double
  have hshare : (Number.int 100).hundredth? = (Number.float (.ofInt 100)).hundredth? := by decide +kernel
  have hadmits : Bucket.admits digest flag.key subject (.int 100) =
      Bucket.admits digest flag.key subject (.float (.ofInt 100)) := by
    simp only [Bucket.admits, hshare]
  rcases eq_or_ne flag.groups [] with hgroups | hgroups
  · have hempty (rollout : Option Binary64) : (flag.setRollout rollout).groups.isEmpty := by
      rw [List.isEmpty_iff]
      exact hgroups
    rw [evaluate, evaluate, if_pos (hempty none), if_pos (hempty _)]
    exact congrArg (fun answer => if flag.isSimple then FlagValue.bool <$> answer else _) hadmits
  · have hwalk (rollout : Option Binary64) :
        (flag.setRollout rollout).evaluate digest subject properties =
          flag.firstMatch digest subject properties flag.groups := by
      have hgroups' : (flag.setRollout rollout).groups ≠ [] := hgroups
      rw [evaluate_of_groups hgroups', firstMatch_setRollout]
      rfl
    rw [hwalk, hwalk]

/-- **A rollout to everybody admits everybody.**  Every subject has a place in the unit interval: it is the
double nearest to the quotient of the number that the digest begins with and the largest such number.  A group
whose record gives no percentage, or one of at least a hundred, matches whenever its conditions hold, and a
simple flag without groups whose record does is on.  For nobody does it make a difference whether there is no
percentage or one of a hundred. -/
theorem full_rollout_admits_everybody (hhex : IsHex (digest (Bucket.source flag.key subject ""))) :
    (∃ place, Bucket.place digest flag.key subject "" = .ok place ∧
      Bucket.lead (digest (Bucket.source flag.key subject "")) ≤ Bucket.scale ∧
      place = .ofRatio false (Bucket.lead (digest (Bucket.source flag.key subject ""))) Bucket.scale ∧
      Binary64.IsNearest (Bucket.lead (digest (Bucket.source flag.key subject "")) / Bucket.scale) place) ∧
    (∀ v group properties, RuleGroup.ofJson v = .ok group → GivesFull (field "rollout_percentage" v) →
      allHold properties group.conditions = .ok true →
      flag.groupMatches digest subject properties group = .ok true) ∧
    (∀ data properties, Flag.ofJson data = .ok flag → flag.isSimple → flag.groups = [] →
      GivesFull (field "rollout_percentage" data) →
      flag.evaluate digest subject properties = .ok .on) ∧
    (∀ (group : RuleGroup) properties,
      flag.groupMatches digest subject properties { group with rollout := none } =
        flag.groupMatches digest subject properties { group with rollout := some (.ofInt 100) }) ∧
    ∀ properties, (flag.setRollout none).evaluate digest subject properties =
      (flag.setRollout (some (.ofInt 100))).evaluate digest subject properties := by
  obtain ⟨p, hp, hnonneg, hone⟩ := Bucket.exists_place_le_one hhex
  have hhundred : ∀ q ∈ some (Binary64.ofInt 100), (Binary64.ofInt 100).le q := by decide +kernel
  refine ⟨⟨_, Bucket.place_of_isHex hhex, Bucket.lead_le_scale hhex, rfl, ?_⟩, ?_, ?_, ?_, ?_⟩
  · exact Binary64.isNearest_ofRatio (by decide)
      ((Bucket.roundRank_lead_le hhex).trans_lt Binary64.oneRank_lt)
  · intro v group properties hread hfull hall
    have hgate := hundred_le_of_readAs (RuleGroup.readAs_of_ofJson hread) hfull
    rw [groupMatches_eq_true_iff_of_place hp]
    exact ⟨hall, (passes_of_hundred_le hnonneg hone hgate).1⟩
  · intro data properties hread hsimple hgroups hfull
    have hgate := hundred_le_of_readAs (readAs_of_ofJson hread) hfull
    rw [evaluate_simple_of_place hp hsimple hgroups, (passes_of_hundred_le hnonneg hone hgate).2]
  · intro group properties
    have hgate := (passes_of_hundred_le hnonneg hone hhundred).1
    rw [groupMatches_of_place hp, groupMatches_of_place hp]
    simp only [Option.all_none, hgate]
  · intro properties
    exact evaluate_setRollout_none

/-- With percentages that are no doubles at all, or missing, the subject at one is admitted. -/
theorem full_rollout_admits_place_one :
    let huge : Number := .int (10 ^ 400)
    let group : RuleGroup := { rollout := some huge.clampPercent }
    let data : Json := .obj [("key", .str "beta"), ("is_simple_flag", .bool true)]
    let flag := (simpleFlag huge).setRollout none
    Bucket.place largestDigest "beta" "user" "" = .ok .one ∧ RuleGroup.ofJson (gateRecord huge) = .ok group ∧
      flag.groupMatches largestDigest "user" [] group = .ok true ∧ Flag.ofJson data = .ok flag ∧
      flag.evaluate largestDigest "user" [] = .ok .on := by
  intro huge group data flag
  have hhex : IsHex (largestDigest (Bucket.source flag.key "user" "")) := isHex_largestDigest _
  have hread : RuleGroup.ofJson (gateRecord huge) = .ok group := rfl
  have hhuge : (Number.int 100).AtMost huge := by decide +kernel
  obtain ⟨-, hgroup, hsimple, -⟩ := full_rollout_admits_everybody hhex
  refine ⟨place_largestDigest _ _ _, hread, ?_, rfl, ?_⟩
  · exact hgroup (gateRecord huge) group [] hread (.number hhuge) rfl
  · exact hsimple data [] rfl rfl rfl .null

end Flag

end FeatureFlags
