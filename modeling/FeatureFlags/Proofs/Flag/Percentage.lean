import FeatureFlags.Proofs.Binary64.Magnitude
import FeatureFlags.Proofs.Flag.Grammar

/-!
# `Proofs.Flag.Percentage` — the percentages of flags that were read

Whatever number a record gives for a percentage, it is brought into the range from 0 to 100 when it is
read.  Only not-a-number stays as it is.  `Flag.clamped_of_ofJson` says so for all percentages of a flag:
its own, those of its groups and those of its variants.
-/

namespace FeatureFlags

/-! ## Numbers brought into the range -/

namespace Binary64

/-- A number from 0 to 100. -/
structure IsPercentage (p : Binary64) : Prop where
  isNonneg : p.IsNonneg
  rank_le : p.rank ≤ (ofInt 100).rank

theorem isPercentage_zero : zero.IsPercentage := ⟨isNonneg_zero, Nat.zero_le _⟩

theorem rank_ofInt (n : Int) : (ofInt n).rank = roundRank (n.natAbs * unitsPerOne) 1 := rfl

/-- What counts no more than a hundred is rounded to no more than a hundred. -/
theorem roundRank_le_hundred {n : Nat} (h : n ≤ 100 * unitsPerOne) :
    roundRank n 1 ≤ (ofInt 100).rank := by
  rw [rank_ofInt]
  exact roundRank_mono Nat.one_pos Nat.one_pos (Nat.mul_le_mul_right 1 h)

/-- A whole number of percent. -/
theorem isPercentage_ofInt {n : Int} (h0 : 0 ≤ n) (h100 : n ≤ 100) : (ofInt n).IsPercentage := by
  refine ⟨isNonneg_num.mpr fun hn => absurd (of_decide_eq_true hn) (by omega), ?_⟩
  rw [rank_ofInt]
  exact roundRank_le_hundred (Nat.mul_le_mul_right _ (by omega))

theorem compareInt?_of_finite {negative : Bool} {rank : Nat} {h : rank ≤ infRank} (hr : rank ≠ infRank)
    (n : Int) : (num negative rank h).compareInt? n =
      some (compare (signedUnits negative rank) (n * unitsPerOne)) := by
  simp only [compareInt?, if_neg hr, signedUnits]

/-- **What is brought into the range from 0 to 100 lies there**, unless it is not-a-number. -/
theorem clampPercent_spec (x : Binary64) : x.clampPercent = .nan ∨ x.clampPercent.IsPercentage := by
  unfold clampPercent
  split_ifs with hlt hgt
  · exact .inr isPercentage_zero
  · exact .inr (isPercentage_ofInt (by decide) (by decide))
  · cases x with
    | nan => exact .inl rfl
    | num negative rank h =>
        right
        by_cases hr : rank = infRank
        · -- infinities lie on one side or the other
          cases negative with
          | true => simp [compareInt?, hr] at hlt
          | false => simp [compareInt?, hr] at hgt
        · simp only [compareInt?_of_finite hr, Option.some.injEq, Int.compare_eq_lt, Int.compare_eq_gt]
            at hlt hgt
          have hnonneg : negative → rank = 0 := by
            rintro rfl
            have hunits : units rank ≤ units 0 := by
              simp only [signedUnits, if_true] at hlt
              simp only [units_zero]
              omega
            exact Nat.le_zero.mp (units_le_iff.mp hunits)
          refine ⟨isNonneg_num.mpr hnonneg, ?_⟩
          rw [signedUnits_of_nonneg hnonneg] at hgt
          exact (le_roundRank h (Nat.le_refl _)).trans (roundRank_le_hundred (by omega))

end Binary64

theorem Number.clampPercent_spec (n : Number) :
    n.clampPercent = .nan ∨ n.clampPercent.IsPercentage := by
  cases n with
  | int n => exact .inr (Binary64.isPercentage_ofInt (by omega) (by omega))
  | float x => exact x.clampPercent_spec

/-! ## Percentages of records -/

/-- A percentage as it is read: none, or a number that was brought into the range from 0 to 100. -/
inductive Clamped : Option Binary64 → Prop where
  | none : Clamped none
  | clamp (n : Number) : Clamped (some n.clampPercent)

theorem Clamped.isPercentage {rollout : Option Binary64} (h : Clamped rollout) {p : Binary64}
    (hp : p ∈ rollout) (hf : p.isFinite) : p.IsPercentage := by
  cases h with
  | none => cases hp
  | clamp n =>
      obtain rfl := Option.some.inj hp
      refine n.clampPercent_spec.resolve_left fun hnan => ?_
      rw [hnan] at hf
      cases hf

/-- All percentages of a flag are as they are read. -/
structure Flag.Clamped (flag : Flag) : Prop where
  rollout : FeatureFlags.Clamped flag.rollout
  groups : ∀ group ∈ flag.groups, FeatureFlags.Clamped group.rollout
  variants : ∀ variants, flag.variants = some variants →
    ∀ variant ∈ variants, FeatureFlags.Clamped variant.rollout

section

open Record

theorem clamped_of_said {m : Option Json} {rollout : Option Binary64}
    (h : Says none PercentageSays m rollout) : Clamped rollout := by
  cases h with
  | absent | null => exact .none
  | given h =>
      obtain ⟨n, _, rfl⟩ := h
      exact .clamp n

/-- What holds of all that a record may be, holds of all that a list of such records says. -/
theorem forall_of_said {α : Type} {D : Decode.Members → α → Prop} {P : α → Prop} {m : Option Json}
    {as : List α} (h : Says [] (ListSays fun v a => IsObject (D · a) v) m as)
    (hD : ∀ {members a}, D members a → P a) : ∀ a ∈ as, P a := by
  intro a ha
  cases h with
  | absent | null => cases ha
  | given h =>
      obtain ⟨items, -, hall⟩ := h
      obtain ⟨i, hi, rfl⟩ := List.getElem_of_mem ha
      obtain ⟨members, -, hdescribed⟩ := hall.get (hall.length_eq ▸ hi) hi
      exact hD hdescribed

theorem Filters.clamped_of_said {m : Option Json} {filters : Filters}
    (h : Says {} (fun v filters => IsObject (Filters.Described · filters) v) m filters) :
    (∀ group ∈ filters.groups, Clamped group.rollout) ∧
      ∀ variants, filters.variants = some variants → ∀ variant ∈ variants, Clamped variant.rollout := by
  cases h with
  | absent | null => exact ⟨by simp, by simp⟩
  | given h =>
      obtain ⟨members, -, hfilters⟩ := h
      refine ⟨forall_of_said hfilters.groups fun hg => FeatureFlags.clamped_of_said hg.rollout, ?_⟩
      intro variants hv
      -- the look-up is generalized, for `cases` to see that there are variants
      have hmaybe := hfilters.variants
      generalize members.lookup "multivariate" = m at hmaybe
      rw [hv] at hmaybe
      cases hmaybe with
      | given _ hrecord =>
          obtain ⟨members, -, hall⟩ := hrecord
          exact forall_of_said hall.variants fun h => FeatureFlags.clamped_of_said h.rollout

/-- **All percentages of a flag that was read lie between 0 and 100**, or are not-a-number. -/
theorem Flag.clamped_of_ofJson {data : Json} {flag : Flag} (h : Flag.ofJson data = .ok flag) :
    flag.Clamped := by
  obtain ⟨members, -, hflag⟩ := Flag.ofJson_eq_ok.mp h
  have hfilters := Filters.clamped_of_said hflag.filters
  exact ⟨clamped_of_said hflag.rollout, hfilters.1, hfilters.2⟩

end

end FeatureFlags
