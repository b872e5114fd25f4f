import FeatureFlags.Proofs.Evaluation.Partition

/-!
# `Proofs.Evaluation.Stability` — edits of variants that leave subjects where they are

Each range starts where the one before it ends, so that a range depends on the variants up to its own and
on none after it (`take_layOut`).  A subject that lies in one of the first ranges therefore keeps its variant
whatever is done to the variants behind.

A variant without subjects takes the range from where it starts to the same point, and the ranges behind it
stay where they are.  For this the end must not change when zero is added to it: of all doubles, only
negative zero does (`add_zero`), and a running sum that starts at zero never comes to it
(`add_ne_neg_zero`).

Percentages are any doubles here, infinities and not-a-number included.

## Contents

1. Sums with zero
2. Ranges of the first variants
3. Variants without subjects
4. The theorem
-/

namespace FeatureFlags

/-! ## Sums with zero -/

namespace Binary64

variable {x y : Binary64}

theorem signedUnits_eq_zero {negative : Bool} {rank : Nat} : signedUnits negative rank = 0 ↔ rank = 0 := by
  have hunits : units rank = 0 ↔ rank = 0 := by
    rw [← units_strictMono.injective.eq_iff (a := rank), units_zero]
  cases negative <;> simp [signedUnits, hunits]

/-- The value of a place is rounded to that place, and keeps its sign unless it is zero. -/
theorem ofSignedUnits_signedUnits {negative : Bool} {rank : Nat} (h : rank ≤ infRank) (hr : rank ≠ 0) :
    ofSignedUnits (signedUnits negative rank) = num negative rank h := by
  have hround : roundRank (units rank * 1) 1 = rank := roundRank_units Nat.one_pos h
  rw [Nat.mul_one] at hround
  have hpos : 0 < units rank := units_zero ▸ units_lt_iff.mpr (Nat.pos_of_ne_zero hr)
  cases negative with
  | false =>
      simp only [ofSignedUnits, signedUnits, Bool.false_eq_true, if_false, Int.natAbs_natCast, hround]
      exact congrArg (num · rank h) (decide_eq_false (by omega))
  | true =>
      simp only [ofSignedUnits, signedUnits, if_true, Int.natAbs_neg, Int.natAbs_natCast, hround]
      exact congrArg (num · rank h) (decide_eq_true (by omega))

/-- **To add zero changes nothing**, but for negative zero. -/
theorem add_zero (hx : x ≠ zero.neg) : x.add zero = x := by
  cases x with
  | nan => rfl
  | num negative rank h =>
      have hzero : (0 : Nat) ≠ infRank := by decide
      by_cases hinf : rank = infRank
      · simp [add, zero, hinf, hzero]
      · have hsum : signedUnits negative rank + signedUnits false 0 = signedUnits negative rank := by
          rw [signedUnits_eq_zero.mpr rfl, Int.add_zero]
        simp only [add, zero, hinf, hzero, if_false, hsum, signedUnits_eq_zero, Bool.and_false]
        by_cases hr : rank = 0
        · subst hr
          cases negative with
          | false => rfl
          | true => exact absurd rfl hx
        · rw [if_neg hr, ofSignedUnits_signedUnits h hr]

/-- What is not zero is not rounded to zero. -/
theorem ofSignedUnits_ne_neg_zero {n : Int} (hn : n ≠ 0) : ofSignedUnits n ≠ zero.neg := by
  have hone : units 1 ≤ n.natAbs := by
    have : units 1 = 1 := by decide
    omega
  have hrank : 1 ≤ roundRank n.natAbs 1 := le_roundRank (by decide) hone
  intro h
  have hzero : roundRank n.natAbs 1 = 0 := congrArg rank h
  omega

/-- A sum is negative zero only if both terms are. -/
theorem add_ne_neg_zero (hx : x ≠ zero.neg) : x.add y ≠ zero.neg := by
  cases x with
  | nan => simp [add, zero, neg]
  | num s a ha =>
      cases y with
      | nan => simp [add, zero, neg]
      | num t b hb =>
          have hinf : infRank ≠ 0 := by decide
          simp only [add]
          split_ifs with hai hboth hbi hsum
          · simp [zero, neg]
          · simp [zero, neg, hai, hinf]
          · simp [zero, neg, hbi, hinf]
          · -- the exact sum is zero; if both terms are negative, they are zero themselves
            intro h
            obtain ⟨rfl, rfl⟩ : s = true ∧ t = true := by simpa [zero, neg] using h
            have ha0 : signedUnits true a = 0 := by
              simp only [signedUnits, if_true] at hsum ⊢
              omega
            obtain rfl := signedUnits_eq_zero.mp ha0
            exact hx rfl
          · exact ofSignedUnits_ne_neg_zero hsum

end Binary64

/-! ## Ranges of the first variants -/

namespace VariantRange

variable {low place : Binary64} {xs ys : List Variant} {n : Nat} {r : VariantRange}

/-- A range that is found contains the place. -/
theorem contains_of_find? {ranges : List VariantRange} (h : ranges.find? (·.contains place) = some r) :
    r.contains place :=
  List.find?_some (p := fun r : VariantRange => r.contains place) h

theorem length_table (xs : List Variant) : (table xs).length = xs.length := by
  have hkeys := congrArg List.length (map_key_layOut .zero (xs.map fun v => (v.key, width v.rollout)))
  simpa [table] using hkeys

/-- The first ranges are those of the first shares. -/
theorem take_layOut (low : Binary64) (shares : List (String × Binary64)) (n : Nat) :
    (layOut low shares).take n = layOut low (shares.take n) := by
  induction shares generalizing low n with
  | nil => simp [layOut]
  | cons share rest ih =>
      cases n with
      | zero => rfl
      | succ n => simp only [layOut, List.take_succ_cons, ih]

/-- Two lists of variants whose first variants have the same keys and percentages. -/
def AgreeUpTo (n : Nat) (xs ys : List Variant) : Prop :=
  (xs.take n).map (fun v => (v.key, v.rollout)) = (ys.take n).map fun v => (v.key, v.rollout)

theorem agreeUpTo_append (xs ys : List Variant) : AgreeUpTo xs.length xs (xs ++ ys) := by
  rw [AgreeUpTo, List.take_length, List.take_left']
  rfl

/-- **Variants that agree up to some point have the same ranges up to there.** -/
theorem AgreeUpTo.take_table (h : AgreeUpTo n xs ys) : (table xs).take n = (table ys).take n := by
  have hshares : (xs.take n).map (fun v => (v.key, width v.rollout)) =
      (ys.take n).map fun v => (v.key, width v.rollout) := by
    have hwidths := congrArg (List.map fun (key, rollout) => (key, width rollout)) h
    simpa [List.map_map, Function.comp_def] using hwidths
  rw [table, table, take_layOut, take_layOut, ← List.map_take, ← List.map_take, hshares]

/-- A place that is found in the first ranges of a table is found there whatever the ranges behind. -/
theorem find?_of_take (hr : ((table xs).take n).find? (·.contains place) = some r) :
    (table xs).find? (·.contains place) = some r := by
  rw [← List.take_append_drop n (table xs), List.find?_append, hr, Option.some_or]

theorem AgreeUpTo.find?_table (h : AgreeUpTo n xs ys) (hin : ∃ r ∈ (table xs).take n, r.contains place) :
    ∃ r ∈ (table xs).take n, (table xs).find? (·.contains place) = some r ∧
      (table ys).find? (·.contains place) = some r := by
  obtain ⟨r, hr⟩ := Option.isSome_iff_exists.mp (List.find?_isSome.mpr hin)
  exact ⟨r, List.mem_of_find?_eq_some hr, find?_of_take hr, find?_of_take (h.take_table ▸ hr)⟩

/-! ## Variants without subjects -/

/-- A variant without a percentage, or with zero of either sign, has no subjects. -/
def IsVoid (v : Variant) : Prop := ∀ p ∈ v.rollout, p.isZero

/-- Variants without subjects are inserted into a list, at any places. -/
inductive Padded : List Variant → List Variant → Prop where
  | nil : Padded [] []
  | kept (v : Variant) {xs ys : List Variant} (rest : Padded xs ys) : Padded (v :: xs) (v :: ys)
  | inserted {v : Variant} (h : IsVoid v) {xs ys : List Variant} (rest : Padded xs ys) :
      Padded xs (v :: ys)

/-- A range that ends where it starts is empty, wherever that is. -/
theorem not_contains_self {key : String} : ¬ (⟨key, low, low⟩ : VariantRange).contains place := by
  intro hin
  obtain ⟨hlow, hhigh⟩ := contains_iff.mp hin
  exact Binary64.not_lt_of_le hlow hhigh

/-- **Variants without subjects move nobody.** -/
theorem Padded.find?_layOut (h : Padded xs ys) (hlow : low ≠ Binary64.zero.neg) :
    (layOut low (ys.map fun v => (v.key, width v.rollout))).find? (·.contains place) =
      (layOut low (xs.map fun v => (v.key, width v.rollout))).find? (·.contains place) := by
  induction h generalizing low with
  | nil => rfl
  | kept v _ ih => simp only [List.map_cons, layOut, List.find?_cons, ih (Binary64.add_ne_neg_zero hlow)]
  | @inserted v hvoid xs ys _ ih =>
      rw [List.map_cons, width_of_isZero hvoid, layOut, Binary64.add_zero hlow]
      refine Eq.trans (List.find?_cons_of_neg ?_) (ih hlow)
      exact not_contains_self

theorem Padded.find?_table (h : Padded xs ys) :
    (table ys).find? (·.contains place) = (table xs).find? (·.contains place) :=
  h.find?_layOut (by decide)

end VariantRange

/-! ## The theorem -/

namespace Flag

open VariantRange

variable {flag : Flag} {digest : Digest} {subject : String} {place : Binary64}

/-- The flag with other variants. -/
def setVariants (flag : Flag) (variants : List Variant) : Flag :=
  { flag with filters := { flag.filters with variants := some variants } }

/-- The variant of a subject is that of the first range which contains its place. -/
theorem resolveVariant_setVariants (hplace : Bucket.place digest flag.key subject salt = .ok place)
    (variants : List Variant) : (flag.setVariants variants).resolveVariant digest subject =
      .ok (((table variants).find? (·.contains place)).elim .on fun r => .variant r.key) := by
  have hkey : Bucket.place digest (flag.setVariants variants).key subject salt = .ok place := hplace
  have hvariants : (flag.setVariants variants).variants.getD [] = variants := rfl
  rw [resolveVariant_of_place hkey, hvariants]
  cases (table variants).find? (·.contains place) <;> rfl

/-- A subject has a variant because its place lies in a range. -/
theorem exists_of_resolveVariant {xs : List Variant} {key : String}
    (hplace : Bucket.place digest flag.key subject salt = .ok place)
    (h : (flag.setVariants xs).resolveVariant digest subject = .ok (.variant key)) :
    ∃ r ∈ table xs, r.contains place := by
  rw [resolveVariant_setVariants hplace] at h
  cases hr : (table xs).find? (·.contains place) with
  | none => rw [hr] at h; cases h
  | some r =>
      exact ⟨r, List.mem_of_find?_eq_some hr, contains_of_find? hr⟩

/-- Whoever lies in one of the first ranges has its variant, and so under every other list that agrees. -/
theorem resolveVariant_of_agree {n : Nat} {xs ys : List Variant}
    (hplace : Bucket.place digest flag.key subject salt = .ok place) (h : AgreeUpTo n xs ys)
    (hin : ∃ r ∈ (table xs).take n, r.contains place) : ∃ r ∈ (table xs).take n, r.contains place ∧
      (flag.setVariants xs).resolveVariant digest subject = .ok (.variant r.key) ∧
      (flag.setVariants ys).resolveVariant digest subject = .ok (.variant r.key) := by
  obtain ⟨r, hr, hxs, hys⟩ := h.find?_table hin
  refine ⟨r, hr, contains_of_find? hxs, ?_, ?_⟩
  · rw [resolveVariant_setVariants hplace, hxs, Option.elim_some]
  · rw [resolveVariant_setVariants hplace, hys, Option.elim_some]

/-- **The variant of a subject is stable under edits that should not matter.**  Let a subject have a place
under a flag, and take any variants, with any percentages.

Whoever has a variant keeps it when others are appended.  If two lists agree in the keys and percentages of
their first variants, whoever lies in one of the ranges of these has the same variant under both.  And where
variants without a percentage, or with zero, are inserted anywhere, everybody has the same value as
before. -/
theorem assignment_is_stable (hhex : IsHex (digest (Bucket.source flag.key subject salt))) :
    ∃ place, Bucket.place digest flag.key subject salt = .ok place ∧
      (∀ xs ys key, (flag.setVariants xs).resolveVariant digest subject = .ok (.variant key) →
        (flag.setVariants (xs ++ ys)).resolveVariant digest subject = .ok (.variant key)) ∧
      (∀ n xs ys, AgreeUpTo n xs ys → (∃ r ∈ (table xs).take n, r.contains place) →
        ∃ r ∈ (table xs).take n, r.contains place ∧
          (flag.setVariants xs).resolveVariant digest subject = .ok (.variant r.key) ∧
          (flag.setVariants ys).resolveVariant digest subject = .ok (.variant r.key)) ∧
      ∀ xs ys, Padded xs ys →
        (flag.setVariants ys).resolveVariant digest subject =
          (flag.setVariants xs).resolveVariant digest subject := by
  have hplace := Bucket.place_of_isHex hhex
  refine ⟨_, hplace, fun xs ys key hkey => ?_, fun n xs ys h => resolveVariant_of_agree hplace h,
    fun xs ys h => ?_⟩
  · -- a list agrees with every list that it begins, on all its variants
    have hin := exists_of_resolveVariant hplace hkey
    rw [← List.take_length (l := table xs), length_table] at hin
    obtain ⟨r, -, -, hxs, hys⟩ := resolveVariant_of_agree hplace (agreeUpTo_append xs ys) hin
    rw [hys, ← hxs, hkey]
  · rw [resolveVariant_setVariants hplace, resolveVariant_setVariants hplace, h.find?_table]

/-- The subject in the middle keeps the second half when variants without subjects are inserted before it,
and one whose percentage is not-a-number is appended. -/
theorem middle_keeps_second_half :
    let digest : Digest := fun _ => "8000000000000000000000000000000000000000"
    let flag : Flag := { key := "split" }
    let control : Variant := { key := "control", rollout := some (.ofInt 50) }
    let test : Variant := { key := "test", rollout := some (.ofInt 50) }
    let padded : List Variant := [{ key := "draft" }, control,
      { key := "retired", rollout := some .zero }, { key := "gone", rollout := some Binary64.zero.neg }, test]
    IsHex (digest (Bucket.source flag.key "user" salt)) ∧ Padded [control, test] padded ∧
      (flag.setVariants [control, test]).resolveVariant digest "user" = .ok (.variant "test") ∧
      (flag.setVariants padded).resolveVariant digest "user" = .ok (.variant "test") ∧
      (flag.setVariants (padded ++ [{ key := "broken", rollout := some .nan }])).resolveVariant digest
        "user" = .ok (.variant "test") := by
  intro digest flag control test padded
  have hhex : IsHex (digest (Bucket.source flag.key "user" salt)) := by
    show IsHex "8000000000000000000000000000000000000000"
    decide +kernel
  have hzero (key : String) (negative : Bool) :
      IsVoid { key, rollout := some (.num negative 0 (Nat.zero_le _)) } := by
    rintro p ⟨⟩
    rfl
  have hpadded : Padded [control, test] padded :=
    .inserted (by simp [IsVoid])
      (.kept _ (.inserted (hzero _ false) (.inserted (hzero _ true) (.kept _ .nil))))
  have hfirst : (flag.setVariants [control, test]).resolveVariant digest "user" = .ok (.variant "test") := by
    rw [resolveVariant_setVariants (Bucket.place_of_isHex hhex)]
    refine congrArg Except.ok ?_
    decide +kernel
  obtain ⟨-, -, happended, -, hinserted⟩ := assignment_is_stable hhex
  have hsecond := (hinserted _ _ hpadded).trans hfirst
  exact ⟨hhex, hpadded, hfirst, hsecond, happended _ _ _ hsecond⟩

end Flag

end FeatureFlags
