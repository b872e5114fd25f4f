import FeatureFlags.Proofs.Evaluation.Rollout
import FeatureFlags.Proofs.Flag.Percentage

/-!
# `Proofs.Evaluation.Allocation` — who gets a variant of a fully allocated flag

The ranges of variants are laid out without gaps, so that a subject gets a variant exactly if its place
lies below the end of the last range (`exists_find?_layOut_iff`).  That end is a sum of hundredths, each of
them rounded, and rounded again when it is added; with percentages that add up to a hundred it lies at one
but for half a spacing for each rounding (`allocated_le_reach`).

Places go up to one, and one itself is the place of some digests.  So it is not all subjects that get a
variant of a fully allocated flag: `declared_unless_near_one` says who does, and that it is all of them
exactly if the rounded end lies above one.

## Contents

1. The unit interval
2. Ranges without gaps
3. The end of the ranges
4. Fully allocated flags
-/

namespace FeatureFlags

open Binary64 (oneRank roundingLoss)

/-! ## The unit interval -/

namespace Numeral

theorem digitValue_lt {c : Char} (hc : c ∈ hexDigits) : (digitValue? c).getD 0 < 16 := by
  obtain ⟨d, hd, hlt⟩ : ∃ d, digitValue? c = some d ∧ d < 16 := by
    simpa [isDigitIn, Option.any_eq_true] using (hexDigits_spec c hc).1
  rwa [hd]

/-- What digits denote has no more digits than there are. -/
theorem value_lt_pow {cs : List Char} (h : ∀ c ∈ cs, c ∈ hexDigits) : value 16 cs < 16 ^ cs.length := by
  -- the digits read so far are a number that the remaining ones are appended to
  suffices hfrom : ∀ n, cs.foldl (fun n c => 16 * n + (digitValue? c).getD 0) n < (n + 1) * 16 ^ cs.length by
    simpa [value] using hfrom 0
  induction cs with
  | nil => simp
  | cons c rest ih =>
      intro n
      have hdigit := digitValue_lt (h c (by simp))
      calc (c :: rest).foldl (fun n c => 16 * n + (digitValue? c).getD 0) n
          < (16 * n + (digitValue? c).getD 0 + 1) * 16 ^ rest.length := ih (fun d hd => h d (by simp [hd])) _
        _ ≤ (n + 1) * 16 * 16 ^ rest.length := Nat.mul_le_mul_right _ (by omega)
        _ = (n + 1) * 16 ^ (c :: rest).length := by rw [List.length_cons, Nat.pow_succ', Nat.mul_assoc]

end Numeral

namespace Bucket

variable {digest : Digest} {key subject salt : String}

/-- No digest begins with a number above the largest one. -/
theorem lead_le_scale {hex : String} (h : IsHex hex) : lead hex ≤ scale := by
  have htake : ∀ c ∈ hex.toList.take digits, c ∈ hexDigits := fun c hc => h.digits c (List.mem_of_mem_take hc)
  have hdigits : lead hex < 16 ^ (hex.toList.take digits).length := Numeral.value_lt_pow htake
  have hpow : 16 ^ (hex.toList.take digits).length ≤ 16 ^ digits :=
    Nat.pow_le_pow_right (by decide) (List.length_take_le _ _)
  have hscale : scale + 1 = 16 ^ digits := by decide
  omega

/-- No quotient is rounded to more than one. -/
theorem roundRank_lead_le {hex : String} (h : IsHex hex) :
    Binary64.roundRank (lead hex * Binary64.unitsPerOne) scale ≤ oneRank := by
  have hone : Binary64.roundRank (Binary64.units oneRank * scale) scale = oneRank :=
    Binary64.roundRank_units (by decide) Binary64.oneRank_lt.le
  rw [Binary64.units_oneRank] at hone
  -- the largest number of so many digits has the quotient one, and rounding keeps the order
  rw [← hone]
  refine Binary64.roundRank_mono (by decide) (by decide) ?_
  rw [Nat.mul_comm Binary64.unitsPerOne]
  exact Nat.mul_le_mul_right _ (Nat.mul_le_mul_right _ (lead_le_scale h))

/-- **Every subject has a place in the unit interval**, whose upper end belongs to it. -/
theorem exists_place_le_one (h : IsHex (digest (source key subject salt))) :
    ∃ p, place digest key subject salt = .ok p ∧ p.IsNonneg ∧ p.rank ≤ oneRank := by
  refine ⟨_, place_of_isHex h, Binary64.isNonneg_num.mpr (by simp), ?_⟩
  rw [Binary64.ofRatio, Binary64.rank_num]
  exact roundRank_lead_le h

end Bucket

/-! ## Ranges without gaps -/

namespace VariantRange

variable {low p : Binary64} {shares : List (String × Binary64)}

/-- The end of ranges of the given widths, laid out one after another. -/
def layOutEnd (low : Binary64) : List (String × Binary64) → Binary64
  | [] => low
  | (_, width) :: rest => layOutEnd (low.add width) rest

/-- There is one range for each share, in order. -/
theorem map_key_layOut (low : Binary64) (shares : List (String × Binary64)) :
    (layOut low shares).map (·.key) = shares.map (·.1) := by
  induction shares generalizing low with
  | nil => rfl
  | cons share rest ih => simp only [layOut, List.map_cons, ih]

theorem layOutEnd_spec (hlow : low.IsNonneg) (hw : ∀ share ∈ shares, share.2.IsNonneg) :
    (layOutEnd low shares).IsNonneg ∧ low.rank ≤ (layOutEnd low shares).rank := by
  induction shares generalizing low with
  | nil => exact ⟨hlow, Nat.le_refl _⟩
  | cons share rest ih =>
      have hshare := hw share (by simp)
      obtain ⟨hend, hle⟩ := ih (Binary64.add_share hlow hshare).1 fun s hs => hw s (by simp [hs])
      exact ⟨hend, (Binary64.rank_le_add_left hlow hshare).trans hle⟩

/-- **A place lies in one of the ranges exactly if it lies below their end.** -/
theorem exists_find?_layOut_iff (hlow : low.IsNonneg) (hp : p.IsNonneg)
    (hw : ∀ share ∈ shares, share.2.IsNonneg) (hle : low.rank ≤ p.rank) :
    (∃ r, (layOut low shares).find? (·.contains p) = some r) ↔ p.lt (layOutEnd low shares) := by
  induction shares generalizing low with
  | nil =>
      simp only [layOut, List.find?_nil, layOutEnd, Binary64.lt_iff_rank hp hlow]
      simpa using hle
  | cons share rest ih =>
      have hshare := hw share (by simp)
      have hrest : ∀ s ∈ rest, s.2.IsNonneg := fun s hs => hw s (by simp [hs])
      have hhigh := (Binary64.add_share hlow hshare).1
      have hge : low.le p := (Binary64.le_iff_rank hlow hp).mpr hle
      by_cases hin : p.lt (low.add share.2)
      · -- the ranges that follow end no earlier
        obtain ⟨hend, hmono⟩ := layOutEnd_spec hhigh hrest
        have hlt : p.lt (layOutEnd (low.add share.2) rest) :=
          (Binary64.lt_iff_rank hp hend).mpr
            (((Binary64.lt_iff_rank hp hhigh).mp hin).trans_le hmono)
        refine iff_of_true ⟨⟨share.1, low, low.add share.2⟩, ?_⟩ hlt
        simp [layOut, contains, hge, hin]
      · have hout : (layOut low (share :: rest)).find? (·.contains p) =
            (layOut (low.add share.2) rest).find? (·.contains p) := by
          simp [layOut, contains, hin]
        rw [hout]
        exact ih hhigh hrest (Nat.le_of_not_lt fun h => hin ((Binary64.lt_iff_rank hp hhigh).mpr h))

/-! ## The end of the ranges -/

/-- How far the ranges of variants reach. -/
def reach (variants : List Variant) : Binary64 :=
  layOutEnd .zero (variants.map fun v => (v.key, width v.rollout))

/-- What the percentages of variants add up to, exactly.  A variant without a percentage adds nothing. -/
def allocated (variants : List Variant) : ℚ := (variants.map fun v => (v.rollout.getD .zero).value).sum

/-- The percentages of variants, where there are any, lie between 0 and 100. -/
def ArePercentages (variants : List Variant) : Prop :=
  ∀ v ∈ variants, ∀ p ∈ v.rollout, p.IsPercentage

/-- The width of a variant is a share, which has lost little if it is less than one. -/
theorem width_spec {rollout : Option Binary64} (h : ∀ p ∈ rollout, p.IsPercentage) :
    (width rollout).IsNonneg ∧ ((width rollout).lt .one →
      (rollout.getD .zero).value / 100 ≤ (width rollout).value + roundingLoss) := by
  have hloss : 0 ≤ roundingLoss := by norm_num [roundingLoss]
  cases rollout with
  | none => exact ⟨Binary64.isNonneg_zero, fun _ => by simpa [width, Binary64.value_zero] using hloss⟩
  | some p =>
      have hp := h p rfl
      unfold width
      by_cases hz : p.isZero
      · have hvalue : p.value = 0 := Binary64.value_of_isZero hz
        simp only [hz, if_true]
        exact ⟨Binary64.isNonneg_zero, fun _ => by simpa [Binary64.value_zero, hvalue] using hloss⟩
      · simp only [hz]
        exact ⟨(Binary64.hundredth_share hp.isNonneg).1, Binary64.value_le_hundredth hp.isNonneg⟩

variable {variants : List Variant}

theorem isNonneg_of_arePercentages (h : ArePercentages variants) :
    ∀ share ∈ variants.map fun v => (v.key, width v.rollout), share.2.IsNonneg := by
  intro share hshare
  obtain ⟨v, hv, rfl⟩ := List.mem_map.mp hshare
  exact (width_spec (h v hv)).1

/-- Each variant loses at most twice, when its width is taken and when it is added. -/
theorem allocated_le_layOutEnd (hlow : low.IsNonneg) (h : ArePercentages variants)
    (hlt : (layOutEnd low (variants.map fun v => (v.key, width v.rollout))).lt .one) :
    low.value + allocated variants / 100 ≤
      (layOutEnd low (variants.map fun v => (v.key, width v.rollout))).value +
        2 * variants.length * roundingLoss := by
  induction variants generalizing low with
  | nil => simp [layOutEnd, allocated]
  | cons v rest ih =>
      obtain ⟨hwidth, hwidthLoss⟩ := width_spec (h v (by simp))
      have hrest : ArePercentages rest := fun w hw => h w (by simp [hw])
      have hhigh := (Binary64.add_share hlow hwidth).1
      -- the partial sums grow, so that they are all less than one
      obtain ⟨hend, hmono⟩ := layOutEnd_spec hhigh (isNonneg_of_arePercentages hrest)
      have hhighLt : (low.add (width v.rollout)).lt .one :=
        (Binary64.lt_iff_rank hhigh Binary64.isNonneg_one).mpr
          (hmono.trans_lt (Binary64.rank_lt_of_lt_one hend hlt))
      have hwidthLt : (width v.rollout).lt .one :=
        (Binary64.lt_iff_rank hwidth Binary64.isNonneg_one).mpr
          ((Binary64.rank_le_add_right hlow hwidth).trans_lt (Binary64.rank_lt_of_lt_one hhigh hhighLt))
      have hadd := Binary64.value_add_le hlow hwidth hhighLt
      have htail := ih hhigh hrest hlt
      have hexact : allocated (v :: rest) = (v.rollout.getD .zero).value + allocated rest := by
        simp [allocated]
      have hloss := hwidthLoss hwidthLt
      rw [hexact, List.map_cons, layOutEnd, List.length_cons, Nat.cast_succ]
      linarith

/-- **The ranges of a full allocation reach one, but for what rounding takes.** -/
theorem allocated_le_reach (h : ArePercentages variants) (hlt : (reach variants).lt .one) :
    allocated variants / 100 ≤ (reach variants).value + variants.length / 2 ^ 53 := by
  have hend := allocated_le_layOutEnd Binary64.isNonneg_zero h hlt
  rw [Binary64.value_zero, roundingLoss] at hend
  unfold reach
  linarith

theorem isNonneg_reach (h : ArePercentages variants) : (reach variants).IsNonneg :=
  (layOutEnd_spec Binary64.isNonneg_zero (isNonneg_of_arePercentages h)).1

/-- A place that lies beyond the ranges of a full allocation lies near one. -/
theorem near_one_of_not_lt (h : ArePercentages variants) (hsum : 100 ≤ allocated variants)
    (hp : p.IsNonneg) (hone : p.rank ≤ oneRank) (hbeyond : ¬ p.lt (reach variants)) :
    1 - variants.length / 2 ^ 53 ≤ p.value := by
  have hpr : p.rank < Binary64.infRank := hone.trans_lt Binary64.oneRank_lt
  have hreach := isNonneg_reach h
  by_cases hlt : (reach variants).lt .one
  · have hrr := (Binary64.rank_lt_of_lt_one hreach hlt).trans Binary64.oneRank_lt
    have hle : (reach variants).value ≤ p.value :=
      le_of_not_gt fun hgt => hbeyond ((Binary64.lt_iff_value hp hreach hpr hrr).mpr hgt)
    have hloss := allocated_le_reach h hlt
    linarith
  · have hnot : ¬ p.lt .one := fun hpone => hbeyond <| (Binary64.lt_iff_rank hp hreach).mpr <|
      (Binary64.rank_lt_of_lt_one hp hpone).trans_le (Binary64.oneRank_le_of_not_lt hreach hlt)
    have hle : (1 : ℚ) ≤ p.value := by
      rw [← Binary64.value_one]
      exact le_of_not_gt fun hgt =>
        hnot ((Binary64.lt_iff_value hp Binary64.isNonneg_one hpr Binary64.oneRank_lt).mpr hgt)
    have hnonneg : (0 : ℚ) ≤ variants.length / 2 ^ 53 := div_nonneg (Nat.cast_nonneg _) (by norm_num)
    linarith

end VariantRange

/-! ## Fully allocated flags -/

namespace Flag

open VariantRange

variable {data : Json} {flag : Flag} {variants : List Variant} {digest : Digest} {subject : String}

/-- The value is one of the variants. -/
def IsOneOf (variants : List Variant) (value : FlagValue) : Prop := ∃ v ∈ variants, value = .variant v.key

/-- A flag that was read from a record, with finite percentages that add up to a hundred or more. -/
structure FullyAllocated (data : Json) (flag : Flag) (variants : List Variant) : Prop where
  read : Flag.ofJson data = .ok flag
  variants_eq : flag.variants = some variants
  finite : ∀ v ∈ variants, ∀ p ∈ v.rollout, p.isFinite
  sum : 100 ≤ allocated variants

theorem FullyAllocated.arePercentages (h : FullyAllocated data flag variants) : ArePercentages variants :=
  fun v hmem p hp =>
    ((Flag.clamped_of_ofJson h.read).variants variants h.variants_eq v hmem).isPercentage hp
      (h.finite v hmem p hp)

/-- **A subject gets a variant exactly if its place lies below the end of the ranges.** -/
theorem resolveVariant_of_arePercentages (h : ArePercentages variants) (hv : flag.variants = some variants)
    {place : Binary64} (hp : place.IsNonneg)
    (hplace : Bucket.place digest flag.key subject salt = .ok place) :
    ∃ resolved, flag.resolveVariant digest subject = .ok resolved ∧
      (place.lt (reach variants) → IsOneOf variants resolved) ∧
      (¬ place.lt (reach variants) → resolved = .on) := by
  have hfind := exists_find?_layOut_iff Binary64.isNonneg_zero hp (isNonneg_of_arePercentages h)
    (Nat.zero_le _)
  refine ⟨_, resolveVariant_of_place hplace, ?_⟩
  rw [hv, Option.getD_some]
  show (place.lt (layOutEnd .zero _) → _) ∧ (¬ place.lt (layOutEnd .zero _) → _)
  rw [← hfind]
  cases hr : (table variants).find? (·.contains place) with
  | none =>
      refine ⟨fun ⟨r, hsome⟩ => ?_, fun _ => rfl⟩
      exact absurd (hr.symm.trans hsome) (by simp)
  | some r =>
      refine ⟨fun _ => ?_, fun hnot => absurd ⟨r, hr⟩ hnot⟩
      have hkey : r.key ∈ (table variants).map (·.key) :=
        List.mem_map.mpr ⟨r, List.mem_of_find?_eq_some hr, rfl⟩
      rw [table, map_key_layOut] at hkey
      obtain ⟨share, hshare, hkey⟩ := List.mem_map.mp hkey
      obtain ⟨v, hmem, rfl⟩ := List.mem_map.mp hshare
      exact ⟨v, hmem, congrArg FlagValue.variant hkey.symm⟩

/-- The digest whose digits are all the largest. -/
def largestDigest : Digest := fun _ => "ffffffffffffffffffffffffffffffffffffffff"

theorem isHex_largestDigest (text : String) : IsHex (largestDigest text) := by
  show IsHex "ffffffffffffffffffffffffffffffffffffffff"
  decide +kernel

/-- **The upper end of the unit interval is the place of a subject** with the largest digest. -/
theorem place_largestDigest (key subject salt : String) :
    Bucket.place largestDigest key subject salt = .ok .one := by
  have hone : Binary64.ofRatio false (Bucket.lead (largestDigest "")) Bucket.scale = .one := by
    decide +kernel
  rw [Bucket.place_of_isHex (isHex_largestDigest _), ← hone]
  rfl

/-- **Of a fully allocated flag everyone gets a variant, but for those whose place lies near one.**  A
subject gets one of the variants if its place lies below the rounded end of the ranges, and is just *on*
otherwise; then its place is no more than one spacing per variant away from one.  There are no such
subjects exactly if the rounded end lies above one. -/
theorem declared_unless_near_one (h : FullyAllocated data flag variants) :
    (∀ digest subject, IsHex (digest (Bucket.source flag.key subject salt)) → ∃ place resolved,
      Bucket.place digest flag.key subject salt = .ok place ∧
        flag.resolveVariant digest subject = .ok resolved ∧
        (∀ properties value, flag.matchGroups digest subject properties = .ok value →
          value = .off ∨ value = resolved) ∧
        (place.lt (reach variants) → IsOneOf variants resolved) ∧
        (¬ place.lt (reach variants) →
          resolved = .on ∧ 1 - variants.length / 2 ^ 53 ≤ place.value)) ∧
    ((∀ digest subject, (∀ text, IsHex (digest text)) →
        ∃ resolved, flag.resolveVariant digest subject = .ok resolved ∧ IsOneOf variants resolved) ↔
      Binary64.one.lt (reach variants)) := by
  have hshares := h.arePercentages
  have hv := h.variants_eq
  constructor
  · intro digest subject hhex
    obtain ⟨place, hplace, hnonneg, hone⟩ := Bucket.exists_place_le_one hhex
    obtain ⟨resolved, hresolved, hbelow, hbeyond⟩ :=
      resolveVariant_of_arePercentages hshares hv hnonneg hplace
    have hmatched : flag.matchedValue digest subject = .ok resolved := by rw [matchedValue, hv, hresolved]
    exact ⟨place, resolved, hplace, hresolved, fun _ _ h => firstMatch_eq_ok hmatched h, hbelow,
      fun hnot => ⟨hbeyond hnot, near_one_of_not_lt hshares h.sum hnonneg hone hnot⟩⟩
  · constructor
    · -- the subject whose place is one would be left out otherwise
      intro hall
      obtain ⟨resolved, hresolved, v, -, rfl⟩ := hall largestDigest "" isHex_largestDigest
      obtain ⟨resolved', hresolved', -, hbeyond⟩ := resolveVariant_of_arePercentages hshares hv
        Binary64.isNonneg_one (place_largestDigest flag.key "" salt)
      by_contra hnot
      cases (hresolved.symm.trans hresolved').trans (congrArg Except.ok (hbeyond hnot))
    · intro habove digest subject hhex
      obtain ⟨place, hplace, hnonneg, hone⟩ := Bucket.exists_place_le_one (hhex _)
      obtain ⟨resolved, hresolved, hbelow, -⟩ :=
        resolveVariant_of_arePercentages hshares hv hnonneg hplace
      have hreach := (Binary64.lt_iff_rank Binary64.isNonneg_one (isNonneg_reach hshares)).mp habove
      exact ⟨resolved, hresolved, hbelow <|
        (Binary64.lt_iff_rank hnonneg (isNonneg_reach hshares)).mpr (hone.trans_lt hreach)⟩

/-- The record of a flag with variants of the same percentage. -/
def evenSplit (keys : List String) (percentage : Int) : Json :=
  .obj [("key", .str "split"), ("filters", .obj [("multivariate", .obj [("variants",
    .arr (keys.map fun key => .obj [("key", .str key), ("rollout_percentage", .int percentage)]))])])]

/-- The variants that such a record is read as. -/
def evenVariants (keys : List String) (percentage : Int) : List Variant :=
  keys.map fun key => { key, rollout := some (.ofInt percentage) }

/-- The flag that such a record is read as. -/
def evenFlag (keys : List String) (percentage : Int) : Flag where
  key := "split"
  active := false
  filters := { variants := some (evenVariants keys percentage) }

theorem fullyAllocated_evenSplit {keys : List String} {percentage : Int}
    (hread : Flag.ofJson (evenSplit keys percentage) = .ok (evenFlag keys percentage))
    (hfinite : (Binary64.ofInt percentage).isFinite) (hsum : 100 ≤ allocated (evenVariants keys percentage)) :
    FullyAllocated (evenSplit keys percentage) (evenFlag keys percentage) (evenVariants keys percentage) where
  read := hread
  variants_eq := rfl
  finite := by
    intro v hv p hp
    obtain ⟨key, -, rfl⟩ := List.mem_map.mp hv
    obtain rfl := Option.some.inj hp
    exact hfinite
  sum := hsum

/-- With two halves a subject in the middle gets one of them, but not everyone does. -/
theorem halves_declared_unless_near_one :
    let digest : Digest := fun _ => "8000000000000000000000000000000000000000"
    let variants := evenVariants ["a", "b"] 50
    FullyAllocated (evenSplit ["a", "b"] 50) (evenFlag ["a", "b"] 50) variants ∧
      (∃ resolved, (evenFlag ["a", "b"] 50).resolveVariant digest "user" = .ok resolved ∧
        IsOneOf variants resolved) ∧
      ¬ ∀ digest subject, (∀ text, IsHex (digest text)) →
        ∃ resolved, (evenFlag ["a", "b"] 50).resolveVariant digest subject = .ok resolved ∧
          IsOneOf variants resolved := by
  intro digest variants
  have hfull : FullyAllocated (evenSplit ["a", "b"] 50) (evenFlag ["a", "b"] 50) variants :=
    fullyAllocated_evenSplit rfl (by decide +kernel) (by decide +kernel)
  have hhex (text : String) : IsHex (digest text) := by
    show IsHex "8000000000000000000000000000000000000000"
    decide +kernel
  have hmiddle : (Binary64.ofRatio false (Bucket.lead (digest "")) Bucket.scale).lt (reach variants) := by
    decide +kernel
  have hone : ¬ Binary64.one.lt (reach variants) := by decide +kernel
  have hsource := hhex (Bucket.source (evenFlag ["a", "b"] 50).key "user" salt)
  obtain ⟨hsubjects, heveryone⟩ := declared_unless_near_one hfull
  obtain ⟨place, resolved, hplace, hresolved, -, hbelow, -⟩ := hsubjects digest "user" hsource
  obtain rfl := Except.ok.inj ((Bucket.place_of_isHex hsource).symm.trans hplace)
  exact ⟨hfull, ⟨resolved, hresolved, hbelow hmiddle⟩, fun hall => hone (heveryone.mp hall)⟩

/-- **Not everyone gets a variant of a fully allocated flag.**  With a single variant this is so for the
place one.  With ten variants the rounded end lies below one, so that it is so for a place below one, too. -/
theorem full_allocation_leaves_some_out :
    let keys := ["a", "b", "c", "d", "e", "f", "g", "h", "i", "j"]
    let nearOne : Digest := fun _ => "fffffffffffff800000000000000000000000000"
    (FullyAllocated (evenSplit ["a"] 100) (evenFlag ["a"] 100) (evenVariants ["a"] 100) ∧
      (∀ text, IsHex (largestDigest text)) ∧
        (evenFlag ["a"] 100).resolveVariant largestDigest "user" = .ok .on) ∧
    (FullyAllocated (evenSplit keys 10) (evenFlag keys 10) (evenVariants keys 10) ∧
      (∀ text, IsHex (nearOne text)) ∧ ∃ place, Bucket.place nearOne "split" "user" salt = .ok place ∧
        place.lt .one ∧ (evenFlag keys 10).resolveVariant nearOne "user" = .ok .on) := by
  intro keys nearOne
  have hhex (text : String) : IsHex (nearOne text) := by
    show IsHex "fffffffffffff800000000000000000000000000"
    decide +kernel
  have hlt : (Binary64.ofRatio false (Bucket.lead (nearOne "")) Bucket.scale).lt .one := by
    decide +kernel
  have hbeyond : (table (evenVariants keys 10)).find?
      (·.contains (Binary64.ofRatio false (Bucket.lead (nearOne "")) Bucket.scale)) = none := by
    rw [List.find?_eq_none]
    decide +kernel
  have hbeyondOne : (table (evenVariants ["a"] 100)).find? (·.contains .one) = none := by
    rw [List.find?_eq_none]
    decide +kernel
  have hplace := Bucket.place_of_isHex (hhex (Bucket.source (evenFlag keys 10).key "user" salt))
  refine ⟨⟨fullyAllocated_evenSplit rfl (by decide +kernel) (by decide +kernel), isHex_largestDigest, ?_⟩,
    fullyAllocated_evenSplit rfl (by decide +kernel) (by decide +kernel), hhex, _, hplace, hlt, ?_⟩
  · rw [resolveVariant_of_place (place_largestDigest _ _ _), evenFlag, Option.getD_some, hbeyondOne]
  · rw [resolveVariant_of_place hplace, evenFlag, Option.getD_some, hbeyond]

end Flag

end FeatureFlags
