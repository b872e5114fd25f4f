import FeatureFlags.Proofs.Evaluation.Partition
import FeatureFlags.Proofs.Json.Exact

/-!
# `Proofs.Flag.Clamping` — which percentage is read for which number

A percentage that is read is the nearest number from 0 to 100 to the one that was sent, by exact value: an
integer of any size, a double and an infinity are brought into the range before anything is rounded.  What
is sent as not-a-number is read as not-a-number, which lies in no range.

`Flag.percentages_are_clamped_unless_nan` says this of all percentages of a record at once: its own, those
of its groups and those of its variants.

## Contents

1. The range
2. Numbers brought into the range
3. Percentages of a record
4. The theorem
-/

namespace FeatureFlags

/-! ## The range -/

/-- A value brought into the range from 0 to 100. -/
def Extended.clamp (a : Extended) : Extended := min (max a (.ofInt 0)) (.ofInt 100)

namespace Extended

variable {a b : Extended}

theorem zero_le_hundred : ofInt 0 ≤ ofInt 100 := ofInt_strictMono.monotone (by decide)

theorem zero_le_clamp (a : Extended) : ofInt 0 ≤ a.clamp := le_min (le_max_right _ _) zero_le_hundred

theorem clamp_le_hundred (a : Extended) : a.clamp ≤ ofInt 100 := min_le_right _ _

theorem clamp_mono (h : a ≤ b) : a.clamp ≤ b.clamp := min_le_min (max_le_max h le_rfl) le_rfl

theorem clamp_of_le_zero (h : a ≤ ofInt 0) : a.clamp = ofInt 0 := by
  rw [clamp, max_eq_right h, min_eq_left zero_le_hundred]

theorem clamp_of_hundred_le (h : ofInt 100 ≤ a) : a.clamp = ofInt 100 :=
  min_eq_right (h.trans (le_max_left _ _))

theorem clamp_of_mem (h0 : ofInt 0 ≤ a) (h100 : a ≤ ofInt 100) : a.clamp = a := by
  rw [clamp, max_eq_left h0, min_eq_left h100]

/-- An integer is brought into the range as an integer. -/
theorem clamp_ofInt (n : Int) : (ofInt n).clamp = ofInt (min (max n 0) 100) := by
  rw [ofInt_strictMono.monotone.map_min, ofInt_strictMono.monotone.map_max, clamp]

end Extended

/-! ## Numbers brought into the range -/

namespace Binary64

variable {x y : Binary64} {a : Extended}

/-- Doubles are ordered by exact value. -/
theorem le_iff_exact : x.le y ↔ ∃ a b, x.exactValue? = some a ∧ y.exactValue? = some b ∧ a ≤ b := by
  simp only [le, Bool.or_eq_true, beq_iff_eq, compare?_eq_some_iff, le_iff_lt_or_eq]
  constructor
  · rintro (⟨a, b, ha, hb, h⟩ | ⟨a, b, ha, hb, h⟩)
    · exact ⟨a, b, ha, hb, .inl h⟩
    · exact ⟨a, b, ha, hb, .inr h⟩
  · rintro ⟨a, b, ha, hb, h | h⟩
    · exact .inl ⟨a, b, ha, hb, h⟩
    · exact .inr ⟨a, b, ha, hb, h⟩

theorem exactValue?_eq_none : x.exactValue? = none ↔ x = nan := by
  cases x <;> simp [exactValue?, place?]

/-- A whole number of percent is a double. -/
theorem exactValue?_ofInt {n : Int} (h0 : 0 ≤ n) (h100 : n ≤ 100) :
    (ofInt n).exactValue? = some (.ofInt n) := by
  have hall : ∀ k : Fin 101, (ofInt k.val).compareInt? k.val = some .eq := by decide +kernel
  have hn : (n.toNat : Int) = n := Int.toNat_of_nonneg h0
  have hequal : (ofInt n).compareInt? n = some .eq := hn ▸ hall ⟨n.toNat, by omega⟩
  obtain ⟨a, ha, rfl⟩ := compareInt?_eq_some_iff.mp hequal
  exact ha

/-- **A double is brought into the range by exact value.** -/
theorem exactValue?_clampPercent (h : x.exactValue? = some a) :
    x.clampPercent.exactValue? = some a.clamp := by
  have hcompare {n : Int} {o : Ordering} : x.compareInt? n = some o ↔ o.Compares a (.ofInt n) := by
    rw [compareInt?_eq_some_iff, h]
    simp
  unfold clampPercent
  split_ifs with hlt hgt
  · have hlt : a < .ofInt 0 := hcompare.mp hlt
    rw [Extended.clamp_of_le_zero hlt.le]
    exact exactValue?_ofInt (n := 0) (by decide) (by decide)
  · have hgt : .ofInt 100 < a := hcompare.mp hgt
    rw [Extended.clamp_of_hundred_le hgt.le, exactValue?_ofInt (by decide) (by decide)]
  · have h0 : .ofInt 0 ≤ a := not_lt.mp fun h => hlt (hcompare.mpr h)
    have h100 : a ≤ .ofInt 100 := not_lt.mp fun h => hgt (hcompare.mpr h)
    rw [h, Extended.clamp_of_mem h0 h100]

end Binary64

namespace Number

variable {n : Number} {a : Extended}

/-- **A number is brought into the range by exact value**, however large it is. -/
theorem exactValue?_clampPercent (h : n.exactValue? = some a) :
    n.clampPercent.exactValue? = some a.clamp := by
  cases n with
  | int k =>
      obtain rfl := Option.some.inj h
      rw [Extended.clamp_ofInt]
      exact Binary64.exactValue?_ofInt (by omega) (by omega)
  | float x => exact Binary64.exactValue?_clampPercent h

end Number

/-! ## Percentages of a record -/

namespace Record

/-- A member of a record; null if there is none, or no record. -/
def field (name : String) : Json → Json
  | .obj members => Decode.member members name
  | _ => .null

/-- The items of a list. -/
def items : Json → List Json
  | .arr items => items
  | _ => []

/-- The percentages that the record of a flag gives: its own, those of its groups and those of its
variants. -/
def percentages (data : Json) : List Json :=
  let filters := field "filters" data
  let groups := items (field "groups" filters)
  let variants := items (field "variants" (field "multivariate" filters))
  field "rollout_percentage" data :: (groups ++ variants).map (field "rollout_percentage")

end Record

/-- The percentages of a flag: its own, those of its groups and those of its variants. -/
def Flag.percentages (flag : Flag) : List (Option Binary64) :=
  flag.rollout :: (flag.groups.map (·.rollout) ++ (flag.variants.getD []).map (·.rollout))

/-- What is read for a percentage: nothing for null, for a number the nearest one from 0 to 100, and
not-a-number for itself. -/
inductive ReadAs : Json → Option Binary64 → Prop where
  | null : ReadAs .null none
  | number {n : Number} {a : Extended} {p : Binary64} (hn : n.exactValue? = some a)
      (hp : p.exactValue? = some a.clamp) : ReadAs (.number n) (some p)
  | nan : ReadAs (.float .nan) (some .nan)

theorem readAs_clampPercent (n : Number) : ReadAs (.number n) (some n.clampPercent) := by
  cases hn : n.exactValue? with
  | some a => exact .number hn (Number.exactValue?_clampPercent hn)
  | none =>
      cases n with
      | int k => cases hn
      | float x =>
          obtain rfl := Binary64.exactValue?_eq_none.mp hn
          exact .nan

namespace ReadAs

variable {v : Json} {m n : Number} {p q : Binary64}

/-- **A percentage that is read lies between 0 and 100**, unless not-a-number was sent. -/
theorem mem_range_iff (h : ReadAs v (some p)) :
    Binary64.zero.le p ∧ p.le (.ofInt 100) ↔ v ≠ .float .nan := by
  cases h with
  | nan => exact iff_of_false (fun h => absurd h.1 (by decide)) (by simp)
  | @number n a _ hn hp =>
      have hzero : Binary64.zero.exactValue? = some (.ofInt 0) :=
        Binary64.exactValue?_ofInt (n := 0) (by decide) (by decide)
      refine iff_of_true ⟨?_, ?_⟩ fun hnan => ?_
      · exact Binary64.le_iff_exact.mpr ⟨_, _, hzero, hp, a.zero_le_clamp⟩
      · exact Binary64.le_iff_exact.mpr
          ⟨_, _, hp, Binary64.exactValue?_ofInt (by decide) (by decide), a.clamp_le_hundred⟩
      · cases hnan
        cases hn

/-- All percentages of a list lie in the range if not-a-number was sent for none. -/
theorem all_mem_range_iff {sent : List Json} {read : List (Option Binary64)}
    (h : List.Forall₂ ReadAs sent read) :
    (∀ p, some p ∈ read → Binary64.zero.le p ∧ p.le (.ofInt 100)) ↔ .float .nan ∉ sent := by
  induction h with
  | nil => simp
  | @cons v rollout sent read hv _ ih =>
      rw [List.mem_cons, not_or, ← ih]
      cases rollout with
      | none => cases hv; simp
      | some p =>
          constructor
          · intro h
            have hne := hv.mem_range_iff.mp (h p List.mem_cons_self)
            exact ⟨hne.symm, fun q hq => h q (List.mem_cons_of_mem _ hq)⟩
          · rintro ⟨hne, hrest⟩ q hq
            rcases List.mem_cons.mp hq with heq | hq
            · obtain rfl := Option.some.inj heq
              exact hv.mem_range_iff.mpr (Ne.symm hne)
            · exact hrest q hq

/-- **A larger number is never read as a smaller percentage.** -/
theorem mono (hp : ReadAs (.number m) (some p)) (hq : ReadAs (.number n) (some q))
    (h : m.compare? n = some .lt ∨ m.compare? n = some .eq) : p.le q := by
  have hle : ∃ a b, m.exactValue? = some a ∧ n.exactValue? = some b ∧ a ≤ b := by
    simp only [Number.compare?_eq_some_iff] at h
    rcases h with ⟨a, b, ha, hb, h⟩ | ⟨a, b, ha, hb, h⟩
    · exact ⟨a, b, ha, hb, le_of_lt h⟩
    · exact ⟨a, b, ha, hb, le_of_eq h⟩
  obtain ⟨a, b, ha, hb, hab⟩ := hle
  cases hp with
  | nan => cases ha
  | number hm hp =>
      cases hq with
      | nan => cases hb
      | number hn hq =>
          obtain rfl := Option.some.inj (ha.symm.trans hm)
          obtain rfl := Option.some.inj (hb.symm.trans hn)
          exact Binary64.le_iff_exact.mpr ⟨_, _, hp, hq, Extended.clamp_mono hab⟩

end ReadAs

section

open Record Decode

variable {members : Members} {name : String}

theorem readAs_of_said {rollout : Option Binary64}
    (h : Says none PercentageSays (members.lookup name) rollout) : ReadAs (member members name) rollout := by
  unfold member
  generalize members.lookup name = sent at h
  cases h with
  | absent | null => exact .null
  | given h =>
      obtain ⟨n, rfl, rfl⟩ := h
      exact readAs_clampPercent n

/-- The records of a list describe what is read from them, one by one. -/
theorem forall₂_items_of_said {α : Type} {D : Members → α → Prop} {R : Json → α → Prop} {as : List α}
    (h : Says [] (ListSays fun v a => IsObject (D · a) v) (members.lookup name) as)
    (hD : ∀ {members a}, D members a → R (.obj members) a) :
    List.Forall₂ R (items (member members name)) as := by
  unfold member
  generalize members.lookup name = sent at h
  cases h with
  | absent | null => exact .nil
  | given h =>
      obtain ⟨items, rfl, hall⟩ := h
      refine hall.imp fun v a hv => ?_
      obtain ⟨members, rfl, hdescribed⟩ := hv
      exact hD hdescribed

/-- An empty value in the place of the variants gives no percentages. -/
theorem items_field_of_isEmpty {v : Json} (h : v.isEmpty) : items (field name v) = [] := by
  cases v with
  | obj members =>
      obtain rfl := List.isEmpty_iff.mp h
      rfl
  | null | bool _ | number _ | str _ | arr _ => rfl

theorem Variant.forall₂_readAs {variants : Option (List Variant)}
    (h : MaybeDescribed (members.lookup name) variants) :
    List.Forall₂ (fun v variant => ReadAs (field "rollout_percentage" v) variant.rollout)
      (items (field "variants" (member members name))) (variants.getD []) := by
  unfold member
  generalize members.lookup name = sent at h
  cases h with
  | absent => exact .nil
  | empty hv => rw [Option.getD_some, items_field_of_isEmpty hv]; exact .nil
  | given _ hrecord =>
      obtain ⟨members, rfl, hall⟩ := hrecord
      exact forall₂_items_of_said hall.variants fun h => readAs_of_said h.rollout

/-- The percentages of the groups and of the variants of a flag are read from those of its record. -/
theorem Filters.forall₂_readAs {filters : Filters}
    (h : Says {} (fun v filters => IsObject (Described · filters) v) (members.lookup name) filters) :
    List.Forall₂ (fun v group => ReadAs (field "rollout_percentage" v) group.rollout)
        (items (field "groups" (member members name))) filters.groups ∧
      List.Forall₂ (fun v variant => ReadAs (field "rollout_percentage" v) variant.rollout)
        (items (field "variants" (field "multivariate" (member members name))))
        (filters.variants.getD []) := by
  unfold member
  generalize members.lookup name = sent at h
  cases h with
  | absent | null => exact ⟨.nil, .nil⟩
  | given h =>
      obtain ⟨members, rfl, hfilters⟩ := h
      exact ⟨forall₂_items_of_said hfilters.groups fun h => readAs_of_said h.rollout,
        Variant.forall₂_readAs hfilters.variants⟩

/-- **All percentages of a flag are read from those of its record**, in order. -/
theorem Flag.forall₂_readAs {data : Json} {flag : Flag} (h : Flag.ofJson data = .ok flag) :
    List.Forall₂ ReadAs (Record.percentages data) flag.percentages := by
  obtain ⟨members, rfl, hflag⟩ := Flag.ofJson_eq_ok.mp h
  obtain ⟨hgroups, hvariants⟩ := Filters.forall₂_readAs hflag.filters
  refine .cons (readAs_of_said hflag.rollout) ?_
  rw [List.map_append]
  refine List.rel_append ?_ ?_
  · exact List.forall₂_map_left_iff.mpr (List.forall₂_map_right_iff.mpr hgroups)
  · exact List.forall₂_map_left_iff.mpr (List.forall₂_map_right_iff.mpr hvariants)

end

/-! ## The theorem -/

namespace Flag

/-- **Every percentage that is read is a percentage, unless not-a-number was sent.**  Let a flag be read
from a record.  Its percentages, and those of its groups and variants, correspond one by one to what the
record gives for them: none to null, and to a number the nearest one from 0 to 100, by exact value.  They
all lie between 0 and 100 exactly if the record gives not-a-number for none of them, and what is read for
not-a-number is not-a-number.  Whatever is read for a number is no more than what is read for a larger one. -/
theorem percentages_are_clamped_unless_nan {data : Json} {flag : Flag} (h : Flag.ofJson data = .ok flag) :
    List.Forall₂ ReadAs (Record.percentages data) flag.percentages ∧
      ((∀ p, some p ∈ flag.percentages → Binary64.zero.le p ∧ p.le (.ofInt 100)) ↔
        .float .nan ∉ Record.percentages data) ∧
      ∀ m n p q, ReadAs (.number m) (some p) → ReadAs (.number n) (some q) →
        m.compare? n = some .lt ∨ m.compare? n = some .eq → p.le q := by
  have hread := forall₂_readAs h
  exact ⟨hread, ReadAs.all_mem_range_iff hread, fun m n p q hp hq => hp.mono hq⟩

/-- Numbers of all sizes are read as percentages: of a record that gives none for the flag, a negative one
for its group, one beyond the doubles for its first variant and infinity for its second. -/
theorem huge_share_is_a_hundred :
    let data : Json := .obj [("key", .str "split"), ("filters", .obj [
      ("groups", .arr [.obj [("rollout_percentage", .float (.ofRatio true 1 2))]]),
      ("multivariate", .obj [("variants", .arr [
        .obj [("key", .str "a"), ("rollout_percentage", .int (10 ^ 400))],
        .obj [("key", .str "b"), ("rollout_percentage", .float (.infinity false))]])])])]
    ∃ flag, Flag.ofJson data = .ok flag ∧ .float .nan ∉ Record.percentages data ∧
      flag.percentages = [none, some .zero, some (.ofInt 100), some (.ofInt 100)] ∧
      ∀ p, some p ∈ flag.percentages → Binary64.zero.le p ∧ p.le (.ofInt 100) := by
  intro data
  have hsent : .float .nan ∉ Record.percentages data := by
    have hlist : Record.percentages data = [.null, .float (.ofRatio true 1 2), .int (10 ^ 400),
      .float (.infinity false)] := rfl
    rw [hlist]
    simp only [List.mem_cons, List.not_mem_nil, or_false, not_or]
    exact ⟨nofun, nofun, nofun, nofun⟩
  refine ⟨_, rfl, hsent, by decide +kernel, ?_⟩
  exact (percentages_are_clamped_unless_nan rfl).2.1.mpr hsent

/-- **Not-a-number is read as it is sent**: a flag has a percentage that lies in no range. -/
theorem nan_is_read_as_a_percentage :
    let data : Json := .obj [("key", .str "f"), ("active", .bool true), ("rollout_percentage", .float .nan)]
    let flag : Flag := { key := "f", rollout := some .nan }
    Flag.ofJson data = .ok flag ∧ some .nan ∈ flag.percentages ∧
      ¬ Binary64.zero.le .nan ∧ ¬ Binary64.nan.le (.ofInt 100) := by
  intro data flag
  refine ⟨rfl, List.mem_cons_self, ?_, ?_⟩ <;> decide

end Flag

end FeatureFlags
