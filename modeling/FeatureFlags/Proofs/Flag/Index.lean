import FeatureFlags.Flag.Snapshot
import Mathlib.Data.List.Basic

/-!
# `Proofs.Flag.Index` — the index of a snapshot agrees with its flags

A snapshot holds the active flags of a listing twice: as a list, in which keys may repeat, and as an index,
which is built flag by flag and finds one flag for each key.  Adding a flag keeps the two in agreement
(`Indexes.indexFlag`), so that they agree in every snapshot (`indexes_ofFlags`): what the index finds is the
first flag with the key.  What readers can rely on is put together in `index_agrees_with_flags`.
-/

namespace FeatureFlags

namespace Snapshot

variable {key : String} {flag : Flag} {flags fs gs : List Flag} {index : List (String × Flag)}

/-! ## The index -/

/-- An index agrees with a list of flags: for every key, it finds the first flag that has it. -/
def Indexes (index : List (String × Flag)) (flags : List Flag) : Prop :=
  ∀ key, index.lookup key = flags.find? (·.key = key)

theorem indexes_nil : Indexes [] [] := fun _ => rfl

/-- **Adding a flag keeps the agreement**: if its key is taken, the flag that took it comes earlier. -/
theorem Indexes.indexFlag (h : Indexes index flags) (flag : Flag) :
    Indexes (indexFlag index flag) (flags ++ [flag]) := by
  intro key
  rw [List.find?_append, ← h key]
  by_cases htaken : (index.lookup flag.key).isSome
  · rw [Snapshot.indexFlag, if_pos htaken]
    by_cases hkey : flag.key = key
    · obtain ⟨first, hfirst⟩ := Option.isSome_iff_exists.mp htaken
      rw [← hkey, hfirst, Option.some_or]
    · simp [hkey]
  · rw [Snapshot.indexFlag, if_neg htaken, List.lookup_append]
    by_cases hkey : flag.key = key
    · simp [hkey]
    · simp [hkey, List.lookup_cons, beq_eq_false_iff_ne.mpr (Ne.symm hkey)]

/-- So does adding one after another. -/
theorem Indexes.foldl (h : Indexes index flags) (more : List Flag) :
    Indexes (more.foldl Snapshot.indexFlag index) (flags ++ more) := by
  induction more generalizing index flags with
  | nil => rwa [List.append_nil]
  | cons flag rest ih =>
      rw [List.foldl_cons, List.append_cons]
      exact ih (h.indexFlag flag)

/-- **In every snapshot the index agrees with the flags.** -/
theorem indexes_ofFlags (fs : List Flag) : Indexes (ofFlags fs).index (ofFlags fs).flags := by
  have h := indexes_nil.foldl (fs.filter (·.active))
  rwa [List.nil_append] at h

/-! ## What is found -/

/-- The first active flag of a listing that has a key. -/
structure IsFirst (key : String) (fs : List Flag) (flag : Flag) : Prop where
  active : flag.active
  key_eq : flag.key = key
  first : ∃ before after, fs = before ++ flag :: after ∧ ∀ f ∈ before, f.active → f.key ≠ key

/-- A key is searched for among the active flags of the listing. -/
theorem get?_ofFlags : (ofFlags fs).get? key = fs.find? fun f => f.active && f.key = key := by
  rw [get?, indexes_ofFlags fs key, ofFlags, List.find?_filter]
  simp only [Bool.decide_and, Bool.decide_eq_true]

theorem get?_ofFlags_eq_some : (ofFlags fs).get? key = some flag ↔ IsFirst key fs flag := by
  have hbefore (f : Flag) : (!(f.active && decide (f.key = key))) ↔ (f.active → f.key ≠ key) := by
    cases f.active <;> simp
  rw [get?_ofFlags, List.find?_eq_some_iff_append]
  simp only [Bool.and_eq_true, decide_eq_true_eq, hbefore]
  exact ⟨fun ⟨⟨hactive, hkey⟩, hfirst⟩ => ⟨hactive, hkey, hfirst⟩, fun h => ⟨⟨h.active, h.key_eq⟩, h.first⟩⟩

theorem get?_ofFlags_eq_none : (ofFlags fs).get? key = none ↔ ∀ f ∈ fs, f.active → f.key ≠ key := by
  rw [get?_ofFlags, List.find?_eq_none]
  simp only [Bool.and_eq_true, decide_eq_true_eq, not_and, ne_eq]

/-- The key of every flag of a snapshot is found. -/
theorem exists_get?_of_mem (h : flag ∈ (ofFlags fs).flags) : ∃ first,
    (ofFlags fs).get? flag.key = some first := by
  obtain ⟨hmem, hactive⟩ := List.mem_filter.mp h
  cases hget : (ofFlags fs).get? flag.key with
  | some first => exact ⟨first, rfl⟩
  | none => exact absurd rfl (get?_ofFlags_eq_none.mp hget flag hmem hactive)

/-! ## Edits of a listing -/

/-- Inactive flags and flags with other keys are inserted into a listing or removed from it, at any
places. -/
inductive Edited (key : String) : List Flag → List Flag → Prop where
  | nil : Edited key [] []
  | kept (flag : Flag) {fs gs : List Flag} (rest : Edited key fs gs) : Edited key (flag :: fs) (flag :: gs)
  | inserted {flag : Flag} (h : flag.active → flag.key ≠ key) {fs gs : List Flag}
      (rest : Edited key fs gs) : Edited key fs (flag :: gs)
  | removed {flag : Flag} (h : flag.active → flag.key ≠ key) {fs gs : List Flag}
      (rest : Edited key fs gs) : Edited key (flag :: fs) gs

/-- **Such an edit does not change what is found.** -/
theorem Edited.get?_ofFlags (h : Edited key fs gs) : (ofFlags gs).get? key = (ofFlags fs).get? key := by
  simp only [Snapshot.get?_ofFlags]
  induction h with
  | nil => rfl
  | kept flag _ ih => rw [List.find?_cons, List.find?_cons, ih]
  | inserted hflag _ ih => rw [List.find?_cons_of_neg (by simpa using hflag), ih]
  | removed hflag _ ih => rw [List.find?_cons_of_neg (by simpa using hflag), ih]

/-! ## The theorem -/

/-- **The index of a snapshot agrees with the list of flags.**  The flags of a snapshot are the active ones
of the listing, in order, and its size is their number.  A key is looked up as the first active flag of the
listing that has it, and in vain exactly if there is none; so the key of every flag of the snapshot is found.
The snapshot of its own flags is the same snapshot.  And what is found for a key stays the same if inactive
flags, and flags with other keys, are inserted or removed anywhere. -/
theorem index_agrees_with_flags (fs : List Flag) :
    (ofFlags fs).flags = fs.filter (·.active) ∧
    (ofFlags fs).size = fs.countP (·.active) ∧
    (∀ key flag, (ofFlags fs).get? key = some flag ↔ IsFirst key fs flag) ∧
    (∀ key, (ofFlags fs).get? key = none ↔ ∀ f ∈ fs, f.active → f.key ≠ key) ∧
    (∀ flag ∈ (ofFlags fs).flags, ∃ first, (ofFlags fs).get? flag.key = some first) ∧
    ofFlags (ofFlags fs).flags = ofFlags fs ∧
    ∀ key gs, Edited key fs gs → (ofFlags gs).get? key = (ofFlags fs).get? key := by
  have hsize : (ofFlags fs).size = fs.countP (·.active) := List.countP_eq_length_filter.symm
  have hagain : ofFlags (ofFlags fs).flags = ofFlags fs := by
    simp only [ofFlags, List.filter_filter, Bool.and_self]
  exact ⟨rfl, hsize, fun _ _ => get?_ofFlags_eq_some, fun _ => get?_ofFlags_eq_none,
    fun _ => exists_get?_of_mem, hagain, fun _ _ => Edited.get?_ofFlags⟩

/-- Of two active flags with one key the first is found, although an inactive one with that key comes before
them, and also when another inactive one takes the place of a flag with another key. -/
theorem first_active_duplicate_is_found :
    let draft : Flag := { key := "beta", active := false }
    let other : Flag := { key := "alpha" }
    let first : Flag := { key := "beta", isSimple := true }
    let second : Flag := { key := "beta" }
    let fs := [draft, other, first, second]
    let gs := [draft, first, draft, second]
    (ofFlags fs).flags = [other, first, second] ∧ first ∈ (ofFlags fs).flags ∧ Edited "beta" fs gs ∧
      (ofFlags fs).get? "beta" = some first ∧ (ofFlags gs).get? "beta" = some first ∧
      ∃ found, (ofFlags fs).get? first.key = some found := by
  intro draft other first second fs gs
  have hdraft : draft.active → draft.key ≠ "beta" := nofun
  have hother : other.active → other.key ≠ "beta" := fun _ => by decide
  have hedited : Edited "beta" fs gs :=
    .kept draft (.removed hother (.kept first (.inserted hdraft (.kept second .nil))))
  obtain ⟨hflags, -, hsome, -, hfound, -, hsame⟩ := index_agrees_with_flags fs
  have hfirst : (ofFlags fs).get? "beta" = some first := by
    refine (hsome _ _).mpr ⟨rfl, rfl, [draft, other], [second], rfl, fun f hf => ?_⟩
    rcases List.mem_pair.mp hf with rfl | rfl
    · exact hdraft
    · exact hother
  have hmem : first ∈ (ofFlags fs).flags := by
    rw [hflags]
    exact List.mem_filter.mpr ⟨by simp [fs], rfl⟩
  exact ⟨hflags, hmem, hedited, hfirst, (hsame _ _ hedited).trans hfirst, hfound first hmem⟩

end Snapshot

end FeatureFlags
