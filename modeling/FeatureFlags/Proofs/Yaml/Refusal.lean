import FeatureFlags.Proofs.Yaml.Failure
import FeatureFlags.Yaml.Document

/-!
# `Proofs.Yaml.Refusal` — how a YAML text that was read can fail to have a value

A text may be well formed and still stand for nothing: a tag is written on a scalar that does not have its
form, or on a collection.  Most of these failures are not failures of the text, but whatever the reader of
the scalar runs into.  `Refuses` lists them.

`spoils_or_refuses_of_load` puts the reading and the construction together: a text without a value fails in
the reading, in one of the ways of `Spoils`, or in the construction, in one of these.

## Contents

1. Refusals
2. Readers of scalars
3. Nodes and scalars
4. Merging mappings
5. Collections
6. The value of a text
-/

namespace FeatureFlags

namespace Yaml

open Std.Do

set_option mvcgen.warning false

/-! ## Refusals -/

/-- What the construction of a value can fail with. -/
inductive Refuses : Error → Prop where
  | malformed : Refuses .malformed
  /-- A text is no truth value. -/
  | noTruth (word : String) : Refuses (.value ⟨.key, word⟩)
  /-- A text of a number has no digits to begin with. -/
  | tooShort : Refuses (.value ⟨.index, "string index out of range"⟩)
  /-- A text is no number, or its fields give no date. -/
  | noValue (message : String) : Refuses (.value ⟨.value, message⟩)
  /-- A number in base 60 has too many places for a floating-point number. -/
  | tooLarge : Refuses (.value ⟨.overflow, "int too large to convert to float"⟩)
  /-- A text does not have the form of a timestamp. -/
  | noMoment : Refuses (.value ⟨.attribute, "'NoneType' object has no attribute 'groupdict'"⟩)
  /-- A collection is tagged as a timestamp. -/
  | notText : Refuses (.value ⟨.type, "expected string or bytes-like object, got 'list'"⟩)

/-- A reader of scalars may fail, but with nothing else. -/
abbrev refusal {α : Type} : PostCond α (.except Error .pure) := post⟨fun _ => ⌜True⌝, fun e => ⌜Refuses e⌝⟩

/-- A step of a construction may fail, but with nothing else. -/
abbrev refusing {σ α : Type} : PostCond α (.arg σ (.except Error .pure)) := raising Refuses

/-- One step after the other, for the items of a list, where each may fail in certain ways. -/
theorem mapM_spec {m : Type → Type} {ps : PostShape} [Monad m] [WPMonad m ps] {α β : Type}
    {f : α → m β} {E : ExceptConds ps} (h : ∀ a, ⦃⌜True⌝⦄ f a ⦃(fun _ => ⌜True⌝, E)⦄) (as : List α) :
    ⦃⌜True⌝⦄ as.mapM f ⦃(fun _ => ⌜True⌝, E)⦄ := by
  induction as with
  | nil =>
      rw [List.mapM_nil]
      mvcgen
  | cons a as ih =>
      rw [List.mapM_cons]
      mvcgen [h, ih]

/-! ## Readers of scalars -/

namespace Literal

@[spec]
theorem ok_spec {α : Type} (a : α) : ⦃⌜True⌝⦄ (.ok a : Except Error α) ⦃refusal⦄ := fun _ => trivial

@[spec]
theorem error_spec {α : Type} {e : Error} (h : Refuses e) :
    ⦃⌜True⌝⦄ (.error e : Except Error α) ⦃refusal⦄ := fun _ => h

@[spec]
theorem rejectShort_spec {α : Type} : ⦃⌜True⌝⦄ (rejectShort : Except Error α) ⦃refusal⦄ :=
  error_spec .tooShort

@[spec]
theorem reject_value_spec {α : Type} (message : String) :
    ⦃⌜True⌝⦄ (reject .value message : Except Error α) ⦃refusal⦄ := error_spec (.noValue message)

@[spec]
theorem bool_spec (cs : List Char) : ⦃⌜True⌝⦄ bool cs ⦃refusal⦄ := by
  mvcgen [bool]
  exact .noTruth _

@[spec]
theorem integerIn_spec (base : Nat) (cs : List Char) : ⦃⌜True⌝⦄ integerIn base cs ⦃refusal⦄ := by
  mvcgen [integerIn]

@[spec]
theorem splitSign_spec (cs : List Char) : ⦃⌜True⌝⦄ splitSign cs ⦃refusal⦄ := by mvcgen [splitSign]

@[spec]
theorem natural_spec (cs : List Char) : ⦃⌜True⌝⦄ natural cs ⦃refusal⦄ := by
  mvcgen [natural, mapM_spec]

@[spec]
theorem integer_spec (text : List Char) : ⦃⌜True⌝⦄ integer text ⦃refusal⦄ := by mvcgen [integer]

@[spec]
theorem decimal_spec (cs : List Char) : ⦃⌜True⌝⦄ decimal cs ⦃refusal⦄ := by mvcgen [decimal]

@[spec]
theorem sexagesimal_spec (weight : Nat) (sum : Binary64) (digits : List Binary64) :
    ⦃⌜True⌝⦄ sexagesimal weight sum digits ⦃refusal⦄ := by
  induction digits generalizing weight sum with
  | nil => mvcgen [sexagesimal]
  | cons d rest ih =>
      mvcgen [sexagesimal, ih]
      exact .tooLarge

@[spec]
theorem float_spec (text : List Char) : ⦃⌜True⌝⦄ float text ⦃refusal⦄ := by
  mvcgen [float, mapM_spec]

theorem base64_spec (place left pads : Nat) (cs : List Char) :
    ⦃⌜True⌝⦄ base64 place left pads cs ⦃refusal⦄ := by
  induction cs generalizing place left pads with
  | nil =>
      mvcgen [base64]
      exact .malformed
  | cons c rest ih => mvcgen [base64, ih]

@[spec]
theorem binary_spec (text : List Char) : ⦃⌜True⌝⦄ binary text ⦃refusal⦄ := by
  mvcgen [binary, base64_spec]
  exact .malformed

@[spec]
theorem timestamp_spec (text : List Char) : ⦃⌜True⌝⦄ timestamp text ⦃refusal⦄ := by
  mvcgen [timestamp]
  exact .noMoment

end Literal

/-! ## Nodes and scalars -/

namespace Build

@[spec]
theorem fail_spec {α : Type} : ⦃⌜True⌝⦄ (fail : Build α) ⦃refusing⦄ := throw_spec .malformed

@[spec]
theorem nodeAt_spec (id : Nat) : ⦃⌜True⌝⦄ nodeAt id ⦃refusing⦄ := by mvcgen [nodeAt]

theorem filterAuxM_spec {α : Type} {p : α → Build Bool} (h : ∀ a, ⦃⌜True⌝⦄ p a ⦃refusing⦄)
    (as kept : List α) : ⦃⌜True⌝⦄ as.filterAuxM p kept ⦃refusing⦄ := by
  induction as generalizing kept with
  | nil => mvcgen [List.filterAuxM]
  | cons a as ih => mvcgen [List.filterAuxM, h, ih]

@[spec]
theorem scalarText_spec (fuel id : Nat) : ⦃⌜True⌝⦄ scalarText fuel id ⦃refusing⦄ := by
  induction fuel generalizing id with
  | zero => mvcgen [scalarText]
  | succ fuel ih =>
      -- there is no rule for `filterM` itself, whose loop collects what is kept
      mvcgen [scalarText, List.filterM, filterAuxM_spec, ih]

@[spec]
theorem scalarChars_spec (id : Nat) : ⦃⌜True⌝⦄ scalarChars id ⦃refusing⦄ := by mvcgen [scalarChars]

@[spec]
theorem value_spec (id : Nat) : ⦃⌜True⌝⦄ value id ⦃refusing⦄ := by
  -- the general rule for `throw` leaves open in which monad it stands
  mvcgen [value, -Spec.throw_MonadExcept]
  exact fun _ => .notText

/-! ## Merging mappings -/

@[spec]
theorem entriesOf_spec (id : Nat) : ⦃⌜True⌝⦄ entriesOf id ⦃refusing⦄ := by mvcgen [entriesOf]

@[spec]
theorem setEntries_spec (id : Nat) (entries : List (Nat × Nat)) :
    ⦃⌜True⌝⦄ setEntries id entries ⦃refusing⦄ := by
  mvcgen [setEntries]

/-- What the steps that merge mappings fail with when they may take so many steps. -/
structure MergesRefuse (fuel : Nat) : Prop where
  flatten : ∀ id, ⦃⌜True⌝⦄ Build.flatten fuel id ⦃refusing⦄
  mergedFrom : ∀ id place, ⦃⌜True⌝⦄ Build.mergedFrom fuel id place ⦃refusing⦄
  sources : ∀ items, ⦃⌜True⌝⦄ Build.sources fuel items ⦃refusing⦄

theorem mergesRefuse (fuel : Nat) : MergesRefuse fuel := by
  -- the three call each other, each time with a step less, so all of them go into one induction
  induction fuel with
  | zero =>
      constructor
      · intro id; mvcgen [Build.flatten]
      · intro id place; mvcgen [Build.mergedFrom]
      · intro items; mvcgen [Build.sources]
  | succ fuel ih =>
      obtain ⟨hflatten, hmergedFrom, hsources⟩ := ih
      constructor
      · intro id; mvcgen [Build.flatten, hmergedFrom]
      · intro id place; mvcgen [Build.mergedFrom, hflatten, hmergedFrom, hsources]
      · intro items
        cases items with
        | nil => mvcgen [Build.sources]
        | cons item rest => mvcgen [Build.sources, hflatten, hsources]

@[spec]
theorem flatten_spec (fuel id : Nat) : ⦃⌜True⌝⦄ flatten fuel id ⦃refusing⦄ := (mergesRefuse fuel).flatten id

@[spec]
theorem mergeBound_spec : ⦃⌜True⌝⦄ mergeBound ⦃refusing⦄ := by mvcgen [mergeBound]

/-! ## Collections -/

@[spec]
theorem keyOf_spec (id : Nat) : ⦃⌜True⌝⦄ keyOf id ⦃refusing⦄ := by mvcgen [keyOf]

@[spec]
theorem mapEntries_spec (id : Nat) : ⦃⌜True⌝⦄ mapEntries id ⦃refusing⦄ := by
  -- nothing is said of the entries so far, only of the failure
  mvcgen [mapEntries] invariants
  · refusing
  all_goals simp

@[spec]
theorem pairOf_spec (id : Nat) : ⦃⌜True⌝⦄ pairOf id ⦃refusing⦄ := by mvcgen [pairOf]

@[spec]
theorem itemsOf_spec (id : Nat) : ⦃⌜True⌝⦄ itemsOf id ⦃refusing⦄ := by mvcgen [itemsOf]

@[spec]
theorem contents_spec (id : Nat) : ⦃⌜True⌝⦄ contents id ⦃refusing⦄ := by
  mvcgen [contents, mapM_spec]

@[spec]
theorem buildAll_spec (fuel : Nat) : ⦃⌜True⌝⦄ buildAll fuel ⦃refusing⦄ := by
  induction fuel with
  | zero => mvcgen [buildAll]
  | succ fuel ih => mvcgen [buildAll, ih]

@[spec]
theorem document_spec (root : Nat) : ⦃⌜True⌝⦄ document root ⦃refusing⦄ := by mvcgen [document]

end Build

/-! ## The value of a text -/

/-- **What comes out of a text that has no value.** -/
theorem spoils_or_refuses_of_load {depth : Nat} {text : String} {e : Error}
    (h : load depth text = .error e) : Spoils e ∨ Refuses e := by
  unfold load at h
  cases hg : Graph.ofText text with
  | error e' =>
      rw [hg] at h
      obtain rfl := Except.error.inj h
      exact .inl (spoils_of_ofText hg)
  | ok graph? =>
      rw [hg] at h
      cases graph? with
      | none => cases h
      | some graph =>
          cases hb : (Build.document graph.root).run { nodes := graph.nodes } with
          | ok result =>
              simp only [bind, Except.bind, hb] at h
              cases h
          | error e' =>
              simp only [bind, Except.bind, hb] at h
              obtain rfl := Except.error.inj h
              exact .inr (raising_iff.mp (Build.document_spec graph.root) _ _ hb)

end Yaml

end FeatureFlags
