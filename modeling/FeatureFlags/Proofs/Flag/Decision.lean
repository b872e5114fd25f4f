import FeatureFlags.Proofs.Flag.Grammar

/-!
# `Proofs.Flag.Decision` — which answers are read as decisions, and what they say

The service answers with an object that holds the decided values under one name, with one member for each
flag.  What such an answer looks like (`Decisions.IsRecord`), what it says (`Decisions.Described`) and for
what cause it is refused (`Decisions.Refused`) is written down here without the reader.

The reader agrees with this but for one kind of answers.  In the place of the decided values it takes every
empty value for an absent one, so that it accepts false, zero, the empty text and the empty list there
(`Decisions.Hollow`), where it means to refuse whatever is no object.  The main statement is
`read_iff_well_typed_unless_hollow`.

## Contents

1. Reading in sequence
2. What an answer says
3. Decided values
4. Answers
-/

namespace FeatureFlags

open Decode Record

/-! ## Reading in sequence -/

section

variable {ε α β : Type}

/-- A sequence fails in its first part, or in what follows it. -/
theorem bind_eq_error {r : Except ε α} {f : α → Except ε β} {e : ε} :
    r >>= f = .error e ↔ r = .error e ∨ ∃ a, r = .ok a ∧ f a = .error e := by
  cases r with
  | ok a => simp [Bind.bind, Except.bind]
  | error e' => simp [Bind.bind, Except.bind]

/-- **A list fails at the first item that cannot be read.** -/
theorem mapM_eq_error {f : α → Except ε β} {as : List α} {e : ε} :
    as.mapM f = .error e ↔ ∃ before a after, as = before ++ a :: after ∧
      (∀ b ∈ before, ∃ value, f b = .ok value) ∧ f a = .error e := by
  induction as with
  | nil => simp [pure, Except.pure]
  | cons a rest ih =>
      rw [List.mapM_cons, bind_eq_error]
      constructor
      · rintro (ha | ⟨value, ha, h⟩)
        · exact ⟨[], a, rest, rfl, by simp, ha⟩
        · rcases bind_eq_error.mp h with hrest | ⟨_, _, hpure⟩
          · obtain ⟨before, c, after, rfl, hbefore, hc⟩ := ih.mp hrest
            exact ⟨a :: before, c, after, rfl, List.forall_mem_cons.mpr ⟨⟨value, ha⟩, hbefore⟩, hc⟩
          · cases hpure
      · rintro ⟨before, c, after, heq, hbefore, hc⟩
        cases before with
        | nil =>
            obtain ⟨rfl, rfl⟩ := List.cons.inj heq
            exact .inl hc
        | cons b before =>
            obtain ⟨rfl, rfl⟩ := List.cons.inj heq
            obtain ⟨⟨value, ha⟩, hbefore⟩ := List.forall_mem_cons.mp hbefore
            have hrest := ih.mpr ⟨before, c, after, rfl, hbefore, hc⟩
            exact .inr ⟨value, ha, bind_eq_error.mpr (.inl hrest)⟩

end

/-! ## What an answer says -/

/-- A value that a flag can have in an answer. -/
def Record.IsFlagValue (v : Json) : Prop := v = .null ∨ (∃ b, v = .bool b) ∨ ∃ s, v = .str s

/-- What a value in an answer says of its flag: booleans and texts are what they are, and null is off. -/
inductive FlagValue.Said : Json → FlagValue → Prop where
  | bool (b : Bool) : Said (.bool b) (.bool b)
  | variant (s : String) : Said (.str s) (.variant s)
  | null : Said .null .off

namespace Decisions

/-- The members of an answer. -/
structure IsRecord (members : Members) : Prop where
  flags : Optional (IsObject fun flags => ∀ m ∈ flags, IsFlagValue m.2) (members.lookup "featureFlags")

/-- The members of the decided values say these decisions: the same keys in the same order, each with what
is said of it. -/
def Lists (flags : Members) (decisions : Decisions) : Prop :=
  List.Forall₂ (fun m d => m.1 = d.1 ∧ FlagValue.Said m.2 d.2) flags decisions

/-- The members describe decisions. -/
structure Described (members : Members) (decisions : Decisions) : Prop where
  flags : Says [] (fun v decisions => IsObject (Lists · decisions) v) (members.lookup "featureFlags")
    decisions

/-- In the place of the decided values there is an empty value that is neither null nor an object. -/
def Hollow (members : Members) : Prop :=
  ∃ v, members.lookup "featureFlags" = some v ∧ v.isEmpty ∧ v ≠ .null ∧ ∀ flags, v ≠ .obj flags

/-- Why an answer is refused: it is no object, or the decided values are none, or one of these is not the
value of a flag; the first of them, if there are several. -/
inductive Refused : Json → DecodeError → Prop where
  | answer {v : Json} (h : ∀ members, v ≠ .obj members) : Refused v (.notObject "decide response" v.kind)
  | flags {members : Members} {v : Json} (hv : members.lookup "featureFlags" = some v)
      (hfull : v.isEmpty = false) (h : ∀ flags, v ≠ .obj flags) :
      Refused (.obj members) (.notObject "featureFlags" v.kind)
  | value {members before after : Members} {key : String} {v : Json}
      (hflags : members.lookup "featureFlags" = some (.obj (before ++ (key, v) :: after)))
      (hbefore : ∀ m ∈ before, IsFlagValue m.2) (h : ¬ IsFlagValue v) :
      Refused (.obj members) (.notFlagValue key v)

end Decisions

/-! ## Decided values -/

namespace FlagValue

variable {key : String} {v : Json} {value : FlagValue} {e : DecodeError}

theorem ofJson_eq_ok : ofJson key v = .ok value ↔ Said v value := by
  constructor
  · intro h
    cases v with
    | null => obtain rfl := Except.ok.inj h; exact .null
    | bool b => obtain rfl := Except.ok.inj h; exact .bool b
    | str s => obtain rfl := Except.ok.inj h; exact .variant s
    | number _ | arr _ | obj _ => cases h
  · rintro (_ | _ | _) <;> rfl

theorem exists_said : (∃ value, Said v value) ↔ IsFlagValue v := by
  constructor
  · rintro ⟨_, _ | _ | _⟩
    · exact .inr (.inl ⟨_, rfl⟩)
    · exact .inr (.inr ⟨_, rfl⟩)
    · exact .inl rfl
  · rintro (rfl | ⟨b, rfl⟩ | ⟨s, rfl⟩)
    · exact ⟨_, .null⟩
    · exact ⟨_, .bool b⟩
    · exact ⟨_, .variant s⟩

theorem ofJson_eq_error : ofJson key v = .error e ↔ ¬ IsFlagValue v ∧ e = .notFlagValue key v := by
  cases v <;> simp [ofJson, IsFlagValue, eq_comm]

end FlagValue

/-! ## Answers -/

namespace Decisions

variable {members flags : Members} {data v : Json} {decisions : Decisions} {e : DecodeError}

/-- The reader of one decided value, with its key. -/
def ofMember (m : String × Json) : Except DecodeError (String × FlagValue) :=
  return (m.1, ← FlagValue.ofJson m.1 m.2)

theorem ofMember_eq_ok {m : String × Json} {d : String × FlagValue} :
    ofMember m = .ok d ↔ m.1 = d.1 ∧ FlagValue.Said m.2 d.2 := by
  unfold ofMember
  rw [bind_eq_ok]
  simp only [FlagValue.ofJson_eq_ok, pure_eq_ok]
  constructor
  · rintro ⟨value, hvalue, rfl⟩
    exact ⟨rfl, hvalue⟩
  · rintro ⟨hkey, hvalue⟩
    exact ⟨d.2, hvalue, Prod.ext hkey rfl⟩

theorem exists_ofMember {m : String × Json} : (∃ d, ofMember m = .ok d) ↔ IsFlagValue m.2 := by
  rw [← FlagValue.exists_said]
  constructor
  · rintro ⟨d, hd⟩
    exact ⟨d.2, (ofMember_eq_ok.mp hd).2⟩
  · rintro ⟨value, hvalue⟩
    exact ⟨(m.1, value), ofMember_eq_ok.mpr ⟨rfl, hvalue⟩⟩

theorem ofMember_eq_error {m : String × Json} :
    ofMember m = .error e ↔ ¬ IsFlagValue m.2 ∧ e = .notFlagValue m.1 m.2 := by
  unfold ofMember
  rw [bind_eq_error, FlagValue.ofJson_eq_error]
  simp [pure, Except.pure]

theorem ofJson_obj : ofJson (.obj members) =
    object "featureFlags" (memberOr members "featureFlags" (.obj [])) >>= fun flags =>
      flags.mapM ofMember := rfl

theorem mapM_ofMember_eq_ok : flags.mapM ofMember = .ok decisions ↔ Lists flags decisions := by
  simp only [mapM_eq_ok, ofMember_eq_ok, Lists]

/-- The decided values of an answer, by their members: those in their place, or none if it is absent or
null. -/
def Given (members flags : Members) : Prop :=
  Says [] (fun v flags => v = .obj flags) (members.lookup "featureFlags") flags

theorem given_of_lookup (h : members.lookup "featureFlags" = some (.obj flags)) : Given members flags := by
  unfold Given
  rw [h]
  exact .given rfl

/-- Where there is a decided value, the place is neither absent nor null. -/
theorem Given.lookup (h : Given members flags) (hne : flags ≠ []) :
    members.lookup "featureFlags" = some (.obj flags) := by
  unfold Given at h
  generalize members.lookup "featureFlags" = m at h ⊢
  rcases h with _ | _ | rfl
  · exact absurd rfl hne
  · exact absurd rfl hne
  · rfl

/-- What is read in the place of the decided values: these, or nothing if the place is hollow. -/
theorem memberOr_eq_obj : memberOr members "featureFlags" (.obj []) = .obj flags ↔
    Given members flags ∨ Hollow members ∧ flags = [] := by
  rw [memberOr_eq, Given, Hollow]
  generalize members.lookup "featureFlags" = m
  constructor
  · rintro (_ | @⟨v, hempty⟩ | _)
    · exact .inl .absent
    · by_cases hnull : v = .null
      · subst hnull
        exact .inl .null
      · by_cases hobj : ∃ flags, v = .obj flags
        · -- an object that counts as empty has no members
          obtain ⟨flags, rfl⟩ := hobj
          obtain rfl := List.isEmpty_iff.mp hempty
          exact .inl (.given rfl)
        · exact .inr ⟨⟨v, rfl, hempty, hnull, fun flags hv => hobj ⟨flags, hv⟩⟩, rfl⟩
    · exact .inl (.given rfl)
  · rintro ((_ | _ | rfl) | ⟨⟨v, rfl, hempty, -, -⟩, rfl⟩)
    · exact .absent
    · exact .empty rfl
    · cases flags with
      | nil => exact .empty rfl
      | cons => exact .given rfl
    · exact .empty hempty

/-- A value that is no object is read in the place of the decided values only if it is there and full. -/
theorem memberOr_eq_of_not_obj (h : ∀ flags, v ≠ .obj flags) :
    memberOr members "featureFlags" (.obj []) = v ↔
      members.lookup "featureFlags" = some v ∧ v.isEmpty = false := by
  rw [memberOr_eq]
  generalize members.lookup "featureFlags" = m
  constructor
  · rintro (_ | _ | hfull)
    · exact absurd rfl (h [])
    · exact absurd rfl (h [])
    · exact ⟨rfl, hfull⟩
  · rintro ⟨rfl, hfull⟩
    exact .given hfull

theorem described_iff :
    Described members decisions ↔ ∃ flags, Given members flags ∧ Lists flags decisions := by
  unfold Given
  constructor
  · rintro ⟨h⟩
    generalize members.lookup "featureFlags" = m at h ⊢
    cases h with
    | absent => exact ⟨[], .absent, .nil⟩
    | null => exact ⟨[], .null, .nil⟩
    | given h =>
        obtain ⟨flags, rfl, hlists⟩ := h
        exact ⟨flags, .given rfl, hlists⟩
  · rintro ⟨flags, hgiven, hlists⟩
    constructor
    generalize members.lookup "featureFlags" = m at hgiven ⊢
    rcases hgiven with _ | _ | rfl
    · cases hlists
      exact .absent
    · cases hlists
      exact .null
    · exact .given ⟨flags, rfl, hlists⟩

theorem exists_lists : (∃ decisions, Lists flags decisions) ↔ ∀ m ∈ flags, IsFlagValue m.2 := by
  simp only [← mapM_ofMember_eq_ok, mapM_eq_ok, exists_forall₂, exists_ofMember]

/-- An answer describes decisions if it looks as it should. -/
theorem exists_described : (∃ decisions, Described members decisions) ↔ IsRecord members := by
  have hflags : (∃ decisions, Says [] (fun v decisions => IsObject (Lists · decisions) v)
      (members.lookup "featureFlags") decisions) ↔
        Optional (IsObject fun flags => ∀ m ∈ flags, IsFlagValue m.2) (members.lookup "featureFlags") := by
    simp only [exists_said, exists_isObject, exists_lists]
  constructor
  · rintro ⟨decisions, h⟩
    exact ⟨hflags.mp ⟨decisions, h.flags⟩⟩
  · rintro ⟨h⟩
    obtain ⟨decisions, hd⟩ := hflags.mpr h
    exact ⟨decisions, ⟨hd⟩⟩

/-- A hollow answer does not look as it should. -/
theorem Hollow.not_isRecord (h : Hollow members) : ¬ IsRecord members := by
  rintro ⟨hflags⟩
  obtain ⟨v, hv, -, hnull, hobj⟩ := h
  rw [hv] at hflags
  rcases hflags with _ | _ | ⟨flags, rfl, -⟩
  · exact hnull rfl
  · exact hobj flags rfl

/-- **An answer is read as what it describes**, and if it is hollow as no decisions. -/
theorem ofJson_eq_ok : ofJson data = .ok decisions ↔
    IsObject (fun members => Described members decisions ∨ Hollow members ∧ decisions = []) data := by
  constructor
  · intro h
    obtain ⟨members, hdata, h⟩ := bind_eq_ok.mp h
    obtain ⟨flags, hflags, h⟩ := bind_eq_ok.mp h
    have hlists : Lists flags decisions := mapM_ofMember_eq_ok.mp h
    refine ⟨members, object_eq_ok.mp hdata, ?_⟩
    rcases memberOr_eq_obj.mp (object_eq_ok.mp hflags) with hgiven | ⟨hhollow, rfl⟩
    · exact .inl (described_iff.mpr ⟨flags, hgiven, hlists⟩)
    · cases hlists
      exact .inr ⟨hhollow, rfl⟩
  · rintro ⟨members, rfl, h⟩
    obtain ⟨flags, hflags, hlists⟩ : ∃ flags,
        memberOr members "featureFlags" (.obj []) = .obj flags ∧ Lists flags decisions := by
      rcases h with hdescribed | ⟨hhollow, rfl⟩
      · obtain ⟨flags, hgiven, hlists⟩ := described_iff.mp hdescribed
        exact ⟨flags, memberOr_eq_obj.mpr (.inl hgiven), hlists⟩
      · exact ⟨[], memberOr_eq_obj.mpr (.inr ⟨hhollow, rfl⟩), .nil⟩
    rw [ofJson_obj, hflags]
    exact mapM_ofMember_eq_ok.mpr hlists

theorem object_eq_error {what : String} :
    object what v = .error e ↔ (∀ members, v ≠ .obj members) ∧ e = .notObject what v.kind := by
  cases v <;> simp [object, eq_comm]

/-- **An answer is refused for its first fault**, and for nothing else. -/
theorem ofJson_eq_error : ofJson data = .error e ↔ Refused data e := by
  constructor
  · intro hread
    rcases bind_eq_error.mp hread with hdata | ⟨members, hdata, hrest⟩
    · obtain ⟨hnot, rfl⟩ := object_eq_error.mp hdata
      exact .answer hnot
    · rw [object_eq_ok.mp hdata]
      rcases bind_eq_error.mp hrest with hflags | ⟨flags, hflags, hmembers⟩
      · obtain ⟨hnot, rfl⟩ := object_eq_error.mp hflags
        obtain ⟨hv, hfull⟩ := (memberOr_eq_of_not_obj hnot).mp rfl
        exact .flags hv hfull hnot
      · have hmembers : flags.mapM ofMember = .error e := hmembers
        obtain ⟨before, m, after, rfl, hbefore, hm⟩ := mapM_eq_error.mp hmembers
        obtain ⟨hnot, rfl⟩ := ofMember_eq_error.mp hm
        have hfound : members.lookup "featureFlags" = some (.obj (before ++ m :: after)) := by
          -- there is a member, so that the place of the decided values is not hollow
          rcases memberOr_eq_obj.mp (object_eq_ok.mp hflags) with hgiven | ⟨-, hnil⟩
          · exact hgiven.lookup (by simp)
          · simp at hnil
        exact .value hfound (fun b hb => exists_ofMember.mp (hbefore b hb)) hnot
  · rintro (hnot | ⟨hv, hfull, hnot⟩ | ⟨hflags, hbefore, hnot⟩)
    · exact bind_eq_error.mpr (.inl (object_eq_error.mpr ⟨hnot, rfl⟩))
    · rw [ofJson_obj, (memberOr_eq_of_not_obj hnot).mpr ⟨hv, hfull⟩]
      exact bind_eq_error.mpr (.inl (object_eq_error.mpr ⟨hnot, rfl⟩))
    · rw [ofJson_obj, memberOr_eq_obj.mpr (.inl (given_of_lookup hflags))]
      refine mapM_eq_error.mpr ⟨_, _, _, rfl, fun b hb => exists_ofMember.mpr (hbefore b hb), ?_⟩
      exact ofMember_eq_error.mpr ⟨hnot, rfl⟩

/-! ## The theorem -/

/-- **An answer is read if, and only if, it is well typed, unless it is hollow.**  It is well typed if it is
an object in which the decided values are absent, null, or an object of booleans, texts and nulls.  Such an
answer is read as what it describes: the same keys in the same order, booleans and texts as they are, and
null as off.  Every other answer is refused for its first fault, with an error of decoding.

A hollow answer has false, zero, the empty text or the empty list in the place of the decided values.  It is
not well typed, and is read as if it had none. -/
theorem read_iff_well_typed_unless_hollow (data : Json) :
    (¬ IsObject Hollow data →
      ((∃ decisions, ofJson data = .ok decisions) ↔ IsObject IsRecord data) ∧
      (∀ decisions, ofJson data = .ok decisions ↔ IsObject (Described · decisions) data) ∧
      (¬ IsObject IsRecord data →
        ∃ e, ofJson data = .error e ∧ Refused data e ∧ e.report.kind = .decode)) ∧
    (IsObject Hollow data → ¬ IsObject IsRecord data ∧ ofJson data = .ok []) := by
  refine ⟨fun hfull => ?_, fun ⟨members, hdata, hhollow⟩ => ⟨?_, ?_⟩⟩
  · have hread (decisions : Decisions) :
        ofJson data = .ok decisions ↔ IsObject (Described · decisions) data := by
      rw [ofJson_eq_ok]
      refine exists_congr fun members => and_congr_right fun hdata => or_iff_left ?_
      exact fun ⟨hhollow, _⟩ => hfull ⟨members, hdata, hhollow⟩
    have hsome : (∃ decisions, ofJson data = .ok decisions) ↔ IsObject IsRecord data := by
      simp only [hread, exists_isObject, exists_described]
    refine ⟨hsome, hread, fun hnot => ?_⟩
    cases hresult : ofJson data with
    | ok decisions => exact absurd (hsome.mp ⟨decisions, hresult⟩) hnot
    | error e => exact ⟨e, rfl, ofJson_eq_error.mp hresult, rfl⟩
  · subst hdata
    rintro ⟨_, ⟨⟩, hrecord⟩
    exact hhollow.not_isRecord hrecord
  · exact ofJson_eq_ok.mpr ⟨members, hdata, .inr ⟨hhollow, rfl⟩⟩

/-- Values of each kind are read in their order, a number after them is refused with its key, and an empty
list in their place is read as none. -/
theorem answers_of_each_kind_are_read_or_refused :
    let answer (flags : Json) : Json := .obj [("featureFlags", flags)]
    let flags : Members := [("split", .str "test"), ("old", .null), ("beta", .bool true)]
    let older : Members := flags ++ [("age", .int 7)]
    ofJson (answer (.obj flags)) = .ok [("split", .variant "test"), ("old", .off), ("beta", .on)] ∧
      (∃ e, ofJson (answer (.obj older)) = .error e ∧ e = .notFlagValue "age" (.int 7) ∧
        e.report.kind = .decode) ∧
      ofJson (answer (.arr [])) = .ok [] := by
  intro answer flags older
  have hfull (flags : Members) : ¬ IsObject Hollow (answer (.obj flags)) := by
    rintro ⟨_, ⟨⟩, v, ⟨⟩, -, -, hobj⟩
    exact hobj flags rfl
  have hhollow : IsObject Hollow (answer (.arr [])) := ⟨_, rfl, .arr [], rfl, rfl, by simp, by simp⟩
  obtain ⟨-, hread, -⟩ := (read_iff_well_typed_unless_hollow _).1 (hfull flags)
  obtain ⟨-, -, hrefused⟩ := (read_iff_well_typed_unless_hollow _).1 (hfull older)
  obtain ⟨-, hnone⟩ := (read_iff_well_typed_unless_hollow _).2 hhollow
  refine ⟨(hread _).mpr ⟨_, rfl, ⟨.given ⟨flags, rfl, ?_⟩⟩⟩, ?_, hnone⟩
  · exact .cons ⟨rfl, .variant "test"⟩ (.cons ⟨rfl, .null⟩ (.cons ⟨rfl, .bool true⟩ .nil))
  · have hnot : ¬ IsObject IsRecord (answer (.obj older)) := by
      rintro ⟨_, ⟨⟩, ⟨_ | _ | ⟨_, ⟨⟩, hall⟩⟩⟩
      have hage := hall ("age", .int 7) (by simp [older])
      simp [IsFlagValue] at hage
    obtain ⟨e, he, -, hkind⟩ := hrefused hnot
    exact ⟨e, he, Except.error.inj (he.symm.trans rfl), hkind⟩

/-- **False is read as no decisions**, although a listing with false in the place of the flags is refused. -/
theorem false_is_read_as_no_decisions :
    let answer : Json := .obj [("featureFlags", .bool false)]
    ofJson answer = .ok [] ∧ ¬ IsObject IsRecord answer ∧
      Flag.listOfJson (.obj [("results", .bool false)]) = .error (.notList "results" .bool) := by
  intro answer
  have hhollow : Hollow [("featureFlags", .bool false)] := ⟨.bool false, rfl, rfl, by simp, by simp⟩
  refine ⟨rfl, ?_, rfl⟩
  rintro ⟨members, hanswer, hrecord⟩
  obtain rfl := Json.obj.inj hanswer
  exact hhollow.not_isRecord hrecord

end Decisions

end FeatureFlags
