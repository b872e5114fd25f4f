import FeatureFlags.Proofs.Evaluation.Place
import FeatureFlags.Proofs.Flag.Grammar
import FeatureFlags.Proofs.Net.Form
import Mathlib.Data.List.TakeDrop
import Mathlib.Data.List.TakeWhile

/-!
# `Proofs.Net.Resource` — the query in the text of a resource

In a text the first question mark begins the query, and the first number sign the fragment.  In what stands
before the query there is neither of them: what is written by escaping has none, and a host that is written
in ASCII brings none in (`hostForm_unmarked`).  So a resource that was read from a text, and changed part
by part, has the query in its text that it was given (`query_text`).

## Contents

1. Texts without marks
2. Domain names
3. Parts
4. The text of a resource
-/

namespace FeatureFlags

/-! ## Texts without marks -/

/-- A character is not brought in by escaping if it is neither kept nor a part of escapes. -/
theorem Percent.notMem_quote {keep : Char → Bool} {m : Char} (hkeep : keep m = false) (hsign : m ≠ '%')
    (hvalue : value? m = none) (cs : List Char) : m ∉ quote keep cs := by
  have hdigit : ¬ IsDigit m := by
    rintro ⟨n, hn, rfl⟩
    cases (value?_digit hn).symm.trans hvalue
  have hchar (c : Char) : m ∉ encodeChar keep c := by
    intro hm
    rcases mem_encodeChar hm with hm | hm | hm
    · simp [hkeep] at hm
    · exact hsign hm
    · exact hdigit hm
  fun_induction quote keep cs with
  | case1 => exact List.not_mem_nil
  | case2 a b rest hbyte ih =>
      -- the digits of an escape that is there already
      have hdigits : m ≠ a ∧ m ≠ b := by
        constructor <;> rintro rfl
        · simp [byte?, hvalue] at hbyte
        · cases ha : value? a <;> simp [byte?, ha, hvalue] at hbyte
      simp [hsign, hdigits, ih]
  | case3 a b rest hbyte ih => exact fun hm => (List.mem_append.mp hm).elim (hchar '%') ih
  | case4 c rest hno ih => exact fun hm => (List.mem_append.mp hm).elim (hchar c) ih

/-- Neither a query nor a fragment begins in a text. -/
def Unmarked (cs : List Char) : Prop := ∀ c ∈ cs, c ≠ '?' ∧ c ≠ '#'

namespace Unmarked

variable {cs ds : List Char}

theorem nil : Unmarked [] := fun _ hc => absurd hc List.not_mem_nil

theorem mono (h : Unmarked ds) (hsub : cs ⊆ ds) : Unmarked cs := fun c hc => h c (hsub hc)

theorem append (hc : Unmarked cs) (hd : Unmarked ds) : Unmarked (cs ++ ds) :=
  fun c h => (List.mem_append.mp h).elim (hc c) (hd c)

theorem cons {c : Char} (hc : c ≠ '?' ∧ c ≠ '#') (h : Unmarked cs) : Unmarked (c :: cs) :=
  List.forall_mem_cons.mpr ⟨hc, h⟩

/-- Parts that are joined are joined without marks. -/
theorem intercalate {parts : List (List Char)} {c : Char} (hc : c ≠ '?' ∧ c ≠ '#')
    (h : ∀ part ∈ parts, Unmarked part) : Unmarked ([c].intercalate parts) := by
  intro d hd
  rcases mem_of_mem_intercalate hd with rfl | ⟨part, hpart, hmem⟩
  · exact hc
  · exact h part hpart d hmem

/-- What is escaped has no marks, unless they are kept. -/
theorem quote {keep : Char → Bool} (hkeep : keep '?' = false ∧ keep '#' = false) (cs : List Char) :
    Unmarked (Percent.quote keep cs) := by
  intro c hc
  constructor <;> rintro rfl
  · exact Percent.notMem_quote hkeep.1 (by decide) (by decide) cs hc
  · exact Percent.notMem_quote hkeep.2 (by decide) (by decide) cs hc

end Unmarked

/-! ## Domain names -/

/-- A number beyond a character does not give it, and neither does one that is no code point. -/
theorem ofNat_ne_of_lt {n : Nat} {c : Char} (h : c.toNat < n) (h0 : 0 < c.toNat) : Char.ofNat n ≠ c := by
  rintro rfl
  by_cases hn : n.isValidChar
  · have hcode : (Char.ofNat n).toNat = n := by
      rw [Char.ofNat, dif_pos hn]
      rfl
    omega
  · have hcode : (Char.ofNat n).toNat = 0 := by
      rw [Char.ofNat, dif_neg hn]
      rfl
    omega

/-- A map on characters gives no marks, unless there are marks already, if its entries lead beyond them. -/
theorem CodeMap.apply_unmarked {m : CodeMap} (hm : ∀ e ∈ m.table, 0x40 < e.first + e.shift) {c : Char}
    (hc : c ≠ '?' ∧ c ≠ '#') : m.apply c ≠ '?' ∧ m.apply c ≠ '#' := by
  unfold apply
  cases hs : CodeTable.search m.table c.toNat 0 m.table.size with
  | none => exact hc
  | some e =>
      obtain ⟨hmem, hcovers⟩ := CodeTable.search_eq_some hs (Nat.le_refl _)
      simp only [CodeTable.Entry.covers, Bool.and_eq_true, decide_eq_true_eq] at hcovers
      have hfirst := hm e hmem
      have hbeyond : 0x40 < ((c.toNat : Int) + e.shift).toNat := by omega
      have hquestion : '?'.toNat = 0x3F := rfl
      have hnumber : '#'.toNat = 0x23 := rfl
      exact ⟨ofNat_ne_of_lt (by omega) (by decide), ofNat_ne_of_lt (by omega) (by decide)⟩

namespace Text

-- The text is given by its characters: to decode the literal is slow.
set_option maxRecDepth 40000 in
theorem exists_lowerMap : ∃ cs, lowerMap = .ofText (String.ofList cs) ∧
    (CodeTable.wordsOf cs).all fun word =>
      let e := CodeTable.Entry.ofWord word
      0x40 < e.first + e.shift :=
  ⟨_, rfl, by decide +kernel⟩

/-- Small letters of other characters lie beyond the marks. -/
theorem lowerMap_spec {e : CodeTable.Entry} (h : e ∈ lowerMap.table) : 0x40 < e.first + e.shift := by
  obtain ⟨cs, hmap, hall⟩ := exists_lowerMap
  rw [hmap, CodeMap.ofText, CodeTable.entries, CodeTable.words_ofList, List.mem_toArray] at h
  obtain ⟨word, hword, rfl⟩ := List.mem_map.mp h
  exact of_decide_eq_true (List.all_eq_true.mp hall word hword)

theorem lowerChar_unmarked (before after : List Char) {c : Char} (hc : c ≠ '?' ∧ c ≠ '#') :
    Unmarked (lowerChar before c after) := by
  unfold lowerChar
  split_ifs
  · exact Unmarked.nil.cons (by decide)
  · exact Unmarked.nil.cons (by decide)
  · exact (Unmarked.nil.cons (by decide)).cons (by decide)
  · exact Unmarked.nil.cons (CodeMap.apply_unmarked (fun e he => lowerMap_spec he) hc)

/-- **Small letters bring no marks in.** -/
theorem lowerCase_unmarked {cs : List Char} (h : Unmarked cs) : Unmarked (lowerCase cs) := by
  suffices hafter : ∀ before, Unmarked (lowerAfter before cs) from hafter []
  induction cs with
  | nil => exact fun _ => Unmarked.nil
  | cons c rest ih =>
      intro before
      obtain ⟨hc, hrest⟩ := List.forall_mem_cons.mp h
      exact (lowerChar_unmarked before rest hc).append (ih hrest _)

end Text

namespace Punycode

theorem digit_unmarked {d : Nat} (h : d < 36) : digit d ≠ '?' ∧ digit d ≠ '#' := by
  have hall : ∀ d : Fin 36, digit d ≠ '?' ∧ digit d ≠ '#' := by decide +kernel
  exact hall ⟨d, h⟩

theorem digits_unmarked (bias position n : Nat) : Unmarked (digits bias position n) := by
  have hle := threshold_le
  fun_induction digits bias position n with
  | case1 position n t h =>
      refine Unmarked.nil.cons (digit_unmarked ?_)
      have := hle position bias
      omega
  | case2 position n t h hlt ih =>
      refine ih.cons (digit_unmarked ?_)
      have := hle position bias
      have := Nat.mod_lt (n - t) (show 0 < 36 - t by omega)
      omega

theorem pass_unmarked (n : Nat) {p : Progress} (h : Unmarked p.output) (c : Char) :
    Unmarked (p.pass n c).output := by
  unfold Progress.pass
  split_ifs
  · exact h
  · exact h.append (digits_unmarked _ _ _)
  · exact h

theorem writeCodes_unmarked (text : List Char) (codes : List Nat) (previous : Nat) {p : Progress}
    (h : Unmarked p.output) : Unmarked (writeCodes text previous p codes).output := by
  induction codes generalizing previous p with
  | nil => exact h
  | cons n rest ih =>
      -- the text is gone through once for each code
      have hpass (cs : List Char) {q : Progress} (hq : Unmarked q.output) :
          Unmarked (cs.foldl (Progress.pass n) q).output := by
        induction cs generalizing q with
        | nil => exact hq
        | cons c cs ihc => exact ihc (pass_unmarked n hq c)
      exact ih (n + 1) (hpass text h)

/-- **Punycode brings no marks in.** -/
theorem encode_unmarked {cs : List Char} (h : Unmarked cs) : Unmarked (encode cs) := by
  have hbasic : Unmarked (cs.filter fun c => c.toNat < 0x80) := h.mono (List.filter_subset_self _)
  refine writeCodes_unmarked _ _ _ ?_
  dsimp only
  split_ifs
  · exact Unmarked.nil
  · exact hbasic.append (Unmarked.nil.cons (by decide))

end Punycode

namespace Domain

/-- What is given behind a check is given if the check allows it. -/
theorem eq_of_checked {ε α : Type} {p : Prop} [Decidable p] {e : ε} {a b : α}
    (h : (if p then (throw e : Except ε PUnit) >>= fun _ => pure a else pure a) = .ok b) : b = a := by
  split at h
  · cases h
  · exact (Except.ok.inj h).symm

/-- A label in ASCII is written as it is, and another one in Punycode. -/
theorem eq_of_encodeLabel {cs written : List Char} (h : encodeLabel cs = .ok written) :
    written = cs ∨ written = sign ++ Punycode.encode cs := by
  unfold encodeLabel at h
  dsimp only at h
  split at h
  · obtain ⟨_, -, h⟩ := bind_eq_ok.mp h
    exact .inl (eq_of_checked h)
  · obtain ⟨_, -, h⟩ := bind_eq_ok.mp h
    exact .inr (eq_of_checked h)

theorem encodeLabel_unmarked {cs written : List Char} (h : Unmarked cs)
    (hw : encodeLabel cs = .ok written) : Unmarked written := by
  have hall : sign.all fun c => c ≠ '?' ∧ c ≠ '#' := by decide +kernel
  have hsign : Unmarked sign := fun c hc => of_decide_eq_true (List.all_eq_true.mp hall c hc)
  rcases eq_of_encodeLabel hw with rfl | rfl
  · exact h
  · exact hsign.append (Punycode.encode_unmarked h)

/-- The parts of a text are made of its characters. -/
theorem subset_of_mem_splitOnP {p : Char → Bool} {cs part : List Char} (h : part ∈ cs.splitOnP p) :
    part ⊆ cs := by
  induction cs generalizing part with
  | nil =>
      rw [List.splitOnP_nil, List.mem_singleton] at h
      rw [h]
      exact List.nil_subset _
  | cons c rest ih =>
      rw [List.splitOnP_cons_eq_if_modifyHead] at h
      split at h
      · rcases List.mem_cons.mp h with hpart | h
        · rw [hpart]
          exact List.nil_subset _
        · exact List.subset_cons_of_subset c (ih h)
      · cases hparts : rest.splitOnP p with
        | nil => simp [hparts] at h
        | cons first parts =>
            rw [hparts, List.modifyHead_cons] at h
            rcases List.mem_cons.mp h with rfl | h
            · exact List.cons_subset_cons c (ih (hparts ▸ List.mem_cons_self))
            · exact List.subset_cons_of_subset c (ih (hparts ▸ List.mem_cons_of_mem _ h))

theorem labels_unmarked {cs : List Char} {parts : List (List Char)} {dotted : Bool} (h : Unmarked cs)
    (hl : labels cs = .ok (parts, dotted)) : ∀ part ∈ parts, Unmarked part := by
  unfold labels at hl
  split at hl
  · cases hl
  · split at hl
    · cases hl
    · split at hl
      · obtain ⟨rfl, -⟩ := Prod.mk.inj (Except.ok.inj hl)
        exact fun part hpart => h.mono (subset_of_mem_splitOnP (List.dropLast_subset _ hpart))
      · obtain ⟨rfl, -⟩ := Prod.mk.inj (Except.ok.inj hl)
        exact fun part hpart => h.mono (subset_of_mem_splitOnP hpart)

theorem mapM_encodeLabel_unmarked {parts written : List (List Char)} (h : ∀ part ∈ parts, Unmarked part)
    (hw : parts.mapM (fun part => (encodeLabel part).mapError Fault.label) = .ok written) :
    ∀ label ∈ written, Unmarked label := by
  have heach := mapM_eq_ok.mp hw
  clear hw
  induction heach with
  | nil => exact fun label hlabel => absurd hlabel List.not_mem_nil
  | @cons part label _ _ hlabel _ ih =>
      obtain ⟨hpart, hrest⟩ := List.forall_mem_cons.mp h
      refine List.forall_mem_cons.mpr ⟨?_, ih hrest⟩
      cases hlabel' : encodeLabel part with
      | error e => simp [hlabel', Except.mapError] at hlabel
      | ok written =>
          rw [hlabel'] at hlabel
          exact Except.ok.inj hlabel ▸ encodeLabel_unmarked hpart hlabel'

/-- **A domain name is written without marks**, unless it has some. -/
theorem encode_unmarked {cs name : List Char} (h : Unmarked cs) (hn : encode cs = .ok name) :
    Unmarked name := by
  obtain ⟨⟨parts, dotted⟩, hl, hn⟩ := bind_eq_ok.mp hn
  obtain ⟨written, hwritten, hn⟩ := bind_eq_ok.mp hn
  have hlabels := mapM_encodeLabel_unmarked (labels_unmarked h hl) hwritten
  obtain rfl := eq_of_checked hn
  refine (Unmarked.intercalate (by decide) hlabels).append ?_
  split
  · exact Unmarked.nil.cons (by decide)
  · exact Unmarked.nil

end Domain

/-! ## Parts -/

namespace Url

/-- **A host is brought into its form without marks.** -/
theorem hostForm_unmarked {cs host : List Char} (h : Unmarked cs) (hh : hostForm cs = .ok host) :
    Unmarked host := by
  unfold hostForm at hh
  split at hh
  · exact Except.ok.inj hh ▸ Unmarked.nil
  split at hh
  · -- an address of four numbers stays as it is
    split at hh
    · exact Except.ok.inj hh ▸ h
    · cases hh
  split at hh
  · -- an address in brackets loses them
    dsimp only at hh
    split at hh
    · have hinner : (cs.drop 1).dropLast ⊆ cs := fun c hc => List.mem_of_mem_drop (List.dropLast_subset _ hc)
      exact Except.ok.inj hh ▸ h.mono hinner
    · cases hh
  split at hh
  · -- in ASCII, marks are escaped
    exact Except.ok.inj hh ▸ Unmarked.quote (by decide) _
  · split at hh
    · next name hname =>
        obtain rfl := Except.ok.inj hh
        exact Domain.encode_unmarked (Text.lowerCase_unmarked h) hname
    · cases hh

/-- The host in an authority is a part of it. -/
theorem splitHost_unmarked {cs : List Char} (h : Unmarked cs) : Unmarked (Parts.splitHost cs).2.1 := by
  have hlast : (cs.reverse.takeWhile (· ≠ '@')).reverse ⊆ cs := by
    intro c hc
    have hmem := (List.takeWhile_sublist _).subset (List.mem_reverse.mp hc)
    exact List.mem_reverse.mp hmem
  unfold Parts.splitHost
  dsimp only
  split
  all_goals
    dsimp only
    split_ifs
    · exact h.mono fun c hc => hlast (List.mem_of_mem_take hc)
    · exact h.mono fun c hc => hlast ((List.takeWhile_sublist _).subset hc)

/-- No query and no fragment begins in the parts of a resource that stand before its query, and no fragment
in its query. -/
structure Framed (u : Url) : Prop where
  scheme : Unmarked u.scheme.toList
  userinfo : Unmarked u.userinfo.toList
  host : Unmarked u.host.toList
  path : Unmarked u.path.toList
  query : ∀ q ∈ u.query, '#' ∉ q.toList

theorem toLower_unmarked {c : Char} (h : c ≠ '?' ∧ c ≠ '#') : c.toLower ≠ '?' ∧ c.toLower ≠ '#' := by
  by_cases hc : c.toNat < 0x80
  · have hall (c : Char) (hc : c.toNat < 0x80) :
        c ≠ '?' ∧ c ≠ '#' → c.toLower ≠ '?' ∧ c.toLower ≠ '#' :=
      forall_ascii (P := fun c => c ≠ '?' ∧ c ≠ '#' → c.toLower ≠ '?' ∧ c.toLower ≠ '#')
        (by decide +kernel) hc
    exact hall c hc h
  · have hlower : c.toLower = c := by
      refine dif_neg ?_
      rintro ⟨-, hle⟩
      have hval : c.val.toNat = c.toNat := rfl
      have hcapital : 'Z'.val.toNat = 90 := rfl
      rw [UInt32.le_iff_toNat_le] at hle
      omega
    rwa [hlower]

/-- What the form of parts consists of. -/
theorem exists_of_ofParts {p : Parts} {u : Url} (hu : ofParts p = .ok u) :
    ∃ host path, hostForm (Parts.splitHost p.authority).2.1 = .ok host ∧
      u.scheme = String.ofList (p.scheme.map Char.toLower) ∧
      u.userinfo = String.ofList (Percent.quote keptInUserinfo (Parts.splitHost p.authority).1) ∧
      u.host = String.ofList host ∧ u.path = String.ofList (Percent.quote keptInPath path) ∧
      u.query = p.query.map fun q => String.ofList (Percent.quote keptInQuery q) := by
  obtain ⟨host, hhost, hu⟩ := bind_eq_ok.mp hu
  obtain ⟨port, hport, hu⟩ := bind_eq_ok.mp hu
  obtain ⟨_, hpath, hu⟩ := bind_eq_ok.mp hu
  obtain rfl := Except.ok.inj hu
  exact ⟨host, _, hhost, rfl, rfl, rfl, rfl, rfl⟩

theorem ofParts_framed {p : Parts} {u : Url} (hscheme : Unmarked p.scheme) (hauthority : Unmarked p.authority)
    (hu : ofParts p = .ok u) : u.Framed := by
  obtain ⟨host, path, hhost, hs, hi, hh, hp, hq⟩ := exists_of_ofParts hu
  refine ⟨?_, ?_, ?_, ?_, ?_⟩
  · rw [hs, String.toList_ofList]
    intro c hc
    obtain ⟨d, hd, rfl⟩ := List.mem_map.mp hc
    exact toLower_unmarked (hscheme d hd)
  · rw [hi, String.toList_ofList]
    exact Unmarked.quote (by decide) _
  · rw [hh, String.toList_ofList]
    exact hostForm_unmarked (splitHost_unmarked hauthority) hhost
  · rw [hp, String.toList_ofList]
    exact Unmarked.quote (by decide) _
  · intro q hmem
    rw [hq] at hmem
    obtain ⟨q, -, rfl⟩ := Option.map_eq_some_iff.mp hmem
    rw [String.toList_ofList]
    exact Percent.notMem_quote (by decide) (by decide) (by decide) q

/-- The characters of a number in decimal are no marks. -/
theorem toString_unmarked (n : Int) : Unmarked (toString n).toList := by
  have hnat (n : Nat) : Unmarked n.repr.toList := by
    intro c hc
    have hdigit : c.isDigit := Nat.isDigit_of_mem_toDigits (by decide) (by decide) (String.toList_ofList ▸ hc)
    constructor <;> rintro rfl <;> exact absurd hdigit (by decide)
  cases n with
  | ofNat n => exact hnat n
  | negSucc n =>
      show Unmarked ("-" ++ n.succ.repr).toList
      rw [String.toList_append]
      exact (Unmarked.nil.cons (by decide)).append (hnat _)

theorem Framed.authority {u : Url} (h : u.Framed) : Unmarked u.authority.toList := by
  unfold Url.authority
  rw [String.toList_append, String.toList_append]
  refine (Unmarked.append ?_ ?_).append ?_
  · split_ifs
    · exact Unmarked.nil
    · rw [String.toList_append]
      exact h.userinfo.append (Unmarked.nil.cons (by decide))
  · split_ifs
    · rw [String.toList_append, String.toList_append]
      exact (Unmarked.append (Unmarked.nil.cons (by decide)) h.host).append (Unmarked.nil.cons (by decide))
    · exact h.host
  · split
    · rw [String.toList_append]
      exact Unmarked.append (Unmarked.nil.cons (by decide)) (toString_unmarked _)
    · exact Unmarked.nil

/-- A resource that is changed part by part stays so. -/
theorem reform_framed {p : Parts} {u : Url} (hscheme : Unmarked p.scheme) (hauthority : Unmarked p.authority)
    (hu : reform p = .ok u) : u.Framed := by
  obtain ⟨_, -, hu⟩ := bind_eq_ok.mp hu
  obtain ⟨_, -, hu⟩ := bind_eq_ok.mp hu
  obtain ⟨_, -, hu⟩ := bind_eq_ok.mp hu
  obtain ⟨_, -, hu⟩ := bind_eq_ok.mp hu
  obtain ⟨_, -, hu⟩ := bind_eq_ok.mp hu
  obtain ⟨_, -, hu⟩ := bind_eq_ok.mp hu
  exact ofParts_framed hscheme hauthority hu

theorem Framed.withTarget {u v : Url} (h : u.Framed) {target : String} (hv : u.withTarget target = .ok v) :
    v.Framed := reform_framed h.scheme h.authority hv

theorem Framed.withQuery {u v : Url} (h : u.Framed) {query : List Char} (hv : u.withQuery query = .ok v) :
    v.Framed := reform_framed h.scheme h.authority hv

/-! ## The text of a resource -/

namespace Parts

/-- What is split off as a scheme has no marks. -/
theorem exists_splitScheme (cs : List Char) :
    ∃ front, Unmarked front ∧ Unmarked (splitScheme cs).1 ∧ cs = front ++ (splitScheme cs).2 := by
  let isPart (c : Char) : Bool := c.isAlphanum || c == '+' || c == '.' || c == '-'
  let name := if cs.head?.any Char.isAlpha then cs.takeWhile isPart else []
  have hname : Unmarked name ∧ name ++ cs.drop name.length = cs := by
    simp only [name]
    split_ifs
    · refine ⟨fun c hc => ?_, ?_⟩
      · have hpart : isPart c := List.mem_takeWhile_imp hc
        constructor <;> rintro rfl <;> exact absurd hpart (by decide)
      · exact List.prefix_iff_eq_append.mp (List.takeWhile_prefix isPart)
    · exact ⟨Unmarked.nil, rfl⟩
  obtain ⟨hunmarked, hsplit⟩ := hname
  unfold splitScheme
  dsimp only
  split
  · next rest hrest =>
      refine ⟨name ++ [':'], hunmarked.append (Unmarked.nil.cons (by decide)), hunmarked, ?_⟩
      rw [List.append_assoc, List.singleton_append, ← hrest]
      exact hsplit.symm
  · exact ⟨[], Unmarked.nil, Unmarked.nil, rfl⟩

theorem exists_splitAuthority (cs : List Char) :
    ∃ front, Unmarked front ∧ Unmarked (splitAuthority cs).1 ∧ cs = front ++ (splitAuthority cs).2 := by
  unfold splitAuthority
  split
  · next rest =>
      let isPart (c : Char) : Bool := c ≠ '/' ∧ c ≠ '?' ∧ c ≠ '#'
      have hunmarked : Unmarked (rest.takeWhile isPart) := by
        intro c hc
        have hpart : isPart c := List.mem_takeWhile_imp hc
        exact (of_decide_eq_true hpart).2
      rw [List.span_eq_takeWhile_dropWhile]
      refine ⟨'/' :: '/' :: rest.takeWhile isPart, (hunmarked.cons (by decide)).cons (by decide),
        hunmarked, ?_⟩
      rw [List.cons_append, List.cons_append, List.takeWhile_append_dropWhile]
  · exact ⟨[], Unmarked.nil, Unmarked.nil, rfl⟩

/-- A split is made behind what does not have the character. -/
theorem splitTail_append {mark : Char} {front : List Char} (h : mark ∉ front) (cs : List Char) :
    splitTail mark (front ++ cs) = (front ++ (splitTail mark cs).1, (splitTail mark cs).2) := by
  have hfront : ∀ c ∈ front, (c ≠ mark : Bool) := by
    intro c hc
    rw [decide_eq_true_iff]
    rintro rfl
    exact h hc
  unfold splitTail
  rw [List.span_eq_takeWhile_dropWhile, List.span_eq_takeWhile_dropWhile,
    List.takeWhile_append_of_pos hfront, List.dropWhile_append_of_pos hfront]
  cases cs.dropWhile (· ≠ mark) <;> rfl

/-- The query of a text begins with its first question mark, if that stands before the fragment. -/
theorem query_ofText (cs : List Char) :
    (ofText cs).query = (splitTail '?' (splitTail '#' cs).1).2 := by
  obtain ⟨front, hfront, -, hcs⟩ := exists_splitScheme cs
  obtain ⟨more, hmore, -, hrest⟩ := exists_splitAuthority (splitScheme cs).2
  have hunmarked : Unmarked (front ++ more) := hfront.append hmore
  have hquestion : '?' ∉ front ++ more := fun hc => (hunmarked _ hc).1 rfl
  have hnumber : '#' ∉ front ++ more := fun hc => (hunmarked _ hc).2 rfl
  show (splitTail '?' (splitTail '#' (splitAuthority (splitScheme cs).2).2).1).2 = _
  rw [hrest, ← List.append_assoc] at hcs
  conv_rhs => rw [hcs]
  rw [splitTail_append hnumber, splitTail_append hquestion]

end Parts

theorem parse_framed {s : String} {u : Url} (h : parse s = .ok u) : u.Framed := by
  unfold parse at h
  dsimp only at h
  split at h
  · cases h
  split at h
  · cases h
  · obtain ⟨_, _, hscheme, _⟩ := Parts.exists_splitScheme s.toList
    obtain ⟨_, _, hauthority, _⟩ := Parts.exists_splitAuthority (Parts.splitScheme s.toList).2
    exact ofParts_framed hscheme hauthority h

/-- What stands before the query in the text of a resource. -/
def front (u : Url) : String :=
  (if u.scheme.isEmpty then "" else u.scheme ++ ":") ++
    (if u.authority.isEmpty then "" else "//" ++ u.authority) ++ u.path

theorem Framed.front {u : Url} (h : u.Framed) : Unmarked u.front.toList := by
  rw [Url.front, String.toList_append, String.toList_append]
  refine (Unmarked.append ?_ ?_).append h.path
  · split_ifs
    · exact Unmarked.nil
    · rw [String.toList_append]
      exact h.scheme.append (Unmarked.nil.cons (by decide))
  · split_ifs
    · exact Unmarked.nil
    · rw [String.toList_append]
      exact Unmarked.append ((Unmarked.nil.cons (by decide)).cons (by decide)) h.authority

/-- A part of a text behind the mark that it begins with, if there is one. -/
def marked (mark : Char) : Option String → List Char
  | some part => mark :: part.toList
  | none => []

theorem splitTail_marked (mark : Char) (part : Option String) :
    Parts.splitTail mark (marked mark part) = ([], part.map String.toList) := by
  cases part with
  | none => rfl
  | some part => simp [marked, Parts.splitTail, List.span_eq_takeWhile_dropWhile]

theorem toList_text (u : Url) :
    u.text.toList = u.front.toList ++ (marked '?' u.query ++ marked '#' u.fragment) := by
  cases hquery : u.query <;> cases hfragment : u.fragment <;> simp [text, front, marked, hquery, hfragment]

/-- **The query in the text of a resource** is the one that it has. -/
theorem query_text {u : Url} (h : u.Framed) :
    (Parts.ofText u.text.toList).query = u.query.map String.toList := by
  have hquestion : '?' ∉ u.front.toList := fun hc => (h.front _ hc).1 rfl
  have hnumber : '#' ∉ u.front.toList := fun hc => (h.front _ hc).2 rfl
  have hquery : '#' ∉ marked '?' u.query := by
    cases hq : u.query with
    | none => exact List.not_mem_nil
    | some q => exact List.not_mem_cons_of_ne_of_not_mem (by decide) (h.query q hq)
  rw [Parts.query_ofText, toList_text, Parts.splitTail_append hnumber, Parts.splitTail_append hquery,
    splitTail_marked, List.append_nil, Parts.splitTail_append hquestion, splitTail_marked]

end Url

end FeatureFlags
