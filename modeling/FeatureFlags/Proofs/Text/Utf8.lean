import FeatureFlags.Proofs.Flag.Grammar
import FeatureFlags.Text.Utf8

/-!
# `Proofs.Text.Utf8` — what is read as UTF-8

The reader takes bytes apart by what the first byte of a character promises.  It is measured against the
encoding, which goes the other way round and says nothing about reading: `decode_eq_ok_iff` says that bytes
are read as a text exactly if they are its encoding.  So overlong forms, halves of pairs and whatever lies
beyond the last code point are refused, since no text has them in its encoding.

## Contents

1. The encoding of a text
2. What first bytes promise
3. A character that is encoded is read
4. A character that is read is encoded
5. Texts
-/

namespace FeatureFlags

namespace Utf8

/-! ## The encoding of a text -/

theorem toList_loop (bytes : ByteArray) (i : Nat) (before : List UInt8) :
    ByteArray.toList.loop bytes i before = before.reverse ++ bytes.data.toList.drop i := by
  fun_induction ByteArray.toList.loop bytes i before with
  | case1 i before h ih =>
      have hi : i < bytes.data.toList.length := h
      have hget : bytes.get! i = bytes.data.toList[i] := getElem!_pos bytes.data i h
      rw [ih, List.drop_eq_getElem_cons hi, hget, List.reverse_cons, List.append_assoc,
        List.singleton_append]
  | case2 i before h =>
      have hi : bytes.data.toList.length ≤ i := Nat.le_of_not_lt h
      rw [List.drop_eq_nil_of_le hi, List.append_nil]

/-- A text is encoded character by character. -/
theorem encode_eq (s : String) : encode s = s.toList.flatMap String.utf8EncodeChar := by
  rw [encode, ByteArray.toList, toList_loop, List.reverse_nil, List.nil_append, List.drop_zero,
    String.toUTF8, ← String.utf8Encode_toList, List.utf8Encode, List.toList_data_toByteArray]

/-! ## What first bytes promise -/

/-- What the first byte of a character promises: how many bytes follow, and in which range the next one
lies.  It is narrower than that of further bytes where there would be overlong forms, halves of pairs, or
code points beyond the last. -/
inductive Promise (b : Nat) (l : Lead) : Prop where
  | alone (hb : b < 0x80) (hl : l = { bits := b, need := 0 })
  | two (hb : 0xC2 ≤ b ∧ b < 0xE0) (hl : l = { bits := b - 0xC0, need := 1 })
  | three (hb : 0xE0 ≤ b ∧ b < 0xF0)
      (hl : l = ⟨b - 0xE0, 2, if b = 0xE0 then 0xA0 else 0x80, if b = 0xED then 0x9F else 0xBF⟩)
  | four (hb : 0xF0 ≤ b ∧ b ≤ 0xF4)
      (hl : l = ⟨b - 0xF0, 3, if b = 0xF0 then 0x90 else 0x80, if b = 0xF4 then 0x8F else 0xBF⟩)

theorem promise_of_lead? {b : Nat} {l : Lead} (h : lead? b = some l) : Promise b l := by
  unfold lead? at h
  split_ifs at h with h1 h2 h3 h4 h5 h6 h7 h8 h9 <;> simp only [Option.some.injEq] at h <;> subst h
  · exact .alone h1 rfl
  · exact .two (by omega) rfl
  · exact .three (by omega) (by rw [if_pos h4, if_neg (by omega), h4])
  · exact .three (by omega) (by rw [if_neg h4, if_pos h5, h5])
  · exact .three (by omega) (by rw [if_neg h4, if_neg h5])
  · exact .four (by omega) (by rw [if_pos h7, if_neg (by omega), h7])
  · exact .four (by omega) (by rw [if_neg h7, if_neg (by omega)])
  · exact .four (by omega) (by rw [if_neg h7, if_pos h9, h9])

/-- Bytes that begin a character have a promise, and it is the only one there is. -/
theorem lead?_of_promise {b : Nat} {l : Lead} (h : Promise b l) : lead? b = some l := by
  cases h with
  | alone hb hl => rw [lead?, if_pos hb, hl]
  | two hb hl => rw [lead?, if_neg (by omega), if_neg (by omega), if_pos hb.2, hl]
  | three hb hl =>
      rw [lead?, if_neg (by omega), if_neg (by omega), if_neg (by omega), hl]
      by_cases h0 : b = 0xE0
      · rw [if_pos h0, if_pos h0, if_neg (by omega), h0]
      by_cases hD : b = 0xED
      · rw [if_neg h0, if_pos hD, if_neg h0, if_pos hD, hD]
      · rw [if_neg h0, if_neg hD, if_pos hb.2, if_neg h0, if_neg hD]
  | four hb hl =>
      rw [lead?, if_neg (by omega), if_neg (by omega), if_neg (by omega), if_neg (by omega),
        if_neg (by omega), if_neg (by omega), hl]
      by_cases h0 : b = 0xF0
      · rw [if_pos h0, if_pos h0, if_neg (by omega), h0]
      by_cases h4 : b = 0xF4
      · rw [if_neg h0, if_neg (by omega), if_pos h4, if_neg h0, if_pos h4, h4]
      · rw [if_neg h0, if_pos (by omega), if_neg h0, if_neg h4]

theorem readTail_zero (code low high : Nat) (bytes : List UInt8) :
    readTail code low high 0 bytes = .ok code := by
  cases bytes <;> rfl

/-- A further byte in its range adds six bits. -/
theorem readTail_eq_ok {code low high need n : Nat} {bytes : List UInt8} :
    readTail code low high (need + 1) bytes = .ok n ↔ ∃ b rest, bytes = b :: rest ∧
      (low ≤ b.toNat ∧ b.toNat ≤ high) ∧
        readTail (64 * code + b.toNat % 64) 0x80 0xBF need rest = .ok n := by
  cases bytes with
  | nil => simp [readTail]
  | cons b rest =>
      have hmap : ∀ r : Except (Nat × Fault) Nat,
          r.mapError (fun e => (e.1 + 1, e.2)) = .ok n ↔ r = .ok n := by
        intro r
        cases r <;> simp [Except.mapError]
      rw [readTail]
      split_ifs with hb
      · simp [hmap, hb]
      · simp [hb]

/-! ## A character that is encoded is read -/

theorem readTail_ofNat {code low high need n m : Nat} {rest : List UInt8} (hm : low ≤ m ∧ m ≤ high)
    (h : m < 256) (hrest : readTail (64 * code + m % 64) 0x80 0xBF need rest = .ok n) :
    readTail code low high (need + 1) (UInt8.ofNat m :: rest) = .ok n := by
  rw [readTail_eq_ok]
  exact ⟨_, _, rfl, by rwa [UInt8.toNat_ofNat_of_lt' h], by rwa [UInt8.toNat_ofNat_of_lt' h]⟩

/-- **An encoded character is what its first byte promises**, and is read as itself. -/
theorem exists_promise (c : Char) : ∃ m tail l, String.utf8EncodeChar c = UInt8.ofNat m :: tail ∧ m < 256 ∧
    Promise m l ∧ tail.length = l.need ∧
      ∀ rest, readTail l.bits l.low l.high l.need (tail ++ rest) = .ok c.toNat := by
  have hvalid : c.toNat < 0xD800 ∨ (0xDFFF < c.toNat ∧ c.toNat < 0x110000) := c.valid
  have hval : c.val.toNat = c.toNat := rfl
  unfold String.utf8EncodeChar
  rw [hval]
  generalize c.toNat = n at hvalid
  dsimp only
  split_ifs with h1 h2 h3
  · refine ⟨_, _, _, rfl, by omega, .alone (by omega) rfl, rfl, fun rest => ?_⟩
    exact readTail_zero _ _ _ _
  · refine ⟨_, _, _, rfl, by omega, .two (by omega) rfl, rfl, fun rest => ?_⟩
    refine readTail_ofNat (by dsimp only; omega) (by omega) ?_
    rw [readTail_zero]
    dsimp only
    congr 1
    omega
  · refine ⟨_, _, _, rfl, by omega, .three (by omega) rfl, rfl, fun rest => ?_⟩
    refine readTail_ofNat (by dsimp only; split_ifs <;> omega) (by omega) ?_
    refine readTail_ofNat (by omega) (by omega) ?_
    rw [readTail_zero]
    dsimp only
    congr 1
    omega
  · refine ⟨_, _, _, rfl, by omega, .four (by omega) rfl, rfl, fun rest => ?_⟩
    refine readTail_ofNat (by dsimp only; split_ifs <;> omega) (by omega) ?_
    refine readTail_ofNat (by omega) (by omega) ?_
    refine readTail_ofNat (by omega) (by omega) ?_
    rw [readTail_zero]
    dsimp only
    congr 1
    omega

/-- A character that is encoded is read, up to its end. -/
theorem readChar_encode (offset : Nat) (c : Char) : ∃ b tail, String.utf8EncodeChar c = b :: tail ∧
    ∀ rest, readChar offset b (tail ++ rest) = (.ok c, tail.length) := by
  obtain ⟨m, tail, l, hencode, hm, hpromise, hlength, hread⟩ := exists_promise c
  refine ⟨_, _, hencode, fun rest => ?_⟩
  simp only [readChar, UInt8.toNat_ofNat_of_lt' hm, lead?_of_promise hpromise, hread rest,
    Char.ofNat_toNat, hlength]

/-! ## A character that is read is encoded -/

/-- The encoding of a character, by its code point. -/
theorem encode_ofNat {n : Nat} (h : n.isValidChar) : String.utf8EncodeChar (Char.ofNat n) =
    if n ≤ 127 then [UInt8.ofNat n]
    else if n ≤ 2047 then [UInt8.ofNat (n / 64 % 32 + 192), UInt8.ofNat (n % 64 + 128)]
    else if n ≤ 65535 then
      [UInt8.ofNat (n / 4096 % 16 + 224), UInt8.ofNat (n / 64 % 64 + 128), UInt8.ofNat (n % 64 + 128)]
    else
      [UInt8.ofNat (n / 262144 % 8 + 240), UInt8.ofNat (n / 4096 % 64 + 128),
        UInt8.ofNat (n / 64 % 64 + 128), UInt8.ofNat (n % 64 + 128)] := by
  have hval : (Char.ofNat n).val.toNat = n := by
    rw [Char.ofNat, dif_pos h]
    rfl
  unfold String.utf8EncodeChar
  rw [hval]

theorem ofNat_eq {m : Nat} {b : UInt8} (h : m = b.toNat) : UInt8.ofNat m = b := by
  rw [h, UInt8.ofNat_toNat]

section

variable {n : Nat} {b b₁ b₂ b₃ : UInt8}

theorem encode_two (hb : 0xC2 ≤ b.toNat ∧ b.toNat < 0xE0) (h₁ : 0x80 ≤ b₁.toNat ∧ b₁.toNat ≤ 0xBF)
    (hn : 64 * (b.toNat - 0xC0) + b₁.toNat % 64 = n) : String.utf8EncodeChar (Char.ofNat n) = [b, b₁] := by
  rw [encode_ofNat (by left; omega), if_neg (by omega), if_pos (by omega)]
  simp only [List.cons.injEq, and_true]
  exact ⟨ofNat_eq (by omega), ofNat_eq (by omega)⟩

/-- The second byte keeps code points out that have a shorter form, and halves of pairs. -/
theorem encode_three (hb : 0xE0 ≤ b.toNat ∧ b.toNat < 0xF0)
    (h₁ : (if b.toNat = 0xE0 then 0xA0 else 0x80) ≤ b₁.toNat ∧
      b₁.toNat ≤ if b.toNat = 0xED then 0x9F else 0xBF)
    (h₂ : 0x80 ≤ b₂.toNat ∧ b₂.toNat ≤ 0xBF)
    (hn : 64 * (64 * (b.toNat - 0xE0) + b₁.toNat % 64) + b₂.toNat % 64 = n) :
    String.utf8EncodeChar (Char.ofNat n) = [b, b₁, b₂] := by
  -- the narrow range of the second byte is needed for the code point only; the bytes need the wide one
  have hcode : n.isValidChar ∧ ¬ n ≤ 2047 ∧ n ≤ 65535 := by
    unfold Nat.isValidChar
    split_ifs at h₁ <;> omega
  have hrange : 0x80 ≤ b₁.toNat ∧ b₁.toNat ≤ 0xBF := by
    split_ifs at h₁ <;> omega
  clear h₁
  rw [encode_ofNat hcode.1, if_neg (by omega), if_neg hcode.2.1, if_pos hcode.2.2]
  simp only [List.cons.injEq, and_true]
  exact ⟨ofNat_eq (by omega), ofNat_eq (by omega), ofNat_eq (by omega)⟩

/-- The second byte keeps code points out that have a shorter form, or are none. -/
theorem encode_four (hb : 0xF0 ≤ b.toNat ∧ b.toNat ≤ 0xF4)
    (h₁ : (if b.toNat = 0xF0 then 0x90 else 0x80) ≤ b₁.toNat ∧
      b₁.toNat ≤ if b.toNat = 0xF4 then 0x8F else 0xBF)
    (h₂ : 0x80 ≤ b₂.toNat ∧ b₂.toNat ≤ 0xBF) (h₃ : 0x80 ≤ b₃.toNat ∧ b₃.toNat ≤ 0xBF)
    (hn : 64 * (64 * (64 * (b.toNat - 0xF0) + b₁.toNat % 64) + b₂.toNat % 64) + b₃.toNat % 64 = n) :
    String.utf8EncodeChar (Char.ofNat n) = [b, b₁, b₂, b₃] := by
  have hcode : n.isValidChar ∧ ¬ n ≤ 65535 := by
    unfold Nat.isValidChar
    split_ifs at h₁ <;> omega
  have hrange : 0x80 ≤ b₁.toNat ∧ b₁.toNat ≤ 0xBF := by
    split_ifs at h₁ <;> omega
  clear h₁
  rw [encode_ofNat hcode.1, if_neg (by omega), if_neg (by omega), if_neg hcode.2]
  simp only [List.cons.injEq, and_true]
  exact ⟨ofNat_eq (by omega), ofNat_eq (by omega), ofNat_eq (by omega), ofNat_eq (by omega)⟩

end

/-- What is read after a promise that is kept is encoded by the bytes it is read from. -/
theorem encode_of_promise {b : UInt8} {l : Lead} {bytes : List UInt8} {code : Nat}
    (hl : Promise b.toNat l) (hread : readTail l.bits l.low l.high l.need bytes = .ok code) :
    ∃ tail rest, bytes = tail ++ rest ∧ tail.length = l.need ∧
      String.utf8EncodeChar (Char.ofNat code) = b :: tail := by
  cases hl with
  | alone hb hl =>
      subst hl
      rw [readTail_zero] at hread
      obtain rfl := Except.ok.inj hread
      refine ⟨[], bytes, rfl, rfl, ?_⟩
      dsimp only
      rw [encode_ofNat (by left; omega), if_pos (by omega), ofNat_eq rfl]
  | two hb hl =>
      subst hl
      obtain ⟨b₁, rest, rfl, h₁, hread⟩ := readTail_eq_ok.mp hread
      rw [readTail_zero] at hread
      exact ⟨[b₁], rest, rfl, rfl, encode_two hb h₁ (Except.ok.inj hread)⟩
  | three hb hl =>
      subst hl
      obtain ⟨b₁, _, rfl, h₁, hread⟩ := readTail_eq_ok.mp hread
      obtain ⟨b₂, rest, rfl, h₂, hread⟩ := readTail_eq_ok.mp hread
      rw [readTail_zero] at hread
      exact ⟨[b₁, b₂], rest, rfl, rfl, encode_three hb h₁ h₂ (Except.ok.inj hread)⟩
  | four hb hl =>
      subst hl
      obtain ⟨b₁, _, rfl, h₁, hread⟩ := readTail_eq_ok.mp hread
      obtain ⟨b₂, _, rfl, h₂, hread⟩ := readTail_eq_ok.mp hread
      obtain ⟨b₃, rest, rfl, h₃, hread⟩ := readTail_eq_ok.mp hread
      rw [readTail_zero] at hread
      exact ⟨[b₁, b₂, b₃], rest, rfl, rfl, encode_four hb h₁ h₂ h₃ (Except.ok.inj hread)⟩

/-- **A character that is read is encoded by the bytes it is read from.** -/
theorem encode_of_readChar {offset k : Nat} {b : UInt8} {bytes : List UInt8} {c : Char}
    (h : readChar offset b bytes = (.ok c, k)) :
    ∃ tail rest, bytes = tail ++ rest ∧ tail.length = k ∧ String.utf8EncodeChar c = b :: tail := by
  unfold readChar at h
  cases hl : lead? b.toNat with
  | none => simp [hl] at h
  | some l =>
      cases hread : readTail l.bits l.low l.high l.need bytes with
      | error e => simp [hl, hread] at h
      | ok code =>
          simp only [hl, hread, Prod.mk.injEq, Except.ok.injEq] at h
          obtain ⟨rfl, rfl⟩ := h
          exact encode_of_promise (promise_of_lead? hl) hread

/-! ## Texts -/

theorem items_skip (offset : Nat) (tail rest : List UInt8) :
    items offset tail.length (tail ++ rest) = items (offset + tail.length) 0 rest := by
  induction tail generalizing offset with
  | nil => rfl
  | cons b tail ih =>
      rw [List.length_cons, List.cons_append, items, ih, Nat.add_right_comm, Nat.add_assoc]

/-- The characters of bytes are those of a text, without a flaw, exactly if they encode it. -/
theorem items_eq_iff {offset : Nat} {bytes : List UInt8} {cs : List Char} :
    items offset 0 bytes = cs.map .ok ↔ cs.flatMap String.utf8EncodeChar = bytes := by
  induction cs generalizing offset bytes with
  | nil => cases bytes <;> simp [items]
  | cons c cs ih =>
      rw [List.flatMap_cons]
      constructor
      · intro h
        cases bytes with
        | nil => simp [items] at h
        | cons b rest =>
            rcases hread : readChar offset b rest with ⟨item, k⟩
            simp only [items, hread, List.map_cons, List.cons.injEq] at h
            obtain ⟨rfl, hmore⟩ := h
            obtain ⟨tail, more, rfl, rfl, hencode⟩ := encode_of_readChar hread
            rw [items_skip] at hmore
            rw [hencode, ih.mp hmore, List.cons_append]
      · rintro rfl
        obtain ⟨b, tail, hencode, hread⟩ := readChar_encode offset c
        rw [hencode, List.cons_append]
        simp only [items, hread, items_skip, List.map_cons]
        rw [ih.mpr rfl]

/-- **What is read as UTF-8**: exactly the encodings of texts. -/
theorem decode_eq_ok_iff {bytes : List UInt8} {s : String} : decode bytes = .ok s ↔ encode s = bytes := by
  have hall {cs : List Char} : (items 0 0 bytes).mapM id = .ok cs ↔
      cs.flatMap String.utf8EncodeChar = bytes := by
    have hitems : items 0 0 bytes = cs.map .ok ↔ cs.flatMap String.utf8EncodeChar = bytes := items_eq_iff
    rw [mapM_eq_ok, ← hitems, ← List.forall₂_eq_eq_eq, List.forall₂_map_right_iff]
    rfl
  simp only [decode, map_eq_ok, hall, encode_eq]
  constructor
  · rintro ⟨cs, hcs, rfl⟩
    rwa [String.toList_ofList]
  · intro h
    exact ⟨s.toList, h, String.ofList_toList⟩

/-- In the encoding of a text there is no flaw to be replaced. -/
theorem decodeLossy_encode (s : String) : decodeLossy (encode s) = s := by
  have hitems : items 0 0 (encode s) = s.toList.map .ok := items_eq_iff.mpr (encode_eq s).symm
  rw [decodeLossy, hitems, List.map_map]
  show String.ofList (s.toList.map id) = s
  rw [List.map_id, String.ofList_toList]

end Utf8

end FeatureFlags
