import CaskAudit.Text.Utf8
import Mathlib.Tactic.Common

/-!
# Texts as bytes

The bytes that write a text are well formed: reading them gives the text back, character after
character. A character is written by a leading byte, which tells how many bytes follow, and by
continuation bytes with six bits each; `readScalar_utf8EncodeChar` has one case for each number of
bytes, and so has `eq_append_of_readScalar`, by which nothing else is well formed.
-/

namespace CaskAudit.Text

open String (utf8EncodeChar)

/-! ## The bytes of a text -/

/-- The list of bytes that stand in an array from a place on. -/
lemma toList_loop (bytes : ByteArray) (i : Nat) (before : List UInt8) :
    ByteArray.toList.loop bytes i before = before.reverse ++ bytes.data.toList.drop i := by
  fun_induction ByteArray.toList.loop bytes i before with
  | case1 i before hlt ih =>
    have hlen : i < bytes.data.toList.length := by simpa using hlt
    have hget : bytes.get! i = bytes.data.toList[i] := getElem!_pos bytes.data i hlt
    have hdrop : bytes.data.toList.drop i = bytes.get! i :: bytes.data.toList.drop (i + 1) := by
      rw [List.drop_eq_getElem_cons hlen, hget]
    rw [ih, hdrop, List.reverse_cons, List.append_assoc, List.singleton_append]
  | case2 i before hge =>
    have hlen : bytes.data.toList.length ≤ i := by simpa using Nat.le_of_not_lt hge
    rw [List.drop_eq_nil_of_le hlen, List.append_nil]

/-- A text is written character after character. -/
lemma encode_eq_flatMap (t : String) : encode t = t.toList.flatMap utf8EncodeChar := by
  have hbytes : t.toUTF8 = (t.toList.flatMap utf8EncodeChar).toByteArray := by
    have htext : t.toUTF8 = (String.ofList t.toList).toUTF8 := by rw [String.ofList_toList]
    rw [htext, String.toUTF8_eq_toByteArray, String.toByteArray_ofList, List.utf8Encode]
  rw [encode, ByteArray.toList, toList_loop, hbytes]
  simp

/-! ## One character -/

/-- A continuation byte adds its six bits. -/
lemma readContinuation_cons {acc v n : Nat} {lo hi : UInt8} {rest : List UInt8}
    (hlo : lo.toNat ≤ v % 64 + 128) (hhi : v % 64 + 128 ≤ hi.toNat) :
    readContinuation acc lo hi (n + 1) (UInt8.ofNat (v % 64 + 128) :: rest) =
      readContinuation (acc * 64 + v % 64) 0x80 0xBF n rest := by
  have hbyte : (UInt8.ofNat (v % 64 + 128)).toNat = v % 64 + 128 := by
    rw [UInt8.toNat_ofNat']
    omega
  have hrange : lo ≤ UInt8.ofNat (v % 64 + 128) ∧ UInt8.ofNat (v % 64 + 128) ≤ hi := by
    rw [UInt8.le_iff_toNat_le, UInt8.le_iff_toNat_le, hbyte]
    exact ⟨hlo, hhi⟩
  rw [readContinuation, if_pos hrange, hbyte, Nat.add_sub_cancel]

/-- A leading byte is what it was made of. -/
lemma toNat_leading {n : Nat} (h : n < 256) : (UInt8.ofNat n).toNat = n := by
  rw [UInt8.toNat_ofNat']
  omega

/-- A scalar value below 2⁷ is read from its one byte. -/
lemma readScalar_one {v : Nat} (h : v ≤ 127) (rest : List UInt8) :
    readScalar (UInt8.ofNat v) rest = (some (Char.ofNat v), rest) := by
  have hlead := toNat_leading (show v < 256 by omega)
  rw [readScalar, if_pos (by rw [UInt8.lt_iff_toNat_lt, hlead]; exact Nat.lt_succ_of_le h), hlead]

/-- A scalar value below 2¹¹ is read from its two bytes. -/
lemma readScalar_two {v : Nat} (hlo : 127 < v) (hhi : v ≤ 2047) (rest : List UInt8) :
    readScalar (UInt8.ofNat (v / 64 % 32 + 192)) (UInt8.ofNat (v % 64 + 128) :: rest) =
      (some (Char.ofNat v), rest) := by
  have hlead := toNat_leading (show v / 64 % 32 + 192 < 256 by omega)
  have hvalue : (v / 64 % 32 + 192 - 0xC0) * 64 + v % 64 = v := by omega
  simp only [readScalar, UInt8.lt_iff_toNat_lt, hlead, UInt8.reduceToNat]
  rw [if_neg (by omega), if_neg (by omega), if_pos (by omega)]
  rw [readContinuation_cons (by simp) (by simp; omega), readContinuation, hvalue]

/-- A scalar value below 2¹⁶ is read from its three bytes, unless it is a surrogate. -/
lemma readScalar_three {v : Nat} (hlo : 2047 < v) (hhi : v ≤ 65535)
    (hscalar : v < 0xD800 ∨ 0xDFFF < v) (rest : List UInt8) :
    readScalar (UInt8.ofNat (v / 4096 % 16 + 224))
        (UInt8.ofNat (v / 64 % 64 + 128) :: UInt8.ofNat (v % 64 + 128) :: rest) =
      (some (Char.ofNat v), rest) := by
  have hlead := toNat_leading (show v / 4096 % 16 + 224 < 256 by omega)
  have hvalue : ((v / 4096 % 16 + 224 - 0xE0) * 64 + v / 64 % 64) * 64 + v % 64 = v := by omega
  simp only [readScalar, UInt8.lt_iff_toNat_lt, ← UInt8.toNat_inj, hlead, UInt8.reduceToNat]
  rw [if_neg (by omega), if_neg (by omega), if_neg (by omega), if_pos (by omega)]
  rw [readContinuation_cons, readContinuation_cons (by simp) (by simp; omega), readContinuation,
    hvalue]
  · split
    · simp only [UInt8.reduceToNat]; omega
    · simp only [UInt8.reduceToNat]; omega
  · split
    · simp only [UInt8.reduceToNat]; omega
    · simp only [UInt8.reduceToNat]; omega

/-- Any other scalar value is read from its four bytes. -/
lemma readScalar_four {v : Nat} (hlo : 65535 < v) (hhi : v < 0x110000) (rest : List UInt8) :
    readScalar (UInt8.ofNat (v / 262144 % 8 + 240))
        (UInt8.ofNat (v / 4096 % 64 + 128) :: UInt8.ofNat (v / 64 % 64 + 128) ::
          UInt8.ofNat (v % 64 + 128) :: rest) =
      (some (Char.ofNat v), rest) := by
  have hlead := toNat_leading (show v / 262144 % 8 + 240 < 256 by omega)
  have hvalue : (((v / 262144 % 8 + 240 - 0xF0) * 64 + v / 4096 % 64) * 64 + v / 64 % 64) * 64 +
      v % 64 = v := by omega
  simp only [readScalar, UInt8.lt_iff_toNat_lt, ← UInt8.toNat_inj, hlead, UInt8.reduceToNat]
  rw [if_neg (by omega), if_neg (by omega), if_neg (by omega), if_neg (by omega),
    if_pos (by omega)]
  rw [readContinuation_cons, readContinuation_cons (by simp) (by simp; omega),
    readContinuation_cons (by simp) (by simp; omega), readContinuation, hvalue]
  · split
    · simp only [UInt8.reduceToNat]; omega
    · simp only [UInt8.reduceToNat]; omega
  · split
    · simp only [UInt8.reduceToNat]; omega
    · simp only [UInt8.reduceToNat]; omega

/-- The bytes that write a character are read as the character. -/
lemma readScalar_utf8EncodeChar (c : Char) (rest : List UInt8) :
    ∃ b more, utf8EncodeChar c = b :: more ∧ readScalar b (more ++ rest) = (some c, rest) := by
  have hc : Char.ofNat c.val.toNat = c := Char.ofNat_toNat c
  have hrange : c.val.toNat < 0xD800 ∨ 0xDFFF < c.val.toNat ∧ c.val.toNat < 0x110000 := c.valid
  by_cases h₁ : c.val.toNat ≤ 127
  · refine ⟨_, [], by rw [utf8EncodeChar, if_pos h₁], ?_⟩
    exact (readScalar_one h₁ rest).trans (by rw [hc])
  by_cases h₂ : c.val.toNat ≤ 2047
  · refine ⟨_, [_], by rw [utf8EncodeChar, if_neg h₁, if_pos h₂], ?_⟩
    exact (readScalar_two (by omega) h₂ rest).trans (by rw [hc])
  by_cases h₃ : c.val.toNat ≤ 65535
  · refine ⟨_, [_, _], by rw [utf8EncodeChar, if_neg h₁, if_neg h₂, if_pos h₃], ?_⟩
    exact (readScalar_three (by omega) h₃ (by omega) rest).trans (by rw [hc])
  · refine ⟨_, [_, _, _], by rw [utf8EncodeChar, if_neg h₁, if_neg h₂, if_neg h₃], ?_⟩
    exact (readScalar_four (by omega) (by omega) rest).trans (by rw [hc])

/-! ## A whole text -/

/-- Characters are read one after the other from the bytes that write them. -/
lemma decode?_flatMap (chars : List Char) :
    decode? (chars.flatMap utf8EncodeChar) = some chars := by
  induction chars with
  | nil => rw [List.flatMap_nil, decode?]
  | cons c chars ih =>
    obtain ⟨b, more, hbytes, hread⟩ :=
      readScalar_utf8EncodeChar c (chars.flatMap utf8EncodeChar)
    rw [List.flatMap_cons, hbytes, List.cons_append, decode?]
    simp only [hread, ih, Option.map_some]

/-- The bytes that write a text are well formed, and write that text. -/
theorem decode?_encode (t : String) : decode? (encode t) = some t.toList := by
  rw [encode_eq_flatMap, decode?_flatMap]

/-! ## Bytes that are read -/

variable {c : Char} {b b₁ b₂ b₃ : UInt8} {s rest : List UInt8}

/-- The character with a scalar value has this value. -/
lemma val_ofNat {v : Nat} (h : v < 0xD800 ∨ 0xDFFF < v ∧ v < 0x110000) :
    (Char.ofNat v).val.toNat = v := by
  have hchar : Char.ofNat v = Char.ofNatAux v h := dif_pos h
  rw [hchar]
  exact UInt32.toNat_ofNatLT

/-- A byte is the one that a number of its value stands for. -/
lemma ofNat_eq_of_toNat {n : Nat} (h : n = b.toNat) : UInt8.ofNat n = b := by
  rw [h, UInt8.ofNat_toNat]

/-- A scalar value below 2⁷ is written by one byte. -/
lemma utf8EncodeChar_one (hc : c.val.toNat = b.toNat) (hb : b.toNat < 0x80) :
    utf8EncodeChar c = [b] := by
  rw [utf8EncodeChar, hc, if_pos (by omega), ofNat_eq_of_toNat rfl]

/-- A scalar value below 2¹¹ is written by two bytes. -/
lemma utf8EncodeChar_two (hc : c.val.toNat = (b.toNat - 0xC0) * 64 + (b₁.toNat - 0x80))
    (hb : 0xC2 ≤ b.toNat ∧ b.toNat < 0xE0) (h₁ : 0x80 ≤ b₁.toNat ∧ b₁.toNat ≤ 0xBF) :
    utf8EncodeChar c = [b, b₁] := by
  have hnotOne : ¬c.val.toNat ≤ 0x7F := by omega
  have htwo : c.val.toNat ≤ 0x7FF := by omega
  rw [utf8EncodeChar, if_neg hnotOne, if_pos htwo, hc]
  rw [ofNat_eq_of_toNat (b := b) (by omega), ofNat_eq_of_toNat (b := b₁) (by omega)]

/-- A scalar value below 2¹⁶ is written by three bytes. -/
lemma utf8EncodeChar_three
    (hc : c.val.toNat = ((b.toNat - 0xE0) * 64 + (b₁.toNat - 0x80)) * 64 + (b₂.toNat - 0x80))
    (hb : 0xE0 ≤ b.toNat ∧ b.toNat < 0xF0) (h₁ : 0x80 ≤ b₁.toNat ∧ b₁.toNat ≤ 0xBF)
    (h₂ : 0x80 ≤ b₂.toNat ∧ b₂.toNat ≤ 0xBF) (hlow : b.toNat = 0xE0 → 0xA0 ≤ b₁.toNat) :
    utf8EncodeChar c = [b, b₁, b₂] := by
  have hnotOne : ¬c.val.toNat ≤ 0x7F := by omega
  have hnotTwo : ¬c.val.toNat ≤ 0x7FF := by omega
  have hthree : c.val.toNat ≤ 0xFFFF := by omega
  rw [utf8EncodeChar, if_neg hnotOne, if_neg hnotTwo, if_pos hthree, hc]
  rw [ofNat_eq_of_toNat (b := b) (by omega), ofNat_eq_of_toNat (b := b₁) (by omega),
    ofNat_eq_of_toNat (b := b₂) (by omega)]

/-- Any other scalar value is written by four bytes. -/
lemma utf8EncodeChar_four
    (hc : c.val.toNat = (((b.toNat - 0xF0) * 64 + (b₁.toNat - 0x80)) * 64 +
      (b₂.toNat - 0x80)) * 64 + (b₃.toNat - 0x80))
    (hb : 0xF0 ≤ b.toNat ∧ b.toNat < 0xF5) (h₁ : 0x80 ≤ b₁.toNat ∧ b₁.toNat ≤ 0xBF)
    (h₂ : 0x80 ≤ b₂.toNat ∧ b₂.toNat ≤ 0xBF) (h₃ : 0x80 ≤ b₃.toNat ∧ b₃.toNat ≤ 0xBF)
    (hlow : b.toNat = 0xF0 → 0x90 ≤ b₁.toNat) : utf8EncodeChar c = [b, b₁, b₂, b₃] := by
  have hnotOne : ¬c.val.toNat ≤ 0x7F := by omega
  have hnotTwo : ¬c.val.toNat ≤ 0x7FF := by omega
  have hnotThree : ¬c.val.toNat ≤ 0xFFFF := by omega
  rw [utf8EncodeChar, if_neg hnotOne, if_neg hnotTwo, if_neg hnotThree, hc]
  rw [ofNat_eq_of_toNat (b := b) (by omega), ofNat_eq_of_toNat (b := b₁) (by omega),
    ofNat_eq_of_toNat (b := b₂) (by omega), ofNat_eq_of_toNat (b := b₃) (by omega)]

/-- After the last continuation byte the character is complete. -/
lemma eq_of_readContinuation {acc : Nat} {lo hi : UInt8}
    (h : readContinuation acc lo hi 0 s = (some c, rest)) : c = Char.ofNat acc ∧ s = rest := by
  rw [readContinuation, Prod.mk.injEq, Option.some.injEq] at h
  exact ⟨h.1.symm, h.2⟩

/-- A continuation byte that is read lies in its range, and the others follow it. -/
lemma exists_of_readContinuation {acc n : Nat} {lo hi : UInt8}
    (h : readContinuation acc lo hi (n + 1) s = (some c, rest)) :
    ∃ b s', s = b :: s' ∧ (lo.toNat ≤ b.toNat ∧ b.toNat ≤ hi.toNat) ∧
      readContinuation (acc * 64 + (b.toNat - 0x80)) 0x80 0xBF n s' = (some c, rest) := by
  cases s with
  | nil => cases h
  | cons b s =>
    rw [readContinuation] at h
    split at h
    · next hrange =>
      rw [UInt8.le_iff_toNat_le, UInt8.le_iff_toNat_le] at hrange
      exact ⟨b, s, rfl, hrange, h⟩
    · cases h

/-- The first continuation byte may be bound more closely after two of the leading bytes. -/
lemma range_of_ite {x y lo hi : UInt8}
    (h : (if b = x then lo else 0x80).toNat ≤ b₁.toNat ∧
      b₁.toNat ≤ (if b = y then hi else 0xBF).toNat)
    (hlo : 0x80 ≤ lo.toNat) (hhi : hi.toNat ≤ 0xBF) :
    (0x80 ≤ b₁.toNat ∧ b₁.toNat ≤ 0xBF) ∧ (b.toNat = x.toNat → lo.toNat ≤ b₁.toNat) ∧
      (b.toNat = y.toNat → b₁.toNat ≤ hi.toNat) := by
  obtain ⟨hlow, hhigh⟩ := h
  rw [apply_ite UInt8.toNat] at hlow hhigh
  simp only [← UInt8.toNat_inj, UInt8.reduceToNat] at hlow hhigh
  refine ⟨⟨?_, ?_⟩, fun hx => by rwa [if_pos hx] at hlow, fun hy => by rwa [if_pos hy] at hhigh⟩
  · split at hlow <;> omega
  · split at hhigh <;> omega

/-- A character is read from the bytes that write it. -/
lemma eq_append_of_readScalar (h : readScalar b s = (some c, rest)) :
    b :: s = utf8EncodeChar c ++ rest := by
  simp only [readScalar, UInt8.lt_iff_toNat_lt, UInt8.reduceToNat] at h
  by_cases hone : b.toNat < 0x80
  · rw [if_pos hone, Prod.mk.injEq, Option.some.injEq] at h
    obtain ⟨hc, hrest⟩ := h
    rw [utf8EncodeChar_one (b := b) (by rw [← hc, val_ofNat (by omega)]) hone, hrest]
    rfl
  rw [if_neg hone] at h
  by_cases hstray : b.toNat < 0xC2
  · rw [if_pos hstray] at h
    cases h
  rw [if_neg hstray] at h
  by_cases htwo : b.toNat < 0xE0
  · rw [if_pos htwo] at h
    obtain ⟨b₁, s₁, rfl, h₁, h⟩ := exists_of_readContinuation h
    obtain ⟨hc, hrest⟩ := eq_of_readContinuation h
    simp only [UInt8.reduceToNat] at h₁
    rw [utf8EncodeChar_two (by rw [hc, val_ofNat (by omega)]) (by omega) h₁, hrest]
    rfl
  rw [if_neg htwo] at h
  by_cases hthree : b.toNat < 0xF0
  · rw [if_pos hthree] at h
    obtain ⟨b₁, s₁, rfl, h₁, h⟩ := exists_of_readContinuation h
    obtain ⟨b₂, s₂, rfl, h₂, h⟩ := exists_of_readContinuation h
    obtain ⟨hc, hrest⟩ := eq_of_readContinuation h
    obtain ⟨h₁, hlow, hhigh⟩ := range_of_ite h₁ (by decide) (by decide)
    simp only [UInt8.reduceToNat] at hlow hhigh h₂
    rw [utf8EncodeChar_three (by rw [hc, val_ofNat (by omega)]) (by omega) h₁ h₂ hlow, hrest]
    rfl
  rw [if_neg hthree] at h
  by_cases hfour : b.toNat < 0xF5
  · rw [if_pos hfour] at h
    obtain ⟨b₁, s₁, rfl, h₁, h⟩ := exists_of_readContinuation h
    obtain ⟨b₂, s₂, rfl, h₂, h⟩ := exists_of_readContinuation h
    obtain ⟨b₃, s₃, rfl, h₃, h⟩ := exists_of_readContinuation h
    obtain ⟨hc, hrest⟩ := eq_of_readContinuation h
    obtain ⟨h₁, hlow, hhigh⟩ := range_of_ite h₁ (by decide) (by decide)
    simp only [UInt8.reduceToNat] at hlow hhigh h₂ h₃
    rw [utf8EncodeChar_four (by rw [hc, val_ofNat (by omega)]) (by omega) h₁ h₂ h₃ hlow, hrest]
    rfl
  · rw [if_neg hfour] at h
    cases h

/-- Bytes that are well formed write the characters that are read from them. -/
lemma eq_flatMap_of_decode? {chars : List Char} (h : decode? s = some chars) :
    s = chars.flatMap utf8EncodeChar := by
  fun_induction decode? s generalizing chars with
  | case1 =>
    obtain rfl := Option.some.inj h
    rfl
  | case2 b rest => cases h
  | case3 b rest hlt c hc ih =>
    obtain ⟨chars, hrest, rfl⟩ := Option.map_eq_some_iff.1 h
    rw [List.flatMap_cons, ← ih hrest]
    exact eq_append_of_readScalar (Prod.ext hc rfl)

/-- Bytes are well formed exactly if they write a text. -/
theorem decode?_isSome_iff : (decode? s).isSome = true ↔ ∃ t, s = encode t := by
  rw [Option.isSome_iff_exists]
  constructor
  · rintro ⟨chars, h⟩
    refine ⟨String.ofList chars, ?_⟩
    rw [encode_eq_flatMap, String.toList_ofList, eq_flatMap_of_decode? h]
  · rintro ⟨t, rfl⟩
    exact ⟨t.toList, decode?_encode t⟩

end CaskAudit.Text
