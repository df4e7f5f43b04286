import CaskAudit.Json.Cask
import CaskAudit.Json.Reader
import CaskAudit.Proofs.Results
import CaskAudit.Proofs.Text.Cutting
import CaskAudit.Proofs.Text.Lowercase

/-!
# Digests as bytes

`Spells` relates hexadecimal digits of either case to the bytes they stand for, two digits to a
byte. Digits spell one list of bytes only (`Spells.unique`), an even number of digits spells some
(`exists_spells`), and in lower case they are the digits that write those bytes
(`Spells.map_toLower`). So there is one lower-case text for each list of bytes, and to compare
digests is to compare what they stand for.

A text gives a digest exactly if its digits spell thirty-two bytes, and then the digest of those
bytes (`ofText_eq_ok_iff`). Every such digest reads back from its text, as a digest and as a
checksum (`readsBack_ofBytes`).
-/

namespace CaskAudit.Digest

open Text

variable {s digits : List Char} {bytes other : List UInt8} {text : String} {d : Digest}

/-! ## Digits -/

/-- Hexadecimal digits are in ASCII. -/
lemma toNat_lt_of_isHexDigit {c : Char} (h : isHexDigit c = true) : c.toNat < 128 := by
  rcases Bool.or_eq_true_iff.1 h with h | h
  · rcases Bool.or_eq_true_iff.1 h with h | h
    · have hle : c.toNat ≤ 57 := of_decide_eq_true (Bool.and_eq_true_iff.1 h).2
      omega
    · have hle : c.toNat ≤ 102 := of_decide_eq_true (Bool.and_eq_true_iff.1 h).2
      omega
  · have hle : c.toNat ≤ 70 := of_decide_eq_true (Bool.and_eq_true_iff.1 h).2
    omega

/-- A hexadecimal digit has a value below sixteen, and in lower case it is the digit that writes
it. -/
lemma exists_hexValue? {c : Char} (h : isHexDigit c = true) :
    ∃ n < 16, Json.hexValue? c = some n ∧ c.toLower = Json.hexDigit n := by
  have hall : ∀ k < 128, isHexDigit (Char.ofNat k) = true →
      ∃ n < 16, Json.hexValue? (Char.ofNat k) = some n ∧
        (Char.ofNat k).toLower = Json.hexDigit n := by
    decide +kernel
  exact of_toNat_lt (p := fun c => isHexDigit c = true → ∃ n < 16, Json.hexValue? c = some n ∧
    c.toLower = Json.hexDigit n) hall (toNat_lt_of_isHexDigit h) h

/-- Only hexadecimal digits have a value. -/
lemma isHexDigit_of_hexValue? {c : Char} {n : Nat} (h : Json.hexValue? c = some n) :
    isHexDigit c = true := by
  unfold Json.hexValue? at h
  rw [isHexDigit, Bool.or_eq_true_iff, Bool.or_eq_true_iff]
  split at h
  · next hdigit => exact .inl (.inl hdigit)
  · split at h
    · next hsmall => exact .inl (.inr hsmall)
    · split at h
      · next hcapital => exact .inr hcapital
      · cases h

/-- The digit that writes a value has this value. -/
lemma hexValue?_hexDigit {n : Nat} (h : n < 16) : Json.hexValue? (Json.hexDigit n) = some n := by
  have hall : ∀ k < 16, Json.hexValue? (Json.hexDigit k) = some k := by decide
  exact hall n h

/-! ## Bytes -/

/-- Digits of either case spell bytes: two digits to a byte, the higher one first. -/
inductive Spells : List Char → List UInt8 → Prop
  | nil : Spells [] []
  | cons {a b : Char} {high low : Nat} {s : List Char} {bytes : List UInt8}
      (ha : Json.hexValue? a = some high) (hb : Json.hexValue? b = some low) (h : Spells s bytes) :
      Spells (a :: b :: s) (UInt8.ofNat (16 * high + low) :: bytes)

/-- Bytes are spelled with hexadecimal digits. -/
lemma Spells.isHexDigit (h : Spells s bytes) : ∀ c ∈ s, isHexDigit c = true := by
  induction h with
  | nil => exact List.forall_mem_nil _
  | cons ha hb _ ih =>
    exact List.forall_mem_cons.2
      ⟨isHexDigit_of_hexValue? ha, List.forall_mem_cons.2 ⟨isHexDigit_of_hexValue? hb, ih⟩⟩

/-- Two digits spell a byte. -/
lemma Spells.length_eq (h : Spells s bytes) : s.length = 2 * bytes.length := by
  induction h with
  | nil => rfl
  | cons _ _ _ ih =>
    rw [List.length_cons, List.length_cons, List.length_cons, ih]
    omega

/-- Digits spell one list of bytes. -/
lemma Spells.unique (h : Spells s bytes) (h' : Spells s other) : bytes = other := by
  induction h generalizing other with
  | nil =>
    cases h'
    rfl
  | cons ha hb _ ih =>
    cases h' with
    | cons ha' hb' hs' =>
      obtain rfl := Option.some.inj (ha.symm.trans ha')
      obtain rfl := Option.some.inj (hb.symm.trans hb')
      rw [ih hs']

/-- An even number of digits spells some bytes. -/
lemma exists_spells {n : Nat} (hs : ∀ c ∈ s, isHexDigit c = true) (hlength : s.length = 2 * n) :
    ∃ bytes : List UInt8, bytes.length = n ∧ Spells s bytes := by
  induction n generalizing s with
  | zero =>
    obtain rfl := List.length_eq_zero_iff.1 hlength
    exact ⟨[], rfl, .nil⟩
  | succ n ih =>
    match s, hs, hlength with
    | a :: b :: s, hs, hlength =>
      obtain ⟨ha, hb, hrest⟩ : isHexDigit a = true ∧ isHexDigit b = true ∧
          ∀ c ∈ s, isHexDigit c = true := by
        simpa only [List.forall_mem_cons] using hs
      obtain ⟨high, -, hhigh, -⟩ := exists_hexValue? ha
      obtain ⟨low, -, hlow, -⟩ := exists_hexValue? hb
      have hlength' : s.length = 2 * n := by
        simp only [List.length_cons] at hlength
        omega
      obtain ⟨bytes, hbytes, hspells⟩ := ih hrest hlength'
      exact ⟨_ :: bytes, congrArg (· + 1) hbytes, .cons hhigh hlow hspells⟩

/-- A character with a value is, in lower case, the digit that writes the value. -/
lemma toLower_eq_hexDigit {c : Char} {n : Nat} (h : Json.hexValue? c = some n) :
    n < 16 ∧ c.toLower = Json.hexDigit n := by
  obtain ⟨k, hk, hvalue, hlower⟩ := exists_hexValue? (isHexDigit_of_hexValue? h)
  obtain rfl := Option.some.inj (hvalue.symm.trans h)
  exact ⟨hk, hlower⟩

/-- The two digits of a byte are those of its halves. -/
lemma byteDigits_ofNat {high low : Nat} (hhigh : high < 16) (hlow : low < 16) :
    byteDigits (UInt8.ofNat (16 * high + low)) = [Json.hexDigit high, Json.hexDigit low] := by
  have hvalue : (UInt8.ofNat (16 * high + low)).toNat = 16 * high + low := by
    rw [UInt8.toNat_ofNat']
    omega
  have hdiv : (16 * high + low) / 16 = high := by omega
  have hmod : (16 * high + low) % 16 = low := by omega
  rw [byteDigits, hvalue, hdiv, hmod]

/-- In lower case, digits that spell bytes are those that write them. -/
lemma Spells.map_toLower (h : Spells s bytes) :
    s.map Char.toLower = bytes.flatMap byteDigits := by
  induction h with
  | nil => rfl
  | cons ha hb _ ih =>
    obtain ⟨hhigh, ha⟩ := toLower_eq_hexDigit ha
    obtain ⟨hlow, hb⟩ := toLower_eq_hexDigit hb
    have hbyte := byteDigits_ofNat hhigh hlow
    rw [List.map_cons, List.map_cons, List.flatMap_cons, hbyte, ha, hb, ih]
    rfl

/-- The digits that write bytes spell them. -/
lemma spells_flatMap (bytes : List UInt8) : Spells (bytes.flatMap byteDigits) bytes := by
  induction bytes with
  | nil => exact .nil
  | cons byte bytes ih =>
    have hbyte := byte.toNat_lt
    have hhigh := hexValue?_hexDigit (show byte.toNat / 16 < 16 by omega)
    have hlow := hexValue?_hexDigit (show byte.toNat % 16 < 16 by omega)
    have hvalue : UInt8.ofNat (16 * (byte.toNat / 16) + byte.toNat % 16) = byte := by
      rw [Nat.div_add_mod, UInt8.ofNat_toNat]
    have hspells := Spells.cons hhigh hlow ih
    rwa [hvalue] at hspells

/-- Digits spell bytes exactly if they are those that write the bytes, letter case apart. -/
lemma spells_iff : Spells s bytes ↔
    (∀ c ∈ s, isHexDigit c = true) ∧ s.map Char.toLower = bytes.flatMap byteDigits := by
  refine ⟨fun h => ⟨h.isHexDigit, h.map_toLower⟩, ?_⟩
  rintro ⟨hs, hlower⟩
  have hwritten := spells_flatMap bytes
  have hlength : s.length = 2 * bytes.length := by
    rw [← hwritten.length_eq, ← hlower, List.length_map]
  obtain ⟨other, -, hspells⟩ := exists_spells hs hlength
  rw [← hlower, hspells.map_toLower] at hwritten
  rwa [(spells_flatMap other).unique hwritten] at hspells

/-- Different bytes are written differently. -/
lemma hexText_injective (h : hexText bytes = hexText other) : bytes = other := by
  have hdigits : bytes.flatMap byteDigits = other.flatMap byteDigits := String.ofList_injective h
  have hspells := spells_flatMap bytes
  rw [hdigits] at hspells
  exact hspells.unique (spells_flatMap other)

/-! ## Texts -/

/-- What is left of a text without the label at its start, if there is one. -/
def Unlabelled (s digits : List Char) : Prop :=
  s = label ++ digits ∨ ¬label <+: s ∧ s = digits

/-- The digits of a text are what is left of it without the label. -/
lemma body_of_unlabelled (h : Unlabelled s digits) : body s = digits := by
  rcases h with h | ⟨hlabel, rfl⟩
  · rw [body, dropLeading?_eq_some_iff.2 h, Option.getD_some]
  · rw [body, dropLeading?_eq_none_iff.2 hlabel, Option.getD_none]

/-- Every text has such digits. -/
lemma unlabelled_body (s : List Char) : Unlabelled s (body s) := by
  by_cases h : label <+: s
  · obtain ⟨rest, rfl⟩ := h
    have hrest : Unlabelled (label ++ rest) rest := .inl rfl
    rwa [body_of_unlabelled hrest]
  · have hs : Unlabelled s s := .inr ⟨h, rfl⟩
    rwa [body_of_unlabelled hs]

/-- A text of hexadecimal digits has a byte for each. -/
lemma utf8ByteSize_of_isHexDigit (h : ∀ c ∈ s, isHexDigit c = true) :
    (String.ofList s).utf8ByteSize = s.length := by
  induction s with
  | nil => rfl
  | cons c s ih =>
    obtain ⟨hc, hs⟩ := List.forall_mem_cons.1 h
    have hsize : c.utf8Size = 1 :=
      Char.utf8Size_eq_one_iff.2 (Nat.le_of_lt_succ (toNat_lt_of_isHexDigit hc))
    calc (String.ofList (c :: s)).utf8ByteSize
        = c.utf8Size + (String.ofList s).utf8ByteSize := by
          rw [String.ofList_cons, String.utf8ByteSize_append, String.utf8ByteSize_singleton]
      _ = 1 + s.length := by rw [hsize, ih hs]
      _ = (c :: s).length := Nat.add_comm 1 _

/-- The length in bytes decides first, and the digits after it. -/
lemma ofText_eq (text : String) : ofText text =
    if (String.ofList (body text.toList)).utf8ByteSize ≠ 64 then
      .error (.length (String.ofList (body text.toList)).utf8ByteSize text)
    else if (body text.toList).all isHexDigit then
      .ok ⟨String.ofList ((body text.toList).map Char.toLower)⟩
    else .error (.notHex text) := by
  rw [ofText]
  split
  · rfl
  · cases (body text.toList).all isHexDigit <;> rfl

/-- A text gives a digest exactly if its digits spell thirty-two bytes, and then it gives the digest
of those bytes. -/
lemma ofText_eq_ok_iff : ofText text = .ok d ↔
    ∃ bytes : List UInt8, bytes.length = 32 ∧ Spells (body text.toList) bytes ∧
      d = ofBytes bytes := by
  rw [ofText_eq]
  constructor
  · intro h
    obtain ⟨hsize, h⟩ := of_ite_eq_ok h
    split at h
    · next hdigits =>
      rw [List.all_eq_true] at hdigits
      rw [not_not, utf8ByteSize_of_isHexDigit hdigits] at hsize
      obtain ⟨bytes, hbytes, hspells⟩ := exists_spells (n := 32) hdigits hsize
      refine ⟨bytes, hbytes, hspells, ?_⟩
      rw [← Except.ok.inj h, hspells.map_toLower, ofBytes, hexText]
    · cases h
  · rintro ⟨bytes, hbytes, hspells, rfl⟩
    have hsize : (String.ofList (body text.toList)).utf8ByteSize = 64 := by
      rw [utf8ByteSize_of_isHexDigit hspells.isHexDigit, hspells.length_eq, hbytes]
    rw [if_neg (not_not.2 hsize), if_pos (List.all_eq_true.2 hspells.isHexDigit),
      hspells.map_toLower, ofBytes, hexText]

/-- A text is refused for its length in bytes if it is not sixty-four, and otherwise for a character
that is no digit. -/
lemma ofText_eq_error_iff {e : DigestError} : ofText text = .error e ↔
    ((String.ofList (body text.toList)).utf8ByteSize ≠ 64 ∧
      e = .length (String.ofList (body text.toList)).utf8ByteSize text) ∨
    ((String.ofList (body text.toList)).utf8ByteSize = 64 ∧
      (∃ c ∈ body text.toList, isHexDigit c = false) ∧ e = .notHex text) := by
  have hsome : ¬(body text.toList).all isHexDigit = true ↔
      ∃ c ∈ body text.toList, isHexDigit c = false := by
    rw [Bool.not_eq_true, List.all_eq_false]
    simp only [Bool.not_eq_true]
  rw [ofText_eq, ← hsome]
  split
  · next hsize =>
    constructor
    · intro h
      exact .inl ⟨hsize, (Except.error.inj h).symm⟩
    · rintro (⟨-, rfl⟩ | ⟨h, -⟩)
      · rfl
      · exact absurd h hsize
  · next hsize =>
    rw [not_not] at hsize
    split
    · next hdigits =>
      refine ⟨nofun, ?_⟩
      rintro (⟨h, -⟩ | ⟨-, h, -⟩)
      · exact absurd hsize h
      · exact absurd hdigits h
    · next hdigits =>
      constructor
      · intro h
        exact .inr ⟨hsize, hdigits, (Except.error.inj h).symm⟩
      · rintro (⟨h, -⟩ | ⟨-, -, rfl⟩)
        · exact absurd hsize h
        · rfl

/-! ## Reading back -/

/-- A digest reads back from its text, as a digest and as a checksum, and so it does in JSON. -/
structure ReadsBack (d : Digest) : Prop where
  text : ofText d.hex = .ok d
  checksum : Checksum.ofText d.hex = .ok (.sha256 d)
  json : ofJson? d.toJson = some d
  checksumJson : Checksum.ofJson? (Checksum.sha256 d).toJson = some (.sha256 d)

/-- A digest is read from its JSON form as from its text. -/
lemma ofJson?_toJson (d : Digest) : ofJson? d.toJson = (ofText d.hex).toOption := rfl

/-- So is the checksum that it is. -/
lemma ofJson?_toJson_sha256 (d : Digest) :
    Checksum.ofJson? (Checksum.sha256 d).toJson = (Checksum.ofText d.hex).toOption := rfl

/-- The label begins with a character that is no hexadecimal digit. -/
lemma not_isPrefix_label (h : ∀ c ∈ s, isHexDigit c = true) : ¬label <+: s := by
  rintro ⟨rest, rfl⟩
  have hfirst := h 's' (List.mem_append_left rest (by decide))
  exact absurd hfirst (by decide)

/-- Hexadecimal digits are not blank. -/
lemma isBlank_of_isHexDigit {c : Char} (h : isHexDigit c = true) : isBlank c = false :=
  of_toNat_lt (p := fun c => isHexDigit c = true → isBlank c = false) (by decide +kernel)
    (toNat_lt_of_isHexDigit h) h

/-- Hexadecimal digits are not trimmed. -/
lemma trim_of_isHexDigit (h : ∀ c ∈ s, isHexDigit c = true) : trim s = s :=
  trim_of_forall fun c hc => isBlank_of_isHexDigit (h c hc)

/-- A text of hexadecimal digits is not the word for no checksum. -/
lemma dropAll_ne_noCheckWord (h : ∀ c ∈ s, isHexDigit c = true) :
    dropAll ':' s ≠ Checksum.noCheckWord.toList := by
  intro hword
  have hmem : 'n' ∈ dropAll ':' s := by
    rw [hword]
    decide
  exact absurd (h 'n' ((List.dropWhile_sublist _).mem hmem)) (by decide)

/-- The digest of thirty-two bytes reads back. -/
lemma readsBack_ofBytes (h : bytes.length = 32) : ReadsBack (ofBytes bytes) := by
  have hhex : (ofBytes bytes).hex.toList = bytes.flatMap byteDigits := String.toList_ofList
  have hspells := spells_flatMap bytes
  have hdigits := hspells.isHexDigit
  have htext : ofText (ofBytes bytes).hex = .ok (ofBytes bytes) := by
    have hbody : body (bytes.flatMap byteDigits) = bytes.flatMap byteDigits :=
      body_of_unlabelled (.inr ⟨not_isPrefix_label hdigits, rfl⟩)
    rw [ofText_eq_ok_iff, hhex, hbody]
    exact ⟨bytes, h, hspells, rfl⟩
  have hchecksum : Checksum.ofText (ofBytes bytes).hex = .ok (.sha256 (ofBytes bytes)) := by
    rw [Checksum.ofText, hhex, trim_of_isHexDigit hdigits]
    simp only [dropAll_ne_noCheckWord hdigits, if_false]
    rw [← hhex, String.ofList_toList, htext]
    rfl
  refine ⟨htext, hchecksum, ?_, ?_⟩
  · rw [ofJson?_toJson, htext, toOption_ok]
  · rw [ofJson?_toJson_sha256, hchecksum, toOption_ok]

/-- A text gives a digest exactly if, without the label that may stand before it, it is made of
sixty-four hexadecimal digits. These spell thirty-two bytes, and the digest is the one of these
bytes and of no others, with the text that writes them in lower case. So the digest of a text is
that of given bytes exactly if the text spells them, in either case and with or without the label.
Every digest reads back from its text, and a text that is refused is so for its length in bytes or
else for a character that is no digit. -/
theorem digests_denote_bytes (text : String) :
    let digits := body text.toList
    Unlabelled text.toList digits ∧
    ((∃ d, ofText text = .ok d) ↔ digits.length = 64 ∧ ∀ c ∈ digits, isHexDigit c = true) ∧
    (∀ d, ofText text = .ok d →
      (∃ bytes : List UInt8, bytes.length = 32 ∧ Spells digits bytes ∧ d.hex = hexText bytes ∧
        d = ofBytes bytes ∧ ∀ other, d.hex = hexText other → other = bytes) ∧
      (∀ bytes, d = ofBytes bytes ↔ Spells digits bytes) ∧ ReadsBack d) ∧
    (∀ bytes : List UInt8, bytes.length = 32 → ReadsBack (ofBytes bytes)) ∧
    ∀ e, ofText text = .error e ↔
      ((String.ofList digits).utf8ByteSize ≠ 64 ∧
        e = .length (String.ofList digits).utf8ByteSize text) ∨
      ((String.ofList digits).utf8ByteSize = 64 ∧ (∃ c ∈ digits, isHexDigit c = false) ∧
        e = .notHex text) := by
  intro digits
  refine ⟨unlabelled_body _, ?_, ?_, fun bytes => readsBack_ofBytes, fun e => ofText_eq_error_iff⟩
  · constructor
    · rintro ⟨d, hd⟩
      obtain ⟨bytes, hbytes, hspells, -⟩ := ofText_eq_ok_iff.1 hd
      exact ⟨by rw [hspells.length_eq, hbytes], hspells.isHexDigit⟩
    · rintro ⟨hlength, hdigits⟩
      obtain ⟨bytes, hbytes, hspells⟩ := exists_spells (n := 32) hdigits hlength
      exact ⟨_, ofText_eq_ok_iff.2 ⟨bytes, hbytes, hspells, rfl⟩⟩
  · intro d hd
    obtain ⟨bytes, hbytes, hspells, rfl⟩ := ofText_eq_ok_iff.1 hd
    refine ⟨⟨bytes, hbytes, hspells, rfl, rfl, fun other hother => (hexText_injective hother).symm⟩,
      fun other => ?_, readsBack_ofBytes hbytes⟩
    constructor
    · intro hother
      rwa [← hexText_injective (congrArg Digest.hex hother)]
    · intro hother
      rw [hspells.unique hother]

/-- A digest in mixed case with a label, and a text that has sixty-four characters and more bytes.
-/
theorem digests_denote_bytes_mixed :
    let text := "sha256:" ++ String.ofList (List.replicate 32 ['a', 'B']).flatten
    let wide := String.ofList (List.replicate 64 'é')
    ofText text = .ok (ofBytes (List.replicate 32 0xAB)) ∧
      ReadsBack (ofBytes (List.replicate 32 0xAB)) ∧
      ofText wide = .error (.length 128 wide) := by
  intro text wide
  have htext : body text.toList = (List.replicate 32 ['a', 'B']).flatten := by
    rw [String.toList_append, String.toList_ofList]
    exact body_of_unlabelled (.inl rfl)
  have hwide : body wide.toList = List.replicate 64 'é' := by
    rw [String.toList_ofList]
    exact body_of_unlabelled (.inr ⟨by decide +kernel, rfl⟩)
  have hdigits : ∀ c ∈ (List.replicate 32 ['a', 'B']).flatten, isHexDigit c = true :=
    List.all_eq_true.1 (by decide)
  have hspells : Spells (List.replicate 32 ['a', 'B']).flatten (List.replicate 32 0xAB) :=
    spells_iff.2 ⟨hdigits, by decide⟩
  obtain ⟨-, haccepted, hdigest, hreads, -⟩ := digests_denote_bytes text
  obtain ⟨-, -, -, -, hrefused⟩ := digests_denote_bytes wide
  rw [htext] at haccepted hdigest
  rw [hwide] at hrefused
  obtain ⟨d, hd⟩ := haccepted.2 ⟨rfl, hdigits⟩
  have hbytes := ((hdigest d hd).2.1 _).2 hspells
  have hsize : (String.ofList (List.replicate 64 'é')).utf8ByteSize = 128 := by decide +kernel
  rw [hsize] at hrefused
  exact ⟨by rw [hd, hbytes], hreads _ rfl, (hrefused _).2 (.inl ⟨by decide, rfl⟩)⟩

end CaskAudit.Digest
