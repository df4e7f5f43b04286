/-!
# UTF-8

Decoding of bytes, strictly or with each ill-formed part replaced. A part is ill-formed as far as
its bytes could still begin a scalar value, and each such part is replaced by one U+FFFD.
-/

namespace CaskAudit.Text

/-- Reads `n` continuation bytes after a leading byte whose bits are `acc`; the first of them is
confined to `lo … hi`. Gives no character where a byte is missing, and leaves that byte unread. -/
def readContinuation (acc : Nat) (lo hi : UInt8) : Nat → List UInt8 → Option Char × List UInt8
  | 0, rest => (some (Char.ofNat acc), rest)
  | _ + 1, [] => (none, [])
  | n + 1, b :: rest =>
    if lo ≤ b ∧ b ≤ hi then readContinuation (acc * 64 + (b.toNat - 0x80)) 0x80 0xBF n rest
    else (none, b :: rest)

/-- Reads the scalar value that a byte begins, or nothing where the bytes are ill-formed; in both
cases the rest begins after the bytes that belong together. -/
def readScalar (b : UInt8) (rest : List UInt8) : Option Char × List UInt8 :=
  if b < 0x80 then (some (Char.ofNat b.toNat), rest)
  else if b < 0xC2 then (none, rest)
  else if b < 0xE0 then readContinuation (b.toNat - 0xC0) 0x80 0xBF 1 rest
  else if b < 0xF0 then
    let lo := if b = 0xE0 then 0xA0 else 0x80
    let hi := if b = 0xED then 0x9F else 0xBF
    readContinuation (b.toNat - 0xE0) lo hi 2 rest
  else if b < 0xF5 then
    let lo := if b = 0xF0 then 0x90 else 0x80
    let hi := if b = 0xF4 then 0x8F else 0xBF
    readContinuation (b.toNat - 0xF0) lo hi 3 rest
  else (none, rest)

/-- Reading continuation bytes never leaves more than there was. -/
theorem length_readContinuation_le (acc : Nat) (lo hi : UInt8) (n : Nat) (s : List UInt8) :
    (readContinuation acc lo hi n s).2.length ≤ s.length := by
  induction n generalizing acc lo hi s with
  | zero => simp [readContinuation]
  | succ n ih =>
    cases s with
    | nil => simp [readContinuation]
    | cons b rest =>
      rw [readContinuation]
      split
      · exact Nat.le_succ_of_le (ih ..)
      · simp

/-- Reading a scalar value never leaves more than followed its first byte. -/
theorem length_readScalar_le (b : UInt8) (rest : List UInt8) :
    (readScalar b rest).2.length ≤ rest.length := by
  unfold readScalar
  split
  · simp
  · split
    · simp
    · split
      · exact length_readContinuation_le ..
      · split
        · exact length_readContinuation_le ..
        · split
          · exact length_readContinuation_le ..
          · simp

/-- The characters that bytes write, each ill-formed part replaced by U+FFFD. -/
def decodeLossy : List UInt8 → List Char
  | [] => []
  | b :: rest =>
    have := length_readScalar_le b rest
    (readScalar b rest).1.getD '\uFFFD' :: decodeLossy (readScalar b rest).2
termination_by s => s.length
decreasing_by simp only [List.length_cons]; omega

/-- The characters that bytes write, or nothing if some part is ill-formed. -/
def decode? : List UInt8 → Option (List Char)
  | [] => some []
  | b :: rest =>
    have := length_readScalar_le b rest
    match (readScalar b rest).1 with
    | none => none
    | some c => (decode? (readScalar b rest).2).map (c :: ·)
termination_by s => s.length
decreasing_by simp only [List.length_cons]; omega

/-- The bytes that write a text of ASCII characters. -/
def asciiBytes (s : List Char) : List UInt8 := s.map fun c => c.toNat.toUInt8

/-- The bytes that write a text. -/
def encode (s : String) : List UInt8 := s.toUTF8.toList

end CaskAudit.Text
