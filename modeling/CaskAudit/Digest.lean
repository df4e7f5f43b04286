import CaskAudit.Json.Printer
import CaskAudit.Text.Blank
import CaskAudit.Text.Pieces

/-!
# Digests and checksums

A digest is the hexadecimal text of a SHA-256 value, in lower case. A checksum is a digest, or the
statement that an installer is not to be checked.
-/

namespace CaskAudit

open Text

/-- A SHA-256 value as 64 hexadecimal digits in lower case. -/
structure Digest where
  hex : String
  deriving DecidableEq, Repr, Inhabited

/-- A fault of a digest. -/
inductive DigestError where
  | length (bytes : Nat) (input : String)
  | notHex (input : String)
  deriving DecidableEq, Repr

/-- The report of a fault. -/
def DigestError.message : DigestError → String
  | .length bytes input =>
    s!"Invalid SHA256 digest: expected 64 hex characters, got {bytes} in '{input}'"
  | .notHex input => s!"Invalid SHA256 digest: contains non-hex characters in '{input}'"

namespace Digest

/-- Whether a character is a hexadecimal digit of either case. -/
def isHexDigit (c : Char) : Bool :=
  ('0' ≤ c && c ≤ '9') || ('a' ≤ c && c ≤ 'f') || ('A' ≤ c && c ≤ 'F')

/-- The name of the algorithm, which may stand before a digest. -/
def label : List Char := "sha256:".toList

/-- The part of a text that has to be the digest. -/
def body (s : List Char) : List Char := (dropLeading? label s).getD s

/-- The digest that a text writes. -/
def ofText (text : String) : Except DigestError Digest :=
  let digits := body text.toList
  let bytes := (String.ofList digits).utf8ByteSize
  if bytes ≠ 64 then .error (.length bytes text)
  else if !digits.all isHexDigit then .error (.notHex text)
  else .ok ⟨String.ofList (digits.map Char.toLower)⟩

/-- The two digits of a byte. -/
def byteDigits (b : UInt8) : List Char :=
  [Json.hexDigit (b.toNat / 16), Json.hexDigit (b.toNat % 16)]

/-- The hexadecimal text of bytes. -/
def hexText (bytes : List UInt8) : String := String.ofList (bytes.flatMap byteDigits)

/-- The digest whose value is given by its bytes. -/
def ofBytes (bytes : List UInt8) : Digest := ⟨hexText bytes⟩

end Digest

/-- What an installer is checked against. -/
inductive Checksum where
  | sha256 (d : Digest)
  | noCheck
  deriving DecidableEq, Repr, Inhabited

namespace Checksum

/-- The word that turns checking off. -/
def noCheckWord : String := "no_check"

/-- The checksum that a text writes. -/
def ofText (text : String) : Except DigestError Checksum :=
  let trimmed := trim text.toList
  if dropAll ':' trimmed = noCheckWord.toList then .ok .noCheck
  else (Digest.ofText (String.ofList trimmed)).map .sha256

/-- The digest of a checksum that has one. -/
def digest? : Checksum → Option Digest
  | .sha256 d => some d
  | .noCheck => none

/-- A checksum as a listing shows it. -/
def describe : Checksum → String
  | .sha256 d => d.hex
  | .noCheck => ":" ++ noCheckWord

end Checksum

end CaskAudit
