import CaskAudit.Digest
import CaskAudit.Digest.Sha256
import CaskAudit.Text.Pieces
import CaskAudit.Text.Utf8

/-!
# Checkpoints

The checkpoint of a feed is the digest of its contents without the dates of publication, so that a
feed which only stamps itself anew keeps its checkpoint. A date is taken out where a complete
element holds nothing but well-formed text without another mark.
-/

namespace CaskAudit.Checkpoint

open CaskAudit.Text

/-- The mark that opens a date. -/
def opening : List UInt8 := asciiBytes "<pubDate>".toList

/-- The mark that closes a date. -/
def closing : List UInt8 := asciiBytes "</pubDate>".toList

/-- The byte with which every mark begins. -/
def markStart : UInt8 := 0x3C

/-- What follows a date that stands at the start of a text. -/
def afterDate? (s : List UInt8) : Option (List UInt8) :=
  match dropLeading? opening s with
  | none => none
  | some inside =>
    if (decode? (inside.takeWhile (· ≠ markStart))).isSome then
      dropLeading? closing (inside.dropWhile (· ≠ markStart))
    else none

/-- What follows a date is shorter than the text. -/
theorem length_lt_of_afterDate? {s after : List UInt8} (h : afterDate? s = some after) :
    after.length < s.length := by
  unfold afterDate? at h
  split at h
  · simp at h
  · next inside hopen =>
    split at h
    · have h1 := length_of_dropLeading? hopen
      have h2 := length_of_dropLeading? h
      have h3 := (List.dropWhile_sublist (· ≠ markStart) (l := inside)).length_le
      have h4 : 0 < opening.length := by decide
      omega
    · simp at h

/-- A text without its dates. -/
def withoutDates : List UInt8 → List UInt8
  | [] => []
  | b :: rest =>
    match h : afterDate? (b :: rest) with
    | some after =>
      have := length_lt_of_afterDate? h
      withoutDates after
    | none => b :: withoutDates rest
termination_by s => s.length
decreasing_by all_goals (simp only [List.length_cons] at *; omega)

/-- The digest that stands for the contents of a feed. -/
def fingerprint (contents : List UInt8) : Digest := .ofBytes (Sha256.hash (withoutDates contents))

end CaskAudit.Checkpoint
