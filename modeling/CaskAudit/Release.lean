import CaskAudit.Text.Blank
import CaskAudit.Text.Decimal
import CaskAudit.Text.Pieces

/-!
# macOS releases

The releases of macOS in the order in which they came out, each with the symbolic name and the
version number that manifests and command lines use for it. The order is fixed, so a comparison
such as "at most leopard" keeps its meaning on releases that came later.
-/

namespace CaskAudit

open Text

/-- A macOS release, oldest first. -/
inductive Release where
  | cheetah | puma | jaguar | panther | tiger | leopard | snowLeopard | lion | mountainLion
  | mavericks | yosemite | elCapitan | sierra | highSierra | mojave | catalina | bigSur | monterey
  | ventura | sonoma | sequoia | tahoe
  deriving DecidableEq, Repr, Inhabited

namespace Release

/-- Every release, oldest first. -/
def all : List Release :=
  [cheetah, puma, jaguar, panther, tiger, leopard, snowLeopard, lion, mountainLion, mavericks,
    yosemite, elCapitan, sierra, highSierra, mojave, catalina, bigSur, monterey, ventura, sonoma,
    sequoia, tahoe]

/-- The place of a release in the order, from zero. -/
def rank : Release → Nat
  | cheetah => 0
  | puma => 1
  | jaguar => 2
  | panther => 3
  | tiger => 4
  | leopard => 5
  | snowLeopard => 6
  | lion => 7
  | mountainLion => 8
  | mavericks => 9
  | yosemite => 10
  | elCapitan => 11
  | sierra => 12
  | highSierra => 13
  | mojave => 14
  | catalina => 15
  | bigSur => 16
  | monterey => 17
  | ventura => 18
  | sonoma => 19
  | sequoia => 20
  | tahoe => 21

/-- The symbolic name of a release, as manifests write it after a colon. -/
def name : Release → String
  | cheetah => "cheetah"
  | puma => "puma"
  | jaguar => "jaguar"
  | panther => "panther"
  | tiger => "tiger"
  | leopard => "leopard"
  | snowLeopard => "snow_leopard"
  | lion => "lion"
  | mountainLion => "mountain_lion"
  | mavericks => "mavericks"
  | yosemite => "yosemite"
  | elCapitan => "el_capitan"
  | sierra => "sierra"
  | highSierra => "high_sierra"
  | mojave => "mojave"
  | catalina => "catalina"
  | bigSur => "big_sur"
  | monterey => "monterey"
  | ventura => "ventura"
  | sonoma => "sonoma"
  | sequoia => "sequoia"
  | tahoe => "tahoe"

/-- The version number of a release. -/
def number : Release → String
  | cheetah => "10.0"
  | puma => "10.1"
  | jaguar => "10.2"
  | panther => "10.3"
  | tiger => "10.4"
  | leopard => "10.5"
  | snowLeopard => "10.6"
  | lion => "10.7"
  | mountainLion => "10.8"
  | mavericks => "10.9"
  | yosemite => "10.10"
  | elCapitan => "10.11"
  | sierra => "10.12"
  | highSierra => "10.13"
  | mojave => "10.14"
  | catalina => "10.15"
  | bigSur => "11"
  | monterey => "12"
  | ventura => "13"
  | sonoma => "14"
  | sequoia => "15"
  | tahoe => "26"

/-- Every release is listed at its rank. -/
theorem all_getElem?_rank (r : Release) : all[r.rank]? = some r := by cases r <;> rfl

/-- Two releases of one rank are the same. -/
theorem rank_injective {r s : Release} (h : r.rank = s.rank) : r = s := by
  have := all_getElem?_rank r
  rw [h, all_getElem?_rank] at this
  exact (Option.some.inj this).symm

/-- The release with a symbolic name. -/
def ofName? (name : List Char) : Option Release := all.find? (·.name.toList = name)

/-- The release with a version number. -/
def ofNumber? (number : List Char) : Option Release := all.find? (·.number.toList = number)

/-- The release that a symbolic name denotes; blanks around it and colons before it do not
count. -/
def ofToken? (text : String) : Option Release := ofName? (dropAll ':' (trim text.toList))

/-- The part of a version number that tells releases apart: two components after a leading `10`,
one otherwise. -/
def numberKey? (version : List Char) : Option (List Char) :=
  match splitOn '.' version with
  | [] => none
  | major :: rest =>
    if major = "10".toList then
      match rest with
      | [] => none
      | minor :: _ => some ("10.".toList ++ minor)
    else some major

/-- The release that a version number such as `10.9.5` or `14.2` belongs to. -/
def ofVersion? (text : String) : Option Release :=
  match numberKey? (trim text.toList) with
  | some key => ofNumber? key
  | none => none

/-- The release that a text denotes: a version number if it begins with a digit, a symbolic name
otherwise. -/
def ofText? (text : String) : Option Release :=
  match trim text.toList with
  | c :: _ => if isAsciiDigit c then ofVersion? text else ofToken? text
  | [] => ofToken? text

end Release

/-- A text that denotes no known release. -/
structure UnknownRelease where
  text : String

/-- The report of an unknown release. -/
def UnknownRelease.message (e : UnknownRelease) : String := s!"Unknown macOS release: {e.text}"

end CaskAudit
