import CaskAudit.Text.Blank
import CaskAudit.Text.Pieces

/-!
# Marks in a feed

Feeds are searched for the few marks that matter and are not otherwise taken apart, so that a feed
with faults elsewhere can still be read. A mark is found at the first place where it is complete.
-/

namespace CaskAudit.Markup

open CaskAudit.Text

/-- Whether a text begins with another. -/
def startsWith (p s : List Char) : Bool := (dropLeading? p s).isSome

/-- Trimming the start of a text leaves no more than there was. -/
theorem length_trimStart_le (s : List Char) : (trimStart s).length ≤ s.length :=
  (List.dropWhile_sublist _).length_le

/-! ## Comments -/

/-- The mark that opens a comment. -/
def commentOpening : List Char := "<!--".toList

/-- The mark that closes a comment. -/
def commentClosing : List Char := "-->".toList

/-- What follows a mark that opens a comment and the blanks after it. -/
def afterCommentOpening? (s : List Char) : Option (List Char) :=
  (dropLeading? commentOpening s).map trimStart

/-- What follows blanks and a mark that closes a comment. -/
def afterCommentClosing? (s : List Char) : Option (List Char) :=
  dropLeading? commentClosing (trimStart s)

/-- What follows a mark of a comment and the blanks inside next to it. -/
def afterCommentMark? (s : List Char) : Option (List Char) :=
  (afterCommentOpening? s).or (afterCommentClosing? s)

/-- What follows a mark of a comment is shorter than the whole. -/
theorem length_lt_of_afterCommentMark? {s after : List Char}
    (h : afterCommentMark? s = some after) : after.length < s.length := by
  rcases Option.or_eq_some_iff.1 h with hopen | ⟨-, hclose⟩
  · obtain ⟨inside, hinside, rfl⟩ := Option.map_eq_some_iff.1 hopen
    have h1 := length_of_dropLeading? hinside
    have h2 := length_trimStart_le inside
    have h3 : commentOpening.length = 4 := rfl
    omega
  · have h1 := length_of_dropLeading? hclose
    have h2 := length_trimStart_le s
    have h3 : commentClosing.length = 3 := rfl
    omega

/-- A text without the marks of comments and the blanks inside next to them. What is in a comment
stays, since feeds keep releases there. -/
def uncomment : List Char → List Char
  | [] => []
  | c :: rest =>
    match h : afterCommentMark? (c :: rest) with
    | some after =>
      have := length_lt_of_afterCommentMark? h
      uncomment after
    | none => c :: uncomment rest
termination_by s => s.length
decreasing_by all_goals (simp only [List.length_cons] at *; omega)

/-! ## Items -/

/-- The mark that opens an item, up to where its name ends. -/
def itemOpening : List Char := "<item".toList

/-- The mark that closes an item. -/
def itemClosing : List Char := "</item>".toList

/-- Whether a character ends the name in an opening mark. -/
def endsName (c : Char) : Bool := isBlank c || c == '>'

/-- What follows an item is shorter than the text that the item is found in. -/
theorem length_lt_of_item {s before rest inner after : List Char} {c : Char}
    (hopen : breakOn? itemOpening s = some (before, c :: rest))
    (hclose : breakOn? itemClosing rest = some (inner, after)) : after.length < s.length := by
  have h1 := length_lt_of_breakOn? (by decide) hopen
  have h2 := length_lt_of_breakOn? (by decide) hclose
  rw [List.length_cons] at h1
  omega

/-- The items of a feed, marks included, from first to last. -/
def items (s : List Char) : List (List Char) :=
  match hopen : breakOn? itemOpening s with
  | some (_, c :: rest) =>
    if endsName c then
      match hclose : breakOn? itemClosing rest with
      | some (inner, after) =>
        have := length_lt_of_item hopen hclose
        (itemOpening ++ c :: inner ++ itemClosing) :: items after
      | none => []
    else
      have := length_lt_of_breakOn? (List.cons_ne_nil _ _) hopen
      items (c :: rest)
  | _ => []
termination_by s.length

/-! ## Tags and elements -/

/-- The first tag with a name and attributes, marks included. -/
def tag? (name : List Char) (s : List Char) : Option (List Char) :=
  match hopen : breakOn? ('<' :: name) s with
  | some (_, c :: rest) =>
    have := length_lt_of_breakOn? (List.cons_ne_nil _ _) hopen
    if isBlank c then
      (splitFirst? '>' rest).map fun (inner, _) => '<' :: name ++ c :: inner ++ ['>']
    else tag? name (c :: rest)
  | _ => none
termination_by s.length

/-- The text after the first opening mark of an element, which may have attributes. -/
def afterOpening? (name : List Char) (s : List Char) : Option (List Char) :=
  match hopen : breakOn? ('<' :: name) s with
  | some (_, c :: rest) =>
    have := length_lt_of_breakOn? (List.cons_ne_nil _ _) hopen
    if c = '>' then some rest
    else if isBlank c then (splitFirst? '>' rest).map (·.2)
    else afterOpening? name (c :: rest)
  | _ => none
termination_by s.length

/-- A text without the blanks at its ends, unless nothing else is in it. -/
def nonBlank? (s : List Char) : Option (List Char) :=
  let t := trim s
  if t.isEmpty then none else some t

/-- The contents of the first element with a name, if they are not blank. -/
def element? (name : String) (s : List Char) : Option String :=
  match afterOpening? name.toList s with
  | none => none
  | some content =>
    match breakOn? ("</".toList ++ name.toList ++ ['>']) content with
    | none => none
    | some (inner, _) => (nonBlank? inner).map String.ofList

/-! ## Attributes -/

/-- What follows a name, blanks and an equals sign at the start of a text, without blanks. -/
def afterEquals? (name : List Char) (s : List Char) : Option (List Char) :=
  match dropLeading? name s with
  | none => none
  | some rest =>
    match trimStart rest with
    | '=' :: value => some (trimStart value)
    | _ => none

/-- The value of an attribute at the start of a text; the quote that opens it also closes it. -/
def attributeHere? (name : List Char) (s : List Char) : Option (List Char) :=
  match afterEquals? name s with
  | some ('"' :: rest) => (splitFirst? '"' rest).map (·.1)
  | some ('\'' :: rest) => (splitFirst? '\'' rest).map (·.1)
  | _ => none

/-- The value after the first place where a name and a quoted value stand. -/
def firstAttribute? (name : List Char) : List Char → Option (List Char)
  | [] => none
  | c :: rest =>
    match attributeHere? name (c :: rest) with
    | some value => some value
    | none => firstAttribute? name rest

/-- The value of an attribute in a tag, if it is not blank. -/
def attribute? (name : String) (tag : List Char) : Option String :=
  ((firstAttribute? name.toList tag).bind nonBlank?).map String.ofList

end CaskAudit.Markup
