import CaskAudit.Feed.Sparkle
import CaskAudit.Proofs.Feed.Attributes
import CaskAudit.Proofs.Feed.Marks
import CaskAudit.Proofs.Feed.Versions
import Mathlib.Data.List.Perm.Basic

/-!
# Feeds that are written item by item

An item that says what a release is can be written in many ways: its elements and the attributes of
its enclosure may come in any order, with blanks between them, and any number of items may stand in
a comment. It is a row of marks in all of them (`Item.text_eq`), so every field is found where its
name is (`Item.element?_text`, `Item.attribute?_text`), and a feed gives one entry for each item
(`filterMap_items_of_writes`).
-/

namespace CaskAudit.Sparkle

open Markup Text

/-! ## What is written -/

/-- The characters that mean something in a mark. -/
def signs : List Char := ['<', '>', '"', '\'', '=']

/-- A text that an item can hold as a value: neither empty nor with blanks at its ends, and without
the characters that mean something in a mark. -/
structure IsValue (s : List Char) : Prop where
  ne_nil : s ≠ []
  trimmed : Trimmed s
  plain : ∀ c ∈ signs, c ∉ s

/-- What values are made of, as it is checked. -/
lemma isValue_iff {s : List Char} :
    IsValue s ↔ s ≠ [] ∧ trim s = s ∧ signs.all (fun c => c ∉ s) = true := by
  have hplain : signs.all (fun c => c ∉ s) = true ↔ ∀ c ∈ signs, c ∉ s := by simp
  rw [hplain, ← trimmed_iff]
  exact ⟨fun h => ⟨h.ne_nil, h.trimmed, h.plain⟩, fun ⟨hne, htrim, hsigns⟩ => ⟨hne, htrim, hsigns⟩⟩

instance : DecidablePred IsValue := fun _ => decidable_of_iff' _ isValue_iff

/-- A value that an item can hold. -/
structure Value where
  text : String
  isValue : IsValue text.toList

/-- What an item says about a release: at least one of a short version and a build. -/
structure Advert where
  short : Option Value
  build : Option Value
  url : Option Value
  minimum : Option Value
  channel : Option Value
  versioned : (short.or build).isSome

namespace Advert

/-- The version that an item gives: the short one, or else the build. -/
def version (a : Advert) : String := ((a.short.or a.build).get a.versioned).text

/-- The release that an item advertises. The build is told apart only from a short version. -/
def entry (a : Advert) : FeedEntry where
  version := a.version
  build := a.short.bind fun _ => a.build.map Value.text
  urls := (a.url.map Value.text).toList
  minimumSystemVersion := a.minimum.map Value.text
  prerelease := looksPrerelease a.version || a.channel.any (·.text ≠ "release")

/-- What an item advertises is a pre-release: one of seven words stands in its version, in any case
of their letters, or its channel is not the one of releases. -/
def IsPrerelease (a : Advert) : Prop :=
  (∃ tag ∈ ["alpha", "beta", "rc", "pre", "dev", "preview", "nightly"],
    tag.toList <:+: a.version.toList.map Char.toLower) ∨
    ∃ channel, a.channel = some channel ∧ channel.text ≠ "release"

/-- The fields that are written as attributes of the enclosure. -/
def attributes (a : Advert) : List (String × Option Value) :=
  [("url", a.url), ("sparkle:version", a.build), ("sparkle:shortVersionString", a.short)]

/-- The fields that are written as elements. -/
def elements (a : Advert) : List (String × Option Value) :=
  [("sparkle:minimumSystemVersion", a.minimum), ("sparkle:channel", a.channel)]

/-- Pre-releases are told by what an item says. -/
lemma prerelease_entry_iff (a : Advert) : a.entry.prerelease = true ↔ a.IsPrerelease := by
  have hchannel : (a.channel.any (·.text ≠ "release")) = true ↔
      ∃ channel, a.channel = some channel ∧ channel.text ≠ "release" := by
    rw [Option.any_eq_true]
    simp
  rw [entry, Bool.or_eq_true, looksPrerelease_iff, hchannel, IsPrerelease]

end Advert

/-- The names and values of the fields that have a value. -/
def given (fields : List (String × Option Value)) : List (List Char × List Char) :=
  fields.filterMap fun (name, value) => value.map fun v => (name.toList, v.text.toList)

/-- An element as it is written, and the blanks before it. -/
structure Element where
  gap : List Char
  name : List Char
  value : Value
  allBlank_gap : AllBlank gap
  isName : IsName name

/-- The text of an element. -/
def Element.text (e : Element) : List Char :=
  e.gap ++ ('<' :: e.name ++ '>' :: (e.value.text.toList ++ ("</".toList ++ e.name ++ ['>'])))

/-- An item as it is written, which says what is advertised: elements, an enclosure and blanks. -/
structure Item (a : Advert) where
  elements : List Element
  gap : List Char
  enclosure : Tag
  trail : List Char
  allBlank_gap : AllBlank gap
  allBlank_trail : AllBlank trail
  name_eq : enclosure.name = "enclosure".toList
  slash_eq : enclosure.slash = true
  elements_perm : (elements.map fun e => (e.name, e.value.text.toList)).Perm (given a.elements)
  attributes_perm : (enclosure.attributes.map fun b => (b.name, b.value)).Perm (given a.attributes)

/-- The name of an enclosure is one. -/
lemma isName_enclosure : IsName "enclosure".toList := by decide +kernel

/-- The name of a URL is one. -/
lemma isName_url : IsName "url".toList := by decide +kernel

/-- The text of an item. -/
def Item.text {a : Advert} (i : Item a) : List Char :=
  '<' :: ("item>".toList ++ (i.elements.flatMap Element.text ++
    (i.gap ++ (i.enclosure.text ++ (i.trail ++ "</item>".toList)))))

/-- A text has items that advertise some releases one after the other, with nothing between them
but blanks and the marks of comments. -/
inductive Writes : List Advert → List Char → Prop
  | nil {s : List Char} (hs : Joint s) : Writes [] s
  | cons {a : Advert} {as : List Advert} {s t : List Char} (hs : Joint s) (i : Item a)
      (ht : Writes as t) : Writes (a :: as) (s ++ (i.text ++ t))

/-! ## Values and fields -/

variable {a : Advert} {i : Item a} {fields : List (String × Option Value)} {name : String}

/-- A value is read as it is. -/
lemma Value.nonBlank?_text (v : Value) :
    (nonBlank? v.text.toList).map String.ofList = some v.text := by
  have htrim := trim_of_trimmed v.isValue.trimmed
  have hne : v.text.toList.isEmpty = false := by simpa using v.isValue.ne_nil
  rw [nonBlank?, htrim]
  simp [hne]

/-- What is given are the fields with a value. -/
lemma mem_given {p : List Char × List Char} : p ∈ given fields ↔
    ∃ name v, (name, some v) ∈ fields ∧ p = (name.toList, v.text.toList) := by
  rw [given, List.mem_filterMap]
  constructor
  · rintro ⟨⟨name, value⟩, hmem, hp⟩
    obtain ⟨v, rfl, rfl⟩ := Option.map_eq_some_iff.1 hp
    exact ⟨name, v, hmem, rfl⟩
  · rintro ⟨name, v, hmem, rfl⟩
    exact ⟨(name, some v), hmem, rfl⟩

/-- The value of a field is found by its name in any order of what is given, if there is only one
value for the name. -/
lemma find?_of_perm {α : Type} {l : List α} {f : α → List Char × List Char} {value : Option Value}
    (hl : (l.map f).Perm (given fields)) (hv : ∀ v, (name, some v) ∈ fields ↔ value = some v) :
    (l.find? fun x => (f x).1 = name.toList).map (fun x => (f x).2) =
      value.map fun v => v.text.toList := by
  cases hfind : l.find? fun x => (f x).1 = name.toList with
  | none =>
    cases hvalue : value with
    | none => rfl
    | some v =>
      have hmem : (name.toList, v.text.toList) ∈ l.map f :=
        hl.mem_iff.2 (mem_given.2 ⟨name, v, (hv v).2 hvalue, rfl⟩)
      obtain ⟨x, hx, heq⟩ := List.mem_map.1 hmem
      have hnone := List.find?_eq_none.1 hfind x hx
      simp [heq] at hnone
  | some x =>
    have hname : (f x).1 = name.toList := by simpa using List.find?_some hfind
    have hmem := hl.mem_iff.1 (List.mem_map_of_mem (List.mem_of_find?_eq_some hfind))
    obtain ⟨other, v, hfield, heq⟩ := mem_given.1 hmem
    obtain rfl : other = name := by
      rw [heq] at hname
      exact String.toList_inj.1 hname
    rw [(hv v).1 hfield, Option.map_some, heq, Option.map_some]

/-! ## The marks of an item -/

/-- A name has no brackets. -/
lemma bracket_notMem {n : List Char} (hn : IsName n) : '<' ∉ n ∧ '>' ∉ n :=
  ⟨hn.notMem (by decide), hn.notMem (by decide)⟩

/-- Blanks have no brackets. -/
lemma bracket_notMem_of_allBlank {s : List Char} (hs : AllBlank s) : '<' ∉ s ∧ '>' ∉ s :=
  ⟨fun hmem => absurd (hs _ hmem) (by decide), fun hmem => absurd (hs _ hmem) (by decide)⟩

/-- The mark that opens an element. -/
def Element.opening (e : Element) : Mark where
  lead := e.gap
  inside := e.name
  opening_notMem_lead := (bracket_notMem_of_allBlank e.allBlank_gap).1
  closing_notMem_lead := (bracket_notMem_of_allBlank e.allBlank_gap).2
  opening_notMem := (bracket_notMem e.isName).1
  closing_notMem := (bracket_notMem e.isName).2

/-- The mark that closes an element, after its value. -/
def Element.closing (e : Element) : Mark where
  lead := e.value.text.toList
  inside := '/' :: e.name
  opening_notMem_lead := e.value.isValue.plain _ (by simp [signs])
  closing_notMem_lead := e.value.isValue.plain _ (by simp [signs])
  opening_notMem := by simpa using (bracket_notMem e.isName).1
  closing_notMem := by simpa using (bracket_notMem e.isName).2

/-- The marks of an element. -/
def Element.marks (e : Element) : List Mark := [e.opening, e.closing]

/-- An element is the row of its marks. -/
lemma Element.text_eq (e : Element) : e.text = e.marks.flatMap Mark.text := by
  simp [Element.text, Element.marks, Mark.text, Element.opening, Element.closing]

namespace Item

/-- An attribute of an enclosure has a value that items can hold. -/
lemma exists_value {b : Attribute} (h : b ∈ i.enclosure.attributes) :
    ∃ name v, (name, some v) ∈ a.attributes ∧ b.name = name.toList ∧
      b.value = v.text.toList := by
  have hmem : (b.name, b.value) ∈ given a.attributes :=
    i.attributes_perm.mem_iff.1 (List.mem_map_of_mem h)
  obtain ⟨name, v, hfield, heq⟩ := mem_given.1 hmem
  exact ⟨name, v, hfield, congrArg Prod.fst heq, congrArg Prod.snd heq⟩

/-- An element has one of the names that elements of items have. -/
lemma name_of_mem {e : Element} (h : e ∈ i.elements) :
    e.name = "sparkle:minimumSystemVersion".toList ∨ e.name = "sparkle:channel".toList := by
  have hmem : (e.name, e.value.text.toList) ∈ given a.elements :=
    i.elements_perm.mem_iff.1 (List.mem_map_of_mem h)
  obtain ⟨name, v, hfield, heq⟩ := mem_given.1 hmem
  have hname : e.name = name.toList := congrArg Prod.fst heq
  rcases List.mem_cons.1 hfield with hfield | hfield
  · exact .inl (hname.trans (congrArg (·.1.toList) hfield))
  · exact .inr (hname.trans (congrArg (·.1.toList) (List.mem_singleton.1 hfield)))

/-- An enclosure has an attribute, since an item gives a version. -/
lemma attributes_ne_nil (i : Item a) : i.enclosure.attributes ≠ [] := by
  intro hnil
  have hgiven : given a.attributes = [] := by
    have hperm := i.attributes_perm
    rw [hnil, List.map_nil] at hperm
    exact hperm.nil_eq.symm
  obtain ⟨v, hv⟩ := Option.isSome_iff_exists.1 a.versioned
  have hfield : ∃ name, (name, some v) ∈ a.attributes := by
    rcases Option.or_eq_some_iff.1 hv with hshort | ⟨-, hbuild⟩
    · exact ⟨"sparkle:shortVersionString", by simp [Advert.attributes, hshort]⟩
    · exact ⟨"sparkle:version", by simp [Advert.attributes, hbuild]⟩
  obtain ⟨name, hname⟩ := hfield
  have hmem : (name.toList, v.text.toList) ∈ given a.attributes :=
    mem_given.2 ⟨name, v, hname, rfl⟩
  rw [hgiven] at hmem
  cases hmem

/-- What stands in the mark of an enclosure. -/
def inside (i : Item a) : List Char :=
  i.enclosure.name ++
    (i.enclosure.attributes.flatMap Attribute.text ++ (i.enclosure.trail ++ ['/']))

/-- An enclosure is one mark. -/
lemma enclosure_text (i : Item a) : i.enclosure.text = '<' :: (i.inside ++ ['>']) := by
  simp [Tag.text, Tag.ending, i.slash_eq, inside]

/-- What stands in the mark of an enclosure begins with its name. -/
lemma head?_inside (i : Item a) : i.inside.head? = some 'e' := by
  rw [inside, i.name_eq]
  rfl

/-- There are no other brackets in the mark of an enclosure. -/
lemma bracket_notMem_inside {d : Char} (hd : d = '<' ∨ d = '>') : d ∉ i.inside := by
  have hname : isNameChar d = false := by rcases hd with rfl | rfl <;> decide
  have hblank : ∀ s, AllBlank s → d ∉ s := by
    intro s hs hmem
    have hnot : isBlank d = false := by rcases hd with rfl | rfl <;> decide
    rw [hs d hmem] at hnot
    cases hnot
  have hattribute : ∀ b ∈ i.enclosure.attributes, d ∉ b.text := by
    intro b hb
    obtain ⟨name, v, -, -, hvalue⟩ := exists_value hb
    have hv : d ∉ b.value := by
      rw [hvalue]
      exact v.isValue.plain d (by rcases hd with rfl | rfl <;> simp [signs])
    have hquote : d ≠ b.quote := by
      rcases hd with rfl | rfl <;> rcases b.quote_eq with hq | hq <;> rw [hq] <;> decide
    have hequals : d ≠ '=' := by rcases hd with rfl | rfl <;> decide
    simp [Attribute.text, hblank _ b.allBlank_gap, b.isName.notMem hname, hequals, hquote, hv]
  have hattributes : d ∉ i.enclosure.attributes.flatMap Attribute.text := by
    rw [List.mem_flatMap]
    rintro ⟨b, hb, hmem⟩
    exact hattribute b hb hmem
  have hslash : d ≠ '/' := by rcases hd with rfl | rfl <;> decide
  simp [inside, i.enclosure.isName.notMem hname, hattributes, hblank _ i.enclosure.allBlank_trail,
    hslash]

/-- The mark that opens an item. -/
def opening : Mark := ⟨[], "item".toList, by decide, by decide, by decide, by decide⟩

/-- The mark of an enclosure. -/
def middle (i : Item a) : Mark where
  lead := i.gap
  inside := i.inside
  opening_notMem_lead := (bracket_notMem_of_allBlank i.allBlank_gap).1
  closing_notMem_lead := (bracket_notMem_of_allBlank i.allBlank_gap).2
  opening_notMem := bracket_notMem_inside (.inl rfl)
  closing_notMem := bracket_notMem_inside (.inr rfl)

/-- The mark that closes an item. -/
def closing (i : Item a) : Mark where
  lead := i.trail
  inside := "/item".toList
  opening_notMem_lead := (bracket_notMem_of_allBlank i.allBlank_trail).1
  closing_notMem_lead := (bracket_notMem_of_allBlank i.allBlank_trail).2
  opening_notMem := by decide
  closing_notMem := by decide

/-- The marks of an item. -/
def marks (i : Item a) : List Mark :=
  opening :: (i.elements.flatMap Element.marks ++ [i.middle, i.closing])

/-- The elements of an item are the row of their marks. -/
lemma flatMap_text (es : List Element) :
    es.flatMap Element.text = (es.flatMap Element.marks).flatMap Mark.text := by
  rw [List.flatMap_assoc]
  exact List.flatMap_congr fun e _ => e.text_eq

/-- An item is the row of its marks. -/
lemma text_eq (i : Item a) : i.text = i.marks.flatMap Mark.text := by
  rw [Item.text, marks, flatMap_text, enclosure_text]
  simp [Mark.text, opening, middle, closing]

end Item

/-! ## Fields are found -/

/-- A mark opens an element only if it begins with the whole name. -/
lemma eq_of_opens {m : Mark} {n k rest : List Char} (hn : IsName n) (hk : IsName k)
    (hinside : m.inside = k ++ rest) (hrest : ∀ c ∈ rest.head?, isNameChar c = false)
    (h : Opens n m) : n = k := by
  obtain ⟨rest', hinside', hblank⟩ := h
  have hrest' : ∀ c ∈ rest'.head?, isNameChar c = false :=
    fun c hc => isNameChar_of_isBlank (hblank c hc)
  have htake : ∀ l r : List Char, IsName l → (∀ c ∈ r.head?, isNameChar c = false) →
      (l ++ r).takeWhile isNameChar = l := by
    intro l r hl hr
    rw [List.takeWhile_append_of_pos hl.2]
    cases r with
    | nil => simp
    | cons c r => rw [List.takeWhile_cons_of_neg (by simp [hr c rfl]), List.append_nil]
  rw [← htake n rest' hn hrest', ← hinside', hinside, htake k rest hk hrest]

/-- A mark that closes an element opens none. -/
lemma not_opens_of_slash {m : Mark} {n rest : List Char} (hn : IsName n)
    (hinside : m.inside = '/' :: rest) : ¬Opens n m := by
  rintro ⟨rest', hinside', -⟩
  obtain ⟨c, n', rfl⟩ := List.exists_cons_of_ne_nil hn.1
  rw [hinside, List.cons_append] at hinside'
  have hslash : isNameChar '/' = true := hn.2 '/' (by rw [(List.cons.inj hinside').1]; simp)
  exact absurd hslash (by decide)

namespace Item

/-- An enclosure has a blank after its name. -/
lemma exists_inside (i : Item a) :
    ∃ c rest, i.inside = "enclosure".toList ++ c :: rest ∧ isBlank c = true := by
  obtain ⟨b, bs, hattributes⟩ := List.exists_cons_of_ne_nil i.attributes_ne_nil
  obtain ⟨c, gap, hgap⟩ := List.exists_cons_of_ne_nil b.gap_ne_nil
  have hc : isBlank c = true := b.allBlank_gap c (by rw [hgap]; exact List.mem_cons_self)
  rw [inside, i.name_eq, hattributes, List.flatMap_cons, Attribute.text, hgap]
  exact ⟨c, _, rfl, hc⟩

/-- The mark of an enclosure is a tag with attributes. -/
lemma isTag_middle (i : Item a) : IsTag "enclosure".toList i.middle := i.exists_inside

/-- The mark that opens an item opens nothing else. -/
lemma not_opens_opening {n : List Char} (hn : IsName n) (h : n ≠ "item".toList) :
    ¬Opens n opening := by
  have hname : IsName "item".toList := by decide +kernel
  have hinside : opening.inside = "item".toList ++ [] := rfl
  exact fun hopens => h (eq_of_opens hn hname hinside (by simp) hopens)

/-- The mark of an enclosure opens nothing else. -/
lemma not_opens_middle {n : List Char} (hn : IsName n) (h : n ≠ "enclosure".toList) :
    ¬Opens n i.middle := by
  obtain ⟨c, rest, hinside, hblank⟩ := i.exists_inside
  have hhead : ∀ d ∈ (c :: rest).head?, isNameChar d = false := by
    simpa using isNameChar_of_isBlank hblank
  exact fun hopens => h (eq_of_opens hn isName_enclosure hinside hhead hopens)

/-- The marks of elements with other names do not open an element. -/
lemma not_opens_of_mem {es : List Element} {n : List Char} (hn : IsName n)
    (h : ∀ e ∈ es, e.name ≠ n) : ∀ m ∈ es.flatMap Element.marks, ¬Opens n m := by
  intro m hm
  obtain ⟨e, he, hmark⟩ := List.mem_flatMap.1 hm
  rcases List.mem_pair.1 hmark with rfl | rfl
  · have hinside : e.opening.inside = e.name ++ [] := (List.append_nil _).symm
    exact fun hopens => h e he (eq_of_opens hn e.isName hinside (by simp) hopens).symm
  · exact not_opens_of_slash hn rfl

/-- The enclosure of an item is found. -/
lemma tag?_text (i : Item a) : tag? "enclosure".toList i.text = some i.enclosure.text := by
  have hothers : ∀ n ∈ ["sparkle:minimumSystemVersion".toList, "sparkle:channel".toList],
      n ≠ "enclosure".toList := by decide
  have hnames : ∀ e ∈ i.elements, e.name ≠ "enclosure".toList :=
    fun e he => hothers _ (by simpa using name_of_mem he)
  have hskip : ∀ m ∈ opening :: i.elements.flatMap Element.marks,
      ¬IsTag "enclosure".toList m := by
    rw [List.forall_mem_cons]
    refine ⟨fun htag => ?_, fun m hm htag => ?_⟩
    · exact not_opens_opening isName_enclosure (by decide) (opens_of_isTag htag)
    · exact not_opens_of_mem isName_enclosure hnames m hm (opens_of_isTag htag)
  have hmarks : i.marks.flatMap Mark.text =
      (opening :: i.elements.flatMap Element.marks).flatMap Mark.text ++
        (i.middle.text ++ i.closing.text) := by
    simp [marks]
  have hfound := tag?_of_isTag (t := i.closing.text) i.isTag_middle
  rw [text_eq, hmarks, tag?_flatMap (by decide) hskip, hfound, enclosure_text]
  rfl

/-- An element is found by its name. -/
lemma element?_eq_find? (i : Item a) (hn : IsName name.toList) (hitem : name ≠ "item")
    (henclosure : name ≠ "enclosure") : element? name i.text =
      (i.elements.find? (·.name = name.toList)).map (·.value.text) := by
  have hbracket : '>' ∉ name.toList := hn.notMem (by decide)
  have hopening := not_opens_opening hn fun h => hitem (String.toList_inj.1 h)
  have hmiddle : ¬Opens name.toList i.middle :=
    not_opens_middle hn fun h => henclosure (String.toList_inj.1 h)
  rw [text_eq, marks]
  cases hfind : i.elements.find? (·.name = name.toList) with
  | none =>
    have hnames : ∀ e ∈ i.elements, e.name ≠ name.toList := by
      simpa using List.find?_eq_none.1 hfind
    have helements := not_opens_of_mem hn hnames
    refine element?_eq_none hbracket (List.forall_mem_cons.2 ⟨hopening, ?_⟩)
    rw [List.forall_mem_append]
    refine ⟨helements, List.forall_mem_cons.2 ⟨hmiddle, List.forall_mem_singleton.2 ?_⟩⟩
    exact not_opens_of_slash hn rfl
  | some e =>
    obtain ⟨hname, before, after, helements, hbefore⟩ := List.find?_eq_some_iff_append.1 hfind
    have hnames : ∀ e ∈ before, e.name ≠ name.toList := by simpa using hbefore
    have hopens : Opens name.toList e.opening :=
      ⟨[], by simpa [Element.opening] using hname, by simp⟩
    have hcloses : e.closing.inside = '/' :: name.toList := by
      simpa [Element.closing] using hname
    have hskip : ∀ m ∈ opening :: before.flatMap Element.marks, ¬Opens name.toList m :=
      List.forall_mem_cons.2 ⟨hopening, not_opens_of_mem hn hnames⟩
    have hmarks : opening :: (i.elements.flatMap Element.marks ++ [i.middle, i.closing]) =
        opening :: before.flatMap Element.marks ++
          e.opening :: e.closing :: (after.flatMap Element.marks ++ [i.middle, i.closing]) := by
      simp [helements, Element.marks]
    rw [hmarks, element?_eq hbracket hskip hopens hcloses]
    exact e.value.nonBlank?_text

/-- An element is found by its name, if the item says one value for it. -/
lemma element?_text (i : Item a) {value : Option Value} (hn : IsName name.toList)
    (hitem : name ≠ "item") (henclosure : name ≠ "enclosure")
    (hv : ∀ v, (name, some v) ∈ a.elements ↔ value = some v) :
    element? name i.text = value.map Value.text := by
  have hfind := congrArg (Option.map String.ofList) (find?_of_perm i.elements_perm hv)
  rw [element?_eq_find? i hn hitem henclosure]
  simpa [Option.map_map, Function.comp_def] using hfind

/-- An attribute of the enclosure is found by its name, if the item says one value for it and no
longer name ends in this one. -/
lemma attribute?_text (i : Item a) {value : Option Value} (hn : IsName name.toList)
    (hnames : ∀ other ∈ ["url", "sparkle:version", "sparkle:shortVersionString"],
      name.toList <:+ other.toList → name = other)
    (hv : ∀ v, (name, some v) ∈ a.attributes ↔ value = some v) :
    attribute? name i.enclosure.text = value.map Value.text := by
  have hpasses : ∀ b ∈ i.enclosure.attributes.takeWhile (·.name ≠ name.toList),
      Passes name.toList b := by
    intro b hb
    have hne : b.name ≠ name.toList := by simpa using List.mem_takeWhile_imp hb
    obtain ⟨other, v, hfield, hname, hvalue⟩ :=
      exists_value ((List.takeWhile_prefix _).subset hb)
    refine passes_of_notMem (fun hsuffix => hne ?_) ?_
    · rw [hname] at hsuffix ⊢
      have hmem : other ∈ ["url", "sparkle:version", "sparkle:shortVersionString"] :=
        List.mem_map_of_mem (f := Prod.fst) hfield
      exact congrArg String.toList (hnames other hmem hsuffix).symm
    · rw [hvalue]
      exact v.isValue.plain _ (by simp [signs])
  have hfind : (i.enclosure.attributes.find? (·.name = name.toList)).map Attribute.value =
      value.map fun v => v.text.toList := find?_of_perm i.attributes_perm hv
  have hvalue : ∀ found : Option Attribute,
      (found.bind fun b => nonBlank? b.value) = (found.map Attribute.value).bind nonBlank? := by
    intro found
    cases found <;> rfl
  rw [Tag.attribute?_eq hn hpasses, hvalue, hfind]
  cases value with
  | none => rfl
  | some v => exact v.nonBlank?_text

/-- A field that is written as an attribute is read from the enclosure, or else from elements. -/
lemma field?_text (i : Item a) {value : Option Value} (hn : IsName name.toList)
    (hitem : name ≠ "item") (henclosure : name ≠ "enclosure")
    (hnames : ∀ other ∈ ["url", "sparkle:version", "sparkle:shortVersionString"],
      name.toList <:+ other.toList → name = other)
    (hv : ∀ v, (name, some v) ∈ a.attributes ↔ value = some v)
    (hnone : ∀ v, (name, some v) ∉ a.elements) :
    field? (some i.enclosure.text) i.text name = value.map Value.text := by
  have helement : element? name i.text = (none : Option Value).map Value.text :=
    element?_text i hn hitem henclosure fun v => by simp [hnone v]
  have hattribute := attribute?_text i hn hnames hv
  rw [field?, Option.bind_some, hattribute, helement, Option.map_none, Option.or_none]

/-- The version and the build of an advert are told from what its item gives. -/
lemma versions?_eq (a : Advert) :
    versions? (a.short.map Value.text) (a.build.map Value.text) =
      some (a.version, a.short.bind fun _ => a.build.map Value.text) := by
  obtain ⟨short, build, url, minimum, channel, versioned⟩ := a
  cases short with
  | some short => rfl
  | none =>
    cases build with
    | some build => rfl
    | none => cases versioned

/-- The versions of an item are those that it advertises. -/
lemma versions?_text (i : Item a) :
    versions? (field? (some i.enclosure.text) i.text "sparkle:shortVersionString")
      (field? (some i.enclosure.text) i.text "sparkle:version") =
        some (a.version, a.short.bind fun _ => a.build.map Value.text) := by
  have hshort : field? (some i.enclosure.text) i.text "sparkle:shortVersionString" =
      a.short.map Value.text := by
    refine field?_text i (by decide +kernel) (by decide) (by decide) (by decide) ?_ ?_
    · simp [Advert.attributes, eq_comm]
    · simp [Advert.elements]
  have hbuild : field? (some i.enclosure.text) i.text "sparkle:version" =
      a.build.map Value.text := by
    refine field?_text i (by decide +kernel) (by decide) (by decide) (by decide) ?_ ?_
    · simp [Advert.attributes, eq_comm]
    · simp [Advert.elements]
  rw [hshort, hbuild, versions?_eq]

/-- The least system version of an item is the one that it advertises. -/
lemma minimumSystemVersion_text (i : Item a) :
    (element? "sparkle:minimumSystemVersion" i.text).or (element? "minimumSystemVersion" i.text) =
      a.minimum.map Value.text := by
  have hminimum : element? "sparkle:minimumSystemVersion" i.text = a.minimum.map Value.text := by
    refine element?_text i (by decide +kernel) (by decide) (by decide) ?_
    simp [Advert.elements, eq_comm]
  have hplain : element? "minimumSystemVersion" i.text = (none : Option Value).map Value.text := by
    refine element?_text i (by decide +kernel) (by decide) (by decide) ?_
    simp [Advert.elements]
  rw [hminimum, hplain, Option.map_none, Option.or_none]

/-- The channel of an item tells a prerelease exactly if it is advertised and another one than
that of releases. -/
lemma isPrereleaseChannel_text (i : Item a) :
    isPrereleaseChannel i.text = a.channel.any (·.text ≠ "release") := by
  have hchannel : element? "sparkle:channel" i.text = a.channel.map Value.text := by
    refine element?_text i (by decide +kernel) (by decide) (by decide) ?_
    simp [Advert.elements, eq_comm]
  rw [isPrereleaseChannel, hchannel]
  cases a.channel <;> rfl

/-- An item gives the entry that it advertises. -/
lemma entryOf?_text (i : Item a) : entryOf? i.text = some a.entry := by
  have hurl : attribute? "url" i.enclosure.text = a.url.map Value.text := by
    refine attribute?_text i isName_url (by decide) ?_
    simp [Advert.attributes, eq_comm]
  rw [entryOf?, tag?_text, versions?_text, Option.bind_some, hurl, minimumSystemVersion_text,
    isPrereleaseChannel_text]
  rfl

/-! ## Items in a feed -/

/-- The marks of an item are kept when comments are taken out. -/
lemma kept_of_mem_marks {m : Mark} (h : m ∈ i.marks) : m.Kept := by
  have hnames : ∀ n ∈ ["sparkle:minimumSystemVersion".toList, "sparkle:channel".toList],
      n.head? ≠ some '!' ∧ n.getLast? ≠ some '-' ∧ ('/' :: n).getLast? ≠ some '-' := by
    decide
  rw [marks, List.mem_cons, List.mem_append, List.mem_flatMap, List.mem_pair] at h
  rcases h with rfl | ⟨e, he, hm⟩ | rfl | rfl
  · exact ⟨by decide, by decide⟩
  · obtain ⟨hfirst, hlast, hlast'⟩ := hnames e.name (by simpa using name_of_mem he)
    rcases List.mem_pair.1 hm with rfl | rfl
    · exact ⟨hfirst, hlast⟩
    · exact ⟨by simp [Element.closing], hlast'⟩
  · have hlast : i.inside.getLast? = some '/' := by
      simp [inside, List.getLast?_append]
    exact ⟨by simp [middle, i.head?_inside], by simp [middle, hlast]⟩
  · have hname : "/item".toList.head? ≠ some '!' ∧ "/item".toList.getLast? ≠ some '-' := by decide
    exact ⟨hname.1, hname.2⟩

/-- An item is kept when comments are taken out. -/
lemma uncomment_text (i : Item a) (t : List Char) :
    uncomment (i.text ++ t) = i.text ++ uncomment t := by
  rw [text_eq]
  exact uncomment_flatMap fun m hm => kept_of_mem_marks hm

/-- An item is read up to its end. -/
lemma items_text (i : Item a) {s : List Char} (hs : AllBlank s) (t : List Char) :
    items (s ++ (i.text ++ t)) = i.text :: items t := by
  have hnames : ∀ n ∈ ["sparkle:minimumSystemVersion".toList, "sparkle:channel".toList],
      n ≠ "/item".toList ∧ '/' :: n ≠ "/item".toList := by
    decide
  have hmarks : ∀ m ∈ i.elements.flatMap Element.marks ++ [i.middle],
      m.inside ≠ "/item".toList := by
    intro m hm
    rw [List.mem_append, List.mem_flatMap, List.mem_singleton] at hm
    rcases hm with ⟨e, he, hm⟩ | rfl
    · have hname := hnames e.name (by simpa using name_of_mem he)
      rcases List.mem_pair.1 hm with rfl | rfl
      · exact hname.1
      · exact hname.2
    · intro hinside
      have hfirst : i.middle.inside.head? = some 'e' := i.head?_inside
      rw [hinside] at hfirst
      cases hfirst
  have hopen : '<' ∉ s := (bracket_notMem_of_allBlank hs).1
  have htrail : '<' ∉ i.trail := (bracket_notMem_of_allBlank i.allBlank_trail).1
  have hinner : (i.elements.flatMap Element.marks ++ [i.middle]).flatMap Mark.text ++ i.trail =
      i.elements.flatMap Element.text ++ (i.gap ++ (i.enclosure.text ++ i.trail)) := by
    rw [flatMap_text, enclosure_text]
    simp [Mark.text, middle]
  have hclose := not_infix_flatMap hmarks htrail
  rw [hinner] at hclose
  have hopening : '<' :: "item>".toList = itemOpening ++ ['>'] := by decide +kernel
  have hclosing : "</item>".toList = itemClosing := rfl
  have htext : i.text = itemOpening ++
      '>' :: (i.elements.flatMap Element.text ++ (i.gap ++ (i.enclosure.text ++ i.trail))) ++
        itemClosing := by
    rw [Item.text, ← List.cons_append, hopening, hclosing]
    simp only [List.append_assoc, List.cons_append, List.nil_append]
  have hitems := items_append (t := t) hopen hclose
  rw [htext]
  simpa only [List.append_assoc, List.cons_append] using hitems

end Item

/-- A feed that is written item by item gives one entry for each item, in their order. -/
lemma filterMap_items_of_writes {as : List Advert} {s : List Char} (h : Writes as s) :
    (items (uncomment s)).filterMap entryOf? = as.map Advert.entry := by
  induction h with
  | @nil s hs =>
    obtain ⟨⟨b, hb, hkept⟩, -⟩ := exists_uncomment_joint (t := []) (by simp) hs
    rw [List.append_nil] at hkept
    have hnil : uncomment [] = [] := by rw [uncomment]
    rw [hkept, hnil, List.append_nil, items_of_notMem (bracket_notMem_of_allBlank hb).1]
    rfl
  | @cons a as s t hs i ht ih =>
    have hhead : ∀ c ∈ (i.text ++ t).head?, isBlank c = false := by
      intro c hc
      obtain rfl : '<' = c := by simpa [Item.text] using hc
      decide
    obtain ⟨⟨b, hb, hkept⟩, -⟩ := exists_uncomment_joint hhead hs
    have hitems := i.items_text hb
    rw [hkept, i.uncomment_text, hitems, List.filterMap_cons, i.entryOf?_text, ih]
    rfl

/-! ## Every release can be advertised -/

/-- An attribute with a value, in single or in double quotes and after some spaces. -/
def Value.attribute (v : Value) (spaces : Nat) (single : Bool) (name : List Char)
    (hname : IsName name) : Attribute where
  gap := List.replicate (spaces + 1) ' '
  name := name
  quote := if single then '\'' else '"'
  value := v.text.toList
  gap_ne_nil := by simp
  allBlank_gap := by
    intro c hc
    rw [List.eq_of_mem_replicate hc]
    decide
  isName := hname
  quote_eq := by cases single <;> simp
  quote_notMem := v.isValue.plain _ (by cases single <;> simp [signs])
  closing_notMem := v.isValue.plain _ (by simp [signs])

/-- An element with a value, without blanks before it. -/
def Value.element (v : Value) (name : List Char) (hname : IsName name) : Element where
  gap := []
  name := name
  value := v
  allBlank_gap := allBlank_nil
  isName := hname

/-- The item that says what is advertised without any blanks that may be left out. -/
def Advert.item (a : Advert) : Item a where
  elements :=
    (a.minimum.map (·.element "sparkle:minimumSystemVersion".toList (by decide +kernel))).toList ++
      (a.channel.map (·.element "sparkle:channel".toList (by decide +kernel))).toList
  gap := []
  enclosure := ⟨"enclosure".toList,
    (a.url.map (·.attribute 0 false "url".toList isName_url)).toList ++
      (a.build.map (·.attribute 0 false "sparkle:version".toList (by decide +kernel))).toList ++
      (a.short.map
        (·.attribute 0 false "sparkle:shortVersionString".toList (by decide +kernel))).toList,
    [], true, isName_enclosure, allBlank_nil⟩
  trail := []
  allBlank_gap := allBlank_nil
  allBlank_trail := allBlank_nil
  name_eq := rfl
  slash_eq := rfl
  elements_perm := by
    obtain ⟨short, build, url, minimum, channel, versioned⟩ := a
    cases minimum <;> cases channel <;> exact .refl _
  attributes_perm := by
    obtain ⟨short, build, url, minimum, channel, versioned⟩ := a
    cases url <;> cases build <;> cases short <;> exact .refl _

/-- There is a text with items for any releases. -/
lemma exists_writes (as : List Advert) : ∃ s, Writes as s := by
  induction as with
  | nil => exact ⟨[], .nil .nil⟩
  | cons a as ih =>
    obtain ⟨s, hs⟩ := ih
    exact ⟨_, .cons .nil a.item hs⟩

/-- Any releases can be written as a feed item by item. A feed in which this is done, with some of
the items perhaps in comments, lists the releases that the items advertise: one for each item, from
the newest to the oldest. Pre-releases are told by their versions and channels. -/
theorem entries_of_writes (as : List Advert) : (∃ body : String, Writes as body.toList) ∧
    (∀ body : String, Writes as body.toList →
      entries body = FeedEntry.sortNewestFirst (as.map Advert.entry)) ∧
    ∀ a ∈ as, (a.entry.prerelease = true ↔ a.IsPrerelease) := by
  refine ⟨?_, ?_, fun a _ => a.prerelease_entry_iff⟩
  · obtain ⟨s, hs⟩ := exists_writes as
    exact ⟨String.ofList s, by rwa [String.toList_ofList]⟩
  · intro body h
    rw [entries, filterMap_items_of_writes h]

/-- A short version. -/
def shortValue : Value := ⟨"1.1.0", by decide +kernel⟩

/-- The build of an older release. -/
def olderBuild : Value := ⟨"110", by decide +kernel⟩

/-- The build of a newer release. -/
def newerBuild : Value := ⟨"120", by decide +kernel⟩

/-- A channel that is not the one of releases. -/
def betaChannel : Value := ⟨"beta", by decide +kernel⟩

/-- A short version that says that it is one before a release. -/
def candidateValue : Value := ⟨"1.2.0-RC1", by decide +kernel⟩

/-- A release with a short version. -/
def releaseAdvert : Advert := ⟨some shortValue, some olderBuild, none, none, none, rfl⟩

/-- A pre-release, told by its channel, with a build only. -/
def betaAdvert : Advert := ⟨none, some newerBuild, none, none, some betaChannel, rfl⟩

/-- A pre-release, told by its version. -/
def candidateAdvert : Advert := ⟨some candidateValue, none, none, none, none, rfl⟩

/-- An item without elements, and with attributes in both kinds of quotes. -/
def releaseItem : Item releaseAdvert where
  elements := []
  gap := []
  enclosure := ⟨"enclosure".toList,
    [shortValue.attribute 0 true "sparkle:shortVersionString".toList (by decide +kernel),
      olderBuild.attribute 1 false "sparkle:version".toList (by decide +kernel)],
    [], true, isName_enclosure, allBlank_nil⟩
  trail := []
  allBlank_gap := allBlank_nil
  allBlank_trail := allBlank_nil
  name_eq := rfl
  slash_eq := rfl
  elements_perm := .refl _
  attributes_perm := .swap _ _ _

/-- An item with an element. -/
def betaItem : Item betaAdvert where
  elements := [⟨[], "sparkle:channel".toList, betaChannel, allBlank_nil, by decide +kernel⟩]
  gap := ['\n']
  enclosure := ⟨"enclosure".toList,
    [newerBuild.attribute 0 false "sparkle:version".toList (by decide +kernel)],
    [], true, isName_enclosure, allBlank_nil⟩
  trail := ['\n']
  allBlank_gap := by decide
  allBlank_trail := by decide
  name_eq := rfl
  slash_eq := rfl
  elements_perm := .refl _
  attributes_perm := .refl _

/-- A feed with an item in a comment, between two others. -/
def commentedFeed : String :=
  "<item><enclosure sparkle:shortVersionString='1.1.0'  sparkle:version=\"110\"/></item>\n" ++
  "<!-- <item><sparkle:channel>beta</sparkle:channel>\n" ++
  "<enclosure sparkle:version=\"120\"/>\n</item> -->" ++
  "<item><enclosure sparkle:shortVersionString=\"1.2.0-RC1\"/></item>"

/-- The item in the comment is listed, and first since its version is the newest one. The two others
are told apart by the version, in which one says that it is no release. -/
theorem entries_of_writes_commented :
    Writes [releaseAdvert, betaAdvert, candidateAdvert] commentedFeed.toList ∧
      entries commentedFeed = [⟨"120", none, [], none, true⟩, ⟨"1.2.0-RC1", none, [], none, true⟩,
        ⟨"1.1.0", some "110", [], none, false⟩] ∧
      candidateAdvert.entry.prerelease = true := by
  have hclose : Joint (' ' :: (commentClosing ++ [])) := .blank (by decide) (.closing .nil)
  have hopen : Joint ('\n' :: (commentOpening ++ [' '])) :=
    .blank (by decide) (.opening (.blank (by decide) .nil))
  have htext : commentedFeed.toList = [] ++ (releaseItem.text ++
      ('\n' :: (commentOpening ++ [' ']) ++ (betaItem.text ++
        (' ' :: (commentClosing ++ []) ++ (candidateAdvert.item.text ++ []))))) := by
    decide +kernel
  have hwrites : Writes [releaseAdvert, betaAdvert, candidateAdvert] commentedFeed.toList := by
    rw [htext]
    exact .cons .nil releaseItem
      (.cons hopen betaItem (.cons hclose candidateAdvert.item (.nil .nil)))
  obtain ⟨-, hentries, hprerelease⟩ :=
    entries_of_writes [releaseAdvert, betaAdvert, candidateAdvert]
  -- The older one of two entries does not come first.
  have hbeta : (betaAdvert.entry.compareTo releaseAdvert.entry).isLE = false := by decide +kernel
  have hcandidate : (candidateAdvert.entry.compareTo releaseAdvert.entry).isLE = false := by
    decide +kernel
  have hlast : (candidateAdvert.entry.compareTo betaAdvert.entry).isLE = true := by decide +kernel
  have hsorted : FeedEntry.sortNewestFirst
      [releaseAdvert.entry, betaAdvert.entry, candidateAdvert.entry] =
      [betaAdvert.entry, candidateAdvert.entry, releaseAdvert.entry] := by
    simp [FeedEntry.sortNewestFirst, List.mergeSort, List.MergeSort.Internal.splitInTwo, hbeta,
      hcandidate, hlast]
  refine ⟨hwrites, ?_, ?_⟩
  · rw [hentries commentedFeed hwrites, List.map_cons, List.map_cons, List.map_singleton, hsorted]
    decide +kernel
  · have hrc : "rc".toList <:+: candidateAdvert.version.toList.map Char.toLower := by
      decide +kernel
    rw [hprerelease candidateAdvert (by simp)]
    exact .inl ⟨"rc", by simp, hrc⟩

end CaskAudit.Sparkle
