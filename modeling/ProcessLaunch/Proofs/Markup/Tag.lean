import Mathlib.Data.List.Basic
import Mathlib.Data.List.TakeWhile
import ProcessLaunch.Markup.Document
import ProcessLaunch.Proofs.Markup.Value

/-!
# Written tags

Start tags as they may be written: a name with or without a qualifier in front, and attributes in
any order, with white space wherever it may stand.  A tag is read up to its closing bracket and no
further, and every attribute is found under its name.
-/

namespace ProcessLaunch.Markup

/-! ## 1. Ways of writing -/

structure Space where
  text : List Char
  isSpace_of_mem : ∀ c ∈ text, isSpace c = true

def Space.none : Space := ⟨[], List.forall_mem_nil _⟩

def isNameChar (c : Char) : Bool :=
  !isSpace c && !(['<', '>', '/', '=', '"', '\'', '!', '?'].contains c)

theorem isNameChar_iff {c : Char} : isNameChar c = true ↔
    isSpace c = false ∧ c ∉ ['<', '>', '/', '=', '"', '\'', '!', '?'] := by
  simp [isNameChar]

structure Attribute where
  lead : Space
  name : List Char
  beforeEquals : Space
  afterEquals : Space
  quote : Char
  value : List Char
  written : List Char
  lead_ne_nil : lead.text ≠ []
  name_ne_nil : name ≠ []
  isNameChar_of_mem : ∀ c ∈ name, isNameChar c = true
  isQuote : quote = '"' ∨ quote = '\''
  spells : Spells quote value written

def Attribute.text (a : Attribute) : List Char :=
  a.lead.text ++ (a.name ++ (a.beforeEquals.text ++
    '=' :: (a.afterEquals.text ++ a.quote :: (a.written ++ [a.quote]))))

/-- What a tag holds besides its brackets.  A qualifier ends at the first colon of the name. -/
structure Tag where
  qualifier : Option (List Char)
  localName : List Char
  attributes : List Attribute
  tail : Space
  qualifier_plain : ∀ q ∈ qualifier, ∀ c ∈ q, isNameChar c = true ∧ c ≠ ':'
  localName_plain : ∀ c ∈ localName, isNameChar c = true
  unqualified : qualifier = none → localName ≠ [] ∧ ':' ∉ localName

namespace Tag

def name (tag : Tag) : List Char :=
  match tag.qualifier with
  | none => tag.localName
  | some q => q ++ ':' :: tag.localName

def behind (tag : Tag) : List Char := tag.attributes.flatMap Attribute.text ++ tag.tail.text

def text (tag : Tag) : List Char := tag.name ++ tag.behind

def value? (tag : Tag) (key : String) : Option (List Char) :=
  (tag.attributes.find? (·.name = key.toList)).map Attribute.value

def element (tag : Tag) : Element := ⟨tag.name, tag.behind⟩

end Tag

/-! ## 2. The end of a tag -/

/-- No bracket in a text closes a tag, and no quote in it stays open. -/
def Unbroken (s : List Char) : Prop :=
  ∀ rest, spanTag? none (s ++ rest) = (spanTag? none rest).map (Prod.map (s ++ ·) id)

theorem Unbroken.nil : Unbroken [] := by
  intro rest
  show spanTag? none rest = (spanTag? none rest).map id
  rw [Option.map_id]
  rfl

theorem Unbroken.append {s t : List Char} (hs : Unbroken s) (ht : Unbroken t) :
    Unbroken (s ++ t) := by
  intro rest
  rw [List.append_assoc, hs, ht, Option.map_map]
  congr 1
  funext found
  show (s ++ (t ++ found.1), found.2) = (s ++ t ++ found.1, found.2)
  rw [List.append_assoc]

theorem Unbroken.cons {c : Char} {s : List Char} (hc : c ∉ ['>', '"', '\'']) (hs : Unbroken s) :
    Unbroken (c :: s) := by
  simp only [List.mem_cons, List.not_mem_nil, or_false, not_or] at hc
  intro rest
  rw [List.cons_append, spanTag?, if_neg hc.1, if_neg (by simp [hc.2]), hs, Option.map_map]
  rfl

theorem Unbroken.of_forall {s : List Char} (h : ∀ c ∈ s, c ∉ ['>', '"', '\'']) : Unbroken s := by
  induction s with
  | nil => exact .nil
  | cons c s ih =>
      obtain ⟨hc, hs⟩ := List.forall_mem_cons.mp h
      exact .cons hc (ih hs)

/-- What stands between two quotes may hold any bracket. -/
theorem Unbroken.quoted {quote : Char} (hquote : quote = '"' ∨ quote = '\'') {s : List Char}
    (hs : quote ∉ s) : Unbroken (quote :: (s ++ [quote])) := by
  -- behind the first quote only the same quote counts
  have hinside (rest : List Char) : spanTag? (some quote) (s ++ quote :: rest) =
      (spanTag? none rest).map (Prod.map (s ++ quote :: ·) id) := by
    induction s with
    | nil => rw [List.nil_append, spanTag?, if_pos rfl]; rfl
    | cons c s ih =>
        obtain ⟨hc, hs⟩ := not_or.mp (mt List.mem_cons.mpr hs)
        rw [List.cons_append, spanTag?, if_neg (Ne.symm hc), ih hs, Option.map_map]
        rfl
  intro rest
  have hne : quote ≠ '>' := by rcases hquote with rfl | rfl <;> decide
  rw [List.cons_append, List.append_assoc, List.singleton_append, spanTag?, if_neg hne,
    if_pos hquote, hinside, Option.map_map]
  congr 1
  funext found
  show (quote :: (s ++ quote :: found.1), found.2) = (quote :: (s ++ [quote]) ++ found.1, found.2)
  simp

/-- An unbroken text is read up to the bracket behind it. -/
theorem Unbroken.spanTag?_eq {s : List Char} (hs : Unbroken s) (rest : List Char) :
    spanTag? none (s ++ '>' :: rest) = some (s, rest) := by
  rw [hs, spanTag?, if_pos rfl]
  show some (s ++ [], rest) = _
  rw [List.append_nil]

/-- The first character decides that a mark is neither a declaration nor an instruction nor an end
tag. -/
theorem readMark_of_spanTag? {c : Char} {s content after : List Char} (hc : c ∉ ['!', '?', '/'])
    (hspan : spanTag? none (c :: s) = some (content, after)) :
    readMark (c :: s) = .ok (Mark.ofTag content, after) := by
  simp only [List.mem_cons, List.not_mem_nil, or_false, not_or] at hc
  unfold readMark
  split
  next heq => exact absurd (List.cons.inj heq).1 hc.1
  next heq => exact absurd (List.cons.inj heq).1 hc.2.1
  next heq => exact absurd (List.cons.inj heq).1 hc.2.2
  next => rw [hspan]

theorem Space.unbroken (b : Space) : Unbroken b.text := by
  have hmarks : ['>', '"', '\''].all (!isSpace ·) = true := by decide
  refine .of_forall fun c hc hmem => ?_
  have hmark := List.all_eq_true.mp hmarks c hmem
  rw [b.isSpace_of_mem c hc] at hmark
  cases hmark

theorem unbroken_of_isNameChar {s : List Char} (h : ∀ c ∈ s, isNameChar c = true) :
    Unbroken s := by
  refine .of_forall fun c hc hmem => (isNameChar_iff.mp (h c hc)).2 ?_
  revert hmem
  simp only [List.mem_cons, List.not_mem_nil, or_false]
  rintro (rfl | rfl | rfl) <;> decide

/-- No attribute closes the tag that it stands in. -/
theorem Attribute.unbroken (a : Attribute) : Unbroken a.text := by
  have hvalue := Unbroken.quoted a.isQuote (quote_notMem_of_spells a.isQuote a.spells)
  have hequals := Unbroken.cons (c := '=') (by decide) (a.afterEquals.unbroken.append hvalue)
  exact a.lead.unbroken.append ((unbroken_of_isNameChar a.isNameChar_of_mem).append
    (a.beforeEquals.unbroken.append hequals))

/-! ## 3. The parts of a tag -/

namespace Tag

variable (tag : Tag)

theorem name_plain : ∀ c ∈ tag.name, isNameChar c = true := by
  intro c hc
  unfold name at hc
  split at hc
  · exact tag.localName_plain c hc
  next q hq =>
    rcases List.mem_append.mp hc with hc | hc
    · exact (tag.qualifier_plain q hq c hc).1
    · rcases List.mem_cons.mp hc with rfl | hc
      · decide
      · exact tag.localName_plain c hc

theorem name_ne_nil : tag.name ≠ [] := by
  unfold name
  split
  next hq => exact (tag.unqualified hq).1
  · exact List.append_ne_nil_of_right_ne_nil _ (List.cons_ne_nil _ _)

theorem unbroken : Unbroken tag.text := by
  have hattributes : Unbroken (tag.attributes.flatMap Attribute.text) := by
    induction tag.attributes with
    | nil => exact .nil
    | cons a attributes ih => exact a.unbroken.append ih
  exact (unbroken_of_isNameChar tag.name_plain).append (hattributes.append tag.tail.unbroken)

/-- What follows the name is nothing, or begins with white space. -/
theorem isSpace_head_behind : ∀ c ∈ tag.behind.head?, isSpace c = true := by
  intro c hc
  unfold behind at hc
  cases hattributes : tag.attributes with
  | nil =>
      rw [hattributes] at hc
      exact tag.tail.isSpace_of_mem c (List.mem_of_mem_head? hc)
  | cons a attributes =>
      rw [hattributes, List.flatMap_cons, Attribute.text, List.append_assoc, List.append_assoc,
        List.head?_append_of_ne_nil _ a.lead_ne_nil] at hc
      exact a.lead.isSpace_of_mem c (List.mem_of_mem_head? hc)

/-- A tag is read as its name and all that follows it. -/
theorem ofContent_text : Element.ofContent tag.text = tag.element := by
  have hname : ∀ c ∈ tag.name, (!isSpace c) = true := by
    intro c hc
    rw [(isNameChar_iff.mp (tag.name_plain c hc)).1]
    rfl
  have hnone : tag.behind.takeWhile (!isSpace ·) = [] ∧
      tag.behind.dropWhile (!isSpace ·) = tag.behind := by
    cases h : tag.behind with
    | nil => exact ⟨rfl, rfl⟩
    | cons c rest =>
        have hc : isSpace c = true := tag.isSpace_head_behind c (by rw [h]; rfl)
        simp [hc]
  unfold Element.ofContent text
  rw [List.takeWhile_append_of_pos hname, List.dropWhile_append_of_pos hname, hnone.1, hnone.2,
    List.append_nil, element]

/-- The name of an element is found behind its qualifier. -/
theorem localName_element : tag.element.localName = tag.localName := by
  unfold Element.localName element
  cases hq : tag.qualifier with
  | none =>
      have hname : tag.name = tag.localName := by rw [name, hq]
      have hcolon : ∀ c ∈ tag.localName, (c != ':') = true := by
        intro c hc
        have hne : c ≠ ':' := fun heq => (tag.unqualified hq).2 (heq ▸ hc)
        simpa using hne
      rw [hname, List.dropWhile_eq_nil_iff.mpr hcolon]
  | some q =>
      have hname : tag.name = q ++ ':' :: tag.localName := by rw [name, hq]
      -- the qualifier ends at the first colon, so it has none in it
      have hcolon : ∀ c ∈ q, (c != ':') = true := by
        intro c hc
        simpa using (tag.qualifier_plain q hq c hc).2
      rw [hname, List.dropWhile_append_of_pos hcolon, List.dropWhile_cons_of_neg (by decide)]

/-- No tag with attributes ends in a slash, so a slash at its end is that of an empty tag. -/
theorem getLast?_text_ne : tag.text.getLast? ≠ some '/' := by
  -- a tag ends in its name, in a quote or in white space, and none of them ends in a slash
  have hslash : ∀ s t : List Char, s.getLast? ≠ some '/' → t.getLast? ≠ some '/' →
      (s ++ t).getLast? ≠ some '/' := by
    intro s t hs ht
    rw [List.getLast?_append]
    cases h : t.getLast? with
    | none => exact hs
    | some c =>
        rw [h] at ht
        exact ht
  have hname : tag.name.getLast? ≠ some '/' := by
    intro h
    have hplain := tag.name_plain '/' (List.mem_of_getLast? h)
    revert hplain
    decide
  have hattributes : (tag.attributes.flatMap Attribute.text).getLast? ≠ some '/' := by
    induction tag.attributes with
    | nil => exact fun h => by cases h
    | cons a attributes ih =>
        refine hslash _ _ ?_ ih
        have hlast : a.text.getLast? = some a.quote := by
          simp [Attribute.text, List.getLast?_append, List.getLast?_cons]
        rw [hlast]
        rcases a.isQuote with h | h <;> rw [h] <;> decide
  have htail : tag.tail.text.getLast? ≠ some '/' := by
    intro h
    have hspace := tag.tail.isSpace_of_mem '/' (List.mem_of_getLast? h)
    revert hspace
    decide
  exact hslash _ _ hname (hslash _ _ hattributes htail)

/-! ## 4. Reading a tag -/

theorem ofTag_text : Mark.ofTag tag.text = .startTag tag.element := by
  unfold Mark.ofTag
  split
  next front h =>
    have hlast : tag.text.getLast? = some '/' := by rw [← List.head?_reverse, h]; rfl
    exact absurd hlast tag.getLast?_text_ne
  · rw [ofContent_text]

theorem ofTag_text_slash : Mark.ofTag (tag.text ++ ['/']) = .emptyTag tag.element := by
  unfold Mark.ofTag
  rw [List.reverse_append]
  show Mark.emptyTag (Element.ofContent tag.text.reverse.reverse) = _
  rw [List.reverse_reverse, ofContent_text]

/-- A tag is no declaration, no instruction and no end tag. -/
theorem exists_cons_text : ∃ c s, tag.text = c :: s ∧ c ∉ ['!', '?', '/'] := by
  have hmarks : ['!', '?', '/'].all (!isNameChar ·) = true := by decide
  have hplain := tag.name_plain
  cases hname : tag.name with
  | nil => exact absurd hname tag.name_ne_nil
  | cons c s =>
      rw [hname] at hplain
      refine ⟨c, s ++ tag.behind, by rw [text, hname]; rfl, fun hc => ?_⟩
      have hmark := List.all_eq_true.mp hmarks c hc
      rw [hplain c List.mem_cons_self] at hmark
      cases hmark

theorem readMark_of_unbroken {c : Char} {s : List Char} (hc : c ∉ ['!', '?', '/'])
    (hs : Unbroken (c :: s)) (rest : List Char) :
    readMark (c :: s ++ '>' :: rest) = .ok (Mark.ofTag (c :: s), rest) :=
  readMark_of_spanTag? hc (hs.spanTag?_eq rest)

theorem readMark_start (rest : List Char) :
    readMark (tag.text ++ '>' :: rest) = .ok (.startTag tag.element, rest) := by
  obtain ⟨c, s, htext, hc⟩ := tag.exists_cons_text
  have hunbroken := tag.unbroken
  rw [← tag.ofTag_text]
  rw [htext] at hunbroken ⊢
  exact readMark_of_unbroken hc hunbroken rest

theorem readMark_empty (rest : List Char) :
    readMark (tag.text ++ '/' :: '>' :: rest) = .ok (.emptyTag tag.element, rest) := by
  obtain ⟨c, s, htext, hc⟩ := tag.exists_cons_text
  have hunbroken := tag.unbroken.append (Unbroken.cons (c := '/') (by decide) .nil)
  rw [← tag.ofTag_text_slash]
  rw [htext] at hunbroken ⊢
  have hread := readMark_of_unbroken (s := s ++ ['/']) hc hunbroken rest
  rwa [List.cons_append, List.append_assoc, List.singleton_append] at hread

end Tag

/-! ## 5. Reading the attributes -/

theorem Space.dropWhile_append (b : Space) {c : Char} (hc : isSpace c = false) (s : List Char) :
    (b.text ++ c :: s).dropWhile isSpace = c :: s := by
  rw [List.dropWhile_append_of_pos b.isSpace_of_mem, List.dropWhile_cons_of_neg (by simp [hc])]

theorem spanQuoted?_append {quote : Char} {s : List Char} (hs : quote ∉ s) (rest : List Char) :
    spanQuoted? quote (s ++ quote :: rest) = some (s, rest) := by
  induction s with
  | nil => rw [List.nil_append, spanQuoted?, if_pos rfl]
  | cons c s ih =>
      obtain ⟨hc, hs⟩ := not_or.mp (mt List.mem_cons.mpr hs)
      rw [List.cons_append, spanQuoted?, if_neg (Ne.symm hc), ih hs]
      rfl

namespace Attribute

variable (a : Attribute)

theorem readValue_eq (length : Nat) (rest : List Char) :
    readValue length (a.afterEquals.text ++ a.quote :: (a.written ++ a.quote :: rest)) =
      .ok (a.written, rest) := by
  have hspace : isSpace a.quote = false := by
    rcases a.isQuote with h | h <;> rw [h] <;> decide
  unfold readValue
  rw [a.afterEquals.dropWhile_append hspace]
  simp only [if_pos a.isQuote, spanQuoted?_append (quote_notMem_of_spells a.isQuote a.spells)]

/-- The next attribute is read with its name and its value as written. -/
theorem readAttribute_text (length : Nat) (rest : List Char) :
    readAttribute length (a.text ++ rest) = .ok (some (a.name, a.written, rest)) := by
  have hkey : ∀ c ∈ a.name, isKeyChar c = true := by
    intro c hc
    obtain ⟨hspace, hmark⟩ := isNameChar_iff.mp (a.isNameChar_of_mem c hc)
    have hequals : c ≠ '=' := by rintro rfl; exact hmark (by decide)
    simp [isKeyChar, hspace, hequals]
  have hplain := a.isNameChar_of_mem
  unfold text
  cases hname : a.name with
  | nil => exact absurd hname a.name_ne_nil
  | cons c cs =>
      rw [hname] at hkey hplain
      have hc : isSpace c = false := (isNameChar_iff.mp (hplain c List.mem_cons_self)).1
      let value := a.afterEquals.text ++ a.quote :: (a.written ++ a.quote :: rest)
      have htext : a.lead.text ++ (c :: cs ++ (a.beforeEquals.text ++
          '=' :: (a.afterEquals.text ++ a.quote :: (a.written ++ [a.quote])))) ++ rest =
          a.lead.text ++ c :: (cs ++ (a.beforeEquals.text ++ '=' :: value)) := by
        simp [value]
      -- the key ends where white space or the equals sign begins
      have hend : (a.beforeEquals.text ++ '=' :: value).takeWhile isKeyChar = [] ∧
          (a.beforeEquals.text ++ '=' :: value).dropWhile isKeyChar =
            a.beforeEquals.text ++ '=' :: value := by
        have hspaces := a.beforeEquals.isSpace_of_mem
        cases h : a.beforeEquals.text with
        | nil => exact ⟨rfl, rfl⟩
        | cons d b =>
            rw [h] at hspaces
            have hd := hspaces d List.mem_cons_self
            simp [isKeyChar, hd]
      have hcs : ∀ d ∈ cs, isKeyChar d = true := fun d hd => hkey d (List.mem_cons_of_mem _ hd)
      rw [htext]
      unfold readAttribute
      rw [a.lead.dropWhile_append hc]
      simp only []
      rw [List.takeWhile_append_of_pos hcs, List.dropWhile_append_of_pos hcs, hend.1, hend.2,
        a.beforeEquals.dropWhile_append (by decide), List.append_nil]
      simp only [value, a.readValue_eq]

end Attribute

theorem readAttribute_space (b : Space) (length : Nat) : readAttribute length b.text = .ok none := by
  have hdrop : b.text.dropWhile isSpace = [] := List.dropWhile_eq_nil_iff.mpr b.isSpace_of_mem
  unfold readAttribute
  rw [hdrop]

/-- The value of a key is that of the first attribute with that name. -/
theorem findAttribute_eq (length : Nat) (key : List Char) (attributes : List Attribute)
    (tail : Space) :
    findAttribute length key (attributes.flatMap Attribute.text ++ tail.text) =
      .ok ((attributes.find? (·.name = key)).map Attribute.written) := by
  -- the search goes on behind each attribute of another name
  induction attributes with
  | nil =>
      rw [List.flatMap_nil, List.nil_append, findAttribute]
      split
      next h => rw [readAttribute_space] at h; cases h
      next => rfl
      next h => rw [readAttribute_space] at h; cases h
  | cons a attributes ih =>
      have hread := a.readAttribute_text length
        (attributes.flatMap Attribute.text ++ tail.text)
      rw [List.flatMap_cons, List.append_assoc, findAttribute]
      split
      next h => rw [hread] at h; cases h
      next h => rw [hread] at h; cases h
      next h =>
        rw [hread] at h
        cases h
        rw [List.find?_cons]
        by_cases hkey : a.name = key
        · simp [hkey]
        · simp [hkey, ih]

namespace Tag

variable (tag : Tag)

/-- The value of an attribute is found under its name. -/
theorem attribute?_element (key : String) :
    tag.element.attribute? key = .ok ((tag.value? key).map String.ofList) := by
  have hfind : findAttribute tag.element.byteLength key.toList tag.element.attributes = _ :=
    findAttribute_eq _ key.toList tag.attributes tag.tail
  unfold Element.attribute? value?
  rw [hfind]
  cases tag.attributes.find? (·.name = key.toList) with
  | none => rfl
  | some a => simp only [Option.map_some, expand_of_spells a.spells]

end Tag

end ProcessLaunch.Markup
