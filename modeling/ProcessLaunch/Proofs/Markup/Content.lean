import ProcessLaunch.Proofs.Markup.Nesting
import ProcessLaunch.Proofs.Markup.Tag

/-!
# Written content

What a document may hold, as it is written: elements in one another and one behind the other, and
between them text, comments, character data and instructions.  A document is a content with one
element, and nothing but comments, instructions and white space beside it.
-/

namespace ProcessLaunch.Markup

/-! ## 1. Ways of writing -/

/-- What stands between tags.  Text has no opening bracket, and the others hold anything but their
own end. -/
inductive Piece where
  | text (s : List Char) (h : '<' ∉ s)
  | comment (body : List Char) (h : ¬"-->".toList <:+: body)
  | characterData (body : List Char) (h : ¬"]]>".toList <:+: body)
  | instruction (body : List Char) (hhead : body.head? ≠ some '>') (h : ¬"?>".toList <:+: body)

def Piece.written : Piece → List Char
  | text s _ => s
  | comment body _ => "<!--".toList ++ (body ++ "-->".toList)
  | characterData body _ => "<![CDATA[".toList ++ (body ++ "]]>".toList)
  | instruction body _ _ => "<?".toList ++ (body ++ "?>".toList)

/-- The parts that a document is written in. -/
inductive Token where
  | piece (piece : Piece)
  | startTag (tag : Tag)
  | emptyTag (tag : Tag)
  | endTag (tag : Tag) (tail : Space)

namespace Token

def text : Token → List Char
  | piece p => p.written
  | startTag tag => '<' :: (tag.text ++ ['>'])
  | emptyTag tag => '<' :: (tag.text ++ ['/', '>'])
  | endTag tag tail => '<' :: '/' :: (tag.name ++ (tail.text ++ ['>']))

def mark? : Token → Option Mark
  | piece (.text _ _) => none
  | piece _ => some .other
  | startTag tag => some (.startTag tag.element)
  | emptyTag tag => some (.emptyTag tag.element)
  | endTag tag _ => some (.endTag tag.name)

end Token

/-- Elements, and what stands between them.  An element without content may be written in two ways:
`empty` is the one with a single tag. -/
inductive Content where
  | nil
  | piece (piece : Piece) (rest : Content)
  | empty (tag : Tag) (rest : Content)
  | element (tag : Tag) (inner : Content) (tail : Space) (rest : Content)

namespace Content

def tokens : Content → List Token
  | nil => []
  | piece p rest => .piece p :: rest.tokens
  | empty tag rest => .emptyTag tag :: rest.tokens
  | element tag inner tail rest => .startTag tag :: (inner.tokens ++ .endTag tag tail :: rest.tokens)

def text (content : Content) : List Char := content.tokens.flatMap Token.text

end Content

/-! ## 2. The ends of pieces -/

theorem takeWhile_append_of_notMem {last : Char} {s : List Char} (h : last ∉ s) (t : List Char) :
    (s ++ last :: t).takeWhile (· != last) = s := by
  have hne : ∀ c ∈ s, (c != last) = true := by
    intro c hc
    have hne : c ≠ last := fun heq => h (heq ▸ hc)
    simpa using hne
  rw [List.takeWhile_append_of_pos hne, List.takeWhile_cons_of_neg (by simp), List.append_nil]

/-- A mark whose last character occurs in it only once does not begin inside a text that does not
hold it, not even at the end of that text. -/
theorem not_prefix_of_not_infix {front body : List Char} {last : Char} (hlast : last ∉ front)
    (hne : body ≠ []) (hbody : ¬(front ++ [last]) <:+: body) (rest : List Char) :
    ¬(front ++ [last]) <+: body ++ (front ++ [last] ++ rest) := by
  rintro ⟨t, ht⟩
  rcases List.append_eq_append_iff.mp ht with ⟨more, hmore, -⟩ | ⟨more, hmore, hrest⟩
  · exact hbody ⟨[], more, by rw [hmore, List.nil_append]⟩
  · rcases List.eq_nil_or_concat more with rfl | ⟨more, c, rfl⟩
    · exact hbody ⟨[], [], by rw [hmore]; simp⟩
    -- the mark would begin in the text and go on with itself, so its last character comes too early
    · rw [List.concat_eq_append, ← List.append_assoc] at hmore
      obtain ⟨hfront, hc⟩ := List.append_inj' hmore rfl
      obtain rfl : last = c := (List.cons.inj hc).1
      have hmore : last ∉ more := fun h => hlast (hfront ▸ List.mem_append_right body h)
      simp only [List.concat_eq_append, List.append_assoc, List.singleton_append] at hrest
      have heq : front = more := by
        have htake := congrArg (List.takeWhile (· != last)) hrest
        rwa [takeWhile_append_of_notMem hlast, takeWhile_append_of_notMem hmore] at htake
      have hlength := congrArg List.length hfront
      rw [heq, List.length_append] at hlength
      exact hne (List.length_eq_zero_iff.mp (by omega))

/-- A mark whose last character occurs in it only once is found where it first stands. -/
theorem dropThrough?_append (front : List Char) {body : List Char} {last : Char}
    (hlast : last ∉ front) (hbody : ¬(front ++ [last]) <:+: body) (rest : List Char) :
    dropThrough? (front ++ [last]) (body ++ (front ++ [last] ++ rest)) = some rest := by
  induction body with
  | nil =>
      have hself : (front ++ [last]).isPrefixOf (front ++ [last] ++ rest) = true := by
        rw [List.isPrefixOf_iff_prefix]
        exact List.prefix_append _ _
      rw [List.nil_append]
      -- by cases on the text itself, since the mark may have no front
      cases h : front ++ [last] ++ rest with
      | nil => simp at h
      | cons c t =>
          rw [dropThrough?, ← h, if_pos hself, List.drop_left]
  | cons c body ih =>
      have hnot : ¬(front ++ [last]).isPrefixOf (c :: (body ++ (front ++ [last] ++ rest))) = true := by
        rw [List.isPrefixOf_iff_prefix]
        exact not_prefix_of_not_infix hlast (List.cons_ne_nil c body) hbody rest
      rw [List.cons_append, dropThrough?, if_neg hnot]
      exact ih fun h => hbody (h.trans (List.suffix_cons c body).isInfix)

/-! ## 3. Reading a part -/

theorem readMark_declaration {s after : List Char} (h : readDeclaration s = .ok after) :
    readMark ('!' :: s) = .ok (.other, after) := by
  simp only [readMark, h]

theorem readMark_instruction {s after : List Char} (h : readInstruction s = .ok after) :
    readMark ('?' :: s) = .ok (.other, after) := by
  simp only [readMark, h]

/-- What stands between tags is read to its end, and is no tag. -/
theorem readMark_piece (p : Piece) (h : (Token.piece p).mark? = some .other) :
    ∃ s, p.written = '<' :: s ∧ ∀ rest, readMark (s ++ rest) = .ok (.other, rest) := by
  -- a comment, character data and an instruction each go through to a mark of their own
  cases p with
  | text => cases h
  | comment body hbody =>
      refine ⟨"!--".toList ++ (body ++ "-->".toList), rfl, fun rest => ?_⟩
      have hdrop : dropThrough? ['-', '-', '>'] (body ++ (['-', '-', '>'] ++ rest)) = some rest :=
        dropThrough?_append ['-', '-'] (by decide) hbody rest
      rw [List.append_assoc, List.append_assoc]
      apply readMark_declaration
      show readDeclaration ('-' :: '-' :: (body ++ (['-', '-', '>'] ++ rest))) = _
      simp only [readDeclaration, hdrop]
  | characterData body hbody =>
      refine ⟨"![CDATA[".toList ++ (body ++ "]]>".toList), rfl, fun rest => ?_⟩
      have hdrop : dropThrough? [']', ']', '>'] (body ++ ([']', ']', '>'] ++ rest)) = some rest :=
        dropThrough?_append [']', ']'] (by decide) hbody rest
      rw [List.append_assoc, List.append_assoc]
      apply readMark_declaration
      have hword (t : List Char) : dropExactWord? "CDATA[".toList ("CDATA[".toList ++ t) = some t := by
        rw [dropExactWord?, if_pos (List.isPrefixOf_iff_prefix.mpr (List.prefix_append _ _)),
          List.drop_left]
      show readDeclaration ('[' :: ("CDATA[".toList ++ (body ++ ([']', ']', '>'] ++ rest)))) = _
      simp only [readDeclaration, hword, Option.bind_some, hdrop]
  | instruction body hhead hbody =>
      refine ⟨"?".toList ++ (body ++ "?>".toList), rfl, fun rest => ?_⟩
      have hdrop : dropThrough? ['?', '>'] (body ++ (['?', '>'] ++ rest)) = some rest :=
        dropThrough?_append ['?'] (by decide) hbody rest
      have hfirst : (body ++ (['?', '>'] ++ rest)).head? ≠ some '>' := by
        cases body with
        | nil => simp
        | cons c body => exact hhead
      rw [List.append_assoc, List.append_assoc]
      apply readMark_instruction
      show readInstruction (body ++ (['?', '>'] ++ rest)) = _
      rw [readInstruction, if_neg hfirst, hdrop]

theorem endTagName_append (tag : Tag) (tail : Space) :
    endTagName (tag.name ++ tail.text) = tag.name := by
  -- white space behind the name is taken off from the end, and the name ends without any
  have hspace : ∀ c ∈ tail.text.reverse, isSpace c = true := by
    intro c hc
    exact tail.isSpace_of_mem c (List.mem_reverse.mp hc)
  have hname : tag.name.reverse.dropWhile isSpace = tag.name.reverse := by
    cases h : tag.name.reverse with
    | nil => rfl
    | cons c s =>
        have hc : c ∈ tag.name := List.mem_reverse.mp (h ▸ List.mem_cons_self)
        rw [List.dropWhile_cons_of_neg (by simp [(isNameChar_iff.mp (tag.name_plain c hc)).1])]
  unfold endTagName
  rw [List.reverse_append, List.dropWhile_append_of_pos hspace, hname, List.reverse_reverse]
  cases h : tag.name with
  | nil => exact absurd h tag.name_ne_nil
  | cons c s => rfl

theorem readMark_end (tag : Tag) (tail : Space) (rest : List Char) :
    readMark ('/' :: (tag.name ++ (tail.text ++ '>' :: rest))) = .ok (.endTag tag.name, rest) := by
  have hspan := ((unbroken_of_isNameChar tag.name_plain).append tail.unbroken).spanTag?_eq rest
  rw [List.append_assoc] at hspan
  simp only [readMark, hspan, endTagName_append]

/-- A part that has a mark is read as that mark, whatever follows it. -/
theorem Token.readMark_eq {t : Token} {mark : Mark} (h : t.mark? = some mark) :
    ∃ s, t.text = '<' :: s ∧ ∀ rest, readMark (s ++ rest) = .ok (mark, rest) := by
  -- the first character behind the bracket tells the parts from each other
  cases t with
  | piece p =>
      have hother : mark = .other := by cases p <;> cases h <;> rfl
      subst hother
      exact readMark_piece p h
  | startTag tag =>
      cases h
      refine ⟨_, rfl, fun rest => ?_⟩
      rw [List.append_assoc]
      exact tag.readMark_start rest
  | emptyTag tag =>
      cases h
      refine ⟨_, rfl, fun rest => ?_⟩
      rw [List.append_assoc]
      exact tag.readMark_empty rest
  | endTag tag tail =>
      cases h
      refine ⟨_, rfl, fun rest => ?_⟩
      have hread := readMark_end tag tail rest
      simpa using hread

/-- A part of which nothing is read has no bracket in it. -/
theorem Token.notMem_text {t : Token} (h : t.mark? = none) : '<' ∉ t.text := by
  cases t with
  | piece p =>
      cases p with
      | text s hs => exact hs
      | _ => cases h
  | _ => cases h

/-! ## 4. Reading a row of parts -/

namespace Document

/-- A reading goes through parts that may follow each other, and gives their elements. -/
theorem readFrom_tokens {tokens : List Token} {openNames names : List (List Char)}
    (h : openAfter (tokens.filterMap Token.mark?) openNames = some names) (rest : List Char) :
    readFrom openNames (tokens.flatMap Token.text ++ rest) =
      (readFrom names rest).behind ((tokens.filterMap Token.mark?).filterMap Mark.element?) := by
  -- by induction on the parts; text between marks has no mark, and is passed over
  induction tokens generalizing openNames with
  | nil =>
      cases h
      rfl
  | cons t tokens ih =>
      rw [List.flatMap_cons, List.append_assoc]
      cases hmark : t.mark? with
      | none =>
          rw [List.filterMap_cons_none hmark] at h ⊢
          rw [readFrom_text (Token.notMem_text hmark)]
          exact ih h
      | some mark =>
          rw [List.filterMap_cons_some hmark] at h ⊢
          obtain ⟨next, hstep, hnext⟩ := Option.bind_eq_some_iff.mp h
          obtain ⟨s, htext, hread⟩ := Token.readMark_eq hmark
          have hdrop (u : List Char) : ('<' :: u).dropWhile (· != '<') = '<' :: u :=
            List.dropWhile_cons_of_neg (by decide)
          rw [htext, List.cons_append, readFrom_of_step (hdrop _) (hread _) hstep, ih hnext,
            behind_behind]
          cases mark <;> rfl

end Document

namespace Content

def marks (content : Content) : List Mark := content.tokens.filterMap Token.mark?

/-- All elements of a content, each before those inside it. -/
def elements : Content → List Tag
  | nil => []
  | piece _ rest => rest.elements
  | empty tag rest => tag :: rest.elements
  | element tag inner _ rest => tag :: (inner.elements ++ rest.elements)

/-- The marks of an element are those of its tags with the marks of its content between them. -/
theorem marks_element (tag : Tag) (inner : Content) (tail : Space) (rest : Content) :
    (element tag inner tail rest).marks =
      .startTag tag.element :: (inner.marks ++ .endTag tag.name :: rest.marks) := by
  show Mark.startTag tag.element ::
    (inner.tokens ++ .endTag tag tail :: rest.tokens).filterMap Token.mark? = _
  rw [List.filterMap_append]
  rfl

/-- A content closes what it opens, and nothing else. -/
theorem openAfter_marks (content : Content) (openNames : List (List Char)) :
    openAfter content.marks openNames = some openNames := by
  induction content generalizing openNames with
  | nil => rfl
  | piece p rest ih => cases p <;> exact ih openNames
  | empty tag rest ih => exact ih openNames
  | element tag inner tail rest ihInner ih =>
      -- what is inside closes what it opens, so the end tag finds the name of its own element
      rw [marks_element, openAfter]
      show openAfter (inner.marks ++ _) (tag.name :: openNames) = _
      rw [openAfter_append, ihInner]
      show (if tag.name = tag.name then some openNames else none).bind (openAfter rest.marks) = _
      rw [if_pos rfl]
      exact ih openNames

/-- The marks of a content begin all its elements, in order. -/
theorem filterMap_marks (content : Content) :
    content.marks.filterMap Mark.element? = content.elements.map Tag.element := by
  induction content with
  | nil => rfl
  | piece p rest ih => cases p <;> exact ih
  | empty tag rest ih => exact congrArg (tag.element :: ·) ih
  | element tag inner tail rest ihInner ih =>
      rw [marks_element, elements, List.map_cons, List.map_append, ← ihInner, ← ih,
        ← List.filterMap_append]
      show tag.element :: (inner.marks ++ .endTag tag.name :: rest.marks).filterMap _ = _
      rw [List.filterMap_append, List.filterMap_append]
      rfl

/-- All elements of a content are read, and no fault is found. -/
theorem read_text (content : Content) :
    Document.read content.text = ⟨content.elements.map Tag.element, none⟩ := by
  have hend : Document.readFrom [] [] = ⟨[], none⟩ := Document.readFrom_of_nil rfl
  have hread := Document.readFrom_tokens (content.openAfter_marks []) []
  rw [List.append_nil, hend] at hread
  rw [Document.read_eq]
  refine hread.trans ?_
  show Document.mk (content.marks.filterMap Mark.element? ++ []) none = _
  rw [List.append_nil, filterMap_marks]

end Content

end ProcessLaunch.Markup
