import ProcessLaunch.Proofs.Markup.Content

/-!
# Cut texts

What is read of a mark does not depend on what follows it.  Hence a mark that is cut off cannot be
read, while a text that is cut off between two marks is read like any other.
-/

namespace ProcessLaunch.Markup

/-! ## 1. Reading on -/

theorem length_of_dropThrough?_some {mark s after : List Char}
    (h : dropThrough? mark s = some after) : mark.length ≤ s.length := by
  induction s with
  | nil => cases h
  | cons c s ih =>
      rw [dropThrough?] at h
      split at h
      next hmark => exact (List.isPrefixOf_iff_prefix.mp hmark).length_le
      next => exact (ih h).trans (Nat.le_succ _)

/-- Where an end mark has been found, more text behind it changes nothing. -/
theorem dropThrough?_of_some {mark s after : List Char} (h : dropThrough? mark s = some after)
    (t : List Char) : dropThrough? mark (s ++ t) = some (after ++ t) := by
  induction s with
  | nil => cases h
  | cons c s ih =>
      rw [dropThrough?] at h
      rw [List.cons_append, dropThrough?]
      split at h
      next hmark =>
        have hmark := List.isPrefixOf_iff_prefix.mp hmark
        cases h
        rw [← List.cons_append, if_pos, List.drop_append_of_le_length hmark.length_le]
        exact List.isPrefixOf_iff_prefix.mpr (hmark.trans (List.prefix_append _ _))
      next hmark =>
        -- the mark is found further on, so it is not longer than the text
        have hlength := length_of_dropThrough?_some h
        rw [if_neg]
        · exact ih h
        · intro hlonger
          apply hmark
          rw [List.isPrefixOf_iff_prefix] at hlonger ⊢
          exact List.prefix_of_prefix_length_le hlonger (List.prefix_append (c :: s) t)
            (hlength.trans (Nat.le_succ _))

/-- Neither does it where a tag has been closed. -/
theorem spanTag?_of_some {quote : Option Char} {s content after : List Char}
    (h : spanTag? quote s = some (content, after)) (t : List Char) :
    spanTag? quote (s ++ t) = some (content, after ++ t) := by
  -- by induction on the text; inside quotes a bracket is a character like any other
  induction s generalizing quote content with
  | nil => cases quote <;> cases h
  | cons c s ih =>
      cases quote with
      | none =>
          rw [spanTag?] at h
          rw [List.cons_append, spanTag?]
          split at h
          next hc =>
            cases h
            rw [if_pos hc]
          next hc =>
            obtain ⟨⟨inner, after'⟩, hspan, heq⟩ := Option.map_eq_some_iff.mp h
            cases heq
            rw [if_neg hc, ih hspan]
            rfl
      | some quote =>
          rw [spanTag?] at h
          rw [List.cons_append, spanTag?]
          obtain ⟨⟨inner, after'⟩, hspan, heq⟩ := Option.map_eq_some_iff.mp h
          cases heq
          rw [ih hspan]
          rfl

theorem spanBalanced?_of_some {depth : Nat} {s content after : List Char}
    (h : spanBalanced? depth s = some (content, after)) (t : List Char) :
    spanBalanced? depth (s ++ t) = some (content, after ++ t) := by
  induction s generalizing depth content with
  | nil => cases h
  | cons c s ih =>
      rw [spanBalanced?] at h
      rw [List.cons_append, spanBalanced?]
      -- another bracket opens, one closes, or the character is no bracket
      split at h
      next hc =>
        cases h
        rw [if_pos hc]
      next hc =>
        obtain ⟨⟨inner, after'⟩, hspan, heq⟩ := Option.map_eq_some_iff.mp h
        cases heq
        rw [if_neg hc]
        show (spanBalanced? _ (s ++ t)).map _ = _
        rw [ih hspan]
        rfl

theorem dropWord?_of_some {word s after : List Char} (h : dropWord? word s = some after)
    (t : List Char) : dropWord? word (s ++ t) = some (after ++ t) := by
  unfold dropWord? at h ⊢
  split at h
  next hword =>
    cases h
    have hlength : word.length ≤ s.length := by
      have := congrArg List.length hword
      rw [List.length_map, List.length_take] at this
      omega
    rw [List.take_append_of_le_length hlength, if_pos hword,
      List.drop_append_of_le_length hlength]
  next => cases h

theorem dropExactWord?_of_some {word s after : List Char} (h : dropExactWord? word s = some after)
    (t : List Char) : dropExactWord? word (s ++ t) = some (after ++ t) := by
  unfold dropExactWord? at h ⊢
  split at h
  next hword =>
    cases h
    have hword := List.isPrefixOf_iff_prefix.mp hword
    rw [if_pos, List.drop_append_of_le_length hword.length_le]
    exact List.isPrefixOf_iff_prefix.mpr (hword.trans (List.prefix_append _ _))
  next => cases h

/-- A declaration that has been read ends where it did, whatever follows. -/
theorem readDeclaration_of_ok {s after : List Char} (h : readDeclaration s = .ok after)
    (t : List Char) : readDeclaration (s ++ t) = .ok (after ++ t) := by
  unfold readDeclaration at h
  -- a comment, character data and a document type, each with an end of its own
  split at h
  · split at h
    · split at h
      next hdrop =>
        cases h
        simp only [List.cons_append, readDeclaration, dropThrough?_of_some hdrop t]
      · cases h
    · cases h
  · split at h
    next hdrop =>
      cases h
      obtain ⟨body, hword, hdrop⟩ := Option.bind_eq_some_iff.mp hdrop
      simp only [List.cons_append, readDeclaration, dropExactWord?_of_some hword t,
        Option.bind_some, dropThrough?_of_some hdrop t]
    · cases h
  next c rest hdash hbracket =>
    split at h
    next hc =>
      split at h
      next hspan =>
        split at h
        · cases h
        next hnamed =>
          cases h
          obtain ⟨body, hword, hspan⟩ := Option.bind_eq_some_iff.mp hspan
          simp only [List.cons_append, readDeclaration, if_pos hc, dropWord?_of_some hword t,
            Option.bind_some, spanBalanced?_of_some hspan t, if_neg hnamed]
      · cases h
    · cases h
  · cases h

theorem readInstruction_of_ok {s after : List Char} (h : readInstruction s = .ok after)
    (t : List Char) : readInstruction (s ++ t) = .ok (after ++ t) := by
  unfold readInstruction at h ⊢
  split at h
  · cases h
  next hfirst =>
    split at h
    next hdrop =>
      cases h
      have hhead : (s ++ t).head? ≠ some '>' := by
        cases s with
        | nil => cases hdrop
        | cons c s => exact hfirst
      rw [if_neg hhead, dropThrough?_of_some hdrop t]
    · cases h

/-- A mark that can be read is read in the same way whatever follows. -/
theorem readMark_of_ok {s after : List Char} {mark : Mark} (h : readMark s = .ok (mark, after))
    (t : List Char) : readMark (s ++ t) = .ok (mark, after ++ t) := by
  -- the first character says of what kind a mark is, and it is the same with more behind it
  unfold readMark at h
  split at h
  · split at h
    · cases h
    next hread =>
      cases h
      exact readMark_declaration (readDeclaration_of_ok hread t)
  · split at h
    · cases h
    next hread =>
      cases h
      exact readMark_instruction (readInstruction_of_ok hread t)
  · split at h
    next hspan =>
      cases h
      simp only [List.cons_append, readMark, spanTag?_of_some hspan t]
    · cases h
  next hdeclaration hinstruction hend =>
    split at h
    next hspan =>
      cases h
      cases s with
      | nil => cases hspan
      | cons c s =>
          have hc : c ∉ ['!', '?', '/'] := by
            simp only [List.mem_cons, List.not_mem_nil, or_false, not_or]
            exact ⟨fun h => hdeclaration s (h ▸ rfl), fun h => hinstruction s (h ▸ rfl),
              fun h => hend s (h ▸ rfl)⟩
          exact readMark_of_spanTag? hc (spanTag?_of_some hspan t)
    · cases h

/-- A mark that is cut off cannot be read. -/
theorem exists_error_of_cut {s t : List Char} {mark : Mark}
    (h : readMark (s ++ t) = .ok (mark, [])) (ht : t ≠ []) : ∃ e, readMark s = .error e := by
  cases hread : readMark s with
  | error e => exact ⟨e, rfl⟩
  | ok found =>
      obtain ⟨found, after⟩ := found
      rw [readMark_of_ok hread t] at h
      have hnil : after ++ t = [] := (Prod.mk.inj (Except.ok.inj h)).2
      exact absurd (List.append_eq_nil_iff.mp hnil).2 ht

/-! ## 2. Cuts -/

def Token.tag? : Token → Option Tag
  | .startTag tag => some tag
  | .emptyTag tag => some tag
  | _ => none

theorem Token.element?_mark? (t : Token) :
    t.mark?.bind Mark.element? = t.tag?.map Tag.element := by
  cases t with
  | piece p => cases p <;> rfl
  | _ => rfl

/-- A place inside a content where its text is cut off: the parts before it, and the front of the
part that it falls in. -/
structure Cut (content : Content) where
  read : List Token
  token : Token
  unread : List Token
  front : List Char
  tokens_eq : content.tokens = read ++ token :: unread
  front_prefix : front <+: token.text
  front_ne : front ≠ token.text

namespace Cut

variable {content : Content} (cut : Cut content)

def text : List Char := cut.read.flatMap Token.text ++ cut.front

/-- Whether the cut falls in a tag, a comment, character data or an instruction, and not between
two of them. -/
def InMark : Prop := cut.front ≠ [] ∧ cut.token.mark?.isSome = true

instance : Decidable cut.InMark := inferInstanceAs (Decidable (_ ∧ _))

/-- The elements that begin before the cut. -/
def begun : List Tag := cut.read.filterMap Token.tag?

end Cut

/-- A front of a row of parts falls into one of them. -/
theorem exists_split_of_prefix {tokens : List Token} {front : List Char}
    (h : front <+: tokens.flatMap Token.text) (hne : front ≠ tokens.flatMap Token.text) :
    ∃ read token unread part, tokens = read ++ token :: unread ∧
      front = read.flatMap Token.text ++ part ∧ part <+: token.text ∧ part ≠ token.text := by
  -- the first part is either whole in the front, or the one that is cut
  induction tokens generalizing front with
  | nil => exact absurd (List.prefix_nil.mp h) hne
  | cons t tokens ih =>
      rw [List.flatMap_cons] at h hne
      by_cases hwhole : t.text <+: front
      · obtain ⟨more, rfl⟩ := hwhole
        have hmore : more <+: tokens.flatMap Token.text := (List.prefix_append_right_inj _).mp h
        obtain ⟨read, token, unread, part, rfl, rfl, hpart⟩ :=
          ih hmore fun heq => hne (heq ▸ rfl)
        refine ⟨t :: read, token, unread, part, rfl, ?_, hpart⟩
        rw [List.flatMap_cons, List.append_assoc]
      · refine ⟨[], t, tokens, front, rfl, rfl, ?_, fun heq => hwhole (heq ▸ List.prefix_rfl)⟩
        exact (List.prefix_or_prefix_of_prefix h (List.prefix_append _ _)).resolve_right hwhole

/-- A text that is shorter than the one it is the front of ends at a cut. -/
theorem exists_cut {content : Content} {front : List Char} (h : front <+: content.text)
    (hne : front ≠ content.text) : ∃ cut : Cut content, cut.text = front := by
  obtain ⟨read, token, unread, part, htokens, hfront, hpart, hpartne⟩ :=
    exists_split_of_prefix h hne
  exact ⟨⟨read, token, unread, part, htokens, hpart, hpartne⟩, hfront.symm⟩

namespace Cut

variable {content : Content} (cut : Cut content)

theorem filterMap_read :
    (cut.read.filterMap Token.mark?).filterMap Mark.element? = cut.begun.map Tag.element := by
  unfold begun
  rw [List.filterMap_filterMap, List.map_filterMap]
  exact List.filterMap_congr fun t _ => t.element?_mark?

/-- The parts before a cut close no element that they did not open. -/
theorem exists_openAfter : ∃ names, openAfter (cut.read.filterMap Token.mark?) [] = some names := by
  have hall : openAfter (content.tokens.filterMap Token.mark?) [] = some [] :=
    content.openAfter_marks []
  rw [cut.tokens_eq, List.filterMap_append, openAfter_append] at hall
  obtain ⟨names, hnames, -⟩ := Option.bind_eq_some_iff.mp hall
  exact ⟨names, hnames⟩

/-- Between marks only text is cut, and nothing is read of it. -/
theorem readFrom_front_of_not_inMark (h : ¬cut.InMark) (openNames : List (List Char)) :
    Document.readFrom openNames cut.front = ⟨[], none⟩ := by
  have hplain : '<' ∉ cut.front := by
    by_cases hfront : cut.front = []
    · rw [hfront]
      exact List.not_mem_nil
    · have hmark : cut.token.mark? = none :=
        Option.not_isSome_iff_eq_none.mp fun hsome => h ⟨hfront, hsome⟩
      exact fun hmem => Token.notMem_text hmark (cut.front_prefix.subset hmem)
  exact Document.readFrom_of_marks (.none hplain) rfl

/-- A mark that is cut off cannot be read, since more text would have to change what was read. -/
theorem readFrom_front_of_inMark (h : cut.InMark) (openNames : List (List Char)) :
    ∃ e, Document.readFrom openNames cut.front = ⟨[], some e⟩ := by
  -- the whole part is read to its end, so its front would have to be read to that end as well
  obtain ⟨mark, hmark⟩ := Option.isSome_iff_exists.mp h.2
  obtain ⟨s, htext, hread⟩ := Token.readMark_eq hmark
  obtain ⟨t, ht⟩ := cut.front_prefix
  rw [htext] at ht
  cases hfront : cut.front with
  | nil => exact absurd hfront h.1
  | cons c front =>
      rw [hfront, List.cons_append] at ht
      obtain ⟨rfl, hs⟩ := List.cons.inj ht
      have htne : t ≠ [] := by
        rintro rfl
        apply cut.front_ne
        rw [hfront, htext, ← hs, List.append_nil]
      have hwhole := hread []
      rw [List.append_nil, ← hs] at hwhole
      obtain ⟨e, he⟩ := exists_error_of_cut hwhole htne
      exact ⟨e, Document.readFrom_of_error (List.dropWhile_cons_of_neg (by decide)) he⟩

/-- A text that is cut off is read as far as the cut. -/
theorem read_text_eq : ∃ names, Document.read cut.text =
    (Document.readFrom names cut.front).behind (cut.begun.map Tag.element) := by
  obtain ⟨names, hnames⟩ := cut.exists_openAfter
  refine ⟨names, ?_⟩
  rw [Document.read_eq, text, Document.readFrom_tokens hnames, filterMap_read]

/-- Behind a cut between two marks nothing is missed: the elements begun before it are read, though
some of them are open. -/
theorem read_of_not_inMark (h : ¬cut.InMark) :
    Document.read cut.text = ⟨cut.begun.map Tag.element, none⟩ := by
  obtain ⟨names, hread⟩ := cut.read_text_eq
  rw [hread, cut.readFrom_front_of_not_inMark h]
  show Document.mk (_ ++ []) none = _
  rw [List.append_nil]

/-- A cut in a mark is a fault. -/
theorem read_of_inMark (h : cut.InMark) :
    ∃ e, Document.read cut.text = ⟨cut.begun.map Tag.element, some e⟩ := by
  obtain ⟨names, hread⟩ := cut.read_text_eq
  obtain ⟨e, he⟩ := cut.readFrom_front_of_inMark h names
  refine ⟨e, ?_⟩
  rw [hread, he]
  show Document.mk (_ ++ []) (some e) = _
  rw [List.append_nil]

end Cut

end ProcessLaunch.Markup
