import ProcessLaunch.Markup.Element

/-!
# Documents

A document is read from tag to tag.  Each end tag has to close the innermost open element; elements
that are still open where the text ends are no fault.  Comments, character data, declarations and
processing instructions are stepped over, and text between tags is ignored.
-/

namespace ProcessLaunch.Markup

/-! ## Spans -/

def dropThrough? (mark : List Char) : List Char → Option (List Char)
  | [] => none
  | c :: rest =>
      if mark.isPrefixOf (c :: rest) then some ((c :: rest).drop mark.length)
      else dropThrough? mark rest

theorem length_of_dropThrough? {mark s after : List Char}
    (h : dropThrough? mark s = some after) : after.length ≤ s.length := by
  induction s with
  | nil => simp [dropThrough?] at h
  | cons c rest ih =>
      rw [dropThrough?] at h
      split at h
      · obtain rfl := Option.some.inj h
        simp
      · have := ih h
        simp only [List.length_cons]
        omega

/-- The content of a tag up to its closing bracket, and what follows.  A bracket in a quoted piece
does not close the tag; the first argument is the quote that is open. -/
def spanTag? : Option Char → List Char → Option (List Char × List Char)
  | _, [] => none
  | none, c :: rest =>
      if c = '>' then some ([], rest)
      else
        (spanTag? (if c = '"' ∨ c = '\'' then some c else none) rest).map
          fun (content, after) => (c :: content, after)
  | some quote, c :: rest =>
      (spanTag? (if c = quote then none else some quote) rest).map
        fun (content, after) => (c :: content, after)

theorem length_of_spanTag? {quote : Option Char} {s content after : List Char}
    (h : spanTag? quote s = some (content, after)) : after.length < s.length := by
  induction s generalizing quote content with
  | nil => simp [spanTag?] at h
  | cons c rest ih =>
      cases quote with
      | none =>
          rw [spanTag?] at h
          split at h
          · obtain ⟨-, rfl⟩ := Prod.mk.inj (Option.some.inj h)
            simp
          · obtain ⟨⟨content', after'⟩, hspan, heq⟩ := Option.map_eq_some_iff.mp h
            obtain ⟨-, rfl⟩ := Prod.mk.inj heq
            have := ih hspan
            simp only [List.length_cons]
            omega
      | some quote =>
          rw [spanTag?] at h
          obtain ⟨⟨content', after'⟩, hspan, heq⟩ := Option.map_eq_some_iff.mp h
          obtain ⟨-, rfl⟩ := Prod.mk.inj heq
          have := ih hspan
          simp only [List.length_cons]
          omega

/-- The content of a declaration up to the bracket that balances the one before it, and what
follows.  The first argument counts the brackets that were opened inside. -/
def spanBalanced? : Nat → List Char → Option (List Char × List Char)
  | _, [] => none
  | depth, c :: rest =>
      if c = '>' ∧ depth = 0 then some ([], rest)
      else
        let inner := if c = '<' then depth + 1 else if c = '>' then depth - 1 else depth
        (spanBalanced? inner rest).map fun (content, after) => (c :: content, after)

theorem length_of_spanBalanced? {depth : Nat} {s content after : List Char}
    (h : spanBalanced? depth s = some (content, after)) : after.length < s.length := by
  induction s generalizing depth content with
  | nil => simp [spanBalanced?] at h
  | cons c rest ih =>
      rw [spanBalanced?] at h
      split at h
      · obtain ⟨-, rfl⟩ := Prod.mk.inj (Option.some.inj h)
        simp
      · obtain ⟨⟨content', after'⟩, hspan, heq⟩ := Option.map_eq_some_iff.mp h
        obtain ⟨-, rfl⟩ := Prod.mk.inj heq
        have := ih hspan
        simp only [List.length_cons]
        omega

def dropWord? (word s : List Char) : Option (List Char) :=
  if (s.take word.length).map Char.toUpper = word then some (s.drop word.length) else none

theorem length_of_dropWord? {word s after : List Char} (h : dropWord? word s = some after) :
    after.length ≤ s.length := by
  unfold dropWord? at h
  split at h
  · obtain rfl := Option.some.inj h
    simp
  · simp at h

def dropExactWord? (word s : List Char) : Option (List Char) :=
  if word.isPrefixOf s then some (s.drop word.length) else none

theorem length_of_dropExactWord? {word s after : List Char}
    (h : dropExactWord? word s = some after) : after.length ≤ s.length := by
  unfold dropExactWord? at h
  split at h
  · obtain rfl := Option.some.inj h
    simp
  · simp at h

/-! ## Marks -/

inductive Mark where
  | startTag (element : Element)
  | emptyTag (element : Element)
  | endTag (name : List Char)
  | other
deriving DecidableEq, Repr

/-- The name in an end tag: its content without trailing white space, unless it has nothing else. -/
def endTagName (content : List Char) : List Char :=
  match (content.reverse.dropWhile isSpace).reverse with
  | [] => content
  | name => name

def Mark.ofTag (content : List Char) : Mark :=
  match content.reverse with
  | '/' :: front => .emptyTag (Element.ofContent front.reverse)
  | _ => .startTag (Element.ofContent content)

def readDeclaration : List Char → Except Error (List Char)
  | '-' :: rest =>
      match rest with
      | '-' :: body =>
          match dropThrough? ['-', '-', '>'] body with
          | some after => .ok after
          | none => .error .unclosedComment
      | _ => .error .unclosedComment
  | '[' :: rest =>
      match (dropExactWord? "CDATA[".toList rest).bind (dropThrough? [']', ']', '>']) with
      | some after => .ok after
      | none => .error .unclosedCharacterData
  | c :: rest =>
      if c = 'D' ∨ c = 'd' then
        match (dropWord? "OCTYPE".toList rest).bind (spanBalanced? 0) with
        | some (content, after) => if content.all isSpace then .error .unnamedDoctype else .ok after
        | none => .error .unclosedDoctype
      else .error .unknownDeclaration
  | [] => .error .unknownDeclaration

theorem length_of_readDeclaration {s after : List Char} (h : readDeclaration s = .ok after) :
    after.length < s.length := by
  unfold readDeclaration at h
  split at h
  · split at h
    · split at h
      next hdrop =>
        obtain rfl := Except.ok.inj h
        have := length_of_dropThrough? hdrop
        simp only [List.length_cons]
        omega
      · simp at h
    · simp at h
  next rest =>
    split at h
    next hdrop =>
      obtain rfl := Except.ok.inj h
      obtain ⟨body, hword, hdrop⟩ := Option.bind_eq_some_iff.mp hdrop
      have := length_of_dropExactWord? hword
      have := length_of_dropThrough? hdrop
      simp only [List.length_cons]
      omega
    · simp at h
  next c rest _ _ =>
    split at h
    · split at h
      next hspan =>
        split at h
        · simp at h
        · obtain rfl := Except.ok.inj h
          obtain ⟨body, hword, hspan⟩ := Option.bind_eq_some_iff.mp hspan
          have := length_of_dropWord? hword
          have := length_of_spanBalanced? hspan
          simp only [List.length_cons]
          omega
      · simp at h
    · simp at h
  · simp at h

def readInstruction (s : List Char) : Except Error (List Char) :=
  if s.head? = some '>' then .error .unclosedInstruction
  else
    match dropThrough? ['?', '>'] s with
    | some after => .ok after
    | none => .error .unclosedInstruction

theorem length_of_readInstruction {s after : List Char} (h : readInstruction s = .ok after) :
    after.length ≤ s.length := by
  unfold readInstruction at h
  split at h
  · simp at h
  · split at h
    next hdrop =>
      obtain rfl := Except.ok.inj h
      exact length_of_dropThrough? hdrop
    · simp at h

def readMark : List Char → Except Error (Mark × List Char)
  | '!' :: rest =>
      match readDeclaration rest with
      | .error e => .error e
      | .ok after => .ok (.other, after)
  | '?' :: rest =>
      match readInstruction rest with
      | .error e => .error e
      | .ok after => .ok (.other, after)
  | '/' :: rest =>
      match spanTag? none rest with
      | some (content, after) => .ok (.endTag (endTagName content), after)
      | none => .error .unclosedTag
  | s =>
      match spanTag? none s with
      | some (content, after) => .ok (Mark.ofTag content, after)
      | none => .error .unclosedTag

theorem length_of_readMark {s after : List Char} {mark : Mark}
    (h : readMark s = .ok (mark, after)) : after.length < s.length := by
  unfold readMark at h
  split at h
  · split at h
    · simp at h
    next hread =>
      obtain ⟨-, rfl⟩ := Prod.mk.inj (Except.ok.inj h)
      have := length_of_readDeclaration hread
      simp only [List.length_cons]
      omega
  · split at h
    · simp at h
    next hread =>
      obtain ⟨-, rfl⟩ := Prod.mk.inj (Except.ok.inj h)
      have := length_of_readInstruction hread
      simp only [List.length_cons]
      omega
  · split at h
    next hspan =>
      obtain ⟨-, rfl⟩ := Prod.mk.inj (Except.ok.inj h)
      have := length_of_spanTag? hspan
      simp only [List.length_cons]
      omega
    · simp at h
  · split at h
    next hspan =>
      obtain ⟨-, rfl⟩ := Prod.mk.inj (Except.ok.inj h)
      exact length_of_spanTag? hspan
    · simp at h

/-! ## Documents -/

/-- What was read of a document: its elements in the order of their tags, and the fault that ended
the reading before the end of the text. -/
structure Document where
  elements : List Element
  fault : Option Error
deriving DecidableEq, Repr

namespace Document

def cons (element : Element) (document : Document) : Document :=
  { document with elements := element :: document.elements }

/-- Reads on where the elements named in the first argument are open, the innermost first. -/
def readFrom (openNames : List (List Char)) (s : List Char) : Document :=
  match _hs : s.dropWhile (· != '<') with
  | [] => ⟨[], none⟩
  | _ :: rest =>
      match _hmark : readMark rest with
      | .error e => ⟨[], some e⟩
      | .ok (.startTag element, after) => cons element (readFrom (element.name :: openNames) after)
      | .ok (.emptyTag element, after) => cons element (readFrom openNames after)
      | .ok (.other, after) => readFrom openNames after
      | .ok (.endTag name, after) =>
          match openNames with
          | [] => ⟨[], some (.strayEndTag (String.ofList name))⟩
          | expected :: outer =>
              if name = expected then readFrom outer after
              else ⟨[], some (.otherEndTag (String.ofList expected) (String.ofList name))⟩
termination_by s.length
decreasing_by
  all_goals
    have h1 := length_of_readMark _hmark
    have h2 := (List.dropWhile_suffix (· != '<') (l := s)).length_le
    rw [_hs, List.length_cons] at h2
    omega

/-- Reads a document.  A byte order mark at its front does not count. -/
def read : List Char → Document
  | '\ufeff' :: rest => readFrom [] rest
  | s => readFrom [] s

end Document

end ProcessLaunch.Markup
