import Mathlib.Data.List.TakeWhile
import ProcessLaunch.Markup.Document

/-!
# Nesting

A document is read as the marks in its text, one behind the other, with the names of the elements
that are open.  It has no fault exactly if every end tag names the innermost of these; which of them
are open in the end does not count.
-/

namespace ProcessLaunch.Markup

/-! ## 1. Open elements -/

/-- The names of the open elements behind a mark, the innermost first, if the mark may stand
there. -/
def Mark.step? : Mark → List (List Char) → Option (List (List Char))
  | .startTag element, openNames => some (element.name :: openNames)
  | .endTag _, [] => none
  | .endTag name, expected :: outer => if name = expected then some outer else none
  | _, openNames => some openNames

def openAfter : List Mark → List (List Char) → Option (List (List Char))
  | [], openNames => some openNames
  | mark :: marks, openNames => (mark.step? openNames).bind (openAfter marks)

def Mark.element? : Mark → Option Element
  | .startTag element => some element
  | .emptyTag element => some element
  | _ => none

inductive Marks : List Char → List Mark → Prop
  | none {s : List Char} (h : '<' ∉ s) : Marks s []
  | next {s t after : List Char} {mark : Mark} {marks : List Mark} (h : '<' ∉ s)
      (hread : readMark t = .ok (mark, after)) (hmarks : Marks after marks) :
      Marks (s ++ '<' :: t) (mark :: marks)

theorem openAfter_append (a b : List Mark) (openNames : List (List Char)) :
    openAfter (a ++ b) openNames = (openAfter a openNames).bind (openAfter b) := by
  induction a generalizing openNames with
  | nil => rfl
  | cons mark a ih =>
      rw [List.cons_append, openAfter, openAfter]
      cases mark.step? openNames with
      | none => rfl
      | some next => exact ih next

/-! ## 2. One mark -/

namespace Document

variable {openNames : List (List Char)}

def behind (elements : List Element) (document : Document) : Document :=
  { document with elements := elements ++ document.elements }

theorem dropWhile_text {s : List Char} (h : '<' ∉ s) (t : List Char) :
    (s ++ t).dropWhile (· != '<') = t.dropWhile (· != '<') := by
  apply List.dropWhile_append_of_pos
  intro c hc
  have hne : c ≠ '<' := fun heq => h (heq ▸ hc)
  simpa using hne

theorem readFrom_of_nil {s : List Char} (h : s.dropWhile (· != '<') = []) :
    readFrom openNames s = ⟨[], none⟩ := by
  rw [readFrom]
  split
  next => rfl
  next hcons => rw [h] at hcons; cases hcons

/-- A mark that cannot be read ends the reading. -/
theorem readFrom_of_error {s t : List Char} {c : Char} {e : Error}
    (h : s.dropWhile (· != '<') = c :: t) (hread : readMark t = .error e) :
    readFrom openNames s = ⟨[], some e⟩ := by
  rw [readFrom]
  split
  next hnil => rw [h] at hnil; cases hnil
  next hcons =>
    rw [h] at hcons
    cases hcons
    split <;> simp_all

/-- A mark that may stand there is read, and the reading goes on behind it. -/
theorem readFrom_of_step {s t after : List Char} {c : Char} {mark : Mark}
    {next : List (List Char)} (h : s.dropWhile (· != '<') = c :: t)
    (hread : readMark t = .ok (mark, after)) (hstep : mark.step? openNames = some next) :
    readFrom openNames s = (readFrom next after).behind mark.element?.toList := by
  -- only an end tag asks for the open names; the other marks go on with what they leave open
  rw [readFrom]
  split
  next hnil => rw [h] at hnil; cases hnil
  next hcons =>
    rw [h] at hcons
    cases hcons
    split
    next hmark => rw [hread] at hmark; cases hmark
    next hmark =>
      rw [hread] at hmark
      cases hmark
      cases hstep
      rfl
    next hmark =>
      rw [hread] at hmark
      cases hmark
      cases hstep
      rfl
    next hmark =>
      rw [hread] at hmark
      cases hmark
      cases hstep
      rfl
    next hmark =>
      rw [hread] at hmark
      cases hmark
      split
      · cases hstep
      next =>
        rw [Mark.step?] at hstep
        split at hstep
        next hname =>
          rw [if_pos hname]
          cases hstep
          rfl
        · cases hstep

theorem readFrom_text {s : List Char} (h : '<' ∉ s) (t : List Char) :
    readFrom openNames (s ++ t) = readFrom openNames t := by
  have hdrop := dropWhile_text h t
  rw [readFrom.eq_def openNames (s ++ t), readFrom.eq_def openNames t]
  generalize (s ++ t).dropWhile (· != '<') = u at hdrop
  subst hdrop
  rfl

/-- An end tag that names no open element, or not the innermost, is a fault. -/
theorem readFrom_of_step_none {s t after : List Char} {c : Char} {mark : Mark}
    (h : s.dropWhile (· != '<') = c :: t) (hread : readMark t = .ok (mark, after))
    (hstep : mark.step? openNames = none) : ∃ e, readFrom openNames s = ⟨[], some e⟩ := by
  rw [readFrom]
  -- an end tag with the wrong name is the only mark that may not stand somewhere
  split
  next hnil => rw [h] at hnil; cases hnil
  next hcons =>
    rw [h] at hcons
    cases hcons
    split
    next => exact ⟨_, rfl⟩
    next hmark => rw [hread] at hmark; cases hmark; cases hstep
    next hmark => rw [hread] at hmark; cases hmark; cases hstep
    next hmark => rw [hread] at hmark; cases hmark; cases hstep
    next hmark =>
      rw [hread] at hmark
      cases hmark
      split
      · exact ⟨_, rfl⟩
      next =>
        rw [Mark.step?] at hstep
        split at hstep
        · cases hstep
        next hname =>
          rw [if_neg hname]
          exact ⟨_, rfl⟩

/-! ## 3. Whole texts -/

theorem behind_behind (a b : List Element) (document : Document) :
    (document.behind b).behind a = document.behind (a ++ b) := by
  unfold behind
  rw [List.append_assoc]

/-- What is read of a text whose marks can all be read and stand where they may. -/
theorem readFrom_of_marks {s : List Char} {marks : List Mark} {names : List (List Char)}
    (h : Marks s marks) (hopen : openAfter marks openNames = some names) :
    readFrom openNames s = ⟨marks.filterMap Mark.element?, none⟩ := by
  -- the names that are open change from mark to mark
  induction h generalizing openNames with
  | @none s h =>
      have hdrop := dropWhile_text h []
      rw [List.append_nil, List.dropWhile_nil] at hdrop
      exact readFrom_of_nil hdrop
  | @next s t after mark marks h hread _ ih =>
      obtain ⟨next, hstep, hnext⟩ := Option.bind_eq_some_iff.mp hopen
      have hdrop : (s ++ '<' :: t).dropWhile (· != '<') = '<' :: t := by
        rw [dropWhile_text h, List.dropWhile_cons_of_neg (by decide)]
      rw [readFrom_of_step hdrop hread hstep, ih hnext]
      cases mark <;> rfl

theorem exists_split {s t : List Char} {c : Char} (h : s.dropWhile (· != '<') = c :: t) :
    ∃ front, '<' ∉ front ∧ s = front ++ '<' :: t := by
  have hc : c = '<' := by
    have hhead := List.head?_dropWhile_not (· != '<') s
    rw [h] at hhead
    simpa using hhead
  subst hc
  refine ⟨s.takeWhile (· != '<'), fun hmem => ?_, ?_⟩
  · have hne := List.mem_takeWhile_imp hmem
    revert hne
    decide
  · rw [← h, List.takeWhile_append_dropWhile]

/-- A reading without a fault has read every mark of the text, each in its place. -/
theorem exists_marks (openNames : List (List Char)) (s : List Char)
    (h : (readFrom openNames s).fault = none) :
    ∃ marks names, Marks s marks ∧ openAfter marks openNames = some names := by
  -- by induction on the length of the text: what stands behind a mark is shorter
  cases hdrop : s.dropWhile (· != '<') with
  | nil =>
      refine ⟨[], openNames, .none fun hmem => ?_, rfl⟩
      have hall := List.dropWhile_eq_nil_iff.mp hdrop '<' hmem
      revert hall
      decide
  | cons c t =>
      obtain ⟨front, hfront, hsplit⟩ := exists_split hdrop
      cases hread : readMark t with
      | error e =>
          rw [readFrom_of_error hdrop hread] at h
          cases h
      | ok found =>
          obtain ⟨mark, after⟩ := found
          cases hstep : mark.step? openNames with
          | none =>
              obtain ⟨e, he⟩ := readFrom_of_step_none hdrop hread hstep
              rw [he] at h
              cases h
          | some next =>
              rw [readFrom_of_step hdrop hread hstep] at h
              have hlength : after.length < s.length := by
                have := length_of_readMark hread
                rw [hsplit, List.length_append, List.length_cons]
                omega
              obtain ⟨marks, names, hmarks, hopen⟩ := exists_marks next after h
              refine ⟨mark :: marks, names, ?_, ?_⟩
              · rw [hsplit]
                exact .next hfront hread hmarks
              · rw [openAfter, hstep]
                exact hopen
termination_by s.length

/-- A text is read without a fault exactly if its marks can be read and each stands where it may;
then its elements are read in their order. -/
theorem readFrom_eq_iff {s : List Char} {elements : List Element} :
    readFrom openNames s = ⟨elements, none⟩ ↔
      ∃ marks names, Marks s marks ∧ openAfter marks openNames = some names ∧
        marks.filterMap Mark.element? = elements := by
  constructor
  · intro h
    obtain ⟨marks, names, hmarks, hopen⟩ := exists_marks openNames s (by rw [h])
    refine ⟨marks, names, hmarks, hopen, ?_⟩
    rw [readFrom_of_marks hmarks hopen] at h
    cases h
    rfl
  · rintro ⟨marks, names, hmarks, hopen, rfl⟩
    exact readFrom_of_marks hmarks hopen

/-- A byte order mark is text in front of the first mark. -/
theorem read_eq (s : List Char) : read s = readFrom [] s := by
  unfold read
  split
  next rest =>
    have h : '<' ∉ ['\ufeff'] := by decide
    exact (readFrom_text h rest).symm
  · rfl

end Document

end ProcessLaunch.Markup
