import ProcessLaunch.Json.Skip
import ProcessLaunch.Proofs.Json.Value

/-!
# Written values of any kind

The grammar of JSON values, and what is skipped where one stands: exactly the value, however deep it
is nested.
-/

namespace ProcessLaunch.Json

open Reader

/-! ## 1. The grammar -/

def valueWords : List (List Char) := ["null".toList, "true".toList, "false".toList]

namespace Frame

def opening : Frame → Char
  | array => '['
  | object => '\x7b'

end Frame

/-- What values are put together from: values, one element or member with the space before it, and
all that may stand behind an element or member before its array or object is closed. -/
inductive Piece where
  | value
  | part (frame : Frame)
  | behind (frame : Frame)

inductive Writes : Piece → List Char → Prop
  | word {w : List Char} (h : w ∈ valueWords) : Writes .value w
  | number {l : Literal} {s : List Char} (h : WritesLiteral l s) : Writes .value s
  | string {s : List Char} (h : Quotation s) : Writes .value s
  | empty {frame : Frame} {b : List Char} (hb : Spaces b) :
      Writes .value (frame.opening :: (b ++ [frame.close]))
  | filled {frame : Frame} {s t : List Char} (hs : Writes (.part frame) s)
      (ht : Writes (.behind frame) t) : Writes .value (frame.opening :: (s ++ t ++ [frame.close]))
  | element {b s : List Char} (hb : Spaces b) (hs : Writes .value s) :
      Writes (.part .array) (b ++ s)
  | member {b key a c s : List Char} (hb : Spaces b) (hkey : Quotation key) (ha : Spaces a)
      (hc : Spaces c) (hs : Writes .value s) :
      Writes (.part .object) (b ++ key ++ a ++ ':' :: (c ++ s))
  | last {frame : Frame} {b : List Char} (hb : Spaces b) : Writes (.behind frame) b
  | more {frame : Frame} {b s t : List Char} (hb : Spaces b) (hs : Writes (.part frame) s)
      (ht : Writes (.behind frame) t) : Writes (.behind frame) (b ++ ',' :: (s ++ t))

/-! ## 2. One step -/

def Awaited.ofPart (first : Bool) : Frame → Awaited
  | .array => .value first
  | .object => .key first

theorem ofComma_eq (frame : Frame) : Awaited.ofComma frame = .ofPart false frame := by
  cases frame <;> rfl

theorem close_ne_comma (frame : Frame) : frame.close ≠ ',' := by
  cases frame <;> decide

theorem isSpace_close (frame : Frame) : isSpace frame.close = false := by
  cases frame <;> decide

/-- Skipping is over when the outermost value has been skipped. -/
theorem skipFrom_nil (s : List Char) : skipFrom (.separator, []) s = .ok s := by
  rw [skipFrom, if_pos rfl]

/-- Skipping goes on behind what has been skipped. -/
theorem skipFrom_step {pending pending' : Pending} {s rest : List Char}
    (h : (skipNext pending).run s = .ok (pending', rest)) :
    skipFrom pending s = skipFrom pending' rest := by
  have hne : pending ≠ (.separator, []) := by
    rintro rfl
    obtain ⟨_, _, _, _, _, _, h⟩ := run_spaces_next_eq_ok.mp h
    cases h
  rw [skipFrom, if_neg hne]
  split <;> simp_all

theorem run_skipNext {pending : Pending} {b s : List Char} {c : Char} (hb : Spaces b)
    (hc : isSpace c = false) :
    (skipNext pending).run (b ++ c :: s) = (skipStart c pending).run s := by
  rw [skipNext, run_bind, run_spaces, List.dropWhile_append_of_pos hb,
    List.dropWhile_cons_of_neg (by simp [hc])]
  rfl

/-! ## 3. What is written is skipped -/

def SkipsValue (s : List Char) : Prop :=
  ∀ (first : Bool) (frames : List Frame) {b rest : List Char}, Spaces b → Ended rest →
    skipFrom (.value first, frames) (b ++ (s ++ rest)) = skipFrom (.separator, frames) rest

def SkipsPart (frame : Frame) (s : List Char) : Prop :=
  ∀ (first : Bool) (frames : List Frame) {rest : List Char}, Ended rest →
    skipFrom (.ofPart first frame, frames) (s ++ rest) = skipFrom (.separator, frames) rest

def SkipsBehind (frame : Frame) (s : List Char) : Prop :=
  ∀ (frames : List Frame) (rest : List Char),
    skipFrom (.separator, frame :: frames) (s ++ frame.close :: rest) =
      skipFrom (.separator, frames) rest

/-- A value is skipped if what is left behind its first character is. -/
theorem skipsValue_of_start {c : Char} {s : List Char} (hspace : isSpace c = false) (hc : c ≠ ']')
    (hrun : ∀ (frames : List Frame) {rest : List Char}, Ended rest →
      ∃ pending behind, (skipValueStart c frames).run (s ++ rest) = .ok (pending, behind) ∧
        skipFrom pending behind = skipFrom (.separator, frames) rest) : SkipsValue (c :: s) := by
  intro first frames b rest hb hrest
  obtain ⟨pending, behind, hstart, hskip⟩ := hrun frames hrest
  -- only a closing bracket may stand in place of a first value
  have hvalue : skipStart c (.value first, frames) = skipValueStart c frames := by
    rw [skipStart, if_neg fun h => hc h.2]
  rw [← hvalue, ← run_skipNext hb hspace] at hstart
  rw [List.cons_append, skipFrom_step hstart, hskip]

theorem skipsValue_word {w : List Char} (h : w ∈ valueWords) : SkipsValue w := by
  have hrun (w : List Char) (frames : List Frame) (rest : List Char) :
      ((fun _ => ((Awaited.separator, frames) : Pending)) <$> word w).run (w ++ rest) =
        .ok ((.separator, frames), rest) :=
    run_map_eq_ok.mpr ⟨(), run_word_eq_ok.mpr rfl, rfl⟩
  simp only [valueWords, List.mem_cons, List.not_mem_nil, or_false] at h
  rcases h with rfl | rfl | rfl
  · exact skipsValue_of_start (c := 'n') (s := "ull".toList) (by decide) (by decide)
      fun frames rest _ => ⟨_, rest, hrun _ frames rest, rfl⟩
  · exact skipsValue_of_start (c := 't') (s := "rue".toList) (by decide) (by decide)
      fun frames rest _ => ⟨_, rest, hrun _ frames rest, rfl⟩
  · exact skipsValue_of_start (c := 'f') (s := "alse".toList) (by decide) (by decide)
      fun frames rest _ => ⟨_, rest, hrun _ frames rest, rfl⟩

theorem reads_skipNumber :
    (do skipNumberFrom (← next)).Reads fun _ s => ∃ l, WritesLiteral l s where
  sound {s u rest} h := by
    obtain ⟨c, s, hs, h⟩ := run_bind_eq_ok.mp h
    simp only [skipNumberFrom] at h
    split at h
    next => cases h
    next l behind hl =>
      cases h
      obtain ⟨t, ht, rfl⟩ := reads_literal.sound (run_bind_eq_ok.mpr ⟨c, s, hs, hl⟩)
      exact ⟨t, ⟨l, ht⟩, rfl⟩
  complete := by
    rintro u t ⟨l, ht⟩ rest hrest
    obtain ⟨c, s, hs, hl⟩ := run_bind_eq_ok.mp (reads_literal.complete ht hrest)
    refine run_bind_eq_ok.mpr ⟨c, s, hs, ?_⟩
    simp only [skipNumberFrom, hl]

theorem skipValueStart_number {c : Char} (h : c = '-' ∨ c.isDigit = true) (frames : List Frame) :
    skipValueStart c frames = (fun _ => (.separator, frames)) <$> skipNumberFrom c := by
  unfold skipValueStart
  split <;> first | rw [if_pos h] | (exfalso; revert h; decide)

theorem skipsValue_number {l : Literal} {s : List Char} (h : WritesLiteral l s) : SkipsValue s := by
  obtain ⟨c, t, rfl, hc⟩ := h.exists_cons
  refine skipsValue_of_start (h.unspaced c rfl) (by rintro rfl; revert hc; decide) ?_
  intro frames rest hrest
  have hrun := reads_skipNumber.complete (a := ()) ⟨l, h⟩ hrest
  rw [List.cons_append, run_bind, run_next_cons] at hrun
  refine ⟨_, rest, ?_, rfl⟩
  rw [skipValueStart_number hc]
  exact run_map_eq_ok.mpr ⟨(), hrun, rfl⟩

/-- Whatever is in quotes is skipped, halves of pairs included. -/
theorem skipsValue_string {s : List Char} (h : Quotation s) : SkipsValue s := by
  obtain ⟨cs, t, ht, rfl⟩ := h
  refine skipsValue_of_start (by decide) (by decide) fun frames rest _ => ⟨_, rest, ?_, rfl⟩
  exact run_map_eq_ok.mpr ⟨(), takes_skipString.run_append ⟨cs, t, ht, rfl⟩ rest, rfl⟩

theorem skipValueStart_opening (frame : Frame) (frames : List Frame) :
    skipValueStart frame.opening frames = pure (.ofPart true frame, frame :: frames) := by
  cases frame <;> rfl

theorem opening_ne (frame : Frame) : isSpace frame.opening = false ∧ frame.opening ≠ ']' := by
  cases frame <;> decide

/-- The closing character ends its frame. -/
theorem skipsBehind_last {frame : Frame} {b : List Char} (hb : Spaces b) :
    SkipsBehind frame b := by
  intro frames rest
  refine skipFrom_step ?_
  rw [run_skipNext hb (isSpace_close frame), skipStart, if_neg (close_ne_comma frame), if_pos rfl,
    run_pure]

theorem skipsValue_empty {frame : Frame} {b : List Char} (hb : Spaces b) :
    SkipsValue (frame.opening :: (b ++ [frame.close])) := by
  refine skipsValue_of_start (opening_ne frame).1 (opening_ne frame).2 fun frames rest _ => ?_
  refine ⟨(.ofPart true frame, frame :: frames), b ++ frame.close :: rest, ?_, ?_⟩
  · rw [skipValueStart_opening, run_pure, List.append_assoc, List.singleton_append]
  · -- nothing but the closing character may stand for a first part
    refine skipFrom_step ?_
    rw [run_skipNext hb (isSpace_close frame)]
    cases frame <;> rfl

theorem ended_behind {frame : Frame} {s : List Char} (h : Writes (.behind frame) s)
    (rest : List Char) : Ended (s ++ frame.close :: rest) := by
  have hclose : Ended (frame.close :: rest) := by
    cases frame <;> exact ended_cons (by decide) (by decide)
  cases h with
  | last hb => exact hclose.append hb
  | more hb =>
      rw [List.append_assoc]
      exact (ended_cons (by decide) (by decide)).append hb

/-- What stands before the value of a member is skipped up to that value. -/
theorem skipFrom_key {b key a s : List Char} (hb : Spaces b) (hkey : Quotation key) (ha : Spaces a)
    (first : Bool) (frames : List Frame) :
    skipFrom (.key first, frames) (b ++ key ++ a ++ ':' :: s) =
      skipFrom (.value false, frames) s := by
  obtain ⟨cs, t, ht, rfl⟩ := hkey
  have hkey := takes_skipString.run_append (a := ()) ⟨cs, t, ht, rfl⟩ (a ++ ':' :: s)
  have hspaces : spaces.run (a ++ ':' :: s) = .ok ((), ':' :: s) :=
    run_spaces_eq_ok.mpr ⟨a, ha, unspaced_cons (by decide), rfl⟩
  have hcolon : (expect ':').run (':' :: s) = .ok ((), s) := run_expect_eq_ok.mpr rfl
  have hstart : (skipNext (.key first, frames)).run (b ++ '"' :: (t ++ ['"'] ++ (a ++ ':' :: s))) =
      .ok ((.value false, frames), s) := by
    rw [run_skipNext hb (by decide), skipStart, if_neg (by simp), if_pos rfl]
    simp only [run_bind, hkey, hspaces, hcolon, run_pure]
  have htext : b ++ ('"' :: t ++ ['"']) ++ a ++ ':' :: s =
      b ++ '"' :: (t ++ ['"'] ++ (a ++ ':' :: s)) := by simp
  rw [htext, skipFrom_step hstart]

def Skips : Piece → List Char → Prop
  | .value => SkipsValue
  | .part frame => SkipsPart frame
  | .behind frame => SkipsBehind frame

/-- Every piece of a value is skipped where it stands, by induction on how it is written. -/
theorem skips_of_writes {piece : Piece} {s : List Char} (h : Writes piece s) : Skips piece s := by
  induction h with
  | word h => exact skipsValue_word h
  | number h => exact skipsValue_number h
  | string h => exact skipsValue_string h
  | empty hb => exact skipsValue_empty hb
  | @filled frame s t _ ht ihs iht =>
      -- the frame is opened, its first part is skipped, and then all up to its end
      refine skipsValue_of_start (opening_ne frame).1 (opening_ne frame).2 fun frames rest _ => ?_
      refine ⟨(.ofPart true frame, frame :: frames), s ++ (t ++ frame.close :: rest), ?_, ?_⟩
      · rw [skipValueStart_opening, run_pure]
        simp
      · rw [ihs true (frame :: frames) (ended_behind ht rest), iht frames rest]
  | element hb _ ih =>
      intro first frames rest hrest
      rw [List.append_assoc]
      exact ih first frames hb hrest
  | @member _ _ _ c _ hb hkey ha hc _ ih =>
      intro first frames rest hrest
      rw [List.append_assoc, List.cons_append, List.append_assoc c]
      exact (skipFrom_key hb hkey ha first frames).trans (ih false frames hc hrest)
  | last hb => exact skipsBehind_last hb
  | @more frame b s t hb _ ht ihs iht =>
      intro frames rest
      -- behind the comma a part is awaited that is not the first
      have hstart : (skipNext (.separator, frame :: frames)).run
          (b ++ ',' :: (s ++ (t ++ frame.close :: rest))) =
            .ok ((.ofPart false frame, frame :: frames), s ++ (t ++ frame.close :: rest)) := by
        rw [run_skipNext hb (by decide), skipStart, if_pos rfl, run_pure, ofComma_eq]
      rw [List.append_assoc, List.cons_append, List.append_assoc, skipFrom_step hstart,
        ihs false (frame :: frames) (ended_behind ht rest), iht frames rest]

/-! ## 4. What is skipped is written -/

/-- The open frames are closed one after the other, and then the rest is left. -/
def Closes : List Frame → List Char → List Char → Prop
  | [], s, rest => s = rest
  | frame :: frames, s, rest =>
      ∃ t behind, Writes (.behind frame) t ∧ s = t ++ frame.close :: behind ∧
        Closes frames behind rest

def ClosesPart (frame : Frame) (first : Bool) (frames : List Frame) (s rest : List Char) : Prop :=
  (∃ t behind, Writes (.part frame) t ∧ s = t ++ behind ∧ Closes frames behind rest) ∨
    (first = true ∧ ∃ b behind, Spaces b ∧ s = b ++ frame.close :: behind ∧
      Closes frames.tail behind rest)

/-- A text consists of what is left to skip and of the rest. -/
def Completes : Pending → List Char → List Char → Prop
  | (.value first, frames) => ClosesPart .array first frames
  | (.key first, frames) => ClosesPart .object first frames
  | (.separator, frames) => Closes frames

theorem completes_ofPart (first : Bool) (frame : Frame) (frames : List Frame) :
    Completes (.ofPart first frame, frames) = ClosesPart frame first frames := by
  cases frame <;> rfl

/-- What is skipped up to the end of a new frame makes a value, and the rest closes the frames
around it. -/
theorem filled_of_closesPart {frame : Frame} {frames : List Frame} {s rest : List Char}
    (h : ClosesPart frame true (frame :: frames) s rest) :
    ∃ t behind, Writes .value (frame.opening :: (t ++ [frame.close])) ∧
      s = t ++ frame.close :: behind ∧ Closes frames behind rest := by
  obtain ⟨t, _, ht, rfl, u, behind, hu, rfl, hclose⟩ | ⟨-, b, behind, hb, rfl, hclose⟩ := h
  · exact ⟨t ++ u, behind, .filled ht hu, by simp, hclose⟩
  · exact ⟨b, behind, .empty hb, rfl, hclose⟩

/-- The beginning of a value and what completes it make a value. -/
theorem value_of_start {c : Char} {frames : List Frame} {s behind rest : List Char}
    {pending : Pending} (hrun : (skipValueStart c frames).run s = .ok (pending, behind))
    (h : Completes pending behind rest) :
    ∃ t u, Writes .value t ∧ c :: s = t ++ u ∧ Closes frames u rest := by
  have hword {w : List Char} (hw : c :: w ∈ valueWords)
      (hrun : ((fun _ => ((Awaited.separator, frames) : Pending)) <$> word w).run s =
        .ok (pending, behind)) :
      ∃ t u, Writes .value t ∧ c :: s = t ++ u ∧ Closes frames u rest := by
    obtain ⟨_, hword, rfl⟩ := run_map_eq_ok.mp hrun
    exact ⟨c :: w, behind, .word hw, by rw [run_word_eq_ok.mp hword, List.cons_append], h⟩
  -- the frame that is opened here is closed before the others
  have hopen (frame : Frame) (hc : c = frame.opening)
      (hrun : pending = (.ofPart true frame, frame :: frames) ∧ behind = s) :
      ∃ t u, Writes .value t ∧ c :: s = t ++ u ∧ Closes frames u rest := by
    obtain ⟨rfl, rfl⟩ := hrun
    rw [completes_ofPart] at h
    obtain ⟨t, u, ht, rfl, hclose⟩ := filled_of_closesPart h
    exact ⟨_, u, ht, by simp [hc], hclose⟩
  unfold skipValueStart at hrun
  split at hrun
  next => exact hword (by decide) hrun
  next => exact hword (by decide) hrun
  next => exact hword (by decide) hrun
  next =>
    obtain ⟨u, hstring, rfl⟩ := run_map_eq_ok.mp hrun
    obtain ⟨_, ⟨cs, t, ht, rfl⟩, rfl⟩ := takes_skipString.mp hstring
    exact ⟨_, behind, .string ⟨cs, t, ht, rfl⟩, by simp, h⟩
  next =>
    rw [run_pure_eq_ok] at hrun
    exact hopen .array rfl ⟨hrun.1.symm, hrun.2.symm⟩
  next =>
    rw [run_pure_eq_ok] at hrun
    exact hopen .object rfl ⟨hrun.1.symm, hrun.2.symm⟩
  next =>
    split at hrun
    next =>
      obtain ⟨u, hnumber, rfl⟩ := run_map_eq_ok.mp hrun
      obtain ⟨t, ⟨l, hl⟩, hs⟩ :=
        reads_skipNumber.sound (run_bind_eq_ok.mpr ⟨c, s, run_next_cons c s, hnumber⟩)
      exact ⟨t, behind, .number hl, hs, h⟩
    next => cases hrun

/-- A key and what completes it make a member. -/
theorem member_of_start {frames : List Frame} {s behind rest : List Char} {pending : Pending}
    (hrun : (do skipString; spaces; expect ':'
                return ((.value false, frames) : Pending) : Reader Pending).run s =
      .ok (pending, behind))
    (h : Completes pending behind rest) :
    ∃ t u, (∀ b, Spaces b → Writes (.part .object) (b ++ '"' :: t)) ∧ s = t ++ u ∧
      Closes frames u rest := by
  simp only [run_bind_eq_ok, run_spaces_eq_ok, run_expect_eq_ok, run_pure_eq_ok] at hrun
  obtain ⟨_, _, hstring, _, _, ⟨a, ha, _, rfl⟩, _, _, rfl, rfl, rfl⟩ := hrun
  obtain ⟨_, ⟨cs, t, ht, rfl⟩, rfl⟩ := takes_skipString.mp hstring
  obtain ⟨_, u, hpart, rfl, hclose⟩ | ⟨hfirst, -⟩ := h
  · cases hpart with
    | @element c v hc hv =>
        refine ⟨t ++ ['"'] ++ a ++ ':' :: (c ++ v), u, fun b hb => ?_, by simp, hclose⟩
        simpa using Writes.member hb ⟨cs, t, ht, rfl⟩ ha hc hv
  · cases hfirst

/-- One step takes the front of what is left to skip. -/
theorem completes_step {pending pending' : Pending} {s behind rest : List Char}
    (hrun : (skipNext pending).run s = .ok (pending', behind))
    (h : Completes pending' behind rest) : Completes pending s rest := by
  obtain ⟨b, c, t, hb, -, rfl, hstart⟩ := run_spaces_next_eq_ok.mp hrun
  obtain ⟨awaited, frames⟩ := pending
  cases awaited with
  | value first =>
      simp only [skipStart] at hstart
      split at hstart
      next hc =>
        cases hstart
        exact .inr ⟨hc.1, b, behind, hb, by rw [hc.2]; rfl, h⟩
      next =>
        obtain ⟨v, u, hv, ht, hclose⟩ := value_of_start hstart h
        exact .inl ⟨b ++ v, u, .element hb hv, by rw [ht, List.append_assoc], hclose⟩
  | key first =>
      simp only [skipStart] at hstart
      split at hstart
      next hc =>
        cases hstart
        exact .inr ⟨hc.1, b, behind, hb, by rw [hc.2]; rfl, h⟩
      next =>
        split at hstart
        next hc =>
          obtain ⟨m, u, hm, rfl, hclose⟩ := member_of_start hstart h
          exact .inl ⟨b ++ '"' :: m, u, hm b hb, by simp [hc], hclose⟩
        next => cases hstart
  | separator =>
      -- a comma goes on in the innermost frame, and its closing character leaves it
      cases frames with
      | nil => cases hstart
      | cons frame frames =>
          simp only [skipStart] at hstart
          split at hstart
          next hc =>
            cases hstart
            rw [ofComma_eq, completes_ofPart] at h
            obtain ⟨p, _, hp, rfl, u, rest', hu, rfl, hclose⟩ | ⟨hfirst, -⟩ := h
            · exact ⟨b ++ ',' :: (p ++ u), rest', .more hb hp hu, by simp [hc], hclose⟩
            · cases hfirst
          next =>
            split at hstart
            next hc =>
              cases hstart
              exact ⟨b, behind, .last hb, by rw [hc], h⟩
            next => cases hstart

/-- What has been skipped from some frames on is what was missing in them. -/
theorem completes_of_skipFrom {pending : Pending} {s rest : List Char}
    (h : skipFrom pending s = .ok rest) : Completes pending s rest := by
  fun_induction skipFrom pending s with
  | case1 s => exact Except.ok.inj h
  | case2 => cases h
  | case3 pending s _ pending' behind hn ih => exact completes_step hn (ih h)

/-! ## 5. Skipped values -/

theorem run_skipValue_eq_ok {s rest : List Char} {u : Unit} :
    skipValue.run s = .ok (u, rest) ↔ skipFrom (.value false, []) s = .ok rest := by
  show (skipFrom (.value false, []) s).map _ = _ ↔ _
  cases skipFrom (.value false, []) s with
  | error e => simp [Except.map]
  | ok behind => simp [Except.map]

/-- Exactly a value is skipped, of any kind and however deep. -/
theorem reads_skipValue : skipValue.Reads (Spaced fun _ => Writes .value) where
  sound {s u rest} h := by
    obtain ⟨_, _, hpart, rfl, rfl⟩ | ⟨hfirst, -⟩ :=
      completes_of_skipFrom (run_skipValue_eq_ok.mp h)
    · cases hpart with
      | @element b t hb ht => exact ⟨_, ⟨b, t, hb, ht, rfl⟩, rfl⟩
    · cases hfirst
  complete := by
    rintro u _ ⟨b, t, hb, ht, rfl⟩ rest hrest
    rw [run_skipValue_eq_ok, List.append_assoc, ← skipFrom_nil rest]
    exact skips_of_writes ht false [] hb hrest

/-! ## 6. Values of a shape -/

theorem writes_of_string {text : String} {s : List Char} (h : WritesString text s) :
    Writes .value s := .string h.quotation

theorem writes_of_integer64 {n : Int64} {s : List Char} (h : WritesInteger64 n s) :
    Writes .value s := by
  have hlow : -(Number.maxNegative : Int) ≤ n.toInt := Int64.minValue_le_toInt n
  have hhigh : n.toInt ≤ Number.maxNatural := Int.le_trans (Int64.toInt_le n) (by decide)
  obtain ⟨l, -, hl, -⟩ := exists_literal_toString hlow hhigh
  exact .number (h ▸ hl)

theorem writes_of_natural32 {n : Nat} {s : List Char} (h : WritesNatural32 n s) :
    Writes .value s := by
  obtain ⟨hle, rfl⟩ := h
  have hlow : -(Number.maxNegative : Int) ≤ (n : Int) :=
    Int.le_trans (by decide) (Int.natCast_nonneg n)
  have hhigh : (n : Int) ≤ Number.maxNatural := Int.ofNat_le.mpr (Nat.le_trans hle (by decide))
  obtain ⟨l, -, hl, -⟩ := exists_literal_toString hlow hhigh
  exact .number hl

theorem writes_of_optional {α : Type} {writes : α → List Char → Prop} {a : Option α} {s : List Char}
    (hvalue : ∀ {a s}, writes a s → Writes .value s) (h : WritesOptional writes a s) :
    Writes .value s := by
  cases a with
  | none => exact .word (h ▸ List.mem_cons_self)
  | some a => exact hvalue h

end ProcessLaunch.Json
