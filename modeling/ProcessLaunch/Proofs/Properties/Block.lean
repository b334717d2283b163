import ProcessLaunch.Proofs.Properties.Line
import ProcessLaunch.Proofs.Table
import ProcessLaunch.Properties.Entry

/-!
# Blocks of lines

A text that ends where a line ends, and leaves no logical line open, is a block.  Blocks are read
each by itself: what a block says depends on nothing before it, and nothing behind it depends on how
its lines were joined.
-/

namespace ProcessLaunch.Properties

open Text (isBlank trimStart)

/-- Whether a line goes on in the next one.  A line that is no part of an earlier one may be blank
or a comment: then it is over where it ends, whatever it ends in. -/
def goesOn (inside : Bool) (line : List Char) : Bool :=
  (inside || !isSkipped (trimStart line)) && isOpen line

def leavesOpen (lines : List (List Char)) : Bool := lines.foldl goesOn false

def EndsLine (text : List Char) : Prop := text = [] ∨ text.getLast? = some '\n'

instance (text : List Char) : Decidable (EndsLine text) := inferInstanceAs (Decidable (_ ∨ _))

/-- A text that is empty or ends in a newline, and whose last line does not go on. -/
structure IsBlock (text : List Char) : Prop where
  ends : EndsLine text
  closed : leavesOpen (physicalLines text) = false

structure IsFiller (line : List Char) : Prop where
  unbroken : '\n' ∉ line
  skipped : isSkipped (trimStart line) = true

def ofLines (lines : List (List Char)) : List Char := lines.flatMap (· ++ ['\n'])

/-! ## 1. Cutting between lines -/

theorem EndsLine.append {s t : List Char} (hs : EndsLine s) (ht : EndsLine t) :
    EndsLine (s ++ t) := by
  rcases ht with rfl | ht
  · rwa [List.append_nil]
  · right
    rw [List.getLast?_append, ht, Option.some_or]

/-- What stands behind the first line end still ends where a line ends. -/
theorem EndsLine.behind {line rest : List Char} (h : EndsLine (line ++ '\n' :: rest)) :
    EndsLine rest := by
  cases rest with
  | nil => exact .inl rfl
  | cons c rest =>
      rcases h with h | h
      · simp at h
      · right
        simpa [List.getLast?_append, List.getLast?_cons] using h

/-- A text that ends where a line ends has its lines in front of those that follow. -/
theorem physicalLines_append_of_ends {text : List Char} (h : EndsLine text) (more : List Char) :
    physicalLines (text ++ more) = physicalLines text ++ physicalLines more := by
  -- a text that ends elsewhere may end in a carriage return, which a newline behind it would take
  by_cases hempty : text = []
  · subst hempty
    rfl
  · have hmem : '\n' ∈ text := List.mem_of_getLast? (h.resolve_left hempty)
    obtain ⟨line, rest, rfl, hline⟩ := List.eq_append_cons_of_mem hmem
    rw [List.append_assoc, List.cons_append, physicalLines_append hline,
      physicalLines_append hline, physicalLines_append_of_ends h.behind, List.cons_append]
termination_by text.length

theorem goesOn_of_skipped {line : List Char} (h : isSkipped (trimStart line) = true) :
    goesOn false line = false := by
  simp [goesOn, h]

/-- A line that is read on its own goes on if what is left of it without blanks is open. -/
theorem goesOn_begun {line : List Char} (h : ¬isSkipped (trimStart line) = true) :
    goesOn false line = isOpen (trimStart line) := by
  simp [goesOn, h, isOpen_trimStart]

theorem goesOn_joined {part : List Char} (h : isOpen part = false) (line : List Char) :
    goesOn true line = isOpen (part ++ trimStart line) := by
  rw [isOpen_append h, isOpen_trimStart]
  rfl

/-- Lines that leave nothing open are joined by themselves, whatever lines come behind them. -/
theorem logicalFrom_append {lines : List (List Char)} (part? : Option (List Char))
    (hpart : ∀ part ∈ part?, isOpen part = false)
    (h : lines.foldl goesOn part?.isSome = false) (more : List (List Char)) :
    logicalFrom part? (lines ++ more) = logicalFrom part? lines ++ logicalFrom none more := by
  -- the part that is carried along is closed, so the run of backslashes that decides whether a
  -- joined line goes on lies in its last physical line
  fun_induction logicalFrom part? lines with
  | case1 => rfl
  | case2 part => cases h
  | case3 line rest start hskipped ih =>
      rw [List.foldl_cons, Option.isSome_none, goesOn_of_skipped hskipped] at h
      rw [List.cons_append, logicalFrom, if_pos hskipped]
      exact ih (by simp) h
  | case4 line rest start hskipped hopen ih =>
      rw [List.foldl_cons, Option.isSome_none, goesOn_begun hskipped, hopen] at h
      rw [List.cons_append, logicalFrom, if_neg hskipped, if_pos hopen]
      refine ih (fun part hpart => ?_) h
      cases hpart
      exact isOpen_dropLast hopen
  | case5 line rest start hskipped hopen ih =>
      have hclosed : isOpen start = false := by simpa using hopen
      rw [List.foldl_cons, Option.isSome_none, goesOn_begun hskipped, hclosed] at h
      rw [List.cons_append, logicalFrom_closed (by simpa using hskipped) hclosed, ih (by simp) h]
      rfl
  | case6 part line rest joined hopen ih =>
      rw [List.foldl_cons, Option.isSome_some, goesOn_joined (hpart part rfl), hopen] at h
      rw [List.cons_append, logicalFrom, if_pos hopen]
      refine ih (fun part hpart => ?_) h
      cases hpart
      exact isOpen_dropLast hopen
  | case7 part line rest joined hopen ih =>
      have hclosed : isOpen joined = false := by simpa using hopen
      rw [List.foldl_cons, Option.isSome_some, goesOn_joined (hpart part rfl), hclosed] at h
      rw [List.cons_append, logicalFrom, if_neg hopen, ih (by simp) h]
      rfl

/-- What stands behind a block is read as if it stood alone. -/
theorem IsBlock.entries_append {block : List Char} (h : IsBlock block) (more : List Char) :
    entries (block ++ more) = entries block ++ entries more := by
  have hlogical : logicalLines (block ++ more) = logicalLines block ++ logicalLines more := by
    rw [logicalLines, physicalLines_append_of_ends h.ends]
    exact logicalFrom_append none (by simp) h.closed _
  rw [entries, hlogical, List.map_append]
  rfl

/-! ## 2. Lines that say nothing -/

/-- A carriage return at the end makes no line worth reading. -/
theorem isSkipped_withoutReturn {line : List Char} (h : isSkipped (trimStart line) = true) :
    isSkipped (trimStart (withoutReturn line)) = true := by
  fun_induction withoutReturn line with
  | case1 => rfl
  | case2 => rfl
  | case3 c rest hreturn ih =>
      -- a blank in front is dropped with or without a return at the end, and the first character
      -- behind the blanks is no return that could be cut off
      rw [trimStart, List.dropWhile_cons] at h ⊢
      split at h
      next hblank =>
        rw [if_pos hblank]
        exact ih h
      next hblank =>
        rw [if_neg hblank]
        exact h

theorem IsFiller.goesOn_eq {line : List Char} (h : IsFiller line) :
    goesOn false (withoutReturn line) = false :=
  goesOn_of_skipped (isSkipped_withoutReturn h.skipped)

/-- Lines that say nothing are a block, and there is no entry in it. -/
theorem isBlock_ofLines {lines : List (List Char)} (h : ∀ line ∈ lines, IsFiller line) :
    IsBlock (ofLines lines) ∧ entries (ofLines lines) = [] := by
  induction lines with
  | nil => exact ⟨⟨.inl rfl, rfl⟩, rfl⟩
  | cons line rest ih =>
      have hline : IsFiller line := h line List.mem_cons_self
      obtain ⟨hblock, hentries⟩ := ih fun line hline => h line (List.mem_cons_of_mem _ hline)
      have htext : ofLines (line :: rest) = line ++ '\n' :: ofLines rest := by
        simp [ofLines]
      have hlines : physicalLines (ofLines (line :: rest)) =
          withoutReturn line :: physicalLines (ofLines rest) := by
        rw [htext, physicalLines_append hline.unbroken]
      refine ⟨⟨?_, ?_⟩, ?_⟩
      -- it ends in a newline, its first line does not go on, and that line is passed over
      · have hends : EndsLine (line ++ ['\n']) := .inr (by simp)
        rw [htext, ← List.singleton_append, ← List.append_assoc]
        exact hends.append hblock.ends
      · rw [hlines, leavesOpen, List.foldl_cons, hline.goesOn_eq]
        exact hblock.closed
      · rw [entries, logicalLines, hlines, logicalFrom,
          if_pos (isSkipped_withoutReturn hline.skipped)]
        exact hentries

/-! ## 3. Tables of blocks -/

/-- What is put behind a block overrides it and changes nothing else. -/
theorem IsBlock.parse_append {block : String} (h : IsBlock block.toList) (more : String) :
    parse (block ++ more) = (parse block).override (parse more) := by
  rw [parse, String.toList_append, h.entries_append, Table.ofList_append]
  rfl

/-- What a text says comes down to what its blocks say, the later over the earlier.  So lines that
say nothing may stand between any two blocks, and blocks without a common key may change places. -/
theorem parse_append_of_block (first : String) (hfirst : IsBlock first.toList) :
    (∀ more,
      parse (first ++ more) = (parse first).override (parse more) ∧
      ∀ key, (parse (first ++ more)).get? key =
        ((parse more).get? key).or ((parse first).get? key)) ∧
    (∀ lines, (∀ line ∈ lines, IsFiller line) → ∀ more,
      parse (first ++ String.ofList (ofLines lines) ++ more) = parse (first ++ more)) ∧
    ∀ second third, IsBlock second.toList → IsBlock third.toList →
      (∀ key, (parse second).contains key = true → (parse third).contains key = false) →
      ∀ more,
        parse (first ++ second ++ third ++ more) = parse (first ++ third ++ second ++ more) := by
  refine ⟨fun more => ⟨hfirst.parse_append more, fun key => ?_⟩, fun lines hlines more => ?_,
    fun second third hsecond hthird hapart more => ?_⟩
  · rw [hfirst.parse_append, Table.get?_override]
  · obtain ⟨hblock, hentries⟩ := isBlock_ofLines hlines
    rw [parse, parse, String.toList_append, String.toList_append, String.toList_append,
      String.toList_ofList, List.append_assoc, hfirst.entries_append, hfirst.entries_append,
      hblock.entries_append, hentries, List.nil_append]
  -- with the text taken apart block by block, the two in question stand next to each other
  · rw [String.append_assoc, String.append_assoc, String.append_assoc, String.append_assoc,
      hfirst.parse_append, hfirst.parse_append, hsecond.parse_append, hthird.parse_append,
      hthird.parse_append, hsecond.parse_append, Table.override_left_comm hapart]

def sampleBlock : String := "k=1\\\n 2\n# c\\\n"

def sampleFiller : List (List Char) := [[' '], " ! x\\".toList]

theorem parse_append_of_block_sample :
    IsBlock sampleBlock.toList ∧ (∀ line ∈ sampleFiller, IsFiller line) ∧
      IsBlock "u=1\n".toList ∧ IsBlock "v=2\\\n\n".toList ∧
      (∀ key, (parse "u=1\n").contains key = true → (parse "v=2\\\n\n").contains key = false) ∧
      (parse (sampleBlock ++ "k:3\nj")).get? "k" = some "3" ∧
      parse (sampleBlock ++ String.ofList (ofLines sampleFiller) ++ "k:3\nj") =
        parse (sampleBlock ++ "k:3\nj") ∧
      parse (sampleBlock ++ "u=1\n" ++ "v=2\\\n\n" ++ "k:3\nj") =
        parse (sampleBlock ++ "v=2\\\n\n" ++ "u=1\n" ++ "k:3\nj") := by
  have hblock : IsBlock sampleBlock.toList := ⟨by decide, by decide⟩
  have hfiller : ∀ line ∈ sampleFiller, IsFiller line := by
    intro line hline
    rcases List.mem_cons.mp hline with rfl | hline
    · exact ⟨by decide, by decide⟩
    · rw [List.mem_singleton.mp hline]
      exact ⟨by decide, by decide⟩
  have hsecond : IsBlock "u=1\n".toList := ⟨by decide, by decide⟩
  have hthird : IsBlock "v=2\\\n\n".toList := ⟨by decide, by decide⟩
  have hapart : ∀ key, (parse "u=1\n").contains key = true →
      (parse "v=2\\\n\n").contains key = false := by
    intro key hkey
    have hentries : entries "u=1\n".toList = [("u", "1")] := by decide +kernel
    rw [parse, hentries, Table.contains_ofList] at hkey
    -- the first block fills one key
    obtain rfl : key = "u" := by simpa using hkey
    decide +kernel
  obtain ⟨hover, hinsert, hswap⟩ := parse_append_of_block sampleBlock hblock
  refine ⟨hblock, hfiller, hsecond, hthird, hapart, ?_, hinsert _ hfiller _,
    hswap _ _ hsecond hthird hapart _⟩
  rw [(hover "k:3\nj").2 "k"]
  decide +kernel

end ProcessLaunch.Properties
