import ProcessLaunch.Proofs.Properties.Block
import ProcessLaunch.Proofs.Properties.Split

/-!
# Empty entries

Blank lines are passed over where they stand in the text, not where they come out of joining lines:
lone backslashes that go on in a blank line, or nowhere, make a logical line with nothing in it.  It
gives an entry with an empty key and an empty value, as does a line that begins with a mark.
-/

namespace ProcessLaunch.Properties

open Text (isBlank trimStart isBlank_head_trimStart)

/-- Lines of a lone backslash, and behind them a blank line or the end of the text. -/
structure IsBlankRun (run after : List (List Char)) : Prop where
  lone : ∀ line ∈ run, trimStart line = ['\\']
  ended : ∀ line rest, after = line :: rest → trimStart line = []

/-- Among some lines there is such a run, where no earlier line goes on in it.  The first argument
tells whether a line before these goes on. -/
def HasBlankRun (inside : Bool) (lines : List (List Char)) : Prop :=
  ∃ before run after, lines = before ++ run ++ after ∧ before.foldl goesOn inside = false ∧
    run ≠ [] ∧ IsBlankRun run after

/-! ## 1. Logical lines -/

def Begun (s : List Char) : Prop := ∀ c rest, s = c :: rest → isBlank c = false

theorem begun_trimStart (s : List Char) : Begun (trimStart s) :=
  fun _ _ h => isBlank_head_trimStart h

/-- Two texts that begin with no blank begin with none together. -/
theorem Begun.append {s t : List Char} (hs : Begun s) (ht : Begun t) : Begun (s ++ t) := by
  intro c rest h
  cases s with
  | nil => exact ht c rest h
  | cons d s =>
      obtain ⟨rfl, -⟩ := List.cons.inj h
      exact hs d s rfl

theorem Begun.dropLast {s : List Char} (h : Begun s) : Begun s.dropLast := by
  intro c rest hdrop
  obtain ⟨more, hmore⟩ := List.dropLast_prefix s
  rw [hdrop] at hmore
  exact h c _ hmore.symm

/-- A logical line does not begin with a blank, and does not go on. -/
theorem begun_of_mem_logicalLines {text : List Char} :
    ∀ line ∈ logicalLines text, Begun line ∧ isOpen line = false :=
  forall_mem_logicalFrom (fun _ _ h => by cases h) (fun _ h => h.dropLast)
    (fun line _ _ h => h.append (begun_trimStart line)) (by simp)

/-! ## 2. Logical lines with nothing in them -/

theorem IsBlankRun.cons {line : List Char} {run after : List (List Char)}
    (hline : trimStart line = ['\\']) (h : IsBlankRun run after) :
    IsBlankRun (line :: run) after where
  lone other hother := by
    rcases List.mem_cons.mp hother with rfl | hother
    · exact hline
    · exact h.lone other hother
  ended := h.ended

/-- Such a run makes an empty logical line. -/
theorem IsBlankRun.nil_mem {run after : List (List Char)} (h : IsBlankRun run after) :
    [] ∈ logicalFrom (some []) (run ++ after) := by
  obtain ⟨hlone, hended⟩ := h
  induction run with
  | nil =>
      cases after with
      | nil => exact List.mem_singleton_self _
      | cons line rest =>
          rw [List.nil_append, logicalFrom, List.nil_append, hended line rest rfl]
          exact List.mem_cons_self
  | cons line run ih =>
      rw [List.cons_append, logicalFrom, List.nil_append, hlone line List.mem_cons_self]
      exact ih fun line hline => hlone line (List.mem_cons_of_mem _ hline)

theorem HasBlankRun.nil_mem {lines : List (List Char)} (h : HasBlankRun false lines) :
    [] ∈ logicalFrom none lines := by
  obtain ⟨before, run, after, rfl, hbefore, hne, hrun⟩ := h
  obtain ⟨line, run, rfl⟩ := List.exists_cons_of_ne_nil hne
  have hrest : IsBlankRun run after :=
    ⟨fun line hline => hrun.lone line (List.mem_cons_of_mem _ hline), hrun.ended⟩
  rw [List.append_assoc, logicalFrom_append none (by simp) hbefore, List.cons_append, logicalFrom,
    hrun.lone line List.mem_cons_self]
  exact List.mem_append_right _ hrest.nil_mem

theorem HasBlankRun.behind {inside : Bool} {line : List Char} {lines : List (List Char)}
    (h : HasBlankRun (goesOn inside line) lines) : HasBlankRun inside (line :: lines) := by
  obtain ⟨before, run, after, rfl, hbefore, hrun⟩ := h
  exact ⟨line :: before, run, after, rfl, hbefore, hrun⟩

/-- An open line of which nothing is left is a lone backslash. -/
theorem eq_backslash_of_dropLast {line : List Char} (hopen : isOpen line = true)
    (h : line.dropLast = []) : line = ['\\'] := by
  match line with
  | [] => cases hopen
  | [c] =>
      by_cases hc : c = '\\'
      · rw [hc]
      · rw [isOpen_cons hc] at hopen
        cases hopen
  | _ :: _ :: _ => simp at h

/-- An empty logical line comes of a run that begins it, or goes on with it. -/
theorem hasBlankRun_of_nil_mem {part? : Option (List Char)}
    (hpart : ∀ part ∈ part?, isOpen part = false) {lines : List (List Char)}
    (h : [] ∈ logicalFrom part? lines) :
    (part? = some [] ∧ ∃ run after, lines = run ++ after ∧ IsBlankRun run after) ∨
      HasBlankRun part?.isSome lines := by
  fun_induction logicalFrom part? lines with
  | case1 => cases h
  | case2 part =>
      rw [List.mem_singleton.mp h]
      exact .inl ⟨rfl, [], [], rfl, by simp, by simp⟩
  | case3 line rest start hskipped ih =>
      have hrest := (ih (by simp) h).resolve_left (by simp)
      rw [Option.isSome_none, ← goesOn_of_skipped hskipped] at hrest
      exact .inr hrest.behind
  | case4 line rest start hskipped hopen ih =>
      right
      have hclosed : ∀ part ∈ some start.dropLast, isOpen part = false := by
        intro part hpart
        cases hpart
        exact isOpen_dropLast hopen
      rcases ih hclosed h with ⟨hstart, run, after, rfl, hrun⟩ | hrest
      -- the line is a lone backslash: the run begins here
      · have hline := eq_backslash_of_dropLast hopen (Option.some.inj hstart)
        exact ⟨[], line :: run, after, rfl, rfl, List.cons_ne_nil _ _, hrun.cons hline⟩
      · have hgoes : goesOn false line = true := (goesOn_begun hskipped).trans hopen
        rw [Option.isSome_some, ← hgoes] at hrest
        exact hrest.behind
  | case5 line rest start hskipped hclosed ih =>
      right
      rcases List.mem_cons.mp h with hnil | h
      · rw [← hnil] at hskipped
        exact absurd rfl hskipped
      · have hgoes : goesOn false line = false :=
          (goesOn_begun hskipped).trans (Bool.not_eq_true _ ▸ hclosed)
        have hrest := (ih (by simp) h).resolve_left (by simp)
        rw [Option.isSome_none, ← hgoes] at hrest
        exact hrest.behind
  | case6 part line rest joined hopen ih =>
      have hclosed : ∀ part ∈ some joined.dropLast, isOpen part = false := by
        intro part hpart
        cases hpart
        exact isOpen_dropLast hopen
      rcases ih hclosed h with ⟨hjoined, run, after, rfl, hrun⟩ | hrest
      -- nothing was open before, and the line adds a backslash alone to it
      · have hline := eq_backslash_of_dropLast hopen (Option.some.inj hjoined)
        rcases List.append_eq_singleton_iff.mp hline with ⟨rfl, hline⟩ | ⟨rfl, -⟩
        · exact .inl ⟨rfl, line :: run, after, rfl, hrun.cons hline⟩
        · cases hpart ['\\'] rfl
      · have hgoes : goesOn true line = true := (goesOn_joined (hpart part rfl) line).trans hopen
        rw [Option.isSome_some, ← hgoes] at hrest
        exact .inr hrest.behind
  | case7 part line rest joined hclosed ih =>
      rcases List.mem_cons.mp h with hnil | h
      · obtain ⟨rfl, hline⟩ := List.append_eq_nil_iff.mp hnil.symm
        refine .inl ⟨rfl, [], line :: rest, rfl, by simp, fun other more hother => ?_⟩
        rw [← (List.cons.inj hother).1]
        exact hline
      · have hgoes : goesOn true line = false :=
          (goesOn_joined (hpart part rfl) line).trans (Bool.not_eq_true _ ▸ hclosed)
        have hrest := (ih (by simp) h).resolve_left (by simp)
        rw [Option.isSome_none, ← hgoes] at hrest
        exact .inr hrest.behind

/-! ## 3. Texts of blank lines and lone backslashes -/

/-- Nothing comes of such lines but empty logical lines, and those come of backslashes. -/
theorem logicalFrom_of_vacant {part? : Option (List Char)} (hpart : ∀ part ∈ part?, part = [])
    {lines : List (List Char)}
    (h : ∀ line ∈ lines, trimStart line = [] ∨ trimStart line = ['\\']) :
    (∀ line ∈ logicalFrom part? lines, line = []) ∧
      (logicalFrom part? lines = [] ↔
        part? = none ∧ ∀ line ∈ lines, trimStart line ≠ ['\\']) := by
  fun_induction logicalFrom part? lines with
  | case1 => simp
  | case2 part => simpa using hpart part rfl
  | case3 line rest start hskipped ih =>
      obtain ⟨hline, hrest⟩ := List.forall_mem_cons.mp h
      obtain ⟨hempty, hnone⟩ := ih (by simp) hrest
      have hstart : start ≠ ['\\'] := by
        intro heq
        rw [heq] at hskipped
        cases hskipped
      refine ⟨hempty, hnone.trans ?_⟩
      rw [List.forall_mem_cons]
      exact and_congr_right fun _ => (and_iff_right hstart).symm
  | case4 line rest start hskipped hopen ih =>
      obtain ⟨hline, hrest⟩ := List.forall_mem_cons.mp h
      have hstart : start = ['\\'] := by
        refine hline.resolve_left fun heq => hskipped ?_
        rw [show start = [] from heq]
        rfl
      obtain ⟨hempty, hnone⟩ := ih (by simp [hstart]) hrest
      refine ⟨hempty, iff_of_false (fun heq => ?_) fun hlines => ?_⟩
      · cases (hnone.mp heq).1
      · exact hlines.2 line List.mem_cons_self hstart
  | case5 line rest start hskipped hclosed ih =>
      -- a blank line would be passed over, and a lone backslash is open
      rcases h line List.mem_cons_self with hline | hline
      · rw [show start = [] from hline] at hskipped
        exact absurd rfl hskipped
      · rw [show start = ['\\'] from hline] at hclosed
        exact absurd rfl hclosed
  | case6 part line rest joined hopen ih =>
      obtain ⟨hline, hrest⟩ := List.forall_mem_cons.mp h
      have hjoined : joined.dropLast = [] := by
        obtain rfl := hpart part rfl
        rcases hline with hline | hline <;> simp [joined, hline]
      obtain ⟨hempty, hnone⟩ := ih (by simp [hjoined]) hrest
      refine ⟨hempty, iff_of_false (fun heq => ?_) (by simp)⟩
      cases (hnone.mp heq).1
  | case7 part line rest joined hclosed ih =>
      obtain ⟨hline, hrest⟩ := List.forall_mem_cons.mp h
      obtain rfl := hpart part rfl
      have hjoined : joined = [] := by
        refine hline.resolve_right fun heq => hclosed ?_
        rw [show joined = ['\\'] from heq]
        rfl
      exact ⟨List.forall_mem_cons.mpr ⟨hjoined, (ih (by simp) hrest).1⟩, by simp⟩

/-! ## 4. Empty entries -/

/-- Only a lone backslash stands for nothing. -/
theorem eq_of_unescape_eq_nil {s : List Char} (h : unescape s = []) : s = [] ∨ s = ['\\'] := by
  revert h
  fun_cases unescape s with
  | case1 => exact fun _ => .inl rfl
  | case2 => exact fun _ => .inr rfl
  | _ => exact fun h => by cases h

/-- A line with an empty entry is empty or begins with a mark. -/
theorem mark_of_splitEntry {line : List Char} (hbegun : Begun line) (hclosed : isOpen line = false)
    (hempty : splitEntry line = ("", "")) :
    line = [] ∨ ∃ mark rest, line = mark :: rest ∧ mark ∈ ['=', ':'] := by
  have hkey : unescape (spanKey line).1 = [] :=
    String.ofList_eq_empty_iff.mp (congrArg Prod.fst hempty)
  have hends := endsKey_spanKey line
  have hline := spanKey_append line
  rcases eq_of_unescape_eq_nil hkey with hkey | hkey
  · rw [hkey, List.nil_append] at hline
    cases line with
    | nil => exact .inl rfl
    | cons c rest =>
        have hc : isSeparator c = true := (hends c rest hline).2
        have hplain : isBlank c = false := hbegun c rest rfl
        refine .inr ⟨c, rest, rfl, ?_⟩
        simpa [isSeparator, hplain] using hc
  -- a key that is a backslash would be the whole line, and that line would go on
  · rw [hkey] at hends hline
    cases hrest : (spanKey line).2 with
    | nil =>
        rw [hrest, List.append_nil] at hline
        rw [← hline] at hclosed
        cases hclosed
    | cons c rest => cases (hends c rest hrest).1

theorem splitEntry_nil : splitEntry [] = ("", "") := by
  simp [splitEntry, splitRaw, spanKey, dropSeparator, trimStart, unescape_nil]

/-- A text of blank lines and lone backslashes says nothing, or one empty entry. -/
theorem parse_of_vacant {text : String}
    (h : ∀ line ∈ physicalLines text.toList, trimStart line = [] ∨ trimStart line = ['\\']) :
    parse text =
      if ∃ line ∈ physicalLines text.toList, trimStart line = ['\\']
      then Table.ofList [("", "")] else ∅ := by
  obtain ⟨hempty, hnone⟩ := @logicalFrom_of_vacant none (by simp) _ h
  have hentries : ∀ entry ∈ entries text.toList, entry = ("", "") := by
    intro entry hentry
    obtain ⟨line, hline, rfl⟩ := List.mem_map.mp hentry
    rw [hempty line hline, splitEntry_nil]
  rw [parse]
  split
  next hlone =>
    refine Table.ofList_of_forall_eq hentries fun hnil => ?_
    obtain ⟨line, hline, hlone⟩ := hlone
    exact (hnone.mp (List.map_eq_nil_iff.mp hnil)).2 line hline hlone
  next hlone =>
    -- without a backslash there is no logical line at all
    have hlines : logicalLines text.toList = [] :=
      hnone.mpr ⟨rfl, fun line hline heq => hlone ⟨line, hline, heq⟩⟩
    rw [entries, hlines]
    rfl

/-- An empty logical line comes of a run of lone backslashes that ends in a blank line or at the end
of the text, and only of that.  A text of such lines describes an empty key and an empty value if
there is a backslash in it.  Any other entry that is empty is spelled with a mark. -/
theorem empty_entries (text : String) :
    ([] ∈ logicalLines text.toList ↔ HasBlankRun false (physicalLines text.toList)) ∧
      ((∀ line ∈ physicalLines text.toList, trimStart line = [] ∨ trimStart line = ['\\']) →
        parse text =
          if ∃ line ∈ physicalLines text.toList, trimStart line = ['\\']
          then Table.ofList [("", "")] else ∅) ∧
      ∀ line ∈ logicalLines text.toList, splitEntry line = ("", "") →
        line = [] ∨ ∃ mark rest, line = mark :: rest ∧ mark ∈ ['=', ':'] := by
  refine ⟨⟨fun h => ?_, HasBlankRun.nil_mem⟩, parse_of_vacant, fun line hline hempty => ?_⟩
  · exact (hasBlankRun_of_nil_mem (by simp) h).resolve_left (by simp)
  · obtain ⟨hbegun, hclosed⟩ := begun_of_mem_logicalLines line hline
    exact mark_of_splitEntry hbegun hclosed hempty

theorem empty_entries_backslash :
    (∀ line ∈ physicalLines " \n\\\n\n".toList, trimStart line = [] ∨ trimStart line = ['\\']) ∧
      parse " \n\\\n\n" = Table.ofList [("", "")] ∧
      [':'] ∈ logicalLines ":".toList ∧ splitEntry [':'] = ("", "") ∧
      ∃ mark rest, [':'] = mark :: rest ∧ mark ∈ ['=', ':'] := by
  have hvacant : ∀ line ∈ physicalLines " \n\\\n\n".toList,
      trimStart line = [] ∨ trimStart line = ['\\'] := by
    decide
  have hmem : [':'] ∈ logicalLines ":".toList := by decide
  have hempty : splitEntry [':'] = ("", "") := by decide +kernel
  refine ⟨hvacant, ?_, hmem, hempty, ?_⟩
  · rw [(empty_entries " \n\\\n\n").2.1 hvacant, if_pos (by decide)]
  · exact ((empty_entries ":").2.2 [':'] hmem hempty).resolve_left (List.cons_ne_nil _ _)

/-- A lone backslash that goes on in a blank line is an entry, though no line says anything. -/
theorem lone_backslash_is_entry :
    (∀ line ∈ physicalLines "\\\n\n".toList, trimStart line = [] ∨ trimStart line = ['\\']) ∧
      parse "\\\n\n" ≠ ∅ := by
  decide +kernel

end ProcessLaunch.Properties
