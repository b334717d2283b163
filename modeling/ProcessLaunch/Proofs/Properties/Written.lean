import ProcessLaunch.Config.Basic
import ProcessLaunch.Proofs.Properties.Split
import ProcessLaunch.Proofs.Table

/-!
# Written entries

A list of entries is written as one line for each: the key, an equals sign or a colon with blanks
around it, the value.  However key and value are spelled, reading the lines gives the entries back.
-/

namespace ProcessLaunch.Properties

open Text (isBlank trimStart trimStart_append trimStart_cons)

def Blanks (s : List Char) : Prop := ∀ c ∈ s, isBlank c = true ∧ c ≠ '\n'

/-- A spelled key and a spelled value on a line, without the newline at its end: between them an
equals sign or a colon, with any blanks around it. -/
inductive EntryLine (k v : List Char) : List Char → Prop
  | mk {before after : List Char} {separator : Char} (hbefore : Blanks before)
      (hseparator : separator ∈ ['=', ':']) (hafter : Blanks after) :
      EntryLine k v (k ++ before ++ separator :: after ++ v)

inductive WritesEntry : String × String → List Char → Prop
  | mk {key value : String} {k v line : List Char} (hkey : Spells key.toList k)
      (hvalue : Spells value.toList v) (hline : EntryLine k v line) : WritesEntry (key, value) line

inductive Writes : List (String × String) → List Char → Prop
  | nil : Writes [] []
  | cons {entry : String × String} {entries : List (String × String)} {line text : List Char}
      (hline : WritesEntry entry line) (htext : Writes entries text) :
      Writes (entry :: entries) (line ++ '\n' :: text)

/-! ## 1. Everything can be written -/

theorem exists_spellsChar (c : Char) : ∃ s, SpellsChar c s := by
  by_cases hnewline : c = '\n'
  · exact ⟨_, hnewline ▸ SpellsChar.newline⟩
  by_cases hreturn : c = '\r'
  · exact ⟨_, hreturn ▸ SpellsChar.carriageReturn⟩
  -- behind a backslash these five would be letters of control characters or begin a unit
  by_cases hletter : c ∈ ['t', 'n', 'r', 'f', 'u']
  · refine ⟨[c], .plain ?_ ?_⟩ <;> revert hletter <;> simp only [List.mem_cons] <;>
      rintro (rfl | rfl | rfl | rfl | rfl | h) <;> first | decide | cases h
  · exact ⟨['\\', c], .escaped (by simp_all)⟩

theorem exists_spells (cs : List Char) : ∃ s, Spells cs s := by
  induction cs with
  | nil => exact ⟨[], .nil⟩
  | cons c cs ih =>
      obtain ⟨s, hs⟩ := exists_spellsChar c
      obtain ⟨t, ht⟩ := ih
      exact ⟨s ++ t, .cons hs ht⟩

theorem exists_writes (entries : List (String × String)) : ∃ text, Writes entries text := by
  induction entries with
  | nil => exact ⟨[], .nil⟩
  | cons entry entries ih =>
      obtain ⟨k, hk⟩ := exists_spells entry.1.toList
      obtain ⟨v, hv⟩ := exists_spells entry.2.toList
      obtain ⟨text, htext⟩ := ih
      have hnone : Blanks [] := fun c hc => absurd hc List.not_mem_nil
      exact ⟨_, .cons (.mk hk hv (.mk hnone (List.mem_cons_self ..) hnone)) htext⟩

/-! ## 2. Reading one line -/

theorem ne_of_separator {c d : Char} (hc : c ∈ ['=', ':']) (hd : d ∉ ['=', ':']) : c ≠ d :=
  fun h => hd (h ▸ hc)

theorem isOpen_of_blanks {s : List Char} (h : Blanks s) (t : List Char) :
    isOpen (s ++ t) = isOpen t := by
  induction s with
  | nil => rfl
  | cons c s ih =>
      have hc : c ≠ '\\' := by
        rintro rfl
        exact absurd (h _ (List.mem_cons_self ..)).1 (by decide)
      rw [List.cons_append, isOpen_cons hc, ih fun d hd => h d (List.mem_cons_of_mem _ hd)]

/-- Of what stands between key and value nothing belongs to the key. -/
theorem spanKey_between {before : List Char} {separator : Char} (hbefore : Blanks before)
    (hseparator : separator ∈ ['=', ':']) (rest : List Char) :
    spanKey (before ++ separator :: rest) = ([], before ++ separator :: rest) := by
  cases before with
  | nil =>
      apply spanKey_of_separator
      simp only [List.mem_cons, List.not_mem_nil, or_false] at hseparator
      rcases hseparator with rfl | rfl <;> rfl
  | cons c before =>
      apply spanKey_of_separator
      simp [isSeparator, (hbefore c List.mem_cons_self).1]

/-- The mark between key and value is dropped with all the blanks around it. -/
theorem dropSeparator_between {before after : List Char} {separator : Char}
    (hbefore : Blanks before) (hseparator : separator ∈ ['=', ':']) (hafter : Blanks after)
    (v : List Char) : dropSeparator (before ++ separator :: (after ++ v)) = trimStart v := by
  rw [dropSeparator_mark (fun c hc => (hbefore c hc).1) hseparator,
    trimStart_append fun c hc => (hafter c hc).1]

namespace EntryLine

variable {k v line : List Char}

/-- An entry stands on one line. -/
theorem newline_notMem (h : EntryLine k v line) (hk : Guarded k) (hv : Guarded v) :
    '\n' ∉ line := by
  cases h with
  | @mk before after separator hbefore hseparator hafter =>
      have hbefore : '\n' ∉ before := fun h => (hbefore _ h).2 rfl
      have hafter : '\n' ∉ after := fun h => (hafter _ h).2 rfl
      have hseparator : '\n' ≠ separator := (ne_of_separator hseparator (by decide)).symm
      simp [hk.newline_notMem, hv.newline_notMem, hbefore, hafter, hseparator]

/-- A carriage return before the line end is one of the blanks behind the separator. -/
theorem withoutReturn (h : EntryLine k v line) (hv : Guarded v) :
    EntryLine k v (withoutReturn line) := by
  cases h with
  | @mk before after separator hbefore hseparator hafter =>
      by_cases hempty : v = []
      -- only an empty value lets a blank of the line come before its end
      · subst hempty
        have hreturn : separator ≠ '\r' := ne_of_separator hseparator (by decide)
        have hafter' : Blanks (Properties.withoutReturn after) :=
          fun c hc => hafter c (withoutReturn_subset _ hc)
        rw [List.append_nil, withoutReturn_append (List.cons_ne_nil _ _),
          withoutReturn_cons (.inl hreturn)]
        simpa using EntryLine.mk (k := k) (v := []) hbefore hseparator hafter'
      · rw [withoutReturn_append hempty, hv.withoutReturn_eq]
        exact .mk hbefore hseparator hafter

/-- Blanks in front of the separator go away where there is no key. -/
theorem trimStart (h : EntryLine k v line) (hk : Guarded k) : EntryLine k v (trimStart line) := by
  cases h with
  | @mk before after separator hbefore hseparator hafter =>
      cases hk with
      -- an empty key: the blanks before the separator are at the front of the line
      | nil =>
          rw [List.nil_append, List.append_assoc, trimStart_append fun c hc => (hbefore c hc).1,
            List.cons_append, trimStart_cons (isBlank_separator hseparator)]
          have hnone : Blanks [] := fun c hc => absurd hc List.not_mem_nil
          exact .mk hnone hseparator hafter
      | plain hblank _ _ =>
          rw [List.cons_append, List.cons_append, List.cons_append, trimStart_cons hblank]
          exact .mk hbefore hseparator hafter
      | escaped _ _ =>
          rw [List.cons_append, List.cons_append, List.cons_append, trimStart_cons (by decide)]
          exact .mk hbefore hseparator hafter

/-- No line of an entry is blank or a comment. -/
theorem isSkipped_trimStart (h : EntryLine k v line) (hk : Guarded k) :
    isSkipped (Text.trimStart line) = false := by
  cases h with
  | @mk before after separator hbefore hseparator hafter =>
      -- an empty key leaves the separator at the front, and that is no comment mark
      cases hk with
      | nil =>
          have hhash : separator ≠ '#' := ne_of_separator hseparator (by decide)
          have hbang : separator ≠ '!' := ne_of_separator hseparator (by decide)
          rw [List.nil_append, List.append_assoc, trimStart_append fun c hc => (hbefore c hc).1,
            List.cons_append, trimStart_cons (isBlank_separator hseparator)]
          simp [isSkipped, hhash, hbang]
      | plain hblank hmark _ =>
          rw [List.cons_append, List.cons_append, List.cons_append, trimStart_cons hblank]
          simp only [List.mem_cons, List.not_mem_nil, or_false, not_or] at hmark
          simp [isSkipped, hmark]
      | escaped _ _ =>
          rw [List.cons_append, List.cons_append, List.cons_append, trimStart_cons (by decide)]
          rfl

/-- No line of an entry goes on. -/
theorem isOpen_eq_false (h : EntryLine k v line) (hv : Guarded v) : isOpen line = false := by
  cases h with
  | @mk before after separator hbefore hseparator hafter =>
      rw [List.append_assoc, List.cons_append,
        isOpen_append_cons (ne_of_separator hseparator (by decide)), isOpen_of_blanks hafter,
        hv.isOpen_eq_false]

theorem splitRaw_eq (h : EntryLine k v line) (hk : Guarded k) (hv : Guarded v) :
    splitRaw line = (k, v) := by
  cases h with
  | @mk before after separator hbefore hseparator hafter =>
      -- the key ends at the first bare separator or blank, and a guarded key shows neither
      rw [List.append_assoc, List.append_assoc, List.cons_append, splitRaw, hk.spanKey_append,
        spanKey_between hbefore hseparator]
      simp only [List.append_nil, dropSeparator_between hbefore hseparator hafter, hv.trimStart_eq]

end EntryLine

/-! ## 3. Reading all lines -/

/-- A written line is one logical line, and it holds its entry. -/
theorem logicalFrom_of_writesEntry {entry : String × String} {line : List Char}
    (h : WritesEntry entry line) (rest : List (List Char)) :
    ∃ logical, splitEntry logical = entry ∧
      logicalFrom none (withoutReturn line :: rest) = logical :: logicalFrom none rest := by
  obtain ⟨hkey, hvalue, hline⟩ := h
  have hk := guarded_of_spells hkey
  have hv := guarded_of_spells hvalue
  have hline := hline.withoutReturn hv
  refine ⟨_, ?_, logicalFrom_closed (hline.isSkipped_trimStart hk)
    ((hline.trimStart hk).isOpen_eq_false hv) rest⟩
  rw [splitEntry, (hline.trimStart hk).splitRaw_eq hk hv]
  simp only [unescape_of_spells hkey, unescape_of_spells hvalue, String.ofList_toList]

/-- The lines give the entries back, in order. -/
theorem entries_of_writes {pairs : List (String × String)} {text : List Char}
    (h : Writes pairs text) : entries text = pairs := by
  -- by induction on the lines: each is one physical and one logical line
  induction h with
  | nil => rfl
  | @cons entry pairs line text hline _ ih =>
      obtain ⟨logical, hentry, hlogical⟩ :=
        logicalFrom_of_writesEntry hline (physicalLines text)
      have hnewline : '\n' ∉ line := by
        obtain ⟨hkey, hvalue, hline⟩ := hline
        exact hline.newline_notMem (guarded_of_spells hkey) (guarded_of_spells hvalue)
      rw [entries, logicalLines, physicalLines_append hnewline, hlogical, List.map_cons, hentry]
      exact congrArg (entry :: ·) ih

/-- Every list of entries can be written, and however it is written, reading gives the table that
it fills: each key has its last value, and no other key has one. -/
theorem parse_of_writes (pairs : List (String × String)) :
    (∃ text, Writes pairs text) ∧
    ∀ text, Writes pairs text → ∀ name : String,
      parse (String.ofList text) = Table.ofList pairs ∧
      ∀ key,
        (Config.parse name (String.ofList text)).get? key = pairs.reverse.lookup key ∧
        ((Config.parse name (String.ofList text)).contains key = true ↔
          key ∈ pairs.map Prod.fst) := by
  refine ⟨exists_writes pairs, fun text h name => ?_⟩
  have hparse : parse (String.ofList text) = Table.ofList pairs := by
    rw [parse, String.toList_ofList, entries_of_writes h]
  refine ⟨hparse, fun key => ?_⟩
  rw [Config.get?, Config.contains, Config.parse, hparse]
  exact ⟨Table.get?_ofList pairs key, Table.contains_ofList pairs key⟩

/-- Two lines with one key, spelled in different ways, and a value outside the basic plane. -/
theorem parse_of_writes_pair :
    Writes [("k", "="), ("k", "😀")] "k :\\=\n\\u006b= \\uD83D\\ude00\n".toList ∧
      (Config.parse "p" (String.ofList "k :\\=\n\\u006b= \\uD83D\\ude00\n".toList)).get? "k" =
        some "😀" := by
  have hnone : Blanks [] := fun c hc => absurd hc List.not_mem_nil
  have hspace : Blanks [' '] := by
    intro c hc
    rw [List.mem_singleton.mp hc]
    decide
  have hplain : Spells ['k'] ['k'] := .cons (.plain (by decide) (by decide)) .nil
  have hequals : Spells ['='] ['\\', '='] := .cons (.escaped (by decide)) .nil
  have hunit : SpellsUnit 0x6b ['\\', 'u', '0', '0', '6', 'b'] :=
    .digits (a := 0) (b := 0) (c := 6) (d := 11) (by decide) (by decide) (by decide) (by decide)
  have hhigh : SpellsUnit 0xd83d ['\\', 'u', 'D', '8', '3', 'D'] :=
    .digits (a := 13) (b := 8) (c := 3) (d := 13) (by decide) (by decide) (by decide) (by decide)
  have hlow : SpellsUnit 0xde00 ['\\', 'u', 'd', 'e', '0', '0'] :=
    .digits (a := 13) (b := 14) (c := 0) (d := 0) (by decide) (by decide) (by decide) (by decide)
  have hkey : Spells ['k'] ['\\', 'u', '0', '0', '6', 'b'] :=
    .cons (.units (c := 'k') (.cons hunit .nil)) .nil
  have hface : Spells ['😀'] ['\\', 'u', 'D', '8', '3', 'D', '\\', 'u', 'd', 'e', '0', '0'] :=
    .cons (.units (c := '😀') (.cons hhigh (.cons hlow .nil))) .nil
  have hfirst : WritesEntry ("k", "=") ['k', ' ', ':', '\\', '='] :=
    .mk hplain hequals (.mk hspace (by decide) hnone)
  have hsecond : WritesEntry ("k", "😀") (['\\', 'u', '0', '0', '6', 'b', '=', ' '] ++
      ['\\', 'u', 'D', '8', '3', 'D', '\\', 'u', 'd', 'e', '0', '0']) :=
    .mk hkey hface (.mk hnone (by decide) hspace)
  -- the second line overrides the first, which has the same key in another spelling
  have hwrites : Writes [("k", "="), ("k", "😀")] "k :\\=\n\\u006b= \\uD83D\\ude00\n".toList :=
    .cons hfirst (.cons hsecond .nil)
  refine ⟨hwrites, ?_⟩
  rw [(((parse_of_writes _).2 _ hwrites "p").2 "k").1]
  rfl

end ProcessLaunch.Properties
