import ProcessLaunch.Proofs.Config.Secrets
import ProcessLaunch.Proofs.Properties.Newline
import ProcessLaunch.Proofs.Text.Pieces

/-!
# Lines of a dump

A dump shows entries as they are, so that one with a newline in it takes several lines, and these
may look like anything.  Where no entry has a newline the dump has a line for each, and where no key
has a blank in it either, those lines tell the entries.
-/

namespace ProcessLaunch.Config

open Properties (logicalLines splitEntry EscapesNewline)
open Text (pieces)

def entryLine (key text : String) : String := s!"  {key} = {text}"

def entryText (entry : String × String) : String := entryLine entry.1 (shown entry.1 entry.2)

def dumpHead : List String := [ruler '=', "Loaded Configuration:", ruler '=']

def newlines (entry : String × String) : Nat :=
  entry.1.toList.count '\n' + (shown entry.1 entry.2).toList.count '\n'

/-- No key, and nothing that is shown of a value, has a newline in it. -/
def OneLined (config : Config) : Prop :=
  ∀ entry ∈ config.entries.toList, '\n' ∉ entry.1.toList ∧ '\n' ∉ (shown entry.1 entry.2).toList

/-! ## 1. Lines -/

theorem toList_entryLine (key text : String) :
    (entryLine key text).toList =
      ' ' :: ' ' :: (key.toList ++ ' ' :: '=' :: ' ' :: text.toList) := by
  show ("  " ++ key ++ " = " ++ text).toList = _
  simp only [String.toList_append, List.append_assoc]
  rfl

theorem dumpLines_eq (config : Config) :
    config.dumpLines = dumpHead ++ config.entries.toList.map entryText ++ [ruler '='] := rfl

theorem pieces_ruler : pieces '\n' (ruler '=').toList = [(ruler '=').toList] := by
  decide +kernel

theorem pieces_dumpHead :
    dumpHead.flatMap (fun line => pieces '\n' line.toList) = dumpHead.map String.toList := by
  decide +kernel

theorem pieces_dump (config : Config) :
    pieces '\n' config.dump.toList =
      dumpHead.map String.toList ++
        config.entries.toList.flatMap (fun entry => pieces '\n' (entryText entry).toList) ++
          [(ruler '=').toList] := by
  have hne : config.dumpLines.map String.toList ≠ [] := by simp [dumpLines_eq, dumpHead]
  have hseparator : "\n".toList = ['\n'] := rfl
  rw [dump, String.toList_intercalate, hseparator, Text.pieces_intercalate _ hne, List.flatMap_map,
    dumpLines_eq, List.flatMap_append, List.flatMap_append, pieces_dumpHead, List.flatMap_map,
    List.flatMap_singleton, pieces_ruler]

theorem count_entryText (entry : String × String) :
    (entryText entry).toList.count '\n' = newlines entry := by
  rw [entryText, toList_entryLine, newlines]
  simp [List.count_append]

/-- A dump has three lines in front, one behind, and one for each entry and for each newline in it.
-/
theorem length_pieces_dump (config : Config) :
    (pieces '\n' config.dump.toList).length =
      config.size + 4 + (config.entries.toList.map newlines).sum := by
  have hentries : (config.entries.toList.flatMap fun entry =>
      pieces '\n' (entryText entry).toList).length =
        config.size + (config.entries.toList.map newlines).sum := by
    rw [List.length_flatMap, size, Table.size]
    induction config.entries.toList with
    | nil => rfl
    | cons entry rest ih =>
        rw [List.map_cons, List.sum_cons, ih, Text.length_pieces, count_entryText, List.map_cons,
          List.sum_cons, List.length_cons]
        omega
  -- three lines above the entries and one below
  rw [pieces_dump, List.length_append, List.length_append, hentries, List.length_map]
  simp only [dumpHead, List.length_cons, List.length_nil]
  omega

/-! ## 2. A line for each entry -/

theorem oneLined_iff (config : Config) :
    config.OneLined ↔ (config.entries.toList.map newlines).sum = 0 := by
  rw [List.sum_eq_zero_iff_forall_eq_nat, List.forall_mem_map]
  refine forall₂_congr fun entry _ => ?_
  rw [newlines, Nat.add_eq_zero_iff, List.count_eq_zero, List.count_eq_zero]

/-- Without such newlines the lines of the dump are those that it is made of. -/
theorem OneLined.pieces_dump_eq {config : Config} (h : config.OneLined) :
    pieces '\n' config.dump.toList = config.dumpLines.map String.toList := by
  have hpieces : ∀ entry ∈ config.entries.toList,
      pieces '\n' (entryText entry).toList = [(entryText entry).toList] := by
    intro entry hentry
    refine Text.pieces_of_not_mem ?_
    obtain ⟨hkey, hshown⟩ := h entry hentry
    rw [← List.count_eq_zero, count_entryText, newlines, List.count_eq_zero.mpr hkey,
      List.count_eq_zero.mpr hshown]
  rw [pieces_dump, dumpLines_eq, List.flatMap_congr hpieces, List.map_append, List.map_append,
    List.map_map, ← List.map_eq_flatMap]
  rfl

theorem pieces_dump_eq_iff (config : Config) :
    pieces '\n' config.dump.toList = config.dumpLines.map String.toList ↔ config.OneLined := by
  refine ⟨fun h => ?_, OneLined.pieces_dump_eq⟩
  have hlength := congrArg List.length h
  have hlines : config.dumpLines.length = config.size + 4 := by
    simp [dumpLines_eq, dumpHead, size, Table.size]
  rw [length_pieces_dump, List.length_map, hlines] at hlength
  rw [oneLined_iff]
  omega

/-- What no line of the text escapes is not shown. -/
theorem oneLined_parse {name text : String}
    (h : ∀ line ∈ logicalLines text.toList, ¬EscapesNewline line) : (parse name text).OneLined := by
  intro entry hentry
  obtain ⟨key, value⟩ := entry
  have hmem : (key, value) ∈ Properties.entries text.toList :=
    Table.mem_of_get?_ofList ((Table.get?_eq_some_iff _ _ _).mpr hentry)
  obtain ⟨line, hline, heq⟩ := List.mem_map.mp hmem
  have hplain := (Properties.newline_mem_splitEntry_iff
    (Properties.newline_notMem_logicalLines hline)).not.mpr (h line hline)
  rw [heq, not_or] at hplain
  refine ⟨hplain.1, ?_⟩
  show '\n' ∉ (shown key value).toList
  unfold shown
  split
  -- a value that must not be seen may have newlines in it
  · decide
  · exact hplain.2

/-! ## 3. Reading a dump -/

/-- Where keys have no blank, the first one ends the key, so a line tells its entry. -/
theorem entryLine_inj {key key' text text' : String} (hkey : ' ' ∉ key.toList)
    (hkey' : ' ' ∉ key'.toList) (h : entryLine key text = entryLine key' text') :
    key = key' ∧ text = text' := by
  have hlist := congrArg String.toList h
  rw [toList_entryLine, toList_entryLine] at hlist
  have hbehind := (List.cons.inj (List.cons.inj hlist).2).2
  obtain ⟨hkeys, htexts⟩ := Text.append_separator_inj hkey hkey' hbehind
  exact ⟨String.toList_inj.mp hkeys,
    String.toList_inj.mp (List.cons.inj (List.cons.inj htexts).2).2⟩

theorem entryLine_notMem_dumpHead (key text : String) : entryLine key text ∉ dumpHead := by
  have hhead : ∀ line ∈ dumpHead, line.toList.head? ≠ some ' ' := by decide +kernel
  intro hmem
  refine hhead _ hmem ?_
  rw [toList_entryLine, List.head?_cons]

/-- The lines of a dump are those of its entries, and no others look like the line of an entry. -/
theorem OneLined.mem_pieces_dump_iff {config : Config} (h : config.OneLined)
    (hkeys : ∀ key ∈ config.keys, ' ' ∉ key.toList) {key text : String} (hkey : ' ' ∉ key.toList) :
    (entryLine key text).toList ∈ pieces '\n' config.dump.toList ↔
      ∃ value, config.get? key = some value ∧ text = shown key value := by
  -- what frames the entries does not begin with a blank
  have hhead := entryLine_notMem_dumpHead key text
  have hruler : entryLine key text ≠ ruler '=' := by
    intro heq
    rw [heq] at hhead
    exact hhead List.mem_cons_self
  have hinjective : Function.Injective String.toList := fun _ _ heq => String.toList_inj.mp heq
  rw [h.pieces_dump_eq, List.mem_map_of_injective hinjective, dumpLines_eq,
    List.mem_append, List.mem_append, or_iff_right hhead, List.mem_singleton, or_iff_left hruler,
    List.mem_map]
  constructor
  · rintro ⟨⟨key', value⟩, hentry, heq⟩
    have hkey' := hkeys key' (List.mem_map_of_mem hentry)
    obtain ⟨rfl, rfl⟩ := entryLine_inj hkey' hkey heq
    exact ⟨value, (Table.get?_eq_some_iff _ _ _).mpr hentry, rfl⟩
  · rintro ⟨value, hvalue, rfl⟩
    exact ⟨(key, value), (Table.get?_eq_some_iff _ _ _).mp hvalue, rfl⟩

/-- A dump has its entries in the order of their keys, each on as many lines as there are in it.  It
has a line for each exactly if nothing that is shown has a newline in it, which only a text with an
escaped newline can bring about; and if no key has a blank in it either, nothing else looks like an
entry. -/
theorem dump_lines (config : Config) :
    (∀ key value, shown key value = if NamesSecret key then redacted else value) ∧
      config.entries.toList.Pairwise (fun a b => a.1 < b.1) ∧
      pieces '\n' config.dump.toList =
        dumpHead.map String.toList ++
          config.entries.toList.flatMap (fun entry => pieces '\n' (entryText entry).toList) ++
            [(ruler '=').toList] ∧
      (pieces '\n' config.dump.toList).length =
        config.size + 4 + (config.entries.toList.map newlines).sum ∧
      (pieces '\n' config.dump.toList = config.dumpLines.map String.toList ↔ config.OneLined) ∧
      (config.OneLined → (∀ key ∈ config.keys, ' ' ∉ key.toList) →
        ∀ key text : String, ' ' ∉ key.toList →
          ((entryLine key text).toList ∈ pieces '\n' config.dump.toList ↔
            ∃ value, config.get? key = some value ∧ text = shown key value)) ∧
      (∀ text : String, ∀ line ∈ logicalLines text.toList,
        ('\n' ∈ (splitEntry line).1.toList ∨ '\n' ∈ (splitEntry line).2.toList ↔
          EscapesNewline line)) ∧
      ∀ name text : String, (∀ line ∈ logicalLines text.toList, ¬EscapesNewline line) →
        (parse name text).OneLined := by
  refine ⟨fun key value => ?_, config.entries.sorted, pieces_dump config, length_pieces_dump config,
    pieces_dump_eq_iff config, fun h hkeys key text hkey => h.mem_pieces_dump_iff hkeys hkey,
    fun text line hline =>
      Properties.newline_mem_splitEntry_iff (Properties.newline_notMem_logicalLines hline),
    fun name text => oneLined_parse⟩
  rw [shown]
  simp only [isSensitive_iff]

theorem dump_lines_plain :
    (∀ line ∈ logicalLines "b:2\na=1\n".toList, ¬EscapesNewline line) ∧
      (∀ key ∈ (parse "inline" "b:2\na=1\n").keys, ' ' ∉ key.toList) ∧
      (parse "inline" "b:2\na=1\n").OneLined ∧
      (entryLine "b" "2").toList ∈ pieces '\n' (parse "inline" "b:2\na=1\n").dump.toList := by
  have hlines : logicalLines "b:2\na=1\n".toList = ["b:2".toList, "a=1".toList] := by
    decide +kernel
  have hplain : ∀ line ∈ logicalLines "b:2\na=1\n".toList, ¬EscapesNewline line := by
    intro line hline
    have hnewline := Properties.newline_notMem_logicalLines hline
    rw [← Properties.newline_mem_unescape_iff hnewline]
    revert line
    rw [hlines]
    decide +kernel
  have hkeys : ∀ key ∈ (parse "inline" "b:2\na=1\n").keys, ' ' ∉ key.toList := by
    decide +kernel
  -- the text is read once, by the kernel; the rest is the general theorem
  obtain ⟨-, -, -, -, -, hentries, -, hparse⟩ := dump_lines (parse "inline" "b:2\na=1\n")
  have honeLined := hparse "inline" "b:2\na=1\n" hplain
  refine ⟨hplain, hkeys, honeLined, (hentries honeLined hkeys "b" "2" (by decide)).mpr ?_⟩
  exact ⟨"2", by decide +kernel, by decide +kernel⟩

def sampleText : String := "a=1\\n  b = 2\n"

/-- The dump of one entry shows two, and the key of the other one is nowhere. -/
theorem newline_forges_entry :
    (parse "inline" sampleText).size = 1 ∧
      (pieces '\n' (parse "inline" sampleText).dump.toList).length = 6 ∧
      (entryLine "a" "1").toList ∈ pieces '\n' (parse "inline" sampleText).dump.toList ∧
      (entryLine "b" "2").toList ∈ pieces '\n' (parse "inline" sampleText).dump.toList ∧
      (parse "inline" sampleText).get? "b" = none := by
  have hentries : (parse "inline" sampleText).entries.toList = [("a", "1\n  b = 2")] := by
    decide +kernel
  have hsize : (parse "inline" sampleText).size = 1 := by
    rw [size, Table.size, hentries]
    rfl
  have hpieces : pieces '\n' (entryText ("a", "1\n  b = 2")).toList =
      [(entryLine "a" "1").toList, (entryLine "b" "2").toList] := by
    decide +kernel
  refine ⟨hsize, ?_, ?_, ?_, ?_⟩
  · rw [length_pieces_dump, hsize, hentries]
    decide +kernel
  · rw [pieces_dump, hentries, List.flatMap_singleton, hpieces]
    simp
  · rw [pieces_dump, hentries, List.flatMap_singleton, hpieces]
    simp
  · rw [get?, Table.get?, hentries]
    decide +kernel

end ProcessLaunch.Config
