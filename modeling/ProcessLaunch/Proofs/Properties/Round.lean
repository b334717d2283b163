import Mathlib.Data.List.DropRight
import Mathlib.Logic.Relation
import ProcessLaunch.Proofs.Properties.Blank

/-!
# Round after round

Unescaping takes a text from the left, one character or one escape in a round.  A backslash with
nothing behind it is what it comes to at the end of an open text, and of no other.  Logical lines
are closed, and so are the parts that they are split into.
-/

namespace ProcessLaunch.Properties

open Text

/-- One round: what the text is before it, what is put out in it, and what is left. -/
inductive Round : List Char → List Char → List Char → Prop
  | plain {c : Char} (h : c ≠ '\\') (rest : List Char) : Round (c :: rest) [c] rest
  | dangling : Round ['\\'] [] []
  | escaped {c : Char} (h : c ≠ 'u') (rest : List Char) :
      Round ('\\' :: c :: rest) [escaped c] rest
  | malformed {rest : List Char} (h : readUnit? rest = none) :
      Round ('\\' :: 'u' :: rest) ['\\', 'u'] rest
  | unit {rest after : List Char} {unit : Nat} (hunit : readUnit? rest = some (unit, after))
      (hhigh : isHighSurrogate unit = false) (hlow : isLowSurrogate unit = false) :
      Round ('\\' :: 'u' :: rest) [Char.ofNat unit] after
  | pair {rest after beyond : List Char} {high low : Nat}
      (hunit : readUnit? rest = some (high, after)) (hhigh : isHighSurrogate high = true)
      (hlow : readLowSurrogate? after = some (low, beyond)) :
      Round ('\\' :: 'u' :: rest) [surrogatePair high low] beyond
  | unpaired {rest after : List Char} {unit : Nat} (hunit : readUnit? rest = some (unit, after))
      (h : isHighSurrogate unit = true ∧ readLowSurrogate? after = none ∨
        isHighSurrogate unit = false ∧ isLowSurrogate unit = true) :
      Round ('\\' :: 'u' :: rest) ('\\' :: 'u' :: rest.take 4) after

def Reaches : List Char → List Char → Prop :=
  Relation.ReflTransGen fun s t => ∃ out, Round s out t

/-- A scanner that remembers whether the character before was a backslash that is not itself passed
over, and passes over the next one if so.  It may stop at certain characters.  The result is what it
remembers, and what it has not scanned. -/
def scan (stops : Char → Bool) : Bool → List Char → Bool × List Char
  | passing, [] => (passing, [])
  | true, _ :: rest => scan stops false rest
  | false, c :: rest =>
      if c = '\\' then scan stops true rest
      else if stops c then (false, c :: rest)
      else scan stops false rest

/-! ## 1. One round -/

/-- A round puts out the beginning of what unescaping gives. -/
theorem Round.unescape_eq {s out rest : List Char} (h : Round s out rest) :
    unescape s = out ++ unescape rest := by
  cases h with
  | plain h => exact unescape_cons h rest
  | dangling => rw [unescape_nil, List.append_nil, unescape]
  | escaped h => exact unescape_escaped h rest
  | malformed h => exact unescape_malformed h
  | unit hunit hhigh hlow => exact unescape_unit hunit hhigh hlow
  | pair hunit hhigh hlow => exact unescape_pair hunit hhigh hlow
  | unpaired hunit h => exact unescape_unpaired hunit h

/-- Every round takes something. -/
theorem Round.length_lt {s out rest : List Char} (h : Round s out rest) :
    rest.length < s.length := by
  -- one case for each way in which a round can go
  cases h with
  | plain h => exact Nat.lt_succ_self _
  | dangling => exact Nat.one_pos
  | escaped h => exact Nat.lt_add_of_pos_right Nat.two_pos
  | malformed h => exact Nat.lt_add_of_pos_right Nat.two_pos
  | unit hunit hhigh hlow =>
      have hlength := length_of_readUnit? hunit
      simp only [List.length_cons]
      omega
  | pair hunit hhigh hlow =>
      have hlength := length_of_readUnit? hunit
      have hlength' := length_of_readLowSurrogate? hlow
      simp only [List.length_cons]
      omega
  | unpaired hunit h =>
      have hlength := length_of_readUnit? hunit
      simp only [List.length_cons]
      omega

theorem exists_round_unit (rest : List Char) :
    ∃ out after, Round ('\\' :: 'u' :: rest) out after := by
  cases hunit : readUnit? rest with
  | none => exact ⟨_, _, .malformed hunit⟩
  | some read =>
      obtain ⟨unit, after⟩ := read
      by_cases hhigh : isHighSurrogate unit = true
      · cases hlow : readLowSurrogate? after with
        | none => exact ⟨_, _, .unpaired hunit (.inl ⟨hhigh, hlow⟩)⟩
        | some read => exact ⟨_, _, .pair hunit hhigh hlow⟩
      · rw [Bool.not_eq_true] at hhigh
        by_cases hlow : isLowSurrogate unit = true
        · exact ⟨_, _, .unpaired hunit (.inr ⟨hhigh, hlow⟩)⟩
        · rw [Bool.not_eq_true] at hlow
          exact ⟨_, _, .unit hunit hhigh hlow⟩

/-- As long as there is text there is another round. -/
theorem exists_round {s : List Char} (h : s ≠ []) : ∃ out rest, Round s out rest := by
  obtain ⟨c, rest, rfl⟩ := List.exists_cons_of_ne_nil h
  by_cases hc : c = '\\'
  · subst hc
    cases rest with
    | nil => exact ⟨_, _, .dangling⟩
    | cons d rest =>
        by_cases hd : d = 'u'
        · subst hd
          exact exists_round_unit rest
        · exact ⟨_, _, .escaped hd rest⟩
  · exact ⟨_, _, .plain hc rest⟩

/-- A round begins and ends at unescaped places: what is left is open if the text was.  Only a lone
backslash is used up though nothing stands behind it. -/
theorem Round.endsEscaped_eq {s out rest : List Char} (h : Round s out rest) (hs : s ≠ ['\\']) :
    endsEscaped rest = endsEscaped s := by
  -- the six characters of a unit leave no backslash to remember
  have hread {text after : List Char} {unit : Nat} (hunit : readUnit? text = some (unit, after)) :
      endsEscaped after = endsEscaped ('\\' :: 'u' :: text) := by
    obtain ⟨digits, hspells, rfl⟩ := readUnit?_eq_some_iff.mp hunit
    exact (endsEscaped_of_spellsUnit hspells after).symm
  cases h with
  | plain h => exact (endsEscaped_cons h rest).symm
  | dangling => exact absurd rfl hs
  | escaped h => rfl
  | malformed h => rfl
  | unit hunit hhigh hlow => exact hread hunit
  | pair hunit hhigh hlow =>
      obtain ⟨-, spelled, hspells, rfl⟩ := readLowSurrogate?_eq_some_iff.mp hlow
      rw [← hread hunit, endsEscaped_of_spellsUnit hspells]
  | unpaired hunit h => exact hread hunit

/-! ## 2. All rounds -/

/-- What has been put out so far is the beginning of the result. -/
theorem Reaches.exists_output {s t : List Char} (h : Reaches s t) :
    ∃ before, unescape s = before ++ unescape t := by
  induction h with
  | refl => exact ⟨[], rfl⟩
  | tail _ hround ih =>
      obtain ⟨before, hbefore⟩ := ih
      obtain ⟨out, hround⟩ := hround
      refine ⟨before ++ out, ?_⟩
      rw [hbefore, hround.unescape_eq, List.append_assoc]

/-- The rounds come to a lone backslash exactly if they start at an open text. -/
theorem reaches_backslash_iff {s : List Char} : Reaches s ['\\'] ↔ endsEscaped s = true := by
  constructor
  · intro h
    induction h using Relation.ReflTransGen.head_induction_on with
    | refl => rfl
    | @head s t hround _ ih =>
        obtain ⟨out, hround⟩ := hround
        by_cases hs : s = ['\\']
        · rw [hs]
          rfl
        · rw [← hround.endsEscaped_eq hs]
          exact ih
  -- each round makes an open text shorter, and it stays open until the backslash is alone
  · intro h
    induction hlength : s.length using Nat.strong_induction_on generalizing s with
    | _ n ih =>
        by_cases hs : s = ['\\']
        · rw [hs]
          exact .refl
        have hne : s ≠ [] := by
          rintro rfl
          cases h
        obtain ⟨out, rest, hround⟩ := exists_round hne
        have hrest : endsEscaped rest = true := (hround.endsEscaped_eq hs).trans h
        exact .head ⟨out, hround⟩ (ih rest.length (hlength ▸ hround.length_lt) hrest rfl)

/-! ## 3. Scanning -/

/-- A scanner that does not stop remembers a backslash at the end of an open text. -/
theorem scan_all (s : List Char) : scan (fun _ => false) false s = (isOpen s, []) := by
  rw [isOpen_eq_endsEscaped]
  fun_induction endsEscaped s with
  | case1 => rfl
  | case2 => rfl
  | case3 c rest ih => exact ih
  | case4 c rest hlast hmore ih =>
      rw [scan, if_neg (ne_backslash hlast hmore), if_neg Bool.false_ne_true]
      exact ih

/-- The scanner for separators stops where the key ends. -/
theorem scan_isSeparator (line : List Char) :
    scan isSeparator false line = (isOpen (spanKey line).1, (spanKey line).2) := by
  rw [isOpen_eq_endsEscaped]
  fun_induction spanKey line with
  | case1 => rfl
  | case2 => rfl
  -- an escaped character is passed over by both
  | case3 c rest key value heq ih =>
      rw [heq] at ih
      exact ih
  | case4 c rest hlast hmore hseparator =>
      rw [scan, if_neg (ne_backslash hlast hmore), if_pos hseparator]
      rfl
  | case5 c rest hlast hmore hplain key value heq ih =>
      have hc := ne_backslash hlast hmore
      rw [heq] at ih
      rw [scan, if_neg hc, if_neg hplain, endsEscaped_cons hc]
      exact ih

/-! ## 4. Lines and their parts -/

theorem isOpen_eq_false_iff {s : List Char} :
    isOpen s = false ↔ Even (s.rtakeWhile (· == '\\')).length := by
  rw [isOpen, beq_eq_false_iff_ne, Nat.even_iff, List.rtakeWhile, List.length_reverse]
  omega

theorem isOpen_of_notMem {s : List Char} (h : '\\' ∉ s) : isOpen s = false := by
  induction s with
  | nil => rfl
  | cons c s ih =>
      rw [List.mem_cons, not_or] at h
      rw [isOpen_cons (Ne.symm h.1), ih h.2]

/-- The parts of a closed line are closed. -/
theorem IsSplit.closed {line key separator value : List Char}
    (h : IsSplit line key separator value) (hline : isOpen line = false) :
    isOpen key = false ∧ isOpen value = false := by
  by_cases hseparator : separator = []
  -- the key is the whole line then
  · rw [h.whole hseparator, h.value_eq_nil hseparator]
    exact ⟨hline, rfl⟩
  · have hkey : isOpen key = false :=
      (isOpen_eq_endsEscaped key).trans (h.unescaped hseparator)
    have hplain : isOpen separator = false := by
      apply isOpen_of_notMem
      intro hmem
      exact ne_backslash_of_isSeparator (isSeparator_of_mem h.separates hmem) rfl
    refine ⟨hkey, ?_⟩
    rw [← h.joined, List.append_assoc, isOpen_append hkey, isOpen_append hplain] at hline
    exact hline

/-- No backslash is left over.  The backslashes at the end of a text are even in number exactly if a
scanner from the left ends without one to remember, and exactly if unescaping never comes to a
backslash with nothing behind it.  A logical line is such a text, wherever its pieces meet and
whether or not the last one was finished, and so are the key and the value it is split into. -/
theorem no_backslash_left_over :
    (∀ s, (Even (s.rtakeWhile (· == '\\')).length ↔
        (scan (fun _ => false) false s).1 = false) ∧
      (Even (s.rtakeWhile (· == '\\')).length ↔ ¬Reaches s ['\\'])) ∧
    (∀ line, scan isSeparator false line = (isOpen (splitRaw line).1, (spanKey line).2)) ∧
    ∀ text, ∀ line ∈ logicalLines text,
      Even (line.rtakeWhile (· == '\\')).length ∧ (scan isSeparator false line).1 = false ∧
      ∀ raw ∈ [(splitRaw line).1, (splitRaw line).2],
        Even (raw.rtakeWhile (· == '\\')).length ∧
        (scan (fun _ => false) false raw).1 = false ∧ ¬Reaches raw ['\\'] := by
  have hscan (s : List Char) : Even (s.rtakeWhile (· == '\\')).length ↔
      (scan (fun _ => false) false s).1 = false := by
    rw [scan_all, isOpen_eq_false_iff]
  have hreaches (s : List Char) :
      Even (s.rtakeWhile (· == '\\')).length ↔ ¬Reaches s ['\\'] := by
    rw [reaches_backslash_iff, ← isOpen_eq_endsEscaped, Bool.not_eq_true, isOpen_eq_false_iff]
  refine ⟨fun s => ⟨hscan s, hreaches s⟩, scan_isSeparator, fun text line hline => ?_⟩
  have hclosed : isOpen line = false := (begun_of_mem_logicalLines line hline).2
  obtain ⟨separator, hsplit⟩ := exists_isSplit line
  obtain ⟨hkey, hvalue⟩ := hsplit.closed hclosed
  refine ⟨isOpen_eq_false_iff.mp hclosed, ?_, fun raw hraw => ?_⟩
  · rw [scan_isSeparator]
    exact hkey
  -- neither part of a closed line is open, because the cuts go through no escape
  · have heven : Even (raw.rtakeWhile (· == '\\')).length := by
      rw [← isOpen_eq_false_iff]
      rw [List.mem_pair] at hraw
      rcases hraw with rfl | rfl
      · exact hkey
      · exact hvalue
    exact ⟨heven, (hscan raw).mp heven, (hreaches raw).mp heven⟩

/-- Two lines that meet in a run of four backslashes, with no line behind them to go on in. -/
theorem no_backslash_left_over_joined :
    "k\\\\\\\\=v".toList ∈ logicalLines "k\\\\\\\n\\\\=v\\".toList ∧
      Even ("k\\\\\\\\=v".toList.rtakeWhile (· == '\\')).length ∧
      ¬Reaches "k\\\\\\\\".toList ['\\'] ∧ ¬Reaches "v".toList ['\\'] := by
  have hline : "k\\\\\\\\=v".toList ∈ logicalLines "k\\\\\\\n\\\\=v\\".toList := by decide
  have hsplit : splitRaw "k\\\\\\\\=v".toList = ("k\\\\\\\\".toList, "v".toList) := by
    decide +kernel
  obtain ⟨heven, -, hparts⟩ := no_backslash_left_over.2.2 _ _ hline
  rw [hsplit] at hparts
  exact ⟨hline, heven, (hparts _ List.mem_cons_self).2.2, (hparts _ (by simp)).2.2⟩

end ProcessLaunch.Properties
