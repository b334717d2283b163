import ProcessLaunch.Json.Reader

/-!
# What a reader takes

A reader that comes to its end has taken a text off the front of what it was given.  The readers
that all others are put together from are told here by the texts that they take and by what they
leave.
-/

namespace ProcessLaunch.Json

def Spaces (s : List Char) : Prop := ∀ c ∈ s, Reader.isSpace c = true

theorem spaces_nil : Spaces [] := fun _ h => nomatch h

theorem all_isSpace_iff (s : List Char) : s.all Reader.isSpace = true ↔ Spaces s :=
  List.all_eq_true

def Unspaced (s : List Char) : Prop := ∀ c ∈ s.head?, Reader.isSpace c = false

theorem unspaced_cons {c : Char} {s : List Char} (h : Reader.isSpace c = false) :
    Unspaced (c :: s) := by
  intro d hd
  rwa [← Option.mem_some.mp hd]

namespace Reader

variable {α β : Type}

/-! ## 1. One thing behind another -/

/-- Two readers one behind the other come to their end if both do, the second where the first has
left off. -/
theorem run_bind_eq_ok {first : Reader α} {next : α → Reader β} {s rest : List Char} {b : β} :
    (first >>= next).run s = .ok (b, rest) ↔
      ∃ a behind, first.run s = .ok (a, behind) ∧ (next a).run behind = .ok (b, rest) := by
  rw [run_bind]
  cases first.run s with
  | error e => simp
  | ok taken =>
      obtain ⟨a, behind⟩ := taken
      simp only [Except.ok.injEq, Prod.mk.injEq]
      exact ⟨fun h => ⟨a, behind, ⟨rfl, rfl⟩, h⟩, fun ⟨_, _, ⟨rfl, rfl⟩, h⟩ => h⟩

theorem run_pure_eq_ok {a b : α} {s rest : List Char} :
    (pure a : Reader α).run s = .ok (b, rest) ↔ a = b ∧ s = rest := by
  rw [run_pure, Except.ok.injEq, Prod.mk.injEq]

theorem run_map_eq_ok {f : α → β} {r : Reader α} {s rest : List Char} {b : β} :
    (f <$> r).run s = .ok (b, rest) ↔ ∃ a, r.run s = .ok (a, rest) ∧ f a = b := by
  rw [run_map]
  cases r.run s with
  | error e => simp
  | ok taken =>
      obtain ⟨a, behind⟩ := taken
      simp only [Except.ok.injEq, Prod.mk.injEq]
      exact ⟨fun ⟨hb, hrest⟩ => ⟨a, ⟨rfl, hrest⟩, hb⟩, fun ⟨_, ⟨rfl, hrest⟩, hb⟩ => ⟨hb, hrest⟩⟩

/-- The texts that a reader takes for a value are those that are written for it, whatever stands
behind them. -/
def Takes (r : Reader α) (writes : α → List Char → Prop) : Prop :=
  ∀ ⦃s a rest⦄, r.run s = .ok (a, rest) ↔ ∃ t, writes a t ∧ s = t ++ rest

theorem Takes.run_append {r : Reader α} {writes : α → List Char → Prop} (h : r.Takes writes) {a : α}
    {t : List Char} (ht : writes a t) (rest : List Char) : r.run (t ++ rest) = .ok (a, rest) :=
  h.mpr ⟨t, ht, rfl⟩

theorem Takes.map {r : Reader α} {writes : α → List Char → Prop} (h : r.Takes writes) (f : α → β) :
    (f <$> r).Takes fun b t => ∃ a, f a = b ∧ writes a t := by
  intro s b rest
  rw [run_map_eq_ok]
  constructor
  · rintro ⟨a, ha, rfl⟩
    obtain ⟨t, ht, rfl⟩ := h.mp ha
    exact ⟨t, ⟨a, rfl, ht⟩, rfl⟩
  · rintro ⟨t, ⟨a, rfl, ht⟩, rfl⟩
    exact ⟨a, h.run_append ht rest, rfl⟩

def Ended (s : List Char) : Prop := ∀ c ∈ s.head?, c.isDigit = false ∧ c ∉ ['.', 'e', 'E']

/-- The texts that a reader takes are those that are written for its values.  A number is taken to
its end, so such a text is taken only where what stands behind it does not go on with one. -/
structure Reads (r : Reader α) (writes : α → List Char → Prop) : Prop where
  sound : ∀ {s a rest}, r.run s = .ok (a, rest) → ∃ t, writes a t ∧ s = t ++ rest
  complete : ∀ {a t}, writes a t → ∀ {rest}, Ended rest → r.run (t ++ rest) = .ok (a, rest)

theorem Reads.map {r : Reader α} {writes : α → List Char → Prop} (h : r.Reads writes) (f : α → β) :
    (f <$> r).Reads fun b t => ∃ a, f a = b ∧ writes a t where
  sound hrun := by
    obtain ⟨a, ha, rfl⟩ := run_map_eq_ok.mp hrun
    obtain ⟨t, ht, rfl⟩ := h.sound ha
    exact ⟨t, ⟨a, rfl, ht⟩, rfl⟩
  complete := by
    rintro _ t ⟨a, rfl, ht⟩ rest hrest
    exact run_map_eq_ok.mpr ⟨a, h.complete ht hrest, rfl⟩

theorem ended_nil : Ended [] := fun _ h => nomatch h

/-- A number ends before any character that is no digit, point or exponent mark. -/
theorem ended_cons {c : Char} {s : List Char} (hdigit : c.isDigit = false)
    (hmark : c ∉ ['.', 'e', 'E']) : Ended (c :: s) := by
  intro d hd
  obtain rfl := Option.mem_some.mp hd
  exact ⟨hdigit, hmark⟩

theorem not_digit_of_isSpace {c : Char} (h : isSpace c = true) :
    c.isDigit = false ∧ c ∉ ['.', 'e', 'E'] := by
  simp only [isSpace, Bool.or_eq_true, beq_iff_eq] at h
  rcases h with ((rfl | rfl) | rfl) | rfl <;> decide

theorem Ended.append {b s : List Char} (hb : Spaces b) (hs : Ended s) : Ended (b ++ s) := by
  cases b with
  | nil => exact hs
  | cons c b =>
      obtain ⟨hdigit, hmark⟩ := not_digit_of_isSpace (hb c List.mem_cons_self)
      exact ended_cons hdigit hmark

/-! ## 2. Characters and words -/

theorem run_next_eq_ok {s rest : List Char} {c : Char} :
    next.run s = .ok (c, rest) ↔ s = c :: rest := by
  cases s with
  | nil => simp
  | cons d tail => simp

theorem run_expect_eq_ok {c : Char} {s rest : List Char} {u : Unit} :
    (expect c).run s = .ok (u, rest) ↔ s = c :: rest := by
  cases s with
  | nil => simp [expect]
  | cons d tail => by_cases hd : d = c <;> simp [expect, hd]

theorem run_word_eq_ok {w s rest : List Char} {u : Unit} :
    (word w).run s = .ok (u, rest) ↔ s = w ++ rest := by
  induction w generalizing s with
  | nil => simp [word]
  | cons c w ih =>
      simp only [word, run_bind_eq_ok, run_expect_eq_ok, ih, List.cons_append]
      exact ⟨fun ⟨_, _, hs, hrest⟩ => hrest ▸ hs, fun hs => ⟨(), _, hs, rfl⟩⟩

/-! ## 3. Space -/

/-- The space at the front of a text is taken, and no more. -/
theorem run_spaces_eq_ok {s rest : List Char} {u : Unit} :
    spaces.run s = .ok (u, rest) ↔ ∃ b, Spaces b ∧ Unspaced rest ∧ s = b ++ rest := by
  rw [run_spaces, Except.ok.injEq, Prod.mk.injEq, eq_self_iff_true, true_and]
  constructor
  · rintro rfl
    refine ⟨s.takeWhile isSpace, (all_isSpace_iff _).mp List.all_takeWhile, fun c hc => ?_,
      List.takeWhile_append_dropWhile.symm⟩
    have hhead := List.head?_dropWhile_not isSpace s
    rw [Option.mem_def.mp hc] at hhead
    simpa using hhead
  · rintro ⟨b, hb, hrest, rfl⟩
    rw [List.dropWhile_append_of_pos hb]
    cases rest with
    | nil => rfl
    | cons c tail => exact List.dropWhile_cons_of_neg (by simp [hrest c rfl])

/-- The first character behind the space decides what follows. -/
theorem run_spaces_next_eq_ok {k : Char → Reader α} {s rest : List Char} {a : α} :
    (do spaces; k (← next)).run s = .ok (a, rest) ↔
      ∃ b c t, Spaces b ∧ isSpace c = false ∧ s = b ++ c :: t ∧ (k c).run t = .ok (a, rest) := by
  simp only [run_bind_eq_ok, run_spaces_eq_ok, run_next_eq_ok]
  constructor
  · rintro ⟨-, _, ⟨b, hb, hunspaced, rfl⟩, c, t, rfl, hk⟩
    exact ⟨b, c, t, hb, hunspaced c rfl, rfl, hk⟩
  · rintro ⟨b, c, t, hb, hc, rfl, hk⟩
    exact ⟨(), _, ⟨b, hb, unspaced_cons hc, rfl⟩, c, t, rfl, hk⟩

/-- A whole text is read if what is left of it is space. -/
theorem readAll_eq_ok {r : Reader α} {s : List Char} {a : α} :
    r.readAll s = .ok a ↔ ∃ rest, r.run s = .ok (a, rest) ∧ Spaces rest := by
  rw [readAll]
  cases r.run s with
  | error e => simp
  | ok taken =>
      obtain ⟨b, behind⟩ := taken
      simp only [Except.ok.injEq, Prod.mk.injEq]
      by_cases hspace : behind.all isSpace = true
      · rw [if_pos hspace, Except.ok.injEq]
        exact ⟨fun h => ⟨_, ⟨h, rfl⟩, (all_isSpace_iff _).mp hspace⟩, fun ⟨_, ⟨h, _⟩, _⟩ => h⟩
      · rw [if_neg hspace]
        refine ⟨nofun, fun ⟨_, ⟨_, hbehind⟩, hrest⟩ => absurd ?_ hspace⟩
        exact hbehind ▸ (all_isSpace_iff _).mpr hrest

end Reader

end ProcessLaunch.Json
