import ProcessLaunch.Config.Basic
import ProcessLaunch.Proofs.Text.Integer

/-!
# Integers of a configuration

An integer is read just as it is written, at every length, or not at all: then the default takes its
place and one warning tells of it.
-/

namespace ProcessLaunch.Config

open Text (Blanks Fits32 WritesInteger trim)

/-- An integer of 32 bits is written at a key, with or without blanks around it. -/
def HasInteger (config : Config) (key : String) (n : Int) : Prop :=
  ∃ value, config.get? key = some value ∧ WritesInteger n (trim value.toList) ∧ Fits32 n

def invalidInteger (key value : String) (default : Int) : ConfigEvent :=
  .invalidInteger (.invalidNumber key value) default

variable {config : Config} {key : String}

/-! ## 1. Three cases -/

/-- One key has at most one integer, since a text is the notation of one only. -/
theorem HasInteger.unique {m n : Int} (hm : config.HasInteger key m)
    (hn : config.HasInteger key n) : m = n := by
  obtain ⟨value, hvalue, hm, -⟩ := hm
  obtain ⟨value', hvalue', hn, -⟩ := hn
  have hsame : value = value' := Option.some.inj (hvalue.symm.trans hvalue')
  subst hsame
  exact hm.unique hn

/-- There is nothing at a key, or an integer, or something else. -/
theorem integer_cases (config : Config) (key : String) :
    config.get? key = none ∨ (∃ n, config.HasInteger key n) ∨
      ∃ value, config.get? key = some value ∧ ∀ n, ¬config.HasInteger key n := by
  by_cases h : ∃ n, config.HasInteger key n
  · exact .inr (.inl h)
  · cases hvalue : config.get? key with
    | none => exact .inl rfl
    | some value => exact .inr (.inr ⟨value, rfl, not_exists.mp h⟩)

theorem getInteger_of_none (default : Int) (h : config.get? key = none) :
    config.getInteger key default = ⟨default, []⟩ := by
  rw [getInteger, h]

theorem HasInteger.getInteger_eq (default : Int) {n : Int} (h : config.HasInteger key n) :
    config.getInteger key default = ⟨n, []⟩ := by
  obtain ⟨value, hvalue, hn⟩ := h
  have hread : Text.integer32? (trim value.toList) = some n :=
    (Text.integer32?_eq_some_iff n _).mpr hn
  rw [getInteger, hvalue]
  simp only [hread]

/-- A value that is no integer gives way to the default, and one warning says so. -/
theorem getInteger_of_invalid (default : Int) {value : String}
    (hvalue : config.get? key = some value) (h : ∀ n, ¬config.HasInteger key n) :
    config.getInteger key default = ⟨default, [invalidInteger key value default]⟩ := by
  have hread : Text.integer32? (trim value.toList) = none := by
    rw [Text.integer32?_eq_none_iff]
    rintro ⟨n, hn⟩
    exact h n ⟨value, hvalue, hn⟩
  rw [getInteger, hvalue]
  simp only [hread]
  rfl

/-! ## 2. Decimal notation -/

/-- The decimal notation of an integer, with any blanks around it, is read as that integer. -/
theorem hasInteger_of_decimal {n : Int} (hn : Fits32 n) {before after : List Char}
    (hbefore : Blanks before) (hafter : Blanks after)
    (h : config.get? key = some (String.ofList (before ++ (toString n).toList ++ after))) :
    config.HasInteger key n := by
  -- neither a digit nor a sign is blank, so that trimming stops at both ends of the notation
  have hwrites := Text.writesInteger_toString n
  refine ⟨_, h, ?_, hn⟩
  rw [String.toList_ofList, Text.trim_between hbefore hwrites.trimmed hafter]
  exact hwrites

/-- An integer at a key is read as the number that it denotes, and every other value is noted once
and read as the default; there is no value in between, such as one that is cut off at a bound. -/
theorem getInteger_exact (config : Config) (key : String) (default : Int) :
    (config.get? key = none → config.getInteger key default = ⟨default, []⟩) ∧
      (∀ value, config.get? key = some value →
        (∀ n, WritesInteger n (trim value.toList) → Fits32 n →
          config.getInteger key default = ⟨n, []⟩) ∧
        ((∀ n, WritesInteger n (trim value.toList) → ¬Fits32 n) →
          (config.getInteger key default).value = default ∧
            (config.getInteger key default).notes.map ConfigEvent.record =
              [⟨.warn, "Invalid integer property, using default",
                [("error", .shown s!"Invalid integer value '{value}' for property '{key}'"),
                  ("default", .integer default)]⟩])) ∧
      ((config.getInteger key default).value = default ∨
        config.HasInteger key (config.getInteger key default).value) ∧
      ∀ n, Fits32 n → ∀ before after, Blanks before → Blanks after →
        config.get? key = some (String.ofList (before ++ (toString n).toList ++ after)) →
          config.getInteger key default = ⟨n, []⟩ := by
  refine ⟨getInteger_of_none default, fun value hvalue => ⟨fun n hwrites hfits => ?_, fun h => ?_⟩,
    ?_, fun n hn before after hbefore hafter h => ?_⟩
  · have hinteger : config.HasInteger key n := ⟨value, hvalue, hwrites, hfits⟩
    exact hinteger.getInteger_eq default
  · have hinvalid : ∀ n, ¬config.HasInteger key n := by
      rintro n ⟨value', hvalue', hwrites, hfits⟩
      rw [hvalue, Option.some.injEq] at hvalue'
      subst hvalue'
      exact h n hwrites hfits
    rw [getInteger_of_invalid default hvalue hinvalid]
    exact ⟨rfl, rfl⟩
  -- a key is absent, holds an integer or holds something else
  · obtain hnone | ⟨n, hn⟩ | ⟨value, hvalue, hinvalid⟩ := integer_cases config key
    · rw [getInteger_of_none default hnone]
      exact .inl rfl
    · rw [hn.getInteger_eq default]
      exact .inr hn
    · rw [getInteger_of_invalid default hvalue hinvalid]
      exact .inl rfl
  · exact (hasInteger_of_decimal hn hbefore hafter h).getInteger_eq default

def sampleIntegers : Config :=
  ⟨"inline", Table.ofList [("most", "\t+0002147483647"), ("least", " -2147483648\u3000"),
    ("more", "2147483648")]⟩

theorem getInteger_exact_bounds :
    sampleIntegers.getInteger "none" 7 = ⟨7, []⟩ ∧
      sampleIntegers.getInteger "most" 7 = ⟨2147483647, []⟩ ∧
      sampleIntegers.getInteger "least" 7 = ⟨-2147483648, []⟩ ∧
      (sampleIntegers.getInteger "more" 7).value = 7 ∧
      (sampleIntegers.getInteger "more" 7).notes.length = 1 := by
  have hmost : WritesInteger 2147483647 (trim "\t+0002147483647".toList) := by
    rw [← Text.integer?_eq_some_iff]
    decide +kernel
  have hmore : ∀ n, WritesInteger n (trim "2147483648".toList) → ¬Fits32 n := by
    intro n hn
    have hvalue : Text.integer? (trim "2147483648".toList) = some 2147483648 := by decide +kernel
    obtain rfl := hn.unique ((Text.integer?_eq_some_iff _ _).mp hvalue)
    decide
  obtain ⟨hnone, -, -, -⟩ := getInteger_exact sampleIntegers "none" 7
  obtain ⟨-, hsome, -, -⟩ := getInteger_exact sampleIntegers "most" 7
  obtain ⟨-, -, -, hdecimal⟩ := getInteger_exact sampleIntegers "least" 7
  obtain ⟨-, hrefused, -, -⟩ := getInteger_exact sampleIntegers "more" 7
  obtain ⟨hvalue, hnotes⟩ := (hrefused "2147483648" (by decide +kernel)).2 hmore
  refine ⟨hnone (by decide +kernel), ?_, ?_, hvalue, ?_⟩
  · exact (hsome _ (by decide +kernel)).1 2147483647 hmost (by decide)
  · refine hdecimal (-2147483648) (by decide) [' '] ['\u3000'] ?_ ?_ (by decide +kernel)
    · simp [Blanks, Text.isBlank]
    · simp [Blanks, Text.isBlank]
  · have hlength := congrArg List.length hnotes
    rwa [List.length_map] at hlength

end ProcessLaunch.Config
