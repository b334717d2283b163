import ProcessLaunch.Text.Hex

/-!
# Escapes in properties

A backslash stands before a letter for a control character, before `u` and four hexadecimal digits
for a UTF-16 unit, and before any other character for that character.  Two units that form a
surrogate pair make one character.  What begins like a unit and is none, and a surrogate without its
partner, stay as they are written.
-/

namespace ProcessLaunch.Properties

open Text

def readUnit? : List Char → Option (Nat × List Char)
  | a :: b :: c :: d :: rest => (hexUnit? a b c d).map (·, rest)
  | _ => none

def readLowSurrogate? : List Char → Option (Nat × List Char)
  | '\\' :: 'u' :: rest => (readUnit? rest).filter fun (unit, _) => isLowSurrogate unit
  | _ => none

theorem length_of_readUnit? {s rest : List Char} {unit : Nat}
    (h : readUnit? s = some (unit, rest)) : rest.length + 4 = s.length := by
  match s with
  | a :: b :: c :: d :: tail =>
      obtain ⟨_, -, heq⟩ := Option.map_eq_some_iff.mp h
      obtain ⟨-, rfl⟩ := Prod.mk.inj heq
      simp
  | [] | [_] | [_, _] | [_, _, _] => simp [readUnit?] at h

theorem length_of_readLowSurrogate? {s rest : List Char} {unit : Nat}
    (h : readLowSurrogate? s = some (unit, rest)) : rest.length + 6 = s.length := by
  unfold readLowSurrogate? at h
  split at h
  next tail =>
    have := length_of_readUnit? (Option.filter_eq_some_iff.mp h).1
    simp only [List.length_cons]
    omega
  next => simp at h

def escaped : Char → Char
  | 't' => '\t'
  | 'n' => '\n'
  | 'r' => '\r'
  | 'f' => '\x0c'
  | c => c

/-- The text that a spelling with escapes stands for.  A backslash at the very end stands for
nothing. -/
def unescape : List Char → List Char
  | [] => []
  | ['\\'] => []
  | '\\' :: 'u' :: rest =>
      match _hunit : readUnit? rest with
      | none => '\\' :: 'u' :: unescape rest
      | some (unit, after) =>
          if isHighSurrogate unit then
            match _hlow : readLowSurrogate? after with
            | some (low, beyond) => surrogatePair unit low :: unescape beyond
            | none => '\\' :: 'u' :: (rest.take 4 ++ unescape after)
          else if isLowSurrogate unit then '\\' :: 'u' :: (rest.take 4 ++ unescape after)
          else Char.ofNat unit :: unescape after
  | '\\' :: c :: rest => escaped c :: unescape rest
  | c :: rest => c :: unescape rest
termination_by s => s.length
decreasing_by
  all_goals simp_wf
  all_goals try have := length_of_readUnit? _hunit
  all_goals try have := length_of_readLowSurrogate? _hlow
  all_goals omega

end ProcessLaunch.Properties
