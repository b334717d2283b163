import ProcessLaunch.Json.Number
import ProcessLaunch.Json.String

/-!
# Skipped values

A value that nobody wants is checked and not kept.  The arrays and objects that are open are held in
a list, so that values may be nested to any depth.
-/

namespace ProcessLaunch.Json

open Reader

inductive Frame where
  | array
  | object
deriving DecidableEq, Repr

namespace Frame

def close : Frame → Char
  | array => ']'
  | object => '\x7d'

end Frame

/-- What comes next: a value, the key of a member, or what stands behind a value.  Only the first
value or key of its frame may be the closing character instead. -/
inductive Awaited where
  | value (first : Bool)
  | key (first : Bool)
  | separator
deriving DecidableEq, Repr

namespace Awaited

def ofOpened : Frame → Awaited
  | .array => value true
  | .object => key true

def ofComma : Frame → Awaited
  | .array => value false
  | .object => key false

end Awaited

abbrev Pending := Awaited × List Frame

def skipValueStart (c : Char) (frames : List Frame) : Reader Pending :=
  match c with
  | 'n' => (fun _ => (.separator, frames)) <$> word "ull".toList
  | 't' => (fun _ => (.separator, frames)) <$> word "rue".toList
  | 'f' => (fun _ => (.separator, frames)) <$> word "alse".toList
  | '"' => (fun _ => (.separator, frames)) <$> skipString
  | '[' => return (.ofOpened .array, .array :: frames)
  | '\x7b' => return (.ofOpened .object, .object :: frames)
  | c =>
      if c = '-' ∨ c.isDigit then (fun _ => (.separator, frames)) <$> skipNumberFrom c
      else fail .malformed

def skipStart (c : Char) : Pending → Reader Pending
  | (.value first, frames) =>
      if first ∧ c = ']' then return (.separator, frames.tail) else skipValueStart c frames
  | (.key first, frames) =>
      if first ∧ c = '\x7d' then return (.separator, frames.tail)
      else if c = '"' then do
        skipString
        spaces
        expect ':'
        return (.value false, frames)
      else fail .malformed
  | (.separator, []) => fail .malformed
  | (.separator, frame :: frames) =>
      if c = ',' then return (.ofComma frame, frame :: frames)
      else if c = frame.close then return (.separator, frames)
      else fail .malformed

def skipNext (pending : Pending) : Reader Pending := do
  spaces
  skipStart (← next) pending

theorem strict_skipNext (pending : Pending) : (skipNext pending).Strict :=
  strict_bind fun _ => strict_next.bind _

def skipFrom (pending : Pending) (s : List Char) : Except Error (List Char) :=
  if pending = (.separator, []) then .ok s
  else
    match _h : (skipNext pending).run s with
    | .error e => .error e
    | .ok (pending, rest) => skipFrom pending rest
termination_by s.length
decreasing_by exact strict_skipNext _ _h

theorem length_skipFrom {pending : Pending} {s rest : List Char}
    (h : skipFrom pending s = .ok rest) : rest.length ≤ s.length := by
  fun_induction skipFrom pending s generalizing rest with
  | case1 => cases h; exact Nat.le_refl _
  | case2 => cases h
  | case3 _ _ _ _ _ hn ih => exact Nat.le_trans (ih h) (Nat.le_of_lt (strict_skipNext _ hn))

def skip (pending : Pending) : Reader Unit where
  run s := (skipFrom pending s).map fun rest => ((), rest)
  length_le {s a rest} h := by
    cases hs : skipFrom pending s with
    | error e => simp [hs, Except.map] at h
    | ok behind =>
        simp only [hs, Except.map, Except.ok.injEq, Prod.mk.injEq, true_and] at h
        exact h ▸ length_skipFrom hs

def skipValue : Reader Unit := skip (.value false, [])

end ProcessLaunch.Json
