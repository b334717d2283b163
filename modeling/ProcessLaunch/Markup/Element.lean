import ProcessLaunch.Markup.Reference

/-!
# Elements

The start tag of an element: its name, and its attributes as they are written.  Attributes are read
only as far as one is looked for, so a fault behind it is not noticed.
-/

namespace ProcessLaunch.Markup

def isSpace (c : Char) : Bool := c == ' ' || c == '\t' || c == '\r' || c == '\n'

structure Element where
  name : List Char
  attributes : List Char
deriving DecidableEq, Repr

namespace Element

def ofContent (content : List Char) : Element :=
  ⟨content.takeWhile (!isSpace ·), content.dropWhile (!isSpace ·)⟩

/-- The name behind its first colon, or the whole name. -/
def localName (element : Element) : List Char :=
  match element.name.dropWhile (· != ':') with
  | [] => element.name
  | _ :: name => name

def byteLength (element : Element) : Nat :=
  Text.byteLength element.name + Text.byteLength element.attributes

end Element

def spanQuoted? (quote : Char) : List Char → Option (List Char × List Char)
  | [] => none
  | c :: rest =>
      if c = quote then some ([], rest)
      else (spanQuoted? quote rest).map fun (value, after) => (c :: value, after)

theorem length_of_spanQuoted? {quote : Char} {s value after : List Char}
    (h : spanQuoted? quote s = some (value, after)) : after.length < s.length := by
  induction s generalizing value with
  | nil => simp [spanQuoted?] at h
  | cons c rest ih =>
      rw [spanQuoted?] at h
      split at h
      · obtain ⟨-, rfl⟩ := Prod.mk.inj (Option.some.inj h)
        simp
      · obtain ⟨⟨value', after'⟩, hspan, heq⟩ := Option.map_eq_some_iff.mp h
        obtain ⟨-, rfl⟩ := Prod.mk.inj heq
        have := ih hspan
        simp only [List.length_cons]
        omega

/-- The value of an attribute behind its equals sign, and what follows the value.  `length` is the
length of the whole tag. -/
def readValue (length : Nat) (s : List Char) : Except AttributeError (List Char × List Char) :=
  match s.dropWhile isSpace with
  | [] => .error (.noValue length)
  | quote :: rest =>
      if quote = '"' ∨ quote = '\'' then
        match spanQuoted? quote rest with
        | some found => .ok found
        | none => .error (.unclosedValue length quote)
      else .error (.unquotedValue (length - Text.byteLength (quote :: rest)))

theorem length_of_readValue {length : Nat} {s value after : List Char}
    (h : readValue length s = .ok (value, after)) : after.length < s.length := by
  have hdrop := (List.dropWhile_suffix isSpace (l := s)).length_le
  unfold readValue at h
  split at h
  · simp at h
  next quote rest heq =>
    rw [heq, List.length_cons] at hdrop
    split at h
    · split at h
      next hspan =>
        obtain rfl := Except.ok.inj h
        have := length_of_spanQuoted? hspan
        omega
      · simp at h
    · simp at h

/-- Whether a character goes on with the key of an attribute.  The first character of a key may be
any but white space. -/
def isKeyChar (c : Char) : Bool := c != '=' && !isSpace c

def readAttribute (length : Nat) (s : List Char) :
    Except AttributeError (Option (List Char × List Char × List Char)) :=
  match s.dropWhile isSpace with
  | [] => .ok none
  | c :: rest =>
      let key := c :: rest.takeWhile isKeyChar
      match (rest.dropWhile isKeyChar).dropWhile isSpace with
      | [] => .error (.noEqualsSign length)
      | '=' :: behind =>
          match readValue length behind with
          | .error e => .error e
          | .ok (value, after) => .ok (some (key, value, after))
      | other => .error (.noEqualsSign (length - Text.byteLength other))

theorem length_of_readAttribute {length : Nat} {s key value after : List Char}
    (h : readAttribute length s = .ok (some (key, value, after))) : after.length < s.length := by
  unfold readAttribute at h
  split at h
  · simp at h
  next c rest heq =>
    have h1 := (List.dropWhile_suffix isSpace (l := s)).length_le
    rw [heq, List.length_cons] at h1
    have h2 := (List.dropWhile_suffix isKeyChar (l := rest)).length_le
    have h3 := (List.dropWhile_suffix isSpace (l := rest.dropWhile isKeyChar)).length_le
    simp only at h
    split at h
    · simp at h
    next behind hbehind =>
      rw [hbehind, List.length_cons] at h3
      split at h
      · simp at h
      next hvalue =>
        have heq' := Option.some.inj (Except.ok.inj h)
        simp only [Prod.mk.injEq] at heq'
        obtain ⟨-, -, rfl⟩ := heq'
        have := length_of_readValue hvalue
        omega
    · simp at h

def findAttribute (length : Nat) (key : List Char) (s : List Char) :
    Except AttributeError (Option (List Char)) :=
  match _h : readAttribute length s with
  | .error e => .error e
  | .ok none => .ok none
  | .ok (some (found, value, after)) =>
      if found = key then .ok (some value) else findAttribute length key after
termination_by s.length
decreasing_by exact length_of_readAttribute _h

namespace Element

def attribute? (element : Element) (key : String) : Except Error (Option String) :=
  match findAttribute element.byteLength key.toList element.attributes with
  | .error e => .error (.badAttribute e)
  | .ok none => .ok none
  | .ok (some written) =>
      match expand written with
      | .error e => .error (.badReference e)
      | .ok value => .ok (some (String.ofList value))

end Element

end ProcessLaunch.Markup
