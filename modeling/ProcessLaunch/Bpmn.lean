import ProcessLaunch.Markup.Document

/-!
# Process models

A process model is a markup document.  Its executable processes are the elements of local name
`process` that are not marked otherwise; each is known by its `id`.
-/

namespace ProcessLaunch.Bpmn

open Markup (Element Document)

def sameWord (a b : String) : Bool := a.toList.map Char.toLower == b.toList.map Char.toLower

/-- The id of an element if it is an executable process with an id.  The marking is read first; the
id of a process that is not executable is not read at all. -/
def executableId? (element : Element) : Except Markup.Error (Option String) :=
  if element.localName = "process".toList then
    match element.attribute? "isExecutable" with
    | .error e => .error e
    | .ok mark =>
        if mark.any (sameWord · "false") then .ok none else element.attribute? "id"
  else .ok none

def executableIds : List Element → Except Markup.Error (List String)
  | [] => .ok []
  | element :: rest => do
      let id? ← executableId? element
      let ids ← executableIds rest
      return id?.toList ++ ids

/-- The ids of the executable processes of a document.  A fault in an element comes before the fault
that ended the reading, because the element was read before it. -/
def executableProcessIds (text : String) : Except Markup.Error (List String) := do
  let document := Document.read text.toList
  let ids ← executableIds document.elements
  match document.fault with
  | some fault => .error fault
  | none => return ids

end ProcessLaunch.Bpmn
