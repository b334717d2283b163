import ProcessLaunch.Engine.InMemory
import ProcessLaunch.Engine.Step

/-!
# Sessions

A session works with any number of engines in memory, one step after the other, while files come and
go between the steps.  Engines are numbered in the order in which they were made, from zero.
-/

namespace ProcessLaunch.InMemory

inductive Step where
  | ask (engine : Nat) (step : EngineStep)
  | findInstance (engine : Nat) (id : String)
  | write (path : String) (content : ByteArray)
  | remove (path : String)
  | clone (engine : Nat)
  | create (root : String)

inductive Answer where
  | answered (answer : EngineAnswer)
  | found (started : Option ProcessInstance)
  | written
  | removed
  | engine (number : Nat)
deriving DecidableEq

structure Session where
  files : FileTree
  engines : List Handle
  store : Store

namespace Session

def begin (files : FileTree) (root : String) (ids : IdSupply) : Session :=
  let (handle, store) := InMemory.create root (Store.empty ids)
  ⟨files, [handle], store⟩

def handle (session : Session) (engine : Nat) : Handle :=
  session.engines.getD engine ⟨"", session.store.registries.length⟩

def registry (session : Session) (engine : Nat) : Registry :=
  session.store.registry (session.handle engine).registry

def step (session : Session) : Step → Answer × List LogRecord × Session
  | .ask engine step =>
      let outcome :=
        (InMemory.engine session.files.disk (session.handle engine)).step session.store step
      (.answered outcome.answer, outcome.log, { session with store := outcome.state })
  | .findInstance engine id => (.found ((session.registry engine).instance? id), [], session)
  | .write path content =>
      (.written, [], { session with files := session.files.write path content })
  | .remove path => (.removed, [], { session with files := session.files.remove path })
  | .clone engine =>
      (.engine session.engines.length, [],
        { session with engines := session.engines ++ [session.handle engine] })
  | .create root =>
      let (handle, store) := InMemory.create root session.store
      (.engine session.engines.length, [],
        { session with engines := session.engines ++ [handle], store })

end Session

end ProcessLaunch.InMemory
