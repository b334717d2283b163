import ProcessLaunch.Failure
import ProcessLaunch.Http.Status
import ProcessLaunch.Http.Url

/-!
# Exchanges

A request is sent to the address of a URL and answered by whoever listens there.  A network in which
at most one peer listens answers from a script, one response after the other, and remembers what it
was asked.
-/

namespace ProcessLaunch.Http

/-! ## Requests -/

inductive Method where
  | get
  | post
deriving DecidableEq, Repr

namespace Method

def name : Method → String
  | get => "GET"
  | post => "POST"

end Method

structure Part where
  name : String
  fileName : Option String
  content : ByteArray

instance : DecidableEq Part
  | ⟨name, fileName, ⟨bytes⟩⟩, ⟨name', fileName', ⟨bytes'⟩⟩ =>
      if h : name = name' ∧ fileName = fileName' ∧ bytes = bytes' then
        isTrue (by obtain ⟨rfl, rfl, rfl⟩ := h; rfl)
      else
        isFalse fun heq => h (by cases heq; exact ⟨rfl, rfl, rfl⟩)

inductive Body where
  | json (text : String)
  | form (parts : List Part)
deriving DecidableEq

structure Request where
  method : Method
  target : String
  body : Option Body
deriving DecidableEq

namespace Part

/-- The name of a part: one with characters that have to be encoded is written in extended form. -/
def nameText (name : String) : String :=
  let encoded := String.ofList (percentEncode segmentSet name.toList)
  if encoded = name then s!"name=\"{name}\"" else s!"name*=utf-8''{encoded}"

def fileNameChar (c : Char) : List Char :=
  if c = '"' ∨ c = '\\' ∨ c = '\r' ∨ c = '\n' then ['\\', c] else [c]

def fileNameText (name : String) : String :=
  "filename=\"" ++ String.ofList (name.toList.flatMap fileNameChar) ++ "\""

def header (part : Part) : String :=
  "Content-Disposition: form-data; " ++ nameText part.name ++
    (match part.fileName with
      | some name => "; " ++ fileNameText name
      | none => "")

end Part

/-! ## Networks -/

structure Response where
  status : Nat
  body : ByteArray

instance : DecidableEq Response
  | ⟨status, ⟨bytes⟩⟩, ⟨status', ⟨bytes'⟩⟩ =>
      if h : status = status' ∧ bytes = bytes' then
        isTrue (by obtain ⟨rfl, rfl⟩ := h; rfl)
      else
        isFalse fun heq => h (by cases heq; exact ⟨rfl, rfl⟩)

structure Origin where
  scheme : String
  host : Option Host
  socket : Option Nat
deriving DecidableEq, Repr

/-- Where the peer listens, if there is one, the responses that it has yet to give, and the requests
that it has received.  What is made of its answers hangs on one thing more that is not for this side
to say: how the names of a table rank that is read from the answer to each request. -/
structure Network where
  peer : Option Origin
  script : List Response
  received : List Request
  ranks : Nat → String → Nat

namespace Url

def origin (url : Url) : Origin := ⟨url.scheme, url.host, url.socket⟩

/-- The URL without its credentials, if their user name is a text and they say anything. -/
def withoutCredentials (url : Url) : Url :=
  let isText (s : List Char) : Bool := (String.fromUTF8? ⟨(percentDecode s).toArray⟩).isSome
  match url.credentials with
  | none => url
  | some c =>
      if isText c.username ∧ (c.username ≠ [] ∨ c.password.any isText) then
        { url with credentials := none }
      else url

def isUnsendable (c : Char) : Bool := ['"', '`', '\x7b', '\x7d'].contains c

/-- The most bytes of a URL that a request can be sent with. -/
def maxBytes : Nat := 65534

def isSendable (url : Url) : Bool :=
  (url.scheme == "http" || url.scheme == "https") &&
    !((url.host.map Host.text).getD []).any isUnsendable &&
    url.text.utf8ByteSize ≤ maxBytes

end Url

namespace Network

def empty : Network := ⟨none, [], [], fun _ _ => 0⟩

/-- How names rank in the answer to the next request. -/
def rank (network : Network) : String → Nat := network.ranks network.received.length

def noResponse : Response := ⟨404, "no scripted response".toUTF8⟩

def answer (network : Network) (request : Request) : Response × Network :=
  (network.script.headD noResponse,
    { network with
      script := network.script.tail
      received := network.received ++ [request] })

def send (network : Network) (method : Method) (address : String) (body : Option Body) :
    Except HttpError Response × Network :=
  match Url.parse? address with
  | none => (.error .noUrl, network)
  | some full =>
      let url := full.withoutCredentials
      if url.isSendable = false then (.error (.badUrl url.text), network)
      else if network.peer = some url.origin then
        let (response, network) := network.answer ⟨method, url.target, body⟩
        (.ok response, network)
      else (.error (.notSent url.text), network)

end Network

end ProcessLaunch.Http
