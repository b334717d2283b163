import ProcessLaunch.Http.Exchange
import ProcessLaunch.Proofs.Http.Url

/-!
# Requests that reach the peer

What is sent to the peer of a network is received by it, one request behind the other, and takes one
response from its script.
-/

namespace ProcessLaunch.Http

/-! ## 1. After some requests -/

namespace Network

/-- The network after its peer has received some requests, and answered each of them. -/
def after (network : Network) (requests : List Request) : Network :=
  { network with
    script := network.script.drop requests.length
    received := network.received ++ requests }

def nextResponse (network : Network) : Response := network.script.headD noResponse

variable (network : Network)

theorem answer_eq (request : Request) :
    network.answer request = (network.nextResponse, network.after [request]) := by
  unfold answer after nextResponse
  rw [List.length_singleton, List.drop_one]

end Network

/-! ## 2. Addresses of the peer -/

namespace Url

/-- Whether a URL leads to a host and a socket without a user, and a request can be sent there
unless the URL is too long. -/
structure LeadsTo (url : Url) (host : Host) (socket : Option Nat) : Prop where
  scheme_eq : url.scheme = "http"
  credentials_eq : url.credentials = none
  host_eq : url.host = some host
  socket_eq : url.socket = socket
  sendable : host.text.any isUnsendable = false

def Fits (url : Url) : Prop := url.text.utf8ByteSize ≤ maxBytes

instance (url : Url) : Decidable url.Fits := inferInstanceAs (Decidable (_ ≤ _))

variable {url : Url} {host : Host} {socket : Option Nat}

/-- Only its length can keep such a URL from being sent. -/
theorem LeadsTo.isSendable_iff (h : url.LeadsTo host socket) : url.isSendable = true ↔ url.Fits := by
  unfold isSendable Fits
  rw [h.scheme_eq, h.host_eq]
  show (true && !host.text.any isUnsendable && decide _) = true ↔ _
  rw [h.sendable]
  exact decide_eq_true_iff

/-- A request for a URL that leads to the peer is received by it, unless the URL is too long: then
nothing is sent. -/
theorem LeadsTo.send_eq (h : url.LeadsTo host socket) {network : Network}
    (hpeer : network.peer = some ⟨"http", some host, socket⟩) {address : String}
    (hparse : parse? address = some url) (method : Method) (body : Option Body) :
    network.send method address body =
      if url.Fits then (.ok network.nextResponse, network.after [⟨method, url.target, body⟩])
      else (.error (.badUrl url.text), network) := by
  have hself : url.withoutCredentials = url := by
    unfold withoutCredentials
    rw [h.credentials_eq]
  have horigin : network.peer = some url.origin := by
    rw [hpeer, origin, h.scheme_eq, h.host_eq, h.socket_eq]
  unfold Network.send
  rw [hparse]
  simp only [hself, Network.answer_eq]
  -- neither credentials nor the host stand in the way, so only the length is left
  by_cases hfits : url.Fits
  · have hsendable := h.isSendable_iff.mpr hfits
    rw [if_pos hfits, if_neg (by simp [hsendable]), if_pos horigin]
  · have hsendable : url.isSendable = false := by
      rw [Bool.eq_false_iff]
      exact fun hsendable => hfits (h.isSendable_iff.mp hsendable)
    rw [if_neg hfits, if_pos hsendable]

/-- A plain path behind a served authority is read as it is written. -/
theorem parse?_plain {authority : List Char} (h : Serves authority host socket)
    {list : List (List Char)} (hplain : ∀ s ∈ list, IsPlain s) {s : List Char} {last : Char}
    (hsegment : IsPlain (s ++ [last])) (hlast : 0x20 < last.toNat) :
    parse? (String.ofList ("http://".toList ++ leadText authority list ++ '/' :: s ++ [last])) =
      some ⟨"http", none, some host, socket, .segments (list ++ [s ++ [last]]), none, none⟩ := by
  have hstays : ∀ c ∈ s ++ [last], isPathEnd c = false ∧ isLeftOut c = false :=
    fun c hc => stays_of_not_pathSet (hsegment.written c hc).1
  obtain ⟨query, fragment, hparse, hnone⟩ := parse?_lead h hplain hlast s
  obtain ⟨rfl, rfl⟩ := hnone fun c hc => (hstays c hc).1
  rw [hparse, visible_eq_self fun c hc => (hstays c hc).2, uptoEnd_eq_self fun c hc => (hstays c hc).1,
    pathPieces_of_isPlain hsegment]
  have hone : ∀ t ∈ [s ++ [last]], IsPlain t := fun t ht => List.mem_singleton.mp ht ▸ hsegment
  have hwalk := Walk.alongAll_plain hone ⟨list.reverse, false⟩ []
  rw [List.append_nil] at hwalk
  rw [hwalk]
  simp [Walk.alongAll, Walk.segments]

end Url

end ProcessLaunch.Http
