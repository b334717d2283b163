import ProcessLaunch.Engine.Rest
import ProcessLaunch.Proofs.Http.Url

/-!
# Where a start is sent

The key of a start is put into an address as it stands, and the address is read as any other.  A
request that addresses the key comes of that exactly for keys that stand for themselves in a path.
-/

namespace ProcessLaunch.Rest

open Http Http.Url
open ProcessLaunch.Text (byteLength hexValue? pieces)

/-! ## Bases and keys -/

/-- An address to put paths behind: an authority, and the segments of a plain path. -/
structure Base where
  authority : List Char
  segments : List (List Char)

namespace Base

def text (base : Base) : String :=
  String.ofList ("http://".toList ++ leadText base.authority base.segments)

/-- Whether a base names the host and the socket of a peer that requests can be sent to. -/
structure Names (base : Base) (host : Host) (socket : Option Nat) : Prop where
  serves : Serves base.authority host socket
  sendable : host.text.any isUnsendable = false
  plain : ∀ s ∈ base.segments, IsPlain s

def lead (base : Base) : List (List Char) :=
  base.segments ++ ["process-definition".toList, "key".toList]

def startPath (base : Base) (segment : List Char) : UrlPath :=
  .segments (base.lead ++ [segment, "start".toList])

def startUrl (base : Base) (host : Host) (socket : Option Nat) (key : String) : Url :=
  ⟨"http", none, some host, socket, base.startPath (percentEncode pathSet key.toList), none, none⟩

/-- Whether all that a peer was asked since `before` is a start whose key is one segment, which
decodes to `key`. -/
def Addresses (base : Base) (key : String) (before after : Network) : Prop :=
  ∃ segment, (∀ c ∈ segment, isSlash true c = false ∧ isPathEnd c = false) ∧
    percentDecode segment = key.toUTF8.data.toList ∧
    after.received = before.received ++
      [⟨.post, String.ofList (pathText (base.startPath segment)), some (.json "\x7b\x7d")⟩]

end Base

/-- Whether a key stands for itself in a path: nothing in it separates segments, ends the path or is
left out, and no percent sign in it begins an escape. -/
structure StandsForItself (key : List Char) : Prop where
  written : ∀ c ∈ key, isSlash true c = false ∧ isPathEnd c = false ∧ isLeftOut c = false
  noEscape : hasEscape key = false

/-! ## Reading the address -/

section

variable {base : Base} {host : Host} {socket : Option Nat}

theorem isPlain_start : IsPlain "start".toList := ⟨forall_mem_of_all (by decide), by decide, by decide⟩

/-- All segments in front of the key are read as they are written. -/
theorem isPlain_of_mem_lead (names : base.Names host socket) :
    ∀ s ∈ base.lead, IsPlain s := by
  intro s hs
  obtain hs | hs := List.mem_append.mp hs
  · exact names.plain s hs
  · obtain rfl | hs := List.mem_cons.mp hs
    · exact ⟨forall_mem_of_all (by decide), by decide, by decide⟩
    · obtain rfl := List.mem_singleton.mp hs
      exact ⟨forall_mem_of_all (by decide), by decide, by decide⟩

/-- The segments that the path of a start with a key comes to. -/
def walked (base : Base) (key : List Char) : List (List Char) :=
  ((⟨base.lead.reverse, false⟩ : Walk).alongAll
    (pathPieces (uptoEnd (visible (key ++ "/start".toList))))).segments

/-- The address falls into plain segments in front of the key, the key with what follows it, and a
last character. -/
theorem toList_behind (base : Base) {fixed last : String} {first second s : List Char} {c : Char}
    (key : String) (hfixed : fixed.toList = '/' :: (first ++ '/' :: (second ++ ['/'])))
    (hlast : last.toList = s ++ [c]) :
    (base.text ++ fixed ++ key ++ last).toList =
      "http://".toList ++ leadText base.authority (base.segments ++ [first, second]) ++
        '/' :: (key.toList ++ s) ++ [c] := by
  have htext : base.text.toList = "http://".toList ++ leadText base.authority base.segments :=
    String.toList_ofList
  rw [String.toList_append, String.toList_append, String.toList_append, hfixed, hlast, htext]
  generalize "http://".toList = scheme
  simp [leadText]

/-- Whatever the key is, the address names the host and the socket of the base; its path is walked
along the key. -/
theorem parse?_start (names : base.Names host socket) (key : String) :
    ∃ query fragment,
      parse? s!"{base.text}/process-definition/key/{key}/start" =
        some ⟨"http", none, some host, socket, .segments (walked base key.toList), query,
          fragment⟩ ∧
      ((∀ c ∈ key.toList, isPathEnd c = false) → query = none ∧ fragment = none) := by
  have htext : s!"{base.text}/process-definition/key/{key}/start" =
      String.ofList ("http://".toList ++ leadText base.authority base.lead ++
        '/' :: (key.toList ++ "/star".toList) ++ ['t']) := by
    apply String.toList_inj.mp
    exact (toList_behind base key (by decide) (by decide)).trans String.toList_ofList.symm
  -- the last letter is kept apart because trimming an address looks at its ends
  have hkey : key.toList ++ "/star".toList ++ ['t'] = key.toList ++ "/start".toList := by
    rw [List.append_assoc]
    rfl
  obtain ⟨query, fragment, hparse, hnone⟩ := parse?_lead names.serves (isPlain_of_mem_lead names)
    (show 0x20 < ('t' : Char).toNat by decide) (key.toList ++ "/star".toList)
  rw [hkey] at hparse hnone
  refine ⟨query, fragment, by rw [htext]; exact hparse, fun hkeyEnds => hnone ?_⟩
  intro c hc
  have hstart : ∀ c ∈ "/start".toList, isPathEnd c = false := forall_mem_of_all (by decide)
  obtain hc | hc := List.mem_append.mp hc
  · exact hkeyEnds c hc
  · exact hstart c hc

theorem start_state (handle : Handle) (key : String) (network : Network) :
    (start handle key network).state =
      (network.send .post s!"{handle.baseUrl}/process-definition/key/{key}/start"
        (some (.json "\x7b\x7d"))).2 := by
  unfold start ask
  cases hsend : network.send .post s!"{handle.baseUrl}/process-definition/key/{key}/start"
    (some (.json "\x7b\x7d")) with
  | mk result after =>
    cases result with
    | error e => rfl
    | ok response =>
      dsimp only
      cases decodeResponse InstanceAnswer.value response <;> rfl

/-- A start reaches the peer of its base if its URL is not too long, and asks it for the path that
the walk comes to. -/
theorem received_start (names : base.Names host socket) {network : Network}
    (hpeer : network.peer = some ⟨"http", some host, socket⟩) (root key : String) :
    ∃ url : Url,
      url.path = .segments (walked base key.toList) ∧
      ((∀ c ∈ key.toList, isPathEnd c = false) →
        url = ⟨"http", none, some host, socket, .segments (walked base key.toList), none, none⟩) ∧
      (start ⟨base.text, root⟩ key network).state.received =
        if url.text.utf8ByteSize ≤ maxBytes then
          network.received ++ [⟨.post, url.target, some (.json "\x7b\x7d")⟩]
        else network.received := by
  obtain ⟨query, fragment, hparse, hnone⟩ := parse?_start names key
  generalize hurl : Url.mk "http" none (some host) socket (.segments (walked base key.toList)) query
    fragment = url at hparse
  have hpath : url.path = .segments (walked base key.toList) := by rw [← hurl]
  have hsendable : url.isSendable = decide (url.text.utf8ByteSize ≤ maxBytes) := by
    rw [isSendable, ← hurl]
    show (true && !host.text.any isUnsendable && decide _) = _
    rw [names.sendable]
    rfl
  have horigin : network.peer = some url.origin := by rw [hpeer, ← hurl, origin]
  have hcredentials : url.withoutCredentials = url := by rw [← hurl, withoutCredentials]
  refine ⟨url, hpath, ?_, ?_⟩
  · intro hends
    obtain ⟨rfl, rfl⟩ := hnone hends
    exact hurl.symm
  · rw [start_state]
    unfold Network.send
    rw [hparse]
    show Network.received (Prod.snd (if url.withoutCredentials.isSendable = false then _ else
      if network.peer = some url.withoutCredentials.origin then _ else _)) = _
    rw [hcredentials, hsendable]
    -- a URL that is too long is not sent at all
    by_cases hsize : url.text.utf8ByteSize ≤ maxBytes
    · rw [if_neg (by simpa using hsize), if_pos horigin, if_pos hsize]
      rfl
    · rw [if_pos (by simpa using hsize), if_neg hsize]

/-! ## Keys that stand for themselves -/

/-- A key that stands for itself is written as a plain segment, unless it is a dot segment. -/
theorem isPlain_percentEncode {key : List Char} (hkey : StandsForItself key)
    (hdot : key ≠ ['.']) (hdots : key ≠ ['.', '.']) : IsPlain (percentEncode pathSet key) := by
  have hdecode : percentDecode (percentEncode pathSet key) = utf8 key := by
    rw [percentDecode_percentEncode sparesEscapes_pathSet,
      percentDecode_of_not_hasEscape hkey.noEscape]
  -- nothing in the encoded key is encoded again, and it spells neither kind of dots
  refine ⟨?_, ?_, ?_⟩
  · intro c hc
    obtain rfl | hdigit | ⟨hmem, hset⟩ := mem_percentEncode hc
    · decide
    · have hset : pathSet c = false := by
        rw [Bool.eq_false_iff]
        intro hset
        rw [sparesEscapes_pathSet.digit hset] at hdigit
        cases hdigit
      refine ⟨hset, ?_⟩
      rw [Bool.eq_false_iff]
      intro hslash
      have hnone : ∀ d ∈ ['/', '\\'], hexValue? d = none := forall_mem_of_all (by decide)
      rw [hnone c (by simpa [isSlash] using hslash)] at hdigit
      cases hdigit
    · exact ⟨hset, (hkey.written c hmem).1⟩
  · rw [Bool.eq_false_iff]
    intro h
    exact hdot (utf8_injective (hdecode.symm.trans (percentDecode_of_isDot h)))
  · rw [Bool.eq_false_iff]
    intro h
    exact hdots (utf8_injective (hdecode.symm.trans (percentDecode_of_isDoubleDot h)))

/-- A key that stands for itself makes one segment, unless it is made of dots. -/
theorem walked_of_standsForItself (base : Base) {key : List Char} (hkey : StandsForItself key)
    (hdot : key ≠ ['.']) (hdots : key ≠ ['.', '.']) :
    walked base key = base.lead ++ [percentEncode pathSet key, "start".toList] := by
  have hplain : ∀ s ∈ [percentEncode pathSet key, "start".toList], IsPlain s := by
    simp only [List.mem_cons, List.not_mem_nil, or_false, forall_eq_or_imp, forall_eq]
    exact ⟨isPlain_percentEncode hkey hdot hdots, isPlain_start⟩
  have hwritten : ∀ c ∈ key ++ "/start".toList, isPathEnd c = false ∧ isLeftOut c = false := by
    have hfixed : ∀ c ∈ "/start".toList, isPathEnd c = false ∧ isLeftOut c = false :=
      forall_mem_of_all (by decide)
    intro c hc
    obtain hc | hc := List.mem_append.mp hc
    · exact (hkey.written c hc).2
    · exact hfixed c hc
  -- no slash parts the key and no mark ends the path in it
  have hpieces : pathPieces (uptoEnd (visible (key ++ "/start".toList))) =
      [percentEncode pathSet key, "start".toList] := by
    rw [visible_eq_self fun c hc => (hwritten c hc).2,
      uptoEnd_eq_self fun c hc => (hwritten c hc).1]
    show pathPieces (key ++ '/' :: "start".toList) = _
    rw [pathPieces_append, pathPieces_of_no_slash fun c hc => (hkey.written c hc).1,
      pathPieces_of_isPlain isPlain_start]
    rfl
  rw [walked, hpieces]
  have h := Walk.alongAll_plain hplain ⟨base.lead.reverse, false⟩ []
  rw [List.append_nil] at h
  rw [h]
  simp [Walk.alongAll, Walk.segments]

/-- A piece of the path behind the fixed segments decodes to a key only if the key stands for
itself. -/
theorem standsForItself_of_mem {key segment : List Char}
    (hmem : segment ∈ pathPieces (uptoEnd (visible (key ++ "/start".toList))))
    (hdecode : percentDecode segment = utf8 key) : StandsForItself key := by
  let seen := uptoEnd (visible key)
  have hcases : segment ∈ pathPieces seen ∨ segment = "start".toList := by
    have hstart : visible "/start".toList = '/' :: "start".toList := by decide
    rw [visible_append, hstart] at hmem
    obtain h | h := uptoEnd_append_or (visible key)
      (show ∀ c ∈ '/' :: "start".toList, isPathEnd c = false from forall_mem_of_all (by decide))
    · rw [h] at hmem
      exact .inl hmem
    · rw [h, pathPieces_append, pathPieces_of_isPlain isPlain_start] at hmem
      exact (List.mem_append.mp hmem).imp_right List.mem_singleton.mp
  obtain hpiece | rfl := hcases
  · obtain ⟨piece, hsub, hslash, rfl⟩ := of_mem_pathPieces hpiece
    rw [percentDecode_percentEncode sparesEscapes_pathSet] at hdecode
    have hseen : seen.Sublist (visible key) := List.takeWhile_sublist _
    have hvisible : (visible key).Sublist key := List.filter_sublist
    -- a piece that is shorter than the key, or has an escape, decodes to fewer bytes
    have hlen : byteLength key = (percentDecode piece).length := by
      rw [hdecode, length_utf8]
    have hwhole : piece = key := by
      apply eq_of_sublist_of_byteLength_le ((hsub.trans hseen).trans hvisible)
      rw [hlen]
      exact length_percentDecode_le piece
    subst hwhole
    refine ⟨?_, ?_⟩
    · intro c hc
      have hmem := hsub.subset hc
      have hends : isPathEnd c = false := by
        simpa using List.all_eq_true.mp List.all_takeWhile c hmem
      have hleft : isLeftOut c = false := by
        simpa using (List.mem_filter.mp (hseen.subset hmem)).2
      exact ⟨hslash c hc, hends, hleft⟩
    · rw [Bool.eq_false_iff]
      intro hescape
      have hlt := length_percentDecode_lt hescape
      omega
  · have hstart : percentDecode "start".toList = utf8 "start".toList :=
      percentDecode_of_not_hasEscape (by decide)
    obtain rfl := utf8_injective (hstart.symm.trans hdecode)
    exact ⟨forall_mem_of_all (by decide), by decide⟩

/-! ## Requests that address a key -/

theorem slash_not_mem_startPath (names : base.Names host socket) {segment : List Char}
    (hsegment : ∀ c ∈ segment, isSlash true c = false ∧ isPathEnd c = false) :
    ∀ s ∈ base.lead ++ [segment, "start".toList], '/' ∉ s := by
  intro s hs
  simp only [List.mem_append, List.mem_cons, List.not_mem_nil, or_false] at hs
  obtain hs | rfl | rfl := hs
  · exact (isPlain_of_mem_lead names s hs).slash
  · intro hslash
    exact absurd (hsegment '/' hslash).1 (by decide)
  · exact isPlain_start.slash

theorem not_isPathEnd_of_mem_startPath (names : base.Names host socket) {segment : List Char}
    (hsegment : ∀ c ∈ segment, isSlash true c = false ∧ isPathEnd c = false) :
    ∀ c ∈ pathText (base.startPath segment), isPathEnd c = false := by
  intro c hc
  obtain ⟨s, hs, hmem⟩ := List.mem_flatMap.mp hc
  obtain rfl | hmem := List.mem_cons.mp hmem
  · decide
  · simp only [List.mem_append, List.mem_cons, List.not_mem_nil, or_false] at hs
    obtain hs | rfl | rfl := hs
    · exact (stays_of_not_pathSet ((isPlain_of_mem_lead names s hs).written c hmem).1).1
    · exact (hsegment c hmem).2
    · exact (stays_of_not_pathSet (isPlain_start.written c hmem).1).1

/-- The segments that the walk comes to behind the fixed ones are empty or pieces of what was
written there. -/
theorem mem_drop_walked {key segment : List Char}
    (h : segment ∈ (walked base key).drop base.lead.length) :
    segment = [] ∨ segment ∈ pathPieces (uptoEnd (visible (key ++ "/start".toList))) := by
  have hstart : (⟨base.lead.reverse, false⟩ : Walk).Beyond base.lead.length (fun s => s = [] ∨
      s ∈ pathPieces (uptoEnd (visible (key ++ "/start".toList)))) := by
    intro s hs
    simp [Walk.segments] at hs
  exact hstart.alongAll (.inl rfl) (fun s hs => .inr hs) segment h

theorem slash_not_mem_walked (names : base.Names host socket) (key : List Char) :
    ∀ s ∈ walked base key, '/' ∉ s := by
  have hstart : (⟨base.lead.reverse, false⟩ : Walk).Beyond 0 (fun s => '/' ∉ s) := by
    intro s hs
    simp only [Walk.segments, List.reverse_reverse, List.drop_zero] at hs
    exact (isPlain_of_mem_lead names s hs).slash
  refine hstart.alongAll List.not_mem_nil fun s hs => ?_
  exact (Text.sublist_of_mem_pieces hs).2

/-- A start with a key addresses it just if the key stands for itself and the URL is not too
long. -/
theorem addresses_iff (names : base.Names host socket) {network : Network}
    (hpeer : network.peer = some ⟨"http", some host, socket⟩) (root : String) {key : String}
    (hkey : key ∉ ["", ".", ".."]) :
    base.Addresses key network (start ⟨base.text, root⟩ key network).state ↔
      StandsForItself key.toList ∧
        (base.startUrl host socket key).text.utf8ByteSize ≤ maxBytes := by
  obtain ⟨url, hpath, hplain, hreceived⟩ := received_start names hpeer root key
  have hne : ∀ text ∈ ["", ".", ".."], key.toList ≠ text.toList := by
    intro text hmem heq
    rw [String.toList_inj.mp heq] at hkey
    exact hkey hmem
  have hurl : StandsForItself key.toList → url = base.startUrl host socket key := by
    intro hself
    rw [hplain fun c hc => (hself.written c hc).2.1,
      walked_of_standsForItself base hself (hne "." (by simp)) (hne ".." (by simp))]
    rfl
  constructor
  · rintro ⟨segment, hsegment, hdecode, hrequest⟩
    rw [data_toUTF8] at hdecode
    rw [hreceived] at hrequest
    -- something was sent, so the URL is not too long
    have hsize : url.text.utf8ByteSize ≤ maxBytes := by
      refine Classical.byContradiction fun hlong => ?_
      rw [if_neg hlong] at hrequest
      exact absurd hrequest (by simp)
    rw [if_pos hsize] at hrequest
    have htarget : url.target = String.ofList (pathText (base.startPath segment)) := by
      have hlast := List.append_cancel_left hrequest
      simp only [List.cons.injEq, Request.mk.injEq] at hlast
      exact hlast.1.2.1
    have htext := String.ofList_injective htarget
    -- the path that was asked for holds no mark in front of a query
    have hquery : url.query = none := by
      cases hq : url.query with
      | none => rfl
      | some q =>
        have hmem : '?' ∈ pathText (base.startPath segment) := by
          rw [← htext, hq]
          exact List.mem_append_right _ List.mem_cons_self
        exact absurd (not_isPathEnd_of_mem_startPath names hsegment '?' hmem) (by decide)
    rw [hquery, hpath, Option.map_none, Option.getD_none, List.append_nil] at htext
    have hwalked : walked base key.toList = base.lead ++ [segment, "start".toList] :=
      pathText_segments_inj (slash_not_mem_walked names _)
        (slash_not_mem_startPath names hsegment) htext
    -- the segment stands behind the fixed ones, so it was written with the key
    have hmem : segment ∈ (walked base key.toList).drop base.lead.length := by
      rw [hwalked, List.drop_left]
      exact List.mem_cons_self
    have hself : StandsForItself key.toList := by
      obtain rfl | hpiece := mem_drop_walked hmem
      · exact absurd (utf8_injective (show utf8 [] = utf8 key.toList from hdecode)).symm
          (hne "" (by simp))
      · exact standsForItself_of_mem hpiece hdecode
    refine ⟨hself, ?_⟩
    rw [← hurl hself]
    exact hsize
  · rintro ⟨hself, hsize⟩
    have hsegment := isPlain_percentEncode hself (hne "." (by simp)) (hne ".." (by simp))
    refine ⟨percentEncode pathSet key.toList, ?_, ?_, ?_⟩
    · intro c hc
      have hplain := hsegment.written c hc
      exact ⟨hplain.2, (stays_of_not_pathSet hplain.1).1⟩
    · rw [percentDecode_percentEncode sparesEscapes_pathSet,
        percentDecode_of_not_hasEscape hself.noEscape, data_toUTF8]
    · rw [hreceived, hurl hself, if_pos hsize]
      simp [target, Base.startUrl]

/-- A request that addresses a key addresses no other. -/
theorem key_unique_of_addresses (names : base.Names host socket) {key other : String}
    {before after before' after' : Network} (hkey : base.Addresses key before after)
    (hother : base.Addresses other before' after') (hbefore : before.received = before'.received)
    (hafter : after.received = after'.received) : key = other := by
  obtain ⟨segment, hsegment, hdecode, hreceived⟩ := hkey
  obtain ⟨segment', hsegment', hdecode', hreceived'⟩ := hother
  rw [hafter, hreceived', hbefore] at hreceived
  have hlast := List.append_cancel_left hreceived
  simp only [List.cons.injEq, Request.mk.injEq] at hlast
  have hpath := pathText_segments_inj (slash_not_mem_startPath names hsegment')
    (slash_not_mem_startPath names hsegment) (String.ofList_injective hlast.1.2.1)
  have hsame := List.append_cancel_left hpath
  rw [List.cons.injEq] at hsame
  rw [hsame.1, hdecode, data_toUTF8, data_toUTF8] at hdecode'
  exact String.toList_inj.mp (utf8_injective hdecode')

/-- A start with a key that is no dot segment addresses the key just if the key stands for itself
and the URL is not too long, and different keys that are addressed are asked for differently. -/
theorem start_addresses_key_iff (names : base.Names host socket) {network : Network}
    (hpeer : network.peer = some ⟨"http", some host, socket⟩) (root : String) {key : String}
    (hkey : key ∉ ["", ".", ".."]) :
    (base.Addresses key network (start ⟨base.text, root⟩ key network).state ↔
      StandsForItself key.toList ∧
        (base.startUrl host socket key).text.utf8ByteSize ≤ maxBytes) ∧
    ∀ other,
      base.Addresses key network (start ⟨base.text, root⟩ key network).state →
      base.Addresses other network (start ⟨base.text, root⟩ other network).state →
      (start ⟨base.text, root⟩ key network).state.received =
        (start ⟨base.text, root⟩ other network).state.received →
      key = other :=
  ⟨addresses_iff names hpeer root hkey, fun _ hself hother hsame =>
    key_unique_of_addresses names hself hother rfl hsame⟩

end

/-! ## A base on this computer -/

def loopback : Base := ⟨"[::1]:8080".toList, ["engine-rest".toList]⟩

def loopbackHost : Host := .ipv6 [0, 0, 0, 0, 0, 0, 0, 1]

theorem loopback_names : loopback.Names loopbackHost (some 8080) where
  serves := ⟨forall_mem_of_all (by decide), by rfl⟩
  sendable := by decide
  plain := by
    intro s hs
    obtain rfl := List.mem_singleton.mp hs
    exact ⟨forall_mem_of_all (by decide), by decide, by decide⟩

def loopbackNetwork : Network :=
  { Network.empty with peer := some ⟨"http", some loopbackHost, some 8080⟩ }

/-- A key with a space and with a percent sign that begins no escape is addressed. -/
theorem start_addresses_percent_key :
    "100 %" ∉ ["", ".", ".."] ∧
    loopback.Addresses "100 %" loopbackNetwork
      (start ⟨loopback.text, "."⟩ "100 %" loopbackNetwork).state := by
  have hkey : "100 %" ∉ ["", ".", ".."] := by decide
  refine ⟨hkey, (start_addresses_key_iff loopback_names rfl "." hkey).1.mpr ⟨⟨?_, ?_⟩, ?_⟩⟩
  · exact forall_mem_of_all (by decide)
  · decide
  · decide +kernel

/-- A slash in a key becomes a border between segments, as does a backslash. -/
theorem start_splits_key_at_slash :
    ¬ loopback.Addresses "a/b" loopbackNetwork
      (start ⟨loopback.text, "."⟩ "a/b" loopbackNetwork).state ∧
    ∀ key ∈ ["a/b", "a\\b"],
      (start ⟨loopback.text, "."⟩ key loopbackNetwork).state.received =
        [⟨.post, "/engine-rest/process-definition/key/a/b/start", some (.json "\x7b\x7d")⟩] := by
  refine ⟨?_, by decide +kernel⟩
  rw [addresses_iff loopback_names rfl "." (by decide)]
  intro h
  exact absurd (h.1.written '/' (by decide)).1 (by decide)

end ProcessLaunch.Rest
