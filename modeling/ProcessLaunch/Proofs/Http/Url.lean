import ProcessLaunch.Http.Url
import ProcessLaunch.Proofs.Http.Percent
import ProcessLaunch.Proofs.Text.Pieces

/-!
# Plain paths

What a URL comes to whose path begins with plain segments.  A walk along these keeps them all, and
whatever else it goes along, the segments that it ends with behind them are pieces of the text.
-/

namespace ProcessLaunch.Http

open ProcessLaunch.Text (hexValue? pieces)

/-- A separator that encoding neither writes nor touches separates the same pieces, encoded. -/
theorem pieces_percentEncode {set : Char → Bool} {separator : Char} (hset : set separator = false)
    (hpercent : separator ≠ '%') (hdigit : hexValue? separator = none) (s : List Char) :
    pieces separator (percentEncode set s) = (pieces separator s).map (percentEncode set) := by
  have hnot : ∀ {s}, separator ∉ s → separator ∉ percentEncode set s := by
    intro s hs hmem
    obtain h | h | h := mem_percentEncode hmem
    · exact hpercent h
    · rw [hdigit] at h
      cases h
    · exact hs h.1
  induction s with
  | nil => rfl
  | cons c s ih =>
    by_cases hc : c = separator
    · subst hc
      rw [percentEncode_cons_of_not_mem hset, pieces, if_pos rfl, ih, pieces, if_pos rfl]
      rfl
    · obtain ⟨first, more, hpieces⟩ := List.exists_cons_of_ne_nil (Text.pieces_ne_nil separator s)
      rw [pieces, if_neg hc, hpieces]
      rw [hpieces, List.map_cons] at ih
      -- what the character is written as goes into the first piece of the rest
      show pieces separator (percentEncode set ([c] ++ s)) = _
      rw [percentEncode_append, Text.pieces_append (hnot (by simpa using Ne.symm hc)) ih,
        ← percentEncode_append]
      rfl

namespace Url

/-! ## Plain segments -/

/-- A segment that stands for itself and is written as it is. -/
structure IsPlain (segment : List Char) : Prop where
  written : ∀ c ∈ segment, pathSet c = false ∧ isSlash true c = false
  notDot : isDot segment = false
  notDoubleDot : isDoubleDot segment = false

theorem IsPlain.slash {segment : List Char} (h : IsPlain segment) : '/' ∉ segment := fun hmem =>
  absurd (h.written '/' hmem).2 (by decide)

theorem turnSlashes_eq_self {s : List Char} (h : ∀ c ∈ s, isSlash true c = false) :
    turnSlashes true s = s := by
  have hid : s.map (fun c => if isSlash true c = true then '/' else c) = s.map id := by
    apply List.map_congr_left
    intro c hc
    rw [h c hc]
    rfl
  exact hid.trans (List.map_id s)

def pathPieces (s : List Char) : List (List Char) :=
  pieces '/' (percentEncode pathSet (turnSlashes true s))

theorem pathPieces_append (s t : List Char) :
    pathPieces (s ++ '/' :: t) = pathPieces s ++ pathPieces t := by
  have hturn : turnSlashes true (s ++ '/' :: t) = turnSlashes true s ++ '/' :: turnSlashes true t :=
    List.map_append
  rw [pathPieces, hturn, percentEncode_append,
    percentEncode_cons_of_not_mem (show pathSet '/' = false by decide), Text.pieces_append_cons]
  rfl

/-- The pieces of a path are texts between its slashes, encoded. -/
theorem pathPieces_eq (s : List Char) :
    pathPieces s = (pieces '/' (turnSlashes true s)).map (percentEncode pathSet) :=
  pieces_percentEncode (by decide) (by decide) (by decide) _

theorem pathPieces_of_no_slash {s : List Char} (h : ∀ c ∈ s, isSlash true c = false) :
    pathPieces s = [percentEncode pathSet s] := by
  have hslash : '/' ∉ s := fun hmem => absurd (h '/' hmem) (by decide)
  rw [pathPieces_eq, turnSlashes_eq_self h, Text.pieces_of_not_mem hslash]
  rfl

theorem pathPieces_of_isPlain {segment : List Char} (h : IsPlain segment) :
    pathPieces segment = [segment] := by
  rw [pathPieces_of_no_slash fun c hc => (h.written c hc).2,
    percentEncode_eq_self fun c hc => (h.written c hc).1]

/-- A piece of a path is part of its text, encoded, without slashes of either kind. -/
theorem of_mem_pathPieces {s segment : List Char} (h : segment ∈ pathPieces s) :
    ∃ piece, piece.Sublist s ∧ (∀ c ∈ piece, isSlash true c = false) ∧
      percentEncode pathSet piece = segment := by
  rw [pathPieces_eq] at h
  obtain ⟨turned, hmem, rfl⟩ := List.mem_map.mp h
  obtain ⟨hsub, hslash⟩ := Text.sublist_of_mem_pieces hmem
  obtain ⟨piece, hpiece, rfl⟩ := List.sublist_map_iff.mp hsub
  have hnone : ∀ c ∈ piece, isSlash true c = false := by
    intro c hc
    rw [Bool.eq_false_iff]
    intro hturn
    apply hslash
    rw [List.mem_map]
    exact ⟨c, hc, if_pos hturn⟩
  refine ⟨piece, hpiece, hnone, ?_⟩
  exact congrArg (percentEncode pathSet) (turnSlashes_eq_self hnone).symm

/-! ## Dot segments -/

/-- Only ASCII letters change their case. -/
theorem toLower_eq_self_or_lt (c : Char) : c.toLower = c ∨ c.toNat < 0x80 := by
  unfold Char.toLower
  split
  · next h =>
    refine .inr ?_
    have hle : c.toNat ≤ 'Z'.toNat := h.2
    have hz : 'Z'.toNat = 90 := rfl
    omega
  · exact .inl rfl

theorem eq_of_toLower {c d : Char} (h : c.toLower = d) (hd : d.isLower = false) : c = d := by
  have hascii : ∀ n < 0x80, (Char.ofNat n).toLower.isLower = false →
      Char.ofNat n = (Char.ofNat n).toLower := by decide
  obtain hself | hlt := toLower_eq_self_or_lt c
  · exact hself.symm.trans h
  · have hc := hascii c.toNat hlt
    rw [Char.ofNat_toNat, h] at hc
    exact hc hd

theorem hexValue?_toLower (c : Char) : hexValue? c.toLower = hexValue? c := by
  have hascii : ∀ n < 0x80, hexValue? (Char.ofNat n).toLower = hexValue? (Char.ofNat n) := by
    decide
  obtain hself | hlt := toLower_eq_self_or_lt c
  · rw [hself]
  · have hc := hascii c.toNat hlt
    rwa [Char.ofNat_toNat] at hc

def dots : List (List Char) := [['.'], ['%', '2', 'e']]

theorem percentDecode_dot {s : List Char} (h : s.map Char.toLower ∈ dots) (rest : List Char) :
    percentDecode (s ++ rest) = 0x2e :: percentDecode rest := by
  obtain h | h := List.mem_cons.mp h
  · obtain ⟨c, rfl, hc⟩ := List.map_eq_singleton_iff.mp h
    obtain rfl := eq_of_toLower hc (by decide)
    exact percentDecode_cons rfl
  · have h := List.mem_singleton.mp h
    obtain ⟨a, s, rfl, ha, h⟩ := List.map_eq_cons_iff.mp h
    obtain ⟨b, s, rfl, hb, h⟩ := List.map_eq_cons_iff.mp h
    obtain ⟨c, rfl, hc⟩ := List.map_eq_singleton_iff.mp h
    obtain rfl := eq_of_toLower ha (by decide)
    have hb : hexValue? b = some 2 := by rw [← hexValue?_toLower, hb]; decide
    have hc : hexValue? c = some 14 := by rw [← hexValue?_toLower, hc]; decide
    exact percentDecode_escape hb hc rest

theorem mem_of_contains_ofList {s : List Char} {texts : List String}
    (h : texts.contains (String.ofList s) = true) : s ∈ texts.map String.toList := by
  have hmem := List.mem_map_of_mem (f := String.toList) (List.contains_iff_mem.mp h)
  rwa [String.toList_ofList] at hmem

/-- A segment for the directory that it is in decodes to a dot. -/
theorem percentDecode_of_isDot {s : List Char} (h : isDot s = true) :
    percentDecode s = utf8 ['.'] := by
  have hdecode := percentDecode_dot (mem_of_contains_ofList h) []
  rw [List.append_nil] at hdecode
  exact hdecode

/-- A segment for the directory above decodes to two dots. -/
theorem percentDecode_of_isDoubleDot {s : List Char} (h : isDoubleDot s = true) :
    percentDecode s = utf8 ['.', '.'] := by
  have hpairs : ∀ t ∈ ["..", ".%2e", "%2e.", "%2e%2e"].map String.toList,
      ∃ a ∈ dots, ∃ b ∈ dots, t = a ++ b := by decide
  obtain ⟨a, ha, b, hb, hab⟩ := hpairs _ (mem_of_contains_ofList h)
  obtain ⟨s, t, rfl, rfl, rfl⟩ := List.map_eq_append_iff.mp hab
  have hdecode := percentDecode_dot hb []
  rw [List.append_nil] at hdecode
  rw [percentDecode_dot ha, hdecode]
  rfl

/-! ## Walks -/

namespace Walk

/-- A walk goes down into plain segments one by one. -/
theorem alongAll_plain {list : List (List Char)} (hplain : ∀ s ∈ list, IsPlain s) (w : Walk)
    (rest : List (List Char)) :
    w.alongAll (list ++ rest) =
      ({ w with above := list.reverse ++ w.above } : Walk).alongAll rest := by
  induction list generalizing w with
  | nil => rfl
  | cons s list ih =>
    have hs := hplain s (by simp)
    -- whether a segment is the last one matters behind dots only
    have hstep : ∀ last, w.along s last = w.down s := by
      intro last
      rw [along, hs.notDot, hs.notDoubleDot]
      rfl
    rw [List.cons_append, alongAll, hstep, ih fun t ht => hplain t (by simp [ht])]
    simp [down]

/-- Whether all segments of a path but the first `n` satisfy a predicate. -/
def Beyond (n : Nat) (P : List Char → Prop) (w : Walk) : Prop := ∀ s ∈ w.segments.drop n, P s

variable {n : Nat} {P : List Char → Prop} {w : Walk}

theorem Beyond.down {segment : List Char} (h : w.Beyond n P) (hs : P segment) :
    (w.down segment).Beyond n P := by
  intro s hmem
  rw [segments, Walk.down, List.reverse_cons, List.drop_append] at hmem
  obtain hmem | hmem := List.mem_append.mp hmem
  · exact h s hmem
  · obtain rfl := List.mem_singleton.mp (List.mem_of_mem_drop hmem)
    exact hs

/-- A way up only takes a segment away, so what holds of the segments beyond still holds. -/
theorem Beyond.up (h : w.Beyond n P) : w.up.Beyond n P := by
  unfold Walk.up
  split
  · exact h
  · intro s hmem
    refine h s ?_
    cases habove : w.above with
    | nil =>
      rw [segments, habove] at hmem
      exact absurd hmem (by simp)
    | cons last above =>
      rw [segments, habove] at hmem ⊢
      rw [List.reverse_cons, List.drop_append]
      exact List.mem_append_left _ hmem

/-- A segment adds itself, or nothing, or an empty segment behind dots. -/
theorem Beyond.along {segment : List Char} {last : Bool} (h : w.Beyond n P) (hempty : P [])
    (hs : P segment) : (w.along segment last).Beyond n P := by
  -- behind dots, the last segment is empty
  have hstop : ∀ {w : Walk}, w.Beyond n P → (if last then w.down [] else w).Beyond n P := by
    intro w h
    split
    · exact h.down hempty
    · exact h
  show Beyond n P (if isDoubleDot segment then if last then w.up.down [] else w.up
    else if isDot segment then if last then w.down [] else w else w.down segment)
  split
  · exact hstop h.up
  · split
    · exact hstop h
    · exact h.down hs

theorem Beyond.alongAll {list : List (List Char)} (h : w.Beyond n P) (hempty : P [])
    (hlist : ∀ s ∈ list, P s) : (w.alongAll list).Beyond n P := by
  induction list generalizing w with
  | nil => exact h
  | cons s list ih =>
    exact ih (h.along hempty (hlist s (by simp))) fun t ht => hlist t (by simp [ht])

end Walk

/-! ## Text of a path -/

/-- Segments without slashes can be told from the text of their path. -/
theorem pathText_segments_inj {list list' : List (List Char)} (h : ∀ s ∈ list, '/' ∉ s)
    (h' : ∀ s ∈ list', '/' ∉ s)
    (htext : pathText (.segments list) = pathText (.segments list')) : list = list' := by
  have hpieces : ∀ list : List (List Char), (∀ s ∈ list, '/' ∉ s) →
      pieces '/' (pathText (.segments list)) = [] :: list := by
    intro list h
    induction list with
    | nil => rfl
    | cons s list ih =>
      have hrest := ih fun t ht => h t (by simp [ht])
      show pieces '/' ('/' :: s ++ pathText (.segments list)) = _
      rw [List.cons_append, pieces, if_pos rfl, Text.pieces_append (h s (by simp)) hrest,
        List.append_nil]
  have hcons := hpieces list h
  rw [htext, hpieces list' h'] at hcons
  exact (List.cons.inj hcons).2.symm

/-! ## Parsing behind an authority -/

/-- An authority that ends where the path begins, and names a host and a socket and no user. -/
structure Serves (authority : List Char) (host : Host) (socket : Option Nat) : Prop where
  delimited : ∀ c ∈ authority, isSlash true c = false ∧ isPathEnd c = false ∧ isLeftOut c = false
  read : authority? "http" authority true = some ⟨none, host, socket, []⟩

theorem Serves.ne_nil {authority : List Char} {host : Host} {socket : Option Nat}
    (h : Serves authority host socket) : authority ≠ [] := by
  rintro rfl
  have hnone : authority? "http" [] true = none := rfl
  have hread := h.read
  rw [hnone] at hread
  cases hread

theorem scheme?_http (s : List Char) : scheme? ("http:".toList ++ s) = some ("http", s) := rfl

/-- Nothing is trimmed of a text whose ends are neither controls nor spaces. -/
theorem trimmedEnds_eq_self {first last : Char} (hfirst : 0x20 < first.toNat)
    (hlast : 0x20 < last.toNat) (s : List Char) :
    trimmedEnds (first :: s ++ [last]) = first :: s ++ [last] := by
  have hedge : ∀ {c : Char} (s : List Char), 0x20 < c.toNat →
      (c :: s).dropWhile (fun c => decide (c.toNat ≤ 0x20)) = c :: s := by
    intro c s hc
    rw [List.dropWhile_cons, if_neg (by simpa using hc)]
  show ((List.dropWhile _ (first :: (s ++ [last]))).reverse.dropWhile _).reverse = _
  rw [hedge _ hfirst, ← List.cons_append, List.reverse_append, List.reverse_singleton,
    List.singleton_append, hedge _ hlast, List.reverse_cons, List.reverse_reverse]

/-- Plain segments in front of a text are its first pieces. -/
theorem exists_path_behind_slash {list : List (List Char)} (hplain : ∀ s ∈ list, IsPlain s)
    (s : List Char) :
    ∃ behind, list.flatMap ('/' :: ·) ++ '/' :: s = '/' :: behind ∧
      pathPieces behind = list ++ pathPieces s := by
  induction list with
  | nil => exact ⟨s, rfl, rfl⟩
  | cons first list ih =>
    obtain ⟨behind, htext, hpieces⟩ := ih fun t ht => hplain t (by simp [ht])
    refine ⟨first ++ '/' :: behind, ?_, ?_⟩
    · rw [List.flatMap_cons, List.append_assoc, htext, List.cons_append]
    · rw [pathPieces_append, pathPieces_of_isPlain (hplain first (by simp)), hpieces]
      rfl

/-- Behind an authority that serves, all that is left to read is the path. -/
theorem ofAuthority?_of_serves {authority : List Char} {host : Host} {socket : Option Nat}
    (h : Serves authority host socket) (behind : List Char) (query fragment : Option (List Char)) :
    ofAuthority? "http" (authority ++ '/' :: behind) query fragment =
      some ⟨"http", none, some host, socket, .segments (segmentsOf true behind), query,
        fragment⟩ := by
  have hspecial : isSpecial "http" = true := by decide
  have hnot : ∀ c ∈ authority, (!isSlash true c) = true := by
    intro c hc
    rw [(h.delimited c hc).1]
    rfl
  have hslash : isSlash true '/' = true := by decide
  -- no slash stands in the authority, so it ends at the first one
  have hbefore : (authority ++ '/' :: behind).takeWhile (fun c => !isSlash true c) = authority := by
    rw [List.takeWhile_append_of_pos hnot, List.takeWhile_cons, hslash]
    simp
  have hrest : (authority ++ '/' :: behind).dropWhile (fun c => !isSlash true c) =
      '/' :: behind := by
    rw [List.dropWhile_append_of_pos hnot, List.dropWhile_cons, hslash]
    simp
  unfold ofAuthority?
  simp only [hspecial, hbefore, hrest]
  simp [h.read, pathBehind, hslash]

theorem visible_append (s t : List Char) : visible (s ++ t) = visible s ++ visible t :=
  List.filter_append s t

theorem visible_eq_self {s : List Char} (h : ∀ c ∈ s, isLeftOut c = false) : visible s = s := by
  rw [visible, List.filter_eq_self]
  intro c hc
  rw [h c hc]
  rfl

/-- What of a text a path can hold: all before the first mark that ends one. -/
def uptoEnd (s : List Char) : List Char := s.takeWhile (!isPathEnd ·)

theorem uptoEnd_append {s : List Char} (h : ∀ c ∈ s, isPathEnd c = false) (t : List Char) :
    uptoEnd (s ++ t) = s ++ uptoEnd t := by
  apply List.takeWhile_append_of_pos
  intro c hc
  rw [h c hc]
  rfl

theorem uptoEnd_eq_self {s : List Char} (h : ∀ c ∈ s, isPathEnd c = false) : uptoEnd s = s := by
  have happend := uptoEnd_append h []
  rw [List.append_nil] at happend
  exact happend.trans (List.append_nil s)

/-- What stands behind an end of a path is not part of it. -/
theorem uptoEnd_append_or (s : List Char) {t : List Char} (h : ∀ c ∈ t, isPathEnd c = false) :
    uptoEnd (s ++ t) = uptoEnd s ∨ uptoEnd (s ++ t) = uptoEnd s ++ t := by
  have hself : List.takeWhile (!isPathEnd ·) t = t := uptoEnd_eq_self h
  rw [uptoEnd, List.takeWhile_append, hself]
  split
  · next hlen =>
    have hwhole : uptoEnd s = s := (List.takeWhile_prefix _).eq_of_length hlen
    exact .inr (by rw [hwhole])
  · exact .inl rfl

/-- The path ends at the first of the two marks, whichever is cut off first. -/
theorem uptoEnd_eq (s : List Char) :
    (s.takeWhile (· != '#')).takeWhile (· != '?') = uptoEnd s := by
  induction s with
  | nil => rfl
  | cons c s ih =>
    rw [uptoEnd] at ih ⊢
    by_cases hhash : c = '#'
    · subst hhash
      rfl
    · by_cases hquery : c = '?'
      · subst hquery
        rfl
      · simp [isPathEnd, hhash, hquery, ih]

/-- Behind the scheme a URL is its authority and path, with a query and a fragment only where a path
ends early. -/
theorem parse?_http {text : String} {rest : List Char}
    (h : visible (trimmedEnds text.toList) = "http:".toList ++ rest) :
    ∃ query fragment,
      parse? text =
        ofAuthority? "http" ((uptoEnd rest).dropWhile (isSlash true)) query fragment ∧
      ((∀ c ∈ rest, isPathEnd c = false) → query = none ∧ fragment = none) := by
  let behindEnd (s beforeEnd : List Char) (set : Char → Bool) : Option (List Char) :=
    if beforeEnd.length = s.length then none
    else some (percentEncode set (s.drop (beforeEnd.length + 1)))
  refine ⟨behindEnd (rest.takeWhile (· != '#')) ((rest.takeWhile (· != '#')).takeWhile (· != '?'))
      specialQuerySet, behindEnd rest (rest.takeWhile (· != '#')) fragmentSet, ?_, ?_⟩
  · rw [← uptoEnd_eq]
    unfold parse?
    simp only [h, scheme?_http, Option.bind_eq_bind, Option.bind_some]
    rfl
  · intro hrest
    -- neither mark stands in the text, so neither cuts it
    have hself : ∀ e, isPathEnd e = true → rest.takeWhile (· != e) = rest := by
      intro e he
      have hne : ∀ c ∈ rest, (c != e) = true := by
        intro c hc
        rw [bne_iff_ne]
        rintro rfl
        rw [hrest c hc] at he
        cases he
      have happend : (rest ++ []).takeWhile (· != e) = rest ++ [] :=
        List.takeWhile_append_of_pos hne
      simpa using happend
    rw [hself '#' (by decide), hself '?' (by decide)]
    exact ⟨if_pos rfl, if_pos rfl⟩

theorem stays_of_not_pathSet {c : Char} (h : pathSet c = false) :
    isPathEnd c = false ∧ isLeftOut c = false := by
  have hends : ∀ d ∈ ['?', '#', '\t', '\n', '\r'], c ≠ d := by
    rintro d hd rfl
    have hset : ∀ d ∈ ['?', '#', '\t', '\n', '\r'], pathSet d = true :=
      forall_mem_of_all (by decide)
    rw [hset c hd] at h
    cases h
  simpa [isPathEnd, isLeftOut, and_assoc] using hends

def leadText (authority : List Char) (list : List (List Char)) : List Char :=
  authority ++ list.flatMap ('/' :: ·)

/-- Nothing in front of the key ends the path or is left out. -/
theorem stays_leadText {authority : List Char} {host : Host} {socket : Option Nat}
    (h : Serves authority host socket) {list : List (List Char)} (hplain : ∀ s ∈ list, IsPlain s) :
    ∀ c ∈ leadText authority list, isPathEnd c = false ∧ isLeftOut c = false := by
  intro c hc
  obtain hc | hc := List.mem_append.mp hc
  · exact (h.delimited c hc).2
  · obtain ⟨s, hs, hc⟩ := List.mem_flatMap.mp hc
    obtain rfl | hc := List.mem_cons.mp hc
    · decide
    · exact stays_of_not_pathSet ((hplain s hs).written c hc).1

/-- A URL behind a served authority: the walk goes along the plain segments, and then along what can
be seen of the text behind them up to its first end. -/
theorem parse?_lead {authority : List Char} {host : Host} {socket : Option Nat}
    (h : Serves authority host socket) {list : List (List Char)} (hplain : ∀ s ∈ list, IsPlain s)
    {last : Char} (hlast : 0x20 < last.toNat) (s : List Char) :
    ∃ query fragment,
      parse? (String.ofList ("http://".toList ++ leadText authority list ++ '/' :: s ++ [last])) =
        some ⟨"http", none, some host, socket,
          .segments ((⟨list.reverse, false⟩ : Walk).alongAll
            (pathPieces (uptoEnd (visible (s ++ [last]))))).segments,
          query, fragment⟩ ∧
      ((∀ c ∈ s ++ [last], isPathEnd c = false) → query = none ∧ fragment = none) := by
  -- nothing up to the last fixed slash is left out or ends the path
  let front := "//".toList ++ leadText authority list ++ ['/']
  have hfront : ∀ c ∈ front, isPathEnd c = false ∧ isLeftOut c = false := by
    intro c hc
    obtain hc | hc := List.mem_append.mp hc
    · have hslashes : ∀ c ∈ "//".toList, isPathEnd c = false ∧ isLeftOut c = false :=
        forall_mem_of_all (by decide)
      obtain hc | hc := List.mem_append.mp hc
      · exact hslashes c hc
      · exact stays_leadText h hplain c hc
    · obtain rfl := List.mem_singleton.mp hc
      decide
  have hvisible : visible (trimmedEnds (String.ofList ("http://".toList ++
      leadText authority list ++ '/' :: s ++ [last])).toList) =
        "http:".toList ++ (front ++ visible (s ++ [last])) := by
    have htrim : trimmedEnds ("http://".toList ++ leadText authority list ++ '/' :: s ++ [last]) =
        "http:".toList ++ (front ++ (s ++ [last])) := by
      have hself := trimmedEnds_eq_self (show 0x20 < 'h'.toNat by decide) hlast
        ("ttp://".toList ++ leadText authority list ++ '/' :: s)
      refine hself.trans ?_
      simp [front]
    rw [String.toList_ofList, htrim, visible_append, visible_append,
      visible_eq_self (s := "http:".toList) (forall_mem_of_all (by decide)),
      visible_eq_self fun c hc => (hfront c hc).2]
  obtain ⟨query, fragment, hparse, hnone⟩ := parse?_http hvisible
  refine ⟨query, fragment, ?_, ?_⟩
  · have hends : (uptoEnd (front ++ visible (s ++ [last]))).dropWhile (isSlash true) =
        authority ++ (list.flatMap ('/' :: ·) ++ '/' :: uptoEnd (visible (s ++ [last]))) := by
      obtain ⟨a, more, rfl⟩ := List.exists_cons_of_ne_nil h.ne_nil
      have ha := (h.delimited a (by simp)).1
      rw [uptoEnd_append fun c hc => (hfront c hc).1]
      simp [front, leadText, uptoEnd, ha, show isSlash true '/' = true by decide]
    obtain ⟨path, hpath, hpieces⟩ :=
      exists_path_behind_slash hplain (uptoEnd (visible (s ++ [last])))
    rw [hparse, hends, hpath, ofAuthority?_of_serves h]
    have hwalk : segmentsOf true path = (Walk.start.alongAll (pathPieces path)).segments := rfl
    rw [hwalk, hpieces, Walk.alongAll_plain hplain]
    simp [Walk.start]
  · intro hs
    apply hnone
    intro c hc
    obtain hc | hc := List.mem_append.mp hc
    · exact (hfront c hc).1
    · exact hs c (List.mem_filter.mp hc).1

end Url

end ProcessLaunch.Http
