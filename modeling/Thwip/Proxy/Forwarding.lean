/-
  Thwip.Proxy.Forwarding — what the upstream reads.

  The forwarded bytes are a block of clean lines, so the first blank line is
  the encoder's own and the whole head is read back line by line
  (`forwarded_reads_back`).  The one client-chosen thing that reaches the
  framing is the header FILTER: a `Connection` header may list
  `content-length`, which removes the length of a body that is still sent.
-/
import Thwip.Http.Clean
import Thwip.Http.Fragmentation
import Thwip.Proxy.Upstream

namespace Thwip

open Thwip.Lib

/-! ## §1. Operator URLs. -/

/-- No ASCII whitespace and no control character. -/
def CleanUrl (url : Str) : Prop :=
  ∀ c ∈ url, isAsciiWhitespace c.toNat = false ∧ isAsciiControl c.toNat = false

instance (url : Str) : Decidable (CleanUrl url) :=
  decidable_of_iff
    (url.all (fun c => !isAsciiWhitespace c.toNat && !isAsciiControl c.toNat) = true)
    (by simp [CleanUrl])

/-- What a clean URL makes of an upstream. -/
theorem Upstream.parse_clean {url : Str} {u : Upstream} (hurl : CleanUrl url)
    (h : Upstream.parse url = .ok u) :
    VisibleText u.authority
      ∧ ∀ c ∈ u.basePath, isAsciiWhitespace c.toNat = false ∧ isAsciiControl c.toNat = false := by
  unfold Upstream.parse at h
  split at h
  · cases h
  next remainder hrem =>
    have hsub : ∀ c ∈ remainder, c ∈ url := by
      unfold stripPrefix at hrem
      split at hrem
      · injection hrem with hrem
        subst hrem
        exact fun c hc => List.mem_of_mem_drop hc
      · cases hrem
    split at h
    next authority basePath heq =>
      have hparts : (∀ c ∈ authority, c ∈ remainder)
          ∧ ∀ c ∈ basePath, c = '/' ∨ c ∈ remainder := by
        split at heq
        · cases heq
          exact ⟨fun c hc => hc, by simp⟩
        next _ path hsplit =>
          cases heq
          obtain ⟨hauth, hpath⟩ := mem_of_splitOnce hsplit
          refine ⟨hauth, fun c hc => ?_⟩
          rcases List.mem_cons.mp hc with rfl | hc
          · exact Or.inl rfl
          · exact Or.inr (hpath c hc)
      obtain ⟨hauth, hbase⟩ := hparts
      split at h
      · cases h
      next hne =>
      split at h
      · cases h
      cases hc : Upstream.connectAddressOf authority with
      | error e => rw [hc] at h; cases h
      | ok address =>
          rw [hc] at h
          cases h
          refine ⟨⟨by simpa using hne, fun c hc => hurl c (hsub c (hauth c hc))⟩,
            fun c hc => ?_⟩
          rcases hbase c hc with rfl | hc
          · decide
          · exact hurl c (hsub c hc)

theorem Upstream.targetFor_visible {u : Upstream} {request : RequestHead}
    (hbase : ∀ c ∈ u.basePath, isAsciiWhitespace c.toNat = false ∧ isAsciiControl c.toNat = false)
    (ht : VisibleText request.target) : VisibleText (u.targetFor request) := by
  unfold Upstream.targetFor
  split
  · exact ht
  · refine ⟨by simp [ht.1], fun c hc => ?_⟩
    rcases List.mem_append.mp hc with hc | hc
    · exact hbase c ((List.rdropWhile_prefix _ _).subset hc)
    · exact ht.2 c hc

/-! ## §2. The forwarded head as lines. -/

/-- `name` is listed in one of the request's `Connection` headers: a piece
between commas which is `name` up to surrounding whitespace and case. -/
def ListsConnectionOption (request : RequestHead) (name : Str) : Prop :=
  ∃ header ∈ request.headers, header.name = "connection".toList
    ∧ ∃ piece ∈ header.value.splitOn ',', toAsciiLowercase (trim piece) = name

instance (request : RequestHead) (name : Str) :
    Decidable (ListsConnectionOption request name) :=
  inferInstanceAs (Decidable (∃ header ∈ request.headers, _ ∧ ∃ _ ∈ _, _))

/-- The headers that are about one connection only, or that the worker writes itself. -/
def ownNames : List Str :=
  ["host".toList, "connection".toList, "proxy-connection".toList, "keep-alive".toList,
    "transfer-encoding".toList, "upgrade".toList]

/-- The headers that are forwarded, in their order and multiplicity. -/
def forwardedHeaders (request : RequestHead) : List Header :=
  request.headers.filter (fun header =>
    header.name ∉ ownNames ∧ ¬ ListsConnectionOption request header.name)

/-- The head the upstream is meant to read. -/
def Upstream.forwardedHead (u : Upstream) (request : RequestHead) : RequestHead :=
  { method := request.method
    target := trimEndMatches (· == '/') u.basePath ++ request.target
    version := .http11
    headers := [{ name := "host".toList, value := u.authority }]
      ++ forwardedHeaders request
      ++ [{ name := "connection".toList, value := "close".toList }] }

theorem Upstream.targetFor_eq (u : Upstream) (request : RequestHead) :
    u.targetFor request = trimEndMatches (· == '/') u.basePath ++ request.target := by
  unfold Upstream.targetFor
  split
  next h =>
    rw [List.isEmpty_iff.mp h]
    rfl
  next => rfl

theorem mem_connectionHeaders {request : RequestHead} {name : Str} :
    name ∈ connectionHeaders request ↔ ListsConnectionOption request name := by
  unfold connectionHeaders ListsConnectionOption
  simp only [List.mem_map, List.mem_flatMap, List.mem_filter, beq_iff_eq]
  constructor
  · rintro ⟨piece, ⟨header, ⟨hmem, hname⟩, hpiece⟩, rfl⟩
    exact ⟨header, hmem, hname, piece, hpiece, rfl⟩
  · rintro ⟨header, hmem, hname, piece, hpiece, rfl⟩
    exact ⟨piece, ⟨header, ⟨hmem, hname⟩, hpiece⟩, rfl⟩

theorem mem_forwardedHeaders {request : RequestHead} {header : Header} :
    header ∈ forwardedHeaders request
      ↔ header ∈ request.headers ∧ header.name ∉ ownNames
        ∧ ¬ ListsConnectionOption request header.name := by
  unfold forwardedHeaders
  rw [List.mem_filter, decide_eq_true_eq]

theorem isHopByHop_iff {name : Str} : isHopByHop name = true ↔ name ∈ ownNames := by
  unfold isHopByHop ownNames
  simp only [Bool.or_eq_true, beq_iff_eq, List.mem_cons, List.not_mem_nil, or_false, or_assoc]

/-- The encoder's own filter is that one. -/
theorem filter_dropped_eq_forwardedHeaders (request : RequestHead) :
    request.headers.filter (fun header =>
        !(isHopByHop header.name || (connectionHeaders request).contains header.name))
      = forwardedHeaders request := by
  unfold forwardedHeaders
  apply List.filter_congr
  intro header _
  rw [Bool.eq_iff_iff, decide_eq_true_eq, ← mem_connectionHeaders, ← isHopByHop_iff]
  simp

/-- The lines before the encoder's last one. -/
def Upstream.forwardedLines (u : Upstream) (request : RequestHead) : List Str :=
  requestLineText request.method (u.targetFor request)
    :: headerText "Host".toList u.authority
    :: (forwardedHeaders request).map (fun header => headerText header.name header.value)

theorem flatMap_forwarded (listed : List Str) (headers : List Header) :
    headers.flatMap (fun header =>
        if isHopByHop header.name || listed.contains header.name then []
        else asBytes header.name ++ asBytes ": ".toList ++ asBytes header.value
          ++ asBytes "\r\n".toList)
      = asBytes (((headers.filter (fun header =>
            !(isHopByHop header.name || listed.contains header.name))).map
          (fun header => headerText header.name header.value)).flatMap
            (· ++ ['\r', '\n'])) := by
  induction headers with
  | nil => rfl
  | cons header headers ih =>
      rw [List.flatMap_cons, List.filter_cons, ih]
      cases hdrop : (isHopByHop header.name || listed.contains header.name) with
      | true => rfl
      | false =>
          show asBytes header.name ++ asBytes ": ".toList ++ asBytes header.value
              ++ asBytes "\r\n".toList ++ _ = _
          rw [Bool.not_false, if_pos rfl, List.map_cons, List.flatMap_cons, asBytes_append,
              ← asBytes_append, ← asBytes_append, ← asBytes_append]
          congr 2
          simp [headerText]

/-- **The forwarded bytes are lines, a blank line and the body.** -/
theorem Upstream.requestBytes_eq (u : Upstream) (request : RequestHead)
    (body : List UInt8) :
    u.requestBytes request body
      = asBytes ((u.forwardedLines request).flatMap (· ++ ['\r', '\n'])
          ++ headerText "Connection".toList "close".toList)
        ++ headTerminator ++ body := by
  have hfirst : asBytes (request.method ++ " ".toList ++ u.targetFor request
        ++ " HTTP/1.1\r\nHost: ".toList ++ u.authority ++ "\r\n".toList)
      = asBytes (requestLineText request.method (u.targetFor request) ++ ['\r', '\n']
          ++ (headerText "Host".toList u.authority ++ ['\r', '\n'])) := by
    congr 1
    simp [requestLineText, headerText]
  have hclose : asBytes "Connection: close\r\n\r\n".toList
      = asBytes (headerText "Connection".toList "close".toList) ++ headTerminator := by
    decide
  unfold Upstream.requestBytes
  dsimp only
  rw [hfirst, hclose, flatMap_forwarded (connectionHeaders request) request.headers,
      filter_dropped_eq_forwardedHeaders, Upstream.forwardedLines, List.flatMap_cons,
      List.flatMap_cons]
  simp only [asBytes_append, List.append_assoc]

/-- The forwarded head without its blank line. -/
def Upstream.forwardedText (u : Upstream) (request : RequestHead) : Str :=
  (u.forwardedLines request).flatMap (· ++ ['\r', '\n'])
    ++ headerText "Connection".toList "close".toList

section ReadBack

variable {u : Upstream} {request : RequestHead}

theorem Upstream.forwardedLines_clean (hreq : request.Clean)
    (hauth : VisibleText u.authority) (ht : VisibleText (u.targetFor request)) :
    ∀ line ∈ u.forwardedLines request, '\r' ∉ line ∧ line ≠ [] := by
  intro line hline
  rcases List.mem_cons.mp hline with rfl | hline
  · refine ⟨fun hc => ?_, by simp [requestLineText]⟩
    simp only [requestLineText, List.mem_append, List.mem_cons] at hc
    rcases hc with hc | hc | hc | hc | hc
    · exact (hreq.method_token.not_separator _ hc).2.1 rfl
    · exact absurd hc (by decide)
    · exact ht.no_cr hc
    · exact absurd hc (by decide)
    · exact absurd hc (by decide)
  rcases List.mem_cons.mp hline with rfl | hline
  · refine ⟨fun hc => ?_, by simp [headerText]⟩
    simp only [headerText, List.mem_append, List.mem_cons] at hc
    rcases hc with hc | hc | hc | hc
    · exact absurd hc (by decide)
    · exact absurd hc (by decide)
    · exact absurd hc (by decide)
    · exact hauth.no_cr hc
  · obtain ⟨header, hmem, rfl⟩ := List.mem_map.mp hline
    have hclean := hreq.headers_clean header (mem_forwardedHeaders.mp hmem).1
    refine ⟨fun hc => ?_, by simp [headerText]⟩
    simp only [headerText, List.mem_append, List.mem_cons] at hc
    rcases hc with hc | hc | hc | hc
    · exact (hclean.name_token.not_separator _ hc).2.1 rfl
    · exact absurd hc (by decide)
    · exact absurd hc (by decide)
    · exact (hclean.value_no_break _ hc).1 rfl

theorem Upstream.findHeadEnd_requestBytes (hreq : request.Clean)
    (hauth : VisibleText u.authority) (ht : VisibleText (u.targetFor request))
    (body : List UInt8) :
    findHeadEnd (u.requestBytes request body)
      = some (asBytes (u.forwardedText request)).length := by
  have hlines := Upstream.forwardedLines_clean hreq hauth ht
  have hclose : IsLine (headerText "Connection".toList "close".toList) :=
    ⟨by decide, by decide⟩
  rw [u.requestBytes_eq, Upstream.forwardedText]
  exact findHeadEnd_lines hlines hclose body

theorem parseHeaders_map_headerText :
    ∀ (headers : List Header) (rest : List Str) (tail : List Header),
      (∀ header ∈ headers, header.Clean) → parseHeaders rest = .ok tail →
      parseHeaders (headers.map (fun header => headerText header.name header.value) ++ rest)
        = .ok (headers ++ tail)
  | [], _, _, _, hrest => hrest
  | header :: headers, rest, tail, h, hrest => by
      have hne : (headerText header.name header.value).isEmpty = false := by
        simp [headerText]
      rw [List.map_cons, List.cons_append, parseHeaders, hne,
          parseHeader_of_clean (h header List.mem_cons_self),
          parseHeaders_map_headerText headers rest tail
            (fun x hx => h x (List.mem_cons_of_mem _ hx)) hrest]
      rfl

/-- **The encoder's head is read back line by line.** -/
theorem Upstream.parseHead_forwardedText (hreq : request.Clean)
    (hauth : VisibleText u.authority) (ht : VisibleText (u.targetFor request)) :
    parseHead (asBytes (u.forwardedText request)) = .ok (u.forwardedHead request) := by
  have hlines := Upstream.forwardedLines_clean hreq hauth ht
  have hhost : parseHeader (headerText "Host".toList u.authority)
      = .ok { name := "host".toList, value := u.authority } := by
    refine parseHeader_headerText (by decide) ?_ ?_
    · refine trimMatches_of_forall (fun c hc => ?_)
      have hws := (hauth.2 c hc).1
      rw [Bool.eq_false_iff]
      intro hows
      simp only [isOws, Bool.or_eq_true, beq_iff_eq] at hows
      rcases hows with rfl | rfl <;> exact absurd hws (by decide)
    · refine fun c hc => ⟨?_, ?_⟩ <;> rintro rfl <;>
        exact absurd (hauth.2 _ hc).1 (by decide)
  have hlast : parseHeaders [headerText "Connection".toList "close".toList]
      = .ok [{ name := "connection".toList, value := "close".toList }] := by decide +kernel
  have hheaders := parseHeaders_map_headerText (forwardedHeaders request) _ _
    (fun header hmem => hreq.headers_clean header (mem_forwardedHeaders.mp hmem).1) hlast
  have hne : (headerText "Host".toList u.authority).isEmpty = false := by
    simp [headerText]
  unfold parseHead
  rw [fromUtf8_asBytes]
  dsimp only
  rw [Upstream.forwardedText, splitOnPair_lines _ (by decide) _
        (fun l hl => (hlines l hl).1), Upstream.forwardedLines, List.cons_append]
  dsimp only
  rw [parseRequestLine_requestLineText hreq.method_token ht, List.cons_append,
      parseHeaders, hne, hhost, hheaders, u.targetFor_eq]
  rfl

end ReadBack

/-! ## §3. What the upstream parses. -/

/-- **THE FORWARDED REQUEST IS READ BACK.**  For a head within the size limit
the upstream's parse is complete, leaves exactly the body, and has the
client's method, the prefixed target and the client's headers in order, less
the hop-by-hop ones and those a `Connection` header lists. -/
theorem forwarded_reads_back (url : Str) (u : Upstream) (raw : List UInt8)
    (request : RequestHead) (consumed : Nat)
    (hu : Upstream.parse url = .ok u) (hurl : CleanUrl url)
    (hreq : parseRequestHead raw = .ok (.complete request consumed))
    (hsize : (u.requestBytes request []).length ≤ maxRequestHeadSize + 4)
    (body : List UInt8) :
    parseRequestHead (u.requestBytes request body)
        = .ok (.complete (u.forwardedHead request) (u.requestBytes request []).length)
      ∧ (u.requestBytes request body).drop (u.requestBytes request []).length = body := by
  obtain ⟨hauth, hbase⟩ := Upstream.parse_clean hurl hu
  have hclean := parseRequestHead_clean hreq
  have ht := Upstream.targetFor_visible hbase hclean.target_visible
  have hbytes : ∀ tail, u.requestBytes request tail
      = asBytes (u.forwardedText request) ++ (headTerminator ++ tail) := by
    intro tail
    rw [u.requestBytes_eq, Upstream.forwardedText, List.append_assoc]
  have hlen : (u.requestBytes request []).length
      = (asBytes (u.forwardedText request)).length + 4 := by
    rw [hbytes, List.length_append, List.append_nil]
    rfl
  constructor
  · unfold parseRequestHead
    rw [Upstream.findHeadEnd_requestBytes hclean hauth ht body]
    dsimp only
    rw [if_neg (by omega), hbytes body, List.take_left,
        Upstream.parseHead_forwardedText hclean hauth ht, hlen]
    rfl
  · rw [hlen, hbytes body, List.drop_append]
    simp [headTerminator]

/-- `GET /x` with one ordinary and one listed header, to a base path. -/
theorem forwarded_reads_back_get :
    parseRequestHead ((Upstream.mk "u".toList "u:80".toList "/v1/".toList).requestBytes
        ⟨"GET".toList, "/x".toList, .http10,
          [⟨"connection".toList, "x-hop".toList⟩, ⟨"x-hop".toList, []⟩,
            ⟨"accept".toList, "*/*".toList⟩]⟩ [1, 2])
      = .ok (.complete
          ⟨"GET".toList, "/v1/x".toList, .http11,
            [⟨"host".toList, "u".toList⟩, ⟨"accept".toList, "*/*".toList⟩,
              ⟨"connection".toList, "close".toList⟩]⟩ 63) := by
  have h := (forwarded_reads_back "http://u/v1/".toList
    ⟨"u".toList, "u:80".toList, "/v1/".toList⟩
    (asBytes "GET /x HTTP/1.0\r\nConnection: x-hop\r\nX-Hop:\r\nAccept: */*\r\n\r\n".toList)
    ⟨"GET".toList, "/x".toList, .http10,
      [⟨"connection".toList, "x-hop".toList⟩, ⟨"x-hop".toList, []⟩,
        ⟨"accept".toList, "*/*".toList⟩]⟩ 59
    (by decide +kernel) (by decide) (by decide +kernel) (by decide +kernel) [1, 2]).1
  exact h.trans (by decide +kernel)

/-! ## §4. Framing of the forwarded body. -/

/-- The bytes declare `body` as exactly what follows their head: reading the
head's header list back through `bodyLength` gives the body's length. -/
def DeclaresBody (bytes body : List UInt8) : Prop :=
  ∃ headEnd head, findHeadEnd bytes = some headEnd
    ∧ parseHead (bytes.take headEnd) = .ok head
    ∧ bytes.drop (headEnd + 4) = body
    ∧ head.bodyLength = .ok body.length

theorem declaresBody_iff_of_parse {bytes body : List UInt8} (headEnd : Nat)
    (head : RequestHead) (hend : findHeadEnd bytes = some headEnd)
    (hhead : parseHead (bytes.take headEnd) = .ok head)
    (hbody : bytes.drop (headEnd + 4) = body) :
    DeclaresBody bytes body ↔ head.bodyLength = .ok body.length := by
  constructor
  · rintro ⟨e, h, he, hh, _, hl⟩
    rw [hend] at he
    injection he with he
    subst he
    rw [hhead] at hh
    injection hh with hh
    subst hh
    exact hl
  · intro hl
    exact ⟨headEnd, head, hend, hhead, hbody, hl⟩

/-- The forwarded `content-length` headers: all of them or none. -/
theorem filter_contentLength_forwarded (u : Upstream) (request : RequestHead) :
    (u.forwardedHead request).headers.filter
        (fun header => header.name == "content-length".toList)
      = if ListsConnectionOption request "content-length".toList then []
        else request.headers.filter
          (fun header => header.name == "content-length".toList) := by
  have hends : (u.forwardedHead request).headers.filter
        (fun header => header.name == "content-length".toList)
      = (forwardedHeaders request).filter
          (fun header => header.name == "content-length".toList) := by
    unfold Upstream.forwardedHead
    rw [List.filter_append, List.filter_append, List.filter_cons_of_neg (by simp),
        List.filter_nil, List.nil_append, List.filter_cons_of_neg (by decide),
        List.filter_nil, List.append_nil]
  rw [hends, forwardedHeaders, List.filter_filter]
  by_cases hlist : ListsConnectionOption request "content-length".toList
  · rw [if_pos hlist, List.filter_eq_nil_iff]
    intro header _ h
    simp only [Bool.and_eq_true, beq_iff_eq, decide_eq_true_eq] at h
    exact h.2.2 (h.1 ▸ hlist)
  · rw [if_neg hlist]
    apply List.filter_congr
    intro header _
    rw [Bool.eq_iff_iff, Bool.and_eq_true, beq_iff_eq, decide_eq_true_eq]
    constructor
    · exact fun h => h.1
    · intro h
      rw [h]
      exact ⟨rfl, by decide, hlist⟩

theorem no_transferEncoding_forwarded (u : Upstream) (request : RequestHead) :
    (u.forwardedHead request).headers.any
        (fun header => header.name == "transfer-encoding".toList) = false := by
  rw [List.any_eq_false]
  intro header hmem hname
  rw [beq_iff_eq] at hname
  unfold Upstream.forwardedHead at hmem
  simp only [List.mem_append, List.mem_singleton] at hmem
  rcases hmem with (rfl | hmem) | rfl
  · exact absurd (show "host".toList = "transfer-encoding".toList from hname) (by decide)
  · have := (mem_forwardedHeaders.mp hmem).2.1
    rw [hname] at this
    exact absurd this (by decide)
  · exact absurd hname (by decide)

/-- What the filter does to a request's framing. -/
theorem bodyLength_forwarded (u : Upstream) {request : RequestHead} {n : Nat}
    (hn : request.bodyLength = .ok n) :
    (u.forwardedHead request).bodyLength
      = .ok (if ListsConnectionOption request "content-length".toList then 0 else n) := by
  have hte : request.headers.any
      (fun header => header.name == "transfer-encoding".toList) = false := by
    rw [Bool.eq_false_iff]
    intro hte
    unfold RequestHead.bodyLength at hn
    rw [if_pos hte] at hn
    cases hn
  unfold RequestHead.bodyLength at hn ⊢
  rw [hte] at hn
  rw [no_transferEncoding_forwarded, filter_contentLength_forwarded]
  by_cases hlist : ListsConnectionOption request "content-length".toList
  · rw [if_pos hlist, if_pos hlist]
    rfl
  · rw [if_neg hlist, if_neg hlist]
    exact hn

/-- **FRAMING OF THE FORWARDED BODY.**  The forwarded bytes declare exactly the
body that follows them if and only if that body is empty or no `Connection`
header of the request lists `content-length`. -/
theorem forwarded_declares_body_iff (url : Str) (u : Upstream) (raw : List UInt8)
    (request : RequestHead) (consumed : Nat) (body : List UInt8)
    (hu : Upstream.parse url = .ok u) (hurl : CleanUrl url)
    (hreq : parseRequestHead raw = .ok (.complete request consumed))
    (hlen : request.bodyLength = .ok body.length) :
    DeclaresBody (u.requestBytes request body) body
      ↔ body = [] ∨ ¬ ListsConnectionOption request "content-length".toList := by
  obtain ⟨hauth, hbase⟩ := Upstream.parse_clean hurl hu
  have hclean := parseRequestHead_clean hreq
  have ht := Upstream.targetFor_visible hbase hclean.target_visible
  have hbytes : u.requestBytes request body
      = asBytes (u.forwardedText request) ++ (headTerminator ++ body) := by
    rw [u.requestBytes_eq, Upstream.forwardedText, List.append_assoc]
  rw [declaresBody_iff_of_parse _ _ (Upstream.findHeadEnd_requestBytes hclean hauth ht body)
        (by rw [hbytes, List.take_left]
            exact Upstream.parseHead_forwardedText hclean hauth ht)
        (by rw [hbytes, List.drop_append]; simp [headTerminator]),
      bodyLength_forwarded u hlen]
  by_cases hlist : ListsConnectionOption request "content-length".toList
  · rw [if_pos hlist]
    constructor
    · intro h
      injection h with h
      exact Or.inl (List.length_eq_zero_iff.mp h.symm)
    · rintro (rfl | h)
      · rfl
      · exact absurd hlist h
  · rw [if_neg hlist]
    exact ⟨fun _ => Or.inr hlist, fun _ => rfl⟩

/-- A request whose body stays declared. -/
theorem forwarded_declares_body_ping :
    DeclaresBody ((Upstream.mk "u".toList "u:80".toList []).requestBytes
        ⟨"POST".toList, "/".toList, .http11, [⟨"content-length".toList, "4".toList⟩]⟩
        (asBytes "ping".toList))
      (asBytes "ping".toList) := by
  refine (forwarded_declares_body_iff "http://u".toList _
    (asBytes "POST / HTTP/1.1\r\nContent-Length: 4\r\n\r\n".toList) _ 38 _
    (by decide +kernel) (by decide) (by decide +kernel) (by decide +kernel)).mpr (Or.inr ?_)
  decide +kernel

/-- `Connection: content-length` takes the length of a four-byte body away:
the upstream reads an empty body and `ping` as the next request. -/
theorem listed_contentLength_hides_body :
    Upstream.parse "http://u".toList = .ok ⟨"u".toList, "u:80".toList, []⟩
    ∧ CleanUrl "http://u".toList
    ∧ parseRequestHead (asBytes
          "POST / HTTP/1.1\r\nConnection: content-length\r\nContent-Length: 4\r\n\r\n".toList)
        = .ok (.complete ⟨"POST".toList, "/".toList, .http11,
            [⟨"connection".toList, "content-length".toList⟩,
              ⟨"content-length".toList, "4".toList⟩]⟩ 66)
    ∧ RequestHead.bodyLength ⟨"POST".toList, "/".toList, .http11,
            [⟨"connection".toList, "content-length".toList⟩,
              ⟨"content-length".toList, "4".toList⟩]⟩
        = .ok (asBytes "ping".toList).length
    ∧ ¬ DeclaresBody ((Upstream.mk "u".toList "u:80".toList []).requestBytes
            ⟨"POST".toList, "/".toList, .http11,
              [⟨"connection".toList, "content-length".toList⟩,
                ⟨"content-length".toList, "4".toList⟩]⟩ (asBytes "ping".toList))
          (asBytes "ping".toList) := by
  refine ⟨by decide +kernel, by decide, by decide +kernel, by decide +kernel, ?_⟩
  rw [declaresBody_iff_of_parse 43
    ⟨"POST".toList, "/".toList, .http11,
      [⟨"host".toList, "u".toList⟩, ⟨"connection".toList, "close".toList⟩]⟩
    (by decide +kernel) (by decide +kernel) (by decide +kernel)]
  decide +kernel

end Thwip
