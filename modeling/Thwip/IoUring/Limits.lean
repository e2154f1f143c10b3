/-
  Thwip.IoUring.Limits — what the configured limits bound.

  `handle_read_completion`, `start_proxy` and `insert_connection` check their
  limits.  The write limit is checked for configured responses and for upstream
  chunks only: error pages, the heads of files and their chunks go past it, so
  `writeLimitRule` needs to know that these are short.
-/
import Thwip.IoUring.Occupation

namespace Thwip.IoUring

open Thwip.Lib

variable {σ : Type} {cfg : Config σ} {env : Env σ} {w w' : IoUringWorker σ}
  {c c₁ c' : UringConnection σ} {limits : WorkerLimits} {next : Next} {acts : List Act}

/-! ## §1. The requests a connection holds. -/

/-- The upstream half of `c₁` holds the request that of `c` held, if there is one. -/
def SameRequest (c c₁ : UringConnection σ) : Prop :=
  ∀ proxy₁, c₁.proxy = some proxy₁ →
    ∃ proxy, c.proxy = some proxy ∧ proxy₁.requestBuffer = proxy.requestBuffer

/-- An untouched upstream half holds the same request. -/
theorem SameRequest.of_eq (h : c₁.proxy = c.proxy) : SameRequest c c₁ :=
  fun proxy₁ hproxy => ⟨proxy₁, by rw [← h]; exact hproxy, rfl⟩

/-- A connection without an upstream half holds no request for one. -/
theorem SameRequest.of_none (h : c₁.proxy = none) : SameRequest c c₁ := by
  intro proxy₁ hproxy
  rw [h] at hproxy
  cases hproxy

theorem SameRequest.trans {c₂ : UringConnection σ} (h : SameRequest c c₁)
    (h' : SameRequest c₁ c₂) : SameRequest c c₂ := by
  intro proxy₂ hproxy₂
  obtain ⟨proxy₁, hproxy₁, heq₁⟩ := h' proxy₂ hproxy₂
  obtain ⟨proxy, hproxy, heq⟩ := h proxy₁ hproxy₁
  exact ⟨proxy, hproxy, heq₁.trans heq⟩

/-- Changing the phase or the addresses of the upstream half keeps its request. -/
theorem sameRequest_setProxy {proxy proxy₁ : UringProxy} (hproxy : c.proxy = some proxy)
    (h : proxy₁.requestBuffer = proxy.requestBuffer) : SameRequest c (c.setProxy proxy₁) := by
  intro p hp
  cases hp
  exact ⟨proxy, hproxy, h⟩

/-- A failed upstream is dropped with its request. -/
theorem FailMove.request (h : FailMove c next (some c₁) acts) :
    c₁.requestBuffer = c.requestBuffer ∧ SameRequest c c₁ := by
  cases h
  exact ⟨rfl, .of_none rfl⟩

/-- The next address is tried with the same request. -/
theorem AddressMove.request {proxy : UringProxy} (hproxy : c.proxy = some proxy)
    (h : AddressMove env c proxy next (some c₁) acts) :
    c₁.requestBuffer = c.requestBuffer ∧ SameRequest c c₁ := by
  cases h with
  | found => exact ⟨rfl, sameRequest_setProxy hproxy rfl⟩
  | exhausted => exact ⟨rfl, .of_none rfl⟩

/-- A file chunk touches neither request. -/
theorem StreamMove.request (h : StreamMove c next (some c₁) acts) :
    c₁.requestBuffer = c.requestBuffer ∧ SameRequest c c₁ := by
  cases h with
  | data => exact ⟨rfl, .of_eq rfl⟩
  | pending => exact ⟨rfl, .of_eq rfl⟩

/-- A completed write to the client touches neither request. -/
theorem WriteMove.request {submitted : List UInt8} {result : Int}
    (h : WriteMove env submitted result c next (some c₁) acts) :
    c₁.requestBuffer = c.requestBuffer ∧ SameRequest c c₁ := by
  have hadvance : ∀ n, SameRequest c (c.advance n) := fun n =>
    .of_eq (UringConnection.advance_proxy c n)
  cases h with
  | retry => exact ⟨rfl, .of_eq rfl⟩
  | more => exact ⟨c.advance_requestBuffer _, hadvance _⟩
  | stream _ _ _ _ _ _ _ hmove =>
      obtain ⟨hbuffer, hsame⟩ := hmove.request
      -- first the write offset moves, then the stream is asked
      exact ⟨hbuffer.trans (c.advance_requestBuffer _), (hadvance _).trans hsame⟩
  | proxy _ _ _ _ proxy hproxy =>
      exact ⟨c.advance_requestBuffer _, fun p hp => by cases hp; exact ⟨proxy, hproxy, rfl⟩⟩
  | close => exact ⟨c.advance_requestBuffer _, hadvance _⟩

/-- A move apart from a receive leaves the request and its forwarded form alone. -/
theorem Move.request {event : TurnEvent} (h : Move env event c next (some c₁) acts) :
    c₁.requestBuffer = c.requestBuffer ∧ SameRequest c c₁ := by
  have hsetProxy : ∀ {proxy : UringProxy} (proxy₁ : UringProxy) {c₂ : UringConnection σ},
      c.proxy = some proxy → proxy₁.requestBuffer = proxy.requestBuffer →
      c₂.requestBuffer = (c.setProxy proxy₁).requestBuffer ∧ SameRequest (c.setProxy proxy₁) c₂ →
      c₂.requestBuffer = c.requestBuffer ∧ SameRequest c c₂ :=
    fun _ _ hproxy heq hsame => ⟨hsame.1, (sameRequest_setProxy hproxy heq).trans hsame.2⟩
  cases h with
  | accepted | recvBroken | recvRetry | noProxy | upstreamBroken | notResolving | expiredMissing
  | pumpMissing => exact ⟨rfl, .of_eq rfl⟩
  | write hmove => exact hmove.request
  | connectFailed proxy hproxy _ hmove =>
      exact hsetProxy proxy.completed hproxy rfl hmove.request
  | connectNext proxy hproxy hmove =>
      exact hsetProxy proxy.completed hproxy rfl (hmove.request rfl)
  | connected proxy hproxy => exact ⟨rfl, sameRequest_setProxy hproxy rfl⟩
  | writeFailed proxy hproxy _ hmove =>
      exact hsetProxy proxy.completed hproxy rfl hmove.request
  | writeRetry proxy hproxy => exact ⟨rfl, sameRequest_setProxy hproxy rfl⟩
  | wroteSome proxy hproxy => exact ⟨rfl, sameRequest_setProxy hproxy rfl⟩
  | wroteAll proxy hproxy => exact ⟨rfl, sameRequest_setProxy hproxy rfl⟩
  | readFailed proxy hproxy _ hmove =>
      exact hsetProxy proxy.completed hproxy rfl hmove.request
  | readRetry proxy hproxy => exact ⟨rfl, sameRequest_setProxy hproxy rfl⟩
  | chunk proxy hproxy =>
      exact ⟨rfl, fun p hp => by cases hp; exact ⟨proxy, hproxy, rfl⟩⟩
  | unresolved => exact ⟨rfl, .of_none rfl⟩
  | resolved addresses proxy hproxy _ hmove =>
      exact hsetProxy ({ proxy with addresses }.transition env.now .connecting) hproxy rfl
        (hmove.request rfl)
  | expiredIdle hmove => exact hmove.request
  | expiredPending proxy hproxy => exact ⟨rfl, sameRequest_setProxy hproxy rfl⟩
  | pump _ hmove => exact hmove.request

/-- Encrypting what waits touches neither request. -/
theorem fillOutput_request {tls : Rustls σ} (h : c.fillOutput tls = some (c₁, acts)) :
    c₁.requestBuffer = c.requestBuffer ∧ SameRequest c c₁ := by
  rcases fillOutput_cases h with ⟨rfl, -, -⟩ | ⟨_, _, _, _, -, -, -, rfl, -⟩
  · exact ⟨rfl, .of_eq rfl⟩
  · exact ⟨rfl, .of_eq rfl⟩

/-- The end of a turn submits requests, and changes none. -/
theorem Finish.request {clears : Nat} {pushed : List ConnectionOp}
    (h : Finish env clears c next c' pushed acts) :
    c'.requestBuffer = c.requestBuffer ∧ SameRequest c c' := by
  cases h with
  | done | sendBusy | recvBusy | recv => exact ⟨rfl, .of_eq rfl⟩
  | sendIdle _ _ _ hfill => exact fillOutput_request hfill
  | sent _ _ _ hfill =>
      obtain ⟨hbuffer, hsame⟩ := fillOutput_request hfill
      exact ⟨hbuffer, hsame.trans (.of_eq rfl)⟩
  | upstream _ _ _ proxy hproxy => exact ⟨rfl, sameRequest_setProxy hproxy rfl⟩

/-- Decrypting what was received touches neither request; the plaintext comes later. -/
theorem Intake.request {received plaintext : List UInt8}
    (h : Intake env received c next c₁ plaintext acts) :
    c₁.requestBuffer = c.requestBuffer ∧ SameRequest c c₁ := by
  cases h <;> exact ⟨rfl, .of_eq rfl⟩

/-! ## §2. The read limit. -/

/-- What the client sent and its forwarded form both fit `max_read_buffer_size`. -/
structure UringConnection.WithinReadLimit (limits : WorkerLimits) (c : UringConnection σ) :
    Prop where
  buffered : c.requestBuffer.length ≤ limits.maxReadBufferSize
  forwarded : ∀ proxy, c.proxy = some proxy →
    proxy.requestBuffer.length ≤ limits.maxReadBufferSize

/-- Moves that leave both requests alone keep the limit. -/
theorem UringConnection.WithinReadLimit.congr (h : c.WithinReadLimit limits)
    (hsame : c₁.requestBuffer = c.requestBuffer ∧ SameRequest c c₁) :
    c₁.WithinReadLimit limits := by
  refine ⟨hsame.1 ▸ h.buffered, ?_⟩
  intro proxy₁ hproxy₁
  obtain ⟨proxy, hproxy, heq⟩ := hsame.2 proxy₁ hproxy₁
  rw [heq]
  exact h.forwarded proxy hproxy

/-- The check of `handle_read_completion`, read backwards. -/
theorem exceedsReadLimit_false {buffered received : Nat}
    (h : exceedsReadLimit limits buffered received = false) :
    buffered + received ≤ limits.maxReadBufferSize := by
  unfold exceedsReadLimit checkedAdd at h
  split_ifs at h
  · simpa using h

/-- Taking the recorded request out leaves the bytes where they are. -/
theorem completeRequest_requestBuffer (c : UringConnection σ) :
    c.completeRequest.1.requestBuffer = c.requestBuffer := by
  unfold UringConnection.completeRequest
  split
  · rfl
  · split_ifs <;> rfl

/-- Received bytes are appended only if they fit. -/
theorem receiveRequest_requestBuffer {received : List UInt8} {verdict : ReadVerdict}
    (h : c.requestBuffer.length ≤ limits.maxReadBufferSize)
    (hreceive : c.receiveRequest limits received = (c₁, verdict)) :
    c₁.requestBuffer.length ≤ limits.maxReadBufferSize := by
  have hfst : c₁ = (c.receiveRequest limits received).1 := by rw [hreceive]
  rw [hfst]
  unfold UringConnection.receiveRequest
  split_ifs with hlong
  · exact h
  · have hfits : (c.requestBuffer ++ received).length ≤ limits.maxReadBufferSize := by
      rw [List.length_append]
      exact exceedsReadLimit_false (Bool.eq_false_iff.mpr hlong)
    dsimp only
    split
    · rw [completeRequest_requestBuffer]
      exact hfits
    · split
      · exact hfits
      · rw [completeRequest_requestBuffer]
        exact hfits

/-- A receive keeps the limit: its bytes fit, and it forwards nothing. -/
theorem UringConnection.WithinReadLimit.received (h : c.WithinReadLimit limits)
    {received : List UInt8} {verdict : ReadVerdict}
    (hreceive : c.receiveRequest limits received = (c₁, verdict)) :
    c₁.WithinReadLimit limits := by
  refine ⟨receiveRequest_requestBuffer h.buffered hreceive, ?_⟩
  -- nothing but the request of the connection changes in a receive
  obtain ⟨_, _, _, rfl⟩ := receiveRequest_frame hreceive
  exact h.forwarded

/-- The plaintext of a turn keeps the limit; `start_proxy` checks the forwarded form. -/
theorem PlaintextMove.withinReadLimit {received : List UInt8}
    (hmove : PlaintextMove env received c next (some c₁) acts)
    (h : c.WithinReadLimit env.limits) : c₁.WithinReadLimit env.limits := by
  cases hmove with
  | empty => exact h
  | waiting _ hreceive => exact h.received hreceive
  | rejected _ _ _ _ _ hreceive => exact (h.received hreceive).congr ⟨rfl, .of_eq rfl⟩
  | dispatched _ _ _ _ _ _ hreceive hanswer =>
      have h₁ := h.received hreceive
      cases hanswer with
      | respond | static | balancerPanic => exact h₁.congr ⟨rfl, .of_eq rfl⟩
      | proxyError => exact h₁.congr ⟨rfl, .of_none rfl⟩
      | resolving requestBuffer _ hle =>
          refine ⟨h₁.buffered, ?_⟩
          intro proxy hproxy
          cases hproxy
          exact hle

/-- A send to an upstream is no longer than the limit. -/
def ConnectionOp.withinReadLimit (limits : WorkerLimits) (op : ConnectionOp) : Prop :=
  ∀ bytes, op = .proxySend bytes → bytes.length ≤ limits.maxReadBufferSize

/-- What a turn submits to an upstream is the rest of a request within the limit. -/
theorem Finish.withinReadLimit {clears : Nat} {pushed : List ConnectionOp}
    (hfinish : Finish env clears c next c' pushed acts) (h : c.WithinReadLimit limits) :
    ∀ op ∈ pushed, op.withinReadLimit limits := by
  cases hfinish with
  | done | sendBusy | sendIdle | recvBusy => exact fun op hop => absurd hop List.not_mem_nil
  | sent | recv =>
      intro op hop bytes heq
      rw [List.mem_singleton.mp hop] at heq
      cases heq
  | upstream _ op _ proxy hproxy _ hbytes =>
      intro op' hop bytes heq
      rw [List.mem_singleton.mp hop] at heq
      rw [hbytes bytes heq, List.length_drop]
      have := h.forwarded proxy hproxy
      omega

/-- **The read limit over turns**, for what connections hold and what they submit. -/
def readLimitRule (cfg : Config σ) : StateRule cfg where
  Inv c := c.WithinReadLimit cfg.limits
  Mid _ c := c.WithinReadLimit cfg.limits
  Got _ _ := True
  Op op := op.withinReadLimit cfg.limits
  Guard _ := True
  fresh := by
    intro generation c hfresh
    cases hfresh with
    | mk socket listenerIndex ssl =>
        refine ⟨⟨Nat.zero_le _, fun proxy hproxy => (by cases hproxy)⟩, ?_⟩
        intro bytes heq
        cases heq
  move := fun _ _ _ _ hinv hmove => hinv.congr hmove.request
  intake := fun _ hinv hintake => ⟨hinv.congr hintake.request, trivial⟩
  flush := fun _ _ _ => trivial
  plaintext := by
    intro env id event found c c₁ next received acts henv _ hinv _ hmove
    subst henv
    exact hmove.withinReadLimit hinv
  finish := fun _ hmid hfinish => ⟨hmid.congr hfinish.request, hfinish.withinReadLimit hmid⟩

/-! ## §3. The write limit. -/

/-- The page in place of a response that does not fit. -/
def tooLargePage : List UInt8 := responseBytes 500 "response is too large".toList

/-- The errors a request is refused with. -/
def requestErrors : List (Nat × Str) :=
  [(413, "request is too large".toList), (501, "transfer encoding is not supported".toList),
   (400, "invalid content length".toList), (400, "invalid HTTP request".toList)]

/-- Every way in which serving a file can fail. -/
def staticErrors : List StaticError :=
  [.badRequest, .forbidden, .methodNotAllowed, .notFound, .tooLarge, .rangeNotSatisfiable, .io]

/-- The pages that are queued as they are, whatever their length. -/
def generatedPages : List (List UInt8) :=
  tooLargePage :: ((requestErrors ++ upstreamErrors).map (fun error => responseBytes error.1 error.2)
    ++ staticErrors.map staticErrorResponse)

/-- No page is longer than `max_write_buffer_size`. -/
def PagesFit (limits : WorkerLimits) : Prop :=
  ∀ page ∈ generatedPages, page.length ≤ limits.maxWriteBufferSize

instance (limits : WorkerLimits) : Decidable (PagesFit limits) :=
  inferInstanceAs (Decidable (∀ page ∈ generatedPages, page.length ≤ limits.maxWriteBufferSize))

/-- A request is recorded, or refused with one of these errors. -/
theorem recordRequest_error {bytes : List UInt8} {error : Nat × Str}
    (h : recordRequest limits bytes = .error error) : error ∈ requestErrors := by
  have hmem : ∀ i, requestErrors[i]? = some error → error ∈ requestErrors :=
    fun _ => List.mem_of_getElem?
  unfold recordRequest at h
  split at h
  · cases h
  · split at h
    · injection h with h
      exact hmem 1 (by rw [← h]; rfl)
    · injection h with h
      exact hmem 2 (by rw [← h]; rfl)
    · injection h with h
      exact hmem 2 (by rw [← h]; rfl)
    · split at h
      · injection h with h
        exact hmem 0 (by rw [← h]; rfl)
      · split_ifs at h
        · injection h with h
          exact hmem 0 (by rw [← h]; rfl)
  · injection h with h
    exact hmem 3 (by rw [← h]; rfl)

/-- A request that is complete is never an error. -/
theorem completeRequest_verdict {status : Nat} {message : Str} :
    c.completeRequest.2 ≠ .error status message := by
  unfold UringConnection.completeRequest
  split
  · simp
  · split_ifs <;> simp

/-- A refused request is refused with one of these errors. -/
theorem receiveRequest_error {received : List UInt8} {status : Nat} {message : Str}
    (h : c.receiveRequest limits received = (c₁, .error status message)) :
    (status, message) ∈ requestErrors := by
  have hverdict : (c.receiveRequest limits received).2 = .error status message := by rw [h]
  unfold UringConnection.receiveRequest at hverdict
  split_ifs at hverdict
  · injection hverdict with hstatus hmessage
    rw [← hstatus, ← hmessage]
    exact List.mem_of_getElem? (i := 0) rfl
  · dsimp only at hverdict
    split at hverdict
    · exact absurd hverdict completeRequest_verdict
    · split at hverdict
      next error hrecord =>
        injection hverdict with hstatus hmessage
        rw [← hstatus, ← hmessage]
        exact recordRequest_error hrecord
      · exact absurd hverdict completeRequest_verdict

/-- The page of a refused request fits. -/
theorem PagesFit.requestError (h : PagesFit limits) {status : Nat} {message : Str}
    (herror : (status, message) ∈ requestErrors) :
    (responseBytes status message).length ≤ limits.maxWriteBufferSize :=
  h _ (List.mem_cons_of_mem _ (List.mem_append_left _
    (List.mem_map.mpr ⟨_, List.mem_append_left _ herror, rfl⟩)))

/-- The page of a failed upstream fits. -/
theorem PagesFit.upstreamError (h : PagesFit limits) {response : List UInt8}
    (herror : IsUpstreamError response) : response.length ≤ limits.maxWriteBufferSize := by
  obtain ⟨error, herror, rfl⟩ := herror
  exact h _ (List.mem_cons_of_mem _ (List.mem_append_left _
    (List.mem_map.mpr ⟨_, List.mem_append_right _ herror, rfl⟩)))

/-- The page of a file that cannot be served fits. -/
theorem PagesFit.staticError (h : PagesFit limits) (error : StaticError) :
    (staticErrorResponse error).length ≤ limits.maxWriteBufferSize := by
  refine h _ (List.mem_cons_of_mem _ (List.mem_append_right _ (List.mem_map.mpr ⟨error, ?_, rfl⟩)))
  cases error <;> decide

/-- A configured response fits once it is bounded, by itself or as the page in its place. -/
theorem PagesFit.bounded (h : PagesFit limits) (response : List UInt8) :
    (boundedResponse limits response).length ≤ limits.maxWriteBufferSize := by
  unfold boundedResponse
  split_ifs with hlong
  · exact h _ List.mem_cons_self
  · exact Nat.le_of_not_gt hlong

/-- The heads of the files that may be served, and the next chunk of the file
that is being served, are within the write limit. -/
def FilesFit (cfg : Config σ) : HistoryItem σ → Prop
  | .turn _ _ world found =>
      (∀ directory request response, cfg.ServesFrom directory →
        world.staticStreamResponse directory request = .ok response →
        response.head.length ≤ cfg.limits.maxWriteBufferSize)
      ∧ ∀ c stream bytes, found = some c → c.staticStream = some stream →
        stream.chunks.head? = some (some bytes) →
        bytes.length ≤ cfg.limits.maxWriteBufferSize
  | _ => True

/-- The chunk a stream hands out was its first. -/
theorem tryNext_head {stream rest : StaticStream} {arrived : Bool} {bytes : List UInt8}
    (h : stream.tryNext arrived = (some (.data bytes), rest)) :
    stream.chunks.head? = some (some bytes) := by
  unfold StaticStream.tryNext at h
  split at h
  · cases h
  · split at h
    · cases h
    next chunk later hchunks =>
      injection h with h _
      injection h with h
      injection h with h
      rw [hchunks, h]
      rfl
    · cases h

/-- A file chunk becomes the write buffer unchecked, so it has to fit by itself. -/
theorem StreamMove.withinWriteLimit (hmove : StreamMove c next (some c₁) acts)
    (h : c.writeBuffer.length ≤ limits.maxWriteBufferSize)
    (hfits : ∀ stream bytes, c.staticStream = some stream →
      stream.chunks.head? = some (some bytes) → bytes.length ≤ limits.maxWriteBufferSize) :
    c₁.writeBuffer.length ≤ limits.maxWriteBufferSize := by
  cases hmove with
  | data stream bytes _ hnext =>
      obtain ⟨current, arrived, hstream, hnext⟩ := hnext
      exact hfits current bytes hstream (tryNext_head hnext)
  | pending => exact h

/-- The page of a failed upstream becomes the write buffer. -/
theorem FailMove.withinWriteLimit (hpages : PagesFit limits)
    (hmove : FailMove c next (some c₁) acts) :
    c₁.writeBuffer.length ≤ limits.maxWriteBufferSize := by
  cases hmove with
  | answered _ _ _ herror => exact hpages.upstreamError herror

/-- So it does when no address is left. -/
theorem AddressMove.withinWriteLimit {proxy : UringProxy} (hpages : PagesFit limits)
    (hmove : AddressMove env c proxy next (some c₁) acts)
    (h : c.writeBuffer.length ≤ limits.maxWriteBufferSize) :
    c₁.writeBuffer.length ≤ limits.maxWriteBufferSize := by
  cases hmove with
  | found => exact h
  | exhausted _ _ herror => exact hpages.upstreamError herror

/-- A completed write empties the buffer, keeps it, or takes the next chunk. -/
theorem WriteMove.withinWriteLimit {submitted : List UInt8} {result : Int}
    (hmove : WriteMove env submitted result c next (some c₁) acts)
    (h : c.writeBuffer.length ≤ limits.maxWriteBufferSize)
    (hfits : ∀ stream bytes, c.staticStream = some stream →
      stream.chunks.head? = some (some bytes) → bytes.length ≤ limits.maxWriteBufferSize) :
    c₁.writeBuffer.length ≤ limits.maxWriteBufferSize := by
  cases hmove with
  | retry => exact h
  | more => rwa [c.advance_writeBuffer]
  | stream _ _ _ _ _ _ _ hmove =>
      refine hmove.withinWriteLimit (Nat.zero_le _) ?_
      intro stream bytes hstream
      exact hfits stream bytes (by rw [← hstream]; exact (UringConnection.advance_staticStream _ _).symm)
  | proxy => exact Nat.zero_le _
  | close => exact (c.advance_writeBuffer _).symm ▸ h

/-- **Every move apart from a receive keeps within the write limit**, if the pages
and the file do. -/
theorem Move.withinWriteLimit {id : ConnectionId} {event : TurnEvent}
    (hpages : PagesFit env.limits) (hmove : Move env event c next (some c₁) acts)
    (hfits : FilesFit env.toConfig (.turn id event env.toWorld (some c)))
    (h : c.writeBuffer.length ≤ env.limits.maxWriteBufferSize) :
    c₁.writeBuffer.length ≤ env.limits.maxWriteBufferSize := by
  have hstream := fun stream bytes => hfits.2 c stream bytes rfl
  cases hmove with
  | accepted | recvBroken | recvRetry | noProxy | upstreamBroken | notResolving | expiredMissing
  | pumpMissing | connected | writeRetry | wroteSome | wroteAll | readRetry | expiredPending =>
      exact h
  | write hmove => exact hmove.withinWriteLimit h hstream
  | connectFailed _ _ _ hmove | writeFailed _ _ _ hmove | readFailed _ _ _ hmove
  | expiredIdle hmove => exact hmove.withinWriteLimit hpages
  | connectNext _ _ hmove | resolved _ _ _ _ hmove => exact hmove.withinWriteLimit hpages h
  | chunk _ _ _ _ _ _ _ hle => exact hle
  | unresolved _ _ _ _ _ herror => exact hpages.upstreamError herror
  | pump _ hmove => exact hmove.withinWriteLimit h hstream

/-- Plaintext is answered by a page, a bounded response or the head of a file. -/
theorem PlaintextMove.withinWriteLimit {received : List UInt8} {id : ConnectionId}
    {event : TurnEvent} {found : Option (UringConnection σ)} (hpages : PagesFit env.limits)
    (hmove : PlaintextMove env received c next (some c₁) acts)
    (hfits : FilesFit env.toConfig (.turn id event env.toWorld found))
    (h : c.writeBuffer.length ≤ env.limits.maxWriteBufferSize) :
    c₁.writeBuffer.length ≤ env.limits.maxWriteBufferSize := by
  cases hmove with
  | empty => exact h
  | waiting _ hreceive =>
      obtain ⟨_, _, _, rfl⟩ := receiveRequest_frame hreceive
      exact h
  | rejected _ _ _ _ _ hreceive hresponse =>
      rw [hresponse]
      exact hpages.requestError (receiveRequest_error hreceive)
  | dispatched _ _ _ _ _ _ hreceive hanswer =>
      obtain ⟨_, _, _, rfl⟩ := receiveRequest_frame hreceive
      cases hanswer with
      | respond response _ hresponse =>
          rcases hresponse with ⟨whole, rfl⟩ | ⟨error, rfl⟩
          · exact hpages.bounded whole
          · exact hpages.staticError error
      | static stream head _ hserved =>
          obtain ⟨directory, request, response, hfrom, hok, -, rfl⟩ := hserved
          exact hfits.1 directory request response hfrom hok
      | proxyError _ _ herror => exact hpages.upstreamError herror
      | resolving | balancerPanic => exact h

/-- **The write limit over turns**, if the pages and the files fit. -/
def writeLimitRule (cfg : Config σ) (hpages : PagesFit cfg.limits) : StateRule cfg where
  Inv c := c.writeBuffer.length ≤ cfg.limits.maxWriteBufferSize
  Mid _ c := c.writeBuffer.length ≤ cfg.limits.maxWriteBufferSize
  Got _ _ := True
  Op _ := True
  Guard := FilesFit cfg
  fresh := by
    intro generation c hfresh
    cases hfresh with
    | mk socket listenerIndex ssl => exact ⟨Nat.zero_le _, trivial⟩
  move := by
    intro env id event c c₁ next ops ops₀ acts henv _ hfits _ hinv hmove
    subst henv
    exact hmove.withinWriteLimit hpages hfits hinv
  intake := by
    intro env c c₁ next received plaintext acts _ hinv hintake
    cases hintake <;> exact ⟨hinv, trivial⟩
  flush := fun _ _ _ => trivial
  plaintext := by
    intro env id event found c c₁ next received acts henv hfits hinv _ hmove
    subst henv
    exact hmove.withinWriteLimit hpages hfits hinv
  finish := by
    intro env clears c c' next pushed acts _ hmid hfinish
    exact ⟨by rw [hfinish.writeBuffer]; exact hmid, fun _ _ => trivial⟩

/-! ## §4. The slab. -/

/-- A step that only continues occupations adds none. -/
theorem count_of_continues (h : ∀ slot, Continues slot w w') :
    w'.connections.count ≤ w.connections.count := by
  refine Slab.count_le_of_get ?_
  intro key hkey
  obtain ⟨occ', hget'⟩ := Option.isSome_iff_exists.mp hkey
  obtain ⟨occ, hget, -⟩ := (h key).descends occ' hget'
  rw [hget]
  rfl

/-- `insert_connection` refuses a client once the slab is full. -/
theorem insertConnection_count (cfg : Config σ) (world : World) (socket : Socket) (idx : Nat)
    (listener : UringListener) (w : IoUringWorker σ) :
    (insertConnection cfg world socket idx listener w).2.connections.count
      ≤ max w.connections.count cfg.limits.maxConnections := by
  unfold insertConnection
  split_ifs with hfull
  · exact le_max_left _ _
  · dsimp only
    split_ifs
    · exact le_max_left _ _
    · split
      · exact le_max_left _ _
      · exact ((Slab.count_insertAt_le _ _ _).trans (Nat.lt_of_not_le hfull)).trans
          (le_max_right _ _)

/-- The first turn of an accepted connection adds no other. -/
theorem retainAccepted_count {world : World} {socket : Socket} {idx : Nat}
    {listener : UringListener}
    (hrun : retainAccepted cfg world socket idx listener w = .ok w') :
    w'.connections.count ≤ max w.connections.count cfg.limits.maxConnections := by
  unfold retainAccepted at hrun
  dsimp only at hrun
  generalize hw₀ : { w with metrics := { w.metrics with accepted := w.metrics.accepted + 1 } } = w₀
    at hrun
  have hcount : w₀.connections.count = w.connections.count := by rw [← hw₀]
  have hinsert := insertConnection_count cfg world socket idx listener w₀
  rw [← hcount]
  cases hresult : insertConnection cfg world socket idx listener w₀ with
  | mk id? w₁ =>
      rw [hresult] at hrun hinsert
      rcases insertConnection_cases hresult with ⟨rfl, _, -, -⟩ |
        ⟨id, generations, connection, rfl, hslot, hnew, hw₁, -⟩
      · injection hrun with hrun
        exact hrun ▸ hinsert
      -- the connection has been inserted, and its first turn finds it
      · refine (count_of_continues (fun slot => runTurn_continues (.inl ?_) hrun)).trans hinsert
        refine ⟨⟨connection, [.accepted connection.ssl.isSome]⟩, ?_, new_generation hnew⟩
        rw [hw₁]
        exact Slab.get_insertAt_self (hslot ▸ Slab.vacantKey_le _ _) _

/-- An accept completion adds one connection at most, below the limit. -/
theorem handleAcceptCompletion_count {world : World} {idx : Nat} {generation : UInt16}
    {result : Int} {more : Bool}
    (hrun : handleAcceptCompletion cfg world idx generation result more w = .ok w') :
    w'.connections.count ≤ max w.connections.count cfg.limits.maxConnections := by
  unfold handleAcceptCompletion at hrun
  split at hrun
  · injection hrun with hrun
    exact hrun ▸ le_max_left _ _
  next listener _ =>
    split_ifs at hrun
    · injection hrun with hrun
      exact hrun ▸ le_max_left _ _
    · generalize listener.afterAccept result more = listener' at hrun
      cases hsettle : settleAccept cfg world idx listener' result
          { w with listeners := w.listeners.set idx listener' } with
      | error e => simp [bind, Except.bind, hsettle] at hrun
      | ok w₁ =>
          simp only [bind, Except.bind, hsettle] at hrun
          -- submitting the next accept touches no connection
          have hrest : w'.connections.count ≤ w₁.connections.count := by
            split_ifs at hrun
            · exact count_of_continues (fun slot => submitAccept_continues hrun)
            · injection hrun with hrun
              exact hrun ▸ Nat.le_refl _
          refine hrest.trans ?_
          unfold settleAccept at hsettle
          split_ifs at hsettle
          · injection hsettle with hsettle
            exact hsettle ▸ le_max_left _ _
          · have hcount := retainAccepted_count hsettle
            exact hcount
          · injection hsettle with hsettle
            exact hsettle ▸ le_max_left _ _
          · injection hsettle with hsettle
            exact hsettle ▸ le_max_left _ _

/-- **There are never more connections than `max_connections`.** -/
theorem Reachable.count (h : Reachable cfg w) :
    w.connections.count ≤ cfg.limits.maxConnections := by
  induction h with
  | start world hnew hstart =>
      -- a worker starts without connections
      have hempty := Slab.count_le_of_get (s := []) (fun key hkey => by
        rw [start_connections hnew hstart] at hkey
        cases hkey)
      exact hempty.trans (Nat.zero_le _)
  | step event _ hstep ih =>
      rcases step_accepts hstep with hall | ⟨_, _, _, _, _, _, hconnections, -, haccept⟩
      · exact (count_of_continues hall).trans ih
      · refine (handleAcceptCompletion_count haccept).trans (max_le ?_ (Nat.le_refl _))
        rw [hconnections]
        exact ih

end Thwip.IoUring
