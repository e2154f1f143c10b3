/-
  Thwip.IoUring.Delivery — what a plaintext connection of the io_uring worker passes on.

  One operation is in flight at a time, so both directions are followed from one
  completion to the next: what was reported as sent, and what the operation in flight
  was given, are together the request, or what was taken of the upstream's response.
-/
import Thwip.IoUring.Plaintext
import Thwip.IoUring.Failures
import Thwip.IoUring.Fallback

namespace Thwip.IoUring

open Thwip.Lib

variable {σ : Type} {cfg : Config σ} {env : Env σ} {event : TurnEvent}
  {c c₁ c' : UringConnection σ} {next : Next} {log acts : List Act} {trace : List Exchange}
  {ops pushed : List ConnectionOp} {proxy proxy₁ : UringProxy}

/-! ## §1. The trace of a connection, seen from outside. -/

def Act.exchange : Act → Option Exchange
  | .forwarding request => some (.forwarding request)
  | .forwarded bytes => some (.forwarded bytes)
  | .relayed bytes => some (.relayed bytes)
  | .queued bytes => some (.queued bytes)
  | .sent bytes _ => some (.sent bytes)
  | _ => none

def Act.isRelayed : Act → Bool
  | .relayed _ => true
  | _ => false

def Act.isQueued : Act → Bool
  | .queued _ => true
  | _ => false

/-- What `acts` move.  A chunk that was just taken is queued by the next act, which is no
response of the worker's own. -/
def exchangesAfter : Bool → List Act → List Exchange
  | _, [] => []
  | taken, act :: acts =>
      (if taken && act.isQueued then [] else act.exchange.toList)
        ++ exchangesAfter act.isRelayed acts

def exchanges (log : List Act) : List Exchange := exchangesAfter false log

/-- The last of these acts took a chunk. -/
def taken (log : List Act) : Bool := log.foldl (fun _ act => act.isRelayed) false

theorem exchangesAfter_append (acts : List Act) :
    ∀ (log : List Act) (before : Bool),
      exchangesAfter before (log ++ acts) = exchangesAfter before log
        ++ exchangesAfter (log.foldl (fun _ act => act.isRelayed) before) acts
  | [], before => rfl
  | act :: log, before => by
      show _ ++ exchangesAfter act.isRelayed (log ++ acts) = _
      rw [exchangesAfter_append acts log, ← List.append_assoc]
      rfl

/-- `trace` is what `log` moved, and no chunk waits to be queued. -/
structure Shows (log : List Act) (trace : List Exchange) : Prop where
  exchanges : exchanges log = trace
  whole : taken log = false

theorem Shows.append (h : Shows log trace) (hacts : taken acts = false) :
    Shows (log ++ acts) (trace ++ IoUring.exchanges acts) := by
  have hbetween : log.foldl (fun _ act => act.isRelayed) false = false := h.whole
  refine ⟨?_, ?_⟩
  · show exchangesAfter false (log ++ acts) = _
    rw [exchangesAfter_append, hbetween, ← h.exchanges]
    rfl
  · show (log ++ acts).foldl _ false = false
    rw [List.foldl_append, hbetween]
    exact hacts

/-- Acts that move nothing. -/
theorem Shows.mute (h : Shows log trace) (hacts : taken acts = false)
    (hnothing : IoUring.exchanges acts = []) : Shows (log ++ acts) trace := by
  have happended := h.append hacts
  rwa [hnothing, List.append_nil] at happended

/-! ## §2. Both directions. -/

/-- An exchange that goes on: the request up to the offset is with the upstream, and the
client has what was taken of the response, but for what is in the write buffer. -/
structure Flow (c : UringConnection σ) (proxy : UringProxy) (trace : List Exchange) : Prop where
  request : requests trace = [proxy.requestBuffer]
  forwarded : toUpstream trace = proxy.requestBuffer.take proxy.requestOffset
  unanswered : responses trace = []
  relayed : toClient trace ++ c.unsent = fromUpstream trace
  started : proxy.responseStarted = false → fromUpstream trace = []
  phase : proxy.phase ≠ .readingResponse → proxy.responseStarted = false
  inTurn : Throughout Exchange.InTurn trace

/-- The client is told that there is nothing from the upstream. -/
structure Answered (c : UringConnection σ) (trace : List Exchange) : Prop where
  forwarded : toUpstream trace = []
    ∨ ∃ request, requests trace = [request] ∧ toUpstream trace <+: request
  nothing : fromUpstream trace = []
  response : ∃ response, response ∈ responses trace ∧ IsErrorResponse response
    ∧ toClient trace ++ c.unsent = response
  inTurn : Throughout Exchange.InTurn trace

theorem isErrorResponse_of_upstream {response : List UInt8} (h : IsUpstreamError response) :
    IsErrorResponse response := by
  obtain ⟨status, message, hstatus, rfl⟩ := isGatewayError_of_upstream h
  exact ⟨status, message, by omega, rfl⟩

theorem Flow.congr (h : Flow c proxy trace) (hunsent : c₁.unsent = c.unsent)
    (hbuffer : proxy₁.requestBuffer = proxy.requestBuffer)
    (hoffset : proxy₁.requestOffset = proxy.requestOffset)
    (hstarted : proxy₁.responseStarted = proxy.responseStarted)
    (hphase : proxy₁.phase = proxy.phase ∨ proxy.responseStarted = false) :
    Flow c₁ proxy₁ trace := by
  refine ⟨?_, ?_, h.unanswered, ?_, ?_, ?_, h.inTurn⟩
  · rw [hbuffer]
    exact h.request
  · rw [hbuffer, hoffset]
    exact h.forwarded
  · rw [hunsent]
    exact h.relayed
  · rw [hstarted]
    exact h.started
  · intro hne
    rw [hstarted]
    rcases hphase with hsame | hnot
    · exact h.phase (hsame ▸ hne)
    · exact hnot

/-- The upstream took the next bytes of the request. -/
theorem Flow.wrote (h : Flow c proxy trace) (now : Instant) (n : Nat) :
    Flow c (proxy.completed.wrote now n)
      (trace ++ [.forwarded ((proxy.requestBuffer.drop proxy.requestOffset).take n)]) := by
  refine ⟨?_, ?_, ?_, ?_, ?_, h.phase, h.inTurn.concat trivial⟩
  · rw [requests_append, h.request]
    rfl
  · rw [toUpstream_append, h.forwarded]
    show _ ++ ((proxy.requestBuffer.drop proxy.requestOffset).take n ++ []) = _
    rw [List.append_nil]
    exact List.take_add.symm
  · rw [responses_append, h.unanswered]
    rfl
  · rw [toClient_append, fromUpstream_append, ← h.relayed]
    simp
  · intro hnot
    rw [fromUpstream_append, h.started hnot]
    rfl

/-- The next chunk is taken once the client has the one before. -/
theorem Flow.chunk (h : Flow c proxy trace) (hunsent : c.unsent = []) (now : Instant)
    (hphase : proxy.phase = .readingResponse) {bytes : List UInt8} (hbytes : c₁.unsent = bytes) :
    Flow c₁ (proxy.completed.received now) (trace ++ [.relayed bytes]) := by
  have hall : toClient trace = fromUpstream trace := by
    rw [← h.relayed, hunsent, List.append_nil]
  refine ⟨?_, ?_, ?_, ?_, ?_, ?_, h.inTurn.concat hall⟩
  · rw [requests_append, h.request]
    rfl
  · rw [toUpstream_append, h.forwarded]
    exact List.append_nil _
  · rw [responses_append, h.unanswered]
    rfl
  · rw [toClient_append, fromUpstream_append, hall, hbytes]
    simp
  · intro hnot
    cases hnot
  · intro hne
    exact absurd hphase hne

/-- An exchange in which nothing was taken is given up. -/
theorem Flow.fail (h : Flow c proxy trace) (hstarted : proxy.responseStarted = false)
    {response : List UInt8} (herror : IsUpstreamError response) (hunsent : c₁.unsent = response) :
    Answered c₁ (trace ++ [.queued response]) := by
  have hnothing := h.started hstarted
  have hnone : toClient trace = [] := by
    have hrelayed := h.relayed
    rw [hnothing] at hrelayed
    exact (List.append_eq_nil_iff.mp hrelayed).1
  refine ⟨.inr ⟨proxy.requestBuffer, ?_, ?_⟩, ?_, ⟨response, ?_, ?_, ?_⟩, ?_⟩
  · rw [requests_append, h.request]
    rfl
  · rw [toUpstream_append, h.forwarded]
    show _ ++ [] <+: _
    rw [List.append_nil]
    exact List.take_prefix _ _
  · rw [fromUpstream_append, hnothing]
    rfl
  · rw [responses_append]
    simp
  · exact isErrorResponse_of_upstream herror
  · rw [toClient_append, hnone, hunsent]
    rfl
  · exact h.inTurn.concat ⟨hnone, hnothing⟩

section Sent

variable (hssl : c.ssl = none) (n : Nat)

include hssl

theorem unsent_advance_of_plain : (c.advance n).unsent = c.unsent.drop n := by
  have hadvance : c.advance n = { c with writeOffset := c.writeOffset + n } := by
    simp [UringConnection.advance, hssl]
  rw [hadvance, unsent_of_plain hssl, unsent_of_plain (by exact hssl), List.drop_drop]

/-- The client's socket took the next bytes of the buffer. -/
theorem toClient_sent : toClient (trace ++ [.sent (c.unsent.take n)]) ++ (c.advance n).unsent
    = toClient trace ++ c.unsent := by
  rw [unsent_advance_of_plain hssl, toClient_append, List.append_assoc]
  congr 1
  show c.unsent.take n ++ [] ++ c.unsent.drop n = _
  rw [List.append_nil, List.take_append_drop]

theorem Flow.sent (h : Flow c proxy trace) :
    Flow (c.advance n) proxy (trace ++ [.sent (c.unsent.take n)]) := by
  refine ⟨?_, ?_, ?_, ?_, ?_, h.phase, h.inTurn.concat trivial⟩
  · rw [requests_append, h.request]
    rfl
  · rw [toUpstream_append, h.forwarded]
    exact List.append_nil _
  · rw [responses_append, h.unanswered]
    rfl
  · rw [toClient_sent hssl, h.relayed, fromUpstream_append]
    exact (List.append_nil _).symm
  · intro hnot
    rw [fromUpstream_append, h.started hnot]
    rfl

theorem Answered.sent (h : Answered c trace) :
    Answered (c.advance n) (trace ++ [.sent (c.unsent.take n)]) := by
  obtain ⟨response, hmem, herror, hresponse⟩ := h.response
  refine ⟨?_, ?_, ⟨response, ?_, herror, ?_⟩, h.inTurn.concat trivial⟩
  · rw [toUpstream_append, requests_append]
    show toUpstream trace ++ [] = [] ∨ ∃ request, requests trace ++ [] = [request]
      ∧ toUpstream trace ++ [] <+: request
    rw [List.append_nil, List.append_nil]
    exact h.forwarded
  · rw [fromUpstream_append, h.nothing]
    rfl
  · rw [responses_append]
    exact List.mem_append_left _ hmem
  · rw [toClient_sent hssl]
    exact hresponse

end Sent

theorem Flow.relays (h : Flow c proxy trace) : Relays trace := by
  refine ⟨.inr ⟨proxy.requestBuffer, h.request, ?_⟩, .inl ⟨h.unanswered, ?_⟩, h.inTurn⟩
  · rw [h.forwarded]
    exact List.take_prefix _ _
  · exact ⟨c.unsent, h.relayed⟩

theorem Answered.relays (h : Answered c trace) : Relays trace := by
  obtain ⟨response, hmem, herror, hresponse⟩ := h.response
  exact ⟨h.forwarded, .inr ⟨h.nothing, response, hmem, herror, ⟨c.unsent, hresponse⟩⟩, h.inTurn⟩

/-! ## §3. The way of a request. -/

/-- A connection that may receive its request, and has moved nothing. -/
structure Unasked (c : UringConnection σ) (log : List Act) : Prop extends Receptive c log where
  shows : Shows log []
  unsent : c.unsent = []

/-- The exchange with the upstream that a connection is in. -/
structure Exchanging (c : UringConnection σ) (log : List Act) (proxy : UringProxy)
    (trace : List Exchange) : Prop where
  found : c.proxy = some proxy
  read : c.readPending = false
  stream : c.staticStream = none
  shows : Shows log trace
  flow : Flow c proxy trace

/-- How far a request has come: it stays here, it is with an upstream, or its client is
told that there is nothing from the upstream. -/
inductive Passage (c : UringConnection σ) (log : List Act) : Prop where
  | here (hproxied : .proxied ∉ log) (hproxy : c.proxy = none)
      (hreading : c.readPending = true → Unasked c log)
  | proxying (proxy : UringProxy) (trace : List Exchange) (h : Exchanging c log proxy trace)
  | answered (trace : List Exchange) (hproxy : c.proxy = none) (hread : c.readPending = false)
      (hstream : c.staticStream = none) (hshows : Shows log trace) (hanswered : Answered c trace)

theorem Unasked.passage (h : Unasked c log) : Passage c log :=
  .here h.proxied h.proxy (fun _ => h)

/-- Nothing but flags of the client's operations has changed. -/
theorem Unasked.congr (h : Unasked c log) (hproxy : c₁.proxy = c.proxy)
    (hstream : c₁.staticStream = c.staticStream) (hunsent : c₁.unsent = c.unsent)
    (hproxied : .proxied ∉ acts) (htaken : taken acts = false)
    (hnothing : exchanges acts = []) : Unasked c₁ (log ++ acts) where
  toReceptive := h.toReceptive.congr hproxy hstream hproxied
  shows := h.shows.mute htaken hnothing
  unsent := hunsent.trans h.unsent

theorem Unasked.copied (h : Unasked c log) (received : List UInt8) :
    Unasked c.markReadCompleted (log ++ [.copied received]) :=
  h.congr rfl rfl rfl (by simp) rfl rfl

theorem Passage.unasked (h : Passage c log) (hread : c.readPending = true) : Unasked c log := by
  cases h with
  | here _ _ hreading => exact hreading hread
  | proxying _ _ h =>
      have hnot := h.read
      rw [hread] at hnot
      cases hnot
  | answered _ _ hnot => rw [hread] at hnot; cases hnot

/-- Acts that move nothing, on a connection that still holds the same bytes. -/
theorem Passage.congr (h : Passage c log) (hread : c₁.readPending = c.readPending)
    (hproxy : c₁.proxy = c.proxy) (hstream : c₁.staticStream = c.staticStream)
    (hunsent : c₁.unsent = c.unsent) (hproxied : .proxied ∉ acts) (htaken : taken acts = false)
    (hnothing : exchanges acts = []) : Passage c₁ (log ++ acts) := by
  cases h with
  | here hnot hnone hreading =>
      refine .here (not_proxied_append hnot hproxied) (hproxy.trans hnone) ?_
      intro htrue
      exact (hreading (hread ▸ htrue)).congr hproxy hstream hunsent hproxied htaken hnothing
  | proxying proxy trace h =>
      exact .proxying proxy trace
        ⟨hproxy.trans h.found, hread.trans h.read, hstream.trans h.stream,
          h.shows.mute htaken hnothing, h.flow.congr hunsent rfl rfl rfl (.inl rfl)⟩
  | answered trace hp hidle hs hshows hanswered =>
      refine .answered trace (hproxy.trans hp) (hread.trans hidle) (hstream.trans hs)
        (hshows.mute htaken hnothing) ?_
      obtain ⟨response, hmem, herror, hresponse⟩ := hanswered.response
      exact ⟨hanswered.forwarded, hanswered.nothing,
        ⟨response, hmem, herror, by rw [hunsent]; exact hresponse⟩, hanswered.inTurn⟩

theorem Passage.keep (h : Passage c log) (hread : c₁.readPending = c.readPending)
    (hproxy : c₁.proxy = c.proxy) (hstream : c₁.staticStream = c.staticStream)
    (hunsent : c₁.unsent = c.unsent) : Passage c₁ log := by
  have hkept : Passage c₁ (log ++ []) :=
    h.congr hread hproxy hstream hunsent List.not_mem_nil rfl rfl
  rwa [List.append_nil] at hkept

theorem Passage.exchanging (h : Passage c log) (hproxy : c.proxy = some proxy) :
    ∃ trace, Exchanging c log proxy trace := by
  cases h with
  | here _ hnone => rw [hnone] at hproxy; cases hproxy
  | proxying proxy' trace h =>
      have hfound := h.found
      rw [hproxy] at hfound
      injection hfound with hfound
      exact ⟨trace, hfound ▸ h⟩
  | answered _ hnone => rw [hnone] at hproxy; cases hproxy

/-- The exchange goes on with another proxy state. -/
theorem Exchanging.setProxy (h : Exchanging c log proxy trace)
    (hbuffer : proxy₁.requestBuffer = proxy.requestBuffer)
    (hoffset : proxy₁.requestOffset = proxy.requestOffset)
    (hstarted : proxy₁.responseStarted = proxy.responseStarted)
    (hphase : proxy₁.phase = proxy.phase ∨ proxy.responseStarted = false) :
    Exchanging (c.setProxy proxy₁) log proxy₁ trace where
  found := rfl
  read := h.read
  stream := h.stream
  shows := h.shows
  flow := h.flow.congr rfl hbuffer hoffset hstarted hphase

/-- … or in another phase, before its response has started. -/
theorem Exchanging.transition (h : Exchanging c log proxy trace)
    (hstarted : proxy.responseStarted = false) (now : Instant) (phase : ProxyPhase) :
    Exchanging (c.setProxy (proxy.transition now phase)) log (proxy.transition now phase) trace :=
  h.setProxy rfl rfl rfl (.inr hstarted)

theorem Exchanging.completed (h : Exchanging c log proxy trace) :
    Exchanging (c.setProxy proxy.completed) log proxy.completed trace :=
  h.setProxy rfl rfl rfl (.inl rfl)

theorem Exchanging.wrote (h : Exchanging c log proxy trace) (now : Instant) (n : Nat) :
    Exchanging (c.setProxy (proxy.completed.wrote now n))
      (log ++ [.forwarded ((proxy.requestBuffer.drop proxy.requestOffset).take n)])
      (proxy.completed.wrote now n)
      (trace ++ [.forwarded ((proxy.requestBuffer.drop proxy.requestOffset).take n)]) where
  found := rfl
  read := h.read
  stream := h.stream
  shows := h.shows.append rfl
  flow := (h.flow.wrote now n).congr rfl rfl rfl rfl (.inl rfl)

/-- A chunk is taken, and queued. -/
theorem Exchanging.chunk (h : Exchanging c log proxy trace) (hssl : c.ssl = none)
    (hunsent : c.unsent = []) (hphase : proxy.phase = .readingResponse) (now : Instant)
    (bytes : List UInt8) :
    Passage ((c.setProxy (proxy.completed.received now)).queueResponse bytes)
      (log ++ [.relayed bytes, .queued bytes]) := by
  refine .proxying _ (trace ++ [.relayed bytes])
    ⟨rfl, h.read, h.stream, h.shows.append rfl, h.flow.chunk hunsent now hphase ?_⟩
  rw [unsent_of_plain (by exact hssl)]
  rfl

/-- The exchange is given up. -/
theorem Exchanging.told (h : Exchanging c log proxy trace)
    (hstarted : proxy.responseStarted = false) (hssl : c.ssl = none) {response : List UInt8}
    (herror : IsUpstreamError response) :
    Passage ({ c with proxy := none }.queueResponse response) (log ++ [.queued response]) := by
  refine .answered _ rfl h.read h.stream (h.shows.append rfl) ?_
  refine h.flow.fail hstarted herror ?_
  have hunsent := unsent_of_plain (c := { c with proxy := none }.queueResponse response) hssl
  exact hunsent

/-! ## §4. One turn. -/

/-- What the operations in flight were given is what the buffers hold next. -/
structure Offers (c : UringConnection σ) (ops : List ConnectionOp) : Prop where
  client : ∀ buffer offset clears, .send buffer offset clears ∈ ops →
    buffer.drop offset = c.unsent
  upstream : ∀ bytes proxy, .proxySend bytes ∈ ops → c.proxy = some proxy →
    bytes = proxy.requestBuffer.drop proxy.requestOffset

/-- Between two turns there is nothing to send but what is being sent. -/
structure Delivers (c : UringConnection σ) (ops : List ConnectionOp) (log : List Act) : Prop where
  passage : Passage c log
  rest : c.writePending = false → c.unsent = []
  offers : Offers c ops

/-- Where a turn has come before its final call. -/
structure Staged (c : UringConnection σ) (log : List Act) (next : Next) : Prop where
  passage : Passage c log
  rest : next ≠ .send → c.writePending = false → c.unsent = []
  recv : next = .recv → Unasked c log

theorem offers_nil : Offers c [] := ⟨fun _ _ _ hmem => (by cases hmem), fun _ _ hmem => (by cases hmem)⟩

theorem Staged.finish {clears : Nat} (h : Staged c log next) (hssl : c.ssl = none)
    (hoffers : Offers c ops) (hfinish : Finish env clears c next c' pushed acts) :
    Delivers c' (ops ++ pushed) (log ++ acts) := by
  have hfill : c.fillOutput env.tls = some (c, []) := by
    simp [UringConnection.fillOutput, hssl]
  cases hfinish with
  | done =>
      rw [List.append_nil, List.append_nil]
      exact ⟨h.passage, h.rest (by simp), hoffers⟩
  | sendBusy hbusy =>
      rw [List.append_nil, List.append_nil]
      refine ⟨h.passage, fun hfree => ?_, hoffers⟩
      rw [hbusy] at hfree
      cases hfree
  | sendIdle c₂ acts _ hfill' hunsent =>
      rw [hfill] at hfill'
      cases hfill'
      rw [List.append_nil, List.append_nil]
      exact ⟨h.passage, fun _ => hunsent, hoffers⟩
  | sent c₂ acts _ hfill' _ =>
      rw [hfill] at hfill'
      cases hfill'
      rw [List.append_nil]
      refine ⟨h.passage.keep rfl rfl rfl rfl, fun hfree => (by cases hfree), ?_, ?_⟩
      · intro buffer offset clears' hmem
        rcases List.mem_append.mp hmem with hmem | hmem
        · exact hoffers.client buffer offset clears' hmem
        · cases List.mem_singleton.mp hmem
          show c.sendBuffer.1.drop c.sendBuffer.2 = c.unsent
          simp [UringConnection.sendBuffer, UringConnection.unsent, hssl]
      · intro bytes proxy hmem hproxy
        rcases List.mem_append.mp hmem with hmem | hmem
        · exact hoffers.upstream bytes proxy hmem hproxy
        · cases List.mem_singleton.mp hmem
  | recvBusy =>
      rw [List.append_nil, List.append_nil]
      exact ⟨h.passage, h.rest (by simp), hoffers⟩
  | recv =>
      have hunasked : Unasked c.markReadSubmitted (log ++ [.recvSubmitted]) :=
        (h.recv rfl).congr rfl rfl rfl (by simp) rfl rfl
      refine ⟨hunasked.passage, fun _ => hunasked.unsent, ?_, ?_⟩
      · intro buffer offset clears' hmem
        rcases List.mem_append.mp hmem with hmem | hmem
        · exact hoffers.client buffer offset clears' hmem
        · cases List.mem_singleton.mp hmem
      · intro bytes proxy hmem hproxy
        rcases List.mem_append.mp hmem with hmem | hmem
        · exact hoffers.upstream bytes proxy hmem hproxy
        · cases List.mem_singleton.mp hmem
  | upstream _ op hkind proxy hproxy _ hbytes =>
      obtain ⟨trace, hexchanging⟩ := h.passage.exchanging hproxy
      have hsubmitted : Exchanging (c.setProxy proxy.submitted) log proxy.submitted trace :=
        hexchanging.setProxy rfl rfl rfl (.inl rfl)
      have hne : next ≠ .send := by
        rintro rfl
        cases hkind
      have hpassage : Passage (c.setProxy proxy.submitted) log := .proxying _ _ hsubmitted
      refine ⟨hpassage.congr rfl rfl rfl rfl (by simp) rfl rfl, h.rest hne, ?_, ?_⟩
      · intro buffer offset clears' hmem
        rcases List.mem_append.mp hmem with hmem | hmem
        · exact hoffers.client buffer offset clears' hmem
        · rw [← List.mem_singleton.mp hmem] at hkind
          cases next <;> cases hkind
      · intro bytes proxy' hmem hproxy'
        cases hproxy'
        rcases List.mem_append.mp hmem with hmem | hmem
        · exact hoffers.upstream bytes proxy hmem hproxy
        · exact hbytes bytes (List.mem_singleton.mp hmem).symm

/-! ## §5. Moves. -/

theorem Passage.sends (h : Passage c log) : Staged c log .send :=
  ⟨h, fun hne => absurd rfl hne, fun heq => (by cases heq)⟩

theorem Exchanging.staged (h : Exchanging c log proxy trace) (hunsent : c.unsent = [])
    (hne : next ≠ .recv) : Staged c log next :=
  ⟨.proxying proxy trace h, fun _ _ => hunsent, fun heq => absurd heq hne⟩

theorem Exchanging.unstarted (h : Exchanging c log proxy trace) {kind : OperationKind}
    (hphase : proxy.phase.kind = some kind) (hkind : kind ≠ .proxyRead) :
    proxy.responseStarted = false := by
  apply h.flow.phase
  intro hreading
  rw [hreading] at hphase
  injection hphase with hphase
  exact hkind hphase.symm

theorem Exchanging.fail (h : Exchanging c log proxy trace) (hssl : c.ssl = none)
    (hmove : FailMove c next (some c₁) acts) : Staged c₁ (log ++ acts) next := by
  cases hmove with
  | answered response _ hstarted herror =>
      exact (h.told (hstarted proxy h.found) hssl herror).sends

theorem Exchanging.address (h : Exchanging c log proxy trace) (hssl : c.ssl = none)
    (hunsent : c.unsent = []) (hstarted : proxy.responseStarted = false)
    (hmove : AddressMove env c proxy next (some c₁) acts) : Staged c₁ (log ++ acts) next := by
  cases hmove with
  | found address socket addresses =>
      rw [List.append_nil]
      have hnext : Exchanging (c.setProxy (proxy.connectTo env.now socket address addresses)) log
          (proxy.connectTo env.now socket address addresses) trace :=
        h.setProxy rfl rfl rfl (.inl rfl)
      exact hnext.staged hunsent (by simp)
  | exhausted response _ herror => exact (h.told hstarted hssl herror).sends

/-- A file is served to a request that stayed here. -/
theorem Passage.file (h : Passage c log) (hstream : c.staticStream.isSome = true) :
    .proxied ∉ log ∧ c.proxy = none ∧ c.readPending = false := by
  cases h with
  | here hproxied hproxy hreading =>
      refine ⟨hproxied, hproxy, ?_⟩
      by_contra htrue
      rw [(hreading (by simpa using htrue)).stream] at hstream
      cases hstream
  | proxying _ _ h =>
      rw [h.stream] at hstream
      cases hstream
  | answered _ _ _ hnone =>
      rw [hnone] at hstream
      cases hstream

/-- A connection that waits for nothing from its client stays here. -/
theorem passage_here (hproxied : .proxied ∉ log) (hproxy : c.proxy = none)
    (hread : c.readPending = false) : Passage c log := by
  refine .here hproxied hproxy (fun htrue => ?_)
  rw [hread] at htrue
  cases htrue

theorem Passage.chunk (h : Passage c log) (hunsent : c.unsent = [])
    (hstream : c.staticStream.isSome = true) (hmove : StreamMove c next (some c₁) acts) :
    Staged c₁ (log ++ acts) next := by
  obtain ⟨hproxied, hproxy, hread⟩ := h.file hstream
  cases hmove with
  | data =>
      refine Passage.sends (passage_here (not_proxied_append hproxied ?_) hproxy hread)
      simp
  | pending =>
      rw [List.append_nil]
      exact ⟨h, fun _ _ => hunsent, fun heq => (by cases heq)⟩

/-- A complete request takes its way. -/
theorem Unasked.answer (h : Unasked c log) (hread : c.readPending = false) (hssl : c.ssl = none)
    (hruns : ∀ reason, next ≠ .exit reason) (hmove : AnswerMove env c next (some c₁) acts) :
    Staged c₁ (log ++ acts) next := by
  cases hmove with
  | respond | static =>
      refine Passage.sends (passage_here (not_proxied_append h.proxied ?_) h.proxy hread)
      simp
  | proxyError response _ herror forwarding hforwarding =>
      refine Passage.sends ?_
      have hunsent := unsent_of_plain (c := { c with proxy := none }.queueResponse response) hssl
      have hanswered : ∀ {trace : List Exchange}, toUpstream trace = [] → toClient trace = [] →
          fromUpstream trace = [] → Throughout Exchange.InTurn trace →
          Answered ({ c with proxy := none }.queueResponse response)
            (trace ++ [.queued response]) := by
        intro trace hup hclient hfrom hturns
        refine ⟨.inl ?_, ?_, ⟨response, ?_, isErrorResponse_of_upstream herror, ?_⟩,
          hturns.concat ⟨hclient, hfrom⟩⟩
        · rw [toUpstream_append, hup]
          rfl
        · rw [fromUpstream_append, hfrom]
          rfl
        · rw [responses_append]
          simp
        · rw [toClient_append, hclient, hunsent]
          rfl
      rcases hforwarding with rfl | ⟨bytes, rfl⟩
      · exact .answered _ rfl hread h.stream (h.shows.append rfl)
          (hanswered rfl rfl rfl throughout_nil)
      · have hturns : Throughout Exchange.InTurn [.forwarding bytes] :=
          throughout_nil.concat trivial
        exact .answered _ rfl hread h.stream (h.shows.append rfl)
          (hanswered rfl rfl rfl hturns)
  | resolving requestBuffer =>
      have hturns : Throughout Exchange.InTurn [.forwarding requestBuffer] :=
        throughout_nil.concat trivial
      have hexchanging : Exchanging (c.setProxy (UringProxy.resolving env.now requestBuffer))
          (log ++ [.proxied, .forwarding requestBuffer])
          (UringProxy.resolving env.now requestBuffer) [.forwarding requestBuffer] :=
        ⟨rfl, hread, h.stream, h.shows.append rfl,
          ⟨rfl, rfl, rfl, h.unsent, fun _ => rfl, fun _ => rfl, hturns⟩⟩
      exact hexchanging.staged h.unsent (by simp)
  | balancerPanic => exact absurd rfl (hruns _)

theorem Unasked.plaintext {received : List UInt8} (h : Unasked c log)
    (hread : c.readPending = false) (hssl : c.ssl = none)
    (hruns : ∀ reason, next ≠ .exit reason)
    (hmove : PlaintextMove env received c next (some c₁) acts) :
    Staged c₁ (log ++ acts) next := by
  have hreceived : ∀ {c₂ : UringConnection σ} {verdict : ReadVerdict},
      c.receiveRequest env.limits received = (c₂, verdict) →
      Unasked c₂ (log ++ [.verdict verdict]) ∧ c₂.readPending = false ∧ c₂.ssl = none := by
    intro c₂ verdict hreceive
    obtain ⟨_, _, _, rfl⟩ := receiveRequest_frame hreceive
    exact ⟨h.congr rfl rfl rfl (by simp) rfl rfl, hread, hssl⟩
  cases hmove with
  | empty =>
      rw [List.append_nil]
      exact ⟨h.passage, fun _ _ => h.unsent, fun _ => h⟩
  | waiting _ hreceive =>
      obtain ⟨hwaiting, -⟩ := hreceived hreceive
      exact ⟨hwaiting.passage, fun _ _ => hwaiting.unsent, fun _ => hwaiting⟩
  | rejected c₂ status message response _ hreceive =>
      obtain ⟨hrejected, hidle, -⟩ := hreceived hreceive
      rw [List.append_cons]
      refine Passage.sends (passage_here (not_proxied_append hrejected.proxied ?_) hrejected.proxy hidle)
      simp
  | dispatched c₂ head body _ _ _ hreceive hanswer =>
      obtain ⟨hdispatched, hidle, hplain⟩ := hreceived hreceive
      rw [List.append_cons]
      exact hdispatched.answer hidle hplain hruns hanswer

/-- The client's socket took the next bytes. -/
theorem Passage.sent (h : Passage c log) (hssl : c.ssl = none) (hread : c.readPending = false)
    (n : Nat) (more : Bool) :
    Passage (c.advance n) (log ++ [.sent (c.unsent.take n) more]) := by
  have hsame := advance_sameOrder c n
  cases h with
  | here hproxied hproxy _ =>
      exact passage_here (not_proxied_append hproxied (by simp)) (hsame.proxy.trans hproxy)
        (hsame.readPending.trans hread)
  | proxying proxy trace h =>
      exact .proxying proxy _ ⟨hsame.proxy.trans h.found, hsame.readPending.trans h.read,
        hsame.staticStream.trans h.stream, h.shows.append rfl, h.flow.sent hssl n⟩
  | answered trace hproxy hidle hstream hshows hanswered =>
      exact .answered _ (hsame.proxy.trans hproxy) (hsame.readPending.trans hidle)
        (hsame.staticStream.trans hstream) (hshows.append rfl) (hanswered.sent hssl n)

theorem Passage.written {submitted : List UInt8} {result : Int} (h : Passage c log)
    (hssl : c.ssl = none) (hread : c.readPending = false) (hsubmitted : submitted = c.unsent)
    (hmove : WriteMove env submitted result c next (some c₁) acts) :
    Staged c₁ (log ++ acts) next := by
  subst hsubmitted
  have hsent : ∀ more, Passage (c.advance result.toNat)
      (log ++ [.sent (c.unsent.take result.toNat) more]) := h.sent hssl hread result.toNat
  -- the buffer is cleared when all of it was sent
  have hplain : (c.advance result.toNat).ssl = none := by
    have hsome := (sameClient_advance c result.toNat).ssl
    rw [hssl] at hsome
    simpa using hsome
  have hempty : (c.advance result.toNat).clearOutput.unsent = [] := by
    rw [unsent_of_plain (by exact hplain)]
    rfl
  have hcleared : (c.advance result.toNat).outputDrained env.tls = true → ∀ more,
      Passage (c.advance result.toNat).clearOutput
        (log ++ [.sent (c.unsent.take result.toNat) more]) := by
    intro hdrained more
    have hall := (UringConnection.outputDrained_spec hdrained).2.1
    exact (hsent more).keep rfl rfl rfl (hempty.trans hall.symm)
  cases hmove with
  | retry =>
      rw [List.append_nil]
      exact h.sends
  | more => exact (hsent _).sends
  | stream _ _ hdrained hstream _ _ _ hmove =>
      have hsome : (c.advance result.toNat).clearOutput.staticStream.isSome = true := by
        show (c.advance result.toNat).staticStream.isSome = true
        rw [c.advance_staticStream]
        exact hstream
      rw [List.append_cons]
      exact (hcleared hdrained _).chunk hempty hsome hmove
  | proxy _ _ hdrained _ proxy hproxy =>
      obtain ⟨trace, hexchanging⟩ := (hcleared hdrained
        ((c.advance result.toNat).wantsWrite env.tls)).exchanging
        ((c.advance_proxy _).trans hproxy)
      have hnext : Exchanging ((c.advance result.toNat).clearOutput.setProxy
          (proxy.recordProgress env.now)) _ (proxy.recordProgress env.now) trace :=
        hexchanging.setProxy rfl rfl rfl (.inl rfl)
      exact hnext.staged hempty (by simp)
  | close _ _ _ _ _ ssl hsome =>
      rw [hssl] at hsome
      cases hsome

/-! ## §6. Turns. -/

section Turns

variable {now : Instant} {op : ConnectionOp} {ops₀ : List ConnectionOp}

/-- A completed operation was the only one. -/
theorem Plain.of_completion (h : Plain c ops) (hready : Ready cfg now c event ops ops₀)
    (hevent : event.isCompletion = true) :
    ∃ op completion, event = op.turnEvent completion ∧ ops = [op] ∧ ops₀ = [] := by
  obtain ⟨op, completion, before, after, heq, rfl, rfl⟩ := hready.of_completion hevent
  obtain ⟨rfl, rfl⟩ := h.situation.of_completed
  exact ⟨op, completion, heq, rfl, rfl⟩

theorem Plain.of_recv {length : Nat} (h : Plain c [.recv length]) :
    c.readPending = true ∧ c.writePending = false := by
  cases h.situation with
  | receiving _ hread hwrite => exact ⟨hread, hwrite⟩
  | upstream _ _ _ _ proxy _ _ hphase => exact absurd hphase (phase_kind_client proxy.phase rfl)

theorem Plain.of_send {buffer : List UInt8} {offset clears : Nat}
    (h : Plain c [.send buffer offset clears]) : c.readPending = false := by
  cases h.situation with
  | sending _ _ _ hread => exact hread
  | upstream _ _ _ _ proxy _ _ hphase => exact absurd hphase (phase_kind_client proxy.phase rfl)

/-- While an operation on the upstream is in flight nothing is sent to the client. -/
theorem Plain.of_upstream (h : Plain c [op]) (hop : op.isUpstream = true)
    (hproxy : c.proxy = some proxy) :
    c.writePending = false ∧ proxy.phase.kind = some op.kind := by
  cases h.situation with
  | receiving => cases hop
  | sending => cases hop
  | upstream _ _ hwrite _ proxy' hproxy' _ hphase =>
      rw [hproxy] at hproxy'
      injection hproxy' with hproxy'
      exact ⟨hwrite, hproxy' ▸ hphase⟩

theorem Offers.of_ready (h : Offers c ops) (hready : Ready cfg now c event ops ops₀) :
    Offers c ops₀ :=
  ⟨fun buffer offset clears hmem => h.client buffer offset clears (hready.sublist.subset hmem),
    fun bytes proxy hmem => h.upstream bytes proxy (hready.sublist.subset hmem)⟩

/-- What an upstream completion finds. -/
theorem Delivers.of_upstream (h : Delivers c ops log) (hplain : Plain c ops)
    (hready : Ready cfg now c event ops ops₀) {kind : OperationKind}
    (hkind : event.upstreamKind = some kind) (hproxy : c.proxy = some proxy) :
    ∃ op completion trace, event = op.turnEvent completion ∧ ops = [op] ∧ ops₀ = []
      ∧ proxy.phase.kind = some kind ∧ c.unsent = []
      ∧ Exchanging c log proxy trace := by
  have hevent : event.isCompletion = true := by
    cases event <;> first | rfl | cases hkind
  obtain ⟨op, completion, rfl, rfl, hnil⟩ := hplain.of_completion hready hevent
  have hop : op.isUpstream = true ∧ op.kind = kind := by
    cases op <;> cases hkind <;> exact ⟨rfl, rfl⟩
  obtain ⟨hwrite, hphase⟩ := hplain.of_upstream hop.1 hproxy
  obtain ⟨trace, hexchanging⟩ := h.passage.exchanging hproxy
  exact ⟨op, completion, trace, rfl, rfl, hnil, hop.2 ▸ hphase, h.rest hwrite, hexchanging⟩

/-- Only a connection that has moved nothing waits for its client. -/
theorem Delivers.of_read {result : Int} {bufferId : Option Nat} {contents : Nat → UInt8}
    (h : Delivers c ops log) (hplain : Plain c ops)
    (hready : Ready cfg now c (.read result bufferId contents) ops ops₀) :
    ops₀ = [] ∧ Unasked c log := by
  obtain ⟨op, completion, heq, rfl, rfl⟩ := hplain.of_completion hready rfl
  cases op with
  | recv length => exact ⟨rfl, h.passage.unasked hplain.of_recv.1⟩
  | _ => cases heq

/-- A completed send took bytes of what the client is still to get. -/
theorem Delivers.of_write {submitted : List UInt8} {result : Int} (h : Delivers c ops log)
    (hplain : Plain c ops) (hready : Ready cfg now c (.write submitted result) ops ops₀) :
    ops₀ = [] ∧ c.readPending = false ∧ submitted = c.unsent := by
  obtain ⟨op, completion, heq, rfl, rfl⟩ := hplain.of_completion hready rfl
  cases op with
  | send buffer offset clears =>
      injection heq with hsubmitted _
      have hunsent := h.offers.client buffer offset clears (List.mem_singleton_self _)
      exact ⟨rfl, hplain.of_send, hsubmitted.trans hunsent⟩
  | _ => cases heq

/-- Nothing is in flight while the name of the upstream is being resolved. -/
theorem Delivers.of_resolving (h : Delivers c ops log) (hplain : Plain c ops)
    (hproxy : c.proxy = some proxy) (hphase : proxy.phase = .resolving) :
    ops = [] ∧ c.unsent = [] ∧ proxy.responseStarted = false
      ∧ ∃ trace, Exchanging c log proxy trace := by
  obtain ⟨trace, hexchanging⟩ := h.passage.exchanging hproxy
  have hwaiting : ops = [] ∧ c.writePending = false := by
    cases hplain.situation with
    | receiving _ _ _ hnone => rw [hproxy] at hnone; cases hnone
    | sending _ _ _ _ _ _ hsending => rw [(hsending proxy hproxy).1] at hphase; cases hphase
    | upstream _ _ _ _ proxy' hproxy' _ hkind =>
        rw [hproxy] at hproxy'
        injection hproxy' with hproxy'
        rw [← hproxy', hphase] at hkind
        cases hkind
    | resolving _ hwrite => exact ⟨rfl, hwrite⟩
    | file _ _ hnone => rw [hproxy] at hnone; cases hnone
  exact ⟨hwaiting.1, h.rest hwaiting.2, hexchanging.flow.phase (by rw [hphase]; simp), trace,
    hexchanging⟩

/-- **Every move on a plaintext connection.** -/
theorem Delivers.move (h : Delivers c ops log) (hplain : Plain c ops)
    (hready : Ready cfg now c event ops ops₀) (hruns : ∀ reason, next ≠ .exit reason)
    (hmove : Move env event c next (some c₁) acts) :
    Staged c₁ (log ++ acts) next ∧ Offers c₁ ops₀ := by
  have hsame : next = .done → Staged c (log ++ []) next ∧ Offers c ops₀ := by
    rintro rfl
    rw [List.append_nil]
    exact ⟨⟨h.passage, fun _ => h.rest, fun heq => (by cases heq)⟩, h.offers.of_ready hready⟩
  -- a completed send took bytes of what is left of the request
  have hwrote : ∀ {proxy : UringProxy} {submitted : List UInt8} {result : Int},
      c.proxy = some proxy → Ready cfg now c (.proxyWrite submitted result) ops ops₀ →
      c.unsent = [] ∧ proxy.responseStarted = false ∧ ops₀ = [] ∧ ∃ trace,
        proxy.requestBuffer.drop proxy.requestOffset = submitted
          ∧ Exchanging c log proxy trace := by
    intro proxy submitted result hproxy hready
    obtain ⟨op, completion, trace, heq, rfl, rfl, hphase, hunsent, hexchanging⟩ :=
      h.of_upstream hplain hready rfl hproxy
    cases op with
    | proxySend bytes =>
        injection heq with hsubmitted _
        have hbytes := h.offers.upstream bytes proxy (List.mem_singleton_self _) hproxy
        exact ⟨hunsent, hexchanging.unstarted hphase (by simp), rfl, trace,
          (hsubmitted.trans hbytes).symm, hexchanging⟩
    | _ => cases heq
  cases hmove with
  | accepted => exact absurd rfl hready.not_accepted
  | recvBroken => exact absurd rfl (hruns _)
  | recvRetry =>
      obtain ⟨rfl, hunasked⟩ := h.of_read hplain hready
      have hcompleted : Unasked c.markReadCompleted (log ++ []) :=
        hunasked.congr rfl rfl rfl List.not_mem_nil rfl rfl
      exact ⟨⟨hcompleted.passage, fun _ _ => hcompleted.unsent, fun _ => hcompleted⟩, offers_nil⟩
  | write hmove =>
      obtain ⟨rfl, hread, hsubmitted⟩ := h.of_write hplain hready
      have hwritten : Passage c.markWriteCompleted log := h.passage.keep rfl rfl rfl rfl
      exact ⟨hwritten.written hplain.ssl hread hsubmitted hmove, offers_nil⟩
  | noProxy => exact hsame rfl
  | connectFailed proxy hproxy _ hmove | writeFailed proxy hproxy _ hmove
  | readFailed proxy hproxy _ hmove =>
      obtain ⟨op, completion, trace, -, rfl, rfl, -, -, hexchanging⟩ :=
        h.of_upstream hplain hready rfl hproxy
      exact ⟨hexchanging.completed.fail hplain.ssl hmove, offers_nil⟩
  | connectNext proxy hproxy hmove =>
      obtain ⟨op, completion, trace, -, rfl, rfl, hphase, hunsent, hexchanging⟩ :=
        h.of_upstream hplain hready rfl hproxy
      have hstarted := hexchanging.unstarted hphase (by simp)
      exact ⟨hexchanging.completed.address hplain.ssl hunsent hstarted hmove, offers_nil⟩
  | connected proxy hproxy =>
      obtain ⟨op, completion, trace, -, rfl, rfl, hphase, hunsent, hexchanging⟩ :=
        h.of_upstream hplain hready rfl hproxy
      have hstarted := hexchanging.unstarted hphase (by simp)
      have hnext := hexchanging.completed.transition hstarted env.now .writingRequest
      rw [List.append_nil]
      exact ⟨hnext.staged hunsent (by simp), offers_nil⟩
  | writeRetry proxy hproxy | readRetry proxy hproxy =>
      obtain ⟨op, completion, trace, -, rfl, rfl, -, hunsent, hexchanging⟩ :=
        h.of_upstream hplain hready rfl hproxy
      rw [List.append_nil]
      exact ⟨hexchanging.completed.staged hunsent (by simp), offers_nil⟩
  | wroteSome proxy hproxy =>
      obtain ⟨hunsent, hstarted, hnil, trace, rfl, hexchanging⟩ := hwrote hproxy hready
      rw [hnil]
      exact ⟨(hexchanging.wrote env.now _).staged hunsent (by simp), offers_nil⟩
  | wroteAll proxy hproxy =>
      obtain ⟨hunsent, hstarted, hnil, trace, rfl, hexchanging⟩ := hwrote hproxy hready
      rw [hnil]
      exact ⟨((hexchanging.wrote env.now _).transition hstarted env.now .readingResponse).staged
        hunsent (by simp), offers_nil⟩
  | upstreamBroken => exact absurd rfl (hruns _)
  | chunk proxy hproxy bytes =>
      obtain ⟨op, completion, trace, -, rfl, rfl, hphase, hunsent, hexchanging⟩ :=
        h.of_upstream hplain hready rfl hproxy
      have hreading : proxy.phase = .readingResponse := phase_of_kind hphase
      exact ⟨(hexchanging.chunk hplain.ssl hunsent hreading env.now bytes).sends, offers_nil⟩
  | notResolving => exact hsame rfl
  | unresolved proxy hproxy hphase response _ herror =>
      obtain ⟨rfl, hunsent, hstarted, trace, hexchanging⟩ := h.of_resolving hplain hproxy hphase
      rw [hready.of_resolved]
      refine ⟨(hexchanging.told hstarted hplain.ssl herror).sends, offers_nil⟩
  | resolved addresses proxy hproxy hphase hmove =>
      obtain ⟨rfl, hunsent, hstarted, trace, hexchanging⟩ := h.of_resolving hplain hproxy hphase
      rw [hready.of_resolved]
      have hnext : Exchanging
          (c.setProxy ({ proxy with addresses }.transition env.now .connecting)) log _ trace :=
        hexchanging.setProxy rfl rfl rfl (.inr hstarted)
      exact ⟨hnext.address hplain.ssl hunsent hstarted hmove, offers_nil⟩
  | expiredIdle hmove =>
      obtain ⟨rfl, hwrite, proxy, hproxy, -, hidle⟩ := hready.of_expired
      obtain ⟨trace, hexchanging⟩ := h.passage.exchanging hproxy
      refine ⟨hexchanging.fail hplain.ssl hmove, ?_⟩
      obtain ⟨-, -, ⟨rfl, -⟩ | ⟨hpending, -⟩⟩ := hplain.of_proxy hwrite hproxy
      · exact offers_nil
      · rw [hpending] at hidle
        cases hidle
  | expiredPending proxy hproxy next hnext =>
      obtain ⟨rfl, hwrite, -⟩ := hready.of_expired
      obtain ⟨trace, hexchanging⟩ := h.passage.exchanging hproxy
      have hmarked : Exchanging (c.setProxy { proxy with timedOut := true }) log _ trace :=
        hexchanging.setProxy rfl rfl rfl (.inl rfl)
      rw [List.append_nil]
      refine ⟨hmarked.staged (h.rest hwrite) ?_, h.offers.client, ?_⟩
      · rcases hnext with rfl | rfl <;> simp
      · rintro bytes proxy' hmem hproxy'
        cases hproxy'
        exact h.offers.upstream bytes proxy hmem hproxy
  | expiredMissing => exact absurd rfl (hruns _)
  | pump hstream hmove =>
      obtain ⟨rfl, -, hwrite, -⟩ := hready.of_pump
      obtain ⟨rfl, -⟩ := hplain.of_pump hstream hwrite
      exact ⟨h.passage.chunk (h.rest hwrite) hstream hmove, offers_nil⟩
  | pumpMissing => exact absurd rfl (hruns _)

/-- **Every turn** that keeps a plaintext connection. -/
theorem Delivers.turn {clears : Nat} (h : Delivers c ops log) (hplain : Plain c ops)
    (hready : Ready cfg now c event ops ops₀)
    (houtcome : TurnOutcome env event c clears (some c') pushed acts) :
    Delivers c' (ops₀ ++ pushed) (log ++ acts) := by
  cases houtcome with
  | moved hmove hfinish =>
      obtain ⟨hstaged, hoffers⟩ := h.move hplain hready hfinish.runs hmove
      have hssl := hmove.sameClient.ssl
      rw [hplain.ssl] at hssl
      rw [← List.append_assoc]
      exact hstaged.finish (by simpa using hssl) hoffers hfinish
  | received heq _ hintake hflush hmove hfinish =>
      subst heq
      obtain ⟨rfl, hunasked⟩ := h.of_read hplain hready
      cases hintake with
      | plain =>
          obtain ⟨rfl, rfl, rfl⟩ := hflush.of_done
          have hssl := hmove.sameClient.ssl
          rw [show c.markReadCompleted.ssl = none from hplain.ssl] at hssl
          simp only [List.append_nil, ← List.append_assoc]
          exact ((hunasked.copied _).plaintext rfl hplain.ssl hfinish.runs hmove).finish
            (by simpa using hssl) offers_nil hfinish
      | tls ssl _ hsome =>
          rw [show c.markReadCompleted.ssl = none from hplain.ssl] at hsome
          cases hsome

/-! ## §7. Removals. -/

theorem Passage.relays (h : Passage c log) (hproxied : .proxied ∈ log) :
    Relays (exchanges log) := by
  cases h with
  | here hnot => exact absurd hproxied hnot
  | proxying _ _ h =>
      rw [h.shows.exchanges]
      exact h.flow.relays
  | answered _ _ _ _ hshows hanswered =>
      rw [hshows.exchanges]
      exact hanswered.relays

theorem Passage.ends (h : Passage c log) (hproxied : .proxied ∈ log ++ acts)
    (hacts : .proxied ∉ acts) (htaken : taken acts = false) (hnothing : exchanges acts = []) :
    Relays (exchanges (log ++ acts)) := by
  have hlast : Passage c (log ++ acts) := h.congr rfl rfl rfl rfl hacts htaken hnothing
  exact hlast.relays hproxied

theorem Passage.dropped (h : Passage c log) (hproxied : .proxied ∈ log ++ acts)
    (hmove : FailMove c₁ next none acts) : Relays (exchanges (log ++ acts)) := by
  cases hmove with
  | dropped => exact h.ends hproxied (by simp) rfl rfl

/-- The end of a file is not the end of an exchange. -/
theorem Passage.not_proxied (h : Passage c log) (hstream : c.staticStream.isSome = true)
    (hmove : StreamMove c₁ next none acts) : .proxied ∉ log ++ acts := by
  refine not_proxied_append (h.file hstream).1 ?_
  cases hmove <;> simp

theorem Delivers.removed {clears : Nat} (h : Delivers c ops log) (hplain : Plain c ops)
    (hready : Ready cfg now c event ops ops₀)
    (houtcome : TurnOutcome env event c clears none pushed acts)
    (hproxied : .proxied ∈ log ++ acts) : Relays (exchanges (log ++ acts)) := by
  cases houtcome with
  | removed hmove =>
      cases hmove with
      | recvClosed | handshakeExpired => exact h.passage.ends hproxied (by simp) rfl rfl
      | upstreamClosed => exact h.passage.ends hproxied (by simp) rfl rfl
      | tlsFailed _ ssl hsome =>
          rw [hplain.ssl] at hsome
          cases hsome
      | write hmove =>
          obtain ⟨rfl, hread, rfl⟩ := h.of_write hplain hready
          cases hmove with
          | failed | invalid => exact h.passage.ends hproxied (by simp) rfl rfl
          | stream _ _ _ hstream _ _ _ hmove =>
              rw [List.append_cons] at hproxied ⊢
              refine absurd hproxied
                ((h.passage.sent hplain.ssl hread _ _).not_proxied ?_ hmove)
              rw [c.advance_staticStream]
              exact hstream
          | delivered =>
              rw [List.append_cons] at hproxied ⊢
              exact (h.passage.sent hplain.ssl hread _ _).ends hproxied (by simp) rfl rfl
      | connectFailed _ _ _ hmove | writeFailed _ _ _ hmove | readFailed _ _ _ hmove
      | expiredIdle hmove => exact h.passage.dropped hproxied hmove
      | connectNext _ _ hmove => cases hmove
      | resolved _ _ _ _ hmove => cases hmove
      | pump hstream hmove => exact absurd hproxied (h.passage.not_proxied hstream hmove)
  | receivedRemoved heq _ hintake hflush hmove =>
      -- its listener is missing
      subst heq
      obtain ⟨rfl, hunasked⟩ := h.of_read hplain hready
      cases hintake with
      | plain =>
          obtain ⟨rfl, rfl, rfl⟩ := hflush.of_done
          rw [List.append_nil, ← List.append_assoc] at hproxied ⊢
          have hcopied := hunasked.copied
          cases hmove with
          | dispatched _ _ _ _ _ _ _ hanswer =>
              cases hanswer with
              | noListener => exact (hcopied _).passage.ends hproxied (by simp) rfl rfl
      | tls ssl _ hsome =>
          rw [show c.markReadCompleted.ssl = none from hplain.ssl] at hsome
          cases hsome

end Turns

/-! ## §8. Every run. -/

def deliveryRule (cfg : Config σ) : SlotRule cfg where
  Inv c ops log := log.head? = some (.accepted c.ssl.isSome)
    ∧ (c.ssl = none → Plain c ops ∧ Delivers c ops log)
  Guard item := givesOutIdle item = true
  Outlives _ := True
  Gone trace _ := trace.head? = some (.accepted false) → .proxied ∈ trace → Relays (exchanges trace)
  accepted := by
    intro id c stale hfresh hguard _
    have hnil : stale = [] := List.isEmpty_iff.mp hguard
    subst hnil
    cases hfresh with
    | mk socket listenerIndex ssl =>
        refine ⟨rfl, fun hssl => ⟨⟨hssl, .receiving _ rfl rfl rfl rfl⟩, ?_⟩⟩
        have hunsent : (UringConnection.fresh socket id.generation listenerIndex ssl
            ).markReadSubmitted.unsent = [] := unsent_of_plain hssl
        have hunasked : Unasked
            (UringConnection.fresh socket id.generation listenerIndex ssl).markReadSubmitted
            [.accepted ssl.isSome, .recvSubmitted] :=
          ⟨⟨by simp, rfl, rfl⟩, ⟨rfl, rfl⟩, hunsent⟩
        exact ⟨hunasked.passage, fun _ => hunsent, by simp, by simp⟩
  turn := by
    intro env id event c c' ops ops₀ pushed log acts _ _ _ _ hready hinv houtcome
    obtain ⟨hopens, hdelivers⟩ := hinv
    have hsame := houtcome.sameClient.ssl
    refine ⟨?_, ?_⟩
    · rw [List.head?_append, hopens, hsame]
      rfl
    · intro hssl'
      have hssl : c.ssl = none := by
        rw [hssl'] at hsame
        simpa using hsame.symm
      obtain ⟨hplain, h⟩ := hdelivers hssl
      exact ⟨hplain.turn hready houtcome, h.turn hplain hready houtcome⟩
  removed := by
    intro env id event c ops ops₀ pushed log acts _ _ _ _ hready hinv houtcome
    obtain ⟨hopens, hdelivers⟩ := hinv
    refine ⟨?_, fun _ _ => trivial⟩
    intro hhead hproxied
    have hssl : c.ssl = none := by
      rw [List.head?_append, hopens] at hhead
      simpa using hhead
    obtain ⟨hplain, h⟩ := hdelivers hssl
    exact h.removed hplain hready houtcome hproxied

/-- A send to the upstream was given what is left of the request. -/
theorem Delivers.forwarding (h : Delivers c ops log) (hplain : Plain c ops) {bytes : List UInt8}
    (hop : .proxySend bytes ∈ ops) :
    requests (exchanges log) = [toUpstream (exchanges log) ++ bytes] := by
  have hfound : ∃ proxy, c.proxy = some proxy := by
    cases hplain.situation with
    | receiving => cases List.mem_singleton.mp hop
    | sending => cases List.mem_singleton.mp hop
    | upstream _ _ _ _ proxy hproxy => exact ⟨proxy, hproxy⟩
    | resolving | file => cases hop
  obtain ⟨proxy, hproxy⟩ := hfound
  obtain ⟨trace, hexchanging⟩ := h.passage.exchanging hproxy
  rw [hexchanging.shows.exchanges, hexchanging.flow.request, hexchanging.flow.forwarded,
    h.offers.upstream bytes proxy hop hproxy, List.take_append_drop]

/-- **The io_uring worker relays.** In every run that gives out no id while an operation is
in flight under it, a plaintext connection whose request was proxied has given both sides
what they are owed, and sends the rest of the request; so had each one that was removed. -/
theorem Reachable.relays {w : IoUringWorker σ} (h : Reachable cfg w)
    (hguard : ∀ item ∈ w.history, givesOutIdle item = true) :
    (∀ slot occ, w.connections.get slot = some occ → occ.connection.ssl = none →
        (.proxied ∈ occ.log → Relays (exchanges occ.log))
        ∧ ∀ bytes, Entry.operation ⟨slot, occ.connection.generation⟩ (.proxySend bytes)
            ∈ w.inFlight →
          requests (exchanges occ.log) = [toUpstream (exchanges occ.log) ++ bytes])
      ∧ ∀ id log ops, HistoryItem.removed id log ops ∈ w.history →
          log.head? = some (.accepted false) → .proxied ∈ log → Relays (exchanges log) := by
  have hholds := (deliveryRule cfg).holds h hguard
  refine ⟨?_, hholds.gone⟩
  intro slot occ hget hssl
  obtain ⟨hplain, hdelivers⟩ := (hholds.live slot occ hget).2 hssl
  exact ⟨hdelivers.passage.relays,
    fun bytes hop => hdelivers.forwarding hplain (mem_opsOf.mpr hop)⟩

end Thwip.IoUring
