/-
  Thwip.Readiness.LocalAnswers — what a client gets that is answered by the worker itself.

  A page is one write buffer.  A file is a head, and then its chunks one by one: while
  the next one is not there, the client's socket is registered for reading again, and
  what the client sends goes through the request reader a second time.
-/
import Thwip.Readiness.Delivery

namespace Thwip.Readiness

open Thwip.Lib

variable {σ : Type} {cfg : Config σ} {w : ReadinessWorker σ} {limits : WorkerLimits}
  {c c' : Connection σ} {log acts : List Act} {stream rest : StaticStream}

/-! ## §1. What is asked of a trace. -/

/-- A response that a connection with this trace may give. -/
inductive IsAnswer (log : List Act) : List UInt8 → Prop
  | queued (response : List UInt8) (h : .queued response ∈ log) : IsAnswer log response
  | file (head : List UInt8) (stream : StaticStream) (h : .serving head (some stream) ∈ log) :
      IsAnswer log (head ++ stream.contents)

/-- A response is queued only for a client that has got nothing. -/
def Act.FirstAnswer (before : List Act) : Act → Prop
  | .queued _ => toClient (exchanges before) = []
  | _ => True

/-- The client got one response, as far as it got one, and no other was queued once it
had got some of it. -/
structure AnsweredOnce (log : List Act) : Prop where
  sent : toClient (exchanges log) = []
    ∨ ∃ response, IsAnswer log response ∧ toClient (exchanges log) <+: response
  first : Throughout Act.FirstAnswer log

/-- What a plaintext client sends while it is served a file fits in its read buffer, behind
the request. -/
def inputFits (limits : WorkerLimits) : HistoryItem σ → Bool
  | .turn _ .connectionReady io found =>
      found.connection.all (fun c => c.ssl.isSome || c.staticStream.isNone
        || decide (c.readBuffer.length + arriving maxReadsPerEvent io.reads
            ≤ limits.maxReadBufferSize))
  | _ => true

/-- The head of a file that is served is within the write limit. -/
def Act.headFits (limits : WorkerLimits) : Act → Bool
  | .serving head (some _) => decide (head.length ≤ limits.maxWriteBufferSize)
  | _ => true

theorem inputFits_spec {id : ConnectionId} {io : Io} {found : Seat σ}
    (h : inputFits limits (.turn id .connectionReady io found) = true)
    (hc : found.connection = some c) (hssl : c.ssl = none) (hstream : c.staticStream = some rest) :
    c.readBuffer.length + arriving maxReadsPerEvent io.reads ≤ limits.maxReadBufferSize := by
  simp only [inputFits] at h
  rw [hc, Option.all_some, hssl, hstream] at h
  exact of_decide_eq_true h

/-! ## §2. The invariant. -/

/-- A file that is served: what was sent, what is in the buffer and what is still to be
read are its head and its contents. -/
structure Serves (limits : WorkerLimits) (c : Connection σ) (log : List Act)
    (rest : StaticStream) : Prop where
  content : ∃ head stream, .serving head (some stream) ∈ log
    ∧ toClient (exchanges log) ++ (c.unsent ++ rest.contents) = head ++ stream.contents
  turns : Throughout Exchange.InTurn (exchanges log)
  /-- The request is still in the read buffer. -/
  answered : ∃ pending, Recorded limits c.readBuffer pending

theorem Serves.mute (h : Serves limits c log rest) (hacts : exchanges acts = [])
    (hunsent : c'.unsent = c.unsent) (hread : c'.readBuffer = c.readBuffer) :
    Serves limits c' (log ++ acts) rest := by
  have hsame : exchanges (log ++ acts) = exchanges log := by
    rw [exchanges_append, hacts, List.append_nil]
  obtain ⟨head, stream, hserving, hcontent⟩ := h.content
  refine ⟨⟨head, stream, List.mem_append_left _ hserving, ?_⟩, ?_, ?_⟩
  · rw [hsame, hunsent]
    exact hcontent
  · rw [hsame]
    exact h.turns
  · rw [hread]
    exact h.answered

/-- The socket accepted the next bytes of the buffer. -/
theorem Serves.wrote (h : Serves limits c log rest) (now : Instant) (room : Nat) :
    Serves limits (c.advance now (c.unsent.take room).length)
      (log ++ [.write (.wrote (c.unsent.take room))]) rest := by
  have hexchanges : exchanges (log ++ [.write (.wrote (c.unsent.take room))])
      = exchanges log ++ [.sent (c.unsent.take room)] := by
    rw [exchanges_append]
    rfl
  obtain ⟨head, stream, hserving, hcontent⟩ := h.content
  refine ⟨⟨head, stream, List.mem_append_left _ hserving, ?_⟩, ?_, h.answered⟩
  · have hrest : c.unsent.take room
        ++ (c.advance now (c.unsent.take room).length).unsent = c.unsent := by
      have htake : c.unsent.take room = c.unsent.take (c.unsent.take room).length :=
        List.prefix_iff_eq_take.mp (List.take_prefix room c.unsent)
      have hdrop : (c.advance now (c.unsent.take room).length).unsent
          = c.unsent.drop (c.unsent.take room).length := by
        unfold Connection.unsent Connection.advance
        rw [List.drop_drop]
      rw [hdrop]
      nth_rewrite 1 [htake]
      exact List.take_append_drop _ _
    rw [hexchanges, ← hcontent]
    nth_rewrite 3 [← hrest]
    simp
  · rw [hexchanges]
    exact h.turns.concat trivial

/-- The next chunk is in the buffer. -/
theorem Serves.chunk (h : Serves limits c log stream) {arrived : Bool} {bytes : List UInt8}
    (hnext : stream.tryNext arrived = (some (.data bytes), rest))
    (hoffset : c.writeOffset = c.writeBuffer.length) :
    Serves limits { c with staticStream := some rest, writeBuffer := bytes, writeOffset := 0 }
      (log ++ [.chunk bytes]) rest := by
  obtain ⟨head, stream', hserving, hcontent⟩ := h.content
  have hempty : c.unsent = [] := by
    unfold Connection.unsent
    rw [hoffset, List.drop_length]
  have hsame : exchanges (log ++ [.chunk bytes]) = exchanges log := by
    rw [exchanges_append]
    exact List.append_nil _
  refine ⟨⟨head, stream', List.mem_append_left _ hserving, ?_⟩, ?_, h.answered⟩
  · rw [hsame, ← hcontent, hempty, StaticStream.contents_of_data hnext]
    rfl
  · rw [hsame]
    exact h.turns

/-- **Bytes that fit decide nothing while a file is served.** -/
theorem Serves.waits {env : Env σ} {pass : ReadPass σ} (h : Serves env.limits c log rest)
    (hssl : c.ssl = none) (hphase : c.phase = .writingResponse)
    (hpass : pass = connectionReady env.tls.toRustls env.limits env.now c env.reads)
    (hfits : c.readBuffer.length + arriving maxReadsPerEvent env.reads
      ≤ env.limits.maxReadBufferSize) :
    (∀ verdict ∈ pass.verdicts, verdict = .keepWaiting)
      ∧ ∃ pending, Recorded env.limits pass.connection.readBuffer pending := by
  obtain ⟨pending, hrecorded⟩ := h.answered
  have hhandling : c.isHandlingRequest = false := by
    unfold Connection.isHandlingRequest
    rw [hphase]
  rw [hpass, connectionReady_eq hhandling]
  obtain ⟨hall, hlater⟩ := readLoop_answered env.tls.toRustls env.limits env.now
    maxReadsPerEvent c env.reads hssl hphase hrecorded hfits
  exact ⟨hall, pending, hlater⟩

/-- A request that is handled was proxied, and a file that is served goes on. -/
structure Answers (limits : WorkerLimits) (c : Connection σ) (log : List Act) : Prop where
  handled : c.isHandlingRequest = true → .proxied ∈ log
  serves : ∀ rest, c.staticStream = some rest → Serves limits c log rest

theorem PhaseInv.serving (h : PhaseInv limits c log) (hstream : c.staticStream = some rest) :
    c.phase = .writingResponse := by
  by_contra hphase
  rw [h.stream_none hphase] at hstream
  cases hstream

/-! ## §3. Every move. -/

/-- A request is handled only once it was proxied. -/
theorem Move.handled {env : Env σ} {event : TurnEvent} {s₀ s s' : Seat σ}
    (hmove : Move env event s₀ s s') (hc : s.connection = some c)
    (h : c.isHandlingRequest = true → .proxied ∈ s.log) (hc' : s'.connection = some c')
    (hhandling : c'.isHandlingRequest = true) : .proxied ∈ s'.log := by
  have hsame {c₁ : Connection σ} (hc₁ : s.connection = some c₁) : c = c₁ :=
    Seat.connection_unique hc hc₁
  have hbefore : c.isHandlingRequest = true → .proxied ∈ s'.log :=
    fun hnow => hmove.kept.log.subset (h hnow)
  cases hmove with
  | rescheduled | drained | scheduled | flushed | counted =>
      obtain rfl := hsame hc'
      exact hbefore hhandling
  | touched hc₁ | spoiled hc₁ | wrote hc₁ | handed hc₁ | sentTls hc₁ =>
      obtain rfl := hsame hc₁
      cases hc'
      exact hbefore hhandling
  | waited hc₁ _ _ _ hnot pass hpass =>
      obtain rfl := hsame hc₁
      cases hc'
      have hreads := connectionReady_readsOnly env.tls.toRustls env.limits env.now hnot env.reads
      rw [← hpass] at hreads
      apply hbefore
      unfold Connection.isHandlingRequest at hhandling ⊢
      rcases hreads.phase with ⟨p, p', -, hp'⟩ | hphase
      · rw [hp'] at hhandling
        cases hhandling
      · rw [← hphase]
        exact hhandling
  | replied | failed =>
      obtain ⟨-, rfl⟩ := settle_some hc'
      cases hhandling
  | resolving =>
      exact List.mem_append_right _ (List.mem_append_right _ List.mem_cons_self)
  | connecting hc₁ resolution hresolution =>
      obtain rfl := hsame hc₁
      exact hbefore (Connection.handling_of_resolution hresolution)
  | forwarded hc₁ hproxy | relayed hc₁ hproxy =>
      obtain rfl := hsame hc₁
      exact hbefore (Connection.handling_of_proxy hproxy)
  | chunk hc₁ | awaiting hc₁ | closing hc₁ | emptied hc₁ | idled hc₁ | flushing hc₁ =>
      obtain rfl := hsame hc₁
      obtain ⟨-, rfl⟩ := settle_some hc'
      exact hbefore hhandling
  | removed => cases hc'

/-- A reply that serves a file: its head is in the buffer. -/
theorem serves_replied {env : Env σ} {s : Seat σ} {pass : ReadPass σ} {verdict : ReadVerdict}
    {notes : List Act} {stream : Option StaticStream} {response : List UInt8}
    (hinv : PhaseInv env.limits c s.log) (hlisten : Listening s c)
    (hroute : Route env.limits c s.log) (houtput : Output c s.log)
    (h : ∀ rest, c.staticStream = some rest → Serves env.limits c s.log rest)
    (hssl : c.ssl = none) (hread : s.polled.readable = true)
    (hhandling : c.isHandlingRequest = false)
    (hpass : pass = connectionReady env.tls.toRustls env.limits env.now c env.reads)
    (hlast : pass.verdicts.getLast? = some verdict)
    (hreply : Reply env c.staticStream verdict notes stream response)
    (hfits : c.staticStream = some rest →
      c.readBuffer.length + arriving maxReadsPerEvent env.reads ≤ env.limits.maxReadBufferSize)
    (hheads : notes.all (Act.headFits env.limits) = true) (hrest : stream = some rest) :
    Serves env.limits ({ pass.connection with staticStream := stream }.setResponse
        (boundedResponse env.limits response))
      (s.log ++ (pass.verdicts.map Act.verdict ++ notes
        ++ [.queued (boundedResponse env.limits response)])) rest := by
  -- a decided request is the first one, so that no file is served yet
  have hfirst : ∀ request body, verdict = .dispatch request body → c.staticStream = none := by
    intro request body hverdict
    obtain ⟨p, hp⟩ := dispatched_reading hhandling hpass hinv.awaits
      (hverdict ▸ List.mem_of_getLast? hlast)
    exact hinv.stream_none (by simp [hp])
  cases hreply with
  | refused status message =>
      exfalso
      have hall := ((h rest hrest).waits hssl (hinv.serving hrest) hpass
        (hfits hrest)).1
      cases hall _ (List.mem_of_getLast? hlast)
  | answered request body =>
      rw [hfirst request body rfl] at hrest
      cases hrest
  | declined request body =>
      rw [hfirst request body rfl] at hrest
      cases hrest
  | served request body directory response hresponse =>
      have hnone := hfirst request body rfl
      have hnothing := (houtput.unheard hlisten hroute hread hhandling hnone).1
      have hbounded : boundedResponse env.limits response.head = response.head := by
        have hle : response.head.length ≤ env.limits.maxWriteBufferSize := by
          rw [hrest, List.all_cons, Bool.and_eq_true] at hheads
          exact of_decide_eq_true hheads.1
        unfold boundedResponse
        rw [if_neg (by omega)]
      have hexchanges : exchanges (s.log ++ (pass.verdicts.map Act.verdict
            ++ [.serving response.head response.stream] ++ [.queued response.head]))
          = exchanges s.log ++ [.queued response.head] := by
        simp
      obtain ⟨-, hrecorded⟩ := (readLoop_received env.tls.toRustls env.limits env.now
        maxReadsPerEvent c env.reads hinv.awaits).2 request body (by
          rw [← connectionReady_eq hhandling, ← hpass]
          exact List.mem_of_getLast? hlast)
      rw [← connectionReady_eq hhandling, ← hpass] at hrecorded
      rw [hbounded]
      refine ⟨⟨response.head, rest, ?_, ?_⟩, ?_, hrecorded⟩
      · rw [hrest]
        simp
      · rw [hexchanges, toClient_append, hnothing]
        rfl
      · rw [hexchanges]
        exact (houtput.turns_of_none hnone).concat
          ⟨hnothing, hroute.relayed_unhandled hhandling⟩

/-- **Every move on a file that is served.** -/
theorem Move.serves {env : Env σ} {event : TurnEvent} {id : ConnectionId} {s₀ s s' : Seat σ}
    (hmove : Move env event s₀ s s') (hguard : inputFits env.limits (.turn id event env.toIo s₀) = true)
    (hssl : c.ssl = none) (hc : s.connection = some c) (hinv : PhaseInv env.limits c s.log)
    (hlisten : Listening s c) (hroute : Route env.limits c s.log) (houtput : Output c s.log)
    (h : ∀ rest, c.staticStream = some rest → Serves env.limits c s.log rest)
    (hheads : s'.log.all (Act.headFits env.limits) = true) (hc' : s'.connection = some c')
    (hrest : c'.staticStream = some rest) : Serves env.limits c' s'.log rest := by
  have hsame {c₁ : Connection σ} (hc₁ : s.connection = some c₁) : c = c₁ :=
    Seat.connection_unique hc hc₁
  have hmute : ∀ {c₁ : Connection σ} {act : Act}, act.exchange = none →
      c₁.staticStream = c.staticStream → c₁.unsent = c.unsent → c₁.readBuffer = c.readBuffer →
      c₁.staticStream = some rest → Serves env.limits c₁ (s.log ++ [act]) rest := by
    intro c₁ act hact hstream hunsent hread hsome
    refine (h rest (hstream ▸ hsome)).mute ?_ hunsent hread
    rw [exchanges_cons, hact]
    rfl
  -- as long as a request is handled there is no file
  have hnone : c.isHandlingRequest = true → c'.staticStream = c.staticStream → False := by
    intro hhandling hstream
    rw [hstream, hinv.stream_none (handling_phase hhandling)] at hrest
    cases hrest
  cases hmove with
  | rescheduled | drained | scheduled =>
      obtain rfl := hsame hc'
      exact h rest hrest
  | flushed | counted =>
      obtain rfl := hsame hc'
      exact hmute rfl rfl rfl rfl hrest
  | touched hc₁ =>
      obtain rfl := hsame hc₁
      cases hc'
      have hserves := h rest hrest
      exact ⟨hserves.content, hserves.turns, hserves.answered⟩
  | spoiled hc₁ hsome => exact (Seat.not_tls hc hssl hc₁ hsome).elim
  | waited hc₁ hevent hfirst _ hhandling pass hpass =>
      obtain rfl := hsame hc₁
      cases hc'
      have hreads := connectionReady_readsOnly env.tls.toRustls env.limits env.now hhandling
        env.reads
      rw [← hpass] at hreads
      have hstream : c.staticStream = some rest := hreads.staticStream ▸ hrest
      have hserves := h rest hstream
      subst hevent
      obtain ⟨-, hanswered⟩ := hserves.waits hssl (hinv.serving hstream) hpass
        (inputFits_spec hguard (hfirst ▸ hc) hssl hstream)
      obtain ⟨head, stream, hserving, hcontent⟩ := hserves.content
      have hexchanges : exchanges (s.log ++ pass.verdicts.map Act.verdict) = exchanges s.log := by
        simp
      refine ⟨⟨head, stream, List.mem_append_left _ hserving, ?_⟩, ?_, hanswered⟩
      · show toClient (exchanges (s.log ++ _)) ++ _ = _
        rw [hexchanges, Connection.unsent, hreads.writeBuffer, hreads.writeOffset]
        exact hcontent
      · show Throughout _ (exchanges (s.log ++ _))
        rw [hexchanges]
        exact hserves.turns
  | @replied _ hc₁ hevent hfirst hread hhandling pass hpass _ hlast notes _ _ hreply ok =>
      obtain rfl := hsame hc₁
      obtain ⟨rfl, rfl⟩ := settle_some hc'
      subst hevent
      have hnotes : notes.all (Act.headFits env.limits) = true := by
        unfold Seat.settle at hheads
        simp only [if_true, List.all_append, Bool.and_eq_true] at hheads
        exact hheads.1.2.1.2
      have hserves := serves_replied hinv hlisten hroute houtput h hssl hread hhandling hpass
        hlast hreply (inputFits_spec hguard (hfirst ▸ hc) hssl) hnotes hrest
      exact hserves.mute rfl rfl rfl
  | resolving hc₁ _ _ _ hhandling pass hpass hlast =>
      obtain rfl := hsame hc₁
      cases hc'
      have hreads := connectionReady_readsOnly env.tls.toRustls env.limits env.now hhandling
        env.reads
      rw [← hpass] at hreads
      obtain ⟨p, hp⟩ := dispatched_reading hhandling hpass hinv.awaits (List.mem_of_getLast? hlast)
      have hstream : pass.connection.staticStream = some rest := hrest
      rw [hreads.staticStream, hinv.stream_none (by simp [hp])] at hstream
      cases hstream
  | connecting hc₁ resolution hresolution =>
      obtain rfl := hsame hc₁
      cases hc'
      exact (hnone (Connection.handling_of_resolution hresolution) rfl).elim
  | forwarded hc₁ hproxy =>
      obtain rfl := hsame hc₁
      cases hc'
      exact (hnone (Connection.handling_of_proxy hproxy) rfl).elim
  | failed hc₁ hmay =>
      obtain rfl := hsame hc₁
      obtain ⟨-, rfl⟩ := settle_some hc'
      exact (hnone hmay.handling rfl).elim
  | relayed hc₁ hproxy | emptied hc₁ hproxy =>
      obtain rfl := hsame hc₁
      obtain ⟨-, rfl⟩ := settle_some hc'
      exact (hnone (Connection.handling_of_proxy hproxy) rfl).elim
  | wrote hc₁ _ _ _ room =>
      obtain rfl := hsame hc₁
      cases hc'
      exact (h rest hrest).wrote env.now room
  | handed hc₁ hsome => exact (Seat.not_tls hc hssl hc₁ hsome).elim
  | sentTls hc₁ hsome => exact (Seat.not_tls hc hssl hc₁ hsome).elim
  | chunk hc₁ hstream hnext hoffset =>
      obtain rfl := hsame hc₁
      obtain ⟨-, rfl⟩ := settle_some hc'
      injection hrest with hrest
      subst hrest
      exact ((h _ hstream).chunk hnext hoffset).mute rfl rfl rfl
  | awaiting hc₁ =>
      obtain rfl := hsame hc₁
      obtain ⟨-, rfl⟩ := settle_some hc'
      have hserves : Serves env.limits _ (s.log ++ []) rest := (h rest hrest).mute rfl rfl rfl
      exact hserves.mute rfl rfl rfl
  | idled hc₁ =>
      obtain rfl := hsame hc₁
      obtain ⟨rfl, rfl⟩ := settle_some hc'
      have hserves : Serves env.limits _ (s.log ++ []) rest := (h rest hrest).mute rfl rfl rfl
      exact hserves.mute rfl rfl rfl
  | closing hc₁ hsome => exact (Seat.not_tls hc hssl hc₁ hsome).elim
  | flushing hc₁ hsome =>
      obtain rfl := hsame hc₁
      rw [hssl] at hsome
      cases hsome
  | removed => cases hc'

/-! ## §4. The trace. -/

theorem first_of_turns (h : Throughout Exchange.InTurn (exchanges log)) :
    Throughout Act.FirstAnswer log := by
  intro before act after heq
  cases act with
  | queued response =>
      have hturn : Exchange.InTurn (exchanges before) (.queued response) := by
        apply h (exchanges before) _ (exchanges after)
        rw [heq, exchanges_append, exchanges_cons]
        rfl
      exact hturn.1
  | _ => trivial

/-- What a connection that was answered here says of its trace. -/
theorem Answers.once (h : Answers limits c log) (hroute : Route limits c log)
    (houtput : Output c log) (hlocal : .proxied ∉ log) : AnsweredOnce log := by
  have hnot : c.isHandlingRequest = false := by
    rw [Bool.eq_false_iff]
    exact fun hhandling => hlocal (h.handled hhandling)
  cases houtput with
  | relaying hphase hsent _ hturns =>
      refine ⟨.inl ?_, first_of_turns hturns⟩
      rw [hroute.relayed_unhandled hnot] at hsent
      exact (List.append_eq_nil_iff.mp hsent).1
  | responding _ _ hqueued hsent _ hturns =>
      refine ⟨.inr ⟨_, .queued _ hqueued, ?_⟩, first_of_turns hturns⟩
      rw [hsent]
      exact List.take_prefix _ _
  | serving _ hstream =>
      obtain ⟨rest, hrest⟩ := Option.ne_none_iff_exists'.mp hstream
      have hserves := h.serves rest hrest
      obtain ⟨head, stream, hserving, hcontent⟩ := hserves.content
      exact ⟨.inr ⟨_, .file head stream hserving, ⟨_, hcontent⟩⟩, first_of_turns hserves.turns⟩

theorem IsAnswer.append {response : List UInt8} (h : IsAnswer log response) (acts : List Act) :
    IsAnswer (log ++ acts) response := by
  cases h with
  | queued _ h => exact .queued _ (List.mem_append_left _ h)
  | file head stream h => exact .file head stream (List.mem_append_left _ h)

/-- Acts that send nothing, and queue a response only for a client that has got
nothing. -/
theorem AnsweredOnce.append (h : AnsweredOnce log) (hsent : toClient (exchanges acts) = [])
    (hqueued : ∀ response, .queued response ∈ acts → toClient (exchanges log) = []) :
    AnsweredOnce (log ++ acts) := by
  have hsame : toClient (exchanges (log ++ acts)) = toClient (exchanges log) := by
    rw [exchanges_append, toClient_append, hsent, List.append_nil]
  refine ⟨?_, h.first.append ?_⟩
  · rw [hsame]
    exact h.sent.imp_right (fun ⟨response, hanswer, hprefix⟩ =>
      ⟨response, hanswer.append acts, hprefix⟩)
  · intro before act after heq
    cases act with
    | queued response =>
        have hmem : Act.queued response ∈ acts := by
          rw [heq]
          simp
        rw [heq, exchanges_append, toClient_append] at hsent
        show toClient (exchanges (log ++ before)) = []
        rw [exchanges_append, toClient_append, hqueued response hmem,
          (List.append_eq_nil_iff.mp hsent).1]
        rfl
    | _ => trivial

/-- What a removal adds to the trace of a plaintext connection. -/
theorem Move.ends {env : Env σ} {event : TurnEvent} {id : ConnectionId} {s₀ s s' : Seat σ}
    (hmove : Move env event s₀ s s') (hguard : inputFits env.limits (.turn id event env.toIo s₀) = true)
    (hssl : c.ssl = none) (hc : s.connection = some c) (hinv : PhaseInv env.limits c s.log)
    (hlisten : Listening s c) (hroute : Route env.limits c s.log) (houtput : Output c s.log)
    (h : Answers env.limits c s.log) (hnone : s'.connection = none) :
    ∃ acts, s'.log = s.log ++ acts ∧ toClient (exchanges acts) = []
      ∧ ∀ response, .queued response ∈ acts → toClient (exchanges s.log) = [] := by
  have hsame {c₁ : Connection σ} (hc₁ : s.connection = some c₁) : c = c₁ :=
    Seat.connection_unique hc hc₁
  have hkept : s.connection ≠ none := by
    rw [hc]
    simp
  -- a registration that failed
  have hsettle : ∀ {c₁ : Connection σ} {interest : Interest} {acts : List Act} {ok : Bool},
      (s.settle env.tls.toRustls c₁ interest acts ok).connection = none →
      toClient (exchanges acts) = [] →
      (∀ response, .queued response ∈ acts → toClient (exchanges s.log) = []) →
      ∃ acts₁, (s.settle env.tls.toRustls c₁ interest acts ok).log = s.log ++ acts₁
        ∧ toClient (exchanges acts₁) = []
        ∧ ∀ response, .queued response ∈ acts₁ → toClient (exchanges s.log) = [] := by
    intro c₁ interest acts ok hgone hsent hqueued
    cases ok with
    | true => cases hgone
    | false =>
        refine ⟨acts ++ [.removed .reregisterFailed c₁.unsent (c₁.sslWantsWrite env.tls.toRustls)],
          ?_, ?_, ?_⟩
        · show (s.log ++ acts) ++ [_] = _
          rw [List.append_assoc]
        · rw [exchanges_append, toClient_append, hsent]
          rfl
        · intro response hmem
          rcases List.mem_append.mp hmem with hmem | hmem
          · exact hqueued response hmem
          · cases List.mem_singleton.mp hmem
  have hnil : ∀ response, Act.queued response ∈ ([] : List Act) →
      toClient (exchanges s.log) = [] := fun _ hmem => (by cases hmem)
  cases hmove with
  | rescheduled | drained | scheduled | flushed | counted => exact absurd hnone hkept
  | touched | spoiled | waited | resolving | connecting | forwarded | wrote | handed | sentTls =>
      cases hnone
  | replied hc₁ hevent hfirst hread hhandling pass hpass hlast hreply ok =>
      obtain rfl := hsame hc₁
      refine hsettle hnone ?_ ?_
      · rcases hreply.exchanges_notes with hnotes | ⟨bytes, hnotes⟩ <;> simp [hnotes]
      · intro _ _
        by_cases hstream : c.staticStream = none
        · exact (houtput.unheard hlisten hroute hread hhandling hstream).1
        · -- a file is served, and what was read decided something
          exfalso
          obtain ⟨rest, hrest⟩ := Option.ne_none_iff_exists'.mp hstream
          subst hevent
          have hall := ((h.serves rest hrest).waits hssl (hinv.serving hrest) hpass
            (inputFits_spec hguard (hfirst ▸ hc) hssl hrest)).1
          have hkeep := hall _ (List.mem_of_getLast? hlast)
          cases hreply <;> cases hkeep
  | failed hc₁ hmay =>
      obtain rfl := hsame hc₁
      refine hsettle hnone rfl (fun _ _ => ?_)
      obtain ⟨hsent, -⟩ := houtput.handling hinv hmay.handling
      rw [hroute.relayed_nil hmay] at hsent
      exact (List.append_eq_nil_iff.mp hsent).1
  | relayed =>
      refine hsettle hnone rfl ?_
      intro response hmem
      cases List.mem_singleton.mp hmem
  | chunk | awaiting => cases hnone
  | closing =>
      refine hsettle hnone rfl ?_
      intro response hmem
      cases List.mem_singleton.mp hmem
  | emptied | idled | flushing => exact hsettle hnone rfl hnil
  | removed hc₁ =>
      refine ⟨_, rfl, rfl, ?_⟩
      intro response hmem
      cases List.mem_singleton.mp hmem

/-! ## §5. Every run. -/

/-- The answers, as an invariant of seats. -/
def answersRule (cfg : Config σ) : (plainRule cfg).rule.Over where
  Inv s c := c.ssl = none → s.log.all (Act.headFits cfg.limits) = true →
    Answers cfg.limits c s.log
  Gone trace := trace.head? = some (.accepted false) →
    trace.all (Act.headFits cfg.limits) = true → .proxied ∉ trace → AnsweredOnce trace
  Guard item := inputFits cfg.limits item = true
  fresh := by
    intro s c hfresh hc _ _
    cases hfresh
    cases hc
    exact ⟨fun hhandling => (by cases hhandling), fun _ hstream => (by cases hstream)⟩
  poll _ _ h := h
  move := by
    intro env id io event s₀ s s' c₀ c henv hio hguard _ _ _ _ hc _ hplain hinv hmove
    subst henv hio
    obtain ⟨⟨⟨hphase, -⟩, hopens, hroute⟩, houtput⟩ := hplain
    obtain ⟨later, hlater⟩ := hmove.kept.log
    have hearlier : s'.log.all (Act.headFits env.limits) = true →
        s.log.all (Act.headFits env.limits) = true := by
      intro hheads
      rw [← hlater, List.all_append, Bool.and_eq_true] at hheads
      exact hheads.1
    refine ⟨?_, ?_⟩
    · intro c' hc' hssl' hheads
      obtain ⟨c₁, hc₁, hsame⟩ := hmove.kept.client c' hc'
      obtain rfl := Seat.connection_unique hc hc₁
      have hssl : c.ssl = none := by
        have hsome := hsame.ssl
        rw [hssl'] at hsome
        simpa using hsome.symm
      obtain ⟨hlisten, hout⟩ := houtput hssl
      have hanswers := hinv hssl (hearlier hheads)
      exact ⟨hmove.handled hc hanswers.handled hc', fun rest hrest =>
        hmove.serves hguard hssl hc hphase hlisten hroute hout hanswers.serves hheads hc' hrest⟩
    · intro hnone hhead hheads hlocal
      have hssl : c.ssl = none := by
        unfold Connection.OpensWith at hopens
        rw [← hlater, List.head?_append, hopens] at hhead
        simpa using hhead
      obtain ⟨hlisten, hout⟩ := houtput hssl
      have hanswers := hinv hssl (hearlier hheads)
      obtain ⟨acts, hlog, hsent, hqueued⟩ :=
        hmove.ends hguard hssl hc hphase hlisten hroute hout hanswers hnone
      have hbefore : .proxied ∉ s.log := by
        intro hmem
        apply hlocal
        rw [hlog]
        exact List.mem_append_left _ hmem
      rw [hlog]
      exact (hanswers.once hroute hout hbefore).append hsent hqueued

end Thwip.Readiness
