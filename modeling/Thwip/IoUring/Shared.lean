/-
  Thwip.IoUring.Shared — what a handler does to the state all connections share.

  A turn belongs to one connection, but the buffer ring and the metrics belong to
  all.  A handler gives back the buffer its completion carries, and no other, and
  it counts a response only as it removes its connection.
-/
import Thwip.IoUring.Worker

namespace Thwip.IoUring

open Thwip.Lib

variable {σ : Type} {env : Env σ} {t t' : Turn σ} {c c' : UringConnection σ}

/-! ## §1. The shared state. -/

/-- The acts by which `metrics.response()` is recorded. -/
def Act.isResponse : Act → Bool
  | .response _ => true
  | _ => false

/-- How often `metrics.response()` was called for the connection of this trace. -/
def responseCount (log : List Act) : Nat := log.countP Act.isResponse

/-- What a turn has in common with all others; `counted` is the part of
`responseCount` that its own connection has to account for. -/
structure Shared where
  bufferRing : ProvidedBufferRing
  responses : Nat
  accepted : Nat
  counted : Nat

/-- The part of a turn that outlasts its connection. -/
def Turn.shared (t : Turn σ) : Shared :=
  { bufferRing := t.bufferRing, responses := t.metrics.responses
    accepted := t.metrics.accepted, counted := responseCount t.log }

/-- `release` of the buffer a completion carries. -/
def ProvidedBufferRing.release (self : ProvidedBufferRing) : Option Nat → ProvidedBufferRing
  | none => self
  | some id => self.publish id

/-- This many responses are counted, and the buffer is given back. -/
def Shared.after (self : Shared) (bufferId : Option Nat) (n : Nat) : Shared :=
  { self with
    bufferRing := self.bufferRing.release bufferId
    responses := self.responses + n, counted := self.counted + n }

@[simp] theorem shared_put (t : Turn σ) (c : UringConnection σ) : (t.put c).shared = t.shared := rfl

/-- Acts that record no response leave the count alone. -/
theorem shared_note (t : Turn σ) {acts : List Act} (h : responseCount acts = 0) :
    (t.note acts).shared = t.shared := by
  unfold Turn.shared Turn.note
  have hlog : responseCount (t.log ++ acts) = responseCount t.log := by
    unfold responseCount at h ⊢
    rw [List.countP_append, h, Nat.add_zero]
  rw [hlog]

/-- `queue_response` writes into its own connection. -/
theorem shared_queue (t : Turn σ) (c : UringConnection σ) (response : List UInt8) :
    (t.queue c response).shared = t.shared :=
  shared_note (t.put _) rfl

@[simp] theorem shared_wroteBytes (t : Turn σ) (n : Nat) : (t.wroteBytes n).shared = t.shared := rfl

@[simp] theorem shared_readBytes (t : Turn σ) (n : Nat) : (t.readBytes n).shared = t.shared := rfl

/-- `remove_connection` gives back no buffer and counts no response. -/
theorem shared_remove (t : Turn σ) (site : RemovalSite) : (t.remove site).shared = t.shared := by
  have hnoted : (t.note [.removed site]).shared = t.shared := shared_note t rfl
  exact hnoted

/-- `metrics.response()` adds one, on the metrics and in the trace. -/
theorem shared_countResponse (t : Turn σ) (site : RemovalSite) :
    ((t.countResponse site).remove site).shared = t.shared.after none 1 := by
  rw [shared_remove]
  unfold Turn.shared Turn.countResponse Shared.after
  have hlog : responseCount (t.log ++ [.response site]) = responseCount t.log + 1 := by
    unfold responseCount
    rw [List.countP_append]
    rfl
  rw [hlog]
  rfl

/-! ## §2. Submissions. -/

/-- Encrypting what waits records no response. -/
theorem fillOutput_responseCount {tls : Rustls σ} {acts : List Act}
    (h : c.fillOutput tls = some (c', acts)) : responseCount acts = 0 := by
  unfold UringConnection.fillOutput at h
  split at h
  · cases h
    rfl
  · split_ifs at h
    · unfold UringConnection.refill at h
      dsimp only at h
      split at h
      · cases h
      · split at h
        · cases h
        · cases h
          rfl
    · cases h
      rfl

/-- A pushed entry belongs to its connection. -/
theorem pushEntry_shared {op : ConnectionOp} (hrun : t.pushEntry env op = .ok t') :
    t'.shared = t.shared := by
  unfold Turn.pushEntry at hrun
  split_ifs at hrun
  cases hrun
  rfl

/-- `submit_send` fills the output of its connection and pushes one entry at most. -/
theorem submitSend_shared (hrun : submitSend env t = .ok t') : t'.shared = t.shared := by
  unfold submitSend at hrun
  split at hrun
  · cases hrun
  · split_ifs at hrun
    · cases hrun
      rfl
    · split at hrun
      · cases hrun
      next c₁ acts hfill =>
        -- whatever `fill_output` did, the send is all that follows
        have hnoted : ((t.put c₁).note acts).shared = t.shared :=
          shared_note (t.put c₁) (fillOutput_responseCount hfill)
        split_ifs at hrun
        · cases hrun
          exact hnoted
        · cases hpush : ((t.put c₁).note acts).pushEntry env
              (.send c₁.sendBuffer.1 c₁.sendBuffer.2 (clearsIn ((t.put c₁).note acts).log)) with
          | error exit => simp [bind, Except.bind, hpush] at hrun
          | ok t₁ =>
              simp only [bind, Except.bind, hpush, pure, Except.pure] at hrun
              cases hrun
              exact (pushEntry_shared hpush).trans hnoted

/-- `submit_recv` takes no buffer; the kernel picks one as the receive completes. -/
theorem submitRecv_shared (hrun : submitRecv env t = .ok t') : t'.shared = t.shared := by
  unfold submitRecv at hrun
  split at hrun
  · cases hrun
  next c _ =>
    split_ifs at hrun
    · cases hrun
      rfl
    · cases hpush : t.pushEntry env (.recv env.bufferSize) with
      | error exit => simp [bind, Except.bind, hpush] at hrun
      | ok t₁ =>
          simp only [bind, Except.bind, hpush, pure, Except.pure] at hrun
          cases hrun
          exact ((shared_note (t₁.put c.markReadSubmitted) rfl).trans (shared_put t₁ _)).trans
            (pushEntry_shared hpush)

/-- What the three upstream submissions do once they have their socket. -/
theorem submitProxy_shared {proxy : UringProxy} {op : ConnectionOp}
    (hrun : submitProxy env t c proxy op = .ok t') : t'.shared = t.shared := by
  unfold submitProxy at hrun
  cases hpush : t.pushEntry env op with
  | error exit => simp [bind, Except.bind, hpush] at hrun
  | ok t₁ =>
      simp only [bind, Except.bind, hpush, pure, Except.pure] at hrun
      cases hrun
      exact (shared_put t₁ _).trans (pushEntry_shared hpush)

/-- The upstream submissions note the proxy they are made for. -/
theorem submitProxy_noted {kind : OperationKind} {proxy : UringProxy} {op : ConnectionOp}
    (hrun : submitProxy env (t.note [.submitProxy kind proxy]) c proxy op = .ok t') :
    t'.shared = t.shared :=
  (submitProxy_shared hrun).trans (shared_note t rfl)

/-- `submit_proxy_connect`. -/
theorem submitProxyConnect_shared (hrun : submitProxyConnect env t = .ok t') :
    t'.shared = t.shared := by
  unfold submitProxyConnect at hrun
  split at hrun
  · cases hrun
  · split at hrun
    · cases hrun
    · dsimp only at hrun
      split at hrun
      · cases hrun
      · split at hrun
        · cases hrun
        · exact submitProxy_noted hrun

/-- `submit_proxy_write`. -/
theorem submitProxyWrite_shared (hrun : submitProxyWrite env t = .ok t') :
    t'.shared = t.shared := by
  unfold submitProxyWrite at hrun
  split at hrun
  · cases hrun
  · split at hrun
    · cases hrun
    · dsimp only at hrun
      split_ifs at hrun
      split at hrun
      · cases hrun
      · exact submitProxy_noted hrun

/-- `submit_proxy_read`. -/
theorem submitProxyRead_shared (hrun : submitProxyRead env t = .ok t') : t'.shared = t.shared := by
  unfold submitProxyRead at hrun
  split at hrun
  · cases hrun
  · split at hrun
    · cases hrun
    · dsimp only at hrun
      split_ifs at hrun
      split at hrun
      · cases hrun
      · exact submitProxy_noted hrun

/-! ## §3. Error responses and the upstream exchange. -/

/-- An error page is counted as an error, never as a response. -/
theorem queueHttpError_shared {status : Nat} {message : Str}
    (hrun : queueHttpError env status message t = .ok t') : t'.shared = t.shared := by
  unfold queueHttpError at hrun
  dsimp only at hrun
  split at hrun
  · cases hrun
    rfl
  · split_ifs at hrun
    · cases hrun
      rfl
    · exact (submitSend_shared hrun).trans (shared_queue t.countError _ _)

/-- So is the page of a failed upstream. -/
theorem queueProxyError_shared {status : Nat} {message : Str}
    (hrun : queueProxyError env status message t = .ok t') : t'.shared = t.shared := by
  unfold queueProxyError at hrun
  dsimp only at hrun
  split at hrun
  · cases hrun
    rfl
  · split_ifs at hrun
    · cases hrun
      rfl
    · exact (submitSend_shared hrun).trans (shared_queue t.countError _ _)

/-- A failed upstream is answered, or the connection is removed without a response. -/
theorem failProxy_shared {status : Nat} {message : Str}
    (hrun : failProxy env status message t = .ok t') : t'.shared = t.shared := by
  unfold failProxy at hrun
  dsimp only at hrun
  split_ifs at hrun
  · cases hrun
    exact shared_remove t _
  · exact queueProxyError_shared hrun

/-- An address is tried, or the connection is answered with an error. -/
theorem tryNextProxyAddress_shared (hrun : tryNextProxyAddress env t = .ok t') :
    t'.shared = t.shared := by
  unfold tryNextProxyAddress at hrun
  split at hrun
  · cases hrun
  · split at hrun
    · exact queueProxyError_shared hrun
    · split at hrun
      · exact (queueProxyError_shared hrun).trans (shared_put t _)
      · exact (submitProxyConnect_shared hrun).trans (shared_put t _)

/-- Starting an exchange looks a name up, or queues an error. -/
theorem startProxy_shared {url : Str} {request : RequestHead} {body : List UInt8}
    (hrun : startProxy env url request body t = .ok t') : t'.shared = t.shared := by
  have hnoted : ∀ (c : UringConnection σ) bytes,
      ((t.put c).note [.forwarding bytes]).shared = t.shared :=
    fun c bytes => shared_note (t.put c) rfl
  unfold startProxy at hrun
  split at hrun
  · exact queueProxyError_shared hrun
  · dsimp only at hrun
    split_ifs at hrun
    · exact queueProxyError_shared hrun
    · split at hrun
      · cases hrun
        rfl
      · exact (queueProxyError_shared hrun).trans (hnoted _ _)
    · split at hrun
      · cases hrun
        rfl
      · cases hrun
        exact hnoted _ _

/-- The answer of the resolver starts the addresses, or queues an error. -/
theorem finishResolution_shared {addresses : Option (List SocketAddr)}
    (hrun : finishResolution env addresses t = .ok t') : t'.shared = t.shared := by
  unfold finishResolution at hrun
  split at hrun
  · cases hrun
    rfl
  · split at hrun
    · cases hrun
      rfl
    · split_ifs at hrun
      · cases hrun
        rfl
      · split at hrun
        · exact queueProxyError_shared hrun
        · exact queueProxyError_shared hrun
        · exact (tryNextProxyAddress_shared hrun).trans (shared_put t _)

/-- A completed connect leads to the next address, a write or an error. -/
theorem handleProxyConnect_shared {result : Int}
    (hrun : handleProxyConnect env result t = .ok t') : t'.shared = t.shared := by
  unfold handleProxyConnect at hrun
  split at hrun
  · cases hrun
    rfl
  · dsimp only at hrun
    split_ifs at hrun
    · exact (failProxy_shared hrun).trans (shared_put t _)
    · exact (tryNextProxyAddress_shared hrun).trans (shared_put t _)
    · exact (submitProxyWrite_shared hrun).trans (shared_put t _)

/-- A completed upstream write counts its bytes only. -/
theorem handleProxyWrite_shared {submitted : List UInt8} {result : Int}
    (hrun : handleProxyWrite env submitted result t = .ok t') : t'.shared = t.shared := by
  unfold handleProxyWrite at hrun
  split at hrun
  · cases hrun
    rfl
  next c proxy _ =>
    -- the bytes that went out are counted and noted, then the phase is decided
    have hnoted : ∀ proxy₁ proxy₂ n bytes,
        (((((t.put (c.setProxy proxy₁)).wroteBytes n).note [.forwarded bytes])).put
          (c.setProxy proxy₂)).shared = t.shared :=
      fun proxy₁ _ n _ => shared_note ((t.put (c.setProxy proxy₁)).wroteBytes n) rfl
    dsimp only at hrun
    split_ifs at hrun
    · exact (failProxy_shared hrun).trans (shared_put t _)
    · exact (submitProxyWrite_shared hrun).trans (shared_put t _)
    · exact (failProxy_shared hrun).trans (shared_put t _)
    · exact (failProxy_shared hrun).trans (shared_put t _)
    · exact (failProxy_shared hrun).trans (shared_wroteBytes _ _)
    · exact (submitProxyRead_shared hrun).trans (hnoted _ _ _ _)
    · exact (submitProxyWrite_shared hrun).trans (hnoted _ _ _ _)

/-! ## §4. Requests. -/

/-- The head of a file is queued as any response. -/
theorem queueStaticResponse_shared {response : StaticStreamResponse}
    (hrun : queueStaticResponse env response t = .ok t') : t'.shared = t.shared := by
  unfold queueStaticResponse at hrun
  split at hrun
  · cases hrun
  · exact (submitSend_shared hrun).trans (shared_queue t _ _)

/-- Whatever a request is answered with, it is counted once it has been sent. -/
theorem prepareResponse_shared (hrun : prepareResponse env t = .ok t') :
    t'.shared = t.shared := by
  unfold prepareResponse at hrun
  split at hrun
  · cases hrun
    rfl
  next c _ =>
    -- every page is queued and sent the same way
    have hqueued : ∀ response, submitSend env (t.queue c response) = .ok t' →
        t'.shared = t.shared :=
      fun response hrun => (submitSend_shared hrun).trans (shared_queue t c response)
    have hproxied : (t.note [.proxied]).shared = t.shared := shared_note t rfl
    split_ifs at hrun
    · cases hrun
      rfl
    · split at hrun
      · cases hrun
        rfl
      · split at hrun
        · cases hrun
          exact shared_remove t _
        · dsimp only at hrun
          split at hrun
          · exact hqueued _ hrun
          · split at hrun
            · exact hqueued _ hrun
            · exact hqueued _ hrun
            · split at hrun
              · exact queueStaticResponse_shared hrun
              · exact hqueued _ hrun
            · split at hrun
              · cases hrun
              · exact (queueProxyError_shared hrun).trans hproxied
              · exact (startProxy_shared hrun).trans hproxied

/-- Plaintext is recorded, refused or dispatched, and nothing of it is shared. -/
theorem receivePlaintext_shared {received : List UInt8}
    (hrun : receivePlaintext env received t = .ok t') : t'.shared = t.shared := by
  unfold receivePlaintext at hrun
  split_ifs at hrun
  · exact submitRecv_shared hrun
  · split at hrun
    · cases hrun
      rfl
    · split_ifs at hrun
      · cases hrun
        rfl
      · dsimp only at hrun
        -- the verdict on the bytes is noted before it is acted on
        have hnoted : ∀ n c verdict,
            (((t.readBytes n).put c).note [.verdict verdict]).shared = t.shared :=
          fun n c verdict => shared_note ((t.readBytes n).put c) rfl
        split at hrun
        · exact (submitRecv_shared hrun).trans (hnoted _ _ _)
        · exact (queueHttpError_shared hrun).trans (hnoted _ _ _)
        · exact (prepareResponse_shared hrun).trans (hnoted _ _ _)

/-! ## §5. Handlers that count, and handlers that receive. -/

/-- A handler that gives back this buffer, and counts a response at most as it
removes its connection. -/
def Releases (t t' : Turn σ) (bufferId : Option Nat) : Prop :=
  t'.shared = t.shared.after bufferId 0
    ∨ t'.shared = t.shared.after bufferId 1 ∧ t'.connection = none

/-- A handler that carries no buffer and counts nothing. -/
theorem Releases.of_shared (h : t'.shared = t.shared) : Releases t t' none := .inl h

/-- What comes before it leaves the shared state alone. -/
theorem Releases.trans {t₁ : Turn σ} (h : t₁.shared = t.shared) (h' : Releases t₁ t' none) :
    Releases t t' none := by
  unfold Releases at h' ⊢
  rwa [h] at h'

/-- A counted response ends its connection. -/
theorem releases_countResponse (t : Turn σ) (site : RemovalSite) :
    Releases t ((t.countResponse site).remove site) none :=
  .inr ⟨shared_countResponse t site, rfl⟩

/-- A file that has ended counts; one that fails, or has a chunk, does not. -/
theorem advanceStaticStream_releases (hrun : advanceStaticStream env t = .ok t') :
    Releases t t' none := by
  unfold advanceStaticStream at hrun
  split at hrun
  · cases hrun
  · split at hrun
    · cases hrun
    · split at hrun
      · exact .of_shared ((submitSend_shared hrun).trans (shared_queue t _ _))
      · cases hrun
        exact .of_shared rfl
      · cases hrun
        exact releases_countResponse t _
      · cases hrun
        exact .of_shared (shared_remove t.countError _)

/-- A response that was sent whole counts, as its connection goes. -/
theorem handleWriteCompletion_releases {submitted : List UInt8} {result : Int}
    (hrun : handleWriteCompletion env submitted result t = .ok t') : Releases t t' none := by
  unfold handleWriteCompletion at hrun
  split at hrun
  · cases hrun
    exact .of_shared rfl
  next c _ =>
    -- up to the branch at its end the handler only moves the write offset
    have hsent : ∀ (c₁ c₂ : UringConnection σ) n bytes more,
        ((((t.put c₁).wroteBytes n).put c₂).note [.sent bytes more]).shared = t.shared :=
      fun c₁ c₂ n _ _ => shared_note (((t.put c₁).wroteBytes n).put c₂) rfl
    split_ifs at hrun
    · cases hrun
      exact .of_shared rfl
    · exact .of_shared ((submitSend_shared hrun).trans (shared_put t _))
    · cases hrun
      exact .of_shared (shared_remove _ _)
    · cases hrun
      exact .of_shared (shared_remove _ _)
    · dsimp only at hrun
      split_ifs at hrun
      · cases hrun
        exact .of_shared (shared_remove _ _)
      · exact (advanceStaticStream_releases hrun).trans ((shared_put _ _).trans (hsent _ _ _ _ _))
      · split at hrun
        · exact .of_shared ((submitProxyRead_shared hrun).trans
            ((shared_put _ _).trans (hsent _ _ _ _ _)))
        · split at hrun
          · cases hrun
            exact (releases_countResponse _ _).trans (hsent _ _ _ _ _)
          · split_ifs at hrun
            · cases hrun
              exact (releases_countResponse _ _).trans (hsent _ _ _ _ _)
            · exact .of_shared ((submitSend_shared hrun).trans
                ((shared_note _ rfl).trans ((shared_put _ _).trans (hsent _ _ _ _ _))))
      · exact .of_shared ((submitSend_shared hrun).trans (hsent _ _ _ _ _))

/-- The buffer of a receive is copied and given back before anything else. -/
theorem takeReceived_shared {missing : Str} {result : Int} {bufferId : Option Nat}
    {contents : Nat → UInt8} {bytes : List UInt8}
    (hrun : t.takeReceived missing result bufferId contents = .ok (bytes, t')) :
    t' = { t with bufferRing := t.bufferRing.release bufferId }
      ∧ ∀ id, bufferId = some id → id < t.bufferRing.count := by
  -- a buffer is released only if it is one of the ring
  have hcopy : ∀ {id length : Nat} {bytes : List UInt8} {ring : ProvidedBufferRing},
      t.bufferRing.copyAndRelease id length contents = .ok (bytes, ring) →
      ring = t.bufferRing.publish id ∧ id < t.bufferRing.count := by
    intro id length bytes ring hcopy
    unfold ProvidedBufferRing.copyAndRelease at hcopy
    split_ifs at hcopy with hcount
    cases hcopy
    exact ⟨rfl, Nat.lt_of_not_le hcount⟩
  have hsome : ∀ {id id' : Nat}, id < t.bufferRing.count → some id = some id' →
      id' < t.bufferRing.count := by
    rintro id id' hlt heq
    injection heq with heq
    exact heq ▸ hlt
  unfold Turn.takeReceived at hrun
  split_ifs at hrun
  · split at hrun
    · cases hrun
    · split at hrun
      · cases hrun
      next hok =>
        cases hrun
        obtain ⟨rfl, hlt⟩ := hcopy hok
        exact ⟨rfl, fun _ => hsome hlt⟩
  · split at hrun
    · cases hrun
      exact ⟨rfl, fun _ heq => nomatch heq⟩
    · split at hrun
      · cases hrun
      next hok =>
        cases hrun
        obtain ⟨rfl, hlt⟩ := hcopy hok
        exact ⟨rfl, fun _ => hsome hlt⟩

/-- Everything after that leaves the ring alone. -/
theorem Releases.released {bufferId : Option Nat}
    (h : Releases { t with bufferRing := t.bufferRing.release bufferId } t' none) :
    Releases t t' bufferId := h

/-- An upstream receive gives its buffer back, and its end counts the response. -/
theorem handleProxyRead_releases {result : Int} {bufferId : Option Nat} {contents : Nat → UInt8}
    (hrun : handleProxyRead env result bufferId contents t = .ok t') :
    Releases t t' bufferId := by
  unfold handleProxyRead at hrun
  cases htake : t.takeReceived "upstream receive completed without a selected buffer".toList
      result bufferId contents with
  | error exit =>
      rw [htake] at hrun
      cases hrun
  | ok taken =>
      obtain ⟨bytes, t₁⟩ := taken
      rw [htake] at hrun
      obtain ⟨rfl, -⟩ := takeReceived_shared htake
      apply Releases.released
      simp only [bind, Except.bind] at hrun
      split at hrun
      · cases hrun
        exact .of_shared rfl
      · split_ifs at hrun
        · exact .of_shared ((failProxy_shared hrun).trans (shared_put _ _))
        · exact .of_shared ((submitProxyRead_shared hrun).trans (shared_put _ _))
        · exact .of_shared ((failProxy_shared hrun).trans (shared_put _ _))
        · cases hrun
          exact releases_countResponse _ _
        · exact .of_shared ((failProxy_shared hrun).trans (shared_readBytes _ _))
        · exact .of_shared ((submitSend_shared hrun).trans
            ((shared_queue _ _ _).trans (shared_note _ rfl)))

/-- The session may have something to send before its plaintext is looked at. -/
theorem flushed_shared {wants : Bool} {received : List UInt8}
    (hrun : (do
      let t ← if wants then submitSend env t else .ok t
      receivePlaintext env received t) = .ok t') : t'.shared = t.shared := by
  cases wants with
  | false => exact receivePlaintext_shared hrun
  | true =>
      cases hsend : submitSend env t with
      | error exit =>
          simp only [if_true, hsend] at hrun
          cases hrun
      | ok t₁ =>
          simp only [if_true, hsend] at hrun
          exact (receivePlaintext_shared hrun).trans (submitSend_shared hsend)

/-- A client receive gives its buffer back and counts nothing. -/
theorem handleReadCompletion_shared {result : Int} {bufferId : Option Nat}
    {contents : Nat → UInt8}
    (hrun : handleReadCompletion env result bufferId contents t = .ok t') :
    t'.shared = t.shared.after bufferId 0 := by
  unfold handleReadCompletion at hrun
  cases htake : t.takeReceived "receive completed without a selected buffer".toList
      result bufferId contents with
  | error exit =>
      rw [htake] at hrun
      cases hrun
  | ok taken =>
      obtain ⟨bytes, t₁⟩ := taken
      rw [htake] at hrun
      obtain ⟨rfl, -⟩ := takeReceived_shared htake
      simp only [bind, Except.bind] at hrun
      -- from here on the bytes are the worker's own
      have hcopied : ∀ (t₁ : Turn σ) (c : UringConnection σ),
          ((t₁.put c).note [.copied bytes]).shared = t₁.shared :=
        fun t₁ c => shared_note (t₁.put c) rfl
      split at hrun
      · cases hrun
        rfl
      · split_ifs at hrun
        · cases hrun
          rfl
        · exact (submitRecv_shared hrun).trans (shared_put _ _)
        · cases hrun
          exact (shared_remove _ _).trans (shared_put _ _)
        · split at hrun
          · exact (receivePlaintext_shared hrun).trans (hcopied _ _)
          · split at hrun
            · cases hrun
              exact (shared_remove _ _).trans (hcopied _ _)
            next taken plaintext ssl _ =>
              have hread : ∀ (t₁ : Turn σ) (c : UringConnection σ),
                  ((t₁.put c).note [.tlsRead bytes taken]).shared = t₁.shared :=
                fun t₁ c => shared_note (t₁.put c) rfl
              exact (flushed_shared hrun).trans ((hread _ _).trans (hcopied _ _))

/-- An expired exchange is failed, or its operation is cancelled. -/
theorem expireProxy_shared {phase : ProxyPhase} {operationPending : Bool}
    (hrun : expireProxy env phase operationPending t = .ok t') : t'.shared = t.shared := by
  unfold expireProxy at hrun
  split_ifs at hrun
  · exact failProxy_shared hrun
  · split at hrun
    · cases hrun
    · split at hrun
      · cases hrun
      · dsimp only at hrun
        split at hrun
        · cases hrun
          rfl
        · split_ifs at hrun
          cases hrun
          rfl

/-- An expired handshake is removed without a response. -/
theorem expireHandshake_shared (hrun : expireHandshake t = .ok t') : t'.shared = t.shared := by
  unfold expireHandshake at hrun
  split at hrun
  · cases hrun
  · cases hrun
    exact shared_remove t _

/-- The buffer a completion carries. -/
def TurnEvent.bufferId : TurnEvent → Option Nat
  | .read _ bufferId _ => bufferId
  | .proxyRead _ bufferId _ => bufferId
  | _ => none

/-- **A turn gives back the buffer of its completion**, and counts a response at
most as it removes its connection. -/
theorem handleTurn_releases {event : TurnEvent} (hrun : handleTurn env event t = .ok t') :
    Releases t t' event.bufferId := by
  cases event with
  | accepted => exact .of_shared (submitRecv_shared hrun)
  | read result bufferId contents => exact .inl (handleReadCompletion_shared hrun)
  | write submitted result => exact handleWriteCompletion_releases hrun
  | proxyConnect result => exact .of_shared (handleProxyConnect_shared hrun)
  | proxyWrite submitted result => exact .of_shared (handleProxyWrite_shared hrun)
  | proxyRead result bufferId contents => exact handleProxyRead_releases hrun
  | resolved addresses => exact .of_shared (finishResolution_shared hrun)
  | expired phase operationPending => exact .of_shared (expireProxy_shared hrun)
  | handshakeExpired => exact .of_shared (expireHandshake_shared hrun)
  | pump => exact advanceStaticStream_releases hrun

end Thwip.IoUring
