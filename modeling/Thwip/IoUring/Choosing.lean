/-
  Thwip.IoUring.Choosing — what a run of the io_uring worker asks of its balancer
  and of the DNS threads.

  A worker of this kind asks only while it handles the completion of a client
  receive: the request that the receive completes is answered at once.  Every
  other handler spares the balancer, the tasks and the forwarded requests.  The
  rest is as for the readiness worker: a run from the start has a list of choices
  that accounts for all three.
-/
import Thwip.Choosing
import Thwip.IoUring.Accepting
import Thwip.IoUring.Panics
import Thwip.IoUring.Responses

namespace Thwip.IoUring

open Thwip.Lib
open Relation (ReflTransGen)

variable {σ : Type} {cfg : Config σ} {env : Env σ} {event : TurnEvent} {t t₁ t₂ t' : Turn σ}
  {c : UringConnection σ} {w w' : IoUringWorker σ} {i : Nat}

/-! ## §1. The ledger of a call. -/

/-- The servers a listening socket is for. -/
def UringListener.group (self : UringListener) : Nat × List Nat :=
  (self.defaultServer, self.serverIndices)

/-- What the trace says of requests. -/
def Act.request? : Act → Option RequestAct
  | .verdict (.dispatch request body) => some (.dispatched request body)
  | .proxied => some .proxied
  | .forwarding bytes => some (.forwarding bytes)
  | _ => none

/-- The requests of a trace: which were dispatched, sent to an action, and forwarded. -/
def requestActs (trace : List Act) : List RequestAct := trace.filterMap Act.request?

/-- Acts are appended, and so are their requests. -/
theorem requestActs_append (trace acts : List Act) :
    requestActs (trace ++ acts) = requestActs trace ++ requestActs acts :=
  List.filterMap_append

/-- What the DNS threads were asked. -/
def ResolveTask.lookup (self : ResolveTask) : ConnectionId × Str :=
  (self.connectionId, self.address)

/-- The turn as the calls for the balancer see it. -/
def Turn.ledger (t : Turn σ) : Ledger ConnectionId where
  id := t.id
  balancer := t.balancer
  lookups := t.tasks.map ResolveTask.lookup
  acts := requestActs t.log

/-- The books of the calls for the connections of a listener. -/
def books (env : Env σ) (listener : Nat) : Bookkeeping ConnectionId (Turn σ) Exit where
  ledger := Turn.ledger
  panicked := .panic .balancer
  servers := env.servers
  listenerGroups := ownGroup (env.listeners.map UringListener.group) listener

/-- Nothing was done that the ledger shows: the balancer and the tasks are the same, and the
new acts say nothing of requests. -/
theorem spared {acts : List Act} (hsilent : Silent Act.request? acts) (hid : t'.id = t.id)
    (hbalancer : t'.balancer = t.balancer) (htasks : t'.tasks = t.tasks)
    (hlog : t'.log = t.log ++ acts) : (books env i).Spared t t' := by
  refine Ledger.Chose.nil hid hbalancer ?_ ?_ hsilent.filterMap
  · show t'.tasks.map _ = _
    rw [htasks]
    rfl
  · show requestActs t'.log = requestActs t.log ++ requestActs acts
    rw [hlog, requestActs_append]

/-- Nothing was done but to the connection, the submissions and the metrics. -/
theorem spared_quiet (hid : t'.id = t.id) (hbalancer : t'.balancer = t.balancer)
    (htasks : t'.tasks = t.tasks) (hlog : t'.log = t.log) : (books env i).Spared t t' :=
  spared silent_nil hid hbalancer htasks (by rw [hlog, List.append_nil])

/-! ## §2. Handlers that make no choice. -/

section Sparing

variable (env)

/-- A pushed entry, and what follows it.  A full queue ends the worker with an error that
is not the balancer's. -/
theorem pushEntry_spares {f : Turn σ → Except Exit (Turn σ)}
    (hf : ∀ t₁, (books env i).Spares t₁ (f t₁)) (op : ConnectionOp) (t : Turn σ) :
    (books env i).Spares t (t.pushEntry env op >>= f) := by
  unfold Turn.pushEntry
  split_ifs
  · show (Exit.io none) ≠ .panic .balancer
    simp
  · have hspared : (books env i).Spared t { t with pushed := t.pushed ++ [op] } :=
      spared_quiet rfl rfl rfl rfl
    exact (hf _).after hspared

/-- Encrypting notes plaintext and ciphertext, no request. -/
theorem fillOutput_silent {tls : Rustls σ} {c₁ : UringConnection σ} {acts : List Act}
    (h : c.fillOutput tls = some (c₁, acts)) : Silent Act.request? acts := by
  rcases fillOutput_cases h with ⟨-, rfl, -⟩ | ⟨_, _, _, _, -, -, -, -, rfl⟩
  · exact silent_nil
  · intro act hmem
    simp only [List.mem_cons, List.not_mem_nil, or_false] at hmem
    rcases hmem with rfl | rfl | rfl <;> rfl

/-- The submissions, which every handler ends with: first that of a send to the client. -/
theorem submitSend_spares (t : Turn σ) : (books env i).Spares t (submitSend env t) := by
  unfold submitSend
  split
  · show (Exit.io _) ≠ .panic .balancer
    simp
  next c _ =>
    split_ifs
    · exact .refl t
    · split
      · show (Exit.io none) ≠ .panic .balancer
        simp
      -- the output was filled; the send itself says nothing of requests
      next c₁ acts hfill =>
        have hfilled : (books env i).Spared t ((t.put c₁).note acts) :=
          spared (fillOutput_silent hfill) rfl rfl rfl rfl
        dsimp only
        split_ifs
        · exact hfilled
        · show (Exit.io _) ≠ .panic .balancer
          simp
        · refine Bookkeeping.Spares.after (pushEntry_spares env ?_ _ _) hfilled
          exact fun t₁ => spared_quiet rfl rfl rfl rfl

/-- A receive from the client. -/
theorem submitRecv_spares (t : Turn σ) : (books env i).Spares t (submitRecv env t) := by
  unfold submitRecv
  split
  · show (Exit.io _) ≠ .panic .balancer
    simp
  · split_ifs
    · exact .refl t
    · show (Exit.panic .bufferSize) ≠ .panic .balancer
      simp
    · refine pushEntry_spares env ?_ _ t
      exact fun t₁ => spared (silent_single rfl) rfl rfl rfl rfl

/-- The common end of the three upstream submissions. -/
theorem submitProxy_spares (c : UringConnection σ) (proxy : UringProxy) (op : ConnectionOp)
    (t : Turn σ) : (books env i).Spares t (submitProxy env t c proxy op) := by
  refine pushEntry_spares env ?_ op t
  exact fun t₁ => spared_quiet rfl rfl rfl rfl

/-- A connect. -/
theorem submitProxyConnect_spares (t : Turn σ) :
    (books env i).Spares t (submitProxyConnect env t) := by
  unfold submitProxyConnect
  split
  · show (Exit.panic .slab) ≠ .panic .balancer
    simp
  · split
    · show (Exit.panic .proxy) ≠ .panic .balancer
      simp
    next proxy _ =>
      -- the submission is noted before the queue is asked
      have hnoted : (books env i).Spared t (t.note [.submitProxy .proxyConnect proxy]) :=
        spared (silent_single rfl) rfl rfl rfl rfl
      dsimp only
      split
      · show (Exit.panic .upstream) ≠ .panic .balancer
        simp
      · split
        · show (Exit.panic .address) ≠ .panic .balancer
          simp
        · exact (submitProxy_spares env _ _ _ _).after hnoted

/-- A send to the upstream. -/
theorem submitProxyWrite_spares (t : Turn σ) :
    (books env i).Spares t (submitProxyWrite env t) := by
  unfold submitProxyWrite
  split
  · show (Exit.panic .slab) ≠ .panic .balancer
    simp
  · split
    · show (Exit.panic .proxy) ≠ .panic .balancer
      simp
    next proxy _ =>
      have hnoted : (books env i).Spared t (t.note [.submitProxy .proxyWrite proxy]) :=
        spared (silent_single rfl) rfl rfl rfl rfl
      dsimp only
      split_ifs
      · show (Exit.io _) ≠ .panic .balancer
        simp
      · split
        · show (Exit.panic .upstream) ≠ .panic .balancer
          simp
        · exact (submitProxy_spares env _ _ _ _).after hnoted

/-- A receive from the upstream. -/
theorem submitProxyRead_spares (t : Turn σ) :
    (books env i).Spares t (submitProxyRead env t) := by
  unfold submitProxyRead
  split
  · show (Exit.panic .slab) ≠ .panic .balancer
    simp
  · split
    · show (Exit.panic .proxy) ≠ .panic .balancer
      simp
    next proxy _ =>
      have hnoted : (books env i).Spared t (t.note [.submitProxy .proxyRead proxy]) :=
        spared (silent_single rfl) rfl rfl rfl rfl
      dsimp only
      split_ifs
      · show (Exit.panic .bufferSize) ≠ .panic .balancer
        simp
      · split
        · show (Exit.panic .upstream) ≠ .panic .balancer
          simp
        · exact (submitProxy_spares env _ _ _ _).after hnoted

/-- A response is queued and sent. -/
theorem send_spares (c : UringConnection σ) (response : List UInt8) (t : Turn σ) :
    (books env i).Spares t (submitSend env (t.queue c response)) :=
  (submitSend_spares env _).after (spared (silent_single rfl) rfl rfl rfl rfl)

/-- An error page for a request that is refused. -/
theorem queueHttpError_spares (status : Nat) (message : Str) (t : Turn σ) :
    (books env i).Spares t (queueHttpError env status message t) := by
  have hcounted : (books env i).Spared t t.countError := spared_quiet rfl rfl rfl rfl
  unfold queueHttpError
  dsimp only
  split
  · exact hcounted
  · split_ifs
    · exact hcounted
    · exact (send_spares env _ _ _).after hcounted

/-- An error of the upstream. -/
theorem queueProxyError_spares (status : Nat) (message : Str) (t : Turn σ) :
    (books env i).Spares t (queueProxyError env status message t) := by
  have hcounted : (books env i).Spared t t.countError := spared_quiet rfl rfl rfl rfl
  unfold queueProxyError
  dsimp only
  split
  · exact hcounted
  · split_ifs
    · exact hcounted
    · exact (send_spares env _ _ _).after hcounted

/-- A connection is removed. -/
theorem remove_spared (site : RemovalSite) (t : Turn σ) : (books env i).Spared t (t.remove site) :=
  spared (silent_single rfl) rfl rfl rfl rfl

/-- A response is counted, and the connection is removed. -/
theorem finish_spared (site : RemovalSite) (t : Turn σ) :
    (books env i).Spared t ((t.countResponse site).remove site) := by
  have hcounted : (books env i).Spared t (t.countResponse site) :=
    spared (silent_single rfl) rfl rfl rfl rfl
  exact hcounted.trans (remove_spared env site _)

/-- A failed exchange is answered, or cut off when its response has begun. -/
theorem failProxy_spares (status : Nat) (message : Str) (t : Turn σ) :
    (books env i).Spares t (failProxy env status message t) := by
  unfold failProxy
  dsimp only
  split_ifs
  · exact remove_spared env .proxyFailed t
  · exact queueProxyError_spares env status message t

/-- The head of a file. -/
theorem queueStaticResponse_spares (response : StaticStreamResponse) (t : Turn σ) :
    (books env i).Spares t (queueStaticResponse env response t) := by
  unfold queueStaticResponse
  split
  · show (Exit.panic .slab) ≠ .panic .balancer
    simp
  · exact send_spares env _ _ t

/-- The next message of a file: a chunk, nothing yet, its end or its failure. -/
theorem advanceStaticStream_spares (t : Turn σ) :
    (books env i).Spares t (advanceStaticStream env t) := by
  unfold advanceStaticStream
  split
  · show (Exit.panic .slab) ≠ .panic .balancer
    simp
  · split
    · show (Exit.panic .staticStream) ≠ .panic .balancer
      simp
    · split
      · exact send_spares env _ _ t
      · exact spared_quiet rfl rfl rfl rfl
      · exact finish_spared env .streamFinished t
      · have hcounted : (books env i).Spared t t.countError := spared_quiet rfl rfl rfl rfl
        exact hcounted.trans (remove_spared env .streamFailed _)

/-- Another address of the same choice is tried. -/
theorem tryNextProxyAddress_spares (t : Turn σ) :
    (books env i).Spares t (tryNextProxyAddress env t) := by
  unfold tryNextProxyAddress
  split
  · show (Exit.panic .slab) ≠ .panic .balancer
    simp
  · split
    · exact queueProxyError_spares env _ _ t
    · split
      · exact (queueProxyError_spares env _ _ _).after (spared_quiet rfl rfl rfl rfl)
      · exact (submitProxyConnect_spares env _).after (spared_quiet rfl rfl rfl rfl)

/-- A lookup is answered; it was asked for by a choice made before. -/
theorem finishResolution_spares (addresses : Option (List SocketAddr)) (t : Turn σ) :
    (books env i).Spares t (finishResolution env addresses t) := by
  unfold finishResolution
  split
  · exact .refl t
  · split
    · exact .refl t
    · split_ifs
      · exact .refl t
      · split
        · exact queueProxyError_spares env _ _ t
        · exact queueProxyError_spares env _ _ t
        · exact (tryNextProxyAddress_spares env _).after (spared_quiet rfl rfl rfl rfl)

/-- A connect has completed. -/
theorem handleProxyConnect_spares (result : Int) (t : Turn σ) :
    (books env i).Spares t (handleProxyConnect env result t) := by
  unfold handleProxyConnect
  split
  · exact .refl t
  next c proxy _ =>
    -- the operation is marked as completed before its result is looked at
    have hput : ∀ c₁ : UringConnection σ, (books env i).Spared t (t.put c₁) :=
      fun _ => spared_quiet rfl rfl rfl rfl
    dsimp only
    split_ifs
    · exact (failProxy_spares env _ _ _).after (hput _)
    · exact (tryNextProxyAddress_spares env _).after (hput _)
    · exact (submitProxyWrite_spares env _).after ((hput _).trans (spared_quiet rfl rfl rfl rfl))

/-- A send to the upstream has completed.  What was sent is of the request that the
choice was made for. -/
theorem handleProxyWrite_spares (submitted : List UInt8) (result : Int) (t : Turn σ) :
    (books env i).Spares t (handleProxyWrite env submitted result t) := by
  unfold handleProxyWrite
  split
  · exact .refl t
  next c proxy _ =>
    have hput : ∀ c₁ : UringConnection σ, (books env i).Spared t (t.put c₁) :=
      fun _ => spared_quiet rfl rfl rfl rfl
    dsimp only
    split_ifs
    · exact (failProxy_spares env _ _ _).after (hput _)
    · exact (submitProxyWrite_spares env _).after (hput _)
    · exact (failProxy_spares env _ _ _).after (hput _)
    · exact (failProxy_spares env _ _ _).after (hput _)
    · refine (failProxy_spares env _ _ _).after ((hput (c.setProxy proxy.completed)).trans ?_)
      exact spared_quiet rfl rfl rfl rfl
    · refine (submitProxyRead_spares env _).after ((hput (c.setProxy proxy.completed)).trans ?_)
      exact spared (silent_single rfl) rfl rfl rfl rfl
    · refine (submitProxyWrite_spares env _).after ((hput (c.setProxy proxy.completed)).trans ?_)
      exact spared (silent_single rfl) rfl rfl rfl rfl

/-- A receive takes its bytes out of the ring. -/
theorem takeReceived_spared {missing : Str} {result : Int} {bufferId : Option Nat}
    {contents : Nat → UInt8} {bytes : List UInt8}
    (hrun : t.takeReceived missing result bufferId contents = .ok (bytes, t')) :
    (books env i).Spared t t' := by
  obtain ⟨rfl, -⟩ := takeReceived_shared hrun
  exact spared_quiet rfl rfl rfl rfl

/-- A receive without a buffer ends the worker, and not through the balancer. -/
theorem takeReceived_error {missing : Str} {result : Int} {bufferId : Option Nat}
    {contents : Nat → UInt8} {exit : Exit}
    (hrun : t.takeReceived missing result bufferId contents = .error exit) :
    exit ≠ .panic .balancer := by
  rcases takeReceived_cases t missing result bufferId contents with
    ⟨message, h⟩ | ⟨bytes, t₁, h, -, -⟩
  · rw [h] at hrun
    injection hrun with hrun
    rw [← hrun]
    simp
  · rw [h] at hrun
    cases hrun

/-- A receive from the upstream has completed. -/
theorem handleProxyRead_spares (result : Int) (bufferId : Option Nat) (contents : Nat → UInt8)
    (t : Turn σ) : (books env i).Spares t (handleProxyRead env result bufferId contents t) := by
  unfold handleProxyRead
  cases hreceived : t.takeReceived "upstream receive completed without a selected buffer".toList
      result bufferId contents with
  | error exit => exact takeReceived_error hreceived
  | ok received =>
      obtain ⟨bytes, t₁⟩ := received
      refine Bookkeeping.Spares.after ?_ (takeReceived_spared env hreceived)
      simp only [bind, Except.bind]
      split
      · exact .refl t₁
      next c proxy _ =>
        -- the bytes are the worker's own by now
        have hput : ∀ c₁ : UringConnection σ, (books env i).Spared t₁ (t₁.put c₁) :=
          fun _ => spared_quiet rfl rfl rfl rfl
        split_ifs
        · exact (failProxy_spares env _ _ _).after (hput _)
        · exact (submitProxyRead_spares env _).after (hput _)
        · exact (failProxy_spares env _ _ _).after (hput _)
        · exact (hput _).trans (finish_spared env .upstreamClosed _)
        · refine (failProxy_spares env _ _ _).after ((hput (c.setProxy proxy.completed)).trans ?_)
          exact spared_quiet rfl rfl rfl rfl
        · refine (send_spares env _ _ _).after ((hput (c.setProxy proxy.completed)).trans ?_)
          exact spared (silent_single rfl) rfl rfl rfl rfl

/-- A send to the client has completed. -/
theorem handleWriteCompletion_spares (submitted : List UInt8) (result : Int) (t : Turn σ) :
    (books env i).Spares t (handleWriteCompletion env submitted result t) := by
  unfold handleWriteCompletion
  split
  · exact .refl t
  next c _ =>
    -- completed, then counted, then noted; each branch stops at one of the three
    have hput : (books env i).Spared t (t.put c.markWriteCompleted) := spared_quiet rfl rfl rfl rfl
    have hcounted : (books env i).Spared t
        ((t.put c.markWriteCompleted).wroteBytes result.toNat) :=
      hput.trans (spared_quiet rfl rfl rfl rfl)
    have hsent : (books env i).Spared t ((((t.put c.markWriteCompleted).wroteBytes
        result.toNat).put (c.markWriteCompleted.advance result.toNat)).note
        [.sent (submitted.take result.toNat)
          ((c.markWriteCompleted.advance result.toNat).wantsWrite env.tls)]) :=
      hcounted.trans (spared (silent_single rfl) rfl rfl rfl rfl)
    dsimp only
    split_ifs
    · exact .refl t
    · exact (submitSend_spares env _).after hput
    · exact hput.trans (remove_spared env .sendFailed _)
    · exact hput.trans (remove_spared env .sendFailed _)
    · exact hcounted.trans (remove_spared env .invalidSend _)
    · exact (advanceStaticStream_spares env _).after (hsent.trans (spared_quiet rfl rfl rfl rfl))
    · split
      · exact (submitProxyRead_spares env _).after (hsent.trans (spared_quiet rfl rfl rfl rfl))
      · split
        · exact hsent.trans (finish_spared env .delivered _)
        · split_ifs
          · exact hsent.trans (finish_spared env .delivered _)
          · exact (submitSend_spares env _).after
              (hsent.trans (spared (silent_single rfl) rfl rfl rfl rfl))
    · exact (submitSend_spares env _).after hsent

/-- An exchange has expired: it fails, or its operation is cancelled. -/
theorem expireProxy_spares (phase : ProxyPhase) (operationPending : Bool) (t : Turn σ) :
    (books env i).Spares t (expireProxy env phase operationPending t) := by
  unfold expireProxy
  split_ifs
  · exact failProxy_spares env _ _ t
  · split
    · show (Exit.panic .slab) ≠ .panic .balancer
      simp
    · split
      · show (Exit.panic .proxy) ≠ .panic .balancer
        simp
      · dsimp only
        split
        · exact spared_quiet rfl rfl rfl rfl
        · split_ifs
          · show (Exit.io none) ≠ .panic .balancer
            simp
          · exact spared_quiet rfl rfl rfl rfl

/-- A handshake has expired. -/
theorem expireHandshake_spares (t : Turn σ) : (books env i).Spares t (expireHandshake t) := by
  unfold expireHandshake
  split
  · show (Exit.panic .slab) ≠ .panic .balancer
    simp
  · exact remove_spared env .handshakeExpired t

end Sparing

/-- A completed client receive. -/
def TurnEvent.isRead : TurnEvent → Bool
  | .read .. => true
  | _ => false

/-- **Every other call makes no choice.** -/
theorem handleTurn_spares (env : Env σ) (hevent : event.isRead = false) (t : Turn σ) :
    (books env i).Spares t (handleTurn env event t) := by
  cases event with
  | accepted => exact submitRecv_spares env t
  | read => cases hevent
  | write submitted result => exact handleWriteCompletion_spares env submitted result t
  | proxyConnect result => exact handleProxyConnect_spares env result t
  | proxyWrite submitted result => exact handleProxyWrite_spares env submitted result t
  | proxyRead result bufferId contents => exact handleProxyRead_spares env result bufferId contents t
  | resolved addresses => exact finishResolution_spares env addresses t
  | expired phase operationPending => exact expireProxy_spares env phase operationPending t
  | handshakeExpired => exact expireHandshake_spares env t
  | pump => exact advanceStaticStream_spares env t

/-! ## §3. The answer to a request. -/

/-- `start_proxy` asks for the upstream that was chosen, or does not get that far; then
at most an error is answered. -/
theorem startProxy_asked (env : Env σ) (action : Action) (url : Str) (request : RequestHead)
    (body : List UInt8) (t : Turn σ) :
    ∃ asked t₁, t.ledger.Asked (Turn.ledger t₁) ⟨t.id, request, body, action, .ok url, asked⟩
      ∧ (books env i).Spares t₁ (startProxy env url request body t) := by
  unfold startProxy
  split
  · exact ⟨false, t, .refl t.ledger rfl, queueProxyError_spares env _ _ t⟩
  next upstream hparse =>
    -- whether it asks or not, the choice forwards the bytes that are noted
    have hupstream : ∀ asked, (⟨t.id, request, body, action, .ok url, asked⟩ :
        Choice ConnectionId).upstream = some upstream :=
      fun _ => Choice.upstream_of rfl hparse
    have hforwards : ∀ asked, ∀ bytes ∈ [upstream.requestBytes request body],
        (⟨t.id, request, body, action, .ok url, asked⟩ :
          Choice ConnectionId).forwards = some bytes := by
      intro asked bytes hbytes
      rw [List.mem_singleton.mp hbytes]
      unfold Choice.forwards
      rw [hupstream]
      rfl
    dsimp only
    split
    · exact ⟨false, t, .refl t.ledger rfl, queueProxyError_spares env _ _ t⟩
    · split
      · exact ⟨false, t, .refl t.ledger rfl, .refl t⟩
      next c _ =>
        -- the request is encoded and noted before the DNS threads are asked
        let t₁ := (t.put (c.setProxy (UringProxy.resolving env.now
          (upstream.requestBytes request body)))).note
            [.forwarding (upstream.requestBytes request body)]
        split
        · exact ⟨false, t₁, ⟨rfl, rfl, (Ledger.Asked.refl t.ledger rfl).lookups, [_],
            requestActs_append _ _, hforwards false⟩, queueProxyError_spares env _ _ _⟩
        · refine ⟨true, { t₁ with tasks := t.tasks ++ [⟨t.id, upstream.connectAddress⟩] },
            ⟨rfl, rfl, ?_, [_], requestActs_append _ _, hforwards true⟩, .refl _⟩
          show List.map ResolveTask.lookup (t.tasks ++ _) = _
          unfold Choice.asks Choice.lookup
          rw [hupstream, List.map_append]
          rfl

/-- A choice, once its request is in the trace. -/
theorem asked_chose {choice : Choice ConnectionId} {b : UpstreamBalancer}
    (h : ({ t.note [.proxied] with balancer := b } : Turn σ).ledger.Asked t'.ledger choice)
    (hid : choice.id = t.id)
    (hselect : t.balancer.select choice.action = some (choice.answer, b))
    (hrouted : choice.Routed env.servers (ownGroup (env.listeners.map UringListener.group) i))
    (hrequest : .dispatched choice.request choice.body ∈ requestActs t.log) :
    (books env i).Chose t t' [choice] := by
  have hnoted : ({ t.note [.proxied] with balancer := b } : Turn σ).ledger
      = { t.ledger with balancer := b, acts := t.ledger.acts ++ [.proxied] } := by
    show Ledger.mk _ _ _ (requestActs (t.log ++ [.proxied])) = _
    rw [requestActs_append]
    rfl
  rw [hnoted] at h
  exact h.chose hid hselect hrouted hrequest

/-- **The answer to a request** makes at most one choice: that of the proxy action which the
listener has for it. -/
theorem prepareResponse_chooses (hclient : ∀ c, t.connection = some c → c.listenerIndex = i)
    (hrequest : ∀ c request, t.connection = some c → c.request = some request →
      .dispatched request.head request.body ∈ requestActs t.log) :
    (books env i).Chooses t (prepareResponse env t) := by
  unfold prepareResponse
  split
  · exact ⟨[], Bookkeeping.Spared.refl t⟩
  next c hconnection =>
    split
    · exact ⟨[], Bookkeeping.Spared.refl t⟩
    · split
      · exact ⟨[], Bookkeeping.Spared.refl t⟩
      next request hsome =>
        split
        · exact ⟨[], remove_spared env .listenerMissing t⟩
        next listener hlistener =>
          dsimp only
          split
          · exact (send_spares env _ _ t).chooses
          next server hserver =>
            split
            · exact (send_spares env _ _ t).chooses
            · exact (send_spares env _ _ t).chooses
            · split
              · exact (queueStaticResponse_spares env _ t).chooses
              · exact (send_spares env _ _ t).chooses
            next upstream upstreamGroup upstreams policy hroute =>
              -- the action is the one this listener has for the request
              have hrouted : ∀ (id : ConnectionId) (answer : Except BalanceError Str)
                  (asked : Bool), (⟨id, request.head, request.body,
                    .proxy upstream upstreamGroup upstreams policy, answer, asked⟩ :
                  Choice ConnectionId).Routed env.servers
                    (ownGroup (env.listeners.map UringListener.group) i) := by
                intro id answer asked
                refine ⟨⟨_, _, _, _, rfl⟩, listener.group, mem_ownGroup ?_, ?_⟩
                · rw [List.getElem?_map, ← hclient c hconnection, hlistener]
                  rfl
                unfold routedAction
                rw [show env.servers[selectServer listener.group.2 listener.group.1 request.head
                  env.servers]? = some server from hserver]
                exact hroute
              have hknown := hrequest c request hconnection hsome
              split
              -- the arithmetic on the weights fails: the call panics
              next hselect =>
                intro _
                exact ⟨⟨t.id, request.head, request.body, _, .ok [], false⟩, hrouted _ _ _, hselect⟩
              -- no upstream can be had; the balancer is as before, and the client gets an error
              next error b hselect =>
                obtain rfl := select_error hselect
                have hasked : (t.note [.proxied]).ledger.Asked (t.note [.proxied]).ledger
                    ⟨t.id, request.head, request.body,
                      .proxy upstream upstreamGroup upstreams policy, .error error, false⟩ :=
                  .refl _ rfl
                have hchose := asked_chose hasked rfl hselect (hrouted _ _ _) hknown
                exact (queueProxyError_spares env _ _ _).following hchose
              -- an upstream was chosen, and the balancer has moved on
              next url b hselect =>
                obtain ⟨asked, t₁, hasked, hspares⟩ := startProxy_asked env
                  (.proxy upstream upstreamGroup upstreams policy) url request.head request.body
                  { t.note [.proxied] with balancer := b }
                have hchose := asked_chose hasked rfl hselect (hrouted _ _ _) hknown
                exact hspares.following hchose

/-- Plaintext that completes a request is answered.  That the request was dispatched is in
the trace by then. -/
theorem receivePlaintext_chooses (received : List UInt8)
    (hclient : ∀ c, t.connection = some c → c.listenerIndex = i) :
    (books env i).Chooses t (receivePlaintext env received t) := by
  unfold receivePlaintext
  split
  · exact (submitRecv_spares env t).chooses
  · split
    · exact ⟨[], Bookkeeping.Spared.refl t⟩
    next c hconnection =>
      split
      · exact ⟨[], Bookkeeping.Spared.refl t⟩
      · dsimp only
        generalize hreceive : c.receiveRequest env.limits received = received
        obtain ⟨c₁, verdict⟩ := received
        have hnoted : (books env i).Spared t
            (((t.readBytes received.length).put c₁).note [.verdict verdict]) :=
          spared (silent_single (by cases verdict <;> rfl)) rfl rfl rfl rfl
        cases verdict with
        | keepWaiting => exact (submitRecv_spares env _).chooses.after hnoted
        | error status message =>
            exact (queueHttpError_spares env _ _ _).chooses.after hnoted
        -- the verdict is on the trace, which is how the choice knows its request
        | dispatch request body =>
            refine Bookkeeping.Chooses.after (prepareResponse_chooses ?_ ?_)
              (hnoted.trans (spared_quiet rfl rfl rfl rfl))
            · intro c' hc'
              obtain rfl : c₁ = c' := Option.some.inj hc'
              exact (sameClient_receiveRequest hreceive).listenerIndex.trans (hclient c hconnection)
            intro c' request' hc' hrequest
            obtain rfl : c₁ = c' := Option.some.inj hc'
            rw [receiveRequest_dispatch hreceive] at hrequest
            injection hrequest with hrequest
            subst hrequest
            refine List.mem_filterMap.mpr ⟨.verdict (.dispatch request body), ?_, rfl⟩
            exact List.mem_append_right _ List.mem_cons_self

/-- A send leaves the listener of its connection alone. -/
theorem submitSend_client (hrun : submitSend env t = .ok t') {c' : UringConnection σ}
    (hconnection : t'.connection = some c') :
    ∃ c, t.connection = some c ∧ c'.listenerIndex = c.listenerIndex := by
  unfold submitSend at hrun
  split at hrun
  · cases hrun
  next c hc =>
    split_ifs at hrun
    · injection hrun with hrun
      subst hrun
      exact ⟨c', hconnection, rfl⟩
    · split at hrun
      · cases hrun
      next c₁ acts hfill =>
        have hsame := (sameClient_fillOutput hfill).listenerIndex
        dsimp only at hrun
        split_ifs at hrun
        · injection hrun with hrun
          subst hrun
          obtain rfl : c₁ = c' := Option.some.inj hconnection
          exact ⟨c, hc, hsame⟩
        · unfold Turn.pushEntry at hrun
          split_ifs at hrun
          · cases hrun
          · injection hrun with hrun
            subst hrun
            obtain rfl : c₁.markWriteSubmitted = c' := Option.some.inj hconnection
            exact ⟨c, hc, hsame⟩

/-- A receive from the client has completed. -/
theorem handleReadCompletion_chooses (result : Int) (bufferId : Option Nat)
    (contents : Nat → UInt8) (hclient : ∀ c, t.connection = some c → c.listenerIndex = i) :
    (books env i).Chooses t (handleReadCompletion env result bufferId contents t) := by
  unfold handleReadCompletion
  cases hreceived : t.takeReceived "receive completed without a selected buffer".toList
      result bufferId contents with
  | error exit => exact fun hexit => absurd hexit (takeReceived_error hreceived)
  | ok received =>
      obtain ⟨bytes, t₁⟩ := received
      refine Bookkeeping.Chooses.after ?_ (takeReceived_spared env hreceived)
      obtain ⟨ht₁, -⟩ := takeReceived_shared hreceived
      -- taking the bytes out of the ring leaves the connection alone
      replace hclient : ∀ c, t₁.connection = some c → c.listenerIndex = i := by
        rw [ht₁]
        exact hclient
      simp only [bind, Except.bind]
      split
      · exact ⟨[], Bookkeeping.Spared.refl t₁⟩
      next c hconnection =>
        have hput : (books env i).Spared t₁ (t₁.put c.markReadCompleted) :=
          spared_quiet rfl rfl rfl rfl
        have hcopied : (books env i).Spared t₁ ((t₁.put c.markReadCompleted).note [.copied bytes]) :=
          hput.trans (spared (silent_single rfl) rfl rfl rfl rfl)
        split
        · exact ⟨[], Bookkeeping.Spared.refl t₁⟩
        · split
          · split
            · exact ((submitRecv_spares env _).after hput).chooses
            · exact ⟨[], hput.trans (remove_spared env .receiveClosed _)⟩
          · split
            · refine (receivePlaintext_chooses _ ?_).after hcopied
              intro c' hc'
              obtain rfl : c.markReadCompleted = c' := Option.some.inj hc'
              exact hclient c hconnection
            · split
              · exact ⟨[], hcopied.trans (remove_spared env .tlsFailed _)⟩
              next taken plaintext ssl' _ =>
                have hread : (books env i).Spared t₁ ((((t₁.put c.markReadCompleted).note
                    [.copied bytes]).put (c.markReadCompleted.setSsl ssl')).note
                    [.tlsRead bytes taken]) :=
                  hcopied.trans (spared (silent_single rfl) rfl rfl rfl rfl)
                refine Bookkeeping.Chooses.after ?_ hread
                split
                · -- the session has something to send first
                  refine (submitSend_spares env _).bind_chooses ?_
                  intro t₂ hsend
                  refine receivePlaintext_chooses plaintext ?_
                  intro c₂ hc₂
                  obtain ⟨c', hc', hsame⟩ := submitSend_client hsend hc₂
                  obtain rfl : c.markReadCompleted.setSsl ssl' = c' := Option.some.inj hc'
                  exact hsame.trans (hclient c hconnection)
                · refine receivePlaintext_chooses plaintext ?_
                  intro c' hc'
                  obtain rfl : c.markReadCompleted.setSsl ssl' = c' := Option.some.inj hc'
                  exact hclient c hconnection

/-- **A call makes the choices that are known**, and only for a request it was sent. -/
theorem handleTurn_chooses (env : Env σ) (event : TurnEvent)
    (hclient : ∀ c, t.connection = some c → c.listenerIndex = i) :
    (books env i).Chooses t (handleTurn env event t) := by
  cases event with
  | read result bufferId contents =>
      exact handleReadCompletion_chooses result bufferId contents hclient
  | _ => exact (handleTurn_spares env rfl t).chooses

/-! ## §4. The listeners of a run. -/

/-- What is kept of the listeners: whom they are for. -/
def IoUringWorker.listenerGroups (w : IoUringWorker σ) : List (Nat × List Nat) :=
  w.listeners.map UringListener.group

/-- A listener is replaced by one for the same servers. -/
theorem group_set {idx : Nat} {listener listener' : UringListener}
    (hlistener : w.listeners[idx]? = some listener) (hgroup : listener'.group = listener.group) :
    (w.listeners.set idx listener').map UringListener.group = w.listenerGroups := by
  obtain ⟨hlt, hget⟩ := List.getElem?_eq_some_iff.mp hlistener
  unfold IoUringWorker.listenerGroups
  rw [List.map_set, hgroup, ← hget, ← List.getElem_map UringListener.group (h := by simpa using hlt)]
  exact List.set_getElem_self _

/-- An accept completion changes the state of its listener, never whom it is for. -/
theorem afterAccept_group (listener : UringListener) (result : Int) (more : Bool) :
    (listener.afterAccept result more).group = listener.group := by
  unfold UringListener.afterAccept
  split_ifs <;> rfl

/-- An entry of the worker itself leaves the listeners alone. -/
theorem pushEntry_listeners {world : World} {entry : Entry}
    (hrun : w.pushEntry world entry = .ok w') : w'.listeners = w.listeners := by
  unfold IoUringWorker.pushEntry at hrun
  split_ifs at hrun
  injection hrun with hrun
  rw [← hrun]

/-- The same listeners have the same groups. -/
theorem listenerGroups_congr (h : w'.listeners = w.listeners) :
    w'.listenerGroups = w.listenerGroups := by
  unfold IoUringWorker.listenerGroups
  rw [h]

/-- Submitting an accept marks the listener as accepting. -/
theorem submitAccept_listenerGroups {world : World} {idx : Nat}
    (hrun : submitAccept world idx w = .ok w') : w'.listenerGroups = w.listenerGroups := by
  unfold submitAccept at hrun
  split at hrun
  · cases hrun
  next listener hlistener =>
    split_ifs at hrun
    · injection hrun with hrun
      rw [hrun]
    · cases hpush : w.pushEntry world (.accept idx listener.generation listener.multishot) with
      | error e => simp [bind, Except.bind, hpush] at hrun
      | ok w₁ =>
          simp only [bind, Except.bind, hpush] at hrun
          injection hrun with hrun
          subst hrun
          show (w₁.listeners.set idx _).map _ = _
          rw [pushEntry_listeners hpush]
          exact group_set hlistener rfl

/-- So does an accept completion, which may submit the next one. -/
theorem handleAcceptCompletion_listenerGroups {world : World} {idx : Nat} {generation : UInt16}
    {result : Int} {more : Bool}
    (hrun : handleAcceptCompletion cfg world idx generation result more w = .ok w') :
    w'.listenerGroups = w.listenerGroups := by
  have hmissing : handleAcceptCompletion cfg world idx generation result more w = .ok w →
      w'.listenerGroups = w.listenerGroups := by
    intro hsame
    rw [hsame] at hrun
    injection hrun with hrun
    rw [hrun]
  cases hlistener : w.listeners[idx]? with
  | none => exact hmissing (by unfold handleAcceptCompletion; rw [hlistener])
  | some listener =>
      by_cases hgeneration : listener.generation = generation
      · subst hgeneration
        -- the listener is put back before the socket is looked at
        have hset : ({ w with listeners := w.listeners.set idx (listener.afterAccept result more) } :
            IoUringWorker σ).listenerGroups = w.listenerGroups :=
          group_set hlistener (afterAccept_group listener result more)
        obtain ⟨w₁, haside, rfl | ⟨-, -, hsubmit⟩⟩ := handleAcceptCompletion_cases hlistener hrun
        · exact (listenerGroups_congr haside.listeners).trans hset
        · exact (submitAccept_listenerGroups hsubmit).trans
            ((listenerGroups_congr haside.listeners).trans hset)
      · refine hmissing ?_
        unfold handleAcceptCompletion
        rw [hlistener]
        dsimp only
        rw [if_pos hgeneration]

/-- The answers of the DNS threads are handed to connections only. -/
theorem processDnsResults_listeners {world : World} {results : List ResolveResult}
    (hrun : processDnsResults cfg world results w = .ok w') : w'.listeners = w.listeners := by
  unfold processDnsResults at hrun
  cases hturns : runTurns cfg world (results.map fun result =>
      (result.connectionId, TurnEvent.resolved result.addresses)) w with
  | error e => simp [bind, Except.bind, hturns] at hrun
  | ok w₁ =>
      simp only [bind, Except.bind, hturns] at hrun
      split_ifs at hrun
      · exact (pushEntry_listeners hrun).trans (runTurns_aside hturns).listeners
      · injection hrun with hrun
        rw [← hrun]
        exact (runTurns_aside hturns).listeners

/-- **No step changes whom a listener is for.** -/
theorem step_listenerGroups {event : Event} (hrun : step cfg event w = .ok w') :
    w'.listenerGroups = w.listenerGroups := by
  cases event with
  | requestShutdown =>
      injection hrun with hrun
      rw [← hrun]
      rfl
  | loopTop world =>
      rcases loopTop_cases hrun with ⟨w₁, hbegun, ⟨-, hresult⟩ | ⟨-, hresult⟩⟩ | ⟨exit, -, hresult⟩
      · cases hresult
      · injection hresult with hresult
        subst hresult
        unfold Begun at hbegun
        split_ifs at hbegun
        · rcases beginShutdown_cases hbegun with ⟨-, rfl⟩ | ⟨-, rfl⟩ <;> rfl
        · injection hbegun with hbegun
          rw [hbegun]
      · cases hresult
  | completed index completion dns world =>
      unfold step at hrun
      dsimp only at hrun
      cases hentry : w.inFlight[index]? with
      | none =>
          rw [hentry] at hrun
          injection hrun with hrun
          rw [hrun]
      | some entry =>
          rw [hentry] at hrun
          dsimp only at hrun
          generalize htaken : (if entry.persists completion.more then w
            else { w with inFlight := w.inFlight.eraseIdx index }) = w₁ at hrun
          have hsame : w₁.listenerGroups = w.listenerGroups := by
            rw [← htaken]
            split_ifs <;> rfl
          rw [← hsame]
          cases entry with
          | operation id op => exact listenerGroups_congr (runTurn_aside hrun).listeners
          | dnsRead => exact listenerGroups_congr (processDnsResults_listeners hrun)
          | timerRead => exact listenerGroups_congr (checkProxyTimeouts_aside hrun).listeners
          | accept listener generation multishot =>
              exact handleAcceptCompletion_listenerGroups hrun
          | shutdownRead | cancel | proxyCancel =>
              injection hrun with hrun
              subst hrun
              rfl

/-- Neither does the start, which submits the first accepts. -/
theorem start_listenerGroups {world : World} (hrun : start world w = .ok w') :
    w'.listenerGroups = w.listenerGroups := by
  unfold start at hrun
  cases h₁ : (List.range w.listeners.length).foldlM (fun w idx => submitAccept world idx w) w with
  | error e => simp [bind, Except.bind, h₁] at hrun
  | ok w₁ =>
      have haccepts : w₁.listenerGroups = w.listenerGroups :=
        foldlM_ok (fun _ w₂ => w₂.listenerGroups = w.listenerGroups)
          (fun _ _ _ _ hbefore hstep => (submitAccept_listenerGroups hstep).trans hbefore) rfl h₁
      cases h₂ : w₁.pushEntry world .shutdownRead with
      | error e => simp [bind, Except.bind, h₁, h₂] at hrun
      | ok w₂ =>
          cases h₃ : w₂.pushEntry world .dnsRead with
          | error e => simp [bind, Except.bind, h₁, h₂, h₃] at hrun
          | ok w₃ =>
              simp only [bind, Except.bind, h₁, h₂, h₃] at hrun
              rw [← haccepts]
              exact listenerGroups_congr ((pushEntry_listeners hrun).trans
                ((pushEntry_listeners h₃).trans (pushEntry_listeners h₂)))

/-- **The listeners of a run are those of its configuration.** -/
theorem Reachable.listenerGroups (h : Reachable cfg w) :
    w.listenerGroups = cfg.listenerGroups := by
  induction h with
  | @start w₀ w₁ world hnew hstart =>
      rw [start_listenerGroups hstart]
      have hlisteners : w₀.listeners = cfg.listeners := by
        unfold IoUringWorker.new at hnew
        split at hnew
        · cases hnew
        · split_ifs at hnew
          injection hnew with hnew
          rw [← hnew]
      unfold IoUringWorker.listenerGroups Config.listeners at *
      rw [hlisteners, List.map_map]
      exact List.map_id _
  | step event _ hstep ih => exact (step_listenerGroups hstep).trans ih

/-! ## §5. Runs. -/

/-- The choices back what the trace of a connection has, which came on this listener. -/
def BackedBy (cfg : Config σ) (listener : Nat) (choices : List (Choice ConnectionId))
    (id : ConnectionId) (trace : List Act) : Prop :=
  Backed cfg.servers (ownGroup cfg.listenerGroups listener) choices id (requestActs trace)

/-- How many of a connection's requests went to a proxy action. -/
def proxiedCount (trace : List Act) : Nat := proxiedIn (requestActs trace)

/-- The trace of the connection `id` has this, whether it is open or has been removed. -/
def IoUringWorker.Noted (w : IoUringWorker σ) (id : ConnectionId) (act : RequestAct) : Prop :=
  (∃ occ, w.connections.get id.slot = some occ ∧ occ.connection.generation = id.generation
    ∧ act ∈ requestActs occ.log)
  ∨ ∃ trace ops, .removed id trace ops ∈ w.history ∧ act ∈ requestActs trace

/-- The choices account for what the worker's upstreams were chosen with. -/
structure IoUringWorker.Accounted (cfg : Config σ) (w : IoUringWorker σ)
    (choices : List (Choice ConnectionId)) : Prop where
  selects : Selects (.withGroups cfg.upstreamGroups) choices w.balancer
  lookups : w.tasks.map ResolveTask.lookup = choices.filterMap Choice.asks
  routed : ∀ choice ∈ choices, choice.Routed cfg.servers cfg.listenerGroups
  /-- Its request was dispatched on its connection. -/
  dispatched : ∀ choice ∈ choices, w.Noted choice.id (.dispatched choice.request choice.body)
  total : choices.length = w.weight proxiedCount
  live : ∀ slot occ, w.connections.get slot = some occ →
    BackedBy cfg occ.connection.listenerIndex choices ⟨slot, occ.connection.generation⟩ occ.log
  gone : ∀ id trace ops, .removed id trace ops ∈ w.history →
    ∃ listener, BackedBy cfg listener choices id trace

/-- A new worker has made no choice. -/
theorem accounted_new (h : IoUringWorker.new cfg = .ok w) : w.Accounted cfg [] := by
  unfold IoUringWorker.new at h
  split at h
  · cases h
  · split_ifs at h
    injection h with h
    subst h
    refine ⟨.nil _, rfl, ?_, ?_, rfl, ?_, ?_⟩
    · intro choice hmem
      cases hmem
    · intro choice hmem
      cases hmem
    · intro slot occ hget
      cases hget
    · intro id trace ops hmem
      cases hmem

/-- A turn's choices, of which there are none unless a receive of the connection completed. -/
theorem view_chooses {world : World} {id : ConnectionId}
    (hclient : ∀ occ, w.connections.get id.slot = some occ → occ.connection.listenerIndex = i)
    (hrun : handleTurn (w.env cfg world) event (w.view id) = .ok t) :
    ∃ later, (books (w.env cfg world) i).Chose (w.view id) t later
      ∧ (later ≠ [] → w.Live id ∧ event.isRead = true) := by
  cases hread : event.isRead with
  | false =>
      have hspares : (books (w.env cfg world) i).Spares (w.view id) _ :=
        handleTurn_spares (w.env cfg world) hread (w.view id)
      rw [hrun] at hspares
      exact ⟨[], hspares, fun hne => absurd rfl hne⟩
  | true =>
      have hview : ∀ c, (w.view id).connection = some c → c.listenerIndex = i := by
        intro c hc
        obtain ⟨occ, hget, rfl⟩ := Option.map_eq_some_iff.mp hc
        exact hclient occ hget
      have hchooses := handleTurn_chooses (w.env cfg world) event hview
      rw [hrun] at hchooses
      obtain ⟨later, hchose⟩ := hchooses
      by_cases hlive : w.Live id
      · exact ⟨later, hchose, fun _ => ⟨hlive, rfl⟩⟩
      · -- a receive of a removed connection is dropped, so nothing is on its trace
        have hstale : event.mayBeStale = true := by
          cases event <;> first | rfl | cases hread
        rcases handleTurn_stale (w.env cfg world) (view_stale hlive) hstale with
          ⟨message, herror⟩ | ⟨t₁, hok, hmoved⟩
        · rw [herror] at hrun
          cases hrun
        · rw [hok] at hrun
          injection hrun with hrun
          subst hrun
          have hnone : later = [] := by
            refine Ledger.Chose.eq_nil hchose ?_
            show requestActs t₁.log = requestActs (w.view id).log
            rw [hmoved.log, List.append_nil]
          exact ⟨later, hchose, fun hne => absurd hnone hne⟩

/-- The item a removal leaves. -/
theorem removed_turnItems {world : World} {id id' : ConnectionId} {trace : List Act}
    {ops : List ConnectionOp} (h : .removed id' trace ops ∈ w.turnItems id event world t) :
    ∃ occ, w.connections.get id.slot = some occ
      ∧ id' = ⟨id.slot, occ.connection.generation⟩ ∧ trace = t.log := by
  unfold IoUringWorker.turnItems at h
  split at h
  · cases List.mem_singleton.mp h
  next occ hget =>
    split_ifs at h
    · cases List.mem_singleton.mp h
    · rcases List.mem_cons.mp h with h | h
      · cases h
      · cases List.mem_singleton.mp h
        exact ⟨occ, hget, rfl, rfl⟩

/-- A turn leaves the client in its slot, or takes it out. -/
theorem runTurn_client {world : World} {id : ConnectionId}
    (hlive : w.Live id ∨ event.mayBeStale = true)
    (hrun : w.runTurn cfg world id event = .ok w') {occ' : Occupant σ}
    (hget' : w'.connections.get id.slot = some occ') :
    ∃ occ, w.connections.get id.slot = some occ ∧ SameClient occ.connection occ'.connection := by
  by_cases h : w.Live id
  · obtain ⟨occ, hget, hgen⟩ := h
    obtain ⟨t, ht, rfl⟩ := runTurn_eq hrun
    have hcur : (w.view id).Current occ.connection := view_current hget hgen
    obtain ⟨c', pushed, acts, houtcome, hbecame⟩ := handleTurn_outcome hcur ht
    have hentry := commit_get_self hget event world t
    rw [hentry, hbecame.connection] at hget'
    obtain ⟨c₁, rfl, rfl⟩ := Option.map_eq_some_iff.mp hget'
    exact ⟨occ, hget, houtcome.sameClient⟩
  · rw [runTurn_stale_get h (hlive.resolve_left h) hrun] at hget'
    exact ⟨occ', hget', .refl _⟩

/-- A turn for a vacant slot leaves it vacant. -/
theorem vacant_turn {world : World} {id : ConnectionId}
    (hlive : w.Live id ∨ event.mayBeStale = true) (hget : w.connections.get id.slot = none)
    (hrun : handleTurn (w.env cfg world) event (w.view id) = .ok t) : t.connection = none := by
  have hgone : ¬ w.Live id := by
    rintro ⟨occ, hocc, -⟩
    rw [hget] at hocc
    cases hocc
  rcases handleTurn_stale (w.env cfg world) (view_stale hgone) (hlive.resolve_left hgone) with
    ⟨_, herror⟩ | ⟨t₁, hok, hmoved⟩
  · rw [herror] at hrun
    cases hrun
  · rw [hok] at hrun
    injection hrun with hrun
    rw [← hrun, hmoved.connection]
    simp [IoUringWorker.view, hget]

/-- What was noted stays so while connections stay open and the history grows. -/
theorem IoUringWorker.Noted.mono {id : ConnectionId} {act : RequestAct} (h : w.Noted id act)
    (hopen : ∀ slot occ, w.connections.get slot = some occ → w'.connections.get slot = some occ)
    (hhistory : w.history ⊆ w'.history) : w'.Noted id act := by
  rcases h with ⟨occ, hget, hgen, hmem⟩ | ⟨trace, ops, hgone, hmem⟩
  · exact .inl ⟨occ, hopen id.slot occ hget, hgen, hmem⟩
  · exact .inr ⟨trace, ops, hhistory hgone, hmem⟩

/-- What a turn notes is on the trace of its connection, open or removed. -/
theorem noted_commit {world : World} {id : ConnectionId} {occ : Occupant σ} {act : RequestAct}
    (hget : w.connections.get id.slot = some occ)
    (hself : ∀ c', t.connection = some c' → c'.generation = occ.connection.generation)
    (hmem : act ∈ requestActs t.log) :
    (w.commit id event world t).Noted ⟨id.slot, occ.connection.generation⟩ act := by
  cases hc : t.connection with
  | none =>
      have hremoved : ∃ ops, HistoryItem.removed ⟨id.slot, occ.connection.generation⟩ t.log ops
          ∈ w.turnItems id event world t := by
        unfold IoUringWorker.turnItems
        rw [hget]
        dsimp only
        rw [hc, if_neg (by simp)]
        exact ⟨_, List.mem_cons_of_mem _ List.mem_cons_self⟩
      obtain ⟨ops, hremoved⟩ := hremoved
      exact .inr ⟨t.log, ops, List.mem_append_right _ hremoved, hmem⟩
  | some c' =>
      refine .inl ⟨⟨c', t.log⟩, ?_, hself c' hc, hmem⟩
      have hentry := commit_get_self hget event world t
      rw [hentry, hc]
      rfl

/-- It stays so over a turn too, of its own connection or of another. -/
theorem IoUringWorker.Noted.turn {world : World} {id id' : ConnectionId} {act : RequestAct}
    (h : w.Noted id' act)
    (hothers : ∀ slot, id.slot ≠ slot →
      (w.commit id event world t).connections.get slot = w.connections.get slot)
    (hself : ∀ occ c', w.connections.get id.slot = some occ → t.connection = some c' →
      c'.generation = occ.connection.generation)
    (hkeeps : requestActs (w.view id).log ⊆ requestActs t.log) :
    (w.commit id event world t).Noted id' act := by
  rcases h with ⟨occ, hget, hgen, hmem⟩ | ⟨trace, ops, hgone, hmem⟩
  · by_cases hslot : id.slot = id'.slot
    · rw [← hslot] at hget
      have hid : (⟨id.slot, occ.connection.generation⟩ : ConnectionId) = id' := by rw [hslot, hgen]
      rw [← hid]
      refine noted_commit hget (fun c' hc' => hself occ c' hget hc') (hkeeps ?_)
      simpa [IoUringWorker.view, hget] using hmem
    · exact .inl ⟨occ, by rw [hothers _ hslot]; exact hget, hgen, hmem⟩
  · exact .inr ⟨trace, ops, List.mem_append_left _ hgone, hmem⟩

/-- **A turn keeps the accounts**: its choices go to the end of the list.  It makes some
only as a receive completes, for its own connection and on the listener of that. -/
theorem IoUringWorker.Accounted.turn {choices : List (Choice ConnectionId)}
    (h : w.Accounted cfg choices) {world : World} {id : ConnectionId}
    (hgroups : event.isRead = true → w.listenerGroups = cfg.listenerGroups)
    (hstart : w.Live id ∨ event.mayBeStale = true)
    (hrun : w.runTurn cfg world id event = .ok w') :
    ∃ later, w'.Accounted cfg (choices ++ later) ∧ (later ≠ [] → event.isRead = true) := by
  have hkept : ∀ occ', w'.connections.get id.slot = some occ' →
      ∃ occ, w.connections.get id.slot = some occ ∧ SameClient occ.connection occ'.connection :=
    fun _ hget' => runTurn_client hstart hrun hget'
  have hothers : ∀ slot, id.slot ≠ slot →
      w'.connections.get slot = w.connections.get slot := fun _ => runTurn_get_ne hrun
  obtain ⟨t, ht, rfl⟩ := runTurn_eq hrun
  obtain ⟨listener, hlistener⟩ : ∃ listener, ∀ occ, w.connections.get id.slot = some occ →
      occ.connection.listenerIndex = listener := by
    cases hget : w.connections.get id.slot with
    | none => exact ⟨0, fun occ hocc => by cases hocc⟩
    | some occ => exact ⟨occ.connection.listenerIndex, fun occ' hocc => by cases hocc; rfl⟩
  -- three facts on the slot of the turn: who was in it, who is, and on which listener
  have hvacant : w.connections.get id.slot = none → t.connection = none :=
    fun hget => vacant_turn hstart hget ht
  obtain ⟨later, hchosen, hlater⟩ := view_chooses hlistener ht
  -- the books of the turn are kept on the listeners of the worker; those of the run, of `cfg`
  have hchose : (w.view id).ledger.Chose cfg.servers (ownGroup cfg.listenerGroups listener)
      t.ledger later := by
    refine hchosen.regroup (fun hne => ?_)
    show ownGroup w.listenerGroups listener = _
    rw [hgroups (hlater hne).2]
  have hbacked : ∀ occ, w.connections.get id.slot = some occ →
      BackedBy cfg listener (choices ++ later) ⟨id.slot, occ.connection.generation⟩ t.log := by
    intro occ hget
    have hold : BackedBy cfg listener choices ⟨id.slot, occ.connection.generation⟩
        (w.view id).log := by
      rw [view_log hget, ← hlistener occ hget]
      exact h.live id.slot occ hget
    refine Backed.call (l := (w.view id).ledger) hold hchose ?_
    intro hne
    obtain ⟨⟨occ₁, hget₁, hgen⟩, -⟩ := hlater hne
    obtain rfl : occ = occ₁ := Option.some.inj (hget.symm.trans hget₁)
    rw [hgen]
    rfl
  have hgenerations : ∀ occ c', w.connections.get id.slot = some occ → t.connection = some c' →
      c'.generation = occ.connection.generation := by
    intro occ c' hget hc'
    have hentry := commit_get_self hget event world t
    rw [hc'] at hentry
    obtain ⟨occ₁, hget₁, hsame⟩ := hkept _ hentry
    obtain rfl : occ = occ₁ := Option.some.inj (hget.symm.trans hget₁)
    exact hsame.generation
  refine ⟨later, ⟨h.selects.append hchose.selects, ?_, ?_, ?_, ?_, ?_, ?_⟩,
    fun hne => (hlater hne).2⟩
  · -- what was looked up
    have hlookups : t.tasks.map ResolveTask.lookup
        = w.tasks.map ResolveTask.lookup ++ later.filterMap Choice.asks := hchose.lookups
    show t.tasks.map ResolveTask.lookup = _
    rw [hlookups, List.filterMap_append, ← h.lookups]
  · intro choice hmem
    rcases List.mem_append.mp hmem with hmem | hmem
    · exact h.routed choice hmem
    · exact (hchose.routed choice hmem).2.mono (ownGroup_subset _ _)
  · intro choice hmem
    rcases List.mem_append.mp hmem with hmem | hmem
    · exact (h.dispatched choice hmem).turn hothers hgenerations hchose.keeps
    · -- a choice of this turn: its request is on the trace the turn leaves
      obtain ⟨⟨occ, hget, hgen⟩, -⟩ := hlater (List.ne_nil_of_mem hmem)
      have hid : choice.id = ⟨id.slot, occ.connection.generation⟩ := by
        rw [hgen]
        exact (hchose.routed choice hmem).1
      rw [hid]
      exact noted_commit hget (hgenerations occ · hget) (hchose.dispatched choice hmem)
  · -- how many choices: the trace of the slot grew by one for each
    rw [List.length_append, h.total]
    cases hget : w.connections.get id.slot with
    | none =>
        rw [weight_commit_vacant _ hget event world (hvacant hget)]
        have hnone : later = [] := by
          by_contra hne
          obtain ⟨⟨occ, hocc, -⟩, -⟩ := hlater hne
          rw [hget] at hocc
          cases hocc
        rw [hnone]
        rfl
    | some occ =>
        have hweight := weight_commit proxiedCount hget event world t
        have hgrown : proxiedCount t.log = proxiedCount (w.view id).log + later.length :=
          hchose.proxiedIn
        rw [view_log hget] at hgrown
        omega
  · -- the open connections: the one of the turn, and the others
    intro slot occ' hget'
    by_cases hslot : id.slot = slot
    · subst hslot
      obtain ⟨occ, hget, hsame⟩ := hkept occ' hget'
      have hentry := commit_get_self hget event world t
      rw [hentry] at hget'
      obtain ⟨c', -, rfl⟩ := Option.map_eq_some_iff.mp hget'
      have hown : c'.listenerIndex = listener := hsame.listenerIndex.trans (hlistener occ hget)
      have hgen : c'.generation = occ.connection.generation := hsame.generation
      show BackedBy cfg c'.listenerIndex _ ⟨id.slot, c'.generation⟩ t.log
      rw [hown, hgen]
      exact hbacked occ hget
    · rw [hothers slot hslot] at hget'
      exact (h.live slot occ' hget').mono later
  · -- the removed ones: those of before, and perhaps that of the turn
    intro id' trace ops hmem
    rcases List.mem_append.mp hmem with hmem | hmem
    · obtain ⟨own, hown⟩ := h.gone id' trace ops hmem
      exact ⟨own, hown.mono later⟩
    · obtain ⟨occ, hget, rfl, rfl⟩ := removed_turnItems hmem
      exact ⟨listener, hbacked occ hget⟩

/-- What is not the turn of a completed operation makes no choice. -/
theorem IoUringWorker.Accounted.change {choices : List (Choice ConnectionId)}
    (h : w.Accounted cfg choices) (hchange : Change cfg w w') : w'.Accounted cfg choices := by
  cases hchange with
  | turn world id event hevent hlive hrun =>
      have hread : event.isRead = false := by
        cases event <;> first | rfl | cases hevent
      obtain ⟨later, hturn, hlater⟩ :=
        h.turn (fun htrue => absurd htrue (by rw [hread]; decide)) hlive hrun
      -- of the turns, these are none of a receive
      have hnone : later = [] := by
        by_contra hne
        rw [hread] at hlater
        cases hlater hne
      rw [hnone, List.append_nil] at hturn
      exact hturn
  | pushed | dropped | failed | flags =>
      exact ⟨h.selects, h.lookups, h.routed, h.dispatched, h.total, h.live, h.gone⟩
  | inserted now socket listenerIndex ssl id connection generations hvacant hle hnew =>
      refine ⟨h.selects, h.lookups, h.routed, ?_, ?_, ?_, ?_⟩
      · intro choice hmem
        refine (h.dispatched choice hmem).mono ?_ (List.subset_append_left _ _)
        intro slot occ hget
        have hother : id.slot ≠ slot := by
          rintro rfl
          rw [hvacant] at hget
          cases hget
        exact (Slab.get_insertAt_ne hle hother _).trans hget
      · -- a new connection has an empty trace
        unfold IoUringWorker.weight
        rw [Slab.total_insertAt hvacant, List.map_append, List.sum_append]
        exact h.total
      · intro slot occ hget
        by_cases hslot : id.slot = slot
        · subst hslot
          rw [Slab.get_insertAt_self hle] at hget
          injection hget with hget
          subst hget
          exact backed_new choices _
        · rw [Slab.get_insertAt_ne hle hslot] at hget
          exact h.live slot occ hget
      · intro id' trace ops hmem
        rcases List.mem_append.mp hmem with hmem | hmem
        · exact h.gone id' trace ops hmem
        · cases List.mem_singleton.mp hmem

/-- A run of such changes keeps the accounts. -/
theorem accounted_changes {choices : List (Choice ConnectionId)} (h : w.Accounted cfg choices)
    (hpath : Changes cfg w w') : w'.Accounted cfg choices := by
  induction hpath with
  | refl => exact h
  | tail _ hchange ih => exact ih.change hchange

/-- Taking an entry out of flight touches none of them. -/
theorem Event.taken_accounted {choices : List (Choice ConnectionId)} (h : w.Accounted cfg choices)
    (event : Event) : (event.taken w).Accounted cfg choices := by
  rcases event.taken_cases w with heq | ⟨_, _, _, _, _, -, -, -, heq⟩
  · rw [heq]
    exact h
  · rw [heq]
    exact ⟨h.selects, h.lookups, h.routed, h.dispatched, h.total, h.live, h.gone⟩

/-- **Every run is accounted for.** -/
theorem Reachable.accounted (h : Reachable cfg w) : ∃ choices, w.Accounted cfg choices := by
  induction h with
  | start world hnew hstart => exact ⟨[], accounted_changes (accounted_new hnew) (start_changes hstart)⟩
  | @step w w' event hreach hstep ih =>
      obtain ⟨choices, hbefore⟩ := ih
      have htaken := event.taken_accounted hbefore
      rcases step_changes hstep with ⟨_, completion, _, world, id, op, -, -, hrun⟩ | hpath
      · -- an operation has completed: one turn
        have hgroups : (event.taken w).listenerGroups = cfg.listenerGroups := by
          rw [← hreach.listenerGroups]
          rcases event.taken_cases w with heq | ⟨_, _, _, _, _, -, -, -, heq⟩ <;> rw [heq]
          rfl
        obtain ⟨later, hlater, -⟩ := htaken.turn (fun _ => hgroups)
          (.inr (op.turnEvent_mayBeStale completion)) hrun
        exact ⟨_, hlater⟩
      · -- anything else: changes that make no choice
        exact ⟨choices, accounted_changes htaken hpath⟩

/-! ## §6. Panics. -/

/-- A call panics in the balancer only for a request that the listener routes. -/
theorem runTurn_unchoosable {world : World} {id : ConnectionId}
    (hrun : w.runTurn cfg world id event = .error (.panic .balancer)) :
    event.isRead = true ∧ ∃ listener, (books (w.env cfg world) listener).Unchoosable (w.view id) := by
  have hturn := runTurn_error hrun
  obtain ⟨listener, hlistener⟩ : ∃ listener, ∀ c, (w.view id).connection = some c →
      c.listenerIndex = listener := by
    cases (w.view id).connection with
    | none => exact ⟨0, fun c hc => by cases hc⟩
    | some c => exact ⟨c.listenerIndex, fun c' hc => by cases hc; rfl⟩
  have hchooses := handleTurn_chooses (w.env cfg world) event hlistener
  rw [hturn] at hchooses
  refine ⟨?_, listener, hchooses rfl⟩
  by_contra hread
  rw [Bool.not_eq_true] at hread
  have hspares : (books (w.env cfg world) listener).Spares (w.view id) _ :=
    handleTurn_spares (w.env cfg world) hread (w.view id)
  rw [hturn] at hspares
  exact hspares rfl

/-- The passes over the slab and the answers of the DNS threads are no receives. -/
theorem runTurns_calm {world : World} {turns : List (ConnectionId × TurnEvent)}
    (hevents : ∀ turn ∈ turns, turn.2.isRead = false)
    (hrun : runTurns cfg world turns w = .error (.panic .balancer)) : False := by
  obtain ⟨turn, rest, w₁, hrest, hstop⟩ := foldlM_error
    (fun (turns : List (ConnectionId × TurnEvent)) (_ : IoUringWorker σ) =>
      ∀ turn ∈ turns, turn.2.isRead = false)
    (fun _ _ _ _ hturns _ turn hmem => hturns turn (List.mem_cons_of_mem _ hmem)) hevents hrun
  have hread := (runTurn_unchoosable hstop).1
  rw [hrest turn List.mem_cons_self] at hread
  cases hread

/-- The answers of the DNS threads. -/
theorem processDnsResults_calm {world : World} {results : List ResolveResult}
    (hrun : processDnsResults cfg world results w = .error (.panic .balancer)) : False := by
  unfold processDnsResults at hrun
  cases hturns : runTurns cfg world (results.map fun result =>
      (result.connectionId, TurnEvent.resolved result.addresses)) w with
  | error exit =>
      simp only [bind, Except.bind, hturns] at hrun
      injection hrun with hrun
      subst hrun
      refine runTurns_calm ?_ hturns
      intro turn hmem
      obtain ⟨result, -, rfl⟩ := List.mem_map.mp hmem
      rfl
  | ok w₁ =>
      simp only [bind, Except.bind, hturns] at hrun
      split_ifs at hrun
      · exact (worker_pushEntry_panic hrun).elim
      · cases hrun

/-- The timer: it expires exchanges and handshakes, and pumps files. -/
theorem checkProxyTimeouts_calm {world : World}
    (hrun : checkProxyTimeouts cfg world w = .error (.panic .balancer)) : False := by
  -- each pass over the slab selects turns, and none of them a receive
  have hpass : ∀ {select : UringConnection σ → Option TurnEvent} {w₁ : IoUringWorker σ},
      (∀ c event, select c = some event → event.isRead = false) →
      runTurns cfg world (slabTurns select w₁.connections) w₁ = .error (.panic .balancer) →
      False := by
    intro select w₁ hselect hstop
    refine runTurns_calm ?_ hstop
    intro turn hmem
    obtain ⟨occ, -, -, hsome⟩ := mem_slabTurns hmem
    exact hselect _ _ hsome
  unfold checkProxyTimeouts at hrun
  cases h₁ : runTurns cfg world (slabTurns (proxyExpired cfg world.now) w.connections) w with
  | error exit =>
      simp only [bind, Except.bind, h₁] at hrun
      injection hrun with hrun
      subst hrun
      refine hpass ?_ h₁
      intro c event hsome
      obtain ⟨-, _, -, rfl⟩ := proxyExpired_some hsome
      rfl
  | ok w₁ =>
      cases h₂ : runTurns cfg world
          (slabTurns (handshakeOverdue cfg world.now) w₁.connections) w₁ with
      | error exit =>
          simp only [bind, Except.bind, h₁, h₂] at hrun
          injection hrun with hrun
          subst hrun
          refine hpass ?_ h₂
          intro c event hsome
          rw [(handshakeOverdue_some hsome).1]
          rfl
      | ok w₂ =>
          cases h₃ : w₂.pushEntry world .timerRead with
          | error exit =>
              simp only [bind, Except.bind, h₁, h₂, h₃] at hrun
              injection hrun with hrun
              subst hrun
              exact (worker_pushEntry_panic h₃).elim
          | ok w₃ =>
              simp only [bind, Except.bind, h₁, h₂, h₃] at hrun
              refine hpass ?_ hrun
              intro c event hsome
              rw [(pumpReady_some hsome).1]
              rfl

/-- **A step panics in the balancer only for a request that the listener routes**, to an
action on whose weights the arithmetic fails. -/
theorem step_unchoosable (h : Reachable cfg w) {event : Event}
    (hrun : step cfg event w = .error (.panic .balancer)) :
    ∃ choice : Choice ConnectionId, choice.Routed cfg.servers cfg.listenerGroups
      ∧ w.balancer.select choice.action = none := by
  cases event with
  | requestShutdown => cases hrun
  | loopTop world => exact (loopTop_panic hrun).elim
  | completed index completion dns world =>
      unfold step at hrun
      dsimp only at hrun
      cases hentry : w.inFlight[index]? with
      | none =>
          rw [hentry] at hrun
          cases hrun
      | some entry =>
          rw [hentry] at hrun
          dsimp only at hrun
          cases entry with
          | shutdownRead | cancel | proxyCancel => cases hrun
          | dnsRead => exact (processDnsResults_calm hrun).elim
          | timerRead => exact (checkProxyTimeouts_calm hrun).elim
          | accept => exact (handleAcceptCompletion_panic h.fitsU32_bufferSize hrun).elim
          -- the only entry whose turn may ask the balancer
          | operation id op =>
              obtain ⟨-, listener, choice, hrouted, hselect⟩ := runTurn_unchoosable hrun
              have hgroups : choice.Routed cfg.servers w.listenerGroups :=
                hrouted.mono (ownGroup_subset _ _)
              rw [h.listenerGroups] at hgroups
              exact ⟨choice, hgroups, hselect⟩

end Thwip.IoUring
