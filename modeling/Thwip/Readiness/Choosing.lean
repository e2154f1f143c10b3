/-
  Thwip.Readiness.Choosing — what a run of the readiness worker asks of its balancer
  and of the DNS threads.

  Only the answer to a request touches what its upstreams are chosen with: every
  other handler spares the balancer, the tasks and the forwarded requests.  A call
  is described by the choices it makes, so that calls compose as the lists do; a run
  from the start then has a list that accounts for the balancer, for every lookup and
  for every request that was forwarded.
-/
import Thwip.Choosing
import Thwip.Readiness.Escapes
import Thwip.Readiness.Responses

namespace Thwip.Readiness

open Thwip.Lib

variable {σ : Type} {cfg : Config σ} {env : Env σ} {event : TurnEvent} {t t₁ t₂ t' : Turn σ}
  {c : Connection σ} {w w' : ReadinessWorker σ} {i : Nat}

/-! ## §1. The ledger of a call. -/

/-- The servers a listening socket is for. -/
def RegisteredListener.group (self : RegisteredListener) : Nat × List Nat :=
  (self.defaultServer, self.serverIndices)

/-- What the trace says of requests. -/
def Act.request? : Act → Option RequestAct
  | .verdict (.dispatch request body) => some (.dispatched request body)
  | .proxied => some .proxied
  | .forwarding bytes => some (.forwarding bytes)
  | _ => none

/-- The requests of a trace: which were dispatched, sent to an action, and forwarded. -/
def requestActs (trace : List Act) : List RequestAct := trace.filterMap Act.request?

/-- Acts are appended, and so are their requests. -/
theorem requestActs_append (trace acts : List Act) :
    requestActs (trace ++ acts) = requestActs trace ++ requestActs acts :=
  List.filterMap_append

/-- What the DNS threads were asked. -/
def ResolveTask.lookup (self : ResolveTask) : ConnectionId × Str :=
  (self.connectionId, self.address)

/-- The turn as the calls for the balancer see it. -/
def Turn.ledger (t : Turn σ) : Ledger ConnectionId where
  id := t.id
  balancer := t.balancer
  lookups := t.tasks.map ResolveTask.lookup
  acts := requestActs t.log

/-- The books of the calls for the connections of a listener. -/
def books (env : Env σ) (listener : Nat) : Bookkeeping ConnectionId (Turn σ) Exit where
  ledger := Turn.ledger
  panicked := .panic .balancer
  servers := env.servers
  listenerGroups := ownGroup (env.listeners.map RegisteredListener.group) listener

/-- Nothing was done that the ledger shows: the balancer and the tasks are the same, and the
new acts say nothing of requests. -/
theorem spared {acts : List Act} (hsilent : Silent Act.request? acts) (hid : t'.id = t.id)
    (hbalancer : t'.balancer = t.balancer) (htasks : t'.tasks = t.tasks)
    (hlog : t'.log = t.log ++ acts) : (books env i).Spared t t' := by
  refine Ledger.Chose.nil hid hbalancer ?_ ?_ hsilent.filterMap
  · show t'.tasks.map _ = _
    rw [htasks]
    rfl
  · show requestActs t'.log = requestActs t.log ++ requestActs acts
    rw [hlog, requestActs_append]

/-- Nothing was done but to the connection, its flags and the metrics. -/
theorem spared_quiet (hid : t'.id = t.id) (hbalancer : t'.balancer = t.balancer)
    (htasks : t'.tasks = t.tasks) (hlog : t'.log = t.log) : (books env i).Spared t t' :=
  spared silent_nil hid hbalancer htasks (by rw [hlog, List.append_nil])

/-! ## §2. Handlers that make no choice. -/

section Sparing

variable (env)

/-- Dropping a connection sends its `close_notify` and notes its removal. -/
theorem drop_spared (tls : Rustls σ) (site : RemovalSite) (c : Connection σ) (t : Turn σ) :
    (books env i).Spared t (t.drop tls site c) :=
  spared (silent_single rfl) rfl rfl rfl rfl

/-- `remove_connection`, which looks for the connection once more. -/
theorem removeConnection_spared (site : RemovalSite) (t : Turn σ) :
    (books env i).Spared t (removeConnection env site t) := by
  unfold removeConnection
  split
  · exact .refl t
  next c _ =>
    split_ifs
    · exact drop_spared env _ site c t
    · exact .refl t

/-- A registration, and what follows its answer.  A token that cannot be made ends the
worker with an error that is not the balancer's. -/
theorem reregister_spares {f : Bool × Turn σ → Except Exit (Turn σ)}
    (hf : ∀ answer, (books env i).Spares answer.2 (f answer)) (interest : Interest) (t : Turn σ) :
    (books env i).Spares t (t.reregister env interest >>= f) := by
  unfold Turn.reregister
  cases htoken : t.id.token usizeBits .client with
  | error message =>
      show (Exit.io (some message)) ≠ .panic .balancer
      simp
  | ok token =>
      dsimp only
      split_ifs
      · exact hf (false, t)
      · -- the poller took the registration
        have hspared : (books env i).Spared t
            { t with interest, log := t.log ++ [.reregistered interest] } :=
          spared (silent_single rfl) rfl rfl rfl rfl
        exact (hf (true, _)).after hspared

/-- `reregister_client` removes the connection when the poller refuses. -/
theorem reregisterClient_spares (interest : Interest) (t : Turn σ) :
    (books env i).Spares t (reregisterClient env interest t) := by
  unfold reregisterClient
  split
  · show (Exit.panic .slab) ≠ .panic .balancer
    simp
  · refine reregister_spares env ?_ interest t
    rintro ⟨ok, t₁⟩
    cases ok with
    | true => exact .refl t₁
    | false => exact removeConnection_spared env .reregisterFailed t₁

/-- `queue_response` sets the response and asks for writability. -/
theorem queueResponse_spares (response : List UInt8) (t : Turn σ) :
    (books env i).Spares t (queueResponse env response t) := by
  unfold queueResponse
  split
  · exact .refl t
  next c _ =>
    split_ifs
    · exact .refl t
    · have hspared : (books env i).Spared t ((t.put (c.setResponse (boundedResponse env.limits response))).note
          [.queued (boundedResponse env.limits response)]) :=
        spared (silent_single rfl) rfl rfl rfl rfl
      refine Bookkeeping.Spares.after (reregister_spares env ?_ .write _) hspared
      rintro ⟨ok, t₁⟩
      cases ok with
      | true => exact .refl t₁
      | false => exact removeConnection_spared env .reregisterFailed t₁

/-- The head of a file. -/
theorem queueStaticResponse_spares (response : StaticStreamResponse) (t : Turn σ) :
    (books env i).Spares t (queueStaticResponse env response t) := by
  unfold queueStaticResponse
  split
  · exact .refl t
  · split_ifs
    · exact .refl t
    · refine (queueResponse_spares env response.head _).after ?_
      exact spared (silent_single rfl) rfl rfl rfl rfl

/-- A registration whose failure ends the worker. -/
theorem mustReregister_spares (interest : Interest) (t : Turn σ) :
    (books env i).Spares t (t.mustReregister env interest) := by
  unfold Turn.mustReregister
  refine reregister_spares env ?_ interest t
  rintro ⟨ok, t₁⟩
  cases ok with
  | true => exact .refl t₁
  | false =>
      show (Exit.io none) ≠ .panic .balancer
      simp

/-- The next message of a file: a chunk, nothing yet, its end or its failure. -/
theorem advanceStaticStream_spares (t : Turn σ) : (books env i).Spares t (advanceStaticStream env t) := by
  unfold advanceStaticStream
  split
  · exact .refl t
  · split_ifs
    · exact .refl t
    · split
      · show (Exit.panic .staticStream) ≠ .panic .balancer
        simp
      · split
        · refine (mustReregister_spares env .write _).after ?_
          exact spared (silent_single rfl) rfl rfl rfl rfl
        · exact (mustReregister_spares env .read _).after (spared_quiet rfl rfl rfl rfl)
        · have hcounted : (books env i).Spared t t.countResponse :=
            spared (silent_single rfl) rfl rfl rfl rfl
          exact hcounted.trans (removeConnection_spared env .streamFinished _)
        · have hcounted : (books env i).Spared t t.countError := spared_quiet rfl rfl rfl rfl
          exact hcounted.trans (removeConnection_spared env .streamFailed _)

/-- A client is closed at once, or after its session has been told. -/
theorem closeClient_spares (site : RemovalSite) (t : Turn σ) :
    (books env i).Spares t (closeClient env site t) := by
  unfold closeClient
  split
  · exact .refl t
  · split
    · exact .refl t
    · split
      · exact removeConnection_spared env site t
      · split_ifs
        · exact removeConnection_spared env site t
        · refine (reregisterClient_spares env .write _).after ?_
          exact spared (silent_single rfl) rfl rfl rfl rfl

/-- A failed exchange is answered, or cut off when its response has begun. -/
theorem failProxy_spares (status : Nat) (message : Str) (t : Turn σ) :
    (books env i).Spares t (failProxy env status message t) := by
  unfold failProxy
  split
  · exact .refl t
  next c _ =>
    -- the exchange is detached before anything is answered
    have hdetached : (books env i).Spared t { t.put c.detachProxy with
        upstreamReadScheduled := false, upstreamWriteScheduled := false } :=
      spared_quiet rfl rfl rfl rfl
    split_ifs
    · exact .refl t
    · dsimp only
      split_ifs
      · exact (queueResponse_spares env _ _).after hdetached
      · exact hdetached.trans (removeConnection_spared env .proxyFailed _)

/-- A lookup that failed is answered. -/
theorem failResolution_spares (status : Nat) (message : Str) (t : Turn σ) :
    (books env i).Spares t (failResolution env status message t) := by
  unfold failResolution
  split
  · exact .refl t
  · split_ifs
    · exact .refl t
    · exact queueResponse_spares env _ t

/-- A lookup is answered; it was asked for by a choice made before. -/
theorem finishResolution_spares (addresses : Option (List SocketAddr)) (t : Turn σ) :
    (books env i).Spares t (finishResolution env addresses t) := by
  unfold finishResolution
  split
  · exact .refl t
  next c _ =>
    split
    · exact .refl t
    · split
      · exact failResolution_spares env _ _ t
      · exact failResolution_spares env _ _ t
      · split
        · exact .refl t
        · -- the first address is connected to; failing that, an error is answered
          have hfail : (books env i).Spares t (queueResponse env
              (responseBytes 502 "upstream connection failed".toList) (t.put c.beginResponse)) :=
            (queueResponse_spares env _ _).after (spared_quiet rfl rfl rfl rfl)
          dsimp only
          split
          · exact hfail
          · split
            · show (Exit.io _) ≠ .panic .balancer
              simp
            · split_ifs
              · exact hfail
              · exact spared_quiet rfl rfl rfl rfl

/-- The write loop towards the upstream.  What it forwards is of the request that the
choice was made for. -/
theorem forwardRequest_spares (c : Connection σ) (proxy : ProxyState) (t : Turn σ) :
    (books env i).Spares t (forwardRequest env c proxy t) := by
  unfold forwardRequest
  dsimp only
  generalize forwardLoop env.now maxWritesPerEvent proxy env.upstreamWrites = pass
  -- what was written is noted first, however the loop ended
  have hforwarded : (books env i).Spared t ((t.put (c.afterForwarding env.now pass)).note
      (pass.forwarded.map Act.forwarded)) :=
    spared (silent_map (fun _ => rfl) _) rfl rfl rfl rfl
  split
  · exact hforwarded
  · exact (failProxy_spares env _ _ _).after hforwarded
  · exact hforwarded.trans (spared_quiet rfl rfl rfl rfl)
  · have hreading : (books env i).Spared t (((t.put (c.afterForwarding env.now pass)).note
        (pass.forwarded.map Act.forwarded)).put ((c.afterForwarding env.now pass).beginProxy
          (pass.proxy.transition env.now .readingResponse))) :=
      hforwarded.trans (spared_quiet rfl rfl rfl rfl)
    split
    · show (Exit.io _) ≠ .panic .balancer
      simp
    · split_ifs
      · exact (failProxy_spares env _ _ _).after hreading
      · exact hreading

/-- The upstream is writable, or has refused the connection. -/
theorem writeUpstreamRequest_spares (t : Turn σ) :
    (books env i).Spares t (writeUpstreamRequest env t) := by
  unfold writeUpstreamRequest
  split
  · exact .refl t
  · split_ifs
    · exact .refl t
    · split
      · exact .refl t
      · split
        · exact .refl t
        · split
          · show (Exit.io none) ≠ .panic .balancer
            simp
          · exact failProxy_spares env _ _ t
          · exact forwardRequest_spares env _ _ t
        · exact forwardRequest_spares env _ _ t

/-- The upstream has ended its stream. -/
theorem markUpstreamEof_spared (t : Turn σ) : (books env i).Spared t (markUpstreamEof env t) := by
  unfold markUpstreamEof
  split
  · exact .refl t
  next c _ =>
    split_ifs
    · exact .refl t
    · have hmarked : ∀ c' : Connection σ, (books env i).Spared t (t.put c') :=
        fun _ => spared_quiet rfl rfl rfl rfl
      dsimp only
      split_ifs
      · exact (hmarked _).trans (removeConnection_spared env .upstreamEof _)
      · exact hmarked _

/-- The upstream is readable. -/
theorem readUpstreamResponse_spares (t : Turn σ) :
    (books env i).Spares t (readUpstreamResponse env t) := by
  unfold readUpstreamResponse
  split
  · exact .refl t
  · split_ifs
    · exact .refl t
    · split
      · exact .refl t
      · split_ifs
        · exact .refl t
        · split
          · exact .refl t
          · exact .refl t
          · exact failProxy_spares env _ _ t
          · dsimp only
            split_ifs
            · exact markUpstreamEof_spared env t
            · refine (reregisterClient_spares env .write _).after ?_
              exact spared (silent_single rfl) rfl rfl rfl rfl

/-- A session in its handshake asks for both directions. -/
theorem flushHandshake_spares (t : Turn σ) : (books env i).Spares t (flushHandshake env t) := by
  unfold flushHandshake
  split
  · exact .refl t
  · split_ifs
    · exact reregisterClient_spares env .both t
    · exact .refl t

/-- A response was written whole. -/
theorem finishWrite_spares (c : Connection σ) (t : Turn σ) :
    (books env i).Spares t (finishWrite env c t) := by
  unfold finishWrite
  split
  · exact advanceStaticStream_spares env t
  · have hcounted : (books env i).Spared t t.countResponse :=
      spared (silent_single rfl) rfl rfl rfl rfl
    dsimp only
    split
    · exact (closeClient_spares env .delivered _).after hcounted
    · split_ifs
      · exact (closeClient_spares env .draining _).after hcounted
      · exact (closeClient_spares env .delivered _).after hcounted
      · refine Bookkeeping.Spares.after (Bookkeeping.Spares.bind (reregisterClient_spares env .read _) ?_)
          (hcounted.trans (spared_quiet rfl rfl rfl rfl))
        intro t₁
        exact spared_quiet rfl rfl rfl rfl

/-- The client is writable. -/
theorem writeReady_spares (t : Turn σ) : (books env i).Spares t (writeReady env t) := by
  unfold writeReady
  split
  · exact .refl t
  next c _ =>
    split_ifs
    · exact .refl t
    · exact reregisterClient_spares env .read t
    · dsimp only
      generalize writeLoop env.tls env.now maxWritesPerEvent c env.writes = pass
      -- the bytes of the write loop are counted and noted, however it ended
      have hwrote : (books env i).Spared t (((t.wroteBytes pass.bytesWritten).put pass.connection).note
          (pass.acts.map Act.write)) :=
        spared (silent_map (fun _ => rfl) _) rfl rfl rfl rfl
      split
      · exact hwrote
      · exact hwrote.trans (removeConnection_spared env .writeFailed _)
      · exact hwrote.trans (removeConnection_spared env .writerRefused _)
      · split_ifs
        · exact (finishWrite_spares env _ _).after
            (hwrote.trans (spared (silent_single rfl) rfl rfl rfl rfl))
        · exact (reregisterClient_spares env .read _).after
            (hwrote.trans (spared (silent_single rfl) rfl rfl rfl rfl))
        · exact hwrote.trans (spared_quiet rfl rfl rfl rfl)
        · exact hwrote

end Sparing

/-! ## §3. The answer to a request. -/

/-- `start_proxy` asks for the upstream that was chosen, or does not get that far. -/
theorem startProxy_asked (action : Action) {url : Str} {request : RequestHead} {body : List UInt8}
    {started : Bool} (hrun : startProxy env url request body t = .ok (started, t')) :
    ∃ asked, t.ledger.Asked t'.ledger ⟨t.id, request, body, action, .ok url, asked⟩ := by
  unfold startProxy at hrun
  split at hrun
  · injection hrun with hrun
    injection hrun with _ hrun
    exact ⟨false, hrun ▸ .refl t.ledger rfl⟩
  next upstream hparse =>
    dsimp only at hrun
    split at hrun
    · injection hrun with hrun
      injection hrun with _ hrun
      exact ⟨false, hrun ▸ .refl t.ledger rfl⟩
    · split at hrun
      · cases hrun
      next c _ =>
        -- whether it asks or not, the choice forwards the bytes that are noted
        have hupstream : ∀ asked, (⟨t.id, request, body, action, .ok url, asked⟩ :
            Choice ConnectionId).upstream = some upstream :=
          fun _ => Choice.upstream_of rfl hparse
        have hforwards : ∀ asked, ∀ bytes ∈ [upstream.requestBytes request body],
            (⟨t.id, request, body, action, .ok url, asked⟩ :
              Choice ConnectionId).forwards = some bytes := by
          intro asked bytes hbytes
          rw [List.mem_singleton.mp hbytes]
          unfold Choice.forwards
          rw [hupstream]
          rfl
        split at hrun
        · injection hrun with hrun
          injection hrun with _ hrun
          subst hrun
          exact ⟨false, rfl, rfl, (Ledger.Asked.refl t.ledger rfl).lookups, [_],
            requestActs_append _ _, hforwards false⟩
        · injection hrun with hrun
          injection hrun with _ hrun
          subst hrun
          -- the task goes to the end of those the DNS threads have
          refine ⟨true, rfl, rfl, ?_, [_], requestActs_append _ _, hforwards true⟩
          show List.map ResolveTask.lookup (t.tasks ++ _) = _
          unfold Choice.asks Choice.lookup
          rw [hupstream, List.map_append]
          rfl

/-- When `start_proxy` ends the worker, the arithmetic on the weights is not the reason. -/
theorem startProxy_error {url : Str} {request : RequestHead} {body : List UInt8} {exit : Exit}
    (hrun : startProxy env url request body t = .error exit) : exit ≠ .panic .balancer := by
  unfold startProxy at hrun
  split at hrun
  · cases hrun
  · dsimp only at hrun
    split at hrun
    · cases hrun
    · split at hrun
      · injection hrun with hrun
        rw [← hrun]
        simp
      · split at hrun <;> cases hrun

/-- A choice, once its request is in the trace. -/
theorem asked_chose {choice : Choice ConnectionId} {b : UpstreamBalancer}
    (h : ({ t.note [.proxied] with balancer := b } : Turn σ).ledger.Asked t'.ledger choice)
    (hid : choice.id = t.id)
    (hselect : t.balancer.select choice.action = some (choice.answer, b))
    (hrouted : choice.Routed env.servers (ownGroup (env.listeners.map RegisteredListener.group) i))
    (hrequest : .dispatched choice.request choice.body ∈ requestActs t.log) :
    (books env i).Chose t t' [choice] := by
  have hnoted : ({ t.note [.proxied] with balancer := b } : Turn σ).ledger
      = { t.ledger with balancer := b, acts := t.ledger.acts ++ [.proxied] } := by
    show Ledger.mk _ _ _ (requestActs (t.log ++ [.proxied])) = _
    rw [requestActs_append]
    rfl
  rw [hnoted] at h
  exact h.chose hid hselect hrouted hrequest

/-- A response is queued, and the flag of the handler says whether it goes on. -/
theorem respond_spares (env : Env σ) (goesOn : Bool) (response : List UInt8) (t : Turn σ) :
    (books env i).Spares t ((do let t ← queueResponse env response t; return (goesOn, t) :
      Except Exit (Bool × Turn σ)).map Prod.snd) := by
  have hqueued : (books env i).Spares t _ := queueResponse_spares env response t
  cases hresponse : queueResponse env response t with
  | ok t₁ =>
      rw [hresponse] at hqueued
      exact hqueued
  | error exit =>
      rw [hresponse] at hqueued
      exact hqueued

/-- **The answer to a request** makes at most one choice: that of the proxy action which the
listener has for it. -/
theorem answerRequest_chooses {request : RequestHead} {body : List UInt8}
    (hrequest : .dispatched request body ∈ requestActs t.log) :
    (books env i).Chooses t ((answerRequest env i request body t).map Prod.snd) := by
  unfold answerRequest
  split
  · show (Exit.io _) = .panic .balancer → _
    intro hexit
    cases hexit
  next listener hlistener =>
    dsimp only
    split
    · exact (respond_spares env _ _ t).chooses
    next server hserver =>
      split
      next upstream upstreamGroup upstreams policy hroute =>
        -- the action is the one this listener has for the request
        have hrouted : ∀ (id : ConnectionId) (answer : Except BalanceError Str) (asked : Bool),
            (⟨id, request, body, .proxy upstream upstreamGroup upstreams policy, answer, asked⟩ :
              Choice ConnectionId).Routed env.servers
                (ownGroup (env.listeners.map RegisteredListener.group) i) := by
          intro id answer asked
          refine ⟨⟨_, _, _, _, rfl⟩, listener.group, mem_ownGroup ?_, ?_⟩
          · rw [List.getElem?_map, hlistener]
            rfl
          unfold routedAction
          rw [show env.servers[selectServer listener.group.2 listener.group.1 request env.servers]?
            = some server from hserver]
          exact hroute
        split
        -- the arithmetic on the weights fails: the call panics
        next hselect =>
          intro _
          exact ⟨⟨t.id, request, body, _, .ok [], false⟩, hrouted _ _ _, hselect⟩
        -- no upstream can be had: the client gets an error
        next error b hselect =>
          have hasked : ({ t.note [.proxied] with balancer := b } : Turn σ).ledger.Asked
              ({ t.note [.proxied] with balancer := b } : Turn σ).ledger
              ⟨t.id, request, body, .proxy upstream upstreamGroup upstreams policy,
                .error error, false⟩ := .refl _ rfl
          have hchose := asked_chose hasked rfl hselect (hrouted _ _ _) hrequest
          exact (respond_spares env false _ _).following hchose
        -- an upstream was chosen; what starts the exchange asks for it by name
        next url b hselect =>
          cases hstart : startProxy env url request body
              { t.note [.proxied] with balancer := b } with
          | error exit =>
              intro hexit
              exact absurd hexit (startProxy_error hstart)
          | ok result =>
              obtain ⟨started, t₁⟩ := result
              obtain ⟨asked, hasked⟩ := startProxy_asked
                (.proxy upstream upstreamGroup upstreams policy) hstart
              have hchose := asked_chose hasked rfl hselect (hrouted _ _ _) hrequest
              cases started with
              | true => exact ⟨_, hchose⟩
              | false => exact (respond_spares env true _ t₁).following hchose
      -- files and configured responses are no matter of the balancer
      next directory _ =>
        split
        next response _ =>
          have hqueued : (books env i).Spares t _ := queueStaticResponse_spares env response t
          cases hresponse : queueStaticResponse env response t with
          | ok t₁ =>
              rw [hresponse] at hqueued
              exact ⟨[], hqueued⟩
          | error exit =>
              rw [hresponse] at hqueued
              exact fun hexit => absurd hexit hqueued
        · exact (respond_spares env _ _ t).chooses
      · exact (respond_spares env _ _ t).chooses

/-- What follows the flag makes no further choice. -/
theorem Chooses.bind_flag {x : Except Exit (Bool × Turn σ)}
    {f : Bool × Turn σ → Except Exit (Turn σ)} (h : (books env i).Chooses t (x.map Prod.snd))
    (hf : ∀ answer, (books env i).Spares answer.2 (f answer)) : (books env i).Chooses t (x >>= f) := by
  cases x with
  | ok answer =>
      obtain ⟨choices, hchose⟩ := h
      exact (hf answer).following hchose
  | error exit => exact h

/-- A verdict that dispatches is answered; its request is in the trace by then. -/
theorem answerVerdict_chooses {verdict : Option ReadVerdict}
    (hverdict : ∀ request body, verdict = some (.dispatch request body) →
      .dispatched request body ∈ requestActs t.log) :
    (books env i).Chooses t ((answerVerdict env i verdict t).map Prod.snd) := by
  unfold answerVerdict
  split
  · exact (respond_spares env true _ t).chooses
  next request body =>
    have hcounted : (books env i).Spared t t.countRequest := spared_quiet rfl rfl rfl rfl
    have hrequest : .dispatched request body ∈ requestActs t.countRequest.log := hverdict request body rfl
    exact (answerRequest_chooses hrequest).after hcounted
  · exact ⟨[], Bookkeeping.Spared.refl t⟩

/-- The client is readable: what it sent is read, and the last verdict answered. -/
theorem handleConnectionReady_chooses
    (hclient : ∀ c, t.connection = some c → c.listenerGroup = i) :
    (books env i).Chooses t (handleConnectionReady env t) := by
  unfold handleConnectionReady
  split
  · exact ⟨[], Bookkeeping.Spared.refl t⟩
  next c hconnection =>
    split
    · exact ⟨[], Bookkeeping.Spared.refl t⟩
    · dsimp only
      split
      · -- while an exchange is under way the bytes are read and dropped
        refine ⟨[], ?_⟩
        unfold clientDuringProxyReady
        dsimp only
        generalize connectionReady env.tls.toRustls env.limits env.now c env.reads = pass
        have hput : (books env i).Spared t (t.put pass.connection) := spared_quiet rfl rfl rfl rfl
        split_ifs
        · exact hput.trans (removeConnection_spared env _ _)
        · exact hput
      next hhandling =>
        -- reading leaves the connection on its listener
        have hown : (connectionReady env.tls.toRustls env.limits env.now c
            env.reads).connection.listenerGroup = i :=
          (connectionReady_readsOnly _ _ _ (by simpa using hhandling) _).sameClient.listenerGroup.trans
            (hclient c hconnection)
        generalize connectionReady env.tls.toRustls env.limits env.now c env.reads = pass at hown ⊢
        rw [hown]
        have hread : (books env i).Spared t (((t.readBytes pass.bytesRead).put pass.connection).note
            (pass.verdicts.map Act.verdict)) :=
          spared (silent_map (fun verdict => by cases verdict <;> rfl) _) rfl rfl rfl rfl
        refine Bookkeeping.Chooses.after (Chooses.bind_flag (answerVerdict_chooses ?_) ?_) hread
        · -- the last verdict is among those on the trace
          intro request body hlast
          refine List.mem_filterMap.mpr ⟨.verdict (.dispatch request body), ?_, rfl⟩
          exact List.mem_append_right _
            (List.mem_map_of_mem (List.mem_of_getLast? hlast))
        · rintro ⟨goesOn, t₁⟩
          cases goesOn with
          | false => exact .refl t₁
          | true =>
              refine (flushHandshake_spares env _).after ?_
              split_ifs
              · exact removeConnection_spared env _ t₁
              · exact .refl t₁

/-- **A call makes the choices that are known**, and only for a request it was sent. -/
theorem handleTurn_chooses (env : Env σ) (event : TurnEvent)
    (hclient : ∀ c, t.connection = some c → c.listenerGroup = i) :
    (books env i).Chooses t (handleTurn env event t) := by
  -- what a scheduled pass does first is to take its flag back
  have hscheduled : ∀ write upstreamWrite upstreamRead, (books env i).Spared t
      { t with writeScheduled := write, upstreamWriteScheduled := upstreamWrite
               upstreamReadScheduled := upstreamRead } :=
    fun _ _ _ => spared_quiet rfl rfl rfl rfl
  cases event with
  | connectionReady => exact handleConnectionReady_chooses hclient
  | writeReady due =>
      exact ((writeReady_spares env _).after
        (hscheduled _ t.upstreamWriteScheduled t.upstreamReadScheduled)).chooses
  | clientError =>
      refine ⟨[], ?_⟩
      unfold clientError
      split_ifs
      · have hcounted : (books env i).Spared t t.countError := spared_quiet rfl rfl rfl rfl
        exact hcounted.trans (removeConnection_spared env .clientError _)
      · exact removeConnection_spared env .clientError t
  | clientClosed half =>
      refine ⟨[], ?_⟩
      unfold clientClosed
      split
      · exact Bookkeeping.Spared.refl t
      · split_ifs
        · exact removeConnection_spared env _ t
        · exact Bookkeeping.Spared.refl t
  | upstreamError => exact (failProxy_spares env _ _ t).chooses
  | writeUpstream due =>
      exact ((writeUpstreamRequest_spares env _).after
        (hscheduled t.writeScheduled _ t.upstreamReadScheduled)).chooses
  | readUpstream due =>
      exact ((readUpstreamResponse_spares env _).after
        (hscheduled t.writeScheduled t.upstreamWriteScheduled _)).chooses
  | upstreamClosed =>
      refine ⟨[], ?_⟩
      split_ifs
      · exact hscheduled t.writeScheduled t.upstreamWriteScheduled true
      · exact Bookkeeping.Spared.refl t
  | resolved addresses => exact (finishResolution_spares env addresses t).chooses
  | resolutionExpired => exact (failResolution_spares env _ _ t).chooses
  | proxyExpired phase => exact (failProxy_spares env _ _ t).chooses
  | pump => exact (advanceStaticStream_spares env t).chooses
  | idle => exact ⟨[], removeConnection_spared env .idle t⟩
  | handshakeExpired => exact ⟨[], removeConnection_spared env .handshakeExpired t⟩
  | shutdown => exact ⟨[], removeConnection_spared env .shutdown t⟩
  | drainDeadline => exact ⟨[], removeConnection_spared env .drainDeadline t⟩

/-! ## §4. Runs. -/

/-- The choices back what the trace of a connection has, which came on this listener. -/
def BackedBy (cfg : Config σ) (listener : Nat) (choices : List (Choice ConnectionId))
    (id : ConnectionId) (trace : List Act) : Prop :=
  Backed cfg.servers (ownGroup cfg.listenerGroups listener) choices id (requestActs trace)

/-- How many of a connection's requests went to a proxy action. -/
def proxiedCount (trace : List Act) : Nat := proxiedIn (requestActs trace)

/-- The trace of the connection `id` has this, whether it is open or has been removed. -/
def ReadinessWorker.Noted (w : ReadinessWorker σ) (id : ConnectionId) (act : RequestAct) : Prop :=
  (∃ occ, w.connections.get id.slot = some occ ∧ occ.connection.generation = id.generation
    ∧ act ∈ requestActs occ.log)
  ∨ ∃ trace, .removed id trace ∈ w.history ∧ act ∈ requestActs trace

/-- The choices account for what the worker's upstreams were chosen with. -/
structure ReadinessWorker.Accounted (cfg : Config σ) (w : ReadinessWorker σ)
    (choices : List (Choice ConnectionId)) : Prop where
  listeners : w.listeners = cfg.listeners
  selects : Selects (.withGroups cfg.upstreamGroups) choices w.balancer
  lookups : w.tasks.map ResolveTask.lookup = choices.filterMap Choice.asks
  routed : ∀ choice ∈ choices, choice.Routed cfg.servers cfg.listenerGroups
  /-- Its request was dispatched on its connection. -/
  dispatched : ∀ choice ∈ choices, w.Noted choice.id (.dispatched choice.request choice.body)
  total : choices.length = w.weight proxiedCount
  live : ∀ slot occ, w.connections.get slot = some occ →
    BackedBy cfg occ.connection.listenerGroup choices ⟨slot, occ.connection.generation⟩ occ.log
  gone : ∀ id trace, .removed id trace ∈ w.history →
    ∃ listener, BackedBy cfg listener choices id trace

/-- A new worker has made no choice. -/
theorem accounted_new (h : ReadinessWorker.new cfg = .ok w) : w.Accounted cfg [] := by
  unfold ReadinessWorker.new at h
  split_ifs at h
  injection h with h
  subst h
  refine ⟨rfl, .nil _, rfl, ?_, ?_, rfl, ?_, ?_⟩
  · intro choice hmem
    cases hmem
  · intro choice hmem
    cases hmem
  · intro slot occ hget
    cases hget
  · intro id trace hmem
    cases hmem

/-- The listeners are for the servers that the configuration groups. -/
theorem listeners_group (cfg : Config σ) :
    cfg.listeners.map RegisteredListener.group = cfg.listenerGroups := by
  unfold Config.listeners
  rw [List.map_map]
  exact List.map_id _

/-- A turn's choices, of which there are none when the connection is gone. -/
theorem view_chooses {io : Io} {id : ConnectionId}
    (hclient : ∀ occ, w.connections.get id.slot = some occ → occ.connection.listenerGroup = i)
    (hrun : handleTurn (w.env cfg io) event (w.view id) = .ok t) :
    ∃ later, (books (w.env cfg io) i).Chose (w.view id) t later ∧ (later ≠ [] → w.Live id) := by
  by_cases hlive : w.Live id
  · have hview : ∀ c, (w.view id).connection = some c → c.listenerGroup = i := by
      intro c hc
      obtain ⟨occ, hget, rfl⟩ := Option.map_eq_some_iff.mp hc
      exact hclient occ hget
    have hchooses := handleTurn_chooses (w.env cfg io) event hview
    rw [hrun] at hchooses
    obtain ⟨later, hchose⟩ := hchooses
    exact ⟨later, hchose, fun _ => hlive⟩
  · obtain ⟨write, upstreamWrite, upstreamRead, hstale⟩ :=
      handleTurn_stale (w.env cfg io) event (view_stale hlive)
    rw [hstale] at hrun
    injection hrun with hrun
    subst hrun
    exact ⟨[], spared_quiet rfl rfl rfl rfl, fun hne => absurd rfl hne⟩

/-- A turn for a vacant slot leaves it vacant. -/
theorem vacant_turn {io : Io} {id : ConnectionId} (hget : w.connections.get id.slot = none)
    (hrun : handleTurn (w.env cfg io) event (w.view id) = .ok t) : t.connection = none := by
  have hgone : ¬ w.Live id := by
    rintro ⟨occ, hocc, -⟩
    rw [hget] at hocc
    cases hocc
  obtain ⟨write, upstreamWrite, upstreamRead, hstale⟩ :=
    handleTurn_stale (w.env cfg io) event (view_stale hgone)
  rw [hstale] at hrun
  injection hrun with hrun
  rw [← hrun]
  show (w.connections.get id.slot).map Occupant.connection = none
  rw [hget]
  rfl

/-- What was noted stays so while connections stay open with their traces and the history
grows. -/
theorem ReadinessWorker.Noted.mono {id : ConnectionId} {act : RequestAct} (h : w.Noted id act)
    (hopen : ∀ slot occ, w.connections.get slot = some occ →
      ∃ occ', w'.connections.get slot = some occ'
        ∧ occ'.connection.generation = occ.connection.generation ∧ occ'.log = occ.log)
    (hhistory : w.history ⊆ w'.history) : w'.Noted id act := by
  rcases h with ⟨occ, hget, hgen, hmem⟩ | ⟨trace, hgone, hmem⟩
  · obtain ⟨occ', hget', hgen', hlog⟩ := hopen id.slot occ hget
    exact .inl ⟨occ', hget', hgen'.trans hgen, by rw [hlog]; exact hmem⟩
  · exact .inr ⟨trace, hhistory hgone, hmem⟩

/-- What a turn notes is on the trace of its connection, open or removed. -/
theorem noted_commit {io : Io} {id : ConnectionId} {occ : Occupant σ} {act : RequestAct}
    (hget : w.connections.get id.slot = some occ)
    (hself : ∀ c', t.connection = some c' → c'.generation = occ.connection.generation)
    (hmem : act ∈ requestActs t.log) :
    (w.commit id event io t).Noted ⟨id.slot, occ.connection.generation⟩ act := by
  cases hc : t.connection with
  | none =>
      refine .inr ⟨t.log, List.mem_append_right _ ?_, hmem⟩
      unfold ReadinessWorker.turnItems
      rw [hget]
      dsimp only
      rw [hc, if_neg (by simp)]
      exact List.mem_cons_of_mem _ List.mem_cons_self
  | some c' =>
      refine .inl ⟨{ connection := c', interest := t.interest, polled := t.polled, log := t.log }, ?_,
        hself c' hc, hmem⟩
      rw [commit_get_self hget]
      unfold Turn.occupant
      rw [hc]
      rfl

/-- It stays so over a turn too, of its own connection or of another. -/
theorem ReadinessWorker.Noted.turn {io : Io} {id id' : ConnectionId} {act : RequestAct}
    (h : w.Noted id' act)
    (hself : ∀ occ c', w.connections.get id.slot = some occ → t.connection = some c' →
      c'.generation = occ.connection.generation)
    (hkeeps : requestActs (w.view id).log ⊆ requestActs t.log) :
    (w.commit id event io t).Noted id' act := by
  rcases h with ⟨occ, hget, hgen, hmem⟩ | ⟨trace, hgone, hmem⟩
  · by_cases hslot : id.slot = id'.slot
    · rw [← hslot] at hget
      have hid : (⟨id.slot, occ.connection.generation⟩ : ConnectionId) = id' := by rw [hslot, hgen]
      rw [← hid]
      refine noted_commit hget (fun c' hc' => hself occ c' hget hc') (hkeeps ?_)
      simpa [ReadinessWorker.view, hget] using hmem
    · exact .inl ⟨occ, by rw [commit_get_ne hslot]; exact hget, hgen, hmem⟩
  · exact .inr ⟨trace, List.mem_append_left _ hgone, hmem⟩

/-- **A turn keeps the accounts**: its choices go to the end of the list. -/
theorem ReadinessWorker.Accounted.turn {choices : List (Choice ConnectionId)}
    (h : w.Accounted cfg choices) {io : Io} {id : ConnectionId} (hstart : w.Startable id event)
    (hrun : w.runTurn cfg io id event = .ok w') : ∃ later, w'.Accounted cfg (choices ++ later) := by
  have hself : ∀ occ', w'.connections.get id.slot = some occ' →
      ∃ occ, w.connections.get id.slot = some occ
        ∧ SameClient occ.connection occ'.connection ∧ occ'.polled = occ.polled :=
    fun _ hget' => runTurn_get_self hstart hrun hget'
  obtain ⟨t, ht, rfl⟩ := runTurn_eq hrun
  obtain ⟨listener, hlistener⟩ : ∃ listener, ∀ occ, w.connections.get id.slot = some occ →
      occ.connection.listenerGroup = listener := by
    cases hget : w.connections.get id.slot with
    | none => exact ⟨0, fun occ hocc => by cases hocc⟩
    | some occ => exact ⟨occ.connection.listenerGroup, fun occ' hocc => by cases hocc; rfl⟩
  -- the choices of the turn, on the listeners of the configuration
  obtain ⟨later, hchosen, hlater⟩ := view_chooses hlistener ht
  have hchose : (w.view id).ledger.Chose cfg.servers (ownGroup cfg.listenerGroups listener)
      t.ledger later := by
    refine hchosen.regroup (fun _ => ?_)
    show ownGroup (w.listeners.map RegisteredListener.group) listener = _
    rw [h.listeners, listeners_group]
  have hbacked : ∀ occ, w.connections.get id.slot = some occ →
      BackedBy cfg listener (choices ++ later) ⟨id.slot, occ.connection.generation⟩ t.log := by
    intro occ hget
    have hold : BackedBy cfg listener choices ⟨id.slot, occ.connection.generation⟩
        (w.view id).log := by
      rw [view_log hget, ← hlistener occ hget]
      exact h.live id.slot occ hget
    refine Backed.call (l := (w.view id).ledger) hold hchose ?_
    intro hne
    obtain ⟨occ₁, hget₁, hgen⟩ := hlater hne
    obtain rfl : occ = occ₁ := Option.some.inj (hget.symm.trans hget₁)
    rw [hgen]
    rfl
  have hgenerations : ∀ occ c', w.connections.get id.slot = some occ → t.connection = some c' →
      c'.generation = occ.connection.generation := by
    intro occ c' hget hc'
    have hget' : (w.commit id event io t).connections.get id.slot
        = some { connection := c', interest := t.interest, polled := t.polled, log := t.log } := by
      rw [commit_get_self hget]
      unfold Turn.occupant
      rw [hc']
      rfl
    obtain ⟨occ₁, hget₁, hsame, -⟩ := hself _ hget'
    obtain rfl : occ = occ₁ := Option.some.inj (hget.symm.trans hget₁)
    exact hsame.generation
  refine ⟨later, h.listeners, h.selects.append hchose.selects, ?_, ?_, ?_, ?_, ?_, ?_⟩
  · -- what was looked up
    have hlookups : t.tasks.map ResolveTask.lookup
        = w.tasks.map ResolveTask.lookup ++ later.filterMap Choice.asks := hchose.lookups
    show t.tasks.map ResolveTask.lookup = _
    rw [hlookups, List.filterMap_append, ← h.lookups]
  · intro choice hmem
    rcases List.mem_append.mp hmem with hmem | hmem
    · exact h.routed choice hmem
    · exact (hchose.routed choice hmem).2.mono (ownGroup_subset _ _)
  · intro choice hmem
    rcases List.mem_append.mp hmem with hmem | hmem
    · exact (h.dispatched choice hmem).turn hgenerations hchose.keeps
    · -- a choice of this turn: its request is on the trace the turn leaves
      obtain ⟨occ, hget, hgen⟩ := hlater (List.ne_nil_of_mem hmem)
      have hid : choice.id = ⟨id.slot, occ.connection.generation⟩ := by
        rw [hgen]
        exact (hchose.routed choice hmem).1
      rw [hid]
      exact noted_commit hget (hgenerations occ · hget) (hchose.dispatched choice hmem)
  · -- how many choices: the trace of the slot grew by one for each
    rw [List.length_append, h.total]
    cases hget : w.connections.get id.slot with
    | none =>
        rw [weight_commit_vacant _ hget event io (vacant_turn hget ht)]
        have hnone : later = [] := by
          by_contra hne
          obtain ⟨occ, hocc, -⟩ := hlater hne
          rw [hget] at hocc
          cases hocc
        rw [hnone]
        rfl
    | some occ =>
        have hweight := weight_commit proxiedCount hget event io t
        have hgrown : proxiedCount t.log = proxiedCount (w.view id).log + later.length :=
          hchose.proxiedIn
        rw [view_log hget] at hgrown
        omega
  · -- the open connections: the one of the turn, and the others
    intro slot occ' hget'
    by_cases hslot : id.slot = slot
    · subst hslot
      obtain ⟨occ, hget, hsame, -⟩ := hself occ' hget'
      rw [commit_get_self hget] at hget'
      obtain ⟨c', -, rfl⟩ := Option.map_eq_some_iff.mp hget'
      have hown : c'.listenerGroup = listener := hsame.listenerGroup.trans (hlistener occ hget)
      have hgen : c'.generation = occ.connection.generation := hsame.generation
      show BackedBy cfg c'.listenerGroup _ ⟨id.slot, c'.generation⟩ t.log
      rw [hown, hgen]
      exact hbacked occ hget
    · rw [commit_get_ne hslot] at hget'
      exact (h.live slot occ' hget').mono later
  · -- the removed ones: those of before, and perhaps that of the turn
    intro id' trace hmem
    rcases List.mem_append.mp hmem with hmem | hmem
    · obtain ⟨own, hown⟩ := h.gone id' trace hmem
      exact ⟨own, hown.mono later⟩
    · obtain ⟨occ, hget, rfl, rfl, -⟩ := mem_turnItems hmem
      exact ⟨listener, hbacked occ hget⟩

/-- **Every part of a step keeps the accounts.**  Only turns make choices. -/
theorem ReadinessWorker.Accounted.atom {choices : List (Choice ConnectionId)}
    (h : w.Accounted cfg choices) (hatom : Atom cfg w w') :
    ∃ later, w'.Accounted cfg (choices ++ later) := by
  have hsame : w'.Accounted cfg choices → ∃ later, w'.Accounted cfg (choices ++ later) :=
    fun h' => ⟨[], by rw [List.append_nil]; exact h'⟩
  cases hatom with
  | turn io id event hstart hrun => exact h.turn hstart hrun
  | registered now vacantKey registrationFails hlistener hroom =>
      rename_i index listener
      refine hsame ?_
      -- an accepted client: refused, dropped at its registration, or in a vacant slot
      have hgone : ∀ id id' trace, .removed id' trace ∈ w.history ++ [.registered id] →
          ∃ listener, BackedBy cfg listener choices id' trace := by
        intro id id' trace hmem
        rcases List.mem_append.mp hmem with hmem | hmem
        · exact h.gone id' trace hmem
        · cases List.mem_singleton.mp hmem
      rcases registerConnection_cases now vacantKey registrationFails index listener w rfl with
        heq | ⟨id, hslot, -, heq | ⟨connection, interest, -, -, heq⟩⟩
      · rw [heq]
        exact h
      · rw [heq]
        refine ⟨h.listeners, h.selects, h.lookups, h.routed, ?_, ?_, h.live, hgone id⟩
        · intro choice hmem
          exact (h.dispatched choice hmem).mono (fun slot occ hget => ⟨occ, hget, rfl, rfl⟩)
            (List.subset_append_left _ _)
        · unfold ReadinessWorker.weight
          rw [List.map_append, List.sum_append]
          exact h.total
      · have hvacant : w.connections.get id.slot = none := by
          rw [hslot]
          exact Slab.get_vacantKey _ _
        have hle : id.slot ≤ w.connections.length := by
          rw [hslot]
          exact Slab.vacantKey_le _ _
        rw [heq]
        refine ⟨h.listeners, h.selects, h.lookups, h.routed, ?_, ?_, ?_, hgone id⟩
        · intro choice hmem
          refine (h.dispatched choice hmem).mono ?_ (List.subset_append_left _ _)
          intro slot occ hget
          have hother : id.slot ≠ slot := by
            rintro rfl
            rw [hvacant] at hget
            cases hget
          exact ⟨occ, by rw [Slab.get_insertAt_ne hle hother]; exact hget, rfl, rfl⟩
        · unfold ReadinessWorker.weight
          rw [Slab.total_insertAt hvacant, List.map_append, List.sum_append]
          exact h.total
        intro slot occ hget
        by_cases hself : id.slot = slot
        · subst hself
          rw [Slab.get_insertAt_self hle] at hget
          injection hget with hget
          subst hget
          exact backed_new choices _
        · rw [Slab.get_insertAt_ne hle hself] at hget
          exact h.live slot occ hget
  | polled =>
      -- a poll changes what is known of the sockets, and no trace
      refine hsame ⟨h.listeners, h.selects, h.lookups, h.routed, ?_,
        h.total.trans (weight_polled proxiedCount).symm, ?_, h.gone⟩
      · intro choice hmem
        refine (h.dispatched choice hmem).mono ?_ (List.Subset.refl _)
        intro slot occ hget
        exact ⟨occ.poll, by rw [poll_get, hget]; rfl, rfl, rfl⟩
      · intro slot occ' hget'
        rw [poll_get] at hget'
        obtain ⟨occ, hget, rfl⟩ := Option.map_eq_some_iff.mp hget'
        exact h.live slot occ hget
  | other =>
      exact hsame
        ⟨h.listeners, h.selects, h.lookups, h.routed, h.dispatched, h.total, h.live, h.gone⟩

/-- A run of them has a list of choices. -/
theorem accounted_atoms {choices : List (Choice ConnectionId)} (h : w.Accounted cfg choices)
    (hpath : Atoms cfg w w') : ∃ choices', w'.Accounted cfg choices' := by
  induction hpath with
  | refl => exact ⟨choices, h⟩
  | tail _ hatom ih =>
      obtain ⟨choices', h'⟩ := ih
      obtain ⟨later, hlater⟩ := h'.atom hatom
      exact ⟨_, hlater⟩

/-- **Every run is accounted for.** -/
theorem Reachable.accounted (h : Reachable cfg w) : ∃ choices, w.Accounted cfg choices := by
  obtain ⟨w₀, hnew, hpath⟩ := h.atoms
  exact accounted_atoms (accounted_new hnew) hpath

/-! ## §5. Panics. -/

/-- A call that panics does so in the balancer, for a request that the listener routes. -/
theorem runTurn_panic {io : Io} {id : ConnectionId} {site : PanicSite} (h : Enlisted w)
    (hstart : w.Startable id event)
    (hrun : w.runTurn cfg io id event = .error (.panic site)) :
    ∃ listener, (books (w.env cfg io) listener).Unchoosable (w.view id) := by
  by_cases hlive : w.Live id
  · obtain ⟨occ, hget, hgen⟩ := hlive
    -- the panic is that of the handler
    have hturn : handleTurn (w.env cfg io) event (w.view id) = .error (.panic site) := by
      unfold ReadinessWorker.runTurn at hrun
      split at hrun
      next exit hexit =>
        injection hrun with hrun
        rw [hexit, hrun]
      · cases hrun
    -- an error that escapes carries a message, so it is no panic
    by_cases hescapes : Escapes (w.env cfg io) (w.view id) occ.connection event = true
    · obtain ⟨message, hmessage⟩ := passedOn_of_escapes h hget hgen hescapes
      rw [hmessage] at hrun
      cases hrun
    · rw [Bool.not_eq_true] at hescapes
      obtain ⟨htoken, hgroup⟩ := h id.slot occ hget
      have hid : (w.view id).id.Tokened := by
        rw [hgen] at htoken
        exact htoken
      rcases handleTurn_stays (view_current hget hgen) (hstart occ hget hgen) hid hgroup hescapes
        with ⟨hpanic, -⟩ | ⟨t, hok, -⟩
      · have hview : ∀ c, (w.view id).connection = some c →
            c.listenerGroup = occ.connection.listenerGroup := by
          intro c hc
          obtain ⟨occ', hget', rfl⟩ := Option.map_eq_some_iff.mp hc
          rw [hget] at hget'
          injection hget' with hget'
          rw [hget']
        have hchooses := handleTurn_chooses (w.env cfg io) event hview
        rw [hpanic] at hchooses
        exact ⟨_, hchooses rfl⟩
      · rw [hok] at hturn
        cases hturn
  · obtain ⟨write, upstreamWrite, upstreamRead, hstale⟩ :=
      handleTurn_stale (w.env cfg io) event (view_stale hlive)
    rw [runTurn_of_ok hstale] at hrun
    cases hrun

/-- **A step of a run panics only where the arithmetic on the weights fails**, for a request
that a listener routes to that action. -/
theorem step_panic {site : PanicSite} (h : Reachable cfg w) {event : Event}
    (hrun : step cfg event w = .error (.panic site)) :
    ∃ (choices : List (Choice ConnectionId)) (b : UpstreamBalancer),
      Selects (.withGroups cfg.upstreamGroups) choices b
        ∧ ∃ choice : Choice ConnectionId, choice.Routed cfg.servers cfg.listenerGroups
          ∧ b.select choice.action = none := by
  rcases step_raises hrun with hreturned | ⟨w₁, id, call, index, hpath, hstart, hraised⟩
  · cases hreturned
  · obtain ⟨choices, hold⟩ := h.accounted
    obtain ⟨choices₁, hnow⟩ := accounted_atoms hold hpath.atoms
    obtain ⟨listener, choice, hrouted, hselect⟩ :=
      runTurn_panic (h.enlisted.ticks hpath) hstart hraised
    have hgroups : choice.Routed cfg.servers (w₁.listeners.map RegisteredListener.group) :=
      hrouted.mono (ownGroup_subset _ _)
    rw [hnow.listeners, listeners_group] at hgroups
    exact ⟨choices₁, _, hnow.selects, choice, hgroups, hselect⟩

end Thwip.Readiness
