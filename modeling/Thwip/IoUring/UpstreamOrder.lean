/-
  Thwip.IoUring.UpstreamOrder — the order of upstream operations.

  A proxied request goes through its phases with one upstream operation at a
  time; while response bytes are being sent to the client none is in flight, and
  the completion of that send asks for more.  The handler of client sends does
  not know which send has completed: when TLS protocol bytes drain before the
  response has started, it submits an upstream receive out of turn.  Excluding
  this, every upstream submission finds the socket and the phase it is made for.
-/
import Thwip.IoUring.Panics

namespace Thwip.IoUring

open Thwip.Lib

variable {σ : Type} {cfg : Config σ} {env : Env σ}

/-! ## §1. The guard. -/

/-- A completed send of `result` bytes leaves nothing to transmit. -/
def UringConnection.drains (tls : Rustls σ) (c : UringConnection σ) (result : Int) : Bool :=
  0 < result && decide (result.toNat ≤ c.unsent.length)
    && (c.advance result.toNat).outputDrained tls

/-- No client send drains on a proxied connection before the response has
started, and no connection is inserted under an id with operations in flight. -/
def drainsAfterResponseStart (cfg : Config σ) : HistoryItem σ → Bool
  | .turn id (.write _ result) _ (some c) =>
      !(c.matchesGeneration id.generation && c.markWriteCompleted.drains cfg.tls result
        && c.staticStream.isNone && c.proxy.any (fun proxy => !proxy.responseStarted))
  | .inserted _ stale => stale.isEmpty
  | _ => true

/-! ## §2. The invariant. -/

/-- The state of a proxied request with the upstream operations in flight. -/
inductive ProxyState (c : UringConnection σ) : List ConnectionOp → Prop where
  | absent (hproxy : c.proxy = none) : ProxyState c []
  | resolving (proxy : UringProxy) (hproxy : c.proxy = some proxy)
      (hstream : c.staticStream = none) (hphase : proxy.phase = .resolving)
      (hpending : proxy.operationPending = false) (hstarted : proxy.responseStarted = false) :
      ProxyState c []
  | waiting (proxy : UringProxy) (op : ConnectionOp) (hproxy : c.proxy = some proxy)
      (hstream : c.staticStream = none) (hupstream : proxy.upstream.isSome = true)
      (hpending : proxy.operationPending = true) (hphase : proxy.phase.kind = some op.kind)
      (hstarted : proxy.responseStarted = true →
        proxy.phase = .readingResponse ∧ c.writePending = false) : ProxyState c [op]
  | forwarding (proxy : UringProxy) (hproxy : c.proxy = some proxy)
      (hstream : c.staticStream = none) (hupstream : proxy.upstream.isSome = true)
      (hpending : proxy.operationPending = false) (hphase : proxy.phase = .readingResponse)
      (hstarted : proxy.responseStarted = true) : ProxyState c []

/-- The flags of the client's operations agree with what is in flight. -/
structure ClientOps (c : UringConnection σ) (ops : List ConnectionOp) : Prop where
  recvs : ops.countP ConnectionOp.isRecv = if c.readPending then 1 else 0
  sends : ops.countP ConnectionOp.isSend = if c.writePending then 1 else 0
  reading : c.readPending = true → c.proxy = none ∧ c.staticStream = none

/-- The invariant of a connection and its operations. -/
structure InOrder (c : UringConnection σ) (ops : List ConnectionOp) : Prop extends
    ClientOps c ops where
  state : ProxyState c (ops.filter ConnectionOp.isUpstream)

/-- A proxied request excludes a receive. -/
theorem ClientOps.readPending_of_proxy {c : UringConnection σ} {ops : List ConnectionOp}
    (h : ClientOps c ops) {proxy : UringProxy} (hproxy : c.proxy = some proxy) :
    c.readPending = false := by
  cases hread : c.readPending with
  | false => rfl
  | true => cases (h.reading hread).1.symm.trans hproxy

/-- Without a proxied request nothing is in flight upstream. -/
theorem ProxyState.of_noProxy {c : UringConnection σ} {ups : List ConnectionOp}
    (h : ProxyState c ups) (hproxy : c.proxy = none) : ups = [] := by
  cases h with
  | waiting _ _ hp => cases hproxy.symm.trans hp
  | _ => rfl

/-- Every call of an upstream submission found a socket and its own phase. -/
def GoodCalls (log : List Act) : Prop :=
  ∀ kind proxy, Act.submitProxy kind proxy ∈ log →
    proxy.upstream.isSome = true ∧ proxy.phase.kind = some kind

theorem GoodCalls.append {log acts : List Act} (h : GoodCalls log) (h' : GoodCalls acts) :
    GoodCalls (log ++ acts) := by
  intro kind proxy hmem
  rcases List.mem_append.mp hmem with hmem | hmem
  · exact h kind proxy hmem
  · exact h' kind proxy hmem

theorem goodCalls_nil : GoodCalls [] := fun _ _ hmem => absurd hmem List.not_mem_nil

theorem goodCalls_notes {acts : List Act} (h : ∀ act ∈ acts, act.isNote = true) :
    GoodCalls acts := by
  intro kind proxy hmem
  cases h _ hmem

/-! ## §3. Final calls. -/

section FinalCalls

variable {c c₁ c' : UringConnection σ} {clears : Nat} {next : Next}
  {ops pushed : List ConnectionOp} {acts : List Act}

/-- Fields that decide the order of operations. -/
structure SameOrder (c c₁ : UringConnection σ) : Prop where
  readPending : c₁.readPending = c.readPending
  writePending : c₁.writePending = c.writePending
  proxy : c₁.proxy = c.proxy
  staticStream : c₁.staticStream = c.staticStream

theorem ClientOps.congr (h : ClientOps c ops) (hsame : SameOrder c c₁) : ClientOps c₁ ops := by
  refine ⟨?_, ?_, ?_⟩
  · rw [hsame.readPending]
    exact h.recvs
  · rw [hsame.writePending]
    exact h.sends
  · rw [hsame.readPending, hsame.proxy, hsame.staticStream]
    exact h.reading

theorem ProxyState.congr (h : ProxyState c ops) (hwrite : c₁.writePending = c.writePending)
    (hproxy : c₁.proxy = c.proxy) (hstream : c₁.staticStream = c.staticStream) :
    ProxyState c₁ ops := by
  cases h with
  | absent h => exact .absent (hproxy.trans h)
  | resolving proxy hp hs hphase hpending hstarted =>
      exact .resolving proxy (hproxy.trans hp) (hstream.trans hs) hphase hpending hstarted
  | waiting proxy op hp hs hupstream hpending hphase hstarted =>
      exact .waiting proxy op (hproxy.trans hp) (hstream.trans hs) hupstream hpending hphase
        (by rw [hwrite]; exact hstarted)
  | forwarding proxy hp hs hupstream hpending hphase hstarted =>
      exact .forwarding proxy (hproxy.trans hp) (hstream.trans hs) hupstream hpending hphase
        hstarted

theorem InOrder.congr (h : InOrder c ops) (hsame : SameOrder c c₁) : InOrder c₁ ops :=
  ⟨h.toClientOps.congr hsame,
    h.state.congr hsame.writePending hsame.proxy hsame.staticStream⟩

theorem fillOutput_sameOrder (h : c.fillOutput env.tls = some (c₁, acts)) : SameOrder c c₁ := by
  rcases fillOutput_cases h with ⟨rfl, -, -⟩ | ⟨_, _, _, _, -, -, -, rfl, -⟩
  · exact ⟨rfl, rfl, rfl, rfl⟩
  · exact ⟨rfl, rfl, rfl, rfl⟩

theorem fillOutput_goodCalls (h : c.fillOutput env.tls = some (c₁, acts)) : GoodCalls acts := by
  intro kind proxy hmem
  rcases fillOutput_cases h with ⟨-, rfl, -⟩ | ⟨_, _, _, _, -, -, -, -, rfl⟩
  · cases hmem
  · simp at hmem

/-- A send may start unless a started response waits for its upstream. -/
theorem InOrder.send (h : InOrder c ops)
    (hquiet : ∀ proxy, c.proxy = some proxy → proxy.operationPending = true →
      proxy.responseStarted = false)
    (hfinish : Finish env clears c .send c' pushed acts) :
    InOrder c' (ops ++ pushed) ∧ GoodCalls acts := by
  cases hfinish with
  | sendBusy => exact ⟨by rw [List.append_nil]; exact h, goodCalls_nil⟩
  | sendIdle c₁ acts _ hfill _ =>
      rw [List.append_nil]
      exact ⟨h.congr (fillOutput_sameOrder hfill), fillOutput_goodCalls hfill⟩
  | sent c₁ acts hfree hfill _ =>
      refine ⟨?_, fillOutput_goodCalls hfill⟩
      have hsame := fillOutput_sameOrder hfill
      have h₁ : InOrder c₁ ops := h.congr hsame
      have hsends := h.sends
      rw [hfree] at hsends
      refine ⟨⟨?_, ?_, h₁.reading⟩, ?_⟩
      · rw [List.countP_append, h₁.recvs]
        rfl
      · rw [List.countP_append, hsends]
        rfl
      · rw [List.filter_append]
        show ProxyState _ (ops.filter ConnectionOp.isUpstream ++ [])
        rw [List.append_nil]
        have hquiet₁ : ∀ proxy, c₁.proxy = some proxy → proxy.operationPending = true →
            proxy.responseStarted = false := by
          rw [hsame.proxy]
          exact hquiet
        have hstate := h₁.state
        generalize ops.filter ConnectionOp.isUpstream = ups at hstate
        cases hstate with
        | absent hp => exact .absent hp
        | resolving proxy hp hs hphase hpending hstarted =>
            exact .resolving proxy hp hs hphase hpending hstarted
        | waiting proxy op hp hs hupstream hpending hphase hstarted =>
            refine .waiting proxy op hp hs hupstream hpending hphase (fun htrue => ?_)
            rw [hquiet₁ proxy hp hpending] at htrue
            cases htrue
        | forwarding proxy hp hs hupstream hpending hphase hstarted =>
            exact .forwarding proxy hp hs hupstream hpending hphase hstarted
  | upstream _ _ hkind => cases hkind

theorem InOrder.recv (h : InOrder c ops) (hproxy : c.proxy = none)
    (hstream : c.staticStream = none) (hfinish : Finish env clears c .recv c' pushed acts) :
    InOrder c' (ops ++ pushed) ∧ GoodCalls acts := by
  cases hfinish with
  | recvBusy => exact ⟨by rw [List.append_nil]; exact h, goodCalls_nil⟩
  | recv hfree =>
      have hrecvs := h.recvs
      rw [hfree] at hrecvs
      refine ⟨⟨⟨?_, ?_, fun _ => ⟨hproxy, hstream⟩⟩, ?_⟩, fun _ _ hm => by simp at hm⟩
      · rw [List.countP_append, hrecvs]
        rfl
      · rw [List.countP_append, h.sends]
        rfl
      · rw [List.filter_append]
        show ProxyState _ (ops.filter ConnectionOp.isUpstream ++ [])
        rw [List.append_nil]
        exact h.state.congr rfl rfl rfl
  | upstream _ _ hkind => cases hkind

theorem InOrder.done (h : InOrder c ops) (hfinish : Finish env clears c .done c' pushed acts) :
    InOrder c' (ops ++ pushed) ∧ GoodCalls acts := by
  cases hfinish with
  | done => exact ⟨by rw [List.append_nil]; exact h, goodCalls_nil⟩
  | upstream _ _ hkind => cases hkind

/-- The connection is ready for the upstream submission `next`. -/
structure Submits (c : UringConnection σ) (ops : List ConnectionOp) (next : Next)
    (proxy : UringProxy) : Prop extends ClientOps c ops where
  found : c.proxy = some proxy
  stream : c.staticStream = none
  upstream : proxy.upstream.isSome = true
  address : next = .connect → proxy.address.isSome = true
  phase : proxy.phase.kind = next.upstreamKind
  started : proxy.responseStarted = true → proxy.phase = .readingResponse ∧ c.writePending = false
  idle : ops.filter ConnectionOp.isUpstream = []

theorem Submits.finish {proxy : UringProxy} (h : Submits c ops next proxy)
    (hsome : next.upstreamKind.isSome = true)
    (hfinish : Finish env clears c next c' pushed acts) :
    InOrder c' (ops ++ pushed) ∧ GoodCalls acts := by
  cases hfinish with
  | upstream _ op hkind proxy' hproxy' hupstream =>
      rw [h.found] at hproxy'
      cases hproxy'
      have hphase : proxy.phase.kind = some op.kind := h.phase.trans hkind
      have hidle : c.readPending = false := h.toClientOps.readPending_of_proxy h.found
      have hop : op.isUpstream = true := by
        cases op with
        | recv => cases next <;> cases hkind
        | send => cases next <;> cases hkind
        | _ => rfl
      have hclient : op.isRecv = false ∧ op.isSend = false := by
        cases op <;> first | exact ⟨rfl, rfl⟩ | cases hop
      refine ⟨⟨⟨?_, ?_, fun hread => ?_⟩, ?_⟩, ?_⟩
      · rw [List.countP_append, h.recvs, List.countP_singleton, hclient.1]
        rfl
      · rw [List.countP_append, h.sends, List.countP_singleton, hclient.2]
        rfl
      · exact absurd (hidle.symm.trans hread) (by decide)
      · rw [List.filter_append, h.idle]
        simp only [List.filter_cons, hop, if_true, List.filter_nil, List.nil_append]
        exact .waiting proxy.submitted op rfl h.stream h.upstream rfl hphase h.started
      · intro kind proxy' hmem
        simp only [List.mem_singleton, Act.submitProxy.injEq] at hmem
        obtain ⟨rfl, rfl⟩ := hmem
        exact ⟨h.upstream, hphase⟩
  | _ => cases hsome

end FinalCalls

/-! ## §4. Moves. -/

section Moves

variable {c c₁ : UringConnection σ} {ops ops₀ : List ConnectionOp} {next : Next}
  {acts : List Act}

/-- Where a move has brought the connection before its final call. -/
inductive Planned (c₁ : UringConnection σ) (ops₀ : List ConnectionOp) : Next → Prop where
  | done (h : InOrder c₁ ops₀) : Planned c₁ ops₀ .done
  | send (h : InOrder c₁ ops₀)
      (hquiet : ∀ proxy, c₁.proxy = some proxy → proxy.operationPending = true →
        proxy.responseStarted = false) : Planned c₁ ops₀ .send
  | recv (h : InOrder c₁ ops₀) (hproxy : c₁.proxy = none) (hstream : c₁.staticStream = none) :
      Planned c₁ ops₀ .recv
  | submits (next : Next) (hsome : next.upstreamKind.isSome = true) (proxy : UringProxy)
      (h : Submits c₁ ops₀ next proxy) : Planned c₁ ops₀ next
  | exit (reason : Exit) : Planned c₁ ops₀ (.exit reason)

theorem Planned.finish {c' : UringConnection σ} {clears : Nat} {pushed : List ConnectionOp}
    (h : Planned c₁ ops₀ next) (hfinish : Finish env clears c₁ next c' pushed acts) :
    InOrder c' (ops₀ ++ pushed) ∧ GoodCalls acts := by
  cases h with
  | done h => exact h.done hfinish
  | send h hquiet => exact h.send hquiet hfinish
  | recv h hproxy hstream => exact h.recv hproxy hstream hfinish
  | submits _ hsome proxy h => exact h.finish hsome hfinish
  | exit reason => cases hfinish with
      | upstream _ _ hkind => cases hkind

theorem Planned.fit (h : Planned c₁ ops₀ next) (hsome : next.upstreamKind.isSome = true) :
    next.Fit c₁ := by
  cases h with
  | submits _ _ proxy h => exact ⟨proxy, h.found, h.upstream, h.address⟩
  | _ => cases hsome

/-- Sends that answer with an error end the proxied request. -/
theorem ClientOps.answered (h : ClientOps c ops₀)
    (hidle : ops₀.filter ConnectionOp.isUpstream = []) (response : List UInt8) :
    Planned ({ c with proxy := none }.queueResponse response) ops₀ .send := by
  have hclient : ClientOps ({ c with proxy := none }.queueResponse response) ops₀ :=
    ⟨h.recvs, h.sends, fun hread => ⟨rfl, (h.reading hread).2⟩⟩
  refine .send ⟨hclient, ?_⟩ (fun proxy hp => by cases hp)
  rw [hidle]
  exact .absent rfl

theorem ClientOps.fail (h : ClientOps c ops₀)
    (hidle : ops₀.filter ConnectionOp.isUpstream = [])
    (hmove : FailMove c next (some c₁) acts) : Planned c₁ ops₀ next := by
  cases hmove with
  | answered response => exact h.answered hidle response

theorem ClientOps.address (h : ClientOps c ops₀)
    (hidle : ops₀.filter ConnectionOp.isUpstream = []) (hstream : c.staticStream = none)
    (hread : c.readPending = false) {proxy : UringProxy} (hphase : proxy.phase = .connecting)
    (hstarted : proxy.responseStarted = false)
    (hmove : AddressMove env c proxy next (some c₁) acts) : Planned c₁ ops₀ next := by
  cases hmove with
  | found address socket addresses _ =>
      refine .submits .connect rfl (proxy.connectTo env.now socket address addresses) ?_
      refine { recvs := h.recvs, sends := h.sends, reading := ?_, found := rfl
               stream := hstream, upstream := rfl, address := fun _ => rfl, phase := ?_
               started := ?_, idle := hidle }
      · intro htrue
        exact absurd (hread.symm.trans htrue) (by decide)
      · show proxy.phase.kind = _
        rw [hphase]
        rfl
      · intro htrue
        exact absurd (hstarted.symm.trans htrue) (by decide)
  | exhausted response => exact h.answered hidle response

/-- A stream excludes a receive and a proxied request. -/
theorem InOrder.of_stream (h : InOrder c ops₀) (hsome : c.staticStream.isSome = true) :
    c.readPending = false ∧ c.proxy = none := by
  constructor
  · cases hread : c.readPending with
    | false => rfl
    | true =>
        rw [(h.reading hread).2] at hsome
        cases hsome
  · have hstate := h.state
    generalize ops₀.filter ConnectionOp.isUpstream = ups at hstate
    cases hstate with
    | absent hp => exact hp
    | resolving _ _ hs => rw [hs] at hsome; cases hsome
    | waiting _ _ _ hs => rw [hs] at hsome; cases hsome
    | forwarding _ _ hs => rw [hs] at hsome; cases hsome

theorem InOrder.stream (h : InOrder c ops₀) (hsome : c.staticStream.isSome = true)
    (hmove : StreamMove c next (some c₁) acts) : Planned c₁ ops₀ next := by
  obtain ⟨hread, hnone⟩ := h.of_stream hsome
  have hidle : ops₀.filter ConnectionOp.isUpstream = [] := h.state.of_noProxy hnone
  cases hmove with
  | data stream bytes _ =>
      have hclient : ClientOps ({ c with staticStream := some stream }.queueResponse bytes)
          ops₀ := by
        refine ⟨h.recvs, h.sends, fun htrue => ?_⟩
        exact absurd (hread.symm.trans htrue) (by decide)
      refine .send ⟨hclient, ?_⟩ ?_
      · rw [hidle]
        exact .absent hnone
      · intro proxy hp
        cases hnone.symm.trans hp
  | pending => exact .done h

/-- Without a proxied request a send is always in order. -/
theorem InOrder.planSend (h : InOrder c ops₀) (hproxy : c.proxy = none) :
    Planned c ops₀ .send :=
  .send h (fun proxy hp => by cases hproxy.symm.trans hp)

theorem InOrder.answer (h : InOrder c ops₀) (hproxy : c.proxy = none)
    (hstream : c.staticStream = none) (hread : c.readPending = false)
    (hmove : AnswerMove env c next (some c₁) acts) : Planned c₁ ops₀ next := by
  have hidle : ops₀.filter ConnectionOp.isUpstream = [] := h.state.of_noProxy hproxy
  cases hmove with
  | respond response =>
      exact InOrder.planSend (h.congr ⟨rfl, rfl, rfl, rfl⟩) hproxy
  | static stream head _ =>
      refine InOrder.planSend ⟨⟨h.recvs, h.sends, fun htrue => ?_⟩, ?_⟩ hproxy
      · exact absurd (hread.symm.trans htrue) (by decide)
      · rw [hidle]
        exact .absent hproxy
  | proxyError response => exact h.toClientOps.answered hidle response
  | resolving requestBuffer =>
      refine .done ⟨⟨h.recvs, h.sends, fun htrue => ?_⟩, ?_⟩
      · exact absurd (hread.symm.trans htrue) (by decide)
      · rw [hidle]
        exact .resolving _ rfl hstream rfl rfl rfl
  | balancerPanic => exact .exit _

theorem receiveRequest_sameOrder {limits : WorkerLimits} {received : List UInt8}
    {verdict : ReadVerdict} (h : c.receiveRequest limits received = (c₁, verdict)) :
    SameOrder c c₁ := by
  obtain ⟨_, _, _, rfl⟩ := receiveRequest_frame h
  exact ⟨rfl, rfl, rfl, rfl⟩

theorem InOrder.plaintext (h : InOrder c ops₀) (hproxy : c.proxy = none)
    (hstream : c.staticStream = none) (hread : c.readPending = false) {received : List UInt8}
    (hmove : PlaintextMove env received c next (some c₁) acts) : Planned c₁ ops₀ next := by
  cases hmove with
  | empty => exact .recv h hproxy hstream
  | waiting _ hreceive =>
      have hsame := receiveRequest_sameOrder hreceive
      exact .recv (h.congr hsame) (hsame.proxy.trans hproxy) (hsame.staticStream.trans hstream)
  | rejected c₂ _ _ response _ hreceive =>
      have hsame := receiveRequest_sameOrder hreceive
      have h₂ : InOrder ({ c₂ with pendingRequest := none }.queueResponse response) ops₀ :=
        (h.congr hsame).congr ⟨rfl, rfl, rfl, rfl⟩
      exact h₂.planSend (hsame.proxy.trans hproxy)
  | dispatched _ _ _ _ _ _ hreceive hanswer =>
      have hsame := receiveRequest_sameOrder hreceive
      exact (h.congr hsame).answer (hsame.proxy.trans hproxy)
        (hsame.staticStream.trans hstream) (hsame.readPending.trans hread) hanswer

theorem advance_sameOrder (c : UringConnection σ) (n : Nat) : SameOrder c (c.advance n) := by
  unfold UringConnection.advance
  split_ifs <;> exact ⟨rfl, rfl, rfl, rfl⟩

/-- The moves of a completed send; `c` no longer has it pending. -/
theorem InOrder.written (h : InOrder c ops₀) (hwrite : c.writePending = false)
    (hquiet : ∀ proxy, c.proxy = some proxy → proxy.operationPending = true →
      proxy.responseStarted = false) {submitted : List UInt8} {result : Int}
    (hguard : c.drains env.tls result = true → c.staticStream = none →
      ∀ proxy, c.proxy = some proxy → proxy.responseStarted = true)
    (hmove : WriteMove env submitted result c next (some c₁) acts) : Planned c₁ ops₀ next := by
  have hadvance := advance_sameOrder c result.toNat
  cases hmove with
  | retry => exact .send h hquiet
  | more => exact .send (h.congr hadvance) (by rw [hadvance.proxy]; exact hquiet)
  | stream _ _ _ hstream _ _ _ hmove =>
      have h₁ : InOrder (c.advance result.toNat).clearOutput ops₀ :=
        (h.congr hadvance).congr ⟨rfl, rfl, rfl, rfl⟩
      refine h₁.stream ?_ hmove
      show (c.advance result.toNat).staticStream.isSome = true
      rw [hadvance.staticStream]
      exact hstream
  | proxy hpos hlen hdrained hstream proxy hproxy =>
      have hdrains : c.drains env.tls result = true := by
        simp [UringConnection.drains, hpos, hlen, hdrained]
      have hstarted := hguard hdrains hstream proxy hproxy
      have hread : c.readPending = false := h.readPending_of_proxy hproxy
      refine .submits .proxyRead rfl (proxy.recordProgress env.now) ?_
      have hstate := h.state
      generalize hups : ops₀.filter ConnectionOp.isUpstream = ups at hstate
      -- only a connection that forwards its response is left
      cases hstate with
      | absent hp => cases hp.symm.trans hproxy
      | resolving proxy' hp _ _ _ hfalse =>
          cases hp.symm.trans hproxy
          cases hfalse.symm.trans hstarted
      | waiting proxy' op hp _ _ hpending =>
          cases hp.symm.trans hproxy
          cases (hquiet proxy hproxy hpending).symm.trans hstarted
      | forwarding proxy' hp _ hupstream _ hphase =>
          cases hp.symm.trans hproxy
          refine { recvs := ?_, sends := ?_, reading := ?_, found := rfl, stream := ?_
                   upstream := hupstream, address := ?_, phase := ?_, started := ?_
                   idle := hups }
          · show _ = if (c.advance result.toNat).readPending then 1 else 0
            rw [hadvance.readPending]
            exact h.recvs
          · show _ = if (c.advance result.toNat).writePending then 1 else 0
            rw [hadvance.writePending]
            exact h.sends
          · intro htrue
            cases (hadvance.readPending.trans hread).symm.trans htrue
          · exact hadvance.staticStream.trans hstream
          · intro hconnect
            cases hconnect
          · show proxy.phase.kind = _
            rw [hphase]
            rfl
          · intro _
            exact ⟨hphase, hadvance.writePending.trans hwrite⟩
  | close _ _ _ _ hproxy ssl =>
      have h₁ : InOrder ((c.advance result.toNat).setSsl (ssl.close env.tls)) ops₀ :=
        (h.congr hadvance).congr ⟨rfl, rfl, rfl, rfl⟩
      exact h₁.planSend (hadvance.proxy.trans hproxy)

end Moves

/-! ## §5. Completions. -/

section Completions

variable {c : UringConnection σ} {before after : List ConnectionOp}

theorem ClientOps.readPending {length : Nat} (h : ClientOps c (before ++ .recv length :: after)) :
    c.readPending = true := by
  have hrecvs := h.recvs
  simp only [List.countP_append, List.countP_cons, ConnectionOp.isRecv, if_true] at hrecvs
  by_contra hfalse
  rw [if_neg hfalse] at hrecvs
  omega

theorem ClientOps.writePending {buffer : List UInt8} {offset clears : Nat}
    (h : ClientOps c (before ++ .send buffer offset clears :: after)) : c.writePending = true := by
  have hsends := h.sends
  simp only [List.countP_append, List.countP_cons, ConnectionOp.isSend, if_true] at hsends
  by_contra hfalse
  rw [if_neg hfalse] at hsends
  omega

theorem InOrder.recvCompleted {length : Nat} (h : InOrder c (before ++ .recv length :: after)) :
    c.proxy = none ∧ c.staticStream = none ∧ InOrder c.markReadCompleted (before ++ after) := by
  have hread := h.toClientOps.readPending
  have hrecvs := h.recvs
  have hsends := h.sends
  have hstate := h.state
  simp only [List.countP_append, List.countP_cons, ConnectionOp.isRecv, ConnectionOp.isSend,
    if_true, if_false, Bool.false_eq_true, Nat.add_zero] at hrecvs hsends
  simp only [List.filter_append, List.filter_cons, ConnectionOp.isUpstream, ConnectionOp.kind,
    OperationKind.isUpstream, Bool.false_eq_true, if_false] at hstate
  rw [if_pos hread] at hrecvs
  obtain ⟨hproxy, hstream⟩ := h.reading hread
  refine ⟨hproxy, hstream, ⟨⟨?_, ?_, ?_⟩, ?_⟩⟩
  · rw [List.countP_append]
    show _ = 0
    omega
  · rw [List.countP_append]
    exact hsends
  · intro htrue
    cases htrue
  · rw [List.filter_append]
    exact hstate.congr rfl rfl rfl

theorem InOrder.sendCompleted {buffer : List UInt8} {offset clears : Nat}
    (h : InOrder c (before ++ .send buffer offset clears :: after)) :
    (∀ proxy, c.proxy = some proxy → proxy.operationPending = true →
      proxy.responseStarted = false) ∧ InOrder c.markWriteCompleted (before ++ after) := by
  have hwrite := h.toClientOps.writePending
  have hrecvs := h.recvs
  have hsends := h.sends
  have hstate := h.state
  simp only [List.countP_append, List.countP_cons, ConnectionOp.isRecv, ConnectionOp.isSend,
    if_true, if_false, Bool.false_eq_true, Nat.add_zero] at hrecvs hsends
  simp only [List.filter_append, List.filter_cons, ConnectionOp.isUpstream, ConnectionOp.kind,
    OperationKind.isUpstream, Bool.false_eq_true, if_false] at hstate
  rw [if_pos hwrite] at hsends
  rw [← List.filter_append] at hstate
  generalize hups : (before ++ after).filter _ = ups at hstate
  refine ⟨?_, ⟨⟨?_, ?_, h.reading⟩, ?_⟩⟩
  · intro proxy hp hpending
    cases hstate with
    | absent hproxy => cases hproxy.symm.trans hp
    | resolving proxy' hproxy _ _ hfalse =>
        cases hproxy.symm.trans hp
        cases hfalse.symm.trans hpending
    | waiting proxy' op hproxy _ _ _ _ hstarted =>
        cases hproxy.symm.trans hp
        by_contra htrue
        cases hwrite.symm.trans (hstarted (by simpa using htrue)).2
    | forwarding proxy' hproxy _ _ hfalse =>
        cases hproxy.symm.trans hp
        cases hfalse.symm.trans hpending
  · rw [List.countP_append]
    exact hrecvs
  · rw [List.countP_append]
    show _ = 0
    omega
  · show ProxyState _ ((before ++ after).filter ConnectionOp.isUpstream)
    have hups' : (before ++ after).filter ConnectionOp.isUpstream = ups := hups
    rw [hups']
    cases hstate with
    | absent hp => exact .absent hp
    | resolving proxy hp hs hphase hpending hstarted =>
        exact .resolving proxy hp hs hphase hpending hstarted
    | waiting proxy op hp hs hupstream hpending hphase hstarted =>
        exact .waiting proxy op hp hs hupstream hpending hphase
          (fun htrue => ⟨(hstarted htrue).1, rfl⟩)
    | forwarding proxy hp hs hupstream hpending hphase hstarted =>
        exact .forwarding proxy hp hs hupstream hpending hphase hstarted

/-- What is known when an upstream operation completes. -/
structure UpstreamDone (c : UringConnection σ) (op : ConnectionOp) (ops₀ : List ConnectionOp)
    (proxy : UringProxy) : Prop where
  found : c.proxy = some proxy
  stream : c.staticStream = none
  read : c.readPending = false
  upstream : proxy.upstream.isSome = true
  pending : proxy.operationPending = true
  phase : proxy.phase.kind = some op.kind
  started : proxy.responseStarted = true → proxy.phase = .readingResponse ∧ c.writePending = false
  idle : ops₀.filter ConnectionOp.isUpstream = []
  client : ∀ proxy', ClientOps (c.setProxy proxy') ops₀

theorem InOrder.upstreamCompleted {op : ConnectionOp} (hop : op.isUpstream = true)
    (h : InOrder c (before ++ op :: after)) :
    ∃ proxy, UpstreamDone c op (before ++ after) proxy := by
  have hkinds : op.isRecv = false ∧ op.isSend = false := by
    cases op <;> first | exact ⟨rfl, rfl⟩ | cases hop
  have hrecvs := h.recvs
  have hsends := h.sends
  have hstate := h.state
  simp only [List.countP_append, List.countP_cons, hkinds.1, hkinds.2, if_false,
    Bool.false_eq_true, Nat.add_zero] at hrecvs hsends
  simp only [List.filter_append, List.filter_cons, hop, if_true] at hstate
  generalize hups : before.filter ConnectionOp.isUpstream ++ op ::
    after.filter ConnectionOp.isUpstream = ups at hstate
  have hmem : op ∈ ups := by rw [← hups]; simp
  cases hstate with
  | absent => cases hmem
  | resolving => cases hmem
  | forwarding => cases hmem
  | waiting proxy op' hproxy hstream hupstream hpending hphase hstarted =>
      have hlen := congrArg List.length hups
      simp only [List.length_append, List.length_cons, List.length_nil] at hlen
      have hbefore : before.filter ConnectionOp.isUpstream = [] :=
        List.length_eq_zero_iff.mp (by omega)
      have hafter : after.filter ConnectionOp.isUpstream = [] :=
        List.length_eq_zero_iff.mp (by omega)
      rw [List.mem_singleton.mp hmem]
      have hread : c.readPending = false := h.readPending_of_proxy hproxy
      refine ⟨proxy, ⟨hproxy, hstream, hread, hupstream, hpending, hphase, hstarted, ?_, ?_⟩⟩
      · rw [List.filter_append, hbefore, hafter]
        rfl
      · intro proxy'
        refine ⟨?_, ?_, ?_⟩
        · rw [List.countP_append]
          exact hrecvs
        · rw [List.countP_append]
          exact hsends
        · intro htrue
          cases hread.symm.trans htrue

end Completions

/-! ## §6. Turns. -/

/-- The upstream operation whose completion is handled. -/
def TurnEvent.upstreamKind : TurnEvent → Option OperationKind
  | .proxyConnect _ => some .proxyConnect
  | .proxyWrite .. => some .proxyWrite
  | .proxyRead .. => some .proxyRead
  | _ => none

section Turns

variable {now : Instant} {id : ConnectionId} {event : TurnEvent} {c c₁ : UringConnection σ}
  {ops ops₀ : List ConnectionOp} {next : Next} {acts : List Act}

theorem InOrder.upstreamReady (h : InOrder c ops) (hready : Ready cfg now c event ops ops₀)
    {kind : OperationKind} (hevent : event.upstreamKind = some kind) :
    ∃ op proxy, op.kind = kind ∧ UpstreamDone c op ops₀ proxy := by
  have hcompletion : event.isCompletion = true := by
    cases event <;> first | rfl | cases hevent
  obtain ⟨op, completion, before, after, rfl, rfl, rfl⟩ := hready.of_completion hcompletion
  have hkind : op.kind = kind ∧ op.isUpstream = true := by
    cases op <;> first | (cases hevent; done) | exact ⟨Option.some.inj hevent, rfl⟩
  obtain ⟨proxy, hdone⟩ := h.upstreamCompleted hkind.2
  exact ⟨op, proxy, hkind.1, hdone⟩

/-- The next upstream operation follows. -/
theorem UpstreamDone.submits {op : ConnectionOp} {proxy proxy' : UringProxy}
    (h : UpstreamDone c op ops₀ proxy) (hsome : next.upstreamKind.isSome = true)
    (hconnect : next ≠ .connect) (hupstream : proxy'.upstream = proxy.upstream)
    (hphase : proxy'.phase.kind = next.upstreamKind)
    (hstarted : proxy'.responseStarted = true →
      proxy'.phase = .readingResponse ∧ c.writePending = false) :
    Planned (c.setProxy proxy') ops₀ next :=
  .submits next hsome proxy'
    { toClientOps := h.client proxy', found := rfl, stream := h.stream
      upstream := by rw [hupstream]; exact h.upstream
      address := fun heq => absurd heq hconnect
      phase := hphase, started := hstarted, idle := h.idle }

/-- Before the response phase no response has started. -/
theorem UpstreamDone.notStarted {op : ConnectionOp} {proxy : UringProxy}
    (h : UpstreamDone c op ops₀ proxy) (hkind : op.kind ≠ .proxyRead) :
    proxy.responseStarted = false := by
  cases hstarted : proxy.responseStarted with
  | false => rfl
  | true =>
      have hphase := h.phase
      rw [(h.started hstarted).1] at hphase
      exact absurd (Option.some.inj hphase).symm hkind

theorem guard_started {submitted : List UInt8} {result : Int}
    (hgen : c.generation = id.generation)
    (hguard : drainsAfterResponseStart cfg (.turn id (.write submitted result) world (some c)) = true)
    (hdrains : c.markWriteCompleted.drains cfg.tls result = true)
    (hstream : c.staticStream = none) {proxy : UringProxy} (hproxy : c.proxy = some proxy) :
    proxy.responseStarted = true := by
  simpa [drainsAfterResponseStart, UringConnection.matchesGeneration, hgen, hdrains, hstream,
    hproxy] using hguard

theorem ready_ne_accepted (h : Ready cfg now c .accepted ops ops₀) : False := by
  rcases h.completed_or with ⟨op, completion, _, _, hevent, -, -⟩ |
    ⟨-, ⟨_, hevent⟩ | hsel | hsel | hsel⟩
  · cases op <;> cases hevent
  · cases hevent
  · obtain ⟨-, _, -, hevent⟩ := proxyExpired_some hsel
    cases hevent
  · cases (handshakeOverdue_some hsel).1
  · cases (pumpReady_some hsel).1

theorem Ready.of_resolved {addresses : Option (List SocketAddr)}
    (h : Ready cfg now c (.resolved addresses) ops ops₀) : ops₀ = ops := by
  rcases h.completed_or with ⟨op, completion, _, _, hevent, -, -⟩ | ⟨heq, -⟩
  · cases op <;> cases hevent
  · exact heq

/-- While the name is being resolved nothing is in flight upstream. -/
theorem InOrder.of_resolving (h : InOrder c ops) {proxy : UringProxy}
    (hproxy : c.proxy = some proxy) (hphase : proxy.phase = .resolving) :
    ops.filter ConnectionOp.isUpstream = [] ∧ c.staticStream = none ∧ c.readPending = false
      ∧ proxy.responseStarted = false := by
  have hread : c.readPending = false := h.readPending_of_proxy hproxy
  have hstate := h.state
  generalize ops.filter ConnectionOp.isUpstream = ups at hstate
  cases hstate with
  | absent hp => cases hp.symm.trans hproxy
  | resolving proxy' hp hstream _ _ hstarted =>
      cases hp.symm.trans hproxy
      exact ⟨rfl, hstream, hread, hstarted⟩
  | waiting proxy' op hp _ _ _ hkind =>
      cases hp.symm.trans hproxy
      rw [hphase] at hkind
      cases hkind
  | forwarding proxy' hp _ _ _ hreading =>
      cases hp.symm.trans hproxy
      cases hphase.symm.trans hreading

/-- A proxy without a pending operation has none in flight. -/
theorem InOrder.of_idleProxy (h : InOrder c ops) {proxy : UringProxy}
    (hproxy : c.proxy = some proxy) (hpending : proxy.operationPending = false) :
    ops.filter ConnectionOp.isUpstream = [] := by
  have hstate := h.state
  generalize ops.filter ConnectionOp.isUpstream = ups at hstate
  cases hstate with
  | waiting proxy' op hp _ _ htrue =>
      cases hp.symm.trans hproxy
      cases hpending.symm.trans htrue
  | _ => rfl

/-- **Every move keeps the order.** -/
theorem InOrder.planned (henv : env.toConfig = cfg) (hgen : c.generation = id.generation)
    (hguard : drainsAfterResponseStart cfg (.turn id event world (some c)) = true)
    (hready : Ready cfg now c event ops ops₀) (h : InOrder c ops)
    (hmove : Move env event c next (some c₁) acts) : Planned c₁ ops₀ next := by
  subst henv
  cases hmove with
  | accepted => exact (ready_ne_accepted hready).elim
  | recvBroken => exact .exit _
  | upstreamBroken => exact .exit _
  | expiredMissing => exact .exit _
  | pumpMissing => exact .exit _
  | recvRetry =>
      obtain ⟨op, completion, before, after, hevent, rfl, rfl⟩ := hready.of_completion rfl
      cases op with
      | recv length =>
          obtain ⟨hproxy, hstream, h₀⟩ := h.recvCompleted
          exact .recv h₀ hproxy hstream
      | _ => cases hevent
  | write hmove =>
      obtain ⟨buffer, offset, clears, before, after, -, rfl, rfl⟩ := hready.of_write
      obtain ⟨hquiet, h₀⟩ := h.sendCompleted
      exact h₀.written rfl hquiet
        (fun hdrains hstream proxy hproxy => guard_started hgen hguard hdrains hstream hproxy)
        hmove
  | noProxy hevent hnone =>
      cases event with
      | resolved addresses =>
          rw [hready.of_resolved]
          exact .done h
      | proxyConnect result =>
          obtain ⟨op, proxy, -, hdone⟩ := h.upstreamReady hready rfl
          cases hnone.symm.trans hdone.found
      | proxyWrite _ result =>
          obtain ⟨op, proxy, -, hdone⟩ := h.upstreamReady hready rfl
          cases hnone.symm.trans hdone.found
      | proxyRead result bufferId contents =>
          obtain ⟨op, proxy, -, hdone⟩ := h.upstreamReady hready rfl
          cases hnone.symm.trans hdone.found
      | _ => cases hevent
  | connectFailed proxy hproxy _ hmove =>
      obtain ⟨op, proxy', -, hdone⟩ := h.upstreamReady hready rfl
      exact (hdone.client _).fail hdone.idle hmove
  | connectNext proxy hproxy hmove =>
      obtain ⟨op, proxy', hkind, hdone⟩ := h.upstreamReady hready rfl
      cases hdone.found.symm.trans hproxy
      have hconnecting : proxy.completed.phase = .connecting :=
        phase_of_kind (hdone.phase.trans (congrArg some hkind))
      exact (hdone.client _).address hdone.idle hdone.stream hdone.read hconnecting
        (hdone.notStarted (by rw [hkind]; decide)) hmove
  | connected proxy hproxy =>
      obtain ⟨op, proxy', hkind, hdone⟩ := h.upstreamReady hready rfl
      cases hdone.found.symm.trans hproxy
      refine hdone.submits rfl (by decide) rfl rfl (fun hstarted => ?_)
      cases (hdone.notStarted (by rw [hkind]; decide)).symm.trans hstarted
  | writeFailed proxy hproxy _ hmove =>
      obtain ⟨op, proxy', -, hdone⟩ := h.upstreamReady hready rfl
      exact (hdone.client _).fail hdone.idle hmove
  | writeRetry proxy hproxy =>
      obtain ⟨op, proxy', hkind, hdone⟩ := h.upstreamReady hready rfl
      cases hdone.found.symm.trans hproxy
      exact hdone.submits rfl (by decide) rfl (hdone.phase.trans (congrArg some hkind))
        hdone.started
  | wroteSome proxy hproxy =>
      obtain ⟨op, proxy', hkind, hdone⟩ := h.upstreamReady hready rfl
      cases hdone.found.symm.trans hproxy
      exact hdone.submits rfl (by decide) rfl (hdone.phase.trans (congrArg some hkind))
        hdone.started
  | wroteAll proxy hproxy =>
      obtain ⟨op, proxy', hkind, hdone⟩ := h.upstreamReady hready rfl
      cases hdone.found.symm.trans hproxy
      refine hdone.submits rfl (by decide) rfl rfl (fun hstarted => ?_)
      cases (hdone.notStarted (by rw [hkind]; decide)).symm.trans hstarted
  | readFailed proxy hproxy _ hmove =>
      obtain ⟨op, proxy', -, hdone⟩ := h.upstreamReady hready rfl
      exact (hdone.client _).fail hdone.idle hmove
  | readRetry proxy hproxy =>
      obtain ⟨op, proxy', hkind, hdone⟩ := h.upstreamReady hready rfl
      cases hdone.found.symm.trans hproxy
      exact hdone.submits rfl (by decide) rfl (hdone.phase.trans (congrArg some hkind))
        hdone.started
  | chunk proxy hproxy bytes _ =>
      obtain ⟨op, proxy', hkind, hdone⟩ := h.upstreamReady hready rfl
      cases hdone.found.symm.trans hproxy
      have hclient := hdone.client (proxy.completed.received env.now)
      refine .send ⟨⟨hclient.recvs, hclient.sends, hclient.reading⟩, ?_⟩ ?_
      · rw [hdone.idle]
        exact .forwarding _ rfl hdone.stream hdone.upstream rfl
          (phase_of_kind (hdone.phase.trans (congrArg some hkind))) rfl
      · intro proxy' hp hpending
        cases hp
        cases hpending
  | notResolving =>
      rw [hready.of_resolved]
      exact .done h
  | unresolved proxy hproxy hphase response _ =>
      rw [hready.of_resolved]
      exact h.toClientOps.answered (h.of_resolving hproxy hphase).1 response
  | resolved addresses proxy hproxy hphase hmove =>
      rw [hready.of_resolved]
      obtain ⟨hidle, hstream, hread, hstarted⟩ := h.of_resolving hproxy hphase
      have hclient : ∀ proxy', ClientOps (c.setProxy proxy') ops := fun proxy' =>
        ⟨h.recvs, h.sends, fun htrue => by cases hread.symm.trans htrue⟩
      exact (hclient _).address hidle hstream hread rfl (by exact hstarted) hmove
  | expiredIdle hmove =>
      obtain ⟨rfl, -, proxy, hproxy, -, hpending⟩ := hready.of_expired
      exact h.toClientOps.fail (h.of_idleProxy hproxy hpending.symm) hmove
  | expiredPending proxy hproxy _ hnext =>
      rcases hnext with rfl | rfl
      · obtain ⟨rfl, -, proxy', hproxy', -, hpending⟩ := hready.of_expired
        cases hproxy'.symm.trans hproxy
        have hread : c.readPending = false := h.readPending_of_proxy hproxy
        refine .done ⟨⟨h.recvs, h.sends, fun htrue => by cases hread.symm.trans htrue⟩, ?_⟩
        have hstate := h.state
        generalize ops₀.filter ConnectionOp.isUpstream = ups at hstate
        cases hstate with
        | absent hp => cases hp.symm.trans hproxy
        | resolving _ hp _ _ hfalse =>
            cases hp.symm.trans hproxy
            cases hfalse.symm.trans hpending.symm
        | waiting _ op hp hstream hupstream htrue hphase hstarted =>
            cases hp.symm.trans hproxy
            exact .waiting _ op rfl hstream hupstream htrue hphase hstarted
        | forwarding _ hp _ _ hfalse =>
            cases hp.symm.trans hproxy
            cases hfalse.symm.trans hpending.symm
      · exact .exit _
  | pump hsome hmove =>
      obtain ⟨rfl, -⟩ := hready.of_pump
      exact h.stream hsome hmove

end Turns

/-! ## §7. Every run. -/

section Intake

variable {c c₁ c' : UringConnection σ} {received plaintext : List UInt8} {next : Next}
  {acts : List Act}

theorem Intake.sameOrder (h : Intake env received c next c₁ plaintext acts) :
    SameOrder c c₁ := by
  cases h <;> exact ⟨rfl, rfl, rfl, rfl⟩

theorem Intake.flush (h : Intake env received c next c₁ plaintext acts) :
    next = .send ∨ next = .done := by
  cases h with
  | plain => exact .inr rfl
  | tls ssl ssl' _ _ _ _ _ hnext =>
      rw [hnext]
      split_ifs
      · exact .inl rfl
      · exact .inr rfl

theorem Intake.goodCalls (h : Intake env received c next c₁ plaintext acts) :
    GoodCalls acts := by
  intro kind proxy hmem
  cases h <;> simp at hmem

theorem Intake.plan {ops₀ : List ConnectionOp}
    (h : Intake env received c next c₁ plaintext acts) (horder : InOrder c₁ ops₀)
    (hproxy : c₁.proxy = none) : Planned c₁ ops₀ next := by
  rcases h.flush with rfl | rfl
  · exact horder.planSend hproxy
  · exact .done horder

/-- A flush leaves the request alone. -/
theorem Finish.sameOrder {clears : Nat} {pushed : List ConnectionOp}
    (h : Finish env clears c next c' pushed acts) (hflush : next = .send ∨ next = .done) :
    c'.proxy = c.proxy ∧ c'.staticStream = c.staticStream ∧ c'.readPending = c.readPending := by
  cases h with
  | done => exact ⟨rfl, rfl, rfl⟩
  | sendBusy => exact ⟨rfl, rfl, rfl⟩
  | sendIdle c₁ acts _ hfill =>
      have hsame := fillOutput_sameOrder hfill
      exact ⟨hsame.proxy, hsame.staticStream, hsame.readPending⟩
  | sent c₁ acts _ hfill =>
      have hsame := fillOutput_sameOrder hfill
      exact ⟨hsame.proxy, hsame.staticStream, hsame.readPending⟩
  | recvBusy => exact ⟨rfl, rfl, rfl⟩
  | recv => rcases hflush with hflush | hflush <;> cases hflush
  | upstream _ _ hkind => rcases hflush with rfl | rfl <;> cases hkind

/-- … and submits nothing upstream. -/
theorem Finish.flushed {clears : Nat} {pushed : List ConnectionOp}
    (h : Finish env clears c next c' pushed acts) (hflush : next = .send ∨ next = .done) :
    GoodCalls acts ∧ pushed.filter ConnectionOp.isUpstream = [] := by
  cases h with
  | done => exact ⟨goodCalls_nil, rfl⟩
  | sendBusy => exact ⟨goodCalls_nil, rfl⟩
  | sendIdle _ _ _ hfill => exact ⟨fillOutput_goodCalls hfill, rfl⟩
  | sent _ _ _ hfill => exact ⟨fillOutput_goodCalls hfill, rfl⟩
  | recvBusy => exact ⟨goodCalls_nil, rfl⟩
  | recv => exact ⟨fun _ _ hm => by simp at hm, rfl⟩
  | upstream _ _ hkind => rcases hflush with rfl | rfl <;> cases hkind

end Intake

/-- A turn keeps the order and makes good calls. -/
theorem InOrder.turn {now : Instant} {id : ConnectionId} {event : TurnEvent}
    {c c' : UringConnection σ} {ops ops₀ pushed : List ConnectionOp} {clears : Nat}
    {acts : List Act} (henv : env.toConfig = cfg) (hgen : c.generation = id.generation)
    (hguard : drainsAfterResponseStart cfg (.turn id event world (some c)) = true)
    (hready : Ready cfg now c event ops ops₀) (h : InOrder c ops)
    (houtcome : TurnOutcome env event c clears (some c') pushed acts) :
    InOrder c' (ops₀ ++ pushed) ∧ GoodCalls acts := by
  cases houtcome with
  | moved hmove hfinish =>
      obtain ⟨horder, hcalls⟩ := (h.planned henv hgen hguard hready hmove).finish hfinish
      exact ⟨horder, (goodCalls_notes hmove.notes).append hcalls⟩
  | received hevent hpos hintake hflush hmove hfinish =>
      subst hevent
      obtain ⟨op, completion, before, after, hevent, rfl, rfl⟩ := hready.of_completion rfl
      cases op with
      | recv length =>
          obtain ⟨hproxy, hstream, h₀⟩ := h.recvCompleted
          have hsame : SameOrder c.markReadCompleted _ := hintake.sameOrder
          have h₁ := h₀.congr hsame
          have hproxy₁ := hsame.proxy.trans hproxy
          -- the flush sends protocol bytes of the session
          obtain ⟨h₂, hcalls₂⟩ := (hintake.plan h₁ hproxy₁).finish hflush
          have hsame₂ := hflush.sameOrder hintake.flush
          have hplan := h₂.plaintext (hsame₂.1.trans hproxy₁)
            (hsame₂.2.1.trans (hsame.staticStream.trans hstream))
            (hsame₂.2.2.trans hsame.readPending) hmove
          obtain ⟨h₃, hcalls₃⟩ := hplan.finish hfinish
          rw [← List.append_assoc]
          exact ⟨h₃, ((hintake.goodCalls.append hcalls₂).append
            (goodCalls_notes hmove.frame.2)).append hcalls₃⟩
      | _ => cases hevent

theorem ProxyState.length_le {c : UringConnection σ} {ups : List ConnectionOp}
    (h : ProxyState c ups) : ups.length ≤ 1 := by
  cases h <;> simp

theorem Ready.sublist {now : Instant} {event : TurnEvent} {c : UringConnection σ}
    {ops ops₀ : List ConnectionOp} (h : Ready cfg now c event ops ops₀) : ops₀.Sublist ops := by
  rcases h.completed_or with ⟨op, completion, before, after, -, rfl, rfl⟩ | ⟨rfl, -⟩
  · exact (List.Sublist.refl before).append (List.sublist_cons_self op after)
  · exact List.Sublist.refl _

/-- A handler that removes its connection has called no upstream submission. -/
theorem Move.goodCalls_removed {event : TurnEvent} {c : UringConnection σ} {next : Next}
    {acts : List Act} (h : Move env event c next none acts) : GoodCalls acts := by
  intro kind proxy hmem
  exfalso
  cases h with
  | write h =>
      cases h with
      | stream _ _ _ _ _ _ _ hmove => cases hmove <;> simp at hmem
      | _ => simp at hmem
  | connectFailed _ _ _ h => cases h; simp at hmem
  | connectNext _ _ h => cases h
  | writeFailed _ _ _ h => cases h; simp at hmem
  | readFailed _ _ _ h => cases h; simp at hmem
  | resolved _ _ _ _ h => cases h
  | expiredIdle h => cases h; simp at hmem
  | pump _ h => cases h <;> simp at hmem
  | _ => simp at hmem

/-- A removed connection made good calls and leaves at most one upstream operation. -/
theorem InOrder.removed {now : Instant} {event : TurnEvent} {c : UringConnection σ}
    {ops ops₀ pushed : List ConnectionOp} {clears : Nat} {acts : List Act}
    (hready : Ready cfg now c event ops ops₀) (h : InOrder c ops)
    (houtcome : TurnOutcome env event c clears none pushed acts) :
    GoodCalls acts ∧ ((ops₀ ++ pushed).filter ConnectionOp.isUpstream).length ≤ 1 := by
  have hlen₀ : (ops₀.filter ConnectionOp.isUpstream).length ≤ 1 :=
    ((hready.sublist.filter _).length_le).trans h.state.length_le
  cases houtcome with
  | removed hmove => exact ⟨hmove.goodCalls_removed, by rw [List.append_nil]; exact hlen₀⟩
  | receivedRemoved hevent hpos hintake hflush hmove =>
      have hflush' := hflush.flushed hintake.flush
      refine ⟨(hintake.goodCalls.append hflush'.1).append ?_, ?_⟩
      · intro kind proxy hmem
        cases hmove with
        | dispatched _ _ _ _ _ _ _ hanswer => cases hanswer; simp at hmem
      · rw [List.filter_append, hflush'.2, List.append_nil]
        exact hlen₀

def orderRule (cfg : Config σ) : CalmRule cfg where
  Inv c ops log := InOrder c ops ∧ GoodCalls log
  Guard item := drainsAfterResponseStart cfg item = true
  Outlives _ := True
  Gone log ops := GoodCalls log ∧ (ops.filter ConnectionOp.isUpstream).length ≤ 1
  accepted := by
    intro id c stale hfresh hguard _
    have hnil : stale = [] := List.isEmpty_iff.mp hguard
    subst hnil
    cases hfresh with
    | mk socket listenerIndex ssl =>
        exact ⟨⟨⟨rfl, rfl, fun _ => ⟨rfl, rfl⟩⟩, .absent rfl⟩, fun _ _ hm => by simp at hm⟩
  turn := by
    intro env id event c c' ops ops₀ pushed log acts henv _ hgen hguard hready hinv houtcome
    obtain ⟨horder, hcalls⟩ := hinv.1.turn henv hgen hguard hready houtcome
    exact ⟨horder, hinv.2.append hcalls⟩
  removed := by
    intro env id event c ops ops₀ pushed log acts _ _ _ _ hready hinv houtcome
    obtain ⟨hcalls, hlen⟩ := hinv.1.removed hready houtcome
    exact ⟨⟨hinv.2.append hcalls, hlen⟩, fun _ _ => trivial⟩
  free := by
    intro id event world found hevent
    cases event <;> first | rfl | cases hevent
  freeGone := fun _ _ _ => rfl
  calm := by
    intro env id event c c₁ ops ops₀ log acts next henv hgen hguard hready hinv hmove
    refine ⟨?_, (hinv.1.planned henv hgen hguard hready hmove).fit⟩
    rintro site rfl
    cases hmove with
    | write hmove => cases hmove with
        | stream _ _ _ _ _ _ _ hmove => cases hmove
    | connectFailed _ _ _ hmove => cases hmove
    | connectNext _ _ hmove => cases hmove
    | writeFailed _ _ _ hmove => cases hmove
    | readFailed _ _ _ hmove => cases hmove
    | resolved _ _ _ _ hmove => cases hmove
    | expiredIdle hmove => cases hmove
    | expiredPending _ _ _ hnext => rcases hnext with hnext | hnext <;> cases hnext
    | expiredMissing hnone =>
        obtain ⟨-, -, proxy, hproxy, -⟩ := hready.of_expired
        cases hnone.symm.trans hproxy
    | pump _ hmove => cases hmove
    | pumpMissing hnone =>
        have hsome := hready.of_pump.2.1
        rw [hnone] at hsome
        cases hsome

/-- **Upstream submissions come in order.**  In every run in which no client send
drains on a proxied connection before the response has started, and no id is
reused while an operation is in flight under it, every call of
`submit_proxy_connect`, `_write` or `_read` finds the proxy's socket and the
phase it is made for, at most one upstream operation of a connection is in
flight, and no step panics outside the load balancer. -/
theorem upstream_submissions_in_order {w : IoUringWorker σ} (h : Reachable cfg w)
    (hguard : ∀ item ∈ w.history, drainsAfterResponseStart cfg item = true) :
    (∀ slot occ, w.connections.get slot = some occ → GoodCalls occ.log
      ∧ ((opsOf ⟨slot, occ.connection.generation⟩ w.inFlight).filter
          ConnectionOp.isUpstream).length ≤ 1)
    ∧ (∀ id log ops, HistoryItem.removed id log ops ∈ w.history →
        GoodCalls log ∧ (ops.filter ConnectionOp.isUpstream).length ≤ 1)
    ∧ ∀ event site, (∀ item, Event.turn? w event = some item →
        drainsAfterResponseStart cfg item = true) →
        step cfg event w = .error (.panic site) → site = .balancer := by
  have hholds := (orderRule cfg).toSlotRule.holds h hguard
  refine ⟨?_, hholds.gone, ?_⟩
  · intro slot occ hget
    have hinv := hholds.live slot occ hget
    exact ⟨hinv.2, hinv.1.state.length_le⟩
  · intro event site hnext hrun
    exact (orderRule cfg).step_panic h hguard hnext hrun

/-- A plaintext client whose request is proxied, once the resolver has answered. -/
def resolvedRequest : List Event :=
  [.accepts 5,
   .completed 4 (.received (asBytes "GET / HTTP/1.1\r\n\r\n".toList)) [] .quiet,
   .completed 2 (.plain 8) [⟨⟨0, 1⟩, some ["10.0.0.1:80".toList]⟩] .quiet]

theorem upstream_submissions_in_order_connecting :
    ∃ w, Reachable (Config.single Rustls.absent none proxyAll) w
      ∧ (∀ item ∈ w.history, drainsAfterResponseStart
          (Config.single Rustls.absent none proxyAll) item = true)
      ∧ Entry.operation ⟨0, 1⟩ (.connect "10.0.0.1:80".toList) ∈ w.inFlight
      ∧ (∀ slot occ, w.connections.get slot = some occ → GoodCalls occ.log
        ∧ ((opsOf ⟨slot, occ.connection.generation⟩ w.inFlight).filter
            ConnectionOp.isUpstream).length ≤ 1) := by
  have hrun : bootsTo (Config.single Rustls.absent none proxyAll) .quiet resolvedRequest
      (fun w => w.history.all (drainsAfterResponseStart
          (Config.single Rustls.absent none proxyAll))
        && w.inFlight.contains (.operation ⟨0, 1⟩ (.connect "10.0.0.1:80".toList))) = true := by
    decide +kernel
  obtain ⟨w, hw, hp⟩ := reachable_of_bootsTo hrun
  simp only [Bool.and_eq_true, List.all_eq_true, List.contains_iff_mem] at hp
  exact ⟨w, hw, hp.1, hp.2, (upstream_submissions_in_order hw hp.1).1⟩

/-- A TLS worker that proxies everything; its clients have two handshake flights. -/
def toyProxy : Config ToySession := Config.single (Rustls.toy 64) (some ⟨2, 100⟩) proxyAll

/-- The client's second flight carries its request. The answer to the first flight
is sent, then the session's answer to the second, while the name of the upstream
is being resolved. -/
def ticketInFlight : List Event :=
  [.accepts 5,
   .completed 4 (.received [1]) [] .quiet,
   .completed 5 (.received (2 :: asBytes "GET / HTTP/1.1\r\n\r\n".toList)) [] .quiet,
   .completed 4 (.plain 1) [] .quiet]

/-- The completion of that send submits an upstream receive without a socket. -/
theorem drained_ticket_panics :
    ¬ ∀ w, Reachable toyProxy w → ∀ event site,
      step toyProxy event w = .error (.panic site) → site = .balancer := by
  intro hall
  have hrun : bootsTo toyProxy .quiet ticketInFlight (fun w =>
      match step toyProxy (.completed 4 (.plain 1) [] .quiet) w with
      | .error exit => exit == .panic .upstream
      | .ok _ => false) = true := by
    decide +kernel
  obtain ⟨w, hw, hp⟩ := reachable_of_bootsTo hrun
  cases hstep : step toyProxy (.completed 4 (.plain 1) [] .quiet) w with
  | error exit =>
      simp only [hstep, beq_iff_eq] at hp
      subst hp
      exact absurd (hall w hw _ _ hstep) (by decide)
  | ok w' => simp [hstep] at hp

end Thwip.IoUring
