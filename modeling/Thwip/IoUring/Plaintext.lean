/-
  Thwip.IoUring.Plaintext — what a connection of a plaintext listener waits for.

  Without TLS a connection never has two operations in flight: it receives its
  request, or sends, or waits for one upstream operation, or for the resolver,
  or for the next chunk of a file.  `Plain` is that invariant with the flags
  each situation comes with.
-/
import Thwip.IoUring.Runs

namespace Thwip.IoUring

open Thwip.Lib

variable {σ : Type} {cfg : Config σ} {env : Env σ}

/-! ## §1. The situations. -/

/-- The operations that `read_pending`, `write_pending` and `operation_pending`,
the last with the proxy phase, say are in flight. -/
def UringConnection.announced (c : UringConnection σ) : List OperationKind :=
  (if c.readPending then [.read] else []) ++ (if c.writePending then [.write] else [])
    ++ (match c.proxy with
        | none => []
        | some proxy => if proxy.operationPending then proxy.phase.kind.toList else [])

/-- One operation is in flight, and the flags say which. -/
def UringConnection.Busy (c : UringConnection σ) (ops : List ConnectionOp) : Prop :=
  ∃ op, ops = [op] ∧ c.announced = [op.kind]

/-- The name of the upstream is being resolved and nothing is in flight. -/
def UringConnection.Resolving (c : UringConnection σ) (ops : List ConnectionOp) : Prop :=
  ops = [] ∧ ∃ proxy, c.proxy = some proxy ∧ proxy.phase = .resolving

/-- A file is being streamed, its next chunk has not arrived, and nothing is in
flight. -/
def UringConnection.AwaitsChunk (c : UringConnection σ) (ops : List ConnectionOp) : Prop :=
  ops = [] ∧ c.staticStream.isSome = true ∧ c.writeBuffer = []

/-- Exactly one of three. -/
def ExactlyOne (p q r : Prop) : Prop := p ∧ ¬ q ∧ ¬ r ∨ ¬ p ∧ q ∧ ¬ r ∨ ¬ p ∧ ¬ q ∧ r

/-- The situations with everything the handlers rely on in them. -/
inductive Situation (c : UringConnection σ) : List ConnectionOp → Prop where
  | receiving (length : Nat) (hread : c.readPending = true) (hwrite : c.writePending = false)
      (hproxy : c.proxy = none) (hstream : c.staticStream = none) :
      Situation c [.recv length]
  | sending (buffer : List UInt8) (offset clears : Nat) (hread : c.readPending = false)
      (hwrite : c.writePending = true) (hunsent : c.unsent ≠ [])
      (hproxy : ∀ proxy, c.proxy = some proxy → proxy.phase = .readingResponse
        ∧ proxy.operationPending = false ∧ c.staticStream = none) :
      Situation c [.send buffer offset clears]
  | upstream (op : ConnectionOp) (hread : c.readPending = false) (hwrite : c.writePending = false)
      (hstream : c.staticStream = none) (proxy : UringProxy) (hproxy : c.proxy = some proxy)
      (hpending : proxy.operationPending = true) (hphase : proxy.phase.kind = some op.kind) :
      Situation c [op]
  | resolving (hread : c.readPending = false) (hwrite : c.writePending = false)
      (hstream : c.staticStream = none) (proxy : UringProxy) (hproxy : c.proxy = some proxy)
      (hpending : proxy.operationPending = false) (hphase : proxy.phase = .resolving) :
      Situation c []
  | file (hread : c.readPending = false) (hwrite : c.writePending = false)
      (hproxy : c.proxy = none) (hstream : c.staticStream.isSome = true)
      (hbuffer : c.writeBuffer = []) : Situation c []

/-- The invariant of a plaintext connection. -/
structure Plain (c : UringConnection σ) (ops : List ConnectionOp) : Prop where
  ssl : c.ssl = none
  situation : Situation c ops

theorem Situation.exactlyOne {c : UringConnection σ} {ops : List ConnectionOp}
    (h : Situation c ops) : ExactlyOne (c.Busy ops) (c.Resolving ops) (c.AwaitsChunk ops) := by
  cases h with
  | receiving length hread hwrite hproxy hstream =>
      refine .inl ⟨⟨_, rfl, ?_⟩, fun hr => ?_, fun hc => ?_⟩
      · simp [UringConnection.announced, hread, hwrite, hproxy, ConnectionOp.kind]
      · cases hr.1
      · cases hc.1
  | sending buffer offset clears hread hwrite hunsent hproxy =>
      refine .inl ⟨⟨_, rfl, ?_⟩, fun hr => ?_, fun hc => ?_⟩
      · cases hp : c.proxy with
        | none => simp [UringConnection.announced, hread, hwrite, hp, ConnectionOp.kind]
        | some proxy =>
            obtain ⟨-, hidle, -⟩ := hproxy proxy hp
            simp [UringConnection.announced, hread, hwrite, hp, hidle, ConnectionOp.kind]
      · cases hr.1
      · cases hc.1
  | upstream op hread hwrite hstream proxy hproxy hpending hphase =>
      refine .inl ⟨⟨_, rfl, ?_⟩, fun hr => ?_, fun hc => ?_⟩
      · simp [UringConnection.announced, hread, hwrite, hproxy, hpending, hphase]
      · cases hr.1
      · cases hc.1
  | resolving hread hwrite hstream proxy hproxy hpending hphase =>
      refine .inr (.inl ⟨?_, ⟨rfl, proxy, hproxy, hphase⟩, fun hc => ?_⟩)
      · rintro ⟨_, hnil, -⟩
        cases hnil
      · obtain ⟨-, hsome, -⟩ := hc
        rw [hstream] at hsome
        cases hsome
  | file hread hwrite hproxy hstream hbuffer =>
      refine .inr (.inr ⟨?_, ?_, ⟨rfl, hstream, hbuffer⟩⟩)
      · rintro ⟨_, hnil, -⟩
        cases hnil
      · rintro ⟨-, _, hsome, -⟩
        rw [hproxy] at hsome
        cases hsome

/-! ## §2. What the final calls lead to. -/

/-- A connection between two operations. -/
structure Idle (c : UringConnection σ) : Prop where
  ssl : c.ssl = none
  read : c.readPending = false
  write : c.writePending = false

section FinalCalls

variable {c c' : UringConnection σ} {clears : Nat} {next : Next} {pushed : List ConnectionOp}
  {acts : List Act}

theorem unsent_of_plain (hssl : c.ssl = none) : c.unsent = c.writeBuffer.drop c.writeOffset := by
  simp [UringConnection.unsent, hssl]

theorem Idle.send (h : Idle c) (hunsent : c.unsent ≠ [])
    (hproxy : ∀ proxy, c.proxy = some proxy → proxy.phase = .readingResponse
      ∧ proxy.operationPending = false ∧ c.staticStream = none)
    (hfinish : Finish env clears c .send c' pushed acts) : Plain c' pushed := by
  have hfill : c.fillOutput env.tls = some (c, []) := by
    simp [UringConnection.fillOutput, h.ssl]
  cases hfinish with
  | sendBusy hbusy =>
      rw [h.write] at hbusy
      cases hbusy
  | sendIdle c₁ acts _ hfill' hnone =>
      rw [hfill] at hfill'
      cases hfill'
      exact absurd hnone hunsent
  | sent c₁ acts _ hfill' _ =>
      rw [hfill] at hfill'
      cases hfill'
      exact ⟨h.ssl, .sending _ _ _ h.read rfl hunsent hproxy⟩
  | upstream _ _ hkind => cases hkind

/-- A queued response is sent. -/
theorem Idle.sendQueued (h : Idle c) {response : List UInt8} (hne : response ≠ [])
    (hproxy : ∀ proxy, c.proxy = some proxy → proxy.phase = .readingResponse
      ∧ proxy.operationPending = false ∧ c.staticStream = none)
    (hfinish : Finish env clears (c.queueResponse response) .send c' pushed acts) :
    Plain c' pushed := by
  have hidle : Idle (c.queueResponse response) := ⟨h.ssl, h.read, h.write⟩
  refine hidle.send ?_ hproxy hfinish
  rw [unsent_of_plain hidle.ssl]
  exact hne

theorem Idle.recv (h : Idle c) (hproxy : c.proxy = none) (hstream : c.staticStream = none)
    (hfinish : Finish env clears c .recv c' pushed acts) : Plain c' pushed := by
  cases hfinish with
  | recvBusy hbusy =>
      rw [h.read] at hbusy
      cases hbusy
  | recv => exact ⟨h.ssl, .receiving _ rfl h.write hproxy hstream⟩
  | upstream _ _ hkind => cases hkind

theorem Idle.upstream (h : Idle c) (hstream : c.staticStream = none) {proxy : UringProxy}
    (hproxy : c.proxy = some proxy) (hkind : next.upstreamKind = proxy.phase.kind)
    (hsome : next.upstreamKind.isSome = true)
    (hfinish : Finish env clears c next c' pushed acts) : Plain c' pushed := by
  cases hfinish with
  | upstream _ op hop proxy' hproxy' _ =>
      rw [hproxy] at hproxy'
      cases hproxy'
      exact ⟨h.ssl, .upstream op h.read h.write hstream _ rfl rfl (hkind.symm.trans hop)⟩
  | _ => cases hsome

end FinalCalls

/-! ## §3. The moves. -/

section Moves

variable {c c₁ c' : UringConnection σ} {clears : Nat} {next : Next} {pushed : List ConnectionOp}
  {acts acts' : List Act}

/-- Without a proxy nothing has to be known about it. -/
theorem no_proxy {P : UringProxy → Prop} (h : c.proxy = none) :
    ∀ proxy, c.proxy = some proxy → P proxy := by
  intro proxy hsome
  rw [h] at hsome
  cases hsome

theorem Idle.fail (h : Idle c) (hmove : FailMove c next (some c₁) acts)
    (hfinish : Finish env clears c₁ next c' pushed acts') : Plain c' pushed := by
  cases hmove with
  | answered response hne _ =>
      have hidle : Idle { c with proxy := none } := ⟨h.ssl, h.read, h.write⟩
      exact hidle.sendQueued hne (no_proxy rfl) hfinish

theorem Idle.address (h : Idle c) (hstream : c.staticStream = none) {proxy : UringProxy}
    (hphase : proxy.phase = .connecting) (hmove : AddressMove env c proxy next (some c₁) acts)
    (hfinish : Finish env clears c₁ next c' pushed acts') : Plain c' pushed := by
  cases hmove with
  | found address socket addresses _ =>
      have hidle : Idle (c.setProxy (proxy.connectTo env.now socket address addresses)) :=
        ⟨h.ssl, h.read, h.write⟩
      refine hidle.upstream hstream rfl ?_ rfl hfinish
      show _ = proxy.phase.kind
      rw [hphase]
      rfl
  | exhausted response hne =>
      have hidle : Idle { c with proxy := none } := ⟨h.ssl, h.read, h.write⟩
      exact hidle.sendQueued hne (no_proxy rfl) hfinish

theorem Idle.stream (h : Idle c) (hproxy : c.proxy = none) (hsome : c.staticStream.isSome = true)
    (hbuffer : c.writeBuffer = []) (hmove : StreamMove c next (some c₁) acts)
    (hfinish : Finish env clears c₁ next c' pushed acts') : Plain c' pushed := by
  cases hmove with
  | data stream bytes hne =>
      have hidle : Idle { c with staticStream := some stream } := ⟨h.ssl, h.read, h.write⟩
      exact hidle.sendQueued hne (no_proxy hproxy) hfinish
  | pending =>
      cases hfinish with
      | done => exact ⟨h.ssl, .file h.read h.write hproxy hsome hbuffer⟩
      | upstream _ _ hkind => cases hkind

theorem Idle.answer (h : Idle c) (hproxy : c.proxy = none) (hstream : c.staticStream = none)
    (hmove : AnswerMove env c next (some c₁) acts)
    (hfinish : Finish env clears c₁ next c' pushed acts') : Plain c' pushed := by
  cases hmove with
  | respond response hne => exact h.sendQueued hne (no_proxy hproxy) hfinish
  | static stream head hne =>
      have hidle : Idle { c with staticStream := stream } := ⟨h.ssl, h.read, h.write⟩
      exact hidle.sendQueued hne (no_proxy hproxy) hfinish
  | proxyError response hne =>
      have hidle : Idle { c with proxy := none } := ⟨h.ssl, h.read, h.write⟩
      exact hidle.sendQueued hne (no_proxy rfl) hfinish
  | resolving requestBuffer =>
      cases hfinish with
      | done => exact ⟨h.ssl, .resolving h.read h.write hstream _ rfl rfl rfl⟩
      | upstream _ _ hkind => cases hkind
  | balancerPanic => cases hfinish with
      | upstream _ _ hkind => cases hkind

/-- Recording received bytes concerns none of this. -/
theorem Idle.received (h : Idle c) {limits : WorkerLimits} {received : List UInt8}
    {verdict : ReadVerdict} (hreceive : c.receiveRequest limits received = (c₁, verdict)) :
    Idle c₁ ∧ c₁.proxy = c.proxy ∧ c₁.staticStream = c.staticStream := by
  obtain ⟨_, _, _, rfl⟩ := receiveRequest_frame hreceive
  exact ⟨⟨h.ssl, h.read, h.write⟩, rfl, rfl⟩

theorem Idle.plaintext (h : Idle c) (hproxy : c.proxy = none) (hstream : c.staticStream = none)
    {received : List UInt8} (hmove : PlaintextMove env received c next (some c₁) acts)
    (hfinish : Finish env clears c₁ next c' pushed acts') : Plain c' pushed := by
  cases hmove with
  | empty => exact h.recv hproxy hstream hfinish
  | waiting c₂ hreceive =>
      obtain ⟨h₂, hp, hs⟩ := h.received hreceive
      exact h₂.recv (hp.trans hproxy) (hs.trans hstream) hfinish
  | rejected c₂ _ _ response hne hreceive =>
      obtain ⟨h₂, hp, -⟩ := h.received hreceive
      have hidle : Idle { c₂ with pendingRequest := none } := ⟨h₂.ssl, h₂.read, h₂.write⟩
      exact hidle.sendQueued hne (no_proxy (hp.trans hproxy)) hfinish
  | dispatched c₂ _ _ _ _ _ hreceive hanswer =>
      obtain ⟨h₂, hp, hs⟩ := h.received hreceive
      exact h₂.answer (hp.trans hproxy) (hs.trans hstream) hanswer hfinish

/-- The rest of a response is still to be sent. -/
theorem unsent_advance (hssl : c.ssl = none) (tls : Rustls σ) {n : Nat} (hpos : 0 < n)
    (hlen : n ≤ c.unsent.length) (hdrained : (c.advance n).outputDrained tls = false) :
    (c.advance n).unsent ≠ [] := by
  have hadvance : c.advance n = { c with writeOffset := c.writeOffset + n } := by
    simp [UringConnection.advance, hssl]
  have hunsent : (c.advance n).unsent = c.writeBuffer.drop (c.writeOffset + n) := by
    rw [hadvance]
    exact unsent_of_plain hssl
  rw [unsent_of_plain hssl, List.length_drop] at hlen
  rw [hadvance] at hdrained
  simp only [UringConnection.outputDrained, hssl, beq_eq_false_iff_ne] at hdrained
  rw [hunsent, Ne, List.drop_eq_nil_iff]
  omega

theorem Idle.advance (h : Idle c) (n : Nat) : Idle (c.advance n) := by
  have hadvance : c.advance n = { c with writeOffset := c.writeOffset + n } := by
    simp [UringConnection.advance, h.ssl]
  rw [hadvance]
  exact ⟨h.ssl, h.read, h.write⟩

theorem Idle.written (h : Idle c) (hunsent : c.unsent ≠ [])
    (hproxy : ∀ proxy, c.proxy = some proxy → proxy.phase = .readingResponse
      ∧ proxy.operationPending = false ∧ c.staticStream = none)
    {submitted : List UInt8} {result : Int}
    (hmove : WriteMove env submitted result c next (some c₁) acts)
    (hfinish : Finish env clears c₁ next c' pushed acts') : Plain c' pushed := by
  cases hmove with
  | retry => exact h.send hunsent hproxy hfinish
  | more hpos hlen hdrained =>
      refine (h.advance _).send
        (unsent_advance h.ssl env.tls (by omega) hlen hdrained) ?_ hfinish
      rw [c.advance_proxy, c.advance_staticStream]
      exact hproxy
  | stream hpos hlen hdrained hstream _ _ _ hmove =>
      have hadv := h.advance result.toNat
      have hnone : c.proxy = none := by
        cases hp : c.proxy with
        | none => rfl
        | some proxy =>
            rw [(hproxy proxy hp).2.2] at hstream
            cases hstream
      have hidle : Idle (c.advance result.toNat).clearOutput :=
        ⟨hadv.ssl, hadv.read, hadv.write⟩
      refine hidle.stream ?_ ?_ rfl hmove hfinish
      · exact (c.advance_proxy _).trans hnone
      · show (c.advance result.toNat).staticStream.isSome = true
        rw [c.advance_staticStream]
        exact hstream
  | proxy hpos hlen hdrained hstream proxy hp =>
      have hadv := h.advance result.toNat
      have hidle : Idle ((c.advance result.toNat).clearOutput.setProxy
          (proxy.recordProgress env.now)) := ⟨hadv.ssl, hadv.read, hadv.write⟩
      refine hidle.upstream ?_ rfl ?_ rfl hfinish
      · exact (c.advance_staticStream _).trans hstream
      · show _ = proxy.phase.kind
        rw [(hproxy proxy hp).1]
        rfl
  | close _ _ _ _ _ ssl hssl =>
      rw [h.ssl] at hssl
      cases hssl

end Moves

/-! ## §4. The rule. -/

theorem Situation.of_completed {c : UringConnection σ} {op : ConnectionOp}
    {before after : List ConnectionOp} (h : Situation c (before ++ op :: after)) :
    before = [] ∧ after = [] := by
  have hlen : (before ++ op :: after).length ≤ 1 := by
    generalize before ++ op :: after = ops at h
    cases h <;> simp
  simp only [List.length_append, List.length_cons] at hlen
  exact ⟨List.length_eq_zero_iff.mp (by omega), List.length_eq_zero_iff.mp (by omega)⟩

/-- The completion of the one operation in flight. -/
theorem Plain.completed {c c' : UringConnection σ} {op : ConnectionOp} {completion : Completion}
    {clears : Nat} {pushed : List ConnectionOp} {acts : List Act} (h : Plain c [op])
    (houtcome : TurnOutcome env (op.turnEvent completion) c clears (some c') pushed acts) :
    Plain c' pushed := by
  cases h.situation with
  | receiving length hread hwrite hproxy hstream =>
      have hidle : Idle c.markReadCompleted := ⟨h.ssl, rfl, hwrite⟩
      cases houtcome with
      | moved hmove hfinish =>
          cases hmove with
          | recvBroken => cases hfinish with
              | upstream _ _ hkind => cases hkind
          | recvRetry => exact hidle.recv hproxy hstream hfinish
          | noProxy hevent => cases hevent
      | received hevent hpos hintake hflush hmove hfinish =>
          cases hintake with
          | plain hssl => cases hflush with
              | done => exact hidle.plaintext hproxy hstream hmove hfinish
              | upstream _ _ hkind => cases hkind
          | tls ssl _ hssl =>
              rw [hidle.ssl] at hssl
              cases hssl
  | sending buffer offset clears hread hwrite hunsent hproxy =>
      have hidle : Idle c.markWriteCompleted := ⟨h.ssl, hread, rfl⟩
      cases houtcome with
      | moved hmove hfinish =>
          cases hmove with
          | write hmove => exact hidle.written hunsent hproxy hmove hfinish
          | noProxy hevent => cases hevent
      | received hevent => cases hevent
  | upstream _ hread hwrite hstream proxy hproxy hpending hphase =>
      have hidle : ∀ proxy', Idle (c.setProxy proxy') := fun _ => ⟨h.ssl, hread, hwrite⟩
      have hone : ∀ {proxy'}, c.proxy = some proxy' → proxy' = proxy := by
        intro proxy' hp
        rw [hproxy] at hp
        exact (Option.some.inj hp).symm
      cases op with
      | recv => exact absurd hphase (phase_kind_client proxy.phase rfl)
      | send => exact absurd hphase (phase_kind_client proxy.phase rfl)
      | connect address =>
          have hconnecting : proxy.completed.phase = .connecting := phase_of_kind hphase
          cases houtcome with
          | moved hmove hfinish =>
              cases hmove with
              | noProxy _ hnone => rw [hproxy] at hnone; cases hnone
              | connectFailed proxy' hp _ hmove => exact (hidle _).fail hmove hfinish
              | connectNext proxy' hp hmove =>
                  cases hone hp
                  exact (hidle _).address hstream hconnecting hmove hfinish
              | connected proxy' hp => exact (hidle _).upstream hstream rfl rfl rfl hfinish
          | received hevent => cases hevent
      | proxySend bytes =>
          cases houtcome with
          | moved hmove hfinish =>
              cases hmove with
              | noProxy _ hnone => rw [hproxy] at hnone; cases hnone
              | writeFailed proxy' hp _ hmove => exact (hidle _).fail hmove hfinish
              | writeRetry proxy' hp =>
                  cases hone hp
                  exact (hidle _).upstream hstream rfl (by exact hphase.symm) rfl hfinish
              | wroteSome proxy' hp =>
                  cases hone hp
                  exact (hidle _).upstream hstream rfl (by exact hphase.symm) rfl hfinish
              | wroteAll proxy' hp => exact (hidle _).upstream hstream rfl rfl rfl hfinish
          | received hevent => cases hevent
      | proxyRecv length =>
          have hreading : proxy.phase = .readingResponse := phase_of_kind hphase
          cases houtcome with
          | moved hmove hfinish =>
              cases hmove with
              | noProxy _ hnone => rw [hproxy] at hnone; cases hnone
              | upstreamBroken => cases hfinish with
                  | upstream _ _ hkind => cases hkind
              | readFailed proxy' hp _ hmove => exact (hidle _).fail hmove hfinish
              | readRetry proxy' hp =>
                  cases hone hp
                  exact (hidle _).upstream hstream rfl (by exact hphase.symm) rfl hfinish
              | chunk proxy' hp bytes hne =>
                  cases hone hp
                  refine (hidle _).sendQueued hne ?_ hfinish
                  intro proxy'' hp'
                  cases hp'
                  exact ⟨hreading, rfl, hstream⟩
          | received hevent => cases hevent

/-- A final `done` leaves everything as it is. -/
theorem Finish.of_done {c₁ c' : UringConnection σ} {clears : Nat} {pushed : List ConnectionOp}
    {acts : List Act} (h : Finish env clears c₁ .done c' pushed acts) :
    c' = c₁ ∧ pushed = [] ∧ acts = [] := by
  cases h with
  | done => exact ⟨rfl, rfl, rfl⟩
  | upstream _ _ hkind => cases hkind

section Prompted

variable {c c' : UringConnection σ} {ops pushed : List ConnectionOp} {clears : Nat}
  {acts : List Act}

/-- DNS results count only while the name is being resolved. -/
theorem Plain.resolved (h : Plain c ops) {addresses : Option (List SocketAddr)}
    (houtcome : TurnOutcome env (.resolved addresses) c clears (some c') pushed acts) :
    Plain c' (ops ++ pushed) := by
  have hresolving : ∀ {proxy : UringProxy}, c.proxy = some proxy → proxy.phase = .resolving →
      ops = [] ∧ Idle c ∧ c.staticStream = none := by
    intro proxy hp hphase
    cases h.situation with
    | receiving _ _ _ hproxy => rw [hproxy] at hp; cases hp
    | sending _ _ _ _ _ _ hproxy => rw [(hproxy proxy hp).1] at hphase; cases hphase
    | upstream _ _ _ _ proxy' hproxy _ hkind =>
        rw [hp] at hproxy
        cases hproxy
        rw [hphase] at hkind
        cases hkind
    | resolving hread hwrite hstream => exact ⟨rfl, ⟨h.ssl, hread, hwrite⟩, hstream⟩
    | file _ _ hproxy => rw [hproxy] at hp; cases hp
  cases houtcome with
  | moved hmove hfinish =>
      cases hmove with
      | noProxy =>
          obtain ⟨rfl, rfl, -⟩ := hfinish.of_done
          rw [List.append_nil]
          exact h
      | notResolving =>
          obtain ⟨rfl, rfl, -⟩ := hfinish.of_done
          rw [List.append_nil]
          exact h
      | unresolved proxy hp hphase response hne =>
          obtain ⟨rfl, hidle, -⟩ := hresolving hp hphase
          have hidle' : Idle { c with proxy := none } := ⟨hidle.ssl, hidle.read, hidle.write⟩
          exact hidle'.sendQueued hne (no_proxy rfl) hfinish
      | resolved addresses proxy hp hphase hmove =>
          obtain ⟨rfl, hidle, hstream⟩ := hresolving hp hphase
          have hidle' : ∀ proxy', Idle (c.setProxy proxy') :=
            fun _ => ⟨hidle.ssl, hidle.read, hidle.write⟩
          exact (hidle' _).address hstream rfl hmove hfinish
  | received hevent => cases hevent

/-- A proxy that is not sending waits upstream or for the resolver. -/
theorem Plain.of_proxy (h : Plain c ops) (hwrite : c.writePending = false) {proxy : UringProxy}
    (hp : c.proxy = some proxy) : Idle c ∧ c.staticStream = none
      ∧ (ops = [] ∧ proxy.operationPending = false
        ∨ proxy.operationPending = true ∧ ∃ op, ops = [op] ∧ proxy.phase.kind = some op.kind) := by
  cases h.situation with
  | receiving _ _ _ hproxy => rw [hproxy] at hp; cases hp
  | sending _ _ _ _ hbusy => rw [hwrite] at hbusy; cases hbusy
  | upstream op hread hwrite hstream proxy' hproxy hpending hkind =>
      rw [hp] at hproxy
      cases hproxy
      exact ⟨⟨h.ssl, hread, hwrite⟩, hstream, .inr ⟨hpending, op, rfl, hkind⟩⟩
  | resolving hread hwrite hstream proxy' hproxy hpending =>
      rw [hp] at hproxy
      cases hproxy
      exact ⟨⟨h.ssl, hread, hwrite⟩, hstream, .inl ⟨rfl, hpending⟩⟩
  | file _ _ hproxy => rw [hproxy] at hp; cases hp

theorem Plain.expired (h : Plain c ops) (hwrite : c.writePending = false) {proxy : UringProxy}
    (hp : c.proxy = some proxy)
    (houtcome : TurnOutcome env (.expired proxy.phase proxy.operationPending) c clears
      (some c') pushed acts) : Plain c' (ops ++ pushed) := by
  obtain ⟨hidle, hstream, ⟨rfl, hpending⟩ | ⟨hpending, op, rfl, hkind⟩⟩ := h.of_proxy hwrite hp
  · rw [hpending] at houtcome
    cases houtcome with
    | moved hmove hfinish =>
        cases hmove with
        | noProxy hevent => cases hevent
        | expiredIdle hmove => exact hidle.fail hmove hfinish
    | received hevent => cases hevent
  · rw [hpending] at houtcome
    cases houtcome with
    | moved hmove hfinish =>
        cases hmove with
        | noProxy hevent => cases hevent
        | expiredPending proxy' hp' next hnext =>
            rw [hp] at hp'
            cases hp'
            rcases hnext with rfl | rfl
            · obtain ⟨rfl, rfl, -⟩ := hfinish.of_done
              exact ⟨h.ssl, .upstream op hidle.read hwrite hstream _ rfl hpending hkind⟩
            · cases hfinish with
              | upstream _ _ hkind => cases hkind
        | expiredMissing hnone => rw [hp] at hnone; cases hnone
    | received hevent => cases hevent

/-- The pump picks connections that wait for a chunk. -/
theorem Plain.of_pump (h : Plain c ops) (hsome : c.staticStream.isSome = true)
    (hwrite : c.writePending = false) : ops = [] ∧ Idle c ∧ c.proxy = none := by
  cases h.situation with
  | receiving _ _ _ _ hstream => rw [hstream] at hsome; cases hsome
  | sending _ _ _ _ hbusy => rw [hwrite] at hbusy; cases hbusy
  | upstream _ _ _ hstream => rw [hstream] at hsome; cases hsome
  | resolving _ _ hstream => rw [hstream] at hsome; cases hsome
  | file hread hwrite hproxy => exact ⟨rfl, ⟨h.ssl, hread, hwrite⟩, hproxy⟩

theorem Plain.pumped (h : Plain c ops) (hsome : c.staticStream.isSome = true)
    (hwrite : c.writePending = false) (hbuffer : c.writeBuffer = [])
    (houtcome : TurnOutcome env .pump c clears (some c') pushed acts) :
    Plain c' (ops ++ pushed) := by
  obtain ⟨rfl, hidle, hproxy⟩ := h.of_pump hsome hwrite
  cases houtcome with
  | moved hmove hfinish =>
      cases hmove with
      | noProxy hevent => cases hevent
      | pump _ hmove => exact hidle.stream hproxy hsome hbuffer hmove hfinish
      | pumpMissing hnone => rw [hnone] at hsome; cases hsome
  | received hevent => cases hevent

end Prompted

/-- A connection is removed with nothing in flight. -/
theorem Plain.removed {now : Instant} {event : TurnEvent} {c : UringConnection σ}
    {ops ops₀ pushed : List ConnectionOp} {clears : Nat} {acts : List Act} (h : Plain c ops)
    (hready : Ready cfg now c event ops ops₀)
    (houtcome : TurnOutcome env event c clears none pushed acts) : ops₀ ++ pushed = [] := by
  have hpushed : pushed = [] := by
    cases houtcome with
    | removed => rfl
    | receivedRemoved _ _ hintake hflush _ =>
        cases hintake with
        | plain => cases hflush with
            | done => rfl
            | upstream _ _ hkind => cases hkind
        | tls ssl _ hssl =>
            rw [show c.markReadCompleted.ssl = none from h.ssl] at hssl
            cases hssl
  rw [hpushed, List.append_nil]
  have hmove : ∀ {event : TurnEvent} {acts : List Act},
      TurnOutcome env event c clears none pushed acts →
      Move env event c .done none acts ∨ ∃ r b k, event = .read r b k := by
    intro event acts hout
    cases hout with
    | removed hmove => exact .inl hmove
    | receivedRemoved hevent => exact .inr ⟨_, _, _, hevent⟩
  cases hready with
  | completed op completion before after =>
      obtain ⟨rfl, rfl⟩ := h.situation.of_completed
      rfl
  | resolved addresses =>
      rcases hmove houtcome with hmove | ⟨_, _, _, hread⟩
      · cases hmove with
        | resolved _ _ _ _ hmove => cases hmove
      · cases hread
  | expired hexpired =>
      obtain ⟨hwrite, proxy, hp, rfl⟩ := proxyExpired_some hexpired
      obtain ⟨-, -, ⟨rfl, -⟩ | ⟨hpending, -⟩⟩ := h.of_proxy hwrite hp
      · rfl
      · rw [hpending] at houtcome
        rcases hmove houtcome with hmove | ⟨_, _, _, hread⟩
        · cases hmove
        · cases hread
  | handshake hover =>
      have hssl := (handshakeOverdue_some hover).2
      rw [h.ssl] at hssl
      cases hssl
  | pump hpump =>
      obtain ⟨-, hsome, hwrite, -⟩ := pumpReady_some hpump
      exact (h.of_pump hsome hwrite).1

/-- **Every turn** that keeps a plaintext connection. -/
theorem Plain.turn {now : Instant} {event : TurnEvent} {c c' : UringConnection σ}
    {ops ops₀ pushed : List ConnectionOp} {clears : Nat} {acts : List Act} (h : Plain c ops)
    (hready : Ready cfg now c event ops ops₀)
    (houtcome : TurnOutcome env event c clears (some c') pushed acts) :
    Plain c' (ops₀ ++ pushed) := by
  cases hready with
  | completed op completion before after =>
      obtain ⟨rfl, rfl⟩ := h.situation.of_completed
      exact h.completed houtcome
  | resolved addresses => exact h.resolved houtcome
  | expired hexpired =>
      obtain ⟨hwrite, proxy, hp, rfl⟩ := proxyExpired_some hexpired
      exact h.expired hwrite hp houtcome
  | handshake hover =>
      have hssl := (handshakeOverdue_some hover).2
      rw [h.ssl] at hssl
      cases hssl
  | pump hpump =>
      obtain ⟨rfl, hsome, hwrite, hbuffer⟩ := pumpReady_some hpump
      exact h.pumped hsome hwrite hbuffer houtcome

/-- `Plain` is a rule without a guard: nothing outlives its connection. -/
def plainRule (hplain : ∀ listener ∈ cfg.listeners, listener.ssl = none) : SlotRule cfg where
  Inv c ops _ := Plain c ops
  Guard _ := True
  Outlives _ := False
  Gone _ ops := ops = []
  accepted := by
    intro id c stale hfresh _ hstale
    have hnil : stale = [] := List.eq_nil_iff_forall_not_mem.mpr hstale
    subst hnil
    cases hfresh with
    | mk socket listenerIndex ssl _ hssl =>
        exact ⟨hssl hplain, .receiving _ rfl rfl rfl rfl⟩
  turn := by
    intro env id event c c' ops ops₀ pushed log acts _ _ _ _ hready hinv houtcome
    exact hinv.turn hready houtcome
  removed := by
    intro env id event c ops ops₀ pushed log acts _ _ _ _ hready hinv houtcome
    have hnil := hinv.removed hready houtcome
    refine ⟨hnil, ?_⟩
    rw [hnil]
    exact fun op hop => List.not_mem_nil hop

/-- **Plaintext connections always wait for exactly one thing.**  In every
reachable state of a worker whose listeners are all plaintext, each connection in
the slab has one operation in flight that its flags name, or waits for the
resolver, or for a file chunk, and is in exactly one of these situations; every
operation in flight belongs to a connection in the slab, and every connection
removed so far had none in flight. -/
theorem plaintext_connections_wait_for_one_thing
    (hplain : ∀ listener ∈ cfg.listeners, listener.ssl = none) {w : IoUringWorker σ}
    (h : Reachable cfg w) :
    (∀ slot occ, w.connections.get slot = some occ →
      let ops := opsOf ⟨slot, occ.connection.generation⟩ w.inFlight
      ExactlyOne (occ.connection.Busy ops) (occ.connection.Resolving ops)
        (occ.connection.AwaitsChunk ops))
    ∧ (∀ id op, Entry.operation id op ∈ w.inFlight → w.Live id)
    ∧ (∀ id log ops, HistoryItem.removed id log ops ∈ w.history → ops = []) := by
  have hholds : (plainRule hplain).Holds w := (plainRule hplain).holds h (fun _ _ => trivial)
  refine ⟨?_, ?_, hholds.gone⟩
  · intro slot occ hget
    exact (hholds.live slot occ hget).situation.exactlyOne
  · intro id op hop
    exact (hholds.owned id op hop).resolve_right (fun hfalse => hfalse)

/-- A client of a plaintext listener whose request is answered with `404`. -/
theorem plaintext_connections_wait_for_one_thing_notFound :
    ∃ w, Reachable (Config.single Rustls.absent none []) w ∧ w.connections.count = 1
      ∧ (∀ slot occ, w.connections.get slot = some occ →
          let ops := opsOf ⟨slot, occ.connection.generation⟩ w.inFlight
          ExactlyOne (occ.connection.Busy ops) (occ.connection.Resolving ops)
            (occ.connection.AwaitsChunk ops))
      ∧ (∀ id op, Entry.operation id op ∈ w.inFlight → w.Live id)
      ∧ (∀ id log ops, HistoryItem.removed id log ops ∈ w.history → ops = []) := by
  have hrun : bootsTo (Config.single Rustls.absent none []) .quiet
      [.accepts 5,
       .completed 4 (.received (asBytes "GET / HTTP/1.1\r\n\r\n".toList)) [] .quiet]
      (fun w => w.connections.count == 1) = true := by
    decide +kernel
  obtain ⟨w, hw, hcount⟩ := reachable_of_bootsTo hrun
  have hplain : ∀ listener ∈ (Config.single Rustls.absent none []).listeners,
      listener.ssl = none := by
    decide
  exact ⟨w, hw, by simpa using hcount, plaintext_connections_wait_for_one_thing hplain hw⟩

end Thwip.IoUring
