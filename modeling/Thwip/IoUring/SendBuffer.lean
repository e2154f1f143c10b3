/-
  Thwip.IoUring.SendBuffer — the buffer a client send points into.

  A submitted send holds a pointer into `ssl_write_buffer`.  `write_pending`
  keeps `submit_send` from touching that buffer, but several events remove a
  connection, and free the buffer, without looking at the flag.  As long as no
  such event meets a pending send, every send in flight finds its buffer as it
  was submitted.
-/
import Thwip.IoUring.Runs

namespace Thwip.IoUring

open Thwip.Lib

variable {σ : Type} {cfg : Config σ} {env : Env σ}

/-! ## §1. The events that remove a connection. -/

/-- The proxy of the connection, if any, has started its response. -/
def UringConnection.responseStarted (c : UringConnection σ) : Bool :=
  c.proxy.any UringProxy.responseStarted

/-- Does this event make the worker drop the connection without regard to a
pending send?  The client closed or its receive failed, the session reports an
error, the handshake is overdue, the upstream closed, or an upstream operation
failed after the response had started. -/
def dropsOn (cfg : Config σ) (c : UringConnection σ) : TurnEvent → Bool
  | .read result _ contents =>
      if result ≤ 0 then !(result < 0 && isRecvRetry result)
      else c.ssl.any (fun ssl =>
        (ssl.intake cfg.tls ((List.range result.toNat).map contents)).isNone)
  | .proxyConnect _ => c.responseStarted && c.proxy.any UringProxy.timedOut
  | .proxyWrite _ result => c.responseStarted && c.proxy.any (fun proxy => proxy.writeFails result)
  | .proxyRead result _ _ =>
      c.responseStarted && c.proxy.any (fun proxy => proxy.readFails cfg.limits result)
        || result == 0 && c.proxy.any (fun proxy => !proxy.timedOut)
  | .handshakeExpired => true
  | _ => false

/-- No event that drops the connection is handled while it has a send pending. -/
def sparesPendingSend (cfg : Config σ) : HistoryItem σ → Bool
  | .turn id event _ (some c) =>
      !(c.matchesGeneration id.generation && c.writePending && dropsOn cfg c event)
  | _ => true

theorem FailMove.responseStarted {c : UringConnection σ} {next : Next} {acts : List Act}
    {proxy : UringProxy} (hproxy : c.proxy = some proxy)
    (h : FailMove (c.setProxy proxy.completed) next none acts) : c.responseStarted = true := by
  cases h with
  | dropped proxy' hsome hstarted =>
      injection hsome with hsome
      subst hsome
      have hstarted' : proxy.responseStarted = true := hstarted
      simp [UringConnection.responseStarted, hproxy, hstarted']

/-- A removal while a send is pending, other than by the send itself. -/
theorem dropsOn_of_removed {now : Instant} {event : TurnEvent} {c : UringConnection σ}
    {ops ops₀ : List ConnectionOp} {acts : List Act} (henv : env.toConfig = cfg)
    (hready : Ready cfg now c event ops ops₀) (hpending : c.writePending = true)
    (hwrite : event.isWrite = false) (hmove : Move env event c .done none acts) :
    dropsOn cfg c event = true := by
  subst henv
  cases hmove with
  | recvClosed h hretry =>
      simp only [dropsOn, h, if_true, Bool.not_eq_true', Bool.and_eq_false_iff,
        decide_eq_false_iff_not]
      exact (not_and_or.mp hretry).imp_right Bool.eq_false_iff.mpr
  | tlsFailed hpos ssl hssl hintake => simp [dropsOn, Int.not_le.mpr hpos, hssl, hintake]
  | write => cases hwrite
  | connectFailed proxy hproxy hfails hmove =>
      have hstarted := hmove.responseStarted hproxy
      simp [dropsOn, hstarted, hproxy, hfails]
  | connectNext _ _ hmove => cases hmove
  | writeFailed proxy hproxy hfails hmove =>
      have hstarted := hmove.responseStarted hproxy
      simp [dropsOn, hstarted, hproxy, hfails]
  | readFailed proxy hproxy hfails hmove =>
      have hstarted := hmove.responseStarted hproxy
      simp [dropsOn, hstarted, hproxy, hfails]
  | upstreamClosed proxy hproxy htimed hresult => simp [dropsOn, hproxy, htimed, hresult]
  | resolved _ _ _ _ hmove => cases hmove
  | expiredIdle =>
      -- the timer passes over connections with a pending send
      rw [hready.of_expired.2.1] at hpending
      cases hpending
  | handshakeExpired => rfl
  | pump =>
      rw [hready.of_pump.2.2.1] at hpending
      cases hpending

/-! ## §2. The pending send. -/

/-- `sends` are the sends in flight: none, or one whose buffer is, on TLS, still
as it was submitted. -/
inductive SendKept (c : UringConnection σ) (clears : Nat) : List ConnectionOp → Prop where
  | idle (h : c.writePending = false) : SendKept c clears []
  | pending (h : c.writePending = true) (buffer : List UInt8) (offset submitted : Nat)
      (hkept : c.ssl.isSome = true →
        c.sslWriteBuffer = buffer ∧ c.sslWriteOffset = offset ∧ clears = submitted) :
      SendKept c clears [.send buffer offset submitted]

theorem SendKept.eq_nil {c : UringConnection σ} {clears : Nat} {sends : List ConnectionOp}
    (h : SendKept c clears sends) (hfree : c.writePending = false) : sends = [] := by
  cases h with
  | idle => rfl
  | pending hpending =>
      rw [hfree] at hpending
      cases hpending

theorem SendKept.congr {c c₁ : UringConnection σ} {clears : Nat} {sends : List ConnectionOp}
    (h : SendKept c clears sends) (hsame : SameOutput c c₁) (hclient : SameClient c c₁) :
    SendKept c₁ clears sends := by
  cases h with
  | idle h => exact .idle (hsame.writePending.trans h)
  | pending h buffer offset submitted hkept =>
      refine .pending (hsame.writePending.trans h) buffer offset submitted ?_
      rw [hclient.ssl, hsame.sslWriteBuffer, hsame.sslWriteOffset]
      exact hkept

/-- A send in flight is the pending one. -/
theorem SendKept.of_mem {c : UringConnection σ} {clears offset submitted : Nat}
    {buffer : List UInt8} {sends : List ConnectionOp} (h : SendKept c clears sends)
    (hmem : ConnectionOp.send buffer offset submitted ∈ sends) :
    c.writePending = true ∧ (c.ssl.isSome = true →
      c.sslWriteBuffer = buffer ∧ c.sslWriteOffset = offset ∧ clears = submitted) := by
  cases h with
  | idle => cases hmem
  | pending hpending _ _ _ hkept =>
      rw [List.mem_singleton] at hmem
      cases hmem
      exact ⟨hpending, hkept⟩

section FinalCalls

variable {c c₁ c' : UringConnection σ} {clears : Nat} {next : Next}
  {ops pushed : List ConnectionOp} {acts : List Act}

/-- A final call keeps what is known of the pending send. -/
theorem SendKept.finish (h : SendKept c clears (ops.filter ConnectionOp.isSend))
    (hfinish : Finish env clears c next c' pushed acts) :
    SendKept c' (clears + clearsIn acts) ((ops ++ pushed).filter ConnectionOp.isSend) := by
  have hclient := hfinish.sameClient
  rw [List.filter_append]
  cases hfinish with
  | done => simpa using h
  | sendBusy => simpa using h
  | sendIdle c₁ acts hfree hfill hunsent =>
      rw [h.eq_nil hfree]
      refine .idle ?_
      rcases fillOutput_cases hfill with ⟨rfl, -, -⟩ | ⟨_, _, _, _, -, -, -, rfl, -⟩
      · exact hfree
      · exact hfree
  | sent c₁ acts hfree hfill hunsent =>
      rw [h.eq_nil hfree]
      refine .pending rfl _ _ _ ?_
      intro hssl
      have hbuffer : c₁.sendBuffer = (c₁.sslWriteBuffer, c₁.sslWriteOffset) := by
        have hssl' : c₁.ssl.isSome = true := hssl
        simp [UringConnection.sendBuffer, hssl']
      rw [hbuffer]
      exact ⟨rfl, rfl, rfl⟩
  | recvBusy => simpa using h
  | recv =>
      have hkept : SendKept c.markReadSubmitted clears (ops.filter ConnectionOp.isSend) :=
        h.congr ⟨rfl, rfl, rfl⟩ hclient
      simpa [ConnectionOp.isSend] using hkept
  | upstream _ op hkind proxy =>
      have hkept : SendKept (c.setProxy proxy.submitted) clears
          (ops.filter ConnectionOp.isSend) := h.congr ⟨rfl, rfl, rfl⟩ hclient
      have hop : op.isSend = false := by
        cases op with
        | send => cases next <;> cases hkind
        | _ => rfl
      simpa [hop] using hkept

end FinalCalls

/-! ## §3. The rule. -/

/-- A completed send was the only one; other turns complete none. -/
theorem SendKept.ready {now : Instant} {event : TurnEvent} {c : UringConnection σ} {clears : Nat}
    {ops ops₀ : List ConnectionOp} (h : SendKept c clears (ops.filter ConnectionOp.isSend))
    (hready : Ready cfg now c event ops ops₀) :
    if event.isWrite then ops₀.filter ConnectionOp.isSend = []
    else ops₀.filter ConnectionOp.isSend = ops.filter ConnectionOp.isSend := by
  rcases hready.completed_or with ⟨op, completion, before, after, rfl, rfl, rfl⟩ | ⟨rfl, h'⟩
  · rw [List.filter_append, List.filter_cons] at h
    cases op with
    | send buffer offset submitted =>
        simp only [ConnectionOp.isSend, if_true] at h
        have hlen : (before.filter ConnectionOp.isSend ++ .send buffer offset submitted ::
            after.filter ConnectionOp.isSend).length ≤ 1 := by
          generalize before.filter ConnectionOp.isSend ++ .send buffer offset submitted ::
            after.filter ConnectionOp.isSend = sends at h
          cases h <;> simp
        simp only [List.length_append, List.length_cons] at hlen
        simp only [ConnectionOp.turnEvent, TurnEvent.isWrite, if_true, List.filter_append]
        rw [List.length_eq_zero_iff.mp (by omega : (before.filter ConnectionOp.isSend).length = 0),
          List.length_eq_zero_iff.mp (by omega : (after.filter ConnectionOp.isSend).length = 0)]
        rfl
    | _ =>
        simp [ConnectionOp.turnEvent, TurnEvent.isWrite, ConnectionOp.isSend]
  · have hevent : event.isWrite = false := by
      rcases h' with ⟨_, rfl⟩ | hsel | hsel | hsel
      · rfl
      · obtain ⟨-, _, -, rfl⟩ := proxyExpired_some hsel
        rfl
      · rw [(handshakeOverdue_some hsel).1]
        rfl
      · rw [(pumpReady_some hsel).1]
        rfl
    rw [hevent]
    rfl

/-- A completed send was given what was left of the ciphertext buffer. -/
theorem SendKept.submitted {now : Instant} {c : UringConnection σ} {clears : Nat}
    {ops ops₀ : List ConnectionOp} {submitted : List UInt8} {result : Int}
    (h : SendKept c clears (ops.filter ConnectionOp.isSend))
    (hready : Ready cfg now c (.write submitted result) ops ops₀) :
    c.writePending = true
      ∧ (c.ssl.isSome = true → submitted = c.sslWriteBuffer.drop c.sslWriteOffset) := by
  obtain ⟨buffer, offset, clears', before, after, hsubmitted, rfl, rfl⟩ := hready.of_write
  have hmem : ConnectionOp.send buffer offset clears'
      ∈ (before ++ .send buffer offset clears' :: after).filter ConnectionOp.isSend :=
    List.mem_filter.mpr ⟨by simp, rfl⟩
  obtain ⟨hpending, hkept⟩ := h.of_mem hmem
  refine ⟨hpending, fun hssl => ?_⟩
  obtain ⟨hbuffer, hoffset, -⟩ := hkept hssl
  rw [hbuffer, hoffset, hsubmitted]

theorem SendKept.turn {now : Instant} {event : TurnEvent} {c c' : UringConnection σ}
    {clears : Nat} {ops ops₀ pushed : List ConnectionOp} {acts : List Act}
    (h : SendKept c clears (ops.filter ConnectionOp.isSend))
    (hready : Ready cfg now c event ops ops₀)
    (houtcome : TurnOutcome env event c clears (some c') pushed acts) :
    SendKept c' (clears + clearsIn acts) ((ops₀ ++ pushed).filter ConnectionOp.isSend) := by
  have hsends := h.ready hready
  cases houtcome with
  | moved hmove hfinish =>
      have hnotes := clearsIn_notes hmove.notes
      rw [hnotes, Nat.add_zero] at hfinish
      rw [clearsIn_append, hnotes, Nat.zero_add]
      refine SendKept.finish ?_ hfinish
      split_ifs at hsends with hwrite
      · -- the completed send was the one pending
        rw [hsends]
        cases event with
        | write submitted result =>
            cases hmove with
            | write hmove => exact .idle hmove.frame.1
            | noProxy hevent => cases hevent
        | _ => cases hwrite
      · rw [hsends]
        exact h.congr (hmove.sameOutput (Bool.eq_false_iff.mpr hwrite)) hmove.sameClient
  | received hevent hpos hintake hflush hmove hfinish =>
      subst hevent
      rw [hintake.clears, Nat.add_zero] at hflush
      have hread : SameOutput c c.markReadCompleted := ⟨rfl, rfl, rfl⟩
      have hstart := h.congr (hread.trans hintake.sameOutput)
        ((sameClient_markReadCompleted c).trans hintake.sameClient)
      rw [← show ops₀.filter ConnectionOp.isSend = _ from hsends] at hstart
      have hflushed := hstart.finish hflush
      have hmoved := hflushed.congr hmove.frame.1 hmove.sameClient
      simp only [clearsIn_append, hintake.clears, clearsIn_notes hmove.frame.2, Nat.zero_add,
        Nat.add_zero] at hfinish ⊢
      have hdone := hmoved.finish hfinish
      rw [← List.append_assoc, ← Nat.add_assoc]
      exact hdone

/-- A removal the guard allows leaves no send behind. -/
theorem SendKept.removed {now : Instant} {id : ConnectionId} {event : TurnEvent}
    {c : UringConnection σ} {clears : Nat} {ops ops₀ pushed : List ConnectionOp}
    {acts : List Act} (h : SendKept c clears (ops.filter ConnectionOp.isSend))
    (hindex : c.listenerIndex < env.listeners.length) (henv : env.toConfig = cfg)
    (hgen : c.generation = id.generation)
    (hguard : sparesPendingSend cfg (.turn id event world (some c)) = true)
    (hready : Ready cfg now c event ops ops₀)
    (houtcome : TurnOutcome env event c clears none pushed acts) :
    (ops₀ ++ pushed).filter ConnectionOp.isSend = [] := by
  have hsends := h.ready hready
  cases houtcome with
  | removed hmove =>
      rw [List.append_nil]
      split_ifs at hsends with hwrite
      · exact hsends
      · rw [hsends]
        cases hpending : c.writePending with
        | false => exact h.eq_nil hpending
        | true =>
            have hdrops := dropsOn_of_removed henv hready hpending (Bool.eq_false_iff.mpr hwrite)
              hmove
            simp [sparesPendingSend, UringConnection.matchesGeneration, hgen, hpending,
              hdrops] at hguard
  | receivedRemoved hevent hpos hintake hflush hmove =>
      -- only a missing listener removes a connection here
      cases hmove with
      | dispatched _ _ _ _ _ _ hreceive hanswer =>
          cases hanswer with
          | noListener hmissing =>
              have hsame := ((((sameClient_markReadCompleted c).trans hintake.sameClient).trans
                hflush.sameClient).trans (sameClient_receiveRequest hreceive)).listenerIndex
              rw [hsame, List.getElem?_eq_none_iff] at hmissing
              omega

def sendRule (cfg : Config σ) : SlotRule cfg where
  Inv c ops log := SendKept c (clearsIn log) (ops.filter ConnectionOp.isSend)
    ∧ c.listenerIndex < cfg.listeners.length
  Guard item := sparesPendingSend cfg item = true
  Outlives op := op.isSend = false
  Gone _ _ := True
  accepted := by
    intro id c stale hfresh _ hstale
    have hnone : stale.filter ConnectionOp.isSend = [] :=
      List.filter_eq_nil_iff.mpr (fun op hop => by simp [hstale op hop])
    cases hfresh with
    | mk socket listenerIndex ssl hindex _ =>
        refine ⟨?_, hindex⟩
        rw [List.filter_append, hnone]
        exact .idle rfl
  turn := by
    intro env id event c c' ops ops₀ pushed log acts _ _ _ _ hready hinv houtcome
    rw [clearsIn_append]
    exact ⟨hinv.1.turn hready houtcome, by rw [houtcome.sameClient.listenerIndex]; exact hinv.2⟩
  removed := by
    intro env id event c ops ops₀ pushed log acts henv hlen hgen hguard hready hinv houtcome
    have hnone := hinv.1.removed (by rw [hlen]; exact hinv.2) henv hgen hguard hready houtcome
    refine ⟨trivial, fun op hop => ?_⟩
    exact Bool.eq_false_iff.mpr (List.filter_eq_nil_iff.mp hnone op hop)

/-- **A send in flight finds its buffer as it was submitted.**  In every run in
which no event that drops a connection meets a pending send, the owner of every
client send in flight is still in the slab under its generation, and if it is a
TLS connection its `ssl_write_buffer` has neither been cleared nor changed. -/
theorem in_flight_send_keeps_buffer {w : IoUringWorker σ} (h : Reachable cfg w)
    (hguard : ∀ item ∈ w.history, sparesPendingSend cfg item = true) :
    ∀ id buffer offset clears, Entry.operation id (.send buffer offset clears) ∈ w.inFlight →
      ∃ occ, w.connections.get id.slot = some occ
        ∧ occ.connection.generation = id.generation ∧ occ.connection.writePending = true
        ∧ (occ.connection.ssl.isSome = true → occ.connection.sslWriteBuffer = buffer
          ∧ occ.connection.sslWriteOffset = offset ∧ clearsIn occ.log = clears) := by
  have hholds := (sendRule cfg).holds h hguard
  intro id buffer offset clears hmem
  rcases hholds.owned id _ hmem with ⟨occ, hget, hgen⟩ | hout
  · have hkept := (hholds.live id.slot occ hget).1
    have hid : (⟨id.slot, occ.connection.generation⟩ : ConnectionId) = id := by rw [hgen]
    have hsend : ConnectionOp.send buffer offset clears
        ∈ (opsOf id w.inFlight).filter ConnectionOp.isSend :=
      List.mem_filter.mpr ⟨mem_opsOf.mpr hmem, rfl⟩
    rw [hid] at hkept
    exact ⟨occ, hget, hgen, hkept.of_mem hsend⟩
  · cases hout

/-- A TLS worker whose client has two handshake flights. -/
def toyHandshake : Config ToySession := Config.single (Rustls.toy 64) (some ⟨2, 100⟩) []

/-- The client's first flight has been received and answered: a send and a receive
are in flight together. -/
def firstFlight : List Event := [.accepts 5, .completed 4 (.received [1]) [] .quiet]

theorem in_flight_send_keeps_buffer_firstFlight :
    ∃ w, Reachable toyHandshake w
      ∧ (∀ item ∈ w.history, sparesPendingSend toyHandshake item = true)
      ∧ Entry.operation ⟨0, 1⟩ (.send [22] 0 1) ∈ w.inFlight
      ∧ ∃ occ, w.connections.get 0 = some occ
        ∧ occ.connection.generation = 1 ∧ occ.connection.writePending = true
        ∧ (occ.connection.ssl.isSome = true → occ.connection.sslWriteBuffer = [22]
          ∧ occ.connection.sslWriteOffset = 0 ∧ clearsIn occ.log = 1) := by
  have hrun : bootsTo toyHandshake .quiet firstFlight (fun w =>
      w.history.all (sparesPendingSend toyHandshake)
        && w.inFlight.contains (.operation ⟨0, 1⟩ (.send [22] 0 1))) = true := by
    decide +kernel
  obtain ⟨w, hw, hp⟩ := reachable_of_bootsTo hrun
  simp only [Bool.and_eq_true, List.all_eq_true, List.contains_iff_mem] at hp
  exact ⟨w, hw, hp.1, hp.2, in_flight_send_keeps_buffer hw hp.1 ⟨0, 1⟩ [22] 0 1 hp.2⟩

/-- When the client closes while the answer to its first flight is being sent, the
connection is removed and the send is left without its buffer. -/
theorem client_close_frees_pending_send :
    ¬ ∀ w, Reachable toyHandshake w → ∀ id buffer offset clears,
      Entry.operation id (.send buffer offset clears) ∈ w.inFlight →
      ∃ occ, w.connections.get id.slot = some occ
        ∧ occ.connection.generation = id.generation ∧ occ.connection.writePending = true
        ∧ (occ.connection.ssl.isSome = true → occ.connection.sslWriteBuffer = buffer
          ∧ occ.connection.sslWriteOffset = offset ∧ clearsIn occ.log = clears) := by
  intro hall
  have hrun : bootsTo toyHandshake .quiet
      (firstFlight ++ [.completed 5 (.plain 0) [] .quiet])
      (fun w => w.inFlight.contains (.operation ⟨0, 1⟩ (.send [22] 0 1))
        && (w.connections.get 0).isNone) = true := by
    decide +kernel
  obtain ⟨w, hw, hp⟩ := reachable_of_bootsTo hrun
  simp only [Bool.and_eq_true, List.contains_iff_mem, Option.isNone_iff_eq_none] at hp
  obtain ⟨occ, hget, -⟩ := hall w hw ⟨0, 1⟩ [22] 0 1 hp.1
  rw [hp.2] at hget
  cases hget

end Thwip.IoUring
