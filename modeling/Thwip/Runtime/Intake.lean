/-
  Thwip.Runtime.Intake — the two workers receive a request alike.

  The incremental read, limit, parse, framing and body-completion logic is
  written twice: as a loop with breaks over a phase enumeration
  (`Readiness.Connection.receive`) and as early returns over option fields
  (`IoUring.UringConnection.receiveRequest`).  The first half of this file is a
  simulation between them, and ties the verdicts to what `handle_read_completion`
  notes in the trace of its connection; the second half says what a dispatched
  request is.
-/
import Thwip.IoUring.Turns
import Thwip.Readiness.Connection

namespace Thwip

open Thwip.Lib
open Thwip.IoUring (UringConnection recordRequest)

variable {σ τ : Type}

/-! ## §1. Verdicts of a chunk list. -/

/-- The verdicts after each chunk, up to and including the first that is not to
keep waiting. -/
def verdicts {κ : Type} (receive : κ → List UInt8 → κ × ReadVerdict) :
    κ → List (List UInt8) → List ReadVerdict
  | _, [] => []
  | connection, chunk :: chunks =>
      match receive connection chunk with
      | (connection, .keepWaiting) => .keepWaiting :: verdicts receive connection chunks
      | (_, verdict) => [verdict]

/-- The chunks a socket's reads deliver. -/
def chunksOf (socket : List IoRead) : List (List UInt8) :=
  socket.filterMap (fun read =>
    match read with
    | .ok bytes => some bytes
    | _ => none)

@[simp] theorem chunksOf_cons_ok (bytes : List UInt8) (socket : List IoRead) :
    chunksOf (.ok bytes :: socket) = bytes :: chunksOf socket := rfl

/-! ## §2. The simulation. -/

/-- The two workers' records of one client agree. -/
structure SameIntake (c : Readiness.Connection σ) (u : UringConnection τ) : Prop where
  phase : c.phase = .reading u.pendingRequest
  buffer : c.readBuffer = u.requestBuffer

theorem SameIntake.pending {c : Readiness.Connection σ} {u : UringConnection τ}
    (h : SameIntake c u) : c.pendingRequest = u.pendingRequest := by
  simp [Readiness.Connection.pendingRequest, h.phase]

/-- The end of an iteration agrees. -/
theorem finishRequest_eq_completeRequest {c : Readiness.Connection σ} {u : UringConnection τ}
    (h : SameIntake c u) :
    c.finishRequest.2 = u.completeRequest.2
      ∧ SameIntake c.finishRequest.1 u.completeRequest.1 := by
  unfold Readiness.Connection.finishRequest UringConnection.completeRequest
  rw [h.pending, h.buffer]
  cases u.pendingRequest with
  | none => exact ⟨rfl, h⟩
  | some pending =>
      dsimp only
      split_ifs with hlen
      · have htake : c.takePendingRequest = { c with phase := .reading none } := by
          simp [Readiness.Connection.takePendingRequest, h.phase]
        rw [htake]
        exact ⟨rfl, ⟨rfl, h.buffer⟩⟩
      · exact ⟨rfl, h⟩

/-- The size checks agree: a sum that does not fit a `usize` is above the limit. -/
theorem exceedsReadLimit_eq {limits : WorkerLimits}
    (hlimit : limits.maxReadBufferSize < 2 ^ usizeBits) (a b : Nat) :
    IoUring.exceedsReadLimit limits a b = decide (a + b > limits.maxReadBufferSize) := by
  unfold IoUring.exceedsReadLimit checkedAdd
  split_ifs with hfits
  · rfl
  · symm
    rw [decide_eq_true_eq]
    omega

/-- The nested matches of the loop decide what `recordRequest` decides. -/
theorem receive_eq_recordRequest (limits : WorkerLimits) (now : Instant)
    {c : Readiness.Connection σ} (hphase : c.phase = .reading none) (received : List UInt8)
    (hfits : ¬ c.readBuffer.length + received.length > limits.maxReadBufferSize) :
    c.receive limits now received
      = match recordRequest limits (c.readBuffer ++ received) with
        | .error (status, message) =>
            ({ c with readBuffer := c.readBuffer ++ received, lastProgress := now },
              .error status message)
        | .ok pendingRequest =>
            Readiness.Connection.finishRequest
              { c with readBuffer := c.readBuffer ++ received, lastProgress := now
                       phase := .reading pendingRequest } := by
  unfold Readiness.Connection.receive recordRequest
  rw [if_neg hfits]
  dsimp only
  rw [if_pos (by simp [Readiness.Connection.pendingRequest, hphase])]
  cases parseRequestHead (c.readBuffer ++ received) with
  | error e => rfl
  | ok parse =>
      cases parse with
      | incomplete => simp [hphase]
      | complete head consumed =>
          dsimp only
          cases head.bodyLength with
          | error e => cases e <;> rfl
          | ok bodyLength =>
              dsimp only
              cases checkedAdd consumed bodyLength with
              | none => rfl
              | some bodyEnd =>
                  dsimp only
                  split_ifs
                  · rfl
                  · simp [Readiness.Connection.setPendingRequest, hphase]

/-- **One chunk**: the same verdict, and records that still agree. -/
theorem receive_eq_receiveRequest {limits : WorkerLimits}
    (hlimit : limits.maxReadBufferSize < 2 ^ usizeBits) (now : Instant)
    {c : Readiness.Connection σ} {u : UringConnection τ} (h : SameIntake c u)
    (received : List UInt8) :
    (c.receive limits now received).2 = (u.receiveRequest limits received).2
      ∧ SameIntake (c.receive limits now received).1 (u.receiveRequest limits received).1 := by
  unfold UringConnection.receiveRequest
  rw [exceedsReadLimit_eq hlimit, ← h.buffer]
  by_cases hlarge : c.readBuffer.length + received.length > limits.maxReadBufferSize
  · rw [if_pos (by simpa using hlarge)]
    unfold Readiness.Connection.receive
    rw [if_pos hlarge]
    exact ⟨rfl, h⟩
  · rw [if_neg (by simpa using hlarge)]
    dsimp only
    cases hpend : u.pendingRequest with
    | none =>
        have hphase : c.phase = .reading none := by rw [h.phase, hpend]
        rw [receive_eq_recordRequest limits now hphase received hlarge]
        cases recordRequest limits (c.readBuffer ++ received) with
        | error e => exact ⟨rfl, ⟨hphase, rfl⟩⟩
        | ok pending => exact finishRequest_eq_completeRequest ⟨rfl, rfl⟩
    | some pending =>
        have hphase : c.phase = .reading (some pending) := by rw [h.phase, hpend]
        unfold Readiness.Connection.receive
        rw [if_neg hlarge]
        dsimp only
        rw [if_neg (by simp [Readiness.Connection.pendingRequest, hphase])]
        exact finishRequest_eq_completeRequest ⟨hphase, rfl⟩

/-! ## §3. The read loop and the ready events. -/

theorem finishRequest_ssl (c : Readiness.Connection σ) : c.finishRequest.1.ssl = c.ssl := by
  unfold Readiness.Connection.finishRequest
  split
  · split_ifs
    · unfold Readiness.Connection.takePendingRequest
      split <;> rfl
    · rfl
  · rfl

theorem receive_ssl (limits : WorkerLimits) (now : Instant)
    {c : Readiness.Connection σ} {u : UringConnection τ} (h : SameIntake c u)
    (received : List UInt8) : (c.receive limits now received).1.ssl = c.ssl := by
  by_cases hlarge : c.readBuffer.length + received.length > limits.maxReadBufferSize
  · unfold Readiness.Connection.receive
    rw [if_pos hlarge]
  · cases hpend : u.pendingRequest with
    | none =>
        rw [receive_eq_recordRequest limits now (by rw [h.phase, hpend]) received hlarge]
        split
        · rfl
        · exact finishRequest_ssl _
    | some pending =>
        unfold Readiness.Connection.receive
        rw [if_neg hlarge]
        dsimp only
        rw [if_neg (by simp [Readiness.Connection.pendingRequest, h.phase, hpend])]
        exact finishRequest_ssl _

/-- The socket neither fails nor ends. -/
def LiveReads (socket : List IoRead) : Prop :=
  ∀ read ∈ socket, read ≠ .failed ∧ read ≠ .ok []

theorem readOnce_plaintext (tls : Rustls σ) {c : Readiness.Connection σ} (hssl : c.ssl = none)
    (next : IoRead) (socket : List IoRead) :
    c.readOnce tls (next :: socket) = (next, c, socket) := by
  unfold Readiness.Connection.readOnce
  rw [hssl]

/-- What the loop does to the verdicts of the whole socket: it has them all when
it stops at a decision, else it has the first of them and leaves the rest. -/
inductive LoopAgrees (τ : Type) (limits : WorkerLimits) (all : List ReadVerdict) (length : Nat)
    (pass : Readiness.ReadPass σ) : Prop where
  | decided (hall : pass.verdicts = all) (hany : pass.verdicts.any (· ≠ .keepWaiting) = true)
  | waiting (u : UringConnection τ) (hsame : SameIntake pass.connection u)
      (hssl : pass.connection.ssl = none) (hlive : LiveReads pass.socket)
      (hany : pass.verdicts.any (· ≠ .keepWaiting) = false)
      (hall : pass.verdicts ++ verdicts (UringConnection.receiveRequest limits) u
        (chunksOf pass.socket) = all)
      (hlen : pass.socket.length ≤ length)

/-- **The loop** follows the io_uring worker's verdicts, within any budget. -/
theorem readLoop_agrees (tls : Rustls σ) {limits : WorkerLimits}
    (hlimit : limits.maxReadBufferSize < 2 ^ usizeBits) (now : Instant) :
    ∀ (reads : Nat) (c : Readiness.Connection σ) (u : UringConnection τ) (socket : List IoRead),
      SameIntake c u → c.ssl = none → LiveReads socket →
      (Readiness.readLoop tls limits now reads c socket).closed = false
        ∧ LoopAgrees τ limits
            (verdicts (UringConnection.receiveRequest limits) u (chunksOf socket))
            (socket.length - min 1 reads)
            (Readiness.readLoop tls limits now reads c socket) := by
  intro reads
  induction reads with
  | zero =>
      intro c u socket hsame hssl hlive
      refine ⟨rfl, .waiting u hsame hssl hlive rfl rfl ?_⟩
      simp [Readiness.readLoop]
  | succ reads ih =>
      intro c u socket hsame hssl hlive
      cases socket with
      | nil => exact ⟨rfl, .waiting u hsame hssl hlive rfl rfl (Nat.le_refl _)⟩
      | cons next socket =>
          have hrest : LiveReads socket := fun r hr => hlive r (List.mem_cons_of_mem _ hr)
          have hnext := hlive next List.mem_cons_self
          unfold Readiness.readLoop
          rw [readOnce_plaintext tls hssl]
          cases next with
          | failed => exact absurd rfl hnext.1
          | wouldBlock =>
              exact ⟨rfl, .waiting u hsame hssl hrest rfl rfl (by simp)⟩
          | interrupted =>
              obtain ⟨hclosed, hagrees⟩ := ih c u socket hsame hssl hrest
              refine ⟨hclosed, ?_⟩
              cases hagrees with
              | decided hall hany => exact .decided hall hany
              | waiting u' hsame' hssl' hlive' hany hall hlen =>
                  exact .waiting u' hsame' hssl' hlive' hany hall (by
                    simp only [Readiness.ReadPass.after_socket, List.length_cons]; omega)
          | ok bytes =>
              have hne : bytes ≠ [] := fun h => hnext.2 (by rw [h])
              obtain ⟨b, bytes', rfl⟩ := List.exists_cons_of_ne_nil hne
              obtain ⟨hverdict, hsame'⟩ := receive_eq_receiveRequest hlimit now hsame (b :: bytes')
              have hssl' := receive_ssl limits now hsame (b :: bytes')
              rw [hssl] at hssl'
              rw [chunksOf_cons_ok]
              simp only [verdicts]
              -- the loop goes on exactly when the other worker would
              cases hc : c.receive limits now (b :: bytes') with
              | mk c' v =>
                  cases hu : u.receiveRequest limits (b :: bytes') with
                  | mk u' v' =>
                      rw [hc, hu] at hverdict hsame'
                      rw [hc] at hssl'
                      dsimp only at hverdict hsame' hssl'
                      subst hverdict
                      cases v with
                      | error status message => exact ⟨rfl, .decided rfl (by simp)⟩
                      | dispatch head body => exact ⟨rfl, .decided rfl (by simp)⟩
                      | keepWaiting =>
                          obtain ⟨hclosed, hagrees⟩ := ih c' u' socket hsame' hssl' hrest
                          refine ⟨hclosed, ?_⟩
                          cases hagrees with
                          | decided hall hany =>
                              exact .decided (by simp [hall]) (by simpa using hany)
                          | waiting u'' hsame'' hssl'' hlive'' hany hall hlen =>
                              exact .waiting u'' hsame'' hssl'' hlive'' (by simpa using hany)
                                (by simp [hall])
                                (by simp only [Readiness.ReadPass.after_socket, List.length_cons]; omega)

/-- **The ready events** produce the io_uring worker's verdicts, all of them
once there are enough events to read the whole socket. -/
theorem readEvents_agree (tls : Rustls σ) {limits : WorkerLimits}
    (hlimit : limits.maxReadBufferSize < 2 ^ usizeBits) :
    ∀ (events : List Instant) (c : Readiness.Connection σ) (u : UringConnection τ)
      (socket : List IoRead), SameIntake c u → c.ssl = none → LiveReads socket →
      Readiness.readEvents tls limits events c socket
          <+: verdicts (UringConnection.receiveRequest limits) u (chunksOf socket)
        ∧ (socket.length ≤ events.length →
            Readiness.readEvents tls limits events c socket
              = verdicts (UringConnection.receiveRequest limits) u (chunksOf socket)) := by
  intro events
  induction events with
  | nil =>
      intro c u socket _ _ _
      refine ⟨List.nil_prefix, fun hlen => ?_⟩
      have hnil : socket = [] := List.length_eq_zero_iff.mp (Nat.le_zero.mp hlen)
      subst hnil
      rfl
  | cons now events ih =>
      intro c u socket hsame hssl hlive
      have hready : Readiness.connectionReady tls limits now c socket
          = Readiness.readLoop tls limits now Readiness.maxReadsPerEvent c socket := by
        unfold Readiness.connectionReady
        rw [if_neg (by simp [Readiness.Connection.isHandlingRequest, hsame.phase])]
      obtain ⟨hclosed, hagrees⟩ :=
        readLoop_agrees tls hlimit now Readiness.maxReadsPerEvent c u socket hsame hssl hlive
      unfold Readiness.readEvents
      rw [hready]
      dsimp only
      cases hagrees with
      | decided hall hany =>
          rw [if_pos (by rw [hany, Bool.or_true]), hall]
          exact ⟨List.prefix_refl _, fun _ => rfl⟩
      | waiting u' hsame' hssl' hlive' hany hall hlen' =>
          obtain ⟨hstart, heq⟩ := ih _ u' _ hsame' hssl' hlive'
          rw [if_neg (by rw [hclosed, hany]; decide), ← hall]
          refine ⟨(List.prefix_append_right_inj _).mpr hstart, fun hlen => ?_⟩
          rw [heq (by
            simp only [Readiness.maxReadsPerEvent, List.length_cons] at hlen hlen' ⊢
            omega)]

/-! ## §4. Receive completions. -/

section Completions

open IoUring

variable {env : Env τ} {t t' : Turn τ} {c : UringConnection τ}

/-- The verdicts that `handle_read_completion` notes when a receive completes with
each of the chunks in turn, up to the first that is not to keep waiting. -/
inductive Completions (env : Env τ) :
    Turn τ → List (List UInt8) → List ReadVerdict → Prop where
  | nil (t : Turn τ) : Completions env t [] []
  | waits (t t' : Turn τ) (bufferId : Option Nat) (chunk : List UInt8)
      (chunks : List (List UInt8)) (verdicts : List ReadVerdict) (rest : List Act)
      (hrun : handleReadCompletion env chunk.length bufferId (chunk.getD · 0) t = .ok t')
      (hlog : t'.log = t.log ++ .copied chunk :: .verdict .keepWaiting :: rest)
      (h : Completions env t' chunks verdicts) :
      Completions env t (chunk :: chunks) (.keepWaiting :: verdicts)
  | decides (t t' : Turn τ) (bufferId : Option Nat) (chunk : List UInt8)
      (chunks : List (List UInt8)) (verdict : ReadVerdict) (rest : List Act)
      (hne : verdict ≠ .keepWaiting)
      (hrun : handleReadCompletion env chunk.length bufferId (chunk.getD · 0) t = .ok t')
      (hlog : t'.log = t.log ++ .copied chunk :: .verdict verdict :: rest) :
      Completions env t (chunk :: chunks) [verdict]

theorem ok_of_any {x : Except Exit (Turn τ)} {p : Turn τ → Bool}
    (h : x.toOption.any p = true) : ∃ t, x = .ok t ∧ p t = true := by
  cases x with
  | error exit => cases h
  | ok t => exact ⟨t, rfl, h⟩

/-- The flag of a pending receive plays no part in a verdict. -/
theorem receiveRequest_readPending {limits : WorkerLimits} {c d : UringConnection τ}
    {chunk : List UInt8} {verdict : ReadVerdict} (flag : Bool)
    (h : c.receiveRequest limits chunk = (d, verdict)) :
    { c with readPending := flag }.receiveRequest limits chunk
      = ({ d with readPending := flag }, verdict) := by
  have hcomplete : ∀ {e e' : UringConnection τ}, e.completeRequest = (e', verdict) →
      { e with readPending := flag }.completeRequest
        = ({ e' with readPending := flag }, verdict) := by
    intro e e' he
    unfold UringConnection.completeRequest at he ⊢
    cases hpending : e.pendingRequest with
    | none =>
        simp only [hpending] at he ⊢
        cases he
        rw [hpending]
    | some pending =>
        simp only [hpending] at he ⊢
        split_ifs at he ⊢
        · cases he
          rfl
        · cases he
          rw [hpending]
  unfold UringConnection.receiveRequest at h ⊢
  dsimp only at h ⊢
  split_ifs at h ⊢
  · cases h
    rfl
  · split at h
    next hpending =>
      simp only [hpending] at h ⊢
      exact hcomplete h
    next hpending =>
      simp only [hpending] at h ⊢
      split at h
      · cases h
        rfl
      · exact hcomplete h

theorem verdicts_readPending (limits : WorkerLimits) (flag : Bool) :
    ∀ (chunks : List (List UInt8)) (c : UringConnection τ),
      verdicts (UringConnection.receiveRequest limits) { c with readPending := flag } chunks
        = verdicts (UringConnection.receiveRequest limits) c chunks
  | [], _ => rfl
  | chunk :: chunks, c => by
      unfold verdicts
      cases hverdict : c.receiveRequest limits chunk with
      | mk d verdict =>
          rw [receiveRequest_readPending flag hverdict]
          cases verdict with
          | keepWaiting =>
              exact congrArg (ReadVerdict.keepWaiting :: ·)
                (verdicts_readPending limits flag chunks d)
          | _ => rfl

/-- The first note on received plaintext is the verdict. -/
theorem plaintextMove_verdict {plaintext : List UInt8} {next : Next} {d : UringConnection τ}
    {c₁ : Option (UringConnection τ)} {acts : List Act} {verdict : ReadVerdict}
    (h : PlaintextMove env plaintext c next c₁ acts) (hne : plaintext ≠ [])
    (hreceive : c.receiveRequest env.limits plaintext = (d, verdict)) :
    (∃ rest, acts = .verdict verdict :: rest)
      ∧ (verdict = .keepWaiting → next = .recv ∧ c₁ = some d) := by
  cases h with
  | empty hnil => exact absurd hnil hne
  | waiting c₁ h =>
      cases h.symm.trans hreceive
      exact ⟨⟨_, rfl⟩, fun _ => ⟨rfl, rfl⟩⟩
  | rejected c₁ status message response _ h =>
      cases h.symm.trans hreceive
      exact ⟨⟨_, rfl⟩, fun heq => by cases heq⟩
  | dispatched c₁ head body _ _ _ h _ =>
      cases h.symm.trans hreceive
      exact ⟨⟨_, rfl⟩, fun heq => by cases heq⟩

/-- **A completed receive notes the verdict on its bytes**, and while it is to keep
waiting the connection stays, with the next receive submitted. -/
theorem handleReadCompletion_notes (h : t.Current c) (hssl : c.ssl = none) {result : Int}
    (hpos : 0 < result) {bufferId : Option Nat} {contents : Nat → UInt8} {d : UringConnection τ}
    {verdict : ReadVerdict}
    (hreceive : c.receiveRequest env.limits ((List.range result.toNat).map contents)
      = (d, verdict))
    (hrun : handleReadCompletion env result bufferId contents t = .ok t') :
    (∃ rest, t'.log
      = t.log ++ .copied ((List.range result.toNat).map contents) :: .verdict verdict :: rest)
    ∧ (verdict = .keepWaiting → t'.Current { d with readPending := true } ∧ d.ssl = none) := by
  have hne : (List.range result.toNat).map contents ≠ [] := map_range_ne_nil hpos contents
  have hmarked := receiveRequest_readPending false hreceive
  have hframe := receiveRequest_frame hreceive
  obtain ⟨c', pushed, acts, houtcome, hbecame⟩ :
      ∃ c' pushed acts, TurnOutcome env (.read result bufferId contents) c (clearsIn t.log)
        c' pushed acts ∧ t.Became t' c' pushed acts := handleTurn_outcome h hrun
  have hlog := hbecame.log
  cases houtcome with
  | moved hmove hfinish =>
      cases hmove with
      | recvBroken => cases hfinish with
          | upstream _ _ hkind => cases hkind
      | recvRetry hneg => omega
      | noProxy hevent => cases hevent
  | removed hmove =>
      cases hmove with
      | recvClosed hle => omega
      | tlsFailed _ ssl hsome => cases hssl.symm.trans hsome
  | received hevent _ hintake hflush hmove hfinish =>
      cases hevent
      cases hintake with
      | tls ssl _ hsome => cases hssl.symm.trans hsome
      | plain =>
          cases hflush with
          | upstream _ _ hkind => cases hkind
          | done =>
              obtain ⟨⟨rest, rfl⟩, hwaits⟩ := plaintextMove_verdict hmove hne hmarked
              refine ⟨⟨rest ++ _, by simpa using hlog⟩, fun hverdict => ?_⟩
              obtain ⟨rfl, hd⟩ := hwaits hverdict
              cases hd
              obtain ⟨_, _, _, rfl⟩ := hframe
              cases hfinish with
              | upstream _ _ hkind => cases hkind
              | recvBusy hbusy => cases hbusy
              | recv =>
                  exact ⟨⟨hbecame.connection, h.generation.trans (by rw [hbecame.id])⟩, hssl⟩
  | receivedRemoved hevent _ hintake hflush hmove =>
      cases hevent
      cases hintake with
      | tls ssl _ hsome => cases hssl.symm.trans hsome
      | plain =>
          cases hflush with
          | upstream _ _ hkind => cases hkind
          | done =>
              obtain ⟨⟨rest, rfl⟩, hwaits⟩ := plaintextMove_verdict hmove hne hmarked
              refine ⟨⟨rest, by simpa using hlog⟩, fun hverdict => ?_⟩
              cases (hwaits hverdict).1

/-- … and for a chunk given as a list. -/
theorem handleReadCompletion_chunk (h : t.Current c) (hssl : c.ssl = none) {chunk : List UInt8}
    (hne : chunk ≠ []) {bufferId : Option Nat} {verdict : ReadVerdict} {rest : List Act}
    (hrun : handleReadCompletion env chunk.length bufferId (chunk.getD · 0) t = .ok t')
    (hlog : t'.log = t.log ++ .copied chunk :: .verdict verdict :: rest) :
    ∃ d, c.receiveRequest env.limits chunk = (d, verdict)
      ∧ (verdict = .keepWaiting → t'.Current { d with readPending := true } ∧ d.ssl = none) := by
  have hpos : (0 : Int) < chunk.length := by
    have hlen := List.length_pos_iff.mpr hne
    omega
  have hbytes : (List.range (chunk.length : Int).toNat).map (chunk.getD · 0) = chunk := by
    refine List.ext_getElem (by simp) (fun i hi hi' => ?_)
    simp [hi']
  cases hreceive : c.receiveRequest env.limits chunk with
  | mk d verdict' =>
      have hreceive' : c.receiveRequest env.limits
          ((List.range (chunk.length : Int).toNat).map (chunk.getD · 0)) = (d, verdict') := by
        rw [hbytes]
        exact hreceive
      obtain ⟨⟨rest', hlog'⟩, hwaits⟩ := handleReadCompletion_notes h hssl hpos hreceive' hrun
      -- the traces agree, so do the verdicts in them
      rw [hbytes, hlog] at hlog'
      have htail := List.append_cancel_left hlog'
      simp only [List.cons.injEq, Act.verdict.injEq, true_and] at htail
      obtain ⟨rfl, -⟩ := htail
      exact ⟨d, rfl, hwaits⟩

/-- **The noted verdicts are those of `receiveRequest`.** -/
theorem Completions.verdicts {chunks : List (List UInt8)} {noted : List ReadVerdict}
    (h : Completions env t chunks noted) :
    ∀ {c : UringConnection τ}, t.Current c → c.ssl = none → (∀ chunk ∈ chunks, chunk ≠ []) →
      noted = Thwip.verdicts (UringConnection.receiveRequest env.limits) c chunks := by
  induction h with
  | nil => exact fun _ _ _ => rfl
  | waits t t' bufferId chunk chunks verdicts rest hrun hlog _ ih =>
      intro c hcur hssl hchunks
      obtain ⟨d, hreceive, hwaits⟩ :=
        handleReadCompletion_chunk hcur hssl (hchunks chunk List.mem_cons_self) hrun hlog
      obtain ⟨hcur', hssl'⟩ := hwaits rfl
      unfold Thwip.verdicts
      rw [hreceive, ih hcur' hssl' (fun x hx => hchunks x (List.mem_cons_of_mem _ hx)),
        verdicts_readPending]
  | decides t t' bufferId chunk chunks verdict rest hne hrun hlog =>
      intro c hcur hssl hchunks
      obtain ⟨d, hreceive, -⟩ :=
        handleReadCompletion_chunk hcur hssl (hchunks chunk List.mem_cons_self) hrun hlog
      unfold Thwip.verdicts
      rw [hreceive]
      cases verdict with
      | keepWaiting => exact absurd rfl hne
      | _ => rfl

end Completions

/-! ## §5. The workers agree. -/

/-- **Both workers reach the same verdict after every chunk**, up to and
including the first that is not to keep waiting, however the readiness worker's
reads are spread over ready events and blocked or interrupted reads; and these are
the verdicts `handle_read_completion` notes when receives complete with the chunks. -/
theorem workers_reach_same_verdicts (tls : Rustls σ) (limits : WorkerLimits)
    (hlimit : limits.maxReadBufferSize < 2 ^ usizeBits)
    (accepted : Instant) (listenerGroup generation : Nat)
    (socket : IoUring.Socket) (uringGeneration : UInt16) (listenerIndex : Nat)
    (reads : List IoRead) (hreads : ∀ read ∈ reads, read ≠ .failed ∧ read ≠ .ok [])
    (events : List Instant) (hevents : reads.length ≤ events.length) :
    Readiness.readEvents tls limits events
        (Readiness.Connection.fresh accepted listenerGroup generation none) reads
      = verdicts (UringConnection.receiveRequest limits)
          (UringConnection.fresh socket uringGeneration listenerIndex none : UringConnection τ)
          (chunksOf reads)
    ∧ ∀ (env : IoUring.Env τ) (t : IoUring.Turn τ) (noted : List ReadVerdict),
        env.limits = limits →
        t.Current (UringConnection.fresh socket uringGeneration listenerIndex
          none).markReadSubmitted →
        Completions env t (chunksOf reads) noted →
        noted = Readiness.readEvents tls limits events
          (Readiness.Connection.fresh accepted listenerGroup generation none) reads := by
  have hagree : Readiness.readEvents tls limits events
      (Readiness.Connection.fresh accepted listenerGroup generation none) reads
        = verdicts (UringConnection.receiveRequest limits)
          (UringConnection.fresh socket uringGeneration listenerIndex none : UringConnection τ)
          (chunksOf reads) :=
    (readEvents_agree tls hlimit events _ _ reads ⟨rfl, rfl⟩ rfl hreads).2 hevents
  refine ⟨hagree, ?_⟩
  rintro env t noted rfl hcur hnoted
  have hchunks : ∀ chunk ∈ chunksOf reads, chunk ≠ [] := by
    intro chunk hchunk hnil
    obtain ⟨read, hread, hbytes⟩ := List.mem_filterMap.mp hchunk
    cases read with
    | ok bytes =>
        cases hbytes
        exact (hreads _ hread).2 (by rw [hnil])
    | _ => cases hbytes
  rw [hagree, hnoted.verdicts hcur rfl hchunks]
  exact verdicts_readPending env.limits true _ _

/-- A worker without locations … -/
def receivingEnv : IoUring.Env Unit :=
  { IoUring.Config.single Rustls.absent none [], IoUring.World.quiet with
    listeners := (IoUring.Config.single Rustls.absent none []).listeners }

/-- … and a client of it whose first receive is in flight. -/
def receivingTurn : IoUring.Turn Unit :=
  { id := ⟨0, 1⟩, connection := some (UringConnection.fresh 3 1 0 none).markReadSubmitted
    log := [], pushed := [], cancelled := [], bufferRing := ⟨[0], 1, 0, 1, 64⟩
    metrics := {}, balancer := UpstreamBalancer.withGroups (fun _ => none), tasks := [] }

theorem completions_get :
    Completions receivingEnv receivingTurn
      [asBytes "GET / HT".toList, asBytes "TP/1.1\r\n\r\n".toList]
      [.keepWaiting, .dispatch ⟨"GET".toList, "/".toList, .http11, []⟩ []] := by
  have hrun : (IoUring.handleReadCompletion receivingEnv 8 (some 0)
      ((asBytes "GET / HT".toList).getD · 0) receivingTurn).toOption.any (fun t =>
        t.log == receivingTurn.log ++
          [.copied (asBytes "GET / HT".toList), .verdict .keepWaiting, .recvSubmitted]
        && (IoUring.handleReadCompletion receivingEnv 10 (some 0)
          ((asBytes "TP/1.1\r\n\r\n".toList).getD · 0) t).toOption.any (fun t' =>
            t'.log.take (t.log.length + 2) == t.log ++
              [.copied (asBytes "TP/1.1\r\n\r\n".toList),
               .verdict (.dispatch ⟨"GET".toList, "/".toList, .http11, []⟩ [])])) = true := by
    decide +kernel
  obtain ⟨t, hwaits, ht⟩ := ok_of_any hrun
  rw [Bool.and_eq_true] at ht
  obtain ⟨t', hdecides, ht'⟩ := ok_of_any ht.2
  refine .waits _ t (some 0) _ _ _ _ hwaits (eq_of_beq ht.1)
    (.decides t t' (some 0) _ _ _ (t'.log.drop (t.log.length + 2)) (by simp) hdecides ?_)
  have hsplit := List.take_append_drop (t.log.length + 2) t'.log
  rw [eq_of_beq ht'] at hsplit
  simpa using hsplit.symm

/-- A GET cut in the middle of its version, with a blocked read in between. -/
theorem workers_reach_same_verdicts_get :
    let limits := receivingEnv.limits
    let reads : List IoRead :=
      [.ok (asBytes "GET / HT".toList), .wouldBlock, .ok (asBytes "TP/1.1\r\n\r\n".toList)]
    limits.maxReadBufferSize < 2 ^ usizeBits
      ∧ (∀ read ∈ reads, read ≠ .failed ∧ read ≠ .ok [])
      ∧ Readiness.readEvents Rustls.absent limits [0, 1, 2]
          (Readiness.Connection.fresh 0 0 1 none) reads
        = verdicts (UringConnection.receiveRequest limits)
            (UringConnection.fresh 3 1 0 none : UringConnection Unit) (chunksOf reads)
      ∧ [.keepWaiting, .dispatch ⟨"GET".toList, "/".toList, .http11, []⟩ []]
        = Readiness.readEvents Rustls.absent limits [0, 1, 2]
            (Readiness.Connection.fresh 0 0 1 none) reads := by
  have hagree := workers_reach_same_verdicts (σ := Unit) (τ := Unit) Rustls.absent
    receivingEnv.limits (by decide) 0 0 1 3 1 0
    [.ok (asBytes "GET / HT".toList), .wouldBlock, .ok (asBytes "TP/1.1\r\n\r\n".toList)]
    (by decide) [0, 1, 2] (by decide)
  exact ⟨by decide, by decide, hagree.1,
    hagree.2 receivingEnv receivingTurn _ rfl ⟨rfl, rfl⟩ completions_get⟩

/-! ## §6. What is dispatched. -/

/-- `head` and `body` are the request at the start of `bytes`. -/
def DispatchedFrom (limits : WorkerLimits) (bytes : List UInt8) (head : RequestHead)
    (body : List UInt8) : Prop :=
  ∃ consumed n, parseRequestHead bytes = .ok (.complete head consumed)
    ∧ head.bodyLength = .ok n
    ∧ body = (bytes.take (consumed + n)).drop consumed
    ∧ consumed + n ≤ bytes.length ∧ bytes.length ≤ limits.maxReadBufferSize

/-- The request at the start of a byte stream does not depend on how much of the
stream has been received. -/
theorem DispatchedFrom.unique {limits : WorkerLimits} {bytes later : List UInt8}
    {head head' : RequestHead} {body body' : List UInt8}
    (h : DispatchedFrom limits bytes head body)
    (h' : DispatchedFrom limits (bytes ++ later) head' body') : head = head' ∧ body = body' := by
  obtain ⟨consumed, n, hparse, hlen, hbody, hle, -⟩ := h
  obtain ⟨consumed', n', hparse', hlen', hbody', -, -⟩ := h'
  rw [parseRequestHead_append_complete later hparse] at hparse'
  injection hparse' with hparse'
  injection hparse' with hhead hconsumed
  subst hhead hconsumed
  rw [hlen] at hlen'
  injection hlen' with hn
  subst hn
  refine ⟨rfl, ?_⟩
  rw [hbody, hbody', List.take_append_of_le_length hle]

/-- What a waiting connection knows about the bytes received so far. -/
structure Waiting (limits : WorkerLimits) (bytes : List UInt8) (u : UringConnection τ) :
    Prop where
  buffer : u.requestBuffer = bytes
  within : bytes.length ≤ limits.maxReadBufferSize
  recorded : ∀ pending, u.pendingRequest = some pending → RecordedFor limits bytes pending

theorem recordRequest_recorded {limits : WorkerLimits} {bytes : List UInt8}
    {pending : PendingRequest} (h : recordRequest limits bytes = .ok (some pending)) :
    RecordedFor limits bytes pending := by
  unfold recordRequest at h
  split at h
  · cases h
  next head consumed hparse =>
    split at h
    · cases h
    · cases h
    · cases h
    next n hlen =>
      unfold checkedAdd at h
      by_cases hfits : consumed + n < 2 ^ usizeBits
      · simp only [if_pos hfits] at h
        split_ifs at h with hlimit
        injection h with h
        injection h with h
        subst h
        exact ⟨hparse, Nat.le_of_not_lt hlimit, n, hlen, rfl⟩
      · simp only [if_neg hfits] at h
        cases h
  · cases h

/-- The end of a step: wait on, or dispatch the recorded request. -/
theorem completeRequest_spec {limits : WorkerLimits} {bytes : List UInt8}
    {u u' : UringConnection τ} {verdict : ReadVerdict} (h : Waiting limits bytes u)
    (hstep : u.completeRequest = (u', verdict)) :
    (verdict = .keepWaiting → Waiting limits bytes u')
      ∧ ∀ head body, verdict = .dispatch head body → DispatchedFrom limits bytes head body := by
  unfold UringConnection.completeRequest at hstep
  split at hstep
  · cases hstep
    exact ⟨fun _ => h, fun _ _ hv => by cases hv⟩
  next pending hpend =>
    split_ifs at hstep with hlen
    · cases hstep
      refine ⟨fun hv => (by cases hv), ?_⟩
      intro head body hv
      cases hv
      obtain ⟨hparse, hend, n, hn, hbodyEnd⟩ := h.recorded pending hpend
      rw [h.buffer] at hlen ⊢
      exact ⟨pending.bodyStart, n, hparse, hn, by rw [hbodyEnd], by omega, h.within⟩
    · cases hstep
      exact ⟨fun _ => h, fun _ _ hv => by cases hv⟩

/-- **One chunk** keeps what a waiting connection knows, or dispatches it. -/
theorem receiveRequest_spec {limits : WorkerLimits} {bytes received : List UInt8}
    {u u' : UringConnection τ} {verdict : ReadVerdict} (h : Waiting limits bytes u)
    (hstep : u.receiveRequest limits received = (u', verdict)) :
    (verdict = .keepWaiting → Waiting limits (bytes ++ received) u')
      ∧ ∀ head body, verdict = .dispatch head body →
          DispatchedFrom limits (bytes ++ received) head body := by
  unfold UringConnection.receiveRequest at hstep
  split_ifs at hstep with hlarge
  · cases hstep
    exact ⟨fun hv => (by cases hv), fun _ _ hv => by cases hv⟩
  · have hwithin : (bytes ++ received).length ≤ limits.maxReadBufferSize := by
      unfold IoUring.exceedsReadLimit checkedAdd at hlarge
      rw [h.buffer] at hlarge
      split_ifs at hlarge with hfits
      · rw [List.length_append]
        simpa using hlarge
      · exact absurd rfl hlarge
    dsimp only at hstep
    split at hstep
    next pending hpend =>
      refine completeRequest_spec ⟨by rw [h.buffer], hwithin, ?_⟩ hstep
      intro p hp
      exact (h.recorded p hp).append received
    next hpend =>
      split at hstep
      · cases hstep
        exact ⟨fun hv => (by cases hv), fun _ _ hv => by cases hv⟩
      next pendingRequest hrecord =>
        rw [h.buffer] at hrecord
        refine completeRequest_spec ⟨by rw [h.buffer], hwithin, ?_⟩ hstep
        intro p hp
        dsimp only at hp
        subst hp
        exact recordRequest_recorded hrecord

/-- **Every chunk list**: a dispatched request is the one its bytes start with. -/
theorem verdicts_dispatch {limits : WorkerLimits} {head : RequestHead} {body : List UInt8} :
    ∀ (chunks : List (List UInt8)) (bytes : List UInt8) (u : UringConnection τ) (k : Nat),
      Waiting limits bytes u →
      (verdicts (UringConnection.receiveRequest limits) u chunks)[k]? = some (.dispatch head body) →
      DispatchedFrom limits (bytes ++ (chunks.take (k + 1)).flatten) head body := by
  intro chunks
  induction chunks with
  | nil =>
      intro bytes u k _ hk
      simp [verdicts] at hk
  | cons chunk chunks ih =>
      intro bytes u k h hk
      cases hstep : u.receiveRequest limits chunk with
      | mk u' verdict =>
          obtain ⟨hwait, hdispatch⟩ := receiveRequest_spec h hstep
          unfold verdicts at hk
          rw [hstep] at hk
          cases verdict with
          | keepWaiting =>
              cases k with
              | zero => simp at hk
              | succ k =>
                  have := ih (bytes ++ chunk) u' k (hwait rfl) (by simpa using hk)
                  simpa using this
          | error status message =>
              cases k <;> simp at hk
          | dispatch head' body' =>
              cases k with
              | succ k => simp at hk
              | zero =>
                  have hv : ReadVerdict.dispatch head' body' = .dispatch head body := by
                    simpa using hk
                  simpa using hdispatch head body hv

/-- While every verdict is to wait, the connection knows all bytes received. -/
theorem waiting_foldl {limits : WorkerLimits} :
    ∀ (chunks : List (List UInt8)) (bytes : List UInt8) (u : UringConnection τ),
      Waiting limits bytes u →
      (∀ v ∈ verdicts (UringConnection.receiveRequest limits) u chunks, v = .keepWaiting) →
      Waiting limits (bytes ++ chunks.flatten)
        (chunks.foldl (fun u chunk => (u.receiveRequest limits chunk).1) u) := by
  intro chunks
  induction chunks with
  | nil =>
      intro bytes u h _
      simpa using h
  | cons chunk chunks ih =>
      intro bytes u h hall
      cases hstep : u.receiveRequest limits chunk with
      | mk u' verdict =>
          have hv : verdict = .keepWaiting := by
            apply hall
            unfold verdicts
            rw [hstep]
            cases verdict <;> simp
          subst hv
          have hnext := (receiveRequest_spec h hstep).1 rfl
          have hrest := ih (bytes ++ chunk) u' hnext (by
            intro v hv
            apply hall
            unfold verdicts
            rw [hstep]
            exact List.mem_cons_of_mem _ hv)
          simpa [hstep] using hrest

/-- The two records still agree after any number of chunks. -/
theorem SameIntake.foldl {limits : WorkerLimits}
    (hlimit : limits.maxReadBufferSize < 2 ^ usizeBits) :
    ∀ (chunks : List (Instant × List UInt8)) (c : Readiness.Connection σ)
      (u : UringConnection τ), SameIntake c u →
      SameIntake (chunks.foldl (fun c chunk => (c.receive limits chunk.1 chunk.2).1) c)
        ((chunks.map Prod.snd).foldl (fun u chunk => (u.receiveRequest limits chunk).1) u) := by
  intro chunks
  induction chunks with
  | nil =>
      intro c u h
      exact h
  | cons chunk chunks ih =>
      intro c u h
      exact ih _ _ (receive_eq_receiveRequest hlimit chunk.1 h chunk.2).2

theorem waiting_fresh (limits : WorkerLimits) (socket : IoUring.Socket) (generation : UInt16)
    (listenerIndex : Nat) :
    Waiting limits [] (UringConnection.fresh socket generation listenerIndex none :
      UringConnection τ) :=
  ⟨rfl, Nat.zero_le _, fun _ h => by cases h⟩

/-- Two requests dispatched from one stream are the same. -/
theorem DispatchedFrom.unique_of_stream {limits : WorkerLimits} {stream : List UInt8}
    {chunks chunks' : List (List UInt8)} {k k' : Nat} {head head' : RequestHead}
    {body body' : List UInt8} (h : DispatchedFrom limits (chunks.take k).flatten head body)
    (h' : DispatchedFrom limits (chunks'.take k').flatten head' body')
    (hstream : chunks.flatten = stream) (hstream' : chunks'.flatten = stream) :
    head = head' ∧ body = body' := by
  have hcut : ∀ (l : List (List UInt8)) (n : Nat), (l.take n).flatten <+: l.flatten := by
    intro l n
    refine ⟨(l.drop n).flatten, ?_⟩
    rw [← List.flatten_append, List.take_append_drop]
  -- both come from a prefix of it: compare the shorter with the longer
  rcases List.prefix_or_prefix_of_prefix (hstream ▸ hcut chunks k) (hstream' ▸ hcut chunks' k')
    with ⟨later, hlater⟩ | ⟨later, hlater⟩
  · rw [← hlater] at h'
    exact h.unique h'
  · rw [← hlater] at h
    obtain ⟨hhead, hbody⟩ := h'.unique h
    exact ⟨hhead.symm, hbody.symm⟩

/-- **A dispatched request is the request its byte stream starts with.**  In
either worker, after whichever chunk it is dispatched, head and body are what
the parser and the framing rule say about all bytes received so far; so two
chunkings of one stream dispatch the same request, and a recorded request holds
for every extension of the stream. -/
theorem dispatched_request_is_slice (tls : Rustls σ) (limits : WorkerLimits)
    (hlimit : limits.maxReadBufferSize < 2 ^ usizeBits)
    (accepted : Instant) (listenerGroup generation : Nat)
    (uring : UringConnection τ)
    (huring : ∃ socket uringGeneration listenerIndex,
      uring = UringConnection.fresh socket uringGeneration listenerIndex none) :
    (∀ chunks k head body,
      (verdicts (UringConnection.receiveRequest limits) uring chunks)[k]?
          = some (.dispatch head body) →
        DispatchedFrom limits (chunks.take (k + 1)).flatten head body)
    ∧ (∀ reads events k head body, LiveReads reads →
      (Readiness.readEvents tls limits events
          (Readiness.Connection.fresh accepted listenerGroup generation none) reads)[k]?
          = some (.dispatch head body) →
        DispatchedFrom limits ((chunksOf reads).take (k + 1)).flatten head body)
    ∧ (∀ chunks chunks' head head' body body', chunks.flatten = chunks'.flatten →
      .dispatch head body ∈ verdicts (UringConnection.receiveRequest limits) uring chunks →
      .dispatch head' body' ∈ verdicts (UringConnection.receiveRequest limits) uring chunks' →
        head = head' ∧ body = body')
    ∧ (∀ reads reads' events events' head head' body body', LiveReads reads → LiveReads reads' →
      (chunksOf reads).flatten = (chunksOf reads').flatten →
      .dispatch head body ∈ Readiness.readEvents tls limits events
        (Readiness.Connection.fresh accepted listenerGroup generation none) reads →
      .dispatch head' body' ∈ Readiness.readEvents tls limits events'
        (Readiness.Connection.fresh accepted listenerGroup generation none) reads' →
        head = head' ∧ body = body')
    ∧ (∀ (chunks : List (Instant × List UInt8)) pending,
      (∀ v ∈ verdicts (UringConnection.receiveRequest limits) uring (chunks.map Prod.snd),
        v = .keepWaiting) →
      (chunks.foldl (fun c chunk => (c.receive limits chunk.1 chunk.2).1)
          (Readiness.Connection.fresh accepted listenerGroup generation none :
            Readiness.Connection σ)).pendingRequest = some pending
        ∨ ((chunks.map Prod.snd).foldl (fun u chunk => (u.receiveRequest limits chunk).1)
            uring).pendingRequest = some pending →
      ∀ later, RecordedFor limits ((chunks.map Prod.snd).flatten ++ later) pending) := by
  obtain ⟨socket, uringGeneration, listenerIndex, rfl⟩ := huring
  have hfresh : Waiting limits [] (UringConnection.fresh socket uringGeneration listenerIndex none :
      UringConnection τ) := waiting_fresh limits socket uringGeneration listenerIndex
  have hsame : SameIntake
      (Readiness.Connection.fresh accepted listenerGroup generation none : Readiness.Connection σ)
      (UringConnection.fresh socket uringGeneration listenerIndex none : UringConnection τ) :=
    ⟨rfl, rfl⟩
  have huring : ∀ chunks k head body,
      (verdicts (UringConnection.receiveRequest limits)
          (UringConnection.fresh socket uringGeneration listenerIndex none : UringConnection τ)
          chunks)[k]? = some (.dispatch head body) →
        DispatchedFrom limits (chunks.take (k + 1)).flatten head body := by
    intro chunks k head body hk
    simpa using verdicts_dispatch chunks [] _ k hfresh hk
  have hreadiness : ∀ reads events k head body, LiveReads reads →
      (Readiness.readEvents tls limits events
          (Readiness.Connection.fresh accepted listenerGroup generation none) reads)[k]?
          = some (.dispatch head body) →
        DispatchedFrom limits ((chunksOf reads).take (k + 1)).flatten head body := by
    intro reads events k head body hlive hk
    -- the readiness verdicts are a prefix of the io_uring verdicts
    obtain ⟨⟨rest, hrest⟩, -⟩ := readEvents_agree tls hlimit events _ _ reads hsame rfl hlive
    apply huring _ k head body
    rw [← hrest, List.getElem?_append_left (List.getElem?_eq_some_iff.mp hk).1, hk]
  refine ⟨huring, hreadiness, ?_, ?_, ?_⟩
  · intro chunks chunks' head head' body body' hflatten hmem hmem'
    obtain ⟨k, hk⟩ := List.mem_iff_getElem?.mp hmem
    obtain ⟨k', hk'⟩ := List.mem_iff_getElem?.mp hmem'
    exact (huring _ k head body hk).unique_of_stream (huring _ k' head' body' hk') hflatten rfl
  · intro reads reads' events events' head head' body body' hlive hlive' hflatten hmem hmem'
    obtain ⟨k, hk⟩ := List.mem_iff_getElem?.mp hmem
    obtain ⟨k', hk'⟩ := List.mem_iff_getElem?.mp hmem'
    exact (hreadiness reads events k head body hlive hk).unique_of_stream
      (hreadiness reads' events' k' head' body' hlive' hk') hflatten rfl
  · intro chunks pending hall hpending later
    have hwait := waiting_foldl (chunks.map Prod.snd) [] _ hfresh hall
    have hpend := (hsame.foldl hlimit chunks).pending
    rw [hpend, or_self] at hpending
    simpa using (hwait.recorded pending hpending).append later

/-- A POST whose body arrives in a second chunk. -/
theorem dispatched_request_is_slice_post :
    let limits : WorkerLimits := ⟨8, 64, 64, 0, 0⟩
    let chunks := [asBytes "POST / HTTP/1.1\r\nContent-Length: 4\r\n\r\npi".toList,
      asBytes "ng".toList]
    let head : RequestHead := ⟨"POST".toList, "/".toList, .http11,
      [⟨"content-length".toList, "4".toList⟩]⟩
    (verdicts (UringConnection.receiveRequest limits)
        (UringConnection.fresh 3 1 0 none : UringConnection Unit) chunks)[1]?
      = some (.dispatch head (asBytes "ping".toList))
    ∧ DispatchedFrom limits (chunks.take 2).flatten head (asBytes "ping".toList) := by
  intro limits chunks head
  have hdispatch : (verdicts (UringConnection.receiveRequest limits)
      (UringConnection.fresh 3 1 0 none : UringConnection Unit) chunks)[1]?
        = some (.dispatch head (asBytes "ping".toList)) := by decide +kernel
  exact ⟨hdispatch, (dispatched_request_is_slice Rustls.absent limits (by decide) 0 0 1 _
    ⟨3, 1, 0, rfl⟩).1 chunks 1 _ _ hdispatch⟩

end Thwip
