/-
  Thwip.IoUring.Turns — the outcome of one turn.

  `Finish` says what each final call does; together with the moves it gives
  `TurnOutcome`, the list of everything a completed turn can leave behind, and
  `Ending`, the list of the ways a connection ends.
-/
import Thwip.IoUring.Moves

namespace Thwip.IoUring

open Thwip.Lib

variable {σ : Type} {env : Env σ} {t t' : Turn σ} {c : UringConnection σ}

/-! ## §1. What the final calls do. -/

/-- The upstream operation a final call submits. -/
def Next.upstreamKind : Next → Option OperationKind
  | .connect => some .proxyConnect
  | .proxyWrite => some .proxyWrite
  | .proxyRead => some .proxyRead
  | _ => none

/-- The connection, the pushed operations and the acts after a final call.
`clears` is how often the ciphertext buffer had been cleared before. -/
inductive Finish (env : Env σ) (clears : Nat) (c : UringConnection σ) :
    Next → UringConnection σ → List ConnectionOp → List Act → Prop where
  | done : Finish env clears c .done c [] []
  | sendBusy (h : c.writePending = true) : Finish env clears c .send c [] []
  | sendIdle (c₁ : UringConnection σ) (acts : List Act) (hfree : c.writePending = false)
      (hfill : c.fillOutput env.tls = some (c₁, acts)) (hunsent : c₁.unsent = []) :
      Finish env clears c .send c₁ [] acts
  | sent (c₁ : UringConnection σ) (acts : List Act) (hfree : c.writePending = false)
      (hfill : c.fillOutput env.tls = some (c₁, acts)) (hunsent : c₁.unsent ≠ []) :
      Finish env clears c .send c₁.markWriteSubmitted
        [.send c₁.sendBuffer.1 c₁.sendBuffer.2 (clears + clearsIn acts)] acts
  | recvBusy (h : c.readPending = true) : Finish env clears c .recv c [] []
  | recv (h : c.readPending = false) :
      Finish env clears c .recv c.markReadSubmitted [.recv env.bufferSize] [.recvSubmitted]
  | upstream (next : Next) (op : ConnectionOp) (hkind : next.upstreamKind = some op.kind)
      (proxy : UringProxy) (hproxy : c.proxy = some proxy)
      (hupstream : proxy.upstream.isSome = true)
      (hbytes : ∀ bytes, op = .proxySend bytes →
        bytes = proxy.requestBuffer.drop proxy.requestOffset) :
      Finish env clears c next (c.setProxy proxy.submitted) [op] [.submitProxy op.kind proxy]

/-- `t'` is `t` after operations have been pushed and acts noted. -/
structure Turn.Became (t t' : Turn σ) (connection : Option (UringConnection σ))
    (pushed : List ConnectionOp) (acts : List Act) : Prop where
  id : t'.id = t.id
  connection : t'.connection = connection
  log : t'.log = t.log ++ acts
  pushed : t'.pushed = t.pushed ++ pushed

/-- An entry that fits the queue is appended to what the turn pushed. -/
theorem pushEntry_ok {op : ConnectionOp} (h : t.pushEntry env op = .ok t') :
    t' = { t with pushed := t.pushed ++ [op] } := by
  unfold Turn.pushEntry at h
  split_ifs at h
  injection h with h
  exact h.symm

/-- `submit_send` fills the output once no send is in flight, and submits what it holds. -/
theorem submitSend_finish (h : t.Current c) (hrun : submitSend env t = .ok t') :
    ∃ c' pushed acts, Finish env (clearsIn t.log) c .send c' pushed acts
      ∧ t.Became t' (some c') pushed acts := by
  unfold submitSend at hrun
  rw [h.connection] at hrun
  dsimp only at hrun
  rw [h.matches, Bool.not_true, Bool.false_or] at hrun
  split_ifs at hrun with hpending
  · injection hrun with hrun
    subst hrun
    exact ⟨_, _, _, .sendBusy hpending, ⟨rfl, h.connection, (List.append_nil _).symm,
      (List.append_nil _).symm⟩⟩
  · -- no send is in flight, so the buffers may change
    have hfree : c.writePending = false := Bool.eq_false_iff.mpr hpending
    split at hrun
    · cases hrun
    next c₁ acts hfill =>
      split_ifs at hrun with hempty hfits
      · injection hrun with hrun
        subst hrun
        exact ⟨_, _, _, .sendIdle c₁ acts hfree hfill (by simpa using hempty),
          ⟨rfl, rfl, rfl, (List.append_nil _).symm⟩⟩
      · cases hpush : ((t.put c₁).note acts).pushEntry env
            (.send c₁.sendBuffer.1 c₁.sendBuffer.2 (clearsIn ((t.put c₁).note acts).log)) with
        | error e =>
            simp only [bind, Except.bind, hpush] at hrun
            cases hrun
        | ok t₁ =>
            simp only [bind, Except.bind, hpush, pure, Except.pure] at hrun
            injection hrun with hrun
            subst hrun
            have ht₁ := pushEntry_ok hpush
            subst ht₁
            refine ⟨_, _, _, .sent c₁ acts hfree hfill (by simpa using hempty), ⟨rfl, rfl, rfl, ?_⟩⟩
            simp [Turn.put, Turn.note]

/-- `submit_recv` submits unless a receive is in flight. -/
theorem submitRecv_finish (h : t.Current c) (hrun : submitRecv env t = .ok t') :
    ∃ c' pushed acts, Finish env (clearsIn t.log) c .recv c' pushed acts
      ∧ t.Became t' (some c') pushed acts := by
  unfold submitRecv at hrun
  rw [h.connection] at hrun
  dsimp only at hrun
  rw [h.matches, Bool.not_true, Bool.false_or] at hrun
  split_ifs at hrun with hpending hfits
  · injection hrun with hrun
    subst hrun
    exact ⟨_, _, _, .recvBusy hpending, ⟨rfl, h.connection, (List.append_nil _).symm,
      (List.append_nil _).symm⟩⟩
  · cases hpush : t.pushEntry env (.recv env.bufferSize) with
    | error e =>
        simp only [bind, Except.bind, hpush] at hrun
        cases hrun
    | ok t₁ =>
        simp only [bind, Except.bind, hpush, pure, Except.pure] at hrun
        injection hrun with hrun
        subst hrun
        have ht₁ := pushEntry_ok hpush
        subst ht₁
        exact ⟨_, _, _, .recv (Bool.eq_false_iff.mpr hpending), ⟨rfl, rfl, rfl, rfl⟩⟩

/-- The common end of the upstream submissions. -/
theorem submitProxy_became {proxy : UringProxy} {op : ConnectionOp} {acts : List Act}
    (hrun : submitProxy env (t.note acts) c proxy op = .ok t') :
    t.Became t' (some (c.setProxy proxy.submitted)) [op] acts := by
  unfold submitProxy at hrun
  cases hpush : (t.note acts).pushEntry env op with
  | error e =>
      simp only [bind, Except.bind, hpush] at hrun
      cases hrun
  | ok t₁ =>
      simp only [bind, Except.bind, hpush, pure, Except.pure] at hrun
      injection hrun with hrun
      subst hrun
      have ht₁ := pushEntry_ok hpush
      subst ht₁
      exact ⟨rfl, rfl, rfl, rfl⟩

/-- `submit_proxy_connect` needs the exchange, its socket and an address. -/
theorem submitProxyConnect_finish (h : t.Current c) (hrun : submitProxyConnect env t = .ok t') :
    ∃ c' pushed acts, Finish env (clearsIn t.log) c .connect c' pushed acts
      ∧ t.Became t' (some c') pushed acts := by
  unfold submitProxyConnect at hrun
  rw [h.connection] at hrun
  dsimp only at hrun
  split at hrun
  · cases hrun
  next proxy hproxy =>
    split at hrun
    · cases hrun
    next socket hupstream =>
      split at hrun
      · cases hrun
      next address _ =>
        exact ⟨_, _, _, .upstream .connect (.connect address) rfl proxy hproxy (by simp [hupstream])
          (by simp), submitProxy_became hrun⟩

/-- `submit_proxy_write` sends what is left of the forwarded request. -/
theorem submitProxyWrite_finish (h : t.Current c) (hrun : submitProxyWrite env t = .ok t') :
    ∃ c' pushed acts, Finish env (clearsIn t.log) c .proxyWrite c' pushed acts
      ∧ t.Became t' (some c') pushed acts := by
  unfold submitProxyWrite at hrun
  rw [h.connection] at hrun
  dsimp only at hrun
  split at hrun
  · cases hrun
  next proxy hproxy =>
    split_ifs at hrun
    split at hrun
    · cases hrun
    next socket hupstream =>
      refine ⟨_, _, _, .upstream .proxyWrite (.proxySend _) rfl proxy hproxy (by simp [hupstream]) ?_,
        submitProxy_became hrun⟩
      intro bytes hop
      injection hop with hop
      exact hop.symm

/-- `submit_proxy_read`. -/
theorem submitProxyRead_finish (h : t.Current c) (hrun : submitProxyRead env t = .ok t') :
    ∃ c' pushed acts, Finish env (clearsIn t.log) c .proxyRead c' pushed acts
      ∧ t.Became t' (some c') pushed acts := by
  unfold submitProxyRead at hrun
  rw [h.connection] at hrun
  dsimp only at hrun
  split at hrun
  · cases hrun
  next proxy hproxy =>
    split_ifs at hrun
    split at hrun
    · cases hrun
    next socket hupstream =>
      exact ⟨_, _, _, .upstream .proxyRead (.proxyRecv _) rfl proxy hproxy (by simp [hupstream])
        (by simp), submitProxy_became hrun⟩

/-- **The final call of a handler**, whichever it is, does what `Finish` lists. -/
theorem Next.run_finish (next : Next) (h : t.Current c) (hrun : next.run env t = .ok t') :
    ∃ c' pushed acts, Finish env (clearsIn t.log) c next c' pushed acts
      ∧ t.Became t' (some c') pushed acts := by
  cases next with
  | done =>
      injection hrun with hrun
      subst hrun
      exact ⟨_, _, _, .done, ⟨rfl, h.connection, (List.append_nil _).symm,
        (List.append_nil _).symm⟩⟩
  | send => exact submitSend_finish h hrun
  | recv => exact submitRecv_finish h hrun
  | connect => exact submitProxyConnect_finish h hrun
  | proxyWrite => exact submitProxyWrite_finish h hrun
  | proxyRead => exact submitProxyRead_finish h hrun
  | exit reason => cases hrun

/-! ## §2. What no turn changes. -/

/-- The generation and the listener of a connection never change, nor whether it
is encrypted. -/
structure SameClient (c c' : UringConnection σ) : Prop where
  generation : c'.generation = c.generation
  listenerIndex : c'.listenerIndex = c.listenerIndex
  ssl : c'.ssl.isSome = c.ssl.isSome

theorem SameClient.refl (c : UringConnection σ) : SameClient c c := ⟨rfl, rfl, rfl⟩

theorem SameClient.trans {c₁ c₂ : UringConnection σ} (h : SameClient c c₁)
    (h' : SameClient c₁ c₂) : SameClient c c₂ :=
  ⟨h'.generation.trans h.generation, h'.listenerIndex.trans h.listenerIndex, h'.ssl.trans h.ssl⟩

theorem sameClient_setProxy (c : UringConnection σ) (proxy : UringProxy) :
    SameClient c (c.setProxy proxy) := ⟨rfl, rfl, rfl⟩

theorem sameClient_clearOutput (c : UringConnection σ) : SameClient c c.clearOutput := ⟨rfl, rfl, rfl⟩

theorem sameClient_markReadCompleted (c : UringConnection σ) :
    SameClient c c.markReadCompleted := ⟨rfl, rfl, rfl⟩

theorem sameClient_markWriteCompleted (c : UringConnection σ) :
    SameClient c c.markWriteCompleted := ⟨rfl, rfl, rfl⟩

/-- Sent bytes move an offset. -/
theorem sameClient_advance (c : UringConnection σ) (n : Nat) : SameClient c (c.advance n) := by
  unfold UringConnection.advance
  split_ifs <;> exact ⟨rfl, rfl, rfl⟩

/-- The two outcomes of `fill_output`: nothing, or the plaintext that was taken and a
ciphertext buffer that was cleared first. -/
theorem fillOutput_cases {tls : Rustls σ} {c₁ : UringConnection σ} {acts : List Act}
    (h : c.fillOutput tls = some (c₁, acts)) :
    (c₁ = c ∧ acts = [] ∧ (c.ssl = none ∨ c.sslWriteOffset ≠ c.sslWriteBuffer.length))
    ∨ ∃ ssl written session bytes, c.ssl = some ssl
      ∧ c.sslWriteOffset = c.sslWriteBuffer.length
      ∧ written ≤ (c.writeBuffer.drop c.writeOffset).length
      ∧ c₁ = { c with
          sslWriteBuffer := bytes, sslWriteOffset := 0
          writeOffset := c.writeOffset + written
          ssl := some { ssl with connection := session } }
      ∧ acts = [.cleared, .handed ((c.writeBuffer.drop c.writeOffset).take written),
          .produced bytes] := by
  unfold UringConnection.fillOutput at h
  split at h
  next hssl =>
    cases h
    exact .inl ⟨rfl, rfl, .inl hssl⟩
  next ssl hssl =>
    split_ifs at h with hsent
    · unfold UringConnection.refill at h
      dsimp only at h
      split at h
      · cases h
      next written session hwrite =>
        split at h
        · cases h
        next bytes session' _ =>
          cases h
          refine .inr ⟨ssl, written, session', bytes, hssl, hsent, ?_, rfl, rfl⟩
          split_ifs at hwrite
          · -- rustls is asked to write only when there is plaintext left
            exact tls.write_le _ _ _ _ hwrite
          · cases hwrite
            exact Nat.zero_le _
    · cases h
      exact .inl ⟨rfl, rfl, .inr hsent⟩

/-- Encrypting replaces the state of the session, never the session. -/
theorem sameClient_fillOutput {tls : Rustls σ} {c₁ : UringConnection σ} {acts : List Act}
    (h : c.fillOutput tls = some (c₁, acts)) : SameClient c c₁ := by
  rcases fillOutput_cases h with ⟨rfl, -, -⟩ |
    ⟨ssl, written, session, bytes, hssl, -, -, rfl, -⟩
  · exact .refl _
  · exact ⟨rfl, rfl, by rw [hssl]; rfl⟩

/-- The plaintext is taken by its offset, and stays in the write buffer. -/
theorem fillOutput_writeBuffer {tls : Rustls σ} {c₁ : UringConnection σ}
    {acts : List Act} (h : c.fillOutput tls = some (c₁, acts)) :
    c₁.writeBuffer = c.writeBuffer := by
  rcases fillOutput_cases h with ⟨rfl, -, -⟩ | ⟨_, _, _, _, -, -, -, rfl, -⟩
  · rfl
  · rfl

/-- So it does over the final call. -/
theorem Finish.writeBuffer {clears : Nat} {next : Next} {c' : UringConnection σ}
    {pushed : List ConnectionOp} {acts : List Act}
    (h : Finish env clears c next c' pushed acts) : c'.writeBuffer = c.writeBuffer := by
  cases h with
  | done | sendBusy | recvBusy | recv | upstream => rfl
  | sendIdle _ _ _ hfill => exact fillOutput_writeBuffer hfill
  | sent _ _ _ hfill =>
      rw [← fillOutput_writeBuffer hfill]
      rfl

/-- A final call keeps the client. -/
theorem Finish.sameClient {clears : Nat} {next : Next} {c' : UringConnection σ}
    {pushed : List ConnectionOp} {acts : List Act}
    (h : Finish env clears c next c' pushed acts) : SameClient c c' := by
  cases h with
  | done => exact .refl _
  | sendBusy => exact .refl _
  | sendIdle _ _ _ hfill _ => exact sameClient_fillOutput hfill
  | sent _ _ _ hfill _ => exact (sameClient_fillOutput hfill).trans ⟨rfl, rfl, rfl⟩
  | recvBusy => exact .refl _
  | recv => exact ⟨rfl, rfl, rfl⟩
  | upstream => exact ⟨rfl, rfl, rfl⟩

/-- Neither the ciphertext buffer nor the flag of a pending send has changed. -/
structure SameOutput (c c₁ : UringConnection σ) : Prop where
  writePending : c₁.writePending = c.writePending
  sslWriteBuffer : c₁.sslWriteBuffer = c.sslWriteBuffer
  sslWriteOffset : c₁.sslWriteOffset = c.sslWriteOffset

theorem SameOutput.trans {c₁ c₂ : UringConnection σ} (h : SameOutput c c₁)
    (h' : SameOutput c₁ c₂) : SameOutput c c₂ :=
  ⟨h'.writePending.trans h.writePending, h'.sslWriteBuffer.trans h.sslWriteBuffer,
    h'.sslWriteOffset.trans h.sslWriteOffset⟩

theorem sameOutput_setProxy (c : UringConnection σ) (proxy : UringProxy) :
    SameOutput c (c.setProxy proxy) := ⟨rfl, rfl, rfl⟩

/-- What a handler that keeps the connection notes before its final call. -/
def Act.isNote : Act → Bool
  | .verdict _ | .proxied | .forwarding _ | .forwarded _ | .relayed _ | .queued _ | .sent ..
  | .closeNotify => true
  | _ => false

/-- The turn in which a send to the client completes. -/
def TurnEvent.isWrite : TurnEvent → Bool
  | .write .. => true
  | _ => false

section Moves

variable {next : Next} {c₁ : UringConnection σ} {acts : List Act}

/-- So do the moves, one lemma for each relation.  A page replaces the upstream half only. -/
theorem FailMove.sameClient (h : FailMove c next (some c₁) acts) : SameClient c c₁ := by
  cases h
  exact ⟨rfl, rfl, rfl⟩

/-- The next address changes the upstream half. -/
theorem AddressMove.sameClient {proxy : UringProxy}
    (h : AddressMove env c proxy next (some c₁) acts) : SameClient c c₁ := by
  cases h <;> exact ⟨rfl, rfl, rfl⟩

/-- A chunk changes the write buffer. -/
theorem StreamMove.sameClient (h : StreamMove c next (some c₁) acts) : SameClient c c₁ := by
  cases h <;> exact ⟨rfl, rfl, rfl⟩

/-- An answer fills the write buffer or starts an exchange. -/
theorem AnswerMove.sameClient (h : AnswerMove env c next (some c₁) acts) : SameClient c c₁ := by
  cases h <;> exact ⟨rfl, rfl, rfl⟩

/-- Received bytes change the request that is being read. -/
theorem sameClient_receiveRequest {limits : WorkerLimits} {received : List UInt8}
    {verdict : ReadVerdict} (h : c.receiveRequest limits received = (c₁, verdict)) :
    SameClient c c₁ := by
  obtain ⟨_, _, _, rfl⟩ := receiveRequest_frame h
  exact ⟨rfl, rfl, rfl⟩

/-- The plaintext is received, then answered. -/
theorem PlaintextMove.sameClient {plaintext : List UInt8}
    (h : PlaintextMove env plaintext c next (some c₁) acts) : SameClient c c₁ := by
  cases h with
  | empty => exact .refl _
  | waiting _ h => exact sameClient_receiveRequest h
  | rejected _ _ _ _ _ h => exact (sameClient_receiveRequest h).trans ⟨rfl, rfl, rfl⟩
  | dispatched _ _ _ _ _ _ h hanswer =>
      exact (sameClient_receiveRequest h).trans hanswer.sameClient

/-- Decrypting replaces the state of the session. -/
theorem Intake.sameClient {received plaintext : List UInt8}
    (h : Intake env received c next c₁ plaintext acts) : SameClient c c₁ := by
  cases h with
  | plain => exact .refl _
  | tls ssl ssl' hssl => exact ⟨rfl, rfl, by rw [hssl]; rfl⟩

/-- A completed write advances, and may begin to close the session. -/
theorem WriteMove.sameClient {submitted : List UInt8} {result : Int}
    (h : WriteMove env submitted result c next (some c₁) acts) : SameClient c c₁ := by
  cases h with
  | retry => exact .refl _
  | more => exact sameClient_advance c _
  | stream _ _ _ _ _ _ _ hmove =>
      exact ((sameClient_advance c _).trans (sameClient_clearOutput _)).trans hmove.sameClient
  | proxy => exact (sameClient_advance c _).trans ⟨rfl, rfl, rfl⟩
  | close _ _ _ _ _ ssl hssl =>
      refine (sameClient_advance c _).trans ⟨rfl, rfl, ?_⟩
      rw [c.advance_ssl, hssl]
      rfl

/-- **No move that keeps a connection changes whose it is.** -/
theorem Move.sameClient {event : TurnEvent} (h : Move env event c next (some c₁) acts) :
    SameClient c c₁ := by
  cases h with
  | write h => exact (sameClient_markWriteCompleted c).trans h.sameClient
  | connectFailed _ _ _ h => exact (sameClient_setProxy c _).trans h.sameClient
  | connectNext _ _ h => exact (sameClient_setProxy c _).trans h.sameClient
  | writeFailed _ _ _ h => exact (sameClient_setProxy c _).trans h.sameClient
  | readFailed _ _ _ h => exact (sameClient_setProxy c _).trans h.sameClient
  | resolved _ _ _ _ h => exact (sameClient_setProxy c _).trans h.sameClient
  | expiredIdle h => exact h.sameClient
  | pump _ h => exact h.sameClient
  | _ => exact ⟨rfl, rfl, rfl⟩

/-- What a move leaves of the output, and what it may note: only the completion of a
send touches the one, and none clears the ciphertext buffer. -/
theorem FailMove.frame (h : FailMove c next (some c₁) acts) :
    SameOutput c c₁ ∧ ∀ act ∈ acts, act.isNote = true := by
  cases h
  exact ⟨⟨rfl, rfl, rfl⟩, by simp [Act.isNote]⟩

/-- An address that is tried, or an error that is queued. -/
theorem AddressMove.frame {proxy : UringProxy}
    (h : AddressMove env c proxy next (some c₁) acts) :
    SameOutput c c₁ ∧ ∀ act ∈ acts, act.isNote = true := by
  cases h <;> exact ⟨⟨rfl, rfl, rfl⟩, by simp [Act.isNote]⟩

/-- A chunk goes to the write buffer; it is encrypted by the send after it. -/
theorem StreamMove.frame (h : StreamMove c next (some c₁) acts) :
    SameOutput c c₁ ∧ ∀ act ∈ acts, act.isNote = true := by
  cases h <;> exact ⟨⟨rfl, rfl, rfl⟩, by simp [Act.isNote]⟩

/-- A page, a head or an exchange. -/
theorem AnswerMove.frame (h : AnswerMove env c next (some c₁) acts) :
    SameOutput c c₁ ∧ ∀ act ∈ acts, act.isNote = true := by
  cases h with
  | respond | static | resolving | balancerPanic =>
      exact ⟨⟨rfl, rfl, rfl⟩, by simp [Act.isNote]⟩
  | proxyError _ _ _ _ hforwarding =>
      refine ⟨⟨rfl, rfl, rfl⟩, ?_⟩
      rcases hforwarding with rfl | ⟨_, rfl⟩ <;> simp [Act.isNote]

/-- Received bytes leave the output alone. -/
theorem sameOutput_receiveRequest {limits : WorkerLimits} {received : List UInt8}
    {verdict : ReadVerdict} (h : c.receiveRequest limits received = (c₁, verdict)) :
    SameOutput c c₁ := by
  obtain ⟨_, _, _, rfl⟩ := receiveRequest_frame h
  exact ⟨rfl, rfl, rfl⟩

/-- The verdict comes first among the notes. -/
theorem PlaintextMove.frame {plaintext : List UInt8}
    (h : PlaintextMove env plaintext c next (some c₁) acts) :
    SameOutput c c₁ ∧ ∀ act ∈ acts, act.isNote = true := by
  cases h with
  | empty => exact ⟨⟨rfl, rfl, rfl⟩, by simp⟩
  | waiting _ h => exact ⟨sameOutput_receiveRequest h, by simp [Act.isNote]⟩
  | rejected _ _ _ _ _ h =>
      exact ⟨(sameOutput_receiveRequest h).trans ⟨rfl, rfl, rfl⟩, by simp [Act.isNote]⟩
  | dispatched _ _ _ _ _ _ h hanswer =>
      obtain ⟨hsame, hnotes⟩ := hanswer.frame
      refine ⟨(sameOutput_receiveRequest h).trans hsame, ?_⟩
      intro act hact
      rcases List.mem_cons.mp hact with rfl | hact
      · rfl
      · exact hnotes act hact

/-- Decrypting leaves the output alone. -/
theorem Intake.sameOutput {received plaintext : List UInt8}
    (h : Intake env received c next c₁ plaintext acts) : SameOutput c c₁ := by
  cases h <;> exact ⟨rfl, rfl, rfl⟩

/-- A completed send leaves none pending. -/
theorem WriteMove.frame {submitted : List UInt8} {result : Int}
    (h : WriteMove env submitted result c next (some c₁) acts) :
    c₁.writePending = c.writePending ∧ ∀ act ∈ acts, act.isNote = true := by
  have hadvance : ∀ n, (c.advance n).writePending = c.writePending := by
    intro n
    unfold UringConnection.advance
    split_ifs <;> rfl
  cases h with
  | retry => exact ⟨rfl, by simp⟩
  | more => exact ⟨hadvance _, by simp [Act.isNote]⟩
  | stream _ _ _ _ _ _ _ hmove =>
      obtain ⟨hsame, hnotes⟩ := hmove.frame
      refine ⟨hsame.writePending.trans (hadvance _), ?_⟩
      intro act hact
      rcases List.mem_cons.mp hact with rfl | hact
      · rfl
      · exact hnotes act hact
  | proxy => exact ⟨hadvance _, by simp [Act.isNote]⟩
  | close => exact ⟨hadvance _, by simp [Act.isNote]⟩

/-- Every move over a kept connection notes only what it did. -/
theorem Move.notes {event : TurnEvent} (h : Move env event c next (some c₁) acts) :
    ∀ act ∈ acts, act.isNote = true := by
  cases h with
  | write h => exact h.frame.2
  | connectFailed _ _ _ h => exact h.frame.2
  | connectNext _ _ h => exact h.frame.2
  | writeFailed _ _ _ h => exact h.frame.2
  | readFailed _ _ _ h => exact h.frame.2
  | resolved _ _ _ _ h => exact h.frame.2
  | expiredIdle h => exact h.frame.2
  | pump _ h => exact h.frame.2
  | _ => simp [Act.isNote]

/-- Only the completion of a send touches what was sent. -/
theorem Move.sameOutput {event : TurnEvent} (h : Move env event c next (some c₁) acts)
    (hevent : event.isWrite = false) : SameOutput c c₁ := by
  cases h with
  | write => cases hevent
  | connectFailed _ _ _ h => exact (sameOutput_setProxy c _).trans h.frame.1
  | connectNext _ _ h => exact (sameOutput_setProxy c _).trans h.frame.1
  | writeFailed _ _ _ h => exact (sameOutput_setProxy c _).trans h.frame.1
  | readFailed _ _ _ h => exact (sameOutput_setProxy c _).trans h.frame.1
  | resolved _ _ _ _ h => exact (sameOutput_setProxy c _).trans h.frame.1
  | expiredIdle h => exact h.frame.1
  | pump _ h => exact h.frame.1
  | _ => exact ⟨rfl, rfl, rfl⟩

/-- Notes do not clear the buffer. -/
theorem clearsIn_notes {acts : List Act} (h : ∀ act ∈ acts, act.isNote = true) :
    clearsIn acts = 0 := by
  refine List.count_eq_zero.mpr (fun hmem => ?_)
  cases h _ hmem

/-- The acts of a receive do not clear the buffer either. -/
theorem Intake.clears {received plaintext : List UInt8}
    (h : Intake env received c next c₁ plaintext acts) : clearsIn acts = 0 := by
  cases h <;> simp

/-- A handler that removed the connection submits nothing. -/
theorem Move.done_of_removed {event : TurnEvent} (h : Move env event c next none acts) :
    next = .done := by
  cases h with
  | write h =>
      cases h with
      | stream _ _ _ _ _ _ _ hmove => cases hmove <;> rfl
      | _ => rfl
  | connectFailed _ _ _ h => cases h; rfl
  | connectNext _ _ h => cases h
  | writeFailed _ _ _ h => cases h; rfl
  | readFailed _ _ _ h => cases h; rfl
  | resolved _ _ _ _ h => cases h
  | expiredIdle h => cases h; rfl
  | pump _ h => cases h <;> rfl
  | _ => rfl

/-- Only a request that finds no listener removes its connection. -/
theorem PlaintextMove.done_of_removed {plaintext : List UInt8}
    (h : PlaintextMove env plaintext c next none acts) : next = .done := by
  cases h with
  | dispatched _ _ _ _ _ _ _ hanswer => cases hanswer; rfl

end Moves

/-! ## §3. The outcome of a turn. -/

/-- Everything a completed turn on a current connection can leave behind: the
slab entry, the pushed operations and the acts. -/
inductive TurnOutcome (env : Env σ) (event : TurnEvent) (c : UringConnection σ) (clears : Nat) :
    Option (UringConnection σ) → List ConnectionOp → List Act → Prop where
  | moved {next : Next} {c₁ c' : UringConnection σ} {pushed : List ConnectionOp}
      {acts₁ acts₂ : List Act} (hmove : Move env event c next (some c₁) acts₁)
      (hfinish : Finish env (clears + clearsIn acts₁) c₁ next c' pushed acts₂) :
      TurnOutcome env event c clears (some c') pushed (acts₁ ++ acts₂)
  | removed {acts : List Act} (hmove : Move env event c .done none acts) :
      TurnOutcome env event c clears none [] acts
  | received {result : Int} {bufferId : Option Nat} {contents : Nat → UInt8} {flush next : Next}
      {c₁ c₂ c₃ c' : UringConnection σ} {plaintext : List UInt8}
      {pushed₁ pushed₂ : List ConnectionOp} {acts₁ acts₂ acts₃ acts₄ : List Act}
      (hevent : event = .read result bufferId contents) (hpos : 0 < result)
      (hintake : Intake env ((List.range result.toNat).map contents) c.markReadCompleted
        flush c₁ plaintext acts₁)
      (hflush : Finish env (clears + clearsIn acts₁) c₁ flush c₂ pushed₁ acts₂)
      (hmove : PlaintextMove env plaintext c₂ next (some c₃) acts₃)
      (hfinish : Finish env (clears + clearsIn (acts₁ ++ acts₂ ++ acts₃)) c₃ next c' pushed₂ acts₄) :
      TurnOutcome env event c clears (some c') (pushed₁ ++ pushed₂)
        (acts₁ ++ acts₂ ++ acts₃ ++ acts₄)
  | receivedRemoved {result : Int} {bufferId : Option Nat} {contents : Nat → UInt8} {flush : Next}
      {c₁ c₂ : UringConnection σ} {plaintext : List UInt8}
      {pushed : List ConnectionOp} {acts₁ acts₂ acts₃ : List Act}
      (hevent : event = .read result bufferId contents) (hpos : 0 < result)
      (hintake : Intake env ((List.range result.toNat).map contents) c.markReadCompleted
        flush c₁ plaintext acts₁)
      (hflush : Finish env (clears + clearsIn acts₁) c₁ flush c₂ pushed acts₂)
      (hmove : PlaintextMove env plaintext c₂ .done none acts₃) :
      TurnOutcome env event c clears none pushed (acts₁ ++ acts₂ ++ acts₃)

/-- A move, then operations of the final call. -/
theorem Turn.Moved.became {t₁ : Turn σ} {c₁ c₂ : Option (UringConnection σ)}
    {pushed : List ConnectionOp} {acts₁ acts₂ : List Act} (h : t.Moved t₁ c₁ acts₁)
    (h' : t₁.Became t' c₂ pushed acts₂) : t.Became t' c₂ pushed (acts₁ ++ acts₂) where
  id := h'.id.trans h.id
  connection := h'.connection
  log := by rw [h'.log, h.log, List.append_assoc]
  pushed := by rw [h'.pushed, h.pushed]

/-- Two final calls after one another, as in an encrypted receive. -/
theorem Turn.Became.trans {t₁ : Turn σ} {c₁ c₂ : Option (UringConnection σ)}
    {pushed₁ pushed₂ : List ConnectionOp} {acts₁ acts₂ : List Act}
    (h : t.Became t₁ c₁ pushed₁ acts₁) (h' : t₁.Became t' c₂ pushed₂ acts₂) :
    t.Became t' c₂ (pushed₁ ++ pushed₂) (acts₁ ++ acts₂) where
  id := h'.id.trans h.id
  connection := h'.connection
  log := by rw [h'.log, h.log, List.append_assoc]
  pushed := by rw [h'.pushed, h.pushed, List.append_assoc]

/-- A move without a final call. -/
theorem Turn.Moved.became_done {c₁ : Option (UringConnection σ)} {acts : List Act}
    (h : t.Moved t' c₁ acts) : t.Became t' c₁ [] acts where
  id := h.id
  connection := h.connection
  log := h.log
  pushed := by rw [h.pushed, List.append_nil]

/-- A settled move and its final call. -/
theorem Settles.outcome (h : t.Current c) {next : Next} {c₁ : Option (UringConnection σ)}
    {acts : List Act} {x : Except Exit (Turn σ)} (hs : Settles env t next c₁ acts x)
    (hx : x = .ok t') (hclient : ∀ d, c₁ = some d → SameClient c d)
    (hdone : c₁ = none → next = .done) :
    (c₁ = none ∧ t.Became t' none [] acts)
    ∨ ∃ d c' pushed acts₂, c₁ = some d
      ∧ Finish env (clearsIn t.log + clearsIn acts) d next c' pushed acts₂
      ∧ t.Became t' (some c') pushed (acts ++ acts₂) := by
  obtain ⟨t₁, hmoved, rfl⟩ := hs
  cases c₁ with
  | none =>
      rw [hdone rfl] at hx
      injection hx with hx
      subst hx
      exact .inl ⟨rfl, hmoved.became_done⟩
  | some d =>
      have hcur : t₁.Current d := hmoved.current h (hclient d rfl).generation
      obtain ⟨c', pushed, acts₂, hfinish, hbecame⟩ := next.run_finish hcur hx
      rw [hmoved.log, clearsIn_append] at hfinish
      exact .inr ⟨d, c', pushed, acts₂, rfl, hfinish, hmoved.became hbecame⟩

/-- **Every completed turn on a current connection has one of the outcomes.** -/
theorem handleTurn_outcome (h : t.Current c) {event : TurnEvent}
    (hrun : handleTurn env event t = .ok t') :
    ∃ c' pushed acts, TurnOutcome env event c (clearsIn t.log) c' pushed acts
      ∧ t.Became t' c' pushed acts := by
  rcases handleTurn_cases h event with ⟨next, c₁, acts, hmove, hsettles⟩ |
    ⟨result, bufferId, contents, hevent, hpos, flush, c₁, plaintext, acts, t₁, hintake, hmoved, heq⟩
  · rcases hsettles.outcome h hrun (fun d hd => (hd ▸ hmove).sameClient)
      (fun hn => (hn ▸ hmove).done_of_removed) with ⟨rfl, hbecame⟩ |
      ⟨d, c', pushed, acts₂, rfl, hfinish, hbecame⟩
    · -- a removed connection has no final call
      have hdone := hmove.done_of_removed
      subst hdone
      exact ⟨_, _, _, .removed hmove, hbecame⟩
    · exact ⟨_, _, _, .moved hmove hfinish, hbecame⟩
  · rw [heq] at hrun
    cases hfirst : flush.run env t₁ with
    | error e =>
        rw [hfirst] at hrun
        cases hrun
    | ok t₂ =>
        rw [hfirst] at hrun
        -- the flush, then the move on the plaintext
        have hcur₁ : t₁.Current c₁ := hmoved.current h
          ((sameClient_markReadCompleted c).trans hintake.sameClient).generation
        obtain ⟨c₂, pushed₁, acts₂, hflush, hbecame₁⟩ := flush.run_finish hcur₁ hfirst
        have hcur₂ : t₂.Current c₂ := ⟨hbecame₁.connection, by
          rw [hflush.sameClient.generation, hcur₁.generation, hbecame₁.id]⟩
        obtain ⟨next, c₃, acts₃, hmove, hsettles⟩ :
            ∃ next c₃ acts₃, PlaintextMove env plaintext c₂ next c₃ acts₃
              ∧ Settles env t₂ next c₃ acts₃ (receivePlaintext env plaintext t₂) :=
          receivePlaintext_settles hcur₂ plaintext
        have hlog₂ : clearsIn t₂.log = clearsIn t.log + clearsIn (acts ++ acts₂) := by
          rw [hbecame₁.log, hmoved.log, List.append_assoc, clearsIn_append]
        rw [hmoved.log, clearsIn_append] at hflush
        rcases hsettles.outcome hcur₂ hrun (fun d hd => (hd ▸ hmove).sameClient)
          (fun hn => (hn ▸ hmove).done_of_removed) with ⟨rfl, hbecame₂⟩ |
          ⟨d, c', pushed₂, acts₄, rfl, hfinish, hbecame₂⟩
        · have hdone := hmove.done_of_removed
          subst hdone
          refine ⟨_, _, _, .receivedRemoved hevent hpos hintake hflush hmove, ?_⟩
          simpa using (hmoved.became hbecame₁).trans hbecame₂
        · -- the send of the response comes after the clears of the flush
          rw [hlog₂, Nat.add_assoc, ← clearsIn_append] at hfinish
          refine ⟨_, _, _, .received hevent hpos hintake hflush hmove hfinish, ?_⟩
          simpa using (hmoved.became hbecame₁).trans hbecame₂

/-- A turn that keeps a connection keeps its client. -/
theorem TurnOutcome.sameClient {event : TurnEvent} {clears : Nat} {c' : UringConnection σ}
    {pushed : List ConnectionOp} {acts : List Act}
    (h : TurnOutcome env event c clears (some c') pushed acts) : SameClient c c' := by
  cases h with
  | moved hmove hfinish => exact hmove.sameClient.trans hfinish.sameClient
  | received _ _ hintake hflush hmove hfinish =>
      exact ((((sameClient_markReadCompleted c).trans hintake.sameClient).trans
        hflush.sameClient).trans hmove.sameClient).trans hfinish.sameClient

/-! ## §4. How a connection ends. -/

/-- The response was not complete when the connection was removed here. -/
def RemovalSite.fails : RemovalSite → Bool
  | .delivered | .streamFinished | .upstreamClosed => false
  | _ => true

/-- The next message of the file is asked for. -/
def TurnEvent.asksFile : TurnEvent → Bool
  | .pump => true
  | .write _ result => decide (0 < result)
  | _ => false

/-- What a turn that removes the connection found, and noted. -/
inductive Ending (env : Env σ) (event : TurnEvent) (c : UringConnection σ) : List Act → Prop where
  | failed (before : List Act) (site : RemovalSite) (hsite : site.fails = true) :
      Ending env event c (before ++ [.removed site])
  | delivered (submitted : List UInt8) (result : Int) (hevent : event = .write submitted result)
      (hdrained : (c.markWriteCompleted.advance result.toNat).outputDrained env.tls = true)
      (hstream : c.staticStream = none) (hproxy : c.proxy = none)
      (hclosed : ∀ ssl, c.ssl = some ssl → ssl.closing = true) :
      Ending env event c
        [.sent (submitted.take result.toNat)
            ((c.markWriteCompleted.advance result.toNat).wantsWrite env.tls),
          .response .delivered, .removed .delivered]
  | fileEnded (before : List Act) (stream : StaticStream) (hevent : event.asksFile = true)
      (hstream : c.staticStream = some stream) (hend : stream.chunks = [])
      (hdrained : ∀ submitted result, event = .write submitted result →
        (c.markWriteCompleted.advance result.toNat).outputDrained env.tls = true) :
      Ending env event c (before ++ [.response .streamFinished, .removed .streamFinished])
  | upstreamEnded (bufferId : Option Nat) (contents : Nat → UInt8) (proxy : UringProxy)
      (hevent : event = .proxyRead 0 bufferId contents) (hproxy : c.proxy = some proxy)
      (htimed : proxy.timedOut = false) :
      Ending env event c [.response .upstreamClosed, .removed .upstreamClosed]

section Endings

variable {next : Next} {acts : List Act} {event : TurnEvent}

/-- A stream that reports its end has no message left. -/
theorem tryNext_finished {stream rest : StaticStream} {arrived : Bool}
    (h : stream.tryNext arrived = (some .finished, rest)) : stream.chunks = [] := by
  unfold StaticStream.tryNext at h
  split at h
  · cases h
  · split at h
    next hchunks => exact hchunks
    · cases h
    · cases h

/-- A file ends by its last message or by an error. -/
theorem StreamMove.ending {c₁ : UringConnection σ} (before : List Act)
    (hstream : c₁.staticStream = c.staticStream) (hevent : event.asksFile = true)
    (hdrained : ∀ submitted result, event = .write submitted result →
      (c.markWriteCompleted.advance result.toNat).outputDrained env.tls = true)
    (h : StreamMove c₁ next none acts) : Ending env event c (before ++ acts) := by
  cases h with
  | finished hend =>
      obtain ⟨current, arrived, rest, hcurrent, hend⟩ := hend
      exact .fileEnded before current hevent (hstream ▸ hcurrent) (tryNext_finished hend) hdrained
  | failed => exact .failed before _ rfl

/-- An exchange that had begun to answer is cut off. -/
theorem FailMove.ending {c₁ : UringConnection σ} (h : FailMove c₁ next none acts) :
    Ending env event c acts := by
  cases h
  exact .failed [] _ rfl

/-- **A move that removes the connection is one of these endings.** -/
theorem Move.ending (h : Move env event c next none acts) : Ending env event c acts := by
  cases h with
  | recvClosed => exact .failed [] _ rfl
  | tlsFailed => exact .failed [_] _ rfl
  | write h =>
      cases h with
      | failed => exact .failed [] _ rfl
      | invalid => exact .failed [] _ rfl
      | stream hpos _ hdrained _ _ _ _ hmove =>
          refine hmove.ending [_] ?_ (by simpa [TurnEvent.asksFile] using hpos) ?_
          · exact UringConnection.advance_staticStream c.markWriteCompleted _
          · intro submitted result hevent
            injection hevent with _ hresult
            exact hresult ▸ hdrained
      | delivered _ _ hdrained hstream hproxy hclosed =>
          exact .delivered _ _ rfl hdrained hstream hproxy hclosed
  | connectFailed _ _ _ h => exact h.ending
  | connectNext _ _ h => cases h
  | writeFailed _ _ _ h => exact h.ending
  | readFailed _ _ _ h => exact h.ending
  | upstreamClosed proxy hproxy htimed hresult =>
      subst hresult
      exact .upstreamEnded _ _ proxy rfl hproxy htimed
  | resolved _ _ _ _ h => cases h
  | expiredIdle h => exact h.ending
  | handshakeExpired => exact .failed [] _ rfl
  | pump _ h => exact h.ending [] rfl rfl (fun _ _ hevent => by cases hevent)

/-- **A turn that removes its connection is one of these endings.** -/
theorem TurnOutcome.ending {clears : Nat} {pushed : List ConnectionOp}
    (h : TurnOutcome env event c clears none pushed acts) : Ending env event c acts := by
  cases h with
  | removed hmove => exact hmove.ending
  | receivedRemoved _ _ _ _ hmove =>
      cases hmove with
      | dispatched _ _ _ _ _ _ _ hanswer =>
          cases hanswer
          rw [show ∀ (xs ys : List Act) (a b : Act), xs ++ ys ++ [a, b] = (xs ++ ys ++ [a]) ++ [b]
            by simp]
          -- the session was flushed and the verdict noted before the removal
          exact .failed _ _ rfl

end Endings

end Thwip.IoUring
