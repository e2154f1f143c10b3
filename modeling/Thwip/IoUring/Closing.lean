/-
  Thwip.IoUring.Closing — when a TLS connection is closed after a send.

  `handle_write_completion` takes a drained output for a finished response.  The
  traces tell what was queued, what the session accepted, what it produced and
  what was transmitted.  As long as no send drains before a response has been
  queued, a connection is closed only when every queued byte has been handed to
  the session, every byte the session produced has been transmitted, and the
  session has nothing more to send.
-/
import Thwip.IoUring.SendBuffer
import Thwip.IoUring.UpstreamOrder

namespace Thwip.IoUring

open Thwip.Lib

variable {σ : Type} {cfg : Config σ} {env : Env σ}

/-! ## §1. Accounts of a trace. -/

def Act.queuedPart : Act → List UInt8
  | .queued bytes => bytes
  | _ => []

def Act.handedPart : Act → List UInt8
  | .handed bytes => bytes
  | _ => []

def Act.producedPart : Act → List UInt8
  | .produced bytes => bytes
  | _ => []

def Act.sentPart : Act → List UInt8
  | .sent bytes _ => bytes
  | _ => []

/-- The bytes of all queued responses and response parts. -/
def queuedBytes (log : List Act) : List UInt8 := log.flatMap Act.queuedPart

/-- The response bytes the session accepted. -/
def handedBytes (log : List Act) : List UInt8 := log.flatMap Act.handedPart

/-- The ciphertext the session produced. -/
def producedBytes (log : List Act) : List UInt8 := log.flatMap Act.producedPart

/-- The ciphertext that was transmitted. -/
def sentBytes (log : List Act) : List UInt8 := log.flatMap Act.sentPart

/-- Is the session known to have nothing to send after this act? -/
def quietAfter (quiet : Bool) : Act → Bool
  | .sent _ more => !more
  | .tlsRead .. | .handed _ | .produced _ | .closeNotify => false
  | _ => quiet

/-- Since the session last said that it has nothing to send, it has been left alone. -/
def sessionQuiet (log : List Act) : Bool := log.foldl quietAfter false

/-- A response has been queued, the session has accepted all of it, all the
session produced has been transmitted, and it has nothing more to send. -/
structure ResponseSent (log : List Act) : Prop where
  queued : queuedBytes log ≠ []
  handed : handedBytes log = queuedBytes log
  sent : sentBytes log = producedBytes log
  quiet : sessionQuiet log = true

/-- The acts that close a connection on the success path of a send: the alert, the
counted response, and the removal. -/
def Act.closes : Act → Bool
  | .closeNotify => true
  | .response site => site = .delivered || site = .streamFinished
  | .removed site => site = .delivered || site = .streamFinished || site = .streamFailed
  | _ => false

/-- Whenever the connection was closed, its response had been sent. -/
def ClosesAfterResponse (log : List Act) : Prop :=
  ∀ before act after, log = before ++ act :: after → act.closes = true → ResponseSent before

/-- The acts that belong to no account and do not concern the session. -/
def Act.isSilent : Act → Bool
  | .accepted _ | .copied _ | .recvSubmitted | .verdict _ | .proxied | .forwarding _ | .forwarded _
  | .relayed _ | .cleared | .submitProxy .. | .response _ | .removed _ => true
  | _ => false

section Accounts

variable {log acts : List Act} {act : Act}

@[simp] theorem queuedBytes_append (xs ys : List Act) :
    queuedBytes (xs ++ ys) = queuedBytes xs ++ queuedBytes ys := List.flatMap_append

@[simp] theorem handedBytes_append (xs ys : List Act) :
    handedBytes (xs ++ ys) = handedBytes xs ++ handedBytes ys := List.flatMap_append

@[simp] theorem producedBytes_append (xs ys : List Act) :
    producedBytes (xs ++ ys) = producedBytes xs ++ producedBytes ys := List.flatMap_append

@[simp] theorem sentBytes_append (xs ys : List Act) :
    sentBytes (xs ++ ys) = sentBytes xs ++ sentBytes ys := List.flatMap_append

@[simp] theorem sessionQuiet_snoc (log : List Act) (act : Act) :
    sessionQuiet (log ++ [act]) = quietAfter (sessionQuiet log) act := by
  simp [sessionQuiet]

/-- One act in the accounts. -/
@[simp] theorem queuedBytes_singleton (act : Act) : queuedBytes [act] = act.queuedPart := by
  simp [queuedBytes]

@[simp] theorem handedBytes_singleton (act : Act) : handedBytes [act] = act.handedPart := by
  simp [handedBytes]

@[simp] theorem producedBytes_singleton (act : Act) : producedBytes [act] = act.producedPart := by
  simp [producedBytes]

@[simp] theorem sentBytes_singleton (act : Act) : sentBytes [act] = act.sentPart := by
  simp [sentBytes]

theorem Act.silent_parts (h : act.isSilent = true) :
    act.queuedPart = [] ∧ act.handedPart = [] ∧ act.producedPart = [] ∧ act.sentPart = []
      ∧ ∀ quiet, quietAfter quiet act = quiet := by
  cases act <;> first | exact ⟨rfl, rfl, rfl, rfl, fun _ => rfl⟩ | cases h

/-- A silent act changes no account. -/
theorem ResponseSent.silent (h : ResponseSent log) (hact : act.isSilent = true) :
    ResponseSent (log ++ [act]) := by
  obtain ⟨hq, hh, hp, hs, hquiet⟩ := Act.silent_parts hact
  refine ⟨?_, ?_, ?_, ?_⟩
  · simpa [hq] using h.queued
  · simpa [hq, hh] using h.handed
  · simpa [hp, hs] using h.sent
  · simpa [hquiet] using h.quiet

/-- One more act; if it closes the connection, the response has been sent. -/
theorem ClosesAfterResponse.snoc (h : ClosesAfterResponse log)
    (hact : act.closes = true → ResponseSent log) : ClosesAfterResponse (log ++ [act]) := by
  intro before act' after heq hcloses
  rcases List.append_eq_append_iff.mp heq with ⟨mid, rfl, hmid⟩ | ⟨mid, hmid, hrest⟩
  · cases mid with
    | nil =>
        injection hmid with hmid _
        rw [List.append_nil]
        exact hact (hmid ▸ hcloses)
    | cons _ mid => cases mid <;> cases hmid
  · cases mid with
    | nil =>
        injection hrest with hrest _
        rw [List.append_nil] at hmid
        rw [← hmid]
        exact hact (hrest ▸ hcloses)
    | cons _ mid =>
        injection hrest with hrest _
        subst hrest
        exact h before act' mid hmid hcloses

theorem ClosesAfterResponse.append (h : ClosesAfterResponse log)
    (hacts : ∀ act ∈ acts, act.closes = false) : ClosesAfterResponse (log ++ acts) := by
  induction acts generalizing log with
  | nil => rwa [List.append_nil]
  | cons act acts ih =>
      have hfirst : ClosesAfterResponse (log ++ [act]) := by
        refine h.snoc (fun hcloses => ?_)
        rw [hacts act List.mem_cons_self] at hcloses
        cases hcloses
      rw [← List.singleton_append, ← List.append_assoc]
      exact ih hfirst (fun a ha => hacts a (List.mem_cons_of_mem _ ha))

end Accounts

/-! ## §2. Ciphertext on its way. -/

/-- What the session has produced and the socket has not taken yet is in the
ciphertext buffer. -/
def Outgoing (c : UringConnection σ) (log : List Act) : Prop :=
  producedBytes log = sentBytes log ++ c.sslWriteBuffer.drop c.sslWriteOffset

section Ciphertext

variable {c c₁ c' : UringConnection σ} {log acts : List Act} {next : Next}

theorem producedBytes_notes (h : ∀ act ∈ acts, act.isNote = true) : producedBytes acts = [] := by
  refine List.flatMap_eq_nil_iff.mpr (fun act hact => ?_)
  have hnote := h act hact
  cases act <;> first | rfl | cases hnote

theorem Outgoing.frame (h : Outgoing c log) (hsame : SameOutput c c₁)
    (hproduced : producedBytes acts = []) (hsent : sentBytes acts = []) :
    Outgoing c₁ (log ++ acts) := by
  unfold Outgoing
  rw [producedBytes_append, sentBytes_append, hproduced, hsent, List.append_nil, List.append_nil,
    hsame.sslWriteBuffer, hsame.sslWriteOffset]
  exact h

/-- A refill finds the buffer sent, and puts what the session produces there. -/
theorem Outgoing.fillOutput (h : Outgoing c log)
    (hfill : c.fillOutput env.tls = some (c₁, acts)) : Outgoing c₁ (log ++ acts) := by
  rcases fillOutput_cases hfill with ⟨rfl, rfl, -⟩ |
    ⟨ssl, written, session, bytes, -, hsent, -, rfl, rfl⟩
  · rwa [List.append_nil]
  · have hnone : c.sslWriteBuffer.drop c.sslWriteOffset = [] := by
      rw [hsent, List.drop_length]
    unfold Outgoing at h ⊢
    rw [producedBytes_append, sentBytes_append, h, hnone]
    simp [producedBytes, sentBytes, Act.producedPart, Act.sentPart]

theorem Outgoing.finish {clears : Nat} {pushed : List ConnectionOp} (h : Outgoing c log)
    (hfinish : Finish env clears c next c' pushed acts) : Outgoing c' (log ++ acts) := by
  cases hfinish with
  | done | sendBusy | recvBusy => rwa [List.append_nil]
  | sendIdle c₁ acts _ hfill _ => exact h.fillOutput hfill
  | sent c₁ acts _ hfill _ =>
      have hfilled : Outgoing c₁ (log ++ acts) := h.fillOutput hfill
      exact hfilled
  | recv | upstream => exact h.frame ⟨rfl, rfl, rfl⟩ rfl rfl

theorem advance_tls (hssl : c.ssl.isSome = true) (n : Nat) :
    c.advance n = { c with sslWriteOffset := c.sslWriteOffset + n } := by
  rw [UringConnection.advance, if_pos hssl]

/-- The transmitted bytes leave the buffer. -/
theorem Outgoing.advance {submitted : List UInt8} (h : Outgoing c log)
    (hssl : c.ssl.isSome = true) (hsubmitted : submitted = c.sslWriteBuffer.drop c.sslWriteOffset)
    (n : Nat) (more : Bool) : Outgoing (c.advance n) (log ++ [.sent (submitted.take n) more]) := by
  rw [advance_tls hssl]
  unfold Outgoing at h ⊢
  rw [producedBytes_append, sentBytes_append, h, hsubmitted]
  simp only [producedBytes_singleton, sentBytes_singleton, Act.producedPart, Act.sentPart,
    List.append_nil, List.append_assoc]
  rw [← List.drop_drop, List.take_append_drop]

/-- The completion of a send takes what it transmitted out of the buffer. -/
theorem Outgoing.written {submitted : List UInt8} {result : Int} (h : Outgoing c log)
    (hssl : c.ssl.isSome = true) (hsubmitted : submitted = c.sslWriteBuffer.drop c.sslWriteOffset)
    (hmove : WriteMove env submitted result c next (some c₁) acts) :
    Outgoing c₁ (log ++ acts) := by
  have hadvance : ∀ more, Outgoing (c.advance result.toNat)
      (log ++ [.sent (submitted.take result.toNat) more]) :=
    h.advance hssl hsubmitted result.toNat
  cases hmove with
  | retry => rwa [List.append_nil]
  | more | proxy => exact hadvance _
  | stream _ _ _ _ _ _ _ hmove =>
      rw [← List.singleton_append, ← List.append_assoc]
      cases hmove with
      | data => exact (hadvance _).frame ⟨rfl, rfl, rfl⟩ rfl rfl
      | pending =>
          rw [List.append_nil]
          exact hadvance _
  | close =>
      rw [← List.singleton_append, ← List.append_assoc]
      exact (hadvance _).frame ⟨rfl, rfl, rfl⟩ rfl rfl

/-- Received ciphertext is not the session's own. -/
theorem Outgoing.intake {received plaintext : List UInt8} (h : Outgoing c log)
    (hintake : Intake env received c next c₁ plaintext acts) : Outgoing c₁ (log ++ acts) := by
  cases hintake <;> exact h.frame ⟨rfl, rfl, rfl⟩ rfl rfl

theorem AnswerMove.sent_nil (h : AnswerMove env c next (some c₁) acts) : sentBytes acts = [] := by
  cases h with
  | respond | static | resolving | balancerPanic => rfl
  | proxyError _ _ _ _ hforwarding => rcases hforwarding with rfl | ⟨_, rfl⟩ <;> rfl

theorem PlaintextMove.sent_nil {plaintext : List UInt8}
    (h : PlaintextMove env plaintext c next (some c₁) acts) : sentBytes acts = [] := by
  cases h with
  | dispatched _ _ _ _ _ _ _ hanswer => exact hanswer.sent_nil
  | _ => rfl

/-- Only the completion of a send transmits bytes. -/
theorem Move.sent_nil {event : TurnEvent} (h : Move env event c next (some c₁) acts)
    (hevent : event.isWrite = false) : sentBytes acts = [] := by
  cases h with
  | write => cases hevent
  | connectFailed _ _ _ h => cases h; rfl
  | connectNext _ _ h => cases h <;> rfl
  | writeFailed _ _ _ h => cases h; rfl
  | readFailed _ _ _ h => cases h; rfl
  | resolved _ _ _ _ h => cases h <;> rfl
  | expiredIdle h => cases h; rfl
  | pump _ h => cases h <;> rfl
  | _ => rfl

/-- **A turn keeps the account of the ciphertext.** -/
theorem Outgoing.turn {now : Instant} {event : TurnEvent} {clears : Nat}
    {ops ops₀ pushed : List ConnectionOp} (h : Outgoing c log) (hssl : c.ssl.isSome = true)
    (hkept : SendKept c clears (ops.filter ConnectionOp.isSend))
    (hready : Ready cfg now c event ops ops₀)
    (houtcome : TurnOutcome env event c clears (some c') pushed acts) :
    Outgoing c' (log ++ acts) := by
  cases houtcome with
  | moved hmove hfinish =>
      rw [← List.append_assoc]
      refine Outgoing.finish ?_ hfinish
      cases hwrite : event.isWrite with
      | false =>
          exact h.frame (hmove.sameOutput hwrite) (producedBytes_notes hmove.notes)
            (hmove.sent_nil hwrite)
      | true =>
          cases event with
          | write submitted result =>
              cases hmove with
              | write hmove =>
                  exact Outgoing.written (c := c.markWriteCompleted) h hssl
                    ((hkept.submitted hready).2 hssl) hmove
              | noProxy hevent => cases hevent
          | _ => cases hwrite
  | received _ _ hintake hflush hmove hfinish =>
      have h₁ : Outgoing c.markReadCompleted log := h
      have h₂ := h₁.intake hintake
      have h₃ := (h₂.finish hflush).frame hmove.frame.1 (producedBytes_notes hmove.frame.2)
        hmove.sent_nil
      simpa only [List.append_assoc] using h₃.finish hfinish

end Ciphertext

/-! ## §3. The guard and the invariant. -/

/-- No client send drains, outside a file stream, before a response is there: on
TLS something has been queued, and a proxied response has started.  Nor is a
connection inserted under an id with operations in flight. -/
def drainsAfterResponseQueued (cfg : Config σ) : HistoryItem σ → Bool
  | .turn id (.write _ result) _ (some c) =>
      !(c.matchesGeneration id.generation && c.markWriteCompleted.drains cfg.tls result
        && c.staticStream.isNone
        && match c.proxy with
          | none => c.ssl.isSome && c.writeBuffer.isEmpty
          | some proxy => !proxy.responseStarted)
  | .inserted _ stale => stale.isEmpty
  | _ => true

theorem drainsAfterResponseStart_of_queued {item : HistoryItem σ}
    (h : drainsAfterResponseQueued cfg item = true) :
    drainsAfterResponseStart cfg item = true := by
  cases item with
  | turn id event world found =>
      cases event with
      | write submitted result =>
          cases found with
          | none => rfl
          | some c =>
              cases hproxy : c.proxy <;>
                simp_all [drainsAfterResponseQueued, drainsAfterResponseStart]
      | _ => rfl
  | inserted id stale => exact h
  | _ => rfl

/-- The books of a TLS connection: what its buffers hold is what is left of the
bytes queued and produced. -/
structure Delivery (c : UringConnection σ) (log : List Act) : Prop where
  handed : queuedBytes log = handedBytes log ++ c.writeBuffer.drop c.writeOffset
  sent : producedBytes log = sentBytes log ++ c.sslWriteBuffer.drop c.sslWriteOffset
  queued : c.writeBuffer ≠ [] ∨ c.staticStream.isSome = true → queuedBytes log ≠ []
  reading : c.readPending = true → c.writeBuffer = []
  proxying : ∀ proxy, c.proxy = some proxy →
    proxy.responseStarted = false ∨ proxy.operationPending = true → c.writeBuffer = []
  /-- A file stream that waits for its next chunk has been sent so far. -/
  paused : c.staticStream.isSome = true → c.writeBuffer = [] →
    c.writePending = false ∧ c.sslWriteBuffer.drop c.sslWriteOffset = []
      ∧ sessionQuiet log = true
  closes : ClosesAfterResponse log

section Delivery

variable {c : UringConnection σ} {log : List Act}

theorem Delivery.silent (h : Delivery c log) (act : Act) (hact : act.isSilent = true)
    (hcloses : act.closes = false) : Delivery c (log ++ [act]) := by
  obtain ⟨hq, hh, hp, hs, hquiet⟩ := Act.silent_parts hact
  refine { h with handed := ?_, sent := ?_, queued := ?_, paused := ?_, closes := ?_ }
  · simpa [hq, hh] using h.handed
  · simpa [hp, hs] using h.sent
  · simpa [hq] using h.queued
  · simpa [hquiet] using h.paused
  · exact h.closes.snoc (fun htrue => by cases hcloses.symm.trans htrue)

theorem Delivery.silents (h : Delivery c log) {acts : List Act}
    (hacts : ∀ act ∈ acts, act.isSilent = true ∧ act.closes = false) :
    Delivery c (log ++ acts) := by
  induction acts generalizing log with
  | nil => rwa [List.append_nil]
  | cons act acts ih =>
      obtain ⟨hsilent, hcloses⟩ := hacts act List.mem_cons_self
      rw [← List.singleton_append, ← List.append_assoc]
      exact ih (h.silent act hsilent hcloses) (fun a ha => hacts a (List.mem_cons_of_mem _ ha))

/-- Books with nothing left to hand over or to send, and a quiet session. -/
theorem Delivery.responseSent (h : Delivery c log) (hqueued : queuedBytes log ≠ [])
    (hhanded : c.writeBuffer.drop c.writeOffset = [])
    (hsent : c.sslWriteBuffer.drop c.sslWriteOffset = []) (hquiet : sessionQuiet log = true) :
    ResponseSent log := by
  refine ⟨hqueued, ?_, ?_, hquiet⟩
  · rw [h.handed, hhanded, List.append_nil]
  · rw [h.sent, hsent, List.append_nil]

/-- A response, or the next part of one, is queued on an empty buffer. -/
theorem Delivery.queue (h : Delivery c log) (hblank : c.writeBuffer = [])
    (hread : c.readPending = false) {bytes : List UInt8} (hne : bytes ≠ [])
    {pending : Option PendingRequest} {proxy : Option UringProxy}
    {stream : Option StaticStream}
    (hproxy : ∀ p, proxy = some p → p.responseStarted = true ∧ p.operationPending = false) :
    Delivery ({ c with pendingRequest := pending, proxy := proxy, staticStream := stream
                }.queueResponse bytes) (log ++ [.queued bytes]) := by
  have hall : queuedBytes log = handedBytes log := by
    rw [h.handed, hblank, List.drop_nil, List.append_nil]
  refine { handed := ?_, sent := ?_, queued := ?_, reading := ?_, proxying := ?_
           paused := ?_, closes := ?_ }
  · simp [UringConnection.queueResponse, Act.queuedPart, Act.handedPart, hall]
  · simpa [UringConnection.queueResponse, Act.producedPart, Act.sentPart] using h.sent
  · intro _
    simp [Act.queuedPart, hne]
  · intro htrue
    cases hread.symm.trans htrue
  · intro p hp hwaits
    obtain ⟨hstarted, hidle⟩ := hproxy p hp
    rw [hstarted, hidle] at hwaits
    rcases hwaits with hwaits | hwaits <;> cases hwaits
  · intro _ hnil
    exact absurd hnil hne
  · exact h.closes.snoc (fun hcloses => by cases hcloses)

end Delivery

/-! ## §4. Final calls. -/

section FinalCalls

variable {c c₁ c' : UringConnection σ} {log acts : List Act} {next : Next}
  {clears : Nat} {pushed : List ConnectionOp}

/-- The books before the final call `next`. -/
structure Prepared (c : UringConnection σ) (log : List Act) (next : Next) : Prop extends
    Delivery c log where
  blank : next = .recv ∨ next.upstreamKind.isSome = true → c.writeBuffer = []
  busy : next = .send → c.staticStream.isSome = true → c.writeBuffer ≠ []

/-- A refill moves bytes from the response to the session and from the session to
the ciphertext buffer. -/
theorem Delivery.fillOutput (h : Delivery c log)
    (hbusy : c.staticStream.isSome = true → c.writeBuffer ≠ [])
    (hfill : c.fillOutput env.tls = some (c₁, acts)) :
    Delivery c₁ (log ++ acts) ∧ c₁.staticStream = c.staticStream
      ∧ c₁.writeBuffer = c.writeBuffer := by
  rcases fillOutput_cases hfill with ⟨rfl, rfl, -⟩ |
    ⟨ssl, written, session, bytes, -, hsent, -, rfl, rfl⟩
  · rw [List.append_nil]
    exact ⟨h, rfl, rfl⟩
  · refine ⟨?_, rfl, rfl⟩
    refine { handed := ?_, sent := ?_, queued := ?_, reading := h.reading
             proxying := h.proxying, paused := ?_, closes := ?_ }
    · have hrest : c.writeBuffer.drop c.writeOffset
          = (c.writeBuffer.drop c.writeOffset).take written
            ++ c.writeBuffer.drop (c.writeOffset + written) := by
        rw [← List.drop_drop, List.take_append_drop]
      simp only [queuedBytes_append, handedBytes_append, h.handed]
      simp only [queuedBytes, handedBytes, List.flatMap_cons, List.flatMap_nil, Act.queuedPart,
        Act.handedPart, List.nil_append, List.append_nil, List.append_assoc]
      rw [← hrest]
    · exact Outgoing.fillOutput h.sent hfill
    · intro hsome
      rw [queuedBytes_append]
      exact fun hnil => h.queued hsome (List.append_eq_nil_iff.mp hnil).1
    · intro hsome hnil
      exact absurd hnil (hbusy hsome)
    · exact h.closes.append (by simp [Act.closes])

/-- A final call keeps the books. -/
theorem Prepared.finish (h : Prepared c log next)
    (hfinish : Finish env clears c next c' pushed acts) : Delivery c' (log ++ acts) := by
  cases hfinish with
  | done =>
      rw [List.append_nil]
      exact h.toDelivery
  | sendBusy =>
      rw [List.append_nil]
      exact h.toDelivery
  | sendIdle c₁ acts _ hfill _ => exact (h.toDelivery.fillOutput (h.busy rfl) hfill).1
  | sent c₁ acts _ hfill _ =>
      obtain ⟨h₁, hstream, hbuffer⟩ := h.toDelivery.fillOutput (h.busy rfl) hfill
      refine { h₁ with paused := ?_ }
      intro hsome hnil
      have hsome' : c.staticStream.isSome = true := hstream ▸ hsome
      exact absurd (hbuffer ▸ hnil) (h.busy rfl hsome')
  | recvBusy =>
      rw [List.append_nil]
      exact h.toDelivery
  | recv =>
      have h₁ := h.toDelivery.silent .recvSubmitted rfl rfl
      exact { h₁ with reading := fun _ => h.blank (.inl rfl) }
  | upstream _ op hkind proxy =>
      have h₁ := h.toDelivery.silent (.submitProxy op.kind proxy) rfl rfl
      have hblank : c.writeBuffer = [] := h.blank (.inr (by rw [hkind]; rfl))
      exact { h₁ with proxying := fun _ _ _ => hblank }

/-- No final call closes a connection. -/
theorem Finish.opens (h : Finish env clears c next c' pushed acts) :
    ∀ act ∈ acts, act.closes = false := by
  have hfill : ∀ {c₁ : UringConnection σ} {acts : List Act},
      c.fillOutput env.tls = some (c₁, acts) → ∀ act ∈ acts, act.closes = false := by
    intro c₁ acts hfill
    rcases fillOutput_cases hfill with ⟨-, rfl, -⟩ | ⟨_, _, _, _, -, -, -, -, rfl⟩
    · simp
    · simp [Act.closes]
  cases h with
  | sendIdle _ _ _ h => exact hfill h
  | sent _ _ _ h => exact hfill h
  | _ => simp [Act.closes]

end FinalCalls

/-! ## §5. Moves on an empty buffer. -/

section Blank

variable {c c₁ : UringConnection σ} {log acts : List Act} {next : Next}

/-- Nothing is submitted. -/
theorem Delivery.rests (h : Delivery c log) (hsend : next ≠ .send) (hrecv : next ≠ .recv)
    (hkind : next.upstreamKind = none) : Prepared c log next := by
  refine { h with blank := ?_, busy := fun hnext => absurd hnext hsend }
  rintro (hnext | hsome)
  · exact absurd hnext hrecv
  · rw [hkind] at hsome
    cases hsome

/-- The buffer is empty and the call is not a send. -/
theorem Delivery.blanks (h : Delivery c log) (hblank : c.writeBuffer = [])
    (hnext : next ≠ .send) : Prepared c log next :=
  { h with blank := fun _ => hblank, busy := fun heq => absurd heq hnext }

theorem Delivery.sends (h : Delivery c log) (hne : c.writeBuffer ≠ []) : Prepared c log .send := by
  refine { h with blank := ?_, busy := fun _ _ => hne }
  rintro (hnext | hsome)
  · cases hnext
  · cases hsome

theorem Delivery.setProxy (h : Delivery c log) (hblank : c.writeBuffer = []) (proxy : UringProxy) :
    Delivery (c.setProxy proxy) log :=
  { h with proxying := fun _ _ _ => hblank }

theorem Delivery.answered (h : Delivery c log) (hblank : c.writeBuffer = [])
    (hread : c.readPending = false) {response : List UInt8} (hne : response ≠ []) :
    Prepared ({ c with proxy := none }.queueResponse response) (log ++ [.queued response]) .send :=
  (h.queue hblank hread hne (fun p hp => by cases hp)).sends hne

theorem Delivery.fail (h : Delivery c log) (hblank : c.writeBuffer = [])
    (hread : c.readPending = false) (hmove : FailMove c next (some c₁) acts) :
    Prepared c₁ (log ++ acts) next := by
  cases hmove with
  | answered response hne => exact h.answered hblank hread hne

theorem Delivery.address (h : Delivery c log) (hblank : c.writeBuffer = [])
    (hread : c.readPending = false) {proxy : UringProxy}
    (hmove : AddressMove env c proxy next (some c₁) acts) : Prepared c₁ (log ++ acts) next := by
  cases hmove with
  | found =>
      rw [List.append_nil]
      exact (h.setProxy hblank _).blanks hblank (by decide)
  | exhausted response hne => exact h.answered hblank hread hne

/-- The next chunk of a file whose bytes so far have been sent. -/
theorem Delivery.stream (h : Delivery c log) (hblank : c.writeBuffer = [])
    (hread : c.readPending = false) (hproxy : c.proxy = none)
    (hmove : StreamMove c next (some c₁) acts) : Prepared c₁ (log ++ acts) next := by
  cases hmove with
  | data stream bytes hne =>
      exact (h.queue hblank hread hne (fun p hp => by cases hproxy.symm.trans hp)).sends hne
  | pending =>
      rw [List.append_nil]
      exact h.blanks hblank (by decide)

/-- The end of a file finds its bytes sent. -/
theorem Delivery.streamEnds (h : Delivery c log) (hblank : c.writeBuffer = [])
    (hsome : c.staticStream.isSome = true) (hmove : StreamMove c next none acts) :
    ClosesAfterResponse (log ++ acts) := by
  obtain ⟨-, hsent, hquiet⟩ := h.paused hsome hblank
  have hresponse : ResponseSent log :=
    h.responseSent (h.queued (.inr hsome)) (by rw [hblank, List.drop_nil]) hsent hquiet
  cases hmove with
  | finished =>
      have hcounted : ClosesAfterResponse (log ++ [.response .streamFinished]) :=
        h.closes.snoc (fun _ => hresponse)
      rw [← List.singleton_append, ← List.append_assoc]
      exact hcounted.snoc (fun _ => hresponse.silent rfl)
  | failed => exact h.closes.snoc (fun _ => hresponse)

theorem Delivery.answer (h : Delivery c log) (hblank : c.writeBuffer = [])
    (hread : c.readPending = false) (hproxy : c.proxy = none)
    (hmove : AnswerMove env c next (some c₁) acts) : Prepared c₁ (log ++ acts) next := by
  have hnone : ∀ p, c.proxy = some p → p.responseStarted = true ∧ p.operationPending = false :=
    fun p hp => by cases hproxy.symm.trans hp
  cases hmove with
  | respond response hne => exact (h.queue hblank hread hne hnone).sends hne
  | static stream head hne => exact (h.queue hblank hread hne hnone).sends hne
  | proxyError response hne _ forwarding hforwarding =>
      have hnotes : Delivery c (log ++ (.proxied :: forwarding)) := by
        rcases hforwarding with rfl | ⟨bytes, rfl⟩
        · exact h.silents (by simp [Act.isSilent, Act.closes])
        · exact h.silents (by simp [Act.isSilent, Act.closes])
      rw [← List.cons_append, ← List.append_assoc]
      exact hnotes.answered hblank hread hne
  | resolving requestBuffer =>
      have hnotes : Delivery c (log ++ [.proxied, .forwarding requestBuffer]) :=
        h.silents (by simp [Act.isSilent, Act.closes])
      exact (hnotes.setProxy hblank _).blanks hblank (by decide)
  | balancerPanic => exact (h.silent .proxied rfl rfl).blanks hblank (by decide)

theorem Delivery.receiveRequest (h : Delivery c log) {limits : WorkerLimits}
    {received : List UInt8} {verdict : ReadVerdict}
    (hreceive : c.receiveRequest limits received = (c₁, verdict)) :
    Delivery c₁ (log ++ [.verdict verdict]) ∧ c₁.writeBuffer = c.writeBuffer := by
  obtain ⟨_, _, _, rfl⟩ := receiveRequest_frame hreceive
  have h₁ := h.silent (.verdict verdict) rfl rfl
  exact ⟨{ h₁ with }, rfl⟩

theorem Delivery.plaintext (h : Delivery c log) (hblank : c.writeBuffer = [])
    (hread : c.readPending = false) (hproxy : c.proxy = none) {received : List UInt8}
    (hmove : PlaintextMove env received c next (some c₁) acts) :
    Prepared c₁ (log ++ acts) next := by
  cases hmove with
  | empty =>
      rw [List.append_nil]
      exact h.blanks hblank (by decide)
  | waiting _ hreceive =>
      obtain ⟨h₁, hbuffer⟩ := h.receiveRequest hreceive
      exact h₁.blanks (hbuffer.trans hblank) (by decide)
  | rejected c₂ status message response hne hreceive =>
      obtain ⟨h₁, hbuffer⟩ := h.receiveRequest hreceive
      have hsame := receiveRequest_sameOrder hreceive
      rw [← List.singleton_append, ← List.append_assoc]
      refine (h₁.queue (hbuffer.trans hblank) (hsame.readPending.trans hread) hne ?_).sends hne
      intro p hp
      cases (hsame.proxy.trans hproxy).symm.trans hp
  | dispatched _ head body _ _ _ hreceive hanswer =>
      obtain ⟨h₁, hbuffer⟩ := h.receiveRequest hreceive
      have hsame := receiveRequest_sameOrder hreceive
      rw [← List.singleton_append, ← List.append_assoc]
      exact h₁.answer (hbuffer.trans hblank) (hsame.readPending.trans hread)
        (hsame.proxy.trans hproxy) hanswer

end Blank

/-! ## §6. Completed sends. -/

section Sends

variable {c c₁ : UringConnection σ} {log acts : List Act} {next : Next} {result : Int}

/-- What is known when a send on a TLS connection completes; `c` no longer has it
pending, and `submitted` is what the send was given. -/
structure SendDone (c : UringConnection σ) (log : List Act) (submitted : List UInt8) : Prop extends
    Delivery c log where
  ssl : c.ssl.isSome = true
  idle : c.writePending = false
  submitted : submitted = c.sslWriteBuffer.drop c.sslWriteOffset
  busy : c.staticStream.isSome = true →
    c.writeBuffer ≠ [] ∧ c.readPending = false ∧ c.proxy = none

variable {submitted : List UInt8}

/-- The transmitted bytes leave the ciphertext buffer. -/
theorem SendDone.advance (h : SendDone c log submitted) (n : Nat) (more : Bool) :
    Delivery (c.advance n) (log ++ [.sent (submitted.take n) more]) := by
  rw [advance_tls h.ssl]
  refine { handed := ?_, sent := ?_, queued := ?_, reading := h.reading
           proxying := h.proxying, paused := ?_, closes := ?_ }
  · simpa [Act.queuedPart, Act.handedPart] using h.handed
  · rw [← advance_tls h.ssl]
    exact Outgoing.advance h.sent h.ssl h.submitted n more
  · simpa [Act.queuedPart] using h.queued
  · intro hsome hnil
    exact absurd hnil (h.busy hsome).1
  · exact h.closes.snoc (fun hcloses => by cases hcloses)

/-- The books after a send that drained the output. -/
structure Drained (c : UringConnection σ) (log : List Act) : Prop extends Delivery c log where
  handedOver : c.writeBuffer.drop c.writeOffset = []
  transmitted : c.sslWriteBuffer.drop c.sslWriteOffset = []
  quiet : sessionQuiet log = true
  free : c.writePending = false

theorem SendDone.drained {tls : Rustls σ} (h : SendDone c log submitted) (n : Nat)
    (hdrained : (c.advance n).outputDrained tls = true) :
    Drained (c.advance n) (log ++ [.sent (submitted.take n) ((c.advance n).wantsWrite tls)]) := by
  have hssl : (c.advance n).ssl.isSome = true := by
    rw [c.advance_ssl]
    exact h.ssl
  obtain ⟨hhanded, hsent, hwants⟩ := UringConnection.outputDrained_spec hdrained
  unfold UringConnection.unsent at hsent
  rw [if_pos hssl] at hsent
  refine { h.advance n _ with
           handedOver := hhanded, transmitted := hsent, quiet := ?_, free := ?_ }
  · simp [quietAfter, hwants]
  · exact (advance_sameOrder c n).writePending.trans h.idle

theorem Drained.clearOutput (h : Drained c log) : Delivery c.clearOutput log := by
  refine { sent := h.sent, handed := ?_, queued := ?_, reading := fun _ => rfl
           proxying := fun _ _ _ => rfl, paused := ?_, closes := h.closes }
  · rw [h.handed, h.handedOver]
    rfl
  · rintro (hne | hsome)
    · exact absurd rfl hne
    · exact h.queued (.inr hsome)
  · exact fun _ _ => ⟨h.free, h.transmitted, h.quiet⟩

theorem Drained.responseSent (h : Drained c log) (hqueued : c.writeBuffer ≠ []) :
    ResponseSent log :=
  h.toDelivery.responseSent (h.queued (.inl hqueued)) h.handedOver h.transmitted h.quiet

/-- The alert is queued in the session; no other account changes. -/
theorem Drained.alert (h : Drained c log) (hqueued : c.writeBuffer ≠ [])
    (ssl : UringSslSession σ) : Delivery (c.setSsl ssl) (log ++ [.closeNotify]) := by
  refine { reading := h.reading, proxying := h.proxying, handed := ?_, sent := ?_
           queued := ?_, paused := ?_, closes := ?_ }
  · simpa [UringConnection.setSsl, Act.queuedPart, Act.handedPart] using h.handed
  · simpa [UringConnection.setSsl, Act.producedPart, Act.sentPart] using h.sent
  · simpa [UringConnection.setSsl, Act.queuedPart] using h.queued
  · intro _ hnil
    exact absurd hnil hqueued
  · exact h.closes.snoc (fun _ => h.responseSent hqueued)

/-- The moves of a completed send that keep the connection. -/
theorem SendDone.written (h : SendDone c log submitted)
    (hguard : c.drains env.tls result = true → c.staticStream = none → c.proxy = none →
      c.writeBuffer ≠ [])
    (hmove : WriteMove env submitted result c next (some c₁) acts) :
    Prepared c₁ (log ++ acts) next := by
  have hadvance := advance_sameOrder c result.toNat
  have hbuffer := c.advance_writeBuffer result.toNat
  cases hmove with
  | retry =>
      rw [List.append_nil]
      refine { h.toDelivery with blank := ?_, busy := fun _ hsome => (h.busy hsome).1 }
      rintro (hnext | hsome)
      · cases hnext
      · cases hsome
  | more =>
      refine { h.advance result.toNat _ with blank := ?_, busy := fun _ hsome => ?_ }
      · rintro (hnext | hsome)
        · cases hnext
        · cases hsome
      · rw [hbuffer]
        exact (h.busy (hadvance.staticStream ▸ hsome)).1
  | stream _ _ hdrained hsome _ _ _ hmove =>
      have hclear := (h.drained result.toNat hdrained).clearOutput
      rw [← List.singleton_append, ← List.append_assoc]
      exact hclear.stream rfl (hadvance.readPending.trans (h.busy hsome).2.1)
        (hadvance.proxy.trans (h.busy hsome).2.2) hmove
  | proxy _ _ hdrained =>
      have hclear := (h.drained result.toNat hdrained).clearOutput
      exact (hclear.setProxy rfl _).blanks rfl (by decide)
  | close hpos hlen hdrained hstream hproxy ssl hssl =>
      have hend := h.drained result.toNat hdrained
      have hne : (c.advance result.toNat).writeBuffer ≠ [] := by
        rw [hbuffer]
        refine hguard ?_ hstream hproxy
        simp [UringConnection.drains, hpos, hlen, hdrained]
      rw [← List.singleton_append, ← List.append_assoc]
      exact (hend.alert hne (ssl.close env.tls)).sends hne

/-- … and those that remove it. -/
theorem SendDone.ends (h : SendDone c log submitted)
    (hguard : c.drains env.tls result = true → c.staticStream = none → c.proxy = none →
      c.writeBuffer ≠ [])
    (hmove : WriteMove env submitted result c next none acts) :
    ClosesAfterResponse (log ++ acts) := by
  have hadvance := advance_sameOrder c result.toNat
  cases hmove with
  | failed => exact h.closes.append (by simp [Act.closes])
  | invalid => exact h.closes.append (by simp [Act.closes])
  | stream _ _ hdrained hsome _ _ _ hmove =>
      have hclear := (h.drained result.toNat hdrained).clearOutput
      rw [← List.singleton_append, ← List.append_assoc]
      refine hclear.streamEnds rfl ?_ hmove
      show (c.advance result.toNat).staticStream.isSome = true
      rw [hadvance.staticStream]
      exact hsome
  | delivered hpos hlen hdrained hstream hproxy =>
      have hend := h.drained result.toNat hdrained
      have hne : (c.advance result.toNat).writeBuffer ≠ [] := by
        rw [UringConnection.advance_writeBuffer]
        refine hguard ?_ hstream hproxy
        simp [UringConnection.drains, hpos, hlen, hdrained]
      have hresponse := hend.responseSent hne
      have hcounted := hend.closes.snoc (fun _ : Act.closes (.response .delivered) = true =>
        hresponse)
      have hremoved := hcounted.snoc (fun _ : Act.closes (.removed .delivered) = true =>
        hresponse.silent rfl)
      simpa using hremoved

end Sends

/-! ## §7. Turns. -/

section Turns

variable {now : Instant} {id : ConnectionId} {event : TurnEvent} {c c₁ c' : UringConnection σ}
  {ops ops₀ pushed : List ConnectionOp} {log acts : List Act} {next : Next} {clears : Nat}

/-- When an upstream operation completes, no response waits to be sent. -/
theorem Delivery.upstream (h : Delivery c log) (horder : InOrder c ops)
    (hready : Ready cfg now c event ops ops₀) {kind : OperationKind}
    (hevent : event.upstreamKind = some kind) :
    c.writeBuffer = [] ∧ c.readPending = false := by
  obtain ⟨op, proxy, -, hdone⟩ := horder.upstreamReady hready hevent
  exact ⟨h.proxying proxy hdone.found (.inr hdone.pending), hdone.read⟩

theorem Delivery.sendDone {submitted : List UInt8} {result : Int} (h : Delivery c log)
    (horder : InOrder c ops) (hkept : SendKept c clears (ops.filter ConnectionOp.isSend))
    (hssl : c.ssl.isSome = true) (hready : Ready cfg now c (.write submitted result) ops ops₀) :
    SendDone c.markWriteCompleted log submitted := by
  obtain ⟨hpending, hsubmitted⟩ := hkept.submitted hready
  refine { h with
           ssl := hssl, idle := rfl, submitted := hsubmitted hssl
           busy := fun hsome => ⟨fun hnil => ?_, horder.of_stream hsome⟩
           paused := fun hsome hnil => ⟨rfl, (h.paused hsome hnil).2⟩ }
  -- a stream that waits for its file has no send pending
  cases hpending.symm.trans (h.paused hsome hnil).1

theorem guard_queued {submitted : List UInt8} {result : Int} (hgen : c.generation = id.generation)
    (hguard : drainsAfterResponseQueued cfg (.turn id (.write submitted result) world (some c)) = true)
    (hssl : c.ssl.isSome = true)
    (hdrains : c.markWriteCompleted.drains cfg.tls result = true)
    (hstream : c.staticStream = none) (hproxy : c.proxy = none) : c.writeBuffer ≠ [] := by
  simpa [drainsAfterResponseQueued, UringConnection.matchesGeneration, hgen, hdrains, hstream,
    hproxy, hssl] using hguard

/-- **Every move keeps the books.** -/
theorem Delivery.planned (henv : env.toConfig = cfg) (hgen : c.generation = id.generation)
    (hguard : drainsAfterResponseQueued cfg (.turn id event world (some c)) = true)
    (hready : Ready cfg now c event ops ops₀) (horder : InOrder c ops)
    (hkept : SendKept c clears (ops.filter ConnectionOp.isSend)) (hssl : c.ssl.isSome = true)
    (h : Delivery c log) (hmove : Move env event c next (some c₁) acts) :
    Prepared c₁ (log ++ acts) next := by
  subst henv
  -- an upstream completion finds the buffer empty
  have hsetProxy : ∀ {kind : OperationKind}, event.upstreamKind = some kind → ∀ proxy,
      Delivery (c.setProxy proxy) log ∧ c.writeBuffer = [] ∧ c.readPending = false := by
    intro kind hkind proxy
    obtain ⟨hblank, hread⟩ := h.upstream horder hready hkind
    exact ⟨h.setProxy hblank proxy, hblank, hread⟩
  have hdone : Prepared c (log ++ []) .done := by
    rw [List.append_nil]
    exact h.rests (by decide) (by decide) rfl
  have hexit : ∀ reason, Prepared c (log ++ []) (.exit reason) := by
    intro reason
    rw [List.append_nil]
    exact h.rests nofun nofun rfl
  cases hmove with
  | accepted => exact (ready_ne_accepted hready).elim
  | recvBroken => exact hexit _
  | upstreamBroken => exact hexit _
  | expiredMissing => exact hexit _
  | pumpMissing => exact hexit _
  | noProxy => exact hdone
  | notResolving => exact hdone
  | recvRetry =>
      obtain ⟨op, completion, before, after, hevent, rfl, rfl⟩ := hready.of_completion rfl
      cases op with
      | recv length =>
          have hblank := h.reading horder.toClientOps.readPending
          have h₁ : Delivery c.markReadCompleted log :=
            { h with reading := fun _ => hblank }
          rw [List.append_nil]
          exact h₁.blanks hblank (by decide)
      | _ => cases hevent
  | write hmove =>
      have hsend := h.sendDone horder hkept hssl hready
      exact hsend.written (guard_queued hgen hguard hssl) hmove
  | connectFailed proxy hproxy _ hmove =>
      obtain ⟨h₁, hblank, hread⟩ := hsetProxy rfl proxy.completed
      exact h₁.fail hblank hread hmove
  | connectNext proxy hproxy hmove =>
      obtain ⟨h₁, hblank, hread⟩ := hsetProxy rfl proxy.completed
      exact h₁.address hblank hread hmove
  | connected =>
      obtain ⟨h₁, hblank, -⟩ := hsetProxy rfl _
      rw [List.append_nil]
      exact h₁.blanks hblank (by decide)
  | writeFailed proxy hproxy _ hmove =>
      obtain ⟨h₁, hblank, hread⟩ := hsetProxy rfl proxy.completed
      exact h₁.fail hblank hread hmove
  | writeRetry =>
      obtain ⟨h₁, hblank, -⟩ := hsetProxy rfl _
      rw [List.append_nil]
      exact h₁.blanks hblank (by decide)
  | wroteSome =>
      obtain ⟨h₁, hblank, -⟩ := hsetProxy rfl _
      exact (h₁.silent (.forwarded _) rfl rfl).blanks hblank (by decide)
  | wroteAll =>
      obtain ⟨h₁, hblank, -⟩ := hsetProxy rfl _
      exact (h₁.silent (.forwarded _) rfl rfl).blanks hblank (by decide)
  | readFailed proxy hproxy _ hmove =>
      obtain ⟨h₁, hblank, hread⟩ := hsetProxy rfl proxy.completed
      exact h₁.fail hblank hread hmove
  | readRetry =>
      obtain ⟨h₁, hblank, -⟩ := hsetProxy rfl _
      rw [List.append_nil]
      exact h₁.blanks hblank (by decide)
  | chunk proxy hproxy bytes hne =>
      obtain ⟨h₁, hblank, hread⟩ := hsetProxy rfl proxy
      rw [← List.singleton_append, ← List.append_assoc]
      refine ((h₁.silent (.relayed bytes) rfl rfl).queue hblank hread hne ?_).sends hne
      intro p hp
      cases hp
      exact ⟨rfl, rfl⟩
  | unresolved proxy hproxy hphase response hne =>
      obtain ⟨-, -, hread, hstarted⟩ := horder.of_resolving hproxy hphase
      exact h.answered (h.proxying proxy hproxy (.inl hstarted)) hread hne
  | resolved addresses proxy hproxy hphase hmove =>
      obtain ⟨-, -, hread, hstarted⟩ := horder.of_resolving hproxy hphase
      have hblank := h.proxying proxy hproxy (.inl hstarted)
      exact (h.setProxy hblank _).address hblank hread hmove
  | expiredIdle hmove =>
      obtain ⟨-, -, proxy, hproxy, -⟩ := hready.of_expired
      cases hmove with
      | answered response hne hstarted =>
          exact h.answered (h.proxying proxy hproxy (.inl (hstarted proxy hproxy)))
            (horder.toClientOps.readPending_of_proxy hproxy) hne
  | expiredPending proxy hproxy _ hnext =>
      have h₁ : Delivery (c.setProxy { proxy with timedOut := true }) log := by
        refine { h with proxying := fun p hp hwaits => ?_ }
        cases hp
        exact h.proxying proxy hproxy hwaits
      rw [List.append_nil]
      rcases hnext with rfl | rfl
      · exact h₁.rests (by decide) (by decide) rfl
      · exact h₁.rests (by decide) (by decide) rfl
  | pump hsome hmove =>
      obtain ⟨hread, hproxy⟩ := horder.of_stream hsome
      exact h.stream hready.of_pump.2.2.2 hread hproxy hmove

section Received

variable {received plaintext : List UInt8}

theorem Intake.writeBuffer (h : Intake env received c next c₁ plaintext acts) :
    c₁.writeBuffer = c.writeBuffer := by
  cases h <;> rfl

theorem Intake.opens (h : Intake env received c next c₁ plaintext acts) :
    ∀ act ∈ acts, act.closes = false := by
  cases h <;> simp [Act.closes]

theorem PlaintextMove.opens_removed (h : PlaintextMove env plaintext c next none acts) :
    ∀ act ∈ acts, act.closes = false := by
  cases h with
  | dispatched _ _ _ _ _ _ _ hanswer =>
      cases hanswer
      simp [Act.closes]

/-- Received ciphertext wakes the session and changes no account. -/
theorem Delivery.intake (h : Delivery c log)
    (hssl : c.ssl.isSome = true) (hstream : c.staticStream = none)
    (hintake : Intake env received c next c₁ plaintext acts) : Delivery c₁ (log ++ acts) := by
  cases hintake with
  | plain hnone =>
      rw [hnone] at hssl
      cases hssl
  | tls ssl ssl' _ taken =>
      have h₁ := h.silent (.copied received) rfl rfl
      rw [← List.singleton_append, ← List.append_assoc]
      refine { reading := h.reading, proxying := h.proxying, handed := ?_, sent := ?_
               queued := ?_, paused := ?_, closes := ?_ }
      · rw [queuedBytes_append, handedBytes_append, h₁.handed]
        simp [Act.queuedPart, Act.handedPart, UringConnection.setSsl]
      · rw [producedBytes_append, sentBytes_append, h₁.sent]
        simp [Act.producedPart, Act.sentPart, UringConnection.setSsl]
      · intro hsome
        rw [queuedBytes_append, queuedBytes_singleton]
        simpa [Act.queuedPart] using h₁.queued hsome
      · intro hsome
        rw [show (c.setSsl ssl').staticStream = none from hstream] at hsome
        cases hsome
      · exact h₁.closes.snoc (fun hcloses => by cases hcloses)

/-- The flush of the session's own bytes. -/
theorem Delivery.flush (h : Delivery c log) (hnext : next = .send ∨ next = .done)
    (hstream : c.staticStream = none) : Prepared c log next := by
  refine { h with blank := ?_, busy := fun _ hsome => ?_ }
  · rcases hnext with rfl | rfl <;> rintro (hnext | hsome) <;>
      first | cases hnext | cases hsome
  · rw [hstream] at hsome
    cases hsome

end Received

/-- A turn keeps the books. -/
theorem Delivery.turn (henv : env.toConfig = cfg) (hgen : c.generation = id.generation)
    (hguard : drainsAfterResponseQueued cfg (.turn id event world (some c)) = true)
    (hready : Ready cfg now c event ops ops₀) (horder : InOrder c ops)
    (hkept : SendKept c clears (ops.filter ConnectionOp.isSend)) (hssl : c.ssl.isSome = true)
    (h : Delivery c log) (houtcome : TurnOutcome env event c clears (some c') pushed acts) :
    Delivery c' (log ++ acts) := by
  cases houtcome with
  | moved hmove hfinish =>
      rw [← List.append_assoc]
      exact (h.planned henv hgen hguard hready horder hkept hssl hmove).finish hfinish
  | received hevent hpos hintake hflush hmove hfinish =>
      subst hevent
      obtain ⟨op, completion, before, after, hevent, rfl, rfl⟩ := hready.of_completion rfl
      cases op with
      | recv length =>
          have hblank := h.reading horder.toClientOps.readPending
          obtain ⟨hproxy, hstream, -⟩ := horder.recvCompleted
          have h₀ : Delivery c.markReadCompleted log := { h with reading := fun _ => hblank }
          have h₁ := h₀.intake hssl hstream hintake
          have hsame := hintake.sameOrder
          have h₂ := (h₁.flush hintake.flush (hsame.staticStream.trans hstream)).finish hflush
          have hsame₂ := hflush.sameOrder hintake.flush
          have h₃ := h₂.plaintext (hflush.writeBuffer.trans (hintake.writeBuffer.trans hblank))
            (hsame₂.2.2.trans hsame.readPending) (hsame₂.1.trans (hsame.proxy.trans hproxy)) hmove
          have h₄ := h₃.finish hfinish
          simpa only [List.append_assoc] using h₄
      | _ => cases hevent

/-- A removal that closes the connection finds its response sent. -/
theorem Delivery.removed (henv : env.toConfig = cfg) (hgen : c.generation = id.generation)
    (hguard : drainsAfterResponseQueued cfg (.turn id event world (some c)) = true)
    (hready : Ready cfg now c event ops ops₀) (horder : InOrder c ops)
    (hkept : SendKept c clears (ops.filter ConnectionOp.isSend)) (hssl : c.ssl.isSome = true)
    (h : Delivery c log) (houtcome : TurnOutcome env event c clears none pushed acts) :
    ClosesAfterResponse (log ++ acts) := by
  subst henv
  cases houtcome with
  | removed hmove =>
      cases hmove with
      | write hmove =>
          have hsend := h.sendDone horder hkept hssl hready
          exact hsend.ends (guard_queued hgen hguard hssl) hmove
      | pump hsome hmove => exact h.streamEnds hready.of_pump.2.2.2 hsome hmove
      | connectFailed _ _ _ hmove => cases hmove; exact h.closes.append (by simp [Act.closes])
      | connectNext _ _ hmove => cases hmove
      | writeFailed _ _ _ hmove => cases hmove; exact h.closes.append (by simp [Act.closes])
      | readFailed _ _ _ hmove => cases hmove; exact h.closes.append (by simp [Act.closes])
      | resolved _ _ _ _ hmove => cases hmove
      | expiredIdle hmove => cases hmove; exact h.closes.append (by simp [Act.closes])
      | _ => exact h.closes.append (by simp [Act.closes])
  | receivedRemoved hevent hpos hintake hflush hmove =>
      rw [← List.append_assoc, ← List.append_assoc]
      exact ((h.closes.append hintake.opens).append hflush.opens).append hmove.opens_removed

end Turns

/-! ## §8. Every run. -/

/-- The invariant of a connection: its operations are in order, its pending send
has its buffer, and on TLS its books are right. -/
structure InBooks (c : UringConnection σ) (ops : List ConnectionOp) (log : List Act) : Prop where
  order : InOrder c ops
  kept : SendKept c (clearsIn log) (ops.filter ConnectionOp.isSend)
  marked : log.head? = some (.accepted c.ssl.isSome)
  books : c.ssl.isSome = true → Delivery c log

theorem delivery_fresh (socket : Socket) (generation : UInt16) (listenerIndex : Nat)
    (ssl : Option (UringSslSession σ)) :
    Delivery (UringConnection.fresh socket generation listenerIndex ssl).markReadSubmitted
      [.accepted ssl.isSome, .recvSubmitted] where
  handed := rfl
  sent := rfl
  queued := by
    rintro (hne | hsome)
    · exact absurd rfl hne
    · cases hsome
  reading := fun _ => rfl
  proxying := fun _ _ _ => rfl
  paused := fun hsome => by cases hsome
  closes := by
    have hnil : ClosesAfterResponse [] := by
      intro before act after heq
      cases before <;> cases heq
    exact hnil.append (by simp [Act.closes])

def closingRule (cfg : Config σ) : SlotRule cfg where
  Inv := InBooks
  Guard item := drainsAfterResponseQueued cfg item = true
  Outlives _ := True
  Gone log _ := log.head? = some (.accepted true) → ClosesAfterResponse log
  accepted := by
    intro id c stale hfresh hguard _
    have hnil : stale = [] := List.isEmpty_iff.mp hguard
    subst hnil
    cases hfresh with
    | mk socket listenerIndex ssl =>
        exact
          { order := ⟨⟨rfl, rfl, fun _ => ⟨rfl, rfl⟩⟩, .absent rfl⟩
            kept := .idle rfl
            marked := rfl
            books := fun _ => delivery_fresh socket id.generation listenerIndex ssl }
  turn := by
    intro env id event c c' ops ops₀ pushed log acts henv _ hgen hguard hready hinv houtcome
    have hstart := drainsAfterResponseStart_of_queued hguard
    have hssl := houtcome.sameClient.ssl
    refine { order := (hinv.order.turn henv hgen hstart hready houtcome).1
             kept := ?_, marked := ?_, books := fun htls => ?_ }
    · rw [clearsIn_append]
      exact hinv.kept.turn hready houtcome
    · rw [hssl, List.head?_append, hinv.marked]
      rfl
    · rw [hssl] at htls
      exact (hinv.books htls).turn henv hgen hguard hready hinv.order hinv.kept htls houtcome
  removed := by
    intro env id event c ops ops₀ pushed log acts henv _ hgen hguard hready hinv houtcome
    refine ⟨fun hhead => ?_, fun _ _ => trivial⟩
    rw [List.head?_append, hinv.marked] at hhead
    injection hhead with hhead
    injection hhead with htls
    exact (hinv.books htls).removed henv hgen hguard hready hinv.order hinv.kept htls houtcome

/-- **A TLS connection is closed only after its response.**  In every run in which
no client send drains before a response is there, and no id is reused while an
operation is in flight under it: whenever a TLS connection was sent its
`close_notify`, counted as answered, or removed after a completed send, a response
had been queued, the session had accepted all of it, and all its ciphertext had
been transmitted. -/
theorem tls_closes_after_response {w : IoUringWorker σ} (h : Reachable cfg w)
    (hguard : ∀ item ∈ w.history, drainsAfterResponseQueued cfg item = true) :
    (∀ slot occ, w.connections.get slot = some occ → occ.connection.ssl.isSome = true →
      ClosesAfterResponse occ.log)
    ∧ ∀ id log ops, HistoryItem.removed id log ops ∈ w.history →
        log.head? = some (.accepted true) → ClosesAfterResponse log := by
  have hholds := (closingRule cfg).holds h hguard
  refine ⟨?_, hholds.gone⟩
  intro slot occ hget htls
  exact ((hholds.live slot occ hget).books htls).closes

/-- A TLS worker whose clients have a single handshake flight. -/
def toyResumption : Config ToySession := Config.single (Rustls.toy 64) (some ⟨1, 100⟩) []

/-- The client's flight carries its request. The session's answer is sent, then the
response, then the alert is on its way. -/
def requestInFlight : List Event :=
  [.accepts 5,
   .completed 4 (.received (1 :: asBytes "GET / HTTP/1.1\r\n\r\n".toList)) [] .quiet,
   .completed 4 (.plain 1) [] .quiet,
   .completed 4 (.plain 114) [] .quiet]

theorem tls_closes_after_response_requestInFlight :
    ∃ w, Reachable toyResumption w
      ∧ (∀ item ∈ w.history, drainsAfterResponseQueued toyResumption item = true)
      ∧ ∃ occ, w.connections.get 0 = some occ ∧ occ.connection.ssl.isSome = true
        ∧ Act.closeNotify ∈ occ.log ∧ ClosesAfterResponse occ.log := by
  have hrun : bootsTo toyResumption .quiet requestInFlight (fun w =>
      w.history.all (drainsAfterResponseQueued toyResumption)
        && (w.connections.get 0).any (fun occ =>
          occ.connection.ssl.isSome && occ.log.contains .closeNotify)) = true := by
    decide +kernel
  obtain ⟨w, hw, hp⟩ := reachable_of_bootsTo hrun
  simp only [Bool.and_eq_true, List.all_eq_true, Option.any_eq_true,
    List.contains_iff_mem] at hp
  obtain ⟨hguard, occ, hget, htls, hmem⟩ := hp
  exact ⟨w, hw, hguard, occ, hget, htls, hmem,
    (tls_closes_after_response hw hguard).1 0 occ hget htls⟩

/-- When the answer to the client's first handshake flight has been sent, the
connection gets its `close_notify`: no request has been read and no response
queued. -/
theorem first_flight_closes_connection :
    ¬ ∀ w, Reachable toyHandshake w → ∀ slot occ, w.connections.get slot = some occ →
      occ.connection.ssl.isSome = true → ClosesAfterResponse occ.log := by
  intro hall
  have hrun : bootsTo toyHandshake .quiet (firstFlight ++ [.completed 4 (.plain 1) [] .quiet])
      (fun w => (w.connections.get 0).any (fun occ => occ.connection.ssl.isSome
        && occ.log.contains .closeNotify && (queuedBytes occ.log).isEmpty)) = true := by
    decide +kernel
  obtain ⟨w, hw, hp⟩ := reachable_of_bootsTo hrun
  simp only [Option.any_eq_true, Bool.and_eq_true, List.contains_iff_mem,
    List.isEmpty_iff] at hp
  obtain ⟨occ, hget, ⟨htls, hmem⟩, hqueued⟩ := hp
  obtain ⟨before, after, hlog⟩ := List.append_of_mem hmem
  have hsent := hall w hw 0 occ hget htls before .closeNotify after hlog rfl
  rw [hlog, queuedBytes_append] at hqueued
  exact hsent.queued (List.append_eq_nil_iff.mp hqueued).1

end Thwip.IoUring
