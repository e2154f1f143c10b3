/-
  Thwip.Readiness.Reads — what a read pass does to a connection.

  Reading touches the read buffer, the TLS session, the time of the last progress
  and, while the connection is still in its reading phase, the recorded request.
  The recorded request is the one the buffer starts with, and more of its bytes
  are still to come.
-/
import Thwip.Readiness.Connection

namespace Thwip.Readiness

open Thwip.Lib

variable {σ : Type} {tls : Rustls σ} {limits : WorkerLimits} {now : Instant}
  {c c' : Connection σ}

/-! ## §1. What reading leaves alone. -/

/-- `c'` is `c` with other received bytes, and perhaps another recorded request. -/
structure ReadsOnly (c c' : Connection σ) : Prop where
  writeBuffer : c'.writeBuffer = c.writeBuffer
  writeOffset : c'.writeOffset = c.writeOffset
  listenerGroup : c'.listenerGroup = c.listenerGroup
  generation : c'.generation = c.generation
  staticStream : c'.staticStream = c.staticStream
  ssl : c'.ssl.isSome = c.ssl.isSome
  sslClosing : c'.sslClosing = c.sslClosing
  phase : (∃ p p', c.phase = .reading p ∧ c'.phase = .reading p') ∨ c'.phase = c.phase

theorem ReadsOnly.refl (c : Connection σ) : ReadsOnly c c :=
  ⟨rfl, rfl, rfl, rfl, rfl, rfl, rfl, .inr rfl⟩

theorem ReadsOnly.trans {c₁ c₂ c₃ : Connection σ} (h : ReadsOnly c₁ c₂) (h' : ReadsOnly c₂ c₃) :
    ReadsOnly c₁ c₃ := by
  refine ⟨h'.writeBuffer.trans h.writeBuffer, h'.writeOffset.trans h.writeOffset,
    h'.listenerGroup.trans h.listenerGroup, h'.generation.trans h.generation,
    h'.staticStream.trans h.staticStream, h'.ssl.trans h.ssl, h'.sslClosing.trans h.sslClosing, ?_⟩
  rcases h.phase with ⟨p, p', hp, hp'⟩ | heq
  · rcases h'.phase with ⟨q, q', hq, hq'⟩ | heq'
    · exact .inl ⟨p, q', hp, hq'⟩
    · exact .inl ⟨p, p', hp, heq'.trans hp'⟩
  · rcases h'.phase with ⟨q, q', hq, hq'⟩ | heq'
    · exact .inl ⟨q, q', heq ▸ hq, hq'⟩
    · exact .inr (heq'.trans heq)

theorem readsOnly_setPendingRequest (c : Connection σ) (p : PendingRequest) :
    ReadsOnly c (c.setPendingRequest p) := by
  unfold Connection.setPendingRequest
  split
  next q hq => exact ⟨rfl, rfl, rfl, rfl, rfl, rfl, rfl, .inl ⟨q, some p, hq, rfl⟩⟩
  · exact .refl c

theorem readsOnly_takePendingRequest (c : Connection σ) : ReadsOnly c c.takePendingRequest := by
  unfold Connection.takePendingRequest
  split
  next q hq => exact ⟨rfl, rfl, rfl, rfl, rfl, rfl, rfl, .inl ⟨q, none, hq, rfl⟩⟩
  · exact .refl c

theorem readsOnly_finishRequest (c : Connection σ) : ReadsOnly c c.finishRequest.1 := by
  unfold Connection.finishRequest
  split
  · split_ifs
    · exact readsOnly_takePendingRequest c
    · exact .refl c
  · exact .refl c

theorem readsOnly_receive (limits : WorkerLimits) (now : Instant) (c : Connection σ)
    (received : List UInt8) : ReadsOnly c (c.receive limits now received).1 := by
  have happend : ReadsOnly c
      { c with readBuffer := c.readBuffer ++ received, lastProgress := now } :=
    ⟨rfl, rfl, rfl, rfl, rfl, rfl, rfl, .inr rfl⟩
  unfold Connection.receive
  split_ifs
  · exact .refl c
  · dsimp only
    split_ifs
    · split
      · exact happend.trans (readsOnly_finishRequest _)
      · split
        · split
          · exact happend
          · split_ifs
            · exact happend
            · exact (happend.trans (readsOnly_setPendingRequest _ _)).trans
                (readsOnly_finishRequest _)
        · exact happend
        · exact happend
      · exact happend
    · exact happend.trans (readsOnly_finishRequest _)

/-- One read changes only the session. -/
theorem readOnce_session (tls : Rustls σ) (c : Connection σ) (socket : List IoRead) :
    (c.readOnce tls socket).2.1 = c
      ∨ ∃ ssl session, c.ssl = some ssl ∧ (c.readOnce tls socket).2.1 = c.setSession ssl session := by
  unfold Connection.readOnce
  split
  · exact .inl rfl
  · split
    next ssl bytes hssl =>
      split
      · exact .inl rfl
      · dsimp only
        split_ifs
        all_goals first
          | exact .inr ⟨ssl, _, hssl, rfl⟩
          | (split
             · exact .inl rfl
             · exact .inr ⟨ssl, _, hssl, rfl⟩)
    · exact .inl rfl

theorem readsOnly_readOnce (tls : Rustls σ) (c : Connection σ) (socket : List IoRead) :
    ReadsOnly c (c.readOnce tls socket).2.1 := by
  rcases readOnce_session tls c socket with heq | ⟨ssl, session, hssl, heq⟩
  · rw [heq]
    exact .refl c
  · rw [heq]
    exact ⟨rfl, rfl, rfl, rfl, rfl, by rw [hssl]; rfl, rfl, .inr rfl⟩

theorem readsOnly_readLoop (tls : Rustls σ) (limits : WorkerLimits) (now : Instant) :
    ∀ (reads : Nat) (c : Connection σ) (socket : List IoRead),
      ReadsOnly c (readLoop tls limits now reads c socket).connection := by
  intro reads
  induction reads with
  | zero => intro c socket; exact .refl c
  | succ reads ih =>
      intro c socket
      have hread := readsOnly_readOnce tls c socket
      unfold readLoop
      dsimp only
      split
      next c₁ socket₁ heq => rw [heq] at hread; exact hread
      next received c₁ socket₁ _ heq =>
        rw [heq] at hread
        have hreceive := hread.trans (readsOnly_receive limits now c₁ received)
        split
        next c₂ heq₂ =>
          rw [heq₂] at hreceive
          exact hreceive.trans (ih c₂ socket₁)
        next c₂ verdict _ heq₂ =>
          rw [heq₂] at hreceive
          exact hreceive
      next c₁ socket₁ heq => rw [heq] at hread; exact hread
      next c₁ socket₁ heq => rw [heq] at hread; exact hread.trans (ih c₁ socket₁)
      next c₁ socket₁ heq => rw [heq] at hread; exact hread

/-- Discarding touches only the time of the last progress. -/
theorem discardLoop_connection (now : Instant) :
    ∀ (reads : Nat) (c : Connection σ) (socket : List IoRead),
      ∃ time, (discardLoop now reads c socket).connection = { c with lastProgress := time } := by
  intro reads
  induction reads with
  | zero => intro c socket; exact ⟨c.lastProgress, rfl⟩
  | succ reads ih =>
      intro c socket
      cases socket with
      | nil => exact ⟨c.lastProgress, rfl⟩
      | cons next socket =>
          cases next with
          | wouldBlock => exact ⟨c.lastProgress, rfl⟩
          | failed => exact ⟨c.lastProgress, rfl⟩
          | interrupted =>
              obtain ⟨time, htime⟩ := ih c socket
              exact ⟨time, htime⟩
          | ok bytes =>
              cases bytes with
              | nil => exact ⟨c.lastProgress, rfl⟩
              | cons byte bytes =>
                  obtain ⟨time, htime⟩ := ih { c with lastProgress := now } socket
                  exact ⟨time, htime⟩

/-- Discarding sets the time of the last progress when bytes came. -/
theorem discardLoop_touch (tls : Rustls σ) (now : Instant) :
    ∀ (reads : Nat) (c : Connection σ) (socket : List IoRead), c.isHandlingRequest = true →
      (discardLoop now reads c socket).connection.lastProgress = c.lastProgress
        ∨ (discardLoop now reads c socket).connection.lastProgress = now
          ∧ c.receivesBytes tls reads socket = true := by
  intro reads
  induction reads with
  | zero => intro c socket hhandling; exact .inl rfl
  | succ reads ih =>
      intro c socket hhandling
      cases socket with
      | nil => exact .inl rfl
      | cons next socket =>
          cases next with
          | wouldBlock => exact .inl rfl
          | failed => exact .inl rfl
          | interrupted => exact ih c socket hhandling
          | ok bytes =>
              cases bytes with
              | nil => exact .inl rfl
              | cons byte bytes =>
                  have htakes : c.takesBytes tls (byte :: bytes) = true := by
                    unfold Connection.takesBytes
                    rw [hhandling]
                    rfl
                  rcases ih { c with lastProgress := now } socket hhandling with h | h
                  · exact .inr ⟨h, htakes⟩
                  · exact .inr ⟨h.1, htakes⟩

/-- A client is given up while its request is handled only when it has gone. -/
theorem discardLoop_closed (now : Instant) :
    ∀ (reads : Nat) (c : Connection σ) (socket : List IoRead),
      (discardLoop now reads c socket).closed = true →
      (discardLoop now reads c socket).lastRead = some (.ok [])
        ∨ (discardLoop now reads c socket).lastRead = some .failed := by
  intro reads
  induction reads with
  | zero =>
      intro c socket hclosed
      cases hclosed
  | succ reads ih =>
      intro c socket hclosed
      cases socket with
      | nil => cases hclosed
      | cons next socket =>
          have hafter : ∀ {c₁ : Connection σ} {answer : IoRead},
              (discardLoop now reads c₁ socket).closed = true →
              ((discardLoop now reads c₁ socket).after answer 0).lastRead = some (.ok [])
                ∨ ((discardLoop now reads c₁ socket).after answer 0).lastRead = some .failed := by
            intro c₁ answer hclosed₁
            unfold ReadPass.after
            rcases ih c₁ socket hclosed₁ with hlast | hlast <;> simp [hlast]
          cases next with
          | wouldBlock => cases hclosed
          | failed => exact .inr rfl
          | interrupted => exact hafter hclosed
          | ok bytes =>
              cases bytes with
              | nil => exact .inl rfl
              | cons byte bytes => exact hafter hclosed

/-! ## §2. The verdicts of a pass. -/

/-- Either no chunk was decided on, or only the last one was. -/
theorem readLoop_verdicts (tls : Rustls σ) (limits : WorkerLimits) (now : Instant) :
    ∀ (reads : Nat) (c : Connection σ) (socket : List IoRead),
      (∀ verdict ∈ (readLoop tls limits now reads c socket).verdicts, verdict = .keepWaiting)
      ∨ (readLoop tls limits now reads c socket).closed = false
        ∧ ∃ waits verdict, (readLoop tls limits now reads c socket).verdicts = waits ++ [verdict]
          ∧ (∀ wait ∈ waits, wait = .keepWaiting) ∧ verdict ≠ .keepWaiting := by
  intro reads
  induction reads with
  | zero =>
      intro c socket
      left
      intro verdict h
      cases h
  | succ reads ih =>
      intro c socket
      unfold readLoop
      dsimp only
      split
      · left
        intro verdict h
        cases h
      next received c₁ socket₁ _ heq =>
        split
        next c₂ heq₂ =>
          rcases ih c₂ socket₁ with hall | ⟨hclosed, waits, verdict, hverdicts, hwaits, hne⟩
          · left
            intro verdict h
            rcases List.mem_cons.mp h with h | h
            · exact h
            · exact hall verdict h
          · right
            refine ⟨hclosed, .keepWaiting :: waits, verdict, ?_, ?_, hne⟩
            · show .keepWaiting :: (readLoop tls limits now reads c₂ socket₁).verdicts = _
              rw [hverdicts, List.cons_append]
            · intro wait hwait
              rcases List.mem_cons.mp hwait with h | h
              · exact h
              · exact hwaits wait h
        next c₂ verdict hne heq₂ =>
          right
          refine ⟨rfl, [], verdict, rfl, ?_, hne⟩
          intro wait hwait
          cases hwait
      · left
        intro verdict h
        cases h
      next c₁ socket₁ heq => exact ih c₁ socket₁
      · left
        intro verdict h
        cases h

/-! ## §3. The recorded request. -/

/-- A request recorded for a buffer, within the range of `usize`. -/
structure Recorded (limits : WorkerLimits) (buffer : List UInt8) (pending : PendingRequest) :
    Prop where
  recorded : RecordedFor limits buffer pending
  fits : pending.bodyEnd < 2 ^ usizeBits

theorem Recorded.append {buffer : List UInt8} {pending : PendingRequest}
    (h : Recorded limits buffer pending) (later : List UInt8) :
    Recorded limits (buffer ++ later) pending :=
  ⟨h.recorded.append later, h.fits⟩

/-- What a reading connection has recorded, it still waits for. -/
def Connection.Awaits (limits : WorkerLimits) (c : Connection σ) : Prop :=
  ∀ pending, c.pendingRequest = some pending →
    Recorded limits c.readBuffer pending ∧ c.readBuffer.length < pending.bodyEnd

/-- The outcome of a chunk: a request that is not complete is awaited, and a
complete one was recorded for the buffer. -/
structure Received (limits : WorkerLimits) (c c' : Connection σ) (verdict : ReadVerdict) : Prop where
  waiting : verdict = .keepWaiting → c'.Awaits limits
  dispatched : ∀ head body, verdict = .dispatch head body →
    (∃ p, c.phase = .reading p) ∧ ∃ pending, Recorded limits c'.readBuffer pending

theorem finishRequest_received {c₁ : Connection σ}
    (hrecorded : ∀ pending, c₁.pendingRequest = some pending →
      Recorded limits c₁.readBuffer pending)
    (hphase : ∀ p, c₁.phase = .reading p → ∃ p, c.phase = .reading p) :
    Received limits c c₁.finishRequest.1 c₁.finishRequest.2 := by
  unfold Connection.finishRequest
  split
  next pending hpending =>
    have hphase₁ := Connection.pendingRequest_eq_some.mp hpending
    split_ifs with hcomplete
    · refine ⟨fun h => (by cases h), ?_⟩
      intro head body _
      refine ⟨hphase _ hphase₁, pending, ?_⟩
      have hbuffer : c₁.takePendingRequest.readBuffer = c₁.readBuffer := by
        unfold Connection.takePendingRequest
        rw [hphase₁]
      show Recorded limits c₁.takePendingRequest.readBuffer pending
      rw [hbuffer]
      exact hrecorded pending hpending
    · refine ⟨?_, fun _ _ h => (by cases h)⟩
      intro _ pending' hpending'
      rw [hpending] at hpending'
      injection hpending' with hpending'
      subst hpending'
      exact ⟨hrecorded pending hpending, Nat.lt_of_not_le hcomplete⟩
  next hpending =>
    refine ⟨?_, fun _ _ h => (by cases h)⟩
    intro _ pending hsome
    rw [hpending] at hsome
    cases hsome

/-- **One chunk.** -/
theorem receive_received (h : c.Awaits limits) (now : Instant) (received : List UInt8) :
    Received limits c (c.receive limits now received).1 (c.receive limits now received).2 := by
  have herror : ∀ (c' : Connection σ) (status : Nat) (message : Str),
      Received limits c c' (.error status message) := by
    intro c' status message
    exact ⟨fun h => (by cases h), fun _ _ h => (by cases h)⟩
  unfold Connection.receive
  split_ifs with hlarge
  · exact herror _ _ _
  · dsimp only
    split_ifs with hnone
    · split
      next hparse =>
        refine finishRequest_received ?_ (fun p hp => ⟨p, hp⟩)
        intro pending hpending
        rw [Option.isNone_iff_eq_none] at hnone
        rw [hnone] at hpending
        cases hpending
      next head consumed hparse =>
        split
        next bodyLength hbody =>
          split
          · exact herror _ _ _
          next bodyEnd hadd =>
            split_ifs with hlimit
            · exact herror _ _ _
            · unfold checkedAdd at hadd
              split_ifs at hadd with hfits
              injection hadd with hadd
              subst hadd
              have hreads := readsOnly_setPendingRequest
                { c with readBuffer := c.readBuffer ++ received, lastProgress := now }
                { head, bodyStart := consumed, bodyEnd := consumed + bodyLength }
              refine finishRequest_received ?_ ?_
              · intro pending hpending
                have hphase := Connection.pendingRequest_eq_some.mp hpending
                unfold Connection.setPendingRequest at hphase ⊢
                split at hphase
                · injection hphase with hphase
                  injection hphase with hphase
                  subst hphase
                  exact ⟨⟨hparse, Nat.le_of_not_lt hlimit, bodyLength, hbody, rfl⟩, hfits⟩
                next hother => exact absurd hphase (hother (some pending))
              · intro p hp
                rcases hreads.phase with ⟨q, q', hq, -⟩ | hsame
                · exact ⟨q, hq⟩
                · exact ⟨p, hsame.symm.trans hp⟩
        · exact herror _ _ _
        · exact herror _ _ _
      · exact herror _ _ _
    · refine finishRequest_received ?_ (fun p hp => ⟨p, hp⟩)
      intro pending hpending
      exact (h pending hpending).1.append received

/-- One read touches neither the buffer nor the recorded request. -/
theorem readOnce_buffer (tls : Rustls σ) (c : Connection σ) (socket : List IoRead) :
    (c.readOnce tls socket).2.1.readBuffer = c.readBuffer
      ∧ (c.readOnce tls socket).2.1.phase = c.phase := by
  rcases readOnce_session tls c socket with heq | ⟨ssl, session, -, heq⟩
  · rw [heq]
    exact ⟨rfl, rfl⟩
  · rw [heq]
    exact ⟨rfl, rfl⟩

/-- **The whole pass.** -/
theorem readLoop_received (tls : Rustls σ) (limits : WorkerLimits) (now : Instant) :
    ∀ (reads : Nat) (c : Connection σ) (socket : List IoRead), c.Awaits limits →
      ((∀ verdict ∈ (readLoop tls limits now reads c socket).verdicts, verdict = .keepWaiting) →
        (readLoop tls limits now reads c socket).connection.Awaits limits)
      ∧ ∀ head body, .dispatch head body ∈ (readLoop tls limits now reads c socket).verdicts →
          (∃ p, c.phase = .reading p) ∧ ∃ pending,
            Recorded limits (readLoop tls limits now reads c socket).connection.readBuffer
              pending := by
  intro reads
  induction reads with
  | zero =>
      intro c socket h
      refine ⟨fun _ => h, ?_⟩
      intro head body hmem
      cases hmem
  | succ reads ih =>
      intro c socket h
      obtain ⟨hbuffer, hphase⟩ := readOnce_buffer tls c socket
      have hawaits : (c.readOnce tls socket).2.1.Awaits limits := by
        unfold Connection.Awaits Connection.pendingRequest
        rw [hbuffer, hphase]
        exact h
      unfold readLoop
      dsimp only
      split
      next c₁ socket₁ heq =>
        rw [heq] at hawaits
        exact ⟨fun _ => hawaits, fun _ _ hmem => (by cases hmem)⟩
      next received c₁ socket₁ _ heq =>
        rw [heq] at hawaits hphase
        have hreceived := receive_received hawaits now received
        have hreads := readsOnly_receive limits now c₁ received
        split
        next c₂ heq₂ =>
          rw [heq₂] at hreceived hreads
          obtain ⟨hwait, hdispatch⟩ := ih c₂ socket₁ (hreceived.waiting rfl)
          refine ⟨?_, ?_⟩
          · intro hall
            exact hwait (fun verdict hmem => hall verdict (List.mem_cons_of_mem _ hmem))
          · intro head body hmem
            have hmem' : .dispatch head body ∈ (readLoop tls limits now reads c₂ socket₁).verdicts := by
              rcases List.mem_cons.mp hmem with hfirst | hrest
              · cases hfirst
              · exact hrest
            obtain ⟨⟨p, hp⟩, hrecorded⟩ := hdispatch head body hmem'
            refine ⟨?_, hrecorded⟩
            rcases hreads.phase with ⟨q, q', hq, -⟩ | hsame
            · exact ⟨q, hphase.symm.trans hq⟩
            · exact ⟨p, hphase.symm.trans (hsame.symm.trans hp)⟩
        next c₂ verdict hne heq₂ =>
          rw [heq₂] at hreceived
          refine ⟨?_, ?_⟩
          · intro hall
            exact absurd (hall verdict List.mem_cons_self) hne
          · intro head body hmem
            obtain ⟨⟨p, hp⟩, hrecorded⟩ :=
              hreceived.dispatched head body (List.mem_singleton.mp hmem).symm
            exact ⟨⟨p, hphase.symm.trans hp⟩, hrecorded⟩
      next c₁ socket₁ heq =>
        rw [heq] at hawaits
        exact ⟨fun _ => hawaits, fun _ _ hmem => (by cases hmem)⟩
      next c₁ socket₁ heq =>
        rw [heq] at hawaits hphase
        obtain ⟨hwait, hdispatch⟩ := ih c₁ socket₁ hawaits
        refine ⟨hwait, ?_⟩
        intro head body hmem
        obtain ⟨⟨p, hp⟩, hrecorded⟩ := hdispatch head body hmem
        exact ⟨⟨p, hphase.symm.trans hp⟩, hrecorded⟩
      next c₁ socket₁ heq =>
        rw [heq] at hawaits
        exact ⟨fun _ => hawaits, fun _ _ hmem => (by cases hmem)⟩

/-! ## §4. Bytes after the request. -/

/-- What the reads of a plaintext socket bring within a budget. -/
def arriving : Nat → List IoRead → Nat
  | 0, _ | _ + 1, [] => 0
  | reads + 1, next :: socket =>
      match next with
      | .ok [] | .wouldBlock | .failed => 0
      | .ok bytes => bytes.length + arriving reads socket
      | .interrupted => arriving reads socket

/-- Further bytes of an answered connection change nothing as long as they fit. -/
theorem receive_answered (now : Instant) (hphase : c.phase = .writingResponse)
    {pending : PendingRequest} (hrecorded : Recorded limits c.readBuffer pending)
    {received : List UInt8}
    (hfits : c.readBuffer.length + received.length ≤ limits.maxReadBufferSize) :
    c.receive limits now received
      = ({ c with readBuffer := c.readBuffer ++ received, lastProgress := now }, .keepWaiting) := by
  obtain ⟨⟨hparse, hlimit, n, hbody, hend⟩, husize⟩ := hrecorded.append received
  have hnone : ∀ c₁ : Connection σ, c₁.phase = .writingResponse → c₁.pendingRequest = none := by
    intro c₁ h₁
    unfold Connection.pendingRequest
    rw [h₁]
  have hadd : checkedAdd pending.bodyStart n = some pending.bodyEnd := by
    unfold checkedAdd
    rw [← hend, if_pos husize]
  unfold Connection.receive
  rw [if_neg (Nat.not_lt.mpr hfits)]
  dsimp only
  have hphase₁ : ({ c with readBuffer := c.readBuffer ++ received, lastProgress := now } :
    Connection σ).phase = .writingResponse := hphase
  generalize ({ c with readBuffer := c.readBuffer ++ received, lastProgress := now } :
    Connection σ) = c₁ at hphase₁ ⊢
  rw [hnone c₁ hphase₁]
  simp only [Option.isNone_none, if_true, hparse, hbody, hadd]
  rw [if_neg (Nat.not_lt.mpr hlimit)]
  -- a request is recorded only while reading
  have hset : ∀ p, c₁.setPendingRequest p = c₁ := by
    intro p
    unfold Connection.setPendingRequest
    simp only [hphase₁]
  rw [hset]
  unfold Connection.finishRequest
  rw [hnone c₁ hphase₁]

/-- … and so a whole pass decides nothing. -/
theorem readLoop_answered (tls : Rustls σ) (limits : WorkerLimits) (now : Instant)
    {pending : PendingRequest} :
    ∀ (reads : Nat) (c : Connection σ) (socket : List IoRead), c.ssl = none →
      c.phase = .writingResponse → Recorded limits c.readBuffer pending →
      c.readBuffer.length + arriving reads socket ≤ limits.maxReadBufferSize →
      (∀ verdict ∈ (readLoop tls limits now reads c socket).verdicts, verdict = .keepWaiting)
        ∧ Recorded limits (readLoop tls limits now reads c socket).connection.readBuffer
          pending := by
  intro reads
  induction reads with
  | zero =>
      intro c socket _ _ hrecorded _
      exact ⟨fun verdict h => (by cases h), hrecorded⟩
  | succ reads ih =>
      intro c socket hssl hphase hrecorded hfits
      have hdone : ∀ {closed : Bool} {socket : List IoRead} {answer : IoRead},
          (∀ verdict ∈ ({ connection := c, socket, verdicts := [], closed
                          lastRead := some answer, bytesRead := 0 } : ReadPass σ).verdicts,
            verdict = .keepWaiting)
            ∧ Recorded limits c.readBuffer pending :=
        ⟨fun verdict h => (by cases h), hrecorded⟩
      have hread : ∀ {next : IoRead} {rest : List IoRead},
          c.readOnce tls (next :: rest) = (next, c, rest) := by
        intro next rest
        unfold Connection.readOnce
        rw [hssl]
      cases socket with
      | nil =>
          unfold readLoop
          exact hdone
      | cons next socket =>
          unfold readLoop
          dsimp only
          rw [hread]
          cases next with
          | wouldBlock => exact hdone
          | failed => exact hdone
          | interrupted => exact ih c socket hssl hphase hrecorded hfits
          | ok bytes =>
              cases bytes with
              | nil => exact hdone
              | cons byte bytes =>
                  simp only [arriving] at hfits
                  dsimp only
                  rw [receive_answered now hphase hrecorded
                    (by simp only [List.length_cons] at hfits ⊢; omega)]
                  obtain ⟨hall, hlater⟩ := ih
                    { c with readBuffer := c.readBuffer ++ byte :: bytes, lastProgress := now }
                    socket hssl hphase (hrecorded.append _)
                    (by simp only [List.length_append, List.length_cons] at hfits ⊢; omega)
                  refine ⟨?_, hlater⟩
                  intro verdict hmem
                  rcases List.mem_cons.mp hmem with hfirst | hrest
                  · exact hfirst
                  · exact hall verdict hrest

/-- Requests are refused with the status of an error. -/
theorem receive_error_status {c' : Connection σ} {now : Instant} {received : List UInt8}
    {status : Nat} {message : Str} (h : c.receive limits now received = (c', .error status message)) :
    400 ≤ status := by
  have hfinish : ∀ c₁ : Connection σ, c₁.finishRequest = (c', .error status message) → False := by
    intro c₁ h₁
    unfold Connection.finishRequest at h₁
    split at h₁
    · split_ifs at h₁ <;> cases h₁
    · cases h₁
  unfold Connection.receive at h
  split_ifs at h
  · cases h
    decide
  · dsimp only at h
    split_ifs at h
    · split at h
      · exact (hfinish _ h).elim
      · split at h
        · split at h
          · cases h
            decide
          · split_ifs at h
            · cases h
              decide
            · exact (hfinish _ h).elim
        · cases h
          decide
        · cases h
          decide
      · cases h
        decide
    · exact (hfinish _ h).elim

theorem readLoop_error_status (tls : Rustls σ) (limits : WorkerLimits) (now : Instant)
    {status : Nat} {message : Str} :
    ∀ (reads : Nat) (c : Connection σ) (socket : List IoRead),
      .error status message ∈ (readLoop tls limits now reads c socket).verdicts →
      400 ≤ status := by
  intro reads
  induction reads with
  | zero =>
      intro c socket h
      cases h
  | succ reads ih =>
      intro c socket h
      unfold readLoop at h
      dsimp only at h
      split at h
      · cases h
      next received c₁ socket₁ _ heq =>
        split at h
        next c₂ heq₂ =>
          rcases List.mem_cons.mp h with hfirst | hrest
          · cases hfirst
          · exact ih c₂ socket₁ hrest
        next c₂ verdict _ heq₂ =>
          rw [← List.mem_singleton.mp h] at heq₂
          exact receive_error_status heq₂
      · cases h
      next c₁ socket₁ heq => exact ih c₁ socket₁ h
      · cases h

/-! ## §5. The pass of a ready event. -/

theorem connectionReady_eq (hhandling : c.isHandlingRequest = false) (socket : List IoRead) :
    connectionReady tls limits now c socket = readLoop tls limits now maxReadsPerEvent c socket := by
  unfold connectionReady
  rw [if_neg (by rw [hhandling]; simp)]

theorem connectionReady_readsOnly (tls : Rustls σ) (limits : WorkerLimits) (now : Instant)
    (hhandling : c.isHandlingRequest = false) (socket : List IoRead) :
    ReadsOnly c (connectionReady tls limits now c socket).connection := by
  rw [connectionReady_eq hhandling]
  exact readsOnly_readLoop tls limits now maxReadsPerEvent c socket

end Thwip.Readiness
