/-
  Thwip.Readiness.Turns — every handler call is a path of moves.

  `handleTurn_steps` is the one place where the handlers are taken apart; it
  needs to know what the worker checked before it made the call (`Starts`).
-/
import Thwip.Readiness.Moves
import Thwip.Readiness.Reads

namespace Thwip.Readiness

open Thwip.Lib
open Relation (ReflTransGen)

variable {σ : Type} {env : Env σ} {event : TurnEvent} {s₀ : Seat σ} {t t' : Turn σ}
  {c : Connection σ}

/-! ## §1. Paths. -/

/-- `t'` was reached from `t` by moves on the same id. -/
structure Steps (env : Env σ) (event : TurnEvent) (s₀ : Seat σ) (t t' : Turn σ) : Prop where
  path : ReflTransGen (Move env event s₀) t.toSeat t'.toSeat
  id : t'.id = t.id

/-- Nothing done is an empty path. -/
theorem Steps.refl (t : Turn σ) : Steps env event s₀ t t := ⟨.refl, rfl⟩

/-- Two parts of a handler make one path. -/
theorem Steps.trans {t₁ t₂ t₃ : Turn σ} (h : Steps env event s₀ t₁ t₂)
    (h' : Steps env event s₀ t₂ t₃) : Steps env event s₀ t₁ t₃ :=
  ⟨h.path.trans h'.path, h'.id.trans h.id⟩

/-- One move. -/
theorem Steps.move (h : Move env event s₀ t.toSeat t'.toSeat) (hid : t'.id = t.id) :
    Steps env event s₀ t t' :=
  ⟨.single h, hid⟩

/-- Nothing of the seat changed. -/
theorem Steps.same (h : t'.toSeat = t.toSeat) (hid : t'.id = t.id) : Steps env event s₀ t t' :=
  ⟨by rw [h], hid⟩

/-! ## §2. Removing, registering, queueing. -/

/-- `remove_connection` on a current connection drops it. -/
theorem removeConnection_current (h : t.Current c) (site : RemovalSite) :
    removeConnection env site t = t.drop env.tls.toRustls site c := by
  unfold removeConnection
  rw [h.connection]
  simp [h.isCurrent]

/-- A removal is a move, once its cause is known. -/
theorem removeConnection_steps (h : t.Current c) {site : RemovalSite}
    (hcause : Cause env event s₀ t.toSeat c site) :
    Steps env event s₀ t (removeConnection env site t) := by
  rw [removeConnection_current h]
  exact .move (.removed h.connection hcause) rfl

/-- A registration is noted, or refused by the poller with nothing changed. -/
theorem reregister_ok {interest : Interest} {ok : Bool}
    (h : t.reregister env interest = .ok (ok, t')) :
    t'.toSeat = (if ok then { t.toSeat with interest, log := t.log ++ [.reregistered interest] }
      else t.toSeat) ∧ t'.id = t.id := by
  unfold Turn.reregister at h
  split at h
  · cases h
  · split_ifs at h
    · cases h
      exact ⟨rfl, rfl⟩
    · cases h
      exact ⟨rfl, rfl⟩

/-- A registration, or the removal when it fails. -/
theorem reregisterClient_settles (h : t.Current c) {interest : Interest}
    (hrun : reregisterClient env interest t = .ok t') :
    ∃ ok, t'.toSeat = t.toSeat.settle env.tls.toRustls c interest [] ok ∧ t'.id = t.id := by
  unfold reregisterClient at hrun
  rw [h.connection] at hrun
  cases hreg : t.reregister env interest with
  | error e => simp [bind, Except.bind, hreg] at hrun
  | ok result =>
      obtain ⟨ok, t₁⟩ := result
      simp only [bind, Except.bind, hreg, pure, Except.pure] at hrun
      injection hrun with hrun
      obtain ⟨hseat, hid⟩ := reregister_ok hreg
      cases ok with
      -- the poller took it: the interest is the new one
      | true =>
          refine ⟨true, ?_, by rw [← hrun]; exact hid⟩
          rw [← hrun]
          simp only [if_true] at hseat ⊢
          rw [hseat]
          unfold Seat.settle
          simp [h.connection]
      -- it refused: the connection is removed with the interest it had
      | false =>
          simp only [Bool.false_eq_true, if_false] at hseat hrun
          have hcur : t₁.Current c := by
            refine ⟨?_, by rw [hid]; exact h.generation⟩
            show t₁.toSeat.connection = _
            rw [hseat]
            exact h.connection
          rw [removeConnection_current hcur] at hrun
          refine ⟨false, ?_, by rw [← hrun]; exact hid⟩
          rw [← hrun]
          show Seat.drop env.tls.toRustls .reregisterFailed c t₁.toSeat = _
          rw [hseat]
          simp [Seat.settle, Seat.note]

/-- Queueing a response is a change that ends in a registration. -/
theorem queueResponse_eq (h : t.Current c) (response : List UInt8) :
    queueResponse env response t
      = reregisterClient env .write
          ((t.put (c.setResponse (boundedResponse env.limits response))).note
            [.queued (boundedResponse env.limits response)]) := by
  unfold queueResponse
  rw [h.connection]
  simp only [h.isCurrent, Bool.not_true, Bool.false_eq_true, if_false]
  rfl

/-- Changes before a settled change are part of it. -/
theorem settle_after (s : Seat σ) (tls : Rustls σ) (c₁ c₂ : Connection σ) (interest : Interest)
    (acts₁ acts₂ : List Act) (ok : Bool) :
    ((s.put c₁).note acts₁).settle tls c₂ interest acts₂ ok
      = s.settle tls c₂ interest (acts₁ ++ acts₂) ok := by
  cases ok <;> simp [Seat.settle, Seat.put, Seat.note, Seat.drop]

/-- A connection that was put before it leaves nothing behind. -/
theorem settle_put (s : Seat σ) (tls : Rustls σ) (c₁ c₂ : Connection σ) (interest : Interest)
    (acts : List Act) (ok : Bool) :
    (s.put c₁).settle tls c₂ interest acts ok = s.settle tls c₂ interest acts ok := by
  cases ok <;> simp [Seat.settle, Seat.put, Seat.note, Seat.drop]

/-- The acts before a registration may be counted with it. -/
theorem settle_nil (s : Seat σ) (tls : Rustls σ) (c : Connection σ) (interest : Interest)
    (acts : List Act) (ok : Bool) :
    ((s.put c).note acts).settle tls c interest [] ok = s.settle tls c interest acts ok := by
  rw [settle_after, List.append_nil]

/-- A queued response is one settled change: it is set, noted and registered for. -/
theorem queueResponse_settles (h : t.Current c) {response : List UInt8}
    (hrun : queueResponse env response t = .ok t') :
    ∃ ok, t'.toSeat = t.toSeat.settle env.tls.toRustls
        (c.setResponse (boundedResponse env.limits response)) .write
        [.queued (boundedResponse env.limits response)] ok ∧ t'.id = t.id := by
  rw [queueResponse_eq h] at hrun
  have hcur : ((t.put (c.setResponse (boundedResponse env.limits response))).note
      [.queued (boundedResponse env.limits response)]).Current
        (c.setResponse (boundedResponse env.limits response)) := ⟨rfl, h.generation⟩
  obtain ⟨ok, hseat, hid⟩ := reregisterClient_settles hcur hrun
  exact ⟨ok, hseat.trans (settle_nil _ _ _ _ _ _), hid⟩

/-- A registration whose failure stops the worker. -/
theorem mustReregister_settles {interest : Interest} {acts : List Act}
    (hrun : ((t.put c).note acts).mustReregister env interest = .ok t') :
    t'.toSeat = t.toSeat.settle env.tls.toRustls c interest acts true ∧ t'.id = t.id := by
  unfold Turn.mustReregister at hrun
  cases hreg : ((t.put c).note acts).reregister env interest with
  | error e => simp [bind, Except.bind, hreg] at hrun
  | ok result =>
      obtain ⟨ok, t₁⟩ := result
      simp only [bind, Except.bind, hreg, pure, Except.pure] at hrun
      obtain ⟨hseat, hid⟩ := reregister_ok hreg
      split_ifs at hrun with hok
      injection hrun with hrun
      subst hrun
      rw [if_pos hok] at hseat
      refine ⟨?_, hid⟩
      rw [hseat]
      simp [Seat.settle, Turn.put, Turn.note]

/-! ## §3. Files. -/

/-- The next message of a file.  The caller has written everything before it, as the end
of a write, or as the pump that found the connection so. -/
theorem advanceStaticStream_steps (h : t.Current c)
    (hoffset : c.writeOffset = c.writeBuffer.length)
    (hevent : c.sslWantsWrite env.tls.toRustls = false
      ∨ event = .pump ∧ s₀.connection = some c ∧ t.log = s₀.log)
    (hserved : ∃ c₀, s₀.connection = some c₀ ∧ c₀.staticStream = c.staticStream)
    (hrun : advanceStaticStream env t = .ok t') : Steps env event s₀ t t' := by
  unfold advanceStaticStream at hrun
  rw [h.connection] at hrun
  simp only [h.isCurrent, Bool.not_true, Bool.false_eq_true, if_false] at hrun
  split at hrun
  · cases hrun
  next stream hstream =>
    rw [hstream] at hserved
    split at hrun
    -- a chunk: it becomes the write buffer
    next bytes rest hnext =>
      obtain ⟨hseat, hid⟩ := mustReregister_settles hrun
      exact .move (hseat ▸ .chunk h.connection hstream hnext hoffset hserved) hid
    -- nothing yet: the connection waits for the pump
    next rest hnext =>
      rw [StaticStream.tryNext_pending hnext, ← hstream] at hrun
      have hnote : (t.put c).note [] = t.put c := by simp [Turn.note]
      rw [← hnote] at hrun
      obtain ⟨hseat, hid⟩ := mustReregister_settles hrun
      exact .move (hseat ▸ .awaiting h.connection hstream hoffset) hid
    next rest hnext =>
      injection hrun with hrun
      have hcur : t.countResponse.Current c := ⟨h.connection, h.generation⟩
      rw [← hrun]
      -- the end of the file is counted first, and the removal comes from there
      have hcounted : c.sslWantsWrite env.tls.toRustls = false
          ∨ event = .pump ∧ s₀.connection = some c
            ∧ t.countResponse.log = s₀.log ++ [.response] := by
        refine hevent.imp_right (fun hpump => ⟨hpump.1, hpump.2.1, ?_⟩)
        show t.log ++ [Act.response] = _
        rw [hpump.2.2]
      exact (Steps.move (.counted h.connection) rfl : Steps env event s₀ t t.countResponse).trans
        (removeConnection_steps hcur (.streamFinished stream hstream ⟨rest, hnext⟩ hoffset hcounted
          hserved))
    next rest hnext =>
      injection hrun with hrun
      -- the file broke off: its error is counted
      have hcur : t.countError.Current c := ⟨h.connection, h.generation⟩
      rw [← hrun]
      exact (Steps.same rfl rfl : Steps env event s₀ t t.countError).trans
        (removeConnection_steps hcur (.streamFailed stream hstream ⟨rest, hnext⟩ hoffset hevent
          hserved))

/-! ## §4. The write loop. -/

/-- Putting back what is there, and noting nothing. -/
theorem Seat.put_note_nil {s : Seat σ} (hc : s.connection = some c) :
    (s.put c).note [] = s := by
  cases s
  simp_all [Seat.put, Seat.note]

/-- The session only, or the offset too. -/
structure WritesOnly (c c' : Connection σ) : Prop where
  generation : c'.generation = c.generation
  phase : c'.phase = c.phase
  staticStream : c'.staticStream = c.staticStream

/-- The loop is a path of accepted writes. -/
theorem writeLoop_path (env : Env σ) (event : TurnEvent) (s₀ : Seat σ) :
    ∀ (writes : Nat) (c : Connection σ) (socket : List IoWrite) (s : Seat σ),
      s.connection = some c → s.polled.writable = true ∨ s.writeScheduled = true →
      WritesOnly c (writeLoop env.tls env.now writes c socket).connection
        ∧ ReflTransGen (Move env event s₀) s
            ((s.put (writeLoop env.tls env.now writes c socket).connection).note
              ((writeLoop env.tls env.now writes c socket).acts.map Act.write)) := by
  intro writes
  -- the loop stops: what it would put back is what is there
  have hstop : ∀ (c : Connection σ) (s : Seat σ), s.connection = some c →
      WritesOnly c c ∧ ReflTransGen (Move env event s₀) s ((s.put c).note []) := by
    intro c s hc
    rw [Seat.put_note_nil hc]
    exact ⟨⟨rfl, rfl, rfl⟩, .refl⟩
  -- a call of the session failed, and left it in another state
  have hspoil : ∀ (c : Connection σ) (s : Seat σ), s.connection = some c →
      ∀ {ssl : SslSession σ}, c.ssl = some ssl → ∀ session : σ,
      c.writeFinished env.tls.toRustls = false → WritesOnly c (c.setSession ssl session)
        ∧ ReflTransGen (Move env event s₀) s ((s.put (c.setSession ssl session)).note []) := by
    intro c s hc ssl hssl session hunfinished
    have hseat : (s.put (c.setSession ssl session)).note [] = s.put (c.setSession ssl session) := by
      simp [Seat.note]
    rw [hseat]
    exact ⟨⟨rfl, rfl, rfl⟩, .single (.spoiled hc hssl session hunfinished)⟩
  -- one accepted write, then the rest of the loop
  have hcons : ∀ {c c₁ : Connection σ} {s : Seat σ} {act : WriteAct} {pass : WritePass σ} (n : Nat),
      Move env event s₀ s ((s.put c₁).note [.write act]) → WritesOnly c c₁ →
      (WritesOnly c₁ pass.connection ∧ ReflTransGen (Move env event s₀)
        ((s.put c₁).note [.write act])
        ((((s.put c₁).note [.write act]).put pass.connection).note (pass.acts.map Act.write))) →
      WritesOnly c (pass.after act n).connection ∧ ReflTransGen (Move env event s₀) s
        ((s.put (pass.after act n).connection).note ((pass.after act n).acts.map Act.write)) := by
    intro c c₁ s act pass n hmove hwrites ⟨hrest, hpath⟩
    refine ⟨⟨hrest.generation.trans hwrites.generation, hrest.phase.trans hwrites.phase,
      hrest.staticStream.trans hwrites.staticStream⟩, ?_⟩
    have hseat : (((s.put c₁).note [.write act]).put pass.connection).note
          (pass.acts.map Act.write)
        = (s.put (pass.after act n).connection).note
            ((pass.after act n).acts.map Act.write) := by
      simp [Seat.put, Seat.note, WritePass.after]
    rw [← hseat]
    exact .head hmove hpath
  induction writes with
  | zero =>
      intro c socket s hc hmay
      exact hstop c s hc
  | succ writes ih =>
      intro c socket s hc hmay
      unfold writeLoop
      split
      · exact hstop c s hc
      next hfinished =>
        have hunfinished : c.writeFinished env.tls.toRustls = false := by simpa using hfinished
        split
        next ssl hssl =>
          split
          next hlt =>
            split
            · exact hstop c s hc
            next session hwrite =>
              exact hspoil c s hc hssl session hunfinished
            -- the session took plaintext
            next written session hne hwrite =>
              exact hcons _ (.handed hc hssl hlt hwrite) ⟨rfl, rfl, rfl⟩
                (ih _ _ ((s.put _).note [.write _]) rfl hmay)
          next hlt =>
            split
            · exact hstop c s hc
            · exact hstop c s hc
            · exact ih c _ s hc hmay
            · exact hstop c s hc
            next room socket =>
              split
              next session hwrite =>
                exact hspoil c s hc hssl session hunfinished
              -- the socket took ciphertext
              next bytes session hne hwrite =>
                exact hcons _ (.sentTls hc hssl hlt bytes session hunfinished) ⟨rfl, rfl, rfl⟩
                  (ih _ _ ((s.put _).note [.write _]) rfl hmay)
        next hssl =>
          -- without a session the buffer goes to the socket as it is
          have hunsent : c.writeOffset ≠ c.writeBuffer.length := by
            intro heq
            apply hfinished
            simp [Connection.writeFinished, Connection.sslWantsWrite, hssl, heq]
          split
          · exact hstop c s hc
          · exact hstop c s hc
          · exact ih c _ s hc hmay
          · exact hstop c s hc
          · exact hstop c s hc
          next room socket hroom =>
            exact hcons _
              (.wrote hc hmay hssl hunsent room (Nat.pos_of_ne_zero (fun h => hroom h)))
              ⟨rfl, rfl, rfl⟩ (ih _ _ ((s.put _).note [.write _]) rfl hmay)

/-- The loop is refused only by the session's writer, at one of its calls. -/
theorem writeLoop_refused (tls : SocketTls σ) (now : Instant) :
    ∀ (writes : Nat) (c : Connection σ) (socket : List IoWrite),
      (writeLoop tls now writes c socket).ending = .refused →
      ∃ ssl, c.ssl = some ssl
        ∧ writerTakes tls.toRustls writes ssl.connection c.unsent = false := by
  intro writes
  induction writes with
  | zero =>
      intro c socket h
      cases h
  | succ writes ih =>
      intro c socket h
      unfold writeLoop at h
      split at h
      · cases h
      · split at h
        next ssl hssl =>
          refine ⟨ssl, hssl, ?_⟩
          split at h
          next hlt =>
            have hne : c.unsent.isEmpty = false := by
              rw [List.isEmpty_eq_false_iff]
              intro hnil
              have := congrArg List.length hnil
              simp [Connection.unsent] at this
              omega
            split at h
            next hwrite =>
              unfold writerTakes
              rw [if_neg (by rw [hne]; simp), hwrite]
            next session hwrite =>
              unfold writerTakes
              rw [if_neg (by rw [hne]; simp), hwrite]
              rfl
            next written session hpos hwrite =>
              -- the next call is offered what this one left
              obtain ⟨ssl', hssl', hrest⟩ := ih _ _ h
              cases hssl'
              unfold writerTakes
              rw [if_neg (by rw [hne]; simp), hwrite]
              split
              next heq => cases heq
              next heq => cases heq; exact absurd rfl hpos
              next heq =>
                cases heq
                rw [← hrest]
                simp [Connection.unsent, Connection.advance, Connection.setSession,
                  List.drop_drop]
          next hlt =>
            -- nothing is left for the writer, so no later call of it can refuse
            exfalso
            have hnil : c.unsent = [] := by
              unfold Connection.unsent
              exact List.drop_eq_nil_of_le (Nat.le_of_not_lt hlt)
            have hdone : ∀ (ssl : SslSession σ),
                writerTakes tls.toRustls writes ssl.connection [] = false → False := by
              intro ssl hfalse
              cases writes <;> simp [writerTakes] at hfalse
            split at h
            · cases h
            · cases h
            · obtain ⟨ssl', -, hfalse⟩ := ih _ _ h
              rw [hnil] at hfalse
              exact hdone ssl' hfalse
            · cases h
            · split at h
              · cases h
              · obtain ⟨ssl', -, hfalse⟩ := ih _ _ h
                have hnil' : ∀ session, ((c.setSession ssl session).advance now 0).unsent = [] := by
                  intro session
                  exact hnil
                rw [hnil'] at hfalse
                exact hdone ssl' hfalse
        next hssl =>
          exfalso
          -- without a session there is no writer that could refuse
          have hplain : ∀ {c' : Connection σ} {socket' : List IoWrite}, c'.ssl = none →
              (writeLoop tls now writes c' socket').ending = .refused → False := by
            intro c' socket' hnone h'
            obtain ⟨ssl, hsome, -⟩ := ih _ _ h'
            rw [hnone] at hsome
            cases hsome
          split at h
          · cases h
          · cases h
          · exact hplain hssl h
          · cases h
          · cases h
          next room socket _ =>
            exact hplain (show (c.advance now (c.unsent.take room).length).ssl = none from hssl) h

/-! ## §5. Writing to the client. -/

/-- What ends a written response, or a relayed one. -/
theorem closeClient_steps (h : t.Current c) {site : RemovalSite}
    (hfinished : c.writeFinished env.tls.toRustls = true) (hstatic : c.staticStream = none)
    (hphase : c.isWritingResponse || c.isProxying)
    (hcause : c.ssl = none ∨ c.sslClosing = true → Cause env event s₀ t.toSeat c site)
    (hrun : closeClient env site t = .ok t') :
    Steps env event s₀ t t' := by
  unfold closeClient at hrun
  rw [h.connection] at hrun
  simp only [h.isCurrent, Bool.not_true, Bool.false_eq_true, if_false] at hrun
  split at hrun
  -- a plaintext client is closed at once
  next hssl =>
    injection hrun with hrun
    exact hrun ▸ removeConnection_steps h (hcause (.inl hssl))
  next ssl hssl =>
    split_ifs at hrun with hclosing
    · -- the session was told before
      injection hrun with hrun
      exact hrun ▸ removeConnection_steps h (hcause (.inr hclosing))
    · -- it is told now, and the connection waits until that is written
      have hcur : ((t.put { c.setSession ssl (env.tls.sendCloseNotify ssl.connection) with
          sslClosing := true }).note [.closeNotify]).Current
            { c.setSession ssl (env.tls.sendCloseNotify ssl.connection) with
              sslClosing := true } := ⟨rfl, h.generation⟩
      obtain ⟨ok, hseat, hid⟩ := reregisterClient_settles hcur hrun
      have hmove := (Move.closing h.connection hssl hfinished hstatic hphase ok :
        Move env event s₀ t.toSeat _)
      exact .move (hseat.trans (settle_nil _ _ _ _ _ _) ▸ hmove) hid

/-- Everything was written: a file goes on, a response is counted and closed, and an
exchange waits for the rest of its response. -/
theorem finishWrite_steps (h : t.Current c) (hfinished : c.writeFinished env.tls.toRustls = true)
    (hphase : c.isWritingResponse || c.isProxying)
    (hserved : ∃ c₀, s₀.connection = some c₀ ∧ c₀.staticStream = c.staticStream)
    (hrun : finishWrite env c t = .ok t') : Steps env event s₀ t t' := by
  have hfacts := hfinished
  simp only [Connection.writeFinished, Bool.and_eq_true, beq_iff_eq, Bool.not_eq_true'] at hfacts
  unfold finishWrite at hrun
  split at hrun
  · exact advanceStaticStream_steps h hfacts.1 (.inl hfacts.2) hserved hrun
  next hstatic =>
    have hnone : c.staticStream = none := by simpa using hstatic
    -- no file: the response is counted, whatever comes then
    have hcount : Steps env event s₀ t t.countResponse := .move (.counted h.connection) rfl
    have hcur : t.countResponse.Current c := ⟨h.connection, h.generation⟩
    dsimp only at hrun
    split at hrun
    next hproxy =>
      -- a response of its own
      have hwriting : c.isWritingResponse = true := by
        rcases Bool.or_eq_true_iff.mp hphase with hwriting | hproxying
        · exact hwriting
        · obtain ⟨p, hp⟩ := Connection.isProxying_iff.mp hproxying
          rw [Connection.proxy_eq_some.mpr hp] at hproxy
          cases hproxy
      exact hcount.trans (closeClient_steps hcur hfinished hnone hphase
        (fun hclosing => .delivered hfinished hnone (.inl hwriting) hclosing) hrun)
    next proxy hproxy =>
      -- a relayed response: the worker drains, the upstream has ended, or it may go on
      have hproxying : c.isProxying = true :=
        Connection.isProxying_iff.mpr ⟨proxy, Connection.proxy_eq_some.mp hproxy⟩
      split_ifs at hrun with hdraining heof
      · exact hcount.trans (closeClient_steps hcur hfinished hnone hphase
          (fun hclosing => .draining hfinished hnone hproxying hdraining hclosing) hrun)
      · exact hcount.trans (closeClient_steps hcur hfinished hnone hphase
          (fun hclosing => .delivered hfinished hnone (.inr ⟨proxy, hproxy, heof⟩) hclosing) hrun)
      · cases hreg : reregisterClient env .read
            (t.countResponse.put { c with writeBuffer := [], writeOffset := 0 }) with
        | error e => simp [bind, Except.bind, hreg] at hrun
        | ok t₁ =>
            simp only [bind, Except.bind, hreg, pure, Except.pure] at hrun
            injection hrun with hrun
            have hcur₁ : (t.countResponse.put { c with writeBuffer := [], writeOffset := 0 }).Current
                { c with writeBuffer := [], writeOffset := 0 } := ⟨rfl, h.generation⟩
            obtain ⟨ok, hseat, hid⟩ := reregisterClient_settles hcur₁ hreg
            -- emptying the buffer and asking for the client's bytes is one move
            have hmove : Move env event s₀ t.countResponse.toSeat t₁.toSeat := by
              have hfold := settle_put t.countResponse.toSeat env.tls.toRustls
                { c with writeBuffer := [], writeOffset := 0 }
                { c with writeBuffer := [], writeOffset := 0 } .read [] ok
              rw [hseat]
              exact hfold ▸ .emptied hcur.connection hproxy hfinished ok
            have hflag : Steps env event s₀ t₁ t' := by
              rw [← hrun]
              exact .move (.rescheduled _ true) rfl
            exact (hcount.trans (.move hmove hid)).trans hflag

/-- A drained id is taken out of the set before the handler runs. -/
def Turn.drain (t : Turn σ) (due : Bool) : Turn σ :=
  { t with writeScheduled := t.writeScheduled && !due }

/-- **The client is writable**: its session or its buffer is written, and what is done then. -/
theorem writeReady_steps (h : t.Current c) {due : Bool} (hevent : event = .writeReady due)
    (hfound : s₀.connection = some c)
    (hmay : t.polled.writable = true ∨ t.writeScheduled = true)
    (hrun : writeReady env (t.drain due) = .ok t') : Steps env event s₀ t t' := by
  have hcur : (t.drain due).Current c := ⟨h.connection, h.generation⟩
  have hdrain : Steps env event s₀ t (t.drain due) := .move (.drained h.connection due) rfl
  unfold writeReady at hrun
  rw [hcur.connection] at hrun
  simp only [hcur.isCurrent, Bool.not_true, Bool.false_eq_true, if_false] at hrun
  split at hrun
  -- a session that has sent everything asks for nothing but its client's bytes
  next hdone =>
    rw [Bool.and_eq_true] at hdone
    obtain ⟨ok, hseat, hid⟩ := reregisterClient_settles hcur hrun
    exact hdrain.trans (.move (hseat ▸ .idled hcur.connection hdone.2 (.inl hdone.1) ok) hid)
  · obtain ⟨hwrites, hpath⟩ := writeLoop_path env event s₀ maxWritesPerEvent c env.writes t.toSeat
      h.connection hmay
    have hrefused := writeLoop_refused env.tls env.now maxWritesPerEvent c env.writes
    generalize writeLoop env.tls env.now maxWritesPerEvent c env.writes = pass
      at hrun hwrites hpath hrefused
    generalize ht₁ : (((t.drain due).wroteBytes pass.bytesWritten).put pass.connection).note
      (pass.acts.map Act.write) = t₁ at hrun
    have hcur₁ : t₁.Current pass.connection := by
      rw [← ht₁]
      exact ⟨rfl, hwrites.generation.trans h.generation⟩
    -- the writes come first, then the id leaves the set
    have hwritten : Steps env event s₀ t t₁ := by
      rw [← ht₁]
      exact ⟨hpath.trans (.single (.drained rfl due)), rfl⟩
    split at hrun
    · injection hrun with hrun
      exact hrun ▸ hwritten
    · injection hrun with hrun
      exact hrun ▸ hwritten.trans (removeConnection_steps hcur₁ (.writeFailed due hevent))
    next hending =>
      injection hrun with hrun
      obtain ⟨ssl, hssl, htakes⟩ := hrefused hending
      exact hrun ▸ hwritten.trans (removeConnection_steps hcur₁
        (.writerRefused c ssl due hevent hfound hssl hwrites.phase htakes))
    · split_ifs at hrun with hfinished hphase hwriting
      · -- all is written, and there is a response or an exchange to go on with
        have hflushed : Steps env event s₀ t₁ (t₁.note [.flushed]) :=
          .move (.flushed hcur₁.connection hfinished) rfl
        have hcur₂ : (t₁.note [.flushed]).Current pass.connection :=
          ⟨hcur₁.connection, hcur₁.generation⟩
        exact (hwritten.trans hflushed).trans (finishWrite_steps hcur₂ hfinished hphase
          ⟨c, hfound, hwrites.staticStream.symm⟩ hrun)
      · have hflushed : Steps env event s₀ t₁ (t₁.note [.flushed]) :=
          .move (.flushed hcur₁.connection hfinished) rfl
        have hcur₂ : (t₁.note [.flushed]).Current pass.connection :=
          ⟨hcur₁.connection, hcur₁.generation⟩
        obtain ⟨ok, hseat, hid⟩ := reregisterClient_settles hcur₂ hrun
        have hother : pass.connection.isWritingResponse = false
            ∧ pass.connection.isProxying = false := by
          simpa using hphase
        exact (hwritten.trans hflushed).trans
          (.move (hseat ▸ .idled hcur₂.connection hfinished (.inr hother) ok) hid)
      · -- the flag ends up set, so the id need not leave the set before
        injection hrun with hrun
        refine ⟨?_, by rw [← hrun, ← ht₁]; rfl⟩
        have hlast := (Move.scheduled rfl hwriting hmay (by simpa using hfinished) :
          Move env event s₀ ((t.toSeat.put pass.connection).note (pass.acts.map Act.write)) _)
        rw [← hrun, ← ht₁]
        exact hpath.trans (.single hlast)
      · injection hrun with hrun
        exact hrun ▸ hwritten

/-! ## §6. The upstream exchange. -/

/-- A prefix of what comes after a prefix. -/
theorem append_prefix_of_drop {α : Type} {whole first rest : List α} (h : first <+: whole)
    (h' : rest <+: whole.drop first.length) : first ++ rest <+: whole := by
  obtain ⟨later, rfl⟩ := h
  rw [List.drop_left] at h'
  exact (List.prefix_append_right_inj first).mpr h'

/-- What the forwarding loop does to the exchange. -/
structure ForwardSpec (proxy : ProxyState) (pass : ForwardPass) : Prop where
  buffer : pass.proxy.requestBuffer = proxy.requestBuffer
  offset : pass.proxy.requestOffset = proxy.requestOffset + pass.forwarded.flatten.length
  accepted : pass.forwarded.flatten <+: proxy.unforwarded
  phase : pass.proxy.phase = proxy.phase
  started : pass.proxy.responseStarted = proxy.responseStarted
  eof : pass.proxy.upstreamEof = proxy.upstreamEof
  finished : pass.ending = .finished ↔ pass.proxy.requestOffset = proxy.requestBuffer.length

/-- The loop takes a prefix of what is left of the request, and says when that was all. -/
theorem forwardLoop_spec (now : Instant) :
    ∀ (writes : Nat) (proxy : ProxyState) (socket : List IoWrite),
      ForwardSpec proxy (forwardLoop now writes proxy socket) := by
  intro writes
  induction writes with
  | zero =>
      intro proxy socket
      refine ⟨rfl, rfl, List.nil_prefix, rfl, rfl, rfl, ?_⟩
      unfold forwardLoop
      dsimp only
      split_ifs with hdone <;> simp [hdone]
  | succ writes ih =>
      intro proxy socket
      unfold forwardLoop
      split
      next hdone => exact ⟨rfl, rfl, List.nil_prefix, rfl, rfl, rfl, by simp [hdone]⟩
      next hdone =>
        split
        · exact ⟨rfl, rfl, List.nil_prefix, rfl, rfl, rfl, by simp [hdone]⟩
        · exact ⟨rfl, rfl, List.nil_prefix, rfl, rfl, rfl, by simp [hdone]⟩
        · exact ih proxy _
        · exact ⟨rfl, rfl, List.nil_prefix, rfl, rfl, rfl, by simp [hdone]⟩
        · exact ⟨rfl, rfl, List.nil_prefix, rfl, rfl, rfl, by simp [hdone]⟩
        -- the socket took some of it, and the loop goes on with the rest
        next room socket _ =>
          dsimp only
          generalize hbytes : proxy.unforwarded.take room = bytes
          have h := ih ({ proxy with requestOffset := proxy.requestOffset + bytes.length
            }.recordProgress now) socket
          generalize forwardLoop now writes _ socket = pass at h
          refine ⟨h.buffer, ?_, ?_, h.phase, h.started, h.eof, h.finished⟩
          · rw [h.offset]
            simp [ProxyState.recordProgress, Nat.add_assoc]
          · rw [List.flatten_cons]
            refine append_prefix_of_drop (hbytes ▸ List.take_prefix _ _) ?_
            have hdrop : proxy.unforwarded.drop bytes.length
                = proxy.requestBuffer.drop (proxy.requestOffset + bytes.length) := by
              unfold ProxyState.unforwarded
              rw [List.drop_drop]
            rw [hdrop]
            exact h.accepted

/-- An exchange fails: with a page while nothing was relayed, with a removal after. -/
theorem failProxy_steps (h : t.Current c) {status : Nat} {message : Str}
    (herror : (status, message) ∈ upstreamErrors) {proxy : ProxyState} (hproxy : c.proxy = some proxy)
    (hfailure : UpstreamFailure event s₀ t.log c proxy)
    (hrun : failProxy env status message t = .ok t') :
    Steps env event s₀ t t' := by
  unfold failProxy at hrun
  rw [h.connection] at hrun
  simp only [h.isCurrent, Bool.not_true, Bool.false_eq_true, if_false] at hrun
  rw [hproxy] at hrun
  dsimp only at hrun
  have hphase := Connection.proxy_eq_some.mp hproxy
  -- the exchange is detached, which leaves the phase of a response
  have hdetach : c.detachProxy = c.beginResponse := by
    unfold Connection.detachProxy
    rw [hphase]
    rfl
  -- its id leaves the pending sets
  generalize ht₁ : ({ t with upstreamReadScheduled := false, upstreamWriteScheduled := false } :
    Turn σ) = t₁
  have hflags : Steps env event s₀ t t₁ := by
    rw [← ht₁]
    exact .move (.rescheduled false false) rfl
  have hcur : t₁.Current c := by
    rw [← ht₁]
    exact ⟨h.connection, h.generation⟩
  have hlog : t₁.log = t.log := by rw [← ht₁]
  have hput : ({ t.put c.detachProxy with
      upstreamReadScheduled := false, upstreamWriteScheduled := false } : Turn σ)
        = t₁.put c.beginResponse := by
    rw [← ht₁, hdetach]
    rfl
  rw [hput] at hrun
  have hcur₁ : (t₁.put c.beginResponse).Current c.beginResponse := hcur.put rfl
  refine hflags.trans ?_
  split_ifs at hrun with hsend
  · -- nothing was relayed and nothing waits: the page is queued
    rw [Bool.and_eq_true, Bool.not_eq_true', List.isEmpty_iff] at hsend
    obtain ⟨ok, hseat, hid⟩ := queueResponse_settles hcur₁ hrun
    refine .move ?_ hid
    rw [hseat]
    have hfold := settle_put t₁.toSeat env.tls.toRustls c.beginResponse
      (c.setResponse (boundedResponse env.limits (responseBytes status message))) .write
      [.queued (boundedResponse env.limits (responseBytes status message))] ok
    exact hfold ▸ .failed hcur.connection (.inr ⟨proxy, hproxy, hsend⟩) status message herror ok
  · injection hrun with hrun
    -- the client has begun to receive the response, so the connection is cut
    have hstarted : proxy.responseStarted = true ∨ c.writeBuffer ≠ [] := by
      by_contra hnone
      rw [not_or, not_not, Bool.not_eq_true] at hnone
      simp [hnone.1, hnone.2] at hsend
    rw [removeConnection_current hcur₁] at hrun
    rw [← hrun]
    exact .move (.removed hcur.connection
      (.proxyFailed proxy hproxy hstarted (hlog ▸ hfailure))) rfl

/-- A lookup fails: the request is answered with a page. -/
theorem failResolution_steps (h : t.Current c) {status : Nat} {message : Str}
    (herror : (status, message) ∈ upstreamErrors)
    (hrun : failResolution env status message t = .ok t') : Steps env event s₀ t t' := by
  unfold failResolution at hrun
  rw [h.connection] at hrun
  simp only [h.isCurrent, Bool.not_true, Bool.false_or] at hrun
  split_ifs at hrun with hresolving
  · injection hrun with hrun
    exact hrun ▸ .refl t
  · obtain ⟨ok, hseat, hid⟩ := queueResponse_settles h hrun
    have hmay : c.mayFail := .inl (by simpa using hresolving)
    exact .move (hseat ▸ .failed h.connection hmay status message herror ok) hid

/-- A lookup is answered: the first address is connected to, or a page is queued. -/
theorem finishResolution_steps (h : t.Current c) {addresses : Option (List SocketAddr)}
    (hrun : finishResolution env addresses t = .ok t') : Steps env event s₀ t t' := by
  unfold finishResolution at hrun
  rw [h.connection] at hrun
  simp only [h.isCurrent, Bool.not_true, Bool.false_or] at hrun
  split at hrun
  · injection hrun with hrun
    exact hrun ▸ .refl t
  next hresolving =>
    have hmay : c.mayFail := .inl (by simpa using hresolving)
    split at hrun
    · exact failResolution_steps h (upstreamErrors_mem 2 rfl) hrun
    · exact failResolution_steps h (upstreamErrors_mem 3 rfl) hrun
    next address rest =>
      split at hrun
      · injection hrun with hrun
        exact hrun ▸ .refl t
      next resolution hresolution =>
        -- the phase left by `take_resolution` is that of a response anyway
        have hfail : queueResponse env (responseBytes 502 "upstream connection failed".toList)
              (t.put c.beginResponse) = .ok t' → Steps env event s₀ t t' := by
          intro hqueue
          have hcur : (t.put c.beginResponse).Current c.beginResponse := ⟨rfl, h.generation⟩
          obtain ⟨ok, hseat, hid⟩ := queueResponse_settles hcur hqueue
          have hfold := settle_put t.toSeat env.tls.toRustls c.beginResponse
            (c.setResponse (boundedResponse env.limits
              (responseBytes 502 "upstream connection failed".toList))) .write
            [.queued (boundedResponse env.limits
              (responseBytes 502 "upstream connection failed".toList))] ok
          refine .move ?_ hid
          rw [hseat]
          exact hfold ▸ .failed h.connection hmay 502 _ (upstreamErrors_mem 1 rfl) ok
        split at hrun
        · exact hfail hrun
        · split at hrun
          · cases hrun
          · split at hrun
            · exact hfail hrun
            · injection hrun with hrun
              refine .move ?_ (by rw [← hrun]; rfl)
              rw [← hrun]
              exact .connecting h.connection resolution hresolution

/-- A pass of the forwarding loop, and the step to the response if it was the
last one. -/
theorem ForwardSpec.forwards {proxy proxy₁ proxy₂ : ProxyState} {pass : ForwardPass}
    {time : Instant} (time' : Instant) (h : ForwardSpec proxy₁ pass)
    (hproxy₁ : proxy₁ = { proxy with phase := .writingRequest, phaseProgressAt := time })
    (hproxy₂ : proxy₂ = { pass.proxy with
      phase := if pass.ending = .finished then .readingResponse else .writingRequest
      phaseProgressAt := time' }) : Forwards proxy pass.forwarded proxy₂ := by
  subst hproxy₁ hproxy₂
  refine ⟨h.buffer, h.offset, h.accepted, ?_, h.started, h.eof⟩
  dsimp only
  by_cases hdone : pass.ending = .finished
  · rw [if_pos hdone, if_pos (h.finished.mp hdone)]
  · rw [if_neg hdone, if_neg (fun heq => hdone (h.finished.mpr heq))]

/-- **A pass of the forwarding loop.**  The moves of the loop and of the phase after it are
one move; what fails comes behind. -/
theorem forwardRequest_steps (h : t.Current c) {due : Bool} (hevent : event = .writeUpstream due)
    (hfound : s₀.connection = some c) {proxy proxy₁ : ProxyState} (hproxy : c.proxy = some proxy)
    (hphase : proxy.phase ≠ .readingResponse) (time : Instant)
    (hproxy₁ : proxy₁ = { proxy with phase := .writingRequest, phaseProgressAt := time })
    (hrun : forwardRequest env c proxy₁ t = .ok t') : Steps env event s₀ t t' := by
  unfold forwardRequest at hrun
  have hspec := forwardLoop_spec env.now maxWritesPerEvent proxy₁ env.upstreamWrites
  dsimp only at hrun
  generalize forwardLoop env.now maxWritesPerEvent proxy₁ env.upstreamWrites = pass at hrun hspec
  have hwriting : pass.proxy.phase = .writingRequest := by rw [hspec.phase, hproxy₁]
  -- the connection after the loop, whatever its time of last progress
  have hafter : ∃ now, (now = c.lastProgress ∨ now = env.now ∧ pass.forwarded ≠ [])
      ∧ c.afterForwarding env.now pass
        = { c.beginProxy pass.proxy with lastProgress := now } := by
    unfold Connection.afterForwarding
    dsimp only
    split_ifs with hnothing
    · exact ⟨c.lastProgress, .inl rfl, rfl⟩
    · refine ⟨env.now, .inr ⟨rfl, ?_⟩, rfl⟩
      intro hnil
      simp [hnil] at hnothing
  obtain ⟨now, hnow, hafter⟩ := hafter
  rw [hafter] at hrun
  -- a failure of the upstream, from any point after the loop
  have hfails : ∀ {t₁ : Turn σ} {proxy₂ : ProxyState}, Steps env event s₀ t t₁ →
      t₁.Current { c.beginProxy proxy₂ with lastProgress := now } →
      proxy₂.responseStarted = proxy.responseStarted →
      failProxy env 502 "upstream connection failed".toList t₁ = .ok t' →
      Steps env event s₀ t t' := by
    intro t₁ proxy₂ hsteps hcur hstarted hfail
    refine hsteps.trans (failProxy_steps hcur (upstreamErrors_mem 1 rfl) rfl ?_ hfail)
    exact .writing due hevent c proxy hfound hproxy hphase hstarted rfl
  have hstarted : pass.proxy.responseStarted = proxy.responseStarted := by
    rw [hspec.started, hproxy₁]
  generalize ht₁ : (t.put { c.beginProxy pass.proxy with lastProgress := now }).note
    (pass.forwarded.map Act.forwarded) = t₁ at hrun
  have hcur₁ : t₁.Current { c.beginProxy pass.proxy with lastProgress := now } := by
    rw [← ht₁]
    exact ⟨rfl, h.generation⟩
  -- the loop did not finish, so the phase is still that of the request
  have hunfinished : pass.ending ≠ .finished → Steps env event s₀ t t₁ := by
    intro hne
    rw [← ht₁]
    refine .move (.forwarded h.connection hproxy hphase
      (hspec.forwards pass.proxy.phaseProgressAt hproxy₁ ?_) now hnow) rfl
    rw [if_neg hne, ← hwriting]
  split at hrun
  next hending =>
    injection hrun with hrun
    exact hrun ▸ hunfinished (by rw [hending]; simp)
  next hending => exact hfails (hunfinished (by rw [hending]; simp)) hcur₁ hstarted hrun
  next hending =>
    injection hrun with hrun
    refine (hunfinished (by rw [hending]; simp)).trans ?_
    rw [← hrun]
    exact .move (.rescheduled true _) rfl
  next hending =>
    -- the request is out: the phase changes with the last write
    generalize hproxy₂ : pass.proxy.transition env.now .readingResponse = proxy₂ at hrun
    have hsteps : Steps env event s₀ t
        (t₁.put { c.beginProxy proxy₂ with lastProgress := now }) := by
      rw [← ht₁]
      refine .move (.forwarded h.connection hproxy hphase
        (hspec.forwards env.now hproxy₁ ?_) now hnow) rfl
      rw [if_pos hending, ← hproxy₂]
      rfl
    have hcur₂ : (t₁.put { c.beginProxy proxy₂ with lastProgress := now }).Current
        { c.beginProxy proxy₂ with lastProgress := now } := ⟨rfl, hcur₁.generation⟩
    split at hrun
    · cases hrun
    · split at hrun
      · exact hfails hsteps hcur₂ (by rw [← hproxy₂]; exact hstarted) hrun
      · injection hrun with hrun
        exact hrun ▸ hsteps

/-- The upstream is writable: a connect is checked first, then the request is written. -/
theorem writeUpstreamRequest_steps (h : t.Current c) {due : Bool}
    (hevent : event = .writeUpstream due) (hfound : s₀.connection = some c)
    (hrun : writeUpstreamRequest env t = .ok t') : Steps env event s₀ t t' := by
  unfold writeUpstreamRequest at hrun
  rw [h.connection] at hrun
  simp only [h.isCurrent, Bool.not_true, Bool.false_eq_true, if_false] at hrun
  split at hrun
  · injection hrun with hrun
    exact hrun ▸ .refl t
  next proxy hproxy =>
    split at hrun
    · injection hrun with hrun
      exact hrun ▸ .refl t
    next hphase =>
      have hne : proxy.phase ≠ .readingResponse := by rw [hphase]; simp
      split at hrun
      · cases hrun
      · exact failProxy_steps h (upstreamErrors_mem 1 rfl) hproxy
          (.writing due hevent c proxy hfound hproxy hne rfl rfl) hrun
      · exact forwardRequest_steps h hevent hfound hproxy hne env.now rfl hrun
    next hphase =>
      have hne : proxy.phase ≠ .readingResponse := by rw [hphase]; simp
      -- the phase is that of the request already
      refine forwardRequest_steps h hevent hfound hproxy hne proxy.phaseProgressAt ?_ hrun
      rw [← hphase]

/-- The end of the response always finds the write buffer empty. -/
theorem markUpstreamEof_eq (h : t.Current c) (hempty : c.writeBuffer = []) {proxy : ProxyState}
    (hproxy : c.proxy = some proxy) :
    markUpstreamEof env t = (t.put (c.beginProxy { proxy with upstreamEof := true })).drop
      env.tls.toRustls .upstreamEof (c.beginProxy { proxy with upstreamEof := true }) := by
  unfold markUpstreamEof
  rw [h.connection]
  simp only [h.isCurrent, Bool.not_true, Bool.false_eq_true, if_false, hproxy]
  have hcur : (t.put (c.beginProxy { proxy with upstreamEof := true })).Current
      (c.beginProxy { proxy with upstreamEof := true }) := h.put rfl
  rw [if_pos (show (c.beginProxy _).writeBuffer.isEmpty = true by
    show c.writeBuffer.isEmpty = true
    rw [hempty]
    rfl)]
  exact removeConnection_current hcur _

/-- **The upstream is readable**: its bytes are relayed, or its end removes the connection. -/
theorem readUpstreamResponse_steps (h : t.Current c) {due : Bool}
    (hevent : event = .readUpstream due) (hfound : s₀.connection = some c)
    (hrun : readUpstreamResponse env t = .ok t') : Steps env event s₀ t t' := by
  unfold readUpstreamResponse at hrun
  rw [h.connection] at hrun
  simp only [h.isCurrent, Bool.not_true, Bool.false_or] at hrun
  split at hrun
  · injection hrun with hrun
    exact hrun ▸ .refl t
  next hbuffer =>
    have hempty : c.writeBuffer = [] := by simpa using hbuffer
    split at hrun
    · injection hrun with hrun
      exact hrun ▸ .refl t
    next proxy hproxy =>
      split at hrun
      · injection hrun with hrun
        exact hrun ▸ .refl t
      next hphase =>
        rw [not_not] at hphase
        split at hrun
        · injection hrun with hrun
          exact hrun ▸ .refl t
        · injection hrun with hrun
          exact hrun ▸ .refl t
        · exact failProxy_steps h (upstreamErrors_mem 4 rfl) hproxy (.reading due hevent hempty) hrun
        next available hread =>
          split at hrun
          -- no bytes: the upstream has ended its stream
          next htake =>
            injection hrun with hrun
            rw [← hrun, markUpstreamEof_eq h hempty hproxy]
            exact .move (.removed h.connection (.upstreamEof due proxy hevent hfound hproxy hphase
              hempty available hread (List.isEmpty_iff.mp htake))) rfl
          next htake =>
            -- some bytes: they become the write buffer, at most as many as that may hold
            have hle : (available.take (min readBufferLen env.limits.maxWriteBufferSize)).length
                ≤ env.limits.maxWriteBufferSize := by
              rw [List.length_take]
              omega
            generalize available.take (min readBufferLen env.limits.maxWriteBufferSize) = bytes
              at hrun htake hle
            have hne : bytes ≠ [] := by simpa using htake
            generalize hc₁ : ({ c.beginProxy
                ({ proxy with responseStarted := true }.recordProgress env.now) with
              writeBuffer := bytes, writeOffset := 0, lastProgress := env.now } : Connection σ) = c₁
              at hrun
            have hcur : (((t.readBytes bytes.length).put c₁).note [.relayed bytes]).Current c₁ :=
              ⟨rfl, by rw [← hc₁]; exact h.generation⟩
            obtain ⟨ok, hseat, hid⟩ := reregisterClient_settles hcur hrun
            refine .move ?_ hid
            rw [hseat]
            have hfold := settle_nil t.toSeat env.tls.toRustls c₁ .write [.relayed bytes] ok
            rw [← hc₁] at hfold ⊢
            exact hfold ▸ .relayed h.connection hproxy hphase hempty bytes hne hle ok

/-! ## §7. The client's bytes. -/

/-- A session that wants to write is registered for both directions. -/
theorem flushHandshake_steps (hrun : flushHandshake env t = .ok t') : Steps env event s₀ t t' := by
  unfold flushHandshake at hrun
  split at hrun
  · injection hrun with hrun
    exact hrun ▸ .refl t
  next c hc =>
    split_ifs at hrun with hwants
    · rw [Bool.and_eq_true] at hwants
      obtain ⟨c', hcur⟩ := Turn.isCurrent_iff.mp hwants.1
      have hsame : c' = c := by
        have := hcur.connection
        rw [hc] at this
        injection this with this
        exact this.symm
      subst hsame
      have hssl : c'.ssl.isSome := by
        have := hwants.2
        unfold Connection.sslWantsWrite at this
        split at this
        · cases this
        next hssl => rw [hssl]; rfl
      obtain ⟨ok, hseat, hid⟩ := reregisterClient_settles hcur hrun
      exact .move (hseat ▸ .flushing hcur.connection hssl ok) hid
    · injection hrun with hrun
      exact hrun ▸ .refl t

/-- A turn that starts with a read pass. -/
structure Reads (env : Env σ) (event : TurnEvent) (s₀ : Seat σ) (t : Turn σ) (c : Connection σ)
    (pass : ReadPass σ) : Prop where
  current : t.Current c
  event : event = .connectionReady
  first : t.toSeat = s₀
  readable : t.polled.readable = true
  handling : c.isHandlingRequest = false
  pass : pass = connectionReady env.tls.toRustls env.limits env.now c env.reads

/-- The pass changes what is being read, and nothing else of the connection. -/
theorem Reads.readsOnly {pass : ReadPass σ} (h : Reads env event s₀ t c pass) :
    ReadsOnly c pass.connection := by
  rw [h.pass]
  unfold connectionReady
  rw [if_neg (by rw [h.handling]; simp)]
  exact readsOnly_readLoop _ _ _ _ _ _

/-- A response to the last verdict. -/
theorem Reads.replied {pass : ReadPass σ} (h : Reads env event s₀ t c pass)
    {verdict : ReadVerdict} (hlast : pass.verdicts.getLast? = some verdict) {notes : List Act}
    {stream : Option StaticStream} {response : List UInt8}
    (hreply : Reply env c.staticStream verdict notes stream response) {t₁ : Turn σ}
    (c₁ : Connection σ) (hcur : t₁.Current { c₁ with staticStream := stream })
    (hseat : t₁.toSeat = (t.toSeat.put { c₁ with staticStream := stream }).note
      (pass.verdicts.map Act.verdict ++ notes))
    (hsame : c₁.setResponse (boundedResponse env.limits response)
      = pass.connection.setResponse (boundedResponse env.limits response))
    (hid : t₁.id = t.id) (hrun : queueResponse env response t₁ = .ok t') :
    Steps env event s₀ t t' := by
  obtain ⟨ok, hseat', hid'⟩ := queueResponse_settles hcur hrun
  refine .move ?_ (hid'.trans hid)
  have hmove := (Move.replied h.current.connection h.event h.first h.readable h.handling pass h.pass
    hlast hreply ok : Move env event s₀ t.toSeat _)
  rw [hseat', hseat, settle_after]
  -- the stream is set before the response is, which makes no difference
  have hconnection : ({ c₁ with staticStream := stream }.setResponse
      (boundedResponse env.limits response) : Connection σ)
      = { pass.connection with staticStream := stream }.setResponse
          (boundedResponse env.limits response) := by
    have := congrArg (fun c : Connection σ => { c with staticStream := stream }) hsame
    exact this
  rw [hconnection]
  exact hmove

/-- A response that leaves the file stream, if any, as it is. -/
theorem Reads.answered {pass : ReadPass σ} (h : Reads env event s₀ t c pass)
    {verdict : ReadVerdict} (hlast : pass.verdicts.getLast? = some verdict) {notes : List Act}
    {response : List UInt8}
    (hreply : Reply env c.staticStream verdict notes c.staticStream response) {t₁ : Turn σ}
    {c₁ : Connection σ} (hcur : t₁.Current c₁) (hstream : c₁.staticStream = c.staticStream)
    (hseat : t₁.toSeat = (t.toSeat.put c₁).note (pass.verdicts.map Act.verdict ++ notes))
    (hsame : c₁.setResponse (boundedResponse env.limits response)
      = pass.connection.setResponse (boundedResponse env.limits response))
    (hid : t₁.id = t.id) (hrun : queueResponse env response t₁ = .ok t') :
    Steps env event s₀ t t' := by
  have heq : { c₁ with staticStream := c.staticStream } = c₁ := by
    rw [← hstream]
  refine h.replied hlast hreply c₁ ?_ ?_ hsame hid hrun
  · rw [heq]
    exact hcur
  · rw [heq]
    exact hseat

/-- Every configured response has a head. -/
theorem responseFor_ne_nil (servers : List Server) (index : Nat) (target : Str) :
    responseFor servers index target ≠ [] := by
  unfold responseFor
  split
  · exact responseBytes_ne_nil _ _
  · split <;> exact responseBytes_ne_nil _ _

/-- The seat once the verdicts of a pass are noted. -/
def Turn.received (t : Turn σ) (pass : ReadPass σ) : Turn σ :=
  ((t.readBytes pass.bytesRead).put pass.connection).note (pass.verdicts.map Act.verdict)

/-- `start_proxy` fails before it touches the connection, or puts it into its
resolving phase, after which the resolver may still be found stopped. -/
theorem startProxy_cases (hc : t.connection = some c) {url : Str} {request : RequestHead}
    {body : List UInt8} {started : Bool} (hrun : startProxy env url request body t = .ok (started, t')) :
    started = false ∧ t' = t
    ∨ ∃ upstream : Upstream, t'.id = t.id
      ∧ (upstream.requestBytes request body).length ≤ env.limits.maxReadBufferSize
      ∧ t'.toSeat = (t.toSeat.put (c.beginResolving env.now (upstream.requestBytes request body))).note
          [.forwarding (upstream.requestBytes request body)] := by
  unfold startProxy at hrun
  split at hrun
  · cases hrun
    exact .inl ⟨rfl, rfl⟩
  next upstream _ =>
    dsimp only at hrun
    split at hrun
    · cases hrun
      exact .inl ⟨rfl, rfl⟩
    next hle =>
      rw [hc] at hrun
      dsimp only at hrun
      split at hrun
      · cases hrun
        exact .inr ⟨upstream, rfl, Nat.le_of_not_lt hle, rfl⟩
      · cases hrun
        exact .inr ⟨upstream, rfl, Nat.le_of_not_lt hle, rfl⟩

/-- `queueResponse`, then a constant flag. -/
theorem bind_flag_ok {x : Except Exit (Turn σ)} {flag goesOn : Bool}
    (h : (do let t ← x; return (flag, t) : Except Exit (Bool × Turn σ)) = .ok (goesOn, t')) :
    x = .ok t' := by
  cases x with
  | error e => cases h
  | ok t₁ =>
      cases h
      rfl

/-- **The answer to a dispatched request**: a configured response, a file, an exchange, or
the page that stands for one of them. -/
theorem answerRequest_steps {pass : ReadPass σ} (h : Reads env event s₀ t c pass)
    {request : RequestHead} {body : List UInt8}
    (hlast : pass.verdicts.getLast? = some (.dispatch request body)) {goesOn : Bool}
    (hrun : answerRequest env pass.connection.listenerGroup request body
      (t.received pass).countRequest = .ok (goesOn, t')) : Steps env event s₀ t t' := by
  have hreads := h.readsOnly
  generalize ht₁ : (t.received pass).countRequest = t₁ at hrun
  have hcur₁ : t₁.Current pass.connection := by
    rw [← ht₁]
    exact ⟨rfl, hreads.generation.trans h.current.generation⟩
  have hseat₁ : t₁.toSeat = (t.toSeat.put pass.connection).note (pass.verdicts.map Act.verdict) := by
    rw [← ht₁]
    rfl
  have hid₁ : t₁.id = t.id := by
    rw [← ht₁]
    rfl
  -- a response that only the verdict asks for
  have hplain : ∀ {response : List UInt8}, response ≠ [] → queueResponse env response t₁ = .ok t' →
      Steps env event s₀ t t' := by
    intro response hne hqueue
    refine h.answered hlast (.answered request body response hne) hcur₁ hreads.staticStream ?_ rfl
      hid₁ hqueue
    rw [hseat₁, List.append_nil]
  unfold answerRequest at hrun
  split at hrun
  · cases hrun
  next listener _ =>
    dsimp only at hrun
    split at hrun
    · exact hplain (responseBytes_ne_nil _ _) (bind_flag_ok hrun)
    next server _ =>
      split at hrun
      -- a proxy action
      next upstream group upstreams policy _ =>
        generalize ht₂ : t₁.note [.proxied] = t₂ at hrun
        -- the upstream could not be used
        have hdeclined : ∀ {t₃ : Turn σ} {c₃ : Connection σ} {forwarding : List Act} {message : Str},
            (502, message) ∈ upstreamErrors →
            queueResponse env (responseBytes 502 message) t₃ = .ok t' →
            t₃.toSeat = (t₂.toSeat.put c₃).note forwarding → t₃.id = t₂.id →
            forwarding = [] ∨ (∃ bytes, forwarding = [.forwarding bytes]) →
            c₃.setResponse (boundedResponse env.limits (responseBytes 502 message))
              = pass.connection.setResponse
                  (boundedResponse env.limits (responseBytes 502 message)) →
            c₃.generation = pass.connection.generation →
            c₃.staticStream = pass.connection.staticStream → Steps env event s₀ t t' := by
          intro t₃ c₃ forwarding message herror hqueue hseat hid hforwarding hsame hgen hstream
          have hid₃ : t₃.id = t.id := by rw [hid, ← ht₂]; exact hid₁
          refine h.answered hlast (.declined request body forwarding hforwarding message herror) ?_
            (hstream.trans hreads.staticStream) ?_ hsame hid₃ hqueue
          · refine ⟨?_, ?_⟩
            · show t₃.toSeat.connection = _
              rw [hseat]
              rfl
            · rw [hgen, hid₃, hreads.generation]
              exact h.current.generation
          · rw [hseat, ← ht₂]
            show ((t₁.toSeat.note [.proxied]).put c₃).note forwarding = _
            rw [hseat₁]
            simp [Seat.put, Seat.note]
        -- declined before anything was forwarded
        have hput : ∀ t₃ : Turn σ, t₃.toSeat = t₂.toSeat →
            t₃.toSeat = (t₂.toSeat.put pass.connection).note [] := by
          intro t₃ heq
          rw [heq, Seat.put_note_nil]
          rw [← ht₂]
          exact hcur₁.connection
        split at hrun
        · cases hrun
        next balancer _ =>
          exact hdeclined (upstreamErrors_mem 0 rfl) (bind_flag_ok hrun) (hput _ rfl) rfl
            (.inl rfl) rfl rfl rfl
        -- the balancer chose an upstream; its own state is no part of the seat
        next url balancer _ =>
          have hc₂ : ({ t₂ with balancer } : Turn σ).connection = some pass.connection := by
            rw [← ht₂]
            exact hcur₁.connection
          cases hstart : startProxy env url request body { t₂ with balancer } with
          | error e => simp [bind, Except.bind, hstart] at hrun
          | ok result =>
              obtain ⟨started, t₃⟩ := result
              simp only [bind, Except.bind, hstart, pure, Except.pure] at hrun
              have hcases := startProxy_cases hc₂ hstart
              split at hrun
              next hstarted =>
                injection hrun with hrun
                injection hrun with _ hrun
                subst hrun
                rcases hcases with ⟨hfalse, -⟩ | ⟨up, hid, hle, hseat⟩
                · rw [hfalse] at hstarted
                  cases hstarted
                · have hid₃ : t₃.id = t.id := by rw [hid, ← ht₂]; exact hid₁
                  refine .move ?_ hid₃
                  have hmove := (Move.resolving h.current.connection h.event h.first h.readable
                    h.handling pass h.pass hlast up _ rfl hle : Move env event s₀ t.toSeat _)
                  have hsame : t₃.toSeat = ((t.toSeat.put (pass.connection.beginResolving env.now
                      (up.requestBytes request body))).note (pass.verdicts.map Act.verdict
                        ++ [.proxied, .forwarding (up.requestBytes request body)])) := by
                    rw [hseat, ← ht₂]
                    show ((t₁.toSeat.note [.proxied]).put _).note _ = _
                    rw [hseat₁]
                    simp [Seat.put, Seat.note]
                  rw [hsame]
                  exact hmove
              · -- the exchange did not start: before the request was encoded, or at the DNS threads
                rcases hcases with ⟨-, rfl⟩ | ⟨up, hid, -, hseat⟩
                · exact hdeclined (upstreamErrors_mem 1 rfl) (bind_flag_ok hrun) (hput _ rfl) rfl
                    (.inl rfl) rfl rfl rfl
                · exact hdeclined (upstreamErrors_mem 1 rfl) (bind_flag_ok hrun) hseat hid
                    (.inr ⟨_, rfl⟩) rfl rfl rfl
      -- a file, or the page for its error
      next directory _ =>
        split at hrun
        next response hresponse =>
          have hqueue := bind_flag_ok hrun
          unfold queueStaticResponse at hqueue
          rw [hcur₁.connection] at hqueue
          simp only [hcur₁.isCurrent, Bool.not_true, Bool.false_eq_true, if_false] at hqueue
          refine h.replied hlast (.served request body directory response hresponse)
            pass.connection ?_ ?_ rfl ?_ hqueue
          · exact ⟨rfl, hcur₁.generation⟩
          · show ((t₁.toSeat.put _).note _) = _
            rw [hseat₁]
            simp [Seat.put, Seat.note]
          · exact hid₁
        · exact hplain (staticErrorResponse_ne_nil _) (bind_flag_ok hrun)
      · exact hplain (responseFor_ne_nil _ _ _) (bind_flag_ok hrun)

/-- A verdict that decides something is answered. -/
theorem answerVerdict_steps {pass : ReadPass σ} (h : Reads env event s₀ t c pass)
    {verdict : ReadVerdict} (hlast : pass.verdicts.getLast? = some verdict)
    (hne : verdict ≠ .keepWaiting) {goesOn : Bool}
    (hrun : answerVerdict env pass.connection.listenerGroup (some verdict) (t.received pass)
      = .ok (goesOn, t')) : Steps env event s₀ t t' := by
  have hreads := h.readsOnly
  cases verdict with
  | keepWaiting => exact absurd rfl hne
  | error status message =>
      have hcur : (t.received pass).Current pass.connection :=
        ⟨rfl, hreads.generation.trans h.current.generation⟩
      refine h.answered hlast (.refused status message) hcur hreads.staticStream ?_ rfl rfl
        (bind_flag_ok hrun)
      rw [List.append_nil]
      rfl
  | dispatch request body => exact answerRequest_steps h hlast hrun

/-- A pass that decided nothing, or whose last chunk did. -/
theorem Reads.verdicts {pass : ReadPass σ} (h : Reads env event s₀ t c pass) :
    (∀ verdict ∈ pass.verdicts, verdict = .keepWaiting)
    ∨ pass.closed = false ∧ ∃ verdict, pass.verdicts.getLast? = some verdict
      ∧ verdict ≠ .keepWaiting := by
  have hloop := readLoop_verdicts env.tls.toRustls env.limits env.now maxReadsPerEvent c env.reads
  have hpass : pass = readLoop env.tls.toRustls env.limits env.now maxReadsPerEvent c env.reads := by
    rw [h.pass]
    unfold connectionReady
    rw [if_neg (by rw [h.handling]; simp)]
  rw [← hpass] at hloop
  rcases hloop with hall | ⟨hclosed, waits, verdict, hverdicts, -, hne⟩
  · exact .inl hall
  · exact .inr ⟨hclosed, verdict, by rw [hverdicts]; simp, hne⟩

/-- What follows the answer to a read pass. -/
def afterAnswer (env : Env σ) (pass : ReadPass σ) (answer : Bool × Turn σ) :
    Except Exit (Turn σ) :=
  if !answer.1 then .ok answer.2
  else
    flushHandshake env
      (if pass.closed then removeConnection env pass.closeSite answer.2 else answer.2)

/-- What a readable client leads to, once the pass is known. -/
theorem handleConnectionReady_eq (h : t.Current c) (hhandling : c.isHandlingRequest = false)
    {pass : ReadPass σ}
    (hpass : pass = connectionReady env.tls.toRustls env.limits env.now c env.reads) :
    handleConnectionReady env t
      = (answerVerdict env pass.connection.listenerGroup pass.verdicts.getLast? (t.received pass)
        >>= afterAnswer env pass) := by
  unfold handleConnectionReady
  rw [h.connection]
  simp only [h.isCurrent, Bool.not_true, Bool.false_eq_true, if_false, hhandling]
  rw [← hpass]
  rfl

/-- Its two parts, when neither ends the worker. -/
theorem handleConnectionReady_ok (h : t.Current c) (hhandling : c.isHandlingRequest = false)
    {pass : ReadPass σ}
    (hpass : pass = connectionReady env.tls.toRustls env.limits env.now c env.reads)
    (hrun : handleConnectionReady env t = .ok t') :
    ∃ answer, answerVerdict env pass.connection.listenerGroup pass.verdicts.getLast?
        (t.received pass) = .ok answer ∧ afterAnswer env pass answer = .ok t' := by
  rw [handleConnectionReady_eq h hhandling hpass] at hrun
  cases hanswer : answerVerdict env pass.connection.listenerGroup pass.verdicts.getLast?
      (t.received pass) with
  | error e => simp [bind, Except.bind, hanswer] at hrun
  | ok answer =>
      rw [hanswer] at hrun
      exact ⟨answer, rfl, hrun⟩

/-- **The client is readable.**  During an exchange its bytes are dropped. -/
theorem handleConnectionReady_steps (h : t.Current c) (hevent : event = .connectionReady)
    (hfirst : t.toSeat = s₀) (hread : t.polled.readable = true)
    (hrun : handleConnectionReady env t = .ok t') : Steps env event s₀ t t' := by
  have hfound : s₀.connection = some c := by rw [← hfirst]; exact h.connection
  by_cases hhandling : c.isHandlingRequest = true
  · unfold handleConnectionReady at hrun
    rw [h.connection] at hrun
    simp only [h.isCurrent, Bool.not_true, Bool.false_eq_true, if_false, hhandling, if_true]
      at hrun
    injection hrun with hrun
    rw [← hrun]
    unfold clientDuringProxyReady
    dsimp only
    -- dropped bytes count as progress
    have htouched : ∃ time, (time = c.lastProgress ∨ time = env.now ∧ Receives env event s₀)
        ∧ (connectionReady env.tls.toRustls env.limits env.now c env.reads).connection
          = { c with lastProgress := time } := by
      unfold connectionReady
      rw [if_pos hhandling]
      obtain ⟨time, htime⟩ := discardLoop_connection env.now maxReadsPerEvent c env.reads
      have htouch := discardLoop_touch env.tls.toRustls env.now maxReadsPerEvent c env.reads
        hhandling
      rw [htime] at htouch
      exact ⟨time, htouch.imp_right (fun h => ⟨h.1, hevent, c, hfound, h.2⟩), htime⟩
    obtain ⟨time, hwhen, htime⟩ := htouched
    have htouch : Steps env event s₀ t
        (t.put (connectionReady env.tls.toRustls env.limits env.now c env.reads).connection) := by
      rw [htime]
      exact .move (.touched h.connection time hwhen) rfl
    split_ifs with hclosed
    · refine htouch.trans (removeConnection_steps (h.put ?_) (.closed c hevent hfound hclosed rfl ?_))
      · rw [htime]
      · refine ⟨[], ?_, fun _ hmem => (by cases hmem)⟩
        rw [← hfirst]
        exact (List.append_nil _).symm
    · exact htouch
  · have hfalse : c.isHandlingRequest = false := by simpa using hhandling
    obtain ⟨⟨goesOn, t₁⟩, hanswer, hrun⟩ := handleConnectionReady_ok h hfalse rfl hrun
    have hreads : Reads env event s₀ t c
        (connectionReady env.tls.toRustls env.limits env.now c env.reads) :=
      ⟨h, hevent, hfirst, hread, hfalse, rfl⟩
    -- a client that has closed is removed, after the waiting verdicts of this pass
    have hclosing : ∀ {t₁ : Turn σ}, Steps env event s₀ t t₁ →
        t₁.Current (connectionReady env.tls.toRustls env.limits env.now c env.reads).connection →
        (∃ verdicts : List ReadVerdict, t₁.log = s₀.log ++ verdicts.map Act.verdict
          ∧ ∀ verdict ∈ verdicts, verdict = .keepWaiting) →
        Steps env event s₀ t
          (if (connectionReady env.tls.toRustls env.limits env.now c env.reads).closed then
            removeConnection env
              (connectionReady env.tls.toRustls env.limits env.now c env.reads).closeSite t₁
          else t₁) := by
      intro t₁ hsteps hcur hlog
      split_ifs with hclosed
      · exact hsteps.trans (removeConnection_steps hcur (.closed c hevent hfound hclosed rfl hlog))
      · exact hsteps
    have hcurrent : (t.received
        (connectionReady env.tls.toRustls env.limits env.now c env.reads)).Current
          (connectionReady env.tls.toRustls env.limits env.now c env.reads).connection :=
      ⟨rfl, hreads.readsOnly.generation.trans h.generation⟩
    have hverdicts := hreads.verdicts
    generalize connectionReady env.tls.toRustls env.limits env.now c env.reads = pass
      at hanswer hrun hreads hverdicts hclosing hcurrent
    unfold afterAnswer at hrun
    dsimp only at hrun
    rcases hverdicts with hall | ⟨hopen, verdict, hlast, hne⟩
    · -- nothing was decided: the connection waits on, or the client is gone
      have hwaited : Steps env event s₀ t (t.received pass) := by
        refine .move ?_ rfl
        exact .waited h.connection hevent hfirst hread hreads.handling pass hreads.pass hall
      have hsame : goesOn = true ∧ t₁ = t.received pass := by
        cases hlast : pass.verdicts.getLast? with
        | none =>
            rw [hlast] at hanswer
            cases hanswer
            exact ⟨rfl, rfl⟩
        | some verdict =>
            have hkeep := hall verdict (List.mem_of_getLast? hlast)
            rw [hlast, hkeep] at hanswer
            cases hanswer
            exact ⟨rfl, rfl⟩
      obtain ⟨rfl, rfl⟩ := hsame
      have hlog : (t.received pass).log = s₀.log ++ pass.verdicts.map Act.verdict := by
        rw [← hfirst]
        rfl
      exact (hclosing hwaited hcurrent ⟨_, hlog, hall⟩).trans (flushHandshake_steps hrun)
    · -- the last chunk decided: the client is open, and its verdict is answered
      rw [hlast] at hanswer
      have hsteps := answerVerdict_steps hreads hlast hne hanswer
      split_ifs at hrun with hstop hclosed
      · injection hrun with hrun
        exact hrun ▸ hsteps
      · rw [hopen] at hclosed
        cases hclosed
      · exact hsteps.trans (flushHandshake_steps hrun)

/-! ## §8. One turn. -/

/-- What the worker knows when it calls a handler for a current connection. -/
def Starts (event : TurnEvent) (s : Seat σ) (c : Connection σ) : Prop :=
  match event with
  | .connectionReady => s.polled.readable = true
  | .writeReady due => if due then s.writeScheduled = true else s.polled.writable = true
  | .upstreamError => c.isProxying = true
  | .proxyExpired _ => c.isProxying = true
  | .idle => c.isHandlingRequest = false
  | .pump => c.staticStream.isSome ∧ c.writeOffset = c.writeBuffer.length
  | .shutdown => c.staticStream = none ∧ c.writeBuffer.length ≤ c.writeOffset
  | _ => True

/-- A handler that is a removal and no more. -/
theorem removal_steps (h : t.Current c) {site : RemovalSite}
    (hcause : Cause env event s₀ t.toSeat c site)
    (hrun : .ok (removeConnection env site t) = (.ok t' : Except Exit (Turn σ))) :
    Steps env event s₀ t t' := by
  injection hrun with hrun
  exact hrun ▸ removeConnection_steps h hcause

/-- **Every handler call on a current connection is a path of moves.** -/
theorem handleTurn_steps (h : t.Current c) (hstart : Starts event t.toSeat c)
    (hrun : handleTurn env event t = .ok t') : Steps env event t.toSeat t t' := by
  cases event with
  | connectionReady => exact handleConnectionReady_steps h rfl rfl hstart hrun
  | writeReady due =>
      refine writeReady_steps h rfl h.connection ?_ hrun
      cases due with
      | true => exact .inr hstart
      | false => exact .inl hstart
  | clientError =>
      injection hrun with hrun
      have hcur : t.countError.Current c := ⟨h.connection, h.generation⟩
      rw [← hrun]
      unfold clientError
      rw [if_pos h.isCurrent]
      exact (Steps.same rfl rfl : Steps env .clientError t.toSeat t t.countError).trans
        (removeConnection_steps hcur (.clientError rfl))
  | clientClosed half =>
      injection hrun with hrun
      rw [← hrun]
      unfold clientClosed
      rw [h.connection]
      dsimp only
      split_ifs with hdone
      · rw [Bool.and_eq_true, beq_iff_eq] at hdone
        exact removeConnection_steps h (.clientClosed half rfl rfl hdone.2)
      · exact .refl t
  | upstreamError =>
      obtain ⟨proxy, hphase⟩ := Connection.isProxying_iff.mp hstart
      exact failProxy_steps h (upstreamErrors_mem 1 rfl) (Connection.proxy_eq_some.mpr hphase)
        (.reported h.connection rfl (.inl rfl)) hrun
  | writeUpstream due =>
      -- a drained id leaves its set before the handler runs
      have hcur : ({ t with upstreamWriteScheduled := t.upstreamWriteScheduled && !due } :
        Turn σ).Current c := ⟨h.connection, h.generation⟩
      have hdrained : Steps env (.writeUpstream due) t.toSeat t
          { t with upstreamWriteScheduled := t.upstreamWriteScheduled && !due } :=
        .move (.rescheduled _ _) rfl
      exact hdrained.trans (writeUpstreamRequest_steps hcur rfl h.connection hrun)
  | readUpstream due =>
      have hcur : ({ t with upstreamReadScheduled := t.upstreamReadScheduled && !due } :
        Turn σ).Current c := ⟨h.connection, h.generation⟩
      have hdrained : Steps env (.readUpstream due) t.toSeat t
          { t with upstreamReadScheduled := t.upstreamReadScheduled && !due } :=
        .move (.rescheduled _ _) rfl
      exact hdrained.trans (readUpstreamResponse_steps hcur rfl h.connection hrun)
  | upstreamClosed =>
      injection hrun with hrun
      rw [← hrun, if_pos h.isCurrent]
      exact .move (.rescheduled _ true) rfl
  | resolved addresses => exact finishResolution_steps h hrun
  | resolutionExpired => exact failResolution_steps h (upstreamErrors_mem 5 rfl) hrun
  | proxyExpired phase =>
      obtain ⟨proxy, hphase⟩ := Connection.isProxying_iff.mp hstart
      exact failProxy_steps h (timeoutMessage_mem phase) (Connection.proxy_eq_some.mpr hphase)
        (.reported h.connection rfl (.inr ⟨phase, rfl⟩)) hrun
  | idle => exact removal_steps h (.idle rfl hstart) hrun
  | handshakeExpired => exact removal_steps h (.handshakeExpired rfl) hrun
  | pump =>
      exact advanceStaticStream_steps h hstart.2 (.inr ⟨rfl, h.connection, rfl⟩)
        ⟨c, h.connection, rfl⟩
        hrun
  | shutdown => exact removal_steps h (.shutdown rfl rfl h.connection hstart.1 hstart.2) hrun
  | drainDeadline => exact removal_steps h (.drainDeadline rfl) hrun

/-- **A handler called for a connection that is gone does nothing**: at most the
id is taken out of a pending set. -/
theorem handleTurn_stale (env : Env σ) (event : TurnEvent) (h : t.isCurrent = false) :
    ∃ write upstreamWrite upstreamRead : Bool, handleTurn env event t
      = .ok { t with
          writeScheduled := t.writeScheduled && write
          upstreamWriteScheduled := t.upstreamWriteScheduled && upstreamWrite
          upstreamReadScheduled := t.upstreamReadScheduled && upstreamRead } := by
  -- most handlers return at once
  have hsame : ∀ {x : Except Exit (Turn σ)}, x = .ok t →
      ∃ write upstreamWrite upstreamRead : Bool, x = .ok { t with
          writeScheduled := t.writeScheduled && write
          upstreamWriteScheduled := t.upstreamWriteScheduled && upstreamWrite
          upstreamReadScheduled := t.upstreamReadScheduled && upstreamRead } := by
    intro x hx
    exact ⟨true, true, true, by rw [hx]; simp⟩
  -- a removal looks for the connection once more
  have hremove : ∀ site, removeConnection env site t = t := by
    intro site
    unfold removeConnection
    split
    · rfl
    · rw [h]
      rfl
  -- and so does a failure
  have hfail : ∀ status message, failProxy env status message t = .ok t := by
    intro status message
    unfold failProxy
    split
    · rfl
    · rw [h]
      rfl
  cases event with
  | connectionReady =>
      apply hsame
      show handleConnectionReady env t = .ok t
      unfold handleConnectionReady
      split
      · rfl
      · rw [h]
        rfl
  | writeReady due =>
      refine ⟨!due, true, true, ?_⟩
      show writeReady env (t.drain due) = _
      have hdrain : (t.drain due).isCurrent = false := h
      simp only [Bool.and_true]
      unfold writeReady
      split
      · rfl
      · rw [hdrain]
        rfl
  | clientError =>
      apply hsame
      show Except.ok (removeConnection env .clientError (if t.isCurrent then t.countError else t)) = _
      rw [h, if_neg (by simp), hremove]
  | clientClosed half =>
      apply hsame
      show Except.ok (clientClosed env half t) = _
      unfold clientClosed
      split
      · rfl
      · rw [h]
        rfl
  | upstreamError => exact hsame (hfail _ _)
  | writeUpstream due =>
      refine ⟨true, !due, true, ?_⟩
      show writeUpstreamRequest env { t with
        upstreamWriteScheduled := t.upstreamWriteScheduled && !due } = _
      have hdrain : ({ t with upstreamWriteScheduled := t.upstreamWriteScheduled && !due } :
        Turn σ).isCurrent = false := h
      simp only [Bool.and_true]
      unfold writeUpstreamRequest
      split
      · rfl
      · rw [hdrain]
        rfl
  | readUpstream due =>
      refine ⟨true, true, !due, ?_⟩
      show readUpstreamResponse env { t with
        upstreamReadScheduled := t.upstreamReadScheduled && !due } = _
      have hdrain : ({ t with upstreamReadScheduled := t.upstreamReadScheduled && !due } :
        Turn σ).isCurrent = false := h
      simp only [Bool.and_true]
      unfold readUpstreamResponse
      split
      · rfl
      · rw [hdrain]
        rfl
  | upstreamClosed =>
      apply hsame
      show Except.ok (if t.isCurrent then { t with upstreamReadScheduled := true } else t) = _
      rw [h, if_neg (by simp)]
  | resolved addresses =>
      apply hsame
      show finishResolution env addresses t = .ok t
      unfold finishResolution
      split
      · rfl
      · rw [h]
        rfl
  | resolutionExpired =>
      apply hsame
      show failResolution env 504 _ t = .ok t
      unfold failResolution
      split
      · rfl
      · rw [h]
        rfl
  | proxyExpired phase => exact hsame (hfail _ _)
  | pump =>
      apply hsame
      show advanceStaticStream env t = .ok t
      unfold advanceStaticStream
      split
      · rfl
      · rw [h]
        rfl
  | idle => exact hsame (congrArg _ (hremove _))
  | handshakeExpired => exact hsame (congrArg _ (hremove _))
  | shutdown => exact hsame (congrArg _ (hremove _))
  | drainDeadline => exact hsame (congrArg _ (hremove _))

end Thwip.Readiness
