/-
  Thwip.Readiness.HalfClose — clients that close their sending side.

  After its request a client may close its sending side and wait for the
  response.  The worker notices it by the flag of a ready event, and by reads of
  length zero in its two read loops.  The flag is ignored only while there is
  something in the write buffer, the zero-length reads only by a TLS session: in
  between, a connection whose response is still to come is removed.
-/
import Thwip.Readiness.Progress

namespace Thwip.Readiness

open Thwip.Lib

variable {σ : Type} {cfg : Config σ} {w w' : ReadinessWorker σ} {c : Connection σ}

/-! ## §1. What is asked of a removal. -/

/-- The connection is removed here on account of a half-close. -/
def RemovalSite.onHalfClose : RemovalSite → Bool
  | .clientClosed half => half
  | .readClosed => true
  | _ => false

/-- The whole response has been written to the client. -/
def Connection.answered (tls : Rustls σ) (self : Connection σ) : Bool :=
  self.isWritingResponse && self.writeFinished tls
    && self.staticStream.all (fun stream => stream.chunks.isEmpty)

/-- A connection that is removed on account of a half-close after its request has been
received: the turn right before, in which that happened, found its response written. -/
def OutlastsHalfClose (tls : Rustls σ) (before : List (HistoryItem σ)) : HistoryItem σ → Prop
  | .removed id trace => ∃ log site unsent wantsWrite,
      trace = log ++ [.removed site unsent wantsWrite]
        ∧ (log.any Act.isDispatch = true → site.onHalfClose = true →
          ∃ event io found c, before.getLast? = some (.turn id event io found)
            ∧ found.connection = some c ∧ found.log <+: log ∧ c.answered tls = true)
  | _ => True

/-- The reads of one event get to a read of length zero. -/
def reachesEof : Nat → List IoRead → Bool
  | 0, _ | _ + 1, [] => false
  | reads + 1, next :: socket =>
      match next with
      | .ok [] => true
      | .ok _ | .interrupted => reachesEof reads socket
      | .wouldBlock | .failed => false

/-- The reads of one event are ended by a read of length zero: of a plaintext
connection, or of one whose session has no room for what it decrypts, and fails. -/
def Connection.endsAtEof (tls : Rustls σ) : Nat → Connection σ → List IoRead → Bool
  | 0, _, _ => false
  | reads + 1, self, socket =>
      match self.readOnce tls socket with
      | (.ok [], self, _) => self.ssl.isNone
      | (.ok _, self, rest) | (.interrupted, self, rest) => self.endsAtEof tls reads rest
      | (.failed, _, _) => socketAnswer socket == .ok []
      | (.wouldBlock, _, _) => false

/-- A turn in which the half-close is noticed, where it is not ignored: nothing is
left in the write buffer, or it is not a session that takes it. -/
def Connection.noticesHalfClose (tls : Rustls σ) (event : TurnEvent) (reads : List IoRead)
    (self : Connection σ) : Bool :=
  match event with
  | .clientClosed half => half && self.writeOffset == self.writeBuffer.length
  | .connectionReady =>
      if self.isHandlingRequest then reachesEof maxReadsPerEvent reads
      else self.endsAtEof tls maxReadsPerEvent reads
  | _ => false

/-- The half-close of a client whose request was received is noticed only once the
response is written. -/
def halfCloseAfterAnswer (tls : Rustls σ) : HistoryItem σ → Bool
  | .turn _ event io found =>
      found.connection.all (fun c =>
        !found.log.any Act.isDispatch || !c.noticesHalfClose tls event io.reads || c.answered tls)
  | _ => true

/-! ## §2. Reads of length zero. -/

theorem after_eof {pass : ReadPass σ} {answer : IoRead} (count : Nat) (hanswer : answer ≠ .ok [])
    (h : (pass.after answer count).lastRead = some (.ok [])) : pass.lastRead = some (.ok []) := by
  unfold ReadPass.after at h
  cases hlast : pass.lastRead with
  | none =>
      simp only [hlast, Option.getD_none, Option.some.injEq] at h
      exact absurd h hanswer
  | some last => simpa [hlast] using h

theorem discardLoop_eof (now : Instant) :
    ∀ (reads : Nat) (c : Connection σ) (socket : List IoRead),
      (discardLoop now reads c socket).lastRead = some (.ok []) → reachesEof reads socket = true := by
  intro reads
  induction reads with
  | zero =>
      intro c socket hlast
      cases hlast
  | succ reads ih =>
      intro c socket hlast
      cases socket with
      | nil => cases hlast
      | cons next socket =>
          cases next with
          | wouldBlock | failed => cases hlast
          | interrupted => exact ih c socket (after_eof 0 (by simp) hlast)
          | ok bytes =>
              cases bytes with
              | nil => rfl
              | cons byte bytes => exact ih _ socket (after_eof 0 (by simp) hlast)

/-- What else happens to the connection makes no difference to the reads. -/
theorem endsAtEof_congr (tls : Rustls σ) :
    ∀ (reads : Nat) {c c' : Connection σ} (socket : List IoRead), c.ssl = c'.ssl →
      c.endsAtEof tls reads socket = c'.endsAtEof tls reads socket := by
  intro reads
  induction reads with
  | zero =>
      intro c c' socket _
      rfl
  | succ reads ih =>
      intro c c' socket hssl
      obtain ⟨hanswer, hsession, hrest⟩ := readOnce_congr tls hssl socket
      unfold Connection.endsAtEof
      rcases hread : c.readOnce tls socket with ⟨answer, c₁, rest⟩
      rcases hread' : c'.readOnce tls socket with ⟨answer', c₁', rest'⟩
      rw [hread, hread'] at hanswer hsession hrest
      dsimp only at hanswer hsession hrest
      subst hanswer hrest
      cases answer with
      | wouldBlock | failed => rfl
      | interrupted => exact ih rest hsession
      | ok received =>
          cases received with
          | nil =>
              show c₁.ssl.isNone = c₁'.ssl.isNone
              rw [hsession]
          | cons byte bytes => exact ih rest hsession

/-- At the end of the stream nothing is read. -/
theorem readOnce_eof (tls : Rustls σ) (c : Connection σ) {socket : List IoRead}
    (h : socketAnswer socket = .ok []) :
    (c.readOnce tls socket).1 = .ok [] ∨ (c.readOnce tls socket).1 = .failed := by
  unfold Connection.readOnce
  cases socket with
  | nil => cases h
  | cons next socket =>
      change next = .ok [] at h
      subst h
      cases hssl : c.ssl with
      | none => exact .inl rfl
      | some ssl =>
          dsimp only
          cases hread : tls.readTls ssl.connection [] with
          | none => exact .inr rfl
          | some read =>
              obtain ⟨taken, session⟩ := read
              have hnone : taken = 0 := Nat.le_zero.mp (tls.readTls_le _ _ _ _ hread)
              subst hnone
              exact .inl rfl

/-- A read of length zero closes the connection only where it ends the reads. -/
theorem readLoop_eof (tls : Rustls σ) (limits : WorkerLimits) (now : Instant) :
    ∀ (reads : Nat) (c : Connection σ) (socket : List IoRead),
      (readLoop tls limits now reads c socket).closed = true →
      (readLoop tls limits now reads c socket).lastRead = some (.ok []) →
      c.endsAtEof tls reads socket = true := by
  intro reads
  induction reads with
  | zero =>
      intro c socket hclosed _
      cases hclosed
  | succ reads ih =>
      intro c socket hclosed hlast
      have heof : socketAnswer socket = .ok [] →
          (c.readOnce tls socket).1 = .ok [] ∨ (c.readOnce tls socket).1 = .failed :=
        readOnce_eof tls c
      unfold readLoop at hclosed hlast
      unfold Connection.endsAtEof
      rcases hread : c.readOnce tls socket with ⟨answer, c₁, rest⟩
      rw [hread] at hclosed hlast heof
      cases answer with
      | wouldBlock => cases hclosed
      | failed =>
          injection hlast with hlast
          exact beq_iff_eq.mpr hlast
      | interrupted =>
          have hgoes : socketAnswer socket ≠ .ok [] := fun h => by
            rcases heof h with h | h <;> cases h
          exact ih c₁ rest hclosed (after_eof 0 hgoes hlast)
      | ok received =>
          cases received with
          | nil => exact hclosed
          | cons byte bytes =>
              have hgoes : socketAnswer socket ≠ .ok [] := fun h => by
                rcases heof h with h | h <;> cases h
              dsimp only at hclosed hlast ⊢
              split at hclosed
              next c₂ hreceive =>
                rw [hreceive] at hlast
                have hssl : c₁.ssl = c₂.ssl := by
                  rw [← receive_ssl limits now c₁ (byte :: bytes), hreceive]
                rw [endsAtEof_congr tls reads rest hssl]
                exact ih c₂ rest hclosed (after_eof (byte :: bytes).length hgoes hlast)
              · cases hclosed

/-- A connection that a read of length zero closes has noticed the half-close. -/
theorem connectionReady_eof {tls : Rustls σ} {limits : WorkerLimits} {now : Instant}
    {socket : List IoRead} (hclosed : (connectionReady tls limits now c socket).closed = true)
    (hsite : (connectionReady tls limits now c socket).closeSite = .readClosed) :
    c.noticesHalfClose tls .connectionReady socket = true := by
  have hlast : (connectionReady tls limits now c socket).lastRead = some (.ok []) := by
    unfold ReadPass.closeSite at hsite
    split at hsite
    next hnil => exact hnil
    · cases hsite
    · cases hsite
  unfold connectionReady at hclosed hlast
  unfold Connection.noticesHalfClose
  split_ifs at hclosed hlast with hhandling
  · rw [if_pos hhandling]
    exact discardLoop_eof _ _ _ _ hlast
  · rw [if_neg hhandling]
    exact readLoop_eof _ _ _ _ _ _ hclosed hlast

/-! ## §3. Every run. -/

/-- What removes a connection on account of a half-close has found its response
written. -/
theorem Cause.outlastsHalfClose {env : Env σ} {event : TurnEvent} {s₀ s : Seat σ}
    {id : ConnectionId} {site : RemovalSite} (hcause : Cause env event s₀ s c site)
    (hguard : halfCloseAfterAnswer env.tls.toRustls (.turn id event env.toIo s₀) = true)
    {c₀ : Connection σ} (hfound : s₀.connection = some c₀) (hc : s.connection = some c)
    (hdispatched : s.log.any Act.isDispatch = true) (hsite : site.onHalfClose = true) :
    c₀.answered env.tls.toRustls = true := by
  have hanswered : s₀.log.any Act.isDispatch = true →
      c₀.noticesHalfClose env.tls.toRustls event env.reads = true →
      c₀.answered env.tls.toRustls = true := by
    intro hreceived hnotices
    simpa [halfCloseAfterAnswer, hfound, hreceived, hnotices] using hguard
  cases hcause with
  | clientClosed half hevent hfirst hoffset =>
      subst hevent hfirst
      obtain rfl : c = c₀ := Option.some.inj (hc.symm.trans hfound)
      have hhalf : half = true := hsite
      apply hanswered hdispatched
      simp [Connection.noticesHalfClose, hhalf, hoffset]
  | closed c₁ hevent hfound' hclosed _ hlog =>
      obtain rfl : c₁ = c₀ := Option.some.inj (hfound'.symm.trans hfound)
      subst hevent
      apply hanswered
      · obtain ⟨verdicts, hlog, hwaits⟩ := hlog
        rw [hlog, List.any_append, Bool.or_eq_true] at hdispatched
        rcases hdispatched with hbefore | hlater
        · exact hbefore
        · obtain ⟨act, hact, hdispatch⟩ := List.any_eq_true.mp hlater
          obtain ⟨verdict, hverdict, rfl⟩ := List.mem_map.mp hact
          rw [hwaits verdict hverdict] at hdispatch
          cases hdispatch
      · apply connectionReady_eof hclosed
        unfold ReadPass.closeSite at hsite ⊢
        split at hsite
        · rfl
        · cases hsite
        · cases hsite
  | _ => cases hsite

/-- The removals in a turn that found the seat like this. -/
def halfCloseRule (cfg : Config σ) (found : Seat σ) : SeatRule cfg where
  Inv _ _ := True
  Gone trace := ∃ log site unsent wantsWrite, trace = log ++ [.removed site unsent wantsWrite]
    ∧ (log.any Act.isDispatch = true → site.onHalfClose = true →
      ∃ c, found.connection = some c ∧ found.log <+: log ∧ c.answered cfg.tls.toRustls = true)
  Guard item := halfCloseAfterAnswer cfg.tls.toRustls item = true
    ∧ ∀ id event io found', item = .turn id event io found' → found' = found
  fresh _ _ := trivial
  poll _ _ := trivial
  move := by
    intro env id io event s₀ s s' c₀ c henv hio hguard hfound _ _ hc hkept _ hmove
    subst henv hio
    obtain rfl := hguard.2 _ _ _ _ rfl
    refine ⟨fun _ _ => trivial, fun hnone => ?_⟩
    rcases hmove.removal hc hnone with ⟨site, hcause, rfl⟩ | ⟨acts, c', rfl⟩
    · refine ⟨s.log, site, _, _, rfl, ?_⟩
      intro hdispatched hsite
      exact ⟨c₀, hfound, hkept.log, hcause.outlastsHalfClose hguard.1 hfound hc hdispatched hsite⟩
    · exact ⟨s.log ++ acts, _, _, _, rfl, fun _ hsite => by cases hsite⟩

/-- A turn that removes a connection on account of a half-close found its response
written. -/
theorem turn_outlastsHalfClose {io : Io} {id : ConnectionId} {event : TurnEvent}
    (hstart : w.Startable id event) (hrun : w.runTurn cfg io id event = .ok w')
    (hguard : ∀ item ∈ w'.history, halfCloseAfterAnswer cfg.tls.toRustls item = true)
    (h : Throughout (OutlastsHalfClose cfg.tls.toRustls) w.history) :
    Throughout (OutlastsHalfClose cfg.tls.toRustls) w'.history := by
  obtain ⟨t, ht, rfl⟩ := runTurn_eq hrun
  refine h.append ?_
  intro before item after heq
  cases item with
  | turn | registered => trivial
  | removed id' trace =>
      obtain ⟨occ, hget, hgen, rfl, rfl, hnone, rfl⟩ := removed_by_turn hrun heq
      have hcur := view_current hget hgen
      have hsteps := handleTurn_steps hcur (hstart occ hget hgen) ht
      have hcall : halfCloseAfterAnswer cfg.tls.toRustls
          (.turn id' event io (w.view id').toSeat) = true := by
        apply hguard
        refine List.mem_append_right _ ?_
        rw [heq]
        exact List.mem_append_left _ List.mem_cons_self
      have hmid : (halfCloseRule cfg (w.view id').toSeat).Mid t.toSeat := SeatRule.Mid.path
        (show (w.env cfg io).toConfig = cfg from rfl)
        ⟨hcall, fun _ _ _ _ hitem => by cases hitem; rfl⟩
        hcur.connection (hstart occ hget hgen) trivial hsteps.path
      obtain ⟨log, site, unsent, wantsWrite, hlog, hanswered⟩ := (hmid.2 hnone).1
      refine ⟨log, site, unsent, wantsWrite, hlog, fun hdispatched hsite => ?_⟩
      obtain ⟨c, hc, hprefix, hwritten⟩ := hanswered hdispatched hsite
      exact ⟨event, io, _, c, by rw [List.getLast?_concat], hc, hprefix, hwritten⟩

theorem Reachable.outlastsHalfClose (h : Reachable cfg w)
    (hguard : ∀ item ∈ w.history, halfCloseAfterAnswer cfg.tls.toRustls item = true) :
    Throughout (OutlastsHalfClose cfg.tls.toRustls) w.history := by
  obtain ⟨w₀, hnew, hpath⟩ := h.atoms
  clear h
  induction hpath with
  | refl =>
      rw [new_history hnew]
      exact throughout_nil
  | tail _ hatom ih =>
      obtain ⟨items, hitems⟩ := atom_history hatom
      refine atom_throughout hatom (ih ?_) (fun _ _ => trivial)
        (fun hstart hrun => turn_outlastsHalfClose hstart hrun hguard (ih ?_))
      all_goals
        intro item hitem
        apply hguard
        rw [hitems]
        exact List.mem_append_left _ hitem

end Thwip.Readiness
