/-
  Thwip.IoUring.Timeouts — what the pass of the proxy timeouts does to slow clients.

  `check_proxy_timeouts` passes over a connection with a send in flight.  That is
  enough: whenever a connection has something for its client, a send is in flight
  for it, as long as the session hands out what it has been given.
-/
import Thwip.IoUring.Occupation

namespace Thwip.IoUring

open Thwip.Lib

variable {σ : Type} {cfg : Config σ} {env : Env σ} {w w' : IoUringWorker σ} {tls : Rustls σ}
  {c c₁ c' : UringConnection σ} {next : Next} {acts : List Act} {pushed : List ConnectionOp}
  {clears : Nat}

/-! ## §1. What is relied on of a session. -/

/-- A new session handshakes, application data comes from an established session
only, and an established session stays established; what it is given it encrypts at once, and `write_tls`
hands out some of what there is to send. -/
structure Flushes (tls : Rustls σ) : Prop where
  serverConnection_handshakes : ∀ config s, tls.serverConnection config = some s →
    tls.isHandshaking s = true
  readToEnd_established : ∀ s, (tls.readToEnd s).1 ≠ [] →
    tls.isHandshaking (tls.readToEnd s).2.2 = false
  readTls_keeps : ∀ s bytes n s', tls.isHandshaking s = false →
    tls.readTls s bytes = some (n, s') → tls.isHandshaking s' = false
  processNewPackets_keeps : ∀ s s', tls.isHandshaking s = false →
    tls.processNewPackets s = some s' → tls.isHandshaking s' = false
  readToEnd_keeps : ∀ s, tls.isHandshaking s = false →
    tls.isHandshaking (tls.readToEnd s).2.2 = false
  write_keeps : ∀ s bytes n s', tls.isHandshaking s = false →
    tls.write s bytes = some (n, s') → tls.isHandshaking s' = false
  writeTls_keeps : ∀ s bytes s', tls.isHandshaking s = false →
    tls.writeTls s = some (bytes, s') → tls.isHandshaking s' = false
  write_encrypts : ∀ s bytes n s', tls.isHandshaking s = false → bytes ≠ [] →
    tls.write s bytes = some (n, s') → tls.wantsWrite s' = true
  writeTls_ne_nil : ∀ s bytes s', tls.wantsWrite s = true →
    tls.writeTls s = some (bytes, s') → bytes ≠ []

theorem Flushes.intake_keeps (h : Flushes tls) {ssl ssl' : UringSslSession σ} {taken : Nat}
    {received plaintext : List UInt8}
    (hintake : ssl.intake tls received = some (taken, plaintext, ssl')) :
    (tls.isHandshaking ssl.connection = false → tls.isHandshaking ssl'.connection = false)
    ∧ (plaintext ≠ [] → tls.isHandshaking ssl'.connection = false) := by
  unfold UringSslSession.intake at hintake
  split at hintake
  · cases hintake
  next taken₁ session₁ hread =>
    split at hintake
    · cases hintake
    next session₂ hprocess =>
      have hend : plaintext = (tls.readToEnd session₂).1
          ∧ ssl'.connection = (tls.readToEnd session₂).2.2 := by
        split at hintake
        · cases hintake
        next plaintext₁ fin session₃ _ hreadToEnd =>
          injection hintake with hintake
          injection hintake with _ hintake
          injection hintake with hplaintext hssl
          rw [hreadToEnd, ← hplaintext, ← hssl]
          exact ⟨rfl, rfl⟩
      rw [hend.1, hend.2]
      exact ⟨fun hopen => h.readToEnd_keeps _ (h.processNewPackets_keeps _ _
        (h.readTls_keeps _ _ _ _ hopen hread) hprocess), h.readToEnd_established _⟩

/-! ## §2. Whatever there is to send is being sent. -/

/-- While `sends` does not hold, something to send means a send in flight; before
the session is established there is nothing to send. -/
structure UringConnection.Flushing (tls : Rustls σ) (sends : Prop) (c : UringConnection σ) :
    Prop where
  within : c.sslWriteOffset ≤ c.sslWriteBuffer.length
  unsent : c.unsent ≠ [] → c.writePending = true ∨ sends
  waiting : ∀ ssl, c.ssl = some ssl → tls.isHandshaking ssl.connection = true →
    c.proxy = none ∧ c.staticStream = none ∧ c.writeBuffer.length ≤ c.writeOffset
  established : ∀ ssl, c.ssl = some ssl → tls.isHandshaking ssl.connection = false →
    c.writeOffset < c.writeBuffer.length ∨ tls.wantsWrite ssl.connection = true →
    c.writePending = true ∨ sends

theorem UringConnection.Flushing.mono {p q : Prop} (h : c.Flushing tls p) (hpq : p → q) :
    c.Flushing tls q where
  within := h.within
  unsent hunsent := (h.unsent hunsent).imp_right hpq
  waiting := h.waiting
  established ssl hssl hopen hmore := (h.established ssl hssl hopen hmore).imp_right hpq

/-- A change that touches neither output nor session, and no upstream exchange or
file of a connection without a session. -/
theorem UringConnection.Flushing.congr {p : Prop} (h : c.Flushing tls p)
    (hssl : c₁.ssl = c.ssl) (hbuffer : c₁.writeBuffer = c.writeBuffer)
    (hoffset : c₁.writeOffset = c.writeOffset) (htls : c₁.sslWriteBuffer = c.sslWriteBuffer)
    (htlsOffset : c₁.sslWriteOffset = c.sslWriteOffset)
    (hpending : c₁.writePending = c.writePending)
    (hproxy : c.proxy = none → c₁.proxy = none)
    (hstream : c.staticStream = none → c₁.staticStream = none) : c₁.Flushing tls p where
  within := by rw [htls, htlsOffset]; exact h.within
  unsent := by
    unfold UringConnection.unsent
    rw [hssl, hbuffer, hoffset, htls, htlsOffset, hpending]
    exact h.unsent
  waiting := by
    intro ssl hc hhand
    rw [hssl] at hc
    obtain ⟨hp, hs, hle⟩ := h.waiting ssl hc hhand
    exact ⟨hproxy hp, hstream hs, by rw [hbuffer, hoffset]; exact hle⟩
  established := by
    rw [hssl, hbuffer, hoffset, hpending]
    exact h.established

/-- A response is queued on a connection whose session is established. -/
theorem UringConnection.Flushing.queued {p : Prop} (h : c.Flushing tls p)
    (hopen : ∀ ssl, c.ssl = some ssl → tls.isHandshaking ssl.connection = false)
    {response : List UInt8} (hssl : c₁.ssl = c.ssl)
    (htls : c₁.sslWriteBuffer = c.sslWriteBuffer)
    (htlsOffset : c₁.sslWriteOffset = c.sslWriteOffset) :
    (c₁.queueResponse response).Flushing tls (Next.send = .send) where
  within := by
    show c₁.sslWriteOffset ≤ c₁.sslWriteBuffer.length
    rw [htls, htlsOffset]
    exact h.within
  unsent _ := .inr rfl
  waiting := by
    intro ssl hc hhand
    have hc' : c.ssl = some ssl := by rw [← hssl]; exact hc
    rw [hopen ssl hc'] at hhand
    cases hhand
  established _ _ _ _ := .inr rfl

theorem UringConnection.Flushing.of_proxy {p : Prop} (h : c.Flushing tls p) {proxy : UringProxy}
    (hproxy : c.proxy = some proxy) :
    ∀ ssl, c.ssl = some ssl → tls.isHandshaking ssl.connection = false := by
  intro ssl hssl
  by_contra hhand
  obtain ⟨hnone, -, -⟩ := h.waiting ssl hssl (by simpa using hhand)
  rw [hproxy] at hnone
  cases hnone

theorem UringConnection.Flushing.of_stream {p : Prop} (h : c.Flushing tls p)
    (hstream : c.staticStream.isSome = true) :
    ∀ ssl, c.ssl = some ssl → tls.isHandshaking ssl.connection = false := by
  intro ssl hssl
  by_contra hhand
  obtain ⟨-, hnone, -⟩ := h.waiting ssl hssl (by simpa using hhand)
  rw [hnone] at hstream
  cases hstream

/-- The session after a refill is established if it was before. -/
theorem fillOutput_keeps (h : Flushes tls) (hfill : c.fillOutput tls = some (c₁, acts))
    (hopen : ∀ ssl, c.ssl = some ssl → tls.isHandshaking ssl.connection = false) :
    ∀ ssl, c₁.ssl = some ssl → tls.isHandshaking ssl.connection = false := by
  unfold UringConnection.fillOutput at hfill
  split at hfill
  · cases hfill
    exact hopen
  next ssl hssl =>
    split_ifs at hfill
    · unfold UringConnection.refill at hfill
      dsimp only at hfill
      split at hfill
      · cases hfill
      next written session hwrite =>
        have hsession : tls.isHandshaking session = false := by
          split_ifs at hwrite
          · exact h.write_keeps _ _ _ _ (hopen ssl hssl) hwrite
          · cases hwrite
            exact hopen ssl hssl
        split at hfill
        · cases hfill
        next bytes session' hproduced =>
          cases hfill
          intro ssl' hssl'
          cases hssl'
          split_ifs at hproduced
          · exact h.writeTls_keeps _ _ _ hsession hproduced
          · cases hproduced
            exact hsession
    · cases hfill
      exact hopen

/-- If nothing comes out of the session, there was nothing for it. -/
theorem fillOutput_idle (h : Flushes tls) {p : Prop} (hc : c.Flushing tls p)
    (hfill : c.fillOutput tls = some (c₁, acts)) (hunsent : c₁.unsent = []) :
    (∀ ssl, c₁.ssl = some ssl → c₁.writeBuffer.length ≤ c₁.writeOffset
      ∧ tls.wantsWrite ssl.connection = false ∧ c.ssl = some ssl)
    ∧ c₁.sslWriteOffset ≤ c₁.sslWriteBuffer.length := by
  unfold UringConnection.fillOutput at hfill
  split at hfill
  next hssl =>
    cases hfill
    refine ⟨?_, hc.within⟩
    intro ssl hssl'
    rw [hssl] at hssl'
    cases hssl'
  next ssl hssl =>
    split_ifs at hfill with hsent
    · unfold UringConnection.refill at hfill
      dsimp only at hfill
      split at hfill
      · cases hfill
      next written session hwrite =>
        split at hfill
        · cases hfill
        next bytes session' hproduced =>
          cases hfill
          have hbytes : bytes = [] := by simpa [UringConnection.unsent] using hunsent
          subst hbytes
          have hquiet : tls.wantsWrite session = false ∧ session' = session := by
            split_ifs at hproduced with hwants
            · exact absurd rfl (h.writeTls_ne_nil _ _ _ hwants hproduced)
            · cases hproduced
              exact ⟨by simpa using hwants, rfl⟩
          have hidle : ¬ c.writeOffset < c.writeBuffer.length := by
            intro hmore
            rw [if_pos hmore] at hwrite
            have hopen : tls.isHandshaking ssl.connection = false := by
              by_contra hhand
              have hle := (hc.waiting ssl hssl (by simpa using hhand)).2.2
              omega
            have hwants := h.write_encrypts _ _ _ _ hopen (by simpa using hmore) hwrite
            rw [hquiet.1] at hwants
            cases hwants
          rw [if_neg hidle] at hwrite
          cases hwrite
          refine ⟨?_, Nat.zero_le _⟩
          intro ssl' hssl'
          cases hssl'
          refine ⟨Nat.not_lt.mp hidle, ?_, ?_⟩
          · rw [hquiet.2]
            exact hquiet.1
          · rw [hquiet.2]
            exact hssl
    · cases hfill
      have hall : c.sslWriteBuffer.length ≤ c.sslWriteOffset := by
        simpa [UringConnection.unsent, hssl] using hunsent
      exact absurd (Nat.le_antisymm hc.within hall) hsent

theorem fillOutput_frame (hfill : c.fillOutput tls = some (c₁, acts)) :
    c₁.proxy = c.proxy ∧ c₁.staticStream = c.staticStream ∧ c₁.writeBuffer = c.writeBuffer
      ∧ c.writeOffset ≤ c₁.writeOffset
      ∧ (c.sslWriteOffset ≤ c.sslWriteBuffer.length →
        c₁.sslWriteOffset ≤ c₁.sslWriteBuffer.length) := by
  rcases fillOutput_cases hfill with ⟨rfl, -, -⟩ | ⟨_, _, _, _, -, -, -, rfl, -⟩
  · exact ⟨rfl, rfl, rfl, Nat.le_refl _, id⟩
  · exact ⟨rfl, rfl, rfl, Nat.le_add_right _ _, fun _ => Nat.zero_le _⟩

/-- Before the session is established, a refill changes nothing but the session
and its output. -/
theorem fillOutput_waiting (h : Flushes tls) {p : Prop} (hc : c.Flushing tls p)
    (hfill : c.fillOutput tls = some (c₁, acts)) :
    ∀ ssl, c₁.ssl = some ssl → tls.isHandshaking ssl.connection = true →
      c₁.proxy = none ∧ c₁.staticStream = none ∧ c₁.writeBuffer.length ≤ c₁.writeOffset := by
  intro ssl hssl hhand
  obtain ⟨hproxy, hstream, hbuffer, hoffset, -⟩ := fillOutput_frame hfill
  -- otherwise the session would have stayed established
  have hbefore : ∃ ssl₀, c.ssl = some ssl₀ ∧ tls.isHandshaking ssl₀.connection = true := by
    by_contra hnone
    have hopen := fillOutput_keeps h hfill (fun ssl₀ hssl₀ => by
      by_contra hhand₀
      exact hnone ⟨ssl₀, hssl₀, by simpa using hhand₀⟩) ssl hssl
    rw [hopen] at hhand
    cases hhand
  obtain ⟨ssl₀, hssl₀, hhand₀⟩ := hbefore
  obtain ⟨hp, hs, hle⟩ := hc.waiting ssl₀ hssl₀ hhand₀
  exact ⟨hproxy.trans hp, hstream.trans hs, by rw [hbuffer]; omega⟩

/-- **The final call of a turn sends what there is to send.** -/
theorem Finish.flushing (h : Flushes env.tls) (hc : c.Flushing env.tls (next = .send))
    (hfinish : Finish env clears c next c' pushed acts) : c'.Flushing env.tls False := by
  cases hfinish with
  | done => exact hc.mono (fun heq => by cases heq)
  | sendBusy hpending =>
      exact ⟨hc.within, fun _ => .inl hpending, hc.waiting, fun _ _ _ _ => .inl hpending⟩
  | sendIdle c₁ _ _ hfill hunsent =>
      obtain ⟨hidle, hwithin⟩ := fillOutput_idle h hc hfill hunsent
      refine ⟨hwithin, fun hne => absurd hunsent hne, fillOutput_waiting h hc hfill, ?_⟩
      intro ssl hssl _ hmore
      obtain ⟨hle, hquiet, -⟩ := hidle ssl hssl
      rcases hmore with hlt | hwants
      · omega
      · rw [hquiet] at hwants
        cases hwants
  | sent c₁ _ _ hfill _ =>
      have hwaiting := fillOutput_waiting h hc hfill
      exact ⟨(fillOutput_frame hfill).2.2.2.2 hc.within, fun _ => .inl rfl, hwaiting,
        fun _ _ _ _ => .inl rfl⟩
  | recvBusy => exact hc.mono (fun heq => by cases heq)
  | recv => exact (hc.mono (fun heq => by cases heq)).congr rfl rfl rfl rfl rfl rfl id id
  | upstream next op hkind proxy hproxy =>
      have hnot : next ≠ .send := by
        rintro rfl
        cases hkind
      refine (hc.mono (fun heq => absurd heq hnot)).congr rfl rfl rfl rfl rfl rfl ?_ id
      intro hnone
      rw [hproxy] at hnone
      cases hnone

theorem StreamMove.flushing (hc : c.Flushing tls False) (hstream : c.staticStream.isSome = true)
    (hmove : StreamMove c next (some c₁) acts) : c₁.Flushing tls (next = .send) := by
  cases hmove with
  | data => exact hc.queued (hc.of_stream hstream) rfl rfl rfl
  | pending => exact hc.mono False.elim

theorem FailMove.flushing (hc : c.Flushing tls False)
    (hopen : ∀ ssl, c.ssl = some ssl → tls.isHandshaking ssl.connection = false)
    (hmove : FailMove c next (some c₁) acts) : c₁.Flushing tls (next = .send) := by
  cases hmove
  exact hc.queued hopen rfl rfl rfl

theorem AddressMove.flushing {proxy : UringProxy} (hc : c.Flushing tls False)
    (hproxy : c.proxy = some proxy) (hmove : AddressMove env c proxy next (some c₁) acts) :
    c₁.Flushing tls (next = .send) := by
  cases hmove with
  | found =>
      refine (hc.mono False.elim).congr rfl rfl rfl rfl rfl rfl ?_ id
      intro hnone
      rw [hproxy] at hnone
      cases hnone
  | exhausted => exact hc.queued (hc.of_proxy hproxy) rfl rfl rfl

theorem UringConnection.Flushing.setProxy {p : Prop} (hc : c.Flushing tls p) {proxy : UringProxy}
    (hproxy : c.proxy = some proxy) (proxy₁ : UringProxy) :
    (c.setProxy proxy₁).Flushing tls p := by
  refine hc.congr rfl rfl rfl rfl rfl rfl ?_ id
  intro hnone
  rw [hproxy] at hnone
  cases hnone

theorem advance_waiting {n : Nat} {p : Prop} (hc : c.Flushing tls p) :
    ∀ ssl, (c.advance n).ssl = some ssl → tls.isHandshaking ssl.connection = true →
      c.proxy = none ∧ c.staticStream = none
        ∧ (c.advance n).writeBuffer.length ≤ (c.advance n).writeOffset := by
  intro ssl hssl hhand
  have hsame : (c.advance n).ssl = c.ssl := by
    unfold UringConnection.advance
    split_ifs <;> rfl
  rw [hsame] at hssl
  obtain ⟨hproxy, hstream, hle⟩ := hc.waiting ssl hssl hhand
  refine ⟨hproxy, hstream, ?_⟩
  unfold UringConnection.advance
  rw [hssl]
  exact hle

theorem advance_within {n : Nat} (hlen : n ≤ c.unsent.length)
    (h : c.sslWriteOffset ≤ c.sslWriteBuffer.length) :
    (c.advance n).sslWriteOffset ≤ (c.advance n).sslWriteBuffer.length := by
  unfold UringConnection.advance
  unfold UringConnection.unsent at hlen
  split_ifs with hssl
  · rw [if_pos hssl, List.length_drop] at hlen
    show c.sslWriteOffset + n ≤ c.sslWriteBuffer.length
    omega
  · exact h

/-- With the output drained, the buffer is cleared and nothing is left to send. -/
theorem drained_flushing {n : Nat} {p q : Prop} (hc : c.Flushing tls q)
    (hlen : n ≤ c.unsent.length) (hdrained : (c.advance n).outputDrained tls = true) :
    (c.advance n).clearOutput.Flushing tls p := by
  obtain ⟨-, hunsent, hquiet⟩ := UringConnection.outputDrained_spec hdrained
  refine ⟨advance_within hlen hc.within, ?_, ?_, ?_⟩
  · intro hne
    exfalso
    unfold UringConnection.unsent at hunsent hne
    show False
    by_cases hssl : (c.advance n).ssl.isSome = true
    · rw [if_pos hssl] at hunsent
      exact hne (by
        rw [if_pos (show (c.advance n).clearOutput.ssl.isSome = true from hssl)]
        exact hunsent)
    · exact hne (by rw [if_neg (show ¬ (c.advance n).clearOutput.ssl.isSome = true from hssl)]; rfl)
  · intro ssl hssl hhand
    obtain ⟨hproxy, hstream, -⟩ := advance_waiting hc ssl hssl hhand
    exact ⟨(UringConnection.advance_proxy c n).trans hproxy,
      (UringConnection.advance_staticStream c n).trans hstream, Nat.le_refl _⟩
  · intro ssl hssl _ hmore
    exfalso
    rcases hmore with hlt | hwants
    · exact absurd hlt (Nat.lt_irrefl 0)
    · unfold UringConnection.wantsWrite at hquiet
      rw [show (c.advance n).ssl = some ssl from hssl, Option.any_some, hwants] at hquiet
      cases hquiet

theorem WriteMove.flushing {submitted : List UInt8} {result : Int}
    (hc : c.Flushing env.tls True)
    (hmove : WriteMove env submitted result c next (some c₁) acts) :
    c₁.Flushing env.tls (next = .send) := by
  cases hmove with
  | retry => exact hc.mono (fun _ => rfl)
  | more _ hlen _ =>
      refine ⟨advance_within hlen hc.within, fun _ => .inr rfl, ?_, fun _ _ _ _ => .inr rfl⟩
      intro ssl hssl hhand
      obtain ⟨hproxy, hstream, hle⟩ := advance_waiting hc ssl hssl hhand
      exact ⟨(UringConnection.advance_proxy c _).trans hproxy,
        (UringConnection.advance_staticStream c _).trans hstream, hle⟩
  | stream _ hlen hdrained hstream _ _ _ hmove =>
      refine hmove.flushing (drained_flushing hc hlen hdrained) ?_
      show (c.advance _).staticStream.isSome = true
      rw [UringConnection.advance_staticStream]
      exact hstream
  | proxy _ hlen hdrained _ proxy hproxy =>
      have hkept : (c.advance result.toNat).clearOutput.proxy = some proxy :=
        (UringConnection.advance_proxy c _).trans hproxy
      exact (drained_flushing hc hlen hdrained).setProxy hkept _
  | close _ hlen hdrained hstream hproxy ssl hssl _ =>
      refine ⟨advance_within hlen hc.within, fun _ => .inr rfl, ?_, fun _ _ _ _ => .inr rfl⟩
      intro ssl' _ _
      exact ⟨(UringConnection.advance_proxy c _).trans hproxy,
        (UringConnection.advance_staticStream c _).trans hstream,
        List.drop_eq_nil_iff.mp (UringConnection.outputDrained_spec hdrained).1⟩

/-- The completed send is no longer in flight. -/
theorem UringConnection.Flushing.markWriteCompleted (hc : c.Flushing tls False) :
    c.markWriteCompleted.Flushing tls True :=
  ⟨hc.within, fun _ => .inr trivial, hc.waiting, fun _ _ _ _ => .inr trivial⟩

/-- **Every move leaves something to send only if a send is in flight or follows.** -/
theorem Move.flushing {event : TurnEvent} {ops ops₀ : List ConnectionOp}
    (hready : Ready cfg env.now c event ops ops₀) (hc : c.Flushing env.tls False)
    (hmove : Move env event c next (some c₁) acts) : c₁.Flushing env.tls (next = .send) := by
  cases hmove with
  | accepted | recvBroken | noProxy | upstreamBroken | notResolving | expiredMissing
  | pumpMissing => exact hc.mono False.elim
  | recvRetry => exact (hc.mono False.elim).congr rfl rfl rfl rfl rfl rfl id id
  | write hmove => exact hmove.flushing hc.markWriteCompleted
  | connectFailed proxy hproxy _ hmove | writeFailed proxy hproxy _ hmove
  | readFailed proxy hproxy _ hmove =>
      have hcompleted := hc.setProxy hproxy proxy.completed
      exact hmove.flushing hcompleted (hcompleted.of_proxy rfl)
  | connectNext proxy hproxy hmove =>
      exact hmove.flushing (hc.setProxy hproxy proxy.completed) rfl
  | connected proxy hproxy | writeRetry proxy hproxy | wroteSome proxy hproxy
  | wroteAll proxy hproxy | readRetry proxy hproxy | expiredPending proxy hproxy =>
      exact (hc.mono False.elim).setProxy hproxy _
  | chunk proxy hproxy => exact hc.queued (hc.of_proxy hproxy) rfl rfl rfl
  | unresolved proxy hproxy => exact hc.queued (hc.of_proxy hproxy) rfl rfl rfl
  | resolved addresses proxy hproxy _ hmove => exact hmove.flushing (hc.setProxy hproxy _) rfl
  | expiredIdle hmove =>
      obtain ⟨-, -, proxy, hproxy, -, -⟩ := hready.of_expired
      exact hmove.flushing hc (hc.of_proxy hproxy)
  | pump hstream hmove => exact hmove.flushing hc hstream

/-- What was decrypted came from an established session. -/
def Decrypted (tls : Rustls σ) (plaintext : List UInt8) (c : UringConnection σ) : Prop :=
  plaintext ≠ [] → ∀ ssl, c.ssl = some ssl → tls.isHandshaking ssl.connection = false

theorem Intake.flushing (h : Flushes env.tls) {received plaintext : List UInt8}
    (hc : c.Flushing env.tls False)
    (hintake : Intake env received c.markReadCompleted next c₁ plaintext acts) :
    c₁.Flushing env.tls (next = .send) ∧ Decrypted env.tls plaintext c₁ := by
  have hread : c.markReadCompleted.Flushing env.tls False :=
    hc.congr rfl rfl rfl rfl rfl rfl id id
  cases hintake with
  | plain hssl =>
      refine ⟨hread.mono False.elim, fun _ ssl hsome => ?_⟩
      rw [hssl] at hsome
      cases hsome
  | tls ssl ssl' hssl taken _ hintake _ hnext =>
      obtain ⟨hkeeps, hplain⟩ := h.intake_keeps hintake
      refine ⟨⟨hc.within, ?_, ?_, ?_⟩, ?_⟩
      · intro hunsent
        have hsame : (c.markReadCompleted.setSsl ssl').unsent = c.unsent := by
          have hsome : c.ssl.isSome = true := by rw [show c.ssl = some ssl from hssl]; rfl
          unfold UringConnection.unsent
          rw [if_pos hsome]
          rfl
        rw [hsame] at hunsent
        exact (hc.unsent hunsent).imp_right False.elim
      · intro ssl₁ hssl₁ hhand
        cases hssl₁
        refine hc.waiting ssl hssl ?_
        by_contra hopen
        rw [hkeeps (by simpa using hopen)] at hhand
        cases hhand
      · intro ssl₁ hssl₁ _ hmore
        cases hssl₁
        by_cases hwants : env.tls.wantsWrite ssl'.connection = true
        · exact .inr (by rw [hnext, if_pos hwants])
        · rcases hmore with hlt | hwants'
          · -- before the session was established there was no response
            have hopen : env.tls.isHandshaking ssl.connection = false := by
              by_contra hhand
              have hle := (hc.waiting ssl hssl (by simpa using hhand)).2.2
              exact absurd hlt (Nat.not_lt.mpr hle)
            exact (hc.established ssl hssl hopen (.inl hlt)).imp_right False.elim
          · exact absurd hwants' hwants
      · intro hne ssl₁ hssl₁
        cases hssl₁
        exact hplain hne

theorem PlaintextMove.flushing {received : List UInt8} (hc : c.Flushing env.tls False)
    (hgot : Decrypted env.tls received c)
    (hmove : PlaintextMove env received c next (some c₁) acts) :
    c₁.Flushing env.tls (next = .send) := by
  cases hmove with
  | empty => exact hc.mono False.elim
  | waiting _ hreceive =>
      obtain ⟨_, _, _, rfl⟩ := receiveRequest_frame hreceive
      exact (hc.mono False.elim).congr rfl rfl rfl rfl rfl rfl id id
  | rejected _ _ _ _ _ hreceive _ hsome =>
      obtain ⟨_, _, _, rfl⟩ := receiveRequest_frame hreceive
      exact hc.queued (hgot hsome) rfl rfl rfl
  | dispatched _ _ _ _ _ _ hreceive hanswer hsome =>
      obtain ⟨_, _, _, rfl⟩ := receiveRequest_frame hreceive
      cases hanswer with
      | respond | static | proxyError => exact hc.queued (hgot hsome) rfl rfl rfl
      | resolving =>
          refine ⟨hc.within, fun hunsent => (hc.unsent hunsent).imp_right False.elim, ?_,
            fun ssl hssl hopen hmore => (hc.established ssl hssl hopen hmore).imp_right False.elim⟩
          intro ssl hssl hhand
          rw [hgot hsome ssl hssl] at hhand
          cases hhand
      | balancerPanic => exact (hc.mono False.elim).congr rfl rfl rfl rfl rfl rfl id id

def flushingRule (cfg : Config σ) (h : Flushes cfg.tls) : StateRule cfg where
  Inv c := c.Flushing cfg.tls False
  Mid next c := c.Flushing cfg.tls (next = .send)
  Got plaintext c := Decrypted cfg.tls plaintext c
  Op _ := True
  Guard _ := True
  fresh := by
    intro generation c hfresh
    cases hfresh with
    | mk socket listenerIndex ssl _ _ _ hsession =>
        refine ⟨⟨Nat.le_refl _, ?_, fun _ _ _ => ⟨rfl, rfl, Nat.le_refl _⟩, ?_⟩, trivial⟩
        · intro hunsent
          exact absurd (by unfold UringConnection.unsent; split_ifs <;> rfl) hunsent
        · intro ssl' hssl hopen
          obtain ⟨-, config, hnew⟩ := hsession ssl' hssl
          rw [h.serverConnection_handshakes config _ hnew] at hopen
          cases hopen
  move := by
    intro env id event c c₁ next ops ops₀ acts henv _ _ hready hinv hmove
    subst henv
    exact hmove.flushing hready hinv
  intake := by
    intro env c c₁ next received plaintext acts henv hinv hintake
    subst henv
    exact hintake.flushing h hinv
  flush := by
    intro env clears c c' next plaintext pushed acts henv hgot hfinish hne
    subst henv
    have hopen := hgot hne
    cases hfinish with
    | done | sendBusy | recvBusy | recv | upstream => exact hopen
    | sendIdle _ _ _ hfill => exact fillOutput_keeps h hfill hopen
    | sent c₁ _ _ hfill =>
        have hkept := fillOutput_keeps h hfill hopen
        exact hkept
  plaintext := by
    intro env id event found c c₁ next received acts henv _ hinv hgot hmove
    subst henv
    exact hmove.flushing hinv hgot
  finish := by
    intro env clears c c' next pushed acts henv hmid hfinish
    subst henv
    exact ⟨hfinish.flushing h hmid, fun _ _ => trivial⟩

/-! ## §3. The timeouts. -/

/-- Bytes of the upstream's response have not all been sent to the client. -/
def UringConnection.awaitsClient (tls : Rustls σ) (self : UringConnection σ) : Bool :=
  self.proxy.isSome
    && (!self.unsent.isEmpty || decide (self.writeOffset < self.writeBuffer.length)
      || self.wantsWrite tls)

/-- A client with bytes to take has a send in flight, and no handshake. -/
theorem UringConnection.Flushing.awaits (hc : c.Flushing tls False)
    (h : c.awaitsClient tls = true) :
    c.writePending = true
      ∧ ∀ ssl, c.ssl = some ssl → tls.isHandshaking ssl.connection = false := by
  simp only [UringConnection.awaitsClient, Bool.and_eq_true, Bool.or_eq_true, Bool.not_eq_true',
    decide_eq_true_eq] at h
  obtain ⟨hsome, hmore⟩ := h
  obtain ⟨proxy, hproxy⟩ := Option.isSome_iff_exists.mp hsome
  have hopen := hc.of_proxy hproxy
  refine ⟨?_, hopen⟩
  have hpending : c.writePending = true ∨ False := by
    rcases hmore with (hunsent | hoffset) | hwants
    · exact hc.unsent (by simpa using hunsent)
    · cases hssl : c.ssl with
      | none =>
          refine hc.unsent ?_
          unfold UringConnection.unsent
          rw [hssl]
          simpa using hoffset
      | some ssl => exact hc.established ssl hssl (hopen ssl hssl) (.inl hoffset)
    · unfold UringConnection.wantsWrite at hwants
      obtain ⟨ssl, hssl, hwants⟩ := (Option.any_eq_true _ _).mp hwants
      exact hc.established ssl hssl (hopen ssl hssl) (.inr hwants)
  exact hpending.resolve_right id

/-- A connection that is not selected is left as it was by a pass over the slab. -/
theorem slabTurns_keeps {world : World} {select : UringConnection σ → Option TurnEvent}
    {slot : Nat} {occ : Occupant σ}
    (hrun : runTurns cfg world (slabTurns select w.connections) w = .ok w')
    (hget : w.connections.get slot = some occ) (hselect : select occ.connection = none) :
    w'.connections.get slot = some occ := by
  unfold runTurns at hrun
  refine (foldlM_ok (fun (turns : List (ConnectionId × TurnEvent)) (w₁ : IoUringWorker σ) =>
    (∀ turn ∈ turns, turn.1.slot ≠ slot) ∧ w₁.connections.get slot = some occ) ?_
    ⟨?_, hget⟩ hrun).2
  · rintro turn rest w₁ w₂ ⟨hother, hsame⟩ hstep
    refine ⟨fun turn' hturn' => hother turn' (List.mem_cons_of_mem _ hturn'), ?_⟩
    rw [runTurn_get_ne hstep (hother turn List.mem_cons_self)]
    exact hsame
  · rintro turn hturn rfl
    obtain ⟨occ', hget', -, hsome⟩ := mem_slabTurns hturn
    rw [hget] at hget'
    injection hget' with hget'
    rw [← hget', hselect] at hsome
    cases hsome

/-- The three passes of `check_proxy_timeouts` select no connection with a send in
flight and no handshake. -/
theorem checkProxyTimeouts_keeps {world : World} {slot : Nat} {occ : Occupant σ}
    (hrun : checkProxyTimeouts cfg world w = .ok w')
    (hget : w.connections.get slot = some occ) (hpending : occ.connection.writePending = true)
    (hopen : ∀ ssl, occ.connection.ssl = some ssl →
      cfg.tls.isHandshaking ssl.connection = false) :
    w'.connections.get slot = some occ := by
  have hexpired : proxyExpired cfg world.now occ.connection = none := by
    simp [proxyExpired, hpending]
  have hhandshake : handshakeOverdue cfg world.now occ.connection = none := by
    unfold handshakeOverdue
    split
    · rfl
    next ssl hssl => simp [hopen ssl hssl]
  have hpump : pumpReady occ.connection = none := by simp [pumpReady, hpending]
  unfold checkProxyTimeouts at hrun
  simp only [bind, Except.bind] at hrun
  split at hrun
  · cases hrun
  next w₁ hrun₁ =>
    have hget₁ := slabTurns_keeps hrun₁ hget hexpired
    split at hrun
    · cases hrun
    next w₂ hrun₂ =>
      have hget₂ := slabTurns_keeps hrun₂ hget₁ hhandshake
      split at hrun
      · cases hrun
      next w₃ hpush =>
        have hsame : w₃.connections = w₂.connections := by
          unfold IoUringWorker.pushEntry at hpush
          split_ifs at hpush
          injection hpush with hpush
          rw [← hpush]
        exact slabTurns_keeps hrun (by rw [hsame]; exact hget₂) hpump

/-- **The pass spares the connections whose clients have bytes to take.** -/
theorem Reachable.timeouts_spare (h : Reachable cfg w) (htls : Flushes cfg.tls) {index : Nat}
    {completion : Completion} {dns : List ResolveResult} {world : World}
    (htimer : w.inFlight[index]? = some .timerRead)
    (hrun : IoUring.step cfg (.completed index completion dns world) w = .ok w') {slot : Nat}
    {occ : Occupant σ} (hget : w.connections.get slot = some occ)
    (hawaits : occ.connection.awaitsClient cfg.tls = true) :
    w'.connections.get slot = some occ := by
  have hc := ((flushingRule cfg htls).holds h (fun _ _ => trivial)).1 slot occ hget
  obtain ⟨hpending, hopen⟩ := hc.awaits hawaits
  have hpass : checkProxyTimeouts cfg world { w with inFlight := w.inFlight.eraseIdx index }
      = .ok w' := by
    simpa only [IoUring.step, htimer, Entry.persists, Bool.false_eq_true, if_false,
      dispatchCompletion] using hrun
  exact checkProxyTimeouts_keeps hpass hget hpending hopen

end Thwip.IoUring
