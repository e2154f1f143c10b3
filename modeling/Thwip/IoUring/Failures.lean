/-
  Thwip.IoUring.Failures — what becomes of a proxied request whose upstream fails.

  While nothing of the response has been received, every failure of the exchange
  is answered with an error page.  The end of the upstream's stream is not one of
  them: it ends a response, whether or not there was one.
-/
import Thwip.IoUring.CloseNotify
import Thwip.IoUring.UpstreamOrder
import Thwip.Runtime.Exchange

namespace Thwip.IoUring

open Thwip.Lib

variable {σ : Type} {cfg : Config σ} {env : Env σ} {event : TurnEvent}
  {c c₁ c' : UringConnection σ} {next : Next} {log acts : List Act}

/-! ## §1. What is asked of a removal. -/

/-- The client's side failed. -/
def RemovalSite.clientGone : RemovalSite → Bool
  | .sendFailed | .receiveClosed | .tlsFailed | .handshakeExpired => true
  | _ => false

/-- Some of the upstream's response was received. -/
def Responded (log : List Act) : Prop := ∃ bytes, bytes ≠ [] ∧ .relayed bytes ∈ log

/-- The client was told that its upstream failed. -/
def Told (log : List Act) : Prop := ∃ response, IsGatewayError response ∧ .queued response ∈ log

/-- Bytes for the client, of its upstream or of the worker itself. -/
def Act.speaks : Act → Bool
  | .relayed bytes => !bytes.isEmpty
  | .queued _ => true
  | _ => false

theorem silent_of_not_speaks (h : log.any Act.speaks = false) : ¬ Responded log ∧ ¬ Told log := by
  rw [List.any_eq_false] at h
  constructor
  · rintro ⟨bytes, hne, hmem⟩
    exact h _ hmem (by simpa [Act.speaks] using hne)
  · rintro ⟨response, -, hmem⟩
    exact h _ hmem rfl

/-- A proxied request that got nothing from its upstream was answered with an
error before the removal, unless the client was gone. -/
def AnswersFailure (trace : List Act) : Prop :=
  ∃ log site, trace = log ++ [.removed site]
    ∧ (.proxied ∈ log → ¬ Responded log → site.clientGone = true ∨ Told log)

/-- What the kernel may report to this connection: a receive only if it waits for
one, no more bytes of a send than were left, and the end of the upstream's stream
only once a response has started. -/
def UringConnection.expects (self : UringConnection σ) : TurnEvent → Bool
  | .read .. => self.readPending
  | .write _ result => decide (result.toNat ≤ self.unsent.length)
  | .proxyRead result _ _ =>
      !(result == 0 && self.proxy.any (fun proxy => !proxy.timedOut && !proxy.responseStarted))
  | _ => true

/-- No upstream ends in this turn before it has sent anything. -/
def endsAfterResponseStart : HistoryItem σ → Bool
  | .turn id event _ (some c) => !c.matchesGeneration id.generation || c.expects event
  | _ => true

theorem isGatewayError_of_upstream {response : List UInt8} (h : IsUpstreamError response) :
    IsGatewayError response := by
  obtain ⟨error, herror, rfl⟩ := h
  have hall : ∀ error ∈ upstreamErrors, error.1 = 502 ∨ error.1 = 504 := by decide
  exact ⟨error.1, error.2, hall error herror, rfl⟩

theorem Responded.append (h : Responded log) (acts : List Act) : Responded (log ++ acts) := by
  obtain ⟨bytes, hne, hmem⟩ := h
  exact ⟨bytes, hne, List.mem_append_left _ hmem⟩

theorem Told.append (h : Told log) (acts : List Act) : Told (log ++ acts) := by
  obtain ⟨response, herror, hmem⟩ := h
  exact ⟨response, herror, List.mem_append_left _ hmem⟩

/-! ## §2. How far a request has come. -/

/-- The way of a request: it stays here, or it goes to an upstream. -/
inductive Route (c : UringConnection σ) (log : List Act) : Prop where
  | here (hproxied : .proxied ∉ log) (hproxy : c.proxy = none)
      (hreading : c.readPending = true → c.staticStream = none)
  | proxying (proxy : UringProxy) (hproxy : c.proxy = some proxy) (hread : c.readPending = false)
      (hstream : c.staticStream = none) (hstarted : proxy.responseStarted = true → Responded log)
  /-- The client was told that there is nothing from the upstream. -/
  | answered (hproxy : c.proxy = none) (hread : c.readPending = false)
      (hstream : c.staticStream = none) (htold : Told log)

/-- A connection that may receive its request. -/
structure Receptive (c : UringConnection σ) (log : List Act) : Prop where
  proxied : .proxied ∉ log
  proxy : c.proxy = none
  stream : c.staticStream = none

theorem Receptive.route (h : Receptive c log) : Route c log :=
  .here h.proxied h.proxy (fun _ => h.stream)

theorem Route.receptive (h : Route c log) (hread : c.readPending = true) : Receptive c log := by
  cases h with
  | here hproxied hproxy hreading => exact ⟨hproxied, hproxy, hreading hread⟩
  | proxying _ _ hnot => rw [hread] at hnot; cases hnot
  | answered _ hnot => rw [hread] at hnot; cases hnot

/-- The fields a route depends on, and the acts that leave it as it is. -/
structure SameRoute (c c₁ : UringConnection σ) (acts : List Act) : Prop where
  readPending : c₁.readPending = true → c.readPending = true
  proxy : c₁.proxy = c.proxy
  staticStream : c₁.staticStream = c.staticStream
  proxied : .proxied ∉ acts

theorem not_proxied_append (h : .proxied ∉ log) (h' : .proxied ∉ acts) :
    .proxied ∉ log ++ acts := by
  intro hmem
  rcases List.mem_append.mp hmem with hmem | hmem
  · exact h hmem
  · exact h' hmem

theorem Route.congr (h : Route c log) (hsame : SameRoute c c₁ acts) : Route c₁ (log ++ acts) := by
  have hread : c.readPending = false → c₁.readPending = false := by
    intro hfalse
    by_contra htrue
    rw [hsame.readPending (by simpa using htrue)] at hfalse
    cases hfalse
  cases h with
  | here hproxied hproxy hreading =>
      refine .here (not_proxied_append hproxied hsame.proxied) (hsame.proxy.trans hproxy) ?_
      intro htrue
      exact hsame.staticStream.trans (hreading (hsame.readPending htrue))
  | proxying proxy hproxy hidle hstream hstarted =>
      exact .proxying proxy (hsame.proxy.trans hproxy) (hread hidle)
        (hsame.staticStream.trans hstream) (fun hs => (hstarted hs).append acts)
  | answered hproxy hidle hstream htold =>
      exact .answered (hsame.proxy.trans hproxy) (hread hidle)
        (hsame.staticStream.trans hstream) (htold.append acts)

/-- A change of nothing that a route depends on. -/
theorem Route.keep (h : Route c log) (hread : c₁.readPending = c.readPending)
    (hproxy : c₁.proxy = c.proxy) (hstream : c₁.staticStream = c.staticStream) :
    Route c₁ log := by
  have hkept : Route c₁ (log ++ []) :=
    h.congr ⟨fun htrue => hread.symm.trans htrue, hproxy, hstream, List.not_mem_nil⟩
  rwa [List.append_nil] at hkept

theorem Receptive.congr (h : Receptive c log) (hproxy : c₁.proxy = c.proxy)
    (hstream : c₁.staticStream = c.staticStream) (hacts : .proxied ∉ acts) :
    Receptive c₁ (log ++ acts) :=
  ⟨not_proxied_append h.proxied hacts, hproxy.trans h.proxy, hstream.trans h.stream⟩

/-- The exchange goes on with another proxy state. -/
theorem Route.setProxy (h : Route c log) {proxy proxy₁ : UringProxy}
    (hproxy : c.proxy = some proxy)
    (hstarted : proxy₁.responseStarted = true → proxy.responseStarted = true
      ∨ Responded (log ++ acts)) :
    Route (c.setProxy proxy₁) (log ++ acts) := by
  cases h with
  | here _ hnone => rw [hnone] at hproxy; cases hproxy
  | proxying proxy' hp hread hstream hbefore =>
      rw [hp] at hproxy
      injection hproxy with hproxy
      subst hproxy
      refine .proxying proxy₁ rfl hread hstream ?_
      intro hs
      rcases hstarted hs with hold | hnew
      · exact (hbefore hold).append acts
      · exact hnew
  | answered hnone => rw [hnone] at hproxy; cases hproxy

/-- … or only of its state. -/
theorem Route.progress (h : Route c log) {proxy proxy₁ : UringProxy}
    (hproxy : c.proxy = some proxy)
    (hstarted : proxy₁.responseStarted = true → proxy.responseStarted = true) :
    Route (c.setProxy proxy₁) log := by
  have hnext : Route (c.setProxy proxy₁) (log ++ []) :=
    h.setProxy hproxy (fun hs => .inl (hstarted hs))
  rwa [List.append_nil] at hnext

/-- An exchange that is given up is answered. -/
theorem Route.told (h : Route c log) {response : List UInt8} (herror : IsUpstreamError response) :
    Route ({ c with proxy := none }.queueResponse response) (log ++ [.queued response]) := by
  cases h with
  | here hproxied _ hreading =>
      exact .here (not_proxied_append hproxied (by simp)) rfl hreading
  | proxying _ _ hread hstream =>
      exact .answered rfl hread hstream ⟨response, isGatewayError_of_upstream herror, by simp⟩
  | answered _ hread hstream htold => exact .answered rfl hread hstream (htold.append _)

/-! ## §3. The steps of a turn. -/

theorem fillOutput_sameRoute (h : c.fillOutput env.tls = some (c₁, acts)) :
    SameRoute c c₁ acts := by
  rcases fillOutput_cases h with ⟨rfl, rfl, -⟩ | ⟨_, _, _, _, -, -, -, rfl, rfl⟩
  · exact ⟨id, rfl, rfl, List.not_mem_nil⟩
  · exact ⟨id, rfl, rfl, by simp⟩

/-- Only a receptive connection receives. -/
theorem Route.finish {clears : Nat} {pushed : List ConnectionOp} (h : Route c log)
    (hrecv : next = .recv → Receptive c log)
    (hfinish : Finish env clears c next c' pushed acts) : Route c' (log ++ acts) := by
  cases hfinish with
  | done | sendBusy | recvBusy =>
      rw [List.append_nil]
      exact h
  | sendIdle _ _ _ hfill => exact h.congr (fillOutput_sameRoute hfill)
  | sent _ _ _ hfill =>
      have hsame := fillOutput_sameRoute hfill
      exact h.congr ⟨hsame.readPending, hsame.proxy, hsame.staticStream, hsame.proxied⟩
  | recv =>
      have hreceptive : Receptive c.markReadSubmitted (log ++ [.recvSubmitted]) :=
        (hrecv rfl).congr rfl rfl (by simp)
      exact hreceptive.route
  | upstream _ _ _ proxy hproxy => exact h.setProxy hproxy .inl

theorem Route.fail (h : Route c log) (hmove : FailMove c next (some c₁) acts) :
    Route c₁ (log ++ acts) := by
  cases hmove with
  | answered _ _ _ herror => exact h.told herror

theorem Route.address {proxy : UringProxy} (h : Route c log) (hproxy : c.proxy = some proxy)
    (hmove : AddressMove env c proxy next (some c₁) acts) : Route c₁ (log ++ acts) := by
  cases hmove with
  | found => exact h.setProxy hproxy .inl
  | exhausted _ _ herror => exact h.told herror

/-- A file is served to a request that stayed here. -/
theorem Route.file (h : Route c log) (hstream : c.staticStream.isSome = true) :
    .proxied ∉ log ∧ c.proxy = none ∧ c.readPending = false := by
  cases h with
  | here hproxied hproxy hreading =>
      refine ⟨hproxied, hproxy, ?_⟩
      by_contra htrue
      rw [hreading (by simpa using htrue)] at hstream
      cases hstream
  | proxying _ _ _ hnone => rw [hnone] at hstream; cases hstream
  | answered _ _ hnone => rw [hnone] at hstream; cases hstream

theorem Route.chunk (h : Route c log) (hstream : c.staticStream.isSome = true)
    (hmove : StreamMove c next (some c₁) acts) : Route c₁ (log ++ acts) := by
  obtain ⟨hproxied, hproxy, hread⟩ := h.file hstream
  have hidle : c.readPending = true → ∀ {p : Prop}, p := by
    intro htrue
    rw [htrue] at hread
    cases hread
  cases hmove with
  | data => exact .here (not_proxied_append hproxied (by simp)) hproxy (fun hr => hidle hr)
  | pending => exact .here (not_proxied_append hproxied (by simp)) hproxy (fun hr => hidle hr)

theorem advance_sameRoute (c : UringConnection σ) (n : Nat) (hacts : .proxied ∉ acts) :
    SameRoute c (c.advance n) acts := by
  have hsame := advance_sameOrder c n
  exact ⟨fun htrue => hsame.readPending.symm.trans htrue, hsame.proxy, hsame.staticStream, hacts⟩

theorem Route.written {submitted : List UInt8} {result : Int} (h : Route c log)
    (hmove : WriteMove env submitted result c next (some c₁) acts) :
    Route c₁ (log ++ acts) ∧ next ≠ .recv := by
  have hadvanced : ∀ {acts : List Act}, .proxied ∉ acts →
      Route (c.advance result.toNat) (log ++ acts) :=
    fun hacts => h.congr (advance_sameRoute c _ hacts)
  have hsent : ∀ bytes more, Route (c.advance result.toNat) (log ++ [.sent bytes more]) :=
    fun bytes more => hadvanced (by simp)
  have hcleared : ∀ bytes more,
      Route (c.advance result.toNat).clearOutput (log ++ [.sent bytes more]) :=
    fun bytes more => (hsent bytes more).keep rfl rfl rfl
  cases hmove with
  | retry => exact ⟨by rw [List.append_nil]; exact h, by decide⟩
  | more => exact ⟨hsent _ _, by decide⟩
  | stream _ _ _ hstream _ _ _ hmove =>
      have hsome : (c.advance result.toNat).clearOutput.staticStream.isSome = true := by
        show (c.advance result.toNat).staticStream.isSome = true
        rw [c.advance_staticStream]
        exact hstream
      rw [List.append_cons]
      exact ⟨(hcleared _ _).chunk hsome hmove, by cases hmove <;> decide⟩
  | proxy _ _ _ _ proxy hproxy =>
      have hfound : (c.advance result.toNat).clearOutput.proxy = some proxy :=
        (c.advance_proxy _).trans hproxy
      exact ⟨(hcleared _ _).progress hfound (fun hs => hs), by decide⟩
  | close _ _ _ _ _ ssl =>
      have hclosed : ∀ bytes more,
          Route (c.advance result.toNat) (log ++ [.sent bytes more, .closeNotify]) :=
        fun bytes more => hadvanced (by simp)
      exact ⟨(hclosed _ _).keep rfl rfl rfl, by decide⟩

/-- A turn on a connection that expects it. -/
theorem Route.move (h : Route c log) (hexpects : c.expects event = true)
    (hevent : event ≠ .accepted) (hmove : Move env event c next (some c₁) acts) :
    Route c₁ (log ++ acts) ∧ (next = .recv → Receptive c₁ (log ++ acts)) := by
  have hsame : ∀ {next : Next}, next ≠ .recv →
      Route c (log ++ []) ∧ (next = .recv → Receptive c (log ++ [])) := by
    intro next hne
    rw [List.append_nil]
    exact ⟨h, fun heq => absurd heq hne⟩
  -- the proxy is in another state, and its response has not started meanwhile
  have hproxied : ∀ {proxy : UringProxy} (proxy₁ : UringProxy), c.proxy = some proxy →
      proxy₁.responseStarted = proxy.responseStarted → Route (c.setProxy proxy₁) log :=
    fun proxy₁ hproxy hstarted => h.progress hproxy (fun hs => hstarted ▸ hs)
  have hsilent : ∀ {proxy : UringProxy} {next : Next} (proxy₁ : UringProxy), next ≠ .recv →
      c.proxy = some proxy → proxy₁.responseStarted = proxy.responseStarted →
      Route (c.setProxy proxy₁) (log ++ [])
        ∧ (next = .recv → Receptive (c.setProxy proxy₁) (log ++ [])) := by
    intro proxy next proxy₁ hne hproxy hstarted
    rw [List.append_nil]
    exact ⟨hproxied proxy₁ hproxy hstarted, fun heq => absurd heq hne⟩
  cases hmove with
  | accepted => exact absurd rfl hevent
  | recvBroken => exact hsame (by simp)
  | recvRetry =>
      have hreceptive : Receptive c.markReadCompleted (log ++ []) := by
        rw [List.append_nil]
        exact ⟨(h.receptive hexpects).proxied, (h.receptive hexpects).proxy,
          (h.receptive hexpects).stream⟩
      exact ⟨hreceptive.route, fun _ => hreceptive⟩
  | write hmove =>
      have hcompleted : Route c.markWriteCompleted log := h.keep rfl rfl rfl
      obtain ⟨hroute, hne⟩ := hcompleted.written hmove
      exact ⟨hroute, fun heq => absurd heq hne⟩
  | noProxy => exact hsame (by simp)
  | connectFailed proxy hproxy _ hmove | writeFailed proxy hproxy _ hmove
  | readFailed proxy hproxy _ hmove =>
      refine ⟨(hproxied proxy.completed hproxy rfl).fail hmove, ?_⟩
      cases hmove
      simp
  | connectNext proxy hproxy hmove =>
      refine ⟨(hproxied proxy.completed hproxy rfl).address rfl hmove, ?_⟩
      cases hmove <;> simp
  | connected proxy hproxy => exact hsilent _ (by simp) hproxy rfl
  | writeRetry proxy hproxy => exact hsilent _ (by simp) hproxy rfl
  | wroteSome proxy hproxy => exact ⟨h.setProxy hproxy .inl, by simp⟩
  | wroteAll proxy hproxy => exact ⟨h.setProxy hproxy .inl, by simp⟩
  | upstreamBroken => exact hsame (by simp)
  | readRetry proxy hproxy => exact hsilent _ (by simp) hproxy rfl
  | chunk proxy hproxy bytes hne =>
      have hresponded : Responded (log ++ [.relayed bytes, .queued bytes]) :=
        ⟨bytes, hne, by simp⟩
      have hnext : Route (c.setProxy (proxy.completed.received env.now))
          (log ++ [.relayed bytes, .queued bytes]) := h.setProxy hproxy (fun _ => .inr hresponded)
      exact ⟨hnext.keep rfl rfl rfl, by simp⟩
  | notResolving => exact hsame (by simp)
  | unresolved _ _ _ _ _ herror => exact ⟨h.told herror, by simp⟩
  | resolved addresses proxy hproxy _ hmove =>
      have hconnecting :=
        hproxied ({ proxy with addresses }.transition env.now .connecting) hproxy rfl
      refine ⟨hconnecting.address rfl hmove, ?_⟩
      cases hmove <;> simp
  | expiredIdle hmove =>
      refine ⟨h.fail hmove, ?_⟩
      cases hmove
      simp
  | expiredPending proxy hproxy next hnext =>
      refine hsilent _ ?_ hproxy rfl
      rcases hnext with rfl | rfl <;> simp
  | expiredMissing => exact hsame (by simp)
  | pump hstream hmove =>
      refine ⟨h.chunk hstream hmove, ?_⟩
      cases hmove <;> simp
  | pumpMissing => exact hsame (by simp)

/-- The bytes of a request reach the connection that waits for them. -/
theorem Receptive.intake {received plaintext : List UInt8} (h : Receptive c log)
    (hread : c.readPending = false) (hintake : Intake env received c next c₁ plaintext acts) :
    Receptive c₁ (log ++ acts) ∧ c₁.readPending = false ∧ next ≠ .recv := by
  cases hintake with
  | plain => exact ⟨h.congr rfl rfl (by simp), hread, by simp⟩
  | tls ssl ssl' _ _ _ _ next hnext =>
      refine ⟨h.congr rfl rfl (by simp), hread, ?_⟩
      rw [hnext]
      split_ifs <;> simp

theorem Receptive.flush {clears : Nat} {pushed : List ConnectionOp} (h : Receptive c log)
    (hread : c.readPending = false) (hne : next ≠ .recv)
    (hflush : Finish env clears c next c' pushed acts) :
    Receptive c' (log ++ acts) ∧ c'.readPending = false := by
  have hfilled : ∀ {c₁ : UringConnection σ} {acts : List Act}, c.fillOutput env.tls = some (c₁, acts) →
      Receptive c₁ (log ++ acts) ∧ c₁.readPending = false := by
    intro c₁ acts hfill
    have hsame := fillOutput_sameOrder hfill
    exact ⟨h.congr hsame.proxy hsame.staticStream (fillOutput_sameRoute hfill).proxied,
      hsame.readPending.trans hread⟩
  cases hflush with
  | done | sendBusy =>
      rw [List.append_nil]
      exact ⟨h, hread⟩
  | sendIdle _ _ _ hfill => exact hfilled hfill
  | sent _ _ _ hfill =>
      obtain ⟨hreceptive, hidle⟩ := hfilled hfill
      exact ⟨⟨hreceptive.proxied, hreceptive.proxy, hreceptive.stream⟩, hidle⟩
  | recvBusy | recv => exact absurd rfl hne
  | upstream _ _ _ proxy hproxy =>
      rw [h.proxy] at hproxy
      cases hproxy

/-- A final call that returns is not the end of the run. -/
theorem Finish.runs {clears : Nat} {pushed : List ConnectionOp}
    (h : Finish env clears c next c' pushed acts) (reason : Exit) : next ≠ .exit reason := by
  rintro rfl
  cases h with
  | upstream _ _ hkind => cases hkind

/-- A complete request takes its way. -/
theorem Receptive.answer (h : Receptive c log) (hread : c.readPending = false)
    (hruns : ∀ reason, next ≠ .exit reason)
    (hmove : AnswerMove env c next (some c₁) acts) :
    Route c₁ (log ++ acts) ∧ next ≠ .recv := by
  have hidle : ∀ {p : Prop}, c.readPending = true → p := by
    intro p htrue
    rw [htrue] at hread
    cases hread
  cases hmove with
  | respond => exact ⟨.here (not_proxied_append h.proxied (by simp)) h.proxy hidle, by simp⟩
  | static => exact ⟨.here (not_proxied_append h.proxied (by simp)) h.proxy hidle, by simp⟩
  | proxyError response _ herror =>
      exact ⟨.answered rfl hread h.stream ⟨response, isGatewayError_of_upstream herror, by simp⟩,
        by simp⟩
  | resolving => exact ⟨.proxying _ rfl hread h.stream (fun hs => by cases hs), by simp⟩
  | balancerPanic => exact absurd rfl (hruns _)

theorem Receptive.plaintext {received : List UInt8} (h : Receptive c log)
    (hread : c.readPending = false) (hruns : ∀ reason, next ≠ .exit reason)
    (hmove : PlaintextMove env received c next (some c₁) acts) :
    Route c₁ (log ++ acts) ∧ (next = .recv → Receptive c₁ (log ++ acts)) := by
  cases hmove with
  | empty =>
      rw [List.append_nil]
      exact ⟨h.route, fun _ => h⟩
  | waiting _ hreceive =>
      have hsame := receiveRequest_sameOrder hreceive
      have hwaiting : Receptive c₁ (log ++ [.verdict .keepWaiting]) :=
        h.congr hsame.proxy hsame.staticStream (by simp)
      exact ⟨hwaiting.route, fun _ => hwaiting⟩
  | rejected c₂ status message response _ hreceive =>
      have hsame := receiveRequest_sameOrder hreceive
      have hrejected : Receptive c₂ (log ++ [.verdict (.error status message), .queued response]) :=
        h.congr hsame.proxy hsame.staticStream (by simp)
      exact ⟨hrejected.route.keep rfl rfl rfl, by simp⟩
  | dispatched c₂ head body _ _ _ hreceive hanswer =>
      have hsame := receiveRequest_sameOrder hreceive
      have hdispatched : Receptive c₂ (log ++ [.verdict (.dispatch head body)]) :=
        h.congr hsame.proxy hsame.staticStream (by simp)
      obtain ⟨hroute, hne⟩ := hdispatched.answer (hsame.readPending.trans hread) hruns hanswer
      rw [List.append_cons]
      exact ⟨hroute, fun heq => absurd heq hne⟩

/-- A turn that keeps the connection. -/
theorem Route.turn {clears : Nat} {pushed : List ConnectionOp} (h : Route c log)
    (hexpects : c.expects event = true) (hevent : event ≠ .accepted)
    (houtcome : TurnOutcome env event c clears (some c') pushed acts) : Route c' (log ++ acts) := by
  cases houtcome with
  | moved hmove hfinish =>
      obtain ⟨hroute, hrecv⟩ := h.move hexpects hevent hmove
      rw [← List.append_assoc]
      exact hroute.finish hrecv hfinish
  | received heq _ hintake hflush hmove hfinish =>
      subst heq
      have hreceptive := h.receptive hexpects
      have hcompleted : Receptive c.markReadCompleted log :=
        ⟨hreceptive.proxied, hreceptive.proxy, hreceptive.stream⟩
      obtain ⟨htaken, hidle, hne⟩ := hcompleted.intake rfl hintake
      obtain ⟨hflushed, hidle⟩ := htaken.flush hidle hne hflush
      obtain ⟨hroute, hrecv⟩ := hflushed.plaintext hidle hfinish.runs hmove
      simp only [← List.append_assoc]
      exact hroute.finish hrecv hfinish

/-! ## §4. Removals. -/

/-- Where a connection may be removed while its request is with an upstream. -/
theorem Route.ends {site : RemovalSite} (h : Route c log) (before : List Act)
    (hbefore : .proxied ∉ before)
    (hproxying : ∀ proxy, c.proxy = some proxy → c.staticStream = none →
      site.clientGone = true ∨ proxy.responseStarted = true) :
    AnswersFailure (log ++ (before ++ [.removed site])) := by
  refine ⟨log ++ before, site, (List.append_assoc _ _ _).symm, ?_⟩
  intro hproxied hsilent
  cases h with
  | here hnot => exact absurd hproxied (not_proxied_append hnot hbefore)
  | proxying proxy hproxy _ hstream hstarted =>
      rcases hproxying proxy hproxy hstream with hgone | hs
      · exact .inl hgone
      · exact absurd ((hstarted hs).append before) hsilent
  | answered _ _ _ htold => exact .inr (htold.append before)

theorem Route.dropped (h : Route c log) (hmove : FailMove c next none acts) :
    AnswersFailure (log ++ acts) := by
  cases hmove with
  | dropped proxy hproxy hstarted =>
      refine h.ends [] List.not_mem_nil ?_
      intro proxy' hproxy' _
      rw [hproxy] at hproxy'
      injection hproxy' with hproxy'
      exact .inr (hproxy' ▸ hstarted)

/-- The end of a file is not the end of an exchange. -/
theorem Route.fileEnds (h : Route c log) (before : List Act) (hbefore : .proxied ∉ before)
    (hstream : c.staticStream.isSome = true) (hmove : StreamMove c₁ next none acts) :
    AnswersFailure (log ++ (before ++ acts)) := by
  have hno : ∀ {site : RemovalSite} (proxy : UringProxy), c.proxy = some proxy →
      c.staticStream = none → site.clientGone = true ∨ proxy.responseStarted = true := by
    intro site proxy _ hnone
    rw [hnone] at hstream
    cases hstream
  cases hmove with
  | finished =>
      rw [List.append_cons]
      exact h.ends _ (not_proxied_append hbefore (by simp)) hno
  | failed => exact h.ends before hbefore hno

/-- A turn that removes a connection that expects it. -/
theorem Route.removed (h : Route c log) (hexpects : c.expects event = true)
    (hmove : Move env event c next none acts) : AnswersFailure (log ++ acts) := by
  have hcompleted : ∀ {proxy : UringProxy}, c.proxy = some proxy →
      Route (c.setProxy proxy.completed) log := fun hproxy => h.progress hproxy (fun hs => hs)
  cases hmove with
  | recvClosed => exact h.ends [] List.not_mem_nil (fun _ _ _ => .inl rfl)
  | tlsFailed => exact h.ends [_] (by simp) (fun _ _ _ => .inl rfl)
  | write hmove =>
      cases hmove with
      | failed => exact h.ends [] List.not_mem_nil (fun _ _ _ => .inl rfl)
      | invalid _ hlen =>
          have hfits := of_decide_eq_true hexpects
          have hsame : c.markWriteCompleted.unsent = c.unsent := rfl
          rw [hsame] at hlen
          omega
      | stream _ _ _ hstream _ _ _ hmove =>
          exact h.fileEnds [_] (by simp) hstream hmove
      | delivered _ _ _ _ hproxy =>
          refine h.ends [_, _] (by simp) ?_
          intro proxy hsome _
          rw [show c.markWriteCompleted.proxy = c.proxy from rfl, hsome] at hproxy
          cases hproxy
  | connectFailed _ hproxy _ hmove => exact (hcompleted hproxy).dropped hmove
  | connectNext _ _ hmove => cases hmove
  | writeFailed _ hproxy _ hmove => exact (hcompleted hproxy).dropped hmove
  | readFailed _ hproxy _ hmove => exact (hcompleted hproxy).dropped hmove
  | upstreamClosed proxy hproxy htimed hresult =>
      refine h.ends [_] (by simp) ?_
      intro proxy' hproxy' _
      rw [hproxy] at hproxy'
      injection hproxy' with hproxy'
      subst hproxy'
      -- the upstream may only end once its response has started
      exact .inr (by simpa [UringConnection.expects, hproxy, htimed, hresult] using hexpects)
  | resolved _ _ _ _ hmove => cases hmove
  | expiredIdle hmove => exact h.dropped hmove
  | handshakeExpired => exact h.ends [] List.not_mem_nil (fun _ _ _ => .inl rfl)
  | pump hstream hmove => exact h.fileEnds [] List.not_mem_nil hstream hmove

theorem Receptive.removed {received : List UInt8} (h : Receptive c log)
    (hmove : PlaintextMove env received c next none acts) : AnswersFailure (log ++ acts) := by
  cases hmove with
  | dispatched _ _ _ _ _ _ _ hanswer =>
      cases hanswer
      refine h.route.ends [_] (by simp) ?_
      intro proxy hproxy
      rw [h.proxy] at hproxy
      cases hproxy

theorem Route.gone {clears : Nat} {pushed : List ConnectionOp} (h : Route c log)
    (hexpects : c.expects event = true)
    (houtcome : TurnOutcome env event c clears none pushed acts) :
    AnswersFailure (log ++ acts) := by
  cases houtcome with
  | removed hmove => exact h.removed hexpects hmove
  | receivedRemoved heq _ hintake hflush hmove =>
      subst heq
      have hreceptive := h.receptive hexpects
      have hcompleted : Receptive c.markReadCompleted log :=
        ⟨hreceptive.proxied, hreceptive.proxy, hreceptive.stream⟩
      obtain ⟨htaken, hidle, hne⟩ := hcompleted.intake rfl hintake
      obtain ⟨hflushed, -⟩ := htaken.flush hidle hne hflush
      simp only [← List.append_assoc]
      exact hflushed.removed hmove

/-! ## §5. Every run. -/

theorem Ready.not_accepted {now : Instant} {ops ops₀ : List ConnectionOp}
    (h : Ready cfg now c event ops ops₀) : event ≠ .accepted := by
  rintro rfl
  rcases h.completed_or with ⟨op, completion, before, after, hevent, -, -⟩ | ⟨-, hprompted⟩
  · cases op <;> cases hevent
  · rcases hprompted with ⟨addresses, hevent⟩ | hexpired | hoverdue | hpump
    · cases hevent
    · obtain ⟨-, proxy, -, hevent⟩ := proxyExpired_some hexpired
      cases hevent
    · cases (handshakeOverdue_some hoverdue).1
    · cases (pumpReady_some hpump).1

theorem expects_of_guard {id : ConnectionId} {world : World}
    (hguard : endsAfterResponseStart (.turn id event world (some c)) = true)
    (hgen : c.generation = id.generation) : c.expects event = true := by
  have hmatches : c.matchesGeneration id.generation = true := by
    simp [UringConnection.matchesGeneration, hgen]
  simpa [endsAfterResponseStart, hmatches] using hguard

def failureRule (cfg : Config σ) : SlotRule cfg where
  Inv c _ log := Route c log
  Guard item := endsAfterResponseStart item = true
  Outlives _ := True
  Gone trace _ := AnswersFailure trace
  accepted := by
    intro id c stale hfresh _ _
    cases hfresh with
    | mk socket listenerIndex ssl => exact .here (by simp) rfl (fun _ => rfl)
  turn := by
    intro env id event c c' ops ops₀ pushed log acts _ _ hgen hguard hready hinv houtcome
    exact hinv.turn (expects_of_guard hguard hgen) hready.not_accepted houtcome
  removed := by
    intro env id event c ops ops₀ pushed log acts _ _ hgen hguard _ hinv houtcome
    exact ⟨hinv.gone (expects_of_guard hguard hgen) houtcome, fun _ _ => trivial⟩

end Thwip.IoUring
