/-
  Thwip.Readiness.Exchange — what passes through a connection of the readiness
  worker, and how far a proxied request has come.

  `Route` follows a request from its dispatch to the end of its exchange with the
  upstream: which bytes are to be forwarded and which were, whether the upstream
  has answered, and with which error the client is told if it has not.
-/
import Thwip.Readiness.Phases
import Thwip.Runtime.Exchange

namespace Thwip.Readiness

open Thwip.Lib

variable {σ : Type} {cfg : Config σ} {w : ReadinessWorker σ} {limits : WorkerLimits}
  {c c' : Connection σ} {log acts : List Act}

/-! ## §1. The trace of a connection, seen from outside. -/

@[simp] def Act.exchange : Act → Option Exchange
  | .forwarding bytes => some (.forwarding bytes)
  | .forwarded bytes => some (.forwarded bytes)
  | .relayed bytes => some (.relayed bytes)
  | .queued bytes => some (.queued bytes)
  | .write (.wrote bytes) => some (.sent bytes)
  | _ => none

def exchanges (log : List Act) : List Exchange := log.filterMap Act.exchange

@[simp] theorem exchanges_nil : exchanges [] = [] := rfl

@[simp] theorem exchanges_cons (act : Act) (acts : List Act) :
    exchanges (act :: acts) = act.exchange.toList ++ exchanges acts := by
  unfold exchanges
  cases h : act.exchange with
  | none => exact List.filterMap_cons_none h
  | some exchange => exact List.filterMap_cons_some h

@[simp] theorem exchanges_append (log acts : List Act) :
    exchanges (log ++ acts) = exchanges log ++ exchanges acts :=
  List.filterMap_append

@[simp] theorem exchanges_verdicts (verdicts : List ReadVerdict) :
    exchanges (verdicts.map Act.verdict) = [] := by
  unfold exchanges
  rw [List.filterMap_eq_nil_iff]
  intro act hact
  obtain ⟨verdict, -, rfl⟩ := List.mem_map.mp hact
  rfl

@[simp] theorem exchanges_forwarded (chunks : List (List UInt8)) :
    exchanges (chunks.map Act.forwarded) = chunks.map Exchange.forwarded := by
  induction chunks with
  | nil => rfl
  | cons chunk chunks ih =>
      show Exchange.forwarded chunk :: exchanges (chunks.map Act.forwarded) = _
      rw [ih]
      rfl

/-- A response is queued in the trace iff the log says so. -/
theorem queued_mem_exchanges {response : List UInt8} :
    .queued response ∈ exchanges log ↔ .queued response ∈ log := by
  constructor
  · intro h
    obtain ⟨act, hact, hexchange⟩ := List.mem_filterMap.mp h
    cases act with
    | queued bytes =>
        injection hexchange with hexchange
        injection hexchange with hexchange
        exact hexchange ▸ hact
    | write act => cases act <;> cases hexchange
    | _ => cases hexchange
  · intro h
    exact List.mem_filterMap.mpr ⟨_, h, rfl⟩

/-- Acts that move no bytes. -/
structure Mute (acts : List Act) : Prop where
  proxied : .proxied ∉ acts
  exchanges : exchanges acts = []

theorem mute_nil : Mute [] := ⟨List.not_mem_nil, rfl⟩

theorem mute_single {act : Act} (hproxied : act ≠ .proxied) (h : act.exchange = none) :
    Mute [act] := by
  refine ⟨fun hmem => hproxied (List.mem_singleton.mp hmem).symm, ?_⟩
  rw [exchanges_cons, h]
  rfl

theorem mute_verdicts (verdicts : List ReadVerdict) : Mute (verdicts.map Act.verdict) := by
  refine ⟨?_, exchanges_verdicts verdicts⟩
  intro hmem
  obtain ⟨verdict, -, heq⟩ := List.mem_map.mp hmem
  cases heq

theorem Mute.append {later : List Act} (h : Mute acts) (h' : Mute later) :
    Mute (acts ++ later) := by
  refine ⟨?_, by rw [exchanges_append, h.exchanges, h'.exchanges]; rfl⟩
  intro hmem
  rcases List.mem_append.mp hmem with hmem | hmem
  · exact h.proxied hmem
  · exact h'.proxied hmem

/-- Acts that move no bytes but to the client. -/
structure Quiet (acts : List Act) : Prop where
  proxied : .proxied ∉ acts
  exchanges : OnlySent (exchanges acts)

theorem Mute.quiet (h : Mute acts) : Quiet acts := by
  refine ⟨h.proxied, ?_⟩
  rw [h.exchanges]
  exact fun _ hmem => (by cases hmem)

theorem quiet_wrote (bytes : List UInt8) : Quiet [.write (.wrote bytes)] := by
  refine ⟨by simp, ?_⟩
  intro exchange hmem
  exact ⟨bytes, List.mem_singleton.mp hmem⟩

/-! ## §2. How far a request has come. -/

/-- The way of a request: it is answered here, or it goes to an upstream. -/
inductive Route (limits : WorkerLimits) (c : Connection σ) (log : List Act) : Prop where
  | here (hproxied : .proxied ∉ log) (hhandling : c.isHandlingRequest = false)
      (hrequests : requests (exchanges log) = []) (hforwarded : toUpstream (exchanges log) = [])
      (hrelayed : fromUpstream (exchanges log) = [])
      (hreading : ∀ p, c.phase = .reading p → responses (exchanges log) = [])
  | resolving (r : ResolvingState) (hphase : c.phase = .resolving r)
      (hrequests : requests (exchanges log) = [r.requestBuffer])
      (hforwarded : toUpstream (exchanges log) = [])
      (hrelayed : fromUpstream (exchanges log) = [])
      (hresponses : responses (exchanges log) = [])
  | proxying (p : ProxyState) (hphase : c.phase = .proxying p)
      (hrequests : requests (exchanges log) = [p.requestBuffer])
      (hforwarded : toUpstream (exchanges log) = p.requestBuffer.take p.requestOffset)
      (hrelayed : p.responseStarted = false ↔ fromUpstream (exchanges log) = [])
      (hresponses : responses (exchanges log) = [])
  /-- The client was told that there is nothing from the upstream. -/
  | answered (hphase : c.phase = .writingResponse) (hstream : c.staticStream = none)
      (error : Nat × Str) (herror : error ∈ upstreamErrors)
      (htold : .queued (boundedResponse limits (responseBytes error.1 error.2)) ∈ log)
      (hforwarded : toUpstream (exchanges log) = []
        ∨ ∃ request, requests (exchanges log) = [request]
          ∧ toUpstream (exchanges log) <+: request)
      (hrelayed : fromUpstream (exchanges log) = [])
      (herrors : ∀ response ∈ responses (exchanges log), IsErrorResponse response)

/-- What moves no bytes keeps a request where it is. -/
theorem Route.quiet (h : Route limits c log) (hquiet : Quiet acts)
    (hphase : c'.phase = c.phase ∨ ∃ p p', c.phase = .reading p ∧ c'.phase = .reading p')
    (hstream : c.staticStream = none → c'.staticStream = none) :
    Route limits c' (log ++ acts) := by
  have hsent := hquiet.exchanges
  have hother : (∀ p, c.phase ≠ .reading p) → c'.phase = c.phase := by
    intro hne
    rcases hphase with hsame | ⟨p, p', hp, -⟩
    · exact hsame
    · exact absurd hp (hne p)
  have hrequests : requests (exchanges (log ++ acts)) = requests (exchanges log) := by
    rw [exchanges_append, requests_append, hsent.requests, List.append_nil]
  have hforwarded : toUpstream (exchanges (log ++ acts)) = toUpstream (exchanges log) := by
    rw [exchanges_append, toUpstream_append, hsent.toUpstream, List.append_nil]
  have hrelayed : fromUpstream (exchanges (log ++ acts)) = fromUpstream (exchanges log) := by
    rw [exchanges_append, fromUpstream_append, hsent.fromUpstream, List.append_nil]
  have hresponses : responses (exchanges (log ++ acts)) = responses (exchanges log) := by
    rw [exchanges_append, responses_append, hsent.responses, List.append_nil]
  cases h with
  | here hproxied hhandling hq hf hr hreading =>
      refine .here ?_ ?_ (hrequests.trans hq) (hforwarded.trans hf) (hrelayed.trans hr) ?_
      · intro hmem
        rcases List.mem_append.mp hmem with hmem | hmem
        · exact hproxied hmem
        · exact hquiet.proxied hmem
      · unfold Connection.isHandlingRequest at hhandling ⊢
        rcases hphase with hsame | ⟨p, p', -, hp'⟩
        · rw [hsame]
          exact hhandling
        · rw [hp']
      · intro p hp
        rw [hresponses]
        rcases hphase with hsame | ⟨p', _, hp', -⟩
        · exact hreading p (hsame.symm.trans hp)
        · exact hreading p' hp'
  | resolving r hp hq hf hr hresp =>
      exact .resolving r ((hother (by simp [hp])).trans hp) (hrequests.trans hq)
        (hforwarded.trans hf) (hrelayed.trans hr) (hresponses.trans hresp)
  | proxying p hp hq hf hr hresp =>
      exact .proxying p ((hother (by simp [hp])).trans hp) (hrequests.trans hq)
        (hforwarded.trans hf) (by rw [hrelayed]; exact hr) (hresponses.trans hresp)
  | answered hp hs error herror htold hf hr herrors =>
      refine .answered ((hother (by simp [hp])).trans hp) (hstream hs) error herror
        (List.mem_append_left _ htold) ?_ (hrelayed.trans hr) ?_
      · rw [hforwarded, hrequests]
        exact hf
      · rw [hresponses]
        exact herrors

/-! ## §3. Giving up an exchange. -/

/-- The client's side failed. -/
def RemovalSite.clientGone : RemovalSite → Bool
  | .clientError | .clientClosed _ | .readClosed | .readFailed | .writeFailed | .reregisterFailed
  | .handshakeExpired => true
  | _ => false

def RemovalSite.shuttingDown : RemovalSite → Bool
  | .draining | .shutdown | .drainDeadline => true
  | _ => false

/-- Why a connection may be removed while its request is with an upstream. -/
def Connection.Abandoned (c : Connection σ) (site : RemovalSite) : Prop :=
  c.isHandlingRequest = true →
    site.clientGone = true ∨ site.shuttingDown = true ∨ site = .upstreamEof
      ∨ ∃ proxy, c.phase = .proxying proxy ∧ proxy.responseStarted = true

theorem closeSite_clientGone {pass : ReadPass σ}
    (h : pass.lastRead = some (.ok []) ∨ pass.lastRead = some .failed) :
    pass.closeSite.clientGone = true := by
  unfold ReadPass.closeSite
  rcases h with h | h <;> rw [h] <;> rfl

theorem handling_phase (h : c.isHandlingRequest = true) : c.phase ≠ .writingResponse := by
  intro hphase
  unfold Connection.isHandlingRequest at h
  rw [hphase] at h
  cases h

/-- A connection in a response, or in its file, handles no request. -/
theorem PhaseInv.not_handling (h : PhaseInv limits c log) {stream : StaticStream}
    (hstream : c.staticStream = some stream) : c.isHandlingRequest = false := by
  rw [Bool.eq_false_iff]
  intro hhandling
  rw [h.stream_none (handling_phase hhandling)] at hstream
  cases hstream

theorem Cause.abandoned {env : Env σ} {event : TurnEvent} {s₀ s : Seat σ} {site : RemovalSite}
    (hcause : Cause env event s₀ s c site)
    (h₀ : ∀ c₀, s₀.connection = some c₀ → PhaseInv env.limits c₀ s₀.log)
    (h : PhaseInv env.limits c s.log) : c.Abandoned site := by
  intro hhandling
  cases hcause with
  | clientError => exact .inl rfl
  | clientClosed => exact .inl rfl
  | closed c₀ _ _ hclosed hcurrent _ =>
      cases hfound : c₀.isHandlingRequest with
      | true =>
          have hdiscard : connectionReady env.tls.toRustls env.limits env.now c₀ env.reads
              = discardLoop env.now maxReadsPerEvent c₀ env.reads := by
            unfold connectionReady
            rw [if_pos hfound]
          rw [hdiscard] at hclosed ⊢
          exact .inl (closeSite_clientGone (discardLoop_closed _ _ _ _ hclosed))
      | false =>
          -- reading does not start to handle a request
          have hreads := connectionReady_readsOnly env.tls.toRustls env.limits env.now hfound env.reads
          rw [← hcurrent] at hreads
          unfold Connection.isHandlingRequest at hhandling hfound
          rcases hreads.phase with ⟨_, p, -, hp⟩ | hsame
          · rw [hp] at hhandling
            cases hhandling
          · rw [hsame, hfound] at hhandling
            cases hhandling
  | writeFailed => exact .inl rfl
  | writerRefused c₀ ssl due _ hfound _ hphase hrefused =>
      -- there was something to write
      have hne : c₀.writeBuffer ≠ [] := by
        intro hempty
        rw [Connection.unsent, hempty, List.drop_nil] at hrefused
        cases hrefused
      rw [Connection.isHandlingRequest_iff] at hhandling
      rcases hhandling with ⟨r, hr⟩ | ⟨proxy, hproxy⟩
      · have hinv := h₀ c₀ hfound
        rw [hphase] at hr
        cases hinv with
        | reading _ hp => rw [hp] at hr; cases hr
        | resolving _ _ hempty => exact absurd hempty hne
        | proxying _ hp => rw [hp] at hr; cases hr
        | writing hp => rw [hp] at hr; cases hr
      · obtain ⟨-, -, -, -, -, hbuffer, -⟩ := (h₀ c₀ hfound).exchange
          (Connection.proxy_eq_some.mpr (hphase.symm.trans hproxy))
        exact .inr (.inr (.inr ⟨proxy, hproxy, hbuffer hne⟩))
  | upstreamEof => exact .inr (.inr (.inl rfl))
  | proxyFailed proxy hproxy hstarted =>
      obtain ⟨-, -, -, -, -, hbuffer, -⟩ := h.exchange hproxy
      refine .inr (.inr (.inr ⟨proxy, Connection.proxy_eq_some.mp hproxy, ?_⟩))
      rcases hstarted with hstarted | hne
      · exact hstarted
      · exact hbuffer hne
  | delivered _ _ hphase =>
      exfalso
      rcases hphase with hwriting | ⟨proxy, hproxy, heof⟩
      · rw [Connection.isWritingResponse_iff] at hwriting
        unfold Connection.isHandlingRequest at hhandling
        rw [hwriting] at hhandling
        cases hhandling
      · obtain ⟨-, -, -, -, -, -, hnever⟩ := h.exchange hproxy
        rw [heof] at hnever
        cases hnever
  | draining => exact .inr (.inl rfl)
  | streamFinished stream hstream =>
      rw [h.not_handling hstream] at hhandling
      cases hhandling
  | streamFailed stream hstream =>
      rw [h.not_handling hstream] at hhandling
      cases hhandling
  | idle _ hnot =>
      rw [hnot] at hhandling
      cases hhandling
  | handshakeExpired => exact .inl rfl
  | shutdown => exact .inr (.inl rfl)
  | drainDeadline => exact .inr (.inl rfl)

/-! ## §4. Every move. -/

theorem isErrorResponse_bounded (limits : WorkerLimits) {status : Nat} {message : Str}
    (hstatus : 400 ≤ status) :
    IsErrorResponse (boundedResponse limits (responseBytes status message)) := by
  unfold boundedResponse
  split_ifs
  · exact ⟨500, _, by decide, rfl⟩
  · exact ⟨status, message, hstatus, rfl⟩

theorem upstreamErrors_status {error : Nat × Str} (h : error ∈ upstreamErrors) :
    error.1 = 502 ∨ error.1 = 504 := by
  have hall : ∀ error ∈ upstreamErrors, error.1 = 502 ∨ error.1 = 504 := by decide
  exact hall error h

theorem upstreamErrors_le {error : Nat × Str} (h : error ∈ upstreamErrors) : 400 ≤ error.1 := by
  rcases upstreamErrors_status h with hstatus | hstatus <;> omega

/-- A refused or answered request, and a served file, stay here. -/
theorem Route.replied {env : Env σ} {pass : ReadPass σ} {verdict : ReadVerdict} {notes : List Act}
    {stream : Option StaticStream} {response : List UInt8} (hinv : PhaseInv env.limits c log)
    (h : Route env.limits c log) (hhandling : c.isHandlingRequest = false)
    (hpass : pass = connectionReady env.tls.toRustls env.limits env.now c env.reads)
    (hlast : pass.verdicts.getLast? = some verdict)
    (hreply : Reply env c.staticStream verdict notes stream response) :
    Route env.limits ({ pass.connection with staticStream := stream }.setResponse
        (boundedResponse env.limits response))
      (log ++ (pass.verdicts.map Act.verdict ++ notes
        ++ [.queued (boundedResponse env.limits response)])) := by
  have hverdicts := mute_verdicts pass.verdicts
  -- a dispatched request is the first one
  have hfirst : ∀ request body, verdict = .dispatch request body → ∃ p, c.phase = .reading p := by
    intro request body hverdict
    exact dispatched_reading hhandling hpass hinv.awaits
      (hverdict ▸ List.mem_of_getLast? hlast)
  have hhere : ∀ {acts : List Act}, Mute acts → .proxied ∉ log → requests (exchanges log) = [] →
      toUpstream (exchanges log) = [] → fromUpstream (exchanges log) = [] →
      Route env.limits ({ pass.connection with staticStream := stream }.setResponse
          (boundedResponse env.limits response))
        (log ++ (acts ++ [.queued (boundedResponse env.limits response)])) := by
    intro acts hmute hproxied hq hf hr
    refine .here ?_ rfl ?_ ?_ ?_ (fun p hp => (by cases hp))
    · simp only [List.mem_append, List.mem_singleton, reduceCtorEq, or_false, not_or]
      exact ⟨hproxied, hmute.proxied⟩
    · simp [hmute.exchanges, hq]
    · simp [hmute.exchanges, hf]
    · simp [hmute.exchanges, hr]
  cases h with
  | here hproxied _ hq hf hr hreading =>
      cases hreply with
      | refused => exact hhere (hverdicts.append mute_nil) hproxied hq hf hr
      | answered => exact hhere (hverdicts.append mute_nil) hproxied hq hf hr
      | served request body directory response =>
          exact hhere (hverdicts.append (mute_single (by simp) rfl)) hproxied hq hf hr
      | declined request body forwarding hforwarding message herror =>
          obtain ⟨p, hp⟩ := hfirst request body rfl
          -- nothing was dispatched before, so there is no file stream
          have hnone : c.staticStream = none := hinv.stream_none (by simp [hp])
          have hresponses := hreading p hp
          refine .answered rfl hnone (502, message) herror (by simp) (.inl ?_) ?_ ?_
          · rcases hforwarding with rfl | ⟨bytes, rfl⟩ <;> simp [hf]
          · rcases hforwarding with rfl | ⟨bytes, rfl⟩ <;> simp [hr]
          · intro answer hanswer
            have honly : answer = boundedResponse env.limits (responseBytes 502 message) := by
              rcases hforwarding with rfl | ⟨bytes, rfl⟩ <;> simpa [hresponses] using hanswer
            rw [honly]
            exact isErrorResponse_bounded _ (by decide)
  | resolving r hphase =>
      rw [Connection.isHandlingRequest_iff.mpr (.inl ⟨r, hphase⟩)] at hhandling
      cases hhandling
  | proxying p hphase =>
      rw [Connection.isHandlingRequest_iff.mpr (.inr ⟨p, hphase⟩)] at hhandling
      cases hhandling
  | answered hphase hstream error herror htold hf hr herrors =>
      have hne : ∀ request body, verdict ≠ .dispatch request body := by
        intro request body hverdict
        obtain ⟨p, hp⟩ := hfirst request body hverdict
        rw [hphase] at hp
        cases hp
      cases hreply with
      | refused status message =>
          have hmem := List.mem_of_getLast? hlast
          rw [hpass, connectionReady_eq hhandling] at hmem
          have hstatus := readLoop_error_status _ _ _ _ _ _ hmem
          refine .answered rfl hstream error herror (List.mem_append_left _ htold) ?_ ?_ ?_
          · simpa using hf
          · simpa using hr
          · intro answer hanswer
            simp only [exchanges_append, exchanges_verdicts, responses_append] at hanswer
            rcases List.mem_append.mp hanswer with hold | hnew
            · exact herrors answer hold
            · have honly : answer = boundedResponse env.limits (responseBytes status message) := by
                simpa using hnew
              rw [honly]
              exact isErrorResponse_bounded _ hstatus
      | answered request body => exact absurd rfl (hne request body)
      | served request body => exact absurd rfl (hne request body)
      | declined request body => exact absurd rfl (hne request body)

/-- The exchange of a proxying connection. -/
theorem Route.exchange (h : Route limits c log) {proxy : ProxyState}
    (hphase : c.phase = .proxying proxy) :
    requests (exchanges log) = [proxy.requestBuffer]
      ∧ toUpstream (exchanges log) = proxy.requestBuffer.take proxy.requestOffset
      ∧ (proxy.responseStarted = false ↔ fromUpstream (exchanges log) = [])
      ∧ responses (exchanges log) = [] := by
  cases h with
  | here _ hhandling =>
      rw [Connection.isHandlingRequest_iff.mpr (.inr ⟨proxy, hphase⟩)] at hhandling
      cases hhandling
  | resolving _ hp => rw [hp] at hphase; cases hphase
  | proxying p hp hq hf hr hresponses =>
      rw [hp] at hphase
      injection hphase with hphase
      subst hphase
      exact ⟨hq, hf, hr, hresponses⟩
  | answered hp => rw [hp] at hphase; cases hphase

/-- An exchange that failed before its response is answered with an error. -/
theorem Route.failed {status : Nat} {message : Str} (hinv : PhaseInv limits c log)
    (h : Route limits c log) (hmay : c.mayFail) (herror : (status, message) ∈ upstreamErrors) :
    Route limits (c.setResponse (boundedResponse limits (responseBytes status message)))
      (log ++ [.queued (boundedResponse limits (responseBytes status message))]) := by
  -- whatever was forwarded, no response came
  have hanswered : c.staticStream = none → fromUpstream (exchanges log) = [] →
      responses (exchanges log) = [] →
      (toUpstream (exchanges log) = [] ∨ ∃ request, requests (exchanges log) = [request]
        ∧ toUpstream (exchanges log) <+: request) →
      Route limits (c.setResponse (boundedResponse limits (responseBytes status message)))
        (log ++ [.queued (boundedResponse limits (responseBytes status message))]) := by
    intro hstream hr hresponses hf
    refine .answered rfl hstream (status, message) herror (by simp) ?_ ?_ ?_
    · simpa using hf
    · simpa using hr
    · intro answer hanswer
      have honly : answer = boundedResponse limits (responseBytes status message) := by
        simpa [hresponses] using hanswer
      rw [honly]
      exact isErrorResponse_bounded _ (upstreamErrors_le herror)
  rcases hmay with hresolving | ⟨proxy, hproxy, hstarted, -⟩
  · obtain ⟨r, hphase⟩ := Connection.isResolving_iff.mp hresolving
    have hstream : c.staticStream = none := hinv.stream_none (by simp [hphase])
    cases h with
    | here _ hhandling =>
        rw [Connection.isHandlingRequest_iff.mpr (.inl ⟨r, hphase⟩)] at hhandling
        cases hhandling
    | resolving _ _ _ hf hr hresponses => exact hanswered hstream hr hresponses (.inl hf)
    | proxying _ hp => rw [hp] at hphase; cases hphase
    | answered hp => rw [hp] at hphase; cases hphase
  · obtain ⟨hq, hf, hr, hresponses⟩ := h.exchange (Connection.proxy_eq_some.mp hproxy)
    refine hanswered (hinv.exchange hproxy).1 (hr.mp hstarted) hresponses (.inr ⟨_, hq, ?_⟩)
    rw [hf]
    exact List.take_prefix _ _

/-- The trace of a removed connection: its way up to the removal. -/
def RouteEnds (σ : Type) (limits : WorkerLimits) (trace : List Act) : Prop :=
  ∃ (c : Connection σ) (log : List Act) (site : RemovalSite) (unsent : List UInt8)
    (wantsWrite : Bool), trace = log ++ [.removed site unsent wantsWrite]
      ∧ Route limits c log ∧ c.Abandoned site

/-- What a move leaves. -/
structure Routed (limits : WorkerLimits) (s : Seat σ) : Prop where
  live : ∀ c, s.connection = some c → Route limits c s.log
  gone : s.connection = none → RouteEnds σ limits s.log

theorem routed_put {s : Seat σ} (hc : s.connection = some c) (h : Route limits c s.log) :
    Routed limits s := by
  refine ⟨?_, fun hnone => by rw [hc] at hnone; cases hnone⟩
  intro c' hc'
  rw [hc] at hc'
  injection hc' with hc'
  exact hc' ▸ h

theorem routed_settle {s : Seat σ} {tls : Rustls σ} {interest : Interest} {ok : Bool}
    (h : Route limits c (s.log ++ acts)) : Routed limits (s.settle tls c interest acts ok) := by
  cases ok with
  | true => exact routed_put rfl (h.quiet (mute_single (by simp) rfl).quiet (.inl rfl) id)
  | false =>
      exact ⟨fun c' hc' => (by cases hc'), fun _ => ⟨c, s.log ++ acts, _, _, _, rfl, h, fun _ => .inl rfl⟩⟩

/-- **Every move keeps a request on its way.** -/
theorem Route.move {env : Env σ} {event : TurnEvent} {s₀ s s' : Seat σ}
    (hinv₀ : ∀ c₀, s₀.connection = some c₀ → PhaseInv env.limits c₀ s₀.log)
    (hc : s.connection = some c) (hinv : PhaseInv env.limits c s.log)
    (h : Route env.limits c s.log) (hmove : Move env event s₀ s s') : Routed env.limits s' := by
  have hsame {c₁ : Connection σ} : s.connection = some c₁ → c = c₁ := Seat.connection_unique hc
  have hnil : Route env.limits c (s.log ++ []) := (List.append_nil s.log).symm ▸ h
  -- the phase, the file stream and the exchange stay as they are
  have hquiet : ∀ {c₁ : Connection σ} {acts : List Act}, Quiet acts → c₁.phase = c.phase →
      (c.staticStream = none → c₁.staticStream = none) → Route env.limits c₁ (s.log ++ acts) :=
    fun hacts hphase hstream => h.quiet hacts (.inl hphase) hstream
  have hput : ∀ {c₁ : Connection σ}, c₁.phase = c.phase →
      (c.staticStream = none → c₁.staticStream = none) → Route env.limits c₁ s.log := by
    intro c₁ hphase hstream
    have hsaid : Route env.limits c₁ (s.log ++ []) := hquiet mute_nil.quiet hphase hstream
    rwa [List.append_nil] at hsaid
  cases hmove with
  | rescheduled => exact routed_put hc h
  | drained => exact routed_put hc h
  | scheduled => exact routed_put hc h
  | flushed => exact routed_put hc (hquiet (mute_single (by simp) rfl).quiet rfl id)
  | counted => exact routed_put hc (hquiet (mute_single (by simp) rfl).quiet rfl id)
  | touched hc₁ =>
      obtain rfl := hsame hc₁
      exact routed_put rfl (hput rfl id)
  | spoiled hc₁ =>
      obtain rfl := hsame hc₁
      exact routed_put rfl (hput rfl id)
  | waited hc₁ _ _ _ hhandling pass hpass hverdicts =>
      obtain rfl := hsame hc₁
      have hreads := connectionReady_readsOnly env.tls.toRustls env.limits env.now hhandling env.reads
      rw [← hpass] at hreads
      refine routed_put rfl (h.quiet (mute_verdicts _).quiet hreads.phase.symm ?_)
      intro hnone
      exact hreads.staticStream.trans hnone
  | replied hc₁ _ _ _ hhandling pass hpass hlast hreply ok =>
      obtain rfl := hsame hc₁
      exact routed_settle (h.replied hinv hhandling hpass hlast hreply)
  | resolving hc₁ _ _ _ hhandling pass hpass hlast upstream bytes hbytes =>
      obtain rfl := hsame hc₁
      obtain ⟨p, hp⟩ := dispatched_reading hhandling hpass hinv.awaits (List.mem_of_getLast? hlast)
      cases h with
      | here hproxied _ hq hf hr hreading =>
          refine routed_put rfl (.resolving _ rfl ?_ ?_ ?_ ?_)
          · simp [Seat.note, Seat.put, hq]
          · simp [Seat.note, Seat.put, hf]
          · simp [Seat.note, Seat.put, hr]
          · simp [Seat.note, Seat.put, hreading p hp]
      | resolving _ hphase => rw [hphase] at hp; cases hp
      | proxying _ hphase => rw [hphase] at hp; cases hp
      | answered hphase => rw [hphase] at hp; cases hp
  | connecting hc₁ resolution hresolution =>
      obtain rfl := hsame hc₁
      rw [Connection.resolution_eq_some] at hresolution
      cases h with
      | here _ hhandling =>
          rw [Connection.isHandlingRequest_iff.mpr (.inl ⟨_, hresolution⟩)] at hhandling
          cases hhandling
      | resolving r hphase hq hf hr hresponses =>
          rw [hphase] at hresolution
          injection hresolution with hresolution
          subst hresolution
          exact routed_put rfl (.proxying _ rfl hq hf ⟨fun _ => hr, fun _ => rfl⟩ hresponses)
      | proxying p hphase => rw [hphase] at hresolution; cases hresolution
      | answered hphase => rw [hphase] at hresolution; cases hresolution
  | forwarded hc₁ hproxy hphase hforwards now hnow =>
      obtain rfl := hsame hc₁
      obtain ⟨hq, hf, hr, hresponses⟩ := h.exchange (Connection.proxy_eq_some.mp hproxy)
      rename_i proxy proxy' chunks
      refine routed_put rfl (.proxying proxy' rfl ?_ ?_ ?_ ?_)
      · simp [Seat.note, Seat.put, hq, hforwards.buffer, requests_forwarded]
      · simp only [Seat.note, Seat.put, exchanges_append, exchanges_forwarded, toUpstream_append,
          toUpstream_forwarded, hf, hforwards.buffer, hforwards.offset]
        rw [List.take_add]
        exact congrArg _ (List.prefix_iff_eq_take.mp hforwards.accepted)
      · simp [Seat.note, Seat.put, fromUpstream_forwarded, hforwards.started, hr]
      · simp [Seat.note, Seat.put, hresponses, responses_forwarded]
  | failed hc₁ hmay status message herror ok =>
      obtain rfl := hsame hc₁
      exact routed_settle (h.failed hinv hmay herror)
  | relayed hc₁ hproxy hphase hempty bytes hne ok =>
      obtain rfl := hsame hc₁
      obtain ⟨hq, hf, hr, hresponses⟩ := h.exchange (Connection.proxy_eq_some.mp hproxy)
      refine routed_settle (.proxying _ rfl ?_ ?_ ?_ ?_)
      · simpa [ProxyState.recordProgress] using hq
      · simpa [ProxyState.recordProgress] using hf
      · simp [ProxyState.recordProgress, hne]
      · simpa using hresponses
  | wrote hc₁ =>
      obtain rfl := hsame hc₁
      exact routed_put rfl (hquiet (quiet_wrote _) rfl id)
  | handed hc₁ =>
      obtain rfl := hsame hc₁
      exact routed_put rfl (hquiet (mute_single (by simp) rfl).quiet rfl id)
  | sentTls hc₁ =>
      obtain rfl := hsame hc₁
      exact routed_put rfl (hquiet (mute_single (by simp) rfl).quiet rfl id)
  | chunk hc₁ hstream =>
      obtain rfl := hsame hc₁
      refine routed_settle (hquiet (mute_single (by simp) rfl).quiet rfl ?_)
      intro hnone
      rw [hnone] at hstream
      cases hstream
  | awaiting hc₁ =>
      obtain rfl := hsame hc₁
      exact routed_settle hnil
  | closing hc₁ =>
      obtain rfl := hsame hc₁
      exact routed_settle (hquiet (mute_single (by simp) rfl).quiet rfl id)
  | emptied hc₁ =>
      obtain rfl := hsame hc₁
      exact routed_settle (hquiet mute_nil.quiet rfl id)
  | idled hc₁ =>
      obtain rfl := hsame hc₁
      exact routed_settle hnil
  | flushing hc₁ =>
      obtain rfl := hsame hc₁
      exact routed_settle hnil
  | removed hc₁ hcause =>
      obtain rfl := hsame hc₁
      exact ⟨fun c' hc' => (by cases hc'),
        fun _ => ⟨c, s.log, _, _, _, rfl, h, hcause.abandoned hinv₀ hinv⟩⟩

/-! ## §5. Every run. -/

/-- Whether the connection is encrypted stands at the start of its trace. -/
def Connection.OpensWith (c : Connection σ) (log : List Act) : Prop :=
  log.head? = some (.accepted c.ssl.isSome)

theorem opensWith_of_kept {s s' : Seat σ} (hkept : Kept s s') (hc : s.connection = some c)
    (h : c.OpensWith s.log) (hc' : s'.connection = some c') : c'.OpensWith s'.log := by
  obtain ⟨c₁, hc₁, hsame⟩ := hkept.client c' hc'
  rw [hc] at hc₁
  injection hc₁ with hc₁
  subst hc₁
  obtain ⟨later, hlater⟩ := hkept.log
  unfold Connection.OpensWith at h ⊢
  rw [← hlater, hsame.ssl, List.head?_append, h]
  rfl

/-- The way of a request as an invariant of seats. -/
def routeRule (cfg : Config σ) : (phaseRule cfg).Over where
  Inv s c := c.OpensWith s.log ∧ Route cfg.limits c s.log
  Gone log := RouteEnds σ cfg.limits log
  Guard _ := True
  fresh := by
    intro s c hfresh hc
    cases hfresh with
    | mk now index generation ssl interest write read =>
        cases hc
        exact ⟨rfl, .here (by simp) rfl rfl rfl rfl (fun _ _ => rfl)⟩
  poll _ _ h := h
  move := by
    intro env id io event s₀ s s' c₀ c henv _ _ hfound _ hphase₀ _ hc _ hphase hinv hmove
    subst henv
    have hinv₀ : ∀ c₁, s₀.connection = some c₁ → PhaseInv env.limits c₁ s₀.log := by
      intro c₁ hc₁
      rw [hfound] at hc₁
      injection hc₁ with hc₁
      exact hc₁ ▸ hphase₀.1
    obtain ⟨hlive, hgone⟩ := hinv.2.move hinv₀ hc hphase.1 hmove
    exact ⟨fun c' hc' => ⟨opensWith_of_kept hmove.kept hc hinv.1 hc', hlive c' hc'⟩, hgone⟩

end Thwip.Readiness
