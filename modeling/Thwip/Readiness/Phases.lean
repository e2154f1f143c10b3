/-
  Thwip.Readiness.Phases — the protocol phases of a connection.

  A connection goes through `Reading`, `Resolving`, `Proxying` and
  `WritingResponse` in this order, and each phase determines what its buffers,
  its exchange with the upstream, its file stream and its recorded request can
  be.  `PhaseInv` says so phase by phase; every move keeps it.
-/
import Thwip.Readiness.Occupation

namespace Thwip.Readiness

open Thwip.Lib
open Relation (ReflTransGen)

variable {σ : Type} {cfg : Config σ} {w w' : ReadinessWorker σ} {limits : WorkerLimits}
  {c c' : Connection σ} {log : List Act}

/-! ## §1. The invariant. -/

def Act.isDispatch : Act → Bool
  | .verdict (.dispatch _ _) => true
  | _ => false

/-- The requests dispatched so far. -/
def dispatches (log : List Act) : Nat := log.countP Act.isDispatch

@[simp] theorem dispatches_append (log later : List Act) :
    dispatches (log ++ later) = dispatches log + dispatches later :=
  List.countP_append

/-- What the phase says about the rest of the connection. -/
inductive PhaseInv (limits : WorkerLimits) (c : Connection σ) (log : List Act) : Prop where
  | reading (p : Option PendingRequest) (hphase : c.phase = .reading p)
      (hbuffer : c.writeBuffer = []) (hstream : c.staticStream = none)
      (hawaits : c.Awaits limits) (hlog : dispatches log = 0)
  | resolving (r : ResolvingState) (hphase : c.phase = .resolving r)
      (hbuffer : c.writeBuffer = []) (hstream : c.staticStream = none)
      (hrequest : r.requestBuffer ≠ []) (hlog : dispatches log ≤ 1)
  | proxying (p : ProxyState) (hphase : c.phase = .proxying p) (hstream : c.staticStream = none)
      (hrequest : p.requestBuffer ≠ []) (hle : p.requestOffset ≤ p.requestBuffer.length)
      (hread : p.requestOffset = p.requestBuffer.length ↔ p.phase = .readingResponse)
      (hstarted : p.responseStarted = true → p.phase = .readingResponse)
      (hbuffer : c.writeBuffer ≠ [] → p.responseStarted = true) (heof : p.upstreamEof = false)
      (hlog : dispatches log ≤ 1)
  | writing (hphase : c.phase = .writingResponse) (hlog : dispatches log ≤ 1)

theorem PhaseInv.dispatches_le (h : PhaseInv limits c log) : dispatches log ≤ 1 := by
  cases h with
  | reading _ _ _ _ _ hlog => omega
  | resolving _ _ _ _ _ hlog => exact hlog
  | proxying _ _ _ _ _ _ _ _ _ hlog => exact hlog
  | writing _ hlog => exact hlog

/-- What the phase does not speak of may change. -/
theorem PhaseInv.congr (h : PhaseInv limits c log) (hphase : c'.phase = c.phase)
    (hbuffer : c'.writeBuffer = c.writeBuffer) (hstream : c'.staticStream = c.staticStream)
    (hread : c'.readBuffer = c.readBuffer) {log' : List Act}
    (hlog : dispatches log' = dispatches log) : PhaseInv limits c' log' := by
  cases h with
  | reading p hp hb hs ha hl =>
      refine .reading p (hphase.trans hp) (hbuffer.trans hb) (hstream.trans hs) ?_ (hlog.trans hl)
      intro pending hpending
      rw [hread]
      apply ha
      rw [Connection.pendingRequest_eq_some] at hpending ⊢
      exact hphase.symm.trans hpending
  | resolving r hp hb hs hr hl =>
      exact .resolving r (hphase.trans hp) (hbuffer.trans hb) (hstream.trans hs) hr (hlog ▸ hl)
  | proxying p hp hs hr hle hrd hst hb he hl =>
      exact .proxying p (hphase.trans hp) (hstream.trans hs) hr hle hrd hst
        (by rw [hbuffer]; exact hb) he (hlog ▸ hl)
  | writing hp hl => exact .writing (hphase.trans hp) (hlog ▸ hl)

/-! ## §2. The verdicts of a read pass. -/

theorem dispatches_map_verdict {verdicts : List ReadVerdict}
    (h : ∀ verdict ∈ verdicts, verdict = .keepWaiting) :
    dispatches (verdicts.map Act.verdict) = 0 := by
  unfold dispatches
  rw [List.countP_eq_zero]
  intro act hact
  obtain ⟨verdict, hverdict, rfl⟩ := List.mem_map.mp hact
  rw [h verdict hverdict]
  simp [Act.isDispatch]

/-- A request is dispatched in the reading phase. -/
theorem dispatched_reading {env : Env σ} {pass : ReadPass σ} (hhandling : c.isHandlingRequest = false)
    (hpass : pass = connectionReady env.tls.toRustls env.limits env.now c env.reads)
    (hawaits : c.Awaits env.limits) {request : RequestHead} {body : List UInt8}
    (hmem : .dispatch request body ∈ pass.verdicts) : ∃ p, c.phase = .reading p := by
  have hdispatched := (readLoop_received env.tls.toRustls env.limits env.now maxReadsPerEvent c
    env.reads hawaits).2
  rw [← connectionReady_eq hhandling, ← hpass] at hdispatched
  exact (hdispatched request body hmem).1

/-- A pass dispatches at most one request, and none outside the reading phase. -/
theorem pass_dispatches {env : Env σ} {pass : ReadPass σ} (hhandling : c.isHandlingRequest = false)
    (hpass : pass = connectionReady env.tls.toRustls env.limits env.now c env.reads)
    (hawaits : c.Awaits env.limits) :
    dispatches (pass.verdicts.map Act.verdict) ≤ 1
      ∧ (c.phase = .writingResponse → dispatches (pass.verdicts.map Act.verdict) = 0) := by
  have hverdicts := readLoop_verdicts env.tls.toRustls env.limits env.now maxReadsPerEvent c env.reads
  rw [← connectionReady_eq hhandling, ← hpass] at hverdicts
  rcases hverdicts with hall | ⟨-, waits, verdict, hsplit, hwaits, -⟩
  · rw [dispatches_map_verdict hall]
    exact ⟨Nat.zero_le _, fun _ => rfl⟩
  · have hcount : dispatches (pass.verdicts.map Act.verdict) = dispatches [.verdict verdict] := by
      rw [hsplit, List.map_append, dispatches_append, dispatches_map_verdict hwaits, Nat.zero_add]
      rfl
    rw [hcount]
    refine ⟨List.countP_le_length, ?_⟩
    intro hwriting
    cases verdict with
    | keepWaiting => rfl
    | error status message => rfl
    | dispatch head body =>
        obtain ⟨p, hp⟩ := dispatched_reading hhandling hpass hawaits
          (show ReadVerdict.dispatch head body ∈ pass.verdicts by rw [hsplit]; simp)
        rw [hwriting] at hp
        cases hp

/-! ## §3. Every move keeps it. -/

theorem PhaseInv.awaits (h : PhaseInv limits c log) : c.Awaits limits := by
  have hother : ∀ {phase : ConnectionPhase}, c.phase = phase →
      (∀ p, phase ≠ .reading p) → c.Awaits limits := by
    intro phase hphase hne pending hpending
    rw [Connection.pendingRequest_eq_some, hphase] at hpending
    exact absurd hpending (hne _)
  cases h with
  | reading _ _ _ _ hawaits => exact hawaits
  | resolving _ hphase => exact hother hphase (by simp)
  | proxying _ hphase => exact hother hphase (by simp)
  | writing hphase => exact hother hphase (by simp)

/-- The exchange of a proxying connection. -/
theorem PhaseInv.exchange (h : PhaseInv limits c log) {proxy : ProxyState}
    (hproxy : c.proxy = some proxy) :
    c.staticStream = none ∧ proxy.requestBuffer ≠ []
      ∧ proxy.requestOffset ≤ proxy.requestBuffer.length
      ∧ (proxy.requestOffset = proxy.requestBuffer.length ↔ proxy.phase = .readingResponse)
      ∧ (proxy.responseStarted = true → proxy.phase = .readingResponse)
      ∧ (c.writeBuffer ≠ [] → proxy.responseStarted = true) ∧ proxy.upstreamEof = false := by
  rw [Connection.proxy_eq_some] at hproxy
  cases h with
  | reading _ hphase => rw [hphase] at hproxy; cases hproxy
  | resolving _ hphase => rw [hphase] at hproxy; cases hproxy
  | proxying p hphase hstream hrequest hle hread hstarted hbuffer heof =>
      rw [hphase] at hproxy
      injection hproxy with hproxy
      subst hproxy
      exact ⟨hstream, hrequest, hle, hread, hstarted, hbuffer, heof⟩
  | writing hphase => rw [hphase] at hproxy; cases hproxy

/-- Only a response has a file stream. -/
theorem PhaseInv.stream_none (h : PhaseInv limits c log) (hphase : c.phase ≠ .writingResponse) :
    c.staticStream = none := by
  cases h with
  | reading _ _ _ hnone => exact hnone
  | resolving _ _ _ hnone => exact hnone
  | proxying _ _ hnone => exact hnone
  | writing hwriting => exact absurd hwriting hphase

/-- What a move leaves: `P` of the connection, or `Q` of the trace of a removed one. -/
structure Leaves (P : Connection σ → List Act → Prop) (Q : List Act → Prop) (s : Seat σ) :
    Prop where
  live : ∀ c, s.connection = some c → P c s.log
  gone : s.connection = none → Q s.log

section Leaves

variable {P : Connection σ → List Act → Prop} {Q : List Act → Prop} {s : Seat σ}

theorem leaves_put (hc : s.connection = some c) (h : P c s.log) : Leaves P Q s := by
  refine ⟨?_, fun hnone => by rw [hc] at hnone; cases hnone⟩
  intro c' hc'
  obtain rfl := Seat.connection_unique hc hc'
  exact h

theorem leaves_settle {tls : Rustls σ} {interest : Interest} {acts : List Act} {ok : Bool}
    (hlive : P c (s.log ++ acts ++ [.reregistered interest]))
    (hgone : Q (s.log ++ acts ++ [.removed .reregisterFailed c.unsent (c.sslWantsWrite tls)])) :
    Leaves P Q (s.settle tls c interest acts ok) := by
  cases ok with
  | true => exact leaves_put rfl hlive
  | false => exact ⟨fun c' hc' => (by cases hc'), fun _ => hgone⟩

theorem leaves_drop {tls : Rustls σ} {site : RemovalSite}
    (h : Q (s.log ++ [.removed site c.unsent (c.sslWantsWrite tls)])) :
    Leaves P Q (s.drop tls site c) :=
  ⟨fun c' hc' => (by cases hc'), fun _ => h⟩

end Leaves

/-- The phases are kept, or the removed connection had dispatched at most once. -/
abbrev Phased (limits : WorkerLimits) (s : Seat σ) : Prop :=
  Leaves (PhaseInv limits) (fun log => dispatches log ≤ 1) s

/-- A connection that handles no request reads one, or is being answered. -/
theorem PhaseInv.not_handling_cases (h : PhaseInv limits c log)
    (hhandling : c.isHandlingRequest = false) :
    (∃ p, c.phase = .reading p ∧ c.writeBuffer = [] ∧ c.staticStream = none ∧ dispatches log = 0)
      ∨ c.phase = .writingResponse ∧ dispatches log ≤ 1 := by
  cases h with
  | reading p hphase hbuffer hstream _ hlog => exact .inl ⟨p, hphase, hbuffer, hstream, hlog⟩
  | resolving r hphase =>
      rw [Connection.isHandlingRequest_iff.mpr (.inl ⟨r, hphase⟩)] at hhandling
      cases hhandling
  | proxying p hphase =>
      rw [Connection.isHandlingRequest_iff.mpr (.inr ⟨p, hphase⟩)] at hhandling
      cases hhandling
  | writing hphase hlog => exact .inr ⟨hphase, hlog⟩

/-- Bytes that decide nothing leave the phase as it is. -/
theorem PhaseInv.waited {env : Env σ} {pass : ReadPass σ} (h : PhaseInv env.limits c log)
    (hhandling : c.isHandlingRequest = false)
    (hpass : pass = connectionReady env.tls.toRustls env.limits env.now c env.reads)
    (hverdicts : ∀ verdict ∈ pass.verdicts, verdict = .keepWaiting) :
    PhaseInv env.limits pass.connection (log ++ pass.verdicts.map Act.verdict) := by
  have hreads := connectionReady_readsOnly env.tls.toRustls env.limits env.now hhandling env.reads
  have hawaits := (readLoop_received env.tls.toRustls env.limits env.now maxReadsPerEvent c
    env.reads h.awaits).1
  rw [← connectionReady_eq hhandling, ← hpass] at hawaits
  rw [← hpass] at hreads
  have hlog : dispatches (log ++ pass.verdicts.map Act.verdict) = dispatches log := by
    rw [dispatches_append, dispatches_map_verdict hverdicts, Nat.add_zero]
  rcases h.not_handling_cases hhandling with ⟨p, hphase, hbuffer, hstream, hzero⟩ | ⟨hphase, hle⟩
  · have hphase' : ∃ p', pass.connection.phase = .reading p' := by
      rcases hreads.phase with ⟨_, p', -, hp'⟩ | hsame
      · exact ⟨p', hp'⟩
      · exact ⟨p, hsame.trans hphase⟩
    obtain ⟨p', hp'⟩ := hphase'
    exact .reading p' hp' (hreads.writeBuffer.trans hbuffer) (hreads.staticStream.trans hstream)
      (hawaits hverdicts) (hlog.trans hzero)
  · refine .writing ?_ (hlog ▸ hle)
    rcases hreads.phase with ⟨p, _, hp, -⟩ | hsame
    · rw [hphase] at hp
      cases hp
    · exact hsame.trans hphase

/-- What is noted before a reply dispatches nothing. -/
theorem Reply.dispatches_notes {env : Env σ} {before stream : Option StaticStream}
    {verdict : ReadVerdict} {notes : List Act} {response : List UInt8}
    (hreply : Reply env before verdict notes stream response) : dispatches notes = 0 := by
  cases hreply with
  | refused | answered | served => rfl
  | declined request body forwarding hforwarding =>
      rcases hforwarding with rfl | ⟨bytes, rfl⟩ <;> rfl

/-- The first dispatched request is the only one. -/
theorem PhaseInv.dispatches_pass {env : Env σ} {pass : ReadPass σ} (h : PhaseInv env.limits c log)
    (hhandling : c.isHandlingRequest = false)
    (hpass : pass = connectionReady env.tls.toRustls env.limits env.now c env.reads) :
    dispatches log + dispatches (pass.verdicts.map Act.verdict) ≤ 1 := by
  obtain ⟨hone, hnone⟩ := pass_dispatches hhandling hpass h.awaits
  rcases h.not_handling_cases hhandling with ⟨p, -, -, -, hzero⟩ | ⟨hphase, hle⟩
  · omega
  · have := hnone hphase
    omega

theorem PhaseInv.resolves {env : Env σ} {pass : ReadPass σ} {request : RequestHead}
    {body : List UInt8} (h : PhaseInv env.limits c log) (hhandling : c.isHandlingRequest = false)
    (hpass : pass = connectionReady env.tls.toRustls env.limits env.now c env.reads)
    (hlast : pass.verdicts.getLast? = some (.dispatch request body)) (upstream : Upstream) :
    PhaseInv env.limits
      (pass.connection.beginResolving env.now (upstream.requestBytes request body))
      (log ++ (pass.verdicts.map Act.verdict
        ++ [.proxied, .forwarding (upstream.requestBytes request body)])) := by
  have hreads := connectionReady_readsOnly env.tls.toRustls env.limits env.now hhandling env.reads
  rw [← hpass] at hreads
  obtain ⟨p, hp⟩ := dispatched_reading hhandling hpass h.awaits (List.mem_of_getLast? hlast)
  rcases h.not_handling_cases hhandling with ⟨_, -, hbuffer, hstream, -⟩ | ⟨hphase, -⟩
  · refine .resolving _ rfl (hreads.writeBuffer.trans hbuffer) (hreads.staticStream.trans hstream)
      (upstream.requestBytes_ne_nil _ _) ?_
    simp only [dispatches_append]
    exact h.dispatches_pass hhandling hpass
  · rw [hphase] at hp
    cases hp

theorem PhaseInv.connects (h : PhaseInv limits c log) {resolution : ResolvingState}
    (hresolution : c.resolution = some resolution) (now : Instant) :
    PhaseInv limits (c.beginProxy (ProxyState.new now resolution.requestBuffer)) log := by
  rw [Connection.resolution_eq_some] at hresolution
  cases h with
  | reading _ hphase => rw [hphase] at hresolution; cases hresolution
  | resolving r hphase hbuffer hstream hrequest hlog =>
      rw [hphase] at hresolution
      injection hresolution with hresolution
      subst hresolution
      refine .proxying _ rfl hstream hrequest (Nat.zero_le _) ?_ (fun h => (by cases h))
        (fun h => absurd hbuffer h) rfl hlog
      -- nothing of the request has been written, and it is not empty
      have hpos : r.requestBuffer.length ≠ 0 := by
        simpa using hrequest
      constructor
      · intro heq
        exact absurd heq.symm hpos
      · intro heq
        cases heq
  | proxying p hphase => rw [hphase] at hresolution; cases hresolution
  | writing hphase => rw [hphase] at hresolution; cases hresolution

theorem dispatches_map_forwarded (chunks : List (List UInt8)) :
    dispatches (chunks.map Act.forwarded) = 0 := by
  unfold dispatches
  rw [List.countP_eq_zero]
  intro act hact
  obtain ⟨chunk, -, rfl⟩ := List.mem_map.mp hact
  simp [Act.isDispatch]

theorem PhaseInv.forwards (h : PhaseInv limits c log) {proxy proxy' : ProxyState}
    {chunks : List (List UInt8)} (hproxy : c.proxy = some proxy)
    (hphase : proxy.phase ≠ .readingResponse) (hforwards : Forwards proxy chunks proxy')
    (now : Instant) :
    PhaseInv limits { c.beginProxy proxy' with lastProgress := now }
      (log ++ chunks.map Act.forwarded) := by
  obtain ⟨hstream, hrequest, hoffset, hread, hstarted, hbuffer, heof⟩ := h.exchange hproxy
  have hunstarted : proxy.responseStarted = false := by
    rw [Bool.eq_false_iff]
    exact fun hs => hphase (hstarted hs)
  have hfits : chunks.flatten.length ≤ proxy.requestBuffer.length - proxy.requestOffset := by
    have := hforwards.accepted.length_le
    simpa [ProxyState.unforwarded] using this
  refine .proxying proxy' rfl hstream ?_ ?_ ?_ ?_ ?_ ?_ ?_
  · rw [hforwards.buffer]
    exact hrequest
  · rw [hforwards.buffer, hforwards.offset]
    omega
  · rw [hforwards.buffer, hforwards.phase]
    split_ifs with hdone <;> simp [hdone]
  · intro hs
    rw [hforwards.started, hunstarted] at hs
    cases hs
  · intro hne
    rw [hbuffer hne] at hunstarted
    cases hunstarted
  · rw [hforwards.eof]
    exact heof
  · rw [dispatches_append, dispatches_map_forwarded, Nat.add_zero]
    exact h.dispatches_le

/-- **Every move keeps what the phases say.** -/
theorem PhaseInv.move {env : Env σ} {event : TurnEvent} {s₀ s s' : Seat σ}
    (hc : s.connection = some c) (h : PhaseInv env.limits c s.log)
    (hmove : Move env event s₀ s s') : Phased env.limits s' := by
  have hle := h.dispatches_le
  have hsame {c₁ : Connection σ} : s.connection = some c₁ → c = c₁ := Seat.connection_unique hc
  -- the connection stays as it is, but for what the phases do not speak of
  have hput : ∀ {s'' : Seat σ} {c₁ : Connection σ} {acts : List Act}, s''.connection = some c₁ →
      s''.log = s.log ++ acts → dispatches acts = 0 → c₁.phase = c.phase →
      c₁.writeBuffer = c.writeBuffer → c₁.staticStream = c.staticStream →
      c₁.readBuffer = c.readBuffer → Phased env.limits s'' := by
    intro s'' c₁ acts hc₁ hlog hacts hphase hbuffer hstream hread
    refine leaves_put hc₁ (h.congr hphase hbuffer hstream hread ?_)
    rw [hlog, dispatches_append, hacts, Nat.add_zero]
  -- a response is queued
  have hresponse : ∀ {c₁ : Connection σ} {acts : List Act} {ok : Bool},
      c₁.phase = .writingResponse → dispatches (s.log ++ acts) ≤ 1 →
      Phased env.limits (s.settle env.tls.toRustls c₁ .write acts ok) := by
    intro c₁ acts ok hphase hacts
    refine leaves_settle (.writing hphase ?_) ?_
    · rw [dispatches_append]
      exact hacts
    · rw [dispatches_append]
      exact hacts
  -- the same connection is registered anew
  have hsettle : ∀ {c₁ : Connection σ} {interest : Interest} {acts : List Act} {ok : Bool},
      PhaseInv env.limits c₁ s.log → dispatches acts = 0 →
      Phased env.limits (s.settle env.tls.toRustls c₁ interest acts ok) := by
    intro c₁ interest acts ok hinv hacts
    refine leaves_settle (hinv.congr rfl rfl rfl rfl ?_) ?_
    · rw [dispatches_append, dispatches_append, hacts]
      rfl
    · rw [dispatches_append, dispatches_append, hacts]
      exact hle
  cases hmove with
  | rescheduled | drained | scheduled =>
      exact hput hc (List.append_nil _).symm rfl rfl rfl rfl rfl
  | flushed | counted => exact hput hc rfl rfl rfl rfl rfl rfl
  | touched hc₁ | spoiled hc₁ =>
      obtain rfl := hsame hc₁
      exact hput rfl (List.append_nil _).symm rfl rfl rfl rfl rfl
  | waited hc₁ _ _ _ hhandling pass hpass hverdicts =>
      obtain rfl := hsame hc₁
      exact leaves_put rfl (h.waited hhandling hpass hverdicts)
  | replied hc₁ _ _ _ hhandling pass hpass hlast hreply ok =>
      obtain rfl := hsame hc₁
      refine hresponse rfl ?_
      simp only [dispatches_append, hreply.dispatches_notes]
      exact h.dispatches_pass hhandling hpass
  | resolving hc₁ _ _ _ hhandling pass hpass hlast upstream bytes hbytes =>
      obtain rfl := hsame hc₁
      rw [hbytes]
      exact leaves_put rfl (h.resolves hhandling hpass hlast upstream)
  | connecting hc₁ resolution hresolution =>
      obtain rfl := hsame hc₁
      exact leaves_put rfl (h.connects hresolution env.now)
  | forwarded hc₁ hproxy hphase hforwards now hnow =>
      obtain rfl := hsame hc₁
      exact leaves_put rfl (h.forwards hproxy hphase hforwards now)
  | failed hc₁ _ _ _ _ ok =>
      refine hresponse rfl ?_
      rw [dispatches_append]
      exact hle
  | relayed hc₁ hproxy hphase _ bytes _ ok =>
      obtain rfl := hsame hc₁
      obtain ⟨hstream, hrequest, hoffset, hread, hstarted, hbuffer, heof⟩ := h.exchange hproxy
      exact hsettle (.proxying _ rfl hstream hrequest hoffset hread (fun _ => hphase)
        (fun _ => rfl) heof hle) rfl
  | wrote hc₁ | handed hc₁ | sentTls hc₁ =>
      obtain rfl := hsame hc₁
      exact hput rfl rfl rfl rfl rfl rfl rfl
  | chunk hc₁ hstream =>
      obtain rfl := hsame hc₁
      have hphase : c.phase = .writingResponse := by
        by_contra hne
        rw [h.stream_none hne] at hstream
        cases hstream
      exact hsettle (.writing hphase hle) rfl
  | closing hc₁ =>
      obtain rfl := hsame hc₁
      exact hsettle (h.congr (by rfl) (by rfl) (by rfl) (by rfl) rfl) rfl
  | emptied hc₁ hproxy =>
      obtain rfl := hsame hc₁
      obtain ⟨hstream, hrequest, hoffset, hread, hstarted, hbuffer, heof⟩ := h.exchange hproxy
      exact hsettle (.proxying _ (Connection.proxy_eq_some.mp hproxy) hstream hrequest hoffset hread
        hstarted (fun hne => absurd rfl hne) heof hle) rfl
  | awaiting hc₁ | idled hc₁ | flushing hc₁ =>
      obtain rfl := hsame hc₁
      exact hsettle h rfl
  | removed =>
      refine leaves_drop ?_
      rw [dispatches_append]
      exact hle

/-! ## §4. Offsets and ranks. -/

/-- The offset never passes the end of the write buffer. -/
theorem Move.offset_le {env : Env σ} {event : TurnEvent} {s₀ s s' : Seat σ}
    (hc : s.connection = some c) (h : c.writeOffset ≤ c.writeBuffer.length)
    (hmove : Move env event s₀ s s') (hc' : s'.connection = some c') :
    c'.writeOffset ≤ c'.writeBuffer.length := by
  have hsame {c₁ : Connection σ} : s.connection = some c₁ → c = c₁ := Seat.connection_unique hc
  have hkeep : ∀ {c₁ : Connection σ}, s.connection = some c₁ → c₁ = c' →
      c'.writeOffset ≤ c'.writeBuffer.length := by
    intro c₁ hc₁ heq
    rw [← heq, ← hsame hc₁]
    exact h
  have hpass : ∀ {pass : ReadPass σ}, c.isHandlingRequest = false →
      pass = connectionReady env.tls.toRustls env.limits env.now c env.reads →
      pass.connection.writeOffset ≤ pass.connection.writeBuffer.length := by
    intro pass hhandling hpass
    have hreads := connectionReady_readsOnly env.tls.toRustls env.limits env.now hhandling env.reads
    rw [hpass, hreads.writeOffset, hreads.writeBuffer]
    exact h
  cases hmove with
  | rescheduled => exact hkeep hc' rfl
  | drained hc₁ | scheduled hc₁ | flushed hc₁ | counted hc₁ => exact hkeep hc' rfl
  | touched hc₁ | spoiled hc₁ =>
      cases hc'
      exact hsame hc₁ ▸ h
  | waited hc₁ _ _ _ hhandling pass hp =>
      cases hc'
      obtain rfl := hsame hc₁
      exact hpass hhandling hp
  | resolving hc₁ _ _ _ hhandling pass hp =>
      cases hc'
      obtain rfl := hsame hc₁
      exact hpass hhandling hp
  | connecting hc₁ | forwarded hc₁ =>
      cases hc'
      exact hsame hc₁ ▸ h
  | replied | failed | relayed | emptied | chunk =>
      obtain ⟨-, rfl⟩ := settle_some hc'
      exact Nat.zero_le _
  | wrote hc₁ _ _ _ room =>
      cases hc'
      obtain rfl := hsame hc₁
      have hle : (c.unsent.take room).length ≤ c.writeBuffer.length - c.writeOffset := by
        rw [List.length_take, Connection.unsent, List.length_drop]
        exact Nat.min_le_right _ _
      show c.writeOffset + (c.unsent.take room).length ≤ c.writeBuffer.length
      omega
  | handed hc₁ hssl _ hwrite =>
      cases hc'
      obtain rfl := hsame hc₁
      rename_i written _ _
      have hle := env.tls.write_le _ _ _ _ hwrite
      rw [Connection.unsent, List.length_drop] at hle
      show c.writeOffset + written ≤ c.writeBuffer.length
      omega
  | sentTls hc₁ =>
      cases hc'
      exact hsame hc₁ ▸ h
  | awaiting hc₁ | idled hc₁ | flushing hc₁ =>
      obtain ⟨-, rfl⟩ := settle_some hc'
      exact hsame hc₁ ▸ h
  | closing hc₁ =>
      obtain ⟨-, rfl⟩ := settle_some hc'
      exact hsame hc₁ ▸ h
  | removed => cases hc'

/-- The order of the phases. -/
def ConnectionPhase.rank : ConnectionPhase → Nat
  | .reading _ => 0
  | .resolving _ => 1
  | .proxying _ => 2
  | .writingResponse => 3

theorem ConnectionPhase.rank_le (phase : ConnectionPhase) : phase.rank ≤ 3 := by
  cases phase <;> simp [ConnectionPhase.rank]

/-- **The phase only moves forward.** -/
theorem Move.rank_le {env : Env σ} {event : TurnEvent} {s₀ s s' : Seat σ}
    (hc : s.connection = some c) (h : PhaseInv env.limits c s.log)
    (hmove : Move env event s₀ s s') (hc' : s'.connection = some c') :
    c.phase.rank ≤ c'.phase.rank := by
  have hsame {c₁ : Connection σ} : s.connection = some c₁ → c = c₁ := Seat.connection_unique hc
  cases hmove with
  | rescheduled => rw [hsame hc']
  | drained | scheduled | flushed | counted => rw [hsame hc']
  | touched hc₁ | spoiled hc₁ | wrote hc₁ | handed hc₁ | sentTls hc₁ =>
      cases hc'
      exact le_of_eq (congrArg (fun c => c.phase.rank) (hsame hc₁))
  | waited hc₁ _ _ _ hhandling pass hp =>
      cases hc'
      obtain rfl := hsame hc₁
      have hreads := connectionReady_readsOnly env.tls.toRustls env.limits env.now hhandling env.reads
      rw [← hp] at hreads
      rcases hreads.phase with ⟨p, p', hbefore, hafter⟩ | heq
      · show _ ≤ pass.connection.phase.rank
        rw [hbefore, hafter]
        exact Nat.le_refl _
      · exact le_of_eq (congrArg ConnectionPhase.rank heq.symm)
  | replied =>
      obtain ⟨-, rfl⟩ := settle_some hc'
      exact c.phase.rank_le
  | failed =>
      obtain ⟨-, rfl⟩ := settle_some hc'
      exact c.phase.rank_le
  | resolving hc₁ _ _ _ hhandling pass hp hlast =>
      cases hc'
      obtain rfl := hsame hc₁
      obtain ⟨p, hphase⟩ := dispatched_reading hhandling hp h.awaits (List.mem_of_getLast? hlast)
      rw [hphase]
      exact Nat.zero_le _
  | connecting hc₁ resolution hresolution =>
      cases hc'
      obtain rfl := hsame hc₁
      rw [Connection.resolution_eq_some.mp hresolution]
      show 1 ≤ 2
      omega
  | forwarded hc₁ hproxy =>
      cases hc'
      obtain rfl := hsame hc₁
      rw [Connection.proxy_eq_some.mp hproxy]
      exact Nat.le_refl _
  | relayed hc₁ hproxy =>
      obtain ⟨-, rfl⟩ := settle_some hc'
      obtain rfl := hsame hc₁
      rw [Connection.proxy_eq_some.mp hproxy]
      exact Nat.le_refl _
  | chunk hc₁ | awaiting hc₁ | closing hc₁ | emptied hc₁ | idled hc₁ | flushing hc₁ =>
      obtain ⟨-, rfl⟩ := settle_some hc'
      exact le_of_eq (congrArg (fun c => c.phase.rank) (hsame hc₁))
  | removed => cases hc'

/-! ## §5. Every run. -/

/-- The phases as an invariant of seats. -/
def phaseRule (cfg : Config σ) : SeatRule cfg where
  Inv s c := PhaseInv cfg.limits c s.log ∧ c.writeOffset ≤ c.writeBuffer.length
  Gone log := dispatches log ≤ 1
  Guard _ := True
  fresh := by
    intro s c hfresh hc
    cases hfresh with
    | mk now index generation ssl interest write read =>
        cases hc
        refine ⟨.reading none rfl rfl rfl ?_ rfl, Nat.le_refl _⟩
        intro p hp
        cases hp
  poll _ h := h
  move := by
    intro env id io event s₀ s s' c₀ c henv _ _ _ _ _ hc _ hinv hmove
    subst henv
    obtain ⟨hlive, hgone⟩ := hinv.1.move hc hmove
    exact ⟨fun c' hc' => ⟨hlive c' hc', hmove.offset_le hc hinv.2 hc'⟩, hgone⟩

theorem Reachable.phases (h : Reachable cfg w) : (phaseRule cfg).Holds w :=
  (phaseRule cfg).holds h (fun _ _ => trivial)

theorem phaseGrowth (cfg : Config σ) :
    Growth (phaseRule cfg) (fun c c' => c.phase.rank ≤ c'.phase.rank) where
  refl c := Nat.le_refl _
  trans h₁ h₂ := Nat.le_trans h₁ h₂
  move := by
    intro env event s₀ s s' c c' henv hc hinv hmove hc'
    subst henv
    exact hmove.rank_le hc hinv.1 hc'

/-- What the phase of a connection says about its fields. -/
structure Connection.Coherent (limits : WorkerLimits) (c : Connection σ) : Prop where
  offset : c.writeOffset ≤ c.writeBuffer.length
  /-- There is something to write only in a response, or once the upstream's
  response is being read. -/
  buffer : c.writeBuffer = [] ∨ c.phase = .writingResponse
    ∨ ∃ proxy, c.phase = .proxying proxy ∧ proxy.phase = .readingResponse
  request : ∀ proxy, c.phase = .proxying proxy →
    proxy.requestOffset ≤ proxy.requestBuffer.length
      ∧ (proxy.requestOffset = proxy.requestBuffer.length ↔ proxy.phase = .readingResponse)
      ∧ (proxy.responseStarted = true → proxy.phase = .readingResponse)
  stream : c.staticStream.isSome → c.phase = .writingResponse
  pending : ∀ p, c.pendingRequest = some p → c.phase = .reading (some p)
    ∧ p.bodyStart ≤ p.bodyEnd ∧ p.bodyEnd ≤ limits.maxReadBufferSize
    ∧ c.readBuffer.length < p.bodyEnd

theorem PhaseInv.coherent (h : PhaseInv limits c log) (hoffset : c.writeOffset ≤ c.writeBuffer.length) :
    c.Coherent limits where
  offset := hoffset
  buffer := by
    cases h with
    | reading _ _ hbuffer => exact .inl hbuffer
    | resolving _ _ hbuffer => exact .inl hbuffer
    | proxying proxy hphase _ _ _ _ hstarted hbuffer =>
        by_cases hempty : c.writeBuffer = []
        · exact .inl hempty
        · exact .inr (.inr ⟨proxy, hphase, hstarted (hbuffer hempty)⟩)
    | writing hphase => exact .inr (.inl hphase)
  request := by
    intro proxy hproxy
    obtain ⟨-, -, hle, hread, hstarted, -⟩ := h.exchange (Connection.proxy_eq_some.mpr hproxy)
    exact ⟨hle, hread, hstarted⟩
  stream := by
    intro hsome
    cases h with
    | reading _ _ _ hnone => simp [hnone] at hsome
    | resolving _ _ _ hnone => simp [hnone] at hsome
    | proxying _ _ hnone => simp [hnone] at hsome
    | writing hphase => exact hphase
  pending := by
    intro p hp
    obtain ⟨hrecorded, hlt⟩ := h.awaits p hp
    obtain ⟨-, hfits, n, -, hend⟩ := hrecorded.1
    exact ⟨Connection.pendingRequest_eq_some.mp hp, by omega, hfits, hlt⟩

/-- **In every state of every run** each connection is coherent, at most one
request was ever dispatched on it, and from any state on, the phase of a
connection that stays in its slot only moves forward. -/
theorem phases_coherent_and_forward (h : Reachable cfg w) :
    (∀ slot occ, w.connections.get slot = some occ →
      occ.connection.Coherent cfg.limits ∧ dispatches occ.log ≤ 1)
    ∧ (∀ id log, HistoryItem.removed id log ∈ w.history → dispatches log ≤ 1)
    ∧ (∀ events w', replay cfg events w = .ok w' → ∀ slot occ',
        w'.connections.get slot = some occ' → w'.registrations slot = w.registrations slot →
        ∃ occ, w.connections.get slot = some occ ∧ occ.log <+: occ'.log
          ∧ occ.connection.phase.rank ≤ occ'.connection.phase.rank) := by
  have hholds := h.phases
  refine ⟨?_, hholds.gone, ?_⟩
  · intro slot occ hget
    obtain ⟨hphase, hoffset⟩ := hholds.live slot occ hget
    rw [seat_log hget] at hphase
    exact ⟨hphase.coherent hoffset, hphase.dispatches_le⟩
  · intro events w' hrun slot occ' hget' hcount
    obtain ⟨occ, hget, hdescends⟩ := (phaseGrowth cfg).atoms (fun _ => hholds)
      (replay_atoms hrun) (fun _ _ => trivial) hcount hget'
    exact ⟨occ, hget, hdescends.log, hdescends.rel⟩

/-- A client whose request is proxied, once the resolver has answered. -/
def resolvedRequest : List Event :=
  [acceptOne, .poll,
   firstReady .client true false
     { Io.quiet with reads := [.ok (asBytes "GET / HTTP/1.1\r\n\r\n".toList)] },
   .dnsResults [⟨firstId, some ["10.0.0.1:80".toList]⟩] (fun _ => .quiet)]

theorem phases_coherent_and_forward_proxying :
    ∃ w, Reachable (plainWorker proxyAll) w
      ∧ (∃ occ, w.connections.get 0 = some occ ∧ occ.connection.isProxying = true
        ∧ dispatches occ.log = 1
        ∧ occ.connection.Coherent roomyLimits) := by
  have hrun : bootsTo (plainWorker proxyAll) resolvedRequest
      (fun w => (w.connections.get 0).any (fun occ =>
        occ.connection.isProxying && dispatches occ.log == 1)) = true := by
    decide +kernel
  obtain ⟨w, hw, hp⟩ := reachable_of_bootsTo hrun
  obtain ⟨occ, hget, hocc⟩ := (Option.any_eq_true _ _).mp hp
  rw [Bool.and_eq_true, beq_iff_eq] at hocc
  exact ⟨w, hw, occ, hget, hocc.1, hocc.2,
    ((phases_coherent_and_forward hw).1 0 occ hget).1⟩

end Thwip.Readiness
