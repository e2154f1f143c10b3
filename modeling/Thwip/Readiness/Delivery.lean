/-
  Thwip.Readiness.Delivery — what a plaintext client of the readiness worker gets.

  The write buffer is replaced from many places.  `Output` says what was sent and
  what the buffer still holds: the upstream's response as far as it was taken, or
  one response of the worker's own.  It rests on `Listening`: as long as a
  response is being sent, the client is not heard.
-/
import Thwip.Readiness.Exchange

namespace Thwip.Readiness

open Thwip.Lib

variable {σ : Type} {cfg : Config σ} {w : ReadinessWorker σ} {limits : WorkerLimits}
  {c c' : Connection σ} {log acts : List Act}

/-! ## §1. The invariant. -/

/-- What was sent to a plaintext client, and what the buffer holds. -/
inductive Output (c : Connection σ) (log : List Act) : Prop where
  | relaying (hphase : c.phase ≠ .writingResponse)
      (hsent : toClient (exchanges log) ++ c.unsent = fromUpstream (exchanges log))
      (hresponses : responses (exchanges log) = [])
      (hturns : Throughout Exchange.InTurn (exchanges log))
  | responding (hphase : c.phase = .writingResponse) (hstream : c.staticStream = none)
      (hqueued : .queued c.writeBuffer ∈ log)
      (hsent : toClient (exchanges log) = c.writeBuffer.take c.writeOffset)
      (hrelayed : fromUpstream (exchanges log) = [])
      (hturns : Throughout Exchange.InTurn (exchanges log))
  | serving (hproxied : .proxied ∉ log) (hstream : c.staticStream ≠ none)

/-- A plaintext client's socket is registered for one direction at a time, and
for writing while a response is being sent. -/
structure Listening (s : Seat σ) (c : Connection σ) : Prop where
  interest : s.interest.readable = true → s.interest.writable = false
  polled : s.polled.readable = true → s.polled.writable = false
  scheduled : s.writeScheduled = true → c.phase = .writingResponse
  responding : c.phase = .writingResponse → c.staticStream = none →
    s.interest = .write
      ∧ (toClient (exchanges s.log) ≠ [] ∨ s.writeScheduled = true → s.polled.readable = false)

/-- Acts that move no bytes, of a connection with the same buffer. -/
theorem Output.mute (h : Output c log) (hmute : Mute acts)
    (hphase : c'.phase = .writingResponse ↔ c.phase = .writingResponse)
    (hstream : c'.staticStream = c.staticStream) (hbuffer : c'.writeBuffer = c.writeBuffer)
    (hoffset : c'.writeOffset = c.writeOffset) : Output c' (log ++ acts) := by
  have hsame : exchanges (log ++ acts) = exchanges log := by
    rw [exchanges_append, hmute.exchanges, List.append_nil]
  cases h with
  | relaying hp hsent hresponses hturns =>
      refine .relaying (fun hwriting => hp (hphase.mp hwriting)) ?_ ?_ ?_
      · rw [hsame, Connection.unsent, hbuffer, hoffset]
        exact hsent
      · rw [hsame]
        exact hresponses
      · rw [hsame]
        exact hturns
  | responding hp hs hqueued hsent hrelayed hturns =>
      refine .responding (hphase.mpr hp) (hstream.trans hs) ?_ ?_ ?_ ?_
      · rw [hbuffer]
        exact List.mem_append_left _ hqueued
      · rw [hsame, hbuffer, hoffset]
        exact hsent
      · rw [hsame]
        exact hrelayed
      · rw [hsame]
        exact hturns
  | serving hproxied hs =>
      refine .serving ?_ (by rw [hstream]; exact hs)
      intro hmem
      rcases List.mem_append.mp hmem with hmem | hmem
      · exact hproxied hmem
      · exact hmute.proxied hmem

/-! ## §2. Queueing and writing. -/

/-- Before a response is queued, a client that can be heard has got nothing. -/
theorem Output.unheard {s : Seat σ} (h : Output c s.log) (hlisten : Listening s c)
    (hroute : Route limits c s.log) (hread : s.polled.readable = true)
    (hhandling : c.isHandlingRequest = false) (hstream : c.staticStream = none) :
    toClient (exchanges s.log) = [] ∧ s.writeScheduled = false := by
  cases h with
  | relaying hphase hsent =>
      refine ⟨?_, ?_⟩
      · cases hroute with
        | here _ _ _ _ hrelayed =>
            rw [hrelayed] at hsent
            exact (List.append_eq_nil_iff.mp hsent).1
        | resolving r hp =>
            rw [Connection.isHandlingRequest_iff.mpr (.inl ⟨r, hp⟩)] at hhandling
            cases hhandling
        | proxying p hp =>
            rw [Connection.isHandlingRequest_iff.mpr (.inr ⟨p, hp⟩)] at hhandling
            cases hhandling
        | answered hp => exact absurd hp hphase
      · rw [Bool.eq_false_iff]
        exact fun hscheduled => hphase (hlisten.scheduled hscheduled)
  | responding hphase =>
      have hunread := (hlisten.responding hphase hstream).2
      rw [hread] at hunread
      refine ⟨?_, ?_⟩
      · by_contra hne
        cases hunread (.inl hne)
      · rw [Bool.eq_false_iff]
        intro hscheduled
        cases hunread (.inr hscheduled)
  | serving _ hsome => exact absurd hstream hsome

/-- A response is queued for a client that has got nothing. -/
theorem output_queued (acts : List Act) {response : List UInt8} (hphase : c.phase = .writingResponse)
    (hstream : c.staticStream = none) (hbuffer : c.writeBuffer = response)
    (hoffset : c.writeOffset = 0) (hsent : toClient (exchanges log) = [])
    (hrelayed : fromUpstream (exchanges log) = [])
    (hturns : Throughout Exchange.InTurn (exchanges log))
    (hacts : exchanges acts = [] ∨ ∃ bytes, exchanges acts = [.forwarding bytes]) :
    Output c (log ++ (acts ++ [.queued response])) := by
  have hturns' : Throughout Exchange.InTurn (exchanges (log ++ (acts ++ [.queued response]))) := by
    have hqueued : exchanges [.queued response] = [.queued response] := rfl
    rw [exchanges_append, exchanges_append, hqueued, ← List.append_assoc]
    rcases hacts with hnil | ⟨bytes, hbytes⟩
    · rw [hnil, List.append_nil]
      exact hturns.concat ⟨hsent, hrelayed⟩
    · have hforwarding : Exchange.InTurn (exchanges log) (.forwarding bytes) := trivial
      rw [hbytes]
      exact (hturns.concat hforwarding).concat ⟨by simpa using hsent, by simpa using hrelayed⟩
  refine .responding hphase hstream (by simp [hbuffer]) ?_ ?_ hturns'
  · rw [hoffset, List.take_zero]
    rcases hacts with hnil | ⟨bytes, hbytes⟩
    · simp [hnil, hsent]
    · simp [hbytes, hsent]
  · rcases hacts with hnil | ⟨bytes, hbytes⟩
    · simp [hnil, hrelayed]
    · simp [hbytes, hrelayed]

/-- The socket accepted the next bytes of the buffer. -/
theorem Output.wrote (h : Output c log) (now : Instant) (room : Nat) :
    Output (c.advance now (c.unsent.take room).length)
      (log ++ [.write (.wrote (c.unsent.take room))]) := by
  have hexchanges : exchanges (log ++ [.write (.wrote (c.unsent.take room))])
      = exchanges log ++ [.sent (c.unsent.take room)] := by
    rw [exchanges_append]
    rfl
  have htake : (c.unsent.take room) = c.unsent.take (c.unsent.take room).length :=
    List.prefix_iff_eq_take.mp (List.take_prefix room c.unsent)
  cases h with
  | relaying hphase hsent hresponses hturns =>
      refine .relaying hphase ?_ ?_ ?_
      · rw [hexchanges]
        have hrest : (c.advance now (c.unsent.take room).length).unsent
            = c.unsent.drop (c.unsent.take room).length := by
          unfold Connection.unsent Connection.advance
          rw [List.drop_drop]
        rw [hrest]
        simp only [toClient_append, toClient_cons, toClient_nil, Exchange.sentBytes,
          fromUpstream_append, fromUpstream_cons, Exchange.relayedBytes, fromUpstream_nil,
          List.append_nil, List.append_assoc]
        rw [← hsent]
        congr 1
        nth_rewrite 1 [htake]
        exact List.take_append_drop _ _
      · rw [hexchanges]
        simpa using hresponses
      · rw [hexchanges]
        exact hturns.concat trivial
  | responding hphase hstream hqueued hsent hrelayed hturns =>
      refine .responding hphase hstream (List.mem_append_left _ hqueued) ?_ ?_ ?_
      · rw [hexchanges]
        simp only [toClient_append, toClient_cons, toClient_nil, Exchange.sentBytes,
          List.append_nil, hsent]
        show _ = c.writeBuffer.take (c.writeOffset + (c.unsent.take room).length)
        rw [List.take_add]
        congr 1
      · rw [hexchanges]
        simpa using hrelayed
      · rw [hexchanges]
        exact hturns.concat trivial
  | serving hproxied hstream => exact .serving (by simpa using hproxied) hstream

/-! ## §3. Every move. -/

/-- The trace of a removed plaintext connection: what was sent up to then. -/
def OutputEnds (σ : Type) (trace : List Act) : Prop :=
  ∃ (c : Connection σ) (log : List Act) (site : RemovalSite) (unsent : List UInt8)
    (wantsWrite : Bool), trace = log ++ [.removed site unsent wantsWrite] ∧ Output c log

/-- What a move leaves. -/
structure Outputs (s : Seat σ) : Prop where
  live : ∀ c, s.connection = some c → Output c s.log
  gone : s.connection = none → OutputEnds σ s.log

theorem outputs_put {s : Seat σ} (hc : s.connection = some c) (h : Output c s.log) :
    Outputs s := by
  refine ⟨?_, fun hnone => by rw [hc] at hnone; cases hnone⟩
  intro c' hc'
  rw [hc] at hc'
  injection hc' with hc'
  exact hc' ▸ h

theorem outputs_settle {s : Seat σ} {tls : Rustls σ} {interest : Interest} {ok : Bool}
    (h : Output c (s.log ++ acts)) : Outputs (s.settle tls c interest acts ok) := by
  cases ok with
  | true => exact outputs_put rfl (h.mute (mute_single (by simp) rfl) Iff.rfl rfl rfl rfl)
  | false => exact ⟨fun c' hc' => (by cases hc'), fun _ => ⟨c, s.log ++ acts, _, _, _, rfl, h⟩⟩

/-- The relayed exchange of a request that is being handled. -/
theorem Output.handling (h : Output c log) (hinv : PhaseInv limits c log)
    (hhandling : c.isHandlingRequest = true) :
    toClient (exchanges log) ++ c.unsent = fromUpstream (exchanges log)
      ∧ responses (exchanges log) = [] ∧ Throughout Exchange.InTurn (exchanges log) := by
  cases h with
  | relaying _ hsent hresponses hturns => exact ⟨hsent, hresponses, hturns⟩
  | responding hphase =>
      unfold Connection.isHandlingRequest at hhandling
      rw [hphase] at hhandling
      cases hhandling
  | serving _ hstream =>
      obtain ⟨stream, hsome⟩ := Option.ne_none_iff_exists'.mp hstream
      rw [hinv.not_handling hsome] at hhandling
      cases hhandling

/-- What is noted before a reply moves no bytes. -/
theorem Reply.exchanges_notes {env : Env σ} {before stream : Option StaticStream}
    {verdict : ReadVerdict} {notes : List Act} {response : List UInt8}
    (hreply : Reply env before verdict notes stream response) :
    exchanges notes = [] ∨ ∃ bytes, exchanges notes = [.forwarding bytes] := by
  cases hreply with
  | refused => exact .inl rfl
  | answered => exact .inl rfl
  | served => exact .inl rfl
  | declined request body forwarding hforwarding =>
      rcases hforwarding with rfl | ⟨bytes, rfl⟩
      · exact .inl rfl
      · exact .inr ⟨bytes, rfl⟩

/-- A connection left without a file stream had none. -/
theorem Reply.stream_none {env : Env σ} {pass : ReadPass σ} {verdict : ReadVerdict}
    {notes : List Act} {stream : Option StaticStream} {response : List UInt8}
    (hreply : Reply env c.staticStream verdict notes stream response)
    (hinv : PhaseInv env.limits c log) (hhandling : c.isHandlingRequest = false)
    (hpass : pass = connectionReady env.tls.toRustls env.limits env.now c env.reads)
    (hlast : pass.verdicts.getLast? = some verdict) (hstream : stream = none) :
    c.staticStream = none := by
  cases hreply with
  | refused => exact hstream
  | answered => exact hstream
  | served request body =>
      obtain ⟨p, hp⟩ := dispatched_reading hhandling hpass hinv.awaits (List.mem_of_getLast? hlast)
      exact hinv.stream_none (by simp [hp])
  | declined => exact hstream

/-- A request that is answered here, or was, has got nothing from an upstream. -/
theorem Route.relayed_unhandled (h : Route limits c log) (hhandling : c.isHandlingRequest = false) :
    fromUpstream (exchanges log) = [] := by
  cases h with
  | here _ _ _ _ hr => exact hr
  | resolving r hp =>
      rw [Connection.isHandlingRequest_iff.mpr (.inl ⟨r, hp⟩)] at hhandling
      cases hhandling
  | proxying p hp =>
      rw [Connection.isHandlingRequest_iff.mpr (.inr ⟨p, hp⟩)] at hhandling
      cases hhandling
  | answered _ _ _ _ _ _ hr => exact hr

theorem Output.turns_of_none (h : Output c log) (hstream : c.staticStream = none) :
    Throughout Exchange.InTurn (exchanges log) := by
  cases h with
  | relaying _ _ _ hturns => exact hturns
  | responding _ _ _ _ _ hturns => exact hturns
  | serving _ hsome => exact absurd hstream hsome

/-- A reply to what was read. -/
theorem Output.replied {env : Env σ} {s : Seat σ} {pass : ReadPass σ} {verdict : ReadVerdict}
    {notes : List Act} {stream : Option StaticStream} {response : List UInt8}
    (h : Output c s.log) (hlisten : Listening s c) (hinv : PhaseInv env.limits c s.log)
    (hroute : Route env.limits c s.log) (hread : s.polled.readable = true)
    (hhandling : c.isHandlingRequest = false)
    (hpass : pass = connectionReady env.tls.toRustls env.limits env.now c env.reads)
    (hlast : pass.verdicts.getLast? = some verdict)
    (hreply : Reply env c.staticStream verdict notes stream response) :
    Output ({ pass.connection with staticStream := stream }.setResponse
        (boundedResponse env.limits response))
      (s.log ++ (pass.verdicts.map Act.verdict ++ notes
        ++ [.queued (boundedResponse env.limits response)])) := by
  -- the route says whether the request stays here
  have hthen := hroute.replied hinv hhandling hpass hlast hreply
  cases hstream : stream with
  | some file =>
      refine .serving ?_ (by simp [Connection.setResponse, Connection.beginResponse])
      subst hstream
      cases hthen with
      | here hproxied => exact hproxied
      | resolving _ hp => cases hp
      | proxying _ hp => cases hp
      | answered _ hnone => cases hnone
  | none =>
      have hnone := hreply.stream_none hinv hhandling hpass hlast hstream
      refine output_queued _ rfl rfl rfl rfl
        (h.unheard hlisten hroute hread hhandling hnone).1 (hroute.relayed_unhandled hhandling)
        (h.turns_of_none hnone) ?_
      rw [exchanges_append, exchanges_verdicts, List.nil_append]
      exact hreply.exchanges_notes

theorem Connection.mayFail.handling (h : c.mayFail) : c.isHandlingRequest = true := by
  rw [Connection.isHandlingRequest_iff]
  rcases h with hresolving | ⟨proxy, hproxy, -⟩
  · exact .inl (Connection.isResolving_iff.mp hresolving)
  · exact .inr ⟨proxy, Connection.proxy_eq_some.mp hproxy⟩

/-- As long as the exchange may fail, nothing came from the upstream. -/
theorem Route.relayed_nil (h : Route limits c log) (hmay : c.mayFail) :
    fromUpstream (exchanges log) = [] := by
  cases h with
  | here _ hnot =>
      rw [hmay.handling] at hnot
      cases hnot
  | resolving _ _ _ _ hr => exact hr
  | proxying p hp _ _ hr =>
      rcases hmay with hresolving | ⟨proxy, hproxy, hstarted, -⟩
      · obtain ⟨r, hresolution⟩ := Connection.isResolving_iff.mp hresolving
        rw [hp] at hresolution
        cases hresolution
      · rw [Connection.proxy_eq_some, hp] at hproxy
        injection hproxy with hproxy
        subst hproxy
        exact hr.mp hstarted
  | answered _ _ _ _ _ _ hr => exact hr

/-- An error that stands for the upstream's response. -/
theorem Output.failed {response : List UInt8} (h : Output c log) (hinv : PhaseInv limits c log)
    (hroute : Route limits c log) (hmay : c.mayFail) :
    Output (c.setResponse response) (log ++ [.queued response]) := by
  have hhandling := hmay.handling
  obtain ⟨hsent, -, hturns⟩ := h.handling hinv hhandling
  have hrelayed := hroute.relayed_nil hmay
  rw [hrelayed] at hsent
  exact output_queued [] rfl (hinv.stream_none (handling_phase hhandling)) rfl rfl
    (List.append_eq_nil_iff.mp hsent).1 hrelayed hturns (.inl rfl)

/-- A request goes to an upstream: the client has got nothing but what was relayed. -/
theorem Output.resolving {env : Env σ} {s : Seat σ} {pass : ReadPass σ} {request : RequestHead}
    {body : List UInt8} (h : Output c s.log) (hinv : PhaseInv env.limits c s.log)
    (hhandling : c.isHandlingRequest = false)
    (hpass : pass = connectionReady env.tls.toRustls env.limits env.now c env.reads)
    (hlast : pass.verdicts.getLast? = some (.dispatch request body)) (bytes : List UInt8) :
    Output (pass.connection.beginResolving env.now bytes)
      (s.log ++ (pass.verdicts.map Act.verdict ++ [.proxied, .forwarding bytes])) := by
  have hreads := connectionReady_readsOnly env.tls.toRustls env.limits env.now hhandling env.reads
  rw [← hpass] at hreads
  obtain ⟨p, hp⟩ := dispatched_reading hhandling hpass hinv.awaits (List.mem_of_getLast? hlast)
  cases h with
  | relaying _ hsent hresponses hturns =>
      have hexchanges : exchanges (s.log ++ (pass.verdicts.map Act.verdict
          ++ [.proxied, .forwarding bytes])) = exchanges s.log ++ [.forwarding bytes] := by
        simp
      have hforwarding : Exchange.InTurn (exchanges s.log) (.forwarding bytes) := trivial
      have hunsent : (pass.connection.beginResolving env.now bytes).unsent = c.unsent := by
        show pass.connection.unsent = c.unsent
        unfold Connection.unsent
        rw [hreads.writeBuffer, hreads.writeOffset]
      refine .relaying (by simp [Connection.beginResolving]) ?_ ?_ ?_
      · rw [hexchanges, hunsent]
        simpa using hsent
      · rw [hexchanges]
        simpa using hresponses
      · rw [hexchanges]
        exact hturns.concat hforwarding
  | responding hphase => rw [hphase] at hp; cases hp
  | serving _ hstream => exact absurd (hinv.stream_none (by simp [hp])) hstream

/-- **Every move on a plaintext connection.** -/
theorem Output.move {env : Env σ} {event : TurnEvent} {s₀ s s' : Seat σ} (hssl : c.ssl = none)
    (hc : s.connection = some c) (hinv : PhaseInv env.limits c s.log)
    (hroute : Route env.limits c s.log) (hlisten : Listening s c) (h : Output c s.log)
    (hmove : Move env event s₀ s s') : Outputs s' := by
  have hsame {c₁ : Connection σ} : s.connection = some c₁ → c = c₁ := Seat.connection_unique hc
  have hnil : Output c (s.log ++ []) := (List.append_nil s.log).symm ▸ h
  cases hmove with
  | rescheduled => exact outputs_put hc h
  | drained => exact outputs_put hc h
  | scheduled => exact outputs_put hc h
  | flushed => exact outputs_put hc (h.mute (mute_single (by simp) rfl) Iff.rfl rfl rfl rfl)
  | counted => exact outputs_put hc (h.mute (mute_single (by simp) rfl) Iff.rfl rfl rfl rfl)
  | touched hc₁ now =>
      obtain rfl := hsame hc₁
      have hsaid : Output { c with lastProgress := now } (s.log ++ []) :=
        h.mute mute_nil Iff.rfl rfl rfl rfl
      rw [List.append_nil] at hsaid
      exact outputs_put rfl hsaid
  | spoiled hc₁ hsome => exact (Seat.not_tls hc hssl hc₁ hsome).elim
  | waited hc₁ _ _ _ hhandling pass hpass hverdicts =>
      obtain rfl := hsame hc₁
      have hreads := connectionReady_readsOnly env.tls.toRustls env.limits env.now hhandling env.reads
      rw [← hpass] at hreads
      refine outputs_put rfl (h.mute (mute_verdicts _) ?_ hreads.staticStream hreads.writeBuffer
        hreads.writeOffset)
      rcases hreads.phase with ⟨p, p', hp, hp'⟩ | hphase
      · rw [hp, hp']
        simp
      · rw [hphase]
  | replied hc₁ _ _ hread hhandling pass hpass hlast hreply ok =>
      obtain rfl := hsame hc₁
      exact outputs_settle (h.replied hlisten hinv hroute hread hhandling hpass hlast hreply)
  | resolving hc₁ _ _ _ hhandling pass hpass hlast upstream bytes hbytes =>
      obtain rfl := hsame hc₁
      exact outputs_put rfl (h.resolving hinv hhandling hpass hlast bytes)
  | connecting hc₁ resolution hresolution =>
      obtain rfl := hsame hc₁
      obtain ⟨hsent, hresponses, hturns⟩ := h.handling hinv (Connection.handling_of_resolution hresolution)
      exact outputs_put rfl (.relaying (by simp [Connection.beginProxy]) hsent hresponses hturns)
  | forwarded hc₁ hproxy hphase hforwards now hnow =>
      obtain rfl := hsame hc₁
      obtain ⟨hsent, hresponses, hturns⟩ := h.handling hinv (Connection.handling_of_proxy hproxy)
      refine outputs_put rfl (.relaying (by simp [Connection.beginProxy]) ?_ ?_ ?_)
      · show toClient (exchanges (s.log ++ _)) ++ c.unsent = fromUpstream (exchanges (s.log ++ _))
        simpa [toClient_forwarded, fromUpstream_forwarded] using hsent
      · show responses (exchanges (s.log ++ _)) = []
        simpa [responses_forwarded] using hresponses
      · show Throughout Exchange.InTurn (exchanges (s.log ++ _))
        rw [exchanges_append, exchanges_forwarded]
        exact inTurn_forwarded hturns _
  | failed hc₁ hmay status message herror ok =>
      obtain rfl := hsame hc₁
      exact outputs_settle (h.failed hinv hroute hmay)
  | relayed hc₁ hproxy hphase hempty bytes hne ok =>
      obtain rfl := hsame hc₁
      obtain ⟨hsent, hresponses, hturns⟩ := h.handling hinv (Connection.handling_of_proxy hproxy)
      have hall : toClient (exchanges s.log) = fromUpstream (exchanges s.log) := by
        rw [← hsent, Connection.unsent, hempty, List.drop_nil, List.append_nil]
      have hexchanges : exchanges (s.log ++ [.relayed bytes])
          = exchanges s.log ++ [.relayed bytes] := by
        simp
      refine outputs_settle (.relaying (by simp [Connection.beginProxy]) ?_ ?_ ?_)
      · rw [hexchanges]
        simp [Connection.unsent, hall]
      · rw [hexchanges]
        simpa using hresponses
      · rw [hexchanges]
        exact hturns.concat hall
  | wrote hc₁ _ _ _ room =>
      obtain rfl := hsame hc₁
      exact outputs_put rfl (h.wrote env.now room)
  | handed hc₁ hsome => exact (Seat.not_tls hc hssl hc₁ hsome).elim
  | sentTls hc₁ hsome => exact (Seat.not_tls hc hssl hc₁ hsome).elim
  | chunk hc₁ hstream =>
      obtain rfl := hsame hc₁
      refine outputs_settle (.serving ?_ (by simp))
      cases h with
      | relaying hphase =>
          rw [hinv.stream_none hphase] at hstream
          cases hstream
      | responding _ hnone => rw [hnone] at hstream; cases hstream
      | serving hproxied => simpa using hproxied
  | awaiting hc₁ =>
      obtain rfl := hsame hc₁
      exact outputs_settle hnil
  | closing hc₁ hsome => exact (Seat.not_tls hc hssl hc₁ hsome).elim
  | emptied hc₁ hproxy hfinished ok =>
      obtain rfl := hsame hc₁
      obtain ⟨hsent, hresponses, hturns⟩ := h.handling hinv (Connection.handling_of_proxy hproxy)
      rw [(Connection.writeFinished_spec hfinished).1] at hsent
      refine outputs_settle (.relaying ?_ ?_ ?_ ?_)
      · exact handling_phase (Connection.handling_of_proxy hproxy)
      · simpa [Connection.unsent] using hsent
      · simpa using hresponses
      · simpa using hturns
  | idled hc₁ =>
      obtain rfl := hsame hc₁
      exact outputs_settle hnil
  | flushing hc₁ hsome =>
      obtain rfl := hsame hc₁
      rw [hssl] at hsome
      cases hsome
  | removed hc₁ hcause =>
      obtain rfl := hsame hc₁
      exact ⟨fun c' hc' => (by cases hc'), fun _ => ⟨c, s.log, _, _, _, rfl, h⟩⟩

/-! ## §4. The registration. -/

section Listening

variable {s s' : Seat σ}

theorem Listening.congr (h : Listening s c) (hinterest : s'.interest = s.interest)
    (hpolled : s'.polled = s.polled)
    (hscheduled : s'.writeScheduled = true → s.writeScheduled = true)
    (hphase : c'.phase = c.phase) (hstream : c'.staticStream = c.staticStream)
    (hsent : toClient (exchanges s'.log) = toClient (exchanges s.log)) : Listening s' c' where
  interest := by rw [hinterest]; exact h.interest
  polled := by rw [hpolled]; exact h.polled
  scheduled hwrite := hphase.trans (h.scheduled (hscheduled hwrite))
  responding hwriting hnone := by
    obtain ⟨hi, hunread⟩ := h.responding (hphase.symm.trans hwriting) (hstream.symm.trans hnone)
    refine ⟨hinterest.trans hi, ?_⟩
    rw [hsent, hpolled]
    intro hcause
    exact hunread (hcause.imp_right hscheduled)

/-- Before the response there is nothing to keep to but the one direction. -/
theorem Listening.before (h : Listening s c)
    (hinterest : s'.interest.readable = true → s'.interest.writable = false)
    (hpolled : s'.polled = s.polled)
    (hscheduled : s'.writeScheduled = s.writeScheduled)
    (hphase : c.phase ≠ .writingResponse) (hphase' : c'.phase ≠ .writingResponse) :
    Listening s' c' where
  interest := hinterest
  polled := by rw [hpolled]; exact h.polled
  scheduled hwrite := absurd (h.scheduled (hscheduled ▸ hwrite)) hphase
  responding hwriting := absurd hwriting hphase'

/-- A response was queued for a client that has got nothing, or a file is served. -/
theorem Listening.queued (h : Listening s c) (hinterest : s'.interest = .write)
    (hpolled : s'.polled = s.polled) (hphase' : c'.phase = .writingResponse)
    (hsent : c'.staticStream = none →
      toClient (exchanges s'.log) = [] ∧ s'.writeScheduled = false) : Listening s' c' where
  interest := by rw [hinterest]; exact fun hread => (by cases hread)
  polled := by rw [hpolled]; exact h.polled
  scheduled _ := hphase'
  responding _ hnone := by
    obtain ⟨hnothing, hwrite⟩ := hsent hnone
    refine ⟨hinterest, ?_⟩
    rintro (hne | hscheduled)
    · exact absurd hnothing hne
    · rw [hwrite] at hscheduled
      cases hscheduled

/-- A client that can be written to cannot be heard. -/
theorem Listening.unread (h : Listening s c) (hphase : c.phase = .writingResponse)
    (hnone : c.staticStream = none)
    (hmay : s.polled.writable = true ∨ s.writeScheduled = true) : s.polled.readable = false := by
  rcases hmay with hwritable | hscheduled
  · rw [Bool.eq_false_iff]
    intro hread
    rw [h.polled hread] at hwritable
    cases hwritable
  · exact (h.responding hphase hnone).2 (.inr hscheduled)

end Listening

theorem Listening.move {env : Env σ} {event : TurnEvent} {s₀ s s' : Seat σ} (hssl : c.ssl = none)
    (hc : s.connection = some c) (hinv : PhaseInv env.limits c s.log)
    (hroute : Route env.limits c s.log) (houtput : Output c s.log) (h : Listening s c)
    (hmove : Move env event s₀ s s') (hc' : s'.connection = some c') : Listening s' c' := by
  have hsame {c₁ : Connection σ} : s.connection = some c₁ → c = c₁ := Seat.connection_unique hc
  have hproxying : ∀ {proxy : ProxyState}, c.proxy = some proxy → c.phase ≠ .writingResponse :=
    fun hproxy => handling_phase (Connection.handling_of_proxy hproxy)
  cases hmove with
  | rescheduled =>
      obtain rfl := hsame hc'
      exact h.congr rfl rfl id rfl rfl rfl
  | drained =>
      obtain rfl := hsame hc'
      refine h.congr rfl rfl ?_ rfl rfl rfl
      intro hwrite
      exact (Bool.and_eq_true _ _ ▸ hwrite : s.writeScheduled = true ∧ _).1
  | scheduled hc₁ hphase hmay =>
      obtain rfl := hsame hc'
      obtain rfl := hsame hc₁
      have hwriting := Connection.isWritingResponse_iff.mp hphase
      exact ⟨h.interest, h.polled, fun _ => hwriting,
        fun _ hnone => ⟨(h.responding hwriting hnone).1, fun _ => h.unread hwriting hnone hmay⟩⟩
  | flushed =>
      obtain rfl := hsame hc'
      exact h.congr rfl rfl id rfl rfl (by simp [Seat.note])
  | counted =>
      obtain rfl := hsame hc'
      exact h.congr rfl rfl id rfl rfl (by simp [Seat.note])
  | touched hc₁ =>
      obtain rfl := hsame hc₁
      cases hc'
      exact h.congr rfl rfl id rfl rfl rfl
  | spoiled hc₁ hsome => exact (Seat.not_tls hc hssl hc₁ hsome).elim
  | waited hc₁ _ _ _ hhandling pass hpass hverdicts =>
      obtain rfl := hsame hc₁
      cases hc'
      have hreads := connectionReady_readsOnly env.tls.toRustls env.limits env.now hhandling env.reads
      rw [← hpass] at hreads
      rcases hreads.phase with ⟨p, p', hp, hp'⟩ | hphase
      · exact h.before h.interest rfl rfl (by simp [hp]) (by simp [hp'])
      · exact h.congr rfl rfl id hphase hreads.staticStream (by simp [Seat.note, Seat.put])
  | replied hc₁ _ _ hread hhandling pass hpass hlast hreply ok =>
      obtain rfl := hsame hc₁
      obtain ⟨rfl, rfl⟩ := settle_some hc'
      refine h.queued rfl rfl rfl ?_
      intro hstream
      obtain ⟨hnothing, hwrite⟩ := houtput.unheard h hroute hread hhandling
        (hreply.stream_none hinv hhandling hpass hlast hstream)
      refine ⟨?_, hwrite⟩
      show toClient (exchanges (s.log ++ _ ++ _)) = []
      rcases hreply.exchanges_notes with hnotes | ⟨bytes, hnotes⟩
      · simp [hnotes, hnothing]
      · simp [hnotes, hnothing]
  | resolving hc₁ _ _ _ hhandling pass hpass hlast =>
      obtain rfl := hsame hc₁
      cases hc'
      obtain ⟨p, hp⟩ := dispatched_reading hhandling hpass hinv.awaits (List.mem_of_getLast? hlast)
      exact h.before h.interest rfl rfl (by simp [hp]) (by simp [Connection.beginResolving])
  | connecting hc₁ resolution hresolution =>
      obtain rfl := hsame hc₁
      cases hc'
      rw [Connection.resolution_eq_some] at hresolution
      exact h.before h.interest rfl rfl (by simp [hresolution]) (by simp [Connection.beginProxy])
  | forwarded hc₁ hproxy =>
      obtain rfl := hsame hc₁
      cases hc'
      exact h.before h.interest rfl rfl (hproxying hproxy) (by simp [Connection.beginProxy])
  | failed hc₁ hmay status message herror ok =>
      obtain rfl := hsame hc₁
      obtain ⟨rfl, rfl⟩ := settle_some hc'
      have hhandling := hmay.handling
      obtain ⟨hsent, -⟩ := houtput.handling hinv hhandling
      rw [hroute.relayed_nil hmay] at hsent
      refine h.queued rfl rfl rfl (fun _ => ⟨?_, ?_⟩)
      · show toClient (exchanges (s.log ++ _ ++ _)) = []
        simp [(List.append_eq_nil_iff.mp hsent).1]
      · show s.writeScheduled = false
        rw [Bool.eq_false_iff]
        exact fun hscheduled => handling_phase hhandling (h.scheduled hscheduled)
  | relayed hc₁ hproxy hphase hempty bytes hne ok =>
      obtain rfl := hsame hc₁
      obtain ⟨rfl, rfl⟩ := settle_some hc'
      exact h.before (fun hread => (by cases hread)) rfl rfl (hproxying hproxy)
        (by simp [Connection.beginProxy])
  | wrote hc₁ hmay =>
      obtain rfl := hsame hc₁
      cases hc'
      exact ⟨h.interest, h.polled, h.scheduled, fun hwriting hnone =>
        ⟨(h.responding hwriting hnone).1, fun _ => h.unread hwriting hnone hmay⟩⟩
  | handed hc₁ hsome => exact (Seat.not_tls hc hssl hc₁ hsome).elim
  | sentTls hc₁ hsome => exact (Seat.not_tls hc hssl hc₁ hsome).elim
  | chunk hc₁ hstream =>
      obtain rfl := hsame hc₁
      obtain ⟨-, rfl⟩ := settle_some hc'
      exact ⟨fun hread => (by cases hread), h.polled, h.scheduled,
        fun _ hnone => (by cases hnone)⟩
  | awaiting hc₁ hstream =>
      obtain rfl := hsame hc₁
      obtain ⟨-, rfl⟩ := settle_some hc'
      refine ⟨fun _ => rfl, h.polled, h.scheduled, ?_⟩
      intro _ hnone
      rw [hnone] at hstream
      cases hstream
  | closing hc₁ hsome => exact (Seat.not_tls hc hssl hc₁ hsome).elim
  | emptied hc₁ hproxy hfinished ok =>
      obtain rfl := hsame hc₁
      obtain ⟨rfl, rfl⟩ := settle_some hc'
      exact h.before (fun _ => rfl) rfl rfl (hproxying hproxy) (hproxying hproxy)
  | idled hc₁ hfinished hphase ok =>
      obtain rfl := hsame hc₁
      obtain ⟨rfl, rfl⟩ := settle_some hc'
      have hother : c.phase ≠ .writingResponse := by
        rcases hphase with hsome | ⟨hnot, -⟩
        · rw [hssl] at hsome
          cases hsome
        · intro hwriting
          rw [Connection.isWritingResponse_iff.mpr hwriting] at hnot
          cases hnot
      exact h.before (fun _ => rfl) rfl rfl hother hother
  | flushing hc₁ hsome =>
      obtain rfl := hsame hc₁
      rw [hssl] at hsome
      cases hsome
  | removed => cases hc'

/-! ## §5. Every run. -/

/-- What a plaintext client gets, as an invariant of seats. -/
def plainRule (cfg : Config σ) : (routeRule cfg).rule.Over where
  Inv s c := c.ssl = none → Listening s c ∧ Output c s.log
  Gone log := log.head? = some (.accepted false) → OutputEnds σ log
  Guard _ := True
  fresh := by
    intro s c hfresh hc _
    cases hfresh with
    | mk now index generation ssl interest write read hinterest =>
        cases hc
        refine ⟨⟨?_, fun h => (by cases h), fun h => (by cases h), fun h => (by cases h)⟩,
          .relaying (by simp [Connection.fresh]) rfl rfl ?_⟩
        · rcases hinterest with rfl | rfl
          · exact fun _ => rfl
          · exact fun h => (by cases h)
        · exact throughout_nil
  poll := by
    intro s c _ _ h hssl
    obtain ⟨hlisten, houtput⟩ := h hssl
    refine ⟨⟨hlisten.interest, hlisten.interest, hlisten.scheduled, ?_⟩, houtput⟩
    intro hwriting hnone
    have hinterest := (hlisten.responding hwriting hnone).1
    exact ⟨hinterest, fun _ => by rw [hinterest]; rfl⟩
  move := by
    intro env id io event s₀ s s' c₀ c henv _ _ _ _ _ _ hc _ hroute hinv hmove
    subst henv
    obtain ⟨⟨hphase, -⟩, hopens, hway⟩ := hroute
    have hkept := hmove.kept
    refine ⟨?_, ?_⟩
    · intro c' hc' hssl'
      obtain ⟨c₁, hc₁, hsame⟩ := hkept.client c' hc'
      rw [hc] at hc₁
      injection hc₁ with hc₁
      subst hc₁
      have hssl : c.ssl = none := by
        have hsome := hsame.ssl
        rw [hssl'] at hsome
        simpa using hsome.symm
      obtain ⟨hlisten, houtput⟩ := hinv hssl
      exact ⟨hlisten.move hssl hc hphase hway houtput hmove hc',
        (houtput.move hssl hc hphase hway hlisten hmove).live c' hc'⟩
    · intro hnone hhead
      have hssl : c.ssl = none := by
        obtain ⟨later, hlater⟩ := hkept.log
        unfold Connection.OpensWith at hopens
        rw [← hlater, List.head?_append, hopens] at hhead
        simpa using hhead
      obtain ⟨hlisten, houtput⟩ := hinv hssl
      exact (houtput.move hssl hc hphase hway hlisten hmove).gone hnone

/-- What the way of a request says of its trace alone. -/
theorem Route.trace (h : Route limits c log) :
    (toUpstream (exchanges log) = []
        ∨ ∃ request, requests (exchanges log) = [request] ∧ toUpstream (exchanges log) <+: request)
      ∧ (.proxied ∈ log → ∀ response ∈ responses (exchanges log), IsErrorResponse response) := by
  cases h with
  | here hproxied _ _ hforwarded => exact ⟨.inl hforwarded, fun hmem => absurd hmem hproxied⟩
  | resolving _ _ _ hforwarded _ hresponses =>
      refine ⟨.inl hforwarded, ?_⟩
      rw [hresponses]
      exact fun _ response hmem => (by cases hmem)
  | proxying p _ hrequests hforwarded _ hresponses =>
      refine ⟨.inr ⟨p.requestBuffer, hrequests, ?_⟩, ?_⟩
      · rw [hforwarded]
        exact List.take_prefix _ _
      · rw [hresponses]
        exact fun _ response hmem => (by cases hmem)
  | answered _ _ _ _ _ hforwarded _ herrors => exact ⟨hforwarded, fun _ => herrors⟩

/-- Together: what a proxied connection owes to both sides. -/
theorem Output.relays (h : Output c log) (hproxied : .proxied ∈ log)
    (hupstream : toUpstream (exchanges log) = []
      ∨ ∃ request, requests (exchanges log) = [request] ∧ toUpstream (exchanges log) <+: request)
    (herrors : ∀ response ∈ responses (exchanges log), IsErrorResponse response) :
    Relays (exchanges log) := by
  cases h with
  | relaying _ hsent hresponses hturns =>
      exact ⟨hupstream, .inl ⟨hresponses, ⟨_, hsent⟩⟩, hturns⟩
  | responding _ _ hqueued hsent hrelayed hturns =>
      have hmem := mem_responses.mpr (queued_mem_exchanges.mpr hqueued)
      refine ⟨hupstream, .inr ⟨hrelayed, _, hmem, herrors _ hmem, ?_⟩, hturns⟩
      rw [hsent]
      exact List.take_prefix _ _
  | serving hnot => exact absurd hproxied hnot

/-- **The readiness worker relays.** In every state of every run, a plaintext
connection whose request was proxied has given both sides what they are owed;
so had each one that was removed. -/
theorem Reachable.relays (h : Reachable cfg w) :
    (∀ slot occ, w.connections.get slot = some occ → occ.connection.ssl = none →
        .proxied ∈ occ.log → Relays (exchanges occ.log))
      ∧ ∀ id log, HistoryItem.removed id log ∈ w.history → log.head? = some (.accepted false) →
          .proxied ∈ log → Relays (exchanges log) := by
  have hholds := (plainRule cfg).rule.holds h (fun _ _ => ⟨⟨trivial, trivial⟩, trivial⟩)
  refine ⟨?_, ?_⟩
  · intro slot occ hget hssl hproxied
    obtain ⟨⟨-, -, hroute⟩, houtput⟩ := hholds.live slot occ hget
    rw [seat_log hget] at hroute
    obtain ⟨hupstream, herrors⟩ := hroute.trace
    have hsaid := (houtput hssl).2
    rw [seat_log hget] at hsaid
    exact hsaid.relays hproxied hupstream (herrors hproxied)
  · intro id log hremoved hhead hproxied
    obtain ⟨⟨-, hroute⟩, houtput⟩ := hholds.gone id log hremoved
    obtain ⟨c, log₁, site, unsent, wants, rfl, hsaid⟩ := houtput hhead
    obtain ⟨c', log₂, site', unsent', wants', heq, hway, -⟩ := hroute
    obtain ⟨rfl, -⟩ := List.append_inj' heq rfl
    have hexchanges : exchanges (log₁ ++ [.removed site unsent wants]) = exchanges log₁ := by
      simp
    have hearlier : .proxied ∈ log₁ := by
      simpa using hproxied
    obtain ⟨hupstream, herrors⟩ := hway.trace
    rw [hexchanges]
    exact hsaid.relays hearlier hupstream (herrors hearlier)

end Thwip.Readiness
