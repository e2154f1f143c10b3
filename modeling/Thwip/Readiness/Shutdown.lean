/-
  Thwip.Readiness.Shutdown — what a graceful shutdown does to responses under way.

  `begin_shutdown` keeps the connections with something in their write buffer or
  file stream, and `write_ready` closes a proxied connection as soon as its buffer
  is written.  Both look at the buffer: whether the upstream has more to say, or
  the session has ciphertext left, they do not ask.
-/
import Thwip.Readiness.Delivery
import Thwip.Readiness.Timeouts

namespace Thwip.Readiness

open Thwip.Lib
open Relation (ReflTransGen)

variable {σ : Type} {cfg : Config σ} {w w' : ReadinessWorker σ} {limits : WorkerLimits}
  {c c' : Connection σ} {log acts : List Act} {slot : Nat}

/-! ## §1. What is asked of a removal. -/

def Act.sendsTls : Act → Bool
  | .write (.sentTls ..) => true
  | _ => false

/-- Bytes of a response have reached the client: its socket took some, or it took
ciphertext after the session had been handed some. -/
def begun : List Act → Bool
  | [] => false
  | .write (.wrote _) :: _ => true
  | .write (.handed _) :: later => later.any Act.sendsTls || begun later
  | _ :: later => begun later

/-- Bytes of a response left the write buffer. -/
def Act.takesResponse : Act → Bool
  | .write (.wrote _) | .write (.handed _) => true
  | _ => false

theorem begun_takes : ∀ {log : List Act}, begun log = true → log.any Act.takesResponse = true
  | [], h => by cases h
  | act :: later, h => by
      rw [List.any_cons, Bool.or_eq_true]
      cases act with
      | write act =>
          cases act with
          | wrote | handed => exact .inl rfl
          | sentTls => exact .inr (begun_takes h)
      | _ => exact .inr (begun_takes h)

theorem verdicts_take (verdicts : List ReadVerdict) :
    (verdicts.map Act.verdict).any Act.takesResponse = false := by
  rw [List.any_map, List.any_eq_false]
  intro verdict _
  exact Bool.false_ne_true

theorem forwarded_take (chunks : List (List UInt8)) :
    (chunks.map Act.forwarded).any Act.takesResponse = false := by
  rw [List.any_map, List.any_eq_false]
  intro chunk _
  exact Bool.false_ne_true

theorem Reply.notes_take {env : Env σ} {before stream : Option StaticStream}
    {verdict : ReadVerdict} {notes : List Act} {response : List UInt8}
    (h : Reply env before verdict notes stream response) : notes.any Act.takesResponse = false := by
  cases h with
  | refused | answered | served => rfl
  | declined _ _ _ hforwarding =>
      rcases hforwarding with rfl | ⟨bytes, rfl⟩
      · rfl
      · rfl

/-- Bytes leave the write buffer only if it holds some. -/
theorem Move.takes {env : Env σ} {event : TurnEvent} {s₀ s s' : Seat σ}
    (hmove : Move env event s₀ s s') (hc : s.connection = some c) (hlive : s'.connection.isSome = true)
    (htakes : s'.log.any Act.takesResponse = true) :
    s.log.any Act.takesResponse = true ∨ c.writeOffset ≠ c.writeBuffer.length := by
  have hsame {c₁ : Connection σ} (hc₁ : s.connection = some c₁) : c₁ = c :=
    Seat.connection_unique hc₁ hc
  have hadds : ∀ {acts : List Act}, acts.any Act.takesResponse = false →
      (s.log ++ acts).any Act.takesResponse = true → s.log.any Act.takesResponse = true := by
    intro acts hacts h
    rw [List.any_append, hacts, Bool.or_false] at h
    exact h
  have hsettle : ∀ {c₁ : Connection σ} {interest : Interest} {acts : List Act} {ok : Bool},
      (s.settle env.tls.toRustls c₁ interest acts ok).connection.isSome = true →
      acts.any Act.takesResponse = false →
      (s.settle env.tls.toRustls c₁ interest acts ok).log.any Act.takesResponse = true →
      s.log.any Act.takesResponse = true := by
    intro c₁ interest acts ok hsome hacts h
    cases ok with
    | true => exact hadds hacts (by simpa [Seat.settle, Act.takesResponse] using h)
    | false => cases hsome
  cases hmove with
  | rescheduled | drained | scheduled | touched | spoiled | connecting => exact .inl htakes
  | flushed | counted => exact .inl (hadds rfl htakes)
  | waited => exact .inl (hadds (verdicts_take _) htakes)
  | replied _ _ _ _ _ pass _ _ hreply ok =>
      refine .inl (hsettle hlive ?_ htakes)
      rw [List.any_append, List.any_append, verdicts_take, hreply.notes_take]
      rfl
  | resolving =>
      refine .inl (hadds ?_ htakes)
      rw [List.any_append, verdicts_take]
      rfl
  | forwarded => exact .inl (hadds (forwarded_take _) htakes)
  | failed | relayed | chunk | awaiting | closing | emptied | idled | flushing =>
      exact .inl (hsettle hlive rfl htakes)
  | wrote hc₁ _ _ hunsent => exact .inr (hsame hc₁ ▸ hunsent)
  | handed hc₁ _ hunsent => exact .inr (hsame hc₁ ▸ Nat.ne_of_lt hunsent)
  | sentTls => exact .inl (hadds rfl htakes)
  | removed => cases hlive

/-- A connection that writes a response has queued it. -/
theorem Move.queues {env : Env σ} {event : TurnEvent} {s₀ s s' : Seat σ}
    (hmove : Move env event s₀ s s') (hc : s.connection = some c) (hc' : s'.connection = some c')
    (hphase : c'.phase = .writingResponse) :
    c.phase = .writingResponse ∨ ∃ response, .queued response ∈ s'.log := by
  have hsame {c₁ : Connection σ} (hc₁ : s.connection = some c₁) : c₁ = c :=
    Seat.connection_unique hc₁ hc
  cases hmove with
  | rescheduled | drained | scheduled | flushed | counted =>
      exact .inl (hsame hc' ▸ hphase)
  | touched hc₁ | spoiled hc₁ | wrote hc₁ | handed hc₁ | sentTls hc₁ =>
      cases hc'
      exact .inl (hsame hc₁ ▸ hphase)
  | awaiting hc₁ | idled hc₁ | flushing hc₁ | chunk hc₁ | emptied hc₁ | closing hc₁ =>
      obtain ⟨-, rfl⟩ := settle_some hc'
      exact .inl (hsame hc₁ ▸ hphase)
  | waited hc₁ _ _ _ hhandling pass hpass =>
      obtain rfl := hsame hc₁
      cases hc'
      have hreads := connectionReady_readsOnly env.tls.toRustls env.limits env.now hhandling env.reads
      rw [← hpass] at hreads
      rcases hreads.phase with ⟨p, p', -, hafter⟩ | heq
      · change pass.connection.phase = _ at hphase
        rw [hafter] at hphase
        cases hphase
      · exact .inl (heq ▸ hphase)
  | resolving | connecting | forwarded =>
      cases hc'
      cases hphase
  | relayed =>
      obtain ⟨-, rfl⟩ := settle_some hc'
      cases hphase
  | replied =>
      obtain ⟨rfl, -⟩ := settle_some hc'
      exact .inr ⟨_, List.mem_append_left _ (List.mem_append_right _ (List.mem_append_right _
        List.mem_cons_self))⟩
  | failed =>
      obtain ⟨rfl, -⟩ := settle_some hc'
      exact .inr ⟨_, List.mem_append_left _ (List.mem_append_right _ List.mem_cons_self)⟩
  | removed => cases hc'

/-! ## §3. Every run. -/

/-- What has been written, and what is being written, is on record. -/
structure Answering (s : Seat σ) (c : Connection σ) : Prop where
  taken : s.log.any Act.takesResponse = true → 2 ≤ c.phase.rank
  queued : c.phase = .writingResponse → ∃ response, .queued response ∈ s.log

/-- There is something to write only once the request is with an upstream, or
answered. -/
theorem PhaseInv.rank_of_buffer (h : PhaseInv limits c log) (hne : c.writeBuffer ≠ []) :
    2 ≤ c.phase.rank := by
  cases h with
  | reading _ _ hnil => exact absurd hnil hne
  | resolving _ _ hnil => exact absurd hnil hne
  | proxying _ hphase => rw [hphase]; exact Nat.le_refl _
  | writing hphase => rw [hphase]; exact Nat.le_succ _

theorem Answering.move {env : Env σ} {event : TurnEvent} {s₀ s s' : Seat σ} (h : Answering s c)
    (hinv : PhaseInv env.limits c s.log) (hoffset : c.writeOffset ≤ c.writeBuffer.length)
    (hc : s.connection = some c) (hmove : Move env event s₀ s s') (hc' : s'.connection = some c') :
    Answering s' c' := by
  have hrank := hmove.rank_le hc hinv hc'
  refine ⟨?_, ?_⟩
  · intro htakes
    rcases hmove.takes hc (by rw [hc']; rfl) htakes with hbefore | hunsent
    · exact (h.taken hbefore).trans hrank
    · have hne : c.writeBuffer ≠ [] := by
        rintro hnil
        rw [hnil] at hoffset hunsent
        exact hunsent (Nat.le_zero.mp hoffset)
      exact (hinv.rank_of_buffer hne).trans hrank
  · intro hphase
    rcases hmove.queues hc hc' hphase with hbefore | hnow
    · obtain ⟨response, hmem⟩ := h.queued hbefore
      exact ⟨response, hmove.kept.log.subset hmem⟩
    · exact hnow

theorem runTurn_draining {io : Io} {id : ConnectionId} {event : TurnEvent}
    (hrun : w.runTurn cfg io id event = .ok w') : w'.draining = w.draining := by
  obtain ⟨t, -, rfl⟩ := runTurn_eq hrun
  rfl

/-- Turns neither give out a slot nor end the draining. -/
structure Turned (slot : Nat) (w w' : ReadinessWorker σ) : Prop where
  registrations : w'.registrations slot = w.registrations slot
  draining : w.draining = true → w'.draining = true

theorem Turned.refl : Turned slot w w := ⟨rfl, id⟩

theorem Turned.trans {w₁ w₂ w₃ : ReadinessWorker σ} (h : Turned slot w₁ w₂)
    (h' : Turned slot w₂ w₃) : Turned slot w₁ w₃ :=
  ⟨h'.registrations.trans h.registrations, fun hdraining => h'.draining (h.draining hdraining)⟩

theorem Turned.turn {io : Io} {id : ConnectionId} {event : TurnEvent}
    (hrun : w.runTurn cfg io id event = .ok w') : Turned slot w w' :=
  ⟨registrations_turn hrun, fun hdraining => (runTurn_draining hrun).trans hdraining⟩

theorem Turned.turns {io : Nat → Io} {turns : List (ConnectionId × TurnEvent)}
    (hrun : runTurns cfg io turns w = .ok w') : Turned slot w w' := by
  unfold runTurns at hrun
  refine foldlM_ok (fun _ w₁ => Turned slot w w₁) ?_ .refl hrun
  rintro ⟨turn, index⟩ rest w₁ w₂ hbefore hstep
  exact hbefore.trans (.turn hstep)

theorem Turned.due {io : Io} {due : Option ConnectionId} {event : TurnEvent}
    (hrun : runDue cfg io due event w = .ok w') : Turned slot w w' := by
  unfold runDue at hrun
  split at hrun
  · injection hrun with hrun
    exact hrun ▸ .refl
  · exact .turn hrun

theorem Turned.beginShutdown {now : Instant} {io : Nat → Io}
    (hbegin : beginShutdown cfg now io w = .ok w') : Turned slot w w' ∧ w'.draining = true := by
  have hpass : Turned slot { w with draining := true, drainStartedAt := some now } w' :=
    .turns hbegin
  exact ⟨⟨hpass.registrations, fun _ => hpass.draining rfl⟩, hpass.draining rfl⟩

theorem Turned.loopTop {now : Instant} {io : Nat → Io}
    (hrun : loopTop cfg now io w = .ok w') :
    Turned slot w w' := by
  have hrest : ∀ {w₁ : ReadinessWorker σ},
      (if w₁.draining && w₁.connections.count == 0 then .error .returned
        else if w₁.drainDeadlineExpired cfg now then
          slabPass cfg io (fun _ => some .drainDeadline) { w₁ with finished := true }
        else .ok w₁) = Except.ok w' → Turned slot w₁ w' := by
    intro w₁ hrun
    split_ifs at hrun
    · have hpass : Turned slot { w₁ with finished := true } w' := .turns hrun
      exact ⟨hpass.registrations, hpass.draining⟩
    · injection hrun with hrun
      exact hrun ▸ .refl
  unfold Readiness.loopTop at hrun
  simp only [bind, Except.bind, pure, Except.pure] at hrun
  split at hrun
  · cases hbegin : Readiness.beginShutdown cfg now io w with
    | error e =>
        rw [hbegin] at hrun
        cases hrun
    | ok w₁ =>
        rw [hbegin] at hrun
        exact (Turned.beginShutdown hbegin).1.trans (hrest hrun)
  · exact hrest hrun

theorem Turned.dispatch {io : Nat → Io} {event : ReadyEvent} {accepts : List Accepted}
    {dns : List ResolveResult} (hdraining : w.draining = true)
    (hrun : dispatch cfg io event accepts dns w = .ok w') : Turned slot w w' := by
  have hkeeps : ∀ {w₁ : ReadinessWorker σ}, Except.ok w₁ = (.ok w' : Except Exit _) → w = w₁ →
      Turned slot w w' := by
    intro w₁ heq hsame
    injection heq with heq
    rw [← heq, ← hsame]
    exact .refl
  unfold Readiness.dispatch at hrun
  split at hrun
  · exact .turns hrun
  · split at hrun
    · rw [hdraining, Bool.not_true, Bool.and_false, if_neg Bool.false_ne_true] at hrun
      exact hkeeps hrun rfl
    · split at hrun
      · exact hkeeps hrun rfl
      · split at hrun
        · exact hkeeps hrun rfl
        · split at hrun
          · exact hkeeps hrun rfl
          · split at hrun
            · exact .turns hrun
            · split at hrun
              · exact hkeeps hrun rfl
              · exact .turns hrun

/-- A draining worker gives out no slot. -/
theorem Turned.step {event : Event} (hdraining : w.draining = true)
    (hrun : step cfg event w = .ok w') : Turned slot w w' := by
  unfold Readiness.step at hrun
  split at hrun
  · cases hrun
  cases event with
  | requestShutdown | poll =>
      injection hrun with hrun
      exact hrun ▸ ⟨rfl, id⟩
  | loopTop => exact .loopTop hrun
  | dnsResults | closeExpiredResolutions | closeExpiredProxies | pumpStaticStreams =>
      exact .turns hrun
  | closeIdleConnections now io =>
      change closeIdleConnections cfg now io w = .ok w' at hrun
      unfold closeIdleConnections at hrun
      cases hidle : slabPass cfg io (idleExpired cfg now) w with
      | error e => simp [bind, Except.bind, hidle] at hrun
      | ok w₁ =>
          simp only [bind, Except.bind, hidle] at hrun
          exact (Turned.turns hidle).trans (.turns hrun)
  | scheduledWrite | scheduledUpstreamWrite | scheduledUpstreamRead => exact .due hrun
  | ready => exact .dispatch hdraining hrun

theorem Turned.replay : ∀ {events : List Event} {w w' : ReadinessWorker σ}, w.draining = true →
    replay cfg events w = .ok w' → Turned slot w w'
  | [], w, w', _, hrun => by
      injection hrun with hrun
      exact hrun ▸ .refl
  | event :: events, w, w', hdraining, hrun => by
      unfold Readiness.replay at hrun
      split at hrun
      · cases hrun
      next w₁ hstep =>
        have hfirst : Turned slot w w₁ := .step hdraining hstep
        exact hfirst.trans (.replay (hfirst.draining hdraining) hrun)

/-- A connection that is not with an upstream when it has begun to answer writes a
response of its own. -/
theorem Answering.writes {s : Seat σ} (h : Answering s c) (hbegun : begun s.log = true)
    (hproxying : c.isProxying = false) : ∃ response, .queued response ∈ s.log := by
  apply h.queued
  have hrank := h.taken (begun_takes hbegun)
  unfold Connection.isProxying at hproxying
  cases hphase : c.phase with
  | writingResponse => rfl
  | proxying p => rw [hphase] at hproxying; cases hproxying
  | reading p => rw [hphase] at hrank; cases hrank
  | resolving r =>
      rw [hphase] at hrank
      have hlow : 2 ≤ 1 := hrank
      omega

end Thwip.Readiness
