/-
  Thwip.Readiness.Limits — what the configured limits bound.

  The read limit bounds the buffered request and the request that is forwarded,
  and `max_connections` the slab.  The write limit is enforced on a queued
  response and on a relayed chunk, but neither on the chunks of a file nor on the
  page that replaces a response that is too large: `writeLimitRule` says what these
  have to keep to.
-/
import Thwip.Readiness.Phases

namespace Thwip.Readiness

open Thwip.Lib
open Relation (ReflTransGen)

variable {σ : Type} {cfg : Config σ} {w w' : ReadinessWorker σ} {limits : WorkerLimits}
  {c c' : Connection σ}

/-! ## §1. The read limit. -/

/-- The request held for, or being sent to, the upstream. -/
def Connection.upstreamRequest (self : Connection σ) : Option (List UInt8) :=
  match self.phase with
  | .resolving resolution => some resolution.requestBuffer
  | .proxying proxy => some proxy.requestBuffer
  | _ => none

structure Connection.WithinReadLimit (limits : WorkerLimits) (c : Connection σ) : Prop where
  buffered : c.readBuffer.length ≤ limits.maxReadBufferSize
  forwarded : ∀ request, c.upstreamRequest = some request →
    request.length ≤ limits.maxReadBufferSize

theorem upstreamRequest_congr (h : c'.phase = c.phase) : c'.upstreamRequest = c.upstreamRequest := by
  unfold Connection.upstreamRequest
  rw [h]

theorem upstreamRequest_answered (h : c.phase = .writingResponse) : c.upstreamRequest = none := by
  unfold Connection.upstreamRequest
  rw [h]

theorem upstreamRequest_reading {p : Option PendingRequest} (h : c.phase = .reading p) :
    c.upstreamRequest = none := by
  unfold Connection.upstreamRequest
  rw [h]

theorem finishRequest_readBuffer (c : Connection σ) :
    c.finishRequest.1.readBuffer = c.readBuffer := by
  unfold Connection.finishRequest Connection.takePendingRequest
  split
  · split_ifs
    · split <;> rfl
    · rfl
  · rfl

theorem setPendingRequest_readBuffer (c : Connection σ) (p : PendingRequest) :
    (c.setPendingRequest p).readBuffer = c.readBuffer := by
  unfold Connection.setPendingRequest
  split <;> rfl

/-- A chunk is appended only if it fits. -/
theorem receive_readBuffer (now : Instant) (c : Connection σ) (received : List UInt8)
    (h : c.readBuffer.length ≤ limits.maxReadBufferSize) :
    (c.receive limits now received).1.readBuffer.length ≤ limits.maxReadBufferSize := by
  unfold Connection.receive
  split_ifs with hlong
  · exact h
  · have hfits : (c.readBuffer ++ received).length ≤ limits.maxReadBufferSize := by
      rw [List.length_append]
      omega
    dsimp only
    split_ifs
    · split
      · rw [finishRequest_readBuffer]
        exact hfits
      · split
        · split
          · exact hfits
          · split_ifs
            · exact hfits
            · rw [finishRequest_readBuffer, setPendingRequest_readBuffer]
              exact hfits
        · exact hfits
        · exact hfits
      · exact hfits
    · rw [finishRequest_readBuffer]
      exact hfits

/-- … nor do all the chunks of a pass exceed the limit. -/
theorem readLoop_readBuffer (tls : Rustls σ) (limits : WorkerLimits) (now : Instant) :
    ∀ (reads : Nat) (c : Connection σ) (socket : List IoRead),
      c.readBuffer.length ≤ limits.maxReadBufferSize →
      (readLoop tls limits now reads c socket).connection.readBuffer.length
        ≤ limits.maxReadBufferSize := by
  intro reads
  induction reads with
  | zero => exact fun _ _ h => h
  | succ reads ih =>
      intro c socket h
      have hread := (readOnce_buffer tls c socket).1
      unfold readLoop
      dsimp only
      split
      next c₁ socket₁ heq =>
        rw [heq] at hread
        exact hread ▸ h
      next received c₁ socket₁ _ heq =>
        rw [heq] at hread
        have hreceive := receive_readBuffer now c₁ received (hread.symm ▸ h)
        split
        next c₂ heq₂ =>
          rw [heq₂] at hreceive
          exact ih c₂ socket₁ hreceive
        next c₂ _ _ heq₂ =>
          rw [heq₂] at hreceive
          exact hreceive
      next c₁ socket₁ heq =>
        rw [heq] at hread
        exact hread ▸ h
      next c₁ socket₁ heq =>
        rw [heq] at hread
        exact ih c₁ socket₁ (hread.symm ▸ h)
      next c₁ socket₁ heq =>
        rw [heq] at hread
        exact hread ▸ h

/-- **Every move keeps within the read limit.** -/
theorem Move.withinReadLimit {env : Env σ} {event : TurnEvent} {s₀ s s' : Seat σ}
    (hmove : Move env event s₀ s s') (hc : s.connection = some c)
    (h : c.WithinReadLimit env.limits) (hc' : s'.connection = some c') :
    c'.WithinReadLimit env.limits := by
  have hsame {c₁ : Connection σ} (hc₁ : s.connection = some c₁) : c₁ = c :=
    Seat.connection_unique hc₁ hc
  have hkeep : ∀ {c₁ : Connection σ}, c₁.readBuffer = c.readBuffer → c₁.phase = c.phase →
      c₁.WithinReadLimit env.limits :=
    fun hbuffer hphase =>
      ⟨hbuffer ▸ h.buffered, by rw [upstreamRequest_congr hphase]; exact h.forwarded⟩
  have hanswered : ∀ {c₁ : Connection σ},
      c₁.readBuffer.length ≤ env.limits.maxReadBufferSize → c₁.phase = .writingResponse →
      c₁.WithinReadLimit env.limits :=
    fun hbuffer hphase => ⟨hbuffer, by rw [upstreamRequest_answered hphase]; simp⟩
  have hpass : ∀ {pass : ReadPass σ}, c.isHandlingRequest = false →
      pass = connectionReady env.tls.toRustls env.limits env.now c env.reads →
      pass.connection.readBuffer.length ≤ env.limits.maxReadBufferSize := by
    intro pass hhandling hpass
    rw [hpass, connectionReady_eq hhandling]
    exact readLoop_readBuffer _ _ _ _ _ _ h.buffered
  cases hmove with
  | rescheduled | drained | scheduled | flushed | counted =>
      exact (hsame hc').symm ▸ h
  | touched hc₁ | spoiled hc₁ | wrote hc₁ | handed hc₁ | sentTls hc₁ =>
      obtain rfl := hsame hc₁
      cases hc'
      exact hkeep rfl rfl
  | chunk hc₁ | awaiting hc₁ | closing hc₁ | emptied hc₁ | idled hc₁ | flushing hc₁ =>
      obtain rfl := hsame hc₁
      obtain ⟨-, rfl⟩ := settle_some hc'
      exact hkeep rfl rfl
  | waited hc₁ _ _ _ hhandling pass hpass' =>
      obtain rfl := hsame hc₁
      cases hc'
      refine ⟨hpass hhandling hpass', ?_⟩
      -- a connection that reads, or is answered, holds no request for an upstream
      have hreads := connectionReady_readsOnly env.tls.toRustls env.limits env.now hhandling
        env.reads
      rw [← hpass'] at hreads
      rcases hreads.phase with ⟨_, p, -, hp⟩ | heq
      · rw [upstreamRequest_reading hp]
        simp
      · rw [upstreamRequest_congr heq]
        exact h.forwarded
  | replied hc₁ _ _ _ hhandling pass hpass' =>
      obtain rfl := hsame hc₁
      obtain ⟨-, rfl⟩ := settle_some hc'
      exact hanswered (hpass hhandling hpass') rfl
  | resolving hc₁ _ _ _ hhandling pass hpass' _ _ bytes _ hle =>
      obtain rfl := hsame hc₁
      cases hc'
      refine ⟨hpass hhandling hpass', ?_⟩
      intro request hrequest
      cases hrequest
      exact hle
  | connecting hc₁ resolution hresolution =>
      obtain rfl := hsame hc₁
      cases hc'
      refine ⟨h.buffered, ?_⟩
      intro request hrequest
      cases hrequest
      apply h.forwarded
      rw [Connection.resolution_eq_some] at hresolution
      simp [Connection.upstreamRequest, hresolution, ProxyState.new]
  | forwarded hc₁ hproxy _ hforwards =>
      obtain rfl := hsame hc₁
      cases hc'
      refine ⟨h.buffered, ?_⟩
      intro request hrequest
      cases hrequest
      apply h.forwarded
      rw [Connection.proxy_eq_some] at hproxy
      simp [Connection.upstreamRequest, hproxy, hforwards.buffer]
  | failed hc₁ =>
      obtain rfl := hsame hc₁
      obtain ⟨-, rfl⟩ := settle_some hc'
      exact hanswered h.buffered rfl
  | relayed hc₁ hproxy =>
      obtain rfl := hsame hc₁
      obtain ⟨-, rfl⟩ := settle_some hc'
      refine ⟨h.buffered, ?_⟩
      intro request hrequest
      cases hrequest
      apply h.forwarded
      rw [Connection.proxy_eq_some] at hproxy
      simp [Connection.upstreamRequest, hproxy, ProxyState.recordProgress]
  | removed => cases hc'

def readLimitRule (cfg : Config σ) : SeatRule cfg where
  Inv _ c := c.WithinReadLimit cfg.limits
  Gone _ := True
  Guard _ := True
  fresh := by
    intro s c hfresh hc
    cases hfresh with
    | mk now index generation ssl interest write read =>
        cases hc
        exact ⟨Nat.zero_le _, by simp [Connection.upstreamRequest, Connection.fresh]⟩
  poll _ h := h
  move := by
    intro env id io event s₀ s s' c₀ c henv _ _ _ _ _ hc _ hinv hmove
    subst henv
    exact ⟨fun c' hc' => hmove.withinReadLimit hc hinv hc', fun _ => trivial⟩

theorem Reachable.withinReadLimit (h : Reachable cfg w) {slot : Nat} {occ : Occupant σ}
    (hget : w.connections.get slot = some occ) : occ.connection.WithinReadLimit cfg.limits :=
  ((readLimitRule cfg).holds h (fun _ _ => trivial)).live slot occ hget

/-! ## §2. The write limit. -/

/-- The page in place of a response that does not fit. -/
def tooLargePage : List UInt8 := responseBytes 500 "response is too large".toList

theorem boundedResponse_length (hpage : tooLargePage.length ≤ limits.maxWriteBufferSize)
    (response : List UInt8) :
    (boundedResponse limits response).length ≤ limits.maxWriteBufferSize := by
  unfold boundedResponse
  split_ifs with hlong
  · exact hpage
  · exact Nat.le_of_not_gt hlong

/-- The chunk that the file stream of the connection has ready, if any, is within
the write limit. -/
def chunkFits (limits : WorkerLimits) : HistoryItem σ → Bool
  | .turn _ _ io found =>
      match found.connection.bind Connection.staticStream with
      | none => true
      | some stream =>
          match (stream.tryNext io.arrived).1 with
          | some (.data bytes) => decide (bytes.length ≤ limits.maxWriteBufferSize)
          | _ => true
  | _ => true

theorem chunkFits_data {id : ConnectionId} {event : TurnEvent} {io : Io} {s₀ : Seat σ}
    {stream rest : StaticStream} {bytes : List UInt8}
    (h : chunkFits limits (.turn id event io s₀) = true) (hc : s₀.connection = some c)
    (hstream : c.staticStream = some stream)
    (hnext : stream.tryNext io.arrived = (some (.data bytes), rest)) :
    bytes.length ≤ limits.maxWriteBufferSize := by
  simpa [chunkFits, hc, hstream, hnext] using h

/-- **Every move keeps within the write limit**, if the chunk that is ready does. -/
theorem Move.withinWriteLimit {env : Env σ} {id : ConnectionId} {event : TurnEvent}
    {s₀ s s' : Seat σ} (hmove : Move env event s₀ s s') (hc : s.connection = some c)
    (hpage : tooLargePage.length ≤ env.limits.maxWriteBufferSize)
    (hfits : chunkFits env.limits (.turn id event env.toIo s₀) = true)
    (h : c.writeBuffer.length ≤ env.limits.maxWriteBufferSize) (hc' : s'.connection = some c') :
    c'.writeBuffer.length ≤ env.limits.maxWriteBufferSize := by
  have hsame {c₁ : Connection σ} (hc₁ : s.connection = some c₁) : c₁ = c :=
    Seat.connection_unique hc₁ hc
  cases hmove with
  | rescheduled | drained | scheduled | flushed | counted =>
      exact (hsame hc').symm ▸ h
  | touched hc₁ | spoiled hc₁ | wrote hc₁ | handed hc₁ | sentTls hc₁ | connecting hc₁
  | forwarded hc₁ =>
      obtain rfl := hsame hc₁
      cases hc'
      exact h
  | awaiting hc₁ | closing hc₁ | idled hc₁ | flushing hc₁ =>
      obtain rfl := hsame hc₁
      obtain ⟨-, rfl⟩ := settle_some hc'
      exact h
  | waited hc₁ _ _ _ hhandling pass hpass | resolving hc₁ _ _ _ hhandling pass hpass =>
      obtain rfl := hsame hc₁
      cases hc'
      have hreads := connectionReady_readsOnly env.tls.toRustls env.limits env.now hhandling
        env.reads
      rw [← hpass] at hreads
      exact hreads.writeBuffer ▸ h
  | replied | failed =>
      obtain ⟨-, rfl⟩ := settle_some hc'
      exact boundedResponse_length hpage _
  | relayed _ _ _ _ bytes _ hle =>
      obtain ⟨-, rfl⟩ := settle_some hc'
      exact hle
  | chunk _ _ hnext _ hserved =>
      obtain ⟨-, rfl⟩ := settle_some hc'
      obtain ⟨c₀, hfound, hstream⟩ := hserved
      exact chunkFits_data hfits hfound hstream hnext
  | emptied =>
      obtain ⟨-, rfl⟩ := settle_some hc'
      exact Nat.zero_le _
  | removed => cases hc'

def writeLimitRule (cfg : Config σ) (hpage : tooLargePage.length ≤ cfg.limits.maxWriteBufferSize) :
    SeatRule cfg where
  Inv _ c := c.writeBuffer.length ≤ cfg.limits.maxWriteBufferSize
  Gone _ := True
  Guard item := chunkFits cfg.limits item = true
  fresh := by
    intro s c hfresh hc
    cases hfresh with
    | mk now index generation ssl interest write read =>
        cases hc
        exact Nat.zero_le _
  poll _ h := h
  move := by
    intro env id io event s₀ s s' c₀ c henv hio hguard _ _ _ hc _ hinv hmove
    subst henv hio
    exact ⟨fun c' hc' => hmove.withinWriteLimit hc hpage hguard hinv hc', fun _ => trivial⟩

theorem Reachable.withinWriteLimit (h : Reachable cfg w)
    (hpage : tooLargePage.length ≤ cfg.limits.maxWriteBufferSize)
    (hfits : ∀ item ∈ w.history, chunkFits cfg.limits item = true) {slot : Nat}
    {occ : Occupant σ} (hget : w.connections.get slot = some occ) :
    occ.connection.writeBuffer.length ≤ cfg.limits.maxWriteBufferSize :=
  ((writeLimitRule cfg hpage).holds h hfits).live slot occ hget

/-! ## §3. The slab. -/

theorem runTurn_count {io : Io} {id : ConnectionId} {event : TurnEvent}
    (hstart : w.Startable id event) (hrun : w.runTurn cfg io id event = .ok w') :
    w'.connections.count ≤ w.connections.count := by
  refine Slab.count_le_of_get ?_
  intro key hkey
  obtain ⟨occ', hget'⟩ := Option.isSome_iff_exists.mp hkey
  by_cases hslot : id.slot = key
  · subst hslot
    obtain ⟨occ, hget, -⟩ := runTurn_get_self hstart hrun hget'
    rw [hget]
    rfl
  · rwa [← runTurn_get_ne hrun hslot]

theorem Atom.count (hatom : Atom cfg w w') :
    w'.connections.count ≤ max w.connections.count cfg.limits.maxConnections := by
  cases hatom with
  | turn io id event hstart hrun => exact (runTurn_count hstart hrun).trans (le_max_left _ _)
  | registered now vacantKey registrationFails hlistener hroom =>
      rename_i index listener
      rcases registerConnection_cases now vacantKey registrationFails index listener w rfl with
        heq | ⟨id, -, -, heq | ⟨connection, interest, -, -, heq⟩⟩
      · rw [heq]
        exact le_max_left _ _
      · rw [heq]
        exact le_max_left _ _
      · rw [heq]
        exact ((Slab.count_insertAt_le _ _ _).trans hroom).trans (le_max_right _ _)
  | polled =>
      refine (Slab.count_le_of_get ?_).trans (le_max_left _ _)
      intro key hkey
      rw [poll_get] at hkey
      simpa using hkey
  | other => exact le_max_left _ _

/-- **There are never more connections than `max_connections`.** -/
theorem Reachable.count (h : Reachable cfg w) :
    w.connections.count ≤ cfg.limits.maxConnections := by
  obtain ⟨w₀, hnew, hpath⟩ := h.atoms
  have hempty : w₀.connections = [] := by
    unfold ReadinessWorker.new at hnew
    split_ifs at hnew
    injection hnew with hnew
    rw [← hnew]
  clear h
  induction hpath with
  | refl =>
      rw [hempty]
      exact Nat.zero_le _
  | tail _ hatom ih => exact hatom.count.trans (max_le ih (Nat.le_refl _))

end Thwip.Readiness
