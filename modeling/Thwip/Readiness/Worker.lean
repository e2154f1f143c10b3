/-
  Thwip.Readiness.Worker — the whole readiness worker and its runs
  (`run/slave/src/runtime/readiness/worker.rs`).

  The loop of `run` is cut into the events below: its passes over the slab, the
  drained entries of the pending sets, the poll, and each ready event.  A run may
  have them in any order; the loop's own order, `Iteration.events`, is one of
  these.  The poller reports a client's socket as readable or writable only if it
  was registered for that when the poller was last asked.
-/
import Thwip.Lib.Slab
import Thwip.Readiness.Handlers

namespace Thwip.Readiness

open Thwip.Lib

variable {σ : Type}

/-! ## §1. The worker. -/

/-- A slab entry: the connection, what its socket is registered for, what it was
registered for at the last poll, and the trace of what was done for it. -/
structure Occupant (σ : Type) where
  connection : Connection σ
  interest : Interest
  polled : Interest
  log : List Act

/-- What happened to the slab, oldest first. -/
inductive HistoryItem (σ : Type) where
  /-- A handler was called for `id`, with these answers of the outside. -/
  | turn (id : ConnectionId) (event : TurnEvent) (io : Io) (found : Seat σ)
  /-- `id` was given out, whether or not the connection could then be created. -/
  | registered (id : ConnectionId)
  /-- The connection `id` was removed with this trace. -/
  | removed (id : ConnectionId) (log : List Act)

structure ReadinessWorker (σ : Type) where
  listeners : List RegisteredListener
  connections : Slab (Occupant σ)
  generations : List Nat
  pendingWrites : List ConnectionId
  pendingUpstreamWrites : List ConnectionId
  pendingUpstreamReads : List ConnectionId
  /-- The flag of the `ShutdownHandle`. -/
  shutdownRequested : Bool
  metrics : WorkerMetrics
  balancer : UpstreamBalancer
  /-- Tasks sent to the DNS threads. -/
  tasks : List ResolveTask
  draining : Bool
  drainStartedAt : Option Instant
  /-- `run` has closed everything and is about to return. -/
  finished : Bool
  history : List (HistoryItem σ)

/-- The listeners `ReadinessWorker::new` builds. -/
def Config.listeners (cfg : Config σ) : List RegisteredListener :=
  cfg.listenerGroups.map (fun group =>
    { defaultServer := group.1, serverIndices := group.2
      ssl := (cfg.sslConfigs[group.1]?).join })

def ReadinessWorker.new (cfg : Config σ) : Except Exit (ReadinessWorker σ) :=
  if cfg.sslConfigs.length ≠ cfg.servers.length then
    .error (.io (some "SSL configuration does not match the configured servers".toList))
  else
    .ok { listeners := cfg.listeners, connections := [], generations := [], pendingWrites := []
          pendingUpstreamWrites := [], pendingUpstreamReads := [], shutdownRequested := false
          metrics := {}, balancer := UpstreamBalancer.withGroups cfg.upstreamGroups, tasks := []
          draining := false, drainStartedAt := none, finished := false, history := [] }

/-! ## §2. One turn of one connection. -/

/-- What the handlers see of the worker through the slot of `id`. -/
def ReadinessWorker.view (w : ReadinessWorker σ) (id : ConnectionId) : Turn σ :=
  { id
    connection := (w.connections.get id.slot).map Occupant.connection
    interest := ((w.connections.get id.slot).map Occupant.interest).getD ⟨false, false⟩
    polled := ((w.connections.get id.slot).map Occupant.polled).getD ⟨false, false⟩
    writeScheduled := decide (id ∈ w.pendingWrites)
    upstreamWriteScheduled := decide (id ∈ w.pendingUpstreamWrites)
    upstreamReadScheduled := decide (id ∈ w.pendingUpstreamReads)
    log := ((w.connections.get id.slot).map Occupant.log).getD []
    metrics := w.metrics, balancer := w.balancer, tasks := w.tasks }

/-- The set with `id` in it, or out of it. -/
def setMember (ids : List ConnectionId) (id : ConnectionId) (present : Bool) :
    List ConnectionId :=
  if present then if id ∈ ids then ids else ids ++ [id]
  else ids.filter (· ≠ id)

/-- The history items of a turn: the call, and the removal if there was one. -/
def ReadinessWorker.turnItems (w : ReadinessWorker σ) (id : ConnectionId) (event : TurnEvent)
    (io : Io) (t : Turn σ) : List (HistoryItem σ) :=
  let call := .turn id event io (w.view id).toSeat
  match w.connections.get id.slot with
  | none => [call]
  | some occupant =>
      if t.connection.isSome then [call]
      else [call, .removed ⟨id.slot, occupant.connection.generation⟩ t.log]

/-- Put back what the handler called for `id` left. -/
def ReadinessWorker.commit (w : ReadinessWorker σ) (id : ConnectionId) (event : TurnEvent)
    (io : Io) (t : Turn σ) : ReadinessWorker σ :=
  { w with
    connections := w.connections.set id.slot (t.connection.map (fun connection =>
      { connection, interest := t.interest, polled := t.polled, log := t.log }))
    pendingWrites := setMember w.pendingWrites id t.writeScheduled
    pendingUpstreamWrites := setMember w.pendingUpstreamWrites id t.upstreamWriteScheduled
    pendingUpstreamReads := setMember w.pendingUpstreamReads id t.upstreamReadScheduled
    metrics := t.metrics, balancer := t.balancer, tasks := t.tasks
    history := w.history ++ w.turnItems id event io t }

/-- What the handlers read of the worker. -/
def ReadinessWorker.env (cfg : Config σ) (io : Io) (w : ReadinessWorker σ) : Env σ :=
  { cfg, io with listeners := w.listeners, draining := w.draining }

def ReadinessWorker.runTurn (cfg : Config σ) (io : Io) (id : ConnectionId) (event : TurnEvent)
    (w : ReadinessWorker σ) : Except Exit (ReadinessWorker σ) :=
  match handleTurn (w.env cfg io) event (w.view id) with
  | .error exit => .error exit
  | .ok t => .ok (w.commit id event io t)

/-- Run a list of turns, one after the other, each with its own answers. -/
def runTurns (cfg : Config σ) (io : Nat → Io) (turns : List (ConnectionId × TurnEvent))
    (w : ReadinessWorker σ) : Except Exit (ReadinessWorker σ) :=
  turns.zipIdx.foldlM (fun w turn => w.runTurn cfg (io turn.2) turn.1.1 turn.1.2) w

/-! ## §3. Accepting. -/

/-- One answer of `accept`. -/
inductive Accepted where
  /-- A stream; the slab offers this vacant key, and the poller refuses it or not. -/
  | stream (now : Instant) (vacantKey : Nat) (registrationFails : Bool)
  | interrupted
  | failed
  deriving Repr, DecidableEq

/-- The next generation of a slot, and the generations with it recorded. -/
def bumpGeneration (generations : List Nat) (slot : Nat) : Nat × List Nat :=
  let generations :=
    if generations.length ≤ slot then
      generations ++ List.replicate (slot + 1 - generations.length) 0
    else generations
  let generation := nextGeneration usizeBits (generations.getD slot 0)
  (generation, generations.set slot generation)

/-- `register_connection`; its errors are only reported. -/
def registerConnection (cfg : Config σ) (now : Instant) (vacantKey : Nat)
    (registrationFails : Bool) (listenerIndex : Nat) (listener : RegisteredListener)
    (w : ReadinessWorker σ) : ReadinessWorker σ :=
  let slot := w.connections.vacantKey vacantKey
  if slot > slotMask usizeBits then w
  else
    let (generation, generations) := bumpGeneration w.generations slot
    let id : ConnectionId := ⟨slot, generation⟩
    let w := { w with generations, history := w.history ++ [.registered id] }
    match Connection.new cfg.tls.toRustls now listenerIndex generation listener.ssl with
    | none => w
    | some connection =>
        let insert (interest : Interest) : ReadinessWorker σ :=
          { w with
            connections := w.connections.insertAt slot
              { connection, interest, polled := ⟨false, false⟩
                log := [.accepted connection.ssl.isSome] } }
        match id.token usizeBits .client with
        -- the connection stays in the slab, unknown to the poller
        | .error _ => insert ⟨false, false⟩
        | .ok _ => if registrationFails then w else insert .read

def acceptReady (cfg : Config σ) (listenerIndex : Nat) (listener : RegisteredListener) :
    List Accepted → ReadinessWorker σ → ReadinessWorker σ
  | [], w => w
  | .failed :: _, w => w
  | .interrupted :: accepts, w => acceptReady cfg listenerIndex listener accepts w
  | .stream now vacantKey registrationFails :: accepts, w =>
      if w.connections.count ≥ cfg.limits.maxConnections then
        acceptReady cfg listenerIndex listener accepts w
      else
        acceptReady cfg listenerIndex listener accepts
          (registerConnection cfg now vacantKey registrationFails listenerIndex listener
            { w with metrics := { w.metrics with accepted := w.metrics.accepted + 1 } })

/-! ## §4. Ready events. -/

structure ReadyEvent where
  token : Nat
  readable : Bool
  writable : Bool
  error : Bool
  readClosed : Bool
  writeClosed : Bool
  deriving Repr, DecidableEq

structure ResolveResult where
  connectionId : ConnectionId
  /-- `none` when the lookup failed. -/
  addresses : Option (List SocketAddr)
  deriving Repr, DecidableEq

def processDnsResults (cfg : Config σ) (io : Nat → Io) (results : List ResolveResult)
    (w : ReadinessWorker σ) : Except Exit (ReadinessWorker σ) :=
  runTurns cfg io (results.map (fun result => (result.connectionId, .resolved result.addresses))) w

/-- The handlers `dispatch_client` calls. -/
def clientTurns (id : ConnectionId) (event : ReadyEvent) (draining : Bool) :
    List (ConnectionId × TurnEvent) :=
  if event.error then [(id, .clientError)]
  else
    (if event.writable then [(id, .writeReady false)] else [])
      ++ (if event.readable && !draining then [(id, .connectionReady)] else [])
      ++ (if event.readClosed || event.writeClosed then [(id, .clientClosed !event.writeClosed)] else [])

/-- The handlers `dispatch_upstream` calls for a connection that is proxying. -/
def upstreamTurns (id : ConnectionId) (event : ReadyEvent) : List (ConnectionId × TurnEvent) :=
  if event.error then [(id, .upstreamError)]
  else
    (if event.writable then [(id, .writeUpstream false)] else [])
      ++ (if event.readable then [(id, .readUpstream false)] else [])
      ++ (if event.readClosed || event.writeClosed then [(id, .upstreamClosed)] else [])

/-- What the poller can report of an event: it was asked for `polled`. -/
def ReadyEvent.within (polled : Interest) (self : ReadyEvent) : ReadyEvent :=
  { self with readable := self.readable && polled.readable
              writable := self.writable && polled.writable }

def dispatch (cfg : Config σ) (io : Nat → Io) (event : ReadyEvent) (accepts : List Accepted)
    (dns : List ResolveResult) (w : ReadinessWorker σ) : Except Exit (ReadinessWorker σ) :=
  if event.token = controlToken usizeBits then processDnsResults cfg io dns w
  else
    match w.listeners[event.token]? with
    | some listener =>
        if event.readable && !w.draining then .ok (acceptReady cfg event.token listener accepts w)
        else .ok w
    | none =>
        match ConnectionId.fromToken usizeBits event.token with
        | none => .ok w
        | some (id, role) =>
            match w.connections.get id.slot with
            | none => .ok w
            | some occupant =>
                if occupant.connection.generation ≠ id.generation then .ok w
                else
                  match role with
                  | .client =>
                      runTurns cfg io
                        (clientTurns id (event.within occupant.polled) w.draining) w
                  | .upstream =>
                      if !occupant.connection.isProxying then .ok w
                      else runTurns cfg io (upstreamTurns id event) w

/-! ## §5. The passes over the slab. -/

/-- The turns for the slab entries `select` picks, in slot order. -/
def slabTurns (select : Connection σ → Option TurnEvent) (connections : Slab (Occupant σ)) :
    List (ConnectionId × TurnEvent) :=
  connections.zipIdx.filterMap (fun entry =>
    match entry.1 with
    | none => none
    | some occupant =>
        (select occupant.connection).map
          (fun event => (⟨entry.2, occupant.connection.generation⟩, event)))

def resolutionExpired (cfg : Config σ) (now : Instant) (connection : Connection σ) :
    Option TurnEvent :=
  match connection.resolution with
  | none => none
  | some resolution =>
      if now - resolution.startedAt ≥ cfg.dnsLimits.timeout then some .resolutionExpired else none

def proxyExpired (cfg : Config σ) (now : Instant) (connection : Connection σ) :
    Option TurnEvent :=
  match connection.proxy with
  | none => none
  | some proxy =>
      if now - proxy.phaseProgressAt ≥ proxy.phase.timeout cfg.proxyLimits then
        some (.proxyExpired proxy.phase)
      else none

def idleExpired (cfg : Config σ) (now : Instant) (connection : Connection σ) :
    Option TurnEvent :=
  if !connection.isHandlingRequest && now - connection.lastProgress ≥ cfg.limits.idleTimeout then
    some .idle
  else none

def handshakeOverdue (cfg : Config σ) (now : Instant) (connection : Connection σ) :
    Option TurnEvent :=
  if connection.sslHandshakeExpired cfg.tls.toRustls now then some .handshakeExpired else none

/-- `pump_static_streams` picks the streams whose last chunk was accepted. -/
def pumpReady (connection : Connection σ) : Option TurnEvent :=
  if connection.staticStream.isSome
      && connection.writeOffset == connection.writeBuffer.length then
    some .pump
  else none

/-- `begin_shutdown` keeps only the responses that are being written. -/
def shutdownCloses (connection : Connection σ) : Option TurnEvent :=
  if connection.staticStream.isNone && connection.writeOffset ≥ connection.writeBuffer.length then
    some .shutdown
  else none

/-- A pass over the slab: pick, then call. -/
def slabPass (cfg : Config σ) (io : Nat → Io) (select : Connection σ → Option TurnEvent)
    (w : ReadinessWorker σ) : Except Exit (ReadinessWorker σ) :=
  runTurns cfg io (slabTurns select w.connections) w

def closeIdleConnections (cfg : Config σ) (now : Instant) (io : Nat → Io)
    (w : ReadinessWorker σ) : Except Exit (ReadinessWorker σ) := do
  let w ← slabPass cfg io (idleExpired cfg now) w
  slabPass cfg io (handshakeOverdue cfg now) w

def beginShutdown (cfg : Config σ) (now : Instant) (io : Nat → Io) (w : ReadinessWorker σ) :
    Except Exit (ReadinessWorker σ) :=
  slabPass cfg io shutdownCloses { w with draining := true, drainStartedAt := some now }

def ReadinessWorker.drainDeadlineExpired (cfg : Config σ) (now : Instant)
    (w : ReadinessWorker σ) : Bool :=
  match w.drainStartedAt with
  | none => false
  | some started => now - started ≥ cfg.limits.drainTimeout

/-- The checks at the top of the loop of `run`. -/
def loopTop (cfg : Config σ) (now : Instant) (io : Nat → Io) (w : ReadinessWorker σ) :
    Except Exit (ReadinessWorker σ) := do
  let w ← if w.shutdownRequested && !w.draining then beginShutdown cfg now io w else .ok w
  if w.draining && w.connections.count == 0 then .error .returned
  else if w.drainDeadlineExpired cfg now then
    -- `close_all_connections`, after which `run` returns
    slabPass cfg io (fun _ => some .drainDeadline) { w with finished := true }
  else return w

/-! ## §6. Runs. -/

inductive Event where
  /-- Another thread requests the shutdown. -/
  | requestShutdown
  | loopTop (now : Instant) (io : Nat → Io)
  /-- The results waiting in the resolver's channel. -/
  | dnsResults (results : List ResolveResult) (io : Nat → Io)
  | closeExpiredResolutions (now : Instant) (io : Nat → Io)
  | closeExpiredProxies (now : Instant) (io : Nat → Io)
  | closeIdleConnections (now : Instant) (io : Nat → Io)
  | pumpStaticStreams (io : Nat → Io)
  /-- An entry of `pending_writes` is drained and handled. -/
  | scheduledWrite (index : Nat) (io : Io)
  | scheduledUpstreamWrite (index : Nat) (io : Io)
  | scheduledUpstreamRead (index : Nat) (io : Io)
  | poll
  /-- A ready event, with what `accept` answers and what the resolver's channel
  holds. -/
  | ready (event : ReadyEvent) (accepts : List Accepted) (dns : List ResolveResult)
      (io : Nat → Io)

/-- Handle a drained entry of a pending set. -/
def runDue (cfg : Config σ) (io : Io) (due : Option ConnectionId) (event : TurnEvent)
    (w : ReadinessWorker σ) : Except Exit (ReadinessWorker σ) :=
  match due with
  | none => .ok w
  | some id => w.runTurn cfg io id event

/-- The poller is asked: from now on it reports what is registered now. -/
def Occupant.poll (self : Occupant σ) : Occupant σ := { self with polled := self.interest }

def step (cfg : Config σ) (event : Event) (w : ReadinessWorker σ) :
    Except Exit (ReadinessWorker σ) :=
  if w.finished then .error .returned
  else
    match event with
    | .requestShutdown => .ok { w with shutdownRequested := true }
    | .loopTop now io => loopTop cfg now io w
    | .dnsResults results io => processDnsResults cfg io results w
    | .closeExpiredResolutions now io => slabPass cfg io (resolutionExpired cfg now) w
    | .closeExpiredProxies now io => slabPass cfg io (proxyExpired cfg now) w
    | .closeIdleConnections now io => closeIdleConnections cfg now io w
    | .pumpStaticStreams io => slabPass cfg io pumpReady w
    | .scheduledWrite index io => runDue cfg io w.pendingWrites[index]? (.writeReady true) w
    | .scheduledUpstreamWrite index io =>
        runDue cfg io w.pendingUpstreamWrites[index]? (.writeUpstream true) w
    | .scheduledUpstreamRead index io =>
        runDue cfg io w.pendingUpstreamReads[index]? (.readUpstream true) w
    | .poll => .ok { w with connections := w.connections.map (Option.map Occupant.poll) }
    | .ready event accepts dns io => dispatch cfg io event accepts dns w

/-- The states a worker of this configuration can be in between events. -/
inductive Reachable (cfg : Config σ) : ReadinessWorker σ → Prop where
  | new {w : ReadinessWorker σ} (hnew : ReadinessWorker.new cfg = .ok w) : Reachable cfg w
  | step {w w' : ReadinessWorker σ} (event : Event) (h : Reachable cfg w)
      (hstep : step cfg event w = .ok w') : Reachable cfg w'

/-- Replay a list of events. -/
def replay (cfg : Config σ) : List Event → ReadinessWorker σ → Except Exit (ReadinessWorker σ)
  | [], w => .ok w
  | event :: events, w =>
      match step cfg event w with
      | .error exit => .error exit
      | .ok w => replay cfg events w

theorem Reachable.replay {cfg : Config σ} :
    ∀ {events : List Event} {w w' : ReadinessWorker σ}, Reachable cfg w →
      Readiness.replay cfg events w = .ok w' → Reachable cfg w'
  | [], w, w', h, hrun => by
      injection hrun with hrun
      exact hrun ▸ h
  | event :: events, w, w', h, hrun => by
      unfold Readiness.replay at hrun
      split at hrun
      · cases hrun
      next w₁ hstep => exact (h.step event hstep).replay hrun

/-- Does a run of these events, from the start, end in a state with the property? -/
def bootsTo (cfg : Config σ) (events : List Event) (p : ReadinessWorker σ → Bool) : Bool :=
  match ReadinessWorker.new cfg with
  | .error _ => false
  | .ok w =>
      match replay cfg events w with
      | .error _ => false
      | .ok w => p w

theorem reachable_of_bootsTo {cfg : Config σ} {events : List Event}
    {p : ReadinessWorker σ → Bool} (h : bootsTo cfg events p = true) :
    ∃ w, Reachable cfg w ∧ p w = true := by
  unfold bootsTo at h
  split at h
  · cases h
  next w₀ hnew =>
    split at h
    · cases h
    next w hw => exact ⟨w, (Reachable.new hnew).replay hw, h⟩

/-- Does this call for `id` find a connection and leave one with the property? -/
def turnLeaves (cfg : Config σ) (io : Io) (id : ConnectionId) (event : TurnEvent)
    (p : Occupant σ → Occupant σ → ReadinessWorker σ → Bool) (w : ReadinessWorker σ) : Bool :=
  match w.connections.get id.slot, w.runTurn cfg io id event with
  | some occ, .ok w' =>
      occ.connection.generation == id.generation
        && (w'.connections.get id.slot).any (fun occ' => p occ occ' w')
  | _, _ => false

theorem turnLeaves_spec {cfg : Config σ} {io : Io} {id : ConnectionId} {event : TurnEvent}
    {p : Occupant σ → Occupant σ → ReadinessWorker σ → Bool} {w : ReadinessWorker σ}
    (h : turnLeaves cfg io id event p w = true) :
    ∃ occ w' occ', w.connections.get id.slot = some occ
      ∧ occ.connection.generation = id.generation ∧ w.runTurn cfg io id event = .ok w'
      ∧ w'.connections.get id.slot = some occ' ∧ p occ occ' w' = true := by
  unfold turnLeaves at h
  split at h
  next occ w' hget hrun =>
    rw [Bool.and_eq_true, beq_iff_eq, Option.any_eq_true] at h
    obtain ⟨hgen, occ', hget', hp⟩ := h
    exact ⟨occ, w', occ', hget, hgen, hrun, hget', hp⟩
  · cases h

/-- A connection was removed, with an id and a trace that have the property. -/
def HistoryItem.removes (p : ConnectionId → List Act → Bool) : HistoryItem σ → Bool
  | .removed id trace => p id trace
  | _ => false

theorem any_removes {history : List (HistoryItem σ)} {p : ConnectionId → List Act → Bool} :
    history.any (HistoryItem.removes p) = true
      ↔ ∃ id trace, .removed id trace ∈ history ∧ p id trace = true := by
  rw [List.any_eq_true]
  constructor
  · rintro ⟨item, hitem, hp⟩
    cases item with
    | removed id trace => exact ⟨id, trace, hitem, hp⟩
    | _ => cases hp
  · rintro ⟨id, trace, hitem, hp⟩
    exact ⟨_, hitem, hp⟩

/-- If this is a turn, the connection it found has the property. -/
def HistoryItem.finds (p : Connection σ → Bool) : HistoryItem σ → Bool
  | .turn _ _ _ found => found.connection.all p
  | _ => true

/-! ## §7. Small workers. -/

/-- An outside in which every socket blocks and nothing fails. -/
def Io.quiet : Io :=
  { now := 0, reads := [], writes := [], upstreamReads := [], upstreamWrites := []
    takeError := some false, registrationFails := fun _ => false
    connectFails := fun _ => false, staticStreamResponse := fun _ _ => .error .notFound
    resolverStopped := false, arrived := false }

/-- One iteration of the loop in the order of `run`: the drained entries of the
three pending sets, then the events the poll reports. -/
structure Iteration where
  now : Instant := 0
  dns : List ResolveResult := []
  /-- The answers during the pump. -/
  pump : Io := .quiet
  writes : List Io := []
  upstreamWrites : List Io := []
  upstreamReads : List Io := []
  ready : List (ReadyEvent × List Accepted × Io) := []

def Iteration.events (self : Iteration) : List Event :=
  let quiet : Nat → Io := fun _ => .quiet
  [.loopTop self.now quiet, .dnsResults self.dns quiet, .closeExpiredResolutions self.now quiet,
    .closeExpiredProxies self.now quiet, .closeIdleConnections self.now quiet,
    .pumpStaticStreams (fun _ => self.pump)]
    ++ self.writes.map (fun io => .scheduledWrite 0 io)
    ++ self.upstreamWrites.map (fun io => .scheduledUpstreamWrite 0 io)
    ++ self.upstreamReads.map (fun io => .scheduledUpstreamRead 0 io)
    ++ [.poll]
    ++ self.ready.map (fun ready => .ready ready.1 ready.2.1 [] (fun _ => ready.2.2))

/-- The sessions of a worker whose listeners are all plaintext. -/
def SocketTls.absent : SocketTls Unit where
  toRustls := Rustls.absent
  writeTlsTo s _ := ([], s)
  writeTlsTo_le := by simp
  writeTlsTo_ne_nil := by simp [Rustls.absent]

def roomyLimits : WorkerLimits :=
  { maxConnections := 8, maxReadBufferSize := 4096, maxWriteBufferSize := 4096
    idleTimeout := 1000, drainTimeout := 1000 }

/-- A worker with one listener for one server with these locations. -/
def Config.single (tls : SocketTls σ) (ssl : Option LoadedSslConfig)
    (limits : WorkerLimits) (locations : List Location) : Config σ :=
  { tls, servers := [{ serverName := none, locations }], sslConfigs := [ssl]
    listenerGroups := [(0, [0])], limits
    proxyLimits := { connectTimeout := 100, writeTimeout := 100, readTimeout := 100 }
    dnsLimits := { resolverThreads := 1, timeout := 100 }
    upstreamGroups := fun _ => none }

/-- A plaintext worker with these locations. -/
def plainWorker (locations : List Location) : Config Unit :=
  Config.single SocketTls.absent none roomyLimits locations

/-- Every request is proxied. -/
def proxyAll : List Location :=
  [{ matcher := .pre "/".toList
     action := .proxy (some "http://u".toList) none [] .roundRobin }]

/-- The first connection a worker accepts. -/
def firstId : ConnectionId := ⟨0, 1⟩

/-- One connection is accepted, by the only listener. -/
def acceptOne : Event :=
  .ready { token := 0, readable := true, writable := false, error := false, readClosed := false
           writeClosed := false } [.stream 0 0 false] [] (fun _ => .quiet)

/-- A socket of the first connection becomes readable, or writable. -/
def firstReady (role : SocketRole) (readable writable : Bool) (io : Io) : Event :=
  .ready { token := ((firstId.token usizeBits role).toOption).getD 0, readable, writable
           error := false, readClosed := false, writeClosed := false } [] [] (fun _ => io)

end Thwip.Readiness
