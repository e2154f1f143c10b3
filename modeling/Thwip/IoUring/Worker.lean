/-
  Thwip.IoUring.Worker — the whole worker and its runs
  (`run/slave/src/runtime/io_uring/worker.rs`, `listener.rs`).

  The kernel is the list of submissions whose completion has not been handled.
  A run picks any of them at any time, with any result: the worker's own loop
  handles a batch in the order the kernel reports it, which is one of these
  orders.  Every call of a per-connection handler goes through `runTurn`, which
  keeps the history that properties of whole runs are stated on.
-/
import Thwip.IoUring.Handlers
import Thwip.Lib.Slab

namespace Thwip.IoUring

open Thwip.Lib

variable {σ : Type}

/-! ## §1. The worker. -/

/-- A slab entry: the connection, and the trace of what was done for it. -/
structure Occupant (σ : Type) where
  connection : UringConnection σ
  log : List Act

/-- What happened to the slab, oldest first. -/
inductive HistoryItem (σ : Type) where
  /-- A handler was called for `id`, with these answers of the outside, and found
  this entry in the slot. -/
  | turn (id : ConnectionId) (event : TurnEvent) (world : World)
      (found : Option (UringConnection σ))
  /-- A connection was inserted as `id` while these operations, submitted for an
  earlier connection with the same id, were still in flight. -/
  | inserted (id : ConnectionId) (stale : List ConnectionOp)
  /-- The connection `id` was removed with this trace, while these operations of
  it were in flight. -/
  | removed (id : ConnectionId) (log : List Act) (inFlight : List ConnectionOp)

structure IoUringWorker (σ : Type) where
  /-- Submissions whose completion has not been handled. -/
  inFlight : List Entry
  bufferRing : ProvidedBufferRing
  listeners : List UringListener
  connections : Slab (Occupant σ)
  generations : List UInt16
  /-- The flag of the `ShutdownHandle`. -/
  shutdownRequested : Bool
  shuttingDown : Bool
  shutdownStarted : Option Instant
  cancellationStarted : Bool
  pendingCancellations : Nat
  metrics : WorkerMetrics
  balancer : UpstreamBalancer
  /-- Tasks sent to the DNS threads. -/
  tasks : List ResolveTask
  history : List (HistoryItem σ)

/-- The listeners `IoUringWorker::new` builds. -/
def Config.listeners (cfg : Config σ) : List UringListener :=
  cfg.listenerGroups.map (fun group =>
    { defaultServer := group.1, serverIndices := group.2
      ssl := (cfg.sslConfigs[group.1]?).join
      generation := 1, multishot := true, acceptPending := false })

def IoUringWorker.new (cfg : Config σ) : Except Exit (IoUringWorker σ) :=
  match ProvidedBufferRing.register cfg.bufRingSize cfg.bufferSize with
  | .error message => .error (.io (some message))
  | .ok bufferRing =>
      if cfg.sslConfigs.length ≠ cfg.servers.length then
        .error (.io (some "SSL configuration does not match the configured servers".toList))
      else
        .ok { inFlight := [], bufferRing, listeners := cfg.listeners, connections := []
              generations := [], shutdownRequested := false, shuttingDown := false
              shutdownStarted := none, cancellationStarted := false, pendingCancellations := 0
              metrics := {}, balancer := UpstreamBalancer.withGroups cfg.upstreamGroups
              tasks := [], history := [] }

/-- `push_entry` -/
def IoUringWorker.pushEntry (world : World) (entry : Entry) (w : IoUringWorker σ) :
    Except Exit (IoUringWorker σ) :=
  if world.submitFails entry then .error (.io none)
  else .ok { w with inFlight := w.inFlight ++ [entry] }

/-! ## §2. One turn of one connection. -/

/-- What the handlers see of the worker through the slot of `id`. -/
def IoUringWorker.view (w : IoUringWorker σ) (id : ConnectionId) : Turn σ :=
  { id
    connection := (w.connections.get id.slot).map Occupant.connection
    log := ((w.connections.get id.slot).map Occupant.log).getD []
    pushed := [], cancelled := []
    bufferRing := w.bufferRing, metrics := w.metrics, balancer := w.balancer, tasks := w.tasks }

/-- The history items of a turn: the call, and the removal if there was one. -/
def IoUringWorker.turnItems (w : IoUringWorker σ) (id : ConnectionId) (event : TurnEvent)
    (world : World) (t : Turn σ) : List (HistoryItem σ) :=
  match w.connections.get id.slot with
  | none => [.turn id event world none]
  | some occupant =>
      if t.connection.isSome then [.turn id event world (some occupant.connection)]
      else
        [.turn id event world (some occupant.connection),
         .removed ⟨id.slot, occupant.connection.generation⟩ t.log
          (opsOf ⟨id.slot, occupant.connection.generation⟩
            (w.inFlight ++ t.pushed.map (.operation id)))]

/-- Put back what the handler called for `id` left. -/
def IoUringWorker.commit (w : IoUringWorker σ) (id : ConnectionId) (event : TurnEvent)
    (world : World) (t : Turn σ) : IoUringWorker σ :=
  { w with
    connections := w.connections.set id.slot
      (t.connection.map (fun connection => { connection, log := t.log }))
    inFlight := w.inFlight ++ t.pushed.map (.operation id) ++ t.cancelled.map (.proxyCancel id)
    bufferRing := t.bufferRing, metrics := t.metrics, balancer := t.balancer, tasks := t.tasks
    history := w.history ++ w.turnItems id event world t }

def IoUringWorker.runTurn (cfg : Config σ) (world : World) (id : ConnectionId)
    (event : TurnEvent) (w : IoUringWorker σ) : Except Exit (IoUringWorker σ) :=
  match handleTurn { cfg, world with listeners := w.listeners } event (w.view id) with
  | .error exit => .error exit
  | .ok t => .ok (w.commit id event world t)

/-! ## §3. Accepting. -/

def einval : Int := 22
def eopnotsupp : Int := 95
def ecanceled : Int := 125

def multishotIsUnsupported (result : Int) : Bool :=
  result < 0 && (-result == einval || -result == eopnotsupp)

def submitAccept (world : World) (listenerIdx : Nat) (w : IoUringWorker σ) :
    Except Exit (IoUringWorker σ) :=
  match w.listeners[listenerIdx]? with
  | none => .error (.io (some "listener index is unavailable".toList))
  | some listener =>
      if listener.acceptPending then .ok w
      else if !fitsU32 listenerIdx then
        .error (.io (some "listener index exceeds io_uring operation capacity".toList))
      else do
        let w ← w.pushEntry world (.accept listenerIdx listener.generation listener.multishot)
        return { w with
          listeners := w.listeners.set listenerIdx { listener with acceptPending := true } }

/-- The next generation of a slot, and the generations with it recorded. -/
def bumpGeneration (generations : List UInt16) (slot : Nat) : UInt16 × List UInt16 :=
  let generations :=
    if generations.length ≤ slot then
      generations ++ List.replicate (slot + 1 - generations.length) 0
    else generations
  let generation := nextGeneration (generations.getD slot 0)
  (generation, generations.set slot generation)

/-- `insert_connection`; its error is only reported, so it is `none` here. -/
def insertConnection (cfg : Config σ) (world : World) (socket : Socket) (listenerIndex : Nat)
    (listener : UringListener) (w : IoUringWorker σ) :
    Option ConnectionId × IoUringWorker σ :=
  if w.connections.count ≥ cfg.limits.maxConnections then (none, w)
  else
    let slot := w.connections.vacantKey world.vacantKey
    if !fitsU32 slot then (none, w)
    else
      let (generation, generations) := bumpGeneration w.generations slot
      let w := { w with generations }
      match UringConnection.new cfg.tls world.now socket generation listenerIndex listener.ssl with
      | none => (none, w)
      | some connection =>
          let id : ConnectionId := ⟨slot, generation⟩
          (some id,
            { w with
              connections := w.connections.insertAt slot
                { connection, log := [.accepted connection.ssl.isSome] }
              history := w.history ++ [.inserted id (opsOf id w.inFlight)] })

/-- `record_completion` -/
def UringListener.recordCompletion (self : UringListener) (hasMore : Bool) : UringListener :=
  { self with acceptPending := self.multishot && hasMore }

/-- `fall_back_to_single_shot` -/
def UringListener.fallBackToSingleShot (self : UringListener) : UringListener :=
  { self with multishot := false, acceptPending := false }

/-- The accept flags of a listener after one completion. -/
def UringListener.afterAccept (self : UringListener) (result : Int) (more : Bool) :
    UringListener :=
  if self.multishot && multishotIsUnsupported result then
    (self.recordCompletion more).fallBackToSingleShot
  else self.recordCompletion more

/-- Count and insert an accepted socket, then submit its first receive. -/
def retainAccepted (cfg : Config σ) (world : World) (socket : Socket) (listenerIdx : Nat)
    (listener : UringListener) (w : IoUringWorker σ) : Except Exit (IoUringWorker σ) :=
  let w := { w with metrics := { w.metrics with accepted := w.metrics.accepted + 1 } }
  match insertConnection cfg world socket listenerIdx listener w with
  | (none, w) => .ok w
  | (some id, w) => w.runTurn cfg world id .accepted

/-- What becomes of the accepted socket, or of the error. -/
def settleAccept (cfg : Config σ) (world : World) (listenerIdx : Nat) (listener : UringListener)
    (result : Int) (w : IoUringWorker σ) : Except Exit (IoUringWorker σ) :=
  if result ≥ 0 then
    if w.shuttingDown then .ok w
    else retainAccepted cfg world result.toNat listenerIdx listener w
  else if !(w.shuttingDown && -result == ecanceled) && !multishotIsUnsupported result then
    .ok { w with metrics := { w.metrics with errors := w.metrics.errors + 1 } }
  else .ok w

def handleAcceptCompletion (cfg : Config σ) (world : World) (listenerIdx : Nat)
    (generation : UInt16) (result : Int) (more : Bool) (w : IoUringWorker σ) :
    Except Exit (IoUringWorker σ) :=
  match w.listeners[listenerIdx]? with
  | none => .ok w
  | some listener =>
      if listener.generation ≠ generation then .ok w
      else do
        let listener := listener.afterAccept result more
        let w ← settleAccept cfg world listenerIdx listener result
          { w with listeners := w.listeners.set listenerIdx listener }
        if !w.shutdownRequested && !listener.acceptPending then submitAccept world listenerIdx w
        else return w

/-! ## §4. DNS results and timers. -/

structure ResolveResult where
  connectionId : ConnectionId
  /-- `none` when the lookup failed. -/
  addresses : Option (List SocketAddr)
  deriving Repr, DecidableEq

/-- Run a list of turns, one after the other. -/
def runTurns (cfg : Config σ) (world : World) (turns : List (ConnectionId × TurnEvent))
    (w : IoUringWorker σ) : Except Exit (IoUringWorker σ) :=
  turns.foldlM (fun w turn => w.runTurn cfg world turn.1 turn.2) w

def processDnsResults (cfg : Config σ) (world : World) (results : List ResolveResult)
    (w : IoUringWorker σ) : Except Exit (IoUringWorker σ) := do
  let w ← runTurns cfg world
    (results.map (fun result => (result.connectionId, .resolved result.addresses))) w
  if !w.shuttingDown then w.pushEntry world .dnsRead else return w

/-- The turns for the slab entries `select` picks, in slot order. -/
def slabTurns (select : UringConnection σ → Option TurnEvent)
    (connections : Slab (Occupant σ)) : List (ConnectionId × TurnEvent) :=
  connections.zipIdx.filterMap (fun entry =>
    match entry.1 with
    | none => none
    | some occupant =>
        (select occupant.connection).map
          (fun event => (⟨entry.2, occupant.connection.generation⟩, event)))

/-- The limit on a phase without progress. -/
def phaseTimeout (cfg : Config σ) : ProxyPhase → Nat
  | .resolving => cfg.dnsLimits.timeout
  | .connecting => cfg.proxyLimits.connectTimeout
  | .writingRequest => cfg.proxyLimits.writeTimeout
  | .readingResponse => cfg.proxyLimits.readTimeout

def proxyExpired (cfg : Config σ) (now : Instant) (connection : UringConnection σ) :
    Option TurnEvent :=
  if connection.writePending then none
  else
    match connection.proxy with
    | none => none
    | some proxy =>
        if proxy.timedOut then none
        else if now - proxy.progressAt ≥ phaseTimeout cfg proxy.phase then
          some (.expired proxy.phase proxy.operationPending)
        else none

def handshakeOverdue (cfg : Config σ) (now : Instant) (connection : UringConnection σ) :
    Option TurnEvent :=
  match connection.ssl with
  | none => none
  | some ssl =>
      if cfg.tls.isHandshaking ssl.connection && now - ssl.startedAt ≥ ssl.handshakeTimeout then
        some .handshakeExpired
      else none

/-- `pump_static_streams` picks the streams that wait for file data. -/
def pumpReady (connection : UringConnection σ) : Option TurnEvent :=
  if connection.staticStream.isSome && !connection.writePending
      && connection.writeBuffer.isEmpty then
    some .pump
  else none

def checkProxyTimeouts (cfg : Config σ) (world : World) (w : IoUringWorker σ) :
    Except Exit (IoUringWorker σ) := do
  let w ← runTurns cfg world (slabTurns (proxyExpired cfg world.now) w.connections) w
  let w ← runTurns cfg world (slabTurns (handshakeOverdue cfg world.now) w.connections) w
  let w ← w.pushEntry world .timerRead
  runTurns cfg world (slabTurns pumpReady w.connections) w

/-! ## §5. Shutdown. -/

/-- The accepts still in flight, to be cancelled. -/
def acceptTargets (listeners : List UringListener) : List Entry :=
  listeners.zipIdx.filterMap (fun entry =>
    if entry.1.acceptPending then some (.cancel entry.2 entry.1.generation) else none)

def beginShutdown (world : World) (w : IoUringWorker σ) : Except Exit (IoUringWorker σ) :=
  if w.cancellationStarted then .ok w
  else
    let targets := acceptTargets w.listeners
    targets.foldlM (fun w entry => w.pushEntry world entry)
      { w with shuttingDown := true, shutdownStarted := some world.now
               cancellationStarted := true, pendingCancellations := targets.length }

def IoUringWorker.shutdownDrained (w : IoUringWorker σ) : Bool :=
  w.pendingCancellations == 0 && w.listeners.all (fun listener => !listener.acceptPending)
    && w.connections.count == 0

def IoUringWorker.shutdownDeadlineReached (cfg : Config σ) (now : Instant)
    (w : IoUringWorker σ) : Bool :=
  match w.shutdownStarted with
  | none => false
  | some started => now - started ≥ cfg.limits.drainTimeout

/-- The checks at the top of the loop of `run`. -/
def loopTop (cfg : Config σ) (world : World) (w : IoUringWorker σ) :
    Except Exit (IoUringWorker σ) := do
  let w ← if w.shutdownRequested then beginShutdown world w else .ok w
  if w.shuttingDown && (w.shutdownDrained || w.shutdownDeadlineReached cfg world.now) then
    .error .returned
  else return w

/-! ## §6. Runs. -/

/-- What the kernel reports about one submission. -/
structure Completion where
  result : Int
  /-- The `MORE` flag. -/
  more : Bool
  /-- The provided buffer it selected, and what it left there. -/
  bufferId : Option Nat
  contents : Nat → UInt8

inductive Event where
  /-- Another thread requests the shutdown. -/
  | requestShutdown
  | loopTop (world : World)
  /-- The completion of the submission at this place of `inFlight`; `dns` are
  the results waiting in the resolver's channel. -/
  | completed (index : Nat) (completion : Completion) (dns : List ResolveResult) (world : World)

/-- What a completed operation hands to its connection. -/
def ConnectionOp.turnEvent (completion : Completion) : ConnectionOp → TurnEvent
  | .recv _ => .read completion.result completion.bufferId completion.contents
  | .send buffer offset _ => .write (buffer.drop offset) completion.result
  | .connect _ => .proxyConnect completion.result
  | .proxySend bytes => .proxyWrite bytes completion.result
  | .proxyRecv _ => .proxyRead completion.result completion.bufferId completion.contents

/-- Does the submission stay in flight after this completion? -/
def Entry.persists (more : Bool) : Entry → Bool
  | .accept _ _ multishot => multishot && more
  | _ => false

/-- The body of the loop over completions in `run`. -/
def dispatchCompletion (cfg : Config σ) (world : World) (completion : Completion)
    (dns : List ResolveResult) (w : IoUringWorker σ) :
    Entry → Except Exit (IoUringWorker σ)
  | .shutdownRead => .ok { w with shutdownRequested := true }
  | .cancel _ _ => .ok { w with pendingCancellations := w.pendingCancellations - 1 }
  | .proxyCancel _ _ => .ok w
  | .dnsRead => processDnsResults cfg world dns w
  | .timerRead => checkProxyTimeouts cfg world w
  | .accept listener generation _ =>
      handleAcceptCompletion cfg world listener generation completion.result completion.more w
  | .operation id op => w.runTurn cfg world id (op.turnEvent completion)

def step (cfg : Config σ) (event : Event) (w : IoUringWorker σ) :
    Except Exit (IoUringWorker σ) :=
  match event with
  | .requestShutdown => .ok { w with shutdownRequested := true }
  | .loopTop world => loopTop cfg world w
  | .completed index completion dns world =>
      match w.inFlight[index]? with
      | none => .ok w
      | some entry =>
          dispatchCompletion cfg world completion dns
            (if entry.persists completion.more then w
              else { w with inFlight := w.inFlight.eraseIdx index })
            entry

/-- The submissions at the start of `run`. -/
def start (world : World) (w : IoUringWorker σ) : Except Exit (IoUringWorker σ) := do
  let w ← (List.range w.listeners.length).foldlM (fun w idx => submitAccept world idx w) w
  let w ← w.pushEntry world .shutdownRead
  let w ← w.pushEntry world .dnsRead
  w.pushEntry world .timerRead

/-- The states a worker of this configuration can be in between events. -/
inductive Reachable (cfg : Config σ) : IoUringWorker σ → Prop where
  | start {w w' : IoUringWorker σ} (world : World) (hnew : IoUringWorker.new cfg = .ok w)
      (hstart : start world w = .ok w') : Reachable cfg w'
  | step {w w' : IoUringWorker σ} (event : Event) (h : Reachable cfg w)
      (hstep : step cfg event w = .ok w') : Reachable cfg w'

/-- Replay a list of events. -/
def replay (cfg : Config σ) : List Event → IoUringWorker σ → Except Exit (IoUringWorker σ)
  | [], w => .ok w
  | event :: events, w =>
      match step cfg event w with
      | .error exit => .error exit
      | .ok w => replay cfg events w

theorem Reachable.replay {cfg : Config σ} :
    ∀ {events : List Event} {w w' : IoUringWorker σ}, Reachable cfg w →
      IoUring.replay cfg events w = .ok w' → Reachable cfg w'
  | [], w, w', h, hrun => by
      injection hrun with hrun
      exact hrun ▸ h
  | event :: events, w, w', h, hrun => by
      unfold IoUring.replay at hrun
      split at hrun
      · cases hrun
      next w₁ hstep => exact (h.step event hstep).replay hrun

/-- Build a worker, start it and replay events. -/
def boot (cfg : Config σ) (world : World) (events : List Event) :
    Except Exit (IoUringWorker σ) :=
  match IoUringWorker.new cfg with
  | .error exit => .error exit
  | .ok w =>
      match start world w with
      | .error exit => .error exit
      | .ok w => replay cfg events w

theorem Reachable.boot {cfg : Config σ} {world : World} {events : List Event}
    {w : IoUringWorker σ} (h : IoUring.boot cfg world events = .ok w) : Reachable cfg w := by
  unfold IoUring.boot at h
  split at h
  · cases h
  next w₀ hnew =>
    split at h
    · cases h
    next w₁ hstart => exact (Reachable.start world hnew hstart).replay h

/-- Does this run end in a state with the property? -/
def bootsTo (cfg : Config σ) (world : World) (events : List Event)
    (p : IoUringWorker σ → Bool) : Bool :=
  match boot cfg world events with
  | .error _ => false
  | .ok w => p w

theorem reachable_of_bootsTo {cfg : Config σ} {world : World} {events : List Event}
    {p : IoUringWorker σ → Bool} (h : bootsTo cfg world events p = true) :
    ∃ w, Reachable cfg w ∧ p w = true := by
  unfold bootsTo at h
  split at h
  · cases h
  next w hw => exact ⟨w, Reachable.boot hw, h⟩

/-- A connection was removed, with a trace that has the property. -/
def HistoryItem.removes (p : List Act → Bool) : HistoryItem σ → Bool
  | .removed _ trace _ => p trace
  | _ => false

theorem any_removes {history : List (HistoryItem σ)} {p : List Act → Bool} :
    history.any (HistoryItem.removes p) = true
      ↔ ∃ id trace ops, .removed id trace ops ∈ history ∧ p trace = true := by
  rw [List.any_eq_true]
  constructor
  · rintro ⟨item, hitem, hp⟩
    cases item with
    | removed id trace ops => exact ⟨id, trace, ops, hitem, hp⟩
    | _ => cases hp
  · rintro ⟨id, trace, ops, hitem, hp⟩
    exact ⟨_, hitem, hp⟩

/-- If this is a turn, the connection it found has the property. -/
def HistoryItem.finds (p : UringConnection σ → Bool) : HistoryItem σ → Bool
  | .turn _ _ _ found => found.all p
  | _ => true

/-! ## §7. Small workers. -/

/-- An outside in which nothing fails and no file data arrives. -/
def World.quiet : World :=
  { now := 0, submitFails := fun _ => false, createUpstreamSocket := fun _ => some 9
    staticStreamResponse := fun _ _ => .error .notFound, resolverStopped := false
    arrived := fun _ => false, vacantKey := 0 }

/-- A worker with one listener for one server with these locations. -/
def Config.single (tls : Rustls σ) (ssl : Option LoadedSslConfig) (locations : List Location) :
    Config σ :=
  { tls, servers := [{ serverName := none, locations }], sslConfigs := [ssl]
    listenerGroups := [(0, [0])]
    limits := { maxConnections := 4, maxReadBufferSize := 1024, maxWriteBufferSize := 1024
                idleTimeout := 1000, drainTimeout := 1000 }
    proxyLimits := { connectTimeout := 100, writeTimeout := 100, readTimeout := 100 }
    dnsLimits := { resolverThreads := 1, timeout := 100 }
    upstreamGroups := fun _ => none, bufRingSize := 1, bufferSize := 64 }

/-- Every request is proxied to one upstream. -/
def proxyAll : List Location :=
  [{ matcher := .pre "/".toList
     action := .proxy (some "http://u".toList) none [] .roundRobin }]

/-- The session of a small TLS worker. -/
structure ToySession where
  /-- Client flights the handshake still waits for. -/
  flights : Nat
  inbox : List UInt8
  outbox : List UInt8
  deriving Repr, DecidableEq

/-- A session that encrypts nothing: it takes at most `intake` bytes at a time, a
client flight is one byte and is answered with one byte `22`, `close_notify` is
one byte `21`, and the configuration's number is that of the client's flights. -/
def Rustls.toy (intake : Nat) : Rustls ToySession where
  serverConnection flights := some { flights, inbox := [], outbox := [] }
  readTls s bytes :=
    some (min intake bytes.length, { s with inbox := s.inbox ++ bytes.take (min intake bytes.length) })
  processNewPackets s :=
    if s.flights = 0 || s.inbox.isEmpty then some s
    else some { flights := s.flights - 1, inbox := s.inbox.tail, outbox := s.outbox ++ [22] }
  readToEnd s :=
    if s.flights = 0 then (s.inbox, .wouldBlock, { s with inbox := [] }) else ([], .wouldBlock, s)
  read s n := (.ok (s.inbox.take n), { s with inbox := s.inbox.drop n })
  wantsWrite s := !s.outbox.isEmpty
  write s bytes := some (bytes.length, { s with outbox := s.outbox ++ bytes })
  writeTls s := some (s.outbox, { s with outbox := [] })
  sendCloseNotify s := { s with outbox := s.outbox ++ [21] }
  isHandshaking s := s.flights ≠ 0
  readTls_le := by
    intro s bytes n s' h
    injection h with h
    injection h with h
    omega
  write_le := by
    intro s bytes n s' h
    injection h with h
    injection h with h
    omega

/-- A completion without a provided buffer. -/
def Completion.plain (result : Int) : Completion :=
  { result, more := true, bufferId := none, contents := fun _ => 0 }

/-- A completed receive of these bytes into buffer `0`. -/
def Completion.received (bytes : List UInt8) : Completion :=
  { result := bytes.length, more := false, bufferId := some 0
    contents := fun i => bytes.getD i 0 }

/-- The first submission completes, an accept. -/
def Event.accepts (socket : Nat) : Event := .completed 0 (.plain socket) [] .quiet

end Thwip.IoUring
