/-
  Thwip.Runtime.Basic — what both workers share (`run/slave/src/runtime/mod.rs`)
  and the TLS session they are parametric in.

  Time is a number of milliseconds; `duration_since` saturates at zero, as the
  subtraction of natural numbers does.  The TLS session is the `rustls` crate's
  `ServerConnection`: a type of session states with the operations the workers
  call, restricted only by what the crate documents about the counts they
  return.
-/
import Thwip.Http.Fragmentation
import Thwip.StaticFiles
import Thwip.LoadBalancer

namespace Thwip

open Thwip.Lib

abbrev Instant := Nat

/-! ## §1. Limits and metrics. -/

structure WorkerLimits where
  maxConnections : Nat
  maxReadBufferSize : Nat
  maxWriteBufferSize : Nat
  idleTimeout : Nat
  drainTimeout : Nat
  deriving Repr, DecidableEq

structure ProxyLimits where
  connectTimeout : Nat
  writeTimeout : Nat
  readTimeout : Nat
  deriving Repr, DecidableEq

structure DnsLimits where
  resolverThreads : Nat
  timeout : Nat
  deriving Repr, DecidableEq

structure WorkerMetrics where
  accepted : Nat := 0
  requests : Nat := 0
  responses : Nat := 0
  bytesRead : Nat := 0
  bytesWritten : Nat := 0
  errors : Nat := 0
  deriving Repr, DecidableEq

/-- The buffer slice of a recorded request that is still being received. -/
structure PendingRequest where
  head : RequestHead
  bodyStart : Nat
  bodyEnd : Nat
  deriving Repr, DecidableEq

/-- What a worker decides after appending one chunk to a request buffer. -/
inductive ReadVerdict where
  | keepWaiting
  /-- Answer with this status and message. -/
  | error (status : Nat) (message : Str)
  | dispatch (head : RequestHead) (body : List UInt8)
  deriving Repr, DecidableEq

/-- `a.checked_add(b)` on `usize`. -/
def checkedAdd (a b : Nat) : Option Nat :=
  if a + b < 2 ^ usizeBits then some (a + b) else none

/-- The recorded request is the one `bytes` start with, within the limit. -/
def RecordedFor (limits : WorkerLimits) (bytes : List UInt8) (pending : PendingRequest) : Prop :=
  parseRequestHead bytes = .ok (.complete pending.head pending.bodyStart)
    ∧ pending.bodyEnd ≤ limits.maxReadBufferSize
    ∧ ∃ n, pending.head.bodyLength = .ok n ∧ pending.bodyEnd = pending.bodyStart + n

/-- A recorded request is not invalidated by later bytes. -/
theorem RecordedFor.append {limits : WorkerLimits} {bytes : List UInt8}
    {pending : PendingRequest} (h : RecordedFor limits bytes pending) (later : List UInt8) :
    RecordedFor limits (bytes ++ later) pending :=
  ⟨parseRequestHead_append_complete later h.1, h.2⟩

/-- `u32::try_from(n)` succeeds. -/
def fitsU32 (n : Nat) : Bool := n < 2 ^ 32

/-! ## §2. The TLS session. -/

/-- The outcome of reading decrypted bytes. -/
inductive PlaintextEnd where
  | endOfStream
  | wouldBlock
  | failed
  deriving Repr, DecidableEq

structure LoadedSslConfig where
  /-- Names the loaded `ServerConfig`. -/
  serverConfig : Nat
  handshakeTimeout : Nat
  deriving Repr, DecidableEq

/-- The result of one non-blocking read; `ok []` is the end of the stream. -/
inductive IoRead where
  | ok (bytes : List UInt8)
  | wouldBlock
  | interrupted
  | failed
  deriving Repr, DecidableEq

/-- The operations of a `rustls::ServerConnection` with states `σ`. -/
structure Rustls (σ : Type) where
  /-- `ServerConnection::new`, `none` on failure. -/
  serverConnection : Nat → Option σ
  /-- `read_tls` on a reader that offers these bytes: how many it took. -/
  readTls : σ → List UInt8 → Option (Nat × σ)
  processNewPackets : σ → Option σ
  /-- `reader().read_to_end`: the bytes appended, and how it ended. -/
  readToEnd : σ → List UInt8 × PlaintextEnd × σ
  /-- `reader().read` into a buffer of this length. -/
  read : σ → Nat → IoRead × σ
  wantsWrite : σ → Bool
  /-- `writer().write`: how many of the offered bytes were accepted. -/
  write : σ → List UInt8 → Option (Nat × σ)
  /-- `write_tls` into a vector: the bytes appended to it. -/
  writeTls : σ → Option (List UInt8 × σ)
  sendCloseNotify : σ → σ
  isHandshaking : σ → Bool
  /-- A reader or writer never reports more bytes than it was offered. -/
  readTls_le : ∀ s bytes n s', readTls s bytes = some (n, s') → n ≤ bytes.length
  write_le : ∀ s bytes n s', write s bytes = some (n, s') → n ≤ bytes.length

/-- The session type of a worker whose listeners are all plaintext: no session
can be created. -/
def Rustls.absent : Rustls Unit where
  serverConnection _ := none
  readTls _ _ := none
  processNewPackets _ := none
  readToEnd s := ([], .failed, s)
  read s _ := (.failed, s)
  wantsWrite _ := false
  write _ _ := none
  writeTls _ := none
  sendCloseNotify s := s
  isHandshaking _ := false
  readTls_le := by simp
  write_le := by simp

end Thwip
