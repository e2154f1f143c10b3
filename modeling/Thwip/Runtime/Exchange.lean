/-
  Thwip.Runtime.Exchange — what passes through a connection, seen from outside.

  Both workers move bytes between a client and an upstream, or answer the client
  themselves.  An `Exchange` is one such movement; `Relays` says of a whole trace
  what a proxied connection owes to both sides.  Nothing here knows how a worker
  keeps its buffers.
-/
import Thwip.Lib.Trace
import Thwip.Router

namespace Thwip

open Thwip.Lib

/-! ## §1. Traces. -/

inductive Exchange where
  /-- These bytes are to be forwarded to the upstream. -/
  | forwarding (request : List UInt8)
  /-- The upstream's socket accepted these. -/
  | forwarded (bytes : List UInt8)
  /-- These bytes of the upstream's response were taken. -/
  | relayed (bytes : List UInt8)
  /-- The worker put a response of its own into the write buffer. -/
  | queued (response : List UInt8)
  /-- The client's socket accepted these. -/
  | sent (bytes : List UInt8)
  deriving Repr, DecidableEq

@[simp] def Exchange.sentBytes : Exchange → List UInt8
  | .sent bytes => bytes
  | _ => []

@[simp] def Exchange.relayedBytes : Exchange → List UInt8
  | .relayed bytes => bytes
  | _ => []

@[simp] def Exchange.forwardedBytes : Exchange → List UInt8
  | .forwarded bytes => bytes
  | _ => []

@[simp] def Exchange.request : Exchange → List (List UInt8)
  | .forwarding request => [request]
  | _ => []

@[simp] def Exchange.response : Exchange → List (List UInt8)
  | .queued response => [response]
  | _ => []

/-- All that the client's socket accepted. -/
def toClient (trace : List Exchange) : List UInt8 := trace.flatMap Exchange.sentBytes

/-- The upstream's response as far as it was taken. -/
def fromUpstream (trace : List Exchange) : List UInt8 := trace.flatMap Exchange.relayedBytes

def toUpstream (trace : List Exchange) : List UInt8 := trace.flatMap Exchange.forwardedBytes

/-- The requests to be forwarded. -/
def requests (trace : List Exchange) : List (List UInt8) := trace.flatMap Exchange.request

/-- The responses the worker queued itself. -/
def responses (trace : List Exchange) : List (List UInt8) := trace.flatMap Exchange.response

section Traces

variable (exchange : Exchange) (trace later : List Exchange)

@[simp] theorem toClient_nil : toClient [] = [] := rfl

@[simp] theorem toClient_cons :
    toClient (exchange :: trace) = exchange.sentBytes ++ toClient trace := rfl

@[simp] theorem toClient_append : toClient (trace ++ later) = toClient trace ++ toClient later :=
  List.flatMap_append

@[simp] theorem fromUpstream_nil : fromUpstream [] = [] := rfl

@[simp] theorem fromUpstream_cons :
    fromUpstream (exchange :: trace) = exchange.relayedBytes ++ fromUpstream trace := rfl

@[simp] theorem fromUpstream_append :
    fromUpstream (trace ++ later) = fromUpstream trace ++ fromUpstream later :=
  List.flatMap_append

@[simp] theorem toUpstream_nil : toUpstream [] = [] := rfl

@[simp] theorem toUpstream_cons :
    toUpstream (exchange :: trace) = exchange.forwardedBytes ++ toUpstream trace := rfl

@[simp] theorem toUpstream_append :
    toUpstream (trace ++ later) = toUpstream trace ++ toUpstream later :=
  List.flatMap_append

@[simp] theorem requests_nil : requests [] = [] := rfl

@[simp] theorem requests_cons :
    requests (exchange :: trace) = exchange.request ++ requests trace := rfl

@[simp] theorem requests_append : requests (trace ++ later) = requests trace ++ requests later :=
  List.flatMap_append

@[simp] theorem responses_nil : responses [] = [] := rfl

@[simp] theorem responses_cons :
    responses (exchange :: trace) = exchange.response ++ responses trace := rfl

@[simp] theorem responses_append :
    responses (trace ++ later) = responses trace ++ responses later :=
  List.flatMap_append

end Traces

theorem mem_responses {trace : List Exchange} {response : List UInt8} :
    response ∈ responses trace ↔ .queued response ∈ trace := by
  unfold responses
  rw [List.mem_flatMap]
  constructor
  · rintro ⟨exchange, hmem, hresponse⟩
    cases exchange with
    | queued response' =>
        obtain rfl := List.mem_singleton.mp hresponse
        exact hmem
    | _ => cases hresponse
  · intro h
    exact ⟨.queued response, h, List.mem_singleton_self _⟩

section Forwarded

variable (chunks : List (List UInt8))

theorem toUpstream_forwarded : toUpstream (chunks.map Exchange.forwarded) = chunks.flatten := by
  unfold toUpstream
  rw [List.flatMap_map]
  exact List.flatMap_id

theorem fromUpstream_forwarded : fromUpstream (chunks.map Exchange.forwarded) = [] := by
  unfold fromUpstream
  rw [List.flatMap_map]
  exact List.flatMap_eq_nil_iff.mpr (fun _ _ => rfl)

theorem requests_forwarded : requests (chunks.map Exchange.forwarded) = [] := by
  unfold requests
  rw [List.flatMap_map]
  exact List.flatMap_eq_nil_iff.mpr (fun _ _ => rfl)

theorem responses_forwarded : responses (chunks.map Exchange.forwarded) = [] := by
  unfold responses
  rw [List.flatMap_map]
  exact List.flatMap_eq_nil_iff.mpr (fun _ _ => rfl)

theorem toClient_forwarded : toClient (chunks.map Exchange.forwarded) = [] := by
  unfold toClient
  rw [List.flatMap_map]
  exact List.flatMap_eq_nil_iff.mpr (fun _ _ => rfl)

end Forwarded

/-- A movement of no bytes but to the client shows in none of the rest. -/
def OnlySent (trace : List Exchange) : Prop :=
  ∀ exchange ∈ trace, ∃ bytes, exchange = .sent bytes

section OnlySent

variable {trace later : List Exchange}

theorem OnlySent.flatMap_eq_nil {α : Type} (h : OnlySent trace) {f : Exchange → List α}
    (hf : ∀ bytes, f (.sent bytes) = []) : trace.flatMap f = [] := by
  rw [List.flatMap_eq_nil_iff]
  intro exchange hmem
  obtain ⟨bytes, rfl⟩ := h exchange hmem
  exact hf bytes

theorem OnlySent.fromUpstream (h : OnlySent trace) : fromUpstream trace = [] :=
  h.flatMap_eq_nil (fun _ => rfl)

theorem OnlySent.toUpstream (h : OnlySent trace) : toUpstream trace = [] :=
  h.flatMap_eq_nil (fun _ => rfl)

theorem OnlySent.requests (h : OnlySent trace) : requests trace = [] :=
  h.flatMap_eq_nil (fun _ => rfl)

theorem OnlySent.responses (h : OnlySent trace) : responses trace = [] :=
  h.flatMap_eq_nil (fun _ => rfl)

end OnlySent

/-! ## §2. What a proxied connection owes. -/

/-- A chunk of the upstream's response is taken only once the client has all of
the one before; the worker answers itself only while the client has nothing and
nothing was taken. -/
def Exchange.InTurn (before : List Exchange) : Exchange → Prop
  | .relayed _ => toClient before = fromUpstream before
  | .queued _ => toClient before = [] ∧ fromUpstream before = []
  | _ => True

/-- What is forwarded is no one's turn. -/
theorem inTurn_forwarded {trace : List Exchange} (h : Throughout Exchange.InTurn trace)
    (chunks : List (List UInt8)) :
    Throughout Exchange.InTurn (trace ++ chunks.map Exchange.forwarded) := by
  refine h.append ?_
  intro before exchange after heq
  have hmem : exchange ∈ chunks.map Exchange.forwarded := by
    rw [heq]
    simp
  obtain ⟨chunk, -, rfl⟩ := List.mem_map.mp hmem
  trivial

/-- An answer of the worker's own that reports an error. -/
def IsErrorResponse (response : List UInt8) : Prop :=
  ∃ status message, 400 ≤ status ∧ response = responseBytes status message

/-- An answer that blames the upstream. -/
def IsGatewayError (response : List UInt8) : Prop :=
  ∃ status message, (status = 502 ∨ status = 504) ∧ response = responseBytes status message

structure Relays (trace : List Exchange) : Prop where
  /-- The upstream gets the request in order, each byte once. -/
  upstream : toUpstream trace = []
    ∨ ∃ request, requests trace = [request] ∧ toUpstream trace <+: request
  /-- The client gets the upstream's response, or one error. -/
  client : (responses trace = [] ∧ toClient trace <+: fromUpstream trace)
    ∨ (fromUpstream trace = [] ∧ ∃ response ∈ responses trace,
        IsErrorResponse response ∧ toClient trace <+: response)
  inTurn : Throughout Exchange.InTurn trace

end Thwip
