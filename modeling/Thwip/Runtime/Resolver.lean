/-
  Thwip.Runtime.Resolver — the resolver threads of a worker
  (`run/slave/src/runtime/readiness/resolver.rs` and `run/slave/src/runtime/io_uring/resolver.rs`).

  `resolve` sends a task, the threads look the address up, and `drain` hands the results
  over.  A result wakes the worker: by its waker on the readiness runtime, by an eventfd
  on io_uring.  The two resolvers are one pool of threads; only the ids differ.  What the
  system says of an address is any answer.
-/
import Thwip.Lib.Pool
import Thwip.Readiness.Worker
import Thwip.IoUring.Worker

namespace Thwip

open Thwip.Lib

/-- What the system says of a name: the texts of its addresses, or an error. -/
abbrev Resolved := Option (List Str)

/-! ## §1. The resolvers. -/

abbrev Readiness.DnsResolver := Pool Readiness.ResolveTask Resolved

abbrev IoUring.DnsResolver := Pool IoUring.ResolveTask Resolved

/-- `DnsResolver::new`, once its threads are spawned. -/
def Readiness.DnsResolver.new (threadCount : Nat) : Readiness.DnsResolver := Pool.new threadCount

def IoUring.DnsResolver.new (threadCount : Nat) : IoUring.DnsResolver := Pool.new threadCount

/-- The result of a thread: it has the id of its task. -/
def Readiness.ResolveResult.of (answer : Readiness.ResolveTask × Resolved) :
    Readiness.ResolveResult :=
  { connectionId := answer.1.connectionId, addresses := answer.2 }

def IoUring.ResolveResult.of (answer : IoUring.ResolveTask × Resolved) : IoUring.ResolveResult :=
  { connectionId := answer.1.connectionId, addresses := answer.2 }

/-- The results a worker has been handed. -/
def Readiness.DnsResolver.handed (self : Readiness.DnsResolver) : List Readiness.ResolveResult :=
  self.delivered.map Readiness.ResolveResult.of

def IoUring.DnsResolver.handed (self : IoUring.DnsResolver) : List IoUring.ResolveResult :=
  self.delivered.map IoUring.ResolveResult.of

/-! ## §2. Their answers. -/

theorem Readiness.DnsResolver.handed_ids (s : Readiness.DnsResolver) :
    s.handed.map Readiness.ResolveResult.connectionId
      = (s.delivered.map Prod.fst).map Readiness.ResolveTask.connectionId := by
  unfold Readiness.DnsResolver.handed
  rw [List.map_map, List.map_map]
  rfl

theorem IoUring.DnsResolver.handed_ids (s : IoUring.DnsResolver) :
    s.handed.map IoUring.ResolveResult.connectionId
      = (s.delivered.map Prod.fst).map IoUring.ResolveTask.connectionId := by
  unfold IoUring.DnsResolver.handed
  rw [List.map_map, List.map_map]
  rfl

/-- **The resolvers answer each lookup once**, whatever the interleaving of their threads
and the worker: no lookup is refused or answered twice, no result waits for a worker that
sleeps without a notification on its way, and when nothing is left to do every lookup has
been answered; a worker that goes away leaves no thread behind. -/
theorem resolver_threads_answer {threads : Nat} (hthreads : 0 < threads) :
    (∀ events (s : Readiness.DnsResolver), (Readiness.DnsResolver.new threads).run events = some s →
      s.Answers threads events
        ∧ (s.handed.map Readiness.ResolveResult.connectionId : Multiset Readiness.ConnectionId)
          ≤ (s.submitted.map Readiness.ResolveTask.connectionId : Multiset _)
        ∧ (s.accepting = true → s.AtRest →
          (s.handed.map Readiness.ResolveResult.connectionId).Perm
            (s.submitted.map Readiness.ResolveTask.connectionId)))
      ∧ ∀ events (s : IoUring.DnsResolver), (IoUring.DnsResolver.new threads).run events = some s →
        s.Answers threads events
          ∧ (s.handed.map IoUring.ResolveResult.connectionId : Multiset IoUring.ConnectionId)
            ≤ (s.submitted.map IoUring.ResolveTask.connectionId : Multiset _)
          ∧ (s.accepting = true → s.AtRest →
            (s.handed.map IoUring.ResolveResult.connectionId).Perm
              (s.submitted.map IoUring.ResolveTask.connectionId)) := by
  refine ⟨?_, ?_⟩
  · intro events s h
    have hanswers := Pool.run_answers hthreads h
    refine ⟨hanswers, ?_, ?_⟩
    · rw [Readiness.DnsResolver.handed_ids]
      exact Multiset.map_le_map hanswers.once
    · intro hopen hrest
      rw [Readiness.DnsResolver.handed_ids]
      exact (hanswers.rest hopen hrest).map _
  · intro events s h
    have hanswers := Pool.run_answers hthreads h
    refine ⟨hanswers, ?_, ?_⟩
    · rw [IoUring.DnsResolver.handed_ids]
      exact Multiset.map_le_map hanswers.once
    · intro hopen hrest
      rw [IoUring.DnsResolver.handed_ids]
      exact (hanswers.rest hopen hrest).map _

/-- Two threads, and a lookup that the second one takes. -/
def oneLookup : List (PoolEvent Readiness.ResolveTask Resolved) :=
  [.submit ⟨⟨0, 1⟩, "u:80".toList⟩, .turn 1, .turn 1, .turn 0, .answer 1 (some ["10.0.0.1:80".toList]),
    .turn 1, .turn 1, .wake, .take, .take]

theorem resolver_threads_answer_one :
    ∃ s : Readiness.DnsResolver, (Readiness.DnsResolver.new 2).run oneLookup = some s
      ∧ s.handed = [⟨⟨0, 1⟩, some ["10.0.0.1:80".toList]⟩] ∧ s.Answers 2 oneLookup := by
  have hruns : ((Readiness.DnsResolver.new 2).run oneLookup).any (fun s =>
      Readiness.DnsResolver.handed s == [⟨⟨0, 1⟩, some ["10.0.0.1:80".toList]⟩]) = true := by decide +kernel
  obtain ⟨s, hs, hhanded⟩ := (Option.any_eq_true _ _).mp hruns
  exact ⟨s, hs, eq_of_beq hhanded, ((resolver_threads_answer (by decide)).1 oneLookup s hs).1⟩

end Thwip
