/-
  Thwip.Runtime.Failures — the upstream fails before it has answered.

  A resolution, a connect, a write, a read that fails, and a phase that takes too
  long: both workers answer each of these with an error page while nothing of the
  response has arrived.  An upstream that just closes is taken for one whose
  response is complete, and its client gets nothing.

  The runs are of a worker that goes on: a step whose `take_error` of a connecting
  upstream itself fails ends the readiness worker (`Thwip.Readiness.Isolation`), so
  that no connection is removed by it and no later worker is reached.
-/
import Thwip.IoUring.Failures
import Thwip.Readiness.Failures

namespace Thwip

open Thwip.Lib

variable {σ τ : Type}

/-- **A request whose upstream fails is answered with an error**, in every run in
which no upstream ends its stream before its first byte, the pages are within the
write limit of the readiness worker, and the kernel completes for a connection of
the io_uring worker only what that connection has asked for.  No step of such a run
ends the worker through `take_error` of a connecting upstream. -/
theorem upstream_failure_is_answered (cfg : Readiness.Config σ) (ucfg : IoUring.Config τ) :
    (Readiness.FailurePagesFit cfg.limits → ∀ w, Readiness.Reachable cfg w →
      (∀ item ∈ w.history, Readiness.endsAfterResponseStart cfg.limits item = true) →
      ∀ id trace, Readiness.HistoryItem.removed id trace ∈ w.history →
        Readiness.AnswersFailure trace)
    ∧ ∀ w, IoUring.Reachable ucfg w →
      (∀ item ∈ w.history, IoUring.endsAfterResponseStart item = true) →
      ∀ id trace ops, IoUring.HistoryItem.removed id trace ops ∈ w.history →
        IoUring.AnswersFailure trace := by
  constructor
  · intro hfits w hw hguard id trace hremoved
    exact (((Readiness.failureRule cfg hfits).rule.holds hw
      (fun item hitem => ⟨⟨trivial, trivial⟩, hguard item hitem⟩)).gone id trace hremoved).2
  · intro w hw hguard
    exact ((IoUring.failureRule ucfg).holds hw hguard).gone

section Example

def proxyWorker : Readiness.Config Unit := Readiness.plainWorker Readiness.proxyAll

def proxyUring : IoUring.Config Unit :=
  IoUring.Config.single Rustls.absent none IoUring.proxyAll

/-- The resolver finds no address for the upstream; the page that says so is sent. -/
def unresolvedUpstream : List Readiness.Event :=
  Readiness.resolvedRequest.take 3 ++
    [.dnsResults [⟨Readiness.firstId, none⟩] (fun _ => .quiet), .poll,
     Readiness.firstReady .client false true { Readiness.Io.quiet with writes := [.ok 4096] }]

def unresolvedUring : List IoUring.Event :=
  IoUring.resolvedRequest.take 2 ++
    [.completed 2 (.plain 8) [⟨⟨0, 1⟩, none⟩] .quiet, .completed 3 (.plain 138) [] .quiet]

/-- The upstream takes the request and closes. -/
def silentUpstream : List Readiness.Event :=
  Readiness.resolvedRequest ++
    [Readiness.firstReady .upstream false true
       { Readiness.Io.quiet with upstreamWrites := [.ok 4096] },
     Readiness.firstReady .upstream true false
       { Readiness.Io.quiet with upstreamReads := [.ok []] }]

def silentUring : List IoUring.Event :=
  IoUring.resolvedRequest ++
    [.completed 3 (.plain 0) [] .quiet, .completed 4 (.plain 46) [] .quiet,
     .completed 4 (.plain 0) [] .quiet]

theorem upstream_failure_is_answered_unresolved :
    (∃ w, Readiness.Reachable proxyWorker w
      ∧ ∃ id trace, Readiness.HistoryItem.removed id trace ∈ w.history
        ∧ trace.getLast? = some (.removed .delivered [] false)
        ∧ Readiness.AnswersFailure trace)
    ∧ ∃ w, IoUring.Reachable proxyUring w
      ∧ ∃ id trace ops, IoUring.HistoryItem.removed id trace ops ∈ w.history
        ∧ trace.getLast? = some (.removed .delivered)
        ∧ IoUring.AnswersFailure trace := by
  have hrun : Readiness.bootsTo proxyWorker unresolvedUpstream (fun w =>
      w.history.all (Readiness.endsAfterResponseStart proxyWorker.limits)
        && w.history.any (Readiness.HistoryItem.removes (fun _ trace =>
          trace.contains .proxied
            && trace.getLast? == some (.removed .delivered [] false)))) = true := by
    decide +kernel
  have hrun' : IoUring.bootsTo proxyUring .quiet unresolvedUring (fun w =>
      w.history.all IoUring.endsAfterResponseStart
        && w.history.any (IoUring.HistoryItem.removes (fun trace =>
          trace.contains .proxied && trace.getLast? == some (.removed .delivered)))) = true := by
    decide +kernel
  obtain ⟨hready, huring⟩ := upstream_failure_is_answered proxyWorker proxyUring
  constructor
  · obtain ⟨w, hw, hp⟩ := Readiness.reachable_of_bootsTo hrun
    simp only [Bool.and_eq_true, List.all_eq_true, Readiness.any_removes, beq_iff_eq] at hp
    obtain ⟨hguard, id, trace, hitem, -, hlast⟩ := hp
    exact ⟨w, hw, id, trace, hitem, hlast, hready (by decide +kernel) w hw hguard id trace hitem⟩
  · obtain ⟨w, hw, hp⟩ := IoUring.reachable_of_bootsTo hrun'
    simp only [Bool.and_eq_true, List.all_eq_true, IoUring.any_removes, beq_iff_eq] at hp
    obtain ⟨hguard, id, trace, ops, hitem, -, hlast⟩ := hp
    exact ⟨w, hw, id, trace, ops, hitem, hlast, huring w hw hguard id trace ops hitem⟩

/-- An upstream that closes without a byte leaves its client without a response. -/
theorem silent_upstream_drops_request :
    (¬ ∀ w, Readiness.Reachable proxyWorker w →
      ∀ id trace, Readiness.HistoryItem.removed id trace ∈ w.history →
        Readiness.AnswersFailure trace)
    ∧ ¬ ∀ w, IoUring.Reachable proxyUring w →
      ∀ id trace ops, IoUring.HistoryItem.removed id trace ops ∈ w.history →
        IoUring.AnswersFailure trace := by
  constructor
  · intro hall
    have hrun : Readiness.bootsTo proxyWorker silentUpstream (fun w =>
        w.history.any (Readiness.HistoryItem.removes (fun _ trace =>
          trace.contains .proxied
            && trace.getLast? == some (.removed .upstreamEof [] false)
            && !trace.any Readiness.Act.speaks))) = true := by
      decide +kernel
    obtain ⟨w, hw, hp⟩ := Readiness.reachable_of_bootsTo hrun
    simp only [Readiness.any_removes, Bool.and_eq_true, beq_iff_eq, Bool.not_eq_true'] at hp
    obtain ⟨id, trace, hitem, ⟨hproxied, hlast⟩, hsilent⟩ := hp
    obtain ⟨log, site, unsent, wantsWrite, rfl, hanswered⟩ := hall w hw id trace hitem
    rw [List.getLast?_concat] at hlast
    injection hlast with hlast
    injection hlast with hsite
    subst hsite
    rw [List.any_append, Bool.or_eq_false_iff] at hsilent
    obtain ⟨hunanswered, huntold⟩ := Readiness.silent_of_not_speaks hsilent.1
    have hmem : Readiness.Act.proxied ∈ log := by simpa using hproxied
    rcases hanswered hmem hunanswered with hgone | hshutting | htold
    · cases hgone
    · cases hshutting
    · exact huntold htold
  · intro hall
    have hrun : IoUring.bootsTo proxyUring .quiet silentUring (fun w =>
        w.history.any (IoUring.HistoryItem.removes (fun trace =>
          trace.contains .proxied
            && trace.getLast? == some (.removed .upstreamClosed)
            && !trace.any IoUring.Act.speaks))) = true := by
      decide +kernel
    obtain ⟨w, hw, hp⟩ := IoUring.reachable_of_bootsTo hrun
    simp only [IoUring.any_removes, Bool.and_eq_true, beq_iff_eq, Bool.not_eq_true'] at hp
    obtain ⟨id, trace, ops, hitem, ⟨hproxied, hlast⟩, hsilent⟩ := hp
    obtain ⟨log, site, rfl, hanswered⟩ := hall w hw id trace ops hitem
    rw [List.getLast?_concat] at hlast
    injection hlast with hlast
    injection hlast with hsite
    subst hsite
    rw [List.any_append, Bool.or_eq_false_iff] at hsilent
    obtain ⟨hunanswered, huntold⟩ := IoUring.silent_of_not_speaks hsilent.1
    have hmem : IoUring.Act.proxied ∈ log := by simpa using hproxied
    rcases hanswered hmem hunanswered with hgone | htold
    · cases hgone
    · exact huntold htold

end Example

end Thwip
