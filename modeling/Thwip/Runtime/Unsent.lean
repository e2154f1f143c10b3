/-
  Thwip.Runtime.Unsent — the end of a TLS connection whose response is not sent yet.

  A session accepts what its buffer has room for.  The readiness worker offers it the
  rest at once, takes the refusal for a failure, and drops the connection with what the
  client has not got: no response that is longer than the buffer arrives.
-/
import Thwip.Readiness.Unsent
import Thwip.Runtime.CloseNotify

namespace Thwip

open Thwip.Lib

variable {σ : Type}

/-- **A TLS connection outlasts its response.**  In every run whose turns find no
session too full for what it is offered, and none that is given up with ciphertext of a
response, a TLS connection is removed with bytes of its response unsent only in a turn
in which its socket failed, its client closed, or a deadline passed. -/
theorem tls_connection_outlasts_response (cfg : Readiness.Config σ)
    {w : Readiness.ReadinessWorker σ} (h : Readiness.Reachable cfg w)
    (hguard : ∀ item ∈ w.history, Readiness.keepsResponses cfg item = true) :
    Throughout Readiness.RemovedSentOut w.history := by
  obtain ⟨w₀, hnew, hpath⟩ := h.atoms
  have hstart : Readiness.Reachable cfg w₀ := .new hnew
  have hempty := Readiness.new_history hnew
  clear hnew h
  induction hpath with
  | refl =>
      rw [hempty]
      exact throughout_nil
  | tail hbefore hatom ih =>
      obtain ⟨items, hitems⟩ := Readiness.atom_history hatom
      have hsafe := ((Readiness.sessionRule cfg).rule.holds hstart).atoms hbefore
      have hholds := hsafe (fun _ _ => ⟨⟨trivial, trivial⟩, trivial⟩)
      refine Readiness.atom_sendsOut hholds hatom hguard (ih ?_)
      intro item hitem
      apply hguard
      rw [hitems]
      exact List.mem_append_left _ hitem

section Example

/-- The small session, with room for so many bytes that are not sent. -/
def boundedSession (room : Nat) : Rustls IoUring.ToySession :=
  { toySession with
    write := fun s bytes =>
      some (min (room - s.outbox.length) bytes.length,
        { s with outbox := s.outbox ++ bytes.take (room - s.outbox.length) })
    write_le := by
      intro s bytes n s' h
      injection h with h
      injection h with h
      omega }

def boundedSocket (room : Nat) : Readiness.SocketTls IoUring.ToySession :=
  { toySocket with toRustls := boundedSession room }

def boundedWorker (room : Nat) : Readiness.Config IoUring.ToySession :=
  Readiness.Config.single (boundedSocket room) (some ⟨0, 100⟩) Readiness.roomyLimits []

/-- The page for a missing file is as long as the session has room, and is delivered. -/
theorem tls_connection_outlasts_response_page :
    ∃ w, Readiness.Reachable (boundedWorker 128) w
      ∧ (∃ id trace, Readiness.HistoryItem.removed id trace ∈ w.history
        ∧ trace.getLast? = some (.removed .delivered [] false))
      ∧ Throughout Readiness.RemovedSentOut w.history := by
  have hrun : Readiness.bootsTo (boundedWorker 128) fetchFile (fun w =>
      w.history.all (Readiness.keepsResponses (boundedWorker 128))
        && w.history.any (Readiness.HistoryItem.removes (fun _ trace =>
          trace.getLast? == some (.removed .delivered [] false)))) = true := by
    decide +kernel
  obtain ⟨w, hw, hp⟩ := Readiness.reachable_of_bootsTo hrun
  simp only [Bool.and_eq_true, List.all_eq_true, Readiness.any_removes, beq_iff_eq] at hp
  obtain ⟨hguard, id, trace, hitem, hlast⟩ := hp
  exact ⟨w, hw, ⟨id, trace, hitem, hlast⟩,
    tls_connection_outlasts_response (boundedWorker 128) hw hguard⟩

/-- A removal for a refusal, with bytes of the response in the write buffer. -/
def refusedUnsent : Readiness.Act → Bool
  | .removed .writerRefused unsent _ => !unsent.isEmpty
  | _ => false

/-- A session with room for half of the page costs the client the other half, and its
connection. -/
theorem full_session_drops_response :
    ¬ ∀ w, Readiness.Reachable (boundedWorker 64) w →
      Throughout Readiness.RemovedSentOut w.history := by
  intro hall
  have hrun : Readiness.bootsTo (boundedWorker 64) fetchFile (fun w =>
      w.history.any (Readiness.HistoryItem.removes (fun _ trace =>
        trace.head? == some (.accepted true) && trace.getLast?.any refusedUnsent))) = true := by
    decide +kernel
  obtain ⟨w, hw, hp⟩ := Readiness.reachable_of_bootsTo hrun
  simp only [Readiness.any_removes, Bool.and_eq_true, beq_iff_eq] at hp
  obtain ⟨id, trace, hitem, hhead, hlast⟩ := hp
  obtain ⟨before, after, hhistory⟩ := List.append_of_mem hitem
  obtain ⟨event, io, found, -, log, site, unsent, wantsWrite, rfl, hsent⟩ :=
    hall w hw before _ after hhistory hhead
  rw [List.getLast?_concat, Option.any_some] at hlast
  unfold refusedUnsent at hlast
  split at hlast
  next heq =>
    injection heq with hsite hunsent
    subst hsite hunsent
    rcases hsent with hbeyond | hnothing
    · cases hbeyond
    · unfold Readiness.unsentResponse at hnothing
      rw [hlast] at hnothing
      cases hnothing
  · cases hlast

end Example

end Thwip
