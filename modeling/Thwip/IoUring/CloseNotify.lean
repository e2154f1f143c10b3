/-
  Thwip.IoUring.CloseNotify — how a TLS connection ends after its response.

  `handle_write_completion` queues the alert when the output is drained, and
  removes the connection when all that the session has produced has been sent, the
  alert included.  The end of a file and the end of the upstream's response remove
  the connection at once.
-/
import Thwip.IoUring.Closing

namespace Thwip.IoUring

open Thwip.Lib

variable {σ : Type} {cfg : Config σ} {env : Env σ} {event : TurnEvent}
  {c c₁ c' : UringConnection σ} {next : Next} {acts : List Act}

/-! ## §1. What is asked of a removal. -/

/-- With this trace, a removal here comes after a complete response. -/
def RemovalSite.completes (log : List Act) : RemovalSite → Prop
  | .delivered | .streamFinished => True
  | .upstreamClosed => ∃ bytes, .relayed bytes ∈ log
  | _ => False

theorem RemovalSite.completes.fails {log : List Act} {site : RemovalSite}
    (h : site.completes log) : site.fails = false := by
  cases site <;> first | rfl | exact h.elim

/-- After a complete response the alert had been queued, every byte the session
produced had been sent, and the last send left nothing in the session. -/
def ClosesCleanly (trace : List Act) : Prop :=
  ∃ log site, trace = log ++ [.removed site]
    ∧ (site.completes log → .closeNotify ∈ log ∧ sentBytes log = producedBytes log
      ∧ ∃ before bytes, log = before ++ [.sent bytes false, .response .delivered])

/-- The upstream is at its end. -/
def TurnEvent.endsUpstream : TurnEvent → Bool
  | .proxyRead result _ _ => result == 0
  | _ => false

/-- No file of a TLS connection ends in this turn, and no response of its upstream. -/
def endsNoTlsBody : HistoryItem σ → Bool
  | .turn _ event _ (some c) =>
      c.ssl.isNone
        || !(event.asksFile && c.staticStream.any (fun stream => stream.chunks.isEmpty))
          && !(event.endsUpstream && c.proxy.any (fun proxy => !proxy.timedOut))
  | _ => true

/-- No connection is inserted under an id with a client send of an earlier one in
flight: its completion would be taken for one of the new connection's. -/
def insertsOverNoSend : HistoryItem σ → Bool
  | .inserted _ stale => stale.all (fun op => !op.isSend)
  | _ => true

/-! ## §2. The alert is on record. -/

def UringConnection.closing (self : UringConnection σ) : Bool :=
  self.ssl.any UringSslSession.closing

theorem advance_closing (c : UringConnection σ) (n : Nat) : (c.advance n).closing = c.closing := by
  unfold UringConnection.advance UringConnection.closing
  split_ifs <;> rfl

theorem fillOutput_closing {tls : Rustls σ} (h : c.fillOutput tls = some (c₁, acts)) :
    c₁.closing = c.closing := by
  rcases fillOutput_cases h with ⟨rfl, -, -⟩ | ⟨ssl, _, _, _, hssl, -, -, rfl, -⟩
  · rfl
  · simp [UringConnection.closing, hssl]

theorem Finish.closing {clears : Nat} {pushed : List ConnectionOp}
    (h : Finish env clears c next c' pushed acts) : c'.closing = c.closing := by
  cases h with
  | done | sendBusy | recvBusy | recv | upstream => rfl
  | sendIdle _ _ _ hfill => exact fillOutput_closing hfill
  | sent _ _ _ hfill =>
      rw [← fillOutput_closing hfill]
      rfl

theorem Intake.closing {received plaintext : List UInt8}
    (h : Intake env received c next c₁ plaintext acts) : c₁.closing = c.closing := by
  cases h with
  | plain => rfl
  | tls ssl ssl' hssl taken _ hintake =>
      have hsame : ssl'.closing = ssl.closing := by
        unfold UringSslSession.intake at hintake
        split at hintake
        · cases hintake
        · split at hintake
          · cases hintake
          · split at hintake
            · cases hintake
            · cases hintake
              rfl
      simp [UringConnection.closing, UringConnection.setSsl, hssl, hsame]

theorem PlaintextMove.closing {received : List UInt8}
    (h : PlaintextMove env received c next (some c₁) acts) : c₁.closing = c.closing := by
  cases h with
  | empty => rfl
  | waiting _ hreceive | rejected _ _ _ _ _ hreceive =>
      obtain ⟨_, _, _, rfl⟩ := receiveRequest_frame hreceive
      rfl
  | dispatched _ _ _ _ _ _ hreceive hanswer =>
      obtain ⟨_, _, _, rfl⟩ := receiveRequest_frame hreceive
      cases hanswer <;> rfl

theorem StreamMove.closing (h : StreamMove c next (some c₁) acts) : c₁.closing = c.closing := by
  cases h <;> rfl

theorem FailMove.closing (h : FailMove c next (some c₁) acts) : c₁.closing = c.closing := by
  cases h
  rfl

theorem AddressMove.closing {proxy : UringProxy}
    (h : AddressMove env c proxy next (some c₁) acts) : c₁.closing = c.closing := by
  cases h <;> rfl

/-- A move that closes the session notes it. -/
theorem Move.closing (h : Move env event c next (some c₁) acts) (hclosing : c₁.closing = true) :
    c.closing = true ∨ .closeNotify ∈ acts := by
  cases h with
  | write h =>
      cases h with
      | retry => exact .inl hclosing
      | more => exact .inl (by rw [advance_closing] at hclosing; exact hclosing)
      | stream _ _ _ _ _ _ _ hmove =>
          rw [hmove.closing] at hclosing
          have hadvance := advance_closing c.markWriteCompleted
          exact .inl ((hadvance _).symm.trans hclosing)
      | proxy =>
          have hadvance := advance_closing c.markWriteCompleted
          exact .inl ((hadvance _).symm.trans hclosing)
      | close => exact .inr (by simp)
  | connectFailed _ _ _ h => exact .inl (h.closing.symm.trans hclosing)
  | connectNext _ _ h => exact .inl (h.closing.symm.trans hclosing)
  | writeFailed _ _ _ h => exact .inl (h.closing.symm.trans hclosing)
  | readFailed _ _ _ h => exact .inl (h.closing.symm.trans hclosing)
  | resolved _ _ _ _ h => exact .inl (h.closing.symm.trans hclosing)
  | expiredIdle h => exact .inl (h.closing.symm.trans hclosing)
  | pump _ h => exact .inl (h.closing.symm.trans hclosing)
  | _ => exact .inl hclosing

theorem TurnOutcome.closing {clears : Nat} {pushed : List ConnectionOp}
    (h : TurnOutcome env event c clears (some c') pushed acts) (hclosing : c'.closing = true) :
    c.closing = true ∨ .closeNotify ∈ acts := by
  cases h with
  | moved hmove hfinish =>
      rw [hfinish.closing] at hclosing
      exact (hmove.closing hclosing).imp_right (List.mem_append_left _)
  | received _ _ hintake hflush hmove hfinish =>
      rw [hfinish.closing, hmove.closing, hflush.closing, hintake.closing] at hclosing
      exact .inl hclosing

/-! ## §3. Every run. -/

/-- What closes is on record, and what the session produced is accounted for. -/
structure Notified (c : UringConnection σ) (ops : List ConnectionOp) (log : List Act) :
    Prop where
  marked : log.head? = some (.accepted c.ssl.isSome)
  notified : c.closing = true → .closeNotify ∈ log
  kept : SendKept c (clearsIn log) (ops.filter ConnectionOp.isSend)
  outgoing : c.ssl.isSome = true → Outgoing c log

/-- A TLS connection that ends after a complete response was closed, if neither a
file nor the upstream ended it. -/
theorem Ending.closesCleanly {id : ConnectionId} {world : World} {log : List Act} {now : Instant}
    {ops ops₀ : List ConnectionOp} (h : Ending env event c acts) (hssl : c.ssl.isSome = true)
    (hguard : endsNoTlsBody (.turn id event world (some c)) = true)
    (hready : Ready cfg now c event ops ops₀) (hinv : Notified c ops log) :
    ClosesCleanly (log ++ acts) := by
  have htls : c.ssl.isNone = false := by
    rw [← Option.not_isSome, hssl]
    rfl
  simp only [endsNoTlsBody, htls, Bool.false_or, Bool.and_eq_true, Bool.not_eq_true'] at hguard
  obtain ⟨hfile, hupstream⟩ := hguard
  cases h with
  | failed before site hsite =>
      refine ⟨log ++ before, site, (List.append_assoc _ _ _).symm, ?_⟩
      intro hcompletes
      rw [hcompletes.fails] at hsite
      cases hsite
  | delivered submitted result hevent hdrained _ _ hclosed =>
      subst hevent
      obtain ⟨ssl, hsome⟩ := Option.isSome_iff_exists.mp hssl
      have hnotified : c.closing = true := by
        simp [UringConnection.closing, hsome, hclosed ssl hsome]
      obtain ⟨-, hunsent, hwants⟩ := UringConnection.outputDrained_spec hdrained
      -- the last send took what was left of the buffer
      have haccount := Outgoing.advance (c := c.markWriteCompleted) (hinv.outgoing hssl) hssl
        ((hinv.kept.submitted hready).2 hssl) result.toNat false
      have hsent : sentBytes (log ++ [.sent (submitted.take result.toNat) false])
          = producedBytes (log ++ [.sent (submitted.take result.toNat) false]) := by
        unfold UringConnection.unsent at hunsent
        rw [if_pos (by rw [UringConnection.advance_ssl]; exact hssl)] at hunsent
        rw [haccount, hunsent, List.append_nil]
      rw [hwants]
      refine ⟨log ++ [.sent (submitted.take result.toNat) false, .response .delivered], .delivered,
        by simp, fun _ => ⟨?_, ?_, log, _, rfl⟩⟩
      · exact List.mem_append_left _ (hinv.notified hnotified)
      · rw [List.append_cons, sentBytes_append, producedBytes_append, hsent]
        rfl
  | fileEnded before stream hevent hstream hend _ =>
      simp [hevent, hstream, hend] at hfile
  | upstreamEnded bufferId contents proxy hevent hproxy htimed =>
      simp [hevent, TurnEvent.endsUpstream, hproxy, htimed] at hupstream

def closeRule (cfg : Config σ) : SlotRule cfg where
  Inv := Notified
  Guard item := endsNoTlsBody item = true ∧ insertsOverNoSend item = true
  Outlives _ := True
  Gone trace _ := trace.head? = some (.accepted true) → ClosesCleanly trace
  accepted := by
    intro id c stale hfresh hguard _
    have hnone : stale.filter ConnectionOp.isSend = [] := by
      refine List.filter_eq_nil_iff.mpr (fun op hop => ?_)
      simpa using List.all_eq_true.mp hguard.2 op hop
    cases hfresh with
    | mk socket listenerIndex ssl _ _ _ hsession =>
        refine ⟨rfl, ?_, ?_, fun _ => rfl⟩
        · intro hclosing
          obtain ⟨session, hsome, hclosed⟩ := (Option.any_eq_true _ _).mp hclosing
          rw [(hsession session hsome).1] at hclosed
          cases hclosed
        · rw [List.filter_append, hnone]
          exact .idle rfl
  turn := by
    intro env id event c c' ops ops₀ pushed log acts _ _ _ _ hready hinv houtcome
    have hssl := houtcome.sameClient.ssl
    refine ⟨?_, ?_, ?_, fun htls => ?_⟩
    · rw [hssl, List.head?_append, hinv.marked]
      rfl
    · intro hclosing
      rcases houtcome.closing hclosing with hbefore | hnow
      · exact List.mem_append_left _ (hinv.notified hbefore)
      · exact List.mem_append_right _ hnow
    · rw [clearsIn_append]
      exact hinv.kept.turn hready houtcome
    · rw [hssl] at htls
      exact (hinv.outgoing htls).turn htls hinv.kept hready houtcome
  removed := by
    intro env id event c ops ops₀ pushed log acts _ _ _ hguard hready hinv houtcome
    refine ⟨fun hhead => ?_, fun _ _ => trivial⟩
    rw [List.head?_append, hinv.marked] at hhead
    injection hhead with hhead
    injection hhead with hssl
    exact houtcome.ending.closesCleanly hssl hguard.1 hready hinv

end Thwip.IoUring
