/-
  Thwip.IoUring.Accepting — the accepts in flight, and how a shutdown waits for them.

  A listener's `accept_pending` flag is what the worker remembers of the kernel's
  side: whether an accept for it is in flight.  A shutdown cancels what the flags
  say, counts the cancellations, and is drained once both are gone.  A turn of a
  connection touches none of this; only the completion of an accept or of a
  cancellation does, and `begin_shutdown`.
-/
import Thwip.IoUring.Changes

namespace Thwip.IoUring

open Thwip.Lib

variable {σ : Type} {cfg : Config σ} {w w' : IoUringWorker σ}

/-! ## §1. What turns leave alone. -/

/-- The submissions that belong to no connection and that the worker waits for. -/
def Entry.isControl : Entry → Bool
  | .accept .. | .cancel .. | .dnsRead => true
  | _ => false

def Entry.isAccept : Entry → Bool
  | .accept .. => true
  | _ => false

def Entry.isAcceptOf (idx : Nat) : Entry → Bool
  | .accept listener _ _ => listener == idx
  | _ => false

def Entry.isCancel : Entry → Bool
  | .cancel .. => true
  | _ => false

/-- Nothing happened but to connections, their operations and the timer. -/
structure Aside (w w' : IoUringWorker σ) : Prop where
  listeners : w'.listeners = w.listeners
  shutdownRequested : w'.shutdownRequested = w.shutdownRequested
  shuttingDown : w'.shuttingDown = w.shuttingDown
  cancellationStarted : w'.cancellationStarted = w.cancellationStarted
  pendingCancellations : w'.pendingCancellations = w.pendingCancellations
  control : w'.inFlight.filter Entry.isControl = w.inFlight.filter Entry.isControl

theorem Aside.refl (w : IoUringWorker σ) : Aside w w := ⟨rfl, rfl, rfl, rfl, rfl, rfl⟩

theorem Aside.trans {w₁ : IoUringWorker σ} (h : Aside w w₁) (h' : Aside w₁ w') : Aside w w' where
  listeners := h'.listeners.trans h.listeners
  shutdownRequested := h'.shutdownRequested.trans h.shutdownRequested
  shuttingDown := h'.shuttingDown.trans h.shuttingDown
  cancellationStarted := h'.cancellationStarted.trans h.cancellationStarted
  pendingCancellations := h'.pendingCancellations.trans h.pendingCancellations
  control := h'.control.trans h.control

/-- A filter for less than the control entries. -/
theorem Aside.filter (h : Aside w w') {p : Entry → Bool}
    (hp : ∀ entry, p entry = true → entry.isControl = true) :
    w'.inFlight.filter p = w.inFlight.filter p := by
  have hnarrow : ∀ entries : List Entry,
      (entries.filter Entry.isControl).filter p = entries.filter p := by
    intro entries
    rw [List.filter_filter]
    apply List.filter_congr
    intro entry _
    cases hentry : p entry with
    | true => simp [hp entry hentry]
    | false => simp
  rw [← hnarrow w'.inFlight, h.control, hnarrow]

theorem isControl_of_isAcceptOf {idx : Nat} (entry : Entry) (h : entry.isAcceptOf idx = true) :
    entry.isControl = true := by
  cases entry <;> first | rfl | cases h

theorem isControl_of_isAccept (entry : Entry) (h : entry.isAccept = true) :
    entry.isControl = true := by
  cases entry <;> first | rfl | cases h

theorem isControl_of_isCancel (entry : Entry) (h : entry.isCancel = true) :
    entry.isControl = true := by
  cases entry <;> first | rfl | cases h

theorem runTurn_aside {world : World} {id : ConnectionId} {event : TurnEvent}
    (hrun : w.runTurn cfg world id event = .ok w') : Aside w w' := by
  obtain ⟨t, -, rfl⟩ := runTurn_eq hrun
  refine ⟨rfl, rfl, rfl, rfl, rfl, ?_⟩
  show (w.inFlight ++ t.pushed.map (Entry.operation id)
    ++ t.cancelled.map (Entry.proxyCancel id)).filter _ = _
  simp [List.filter_append, List.filter_map, Function.comp_def, Entry.isControl]

theorem pushEntry_aside {world : World} {entry : Entry} (hentry : entry.isControl = false)
    (hrun : w.pushEntry world entry = .ok w') : Aside w w' := by
  unfold IoUringWorker.pushEntry at hrun
  split_ifs at hrun
  injection hrun with hrun
  subst hrun
  refine ⟨rfl, rfl, rfl, rfl, rfl, ?_⟩
  show (w.inFlight ++ [entry]).filter _ = _
  simp [List.filter_append, hentry]

theorem runTurns_aside {world : World} {turns : List (ConnectionId × TurnEvent)}
    (hrun : runTurns cfg world turns w = .ok w') : Aside w w' :=
  foldlM_ok (fun _ w₁ => Aside w w₁)
    (fun _ _ _ _ hbefore hstep => hbefore.trans (runTurn_aside hstep)) (.refl w) hrun

theorem checkProxyTimeouts_aside {world : World}
    (hrun : checkProxyTimeouts cfg world w = .ok w') : Aside w w' := by
  unfold checkProxyTimeouts at hrun
  cases h₁ : runTurns cfg world (slabTurns (proxyExpired cfg world.now) w.connections) w with
  | error e => simp [bind, Except.bind, h₁] at hrun
  | ok w₁ =>
      cases h₂ : runTurns cfg world
          (slabTurns (handshakeOverdue cfg world.now) w₁.connections) w₁ with
      | error e => simp [bind, Except.bind, h₁, h₂] at hrun
      | ok w₂ =>
          cases h₃ : w₂.pushEntry world .timerRead with
          | error e => simp [bind, Except.bind, h₁, h₂, h₃] at hrun
          | ok w₃ =>
              simp only [bind, Except.bind, h₁, h₂, h₃] at hrun
              exact (((runTurns_aside h₁).trans (runTurns_aside h₂)).trans
                (pushEntry_aside rfl h₃)).trans (runTurns_aside hrun)

theorem insertConnection_aside {world : World} {socket : Socket} {idx : Nat}
    {listener : UringListener} {id? : Option ConnectionId}
    (hinsert : insertConnection cfg world socket idx listener w = (id?, w')) : Aside w w' := by
  rcases insertConnection_cases hinsert with ⟨rfl, generations, rfl, -⟩ |
    ⟨id, generations, connection, rfl, -, -, rfl, -⟩
  · exact ⟨rfl, rfl, rfl, rfl, rfl, rfl⟩
  · exact ⟨rfl, rfl, rfl, rfl, rfl, rfl⟩

theorem settleAccept_aside {world : World} {idx : Nat} {listener : UringListener} {result : Int}
    (hrun : settleAccept cfg world idx listener result w = .ok w') : Aside w w' := by
  unfold settleAccept at hrun
  split_ifs at hrun
  · injection hrun with hrun
    exact hrun ▸ .refl w
  · unfold retainAccepted at hrun
    dsimp only at hrun
    generalize hw₀ : { w with metrics := { w.metrics with accepted := w.metrics.accepted + 1 } }
      = w₀ at hrun
    have hcounted : Aside w w₀ := by
      rw [← hw₀]
      exact ⟨rfl, rfl, rfl, rfl, rfl, rfl⟩
    cases hinsert : insertConnection cfg world result.toNat idx listener w₀ with
    | mk id? w₁ =>
        rw [hinsert] at hrun
        have hinserted := hcounted.trans (insertConnection_aside hinsert)
        cases id? with
        | none =>
            injection hrun with hrun
            exact hrun ▸ hinserted
        | some id => exact hinserted.trans (runTurn_aside hrun)
  · injection hrun with hrun
    exact hrun ▸ ⟨rfl, rfl, rfl, rfl, rfl, rfl⟩
  · injection hrun with hrun
    exact hrun ▸ .refl w

/-! ## §2. The flags agree with what is in flight. -/

/-- The accepts of a listener that its flag stands for. -/
def UringListener.accepts (idx : Nat) (self : UringListener) : List Entry :=
  if self.acceptPending then [.accept idx self.generation self.multishot] else []

/-- What the worker remembers of its accepts and cancellations is what is in flight. -/
structure Accepting (w : IoUringWorker σ) : Prop where
  accepts : ∀ idx, w.inFlight.filter (Entry.isAcceptOf idx)
    = (w.listeners[idx]?).elim [] (UringListener.accepts idx)
  cancels : w.pendingCancellations = w.inFlight.countP Entry.isCancel
  unstarted : w.cancellationStarted = false → w.pendingCancellations = 0
  started : w.cancellationStarted = w.shuttingDown
  requested : w.shuttingDown = true → w.shutdownRequested = true

theorem Accepting.aside (h : Accepting w) (haside : Aside w w') : Accepting w' where
  accepts idx := by
    rw [haside.filter isControl_of_isAcceptOf, haside.listeners]
    exact h.accepts idx
  cancels := by
    rw [List.countP_eq_length_filter, haside.filter isControl_of_isCancel,
      ← List.countP_eq_length_filter, haside.pendingCancellations]
    exact h.cancels
  unstarted := by
    rw [haside.cancellationStarted, haside.pendingCancellations]
    exact h.unstarted
  started := by
    rw [haside.cancellationStarted, haside.shuttingDown]
    exact h.started
  requested := by
    rw [haside.shuttingDown, haside.shutdownRequested]
    exact h.requested

/-- An accept in flight is the one its listener's flag stands for. -/
theorem Accepting.listener (h : Accepting w) {idx : Nat} {generation : UInt16} {multishot : Bool}
    (hmem : .accept idx generation multishot ∈ w.inFlight) :
    ∃ listener, w.listeners[idx]? = some listener ∧ listener.acceptPending = true
      ∧ listener.generation = generation ∧ listener.multishot = multishot := by
  have hfilter : .accept idx generation multishot
      ∈ w.inFlight.filter (Entry.isAcceptOf idx) :=
    List.mem_filter.mpr ⟨hmem, by simp [Entry.isAcceptOf]⟩
  rw [h.accepts idx] at hfilter
  cases hlistener : w.listeners[idx]? with
  | none => rw [hlistener] at hfilter; cases hfilter
  | some listener =>
      rw [hlistener] at hfilter
      simp only [Option.elim_some, UringListener.accepts] at hfilter
      split_ifs at hfilter with hpending
      · rw [List.mem_singleton] at hfilter
        injection hfilter with _ hgen hmulti
        exact ⟨listener, rfl, hpending, hgen.symm, hmulti.symm⟩
      · cases hfilter

theorem getElem?_set_listener {idx idx' : Nat} {listener listener' : UringListener}
    (hlistener : w.listeners[idx]? = some listener) :
    (w.listeners.set idx listener')[idx']?
      = if idx' = idx then some listener' else w.listeners[idx']? := by
  by_cases hidx : idx' = idx
  · subst hidx
    have hlt := (List.getElem?_eq_some_iff.mp hlistener).1
    simp [hlt]
  · rw [if_neg hidx]
    exact List.getElem?_set_ne (Ne.symm hidx)

/-- Submitting an accept sets the flag. -/
theorem submitAccept_accepting {world : World} {idx : Nat} (h : Accepting w)
    (hrun : submitAccept world idx w = .ok w') : Accepting w' := by
  unfold submitAccept at hrun
  split at hrun
  · cases hrun
  next listener hlistener =>
    split_ifs at hrun with hpending
    · injection hrun with hrun
      exact hrun ▸ h
    · unfold IoUringWorker.pushEntry at hrun
      split_ifs at hrun
      · cases hrun
      · simp only [bind, Except.bind, pure, Except.pure] at hrun
        injection hrun with hrun
        subst hrun
        have hnone : w.inFlight.filter (Entry.isAcceptOf idx) = [] := by
          rw [h.accepts idx, hlistener]
          simp [UringListener.accepts, hpending]
        refine ⟨?_, ?_, h.unstarted, h.started, h.requested⟩
        · intro idx'
          dsimp only
          rw [getElem?_set_listener hlistener, List.filter_append]
          by_cases hidx : idx' = idx
          · subst hidx
            rw [hnone, if_pos rfl]
            simp [UringListener.accepts, Entry.isAcceptOf]
          · rw [if_neg hidx, h.accepts idx']
            simp [Entry.isAcceptOf, Ne.symm hidx]
        · show w.pendingCancellations = _
          rw [h.cancels, List.countP_append]
          rfl

/-! ## §3. A completed accept. -/

/-- A completion that ends an accept takes its only submission, and clears the flag. -/
theorem Accepting.ended (h : Accepting w) {index idx : Nat} {generation : UInt16}
    {multishot : Bool} (hentry : w.inFlight[index]? = some (.accept idx generation multishot))
    {listener listener' : UringListener} (hlistener : w.listeners[idx]? = some listener)
    (hended : listener'.acceptPending = false) :
    Accepting { w with
      inFlight := w.inFlight.eraseIdx index, listeners := w.listeners.set idx listener' } := by
  obtain ⟨before, after, hsplit, herase⟩ := eraseIdx_split hentry
  have haccepts : ∀ idx', (w.inFlight.eraseIdx index).filter (Entry.isAcceptOf idx')
      = if idx' = idx then [] else w.inFlight.filter (Entry.isAcceptOf idx') := by
    intro idx'
    rw [herase]
    split_ifs with hidx
    · subst hidx
      -- the flag stood for this one
      have hone : (w.inFlight.filter (Entry.isAcceptOf idx')).length ≤ 1 := by
        rw [h.accepts idx', hlistener]
        simp only [Option.elim_some, UringListener.accepts]
        split_ifs <;> simp
      rw [hsplit, List.filter_append,
        List.filter_cons_of_pos (by simp [Entry.isAcceptOf]), List.length_append,
        List.length_cons] at hone
      apply List.eq_nil_of_length_eq_zero
      rw [List.filter_append, List.length_append]
      omega
    · rw [hsplit, List.filter_append, List.filter_append,
        List.filter_cons_of_neg (by simp [Entry.isAcceptOf, Ne.symm hidx])]
  refine ⟨?_, ?_, h.unstarted, h.started, h.requested⟩
  · intro idx'
    dsimp only
    rw [getElem?_set_listener hlistener, haccepts idx']
    split_ifs with hidx
    · simp [UringListener.accepts, hended]
    · exact h.accepts idx'
  · show w.pendingCancellations = (w.inFlight.eraseIdx index).countP _
    rw [h.cancels, herase, hsplit, List.countP_append, List.countP_append,
      List.countP_cons_of_neg (by simp [Entry.isCancel])]

/-- After a completion that says there will be more, a multishot accept stays as it is. -/
theorem afterAccept_more {listener : UringListener} {result : Int}
    (hpending : listener.acceptPending = true) (hmulti : listener.multishot = true)
    (hsupported : multishotIsUnsupported result = false) :
    listener.afterAccept result true = listener := by
  unfold UringListener.afterAccept UringListener.recordCompletion
  rw [hsupported, Bool.and_false, if_neg (by decide), hmulti]
  cases listener
  simp_all

theorem afterAccept_ended {listener : UringListener} {result : Int} {more : Bool}
    (h : (listener.multishot && more) = false) :
    (listener.afterAccept result more).acceptPending = false := by
  unfold UringListener.afterAccept
  split_ifs
  · rfl
  · exact h

/-- The worker after the completion of an accept, its flags recorded: it settles
what was accepted, and submits the next accept unless a shutdown was requested. -/
theorem handleAcceptCompletion_cases {world : World} {idx : Nat} {listener : UringListener}
    {result : Int} {more : Bool} (hlistener : w.listeners[idx]? = some listener)
    (hrun : handleAcceptCompletion cfg world idx listener.generation result more w = .ok w') :
    ∃ w₁, Aside { w with listeners := w.listeners.set idx (listener.afterAccept result more) } w₁
      ∧ (w' = w₁ ∨ (listener.afterAccept result more).acceptPending = false
        ∧ w₁.shutdownRequested = false ∧ submitAccept world idx w₁ = .ok w') := by
  unfold handleAcceptCompletion at hrun
  rw [hlistener] at hrun
  dsimp only at hrun
  rw [if_neg (by simp)] at hrun
  generalize listener.afterAccept result more = listener' at hrun ⊢
  cases hsettle : settleAccept cfg world idx listener' result
      { w with listeners := w.listeners.set idx listener' } with
  | error e => simp [bind, Except.bind, hsettle] at hrun
  | ok w₁ =>
      simp only [bind, Except.bind, hsettle, pure, Except.pure] at hrun
      refine ⟨w₁, settleAccept_aside hsettle, ?_⟩
      split_ifs at hrun with hnext
      · rw [Bool.and_eq_true, Bool.not_eq_true', Bool.not_eq_true'] at hnext
        exact .inr ⟨hnext.2, hnext.1, hrun⟩
      · injection hrun with hrun
        exact .inl hrun.symm

/-- What the kernel documents of a multishot accept: it ends with the completion that
reports a failure, so a result that says multishot accepts are not supported comes
without the flag for more. -/
def endsUnsupported (w : IoUringWorker σ) : Event → Bool
  | .completed index completion _ _ =>
      match w.inFlight[index]? with
      | some (.accept _ _ multishot) =>
          !(multishot && multishotIsUnsupported completion.result && completion.more)
      | _ => true
  | _ => true

theorem Accepting.accepted (h : Accepting w) {world : World} {index idx : Nat}
    {generation : UInt16} {multishot : Bool} {completion : Completion}
    (hentry : w.inFlight[index]? = some (.accept idx generation multishot))
    (hends : (multishot && multishotIsUnsupported completion.result && completion.more) = false)
    (hrun : handleAcceptCompletion cfg world idx generation completion.result completion.more
      (if Entry.persists completion.more (.accept idx generation multishot) then w
        else { w with inFlight := w.inFlight.eraseIdx index }) = .ok w') : Accepting w' := by
  obtain ⟨listener, hlistener, hpending, rfl, rfl⟩ :=
    h.listener (List.mem_of_getElem? hentry)
  have hnext : ∀ {w₀ : IoUringWorker σ}, w₀.listeners = w.listeners →
      Accepting { w₀ with
        listeners := w₀.listeners.set idx
          (listener.afterAccept completion.result completion.more) } →
      handleAcceptCompletion cfg world idx listener.generation completion.result completion.more
        w₀ = .ok w' → Accepting w' := by
    intro w₀ hsame hrecorded hrun
    obtain ⟨w₁, haside, rfl | ⟨-, -, hsubmit⟩⟩ :=
      handleAcceptCompletion_cases (hsame ▸ hlistener) hrun
    · exact hrecorded.aside haside
    · exact submitAccept_accepting (hrecorded.aside haside) hsubmit
  split at hrun
  next hpersists =>
    -- it stays in flight, and so does its flag
    simp only [Entry.persists, Bool.and_eq_true] at hpersists
    obtain ⟨hmulti, hmore⟩ := hpersists
    have hsupported : multishotIsUnsupported completion.result = false := by
      rw [hmulti, hmore] at hends
      simpa using hends
    refine hnext rfl ?_ hrun
    rw [hmore, afterAccept_more hpending hmulti hsupported]
    have hset : w.listeners.set idx listener = w.listeners := by
      obtain ⟨hlt, hget⟩ := List.getElem?_eq_some_iff.mp hlistener
      rw [← hget]
      exact List.set_getElem_self hlt
    rw [hset]
    exact h
  next hends =>
    have hlast : (listener.multishot && completion.more) = false := by
      simpa [Entry.persists] using hends
    have hended : (listener.afterAccept completion.result completion.more).acceptPending = false :=
      afterAccept_ended hlast
    have herased : ({ w with inFlight := w.inFlight.eraseIdx index } : IoUringWorker σ).listeners
        = w.listeners := rfl
    exact hnext herased (h.ended hentry hlistener hended) hrun

/-! ## §4. Shutting down. -/

theorem acceptTargets_isCancel {listeners : List UringListener} {entry : Entry}
    (hentry : entry ∈ acceptTargets listeners) : entry.isCancel = true := by
  obtain ⟨⟨listener, idx⟩, -, hsome⟩ := List.mem_filterMap.mp hentry
  split_ifs at hsome
  injection hsome with hsome
  exact hsome ▸ rfl

/-- The submissions of a list of entries, all of them. -/
theorem pushEntries_eq {world : World} {entries : List Entry}
    (hrun : entries.foldlM (fun w entry => w.pushEntry world entry) w = .ok w') :
    w' = { w with inFlight := w.inFlight ++ entries } := by
  have hpushed := foldlM_ok
    (fun (rest : List Entry) (w₁ : IoUringWorker σ) =>
      ∃ pushed, pushed ++ rest = entries ∧ w₁ = { w with inFlight := w.inFlight ++ pushed })
    ?_ ⟨[], rfl, by simp⟩ hrun
  · obtain ⟨pushed, hall, heq⟩ := hpushed
    rw [List.append_nil] at hall
    rw [heq, hall]
  · rintro entry rest w₁ w₂ ⟨pushed, hall, rfl⟩ hstep
    unfold IoUringWorker.pushEntry at hstep
    split_ifs at hstep
    injection hstep with hstep
    subst hstep
    exact ⟨pushed ++ [entry], by simp [hall], by simp⟩

theorem beginShutdown_cases {world : World} (hrun : beginShutdown world w = .ok w') :
    w.cancellationStarted = true ∧ w' = w
    ∨ w.cancellationStarted = false
      ∧ w' = { w with
          shuttingDown := true, shutdownStarted := some world.now, cancellationStarted := true
          pendingCancellations := (acceptTargets w.listeners).length
          inFlight := w.inFlight ++ acceptTargets w.listeners } := by
  unfold beginShutdown at hrun
  split_ifs at hrun with hstarted
  · injection hrun with hrun
    exact .inl ⟨hstarted, hrun.symm⟩
  · exact .inr ⟨by simpa using hstarted, pushEntries_eq hrun⟩

/-- It fails only with an error of the ring. -/
theorem beginShutdown_error {world : World} {exit : Exit}
    (hrun : beginShutdown world w = .error exit) : exit = .io none := by
  have hpush : ∀ (entries : List Entry) (w₁ : IoUringWorker σ),
      entries.foldlM (fun w entry => w.pushEntry world entry) w₁ = .error exit →
      exit = .io none := by
    intro entries
    induction entries with
    | nil =>
        intro w₁ hrun
        cases hrun
    | cons entry entries ih =>
        intro w₁ hrun
        rw [List.foldlM_cons] at hrun
        cases hentry : w₁.pushEntry world entry with
        | error e =>
            rw [hentry] at hrun
            injection hrun with hrun
            unfold IoUringWorker.pushEntry at hentry
            split_ifs at hentry
            injection hentry with hentry
            rw [← hrun, ← hentry]
        | ok w₂ =>
            rw [hentry] at hrun
            exact ih w₂ hrun
  unfold beginShutdown at hrun
  split_ifs at hrun
  exact hpush _ _ hrun

theorem Accepting.beginShutdown (h : Accepting w) {world : World}
    (hrequested : w.shutdownRequested = true) (hrun : beginShutdown world w = .ok w') :
    Accepting w' := by
  rcases beginShutdown_cases hrun with ⟨-, rfl⟩ | ⟨hstarted, rfl⟩
  · exact h
  · have hnone : (acceptTargets w.listeners).countP Entry.isCancel
        = (acceptTargets w.listeners).length := by
      rw [List.countP_eq_length]
      exact fun entry hentry => acceptTargets_isCancel hentry
    have hzero : w.inFlight.countP Entry.isCancel = 0 := by
      rw [← h.cancels]
      exact h.unstarted hstarted
    refine ⟨?_, ?_, fun hfalse => (by cases hfalse), rfl, fun _ => hrequested⟩
    · intro idx
      rw [← h.accepts idx]
      have hnot : (acceptTargets w.listeners).filter (Entry.isAcceptOf idx) = [] := by
        rw [List.filter_eq_nil_iff]
        intro entry hentry haccept
        have hcancel := acceptTargets_isCancel hentry
        cases entry <;> first | cases haccept | cases hcancel
      show (w.inFlight ++ acceptTargets w.listeners).filter _ = _
      rw [List.filter_append, hnot, List.append_nil]
    · show (acceptTargets w.listeners).length
        = (w.inFlight ++ acceptTargets w.listeners).countP _
      rw [List.countP_append, hnone, hzero, Nat.zero_add]

/-- What `loopTop` looks at: the worker once a requested shutdown has begun. -/
def Begun (world : World) (w w₁ : IoUringWorker σ) : Prop :=
  (if w.shutdownRequested then beginShutdown world w else .ok w) = .ok w₁

theorem Accepting.begun (h : Accepting w) {world : World} (hbegun : Begun world w w') :
    Accepting w' := by
  unfold Begun at hbegun
  split_ifs at hbegun with hrequested
  · exact h.beginShutdown hrequested hbegun
  · injection hbegun with hbegun
    exact hbegun ▸ h

theorem loopTop_cases {world : World} {result : Except Exit (IoUringWorker σ)}
    (hrun : loopTop cfg world w = result) :
    (∃ w₁, Begun world w w₁
      ∧ ((w₁.shuttingDown && (w₁.shutdownDrained || w₁.shutdownDeadlineReached cfg world.now)) = true
          ∧ result = .error .returned
        ∨ (w₁.shuttingDown && (w₁.shutdownDrained || w₁.shutdownDeadlineReached cfg world.now))
            = false ∧ result = .ok w₁))
    ∨ ∃ exit, beginShutdown world w = .error exit ∧ result = .error exit := by
  have hchecks : ∀ w₁, Begun world w w₁ →
      (if (w₁.shuttingDown && (w₁.shutdownDrained || w₁.shutdownDeadlineReached cfg world.now)) then
        .error .returned else .ok w₁) = result → ∃ w₁, Begun world w w₁
      ∧ ((w₁.shuttingDown && (w₁.shutdownDrained || w₁.shutdownDeadlineReached cfg world.now)) = true
          ∧ result = .error .returned
        ∨ (w₁.shuttingDown && (w₁.shutdownDrained || w₁.shutdownDeadlineReached cfg world.now))
            = false ∧ result = .ok w₁) := by
    intro w₁ hbegun hchecks
    refine ⟨w₁, hbegun, ?_⟩
    split_ifs at hchecks with hdone
    · exact .inl ⟨hdone, hchecks.symm⟩
    · exact .inr ⟨by simpa using hdone, hchecks.symm⟩
  unfold loopTop at hrun
  simp only [bind, Except.bind, pure, Except.pure] at hrun
  by_cases hrequested : w.shutdownRequested = true
  · rw [if_pos hrequested] at hrun
    cases hbegin : beginShutdown world w with
    | error exit =>
        rw [hbegin] at hrun
        exact .inr ⟨exit, rfl, hrun.symm⟩
    | ok w₁ =>
        rw [hbegin] at hrun
        exact .inl (hchecks w₁ (by rw [Begun, if_pos hrequested, hbegin]) hrun)
  · rw [if_neg hrequested] at hrun
    exact .inl (hchecks w (by rw [Begun, if_neg hrequested]) hrun)

/-- Nothing is left that could complete for a listener, nor any connection. -/
structure Quiesced (w : IoUringWorker σ) : Prop where
  inFlight : ∀ entry ∈ w.inFlight, entry.isAccept = false ∧ entry.isCancel = false
  connections : w.connections.count = 0

theorem Accepting.quiesced (h : Accepting w) (hdrained : w.shutdownDrained = true) :
    Quiesced w := by
  unfold IoUringWorker.shutdownDrained at hdrained
  simp only [Bool.and_eq_true, beq_iff_eq, List.all_eq_true, Bool.not_eq_true'] at hdrained
  obtain ⟨⟨hcancels, hidle⟩, hcount⟩ := hdrained
  refine ⟨?_, hcount⟩
  intro entry hmem
  constructor
  · cases entry with
    | accept idx generation multishot =>
        obtain ⟨listener, hlistener, hpending, -, -⟩ := h.listener hmem
        have hfalse := hidle listener (List.mem_of_getElem? hlistener)
        rw [hpending] at hfalse
        cases hfalse
    | _ => rfl
  · rw [h.cancels, List.countP_eq_zero] at hcancels
    simpa using hcancels entry hmem

/-! ## §5. Every run. -/

theorem Accepting.taken (h : Accepting w) {index : Nat} {entry : Entry}
    (hentry : w.inFlight[index]? = some entry) (hcontrol : entry.isAccept = false)
    (hcancel : entry.isCancel = false) :
    Accepting { w with inFlight := w.inFlight.eraseIdx index } := by
  obtain ⟨before, after, hsplit, herase⟩ := eraseIdx_split hentry
  refine ⟨?_, ?_, h.unstarted, h.started, h.requested⟩
  · intro idx
    have hnot : entry.isAcceptOf idx = false := by
      cases entry <;> first | rfl | cases hcontrol
    rw [← h.accepts idx]
    show (w.inFlight.eraseIdx index).filter _ = _
    rw [herase, hsplit, List.filter_append, List.filter_append,
      List.filter_cons_of_neg (by rw [hnot]; decide)]
  · show w.pendingCancellations = (w.inFlight.eraseIdx index).countP _
    rw [h.cancels, herase, hsplit, List.countP_append, List.countP_append,
      List.countP_cons_of_neg (by rw [hcancel]; decide)]

theorem Accepting.pushed (h : Accepting w) {world : World} {entry : Entry}
    (haccept : entry.isAccept = false) (hcancel : entry.isCancel = false)
    (hrun : w.pushEntry world entry = .ok w') : Accepting w' := by
  unfold IoUringWorker.pushEntry at hrun
  split_ifs at hrun
  injection hrun with hrun
  subst hrun
  refine ⟨?_, ?_, h.unstarted, h.started, h.requested⟩
  · intro idx
    have hnot : entry.isAcceptOf idx = false := by
      cases entry <;> first | rfl | cases haccept
    show (w.inFlight ++ [entry]).filter _ = _
    rw [List.filter_append, ← h.accepts idx]
    simp [hnot]
  · show w.pendingCancellations = (w.inFlight ++ [entry]).countP _
    rw [h.cancels, List.countP_append]
    simp [hcancel]

/-- The completion of a cancellation is counted down. -/
theorem Accepting.cancelled (h : Accepting w) {index listener : Nat} {generation : UInt16}
    (hentry : w.inFlight[index]? = some (.cancel listener generation)) :
    Accepting { w with
      inFlight := w.inFlight.eraseIdx index
      pendingCancellations := w.pendingCancellations - 1 } := by
  obtain ⟨before, after, hsplit, herase⟩ := eraseIdx_split hentry
  have hcount := h.cancels
  rw [hsplit, List.countP_append, List.countP_cons_of_pos (by rfl)] at hcount
  refine ⟨?_, ?_, ?_, h.started, h.requested⟩
  · intro idx
    show (w.inFlight.eraseIdx index).filter _ = (w.listeners[idx]?).elim _ _
    rw [← h.accepts idx, herase, hsplit, List.filter_append, List.filter_append,
      List.filter_cons_of_neg (by simp [Entry.isAcceptOf])]
  · show w.pendingCancellations - 1 = (w.inFlight.eraseIdx index).countP _
    rw [herase, List.countP_append]
    omega
  · intro hstarted
    have hzero := h.unstarted hstarted
    show w.pendingCancellations - 1 = 0
    omega

theorem processDnsResults_accepting {world : World} {results : List ResolveResult}
    (h : Accepting w) (hrun : processDnsResults cfg world results w = .ok w') :
    Accepting w' := by
  unfold processDnsResults at hrun
  cases hturns : runTurns cfg world (results.map fun result =>
      (result.connectionId, TurnEvent.resolved result.addresses)) w with
  | error e => simp [bind, Except.bind, hturns] at hrun
  | ok w₁ =>
      simp only [bind, Except.bind, hturns, pure, Except.pure] at hrun
      have h₁ := h.aside (runTurns_aside hturns)
      split_ifs at hrun
      · exact h₁.pushed rfl rfl hrun
      · injection hrun with hrun
        exact hrun ▸ h₁

/-- **Every completion keeps the flags in step with the kernel**, if none says that
multishot accepts are not supported and that there will be more. -/
theorem Accepting.step (h : Accepting w) {event : Event} (hends : endsUnsupported w event = true)
    (hstep : IoUring.step cfg event w = .ok w') : Accepting w' := by
  cases event with
  | requestShutdown =>
      injection hstep with hstep
      subst hstep
      exact ⟨h.accepts, h.cancels, h.unstarted, h.started, fun _ => rfl⟩
  | loopTop world =>
      rcases loopTop_cases hstep with ⟨w₁, hbegun, ⟨-, hresult⟩ | ⟨-, hresult⟩⟩ |
        ⟨exit, -, hresult⟩
      · cases hresult
      · injection hresult with hresult
        exact hresult ▸ h.begun hbegun
      · cases hresult
  | completed index completion dns world =>
      unfold IoUring.step at hstep
      dsimp only at hstep
      cases hentry : w.inFlight[index]? with
      | none =>
          rw [hentry] at hstep
          injection hstep with hstep
          exact hstep ▸ h
      | some entry =>
          rw [hentry] at hstep
          dsimp only at hstep
          cases entry with
          | accept idx generation multishot =>
              refine h.accepted hentry ?_ hstep
              unfold endsUnsupported at hends
              dsimp only at hends
              rw [hentry] at hends
              exact (Bool.not_eq_true' _).mp hends
          | cancel listener generation =>
              injection hstep with hstep
              exact hstep ▸ h.cancelled hentry
          | shutdownRead =>
              injection hstep with hstep
              subst hstep
              have htaken := h.taken hentry rfl rfl
              exact ⟨htaken.accepts, htaken.cancels, htaken.unstarted, htaken.started, fun _ => rfl⟩
          | dnsRead => exact processDnsResults_accepting (h.taken hentry rfl rfl) hstep
          | timerRead => exact (h.taken hentry rfl rfl).aside (checkProxyTimeouts_aside hstep)
          | proxyCancel id kind =>
              injection hstep with hstep
              exact hstep ▸ h.taken hentry rfl rfl
          | operation id op => exact (h.taken hentry rfl rfl).aside (runTurn_aside hstep)

theorem Accepting.new (hnew : IoUringWorker.new cfg = .ok w) : Accepting w := by
  unfold IoUringWorker.new at hnew
  split at hnew
  · cases hnew
  · split_ifs at hnew
    injection hnew with hnew
    subst hnew
    refine ⟨?_, rfl, fun _ => rfl, rfl, fun hfalse => (by cases hfalse)⟩
    intro idx
    cases hlistener : cfg.listeners[idx]? with
    | none => simp
    | some listener =>
        have hidle : listener.acceptPending = false := by
          obtain ⟨group, -, rfl⟩ := List.mem_map.mp (List.mem_of_getElem? hlistener)
          rfl
        simp [UringListener.accepts, hidle]

theorem Accepting.start (h : Accepting w) {world : World} (hrun : start world w = .ok w') :
    Accepting w' := by
  unfold IoUring.start at hrun
  cases h₁ : (List.range w.listeners.length).foldlM (fun w idx => submitAccept world idx w) w with
  | error e => simp [bind, Except.bind, h₁] at hrun
  | ok w₁ =>
      have hw₁ : Accepting w₁ := foldlM_ok (fun _ w₂ => Accepting w₂)
        (fun _ _ _ _ hbefore hstep => submitAccept_accepting hbefore hstep) h h₁
      cases h₂ : w₁.pushEntry world .shutdownRead with
      | error e => simp [bind, Except.bind, h₁, h₂] at hrun
      | ok w₂ =>
          cases h₃ : w₂.pushEntry world .dnsRead with
          | error e => simp [bind, Except.bind, h₁, h₂, h₃] at hrun
          | ok w₃ =>
              simp only [bind, Except.bind, h₁, h₂, h₃] at hrun
              exact ((hw₁.pushed rfl rfl h₂).pushed rfl rfl h₃).pushed rfl rfl hrun

theorem Run.accepting (h : Run cfg (fun w event => endsUnsupported w event = true) w) :
    Accepting w := by
  induction h with
  | start world hnew hstart => exact (Accepting.new hnew).start hstart
  | step event _ hmeets hstep ih => exact ih.step hmeets hstep

/-- While shutting down, a step submits no accept. -/
theorem Accepting.submits_none (h : Accepting w) (hdown : w.shuttingDown = true) {event : Event}
    (hstep : IoUring.step cfg event w = .ok w') :
    w'.shuttingDown = true
      ∧ w'.inFlight.filter Entry.isAccept = (event.taken w).inFlight.filter Entry.isAccept := by
  have hrequested := h.requested hdown
  have hstarted := h.started.trans hdown
  have hquiet : ∀ {w₀ w₁ : IoUringWorker σ}, w₁.shuttingDown = w.shuttingDown →
      w₁.inFlight = w₀.inFlight → Aside w₁ w' → w'.shuttingDown = true
        ∧ w'.inFlight.filter Entry.isAccept = w₀.inFlight.filter Entry.isAccept := by
    intro w₀ w₁ hsame hinFlight haside
    rw [← hinFlight]
    exact ⟨haside.shuttingDown.trans (hsame.trans hdown), haside.filter isControl_of_isAccept⟩
  cases event with
  | requestShutdown =>
      injection hstep with hstep
      exact hstep ▸ ⟨hdown, rfl⟩
  | loopTop world =>
      rcases loopTop_cases hstep with ⟨w₁, hbegun, ⟨-, hresult⟩ | ⟨-, hresult⟩⟩ |
        ⟨exit, -, hresult⟩
      · cases hresult
      · injection hresult with hresult
        unfold Begun at hbegun
        rw [if_pos hrequested] at hbegun
        rcases beginShutdown_cases hbegun with ⟨-, hsame⟩ | ⟨hnot, -⟩
        · subst hresult
          rw [hsame]
          exact ⟨hdown, rfl⟩
        · rw [hstarted] at hnot
          cases hnot
      · cases hresult
  | completed index completion dns world =>
      unfold IoUring.step at hstep
      dsimp only [Event.taken] at hstep ⊢
      cases hentry : w.inFlight[index]? with
      | none =>
          rw [hentry] at hstep
          injection hstep with hstep
          exact hstep ▸ ⟨hdown, rfl⟩
      | some entry =>
          rw [hentry] at hstep
          dsimp only at hstep ⊢
          generalize htaken : (if entry.persists completion.more then w
            else { w with inFlight := w.inFlight.eraseIdx index }) = w₁ at hstep ⊢
          have hsame : w₁.shuttingDown = w.shuttingDown
              ∧ w₁.shutdownRequested = w.shutdownRequested ∧ w₁.listeners = w.listeners := by
            rw [← htaken]
            split_ifs
            · exact ⟨rfl, rfl, rfl⟩
            · exact ⟨rfl, rfl, rfl⟩
          obtain ⟨hshutting, hasked, hlisteners⟩ := hsame
          cases entry with
          | accept idx generation multishot =>
              obtain ⟨listener, hlistener, -, rfl, -⟩ := h.listener (List.mem_of_getElem? hentry)
              obtain ⟨w₂, haside, rfl | ⟨-, hnot, -⟩⟩ :=
                handleAcceptCompletion_cases (hlisteners ▸ hlistener) hstep
              · exact hquiet (by exact hshutting) (by rfl) haside
              · have hstill := haside.shutdownRequested
                rw [hnot] at hstill
                rw [hasked, hrequested] at hstill
                cases hstill
          | dnsRead =>
              unfold dispatchCompletion processDnsResults at hstep
              cases hturns : runTurns cfg world (dns.map fun result =>
                  (result.connectionId, TurnEvent.resolved result.addresses)) w₁ with
              | error e => simp [bind, Except.bind, hturns] at hstep
              | ok w₂ =>
                  have haside := runTurns_aside hturns
                  have hstill : w₂.shuttingDown = true :=
                    haside.shuttingDown.trans (hshutting.trans hdown)
                  simp only [bind, Except.bind, hturns, pure, Except.pure, hstill, Bool.not_true,
                    Bool.false_eq_true, if_false] at hstep
                  injection hstep with hstep
                  subst hstep
                  exact hquiet hshutting rfl haside
          | timerRead => exact hquiet hshutting rfl (checkProxyTimeouts_aside hstep)
          | operation id op => exact hquiet hshutting rfl (runTurn_aside hstep)
          | shutdownRead | cancel | proxyCancel =>
              injection hstep with hstep
              exact hstep ▸ ⟨hshutting.trans hdown, rfl⟩

/-- **A listener's flag says whether an accept for it is in flight**, in every run
whose completions come as the kernel documents them (`endsUnsupported`).  While
shutting down no accept is submitted, and `run` finds the shutdown drained only when
neither accepts nor cancellations are in flight and no connection is left. -/
theorem accepts_follow_flags (h : Run cfg (fun w event => endsUnsupported w event = true) w) :
    (∀ idx listener, w.listeners[idx]? = some listener →
      w.inFlight.countP (Entry.isAcceptOf idx) = if listener.acceptPending then 1 else 0)
    ∧ (∀ idx generation multishot, .accept idx generation multishot ∈ w.inFlight →
      ∃ listener, w.listeners[idx]? = some listener ∧ listener.acceptPending = true)
    ∧ (w.shuttingDown = true → ∀ event w', step cfg event w = .ok w' → w'.shuttingDown = true
      ∧ w'.inFlight.filter Entry.isAccept = (event.taken w).inFlight.filter Entry.isAccept)
    ∧ ∀ world, loopTop cfg world w = .error .returned → ∃ w₁, Begun world w w₁
      ∧ (w₁.shutdownDrained = true ∨ w₁.shutdownDeadlineReached cfg world.now = true)
      ∧ (w₁.shutdownDrained = true → Quiesced w₁) := by
  have hinv := h.accepting
  refine ⟨?_, ?_, ?_, ?_⟩
  · intro idx listener hlistener
    rw [List.countP_eq_length_filter, hinv.accepts idx, hlistener]
    simp only [Option.elim_some, UringListener.accepts]
    split_ifs <;> rfl
  · intro idx generation multishot hmem
    obtain ⟨listener, hlistener, hpending, -, -⟩ := hinv.listener hmem
    exact ⟨listener, hlistener, hpending⟩
  · intro hdown event w' hstep
    exact hinv.submits_none hdown hstep
  · intro world hreturned
    rcases loopTop_cases hreturned with ⟨w₁, hbegun, ⟨hdone, -⟩ | ⟨-, hresult⟩⟩ |
      ⟨exit, hbegin, hresult⟩
    · rw [Bool.and_eq_true, Bool.or_eq_true] at hdone
      exact ⟨w₁, hbegun, hdone.2, fun hdrained => (hinv.begun hbegun).quiesced hdrained⟩
    · cases hresult
    · rw [beginShutdown_error hbegin] at hresult
      cases hresult

/-- Does `run` return at the top of its loop? -/
def returns (cfg : Config σ) (world : World) (w : IoUringWorker σ) : Bool :=
  match loopTop cfg world w with
  | .error .returned => true
  | _ => false

theorem returns_iff {world : World} :
    returns cfg world w = true ↔ loopTop cfg world w = .error .returned := by
  unfold returns
  split <;> simp_all

section Example

/-- A worker without locations. -/
def quietWorker : Config Unit := Config.single Rustls.absent none []

/-- A socket is accepted and closes, then a shutdown cancels the accept. -/
def drainedAccept : List Event :=
  [.accepts 5, .completed 4 (.plain 0) [] .quiet, .requestShutdown, .loopTop .quiet,
   .completed 0 { Completion.plain (-ecanceled) with more := false } [] .quiet,
   .completed 3 (.plain 0) [] .quiet]

theorem accepts_follow_flags_drained :
    ∃ w : IoUringWorker Unit, w.shutdownDrained = true
      ∧ loopTop quietWorker .quiet w = .error .returned
      ∧ ∃ w₁, Begun .quiet w w₁ ∧ (w₁.shutdownDrained = true → Quiesced w₁) := by
  have hrun : bootsWhile quietWorker .quiet endsUnsupported drainedAccept (fun w =>
      w.shutdownDrained && returns quietWorker .quiet w) = true := by
    decide +kernel
  obtain ⟨w, hw, hp⟩ := run_of_bootsWhile hrun
  rw [Bool.and_eq_true, returns_iff] at hp
  obtain ⟨w₁, hbegun, -, hquiesced⟩ := (accepts_follow_flags hw).2.2.2 .quiet hp.2
  exact ⟨w, hp.1, hp.2, w₁, hbegun, hquiesced⟩

end Example

end Thwip.IoUring
