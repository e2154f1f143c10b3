/-
  Thwip.IoUring.SystemReads — the submissions that belong to no connection.

  The worker reads its timer, the resolver's eventfd and that of the shutdown, each into
  one box.  A completed read is submitted again by its handler, or not at all: a read that
  went missing would never be made up for, and two in flight would share their box.
  Cancellations are counted.  Turns of connections and accepts leave all of these alone.
-/
import Thwip.IoUring.Accepting

namespace Thwip.IoUring

open Thwip.Lib

variable {σ : Type} {cfg : Config σ} {w w' : IoUringWorker σ}

/-! ## §1. What leaves them alone. -/

/-- The worker's own reads and cancellations. -/
def Entry.isSystem : Entry → Bool
  | .shutdownRead | .dnsRead | .timerRead | .cancel .. => true
  | _ => false

/-- Nothing happened to the system's submissions, nor to what counts them. -/
structure Neutral (w w' : IoUringWorker σ) : Prop where
  count : ∀ entry, entry.isSystem = true → w'.inFlight.count entry = w.inFlight.count entry
  cancels : w'.inFlight.countP Entry.isCancel = w.inFlight.countP Entry.isCancel
  shutdownRequested : w'.shutdownRequested = w.shutdownRequested
  shuttingDown : w'.shuttingDown = w.shuttingDown
  cancellationStarted : w'.cancellationStarted = w.cancellationStarted
  pendingCancellations : w'.pendingCancellations = w.pendingCancellations

theorem Neutral.refl (w : IoUringWorker σ) : Neutral w w :=
  ⟨fun _ _ => rfl, rfl, rfl, rfl, rfl, rfl⟩

theorem Neutral.trans {w₁ : IoUringWorker σ} (h : Neutral w w₁) (h' : Neutral w₁ w') :
    Neutral w w' where
  count entry hentry := (h'.count entry hentry).trans (h.count entry hentry)
  cancels := h'.cancels.trans h.cancels
  shutdownRequested := h'.shutdownRequested.trans h.shutdownRequested
  shuttingDown := h'.shuttingDown.trans h.shuttingDown
  cancellationStarted := h'.cancellationStarted.trans h.cancellationStarted
  pendingCancellations := h'.pendingCancellations.trans h.pendingCancellations

/-- Other submissions are made or completed. -/
theorem Neutral.of_inFlight {inFlight : List Entry}
    (h : inFlight.filter Entry.isSystem = w.inFlight.filter Entry.isSystem) :
    Neutral w { w with inFlight } where
  count := by
    intro entry hentry
    show inFlight.count entry = _
    rw [← List.count_filter hentry, h, List.count_filter hentry]
  cancels := by
    have hnarrow : ∀ entries : List Entry,
        (entries.filter Entry.isSystem).countP Entry.isCancel = entries.countP Entry.isCancel := by
      intro entries
      rw [List.countP_filter]
      apply List.countP_congr
      intro entry _
      cases entry <;> simp [Entry.isCancel, Entry.isSystem]
    show inFlight.countP _ = _
    rw [← hnarrow inFlight, h, hnarrow]
  shutdownRequested := rfl
  shuttingDown := rfl
  cancellationStarted := rfl
  pendingCancellations := rfl

/-- What is not about submissions. -/
theorem Neutral.of_same (hinFlight : w'.inFlight = w.inFlight)
    (hrequested : w'.shutdownRequested = w.shutdownRequested)
    (hdown : w'.shuttingDown = w.shuttingDown)
    (hstarted : w'.cancellationStarted = w.cancellationStarted)
    (hpending : w'.pendingCancellations = w.pendingCancellations) : Neutral w w' where
  count := fun _ _ => by rw [hinFlight]
  cancels := by rw [hinFlight]
  shutdownRequested := hrequested
  shuttingDown := hdown
  cancellationStarted := hstarted
  pendingCancellations := hpending

theorem runTurn_neutral {world : World} {id : ConnectionId} {event : TurnEvent}
    (hrun : w.runTurn cfg world id event = .ok w') : Neutral w w' := by
  obtain ⟨t, -, rfl⟩ := runTurn_eq hrun
  have hpushed : (w.inFlight ++ t.pushed.map (Entry.operation id)
      ++ t.cancelled.map (Entry.proxyCancel id)).filter Entry.isSystem
      = w.inFlight.filter Entry.isSystem := by
    simp [List.filter_append, List.filter_map, Function.comp_def, Entry.isSystem]
  exact (Neutral.of_inFlight hpushed).trans (.of_same rfl rfl rfl rfl rfl)

theorem runTurns_neutral {world : World} {turns : List (ConnectionId × TurnEvent)}
    (hrun : runTurns cfg world turns w = .ok w') : Neutral w w' :=
  foldlM_ok (fun _ w₁ => Neutral w w₁)
    (fun _ _ _ _ hbefore hstep => hbefore.trans (runTurn_neutral hstep)) (.refl w) hrun

theorem pushEntry_eq {world : World} {entry : Entry} (hrun : w.pushEntry world entry = .ok w') :
    w' = { w with inFlight := w.inFlight ++ [entry] } := by
  unfold IoUringWorker.pushEntry at hrun
  split_ifs at hrun
  injection hrun with hrun
  exact hrun.symm

theorem settleAccept_neutral {world : World} {idx : Nat} {listener : UringListener} {result : Int}
    (hrun : settleAccept cfg world idx listener result w = .ok w') : Neutral w w' := by
  unfold settleAccept at hrun
  split_ifs at hrun
  · injection hrun with hrun
    exact hrun ▸ .refl w
  · unfold retainAccepted at hrun
    dsimp only at hrun
    generalize hw₀ : { w with metrics := { w.metrics with accepted := w.metrics.accepted + 1 } }
      = w₀ at hrun
    have hcounted : Neutral w w₀ := by
      rw [← hw₀]
      exact .of_same rfl rfl rfl rfl rfl
    cases hinsert : insertConnection cfg world result.toNat idx listener w₀ with
    | mk id? w₁ =>
        rw [hinsert] at hrun
        have hinserted : Neutral w w₁ := by
          refine hcounted.trans ?_
          rcases insertConnection_cases hinsert with ⟨-, generations, rfl, -⟩ |
            ⟨id, generations, connection, -, -, -, rfl, -⟩
          · exact .of_same rfl rfl rfl rfl rfl
          · exact .of_same rfl rfl rfl rfl rfl
        cases id? with
        | none =>
            injection hrun with hrun
            exact hrun ▸ hinserted
        | some id => exact hinserted.trans (runTurn_neutral hrun)
  · injection hrun with hrun
    exact hrun ▸ .of_same rfl rfl rfl rfl rfl
  · injection hrun with hrun
    exact hrun ▸ .refl w

theorem submitAccept_neutral {world : World} {idx : Nat}
    (hrun : submitAccept world idx w = .ok w') : Neutral w w' := by
  unfold submitAccept at hrun
  split at hrun
  · cases hrun
  next listener hlistener =>
    split_ifs at hrun
    · injection hrun with hrun
      exact hrun ▸ .refl w
    · cases hpush : w.pushEntry world (.accept idx listener.generation listener.multishot) with
      | error e => simp [bind, Except.bind, hpush] at hrun
      | ok w₁ =>
          simp only [bind, Except.bind, hpush, pure, Except.pure] at hrun
          injection hrun with hrun
          rw [← hrun, pushEntry_eq hpush]
          have hpushed : (w.inFlight ++ [Entry.accept idx listener.generation listener.multishot]).filter
              Entry.isSystem = w.inFlight.filter Entry.isSystem := by
            simp [List.filter_append, Entry.isSystem]
          exact (Neutral.of_inFlight hpushed).trans (.of_same rfl rfl rfl rfl rfl)

theorem handleAcceptCompletion_neutral {world : World} {idx : Nat} {generation : UInt16}
    {result : Int} {more : Bool}
    (hrun : handleAcceptCompletion cfg world idx generation result more w = .ok w') :
    Neutral w w' := by
  unfold handleAcceptCompletion at hrun
  split at hrun
  · injection hrun with hrun
    exact hrun ▸ .refl w
  next listener hlistener =>
    split_ifs at hrun
    · injection hrun with hrun
      exact hrun ▸ .refl w
    · have hflags : Neutral w
          { w with listeners := w.listeners.set idx (listener.afterAccept result more) } :=
        .of_same rfl rfl rfl rfl rfl
      cases hsettle : settleAccept cfg world idx (listener.afterAccept result more) result
          { w with listeners := w.listeners.set idx (listener.afterAccept result more) } with
      | error e => simp [bind, Except.bind, hsettle] at hrun
      | ok w₁ =>
          simp only [bind, Except.bind, hsettle, pure, Except.pure] at hrun
          have hsettled := hflags.trans (settleAccept_neutral hsettle)
          split_ifs at hrun
          · exact hsettled.trans (submitAccept_neutral hrun)
          · injection hrun with hrun
            exact hrun ▸ hsettled

/-! ## §2. The submissions and their counts. -/

structure SystemReads (w : IoUringWorker σ) : Prop where
  /-- The timer is always read. -/
  timer : w.inFlight.count .timerRead = 1
  shutdown : w.inFlight.count .shutdownRead ≤ 1
  unrequested : w.shutdownRequested = false → w.inFlight.count .shutdownRead = 1
  dns : w.inFlight.count .dnsRead ≤ 1
  running : w.shuttingDown = false → w.inFlight.count .dnsRead = 1
  cancels : w.pendingCancellations = w.inFlight.countP Entry.isCancel
  unstarted : w.cancellationStarted = false → w.pendingCancellations = 0
  started : w.cancellationStarted = w.shuttingDown

theorem SystemReads.neutral (h : SystemReads w) (hneutral : Neutral w w') : SystemReads w' where
  timer := (hneutral.count _ rfl).trans h.timer
  shutdown := (hneutral.count _ rfl).trans_le h.shutdown
  unrequested hflag := by
    rw [hneutral.count _ rfl]
    exact h.unrequested (hneutral.shutdownRequested ▸ hflag)
  dns := (hneutral.count _ rfl).trans_le h.dns
  running hflag := by
    rw [hneutral.count _ rfl]
    exact h.running (hneutral.shuttingDown ▸ hflag)
  cancels := by
    rw [hneutral.pendingCancellations, hneutral.cancels]
    exact h.cancels
  unstarted hflag := by
    rw [hneutral.pendingCancellations]
    exact h.unstarted (hneutral.cancellationStarted ▸ hflag)
  started := by
    rw [hneutral.cancellationStarted, hneutral.shuttingDown]
    exact h.started

/-- What the completion of a submission takes away. -/
theorem count_eraseIdx {entries : List Entry} {index : Nat} {entry : Entry}
    (h : entries[index]? = some entry) (other : Entry) :
    (entries.eraseIdx index).count other + (if entry = other then 1 else 0)
      = entries.count other := by
  obtain ⟨before, after, hsplit, herase⟩ := eraseIdx_split h
  rw [herase, hsplit, List.count_append, List.count_append, List.count_cons]
  by_cases hsame : entry = other
  · simp [hsame]
    omega
  · simp [hsame]

theorem countP_eraseIdx {entries : List Entry} {index : Nat} {entry : Entry}
    (h : entries[index]? = some entry) :
    (entries.eraseIdx index).countP Entry.isCancel + (if entry.isCancel then 1 else 0)
      = entries.countP Entry.isCancel := by
  obtain ⟨before, after, hsplit, herase⟩ := eraseIdx_split h
  rw [herase, hsplit, List.countP_append, List.countP_append, List.countP_cons]
  omega

/-- A completed submission of another kind. -/
theorem SystemReads.taken (h : SystemReads w) {index : Nat} {entry : Entry}
    (hentry : w.inFlight[index]? = some entry) (hother : entry.isSystem = false) :
    SystemReads { w with inFlight := w.inFlight.eraseIdx index } := by
  refine h.neutral (.of_inFlight ?_)
  obtain ⟨before, after, hsplit, herase⟩ := eraseIdx_split hentry
  rw [herase, hsplit, List.filter_append, List.filter_append,
    List.filter_cons_of_neg (by rw [hother]; decide)]

/-- The shutdown's eventfd was read: the flag is stored. -/
theorem SystemReads.shutdownRead (h : SystemReads w) {index : Nat}
    (hentry : w.inFlight[index]? = some .shutdownRead) :
    SystemReads { w with inFlight := w.inFlight.eraseIdx index, shutdownRequested := true } := by
  have hcount := count_eraseIdx hentry
  have hcancels := countP_eraseIdx hentry
  have hmost := h.shutdown
  exact {
    timer := (hcount .timerRead).trans h.timer
    shutdown := by
      have hless := hcount .shutdownRead
      rw [if_pos rfl] at hless
      show (w.inFlight.eraseIdx index).count _ ≤ 1
      omega
    unrequested := fun hflag => by cases hflag
    dns := (hcount .dnsRead).trans_le h.dns
    running := fun hflag => (hcount .dnsRead).trans (h.running hflag)
    cancels := h.cancels.trans hcancels.symm
    unstarted := h.unstarted
    started := h.started }

/-- A cancellation completed: it is counted. -/
theorem SystemReads.cancelled (h : SystemReads w) {index listener : Nat} {generation : UInt16}
    (hentry : w.inFlight[index]? = some (.cancel listener generation)) :
    SystemReads { w with
      inFlight := w.inFlight.eraseIdx index
      pendingCancellations := w.pendingCancellations - 1 } := by
  have hcount := count_eraseIdx hentry
  have hcancels := countP_eraseIdx hentry
  have hpending := h.cancels
  exact {
    timer := (hcount .timerRead).trans h.timer
    shutdown := (hcount .shutdownRead).trans_le h.shutdown
    unrequested := fun hflag => (hcount .shutdownRead).trans (h.unrequested hflag)
    dns := (hcount .dnsRead).trans_le h.dns
    running := fun hflag => (hcount .dnsRead).trans (h.running hflag)
    cancels := by
      have hone : (Entry.cancel listener generation).isCancel = true := rfl
      rw [if_pos hone] at hcancels
      show w.pendingCancellations - 1 = (w.inFlight.eraseIdx index).countP _
      omega
    unstarted := by
      intro hflag
      have hzero := h.unstarted hflag
      show w.pendingCancellations - 1 = 0
      omega
    started := h.started }

/-! ## §3. Steps. -/

/-- A completed read that is submitted again. -/
theorem Neutral.again {index : Nat} {entry : Entry} (hentry : w.inFlight[index]? = some entry)
    (h : Neutral { w with inFlight := w.inFlight.eraseIdx index } w') :
    Neutral w { w' with inFlight := w'.inFlight ++ [entry] } where
  count := by
    intro other hother
    have hafter : w'.inFlight.count other = (w.inFlight.eraseIdx index).count other :=
      h.count other hother
    show (w'.inFlight ++ [entry]).count other = w.inFlight.count other
    rw [List.count_append, hafter, ← count_eraseIdx hentry other, List.count_singleton]
    simp only [beq_iff_eq]
  cancels := by
    have hafter : w'.inFlight.countP Entry.isCancel
        = (w.inFlight.eraseIdx index).countP Entry.isCancel := h.cancels
    show (w'.inFlight ++ [entry]).countP _ = _
    rw [List.countP_append, hafter, ← countP_eraseIdx hentry, List.countP_singleton]
  shutdownRequested := h.shutdownRequested
  shuttingDown := h.shuttingDown
  cancellationStarted := h.cancellationStarted
  pendingCancellations := h.pendingCancellations

/-- The timer was read, and is read again. -/
theorem timerRead_neutral {world : World} {index : Nat}
    (hentry : w.inFlight[index]? = some .timerRead)
    (hrun : checkProxyTimeouts cfg world { w with inFlight := w.inFlight.eraseIdx index } = .ok w') :
    Neutral w w' := by
  generalize hw₀ : { w with inFlight := w.inFlight.eraseIdx index } = w₀ at hrun
  unfold checkProxyTimeouts at hrun
  cases h₁ : runTurns cfg world (slabTurns (proxyExpired cfg world.now) w₀.connections) w₀ with
  | error e => simp [bind, Except.bind, h₁] at hrun
  | ok w₁ =>
      cases h₂ : runTurns cfg world
          (slabTurns (handshakeOverdue cfg world.now) w₁.connections) w₁ with
      | error e => simp [bind, Except.bind, h₁, h₂] at hrun
      | ok w₂ =>
          cases h₃ : w₂.pushEntry world .timerRead with
          | error e => simp [bind, Except.bind, h₁, h₂, h₃] at hrun
          | ok w₃ =>
              simp only [bind, Except.bind, h₁, h₂, h₃] at hrun
              have hturns : Neutral w₀ w₂ := (runTurns_neutral h₁).trans (runTurns_neutral h₂)
              rw [← hw₀] at hturns
              have hagain := hturns.again hentry
              rw [← pushEntry_eq h₃] at hagain
              exact hagain.trans (runTurns_neutral hrun)

/-- The resolver's eventfd was read, and is read again unless the worker shuts down. -/
theorem SystemReads.dnsRead (h : SystemReads w) {world : World} {results : List ResolveResult}
    {index : Nat} (hentry : w.inFlight[index]? = some .dnsRead)
    (hrun : processDnsResults cfg world results { w with inFlight := w.inFlight.eraseIdx index }
      = .ok w') : SystemReads w' := by
  generalize hw₀ : { w with inFlight := w.inFlight.eraseIdx index } = w₀ at hrun
  unfold processDnsResults at hrun
  cases hturns : runTurns cfg world (results.map fun result =>
      (result.connectionId, TurnEvent.resolved result.addresses)) w₀ with
  | error e => simp [bind, Except.bind, hturns] at hrun
  | ok w₁ =>
      simp only [bind, Except.bind, hturns, pure, Except.pure] at hrun
      have hneutral := runTurns_neutral hturns
      by_cases hdown : w₁.shuttingDown = true
      · rw [hdown, Bool.not_true, if_neg Bool.false_ne_true] at hrun
        injection hrun with hrun
        rw [← hrun]
        refine SystemReads.neutral ?_ hneutral
        have hdown₀ : w₀.shuttingDown = true := hneutral.shuttingDown.symm.trans hdown
        rw [← hw₀] at hdown₀ ⊢
        have hcount := count_eraseIdx hentry
        have hmost := h.dns
        exact {
          timer := (hcount .timerRead).trans h.timer
          shutdown := (hcount .shutdownRead).trans_le h.shutdown
          unrequested := fun hflag => (hcount .shutdownRead).trans (h.unrequested hflag)
          dns := by
            have hless := hcount .dnsRead
            rw [if_pos rfl] at hless
            show (w.inFlight.eraseIdx index).count _ ≤ 1
            omega
          running := fun hflag => by cases hdown₀.symm.trans hflag
          cancels := h.cancels.trans (countP_eraseIdx hentry).symm
          unstarted := h.unstarted
          started := h.started }
      · rw [if_pos (by simpa using hdown)] at hrun
        rw [← hw₀] at hneutral
        have hagain := hneutral.again hentry
        rw [← pushEntry_eq hrun] at hagain
        exact h.neutral hagain

/-- Nothing but the cancellations of a shutdown is new. -/
theorem SystemReads.beginShutdown (h : SystemReads w) {world : World}
    (hrun : beginShutdown world w = .ok w') : SystemReads w' := by
  rcases beginShutdown_cases hrun with ⟨-, rfl⟩ | ⟨hstarted, rfl⟩
  · exact h
  · have hall : (acceptTargets w.listeners).countP Entry.isCancel
        = (acceptTargets w.listeners).length := by
      rw [List.countP_eq_length]
      exact fun entry hentry => acceptTargets_isCancel hentry
    have hnone : ∀ entry : Entry, entry.isCancel = false →
        (w.inFlight ++ acceptTargets w.listeners).count entry = w.inFlight.count entry := by
      intro entry hentry
      have hnot : entry ∉ acceptTargets w.listeners := by
        intro hmem
        exact Bool.false_ne_true (hentry.symm.trans (acceptTargets_isCancel hmem))
      rw [List.count_append, List.count_eq_zero_of_not_mem hnot, Nat.add_zero]
    have hzero : w.inFlight.countP Entry.isCancel = 0 := by
      rw [← h.cancels]
      exact h.unstarted hstarted
    exact {
      timer := (hnone _ rfl).trans h.timer
      shutdown := (hnone _ rfl).trans_le h.shutdown
      unrequested := fun hflag => (hnone _ rfl).trans (h.unrequested hflag)
      dns := (hnone _ rfl).trans_le h.dns
      running := fun hflag => by cases hflag
      cancels := by
        show (acceptTargets w.listeners).length
          = (w.inFlight ++ acceptTargets w.listeners).countP _
        rw [List.countP_append, hall, hzero, Nat.zero_add]
      unstarted := fun hflag => by cases hflag
      started := rfl }

theorem SystemReads.loopTop (h : SystemReads w) {world : World}
    (hrun : loopTop cfg world w = .ok w') : SystemReads w' := by
  obtain ⟨w₁, hbegun, ⟨-, hfalse⟩ | ⟨-, hsame⟩⟩ | ⟨_, _, hfalse⟩ := loopTop_cases hrun
  · cases hfalse
  · injection hsame with hsame
    rw [hsame]
    unfold Begun at hbegun
    split_ifs at hbegun
    · exact h.beginShutdown hbegun
    · injection hbegun with hbegun
      exact hbegun ▸ h
  · cases hfalse

/-- **Every step keeps the account.** -/
theorem SystemReads.step (h : SystemReads w) {event : Event}
    (hstep : IoUring.step cfg event w = .ok w') : SystemReads w' := by
  cases event with
  | requestShutdown =>
      injection hstep with hstep
      rw [← hstep]
      exact { h with unrequested := fun hflag => by cases hflag }
  | loopTop world => exact h.loopTop hstep
  | completed index completion dns world =>
      unfold IoUring.step at hstep
      dsimp only at hstep
      cases hentry : w.inFlight[index]? with
      | none =>
          rw [hentry] at hstep
          injection hstep with hstep
          exact hstep ▸ h
      | some entry =>
          rw [hentry] at hstep
          dsimp only at hstep
          cases entry with
          | shutdownRead =>
              injection hstep with hstep
              exact hstep ▸ h.shutdownRead hentry
          | cancel listener generation =>
              injection hstep with hstep
              exact hstep ▸ h.cancelled hentry
          | proxyCancel id kind =>
              injection hstep with hstep
              exact hstep ▸ h.taken hentry rfl
          | dnsRead => exact h.dnsRead hentry hstep
          | timerRead => exact h.neutral (timerRead_neutral hentry hstep)
          | operation id op => exact (h.taken hentry rfl).neutral (runTurn_neutral hstep)
          | accept listener generation multishot =>
              refine SystemReads.neutral ?_ (handleAcceptCompletion_neutral hstep)
              split_ifs
              · exact h
              · exact h.taken hentry rfl

theorem new_inFlight (hnew : IoUringWorker.new cfg = .ok w) : w.inFlight = [] := by
  unfold IoUringWorker.new at hnew
  split at hnew
  · cases hnew
  · split_ifs at hnew
    injection hnew with hnew
    rw [← hnew]

theorem new_flags (hnew : IoUringWorker.new cfg = .ok w) :
    w.cancellationStarted = false ∧ w.shuttingDown = false ∧ w.pendingCancellations = 0 := by
  unfold IoUringWorker.new at hnew
  split at hnew
  · cases hnew
  · split_ifs at hnew
    injection hnew with hnew
    rw [← hnew]
    exact ⟨rfl, rfl, rfl⟩

/-- At the start of `run` each read is submitted. -/
theorem SystemReads.start {w₀ : IoUringWorker σ} (hnew : IoUringWorker.new cfg = .ok w₀)
    {world : World} (hrun : start world w₀ = .ok w) : SystemReads w := by
  unfold IoUring.start at hrun
  cases h₁ : (List.range w₀.listeners.length).foldlM (fun w idx => submitAccept world idx w) w₀ with
  | error e => simp [bind, Except.bind, h₁] at hrun
  | ok w₁ =>
      have haccepts : Neutral w₀ w₁ := foldlM_ok (fun _ w₂ => Neutral w₀ w₂)
        (fun _ _ _ _ hbefore hstep => hbefore.trans (submitAccept_neutral hstep)) (.refl w₀) h₁
      cases h₂ : w₁.pushEntry world .shutdownRead with
      | error e => simp [bind, Except.bind, h₁, h₂] at hrun
      | ok w₂ =>
          cases h₃ : w₂.pushEntry world .dnsRead with
          | error e => simp [bind, Except.bind, h₁, h₂, h₃] at hrun
          | ok w₃ =>
              simp only [bind, Except.bind, h₁, h₂, h₃] at hrun
              rw [pushEntry_eq hrun, pushEntry_eq h₃, pushEntry_eq h₂]
              have hnone : ∀ entry, entry.isSystem = true → w₁.inFlight.count entry = 0 := by
                intro entry hentry
                rw [haccepts.count entry hentry, new_inFlight hnew, List.count_nil]
              have hflags := new_flags hnew
              have hread : ∀ entry : Entry, entry.isSystem = true →
                  (w₁.inFlight ++ [Entry.shutdownRead] ++ [Entry.dnsRead] ++ [Entry.timerRead]).count entry
                    = [Entry.shutdownRead, .dnsRead, .timerRead].count entry := by
                intro entry hentry
                rw [List.append_assoc, List.append_assoc, List.count_append, hnone entry hentry,
                  Nat.zero_add]
                rfl
              exact {
                timer := hread _ rfl
                shutdown := Nat.le_of_eq (hread _ rfl)
                unrequested := fun _ => hread _ rfl
                dns := Nat.le_of_eq (hread _ rfl)
                running := fun _ => hread _ rfl
                cancels := by
                  show w₁.pendingCancellations = (w₁.inFlight ++ [Entry.shutdownRead] ++ [Entry.dnsRead]
                    ++ [Entry.timerRead]).countP _
                  rw [List.append_assoc, List.append_assoc, List.countP_append, haccepts.cancels,
                    haccepts.pendingCancellations, hflags.2.2, new_inFlight hnew]
                  rfl
                unstarted := fun _ => haccepts.pendingCancellations.trans hflags.2.2
                started := by
                  show w₁.cancellationStarted = w₁.shuttingDown
                  rw [haccepts.cancellationStarted, haccepts.shuttingDown, hflags.1, hflags.2.1] }

/-- **The worker's own submissions are accounted for** in every state: its timer is always
being read, once; each eventfd at most once, that of the shutdown until the shutdown is
requested and that of the resolver until it begins; and the cancellations it waits for are
those in flight. -/
theorem system_submissions (h : Reachable cfg w) :
    w.inFlight.count .timerRead = 1
      ∧ w.inFlight.count .shutdownRead ≤ 1
      ∧ (w.shutdownRequested = false → w.inFlight.count .shutdownRead = 1)
      ∧ w.inFlight.count .dnsRead ≤ 1
      ∧ (w.shuttingDown = false → w.inFlight.count .dnsRead = 1)
      ∧ w.pendingCancellations = w.inFlight.countP Entry.isCancel
      ∧ (w.shuttingDown = false → w.pendingCancellations = 0) := by
  have hreads : SystemReads w := by
    induction h with
    | start world hnew hstart => exact .start hnew hstart
    | step event _ hstep ih => exact ih.step hstep
  refine ⟨hreads.timer, hreads.shutdown, hreads.unrequested, hreads.dns, hreads.running,
    hreads.cancels, ?_⟩
  intro hrunning
  exact hreads.unstarted (hreads.started.trans hrunning)

/-- A worker whose timer was read twice, and that then shuts down. -/
theorem system_submissions_drained :
    ∃ w : IoUringWorker Unit, w.shuttingDown = true ∧ w.inFlight.count .timerRead = 1
      ∧ w.pendingCancellations = w.inFlight.countP Entry.isCancel := by
  have hrun : bootsTo quietWorker .quiet
      [.completed 3 (.plain 8) [] .quiet, .completed 3 (.plain 8) [] .quiet, .requestShutdown,
        .loopTop .quiet] (fun w => w.shuttingDown) = true := by decide +kernel
  obtain ⟨w, hw, hdown⟩ := reachable_of_bootsTo hrun
  obtain ⟨htimer, -, -, -, -, hcancels, -⟩ := system_submissions hw
  exact ⟨w, hdown, htimer, hcancels⟩

end Thwip.IoUring
