/-
  Thwip.IoUring.TlsReceive — what becomes of the bytes a TLS connection receives.

  `handle_read_completion` offers the bytes of a receive to `read_tls` once and
  drops the cursor.  The traces tell what was copied out of the provided buffers
  and what the session took; they agree when the next receive is submitted
  exactly if every offer before it was taken whole.
-/
import Thwip.IoUring.Runs

namespace Thwip.IoUring

open Thwip.Lib

variable {σ : Type} {cfg : Config σ} {env : Env σ}

/-! ## §1. Copied and delivered bytes. -/

def Act.copy? : Act → Option (List UInt8)
  | .copied bytes => some bytes
  | _ => none

def Act.intake? : Act → Option (List UInt8 × Nat)
  | .tlsRead offered taken => some (offered, taken)
  | _ => none

/-- The bytes copied out of the provided buffers. -/
def copiedBytes (log : List Act) : List UInt8 := (log.filterMap Act.copy?).flatten

/-- The bytes the session took. -/
def deliveredBytes (log : List Act) : List UInt8 :=
  (log.filterMap Act.intake?).flatMap (fun read => read.1.take read.2)

/-- Whenever a receive is submitted, the session has taken exactly the bytes
copied so far, in this order. -/
def DeliversBeforeReceiving (log : List Act) : Prop :=
  ∀ before after, log = before ++ .recvSubmitted :: after →
    deliveredBytes before = copiedBytes before

/-- `read_tls` took all it was offered. -/
def TookAll (log : List Act) : Prop :=
  ∀ read ∈ log.filterMap Act.intake?, read.2 = read.1.length

/-- Prefixes make up the whole lists only if each is its whole list. -/
theorem flatMap_take_eq_flatten_iff {α : Type} :
    ∀ {reads : List (List α × Nat)}, (∀ read ∈ reads, read.2 ≤ read.1.length) →
      (reads.flatMap (fun read => read.1.take read.2) = (reads.map Prod.fst).flatten
        ↔ ∀ read ∈ reads, read.2 = read.1.length)
  | [], _ => by simp
  | (xs, n) :: reads, hle => by
      have hn : n ≤ xs.length := hle (xs, n) List.mem_cons_self
      have hrest : ∀ read ∈ reads, read.2 ≤ read.1.length :=
        fun read hread => hle read (List.mem_cons_of_mem _ hread)
      have ih := flatMap_take_eq_flatten_iff hrest
      -- together the other prefixes are not longer than the other lists
      have hlen : ∀ reads : List (List α × Nat), (∀ read ∈ reads, read.2 ≤ read.1.length) →
          (reads.flatMap (fun read => read.1.take read.2)).length
            ≤ (reads.map Prod.fst).flatten.length := by
        intro reads hreads
        induction reads with
        | nil => simp
        | cons read reads ihr =>
            have htail := ihr (fun r hr => hreads r (List.mem_cons_of_mem _ hr))
            have hhead := hreads read List.mem_cons_self
            simp only [List.flatMap_cons, List.map_cons, List.flatten_cons, List.length_append,
              List.length_take]
            omega
      constructor
      · intro heq
        simp only [List.flatMap_cons, List.map_cons, List.flatten_cons] at heq
        have hlen₀ := congrArg List.length heq
        simp only [List.length_append, List.length_take] at hlen₀
        have hfull : n = xs.length := by
          have := hlen reads hrest
          omega
        rw [hfull, List.take_length] at heq
        have htail := ih.mp (List.append_cancel_left heq)
        intro read hread
        rcases List.mem_cons.mp hread with rfl | hread
        · exact hfull
        · exact htail read hread
      · intro hall
        have hfull : n = xs.length := hall (xs, n) List.mem_cons_self
        have htail := ih.mpr (fun read hread => hall read (List.mem_cons_of_mem _ hread))
        simp only [List.flatMap_cons, List.map_cons, List.flatten_cons, htail, hfull,
          List.take_length]

/-- Every copy was offered to the session. -/
def Paired (log : List Act) : Prop :=
  log.filterMap Act.copy? = (log.filterMap Act.intake?).map Prod.fst

theorem Paired.delivered_iff {log : List Act} (h : Paired log)
    (hle : ∀ read ∈ log.filterMap Act.intake?, read.2 ≤ read.1.length) :
    deliveredBytes log = copiedBytes log ↔ TookAll log := by
  unfold copiedBytes
  rw [h]
  exact flatMap_take_eq_flatten_iff hle

/-! ## §2. The trace of a TLS connection. -/

/-- The invariant of a TLS connection's trace. -/
structure Accounted (log : List Act) : Prop where
  paired : Paired log
  pairedAt : ∀ before after, log = before ++ .recvSubmitted :: after → Paired before
  bounded : ∀ read ∈ log.filterMap Act.intake?, read.2 ≤ read.1.length

/-- Acts that neither copy nor offer bytes. -/
def NoIntake (acts : List Act) : Prop := ∀ act ∈ acts, act.copy? = none ∧ act.intake? = none

theorem NoIntake.append {xs ys : List Act} (hx : NoIntake xs) (hy : NoIntake ys) :
    NoIntake (xs ++ ys) := by
  intro act hact
  rcases List.mem_append.mp hact with hact | hact
  · exact hx act hact
  · exact hy act hact

theorem NoIntake.of_append_left {xs ys : List Act} (h : NoIntake (xs ++ ys)) : NoIntake xs :=
  fun act hact => h act (List.mem_append_left _ hact)

theorem NoIntake.copies {acts : List Act} (h : NoIntake acts) :
    acts.filterMap Act.copy? = [] :=
  List.filterMap_eq_nil_iff.mpr (fun act hact => (h act hact).1)

theorem NoIntake.intakes {acts : List Act} (h : NoIntake acts) :
    acts.filterMap Act.intake? = [] :=
  List.filterMap_eq_nil_iff.mpr (fun act hact => (h act hact).2)

theorem Paired.append {log acts : List Act} (h : Paired log) (hacts : NoIntake acts) :
    Paired (log ++ acts) := by
  unfold Paired
  rw [List.filterMap_append, List.filterMap_append, hacts.copies, hacts.intakes,
    List.append_nil, List.append_nil]
  exact h

theorem Accounted.append {log acts : List Act} (h : Accounted log) (hacts : NoIntake acts) :
    Accounted (log ++ acts) := by
  refine ⟨h.paired.append hacts, ?_, ?_⟩
  · intro before after heq
    rcases List.append_eq_append_iff.mp heq with ⟨mid, rfl, hmid⟩ | ⟨mid, hmid, hrest⟩
    · rw [hmid] at hacts
      exact h.paired.append hacts.of_append_left
    · cases mid with
      | nil =>
          rw [List.append_nil] at hmid
          exact hmid ▸ h.paired
      | cons act mid =>
          injection hrest with hact _
          subst hact
          exact h.pairedAt before mid hmid
  · rw [List.filterMap_append, hacts.intakes, List.append_nil]
    exact h.bounded

theorem Accounted.read {log : List Act} {received : List UInt8} {taken : Nat}
    (h : Accounted log) (hle : taken ≤ received.length) :
    Accounted (log ++ [.copied received, .tlsRead received taken]) := by
  refine ⟨?_, ?_, ?_⟩
  · have hpaired := h.paired
    unfold Paired at hpaired ⊢
    rw [List.filterMap_append, List.filterMap_append, List.map_append, hpaired]
    rfl
  · intro before after heq
    rcases List.append_eq_append_iff.mp heq with ⟨mid, -, hmid⟩ | ⟨mid, hmid, hrest⟩
    · -- neither of the two acts submits a receive
      have hmem : Act.recvSubmitted ∈ [Act.copied received, .tlsRead received taken] := by
        rw [hmid]
        simp
      simp at hmem
    · cases mid with
      | nil => cases hrest
      | cons act mid =>
          injection hrest with hact _
          subst hact
          exact h.pairedAt before mid hmid
  · rw [List.filterMap_append]
    intro read hread
    rcases List.mem_append.mp hread with hread | hread
    · exact h.bounded read hread
    · simp only [List.filterMap_cons, Act.intake?, List.filterMap_nil, List.mem_singleton] at hread
      rw [hread]
      exact hle

/-! ## §3. What a turn adds to the trace. -/

section Turns

variable {c c₁ c' : UringConnection σ} {clears : Nat} {next : Next} {pushed : List ConnectionOp}
  {acts : List Act}

theorem noIntake_nil : NoIntake [] := fun _ h => absurd h List.not_mem_nil

theorem noIntake_cons {act : Act} {acts : List Act} (hact : act.copy? = none ∧ act.intake? = none)
    (hacts : NoIntake acts) : NoIntake (act :: acts) := by
  intro a ha
  rcases List.mem_cons.mp ha with rfl | ha
  · exact hact
  · exact hacts a ha

theorem noIntake_notes (h : ∀ act ∈ acts, act.isNote = true) : NoIntake acts := by
  intro act hact
  have hnote := h act hact
  cases act with
  | copied => cases hnote
  | tlsRead => cases hnote
  | _ => exact ⟨rfl, rfl⟩

theorem Finish.noIntake (h : Finish env clears c next c' pushed acts) : NoIntake acts := by
  have hfill : ∀ {c₁ : UringConnection σ} {acts : List Act},
      c.fillOutput env.tls = some (c₁, acts) → NoIntake acts := by
    intro c₁ acts hfill
    rcases fillOutput_cases hfill with ⟨-, rfl, -⟩ | ⟨_, _, _, _, -, -, -, -, rfl⟩
    · exact noIntake_nil
    · exact noIntake_cons ⟨rfl, rfl⟩ (noIntake_cons ⟨rfl, rfl⟩
        (noIntake_cons ⟨rfl, rfl⟩ noIntake_nil))
  cases h with
  | done => exact noIntake_nil
  | sendBusy => exact noIntake_nil
  | sendIdle _ _ _ h _ => exact hfill h
  | sent _ _ _ h _ => exact hfill h
  | recvBusy => exact noIntake_nil
  | recv => exact noIntake_cons ⟨rfl, rfl⟩ noIntake_nil
  | upstream => exact noIntake_cons ⟨rfl, rfl⟩ noIntake_nil

/-- The session was offered the bytes of a receive. -/
structure Offered (env : Env σ) (event : TurnEvent) (c : UringConnection σ)
    (received : List UInt8) (taken : Nat) : Prop where
  event : ∃ result bufferId contents, event = .read result bufferId contents ∧ 0 < result
    ∧ received = (List.range result.toNat).map contents
  session : ∃ ssl session, c.ssl = some ssl
    ∧ env.tls.readTls ssl.connection received = some (taken, session)

theorem intake_readTls {tls : Rustls σ} {ssl ssl' : UringSslSession σ}
    {received plaintext : List UInt8} {taken : Nat}
    (h : ssl.intake tls received = some (taken, plaintext, ssl')) :
    ∃ session, tls.readTls ssl.connection received = some (taken, session) := by
  unfold UringSslSession.intake at h
  split at h
  · cases h
  next taken' session hread =>
    split at h
    · cases h
    · split at h
      · cases h
      · cases h
        exact ⟨session, hread⟩

/-- On a TLS connection a turn copies nothing, or copies the bytes of one receive
and offers them to the session. -/
theorem TurnOutcome.intake {event : TurnEvent}
    (h : TurnOutcome env event c clears (some c') pushed acts) (hssl : c.ssl.isSome = true) :
    NoIntake acts ∨ ∃ received taken rest, Offered env event c received taken
      ∧ acts = [.copied received, .tlsRead received taken] ++ rest ∧ NoIntake rest := by
  cases h with
  | moved hmove hfinish => exact .inl ((noIntake_notes hmove.notes).append hfinish.noIntake)
  | received hevent hpos hintake hflush hmove hfinish =>
      have hrest := (hflush.noIntake.append (noIntake_notes hmove.frame.2)).append hfinish.noIntake
      cases hintake with
      | plain hnone =>
          rw [show c.ssl = none from hnone] at hssl
          cases hssl
      | tls ssl ssl' hsome taken plaintext hintake =>
          obtain ⟨session, hread⟩ := intake_readTls hintake
          refine .inr ⟨_, taken, _, ⟨⟨_, _, _, hevent, hpos, rfl⟩, ⟨ssl, session, hsome, hread⟩⟩,
            ?_, hrest⟩
          simp only [List.append_assoc]

end Turns

/-! ## §4. Every run. -/

/-- The accounts of every TLS connection are in order. -/
def accountedRule (cfg : Config σ) : SlotRule cfg where
  Inv c _ log := c.ssl.isSome = true → Accounted log
  Guard _ := True
  Outlives _ := True
  Gone _ _ := True
  accepted := by
    intro id c stale _ _ _ _
    have hnil : Accounted [] := ⟨rfl, by simp, by simp⟩
    exact hnil.append (noIntake_cons ⟨rfl, rfl⟩ (noIntake_cons ⟨rfl, rfl⟩ noIntake_nil))
  turn := by
    intro env id event c c' ops ops₀ pushed log acts _ _ _ _ _ hinv houtcome hssl
    rw [houtcome.sameClient.ssl] at hssl
    rcases houtcome.intake hssl with hnone | ⟨received, taken, rest, hoffer, rfl, hrest⟩
    · exact (hinv hssl).append hnone
    · obtain ⟨ssl, session, -, hread⟩ := hoffer.session
      rw [← List.append_assoc]
      exact ((hinv hssl).read (env.tls.readTls_le _ _ _ _ hread)).append hrest
  removed := fun _ _ _ _ _ _ _ => ⟨trivial, fun _ _ => trivial⟩

/-- When a TLS connection is handed received bytes, `read_tls` takes all of them. -/
def readTlsTakesAll (cfg : Config σ) : HistoryItem σ → Bool
  | .turn id (.read result _ contents) _ (some c) =>
      match c.ssl with
      | none => true
      | some ssl =>
          if c.matchesGeneration id.generation && 0 < result then
            match cfg.tls.readTls ssl.connection ((List.range result.toNat).map contents) with
            | none => true
            | some (taken, _) => taken == result.toNat
          else true
  | _ => true

theorem readTlsTakesAll_taken {id : ConnectionId} {result : Int} {bufferId : Option Nat}
    {contents : Nat → UInt8} {c : UringConnection σ} {ssl : UringSslSession σ} {taken : Nat}
    {session : σ} (hgen : c.generation = id.generation) (hpos : 0 < result)
    (hssl : c.ssl = some ssl)
    (hread : cfg.tls.readTls ssl.connection ((List.range result.toNat).map contents)
      = some (taken, session))
    (h : readTlsTakesAll cfg (.turn id (.read result bufferId contents) world (some c)) = true) :
    taken = result.toNat := by
  simpa [readTlsTakesAll, hssl, UringConnection.matchesGeneration, hgen, hpos, hread] using h

/-- In such runs no offer is cut short. -/
def takenRule (cfg : Config σ) : SlotRule cfg where
  Inv c _ log := c.ssl.isSome = true → TookAll log
  Guard item := readTlsTakesAll cfg item = true
  Outlives _ := True
  Gone _ _ := True
  accepted := by
    intro id c stale _ _ _ _ read hread
    simp [Act.intake?] at hread
  turn := by
    intro env id event c c' ops ops₀ pushed log acts henv _ hgen hguard _ hinv houtcome hssl
    rw [houtcome.sameClient.ssl] at hssl
    have hlog := hinv hssl
    unfold TookAll
    rcases houtcome.intake hssl with hnone | ⟨received, taken, rest, hoffer, rfl, hrest⟩
    · rw [List.filterMap_append, hnone.intakes, List.append_nil]
      exact hlog
    · obtain ⟨result, bufferId, contents, rfl, hpos, rfl⟩ := hoffer.event
      obtain ⟨ssl, session, hsome, hread⟩ := hoffer.session
      have htaken : taken = result.toNat :=
        readTlsTakesAll_taken hgen hpos hsome (by rw [← henv]; exact hread) hguard
      rw [List.filterMap_append, List.filterMap_append, hrest.intakes, List.append_nil]
      intro read hmem
      rcases List.mem_append.mp hmem with hmem | hmem
      · exact hlog read hmem
      · simp only [List.filterMap_cons, Act.intake?, List.filterMap_nil,
          List.mem_singleton] at hmem
        rw [hmem, htaken]
        simp
  removed := fun _ _ _ _ _ _ _ => ⟨trivial, fun _ _ => trivial⟩

/-- **Received ciphertext reaches the session exactly when no offer is cut short.**
In every reachable state, a TLS connection has delivered every copied byte before
each receive it submitted if and only if every `read_tls` before that receive took
all it was offered; so in a run in which `read_tls` always takes all of a receive,
nothing is ever lost. -/
theorem received_bytes_delivered_iff_taken {w : IoUringWorker σ} (h : Reachable cfg w) :
    ((∀ item ∈ w.history, readTlsTakesAll cfg item = true) →
      ∀ slot occ, w.connections.get slot = some occ → occ.connection.ssl.isSome = true →
        DeliversBeforeReceiving occ.log)
    ∧ ∀ slot occ, w.connections.get slot = some occ → occ.connection.ssl.isSome = true →
        (DeliversBeforeReceiving occ.log
          ↔ ∀ before after, occ.log = before ++ .recvSubmitted :: after → TookAll before) := by
  have hexact : ∀ slot occ, w.connections.get slot = some occ →
      occ.connection.ssl.isSome = true → (DeliversBeforeReceiving occ.log
        ↔ ∀ before after, occ.log = before ++ .recvSubmitted :: after → TookAll before) := by
    intro slot occ hget hssl
    have hacc : Accounted occ.log :=
      ((accountedRule cfg).holds h (fun _ _ => trivial)).live slot occ hget hssl
    have hiff : ∀ before after, occ.log = before ++ .recvSubmitted :: after →
        (deliveredBytes before = copiedBytes before ↔ TookAll before) := by
      intro before after heq
      refine (hacc.pairedAt before after heq).delivered_iff ?_
      intro read hread
      refine hacc.bounded read ?_
      rw [heq, List.filterMap_append]
      exact List.mem_append_left _ hread
    constructor
    · intro hall before after heq
      exact (hiff before after heq).mp (hall before after heq)
    · intro hall before after heq
      exact (hiff before after heq).mpr (hall before after heq)
  refine ⟨?_, hexact⟩
  intro hguard slot occ hget hssl
  have htook : TookAll occ.log := ((takenRule cfg).holds h hguard).live slot occ hget hssl
  refine (hexact slot occ hget hssl).mpr ?_
  intro before after heq read hread
  refine htook read ?_
  rw [heq, List.filterMap_append]
  exact List.mem_append_left _ hread

/-- A TLS worker whose session takes at most `intake` bytes at a time, and whose
client has one handshake flight. -/
def toyReceiver (intake : Nat) : Config ToySession :=
  Config.single (Rustls.toy intake) (some ⟨1, 100⟩) []

/-- A client that sends three bytes in one segment. -/
def threeBytes : List Event :=
  [.accepts 5, .completed 4 (.received [1, 2, 3]) [] .quiet]

theorem received_bytes_delivered_iff_taken_whole :
    ∃ w, Reachable (toyReceiver 8) w
      ∧ (∀ item ∈ w.history, readTlsTakesAll (toyReceiver 8) item = true)
      ∧ ∃ occ, w.connections.get 0 = some occ ∧ occ.connection.ssl.isSome = true
        ∧ copiedBytes occ.log = [1, 2, 3] ∧ DeliversBeforeReceiving occ.log := by
  have hrun : bootsTo (toyReceiver 8) .quiet threeBytes (fun w =>
      w.history.all (readTlsTakesAll (toyReceiver 8))
        && (w.connections.get 0).any (fun occ => occ.connection.ssl.isSome
          && copiedBytes occ.log == [1, 2, 3])) = true := by
    decide +kernel
  obtain ⟨w, hw, hp⟩ := reachable_of_bootsTo hrun
  simp only [Bool.and_eq_true, List.all_eq_true, Option.any_eq_true, beq_iff_eq] at hp
  obtain ⟨hguard, occ, hget, hssl, hcopied⟩ := hp
  exact ⟨w, hw, hguard, occ, hget, hssl, hcopied,
    (received_bytes_delivered_iff_taken hw).1 hguard 0 occ hget hssl⟩

/-- When the session takes two of three bytes, the third is lost: the next receive
is submitted without it. -/
theorem short_readTls_loses_byte :
    ¬ ∀ w, Reachable (toyReceiver 2) w → ∀ slot occ, w.connections.get slot = some occ →
      occ.connection.ssl.isSome = true → DeliversBeforeReceiving occ.log := by
  intro hall
  have hrun : bootsTo (toyReceiver 2) .quiet threeBytes (fun w =>
      (w.connections.get 0).any (fun occ => occ.connection.ssl.isSome
        && occ.log == occ.log.dropLast ++ [.recvSubmitted]
        && copiedBytes occ.log.dropLast == [1, 2, 3]
        && deliveredBytes occ.log.dropLast == [1, 2])) = true := by
    decide +kernel
  obtain ⟨w, hw, hp⟩ := reachable_of_bootsTo hrun
  simp only [Bool.and_eq_true, Option.any_eq_true, beq_iff_eq] at hp
  obtain ⟨occ, hget, ⟨⟨hssl, hlog⟩, hcopied⟩, hdelivered⟩ := hp
  have heq := hall w hw 0 occ hget hssl occ.log.dropLast [] hlog
  rw [hcopied, hdelivered] at heq
  exact absurd heq (by decide)

end Thwip.IoUring
