/-
  Thwip.IoUring.Fallback — the addresses a proxied request is tried at.

  When a name is resolved, `try_next_proxy_address` walks its addresses, and walks
  on when an attempt fails.  The course of an exchange is read off the history: the
  list that was returned, the addresses the walks asked for a socket, and what the
  kernel said of each.  An exchange that connects is where its course says, so a
  walk that finds nothing left has exhausted the list.
-/
import Thwip.IoUring.Changes
import Thwip.IoUring.UpstreamOrder
import Thwip.Lib.Fallback

namespace Thwip.IoUring

open Thwip.Lib
open Relation (ReflTransGen)

variable {σ : Type} {cfg : Config σ} {env : Env σ} {w w' : IoUringWorker σ}
  {c c₁ c' : UringConnection σ} {event : TurnEvent} {next : Next} {acts : List Act}
  {ops ops₀ pushed : List ConnectionOp}

/-! ## §1. What a call makes of an exchange. -/

/-- Every exchange of `c₁` is the one of `c`, in the same phase and with the same
addresses. -/
def KeepsExchange (c c₁ : UringConnection σ) : Prop :=
  ∀ proxy₁, c₁.proxy = some proxy₁ → ∃ proxy, c.proxy = some proxy
    ∧ proxy₁.phase = proxy.phase ∧ proxy₁.address = proxy.address
    ∧ proxy₁.addresses = proxy.addresses

theorem keepsExchange_of_eq (h : c₁.proxy = c.proxy) : KeepsExchange c c₁ :=
  fun proxy₁ hproxy₁ => ⟨proxy₁, h.symm.trans hproxy₁, rfl, rfl, rfl⟩

theorem keepsExchange_of_none (h : c₁.proxy = none) : KeepsExchange c c₁ := by
  intro proxy₁ hproxy₁
  rw [h] at hproxy₁
  cases hproxy₁

theorem keepsExchange_setProxy {proxy proxy₁ : UringProxy} (hproxy : c.proxy = some proxy)
    (hphase : proxy₁.phase = proxy.phase) (haddress : proxy₁.address = proxy.address)
    (haddresses : proxy₁.addresses = proxy.addresses) : KeepsExchange c (c.setProxy proxy₁) := by
  intro proxy₂ hproxy₂
  injection hproxy₂ with hproxy₂
  subst hproxy₂
  exact ⟨proxy, hproxy, hphase, haddress, haddresses⟩

theorem KeepsExchange.trans (h : KeepsExchange c c₁) (h' : KeepsExchange c₁ c') :
    KeepsExchange c c' := by
  intro proxy' hproxy'
  obtain ⟨proxy₁, hproxy₁, hphase₁, haddress₁, haddresses₁⟩ := h' proxy' hproxy'
  obtain ⟨proxy, hproxy, hphase, haddress, haddresses⟩ := h proxy₁ hproxy₁
  exact ⟨proxy, hproxy, hphase₁.trans hphase, haddress₁.trans haddress,
    haddresses₁.trans haddresses⟩

/-- What a call, other than one for received bytes, makes of the exchange before
its final call `next`. -/
inductive Exchanges (event : TurnEvent) (c c₁ : UringConnection σ) : Next → Prop where
  | kept (next : Next) (hkeeps : KeepsExchange c c₁) (hconnect : next ≠ .connect)
      (hrecv : next ≠ .recv)
      (hwrite : next = .proxyWrite → ∃ submitted result, event = .proxyWrite submitted result) :
      Exchanges event c c₁ next
  /-- The upstream is connected. -/
  | connected (result : Int) (hevent : event = .proxyConnect result) (proxy₁ : UringProxy)
      (hproxy : c.proxy ≠ none) (hproxy₁ : c₁.proxy = some proxy₁)
      (hphase : proxy₁.phase = .writingRequest) : Exchanges event c c₁ .proxyWrite
  /-- The request is written. -/
  | written (submitted : List UInt8) (result : Int) (hevent : event = .proxyWrite submitted result)
      (proxy₁ : UringProxy) (hproxy : c.proxy ≠ none) (hproxy₁ : c₁.proxy = some proxy₁)
      (hphase : proxy₁.phase = .readingResponse) : Exchanges event c c₁ .proxyRead
  /-- There is another address. -/
  | connecting (proxy proxy₁ : UringProxy) (hproxy : c.proxy = some proxy)
      (hproxy₁ : c₁.proxy = some proxy₁)
      (hevent : (∃ result, event = .proxyConnect result) ∧ proxy₁.phase = proxy.phase
        ∨ (∃ addresses, event = .resolved addresses) ∧ proxy.phase = .resolving
          ∧ proxy₁.phase = .connecting) : Exchanges event c c₁ .connect

theorem FailMove.exchanges {c₀ : UringConnection σ} (h : FailMove c₀ next (some c₁) acts) :
    Exchanges event c c₁ next ∧ c₁.readPending = c₀.readPending := by
  cases h with
  | answered => exact ⟨.kept .send (keepsExchange_of_none rfl) (by simp) (by simp) (by simp), rfl⟩

theorem StreamMove.exchanges {c₀ : UringConnection σ} (hproxy : c₀.proxy = c.proxy)
    (h : StreamMove c₀ next (some c₁) acts) :
    Exchanges event c c₁ next ∧ c₁.readPending = c₀.readPending := by
  cases h with
  | data => exact ⟨.kept .send (keepsExchange_of_eq hproxy) (by simp) (by simp) (by simp), rfl⟩
  | pending => exact ⟨.kept .done (keepsExchange_of_eq hproxy) (by simp) (by simp) (by simp), rfl⟩

theorem WriteMove.exchanges {c₀ : UringConnection σ} {submitted : List UInt8} {result : Int}
    (hproxy₀ : c₀.proxy = c.proxy)
    (h : WriteMove env submitted result c₀ next (some c₁) acts) :
    Exchanges event c c₁ next ∧ c₁.readPending = c₀.readPending := by
  have hsame := advance_sameOrder c₀ result.toNat
  have hadvance : (c₀.advance result.toNat).proxy = c.proxy := hsame.proxy.trans hproxy₀
  cases h with
  | retry => exact ⟨.kept .send (keepsExchange_of_eq hproxy₀) (by simp) (by simp) (by simp), rfl⟩
  | more =>
      exact ⟨.kept .send (keepsExchange_of_eq hadvance) (by simp) (by simp) (by simp),
        hsame.readPending⟩
  | stream _ _ _ _ _ _ _ hmove =>
      obtain ⟨hexchanges, hread⟩ := hmove.exchanges
        (show (c₀.advance result.toNat).clearOutput.proxy = c.proxy from hadvance)
      exact ⟨hexchanges, hread.trans hsame.readPending⟩
  | proxy _ _ _ _ proxy hproxy =>
      refine ⟨.kept .proxyRead ?_ (by simp) (by simp) (by simp), hsame.readPending⟩
      have hkeeps : KeepsExchange (c₀.advance result.toNat).clearOutput
          ((c₀.advance result.toNat).clearOutput.setProxy (proxy.recordProgress env.now)) :=
        keepsExchange_setProxy (hsame.proxy.trans hproxy) rfl rfl rfl
      exact KeepsExchange.trans (keepsExchange_of_eq hadvance) hkeeps
  | close =>
      exact ⟨.kept .send (keepsExchange_of_eq hadvance) (by simp) (by simp) (by simp),
        hsame.readPending⟩

theorem AddressMove.exchanges {c₀ : UringConnection σ} {proxy proxy₀ : UringProxy}
    (hproxy : c.proxy = some proxy)
    (hevent : (∃ result, event = .proxyConnect result) ∧ proxy₀.phase = proxy.phase
      ∨ (∃ addresses, event = .resolved addresses) ∧ proxy.phase = .resolving
        ∧ proxy₀.phase = .connecting)
    (h : AddressMove env c₀ proxy₀ next (some c₁) acts) :
    Exchanges event c c₁ next ∧ c₁.readPending = c₀.readPending := by
  cases h with
  | found address socket addresses =>
      exact ⟨.connecting proxy (proxy₀.connectTo env.now socket address addresses) hproxy rfl hevent,
        rfl⟩
  | exhausted =>
      exact ⟨.kept .send (keepsExchange_of_none rfl) (by simp) (by simp) (by simp), rfl⟩

/-- **What a call makes of an exchange**, unless it is for received bytes. -/
theorem Move.exchanges (h : Move env event c next (some c₁) acts)
    (hread : ∀ result bufferId contents, event ≠ .read result bufferId contents)
    (hfirst : event ≠ .accepted) :
    Exchanges event c c₁ next ∧ c₁.readPending = c.readPending := by
  have hsame : ∀ {next : Next}, next ≠ .connect → next ≠ .recv → next ≠ .proxyWrite →
      Exchanges event c c next ∧ c.readPending = c.readPending :=
    fun hc hr hw =>
      ⟨.kept _ (keepsExchange_of_eq rfl) hc hr (fun heq => absurd heq hw), rfl⟩
  cases h with
  | accepted => exact absurd rfl hfirst
  | recvBroken => exact absurd rfl (hread _ _ _)
  | recvRetry => exact absurd rfl (hread _ _ _)
  | write hmove =>
      show Exchanges _ c c₁ next ∧ c₁.readPending = c.markWriteCompleted.readPending
      exact hmove.exchanges rfl
  | noProxy => exact hsame (by simp) (by simp) (by simp)
  | connectFailed _ _ _ hmove => exact hmove.exchanges
  | connectNext proxy hproxy hmove =>
      show Exchanges _ c c₁ next ∧ c₁.readPending = (c.setProxy proxy.completed).readPending
      refine hmove.exchanges hproxy (.inl ⟨⟨_, rfl⟩, ?_⟩)
      rfl
  | connected proxy hproxy => exact ⟨.connected _ rfl _ (by simp [hproxy]) rfl rfl, rfl⟩
  | writeFailed _ _ _ hmove => exact hmove.exchanges
  | writeRetry proxy hproxy =>
      exact ⟨.kept .proxyWrite (keepsExchange_setProxy hproxy rfl rfl rfl) (by simp) (by simp)
        (fun _ => ⟨_, _, rfl⟩), rfl⟩
  | wroteSome proxy hproxy =>
      exact ⟨.kept .proxyWrite (keepsExchange_setProxy hproxy rfl rfl rfl) (by simp) (by simp)
        (fun _ => ⟨_, _, rfl⟩), rfl⟩
  | wroteAll proxy hproxy => exact ⟨.written _ _ rfl _ (by simp [hproxy]) rfl rfl, rfl⟩
  | upstreamBroken => exact hsame (by simp) (by simp) (by simp)
  | readFailed _ _ _ hmove => exact hmove.exchanges
  | readRetry proxy hproxy =>
      exact ⟨.kept .proxyRead (keepsExchange_setProxy hproxy rfl rfl rfl) (by simp) (by simp)
        (by simp), rfl⟩
  | chunk proxy hproxy =>
      exact ⟨.kept .send (keepsExchange_setProxy hproxy rfl rfl rfl) (by simp) (by simp)
        (by simp), rfl⟩
  | notResolving => exact hsame (by simp) (by simp) (by simp)
  | unresolved =>
      exact ⟨.kept .send (keepsExchange_of_none rfl) (by simp) (by simp) (by simp), rfl⟩
  | resolved addresses proxy hproxy hphase hmove =>
      show Exchanges _ c c₁ next ∧ c₁.readPending
        = (c.setProxy ({ proxy with addresses }.transition env.now .connecting)).readPending
      refine hmove.exchanges hproxy (.inr ⟨⟨_, rfl⟩, hphase, ?_⟩)
      rfl
  | expiredIdle hmove => exact hmove.exchanges
  | expiredPending proxy hproxy next hnext =>
      refine ⟨.kept next (keepsExchange_setProxy hproxy rfl rfl rfl) ?_ ?_ ?_, rfl⟩
      all_goals rcases hnext with rfl | rfl <;> simp
  | expiredMissing => exact hsame (by simp) (by simp) (by simp)
  | pump _ hmove => exact hmove.exchanges rfl
  | pumpMissing => exact hsame (by simp) (by simp) (by simp)

/-! ## §2. One connection attempt at a time. -/

def ConnectionOp.isConnect : ConnectionOp → Bool
  | .connect _ => true
  | _ => false

def ConnectionOp.isProxySend : ConnectionOp → Bool
  | .proxySend _ => true
  | _ => false

/-- At most one connection attempt is in flight, the exchange is the one that
connects, and neither the client is read nor the request sent meanwhile. -/
structure Connects (c : UringConnection σ) (ops : List ConnectionOp) : Prop where
  recvs : ops.countP ConnectionOp.isRecv = if c.readPending then 1 else 0
  reading : c.readPending = true → c.proxy = none ∧ ops.countP ConnectionOp.isConnect = 0
    ∧ ops.countP ConnectionOp.isProxySend = 0
  single : ops.countP ConnectionOp.isConnect ≤ 1
  phase : 0 < ops.countP ConnectionOp.isConnect →
    ∀ proxy, c.proxy = some proxy → proxy.phase = .connecting
  resolving : ∀ proxy, c.proxy = some proxy → proxy.phase = .resolving →
    ops.countP ConnectionOp.isProxySend = 0
  sends : 0 < ops.countP ConnectionOp.isProxySend → ops.countP ConnectionOp.isConnect = 0

/-- The counts the final call adds to. -/
theorem Finish.counts {clears : Nat} (h : Finish env clears c next c' pushed acts) :
    c'.readPending = (c.readPending || decide (next = .recv))
    ∧ pushed.countP ConnectionOp.isRecv = (if next = .recv ∧ c.readPending = false then 1 else 0)
    ∧ pushed.countP ConnectionOp.isConnect = (if next = .connect then 1 else 0)
    ∧ pushed.countP ConnectionOp.isProxySend = (if next = .proxyWrite then 1 else 0)
    ∧ KeepsExchange c c' := by
  have hfilled : ∀ {d : UringConnection σ} {acts : List Act}, c.fillOutput env.tls = some (d, acts) →
      d.readPending = c.readPending ∧ d.proxy = c.proxy := by
    intro d acts hfill
    have hsame := fillOutput_sameOrder hfill
    exact ⟨hsame.readPending, hsame.proxy⟩
  cases h with
  | done | sendBusy => exact ⟨by simp, rfl, rfl, rfl, keepsExchange_of_eq rfl⟩
  | sendIdle _ _ _ hfill =>
      obtain ⟨hread, hproxy⟩ := hfilled hfill
      exact ⟨by simp [hread], rfl, rfl, rfl, keepsExchange_of_eq hproxy⟩
  | sent d _ _ hfill =>
      obtain ⟨hread, hproxy⟩ := hfilled hfill
      refine ⟨?_, rfl, rfl, rfl, keepsExchange_of_eq hproxy⟩
      show d.readPending = _
      simp [hread]
  | recvBusy hbusy => exact ⟨by simp [hbusy], by simp [hbusy], rfl, rfl, keepsExchange_of_eq rfl⟩
  | recv hfree =>
      exact ⟨by simp [UringConnection.markReadSubmitted], by simp [hfree, ConnectionOp.isRecv], rfl,
        rfl, keepsExchange_of_eq rfl⟩
  | upstream _ op hkind proxy hproxy =>
      refine ⟨?_, ?_, ?_, ?_, keepsExchange_setProxy hproxy rfl rfl rfl⟩
      all_goals
        cases next <;> cases op <;> first | (cases hkind; done) |
          simp [ConnectionOp.isRecv, ConnectionOp.isConnect, ConnectionOp.isProxySend,
            UringConnection.setProxy]

/-- A final call answers nothing. -/
theorem Finish.not_queued {clears : Nat} (h : Finish env clears c next c' pushed acts)
    (response : List UInt8) : .queued response ∉ acts := by
  have hfilled : ∀ {d : UringConnection σ} {acts : List Act},
      c.fillOutput env.tls = some (d, acts) → .queued response ∉ acts := by
    intro d acts hfill
    rcases fillOutput_cases hfill with ⟨-, rfl, -⟩ | ⟨_, _, _, _, -, -, -, -, rfl⟩
    · exact List.not_mem_nil
    · simp
  cases h with
  | done | sendBusy | recvBusy => exact List.not_mem_nil
  | sendIdle _ _ _ hfill => exact hfilled hfill
  | sent _ _ _ hfill => exact hfilled hfill
  | recv => simp
  | upstream => simp

/-- What the completed operation takes from the counts. -/
theorem Ready.counts {now : Instant} (h : Ready cfg now c event ops ops₀)
    (hread : ∀ result bufferId contents, event ≠ .read result bufferId contents) :
    ops₀.countP ConnectionOp.isRecv = ops.countP ConnectionOp.isRecv
    ∧ ops₀.countP ConnectionOp.isConnect ≤ ops.countP ConnectionOp.isConnect
    ∧ ops₀.countP ConnectionOp.isProxySend ≤ ops.countP ConnectionOp.isProxySend
    ∧ (∀ result, event = .proxyConnect result →
      ops.countP ConnectionOp.isConnect = ops₀.countP ConnectionOp.isConnect + 1)
    ∧ ∀ submitted result, event = .proxyWrite submitted result →
      0 < ops.countP ConnectionOp.isProxySend := by
  rcases h.completed_or with ⟨op, completion, before, after, rfl, rfl, rfl⟩ | ⟨rfl, hprompted⟩
  · have hcount : ∀ p : ConnectionOp → Bool, (before ++ op :: after).countP p
        = (before ++ after).countP p + if p op then 1 else 0 := by
      intro p
      simp only [List.countP_append, List.countP_cons]
      omega
    simp only [hcount]
    refine ⟨?_, by omega, by omega, ?_, ?_⟩
    · cases op with
      | recv => exact absurd rfl (hread _ _ _)
      | _ => rfl
    · intro result hevent
      cases op <;> first | rfl | cases hevent
    · intro submitted result hevent
      cases op <;> first | exact Nat.succ_pos _ | cases hevent
  · have hnot : event.isCompletion = false := by
      rcases hprompted with ⟨_, rfl⟩ | hsel | hsel | hsel
      · rfl
      · obtain ⟨-, _, -, rfl⟩ := proxyExpired_some hsel
        rfl
      · rw [(handshakeOverdue_some hsel).1]
        rfl
      · rw [(pumpReady_some hsel).1]
        rfl
    refine ⟨rfl, Nat.le_refl _, Nat.le_refl _, ?_, ?_⟩
    · rintro result rfl
      cases hnot
    · rintro submitted result rfl
      cases hnot

/-- A call that is not for received bytes keeps the counts in order. -/
theorem Connects.exchanged {clears : Nat} {now : Instant} (h : Connects c ops)
    (hready : Ready cfg now c event ops ops₀)
    (hread : ∀ result bufferId contents, event ≠ .read result bufferId contents)
    (hexchanges : Exchanges event c c₁ next) (hkept : c₁.readPending = c.readPending)
    (hfinish : Finish env clears c₁ next c' pushed acts) : Connects c' (ops₀ ++ pushed) := by
  obtain ⟨hread', hrecvs', hconnects', hsends', hkeeps'⟩ := hfinish.counts
  obtain ⟨hrecv, hconnect, hsend, hcompleted, hwrote⟩ := hready.counts hread
  have hidle : ∀ proxy, c.proxy = some proxy → c.readPending = false := by
    intro proxy hproxy
    by_contra hpending
    rw [(h.reading (by simpa using hpending)).1] at hproxy
    cases hproxy
  have hsingle := h.single
  have hsends := h.sends
  cases hexchanges with
  | kept _ hkeeps hne hnotRecv hwrite =>
      have hpushed : 0 < pushed.countP ConnectionOp.isProxySend →
          0 < ops.countP ConnectionOp.isProxySend := by
        intro hpos
        by_cases hproxyWrite : next = .proxyWrite
        · obtain ⟨submitted, result, hevent⟩ := hwrite hproxyWrite
          exact hwrote submitted result hevent
        · rw [hsends', if_neg hproxyWrite] at hpos
          omega
      have hkept' := KeepsExchange.trans hkeeps hkeeps'
      rw [if_neg hne] at hconnects'
      refine ⟨?_, ?_, ?_, ?_, ?_, ?_⟩ <;> simp only [List.countP_append]
      · rw [hread', hkept, hrecv, hrecvs', if_neg (fun hand => hnotRecv hand.1), h.recvs]
        simp [hnotRecv]
      · intro hpending
        rw [hread', hkept, decide_eq_false hnotRecv, Bool.or_false] at hpending
        obtain ⟨hnone, hconnects, hnoSends⟩ := h.reading hpending
        refine ⟨?_, by omega, by omega⟩
        by_contra hsome
        obtain ⟨proxy', hproxy'⟩ := Option.ne_none_iff_exists'.mp hsome
        obtain ⟨proxy, hproxy, -⟩ := hkept' proxy' hproxy'
        rw [hnone] at hproxy
        cases hproxy
      · omega
      · intro hpos proxy' hproxy'
        obtain ⟨proxy, hproxy, hphase, -⟩ := hkept' proxy' hproxy'
        exact hphase.trans (h.phase (by omega) proxy hproxy)
      · intro proxy' hproxy' hresolving
        obtain ⟨proxy, hproxy, hphase, -⟩ := hkept' proxy' hproxy'
        have hnone := h.resolving proxy hproxy (hphase.symm.trans hresolving)
        omega
      · intro hpos
        omega
  | connected result hevent proxy₁ hsome hproxy₁ hphase =>
      obtain ⟨proxy, hproxy⟩ := Option.ne_none_iff_exists'.mp hsome
      have hgone := hcompleted result hevent
      rw [if_neg (by simp)] at hconnects'
      have hphase' : ∀ proxy', c'.proxy = some proxy' → proxy'.phase = .writingRequest := by
        intro proxy' hproxy'
        obtain ⟨proxy₂, hproxy₂, hsame, -⟩ := hkeeps' proxy' hproxy'
        rw [hproxy₁] at hproxy₂
        cases hproxy₂
        exact hsame.trans hphase
      refine ⟨?_, ?_, ?_, ?_, ?_, ?_⟩ <;> simp only [List.countP_append]
      · rw [hread', hkept, hrecv, hrecvs', h.recvs, hidle proxy hproxy]
        simp
      · rw [hread', hkept, hidle proxy hproxy]
        simp
      · omega
      · intro hpos
        omega
      · intro proxy' hproxy' hresolving
        rw [hphase' proxy' hproxy'] at hresolving
        cases hresolving
      · intro _
        omega
  | written submitted result hevent proxy₁ hsome hproxy₁ hphase =>
      obtain ⟨proxy, hproxy⟩ := Option.ne_none_iff_exists'.mp hsome
      have hnone := hsends (hwrote submitted result hevent)
      rw [if_neg (by simp)] at hconnects'
      have hphase' : ∀ proxy', c'.proxy = some proxy' → proxy'.phase = .readingResponse := by
        intro proxy' hproxy'
        obtain ⟨proxy₂, hproxy₂, hsame, -⟩ := hkeeps' proxy' hproxy'
        rw [hproxy₁] at hproxy₂
        cases hproxy₂
        exact hsame.trans hphase
      refine ⟨?_, ?_, ?_, ?_, ?_, ?_⟩ <;> simp only [List.countP_append]
      · rw [hread', hkept, hrecv, hrecvs', h.recvs, hidle proxy hproxy]
        simp
      · rw [hread', hkept, hidle proxy hproxy]
        simp
      · omega
      · intro hpos
        omega
      · intro proxy' hproxy' hresolving
        rw [hphase' proxy' hproxy'] at hresolving
        cases hresolving
      · intro _
        omega
  | connecting proxy proxy₁ hproxy hproxy₁ hcases =>
      have hbefore : ops₀.countP ConnectionOp.isConnect = 0
          ∧ ops₀.countP ConnectionOp.isProxySend = 0 ∧ proxy₁.phase = .connecting := by
        rcases hcases with ⟨⟨result, hevent⟩, hphase⟩ | ⟨-, hresolving, hphase⟩
        · have hgone := hcompleted result hevent
          exact ⟨by omega, by omega, hphase.trans (h.phase (by omega) proxy hproxy)⟩
        · have hnoSends := h.resolving proxy hproxy hresolving
          have hnone : ops.countP ConnectionOp.isConnect = 0 := by
            by_contra hsome
            rw [h.phase (by omega) proxy hproxy] at hresolving
            cases hresolving
          exact ⟨by omega, by omega, hphase⟩
      have hphase' : ∀ proxy', c'.proxy = some proxy' → proxy'.phase = .connecting := by
        intro proxy' hproxy'
        obtain ⟨proxy₂, hproxy₂, hsame, -⟩ := hkeeps' proxy' hproxy'
        rw [hproxy₁] at hproxy₂
        cases hproxy₂
        exact hsame.trans hbefore.2.2
      rw [if_pos rfl] at hconnects'
      rw [if_neg (by simp)] at hsends'
      refine ⟨?_, ?_, ?_, ?_, ?_, ?_⟩ <;> simp only [List.countP_append]
      · rw [hread', hkept, hrecv, hrecvs', h.recvs, hidle proxy hproxy]
        simp
      · rw [hread', hkept, hidle proxy hproxy]
        simp
      · omega
      · exact fun _ => hphase'
      · intro proxy' hproxy' hresolving
        rw [hphase' proxy' hproxy'] at hresolving
        cases hresolving
      · intro hpos
        omega

/-- A connection without an exchange, none of whose counted operations is in flight. -/
structure Receiving (c : UringConnection σ) (ops : List ConnectionOp) : Prop where
  read : c.readPending = false
  proxy : c.proxy = none
  recvs : ops.countP ConnectionOp.isRecv = 0
  connects : ops.countP ConnectionOp.isConnect = 0
  sends : ops.countP ConnectionOp.isProxySend = 0

theorem Receiving.congr (h : Receiving c ops) (hread : c₁.readPending = c.readPending)
    (hproxy : c₁.proxy = c.proxy) : Receiving c₁ ops :=
  ⟨hread.trans h.read, hproxy.trans h.proxy, h.recvs, h.connects, h.sends⟩

theorem KeepsExchange.none (h : KeepsExchange c c₁) (hproxy : c.proxy = none) :
    c₁.proxy = none := by
  by_contra hsome
  obtain ⟨proxy₁, hproxy₁⟩ := Option.ne_none_iff_exists'.mp hsome
  obtain ⟨proxy, hsome, -⟩ := h proxy₁ hproxy₁
  rw [hproxy] at hsome
  cases hsome

/-- The flush of the session submits nothing that is counted. -/
theorem Receiving.flush {clears : Nat} (h : Receiving c ops) (hnext : next = .send ∨ next = .done)
    (hfinish : Finish env clears c next c' pushed acts) : Receiving c' (ops ++ pushed) := by
  obtain ⟨hread', hrecvs', hconnects', hsends', hkeeps'⟩ := hfinish.counts
  have hrecv : next ≠ .recv ∧ next ≠ .connect ∧ next ≠ .proxyWrite := by
    rcases hnext with rfl | rfl <;> simp
  rw [if_neg (fun hand => hrecv.1 hand.1)] at hrecvs'
  rw [if_neg hrecv.2.1] at hconnects'
  rw [if_neg hrecv.2.2] at hsends'
  have hrecvs := h.recvs
  have hconnects := h.connects
  have hsends := h.sends
  have hread : c'.readPending = false := by
    rw [hread', h.read, decide_eq_false hrecv.1]
    rfl
  refine ⟨hread, hkeeps'.none h.proxy, ?_, ?_, ?_⟩ <;> rw [List.countP_append] <;> omega

theorem Receiving.intake {received plaintext : List UInt8} (h : Receiving c ops)
    (hintake : Intake env received c next c₁ plaintext acts) :
    Receiving c₁ ops ∧ (next = .send ∨ next = .done) := by
  cases hintake with
  | plain => exact ⟨h, .inr rfl⟩
  | tls _ _ _ _ _ _ _ hnext =>
      refine ⟨h.congr rfl rfl, ?_⟩
      rw [hnext]
      split_ifs
      · exact .inl rfl
      · exact .inr rfl

/-- What received plaintext makes of a connection without an exchange. -/
theorem PlaintextMove.begins {plaintext : List UInt8} (hproxy : c.proxy = none)
    (h : PlaintextMove env plaintext c next (some c₁) acts) :
    c₁.readPending = c.readPending ∧ next ≠ .connect ∧ next ≠ .proxyWrite
    ∧ (c₁.proxy = none ∨ next = .done
      ∧ ∃ proxy₁, c₁.proxy = some proxy₁ ∧ proxy₁.phase = .resolving) := by
  have hframe : ∀ {d : UringConnection σ} {verdict : ReadVerdict},
      c.receiveRequest env.limits plaintext = (d, verdict) →
      d.readPending = c.readPending ∧ d.proxy = none := by
    intro d verdict hreceive
    obtain ⟨requestBuffer, pendingRequest, request, rfl⟩ := receiveRequest_frame hreceive
    exact ⟨rfl, hproxy⟩
  cases h with
  | empty => exact ⟨rfl, by simp, by simp, .inl hproxy⟩
  | waiting _ hreceive => exact ⟨(hframe hreceive).1, by simp, by simp, .inl (hframe hreceive).2⟩
  | rejected _ _ _ _ _ hreceive =>
      exact ⟨(hframe hreceive).1, by simp, by simp, .inl (hframe hreceive).2⟩
  | dispatched d _ _ _ _ _ hreceive hanswer =>
      obtain ⟨hread, hnone⟩ := hframe hreceive
      cases hanswer with
      | respond => exact ⟨hread, by simp, by simp, .inl hnone⟩
      | static => exact ⟨hread, by simp, by simp, .inl hnone⟩
      | proxyError => exact ⟨hread, by simp, by simp, .inl rfl⟩
      | resolving => exact ⟨hread, by simp, by simp, .inr ⟨rfl, _, rfl, rfl⟩⟩
      | balancerPanic => exact ⟨hread, by simp, by simp, .inl hnone⟩

/-- The end of a call for received bytes. -/
theorem Receiving.finish {clears : Nat} (h : Receiving c ops)
    (hread₁ : c₁.readPending = c.readPending) (hconnect : next ≠ .connect)
    (hwrite : next ≠ .proxyWrite)
    (hproxy₁ : c₁.proxy = none ∨ next = .done
      ∧ ∃ proxy₁, c₁.proxy = some proxy₁ ∧ proxy₁.phase = .resolving)
    (hfinish : Finish env clears c₁ next c' pushed acts) : Connects c' (ops ++ pushed) := by
  obtain ⟨hread', hrecvs', hconnects', hsends', hkeeps'⟩ := hfinish.counts
  have hfree : c₁.readPending = false := hread₁.trans h.read
  have hrecvs := h.recvs
  have hconnects := h.connects
  have hsends := h.sends
  rw [if_neg hconnect] at hconnects'
  rw [if_neg hwrite] at hsends'
  rw [hfree, Bool.false_or] at hread'
  refine ⟨?_, ?_, ?_, ?_, ?_, ?_⟩ <;> simp only [List.countP_append]
  · rw [hread', hrecvs', hfree, hrecvs]
    simp
  · intro hpending
    rw [hread', decide_eq_true_eq] at hpending
    refine ⟨?_, by omega, by omega⟩
    rcases hproxy₁ with hnone | ⟨hdone, -⟩
    · exact hkeeps'.none hnone
    · rw [hpending] at hdone
      cases hdone
  · omega
  · intro hpos
    omega
  · intro proxy' hproxy' _
    omega
  · intro hpos
    omega

/-- A call for received bytes keeps the counts in order. -/
theorem Connects.received {clears : Nat} {now : Instant} {result : Int} {bufferId : Option Nat}
    {contents : Nat → UInt8} (h : Connects c ops)
    (hready : Ready cfg now c (.read result bufferId contents) ops ops₀)
    (houtcome : TurnOutcome env (.read result bufferId contents) c clears (some c') pushed acts) :
    Connects c' (ops₀ ++ pushed) := by
  have hcompleted : Receiving c.markReadCompleted ops₀ := by
    obtain ⟨op, completion, before, after, hevent, rfl, rfl⟩ := hready.of_completion rfl
    have hcount : ∀ p : ConnectionOp → Bool, (before ++ op :: after).countP p
        = (before ++ after).countP p + if p op then 1 else 0 := by
      intro p
      simp only [List.countP_append, List.countP_cons]
      omega
    have hop : op.isRecv = true ∧ op.isConnect = false ∧ op.isProxySend = false := by
      cases op <;> first | exact ⟨rfl, rfl, rfl⟩ | cases hevent
    have hrecvs := h.recvs
    rw [hcount, hop.1, if_pos rfl] at hrecvs
    have hpending : c.readPending = true := by
      by_contra hfalse
      rw [if_neg hfalse] at hrecvs
      omega
    rw [hpending, if_pos rfl] at hrecvs
    obtain ⟨hproxy, hconnects, hsends⟩ := h.reading hpending
    rw [hcount] at hconnects hsends
    exact ⟨rfl, hproxy, by omega, by omega, by omega⟩
  cases houtcome with
  | moved hmove hfinish =>
      cases hmove with
      | recvBroken =>
          cases hfinish with
          | upstream _ _ hkind => cases hkind
      | recvRetry =>
          exact hcompleted.finish rfl (by simp) (by simp) (.inl hcompleted.proxy) hfinish
      | noProxy hevent => cases hevent
  | received _ _ hintake hflush hmove hfinish =>
      obtain ⟨htaken, hnext⟩ := hcompleted.intake hintake
      have hflushed := htaken.flush hnext hflush
      obtain ⟨hread, hconnect, hwrite, hproxy⟩ := hmove.begins hflushed.proxy
      rw [← List.append_assoc]
      exact hflushed.finish hread hconnect hwrite hproxy hfinish

/-- No id is given out while an operation is in flight under it. -/
def givesOutIdle : HistoryItem σ → Bool
  | .inserted _ stale => stale.isEmpty
  | _ => true

def connectRule (cfg : Config σ) : SlotRule cfg where
  Inv c ops _ := Connects c ops
  Guard item := givesOutIdle item = true
  Outlives _ := True
  Gone _ _ := True
  accepted := by
    intro id c stale hfresh hguard _
    have hnil : stale = [] := List.isEmpty_iff.mp hguard
    subst hnil
    cases hfresh with
    | mk socket listenerIndex ssl =>
        refine ⟨rfl, fun _ => ⟨rfl, rfl, rfl⟩, Nat.zero_le _, ?_, ?_, ?_⟩
        · intro hpos
          exact absurd hpos (Nat.lt_irrefl 0)
        · intro proxy hproxy
          cases hproxy
        · intro hpos
          exact absurd hpos (Nat.lt_irrefl 0)
  turn := by
    intro env id event c c' ops ops₀ pushed log acts _ _ _ _ hready hinv houtcome
    by_cases hread : ∃ result bufferId contents, event = .read result bufferId contents
    · obtain ⟨result, bufferId, contents, rfl⟩ := hread
      exact hinv.received hready houtcome
    · have hnot : ∀ result bufferId contents, event ≠ .read result bufferId contents :=
        fun result bufferId contents heq => hread ⟨result, bufferId, contents, heq⟩
      cases houtcome with
      | moved hmove hfinish =>
          obtain ⟨hexchanges, hkept⟩ := hmove.exchanges hnot
            (fun heq => ready_ne_accepted (heq ▸ hready))
          exact hinv.exchanged hready hnot hexchanges hkept hfinish
      | received hevent => exact absurd hevent (hnot _ _ _)
  removed := fun _ _ _ _ _ _ _ => ⟨trivial, fun _ _ => trivial⟩

/-! ## §3. The course of an exchange. -/

/-- No socket can be created for this address. -/
def World.refuses (self : World) (address : SocketAddr) : Bool :=
  (self.createUpstreamSocket address).isNone

/-- The course of the exchange of `c`, once it is handed `event`: a list of
addresses begins it, and a connection attempt that fails moves it on.  Both ask for
sockets until one is given. -/
def courseAfter (event : TurnEvent) (world : World) (c : UringConnection σ)
    (course : Option (Course SocketAddr)) : Option (Course SocketAddr) :=
  match event, c.proxy with
  | .resolved (some (address :: addresses)), some proxy =>
      if proxy.phase = .resolving then
        some ((Course.fresh (address :: addresses)).attempt world.refuses (address :: addresses))
      else course
  | .proxyConnect result, some proxy =>
      -- an attempt that timed out ends the exchange
      if proxy.timedOut || 0 ≤ result then course
      else course.map (fun k => k.fail.attempt world.refuses proxy.addresses)
  | _, _ => course

/-- What one item of the history adds to the course of the exchange of `id`. -/
def HistoryItem.course (id : ConnectionId) (course : Option (Course SocketAddr)) :
    HistoryItem σ → Option (Course SocketAddr)
  | .turn id' event world (some c) =>
      if id' = id ∧ c.generation = id.generation then courseAfter event world c course else course
  | .inserted id' _ => if id' = id then none else course
  | _ => course

/-- The course of the exchange of `id`, as the history has it. -/
def courseOf (id : ConnectionId) (history : List (HistoryItem σ)) : Option (Course SocketAddr) :=
  history.foldl (HistoryItem.course id) none

/-- The calls that try the next address. -/
def TurnEvent.triesAddress : TurnEvent → Bool
  | .resolved _ | .proxyConnect _ => true
  | _ => false

theorem courseAfter_other (h : event.triesAddress = false) (world : World)
    (c : UringConnection σ) (course : Option (Course SocketAddr)) :
    courseAfter event world c course = course := by
  cases event with
  | resolved | proxyConnect => cases h
  | _ => rfl

/-- An exchange that connects is where its course says, the kernel connects to no
other address, and to none before there are addresses. -/
structure Tracks (c : UringConnection σ) (course : Option (Course SocketAddr))
    (ops : List ConnectionOp) : Prop where
  connecting : ∀ proxy, c.proxy = some proxy → proxy.phase = .connecting →
    ∃ k address, course = some k ∧ proxy.address = some address
      ∧ k.Under address proxy.addresses ∧ ∀ other, .connect other ∈ ops → other = address
  resolving : ∀ proxy, c.proxy = some proxy → proxy.phase = .resolving →
    ops.countP ConnectionOp.isConnect = 0

theorem Tracks.of_none {course : Option (Course SocketAddr)} (h : c.proxy = none) :
    Tracks c course ops := by
  constructor
  all_goals
    intro proxy hproxy
    rw [h] at hproxy
    cases hproxy

theorem not_connect_of_countP (h : pushed.countP ConnectionOp.isConnect = 0)
    (address : SocketAddr) : .connect address ∉ pushed :=
  fun hmem => List.countP_eq_zero.mp h _ hmem rfl

/-- Operations have completed. -/
theorem Tracks.sublist {course : Option (Course SocketAddr)} (h : Tracks c course ops)
    (hsub : ops₀.Sublist ops) : Tracks c course ops₀ := by
  refine ⟨?_, ?_⟩
  · intro proxy hproxy hphase
    obtain ⟨k, address, hk, haddress, hunder, hops⟩ := h.connecting proxy hproxy hphase
    exact ⟨k, address, hk, haddress, hunder, fun other hother => hops other (hsub.subset hother)⟩
  · intro proxy hproxy hphase
    have hle : ops₀.countP ConnectionOp.isConnect ≤ ops.countP ConnectionOp.isConnect :=
      hsub.countP_le
    have hnone := h.resolving proxy hproxy hphase
    omega

/-- What any other call leaves of an exchange: the same one, or one that reads its
response, or a new one of which `p` holds. -/
def Follows (p : Prop) (c c' : UringConnection σ) : Prop :=
  ∀ proxy', c'.proxy = some proxy' →
    (∃ proxy, c.proxy = some proxy ∧ proxy'.phase = proxy.phase
      ∧ proxy'.address = proxy.address ∧ proxy'.addresses = proxy.addresses)
    ∨ proxy'.phase = .readingResponse ∨ proxy'.phase = .resolving ∧ p

theorem Tracks.follow {course : Option (Course SocketAddr)} (h : Tracks c course ops)
    (hfollows : Follows (ops.countP ConnectionOp.isConnect = 0) c c')
    (hpushed : pushed.countP ConnectionOp.isConnect = 0) : Tracks c' course (ops ++ pushed) := by
  refine ⟨?_, ?_⟩
  · intro proxy' hproxy' hphase'
    rcases hfollows proxy' hproxy' with ⟨proxy, hproxy, hphase, haddress', haddresses'⟩ |
      hreading | ⟨hresolving, -⟩
    · obtain ⟨k, address, hk, haddress, hunder, hops⟩ :=
        h.connecting proxy hproxy (hphase.symm.trans hphase')
      refine ⟨k, address, hk, haddress'.trans haddress, by rw [haddresses']; exact hunder, ?_⟩
      intro other hother
      rcases List.mem_append.mp hother with hold | hnew
      · exact hops other hold
      · exact absurd hnew (not_connect_of_countP hpushed other)
    · rw [hreading] at hphase'
      cases hphase'
    · rw [hresolving] at hphase'
      cases hphase'
  · intro proxy' hproxy' hphase'
    rw [List.countP_append, hpushed]
    rcases hfollows proxy' hproxy' with ⟨proxy, hproxy, hphase, -⟩ | hreading | ⟨-, hnone⟩
    · exact h.resolving proxy hproxy (hphase.symm.trans hphase')
    · rw [hreading] at hphase'
      cases hphase'
    · exact hnone

/-- A call that removes its connection submits no attempt. -/
theorem TurnOutcome.removed_connects {clears : Nat}
    (h : TurnOutcome env event c clears none pushed acts) :
    pushed.countP ConnectionOp.isConnect = 0 := by
  cases h with
  | removed => rfl
  | receivedRemoved _ _ hintake hflush =>
      obtain ⟨-, -, hconnects, -, -⟩ := hflush.counts
      rw [hconnects]
      rcases hintake.flush with rfl | rfl <;> rfl

/-- Every call but those that try an address continues the exchange. -/
theorem TurnOutcome.follows {clears : Nat} {p : Prop}
    (h : TurnOutcome env event c clears (some c') pushed acts)
    (hevent : event.triesAddress = false)
    (hread : ∀ result bufferId contents, event = .read result bufferId contents →
      c.proxy = none ∧ p) :
    Follows p c c' ∧ pushed.countP ConnectionOp.isConnect = 0 := by
  have hkept : ∀ {c' : UringConnection σ}, KeepsExchange c c' → Follows p c c' :=
    fun hkeeps proxy' hproxy' => .inl (hkeeps proxy' hproxy')
  cases h with
  | moved hmove hfinish =>
      obtain ⟨-, -, hconnects', -, hkeeps'⟩ := hfinish.counts
      by_cases hreceive : ∃ result bufferId contents, event = .read result bufferId contents
      · obtain ⟨result, bufferId, contents, rfl⟩ := hreceive
        cases hmove with
        | recvBroken => exact ⟨hkept hkeeps', hconnects'⟩
        | recvRetry => exact ⟨hkept hkeeps', hconnects'⟩
        | noProxy hupstream => cases hupstream
      · by_cases hfirst : event = .accepted
        · subst hfirst
          cases hmove with
          | accepted => exact ⟨hkept hkeeps', hconnects'⟩
          | noProxy hupstream => cases hupstream
        · obtain ⟨hexchanges, -⟩ := hmove.exchanges
            (fun result bufferId contents heq => hreceive ⟨result, bufferId, contents, heq⟩) hfirst
          cases hexchanges with
          | kept _ hkeeps hne =>
              rw [if_neg hne] at hconnects'
              exact ⟨hkept (hkeeps.trans hkeeps'), hconnects'⟩
          | connected _ heq =>
              rw [heq] at hevent
              cases hevent
          | written _ _ _ proxy₁ _ hproxy₁ hphase =>
              refine ⟨?_, hconnects'⟩
              intro proxy' hproxy'
              obtain ⟨proxy₂, hproxy₂, hsame, -⟩ := hkeeps' proxy' hproxy'
              rw [hproxy₁] at hproxy₂
              injection hproxy₂ with hproxy₂
              exact .inr (.inl (by rw [hsame, ← hproxy₂, hphase]))
          | connecting _ _ _ _ hcases =>
              rcases hcases with ⟨⟨_, heq⟩, -⟩ | ⟨⟨_, heq⟩, -⟩
              all_goals
                rw [heq] at hevent
                cases hevent
  | received heq _ hintake hflush hmove hfinish =>
      obtain ⟨hnone, hp⟩ := hread _ _ _ heq
      have hidle : Receiving c.markReadCompleted [] := ⟨rfl, hnone, rfl, rfl, rfl⟩
      obtain ⟨htaken, hnext⟩ := hidle.intake hintake
      have hflushed := htaken.flush hnext hflush
      obtain ⟨-, hne, -, hproxy⟩ := hmove.begins hflushed.proxy
      obtain ⟨-, -, hconnects', -, hkeeps'⟩ := hfinish.counts
      rw [if_neg hne] at hconnects'
      have hconnects := hflushed.connects
      rw [List.nil_append] at hconnects
      refine ⟨?_, by rw [List.countP_append]; omega⟩
      intro proxy' hproxy'
      obtain ⟨proxy₃, hproxy₃, hsame, -⟩ := hkeeps' proxy' hproxy'
      rcases hproxy with hnoProxy | ⟨-, proxy₁, hproxy₁, hresolving⟩
      · rw [hnoProxy] at hproxy₃
        cases hproxy₃
      · rw [hproxy₁] at hproxy₃
        injection hproxy₃ with hproxy₃
        exact .inr (.inr ⟨by rw [hsame, ← hproxy₃, hresolving], hp⟩)

/-! ## §4. The walk over the addresses. -/

variable {t t' : Turn σ}

theorem nextAddress_some {create : SocketAddr → Option Socket} :
    ∀ {addresses later : List SocketAddr} {address : SocketAddr} {socket : Socket},
      nextAddress create addresses = some (address, socket, later) →
      ∃ before, addresses = before ++ address :: later
        ∧ (∀ other ∈ before, create other = none) ∧ create address = some socket
  | [], later, address, socket, h => by cases h
  | first :: addresses, later, address, socket, h => by
      unfold nextAddress at h
      split at h
      next found hfirst =>
        injection h with h
        injection h with haddress h
        injection h with hsocket hlater
        subst haddress hsocket hlater
        exact ⟨[], rfl, by simp, hfirst⟩
      next hfirst =>
        obtain ⟨before, hbefore, hnone, hfound⟩ := nextAddress_some h
        refine ⟨first :: before, by rw [hbefore]; rfl, ?_, hfound⟩
        intro other hother
        rcases List.mem_cons.mp hother with rfl | hother
        · exact hfirst
        · exact hnone other hother

theorem nextAddress_none {create : SocketAddr → Option Socket} :
    ∀ {addresses : List SocketAddr}, nextAddress create addresses = none →
      ∀ address ∈ addresses, create address = none
  | [], _, address, hmem => by cases hmem
  | first :: addresses, h, address, hmem => by
      unfold nextAddress at h
      split at h
      · cases h
      next hfirst =>
        rcases List.mem_cons.mp hmem with rfl | hmem
        · exact hfirst
        · exact nextAddress_none h address hmem

/-- An answer ends the exchange. -/
theorem queueProxyError_cases (h : t.Current c) {status : Nat} {message : Str}
    (hrun : queueProxyError env status message t = .ok t') :
    ∃ c' pushed acts, t'.connection = some c' ∧ c'.proxy = none ∧ t'.pushed = t.pushed ++ pushed
      ∧ pushed.countP ConnectionOp.isConnect = 0
      ∧ t'.log = t.log ++ (.queued (responseBytes status message) :: acts)
      ∧ ∀ response, .queued response ∉ acts := by
  have hsettles : Settles env t .send _ _ _ := queueProxyError_settles h status message
  obtain ⟨t₁, hmoved, heq⟩ := hsettles
  rw [heq] at hrun
  have hcur₁ : t₁.Current _ := hmoved.current h rfl
  obtain ⟨c', pushed, acts, hfinish, hbecame⟩ := submitSend_finish hcur₁ hrun
  obtain ⟨-, -, hconnects, -, hkeeps⟩ := hfinish.counts
  refine ⟨c', pushed, acts, hbecame.connection, hkeeps.none rfl, ?_, hconnects, ?_, ?_⟩
  · rw [hbecame.pushed, hmoved.pushed]
  · rw [hbecame.log, hmoved.log, List.append_assoc]
    rfl
  · exact hfinish.not_queued

/-- What a walk leaves: an attempt at the first address with a socket, or an
answer. -/
theorem tryNextProxyAddress_cases (h : t.Current c) {proxy : UringProxy}
    (hproxy : c.proxy = some proxy) (hrun : tryNextProxyAddress env t = .ok t') :
    (∃ before address later proxy', proxy.addresses = before ++ address :: later
      ∧ (∀ other ∈ before, env.refuses other = true) ∧ env.refuses address = false
      ∧ t'.connection = some (c.setProxy proxy') ∧ proxy'.phase = proxy.phase
      ∧ proxy'.address = some address ∧ proxy'.addresses = later
      ∧ t'.pushed = t.pushed ++ [.connect address]
      ∧ ∃ call, t'.log = t.log ++ [.submitProxy .proxyConnect call])
    ∨ (∀ address ∈ proxy.addresses, env.refuses address = true)
      ∧ ∃ c' pushed, t'.connection = some c' ∧ c'.proxy = none
        ∧ t'.pushed = t.pushed ++ pushed ∧ pushed.countP ConnectionOp.isConnect = 0 := by
  unfold tryNextProxyAddress at hrun
  rw [h.connection] at hrun
  dsimp only at hrun
  rw [hproxy] at hrun
  dsimp only at hrun
  split at hrun
  next hnone =>
    refine .inr ⟨?_, ?_⟩
    · intro address hmem
      show (env.createUpstreamSocket address).isNone = true
      rw [nextAddress_none hnone address hmem]
      rfl
    · have hcur : (t.put (c.setProxy { proxy with addresses := [] })).Current
          (c.setProxy { proxy with addresses := [] }) := h.put rfl
      obtain ⟨c', pushed, acts, hc', hnoProxy, hpushed, hconnects, -, -⟩ :=
        queueProxyError_cases hcur hrun
      exact ⟨c', pushed, hc', hnoProxy, hpushed, hconnects⟩
  next address socket later hsome =>
    obtain ⟨before, haddresses, hbefore, hsocket⟩ := nextAddress_some hsome
    refine .inl ⟨before, address, later,
      (proxy.connectTo env.now socket address later).submitted, haddresses, ?_, ?_, ?_⟩
    · intro other hother
      show (env.createUpstreamSocket other).isNone = true
      rw [hbefore other hother]
      rfl
    · show (env.createUpstreamSocket address).isNone = false
      rw [hsocket]
      rfl
    · generalize hproxy₁ : proxy.connectTo env.now socket address later = proxy₁ at hrun ⊢
      have hsubmit : submitProxy env
          ((t.put (c.setProxy proxy₁)).note [.submitProxy .proxyConnect proxy₁])
          (c.setProxy proxy₁) proxy₁ (.connect address) = .ok t' := by
        subst hproxy₁
        exact hrun
      have hbecame := submitProxy_became hsubmit
      subst hproxy₁
      exact ⟨hbecame.connection, rfl, rfl, rfl, hbecame.pushed, _, hbecame.log⟩

/-! ## §5. A call. -/

/-- The answer when no address is left. -/
def connectionFailed : List UInt8 := responseBytes 502 "upstream connection failed".toList

/-- The attempt the course has under way is the one at this address. -/
def IsUnderWay (course : Option (Course SocketAddr)) (address : SocketAddr) : Prop :=
  ∃ k rest, course = some k ∧ k.Under address rest

/-- What a call leaves of an exchange and its course. -/
structure Moves (log : List Act) (t' : Turn σ) (course : Option (Course SocketAddr))
    (ops : List ConnectionOp) : Prop where
  tracks : ∀ c', t'.connection = some c' → Tracks c' course (ops ++ t'.pushed)
  /-- The kernel is asked to connect to the address under way. -/
  connects : ∀ address, .connect address ∈ t'.pushed → IsUnderWay course address
  ordered : ∀ k, course = some k → k.Ordered
  exhausted : .queued connectionFailed ∈ t'.log.drop log.length →
    ∃ k, course = some k ∧ k.Exhausted

/-- The answers of a walk's two callers that are not its own. -/
theorem connectionFailed_ne :
    responseBytes 502 "upstream DNS resolution failed".toList ≠ connectionFailed
    ∧ responseBytes 502 "upstream has no address".toList ≠ connectionFailed
    ∧ responseBytes 504 "upstream connect timed out".toList ≠ connectionFailed := by
  decide +kernel

/-- An answer that is not about the connection. -/
theorem Moves.answered {course : Option (Course SocketAddr)} (h : t.Current c)
    (hpushed : t.pushed = []) {status : Nat} {message : Str}
    (hne : responseBytes status message ≠ connectionFailed)
    (hordered : ∀ k, course = some k → k.Ordered)
    (hrun : queueProxyError env status message t = .ok t') : Moves t.log t' course ops := by
  obtain ⟨c', pushed, acts, hc', hnone, hpushed', hconnects, hlog, hquiet⟩ :=
    queueProxyError_cases h hrun
  rw [hpushed, List.nil_append] at hpushed'
  refine ⟨?_, ?_, hordered, ?_⟩
  · intro d hd
    rw [hc'] at hd
    injection hd with hd
    exact .of_none (hd ▸ hnone)
  · intro address hmem
    exact absurd (hpushed' ▸ hmem) (not_connect_of_countP hconnects address)
  · intro hmem
    rw [hlog, List.drop_left] at hmem
    rcases List.mem_cons.mp hmem with heq | hlater
    · injection heq with heq
      exact absurd heq.symm hne
    · exact absurd hlater (hquiet _)

/-- A walk goes on where the course is. -/
theorem Moves.walk {k : Course SocketAddr} {proxy : UringProxy} (h : t.Current c)
    (hpushed : t.pushed = []) (hproxy : c.proxy = some proxy) (hphase : proxy.phase = .connecting)
    (hk : k.Between proxy.addresses) (hops : ops.countP ConnectionOp.isConnect = 0)
    (hrun : tryNextProxyAddress env t = .ok t') :
    Moves t.log t' (some (k.attempt env.refuses proxy.addresses)) ops := by
  rcases tryNextProxyAddress_cases h hproxy hrun with
    ⟨before, address, later, proxy', haddresses, hbefore, hgood, hc', hphase', haddress', hlater',
      hpushed', call, hlog⟩ | ⟨hall, c', pushed, hc', hnone, hpushed', hconnects⟩
  · have hunder : (k.attempt env.refuses proxy.addresses).Under address later := by
      rw [haddresses] at hk ⊢
      exact hk.found hbefore hgood
    rw [hpushed, List.nil_append] at hpushed'
    refine ⟨?_, ?_, ?_, ?_⟩
    · intro d hd
      rw [hc'] at hd
      injection hd with hd
      subst hd
      refine ⟨?_, ?_⟩
      · intro proxy₁ hproxy₁ _
        injection hproxy₁ with hproxy₁
        subst hproxy₁
        refine ⟨_, address, rfl, haddress', by rw [hlater']; exact hunder, ?_⟩
        intro other hother
        rw [hpushed'] at hother
        rcases List.mem_append.mp hother with hold | hnew
        · exact absurd hold (not_connect_of_countP hops other)
        · injection List.mem_singleton.mp hnew
      · intro proxy₁ hproxy₁ hresolving
        injection hproxy₁ with hproxy₁
        rw [← hproxy₁, hphase', hphase] at hresolving
        cases hresolving
    · intro other hother
      rw [hpushed'] at hother
      injection List.mem_singleton.mp hother with heq
      exact ⟨_, later, rfl, heq ▸ hunder⟩
    · intro k' hk'
      injection hk' with hk'
      exact hk' ▸ hunder.ordered
    · intro hmem
      rw [hlog, List.drop_left] at hmem
      cases List.mem_singleton.mp hmem
  · have hexhausted := hk.refused hall
    rw [hpushed, List.nil_append] at hpushed'
    refine ⟨?_, ?_, ?_, fun _ => ⟨_, rfl, hexhausted.exhausted⟩⟩
    · intro d hd
      rw [hc'] at hd
      injection hd with hd
      exact .of_none (hd ▸ hnone)
    · intro address hmem
      exact absurd (hpushed' ▸ hmem) (not_connect_of_countP hconnects address)
    · intro k' hk'
      injection hk' with hk'
      exact hk' ▸ hexhausted.ordered

/-- The answer to a lookup. -/
theorem finishResolution_moves {addresses : Option (List SocketAddr)}
    {course : Option (Course SocketAddr)} (h : t.Current c) (hpushed : t.pushed = [])
    (htracks : Tracks c course ops) (hordered : ∀ k, course = some k → k.Ordered)
    (hrun : finishResolution env addresses t = .ok t') :
    Moves t.log t' (courseAfter (.resolved addresses) env.toWorld c course) ops := by
  have hsame : ∀ {course' : Option (Course SocketAddr)}, course' = course → t' = t →
      Moves t.log t' course' ops := by
    rintro _ rfl rfl
    refine ⟨?_, ?_, hordered, ?_⟩
    · intro d hd
      rw [h.connection] at hd
      injection hd with hd
      rw [hpushed, List.append_nil]
      exact hd ▸ htracks
    · intro address hmem
      rw [hpushed] at hmem
      cases hmem
    · intro hmem
      simp at hmem
  unfold finishResolution at hrun
  rw [h.connection] at hrun
  dsimp only at hrun
  split at hrun
  next hproxy =>
    injection hrun with hrun
    refine hsame ?_ hrun.symm
    unfold courseAfter
    rw [hproxy]
    rcases addresses with _ | _ | _ <;> rfl
  next proxy hproxy =>
    rw [h.matches, Bool.not_true, Bool.false_or] at hrun
    split at hrun
    next hphase =>
      injection hrun with hrun
      refine hsame ?_ hrun.symm
      have hne : proxy.phase ≠ .resolving := by simpa using hphase
      unfold courseAfter
      rw [hproxy]
      rcases addresses with _ | _ | ⟨first, later⟩
      · rfl
      · rfl
      · dsimp only
        rw [if_neg hne]
    next hphase =>
      have hresolving : proxy.phase = .resolving := by simpa using hphase
      have hidle := htracks.resolving proxy hproxy hresolving
      unfold courseAfter
      rw [hproxy]
      rcases addresses with _ | _ | ⟨first, later⟩
      · exact .answered h hpushed connectionFailed_ne.1 hordered hrun
      · exact .answered h hpushed connectionFailed_ne.2.1 hordered hrun
      · dsimp only
        rw [if_pos hresolving]
        have hput : (t.put (c.setProxy ({ proxy with addresses := first :: later }.transition
            env.now .connecting))).Current (c.setProxy ({ proxy with
              addresses := first :: later }.transition env.now .connecting)) := h.put rfl
        exact Moves.walk hput hpushed rfl rfl (Course.between_fresh _) hidle hrun

/-- The end of a connection attempt. -/
theorem handleProxyConnect_moves {result : Int} {course : Option (Course SocketAddr)}
    (h : t.Current c) (hpushed : t.pushed = []) (htracks : Tracks c course ops)
    (hordered : ∀ k, course = some k → k.Ordered)
    (hphase : ∀ proxy, c.proxy = some proxy → proxy.phase = .connecting)
    (hidle : ops.countP ConnectionOp.isConnect = 0)
    (hrun : handleProxyConnect env result t = .ok t') :
    Moves t.log t' (courseAfter (.proxyConnect result) env.toWorld c course) ops := by
  unfold handleProxyConnect at hrun
  unfold courseAfter
  cases hproxy : c.proxy with
  | none =>
      rw [h.currentProxy_none hproxy] at hrun
      injection hrun with hrun
      subst hrun
      refine ⟨?_, ?_, hordered, ?_⟩
      · intro d hd
        rw [h.connection] at hd
        injection hd with hd
        exact .of_none (hd ▸ hproxy)
      · intro address hmem
        rw [hpushed] at hmem
        cases hmem
      · intro hmem
        simp at hmem
  | some proxy =>
      rw [h.currentProxy hproxy] at hrun
      dsimp only at hrun ⊢
      have hput : (t.put (c.setProxy proxy.completed)).Current (c.setProxy proxy.completed) :=
        h.put rfl
      have hconnecting := hphase proxy hproxy
      split at hrun
      next htimed =>
        -- the attempt is over its time, whatever the kernel says of it
        have htimed' : proxy.timedOut = true := htimed
        rw [htimed', Bool.true_or, if_pos rfl]
        unfold failProxy at hrun
        rw [hput.connection] at hrun
        dsimp only [UringConnection.setProxy] at hrun
        split at hrun
        · injection hrun with hrun
          subst hrun
          refine ⟨?_, ?_, hordered, ?_⟩
          · intro d hd
            cases hd
          · intro address hmem
            have hmem' : ConnectionOp.connect address ∈ t.pushed := hmem
            rw [hpushed] at hmem'
            cases hmem'
          · intro hmem
            simp [Turn.remove, Turn.put] at hmem
        · have hmoves : Moves (t.put (c.setProxy proxy.completed)).log t' course ops :=
            .answered hput hpushed connectionFailed_ne.2.2 hordered hrun
          exact hmoves
      next htimed =>
        have htimed' : proxy.timedOut = false := Bool.eq_false_iff.mpr htimed
        rw [htimed', Bool.false_or]
        obtain ⟨k, address, hk, -, hunder, -⟩ := htracks.connecting proxy hproxy hconnecting
        split at hrun
        next hfailed =>
          rw [if_neg (by simpa using hfailed), hk]
          have hmoves : Moves (t.put (c.setProxy proxy.completed)).log t'
              (some (k.fail.attempt env.refuses proxy.completed.addresses)) ops :=
            .walk hput hpushed rfl hconnecting hunder.fail hidle hrun
          exact hmoves
        next hsucceeded =>
          rw [if_pos (by simpa using hsucceeded)]
          have hwriting : (((t.put (c.setProxy proxy.completed)).put
              ((c.setProxy proxy.completed).setProxy
                (proxy.completed.transition env.now .writingRequest)))).Current
              (c.setProxy (proxy.completed.transition env.now .writingRequest)) := hput.put rfl
          obtain ⟨c', pushed, acts, hfinish, hbecame⟩ := submitProxyWrite_finish hwriting hrun
          obtain ⟨-, -, hconnects, -, hkeeps⟩ := hfinish.counts
          have hphase' : ∀ proxy', c'.proxy = some proxy' → proxy'.phase = .writingRequest := by
            intro proxy' hproxy'
            obtain ⟨proxy₁, hproxy₁, hsame, -⟩ := hkeeps proxy' hproxy'
            injection hproxy₁ with hproxy₁
            rw [hsame, ← hproxy₁]
            rfl
          refine ⟨?_, ?_, hordered, ?_⟩
          · intro d hd
            rw [hbecame.connection] at hd
            injection hd with hd
            subst hd
            refine ⟨?_, ?_⟩
            all_goals
              intro proxy' hproxy' hwrong
              rw [hphase' proxy' hproxy'] at hwrong
              cases hwrong
          · intro address hmem
            have hpushed' : t'.pushed = pushed := by
              rw [hbecame.pushed]
              show t.pushed ++ pushed = pushed
              rw [hpushed, List.nil_append]
            exact absurd (hpushed' ▸ hmem) (not_connect_of_countP hconnects address)
          · intro hmem
            rw [hbecame.log] at hmem
            have hmem' : Act.queued connectionFailed ∈ acts := by
              simpa [Turn.put] using hmem
            exact absurd hmem' (hfinish.not_queued _)

/-- What a call needs besides the exchange: an attempt ends while the exchange
connects, and a request is read while there is no exchange. -/
structure Admits (event : TurnEvent) (c : UringConnection σ) (ops : List ConnectionOp) :
    Prop where
  connect : ∀ result, event = .proxyConnect result →
    (∀ proxy, c.proxy = some proxy → proxy.phase = .connecting)
      ∧ ops.countP ConnectionOp.isConnect = 0
  read : ∀ result bufferId contents, event = .read result bufferId contents →
    c.proxy = none ∧ ops.countP ConnectionOp.isConnect = 0

/-- The completed operation of a connection may be handled. -/
theorem Connects.admits {before after : List ConnectionOp} {op : ConnectionOp}
    (h : Connects c (before ++ op :: after)) (completion : Completion) :
    Admits (op.turnEvent completion) c (before ++ after) := by
  have hcount : ∀ p : ConnectionOp → Bool, (before ++ op :: after).countP p
      = (before ++ after).countP p + if p op then 1 else 0 := by
    intro p
    rw [List.countP_append, List.countP_append, List.countP_cons]
    omega
  refine ⟨?_, ?_⟩
  · intro result heq
    cases op with
    | connect address =>
        have hconnect := hcount ConnectionOp.isConnect
        rw [if_pos (by rfl)] at hconnect
        have hsingle := h.single
        exact ⟨h.phase (by omega), by omega⟩
    | recv | send | proxySend | proxyRecv => cases heq
  · intro result bufferId contents heq
    cases op with
    | recv size =>
        have hrecv := hcount ConnectionOp.isRecv
        rw [if_pos (by rfl), h.recvs] at hrecv
        have hpending : c.readPending = true := by
          by_contra hidle
          rw [if_neg hidle] at hrecv
          omega
        obtain ⟨hproxy, hconnects, -⟩ := h.reading hpending
        have hconnect := hcount ConnectionOp.isConnect
        exact ⟨hproxy, by omega⟩
    | connect | send | proxySend | proxyRecv => cases heq

/-- **Every call keeps an exchange on its course.** -/
theorem handleTurn_moves {event : TurnEvent} {course : Option (Course SocketAddr)}
    (h : t.Current c) (hpushed : t.pushed = []) (htracks : Tracks c course ops)
    (hordered : ∀ k, course = some k → k.Ordered) (hadmits : Admits event c ops)
    (hrun : handleTurn env event t = .ok t') :
    (∀ c', t'.connection = some c' →
      Tracks c' (courseAfter event env.toWorld c course) (ops ++ t'.pushed))
    ∧ (∀ k, courseAfter event env.toWorld c course = some k → k.Ordered)
    ∧ (∀ address, .connect address ∈ t'.pushed →
      IsUnderWay (courseAfter event env.toWorld c course) address)
    ∧ (event.triesAddress = true → .queued connectionFailed ∈ t'.log.drop t.log.length →
      ∃ k, courseAfter event env.toWorld c course = some k ∧ k.Exhausted) := by
  by_cases hevent : event.triesAddress = true
  · have hmoves : Moves t.log t' (courseAfter event env.toWorld c course) ops := by
      cases event with
      | resolved addresses => exact finishResolution_moves h hpushed htracks hordered hrun
      | proxyConnect result =>
          obtain ⟨hphase, hidle⟩ := hadmits.connect result rfl
          exact handleProxyConnect_moves h hpushed htracks hordered hphase hidle hrun
      | _ => cases hevent
    exact ⟨hmoves.tracks, hmoves.ordered, hmoves.connects, fun _ => hmoves.exhausted⟩
  · rw [Bool.not_eq_true] at hevent
    rw [courseAfter_other hevent]
    obtain ⟨c₁, pushed, acts, houtcome, hbecame⟩ := handleTurn_outcome h hrun
    have hpushed' : t'.pushed = pushed := by rw [hbecame.pushed, hpushed, List.nil_append]
    rw [hpushed']
    refine ⟨?_, hordered, ?_, fun htries => ?_⟩
    · intro c' hc'
      rw [hbecame.connection] at hc'
      subst hc'
      obtain ⟨hfollows, hquiet⟩ := houtcome.follows hevent hadmits.read
      exact htracks.follow hfollows hquiet
    · intro address hmem
      refine absurd hmem (not_connect_of_countP ?_ address)
      cases c₁ with
      | some c₁ => exact (houtcome.follows hevent hadmits.read).2
      | none => exact houtcome.removed_connects
    · rw [hevent] at htries
      cases htries

/-! ## §6. Runs. -/

variable {cfg : Config σ} {w w' : IoUringWorker σ}

/-- Every exchange of the worker is where its course says. -/
structure FallsBack (w : IoUringWorker σ) : Prop where
  tracks : ∀ id occ, w.connections.get id.slot = some occ →
    occ.connection.generation = id.generation →
    Tracks occ.connection (courseOf id w.history) (opsOf id w.inFlight)
  ordered : ∀ id k, courseOf id w.history = some k → k.Ordered

theorem courseOf_append (id : ConnectionId) (history items : List (HistoryItem σ)) :
    courseOf id (history ++ items)
      = items.foldl (HistoryItem.course id) (courseOf id history) :=
  List.foldl_append

/-- The course of a connection after a call for it. -/
theorem courseOf_turnItems_self {id : ConnectionId} {event : TurnEvent} {world : World}
    {occ : Occupant σ} (hget : w.connections.get id.slot = some occ)
    (hgen : occ.connection.generation = id.generation) (t : Turn σ) :
    courseOf id (w.history ++ w.turnItems id event world t)
      = courseAfter event world occ.connection (courseOf id w.history) := by
  rw [courseOf_append]
  unfold IoUringWorker.turnItems
  rw [hget]
  dsimp only
  split_ifs
  all_goals
    show (if id = id ∧ occ.connection.generation = id.generation then _ else _) = _
    rw [if_pos ⟨rfl, hgen⟩]

/-- … and of one the call is not for. -/
theorem courseOf_turnItems_other {id id' : ConnectionId} {event : TurnEvent} {world : World}
    (hother : id ≠ id' ∨ ¬ w.Live id) (t : Turn σ) :
    courseOf id' (w.history ++ w.turnItems id event world t) = courseOf id' w.history := by
  rw [courseOf_append]
  unfold IoUringWorker.turnItems
  cases hget : w.connections.get id.slot with
  | none => rfl
  | some occ =>
      have hnot : ¬ (id = id' ∧ occ.connection.generation = id'.generation) := by
        rintro ⟨rfl, hgen⟩
        rcases hother with hne | hstale
        · exact hne rfl
        · exact hstale ⟨occ, hget, hgen⟩
      dsimp only
      split_ifs
      all_goals
        show (if id = id' ∧ occ.connection.generation = id'.generation then _ else _) = _
        rw [if_neg hnot]

/-- What the call of a handler does. -/
def IoUringWorker.turnActs (cfg : Config σ) (world : World) (id : ConnectionId)
    (event : TurnEvent) (w : IoUringWorker σ) : List Act :=
  match handleTurn (w.env cfg world) event (w.view id) with
  | .error _ => []
  | .ok t => t.log.drop (w.view id).log.length

/-- The connection attempts submitted between the two states are those under way. -/
def SubmitsUnderWay (w w' : IoUringWorker σ) : Prop :=
  ∀ id address, .operation id (.connect address) ∈ w'.inFlight.drop w.inFlight.length →
    IsUnderWay (courseOf id w'.history) address

/-- What a turn submits for a connection is what its handler pushed. -/
theorem mem_commit_submitted {id id' : ConnectionId} {event : TurnEvent} {world : World}
    {t : Turn σ} {op : ConnectionOp}
    (h : .operation id' op ∈ (w.commit id event world t).inFlight.drop w.inFlight.length) :
    id = id' ∧ op ∈ t.pushed := by
  simp only [IoUringWorker.commit, List.append_assoc, List.drop_left, List.mem_append,
    List.mem_map] at h
  rcases h with ⟨pushed, hpushed, heq⟩ | ⟨_, _, heq⟩
  · injection heq with hid hop
    exact ⟨hid, hop ▸ hpushed⟩
  · cases heq

/-- A call for a connection that is there. -/
theorem FallsBack.runTurn_live {world : World} {id : ConnectionId} {event : TurnEvent}
    {occ : Occupant σ} (h : FallsBack w) (hget : w.connections.get id.slot = some occ)
    (hgen : occ.connection.generation = id.generation)
    (hadmits : Admits event occ.connection (opsOf id w.inFlight))
    (hrun : w.runTurn cfg world id event = .ok w') :
    FallsBack w' ∧ SubmitsUnderWay w w' ∧ (event.triesAddress = true →
      .queued connectionFailed ∈ w.turnActs cfg world id event →
        ∃ k, courseOf id w'.history = some k ∧ k.Exhausted) := by
  obtain ⟨t, ht, rfl⟩ := runTurn_eq hrun
  have hcur : (w.view id).Current occ.connection := view_current hget hgen
  obtain ⟨htracks, hordered, hconnects, hexhausted⟩ := handleTurn_moves hcur rfl
    (h.tracks id occ hget hgen) (h.ordered id) hadmits ht
  have hself : courseOf id (w.commit id event world t).history
      = courseAfter event world occ.connection (courseOf id w.history) :=
    courseOf_turnItems_self hget hgen t
  refine ⟨⟨?_, ?_⟩, ?_, ?_⟩
  · intro id' occ' hget' hgen'
    by_cases hslot : id.slot = id'.slot
    · have hafter := commit_get_self hget event world t
      rw [← hslot, hafter] at hget'
      obtain ⟨c', hc', rfl⟩ := Option.map_eq_some_iff.mp hget'
      obtain ⟨c₁, pushed, acts, houtcome, hbecame⟩ := handleTurn_outcome hcur ht
      have hkept : c'.generation = occ.connection.generation := by
        rw [hbecame.connection] at hc'
        subst hc'
        exact houtcome.sameClient.generation
      obtain rfl : id = id' := by
        cases id
        cases id'
        simp_all
      rw [hself, opsOf_commit_self]
      exact htracks c' hc'
    · have hne : id ≠ id' := fun heq => hslot (by rw [heq])
      have hold : w.connections.get id'.slot = some occ' := by
        rw [← hget']
        exact (Slab.get_set_ne _ hslot _).symm
      have hcourse : courseOf id' (w.commit id event world t).history = courseOf id' w.history :=
        courseOf_turnItems_other (.inl hne) t
      rw [hcourse, opsOf_commit_ne w hne]
      exact h.tracks id' occ' hold hgen'
  · intro id' k hk
    by_cases hid : id = id'
    · subst hid
      rw [hself] at hk
      exact hordered k hk
    · have hcourse : courseOf id' (w.commit id event world t).history = courseOf id' w.history :=
        courseOf_turnItems_other (.inl hid) t
      rw [hcourse] at hk
      exact h.ordered id' k hk
  · intro id' address hmem
    obtain ⟨rfl, hpushed⟩ := mem_commit_submitted hmem
    rw [hself]
    exact hconnects address hpushed
  · intro htries hmem
    rw [hself]
    refine hexhausted htries ?_
    unfold IoUringWorker.turnActs at hmem
    rw [ht] at hmem
    exact hmem

/-- A call for a connection that is gone. -/
theorem FallsBack.runTurn_stale {world : World} {id : ConnectionId} {event : TurnEvent}
    (h : FallsBack w) (hlive : ¬ w.Live id) (hevent : event.mayBeStale = true)
    (hrun : w.runTurn cfg world id event = .ok w') :
    FallsBack w' ∧ SubmitsUnderWay w w' ∧ w.turnActs cfg world id event = [] := by
  obtain ⟨t, ht, rfl⟩ := runTurn_eq hrun
  rcases handleTurn_stale (w.env cfg world) (view_stale hlive) hevent with ⟨_, herr⟩ |
    ⟨t₁, hok, hmoved⟩
  · rw [herr] at ht
    cases ht
  · rw [hok] at ht
    injection ht with ht
    subst ht
    have hpushed : t₁.pushed = [] := hmoved.pushed
    have hcourse : ∀ id', courseOf id' (w.commit id event world t₁).history
        = courseOf id' w.history := fun id' => courseOf_turnItems_other (.inr hlive) t₁
    have hops : ∀ id', opsOf id' (w.commit id event world t₁).inFlight = opsOf id' w.inFlight := by
      intro id'
      by_cases hid : id = id'
      · subst hid
        rw [opsOf_commit_self, hpushed, List.append_nil]
      · exact opsOf_commit_ne w hid event world t₁
    refine ⟨⟨?_, ?_⟩, ?_, ?_⟩
    · intro id' occ' hget' hgen'
      have hold : w.connections.get id'.slot = some occ' := by
        rw [← hget']
        exact (commit_stale_get hmoved event id'.slot).symm
      rw [hcourse, hops]
      exact h.tracks id' occ' hold hgen'
    · intro id' k hk
      rw [hcourse] at hk
      exact h.ordered id' k hk
    · intro id' address hmem
      obtain ⟨-, hnew⟩ := mem_commit_submitted hmem
      rw [hpushed] at hnew
      cases hnew
    · unfold IoUringWorker.turnActs
      rw [hok]
      dsimp only
      rw [hmoved.log, List.append_nil, List.drop_length]

/-- What concerns neither slab nor history, and begins no operation. -/
theorem FallsBack.of_eq (h : FallsBack w) (hconnections : w'.connections = w.connections)
    (hhistory : w'.history = w.history)
    (hops : ∀ id, (opsOf id w'.inFlight).Sublist (opsOf id w.inFlight)) : FallsBack w' := by
  refine ⟨?_, ?_⟩
  · intro id occ hget hgen
    rw [hhistory]
    rw [hconnections] at hget
    exact (h.tracks id occ hget hgen).sublist (hops id)
  · intro id k hk
    rw [hhistory] at hk
    exact h.ordered id k hk

theorem new_proxy {now : Instant} {socket : Socket} {generation : UInt16} {idx : Nat}
    {ssl : Option LoadedSslConfig} {connection : UringConnection σ}
    (h : UringConnection.new cfg.tls now socket generation idx ssl = some connection) :
    connection.proxy = none := by
  unfold UringConnection.new at h
  split at h
  · injection h with h
    exact h ▸ rfl
  · split at h
    · cases h
    · injection h with h
      exact h ▸ rfl

theorem FallsBack.inserted {id : ConnectionId} {c : UringConnection σ} {log : List Act}
    {stale : List ConnectionOp} (h : FallsBack w)
    (hle : id.slot ≤ w.connections.length) (hproxy : c.proxy = none)
    (hconnections : w'.connections = w.connections.insertAt id.slot ⟨c, log⟩)
    (hhistory : w'.history = w.history ++ [.inserted id stale])
    (hinFlight : w'.inFlight = w.inFlight) : FallsBack w' := by
  have hcourse : ∀ id', courseOf id' w'.history
      = if id = id' then none else courseOf id' w.history := by
    intro id'
    rw [hhistory, courseOf_append]
    rfl
  refine ⟨?_, ?_⟩
  · intro id' occ hget hgen'
    rw [hconnections] at hget
    by_cases hslot : id.slot = id'.slot
    · rw [← hslot, Slab.get_insertAt_self hle] at hget
      injection hget with hget
      subst hget
      exact .of_none hproxy
    · rw [Slab.get_insertAt_ne hle hslot] at hget
      rw [hcourse, if_neg (fun heq => hslot (by rw [heq])), hinFlight]
      exact h.tracks id' occ hget hgen'
  · intro id' k hk
    rw [hcourse] at hk
    split_ifs at hk
    exact h.ordered id' k hk

/-- A call that answers no completed operation. -/
theorem admits_of_not_completion {event : TurnEvent} (h : event.isCompletion = false)
    (c : UringConnection σ) (ops : List ConnectionOp) : Admits event c ops := by
  refine ⟨?_, ?_⟩
  · rintro result rfl
    cases h
  · rintro result bufferId contents rfl
    cases h

/-- Any call the worker may make, here in state `w`. -/
theorem FallsBack.runTurn {world : World} {id : ConnectionId} {event : TurnEvent}
    (h : FallsBack w) (hlive : w.Live id ∨ event.mayBeStale = true)
    (hadmits : ∀ occ, w.connections.get id.slot = some occ →
      occ.connection.generation = id.generation →
        Admits event occ.connection (opsOf id w.inFlight))
    (hrun : w.runTurn cfg world id event = .ok w') :
    FallsBack w' ∧ SubmitsUnderWay w w' ∧ (event.triesAddress = true →
      .queued connectionFailed ∈ w.turnActs cfg world id event →
        ∃ k, courseOf id w'.history = some k ∧ k.Exhausted) := by
  by_cases hthere : w.Live id
  · obtain ⟨occ, hget, hgen⟩ := hthere
    exact h.runTurn_live hget hgen (hadmits occ hget hgen) hrun
  · have hstale : event.mayBeStale = true := hlive.resolve_left hthere
    obtain ⟨hkept, hsubmits, hquiet⟩ := h.runTurn_stale hthere hstale hrun
    refine ⟨hkept, hsubmits, fun _ hmem => ?_⟩
    rw [hquiet] at hmem
    cases hmem

theorem FallsBack.change (h : FallsBack w) (hchange : Change cfg w w') : FallsBack w' := by
  cases hchange with
  | turn world id event hevent hlive hrun =>
      exact (h.runTurn hlive (fun occ _ _ => admits_of_not_completion hevent _ _) hrun).1
  | pushed entry hentry =>
      refine h.of_eq rfl rfl (fun id => ?_)
      rw [opsOf_append, opsOf_singleton_other hentry, List.append_nil]
  | dropped | failed | flags => exact h.of_eq rfl rfl (fun _ => List.Sublist.refl _)
  | inserted now socket listenerIndex ssl id connection generations hvacant hle hnew =>
      exact h.inserted hle (new_proxy hnew) rfl rfl rfl

theorem FallsBack.changes (h : FallsBack w) (hpath : Changes cfg w w') : FallsBack w' := by
  induction hpath with
  | refl => exact h
  | tail _ hchange ih => exact ih.change hchange

theorem FallsBack.taken (h : FallsBack w) (event : Event) : FallsBack (event.taken w) := by
  rcases event.taken_cases w with heq | ⟨index, _, _, _, entry, -, -, -, heq⟩
  · rw [heq]
    exact h
  · rw [heq]
    refine h.of_eq rfl rfl (fun id => ?_)
    exact (List.eraseIdx_sublist w.inFlight index).filterMap _

theorem FallsBack.new (hnew : IoUringWorker.new cfg = .ok w) : FallsBack w := by
  unfold IoUringWorker.new at hnew
  split at hnew
  · cases hnew
  · split_ifs at hnew
    injection hnew with hnew
    subst hnew
    refine ⟨?_, fun id k hk => ?_⟩
    · intro id occ hget
      simp [Slab.get] at hget
    · cases hk

theorem Change.history (hchange : Change cfg w w') : w.history <+: w'.history := by
  cases hchange with
  | turn world id event hevent hlive hrun =>
      obtain ⟨items, hitems⟩ := runTurn_history hrun
      exact ⟨items, hitems.symm⟩
  | inserted => exact List.prefix_append _ _
  | pushed | dropped | failed | flags => exact List.prefix_refl _

theorem changes_history (hpath : Changes cfg w w') : w.history <+: w'.history := by
  induction hpath with
  | refl => exact List.prefix_refl _
  | tail _ hchange ih => exact ih.trans hchange.history

theorem taken_history (event : Event) : (event.taken w).history = w.history := by
  rcases event.taken_cases w with heq | ⟨index, _, _, _, entry, -, -, -, heq⟩
  all_goals
    rw [heq]

/-- A step adds to the history. -/
theorem step_history {event : Event} (hstep : step cfg event w = .ok w') :
    w.history <+: w'.history := by
  rw [← taken_history event]
  rcases step_changes hstep with ⟨_, _, _, world, id, op, -, -, hrun⟩ | hpath
  · obtain ⟨items, hitems⟩ := runTurn_history hrun
    exact ⟨items, hitems.symm⟩
  · exact changes_history hpath

/-! ## §7. The calls of a run. -/

/-- A call of a handler in a run: the completion of an operation in flight, or
any other, in the middle of a step. -/
inductive Calls (cfg : Config σ) : IoUringWorker σ → ConnectionId → TurnEvent → Prop where
  | completed {w : IoUringWorker σ} (index : Nat) (completion : Completion)
      (dns : List ResolveResult) (world : World) {id : ConnectionId} {op : ConnectionOp}
      (h : Reachable cfg w) (hentry : w.inFlight[index]? = some (.operation id op)) :
      Calls cfg ((Event.completed index completion dns world).taken w) id (op.turnEvent completion)
  | within {w w₁ : IoUringWorker σ} (event : Event) {id : ConnectionId} {call : TurnEvent}
      (h : Reachable cfg w) (hpath : Changes cfg (event.taken w) w₁)
      (hcall : call.isCompletion = false) (hlive : w₁.Live id ∨ call.mayBeStale = true) :
      Calls cfg w₁ id call

theorem taken_operation {index : Nat} {completion : Completion} {dns : List ResolveResult}
    {world : World} {id : ConnectionId} {op : ConnectionOp}
    (hentry : w.inFlight[index]? = some (.operation id op)) :
    (Event.completed index completion dns world).taken w
      = { w with inFlight := w.inFlight.eraseIdx index } := by
  dsimp only [Event.taken]
  rw [hentry]
  rfl

/-- The operation that completes is one of its connection's. -/
theorem Reachable.admits {index : Nat} {completion : Completion} {dns : List ResolveResult}
    {world : World} {id : ConnectionId} {op : ConnectionOp} (h : Reachable cfg w)
    (hguard : ∀ item ∈ w.history, givesOutIdle item = true)
    (hentry : w.inFlight[index]? = some (.operation id op)) :
    ∀ occ, ((Event.completed index completion dns world).taken w).connections.get id.slot
        = some occ → occ.connection.generation = id.generation →
      Admits (op.turnEvent completion) occ.connection
        (opsOf id ((Event.completed index completion dns world).taken w).inFlight) := by
  intro occ hget hgen
  have hconnects := (connectRule cfg).holds h hguard
  rw [taken_operation hentry] at hget ⊢
  obtain ⟨before, after, hsplit, herase⟩ := eraseIdx_split hentry
  have hops : opsOf id w.inFlight = opsOf id before ++ op :: opsOf id after := by
    rw [hsplit, opsOf_append, opsOf_cons_operation, if_pos rfl]
  have hinv : Connects occ.connection (opsOf ⟨id.slot, occ.connection.generation⟩ w.inFlight) :=
    hconnects.live id.slot occ hget
  rw [hgen, hops] at hinv
  dsimp only
  rw [herase, opsOf_append]
  exact hinv.admits completion

theorem Reachable.fallsBack (h : Reachable cfg w)
    (hguard : ∀ item ∈ w.history, givesOutIdle item = true) : FallsBack w := by
  induction h with
  | start world hnew hstart =>
      have hpath : Changes cfg _ _ := start_changes hstart
      exact (FallsBack.new hnew).changes hpath
  | step event hprev hstep ih =>
      have hguard₀ : ∀ item ∈ _, givesOutIdle item = true :=
        fun item hitem => hguard item ((step_history hstep).subset hitem)
      have hbefore := (ih hguard₀).taken event
      rcases step_changes hstep with ⟨index, completion, dns, world, id, op, rfl, hentry, hrun⟩ |
        hpath
      · exact (hbefore.runTurn (.inr (op.turnEvent_mayBeStale _))
          (hprev.admits hguard₀ hentry) hrun).1
      · exact hbefore.changes hpath

/-- The kernel connects to no address for an exchange but the one under way. -/
def ConnectsUnderWay (w : IoUringWorker σ) : Prop :=
  ∀ id address, .operation id (.connect address) ∈ w.inFlight →
    ∀ occ proxy, w.connections.get id.slot = some occ →
      occ.connection.generation = id.generation → occ.connection.proxy = some proxy →
      proxy.phase = .connecting →
        proxy.address = some address ∧ IsUnderWay (courseOf id w.history) address

theorem FallsBack.connectsUnderWay (h : FallsBack w) : ConnectsUnderWay w := by
  intro id address hmem occ proxy hget hgen hproxy hphase
  obtain ⟨k, under, hk, haddress, hunder, hops⟩ :=
    (h.tracks id occ hget hgen).connecting proxy hproxy hphase
  obtain rfl : address = under := hops address (mem_opsOf.mpr hmem)
  exact ⟨haddress, k, proxy.addresses, hk, hunder⟩

/-- **Every address is tried before the answer that none could be connected**, and the
kernel is asked for the one the course has under way. -/
theorem failed_after_every_address {id : ConnectionId} {event : TurnEvent} {world : World}
    (h : Calls cfg w id event) (hguard : ∀ item ∈ w.history, givesOutIdle item = true)
    (hrun : w.runTurn cfg world id event = .ok w') :
    (∀ id' k, courseOf id' w'.history = some k → k.Ordered)
    ∧ ConnectsUnderWay w' ∧ SubmitsUnderWay w w'
    ∧ (event.triesAddress = true → .queued connectionFailed ∈ w.turnActs cfg world id event →
        ∃ k, courseOf id w'.history = some k ∧ k.Exhausted) := by
  have hcall : FallsBack w ∧ (w.Live id ∨ event.mayBeStale = true)
      ∧ ∀ occ, w.connections.get id.slot = some occ →
          occ.connection.generation = id.generation →
            Admits event occ.connection (opsOf id w.inFlight) := by
    cases h with
    | completed index completion dns world₀ hreach hentry =>
        rw [taken_history] at hguard
        exact ⟨(hreach.fallsBack hguard).taken _, .inr (ConnectionOp.turnEvent_mayBeStale _ _),
          hreach.admits hguard hentry⟩
    | within event₀ hreach hpath hevent hlive =>
        refine ⟨?_, hlive, fun occ _ _ => admits_of_not_completion hevent _ _⟩
        have hold : ∀ item ∈ _, givesOutIdle item = true := fun item hitem =>
          hguard item ((changes_history hpath).subset (by rw [taken_history]; exact hitem))
        exact ((hreach.fallsBack hold).taken event₀).changes hpath
  obtain ⟨hfalls, hlive, hadmits⟩ := hcall
  obtain ⟨hafter, hsubmits, hexhausted⟩ := hfalls.runTurn hlive hadmits hrun
  exact ⟨hafter.ordered, hafter.connectsUnderWay, hsubmits, hexhausted⟩

end Thwip.IoUring
