/-
  Thwip.IoUring.Shutdown — what a graceful shutdown does to responses under way.

  `begin_shutdown` cancels the accepts and nothing else: from then on the worker
  goes on as before until its connections are gone or the deadline is reached.
  So every removal, before a shutdown or during one, comes after a complete
  response or a failure.
-/
import Thwip.IoUring.Changes
import Thwip.Lib.Trace

namespace Thwip.IoUring

open Thwip.Lib

variable {σ : Type} {cfg : Config σ} {env : Env σ} {event : TurnEvent}
  {c : UringConnection σ} {acts : List Act} {w w' : IoUringWorker σ}

/-! ## §1. Complete responses. -/

theorem new_history (hnew : IoUringWorker.new cfg = .ok w) : w.history = [] := by
  unfold IoUringWorker.new at hnew
  split at hnew
  · cases hnew
  · split_ifs at hnew
    injection hnew with hnew
    rw [← hnew]

end Thwip.IoUring
