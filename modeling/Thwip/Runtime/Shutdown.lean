/-
  Thwip.Runtime.Shutdown — responses under way when a worker shuts down.

  The io_uring worker stops accepting and otherwise goes on as before.  The
  readiness worker keeps what is in its write buffers and file streams: a response
  that comes from an upstream is cut off between two chunks.
-/
import Thwip.IoUring.Shutdown
import Thwip.Readiness.Shutdown
import Thwip.Runtime.CloseNotify

namespace Thwip

open Thwip.Lib

variable {σ τ : Type}

section Example

/-- The client's socket takes this many bytes. -/
def takes (room : Nat) : Readiness.Event :=
  Readiness.firstReady .client false true { Readiness.Io.quiet with writes := [.ok room] }

end Example

end Thwip
