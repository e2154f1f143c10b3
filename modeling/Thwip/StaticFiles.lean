/-
  Thwip.StaticFiles — the parts of `run/slave/src/static_files.rs` a worker
  drives: the chunk stream of a file, the responses to its errors, and how a
  request target is read as a path.
-/
import Thwip.Lib.Search
import Thwip.Router

namespace Thwip

open Thwip.Lib

/-! ## §1. File streams. -/

inductive StaticError where
  | badRequest
  | forbidden
  | methodNotAllowed
  | notFound
  | tooLarge
  | rangeNotSatisfiable
  | io
  deriving Repr, DecidableEq

inductive StaticChunk where
  | data (bytes : List UInt8)
  | pending
  | finished
  deriving Repr, DecidableEq

/-- The receiving end of a file thread's channel: the messages the thread will
still deliver, `none` standing for an I/O error. After the last one the channel
is disconnected. The thread sends a chunk only while bytes of the range remain,
so none is empty. -/
structure StaticStream where
  chunks : List (Option (List UInt8))
  chunk_ne_nil : ∀ bytes, some bytes ∈ chunks → bytes ≠ []
  deriving DecidableEq

/-- The stream after its first message. -/
def StaticStream.tail (self : StaticStream) : StaticStream :=
  ⟨self.chunks.tail, fun bytes h => self.chunk_ne_nil bytes (List.mem_of_mem_tail h)⟩

/-- `try_next`, given whether the next message (or the disconnect) has arrived.
The outer `none` is the stream's I/O error. -/
def StaticStream.tryNext (self : StaticStream) (arrived : Bool) :
    Option StaticChunk × StaticStream :=
  if !arrived then (some .pending, self)
  else
    match self.chunks with
    | [] => (some .finished, self)
    | some bytes :: _ => (some (.data bytes), self.tail)
    | none :: _ => (none, self.tail)

/-- A delivered chunk has bytes in it. -/
theorem StaticStream.tryNext_data_ne_nil {self rest : StaticStream} {arrived : Bool}
    {bytes : List UInt8} (h : self.tryNext arrived = (some (.data bytes), rest)) :
    bytes ≠ [] := by
  unfold tryNext at h
  split at h
  · cases h
  · split at h
    · cases h
    next chunk rest' hchunks =>
      injection h with hdata hrest
      injection hdata with hdata
      injection hdata with hdata
      subst hdata
      exact self.chunk_ne_nil _ (by rw [hchunks]; exact List.mem_cons_self)
    · cases h

/-- A stream that has nothing yet is left as it is. -/
theorem StaticStream.tryNext_pending {self rest : StaticStream} {arrived : Bool}
    (h : self.tryNext arrived = (some .pending, rest)) : rest = self := by
  unfold tryNext at h
  split at h
  · injection h with _ hrest
    exact hrest.symm
  · split at h <;> cases h

/-- What is still to come of the file, up to the first error. -/
def StaticStream.contents (self : StaticStream) : List UInt8 :=
  (self.chunks.takeWhile Option.isSome).flatMap (fun chunk => chunk.getD [])

theorem StaticStream.contents_of_data {self rest : StaticStream} {arrived : Bool}
    {bytes : List UInt8} (h : self.tryNext arrived = (some (.data bytes), rest)) :
    self.contents = bytes ++ rest.contents := by
  unfold tryNext at h
  split at h
  · cases h
  · split at h
    · cases h
    next chunk rest' hchunks =>
      injection h with hdata hrest
      injection hdata with hdata
      injection hdata with hdata
      subst hdata hrest
      show (self.chunks.takeWhile _).flatMap _ = _ ++ (self.chunks.tail.takeWhile _).flatMap _
      rw [hchunks]
      rfl
    · cases h

/-- A response head is never empty: it starts with its status line. -/
structure StaticStreamResponse where
  head : List UInt8
  stream : Option StaticStream
  head_ne_nil : head ≠ []

def staticErrorResponse (error : StaticError) : List UInt8 :=
  let plain (status : Nat) (body : Str) :=
    responseBytesWithBody status "text/plain; charset=utf-8".toList (asBytes body) true
  match error with
  | .badRequest => plain 400 "bad request".toList
  | .forbidden => plain 403 "forbidden".toList
  | .methodNotAllowed => plain 405 "method not allowed".toList
  | .notFound => plain 404 "not found".toList
  | .tooLarge => plain 413 "file too large".toList
  | .rangeNotSatisfiable => plain 416 "range not satisfiable".toList
  | .io => plain 500 "internal server error".toList

theorem staticErrorResponse_ne_nil (error : StaticError) : staticErrorResponse error ≠ [] := by
  cases error <;> exact responseBytesWithBody_ne_nil _ _ _ _

/-! ## §2. Request targets. -/

structure RequestTarget where
  path : Str
  query : Option Str
  deriving Repr, DecidableEq

def hex (byte : UInt8) : Option UInt8 :=
  if 0x30 ≤ byte ∧ byte ≤ 0x39 then some (byte - 0x30)
  else if 0x61 ≤ byte ∧ byte ≤ 0x66 then some (byte - 0x61 + 10)
  else if 0x41 ≤ byte ∧ byte ≤ 0x46 then some (byte - 0x41 + 10)
  else none

def percentDecode : List UInt8 → Except StaticError (List UInt8)
  | [] => .ok []
  | byte :: bytes =>
      if byte = 0x25 then
        match bytes with
        | first :: second :: rest =>
            match hex first, hex second with
            | some high, some low =>
                match percentDecode rest with
                | .ok decoded => .ok ((high <<< 4 ||| low) :: decoded)
                | .error error => .error error
            | _, _ => .error .badRequest
        | _ => .error .badRequest
      else
        match percentDecode bytes with
        | .ok decoded => .ok (byte :: decoded)
        | .error error => .error error

inductive Component where
  | rootDir
  | curDir
  | parentDir
  | normal (part : Str)
  deriving Repr, DecidableEq

/-- `Path::components`: repeated separators are one, and a `.` counts only at the
start of a relative path. -/
def components (path : Str) : List Component :=
  let hasRoot := path.head? = some '/'
  let parts := (path.splitOn '/').filter (fun part => !part.isEmpty)
  let named (part : Str) : Option Component :=
    if part = ".".toList then none
    else if part = "..".toList then some .parentDir
    else some (.normal part)
  if hasRoot then .rootDir :: parts.filterMap named
  else
    (if parts.head? = some ".".toList then [.curDir] else []) ++ parts.filterMap named

def relativePath (path : Str) : Except StaticError (List Str) :=
  (components path).foldlM
    (fun relative component =>
      match component with
      | .rootDir => .ok relative
      | .normal part => .ok (relative ++ [part])
      | .curDir | .parentDir => .error .forbidden) []

def parseRequestTarget (raw : Str) : Except StaticError RequestTarget :=
  let (rawPath, query) : Str × Option Str :=
    match splitOnce '?' raw with
    | none => (raw, none)
    | some (path, query) => (path, some query)
  if rawPath.head? ≠ some '/' then .error .badRequest
  else
    match percentDecode (asBytes rawPath) with
    | .error error => .error error
    | .ok bytes =>
        match fromUtf8 bytes with
        | none => .error .badRequest
        | some path =>
            if (asBytes path).any (fun byte => byte == 0 || isAsciiControl byte.toNat) then
              .error .badRequest
            else
              match relativePath path with
              | .error error => .error error
              | .ok _ => .ok { path, query }

end Thwip
