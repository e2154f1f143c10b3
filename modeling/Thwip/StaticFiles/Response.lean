/-
  Thwip.StaticFiles.Response — the responses a file gives rise to
  (`run/slave/src/static_files.rs`).

  `staticStreamResponse` makes a head and, for a `GET` with something to send, a
  stream of chunks; `staticResponseBytes` makes the whole response in memory.  What is
  guessed of a path's media type is a parameter.
-/
import Thwip.StaticFiles.Range
import Thwip.StaticFiles.Resolve

namespace Thwip

open Thwip.Lib

/-! ## §1. Media types and tags. -/

/-- What `mime_guess` says of a path, or its default. -/
structure Mime where
  type_ : Str
  subtype : Str
  essence : Str
  deriving Repr, DecidableEq

/-- Every file is plain text. -/
def plainText (_ : Path) : Mime :=
  { type_ := "text".toList, subtype := "plain".toList, essence := "text/plain".toList }

def contentType (guess : Path → Mime) (path : Path) : Str :=
  let mime := guess path
  if mime.type_ = "text".toList
      ∨ ["javascript".toList, "json".toList, "xml".toList].contains mime.subtype then
    mime.essence ++ "; charset=utf-8".toList
  else mime.essence

/-- `"\"{length:x}-{modified:x}\""` -/
def entityTag (metadata : Metadata) : Str :=
  "\"".toList ++ Nat.toDigits 16 metadata.len ++ "-".toList
    ++ Nat.toDigits 16 (metadata.modified.getD 0) ++ "\"".toList

/-! ## §2. File threads. -/

def streamChunkSize : Nat := 64 * 1024

/-- The size of the next buffer: `STREAM_CHUNK_SIZE.min(remaining as usize)`. -/
def bufferSize (bits remaining : Nat) : Nat := min streamChunkSize (remaining % 2 ^ bits)

theorem bufferSize_eq {remaining : Nat} (h : remaining < 2 ^ usizeBits) :
    bufferSize usizeBits remaining = min streamChunkSize remaining := by
  unfold bufferSize
  rw [Nat.mod_eq_of_lt h]

theorem bufferSize_pos {remaining : Nat} (h : remaining < 2 ^ usizeBits) (hne : remaining ≠ 0) :
    0 < bufferSize usizeBits remaining := by
  rw [bufferSize_eq h]
  unfold streamChunkSize
  omega

/-- What the thread sends from `position` on; `none` is its I/O error, when the file
ends before the range does. -/
def fileChunks (contents : List UInt8) (position remaining : Nat)
    (h : remaining < 2 ^ usizeBits) : List (Option (List UInt8)) :=
  if hne : remaining = 0 then []
  else
    let size := bufferSize usizeBits remaining
    have hsize := bufferSize_pos h hne
    if contents.length < position + size then [none]
    else
      some ((contents.drop position).take size)
        :: fileChunks contents (position + size) (remaining - size) (by omega)
termination_by remaining

/-- One turn of the loop. -/
theorem fileChunks_cons {contents : List UInt8} {position remaining : Nat}
    (h : remaining < 2 ^ usizeBits) (hne : remaining ≠ 0) :
    fileChunks contents position remaining h
      = if contents.length < position + bufferSize usizeBits remaining then [none]
        else some ((contents.drop position).take (bufferSize usizeBits remaining))
          :: fileChunks contents (position + bufferSize usizeBits remaining)
            (remaining - bufferSize usizeBits remaining) (by omega) := by
  rw [fileChunks, dif_neg hne]

theorem fileChunks_ne_nil {contents : List UInt8} {position remaining : Nat}
    (h : remaining < 2 ^ usizeBits) :
    ∀ bytes, some bytes ∈ fileChunks contents position remaining h → bytes ≠ [] := by
  induction remaining using Nat.strong_induction_on generalizing position with
  | _ remaining ih =>
      intro bytes hmem
      by_cases hne : remaining = 0
      · subst hne
        rw [fileChunks, dif_pos rfl] at hmem
        cases hmem
      · have hsize := bufferSize_pos h hne
        rw [fileChunks_cons h hne] at hmem
        split_ifs at hmem with hshort
        · simp at hmem
        · rcases List.mem_cons.mp hmem with hmem | hmem
          · injection hmem with hbytes
            intro hnil
            have hlength := congrArg List.length (hbytes.symm.trans hnil)
            rw [List.length_take, List.length_drop, List.length_nil] at hlength
            omega
          · exact ih _ (by omega) _ bytes hmem

def spawnFileStream (fs : FileSystem) (path : Path) (start length : Nat)
    (h : length < 2 ^ usizeBits) : StaticStream :=
  match fs.read path with
  | .error _ => ⟨[none], by simp⟩
  | .ok contents => ⟨fileChunks contents start length h, fileChunks_ne_nil h⟩

/-! ## §3. Streamed responses. -/

/-- The parsed `Range` header, if there is one. -/
def requestedRange (request : RequestHead) (length : Nat) :
    Except StaticError (Option (Nat × Nat)) :=
  match request.headers.find? (fun header => header.name == "range".toList) with
  | none => .ok none
  | some header =>
      match parseRange header.value length with
      | .error error => .error error
      | .ok range => .ok (some range)

/-- The tag is one the client already has. -/
def matchesTag (request : RequestHead) (etag : Str) : Bool :=
  request.headers.any
    (fun header => header.name == "if-none-match".toList && header.value == etag)

def notModifiedHead (etag : Str) : Str :=
  "HTTP/1.1 304 Not Modified\r\nETag: ".toList ++ etag
    ++ "\r\nCache-Control: public, max-age=3600\r\nConnection: close\r\n\r\n".toList

/-- The part of a file that is sent, and the status that says so. -/
structure Part where
  status : Nat
  start : Nat
  last : Nat
  deriving Repr, DecidableEq

def Part.of (length : Nat) (range : Option (Nat × Nat)) : Part :=
  match range with
  | none => ⟨200, 0, length - 1⟩
  | some (start, last) => ⟨206, start, last⟩

/-- `end - start + 1` in `u64` arithmetic, and nothing of an empty file. -/
def Part.responseLength (self : Part) (length : Nat) : Nat :=
  if length = 0 then 0 else (self.last - self.start + 1) % 2 ^ usizeBits

theorem Part.responseLength_lt (self : Part) (length : Nat) :
    self.responseLength length < 2 ^ usizeBits := by
  unfold responseLength
  split_ifs
  · exact Nat.two_pow_pos _
  · exact Nat.mod_lt _ (Nat.two_pow_pos _)

def fileHead (contentType etag : Str) (length : Nat) (part : Part) : Str :=
  "HTTP/1.1 ".toList ++ Nat.toDigits 10 part.status ++ " ".toList
    ++ (if part.status = 206 then "Partial Content".toList else "OK".toList)
    ++ "\r\nContent-Type: ".toList ++ contentType
    ++ "\r\nContent-Length: ".toList ++ Nat.toDigits 10 (part.responseLength length)
    ++ "\r\nAccept-Ranges: bytes\r\nETag: ".toList ++ etag
    ++ "\r\nCache-Control: public, max-age=3600\r\n".toList
    ++ (if part.status = 206 then
        "Content-Range: bytes ".toList ++ Nat.toDigits 10 part.start ++ "-".toList
          ++ Nat.toDigits 10 part.last ++ "/".toList ++ Nat.toDigits 10 length ++ "\r\n".toList
      else [])
    ++ "Connection: close\r\n\r\n".toList

theorem fileHead_ne_nil (contentType etag : Str) (length : Nat) (part : Part) :
    asBytes (fileHead contentType etag length part) ≠ [] := by
  intro hnil
  have hparts := List.append_eq_nil_iff.mp (asBytes_eq_nil.mp hnil)
  exact absurd hparts.2 (by decide)

theorem notModifiedHead_ne_nil (etag : Str) : asBytes (notModifiedHead etag) ≠ [] := by
  intro hnil
  have hparts := List.append_eq_nil_iff.mp (asBytes_eq_nil.mp hnil)
  exact absurd hparts.2 (by decide)

/-- The answer to a client that has the file already. -/
def notModified (etag : Str) : StaticStreamResponse where
  head := asBytes (notModifiedHead etag)
  stream := none
  head_ne_nil := notModifiedHead_ne_nil etag

/-- The head for a part of a file, and the thread that sends it. -/
def partResponse (fs : FileSystem) (guess : Path → Mime) (method : Str) (path : Path)
    (metadata : Metadata) (part : Part) : StaticStreamResponse where
  head := asBytes (fileHead (contentType guess path) (entityTag metadata) metadata.len part)
  stream :=
    if method = "GET".toList ∧ part.responseLength metadata.len > 0 then
      some (spawnFileStream fs path part.start (part.responseLength metadata.len)
        (part.responseLength_lt metadata.len))
    else none
  head_ne_nil := fileHead_ne_nil _ _ _ _

def staticStreamResponse (fs : FileSystem) (guess : Path → Mime) (root : Path)
    (request : RequestHead) : Except StaticError StaticStreamResponse := do
  if request.method ≠ "GET".toList ∧ request.method ≠ "HEAD".toList then
    .error .methodNotAllowed
  else
    let (path, metadata) ← resolveStaticPath fs root request.target
    if matchesTag request (entityTag metadata) then
      .ok (notModified (entityTag metadata))
    else
      let range ← requestedRange request metadata.len
      .ok (partResponse fs guess request.method path metadata (Part.of metadata.len range))

section Allowed

variable {fs : FileSystem} {guess : Path → Mime} {root : Path} {request : RequestHead}

theorem staticStreamResponse_unresolved {error : StaticError}
    (hmethod : request.method = "GET".toList ∨ request.method = "HEAD".toList)
    (h : resolveStaticPath fs root request.target = .error error) :
    staticStreamResponse fs guess root request = .error error := by
  have hallowed : ¬ (request.method ≠ "GET".toList ∧ request.method ≠ "HEAD".toList) := by
    rintro ⟨hget, hhead⟩
    exact hmethod.elim hget hhead
  unfold staticStreamResponse
  rw [if_neg hallowed, h]
  rfl

/-- What is made of a file that is found. -/
theorem staticStreamResponse_resolved {path : Path} {metadata : Metadata}
    (hmethod : request.method = "GET".toList ∨ request.method = "HEAD".toList)
    (h : resolveStaticPath fs root request.target = .ok (path, metadata)) :
    staticStreamResponse fs guess root request
      = if matchesTag request (entityTag metadata) then .ok (notModified (entityTag metadata))
        else (requestedRange request metadata.len).map (fun range =>
          partResponse fs guess request.method path metadata (Part.of metadata.len range)) := by
  have hallowed : ¬ (request.method ≠ "GET".toList ∧ request.method ≠ "HEAD".toList) := by
    rintro ⟨hget, hhead⟩
    exact hmethod.elim hget hhead
  unfold staticStreamResponse
  rw [if_neg hallowed, h]
  rfl

end Allowed

/-! ## §4. Responses in memory. -/

def maxInMemoryStaticFileSize : Nat := 4 * 1024 * 1024

structure StaticFile where
  bytes : List UInt8
  contentType : Str
  contentLength : Nat
  deriving Repr, DecidableEq

def serveStatic (fs : FileSystem) (guess : Path → Mime) (root : Path) (method rawTarget : Str) :
    Except StaticError StaticFile := do
  if method ≠ "GET".toList ∧ method ≠ "HEAD".toList then .error .methodNotAllowed
  else
    let (candidate, metadata) ← resolveStaticPath fs root rawTarget
    if metadata.len > maxInMemoryStaticFileSize then .error .tooLarge
    else
      let bytes ← mapErr (fs.read candidate)
      .ok
        { bytes
          contentType := contentType guess candidate
          contentLength := metadata.len }

def staticResponseBytes (fs : FileSystem) (guess : Path → Mime) (root : Path)
    (method rawTarget : Str) : List UInt8 :=
  match serveStatic fs guess root method rawTarget with
  | .ok file =>
      responseBytesWithBody 200 file.contentType file.bytes (method != "HEAD".toList)
  | .error error => staticErrorResponse error

end Thwip
