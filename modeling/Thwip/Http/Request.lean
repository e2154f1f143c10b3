/-
  Thwip.Http.Request — the HTTP/1 request head (`run/slave/src/http.rs`).

  `parseRequestHead` is called on a connection's whole read buffer after every
  append; it finds the blank line, checks the size limit, decodes the head as
  UTF-8 text and parses the request line and the header lines.
  `RequestHead.bodyLength` is the framing rule both workers apply to the result.
-/
import Thwip.Lib.Text

namespace Thwip

open Thwip.Lib

/-! ## §1. Data model. -/

def maxRequestHeadSize : Nat := 16 * 1024

/-- `usize` has 64 bits. -/
def usizeBits : Nat := 64

inductive HttpVersion where
  | http10
  | http11
  deriving Repr, DecidableEq

structure Header where
  /-- Stored in lowercase so later lookups are case-insensitive. -/
  name : Str
  value : Str
  deriving Repr, DecidableEq

structure RequestHead where
  method : Str
  target : Str
  version : HttpVersion
  headers : List Header
  deriving Repr, DecidableEq

inductive BodyFramingError where
  | invalidContentLength
  | conflictingContentLength
  | unsupportedTransferEncoding
  deriving Repr, DecidableEq

inductive RequestHeadParse where
  | incomplete
  | complete (request : RequestHead) (consumed : Nat)
  deriving Repr, DecidableEq

inductive ParseError where
  | headTooLarge (limit : Nat)
  | invalidRequestLine
  | invalidMethod
  | invalidTarget
  | unsupportedVersion
  | invalidHeader
  | invalidText
  deriving Repr, DecidableEq

/-! ## §2. Body framing. -/

/-- One `content-length` header of the loop in `body_length`. -/
def contentLengthStep (contentLength : Option Nat) (header : Header) :
    Except BodyFramingError (Option Nat) :=
  if header.value.isEmpty
      || !(asBytes header.value).all (fun byte => isAsciiDigit byte.toNat) then
    .error .invalidContentLength
  else
    match parseUnsigned usizeBits header.value with
    | none => .error .invalidContentLength
    | some value =>
        match contentLength with
        | some previous =>
            if previous ≠ value then .error .conflictingContentLength
            else .ok (some value)
        | none => .ok (some value)

/-- The request body length for the supported subset of HTTP/1 framing. -/
def RequestHead.bodyLength (self : RequestHead) : Except BodyFramingError Nat :=
  if self.headers.any (fun header => header.name == "transfer-encoding".toList) then
    .error .unsupportedTransferEncoding
  else do
    let contentLength ←
      (self.headers.filter (fun header => header.name == "content-length".toList)).foldlM
        contentLengthStep none
    return contentLength.getD 0

/-! ## §3. The parser. -/

def isToken (byte : UInt8) : Bool :=
  isAsciiAlphanumeric byte.toNat
    || "!#$%&'*+-.^_`|~".toList.any (fun c => c.toNat == byte.toNat)

/-- `\r\n\r\n` -/
def headTerminator : List UInt8 := [13, 10, 13, 10]

def findHeadEnd (bytes : List UInt8) : Option Nat :=
  (windows 4 bytes).findIdx? (fun window => window == headTerminator)

def parseRequestLine (line : Str) : Except ParseError (Str × Str × HttpVersion) :=
  match splitAsciiWhitespace line with
  | method :: target :: version :: parts =>
      if !parts.isEmpty then .error .invalidRequestLine
      else if !(asBytes method).all isToken then .error .invalidMethod
      else if target.isEmpty
          || (asBytes target).any (fun byte => isAsciiControl byte.toNat) then
        .error .invalidTarget
      else if version = "HTTP/1.0".toList then .ok (method, target, .http10)
      else if version = "HTTP/1.1".toList then .ok (method, target, .http11)
      else .error .unsupportedVersion
  | _ => .error .invalidRequestLine

/-- The characters `trim_matches([' ', '\t'])` removes from a header value. -/
def isOws (c : Char) : Bool := c == ' ' || c == '\t'

def parseHeader (line : Str) : Except ParseError Header :=
  match splitOnce ':' line with
  | none => .error .invalidHeader
  | some (name, value) =>
      if name.isEmpty || !(asBytes name).all isToken
          || value.any (fun c => c == '\r' || c == '\n') then
        .error .invalidHeader
      else
        .ok { name := toAsciiLowercase name, value := trimMatches isOws value }

/-- The `for line in lines` loop: empty lines are skipped. -/
def parseHeaders : List Str → Except ParseError (List Header)
  | [] => .ok []
  | line :: lines =>
      if line.isEmpty then parseHeaders lines
      else do
        let header ← parseHeader line
        let headers ← parseHeaders lines
        return header :: headers

/-- What `parse_request_head` does with the bytes before the blank line once
the size limit has been checked. -/
def parseHead (head : List UInt8) : Except ParseError RequestHead :=
  match fromUtf8 head with
  | none => .error .invalidText
  | some text =>
      match splitOnPair '\r' '\n' text with
      | [] => .error .invalidRequestLine
      | requestLine :: lines => do
          let (method, target, version) ← parseRequestLine requestLine
          let headers ← parseHeaders lines
          return { method, target, version, headers }

/-- Parse one request head without consuming a body that follows it. -/
def parseRequestHead (bytes : List UInt8) : Except ParseError RequestHeadParse :=
  match findHeadEnd bytes with
  | none =>
      if bytes.length > maxRequestHeadSize then
        .error (.headTooLarge maxRequestHeadSize)
      else .ok .incomplete
  | some headEnd =>
      if headEnd > maxRequestHeadSize then
        .error (.headTooLarge maxRequestHeadSize)
      else do
        let request ← parseHead (bytes.take headEnd)
        return .complete request (headEnd + 4)

example : parseRequestHead (asBytes "GET / HTTP/1.1\r\nHost: a\r\n".toList)
    = .ok .incomplete := by decide

example : parseRequestHead (asBytes "GET / HTTP/1.1\r\nHost\r\n\r\n".toList)
    = .error .invalidHeader := by decide

end Thwip
