/-
  Thwip.StaticFiles.Resolve — from a request target to a file
  (`run/slave/src/static_files.rs`).

  A path is its bytes, as the file system gets them.  The file system is a parameter:
  what each of its calls answers, for every path, while a request is resolved.
-/
import Thwip.StaticFiles

namespace Thwip

open Thwip.Lib

/-! ## §1. Paths and the file system. -/

/-- A `Path` of a Unix system. -/
abbrev Path := List UInt8

/-- The `components` of a path, each as its `as_os_str`: repeated separators are one,
and a `.` counts only at the start of a relative path. -/
def Path.components (self : Path) : List (List UInt8) :=
  let parts := (self.splitOn 0x2F).filter (fun part => !part.isEmpty)
  let named := parts.filter (fun part => part != [0x2E])
  if self.head? = some 0x2F then [0x2F] :: named
  else (if parts.head? = some [0x2E] then [[0x2E]] else []) ++ named

/-- `Path::join` of a relative path. -/
def Path.join (self relative : Path) : Path :=
  if self = [] ∨ self.getLast? = some 0x2F then self ++ relative
  else self ++ 0x2F :: relative

/-- `Path::starts_with`, component by component. -/
def Path.startsWith (self base : Path) : Bool :=
  base.components.isPrefixOf self.components

/-- The `PathBuf` that `relative_path` pushes its parts on. -/
def pathOf (parts : List Str) : Path := parts.foldl (fun path part => path.join (asBytes part)) []

/-- The kinds of I/O error that are told apart. -/
inductive ErrorKind where
  | notFound
  | permissionDenied
  | other
  deriving Repr, DecidableEq

structure Metadata where
  /-- A `u64`. -/
  len : Nat
  isDir : Bool
  isFile : Bool
  /-- The seconds since the epoch, where the time is known and not before it. -/
  modified : Option Nat
  deriving Repr, DecidableEq

structure FileSystem where
  canonicalize : Path → Except ErrorKind Path
  metadata : Path → Except ErrorKind Metadata
  /-- What opening the file and reading it to its end gives. -/
  read : Path → Except ErrorKind (List UInt8)

def mapIoError (kind : ErrorKind) : StaticError :=
  match kind with
  | .notFound => .notFound
  | .permissionDenied => .forbidden
  | .other => .io

/-- A call whose error goes through `map_err(map_io_error)`. -/
def mapErr {α : Type} (result : Except ErrorKind α) : Except StaticError α :=
  match result with
  | .ok a => .ok a
  | .error kind => .error (mapIoError kind)

theorem mapErr_eq_ok {α : Type} {result : Except ErrorKind α} {a : α} :
    mapErr result = .ok a ↔ result = .ok a := by
  cases result <;> simp [mapErr]

/-- A step that is taken passes its value on. -/
theorem bind_eq_ok {α β : Type} {step : Except StaticError α} {next : α → Except StaticError β}
    {b : β} (h : step >>= next = .ok b) : ∃ a, step = .ok a ∧ next a = .ok b := by
  cases step with
  | error error => cases h
  | ok a => exact ⟨a, rfl, h⟩

/-! ## §2. Resolution. -/

/-- The look-up that is made of the target and of the index file: the canonical path,
inside the root, and what it is. -/
def resolveUnder (fs : FileSystem) (root path : Path) : Except StaticError (Path × Metadata) :=
  match mapErr (fs.canonicalize path) with
  | .error error => .error error
  | .ok candidate =>
      if !candidate.startsWith root then .error .forbidden
      else
        match mapErr (fs.metadata candidate) with
        | .error error => .error error
        | .ok metadata => .ok (candidate, metadata)

/-- The index file, where the target is a directory. -/
def resolveIndex (fs : FileSystem) (root candidate : Path) (metadata : Metadata) :
    Except StaticError (Path × Metadata) :=
  if metadata.isDir then resolveUnder fs root (candidate.join (asBytes "index.html".toList))
  else .ok (candidate, metadata)

def resolveStaticPath (fs : FileSystem) (root : Path) (rawTarget : Str) :
    Except StaticError (Path × Metadata) := do
  let target ← parseRequestTarget rawTarget
  let root ← mapErr (fs.canonicalize root)
  let relative ← relativePath target.path
  let (candidate, metadata) ← resolveUnder fs root (root.join (pathOf relative))
  let (candidate, metadata) ← resolveIndex fs root candidate metadata
  if !metadata.isFile then .error .notFound
  else .ok (candidate, metadata)

/-! ## §3. A directory with one file. -/

/-- `/srv` holds `/srv/page`, and nothing else exists. -/
def oneFile : FileSystem where
  canonicalize path :=
    if path = asBytes "/srv".toList ∨ path = asBytes "/srv/page".toList then .ok path
    else .error .notFound
  metadata path :=
    if path = asBytes "/srv/page".toList then .ok ⟨2, false, true, some 7⟩
    else .ok ⟨0, true, false, none⟩
  read path := if path = asBytes "/srv/page".toList then .ok [104, 105] else .error .notFound

end Thwip
