/-
  Thwip.StaticFiles.Confinement — a target never leaves the root.

  The path of a target is cut into its components, and only ordinary names get through:
  so what is looked up is the root's path with names behind it.  A look-up can still end
  elsewhere, where an entry is a symbolic link, and is then refused.
-/
import Thwip.Http.Clean
import Thwip.Lib.Lines
import Thwip.Lib.Slab
import Thwip.StaticFiles.Resolve

namespace Thwip

open Thwip.Lib

/-! ## §1. Names. -/

/-- A name that stands for an entry of the directory it is looked up in. -/
structure OrdinaryName (part : Str) : Prop where
  nonempty : part ≠ []
  not_dot : part ≠ ".".toList
  not_dotdot : part ≠ "..".toList
  no_slash : '/' ∉ part
  /-- NUL is one of them. -/
  no_control : ∀ c ∈ part, isAsciiControl c.toNat = false

/-- The pieces between separators. -/
theorem mem_splitOn {α : Type*} [DecidableEq α] {a : α} :
    ∀ {s part : List α}, part ∈ s.splitOn a → a ∉ part ∧ ∀ c ∈ part, c ∈ s
  | [], part, h => by
      rw [List.splitOn_nil, List.mem_singleton] at h
      subst h
      simp
  | x :: s, part, h => by
      rw [List.splitOn_cons_eq_if_modifyHead] at h
      split_ifs at h with hx
      · rcases List.mem_cons.mp h with rfl | h
        · simp
        · have ih := mem_splitOn h
          exact ⟨ih.1, fun c hc => List.mem_cons_of_mem _ (ih.2 c hc)⟩
      · -- the piece that the first character belongs to is the only one that is new
        obtain ⟨piece, pieces, hpieces⟩ := List.exists_cons_of_ne_nil (List.splitOn_ne_nil a s)
        rw [hpieces, List.modifyHead_cons] at h
        have hne : x ≠ a := fun h => hx (beq_iff_eq.mpr h)
        rcases List.mem_cons.mp h with rfl | h
        · have ih := mem_splitOn (hpieces ▸ List.mem_cons_self : piece ∈ s.splitOn a)
          refine ⟨?_, ?_⟩
          · intro hmem
            rcases List.mem_cons.mp hmem with hmem | hmem
            · exact hne hmem.symm
            · exact ih.1 hmem
          · intro c hc
            rcases List.mem_cons.mp hc with rfl | hc
            · exact List.mem_cons_self
            · exact List.mem_cons_of_mem _ (ih.2 c hc)
        · have ih := mem_splitOn (hpieces ▸ List.mem_cons_of_mem _ h : part ∈ s.splitOn a)
          exact ⟨ih.1, fun c hc => List.mem_cons_of_mem _ (ih.2 c hc)⟩

/-- What is known of a normal component. -/
theorem normal_component {path part : Str} (h : Component.normal part ∈ components path) :
    part ≠ [] ∧ part ≠ ".".toList ∧ part ≠ "..".toList ∧ part ∈ path.splitOn '/' := by
  have hnamed : ∀ name : Str, name ∈ (path.splitOn '/').filter (fun part => !part.isEmpty) →
      (if name = ".".toList then none
        else if name = "..".toList then some Component.parentDir
        else some (.normal name)) = some (.normal part) →
      part ≠ [] ∧ part ≠ ".".toList ∧ part ≠ "..".toList ∧ part ∈ path.splitOn '/' := by
    intro name hmem hname
    split_ifs at hname with hdot hdotdot
    · cases hname
    injection hname with hname
    injection hname with hname
    subst hname
    rw [List.mem_filter] at hmem
    refine ⟨?_, hdot, hdotdot, hmem.1⟩
    intro hnil
    rw [hnil] at hmem
    cases hmem.2
  unfold components at h
  dsimp only at h
  split_ifs at h
  · rcases List.mem_cons.mp h with h | h
    · cases h
    · obtain ⟨name, hmem, hname⟩ := List.mem_filterMap.mp h
      exact hnamed name hmem hname
  · rcases List.mem_append.mp h with h | h
    · cases List.mem_singleton.mp h
    · obtain ⟨name, hmem, hname⟩ := List.mem_filterMap.mp h
      exact hnamed name hmem hname
  · rcases List.mem_append.mp h with h | h
    · cases h
    · obtain ⟨name, hmem, hname⟩ := List.mem_filterMap.mp h
      exact hnamed name hmem hname

/-- The parts of a relative path are normal components. -/
theorem mem_relativePath {path : Str} {parts : List Str} (h : relativePath path = .ok parts) :
    ∀ part ∈ parts, Component.normal part ∈ components path := by
  have hrun := foldlM_ok
    (fun rest before => (∀ component ∈ rest, component ∈ components path)
      ∧ ∀ part ∈ before, Component.normal part ∈ components path)
    (f := _) ?_ (s := []) ⟨fun _ hmem => hmem, fun _ hmem => by cases hmem⟩ h
  · exact hrun.2
  intro component rest before after hbefore hstep
  cases component with
  | rootDir =>
      injection hstep with hstep
      subst hstep
      exact ⟨fun other hmem => hbefore.1 other (List.mem_cons_of_mem _ hmem), hbefore.2⟩
  | curDir => cases hstep
  | parentDir => cases hstep
  | normal name =>
      injection hstep with hstep
      subst hstep
      refine ⟨fun other hmem => hbefore.1 other (List.mem_cons_of_mem _ hmem), ?_⟩
      intro part hmem
      rcases List.mem_append.mp hmem with hmem | hmem
      · exact hbefore.2 part hmem
      · rw [List.mem_singleton.mp hmem]
        exact hbefore.1 _ List.mem_cons_self

/-- What a target that is accepted decodes to. -/
theorem parseRequestTarget_eq_ok {raw : Str} {target : RequestTarget}
    (h : parseRequestTarget raw = .ok target) :
    (∀ c ∈ target.path, isAsciiControl c.toNat = false)
      ∧ ∃ parts, relativePath target.path = .ok parts := by
  unfold parseRequestTarget at h
  split at h
  next rawPath query =>
    split_ifs at h
    split at h
    · cases h
    split at h
    · cases h
    next path hpath =>
      split_ifs at h with hbytes
      split at h
      · cases h
      next parts hparts =>
        injection h with h
        subst h
        refine ⟨?_, parts, hparts⟩
        intro c hc
        rw [Bool.eq_false_iff]
        intro hcontrol
        obtain ⟨byte, hbyte, hcode⟩ :=
          (exists_mem_asBytes_iff (isAsciiControl_ascii hcontrol)).mpr ⟨c, hc, rfl⟩
        apply hbytes
        rw [List.any_eq_true]
        refine ⟨byte, hbyte, ?_⟩
        rw [hcode, hcontrol, Bool.or_true]

/-- **The names of an accepted target are ordinary.** -/
theorem relativePath_ordinary {raw : Str} {target : RequestTarget}
    (h : parseRequestTarget raw = .ok target) :
    ∃ parts, relativePath target.path = .ok parts ∧ ∀ part ∈ parts, OrdinaryName part := by
  obtain ⟨hcontrol, parts, hparts⟩ := parseRequestTarget_eq_ok h
  refine ⟨parts, hparts, ?_⟩
  intro part hmem
  obtain ⟨hne, hdot, hdotdot, hpiece⟩ := normal_component (mem_relativePath hparts part hmem)
  obtain ⟨hslash, hchars⟩ := mem_splitOn hpiece
  exact ⟨hne, hdot, hdotdot, hslash, fun c hc => hcontrol c (hchars c hc)⟩

/-! ## §2. What is looked up. -/

/-- The ordinary names of a path, in bytes. -/
def Path.names (self : Path) : List (List UInt8) :=
  ((self.splitOn 0x2F).filter (fun part => !part.isEmpty)).filter (fun part => part != [0x2E])

theorem Path.names_slash (self relative : Path) :
    Path.names (self ++ 0x2F :: relative) = self.names ++ relative.names := by
  unfold names
  rw [List.splitOn_append_cons_self, List.filter_append, List.filter_append]

theorem Path.names_join (self relative : Path) :
    (self.join relative).names = self.names ++ relative.names := by
  unfold join
  split_ifs with h
  · rcases h with h | h
    · rw [h]
      rfl
    · -- the separator is there already
      obtain ⟨base, rfl⟩ := List.getLast?_eq_some_iff.mp h
      have hbase := Path.names_slash base []
      rw [List.append_assoc, List.singleton_append, Path.names_slash, hbase]
      show _ = (Path.names base ++ []) ++ _
      rw [List.append_nil]
  · exact Path.names_slash self relative

theorem OrdinaryName.names {part : Str} (h : OrdinaryName part) :
    Path.names (asBytes part) = [asBytes part] := by
  have hslash : (0x2F : UInt8) ∉ asBytes part := notMem_asBytes rfl (by decide) h.no_slash
  have hempty : asBytes part ≠ [] := fun hnil => h.nonempty (asBytes_eq_nil.mp hnil)
  have hdot : asBytes part ≠ [0x2E] := by
    intro hbytes
    have hsame : fromUtf8 (asBytes part) = fromUtf8 (asBytes ".".toList) := congrArg fromUtf8 hbytes
    rw [fromUtf8_asBytes, fromUtf8_asBytes] at hsame
    exact h.not_dot (Option.some.inj hsame)
  unfold Path.names
  rw [List.splitOn_eq_singleton hslash]
  simp [hempty, hdot]

theorem pathOf_names {parts : List Str} (h : ∀ part ∈ parts, OrdinaryName part) :
    Path.names (pathOf parts) = parts.map asBytes := by
  induction parts using List.reverseRecOn with
  | nil => rfl
  | append_singleton parts part ih =>
      have hbefore := ih (fun other hmem => h other (List.mem_append_left _ hmem))
      have hlast := h part (List.mem_append_right _ List.mem_cons_self)
      unfold pathOf at hbefore ⊢
      rw [List.foldl_append, List.map_append, List.foldl_cons, List.foldl_nil, Path.names_join,
        hbefore, hlast.names]
      rfl

/-- A path that is there already keeps its components when a relative one is joined. -/
theorem Path.components_join {self : Path} (hself : self.head? = some 0x2F) (relative : Path) :
    (self.join relative).components = self.components ++ relative.names := by
  have hhead : (self.join relative).head? = some 0x2F := by
    unfold join
    split_ifs
    all_goals rw [List.head?_append, hself]; rfl
  have hjoin := Path.names_join self relative
  unfold components
  dsimp only
  rw [if_pos hhead, if_pos hself, List.cons_append]
  exact congrArg _ hjoin

/-! ## §3. The root. -/

/-- `fs::canonicalize` gives an absolute path without symbolic links: its own canonical
path. -/
structure FileSystem.Canonical (fs : FileSystem) : Prop where
  absolute : ∀ path canonical, fs.canonicalize path = .ok canonical →
    canonical.head? = some 0x2F
  settled : ∀ path canonical, fs.canonicalize path = .ok canonical →
    fs.canonicalize canonical = .ok canonical

/-- The path is the base or below it, component by component. -/
def Path.Under (self base : Path) : Prop := base.components <+: self.components

theorem Path.startsWith_iff {self base : Path} : self.startsWith base = true ↔ self.Under base :=
  List.isPrefixOf_iff_prefix

/-- The paths that are canonicalized for a target: its own, and the index file's where
that is a directory. -/
inductive LooksUp (fs : FileSystem) (root : Path) (parts : List Str) : Path → Prop
  | target : LooksUp fs root parts (root.join (pathOf parts))
  | index {candidate : Path} {metadata : Metadata}
      (hfound : resolveUnder fs root (root.join (pathOf parts)) = .ok (candidate, metadata))
      (hdir : metadata.isDir = true) :
      LooksUp fs root parts (candidate.join (asBytes "index.html".toList))

section Resolved

variable {fs : FileSystem} {root path : Path}

theorem resolveUnder_eq_ok {candidate : Path} {metadata : Metadata}
    (h : resolveUnder fs root path = .ok (candidate, metadata)) :
    fs.canonicalize path = .ok candidate ∧ candidate.Under root
      ∧ fs.metadata candidate = .ok metadata := by
  unfold resolveUnder at h
  cases hpath : fs.canonicalize path with
  | error kind =>
      rw [hpath] at h
      cases h
  | ok found =>
      rw [hpath] at h
      dsimp only [mapErr] at h
      split_ifs at h with hunder
      have hinside : found.startsWith root = true := by simpa using hunder
      cases hmetadata : fs.metadata found with
      | error kind =>
          rw [hmetadata] at h
          cases h
      | ok data =>
          rw [hmetadata] at h
          obtain ⟨rfl, rfl⟩ := Prod.mk.inj (Except.ok.inj h)
          exact ⟨rfl, Path.startsWith_iff.mp hinside, hmetadata⟩

/-- A look-up that ends outside the root is refused. -/
theorem resolveUnder_outside {candidate : Path} (h : fs.canonicalize path = .ok candidate)
    (hout : ¬ candidate.Under root) : resolveUnder fs root path = .error .forbidden := by
  have hstarts : candidate.startsWith root = false := by
    rw [Bool.eq_false_iff]
    exact fun hstarts => hout (Path.startsWith_iff.mp hstarts)
  unfold resolveUnder
  rw [h]
  show (if !candidate.startsWith root then _ else _) = _
  rw [hstarts]
  rfl

/-- The steps of a resolution that succeeds. -/
theorem resolveStaticPath_eq_ok {raw : Str} {metadata : Metadata}
    (h : resolveStaticPath fs root raw = .ok (path, metadata)) :
    metadata.isFile = true
      ∧ ∃ canonicalRoot lookup, fs.canonicalize root = .ok canonicalRoot
        ∧ resolveUnder fs canonicalRoot lookup = .ok (path, metadata) := by
  unfold resolveStaticPath at h
  obtain ⟨target, htarget, h⟩ := bind_eq_ok h
  obtain ⟨canonicalRoot, hroot, h⟩ := bind_eq_ok h
  obtain ⟨parts, hparts, h⟩ := bind_eq_ok h
  obtain ⟨⟨candidate, found⟩, hunder, h⟩ := bind_eq_ok h
  obtain ⟨⟨last, data⟩, hindex, h⟩ := bind_eq_ok h
  dsimp only at hindex h
  split_ifs at h with hfile
  obtain ⟨rfl, rfl⟩ := Prod.mk.inj (Except.ok.inj h)
  refine ⟨by simpa using hfile, canonicalRoot, ?_⟩
  unfold resolveIndex at hindex
  split_ifs at hindex with hdir
  · exact ⟨_, mapErr_eq_ok.mp hroot, hindex⟩
  · obtain ⟨rfl, rfl⟩ := Prod.mk.inj (Except.ok.inj hindex)
    exact ⟨_, mapErr_eq_ok.mp hroot, hunder⟩

/-- A resolution up to its look-ups. -/
theorem resolveStaticPath_lookups {raw : Str} {target : RequestTarget} {parts : List Str}
    {canonicalRoot : Path} (htarget : parseRequestTarget raw = .ok target)
    (hparts : relativePath target.path = .ok parts)
    (hroot : fs.canonicalize root = .ok canonicalRoot) :
    resolveStaticPath fs root raw
      = (resolveUnder fs canonicalRoot (canonicalRoot.join (pathOf parts))).bind (fun found =>
          (resolveIndex fs canonicalRoot found.1 found.2).bind (fun found =>
            if !found.2.isFile then .error .notFound else .ok found)) := by
  unfold resolveStaticPath
  rw [htarget, hroot]
  show (relativePath target.path).bind _ = _
  rw [hparts]
  rfl

/-- A look-up whose path leads out of the root ends the resolution. -/
theorem LooksUp.refused {raw : Str} {target : RequestTarget} {parts : List Str}
    {canonicalRoot lookup candidate : Path} (h : LooksUp fs canonicalRoot parts lookup)
    (htarget : parseRequestTarget raw = .ok target)
    (hparts : relativePath target.path = .ok parts)
    (hroot : fs.canonicalize root = .ok canonicalRoot)
    (hlookup : fs.canonicalize lookup = .ok candidate) (hout : ¬ candidate.Under canonicalRoot) :
    resolveStaticPath fs root raw = .error .forbidden := by
  rw [resolveStaticPath_lookups htarget hparts hroot]
  cases h with
  | target =>
      rw [resolveUnder_outside hlookup hout]
      rfl
  | index hfound hdir =>
      rw [hfound]
      show (resolveIndex _ _ _ _).bind _ = _
      unfold resolveIndex
      rw [if_pos hdir, resolveUnder_outside hlookup hout]
      rfl

/-- No look-up leaves the root by its path. -/
theorem LooksUp.under {parts : List Str} {lookup : Path} (h : LooksUp fs root parts lookup)
    (hfs : fs.Canonical) (hroot : root.head? = some 0x2F) : lookup.Under root := by
  cases h with
  | target =>
      unfold Path.Under
      rw [Path.components_join hroot]
      exact List.prefix_append _ _
  | index hfound hdir =>
      obtain ⟨hcanonical, hunder, -⟩ := resolveUnder_eq_ok hfound
      unfold Path.Under
      rw [Path.components_join (hfs.absolute _ _ hcanonical)]
      exact hunder.trans (List.prefix_append _ _)

end Resolved

/-- **What is served lies inside the root.** The names behind the root are ordinary, for
every spelling of the target, and what a symbolic link leads out of is refused. -/
theorem static_paths_are_confined {fs : FileSystem} (hfs : fs.Canonical) (root : Path)
    (raw : Str) :
    (∀ path metadata, resolveStaticPath fs root raw = .ok (path, metadata) →
      metadata.isFile = true ∧ fs.metadata path = .ok metadata ∧ fs.canonicalize path = .ok path
        ∧ ∃ canonicalRoot, fs.canonicalize root = .ok canonicalRoot ∧ path.Under canonicalRoot)
    ∧ (∀ target, parseRequestTarget raw = .ok target →
      ∃ parts, relativePath target.path = .ok parts ∧ (∀ part ∈ parts, OrdinaryName part)
        ∧ ∀ canonicalRoot, fs.canonicalize root = .ok canonicalRoot →
          (canonicalRoot.join (pathOf parts)).components
              = canonicalRoot.components ++ parts.map asBytes
          ∧ ∀ lookup, LooksUp fs canonicalRoot parts lookup →
            lookup.Under canonicalRoot
            ∧ ∀ candidate, fs.canonicalize lookup = .ok candidate →
              ¬ candidate.Under canonicalRoot →
                resolveStaticPath fs root raw = .error .forbidden) := by
  refine ⟨?_, ?_⟩
  · intro path metadata h
    obtain ⟨hfile, canonicalRoot, lookup, hroot, hlookup⟩ := resolveStaticPath_eq_ok h
    obtain ⟨hcanonical, hunder, hmetadata⟩ := resolveUnder_eq_ok hlookup
    exact ⟨hfile, hmetadata, hfs.settled _ _ hcanonical, canonicalRoot, hroot, hunder⟩
  · intro target htarget
    obtain ⟨parts, hparts, hordinary⟩ := relativePath_ordinary htarget
    refine ⟨parts, hparts, hordinary, ?_⟩
    intro canonicalRoot hroot
    have hslash := hfs.absolute _ _ hroot
    refine ⟨?_, ?_⟩
    · rw [Path.components_join hslash, pathOf_names hordinary]
    · intro lookup hlooks
      refine ⟨hlooks.under hfs hslash, ?_⟩
      intro candidate hlookup hout
      exact hlooks.refused htarget hparts hroot hlookup hout

theorem oneFile_canonicalize {path canonical : Path}
    (h : oneFile.canonicalize path = .ok canonical) :
    path = canonical ∧ (path = asBytes "/srv".toList ∨ path = asBytes "/srv/page".toList) := by
  unfold oneFile at h
  dsimp only at h
  split_ifs at h with hpath
  exact ⟨Except.ok.inj h, hpath⟩

theorem oneFile_canonical : oneFile.Canonical where
  absolute path canonical h := by
    obtain ⟨rfl, rfl | rfl⟩ := oneFile_canonicalize h
    · rfl
    · rfl
  settled path canonical h := by
    obtain ⟨rfl, -⟩ := oneFile_canonicalize h
    exact h

theorem static_paths_are_confined_page :
    ∃ canonicalRoot, oneFile.canonicalize (asBytes "/srv".toList) = .ok canonicalRoot
      ∧ Path.Under (asBytes "/srv/page".toList) canonicalRoot :=
  ((static_paths_are_confined oneFile_canonical (asBytes "/srv".toList) "/p%61ge".toList).1
    (asBytes "/srv/page".toList) ⟨2, false, true, some 7⟩ (by decide +kernel)).2.2.2

end Thwip
