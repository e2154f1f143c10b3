/-
  Thwip.StaticFiles.Streaming — the head of a file says what its stream delivers.

  The length a head states, the part it names and the chunks of the file's thread are
  computed apart.  They agree: the chunks are the stated number of bytes, from the start
  of the part on.
-/
import Thwip.StaticFiles.Heads

namespace Thwip

open Thwip.Lib

/-! ## §1. The chunks. -/

/-- **The thread delivers the bytes it was asked for**, when the file has them. -/
theorem fileChunks_eq {contents : List UInt8} {position remaining : Nat}
    (h : remaining < 2 ^ usizeBits) (hinside : position + remaining ≤ contents.length) :
    ∃ chunks : List (List UInt8), fileChunks contents position remaining h = chunks.map some
      ∧ (∀ chunk ∈ chunks, chunk ≠ [] ∧ chunk.length ≤ streamChunkSize)
      ∧ chunks.flatten = (contents.drop position).take remaining := by
  induction remaining using Nat.strong_induction_on generalizing position with
  | _ remaining ih =>
      by_cases hne : remaining = 0
      · subst hne
        refine ⟨[], ?_, ?_, ?_⟩
        · rw [fileChunks, dif_pos rfl, List.map_nil]
        · intro chunk hmem
          cases hmem
        · rw [List.take_zero, List.flatten_nil]
      have hpos := bufferSize_pos h hne
      have hsize := bufferSize_eq h
      have hle : bufferSize usizeBits remaining ≤ remaining := by omega
      have hchunk : bufferSize usizeBits remaining ≤ streamChunkSize := by omega
      rw [fileChunks_cons h hne, if_neg (by omega)]
      obtain ⟨chunks, hchunks, hall, hflatten⟩ := ih (remaining - bufferSize usizeBits remaining)
        (by omega) (by omega)
        (show position + bufferSize usizeBits remaining + _ ≤ contents.length by omega)
      refine ⟨(contents.drop position).take (bufferSize usizeBits remaining) :: chunks, ?_, ?_, ?_⟩
      · rw [hchunks, List.map_cons]
      · intro chunk hmem
        rcases List.mem_cons.mp hmem with rfl | hmem
        · have hlength : ((contents.drop position).take (bufferSize usizeBits remaining)).length
              = bufferSize usizeBits remaining := by
            rw [List.length_take, List.length_drop]
            omega
          refine ⟨?_, by omega⟩
          intro hnil
          rw [hnil, List.length_nil] at hlength
          omega
        · exact hall chunk hmem
      · -- the bytes so far and those of the rest
        rw [List.flatten_cons, hflatten, ← List.drop_drop]
        have hsplit := (List.take_add (l := contents.drop position)
          (i := bufferSize usizeBits remaining) (j := remaining - bufferSize usizeBits remaining)).symm
        rw [Nat.add_sub_cancel' hle] at hsplit
        exact hsplit

/-! ## §2. What a head states. -/

/-- The lines of a head, as a client cuts it. -/
def headLines (head : List UInt8) : List Str := splitOnPair '\r' '\n' ((fromUtf8 head).getD [])

def StatesStatus (head : List UInt8) (status : Nat) : Prop :=
  ∃ reason, (headLines head).head?
    = some ("HTTP/1.1 ".toList ++ Nat.toDigits 10 status ++ " ".toList ++ reason)

def StatesLength (head : List UInt8) (n : Nat) : Prop :=
  "Content-Length: ".toList ++ Nat.toDigits 10 n ∈ headLines head

def StatesRange (head : List UInt8) (start last length : Nat) : Prop :=
  "Content-Range: bytes ".toList ++ Nat.toDigits 10 start ++ "-".toList
    ++ Nat.toDigits 10 last ++ "/".toList ++ Nat.toDigits 10 length ∈ headLines head

theorem toDigits_injective {n m : Nat} (h : Nat.toDigits 10 n = Nat.toDigits 10 m) : n = m := by
  rw [← Nat.ofDigitChars_toDigits (b := 10) (n := n) (by omega) (by omega), h,
    Nat.ofDigitChars_toDigits (by omega) (by omega)]

/-- The lines are read back. -/
theorem headLines_text {lines : List Str} (hlines : ∀ line ∈ lines, IsLine line) :
    headLines (asBytes (lines.flatMap (· ++ ['\r', '\n']) ++ closeLine
      ++ ['\r', '\n', '\r', '\n'])) = lines ++ [closeLine, [], []] := by
  have htext : lines.flatMap (· ++ ['\r', '\n']) ++ closeLine ++ ['\r', '\n', '\r', '\n']
      = (lines ++ [closeLine, []]).flatMap (· ++ ['\r', '\n']) ++ [] := by
    simp only [List.flatMap_append, List.flatMap_cons, List.flatMap_nil, List.append_assoc,
      List.append_nil, List.nil_append, List.cons_append]
  have hclean : ∀ line ∈ lines ++ [closeLine, []], '\r' ∉ line := by
    intro line hmem
    rcases List.mem_append.mp hmem with hmem | hmem
    · exact (hlines line hmem).1
    · simp only [List.mem_cons, List.not_mem_nil, or_false] at hmem
      rcases hmem with rfl | rfl
      · exact closeLine_isLine.1
      · simp
  unfold headLines
  rw [fromUtf8_asBytes, Option.getD_some, htext,
    splitOnPair_lines [] (by simp) _ hclean, List.append_assoc]
  rfl

section Stated

variable {contentType etag : Str} {length : Nat} {part : Part}

/-- The one length a file's head states. -/
theorem statesLength_fileHead (htype : '\r' ∉ contentType) (hetag : '\r' ∉ etag) {n : Nat} :
    StatesLength (asBytes (fileHead contentType etag length part)) n
      ↔ n = part.responseLength length := by
  unfold StatesLength
  rw [fileHead_eq, headLines_text (fileLines_isLine htype hetag)]
  constructor
  · intro hmem
    rcases List.mem_append.mp hmem with hmem | hmem
    · rcases List.mem_append.mp hmem with hmem | hmem
      · simp only [List.mem_cons, List.not_mem_nil, or_false] at hmem
        rcases hmem with h | h | h | h | h | h
        · have h1 : "C".toList = "H".toList := congrArg (List.take 1) h
          exact absurd h1 (by decide)
        · have h9 : "Content-L".toList = "Content-T".toList := congrArg (List.take 9) h
          exact absurd h9 (by decide)
        · exact toDigits_injective (List.append_cancel_left h)
        · have h1 : "C".toList = "A".toList := congrArg (List.take 1) h
          exact absurd h1 (by decide)
        · have h1 : "C".toList = "E".toList := congrArg (List.take 1) h
          exact absurd h1 (by decide)
        · have h2 : "Co".toList = "Ca".toList := congrArg (List.take 2) h
          exact absurd h2 (by decide)
      · split_ifs at hmem
        · have h9 : "Content-L".toList = "Content-R".toList :=
            congrArg (List.take 9) (List.mem_singleton.mp hmem)
          exact absurd h9 (by decide)
        · cases hmem
    · simp only [List.mem_cons, List.not_mem_nil, or_false] at hmem
      rcases hmem with h | h | h
      · have h4 : "Cont".toList = "Conn".toList := congrArg (List.take 4) h
        exact absurd h4 (by decide)
      · cases h
      · cases h
  · intro h
    rw [h]
    exact List.mem_append_left _ (List.mem_append_left _
      (List.mem_cons_of_mem _ (List.mem_cons_of_mem _ List.mem_cons_self)))

theorem statesStatus_fileHead (htype : '\r' ∉ contentType) (hetag : '\r' ∉ etag) :
    StatesStatus (asBytes (fileHead contentType etag length part)) part.status := by
  unfold StatesStatus
  rw [fileHead_eq, headLines_text (fileLines_isLine htype hetag)]
  exact ⟨_, rfl⟩

theorem statesRange_fileHead (htype : '\r' ∉ contentType) (hetag : '\r' ∉ etag)
    (hstatus : part.status = 206) :
    StatesRange (asBytes (fileHead contentType etag length part)) part.start part.last length := by
  unfold StatesRange
  rw [fileHead_eq, headLines_text (fileLines_isLine htype hetag)]
  apply List.mem_append_left
  apply List.mem_append_right
  rw [if_pos hstatus]
  exact List.mem_cons_self

end Stated

theorem statesStatus_notModified {etag : Str} (h : '\r' ∉ etag) :
    StatesStatus (asBytes (notModifiedHead etag)) 304 := by
  unfold StatesStatus
  rw [notModifiedHead_eq, headLines_text (notModifiedLines_isLine h)]
  exact ⟨"Not Modified".toList, rfl⟩

/-- A head states one status of three digits. -/
theorem StatesStatus.unique {head : List UInt8} {status₁ status₂ : Nat}
    (h₁ : StatesStatus head status₁) (h₂ : StatesStatus head status₂)
    (hthree₁ : (Nat.toDigits 10 status₁).length = 3)
    (hthree₂ : (Nat.toDigits 10 status₂).length = 3) : status₁ = status₂ := by
  have hfirst : ∀ digits reason : Str, digits.length = 3 →
      ("HTTP/1.1 ".toList ++ digits ++ " ".toList ++ reason).take 12
        = "HTTP/1.1 ".toList ++ digits := by
    intro digits reason hdigits
    have hnine : "HTTP/1.1 ".toList.length = 9 := rfl
    rw [List.append_assoc]
    apply List.take_left'
    rw [List.length_append]
    omega
  obtain ⟨reason₁, h₁⟩ := h₁
  obtain ⟨reason₂, h₂⟩ := h₂
  have htake := congrArg (List.take 12) (Option.some.inj (h₁.symm.trans h₂))
  rw [hfirst _ _ hthree₁, hfirst _ _ hthree₂] at htake
  exact toDigits_injective (List.append_cancel_left htake)

/-! ## §3. The stream behind the head. -/

/-- The part that is sent: the whole file, or a range that lies inside it. -/
theorem part_of_range {request : RequestHead} {length : Nat} {range : Option (Nat × Nat)}
    (h : requestedRange request length = .ok range) (hlength : length < 2 ^ usizeBits) :
    (Part.of length range).start + (Part.of length range).responseLength length ≤ length
      ∧ ((Part.of length range).status = 200 ∧ (Part.of length range).start = 0
          ∧ (Part.of length range).responseLength length = length
        ∨ (Part.of length range).status = 206
          ∧ (Part.of length range).start ≤ (Part.of length range).last
          ∧ (Part.of length range).last - (Part.of length range).start + 1
            = (Part.of length range).responseLength length
          ∧ (Part.of length range).last < length) := by
  unfold requestedRange at h
  cases hheader : request.headers.find? (fun header => header.name == "range".toList) with
  | none =>
      rw [hheader] at h
      injection h with h
      subst h
      have hwhole : (Part.of length none).responseLength length = length := by
        unfold Part.responseLength Part.of
        dsimp only
        split_ifs with hempty
        · omega
        · rw [Nat.mod_eq_of_lt (by omega)]
          omega
      rw [hwhole]
      exact ⟨by simp [Part.of], Or.inl ⟨rfl, rfl, rfl⟩⟩
  | some header =>
      rw [hheader] at h
      dsimp only at h
      cases hparse : parseRange header.value length with
      | error error =>
          rw [hparse] at h
          cases h
      | ok bounds =>
          obtain ⟨start, last⟩ := bounds
          rw [hparse] at h
          injection h with h
          subst h
          obtain ⟨hle, hlt⟩ := parseRange_bounds hparse
          have hpart : (Part.of length (some (start, last))).responseLength length
              = last - start + 1 := by
            unfold Part.responseLength Part.of
            dsimp only
            rw [if_neg (by omega), Nat.mod_eq_of_lt (by omega)]
          rw [hpart]
          refine ⟨?_, Or.inr ⟨rfl, hle, rfl, hlt⟩⟩
          show start + (last - start + 1) ≤ length
          omega

section Streamed

variable {fs : FileSystem} {guess : Path → Mime} {root : Path} {request : RequestHead}
variable {path : Path} {metadata : Metadata} {contents : List UInt8}
variable {response : StaticStreamResponse}

/-- A response that states 200 or 206 is a part of the file. -/
theorem partResponse_of_status
    (hmethod : request.method = "GET".toList ∨ request.method = "HEAD".toList)
    (hresolve : resolveStaticPath fs root request.target = .ok (path, metadata))
    (hresponse : staticStreamResponse fs guess root request = .ok response)
    (hstatus : StatesStatus response.head 200 ∨ StatesStatus response.head 206) :
    matchesTag request (entityTag metadata) = false
      ∧ ∃ range, requestedRange request metadata.len = .ok range
        ∧ response
          = partResponse fs guess request.method path metadata (Part.of metadata.len range) := by
  rw [staticStreamResponse_resolved hmethod hresolve] at hresponse
  by_cases htag : matchesTag request (entityTag metadata) = true
  · rw [if_pos htag] at hresponse
    injection hresponse with hresponse
    subst hresponse
    have hnot := statesStatus_notModified (entityTag_noCr metadata)
    rcases hstatus with h | h
    · exact absurd (h.unique hnot (by decide) (by decide)) (by decide)
    · exact absurd (h.unique hnot (by decide) (by decide)) (by decide)
  rw [if_neg htag] at hresponse
  refine ⟨Bool.not_eq_true _ ▸ htag, ?_⟩
  cases hrange : requestedRange request metadata.len with
  | error error =>
      rw [hrange] at hresponse
      cases hresponse
  | ok range =>
      rw [hrange] at hresponse
      injection hresponse with hresponse
      exact ⟨range, rfl, hresponse.symm⟩

/-- The chunks of a part, when the file is what it was when it was looked at. -/
theorem partResponse_chunks (guess : Path → Mime) {part : Part} (hread : fs.read path = .ok contents)
    (hlength : metadata.len = contents.length)
    (hinside : part.start + part.responseLength metadata.len ≤ metadata.len) :
    ∃ chunks : List (List UInt8),
      (partResponse fs guess "GET".toList path metadata part).stream.elim [] StaticStream.chunks
          = chunks.map some
        ∧ (∀ chunk ∈ chunks, chunk ≠ [] ∧ chunk.length ≤ streamChunkSize)
        ∧ chunks.flatten
          = (contents.drop part.start).take (part.responseLength metadata.len) := by
  by_cases hsome : part.responseLength metadata.len > 0
  · have hinside' : part.start + part.responseLength metadata.len ≤ contents.length := by omega
    have hspec := fileChunks_eq (part.responseLength_lt metadata.len) hinside'
    have hstream : (partResponse fs guess "GET".toList path metadata part).stream
        = some (spawnFileStream fs path part.start (part.responseLength metadata.len)
          (part.responseLength_lt metadata.len)) := if_pos ⟨rfl, hsome⟩
    rw [hstream, Option.elim_some]
    unfold spawnFileStream
    rw [hread]
    exact hspec
  · have hzero : part.responseLength metadata.len = 0 := by omega
    have hstream : (partResponse fs guess "GET".toList path metadata part).stream = none :=
      if_neg (fun h => hsome h.2)
    rw [hstream, hzero]
    refine ⟨[], rfl, ?_, ?_⟩
    · intro chunk hmem
      cases hmem
    · rw [List.take_zero, List.flatten_nil]

/-- **The length a head states is what its stream delivers.** -/
theorem stated_length_is_streamed
    (hresolve : resolveStaticPath fs root request.target = .ok (path, metadata))
    (hread : fs.read path = .ok contents) (hlength : metadata.len = contents.length)
    (hsize : metadata.len < 2 ^ usizeBits) (hguess : ∀ path, '\r' ∉ (guess path).essence)
    (hmethod : request.method = "GET".toList ∨ request.method = "HEAD".toList)
    (hresponse : staticStreamResponse fs guess root request = .ok response)
    (hstatus : StatesStatus response.head 200 ∨ StatesStatus response.head 206)
    {n : Nat} (hn : StatesLength response.head n) :
    ∃ start, (StatesStatus response.head 200 → start = 0 ∧ n = contents.length)
      ∧ (StatesStatus response.head 206 → ∃ last,
          StatesRange response.head start last contents.length
            ∧ start ≤ last ∧ last - start + 1 = n ∧ last < contents.length)
      ∧ (request.method = "GET".toList → ∃ chunks : List (List UInt8),
          response.stream.elim [] StaticStream.chunks = chunks.map some
            ∧ (∀ chunk ∈ chunks, chunk ≠ [] ∧ chunk.length ≤ 64 * 1024)
            ∧ chunks.flatten = (contents.drop start).take n ∧ chunks.flatten.length = n)
      ∧ (request.method = "HEAD".toList → response.stream = none
          ∧ ∃ full, staticStreamResponse fs guess root { request with method := "GET".toList }
              = .ok full ∧ full.head = response.head) := by
  have hetag := entityTag_noCr metadata
  have htype := contentType_noCr (hguess path)
  obtain ⟨htag, range, hrange, rfl⟩ :=
    partResponse_of_status hmethod hresolve hresponse hstatus
  obtain ⟨hinside, hpart⟩ := part_of_range hrange hsize
  rw [show n = (Part.of metadata.len range).responseLength metadata.len from
    (statesLength_fileHead htype hetag).mp hn]
  have hstated : StatesStatus (partResponse fs guess request.method path metadata
      (Part.of metadata.len range)).head (Part.of metadata.len range).status :=
    statesStatus_fileHead htype hetag
  refine ⟨(Part.of metadata.len range).start, ?_, ?_, ?_, ?_⟩
  · intro h
    rcases hpart with ⟨-, hstart, hwhole⟩ | ⟨hranged, -⟩
    · exact ⟨hstart, hwhole.trans hlength⟩
    · rw [hranged] at hstated
      exact absurd (h.unique hstated (by decide) (by decide)) (by decide)
  · intro h
    rcases hpart with ⟨hwhole, -⟩ | ⟨hranged, hle, hlast, hlt⟩
    · rw [hwhole] at hstated
      exact absurd (h.unique hstated (by decide) (by decide)) (by decide)
    · rw [← hlength]
      exact ⟨_, statesRange_fileHead htype hetag hranged, hle, hlast, hlt⟩
  · intro hget
    rw [hget]
    obtain ⟨chunks, hchunks, hall, hflatten⟩ :=
      partResponse_chunks guess hread hlength hinside
    refine ⟨chunks, hchunks, hall, hflatten, ?_⟩
    rw [hflatten, List.length_take, List.length_drop]
    omega
  · intro hhead
    have hnoStream : ¬ (request.method = "GET".toList
        ∧ (Part.of metadata.len range).responseLength metadata.len > 0) := by
      rintro ⟨hget, -⟩
      exact absurd (hget.symm.trans hhead) (by decide)
    refine ⟨if_neg hnoStream, partResponse fs guess "GET".toList path metadata
      (Part.of metadata.len range), ?_, rfl⟩
    have hfull : staticStreamResponse fs guess root { request with method := "GET".toList }
        = if matchesTag request (entityTag metadata) then .ok (notModified (entityTag metadata))
          else (requestedRange request metadata.len).map (fun range =>
            partResponse fs guess "GET".toList path metadata (Part.of metadata.len range)) :=
      staticStreamResponse_resolved (Or.inl rfl) hresolve
    rw [hfull, htag, hrange]
    rfl

end Streamed

theorem stated_length_is_streamed_page :
    ∃ chunks : List (List UInt8),
      (partResponse oneFile plainText "GET".toList (asBytes "/srv/page".toList)
        ⟨2, false, true, some 7⟩ (Part.of 2 none)).stream.elim [] StaticStream.chunks
          = chunks.map some
        ∧ chunks.flatten.length = 2 := by
  have hpage : resolveStaticPath oneFile (asBytes "/srv".toList) "/page".toList
      = .ok (asBytes "/srv/page".toList, ⟨2, false, true, some 7⟩) := by decide +kernel
  have hread : oneFile.read (asBytes "/srv/page".toList) = .ok [104, 105] := by decide +kernel
  have hessence : ∀ path, '\r' ∉ (plainText path).essence := by
    intro path
    show '\r' ∉ "text/plain".toList
    decide
  have hanswer : staticStreamResponse oneFile plainText (asBytes "/srv".toList)
      { method := "GET".toList, target := "/page".toList, version := .http11, headers := [] }
      = .ok (partResponse oneFile plainText "GET".toList (asBytes "/srv/page".toList)
        ⟨2, false, true, some 7⟩ (Part.of 2 none)) := by
    rw [staticStreamResponse_resolved (Or.inl rfl) hpage]
    rfl
  have hstatus : StatesStatus (partResponse oneFile plainText "GET".toList
      (asBytes "/srv/page".toList) ⟨2, false, true, some 7⟩ (Part.of 2 none)).head 200 :=
    statesStatus_fileHead (contentType_noCr (hessence _)) (entityTag_noCr _)
  have hlength : StatesLength (partResponse oneFile plainText "GET".toList
      (asBytes "/srv/page".toList) ⟨2, false, true, some 7⟩ (Part.of 2 none)).head 2 :=
    (statesLength_fileHead (contentType_noCr (hessence _)) (entityTag_noCr _)).mpr rfl
  obtain ⟨start, -, -, hget, -⟩ := stated_length_is_streamed hpage hread rfl (by decide) hessence
    (Or.inl rfl) hanswer (Or.inl hstatus) hlength
  obtain ⟨chunks, hchunks, -, -, hsum⟩ := hget rfl
  exact ⟨chunks, hchunks, hsum⟩

end Thwip
