/-
  Thwip.StaticFiles.FileThread — a file's thread and the channel it sends through
  (`spawn_file_stream` and `StaticStream` of `run/slave/src/static_files.rs`).

  `spawnFileStream` is the list of the messages the thread has for its receiver.  Here
  the thread runs on its own: it opens, reads and sends one step at a time, between the
  polls of a worker, through a channel with room for two messages.  Whatever the
  interleaving, the worker polls that list.
-/
import Thwip.Lib.Pipe
import Thwip.StaticFiles.Streaming

namespace Thwip

open Thwip.Lib

/-! ## §1. The thread. -/

/-- Where the thread is in its closure. -/
inductive FileThread where
  /-- Before `File::open`. -/
  | opening
  /-- At `while remaining > 0`. -/
  | looping (contents : List UInt8) (position remaining : Nat) (h : remaining < 2 ^ usizeBits)
  /-- At `sender.send(Ok(buffer))`. -/
  | sending (contents chunk : List UInt8) (position remaining : Nat)
      (h : remaining < 2 ^ usizeBits)
  /-- At `sender.send(Err(error))`. -/
  | failing
  | stopped

/-- `sync_channel(2)` -/
def fileChannelCapacity : Nat := 2

def FileThread.next (fs : FileSystem) (path : Path) (start length : Nat)
    (h : length < 2 ^ usizeBits) : FileThread → Produces FileThread (Option (List UInt8))
  | .opening =>
      match fs.read path with
      | .error _ => .works .failing
      | .ok contents => .works (.looping contents start length h)
  | .looping contents position remaining h =>
      if remaining = 0 then .works .stopped
      else
        let size := bufferSize usizeBits remaining
        if contents.length < position + size then .works .failing
        else
          .works (.sending contents ((contents.drop position).take size) (position + size)
            (remaining - size) (Nat.lt_of_le_of_lt (Nat.sub_le _ _) h))
  | .sending contents chunk position remaining h =>
      -- the receiver is gone: `return Ok(())`
      .sends (some chunk) (.looping contents position remaining h) .stopped
  | .failing => .sends none .stopped .stopped
  | .stopped => .stops

/-- What the thread has still to send. -/
def FileThread.script (fs : FileSystem) (path : Path) (start length : Nat)
    (h : length < 2 ^ usizeBits) : FileThread → List (Option (List UInt8))
  | .opening => (spawnFileStream fs path start length h).chunks
  | .looping contents position remaining h => fileChunks contents position remaining h
  | .sending contents chunk position remaining h =>
      some chunk :: fileChunks contents position remaining h
  | .failing => [none]
  | .stopped => []

/-- The number of buffers that so many bytes take. -/
def buffersOf (bytes : Nat) : Nat := (bytes + (streamChunkSize - 1)) / streamChunkSize

/-- The steps the thread takes at most, with a receiver. -/
def FileThread.steps (length : Nat) : FileThread → Nat
  | .opening => 2 * buffersOf length + 3
  | .looping _ _ remaining _ => 2 * buffersOf remaining + 2
  | .sending _ _ _ remaining _ => 2 * buffersOf remaining + 3
  | .failing => 1
  | .stopped => 0

/-- And without one. -/
def FileThread.stepsAlone : FileThread → Nat
  | .opening => 3
  | .looping .. => 2
  | .sending .. => 1
  | .failing => 1
  | .stopped => 0

/-- A buffer less. -/
theorem buffersOf_rest {remaining : Nat} (h : remaining < 2 ^ usizeBits) (hne : remaining ≠ 0) :
    buffersOf (remaining - bufferSize usizeBits remaining) + 1 = buffersOf remaining := by
  rw [bufferSize_eq h]
  unfold buffersOf streamChunkSize
  omega

section Thread

variable {fs : FileSystem} {path : Path} {start length : Nat} {h : length < 2 ^ usizeBits}
  {p next taken refused : FileThread} {message : Option (List UInt8)}

/-- What the thread does between two messages. -/
theorem FileThread.works_cases (hworks : FileThread.next fs path start length h p = .works next) :
    (p = .opening ∧ ((∃ error, fs.read path = .error error) ∧ next = .failing
      ∨ ∃ contents, fs.read path = .ok contents ∧ next = .looping contents start length h))
    ∨ ∃ contents position remaining hrest, p = .looping contents position remaining hrest
      ∧ (remaining = 0 ∧ next = .stopped
        ∨ remaining ≠ 0 ∧ contents.length < position + bufferSize usizeBits remaining
          ∧ next = .failing
        ∨ remaining ≠ 0 ∧ ¬ contents.length < position + bufferSize usizeBits remaining
          ∧ ∃ hnext, next = .sending contents
            ((contents.drop position).take (bufferSize usizeBits remaining))
            (position + bufferSize usizeBits remaining)
            (remaining - bufferSize usizeBits remaining) hnext) := by
  cases p with
  | opening =>
      left
      refine ⟨rfl, ?_⟩
      cases hread : fs.read path with
      | error error =>
          left
          simp only [FileThread.next, hread] at hworks
          exact ⟨⟨error, rfl⟩, (Produces.works.inj hworks).symm⟩
      | ok contents =>
          right
          simp only [FileThread.next, hread] at hworks
          exact ⟨contents, rfl, (Produces.works.inj hworks).symm⟩
  | looping contents position remaining hrest =>
      right
      refine ⟨contents, position, remaining, hrest, rfl, ?_⟩
      by_cases hdone : remaining = 0
      · left
        simp only [FileThread.next, hdone, if_true] at hworks
        exact ⟨hdone, (Produces.works.inj hworks).symm⟩
      · right
        by_cases hshort : contents.length < position + bufferSize usizeBits remaining
        · left
          simp only [FileThread.next, hdone, hshort, if_true, if_false] at hworks
          exact ⟨hdone, hshort, (Produces.works.inj hworks).symm⟩
        · right
          simp only [FileThread.next, hdone, hshort, if_false] at hworks
          exact ⟨hdone, hshort, _, (Produces.works.inj hworks).symm⟩
  | sending | failing | stopped => cases hworks

/-- The messages of the thread. -/
theorem FileThread.sends_cases
    (hsends : FileThread.next fs path start length h p = .sends message taken refused) :
    (∃ contents chunk position remaining hrest,
      p = .sending contents chunk position remaining hrest ∧ message = some chunk
        ∧ taken = .looping contents position remaining hrest ∧ refused = .stopped)
    ∨ p = .failing ∧ message = none ∧ taken = .stopped ∧ refused = .stopped := by
  cases p with
  | opening =>
      simp only [FileThread.next] at hsends
      split at hsends <;> cases hsends
  | looping =>
      simp only [FileThread.next] at hsends
      split_ifs at hsends
  | sending contents chunk position remaining hrest =>
      injection hsends with hmessage htaken hrefused
      exact .inl ⟨contents, chunk, position, remaining, hrest, rfl, hmessage.symm, htaken.symm,
        hrefused.symm⟩
  | failing =>
      injection hsends with hmessage htaken hrefused
      exact .inr ⟨rfl, hmessage.symm, htaken.symm, hrefused.symm⟩
  | stopped => cases hsends

theorem FileThread.stops_iff :
    FileThread.next fs path start length h p = .stops ↔ p = .stopped := by
  constructor
  · intro hstops
    cases p with
    | opening =>
        simp only [FileThread.next] at hstops
        split at hstops <;> cases hstops
    | looping =>
        simp only [FileThread.next] at hstops
        split_ifs at hstops
    | sending | failing => cases hstops
    | stopped => rfl
  · rintro rfl
    rfl

variable (fs path start length h)

/-- **The thread sends the messages of its stream.** -/
theorem FileThread.scripted :
    Script (FileThread.next fs path start length h) (FileThread.script fs path start length h) where
  works := by
    intro p next hworks
    obtain ⟨rfl, ⟨⟨error, hread⟩, rfl⟩ | ⟨contents, hread, rfl⟩⟩ |
      ⟨contents, position, remaining, hrest, rfl, hturn⟩ := FileThread.works_cases hworks
    · show (spawnFileStream fs path start length h).chunks = [none]
      unfold spawnFileStream
      rw [hread]
    · show (spawnFileStream fs path start length h).chunks = fileChunks contents start length h
      unfold spawnFileStream
      rw [hread]
    · show fileChunks contents position remaining hrest = _
      obtain ⟨rfl, rfl⟩ | ⟨hne, hshort, rfl⟩ | ⟨hne, hthere, _, rfl⟩ := hturn
      · rw [fileChunks, dif_pos rfl]
        rfl
      · rw [fileChunks_cons hrest hne, if_pos hshort]
        rfl
      · rw [fileChunks_cons hrest hne, if_neg hthere]
        rfl
  sends := by
    intro p message taken refused hsends
    obtain ⟨_, _, _, _, _, rfl, rfl, rfl, -⟩ | ⟨rfl, rfl, rfl, -⟩ := FileThread.sends_cases hsends
    · rfl
    · rfl
  stops := by
    intro p hstops
    rw [FileThread.stops_iff.mp hstops]
    rfl

theorem FileThread.ends_alone :
    EndsAlone (FileThread.next fs path start length h) FileThread.stepsAlone where
  works := by
    intro p next hworks
    obtain ⟨rfl, ⟨-, rfl⟩ | ⟨_, -, rfl⟩⟩ | ⟨_, _, _, _, rfl, hturn⟩ := FileThread.works_cases hworks
    · show 1 < 3
      omega
    · show 2 < 3
      omega
    · show _ < 2
      obtain ⟨-, rfl⟩ | ⟨-, -, rfl⟩ | ⟨-, -, _, rfl⟩ := hturn
      · show 0 < 2
        omega
      · show 1 < 2
        omega
      · show 1 < 2
        omega
  refused := by
    intro p message taken refused hsends
    obtain ⟨_, _, _, _, _, rfl, -, -, rfl⟩ | ⟨rfl, -, -, rfl⟩ := FileThread.sends_cases hsends
    · show 0 < 1
      omega
    · show 0 < 1
      omega

/-- Each buffer takes a reading and a sending step. -/
theorem FileThread.ends :
    Ends (FileThread.next fs path start length h) (FileThread.steps length) where
  works := by
    intro p next hworks
    obtain ⟨rfl, ⟨-, rfl⟩ | ⟨_, -, rfl⟩⟩ | ⟨_, _, remaining, hrest, rfl, hturn⟩ :=
      FileThread.works_cases hworks
    · show 1 < 2 * buffersOf length + 3
      omega
    · show 2 * buffersOf length + 2 < 2 * buffersOf length + 3
      omega
    · show _ < 2 * buffersOf remaining + 2
      obtain ⟨-, rfl⟩ | ⟨-, -, rfl⟩ | ⟨hne, -, _, rfl⟩ := hturn
      · show 0 < 2 * buffersOf remaining + 2
        omega
      · show 1 < 2 * buffersOf remaining + 2
        omega
      · have hless := buffersOf_rest hrest hne
        show 2 * buffersOf (remaining - bufferSize usizeBits remaining) + 3 < _
        omega
  refused := by
    intro p message taken refused hsends
    obtain ⟨_, _, _, remaining, _, rfl, -, -, rfl⟩ | ⟨rfl, -, -, rfl⟩ :=
      FileThread.sends_cases hsends
    · show 0 < 2 * buffersOf remaining + 3
      omega
    · show 0 < 1
      omega
  taken := by
    intro p message taken refused hsends
    obtain ⟨_, _, _, remaining, _, rfl, -, rfl, -⟩ | ⟨rfl, -, rfl, -⟩ :=
      FileThread.sends_cases hsends
    · show 2 * buffersOf remaining + 2 < 2 * buffersOf remaining + 3
      omega
    · show 0 < 1
      omega

end Thread

/-! ## §2. The polls. -/

/-- The thread and its channel. -/
abbrev FileChannel := Pipe FileThread (Option (List UInt8))

/-- `StaticStream::try_next`, of what `try_recv` says; `none` is the I/O error. -/
def tryNextOf : Polled (Option (List UInt8)) → Option StaticChunk
  | .message (some bytes) => some (.data bytes)
  | .message none => none
  | .empty => some .pending
  | .disconnected => some .finished

/-- The answers of a stream that is polled again and again. -/
def StaticStream.polls : List Bool → StaticStream → List (Option StaticChunk)
  | [], _ => []
  | arrived :: later, self =>
      (self.tryNext arrived).1 :: StaticStream.polls later (self.tryNext arrived).2

/-- The thread is spawned, and then it is scheduled and polled in some order. -/
def FileChannel.run (fs : FileSystem) (path : Path) (start length : Nat)
    (h : length < 2 ^ usizeBits) (events : List PipeEvent) : FileChannel :=
  (Pipe.spawn FileThread.opening).run (FileThread.next fs path start length h)
    fileChannelCapacity events

/-- The bytes a worker got from its polls. -/
def polledBytes (answers : List (Option StaticChunk)) : List UInt8 :=
  answers.flatMap (fun answer =>
    match answer with
    | some (.data bytes) => bytes
    | _ => [])

/-- A poll of a stream is a poll of its messages. -/
theorem StaticStream.tryNext_eq (stream : StaticStream) (arrived : Bool) :
    (stream.tryNext arrived).1 = tryNextOf (pollList arrived stream.chunks).1
      ∧ (stream.tryNext arrived).2.chunks = (pollList arrived stream.chunks).2 := by
  unfold StaticStream.tryNext pollList
  cases arrived with
  | false => exact ⟨rfl, rfl⟩
  | true =>
      cases hchunks : stream.chunks with
      | nil => exact ⟨by simp [tryNextOf], by simpa using hchunks⟩
      | cons chunk rest =>
          have htail : stream.tail.chunks = rest := by
            show stream.chunks.tail = rest
            rw [hchunks]
            rfl
          cases chunk with
          | none => exact ⟨by simp [tryNextOf], by simpa using htail⟩
          | some bytes => exact ⟨by simp [tryNextOf], by simpa using htail⟩

theorem StaticStream.polls_eq (arrivals : List Bool) (stream : StaticStream) :
    stream.polls arrivals = (listAnswers arrivals stream.chunks).map tryNextOf := by
  induction arrivals generalizing stream with
  | nil => rfl
  | cons arrived arrivals ih =>
      obtain ⟨hanswer, hrest⟩ := stream.tryNext_eq arrived
      show (stream.tryNext arrived).1 :: _ = _
      rw [ih, hanswer, hrest]
      rfl

/-- The bytes of the polls are those of the messages received. -/
theorem polledBytes_map (answers : List (Polled (Option (List UInt8)))) :
    polledBytes (answers.map tryNextOf) = ((received answers).filterMap id).flatten := by
  induction answers with
  | nil => rfl
  | cons answer answers ih =>
      have hcons : received (answer :: answers) = received [answer] ++ received answers :=
        received_append [answer] answers
      rw [hcons, List.filterMap_append, List.flatten_append, ← ih]
      cases answer with
      | message chunk =>
          cases chunk with
          | none => rfl
          | some bytes =>
              show bytes ++ polledBytes (answers.map tryNextOf) = [bytes].flatten ++ _
              rw [List.flatten_singleton]
      | empty | disconnected => rfl

/-- No buffer is larger than `STREAM_CHUNK_SIZE`. -/
theorem fileChunks_length_le {contents : List UInt8} {position remaining : Nat}
    (h : remaining < 2 ^ usizeBits) :
    ∀ bytes, some bytes ∈ fileChunks contents position remaining h →
      bytes.length ≤ streamChunkSize := by
  induction remaining using Nat.strong_induction_on generalizing position with
  | _ remaining ih =>
      intro bytes hmem
      by_cases hne : remaining = 0
      · subst hne
        rw [fileChunks, dif_pos rfl] at hmem
        cases hmem
      · have hsize := bufferSize_pos h hne
        have hmost : bufferSize usizeBits remaining ≤ streamChunkSize := min_le_left _ _
        rw [fileChunks_cons h hne] at hmem
        split_ifs at hmem with hshort
        · simp at hmem
        · rcases List.mem_cons.mp hmem with hmem | hmem
          · injection hmem with hbytes
            rw [hbytes, List.length_take]
            omega
          · exact ih _ (by omega) _ bytes hmem

theorem spawnFileStream_length_le {fs : FileSystem} {path : Path} {start length : Nat}
    (h : length < 2 ^ usizeBits) {bytes : List UInt8}
    (hmem : some bytes ∈ (spawnFileStream fs path start length h).chunks) :
    bytes.length ≤ streamChunkSize := by
  unfold spawnFileStream at hmem
  split at hmem
  · simp at hmem
  · exact fileChunks_length_le h bytes hmem

/-! ## §3. Streaming. -/

section Streams

variable {fs : FileSystem} {path : Path} {start length : Nat} {h : length < 2 ^ usizeBits}

/-- The worker polls the messages of the stream. -/
theorem FileChannel.run_answers (events : List PipeEvent) :
    ∃ arrivals, (FileChannel.run fs path start length h events).answers
      = listAnswers arrivals (spawnFileStream fs path start length h).chunks :=
  Pipe.run_answers (FileThread.scripted fs path start length h) events rfl

/-- What was received, and what is still to come. -/
theorem FileChannel.run_received (events : List PipeEvent)
    (hreceiver : (FileChannel.run fs path start length h events).receiver = true) :
    received (FileChannel.run fs path start length h events).answers
        ++ (FileChannel.run fs path start length h events).rest
          (FileThread.script fs path start length h)
      = (spawnFileStream fs path start length h).chunks :=
  Pipe.run_received (FileThread.scripted fs path start length h) events hreceiver

end Streams

/-- **A file's thread is the stream of its messages**: whatever the interleaving, a worker
polls `spawnFileStream`; two buffers at most are held for it; the thread ends, also when
the worker goes away; and it never keeps a worker waiting that has taken everything. -/
theorem file_thread_is_its_stream (fs : FileSystem) (path : Path) (start length : Nat)
    (h : length < 2 ^ usizeBits) (events : List PipeEvent) :
    (∃ arrivals, (FileChannel.run fs path start length h events).answers.map tryNextOf
        = (spawnFileStream fs path start length h).polls arrivals)
      ∧ (FileChannel.run fs path start length h events).buffer.length ≤ 2
      ∧ (∀ bytes, some bytes ∈ (FileChannel.run fs path start length h events).buffer →
        bytes.length ≤ 64 * 1024)
      ∧ (Pipe.spawn FileThread.opening).stepsTaken (FileThread.next fs path start length h)
          fileChannelCapacity events ≤ 2 * buffersOf length + 3
      ∧ ((FileChannel.run fs path start length h events).buffer = [] →
        (FileChannel.run fs path start length h events).produce
          (FileThread.next fs path start length h) fileChannelCapacity = none →
        (FileChannel.run fs path start length h events).receiver = true →
        received (FileChannel.run fs path start length h events).answers
            = (spawnFileStream fs path start length h).chunks
          ∧ ((FileChannel.run fs path start length h events).poll
            (FileThread.next fs path start length h)).1 = .disconnected)
      ∧ ((FileChannel.run fs path start length h events).receiver = false → ∀ later,
        (FileChannel.run fs path start length h events).stepsTaken
          (FileThread.next fs path start length h) fileChannelCapacity later ≤ 3) := by
  have hscript := FileThread.scripted fs path start length h
  refine ⟨?_, ?_, ?_, ?_, ?_, ?_⟩
  · obtain ⟨arrivals, hanswers⟩ : ∃ arrivals, (FileChannel.run fs path start length h events).answers
        = listAnswers arrivals _ := FileChannel.run_answers events
    refine ⟨arrivals, ?_⟩
    rw [StaticStream.polls_eq, hanswers]
  · exact Pipe.run_buffer_le events (Nat.zero_le _)
  · intro bytes hmem
    exact spawnFileStream_length_le h (Pipe.run_buffer_mem hscript events hmem)
  · have hsteps : _ + (FileChannel.run fs path start length h events).producer.steps length
        ≤ 2 * buffersOf length + 3 := Pipe.run_ends (FileThread.ends fs path start length h) events
    exact (Nat.le_add_right _ _).trans hsteps
  · intro hempty hstuck hreceiver
    have hroom : 0 < fileChannelCapacity := by decide
    obtain ⟨harrived, hrest⟩ := Pipe.produce_of_empty hscript hroom hempty hstuck
    refine ⟨?_, ?_⟩
    · rw [← FileChannel.run_received events hreceiver, hrest, List.append_nil]
    · rw [(Pipe.poll_eq hscript).1, harrived, hrest]
      rfl
  · intro hgone later
    have hmost : ∀ p : FileThread, p.stepsAlone ≤ 3 := by
      intro p
      cases p <;> simp [FileThread.stepsAlone]
    have hsteps : _ + (Pipe.run (FileThread.next fs path start length h) fileChannelCapacity later
        (FileChannel.run fs path start length h events)).producer.stepsAlone
          ≤ (FileChannel.run fs path start length h events).producer.stepsAlone :=
      Pipe.run_ends_alone (FileThread.ends_alone fs path start length h) later hgone
    exact ((Nat.le_add_right _ _).trans hsteps).trans (hmost _)

theorem page_length_lt : 2 < 2 ^ usizeBits := by decide

/-- A page of two bytes, its thread scheduled and polled in turn. -/
theorem file_thread_is_its_stream_page :
    (FileChannel.run oneFile (asBytes "/srv/page".toList) 0 2 page_length_lt
        [.tryReceive, .produce, .produce, .produce, .tryReceive, .produce, .produce,
          .tryReceive]).answers.map tryNextOf
      = [some .pending, some (.data [104, 105]), some .finished]
    ∧ (FileChannel.run oneFile (asBytes "/srv/page".toList) 0 2 page_length_lt
        [.tryReceive, .produce, .produce, .produce, .tryReceive, .produce, .produce,
          .tryReceive]).buffer.length ≤ 2 :=
  ⟨by decide +kernel, (file_thread_is_its_stream oneFile (asBytes "/srv/page".toList) 0 2
    page_length_lt [.tryReceive, .produce, .produce, .produce, .tryReceive, .produce, .produce,
      .tryReceive]).2.1⟩

section Received

variable {fs : FileSystem} {guess : Path → Mime} {root : Path} {request : RequestHead}
  {response : StaticStreamResponse} {path : Path} {metadata : Metadata} {contents : List UInt8}

/-- The messages of a thread whose file has the range. -/
theorem received_bytes {start length : Nat} {h : length < 2 ^ usizeBits}
    (hread : fs.read path = .ok contents) (hinside : start + length ≤ contents.length)
    (events : List PipeEvent) :
    polledBytes ((FileChannel.run fs path start length h events).answers.map tryNextOf)
        <+: (contents.drop start).take length
      ∧ none ∉ (FileChannel.run fs path start length h events).answers.map tryNextOf
      ∧ (some .finished ∈ (FileChannel.run fs path start length h events).answers.map tryNextOf →
        polledBytes ((FileChannel.run fs path start length h events).answers.map tryNextOf)
          = (contents.drop start).take length) := by
  obtain ⟨chunks, hchunks, -, hflatten⟩ := fileChunks_eq h hinside
  have hstream : (spawnFileStream fs path start length h).chunks = chunks.map some := by
    rw [← hchunks]
    unfold spawnFileStream
    rw [hread]
  obtain ⟨arrivals, hanswers⟩ : ∃ arrivals, (FileChannel.run fs path start length h events).answers
      = listAnswers arrivals _ := FileChannel.run_answers events
  rw [hstream] at hanswers
  have hbytes : ∀ buffers : List (List UInt8),
      ((buffers.map some).filterMap id).flatten = buffers.flatten := by
    intro buffers
    rw [List.filterMap_map]
    simp
  obtain ⟨later, hlater⟩ := received_listAnswers arrivals (chunks.map some)
  rw [← hanswers] at hlater
  obtain ⟨taken, rest, hsplit, htaken, hrest⟩ := List.map_eq_append_iff.mp hlater.symm
  refine ⟨?_, ?_, ?_⟩
  · rw [polledBytes_map, ← htaken, hbytes, ← hflatten, hsplit, List.flatten_append]
    exact List.prefix_append _ _
  · intro hnone
    obtain ⟨answer, hmem, hanswer⟩ := List.mem_map.mp hnone
    -- only an error is answered so
    have hreceived : (none : Option (List UInt8))
        ∈ received (FileChannel.run fs path start length h events).answers := by
      apply List.mem_filterMap.mpr
      refine ⟨answer, hmem, ?_⟩
      cases answer with
      | message chunk =>
          cases chunk with
          | none => rfl
          | some bytes => cases hanswer
      | empty | disconnected => cases hanswer
    rw [← htaken] at hreceived
    obtain ⟨_, _, hcontra⟩ := List.mem_map.mp hreceived
    cases hcontra
  · intro hfinished
    obtain ⟨answer, hmem, hanswer⟩ := List.mem_map.mp hfinished
    have hend : answer = .disconnected := by
      cases answer with
      | message chunk => cases chunk <;> cases hanswer
      | empty => cases hanswer
      | disconnected => rfl
    rw [hend, hanswers] at hmem
    have hall := received_of_end hmem
    rw [polledBytes_map, hanswers, hall, hbytes, hflatten]

/-- **A worker that polls to the end has what the head states**: the thread of a `GET`
response delivers, to polls that come at any time, nothing but the stated bytes of the
file, and all of them before its end. -/
theorem polled_body_is_the_stated_one (hget : request.method = "GET".toList)
    (hresolve : resolveStaticPath fs root request.target = .ok (path, metadata))
    (hread : fs.read path = .ok contents) (hlength : metadata.len = contents.length)
    (hsize : metadata.len < 2 ^ usizeBits) (hguess : ∀ path, '\r' ∉ (guess path).essence)
    (hresponse : staticStreamResponse fs guess root request = .ok response)
    (hstatus : StatesStatus response.head 200 ∨ StatesStatus response.head 206)
    {n : Nat} (hn : StatesLength response.head n) :
    (n = 0 → response.stream = none)
      ∧ (n ≠ 0 → ∃ start, ∃ h : n < 2 ^ usizeBits,
        response.stream = some (spawnFileStream fs path start n h)
          ∧ (StatesStatus response.head 200 → start = 0 ∧ n = contents.length)
          ∧ (StatesStatus response.head 206 → ∃ last,
            StatesRange response.head start last contents.length ∧ last - start + 1 = n)
          ∧ ∀ events,
            polledBytes ((FileChannel.run fs path start n h events).answers.map tryNextOf)
                <+: (contents.drop start).take n
              ∧ none ∉ (FileChannel.run fs path start n h events).answers.map tryNextOf
              ∧ (some .finished ∈ (FileChannel.run fs path start n h events).answers.map tryNextOf →
                (polledBytes ((FileChannel.run fs path start n h events).answers.map
                  tryNextOf)).length = n)) := by
  have hetag := entityTag_noCr metadata
  have htype := contentType_noCr (hguess path)
  obtain ⟨-, range, hrange, rfl⟩ :=
    partResponse_of_status (Or.inl hget) hresolve hresponse hstatus
  obtain ⟨hinside, hpart⟩ := part_of_range hrange hsize
  have hstated : StatesStatus (partResponse fs guess request.method path metadata
      (Part.of metadata.len range)).head (Part.of metadata.len range).status :=
    statesStatus_fileHead htype hetag
  have hlen : n = (Part.of metadata.len range).responseLength metadata.len :=
    (statesLength_fileHead htype hetag).mp hn
  subst hlen
  refine ⟨?_, ?_⟩
  · intro hzero
    apply if_neg
    rintro ⟨-, hpos⟩
    omega
  · intro hne
    refine ⟨(Part.of metadata.len range).start, Part.responseLength_lt _ _, ?_, ?_, ?_, ?_⟩
    · exact if_pos ⟨hget, Nat.pos_of_ne_zero hne⟩
    · intro h
      rcases hpart with ⟨-, hstart, hwhole⟩ | ⟨hranged, -⟩
      · exact ⟨hstart, hwhole.trans hlength⟩
      · rw [hranged] at hstated
        exact absurd (h.unique hstated (by decide) (by decide)) (by decide)
    · intro h
      rcases hpart with ⟨hwhole, -⟩ | ⟨hranged, -, hlast, -⟩
      · rw [hwhole] at hstated
        exact absurd (h.unique hstated (by decide) (by decide)) (by decide)
      · rw [← hlength]
        exact ⟨_, statesRange_fileHead htype hetag hranged, hlast⟩
    · intro events
      have hwithin := hinside.trans_eq hlength
      obtain ⟨hreceived, hnone, hall⟩ := received_bytes
        (h := (Part.of metadata.len range).responseLength_lt metadata.len) hread hwithin events
      refine ⟨hreceived, hnone, ?_⟩
      intro hfinished
      rw [hall hfinished, List.length_take, List.length_drop]
      omega

end Received

/-- The worker polls early, then after each message of the thread. -/
def pollsToTheEnd : List PipeEvent :=
  [.tryReceive, .produce, .produce, .produce, .tryReceive, .produce, .produce, .tryReceive]

/-- The page asked for, and its thread run to the end. -/
theorem polled_body_is_the_stated_one_page :
    ∃ start, ∃ h : 2 < 2 ^ usizeBits,
      (partResponse oneFile plainText "GET".toList (asBytes "/srv/page".toList)
          ⟨2, false, true, some 7⟩ (Part.of 2 none)).stream
        = some (spawnFileStream oneFile (asBytes "/srv/page".toList) start 2 h)
      ∧ some .finished ∈ (FileChannel.run oneFile (asBytes "/srv/page".toList) start 2 h
          pollsToTheEnd).answers.map tryNextOf
      ∧ (polledBytes ((FileChannel.run oneFile (asBytes "/srv/page".toList) start 2 h
          pollsToTheEnd).answers.map tryNextOf)).length = 2 := by
  have hpage : resolveStaticPath oneFile (asBytes "/srv".toList) "/page".toList
      = .ok (asBytes "/srv/page".toList, ⟨2, false, true, some 7⟩) := by decide +kernel
  have hread : oneFile.read (asBytes "/srv/page".toList) = .ok [104, 105] := by decide +kernel
  have hessence : ∀ path, '\r' ∉ (plainText path).essence := by
    intro path
    show '\r' ∉ "text/plain".toList
    decide
  have hanswer : staticStreamResponse oneFile plainText (asBytes "/srv".toList)
      { method := "GET".toList, target := "/page".toList, version := .http11, headers := [] }
      = .ok (partResponse oneFile plainText "GET".toList (asBytes "/srv/page".toList)
        ⟨2, false, true, some 7⟩ (Part.of 2 none)) := by
    rw [staticStreamResponse_resolved (Or.inl rfl) hpage]
    rfl
  have hstatus : StatesStatus (partResponse oneFile plainText "GET".toList
      (asBytes "/srv/page".toList) ⟨2, false, true, some 7⟩ (Part.of 2 none)).head 200 :=
    statesStatus_fileHead (contentType_noCr (hessence _)) (entityTag_noCr _)
  have hlength : StatesLength (partResponse oneFile plainText "GET".toList
      (asBytes "/srv/page".toList) ⟨2, false, true, some 7⟩ (Part.of 2 none)).head 2 :=
    (statesLength_fileHead (contentType_noCr (hessence _)) (entityTag_noCr _)).mpr rfl
  have hstreams := polled_body_is_the_stated_one rfl hpage hread rfl (by decide) hessence hanswer
    (Or.inl hstatus) hlength
  obtain ⟨start, h, hstream, hwhole, -, hpolls⟩ := hstreams.2 (by decide)
  obtain ⟨rfl, -⟩ := hwhole hstatus
  have hfinished : some .finished ∈ (FileChannel.run oneFile (asBytes "/srv/page".toList) 0 2
      page_length_lt pollsToTheEnd).answers.map tryNextOf := by
    decide +kernel
  exact ⟨0, h, hstream, hfinished, (hpolls pollsToTheEnd).2.2 hfinished⟩

end Thwip
