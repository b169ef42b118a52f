import TaskotterGateway.Provider.Streaming

/-! What a stream tells of the content of an answer: its words, one a delta. The white space
between them is not sent, so a client that joins the deltas with single spaces rebuilds the
content only up to white space.
-/

namespace TaskotterGateway.Provider

open Text Contracts FakeProviderAdapter

/-- The frames that carry content, in the order of the stream. -/
def contentFrames (frames : List StreamFrame) : List StreamFrame :=
  frames.filter (fun frame => frame.frameType == .contentDelta)

/-- The pieces of content that a stream sends. -/
def deltas (frames : List StreamFrame) : List String :=
  (contentFrames frames).filterMap StreamFrame.delta

/-- What a client makes of a stream that joins the deltas with single spaces. -/
def rebuiltContent (frames : List StreamFrame) : String :=
  joinWords (deltas frames)

/-- A stream tells the words of a content and nothing of the white space between them. -/
structure TellsWords (content : String) (frames : List StreamFrame) : Prop where
  words : deltas frames = splitWhitespace content
  ordered : (splitWhitespace content).length < 2 ^ 32
    → (contentFrames frames).Pairwise (fun earlier later => earlier.sequence < later.sequence)
  sameWords : splitWhitespace (rebuiltContent frames) = splitWhitespace content
  spaced : SingleSpaced (rebuiltContent frames)
  rebuilt : rebuiltContent frames = content ↔ SingleSpaced content

/-- Frames that a `u32` numbers are ordered by their numbers. -/
theorem framesFrom_ordered {requestId : String} {first : Nat} {items : List StreamItem}
    (few : first + items.length ≤ 2 ^ 32)
    : (framesFrom requestId first items).Pairwise
        (fun earlier later => earlier.sequence < later.sequence) := by
  rw [framesFrom, List.pairwise_iff_getElem]
  intro earlier later inEarlier inLater before
  rw [List.length_mapIdx] at inEarlier inLater
  have earlierSmall : earlier + first < UInt32.size := by
    have size : UInt32.size = 2 ^ 32 := rfl
    omega
  have laterSmall : later + first < UInt32.size := by
    have size : UInt32.size = 2 ^ 32 := rfl
    omega
  rw [List.getElem_mapIdx, List.getElem_mapIdx, StreamItem.frame_sequence,
    StreamItem.frame_sequence, UInt32.lt_iff_toNat_lt, UInt32.toNat_ofNat_of_lt' earlierSmall,
    UInt32.toNat_ofNat_of_lt' laterSmall]
  omega

/-- Every frame of a word carries content. -/
theorem contentFrames_framesFrom (requestId : String) (first : Nat) (words : List String)
    : contentFrames (framesFrom requestId first (words.map .contentDelta))
      = framesFrom requestId first (words.map .contentDelta) := by
  rw [contentFrames, List.filter_eq_self, framesFrom_words]
  intro frame member
  obtain ⟨index, _, rfl⟩ := List.mem_mapIdx.mp member
  rfl

/-- The content frames of an answer are those of its words, which are counted from one. -/
theorem contentFrames_transcriptOf (requestId : String) (response : ModelResponse)
    : contentFrames (framesOf requestId (transcriptOf response))
      = framesFrom requestId 1 ((splitWhitespace response.content).map .contentDelta) := by
  rw [framesOf, transcriptOf, List.cons_append, framesFrom_cons, framesFrom_append,
    framesFrom_cons, framesFrom_cons]
  have words := contentFrames_framesFrom requestId 1 (splitWhitespace response.content)
  rw [contentFrames] at words
  rw [contentFrames, List.filter_cons_of_neg (by simp [StreamItem.frame]), List.filter_append,
    words]
  simp [StreamItem.frame, framesFrom]

/-- The deltas of an answer are its words. -/
theorem deltas_transcriptOf (requestId : String) (response : ModelResponse)
    : deltas (framesOf requestId (transcriptOf response)) = splitWhitespace response.content := by
  have told (words : List String)
      : (framesFrom requestId 1 (words.map .contentDelta)).map StreamFrame.delta
        = words.map some := by
    apply List.ext_getElem?
    intro index
    simp only [framesFrom_words, List.getElem?_map, List.getElem?_mapIdx, Option.map_map]
    rfl
  have kept := congrArg (List.filterMap id) (told (splitWhitespace response.content))
  rw [List.filterMap_map, List.filterMap_map] at kept
  rw [deltas, contentFrames_transcriptOf]
  exact kept.trans List.filterMap_some

/-- An answer is streamed word by word. -/
theorem tellsWords_of_completed {request : ScopedModelRequest} {response : ModelResponse}
    {frames : List StreamFrame} (completed : complete request = .ok response)
    (streamed : stream request = .ok frames)
    : TellsWords response.content frames := by
  have told := frames_of_streamed streamed
  rw [completed, transcript] at told
  have words : deltas frames = splitWhitespace response.content := by
    rw [told, deltas_transcriptOf]
  constructor
  · exact words
  · intro few
    rw [told, contentFrames_transcriptOf]
    apply framesFrom_ordered
    rw [List.length_map]
    omega
  · rw [rebuiltContent, words, splitWhitespace_joinWords_splitWhitespace]
  · rw [rebuiltContent, words]
    exact singleSpaced_joinWords_splitWhitespace _
  · rw [rebuiltContent, words, joinWords_splitWhitespace_iff]

/-- Whenever a request is completed, its stream tells the words of the answer: joining the
deltas gives the content back exactly if it is singly spaced. Two answers send the same
deltas exactly if they have the same words, and singly spaced answers that differ never do.
-/
theorem stream_tellsWords (request : ScopedModelRequest) (response : ModelResponse)
    (completed : complete request = .ok response)
    : ∃ frames, stream request = .ok frames
      ∧ TellsWords response.content frames
      ∧ ∀ other answer otherFrames,
          complete other = .ok answer
          → stream other = .ok otherFrames
          → (deltas frames = deltas otherFrames
              ↔ splitWhitespace response.content = splitWhitespace answer.content)
            ∧ (SingleSpaced response.content
              → SingleSpaced answer.content
              → response.content ≠ answer.content
              → deltas frames ≠ deltas otherFrames) := by
  have streamed := stream_of_boundary (boundary_of_completed completed)
  have told := tellsWords_of_completed completed streamed
  refine ⟨_, streamed, told, ?_⟩
  intro other answer otherFrames answered otherStreamed
  have otherTold := tellsWords_of_completed answered otherStreamed
  have same : deltas (framesOf request.requestId (transcript (complete request)))
        = deltas otherFrames
      ↔ splitWhitespace response.content = splitWhitespace answer.content := by
    rw [told.words, otherTold.words]
  refine ⟨same, ?_⟩
  intro spaced otherSpaced differ sent
  exact differ (spaced.ext otherSpaced (same.mp sent))

/-- The words of an answer to a greeting are sent. -/
theorem stream_tellsWords_greeting
    : ∃ frames, stream greetingRequest = .ok frames
      ∧ TellsWords (fakeResponse greetingRequest).content frames
      ∧ ∀ other answer otherFrames,
          complete other = .ok answer
          → stream other = .ok otherFrames
          → (deltas frames = deltas otherFrames
              ↔ splitWhitespace (fakeResponse greetingRequest).content
                = splitWhitespace answer.content)
            ∧ (SingleSpaced (fakeResponse greetingRequest).content
              → SingleSpaced answer.content
              → (fakeResponse greetingRequest).content ≠ answer.content
              → deltas frames ≠ deltas otherFrames) :=
  stream_tellsWords greetingRequest (fakeResponse greetingRequest)
    (complete_of_unasked (fakeRequest_boundary _ _) (by decide +kernel))

/-- A prompt with two spaces between its words. -/
def doubleSpacedRequest : ScopedModelRequest :=
  fakeRequest "m" [{ role := "user", content := "a  b" }]

/-- The stream of a doubly spaced answer does not tell how many spaces it has. -/
theorem not_rebuilt_of_doubleSpaced
    : ¬ ∀ (request : ScopedModelRequest) (response : ModelResponse) (frames : List StreamFrame),
          complete request = .ok response
          → stream request = .ok frames
          → rebuiltContent frames = response.content := by
  intro assumed
  have completed : complete doubleSpacedRequest = .ok (fakeResponse doubleSpacedRequest) :=
    complete_of_unasked (fakeRequest_boundary _ _) (by decide +kernel)
  have streamed := stream_of_boundary (boundary_of_completed completed)
  have rebuilt := assumed doubleSpacedRequest _ _ completed streamed
  rw [rebuiltContent, (tellsWords_of_completed completed streamed).words] at rebuilt
  have lost : joinWords (splitWhitespace (fakeResponse doubleSpacedRequest).content)
      ≠ (fakeResponse doubleSpacedRequest).content := by
    decide +kernel
  exact lost rebuilt

end TaskotterGateway.Provider
