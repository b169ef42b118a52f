import Mathlib.Algebra.Ring.Nat
import Mathlib.Data.List.Basic
import TaskotterGateway.Provider.FakeAdapter

/-! A stream tells what the completion of its request is, item by item. The two code paths
compute the answer separately; the frames of the one are derived here from the other.
-/

namespace TaskotterGateway.Provider

open Text Contracts RecordedChecks FakeProviderAdapter

-----------------------------------------------------------------------------------------
-- The transcript of a completion
-----------------------------------------------------------------------------------------

/-- What one frame tells, without its number and its request. -/
inductive StreamItem where
  | start
  | contentDelta (word : String)
  | usageDelta (usage : UsageMeasurement)
  | final (usage : UsageMeasurement)
  | failure (error : NormalizedError)
  deriving DecidableEq, Repr

namespace StreamItem

/-- The frame that tells an item of a request under a number. -/
def frame (requestId : String) (sequence : UInt32) : StreamItem → StreamFrame
  | .start =>
      { requestId, sequence, frameType := .start, delta := none, usage := none, error := none }
  | .contentDelta word =>
      {
        requestId
        sequence
        frameType := .contentDelta
        delta := some word
        usage := none
        error := none
      }
  | .usageDelta usage =>
      {
        requestId
        sequence
        frameType := .usageDelta
        delta := none
        usage := some usage
        error := none
      }
  | .final usage =>
      {
        requestId
        sequence
        frameType := .final
        delta := none
        usage := some usage
        error := none
      }
  | .failure error =>
      {
        requestId
        sequence
        frameType := .error
        delta := none
        usage := none
        error := some error
      }

@[simp]
theorem frame_sequence (requestId : String) (sequence : UInt32) (item : StreamItem)
    : (item.frame requestId sequence).sequence = sequence := by
  cases item <;> rfl

end StreamItem

/-- The items of a completed answer: its words, then its usage twice. -/
def transcriptOf (response : ModelResponse) : List StreamItem :=
  .start :: (splitWhitespace response.content).map .contentDelta
  ++ [.usageDelta response.usage, .final response.usage]

/-- The items of a failed answer. -/
def transcriptOfFailure (error : NormalizedError) : List StreamItem :=
  [.start, .failure error]

/-- The items of a completion, in the order in which they are told. -/
def transcript : Except NormalizedError ModelResponse → List StreamItem
  | .ok response => transcriptOf response
  | .error error => transcriptOfFailure error

/-- The frames of a list of items, numbered by their places from a first number on. -/
def framesFrom (requestId : String) (first : Nat) (items : List StreamItem)
    : List StreamFrame :=
  items.mapIdx (fun place item => item.frame requestId (UInt32.ofNat (place + first)))

/-- The frames of a whole transcript. -/
def framesOf (requestId : String) (items : List StreamItem) : List StreamFrame :=
  framesFrom requestId 0 items

theorem framesFrom_cons (requestId : String) (first : Nat) (item : StreamItem)
    (items : List StreamItem)
    : framesFrom requestId first (item :: items)
      = item.frame requestId (UInt32.ofNat first)
        :: framesFrom requestId (first + 1) items := by
  simp only [framesFrom, List.mapIdx_cons, Nat.zero_add, Nat.add_assoc, Nat.add_comm 1 first]

theorem framesFrom_append (requestId : String) (first : Nat) (items more : List StreamItem)
    : framesFrom requestId first (items ++ more)
      = framesFrom requestId first items
        ++ framesFrom requestId (first + items.length) more := by
  simp only [framesFrom, List.mapIdx_append, Nat.add_left_comm, Nat.add_comm]

theorem framesFrom_words (requestId : String) (first : Nat) (words : List String)
    : framesFrom requestId first (words.map .contentDelta)
      = words.mapIdx (fun index word =>
          (StreamItem.contentDelta word).frame requestId (UInt32.ofNat (index + first))) := by
  rw [framesFrom, List.mapIdx_eq_iff]
  intro index
  simp only [List.getElem?_mapIdx, List.getElem?_map, Option.map_map, Function.comp_def]

@[simp]
theorem framesOf_length (requestId : String) (items : List StreamItem)
    : (framesOf requestId items).length = items.length :=
  List.length_mapIdx

/-- Each frame carries the number of its place, as a `u32`. -/
theorem framesOf_numbered {requestId : String} {items : List StreamItem} {place : Nat}
    {frame : StreamFrame} (atPlace : (framesOf requestId items)[place]? = some frame)
    : frame.sequence = UInt32.ofNat place := by
  rw [framesOf, framesFrom, List.getElem?_mapIdx, Option.map_eq_some_iff] at atPlace
  obtain ⟨item, _, rfl⟩ := atPlace
  exact StreamItem.frame_sequence _ _ _

/-- The answer that the fake provider completes a request with. -/
def fakeResponse (request : ScopedModelRequest) : ModelResponse where
  requestId := request.requestId
  provider := request.provider
  model := request.model
  content := deterministicContent request
  finishReason := .stop
  usage := usageFor request (deterministicContent request)

/-- The frames of an answer: its words are counted from one, and its usage follows them. -/
theorem framesOf_transcriptOf (requestId : String) (response : ModelResponse)
    : framesOf requestId (transcriptOf response)
      = StreamItem.start.frame requestId 0
        :: (splitWhitespace response.content).mapIdx (fun index word =>
            (StreamItem.contentDelta word).frame requestId (UInt32.ofNat (index + 1)))
        ++ [
          (StreamItem.usageDelta response.usage).frame requestId
            (UInt32.ofNat ((splitWhitespace response.content).length + 1)),
          (StreamItem.final response.usage).frame requestId
            (UInt32.ofNat ((splitWhitespace response.content).length + 2))
        ] := by
  rw [framesOf, transcriptOf, List.cons_append, framesFrom_cons, framesFrom_append,
    framesFrom_words, framesFrom_cons, framesFrom_cons, List.length_map, Nat.zero_add,
    Nat.add_comm 1, Nat.add_assoc]
  rfl

theorem triggersRateLimit_iff {request : ScopedModelRequest}
    : triggersRateLimit request = true
      ↔ ∃ message ∈ request.messages,
          contains message.content "error:rate_limit" = true := by
  rw [triggersRateLimit, List.any_eq_true]

/-- Within the boundary a request is completed unless it asks for the rate limit. -/
theorem complete_of_boundary {request : ScopedModelRequest}
    (boundary : request.validateBoundary = .ok ())
    : complete request
      = if triggersRateLimit request then
          .error rateLimitError
        else
          .ok (fakeResponse request) := by
  rw [complete, boundary]
  rfl

/-- A request that asks for the rate limit gets it. -/
theorem complete_of_asked {request : ScopedModelRequest}
    (boundary : request.validateBoundary = .ok ())
    (asked : ∃ message ∈ request.messages, contains message.content "error:rate_limit" = true)
    : complete request = .error rateLimitError := by
  rw [complete_of_boundary boundary, triggersRateLimit_iff.mpr asked, if_pos rfl]

/-- Any other request gets an answer. -/
theorem complete_of_unasked {request : ScopedModelRequest}
    (boundary : request.validateBoundary = .ok ())
    (unasked : ¬ ∃ message ∈ request.messages,
      contains message.content "error:rate_limit" = true)
    : complete request = .ok (fakeResponse request) := by
  rw [complete_of_boundary boundary, if_neg (mt triggersRateLimit_iff.mp unasked)]

/-- The stream of a request within the boundary is the transcript of its completion, frame
for frame. Witness: one case for each branch, which both code paths take alike.
-/
theorem stream_of_boundary {request : ScopedModelRequest}
    (boundary : request.validateBoundary = .ok ())
    : stream request = .ok (framesOf request.requestId (transcript (complete request))) := by
  rw [complete_of_boundary boundary, stream, boundary]
  cases triggersRateLimit request with
  | true => rfl
  | false =>
      have answer := framesOf_transcriptOf request.requestId (fakeResponse request)
      exact congrArg Except.ok answer.symm

/-- A request outside the boundary gets the same refusal on both code paths. -/
theorem refused_of_boundary {request : ScopedModelRequest} {error : NormalizedError}
    (refused : request.validateBoundary = .error error)
    : stream request = .error error ∧ complete request = .error error := by
  rw [stream, complete, refused]
  exact ⟨rfl, rfl⟩

/-- Only requests within the boundary are completed. -/
theorem boundary_of_completed {request : ScopedModelRequest} {response : ModelResponse}
    (answered : complete request = .ok response)
    : request.validateBoundary = .ok () := by
  cases boundary : request.validateBoundary with
  | ok _ => rfl
  | error error =>
      rw [(refused_of_boundary boundary).2] at answered
      contradiction

/-- Only requests within the boundary are streamed. -/
theorem boundary_of_streamed {request : ScopedModelRequest} {frames : List StreamFrame}
    (streamed : stream request = .ok frames)
    : request.validateBoundary = .ok () := by
  cases boundary : request.validateBoundary with
  | ok _ => rfl
  | error error =>
      rw [(refused_of_boundary boundary).1] at streamed
      contradiction

/-- What is streamed is the transcript of the completion. -/
theorem frames_of_streamed {request : ScopedModelRequest} {frames : List StreamFrame}
    (streamed : stream request = .ok frames)
    : frames = framesOf request.requestId (transcript (complete request)) := by
  rw [stream_of_boundary (boundary_of_streamed streamed), Except.ok.injEq] at streamed
  exact streamed.symm

-----------------------------------------------------------------------------------------
-- Words and tokens
-----------------------------------------------------------------------------------------

/-- The number of words in the messages of a request. -/
def inputWords (request : ScopedModelRequest) : Nat :=
  (request.messages.map (fun message => (splitWhitespace message.content).length)).sum

/-- The number of words in the content of its answer. -/
def outputWords (request : ScopedModelRequest) : Nat :=
  (splitWhitespace (deterministicContent request)).length

/-- An answer is never without words: it starts with a visible character. -/
theorem outputWords_pos (request : ScopedModelRequest) : 0 < outputWords request := by
  refine splitWhitespace_length_pos (c := 'f') ?_ (by decide)
  simp [deterministicContent]

/-- Token counts are added as `u32`, like the word counts that they come from. -/
theorem sum_countTokens (messages : List ModelMessage)
    : (messages.map (fun message => countTokens message.content)).sum
      = UInt32.ofNat
          (messages.map (fun message => (splitWhitespace message.content).length)).sum := by
  induction messages with
  | nil => rfl
  | cons message rest ih =>
      rw [List.map_cons, List.sum_cons, ih, List.map_cons, List.sum_cons, UInt32.ofNat_add]
      rfl

/-- A response is metered by its words and by the frames that tell them. -/
structure Metered (request : ScopedModelRequest) (response : ModelResponse)
    (frames : List StreamFrame)
    : Prop where
  deltas : response.usage.outputTokens.toNat
    = frames.countP (fun frame => frame.frameType = .contentDelta)
  nonempty : 0 < response.usage.outputTokens.toNat
  input : response.usage.inputTokens.toNat = inputWords request
  total : response.usage.totalTokens.toNat
    = response.usage.inputTokens.toNat + response.usage.outputTokens.toNat

/-- Among the frames of an answer there is one content frame for each word. -/
theorem countP_framesOf_transcriptOf (requestId : String) (response : ModelResponse)
    : (framesOf requestId (transcriptOf response)).countP
        (fun frame => frame.frameType = .contentDelta)
      = (splitWhitespace response.content).length := by
  have all : ∀ words : List String,
      (words.mapIdx (fun index word =>
        (StreamItem.contentDelta word).frame requestId (UInt32.ofNat (index + 1)))).countP
          (fun frame => frame.frameType = .contentDelta) = words.length := by
    intro words
    rw [← List.length_mapIdx, List.countP_eq_length]
    intro frame member
    obtain ⟨index, _, rfl⟩ := List.mem_mapIdx.mp member
    rfl
  rw [framesOf_transcriptOf, List.cons_append, List.countP_cons, List.countP_append, all]
  simp [StreamItem.frame]

/-- With fewer words than a `u32` counts, nothing wraps in the usage of an answer. -/
theorem fakeResponse_metered {request : ScopedModelRequest}
    (few : inputWords request + outputWords request < 2 ^ 32)
    : Metered request (fakeResponse request)
        (framesOf request.requestId (transcriptOf (fakeResponse request))) := by
  have inputBelow : inputWords request < UInt32.size :=
    Nat.lt_of_le_of_lt (Nat.le_add_right _ _) few
  have outputBelow : outputWords request < UInt32.size :=
    Nat.lt_of_le_of_lt (Nat.le_add_left _ _) few
  have input : (fakeResponse request).usage.inputTokens.toNat = inputWords request :=
    (congrArg UInt32.toNat (sum_countTokens request.messages)).trans
      (UInt32.toNat_ofNat_of_lt' inputBelow)
  have output : (fakeResponse request).usage.outputTokens.toNat = outputWords request :=
    UInt32.toNat_ofNat_of_lt' outputBelow
  refine ⟨?_, ?_, input, ?_⟩
  · rw [output, countP_framesOf_transcriptOf]
    rfl
  · rw [output]
    exact outputWords_pos request
  · have total := UInt32.toNat_add (fakeResponse request).usage.inputTokens
      (fakeResponse request).usage.outputTokens
    rw [input, output, Nat.mod_eq_of_lt few] at total
    rw [input, output]
    exact total

-----------------------------------------------------------------------------------------
-- Streams and completions agree
-----------------------------------------------------------------------------------------

/-- The frames tell these items of a request in order, whatever numbers they carry. -/
def Delivers (requestId : String) (items : List StreamItem) (frames : List StreamFrame) : Prop :=
  frames.map (fun frame => { frame with sequence := 0 })
  = items.map (StreamItem.frame requestId 0)

theorem framesOf_delivers (requestId : String) (items : List StreamItem)
    : Delivers requestId items (framesOf requestId items) := by
  unfold Delivers
  apply List.ext_getElem?
  intro place
  simp only [framesOf, framesFrom, List.getElem?_map, List.getElem?_mapIdx, Option.map_map]
  congr 1
  funext item
  cases item <;> rfl

/-- The two answers to a request agree: both are the same refusal, or the stream tells the
error of the completion, or it tells its words and its usage.
-/
structure StreamsCompletion (request : ScopedModelRequest) : Prop where
  refused : ∀ error, stream request = .error error
    ↔ request.validateBoundary = .error error
  refusedAlike : ∀ error, request.validateBoundary = .error error
    → complete request = .error error
  failed : request.validateBoundary = .ok ()
    → (∃ message ∈ request.messages, contains message.content "error:rate_limit" = true)
    → ∃ error frames, complete request = .error error
        ∧ stream request = .ok frames
        ∧ Delivers request.requestId [.start, .failure error] frames
  completed : request.validateBoundary = .ok ()
    → (¬ ∃ message ∈ request.messages, contains message.content "error:rate_limit" = true)
    → ∃ response frames, complete request = .ok response
        ∧ stream request = .ok frames
        ∧ Delivers request.requestId
            (.start :: (splitWhitespace response.content).map .contentDelta
              ++ [.usageDelta response.usage, .final response.usage])
            frames
        ∧ Metered request response frames

/-- The frames carry the numbers from zero on without a gap. -/
def Contiguous (frames : List StreamFrame) : Prop :=
  frames.map (fun frame => frame.sequence.toNat) = List.range frames.length

/-- With fewer words than a `u32` counts, the two answers agree. -/
theorem streamsCompletion_of_few {request : ScopedModelRequest}
    (few : inputWords request + outputWords request < 2 ^ 32)
    : StreamsCompletion request where
  refused error := by
    constructor
    · intro refused
      cases boundary : request.validateBoundary with
      | error other =>
          rw [(refused_of_boundary boundary).1, Except.error.injEq] at refused
          rw [refused]
      | ok _ =>
          rw [stream_of_boundary boundary] at refused
          cases refused
    · intro refused
      exact (refused_of_boundary refused).1
  refusedAlike error refused := (refused_of_boundary refused).2
  failed boundary asked := by
    have answer := complete_of_asked boundary asked
    refine ⟨rateLimitError, _, answer, stream_of_boundary boundary, ?_⟩
    rw [answer]
    exact framesOf_delivers _ _
  completed boundary unasked := by
    have answer := complete_of_unasked boundary unasked
    refine ⟨fakeResponse request, _, answer, stream_of_boundary boundary, ?_⟩
    rw [answer]
    exact ⟨framesOf_delivers _ _, fakeResponse_metered few⟩

/-- The frames of a stream number at most the words of its answer and three more. -/
theorem stream_length_le {request : ScopedModelRequest} {frames : List StreamFrame}
    (streamed : stream request = .ok frames)
    : frames.length ≤ outputWords request + 3 := by
  have boundary := boundary_of_streamed streamed
  rw [frames_of_streamed streamed, framesOf_length, complete_of_boundary boundary]
  cases triggersRateLimit request with
  | true => simp [transcript, transcriptOfFailure]
  | false => simp [transcript, transcriptOf, outputWords, fakeResponse]

/-- The number of each frame of a stream is its place, as a `u32`. -/
theorem stream_numbered {request : ScopedModelRequest} {frames : List StreamFrame}
    (streamed : stream request = .ok frames) {place : Nat} {frame : StreamFrame}
    (atPlace : frames[place]? = some frame)
    : frame.sequence = UInt32.ofNat place := by
  rw [frames_of_streamed streamed] at atPlace
  exact framesOf_numbered atPlace

/-- Places that a `u32` counts are carried without a gap. -/
theorem contiguous_of_numbered {frames : List StreamFrame} (short : frames.length ≤ 2 ^ 32)
    (numbered : ∀ place frame, frames[place]? = some frame
      → frame.sequence = UInt32.ofNat place)
    : Contiguous frames := by
  apply List.ext_getElem (by simp)
  intro place inFrames inRange
  rw [List.length_map] at inFrames
  rw [List.getElem_map, List.getElem_range,
    numbered place _ (List.getElem?_eq_getElem inFrames)]
  exact UInt32.toNat_ofNat_of_lt' (Nat.lt_of_lt_of_le inFrames short)

/-- More frames than a `u32` counts have a gap. -/
theorem Contiguous.length_le {frames : List StreamFrame} (contiguous : Contiguous frames)
    : frames.length ≤ 2 ^ 32 := by
  by_contra long
  have counted : 2 ^ 32 ∈ frames.map (fun frame => frame.sequence.toNat) := by
    rw [contiguous, List.mem_range]
    omega
  obtain ⟨frame, _, same⟩ := List.mem_map.mp counted
  have below := frame.sequence.toNat_lt
  omega

/-- With fewer words than a `u32` counts, completion and stream agree, and each frame of a
stream carries its place as a `u32`: the places themselves, if the answer leaves room for
the three frames around its words.
-/
theorem completion_and_stream_agree (request : ScopedModelRequest)
    (few : inputWords request + outputWords request < 2 ^ 32)
    : StreamsCompletion request
      ∧ ∀ frames, stream request = .ok frames
        → (∀ place frame, frames[place]? = some frame → frame.sequence = UInt32.ofNat place)
          ∧ (outputWords request < 2 ^ 32 - 2 → Contiguous frames) := by
  refine ⟨streamsCompletion_of_few few, ?_⟩
  intro frames streamed
  have numbered (place : Nat) (frame : StreamFrame) (atPlace : frames[place]? = some frame)
      : frame.sequence = UInt32.ofNat place :=
    stream_numbered streamed atPlace
  refine ⟨numbered, ?_⟩
  intro room
  have length := stream_length_le streamed
  exact contiguous_of_numbered (by omega) numbered

/-- A request of a user within the boundary, for a model, with its messages. -/
def fakeRequest (model : String) (messages : List ModelMessage) : ScopedModelRequest where
  protocolVersion := "gateway.v0.1"
  requestId := "req_fake"
  correlationId := "corr_fake"
  workingGroupId := "wg_fixture"
  actor := { actorType := .user, id := "usr_fake" }
  provider := "fake-hosted"
  model
  messages
  stream := true
  policy := .decisionRef "poldec_fake" "2026-06-01T00:00:00Z"
  credentialRef := {
    kind := .secretRef
    reference := "secret_ref_fake"
    scope := "wg_fixture/provider/fake-hosted"
  }

theorem fakeRequest_boundary (model : String) (messages : List ModelMessage)
    : (fakeRequest model messages).validateBoundary = .ok () := by
  have fixed : (fakeRequest "" []).validateBoundary = .ok () := by decide +kernel
  exact fixed

/-- A greeting to the model that the adapter supports. -/
def greetingRequest : ScopedModelRequest :=
  fakeRequest "fake-deterministic-v1" [{ role := "user", content := "hi" }]

/-- A short answer is streamed without a gap. -/
theorem completion_and_stream_agree_greeting
    : StreamsCompletion greetingRequest
      ∧ ∀ frames, stream greetingRequest = .ok frames
        → (∀ place frame, frames[place]? = some frame → frame.sequence = UInt32.ofNat place)
          ∧ (outputWords greetingRequest < 2 ^ 32 - 2 → Contiguous frames) :=
  completion_and_stream_agree greetingRequest (by decide +kernel)

/-- A model name of many words. -/
def wordyModel : Nat → String
  | 0 => "w"
  | more + 1 => "w " ++ wordyModel more

/-- Each word of the model name is a word of the answer to an empty conversation. -/
theorem outputWords_wordyModel (more : Nat)
    : outputWords (fakeRequest (wordyModel more) []) = more + 1 := by
  have tail (count : Nat) : (splitWhitespace (wordyModel count ++ ":")).length = count + 1 := by
    induction count with
    | zero => decide +kernel
    | succ count ih =>
        have split : wordyModel (count + 1) ++ ":" = "w" ++ " " ++ (wordyModel count ++ ":") := by
          simp [wordyModel, ← String.toList_inj]
        have word : (splitWhitespace "w").length = 1 := by decide +kernel
        rw [split, splitWhitespace_append_space, List.length_append, ih, word]
        omega
  have content : deterministicContent (fakeRequest (wordyModel more) [])
      = "fake:" ++ (wordyModel more ++ ":") := by
    simp [deterministicContent, fakeRequest, trim, ← String.toList_inj]
  cases more with
  | zero => decide +kernel
  | succ more =>
      have split : "fake:" ++ (wordyModel (more + 1) ++ ":")
          = "fake:w" ++ " " ++ (wordyModel more ++ ":") := by
        simp [wordyModel, ← String.toList_inj]
      have word : (splitWhitespace "fake:w").length = 1 := by decide +kernel
      rw [outputWords, content, split, splitWhitespace_append_space, List.length_append, tail,
        word]
      omega

/-- The stream of an answer has three frames more than words. -/
theorem stream_wordyModel (more : Nat)
    : ∃ frames, stream (fakeRequest (wordyModel more) []) = .ok frames
      ∧ frames.length = more + 4 := by
  have boundary := fakeRequest_boundary (wordyModel more) []
  refine ⟨_, stream_of_boundary boundary, ?_⟩
  have words := outputWords_wordyModel more
  rw [outputWords] at words
  rw [framesOf_length, complete_of_boundary boundary]
  simp [triggersRateLimit, fakeRequest, transcript, transcriptOf, fakeResponse]
  exact words

/-- The numbers wrap in an answer of 2^32 - 2 words, though a `u32` counts all its words. -/
theorem not_contiguous_stream
    : ¬ ∀ request : ScopedModelRequest,
          inputWords request + outputWords request < 2 ^ 32
          → StreamsCompletion request
            ∧ ∀ frames, stream request = .ok frames → Contiguous frames := by
  intro assumed
  obtain ⟨more, wordy⟩ : ∃ more, more = 2 ^ 32 - 3 := ⟨_, rfl⟩
  have words := outputWords_wordyModel more
  have input : inputWords (fakeRequest (wordyModel more) []) = 0 := rfl
  obtain ⟨frames, streamed, length⟩ := stream_wordyModel more
  have contiguous := (assumed (fakeRequest (wordyModel more) []) (by omega)).2 frames streamed
  have short := contiguous.length_le
  omega

end TaskotterGateway.Provider
