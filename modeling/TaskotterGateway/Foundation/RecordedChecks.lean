import Mathlib.Algebra.BigOperators.Group.List.Basic
import Mathlib.Algebra.Ring.Nat
import Mathlib.Data.List.Nodup

/-! Fallible checks that share a tally. A recorded check passes from every tally under one
condition and then leaves the same marks behind. A loop over recorded checks therefore
passes exactly when each of them passes alone, and counts what they count alone.
-/

universe u v

namespace RecordedChecks

variable {ε σ : Type} {κ : Type u} {α : Type v}

-----------------------------------------------------------------------------------------
-- Verdicts in sequence
-----------------------------------------------------------------------------------------

/-- A verdict in front of a result lets through what it accepts. -/
theorem andThen_ok_iff {β : Type} {first : Except ε Unit} {second : Except ε β} {value : β}
    : (first >>= fun _ => second) = .ok value ↔ first = .ok () ∧ second = .ok value := by
  cases first with
  | error refusal => simp [bind, Except.bind]
  | ok _ => simp [bind, Except.bind]

/-- A sequence refuses with the error of one of its parts. -/
theorem andThen_error_cases {β : Type} {first : Except ε Unit} {second : Except ε β}
    {refusal : ε} (refused : (first >>= fun _ => second) = .error refusal)
    : first = .error refusal ∨ second = .error refusal := by
  cases first with
  | error other =>
      left
      exact congrArg Except.error (Except.error.inj refused)
  | ok _ =>
      right
      exact refused

/-- A guard in front of a result lets through what it does not refuse. -/
theorem unless_then_ok_iff {β : Type} {refuses : Bool} {refusal : ε} {next : Except ε β}
    {value : β}
    : (if refuses then .error refusal else next) = .ok value
      ↔ refuses = false ∧ next = .ok value := by
  cases refuses <;> simp

/-- A guard alone accepts exactly what it does not refuse. -/
theorem unless_ok_iff {refuses : Bool} {refusal : ε}
    : (if refuses then .error refusal else .ok () : Except ε Unit) = .ok ()
      ↔ refuses = false := by
  simp only [unless_then_ok_iff, and_true]

/-- Renaming its errors changes nothing about what a verdict accepts. -/
theorem mapError_ok_iff {δ : Type} {rename : δ → ε} {verdict : Except δ Unit}
    : verdict.mapError rename = .ok () ↔ verdict = .ok () := by
  cases verdict <;> simp [Except.mapError]

/-- A loop of verdicts accepts exactly when each of them accepts, by list induction. -/
theorem forM_ok_iff {subjects : List α} {verdict : α → Except ε Unit}
    : forM subjects verdict = .ok () ↔ ∀ subject ∈ subjects, verdict subject = .ok () := by
  induction subjects with
  | nil => simp [pure, Except.pure]
  | cons subject rest ih => rw [List.forM_cons, andThen_ok_iff, List.forall_mem_cons, ih]

-----------------------------------------------------------------------------------------
-- Bounded tallies
-----------------------------------------------------------------------------------------

/-- A store of counters of one capacity, all zero at first. A mark raises its counter by
one, from the last value back to zero, and the counters are all there is to the store.
-/
structure Tally (σ : Type) (κ : Type u) [DecidableEq κ] where
  empty : σ
  mark : σ → κ → σ
  read : σ → κ → Nat
  capacity : Nat
  read_empty : ∀ counter, read empty counter = 0
  read_lt : ∀ state counter, read state counter < capacity
  read_mark : ∀ state marked counter,
    read (mark state marked) counter
    = (read state counter + if marked = counter then 1 else 0) % capacity
  ext : ∀ {left right}, (∀ counter, read left counter = read right counter) → left = right

namespace Tally

variable [DecidableEq κ] (tally : Tally σ κ)

/-- The store after a list of marks. -/
def record (state : σ) (marks : List κ) : σ :=
  marks.foldl tally.mark state

@[simp]
theorem record_nil (state : σ) : tally.record state [] = state :=
  rfl

theorem record_append (state : σ) (first second : List κ)
    : tally.record state (first ++ second)
      = tally.record (tally.record state first) second := by
  simp only [record, List.foldl_append]

/-- After a list of marks each counter has counted its own marks, up to the capacity.
Witness: induction on the marks, with the first mark counted into the state.
-/
theorem read_record (state : σ) (marks : List κ) (counter : κ)
    : tally.read (tally.record state marks) counter
      = (tally.read state counter + marks.count counter) % tally.capacity := by
  induction marks generalizing state with
  | nil =>
      have bounded := tally.read_lt state counter
      simp [Nat.mod_eq_of_lt bounded]
  | cons marked rest ih =>
      have later := ih (tally.mark state marked)
      rw [tally.read_mark, Nat.mod_add_mod] at later
      rw [List.count_cons]
      have same : (if (marked == counter) = true then 1 else 0)
          = if marked = counter then 1 else 0 := by
        simp only [beq_iff_eq]
      rw [same, Nat.add_comm (List.count counter rest), ← Nat.add_assoc]
      exact later

/-- Only how often each counter is marked matters for the store that is left. -/
theorem record_perm (state : σ) {first second : List κ} (same : first.Perm second)
    : tally.record state first = tally.record state second := by
  apply tally.ext
  intro counter
  rw [read_record, read_record, same.count_eq]

end Tally

-----------------------------------------------------------------------------------------
-- Marks of a group of counters
-----------------------------------------------------------------------------------------

section Groups

variable [DecidableEq κ]

/-- How often any counter of a group is marked. -/
def countAmong (group marks : List κ) : Nat :=
  (group.map (fun counter => marks.count counter)).sum

theorem countAmong_append (group first second : List κ)
    : countAmong group (first ++ second) = countAmong group first + countAmong group second := by
  simp only [countAmong, List.count_append, List.sum_map_add]

theorem countAmong_eq_zero {group marks : List κ} (apart : ∀ counter ∈ group, counter ∉ marks)
    : countAmong group marks = 0 := by
  refine List.sum_eq_zero (fun times member => ?_)
  obtain ⟨counter, inGroup, rfl⟩ := List.mem_map.mp member
  exact List.count_eq_zero.mpr (apart counter inGroup)

/-- Subjects that only mark allowed counters mark no group outside these. -/
theorem countAmong_flatMap_eq_zero {group allowed : List κ} {subjects : List α}
    {marks : α → List κ} (marked : ∀ subject, marks subject ⊆ allowed)
    (apart : ∀ counter ∈ group, counter ∉ allowed)
    : countAmong group (subjects.flatMap marks) = 0 := by
  apply countAmong_eq_zero
  intro counter inGroup isMarked
  obtain ⟨subject, _, bySubject⟩ := List.mem_flatMap.mp isMarked
  exact apart counter inGroup (marked subject bySubject)

/-- Subjects that mark a group once or not at all mark it as often as there are subjects of
the first kind, by list induction.
-/
theorem countAmong_flatMap {group : List κ} {subjects : List α} {marks : α → List κ}
    {asked : α → Bool}
    (single : ∀ subject, countAmong group (marks subject) = if asked subject then 1 else 0)
    : countAmong group (subjects.flatMap marks) = subjects.countP asked := by
  induction subjects with
  | nil => simp [countAmong]
  | cons subject rest ih =>
      rw [List.flatMap_cons, countAmong_append, ih, single, List.countP_cons, Nat.add_comm]

end Groups

-----------------------------------------------------------------------------------------
-- Checks that only mark the tally
-----------------------------------------------------------------------------------------

/-- A computation that may fail and may change a state, and keeps its changes when it fails. -/
abbrev Check (ε σ : Type) : Type → Type :=
  ExceptT ε (StateM σ)

/-- The early return of an error in a sequence of checks. -/
def Check.failIf (fails : Bool) (refusal : ε) : Check ε σ Unit :=
  if fails then throw refusal else pure ()

/-- A check run from a state: its verdict and the state it leaves. -/
def Check.from (check : Check ε σ Unit) (state : σ) : Except ε Unit × σ :=
  check.run.run state

/-- The second check runs from what an accepting first one leaves. -/
theorem Check.from_bind (check next : Check ε σ Unit) (state : σ)
    : Check.from (check >>= fun _ => next) state
      = match (Check.from check state).1 with
        | .ok _ => Check.from next (Check.from check state).2
        | .error refusal => (.error refusal, (Check.from check state).2) := by
  unfold Check.from
  rw [ExceptT.run_bind, StateT.run_bind]
  rcases StateT.run check.run state with ⟨verdict, middle⟩
  cases verdict with
  | error refusal => rfl
  | ok _ => rfl

/-- The check passes under the condition, whatever the state, and then leaves exactly its
marks. What a refusing check leaves is not said: a loop stops there.
-/
structure Records [DecidableEq κ] (tally : Tally σ κ) (check : Check ε σ Unit)
    (condition : Prop) (marks : List κ)
    : Prop where
  passes : ∀ state, (Check.from check state).1 = .ok () ↔ condition
  leaves : condition → ∀ state, (Check.from check state).2 = tally.record state marks

namespace Records

variable [DecidableEq κ] {tally : Tally σ κ} {check next : Check ε σ Unit}
variable {condition later : Prop} {marks more : List κ}

/-- The same check, described by an equivalent condition and the same marks. -/
theorem congr (recorded : Records tally check condition marks) (same : condition ↔ later)
    (counted : marks = more)
    : Records tally check later more where
  passes state := (recorded.passes state).trans same
  leaves holds := counted ▸ recorded.leaves (same.mpr holds)

/-- A verdict that reads no state leaves no mark. -/
theorem lift {verdict : Except ε Unit} (decides : verdict = .ok () ↔ condition)
    : Records tally (liftM verdict : Check ε σ Unit) condition [] where
  passes _ := decides
  leaves _ _ := rfl

/-- A refusal may claim any marks: it never leaves them. -/
theorem refuse (refusal : ε) : Records tally (throw refusal : Check ε σ Unit) False marks where
  passes _ := ⟨fun accepted => by contradiction, False.elim⟩
  leaves impossible := impossible.elim

theorem done : Records tally (pure () : Check ε σ Unit) True [] where
  passes _ := ⟨fun _ => trivial, fun _ => rfl⟩
  leaves _ _ := rfl

theorem mark (counter : κ)
    : Records tally (modify (fun state => tally.mark state counter) : Check ε σ Unit) True
        [counter] where
  passes _ := ⟨fun _ => trivial, fun _ => rfl⟩
  leaves _ _ := rfl

/-- Recorded checks in sequence are recorded: the second one runs only from what an
accepting first one leaves.
-/
theorem andThen (first : Records tally check condition marks)
    (second : Records tally next later more)
    : Records tally (check >>= fun _ => next) (condition ∧ later) (marks ++ more) where
  passes state := by
    rw [Check.from_bind]
    cases answer : (Check.from check state).1 with
    | error refusal =>
        have refused : ¬ condition := by
          rw [← first.passes state, answer]
          simp
        simp [refused]
    | ok _ =>
        have holds : condition := (first.passes state).mp answer
        simp only [second.passes, holds, true_and]
  leaves both state := by
    obtain ⟨holds, follows⟩ := both
    rw [Check.from_bind, (first.passes state).mpr holds, first.leaves holds,
      tally.record_append]
    exact second.leaves follows _

/-- A computation that reads no state hands its one possible value to the next check. -/
theorem bindLift {β : Type} {result : Except ε β} {value : β} {following : β → Check ε σ Unit}
    (decides : ∀ found, result = .ok found ↔ condition ∧ found = value)
    (recorded : Records tally (following value) later more)
    : Records tally (liftM result >>= following) (condition ∧ later) more := by
  cases result with
  | error refusal =>
      have impossible : ¬ condition := by
        intro holds
        have accepted := (decides value).mpr ⟨holds, rfl⟩
        contradiction
      exact (refuse refusal).congr (by simp [impossible]) rfl
  | ok found =>
      obtain ⟨holds, rfl⟩ := (decides found).mp rfl
      exact recorded.congr (by simp [holds]) rfl

/-- Whichever of two recorded checks is asked, its condition and its marks apply. -/
theorem ite {laterMarks : List κ} (asked : Bool)
    (whenTrue : Records tally check condition marks)
    (whenFalse : Records tally next later laterMarks)
    : Records tally (if asked then check else next) (if asked then condition else later)
        (if asked then marks else laterMarks) := by
  cases asked with
  | true => exact whenTrue
  | false => exact whenFalse

/-- A check that is only reached by what a guard does not refuse. -/
theorem guarded (refuses : Bool) (refusal : ε) (recorded : Records tally next later more)
    : Records tally (if refuses then throw refusal else next) (refuses = false ∧ later)
        more := by
  cases refuses with
  | true => exact (refuse refusal).congr (by simp) rfl
  | false => exact recorded.congr (by simp) rfl

/-- An early return refuses its case and otherwise leaves no mark. -/
theorem failIf (fails : Bool) (refusal : ε)
    : Records tally (Check.failIf fails refusal) (fails = false) [] := by
  cases fails with
  | true => exact (refuse refusal).congr (by simp) rfl
  | false => exact done.congr (by simp) rfl

/-- A loop over recorded checks is recorded: it asks the conditions of all and leaves the
marks of all, in order. Witness: list induction.
-/
theorem each {subjects : List α} {check : α → Check ε σ Unit} {condition : α → Prop}
    {marks : α → List κ}
    (recorded : ∀ subject, Records tally (check subject) (condition subject) (marks subject))
    : Records tally (forM subjects check) (∀ subject ∈ subjects, condition subject)
        (subjects.flatMap marks) := by
  induction subjects with
  | nil => exact done.congr (by simp) rfl
  | cons subject rest ih =>
      rw [List.forM_cons, List.flatMap_cons]
      exact ((recorded subject).andThen ih).congr (by simp) rfl

end Records

-----------------------------------------------------------------------------------------
-- Loops over checks that are each known alone
-----------------------------------------------------------------------------------------

/-- A check with its condition and the marks it leaves when it passes, no counter twice. -/
structure Recording (ε : Type) [DecidableEq κ] (tally : Tally σ κ) where
  check : Check ε σ Unit
  condition : Prop
  marks : List κ
  records : Records tally check condition marks
  once : marks.Nodup

namespace Recording

variable [DecidableEq κ] {tally : Tally σ κ} {recordings : List (Recording ε tally)}

/-- What the check answers and leaves when it is the only one to run. -/
def alone (recording : Recording ε tally) : Except ε Unit × σ :=
  recording.check.from tally.empty

/-- Checks that mark no counter twice mark it at most as often as there are checks. -/
theorem count_marks_le (recordings : List (Recording ε tally)) (counter : κ)
    : (recordings.flatMap Recording.marks).count counter ≤ recordings.length := by
  induction recordings with
  | nil => simp
  | cons recording rest ih =>
      have once := List.nodup_iff_count_le_one.mp recording.once counter
      rw [List.flatMap_cons, List.count_append, List.length_cons]
      omega

/-- With room for all checks, a check that passes alone leaves its own count. -/
theorem read_alone {recording : Recording ε tally} (room : 1 < tally.capacity)
    (holds : recording.condition) (counter : κ)
    : tally.read recording.alone.2 counter = recording.marks.count counter := by
  have once := List.nodup_iff_count_le_one.mp recording.once counter
  rw [alone, recording.records.leaves holds, tally.read_record, tally.read_empty,
    Nat.zero_add, Nat.mod_eq_of_lt (by omega)]

/-- With room for all checks, the marks of all are counted without overflow. -/
theorem read_record_all (room : recordings.length < tally.capacity) (counter : κ)
    : tally.read (tally.record tally.empty (recordings.flatMap Recording.marks)) counter
      = (recordings.map (fun recording => recording.marks.count counter)).sum := by
  have few := count_marks_le recordings counter
  rw [tally.read_record, tally.read_empty, Nat.zero_add, Nat.mod_eq_of_lt (by omega),
    List.count_flatMap]
  rfl

/-- With room for all checks, the loop counts the sum of what its checks count alone. -/
theorem read_all (room : recordings.length < tally.capacity)
    (holds : ∀ recording ∈ recordings, recording.condition) (counter : κ)
    : tally.read (tally.record tally.empty (recordings.flatMap Recording.marks)) counter
      = (recordings.map (fun recording => tally.read recording.alone.2 counter)).sum := by
  rw [read_record_all room]
  congr 1
  apply List.map_congr_left
  intro recording member
  have nonempty := List.length_pos_of_mem member
  exact (read_alone (by omega) (holds recording member) counter).symm

end Recording

end RecordedChecks
