import TaskotterGateway.Simulation.Streams

/-! The numbers of the frames of an accepted provider case. The checks of some outcomes
compare each number with its position and the checks of the others do not, so that whether
a stream without gaps is all that is accepted depends on the outcome.
-/

namespace TaskotterGateway.Simulation

open Contracts RecordedChecks

/-- Each frame carries its position as its number. -/
def Positioned (frames : List StreamFrame) : Prop :=
  ∀ (index : Nat) (frame : StreamFrame),
    frames[index]? = some frame → frame.sequence.toNat = index

/-- Below 2^32 frames, a position and the `u32` that it is compared as are the same. -/
theorem positioned_of_numbered {frames : List StreamFrame} (short : frames.length < 2 ^ 32)
    (numbered : Numbered frames)
    : Positioned frames := by
  intro index frame atIndex
  have inFrames := (List.getElem?_eq_some_iff.mp atIndex).1
  rw [numbered index frame atIndex]
  exact UInt32.toNat_ofNat_of_lt' (Nat.lt_trans inFrames short)

theorem numbered_nil : Numbered [] := by
  intro index frame atIndex
  contradiction

namespace ProviderSimulationOutcome

/-- The outcomes whose check leaves no choice of numbers: those that compare each number
with its position, and the partial stream that delivered nothing.
-/
def FixesNumbers : ProviderSimulationOutcome → Prop
  | .success _ _ | .providerError _ | .malformedChunk _ => True
  | .partialStream deliveredFrames => deliveredFrames = 0
  | .timeout _ | .cancellation _ | .policyDenial _ _ | .quotaDenial _ _ _ => False

/-- Under such an outcome the rule of the frames numbers them, by cases on the outcome. -/
theorem FixesNumbers.numbered {outcome : ProviderSimulationOutcome}
    (fixes : outcome.FixesNumbers) {frames : List StreamFrame} (ruled : outcome.FrameRule frames)
    : Numbered frames := by
  cases outcome with
  | success streaming content =>
      cases streaming with
      | true => exact CompletedStream.numbered ruled
      | false =>
          obtain rfl : frames = [] := ruled
          exact numbered_nil
  | providerError error =>
      cases atEnd : frames.getLast? with
      | none =>
          rw [List.getLast?_eq_none_iff.mp atEnd]
          exact numbered_nil
      | some last => exact (ruled last atEnd).2.2
  | malformedChunk sequence => exact ruled.1
  | partialStream deliveredFrames =>
      obtain rfl : deliveredFrames = 0 := fixes
      rw [List.eq_nil_of_length_eq_zero ruled.1]
      exact numbered_nil
  | timeout _ => contradiction
  | cancellation _ => contradiction
  | policyDenial _ _ => contradiction
  | quotaDenial _ _ _ => contradiction

/-- As many frames as an outcome asks for, and at least one. -/
def askedFrames : ProviderSimulationOutcome → Nat
  | .partialStream deliveredFrames => deliveredFrames.toNat
  | .cancellation cancelledAfterFrames => max cancelledAfterFrames.toNat 1
  | _ => 1

/-- Frames that all carry the same number, as many as the outcome asks for. -/
def repeatedFrames (outcome : ProviderSimulationOutcome) : List StreamFrame :=
  List.replicate outcome.askedFrames (simulationFrame "req_sim" 7 .contentDelta)

/-- The outcomes that do not fix the numbers ask for some frame, and for fewer than 2^32. -/
theorem askedFrames_bounds {outcome : ProviderSimulationOutcome}
    (free : ¬ outcome.FixesNumbers)
    : 0 < outcome.askedFrames ∧ outcome.askedFrames < 2 ^ 32 := by
  cases outcome with
  | partialStream deliveredFrames =>
      have some : deliveredFrames.toNat ≠ 0 := by
        intro none
        exact free (UInt32.toNat_inj.mp none)
      exact ⟨Nat.pos_of_ne_zero some, deliveredFrames.toNat_lt⟩
  | cancellation cancelledAfterFrames =>
      have below := cancelledAfterFrames.toNat_lt
      simp only [askedFrames]
      omega
  | _ => simp [askedFrames]

/-- Frames that all carry the same number obey the rule of these outcomes, by cases. -/
theorem repeatedFrames_ruled {outcome : ProviderSimulationOutcome}
    (free : ¬ outcome.FixesNumbers)
    : outcome.FrameRule outcome.repeatedFrames := by
  cases outcome with
  | success _ _ => exact absurd trivial free
  | providerError _ => exact absurd trivial free
  | malformedChunk _ => exact absurd trivial free
  | partialStream deliveredFrames =>
      refine ⟨List.length_replicate, ?_⟩
      intro frame member
      rw [List.eq_of_mem_replicate member]
      simp [simulationFrame]
  | cancellation cancelledAfterFrames =>
      simp only [FrameRule, repeatedFrames, List.length_replicate, askedFrames]
      omega
  | timeout _ => trivial
  | policyDenial _ _ => trivial
  | quotaDenial _ _ _ => trivial

/-- Frames that all carry the same number do not carry their positions. -/
theorem repeatedFrames_not_positioned {outcome : ProviderSimulationOutcome}
    (free : ¬ outcome.FixesNumbers)
    : ¬ Positioned outcome.repeatedFrames := by
  intro positioned
  have first : outcome.repeatedFrames[0]? = some (simulationFrame "req_sim" 7 .contentDelta) := by
    rw [repeatedFrames, List.getElem?_replicate, if_pos (askedFrames_bounds free).1]
  have number := positioned 0 _ first
  contradiction

end ProviderSimulationOutcome

namespace ProviderSimulationCase

/-- Everything that the harness asks of a provider case but the rule of its frames. -/
structure Grounded (case : ProviderSimulationCase) : Prop where
  boundary : WithinBoundary case.request.policy (some case.request.credentialRef)
  route : case.route.Consistent
  usageLineage : (envelopeOfUsage case.usageEvent).Traces case.request
  auditLineage : (envelopeOfAudit case.auditEvent).Traces case.request
  declared : case.outcome.Declared case.usageEvent.policyDecisionId

/-- A case is accepted with the frames that its outcome rules, if the rest is in order. -/
theorem delivering_accepted_iff {case : ProviderSimulationCase} {frames : List StreamFrame}
    : (case.delivering frames).Accepted ↔ case.Grounded ∧ case.outcome.FrameRule frames := by
  constructor
  · intro accepted
    obtain ⟨boundary, route, usageLineage, auditLineage, ruled, declared⟩ := accepted
    exact ⟨⟨boundary, route, usageLineage, auditLineage, declared⟩, ruled⟩
  · intro accepted
    obtain ⟨⟨boundary, route, usageLineage, auditLineage, declared⟩, ruled⟩ := accepted
    exact ⟨boundary, route, usageLineage, auditLineage, ruled, declared⟩

/-- The frames that a case is accepted with all carry their positions exactly if its outcome
fixes their numbers, or the rest of the case is refused anyway. Witness: otherwise frames
that repeat one number are accepted.
-/
theorem delivering_positioned_iff {case : ProviderSimulationCase}
    : (∀ frames, frames.length < 2 ^ 32
        → (case.delivering frames).Accepted
        → Positioned frames)
      ↔ case.outcome.FixesNumbers ∨ ¬ case.Grounded := by
  constructor
  · intro positioned
    by_contra neither
    obtain ⟨free, refused⟩ := not_or.mp neither
    have grounded := not_not.mp refused
    apply ProviderSimulationOutcome.repeatedFrames_not_positioned free
    apply positioned
    · rw [ProviderSimulationOutcome.repeatedFrames, List.length_replicate]
      exact (ProviderSimulationOutcome.askedFrames_bounds free).2
    · exact delivering_accepted_iff.mpr
        ⟨grounded, ProviderSimulationOutcome.repeatedFrames_ruled free⟩
  · intro either frames short accepted
    obtain ⟨grounded, ruled⟩ := delivering_accepted_iff.mp accepted
    rcases either with fixes | refused
    · exact positioned_of_numbered short (fixes.numbered ruled)
    · exact absurd grounded refused

/-- For the frames that a case has, rather than for all that it could have: they carry their
positions if it is accepted, exactly if its outcome fixes their numbers, or they happen to be
right, or the case is refused for something else.
-/
theorem accepted_positioned_iff {case : ProviderSimulationCase}
    : (case.streamFrames.length < 2 ^ 32 → case.Accepted → Positioned case.streamFrames)
      ↔ case.outcome.FixesNumbers
        ∨ ¬ case.Grounded
        ∨ ¬ case.outcome.FrameRule case.streamFrames
        ∨ 2 ^ 32 ≤ case.streamFrames.length
        ∨ Positioned case.streamFrames := by
  have parts : case.Accepted ↔ case.Grounded ∧ case.outcome.FrameRule case.streamFrames :=
    delivering_accepted_iff
  rw [parts]
  constructor
  · intro positioned
    by_contra neither
    simp only [not_or, not_not, not_le] at neither
    obtain ⟨_, grounded, ruled, short, gap⟩ := neither
    exact gap (positioned short ⟨grounded, ruled⟩)
  · intro either short accepted
    obtain ⟨grounded, ruled⟩ := accepted
    rcases either with fixes | refused | unruled | long | positioned
    · exact positioned_of_numbered short (fixes.numbered ruled)
    · exact absurd grounded refused
    · exact absurd ruled unruled
    · exact absurd short (Nat.not_lt.mpr long)
    · exact positioned

/-- Acceptance leaves no gaps, whatever the frames, exactly under the outcomes that fix their
numbers: whatever else an accepted case consists of, under any other outcome it is accepted with
frames that repeat a number too. Whether a given case has a gap is then up to its frames.
-/
theorem positioned_iff_fixesNumbers (case : ProviderSimulationCase) (report : SimulationReport)
    : ((∀ frames, frames.length < 2 ^ 32
          → ((case.delivering frames).validate.from report).1 = .ok ()
          → Positioned frames)
        ↔ case.outcome.FixesNumbers ∨ ¬ case.Grounded)
      ∧ ((case.streamFrames.length < 2 ^ 32
          → (case.validate.from report).1 = .ok ()
          → Positioned case.streamFrames)
        ↔ case.outcome.FixesNumbers
          ∨ ¬ case.Grounded
          ∨ ¬ case.outcome.FrameRule case.streamFrames
          ∨ 2 ^ 32 ≤ case.streamFrames.length
          ∨ Positioned case.streamFrames) := by
  simp only [(ProviderSimulationCase.validate_records _).passes report]
  exact ⟨delivering_positioned_iff, accepted_positioned_iff⟩

/-- A partial stream that delivered two frames under the same number. -/
def repeatingCase : ProviderSimulationCase :=
  simulationCase (.partialStream 2)
    [simulationFrame "req_sim" 7 .start, simulationFrame "req_sim" 7 .contentDelta] false

/-- Acceptance does not rule out gaps: a partial stream may repeat a number. -/
theorem not_positioned_of_accepted
    : ¬ ∀ (case : ProviderSimulationCase) (report : SimulationReport),
          case.streamFrames.length < 2 ^ 32
          → (case.validate.from report).1 = .ok ()
          → Positioned case.streamFrames := by
  intro assumed
  have positioned := assumed repeatingCase {} (by decide) (by decide +kernel)
  have number := positioned 0 (simulationFrame "req_sim" 7 .start) rfl
  contradiction

end ProviderSimulationCase

end TaskotterGateway.Simulation
