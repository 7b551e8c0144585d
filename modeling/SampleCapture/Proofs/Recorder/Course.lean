import SampleCapture.Proofs.Accounts
import SampleCapture.Proofs.Output.Manners
import SampleCapture.Proofs.Recorder.Steps

/-!
# The course of the recorder

How far the recorder has come, what it has in hand and still has to count, and what it
does after a failure of its sink.
-/

namespace SampleCapture

/-- How far the recorder has come: it takes slices, it has written everything, or its
sink has failed. -/
inductive RecorderPhase.Status where
  | taking
  | complete
  | broken
deriving DecidableEq

def RecorderPhase.status : RecorderPhase → RecorderPhase.Status
  | .starting | .checking | .noticing | .popping | .writing _ | .counting _ | .flushing => .taking
  | .finishing | .leaving (.finished _) | .departing (.finished _) | .releasing (.finished _)
  | .ended (.finished _) => .complete
  | .failing _ _ | .leaving _ | .departing _ | .releasing _ | .ended _ => .broken

theorem status_afterPop (result : Option (List UInt8)) :
    (RecorderPhase.afterPop result).status = .taking ∧
      (RecorderPhase.afterPop result = .flushing → result = some []) := by
  rcases result with _ | _ | ⟨byte, rest⟩ <;> simp [RecorderPhase.afterPop, RecorderPhase.status]

namespace RecorderThread

/-- A recorder whose sink has failed never gets over it. -/
theorem Step.broken {thread next : RecorderThread} (step : thread.Step next)
    (broken : thread.recorder.phase.status = .broken) :
    next.recorder.phase.status = .broken := by
  cases step with
  | failed phase | fail phase => rfl
  | @leave ending phase | @depart ending phase =>
      rw [phase] at broken
      cases ending <;> first | rfl | exact broken
  | @release ending phase =>
      rw [phase] at broken
      dsimp only
      split
      · rfl
      · cases ending <;> first | rfl | exact broken
  | start phase | notice phase | slice phase | noticed phase | pop phase | write phase
  | count phase | flush phase | finish phase =>
      rw [phase] at broken
      cases broken

end RecorderThread

def RecorderPhase.inHand : RecorderPhase → List UInt8
  | .writing slice => slice
  | _ => []

/-- How many bytes the recorder has handed to its sink and not counted yet. -/
def RecorderPhase.uncounted : RecorderPhase → Nat
  | .counting count => count
  | _ => 0

/-! ## After a failure -/

/-- After a failure the recorder does what is left of the effects of a failure. -/
def RecorderPhase.Orderly : RecorderPhase → Prop
  | .failing effects fault => ∃ written, effects <:+ Recorder.failEffects written fault
  | _ => True

/-- A failure touches no counter. -/
theorem Recorder.amounts_failEffects {written : UInt64} {fault : Fault} {effect : Effect}
    (member : effect ∈ Recorder.failEffects written fault) : effect.amounts = {} := by
  simp only [Recorder.failEffects, Effect.stop, List.mem_cons, List.not_mem_nil,
    or_false] at member
  rcases member with rfl | rfl | rfl <;> rfl

/-- What a row of such effects can be. -/
theorem Recorder.suffix_failEffects {written : UInt64} {fault : Fault} {effect : Effect}
    {effects : List Effect} (row : effect :: effects <:+ Recorder.failEffects written fault) :
    effect = .log (.writeFailed written fault) ∧ effects = Effect.stop .writeFailed ∨
      effect = .record .writeFailed ∧ effects = [.raise] ∨ effect = .raise ∧ effects = [] := by
  rcases List.suffix_cons_iff.mp row with same | row
  · exact .inl (List.cons.inj same)
  rcases List.suffix_cons_iff.mp row with same | row
  · exact .inr (.inl (List.cons.inj same))
  rcases List.suffix_cons_iff.mp row with same | row
  · exact .inr (.inr (List.cons.inj same))
  · exact absurd (List.suffix_nil.mp row) (List.cons_ne_nil _ _)

def Effect.isRecord : Effect → Bool
  | .record _ => true
  | .log _ | .count _ | .raise => false

def RecorderEnd.isFailure : RecorderEnd → Bool
  | .failed _ => true
  | .finished _ | .crashed => false

/-- Whether the recorder has recorded a failure as a reason to stop. -/
def RecorderPhase.hasRecorded : RecorderPhase → Bool
  | .failing effects _ => !effects.any Effect.isRecord
  | .leaving ending | .departing ending | .releasing ending | .ended ending => ending.isFailure
  | _ => false

namespace RecorderThread

theorem orderly_phaseAfter {recorder : Recorder} (after : RecorderPhase)
    (orderly : after.Orderly) (result : OutputResult) :
    (recorder.phaseAfter after result).Orderly := by
  cases result with
  | done => exact orderly
  | failed fault => exact ⟨recorder.written, List.suffix_rfl⟩
  | crashed => trivial

theorem orderly_afterPop (result : Option (List UInt8)) :
    (RecorderPhase.afterPop result).Orderly := by
  rcases result with _ | _ | ⟨byte, rest⟩ <;> trivial

theorem Step.orderly {thread next : RecorderThread} (step : thread.Step next)
    (orderly : thread.recorder.phase.Orderly) : next.recorder.phase.Orderly := by
  cases step with
  | fail phase =>
      rw [phase] at orderly
      obtain ⟨written, row⟩ := orderly
      exact ⟨written, (List.suffix_cons _ _).trans row⟩
  | pop phase => exact orderly_afterPop _
  | @write slice phase => exact orderly_phaseAfter (.counting slice.length) trivial _
  | flush phase => exact orderly_phaseAfter .finishing trivial _
  | start | notice | slice | noticed | count | finish | failed | leave | depart | release =>
      trivial

/-- A step of the recorder counts what it has handed over, and nothing else. -/
theorem Step.counters {thread next : RecorderThread} (step : thread.Step next)
    (orderly : thread.recorder.phase.Orderly) :
    next.shared.state.counters =
      thread.shared.state.counters.add
        { written := thread.recorder.phase.uncounted.toUInt64 } := by
  cases step with
  | count phase =>
      rw [phase]
      rfl
  | @fail effect effects fault phase =>
      rw [phase] at orderly
      obtain ⟨written, row⟩ := orderly
      have nothing := Recorder.amounts_failEffects (row.subset List.mem_cons_self)
      have counters := thread.shared.counters_perform effect
      rw [nothing] at counters
      rw [phase]
      exact counters
  | start phase | notice phase | slice phase | noticed phase | pop phase | write phase
  | flush phase | finish phase | failed phase | leave phase | depart phase | release phase =>
      rw [phase]
      exact (Counters.add_zero _).symm

theorem recorded_phaseAfter {recorder : Recorder} (after : RecorderPhase)
    (none : after.hasRecorded = false) (result : OutputResult) :
    (recorder.phaseAfter after result).hasRecorded = false := by
  cases result with
  | done => exact none
  | failed fault => rfl
  | crashed => rfl

theorem recorded_afterPop (result : Option (List UInt8)) :
    (RecorderPhase.afterPop result).hasRecorded = false := by
  rcases result with _ | _ | ⟨byte, rest⟩ <;> rfl

/-- What the recorder has recorded is a reason to stop. -/
theorem Step.recorded {thread next : RecorderThread} (step : thread.Step next)
    (orderly : thread.recorder.phase.Orderly)
    (before : thread.recorder.phase.hasRecorded = true → thread.shared.state.reason ≠ none)
    (recorded : next.recorder.phase.hasRecorded = true) : next.shared.state.reason ≠ none := by
  cases step with
  | @fail effect effects fault phase =>
      rw [phase] at orderly before
      obtain ⟨written, row⟩ := orderly
      rcases Recorder.suffix_failEffects row with ⟨rfl, rfl⟩ | ⟨rfl, rfl⟩ | ⟨rfl, rfl⟩
      · cases recorded
      · exact Option.some_ne_none _
      · exact before rfl
  | failed phase => exact before (by rw [phase]; rfl)
  | leave phase | depart phase =>
      rw [phase] at before
      exact before recorded
  | @release ending phase =>
      rw [phase] at before
      refine before ?_
      dsimp only at recorded
      split at recorded
      · cases recorded
      · exact recorded
  | pop phase =>
      exact absurd (recorded.symm.trans (recorded_afterPop _)) (by decide)
  | @write slice phase =>
      exact absurd (recorded.symm.trans
        (recorded_phaseAfter (.counting slice.length) rfl _)) (by decide)
  | flush phase =>
      exact absurd (recorded.symm.trans (recorded_phaseAfter .finishing rfl _))
        (by decide)
  | start | notice | slice | noticed | count | finish => cases recorded

/-- The recorder records no other reason. -/
theorem Step.reason {thread next : RecorderThread} (step : thread.Step next)
    (orderly : thread.recorder.phase.Orderly)
    (unrecorded : next.recorder.phase.hasRecorded = false) :
    next.shared.state.reason = thread.shared.state.reason := by
  cases step with
  | @fail effect effects fault phase =>
      rw [phase] at orderly
      obtain ⟨written, row⟩ := orderly
      rcases Recorder.suffix_failEffects row with ⟨rfl, rfl⟩ | ⟨rfl, rfl⟩ | ⟨rfl, rfl⟩
      · rfl
      · cases unrecorded
      · rfl
  | _ => rfl

/-- Only a crash makes the recorder forget that it has recorded a failure. -/
theorem Step.hasRecorded {thread next : RecorderThread} (step : thread.Step next)
    (recorded : thread.recorder.phase.hasRecorded = true) :
    next.recorder.phase.hasRecorded = true ∨ next.recorder.phase = .ended .crashed := by
  cases step with
  | @fail effect effects fault phase =>
      rw [phase] at recorded
      simp only [RecorderPhase.hasRecorded, List.any_cons, Bool.not_or,
        Bool.and_eq_true] at recorded
      exact .inl recorded.2
  | failed phase => exact .inl rfl
  | leave phase | depart phase =>
      rw [phase] at recorded
      exact .inl recorded
  | release phase =>
      rw [phase] at recorded
      dsimp only
      split
      · exact .inr rfl
      · exact .inl recorded
  | start phase | notice phase | slice phase | noticed phase | pop phase | write phase
  | count phase | flush phase | finish phase =>
      rw [phase] at recorded
      cases recorded

end RecorderThread

/-! ## The sink -/

structure Recorder.Fixed (recorder next : Recorder) : Prop where
  sliceBytes : next.sliceBytes = recorder.sliceBytes
  writer : next.sink.writer = recorder.sink.writer
  capacity : next.sink.capacity = recorder.sink.capacity

/-- The end that the recorder is coming to. -/
def RecorderPhase.ending? : RecorderPhase → Option RecorderEnd
  | .leaving ending | .departing ending | .releasing ending | .ended ending => some ending
  | _ => none

structure Recorder.Unharmed (recorder : Recorder) : Prop where
  sink : recorder.sink.crashed = false
  phase : recorder.phase.ending? ≠ some .crashed

namespace RecorderThread

theorem Step.fixed {thread next : RecorderThread} (step : thread.Step next) :
    thread.recorder.Fixed next.recorder := by
  cases step with
  | @write slice =>
      have fixed := (thread.recorder.sink.writes slice).fixed
      exact ⟨rfl, fixed.1, fixed.2⟩
  | flush =>
      have keeps := thread.recorder.sink.flushes.flushed.keeps
      exact ⟨rfl, keeps.writer, keeps.capacity⟩
  | release =>
      have keeps := thread.recorder.sink.release_stream.1
      exact ⟨rfl, keeps.writer, keeps.capacity⟩
  | _ => exact ⟨rfl, rfl, rfl⟩

theorem ending_afterPop (result : Option (List UInt8)) :
    (RecorderPhase.afterPop result).ending? = none := by
  rcases result with _ | _ | ⟨byte, rest⟩ <;> rfl

theorem ending_phaseAfter {recorder : Recorder} (after : RecorderPhase)
    (none : after.ending? = none) {result : OutputResult} (sound : result ≠ .crashed) :
    (recorder.phaseAfter after result).ending? ≠ some .crashed := by
  cases result with
  | done =>
      rw [Recorder.phaseAfter, none]
      exact nofun
  | failed fault => exact nofun
  | crashed => exact absurd rfl sound

/-- With a steady writer the recorder does not crash. -/
theorem Step.unharmed {thread next : RecorderThread} (step : thread.Step next)
    (steady : thread.recorder.sink.writer.Steady) (unharmed : thread.recorder.Unharmed) :
    next.recorder.Unharmed := by
  obtain ⟨sound, phases⟩ := unharmed
  cases step with
  | @write slice phase =>
      have result := (thread.recorder.sink.writes slice).result (· ≠ .crashed) nofun
        steady.pump
      constructor
      case phase => exact ending_phaseAfter (.counting slice.length) rfl result
      case sink =>
        apply Bool.eq_false_iff.mpr
        intro crashed
        exact result ((thread.recorder.sink.writes slice).crashed sound crashed)
  | flush phase =>
      have result := thread.recorder.sink.flushes.result (· ≠ .crashed) steady.pump steady.1
      constructor
      case phase => exact ending_phaseAfter .finishing rfl result
      case sink =>
        apply Bool.eq_false_iff.mpr
        intro crashed
        exact result (thread.recorder.sink.flushes.flushed.crashed sound crashed)
  | release phase =>
      have still : thread.recorder.sink.release.crashed = false := by
        apply Bool.eq_false_iff.mpr
        intro crashed
        obtain ⟨buffer, -, result⟩ := Sink.release_crashed sound crashed
        exact steady.pump _ _ _ result
      constructor
      case sink => exact still
      case phase =>
        rw [phase] at phases
        dsimp only
        rw [still]
        exact phases
  | pop phase =>
      refine ⟨sound, ?_⟩
      change (RecorderPhase.afterPop _).ending? ≠ _
      rw [ending_afterPop]
      exact nofun
  | leave phase | depart phase =>
      rw [phase] at phases
      exact ⟨sound, phases⟩
  | start phase | notice phase | slice phase | noticed phase | count phase | finish phase
  | failed phase | fail phase => exact ⟨sound, nofun⟩

/-- With a willing writer the sink does not fail. -/
theorem Step.working {thread next : RecorderThread} (step : thread.Step next)
    (willing : thread.recorder.sink.writer.Willing) (unharmed : thread.recorder.Unharmed)
    (working : thread.recorder.phase.status ≠ .broken) :
    next.recorder.phase.status ≠ .broken := by
  cases step with
  | @write slice phase =>
      have result := (thread.recorder.sink.writes slice).result (· = .done) rfl
        willing.pump
      dsimp only [afterSink]
      rw [result]
      exact nofun
  | flush phase =>
      have result := thread.recorder.sink.flushes.result (· = .done) willing.pump willing.1
      dsimp only [afterSink]
      rw [result]
      exact nofun
  | @release ending phase =>
      have still := ((Step.release phase).unharmed willing.steady unharmed).sink
      dsimp only at still ⊢
      rw [still]
      rw [phase] at working
      cases ending <;> exact working
  | @pop channel result phase step =>
      change (RecorderPhase.afterPop _).status ≠ _
      rw [(status_afterPop _).1]
      exact nofun
  | @leave ending phase | @depart ending phase =>
      rw [phase] at working
      cases ending <;> exact working
  | failed phase | fail phase =>
      rw [phase] at working
      exact absurd rfl working
  | start phase | notice phase | slice phase | noticed phase | count phase | finish phase =>
      exact nofun

end RecorderThread

end SampleCapture
