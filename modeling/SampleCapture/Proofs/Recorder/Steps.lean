import SampleCapture.Proofs.Queue.Steps
import SampleCapture.Recorder

/-!
# The steps of the recorder

What one step of the recorder can do, as a relation with one constructor for each phase
and each way out of it, and that the step function takes only these steps.
-/

namespace SampleCapture

def RecorderPhase.afterPop : Option (List UInt8) → RecorderPhase
  | none => .popping
  | some [] => .flushing
  | some slice => .writing slice

namespace RecorderThread

inductive Step (thread : RecorderThread) : RecorderThread → Prop where
  | start (phase : thread.recorder.phase = .starting) :
      Step thread
        ((thread.perform (.log (.recorderStarted thread.recorder.sliceBytes))).goTo .checking)
  | notice (phase : thread.recorder.phase = .checking)
      (seen : thread.recorder.draining = false ∧ thread.shared.state.stopping = true) :
      Step thread
        { thread with recorder := { thread.recorder with draining := true, phase := .noticing } }
  | slice (phase : thread.recorder.phase = .checking)
      (unseen : thread.recorder.draining = true ∨ thread.shared.state.stopping = false) :
      Step thread thread.beginSlice
  | noticed (phase : thread.recorder.phase = .noticing) :
      Step thread
        (thread.perform
          (.log (.recorderDraining thread.channel.queue.bytes.length))).beginSlice
  | pop (phase : thread.recorder.phase = .popping) {channel : Channel}
      {result : Option (List UInt8)}
      (step : Channel.ConsumerStep thread.channel channel result) :
      Step thread ({ thread with channel := channel }.goTo (.afterPop result))
  | write {slice : List UInt8} (phase : thread.recorder.phase = .writing slice) :
      Step thread (thread.afterSink (.counting slice.length) (thread.recorder.sink.writeAll slice))
  | count {count : Nat} (phase : thread.recorder.phase = .counting count) :
      Step thread
        { thread.perform (.count { written := count.toUInt64 }) with
          recorder :=
            { thread.recorder with
              written := thread.recorder.written + count.toUInt64, phase := .checking } }
  | flush (phase : thread.recorder.phase = .flushing) :
      Step thread (thread.afterSink .finishing thread.recorder.sink.flush)
  | finish (phase : thread.recorder.phase = .finishing) :
      Step thread
        ((thread.perform (.log (.recorderFinished thread.recorder.written))).goTo
          (.leaving (.finished thread.recorder.written)))
  | failed {fault : Fault} (phase : thread.recorder.phase = .failing [] fault) :
      Step thread (thread.goTo (.leaving (.failed fault)))
  | fail {effect : Effect} {effects : List Effect} {fault : Fault}
      (phase : thread.recorder.phase = .failing (effect :: effects) fault) :
      Step thread ((thread.perform effect).goTo (.failing effects fault))
  | leave {ending : RecorderEnd} (phase : thread.recorder.phase = .leaving ending) :
      Step thread ({ thread with channel := thread.channel.beginLeave }.goTo (.departing ending))
  | depart {ending : RecorderEnd} (phase : thread.recorder.phase = .departing ending)
      {channel : Channel} {result : Option (List UInt8)}
      (step : Channel.ConsumerStep thread.channel channel result) :
      Step thread ({ thread with channel := channel }.goTo (.releasing ending))
  | release {ending : RecorderEnd} (phase : thread.recorder.phase = .releasing ending) :
      Step thread
        { thread with
          recorder :=
            { thread.recorder with
              sink := thread.recorder.sink.release
              phase := .ended
                (if thread.recorder.sink.release.crashed then .crashed else ending) } }

/-- The recorder takes only the steps of the relation. -/
theorem Step.of_step? {thread next : RecorderThread} (moved : thread.step? = some next) :
    thread.Step next := by
  unfold step? at moved
  cases phase : thread.recorder.phase with
  | starting =>
      simp only [phase, Option.some.injEq] at moved
      exact moved ▸ .start phase
  | checking =>
      simp only [phase] at moved
      split at moved
      · rename_i seen
        exact Option.some.inj moved ▸ .notice phase (by simpa using seen)
      · rename_i unseen
        refine Option.some.inj moved ▸ .slice phase ?_
        cases draining : thread.recorder.draining <;> simp_all
  | noticing =>
      simp only [phase, Option.some.injEq] at moved
      exact moved ▸ .noticed phase
  | popping =>
      simp only [phase] at moved
      obtain ⟨⟨channel, result⟩, step, rfl⟩ := Option.map_eq_some_iff.mp moved
      have taken := (thread.channel.consumerStep?_eq_some_iff channel result).mp step
      rcases result with _ | _ | ⟨byte, rest⟩
      · have still : thread.recorder = { thread.recorder with phase := .popping } := by
          rw [← phase]
        have same : { thread with channel := channel } =
            { thread with channel := channel }.goTo (.afterPop none) := by
          simp only [goTo, RecorderPhase.afterPop]
          rw [← still]
        exact same ▸ .pop phase taken
      · exact .pop phase taken
      · exact .pop phase taken
  | writing slice =>
      simp only [phase, Option.some.injEq] at moved
      exact moved ▸ .write phase
  | counting count =>
      simp only [phase, Option.some.injEq] at moved
      exact moved ▸ .count phase
  | flushing =>
      simp only [phase, Option.some.injEq] at moved
      exact moved ▸ .flush phase
  | finishing =>
      simp only [phase, Option.some.injEq] at moved
      exact moved ▸ .finish phase
  | failing effects fault =>
      cases effects with
      | nil =>
          simp only [phase, Option.some.injEq] at moved
          exact moved ▸ .failed phase
      | cons effect effects =>
          simp only [phase, Option.some.injEq] at moved
          exact moved ▸ .fail phase
  | leaving ending =>
      simp only [phase, Option.some.injEq] at moved
      exact moved ▸ .leave phase
  | departing ending =>
      simp only [phase] at moved
      obtain ⟨⟨channel, result⟩, step, rfl⟩ := Option.map_eq_some_iff.mp moved
      exact .depart phase ((thread.channel.consumerStep?_eq_some_iff channel result).mp step)
  | releasing ending =>
      simp only [phase, Option.some.injEq] at moved
      exact moved ▸ .release phase
  | ended ending => simp [phase] at moved

end RecorderThread

end SampleCapture
