import SampleCapture.Proofs.Session.Reasons

/-!
# The lines of a log

Which lines an effect adds to a log, and which ones a step of the caller does. A stop request
has a line only if it gives the reason; all other lines are those that the effects name.
-/

namespace SampleCapture

def Event.stop? : Event → Option StopReason
  | .stopRequested reason => some reason
  | _ => none

def Event.ordinary (lines : List Event) : List Event :=
  lines.filter fun line => line.stop?.isNone

def Effect.line? : Effect → Option Event
  | .log event => some event
  | .count _ | .record _ | .raise => none

def Effect.Quiet (effect : Effect) : Prop :=
  ∀ line, effect.line? = some line → line.stop? = none

theorem Event.ordinary_append (first second : List Event) :
    ordinary (first ++ second) = ordinary first ++ ordinary second :=
  List.filter_append ..

namespace LoggedState

def lines (shared : LoggedState) : Effect → List Event
  | .log event => [event]
  | .record reason => if shared.state.reason = none then [.stopRequested reason] else []
  | .count _ | .raise => []

theorem log_perform (shared : LoggedState) (effect : Effect) :
    (shared.perform effect).log.toList = shared.log.toList ++ shared.lines effect := by
  cases effect with
  | log event => exact Array.toList_push ..
  | record reason =>
      rw [perform, lines]
      split
      · exact Array.toList_push ..
      · exact (List.append_nil _).symm
  | count amounts | raise => exact (List.append_nil _).symm

/-- The first reason has a line, and no other reason has. -/
theorem stops_lines (shared : LoggedState) {effect : Effect} (quiet : effect.Quiet) :
    shared.state.reason.toList ++ (shared.lines effect).filterMap Event.stop? =
      (shared.perform effect).state.reason.toList := by
  rw [reason_perform]
  cases effect with
  | log event =>
      rw [lines, List.filterMap_cons, quiet event rfl, Effect.reason?, Option.or_none]
      exact List.append_nil _
  | record reason =>
      rw [lines, Effect.reason?]
      cases known : shared.state.reason <;> simp [Event.stop?]
  | count amounts | raise =>
      rw [Effect.reason?, Option.or_none]
      exact List.append_nil _

/-- The other lines are those that the effects name. -/
theorem ordinary_lines (shared : LoggedState) {effect : Effect} (quiet : effect.Quiet) :
    Event.ordinary (shared.lines effect) = effect.line?.toList := by
  cases effect with
  | log event =>
      have plain : event.stop? = none := quiet event rfl
      simp [lines, Event.ordinary, Effect.line?, plain]
  | record reason =>
      rw [lines]
      split <;> rfl
  | count amounts | raise => rfl

theorem lasts_perform (shared : LoggedState) (effect : Effect) :
    shared.state.Lasts (shared.perform effect).state := by
  refine ⟨fun given => ?_, fun up => stopping_perform effect up⟩
  obtain ⟨reason, known⟩ := Option.ne_none_iff_exists'.mp given
  rw [reason_perform, known, Option.some_or]

end LoggedState

namespace Session

/-! ## Lines of the caller -/

def closingLines (session : Session) (error : Option CaptureError) : List Event :=
  .captureEnded session.state.counters ::
    match error, session.state.reason with
    | some error, some _ => [.transferFailedAfterStop error]
    | _, _ => []

def lines (session : Session) : List Event :=
  match session.phase.next? with
  | some (effect, _) => session.shared.lines effect
  | none =>
      match session.phase with
      | .reporting (some report) => [.progress report session.state.counters.dropouts]
      | .concluding error _ => session.closingLines error
      | _ => []

theorem lines_of_next? {session : Session} {effect : Effect} {after : CallerPhase}
    (row : session.phase.next? = some (effect, after)) :
    session.lines = session.shared.lines effect := by
  rw [lines, row]

theorem log_conclude (session : Session) (error : Option CaptureError)
    (writeError : Option String) :
    (session.conclude error writeError).log.toList =
      session.log.toList ++ session.closingLines error := by
  unfold conclude closingLines
  cases error with
  | none => exact Array.toList_push ..
  | some error =>
      cases session.state.reason with
      | none => exact Array.toList_push ..
      | some reason => simp [goTo, perform, withShared, shared, LoggedState.perform,
        LoggedState.note]

/-- A step of the caller adds its lines to the log. -/
theorem CallerStep.log {session next : Session} (step : session.CallerStep next) :
    next.log.toList = session.log.toList ++ session.lines := by
  cases step with
  | perform row =>
      rw [lines_of_next? row]
      exact session.shared.log_perform _
  | @report report phase =>
      rw [lines, phase]
      cases report with
      | none => exact (List.append_nil _).symm
      | some report => exact Array.toList_push ..
  | @conclude error writeError phase =>
      rw [lines, phase]
      exact session.log_conclude error writeError
  | @join error lane ending phase =>
      rw [lines, phase]
      cases ending <;> exact (List.append_nil _).symm
  | asked phase | ingest phase | skip phase | offer phase | push phase | settled phase
  | answer phase | unlink phase | close phase | closed phase | endTransfer phase | wait phase
  | ended phase | joinNobody phase | collapsed phase =>
      rw [lines, phase]
      exact (List.append_nil _).symm

/-- Of the lines of the caller only the first reason is one of a stop request. -/
theorem CallerStep.stops {session next : Session} (step : session.CallerStep next)
    (quiet : ∀ effect ∈ session.phase.effects, effect.Quiet) :
    session.state.reason.toList ++ session.lines.filterMap Event.stop? =
      next.state.reason.toList := by
  rw [(Step.caller step).reason_eq, request?, CallerPhase.reason?]
  cases row : session.phase.next? with
  | some found =>
      obtain ⟨effect, after⟩ := found
      have named : effect ∈ session.phase.effects := by
        rw [CallerPhase.effects_next? row]
        exact List.mem_cons_self
      rw [lines_of_next? row, Option.bind_some]
      refine (session.shared.stops_lines (quiet effect named)).trans ?_
      exact congrArg Option.toList (session.shared.reason_perform effect)
  | none =>
      have none : session.lines.filterMap Event.stop? = [] := by
        rw [lines, row]
        cases session.phase with
        | reporting report => cases report <;> rfl
        | concluding error =>
            unfold closingLines
            cases error <;> cases session.state.reason <;> rfl
        | _ => rfl
      rw [none, List.append_nil, Option.bind_none, Option.or_none]

end Session

end SampleCapture
