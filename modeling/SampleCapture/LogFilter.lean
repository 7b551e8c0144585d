import SampleCapture.Progress.Line
import SampleCapture.Text.Blank

/-!
# The log filter

A filter is a row of directives with commas between them. The one in force is the
user's, or the usual one if the user gives none. Unless its text names the telemetry
target, a directive that keeps the telemetry lines is added.
-/

namespace SampleCapture.LogFilter

def usual : String := "grabber_app=info,grabber_core=info"

/-- The directive that keeps the telemetry lines. -/
def telemetryDirective : String := ProgressLine.target ++ "=info"

def occursIn (part : List Char) : List Char → Bool
  | [] => part.isEmpty
  | c :: rest => part.isPrefixOf (c :: rest) || occursIn part rest

/-- The user's filter, unless it is missing or blank. -/
def chosen (given : Option String) : String :=
  match given with
  | none => usual
  | some filter => if Text.isBlank filter.toList then usual else filter

def inForce (given : Option String) : String :=
  let filter := chosen given
  if occursIn ProgressLine.target.toList filter.toList then filter
  else filter ++ "," ++ telemetryDirective

end SampleCapture.LogFilter
