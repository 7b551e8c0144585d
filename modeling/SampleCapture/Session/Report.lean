import SampleCapture.Session.Basic

/-!
# Reporting a summary

After a capture its numbers are reported, then the place where an overflow cut it
short, then a failure of the output.
-/

namespace SampleCapture.Summary

def overflowReport (summary : Summary) : List Event :=
  match summary.stopReason with
  | some (.hardwareOverflow offset) => [.cutShort offset]
  | _ => []

def report (summary : Summary) : List Event :=
  .summary summary.counters summary.stopReason :: summary.overflowReport ++
    (summary.writeError.map Event.outputIncomplete).toList

end SampleCapture.Summary
