import SampleCapture.Session.Basic
import SampleCapture.Stop.Json

/-!
# Summaries as JSON
-/

namespace SampleCapture.Summary

open Json

def toJson (summary : Summary) : List Char :=
  Printer.record
    [("stats", summary.counters.toJson),
      ("stopReason", Printer.optional StopReason.toJson summary.stopReason),
      ("writeError", Printer.optional Printer.text summary.writeError)]

end SampleCapture.Summary
