import SampleCapture.Decimal.Binary
import SampleCapture.Progress

/-!
# The telemetry line

One progress report and the dropouts so far make one line of right-aligned columns.
A column never cuts its number: a long one pushes the rest to the right.
-/

namespace SampleCapture.ProgressLine

open Decimal

def target : String := "grabber_core::telemetry"

/-- A double divided by `2 ^ shift`, with fixed places, right-aligned. -/
def column (width places shift : Nat) (x : Float) : List Char :=
  padLeft width ((DoubleValue.ofFloat x).fixed places shift)

/-- The captured volume in units of `2 ^ 20` bytes: what a double keeps of the count,
with three places. -/
def volumeColumn (total : UInt64) : List Char :=
  padLeft 9 (fixed 3 (nearestDouble total.toNat) (Nat.pow 2 20))

def render (report : ProgressSnapshot) (dropouts : UInt64) : List Char :=
  column 10 2 0 report.elapsed ++ "s total time ".toList ++
  volumeColumn report.total ++ " MiB captured ".toList ++
  column 7 1 10 report.currentRate ++ " kB/s curr rate ".toList ++
  column 7 1 10 report.totalRate ++ " kB/s totalrate ".toList ++
  Nat.toDigits 10 dropouts.toNat ++ " dropouts".toList

end SampleCapture.ProgressLine
