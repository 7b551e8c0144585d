/-!
# Progress of a transfer

A tracker turns a running byte count into reports that are at least one interval
apart. Instants are nanoseconds on any scale and need not be in order: a span that
would be negative counts as zero.
-/

namespace SampleCapture

structure ProgressSnapshot where
  /-- Seconds since the transfer started. -/
  elapsed : Float
  /-- Bytes since the transfer started. -/
  total : UInt64
  /-- Bytes since the report before. -/
  period : UInt64
  /-- Bytes per second over the last period. -/
  currentRate : Float
  /-- Bytes per second since the transfer started. -/
  totalRate : Float
deriving Repr, Inhabited

def span (first last : Int) : Nat :=
  (last - first).toNat

def nanosPerSecond : Nat := 1000000000

/-- A span in seconds: whole seconds and nanoseconds are converted apart and added. -/
def seconds (nanos : Nat) : Float :=
  (nanos / nanosPerSecond).toUInt64.toFloat + (nanos % nanosPerSecond).toUInt64.toFloat / 1e9

/-- Bytes per second, zero over no time at all. -/
def rate (bytes : UInt64) (time : Float) : Float :=
  if time > 0.0 then bytes.toFloat / time else 0.0

structure Tracker where
  interval : Nat
  started : Int
  lastReport : Int
  lastTotal : UInt64
  total : UInt64
deriving Repr, DecidableEq, Inhabited

namespace Tracker

/-- The interval that no clock ever reaches: as many whole seconds as a 64-bit word
counts, and all nanoseconds of one more. -/
def never : Nat :=
  (UInt64.size - 1) * nanosPerSecond + (nanosPerSecond - 1)

def start (interval : Nat) (now : Int) : Tracker where
  interval := interval
  started := now
  lastReport := now
  lastTotal := 0
  total := 0

/-- Counts fresh bytes; the total stays at its greatest value. -/
def record (tracker : Tracker) (bytes : Nat) : Tracker :=
  { tracker with total := (min (UInt64.size - 1) (tracker.total.toNat + bytes)).toUInt64 }

/-- The report due at an instant and the tracker after it; nothing before a whole
interval has passed since the last report. -/
def poll (tracker : Tracker) (now : Int) : Option (ProgressSnapshot × Tracker) :=
  let period := span tracker.lastReport now
  if period < tracker.interval then none
  else
    let elapsed := seconds (span tracker.started now)
    let bytes := tracker.total - tracker.lastTotal
    let report : ProgressSnapshot :=
      { elapsed := elapsed
        total := tracker.total
        period := bytes
        currentRate := rate bytes (seconds period)
        totalRate := rate tracker.total elapsed }
    some (report, { tracker with lastReport := now, lastTotal := tracker.total })

theorem total_record (tracker : Tracker) (bytes : Nat) :
    (tracker.record bytes).total.toNat = min (UInt64.size - 1) (tracker.total.toNat + bytes) := by
  simp only [record, Nat.toUInt64_eq, UInt64.toNat_ofNat', UInt64.size]
  omega

end Tracker

end SampleCapture
