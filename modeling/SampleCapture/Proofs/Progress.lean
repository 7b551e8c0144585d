import Mathlib.Data.List.Chain
import Mathlib.Data.List.Induction
import Mathlib.Tactic.Ring
import SampleCapture.Progress
import SampleCapture.Proofs.Slices

/-!
# Keeping count of a transfer

A tracker that is told of bytes and asked for reports at any instants, also at earlier ones
than before. What it has reported adds up to its total, which stays at the greatest value of a
word, and with a positive interval its reports are at least that far apart.
-/

namespace SampleCapture

/-! ## Totals -/

namespace Tracker

/-- A report gives the total, and what has come since the last one. -/
theorem poll_eq_some {tracker after : Tracker} {now : Int} {report : ProgressSnapshot}
    (due : tracker.poll now = some (report, after)) :
    report.total = tracker.total ∧ report.period = tracker.total - tracker.lastTotal ∧
      after.total = tracker.total ∧ after.lastTotal = tracker.total := by
  unfold poll at due
  dsimp only at due
  split at due
  · cases due
  · cases due
    exact ⟨rfl, rfl, rfl, rfl⟩

/-- A tracker that has counted so many bytes, as far as a word can count, and has reported so
many of them. -/
structure Counts (tracker : Tracker) (delivered reported : Nat) : Prop where
  total : tracker.total.toNat = min (UInt64.size - 1) delivered
  last : tracker.lastTotal.toNat = reported
  grown : reported ≤ tracker.total.toNat

theorem Counts.start (interval : Nat) (now : Int) : (start interval now).Counts 0 0 :=
  ⟨rfl, rfl, Nat.le_refl _⟩

theorem Counts.record {tracker : Tracker} {delivered reported : Nat}
    (counts : tracker.Counts delivered reported) (bytes : Nat) :
    (tracker.record bytes).Counts (delivered + bytes) reported := by
  have total := tracker.total_record bytes
  have before := counts.total
  have grown := counts.grown
  exact ⟨by omega, counts.last, by omega⟩

/-- The period of a report is what the total has grown by. -/
theorem Counts.poll {tracker after : Tracker} {delivered reported : Nat} {now : Int}
    {report : ProgressSnapshot} (counts : tracker.Counts delivered reported)
    (due : tracker.poll now = some (report, after)) :
    report.total.toNat = min (UInt64.size - 1) delivered ∧
      reported + report.period.toNat = report.total.toNat ∧
      after.Counts delivered (reported + report.period.toNat) := by
  obtain ⟨total, period, goesOn, last⟩ := poll_eq_some due
  have grown : tracker.lastTotal ≤ tracker.total :=
    UInt64.le_iff_toNat_le.mpr (counts.last ▸ counts.grown)
  have sum : reported + report.period.toNat = tracker.total.toNat := by
    rw [period, UInt64.toNat_sub_of_le _ _ grown, counts.last]
    exact Nat.add_sub_cancel' counts.grown
  refine ⟨by rw [total, counts.total], by rw [total, sum], ?_⟩
  rw [sum]
  exact ⟨by rw [goesOn, counts.total], by rw [last], Nat.le_of_eq (by rw [goesOn])⟩

end Tracker

/-! ## Calls on a tracker -/

inductive TrackerCall where
  | record (bytes : Nat)
  | poll (now : Int)

namespace TrackerCall

def bytes : TrackerCall → Nat
  | .record bytes => bytes
  | .poll _ => 0

def recorded (calls : List TrackerCall) : Nat :=
  (calls.map bytes).sum

theorem recorded_snoc (calls : List TrackerCall) (last : TrackerCall) :
    recorded (calls ++ [last]) = recorded calls + last.bytes := by
  simp [recorded]

end TrackerCall

structure TrackerNotice where
  instant : Int
  report : ProgressSnapshot

structure TrackerRun where
  tracker : Tracker
  notices : List TrackerNotice := []

namespace TrackerRun

def start (interval : Nat) (started : Int) : TrackerRun where
  tracker := .start interval started

def step (run : TrackerRun) : TrackerCall → TrackerRun
  | .record bytes => { run with tracker := run.tracker.record bytes }
  | .poll now =>
      match run.tracker.poll now with
      | none => run
      | some (report, after) =>
          { tracker := after
            notices := run.notices ++ [{ instant := now, report := report }] }

def run (run : TrackerRun) (calls : List TrackerCall) : TrackerRun :=
  calls.foldl step run

theorem run_snoc (run : TrackerRun) (calls : List TrackerCall) (last : TrackerCall) :
    run.run (calls ++ [last]) = (run.run calls).step last :=
  List.foldl_append

end TrackerRun

namespace TrackerNotice

def covered (notices : List TrackerNotice) : Nat :=
  (notices.map (·.report.period.toNat)).sum

def reported (notices : List TrackerNotice) : Nat :=
  notices.getLast?.elim 0 (·.report.total.toNat)

/-- The instant of the last report, or that of the start before the first. -/
def latest (started : Int) (notices : List TrackerNotice) : Int :=
  notices.getLast?.elim started (·.instant)

theorem covered_snoc (notices : List TrackerNotice) (last : TrackerNotice) :
    covered (notices ++ [last]) = covered notices + last.report.period.toNat := by
  simp [covered]

theorem reported_snoc (notices : List TrackerNotice) (last : TrackerNotice) :
    reported (notices ++ [last]) = last.report.total.toNat := by
  rw [reported, List.getLast?_concat]
  rfl

theorem latest_cons (started : Int) (first : TrackerNotice) (notices : List TrackerNotice) :
    latest started (first :: notices) = latest first.instant notices := by
  rw [latest, latest, List.getLast?_cons]
  cases notices.getLast? <;> rfl

theorem latest_snoc (started : Int) (notices : List TrackerNotice) (last : TrackerNotice) :
    latest started (notices ++ [last]) = last.instant := by
  rw [latest, List.getLast?_concat]
  rfl

/-- From the start to the last report each instant is at least one interval behind the one
before. -/
def Spaced (interval : Nat) (started : Int) (notices : List TrackerNotice) : Prop :=
  List.IsChain (fun earlier later : Int => earlier + interval ≤ later)
    (started :: notices.map (·.instant))

namespace Spaced

variable {interval : Nat} {started : Int} {notices : List TrackerNotice}

theorem snoc (spaced : Spaced interval started notices) {last : TrackerNotice}
    (apart : latest started notices + interval ≤ last.instant) :
    Spaced interval started (notices ++ [last]) := by
  induction notices generalizing started with
  | nil => exact List.isChain_cons_cons.mpr ⟨apart, List.isChain_singleton _⟩
  | cons first notices ih =>
      obtain ⟨behind, rest⟩ := List.isChain_cons_cons.mp spaced
      rw [latest_cons] at apart
      exact List.isChain_cons_cons.mpr ⟨behind, ih rest apart⟩

/-- With a positive interval the instants increase. -/
theorem increasing (spaced : Spaced interval started notices) (positive : 0 < interval) :
    (started :: notices.map (·.instant)).Pairwise (· < ·) := by
  refine List.isChain_iff_pairwise.mp (spaced.imp fun earlier later apart => ?_)
  omega

/-- The interval has passed once for every report. -/
theorem far (spaced : Spaced interval started notices) {index : Nat} {notice : TrackerNotice}
    (known : notices[index]? = some notice) :
    started + (index + 1) * interval ≤ notice.instant := by
  induction notices generalizing started index with
  | nil => cases known
  | cons first notices ih =>
      obtain ⟨apart, rest⟩ := List.isChain_cons_cons.mp spaced
      cases index with
      | zero =>
          cases known
          simpa using apart
      | succ index =>
          have later := ih rest known
          have steps : ((index + 1 : Nat) + 1 : Int) * interval =
              (index + 1) * interval + interval := by
            push_cast
            ring
          rw [steps]
          omega

end Spaced

end TrackerNotice

/-! ## The books of a tracker -/

namespace Tracker

theorem span_lt_iff (first last : Int) (interval : Nat) :
    span first last < interval ↔ ¬ (interval = 0 ∨ first + interval ≤ last) := by
  unfold span
  omega

/-- A poll gets a report when a whole interval has passed since the last one, and always if the
interval is zero. -/
theorem isSome_poll (tracker : Tracker) (now : Int) :
    (tracker.poll now).isSome = true ↔
      tracker.interval = 0 ∨ tracker.lastReport + tracker.interval ≤ now := by
  unfold poll
  dsimp only
  split
  · rename_i early
    exact iff_of_false nofun ((span_lt_iff _ _ _).mp early)
  · rename_i due
    rw [span_lt_iff, not_not] at due
    exact iff_of_true rfl due

/-- A report moves the last instant, and nothing else that is not counted. -/
theorem parts_poll {tracker after : Tracker} {now : Int} {report : ProgressSnapshot}
    (due : tracker.poll now = some (report, after)) :
    after.interval = tracker.interval ∧ after.lastReport = now := by
  unfold poll at due
  dsimp only at due
  split at due
  · cases due
  · cases due
    exact ⟨rfl, rfl⟩

end Tracker

namespace TrackerRun

open TrackerCall (recorded)
open TrackerNotice (covered reported latest Spaced)

structure Balanced (interval : Nat) (started : Int) (calls : List TrackerCall) (run : TrackerRun) :
    Prop where
  pace : run.tracker.interval = interval
  instant : run.tracker.lastReport = latest started run.notices
  counts : run.tracker.Counts (recorded calls) (covered run.notices)
  telescoped : covered run.notices = reported run.notices
  spaced : 0 < interval → Spaced interval started run.notices

namespace Balanced

variable {interval : Nat} {started : Int} {calls : List TrackerCall} {run : TrackerRun}

theorem start (interval : Nat) (started : Int) :
    Balanced interval started [] (TrackerRun.start interval started) :=
  ⟨rfl, rfl, .start interval started, rfl, fun _ => List.isChain_singleton _⟩

theorem record (balanced : Balanced interval started calls run) (bytes : Nat) :
    Balanced interval started (calls ++ [.record bytes]) (run.step (.record bytes)) := by
  refine ⟨balanced.pace, balanced.instant, ?_, balanced.telescoped, balanced.spaced⟩
  rw [TrackerCall.recorded_snoc]
  exact balanced.counts.record bytes

theorem poll (balanced : Balanced interval started calls run) {now : Int}
    {report : ProgressSnapshot} {after : Tracker}
    (due : run.tracker.poll now = some (report, after)) :
    Balanced interval started (calls ++ [.poll now])
      { tracker := after
        notices := run.notices ++ [{ instant := now, report := report }] } := by
  obtain ⟨kept, moved⟩ := Tracker.parts_poll due
  obtain ⟨-, sum, counts⟩ := balanced.counts.poll due
  constructor
  case pace => exact kept.trans balanced.pace
  case instant => rw [TrackerNotice.latest_snoc, moved]
  case counts =>
    rw [TrackerCall.recorded_snoc, TrackerNotice.covered_snoc]
    exact counts
  case telescoped => rw [TrackerNotice.covered_snoc, TrackerNotice.reported_snoc, sum]
  case spaced =>
    intro positive
    refine (balanced.spaced positive).snoc ?_
    have passed := (run.tracker.isSome_poll now).mp (by rw [due]; rfl)
    rw [balanced.pace, balanced.instant] at passed
    exact passed.resolve_left (Nat.ne_of_gt positive)

theorem step (balanced : Balanced interval started calls run) (last : TrackerCall) :
    Balanced interval started (calls ++ [last]) (run.step last) := by
  cases last with
  | record bytes => exact balanced.record bytes
  | poll now =>
      rw [TrackerRun.step]
      cases due : run.tracker.poll now with
      | some found => exact balanced.poll due
      | none =>
          refine ⟨balanced.pace, balanced.instant, ?_, balanced.telescoped, balanced.spaced⟩
          rw [TrackerCall.recorded_snoc]
          exact balanced.counts

theorem of_run (interval : Nat) (started : Int) (calls : List TrackerCall) :
    Balanced interval started calls ((TrackerRun.start interval started).run calls) := by
  induction calls using List.reverseRecOn with
  | nil => exact start interval started
  | append_singleton calls last ih =>
      rw [run_snoc]
      exact ih.step last

end Balanced

/-- Where a report stands in a row of calls, and what it says there: the total of that moment,
and by how much it has grown since the report before. -/
def Told (interval : Nat) (started : Int) (calls : List TrackerCall) (before : List TrackerNotice)
    (notice : TrackerNotice) : Prop :=
  ∃ earlier later, calls = earlier ++ .poll notice.instant :: later ∧
    ((start interval started).run earlier).notices = before ∧
    notice.report.total = ((start interval started).run earlier).tracker.total ∧
    reported before + notice.report.period.toNat = notice.report.total.toNat

theorem Told.later {interval : Nat} {started : Int} {calls : List TrackerCall}
    {before : List TrackerNotice} {notice : TrackerNotice}
    (told : Told interval started calls before notice)
    (last : TrackerCall) : Told interval started (calls ++ [last]) before notice := by
  obtain ⟨earlier, later, rfl, rest⟩ := told
  exact ⟨earlier, later ++ [last], by simp, rest⟩

theorem told_of_run (interval : Nat) (started : Int) {calls : List TrackerCall}
    {before after : List TrackerNotice} {notice : TrackerNotice}
    (found : ((start interval started).run calls).notices = before ++ notice :: after) :
    Told interval started calls before notice := by
  induction calls using List.reverseRecOn generalizing after with
  | nil => exact absurd found (by simp [start, run])
  | append_singleton calls last ih =>
      rw [run_snoc] at found
      cases last with
      | record bytes => exact (ih found).later _
      | poll now =>
          rw [step] at found
          cases due : ((start interval started).run calls).tracker.poll now with
          | none =>
              rw [due] at found
              exact (ih found).later _
          | some polled =>
              obtain ⟨report, tracker⟩ := polled
              rw [due] at found
              rcases cases_of_snoc found with ⟨same, new⟩ | ⟨front, earlier⟩
              · cases new
                have balanced := Balanced.of_run interval started calls
                obtain ⟨-, sum, -⟩ := balanced.counts.poll due
                rw [balanced.telescoped, same] at sum
                exact ⟨calls, [], rfl, same, (Tracker.poll_eq_some due).1, sum⟩
              · exact (ih earlier).later _

/-- What a tracker and its reports come to after any row of calls, with instants in any order. -/
structure Kept (interval : Nat) (started : Int) (calls : List TrackerCall) (run : TrackerRun) :
    Prop where
  /-- The total is what has been recorded, as far as a word can count. -/
  total : run.tracker.total.toNat = min (2 ^ 64 - 1) (recorded calls)
  /-- No period goes below zero. -/
  grown : run.tracker.lastTotal ≤ run.tracker.total
  told : ∀ before notice after, run.notices = before ++ notice :: after →
    Told interval started calls before notice
  /-- All periods together are the total of the last report. -/
  periods : covered run.notices = reported run.notices
  /-- A poll without a report changes nothing. -/
  silent : ∀ now, run.tracker.poll now = none → run.step (.poll now) = run
  /-- Between two reports, and before the first, there is at least one interval. -/
  spaced : 0 < interval → Spaced interval started run.notices
  increasing : 0 < interval → (run.notices.map (·.instant)).Pairwise (· < ·)
  /-- There is one interval for every report. -/
  far : 0 < interval → ∀ (index : Nat) (notice : TrackerNotice), run.notices[index]? = some notice →
    started + (index + 1) * interval ≤ notice.instant
  /-- A poll gets a report when a whole interval has passed since the last one, and only then,
  unless the interval is zero. -/
  due : ∀ now, (run.tracker.poll now).isSome = true ↔
    interval = 0 ∨ latest started run.notices + interval ≤ now

/-- A tracker keeps count in any row of calls. -/
theorem kept_of_run (interval : Nat) (started : Int) (calls : List TrackerCall) :
    Kept interval started calls ((start interval started).run calls) := by
  have balanced := Balanced.of_run interval started calls
  constructor
  case total => exact balanced.counts.total
  case grown =>
    rw [UInt64.le_iff_toNat_le, balanced.counts.last]
    exact balanced.counts.grown
  case told => exact fun before notice after found => told_of_run interval started found
  case periods => exact balanced.telescoped
  case silent =>
    intro now none
    rw [step, none]
  case spaced => exact balanced.spaced
  case increasing =>
    intro positive
    exact (List.pairwise_cons.mp ((balanced.spaced positive).increasing positive)).2
  case far => exact fun positive index notice known => (balanced.spaced positive).far known
  case due =>
    intro now
    rw [Tracker.isSome_poll, balanced.pace, balanced.instant]

/-- Without an interval every poll gets a report, also one that goes back behind the last. -/
example :
    ((start 0 100).run [.record 5, .poll 110, .record 7, .poll 95, .poll 96]).notices.map
        (fun notice => (notice.instant, notice.report.period, notice.report.total)) =
      [(110, 5, 5), (95, 7, 12), (96, 0, 12)] := rfl

end TrackerRun

end SampleCapture
