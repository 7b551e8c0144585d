import SampleCapture.Proofs.Progress
import SampleCapture.Proofs.Reader.Transcript

/-!
# What a transfer delivers

With any items, any chunk size, any clock and any callback: the bursts carry what has been
read, the reports count what has been delivered, nothing is done after a stop, and the
transfer ends with a fault exactly if that comes before any stop and any empty read. Reads
that are interrupted only add themselves to what is done.
-/

namespace SampleCapture

namespace Reader

/-! ## Reads -/

theorem length_of_fetch {room : Nat} {items left : List ReadItem} {burst : List UInt8}
    (found : fetch room items = (.bytes burst, left)) : burst.length ≤ room := by
  unfold fetch at found
  split at found <;> cases found
  · exact Nat.zero_le _
  · exact List.length_take_le _ _

def fetches (room : Nat) : Nat → List ReadItem → List ReadResult
  | 0, _ => []
  | count + 1, items => (fetch room items).1 :: fetches room count (fetch room items).2

def fetched (acts : List Act) : List UInt8 :=
  acts.flatMap Act.fetched

def delivered (acts : List Act) : List UInt8 :=
  acts.flatMap Act.delivered

def covered (acts : List Act) : Nat :=
  acts.foldl (fun total act => total + act.period) 0

def reads (acts : List Act) : List ReadResult :=
  acts.filterMap Act.read?

namespace Transfer

variable {σ : Type} {chunk : Nat} {sink : σ → Delivery → Answer × σ} {clock : Nat → Int}
  {tracker : Tracker} {polls : Nat} {state : σ} {items : List ReadItem} {whole : Transcript σ}

/-- The reads are those of the items, in their order. -/
theorem reads_eq (transfer : Transfer chunk sink clock tracker polls state items whole) :
    reads whole.acts = fetches (chunk + 1) (reads whole.acts).length items := by
  induction transfer with
  | ended found | failed found | halted found | haltedReport found =>
      simp [reads, List.filterMap_cons, Act.read?, fetches, found]
  | interrupted found again rest ih | silent found filled told early rest ih
  | reported found filled told due onward rest ih =>
      rw [reads] at ih ⊢
      simpa [Transcript.after, List.filterMap_cons, Act.read?, fetches, found] using ih

theorem delivered_eq (transfer : Transfer chunk sink clock tracker polls state items whole) :
    delivered whole.acts = fetched whole.acts := by
  induction transfer with
  | ended | failed | halted | haltedReport =>
      simp [delivered, fetched, Act.delivered, Act.fetched]
  | interrupted found again rest ih | silent found filled told early rest ih
  | reported found filled told due onward rest ih =>
      rw [delivered, fetched] at ih ⊢
      simp [Transcript.after, Act.delivered, Act.fetched, ih]

end Transfer

/-! ## Which act may come next -/

inductive Next {σ : Type} (room : Nat) (sink : σ → Delivery → Answer × σ) (start : σ)
    (past : List Act) : Act → Prop where
  | read {result : ReadResult} (free : ∀ last ∈ past.getLast?, last.goesOn = true) :
      Next room sink start past (.read result)
  /-- What has been read is delivered. -/
  | burst {bytes : List UInt8} {answer : Answer}
      (found : past.getLast? = some (.read (.bytes bytes))) (filled : bytes ≠ [])
      (short : bytes.length ≤ room)
      (told : (sink (past.foldl (Act.feed sink) start) { bytes := bytes, report := none }).1 =
        answer) :
      Next room sink start past (.burst bytes answer)
  /-- After a burst that has been answered with a continue there may be a report of all bytes
  delivered so far, as far as a word can count, and of those that have not been reported. -/
  | report {report : ProgressSnapshot} {answer : Answer}
      (behind : ∃ bytes, past.getLast? = some (.burst bytes .continue))
      (total : report.total.toNat = min (UInt64.size - 1) (delivered past).length)
      (period : covered past + report.period.toNat = report.total.toNat)
      (told : (sink (past.foldl (Act.feed sink) start)
        { bytes := [], report := some report }).1 = answer) :
      Next room sink start past (.report report answer)

/-- Every act meets a condition on what has been done before it. -/
def Heeds (meets : List Act → Act → Prop) (past : List Act) : List Act → Prop
  | [] => True
  | act :: acts => meets past act ∧ Heeds meets (past ++ [act]) acts

theorem Heeds.split {meets : List Act → Act → Prop} {past before after : List Act} {act : Act}
    (heeds : Heeds meets past (before ++ act :: after)) : meets (past ++ before) act := by
  induction before generalizing past with
  | nil => simpa using heeds.1
  | cons first before ih => simpa using ih heeds.2

namespace Transfer

variable {σ : Type} {chunk : Nat} {sink : σ → Delivery → Answer × σ} {clock : Nat → Int}
  {tracker : Tracker} {polls : Nat} {state start : σ} {items : List ReadItem}
  {whole : Transcript σ}

theorem next_burst {past : List Act} {burst : List UInt8} {answer : Answer} {after : σ}
    (fed : past.foldl (Act.feed sink) start = state) (filled : burst ≠ [])
    (short : burst.length ≤ chunk + 1)
    (told : sink state { bytes := burst, report := none } = (answer, after)) :
    Next (chunk + 1) sink start (past ++ [.read (.bytes burst)]) (.burst burst answer) :=
  .burst List.getLast?_concat filled short (by simp [Act.feed, fed, told])

/-- The tracker after a burst has been read and delivered. -/
theorem counts_burst {past : List Act} (counts : tracker.Counts (delivered past).length
    (covered past)) (burst : List UInt8) (answer : Answer) :
    (tracker.record burst.length).Counts
      (delivered (past ++ [.read (.bytes burst)] ++ [.burst burst answer])).length
      (covered (past ++ [.read (.bytes burst)] ++ [.burst burst answer])) := by
  simpa [delivered, covered, Act.delivered, Act.period] using counts.record burst.length

theorem fed_burst {past : List Act} {burst : List UInt8} {answer : Answer} {after : σ}
    (fed : past.foldl (Act.feed sink) start = state)
    (told : sink state { bytes := burst, report := none } = (answer, after)) :
    (past ++ [Act.read (.bytes burst)] ++ [Act.burst burst answer]).foldl (Act.feed sink) start =
      after := by
  simp [Act.feed, fed, told]

theorem next_report {past : List Act} {burst : List UInt8} {report : ProgressSnapshot}
    {answer : Answer} {after : σ} {now : Int} {reported : Tracker}
    (behind : past.getLast? = some (.burst burst .continue))
    (counts : tracker.Counts (delivered past).length (covered past))
    (fed : past.foldl (Act.feed sink) start = state)
    (due : tracker.poll now = some (report, reported))
    (told : sink state { bytes := [], report := some report } = (answer, after)) :
    Next (chunk + 1) sink start past (.report report answer) := by
  obtain ⟨total, period, -⟩ := counts.poll due
  exact .report ⟨burst, behind⟩ total period (by rw [fed, told])

/-- Every act of a transfer may come where it comes. -/
theorem heeds (transfer : Transfer chunk sink clock tracker polls state items whole)
    {past : List Act} (counts : tracker.Counts (delivered past).length (covered past))
    (fed : past.foldl (Act.feed sink) start = state)
    (free : ∀ last ∈ past.getLast?, last.goesOn = true) :
    Heeds (Next (chunk + 1) sink start) past whole.acts := by
  -- The past grows along the transfer, and the tracker keeps to what it has delivered.
  induction transfer generalizing past with
  | ended | failed => exact ⟨.read free, trivial⟩
  | interrupted found again rest ih =>
      refine ⟨.read free, ih ?_ ?_ ?_⟩
      · simpa [delivered, covered, Act.delivered, Act.period] using counts
      · simpa [Act.feed] using fed
      · simpa [Act.goesOn] using again
  | halted found filled told =>
      exact ⟨.read free, next_burst fed filled (length_of_fetch found) told, trivial⟩
  | silent found filled told early rest ih =>
      exact ⟨.read free, next_burst fed filled (length_of_fetch found) told,
        ih (counts_burst counts _ _) (fed_burst fed told) (by simp [Act.goesOn])⟩
  | haltedReport found filled told due stopped =>
      exact ⟨.read free, next_burst fed filled (length_of_fetch found) told,
        next_report List.getLast?_concat (counts_burst counts _ _) (fed_burst fed told) due stopped,
        trivial⟩
  | @reported tracker after polls state next last items left burst report later found filled told
      due onward rest ih =>
      have counted := counts_burst counts burst .continue
      refine ⟨.read free, next_burst fed filled (length_of_fetch found) told,
        next_report List.getLast?_concat counted (fed_burst fed told) due onward, ih ?_ ?_ ?_⟩
      · have goesOn := (counted.poll due).2.2
        generalize past ++ [Act.read (.bytes burst)] ++ [Act.burst burst .continue] = past
          at goesOn ⊢
        simpa [delivered, covered, Act.delivered, Act.period] using goesOn
      · rw [List.foldl_append, fed_burst fed told]
        simp [Act.feed, onward]
      · simp [Act.goesOn]

/-- The callback's state comes from its calls. -/
theorem state_eq (transfer : Transfer chunk sink clock tracker polls state items whole) :
    whole.state = whole.acts.foldl (Act.feed sink) state := by
  induction transfer with
  | ended | failed => rfl
  | halted found filled told => simp [Act.feed, told]
  | haltedReport found filled told due stopped => simp [Act.feed, told, stopped]
  | interrupted found again rest ih => simpa [Transcript.after, Act.feed] using ih
  | silent found filled told early rest ih => simpa [Transcript.after, Act.feed, told] using ih
  | reported found filled told due onward rest ih =>
      simpa [Transcript.after, Act.feed, told, onward] using ih

end Transfer

/-- Nothing is done after a stop. -/
theorem Next.not_stopped {σ : Type} {room : Nat} {sink : σ → Delivery → Answer × σ} {start : σ}
    {past : List Act} {act : Act} {delivery : Delivery}
    (next : Next room sink start (past ++ [.call delivery .stop]) act) : False := by
  cases next with
  | read free => simp [Act.goesOn] at free
  | burst found => simp at found
  | report behind => simp at behind

/-! ## How a transfer ends -/

def Stopped (acts : List Act) : Prop :=
  ∃ delivery, .call delivery .stop ∈ acts

/-- Whether a read finds something, or is interrupted and made again. -/
def yields : ReadItem → Bool
  | .data bytes => !bytes.isEmpty
  | .fault fault => fault.isInterrupted

def failure : List ReadItem → Option Fault
  | .fault fault :: _ => some fault
  | [] | .data _ :: _ => none

theorem readable_iff (items : List ReadItem) : Readable items ↔ ∀ item ∈ items, yields item := by
  refine forall_congr' fun item => imp_congr_right fun _ => ?_
  cases item <;> simp [yields]

/-- A read that finds something takes it from the items that can be read. -/
theorem of_fetch_filled {room : Nat} {items left : List ReadItem} {burst : List UInt8}
    (found : fetch room items = (.bytes burst, left)) (filled : burst ≠ []) :
    content (items.takeWhile yields) = burst ++ content (left.takeWhile yields) ∧
      failure (items.dropWhile yields) = failure (left.dropWhile yields) := by
  match items with
  | [] => cases found; exact absurd rfl filled
  | .fault fault :: rest => cases found
  | .data bytes :: rest =>
      cases found
      have read : yields (.data bytes) = true := by
        cases bytes with
        | nil => exact absurd List.take_nil filled
        | cons => rfl
      -- What does not fit stays in front of the other items and is read next.
      have cut := List.take_append_drop room bytes
      rw [List.takeWhile_cons_of_pos read, List.dropWhile_cons_of_pos read, content]
      unfold leftover
      split
      · rename_i exhausted
        rw [exhausted, List.append_nil] at cut
        exact ⟨by rw [cut], rfl⟩
      · rename_i left
        have again : yields (.data (bytes.drop room)) = true := by
          simpa [yields] using left
        rw [List.takeWhile_cons_of_pos again, List.dropWhile_cons_of_pos again, content,
          ← List.append_assoc, cut]
        exact ⟨rfl, rfl⟩

theorem of_fetch_empty {room : Nat} {items left : List ReadItem}
    (found : fetch (room + 1) items = (.bytes [], left)) :
    items.takeWhile yields = [] ∧ failure (items.dropWhile yields) = none := by
  match items with
  | [] => exact ⟨rfl, rfl⟩
  | .fault fault :: rest => cases found
  | .data [] :: rest => exact ⟨rfl, rfl⟩
  | .data (byte :: bytes) :: rest => cases found

theorem of_fetch_fault {room : Nat} {items left : List ReadItem} {fault : Fault}
    (found : fetch room items = (.fault fault, left)) : items = .fault fault :: left := by
  match items with
  | [] | .data bytes :: rest => cases found
  | .fault fault :: rest => cases found; rfl

namespace Transfer

variable {σ : Type} {chunk : Nat} {sink : σ → Delivery → Answer × σ} {clock : Nat → Int}
  {tracker : Tracker} {polls : Nat} {state : σ} {items : List ReadItem} {whole : Transcript σ}

/-- A stop is no fault. -/
theorem fault_of_stopped (transfer : Transfer chunk sink clock tracker polls state items whole)
    (stopped : Stopped whole.acts) : whole.fault = none := by
  obtain ⟨delivery, stopped⟩ := stopped
  induction transfer with
  | ended | halted | haltedReport => rfl
  | failed => simp at stopped
  | interrupted found again rest ih | silent found filled told early rest ih
  | reported found filled told due onward rest ih =>
      exact ih (by simpa [Transcript.after] using stopped)

theorem onward_of_fault (transfer : Transfer chunk sink clock tracker polls state items whole)
    {fault : Fault} (failed : whole.fault = some fault) : ¬ Stopped whole.acts := fun stopped =>
  Option.some_ne_none fault (failed.symm.trans (transfer.fault_of_stopped stopped))

/-- A transfer that nobody stops delivers all that can be read, and fails if what comes then is
a fault. -/
theorem through (transfer : Transfer chunk sink clock tracker polls state items whole)
    (onward : ¬ Stopped whole.acts) :
    delivered whole.acts = content (items.takeWhile yields) ∧
      whole.fault = failure (items.dropWhile yields) := by
  induction transfer with
  | ended found =>
      obtain ⟨nothing, fine⟩ := of_fetch_empty found
      simp [delivered, Act.delivered, nothing, content, fine]
  | failed found fatal =>
      simp [of_fetch_fault found, yields, fatal, delivered, Act.delivered, content, failure]
  | interrupted found again rest ih =>
      obtain ⟨carried, ends⟩ := ih (by simpa [Stopped, Transcript.after] using onward)
      rw [delivered] at carried ⊢
      simp [of_fetch_fault found, yields, again, Transcript.after, Act.delivered, content, carried,
        ends]
  | halted | haltedReport => simp [Stopped] at onward
  | silent found filled told early rest ih | reported found filled told due answered rest ih =>
      obtain ⟨carried, ends⟩ := ih (by simpa [Stopped, Transcript.after] using onward)
      obtain ⟨cut, tail⟩ := of_fetch_filled found filled
      rw [delivered] at carried ⊢
      simp [Transcript.after, Act.delivered, carried, cut, ends, tail]

end Transfer

theorem of_readable_front {front rest : List ReadItem} {fault : Fault}
    (readable : Readable front) (fatal : fault.isInterrupted = false) :
    (front ++ .fault fault :: rest).takeWhile yields = front ∧
      failure ((front ++ .fault fault :: rest).dropWhile yields) = some fault := by
  have every := (readable_iff front).mp readable
  have stands : ¬ yields (.fault fault) = true := by simp [yields, fatal]
  rw [List.takeWhile_append_of_pos every, List.dropWhile_append_of_pos every,
    List.takeWhile_cons_of_neg stands, List.dropWhile_cons_of_neg stands, List.append_nil]
  exact ⟨rfl, rfl⟩

/-- The items fail with a fault that comes behind items that can be read. -/
theorem failure_dropWhile_iff (items : List ReadItem) (fault : Fault) :
    failure (items.dropWhile yields) = some fault ↔
      ∃ front rest, items = front ++ .fault fault :: rest ∧ Readable front ∧
        fault.isInterrupted = false := by
  constructor
  · intro failed
    have stands := List.head?_dropWhile_not yields items
    have cut := List.takeWhile_append_dropWhile (p := yields) (l := items)
    match tail : items.dropWhile yields with
    | [] | .data _ :: _ => simp [tail, failure] at failed
    | .fault found :: rest =>
        rw [tail] at failed stands cut
        cases failed
        exact ⟨_, rest, cut.symm, (readable_iff _).mpr (List.all_eq_true.mp List.all_takeWhile),
          stands⟩
  · rintro ⟨front, rest, rfl, readable, fatal⟩
    exact (of_readable_front readable fatal).2

/-! ## Interruptions -/

def uninterrupted (items : List ReadItem) : List ReadItem :=
  items.filter fun item => match item with
    | .data _ => true
    | .fault fault => !fault.isInterrupted

theorem uninterrupted_leftover (chunk : Nat) (bytes : List UInt8) (rest : List ReadItem) :
    uninterrupted (leftover chunk bytes rest) = leftover chunk bytes (uninterrupted rest) := by
  unfold leftover
  split <;> rfl

/-- Without the interruptions a transfer does the same, apart from the reads that were
interrupted. -/
theorem transcript_uninterrupted {σ : Type} (chunk : Nat) (sink : σ → Delivery → Answer × σ)
    (clock : Nat → Int) (tracker : Tracker) (polls : Nat) (state : σ) (items : List ReadItem) :
    transcript chunk sink clock tracker polls state (uninterrupted items) =
      { transcript chunk sink clock tracker polls state items with
        acts := (transcript chunk sink clock tracker polls state items).acts.filter
          (! ·.isInterruption) } := by
  fun_induction transcript chunk sink clock tracker polls state items with
  | case1 tracker polls state =>
      rw [uninterrupted, List.filter_nil, transcript]
      rfl
  | case2 tracker polls state rest =>
      rw [uninterrupted, List.filter_cons_of_pos rfl, transcript]
      rfl
  | case3 tracker polls state fault rest interrupted ih =>
      rw [uninterrupted, List.filter_cons_of_neg (by simp [interrupted]), ← uninterrupted, ih]
      simp [Transcript.after, Act.isInterruption, interrupted]
  | case4 tracker polls state fault rest fatal =>
      rw [uninterrupted, List.filter_cons_of_pos (by simp [fatal]), transcript, if_neg fatal]
      simp [Act.isInterruption, fatal]
  | case5 tracker polls state byte bytes rest burst after told =>
      rw [uninterrupted, List.filter_cons_of_pos rfl, transcript]
      dsimp only
      rw [told]
      rfl
  | case6 tracker polls state byte bytes rest burst after told counted next silent ih =>
      rw [uninterrupted, List.filter_cons_of_pos rfl, ← uninterrupted, transcript]
      dsimp only
      rw [told]
      dsimp only
      rw [silent]
      dsimp only
      rw [← uninterrupted_leftover, ih]
      rfl
  | case7 tracker polls state byte bytes rest burst after told counted report reported due last
      stopped =>
      rw [uninterrupted, List.filter_cons_of_pos rfl, transcript]
      dsimp only
      rw [told]
      dsimp only
      rw [due]
      dsimp only
      rw [stopped]
      rfl
  | case8 tracker polls state byte bytes rest burst after told counted next report reported due
      last onward ih =>
      rw [uninterrupted, List.filter_cons_of_pos rfl, ← uninterrupted, transcript]
      dsimp only
      rw [told]
      dsimp only
      rw [due]
      dsimp only
      rw [onward]
      dsimp only
      rw [← uninterrupted_leftover, ih]
      rfl

/-! ## Whole transfers -/

/-- A transfer that delivers what it reads. -/
structure Faithful {σ : Type} (room : Nat) (sink : σ → Delivery → Answer × σ) (start : σ)
    (items : List ReadItem) (whole : Transcript σ) : Prop where
  /-- Every act may come where it comes. -/
  next : ∀ past act later, whole.acts = past ++ act :: later → Next room sink start past act
  /-- The reads are those of the items, in their order. -/
  read : reads whole.acts = fetches room (reads whole.acts).length items
  delivered : delivered whole.acts = fetched whole.acts
  state : whole.state = whole.acts.foldl (Act.feed sink) start
  /-- Nothing is done after a stop, which is no fault. -/
  stop : ∀ past delivery later, whole.acts = past ++ .call delivery .stop :: later →
    later = [] ∧ whole.fault = none
  /-- The transfer fails exactly if nobody stops it and a fault that is not an interruption
  comes before any empty read. -/
  fault : ∀ fault, whole.fault = some fault ↔ ¬ Stopped whole.acts ∧
    ∃ front rest, items = front ++ .fault fault :: rest ∧ Readable front ∧
      fault.isInterrupted = false
  /-- What comes before the fault has been delivered. -/
  drained : ∀ front fault rest, items = front ++ .fault fault :: rest → Readable front →
    fault.isInterrupted = false → whole.fault = some fault →
    Reader.delivered whole.acts = content front

theorem Transfer.faithful {σ : Type} {chunk : Nat} {sink : σ → Delivery → Answer × σ}
    {clock : Nat → Int} {interval : Nat} {started : Int} {start : σ} {items : List ReadItem}
    {whole : Transcript σ}
    (transfer : Transfer chunk sink clock (.start interval started) 0 start items whole) :
    Faithful (chunk + 1) sink start items whole := by
  have heeds : Heeds (Next (chunk + 1) sink start) [] whole.acts :=
    transfer.heeds (.start interval started) rfl (by simp)
  refine
    { next := fun past act later cut => ?_
      read := transfer.reads_eq
      delivered := transfer.delivered_eq
      state := transfer.state_eq
      stop := fun past delivery later cut => ⟨?_, ?_⟩
      fault := fun fault => ⟨fun failed => ?_, fun ⟨onward, behind⟩ => ?_⟩
      drained := fun front fault rest cut readable fatal failed => ?_ }
  · rw [cut] at heeds
    exact heeds.split
  · cases later with
    | nil => rfl
    | cons act later =>
        rw [cut, List.append_cons] at heeds
        exact heeds.split.not_stopped.elim
  · exact transfer.fault_of_stopped ⟨delivery, by simp [cut]⟩
  · have onward := transfer.onward_of_fault failed
    rw [(transfer.through onward).2] at failed
    exact ⟨onward, (failure_dropWhile_iff items fault).mp failed⟩
  · rw [(transfer.through onward).2]
    exact (failure_dropWhile_iff items fault).mpr behind
  · rw [(transfer.through (transfer.onward_of_fault failed)).1, cut,
      (of_readable_front readable fatal).1]

/-- Every transfer delivers what it reads, and interruptions change nothing else. -/
theorem run_faithful {σ : Type} (chunk interval : Nat) (clock : Nat → Int) (started : Int)
    (sink : σ → Delivery → Answer × σ) (start : σ) (items : List ReadItem) :
    run chunk interval clock started sink start items =
        ((trace chunk interval clock started sink start items).fault,
          (trace chunk interval clock started sink start items).state) ∧
      Faithful (max chunk 1) sink start items
        (trace chunk interval clock started sink start items) ∧
      trace chunk interval clock started sink start (uninterrupted items) =
        { trace chunk interval clock started sink start items with
          acts := (trace chunk interval clock started sink start items).acts.filter
            (! ·.isInterruption) } := by
  refine ⟨run_eq_trace .., ?_, transcript_uninterrupted ..⟩
  have room : max chunk 1 = chunk - 1 + 1 := by omega
  rw [room]
  exact (transfer_transcript ..).faithful

end Reader

end SampleCapture
