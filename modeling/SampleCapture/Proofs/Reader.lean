import SampleCapture.Reader

/-!
# The course of a transfer

What a reader source would deliver if nobody stopped it depends on the items, the chunk size
and the clock. With any callback it makes these calls, in this order, up to the first one
that is answered with a stop. If all reads find something, the calls together carry the
content of the items, wherever these are cut.
-/

namespace SampleCapture

namespace Reader

/-! ## Calls in advance -/

/-- The calls of a transfer that is never stopped, and the fault at its end. -/
def course (chunk : Nat) (clock : Nat → Int) (tracker : Tracker) (polls : Nat) :
    List ReadItem → List Delivery × Option Fault
  | [] => ([], none)
  | .data [] :: _ => ([], none)
  | .fault fault :: rest =>
      if fault.isInterrupted then course chunk clock tracker polls rest else ([], some fault)
  | .data (byte :: bytes) :: rest =>
      let burst := (byte :: bytes).take (chunk + 1)
      let counted := tracker.record burst.length
      let next := leftover (chunk + 1) (byte :: bytes) rest
      match counted.poll (clock polls) with
      | none =>
          let later := course chunk clock counted (polls + 1) next
          ({ bytes := burst, report := none } :: later.1, later.2)
      | some (report, reported) =>
          let later := course chunk clock reported (polls + 1) next
          ({ bytes := burst, report := none } :: { bytes := [], report := some report } :: later.1,
            later.2)
termination_by items => weight items
decreasing_by
  · simp only [weight]; omega
  · exact weight_leftover ..
  · exact weight_leftover ..

/-- A callback gets one call after the other until it answers with a stop. -/
def feed {σ : Type} (sink : σ → Delivery → Answer × σ) (fault : Option Fault) (state : σ) :
    List Delivery → Option Fault × σ
  | [] => (fault, state)
  | call :: calls =>
      match sink state call with
      | (.stop, state) => (none, state)
      | (.continue, state) => feed sink fault state calls

/-- What a callback answers only decides how far a transfer gets. -/
theorem stream_eq_feed {σ : Type} (sink : σ → Delivery → Answer × σ) (chunk : Nat)
    (clock : Nat → Int) (tracker : Tracker) (polls : Nat) (state : σ) (items : List ReadItem) :
    stream chunk sink clock tracker polls state items =
      feed sink (course chunk clock tracker polls items).2 state
        (course chunk clock tracker polls items).1 := by
  fun_induction course chunk clock tracker polls items generalizing state with
  | case1 tracker polls => rw [stream, feed]
  | case2 tracker polls rest => rw [stream, feed]
  | case3 tracker polls fault rest interrupted ih => rw [stream, if_pos interrupted, ih]
  | case4 tracker polls fault rest fatal => rw [stream, if_neg fatal, feed]
  | case5 tracker polls byte bytes rest burst counted next silent later ih =>
      rw [stream, feed]
      rcases sink state { bytes := burst, report := none } with ⟨_ | _, after⟩
      · dsimp only
        rw [silent]
        exact ih after
      · rfl
  | case6 tracker polls byte bytes rest burst counted next report reported due later ih =>
      rw [stream, feed]
      rcases sink state { bytes := burst, report := none } with ⟨_ | _, after⟩
      · dsimp only
        rw [due, feed]
        dsimp only
        rcases sink after { bytes := [], report := some report } with ⟨_ | _, after⟩
        · exact ih after
        · rfl
      · rfl

/-! ## Items without a failure -/

/-- Every read finds something, or is interrupted and made again. -/
def Readable (items : List ReadItem) : Prop :=
  ∀ item ∈ items, match item with
    | .data bytes => bytes ≠ []
    | .fault fault => fault.isInterrupted = true

def content : List ReadItem → List UInt8
  | [] => []
  | .data bytes :: rest => bytes ++ content rest
  | .fault _ :: rest => content rest

theorem content_leftover (chunk : Nat) (bytes : List UInt8) (rest : List ReadItem) :
    content (leftover chunk bytes rest) = bytes.drop chunk ++ content rest := by
  unfold leftover
  split
  · rename_i nothing
    rw [nothing, List.nil_append]
  · rfl

theorem Readable.leftover {bytes : List UInt8} {rest : List ReadItem}
    (readable : Readable (.data bytes :: rest)) (chunk : Nat) :
    Readable (leftover chunk bytes rest) := by
  have later : Readable rest := fun item member => readable item (List.mem_cons_of_mem _ member)
  unfold Reader.leftover
  split
  · exact later
  · rename_i left
    intro item member
    rcases List.mem_cons.mp member with rfl | member
    · exact left
    · exact later item member

/-- The calls carry the content, in at most two calls for each byte. -/
theorem course_of_readable (chunk : Nat) (clock : Nat → Int) (tracker : Tracker) (polls : Nat)
    {items : List ReadItem} (readable : Readable items) :
    (course chunk clock tracker polls items).2 = none ∧
      (course chunk clock tracker polls items).1.flatMap (·.bytes) = content items ∧
      (course chunk clock tracker polls items).1.length ≤ 2 * (content items).length := by
  fun_induction course chunk clock tracker polls items with
  | case1 tracker polls => exact ⟨rfl, rfl, Nat.le_refl _⟩
  | case2 tracker polls rest => exact absurd rfl (readable _ List.mem_cons_self)
  | case3 tracker polls fault rest interrupted ih =>
      exact ih fun item member => readable item (List.mem_cons_of_mem _ member)
  | case4 tracker polls fault rest fatal => exact absurd (readable _ List.mem_cons_self) fatal
  | case5 tracker polls byte bytes rest burst counted next silent later ih =>
      obtain ⟨ended, carried, few⟩ := ih (readable.leftover _)
      rw [content_leftover] at carried few
      have cut := List.take_append_drop (chunk + 1) (byte :: bytes)
      refine ⟨ended, ?_, ?_⟩
      · rw [List.flatMap_cons, carried, ← List.append_assoc, cut]
        rfl
      · change later.1.length ≤ _ at few
        simp only [content, List.length_append, List.length_drop, List.length_cons] at few ⊢
        omega
  | case6 tracker polls byte bytes rest burst counted next report reported due later ih =>
      obtain ⟨ended, carried, few⟩ := ih (readable.leftover _)
      rw [content_leftover] at carried few
      have cut := List.take_append_drop (chunk + 1) (byte :: bytes)
      refine ⟨ended, ?_, ?_⟩
      · rw [List.flatMap_cons, List.flatMap_cons, carried, List.nil_append, ← List.append_assoc, cut]
        rfl
      · change later.1.length ≤ _ at few
        simp only [content, List.length_append, List.length_drop, List.length_cons] at few ⊢
        omega

/-! ## Answers in advance -/

/-- A callback that keeps its calls and gives the answers laid down for it; when there are
none left it lets the transfer go on. -/
def answering (seat : List Answer × List Delivery) (delivery : Delivery) :
    Answer × List Answer × List Delivery :=
  (seat.1.headD .continue, seat.1.tail, seat.2 ++ [delivery])

def untilStop : List Answer → List Delivery → List Delivery
  | _, [] => []
  | [], calls => calls
  | .stop :: _, call :: _ => [call]
  | .continue :: answers, call :: calls => call :: untilStop answers calls

@[simp] theorem untilStop_nil (calls : List Delivery) : untilStop [] calls = calls := by
  cases calls <;> rfl

theorem feed_answering (fault : Option Fault) (answers : List Answer)
    (kept calls : List Delivery) :
    (feed answering fault (answers, kept) calls).2.2 = kept ++ untilStop answers calls := by
  induction calls generalizing answers kept with
  | nil => simp [feed, untilStop]
  | cons call calls ih =>
      rcases answers with _ | ⟨_ | _, answers⟩
      · simp [feed, answering, ih]
      · simp [feed, answering, ih, untilStop]
      · simp [feed, answering, untilStop]

theorem feed_none {σ : Type} (sink : σ → Delivery → Answer × σ) (state : σ)
    (calls : List Delivery) : (feed sink none state calls).1 = none := by
  induction calls generalizing state with
  | nil => rfl
  | cons call calls ih =>
      rw [feed]
      split
      · rfl
      · exact ih _

theorem untilStop_isPrefix (answers : List Answer) (calls : List Delivery) :
    untilStop answers calls <+: calls := by
  fun_induction untilStop answers calls with
  | case1 answers => exact List.prefix_refl _
  | case2 calls => exact List.prefix_refl _
  | case3 answers call calls => exact List.prefix_append [call] calls
  | case4 answers call calls ih => exact (List.prefix_cons_inj call).mpr ih

theorem untilStop_of_continue {answers : List Answer} (onward : .stop ∉ answers)
    (calls : List Delivery) : untilStop answers calls = calls := by
  fun_induction untilStop answers calls with
  | case1 answers => rfl
  | case2 calls => rfl
  | case3 answers call calls => exact absurd List.mem_cons_self onward
  | case4 answers call calls ih =>
      rw [ih fun member => onward (List.mem_cons_of_mem _ member)]

/-- A further answer only concerns the calls behind the next one. -/
theorem prefix_untilStop_append {front : List Delivery} (answers more : List Answer)
    (calls : List Delivery) (made : front <+: untilStop answers calls)
    (early : front.length ≤ answers.length + 1) : front <+: untilStop (answers ++ more) calls := by
  induction answers generalizing front calls with
  | nil =>
      rcases front with _ | ⟨call, _ | ⟨other, front⟩⟩
      · exact List.nil_prefix
      · rw [untilStop_nil] at made
        obtain ⟨later, rfl⟩ := made
        rcases more with _ | ⟨_ | _, more⟩ <;> simp [untilStop]
      · simp at early
  | cons answer answers ih =>
      cases calls with
      | nil => exact made
      | cons call calls =>
          cases answer with
          | stop => exact made
          | «continue» =>
              cases front with
              | nil => exact List.nil_prefix
              | cons first front =>
                  rw [untilStop, List.cons_prefix_cons] at made
                  rw [List.cons_append, untilStop, List.cons_prefix_cons]
                  exact ⟨made.1, ih calls made.2 (Nat.le_of_succ_le_succ early)⟩

end Reader

end SampleCapture
