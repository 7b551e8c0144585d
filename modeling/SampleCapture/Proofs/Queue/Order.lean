import SampleCapture.Proofs.Queue.Run

/-!
# First in, first out

Under every interleaving the bytes come out of a channel in the order in which they
went in, each once: while the consumer is there, what was popped and what is queued
make up what was accepted, and that is a prefix of everything pushed. A pop gets
nothing only at the end of the stream, and a push is refused only when the consumer
has gone, from then on always.
-/

namespace SampleCapture

namespace ChannelRun

/-! ## Calls and phases -/

/-- A call is in progress exactly when its party is in a phase of that call. -/
structure Paired (run : ChannelRun) : Prop where
  linked : run.channel.Linked
  pushing : run.pushing.isSome = run.channel.producer.inPush
  limit : ∀ {limit}, run.channel.consumer.limit? = some limit →
    run.popping = some limit
  /-- A pop in progress holds bytes within its limit, once it has taken some. -/
  inHand : run.channel.consumer.inHand.length ≤ run.popping.getD 0
  owing : run.channel.consumer ≠ .owing []

theorem Paired.start (capacity : Nat) : (start capacity).Paired where
  linked := .create capacity
  pushing := rfl
  limit phase := by cases phase
  inHand := Nat.zero_le _
  owing phase := by cases phase

theorem Paired.pushing_of_inPush {run : ChannelRun} (paired : run.Paired)
    (outside : run.channel.producer.inPush = false) : run.pushing = none := by
  simpa [outside] using paired.pushing

theorem Paired.afterProducer {run : ChannelRun} (paired : run.Paired)
    {channel : Channel} {result : Option PushResult}
    (step : Channel.ProducerStep run.channel channel result) :
    (run.afterProducer channel result).Paired where
  linked := paired.linked.producer step
  pushing := by
    have pushing := paired.pushing
    cases step with
    | nothing | refused | last | woke => rfl
    | put ready | piece ready =>
        simpa [ChannelRun.afterProducer, ready, ProducerPhase.inPush] using pushing
    | left closing => simpa [ChannelRun.afterProducer, closing, ProducerPhase.inPush] using pushing
  limit := by
    intro limit phase
    apply paired.limit
    cases step with
    | piece =>
        simp only [ChannelRun.afterProducer] at phase
        split at phase
        · exact phase
        · simpa using phase
    | _ => simpa [ChannelRun.afterProducer] using phase
  inHand := by
    simpa only [ChannelRun.afterProducer, step.inHand] using paired.inHand
  owing := by
    have owing := paired.owing
    cases step with
    | piece =>
        simp only [ChannelRun.afterProducer]
        split
        · exact owing
        · simpa using owing
    | _ => simpa [ChannelRun.afterProducer] using owing

theorem Paired.afterConsumer {run : ChannelRun} (paired : run.Paired)
    {channel : Channel} {result : Option (List UInt8)}
    (step : Channel.ConsumerStep run.channel channel result) :
    (run.afterConsumer channel result).Paired where
  linked := paired.linked.consumer step
  pushing := by
    have pushing := paired.pushing
    cases step <;> simpa [ChannelRun.afterConsumer] using pushing
  limit := by
    intro limit phase
    cases step with
    | wait ready =>
        have known := @paired.limit limit
        simp_all [ChannelRun.afterConsumer, ConsumerPhase.limit?]
    | _ => simp [ChannelRun.afterConsumer, ConsumerPhase.limit?] at phase
  inHand := by
    cases step with
    | make ready positive filled =>
        have known := paired.limit (ConsumerPhase.limit?_of_ready ready)
        simp only [ChannelRun.afterConsumer, ConsumerPhase.inHand, known, Option.getD_some]
        exact List.length_take_le _ _
    | _ => simp [ChannelRun.afterConsumer, ConsumerPhase.inHand]
  owing := by
    cases step with
    | make ready positive filled =>
        simp [ChannelRun.afterConsumer, positive, filled]
    | _ => simp [ChannelRun.afterConsumer]

theorem Paired.step {run next : ChannelRun} (step : run.Step next)
    (paired : run.Paired) : next.Paired := by
  cases step with
  | push bytes idle =>
      exact ⟨paired.linked.beginPush idle bytes, rfl, paired.limit, paired.inHand, paired.owing⟩
  | close idle =>
      have outside := paired.pushing_of_inPush (by rw [idle]; rfl)
      refine ⟨paired.linked.beginClose, ?_, paired.limit, paired.inHand, paired.owing⟩
      rw [outside]
      rfl
  | producer step => exact paired.afterProducer step
  | pop limit idle =>
      refine ⟨paired.linked.beginPop idle limit, paired.pushing, ?_, Nat.zero_le _, ?_⟩
      · intro limit phase
        exact phase
      · simp [Channel.beginPop]
  | leave idle =>
      refine ⟨paired.linked.beginLeave, paired.pushing, ?_, Nat.zero_le _, ?_⟩
      · intro limit phase
        cases phase
      · simp [Channel.beginLeave]
  | consumer step => exact paired.afterConsumer step

/-! ## The stream -/

theorem offered_afterProducer {run : ChannelRun} (channel : Channel)
    (result : Option PushResult) :
    (run.afterProducer channel result).offered = run.offered := by
  cases result <;> simp [offered, afterProducer]

theorem acknowledged_afterProducer {run : ChannelRun} (channel : Channel)
    (result : Option PushResult) :
    (run.afterProducer channel result).acknowledged =
      run.acknowledged ++
        if result = some .accepted then run.pushing.getD [] else [] := by
  rcases result with _ | _ | _ <;> simp [acknowledged, afterProducer]

theorem popped_afterConsumer {run : ChannelRun} (channel : Channel)
    (result : Option (List UInt8)) :
    (run.afterConsumer channel result).popped =
      run.pops.flatMap (·.bytes) ++ (result.getD [] ++ channel.consumer.inHand) := by
  cases result <;> simp [popped, afterConsumer]

/-- Without refusals the returned pushes are the acknowledged ones. -/
theorem acknowledged_of_unrefused {run : ChannelRun}
    (unrefused : ∀ push ∈ run.pushes, push.result ≠ .refused) :
    run.acknowledged = run.pushes.flatMap (·.bytes) := by
  have all : ∀ push ∈ run.pushes, decide (push.result = .accepted) = true := by
    intro push member
    have := unrefused push member
    cases result : push.result <;> simp_all
  rw [acknowledged, List.filter_eq_self.mpr all]

/-- What the pushes have put in, and where it has gone. -/
structure Conserved (run : ChannelRun) : Prop where
  /-- The push in progress has put in all but its remainder, behind the acknowledged
  pushes. -/
  share : ∃ share, run.pushing.getD [] = share ++ run.channel.producer.remainder ∧
    run.acknowledged ++ share <+: run.accepted ∧
    (run.channel.queue.abandoned = false → run.accepted = run.acknowledged ++ share)
  refused : ∀ push ∈ run.pushes, push.result = .refused →
    run.channel.queue.abandoned = true
  offered : run.accepted <+: run.offered
  popped : run.channel.queue.abandoned = false →
    run.popped ++ run.channel.queue.bytes = run.accepted

theorem Conserved.start (capacity : Nat) : (start capacity).Conserved where
  share := ⟨[], rfl, List.nil_prefix, fun _ => rfl⟩
  refused _ member := by cases member
  offered := List.nil_prefix
  popped _ := rfl

theorem prefix_offered {run : ChannelRun} {share rest : List UInt8}
    (unrefused : ∀ push ∈ run.pushes, push.result ≠ .refused)
    (sliced : run.pushing.getD [] = share ++ rest)
    (filled : run.accepted = run.acknowledged ++ share) :
    run.accepted <+: run.offered := by
  refine ⟨rest, ?_⟩
  rw [filled, acknowledged_of_unrefused unrefused, offered, sliced, List.append_assoc]

theorem accepted_afterProducer {run : ChannelRun} {channel : Channel}
    {put : List UInt8} (queued : channel.queue.bytes = run.channel.queue.bytes ++ put)
    (result : Option PushResult) :
    (run.afterProducer channel result).accepted = run.accepted ++ put := by
  simp [afterProducer, queued]

/-- A step of the producer while the consumer is there. -/
theorem Conserved.afterProducer_of_present {run : ChannelRun} (conserved : run.Conserved)
    {channel : Channel} {result : Option PushResult}
    (step : Channel.ProducerStep run.channel channel result)
    (present : run.channel.queue.abandoned = false) :
    (run.afterProducer channel result).Conserved := by
  obtain ⟨share, sliced, -, filled⟩ := conserved.share
  obtain ⟨put, queued, moved, accepting, completed⟩ := step.conserves present
  have grown := accepted_afterProducer queued result
  have unrefused : ∀ push ∈ (run.afterProducer channel result).pushes,
      push.result ≠ .refused := by
    intro push member refused
    rcases List.mem_append.mp member with earlier | new
    · have := conserved.refused push earlier refused
      rw [present] at this
      cases this
    · cases result <;> simp_all
  have share' : ∃ share', (run.afterProducer channel result).pushing.getD [] =
        share' ++ channel.producer.remainder ∧
      (run.afterProducer channel result).accepted =
        (run.afterProducer channel result).acknowledged ++ share' := by
    rw [grown, acknowledged_afterProducer, filled present]
    cases result with
    | none =>
        refine ⟨share ++ put, ?_, by simp⟩
        simp [afterProducer, sliced, moved]
    | some result =>
        cases result with
        | accepted =>
            refine ⟨[], ?_, ?_⟩
            · simp [afterProducer, completed]
            · simp [sliced, moved, completed]
        | refused => exact absurd rfl accepting
  obtain ⟨share', sliced', filled'⟩ := share'
  constructor
  case share => exact ⟨share', sliced', filled' ▸ List.prefix_rfl, fun _ => filled'⟩
  case refused =>
    intro push member refused
    exact absurd refused (unrefused push member)
  case offered => exact prefix_offered unrefused sliced' filled'
  case popped =>
    intro _
    rw [grown, ← conserved.popped present]
    simp [ChannelRun.popped, ChannelRun.afterProducer, step.inHand, queued]

/-- A step of the producer after the consumer has gone: nothing is put in any more. -/
theorem Conserved.afterProducer_of_abandoned {run : ChannelRun} (conserved : run.Conserved)
    {channel : Channel} {result : Option PushResult}
    (step : Channel.ProducerStep run.channel channel result)
    (abandoned : run.channel.queue.abandoned = true) :
    (run.afterProducer channel result).Conserved := by
  obtain ⟨share, sliced, covered, -⟩ := conserved.share
  have still := step.queue_of_abandoned abandoned
  have kept : (run.afterProducer channel result).accepted = run.accepted := by
    simp [afterProducer, still]
  have gone : channel.queue.abandoned ≠ false := by simp [still, abandoned]
  constructor
  case share =>
    rw [kept, acknowledged_afterProducer]
    cases step with
    | nothing ready | woke ready =>
        refine ⟨[], rfl, ?_, fun present => absurd present gone⟩
        simpa [sliced, ready, ProducerPhase.remainder] using covered
    | refused =>
        refine ⟨[], rfl, ?_, fun present => absurd present gone⟩
        simpa using (List.prefix_append _ share).trans covered
    | left closing =>
        refine ⟨share, ?_, by simpa using covered, fun present => absurd present gone⟩
        simpa [ChannelRun.afterProducer, closing, ProducerPhase.remainder] using sliced
    | put _ _ present | last _ _ present | piece _ present =>
        rw [present] at abandoned
        cases abandoned
  case refused =>
    intro push member refused
    exact eq_true_of_ne_false gone
  case offered =>
    rw [kept, offered_afterProducer]
    exact conserved.offered
  case popped =>
    intro present
    exact absurd present gone

theorem Conserved.afterConsumer {run : ChannelRun} (conserved : run.Conserved)
    {channel : Channel} {result : Option (List UInt8)}
    (step : Channel.ConsumerStep run.channel channel result) :
    (run.afterConsumer channel result).Conserved := by
  obtain ⟨share, sliced, covered, filled⟩ := conserved.share
  constructor
  case share =>
    refine ⟨share, ?_, covered, ?_⟩
    · simpa [ChannelRun.afterConsumer, step.remainder] using sliced
    · intro present
      exact filled (step.abandoned.symm.trans present)
  case refused =>
    intro push member refused
    exact step.abandoned.trans (conserved.refused push member refused)
  case offered => exact conserved.offered
  case popped =>
    intro present
    have before := conserved.popped (step.abandoned.symm.trans present)
    change (run.afterConsumer channel result).popped ++ channel.queue.bytes = _
    rw [popped_afterConsumer, List.append_assoc, ← step.conserves, ← List.append_assoc]
    exact before

theorem Conserved.step {run next : ChannelRun} (step : run.Step next)
    (paired : run.Paired) (conserved : run.Conserved) : next.Conserved := by
  obtain ⟨share, sliced, covered, filled⟩ := conserved.share
  cases step with
  | push bytes idle =>
      have outside := paired.pushing_of_inPush (by rw [idle]; rfl)
      have nothing : share = [] := by
        simpa [outside, idle, ProducerPhase.remainder] using sliced
      subst nothing
      refine ⟨⟨[], rfl, covered, filled⟩, conserved.refused, ?_, conserved.popped⟩
      have before := conserved.offered
      simp only [ChannelRun.offered, outside, Option.getD_none, List.append_nil] at before
      exact before.trans (List.prefix_append _ _)
  | close idle =>
      refine ⟨⟨share, ?_, covered, filled⟩, conserved.refused, conserved.offered,
        conserved.popped⟩
      simpa [idle, Channel.beginClose, ProducerPhase.remainder] using sliced
  | producer step =>
      cases present : run.channel.queue.abandoned with
      | false => exact conserved.afterProducer_of_present step present
      | true => exact conserved.afterProducer_of_abandoned step present
  | pop limit idle =>
      refine ⟨⟨share, sliced, covered, filled⟩, conserved.refused, conserved.offered, ?_⟩
      intro present
      have before := conserved.popped present
      simpa [ChannelRun.popped, idle, Channel.beginPop, ConsumerPhase.inHand] using before
  | leave idle =>
      refine ⟨⟨share, sliced, covered, ?_⟩, fun _ _ _ => rfl, conserved.offered, ?_⟩
      · intro present
        cases present
      · intro present
        cases present
  | consumer step => exact conserved.afterConsumer step

/-! ## The end of the stream -/

structure Drained (run : ChannelRun) : Prop where
  le : ∀ pop ∈ run.pops, pop.bytes.length ≤ pop.limit
  ended : ∀ pop ∈ run.pops, pop.AtEnd → run.channel.queue.closed = true ∧
    run.popped = run.accepted ∧ run.channel.consumer.inHand = []
  later : run.pops.Pairwise fun earlier later => earlier.AtEnd → later.bytes = []

theorem Drained.start (capacity : Nat) : (start capacity).Drained where
  le _ member := by cases member
  ended _ member := by cases member
  later := .nil

/-- Once a pop has reached the end, the queue is empty. -/
theorem Drained.empty {run : ChannelRun} (drained : run.Drained)
    (conserved : run.Conserved) (present : run.channel.queue.abandoned = false)
    {pop : PopCall} (member : pop ∈ run.pops) (atEnd : pop.AtEnd) :
    run.channel.queue.bytes = [] := by
  have balanced := conserved.popped present
  rw [(drained.ended pop member atEnd).2.1] at balanced
  exact List.append_right_eq_self.mp balanced

/-- No pop has returned. -/
theorem Drained.keep {run next : ChannelRun} (drained : run.Drained)
    (kept : next.pops = run.pops)
    (ended : ∀ earlier ∈ run.pops, earlier.AtEnd →
      next.channel.queue.closed = true ∧ next.popped = next.accepted ∧
        next.channel.consumer.inHand = []) : next.Drained :=
  ⟨kept ▸ drained.le, kept ▸ ended, kept ▸ drained.later⟩

/-- One more pop has returned. -/
theorem Drained.append {run next : ChannelRun} (drained : run.Drained) (pop : PopCall)
    (returned : next.pops = run.pops ++ [pop]) (le : pop.bytes.length ≤ pop.limit)
    (later : ∀ earlier ∈ run.pops, earlier.AtEnd → pop.bytes = [])
    (ended : ∀ earlier ∈ run.pops ++ [pop], earlier.AtEnd →
      next.channel.queue.closed = true ∧ next.popped = next.accepted ∧
        next.channel.consumer.inHand = []) : next.Drained := by
  constructor
  case le =>
    intro call member
    rw [returned] at member
    rcases List.mem_append.mp member with old | new
    · exact drained.le call old
    · cases List.mem_singleton.mp new
      exact le
  case ended => exact returned ▸ ended
  case later =>
    rw [returned]
    apply List.pairwise_append.mpr
    refine ⟨drained.later, List.pairwise_singleton _ _, ?_⟩
    intro earlier member last new
    cases List.mem_singleton.mp new
    exact later earlier member

/-- A pop has got some bytes, so none before it was at the end. -/
theorem Drained.append_filled {run next : ChannelRun} (drained : run.Drained)
    (pop : PopCall) (returned : next.pops = run.pops ++ [pop])
    (le : pop.bytes.length ≤ pop.limit) (filled : pop.bytes ≠ [])
    (running : ∀ earlier ∈ run.pops, ¬ earlier.AtEnd) : next.Drained := by
  apply drained.append pop returned le
  · intro earlier member atEnd
    exact absurd atEnd (running earlier member)
  · intro earlier member atEnd
    rcases List.mem_append.mp member with old | new
    · exact absurd atEnd (running earlier old)
    · cases List.mem_singleton.mp new
      exact absurd atEnd.2 filled

theorem Drained.afterConsumer {run : ChannelRun} (paired : run.Paired)
    (conserved : run.Conserved) (drained : run.Drained)
    {channel : Channel} {result : Option (List UInt8)}
    (step : Channel.ConsumerStep run.channel channel result) :
    (run.afterConsumer channel result).Drained := by
  have present {limit : Nat} (ready : run.channel.consumer = .ready limit) :
      run.channel.queue.abandoned = false := by
    rw [paired.linked.abandoned, ready]
    rfl
  have limited {limit : Nat} (ready : run.channel.consumer = .ready limit) :
      run.popping.getD 0 = limit := by
    rw [paired.limit (by rw [ready]; rfl)]
    rfl
  cases step with
  | nothing ready =>
      refine drained.append ⟨_, []⟩ rfl (Nat.zero_le _) (fun _ _ _ => rfl) ?_
      intro earlier member atEnd
      rcases List.mem_append.mp member with old | new
      · obtain ⟨closed, balanced, -⟩ := drained.ended earlier old atEnd
        refine ⟨closed, ?_, rfl⟩
        rw [popped_afterConsumer]
        simpa [ChannelRun.afterConsumer, popped, ready, ConsumerPhase.inHand] using balanced
      · cases List.mem_singleton.mp new
        have positive := atEnd.1
        simp [limited ready] at positive
  | wait ready =>
      refine drained.keep (by simp [ChannelRun.afterConsumer]) ?_
      intro earlier member atEnd
      obtain ⟨closed, balanced, -⟩ := drained.ended earlier member atEnd
      refine ⟨closed, ?_, rfl⟩
      rw [popped_afterConsumer]
      simpa [ChannelRun.afterConsumer, popped, ready, ConsumerPhase.inHand] using balanced
  | ended ready positive empty closed =>
      refine drained.append ⟨_, []⟩ rfl (Nat.zero_le _) (fun _ _ _ => rfl) ?_
      intro earlier member atEnd
      refine ⟨closed, ?_, rfl⟩
      have balanced := conserved.popped (present ready)
      rw [popped_afterConsumer]
      simpa [ChannelRun.afterConsumer, popped, ready, empty, ConsumerPhase.inHand] using balanced
  | take ready positive filled unbounded =>
      refine drained.append_filled ⟨_, _⟩ rfl ?_ ?_ ?_
      · rw [limited ready]
        exact List.length_take_le _ _
      · simp [positive, filled]
      · intro earlier member atEnd
        exact filled (drained.empty conserved (present ready) member atEnd)
  | make ready positive filled bounded =>
      refine drained.keep (by simp [ChannelRun.afterConsumer]) ?_
      intro earlier member atEnd
      exact absurd (drained.empty conserved (present ready) member atEnd) filled
  | @woke taken owing =>
      refine drained.append_filled ⟨_, taken⟩ rfl ?_ ?_ ?_
      · simpa [owing, ConsumerPhase.inHand] using paired.inHand
      · rintro rfl
        exact paired.owing owing
      · intro earlier member atEnd
        have nothing := (drained.ended earlier member atEnd).2.2
        rw [owing] at nothing
        cases nothing
        exact paired.owing owing
  | left leaving =>
      refine drained.keep (by simp [ChannelRun.afterConsumer]) ?_
      intro earlier member atEnd
      obtain ⟨closed, balanced, -⟩ := drained.ended earlier member atEnd
      refine ⟨closed, ?_, rfl⟩
      rw [popped_afterConsumer]
      simpa [ChannelRun.afterConsumer, popped, leaving, ConsumerPhase.inHand] using balanced

theorem Drained.step {run next : ChannelRun} (step : run.Step next)
    (paired : run.Paired) (conserved : run.Conserved) (drained : run.Drained) :
    next.Drained := by
  -- a producer that still has the queue open excludes a pop at the end
  have opened (inside : run.channel.producer.hasClosed = false) :
      ∀ earlier ∈ run.pops, ¬ earlier.AtEnd := by
    intro earlier member atEnd
    have closed := (drained.ended earlier member atEnd).1
    rw [paired.linked.closed, inside] at closed
    cases closed
  cases step with
  | push bytes idle =>
      refine drained.keep rfl ?_
      intro earlier member atEnd
      exact absurd atEnd (opened (by rw [idle]; rfl) earlier member)
  | close idle =>
      refine drained.keep rfl ?_
      intro earlier member atEnd
      exact absurd atEnd (opened (by rw [idle]; rfl) earlier member)
  | producer step =>
      refine drained.keep rfl ?_
      intro earlier member atEnd
      cases step with
      | nothing phase | refused phase | put phase | last phase | piece phase | woke phase =>
          exact absurd atEnd (opened (by rw [phase]; rfl) earlier member)
      | left closing =>
          obtain ⟨closed, balanced, empty⟩ := drained.ended earlier member atEnd
          refine ⟨closed, ?_, by simpa [afterProducer] using empty⟩
          simpa [afterProducer, popped] using balanced
  | pop limit idle =>
      refine drained.keep rfl ?_
      intro earlier member atEnd
      obtain ⟨closed, balanced, -⟩ := drained.ended earlier member atEnd
      refine ⟨closed, ?_, rfl⟩
      simpa [popped, Channel.beginPop, idle, ConsumerPhase.inHand] using balanced
  | leave idle =>
      refine drained.keep rfl ?_
      intro earlier member atEnd
      obtain ⟨closed, balanced, -⟩ := drained.ended earlier member atEnd
      refine ⟨closed, ?_, rfl⟩
      simpa [popped, Channel.beginLeave, idle, ConsumerPhase.inHand] using balanced
  | consumer step => exact drained.afterConsumer paired conserved step

/-! ## Refusals -/

/-- The consumer has gone, and all pushes after the first `count` ones are refused unless
they are empty. -/
structure Refusing (count : Nat) (run : ChannelRun) : Prop where
  abandoned : run.channel.queue.abandoned = true
  returned : ∀ push ∈ run.pushes.drop count, push.bytes ≠ [] → push.result = .refused
  current : count ≤ run.pushes.length → ∀ bytes, run.pushing = some bytes →
    bytes ≠ [] → run.channel.producer.remainder ≠ []

theorem Refusing.start {run : ChannelRun}
    (abandoned : run.channel.queue.abandoned = true) : Refusing run.decided run where
  abandoned := abandoned
  returned push member := by
    have all : run.pushes.drop run.decided = [] :=
      List.drop_eq_nil_of_le (Nat.le_add_right _ _)
    rw [all] at member
    cases member
  current inside bytes pushing _ remainder := by
    simp only [decided, remainder, pushing, if_true, Option.toList_some, List.length_singleton]
      at inside
    omega

/-- A push that returns after the consumer has gone is refused or had nothing to put in. -/
theorem Refusing.returned_afterProducer {count : Nat} {run : ChannelRun}
    (refusing : Refusing count run) {channel : Channel} {result : PushResult}
    (step : Channel.ProducerStep run.channel channel (some result))
    (inside : count ≤ run.pushes.length) (filled : run.pushing.getD [] ≠ []) :
    result = .refused := by
  have owed : run.channel.producer.remainder ≠ [] := by
    cases pushing : run.pushing with
    | none => simp [pushing] at filled
    | some bytes => exact refusing.current inside bytes pushing (by simpa [pushing] using filled)
  cases step with
  | refused => rfl
  | nothing phase | woke phase =>
      rw [phase] at owed
      exact absurd rfl owed
  | last _ _ present => exact absurd (refusing.abandoned.symm.trans present) (by decide)

theorem Refusing.afterProducer {count : Nat} {run : ChannelRun}
    (refusing : Refusing count run) {channel : Channel} {result : Option PushResult}
    (step : Channel.ProducerStep run.channel channel result) :
    Refusing count (run.afterProducer channel result) := by
  constructor
  case abandoned => exact step.abandoned.trans refusing.abandoned
  case returned =>
    intro push member filled
    simp only [ChannelRun.afterProducer, List.drop_append, List.mem_append] at member
    rcases member with old | new
    · exact refusing.returned push old filled
    · by_cases inside : count ≤ run.pushes.length
      · cases result with
        | none => simp at new
        | some result =>
            have same : push = ⟨run.pushing.getD [], result⟩ := by
              simpa using List.mem_of_mem_drop new
            subst same
            exact refusing.returned_afterProducer step inside filled
      · have outside : (result.toList.map (PushCall.mk (run.pushing.getD []))).drop
            (count - run.pushes.length) = [] := by
          apply List.drop_eq_nil_of_le
          cases result <;> simp
          omega
        rw [outside] at new
        cases new
  case current =>
    intro inside bytes pushing filled
    cases step with
    | nothing | refused | last | woke => cases pushing
    | put _ _ present | piece _ present =>
        exact absurd (refusing.abandoned.symm.trans present) (by decide)
    | left closing =>
        have owed := refusing.current (by simpa [ChannelRun.afterProducer] using inside) bytes
          pushing filled
        rw [closing] at owed
        exact absurd rfl owed

theorem Refusing.step {count : Nat} {run next : ChannelRun} (step : run.Step next)
    (refusing : Refusing count run) : Refusing count next := by
  obtain ⟨abandoned, returned, current⟩ := refusing
  cases step with
  | push bytes idle =>
      refine ⟨abandoned, returned, ?_⟩
      intro _ slice pushing filled
      cases pushing
      exact filled
  | close idle =>
      refine ⟨abandoned, returned, ?_⟩
      intro inside bytes pushing filled
      have owed := current inside bytes pushing filled
      rw [idle] at owed
      exact absurd rfl owed
  | producer step => exact Refusing.afterProducer ⟨abandoned, returned, current⟩ step
  | pop limit idle => exact ⟨abandoned, returned, current⟩
  | leave idle => exact ⟨rfl, returned, current⟩
  | consumer step =>
      refine ⟨step.abandoned.trans abandoned, returned, ?_⟩
      intro inside bytes pushing filled
      have owed := current inside bytes pushing filled
      simpa only [afterConsumer, step.remainder] using owed

/-! ## The guarantee -/

/-- What a channel promises to its two callers. -/
structure InOrder (run : ChannelRun) : Prop where
  /-- While the consumer is there, what was popped and what is queued is what was accepted. -/
  conserved : run.channel.queue.abandoned = false →
    run.popped ++ run.channel.queue.bytes = run.accepted
  accepted : run.accepted <+: run.offered
  acknowledged : run.acknowledged <+: run.accepted
  /-- A pop with room for a byte gets one, unless the stream is closed and used up. -/
  pops : ∀ pop ∈ run.pops, 0 < pop.limit →
    (0 < pop.bytes.length ∧ pop.bytes.length ≤ pop.limit) ∨
      (pop.bytes = [] ∧ run.channel.queue.closed = true ∧ run.popped = run.accepted)
  /-- A pop at the lock returns without a byte exactly at the end of the stream. -/
  ends : ∀ limit, 0 < limit → run.channel.consumer = .ready limit →
    ((∃ next, run.step? .consumer = some next ∧
        next.pops = run.pops ++ [PopCall.mk limit []]) ↔
      run.channel.queue.closed = true ∧ run.popped = run.accepted)
  /-- After the first such pop no pop gets a byte. -/
  later : run.pops.Pairwise fun earlier later =>
    0 < earlier.limit → earlier.bytes = [] → later.bytes = []
  refused : ∀ push ∈ run.pushes, push.result = .refused →
    run.channel.queue.abandoned = true
  emptied : run.channel.queue.abandoned = true → run.channel.queue.bytes = []
  /-- After the consumer has gone, a push that comes to the lock with bytes returns at once
  and is refused. -/
  refuses : run.channel.queue.abandoned = true → ∀ rest, rest ≠ [] →
    run.channel.producer = .ready rest →
      ∃ next, run.step? .producer = some next ∧
        next.pushes = run.pushes ++ [PushCall.mk (run.pushing.getD []) .refused]
  /-- After the consumer has gone, every push with bytes that had not all gone in before is
  refused, however the run goes on. -/
  refusing : run.channel.queue.abandoned = true → ∀ moves last,
    run.play moves = some last → ∀ push ∈ last.pushes.drop run.decided,
      push.bytes ≠ [] → push.result = .refused

/-- What holds after every row of moves. -/
theorem conserved_of_play (capacity : Nat) {moves : List ChannelMove} {run : ChannelRun}
    (played : (start capacity).play moves = some run) :
    run.Paired ∧ run.Conserved ∧ run.Drained := by
  refine play_induction (motive := fun run =>
    run.Paired ∧ run.Conserved ∧ run.Drained) ?_ played
    ⟨.start capacity, .start capacity, .start capacity⟩
  rintro before after step ⟨paired, conserved, drained⟩
  exact ⟨paired.step step, conserved.step step paired, drained.step step paired conserved⟩

/-- The pop at the lock returns without a byte exactly at the end of the stream. -/
theorem returns_nothing_iff {run : ChannelRun} (paired : run.Paired)
    (conserved : run.Conserved) {limit : Nat} (positive : 0 < limit)
    (ready : run.channel.consumer = .ready limit) :
    (∃ next, run.step? .consumer = some next ∧
        next.pops = run.pops ++ [PopCall.mk limit []]) ↔
      run.channel.queue.closed = true ∧ run.popped = run.accepted := by
  have present : run.channel.queue.abandoned = false := by
    rw [paired.linked.abandoned, ready]
    rfl
  have balanced := conserved.popped present
  constructor
  · rintro ⟨next, moved, returned⟩
    obtain ⟨⟨channel, result⟩, step, rfl⟩ := Option.map_eq_some_iff.mp moved
    have popping : run.popping = some limit := paired.limit (by rw [ready]; rfl)
    cases (run.channel.consumerStep?_eq_some_iff channel result).mp step with
    | nothing phase => simp_all
    | wait => simp [ChannelRun.afterConsumer] at returned
    | ended phase _ empty closed =>
        rw [empty, List.append_nil] at balanced
        exact ⟨closed, balanced⟩
    | take phase nonzero filled => simp_all [ChannelRun.afterConsumer]
    | make => simp [ChannelRun.afterConsumer] at returned
    | woke phase => simp_all
    | left phase => simp_all
  · rintro ⟨closed, consumed⟩
    rw [consumed] at balanced
    have empty := List.append_right_eq_self.mp balanced
    have step := (run.channel.consumerStep?_eq_some_iff _ _).mpr
      (.ended ready (Nat.pos_iff_ne_zero.mp positive) empty closed)
    have popping : run.popping = some limit := paired.limit (by rw [ready]; rfl)
    refine ⟨run.afterConsumer _ (some []), by rw [step?, step, Option.map_some], ?_⟩
    simp [ChannelRun.afterConsumer, popping]

/-- However producer and consumer take turns, the bytes come out in order, each once. -/
theorem inOrder_of_play (capacity : Nat) {moves : List ChannelMove} {run : ChannelRun}
    (played : (start capacity).play moves = some run) : run.InOrder := by
  obtain ⟨paired, conserved, drained⟩ := conserved_of_play capacity played
  constructor
  case conserved => exact conserved.popped
  case accepted => exact conserved.offered
  case acknowledged =>
    obtain ⟨share, -, covered, -⟩ := conserved.share
    exact (List.prefix_append _ share).trans covered
  case pops =>
    intro pop member positive
    by_cases empty : pop.bytes = []
    · obtain ⟨closed, balanced, -⟩ := drained.ended pop member ⟨positive, empty⟩
      exact .inr ⟨empty, closed, balanced⟩
    · exact .inl ⟨List.length_pos_iff.mpr empty, drained.le pop member⟩
  case ends =>
    intro limit positive ready
    exact returns_nothing_iff paired conserved positive ready
  case later =>
    apply drained.later.imp
    intro earlier later ended positive empty
    exact ended ⟨positive, empty⟩
  case refused => exact conserved.refused
  case emptied => exact paired.linked.sound.drained
  case refuses =>
    intro abandoned rest filled ready
    have step := (run.channel.producerStep?_eq_some_iff _ _).mpr
      (.refused ready filled abandoned)
    exact ⟨run.afterProducer _ (some .refused), by rw [step?, step, Option.map_some], rfl⟩
  case refusing =>
    intro abandoned later last continued
    have refusing : Refusing run.decided last :=
      play_induction (fun step => Refusing.step step) continued (.start abandoned)
    exact refusing.returned

/-- A push of three bytes goes through a queue of two in two pieces; after the consumer has
left, the next push is refused. -/
def pieces : List ChannelMove :=
  [.push [1, 2, 3], .producer, .pop 5, .consumer, .consumer, .producer, .pop 5, .consumer,
    .consumer, .leave, .consumer, .push [4], .producer]

theorem inOrder_pieces : ∃ run, (start 2).play pieces = some run ∧
    run.pops = [⟨5, [1, 2]⟩, ⟨5, [3]⟩] ∧
    run.pushes = [⟨[1, 2, 3], .accepted⟩, ⟨[4], .refused⟩] ∧ run.InOrder := by
  have ran : ((start 2).play pieces).map (fun run => (run.pops, run.pushes)) =
      some ([⟨5, [1, 2]⟩, ⟨5, [3]⟩], [⟨[1, 2, 3], .accepted⟩, ⟨[4], .refused⟩]) := by
    decide
  obtain ⟨run, played, calls⟩ := Option.map_eq_some_iff.mp ran
  obtain ⟨pops, pushes⟩ := Prod.mk.inj calls
  exact ⟨run, played, pops, pushes, inOrder_of_play 2 played⟩

end ChannelRun

end SampleCapture
