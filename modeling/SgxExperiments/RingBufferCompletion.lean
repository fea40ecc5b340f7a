import SgxExperiments.RingBufferProgress
import SgxExperiments.SectionEffort

/-!
How the calls of the buffer end. Every schedule comes to its end; whether all calls
have then returned is decided by the two totals alone, and so is the buffer they leave.
-/

namespace SgxExperiments.RingBuffer

open LockedSections CountedRuns

variable {Thread : Type} [DecidableEq Thread] [Fintype Thread]

section Completion

variable (calls : Thread → Call) (state : Machine Thread)

omit [DecidableEq Thread] [Fintype Thread] in
theorem calls_countdown (thread : Thread) :
    Countdown (programs calls thread) fun i => (calls thread).iterations - i where
  running i more := by
    cases kind : calls thread <;>
      simp [programs, kind, Call.program, producerLoop, consumerLoop, Call.iterations] at more ⊢ <;>
      omega
  next i := by
    cases kind : calls thread <;>
      simp only [programs, kind, Call.program, producerLoop, consumerLoop, Call.iterations] <;> omega
  body effect member shared i := by
    cases kind : calls thread <;>
      simp only [programs, kind, Call.program, producerLoop, consumerLoop, producerBody, consumerBody,
        onBuffer, List.mem_cons, Statement.run.injEq, reduceCtorEq, List.not_mem_nil, or_false]
        at member <;>
      rcases member with rfl | rfl | rfl | rfl <;> rfl

omit [DecidableEq Thread] in
theorem launch_effort :
    effort (programs calls) (fun thread i => (calls thread).iterations - i) (launch Thread) =
      ∑ thread, (10 * (calls thread).iterations + 2) := by
  apply Finset.sum_congr rfl
  intro thread _
  have cost : (programs calls thread).cost = 10 := by
    cases kind : calls thread <;> simp only [programs, kind] <;> rfl
  simp only [threadEffort, launch, Phase.effort, cost, Nat.sub_zero]
  omega

/-- When no call can go on, all have returned if the buffer can hold what is
produced and never taken; otherwise some call sleeps for ever. -/
theorem stuck_returned_iff (reached : Reachable (programs calls) (launch Thread) state)
    (idle : ∀ thread, ¬ CanStep (programs calls) thread state) :
    (∀ thread, Returned (programs calls) thread state) ↔
      demand calls ≤ supply calls ∧ supply calls ≤ demand calls + bufferSize := by
  have initial : Initial (launch Thread) := ⟨rfl, fun _ => rfl⟩
  obtain ⟨free, shape⟩ := stuck_shape (programs calls) _ state initial reached idle
  have run := free_reachable (programs calls) _ state initial reached free
  have balanced := atomic_balanced calls state run
  have covered := atomic_covered calls state run
  have settled : ∀ thread, (calls thread).iterations ≤ state.locals thread ∨
      ∃ cond, state.phase thread = .queued cond :=
    fun thread => (shape thread).imp_left (finished_iff calls thread state).mp
  constructor
  · intro returned
    have totals := finished_totals calls state balanced covered
      fun thread => (finished_iff calls thread state).mp (returned thread).2
    have nonneg := balanced.valid.occupied_nonneg
    have atMost := balanced.valid.occupied_le
    omega
  -- If anyone is left with iterations to make, it is for good, so the totals do not fit.
  · intro fits thread
    have finished : ∀ other, (calls other).iterations ≤ state.locals other := by
      intro other
      by_contra left
      have unfit := asleep_unfit calls state balanced covered settled other (Nat.lt_of_not_le left)
      omega
    refine ⟨?_, (finished_iff calls thread state).mpr (finished thread)⟩
    cases position : state.phase thread with
    | ready => rfl
    | testing => exact (idle thread (testing_canStep _ thread state position)).elim
    | inside rest => exact (idle thread (inside_canStep _ thread state rest position)).elim
    | queued cond =>
        have left := (covered.queue thread cond position).2
        have done := finished thread
        omega

theorem calls_budget :
    Budget (ThreadsStep (programs calls)) Spurious (Reachable (programs calls) (launch Thread))
      (effort (programs calls) fun thread i => (calls thread).iterations - i) 2 :=
  sections_budget (programs calls) _ (calls_countdown calls) (launch Thread) ⟨rfl, fun _ => rfl⟩

/-- Every schedule comes to its end: a call makes ten steps an iteration, two more
for each spurious wake-up. Whether the end is that all calls have returned is
decided by the totals. -/
theorem calls_complete :
    (∀ steps wakeUps last,
      CountedRun (ThreadsStep (programs calls)) Spurious (launch Thread) steps wakeUps last →
      steps ≤ ∑ thread, (10 * (calls thread).iterations + 2) + 2 * wakeUps) ∧
    (∀ before, Reachable (programs calls) (launch Thread) before →
      ∃ last, Relation.ReflTransGen (ThreadsStep (programs calls)) before last ∧
        ∀ thread, ¬ CanStep (programs calls) thread last) ∧
    ∀ last, Reachable (programs calls) (launch Thread) last →
      (∀ thread, ¬ CanStep (programs calls) thread last) →
      ((∀ thread, Returned (programs calls) thread last) ↔
        demand calls ≤ supply calls ∧ supply calls ≤ demand calls + bufferSize) := by
  refine ⟨?_, ?_, fun last => stuck_returned_iff calls last⟩
  · intro steps wakeUps last run
    have paid := ((calls_budget calls).steps_le _ last Relation.ReflTransGen.refl steps wakeUps
      run).2
    rw [launch_effort] at paid
    omega
  · intro before reached
    obtain ⟨last, run, _, idle⟩ := (calls_budget calls).settles before reached
    exact ⟨last, run, fun thread canStep => canStep.elim fun after step => idle after ⟨thread, step⟩⟩

end Completion

section Refinement

structure Totals where
  produced : Int
  consumed : Int

def Totals.put (totals : Totals) : Totals := { totals with produced := totals.produced + 1 }

def Totals.take (totals : Totals) : Totals := { totals with consumed := totals.consumed + 1 }

/-- The bounded queue: it puts while there is room and takes while there is an item. -/
inductive TotalsStep : Totals → Totals → Prop where
  | put {totals} (room : totals.produced < totals.consumed + bufferSize) :
      TotalsStep totals totals.put
  | take {totals} (item : totals.consumed < totals.produced) : TotalsStep totals totals.take

/-- No step of the queue, or exactly one. -/
def Totals.Moves (before after : Totals) : Prop := after = before ∨ TotalsStep before after

def Totals.Holds (totals : Totals) (i : Int) : Prop :=
  0 ≤ i ∧ i < bufferSize ∧
    (i - totals.consumed) % bufferSize < totals.produced - totals.consumed

instance (totals : Totals) (i : Int) : Decidable (totals.Holds i) :=
  inferInstanceAs (Decidable (_ ∧ _ ∧ _))

def Totals.buffer (totals : Totals) : CondBuffer where
  buf i := if totals.Holds i then i else 0
  occupied := totals.produced - totals.consumed
  nextin := totals.produced % bufferSize
  nextout := totals.consumed % bufferSize

theorem holds_put (totals : Totals) (room : totals.produced < totals.consumed + bufferSize)
    (balance : totals.consumed ≤ totals.produced) (i : Int) :
    totals.put.Holds i ↔
      i = totals.produced % bufferSize ∨ totals.Holds i := by
  -- Filled now, or filled before: the slots between the counts are distinct modulo 50.
  simp only [Totals.Holds, Totals.put, bufferSize] at room ⊢
  omega

theorem holds_take (totals : Totals) (item : totals.consumed < totals.produced)
    (fits : totals.produced ≤ totals.consumed + bufferSize) (i : Int) :
    totals.take.Holds i ↔
      i ≠ totals.consumed % bufferSize ∧ totals.Holds i := by
  simp only [Totals.Holds, Totals.take, bufferSize] at fits ⊢
  omega

theorem wrapped_next (count : Int) :
    (count % bufferSize + 1).tmod bufferSize = (count + 1) % bufferSize := by
  rw [Int.tmod_eq_emod_of_nonneg (by simp only [bufferSize]; omega)]
  simp only [bufferSize]
  omega

theorem totals_produce (totals : Totals) (room : totals.produced < totals.consumed + bufferSize)
    (balance : totals.consumed ≤ totals.produced) :
    totals.buffer.produce = totals.put.buffer := by
  refine CondBuffer.mk.injEq .. |>.mpr ⟨?_, ?_, wrapped_next _, rfl⟩
  · funext i
    change Function.update totals.buffer.buf (totals.produced % bufferSize)
      (totals.produced % bufferSize) i = if Totals.Holds _ i then i else 0
    simp only [holds_put totals room balance]
    by_cases slot : i = totals.produced % bufferSize
    · rw [if_pos (Or.inl slot), slot, Function.update_self]
    · rw [Function.update_of_ne slot]
      simp only [slot, false_or]
      rfl
  · change totals.produced - totals.consumed + 1 = totals.produced + 1 - totals.consumed
    omega

theorem totals_consume (totals : Totals) (item : totals.consumed < totals.produced)
    (fits : totals.produced ≤ totals.consumed + bufferSize) :
    totals.buffer.consume = totals.take.buffer := by
  refine CondBuffer.mk.injEq .. |>.mpr ⟨?_, ?_, rfl, wrapped_next _⟩
  · funext i
    change Function.update totals.buffer.buf (totals.consumed % bufferSize) 0 i =
      if Totals.Holds _ i then i else 0
    simp only [holds_take totals item fits]
    by_cases slot : i = totals.consumed % bufferSize
    · rw [if_neg (fun holds => holds.1 slot), slot, Function.update_self]
    · rw [Function.update_of_ne slot]
      simp only [slot, ne_eq, not_false_eq_true, true_and]
      rfl
  · change totals.produced - totals.consumed - 1 = totals.produced - (totals.consumed + 1)
    omega

variable (calls : Thread → Call)

def totalsOf (state : Machine Thread) : Totals :=
  ⟨itemsProduced calls state, itemsConsumed calls state⟩

structure Refines (state : Machine Thread) : Prop where
  shared : state.shared = (totalsOf calls state).buffer
  run : Relation.ReflTransGen TotalsStep ⟨0, 0⟩ (totalsOf calls state)

omit [DecidableEq Thread] in
theorem launch_totals : totalsOf calls (launch Thread) = ⟨0, 0⟩ := by
  have nothing : ∀ thread, (calls thread).produced 0 = 0 ∧ (calls thread).consumed 0 = 0 := by
    intro thread
    cases calls thread <;> exact ⟨rfl, rfl⟩
  simp [totalsOf, itemsProduced, itemsConsumed, launch, nothing]

omit [DecidableEq Thread] in
theorem launch_refines : Refines calls (launch Thread) := by
  constructor
  · rw [launch_totals]
    refine CondBuffer.mk.injEq .. |>.mpr ⟨?_, rfl, rfl, rfl⟩
    funext i
    have blank : ¬ Totals.Holds ⟨0, 0⟩ i := by
      simp only [Totals.Holds, bufferSize]
      omega
    exact (if_neg blank).symm
  · rw [launch_totals]

theorem section_totals (thread : Thread) (before after : Machine Thread)
    (balanced : Balanced calls before)
    (moved : SectionStep (programs calls) thread before after) :
    (after.shared = before.shared ∧ totalsOf calls after = totalsOf calls before) ∨
    (after.shared = before.shared.produce ∧
      totalsOf calls after = (totalsOf calls before).put ∧
      (totalsOf calls before).produced < (totalsOf calls before).consumed + bufferSize) ∨
    (after.shared = before.shared.consume ∧
      totalsOf calls after = (totalsOf calls before).take ∧
      (totalsOf calls before).consumed < (totalsOf calls before).produced) := by
  have balance := balanced.balance
  cases (section_move calls thread before after moved).2.2 with
  | full iterations kind noRoom slept => exact Or.inl (slept ▸ ⟨rfl, rfl⟩)
  | blank iterations kind noItem slept => exact Or.inl (slept ▸ ⟨rfl, rfl⟩)
  | put iterations kind room shared locals signalled =>
      obtain ⟨produced, consumed⟩ := produced_step calls before after thread iterations kind locals
      refine Or.inr (Or.inl ⟨shared, ?_, ?_⟩)
      · simp only [totalsOf, Totals.put, produced, consumed]
      · simp only [totalsOf]
        omega
  | take iterations kind item shared locals signalled =>
      obtain ⟨produced, consumed⟩ := consumed_step calls before after thread iterations kind locals
      refine Or.inr (Or.inr ⟨shared, ?_, ?_⟩)
      · simp only [totalsOf, Totals.take, produced, consumed]
      · simp only [totalsOf]
        omega

theorem section_moves (thread : Thread) (before after : Machine Thread)
    (balanced : Balanced calls before)
    (moved : SectionStep (programs calls) thread before after) :
    (totalsOf calls before).Moves (totalsOf calls after) := by
  rcases section_totals calls thread before after balanced moved with
    ⟨_, same⟩ | ⟨_, put, room⟩ | ⟨_, take, item⟩
  · exact Or.inl same
  · exact Or.inr (put ▸ .put room)
  · exact Or.inr (take ▸ .take item)

theorem atomic_moves (before after : Machine Thread) (balanced : Balanced calls before)
    (step : Atomic (programs calls) before after) :
    (totalsOf calls before).Moves (totalsOf calls after) := by
  rcases step with ⟨thread, moved⟩ | ⟨thread, cond, asleep, woken⟩
  · exact section_moves calls thread before after balanced moved
  · exact Or.inl (woken ▸ rfl)

/-- Of the single statements only the end of a section shows in the counts: by then the
whole section has been run, from the state in which its test was passed. -/
theorem step_moves (before after : Machine Thread)
    (reached : Reachable (programs calls) (launch Thread) before)
    (step : Step (programs calls) before after) :
    (totalsOf calls before).Moves (totalsOf calls after) := by
  have initial : Initial (launch Thread) := ⟨rfl, fun _ => rfl⟩
  have still : after.locals = before.locals →
      (totalsOf calls before).Moves (totalsOf calls after) := fun same => by
    refine Or.inl ?_
    simp only [totalsOf, itemsProduced, itemsConsumed, same]
  rcases step with ⟨thread, moved⟩ | ⟨thread, cond, asleep, woken⟩
  · cases moved with
    | lock | wait | enter => exact still rfl
    | @statement middle first rest position effect =>
        obtain ⟨_, _, _, _, _, _, _, body, _⟩ :=
          inside_origin (programs calls) _ before initial reached thread _ position
        exact still (body_silent calls thread first
          (body ▸ List.mem_append_right _ List.mem_cons_self) before middle effect)
    | unlock position =>
        obtain ⟨origin, current, done, run, ready, more, passed, body, exec, rfl⟩ :=
          inside_origin (programs calls) _ before initial reached thread [] position
        rw [List.append_nil] at body
        subst body
        have kept : current.locals = origin.locals :=
          exec_locals thread _ (body_silent calls thread) origin current exec
        have whole := section_moves calls thread origin _ (atomic_balanced calls origin run)
          (SectionStep.complete ready more passed exec)
        have same : totalsOf calls (current.hold thread (.inside [])) = totalsOf calls origin := by
          simp only [totalsOf, itemsProduced, itemsConsumed, hold_locals, kept]
        rw [same]
        exact whole
  · exact still (woken ▸ rfl)

theorem refines_step (before after : Machine Thread) (balanced : Balanced calls before)
    (refines : Refines calls before) (step : Atomic (programs calls) before after) :
    Refines calls after := by
  have balance := balanced.balance
  have nonneg := balanced.valid.occupied_nonneg
  have atMost := balanced.valid.occupied_le
  constructor
  · rcases step with ⟨thread, moved⟩ | ⟨thread, cond, asleep, woken⟩
    · rcases section_totals calls thread before after balanced moved with
        ⟨shared, same⟩ | ⟨shared, put, room⟩ | ⟨shared, take, item⟩
      · rw [shared, same, refines.shared]
      · rw [shared, put, refines.shared]
        exact totals_produce _ room (by simp only [totalsOf]; omega)
      · rw [shared, take, refines.shared]
        exact totals_consume _ item (by simp only [totalsOf]; omega)
    · rw [woken]
      exact refines.shared
  · rcases atomic_moves calls before after balanced step with same | moved
    · exact same ▸ refines.run
    · exact refines.run.tail moved

theorem atomic_refines (state : Machine Thread)
    (reached : AtomicReachable (programs calls) (launch Thread) state) : Refines calls state := by
  induction reached with
  | refl => exact launch_refines calls
  | tail run step ih => exact refines_step calls _ _ (atomic_balanced calls _ run) ih step

theorem returned_buffer (state : Machine Thread)
    (reached : Reachable (programs calls) (launch Thread) state)
    (returned : ∀ thread, Returned (programs calls) thread state) :
    state.shared = Totals.buffer ⟨supply calls, demand calls⟩ := by
  have initial : Initial (launch Thread) := ⟨rfl, fun _ => rfl⟩
  have free : state.owner = none := by
    cases owner : state.owner with
    | none => rfl
    | some holder =>
        have held := (holder_busy _ _ state initial reached holder owner).1
        rw [(returned holder).1] at held
        exact (held trivial).elim
  have run := free_reachable (programs calls) _ state initial reached free
  have whole : ∀ thread, state.locals thread = (calls thread).iterations :=
    fun thread => Nat.le_antisymm ((atomic_covered calls state run).bound thread)
      ((finished_iff calls thread state).mp (returned thread).2)
  rw [(atomic_refines calls state run).shared, totalsOf, itemsProduced, itemsConsumed, supply,
    demand]
  simp only [whole]

/-- Between sections the buffer is a pair of counts, whatever the schedule was. The counts
start at zero and move as the bounded queue does: a step of a thread is at most one step
of it, and so is a whole section. At the end they are the totals. -/
theorem buffer_refines_totals :
    totalsOf calls (launch Thread) = ⟨0, 0⟩ ∧
    (∀ state, Reachable (programs calls) (launch Thread) state → state.owner = none →
      state.shared = (totalsOf calls state).buffer ∧
        Relation.ReflTransGen TotalsStep ⟨0, 0⟩ (totalsOf calls state)) ∧
    (∀ before after, Reachable (programs calls) (launch Thread) before →
      Step (programs calls) before after → (totalsOf calls before).Moves (totalsOf calls after)) ∧
    (∀ before after, Reachable (programs calls) (launch Thread) before → before.owner = none →
      Atomic (programs calls) before after →
      (Reachable (programs calls) (launch Thread) after ∧ after.owner = none) ∧
        (totalsOf calls before).Moves (totalsOf calls after)) ∧
    ∀ state, Reachable (programs calls) (launch Thread) state →
      (∀ thread, Returned (programs calls) thread state) →
      state.shared = Totals.buffer ⟨supply calls, demand calls⟩ := by
  have initial : Initial (launch Thread) := ⟨rfl, fun _ => rfl⟩
  refine ⟨launch_totals calls, ?_, step_moves calls, ?_, returned_buffer calls⟩
  · intro state reached free
    have refines := atomic_refines calls state
      ((free_iff_atomic (programs calls) _ state initial).mp ⟨reached, free⟩)
    exact ⟨refines.shared, refines.run⟩
  · intro before after reached free step
    have run := (free_iff_atomic (programs calls) _ before initial).mp ⟨reached, free⟩
    exact ⟨(free_iff_atomic (programs calls) _ after initial).mpr (run.tail step),
      atomic_moves calls before after (atomic_balanced calls before run) step⟩

end Refinement

end SgxExperiments.RingBuffer
