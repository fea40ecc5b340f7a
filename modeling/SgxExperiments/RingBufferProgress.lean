import Mathlib.Algebra.BigOperators.Ring.Finset
import Mathlib.Algebra.Order.BigOperators.Group.Finset
import Mathlib.Algebra.Order.Ring.Int
import Mathlib.Tactic.FinCases
import SgxExperiments.RingBuffer

/-!
Who can be asleep, with any number of `ecall_producer` and `ecall_consumer` calls at
once. Each call takes what it waits for, an item or a free slot, and signals the
other. A signal wakes one waiter or none, and a call that is up may take what a woken
one was meant to get. What saves the protocol is a count: while any call sleeps on a
condition, at least as many calls are up for it as there is to take. So calls only
sleep for ever when the totals do not fit, and those of `ecall_thread_functions` do.
-/

namespace SgxExperiments.RingBuffer

open LockedSections

theorem signalled_queued {Thread : Type} [DecidableEq Thread] (signal : Cond)
    (before after : Machine Thread) (signalled : Signalled signal before after) (thread : Thread)
    (cond : Cond)
    (asleep : after.phase thread = .queued cond) : before.phase thread = .queued cond := by
  rcases signalled with ⟨waiter, _, moved⟩ | ⟨_, unmoved⟩
  · rw [moved] at asleep
    by_cases same : thread = waiter
    · subst same
      rw [Function.update_self] at asleep
      cases asleep
    · rwa [Function.update_of_ne same] at asleep
  · rwa [unmoved] at asleep

theorem signalled_ready {Thread : Type} [DecidableEq Thread] (signal : Cond)
    (before after : Machine Thread) (signalled : Signalled signal before after) (thread : Thread)
    (ready : (before.phase thread).isReady = true) : (after.phase thread).isReady = true := by
  rcases signalled with ⟨waiter, _, moved⟩ | ⟨_, unmoved⟩
  · rw [moved]
    by_cases same : thread = waiter
    · subst same
      rw [Function.update_self]
      rfl
    · rwa [Function.update_of_ne same]
  · rwa [unmoved]

def Call.waitsFor : Call → Cond
  | .producer _ => .less
  | .consumer _ => .more

def Cond.opposite : Cond → Cond
  | .more => .less
  | .less => .more

theorem Cond.ne_opposite (cond : Cond) : cond ≠ cond.opposite := by
  cases cond <;> decide

theorem Cond.eq_opposite (cond other : Cond) (different : cond ≠ other) :
    cond = other.opposite := by
  cases cond <;> cases other <;> first | rfl | exact (different rfl).elim

def CondBuffer.available (b : CondBuffer) : Cond → Int
  | .more => b.occupied
  | .less => bufferSize - b.occupied

/-- One atomic step, the same for both kinds of call. -/
inductive Turn {Thread : Type} [DecidableEq Thread] (call : Call) (thread : Thread)
    (before after : Machine Thread) : Prop where
  | slept (nothing : before.shared.available call.waitsFor ≤ 0)
      (asleep : after = before.setPhase thread (.queued call.waitsFor))
  | served (something : 0 < before.shared.available call.waitsFor)
      (taken : after.shared.available call.waitsFor = before.shared.available call.waitsFor - 1)
      (given : after.shared.available call.waitsFor.opposite =
        before.shared.available call.waitsFor.opposite + 1)
      (locals : after.locals = Function.update before.locals thread (before.locals thread + 1))
      (signalled : Signalled call.waitsFor.opposite before after)

variable {Thread : Type} [DecidableEq Thread]

theorem section_turn (calls : Thread → Call) (thread : Thread) (before after : Machine Thread)
    (step : SectionStep (programs calls) thread before after) :
    before.phase thread = .ready ∧ before.locals thread < (calls thread).iterations ∧
      Turn (calls thread) thread before after := by
  obtain ⟨ready, more, move⟩ := section_move calls thread before after step
  refine ⟨ready, more, ?_⟩
  cases move with
  | full iterations kind noRoom slept =>
      rw [kind]
      exact .slept (by simp only [Call.waitsFor, CondBuffer.available]; omega) slept
  | blank iterations kind noItem slept =>
      rw [kind]
      exact .slept noItem slept
  | put iterations kind room shared locals signalled =>
      have occupied : after.shared.occupied = before.shared.occupied + 1 := by rw [shared]; rfl
      rw [kind]
      refine .served ?_ ?_ ?_ locals signalled <;>
        simp only [Call.waitsFor, Cond.opposite, CondBuffer.available] <;> omega
  | take iterations kind item shared locals signalled =>
      have occupied : after.shared.occupied = before.shared.occupied - 1 := by rw [shared]; rfl
      rw [kind]
      refine .served ?_ ?_ ?_ locals signalled <;>
        simp only [Call.waitsFor, Cond.opposite, CondBuffer.available] <;> omega

variable [Fintype Thread]

def awakeFor (calls : Thread → Call) (state : Machine Thread) (cond : Cond) : Finset Thread :=
  Finset.univ.filter fun thread => (calls thread).waitsFor = cond ∧
    (state.phase thread).isReady = true ∧ state.locals thread < (calls thread).iterations

omit [DecidableEq Thread] in
theorem mem_awakeFor (calls : Thread → Call) (state : Machine Thread) (cond : Cond)
    (thread : Thread) :
    thread ∈ awakeFor calls state cond ↔ (calls thread).waitsFor = cond ∧
      (state.phase thread).isReady = true ∧
      state.locals thread < (calls thread).iterations := by
  simp [awakeFor]

/-- Nobody sleeps on what is there unless enough others are up to take it. -/
structure Covered (calls : Thread → Call) (state : Machine Thread) : Prop where
  bound : ∀ thread, state.locals thread ≤ (calls thread).iterations
  queue : ∀ thread cond, state.phase thread = .queued cond →
    cond = (calls thread).waitsFor ∧ state.locals thread < (calls thread).iterations
  covered : ∀ cond, (∃ thread, state.phase thread = .queued cond) →
    state.shared.available cond ≤ (awakeFor calls state cond).card

section Steps

variable (calls : Thread → Call) (before after : Machine Thread)
  (covered : Covered calls before) (thread : Thread)

omit [DecidableEq Thread] in
theorem launch_covered : Covered calls (launch Thread) where
  bound _ := Nat.zero_le _
  queue thread cond asleep := by cases asleep
  covered cond := by
    rintro ⟨thread, asleep⟩
    cases asleep

include covered

theorem covered_slept (more : before.locals thread < (calls thread).iterations)
    (nothing : before.shared.available (calls thread).waitsFor ≤ 0) :
    Covered calls (before.setPhase thread (.queued (calls thread).waitsFor)) := by
  refine ⟨covered.bound, ?_, ?_⟩
  · intro other cond asleep
    by_cases same : other = thread
    · subst same
      rw [setPhase_self] at asleep
      cases asleep
      exact ⟨rfl, more⟩
    · rw [setPhase_other _ _ _ _ same] at asleep
      exact covered.queue other cond asleep
  · rintro cond ⟨sleeper, asleep⟩
    rw [setPhase_shared]
    -- On its own condition there is nothing to take; on the other it was not counted.
    by_cases own : cond = (calls thread).waitsFor
    · subst own
      omega
    · have different : sleeper ≠ thread := by
        intro same
        subst same
        rw [setPhase_self] at asleep
        cases asleep
        exact own rfl
      rw [setPhase_other _ _ _ _ different] at asleep
      have enough := covered.covered cond ⟨sleeper, asleep⟩
      have kept : awakeFor calls before cond ⊆
          awakeFor calls (before.setPhase thread (.queued (calls thread).waitsFor)) cond := by
        intro other member
        rw [mem_awakeFor] at member ⊢
        have apart : other ≠ thread := by
          intro same
          rw [same] at member
          exact own member.1.symm
        rwa [setPhase_other _ _ _ _ apart]
      exact enough.trans (Int.ofNat_le.mpr (Finset.card_le_card kept))

theorem covered_wake : Covered calls (before.setPhase thread .ready) := by
  have still : ∀ other cond, (before.setPhase thread .ready).phase other = .queued cond →
      before.phase other = .queued cond := by
    intro other cond asleep
    by_cases same : other = thread
    · subst same
      rw [setPhase_self] at asleep
      cases asleep
    · rwa [setPhase_other _ _ _ _ same] at asleep
  refine ⟨covered.bound, fun other cond asleep => covered.queue other cond (still other cond asleep),
    ?_⟩
  rintro cond ⟨sleeper, asleep⟩
  have enough := covered.covered cond ⟨sleeper, still sleeper cond asleep⟩
  have grows : awakeFor calls before cond ⊆
      awakeFor calls (before.setPhase thread .ready) cond := by
    intro other member
    rw [mem_awakeFor] at member ⊢
    refine ⟨member.1, ?_, member.2.2⟩
    by_cases same : other = thread
    · rw [same, setPhase_self]
      rfl
    · rw [setPhase_other _ _ _ _ same]
      exact member.2.1
  exact enough.trans (Int.ofNat_le.mpr (Finset.card_le_card grows))

variable (ready : before.phase thread = .ready)
  (locals : after.locals = Function.update before.locals thread (before.locals thread + 1))
  (signalled : Signalled (calls thread).waitsFor.opposite before after)

include ready locals signalled

theorem queue_served : ∀ other cond, after.phase other = .queued cond →
    cond = (calls other).waitsFor ∧ after.locals other < (calls other).iterations := by
  intro other cond asleep
  have queued := signalled_queued _ before after signalled other cond asleep
  have different : other ≠ thread := by
    intro same
    rw [same, ready] at queued
    cases queued
  rw [locals, Function.update_of_ne different]
  exact covered.queue other cond queued

theorem covered_taken (more : before.locals thread < (calls thread).iterations)
    (taken : after.shared.available (calls thread).waitsFor =
      before.shared.available (calls thread).waitsFor - 1)
    (sleeper : Thread) (asleep : after.phase sleeper = .queued (calls thread).waitsFor) :
    after.shared.available (calls thread).waitsFor ≤
      (awakeFor calls after (calls thread).waitsFor).card := by
  have enough := covered.covered _
    ⟨sleeper, signalled_queued _ before after signalled sleeper _ asleep⟩
  -- One less is there, and at most one less is up for it: the taker.
  have shrinks : (awakeFor calls before (calls thread).waitsFor).erase thread ⊆
      awakeFor calls after (calls thread).waitsFor := by
    intro other member
    obtain ⟨different, old⟩ := Finset.mem_erase.mp member
    rw [mem_awakeFor] at old ⊢
    rw [locals, Function.update_of_ne different]
    exact ⟨old.1, signalled_ready _ before after signalled other old.2.1, old.2.2⟩
  have taker : thread ∈ awakeFor calls before (calls thread).waitsFor := by
    rw [mem_awakeFor, ready]
    exact ⟨rfl, rfl, more⟩
  have fewer := Finset.card_le_card shrinks
  rw [Finset.card_erase_of_mem taker] at fewer
  omega

omit ready in
theorem covered_given
    (given : after.shared.available (calls thread).waitsFor.opposite =
      before.shared.available (calls thread).waitsFor.opposite + 1)
    (sleeper : Thread) (asleep : after.phase sleeper = .queued (calls thread).waitsFor.opposite) :
    after.shared.available (calls thread).waitsFor.opposite ≤
      (awakeFor calls after (calls thread).waitsFor.opposite).card := by
  have queued := signalled_queued _ before after signalled sleeper _ asleep
  have enough := covered.covered _ ⟨sleeper, queued⟩
  rcases signalled with ⟨woken, waiting, moved⟩ | ⟨nobody, _⟩
  -- One more is there, and the call that the signal woke is up for it.
  · have fresh : woken ∉ awakeFor calls before (calls thread).waitsFor.opposite := by
      rw [mem_awakeFor, waiting]
      simp [Phase.isReady]
    have kept : ∀ other, (calls other).waitsFor = (calls thread).waitsFor.opposite →
        after.locals other = before.locals other := by
      intro other role
      rw [locals, Function.update_of_ne]
      intro same
      rw [same] at role
      exact Cond.ne_opposite _ role
    have grows : insert woken (awakeFor calls before (calls thread).waitsFor.opposite) ⊆
        awakeFor calls after (calls thread).waitsFor.opposite := by
      intro other member
      rw [mem_awakeFor, moved]
      rcases Finset.mem_insert.mp member with same | old
      · obtain ⟨role, left⟩ := covered.queue woken _ waiting
        rw [same, Function.update_self, kept woken role.symm]
        exact ⟨role.symm, rfl, left⟩
      · rw [mem_awakeFor] at old
        rw [kept other old.1]
        refine ⟨old.1, ?_, old.2.2⟩
        by_cases same : other = woken
        · rw [same, Function.update_self]
          rfl
        · rw [Function.update_of_ne same]
          exact old.2.1
    have larger := Finset.card_le_card grows
    rw [Finset.card_insert_of_notMem fresh] at larger
    omega
  -- A signal to nobody: then nobody sleeps on it now either.
  · exact (nobody sleeper queued).elim

end Steps

theorem covered_step (calls : Thread → Call) (before after : Machine Thread)
    (covered : Covered calls before) (step : Atomic (programs calls) before after) :
    Covered calls after := by
  rcases step with ⟨thread, moved⟩ | ⟨thread, cond, _, woken⟩
  · obtain ⟨ready, more, turn⟩ := section_turn calls thread before after moved
    cases turn with
    | slept nothing asleep =>
        exact asleep ▸ covered_slept calls before covered thread more nothing
    | served something taken given locals signalled =>
        refine ⟨?_, queue_served calls before after covered thread ready locals signalled, ?_⟩
        · intro other
          rw [locals]
          by_cases same : other = thread
          · subst same
            rw [Function.update_self]
            exact more
          · rw [Function.update_of_ne same]
            exact covered.bound other
        · rintro cond ⟨sleeper, asleep⟩
          by_cases own : cond = (calls thread).waitsFor
          · subst own
            exact covered_taken calls before after covered thread ready locals signalled more taken
              sleeper asleep
          · rw [Cond.eq_opposite cond _ own] at asleep ⊢
            exact covered_given calls before after covered thread locals signalled given
              sleeper asleep
  · exact woken ▸ covered_wake calls before covered thread

theorem atomic_covered (calls : Thread → Call) (state : Machine Thread)
    (reached : AtomicReachable (programs calls) (launch Thread) state) : Covered calls state := by
  induction reached with
  | refl => exact launch_covered calls
  | tail _ step ih => exact covered_step calls _ _ ih step

section Totals

def total (calls : Thread → Call) (cond : Cond) (locals : Thread → Nat) : Int :=
  ∑ thread, if (calls thread).waitsFor = cond then (locals thread : Int) else 0

def supply (calls : Thread → Call) : Int :=
  ∑ thread, (calls thread).produced (calls thread).iterations

def demand (calls : Thread → Call) : Int :=
  ∑ thread, (calls thread).consumed (calls thread).iterations

variable (calls : Thread → Call)

omit [DecidableEq Thread] in
theorem produced_total (locals : Thread → Nat) :
    ∑ thread, (calls thread).produced (locals thread) = total calls .less locals := by
  apply Finset.sum_congr rfl
  intro thread _
  cases calls thread <;> simp [Call.produced, Call.waitsFor]

omit [DecidableEq Thread] in
theorem consumed_total (locals : Thread → Nat) :
    ∑ thread, (calls thread).consumed (locals thread) = total calls .more locals := by
  apply Finset.sum_congr rfl
  intro thread _
  cases calls thread <;> simp [Call.consumed, Call.waitsFor]

omit [DecidableEq Thread] in
theorem total_eq (cond : Cond) (left right : Thread → Nat)
    (same : ∀ thread, (calls thread).waitsFor = cond → left thread = right thread) :
    total calls cond left = total calls cond right := by
  apply Finset.sum_congr rfl
  intro thread _
  by_cases role : (calls thread).waitsFor = cond
  · rw [same thread role]
  · rw [if_neg role, if_neg role]

omit [DecidableEq Thread] in
theorem total_lt (cond : Cond) (left right : Thread → Nat) (below : ∀ thread, left thread ≤ right thread)
    (thread : Thread) (role : (calls thread).waitsFor = cond) (short : left thread < right thread) :
    total calls cond left < total calls cond right := by
  apply Finset.sum_lt_sum
  · intro other _
    by_cases role : (calls other).waitsFor = cond
    · rw [if_pos role, if_pos role]
      exact Int.ofNat_le.mpr (below other)
    · rw [if_neg role, if_neg role]
  · refine ⟨thread, Finset.mem_univ thread, ?_⟩
    rw [if_pos role, if_pos role]
    exact Int.ofNat_lt.mpr short

end Totals

section Sleepers

variable (calls : Thread → Call) (state : Machine Thread)

omit [DecidableEq Thread] in
theorem balance_totals (balanced : Balanced calls state) :
    total calls .less state.locals =
      total calls .more state.locals + state.shared.occupied := by
  have balance := balanced.balance
  rwa [itemsProduced, itemsConsumed, produced_total, consumed_total] at balance

omit [DecidableEq Thread] in
/-- Some call asleep for good means that the totals do not fit: nobody who would
give what it waits for is left. -/
theorem asleep_unfit (balanced : Balanced calls state) (covered : Covered calls state)
    (settled : ∀ thread, (calls thread).iterations ≤ state.locals thread ∨
      ∃ cond, state.phase thread = .queued cond)
    (thread : Thread) (unfinished : state.locals thread < (calls thread).iterations) :
    supply calls < demand calls ∨ demand calls + bufferSize < supply calls := by
  have nothing : ∀ other, state.locals other < (calls other).iterations →
      state.shared.available (calls other).waitsFor ≤ 0 := by
    intro other left
    rcases settled other with finished | ⟨cond, asleep⟩
    · omega
    · have enough := covered.covered cond ⟨other, asleep⟩
      have nobody : awakeFor calls state cond = ∅ := by
        rw [Finset.eq_empty_iff_forall_notMem]
        intro up member
        obtain ⟨_, ready, running⟩ := (mem_awakeFor calls state cond up).mp member
        rcases settled up with finished | ⟨_, queued⟩
        · omega
        · rw [queued] at ready
          cases ready
      rwa [nobody, Finset.card_empty, (covered.queue other cond asleep).1] at enough
  have own := nothing thread unfinished
  -- Were a giver unfinished too, it would wait for the opposite, and the buffer would
  -- have neither an item nor a free slot.
  have givers : ∀ other, (calls other).waitsFor = (calls thread).waitsFor.opposite →
      state.locals other = (calls other).iterations := by
    intro other role
    apply Nat.le_antisymm (covered.bound other)
    by_contra left
    have both := nothing other (Nat.lt_of_not_le left)
    rw [role] at both
    cases kind : (calls thread).waitsFor <;>
      simp only [kind, Cond.opposite, CondBuffer.available, bufferSize] at own both <;> omega
  have given := total_eq calls _ _ _ givers
  have short := total_lt calls _ _ _ covered.bound thread rfl unfinished
  have balance := balance_totals calls state balanced
  have nonneg := balanced.valid.occupied_nonneg
  have atMost := balanced.valid.occupied_le
  rw [supply, demand, produced_total, consumed_total]
  cases kind : (calls thread).waitsFor with
  | more =>
      simp only [kind, Cond.opposite, CondBuffer.available] at own given short
      omega
  | less =>
      simp only [kind, Cond.opposite, CondBuffer.available] at own given short
      omega

omit [DecidableEq Thread] in
theorem finished_totals (balanced : Balanced calls state) (covered : Covered calls state)
    (finished : ∀ thread, (calls thread).iterations ≤ state.locals thread) :
    supply calls = demand calls + state.shared.occupied := by
  have balance := balance_totals calls state balanced
  have whole : ∀ thread, state.locals thread = (calls thread).iterations :=
    fun thread => Nat.le_antisymm (covered.bound thread) (finished thread)
  have produced := total_eq calls .less state.locals (fun thread => (calls thread).iterations)
    fun thread _ => whole thread
  have consumed := total_eq calls .more state.locals (fun thread => (calls thread).iterations)
    fun thread _ => whole thread
  rw [supply, demand, produced_total, consumed_total, ← produced, ← consumed]
  exact balance

end Sleepers

section Deadlock

theorem finished_iff {Thread : Type} (calls : Thread → Call) (thread : Thread)
    (state : Machine Thread) :
    Finished (programs calls) thread state ↔
      (calls thread).iterations ≤ state.locals thread := by
  cases kind : calls thread <;>
    simp [Finished, programs, kind, Call.program, producerLoop, consumerLoop, Call.iterations]

theorem body_silent {Thread : Type} [DecidableEq Thread] (calls : Thread → Call) (thread : Thread)
    (statement : Statement CondBuffer Nat Cond)
    (member : statement ∈ (programs calls thread).body) (before after : Machine Thread)
    (effect : Effect thread statement before after) : after.locals = before.locals := by
  have shape : (∃ update, statement = onBuffer update) ∨ ∃ cond, statement = .signal cond := by
    cases kind : calls thread <;>
      simp only [programs, kind, Call.program, producerLoop, consumerLoop, producerBody,
        consumerBody, List.mem_cons, List.not_mem_nil, or_false] at member <;>
      rcases member with rfl | rfl | rfl | rfl | rfl <;> simp
  rcases shape with ⟨update, rfl⟩ | ⟨cond, rfl⟩
  · rw [(onBuffer_effect thread update before after).mp effect]
  · exact (signal_effect thread cond before after effect).2.1

def ecallThreadFunctions (loopsPerThread : Nat) : Option (Fin 4) → Call
  | none => ecallProducer loopsPerThread
  | some _ => ecallConsumer loopsPerThread

theorem ecallThreadFunctions_totals (loopsPerThread : Nat) :
    supply (ecallThreadFunctions loopsPerThread) = 4 * loopsPerThread ∧
      demand (ecallThreadFunctions loopsPerThread) = 4 * loopsPerThread := by
  simp [supply, demand, Fintype.sum_option, ecallThreadFunctions, ecallProducer, ecallConsumer,
    Call.produced, Call.consumed, Call.iterations]

/-- The producer and its four consumers never sleep together with work left,
under any interleaving, lost or stolen signals and spurious wake-ups included.
So a state in which no thread can step is the end of all five calls. -/
theorem producer_consumers_no_deadlock (loopsPerThread : Nat) (state : Machine (Option (Fin 4)))
    (reached : Reachable (programs (ecallThreadFunctions loopsPerThread)) (launch _) state) :
    ((∃ thread, ¬ Finished (programs (ecallThreadFunctions loopsPerThread)) thread state) →
      ∃ thread, ¬ Finished (programs (ecallThreadFunctions loopsPerThread)) thread state ∧
        ∀ cond, state.phase thread ≠ .queued cond) ∧
    ((∀ thread, ¬ CanStep (programs (ecallThreadFunctions loopsPerThread)) thread state) →
      (∀ thread, Finished (programs (ecallThreadFunctions loopsPerThread)) thread state) ∧
        state.shared.occupied = 0) := by
  have initial : Initial (launch (Option (Fin 4))) := ⟨rfl, fun _ => rfl⟩
  obtain ⟨supplied, demanded⟩ := ecallThreadFunctions_totals loopsPerThread
  have busy : (∃ thread, ¬ Finished (programs (ecallThreadFunctions loopsPerThread)) thread state) →
      ∃ thread, ¬ Finished (programs (ecallThreadFunctions loopsPerThread)) thread state ∧
        ∀ cond, state.phase thread ≠ .queued cond := by
    rintro ⟨thread, unfinished⟩
    cases owner : state.owner with
    | some holder =>
        have held := holder_busy _ _ state initial reached holder owner
        refine ⟨holder, held.2 (body_silent _ holder), fun cond queued => ?_⟩
        rw [queued] at held
        exact held.1 trivial
    | none =>
        have run := free_reachable _ _ state initial reached owner
        by_contra allAsleep
        have settled : ∀ other,
            (ecallThreadFunctions loopsPerThread other).iterations ≤ state.locals other ∨
              ∃ cond, state.phase other = .queued cond := by
          intro other
          by_contra up
          obtain ⟨running, awake⟩ := not_or.mp up
          exact allAsleep ⟨other, fun done => running ((finished_iff _ other state).mp done),
            fun cond queued => awake ⟨cond, queued⟩⟩
        rw [finished_iff, Nat.not_le] at unfinished
        have unfit := asleep_unfit _ state (atomic_balanced _ state run) (atomic_covered _ state run)
          settled thread unfinished
        simp only [bufferSize] at unfit
        omega
  refine ⟨busy, fun stuck => ?_⟩
  obtain ⟨free, shape⟩ := stuck_shape _ _ state initial reached stuck
  have run := free_reachable _ _ state initial reached free
  have allDone : ∀ thread,
      Finished (programs (ecallThreadFunctions loopsPerThread)) thread state := by
    intro thread
    by_contra unfinished
    obtain ⟨other, running, up⟩ := busy ⟨thread, unfinished⟩
    rcases shape other with done | ⟨cond, queued⟩
    · exact running done
    · exact up cond queued
  have totals := finished_totals _ state (atomic_balanced _ state run) (atomic_covered _ state run)
    fun thread => (finished_iff _ thread state).mp (allDone thread)
  exact ⟨allDone, by omega⟩

def allHungry : Machine (Option (Fin 4)) :=
  [0, 1, 2, 3].foldl (fun state consumer => state.setPhase (some consumer) (.queued .more))
    (launch (Option (Fin 4)))

theorem hungry_step (loopsPerThread : Nat) (positive : 0 < loopsPerThread)
    (state : Machine (Option (Fin 4))) (consumer : Fin 4)
    (ready : state.phase (some consumer) = .ready) (fresh : state.locals (some consumer) = 0)
    (blank : state.shared.occupied ≤ 0) :
    Atomic (programs (ecallThreadFunctions loopsPerThread)) state
      (state.setPhase (some consumer) (.queued .more)) := by
  have more : (programs (ecallThreadFunctions loopsPerThread) (some consumer)).returned
      (state.locals (some consumer)) = false := by
    rw [fresh]
    simpa [programs, ecallThreadFunctions, ecallConsumer, Call.program, consumerLoop] using positive
  have blocked : (programs (ecallThreadFunctions loopsPerThread) (some consumer)).waits
      state.shared = some .more := by
    simp only [programs, ecallThreadFunctions, ecallConsumer, Call.program, consumerLoop]
    rw [if_pos blank]
  exact Or.inl ⟨some consumer, SectionStep.wait .more ready more blocked⟩

theorem allHungry_reachable :
    Reachable (programs (ecallThreadFunctions 500)) (launch _) allHungry := by
  have step := hungry_step 500 (by decide)
  have run : AtomicReachable (programs (ecallThreadFunctions 500)) (launch _) allHungry :=
    (((Relation.ReflTransGen.single (step _ 0 rfl rfl (by decide))).tail
      (step _ 1 rfl rfl (by decide))).tail (step _ 2 rfl rfl (by decide))).tail
      (step _ 3 rfl rfl (by decide))
  exact atomic_reachable _ _ _ ⟨rfl, fun _ => rfl⟩ run

theorem producer_consumers_no_deadlock_allHungry :
    (∀ consumer : Fin 4, allHungry.phase (some consumer) = .queued .more) ∧
      ∃ thread, ¬ Finished (programs (ecallThreadFunctions 500)) thread allHungry ∧
        ∀ cond, allHungry.phase thread ≠ .queued cond :=
  ⟨fun consumer => by fin_cases consumer <;> rfl,
    (producer_consumers_no_deadlock 500 allHungry allHungry_reachable).1
      ⟨none, by simp [Finished, programs, ecallThreadFunctions, ecallProducer, Call.program,
        producerLoop, allHungry, launch, State.setPhase]⟩⟩

end Deadlock

end SgxExperiments.RingBuffer
