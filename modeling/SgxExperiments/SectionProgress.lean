import Mathlib.Algebra.BigOperators.Group.Finset.Basic
import Mathlib.Data.Fintype.BigOperators
import Mathlib.Tactic.Abel
import SgxExperiments.SectionReduction

/-!
Which threads can go on: what a state in which none can looks like, and what stays
of a call that has returned.
-/

namespace SgxExperiments.LockedSections

variable {Thread Shared Local Cond : Type} [DecidableEq Thread]

section Progress

variable (code : Thread → Program Shared Local Cond)

def Finished (thread : Thread) (state : State Thread Shared Local Cond) : Prop :=
  (code thread).returned (state.locals thread) = true

def CanStep (thread : Thread) (state : State Thread Shared Local Cond) : Prop :=
  ∃ after, ThreadStep code thread state after

theorem effect_total (thread : Thread) (statement : Statement Shared Local Cond)
    (state : State Thread Shared Local Cond) : ∃ after, Effect thread statement state after := by
  cases statement with
  | run run => exact ⟨_, rfl⟩
  | signal cond =>
      by_cases somebody : ∃ waiter, state.phase waiter = .queued cond
      · obtain ⟨waiter, asleep⟩ := somebody
        exact ⟨_, Or.inl ⟨waiter, asleep, rfl⟩⟩
      · exact ⟨state, Or.inr ⟨fun waiter asleep => somebody ⟨waiter, asleep⟩, rfl⟩⟩

theorem inside_canStep (thread : Thread) (state : State Thread Shared Local Cond)
    (rest : List (Statement Shared Local Cond)) (position : state.phase thread = .inside rest) :
    CanStep code thread state := by
  cases rest with
  | nil => exact ⟨_, ThreadStep.unlock position⟩
  | cons statement tail =>
      obtain ⟨after, effect⟩ := effect_total thread statement state
      exact ⟨_, ThreadStep.statement statement tail position effect⟩

theorem testing_canStep (thread : Thread) (state : State Thread Shared Local Cond)
    (position : state.phase thread = .testing) : CanStep code thread state := by
  cases test : (code thread).waits state.shared with
  | none => exact ⟨_, ThreadStep.enter position test⟩
  | some cond => exact ⟨_, ThreadStep.wait cond position test⟩

theorem exec_locals (thread : Thread) (statements : List (Statement Shared Local Cond))
    (silent : ∀ statement ∈ statements, ∀ before after : State Thread Shared Local Cond,
      Effect thread statement before after → after.locals = before.locals)
    (before after : State Thread Shared Local Cond)
    (exec : Exec thread statements before after) : after.locals = before.locals := by
  induction statements generalizing before with
  | nil =>
      have same : after = before := exec
      rw [same]
  | cons statement rest ih =>
      obtain ⟨middle, first, later⟩ := exec
      have tail := ih (fun other member => silent other (List.mem_cons_of_mem statement member))
        middle later
      exact tail.trans (silent statement List.mem_cons_self before middle first)

theorem holder_busy (first state : State Thread Shared Local Cond) (initial : Initial first)
    (reached : Reachable code first state) (thread : Thread)
    (holder : state.owner = some thread) : ¬ (state.phase thread).Quiet ∧
    ((∀ statement ∈ (code thread).body, ∀ before after : State Thread Shared Local Cond,
      Effect thread statement before after → after.locals = before.locals) →
      ¬ Finished code thread state) := by
  obtain ⟨origin, run, explained⟩ := reachable_explained code first state initial reached
  have calm := atomicReachable_calm code first origin initial run
  cases explained with
  | free => rw [calm.1] at holder; cases holder
  | testing other ready more =>
      simp only [hold_owner, Option.some.injEq] at holder
      subst holder
      rw [hold_self]
      refine ⟨id, fun _ finished => ?_⟩
      simp [Finished, more] at finished
  | inside other ready more passed done rest body current exec =>
      simp only [hold_owner, Option.some.injEq] at holder
      subst holder
      rw [hold_self]
      refine ⟨id, fun silent finished => ?_⟩
      have kept := exec_locals other done (fun statement member =>
        silent statement (body ▸ List.mem_append_left rest member)) origin current exec
      simp [Finished, kept, more] at finished

/-- If no thread can step, the mutex is free and every thread has returned or
sleeps on a condition. -/
theorem stuck_shape (first state : State Thread Shared Local Cond) (initial : Initial first)
    (reached : Reachable code first state) (stuck : ∀ thread, ¬ CanStep code thread state) :
    state.owner = none ∧ ∀ thread, Finished code thread state ∨
      ∃ cond, state.phase thread = .queued cond := by
  have quiet : ∀ thread, (state.phase thread).Quiet := by
    intro thread
    cases position : state.phase thread with
    | ready => trivial
    | queued cond => trivial
    | testing => exact (stuck thread (testing_canStep code thread state position)).elim
    | inside rest => exact (stuck thread (inside_canStep code thread state rest position)).elim
  have free : state.owner = none := by
    cases holder : state.owner with
    | none => rfl
    | some thread =>
        exact ((holder_busy code first state initial reached thread holder).1 (quiet thread)).elim
  refine ⟨free, fun thread => ?_⟩
  cases position : state.phase thread with
  | queued cond => exact Or.inr ⟨cond, rfl⟩
  | testing => exact (stuck thread (testing_canStep code thread state position)).elim
  | inside rest => exact (stuck thread (inside_canStep code thread state rest position)).elim
  | ready =>
      refine Or.inl ?_
      by_contra running
      exact stuck thread ⟨_, ThreadStep.lock free position (by simpa [Finished] using running)⟩

def Returned (thread : Thread) (state : State Thread Shared Local Cond) : Prop :=
  state.phase thread = .ready ∧ Finished code thread state

theorem effect_returned (thread other : Thread) (statement : Statement Shared Local Cond)
    (before after : State Thread Shared Local Cond) (different : other ≠ thread)
    (ready : before.phase other = .ready) (effect : Effect thread statement before after) :
    after.phase other = .ready ∧ after.locals other = before.locals other := by
  have still : after.phase other = .ready :=
    exec_ready thread other [statement] before after ⟨after, effect, rfl⟩ ready
  refine ⟨still, ?_⟩
  cases statement with
  | run run =>
      subst effect
      simp [State.runEffect, different]
  | signal cond =>
      rcases effect with ⟨waiter, _, moved⟩ | ⟨_, unmoved⟩
      · rw [moved, setPhase_locals]
      · rw [unmoved]

theorem returned_step (before after : State Thread Shared Local Cond) (thread : Thread)
    (returned : Returned code thread before) (step : Step code before after) :
    Returned code thread after ∧ after.locals thread = before.locals thread := by
  have same : after.phase thread = .ready ∧ after.locals thread = before.locals thread := by
    obtain ⟨ready, finished⟩ := returned
    rcases step with ⟨other, moved⟩ | ⟨woken, cond, asleep, moved⟩
    · by_cases equal : thread = other
      · subst equal
        cases moved with
        | lock free waiting more => simp [Finished, more] at finished
        | wait cond test blocked => rw [ready] at test; cases test
        | enter test passed => rw [ready] at test; cases test
        | statement first rest position effect => rw [ready] at position; cases position
        | unlock position => rw [ready] at position; cases position
      · cases moved with
        | lock free waiting more => exact ⟨by rw [hold_other _ _ _ _ equal, ready], rfl⟩
        | wait cond test blocked =>
            exact ⟨(setPhase_other _ _ _ _ equal).trans ready, rfl⟩
        | enter test passed => exact ⟨by rw [setPhase_other _ _ _ _ equal, ready], rfl⟩
        | statement first rest position effect =>
            have kept := effect_returned other thread first before _ equal ready effect
            exact ⟨by rw [setPhase_other _ _ _ _ equal, kept.1], kept.2⟩
        | unlock position =>
            exact ⟨(setPhase_other _ _ _ _ equal).trans ready, Function.update_of_ne equal _ _⟩
    · subst moved
      have different : thread ≠ woken := by
        intro equal
        rw [← equal, ready] at asleep
        cases asleep
      exact ⟨by rw [setPhase_other _ _ _ _ different, ready], rfl⟩
  refine ⟨⟨same.1, ?_⟩, same.2⟩
  rw [Finished, same.2]
  exact returned.2

end Progress

section Counting

variable [Fintype Thread] {Amount : Type} [AddCommGroup Amount]

theorem sum_update_local (measure : Thread → Local → Amount) (locals : Thread → Local)
    (thread : Thread) (value : Local) :
    ∑ other, measure other (Function.update locals thread value other) =
      ∑ other, measure other (locals other) +
        (measure thread value - measure thread (locals thread)) := by
  have member := Finset.mem_univ thread
  have others : ∑ other ∈ Finset.univ.erase thread,
        measure other (Function.update locals thread value other) =
      ∑ other ∈ Finset.univ.erase thread, measure other (locals other) := by
    apply Finset.sum_congr rfl
    intro other inside
    rw [Function.update_of_ne (Finset.ne_of_mem_erase inside)]
  calc ∑ other, measure other (Function.update locals thread value other)
      = measure thread value +
          ∑ other ∈ Finset.univ.erase thread, measure other (locals other) := by
        rw [← Finset.add_sum_erase _ _ member, others, Function.update_self]
    _ = _ := by
        rw [← Finset.add_sum_erase _ (fun other => measure other (locals other)) member]
        abel

end Counting

end SgxExperiments.LockedSections
