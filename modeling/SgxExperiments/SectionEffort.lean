import Mathlib.Logic.Relation
import SgxExperiments.SectionProgress

/-!
How long threads with counted loops can go on. A thread may find its test blocked
again and again, but each time it has to be woken first, and a signal costs its
sender a statement of a section. So the steps of a run are bounded by the work
there is at its start and the spurious wake-ups on the way.

First the counting, for any system whose steps are of two kinds: those that do the
work each spend some of a budget, the disturbances refill it by a fixed amount.
-/

namespace SgxExperiments.CountedRuns

variable {State : Type}

inductive CountedRun (Working Disturbance : State → State → Prop) (first : State) :
    Nat → Nat → State → Prop where
  | start : CountedRun Working Disturbance first 0 0 first
  | working {steps disturbances : Nat} {before after : State}
      (run : CountedRun Working Disturbance first steps disturbances before)
      (step : Working before after) :
      CountedRun Working Disturbance first (steps + 1) disturbances after
  | disturbed {steps disturbances : Nat} {before after : State}
      (run : CountedRun Working Disturbance first steps disturbances before)
      (step : Disturbance before after) :
      CountedRun Working Disturbance first steps (disturbances + 1) after

structure Budget (Working Disturbance : State → State → Prop) (Inv : State → Prop)
    (budget : State → Nat) (refill : Nat) : Prop where
  working : ∀ before after, Inv before → Working before after →
    Inv after ∧ budget after < budget before
  disturbance : ∀ before after, Inv before → Disturbance before after →
    Inv after ∧ budget after ≤ budget before + refill

variable {Working Disturbance : State → State → Prop} {Inv : State → Prop}
  {budget : State → Nat} {refill : Nat}

/-- Every working step has been paid for, out of the first budget or a refill. -/
theorem Budget.steps_le (bounded : Budget Working Disturbance Inv budget refill) (first last : State)
    (holds : Inv first) (steps disturbances : Nat)
    (run : CountedRun Working Disturbance first steps disturbances last) :
    Inv last ∧ steps + budget last ≤ budget first + refill * disturbances := by
  induction run with
  | start => exact ⟨holds, by omega⟩
  | working run step ih =>
      obtain ⟨kept, spent⟩ := bounded.working _ _ ih.1 step
      exact ⟨kept, by omega⟩
  | disturbed run step ih =>
      obtain ⟨kept, refilled⟩ := bounded.disturbance _ _ ih.1 step
      refine ⟨kept, ?_⟩
      rw [Nat.mul_succ]
      omega

theorem Budget.settles (bounded : Budget Working Disturbance Inv budget refill) (first : State)
    (holds : Inv first) :
    ∃ last, Relation.ReflTransGen Working first last ∧ Inv last ∧ ∀ after, ¬ Working last after := by
  induction spent : budget first using Nat.strongRecOn generalizing first with
  | ind amount ih =>
      by_cases ongoing : ∃ after, Working first after
      · obtain ⟨after, step⟩ := ongoing
        obtain ⟨kept, less⟩ := bounded.working first after holds step
        obtain ⟨last, run, ends⟩ := ih _ (spent ▸ less) after kept rfl
        exact ⟨last, Relation.ReflTransGen.head step run, ends⟩
      · exact ⟨first, Relation.ReflTransGen.refl, holds, fun after step => ongoing ⟨after, step⟩⟩

end SgxExperiments.CountedRuns

namespace SgxExperiments.LockedSections

open CountedRuns

section Effort

variable {Thread Shared Local Cond : Type}

def ThreadsStep [DecidableEq Thread] (code : Thread → Program Shared Local Cond)
    (before after : State Thread Shared Local Cond) : Prop :=
  ∃ thread, ThreadStep code thread before after

/-- A loop that counts: `remaining` iterations are left, and the body does not
touch the count. -/
structure Countdown (program : Program Shared Local Cond) (remaining : Local → Nat) : Prop where
  running : ∀ locals, program.returned locals = false → 0 < remaining locals
  next : ∀ locals, remaining (program.next locals) = remaining locals - 1
  body : ∀ effect, .run effect ∈ program.body → ∀ shared locals,
    remaining (effect shared locals).2 = remaining locals

/-- A signal also pays for the two steps of a waiter that is woken in vain. -/
def Statement.cost : Statement Shared Local Cond → Nat
  | .run _ => 1
  | .signal _ => 3

def statementsCost (statements : List (Statement Shared Local Cond)) : Nat :=
  (statements.map Statement.cost).sum

def Program.cost (program : Program Shared Local Cond) : Nat := statementsCost program.body + 3

def Phase.effort (iteration remaining : Nat) : Phase Shared Local Cond → Nat
  | .ready => remaining * iteration + 2
  | .testing => remaining * iteration + 1
  | .queued _ => remaining * iteration
  | .inside rest => (remaining - 1) * iteration + statementsCost rest + 3

variable (code : Thread → Program Shared Local Cond) (remaining : Thread → Local → Nat)

def threadEffort (state : State Thread Shared Local Cond) (thread : Thread) : Nat :=
  (state.phase thread).effort (code thread).cost (remaining thread (state.locals thread))

variable [Fintype Thread]

def effort (state : State Thread Shared Local Cond) : Nat :=
  ∑ thread, threadEffort code remaining state thread

theorem effort_congr (before after : State Thread Shared Local Cond)
    (same : ∀ thread, threadEffort code remaining after thread =
      threadEffort code remaining before thread) :
    effort code remaining after = effort code remaining before :=
  Finset.sum_congr rfl fun thread _ => same thread

variable [DecidableEq Thread]

theorem effort_change (before after : State Thread Shared Local Cond) (thread : Thread)
    (others : ∀ other, other ≠ thread →
      threadEffort code remaining after other = threadEffort code remaining before other) :
    effort code remaining after + threadEffort code remaining before thread =
      effort code remaining before + threadEffort code remaining after thread := by
  have rest : ∑ other ∈ Finset.univ.erase thread, threadEffort code remaining after other =
      ∑ other ∈ Finset.univ.erase thread, threadEffort code remaining before other :=
    Finset.sum_congr rfl fun other inside => others other (Finset.ne_of_mem_erase inside)
  have member := Finset.mem_univ thread
  rw [effort, effort, ← Finset.add_sum_erase _ _ member, rest,
    ← Finset.add_sum_erase _ (fun other => threadEffort code remaining before other) member]
  omega

theorem effort_setPhase (state : State Thread Shared Local Cond) (thread : Thread)
    (phase : Phase Shared Local Cond) :
    effort code remaining (state.setPhase thread phase) +
        threadEffort code remaining state thread =
      effort code remaining state +
        phase.effort (code thread).cost (remaining thread (state.locals thread)) := by
  have changed := effort_change code remaining state (state.setPhase thread phase) thread
    fun other different => by simp only [threadEffort, setPhase_other _ _ _ _ different,
      setPhase_locals]
  rwa [threadEffort, threadEffort, setPhase_self, setPhase_locals] at changed

/-- A statement of the body costs nobody but its own thread anything it has not
paid for already. -/
theorem effect_effort (thread : Thread) (statement : Statement Shared Local Cond)
    (before after : State Thread Shared Local Cond)
    (counts : Countdown (code thread) (remaining thread)) (member : statement ∈ (code thread).body)
    (effect : Effect thread statement before after) :
    effort code remaining after + 1 ≤ effort code remaining before + statement.cost := by
  cases statement with
  | run run =>
      subst effect
      have same : ∀ other, threadEffort code remaining (before.runEffect thread run) other =
          threadEffort code remaining before other := by
        intro other
        by_cases own : other = thread
        · subst own
          simp [threadEffort, State.runEffect, counts.body run member]
        · simp [threadEffort, State.runEffect, own]
      rw [effort_congr code remaining before _ same, Statement.cost]
  | signal cond =>
      rw [Statement.cost]
      -- A signal pays the two steps of the thread it wakes.
      rcases effect with ⟨waiter, asleep, moved⟩ | ⟨_, unmoved⟩
      · have changed := effort_setPhase code remaining before waiter .ready
        rw [← moved, threadEffort, asleep] at changed
        simp only [Phase.effort] at changed
        omega
      · rw [unmoved]
        omega

omit [Fintype Thread] in
theorem testing_origin (first state : State Thread Shared Local Cond) (initial : Initial first)
    (reached : Reachable code first state) (thread : Thread)
    (position : state.phase thread = .testing) :
    (code thread).returned (state.locals thread) = false := by
  obtain ⟨origin, run, explained⟩ := reachable_explained code first state initial reached
  have calm := atomicReachable_calm code first origin initial run
  cases explained with
  | free =>
      have quiet := calm.2 thread
      rw [position] at quiet
      exact quiet.elim
  | testing other ready more =>
      have same := holder_unique origin calm other thread .testing (by rw [position]; exact id)
      subst same
      exact more
  | inside other ready more passed done left body current exec =>
      have same := holder_unique current (exec_calm other done origin current exec calm) other
        thread (.inside left) (by rw [position]; exact id)
      subst same
      rw [hold_self] at position
      cases position

variable (counts : ∀ thread, Countdown (code thread) (remaining thread))

include counts

theorem threadStep_spends (first before after : State Thread Shared Local Cond)
    (initial : Initial first) (reached : Reachable code first before) (thread : Thread)
    (step : ThreadStep code thread before after) :
    effort code remaining after < effort code remaining before := by
  cases step with
  | lock free waiting more =>
      have changed := effort_setPhase code remaining before thread .testing
      rw [threadEffort, waiting] at changed
      simp only [Phase.effort] at changed
      change effort code remaining (before.setPhase thread .testing) < _
      omega
  | wait cond test blocked =>
      have changed := effort_setPhase code remaining before thread (.queued cond)
      rw [threadEffort, test] at changed
      simp only [Phase.effort] at changed
      change effort code remaining (before.setPhase thread (.queued cond)) < _
      omega
  | enter test passed =>
      have left := (counts thread).running _
        (testing_origin code first before initial reached thread test)
      have changed := effort_setPhase code remaining before thread (.inside (code thread).body)
      rw [threadEffort, test] at changed
      simp only [Phase.effort] at changed
      -- Entering takes one of the remaining iterations and pays with it.
      have paid : (remaining thread (before.locals thread) - 1) * (code thread).cost + (code thread).cost =
          remaining thread (before.locals thread) * (code thread).cost := by
        rw [← Nat.succ_mul, Nat.succ_eq_add_one, Nat.sub_add_cancel left]
      simp only [Program.cost] at changed paid
      omega
  | @statement middle statement rest position effect =>
      obtain ⟨_, _, done, _, _, _, _, body, _, _⟩ :=
        inside_origin code first before initial reached thread _ position
      have member : statement ∈ (code thread).body := by
        rw [body]
        exact List.mem_append_right done List.mem_cons_self
      have spent := effect_effort code remaining thread statement before middle (counts thread)
        member effect
      have still : middle.phase thread = .inside (statement :: rest) := by
        rcases (effect_frame thread statement before middle effect).2 thread with kept | ⟨asleep, _⟩
        · rw [kept, position]
        · obtain ⟨cond, queued⟩ := asleep
          rw [position] at queued
          cases queued
      have changed := effort_setPhase code remaining middle thread (.inside rest)
      rw [threadEffort, still] at changed
      simp only [Phase.effort, statementsCost, List.map_cons, List.sum_cons] at changed
      omega
  | unlock position =>
      have changed := effort_change code remaining before
        ((before.endIteration thread (code thread).next).release thread .ready) thread
        fun other different => by
          simp [threadEffort, State.release, State.endIteration, State.setPhase, different]
      have own : threadEffort code remaining
          ((before.endIteration thread (code thread).next).release thread .ready) thread =
            (remaining thread (before.locals thread) - 1) * (code thread).cost + 2 := by
        simp [threadEffort, State.release, State.endIteration, State.setPhase, Phase.effort,
          (counts thread).next]
      have held : threadEffort code remaining before thread =
          (remaining thread (before.locals thread) - 1) * (code thread).cost + 3 := by
        simp [threadEffort, position, Phase.effort, statementsCost]
      omega

/-- A spurious wake-up gives its thread another test to make. -/
theorem sections_budget (first : State Thread Shared Local Cond) (initial : Initial first) :
    Budget (ThreadsStep code) Spurious (Reachable code first) (effort code remaining) 2 where
  working before after reached step := by
    obtain ⟨thread, moved⟩ := step
    exact ⟨reached.tail (Or.inl ⟨thread, moved⟩), threadStep_spends code remaining counts first
      before after initial reached thread moved⟩
  disturbance before after reached step := by
    refine ⟨reached.tail (Or.inr step), ?_⟩
    obtain ⟨thread, cond, asleep, woken⟩ := step
    have changed := effort_setPhase code remaining before thread .ready
    rw [← woken, threadEffort, asleep] at changed
    simp only [Phase.effort] at changed
    omega

end Effort

end SgxExperiments.LockedSections
