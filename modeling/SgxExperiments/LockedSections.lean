import Mathlib.Logic.Function.Basic
import Mathlib.Logic.Relation

/-!
Threads that share one mutex and its condition variables. Every thread runs a
loop of critical sections: take the mutex, wait while a test of the shared data
blocks it, run the statements of the body one at a time, release the mutex.
`Step` interleaves single statements. `Atomic` takes a whole section at once.
-/

namespace SgxExperiments.LockedSections

/-- One statement of a critical section. `run` reads and writes the shared data
and the thread's own variables; `signal` wakes one waiter of a condition. -/
inductive Statement (Shared Local Cond : Type) where
  | run (effect : Shared → Local → Shared × Local)
  | signal (cond : Cond)

/-- The loop of one call. `returned` is the failed loop test, `waits` names the
condition the thread sleeps on while the shared data blocks it, and `next` is
the thread-local end of an iteration. -/
structure Program (Shared Local Cond : Type) where
  returned : Local → Bool
  waits : Shared → Option Cond
  body : List (Statement Shared Local Cond)
  next : Local → Local

/-- `ready` covers both a thread about to lock and one that left a queue: each
has to take the mutex and evaluate the wait test from the start. -/
inductive Phase (Shared Local Cond : Type) where
  | ready
  | testing
  | inside (rest : List (Statement Shared Local Cond))
  | queued (cond : Cond)

def Phase.isReady {Shared Local Cond : Type} : Phase Shared Local Cond → Bool
  | .ready => true
  | _ => false

def Phase.Quiet {Shared Local Cond : Type} : Phase Shared Local Cond → Prop
  | .ready | .queued _ => True
  | .testing | .inside _ => False

structure State (Thread Shared Local Cond : Type) where
  shared : Shared
  locals : Thread → Local
  phase : Thread → Phase Shared Local Cond
  owner : Option Thread

variable {Thread Shared Local Cond : Type} [DecidableEq Thread]

def State.setPhase (state : State Thread Shared Local Cond) (thread : Thread)
    (phase : Phase Shared Local Cond) : State Thread Shared Local Cond :=
  { state with phase := Function.update state.phase thread phase }

def State.hold (state : State Thread Shared Local Cond) (thread : Thread)
    (phase : Phase Shared Local Cond) : State Thread Shared Local Cond :=
  { state.setPhase thread phase with owner := some thread }

def State.release (state : State Thread Shared Local Cond) (thread : Thread)
    (phase : Phase Shared Local Cond) : State Thread Shared Local Cond :=
  { state.setPhase thread phase with owner := none }

def State.runEffect (state : State Thread Shared Local Cond) (thread : Thread)
    (effect : Shared → Local → Shared × Local) : State Thread Shared Local Cond :=
  let result := effect state.shared (state.locals thread)
  { state with shared := result.1, locals := Function.update state.locals thread result.2 }

def State.endIteration (state : State Thread Shared Local Cond) (thread : Thread)
    (next : Local → Local) : State Thread Shared Local Cond :=
  { state with locals := Function.update state.locals thread (next (state.locals thread)) }

/-- The effect of one statement of `thread`. A signal moves one queued thread
to `ready`, whichever one, and is lost when no thread is queued. -/
def Effect (thread : Thread) (statement : Statement Shared Local Cond)
    (before after : State Thread Shared Local Cond) : Prop :=
  match statement with
  | .run effect => after = before.runEffect thread effect
  | .signal cond =>
      (∃ waiter, before.phase waiter = .queued cond ∧ after = before.setPhase waiter .ready) ∨
      ((∀ waiter, before.phase waiter ≠ .queued cond) ∧ after = before)

def Exec (thread : Thread) : List (Statement Shared Local Cond) →
    State Thread Shared Local Cond → State Thread Shared Local Cond → Prop
  | [], before, after => after = before
  | statement :: rest, before, after =>
      ∃ middle, Effect thread statement before middle ∧ Exec thread rest middle after

def Signalled (cond : Cond) (before after : State Thread Shared Local Cond) : Prop :=
  (∃ waiter, before.phase waiter = .queued cond ∧
    after.phase = Function.update before.phase waiter .ready) ∨
  ((∀ waiter, before.phase waiter ≠ .queued cond) ∧ after.phase = before.phase)

inductive ThreadStep (code : Thread → Program Shared Local Cond) (thread : Thread) :
    State Thread Shared Local Cond → State Thread Shared Local Cond → Prop where
  | lock {state} (free : state.owner = none) (waiting : state.phase thread = .ready)
      (more : (code thread).returned (state.locals thread) = false) :
      ThreadStep code thread state (state.hold thread .testing)
  | wait {state} (cond : Cond) (test : state.phase thread = .testing)
      (blocked : (code thread).waits state.shared = some cond) :
      ThreadStep code thread state (state.release thread (.queued cond))
  | enter {state} (test : state.phase thread = .testing)
      (passed : (code thread).waits state.shared = none) :
      ThreadStep code thread state (state.setPhase thread (.inside (code thread).body))
  | statement {state after} (first : Statement Shared Local Cond)
      (rest : List (Statement Shared Local Cond))
      (position : state.phase thread = .inside (first :: rest))
      (effect : Effect thread first state after) :
      ThreadStep code thread state (after.setPhase thread (.inside rest))
  | unlock {state} (position : state.phase thread = .inside []) :
      ThreadStep code thread state
        ((state.endIteration thread (code thread).next).release thread .ready)

def Spurious (before after : State Thread Shared Local Cond) : Prop :=
  ∃ thread cond, before.phase thread = .queued cond ∧ after = before.setPhase thread .ready

def Step (code : Thread → Program Shared Local Cond)
    (before after : State Thread Shared Local Cond) : Prop :=
  (∃ thread, ThreadStep code thread before after) ∨ Spurious before after

/-- One whole critical section as a single step. -/
inductive SectionStep (code : Thread → Program Shared Local Cond) (thread : Thread) :
    State Thread Shared Local Cond → State Thread Shared Local Cond → Prop where
  | wait {state} (cond : Cond) (waiting : state.phase thread = .ready)
      (more : (code thread).returned (state.locals thread) = false)
      (blocked : (code thread).waits state.shared = some cond) :
      SectionStep code thread state (state.setPhase thread (.queued cond))
  | complete {state after} (waiting : state.phase thread = .ready)
      (more : (code thread).returned (state.locals thread) = false)
      (passed : (code thread).waits state.shared = none)
      (exec : Exec thread (code thread).body state after) :
      SectionStep code thread state (after.endIteration thread (code thread).next)

def Atomic (code : Thread → Program Shared Local Cond)
    (before after : State Thread Shared Local Cond) : Prop :=
  (∃ thread, SectionStep code thread before after) ∨ Spurious before after

def Initial (state : State Thread Shared Local Cond) : Prop :=
  state.owner = none ∧ ∀ thread, state.phase thread = .ready

def Reachable (code : Thread → Program Shared Local Cond)
    (first state : State Thread Shared Local Cond) : Prop :=
  Relation.ReflTransGen (Step code) first state

def AtomicReachable (code : Thread → Program Shared Local Cond)
    (first state : State Thread Shared Local Cond) : Prop :=
  Relation.ReflTransGen (Atomic code) first state

section Frames

@[simp] theorem setPhase_shared (state : State Thread Shared Local Cond) (thread : Thread)
    (phase : Phase Shared Local Cond) : (state.setPhase thread phase).shared = state.shared := rfl

@[simp] theorem setPhase_locals (state : State Thread Shared Local Cond) (thread : Thread)
    (phase : Phase Shared Local Cond) : (state.setPhase thread phase).locals = state.locals := rfl

@[simp] theorem setPhase_owner (state : State Thread Shared Local Cond) (thread : Thread)
    (phase : Phase Shared Local Cond) : (state.setPhase thread phase).owner = state.owner := rfl

@[simp] theorem setPhase_self (state : State Thread Shared Local Cond) (thread : Thread)
    (phase : Phase Shared Local Cond) : (state.setPhase thread phase).phase thread = phase := by
  simp [State.setPhase]

theorem setPhase_other (state : State Thread Shared Local Cond) (thread other : Thread)
    (phase : Phase Shared Local Cond) (different : other ≠ thread) :
    (state.setPhase thread phase).phase other = state.phase other := by
  simp [State.setPhase, different]

@[simp] theorem hold_shared (state : State Thread Shared Local Cond) (thread : Thread)
    (phase : Phase Shared Local Cond) : (state.hold thread phase).shared = state.shared := rfl

@[simp] theorem hold_locals (state : State Thread Shared Local Cond) (thread : Thread)
    (phase : Phase Shared Local Cond) : (state.hold thread phase).locals = state.locals := rfl

@[simp] theorem hold_owner (state : State Thread Shared Local Cond) (thread : Thread)
    (phase : Phase Shared Local Cond) : (state.hold thread phase).owner = some thread := rfl

@[simp] theorem hold_self (state : State Thread Shared Local Cond) (thread : Thread)
    (phase : Phase Shared Local Cond) : (state.hold thread phase).phase thread = phase := by
  simp [State.hold]

theorem hold_other (state : State Thread Shared Local Cond) (thread other : Thread)
    (phase : Phase Shared Local Cond) (different : other ≠ thread) :
    (state.hold thread phase).phase other = state.phase other := by
  simp [State.hold, setPhase_other, different]

theorem setPhase_hold (state : State Thread Shared Local Cond) (thread : Thread)
    (before after : Phase Shared Local Cond) :
    (state.hold thread before).setPhase thread after = state.hold thread after := by
  simp [State.hold, State.setPhase]

theorem hold_setPhase_comm (state : State Thread Shared Local Cond) (thread other : Thread)
    (held moved : Phase Shared Local Cond) (different : other ≠ thread) :
    (state.hold thread held).setPhase other moved = (state.setPhase other moved).hold thread held := by
  simp [State.hold, State.setPhase, Function.update_comm different]

theorem release_hold (state : State Thread Shared Local Cond) (thread : Thread)
    (held left : Phase Shared Local Cond) (free : state.owner = none) :
    (state.hold thread held).release thread left = state.setPhase thread left := by
  simp [State.release, State.hold, State.setPhase, free]

theorem setPhase_same (state : State Thread Shared Local Cond) (thread : Thread)
    (phase : Phase Shared Local Cond) (position : state.phase thread = phase) :
    state.setPhase thread phase = state := by
  subst position
  simp [State.setPhase]

theorem unlock_hold (thread : Thread) (state : State Thread Shared Local Cond)
    (next : Local → Local) (free : state.owner = none) (ready : state.phase thread = .ready) :
    ((state.hold thread (.inside [])).endIteration thread next).release thread .ready =
      state.endIteration thread next := by
  change (State.hold (state.endIteration thread next) thread (.inside [])).release thread .ready = _
  rw [release_hold (state.endIteration thread next) _ _ _ free]
  exact setPhase_same _ _ _ ready

end Frames

section Sections

theorem effect_frame (thread : Thread) (statement : Statement Shared Local Cond)
    (before after : State Thread Shared Local Cond)
    (effect : Effect thread statement before after) :
    after.owner = before.owner ∧
    (∀ other, after.phase other = before.phase other ∨
      ((∃ cond, before.phase other = .queued cond) ∧ after.phase other = .ready)) := by
  cases statement with
  | run run =>
      subst effect
      exact ⟨rfl, fun other => Or.inl rfl⟩
  | signal cond =>
      rcases effect with ⟨waiter, asleep, moved⟩ | ⟨_, unmoved⟩
      · subst moved
        refine ⟨rfl, fun other => ?_⟩
        by_cases same : other = waiter
        · subst same
          exact Or.inr ⟨⟨cond, asleep⟩, setPhase_self _ _ _⟩
        · exact Or.inl (setPhase_other _ _ _ _ same)
      · subst unmoved
        exact ⟨rfl, fun other => Or.inl rfl⟩

theorem exec_frame (thread : Thread) (statements : List (Statement Shared Local Cond))
    (before after : State Thread Shared Local Cond)
    (exec : Exec thread statements before after) :
    after.owner = before.owner ∧
    (∀ other, after.phase other = before.phase other ∨
      ((∃ cond, before.phase other = .queued cond) ∧ after.phase other = .ready)) := by
  induction statements generalizing before with
  | nil =>
      have same : after = before := exec
      subst same
      exact ⟨rfl, fun other => Or.inl rfl⟩
  | cons statement rest ih =>
      obtain ⟨middle, first, later⟩ := exec
      have head := effect_frame thread statement before middle first
      have tail := ih middle later
      refine ⟨tail.1.trans head.1, fun other => ?_⟩
      rcases tail.2 other with kept | ⟨⟨cond, asleep⟩, woken⟩
      · rw [kept]
        exact head.2 other
      · rcases head.2 other with same | ⟨_, awake⟩
        · exact Or.inr ⟨⟨cond, same ▸ asleep⟩, woken⟩
        · rw [awake] at asleep
          cases asleep

theorem exec_ready (thread other : Thread) (statements : List (Statement Shared Local Cond))
    (before after : State Thread Shared Local Cond)
    (exec : Exec thread statements before after) (ready : before.phase other = .ready) :
    after.phase other = .ready := by
  rcases (exec_frame thread statements before after exec).2 other with kept | ⟨_, woken⟩
  · rw [kept, ready]
  · exact woken

theorem exec_quiet (thread : Thread) (statements : List (Statement Shared Local Cond))
    (before after : State Thread Shared Local Cond)
    (exec : Exec thread statements before after)
    (quiet : ∀ other, (before.phase other).Quiet) : ∀ other, (after.phase other).Quiet := by
  intro other
  rcases (exec_frame thread statements before after exec).2 other with kept | ⟨_, woken⟩
  · rw [kept]
    exact quiet other
  · rw [woken]
    trivial

theorem exec_append (thread : Thread) (first second : List (Statement Shared Local Cond))
    (before after : State Thread Shared Local Cond) :
    Exec thread (first ++ second) before after ↔
      ∃ middle, Exec thread first before middle ∧ Exec thread second middle after := by
  induction first generalizing before with
  | nil => simp [Exec]
  | cons statement rest ih =>
      simp only [List.cons_append, Exec, ih]
      constructor
      · rintro ⟨next, effect, middle, early, late⟩
        exact ⟨middle, ⟨next, effect, early⟩, late⟩
      · rintro ⟨middle, ⟨next, effect, early⟩, late⟩
        exact ⟨next, effect, middle, early, late⟩

theorem effect_hold (thread : Thread) (statement : Statement Shared Local Cond)
    (state after : State Thread Shared Local Cond) (held : Phase Shared Local Cond)
    (ready : state.phase thread = .ready) (inside : ∀ cond, held ≠ .queued cond)
    (effect : Effect thread statement (state.hold thread held) after) :
    ∃ middle, Effect thread statement state middle ∧ after = middle.hold thread held := by
  cases statement with
  | run run => exact ⟨_, rfl, effect⟩
  | signal cond =>
      rcases effect with ⟨waiter, asleep, moved⟩ | ⟨nobody, unmoved⟩
      · have different : waiter ≠ thread := by
          intro same
          subst same
          rw [hold_self] at asleep
          exact inside cond asleep
        rw [hold_other _ _ _ _ different] at asleep
        refine ⟨state.setPhase waiter .ready, Or.inl ⟨waiter, asleep, rfl⟩, ?_⟩
        rw [moved, hold_setPhase_comm _ _ _ _ _ different]
      · refine ⟨state, Or.inr ⟨fun waiter asleep => ?_, rfl⟩, unmoved⟩
        by_cases same : waiter = thread
        · subst same
          rw [ready] at asleep
          cases asleep
        · exact nobody waiter (by rw [hold_other _ _ _ _ same, asleep])

/-- A spurious wake-up in the middle of a section could as well have come
before it: the signals of the section did not need that waiter. -/
theorem effect_wake (thread woken : Thread) (statement : Statement Shared Local Cond)
    (before after : State Thread Shared Local Cond) (cond : Cond)
    (effect : Effect thread statement before after) (asleep : after.phase woken = .queued cond) :
    before.phase woken = .queued cond ∧
      Effect thread statement (before.setPhase woken .ready) (after.setPhase woken .ready) := by
  have same : before.phase woken = .queued cond := by
    rcases (effect_frame thread statement before after effect).2 woken with kept | ⟨_, awake⟩
    · rw [← kept, asleep]
    · rw [awake] at asleep
      cases asleep
  refine ⟨same, ?_⟩
  cases statement with
  | run run =>
      subst effect
      rfl
  | signal signalled =>
      rcases effect with ⟨waiter, waiting, moved⟩ | ⟨nobody, unmoved⟩
      · subst moved
        have different : waiter ≠ woken := by
          intro equal
          subst equal
          rw [setPhase_self] at asleep
          cases asleep
        refine Or.inl ⟨waiter, ?_, ?_⟩
        · rw [setPhase_other _ _ _ _ different, waiting]
        · simp [State.setPhase, Function.update_comm different]
      · subst unmoved
        refine Or.inr ⟨fun waiter => ?_, rfl⟩
        by_cases equal : waiter = woken
        · subst equal
          simp
        · rw [setPhase_other _ _ _ _ equal]
          exact nobody waiter

theorem exec_wake (thread woken : Thread) (statements : List (Statement Shared Local Cond))
    (before after : State Thread Shared Local Cond) (cond : Cond)
    (exec : Exec thread statements before after) (asleep : after.phase woken = .queued cond) :
    before.phase woken = .queued cond ∧
      Exec thread statements (before.setPhase woken .ready) (after.setPhase woken .ready) := by
  induction statements generalizing before with
  | nil =>
      have same : after = before := exec
      subst same
      exact ⟨asleep, rfl⟩
  | cons statement rest ih =>
      obtain ⟨middle, first, later⟩ := exec
      obtain ⟨queued, tail⟩ := ih middle later
      obtain ⟨start, head⟩ := effect_wake thread woken statement before middle cond first queued
      exact ⟨start, middle.setPhase woken .ready, head, tail⟩

end Sections

end SgxExperiments.LockedSections
