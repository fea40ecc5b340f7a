import SgxExperiments.LockedSections

/-!
The reduction between the two systems: whenever the mutex is free, every
statement-level state is also a state of the atomic system, and the other way round.
-/

namespace SgxExperiments.LockedSections

variable {Thread Shared Local Cond : Type} [DecidableEq Thread]

section Reduction

variable (code : Thread → Program Shared Local Cond)

def Calm (state : State Thread Shared Local Cond) : Prop :=
  state.owner = none ∧ ∀ thread, (state.phase thread).Quiet

omit [DecidableEq Thread] in
theorem initial_calm (state : State Thread Shared Local Cond) (initial : Initial state) :
    Calm state :=
  ⟨initial.1, fun thread => by rw [initial.2 thread]; trivial⟩

theorem calm_setPhase (state : State Thread Shared Local Cond) (thread : Thread)
    (phase : Phase Shared Local Cond) (calm : Calm state) (quiet : phase.Quiet) :
    Calm (state.setPhase thread phase) := by
  refine ⟨calm.1, fun other => ?_⟩
  by_cases same : other = thread
  · subst same
    rw [setPhase_self]
    exact quiet
  · rw [setPhase_other _ _ _ _ same]
    exact calm.2 other

theorem exec_calm (thread : Thread) (statements : List (Statement Shared Local Cond))
    (before after : State Thread Shared Local Cond)
    (exec : Exec thread statements before after) (calm : Calm before) : Calm after :=
  ⟨(exec_frame thread statements before after exec).1.trans calm.1,
    exec_quiet thread statements before after exec calm.2⟩

theorem atomic_calm (before after : State Thread Shared Local Cond)
    (step : Atomic code before after) (calm : Calm before) : Calm after := by
  rcases step with ⟨thread, moved⟩ | ⟨thread, _, _, woken⟩
  · cases moved with
    | wait cond => exact calm_setPhase _ _ _ calm trivial
    | complete waiting more passed exec =>
        have finished := exec_calm thread _ _ _ exec calm
        exact ⟨finished.1, finished.2⟩
  · subst woken
    exact calm_setPhase _ _ _ calm trivial

/-- What a statement-level state is, seen from an atomic state: it is that
state, or some ready thread has since taken the mutex and stands at its wait
test, or it has run the statements `done` of its body. -/
inductive Explained (origin : State Thread Shared Local Cond) :
    State Thread Shared Local Cond → Prop where
  | free : Explained origin origin
  | testing (thread : Thread) (ready : origin.phase thread = .ready)
      (more : (code thread).returned (origin.locals thread) = false) :
      Explained origin (origin.hold thread .testing)
  | inside (thread : Thread) (ready : origin.phase thread = .ready)
      (more : (code thread).returned (origin.locals thread) = false)
      (passed : (code thread).waits origin.shared = none)
      (done rest : List (Statement Shared Local Cond))
      (body : (code thread).body = done ++ rest) (current : State Thread Shared Local Cond)
      (exec : Exec thread done origin current) :
      Explained origin (current.hold thread (.inside rest))

theorem holder_unique (current : State Thread Shared Local Cond) (calm : Calm current)
    (thread other : Thread) (held : Phase Shared Local Cond)
    (busy : ¬ ((current.hold thread held).phase other).Quiet) : other = thread := by
  by_contra different
  rw [hold_other _ _ _ _ different] at busy
  exact busy (calm.2 other)

theorem free_step (origin after : State Thread Shared Local Cond) (calm : Calm origin)
    (thread : Thread) (step : ThreadStep code thread origin after) :
    Explained code origin after := by
  have quiet := calm.2 thread
  cases step with
  | lock free waiting more => exact Explained.testing thread waiting more
  | wait cond test blocked => rw [test] at quiet; exact quiet.elim
  | enter test passed => rw [test] at quiet; exact quiet.elim
  | statement first rest position effect => rw [position] at quiet; exact quiet.elim
  | unlock position => rw [position] at quiet; exact quiet.elim

theorem testing_step (origin after : State Thread Shared Local Cond) (calm : Calm origin)
    (thread other : Thread) (ready : origin.phase thread = .ready)
    (more : (code thread).returned (origin.locals thread) = false)
    (step : ThreadStep code other (origin.hold thread .testing) after) :
    Explained code origin after ∨ Atomic code origin after := by
  have unique := holder_unique origin calm thread other .testing
  cases step with
  | lock free waiting more => simp at free
  | wait cond test blocked =>
      have same : other = thread := unique (by rw [test]; exact id)
      subst same
      rw [release_hold _ _ _ _ calm.1]
      exact Or.inr (Or.inl ⟨other, SectionStep.wait cond ready more blocked⟩)
  | enter test passed =>
      have same : other = thread := unique (by rw [test]; exact id)
      subst same
      rw [setPhase_hold]
      exact Or.inl (Explained.inside other ready more passed [] _ rfl origin rfl)
  | statement first rest position effect =>
      have same : other = thread := unique (by rw [position]; exact id)
      subst same
      rw [hold_self] at position
      cases position
  | unlock position =>
      have same : other = thread := unique (by rw [position]; exact id)
      subst same
      rw [hold_self] at position
      cases position

theorem inside_step (origin current after : State Thread Shared Local Cond) (calm : Calm origin)
    (thread other : Thread) (ready : origin.phase thread = .ready)
    (more : (code thread).returned (origin.locals thread) = false)
    (passed : (code thread).waits origin.shared = none)
    (done rest : List (Statement Shared Local Cond)) (body : (code thread).body = done ++ rest)
    (exec : Exec thread done origin current)
    (step : ThreadStep code other (current.hold thread (.inside rest)) after) :
    Explained code origin after ∨ Atomic code origin after := by
  have stillCalm := exec_calm thread done origin current exec calm
  have stillReady := exec_ready thread thread done origin current exec ready
  have unique := holder_unique current stillCalm thread other (.inside rest)
  cases step with
  | lock free waiting more => simp at free
  | wait cond test blocked =>
      have same : other = thread := unique (by rw [test]; exact id)
      subst same
      rw [hold_self] at test
      cases test
  | enter test passed =>
      have same : other = thread := unique (by rw [test]; exact id)
      subst same
      rw [hold_self] at test
      cases test
  | statement first tail position effect =>
      have same : other = thread := unique (by rw [position]; exact id)
      subst same
      rw [hold_self] at position
      cases position
      obtain ⟨middle, ran, moved⟩ :=
        effect_hold other first current _ _ stillReady (fun _ => by simp) effect
      subst moved
      rw [setPhase_hold]
      refine Or.inl (Explained.inside other ready more passed (done ++ [first]) tail ?_ middle ?_)
      · simpa using body
      · exact (exec_append other done [first] origin middle).mpr
          ⟨current, exec, middle, ran, rfl⟩
  | unlock position =>
      have same : other = thread := unique (by rw [position]; exact id)
      subst same
      rw [hold_self] at position
      cases position
      have whole : Exec other (code other).body origin current := by
        rw [body, List.append_nil]
        exact exec
      rw [unlock_hold other current (code other).next stillCalm.1 stillReady]
      exact Or.inr (Or.inl ⟨other, SectionStep.complete ready more passed whole⟩)

theorem explained_wake (origin before : State Thread Shared Local Cond)
    (explained : Explained code origin before) (woken : Thread) (cond : Cond)
    (asleep : before.phase woken = .queued cond) :
    origin.phase woken = .queued cond ∧
      Explained code (origin.setPhase woken .ready) (before.setPhase woken .ready) := by
  cases explained with
  | free => exact ⟨asleep, Explained.free⟩
  | testing thread ready more =>
      have different : woken ≠ thread := by
        intro same
        subst same
        rw [hold_self] at asleep
        cases asleep
      rw [hold_other _ _ _ _ different] at asleep
      have stillReady : (origin.setPhase woken .ready).phase thread = .ready := by
        rw [setPhase_other _ _ _ _ (Ne.symm different), ready]
      refine ⟨asleep, ?_⟩
      rw [hold_setPhase_comm _ _ _ _ _ different]
      exact Explained.testing thread stillReady more
  | inside thread ready more passed done rest body current exec =>
      have different : woken ≠ thread := by
        intro same
        subst same
        rw [hold_self] at asleep
        cases asleep
      rw [hold_other _ _ _ _ different] at asleep
      obtain ⟨start, moved⟩ := exec_wake thread woken done origin current cond exec asleep
      have stillReady : (origin.setPhase woken .ready).phase thread = .ready := by
        rw [setPhase_other _ _ _ _ (Ne.symm different), ready]
      refine ⟨start, ?_⟩
      rw [hold_setPhase_comm _ _ _ _ _ different]
      exact Explained.inside thread stillReady more passed done rest body _ moved

theorem atomicReachable_calm (first state : State Thread Shared Local Cond)
    (initial : Initial first) (reached : AtomicReachable code first state) : Calm state := by
  induction reached with
  | refl => exact initial_calm first initial
  | tail _ step ih => exact atomic_calm code _ _ step ih

theorem reachable_explained (first state : State Thread Shared Local Cond)
    (initial : Initial first) (reached : Reachable code first state) :
    ∃ origin, AtomicReachable code first origin ∧ Explained code origin state := by
  induction reached with
  | refl => exact ⟨first, Relation.ReflTransGen.refl, Explained.free⟩
  | @tail before after _ step ih =>
      obtain ⟨origin, run, explained⟩ := ih
      have calm := atomicReachable_calm code first origin initial run
      have extend : Explained code origin after ∨ Atomic code origin after →
          ∃ next, AtomicReachable code first next ∧ Explained code next after := by
        rintro (same | moved)
        · exact ⟨origin, run, same⟩
        · exact ⟨after, run.tail moved, Explained.free⟩
      rcases step with ⟨other, moved⟩ | ⟨woken, cond, asleep, moved⟩
      · cases explained with
        | free => exact extend (Or.inl (free_step code before after calm other moved))
        | testing thread ready more =>
            exact extend (testing_step code origin after calm thread other ready more moved)
        | inside thread ready more passed done rest body current exec =>
            exact extend (inside_step code origin current after calm thread other ready more passed
              done rest body exec moved)
      · subst moved
        obtain ⟨queued, kept⟩ := explained_wake code origin before explained woken cond asleep
        exact ⟨_, run.tail (Or.inr ⟨woken, cond, queued, rfl⟩), kept⟩

/-- The reduction: with the mutex free, single statements are invisible. -/
theorem free_reachable (first state : State Thread Shared Local Cond)
    (initial : Initial first) (reached : Reachable code first state) (free : state.owner = none) :
    AtomicReachable code first state := by
  obtain ⟨origin, run, explained⟩ := reachable_explained code first state initial reached
  cases explained with
  | free => exact run
  | testing thread ready more => simp at free
  | inside thread ready more passed done rest body current exec => simp at free

theorem inside_origin (first state : State Thread Shared Local Cond) (initial : Initial first)
    (reached : Reachable code first state) (thread : Thread)
    (rest : List (Statement Shared Local Cond)) (position : state.phase thread = .inside rest) :
    ∃ origin current done, AtomicReachable code first origin ∧ origin.phase thread = .ready ∧
      (code thread).returned (origin.locals thread) = false ∧
      (code thread).waits origin.shared = none ∧ (code thread).body = done ++ rest ∧
      Exec thread done origin current ∧ state = current.hold thread (.inside rest) := by
  obtain ⟨origin, run, explained⟩ := reachable_explained code first state initial reached
  have calm := atomicReachable_calm code first origin initial run
  cases explained with
  | free =>
      have quiet := calm.2 thread
      rw [position] at quiet
      exact quiet.elim
  | testing other ready more =>
      have same := holder_unique origin calm other thread .testing (by rw [position]; exact id)
      subst same
      rw [hold_self] at position
      cases position
  | inside other ready more passed done left body current exec =>
      have same := holder_unique current (exec_calm other done origin current exec calm) other
        thread (.inside left) (by rw [position]; exact id)
      subst same
      rw [hold_self] at position
      cases position
      exact ⟨origin, current, done, run, ready, more, passed, body, exec, rfl⟩

end Reduction

section Embedding

variable (code : Thread → Program Shared Local Cond)

theorem hold_effect (thread : Thread) (statement : Statement Shared Local Cond)
    (before after : State Thread Shared Local Cond) (held : Phase Shared Local Cond)
    (ready : before.phase thread = .ready) (inside : ∀ cond, held ≠ .queued cond)
    (effect : Effect thread statement before after) :
    Effect thread statement (before.hold thread held) (after.hold thread held) := by
  cases statement with
  | run run =>
      subst effect
      rfl
  | signal cond =>
      rcases effect with ⟨waiter, asleep, moved⟩ | ⟨nobody, unmoved⟩
      · have different : waiter ≠ thread := by
          intro same
          subst same
          rw [ready] at asleep
          cases asleep
        refine Or.inl ⟨waiter, ?_, ?_⟩
        · rw [hold_other _ _ _ _ different, asleep]
        · rw [moved, hold_setPhase_comm _ _ _ _ _ different]
      · subst unmoved
        refine Or.inr ⟨fun waiter asleep => ?_, rfl⟩
        by_cases same : waiter = thread
        · subst same
          rw [hold_self] at asleep
          exact inside cond asleep
        · rw [hold_other _ _ _ _ same] at asleep
          exact nobody waiter asleep

theorem exec_steps (thread : Thread) (statements : List (Statement Shared Local Cond))
    (before after : State Thread Shared Local Cond) (ready : before.phase thread = .ready)
    (exec : Exec thread statements before after) :
    Relation.ReflTransGen (Step code) (before.hold thread (.inside statements))
      (after.hold thread (.inside [])) := by
  induction statements generalizing before with
  | nil =>
      have same : after = before := exec
      subst same
      exact Relation.ReflTransGen.refl
  | cons statement rest ih =>
      obtain ⟨middle, first, later⟩ := exec
      have stillReady : middle.phase thread = .ready :=
        exec_ready thread thread [statement] before middle ⟨middle, first, rfl⟩ ready
      have lifted := hold_effect thread statement before middle (.inside (statement :: rest)) ready
        (fun _ => by simp) first
      have stepped : Step code (before.hold thread (.inside (statement :: rest)))
          (middle.hold thread (.inside rest)) := by
        have single : ThreadStep code thread _ _ :=
          ThreadStep.statement statement rest (hold_self _ _ _) lifted
        rw [setPhase_hold] at single
        exact Or.inl ⟨thread, single⟩
      exact Relation.ReflTransGen.head stepped (ih middle stillReady later)

theorem section_steps (thread : Thread) (before after : State Thread Shared Local Cond)
    (calm : Calm before) (step : SectionStep code thread before after) :
    Relation.ReflTransGen (Step code) before after := by
  cases step with
  | wait cond waiting more blocked =>
      have locked : Step code before (before.hold thread .testing) :=
        Or.inl ⟨thread, ThreadStep.lock calm.1 waiting more⟩
      have slept : ThreadStep code thread _ _ :=
        ThreadStep.wait cond (hold_self before thread .testing) blocked
      rw [release_hold _ _ _ _ calm.1] at slept
      exact (Relation.ReflTransGen.single locked).tail (Or.inl ⟨thread, slept⟩)
  | @complete reached waiting more passed exec =>
      have locked : Step code before (before.hold thread .testing) :=
        Or.inl ⟨thread, ThreadStep.lock calm.1 waiting more⟩
      have entered : ThreadStep code thread _ _ :=
        ThreadStep.enter (hold_self before thread .testing) passed
      rw [setPhase_hold] at entered
      have ran := exec_steps code thread (code thread).body before reached waiting exec
      have stillCalm := exec_calm thread _ _ _ exec calm
      have left : ThreadStep code thread _ _ :=
        ThreadStep.unlock (hold_self reached thread (.inside []))
      have ended : ((reached.hold thread (.inside [])).endIteration thread
          (code thread).next).release thread .ready =
            reached.endIteration thread (code thread).next :=
        unlock_hold thread reached (code thread).next stillCalm.1
          (exec_ready thread thread _ _ _ exec waiting)
      rw [ended] at left
      exact (((Relation.ReflTransGen.single locked).tail (Or.inl ⟨thread, entered⟩)).trans ran).tail
        (Or.inl ⟨thread, left⟩)

/-- Atomic runs are statement-level runs, so the two systems have exactly the
same states with a free mutex. -/
theorem atomic_reachable (first state : State Thread Shared Local Cond) (initial : Initial first)
    (reached : AtomicReachable code first state) : Reachable code first state := by
  induction reached with
  | refl => exact Relation.ReflTransGen.refl
  | tail run step ih =>
      have calm := atomicReachable_calm code first _ initial run
      rcases step with ⟨thread, moved⟩ | woken
      · exact ih.trans (section_steps code thread _ _ calm moved)
      · exact ih.tail (Or.inr woken)

theorem free_iff_atomic (first state : State Thread Shared Local Cond) (initial : Initial first) :
    (Reachable code first state ∧ state.owner = none) ↔ AtomicReachable code first state := by
  constructor
  · rintro ⟨reached, free⟩
    exact free_reachable code first state initial reached free
  · intro reached
    exact ⟨atomic_reachable code first state initial reached,
      (atomicReachable_calm code first state initial reached).1⟩

end Embedding

end SgxExperiments.LockedSections
