import Mathlib.Algebra.BigOperators.Ring.Finset
import Mathlib.Algebra.Order.BigOperators.Group.Finset
import SgxExperiments.SectionProgress

/-!
`ecall_increase_counter` of the trusted library sample and the application
threads around it. `global_counter` is a `size_t` and wraps; the local
variables of the call are `i`, `tmp` and `ret`. The application's `counter` is
written outside any mutex, by whichever thread was handed a non-zero result.
-/

namespace SgxExperiments.ThreadCounter

open LockedSections

structure Frame where
  i : Nat
  tmp : UInt64
  ret : UInt64
  deriving DecidableEq

inductive NoCond
  deriving DecidableEq

def readCounter (globalCounter : UInt64) (frame : Frame) : UInt64 × Frame :=
  (globalCounter, { frame with tmp := globalCounter })

-- `global_counter = ++tmp`
def writeCounter (_globalCounter : UInt64) (frame : Frame) : UInt64 × Frame :=
  (frame.tmp + 1, { frame with tmp := frame.tmp + 1 })

def reportCounter (loopsPerThread : Nat) (globalCounter : UInt64) (frame : Frame) :
    UInt64 × Frame :=
  (globalCounter,
    { frame with ret := if 4 * loopsPerThread = globalCounter.toNat then globalCounter
        else frame.ret })

def ecallIncreaseCounter (loopsPerThread : Nat) : Program UInt64 Frame NoCond where
  returned frame := !decide (frame.i < loopsPerThread)
  waits _ := none
  body := [.run readCounter, .run writeCounter, .run (reportCounter loopsPerThread)]
  next frame := { frame with i := frame.i + 1 }

abbrev Machine (Thread : Type) := State Thread UInt64 Frame NoCond

def launch (Thread : Type) (start : UInt64) : Machine Thread :=
  ⟨start, fun _ => ⟨0, 0, 0⟩, fun _ => .ready, none⟩

variable {Thread : Type} [Fintype Thread] [DecidableEq Thread]

def programs (Thread : Type) (loopsPerThread : Nat) : Thread → Program UInt64 Frame NoCond :=
  fun _ => ecallIncreaseCounter loopsPerThread

def increments (state : Machine Thread) : Int := ∑ thread, ((state.locals thread).i : Int)

def increase (loopsPerThread : Nat) (globalCounter : UInt64) (frame : Frame) : UInt64 × Frame :=
  (globalCounter + 1,
    { i := frame.i + 1
      tmp := globalCounter + 1
      ret := if 4 * loopsPerThread = (globalCounter + 1).toNat then globalCounter + 1
        else frame.ret })

omit [Fintype Thread] in
theorem section_increase (loopsPerThread : Nat) (thread : Thread) (before after : Machine Thread)
    (step : SectionStep (programs Thread loopsPerThread) thread before after) :
    (before.locals thread).i < loopsPerThread ∧
      after.shared = (increase loopsPerThread before.shared (before.locals thread)).1 ∧
      after.locals = Function.update before.locals thread
        (increase loopsPerThread before.shared (before.locals thread)).2 := by
  cases step with
  | wait cond waiting more blocked => cases blocked
  | @complete reached waiting more passed exec =>
      refine ⟨by simpa [programs, ecallIncreaseCounter] using more, ?_⟩
      simp only [programs, ecallIncreaseCounter, Exec, Effect] at exec
      obtain ⟨_, rfl, _, rfl, _, rfl, rfl⟩ := exec
      simp only [State.runEffect, State.endIteration, readCounter, writeCounter, reportCounter,
        increase, programs, ecallIncreaseCounter, Function.update_self, Function.update_idem,
        and_self]

/-- The report is due once the total has passed `4 * loopsPerThread`, counted
from a start below it. -/
def Due (loopsPerThread : Nat) (start : UInt64) (total : Int) : Prop :=
  start.toNat < 4 * loopsPerThread ∧ (4 * loopsPerThread : Int) ≤ start.toNat + total

structure Counted (loopsPerThread : Nat) (start : UInt64) (state : Machine Thread) : Prop where
  bound : ∀ thread, (state.locals thread).i ≤ loopsPerThread
  total : (state.shared.toNat : Int) = start.toNat + increments state
  silent : ¬ Due loopsPerThread start (increments state) →
    ∀ thread, (state.locals thread).ret = 0
  reported : Due loopsPerThread start (increments state) →
    ∃ thread, (state.locals thread).ret.toNat = 4 * loopsPerThread ∧
      ∀ other, other ≠ thread → (state.locals other).ret = 0

omit [DecidableEq Thread] in
theorem launch_counted (loopsPerThread : Nat) (start : UInt64) :
    Counted loopsPerThread start (launch Thread start) where
  bound _ := Nat.zero_le _
  total := by simp [increments, launch]
  silent _ _ := rfl
  reported due := by
    obtain ⟨below, passed⟩ := due
    simp only [increments, launch] at passed
    simp only [Nat.cast_zero, Finset.sum_const_zero] at passed
    omega

omit [DecidableEq Thread] in
theorem increments_bound (loopsPerThread : Nat) (state : Machine Thread)
    (bound : ∀ thread, (state.locals thread).i ≤ loopsPerThread) :
    increments state ≤ Fintype.card Thread * loopsPerThread := by
  have summed : ∑ thread, (state.locals thread).i ≤ Fintype.card Thread * loopsPerThread := by
    calc ∑ thread, (state.locals thread).i ≤ ∑ _thread : Thread, loopsPerThread :=
          Finset.sum_le_sum fun thread _ => bound thread
      _ = Fintype.card Thread * loopsPerThread := by simp
  rw [increments, ← Nat.cast_sum]
  exact_mod_cast summed

theorem increments_step (loopsPerThread : Nat) (before after : Machine Thread) (thread : Thread)
    (locals : after.locals = Function.update before.locals thread
      (increase loopsPerThread before.shared (before.locals thread)).2) :
    increments after = increments before + 1 := by
  rw [increments, locals, sum_update_local (fun (_ : Thread) (frame : Frame) => (frame.i : Int))]
  simp [increase, increments]

/-- One section moves the total by one and the counter with it; the section
that makes the count reach `4 * loopsPerThread` is the one that reports. -/
theorem counted_step (loopsPerThread : Nat) (start : UInt64)
    (fits : start.toNat + Fintype.card Thread * loopsPerThread < 2 ^ 64)
    (before after : Machine Thread) (counted : Counted loopsPerThread start before)
    (step : Atomic (programs Thread loopsPerThread) before after) :
    Counted loopsPerThread start after := by
  rcases step with ⟨thread, moved⟩ | ⟨thread, cond, asleep, woken⟩
  · obtain ⟨more, shared, locals⟩ := section_increase loopsPerThread thread before after moved
    have bound : ∀ other, (after.locals other).i ≤ loopsPerThread := by
      intro other
      rw [locals]
      by_cases same : other = thread
      · subst same
        rw [Function.update_self]
        exact more
      · rw [Function.update_of_ne same]
        exact counted.bound other
    have advanced := increments_step loopsPerThread before after thread locals
    have limit := increments_bound loopsPerThread after bound
    have limitNat : (start.toNat : Int) + Fintype.card Thread * loopsPerThread < 2 ^ 64 := by
      exact_mod_cast fits
    have total := counted.total
    have nonneg : 0 ≤ increments before := Finset.sum_nonneg fun other _ => Int.natCast_nonneg _
    have next : ((before.shared + 1).toNat : Int) = before.shared.toNat + 1 := by
      have small : before.shared.toNat + 1 < 2 ^ 64 := by omega
      rw [UInt64.toNat_add, UInt64.toNat_one, Nat.mod_eq_of_lt small]
      rfl
    have own : (after.locals thread).ret = if 4 * loopsPerThread = (before.shared + 1).toNat then
        before.shared + 1 else (before.locals thread).ret := by
      rw [locals, Function.update_self]
      rfl
    have others : ∀ other, other ≠ thread → (after.locals other).ret = (before.locals other).ret := by
      intro other different
      rw [locals, Function.update_of_ne different]
    refine ⟨bound, ?_, ?_, ?_⟩
    · rw [shared]
      change ((before.shared + 1).toNat : Int) = _
      omega
    · intro notDue other
      have before_silent := counted.silent (fun due => notDue ⟨due.1, by have := due.2; omega⟩)
      by_cases same : other = thread
      · subst same
        rw [own, if_neg, before_silent]
        intro hit
        exact notDue ⟨by omega, by omega⟩
      · rw [others other same, before_silent]
    · intro due
      by_cases hit : 4 * loopsPerThread = (before.shared + 1).toNat
      · have before_silent := counted.silent (fun early => by have := early.2; omega)
        refine ⟨thread, by rw [own, if_pos hit, hit], fun other different => ?_⟩
        rw [others other different, before_silent]
      · obtain ⟨reporter, reported, rest⟩ := counted.reported ⟨due.1, by have := due.2; omega⟩
        have kept : ∀ other, (after.locals other).ret = (before.locals other).ret := by
          intro other
          by_cases same : other = thread
          · subst same
            rw [own, if_neg hit]
          · exact others other same
        exact ⟨reporter, by rw [kept, reported], fun other different => by
          rw [kept, rest other different]⟩
  · subst woken
    exact ⟨counted.bound, counted.total, counted.silent, counted.reported⟩

theorem atomic_counted (loopsPerThread : Nat) (start : UInt64)
    (fits : start.toNat + Fintype.card Thread * loopsPerThread < 2 ^ 64) (state : Machine Thread)
    (reached : AtomicReachable (programs Thread loopsPerThread) (launch Thread start) state) :
    Counted loopsPerThread start state := by
  induction reached with
  | refl => exact launch_counted loopsPerThread start
  | tail _ step ih => exact counted_step loopsPerThread start fits _ _ ih step

theorem all_returned_exact (loopsPerThread : Nat) (start : UInt64)
    (fits : start.toNat + Fintype.card Thread * loopsPerThread < 2 ^ 64) (state : Machine Thread)
    (reached : Reachable (programs Thread loopsPerThread) (launch Thread start) state)
    (allReturned : ∀ thread, Returned (programs Thread loopsPerThread) thread state) :
    state.shared.toNat = start.toNat + Fintype.card Thread * loopsPerThread ∧
    ((start.toNat < 4 * loopsPerThread ∧
        4 * loopsPerThread ≤ start.toNat + Fintype.card Thread * loopsPerThread) →
      ∃ thread, (state.locals thread).ret.toNat = 4 * loopsPerThread ∧
        ∀ other, other ≠ thread → (state.locals other).ret = 0) ∧
    (¬ (start.toNat < 4 * loopsPerThread ∧
        4 * loopsPerThread ≤ start.toNat + Fintype.card Thread * loopsPerThread) →
      ∀ thread, (state.locals thread).ret = 0) := by
  have initial : Initial (launch Thread start) := ⟨rfl, fun _ => rfl⟩
  have free : state.owner = none := by
    cases owner : state.owner with
    | none => rfl
    | some holder =>
        have held := holder_busy _ _ state initial reached holder owner
        rw [(allReturned holder).1] at held
        exact (held.1 trivial).elim
  have counted := atomic_counted loopsPerThread start fits state
    (free_reachable _ _ state initial reached free)
  have full : ∀ thread, (state.locals thread).i = loopsPerThread := by
    intro thread
    have finished := (allReturned thread).2
    simp only [Finished, programs, ecallIncreaseCounter, Bool.not_eq_true',
      decide_eq_false_iff_not, Nat.not_lt] at finished
    exact Nat.le_antisymm (counted.bound thread) finished
  have whole : increments state = ((Fintype.card Thread * loopsPerThread : Nat) : Int) := by
    simp [increments, full]
  have due : Due loopsPerThread start (increments state) ↔
      (start.toNat < 4 * loopsPerThread ∧
        4 * loopsPerThread ≤ start.toNat + Fintype.card Thread * loopsPerThread) := by
    rw [whole, Due]
    constructor <;> rintro ⟨below, passed⟩ <;> exact ⟨below, by exact_mod_cast passed⟩
  have total := counted.total
  rw [whole] at total
  refine ⟨by exact_mod_cast total, fun reached => counted.reported (due.mpr reached),
    fun missed => counted.silent (fun early => missed (due.mp early))⟩

section Application

structure AppState (Thread : Type) where
  enclave : Machine Thread
  counter : UInt64
  joined : Thread → Bool
  assigned : Thread → Bool

def AppState.join (state : AppState Thread) (thread : Thread) : AppState Thread :=
  { state with
    counter := if (state.enclave.locals thread).ret ≠ 0
      then (state.enclave.locals thread).ret else state.counter
    joined := Function.update state.joined thread true
    assigned := Function.update state.assigned thread
      (decide ((state.enclave.locals thread).ret ≠ 0)) }

/-- A failed ECALL aborts the process, so a joined thread made a successful one. -/
inductive AppStep (loopsPerThread : Nat) : AppState Thread → AppState Thread → Prop where
  | enclave {state} (after : Machine Thread)
      (step : Step (programs Thread loopsPerThread) state.enclave after) :
      AppStep loopsPerThread state { state with enclave := after }
  | increaseCounter {state} (thread : Thread)
      (returned : Returned (programs Thread loopsPerThread) thread state.enclave)
      (running : state.joined thread = false) :
      AppStep loopsPerThread state
        (state.join thread)

def appLaunch (Thread : Type) : AppState Thread :=
  ⟨launch Thread 0, 0, fun _ => false, fun _ => false⟩

def AppReachable (loopsPerThread : Nat) (state : AppState Thread) : Prop :=
  Relation.ReflTransGen (AppStep loopsPerThread) (appLaunch Thread) state

structure AppValid (loopsPerThread : Nat) (state : AppState Thread) : Prop where
  enclave : Reachable (programs Thread loopsPerThread) (launch Thread 0) state.enclave
  returned : ∀ thread, state.joined thread = true →
    Returned (programs Thread loopsPerThread) thread state.enclave
  assigned : ∀ thread, state.assigned thread = true ↔
    state.joined thread = true ∧ (state.enclave.locals thread).ret ≠ 0
  counter : (∃ thread, state.assigned thread = true ∧
      state.counter = (state.enclave.locals thread).ret) ∨
    ((∀ thread, state.assigned thread = false) ∧ state.counter = 0)

omit [Fintype Thread] in
theorem app_valid_step (loopsPerThread : Nat) (before after : AppState Thread)
    (valid : AppValid loopsPerThread before) (step : AppStep loopsPerThread before after) :
    AppValid loopsPerThread after := by
  cases step with
  | enclave moved step =>
      have kept : ∀ thread, before.joined thread = true →
          Returned (programs Thread loopsPerThread) thread moved ∧
            moved.locals thread = before.enclave.locals thread :=
        fun thread joined => returned_step _ _ _ thread (valid.returned thread joined) step
      have assignedKept : ∀ thread, before.assigned thread = true →
          moved.locals thread = before.enclave.locals thread :=
        fun thread assigned => (kept thread ((valid.assigned thread).mp assigned).1).2
      refine ⟨valid.enclave.tail step, fun thread joined => (kept thread joined).1, ?_, ?_⟩
      · intro thread
        rw [valid.assigned thread]
        exact and_congr_right fun joined => by rw [(kept thread joined).2]
      · rcases valid.counter with ⟨writer, assigned, value⟩ | untouched
        · exact Or.inl ⟨writer, assigned, by rw [assignedKept writer assigned]; exact value⟩
        · exact Or.inr untouched
  | increaseCounter thread returned running =>
      have fresh : before.assigned thread = false := by
        by_contra already
        have joined := ((valid.assigned thread).mp (by simpa using already)).1
        rw [running] at joined
        cases joined
      have others : ∀ other, other ≠ thread →
          (before.join thread).joined other = before.joined other ∧
            (before.join thread).assigned other = before.assigned other :=
        fun other different =>
          ⟨Function.update_of_ne different _ _, Function.update_of_ne different _ _⟩
      have own : (before.join thread).assigned thread = true ↔
          (before.enclave.locals thread).ret ≠ 0 := by
        simp [AppState.join]
      refine ⟨valid.enclave, ?_, ?_, ?_⟩
      · intro other joined
        by_cases same : other = thread
        · exact same ▸ returned
        · rw [(others other same).1] at joined
          exact valid.returned other joined
      · intro other
        by_cases same : other = thread
        · subst same
          rw [own]
          exact (and_iff_right (Function.update_self _ _ _)).symm
        · rw [(others other same).1, (others other same).2]
          exact valid.assigned other
      · by_cases wrote : (before.enclave.locals thread).ret = 0
        · have kept : (before.join thread).counter = before.counter :=
            if_neg (by simpa using wrote)
          rcases valid.counter with ⟨writer, assigned, value⟩ | ⟨nobody, zero⟩
          · have different : writer ≠ thread := by
              intro same
              rw [same, fresh] at assigned
              cases assigned
            exact Or.inl ⟨writer, by rw [(others writer different).2, assigned], kept ▸ value⟩
          · refine Or.inr ⟨fun other => ?_, kept ▸ zero⟩
            by_cases same : other = thread
            · subst same
              simpa [wrote] using own
            · rw [(others other same).2]
              exact nobody other
        · exact Or.inl ⟨thread, own.mpr wrote, if_pos wrote⟩

omit [Fintype Thread] in
theorem app_reachable_valid (loopsPerThread : Nat) (state : AppState Thread)
    (reached : AppReachable loopsPerThread state) : AppValid loopsPerThread state := by
  induction reached with
  | refl =>
      refine ⟨Relation.ReflTransGen.refl, ?_, fun _ => by simp [appLaunch],
        Or.inr ⟨fun _ => rfl, rfl⟩⟩
      intro _ joined
      cases joined
  | tail _ step ih => exact app_valid_step loopsPerThread _ _ ih step

/-- The assertion of `ecall_thread_functions`: after the four joins exactly one
thread has assigned `counter`, and it holds the full count. -/
theorem four_adders_counter (loopsPerThread : Nat) (positive : 1 ≤ loopsPerThread)
    (fits : 4 * loopsPerThread < 2 ^ 64) (state : AppState (Fin 4))
    (reached : AppReachable loopsPerThread state)
    (joined : ∀ thread, state.joined thread = true) :
    state.counter.toNat = 4 * loopsPerThread ∧
      ∃ thread, ∀ other, state.assigned other = true ↔ other = thread := by
  have valid := app_reachable_valid loopsPerThread state reached
  have returned := fun thread => valid.returned thread (joined thread)
  obtain ⟨_, due, _⟩ := all_returned_exact loopsPerThread 0 (by simpa using fits) state.enclave
    valid.enclave returned
  obtain ⟨reporter, value, others⟩ := due (by simp; omega)
  have nonzero : (state.enclave.locals reporter).ret ≠ 0 := by
    intro zero
    rw [zero] at value
    simp at value
    omega
  have only : ∀ other, state.assigned other = true ↔ other = reporter := by
    intro other
    rw [valid.assigned other]
    constructor
    · rintro ⟨_, wrote⟩
      by_contra different
      exact wrote (others other different)
    · rintro rfl
      exact ⟨joined other, nonzero⟩
  refine ⟨?_, reporter, only⟩
  rcases valid.counter with ⟨writer, assigned, same⟩ | ⟨nobody, _⟩
  · rw [same, (only writer).mp assigned, value]
  · have wrote := (only reporter).mpr rfl
    rw [nobody reporter] at wrote
    cases wrote

/-- No lost increment and exactly one reporter, for any number of calls and any
start value; and what the application makes of it with its four threads. -/
theorem increase_counter_exact (loopsPerThread : Nat) (positive : 1 ≤ loopsPerThread) :
    (∀ (Thread : Type) [Fintype Thread] [DecidableEq Thread] (start : UInt64),
      start.toNat + Fintype.card Thread * loopsPerThread < 2 ^ 64 →
      ∀ state : Machine Thread,
      Reachable (programs Thread loopsPerThread) (launch Thread start) state →
      (∀ thread, Returned (programs Thread loopsPerThread) thread state) →
      state.shared.toNat = start.toNat + Fintype.card Thread * loopsPerThread ∧
      ((start.toNat < 4 * loopsPerThread ∧
          4 * loopsPerThread ≤ start.toNat + Fintype.card Thread * loopsPerThread) →
        ∃ thread, (state.locals thread).ret.toNat = 4 * loopsPerThread ∧
          ∀ other, other ≠ thread → (state.locals other).ret = 0) ∧
      (¬ (start.toNat < 4 * loopsPerThread ∧
          4 * loopsPerThread ≤ start.toNat + Fintype.card Thread * loopsPerThread) →
        ∀ thread, (state.locals thread).ret = 0)) ∧
    (4 * loopsPerThread < 2 ^ 64 →
      ∀ state : AppState (Fin 4), AppReachable loopsPerThread state →
      (∀ thread, state.joined thread = true) →
      state.counter.toNat = 4 * loopsPerThread ∧
        ∃ thread, ∀ other, state.assigned other = true ↔ other = thread) := by
  constructor
  · intro Thread _ _ start fits state reached allReturned
    exact all_returned_exact loopsPerThread start fits state reached allReturned
  · intro fits state reached joined
    exact four_adders_counter loopsPerThread positive fits state reached joined

def runSection (loopsPerThread : Nat) (state : Machine Thread) (thread : Thread) :
    Machine Thread :=
  { state with
    shared := (increase loopsPerThread state.shared (state.locals thread)).1
    locals := Function.update state.locals thread
      (increase loopsPerThread state.shared (state.locals thread)).2 }

omit [Fintype Thread] in
theorem runSection_atomic (loopsPerThread : Nat) (state : Machine Thread) (thread : Thread)
    (ready : state.phase thread = .ready) (more : (state.locals thread).i < loopsPerThread) :
    Atomic (programs Thread loopsPerThread) state (runSection loopsPerThread state thread) := by
  have exec : Exec thread (programs Thread loopsPerThread thread).body state _ :=
    ⟨_, rfl, _, rfl, _, rfl, rfl⟩
  have whole := SectionStep.complete ready (by simpa [programs, ecallIncreaseCounter] using more)
    rfl exec
  refine Or.inl ⟨thread, ?_⟩
  simpa [State.runEffect, State.endIteration, readCounter, writeCounter, reportCounter, increase,
    programs, ecallIncreaseCounter, runSection] using whole

omit [Fintype Thread] in
theorem app_enclave_run (loopsPerThread : Nat) (state : AppState Thread) (after : Machine Thread)
    (run : Relation.ReflTransGen (Step (programs Thread loopsPerThread)) state.enclave after) :
    Relation.ReflTransGen (AppStep loopsPerThread) state { state with enclave := after } := by
  induction run with
  | refl => exact Relation.ReflTransGen.refl
  | tail _ step ih =>
      have lifted : AppStep loopsPerThread { state with enclave := _ } _ := .enclave _ step
      exact ih.tail lifted

def fourAdded : Machine (Fin 4) := (List.finRange 4).foldl (runSection 1) (launch (Fin 4) 0)

def fourJoined : AppState (Fin 4) :=
  (List.finRange 4).foldl AppState.join { appLaunch (Fin 4) with enclave := fourAdded }

theorem fourAdded_reachable :
    Reachable (programs (Fin 4) 1) (launch (Fin 4) 0) fourAdded := by
  have step := fun state thread => runSection_atomic 1 (state : Machine (Fin 4)) thread
  have run : AtomicReachable (programs (Fin 4) 1) (launch (Fin 4) 0) fourAdded :=
    (((Relation.ReflTransGen.single (step _ 0 rfl (by decide))).tail
      (step _ 1 rfl (by decide))).tail (step _ 2 rfl (by decide))).tail
      (step _ 3 rfl (by decide))
  exact atomic_reachable _ _ _ ⟨rfl, fun _ => rfl⟩ run

theorem fourAdded_returned (thread : Fin 4) : Returned (programs (Fin 4) 1) thread fourAdded := by
  have done : ∀ thread, (programs (Fin 4) 1 thread).returned (fourAdded.locals thread) = true := by
    decide
  exact ⟨rfl, done thread⟩

theorem fourJoined_reachable : AppReachable 1 fourJoined := by
  have join : ∀ (state : AppState (Fin 4)) thread, state.enclave = fourAdded →
      state.joined thread = false → AppStep 1 state (state.join thread) := by
    intro state thread done running
    exact .increaseCounter thread (done ▸ fourAdded_returned thread) running
  have added := app_enclave_run 1 (appLaunch (Fin 4)) fourAdded fourAdded_reachable
  exact (((added.tail (join _ 0 rfl rfl)).tail (join _ 1 rfl rfl)).tail (join _ 2 rfl rfl)).tail
    (join _ 3 rfl rfl)

theorem increase_counter_exact_fourAdded :
    (∃ thread, (fourAdded.locals thread).ret.toNat = 4 ∧
      ∀ other, other ≠ thread → (fourAdded.locals other).ret = 0) ∧
    fourJoined.counter.toNat = 4 ∧
      ∃ thread, ∀ other, fourJoined.assigned other = true ↔ other = thread := by
  obtain ⟨calls, app⟩ := increase_counter_exact 1 (by decide)
  have exact := calls (Fin 4) 0 (by decide) fourAdded fourAdded_reachable fourAdded_returned
  have joined : ∀ thread, fourJoined.joined thread = true := by decide
  exact ⟨exact.2.1 (by decide), app (by decide) fourJoined fourJoined_reachable joined⟩

end Application

end SgxExperiments.ThreadCounter
