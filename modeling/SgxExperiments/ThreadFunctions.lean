import Mathlib.Data.Fintype.Option
import SgxExperiments.RingBufferCompletion
import SgxExperiments.ThreadCounter

/-!
`ecall_thread_functions` as one process: four `increase_counter` threads, their
joins, the assertion, then one `data_producer` and four `data_consumer` threads
and theirs. Threads run in any order, those of a group from its creation on. Any of
the ECALLs may fail, before its first step or with some of its work done; its thread
then aborts the process. `printf` is left out.
-/

namespace SgxExperiments.ThreadFunctions

open LockedSections CountedRuns ThreadCounter
open RingBuffer (ecallThreadFunctions)

inductive Main where
  | joiningAdders (left : List (Fin 4))
  | joiningBuffer (left : List (Option (Fin 4)))
  | returned
  | assertionFailed
  | aborted

inductive Worker where
  | adder (thread : Fin 4)
  | buffer (thread : Option (Fin 4))

structure Process where
  main : Main
  adders : AppState (Fin 4)
  buffer : RingBuffer.Machine (Option (Fin 4))

def bufferCode (loopsPerThread : Nat) : Option (Fin 4) → Program RingBuffer.CondBuffer Nat RingBuffer.Cond :=
  RingBuffer.programs (ecallThreadFunctions loopsPerThread)

def adders : List (Fin 4) := List.finRange 4

def bufferThreads : List (Option (Fin 4)) := (List.finRange 4).map some ++ [none]

/-- `fails` are the threads whose ECALL does not come back with SGX_SUCCESS. Such a call
leaves `cnr` at 0, and its thread does not end: it aborts. -/
inductive Work (loopsPerThread : Nat) (fails : Worker → Prop) (before : Process) :
    Process → Prop where
  | adder (left : List (Fin 4)) (main : before.main = .joiningAdders left)
      (after : AppState (Fin 4)) (step : AppStep loopsPerThread before.adders after)
      (ends : ∀ thread, after.joined thread = true → before.adders.joined thread = false →
        ¬ fails (.adder thread)) :
      Work loopsPerThread fails before { before with adders := after }
  | adderAborts (left : List (Fin 4)) (main : before.main = .joiningAdders left) (thread : Fin 4)
      (failed : fails (.adder thread)) :
      Work loopsPerThread fails before { before with main := .aborted }
  | joinAdder (thread : Fin 4) (left : List (Fin 4))
      (main : before.main = .joiningAdders (thread :: left))
      (joined : before.adders.joined thread = true) :
      Work loopsPerThread fails before { before with main := .joiningAdders left }
  | assertion (main : before.main = .joiningAdders []) :
      Work loopsPerThread fails before { before with
        main := if before.adders.counter.toNat = 4 * loopsPerThread then
          .joiningBuffer bufferThreads else .assertionFailed }
  | buffer (left : List (Option (Fin 4))) (main : before.main = .joiningBuffer left)
      (after : RingBuffer.Machine (Option (Fin 4)))
      (step : ThreadsStep (bufferCode loopsPerThread) before.buffer after) :
      Work loopsPerThread fails before { before with buffer := after }
  | bufferAborts (left : List (Option (Fin 4))) (main : before.main = .joiningBuffer left)
      (thread : Option (Fin 4)) (failed : fails (.buffer thread)) :
      Work loopsPerThread fails before { before with main := .aborted }
  | joinBuffer (thread : Option (Fin 4)) (left : List (Option (Fin 4)))
      (main : before.main = .joiningBuffer (thread :: left))
      (returned : Returned (bufferCode loopsPerThread) thread before.buffer)
      (succeeded : ¬ fails (.buffer thread)) :
      Work loopsPerThread fails before { before with main := .joiningBuffer left }
  | finish (main : before.main = .joiningBuffer []) :
      Work loopsPerThread fails before { before with main := .returned }

inductive WakeUp (before : Process) : Process → Prop where
  | buffer (left : List (Option (Fin 4))) (main : before.main = .joiningBuffer left)
      (after : RingBuffer.Machine (Option (Fin 4))) (woken : Spurious before.buffer after) :
      WakeUp before { before with buffer := after }

def launch : Process :=
  ⟨.joiningAdders adders, appLaunch (Fin 4), RingBuffer.launch (Option (Fin 4))⟩

section Adders

variable (loopsPerThread : Nat)

theorem counter_countdown :
    Countdown (ecallIncreaseCounter loopsPerThread) fun frame => loopsPerThread - frame.i where
  running frame more := by
    simp only [ecallIncreaseCounter, Bool.not_eq_false', decide_eq_true_eq] at more
    omega
  next frame := by
    simp only [ecallIncreaseCounter]
    omega
  body effect member globalCounter frame := by
    simp only [ecallIncreaseCounter, List.mem_cons, Statement.run.injEq, List.not_mem_nil,
      or_false] at member
    rcases member with rfl | rfl | rfl <;> rfl

def addersLeft (state : AppState (Fin 4)) : Finset (Fin 4) :=
  Finset.univ.filter fun thread => state.joined thread = false

theorem mem_addersLeft (state : AppState (Fin 4)) (thread : Fin 4) :
    thread ∈ addersLeft state ↔ state.joined thread = false := by
  simp [addersLeft]

def addersEffort (state : AppState (Fin 4)) : Nat :=
  effort (programs (Fin 4) loopsPerThread) (fun _ frame => loopsPerThread - frame.i)
    state.enclave + (addersLeft state).card

theorem addersEffort_launch : addersEffort loopsPerThread (appLaunch (Fin 4)) =
    24 * loopsPerThread + 12 := by
  have each : ∀ thread ∈ Finset.univ, threadEffort (programs (Fin 4) loopsPerThread)
      (fun _ frame => loopsPerThread - frame.i) (appLaunch (Fin 4)).enclave thread =
        loopsPerThread * 6 + 2 := fun _ _ => rfl
  have everybody : (addersLeft (appLaunch (Fin 4))).card = 4 := by decide
  rw [addersEffort, effort, Finset.sum_const_nat each, everybody, Finset.card_univ,
    Fintype.card_fin]
  omega

theorem app_step_spends (before after : AppState (Fin 4))
    (reached : AppReachable loopsPerThread before) (step : AppStep loopsPerThread before after) :
    addersEffort loopsPerThread after < addersEffort loopsPerThread before := by
  have valid := app_reachable_valid loopsPerThread before reached
  cases step with
  | enclave moved step =>
      apply Nat.add_lt_add_right
      rcases step with ⟨thread, step⟩ | ⟨_, cond, _⟩
      · exact threadStep_spends _ _ (fun _ => counter_countdown loopsPerThread) _ _ _
          ⟨rfl, fun _ => rfl⟩ valid.enclave thread step
      · cases cond
  | increaseCounter thread returned running =>
      apply Nat.add_lt_add_left
      apply Finset.card_lt_card
      constructor
      · intro other member
        rw [mem_addersLeft] at member ⊢
        by_cases same : other = thread
        · rw [same]
          exact running
        · simpa [AppState.join, same] using member
      · intro all
        have gone := (mem_addersLeft _ _).mp (all ((mem_addersLeft _ _).mpr running))
        simp [AppState.join] at gone

theorem adders_progress (state : AppState (Fin 4)) (reached : AppReachable loopsPerThread state)
    (thread : Fin 4) (running : state.joined thread = false) :
    ∃ after, AppStep loopsPerThread state after := by
  have valid := app_reachable_valid loopsPerThread state reached
  by_cases idle : ∀ other, ¬ CanStep (programs (Fin 4) loopsPerThread) other state.enclave
  · obtain ⟨_, shape⟩ := stuck_shape _ _ state.enclave ⟨rfl, fun _ => rfl⟩ valid.enclave idle
    -- Nobody can sleep on a condition, as there is none: then all are through.
    have finished : Finished (programs (Fin 4) loopsPerThread) thread state.enclave := by
      rcases shape thread with finished | ⟨cond, _⟩
      · exact finished
      · cases cond
    have ready : state.enclave.phase thread = .ready := by
      cases position : state.enclave.phase thread with
      | ready => rfl
      | testing => exact (idle thread (testing_canStep _ thread _ position)).elim
      | inside rest => exact (idle thread (inside_canStep _ thread _ rest position)).elim
      | queued cond => cases cond
    exact ⟨_, .increaseCounter thread ⟨ready, finished⟩ running⟩
  · simp only [not_forall, not_not] at idle
    obtain ⟨other, after, step⟩ := idle
    exact ⟨_, .enclave after (Or.inl ⟨other, step⟩)⟩

theorem joined_counter (fits : 4 * loopsPerThread < 2 ^ 64) (state : AppState (Fin 4))
    (reached : AppReachable loopsPerThread state)
    (joined : ∀ thread, state.joined thread = true) :
    state.counter.toNat = 4 * loopsPerThread := by
  rcases Nat.eq_zero_or_pos loopsPerThread with zero | positive
  -- Without a loop nobody writes the counter, and it keeps the 0 it starts with.
  · subst zero
    have valid := app_reachable_valid 0 state reached
    have silent := (all_returned_exact 0 0 (by simp) state.enclave valid.enclave
      fun thread => valid.returned thread (joined thread)).2.2 (by simp)
    rcases valid.counter with ⟨writer, _, value⟩ | ⟨_, untouched⟩
    · rw [value, silent]
      rfl
    · rw [untouched]
      rfl
  · exact (four_adders_counter loopsPerThread positive fits state reached joined).1

end Adders

section Buffer

variable (loopsPerThread : Nat)

def bufferEffort (state : RingBuffer.Machine (Option (Fin 4))) : Nat :=
  effort (bufferCode loopsPerThread)
    (fun thread i => (ecallThreadFunctions loopsPerThread thread).iterations - i) state

theorem bufferEffort_launch : bufferEffort loopsPerThread (RingBuffer.launch _) =
    80 * loopsPerThread + 10 := by
  have each : ∀ consumer ∈ Finset.univ,
      10 * (ecallThreadFunctions loopsPerThread (some consumer)).iterations + 2 =
        10 * loopsPerThread + 2 := fun _ _ => rfl
  rw [bufferEffort, bufferCode, RingBuffer.launch_effort, Fintype.sum_option,
    Finset.sum_const_nat each]
  simp only [ecallThreadFunctions, RingBuffer.ecallProducer, RingBuffer.Call.iterations,
    Finset.card_univ, Fintype.card_fin]
  omega

theorem buffer_progress (state : RingBuffer.Machine (Option (Fin 4)))
    (reached : Reachable (bufferCode loopsPerThread) (RingBuffer.launch _) state)
    (thread : Option (Fin 4)) (running : ¬ Returned (bufferCode loopsPerThread) thread state) :
    ∃ after, ThreadsStep (bufferCode loopsPerThread) state after := by
  by_contra idle
  obtain ⟨supply, demand⟩ := RingBuffer.ecallThreadFunctions_totals loopsPerThread
  have fits : RingBuffer.demand (ecallThreadFunctions loopsPerThread) ≤
      RingBuffer.supply (ecallThreadFunctions loopsPerThread) ∧
        RingBuffer.supply (ecallThreadFunctions loopsPerThread) ≤
          RingBuffer.demand (ecallThreadFunctions loopsPerThread) + RingBuffer.bufferSize := by
    rw [supply, demand]
    simp only [RingBuffer.bufferSize]
    omega
  exact running ((RingBuffer.stuck_returned_iff _ state reached
    fun other canStep => idle (canStep.imp fun _ step => ⟨other, step⟩)).mpr fits thread)

end Buffer

section Process

variable (loopsPerThread : Nat) (fails : Worker → Prop)

def Process.Seen (process : Process) : Prop :=
  match process.main with
  | .joiningAdders left => ∀ thread, thread ∉ left → process.adders.joined thread = true
  | .joiningBuffer left => (∀ thread, process.adders.joined thread = true) ∧
      ∀ thread, thread ∉ left →
        Returned (bufferCode loopsPerThread) thread process.buffer ∧ ¬ fails (.buffer thread)
  | .returned => (∀ thread, process.adders.joined thread = true) ∧
      ∀ thread, Returned (bufferCode loopsPerThread) thread process.buffer ∧
        ¬ fails (.buffer thread)
  | .assertionFailed => False
  | .aborted => ∃ worker, fails worker

structure Sound (process : Process) : Prop where
  adders : AppReachable loopsPerThread process.adders
  ended : ∀ thread, process.adders.joined thread = true → ¬ fails (.adder thread)
  buffer : Reachable (bufferCode loopsPerThread) (RingBuffer.launch _) process.buffer
  seen : process.Seen loopsPerThread fails

def Process.effort (process : Process) : Nat :=
  match process.main with
  | .joiningAdders left => addersEffort loopsPerThread process.adders + left.length + 1 +
      (bufferEffort loopsPerThread process.buffer + bufferThreads.length + 1)
  | .joiningBuffer left => bufferEffort loopsPerThread process.buffer + left.length + 1
  | .returned | .assertionFailed | .aborted => 0

theorem launch_sound : Sound loopsPerThread fails launch := by
  refine ⟨Relation.ReflTransGen.refl, fun _ => nofun, Relation.ReflTransGen.refl, ?_⟩
  intro thread notLeft
  exact (notLeft (List.mem_finRange thread)).elim

theorem joined_step {before after : AppState (Fin 4)} (step : AppStep loopsPerThread before after)
    (thread : Fin 4) (joined : before.joined thread = true) : after.joined thread = true := by
  cases step with
  | enclave => exact joined
  | increaseCounter other =>
      by_cases same : thread = other <;> simp [AppState.join, same, joined]

/-- What is known of all threads but those left to join is known of one more. -/
theorem left_tail {Thread : Type} {Known : Thread → Prop} (thread : Thread) (left : List Thread)
    (seen : ∀ other, other ∉ thread :: left → Known other) (joined : Known thread) (other : Thread)
    (notLeft : other ∉ left) : Known other := by
  by_cases same : other = thread
  · exact same ▸ joined
  · exact seen other (by simp [same, notLeft])

theorem work_step (fits : 4 * loopsPerThread < 2 ^ 64) (before after : Process)
    (sound : Sound loopsPerThread fails before) (step : Work loopsPerThread fails before after) :
    Sound loopsPerThread fails after ∧
      after.effort loopsPerThread < before.effort loopsPerThread := by
  have seen := sound.seen
  cases step with
  | adder left main moved step ends =>
      have spent := app_step_spends loopsPerThread before.adders moved sound.adders step
      simp only [Process.Seen, main] at seen
      refine ⟨⟨sound.adders.tail step, ?_, sound.buffer, ?_⟩, ?_⟩
      · intro thread joined
        cases earlier : before.adders.joined thread with
        | true => exact sound.ended thread earlier
        | false => exact ends thread joined earlier
      · simp only [Process.Seen, main]
        exact fun thread notLeft => joined_step loopsPerThread step thread (seen thread notLeft)
      · simp only [Process.effort, main]
        omega
  | adderAborts left main thread failed =>
      refine ⟨⟨sound.adders, sound.ended, sound.buffer, _, failed⟩, ?_⟩
      simp only [Process.effort, main]
      omega
  | joinAdder thread left main joined =>
      simp only [Process.Seen, main] at seen
      refine ⟨⟨sound.adders, sound.ended, sound.buffer, ?_⟩, ?_⟩
      · exact left_tail thread left seen joined
      · simp only [Process.effort, main, List.length_cons]
        omega
  | assertion main =>
      simp only [Process.Seen, main] at seen
      have joined : ∀ thread, before.adders.joined thread = true :=
        fun thread => seen thread List.not_mem_nil
      rw [if_pos (joined_counter loopsPerThread fits before.adders sound.adders joined)]
      -- The buffer's threads start here; all of them are still to be joined.
      refine ⟨⟨sound.adders, sound.ended, sound.buffer, joined, ?_⟩, ?_⟩
      · intro thread notLeft
        cases thread <;> simp [bufferThreads] at notLeft
      · simp only [Process.effort, main]
        omega
  | buffer left main moved step =>
      obtain ⟨reached, spent⟩ := (RingBuffer.calls_budget (ecallThreadFunctions loopsPerThread)).working
        before.buffer moved sound.buffer step
      simp only [Process.Seen, main] at seen
      refine ⟨⟨sound.adders, sound.ended, reached, ?_⟩, ?_⟩
      · simp only [Process.Seen, main]
        obtain ⟨thread, step⟩ := step
        refine ⟨seen.1, fun other notLeft => ?_⟩
        obtain ⟨returned, succeeded⟩ := seen.2 other notLeft
        exact ⟨(returned_step _ _ _ other returned (Or.inl ⟨thread, step⟩)).1, succeeded⟩
      · simp only [Process.effort, main, bufferEffort]
        exact Nat.add_lt_add_right (Nat.add_lt_add_right spent _) _
  | bufferAborts left main thread failed =>
      refine ⟨⟨sound.adders, sound.ended, sound.buffer, _, failed⟩, ?_⟩
      simp only [Process.effort, main]
      omega
  | joinBuffer thread left main returned succeeded =>
      simp only [Process.Seen, main] at seen
      refine ⟨⟨sound.adders, sound.ended, sound.buffer, seen.1, ?_⟩, ?_⟩
      · exact left_tail thread left seen.2 ⟨returned, succeeded⟩
      · simp only [Process.effort, main, List.length_cons]
        omega
  | finish main =>
      simp only [Process.Seen, main] at seen
      refine ⟨⟨sound.adders, sound.ended, sound.buffer, seen.1,
        fun thread => seen.2 thread List.not_mem_nil⟩, ?_⟩
      simp only [Process.effort, main]
      omega

theorem process_budget (fits : 4 * loopsPerThread < 2 ^ 64) :
    Budget (Work loopsPerThread fails) WakeUp (Sound loopsPerThread fails)
      (Process.effort loopsPerThread) 2 where
  working before after sound step := work_step loopsPerThread fails fits before after sound step
  disturbance before after sound woken := by
    cases woken with
    | buffer left main moved woken =>
        obtain ⟨reached, refilled⟩ :=
          (RingBuffer.calls_budget (ecallThreadFunctions loopsPerThread)).disturbance
            before.buffer moved sound.buffer woken
        have seen := sound.seen
        simp only [Process.Seen, main] at seen
        refine ⟨⟨sound.adders, sound.ended, reached, ?_⟩, ?_⟩
        · simp only [Process.Seen, main]
          refine ⟨seen.1, fun other notLeft => ?_⟩
          obtain ⟨returned, succeeded⟩ := seen.2 other notLeft
          exact ⟨(returned_step _ _ _ other returned (Or.inr woken)).1, succeeded⟩
        · simp only [Process.effort, main, bufferEffort, bufferCode] at refilled ⊢
          omega

/-- The function waits only for threads that can go on, or abort. -/
theorem stuck_ended (process : Process) (sound : Sound loopsPerThread fails process)
    (stuck : ∀ after, ¬ Work loopsPerThread fails process after) :
    process.main = .returned ∨ process.main = .aborted := by
  have seen := sound.seen
  cases main : process.main with
  | joiningAdders left =>
      have succeeded : ∀ thread, ¬ fails (.adder thread) := fun thread failed =>
        stuck _ (.adderAborts left main thread failed)
      cases left with
      | nil => exact (stuck _ (.assertion main)).elim
      | cons thread rest =>
          cases joined : process.adders.joined thread with
          | true => exact (stuck _ (.joinAdder thread rest main joined)).elim
          | false =>
              obtain ⟨after, step⟩ := adders_progress loopsPerThread process.adders sound.adders
                thread joined
              exact (stuck _ (.adder _ main after step fun other _ _ => succeeded other)).elim
  | joiningBuffer left =>
      cases left with
      | nil => exact (stuck _ (.finish main)).elim
      | cons thread rest =>
          by_cases failed : fails (.buffer thread)
          · exact (stuck _ (.bufferAborts _ main thread failed)).elim
          by_cases returned : Returned (bufferCode loopsPerThread) thread process.buffer
          · exact (stuck _ (.joinBuffer thread rest main returned failed)).elim
          · obtain ⟨after, step⟩ := buffer_progress loopsPerThread process.buffer sound.buffer
              thread returned
            exact (stuck _ (.buffer _ main after step)).elim
  | returned => exact Or.inl rfl
  | assertionFailed => simp [Process.Seen, main] at seen
  | aborted => exact Or.inr rfl

theorem ended_stuck (process : Process)
    (ended : process.main = .returned ∨ process.main = .aborted) (after : Process) :
    ¬ Work loopsPerThread fails process after := by
  intro step
  cases step with
  | adder _ main | adderAborts _ main | joinAdder _ _ main | assertion main | buffer _ main
  | bufferAborts _ main | joinBuffer _ _ main | finish main =>
      rw [main] at ended
      simp at ended

/-- The function returns only if no ECALL fails, and aborts only if one does. -/
theorem returned_succeeded (process : Process) (sound : Sound loopsPerThread fails process)
    (returned : process.main = .returned) (worker : Worker) : ¬ fails worker := by
  have seen := sound.seen
  simp only [Process.Seen, returned] at seen
  cases worker with
  | adder thread => exact sound.ended thread (seen.1 thread)
  | buffer thread => exact (seen.2 thread).2

theorem aborted_failed (process : Process) (sound : Sound loopsPerThread fails process)
    (aborted : process.main = .aborted) : ∃ worker, fails worker := by
  have seen := sound.seen
  simpa only [Process.Seen, aborted] using seen

/-- In every schedule, whatever ECALLs fail, the assertion holds and the function ends
after a bounded number of steps: it aborts if an ECALL fails, and otherwise all
threads are joined, and the counter and the buffer that are left do not depend on
the schedule. -/
theorem thread_functions_complete (fits : 4 * loopsPerThread < 2 ^ 64) (steps wakeUps : Nat)
    (process : Process)
    (run : CountedRun (Work loopsPerThread fails) WakeUp launch steps wakeUps process) :
    process.main ≠ .assertionFailed ∧ steps ≤ 104 * loopsPerThread + 33 + 2 * wakeUps ∧
    (∃ last, Relation.ReflTransGen (Work loopsPerThread fails) process last ∧
      ((∀ worker, ¬ fails worker) → last.main = .returned) ∧
      ((∃ worker, fails worker) → last.main = .aborted)) ∧
    ((∀ after, ¬ Work loopsPerThread fails process after) ↔
      process.main = .returned ∨ process.main = .aborted) ∧
    (process.main = .aborted → ∃ worker, fails worker) ∧
    (process.main = .returned → (∀ worker, ¬ fails worker) ∧
      process.adders.counter.toNat = 4 * loopsPerThread ∧
      process.buffer.shared = RingBuffer.Totals.buffer ⟨4 * loopsPerThread, 4 * loopsPerThread⟩) := by
  have budget := process_budget loopsPerThread fails fits
  obtain ⟨sound, paid⟩ := budget.steps_le launch process (launch_sound loopsPerThread fails) steps
    wakeUps run
  have seen := sound.seen
  have first : launch.effort loopsPerThread = 104 * loopsPerThread + 33 := by
    simp only [Process.effort, launch, addersEffort_launch, bufferEffort_launch, adders,
      bufferThreads, List.length_append, List.length_map, List.length_finRange, List.length_cons,
      List.length_nil]
    omega
  refine ⟨?_, by omega, ?_, ⟨stuck_ended loopsPerThread fails process sound,
    ended_stuck loopsPerThread fails process⟩, aborted_failed loopsPerThread fails process sound, ?_⟩
  · intro failed
    simp [Process.Seen, failed] at seen
  · obtain ⟨last, rest, ends, idle⟩ := budget.settles process sound
    refine ⟨last, rest, ?_, ?_⟩
    · intro succeeded
      refine (stuck_ended loopsPerThread fails last ends idle).resolve_right fun aborted => ?_
      obtain ⟨worker, failed⟩ := aborted_failed loopsPerThread fails last ends aborted
      exact succeeded worker failed
    · rintro ⟨worker, failed⟩
      exact (stuck_ended loopsPerThread fails last ends idle).resolve_left fun returned =>
        returned_succeeded loopsPerThread fails last ends returned worker failed
  · intro returned
    refine ⟨returned_succeeded loopsPerThread fails process sound returned, ?_⟩
    simp only [Process.Seen, returned] at seen
    obtain ⟨supply, demand⟩ := RingBuffer.ecallThreadFunctions_totals loopsPerThread
    refine ⟨joined_counter loopsPerThread fits process.adders sound.adders seen.1, ?_⟩
    rw [RingBuffer.returned_buffer _ process.buffer sound.buffer fun thread => (seen.2 thread).1,
      supply, demand]

/-- With the five hundred loops a thread of the sample: nothing fails, or `producer0`. -/
theorem thread_functions_complete_sample :
    (∃ last, Relation.ReflTransGen (Work 500 fun _ => False) launch last ∧
      last.main = .returned) ∧
    ∃ last, Relation.ReflTransGen (Work 500 fun worker => worker = .buffer none) launch last ∧
      last.main = .aborted := by
  obtain ⟨last, run, returned, _⟩ := (thread_functions_complete 500 (fun _ => False) (by decide) 0 0
    launch .start).2.2.1
  obtain ⟨other, otherRun, _, aborted⟩ := (thread_functions_complete 500
    (fun worker => worker = .buffer none) (by decide) 0 0 launch .start).2.2.1
  exact ⟨⟨last, run, returned fun _ => id⟩, other, otherRun, aborted ⟨_, rfl⟩⟩

end Process

end SgxExperiments.ThreadFunctions
