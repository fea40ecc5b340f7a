import SgxExperiments.AppOutcomes

/-!
The exit status of `main` beside what the run has come to. Control runs off the
end of `main` after `CLEANUP`, so the status is 0 on every path.
-/

namespace SgxExperiments.AttestationApp

open ServiceProvider

section Cleanup

def closes (frame : AppFrame) : List AppEvent :=
  if frame.context ≠ intMax then [.closed frame.context frame.enclaveId] else []

def frees (frame : AppFrame) : List AppEvent :=
  freeIf frame.pMsg0RespFull .msg0RespFull ++ freeIf frame.pMsg2Full.isSome .msg2Full ++
    freeMsg3 frame.pMsg3 ++ freeIf frame.pMsg1Full .msg1Full ++ freeIf frame.pMsg0Full .msg0Full

def releases (frame : AppFrame) : List AppEvent :=
  closes frame ++ ([.destroyed frame.enclaveId] ++ frees frame)

variable (calls : AppCalls)

theorem closeContext_locals (frame : AppFrame) :
    ∃ ret status, closeContext calls frame =
      { frame with
        ret := ret
        status := status
        events := frame.events ++ [.closed frame.context frame.enclaveId] } := by
  unfold closeContext
  dsimp only
  split
  · exact ⟨_, _, rfl⟩
  · exact ⟨_, _, rfl⟩

theorem cleanup_events (frame : AppFrame) :
    (cleanup calls frame).events = frame.events ++ releases frame := by
  by_cases marked : frame.context ≠ intMax
  · obtain ⟨ret, status, closed⟩ := closeContext_locals calls frame
    simp only [cleanup, releases, closes, if_pos marked, closed]
    exact List.append_assoc _ _ _
  · simp only [cleanup, releases, closes, if_neg marked, List.nil_append]
    rfl

theorem frees_freed (frame : AppFrame) (event : AppEvent) (member : event ∈ frees frame) :
    ∃ resource, event = .freed resource := by
  have freed : ∀ held resource, event ∈ freeIf held resource → ∃ other, event = .freed other := by
    intro held resource inList
    cases held with
    | false => cases inList
    | true => exact ⟨resource, List.mem_singleton.mp inList⟩
  rw [frees, List.mem_append, List.mem_append, List.mem_append, List.mem_append] at member
  rcases member with (((msg0Resp | msg2) | msg3) | msg1) | msg0
  · exact freed _ _ msg0Resp
  · exact freed _ _ msg2
  · cases pMsg3 : frame.pMsg3 with
    | none =>
        rw [pMsg3] at msg3
        cases msg3
    | some k =>
        rw [pMsg3] at msg3
        exact ⟨.msg3 k, List.mem_singleton.mp msg3⟩
  · exact freed _ _ msg1
  · exact freed _ _ msg0

theorem releases_acquires (frame : AppFrame) (event : AppEvent) (member : event ∈ releases frame) :
    event.acquires = false := by
  rw [releases, List.mem_append, List.mem_append] at member
  rcases member with closed | destroyed | freed
  · rw [closes] at closed
    split at closed
    · cases List.mem_singleton.mp closed
      rfl
    · cases closed
  · cases List.mem_singleton.mp destroyed
    rfl
  · obtain ⟨resource, rfl⟩ := frees_freed frame event freed
    rfl

theorem acquired_before (frame : AppFrame) (event : AppEvent) (acquires : event.acquires = true) :
    event ∈ frame.events ++ releases frame ↔ event ∈ frame.events := by
  rw [List.mem_append]
  apply or_iff_left
  intro member
  rw [releases_acquires frame event member] at acquires
  cases acquires

end Cleanup

section Exit

variable (calls : AppCalls)

theorem main_cases :
    (AllSucceed calls ∧ ∃ frame, Returned frame ∧ main calls = ⟨frame.ret, frame.events⟩) ∨
    (¬ AllSucceed calls ∧ ∃ frame, AtCleanup (Configured calls → EnclaveTracked calls)
        (Msg3Reached calls → Msg3Tracked calls) frame ∧
      main calls = ⟨0, frame.events ++ releases frame⟩) := by
  have ends := attest_ends calls AppFrame.initial rfl
  rw [main]
  cases ran : attest calls AppFrame.initial with
  | ok value frame =>
      rw [ran] at ends
      exact Or.inl ⟨ends.2, frame, ends.1, rfl⟩
  | error exit frame =>
      rw [ran] at ends
      exact Or.inr ⟨ends.2, frame, ends.1, congrArg (AppExit.mk 0) (cleanup_events calls frame)⟩

theorem main_status : (main calls).status = 0 := by
  rcases main_cases calls with ⟨_, frame, returned, run⟩ | ⟨_, frame, _, run⟩
  · rw [run]
    exact returned.ret
  · rw [run]

theorem main_msg3 : .processed .success true ∈ (main calls).events ↔ AllSucceed calls := by
  rcases main_cases calls with ⟨succeed, frame, returned, run⟩ | ⟨failed, frame, atCleanup, run⟩
  · rw [run]
    exact iff_of_true returned.processed succeed
  · rw [run, acquired_before frame _ rfl]
    exact iff_of_false atCleanup.unprocessed failed

/-- The status is 0 exactly when MSG3 was produced, in the runs in which every call
succeeds and in no others. -/
theorem exit_status_truthful :
    ((main calls).status = 0 ↔ .processed .success true ∈ (main calls).events) ↔
      AllSucceed calls := by
  rw [main_status, main_msg3]
  exact ⟨fun truthful => truthful.mp rfl, fun succeed => iff_of_true rfl succeed⟩

end Exit

def smoothCalls : AppCalls where
  mallocMsg0 := true
  sendMsg0 := ⟨0, true, fun _ => rfl⟩
  selectAttKeyId := .success
  createEnclave _ := .success
  initRa _ := .returned .success 0
  mallocMsg1 := true
  getMsg1 _ := .success
  sendMsg1 := ⟨0, some typeRaMsg2⟩
  procMsg2 _ := ⟨.success, true⟩
  raClose := ⟨.success, .success⟩

/-- Five BUSY answers, no MSG3, and exit status 0. -/
theorem exit_status_busy :
    ¬ ((main { smoothCalls with getMsg1 := fun _ => .errorBusy }).status = 0 ↔
      .processed .success true ∈
        (main { smoothCalls with getMsg1 := fun _ => .errorBusy }).events) := by
  decide

end SgxExperiments.AttestationApp
