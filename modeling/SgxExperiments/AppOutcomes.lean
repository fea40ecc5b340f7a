import SgxExperiments.AttestationApp

/-!
How the body of `main` ends, and what has been acquired by then, as conditions on
the results of the calls.
-/

namespace SgxExperiments.AttestationApp

open BreakableBlock ServiceProvider

theorem asInt_eq_iff (left right : SgxStatus) : asInt left = asInt right ↔ left = right := by
  obtain ⟨left⟩ := left
  obtain ⟨right⟩ := right
  rw [asInt, asInt, BitVec.toInt_inj, UInt32.toBitVec_inj, SgxStatus.mk.injEq]

section Conditions

variable (calls : AppCalls)

def Configured : Prop :=
  calls.mallocMsg0 = true ∧ calls.sendMsg0.ret = 0 ∧ calls.selectAttKeyId = .success

def EnclaveLost (k : Nat) : Prop := (calls.initRa k).ret = .errorEnclaveLost

def Started : Prop :=
  ∃ k, LastAttempt (EnclaveLost calls) 1 k ∧ (∀ j ≤ k, calls.createEnclave j = .success) ∧
    ∃ context, calls.initRa k = .returned .success context

def GetMsg1Busy (k : Nat) : Prop := calls.getMsg1 k = .errorBusy

def Msg1Made : Prop :=
  calls.mallocMsg1 = true ∧ ∃ k, LastAttempt (GetMsg1Busy calls) 4 k ∧ calls.getMsg1 k = .success

def Msg2Received : Prop :=
  calls.sendMsg1.ret = 0 ∧ calls.sendMsg1.resp = some typeRaMsg2

def ProcMsg2Busy (k : Nat) : Prop := (calls.procMsg2 k).ret = .errorBusy

def Msg3Made : Prop :=
  ∃ k, LastAttempt (ProcMsg2Busy calls) 2 k ∧ (calls.procMsg2 k).ret = .success ∧
    ∃ j < k + 1, (calls.procMsg2 j).allocates = true

def Msg3Reached : Prop :=
  Configured calls ∧ Started calls ∧ Msg1Made calls ∧ Msg2Received calls

def AllSucceed : Prop := Msg3Reached calls ∧ Msg3Made calls

def InitRa.Marks (init : InitRa) : Prop :=
  init.contextAfter intMax ≠ intMax ↔ ∃ context, init = .returned .success context

/-- Nothing of the first enclave is lost track of: its context is marked, and it is
not replaced when it is reported lost. -/
def EnclaveTracked : Prop :=
  calls.createEnclave 0 = .success → (calls.initRa 0).Marks ∧
    (EnclaveLost calls 0 → calls.createEnclave 1 ≠ .success)

/-- At most one of the calls that are made stores a buffer. -/
def Msg3Tracked : Prop :=
  ∀ k, LastAttempt (ProcMsg2Busy calls) 2 k → ∀ i < k + 1, ∀ j < k + 1,
    (calls.procMsg2 i).allocates = true → (calls.procMsg2 j).allocates = true → i = j

end Conditions

section Invariants

def AppEvent.acquires : AppEvent → Bool
  | .obtained _ | .created _ | .opened _ _ | .processed _ _ => true
  | .freed _ | .destroyed _ | .closed _ _ => false

def Acquiring (frame : AppFrame) : Prop := ∀ event ∈ frame.events, event.acquires = true

def BuffersHeld (frame : AppFrame) : Prop :=
  ∀ resource, .obtained resource ∈ frame.events → frame.holds resource = true

structure EnclaveHeld (frame : AppFrame) : Prop where
  enclave : ∀ k, .created k ∈ frame.events → frame.enclaveId = some k
  context : ∀ context enclave, .opened context enclave ∈ frame.events →
    context ≠ intMax ∧ frame.context = context ∧ frame.enclaveId = enclave
  marked : frame.context ≠ intMax → .opened frame.context frame.enclaveId ∈ frame.events

def Processed (frame : AppFrame) (ret : SgxStatus) (msg3 : Bool) : Prop :=
  .processed ret msg3 ∈ frame.events

/-- Up to the exchange: nothing released, nothing processed, every buffer held. -/
structure BeforeMsg3 (frame : AppFrame) : Prop where
  acquiring : Acquiring frame
  held : BuffersHeld frame
  noMsg3 : frame.pMsg3 = none
  unprocessed : ∀ ret msg3, ¬ Processed frame ret msg3

def Stage (tracked : Prop) (frame : AppFrame) : Prop :=
  BeforeMsg3 frame ∧ (EnclaveHeld frame ↔ tracked)

def Early (tracked : Prop) (frame : AppFrame) : Prop :=
  Stage tracked frame ∧ frame.pMsg2Full = none

end Invariants

section Growth

variable {frame after : AppFrame} {events : List AppEvent}

theorem Acquiring.grow (acquiring : Acquiring frame) (grown : after.events = frame.events ++ events)
    (acquires : ∀ event ∈ events, event.acquires = true) : Acquiring after := by
  intro event member
  rw [grown] at member
  rcases List.mem_append.mp member with old | new
  · exact acquiring event old
  · exact acquires event new

theorem BuffersHeld.grow (held : BuffersHeld frame) (grown : after.events = frame.events ++ events)
    (keeps : ∀ resource, frame.holds resource = true → after.holds resource = true)
    (holds : ∀ resource, .obtained resource ∈ events → after.holds resource = true) :
    BuffersHeld after := by
  intro resource member
  rw [grown] at member
  rcases List.mem_append.mp member with old | new
  · exact keeps resource (held resource old)
  · exact holds resource new

theorem BeforeMsg3.grow (before : BeforeMsg3 frame) (grown : after.events = frame.events ++ events)
    (acquires : ∀ event ∈ events, event.acquires = true)
    (unprocessed : ∀ ret msg3, .processed ret msg3 ∉ events)
    (samePMsg3 : after.pMsg3 = frame.pMsg3)
    (keeps : ∀ resource, frame.holds resource = true → after.holds resource = true)
    (holds : ∀ resource, .obtained resource ∈ events → after.holds resource = true) :
    BeforeMsg3 after where
  acquiring := before.acquiring.grow grown acquires
  held := before.held.grow grown keeps holds
  noMsg3 := samePMsg3.trans before.noMsg3
  unprocessed ret msg3 processed := by
    rw [Processed, grown] at processed
    rcases List.mem_append.mp processed with old | new
    · exact before.unprocessed ret msg3 old
    · exact unprocessed ret msg3 new

theorem EnclaveHeld.transfer (held : EnclaveHeld frame)
    (sameCreated : ∀ k, .created k ∈ after.events ↔ .created k ∈ frame.events)
    (sameOpened : ∀ context enclave,
      .opened context enclave ∈ after.events ↔ .opened context enclave ∈ frame.events)
    (sameEnclave : after.enclaveId = frame.enclaveId) (sameContext : after.context = frame.context) :
    EnclaveHeld after := by
  constructor
  · intro k created
    exact sameEnclave.trans (held.enclave k ((sameCreated k).mp created))
  · intro context enclave opened
    rw [sameContext, sameEnclave]
    exact held.context context enclave ((sameOpened _ _).mp opened)
  · intro marked
    rw [sameContext] at marked ⊢
    rw [sameEnclave]
    exact (sameOpened _ _).mpr (held.marked marked)

theorem enclaveHeld_congr
    (sameCreated : ∀ k, .created k ∈ after.events ↔ .created k ∈ frame.events)
    (sameOpened : ∀ context enclave,
      .opened context enclave ∈ after.events ↔ .opened context enclave ∈ frame.events)
    (sameEnclave : after.enclaveId = frame.enclaveId) (sameContext : after.context = frame.context) :
    EnclaveHeld after ↔ EnclaveHeld frame := by
  constructor
  · intro held
    exact held.transfer (fun k => (sameCreated k).symm) (fun _ _ => (sameOpened _ _).symm)
      sameEnclave.symm sameContext.symm
  · intro held
    exact held.transfer sameCreated sameOpened sameEnclave sameContext

theorem enclaveHeld_setRet (frame : AppFrame) (ret : Int) :
    EnclaveHeld { frame with ret := ret } ↔ EnclaveHeld frame :=
  enclaveHeld_congr (fun _ => Iff.rfl) (fun _ _ => Iff.rfl) rfl rfl

theorem Stage.grow {tracked : Prop} (stage : Stage tracked frame)
    (grown : after.events = frame.events ++ events)
    (buffers : ∀ event ∈ events, ∃ resource, event = .obtained resource ∧ after.holds resource = true)
    (keeps : ∀ resource, frame.holds resource = true → after.holds resource = true)
    (samePMsg3 : after.pMsg3 = frame.pMsg3) (sameEnclave : after.enclaveId = frame.enclaveId)
    (sameContext : after.context = frame.context) : Stage tracked after := by
  constructor
  · apply stage.1.grow grown _ _ samePMsg3 keeps
    · intro resource obtained
      obtain ⟨other, same, holds⟩ := buffers _ obtained
      cases same
      exact holds
    · intro event member
      obtain ⟨resource, rfl, _⟩ := buffers event member
      rfl
    · intro ret msg3 member
      obtain ⟨resource, same, _⟩ := buffers _ member
      cases same
  · have same : ∀ event, (∀ resource, event ≠ .obtained resource) →
        (event ∈ after.events ↔ event ∈ frame.events) := by
      intro event other
      rw [grown, List.mem_append]
      apply or_iff_left
      intro new
      obtain ⟨resource, obtained, _⟩ := buffers event new
      exact other resource obtained
    rw [← stage.2]
    exact enclaveHeld_congr (fun k => same _ fun _ other => nomatch other)
      (fun context enclave => same _ fun _ other => nomatch other) sameEnclave sameContext

theorem Stage.setRet {tracked : Prop} (stage : Stage tracked frame) (ret : Int) :
    Stage tracked { frame with ret := ret } :=
  stage.grow (List.append_nil _).symm (fun _ none => (List.not_mem_nil none).elim)
    (fun resource holds => by cases resource <;> exact holds) rfl rfl rfl

end Growth

section Parts

variable (calls : AppCalls)

def Idle (frame : AppFrame) : Prop :=
  Early True frame ∧ frame.enclaveId = none ∧ frame.context = intMax

theorem initial_idle : Idle AppFrame.initial := by
  have nothing : ∀ event, event ∉ AppFrame.initial.events := fun _ => List.not_mem_nil
  refine ⟨⟨⟨⟨?_, ?_, rfl, ?_⟩, iff_true_intro ⟨?_, ?_, ?_⟩⟩, rfl⟩, rfl, rfl⟩
  · exact fun event member => (nothing event member).elim
  · exact fun resource member => (nothing _ member).elim
  · exact fun ret msg3 member => nothing _ member
  · exact fun k member => (nothing _ member).elim
  · exact fun context enclave member => (nothing _ member).elim
  · exact fun marked => (marked rfl).elim

theorem configure_ends :
    Ends (· = AppFrame.initial) (configure calls)
      (fun _ frame => Idle frame ∧ Configured calls)
      (fun frame => Stage True frame ∧ ¬ Configured calls) := by
  dsimp only [configure, fail]
  apply ends_ite
  · intro noMemory
    apply ends_leaveWith_bind
    rintro frame rfl
    refine ⟨initial_idle.1.1.setRet _, fun configured => ?_⟩
    simp [configured.1] at noMemory
  intro allocated
  apply ends_modify_bind _ fun frame => Idle frame ∧ frame.pMsg0RespFull = false
  · rintro frame rfl
    refine ⟨⟨⟨initial_idle.1.1.grow rfl ?_ ?_ rfl rfl rfl, rfl⟩, rfl, rfl⟩, rfl⟩
    · intro event member
      exact ⟨.msg0Full, List.mem_singleton.mp member, rfl⟩
    · intro resource holds
      cases resource <;> cases holds
  apply ends_modify_bind _ fun frame => Idle frame ∧ frame.ret = calls.sendMsg0.ret
  · rintro frame ⟨⟨⟨stage, noMsg2⟩, noEnclave, noContext⟩, noMsg0Resp⟩
    refine ⟨⟨⟨stage.grow rfl ?_ ?_ rfl rfl rfl, noMsg2⟩, noEnclave, noContext⟩, rfl⟩
    · intro event member
      split at member
      · rename_i delivered
        exact ⟨.msg0RespFull, List.mem_singleton.mp member, delivered⟩
      · cases member
    · intro resource holds
      cases resource with
      | msg0RespFull => exact (Bool.false_ne_true (noMsg0Resp.symm.trans holds)).elim
      | _ => exact holds
  apply ends_get_bind
  intro sent
  apply ends_ite
  · intro failed
    apply ends_leaveWith_bind
    rintro frame ⟨⟨⟨⟨stage, _⟩, _⟩, ret⟩, rfl⟩
    exact ⟨stage, fun configured => failed (ret.trans configured.2.1)⟩
  intro answered
  apply ends_modify_bind _ fun frame =>
    Idle frame ∧ calls.sendMsg0.ret = 0 ∧ frame.ret = asInt calls.selectAttKeyId
  · rintro frame ⟨⟨⟨⟨stage, noMsg2⟩, noVariables⟩, ret⟩, rfl⟩
    exact ⟨⟨⟨stage.setRet _, noMsg2⟩, noVariables⟩, ret.symm.trans (Decidable.of_not_not answered), rfl⟩
  apply ends_get_bind
  intro selected
  apply ends_ite
  · intro failed
    apply ends_leaveWith
    rintro frame ⟨⟨⟨⟨stage, _⟩, _⟩, _, ret⟩, rfl⟩
    refine ⟨stage.setRet _, fun configured => failed ?_⟩
    rw [ret, configured.2.2]
  · intro succeeded
    apply ends_pure
    rintro frame ⟨⟨idle, answered, ret⟩, rfl⟩
    rw [Decidable.not_not, ret, asInt_eq_iff] at succeeded
    exact ⟨idle, Bool.not_eq_false _ ▸ allocated, answered, succeeded⟩

def EnclaveAfter (k : Nat) (frame : AppFrame) : Prop :=
  match k with
  | 0 => EnclaveHeld frame ∧ frame.enclaveId = none ∧ frame.context = intMax
  | 1 => (EnclaveHeld frame ↔ (calls.initRa 0).Marks) ∧ .created 0 ∈ frame.events
  | _ + 2 => ¬ EnclaveHeld frame

structure StartInv (k : Nat) (frame : AppFrame) : Prop where
  before : BeforeMsg3 frame
  noMsg2 : frame.pMsg2Full = none
  created : ∀ j < k, calls.createEnclave j = .success
  ret : ∀ j, k = j + 1 → frame.ret = asInt (calls.initRa j).ret
  status : ∀ j status context, k = j + 1 → calls.initRa j = .returned status context →
    frame.status = status
  enclave : EnclaveAfter calls k frame

def startedFrame (k : Nat) (frame : AppFrame) : AppFrame :=
  enclaveInitRa calls k
    { frame with
      ret := asInt .success
      enclaveId := some k
      events := frame.events ++ [.created k] }

theorem startEnclave_run (k : Nat) (frame : AppFrame) :
    startEnclave calls k frame =
      if calls.createEnclave k = .success then
        .ok (asInt (calls.initRa k).ret == asInt .errorEnclaveLost) (startedFrame calls k frame)
      else .error .leave { frame with ret := -1 } := by
  by_cases created : calls.createEnclave k = .success
  · simp [startEnclave, bind_run, sgxCreateEnclave, created, startedFrame, enclaveInitRa, fail]
  · simp [startEnclave, bind_run, sgxCreateEnclave, created, fail, asInt_eq_iff]

theorem mem_opens (init : InitRa) (enclave : EnclaveId) (event : AppEvent) :
    event ∈ init.opens enclave ↔
      ∃ context, event = .opened context enclave ∧ init = .returned .success context := by
  cases init with
  | notEntered error failed left => simp [InitRa.opens]
  | returned status given =>
      by_cases success : status = .success
      · simp [InitRa.opens, success]
      · simp [InitRa.opens, success]

theorem firstStart_held (frame : AppFrame) (held : EnclaveHeld frame) (noEnclave : frame.enclaveId = none)
    (noContext : frame.context = intMax) :
    EnclaveHeld (startedFrame calls 0 frame) ↔ (calls.initRa 0).Marks := by
  have noneCreated : ∀ k, .created k ∉ frame.events := by
    intro k created
    exact nomatch noEnclave.symm.trans (held.enclave k created)
  have noneOpened : ∀ context enclave, .opened context enclave ∉ frame.events := by
    intro context enclave opened
    obtain ⟨real, same, _⟩ := held.context context enclave opened
    exact real (same.symm.trans noContext)
  have created : ∀ k, .created k ∈ (startedFrame calls 0 frame).events ↔ k = 0 := by
    intro k
    simp [startedFrame, enclaveInitRa, noneCreated, mem_opens]
  have opened : ∀ context enclave, .opened context enclave ∈ (startedFrame calls 0 frame).events ↔
      enclave = some 0 ∧ calls.initRa 0 = .returned .success context := by
    intro context enclave
    simp [startedFrame, enclaveInitRa, noneOpened, mem_opens, and_assoc]
  have context : (startedFrame calls 0 frame).context = (calls.initRa 0).contextAfter intMax := by
    rw [← noContext]
    rfl
  constructor
  · intro now
    constructor
    · intro marked
      rw [← context] at marked
      exact ⟨_, ((opened _ _).mp (now.marked marked)).2⟩
    · rintro ⟨given, init⟩
      obtain ⟨real, same, _⟩ := now.context given (some 0) ((opened _ _).mpr ⟨rfl, init⟩)
      rwa [← context, same]
  · intro marks
    constructor
    · intro k member
      rw [(created k).mp member]
      rfl
    · intro given enclave member
      obtain ⟨rfl, init⟩ := (opened given enclave).mp member
      have same : (calls.initRa 0).contextAfter intMax = given := by rw [init]; rfl
      have real := marks.mpr ⟨given, init⟩
      exact ⟨same ▸ real, context.trans same, rfl⟩
    · intro marked
      rw [context] at marked
      obtain ⟨given, init⟩ := marks.mp marked
      have same : (calls.initRa 0).contextAfter intMax = given := by rw [init]; rfl
      exact (opened _ _).mpr ⟨rfl, init.trans (by rw [context, same])⟩

theorem startedFrame_before (k : Nat) (frame : AppFrame) (before : BeforeMsg3 frame) :
    BeforeMsg3 (startedFrame calls k frame) := by
  have new : ∀ event ∈ [.created k] ++ (calls.initRa k).opens (some k),
      event = .created k ∨ ∃ context, event = .opened context (some k) := by
    intro event member
    rcases List.mem_append.mp member with created | opened
    · exact Or.inl (List.mem_singleton.mp created)
    · obtain ⟨context, same, _⟩ := (mem_opens _ _ _).mp opened
      exact Or.inr ⟨context, same⟩
  apply before.grow (List.append_assoc _ _ _)
  · intro event member
    rcases new event member with rfl | ⟨context, rfl⟩ <;> rfl
  · intro ret msg3 member
    rcases new _ member with same | ⟨context, same⟩ <;> cases same
  · rfl
  · intro resource holds
    cases resource <;> exact holds
  · intro resource member
    rcases new _ member with same | ⟨context, same⟩ <;> cases same

theorem createFailed_stage (k : Nat) (frame : AppFrame) (inLimit : k ≤ 1)
    (inv : StartInv calls k frame) (failed : calls.createEnclave k ≠ .success) :
    Stage (EnclaveTracked calls) { frame with ret := -1 } := by
  have before : BeforeMsg3 { frame with ret := -1 } :=
    ⟨inv.before.acquiring, inv.before.held, inv.before.noMsg3, inv.before.unprocessed⟩
  have enclave := inv.enclave
  refine ⟨before, (enclaveHeld_setRet frame (-1)).trans ?_⟩
  cases k with
  | zero => exact iff_of_true enclave.1 fun first => (failed first).elim
  | succ k =>
      obtain rfl : k = 0 := by omega
      rw [enclave.1]
      exact ⟨fun marks _ => ⟨marks, fun _ => failed⟩,
        fun tracked => (tracked (inv.created 0 Nat.zero_lt_one)).1⟩

theorem startEnclave_ends (k : Nat) (inLimit : k ≤ 1) (wanted : ∀ j < k, EnclaveLost calls j) :
    Ends (StartInv calls k) (startEnclave calls k)
      (fun again frame => StartInv calls (k + 1) frame ∧ (again = true ↔ EnclaveLost calls k))
      (fun frame => Stage (EnclaveTracked calls) frame ∧ ¬ Started calls) := by
  intro frame inv
  rw [startEnclave_run]
  by_cases created : calls.createEnclave k = .success
  · rw [if_pos created]
    refine ⟨⟨startedFrame_before calls k frame inv.before, inv.noMsg2, ?_, ?_, ?_, ?_⟩, ?_⟩
    · intro j earlier
      rcases Nat.lt_succ_iff_lt_or_eq.mp earlier with before | rfl
      · exact inv.created j before
      · exact created
    · rintro j same
      cases same
      rfl
    · rintro j status context same init
      cases same
      simp [startedFrame, enclaveInitRa, init, InitRa.statusAfter]
    · have enclave := inv.enclave
      cases k with
      | zero =>
          refine ⟨firstStart_held calls frame enclave.1 enclave.2.1 enclave.2.2, ?_⟩
          simp [startedFrame, enclaveInitRa]
      | succ k =>
          -- the first enclave is still recorded, the variable names the second
          obtain rfl : k = 0 := by omega
          intro held
          have first : .created 0 ∈ (startedFrame calls 1 frame).events :=
            List.mem_append_left _ (List.mem_append_left _ enclave.2)
          exact nomatch held.enclave 0 first
    · rw [beq_iff_eq, asInt_eq_iff, EnclaveLost]
  · rw [if_neg created]
    refine ⟨createFailed_stage calls k frame inLimit inv created, ?_⟩
    rintro ⟨last, ends, allCreated, _⟩
    exact created (allCreated k (le_lastAttempt ends inLimit wanted))

theorem tracked_iff (k : Nat) (frame : AppFrame) (last : LastAttempt (EnclaveLost calls) 1 k)
    (inv : StartInv calls (k + 1) frame) : EnclaveHeld frame ↔ EnclaveTracked calls := by
  have enclave := inv.enclave
  rcases Nat.le_one_iff_eq_zero_or_eq_one.mp last.inLimit with rfl | rfl
  · rw [enclave.1]
    exact ⟨fun marks _ => ⟨marks, fun lost => (last.stops Nat.zero_lt_one lost).elim⟩,
      fun tracked => (tracked (inv.created 0 Nat.zero_lt_one)).1⟩
  · apply iff_of_false enclave
    intro tracked
    have replaced := (tracked (inv.created 0 Nat.zero_lt_two)).2 (last.wanted 0 Nat.zero_lt_one)
    exact replaced (inv.created 1 Nat.one_lt_two)

theorem started_iff (k : Nat) (frame : AppFrame) (last : LastAttempt (EnclaveLost calls) 1 k)
    (inv : StartInv calls (k + 1) frame) :
    Started calls ↔ frame.ret = asInt .success ∧ frame.status = .success := by
  rw [inv.ret k rfl, asInt_eq_iff]
  constructor
  · rintro ⟨other, ends, _, context, init⟩
    obtain rfl := lastAttempt_unique last ends
    exact ⟨by rw [init]; rfl, inv.status k .success context rfl init⟩
  · rintro ⟨entered, succeeded⟩
    refine ⟨k, last, fun j early => inv.created j (Nat.lt_succ_of_le early), ?_⟩
    cases init : calls.initRa k with
    | notEntered error failed left =>
        rw [init] at entered
        exact (failed entered).elim
    | returned status context =>
        have same := inv.status k status context rfl init
        exact ⟨context, by rw [← same, succeeded]⟩

theorem startRa_ends :
    Ends Idle (startRa calls)
      (fun _ frame => Early (EnclaveTracked calls) frame ∧ Started calls)
      (fun frame => Stage (EnclaveTracked calls) frame ∧ ¬ Started calls) := by
  apply ends_bind _ (ends_weaken (StartInv calls 0) _ _
    (ends_retryWhile (StartInv calls) (EnclaveLost calls) 1 (startEnclave_ends calls)) _
    (fun _ _ => id) (fun _ => id))
  · intro _
    apply ends_get_bind
    intro value
    apply ends_ite
    · intro failed
      apply ends_leaveWith
      rintro frame ⟨⟨k, last, inv⟩, rfl⟩
      have stage : Stage (EnclaveTracked calls) frame := ⟨inv.before, tracked_iff calls k frame last inv⟩
      refine ⟨stage.setRet _, fun started => ?_⟩
      obtain ⟨entered, succeeded⟩ := (started_iff calls k frame last inv).mp started
      rcases failed with notEntered | notOpened
      · exact notEntered entered
      · exact notOpened succeeded
    · intro succeeded
      apply ends_pure
      rintro frame ⟨⟨k, last, inv⟩, rfl⟩
      rw [not_or, Decidable.not_not, Decidable.not_not] at succeeded
      exact ⟨⟨⟨inv.before, tracked_iff calls k frame last inv⟩, inv.noMsg2⟩,
        (started_iff calls k frame last inv).mpr succeeded⟩
  · rintro frame ⟨⟨stage, noMsg2⟩, noEnclave, noContext⟩
    exact ⟨stage.1, noMsg2, fun j none => (Nat.not_lt_zero j none).elim, fun j none => (nomatch none),
      fun j status context none => (nomatch none), stage.2.mpr trivial, noEnclave, noContext⟩

def Msg1Inv (tracked : Prop) (k : Nat) (frame : AppFrame) : Prop :=
  Early tracked frame ∧ ∀ j, k = j + 1 → frame.ret = asInt (calls.getMsg1 j)

theorem getMsg1_ends {tracked : Prop} {Left : AppFrame → Prop} (k : Nat) :
    Ends (Msg1Inv calls tracked k) (getMsg1 calls k)
      (fun again frame => Msg1Inv calls tracked (k + 1) frame ∧
        (again = true ↔ GetMsg1Busy calls k)) Left := by
  rintro frame ⟨⟨stage, noMsg2⟩, _⟩
  refine ⟨⟨⟨stage.setRet _, noMsg2⟩, ?_⟩, ?_⟩
  · rintro j same
    cases same
    rfl
  · change (asInt (calls.getMsg1 k) == asInt .errorBusy) = true ↔ _
    rw [beq_iff_eq, asInt_eq_iff, GetMsg1Busy]

theorem makeMsg1_ends {tracked : Prop} :
    Ends (Early tracked) (makeMsg1 calls)
      (fun _ frame => Early tracked frame ∧ Msg1Made calls)
      (fun frame => Stage tracked frame ∧ ¬ Msg1Made calls) := by
  dsimp only [makeMsg1, fail]
  apply ends_ite
  · intro noMemory
    apply ends_leaveWith_bind
    rintro frame ⟨stage, _⟩
    refine ⟨stage.setRet _, fun made => ?_⟩
    simp [made.1] at noMemory
  intro allocated
  apply ends_modify_bind _ (Msg1Inv calls tracked 0)
  · rintro frame ⟨stage, noMsg2⟩
    refine ⟨⟨stage.grow rfl ?_ ?_ rfl rfl rfl, noMsg2⟩, fun j none => nomatch none⟩
    · intro event member
      exact ⟨.msg1Full, List.mem_singleton.mp member, rfl⟩
    · intro resource holds
      cases resource with
      | msg1Full => rfl
      | _ => exact holds
  apply ends_bind _ (ends_retryWhile (Msg1Inv calls tracked) (GetMsg1Busy calls) 4
    fun k _ _ => getMsg1_ends calls k)
  intro _
  apply ends_get_bind
  intro value
  apply ends_ite
  · intro failed
    apply ends_leaveWith
    rintro frame ⟨⟨k, last, ⟨stage, _⟩, ret⟩, rfl⟩
    refine ⟨stage.setRet _, ?_⟩
    rintro ⟨_, other, ends, success⟩
    obtain rfl := lastAttempt_unique last ends
    exact failed (by rw [ret k rfl, success])
  · intro succeeded
    apply ends_pure
    rintro frame ⟨⟨k, last, early, ret⟩, rfl⟩
    rw [Decidable.not_not, ret k rfl, asInt_eq_iff] at succeeded
    exact ⟨early, Bool.not_eq_false _ ▸ allocated, k, last, succeeded⟩

theorem exchange_ends {tracked : Prop} :
    Ends (Early tracked) (exchange calls)
      (fun _ frame => Stage tracked frame ∧ Msg2Received calls)
      (fun frame => Stage tracked frame ∧ ¬ Msg2Received calls) := by
  dsimp only [exchange]
  apply ends_modify_bind _ fun frame => Stage tracked frame ∧ frame.ret = calls.sendMsg1.ret ∧
    frame.pMsg2Full = calls.sendMsg1.resp
  · rintro frame ⟨stage, noMsg2⟩
    refine ⟨stage.grow rfl ?_ ?_ rfl rfl rfl, rfl, rfl⟩
    · intro event member
      split at member
      · rename_i delivered
        exact ⟨.msg2Full, List.mem_singleton.mp member, delivered⟩
      · cases member
    · intro resource holds
      cases resource with
      | msg2Full =>
          rw [AppFrame.holds, noMsg2] at holds
          cases holds
      | _ => exact holds
  apply ends_get_bind
  intro value
  apply ends_ite
  · intro failed
    apply ends_leaveWith_bind
    rintro frame ⟨⟨stage, ret, resp⟩, rfl⟩
    refine ⟨stage, ?_⟩
    rintro ⟨answered, delivered⟩
    rcases failed with notAnswered | notDelivered
    · exact notAnswered (ret.trans answered)
    · exact nomatch (resp.trans delivered).symm.trans notDelivered
  intro answered
  apply ends_ite
  · intro otherType
    apply ends_leaveWith
    rintro frame ⟨⟨stage, ret, resp⟩, rfl⟩
    exact ⟨stage, fun received => otherType (resp.trans received.2)⟩
  · intro rightType
    apply ends_pure
    rintro frame ⟨⟨stage, ret, resp⟩, rfl⟩
    rw [not_or, Decidable.not_not] at answered
    rw [Decidable.not_not] at rightType
    exact ⟨stage, ret.symm.trans answered.1, resp.symm.trans rightType⟩

def Allocates (k : Nat) : Prop := (calls.procMsg2 k).allocates = true

structure Msg3Inv (tracked : Prop) (k : Nat) (frame : AppFrame) : Prop where
  acquiring : Acquiring frame
  enclave : EnclaveHeld frame ↔ tracked
  ret : ∀ j, k = j + 1 → frame.ret = asInt (calls.procMsg2 j).ret
  others : ∀ resource, (∀ j, resource ≠ .msg3 j) → .obtained resource ∈ frame.events →
    frame.holds resource = true
  obtained : ∀ j, .obtained (.msg3 j) ∈ frame.events ↔ j < k ∧ Allocates calls j
  pointer : ∀ j, frame.pMsg3 = some j → j < k ∧ Allocates calls j
  notNull : frame.pMsg3.isSome = true ↔ ∃ j < k, Allocates calls j
  processed : Processed frame .success true ↔
    ∃ j < k, (calls.procMsg2 j).ret = .success ∧ ∃ i < j + 1, Allocates calls i

theorem stage_msg3Inv {tracked : Prop} (frame : AppFrame) (stage : Stage tracked frame) :
    Msg3Inv calls tracked 0 frame where
  acquiring := stage.1.acquiring
  enclave := stage.2
  ret _ none := nomatch none
  others resource _ member := stage.1.held resource member
  obtained j := by
    apply iff_of_false
    · intro member
      have holds := stage.1.held _ member
      rw [AppFrame.holds, stage.1.noMsg3] at holds
      cases holds
    · exact fun none => Nat.not_lt_zero j none.1
  pointer j given := nomatch stage.1.noMsg3.symm.trans given
  notNull := by
    rw [stage.1.noMsg3]
    exact iff_of_false Bool.false_ne_true fun ⟨j, earlier, _⟩ => Nat.not_lt_zero j earlier
  processed := by
    apply iff_of_false (stage.1.unprocessed _ _)
    rintro ⟨j, earlier, _⟩
    exact Nat.not_lt_zero j earlier

theorem mem_procMsg2 (k : Nat) (frame : AppFrame) (event : AppEvent) :
    event ∈ (sgxRaProcMsg2Ex calls k frame).events ↔ event ∈ frame.events ∨
      (Allocates calls k ∧ event = .obtained (.msg3 k)) ∨
      event = .processed (calls.procMsg2 k).ret (sgxRaProcMsg2Ex calls k frame).pMsg3.isSome := by
  by_cases allocates : Allocates calls k
  · simp [sgxRaProcMsg2Ex, show (calls.procMsg2 k).allocates = true from allocates, Allocates]
  · simp [sgxRaProcMsg2Ex, show ¬ (calls.procMsg2 k).allocates = true from allocates, Allocates]

theorem procMsg2_pMsg3 (k : Nat) (frame : AppFrame) :
    (Allocates calls k ∧ (sgxRaProcMsg2Ex calls k frame).pMsg3 = some k) ∨
      (¬ Allocates calls k ∧ (sgxRaProcMsg2Ex calls k frame).pMsg3 = frame.pMsg3) := by
  by_cases allocates : Allocates calls k
  · exact Or.inl ⟨allocates, if_pos allocates⟩
  · exact Or.inr ⟨allocates, if_neg allocates⟩

theorem procMsg2_notNull (k : Nat) (frame : AppFrame)
    (notNull : frame.pMsg3.isSome = true ↔ ∃ j < k, Allocates calls j) :
    (sgxRaProcMsg2Ex calls k frame).pMsg3.isSome = true ↔ ∃ j < k + 1, Allocates calls j := by
  rw [Nat.exists_lt_succ_right]
  rcases procMsg2_pMsg3 calls k frame with ⟨allocates, fresh⟩ | ⟨notAllocates, kept⟩
  · rw [fresh]
    exact iff_of_true rfl (Or.inr allocates)
  · rw [kept, notNull]
    exact (or_iff_left notAllocates).symm

theorem procMsg2_keeps {tracked : Prop} (k : Nat) (frame : AppFrame)
    (inv : Msg3Inv calls tracked k frame) :
    Msg3Inv calls tracked (k + 1) (sgxRaProcMsg2Ex calls k frame) where
  acquiring := by
    intro event member
    rcases (mem_procMsg2 calls k frame event).mp member with old | ⟨_, rfl⟩ | rfl
    · exact inv.acquiring event old
    · rfl
    · rfl
  enclave := by
    rw [← inv.enclave]
    exact enclaveHeld_congr (by simp [mem_procMsg2]) (by simp [mem_procMsg2]) rfl rfl
  ret := by
    rintro j same
    cases same
    rfl
  others := by
    intro resource notMsg3 member
    rcases (mem_procMsg2 calls k frame _).mp member with old | ⟨_, same⟩ | same
    · have holds := inv.others resource notMsg3 old
      cases resource with
      | msg3 j => exact (notMsg3 j rfl).elim
      | _ => exact holds
    · cases same
      exact (notMsg3 k rfl).elim
    · cases same
  obtained := by
    intro j
    rw [mem_procMsg2, inv.obtained j]
    constructor
    · rintro (⟨before, allocates⟩ | ⟨allocates, same⟩ | same)
      · exact ⟨Nat.lt_succ_of_lt before, allocates⟩
      · cases same
        exact ⟨Nat.lt_succ_self k, allocates⟩
      · cases same
    · rintro ⟨upTo, allocates⟩
      rcases Nat.lt_succ_iff_lt_or_eq.mp upTo with before | rfl
      · exact Or.inl ⟨before, allocates⟩
      · exact Or.inr (Or.inl ⟨allocates, rfl⟩)
  pointer := by
    intro j given
    rcases procMsg2_pMsg3 calls k frame with ⟨allocates, fresh⟩ | ⟨_, kept⟩
    · cases fresh.symm.trans given
      exact ⟨Nat.lt_succ_self k, allocates⟩
    · obtain ⟨before, allocates⟩ := inv.pointer j (kept.symm.trans given)
      exact ⟨Nat.lt_succ_of_lt before, allocates⟩
  notNull := procMsg2_notNull calls k frame inv.notNull
  processed := by
    rw [Processed, mem_procMsg2, Nat.exists_lt_succ_right, ← procMsg2_notNull calls k frame inv.notNull]
    apply or_congr inv.processed
    simp only [reduceCtorEq, and_false, false_or, AppEvent.processed.injEq]
    exact and_congr eq_comm eq_comm

theorem procMsg2_ends {tracked : Prop} {Left : AppFrame → Prop} (k : Nat) :
    Ends (Msg3Inv calls tracked k) (procMsg2 calls k)
      (fun again frame => Msg3Inv calls tracked (k + 1) frame ∧
        (again = true ↔ ProcMsg2Busy calls k)) Left := by
  intro frame inv
  refine ⟨procMsg2_keeps calls k frame inv, ?_⟩
  change (asInt (calls.procMsg2 k).ret == asInt .errorBusy) = true ↔ _
  rw [beq_iff_eq, asInt_eq_iff, ProcMsg2Busy]

/-- What the last call has left in `ret` and `p_msg3` tells whether MSG3 was made. -/
theorem msg3Made_iff {tracked : Prop} (k : Nat) (frame : AppFrame)
    (last : LastAttempt (ProcMsg2Busy calls) 2 k) (inv : Msg3Inv calls tracked (k + 1) frame) :
    Msg3Made calls ↔ frame.pMsg3 ≠ none ∧ frame.ret = asInt .success := by
  rw [inv.ret k rfl, asInt_eq_iff, ← Option.isSome_iff_ne_none, inv.notNull]
  constructor
  · rintro ⟨other, ends, success, allocated⟩
    obtain rfl := lastAttempt_unique last ends
    exact ⟨allocated, success⟩
  · rintro ⟨allocated, success⟩
    exact ⟨k, last, success, allocated⟩

theorem msg3Processed_iff {tracked : Prop} (k : Nat) (frame : AppFrame)
    (last : LastAttempt (ProcMsg2Busy calls) 2 k) (inv : Msg3Inv calls tracked (k + 1) frame) :
    Processed frame .success true ↔ Msg3Made calls := by
  rw [inv.processed]
  constructor
  · rintro ⟨j, upTo, success, allocated⟩
    rcases Nat.lt_succ_iff_lt_or_eq.mp upTo with before | rfl
    · have busy := last.wanted j before
      rw [ProcMsg2Busy, success] at busy
      exact absurd busy (by decide)
    · exact ⟨j, last, success, allocated⟩
  · rintro ⟨other, ends, success, allocated⟩
    obtain rfl := lastAttempt_unique last ends
    exact ⟨k, Nat.lt_succ_self k, success, allocated⟩

theorem msg3Tracked_iff {tracked : Prop} (k : Nat) (frame : AppFrame)
    (last : LastAttempt (ProcMsg2Busy calls) 2 k) (inv : Msg3Inv calls tracked (k + 1) frame) :
    BuffersHeld frame ↔ Msg3Tracked calls := by
  constructor
  · intro held other ends i early j late first second
    obtain rfl := lastAttempt_unique last ends
    have one := held _ ((inv.obtained i).mpr ⟨early, first⟩)
    have two := held _ ((inv.obtained j).mpr ⟨late, second⟩)
    rw [AppFrame.holds, beq_iff_eq] at one two
    exact Option.some.inj (one.symm.trans two)
  · intro tracked resource member
    cases resource with
    | msg3 j =>
        obtain ⟨upTo, allocates⟩ := (inv.obtained j).mp member
        have notNull := inv.notNull.mpr ⟨j, upTo, allocates⟩
        obtain ⟨i, given⟩ := Option.isSome_iff_exists.mp notNull
        obtain ⟨early, first⟩ := inv.pointer i given
        have same := tracked k last i early j upTo first allocates
        rw [AppFrame.holds, given, same, beq_self_eq_true]
    | _ => exact inv.others _ (fun j other => nomatch other) member

structure Returned (frame : AppFrame) : Prop where
  ret : frame.ret = 0
  processed : Processed frame .success true
  acquiring : Acquiring frame
  msg3 : ∃ resource, .obtained resource ∈ frame.events

structure AtCleanup (enclaveTracked msg3Tracked : Prop) (frame : AppFrame) : Prop where
  acquiring : Acquiring frame
  enclave : EnclaveHeld frame ↔ enclaveTracked
  buffers : BuffersHeld frame ↔ msg3Tracked
  unprocessed : ¬ Processed frame .success true

theorem stage_atCleanup {tracked enclaveTracked msg3Tracked : Prop} (frame : AppFrame)
    (stage : Stage tracked frame) (same : tracked ↔ enclaveTracked) (holds : msg3Tracked) :
    AtCleanup enclaveTracked msg3Tracked frame where
  acquiring := stage.1.acquiring
  enclave := stage.2.trans same
  buffers := iff_of_true stage.1.held holds
  unprocessed := stage.1.unprocessed _ _

theorem msg3_atCleanup {tracked : Prop} (k : Nat) (frame : AppFrame)
    (last : LastAttempt (ProcMsg2Busy calls) 2 k) (inv : Msg3Inv calls tracked (k + 1) frame)
    (notMade : ¬ Msg3Made calls) :
    AtCleanup tracked (Msg3Tracked calls) { frame with ret := -1 } where
  acquiring := inv.acquiring
  enclave := (enclaveHeld_setRet frame (-1)).trans inv.enclave
  buffers := by
    rw [← msg3Tracked_iff calls k frame last inv]
    constructor
    · intro held resource member
      have holds := held resource member
      cases resource <;> exact holds
    · intro held resource member
      have holds := held resource member
      cases resource <;> exact holds
  unprocessed := fun processed => notMade ((msg3Processed_iff calls k frame last inv).mp processed)

theorem makeMsg3_ends {tracked : Prop} :
    Ends (Stage tracked) (makeMsg3 calls)
      (fun _ frame => Returned frame ∧ Msg3Made calls)
      (fun frame => AtCleanup tracked (Msg3Tracked calls) frame ∧ ¬ Msg3Made calls) := by
  dsimp only [makeMsg3, fail]
  apply ends_bind _ (ends_weaken (Msg3Inv calls tracked 0) _ _
    (ends_retryWhile (Msg3Inv calls tracked) (ProcMsg2Busy calls) 2
      fun k _ _ => procMsg2_ends calls k) (stage_msg3Inv calls) (fun _ _ => id) (fun _ => id))
  intro _
  apply ends_get_bind
  intro value
  apply ends_ite
  · intro null
    apply ends_leaveWith_bind
    rintro frame ⟨⟨k, last, inv⟩, rfl⟩
    have notMade : ¬ Msg3Made calls := fun made =>
      ((msg3Made_iff calls k frame last inv).mp made).1 null
    exact ⟨msg3_atCleanup calls k frame last inv notMade, notMade⟩
  intro notNull
  apply ends_ite
  · intro failed
    apply ends_leaveWith
    rintro frame ⟨⟨k, last, inv⟩, rfl⟩
    have notMade : ¬ Msg3Made calls := fun made =>
      failed ((msg3Made_iff calls k frame last inv).mp made).2
    exact ⟨msg3_atCleanup calls k frame last inv notMade, notMade⟩
  · intro succeeded
    apply ends_pure
    rintro frame ⟨⟨k, last, inv⟩, rfl⟩
    rw [Decidable.not_not] at succeeded
    have made := (msg3Made_iff calls k frame last inv).mpr ⟨notNull, succeeded⟩
    obtain ⟨j, upTo, allocates⟩ := inv.notNull.mp (Option.isSome_iff_ne_none.mpr notNull)
    exact ⟨⟨succeeded, (msg3Processed_iff calls k frame last inv).mpr made, inv.acquiring,
      .msg3 j, (inv.obtained j).mpr ⟨upTo, allocates⟩⟩, made⟩

/-- The body returns when every call succeeds, and leaves for `CLEANUP` otherwise. -/
theorem attest_ends :
    Ends (· = AppFrame.initial) (attest calls)
      (fun _ frame => Returned frame ∧ AllSucceed calls)
      (fun frame => AtCleanup (Configured calls → EnclaveTracked calls)
        (Msg3Reached calls → Msg3Tracked calls) frame ∧ ¬ AllSucceed calls) := by
  apply ends_seq _ _ (configure_ends calls)
  · rintro frame ⟨stage, notConfigured⟩
    exact ⟨stage_atCleanup frame stage (iff_of_true trivial fun configured =>
      (notConfigured configured).elim) fun reached => (notConfigured reached.1).elim,
      fun all => notConfigured all.1.1⟩
  intro _
  apply ends_given
  intro configured
  have tracked : EnclaveTracked calls ↔ (Configured calls → EnclaveTracked calls) :=
    (imp_iff_right configured).symm
  apply ends_seq _ _ (startRa_ends calls)
  · rintro frame ⟨stage, notStarted⟩
    exact ⟨stage_atCleanup frame stage tracked fun reached => (notStarted reached.2.1).elim,
      fun all => notStarted all.1.2.1⟩
  intro _
  apply ends_given
  intro started
  apply ends_seq _ _ (makeMsg1_ends calls)
  · rintro frame ⟨stage, notMade⟩
    exact ⟨stage_atCleanup frame stage tracked fun reached => (notMade reached.2.2.1).elim,
      fun all => notMade all.1.2.2.1⟩
  intro _
  apply ends_given
  intro made
  apply ends_seq _ _ (exchange_ends calls)
  · rintro frame ⟨stage, notReceived⟩
    exact ⟨stage_atCleanup frame stage tracked fun reached => (notReceived reached.2.2.2).elim,
      fun all => notReceived all.1.2.2.2⟩
  intro _
  apply ends_given
  intro received
  have reached : Msg3Reached calls := ⟨configured, started, made, received⟩
  apply ends_weaken _ _ _ (makeMsg3_ends calls) (fun _ => id)
  · rintro _ frame ⟨returned, made⟩
    exact ⟨returned, reached, made⟩
  · rintro frame ⟨atCleanup, notMade⟩
    refine ⟨⟨atCleanup.acquiring, atCleanup.enclave.trans tracked, ?_, atCleanup.unprocessed⟩,
      fun all => notMade all.2⟩
    exact atCleanup.buffers.trans (imp_iff_right reached).symm

end Parts

end SgxExperiments.AttestationApp
