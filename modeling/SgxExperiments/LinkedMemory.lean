import SgxExperiments.AppRelease
import SgxExperiments.BlockInvariant
import SgxExperiments.LinkedRefinement

/-!
The blocks that the provider allocates and `main` frees, over a whole process. A
ledger of the two response variables is read off what `main` has done, and off the
requests alone; they agree at every point. The books are drawn up for a process that
comes to its own end.
-/

namespace SgxExperiments.LinkedMain

open BreakableBlock KeyDerivation ServiceProvider NetworkRa Registration AttestationApp ProviderLife

variable {World : Type}

def Response.resource : Response → Resource
  | .msg0Resp => .msg0RespFull
  | .msg2 => .msg2Full

def Response.request : Response → UInt8
  | .msg0Resp => typeRaMsg0
  | .msg2 => typeRaMsg1

theorem request_inj (which other : Response) : which.request = other.request ↔ which = other := by
  cases which <;> cases other <;> decide

structure Ledger where
  obtained : Nat
  freed : Nat
  held : Bool

def Ledger.answered (ledger : Ledger) (delivered : Bool) : Ledger :=
  ⟨ledger.obtained + (if delivered then 1 else 0), ledger.freed, delivered⟩

def ledger (frame : AppFrame) (which : Response) : Ledger :=
  ⟨frame.events.count (.obtained which.resource), frame.events.count (.freed which.resource),
    frame.holds which.resource⟩

def record (ledger : Response → Ledger) (event : Event World) (which : Response) : Ledger :=
  if event.request.type = which.request then (ledger which).answered (delivers event)
  else ledger which

theorem record_asked (ledger : Response → Ledger) (event : Event World) (which : Response)
    (asked : event.request.type = which.request) (other : Response) :
    record ledger event other =
      if which = other then (ledger which).answered (delivers event) else ledger other := by
  simp only [record, asked, request_inj]
  split
  · rename_i same
    rw [same]
  · rfl

def recorded (events : List (Event World)) : Response → Ledger :=
  events.foldl record fun _ => ⟨0, 0, false⟩

theorem recorded_append (events : List (Event World)) (event : Event World) :
    recorded (events ++ [event]) = record (recorded events) event :=
  List.foldl_append

/-- The ledger of `main` is that of the requests sent so far. -/
def Tallied (process : Process World) : Prop := ledger process.app = recorded process.events

section Ledgers

theorem ledger_grow (frame after : AppFrame) (events : List AppEvent)
    (grown : after.events = frame.events ++ events)
    (others : ∀ which : Response, .obtained which.resource ∉ events ∧ .freed which.resource ∉ events)
    (held : ∀ which : Response, after.holds which.resource = frame.holds which.resource) :
    ledger after = ledger frame := by
  funext which
  obtain ⟨notObtained, notFreed⟩ := others which
  rw [ledger, ledger, grown, held, List.count_append, List.count_append,
    List.count_eq_zero.mpr notObtained, List.count_eq_zero.mpr notFreed]
  rfl

theorem ledger_setRet (frame : AppFrame) (ret : Int) :
    ledger { frame with ret := ret } = ledger frame := by
  funext which
  cases which <;> rfl

end Ledgers

section App

variable (calls : AppCalls)

theorem fail_keeps : Keeps ledger AttestationApp.fail :=
  fun _ => preserves_leaveWith _ fun frame => (ledger_setRet frame (-1)).trans

theorem sgxCreateEnclave_ledger (k : Nat) (frame : AppFrame) :
    ledger (sgxCreateEnclave calls k frame) = ledger frame := by
  rw [sgxCreateEnclave]
  split
  · apply ledger_grow _ _ [.created k] rfl
    · intro which
      simp
    · intro which
      cases which <;> rfl
  · exact ledger_setRet _ _

theorem enclaveInitRa_ledger (k : Nat) (frame : AppFrame) :
    ledger (enclaveInitRa calls k frame) = ledger frame := by
  apply ledger_grow _ _ ((calls.initRa k).opens frame.enclaveId) rfl
  · intro which
    cases calls.initRa k with
    | notEntered => exact ⟨List.not_mem_nil, List.not_mem_nil⟩
    | returned status context =>
        rw [InitRa.opens]
        split <;> simp
  · intro which
    cases which <;> rfl

theorem sgxRaProcMsg2Ex_ledger (k : Nat) (frame : AppFrame) :
    ledger (sgxRaProcMsg2Ex calls k frame) = ledger frame := by
  apply ledger_grow _ _ _ (List.append_assoc _ _ _)
  · intro which
    cases which <;> cases (calls.procMsg2 k).allocates <;> simp [Response.resource]
  · intro which
    cases which <;> rfl

theorem startRa_keeps : Keeps ledger (startRa calls) := by
  intro value
  have starts : ∀ k, Preserves (fun frame => ledger frame = value) (startEnclave calls k) := by
    intro k
    apply preserves_bind (keeps_modify _ (sgxCreateEnclave_ledger calls k) value)
    intro _
    apply preserves_get_bind
    intro frame
    apply preserves_guard (fail_keeps value)
    apply preserves_bind (keeps_modify _ (enclaveInitRa_ledger calls k) value)
    intro _
    exact preserves_get_bind fun _ => preserves_pure _
  apply preserves_bind (preserves_retryWhile starts 1 0)
  intro _
  exact preserves_get_bind fun _ => preserves_ite (fail_keeps value) (preserves_pure _)

theorem makeMsg1_keeps : Keeps ledger (makeMsg1 calls) := by
  intro value
  have asks : ∀ k, Preserves (fun frame => ledger frame = value) (AttestationApp.getMsg1 calls k) := by
    intro k
    apply preserves_bind (keeps_modify _ (fun frame => ledger_setRet frame _) value)
    intro _
    exact preserves_get_bind fun _ => preserves_pure _
  have allocates : ∀ frame : AppFrame, ledger { frame with
      pMsg1Full := true, events := frame.events ++ [.obtained .msg1Full] } = ledger frame := by
    intro frame
    apply ledger_grow _ _ _ rfl
    · intro which
      cases which <;> simp [Response.resource]
    · intro which
      cases which <;> rfl
  unfold makeMsg1
  apply preserves_guard (fail_keeps value)
  apply preserves_bind (keeps_modify _ allocates value)
  intro _
  apply preserves_bind (preserves_retryWhile asks 4 0)
  intro _
  exact preserves_get_bind fun _ => preserves_ite (fail_keeps value) (preserves_pure _)

end App

section Process

variable {table : List (SampleExtendedEpidGroup World)} {build : Build} {primitives : Primitives}
  {env : Surroundings World}

theorem onApp_tallied {α : Type} (block : Breakable Empty AppFrame α) (keeps : Keeps ledger block) :
    Preserves Tallied (onApp block : Breakable Fault (Process World) α) :=
  preserves_within _ _ block keeps fun _ _ tallied same => same.trans tallied

theorem changeApp_tallied (change : AppFrame → AppFrame)
    (same : ∀ frame, ledger (change frame) = ledger frame) :
    Preserves Tallied (changeApp change : Breakable Fault (Process World) Unit) :=
  preserves_modify _ fun process tallied => (same process.app).trans tallied

theorem readFrom_tallied (which : Response) (offset n : Nat) :
    Preserves Tallied (readFrom which offset n : Breakable Fault (Process World) (List UInt8)) := by
  apply preserves_get_bind
  intro process
  cases process.responses which with
  | none => exact preserves_fault _
  | some response =>
      apply preserves_bind
      · exact preserves_modify _ fun _ => id
      · exact fun _ => preserves_pure _

theorem readSize_tallied (which : Response) :
    Preserves Tallied (readSize which : Breakable Fault (Process World) Nat) :=
  preserves_bind (readFrom_tallied which 3 4) fun _ => preserves_pure _

theorem readBody_tallied (which : Response) :
    Preserves Tallied (readBody which : Breakable Fault (Process World) (List UInt8)) :=
  preserves_bind (readSize_tallied which) fun size => readFrom_tallied which headerSize size

theorem send_tallied (which : Response) (calls : RequestCalls World) (request : RaSampRequest)
    (asked : request.type = which.request)
    (store : NetworkResult → AppFrame → AppFrame)
    (stores : ∀ result frame other, ledger (store result frame) other =
      if which = other then (ledger frame which).answered result.resp.join.isSome
      else ledger frame other) :
    Preserves Tallied (raNetwork table build primitives which calls request >>= fun result =>
      changeApp (store result)) := by
  intro process tallied
  -- A provider that does not come back has changed nothing on either side.
  cases sent : raNetworkSendReceive table build primitives calls process.provider true
      (some request) true with
  | error cause =>
      have ran : raNetwork table build primitives which calls request process =
          .error (.fault cause) process := by
        simp only [raNetwork, bind_run, get_run, sent]
        rfl
      rw [bind_of_error _ _ _ _ _ ran]
      exact tallied
  | ok result =>
      have ran : raNetwork table build primitives which calls request process =
          .ok result (Process.setResponse { process with
            provider := result.provider
            events := process.events ++ [⟨process.provider, request, calls, result⟩] } which
            (stored result.resp (process.responses which))) := by
        simp only [raNetwork, bind_run, get_run, sent, modify_run]
        rfl
      rw [bind_of_ok _ _ _ _ _ ran]
      change ledger (store result process.app) =
        recorded (process.events ++ [⟨process.provider, request, calls, result⟩])
      rw [recorded_append, ← tallied]
      funext other
      rw [stores, record_asked _ _ _ asked]
      rfl

theorem sendMsg0_tallied : Preserves Tallied (sendMsg0 table build primitives env) := by
  apply send_tallied
  · rfl
  · intro result frame other
    cases result.resp.join.isSome <;> cases other <;>
      simp [ledger, Ledger.answered, Response.resource, AppFrame.holds]

theorem sendMsg1_tallied : Preserves Tallied (sendMsg1 table build primitives env) := by
  apply send_tallied
  · rfl
  · intro result frame other
    cases given : result.resp.join <;> cases other <;>
      simp [ledger, Ledger.answered, Response.resource, AppFrame.holds]

theorem configure_tallied : Preserves Tallied (configure table build primitives env) := by
  have fails : Preserves Tallied (onApp AttestationApp.fail : Breakable Fault (Process World) Unit) :=
    onApp_tallied _ fail_keeps
  have leaves : Preserves Tallied (leaveWith id : Breakable Fault (Process World) Unit) :=
    preserves_leaveWith _ fun _ => id
  unfold configure
  apply preserves_guard fails
  apply preserves_bind
  · apply changeApp_tallied
    intro frame
    apply ledger_grow _ _ _ rfl
    · intro which
      cases which <;> simp [Response.resource]
    · intro which
      cases which <;> rfl
  intro _
  apply preserves_bind sendMsg0_tallied
  intro _
  apply preserves_get_bind
  intro process
  apply preserves_guard leaves
  apply preserves_bind (readBody_tallied _)
  intro _
  apply preserves_bind (readBody_tallied _)
  intro body
  apply preserves_bind (changeApp_tallied _ fun frame => ledger_setRet frame _)
  intro _
  exact preserves_get_bind fun _ => preserves_ite fails (preserves_pure _)

theorem exchange_tallied : Preserves Tallied (exchange table build primitives env) := by
  have leaves : Preserves Tallied (leaveWith id : Breakable Fault (Process World) Unit) :=
    preserves_leaveWith _ fun _ => id
  unfold exchange
  apply preserves_bind sendMsg1_tallied
  intro _
  apply preserves_get_bind
  intro process
  apply preserves_guard leaves
  apply preserves_bind (readFrom_tallied _ _ _)
  intro type
  apply preserves_guard leaves
  apply preserves_bind (readSize_tallied _)
  intro size
  exact preserves_bind (readFrom_tallied _ _ _) fun _ => preserves_pure _

theorem makeMsg3_tallied : Preserves Tallied (makeMsg3 env : Breakable Fault (Process World) Unit) := by
  have fails : Preserves Tallied (onApp AttestationApp.fail : Breakable Fault (Process World) Unit) :=
    onApp_tallied _ fail_keeps
  have processes : ∀ k, Preserves Tallied (procMsg2 env k) := by
    intro k
    apply preserves_bind (readBody_tallied _)
    intro body
    apply preserves_bind (changeApp_tallied _ (sgxRaProcMsg2Ex_ledger _ k))
    intro _
    exact preserves_get_bind fun _ => preserves_pure _
  unfold makeMsg3
  apply preserves_bind (preserves_retryWhile processes 2 0)
  intro _
  apply preserves_get_bind
  intro process
  apply preserves_guard fails
  exact preserves_ite fails (preserves_pure _)

theorem attest_tallied : Preserves Tallied (attest table build primitives env) := by
  unfold attest
  apply preserves_bind configure_tallied
  intro _
  apply preserves_bind (onApp_tallied _ (startRa_keeps _))
  intro _
  apply preserves_bind (onApp_tallied _ (makeMsg1_keeps _))
  intro _
  apply preserves_bind exchange_tallied
  intro _
  exact makeMsg3_tallied

theorem initial_tallied : Tallied (Process.initial : Process World) := by
  funext which
  cases which <;> rfl

end Process

section Conservation

variable {table : List (SampleExtendedEpidGroup World)} {build : Build} {primitives : Primitives}
  {env : Surroundings World} {first second : NetworkResult}

structure Held (ledgers : Response → Ledger) (delivered : Nat) : Prop where
  freed : ∀ which, (ledgers which).freed = 0
  once : ∀ which, (ledgers which).obtained = if (ledgers which).held = true then 1 else 0
  total : (ledgers .msg0Resp).obtained + (ledgers .msg2).obtained = delivered

theorem Held.le_one {ledgers : Response → Ledger} {delivered : Nat} (held : Held ledgers delivered)
    (which : Response) : (ledgers which).obtained ≤ 1 := by
  rw [held.once]
  split
  · exact le_rfl
  · exact Nat.zero_le 1

theorem Held.record {ledgers : Response → Ledger} {delivered : Nat} (held : Held ledgers delivered)
    (event : Event World) (which : Response) (asked : event.request.type = which.request)
    (fresh : (ledgers which).held = false) :
    Held (record ledgers event) (delivered + if delivers event then 1 else 0) := by
  have none : (ledgers which).obtained = 0 := by
    rw [held.once, fresh]
    rfl
  constructor
  · intro other
    rw [record_asked _ _ _ asked]
    split
    · exact held.freed which
    · exact held.freed other
  · intro other
    rw [record_asked _ _ _ asked]
    split
    · rw [Ledger.answered, none, Nat.zero_add]
    · exact held.once other
  · rw [record_asked _ _ _ asked, record_asked _ _ _ asked, ← held.total]
    cases which with
    | msg0Resp =>
        rw [if_pos rfl, if_neg (by decide), Ledger.answered]
        exact Nat.add_right_comm _ _ _
    | msg2 =>
        rw [if_pos rfl, if_neg (by decide), Ledger.answered]
        exact (Nat.add_assoc _ _ _).symm

theorem recorded_held (events : List (Event World))
    (sent : events <+: [env.msg0Event first, env.msg1Event first second]) :
    Held (recorded events) (events.countP delivers) := by
  have none : Held (recorded ([] : List (Event World))) 0 := ⟨fun _ => rfl, fun _ => rfl, rfl⟩
  have one := none.record (env.msg0Event first) .msg0Resp rfl rfl
  -- The answer to MSG0 is in its own variable, so the one of MSG1 finds its ledger blank.
  have notMsg2 : recorded [env.msg0Event first] .msg2 = ⟨0, 0, false⟩ :=
    record_asked _ (env.msg0Event first) .msg0Resp rfl .msg2
  have two := one.record (env.msg1Event first second) .msg2 rfl (congrArg Ledger.held notMsg2)
  rcases List.prefix_cons_iff.mp sent with rfl | ⟨rest, rfl, later⟩
  · exact none
  · rcases List.prefix_cons_iff.mp later with rfl | ⟨rest, rfl, done⟩
    · rw [List.countP_singleton]
      rwa [Nat.zero_add] at one
    · rw [List.prefix_nil.mp done, List.countP_cons, List.countP_singleton, Nat.add_comm]
      rwa [Nat.zero_add] at two

theorem releases_counts (frame : AppFrame) (which : Response) (ledgers : Response → Ledger)
    (delivered : Nat) (held : Held ledgers delivered) (same : ledger frame = ledgers) :
    (frame.events ++ releases frame).count (.obtained which.resource) = (ledgers which).obtained ∧
      (frame.events ++ releases frame).count (.freed which.resource) = (ledgers which).obtained := by
  subst same
  have released : (releases frame).count (.obtained which.resource) = 0 := by
    rw [List.count_eq_zero]
    intro member
    cases releases_acquires frame _ member
  constructor
  · rw [List.count_append, released]
    rfl
  · have none : frame.events.count (.freed which.resource) = 0 := held.freed which
    rw [List.count_append, none, freed_count, Nat.zero_add, held.once]
    rfl

theorem succeed_delivers (answers : Answers table build primitives env first second)
    (succeed : AllSucceed answers.calls) :
    [env.msg0Event first, env.msg1Event first second].countP delivers = 2 := by
  obtain ⟨⟨⟨_, answered, _⟩, _, _, _, type⟩, _⟩ := succeed
  have msg0 : delivers (env.msg0Event first) = true := answers.calls.sendMsg0.delivers answered
  have msg2 : delivers (env.msg1Event first second) = true := by
    obtain ⟨response, given, _⟩ := Option.map_eq_some_iff.mp type
    exact Option.isSome_iff_exists.mpr ⟨response, given⟩
  rw [List.countP_cons_of_pos msg0, List.countP_cons_of_pos msg2, List.countP_nil]

/-- The events at the exit are those of the body, followed by `CLEANUP` unless every
call succeeds. -/
theorem main_exit (answers : Answers table build primitives env first second)
    (exit : ProcessExit World) (ran : main table build primitives env = .ok exit) :
    Tallied exit.process ∧
      ((AllSucceed answers.calls ∧ exit.app.events = exit.process.app.events ∧
          exit.process.events = [env.msg0Event first, env.msg1Event first second]) ∨
        (¬ AllSucceed answers.calls ∧
          exit.app.events = exit.process.app.events ++ releases exit.process.app)) := by
  have tallied : Tallied (last (attest table build primitives env Process.initial)) :=
    attest_tallied _ initial_tallied
  rw [main] at ran
  rcases attest_cases answers with
    ⟨succeed, process, went, _, after, _⟩ | ⟨failed, process, _, left, _, _⟩
  · rw [went] at ran tallied
    cases ran
    exact ⟨tallied, Or.inl ⟨succeed, rfl, after.events⟩⟩
  · rw [left] at ran tallied
    cases ran
    exact ⟨tallied, Or.inr ⟨failed, cleanup_events _ _⟩⟩

/-- Of the provider's calls and the events of `main`: every block that is allocated is
freed by the provider or obtained by `main`; a response is obtained at most once, and
freed if it was, unless MSG3 was produced: then both were obtained and neither is freed. -/
structure Conserved (calls : List SpCall) (events : List AppEvent) : Prop where
  heap : calls.countP allocates = calls.countP frees +
    (events.count (.obtained .msg0RespFull) + events.count (.obtained .msg2Full))
  once : ∀ which : Response, events.count (.obtained which.resource) ≤ 1
  freed : .processed .success true ∉ events → ∀ which : Response,
    events.count (.freed which.resource) = events.count (.obtained which.resource)
  kept : .processed .success true ∈ events → ∀ which : Response,
    events.count (.obtained which.resource) = 1 ∧ events.count (.freed which.resource) = 0

theorem answered_conserved (answers : Answers table build primitives env first second) :
    ∃ exit, main table build primitives env = .ok exit ∧
      Conserved (history exit.process.events) exit.app.events := by
  obtain ⟨exit, ran, app, ended, _⟩ := main_simulates answers
  have heap := (ended.run.invariant (fun events _ =>
    Settled (history events) (events.countP delivers)) ⟨rfl, rfl⟩ settled_step).heap
  have held := recorded_held exit.process.events ended.sent
  have msg3 : .processed .success true ∈ exit.app.events ↔ AllSucceed answers.calls := by
    rw [app, main_msg3]
  refine ⟨exit, ran, ?_⟩
  -- What the provider has given away is what the requests delivered; by the ledgers that is
  -- what `main` obtained. Only a `main` that goes through does not release it.
  obtain ⟨tallied, ⟨succeed, events, sent⟩ | ⟨failed, events⟩⟩ := main_exit answers exit ran
  · have obtained := fun which => congrArg Ledger.obtained (congrFun tallied which)
    have freed := fun which => congrArg Ledger.freed (congrFun tallied which)
    have both := succeed_delivers answers succeed
    rw [← sent, ← held.total] at both
    rw [events] at msg3 ⊢
    constructor
    · rw [heap, ← held.total, ← obtained, ← obtained]
      rfl
    · exact fun which => (obtained which).le.trans (held.le_one which)
    · exact fun notMade => (notMade (msg3.mpr succeed)).elim
    · intro _ which
      refine ⟨(obtained which).trans ?_, (freed which).trans (held.freed which)⟩
      have msg0Once := held.le_one .msg0Resp
      have msg2Once := held.le_one .msg2
      cases which <;> omega
  · have counts := fun which => releases_counts exit.process.app which _ _ held tallied
    rw [events] at msg3 ⊢
    constructor
    · rw [heap, ← held.total, ← (counts .msg0Resp).1, ← (counts .msg2).1]
      rfl
    · exact fun which => (counts which).1.le.trans (held.le_one which)
    · exact fun _ which => (counts which).2.trans (counts which).1.symm
    · exact fun made => (failed (msg3.mp made)).elim

/-- The blocks of a whole process, provider and application, unless the MSG1 it sends
overruns its response: that is where it ends. -/
theorem linked_blocks_conserved (table : List (SampleExtendedEpidGroup World)) (build : Build)
    (primitives : Primitives) (env : Surroundings World) :
    ∃ first, Handles table build primitives (env.msg0Event first) ∧
      ((Overrunning table build env first ∧
          main table build primitives env = .error .outOfBlock) ∨
        (¬ Overrunning table build env first ∧ ∃ exit,
          main table build primitives env = .ok exit ∧
          Conserved (history exit.process.events) exit.app.events)) := by
  obtain ⟨first, handled0⟩ := first_exists table build primitives env
  refine ⟨first, handled0, ?_⟩
  by_cases overruns : Overrunning table build env first
  · exact Or.inl ⟨overruns, main_overruns handled0 overruns⟩
  · obtain ⟨second, answers⟩ := answers_exist handled0 overruns
    exact Or.inr ⟨overruns, answered_conserved answers⟩

end Conservation

end SgxExperiments.LinkedMain
