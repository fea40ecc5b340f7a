import SgxExperiments.ServiceProvider

/-!
app.cpp: `main` from MSG0 to MSG3. The results of everything it calls are given;
a call site in a retry loop has one result for each attempt. What it acquires
and releases is recorded in order.
-/

namespace SgxExperiments.AttestationApp

open BreakableBlock ServiceProvider

abbrev EnclaveId := Option Nat

/-- `msg3` is the buffer that one call of `sgx_ra_proc_msg2_ex` has stored. -/
inductive Resource where
  | msg0Full
  | msg0RespFull
  | msg1Full
  | msg2Full
  | msg3 (attempt : Nat)
  deriving DecidableEq, Repr

/-- `opened` is an `enclave_init_ra` with both its results `SGX_SUCCESS`; `processed`
is a `sgx_ra_proc_msg2_ex` with its result and whether `p_msg3` is not NULL. -/
inductive AppEvent where
  | obtained (resource : Resource)
  | freed (resource : Resource)
  | created (attempt : Nat)
  | destroyed (enclave : EnclaveId)
  | opened (context : UInt32) (enclave : EnclaveId)
  | closed (context : UInt32) (enclave : EnclaveId)
  | processed (ret : SgxStatus) (msg3 : Bool)
  deriving DecidableEq, Repr

def asInt (status : SgxStatus) : Int := status.code.toBitVec.toInt

def intMax : UInt32 := 0x7fffffff

structure Msg0Answer where
  ret : Int
  delivered : Bool
  delivers : ret = 0 → delivered = true

structure Msg1Answer where
  ret : Int
  resp : Option UInt8

/-- An ecall that fails has no inner status; what it leaves in `*p_context` is up to
it. One that returns has copied `*p_context` out, whatever the inner status. -/
inductive InitRa where
  | notEntered (error : SgxStatus) (failed : error ≠ .success) (left : Option UInt32)
  | returned (status : SgxStatus) (context : UInt32)

namespace InitRa

def ret : InitRa → SgxStatus
  | .notEntered error _ _ => error
  | .returned _ _ => .success

def statusAfter (before : SgxStatus) : InitRa → SgxStatus
  | .notEntered _ _ _ => before
  | .returned status _ => status

def contextAfter (before : UInt32) : InitRa → UInt32
  | .notEntered _ _ left => left.getD before
  | .returned _ context => context

def opens (enclave : EnclaveId) : InitRa → List AppEvent
  | .notEntered _ _ _ => []
  | .returned status context => if status = .success then [.opened context enclave] else []

end InitRa

/-- `allocates` tells whether a fresh buffer is stored to `*pp_msg3`. -/
structure ProcMsg2 where
  ret : SgxStatus
  allocates : Bool

structure RaClose where
  ret : SgxStatus
  status : SgxStatus

structure AppCalls where
  mallocMsg0 : Bool
  sendMsg0 : Msg0Answer
  selectAttKeyId : SgxStatus
  createEnclave : Nat → SgxStatus
  initRa : Nat → InitRa
  mallocMsg1 : Bool
  getMsg1 : Nat → SgxStatus
  sendMsg1 : Msg1Answer
  procMsg2 : Nat → ProcMsg2
  raClose : RaClose

/-- The locals of `main`. `p_msg3_full` and `p_att_result_msg_full` are NULL all along. -/
structure AppFrame where
  ret : Int
  enclaveId : EnclaveId
  context : UInt32
  status : SgxStatus
  pMsg0Full : Bool
  pMsg0RespFull : Bool
  pMsg1Full : Bool
  pMsg2Full : Option UInt8
  pMsg3 : Option Nat
  events : List AppEvent

namespace AppFrame

def initial : AppFrame where
  ret := 0
  enclaveId := none
  context := intMax
  status := .success
  pMsg0Full := false
  pMsg0RespFull := false
  pMsg1Full := false
  pMsg2Full := none
  pMsg3 := none
  events := []

def holds (frame : AppFrame) : Resource → Bool
  | .msg0Full => frame.pMsg0Full
  | .msg0RespFull => frame.pMsg0RespFull
  | .msg1Full => frame.pMsg1Full
  | .msg2Full => frame.pMsg2Full.isSome
  | .msg3 k => frame.pMsg3 == some k

end AppFrame

def fail : Breakable Empty AppFrame Unit :=
  leaveWith fun frame => { frame with ret := -1 }

section Calls

variable (calls : AppCalls)

-- what one call does to the variables it is given

def raNetworkMsg0 (frame : AppFrame) : AppFrame :=
  { frame with
    ret := calls.sendMsg0.ret
    pMsg0RespFull := calls.sendMsg0.delivered
    events := frame.events ++
      if calls.sendMsg0.delivered then [.obtained .msg0RespFull] else [] }

def sgxCreateEnclave (k : Nat) (frame : AppFrame) : AppFrame :=
  if calls.createEnclave k = .success then
    { frame with
      ret := asInt .success
      enclaveId := some k
      events := frame.events ++ [.created k] }
  else { frame with ret := asInt (calls.createEnclave k) }

def enclaveInitRa (k : Nat) (frame : AppFrame) : AppFrame :=
  { frame with
    ret := asInt (calls.initRa k).ret
    status := (calls.initRa k).statusAfter frame.status
    context := (calls.initRa k).contextAfter frame.context
    events := frame.events ++ (calls.initRa k).opens frame.enclaveId }

def raNetworkMsg1 (frame : AppFrame) : AppFrame :=
  { frame with
    ret := calls.sendMsg1.ret
    pMsg2Full := calls.sendMsg1.resp
    events := frame.events ++
      if calls.sendMsg1.resp.isSome then [.obtained .msg2Full] else [] }

def sgxRaProcMsg2Ex (k : Nat) (frame : AppFrame) : AppFrame :=
  let pMsg3 := if (calls.procMsg2 k).allocates then some k else frame.pMsg3
  { frame with
    ret := asInt (calls.procMsg2 k).ret
    pMsg3 := pMsg3
    events := frame.events ++
      (if (calls.procMsg2 k).allocates then [.obtained (.msg3 k)] else []) ++
      [.processed (calls.procMsg2 k).ret pMsg3.isSome] }

def enclaveRaClose (frame : AppFrame) : AppFrame :=
  { frame with
    ret := asInt calls.raClose.ret
    status := if calls.raClose.ret = .success then calls.raClose.status else frame.status
    events := frame.events ++ [.closed frame.context frame.enclaveId] }

end Calls

section Main

variable (calls : AppCalls)

def configure : Breakable Empty AppFrame Unit := do
  if calls.mallocMsg0 = false then fail
  modify fun frame => { frame with pMsg0Full := true, events := frame.events ++ [.obtained .msg0Full] }
  modify (raNetworkMsg0 calls)
  if (← get).ret ≠ 0 then leaveWith id
  modify fun frame => { frame with ret := asInt calls.selectAttKeyId }
  if (← get).ret ≠ asInt .success then fail

def startEnclave (k : Nat) : Breakable Empty AppFrame Bool := do
  modify (sgxCreateEnclave calls k)
  if (← get).ret ≠ asInt .success then fail
  modify (enclaveInitRa calls k)
  return (← get).ret == asInt .errorEnclaveLost

-- enclave_lost_retry_time = 1
def startRa : Breakable Empty AppFrame Unit := do
  retryWhile (startEnclave calls) 1 0
  let frame ← get
  if frame.ret ≠ asInt .success ∨ frame.status ≠ .success then fail

def getMsg1 (k : Nat) : Breakable Empty AppFrame Bool := do
  modify fun frame => { frame with ret := asInt (calls.getMsg1 k) }
  return (← get).ret == asInt .errorBusy

-- busy_retry_time = 4
def makeMsg1 : Breakable Empty AppFrame Unit := do
  if calls.mallocMsg1 = false then fail
  modify fun frame => { frame with pMsg1Full := true, events := frame.events ++ [.obtained .msg1Full] }
  retryWhile (getMsg1 calls) 4 0
  if (← get).ret ≠ asInt .success then fail

/-- Both exits keep `ret`. -/
def exchange : Breakable Empty AppFrame Unit := do
  modify (raNetworkMsg1 calls)
  let frame ← get
  if frame.ret ≠ 0 ∨ frame.pMsg2Full = none then leaveWith id
  if frame.pMsg2Full ≠ some typeRaMsg2 then leaveWith id

def procMsg2 (k : Nat) : Breakable Empty AppFrame Bool := do
  modify (sgxRaProcMsg2Ex calls k)
  return (← get).ret == asInt .errorBusy

-- busy_retry_time = 2
def makeMsg3 : Breakable Empty AppFrame Unit := do
  retryWhile (procMsg2 calls) 2 0
  let frame ← get
  if frame.pMsg3 = none then fail
  if frame.ret ≠ asInt .success then fail

def attest : Breakable Empty AppFrame Unit := do
  configure calls
  startRa calls
  makeMsg1 calls
  exchange calls
  makeMsg3 calls

def closeContext (frame : AppFrame) : AppFrame :=
  let closed := enclaveRaClose calls frame
  if closed.ret ≠ asInt .success ∨ closed.status ≠ .success then { closed with ret := -1 }
  else { closed with ret := frame.ret }

def freeIf (held : Bool) (resource : Resource) : List AppEvent :=
  if held then [.freed resource] else []

def freeMsg3 : Option Nat → List AppEvent
  | none => []
  | some k => [.freed (.msg3 k)]

def cleanup (frame : AppFrame) : AppFrame :=
  let frame := if frame.context ≠ intMax then closeContext calls frame else frame
  { frame with
    pMsg0Full := false
    pMsg0RespFull := false
    pMsg1Full := false
    pMsg2Full := none
    pMsg3 := none
    events := frame.events ++ ([.destroyed frame.enclaveId] ++
      (freeIf frame.pMsg0RespFull .msg0RespFull ++ freeIf frame.pMsg2Full.isSome .msg2Full ++
        freeMsg3 frame.pMsg3 ++ freeIf frame.pMsg1Full .msg1Full ++
        freeIf frame.pMsg0Full .msg0Full)) }

structure AppExit where
  status : Int
  events : List AppEvent

/-- The return statement gives `ret`; running off the end gives 0. -/
def main : AppExit :=
  match attest calls AppFrame.initial with
  | .ok _ frame => ⟨frame.ret, frame.events⟩
  | .error _ frame => ⟨0, (cleanup calls frame).events⟩

end Main

end SgxExperiments.AttestationApp
