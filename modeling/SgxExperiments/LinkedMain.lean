import SgxExperiments.AppOutcomes
import SgxExperiments.BlockSimulation
import SgxExperiments.ExitStatus
import SgxExperiments.Framing
import SgxExperiments.ProviderLife

/-!
The whole process: `main` of app.cpp with the service provider it is linked with,
and the bytes that pass between them. What is left open is the SDK, the provider's
own calls and `malloc`. The requests sent and every read of a response are
recorded; an access through a NULL response is a fault.
-/

namespace SgxExperiments.AttestationApp

open KeyDerivation ServiceProvider NetworkRa Registration Framing

variable {World : Type} {table : List (SampleExtendedEpidGroup World)} {build : Build}
  {primitives : Primitives}

theorem answered_delivers (events : List (Event World)) (event : Event World)
    (run : Run table build primitives events event.before)
    (handled : Handles table build primitives event) (answered : event.result.ret = 0) :
    ∃ response, event.result.resp = some (some response) ∧
      (event.request.type = typeRaMsg1 → response.byte 0 = typeRaMsg2) := by
  have framed := handled_framed event (run_standing _ events event.before run) handled
  obtain ⟨response, stored, frames⟩ := framed.framed answered
  refine ⟨response, stored, fun isMsg1 => ?_⟩
  rw [frames.type, answerType, isMsg1, if_neg typeRaMsg1_ne]

def Msg0Answer.ofEvent (events : List (Event World)) (event : Event World)
    (run : Run table build primitives events event.before)
    (handled : Handles table build primitives event) : Msg0Answer where
  ret := event.result.ret
  delivered := event.result.resp.join.isSome
  delivers answered := by
    obtain ⟨response, delivered, _⟩ := answered_delivers events event run handled answered
    rw [delivered]
    rfl

def Msg1Answer.ofEvent (event : Event World) : Msg1Answer where
  ret := event.result.ret
  resp := event.result.resp.join.map fun response => response.byte 0

/-- With this provider, neither a NULL nor another type is ever what `main` finds
after a MSG1 that returned 0. -/
theorem msg2Received_iff (calls : AppCalls) (events : List (Event World)) (event : Event World)
    (run : Run table build primitives events event.before)
    (handled : Handles table build primitives event) (isMsg1 : event.request.type = typeRaMsg1)
    (sent : calls.sendMsg1 = Msg1Answer.ofEvent event) :
    Msg2Received calls ↔ event.result.ret = 0 := by
  rw [Msg2Received, sent]
  constructor
  · exact fun received => received.1
  · intro answered
    obtain ⟨response, delivered, type⟩ := answered_delivers events event run handled answered
    refine ⟨answered, ?_⟩
    rw [Msg1Answer.ofEvent, delivered]
    exact congrArg some (type isMsg1)

end SgxExperiments.AttestationApp

namespace SgxExperiments.LinkedMain

open ByteMemory BreakableBlock KeyDerivation ServiceProvider NetworkRa AttestationApp

/-- What the process finds around it. `msg1` is what `sgx_ra_get_msg1_ex` has left in
the buffer when its loop ends; `procMsg2` sees the MSG2 it is given. -/
structure Surroundings (World : Type) where
  mallocMsg0 : Bool
  providerMsg0 : RequestCalls World
  selectAttKeyId : List UInt8 → SgxStatus
  createEnclave : Nat → SgxStatus
  initRa : Nat → InitRa
  mallocMsg1 : Bool
  getMsg1 : Nat → SgxStatus
  msg1 : Nat → UInt8
  providerMsg1 : RequestCalls World
  procMsg2 : Nat → List UInt8 → ProcMsg2
  raClose : RaClose

namespace Surroundings

variable {World : Type}

def calls (env : Surroundings World) (sendMsg0 : Msg0Answer) (msg0Body : List UInt8)
    (sendMsg1 : Msg1Answer) (msg2Body : List UInt8) : AppCalls where
  mallocMsg0 := env.mallocMsg0
  sendMsg0 := sendMsg0
  selectAttKeyId := env.selectAttKeyId msg0Body
  createEnclave := env.createEnclave
  initRa := env.initRa
  mallocMsg1 := env.mallocMsg1
  getMsg1 := env.getMsg1
  sendMsg1 := sendMsg1
  procMsg2 k := env.procMsg2 k msg2Body
  raClose := env.raClose

def sdk (env : Surroundings World) (msg2Body : List UInt8) : AppCalls :=
  env.calls ⟨-1, false, fun answered => by cases answered⟩ [] ⟨-1, none⟩ msg2Body

end Surroundings

inductive Response where
  | msg0Resp
  | msg2
  deriving DecidableEq

structure Process (World : Type) where
  app : AppFrame
  provider : Provider
  events : List (Event World)
  responses : Response → Option Watched

structure ProcessExit (World : Type) where
  app : AppExit
  process : Process World

variable {World : Type}

def Process.initial : Process World := ⟨AppFrame.initial, startUp, [], fun _ => none⟩

def Process.setResponse (process : Process World) (which : Response) (response : Option Watched) :
    Process World :=
  { process with responses := Function.update process.responses which response }

section SetResponse

variable (process : Process World) (which : Response) (response : Option Watched)

@[simp] theorem setResponse_self : (process.setResponse which response).responses which = response :=
  Function.update_self _ _ _

theorem setResponse_other (other : Response) (different : other ≠ which) :
    (process.setResponse which response).responses other = process.responses other :=
  Function.update_of_ne different _ _

end SetResponse

section Requests

def extendedEpidGroupId : Nat := 0

def msg0Request : RaSampRequest :=
  ⟨typeRaMsg0, UInt32.ofNat sampleRaMsg0Size,
    fun i => (List.ofFn (littleEndian 4 extendedEpidGroupId)).getD i 0⟩

def msg1Request (msg1 : Nat → UInt8) : RaSampRequest :=
  ⟨typeRaMsg1, UInt32.ofNat sampleRaMsg1Size, msg1⟩

end Requests

section Model

variable (table : List (SampleExtendedEpidGroup World)) (build : Build) (primitives : Primitives)
  (env : Surroundings World)

def onApp {α : Type} (block : Breakable Empty AppFrame α) : Breakable Fault (Process World) α :=
  within Process.app (fun app process => { process with app := app }) block

def changeApp (change : AppFrame → AppFrame) : Breakable Fault (Process World) Unit :=
  modify fun process => { process with app := change process.app }

/-- `*p_resp` after the call: only a zero result stores to it. -/
def stored (resp : Option (Option Block)) (before : Option Watched) : Option Watched :=
  match resp with
  | none => before
  | some response => response.map fun block => ⟨block, []⟩

def raNetwork (which : Response) (calls : RequestCalls World) (request : RaSampRequest) :
    Breakable Fault (Process World) NetworkResult := do
  let before := (← get).provider
  match raNetworkSendReceive table build primitives calls before true (some request) true with
  | .error cause => faultWith cause
  | .ok result =>
      modify fun process => { process with
        provider := result.provider
        events := process.events ++ [⟨before, request, calls, result⟩] }
      modify fun process =>
        process.setResponse which (stored result.resp (process.responses which))
      pure result

def readFrom (which : Response) (offset n : Nat) : Breakable Fault (Process World) (List UInt8) := do
  match (← get).responses which with
  | none => faultWith .nullPointer
  | some response =>
      modify fun process => process.setResponse which (some (response.read offset n).2)
      pure (List.ofFn (response.read offset n).1)

def readSize (which : Response) : Breakable Fault (Process World) Nat := do
  let bytes ← readFrom which 3 4
  pure (leValue (bytesOfList bytes))

def readBody (which : Response) : Breakable Fault (Process World) (List UInt8) := do
  let size ← readSize which
  readFrom which headerSize size

def sendMsg0 : Breakable Fault (Process World) Unit := do
  let result ← raNetwork table build primitives .msg0Resp env.providerMsg0 msg0Request
  changeApp fun app => { app with
    ret := result.ret
    pMsg0RespFull := result.resp.join.isSome
    events := app.events ++ if result.resp.join.isSome then [.obtained .msg0RespFull] else [] }

/-- MSG0 and the choice of the attestation key. `PRINT_BYTE_ARRAY` and
`sgx_select_att_key_id` both read the body. -/
def configure : Breakable Fault (Process World) Unit := do
  if env.mallocMsg0 = false then onApp fail
  changeApp fun app => { app with pMsg0Full := true, events := app.events ++ [.obtained .msg0Full] }
  sendMsg0 table build primitives env
  if (← get).app.ret ≠ 0 then leaveWith id
  let _ ← readBody .msg0Resp
  let body ← readBody .msg0Resp
  changeApp fun app => { app with ret := asInt (env.selectAttKeyId body) }
  if (← get).app.ret ≠ asInt .success then onApp fail

def sendMsg1 : Breakable Fault (Process World) Unit := do
  let result ← raNetwork table build primitives .msg2 env.providerMsg1 (msg1Request env.msg1)
  changeApp fun app => { app with
    ret := result.ret
    pMsg2Full := result.resp.join.map fun response => response.byte 0
    events := app.events ++ if result.resp.join.isSome then [.obtained .msg2Full] else [] }

def exchange : Breakable Fault (Process World) Unit := do
  sendMsg1 table build primitives env
  let process ← get
  if process.app.ret ≠ 0 ∨ process.app.pMsg2Full = none then leaveWith id
  let type ← readFrom .msg2 0 1
  if type ≠ [typeRaMsg2] then leaveWith id
  let size ← readSize .msg2
  let _ ← readFrom .msg2 0 ((headerSize + size) % 2 ^ 32)

def procMsg2 (k : Nat) : Breakable Fault (Process World) Bool := do
  let body ← readBody .msg2
  changeApp (sgxRaProcMsg2Ex (env.sdk body) k)
  return (← get).app.ret == asInt .errorBusy

-- busy_retry_time = 2
def makeMsg3 : Breakable Fault (Process World) Unit := do
  retryWhile (procMsg2 env) 2 0
  let process ← get
  if process.app.pMsg3 = none then onApp fail
  if process.app.ret ≠ asInt .success then onApp fail

def attest : Breakable Fault (Process World) Unit := do
  configure table build primitives env
  onApp (startRa (env.sdk []))
  onApp (makeMsg1 (env.sdk []))
  exchange table build primitives env
  makeMsg3 env

def main : Except Fault (ProcessExit World) :=
  match attest table build primitives env Process.initial with
  | .ok _ process => .ok ⟨⟨process.app.ret, process.app.events⟩, process⟩
  | .error .leave process => .ok ⟨⟨0, (cleanup (env.sdk []) process.app).events⟩, process⟩
  | .error (.fault cause) _ => .error cause

end Model

end SgxExperiments.LinkedMain
