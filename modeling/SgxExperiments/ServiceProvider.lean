import SgxExperiments.BreakableBlock
import SgxExperiments.KeyDerivation

/-!
service_provider.cpp as the application reaches it: the globals,
`sp_ra_proc_msg0_req` and `sp_ra_proc_msg1_req`, with the simulated attestation
server of ias_ra.cpp as one table of groups. The table is a parameter, as is
everything the handlers call; a request comes with the outcome of each such
call. A store outside the response block ends the process. `ps_sec_prop`, the MSG3
code (commented out in the source) and the diagnostics are left out.
-/

namespace SgxExperiments.ServiceProvider

open ByteMemory BreakableBlock KeyDerivation

section Data

inductive SpRaMsgStatus where
  | ok
  | unsupportedExtendedEpidGroup
  | integrityFailed
  | quoteVerificationFailed
  | iasFailed
  | internalError
  | protocolError
  | quoteVersionError

def SpRaMsgStatus.code : SpRaMsgStatus → Int
  | .ok => 0
  | .unsupportedExtendedEpidGroup => 1
  | .integrityFailed => 2
  | .quoteVerificationFailed => 3
  | .iasFailed => 4
  | .internalError => 5
  | .protocolError => 6
  | .quoteVersionError => 7

abbrev SampleEcPub := Bytes 64

abbrev SampleEcPriv := Bytes 32

abbrev SampleSpid := Bytes 16

abbrev SampleEpidGroupId := Bytes 4

abbrev SampleEcSign256 := Bytes 64

structure SampleRaMsg0 where
  extendedEpidGroupId : UInt32

structure SampleRaMsg1 where
  gA : SampleEcPub
  gid : SampleEpidGroupId

-- the sizeof of each message and of both headers
def sampleRaMsg0Size : Nat := 4
def sampleRaMsg1Size : Nat := 68
def sampleRaMsg2Size : Nat := 168
def headerSize : Nat := 8

-- `ra_msg_type_t`
def typeRaMsg0 : UInt8 := 0
def typeRaMsg1 : UInt8 := 1
def typeRaMsg2 : UInt8 := 2

structure SpDbItem where
  gA : SampleEcPub
  gB : SampleEcPub
  vkKey : EcKey128
  mkKey : EcKey128
  skKey : EcKey128
  smkKey : EcKey128
  b : SampleEcPriv

def SpDbItem.zero : SpDbItem :=
  ⟨zeroBytes 64, zeroBytes 64, zeroBytes 16, zeroBytes 16, zeroBytes 16, zeroBytes 16, zeroBytes 32⟩

/-- The globals. The group pointer is an index into the table, `none` is NULL. -/
structure Provider where
  gSpDb : SpDbItem
  gSpExtendedEpidGroupId : Option Nat
  gIsSpRegistered : Bool
  gSpCredentials : Int
  gAuthenticationToken : Int
  gSpid : SampleSpid

def startUp : Provider := ⟨SpDbItem.zero, none, false, 0, 0, zeroBytes 16⟩

structure SigRl where
  bytes : List UInt8
  short : bytes.length < 2 ^ 32

def SigRl.size (sigRl : SigRl) : UInt32 := UInt32.ofNat sigRl.bytes.length

structure EnrollResult where
  ret : Int
  spid : SampleSpid
  authenticationToken : Int

structure GetSigrlResult where
  ret : Int
  sigRl : SigRl

/-- A table entry. What the attestation server answers may depend on its own
state at the time, and on what the output pointers held. -/
structure SampleExtendedEpidGroup (World : Type) where
  extendedEpidGroupId : UInt32
  enroll : World → Int → SampleSpid → Int → EnrollResult
  getSigrl : World → SampleEpidGroupId → GetSigrlResult

end Data

section Constants

def gSimSpid : SampleSpid :=
  fun i => (text [ 'S', 'e', 'r', 'v', 'i', 'c', 'e', ' ', 'X']).getD i 0

variable (World : Type)

def iasEnroll : World → Int → SampleSpid → Int → EnrollResult :=
  fun _ _ _ token => ⟨0, gSimSpid, token⟩

def iasGetSigrl : World → SampleEpidGroupId → GetSigrlResult :=
  fun _ _ => ⟨0, ⟨[], by decide⟩⟩

def gExtendedEpidGroups : List (SampleExtendedEpidGroup World) :=
  [⟨0, iasEnroll World, iasGetSigrl World⟩]

def gSpPrivKey : SampleEcPriv := bytesOfList [
  0x90, 0xe7, 0x6c, 0xbb, 0x2d, 0x52, 0xa1, 0xce,
  0x3b, 0x66, 0xde, 0x11, 0x43, 0x9c, 0x87, 0xec,
  0x1f, 0x86, 0x6a, 0x3b, 0x65, 0xb6, 0xae, 0xea,
  0xad, 0x57, 0x34, 0x53, 0xd1, 0x03, 0x8c, 0x01]

-- 264 bytes: all zero after the first six lines but for bytes 62 and 162
def gEcdsaP256AttKeyIdList : List UInt8 := [
  0x00, 0x00, 0x00, 0x00, 0x01, 0x00, 0x00, 0x00,
  0x00, 0x00, 0x00, 0x00, 0x20, 0x00, 0x8c, 0x4f,
  0x57, 0x75, 0xd7, 0x96, 0x50, 0x3e, 0x96, 0x13,
  0x7f, 0x77, 0xc6, 0x8a, 0x82, 0x9a, 0x00, 0x56,
  0xac, 0x8d, 0xed, 0x70, 0x14, 0x0b, 0x08, 0x1b,
  0x09, 0x44, 0x90, 0xc5, 0x7b, 0xff, 0x00, 0x00] ++
  List.replicate 14 0x00 ++ [0x01] ++ List.replicate 99 0x00 ++ [0x02] ++ List.replicate 101 0x00

def sampleQuoteLinkableSignature : Nat := 1

def kdfId : Build → UInt16
  | .suppliedKeyDerivation => 2
  | .defaultKeyDerivation => 1

end Constants

/-- The calls a handler makes, with their outcome, in order; `derivation` is a heap
call of `derive_key`. -/
inductive SpCall where
  | enroll (group : Nat) (ret : Int)
  | openContext (opened : Bool)
  | closeContext
  | getSigrl (group : Nat) (ret : Int)
  | malloc (size : Nat) (obtained : Bool)
  | free
  | derivation (call : HeapCall)
  deriving DecidableEq

inductive Fault where
  | nullPointer
  | wildPointer
  | uninitialisedRead
  | outOfBlock

/-- What a handler returns, what it stored through its output pointer (`none`:
nothing; `some none`: NULL), and what it left and did. -/
structure HandlerResult where
  ret : Int
  response : Option (Option Block)
  provider : Provider
  calls : List SpCall

variable {World : Type}

section Msg0

structure Msg0Frame where
  provider : Provider
  ret : Int
  msg0RespFull : Option Block
  calls : List SpCall

structure Msg0Calls (World : Type) where
  world : World
  malloc : Nat → Bool

def mustSelect (table : List (SampleExtendedEpidGroup World)) (provider : Provider)
    (extendedEpidGroupId : UInt32) : Except Fault Bool :=
  if provider.gIsSpRegistered = false then .ok true
  else match provider.gSpExtendedEpidGroupId with
    | none => .ok false
    | some i => match table[i]? with
      | none => .error .wildPointer
      | some group => .ok (decide (group.extendedEpidGroupId ≠ extendedEpidGroupId))

def enrollGroup (world : World) (i : Nat) (group : SampleExtendedEpidGroup World) :
    Breakable Fault Msg0Frame Unit := do
  modify fun frame => { frame with provider.gSpExtendedEpidGroupId := some i }
  let provider := (← get).provider
  let enrolled := group.enroll world provider.gSpCredentials provider.gSpid
    provider.gAuthenticationToken
  modify fun frame => { frame with
    provider.gSpid := enrolled.spid
    provider.gAuthenticationToken := enrolled.authenticationToken
    ret := enrolled.ret
    calls := frame.calls ++ [.enroll i enrolled.ret] }
  if enrolled.ret ≠ 0 then
    leaveWith fun frame => { frame with ret := SpRaMsgStatus.iasFailed.code }
  modify fun frame => { frame with provider.gIsSpRegistered := true }

def selectGroup (world : World) (extendedEpidGroupId : UInt32) :
    Nat → List (SampleExtendedEpidGroup World) → Breakable Fault Msg0Frame Unit
  | _, [] => pure ()
  | i, group :: rest =>
      if group.extendedEpidGroupId = extendedEpidGroupId then enrollGroup world i group
      else selectGroup world extendedEpidGroupId (i + 1) rest

def selectIfNeeded (table : List (SampleExtendedEpidGroup World)) (world : World)
    (extendedEpidGroupId : UInt32) : Breakable Fault Msg0Frame Unit := do
  let provider := (← get).provider
  match mustSelect table provider extendedEpidGroupId with
  | .error cause => faultWith cause
  | .ok false => pure ()
  | .ok true =>
      modify fun frame =>
        { frame with ret := SpRaMsgStatus.unsupportedExtendedEpidGroup.code }
      selectGroup world extendedEpidGroupId 0 table

def msg0RespSize : UInt32 := UInt32.ofNat gEcdsaP256AttKeyIdList.length

def msg0Response : Block :=
  let cleared := Block.zeroed (msg0RespSize.toNat + headerSize)
  let filled := (memcpyS msg0RespSize.toNat msg0RespSize.toNat cleared
    (cleared.store headerSize (bytesOfList gEcdsaP256AttKeyIdList))).2
  (((filled.store 0 (fun _ : Fin 1 => typeRaMsg0)).store 3 (littleEndian 4 msg0RespSize.toNat)).store
    1 (zeroBytes 1)).store 2 (zeroBytes 1)

/-- The reply is built whatever `ret` says by then, and its outcome replaces it. -/
def respondMsg0 (malloc : Nat → Bool) : Breakable Fault Msg0Frame Unit := do
  let size := msg0RespSize.toNat + headerSize
  modify fun frame => { frame with calls := frame.calls ++ [.malloc size (malloc size)] }
  if malloc size = false then
    modify fun frame => { frame with ret := SpRaMsgStatus.internalError.code }
  else
    modify fun frame =>
      { frame with msg0RespFull := some msg0Response, ret := SpRaMsgStatus.ok.code }

-- CLEANUP
def cleanupMsg0 (frame : Msg0Frame) : HandlerResult :=
  if frame.ret ≠ 0 then
    { ret := frame.ret
      response := some none
      provider := frame.provider
      calls := frame.calls ++ (if frame.msg0RespFull.isSome then [.free] else []) }
  else ⟨frame.ret, some frame.msg0RespFull, frame.provider, frame.calls⟩

def spRaProcMsg0Req (table : List (SampleExtendedEpidGroup World)) (calls : Msg0Calls World)
    (provider : Provider) (pMsg0 : Option SampleRaMsg0) (msg0Size : UInt32) (ppMsg0Resp : Bool) :
    Except Fault HandlerResult :=
  match pMsg0 with
  | none => .ok ⟨-1, none, provider, []⟩
  | some msg0 =>
      if ppMsg0Resp = false ∨ msg0Size.toNat ≠ sampleRaMsg0Size then
        .ok ⟨-1, none, provider, []⟩
      else
        let block := do
          selectIfNeeded table calls.world msg0.extendedEpidGroupId
          respondMsg0 calls.malloc
        conclude cleanupMsg0 (block ⟨provider, -1, none, []⟩)

end Msg0

section Msg1

structure Msg1Frame where
  provider : Provider
  ret : Int
  msg2Full : Option Block
  eccState : Bool
  calls : List SpCall

/-- How the calls of one MSG1 end; `none` is any status but SAMPLE_SUCCESS. -/
structure Msg1Calls (World : Type) where
  world : World
  openContext : Bool
  createKeyPair : Option (SampleEcPriv × SampleEcPub)
  computeSharedDhkey : SampleEcPriv → SampleEcPub → Option EcDhShared
  sha : Supplied.SampleDeriveKeyType → ShaCalls
  derive : Default.SampleDeriveKeyType → Default.DeriveKeyCalls
  malloc : Nat → Bool
  ecdsaSign : List UInt8 → SampleEcPriv → Option SampleEcSign256
  cmac : CmacCall

variable {α : Type}

def breakWith (code : Int) : Breakable Fault Msg1Frame α :=
  leaveWith fun frame => { frame with ret := code }

def saveField (numberOfElements count : Nat) (copied : SpDbItem → SpDbItem) :
    Breakable Fault Msg1Frame Unit := do
  let db := (← get).provider.gSpDb
  let outcome := memcpyS numberOfElements count db (copied db)
  modify fun frame => { frame with provider.gSpDb := outcome.2 }
  if outcome.1 ≠ 0 then breakWith SpRaMsgStatus.internalError.code

def openContext (calls : Msg1Calls World) : Breakable Fault Msg1Frame Unit := do
  modify fun frame => { frame with
    eccState := calls.openContext
    calls := frame.calls ++ [.openContext calls.openContext] }
  if calls.openContext = false then breakWith (-1)

def succeeded : Option α → Breakable Fault Msg1Frame α
  | none => breakWith SpRaMsgStatus.internalError.code
  | some value => pure value

def getSigrl (table : List (SampleExtendedEpidGroup World)) (world : World)
    (gid : SampleEpidGroupId) : Breakable Fault Msg1Frame SigRl := do
  match (← get).provider.gSpExtendedEpidGroupId with
  | none => faultWith .nullPointer
  | some i => match table[i]? with
    | none => faultWith .wildPointer
    | some group =>
        let answer := group.getSigrl world gid
        modify fun frame => { frame with
          ret := answer.ret
          calls := frame.calls ++ [.getSigrl i answer.ret] }
        if answer.ret ≠ 0 then breakWith SpRaMsgStatus.iasFailed.code
        pure answer.sigRl

def deriveTwo (primitives : Primitives) (calls : Msg1Calls World) (dhKey : EcDhShared)
    (key : Supplied.SampleDeriveKeyType) (written : EcKey128 → EcKey128 → SpDbItem → SpDbItem) :
    Breakable Fault Msg1Frame Unit := do
  let keys ← succeeded
    (Supplied.deriveKey primitives.sha256 (calls.sha key) dhKey key.keyId)
  modify fun frame =>
    { frame with provider.gSpDb := written keys.1 keys.2 frame.provider.gSpDb }

def deriveOne (primitives : Primitives) (calls : Msg1Calls World) (dhKey : EcDhShared)
    (key : Default.SampleDeriveKeyType) (written : EcKey128 → SpDbItem → SpDbItem) :
    Breakable Fault Msg1Frame Unit := do
  let result := Default.deriveKey primitives.cmac (calls.derive key) dhKey key.keyId
  modify fun frame => { frame with
    provider.gSpDb := match result.derivedKey with
      | none => frame.provider.gSpDb
      | some derivedKey => written derivedKey frame.provider.gSpDb
    calls := frame.calls ++ result.calls.map .derivation }
  if result.returned = false then breakWith SpRaMsgStatus.internalError.code

def deriveKeys (build : Build) (primitives : Primitives) (calls : Msg1Calls World)
    (dhKey : EcDhShared) : Breakable Fault Msg1Frame Unit :=
  match build with
  | .suppliedKeyDerivation => do
      deriveTwo primitives calls dhKey .smkSk
        fun first second db => { db with smkKey := first, skKey := second }
      deriveTwo primitives calls dhKey .mkVk
        fun first second db => { db with mkKey := first, vkKey := second }
  | .defaultKeyDerivation => do
      deriveOne primitives calls dhKey .smk fun key db => { db with smkKey := key }
      deriveOne primitives calls dhKey .mk fun key db => { db with mkKey := key }
      deriveOne primitives calls dhKey .sk fun key db => { db with skKey := key }
      deriveOne primitives calls dhKey .vk fun key db => { db with vkKey := key }

def msg2Size (sigRl : SigRl) : UInt32 := UInt32.ofNat sampleRaMsg2Size + sigRl.size

def msg2Header (size : UInt32) : Block :=
  ((((Block.zeroed (size.toNat + headerSize)).store 0 (fun _ : Fin 1 => typeRaMsg2)).store 3
    (littleEndian 4 size.toNat)).store 1 (zeroBytes 1)).store 2 (zeroBytes 1)

def allocateMsg2 (malloc : Nat → Bool) (size : UInt32) : Breakable Fault Msg1Frame Unit := do
  let blockSize := size.toNat + headerSize
  modify fun frame =>
    { frame with calls := frame.calls ++ [.malloc blockSize (malloc blockSize)] }
  if malloc blockSize = false then breakWith SpRaMsgStatus.internalError.code
  modify fun frame => { frame with msg2Full := some (msg2Header size) }

def msg2Full : Breakable Fault Msg1Frame Block := do
  match (← get).msg2Full with
  | none => faultWith .nullPointer
  | some block => pure block

/-- A store to the body of `p_msg2_full`. One that goes beyond the block is the last
thing the process does. -/
def storeMsg2 {n : Nat} (offset : Nat) (bytes : Bytes n) : Breakable Fault Msg1Frame Unit := do
  let block ← msg2Full
  modify fun frame => { frame with msg2Full := some (block.store (headerSize + offset) bytes) }
  if block.size < headerSize + offset + n then faultWith .outOfBlock

def copyMsg2 {n : Nat} (offset numberOfElements : Nat) (bytes : Bytes n) :
    Breakable Fault Msg1Frame Unit := do
  let outcome := memcpyS numberOfElements n (pure ()) (storeMsg2 offset bytes)
  outcome.2
  if outcome.1 ≠ 0 then breakWith SpRaMsgStatus.internalError.code

-- offsets in `sample_ra_msg2_t`: g_b 0, spid 64, quote_type 80, kdf_id 82,
-- sign_gb_ga 84, mac 148, sig_rl_size 164, sig_rl 168

def gbGa (db : SpDbItem) : Block := ((Block.zeroed 128).store 0 db.gB).store 64 db.gA

def fillMsg2 (build : Build) (primitives : Primitives) (calls : Msg1Calls World) (sigRl : SigRl) :
    Breakable Fault Msg1Frame Unit := do
  let provider := (← get).provider
  copyMsg2 0 64 provider.gSpDb.gB
  copyMsg2 64 16 provider.gSpid
  storeMsg2 80 (littleEndian 2 sampleQuoteLinkableSignature)
  storeMsg2 82 (littleEndian 2 (kdfId build).toNat)
  let signature ← succeeded
    (calls.ecdsaSign (List.ofFn ((gbGa provider.gSpDb).load 0 128)) gSpPrivKey)
  storeMsg2 84 signature
  let block ← msg2Full
  let mac ← succeeded (match calls.cmac with
    | .failure _ => none
    | .success => some (primitives.cmac provider.gSpDb.smkKey
        (List.ofFn (block.load (headerSize + 0) 148))))
  copyMsg2 148 16 mac
  copyMsg2 168 sigRl.size.toNat (bytesOfList sigRl.bytes)
  storeMsg2 164 (littleEndian 4 sigRl.size.toNat)

def prepareMsg2 (table : List (SampleExtendedEpidGroup World)) (build : Build)
    (primitives : Primitives) (calls : Msg1Calls World) (msg1 : SampleRaMsg1) :
    Breakable Fault Msg1Frame Unit := do
  saveField 64 64 fun db => { db with gA := msg1.gA }
  openContext calls
  let keyPair ← succeeded calls.createKeyPair
  saveField 32 32 fun db => { db with b := keyPair.1 }
  saveField 64 64 fun db => { db with gB := keyPair.2 }
  let dhKey ← succeeded (calls.computeSharedDhkey keyPair.1 msg1.gA)
  let sigRl ← getSigrl table calls.world msg1.gid
  deriveKeys build primitives calls dhKey
  allocateMsg2 calls.malloc (msg2Size sigRl)
  fillMsg2 build primitives calls sigRl

-- after the `do { … } while (0)`
def finishMsg1 (frame : Msg1Frame) : HandlerResult :=
  let closing := if frame.eccState then [SpCall.closeContext] else []
  if frame.ret ≠ 0 then
    { ret := frame.ret
      response := some none
      provider := frame.provider
      calls := frame.calls ++ (if frame.msg2Full.isSome then [.free] else []) ++ closing }
  else ⟨frame.ret, some frame.msg2Full, frame.provider, frame.calls ++ closing⟩

def spRaProcMsg1Req (table : List (SampleExtendedEpidGroup World)) (build : Build)
    (primitives : Primitives) (calls : Msg1Calls World) (provider : Provider)
    (pMsg1 : Option SampleRaMsg1) (msg1Size : UInt32) (ppMsg2 : Bool) :
    Except Fault HandlerResult :=
  match pMsg1 with
  | none => .ok ⟨-1, none, provider, []⟩
  | some msg1 =>
      if ppMsg2 = false ∨ msg1Size.toNat ≠ sampleRaMsg1Size then .ok ⟨-1, none, provider, []⟩
      else if provider.gIsSpRegistered = false then
        .ok ⟨SpRaMsgStatus.unsupportedExtendedEpidGroup.code, none, provider, []⟩
      else conclude finishMsg1
        (prepareMsg2 table build primitives calls msg1 ⟨provider, 0, none, false, []⟩)

end Msg1

end SgxExperiments.ServiceProvider
