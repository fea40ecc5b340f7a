import SgxExperiments.ServiceProvider

/-!
The two parts of MSG1 with loops and branches of their own: the derivation of the
keys, as a list of steps in either build, and the stores to the response, which are
inside its block or the end of the process.
-/

namespace SgxExperiments.ServiceProvider

open ByteMemory BreakableBlock KeyDerivation

variable {World : Type}

section Derivation

/-- One `derive_key` call as seen from the record: whether it succeeds, what it
stores then, and what it leaves otherwise; and the heap calls it makes. -/
structure DeriveStep where
  succeeds : Bool
  stores : SpDbItem → SpDbItem
  leaves : SpDbItem → SpDbItem
  heap : List HeapCall

def runSteps : List DeriveStep → SpDbItem → Bool × SpDbItem
  | [], db => (true, db)
  | step :: rest, db => if step.succeeds then runSteps rest (step.stores db) else (false, step.leaves db)

def stepsLog : List DeriveStep → List SpCall
  | [] => []
  | step :: rest =>
      step.heap.map .derivation ++ if step.succeeds then stepsLog rest else []

def storeKey : Default.SampleDeriveKeyType → EcKey128 → SpDbItem → SpDbItem
  | .smk, key, db => { db with smkKey := key }
  | .mk, key, db => { db with mkKey := key }
  | .sk, key, db => { db with skKey := key }
  | .vk, key, db => { db with vkKey := key }

def defaultStep (primitives : Primitives) (calls : Default.DeriveKeyCalls) (secret : EcDhShared)
    (key : Default.SampleDeriveKeyType) : DeriveStep where
  succeeds := calls.succeed
  stores := storeKey key (primitives.cmac (primitives.cmac (zeroBytes 16) (List.ofFn secret))
    (cmacInput key.label))
  leaves db := match calls.left with
    | none => db
    | some left => storeKey key left db
  heap := calls.heap key.label

/-- The derivation as steps, in the order the code takes them. -/
def deriveSteps (build : Build) (primitives : Primitives) (calls : Msg1Calls World)
    (secret : EcDhShared) : List DeriveStep :=
  let keys := sessionKeys primitives secret build
  match build with
  | .suppliedKeyDerivation =>
      [⟨(calls.sha .smkSk).succeed, fun db => { db with smkKey := keys.smkKey, skKey := keys.skKey },
          id, []⟩,
        ⟨(calls.sha .mkVk).succeed, fun db => { db with mkKey := keys.mkKey, vkKey := keys.vkKey },
          id, []⟩]
  | .defaultKeyDerivation =>
      [.smk, .mk, .sk, .vk].map fun key => defaultStep primitives (calls.derive key) secret key

def SpDbItem.withKeys (db : SpDbItem) (keys : SessionKeys) : SpDbItem :=
  { db with
    smkKey := keys.smkKey, skKey := keys.skKey, mkKey := keys.mkKey, vkKey := keys.vkKey }

theorem deriveSteps_through (build : Build) (primitives : Primitives) (calls : Msg1Calls World)
    (secret : EcDhShared) (db : SpDbItem)
    (through : (runSteps (deriveSteps build primitives calls secret) db).1 = true) :
    (runSteps (deriveSteps build primitives calls secret) db).2 =
      db.withKeys (sessionKeys primitives secret build) := by
  cases build with
  | suppliedKeyDerivation =>
      simp only [deriveSteps, runSteps] at through ⊢
      split_ifs at through ⊢ with first second
      rfl
  | defaultKeyDerivation =>
      simp only [deriveSteps, List.map_cons, List.map_nil, runSteps] at through ⊢
      split_ifs at through ⊢ with smk mk sk vk
      rfl

def takeStep (step : DeriveStep) : Breakable Fault Msg1Frame Unit := fun frame =>
  if step.succeeds then .ok () { frame with
    provider.gSpDb := step.stores frame.provider.gSpDb
    calls := frame.calls ++ step.heap.map .derivation }
  else .error .leave { frame with
    ret := SpRaMsgStatus.internalError.code
    provider.gSpDb := step.leaves frame.provider.gSpDb
    calls := frame.calls ++ step.heap.map .derivation }

def takeSteps : List DeriveStep → Breakable Fault Msg1Frame Unit
  | [] => pure ()
  | step :: rest => do
      takeStep step
      takeSteps rest

theorem takeSteps_run (steps : List DeriveStep) (frame : Msg1Frame) :
    takeSteps steps frame =
      if (runSteps steps frame.provider.gSpDb).1 then .ok () { frame with
        provider.gSpDb := (runSteps steps frame.provider.gSpDb).2
        calls := frame.calls ++ stepsLog steps }
      else .error .leave { frame with
        ret := SpRaMsgStatus.internalError.code
        provider.gSpDb := (runSteps steps frame.provider.gSpDb).2
        calls := frame.calls ++ stepsLog steps } := by
  induction steps generalizing frame with
  | nil => simp [takeSteps, runSteps, stepsLog]
  | cons step rest ih =>
      by_cases succeeds : step.succeeds
      · simp only [takeSteps, bind_run, takeStep, runSteps, stepsLog, succeeds, if_true]
        rw [ih, List.append_assoc]
      · simp [takeSteps, bind_run, takeStep, runSteps, stepsLog, succeeds]

theorem takeSteps_single (step : DeriveStep) : takeSteps [step] = takeStep step :=
  bind_pure_unit

theorem deriveTwo_step (primitives : Primitives) (calls : Msg1Calls World) (secret : EcDhShared)
    (key : Supplied.SampleDeriveKeyType) (written : EcKey128 → EcKey128 → SpDbItem → SpDbItem) :
    deriveTwo primitives calls secret key written =
      takeStep ⟨(calls.sha key).succeed,
        written (hashedKeys primitives.sha256 secret key.keyId).1
          (hashedKeys primitives.sha256 secret key.keyId).2, id, []⟩ := by
  funext frame
  rw [deriveTwo, supplied_deriveKey_outcome]
  by_cases succeed : (calls.sha key).succeed <;>
    simp [bind_run, succeeded, breakWith, takeStep, succeed]

theorem deriveOne_step (primitives : Primitives) (calls : Msg1Calls World) (secret : EcDhShared)
    (key : Default.SampleDeriveKeyType) :
    deriveOne primitives calls secret key (storeKey key) =
      takeStep (defaultStep primitives (calls.derive key) secret key) := by
  funext frame
  obtain ⟨returned, derived, heap⟩ :=
    default_deriveKey_outcome primitives.cmac (calls.derive key) secret key
  simp only [deriveOne, returned, derived, heap]
  cases succeed : (calls.derive key).succeed with
  | true => simp [bind_run, takeStep, defaultStep, succeed]
  | false =>
      cases left : (calls.derive key).left <;>
        simp [bind_run, takeStep, defaultStep, breakWith, succeed, left]

theorem deriveKeys_steps (build : Build) (primitives : Primitives) (calls : Msg1Calls World)
    (secret : EcDhShared) :
    deriveKeys build primitives calls secret =
      takeSteps (deriveSteps build primitives calls secret) := by
  cases build with
  | suppliedKeyDerivation =>
      simp only [deriveKeys, deriveTwo_step, deriveSteps]
      rw [takeSteps, takeSteps_single]
      rfl
  | defaultKeyDerivation =>
      have written : deriveKeys .defaultKeyDerivation primitives calls secret =
          (deriveOne primitives calls secret .smk (storeKey .smk) >>= fun _ =>
            deriveOne primitives calls secret .mk (storeKey .mk) >>= fun _ =>
              deriveOne primitives calls secret .sk (storeKey .sk) >>= fun _ =>
                deriveOne primitives calls secret .vk (storeKey .vk)) := rfl
      simp only [written, deriveOne_step, deriveSteps, List.map_cons, List.map_nil]
      rw [takeSteps, takeSteps, takeSteps, takeSteps_single]

def derivationLog (build : Build) (primitives : Primitives) (calls : Msg1Calls World)
    (secret : EcDhShared) : List SpCall :=
  stepsLog (deriveSteps build primitives calls secret)

theorem mem_stepsLog (steps : List DeriveStep) (call : SpCall) (made : call ∈ stepsLog steps) :
    ∃ heap, call = .derivation heap := by
  induction steps with
  | nil => exact (List.not_mem_nil made).elim
  | cons step rest ih =>
      rcases List.mem_append.mp made with first | later
      · obtain ⟨heap, _, same⟩ := List.mem_map.mp first
        exact ⟨heap, same.symm⟩
      · split at later
        · exact ih later
        · exact (List.not_mem_nil later).elim

theorem runSteps_all (steps : List DeriveStep) (db : SpDbItem) :
    (runSteps steps db).1 = steps.all fun step => step.succeeds := by
  induction steps generalizing db with
  | nil => rfl
  | cons step rest ih =>
      cases succeeds : step.succeeds with
      | false => simp [runSteps, succeeds]
      | true =>
          simp only [runSteps, succeeds, if_true, List.all_cons, Bool.true_and]
          exact ih _

theorem defaultSteps_succeed (primitives : Primitives) (calls : Msg1Calls World)
    (secret : EcDhShared) :
    ((deriveSteps .defaultKeyDerivation primitives calls secret).all
      fun step => step.succeeds) = true ↔ ∀ key, (calls.derive key).succeed = true := by
  simp only [deriveSteps, List.map_cons, List.map_nil, List.all_cons, List.all_nil,
    Bool.and_true, Bool.and_eq_true, defaultStep]
  constructor
  · rintro ⟨smk, mk, sk, vk⟩ key
    cases key <;> assumption
  · intro all
    exact ⟨all .smk, all .mk, all .sk, all .vk⟩

def DerivationsSucceed (build : Build) (calls : Msg1Calls World) : Prop :=
  match build with
  | .suppliedKeyDerivation => ∀ key, (calls.sha key).succeed = true
  | .defaultKeyDerivation => ∀ key, (calls.derive key).succeed = true

theorem derivationsSucceed_iff (build : Build) (primitives : Primitives) (calls : Msg1Calls World)
    (secret : EcDhShared) :
    ((deriveSteps build primitives calls secret).all fun step => step.succeeds) = true ↔
      DerivationsSucceed build calls := by
  cases build with
  | suppliedKeyDerivation =>
      simp only [deriveSteps, List.all_cons, List.all_nil, Bool.and_true, Bool.and_eq_true,
        DerivationsSucceed]
      constructor
      · rintro ⟨first, second⟩ key
        cases key <;> assumption
      · intro all
        exact ⟨all _, all _⟩
  | defaultKeyDerivation => exact defaultSteps_succeed primitives calls secret

end Derivation

section Message

theorem gbGa_bytes (db : SpDbItem) :
    List.ofFn ((gbGa db).load 0 128) = List.ofFn db.gB ++ List.ofFn db.gA := by
  have first : (gbGa db).load 0 64 = db.gB := by
    rw [gbGa, Block.load_store_apart _ _ _ _ (by omega), Block.load_store_same]
  have second : (gbGa db).load (0 + 64) 64 = db.gA := by
    rw [gbGa, zero_add, Block.load_store_same]
  rw [Block.load_append _ 0 64 64, first, second]

def msg2Signed (build : Build) (db : SpDbItem) (spid : SampleSpid) (size : UInt32)
    (signature : SampleEcSign256) : Block :=
  (((((msg2Header size).store (headerSize + 0) db.gB).store (headerSize + 64) spid).store
    (headerSize + 80) (littleEndian 2 sampleQuoteLinkableSignature)).store
    (headerSize + 82) (littleEndian 2 (kdfId build).toNat)).store (headerSize + 84) signature

def msg2Mac (build : Build) (primitives : Primitives) (db : SpDbItem) (spid : SampleSpid)
    (size : UInt32) (signature : SampleEcSign256) : Bytes 16 :=
  primitives.cmac db.smkKey
    (List.ofFn ((msg2Signed build db spid size signature).load (headerSize + 0) 148))

def msg2Response (build : Build) (primitives : Primitives) (db : SpDbItem) (spid : SampleSpid)
    (sigRl : SigRl) (signature : SampleEcSign256) : Block :=
  (((msg2Signed build db spid (msg2Size sigRl) signature).store (headerSize + 148)
    (msg2Mac build primitives db spid (msg2Size sigRl) signature)).store (headerSize + 168)
    (bytesOfList sigRl.bytes)).store (headerSize + 164) (littleEndian 4 sigRl.size.toNat)

section Stores

variable {n : Nat} (offset : Nat) (bytes : Bytes n) (provider : Provider) (ret : Int)
  (block : Block) (eccState : Bool) (log : List SpCall)

theorem msg2Full_run :
    msg2Full ⟨provider, ret, some block, eccState, log⟩ =
      .ok block ⟨provider, ret, some block, eccState, log⟩ := rfl

theorem storeMsg2_inside (inside : headerSize + offset + n ≤ block.size) :
    storeMsg2 offset bytes ⟨provider, ret, some block, eccState, log⟩ =
      .ok () ⟨provider, ret, some (block.store (headerSize + offset) bytes), eccState, log⟩ := by
  simp [storeMsg2, msg2Full, bind_run, Nat.not_lt.mpr inside]

theorem storeMsg2_outside (outside : block.size < headerSize + offset + n) :
    storeMsg2 offset bytes ⟨provider, ret, some block, eccState, log⟩ =
      .error (.fault .outOfBlock)
        ⟨provider, ret, some (block.store (headerSize + offset) bytes), eccState, log⟩ := by
  simp [storeMsg2, msg2Full, bind_run, outside]

theorem copyMsg2_fits (numberOfElements : Nat) (fits : n ≤ numberOfElements) :
    copyMsg2 offset numberOfElements bytes = storeMsg2 offset bytes := by
  simp [copyMsg2, memcpyS_fits _ _ _ _ fits]

theorem storeMsg2_overruns (rest : Unit → Breakable Fault Msg1Frame Unit)
    (later : headerSize + offset + n ≤ block.size → ∃ written,
      rest () ⟨provider, ret, some (block.store (headerSize + offset) bytes), eccState, log⟩ =
        .error (.fault .outOfBlock) ⟨provider, ret, some written, eccState, log⟩) :
    ∃ written, (storeMsg2 offset bytes >>= rest) ⟨provider, ret, some block, eccState, log⟩ =
      .error (.fault .outOfBlock) ⟨provider, ret, some written, eccState, log⟩ := by
  by_cases inside : headerSize + offset + n ≤ block.size
  · rw [bind_of_ok _ _ _ _ _ (storeMsg2_inside offset bytes provider ret block eccState log inside)]
    exact later inside
  · exact ⟨_, bind_of_error _ _ _ _ _
      (storeMsg2_outside offset bytes provider ret block eccState log (Nat.not_le.mp inside))⟩

end Stores

theorem sigRl_size (sigRl : SigRl) : sigRl.size.toNat = sigRl.bytes.length := by
  rw [SigRl.size, UInt32.toNat_ofNat']
  exact Nat.mod_eq_of_lt sigRl.short

def signedPair (db : SpDbItem) : List UInt8 := List.ofFn db.gB ++ List.ofFn db.gA

theorem succeeded_some {α : Type} (value : α) (frame : Msg1Frame) :
    succeeded (some value) frame = .ok value frame := rfl

/-- How far into the body the stores go: to the signature, to the MAC, or to the end
of the list. -/
def reach (calls : Msg1Calls World) (signed : List UInt8) (sigRl : SigRl) : Nat :=
  match calls.ecdsaSign signed gSpPrivKey, calls.cmac with
  | none, _ => 84
  | some _, .failure _ => 148
  | some _, .success => sampleRaMsg2Size + sigRl.bytes.length

section Fill

variable (build : Build) (primitives : Primitives) (calls : Msg1Calls World) (sigRl : SigRl)
  (provider : Provider) (ret : Int) (eccState : Bool) (log : List SpCall)

theorem fillMsg2_inside
    (inside : reach calls (signedPair provider.gSpDb) sigRl ≤ (msg2Size sigRl).toNat) :
    ∃ written,
      fillMsg2 build primitives calls sigRl
          ⟨provider, ret, some (msg2Header (msg2Size sigRl)), eccState, log⟩ =
        match calls.ecdsaSign (signedPair provider.gSpDb) gSpPrivKey, calls.cmac with
        | some signature, .success => .ok () ⟨provider, ret, some (msg2Response build primitives
            provider.gSpDb provider.gSpid sigRl signature), eccState, log⟩
        | _, _ => .error .leave
            ⟨provider, SpRaMsgStatus.internalError.code, some written, eccState, log⟩ := by
  have size : (msg2Header (msg2Size sigRl)).size = (msg2Size sigRl).toNat + headerSize := rfl
  have fits : sigRl.bytes.length ≤ sigRl.size.toNat := (sigRl_size sigRl).ge
  have pair : List.ofFn ((gbGa provider.gSpDb).load 0 128) = signedPair provider.gSpDb :=
    gbGa_bytes provider.gSpDb
  rw [reach] at inside
  rw [fillMsg2, bind_of_ok _ _ _ _ _ (get_run _)]
  simp only [copyMsg2_fits _ _ _ le_rfl, copyMsg2_fits _ _ _ fits, pair]
  cases signed : calls.ecdsaSign (signedPair provider.gSpDb) gSpPrivKey with
  | none =>
      simp only [signed] at inside
      simp (disch := simp only [Block.store_size, size]; omega) only [bind_run, storeMsg2_inside]
      exact ⟨_, rfl⟩
  | some signature =>
      cases maced : calls.cmac with
      | failure left =>
          simp only [signed, maced] at inside
          simp (disch := simp only [Block.store_size, size]; omega) only [bind_run,
            storeMsg2_inside, succeeded_some, msg2Full_run]
          exact ⟨_, rfl⟩
      | success =>
          simp only [signed, maced, sampleRaMsg2Size] at inside
          simp (disch := simp only [Block.store_size, size]; omega) only [bind_run,
            storeMsg2_inside, succeeded_some, msg2Full_run]
          exact ⟨Block.zeroed 0, rfl⟩

theorem fillMsg2_overruns
    (beyond : (msg2Size sigRl).toNat < reach calls (signedPair provider.gSpDb) sigRl) :
    ∃ written, fillMsg2 build primitives calls sigRl
        ⟨provider, ret, some (msg2Header (msg2Size sigRl)), eccState, log⟩ =
      .error (.fault .outOfBlock) ⟨provider, ret, some written, eccState, log⟩ := by
  have size : (msg2Header (msg2Size sigRl)).size = (msg2Size sigRl).toNat + headerSize := rfl
  have fits : sigRl.bytes.length ≤ sigRl.size.toNat := (sigRl_size sigRl).ge
  have pair : List.ofFn ((gbGa provider.gSpDb).load 0 128) = signedPair provider.gSpDb :=
    gbGa_bytes provider.gSpDb
  rw [reach] at beyond
  rw [fillMsg2, bind_of_ok _ _ _ _ _ (get_run _)]
  simp only [copyMsg2_fits _ _ _ le_rfl, copyMsg2_fits _ _ _ fits, pair]
  -- A store that is made goes beyond the block or is inside it; if all before it were
  -- inside, the last one goes beyond.
  apply storeMsg2_overruns
  intro _
  apply storeMsg2_overruns
  intro _
  apply storeMsg2_overruns
  intro _
  apply storeMsg2_overruns
  simp only [Block.store_size, size]
  intro fixed
  cases signed : calls.ecdsaSign (signedPair provider.gSpDb) gSpPrivKey with
  | none =>
      simp only [signed] at beyond
      omega
  | some signature =>
      rw [bind_of_ok _ _ _ _ _ (succeeded_some _ _)]
      apply storeMsg2_overruns
      simp only [Block.store_size, size]
      intro inside
      rw [bind_of_ok _ _ _ _ _ (msg2Full_run _ _ _ _ _)]
      cases maced : calls.cmac with
      | failure left =>
          simp only [signed, maced] at beyond
          omega
      | success =>
          simp only [signed, maced, sampleRaMsg2Size] at beyond
          rw [bind_of_ok _ _ _ _ _ (succeeded_some _ _)]
          apply storeMsg2_overruns
          intro _
          apply storeMsg2_overruns
          simp only [Block.store_size, size]
          omega

end Fill

end Message

end SgxExperiments.ServiceProvider
