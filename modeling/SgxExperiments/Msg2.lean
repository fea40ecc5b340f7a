import SgxExperiments.Framing
import SgxExperiments.SessionRecord

/-!
MSG2 as the enclave's side reads it: the finished response through the layout
of `ra_samp_response_header_t` and `sample_ra_msg2_t`.
-/

namespace SgxExperiments.Msg2

open ByteMemory KeyDerivation ServiceProvider NetworkRa Registration Framing

variable {World : Type}

structure Msg2View where
  type : Bytes 1
  status : Bytes 1 × Bytes 1
  size : Nat
  gB : SampleEcPub
  spid : SampleSpid
  quoteType : Nat
  kdfId : Nat
  signGbGa : SampleEcSign256
  mac : Bytes 16
  sigRlSize : Nat
  sigRl : List UInt8

def readMsg2 (response : Block) : Msg2View where
  type := response.load 0 1
  status := (response.load 1 1, response.load 2 1)
  size := leValue (response.load 3 4)
  gB := response.load (headerSize + 0) 64
  spid := response.load (headerSize + 64) 16
  quoteType := leValue (response.load (headerSize + 80) 2)
  kdfId := leValue (response.load (headerSize + 82) 2)
  signGbGa := response.load (headerSize + 84) 64
  mac := response.load (headerSize + 148) 16
  sigRlSize := leValue (response.load (headerSize + 164) 4)
  sigRl := List.ofFn
    (response.load (headerSize + 168) (leValue (response.load (headerSize + 164) 4)))

def macedBytes (response : Block) : List UInt8 := List.ofFn (response.load headerSize 148)

section Layout

variable (build : Build) (primitives : Primitives) (db : SpDbItem) (spid : SampleSpid)
  (sigRl : SigRl) (signature : SampleEcSign256)

theorem msg2Mac_covers :
    msg2Mac build primitives db spid (msg2Size sigRl) signature = primitives.cmac db.smkKey
      (macedBytes (msg2Response build primitives db spid sigRl signature)) := by
  rw [msg2Mac, macedBytes, msg2Response]
  simp (disch := first | omega | (simp only [headerSize]; omega)) only [Block.load_store_apart]
  rfl

theorem readMsg2_kdfId :
    (readMsg2 (msg2Response build primitives db spid sigRl signature)).kdfId =
      (kdfId build).toNat := by
  simp (disch := first | omega | (simp only [headerSize]; omega)) only [readMsg2, msg2Response,
    msg2Signed, Block.load_store_apart, Block.load_store_same]
  exact leValue_littleEndian 2 _ (by cases build <;> decide)

theorem readMsg2_response (fits : sampleRaMsg2Size + sigRl.bytes.length < 2 ^ 32) :
    readMsg2 (msg2Response build primitives db spid sigRl signature) =
      { type := fun _ => typeRaMsg2
        status := (zeroBytes 1, zeroBytes 1)
        size := sampleRaMsg2Size + sigRl.bytes.length
        gB := db.gB
        spid := spid
        quoteType := sampleQuoteLinkableSignature
        kdfId := (kdfId build).toNat
        signGbGa := signature
        mac := primitives.cmac db.smkKey
          (macedBytes (msg2Response build primitives db spid sigRl signature))
        sigRlSize := sigRl.bytes.length
        sigRl := sigRl.bytes } := by
  have listSize : leValue ((msg2Response build primitives db spid sigRl signature).load
      (headerSize + 164) 4) = sigRl.bytes.length := by
    rw [msg2Response, Block.load_store_same, sigRl_size,
      leValue_littleEndian 4 _ (by have := sigRl.short; omega)]
  have size : leValue ((msg2Response build primitives db spid sigRl signature).load 3 4) =
      sampleRaMsg2Size + sigRl.bytes.length := by
    rw [msg2Response_sizeField, msg2Size_toNat sigRl fits]
  have quoteType : leValue (littleEndian 2 sampleQuoteLinkableSignature) =
      sampleQuoteLinkableSignature := leValue_littleEndian 2 _ (by decide)
  have kdf := readMsg2_kdfId build primitives db spid sigRl signature
  rw [← msg2Mac_covers, ← kdf]
  simp only [readMsg2]
  rw [listSize, size]
  simp (disch := first | omega | (simp only [headerSize]; omega)) only [msg2Response, msg2Signed, msg2Header,
    Block.load_store_apart, Block.load_store_same, quoteType, bytesOfList_ofFn]

end Layout

section Answers

variable {table : List (SampleExtendedEpidGroup World)} {build : Build} {primitives : Primitives}

/-- A MSG1 that is answered is answered alike over any other record. -/
theorem completed_other_record (calls : Msg1Calls World) (provider : Provider)
    (msg1 : SampleRaMsg1) (db : SpDbItem) (result : HandlerResult)
    (other : Except Fault HandlerResult)
    (outcome : Msg1Outcome table build primitives calls provider msg1 (.ok result))
    (returned : result.ret = 0)
    (again : Msg1Outcome table build primitives calls (provider.withDb db) msg1 other) :
    ∃ answer, other = .ok answer ∧ answer.ret = 0 ∧ answer.response = result.response := by
  cases outcome with
  | completed priv pub secret i sigRl signature exchanged fetched derived obtained inside signed
      maced =>
      rw [runSteps_all] at derived
      obtain ⟨_, _, beyond⟩ |
          ⟨answer, rfl, _, ⟨_, _, failed⟩ | ⟨signatureAgain, signedAgain, done, reply⟩⟩ :=
        derived_cases build primitives calls (provider.withDb db) msg1 priv pub secret i sigRl
          exchanged ⟨fetched.pointer, fetched.answer⟩ derived other again
      · exact (Nat.not_le.mpr beyond inside).elim
      · rcases failed with noBlock | unsigned | ⟨left, unmaced⟩
        · rw [noBlock] at obtained
          cases obtained
        · rw [unsigned] at signed
          cases signed
        · rw [unmaced] at maced
          cases maced
      · have signatures := signed.symm.trans signedAgain
        cases signatures
        exact ⟨answer, rfl, done, reply⟩
  | _ => cases returned

/-- MSG2 is the message of the protocol: every field of the response, from the
inputs of this very call, whatever record an earlier session has left. -/
theorem msg2_exact (table : List (SampleExtendedEpidGroup World)) (build : Build)
    (primitives : Primitives) (calls : Msg1Calls World) (provider : Provider) (msg1 : SampleRaMsg1)
    (msg1Size : UInt32) (exact : msg1Size.toNat = sampleRaMsg1Size)
    (registered : provider.gIsSpRegistered = true) (i : Nat)
    (group : SampleExtendedEpidGroup World) (pointer : provider.gSpExtendedEpidGroupId = some i)
    (entry : table[i]? = some group) (sigRl : SigRl)
    (delivered : (group.getSigrl calls.world msg1.gid).sigRl = sigRl)
    (fits : sampleRaMsg2Size + sigRl.bytes.length < 2 ^ 32) (result : HandlerResult)
    (ran : spRaProcMsg1Req table build primitives calls provider (some msg1) msg1Size true =
      .ok result) (returned : result.ret = 0) :
    ∃ response priv pub secret signature,
      result.response = some (some response) ∧
      calls.createKeyPair = some (priv, pub) ∧
      calls.computeSharedDhkey priv msg1.gA = some secret ∧
      calls.ecdsaSign (List.ofFn pub ++ List.ofFn msg1.gA) gSpPrivKey = some signature ∧
      readMsg2 response =
        { type := fun _ => typeRaMsg2
          status := (zeroBytes 1, zeroBytes 1)
          size := sampleRaMsg2Size + sigRl.bytes.length
          gB := pub
          spid := provider.gSpid
          quoteType := sampleQuoteLinkableSignature
          kdfId := (kdfId build).toNat
          signGbGa := signature
          mac := primitives.cmac (sessionKeys primitives secret build).smkKey (macedBytes response)
          sigRlSize := sigRl.bytes.length
          sigRl := sigRl.bytes } ∧
      ∀ db, ∃ again, spRaProcMsg1Req table build primitives calls (provider.withDb db) (some msg1)
        msg1Size true = .ok again ∧ again.ret = 0 ∧ again.response = result.response := by
  have outcome := msg1_outcome table build primitives calls provider msg1 msg1Size exact registered
  rw [ran] at outcome
  have others : ∀ db, ∃ again, spRaProcMsg1Req table build primitives calls (provider.withDb db)
      (some msg1) msg1Size true = .ok again ∧ again.ret = 0 ∧ again.response = result.response :=
    fun db => completed_other_record calls provider msg1 db result _ outcome returned
      (msg1_outcome table build primitives calls (provider.withDb db) msg1 msg1Size exact registered)
  cases outcome with
  | completed priv pub secret j list signature exchanged fetched derived obtained inside signed =>
      obtain ⟨points, found, entryAgain, answer⟩ := fetched
      have pointers := pointer.symm.trans points
      cases pointers
      have groups := entry.symm.trans entryAgain
      cases groups
      rw [answer] at delivered
      subst delivered
      exact ⟨_, priv, pub, secret, signature, rfl, exchanged.keyPair, exchanged.shared, signed,
        readMsg2_response build primitives _ provider.gSpid list signature fits, others⟩
  | _ => cases returned

def threeByteGroup : SampleExtendedEpidGroup Unit :=
  ⟨0, iasEnroll Unit, fun _ _ => ⟨0, ⟨[7, 8, 9], by decide⟩⟩⟩

theorem msg2_exact_threeBytes :
    ∃ result response, spRaProcMsg1Req [threeByteGroup] .suppliedKeyDerivation blankPrimitives
        smoothCalls.msg1 registeredZero (some (asMsg1 fun _ => 1)) 68 true = .ok result ∧
      result.response = some (some response) ∧ (readMsg2 response).size = 171 ∧
      (readMsg2 response).spid = gSimSpid ∧ (readMsg2 response).sigRl = [7, 8, 9] := by
  have ran : ∃ result, spRaProcMsg1Req [threeByteGroup] .suppliedKeyDerivation blankPrimitives
      smoothCalls.msg1 registeredZero (some (asMsg1 fun _ => 1)) 68 true = .ok result ∧
        result.ret = 0 := ⟨_, rfl, rfl⟩
  obtain ⟨result, ran, returned⟩ := ran
  obtain ⟨response, _, _, _, _, given, _, _, _, view, _⟩ := msg2_exact [threeByteGroup]
    .suppliedKeyDerivation blankPrimitives smoothCalls.msg1 registeredZero (asMsg1 fun _ => 1) 68
    rfl rfl 0 threeByteGroup rfl rfl ⟨[7, 8, 9], by decide⟩ rfl (by decide) result ran returned
  refine ⟨result, response, ran, given, ?_, ?_, ?_⟩
  · rw [view]
    rfl
  · rw [view]
    rfl
  · rw [view]

end Answers

end SgxExperiments.Msg2
