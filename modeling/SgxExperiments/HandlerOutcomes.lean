import SgxExperiments.Msg1Steps

/-!
Every way in which the two handlers can end, one constructor for each, with all
that is returned, stored and called on the way. What is proved about requests
afterwards is proved from these.
-/

namespace SgxExperiments.ServiceProvider

open ByteMemory BreakableBlock KeyDerivation

variable {World : Type}

section Msg0

def PointsInto (table : List (SampleExtendedEpidGroup World)) (provider : Provider) : Prop :=
  ∀ i, provider.gSpExtendedEpidGroupId = some i → ∃ group, table[i]? = some group

def Provider.enrolledAt (provider : Provider) (i : Nat) (enrolled : EnrollResult) : Provider :=
  { provider with
    gSpExtendedEpidGroupId := some i
    gSpid := enrolled.spid
    gAuthenticationToken := enrolled.authenticationToken }

def Provider.enrollment (provider : Provider) (world : World)
    (group : SampleExtendedEpidGroup World) : EnrollResult :=
  group.enroll world provider.gSpCredentials provider.gSpid provider.gAuthenticationToken

def msg0Reply (malloc : Nat → Bool) (provider : Provider) (calls : List SpCall) : HandlerResult :=
  if malloc 272 then
    ⟨SpRaMsgStatus.ok.code, some (some msg0Response), provider, calls ++ [.malloc 272 true]⟩
  else ⟨SpRaMsgStatus.internalError.code, some none, provider, calls ++ [.malloc 272 false]⟩

inductive Msg0Outcome (table : List (SampleExtendedEpidGroup World)) (calls : Msg0Calls World)
    (provider : Provider) (extendedEpidGroupId : UInt32) : HandlerResult → Prop where
  | kept (registered : provider.gIsSpRegistered = true)
      (current : ∀ i group, provider.gSpExtendedEpidGroupId = some i → table[i]? = some group →
        group.extendedEpidGroupId = extendedEpidGroupId) :
      Msg0Outcome table calls provider extendedEpidGroupId (msg0Reply calls.malloc provider [])
  | unsupported (absent : ∀ group ∈ table, group.extendedEpidGroupId ≠ extendedEpidGroupId) :
      Msg0Outcome table calls provider extendedEpidGroupId (msg0Reply calls.malloc provider [])
  | enrollFailed (i : Nat) (group : SampleExtendedEpidGroup World) (entry : table[i]? = some group)
      (same : group.extendedEpidGroupId = extendedEpidGroupId)
      (selects : mustSelect table provider extendedEpidGroupId = .ok true)
      (failed : (provider.enrollment calls.world group).ret ≠ 0) :
      Msg0Outcome table calls provider extendedEpidGroupId
        ⟨SpRaMsgStatus.iasFailed.code, some none,
          provider.enrolledAt i (provider.enrollment calls.world group),
          [.enroll i (provider.enrollment calls.world group).ret]⟩
  | enrolled (i : Nat) (group : SampleExtendedEpidGroup World) (entry : table[i]? = some group)
      (same : group.extendedEpidGroupId = extendedEpidGroupId)
      (selects : mustSelect table provider extendedEpidGroupId = .ok true)
      (succeeded : (provider.enrollment calls.world group).ret = 0) :
      Msg0Outcome table calls provider extendedEpidGroupId
        (msg0Reply calls.malloc
          { provider.enrolledAt i (provider.enrollment calls.world group) with
            gIsSpRegistered := true }
          [.enroll i 0])

theorem selectGroup_run (world : World) (extendedEpidGroupId : UInt32) (frame : Msg0Frame)
    (rest : List (SampleExtendedEpidGroup World)) (i : Nat) :
    ((∀ group ∈ rest, group.extendedEpidGroupId ≠ extendedEpidGroupId) ∧
      selectGroup world extendedEpidGroupId i rest frame = .ok () frame) ∨
    ∃ k group, rest[k]? = some group ∧ group.extendedEpidGroupId = extendedEpidGroupId ∧
      selectGroup world extendedEpidGroupId i rest frame = enrollGroup world (i + k) group frame := by
  induction rest generalizing i with
  | nil => exact Or.inl ⟨fun _ member => (List.not_mem_nil member).elim, rfl⟩
  | cons group rest ih =>
      by_cases same : group.extendedEpidGroupId = extendedEpidGroupId
      · exact Or.inr ⟨0, group, rfl, same, by rw [selectGroup, if_pos same, Nat.add_zero]⟩
      · have skipped : selectGroup world extendedEpidGroupId i (group :: rest) frame =
            selectGroup world extendedEpidGroupId (i + 1) rest frame := by
          rw [selectGroup, if_neg same]
        rcases ih (i + 1) with ⟨absent, ended⟩ | ⟨k, found, entry, matching, ran⟩
        · refine Or.inl ⟨?_, skipped.trans ended⟩
          intro other member
          rcases List.mem_cons.mp member with rfl | later
          · exact same
          · exact absent other later
        · refine Or.inr ⟨k + 1, found, entry, matching, ?_⟩
          rw [skipped, ran, Nat.add_right_comm, Nat.add_assoc]

theorem enrollGroup_failed (world : World) (i : Nat) (group : SampleExtendedEpidGroup World)
    (frame : Msg0Frame) (failed : (frame.provider.enrollment world group).ret ≠ 0) :
    enrollGroup world i group frame = .error .leave
      { frame with
        provider := frame.provider.enrolledAt i (frame.provider.enrollment world group)
        ret := SpRaMsgStatus.iasFailed.code
        calls := frame.calls ++ [.enroll i (frame.provider.enrollment world group).ret] } := by
  simp only [Provider.enrollment] at failed
  simp [enrollGroup, bind_run, Provider.enrolledAt, Provider.enrollment, failed]

theorem enrollGroup_succeeded (world : World) (i : Nat) (group : SampleExtendedEpidGroup World)
    (frame : Msg0Frame) (succeeded : (frame.provider.enrollment world group).ret = 0) :
    enrollGroup world i group frame = .ok ()
      { frame with
        provider := { frame.provider.enrolledAt i (frame.provider.enrollment world group) with
          gIsSpRegistered := true }
        ret := 0
        calls := frame.calls ++ [.enroll i 0] } := by
  simp only [Provider.enrollment] at succeeded
  simp [enrollGroup, bind_run, Provider.enrolledAt, Provider.enrollment, succeeded]

theorem attKeyIdList_length : gEcdsaP256AttKeyIdList.length = 264 := by
  simp only [gEcdsaP256AttKeyIdList, List.length_append, List.length_replicate, List.length_cons,
    List.length_nil]

theorem msg0RespSize_header : msg0RespSize.toNat + headerSize = 272 := by
  rw [msg0RespSize, attKeyIdList_length]
  rfl

theorem respondMsg0_reply (malloc : Nat → Bool) (frame : Msg0Frame)
    (fresh : frame.msg0RespFull = none) :
    ∃ after, respondMsg0 malloc frame = .ok () after ∧
      cleanupMsg0 after = msg0Reply malloc frame.provider frame.calls := by
  rw [respondMsg0, msg0RespSize_header]
  cases obtained : malloc 272 with
  | false =>
      refine ⟨_, by simp [bind_run]; rfl, ?_⟩
      simp [cleanupMsg0, msg0Reply, obtained, SpRaMsgStatus.code, fresh]
  | true =>
      refine ⟨_, by simp [bind_run]; rfl, ?_⟩
      simp [cleanupMsg0, msg0Reply, obtained, SpRaMsgStatus.code]

theorem selectIfNeeded_run (table : List (SampleExtendedEpidGroup World)) (calls : Msg0Calls World)
    (extendedEpidGroupId : UInt32) (provider : Provider) (valid : PointsInto table provider) :
    (∃ after, selectIfNeeded table calls.world extendedEpidGroupId ⟨provider, -1, none, []⟩ =
        .ok () after ∧ after.msg0RespFull = none ∧
      Msg0Outcome table calls provider extendedEpidGroupId
        (msg0Reply calls.malloc after.provider after.calls)) ∨
    ∃ after, selectIfNeeded table calls.world extendedEpidGroupId ⟨provider, -1, none, []⟩ =
        .error .leave after ∧
      Msg0Outcome table calls provider extendedEpidGroupId (cleanupMsg0 after) := by
  cases needed : mustSelect table provider extendedEpidGroupId with
  | error cause =>
      rw [mustSelect] at needed
      split at needed
      · cases needed
      · split at needed
        · cases needed
        · rename_i i pointer
          obtain ⟨group, entry⟩ := valid i pointer
          simp [entry] at needed
  | ok selects =>
      cases selects with
      | false =>
          refine Or.inl ⟨_, by simp [selectIfNeeded, bind_run, needed]; rfl, rfl, ?_⟩
          rw [mustSelect] at needed
          split at needed
          · cases needed
          · rename_i registered
            apply Msg0Outcome.kept (by simpa using registered)
            intro i group pointer entry
            simpa [pointer, entry] using needed
      | true =>
          have ran : selectIfNeeded table calls.world extendedEpidGroupId
              ⟨provider, -1, none, []⟩ = selectGroup calls.world extendedEpidGroupId 0 table
                ⟨provider, SpRaMsgStatus.unsupportedExtendedEpidGroup.code, none, []⟩ := by
            simp [selectIfNeeded, bind_run, needed]
          rw [ran]
          rcases selectGroup_run calls.world extendedEpidGroupId
            ⟨provider, SpRaMsgStatus.unsupportedExtendedEpidGroup.code, none, []⟩ table 0 with
            ⟨absent, ended⟩ | ⟨k, group, entry, same, enrolls⟩
          · exact Or.inl ⟨_, ended, rfl, Msg0Outcome.unsupported absent⟩
          · rw [enrolls, Nat.zero_add]
            by_cases succeeded : (provider.enrollment calls.world group).ret = 0
            · refine Or.inl ⟨_, enrollGroup_succeeded _ _ _ _ succeeded, rfl, ?_⟩
              exact Msg0Outcome.enrolled k group entry same needed succeeded
            · refine Or.inr ⟨_, enrollGroup_failed _ _ _ _ succeeded, ?_⟩
              exact Msg0Outcome.enrollFailed k group entry same needed succeeded

theorem msg0_outcome (table : List (SampleExtendedEpidGroup World)) (calls : Msg0Calls World)
    (provider : Provider) (msg0 : SampleRaMsg0) (msg0Size : UInt32)
    (exact : msg0Size.toNat = sampleRaMsg0Size) (valid : PointsInto table provider) :
    ∃ result, spRaProcMsg0Req table calls provider (some msg0) msg0Size true = .ok result ∧
      Msg0Outcome table calls provider msg0.extendedEpidGroupId result := by
  simp only [spRaProcMsg0Req, Bool.true_eq_false, exact, ne_eq, not_true_eq_false, or_self,
    if_false]
  rcases selectIfNeeded_run table calls msg0.extendedEpidGroupId provider valid with
    ⟨middle, selected, fresh, outcome⟩ | ⟨after, left, outcome⟩
  · obtain ⟨after, responded, reply⟩ := respondMsg0_reply calls.malloc middle fresh
    rw [bind_of_ok _ _ _ _ _ selected, responded]
    exact ⟨_, rfl, reply ▸ outcome⟩
  · rw [bind_of_error _ _ _ _ _ left]
    exact ⟨_, rfl, outcome⟩

end Msg0

section Msg1

def Provider.withDb (provider : Provider) (db : SpDbItem) : Provider := { provider with gSpDb := db }

structure Exchanged (calls : Msg1Calls World) (msg1 : SampleRaMsg1) (priv : SampleEcPriv)
    (pub : SampleEcPub) (secret : EcDhShared) : Prop where
  opened : calls.openContext = true
  keyPair : calls.createKeyPair = some (priv, pub)
  shared : calls.computeSharedDhkey priv msg1.gA = some secret

structure Fetched (table : List (SampleExtendedEpidGroup World)) (calls : Msg1Calls World)
    (provider : Provider) (msg1 : SampleRaMsg1) (i : Nat) (sigRl : SigRl) : Prop where
  pointer : provider.gSpExtendedEpidGroupId = some i
  answer : ∃ group, table[i]? = some group ∧ group.getSigrl calls.world msg1.gid = ⟨0, sigRl⟩

def Provider.exchanged (provider : Provider) (msg1 : SampleRaMsg1) (priv : SampleEcPriv)
    (pub : SampleEcPub) : SpDbItem :=
  { provider.gSpDb with gA := msg1.gA, b := priv, gB := pub }

def fetchedLog (build : Build) (primitives : Primitives) (calls : Msg1Calls World)
    (secret : EcDhShared) (i : Nat) : List SpCall :=
  [.openContext true, .getSigrl i 0] ++ derivationLog build primitives calls secret

theorem mem_fetchedLog (build : Build) (primitives : Primitives) (calls : Msg1Calls World)
    (secret : EcDhShared) (i : Nat) (call : SpCall)
    (made : call ∈ fetchedLog build primitives calls secret i) :
    call = .openContext true ∨ call = .getSigrl i 0 ∨ ∃ heap, call = .derivation heap := by
  rcases List.mem_append.mp made with first | later
  · rcases List.mem_cons.mp first with opened | asked
    · exact Or.inl opened
    · exact Or.inr (Or.inl (List.mem_singleton.mp asked))
  · exact Or.inr (Or.inr (mem_stepsLog _ _ later))

section FetchedLog

variable (build : Build) (primitives : Primitives) (calls : Msg1Calls World) (secret : EcDhShared)
  (i : Nat)

@[simp] theorem openContext_fetchedLog :
    .openContext true ∈ fetchedLog build primitives calls secret i :=
  List.mem_cons_self

@[simp] theorem malloc_fetchedLog (size : Nat) (obtained : Bool) :
    .malloc size obtained ∉ fetchedLog build primitives calls secret i := by
  intro made
  rcases mem_fetchedLog build primitives calls secret i _ made with other | other | ⟨_, other⟩ <;>
    cases other

@[simp] theorem free_fetchedLog :
    (fetchedLog build primitives calls secret i).count .free = 0 := by
  rw [List.count_eq_zero]
  intro made
  rcases mem_fetchedLog build primitives calls secret i _ made with other | other | ⟨_, other⟩ <;>
    cases other

@[simp] theorem closeContext_fetchedLog :
    (fetchedLog build primitives calls secret i).count .closeContext = 0 := by
  rw [List.count_eq_zero]
  intro made
  rcases mem_fetchedLog build primitives calls secret i _ made with other | other | ⟨_, other⟩ <;>
    cases other

end FetchedLog

/-- Every end of a MSG1 that was taken up: past the size check, registered. -/
inductive Msg1Outcome (table : List (SampleExtendedEpidGroup World)) (build : Build)
    (primitives : Primitives) (calls : Msg1Calls World) (provider : Provider)
    (msg1 : SampleRaMsg1) : Except Fault HandlerResult → Prop where
  | openFailed (failed : calls.openContext = false) :
      Msg1Outcome table build primitives calls provider msg1
        (.ok ⟨-1, some none, provider.withDb { provider.gSpDb with gA := msg1.gA },
          [.openContext false]⟩)
  | keyPairFailed (opened : calls.openContext = true) (failed : calls.createKeyPair = none) :
      Msg1Outcome table build primitives calls provider msg1
        (.ok ⟨SpRaMsgStatus.internalError.code, some none,
          provider.withDb { provider.gSpDb with gA := msg1.gA }, [.openContext true, .closeContext]⟩)
  | dhFailed (priv : SampleEcPriv) (pub : SampleEcPub) (opened : calls.openContext = true)
      (keyPair : calls.createKeyPair = some (priv, pub))
      (failed : calls.computeSharedDhkey priv msg1.gA = none) :
      Msg1Outcome table build primitives calls provider msg1
        (.ok ⟨SpRaMsgStatus.internalError.code, some none,
          provider.withDb (provider.exchanged msg1 priv pub), [.openContext true, .closeContext]⟩)
  | nullGroup (pointer : provider.gSpExtendedEpidGroupId = none) :
      Msg1Outcome table build primitives calls provider msg1 (.error .nullPointer)
  | wildGroup (i : Nat) (pointer : provider.gSpExtendedEpidGroupId = some i)
      (outside : table[i]? = none) :
      Msg1Outcome table build primitives calls provider msg1 (.error .wildPointer)
  | sigrlFailed (priv : SampleEcPriv) (pub : SampleEcPub) (secret : EcDhShared) (i : Nat)
      (group : SampleExtendedEpidGroup World) (exchanged : Exchanged calls msg1 priv pub secret)
      (pointer : provider.gSpExtendedEpidGroupId = some i) (entry : table[i]? = some group)
      (failed : (group.getSigrl calls.world msg1.gid).ret ≠ 0) :
      Msg1Outcome table build primitives calls provider msg1
        (.ok ⟨SpRaMsgStatus.iasFailed.code, some none,
          provider.withDb (provider.exchanged msg1 priv pub),
          [.openContext true, .getSigrl i (group.getSigrl calls.world msg1.gid).ret, .closeContext]⟩)
  | deriveFailed (priv : SampleEcPriv) (pub : SampleEcPub) (secret : EcDhShared) (i : Nat)
      (sigRl : SigRl) (exchanged : Exchanged calls msg1 priv pub secret)
      (fetched : Fetched table calls provider msg1 i sigRl)
      (failed : (runSteps (deriveSteps build primitives calls secret)
        (provider.exchanged msg1 priv pub)).1 = false) :
      Msg1Outcome table build primitives calls provider msg1
        (.ok ⟨SpRaMsgStatus.internalError.code, some none,
          provider.withDb (runSteps (deriveSteps build primitives calls secret)
            (provider.exchanged msg1 priv pub)).2,
          fetchedLog build primitives calls secret i ++ [.closeContext]⟩)
  | mallocFailed (priv : SampleEcPriv) (pub : SampleEcPub) (secret : EcDhShared) (i : Nat)
      (sigRl : SigRl) (exchanged : Exchanged calls msg1 priv pub secret)
      (fetched : Fetched table calls provider msg1 i sigRl)
      (derived : (runSteps (deriveSteps build primitives calls secret)
        (provider.exchanged msg1 priv pub)).1 = true)
      (failed : calls.malloc ((msg2Size sigRl).toNat + headerSize) = false) :
      Msg1Outcome table build primitives calls provider msg1
        (.ok ⟨SpRaMsgStatus.internalError.code, some none,
          provider.withDb ((provider.exchanged msg1 priv pub).withKeys
            (sessionKeys primitives secret build)),
          fetchedLog build primitives calls secret i ++
            [.malloc ((msg2Size sigRl).toNat + headerSize) false] ++ [.closeContext]⟩)
  | overrun (priv : SampleEcPriv) (pub : SampleEcPub) (secret : EcDhShared) (i : Nat)
      (sigRl : SigRl) (exchanged : Exchanged calls msg1 priv pub secret)
      (fetched : Fetched table calls provider msg1 i sigRl)
      (derived : (runSteps (deriveSteps build primitives calls secret)
        (provider.exchanged msg1 priv pub)).1 = true)
      (obtained : calls.malloc ((msg2Size sigRl).toNat + headerSize) = true)
      (beyond : (msg2Size sigRl).toNat < reach calls (List.ofFn pub ++ List.ofFn msg1.gA) sigRl) :
      Msg1Outcome table build primitives calls provider msg1 (.error .outOfBlock)
  | sealFailed (priv : SampleEcPriv) (pub : SampleEcPub) (secret : EcDhShared) (i : Nat)
      (sigRl : SigRl) (exchanged : Exchanged calls msg1 priv pub secret)
      (fetched : Fetched table calls provider msg1 i sigRl)
      (derived : (runSteps (deriveSteps build primitives calls secret)
        (provider.exchanged msg1 priv pub)).1 = true)
      (obtained : calls.malloc ((msg2Size sigRl).toNat + headerSize) = true)
      (inside : reach calls (List.ofFn pub ++ List.ofFn msg1.gA) sigRl ≤ (msg2Size sigRl).toNat)
      (failed : calls.ecdsaSign (List.ofFn pub ++ List.ofFn msg1.gA) gSpPrivKey = none ∨
        ∃ left, calls.cmac = .failure left) :
      Msg1Outcome table build primitives calls provider msg1
        (.ok ⟨SpRaMsgStatus.internalError.code, some none,
          provider.withDb ((provider.exchanged msg1 priv pub).withKeys
            (sessionKeys primitives secret build)),
          fetchedLog build primitives calls secret i ++
            [.malloc ((msg2Size sigRl).toNat + headerSize) true] ++ [.free, .closeContext]⟩)
  | completed (priv : SampleEcPriv) (pub : SampleEcPub) (secret : EcDhShared) (i : Nat)
      (sigRl : SigRl) (signature : SampleEcSign256)
      (exchanged : Exchanged calls msg1 priv pub secret)
      (fetched : Fetched table calls provider msg1 i sigRl)
      (derived : (runSteps (deriveSteps build primitives calls secret)
        (provider.exchanged msg1 priv pub)).1 = true)
      (obtained : calls.malloc ((msg2Size sigRl).toNat + headerSize) = true)
      (inside : reach calls (List.ofFn pub ++ List.ofFn msg1.gA) sigRl ≤ (msg2Size sigRl).toNat)
      (signed : calls.ecdsaSign (List.ofFn pub ++ List.ofFn msg1.gA) gSpPrivKey = some signature)
      (maced : calls.cmac = .success) :
      Msg1Outcome table build primitives calls provider msg1
        (.ok ⟨SpRaMsgStatus.ok.code,
          some (some (msg2Response build primitives
            ((provider.exchanged msg1 priv pub).withKeys (sessionKeys primitives secret build))
            provider.gSpid sigRl signature)),
          provider.withDb ((provider.exchanged msg1 priv pub).withKeys
            (sessionKeys primitives secret build)),
          fetchedLog build primitives calls secret i ++
            [.malloc ((msg2Size sigRl).toNat + headerSize) true] ++ [.closeContext]⟩)

theorem saveField_run (numberOfElements count : Nat) (copied : SpDbItem → SpDbItem)
    (frame : Msg1Frame) (fits : count ≤ numberOfElements) :
    saveField numberOfElements count copied frame =
      .ok () { frame with provider := frame.provider.withDb (copied frame.provider.gSpDb) } := by
  simp [saveField, bind_run, memcpyS_fits _ _ _ _ fits, Provider.withDb]

theorem openContext_run (calls : Msg1Calls World) (frame : Msg1Frame) :
    openContext calls frame =
      if calls.openContext then
        .ok () { frame with eccState := true, calls := frame.calls ++ [.openContext true] }
      else .error .leave { frame with
        ret := -1, eccState := false, calls := frame.calls ++ [.openContext false] } := by
  cases opened : calls.openContext <;> simp [openContext, bind_run, breakWith, opened]

section GetSigrl

variable (table : List (SampleExtendedEpidGroup World)) (world : World) (gid : SampleEpidGroupId)
  (frame : Msg1Frame)

theorem getSigrl_null (pointer : frame.provider.gSpExtendedEpidGroupId = none) :
    getSigrl table world gid frame = .error (.fault .nullPointer) frame := by
  simp [getSigrl, bind_run, pointer]

variable (i : Nat) (pointer : frame.provider.gSpExtendedEpidGroupId = some i)

include pointer

theorem getSigrl_wild (outside : table[i]? = none) :
    getSigrl table world gid frame = .error (.fault .wildPointer) frame := by
  simp [getSigrl, bind_run, pointer, outside]

theorem getSigrl_failed (group : SampleExtendedEpidGroup World) (entry : table[i]? = some group)
    (failed : (group.getSigrl world gid).ret ≠ 0) :
    getSigrl table world gid frame = .error .leave { frame with
      ret := SpRaMsgStatus.iasFailed.code
      calls := frame.calls ++ [.getSigrl i (group.getSigrl world gid).ret] } := by
  simp [getSigrl, bind_run, breakWith, pointer, entry, failed]

theorem getSigrl_answered (group : SampleExtendedEpidGroup World) (entry : table[i]? = some group)
    (answered : (group.getSigrl world gid).ret = 0) :
    getSigrl table world gid frame = .ok (group.getSigrl world gid).sigRl
      { frame with ret := 0, calls := frame.calls ++ [.getSigrl i 0] } := by
  simp [getSigrl, bind_run, pointer, entry, answered]

end GetSigrl

theorem allocateMsg2_run (malloc : Nat → Bool) (size : UInt32) (frame : Msg1Frame) :
    allocateMsg2 malloc size frame =
      if malloc (size.toNat + headerSize) then .ok () { frame with
        msg2Full := some (msg2Header size)
        calls := frame.calls ++ [.malloc (size.toNat + headerSize) true] }
      else .error .leave { frame with
        ret := SpRaMsgStatus.internalError.code
        calls := frame.calls ++ [.malloc (size.toNat + headerSize) false] } := by
  cases obtained : malloc (size.toNat + headerSize) <;>
    simp [allocateMsg2, bind_run, breakWith, obtained]

section Finish

variable (provider : Provider) (ret : Int) (log : List SpCall)

theorem finishMsg1_failed (failed : ret ≠ 0) :
    finishMsg1 ⟨provider, ret, none, true, log⟩ =
      ⟨ret, some none, provider, log ++ [.closeContext]⟩ := by
  simp [finishMsg1, failed]

theorem finishMsg1_freed (block : Block) (failed : ret ≠ 0) :
    finishMsg1 ⟨provider, ret, some block, true, log⟩ =
      ⟨ret, some none, provider, log ++ [.free, .closeContext]⟩ := by
  simp [finishMsg1, failed]

theorem internalError_ne : SpRaMsgStatus.internalError.code ≠ 0 := by decide

end Finish

section Fetched

variable {table : List (SampleExtendedEpidGroup World)} {calls : Msg1Calls World}
  {provider : Provider} {msg1 : SampleRaMsg1} {priv : SampleEcPriv} {pub : SampleEcPub}
  {secret : EcDhShared} {i : Nat} {sigRl : SigRl} (build : Build) (primitives : Primitives)
  (exchanged : Exchanged calls msg1 priv pub secret)
  (fetched : Fetched table calls provider msg1 i sigRl)

include exchanged fetched

theorem prepareMsg2_fetched :
    prepareMsg2 table build primitives calls msg1 ⟨provider, 0, none, false, []⟩ =
      (deriveKeys build primitives calls secret >>= fun _ =>
        allocateMsg2 calls.malloc (msg2Size sigRl) >>= fun _ =>
          fillMsg2 build primitives calls sigRl)
        ⟨provider.withDb (provider.exchanged msg1 priv pub), 0, none, true,
          [.openContext true, .getSigrl i 0]⟩ := by
  obtain ⟨pointer, group, entry, answer⟩ := fetched
  have answered : (group.getSigrl calls.world msg1.gid).ret = 0 := by rw [answer]
  rw [prepareMsg2, bind_of_ok _ _ _ _ _ (saveField_run _ _ _ _ le_rfl),
    bind_of_ok _ _ _ _ _ ((openContext_run _ _).trans (if_pos exchanged.opened)),
    exchanged.keyPair, bind_of_ok _ _ _ _ _ (succeeded_some _ _),
    bind_of_ok _ _ _ _ _ (saveField_run _ _ _ _ le_rfl),
    bind_of_ok _ _ _ _ _ (saveField_run _ _ _ _ le_rfl), exchanged.shared,
    bind_of_ok _ _ _ _ _ (succeeded_some _ _),
    bind_of_ok _ _ _ _ _ (getSigrl_answered _ _ _ _ i pointer group entry answered), answer]
  rfl

theorem prepareMsg2_allocated
    (derived : (runSteps (deriveSteps build primitives calls secret)
      (provider.exchanged msg1 priv pub)).1 = true)
    (obtained : calls.malloc ((msg2Size sigRl).toNat + headerSize) = true) :
    prepareMsg2 table build primitives calls msg1 ⟨provider, 0, none, false, []⟩ =
      fillMsg2 build primitives calls sigRl
        ⟨provider.withDb ((provider.exchanged msg1 priv pub).withKeys
            (sessionKeys primitives secret build)), 0, some (msg2Header (msg2Size sigRl)), true,
          fetchedLog build primitives calls secret i ++
            [.malloc ((msg2Size sigRl).toNat + headerSize) true]⟩ := by
  rw [prepareMsg2_fetched build primitives exchanged fetched, deriveKeys_steps,
    bind_of_ok _ _ _ _ _ ((takeSteps_run _ _).trans (if_pos derived)),
    bind_of_ok _ _ _ _ _ ((allocateMsg2_run _ _ _).trans (if_pos obtained)),
    ← deriveSteps_through build primitives calls secret _ derived]
  rfl

theorem fetched_outcome :
    Msg1Outcome table build primitives calls provider msg1 (conclude finishMsg1
      (prepareMsg2 table build primitives calls msg1 ⟨provider, 0, none, false, []⟩)) := by
  cases derived : (runSteps (deriveSteps build primitives calls secret)
      (provider.exchanged msg1 priv pub)).1 with
  | false =>
      have failed : ¬ (runSteps (deriveSteps build primitives calls secret)
          (provider.exchanged msg1 priv pub)).1 = true := by simp [derived]
      rw [prepareMsg2_fetched build primitives exchanged fetched, deriveKeys_steps,
        bind_of_error _ _ _ _ _ ((takeSteps_run _ _).trans (if_neg failed))]
      have outcome := Msg1Outcome.deriveFailed priv pub secret i sigRl exchanged fetched derived
      rw [← finishMsg1_failed _ _ _ internalError_ne] at outcome
      exact outcome
  | true =>
      cases obtained : calls.malloc ((msg2Size sigRl).toNat + headerSize) with
      | false =>
          rw [prepareMsg2_fetched build primitives exchanged fetched, deriveKeys_steps,
            bind_of_ok _ _ _ _ _ ((takeSteps_run _ _).trans (if_pos derived)),
            bind_of_error _ _ _ _ _ ((allocateMsg2_run _ _ _).trans
              (if_neg (by simpa using obtained)))]
          have outcome := Msg1Outcome.mallocFailed priv pub secret i sigRl exchanged fetched derived
            obtained
          rw [← deriveSteps_through build primitives calls secret _ derived,
            ← finishMsg1_failed _ _ _ internalError_ne] at outcome
          exact outcome
      | true =>
          rw [prepareMsg2_allocated build primitives exchanged fetched derived obtained]
          have pair : signedPair (provider.withDb ((provider.exchanged msg1 priv pub).withKeys
              (sessionKeys primitives secret build))).gSpDb =
                List.ofFn pub ++ List.ofFn msg1.gA := rfl
          by_cases beyond : (msg2Size sigRl).toNat <
              reach calls (List.ofFn pub ++ List.ofFn msg1.gA) sigRl
          · obtain ⟨written, overruns⟩ := fillMsg2_overruns build primitives calls sigRl
              (provider.withDb ((provider.exchanged msg1 priv pub).withKeys
                (sessionKeys primitives secret build))) 0 true _ (pair ▸ beyond)
            rw [overruns]
            exact Msg1Outcome.overrun priv pub secret i sigRl exchanged fetched derived obtained
              beyond
          have inside := Nat.not_lt.mp beyond
          obtain ⟨written, filled⟩ := fillMsg2_inside build primitives calls sigRl
            (provider.withDb ((provider.exchanged msg1 priv pub).withKeys
              (sessionKeys primitives secret build))) 0 true _ (pair ▸ inside)
          rw [filled, pair]
          cases signed : calls.ecdsaSign (List.ofFn pub ++ List.ofFn msg1.gA) gSpPrivKey with
          | none =>
              have outcome := Msg1Outcome.sealFailed priv pub secret i sigRl exchanged fetched
                derived obtained inside (Or.inl signed)
              rw [← finishMsg1_freed _ _ _ written internalError_ne] at outcome
              exact outcome
          | some signature =>
              cases maced : calls.cmac with
              | failure left =>
                  have outcome := Msg1Outcome.sealFailed priv pub secret i sigRl exchanged fetched
                    derived obtained inside (Or.inr ⟨left, maced⟩)
                  rw [← finishMsg1_freed _ _ _ written internalError_ne] at outcome
                  exact outcome
              | success =>
                  exact Msg1Outcome.completed priv pub secret i sigRl signature exchanged fetched
                    derived obtained inside signed maced

end Fetched

theorem msg1_outcome (table : List (SampleExtendedEpidGroup World)) (build : Build)
    (primitives : Primitives) (calls : Msg1Calls World) (provider : Provider)
    (msg1 : SampleRaMsg1) (msg1Size : UInt32) (exact : msg1Size.toNat = sampleRaMsg1Size)
    (registered : provider.gIsSpRegistered = true) :
    Msg1Outcome table build primitives calls provider msg1
      (spRaProcMsg1Req table build primitives calls provider (some msg1) msg1Size true) := by
  simp only [spRaProcMsg1Req, Bool.true_eq_false, exact, ne_eq, not_true_eq_false, or_self,
    if_false, registered]
  by_cases goesOn : ∃ priv pub secret i sigRl, Exchanged calls msg1 priv pub secret ∧
      Fetched table calls provider msg1 i sigRl
  · obtain ⟨_, _, _, _, _, exchanged, fetched⟩ := goesOn
    exact fetched_outcome build primitives exchanged fetched
  rw [prepareMsg2, bind_of_ok _ _ _ _ _ (saveField_run _ _ _ _ le_rfl)]
  cases opened : calls.openContext with
  | false =>
      rw [bind_of_error _ _ _ _ _ ((openContext_run _ _).trans (if_neg (by simpa using opened)))]
      exact Msg1Outcome.openFailed opened
  | true =>
      rw [bind_of_ok _ _ _ _ _ ((openContext_run _ _).trans (if_pos opened))]
      rcases Option.eq_none_or_eq_some calls.createKeyPair with keyPair | ⟨⟨priv, pub⟩, keyPair⟩
      · rw [keyPair]
        exact Msg1Outcome.keyPairFailed opened keyPair
      rw [keyPair, bind_of_ok _ _ _ _ _ (succeeded_some _ _),
        bind_of_ok _ _ _ _ _ (saveField_run _ _ _ _ le_rfl),
        bind_of_ok _ _ _ _ _ (saveField_run _ _ _ _ le_rfl)]
      rcases Option.eq_none_or_eq_some (calls.computeSharedDhkey priv msg1.gA) with
        shared | ⟨secret, shared⟩
      · rw [shared]
        exact Msg1Outcome.dhFailed priv pub opened keyPair shared
      rw [shared, bind_of_ok _ _ _ _ _ (succeeded_some _ _)]
      have exchanged : Exchanged calls msg1 priv pub secret := ⟨opened, keyPair, shared⟩
      rcases Option.eq_none_or_eq_some provider.gSpExtendedEpidGroupId with pointer | ⟨i, pointer⟩
      · rw [bind_of_error _ _ _ _ _ (getSigrl_null _ _ _ _ pointer)]
        exact Msg1Outcome.nullGroup pointer
      rcases Option.eq_none_or_eq_some table[i]? with outside | ⟨group, entry⟩
      · rw [bind_of_error _ _ _ _ _ (getSigrl_wild _ _ _ _ i pointer outside)]
        exact Msg1Outcome.wildGroup i pointer outside
      by_cases answered : (group.getSigrl calls.world msg1.gid).ret = 0
      · have answer : group.getSigrl calls.world msg1.gid =
            ⟨0, (group.getSigrl calls.world msg1.gid).sigRl⟩ := by
          rw [← answered]
        exact absurd ⟨priv, pub, secret, i, _, exchanged, pointer, group, entry, answer⟩ goesOn
      · rw [bind_of_error _ _ _ _ _ (getSigrl_failed _ _ _ _ i pointer group entry answered)]
        exact Msg1Outcome.sigrlFailed priv pub secret i group exchanged pointer entry answered

end Msg1

end SgxExperiments.ServiceProvider
