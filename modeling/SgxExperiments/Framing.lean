import SgxExperiments.Registration

/-!
Framing: which requests are answered, and what an answer looks like from its
header alone.
-/

namespace SgxExperiments.Framing

open ByteMemory KeyDerivation ServiceProvider NetworkRa Registration

variable {World : Type}

/-- A response of this type whose size field counts the bytes that were
allocated after the header. -/
structure Frames (type : UInt8) (response : Block) (calls : List SpCall) : Prop where
  type : response.byte 0 = type
  size : leValue (response.load 3 4) + headerSize = response.size
  allocated : .malloc response.size true ∈ calls

def Delivers (type : UInt8) (handled : HandlerResult) : Prop :=
  handled.ret = 0 → ∃ response, handled.response = some (some response) ∧
    Frames type response handled.calls

theorem msg0Response_size : msg0Response.size = 272 := by
  rw [msg0Response, memcpyS_fits _ _ _ _ le_rfl]
  exact msg0RespSize_header

theorem msg0Response_sizeField : leValue (msg0Response.load 3 4) = 264 := by
  have field : msg0Response.load 3 4 = littleEndian 4 msg0RespSize.toNat := by
    rw [msg0Response, memcpyS_fits _ _ _ _ le_rfl]
    simp (disch := omega) only [Block.load_store_apart, Block.load_store_same]
  have length : msg0RespSize.toNat = 264 := by
    have header := msg0RespSize_header
    simp only [headerSize] at header
    omega
  rw [field, length, leValue_littleEndian 4 264 (by decide)]

theorem msg0Response_type : msg0Response.byte 0 = typeRaMsg0 := by
  have field : msg0Response.load 0 1 = fun _ => typeRaMsg0 := by
    rw [msg0Response, memcpyS_fits _ _ _ _ le_rfl]
    simp (disch := omega) only [Block.load_store_apart, Block.load_store_same]
  simpa only [Block.load, Fin.val_zero, add_zero] using congrFun field 0

section Msg2

variable (build : Build) (primitives : Primitives) (db : SpDbItem) (spid : SampleSpid)
  (sigRl : SigRl) (signature : SampleEcSign256)

theorem msg2Response_type :
    (msg2Response build primitives db spid sigRl signature).byte 0 = typeRaMsg2 := by
  have field : (msg2Response build primitives db spid sigRl signature).load 0 1 =
      fun _ => typeRaMsg2 := by
    simp (disch := first | omega | (simp only [headerSize]; omega)) only [msg2Response, msg2Signed,
      msg2Header, Block.load_store_apart, Block.load_store_same]
  exact congrFun field 0

theorem msg2Response_sizeField :
    leValue ((msg2Response build primitives db spid sigRl signature).load 3 4) =
      (msg2Size sigRl).toNat := by
  simp (disch := first | omega | (simp only [headerSize]; omega)) only [msg2Response, msg2Signed,
    msg2Header, Block.load_store_apart, Block.load_store_same]
  exact leValue_littleEndian 4 _ (msg2Size sigRl).toNat_lt

theorem msg2Response_size :
    (msg2Response build primitives db spid sigRl signature).size =
      (msg2Size sigRl).toNat + headerSize := rfl

end Msg2

variable {table : List (SampleExtendedEpidGroup World)} {build : Build} {primitives : Primitives}

theorem msg0Reply_delivers (malloc : Nat → Bool) (provider : Provider) (calls : List SpCall) :
    Delivers typeRaMsg0 (msg0Reply malloc provider calls) := by
  intro accepted
  refine ⟨msg0Response, msg0Reply_accepted malloc provider calls accepted, msg0Response_type, ?_, ?_⟩
  · rw [msg0Response_sizeField, msg0Response_size]
    rfl
  · rw [msg0Response_size]
    rw [msg0Reply] at accepted ⊢
    split
    · simp
    · rename_i refused
      rw [if_neg refused] at accepted
      cases accepted

theorem msg0_delivers (calls : Msg0Calls World) (before : Provider) (extendedEpidGroupId : UInt32)
    (result : HandlerResult)
    (outcome : Msg0Outcome table calls before extendedEpidGroupId result) :
    Delivers typeRaMsg0 result := by
  cases outcome with
  | kept registered current => exact msg0Reply_delivers _ _ _
  | unsupported absent => exact msg0Reply_delivers _ _ _
  | enrollFailed i group entry same selects failed =>
      intro accepted
      cases accepted
  | enrolled i group entry same selects succeeded => exact msg0Reply_delivers _ _ _

theorem msg1_delivers (calls : Msg1Calls World) (before : Provider) (msg1 : SampleRaMsg1)
    (result : HandlerResult)
    (outcome : Msg1Outcome table build primitives calls before msg1 (.ok result)) :
    Delivers typeRaMsg2 result := by
  intro accepted
  cases outcome with
  | completed priv pub secret i sigRl signature =>
      refine ⟨_, rfl, msg2Response_type _ _ _ _ _ _, ?_, ?_⟩
      · rw [msg2Response_sizeField, msg2Response_size]
      · simp [msg2Response_size]
  | _ => cases accepted

def Addressed (request : RaSampRequest) : Prop :=
  (request.type = typeRaMsg0 ∧ request.size.toNat = sampleRaMsg0Size) ∨
    (request.type = typeRaMsg1 ∧ request.size.toNat = sampleRaMsg1Size)

theorem msg0_handled (calls : Msg0Calls World) (provider : Provider)
    (standing : Standing table provider) (msg0 : SampleRaMsg0) (msg0Size : UInt32) :
    ∃ handled, spRaProcMsg0Req table calls provider (some msg0) msg0Size true = .ok handled ∧
      Delivers typeRaMsg0 handled ∧
      (msg0Size.toNat ≠ sampleRaMsg0Size → handled.provider = provider ∧ handled.calls = []) := by
  by_cases exact : msg0Size.toNat = sampleRaMsg0Size
  · obtain ⟨handled, ran, outcome⟩ := msg0_outcome table calls provider msg0 msg0Size exact
      standing.inside
    exact ⟨handled, ran, msg0_delivers calls provider _ handled outcome,
      fun wrong => absurd exact wrong⟩
  · refine ⟨⟨-1, none, provider, []⟩, by simp [spRaProcMsg0Req, exact], ?_, fun _ => ⟨rfl, rfl⟩⟩
    intro accepted
    cases accepted

theorem msg1_handled (calls : Msg1Calls World) (provider : Provider)
    (standing : Standing table provider) (msg1 : SampleRaMsg1) (msg1Size : UInt32)
    (answers : ¬ (msg1Size.toNat = sampleRaMsg1Size ∧ provider.gIsSpRegistered = true ∧
      Overruns table build calls provider msg1)) :
    ∃ handled, spRaProcMsg1Req table build primitives calls provider (some msg1) msg1Size true =
        .ok handled ∧ Delivers typeRaMsg2 handled ∧
      (msg1Size.toNat ≠ sampleRaMsg1Size → handled.provider = provider ∧ handled.calls = []) := by
  by_cases exact : msg1Size.toNat = sampleRaMsg1Size
  · by_cases registered : provider.gIsSpRegistered = true
    · rcases msg1_registered primitives calls provider standing msg1 msg1Size exact registered with
        ⟨overruns, _⟩ | ⟨_, handled, ran, outcome⟩
      · exact absurd ⟨exact, registered, overruns⟩ answers
      · exact ⟨handled, ran, msg1_delivers calls provider msg1 handled outcome,
          fun wrong => absurd exact wrong⟩
    · refine ⟨⟨1, none, provider, []⟩, by simp [spRaProcMsg1Req, exact, registered,
        SpRaMsgStatus.code], ?_, fun _ => ⟨rfl, rfl⟩⟩
      intro accepted
      cases accepted
  · refine ⟨⟨-1, none, provider, []⟩, by simp [spRaProcMsg1Req, exact], ?_, fun _ => ⟨rfl, rfl⟩⟩
    intro accepted
    cases accepted

theorem deliver_handled (type : UInt8) (handled : HandlerResult)
    (delivers : Delivers type handled) :
    ∃ result, deliver handled = .ok result ∧
      result.provider = handled.provider ∧ result.calls = handled.calls ∧
      (result.ret = 0 ↔ handled.ret = 0) ∧ (result.ret ≠ 0 → result.resp = none) ∧
      (result.ret = 0 → ∃ response, result.resp = some (some response) ∧
        Frames type response result.calls) := by
  by_cases accepted : handled.ret = 0
  · obtain ⟨response, stored, frames⟩ := delivers accepted
    refine ⟨⟨handled.ret, some (some response), handled.provider, handled.calls⟩, ?_, rfl, rfl,
      Iff.rfl, fun failed => absurd accepted failed, fun _ => ⟨response, rfl, frames⟩⟩
    rw [deliver, if_neg (not_not.mpr accepted), stored]
  · exact ⟨⟨handled.ret, none, handled.provider, handled.calls⟩, if_pos accepted, rfl, rfl,
      Iff.rfl, fun _ => rfl, fun answered => absurd answered accepted⟩

def HandlerOk (table : List (SampleExtendedEpidGroup World)) (build : Build)
    (primitives : Primitives) (calls : RequestCalls World) (provider : Provider)
    (request : RaSampRequest) : Prop :=
  (request.type = typeRaMsg0 ∧ ∃ handled, spRaProcMsg0Req table calls.msg0 provider
    (some (asMsg0 request.body)) request.size true = .ok handled ∧
      handled.ret = SpRaMsgStatus.ok.code) ∨
  (request.type = typeRaMsg1 ∧ ∃ handled, spRaProcMsg1Req table build primitives calls.msg1 provider
    (some (asMsg1 request.body)) request.size true = .ok handled ∧
      handled.ret = SpRaMsgStatus.ok.code)

def answerType (type : UInt8) : UInt8 := if type = typeRaMsg0 then typeRaMsg0 else typeRaMsg2

/-- What the caller of `ra_network_send_receive` can rely on. -/
structure Framed (table : List (SampleExtendedEpidGroup World)) (build : Build)
    (primitives : Primitives) (calls : RequestCalls World) (provider : Provider)
    (request : RaSampRequest) (result : NetworkResult) : Prop where
  answered : result.ret = 0 ↔ HandlerOk table build primitives calls provider request
  framed : result.ret = 0 → ∃ response, result.resp = some (some response) ∧
    Frames (answerType request.type) response result.calls
  untouched : result.ret ≠ 0 → result.resp = none
  ignored : ¬ Addressed request → result.provider = provider ∧ result.calls = []

structure RequestOverruns (table : List (SampleExtendedEpidGroup World)) (build : Build)
    (calls : RequestCalls World) (provider : Provider) (request : RaSampRequest) : Prop where
  type : request.type = typeRaMsg1
  size : request.size.toNat = sampleRaMsg1Size
  registered : provider.gIsSpRegistered = true
  overruns : Overruns table build calls.msg1 provider (asMsg1 request.body)

theorem typeRaMsg1_ne : typeRaMsg1 ≠ typeRaMsg0 := by decide

theorem send_overruns (primitives : Primitives) (calls : RequestCalls World) (provider : Provider)
    (request : RaSampRequest) (overruns : RequestOverruns table build calls provider request) :
    raNetworkSendReceive table build primitives calls provider true (some request) true =
      .error .outOfBlock := by
  have faulted := (msg1_overruns_iff table build primitives calls.msg1 provider
    (asMsg1 request.body) request.size overruns.size overruns.registered).mpr overruns.overruns
  simp [raNetworkSendReceive, overruns.type, typeRaMsg1_ne, faulted, Except.bind]

theorem send_framed (primitives : Primitives) (calls : RequestCalls World) (provider : Provider)
    (standing : Standing table provider) (request : RaSampRequest)
    (answers : ¬ RequestOverruns table build calls provider request) :
    ∃ result, raNetworkSendReceive table build primitives calls provider true (some request)
        true = .ok result ∧ Framed table build primitives calls provider request result := by
  simp only [raNetworkSendReceive, Bool.true_eq_false, or_self, if_false]
  by_cases first : request.type = typeRaMsg0
  · obtain ⟨handled, ran, delivers, wrongSize⟩ := msg0_handled calls.msg0 provider standing
      (asMsg0 request.body) request.size
    obtain ⟨result, delivered, left, logged, same, untouched, framed⟩ :=
      deliver_handled typeRaMsg0 handled delivers
    rw [if_pos first, ran]
    refine ⟨result, delivered, ?_, ?_, untouched, ?_⟩
    · simp [HandlerOk, first, ran, same, typeRaMsg1_ne.symm, SpRaMsgStatus.code]
    · rw [answerType, if_pos first]
      exact framed
    · intro unaddressed
      rw [left, logged]
      exact wrongSize fun exact => unaddressed (.inl ⟨first, exact⟩)
  · rw [if_neg first]
    by_cases second : request.type = typeRaMsg1
    · obtain ⟨handled, ran, delivers, wrongSize⟩ := msg1_handled calls.msg1 provider standing
        (asMsg1 request.body) request.size
        fun overrun => answers ⟨second, overrun.1, overrun.2.1, overrun.2.2⟩
      obtain ⟨result, delivered, left, logged, same, untouched, framed⟩ :=
        deliver_handled typeRaMsg2 handled delivers
      rw [if_pos second, ran]
      refine ⟨result, delivered, ?_, ?_, untouched, ?_⟩
      · simp [HandlerOk, second, ran, same, typeRaMsg1_ne, SpRaMsgStatus.code]
      · rw [answerType, if_neg first]
        exact framed
      · intro unaddressed
        rw [left, logged]
        exact wrongSize fun exact => unaddressed (.inr ⟨second, exact⟩)
    · rw [if_neg second]
      refine ⟨_, rfl, ?_, ?_, fun _ => rfl, fun _ => ⟨rfl, rfl⟩⟩
      · simp [HandlerOk, first, second]
      · intro answered
        cases answered

theorem handled_framed (event : Event World) (standing : Standing table event.before)
    (handled : Handles table build primitives event) :
    Framed table build primitives event.calls event.before event.request event.result := by
  by_cases overruns : RequestOverruns table build event.calls event.before event.request
  · cases (send_overruns primitives _ _ _ overruns).symm.trans handled
  · obtain ⟨result, ran, framed⟩ := send_framed primitives event.calls event.before standing
      event.request overruns
    cases handled.symm.trans ran
    exact framed

/-- In every reachable state every request is answered in frame or not at all, but for a
MSG1 that overruns its response: that one is the end of the process. -/
theorem network_framing (table : List (SampleExtendedEpidGroup World)) (build : Build)
    (primitives : Primitives) (events : List (Event World)) (provider : Provider)
    (run : Run table build primitives events provider) (calls : RequestCalls World)
    (request : RaSampRequest) :
    (∃ result, raNetworkSendReceive table build primitives calls provider true (some request)
        true = .ok result ∧ Framed table build primitives calls provider request result) ↔
      ¬ RequestOverruns table build calls provider request := by
  constructor
  · rintro ⟨result, ran, _⟩ overruns
    cases (send_overruns primitives calls provider request overruns).symm.trans ran
  · exact send_framed primitives calls provider (run_standing _ events provider run) request

theorem network_framing_completed :
    ∃ result, raNetworkSendReceive (gExtendedEpidGroups Unit) .defaultKeyDerivation blankPrimitives
        smoothCalls registration.result.provider true (some helloMsg1) true = .ok result ∧
      Framed (gExtendedEpidGroups Unit) .defaultKeyDerivation blankPrimitives smoothCalls
        registration.result.provider helloMsg1 result ∧ result.ret = 0 := by
  obtain ⟨result, ran, framed⟩ := (network_framing (gExtendedEpidGroups Unit) .defaultKeyDerivation
    blankPrimitives [registration] registration.result.provider registration_run smoothCalls
    helloMsg1).mpr fun request => gExtendedEpidGroups_inside _ _ _ _ request.overruns
  have answered : raNetworkSendReceive (gExtendedEpidGroups Unit) .defaultKeyDerivation
      blankPrimitives smoothCalls registration.result.provider true (some helloMsg1) true =
        .ok completedExchange.result := rfl
  cases answered.symm.trans ran
  exact ⟨_, ran, framed, rfl⟩

/-- A registered provider whose group reports the shortest list that makes the size wrap:
the MSG1 is not answered at all. -/
theorem network_framing_wrapping :
    Run [listGroup wrappingList] .suppliedKeyDerivation blankPrimitives [askedZero]
        registeredZero ∧
      raNetworkSendReceive [listGroup wrappingList] .suppliedKeyDerivation blankPrimitives
        smoothCalls registeredZero true (some helloMsg1) true = .error .outOfBlock ∧
      ¬ ∃ result, raNetworkSendReceive [listGroup wrappingList] .suppliedKeyDerivation
          blankPrimitives smoothCalls registeredZero true (some helloMsg1) true = .ok result ∧
        Framed [listGroup wrappingList] .suppliedKeyDerivation blankPrimitives smoothCalls
          registeredZero helloMsg1 result := by
  have faulted := send_overruns blankPrimitives smoothCalls registeredZero helloMsg1
    ⟨rfl, rfl, rfl, list_overruns wrappingList wrappingList_length⟩
  refine ⟨listGroup_run wrappingList _ _, faulted, ?_⟩
  rintro ⟨result, ran, _⟩
  cases faulted.symm.trans ran

end SgxExperiments.Framing
