import SgxExperiments.Registration

/-!
What one MSG1 acquires and gives back: the ECC context and the response block,
whatever fails on the way, unless the process ends at a store outside that block.
-/

namespace SgxExperiments.Msg1Resources

open KeyDerivation ServiceProvider NetworkRa Registration

variable {World : Type}

/-- All calls that a MSG1 makes, each with the arguments it then has. -/
structure AllSucceed (table : List (SampleExtendedEpidGroup World)) (build : Build)
    (calls : Msg1Calls World) (provider : Provider) (msg1 : SampleRaMsg1) (priv : SampleEcPriv)
    (pub : SampleEcPub) (secret : EcDhShared) (i : Nat) (sigRl : SigRl) : Prop where
  exchanged : Exchanged calls msg1 priv pub secret
  fetched : Fetched table calls provider msg1 i sigRl
  derived : DerivationsSucceed build calls
  obtained : calls.malloc ((msg2Size sigRl).toNat + headerSize) = true
  signed : calls.ecdsaSign (List.ofFn pub ++ List.ofFn msg1.gA) gSpPrivKey ≠ none
  maced : calls.cmac = .success

def HandedOver (result : HandlerResult) : Prop :=
  ∃ block, result.response = some (some block) ∧ .malloc block.size true ∈ result.calls ∧
    result.calls.count .free = 0

def Freed (result : HandlerResult) : Prop :=
  result.response = some none ∧ result.calls.count .free = 1

def Allocated (result : HandlerResult) : Prop := ∃ size, .malloc size true ∈ result.calls

structure Balanced (calls : Msg1Calls World) (result : HandlerResult) : Prop where
  opened : .openContext calls.openContext ∈ result.calls
  closed : result.calls.count .closeContext = if calls.openContext then 1 else 0
  accepted : Allocated result → result.ret = 0 → HandedOver result
  rejected : Allocated result → result.ret ≠ 0 → Freed result
  nothing : ¬ Allocated result →
    result.ret ≠ 0 ∧ result.response = some none ∧ result.calls.count .free = 0

variable {table : List (SampleExtendedEpidGroup World)} {build : Build} {primitives : Primitives}

theorem outcome_balanced (calls : Msg1Calls World) (provider : Provider) (msg1 : SampleRaMsg1)
    (result : HandlerResult)
    (outcome : Msg1Outcome table build primitives calls provider msg1 (.ok result)) :
    Balanced calls result := by
  cases outcome with
  | openFailed failed => constructor <;> simp [failed, Allocated]
  | keyPairFailed opened failed => constructor <;> simp [opened, Allocated, SpRaMsgStatus.code]
  | dhFailed priv pub opened keyPair failed =>
      constructor <;> simp [opened, Allocated, SpRaMsgStatus.code]
  | sigrlFailed priv pub secret i group exchanged pointer entry failed =>
      constructor <;> simp [exchanged.opened, Allocated, SpRaMsgStatus.code]
  | deriveFailed priv pub secret i sigRl exchanged fetched failed =>
      constructor <;> simp [exchanged.opened, Allocated, SpRaMsgStatus.code]
  | mallocFailed priv pub secret i sigRl exchanged fetched derived failed =>
      constructor <;> simp [exchanged.opened, Allocated, SpRaMsgStatus.code]
  | sealFailed priv pub secret i sigRl exchanged fetched derived obtained inside failed =>
      constructor <;> simp [exchanged.opened, Allocated, Freed, SpRaMsgStatus.code]
  | completed priv pub secret i sigRl signature exchanged =>
      have size : ∀ db, (msg2Response build primitives db provider.gSpid sigRl signature).size =
          (msg2Size sigRl).toNat + headerSize := fun _ => rfl
      constructor <;> simp [exchanged.opened, Allocated, HandedOver, SpRaMsgStatus.code, size]

theorem outcome_accepted_iff (calls : Msg1Calls World) (provider : Provider) (msg1 : SampleRaMsg1)
    (result : HandlerResult)
    (outcome : Msg1Outcome table build primitives calls provider msg1 (.ok result)) :
    result.ret = 0 ↔ ∃ priv pub secret i sigRl,
      AllSucceed table build calls provider msg1 priv pub secret i sigRl := by
  constructor
  · intro accepted
    cases outcome with
    | completed priv pub secret i sigRl signature exchanged fetched derived obtained _ signed maced =>
        rw [runSteps_all] at derived
        have found : calls.ecdsaSign (List.ofFn pub ++ List.ofFn msg1.gA) gSpPrivKey ≠ none := by
          rw [signed]
          exact Option.some_ne_none signature
        exact ⟨priv, pub, secret, i, sigRl, exchanged, fetched,
          (derivationsSucceed_iff build primitives calls secret).mp derived, obtained, found, maced⟩
    | _ => cases accepted
  · rintro ⟨priv, pub, secret, i, sigRl, all⟩
    obtain ⟨faulted, _⟩ | ⟨answer, same, _, ⟨_, _, failed⟩ | ⟨_, _, accepted, _⟩⟩ :=
      derived_cases build primitives calls provider msg1 priv pub secret i sigRl all.exchanged
        all.fetched ((derivationsSucceed_iff build primitives calls secret).mpr all.derived) _ outcome
    · cases faulted
    · rcases failed with noBlock | unsigned | ⟨left, unmaced⟩
      · cases noBlock.symm.trans all.obtained
      · exact absurd unsigned all.signed
      · cases unmaced.symm.trans all.maced
    · cases same
      exact accepted

/-- In every reachable state that is registered, a MSG1 of the right size returns, 0
exactly when all its calls succeed, with its books balanced either way, unless it
overruns its response. -/
theorem msg1_balanced (table : List (SampleExtendedEpidGroup World)) (build : Build)
    (primitives : Primitives) (events : List (Event World)) (provider : Provider)
    (run : Run table build primitives events provider)
    (registered : provider.gIsSpRegistered = true) (calls : Msg1Calls World) (msg1 : SampleRaMsg1)
    (msg1Size : UInt32) (exact : msg1Size.toNat = sampleRaMsg1Size) :
    (∃ result, spRaProcMsg1Req table build primitives calls provider (some msg1) msg1Size true =
        .ok result ∧
      (result.ret = 0 ↔ ∃ priv pub secret i sigRl,
        AllSucceed table build calls provider msg1 priv pub secret i sigRl) ∧
      Balanced calls result) ↔
      ¬ Overruns table build calls provider msg1 := by
  rcases msg1_registered primitives calls provider (run_standing _ events provider run) msg1
    msg1Size exact registered with ⟨overruns, faulted⟩ | ⟨answers, result, ran, outcome⟩
  · refine iff_of_false ?_ (not_not.mpr overruns)
    rintro ⟨result, ran, _⟩
    cases faulted.symm.trans ran
  · exact iff_of_true ⟨result, ran, outcome_accepted_iff calls provider msg1 result outcome,
      outcome_balanced calls provider msg1 result outcome⟩ answers

theorem msg1_balanced_completed :
    ∃ result, spRaProcMsg1Req (gExtendedEpidGroups Unit) .defaultKeyDerivation blankPrimitives
        smoothCalls.msg1 registration.result.provider (some (asMsg1 fun _ => 1)) 68 true =
          .ok result ∧
      result.ret = 0 ∧ Balanced smoothCalls.msg1 result ∧ Allocated result ∧ HandedOver result ∧
      result.calls.count .closeContext = 1 := by
  obtain ⟨result, ran, accepted, balanced⟩ := (msg1_balanced (gExtendedEpidGroups Unit)
    .defaultKeyDerivation blankPrimitives _ _ registration_run rfl smoothCalls.msg1
    (asMsg1 fun _ => 1) 68 rfl).mpr (gExtendedEpidGroups_inside _ _ _ _)
  have returned : result.ret = 0 := accepted.mpr ⟨_, _, _, 0, ⟨[], by decide⟩, ⟨rfl, rfl, rfl⟩,
    ⟨rfl, _, rfl, rfl⟩, fun key => by cases key <;> rfl, rfl, nofun, rfl⟩
  have allocated : Allocated result := by
    by_contra nothing
    exact (balanced.nothing nothing).1 returned
  exact ⟨result, ran, returned, balanced, allocated, balanced.accepted allocated returned,
    balanced.closed⟩

/-- Every call succeeds for the shortest list that makes the size wrap, and MSG1 does not
return. -/
theorem msg1_balanced_wrapping :
    Run [listGroup wrappingList] .suppliedKeyDerivation blankPrimitives [askedZero]
        registeredZero ∧
      (∃ priv pub secret i sigRl, AllSucceed [listGroup wrappingList] .suppliedKeyDerivation
        smoothCalls.msg1 registeredZero (asMsg1 fun _ => 1) priv pub secret i sigRl) ∧
      spRaProcMsg1Req [listGroup wrappingList] .suppliedKeyDerivation blankPrimitives
        smoothCalls.msg1 registeredZero (some (asMsg1 fun _ => 1)) 68 true =
          .error .outOfBlock ∧
      ¬ ∃ result, spRaProcMsg1Req [listGroup wrappingList] .suppliedKeyDerivation blankPrimitives
          smoothCalls.msg1 registeredZero (some (asMsg1 fun _ => 1)) 68 true = .ok result ∧
        result.ret = 0 := by
  have faulted := (msg1_overruns_iff [listGroup wrappingList] .suppliedKeyDerivation
    blankPrimitives smoothCalls.msg1 registeredZero (asMsg1 fun _ => 1) 68 rfl rfl).mpr
      (list_overruns wrappingList wrappingList_length)
  refine ⟨listGroup_run wrappingList _ _, ?_, faulted, ?_⟩
  · exact ⟨_, _, _, 0, wrappingList, ⟨rfl, rfl, rfl⟩, listGroup_fetched wrappingList,
      fun key => by cases key <;> rfl, rfl, nofun, rfl⟩
  · rintro ⟨result, ran, _⟩
    cases faulted.symm.trans ran

end SgxExperiments.Msg1Resources
