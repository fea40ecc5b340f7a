import SgxExperiments.LinkedRefinement
import SgxExperiments.AgreedKeys

/-!
What a whole process comes to: it always ends, in the provider if the MSG1 it sends
overruns its response, with the requests it has sent a run of the provider; and, with the provider's one group, when it gets as far as MSG3
and what the provider then keeps of the session.
-/

namespace SgxExperiments.LinkedMain

open ByteMemory KeyDerivation ServiceProvider NetworkRa Registration Framing
open AttestationApp Msg1Resources ProviderLife

variable {World : Type}

/-- Whatever the provider and the SDK do, the process ends as `main` does with the
provider's answers, unless it sends a MSG1 that overruns its response: then it dies in
the provider. What it has sent is a run of the provider, MSG0 before MSG1 and each at
most once; and it has read no response outside its block. -/
theorem linked_main_refines (table : List (SampleExtendedEpidGroup World)) (build : Build)
    (primitives : Primitives) (env : Surroundings World) :
    ∃ first, Handles table build primitives (env.msg0Event first) ∧
      ((Overrunning table build env first ∧
          main table build primitives env = .error .outOfBlock) ∨
        (¬ Overrunning table build env first ∧
          ∃ (second : NetworkResult) (answers : Answers table build primitives env first second)
              (exit : ProcessExit World),
            main table build primitives env = .ok exit ∧
            exit.app = AttestationApp.main answers.calls ∧
            Run table build primitives exit.process.events exit.process.provider ∧
            exit.process.events <+: [env.msg0Event first, env.msg1Event first second] ∧
            Inside exit.process)) := by
  obtain ⟨first, handled0⟩ := first_exists table build primitives env
  refine ⟨first, handled0, ?_⟩
  by_cases overruns : Overrunning table build env first
  · exact Or.inl ⟨overruns, main_overruns handled0 overruns⟩
  · obtain ⟨second, answers⟩ := answers_exist handled0 overruns
    obtain ⟨exit, ran, app, ended, _⟩ := main_simulates answers
    exact Or.inr ⟨overruns, second, answers, exit, ran, app, ended.run, ended.sent, ended.inside⟩

section OneGroup

def noSigRl : SigRl := ⟨[], Nat.two_pow_pos 32⟩

def sessionRecord (build : Build) (primitives : Primitives) (msg1 : SampleRaMsg1)
    (priv : SampleEcPriv) (pub : SampleEcPub) (secret : EcDhShared) : SpDbItem :=
  (startUp.exchanged msg1 priv pub).withKeys (sessionKeys primitives secret build)

def sessionMsg2 (build : Build) (primitives : Primitives) (msg1 : SampleRaMsg1)
    (priv : SampleEcPriv) (pub : SampleEcPub) (secret : EcDhShared) (signature : SampleEcSign256) :
    Block :=
  msg2Response build primitives (sessionRecord build primitives msg1 priv pub secret) gSimSpid
    noSigRl signature

def msg2Body (msg2 : Block) : List UInt8 := List.ofFn (msg2.load headerSize sampleRaMsg2Size)

variable (build : Build) (primitives : Primitives) (env : Surroundings World)

structure HandshakeSucceeds (priv : SampleEcPriv) (pub : SampleEcPub) (secret : EcDhShared)
    (signature : SampleEcSign256) : Prop where
  exchanged : Exchanged env.providerMsg1.msg1 (asMsg1 env.msg1) priv pub secret
  derived : DerivationsSucceed build env.providerMsg1.msg1
  obtained : env.providerMsg1.msg1.malloc 176 = true
  signed : env.providerMsg1.msg1.ecdsaSign (List.ofFn pub ++ List.ofFn (asMsg1 env.msg1).gA)
    gSpPrivKey = some signature
  maced : env.providerMsg1.msg1.cmac = .success

/-- Everything up to the exchange of MSG1: `sgx_select_att_key_id` is given the provider's own list. -/
structure SetUp : Prop where
  mallocMsg0 : env.mallocMsg0 = true
  answered : env.providerMsg0.msg0.malloc 272 = true
  selected : env.selectAttKeyId gEcdsaP256AttKeyIdList = .success
  started : Started (env.sdk [])
  msg1Made : Msg1Made (env.sdk [])

/-- Everything that MSG3 takes. `sgx_ra_proc_msg2_ex` is given MSG2 as the provider has
built it, without its header. -/
structure SessionSucceeds (priv : SampleEcPriv) (pub : SampleEcPub) (secret : EcDhShared)
    (signature : SampleEcSign256) : Prop where
  setUp : SetUp env
  handshake : HandshakeSucceeds build env priv pub secret signature
  msg3Made : Msg3Made (env.sdk (msg2Body (sessionMsg2 build primitives (asMsg1 env.msg1) priv pub
    secret signature)))

theorem msg0Response_body :
    List.ofFn (msg0Response.load headerSize 264) = gEcdsaP256AttKeyIdList := by
  have stored : msg0Response.load headerSize gEcdsaP256AttKeyIdList.length =
      bytesOfList gEcdsaP256AttKeyIdList := by
    rw [msg0Response, memcpyS_fits _ _ _ _ le_rfl]
    simp (disch := simp only [headerSize]; omega) only [Block.load_store_apart,
      Block.load_store_same]
  rw [← attKeyIdList_length, stored, bytesOfList_ofFn]

theorem msg0Reply_ret_iff (malloc : Nat → Bool) (provider : Provider) (calls : List SpCall) :
    (msg0Reply malloc provider calls).ret = 0 ↔ malloc 272 = true := by
  rw [msg0Reply]
  split
  · rename_i obtained
    exact iff_of_true rfl obtained
  · rename_i refused
    exact iff_of_false (by simp [SpRaMsgStatus.code]) refused

theorem noSigRl_size : (msg2Size noSigRl).toNat = sampleRaMsg2Size := by decide

variable {build primitives env} {first second : NetworkResult}

theorem first_registers
    (handled0 : Handles (gExtendedEpidGroups World) build primitives (env.msg0Event first)) :
    first.provider = registeredZero ∧
      (first.ret = 0 ↔ env.providerMsg0.msg0.malloc 272 = true) ∧
      (first.ret = 0 → first.resp = some (some msg0Response)) := by
  have isMsg0 : IsMsg0 (env.msg0Event first) := ⟨rfl, rfl⟩
  rcases handles_cases (env.msg0Event first) (startUp_standing _).inside handled0 with
    ⟨_, result, delivered, outcome⟩ | ⟨taken, _⟩ | ⟨notMsg0, _⟩
  · obtain ⟨ret, provider, _, resp⟩ := deliver_ok result first delivered
    cases outcome with
    | kept registered current => cases registered
    | unsupported absent => exact (absent _ (List.mem_singleton_self _) rfl).elim
    | enrollFailed i group entry same selects failed =>
        obtain ⟨rfl, rfl⟩ := gExtendedEpidGroups_entry i group entry
        exact (failed rfl).elim
    | enrolled i group entry same selects succeeded =>
        obtain ⟨rfl, rfl⟩ := gExtendedEpidGroups_entry i group entry
        refine ⟨provider.trans (msg0Reply_provider _ _ _), ?_, fun zero => ?_⟩
        · rw [ret]
          exact msg0Reply_ret_iff _ _ _
        · rw [ret] at zero
          exact (resp zero).trans (msg0Reply_accepted _ _ _ zero)
  · have types : typeRaMsg0 = typeRaMsg1 := taken.1
    cases types
  · exact (notMsg0 isMsg0).elim

theorem fetched_empty (calls : Msg1Calls World) (msg1 : SampleRaMsg1) :
    Fetched (gExtendedEpidGroups World) calls registeredZero msg1 0 noSigRl :=
  ⟨rfl, _, rfl, rfl⟩

theorem second_answers
    (answers : Answers (gExtendedEpidGroups World) build primitives env first second)
    (sent : Sends env first) :
    (second.ret = 0 ↔ ∃ priv pub secret signature,
      HandshakeSucceeds build env priv pub secret signature) ∧
    ∀ priv pub secret signature, HandshakeSucceeds build env priv pub secret signature →
      second.resp = some (some (sessionMsg2 build primitives (asMsg1 env.msg1) priv pub secret
        signature)) ∧
      second.provider = registeredZero.withDb (sessionRecord build primitives (asMsg1 env.msg1)
        priv pub secret) := by
  obtain ⟨registered, _⟩ := first_registers answers.handled0
  have standing := run_standing _ _ _ (afterFirst answers.handled0)
  have taken : TakenUp (env.msg1Event first second) := by
    refine ⟨rfl, rfl, ?_⟩
    rw [Surroundings.msg1Event, registered]
    rfl
  rcases handles_cases (env.msg1Event first second) standing.inside (answers.handled1 sent) with
    ⟨isMsg0, _⟩ | ⟨_, result, delivered, outcome⟩ | ⟨_, notTaken, _⟩
  · cases isMsg0.1
  · change Msg1Outcome _ _ _ env.providerMsg1.msg1 first.provider (asMsg1 env.msg1) _ at outcome
    rw [registered] at outcome
    obtain ⟨ret, provider, _, resp⟩ := deliver_ok result second delivered
    have fetched := fetched_empty env.providerMsg1.msg1 (asMsg1 env.msg1)
    constructor
    · rw [ret, outcome_accepted_iff _ _ _ _ outcome]
      constructor
      · rintro ⟨priv, pub, secret, i, sigRl, all⟩
        obtain ⟨rfl, rfl⟩ := fetched_unique _ _ _ _ _ _ _ _ rfl fetched all.fetched
        obtain ⟨signature, signed⟩ := Option.ne_none_iff_exists'.mp all.signed
        exact ⟨priv, pub, secret, signature, all.exchanged, all.derived, all.obtained, signed,
          all.maced⟩
      · rintro ⟨priv, pub, secret, signature, succeeds⟩
        exact ⟨priv, pub, secret, 0, noSigRl, succeeds.exchanged, fetched, succeeds.derived,
          succeeds.obtained, by rw [succeeds.signed]; exact Option.some_ne_none _, succeeds.maced⟩
    · intro priv pub secret signature succeeds
      obtain ⟨same, _⟩ |
          ⟨answer, same, record, ⟨_, _, failed⟩ | ⟨made, signed, accepted, reply⟩⟩ :=
        derived_cases build primitives _ registeredZero _ priv pub secret 0 noSigRl
          succeeds.exchanged fetched ((derivationsSucceed_iff build primitives _ secret).mpr succeeds.derived) _
          outcome
      · cases same
      · rcases failed with noBlock | unsigned | ⟨left, unmaced⟩
        · cases noBlock.symm.trans succeeds.obtained
        · cases unsigned.symm.trans succeeds.signed
        · cases unmaced.symm.trans succeeds.maced
      · cases same
        cases signed.symm.trans succeeds.signed
        exact ⟨(resp accepted).trans reply, provider.trans record⟩
  · exact (notTaken taken).elim

theorem bodyOf_first
    (handled0 : Handles (gExtendedEpidGroups World) build primitives (env.msg0Event first))
    (answered : first.ret = 0) : bodyOf first = gEcdsaP256AttKeyIdList := by
  rw [bodyOf_given first _ ((first_registers handled0).2.2 answered), msg0Response_sizeField,
    msg0Response_body]

theorem bodyOf_second
    (answers : Answers (gExtendedEpidGroups World) build primitives env first second)
    (sent : Sends env first) (priv : SampleEcPriv) (pub : SampleEcPub) (secret : EcDhShared) (signature : SampleEcSign256)
    (succeeds : HandshakeSucceeds build env priv pub secret signature) :
    bodyOf second =
      msg2Body (sessionMsg2 build primitives (asMsg1 env.msg1) priv pub secret signature) := by
  rw [bodyOf_given second _ ((second_answers answers sent).2 _ _ _ _ succeeds).1, sessionMsg2,
    msg2Response_sizeField, noSigRl_size, msg2Body]

theorem setUp_sends
    (handled0 : Handles (gExtendedEpidGroups World) build primitives (env.msg0Event first)) :
    SetUp env ↔ Sends env first := by
  obtain ⟨_, answered, _⟩ := first_registers handled0
  constructor
  · intro setUp
    have ret := answered.mpr setUp.answered
    have selected := setUp.selected
    rw [← bodyOf_first handled0 ret] at selected
    exact ⟨setUp.mallocMsg0, ret, selected, setUp.started, setUp.msg1Made⟩
  · intro sent
    have selected := sent.selected
    rw [bodyOf_first handled0 sent.answered] at selected
    exact ⟨sent.mallocMsg0, answered.mp sent.answered, selected, sent.started, sent.msg1Made⟩

theorem allSucceed_iff
    (answers : Answers (gExtendedEpidGroups World) build primitives env first second) :
    AllSucceed answers.calls ↔ ∃ priv pub secret signature,
      SessionSucceeds build primitives env priv pub secret signature := by
  have received : Sends env first → (Msg2Received answers.calls ↔ second.ret = 0) := fun sent =>
    msg2Received_iff answers.calls _ (env.msg1Event first second) (afterFirst answers.handled0)
      (answers.handled1 sent) rfl rfl
  constructor
  · rintro ⟨⟨⟨allocated, ret, selected⟩, started, msg1Made, got⟩, msg3Made⟩
    have sent : Sends env first := ⟨allocated, ret, selected, started, msg1Made⟩
    obtain ⟨priv, pub, secret, signature, handshake⟩ :=
      (second_answers answers sent).1.mp ((received sent).mp got)
    change Msg3Made (env.sdk (bodyOf second)) at msg3Made
    rw [bodyOf_second answers sent _ _ _ _ handshake] at msg3Made
    exact ⟨priv, pub, secret, signature, (setUp_sends answers.handled0).mpr sent, handshake, msg3Made⟩
  · rintro ⟨priv, pub, secret, signature, setUp, handshake, msg3Made⟩
    have sent := (setUp_sends answers.handled0).mp setUp
    rw [← bodyOf_second answers sent _ _ _ _ handshake] at msg3Made
    exact ⟨⟨⟨sent.mallocMsg0, sent.answered, sent.selected⟩, sent.started, sent.msg1Made,
      (received sent).mpr ((second_answers answers sent).1.mpr ⟨_, _, _, _, handshake⟩)⟩, msg3Made⟩

/-- The process produces MSG3 exactly when the calls it makes succeed, the SDK's on the
provider's own bytes; the provider is then left registered and with the record of
this very session. -/
theorem linked_msg3_iff (build : Build) (primitives : Primitives) (env : Surroundings World) :
    ∃ exit, main (gExtendedEpidGroups World) build primitives env = .ok exit ∧
      (.processed .success true ∈ exit.app.events ↔ ∃ priv pub secret signature,
        SessionSucceeds build primitives env priv pub secret signature) ∧
      ∀ priv pub secret signature,
        SessionSucceeds build primitives env priv pub secret signature →
          exit.process.provider = registeredZero.withDb (sessionRecord build primitives
            (asMsg1 env.msg1) priv pub secret) := by
  obtain ⟨first, handled0⟩ := first_exists (gExtendedEpidGroups World) build primitives env
  obtain ⟨second, answers⟩ := answers_exist handled0
    fun overrunning => gExtendedEpidGroups_inside _ _ _ _ overrunning.2.overruns
  obtain ⟨exit, ran, app, _, complete⟩ := main_simulates answers
  refine ⟨exit, ran, ?_, ?_⟩
  · rw [app, main_msg3, allSucceed_iff]
  · intro priv pub secret signature succeeds
    have all := (allSucceed_iff answers).mpr ⟨_, _, _, _, succeeds⟩
    have sent := (setUp_sends handled0).mp succeeds.setUp
    exact (complete all).2.trans ((second_answers answers sent).2 _ _ _ _ succeeds.handshake).2

def smoothSurroundings : Surroundings Unit where
  mallocMsg0 := true
  providerMsg0 := Registration.smoothCalls
  selectAttKeyId _ := .success
  createEnclave _ := .success
  initRa _ := .returned .success 0
  mallocMsg1 := true
  getMsg1 _ := .success
  msg1 _ := 1
  providerMsg1 := Registration.smoothCalls
  procMsg2 _ _ := ⟨.success, true⟩
  raClose := ⟨.success, .success⟩

example : SessionSucceeds .suppliedKeyDerivation blankPrimitives smoothSurroundings (fun _ => 2)
    (fun _ => 3) (fun _ => 4) (fun _ => 5) := by
  have notLost : SgxStatus.success ≠ .errorEnclaveLost := by decide
  have notBusy : SgxStatus.success ≠ .errorBusy := by decide
  constructor
  · refine ⟨rfl, rfl, rfl, ⟨0, ?_, fun _ _ => rfl, 0, rfl⟩, rfl, 0, ?_, rfl⟩
    · exact ⟨Nat.zero_le 1, nofun, fun _ => notLost⟩
    · exact ⟨Nat.zero_le 4, nofun, fun _ => notBusy⟩
  · exact ⟨⟨rfl, rfl, rfl⟩, fun key => by cases key <;> rfl, rfl, rfl, rfl⟩
  · exact ⟨0, ⟨Nat.zero_le 2, nofun, fun _ => notBusy⟩, rfl, 0, Nat.zero_lt_one, rfl⟩

end OneGroup

end SgxExperiments.LinkedMain
