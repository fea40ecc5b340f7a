import SgxExperiments.HandlerOutcomes

/-!
When a MSG1 overruns its response. The outcomes of its calls leave it one way to end,
and it goes beyond the block only when all of them up to the allocation succeed and
the list is so long that the 32-bit size wraps.
-/

namespace SgxExperiments.ServiceProvider

open KeyDerivation

variable {World : Type}

section Uniqueness

variable {table : List (SampleExtendedEpidGroup World)}

theorem exchanged_unique (calls : Msg1Calls World) (msg1 : SampleRaMsg1)
    (priv other : SampleEcPriv) (pub otherPub : SampleEcPub) (secret otherSecret : EcDhShared)
    (first : Exchanged calls msg1 priv pub secret)
    (second : Exchanged calls msg1 other otherPub otherSecret) :
    other = priv ∧ otherPub = pub ∧ otherSecret = secret := by
  have pairs := first.keyPair.symm.trans second.keyPair
  cases pairs
  have secrets := first.shared.symm.trans second.shared
  cases secrets
  exact ⟨rfl, rfl, rfl⟩

theorem fetched_unique (calls : Msg1Calls World) (provider other : Provider) (msg1 : SampleRaMsg1)
    (i j : Nat) (sigRl otherList : SigRl)
    (same : other.gSpExtendedEpidGroupId = provider.gSpExtendedEpidGroupId)
    (first : Fetched table calls provider msg1 i sigRl)
    (second : Fetched table calls other msg1 j otherList) : j = i ∧ otherList = sigRl := by
  have pointers := first.pointer.symm.trans (same.symm.trans second.pointer)
  cases pointers
  obtain ⟨group, entry, answer⟩ := first.answer
  obtain ⟨found, entryAgain, answerAgain⟩ := second.answer
  have groups := entry.symm.trans entryAgain
  cases groups
  have answers := answer.symm.trans answerAgain
  cases answers
  exact ⟨rfl, rfl⟩

/-- From the revocation list on with a derivation that goes through, the record is
complete; `malloc` and the length of the list decide whether the process comes back,
and the rest of the calls about the reply. -/
theorem derived_cases (build : Build) (primitives : Primitives) (calls : Msg1Calls World)
    (provider : Provider) (msg1 : SampleRaMsg1) (priv : SampleEcPriv) (pub : SampleEcPub)
    (secret : EcDhShared) (i : Nat) (sigRl : SigRl)
    (exchanged : Exchanged calls msg1 priv pub secret)
    (fetched : Fetched table calls provider msg1 i sigRl)
    (derived : ((deriveSteps build primitives calls secret).all fun step => step.succeeds) = true)
    (answer : Except Fault HandlerResult)
    (outcome : Msg1Outcome table build primitives calls provider msg1 answer) :
    (answer = .error .outOfBlock ∧ calls.malloc ((msg2Size sigRl).toNat + headerSize) = true ∧
      (msg2Size sigRl).toNat < reach calls (List.ofFn pub ++ List.ofFn msg1.gA) sigRl) ∨
    ∃ result, answer = .ok result ∧
      result.provider = provider.withDb ((provider.exchanged msg1 priv pub).withKeys
        (sessionKeys primitives secret build)) ∧
      ((result.ret ≠ 0 ∧ result.response = some none ∧
          (calls.malloc ((msg2Size sigRl).toNat + headerSize) = false ∨
            calls.ecdsaSign (List.ofFn pub ++ List.ofFn msg1.gA) gSpPrivKey = none ∨
            ∃ left, calls.cmac = .failure left)) ∨
        ∃ signature, calls.ecdsaSign (List.ofFn pub ++ List.ofFn msg1.gA) gSpPrivKey =
            some signature ∧
          result.ret = 0 ∧ result.response = some (some (msg2Response build primitives
            ((provider.exchanged msg1 priv pub).withKeys (sessionKeys primitives secret build))
            provider.gSpid sigRl signature))) := by
  have exchange := exchanged_unique calls msg1 priv
  have list := @fetched_unique World table calls provider provider msg1 i
  cases outcome with
  | openFailed failed =>
      have opened := exchanged.opened
      rw [failed] at opened
      cases opened
  | keyPairFailed _ failed =>
      have keyPair := exchanged.keyPair
      rw [failed] at keyPair
      cases keyPair
  | dhFailed priv' pub' _ generated failed =>
      have pairs := exchanged.keyPair.symm.trans generated
      cases pairs
      have shared := exchanged.shared
      rw [failed] at shared
      cases shared
  | nullGroup pointer =>
      have pointers := fetched.pointer.symm.trans pointer
      cases pointers
  | wildGroup j pointer outside =>
      have pointers := fetched.pointer.symm.trans pointer
      cases pointers
      obtain ⟨group, entry, _⟩ := fetched.answer
      rw [outside] at entry
      cases entry
  | sigrlFailed priv' pub' secret' j asked exchanged' pointer entry' failed =>
      have pointers := fetched.pointer.symm.trans pointer
      cases pointers
      obtain ⟨group, entry, answer⟩ := fetched.answer
      have groups := entry.symm.trans entry'
      cases groups
      rw [answer] at failed
      exact (failed rfl).elim
  | deriveFailed priv' pub' secret' j sigRl' exchanged' fetched' failed =>
      obtain ⟨rfl, rfl, rfl⟩ := exchange _ _ _ _ _ exchanged exchanged'
      rw [runSteps_all, derived] at failed
      cases failed
  | mallocFailed priv' pub' secret' j sigRl' exchanged' fetched' derived' failed =>
      obtain ⟨rfl, rfl, rfl⟩ := exchange _ _ _ _ _ exchanged exchanged'
      obtain ⟨rfl, rfl⟩ := list _ _ _ rfl fetched fetched'
      exact Or.inr ⟨_, rfl, rfl, Or.inl ⟨internalError_ne, rfl, Or.inl failed⟩⟩
  | overrun priv' pub' secret' j sigRl' exchanged' fetched' derived' obtained beyond =>
      obtain ⟨rfl, rfl, rfl⟩ := exchange _ _ _ _ _ exchanged exchanged'
      obtain ⟨rfl, rfl⟩ := list _ _ _ rfl fetched fetched'
      exact Or.inl ⟨rfl, obtained, beyond⟩
  | sealFailed priv' pub' secret' j sigRl' exchanged' fetched' derived' obtained inside failed =>
      obtain ⟨rfl, rfl, rfl⟩ := exchange _ _ _ _ _ exchanged exchanged'
      obtain ⟨rfl, rfl⟩ := list _ _ _ rfl fetched fetched'
      exact Or.inr ⟨_, rfl, rfl, Or.inl ⟨internalError_ne, rfl, Or.inr failed⟩⟩
  | completed priv' pub' secret' j sigRl' signature exchanged' fetched' _ _ inside signed =>
      obtain ⟨rfl, rfl, rfl⟩ := exchange _ _ _ _ _ exchanged exchanged'
      obtain ⟨rfl, rfl⟩ := list _ _ _ rfl fetched fetched'
      exact Or.inr ⟨_, rfl, rfl, Or.inr ⟨signature, signed, rfl, rfl⟩⟩

end Uniqueness

section Overrun

/-- The response is allocated, for a list so long that the 32-bit size wraps, and then
stored to beyond the block. -/
structure Overrun (table : List (SampleExtendedEpidGroup World)) (build : Build)
    (calls : Msg1Calls World) (provider : Provider) (msg1 : SampleRaMsg1) (priv : SampleEcPriv)
    (pub : SampleEcPub) (secret : EcDhShared) (i : Nat) (sigRl : SigRl) : Prop where
  exchanged : Exchanged calls msg1 priv pub secret
  fetched : Fetched table calls provider msg1 i sigRl
  derived : DerivationsSucceed build calls
  obtained : calls.malloc ((msg2Size sigRl).toNat + headerSize) = true
  beyond : (msg2Size sigRl).toNat < reach calls (List.ofFn pub ++ List.ofFn msg1.gA) sigRl

def Overruns (table : List (SampleExtendedEpidGroup World)) (build : Build)
    (calls : Msg1Calls World) (provider : Provider) (msg1 : SampleRaMsg1) : Prop :=
  ∃ priv pub secret i sigRl, Overrun table build calls provider msg1 priv pub secret i sigRl

theorem msg2Size_mod (sigRl : SigRl) :
    (msg2Size sigRl).toNat = (sampleRaMsg2Size + sigRl.bytes.length) % 2 ^ 32 := by
  rw [msg2Size, UInt32.toNat_add, sigRl_size]
  rfl

theorem msg2Size_toNat (sigRl : SigRl) (fits : sampleRaMsg2Size + sigRl.bytes.length < 2 ^ 32) :
    (msg2Size sigRl).toNat = sampleRaMsg2Size + sigRl.bytes.length := by
  rw [msg2Size_mod, Nat.mod_eq_of_lt fits]

theorem reach_le (calls : Msg1Calls World) (signed : List UInt8) (sigRl : SigRl) :
    reach calls signed sigRl ≤ sampleRaMsg2Size + sigRl.bytes.length := by
  rw [reach, sampleRaMsg2Size]
  split <;> omega

theorem Overrun.wraps {table : List (SampleExtendedEpidGroup World)} {build : Build}
    {calls : Msg1Calls World} {provider : Provider} {msg1 : SampleRaMsg1} {priv : SampleEcPriv}
    {pub : SampleEcPub} {secret : EcDhShared} {i : Nat} {sigRl : SigRl}
    (overrun : Overrun table build calls provider msg1 priv pub secret i sigRl) :
    2 ^ 32 ≤ sampleRaMsg2Size + sigRl.bytes.length := by
  by_contra short
  have beyond := overrun.beyond
  rw [msg2Size_toNat sigRl (Nat.not_le.mp short)] at beyond
  exact Nat.not_le.mpr beyond (reach_le calls _ sigRl)

theorem gExtendedEpidGroups_inside (build : Build) (calls : Msg1Calls World) (provider : Provider)
    (msg1 : SampleRaMsg1) : ¬ Overruns (gExtendedEpidGroups World) build calls provider msg1 := by
  rintro ⟨_, _, _, i, sigRl, overrun⟩
  have wraps := overrun.wraps
  obtain ⟨group, entry, answer⟩ := overrun.fetched.answer
  cases i with
  | zero =>
      cases entry
      cases answer
      exact absurd wraps (by decide)
  | succ i => cases entry

section Ends

variable {table : List (SampleExtendedEpidGroup World)} {build : Build} {calls : Msg1Calls World}
  {provider : Provider} {msg1 : SampleRaMsg1}

theorem Overrun.ends {priv : SampleEcPriv} {pub : SampleEcPub} {secret : EcDhShared} {i : Nat}
    {sigRl : SigRl} (overrun : Overrun table build calls provider msg1 priv pub secret i sigRl)
    (primitives : Primitives) :
    ∃ written, prepareMsg2 table build primitives calls msg1 ⟨provider, 0, none, false, []⟩ =
      .error (.fault .outOfBlock)
        ⟨provider.withDb ((provider.exchanged msg1 priv pub).withKeys
            (sessionKeys primitives secret build)), 0, some written, true,
          fetchedLog build primitives calls secret i ++
            [.malloc ((msg2Size sigRl).toNat + headerSize) true]⟩ := by
  have derived := (derivationsSucceed_iff build primitives calls secret).mpr overrun.derived
  rw [← runSteps_all _ (provider.exchanged msg1 priv pub)] at derived
  rw [prepareMsg2_allocated build primitives overrun.exchanged overrun.fetched derived
    overrun.obtained]
  exact fillMsg2_overruns build primitives calls sigRl _ 0 true _ overrun.beyond

/-- A MSG1 that is taken up ends the process in this way exactly when it overruns. -/
theorem msg1_overruns_iff (table : List (SampleExtendedEpidGroup World)) (build : Build)
    (primitives : Primitives) (calls : Msg1Calls World) (provider : Provider)
    (msg1 : SampleRaMsg1) (msg1Size : UInt32) (exact : msg1Size.toNat = sampleRaMsg1Size)
    (registered : provider.gIsSpRegistered = true) :
    spRaProcMsg1Req table build primitives calls provider (some msg1) msg1Size true =
        .error .outOfBlock ↔
      Overruns table build calls provider msg1 := by
  constructor
  · intro ran
    have outcome := msg1_outcome table build primitives calls provider msg1 msg1Size exact registered
    rw [ran] at outcome
    cases outcome with
    | overrun priv pub secret i sigRl exchanged fetched derived obtained beyond =>
        rw [runSteps_all] at derived
        exact ⟨priv, pub, secret, i, sigRl, exchanged, fetched,
          (derivationsSucceed_iff build primitives calls secret).mp derived, obtained, beyond⟩
  · rintro ⟨priv, pub, secret, i, sigRl, overrun⟩
    obtain ⟨written, ends⟩ := overrun.ends primitives
    simp only [spRaProcMsg1Req, Bool.true_eq_false, exact, ne_eq, not_true_eq_false, or_self,
      if_false, registered, ends]
    rfl

end Ends

end Overrun

end SgxExperiments.ServiceProvider
