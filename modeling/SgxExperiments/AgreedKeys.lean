import SgxExperiments.Msg2

/-!
Both ends of the exchange in the build with the supplied derivation: the
enclave's `key_derivation`, called with the `kdf_id` of MSG2, writes the keys
that the service provider has stored.
-/

namespace SgxExperiments.AgreedKeys

open ByteMemory BreakableBlock KeyDerivation ServiceProvider NetworkRa Registration Msg2

theorem keyDerivation_succeed (primitives : Primitives) (calls : Enclave.DeriveKeyType → ShaCalls)
    (secret : EcDhShared) (succeed : ∀ key, (calls key).succeed = true) :
    Enclave.keyDerivation primitives.sha256 calls (some secret) Enclave.isvKdfId =
      (.success,
        ⟨some (sessionKeys primitives secret .suppliedKeyDerivation).smkKey,
          some (sessionKeys primitives secret .suppliedKeyDerivation).skKey,
          some (sessionKeys primitives secret .suppliedKeyDerivation).mkKey,
          some (sessionKeys primitives secret .suppliedKeyDerivation).vkKey⟩) := by
  simp only [Enclave.keyDerivation, ne_eq, not_true_eq_false, if_false, enclave_deriveKey_outcome,
    succeed, if_true]
  rfl

theorem keyDerivation_mismatch (sha256 : List UInt8 → Bytes 32)
    (calls : Enclave.DeriveKeyType → ShaCalls) (secret : EcDhShared) (kdf : UInt16)
    (other : kdf ≠ Enclave.isvKdfId) :
    Enclave.keyDerivation sha256 calls (some secret) kdf =
      (.errorKdfMismatch, Enclave.untouched) := by
  rw [Enclave.keyDerivation, if_pos other.symm]

theorem supplied_hashed_injective :
    Function.Injective fun pair : UInt8 × EcDhShared => Supplied.hashed pair.2 pair.1 := by
  simp only [supplied_hashed]
  exact hashInput_injective Supplied.idU Supplied.idV

theorem enclave_hashed_injective :
    Function.Injective fun pair : UInt8 × EcDhShared => Enclave.hashed pair.2 pair.1 := by
  simp only [enclave_hashed]
  exact hashInput_injective Supplied.idU Supplied.idV

/-- Both ends have the same four keys under the `kdf_id` of MSG2, also where the stores to
MSG2 then overrun its block; any other id is turned down with nothing written; and what
is hashed on either side determines the key id and the secret. -/
theorem agreed_keys (primitives : Primitives) :
    (∀ (World : Type) (table : List (SampleExtendedEpidGroup World)) (calls : Msg1Calls World)
      (provider : Provider) (msg1 : SampleRaMsg1) (msg1Size : UInt32) (priv : SampleEcPriv)
      (pub : SampleEcPub) (secret : EcDhShared) (i : Nat) (sigRl : SigRl)
      (enclaveCalls : Enclave.DeriveKeyType → ShaCalls),
      msg1Size.toNat = sampleRaMsg1Size → provider.gIsSpRegistered = true →
      Exchanged calls msg1 priv pub secret → Fetched table calls provider msg1 i sigRl →
      (∀ key, (calls.sha key).succeed = true) → (∀ key, (enclaveCalls key).succeed = true) →
      ∃ db : SpDbItem,
        ((∃ result, spRaProcMsg1Req table .suppliedKeyDerivation primitives calls provider
              (some msg1) msg1Size true = .ok result ∧
            result.provider.gSpDb = db ∧
            ∀ response, result.response = some (some response) →
              (readMsg2 response).kdfId = (kdfId .suppliedKeyDerivation).toNat) ∨
          (spRaProcMsg1Req table .suppliedKeyDerivation primitives calls provider (some msg1)
              msg1Size true = .error .outOfBlock ∧
            2 ^ 32 ≤ sampleRaMsg2Size + sigRl.bytes.length ∧
            (last (prepareMsg2 table .suppliedKeyDerivation primitives calls msg1
              ⟨provider, 0, none, false, []⟩)).provider.gSpDb = db)) ∧
        Enclave.keyDerivation primitives.sha256 enclaveCalls (some secret)
            (kdfId .suppliedKeyDerivation) =
          (.success, ⟨some db.smkKey, some db.skKey, some db.mkKey, some db.vkKey⟩)) ∧
    (∀ calls secret kdf, kdf ≠ kdfId .suppliedKeyDerivation →
      Enclave.keyDerivation primitives.sha256 calls (some secret) kdf =
        (.errorKdfMismatch, Enclave.untouched)) ∧
    (Function.Injective fun pair : UInt8 × EcDhShared => Supplied.hashed pair.2 pair.1) ∧
    Function.Injective fun pair : UInt8 × EcDhShared => Enclave.hashed pair.2 pair.1 := by
  refine ⟨?_, fun calls secret kdf other => keyDerivation_mismatch _ calls secret kdf other,
    supplied_hashed_injective, enclave_hashed_injective⟩
  intro World table calls provider msg1 msg1Size priv pub secret i sigRl enclaveCalls exact
    registered exchanged fetched hashes enclaveHashes
  refine ⟨(provider.exchanged msg1 priv pub).withKeys
    (sessionKeys primitives secret .suppliedKeyDerivation), ?_,
    keyDerivation_succeed primitives enclaveCalls secret enclaveHashes⟩
  have through := (derivationsSucceed_iff .suppliedKeyDerivation primitives calls secret).mpr hashes
  rcases derived_cases .suppliedKeyDerivation primitives calls provider msg1 priv pub secret i sigRl
      exchanged fetched through _
      (msg1_outcome table _ primitives calls provider msg1 msg1Size exact registered) with
    ⟨faulted, obtained, beyond⟩ | ⟨result, ran, record, reply⟩
  · have overrun : Overrun table .suppliedKeyDerivation calls provider msg1 priv pub secret i sigRl :=
      ⟨exchanged, fetched, hashes, obtained, beyond⟩
    obtain ⟨written, ends⟩ := overrun.ends primitives
    refine Or.inr ⟨faulted, overrun.wraps, ?_⟩
    rw [ends]
    rfl
  · refine Or.inl ⟨result, ran, by rw [record]; rfl, fun response given => ?_⟩
    rcases reply with ⟨_, none, _⟩ | ⟨signature, _, _, replied⟩
    · rw [none] at given
      cases given
    · rw [replied] at given
      cases given
      exact readMsg2_kdfId _ _ _ _ _ _

/-- A stand-in for the hash that shows what it is given. -/
def echoPrimitives : Primitives :=
  { blankPrimitives with sha256 := fun input i => input.getD (i + 3) 0 }

theorem agreed_keys_session :
    ∃ result, spRaProcMsg1Req (gExtendedEpidGroups Unit) .suppliedKeyDerivation echoPrimitives
        smoothCalls.msg1 registeredZero (some (asMsg1 fun _ => 1)) 68 true = .ok result ∧
      Enclave.keyDerivation echoPrimitives.sha256 (fun _ => ⟨true, true, true, true, true⟩)
          (some fun _ => 4) 2 =
        (.success, ⟨some result.provider.gSpDb.smkKey, some result.provider.gSpDb.skKey,
          some result.provider.gSpDb.mkKey, some result.provider.gSpDb.vkKey⟩) := by
  obtain ⟨db, ⟨result, ran, rfl, _⟩ | ⟨_, wraps, _⟩, same⟩ := (agreed_keys echoPrimitives).1 Unit
    (gExtendedEpidGroups Unit) smoothCalls.msg1 registeredZero (asMsg1 fun _ => 1) 68 (fun _ => 2)
    (fun _ => 3) (fun _ => 4) 0 ⟨[], by decide⟩ (fun _ => ⟨true, true, true, true, true⟩) rfl rfl
    ⟨rfl, rfl, rfl⟩ ⟨rfl, _, rfl, rfl⟩ (fun key => by cases key <;> rfl)
    (fun key => by cases key <;> rfl)
  · exact ⟨result, ran, same⟩
  · exact absurd wraps (by decide)

end SgxExperiments.AgreedKeys
