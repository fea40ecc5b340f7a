import SgxExperiments.AgreedKeys
import SgxExperiments.Msg1Resources

/-!
`verify_cmac128` of ecp.cpp, and what the MAC of a MSG2 protects when it is checked
with the key of the session, which is the one that the enclave's own derivation
gives it.
-/

namespace SgxExperiments.Msg2Integrity

open ByteMemory KeyDerivation ServiceProvider NetworkRa Registration Msg2
open AgreedKeys

variable {World : Type} {table : List (SampleExtendedEpidGroup World)} {build : Build}
  {primitives : Primitives}

/-- `memcmp` of the 16 bytes against a CMAC that may not have been computed. -/
def verifyCmac128 (cmac : Bytes 16 → List UInt8 → Bytes 16) (call : CmacCall) (macKey : EcKey128)
    (dataBuf : List UInt8) (macBuf : Bytes 16) : Bool :=
  match call with
  | .failure _ => false
  | .success => decide (List.ofFn macBuf = List.ofFn (cmac macKey dataBuf))

theorem verifyCmac128_iff (cmac : Bytes 16 → List UInt8 → Bytes 16) (call : CmacCall)
    (macKey : EcKey128) (dataBuf : List UInt8) (macBuf : Bytes 16) :
    verifyCmac128 cmac call macKey dataBuf macBuf = true ↔
      call = .success ∧ macBuf = cmac macKey dataBuf := by
  cases call with
  | failure left => exact iff_of_false Bool.false_ne_true fun made => nomatch made.1
  | success =>
      rw [verifyCmac128, decide_eq_true_iff, List.ofFn_inj]
      exact (and_iff_right rfl).symm

def accepts (primitives : Primitives) (smkKey : EcKey128) (received : Block) : Bool :=
  verifyCmac128 primitives.cmac .success smkKey (macedBytes received) (readMsg2 received).mac

theorem accepts_iff (smkKey : EcKey128) (received : Block) :
    accepts primitives smkKey received = true ↔
      (readMsg2 received).mac = primitives.cmac smkKey (macedBytes received) :=
  (verifyCmac128_iff _ _ _ _ _).trans (and_iff_right rfl)

/-- What a message is protected from: nothing beyond the MAC is, the MAC is from any
change, and the bytes before it are from a change that changes their CMAC. -/
structure Protected (primitives : Primitives) (smkKey : EcKey128) (response : Block) : Prop where
  beyond : ∀ received,
    List.ofFn (received.load headerSize (148 + 16)) = List.ofFn (response.load headerSize (148 + 16)) →
      accepts primitives smkKey received = true
  mac : ∀ received, macedBytes received = macedBytes response →
    (accepts primitives smkKey received = true ↔ (readMsg2 received).mac = (readMsg2 response).mac)
  before : ∀ received, (readMsg2 received).mac = (readMsg2 response).mac →
    (accepts primitives smkKey received = true ↔ primitives.cmac smkKey (macedBytes received) =
      primitives.cmac smkKey (macedBytes response))

theorem prefix_same (received response : Block)
    (same : List.ofFn (received.load headerSize (148 + 16)) =
      List.ofFn (response.load headerSize (148 + 16))) :
    macedBytes received = macedBytes response ∧
      (readMsg2 received).mac = (readMsg2 response).mac := by
  rw [Block.load_append, Block.load_append] at same
  have lengths : (List.ofFn (received.load headerSize 148)).length =
      (List.ofFn (response.load headerSize 148)).length := by
    rw [List.length_ofFn, List.length_ofFn]
  obtain ⟨maced, mac⟩ := List.append_inj same lengths
  exact ⟨maced, List.ofFn_injective mac⟩

theorem maced_protected (smkKey : EcKey128) (response : Block)
    (maced : (readMsg2 response).mac = primitives.cmac smkKey (macedBytes response)) :
    Protected primitives smkKey response where
  beyond received same := by
    obtain ⟨bytes, mac⟩ := prefix_same received response same
    rw [accepts_iff, mac, bytes, maced]
  mac received same := by rw [accepts_iff, same, maced]
  before received same := by
    rw [accepts_iff, same, maced]
    exact eq_comm

theorem msg2Response_mac (db : SpDbItem) (spid : SampleSpid) (sigRl : SigRl)
    (signature : SampleEcSign256) :
    (readMsg2 (msg2Response build primitives db spid sigRl signature)).mac =
      primitives.cmac db.smkKey
        (macedBytes (msg2Response build primitives db spid sigRl signature)) := by
  rw [← msg2Mac_covers]
  simp (disch := first | omega | (simp only [headerSize]; omega)) only [readMsg2, msg2Response,
    Block.load_store_apart, Block.load_store_same]

/-- In every run: the response of a MSG1 that is answered is protected by the key of
this very session; and, with the supplied derivation, the enclave's `key_derivation`
gives it that key, under the `kdf_id` that the response carries. -/
theorem msg2_integrity (table : List (SampleExtendedEpidGroup World)) (build : Build)
    (primitives : Primitives) (events : List (Event World)) (event : Event World)
    (run : Run table build primitives events event.before)
    (handled : Handles table build primitives event) (isMsg1 : event.request.type = typeRaMsg1)
    (answered : event.result.ret = 0) :
    ∃ response priv pub secret, event.result.resp = some (some response) ∧
      Exchanged event.calls.msg1 (asMsg1 event.request.body) priv pub secret ∧
      Protected primitives (sessionKeys primitives secret build).smkKey response ∧
      (build = .suppliedKeyDerivation → ∀ enclaveCalls : Enclave.DeriveKeyType → ShaCalls,
        (∀ key, (enclaveCalls key).succeed = true) →
        ∃ keys, Enclave.keyDerivation primitives.sha256 enclaveCalls (some secret)
            (UInt16.ofNat (readMsg2 response).kdfId) = (.success, keys) ∧
          keys.smkKey = some (sessionKeys primitives secret build).smkKey) := by
  have standing := run_standing _ _ _ run
  rcases handles_cases event standing.inside handled with
    ⟨isMsg0, _⟩ | ⟨_, result, delivered, outcome⟩ | ⟨_, _, ret, failed, refused⟩
  · have types : typeRaMsg0 = typeRaMsg1 := isMsg0.1.symm.trans isMsg1
    cases types
  · obtain ⟨ret, _, _, resp⟩ := deliver_ok result _ delivered
    rw [ret] at answered
    rw [resp answered]
    cases outcome with
    | completed priv pub secret i sigRl signature exchanged fetched derived obtained signed maced =>
        refine ⟨_, priv, pub, secret, rfl, exchanged, maced_protected _ _ (msg2Response_mac _ _ _ _), ?_⟩
        rintro rfl enclaveCalls succeed
        rw [readMsg2_kdfId, UInt16.ofNat_toNat]
        exact ⟨_, keyDerivation_succeed primitives enclaveCalls secret succeed, rfl⟩
    | _ => cases answered
  · rw [refused] at answered
    exact (failed answered).elim

theorem msg2_integrity_completed :
    ∃ response, completedExchange.result.resp = some (some response) ∧
      Protected blankPrimitives
        (sessionKeys blankPrimitives (fun _ => 4) .defaultKeyDerivation).smkKey response := by
  obtain ⟨response, _, _, secret, given, exchanged, protects, _⟩ :=
    msg2_integrity (gExtendedEpidGroups Unit) .defaultKeyDerivation blankPrimitives [registration]
      completedExchange registration_run rfl rfl rfl
  have secrets : some (fun _ => 4) = some secret := exchanged.shared
  cases secrets
  exact ⟨response, given, protects⟩

end SgxExperiments.Msg2Integrity
