import SgxExperiments.EnclaveSecret

/-!
The ECALL that checks the MAC of the attestation result. Its pointers come
through the generated stub: each is `NULL` or a private copy of the stated size.
-/

namespace SgxExperiments.ResultMac

open ByteMemory
open EnclaveSecret (RaKeyType)

inductive Fault where
  | nullRead
  deriving DecidableEq, Repr

/-- The SDK during one call. `cmacMsg` is given the bytes at its source, or that
the source is `NULL`, which it reports as an error. -/
structure MacSdk (Context Key : Type) where
  raGetKeys : Context → RaKeyType → SgxStatus × Key
  cmacMsg : Key → Option (List UInt8) → SgxStatus × Bytes 16
  cmacMsg_null : ∀ key, (cmacMsg key none).1 ≠ .success

structure MacCall (Context Key : Type) where
  sdk : MacSdk Context Key
  context : Context
  messageSize : UInt64
  pMessage : Option (Bytes messageSize.toNat)
  macSize : UInt64
  pMac : Option (Bytes macSize.toNat)

/-- Compares `len` bytes at both pointers; only the first can be `NULL` here. -/
def consttimeMemequal (b1 : Option (List UInt8)) (b2 : List UInt8) (len : Nat) :
    Except Fault Bool :=
  match b1 with
  | none => .error .nullRead
  | some bytes => .ok (bytes.take len = b2.take len)

section Call

variable {Context Key : Type}

def MacCall.keys (call : MacCall Context Key) : SgxStatus × Key :=
  call.sdk.raGetKeys call.context .mk

def verifyAttResultMac (call : MacCall Context Key) : Except Fault SgxStatus :=
  if call.macSize ≠ 16 then .ok .errorInvalidParameter
  else if call.messageSize > 0xffffffff then .ok .errorInvalidParameter
  else
    let ret := call.keys.1
    if .success ≠ ret then .ok ret
    else
      -- (uint32_t)message_size
      let srcLen := call.messageSize.toUInt32
      let source := call.pMessage.map fun message => (List.ofFn message).take srcLen.toNat
      let (ret, mac) := call.sdk.cmacMsg call.keys.2 source
      if .success ≠ ret then .ok ret
      else
        (consttimeMemequal (call.pMac.map List.ofFn) (List.ofFn mac) 16).map
          fun equal => if equal = false then .errorMacMismatch else ret

def MacCall.cmac (call : MacCall Context Key) : SgxStatus × Bytes 16 :=
  call.sdk.cmacMsg call.keys.2 (call.pMessage.map List.ofFn)

def MacCall.Compares (call : MacCall Context Key) : Prop :=
  call.macSize = 16 ∧ call.messageSize ≤ 0xffffffff ∧ call.keys.1 = .success ∧
    call.cmac.1 = .success

def MacCall.Authentic (call : MacCall Context Key) : Prop :=
  call.macSize = 16 ∧ call.messageSize ≤ 0xffffffff ∧ call.keys.1 = .success ∧
    ∃ message mac, call.pMessage = some message ∧ call.pMac = some mac ∧
      (call.sdk.cmacMsg call.keys.2 (some (List.ofFn message))).1 = .success ∧
      List.ofFn mac = List.ofFn (call.sdk.cmacMsg call.keys.2 (some (List.ofFn message))).2

/-- The narrowing cast drops nothing below `UINT32_MAX`. -/
theorem source_complete (call : MacCall Context Key) (fits : call.messageSize ≤ 0xffffffff) :
    (call.pMessage.map fun message =>
      (List.ofFn message).take call.messageSize.toUInt32.toNat) =
      call.pMessage.map List.ofFn := by
  have kept : call.messageSize.toUInt32.toNat = call.messageSize.toNat := by
    have small : call.messageSize.toNat ≤ 0xffffffff := UInt64.le_iff_toNat_le.mp fits
    rw [UInt64.toNat_toUInt32]
    omega
  congr 1
  funext message
  rw [kept]
  exact List.take_of_length_le (by simp)

theorem verify_sized (call : MacCall Context Key) (sized : call.macSize = 16)
    (fits : call.messageSize ≤ 0xffffffff) :
    verifyAttResultMac call =
      if .success ≠ call.keys.1 then .ok call.keys.1
      else if .success ≠ call.cmac.1 then .ok call.cmac.1
      else
        (consttimeMemequal (call.pMac.map List.ofFn) (List.ofFn call.cmac.2) 16).map
          fun equal => if equal = false then .errorMacMismatch else call.cmac.1 := by
  have notAbove : ¬ call.messageSize > 0xffffffff := UInt64.not_lt.mpr fits
  rw [verifyAttResultMac, if_neg (not_not.mpr sized), if_neg notAbove]
  dsimp only
  rw [source_complete call fits]
  rfl

theorem verify_early (call : MacCall Context Key) (early : ¬ call.Compares) :
    ∃ status, verifyAttResultMac call = .ok status ∧ status ≠ .success := by
  by_cases sized : call.macSize = 16
  · by_cases fits : call.messageSize ≤ 0xffffffff
    · rw [verify_sized call sized fits]
      by_cases found : call.keys.1 = .success
      · have failed : call.cmac.1 ≠ .success := fun done => early ⟨sized, fits, found, done⟩
        exact ⟨call.cmac.1, by simp [found, Ne.symm failed], failed⟩
      · exact ⟨call.keys.1, by simp [Ne.symm found], found⟩
    · have above : call.messageSize > 0xffffffff := UInt64.not_le.mp fits
      exact ⟨.errorInvalidParameter, by simp [verifyAttResultMac, sized, above], by decide⟩
  · exact ⟨.errorInvalidParameter, if_pos sized, by decide⟩

theorem verify_compares (call : MacCall Context Key) (reached : call.Compares) :
    verifyAttResultMac call = match call.pMac with
      | none => .error .nullRead
      | some mac =>
          .ok (if List.ofFn mac = List.ofFn call.cmac.2 then .success else .errorMacMismatch) := by
  obtain ⟨sized, fits, found, done⟩ := reached
  rw [verify_sized call sized fits, found, done]
  cases supplied : call.pMac with
  | none => rfl
  | some mac =>
      have whole : (List.ofFn mac).take 16 = List.ofFn mac :=
        List.take_of_length_le (by simp [sized])
      have all : (List.ofFn call.cmac.2).take 16 = List.ofFn call.cmac.2 :=
        List.take_of_length_le (by simp)
      rw [Option.map_some, consttimeMemequal, whole, all]
      by_cases same : List.ofFn mac = List.ofFn call.cmac.2
      · simp only [same, decide_true]
        rfl
      · simp only [same, decide_false]
        rfl

theorem authentic_iff (call : MacCall Context Key) :
    call.Authentic ↔ call.Compares ∧
      ∃ mac, call.pMac = some mac ∧ List.ofFn mac = List.ofFn call.cmac.2 := by
  constructor
  · rintro ⟨sized, fits, found, message, mac, given, supplied, done, same⟩
    rw [MacCall.Compares, MacCall.cmac, given]
    exact ⟨⟨sized, fits, found, done⟩, mac, supplied, same⟩
  · rintro ⟨⟨sized, fits, found, done⟩, mac, supplied, same⟩
    rw [MacCall.cmac] at done same
    cases given : call.pMessage with
    | none =>
        rw [given] at done
        exact absurd done (call.sdk.cmacMsg_null _)
    | some message =>
        rw [given] at done same
        exact ⟨sized, fits, found, message, mac, given, supplied, done, same⟩

theorem verify_exact (call : MacCall Context Key) :
    (∃ status, verifyAttResultMac call = .ok status ∧
      (status = .success ↔ call.Authentic)) ↔
      (call.Compares → call.pMac ≠ none) := by
  rw [authentic_iff]
  by_cases reached : call.Compares
  · rw [verify_compares call reached]
    cases supplied : call.pMac with
    | none => simp [reached]
    | some mac =>
        by_cases same : List.ofFn mac = List.ofFn call.cmac.2 <;>
          simp [reached, same, SgxStatus.errorMacMismatch, SgxStatus.success]
  · obtain ⟨status, returned, rejected⟩ := verify_early call reached
    simp [reached, returned, rejected]

end Call

def macMissing : MacCall Unit Unit where
  sdk := {
    raGetKeys := fun _ _ => (.success, ())
    cmacMsg := fun _ source => match source with
      | none => (.errorInvalidParameter, zeroBytes 16)
      | some _ => (.success, zeroBytes 16)
    cmacMsg_null := fun _ => by decide }
  context := ()
  messageSize := 1
  pMessage := some fun _ => 0
  macSize := 16
  pMac := none

theorem verify_reads_null :
    verifyAttResultMac macMissing = .error .nullRead ∧
      ¬ ∀ call : MacCall Unit Unit, ∃ status, verifyAttResultMac call = .ok status ∧
        (status = .success ↔ call.Authentic) := by
  have faults : verifyAttResultMac macMissing = .error .nullRead := rfl
  refine ⟨faults, ?_⟩
  intro exact
  obtain ⟨status, returned, _⟩ := exact macMissing
  rw [faults] at returned
  cases returned

end SgxExperiments.ResultMac
