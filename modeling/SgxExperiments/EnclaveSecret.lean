import Mathlib.Data.List.FinRange
import Mathlib.Data.List.Induction
import SgxExperiments.ByteMemory
import SgxExperiments.KeyDerivation

/-!
The ECALL of the attestation enclave that receives the secret. Decryption writes
straight into `g_secret`, its status is not tested, and the verdict comes from a
comparison of `g_secret` with the expected bytes. What is left in `g_secret` is what
the next call finds, so sequences of calls are treated first, for any component.
-/

namespace SgxExperiments.CallSequence

variable {State Call Answer : Type}

structure Record (State Call Answer : Type) where
  before : State
  call : Call
  answer : Answer
  after : State

def records (component : State → Call → Answer × State) :
    State → List Call → List (Record State Call Answer)
  | _, [] => []
  | state, call :: rest =>
      ⟨state, call, (component state call).1, (component state call).2⟩ ::
        records component (component state call).2 rest

def finalState (component : State → Call → Answer × State) (state : State)
    (calls : List Call) : State :=
  calls.foldl (fun state call => (component state call).2) state

theorem records_calls (component : State → Call → Answer × State) (state : State)
    (calls : List Call) : (records component state calls).map Record.call = calls := by
  induction calls generalizing state with
  | nil => rfl
  | cons call rest ih => simp [records, ih]

theorem records_all (component : State → Call → Answer × State)
    (Holds : Record State Call Answer → Prop)
    (single : ∀ state call,
      Holds ⟨state, call, (component state call).1, (component state call).2⟩)
    (state : State) (calls : List Call) :
    ∀ record ∈ records component state calls, Holds record := by
  induction calls generalizing state with
  | nil => simp [records]
  | cons call rest ih =>
      intro record member
      rcases List.mem_cons.mp member with first | later
      · subst record
        exact single state call
      · exact ih _ record later

/-- When a call either keeps the state or replaces it by a value of its own, the
state after all calls is the value of the last call that had one. -/
theorem finalState_lastWritten (component : State → Call → Answer × State)
    (written : Call → Option State)
    (writes : ∀ state call, (component state call).2 = (written call).getD state)
    (state : State) (calls : List Call) :
    finalState component state calls = (calls.filterMap written).getLast?.getD state := by
  induction calls using List.reverseRecOn with
  | nil => rfl
  | append_singleton earlier call ih =>
      have last : finalState component state (earlier ++ [call]) =
          (written call).getD (finalState component state earlier) := by
        simp [finalState, writes]
      rw [last, ih, List.filterMap_append]
      cases value : written call <;> simp [value]

end SgxExperiments.CallSequence

namespace SgxExperiments.EnclaveSecret

open ByteMemory CallSequence

inductive RaKeyType where
  | sk | mk | vk
  deriving DecidableEq, Repr

/-- What the trusted SDK does during one call. On failure the key is whatever
the stack holds, and decryption may leave any bytes in its destination. -/
structure TrustedSdk (Context Key : Type) where
  raGetKeys : Context → RaKeyType → SgxStatus × Key
  gcmDecrypt (key : Key) (srcLen : UInt32) (pSrc : Option (Bytes srcLen.toNat))
    (iv : Bytes 12) (pInMac : Option (Bytes 16)) : SgxStatus × Bytes srcLen.toNat

/-- One call of the ECALL: its arguments, each pointer `NULL` or a private copy,
and the SDK it finds. -/
structure SecretCall (Context Key : Type) where
  sdk : TrustedSdk Context Key
  context : Context
  secretSize : UInt32
  pSecret : Option (Bytes secretSize.toNat)
  pGcmMac : Option (Bytes 16)

def gSecretInitial : Bytes 8 := zeroBytes 8

def overwritten {count : Nat} (gSecret : Bytes 8) (bytes : Bytes count) : Bytes 8 :=
  fun i => if within : (i : Nat) < count then bytes ⟨i, within⟩ else gSecret i

def secretMatch (gSecret : Bytes 8) : Bool :=
  (List.finRange 8).foldl
    (fun secretMatch i => if (gSecret i).toNat ≠ i then false else secretMatch) true

section Call

variable {Context Key : Type}

def SecretCall.keys (call : SecretCall Context Key) : SgxStatus × Key :=
  call.sdk.raGetKeys call.context .sk

def SecretCall.decryption (call : SecretCall Context Key) :
    SgxStatus × Bytes call.secretSize.toNat :=
  call.sdk.gcmDecrypt call.keys.2 call.secretSize call.pSecret (zeroBytes 12) call.pGcmMac

def putSecretData (gSecret : Bytes 8) (call : SecretCall Context Key) : SgxStatus × Bytes 8 :=
  if call.secretSize ≠ 8 then (.errorInvalidParameter, gSecret)
  else
    let ret := call.keys.1
    if .success ≠ ret then (ret, gSecret)
    else
      -- the status of the decryption stays in ret and is not tested
      let ret := call.decryption.1
      let gSecret := overwritten gSecret call.decryption.2
      if !secretMatch gSecret then (.errorUnexpected, gSecret) else (ret, gSecret)

def SecretCall.Decrypts (call : SecretCall Context Key) : Prop :=
  call.secretSize = 8 ∧ call.keys.1 = .success

def SecretCall.OwnEvidence (call : SecretCall Context Key) : Prop :=
  call.secretSize = 8 ∧ call.keys.1 = .success ∧ call.decryption.1 = .success ∧
    List.ofFn call.decryption.2 = [0, 1, 2, 3, 4, 5, 6, 7]

instance (call : SecretCall Context Key) : Decidable call.Decrypts :=
  inferInstanceAs (Decidable (_ ∧ _))

def SecretCall.stored (call : SecretCall Context Key) : Option (Bytes 8) :=
  if decrypts : call.Decrypts then
    some fun i => call.decryption.2 (i.cast (by rw [decrypts.1]; rfl))
  else none

theorem flag_cleared (Clears : Fin 8 → Prop) [DecidablePred Clears] (items : List (Fin 8))
    (flag : Bool) :
    items.foldl (fun flag i => if Clears i then false else flag) flag = true ↔
      flag = true ∧ ∀ i ∈ items, ¬ Clears i := by
  induction items generalizing flag with
  | nil => simp
  | cons first rest ih =>
      rw [List.foldl_cons, ih]
      by_cases clears : Clears first <;> simp [clears]

theorem secretMatch_iff (gSecret : Bytes 8) :
    secretMatch gSecret = true ↔ List.ofFn gSecret = [0, 1, 2, 3, 4, 5, 6, 7] := by
  have bytes : secretMatch gSecret = true ↔ ∀ i : Fin 8, (gSecret i).toNat = i := by
    rw [secretMatch, flag_cleared]
    simp
  have expected : [0, 1, 2, 3, 4, 5, 6, 7] = List.ofFn fun i : Fin 8 => UInt8.ofNat i := rfl
  rw [bytes, expected, List.ofFn_inj, funext_iff]
  apply forall_congr'
  intro i
  constructor
  · intro same
    rw [← same, UInt8.ofNat_toNat]
  · intro same
    rw [same, UInt8.toNat_ofNat_of_lt' (by simp only [UInt8.size]; omega)]

theorem overwritten_whole {count : Nat} (gSecret : Bytes 8) (bytes : Bytes count)
    (whole : count = 8) : overwritten gSecret bytes = fun i => bytes (i.cast whole.symm) := by
  funext i
  rw [overwritten, dif_pos (by omega)]
  rfl

theorem stored_bytes (call : SecretCall Context Key) (stored : Bytes 8)
    (kept : call.stored = some stored) : List.ofFn stored = List.ofFn call.decryption.2 := by
  rw [SecretCall.stored] at kept
  split at kept
  · next decrypts =>
      have sized : call.secretSize.toNat = 8 := by rw [decrypts.1]; rfl
      cases kept
      apply List.ext_getElem <;> simp [sized]
  · cases kept

theorem putSecretData_cases (gSecret : Bytes 8) (call : SecretCall Context Key) :
    (¬ call.Decrypts ∧ call.stored = none ∧ (putSecretData gSecret call).1 ≠ .success ∧
      (putSecretData gSecret call).2 = gSecret) ∨
    (call.Decrypts ∧ ∃ stored, call.stored = some stored ∧
      putSecretData gSecret call =
        (if secretMatch stored then call.decryption.1 else .errorUnexpected, stored)) := by
  by_cases sized : call.secretSize = 8
  · by_cases found : call.keys.1 = .success
    · have whole : call.secretSize.toNat = 8 := by rw [sized]; rfl
      refine .inr ⟨⟨sized, found⟩, _, dif_pos ⟨sized, found⟩, ?_⟩
      simp only [putSecretData, sized, found, overwritten_whole gSecret _ whole]
      cases secretMatch _ <;> rfl
    · refine .inl ⟨fun decrypts => found decrypts.2, dif_neg fun decrypts => found decrypts.2, ?_⟩
      simp [putSecretData, sized, found, Ne.symm found]
  · refine .inl ⟨fun decrypts => sized decrypts.1, dif_neg fun decrypts => sized decrypts.1, ?_⟩
    simp [putSecretData, sized, SgxStatus.errorInvalidParameter, SgxStatus.success]

theorem putSecretData_success (gSecret : Bytes 8) (call : SecretCall Context Key) :
    (putSecretData gSecret call).1 = .success ↔ call.OwnEvidence := by
  rcases putSecretData_cases gSecret call with
    ⟨early, _, rejected, _⟩ | ⟨⟨sized, found⟩, stored, kept, returned⟩
  · constructor
    · intro accepted
      exact absurd accepted rejected
    · intro evidence
      exact absurd ⟨evidence.1, evidence.2.1⟩ early
  · have expected := secretMatch_iff stored
    rw [stored_bytes call stored kept] at expected
    rw [returned, SecretCall.OwnEvidence, ← expected]
    cases secretMatch stored with
    | true => simp [sized, found]
    | false => simp [SgxStatus.errorUnexpected, SgxStatus.success]

theorem putSecretData_writes (gSecret : Bytes 8) (call : SecretCall Context Key) :
    (putSecretData gSecret call).2 = call.stored.getD gSecret := by
  rcases putSecretData_cases gSecret call with
    ⟨_, untouched, _, same⟩ | ⟨_, stored, kept, returned⟩
  · rw [same, untouched]
    rfl
  · rw [returned, kept]
    rfl

theorem putSecretData_early (gSecret : Bytes 8) (call : SecretCall Context Key)
    (early : ¬ call.Decrypts) : (putSecretData gSecret call).2 = gSecret := by
  rw [putSecretData_writes, SecretCall.stored, dif_neg early]
  rfl

theorem putSecretData_decrypts (gSecret : Bytes 8) (call : SecretCall Context Key)
    (decrypts : call.Decrypts) :
    List.ofFn (putSecretData gSecret call).2 = List.ofFn call.decryption.2 := by
  have kept : call.stored = some _ := dif_pos decrypts
  rw [putSecretData_writes, kept]
  exact stored_bytes call _ kept

/-- After any run `g_secret` holds what the last decryption left, whether it
succeeded or not. -/
theorem gSecret_lastDecryption (calls : List (SecretCall Context Key)) :
    finalState putSecretData gSecretInitial calls =
      (calls.filterMap SecretCall.stored).getLast?.getD gSecretInitial :=
  finalState_lastWritten putSecretData SecretCall.stored putSecretData_writes _ calls

theorem put_secret_data_own_evidence (calls : List (SecretCall Context Key)) :
    (records putSecretData gSecretInitial calls).map Record.call = calls ∧
      ∀ record ∈ records putSecretData gSecretInitial calls,
        (record.answer = .success ↔ record.call.OwnEvidence) ∧
          (record.call.decryption.1 ≠ .success → record.answer ≠ .success) ∧
          (¬ record.call.Decrypts → record.after = record.before) := by
  refine ⟨records_calls _ _ calls, records_all _ _ ?_ _ calls⟩
  intro gSecret call
  refine ⟨putSecretData_success gSecret call, ?_, putSecretData_early gSecret call⟩
  intro badTag accepted
  exact badTag ((putSecretData_success gSecret call).mp accepted).2.2.1

theorem rejected_call_leaves (calls : List (SecretCall Context Key)) :
    ∀ record ∈ records putSecretData gSecretInitial calls, record.answer ≠ .success →
      (¬ record.call.Decrypts → record.after = record.before) ∧
        (record.call.Decrypts → List.ofFn record.after = List.ofFn record.call.decryption.2) := by
  apply records_all
  intro gSecret call _
  exact ⟨putSecretData_early gSecret call, putSecretData_decrypts gSecret call⟩

end Call

def secretCall (status : SgxStatus) (bytes : Nat → UInt8) : SecretCall Unit Unit where
  sdk := {
    raGetKeys := fun _ _ => (.success, ())
    gcmDecrypt := fun _ _ _ _ _ => (status, fun i => bytes i) }
  context := ()
  secretSize := 8
  pSecret := some fun _ => 0
  pGcmMac := some (zeroBytes 16)

/-- The expected secret, then a call with a bad tag that leaves zero bytes. -/
def provisionedThenForged : List (SecretCall Unit Unit) :=
  [secretCall .success UInt8.ofNat, secretCall .errorMacMismatch fun _ => 0]

theorem rejected_call_leaves_forged :
    ∃ record ∈ records putSecretData gSecretInitial provisionedThenForged,
      record.answer = .errorUnexpected ∧ record.call.Decrypts ∧
        List.ofFn record.after = List.ofFn record.call.decryption.2 := by
  refine ⟨_, .tail _ (.head _), by decide, by decide, ?_⟩
  exact (rejected_call_leaves provisionedThenForged _ (.tail _ (.head _)) (by decide)).2
    (by decide)

theorem rejected_call_loses_secret :
    ¬ ∀ calls : List (SecretCall Unit Unit),
      ∀ record ∈ records putSecretData gSecretInitial calls,
        record.answer ≠ .success → record.after = record.before := by
  intro survives
  have same := survives provisionedThenForged _ (.tail _ (.head _)) (by decide)
  exact absurd (congrFun same 1) (by decide)

end SgxExperiments.EnclaveSecret
