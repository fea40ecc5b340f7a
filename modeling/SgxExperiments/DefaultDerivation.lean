import SgxExperiments.Msg1Steps

/-!
The derivation of the default build against its specification: one extracted
key, and one CMAC under it for each of the four labels.
-/

namespace SgxExperiments.DefaultDerivation

open ByteMemory KeyDerivation ServiceProvider
open Default (SampleDeriveKeyType DeriveKeyCalls DeriveKeyResult)

def extractedKey (cmac : Bytes 16 → List UInt8 → Bytes 16) (secret : EcDhShared) : Bytes 16 :=
  cmac (zeroBytes 16) (List.ofFn secret)

/-- What a caller of `derive_key` can rely on, for any `key_id`. -/
structure Derives (cmac : Bytes 16 → List UInt8 → Bytes 16) (calls : DeriveKeyCalls)
    (secret : EcDhShared) (keyId : UInt8) (result : DeriveKeyResult) : Prop where
  returned : result.returned = true ↔ (∃ key : SampleDeriveKeyType, key.keyId = keyId) ∧
    calls.extract = .success ∧ calls.malloc = true ∧ calls.expand = .success
  derived : ∀ key : SampleDeriveKeyType, key.keyId = keyId → result.returned = true →
    result.derivedKey = some (cmac (extractedKey cmac secret) (cmacInput key.label))
  unwritten : (∀ key : SampleDeriveKeyType, key.keyId ≠ keyId) ∨ calls.extract ≠ .success ∨
    calls.malloc = false → result.derivedKey = none
  allocated : (∃ block, result.buffer = some block) ↔
    (∃ key : SampleDeriveKeyType, key.keyId = keyId) ∧ calls.extract = .success ∧
      calls.malloc = true
  inside : ∀ block, result.buffer = some block → ∃ label, Default.labelOf keyId = some label ∧
    block.size = label.length + 4 ∧ ∀ range ∈ block.stores, range.1 + range.2 ≤ block.size
  freed : ∀ block, result.buffer = some block → result.calls = [.malloc block.size true, .free]
  nothing : result.buffer = none → ∀ call ∈ result.calls, ∃ size, call = .malloc size false

theorem labelOf_cases (keyId : UInt8) :
    (∃ key : SampleDeriveKeyType, key.keyId = keyId) ∨
      (∀ key : SampleDeriveKeyType, key.keyId ≠ keyId) ∧ Default.labelOf keyId = none := by
  by_cases known : ∃ key : SampleDeriveKeyType, key.keyId = keyId
  · exact .inl known
  · have differs : ∀ key : SampleDeriveKeyType, key.keyId ≠ keyId :=
      fun key same => known ⟨key, same⟩
    refine .inr ⟨differs, ?_⟩
    simp [Default.labelOf, Ne.symm (differs _)]

theorem derivationBuffer_inside (label : List UInt8) :
    (Default.derivationBuffer label).size = label.length + 4 ∧
      ∀ range ∈ (Default.derivationBuffer label).stores,
        range.1 + range.2 ≤ (Default.derivationBuffer label).size := by
  rw [derivationBuffer_stores]
  refine ⟨rfl, ?_⟩
  intro range member
  simp only [Block.store, Block.zeroed, List.cons_append, List.nil_append, List.mem_cons,
    List.not_mem_nil, or_false] at member ⊢
  rcases member with rfl | rfl | rfl | rfl <;> simp only <;> omega

theorem keyId_injective (key other : SampleDeriveKeyType) (same : other.keyId = key.keyId) :
    other = key := by
  cases key <;> cases other <;> first | rfl | cases same

theorem cmacInput_injective :
    Function.Injective fun key : SampleDeriveKeyType => cmacInput key.label := by
  intro key other same
  have labels : key.label = other.label :=
    List.append_cancel_right (List.cons.inj same).2
  cases key <;> cases other <;> first | rfl | cases labels

theorem succeed_iff (calls : DeriveKeyCalls) :
    calls.succeed = true ↔
      calls.extract = .success ∧ calls.malloc = true ∧ calls.expand = .success := by
  rw [DeriveKeyCalls.succeed]
  cases calls.extract <;> cases calls.expand <;> simp

theorem left_early (calls : DeriveKeyCalls)
    (early : calls.extract ≠ .success ∨ calls.malloc = false) : calls.left = none := by
  rw [DeriveKeyCalls.left]
  rcases early with unextracted | noBuffer
  · cases extract : calls.extract with
    | success => exact absurd extract unextracted
    | failure left => rfl
  · rw [noBuffer]
    cases calls.extract <;> rfl

/-- The buffer is there when `malloc` is reached and succeeds, and freed then. -/
theorem deriveKey_buffer (cmac : Bytes 16 → List UInt8 → Bytes 16) (calls : DeriveKeyCalls)
    (secret : EcDhShared) (key : SampleDeriveKeyType) :
    (calls.extract = .success ∧ calls.malloc = true ∧
      (Default.deriveKey cmac calls secret key.keyId).buffer =
        some (Default.derivationBuffer key.label) ∧
      (Default.deriveKey cmac calls secret key.keyId).calls =
        [.malloc (Default.derivationBuffer key.label).size true, .free]) ∨
    (¬ (calls.extract = .success ∧ calls.malloc = true) ∧
      (Default.deriveKey cmac calls secret key.keyId).buffer = none ∧
      ∀ call ∈ (Default.deriveKey cmac calls secret key.keyId).calls,
        ∃ size, call = .malloc size false) := by
  have size := (derivationBuffer_inside key.label).1
  rw [Default.deriveKey, labelOf_keyId, size]
  cases calls.extract with
  | failure left => simp
  | success =>
      cases calls.malloc with
      | false => simp
      | true => cases calls.expand <;> simp [Default.derivationBufferLength]

theorem deriveKey_unknown (cmac : Bytes 16 → List UInt8 → Bytes 16) (calls : DeriveKeyCalls)
    (secret : EcDhShared) (keyId : UInt8) (noLabel : Default.labelOf keyId = none) :
    Default.deriveKey cmac calls secret keyId = ⟨false, none, none, []⟩ := by
  rw [Default.deriveKey, noLabel]
  cases calls.extract <;> rfl

theorem deriveKey_derives (cmac : Bytes 16 → List UInt8 → Bytes 16) (calls : DeriveKeyCalls)
    (secret : EcDhShared) (keyId : UInt8) :
    Derives cmac calls secret keyId (Default.deriveKey cmac calls secret keyId) := by
  rcases labelOf_cases keyId with ⟨key, rfl⟩ | ⟨unknown, noLabel⟩
  · obtain ⟨returned, derived, _⟩ := default_deriveKey_outcome cmac calls secret key
    have known : ∃ other : SampleDeriveKeyType, other.keyId = key.keyId := ⟨key, rfl⟩
    have heap := deriveKey_buffer cmac calls secret key
    refine ⟨?_, ?_, ?_, ?_, ?_, ?_, ?_⟩
    · rw [returned, succeed_iff]
      exact (and_iff_right known).symm
    · intro other same accepted
      rw [returned] at accepted
      rw [derived, if_pos accepted, keyId_injective key other same]
      rfl
    · intro early
      have failing := early.resolve_left fun unknown => unknown key rfl
      have notAll : ¬ calls.succeed = true := by
        rw [succeed_iff]
        rintro ⟨extracted, obtained, _⟩
        rcases failing with unextracted | noBuffer
        · exact unextracted extracted
        · cases obtained.symm.trans noBuffer
      rw [derived, if_neg notAll, left_early calls failing]
    · rw [and_iff_right known]
      rcases heap with ⟨extracted, obtained, buffer, _⟩ | ⟨failed, none, _⟩
      · exact iff_of_true ⟨_, buffer⟩ ⟨extracted, obtained⟩
      · exact iff_of_false (by simp [none]) failed
    · intro block allocated
      rcases heap with ⟨_, _, buffer, _⟩ | ⟨_, none, _⟩
      · cases buffer.symm.trans allocated
        exact ⟨key.label, labelOf_keyId key, derivationBuffer_inside key.label⟩
      · cases none.symm.trans allocated
    · intro block allocated
      rcases heap with ⟨_, _, buffer, calls⟩ | ⟨_, none, _⟩
      · cases buffer.symm.trans allocated
        exact calls
      · cases none.symm.trans allocated
    · intro absent
      rcases heap with ⟨_, _, buffer, _⟩ | ⟨_, _, calls⟩
      · cases buffer.symm.trans absent
      · exact calls
  · have refused := deriveKey_unknown cmac calls secret keyId noLabel
    have noKey : ¬ ∃ key : SampleDeriveKeyType, key.keyId = keyId :=
      fun ⟨key, same⟩ => unknown key same
    rw [refused]
    exact ⟨iff_of_false Bool.false_ne_true fun all => noKey all.1,
      fun key same => absurd same (unknown key), fun _ => rfl,
      iff_of_false nofun fun all => noKey all.1, nofun, nofun, fun _ => nofun⟩

section Record

variable {World : Type}

def keyField : SampleDeriveKeyType → SpDbItem → EcKey128
  | .smk, db => db.smkKey
  | .sk, db => db.skKey
  | .mk, db => db.mkKey
  | .vk, db => db.vkKey

theorem deriveOne_stores (primitives : Primitives) (calls : Msg1Calls World) (secret : EcDhShared)
    (key : SampleDeriveKeyType) (frame : Msg1Frame) (succeed : (calls.derive key).succeed = true) :
    deriveOne primitives calls secret key (storeKey key) frame = .ok () { frame with
      provider.gSpDb := storeKey key (primitives.cmac (extractedKey primitives.cmac secret)
        (cmacInput key.label)) frame.provider.gSpDb
      calls := frame.calls ++
        [.derivation (.malloc (key.label.length + 4) true), .derivation .free] } := by
  obtain ⟨extracted, obtained, _⟩ := (succeed_iff (calls.derive key)).mp succeed
  have heap : (calls.derive key).heap key.label = [.malloc (key.label.length + 4) true, .free] := by
    rw [DeriveKeyCalls.heap, extracted, obtained]
    rfl
  have logged : (defaultStep primitives (calls.derive key) secret key).heap.map SpCall.derivation =
      [.derivation (.malloc (key.label.length + 4) true), .derivation .free] := by
    rw [defaultStep, heap]
    rfl
  rw [deriveOne_step, takeStep, logged]
  exact if_pos succeed

theorem deriveKeys_iff (primitives : Primitives) (calls : Msg1Calls World) (secret : EcDhShared)
    (frame : Msg1Frame) :
    (∃ after, deriveKeys .defaultKeyDerivation primitives calls secret frame = .ok () after) ↔
      ∀ key, (calls.derive key).succeed = true := by
  rw [deriveKeys_steps, takeSteps_run, runSteps_all,
    ← defaultSteps_succeed primitives calls secret]
  split_ifs with through <;> simp [through]

theorem deriveKeys_stores (primitives : Primitives) (calls : Msg1Calls World) (secret : EcDhShared)
    (frame after : Msg1Frame)
    (ran : deriveKeys .defaultKeyDerivation primitives calls secret frame = .ok () after)
    (key : SampleDeriveKeyType) :
    keyField key after.provider.gSpDb =
      primitives.cmac (extractedKey primitives.cmac secret) (cmacInput key.label) := by
  rw [deriveKeys_steps, takeSteps_run] at ran
  split_ifs at ran with through
  cases ran
  rw [deriveSteps_through .defaultKeyDerivation primitives calls secret _ through]
  cases key <;> rfl

/-- The default derivation, one call at a time and the four calls of a MSG1. -/
theorem default_derivation (primitives : Primitives) (secret : EcDhShared) :
    (∀ calls keyId, Derives primitives.cmac calls secret keyId
      (Default.deriveKey primitives.cmac calls secret keyId)) ∧
    (∀ key other : SampleDeriveKeyType, key ≠ other →
      cmacInput key.label ≠ cmacInput other.label) ∧
    ∀ (calls : Msg1Calls World) (frame : Msg1Frame),
      (∀ key, (calls.derive key).succeed = true →
        deriveOne primitives calls secret key (storeKey key) frame = .ok () { frame with
          provider.gSpDb := storeKey key (primitives.cmac (extractedKey primitives.cmac secret)
            (cmacInput key.label)) frame.provider.gSpDb
          calls := frame.calls ++
            [.derivation (.malloc (key.label.length + 4) true), .derivation .free] }) ∧
      ((∃ after, deriveKeys .defaultKeyDerivation primitives calls secret frame = .ok () after) ↔
        ∀ key, (calls.derive key).succeed = true) ∧
      ∀ after, deriveKeys .defaultKeyDerivation primitives calls secret frame = .ok () after →
        ∀ key, keyField key after.provider.gSpDb =
          primitives.cmac (extractedKey primitives.cmac secret) (cmacInput key.label) := by
  refine ⟨fun calls keyId => deriveKey_derives primitives.cmac calls secret keyId, ?_, ?_⟩
  · intro key other differ same
    exact differ (cmacInput_injective same)
  · intro calls frame
    exact ⟨fun key => deriveOne_stores primitives calls secret key frame,
      deriveKeys_iff primitives calls secret frame,
      fun after => deriveKeys_stores primitives calls secret frame after⟩

end Record

end SgxExperiments.DefaultDerivation
