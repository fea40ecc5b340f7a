import SgxExperiments.ByteMemory

/-!
Both builds of the key derivation: `derive_key` of ecp.cpp (service provider,
with and without SUPPLIED_KEY_DERIVATION) and `derive_key`, `key_derivation` of
enclave.cpp. CMAC and SHA-256 are functions of their input; whether a call
succeeds is a separate outcome. Wiping locals before a return is left out.
-/

namespace SgxExperiments

structure SgxStatus where
  code : UInt32
  deriving DecidableEq, Repr

namespace SgxStatus

def success : SgxStatus := ⟨0x0⟩
def errorUnexpected : SgxStatus := ⟨0x1⟩
def errorInvalidParameter : SgxStatus := ⟨0x2⟩
def errorEnclaveLost : SgxStatus := ⟨0x4⟩
def errorMacMismatch : SgxStatus := ⟨0x3001⟩
def errorBusy : SgxStatus := ⟨0x400a⟩
def errorKdfMismatch : SgxStatus := ⟨0x4011⟩

end SgxStatus

end SgxExperiments

namespace SgxExperiments.KeyDerivation

open ByteMemory

abbrev EcKey128 := Bytes 16

abbrev EcDhShared := Bytes 32

inductive Build where
  | suppliedKeyDerivation
  | defaultKeyDerivation
  deriving DecidableEq

structure Primitives where
  cmac : Bytes 16 → List UInt8 → Bytes 16
  sha256 : List UInt8 → Bytes 32

def text (characters : List Char) : List UInt8 := characters.map fun c => UInt8.ofNat c.toNat

structure ShaCalls where
  init : Bool
  updateBuffer : Bool
  updateIdU : Bool
  updateIdV : Bool
  getHash : Bool

def ShaCalls.succeed (calls : ShaCalls) : Bool :=
  calls.init && calls.updateBuffer && calls.updateIdU && calls.updateIdV && calls.getHash

/-- How one CMAC call ends; a failed one may have written to its output. -/
inductive CmacCall where
  | success
  | failure (left : Option (Bytes 16))

inductive HeapCall where
  | malloc (size : Nat) (obtained : Bool)
  | free
  deriving DecidableEq

namespace Supplied

-- `ID_U` and `ID_V` are hashed with their terminating NUL
def idU : List UInt8 := text [ 'S', 'G', 'X', 'R', 'A', 'E', 'N', 'C', 'L', 'A', 'V', 'E'] ++ [0]

def idV : List UInt8 := text [ 'S', 'G', 'X', 'R', 'A', 'S', 'E', 'R', 'V', 'E', 'R'] ++ [0]

inductive SampleDeriveKeyType where
  | smkSk
  | mkVk

def SampleDeriveKeyType.keyId : SampleDeriveKeyType → UInt8
  | .smkSk => 0
  | .mkVk => 1

def hashBuffer (sharedKey : EcDhShared) (keyId : UInt8) : Block :=
  ((Block.zeroed 40).store 3 (fun _ : Fin 1 => keyId)).storeLoop 4
    (fun i => if bound : i < 32 then sharedKey ⟨32 - 1 - i, by omega⟩ else 0) 32

def hashed (sharedKey : EcDhShared) (keyId : UInt8) : List UInt8 :=
  List.ofFn ((hashBuffer sharedKey keyId).load 0 40) ++ idU ++ idV

/-- `derive_key`; `none` is `false`, which leaves both outputs alone. -/
def deriveKey (sha256 : List UInt8 → Bytes 32) (calls : ShaCalls) (sharedKey : EcDhShared)
    (keyId : UInt8) : Option (EcKey128 × EcKey128) :=
  if calls.init = false then none
  else if calls.updateBuffer = false then none
  else if calls.updateIdU = false then none
  else if calls.updateIdV = false then none
  else if calls.getHash = false then none
  else
    let keyMaterial := sha256 (hashed sharedKey keyId)
    some (slice keyMaterial 0 16 (by decide), slice keyMaterial 16 16 (by decide))

end Supplied

namespace Enclave

def idU : List UInt8 := text [ 'S', 'G', 'X', 'R', 'A', 'E', 'N', 'C', 'L', 'A', 'V', 'E'] ++ [0]

def idV : List UInt8 := text [ 'S', 'G', 'X', 'R', 'A', 'S', 'E', 'R', 'V', 'E', 'R'] ++ [0]

inductive DeriveKeyType where
  | smkSk
  | mkVk

def DeriveKeyType.keyId : DeriveKeyType → UInt8
  | .smkSk => 0
  | .mkVk => 1

def isvKdfId : UInt16 := 2

def hashBuffer (sharedKey : EcDhShared) (keyId : UInt8) : Block :=
  ((Block.zeroed 40).store 3 (fun _ : Fin 1 => keyId)).storeLoop 4
    (fun i => if bound : i < 32 then sharedKey ⟨32 - 1 - i, by omega⟩ else 0) 32

def hashed (sharedKey : EcDhShared) (keyId : UInt8) : List UInt8 :=
  List.ofFn ((hashBuffer sharedKey keyId).load 0 40) ++ idU ++ idV

def deriveKey (sha256 : List UInt8 → Bytes 32) (calls : ShaCalls) (sharedKey : EcDhShared)
    (keyId : UInt8) : Option (EcKey128 × EcKey128) :=
  if calls.init = false then none
  else if calls.updateBuffer = false then none
  else if calls.updateIdU = false then none
  else if calls.updateIdV = false then none
  else if calls.getHash = false then none
  else
    let keyMaterial := sha256 (hashed sharedKey keyId)
    some (slice keyMaterial 0 16 (by decide), slice keyMaterial 16 16 (by decide))

/-- The four outputs of `key_derivation`, each as far as it is written. -/
structure Outputs where
  smkKey : Option EcKey128
  skKey : Option EcKey128
  mkKey : Option EcKey128
  vkKey : Option EcKey128

def untouched : Outputs := ⟨none, none, none, none⟩

def keyDerivation (sha256 : List UInt8 → Bytes 32) (calls : DeriveKeyType → ShaCalls)
    (sharedKey : Option EcDhShared) (kdfId : UInt16) : SgxStatus × Outputs :=
  match sharedKey with
  | none => (.errorInvalidParameter, untouched)
  | some sharedKey =>
      if isvKdfId ≠ kdfId then (.errorKdfMismatch, untouched)
      else match deriveKey sha256 (calls .smkSk) sharedKey DeriveKeyType.smkSk.keyId with
        | none => (.errorUnexpected, untouched)
        | some (smkKey, skKey) =>
            match deriveKey sha256 (calls .mkVk) sharedKey DeriveKeyType.mkVk.keyId with
            | none => (.errorUnexpected, ⟨some smkKey, some skKey, none, none⟩)
            | some (mkKey, vkKey) => (.success, ⟨some smkKey, some skKey, some mkKey, some vkKey⟩)

end Enclave

namespace Default

inductive SampleDeriveKeyType where
  | smk
  | sk
  | mk
  | vk
  deriving DecidableEq

def SampleDeriveKeyType.keyId : SampleDeriveKeyType → UInt8
  | .smk => 0
  | .sk => 1
  | .mk => 2
  | .vk => 3

def SampleDeriveKeyType.label : SampleDeriveKeyType → List UInt8
  | .smk => text [ 'S', 'M', 'K']
  | .sk => text [ 'S', 'K']
  | .mk => text [ 'M', 'K']
  | .vk => text [ 'V', 'K']

def labelOf (keyId : UInt8) : Option (List UInt8) :=
  if keyId = SampleDeriveKeyType.smk.keyId then some SampleDeriveKeyType.smk.label
  else if keyId = SampleDeriveKeyType.sk.keyId then some SampleDeriveKeyType.sk.label
  else if keyId = SampleDeriveKeyType.mk.keyId then some SampleDeriveKeyType.mk.label
  else if keyId = SampleDeriveKeyType.vk.keyId then some SampleDeriveKeyType.vk.label
  else none

-- EC_DERIVATION_BUFFER_SIZE
def derivationBufferLength (label : List UInt8) : Nat := label.length + 4

def derivationBuffer (label : List UInt8) : Block :=
  let length := derivationBufferLength label
  let counted := (Block.zeroed length).store 0 (fun _ : Fin 1 => 0x01)
  let labelled := (memcpyS (length - 1) label.length counted
    (counted.store 1 (bytesOfList label))).2
  labelled.store (length - 2) (littleEndian 2 0x0080)

structure DeriveKeyCalls where
  extract : CmacCall
  malloc : Bool
  expand : CmacCall

def DeriveKeyCalls.succeed (calls : DeriveKeyCalls) : Bool :=
  match calls.extract, calls.expand with
  | .success, .success => calls.malloc
  | _, _ => false

def DeriveKeyCalls.left (calls : DeriveKeyCalls) : Option EcKey128 :=
  match calls.extract, calls.malloc, calls.expand with
  | .success, true, .failure left => left
  | _, _, _ => none

/-- The derivation buffer is freed as soon as the second CMAC is made, however that ends. -/
def DeriveKeyCalls.heap (calls : DeriveKeyCalls) (label : List UInt8) : List HeapCall :=
  match calls.extract, calls.malloc with
  | .failure _, _ => []
  | .success, false => [.malloc (derivationBufferLength label) false]
  | .success, true => [.malloc (derivationBufferLength label) true, .free]

structure DeriveKeyResult where
  returned : Bool
  derivedKey : Option EcKey128
  buffer : Option Block
  calls : List HeapCall

def deriveKey (cmac : Bytes 16 → List UInt8 → Bytes 16) (calls : DeriveKeyCalls)
    (sharedKey : EcDhShared) (keyId : UInt8) : DeriveKeyResult :=
  match calls.extract with
  | .failure _ => ⟨false, none, none, []⟩
  | .success =>
      let keyDeriveKey := cmac (zeroBytes 16) (List.ofFn sharedKey)
      match labelOf keyId with
      | none => ⟨false, none, none, []⟩
      | some label =>
          let length := derivationBufferLength label
          if calls.malloc = false then ⟨false, none, none, [.malloc length false]⟩
          else
            let buffer := derivationBuffer label
            let heap := [HeapCall.malloc length true, .free]
            -- the second CMAC writes straight to `derived_key`
            match calls.expand with
            | .failure left => ⟨false, left, some buffer, heap⟩
            | .success =>
                ⟨true, some (cmac keyDeriveKey (List.ofFn (buffer.load 0 length))), some buffer, heap⟩

end Default

section Specification

structure SessionKeys where
  smkKey : EcKey128
  skKey : EcKey128
  mkKey : EcKey128
  vkKey : EcKey128

def hashInput (idU idV : List UInt8) (secret : EcDhShared) (keyId : UInt8) : List UInt8 :=
  [0, 0, 0, keyId] ++ List.ofFn (reversed secret) ++ [0, 0, 0, 0] ++ idU ++ idV

/-- The message of the second CMAC: 0x01, the label, 0x00, 0x0080. -/
def cmacInput (label : List UInt8) : List UInt8 := 0x01 :: label ++ [0x00, 0x80, 0x00]

def halves (hash : Bytes 32) : EcKey128 × EcKey128 :=
  (slice hash 0 16 (by decide), slice hash 16 16 (by decide))

def hashedKeys (sha256 : List UInt8 → Bytes 32) (secret : EcDhShared) (keyId : UInt8) :
    EcKey128 × EcKey128 :=
  halves (sha256 (hashInput Supplied.idU Supplied.idV secret keyId))

/-- The four keys of a secret: two halves of two hashes, or four CMACs under one
extracted key. -/
def sessionKeys (primitives : Primitives) (secret : EcDhShared) : Build → SessionKeys
  | .suppliedKeyDerivation =>
      let first := hashedKeys primitives.sha256 secret 0
      let second := hashedKeys primitives.sha256 secret 1
      ⟨first.1, first.2, second.1, second.2⟩
  | .defaultKeyDerivation =>
      let expand := fun key : Default.SampleDeriveKeyType => primitives.cmac
        (primitives.cmac (zeroBytes 16) (List.ofFn secret)) (cmacInput key.label)
      ⟨expand .smk, expand .sk, expand .mk, expand .vk⟩

theorem hashInput_injective (idU idV : List UInt8) :
    Function.Injective fun pair : UInt8 × EcDhShared => hashInput idU idV pair.2 pair.1 := by
  rintro ⟨keyId, secret⟩ ⟨otherId, other⟩ same
  simp only [hashInput, List.append_cancel_right_eq] at same
  obtain ⟨head, tail⟩ := List.append_inj same (by simp)
  have ids : keyId = otherId := by simpa using head
  have secrets : secret = other := reversed_injective (List.ofFn_injective tail)
  rw [ids, secrets]

end Specification

section Hashes

theorem reversal_loop (secret : EcDhShared) :
    (fun i : Fin 32 => if bound : (i : Nat) < 32 then secret ⟨32 - 1 - i, by omega⟩ else 0) =
      reversed secret := by
  funext i
  rw [dif_pos i.isLt, reversed]
  congr 1
  apply Fin.ext
  simp only [Fin.val_rev]
  omega

theorem hashBuffer_bytes (secret : EcDhShared) (keyId : UInt8) :
    List.ofFn ((Supplied.hashBuffer secret keyId).load 0 40) =
      [0, 0, 0, keyId] ++ List.ofFn (reversed secret) ++ [0, 0, 0, 0] := by
  have counter : List.ofFn ((Supplied.hashBuffer secret keyId).load 0 4) = [0, 0, 0, keyId] := by
    rw [Supplied.hashBuffer, Block.storeLoop_load_apart _ _ _ _ _ _ (by omega),
      Block.load_append _ 0 3 1, Block.load_store_apart _ _ _ _ (by omega), Block.load_store_same]
    simp [zeroBytes]
  have middle : (Supplied.hashBuffer secret keyId).load 4 32 = reversed secret := by
    rw [Supplied.hashBuffer, Block.storeLoop_load, reversal_loop]
  have algorithm : (Supplied.hashBuffer secret keyId).load 36 4 = zeroBytes 4 := by
    rw [Supplied.hashBuffer, Block.storeLoop_load_apart _ _ _ _ _ _ (by omega),
      Block.load_store_apart _ _ _ _ (by omega), Block.zeroed_load]
  rw [Block.load_append _ 0 36 4, Block.load_append _ 0 4 32, counter, zero_add, zero_add, middle,
    algorithm]
  simp [zeroBytes]

theorem supplied_hashed (secret : EcDhShared) (keyId : UInt8) :
    Supplied.hashed secret keyId = hashInput Supplied.idU Supplied.idV secret keyId := by
  rw [Supplied.hashed, hashBuffer_bytes, hashInput]

theorem enclave_hashed (secret : EcDhShared) (keyId : UInt8) :
    Enclave.hashed secret keyId = hashInput Supplied.idU Supplied.idV secret keyId := by
  have buffers : Enclave.hashBuffer = Supplied.hashBuffer := rfl
  rw [Enclave.hashed, buffers, hashBuffer_bytes, hashInput]
  rfl

theorem supplied_deriveKey_outcome (sha256 : List UInt8 → Bytes 32) (calls : ShaCalls)
    (secret : EcDhShared) (keyId : UInt8) :
    Supplied.deriveKey sha256 calls secret keyId =
      if calls.succeed then some (hashedKeys sha256 secret keyId) else none := by
  rw [Supplied.deriveKey, supplied_hashed, ShaCalls.succeed]
  cases calls.init <;> cases calls.updateBuffer <;> cases calls.updateIdU <;>
    cases calls.updateIdV <;> cases calls.getHash <;> rfl

theorem enclave_deriveKey_outcome (sha256 : List UInt8 → Bytes 32) (calls : ShaCalls)
    (secret : EcDhShared) (keyId : UInt8) :
    Enclave.deriveKey sha256 calls secret keyId =
      if calls.succeed then some (hashedKeys sha256 secret keyId) else none := by
  rw [Enclave.deriveKey, enclave_hashed, ShaCalls.succeed]
  cases calls.init <;> cases calls.updateBuffer <;> cases calls.updateIdU <;>
    cases calls.updateIdV <;> cases calls.getHash <;> rfl

end Hashes

section Cmacs

theorem derivationBuffer_stores (label : List UInt8) :
    Default.derivationBuffer label =
      (((Block.zeroed (label.length + 4)).store 0 (fun _ : Fin 1 => 0x01)).store 1
        (bytesOfList label)).store (label.length + 2) (littleEndian 2 0x0080) := by
  simp only [Default.derivationBuffer, Default.derivationBufferLength]
  rw [memcpyS_fits _ _ _ _ (by omega)]
  rfl

theorem derivationBuffer_bytes (label : List UInt8) :
    List.ofFn ((Default.derivationBuffer label).load 0 (Default.derivationBufferLength label)) =
      cmacInput label := by
  have head : (Default.derivationBuffer label).load 0 1 = fun _ => 0x01 := by
    rw [derivationBuffer_stores, Block.load_store_apart _ _ _ _ (by omega),
      Block.load_store_apart _ _ _ _ (by omega), Block.load_store_same]
  have middle : (Default.derivationBuffer label).load 1 label.length = bytesOfList label := by
    rw [derivationBuffer_stores, Block.load_store_apart _ _ _ _ (by omega), Block.load_store_same]
  have separator : (Default.derivationBuffer label).load (1 + label.length) 1 = zeroBytes 1 := by
    rw [derivationBuffer_stores, Block.load_store_apart _ _ _ _ (by omega),
      Block.load_store_apart _ _ _ _ (by omega), Block.load_store_apart _ _ _ _ (by omega),
      Block.zeroed_load]
  have last : (Default.derivationBuffer label).load (1 + (label.length + 1)) 2 =
      littleEndian 2 0x0080 := by
    have offset : 1 + (label.length + 1) = label.length + 2 := by omega
    rw [derivationBuffer_stores, offset, Block.load_store_same]
  have whole : Default.derivationBufferLength label = 1 + (label.length + 1) + 2 := by
    simp only [Default.derivationBufferLength]
    omega
  rw [whole, Block.load_append, Block.load_append _ 0 1, Block.load_append _ (0 + 1) label.length,
    zero_add, zero_add, head, middle, separator, last, bytesOfList_ofFn]
  simp [cmacInput, zeroBytes, littleEndian]

theorem labelOf_keyId (key : Default.SampleDeriveKeyType) :
    Default.labelOf key.keyId = some key.label := by
  cases key <;> rfl

theorem default_deriveKey_outcome (cmac : Bytes 16 → List UInt8 → Bytes 16)
    (calls : Default.DeriveKeyCalls) (secret : EcDhShared) (key : Default.SampleDeriveKeyType) :
    (Default.deriveKey cmac calls secret key.keyId).returned = calls.succeed ∧
      (Default.deriveKey cmac calls secret key.keyId).derivedKey =
        (if calls.succeed then
          some (cmac (cmac (zeroBytes 16) (List.ofFn secret)) (cmacInput key.label))
        else calls.left) ∧
      (Default.deriveKey cmac calls secret key.keyId).calls = calls.heap key.label := by
  rw [Default.deriveKey, labelOf_keyId, Default.DeriveKeyCalls.succeed,
    Default.DeriveKeyCalls.left, Default.DeriveKeyCalls.heap]
  cases calls.extract with
  | failure left => simp
  | success =>
      cases calls.malloc with
      | false => cases calls.expand <;> simp
      | true =>
          cases calls.expand with
          | failure left => simp
          | success => simp [derivationBuffer_bytes]

end Cmacs

end SgxExperiments.KeyDerivation
