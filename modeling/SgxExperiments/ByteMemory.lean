import Mathlib.Data.List.OfFn
import Mathlib.Tactic.Ring

/-!
Fixed-size byte arrays, little-endian numbers and blocks of memory that are
written and read through offsets. A store outside a block is kept in the block's
list of stores like any other, so that staying inside is something to prove.
-/

namespace SgxExperiments.ByteMemory

abbrev Bytes (n : Nat) := Fin n → UInt8

variable {n m : Nat}

def zeroBytes (n : Nat) : Bytes n := fun _ => 0

def bytesOfList (bytes : List UInt8) : Bytes bytes.length := bytes.get

theorem bytesOfList_ofFn (bytes : List UInt8) : List.ofFn (bytesOfList bytes) = bytes :=
  List.ofFn_get bytes

def reversed (bytes : Bytes n) : Bytes n := fun i => bytes i.rev

theorem reversed_reversed (bytes : Bytes n) : reversed (reversed bytes) = bytes := by
  funext i
  simp [reversed]

theorem reversed_injective : Function.Injective (reversed : Bytes n → Bytes n) :=
  Function.LeftInverse.injective reversed_reversed

def slice (bytes : Bytes n) (offset m : Nat) (fits : offset + m ≤ n) : Bytes m :=
  fun i => bytes ⟨offset + i, by omega⟩

/-- `memcpy_s`: refuses a source larger than the destination, else copies. -/
def memcpyS {Dest : Type} (numberOfElements count : Nat) (dest copied : Dest) : Int × Dest :=
  if numberOfElements < count then (-1, dest) else (0, copied)

theorem memcpyS_fits {Dest : Type} (numberOfElements count : Nat) (dest copied : Dest)
    (fits : count ≤ numberOfElements) :
    memcpyS numberOfElements count dest copied = (0, copied) := by
  rw [memcpyS, if_neg (by omega)]

section LittleEndian

def littleEndian (n value : Nat) : Bytes n := fun i => UInt8.ofNat (value / 256 ^ (i : Nat))

def leValue : {n : Nat} → Bytes n → Nat
  | 0, _ => 0
  | _ + 1, bytes => (bytes 0).toNat + 256 * leValue (fun i => bytes i.succ)

theorem littleEndian_succ (value : Nat) (i : Fin n) :
    littleEndian (n + 1) value i.succ = littleEndian n (value / 256) i := by
  simp only [littleEndian, Fin.val_succ, pow_succ']
  rw [Nat.div_div_eq_div_mul]

theorem leValue_littleEndian (n value : Nat) (fits : value < 256 ^ n) :
    leValue (littleEndian n value) = value := by
  induction n generalizing value with
  | zero =>
      have zero : value = 0 := by simpa using fits
      rw [zero]
      rfl
  | succ n ih =>
      have smaller : value / 256 < 256 ^ n := by
        rw [Nat.div_lt_iff_lt_mul (by decide)]
        rwa [pow_succ] at fits
      have low : (littleEndian (n + 1) value 0).toNat = value % 256 := by
        simp [littleEndian]
      simp only [leValue, littleEndian_succ, low]
      have high : leValue (fun i => littleEndian n (value / 256) i) = value / 256 := ih _ smaller
      rw [high]
      omega

end LittleEndian

/-- A block of memory, with the ranges stored to it so far: offset and length. -/
structure Block where
  size : Nat
  byte : Nat → UInt8
  stores : List (Nat × Nat)

namespace Block

def zeroed (size : Nat) : Block := ⟨size, fun _ => 0, [(0, size)]⟩

def store (block : Block) (offset : Nat) (bytes : Bytes n) : Block where
  size := block.size
  byte k := if within : offset ≤ k ∧ k < offset + n then bytes ⟨k - offset, by omega⟩
    else block.byte k
  stores := block.stores ++ [(offset, n)]

def load (block : Block) (offset n : Nat) : Bytes n := fun i => block.byte (offset + i)

@[simp] theorem store_size (block : Block) (offset : Nat) (bytes : Bytes n) :
    (block.store offset bytes).size = block.size := rfl

@[simp] theorem zeroed_size (size : Nat) : (zeroed size).size = size := rfl

@[simp] theorem zeroed_load (size offset n : Nat) : (zeroed size).load offset n = zeroBytes n := rfl

@[simp] theorem load_store_same (block : Block) (offset : Nat) (bytes : Bytes n) :
    (block.store offset bytes).load offset n = bytes := by
  funext i
  have within : offset ≤ offset + (i : Nat) ∧ offset + (i : Nat) < offset + n := by omega
  simp only [load, store, dif_pos within]
  congr 1
  apply Fin.ext
  simp

theorem load_store_within (block : Block) (offset part : Nat) (bytes : Bytes n)
    (fits : part + m ≤ n) :
    (block.store offset bytes).load (offset + part) m = slice bytes part m fits := by
  funext i
  have within : offset ≤ offset + part + (i : Nat) ∧ offset + part + (i : Nat) < offset + n := by
    omega
  simp only [load, store, dif_pos within, slice]
  congr 1
  apply Fin.ext
  simp only
  omega

theorem load_store_apart (block : Block) (offset start : Nat) (bytes : Bytes n)
    (apart : start + m ≤ offset ∨ offset + n ≤ start) :
    (block.store offset bytes).load start m = block.load start m := by
  funext i
  have outside : ¬ (offset ≤ start + (i : Nat) ∧ start + (i : Nat) < offset + n) := by omega
  simp only [load, store, dif_neg outside]

theorem load_append (block : Block) (offset n m : Nat) :
    List.ofFn (block.load offset (n + m)) =
      List.ofFn (block.load offset n) ++ List.ofFn (block.load (offset + n) m) := by
  rw [List.ofFn_add]
  congr 2
  funext i
  simp only [load, Fin.val_natAdd, Nat.add_assoc]

def storeLoop (block : Block) (offset : Nat) (value : Nat → UInt8) : Nat → Block
  | 0 => block
  | count + 1 => (storeLoop block offset value count).store (offset + count)
      (fun _ : Fin 1 => value count)

theorem storeLoop_byte (block : Block) (offset count k : Nat) (value : Nat → UInt8) :
    (storeLoop block offset value count).byte k =
      if offset ≤ k ∧ k < offset + count then value (k - offset) else block.byte k := by
  induction count with
  | zero =>
      rw [if_neg (by omega)]
      rfl
  | succ count ih =>
      by_cases last : k = offset + count
      · subst last
        rw [if_pos (by omega), Nat.add_sub_cancel_left]
        simp [storeLoop, store]
      · have missed : ¬ (offset + count ≤ k ∧ k < offset + count + 1) := by omega
        simp only [storeLoop, store, dif_neg missed, ih]
        by_cases within : offset ≤ k ∧ k < offset + count
        · rw [if_pos within, if_pos (by omega)]
        · rw [if_neg within, if_neg (by omega)]

theorem storeLoop_load (block : Block) (offset count : Nat) (value : Nat → UInt8) :
    (storeLoop block offset value count).load offset count = fun i : Fin count => value i := by
  funext i
  rw [load, storeLoop_byte, if_pos (by omega), Nat.add_sub_cancel_left]

theorem storeLoop_load_apart (block : Block) (offset count start m : Nat) (value : Nat → UInt8)
    (apart : start + m ≤ offset ∨ offset + count ≤ start) :
    (storeLoop block offset value count).load start m = block.load start m := by
  funext i
  rw [load, storeLoop_byte, if_neg (by omega)]
  rfl

end Block

/-- A block that is read under observation too. -/
structure Watched where
  block : Block
  reads : List (Nat × Nat)

namespace Watched

def read (memory : Watched) (offset n : Nat) : Bytes n × Watched :=
  (memory.block.load offset n, ⟨memory.block, memory.reads ++ [(offset, n)]⟩)

def write (memory : Watched) (offset : Nat) (bytes : Bytes n) : Watched :=
  ⟨memory.block.store offset bytes, memory.reads⟩

end Watched

end SgxExperiments.ByteMemory
