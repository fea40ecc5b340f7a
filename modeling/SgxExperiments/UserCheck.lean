import Mathlib.Algebra.BigOperators.Group.Finset.Basic
import Mathlib.Data.Nat.Init
import SgxExperiments.ByteMemory
import SgxExperiments.Arithmetic

/-!
The ECALL with a [user_check] pointer: it copies at most 100 bytes from outside,
prints their checksum and writes at most 12 bytes back. `size_t` is 64 bits, `char`
is signed.
-/

namespace SgxExperiments.UserCheck

open ByteMemory CheckedInt

inductive Fault where
  | abort
  | signedOverflow
  deriving DecidableEq, Repr

def int16 (bytes : Bytes 2) : Int := (Int16.ofNat (leValue bytes)).toInt

def int8 (bytes : Bytes 1) : Int := (bytes 0).toInt8.toInt

/-- The summing loop from `ptr` on, with the left-over byte after it. -/
def sumWords : Nat → Nat → Int32 → Watched → Except Fault (Int32 × Watched)
  | ptr, count + 2, sum, buf => do
      let sum ← checked .signedOverflow (sum.toInt + int16 (buf.read ptr 2).1)
      sumWords (ptr + 2) count sum (buf.read ptr 2).2
  | ptr, 1, sum, buf => do
      let sum ← checked .signedOverflow (sum.toInt + int8 (buf.read ptr 1).1)
      pure (sum, (buf.read ptr 1).2)
  | _, 0, sum, buf => pure (sum, buf)

def checksumInternal (buf : Watched) (count : Nat) : Except Fault (Int32 × Watched) := do
  let (sum, buf) ← sumWords 0 count 0 buf
  pure (~~~sum, buf)

def text : List UInt8 :=
  [ 'S', 'G', 'X', '_', 'S', 'U', 'C', 'C', 'E', 'S', 'S', '\x00'].map fun c =>
    UInt8.ofNat c.toNat

structure UserCheckResult where
  returned : UInt64
  printed : UInt64 × UInt32
  val : Watched
  tmp : Watched

def copyIn (val : Watched) (len : Nat) : Watched × Watched :=
  (⟨(Block.zeroed 100).store 0 (val.read 0 len).1, []⟩, (val.read 0 len).2)

def writeBack (val : Watched) (count : Nat) : Watched :=
  val.write 0 fun i : Fin count => text.getD i 0

/-- `outside` is what `sgx_is_outside_enclave` says about the buffer. -/
def ecallPointerUserCheck (outside : Bool) (val : Watched) (sz : UInt64) :
    Except Fault UserCheckResult :=
  if outside = false then .error .abort
  else do
    let len := if sz > 100 then 100 else sz
    let (tmp, val) := copyIn val len.toNat
    let (sum, tmp) ← checksumInternal tmp len.toNat
    let count := if len > 12 then 12 else len
    pure ⟨len, (len, sum.toUInt32), writeBack val count.toNat, tmp⟩

section Sum

def tailSum (byte : Nat → UInt8) : Nat → Nat → Int
  | ptr, count + 2 => int16 (fun i => byte (ptr + i)) + tailSum byte (ptr + 2) count
  | ptr, 1 => int8 fun i => byte (ptr + i)
  | _, 0 => 0

def wordSum (byte : Nat → UInt8) (len : Nat) : Int :=
  (∑ i ∈ Finset.range (len / 2), int16 fun j => byte (2 * i + j)) +
    if len % 2 = 1 then int8 fun j => byte (len - 1 + j) else 0

theorem int16_bound (bytes : Bytes 2) : (int16 bytes).natAbs ≤ 2 ^ 15 := by
  have low := (Int16.ofNat (leValue bytes)).le_toInt
  have high := (Int16.ofNat (leValue bytes)).toInt_lt
  rw [int16]
  omega

theorem int8_bound (bytes : Bytes 1) : (int8 bytes).natAbs ≤ 2 ^ 15 := by
  have low := (bytes 0).toInt8.le_toInt
  have high := (bytes 0).toInt8.toInt_lt
  rw [int8]
  omega

/-- No step leaves the range, and no read goes past the end. -/
theorem sumWords_run (ptr count : Nat) (sum : Int32) (buf : Watched)
    (bound : sum.toInt.natAbs + 2 ^ 15 * count < 2 ^ 31) :
    ∃ result reads, sumWords ptr count sum buf = .ok (result, ⟨buf.block, buf.reads ++ reads⟩) ∧
      result.toInt = sum.toInt + tailSum buf.block.byte ptr count ∧
      ∀ range ∈ reads, range.1 + range.2 ≤ ptr + count := by
  induction count using Nat.twoStepInduction generalizing ptr sum buf with
  | zero => exact ⟨sum, [], by simp [sumWords, pure, Except.pure], by simp [tailSum], by simp⟩
  | one =>
      have small := int8_bound (buf.read ptr 1).1
      obtain ⟨result, added, value⟩ := checked_ok Fault.signedOverflow
        (sum.toInt + int8 (buf.read ptr 1).1) ⟨by omega, by omega⟩
      refine ⟨result, [(ptr, 1)], ?_, value, by simp⟩
      rw [sumWords, added]
      rfl
  | more count ih _ =>
      have small := int16_bound (buf.read ptr 2).1
      obtain ⟨next, added, value⟩ := checked_ok Fault.signedOverflow
        (sum.toInt + int16 (buf.read ptr 2).1) ⟨by omega, by omega⟩
      obtain ⟨result, reads, ran, total, inside⟩ := ih (ptr + 2) next (buf.read ptr 2).2 (by omega)
      refine ⟨result, (ptr, 2) :: reads, ?_, ?_, ?_⟩
      · rw [sumWords, added]
        simpa [Watched.read, bind, Except.bind] using ran
      · rw [total, value, tailSum]
        exact Int.add_assoc _ _ _
      · intro range member
        rcases List.mem_cons.mp member with rfl | later
        · simp only
          omega
        · have := inside range later
          omega

theorem tailSum_wordSum (byte : Nat → UInt8) (ptr count : Nat) :
    tailSum byte ptr count = wordSum (fun k => byte (ptr + k)) count := by
  induction count using Nat.twoStepInduction generalizing ptr with
  | zero => simp [tailSum, wordSum]
  | one => simp [tailSum, wordSum]
  | more count ih _ =>
      have words : (count + 2) / 2 = count / 2 + 1 := by omega
      have odd : (count + 2) % 2 = count % 2 := by omega
      have shifted : ∀ k, ptr + 2 + k = ptr + (2 + k) := fun k => Nat.add_assoc ptr 2 k
      have last : ∀ j, count % 2 = 1 → 2 + (count - 1 + j) = count + 2 - 1 + j := by omega
      have parts : ∀ i j, 2 + (2 * i + j) = 2 * (i + 1) + j := by omega
      rw [tailSum, ih, wordSum, wordSum, words, odd, Finset.sum_range_succ']
      simp only [shifted, parts, Nat.mul_zero, Nat.zero_add]
      split
      · next isOdd =>
          simp only [last _ isOdd]
          omega
      · omega

end Sum

section Call

def outsideBuffer (sz : UInt64) (content : Nat → UInt8) : Watched :=
  ⟨⟨sz.toNat, content, []⟩, []⟩

theorem copyIn_byte (val : Watched) (len k : Nat) (within : k < len) :
    (copyIn val len).1.block.byte k = val.block.byte k := by
  simp [copyIn, Block.store, within, Watched.read, Block.load]

theorem writeBack_byte (val : Watched) (count k : Nat) :
    (writeBack val count).block.byte k =
      if k < count then text.getD k 0 else val.block.byte k := by
  by_cases written : k < count <;> simp [writeBack, Watched.write, Block.store, written]

theorem checksumInternal_run (buf : Watched) (count : Nat) (short : count ≤ 100) :
    ∃ sum reads, checksumInternal buf count =
        .ok (~~~sum, ⟨buf.block, buf.reads ++ reads⟩) ∧
      sum.toInt = wordSum buf.block.byte count ∧ ∀ range ∈ reads, range.1 + range.2 ≤ count := by
  have zero : (0 : Int32).toInt = 0 := rfl
  obtain ⟨sum, reads, ran, total, inside⟩ := sumWords_run 0 count 0 buf (by rw [zero]; omega)
  refine ⟨sum, reads, ?_, ?_, ?_⟩
  · rw [checksumInternal, ran]
    rfl
  · rw [total, zero, tailSum_wordSum]
    simp
  · simpa using inside

theorem clamp_toNat (sz limit : UInt64) :
    (if sz > limit then limit else sz).toNat = min sz.toNat limit.toNat := by
  split
  · next above =>
      have larger : limit.toNat < sz.toNat := UInt64.lt_iff_toNat_lt.mp above
      omega
  · next notAbove =>
      have within : sz.toNat ≤ limit.toNat := by
        have := UInt64.not_lt.mp notAbove
        exact UInt64.le_iff_toNat_le.mp this
      omega

theorem wordSum_congr (first second : Nat → UInt8) (len : Nat)
    (same : ∀ k, k < len → first k = second k) : wordSum first len = wordSum second len := by
  have words : ∀ i ∈ Finset.range (len / 2),
      (int16 fun j => first (2 * i + j)) = int16 fun j => second (2 * i + j) := by
    intro i member
    have inside : i < len / 2 := Finset.mem_range.mp member
    congr 1
    funext j
    exact same _ (by omega)
  rw [wordSum, wordSum, Finset.sum_congr rfl words]
  split
  · next odd =>
      have last : (fun j : Fin 1 => first (len - 1 + j)) =
          fun j : Fin 1 => second (len - 1 + j) := by
        funext j
        exact same _ (by omega)
      rw [last]
  · rfl

/-- The call answers, stays inside the buffer and prints the checksum of what it
has copied, for every size and content. -/
theorem user_check_exact (sz : UInt64) (content : Nat → UInt8) :
    ∃ (result : UserCheckResult) (sum : Int32),
      ecallPointerUserCheck true (outsideBuffer sz content) sz = .ok result ∧
      result.returned.toNat = min sz.toNat 100 ∧
      result.val.reads = [(0, min sz.toNat 100)] ∧
      result.val.block.stores = [(0, min sz.toNat 12)] ∧
      (∀ k, result.val.block.byte k =
        if k < min sz.toNat 12 then text.getD k 0 else content k) ∧
      result.printed = (result.returned, (~~~sum).toUInt32) ∧
      sum.toInt = wordSum content (min sz.toNat 100) ∧
      ∀ range ∈ result.tmp.reads, range.1 + range.2 ≤ min sz.toNat 100 := by
  obtain ⟨len, clamped⟩ : ∃ len : UInt64, len = if sz > 100 then 100 else sz := ⟨_, rfl⟩
  obtain ⟨count, clampedAgain⟩ : ∃ count : UInt64, count = if len > 12 then 12 else len := ⟨_, rfl⟩
  have lenNat : len.toNat = min sz.toNat 100 := by
    rw [clamped]
    exact clamp_toNat sz 100
  have countNat : count.toNat = min sz.toNat 12 := by
    rw [clampedAgain, clamp_toNat len 12, lenNat]
    change min (min sz.toNat 100) 12 = min sz.toNat 12
    omega
  obtain ⟨sum, reads, ran, total, inside⟩ := checksumInternal_run
    (copyIn (outsideBuffer sz content) len.toNat).1 len.toNat (by omega)
  have called : ecallPointerUserCheck true (outsideBuffer sz content) sz = .ok ⟨len,
      (len, (~~~sum).toUInt32),
      writeBack (copyIn (outsideBuffer sz content) len.toNat).2 count.toNat,
      ⟨(copyIn (outsideBuffer sz content) len.toNat).1.block, reads⟩⟩ := by
    simp only [ecallPointerUserCheck, Bool.true_eq_false, if_false, ← clamped, ← clampedAgain, ran]
    rfl
  rw [← lenNat, ← countNat]
  refine ⟨_, sum, called, rfl, rfl, rfl, writeBack_byte _ count.toNat, rfl, ?_, inside⟩
  rw [total]
  exact wordSum_congr _ content len.toNat (copyIn_byte (outsideBuffer sz content) len.toNat)

end Call

end SgxExperiments.UserCheck
