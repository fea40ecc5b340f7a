import SgxExperiments.ByteMemory

/-!
32-bit words in a block, least significant byte first, and ranges of a block
that are turned round by exchanging opposite parts.
-/

namespace SgxExperiments.WordMemory

open ByteMemory

variable {n : Nat}

section Words

theorem leValue_lt (bytes : Bytes n) : leValue bytes < 256 ^ n := by
  induction n with
  | zero => simp [leValue]
  | succ n ih =>
      have low := (bytes 0).toNat_lt
      have high := ih fun i => bytes i.succ
      rw [leValue, pow_succ']
      omega

theorem littleEndian_leValue (bytes : Bytes n) : littleEndian n (leValue bytes) = bytes := by
  induction n with
  | zero => exact funext fun i => i.elim0
  | succ n ih =>
      funext i
      have low := (bytes 0).toNat_lt
      cases i using Fin.cases with
      | zero =>
          apply UInt8.toNat_inj.mp
          simp only [littleEndian, leValue, Fin.val_zero, pow_zero, Nat.div_one]
          rw [UInt8.toNat_ofNat']
          omega
      | succ i =>
          have rest : leValue bytes / 256 = leValue fun i => bytes i.succ := by
            rw [leValue]
            omega
          rw [littleEndian_succ, rest, ih]

theorem littleEndian_bit (value : Nat) (i : Fin n) (bit : Nat) (inByte : bit < 8) :
    (littleEndian n value i).toNat.testBit bit = value.testBit (8 * i + bit) := by
  have power : 256 ^ (i : Nat) = 2 ^ (8 * (i : Nat)) := (pow_mul 2 8 (i : Nat)).symm
  rw [littleEndian, UInt8.toNat_ofNat', power, Nat.testBit_mod_two_pow, Nat.testBit_div_two_pow]
  simp [inByte, Nat.add_comm]

def loadWord (block : Block) (offset : Nat) : UInt32 := UInt32.ofNat (leValue (block.load offset 4))

def storeWord (block : Block) (offset : Nat) (word : UInt32) : Block :=
  block.store offset (littleEndian 4 word.toNat)

theorem loadWord_bytes (block : Block) (offset : Nat) :
    littleEndian 4 (loadWord block offset).toNat = block.load offset 4 := by
  have whole : (loadWord block offset).toNat = leValue (block.load offset 4) := by
    rw [loadWord, UInt32.toNat_ofNat']
    exact Nat.mod_eq_of_lt (leValue_lt (block.load offset 4))
  rw [whole, littleEndian_leValue]

end Words

section Mirrored

def mirror (start length k : Nat) : Nat := start + (length - 1 - (k - start))

/-- Some places of a range hold what was opposite to them, everything else is as
it was. -/
structure Mirrored (start length : Nat) (Turned : Nat → Prop) (before after : Nat → UInt8) :
    Prop where
  turned : ∀ k, Turned k → after k = before (mirror start length k)
  kept : ∀ k, ¬ Turned k → after k = before k

theorem mirrored_trans {start length : Nat} {First Second : Nat → Prop}
    {before middle after : Nat → UInt8} (first : Mirrored start length First before middle)
    (second : Mirrored start length Second middle after)
    (apart : ∀ k, Second k → ¬ First k)
    (closed : ∀ k, Second k → Second (mirror start length k)) :
    Mirrored start length (fun k => First k ∨ Second k) before after := by
  constructor
  · rintro k (inFirst | inSecond)
    · have outside : ¬ Second k := fun inSecond => apart k inSecond inFirst
      rw [second.kept k outside, first.turned k inFirst]
    · rw [second.turned k inSecond, first.kept _ (apart _ (closed k inSecond))]
  · intro k outside
    obtain ⟨notFirst, notSecond⟩ := not_or.mp outside
    rw [second.kept k notSecond, first.kept k notFirst]

def InParts (start a b n k : Nat) : Prop :=
  (start + a ≤ k ∧ k < start + a + n) ∨ (start + b ≤ k ∧ k < start + b + n)

/-- Two opposite parts, each stored backwards where the other was. -/
theorem exchange_mirrored (block : Block) (start length a b n : Nat)
    (opposite : a + n + b = length) (apart : a + n ≤ b) :
    Mirrored start length (InParts start a b n) block.byte
      ((block.store (start + a) (reversed (block.load (start + b) n))).store (start + b)
        (reversed (block.load (start + a) n))).byte := by
  constructor
  · rintro k (inFirst | inSecond)
    · have notSecond : ¬ (start + b ≤ k ∧ k < start + b + n) := by omega
      simp only [Block.store, dif_neg notSecond, dif_pos inFirst, reversed, Block.load, Fin.val_rev,
        mirror]
      congr 1
      omega
    · simp only [Block.store, dif_pos inSecond, reversed, Block.load, Fin.val_rev, mirror]
      congr 1
      omega
  · intro k outside
    obtain ⟨notFirst, notSecond⟩ := not_or.mp outside
    simp only [Block.store, dif_neg notSecond, dif_neg notFirst]

theorem mirrored_load {start length : Nat} {before after : Block} {Turned : Nat → Prop}
    (mirrored : Mirrored start length Turned before.byte after.byte)
    (all : ∀ k, start ≤ k → k < start + length → Turned k) :
    after.load start length = reversed (before.load start length) := by
  funext i
  simp only [Block.load, reversed, Fin.val_rev]
  rw [mirrored.turned _ (all _ (by omega) (by omega)), mirror]
  congr 1
  omega

end Mirrored

end SgxExperiments.WordMemory
