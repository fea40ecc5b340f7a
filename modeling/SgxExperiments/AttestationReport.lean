import Mathlib.Tactic.IntervalCases
import SgxExperiments.ServiceProvider
import SgxExperiments.WordMemory

/-!
ias_ra.cpp: the simulated attestation server signs the platform info blob of a
report and turns both halves of the signature round.
-/

namespace SgxExperiments.AttestationReport

open ByteMemory ServiceProvider WordMemory

section Swap

def swapEndianDw (dw : UInt32) : UInt32 :=
  ((dw &&& 0x000000ff) <<< 24) ||| ((dw &&& 0x0000ff00) <<< 8) ||| ((dw &&& 0x00ff0000) >>> 8) |||
    ((dw &&& 0xff000000) >>> 24)

def swapWords (block : Block) (ptr i j : Nat) : Block :=
  let temp := swapEndianDw (loadWord block (ptr + 4 * i))
  let first := storeWord block (ptr + 4 * i) (swapEndianDw (loadWord block (ptr + 4 * j)))
  storeWord first (ptr + 4 * j) temp

def swapEndian32B (block : Block) (ptr : Nat) : Block :=
  swapWords (swapWords (swapWords (swapWords block ptr 0 7) ptr 1 6) ptr 2 5) ptr 3 4

theorem swapEndianDw_bit (dw : UInt32) (i bit : Nat) (inWord : i < 4) (inByte : bit < 8) :
    (swapEndianDw dw).toNat.testBit (8 * i + bit) = dw.toNat.testBit (8 * (3 - i) + bit) := by
  simp only [swapEndianDw, ← UInt32.toNat_toBitVec, BitVec.testBit_toNat]
  interval_cases i <;> interval_cases bit <;> simp

theorem swapEndianDw_bytes (dw : UInt32) :
    littleEndian 4 (swapEndianDw dw).toNat = reversed (littleEndian 4 dw.toNat) := by
  funext i
  apply UInt8.toNat_inj.mp
  apply Nat.eq_of_testBit_eq
  intro bit
  by_cases inByte : bit < 8
  · have opposite : (i.rev : Nat) = 3 - i := by
      rw [Fin.val_rev]
      omega
    rw [reversed, littleEndian_bit _ _ _ inByte, littleEndian_bit _ _ _ inByte, opposite,
      swapEndianDw_bit dw i bit i.isLt inByte]
  · have large : 2 ^ 8 ≤ 2 ^ bit := Nat.pow_le_pow_right (by decide) (by omega)
    rw [Nat.testBit_lt_two_pow (lt_of_lt_of_le (UInt8.toNat_lt _) large),
      Nat.testBit_lt_two_pow (lt_of_lt_of_le (UInt8.toNat_lt _) large)]

theorem swapWords_stores (block : Block) (ptr i j : Nat) :
    swapWords block ptr i j =
      (block.store (ptr + 4 * i) (reversed (block.load (ptr + 4 * j) 4))).store (ptr + 4 * j)
        (reversed (block.load (ptr + 4 * i) 4)) := by
  simp only [swapWords, storeWord, swapEndianDw_bytes, loadWord_bytes]

theorem swapWords_mirrored (block : Block) (ptr i j : Nat) (opposite : i + j = 7)
    (before : i < j) :
    Mirrored ptr 32 (InParts ptr (4 * i) (4 * j) 4) block.byte (swapWords block ptr i j).byte := by
  rw [swapWords_stores]
  exact exchange_mirrored block ptr 32 (4 * i) (4 * j) 4 (by omega) (by omega)

theorem swapEndian32B_mirrored (block : Block) (ptr : Nat) :
    Mirrored ptr 32 (fun k => ptr ≤ k ∧ k < ptr + 32) block.byte (swapEndian32B block ptr).byte := by
  have first := swapWords_mirrored block ptr 0 7 rfl (by decide)
  have second := mirrored_trans first (swapWords_mirrored _ ptr 1 6 rfl (by decide))
    (by simp only [InParts]; omega) (by simp only [InParts, mirror]; omega)
  have third := mirrored_trans second (swapWords_mirrored _ ptr 2 5 rfl (by decide))
    (by simp only [InParts]; omega) (by simp only [InParts, mirror]; omega)
  have fourth := mirrored_trans third (swapWords_mirrored _ ptr 3 4 rfl (by decide))
    (by simp only [InParts]; omega) (by simp only [InParts, mirror]; omega)
  constructor
  · intro k inside
    exact fourth.turned k (by simp only [InParts]; omega)
  · intro k outside
    exact fourth.kept k (by simp only [InParts]; omega)

theorem swapEndian32B_load (block : Block) (ptr : Nat) :
    (swapEndian32B block ptr).load ptr 32 = reversed (block.load ptr 32) :=
  mirrored_load (swapEndian32B_mirrored block ptr) fun _ after before => ⟨after, before⟩

theorem swapEndian32B_load_apart (block : Block) (ptr start m : Nat)
    (apart : start + m ≤ ptr ∨ ptr + 32 ≤ start) :
    (swapEndian32B block ptr).load start m = block.load start m := by
  funext i
  exact (swapEndian32B_mirrored block ptr).kept _ (by omega)

theorem swapEndian32B_twice (block : Block) (ptr : Nat) :
    (swapEndian32B (swapEndian32B block ptr) ptr).byte = block.byte := by
  have once := swapEndian32B_mirrored block ptr
  have twice := swapEndian32B_mirrored (swapEndian32B block ptr) ptr
  funext k
  by_cases inside : ptr ≤ k ∧ k < ptr + 32
  · have opposite : ptr ≤ mirror ptr 32 k ∧ mirror ptr 32 k < ptr + 32 := by
      simp only [mirror]
      omega
    have back : mirror ptr 32 (mirror ptr 32 k) = k := by
      simp only [mirror]
      omega
    rw [twice.turned k inside, once.turned _ opposite, back]
  · rw [twice.kept k inside, once.kept k inside]

end Swap

section Report

-- offsets in `ias_att_report_t`, which is packed: id 0, status 4, revocation_reason 8,
-- info_blob 12, pse_status 109, policy_report_size 113; and in `ias_platform_info_blob_t`:
-- sample_epid_group_status 0, sample_tcb_evaluation_status 1, pse_evaluation_status 3,
-- latest_equivalent_tcb_psvn 5, latest_pse_isvsvn 23, latest_psda_svn 25,
-- performance_rekey_gid 29, signature 33
def infoBlob : Nat := 12
def signatureX : Nat := infoBlob + 33
def signatureY : Nat := signatureX + 32

-- the sizeof of both structures
def iasPlatformInfoBlobSize : Nat := 97
def sampleEcSign256Size : Nat := 64

def iasQuoteOk : Nat := 0
def iasRevocReasonNone : Nat := 0
def iasPseOk : Nat := 0

def gRkPrivKey : SampleEcPriv := bytesOfList [
  0x63, 0x2c, 0xd4, 0x02, 0x7a, 0xdc, 0x56, 0xa5,
  0x59, 0x6c, 0x44, 0x3e, 0x43, 0xca, 0x4e, 0x0b,
  0x58, 0xcd, 0x78, 0xcb, 0x3c, 0x7e, 0xd5, 0xb9,
  0xf2, 0x91, 0x5b, 0x39, 0x0d, 0xb3, 0xb5, 0xfb]

/-- How the calls end; a signing that fails may leave something in its output. -/
structure EvidenceCalls where
  openContext : Bool
  ecdsaSign : List UInt8 → SampleEcPriv → Except (Option SampleEcSign256) SampleEcSign256

structure EvidenceResult where
  ret : Int
  report : Option Block
  signed : Option (List UInt8)
  closed : Bool

def fillReport (report : Block) : Block :=
  ((((((((((report.store 0 (littleEndian 4 0x12345678)).store 4
    (littleEndian 4 iasQuoteOk)).store 8 (littleEndian 4 iasRevocReasonNone)).store
    (infoBlob + 0) (zeroBytes 1)).store (infoBlob + 1) (zeroBytes 2)).store
    (infoBlob + 3) (zeroBytes 2)).store (infoBlob + 5) (zeroBytes 18)).store
    (infoBlob + 23) (zeroBytes 2)).store (infoBlob + 25) (zeroBytes 4)).store
    (infoBlob + 29) (zeroBytes 4))

def finishReport (report : Block) : Block :=
  (report.store 109 (littleEndian 4 iasPseOk)).store 113 (littleEndian 4 0)

def signedData (report : Block) : List UInt8 :=
  List.ofFn (report.load infoBlob (iasPlatformInfoBlobSize - sampleEcSign256Size))

/-- The quote is only tested for NULL, the PSE manifest is not used at all. -/
def iasVerifyAttestationEvidence {Quote : Type} (calls : EvidenceCalls) (pIsvQuote : Option Quote)
    (pReport : Option Block) : EvidenceResult :=
  match pIsvQuote, pReport with
  | some _, some report =>
      let filled := fillReport report
      if calls.openContext = false then ⟨-1, some (finishReport filled), none, false⟩
      else
        let data := signedData filled
        match calls.ecdsaSign data gRkPrivKey with
        | .error left =>
            let spoilt := match left with
              | none => filled
              | some left => filled.store signatureX left
            ⟨SpRaMsgStatus.internalError.code, some (finishReport spoilt), some data, true⟩
        | .ok signature =>
            let signed := filled.store signatureX signature
            let swapped := swapEndian32B (swapEndian32B signed signatureX) signatureY
            ⟨0, some (finishReport swapped), some data, true⟩
  | _, _ => ⟨-1, pReport, none, false⟩

theorem signedReport_fields (filled : Block) (signature : SampleEcSign256) :
    let report := finishReport
      (swapEndian32B (swapEndian32B (filled.store signatureX signature) signatureX) signatureY)
    report.load infoBlob 33 = filled.load infoBlob 33 ∧
      reversed (report.load signatureX 32) = slice signature 0 32 (by decide) ∧
      reversed (report.load signatureY 32) = slice signature 32 32 (by decide) := by
  simp only [finishReport]
  refine ⟨?_, ?_, ?_⟩
  · rw [Block.load_store_apart _ _ _ _ (by decide), Block.load_store_apart _ _ _ _ (by decide),
      swapEndian32B_load_apart _ _ _ _ (by decide), swapEndian32B_load_apart _ _ _ _ (by decide),
      Block.load_store_apart _ _ _ _ (by decide)]
  · rw [Block.load_store_apart _ _ _ _ (by decide), Block.load_store_apart _ _ _ _ (by decide),
      swapEndian32B_load_apart _ _ _ _ (by decide), swapEndian32B_load, reversed_reversed]
    exact Block.load_store_within filled signatureX 0 signature (by decide)
  · rw [Block.load_store_apart _ _ _ _ (by decide), Block.load_store_apart _ _ _ _ (by decide),
      swapEndian32B_load, reversed_reversed, swapEndian32B_load_apart _ _ _ _ (by decide)]
    exact Block.load_store_within filled signatureX 32 signature (by decide)

theorem evidence_accepted {Quote : Type} (calls : EvidenceCalls) (pIsvQuote : Option Quote)
    (pReport : Option Block)
    (accepted : (iasVerifyAttestationEvidence calls pIsvQuote pReport).ret = 0) :
    ∃ report signature, pReport = some report ∧
      calls.ecdsaSign (List.ofFn ((fillReport report).load infoBlob 33)) gRkPrivKey =
        .ok signature ∧
      iasVerifyAttestationEvidence calls pIsvQuote pReport =
        ⟨0, some (finishReport (swapEndian32B
            (swapEndian32B ((fillReport report).store signatureX signature) signatureX) signatureY)),
          some (List.ofFn ((fillReport report).load infoBlob 33)), true⟩ := by
  cases pIsvQuote with
  | none => cases accepted
  | some quote =>
      cases pReport with
      | none => cases accepted
      | some report =>
          cases opened : calls.openContext with
          | false => simp [iasVerifyAttestationEvidence, opened] at accepted
          | true =>
              simp only [iasVerifyAttestationEvidence, opened, Bool.true_eq_false, if_false]
                at accepted ⊢
              cases signing : calls.ecdsaSign (signedData (fillReport report)) gRkPrivKey with
              | error left =>
                  rw [signing] at accepted
                  cases accepted
              | ok signature => exact ⟨report, signature, rfl, signing, rfl⟩

/-- The swap turns exactly its 32 bytes round, and a report that is returned with 0
carries the primitive's signature, turned round, of the bytes before it. -/
theorem report_carries_signature :
    (∀ block ptr, (swapEndian32B block ptr).load ptr 32 = reversed (block.load ptr 32) ∧
      (swapEndian32B (swapEndian32B block ptr) ptr).byte = block.byte ∧
      ∀ k, ¬ (ptr ≤ k ∧ k < ptr + 32) → (swapEndian32B block ptr).byte k = block.byte k) ∧
    ∀ {Quote : Type} (calls : EvidenceCalls) (pIsvQuote : Option Quote) (pReport : Option Block),
      (iasVerifyAttestationEvidence calls pIsvQuote pReport).ret = 0 →
      ∃ returned signature,
        (iasVerifyAttestationEvidence calls pIsvQuote pReport).report = some returned ∧
        (iasVerifyAttestationEvidence calls pIsvQuote pReport).signed =
          some (List.ofFn (returned.load infoBlob 33)) ∧
        calls.ecdsaSign (List.ofFn (returned.load infoBlob 33)) gRkPrivKey = .ok signature ∧
        reversed (returned.load signatureX 32) = slice signature 0 32 (by decide) ∧
        reversed (returned.load signatureY 32) = slice signature 32 32 (by decide) := by
  constructor
  · intro block ptr
    exact ⟨swapEndian32B_load block ptr, swapEndian32B_twice block ptr,
      (swapEndian32B_mirrored block ptr).kept⟩
  · intro Quote calls pIsvQuote pReport accepted
    obtain ⟨report, signature, _, signing, ran⟩ :=
      evidence_accepted calls pIsvQuote pReport accepted
    obtain ⟨before, first, second⟩ := signedReport_fields (fillReport report) signature
    rw [ran]
    refine ⟨_, signature, rfl, ?_, ?_, first, second⟩
    · rw [before]
    · rw [before]
      exact signing

theorem report_carries_signature_counting :
    ∃ returned,
      (iasVerifyAttestationEvidence ⟨true, fun _ _ => .ok fun i : Fin 64 => UInt8.ofNat i⟩ (some ())
        (some ⟨117, fun _ => 1, []⟩)).report = some returned ∧
      reversed (returned.load signatureX 32) = fun i : Fin 32 => UInt8.ofNat i := by
  obtain ⟨returned, signature, stored, _, signing, first, _⟩ := report_carries_signature.2
    ⟨true, fun _ _ => .ok fun i : Fin 64 => UInt8.ofNat i⟩ (some ()) (some ⟨117, fun _ => 1, []⟩) rfl
  cases signing
  refine ⟨returned, stored, ?_⟩
  rw [first]
  funext i
  simp [slice]

end Report

end SgxExperiments.AttestationReport
