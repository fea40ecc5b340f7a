import SgxExperiments.BlockInvariant
import SgxExperiments.Msg2

/-!
MSG2 and the block it is built in. The size of the block is computed in 32 bits,
the copies are made with the sizes of the parts.
-/

namespace SgxExperiments.Msg2Bounds

open ByteMemory BreakableBlock KeyDerivation ServiceProvider NetworkRa Registration

variable {World : Type}

/-- `p_msg2_full` with all that was stored to it, before it is handed over or freed. -/
def responseBlock (table : List (SampleExtendedEpidGroup World)) (build : Build)
    (primitives : Primitives) (calls : Msg1Calls World) (provider : Provider)
    (msg1 : SampleRaMsg1) : Option Block :=
  (last (prepareMsg2 table build primitives calls msg1
    ⟨provider, 0, none, false, []⟩)).msg2Full

structure Fits (sigRl : SigRl) (block : Block) : Prop where
  inside : ∀ range ∈ block.stores, range.1 + range.2 ≤ block.size
  size : leValue (block.load 3 4) = sampleRaMsg2Size + sigRl.bytes.length

def Allocates (build : Build) (primitives : Primitives) (calls : Msg1Calls World)
    (msg1 : SampleRaMsg1) (sigRl : SigRl) : Prop :=
  ∃ priv pub secret, Exchanged calls msg1 priv pub secret ∧
    ((deriveSteps build primitives calls secret).all fun step => step.succeeds) = true ∧
    calls.malloc ((msg2Size sigRl).toNat + headerSize) = true

section Stores

structure Growing (sigRl : SigRl) (block : Block) : Prop where
  size : block.size = (msg2Size sigRl).toNat + headerSize
  header : leValue (block.load 3 4) = (msg2Size sigRl).toNat
  stores : ∀ range ∈ block.stores,
    range.1 + range.2 ≤ headerSize + (sampleRaMsg2Size + sigRl.bytes.length)

theorem growing_header (sigRl : SigRl) : Growing sigRl (msg2Header (msg2Size sigRl)) := by
  have short : (msg2Size sigRl).toNat ≤ sampleRaMsg2Size + sigRl.bytes.length := by
    rw [msg2Size_mod]
    exact Nat.mod_le _ _
  constructor
  · rfl
  · simp (disch := omega) only [msg2Header, Block.load_store_apart, Block.load_store_same]
    exact leValue_littleEndian 4 _ (msg2Size sigRl).toNat_lt
  · intro range member
    simp only [msg2Header, Block.store, Block.zeroed, List.cons_append, List.nil_append,
      List.mem_cons, List.not_mem_nil, or_false] at member
    rcases member with rfl | rfl | rfl | rfl | rfl <;>
      simp only [headerSize, sampleRaMsg2Size] at * <;> omega

theorem growing_store {n : Nat} (sigRl : SigRl) (block : Block) (offset : Nat) (bytes : Bytes n)
    (growing : Growing sigRl block) (fits : offset + n ≤ sampleRaMsg2Size + sigRl.bytes.length) :
    Growing sigRl (block.store (headerSize + offset) bytes) := by
  constructor
  · exact growing.size
  · rw [Block.load_store_apart _ _ _ _ (by simp only [headerSize]; omega)]
    exact growing.header
  · intro range member
    rcases List.mem_append.mp member with earlier | last
    · exact growing.stores range earlier
    · rw [List.mem_singleton.mp last]
      simp only
      omega

def Filling (sigRl : SigRl) (frame : Msg1Frame) : Prop :=
  ∃ block, frame.msg2Full = some block ∧ Growing sigRl block ∧ (headerSize, 64) ∈ block.stores

/-- A store is made, whether or not the process outlives it. -/
theorem storeMsg2_last {n : Nat} (offset : Nat) (bytes : Bytes n) (frame : Msg1Frame) (block : Block)
    (held : frame.msg2Full = some block) :
    (last (storeMsg2 offset bytes frame)).msg2Full =
      some (block.store (headerSize + offset) bytes) := by
  obtain ⟨provider, ret, _, eccState, log⟩ := frame
  cases held
  by_cases inside : headerSize + offset + n ≤ block.size
  · rw [storeMsg2_inside _ _ _ _ _ _ _ inside]
    rfl
  · rw [storeMsg2_outside _ _ _ _ _ _ _ (Nat.not_le.mp inside)]
    rfl

theorem storeMsg2_filling {n : Nat} (sigRl : SigRl) (offset : Nat) (bytes : Bytes n)
    (fits : offset + n ≤ sampleRaMsg2Size + sigRl.bytes.length) :
    Preserves (Filling sigRl) (storeMsg2 offset bytes) := by
  rintro frame ⟨block, held, growing, first⟩
  exact ⟨_, storeMsg2_last offset bytes frame block held, growing_store sigRl block offset bytes
    growing fits, List.mem_append_left _ first⟩

theorem storeMsg2_field {n : Nat} (sigRl : SigRl) (offset : Nat) (bytes : Bytes n)
    (fixed : offset + n ≤ sampleRaMsg2Size) :
    Preserves (Filling sigRl) (storeMsg2 offset bytes) :=
  storeMsg2_filling sigRl offset bytes (Nat.le_add_right_of_le fixed)

theorem succeeded_filling {α : Type} (sigRl : SigRl) (result : Option α) :
    Preserves (Filling sigRl) (succeeded result) := by
  cases result with
  | none => exact fun _ => id
  | some value => exact preserves_pure value

theorem msg2Full_filling (sigRl : SigRl) : Preserves (Filling sigRl) msg2Full := by
  rintro ⟨provider, ret, full, eccState, log⟩ filling
  obtain ⟨block, rfl, _⟩ := id filling
  exact filling

theorem fillMsg2_filling (build : Build) (primitives : Primitives) (calls : Msg1Calls World)
    (sigRl : SigRl) (frame : Msg1Frame)
    (fresh : frame.msg2Full = some (msg2Header (msg2Size sigRl))) :
    Filling sigRl (last (fillMsg2 build primitives calls sigRl frame)) := by
  have fits : sigRl.bytes.length ≤ sigRl.size.toNat := (sigRl_size sigRl).ge
  rw [fillMsg2, bind_of_ok _ _ _ _ _ (get_run _)]
  simp only [copyMsg2_fits _ _ _ le_rfl, copyMsg2_fits _ _ _ fits]
  apply last_bind
  · refine ⟨_, storeMsg2_last 0 frame.provider.gSpDb.gB frame _ fresh, growing_store _ _ _ _
      (growing_header sigRl) (Nat.le_add_right_of_le (by decide)),
      List.mem_append_right _ (List.mem_singleton_self _)⟩
  intro _
  apply preserves_bind (storeMsg2_field sigRl _ _ (by decide))
  intro _
  apply preserves_bind (storeMsg2_field sigRl _ _ (by decide))
  intro _
  apply preserves_bind (storeMsg2_field sigRl _ _ (by decide))
  intro _
  apply preserves_bind (succeeded_filling sigRl _)
  intro signature
  apply preserves_bind (storeMsg2_field sigRl _ _ (by decide))
  intro _
  apply preserves_bind (msg2Full_filling sigRl)
  intro block
  apply preserves_bind (succeeded_filling sigRl _)
  intro mac
  apply preserves_bind (storeMsg2_field sigRl _ _ (by decide))
  intro _
  apply preserves_bind (storeMsg2_filling sigRl _ _ le_rfl)
  intro _
  exact storeMsg2_field sigRl _ _ (by decide)

end Stores

section Exact

variable {table : List (SampleExtendedEpidGroup World)} {build : Build} {primitives : Primitives}

/-- The block is there exactly when all calls up to `malloc` succeed. -/
theorem responseBlock_cases (calls : Msg1Calls World) (provider : Provider) (msg1 : SampleRaMsg1)
    (i : Nat) (sigRl : SigRl) (fetched : Fetched table calls provider msg1 i sigRl)
    (build : Build) (primitives : Primitives) :
    (¬ Allocates build primitives calls msg1 sigRl ∧
      responseBlock table build primitives calls provider msg1 = none) ∨
    (Allocates build primitives calls msg1 sigRl ∧
      ∃ block, responseBlock table build primitives calls provider msg1 = some block ∧
        Growing sigRl block ∧ (headerSize, 64) ∈ block.stores) := by
  by_cases goesOn : ∃ priv pub secret, Exchanged calls msg1 priv pub secret
  · obtain ⟨priv, pub, secret, exchanged⟩ := goesOn
    rw [responseBlock]
    cases derived : (deriveSteps build primitives calls secret).all fun step => step.succeeds with
    | false =>
        rw [prepareMsg2_fetched build primitives exchanged fetched, deriveKeys_steps,
          bind_of_error _ _ _ _ _ ((takeSteps_run _ _).trans (if_neg (by
            rw [runSteps_all, derived]
            exact Bool.false_ne_true)))]
        refine Or.inl ⟨?_, rfl⟩
        rintro ⟨_, _, _, other, through, _⟩
        obtain ⟨rfl, rfl, rfl⟩ := exchanged_unique calls msg1 _ _ _ _ _ _ exchanged other
        cases derived.symm.trans through
    | true =>
        have through := (runSteps_all _ (provider.exchanged msg1 priv pub)).trans derived
        cases obtained : calls.malloc ((msg2Size sigRl).toNat + headerSize) with
        | false =>
            rw [prepareMsg2_fetched build primitives exchanged fetched, deriveKeys_steps,
              bind_of_ok _ _ _ _ _ ((takeSteps_run _ _).trans (if_pos through)),
              bind_of_error _ _ _ _ _ ((allocateMsg2_run _ _ _).trans
                (if_neg (by simpa using obtained)))]
            refine Or.inl ⟨?_, rfl⟩
            rintro ⟨_, _, _, _, _, other⟩
            cases obtained.symm.trans other
        | true =>
            rw [prepareMsg2_allocated build primitives exchanged fetched through obtained]
            exact Or.inr ⟨⟨priv, pub, secret, exchanged, derived, obtained⟩,
              fillMsg2_filling build primitives calls sigRl _ rfl⟩
  -- Without a DH secret the handler does not come to `malloc`.
  refine Or.inl ⟨fun ⟨priv, pub, secret, exchanged, _⟩ => goesOn ⟨priv, pub, secret, exchanged⟩, ?_⟩
  rw [responseBlock, prepareMsg2, bind_of_ok _ _ _ _ _ (saveField_run _ _ _ _ le_rfl)]
  cases opened : calls.openContext with
  | false =>
      rw [bind_of_error _ _ _ _ _ ((openContext_run _ _).trans (if_neg (by simpa using opened)))]
      rfl
  | true =>
      rw [bind_of_ok _ _ _ _ _ ((openContext_run _ _).trans (if_pos opened))]
      rcases Option.eq_none_or_eq_some calls.createKeyPair with keyPair | ⟨⟨priv, pub⟩, keyPair⟩
      · rw [keyPair]
        rfl
      rw [keyPair, bind_of_ok _ _ _ _ _ (succeeded_some _ _),
        bind_of_ok _ _ _ _ _ (saveField_run _ _ _ _ le_rfl),
        bind_of_ok _ _ _ _ _ (saveField_run _ _ _ _ le_rfl)]
      rcases Option.eq_none_or_eq_some (calls.computeSharedDhkey priv msg1.gA) with
        shared | ⟨secret, shared⟩
      · rw [shared]
        rfl
      · exact absurd ⟨priv, pub, secret, opened, keyPair, shared⟩ goesOn

theorem growing_fits_iff (sigRl : SigRl) (block : Block) (growing : Growing sigRl block) :
    Fits sigRl block ↔ sampleRaMsg2Size + sigRl.bytes.length < 2 ^ 32 := by
  constructor
  · intro fits
    rw [← fits.size, growing.header]
    exact (msg2Size sigRl).toNat_lt
  · intro short
    have size := msg2Size_toNat sigRl short
    constructor
    · intro range member
      rw [growing.size, size, Nat.add_comm _ headerSize]
      exact growing.stores range member
    · rw [growing.header, size]

theorem handled_response (calls : Msg1Calls World) (provider : Provider) (msg1 : SampleRaMsg1)
    (msg1Size : UInt32) (exact : msg1Size.toNat = sampleRaMsg1Size)
    (registered : provider.gIsSpRegistered = true) (result : HandlerResult)
    (ran : spRaProcMsg1Req table build primitives calls provider (some msg1) msg1Size true =
      .ok result) (returned : result.ret = 0) :
    result.response = some (responseBlock table build primitives calls provider msg1) := by
  simp only [spRaProcMsg1Req, Bool.true_eq_false, exact, ne_eq, not_true_eq_false, or_self,
    if_false, registered] at ran
  rw [conclude_ok _ _ _ ran, finishMsg1] at returned ⊢
  split at returned
  · next failed => exact absurd returned failed
  · next zero => rw [if_neg zero, responseBlock]

/-- The response fits its block, unless it is allocated for a list so long that
the 32-bit sum wraps; and this is the block that an answered MSG1 hands over. -/
theorem msg2_fits_iff (table : List (SampleExtendedEpidGroup World)) (build : Build)
    (primitives : Primitives) (calls : Msg1Calls World) (provider : Provider)
    (msg1 : SampleRaMsg1) (i : Nat) (sigRl : SigRl)
    (fetched : Fetched table calls provider msg1 i sigRl) :
    ((∀ block, responseBlock table build primitives calls provider msg1 = some block →
      Fits sigRl block) ↔
      (Allocates build primitives calls msg1 sigRl →
        sampleRaMsg2Size + sigRl.bytes.length < 2 ^ 32)) ∧
    ∀ msg1Size : UInt32, msg1Size.toNat = sampleRaMsg1Size → provider.gIsSpRegistered = true →
      ∀ result, spRaProcMsg1Req table build primitives calls provider (some msg1) msg1Size true =
        .ok result → result.ret = 0 →
          result.response = some (responseBlock table build primitives calls provider msg1) := by
  refine ⟨?_, handled_response calls provider msg1⟩
  rcases responseBlock_cases calls provider msg1 i sigRl fetched build primitives with
    ⟨early, absent⟩ | ⟨allocates, block, present, growing, _⟩
  · simp [early, absent]
  · rw [present, ← growing_fits_iff sigRl block growing]
    simp [allocates]

end Exact

theorem listGroup_allocates (sigRl : SigRl) :
    Allocates .suppliedKeyDerivation blankPrimitives smoothCalls.msg1 (asMsg1 fun _ => 1) sigRl :=
  ⟨_, _, _, ⟨rfl, rfl, rfl⟩, rfl, rfl⟩

theorem msg2_fits_threeBytes :
    ∃ block, responseBlock [listGroup ⟨[7, 8, 9], by decide⟩] .suppliedKeyDerivation
        blankPrimitives smoothCalls.msg1 registeredZero (asMsg1 fun _ => 1) = some block ∧
      Fits ⟨[7, 8, 9], by decide⟩ block := by
  have fits := (msg2_fits_iff _ .suppliedKeyDerivation blankPrimitives _ _ _ 0 _
    (listGroup_fetched ⟨[7, 8, 9], by decide⟩)).1.mpr fun _ => by decide
  exact ⟨_, rfl, fits _ rfl⟩

theorem list_response (sigRl : SigRl) (wraps : sampleRaMsg2Size + sigRl.bytes.length = 2 ^ 32) :
    ∃ block, responseBlock [listGroup sigRl] .suppliedKeyDerivation blankPrimitives
        smoothCalls.msg1 registeredZero (asMsg1 fun _ => 1) = some block ∧
      block.size = headerSize ∧ (headerSize, 64) ∈ block.stores ∧ ¬ Fits sigRl block := by
  rcases responseBlock_cases smoothCalls.msg1 registeredZero (asMsg1 fun _ => 1) 0 sigRl
    (listGroup_fetched sigRl) .suppliedKeyDerivation blankPrimitives with
    ⟨early, _⟩ | ⟨_, block, present, growing, written⟩
  · exact absurd (listGroup_allocates sigRl) early
  · have zero : (msg2Size sigRl).toNat = 0 := by rw [msg2Size_mod, wraps, Nat.mod_self]
    refine ⟨block, present, ?_, written, ?_⟩
    · rw [growing.size, zero, Nat.zero_add]
    · rw [growing_fits_iff sigRl block growing, wraps]
      exact Nat.lt_irrefl _

theorem msg2_overruns :
    ∃ block, responseBlock [listGroup wrappingList] .suppliedKeyDerivation blankPrimitives
        smoothCalls.msg1 registeredZero (asMsg1 fun _ => 1) = some block ∧
      block.size = headerSize ∧ (headerSize, 64) ∈ block.stores ∧ ¬ Fits wrappingList block :=
  list_response wrappingList wrappingList_length

end SgxExperiments.Msg2Bounds
