import SgxExperiments.ArrayAttributes
import SgxExperiments.Arithmetic
import SgxExperiments.CString

/-!
The ECALLs with pointer attributes. `char` is a byte, `int` 32 bits, `size_t` 64 bits.
-/

namespace SgxExperiments.PointerAttributes

open BreakableBlock CopiedBuffer CString CheckedInt ArrayAttributes

abbrev CharBody := Breakable Fault (List UInt8) Unit

section Model

def requireWithin (within : Bool) : Body :=
  if within = false then faultWith .abort else pure ()

def ecallPointerIn (within : Bool) : Body := do
  requireWithin within
  store 0 1234

def ecallPointerOut (within : Bool) : Body := do
  requireWithin within
  if (← load 0) ≠ 0 then faultWith .assertion
  store 0 1234

def ecallPointerInOut (within : Bool) : Body := do
  requireWithin within
  store 0 1234

def defined {α : Type} : Option α → Breakable Fault (List UInt8) α
  | none => faultWith .outOfBounds
  | some value => pure value

def strncpyTo (src : List UInt8) (n : Nat) : CharBody := do
  let after ← defined (strncpy (← get) src n)
  modify fun _ => after

def digits : List UInt8 :=
  [ '0', '9', '8', '7', '6', '5', '4', '3', '2', '1'].map fun c => UInt8.ofNat c.toNat

def ecallPointerString : CharBody := do
  let n ← defined (strlen (← get))
  strncpyTo (digits ++ [0]) n

/-- `new` throws, or gives an array that is not initialised. -/
def ecallPointerStringConst (new : (n : Nat) → Option (Fin n → UInt8)) : CharBody := do
  let str ← get
  let n ← defined (strlen str)
  match new n with
  | none => faultWith .abort
  | some temp =>
      let _ ← defined (strncpy (List.ofFn temp) str n)
      pure ()

def ecallPointerSize (len : Nat) : CharBody := strncpyTo (digits ++ [0]) len

def countDown (cnt : Int32) : Nat → Body
  | 0 => pure ()
  | i + 1 => do
      store i (cnt - 1 - asInt i)
      countDown cnt i

def ecallPointerCount (count : UInt64) : Body := do
  let cnt := count.toUInt32.toInt32
  match checked Fault.signedOverflow (cnt.toInt - 1) with
  | .error cause => faultWith cause
  | .ok first => countDown cnt (first.toInt + 1).toNat

def ecallPointerIsptrReadonly (len : Nat) : CharBody := strncpyTo (digits ++ [0]) len

end Model

section Strings

theorem digits_length : digits.length = 10 := rfl

theorem digits_text : (0 : UInt8) ∉ digits := by decide

theorem strncpyTo_run (buffer : List UInt8) (n : Nat) (fits : n ≤ buffer.length) :
    strncpyTo (digits ++ [0]) n buffer = .ok () (padded digits n ++ buffer.drop n) := by
  rw [strncpyTo, bind_run, get_run]
  dsimp only
  rw [strncpy_text digits [] buffer digits_text n fits]
  rfl

theorem ecallPointerString_run (s : List UInt8) (text : (0 : UInt8) ∉ s) :
    ecallPointerString (s ++ [0]) = .ok () (padded digits s.length ++ [0]) := by
  have fits : s.length ≤ (s ++ [0]).length := by
    rw [List.length_append]
    omega
  rw [ecallPointerString, bind_run, get_run]
  dsimp only
  rw [strlen_text s [] text]
  exact (strncpyTo_run (s ++ [0]) s.length fits).trans (by rw [List.drop_left])

theorem ecallPointerStringConst_run (new : (n : Nat) → Option (Fin n → UInt8)) (s : List UInt8)
    (text : (0 : UInt8) ∉ s) :
    ecallPointerStringConst new (s ++ [0]) =
      if (new s.length).isSome then .ok () (s ++ [0])
      else .error (.fault .abort) (s ++ [0]) := by
  rw [ecallPointerStringConst, bind_run, get_run]
  dsimp only
  rw [strlen_text s [] text]
  dsimp only [defined]
  rw [bind_of_ok _ _ _ _ _ (pure_run _ _)]
  cases given : new s.length with
  | none => rfl
  | some temp =>
      have copies := strncpy_text s [] (List.ofFn temp) text s.length List.length_ofFn.ge
      change (defined (strncpy (List.ofFn temp) (s ++ [0]) s.length) >>= fun _ => pure ())
        (s ++ [0]) = .ok () (s ++ [0])
      rw [copies]
      rfl

theorem ecallPointerSize_run (buffer : List UInt8) :
    ecallPointerSize buffer.length buffer = .ok () (padded digits buffer.length) := by
  have ran := strncpyTo_run buffer buffer.length le_rfl
  rw [List.drop_length, List.append_nil] at ran
  exact ran

end Strings

section StringCalls

abbrev CharGate := Gate Fault SgxStatus.success (0 : UInt8)

theorem zero_mem_padded (len : Nat) : (0 : UInt8) ∈ padded digits len ↔ 10 < len := by
  rw [padded, List.mem_append, List.mem_replicate, digits_length]
  have digit : (0 : UInt8) ∉ digits.take len := fun member =>
    digits_text (List.mem_of_mem_take member)
  constructor
  · rintro (member | ⟨more, _⟩)
    · exact (digit member).elim
    · omega
  · intro more
    exact Or.inr ⟨by omega, rfl⟩

def abc : Memory UInt8 := fun address => [97, 98, 99].getD address 0

/-- The four ECALLs on characters, for whatever is in the buffer. A string becomes as
many of the ten digits as it has bytes and stays a string, one that is const is left
as it is; a buffer with its size becomes the digits with NULs after them, and is no
string unless it is longer than them. -/
theorem string_ecalls_exact (gate : CharGate) (memory : Memory UInt8) (start : Nat) :
    (∀ s : List UInt8, (0 : UInt8) ∉ s → window memory start (s.length + 1) = s ++ [0] →
      (gate.admits .copyInOut start (s.length + 1) = true →
        gate.call .copyInOut start (s.length + 1) ecallPointerString memory =
          (.success, place memory start (padded digits s.length ++ [0])) ∧
        cString (padded digits s.length ++ [0]) = some (digits.take s.length)) ∧
      ∀ new, gate.admits .copyIn start (s.length + 1) = true →
        ((gate.call .copyIn start (s.length + 1) (ecallPointerStringConst new) memory).1 = .success ↔
          (new s.length).isSome = true) ∧
        (gate.call .copyIn start (s.length + 1) (ecallPointerStringConst new) memory).2 = memory) ∧
    ∀ len,
      (gate.admits .copyInOut start len = true →
        gate.call .copyInOut start len (ecallPointerSize len) memory =
          (.success, place memory start (padded digits len)) ∧
        ((0 : UInt8) ∈ padded digits len ↔ 10 < len)) ∧
      (gate.admits .copyIn start len = true →
        gate.call .copyIn start len (ecallPointerIsptrReadonly len) memory = (.success, memory)) := by
  constructor
  · intro s text holds
    constructor
    · intro admitted
      refine ⟨?_, cString_padded digits [] digits_text s.length⟩
      apply gate.returns _ _ _ _ _ _ admitted
      change ecallPointerString (window memory start (s.length + 1)) = _
      rw [holds]
      exact ecallPointerString_run s text
    · intro new admitted
      refine ⟨?_, call_copyIn gate start _ _ memory⟩
      rw [call_success_iff, and_iff_right admitted]
      change (∃ after, ecallPointerStringConst new (window memory start (s.length + 1)) = _) ↔ _
      rw [holds, ecallPointerStringConst_run new s text]
      split
      · rename_i given
        exact iff_of_true ⟨_, rfl⟩ given
      · rename_i given
        exact iff_of_false (fun returned => nomatch returned) given
  · intro len
    have ran := ecallPointerSize_run (window memory start len)
    rw [window_length] at ran
    exact ⟨fun admitted => ⟨gate.returns _ _ _ _ _ _ admitted ran, zero_mem_padded len⟩,
      fun admitted => gate.returns _ _ _ _ _ _ admitted ran⟩

theorem string_ecalls_exact_abc :
    (copyingUpTo 12 0).call .copyInOut 0 4 ecallPointerString abc =
      (.success, place abc 0 (padded digits 3 ++ [0])) ∧
    cString (padded digits 3 ++ [0]) = some (digits.take 3) ∧
    ((copyingUpTo 12 0).call .copyIn 0 4 (ecallPointerStringConst fun _ => some fun _ => 0xcc) abc).1 =
      .success ∧
    ((copyingUpTo 12 0).call .copyIn 0 4 (ecallPointerStringConst fun _ => none) abc).1 ≠ .success ∧
    (copyingUpTo 12 0).call .copyInOut 0 12 (ecallPointerSize 12) abc =
      (.success, place abc 0 (padded digits 12)) ∧
    (copyingUpTo 12 0).call .copyIn 0 12 (ecallPointerIsptrReadonly 12) abc = (.success, abc) := by
  obtain ⟨strings, sized⟩ := string_ecalls_exact (copyingUpTo 12 0) abc 0
  obtain ⟨overwritten, const⟩ := strings [97, 98, 99] (by decide) rfl
  obtain ⟨filled, readOnly⟩ := sized 12
  refine ⟨(overwritten rfl).1, (overwritten rfl).2, (const _ rfl).1.mpr rfl, ?_, (filled rfl).1,
    readOnly rfl⟩
  exact fun succeeded => Bool.false_ne_true ((const _ rfl).1.mp succeeded)

end StringCalls

section Count

theorem store_inside (arr : List Int32) (i : Nat) (value : Int32) (inside : i < arr.length) :
    store i value arr = .ok () (arr.set i value) := by
  rw [store, bind_run, get_run]
  dsimp only
  rw [if_neg (by omega)]
  rfl

theorem countDown_run (cnt : Int32) (steps : Nat) (arr : List Int32) (inside : steps ≤ arr.length) :
    ∃ after, countDown cnt steps arr = .ok () after ∧ after.length = arr.length ∧
      ∀ i, after[i]? = if i < steps then some (cnt - 1 - asInt i) else arr[i]? := by
  induction steps generalizing arr with
  | zero => exact ⟨arr, rfl, rfl, fun i => by rw [if_neg (Nat.not_lt_zero i)]⟩
  | succ steps ih =>
      have shorter : steps ≤ (arr.set steps (cnt - 1 - asInt steps)).length := by
        rw [List.length_set]
        omega
      obtain ⟨after, ran, length, cells⟩ := ih _ shorter
      refine ⟨after, ?_, length.trans List.length_set, ?_⟩
      · rw [countDown, bind_of_ok _ _ _ _ _ (store_inside arr steps _ (by omega))]
        exact ran
      · intro i
        rw [cells]
        by_cases below : i < steps
        · rw [if_pos below, if_pos (by omega)]
        · rw [if_neg below]
          by_cases same : i = steps
          · subst same
            rw [if_pos (by omega), List.getElem?_set_self (by omega)]
          · rw [if_neg (by omega), List.getElem?_set_ne (Ne.symm same)]

theorem narrowed (count : UInt64) :
    count.toUInt32.toInt32.toInt =
      if count.toNat % 2 ^ 32 < 2 ^ 31 then ((count.toNat % 2 ^ 32 : Nat) : Int)
      else ((count.toNat % 2 ^ 32 : Nat) : Int) - 2 ^ 32 := by
  have bits : count.toUInt32.toInt32.toInt = count.toUInt32.toBitVec.toInt := rfl
  have value : count.toUInt32.toBitVec.toNat = count.toNat % 2 ^ 32 := UInt64.toNat_toUInt32 count
  rw [bits, BitVec.toInt_eq_toNat_cond, value]
  split <;> split <;> omega

theorem countDown_value (cnt : Int32) (low i : Nat) (below : i < low) (short : low < 2 ^ 31)
    (value : cnt.toInt = low) : cnt - 1 - asInt i = asInt (low - 1 - i) := by
  have same : cnt = Int32.ofNat low :=
    Int32.toInt_inj.mp (value.trans (Int32.toInt_ofNat_of_lt short).symm)
  have one : (1 : Int32) = Int32.ofNat 1 := rfl
  rw [same, one, asInt, asInt, ← Int32.ofNat_sub low 1 (by omega),
    ← Int32.ofNat_sub (low - 1) i (by omega)]

/-- How the array ends: the low half of the counts is a prefix to fill, the one count
in the middle overflows, and the others are negative. -/
theorem ecallPointerCount_run (count : UInt64) (arr : List Int32)
    (length : arr.length = count.toNat) :
    (count.toNat % 2 ^ 32 = 2 ^ 31 ∧
      ecallPointerCount count arr = .error (.fault .signedOverflow) arr) ∨
    (count.toNat % 2 ^ 32 ≠ 2 ^ 31 ∧
      ∃ after, ecallPointerCount count arr = .ok () after ∧ after.length = arr.length ∧
        ∀ i, after[i]? = if i < count.toNat % 2 ^ 32 ∧ count.toNat % 2 ^ 32 < 2 ^ 31 then
          some (asInt (count.toNat % 2 ^ 32 - 1 - i)) else arr[i]?) := by
  have narrow := narrowed count
  obtain ⟨low, isLow⟩ : ∃ low, low = count.toNat % 2 ^ 32 := ⟨_, rfl⟩
  rw [← isLow] at narrow ⊢
  obtain ⟨cnt, isCnt⟩ : ∃ cnt, cnt = count.toUInt32.toInt32 := ⟨_, rfl⟩
  rw [ecallPointerCount, ← isCnt]
  rw [← isCnt] at narrow
  -- `cnt - 1` leaves the range for the least `int` only.
  by_cases middle : low = 2 ^ 31
  · refine Or.inl ⟨middle, ?_⟩
    rw [if_neg (by omega)] at narrow
    have outside : ¬ InInt32 (cnt.toInt - 1) := by
      rw [InInt32]
      omega
    rw [checked, if_neg outside]
    rfl
  · refine Or.inr ⟨middle, ?_⟩
    obtain ⟨first, isFirst, value⟩ := checked_ok Fault.signedOverflow (cnt.toInt - 1) (by
      rw [InInt32]
      split at narrow <;> omega)
    rw [isFirst]
    dsimp only
    -- A count that narrows to a negative number makes no turn of the loop.
    by_cases short : low < 2 ^ 31
    · rw [if_pos short] at narrow
      have steps : (first.toInt + 1).toNat = low := by omega
      obtain ⟨after, ran, kept, cells⟩ := countDown_run cnt low arr (by omega)
      rw [steps]
      refine ⟨after, ran, kept, fun i => ?_⟩
      rw [cells]
      by_cases below : i < low
      · rw [if_pos below, if_pos ⟨below, short⟩, countDown_value cnt low i below short narrow]
      · rw [if_neg below, if_neg fun both => below both.1]
    · rw [if_neg short] at narrow
      have steps : (first.toInt + 1).toNat = 0 := by omega
      rw [steps]
      exact ⟨arr, rfl, rfl, fun i => by rw [if_neg fun both => short both.2]⟩

theorem countDown_keeps (steps : Nat) (cnt : Int32) : KeepsLength (countDown cnt steps) := by
  induction steps with
  | zero => exact fun _ => preserves_pure ()
  | succ steps ih => exact fun n => preserves_bind (store_keeps steps _ n) fun _ => ih n

theorem ecallPointerCount_keeps (count : UInt64) : KeepsLength (ecallPointerCount count) := by
  rw [ecallPointerCount]
  cases checked Fault.signedOverflow (count.toUInt32.toInt32.toInt - 1) with
  | error cause => exact fun _ => preserves_fault cause
  | ok first => exact countDown_keeps _ _

/-- The ECALL counts in `int`: it fills the whole array with a countdown for a count below
2^31, only the first `count % 2^32` elements or none of them from 2^32 on, and fails
exactly where the count narrows to the least `int`. -/
theorem pointer_count_exact (gate : ArrayGate) (count : UInt64) (memory : Memory Int32)
    (start : Nat) :
    ((gate.call .copyInOut start count.toNat (ecallPointerCount count) memory).1 = .success ↔
      gate.admits .copyInOut start count.toNat = true ∧ count.toNat % 2 ^ 32 ≠ 2 ^ 31) ∧
    (∀ i < count.toNat,
      (gate.call .copyInOut start count.toNat (ecallPointerCount count) memory).2 (start + i) =
        if gate.admits .copyInOut start count.toNat = true ∧
            i < count.toNat % 2 ^ 32 ∧ count.toNat % 2 ^ 32 < 2 ^ 31 then
          asInt (count.toNat % 2 ^ 32 - 1 - i)
        else memory (start + i)) ∧
    ∀ address, address < start ∨ start + count.toNat ≤ address →
      (gate.call .copyInOut start count.toNat (ecallPointerCount count) memory).2 address =
        memory address := by
  refine ⟨?_, ?_, call_frame gate _ _ _ _ memory (ecallPointerCount_keeps count)⟩
  · rw [call_success_iff]
    apply and_congr_right
    intro _
    rcases ecallPointerCount_run count (window memory start count.toNat) (window_length _ _ _) with
      ⟨middle, ran⟩ | ⟨other, after, ran, _⟩
    · refine iff_of_false ?_ (not_not.mpr middle)
      rintro ⟨after, returned⟩
      cases ran.symm.trans returned
    · exact iff_of_true ⟨after, ran⟩ other
  · intro i inside
    cases admitted : gate.admits .copyInOut start count.toNat with
    | false =>
        rw [(gate.turnsDown _ _ _ _ _ admitted).2, if_neg fun all => nomatch all.1]
    | true =>
        simp only [true_and]
        rcases ecallPointerCount_run count (window memory start count.toNat)
            (window_length _ _ _) with ⟨middle, ran⟩ | ⟨_, after, ran, _, cells⟩
        · rw [(gate.faults .copyInOut start count.toNat _ memory _ _ admitted ran).2,
            if_neg (by omega)]
          rfl
        · have cell := cells i
          rw [gate.returns .copyInOut start count.toNat _ memory after admitted ran]
          change place memory start after (start + i) = _
          rw [place_inside, List.getD_eq_getElem?_getD, cell]
          split
          · rfl
          · rw [window_getElem? _ _ _ i inside]
            rfl

theorem pointer_count_exact_narrowed :
    ((copyingUpTo 3 0).call .copyInOut 0 (3 : UInt64).toNat (ecallPointerCount 3) fun _ => 7).2 0 = 2 ∧
    ((copyingUpTo 8589934592 0).call .copyInOut 0 (4294967299 : UInt64).toNat
      (ecallPointerCount 4294967299) fun _ => 7).2 0 = 2 ∧
    ((copyingUpTo 8589934592 0).call .copyInOut 0 (4294967299 : UInt64).toNat
      (ecallPointerCount 4294967299) fun _ => 7).2 3 = 7 ∧
    ((copyingUpTo 8589934592 0).call .copyInOut 0 (2147483648 : UInt64).toNat
      (ecallPointerCount 2147483648) fun _ => 7).1 ≠ .success := by
  obtain ⟨_, small, _⟩ := pointer_count_exact (copyingUpTo 3 0) 3 (fun _ => 7) 0
  obtain ⟨_, large, _⟩ := pointer_count_exact (copyingUpTo 8589934592 0) 4294967299 (fun _ => 7) 0
  obtain ⟨fails, _, _⟩ := pointer_count_exact (copyingUpTo 8589934592 0) 2147483648 (fun _ => 7) 0
  have first := small 0 (by decide)
  have firstOfMany := large 0 (by decide)
  have fourth := large 3 (by decide)
  rw [Nat.zero_add, if_pos (by decide)] at first firstOfMany
  rw [Nat.zero_add, if_neg (by decide)] at fourth
  exact ⟨first, firstOfMany, fourth, fun succeeded => (fails.mp succeeded).2 (by decide)⟩

end Count

end SgxExperiments.PointerAttributes
