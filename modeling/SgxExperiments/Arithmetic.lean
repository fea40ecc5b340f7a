import Mathlib.Data.Int.Basic

/-!
The arithmetic ECALLs of the basic enclave. The pointers are copies made by the
generated stub, NULL where the caller has passed NULL. 32-bit signed arithmetic
comes first: leaving the range is a fault, as C has it for `int`.
-/

namespace SgxExperiments.CheckedInt

def InInt32 (value : Int) : Prop := -2147483648 ≤ value ∧ value ≤ 2147483647

instance : DecidablePred InInt32 := fun value =>
  inferInstanceAs (Decidable (-2147483648 ≤ value ∧ value ≤ 2147483647))

def checked {Fault : Type} (overflow : Fault) (value : Int) : Except Fault Int32 :=
  if InInt32 value then .ok (Int32.ofInt value) else .error overflow

theorem toInt_inInt32 (value : Int32) : InInt32 value.toInt := by
  have low := value.le_toInt
  have high := value.toInt_lt
  exact ⟨by omega, by omega⟩

theorem toInt_ofInt (value : Int) (inside : InInt32 value) : (Int32.ofInt value).toInt = value := by
  obtain ⟨low, high⟩ := inside
  exact Int32.toInt_ofInt_of_le (by omega) (by omega)

theorem checked_ok {Fault : Type} (overflow : Fault) (value : Int) (inside : InInt32 value) :
    ∃ result, checked overflow value = .ok result ∧ result.toInt = value :=
  ⟨Int32.ofInt value, if_pos inside, toInt_ofInt value inside⟩

theorem tdiv_inInt32 (a b : Int) (inside : InInt32 a) (zero : b ≠ 0)
    (exceptional : ¬ (a = -2147483648 ∧ b = -1)) : InInt32 (a.tdiv b) := by
  obtain ⟨low, high⟩ := inside
  by_cases one : b = 1
  · rw [one, Int.tdiv_one]
    exact ⟨low, high⟩
  by_cases minusOne : b = -1
  · have negated : a.tdiv b = -a := by rw [minusOne, Int.tdiv_neg, Int.tdiv_one]
    rw [negated, InInt32]
    omega
  · have quotient : (a.tdiv b).natAbs = a.natAbs / b.natAbs := Int.natAbs_tdiv a b
    have divisor : 2 ≤ b.natAbs := by omega
    have half : a.natAbs / b.natAbs ≤ a.natAbs / 2 := Nat.div_le_div_left divisor (by decide)
    rw [InInt32]
    omega

end SgxExperiments.CheckedInt

namespace SgxExperiments.Arithmetic

open CheckedInt

inductive Fault where
  | nullPointer
  | signedOverflow
  | divisionByZero
  | unrepresentableQuotient
  deriving DecidableEq, Repr

def deref : Option Int32 → Except Fault Int32
  | none => .error .nullPointer
  | some value => .ok value

def quotient (x y : Int32) : Except Fault Int32 :=
  if y = 0 then .error .divisionByZero
  else checked .unrepresentableQuotient (x.toInt.tdiv y.toInt)

def add (a b : Option Int32) : Except Fault Int32 := do
  checked .signedOverflow ((← deref a).toInt + (← deref b).toInt)

def subtract (a b : Option Int32) : Except Fault Int32 := do
  checked .signedOverflow ((← deref a).toInt - (← deref b).toInt)

def multiply (a b : Option Int32) : Except Fault Int32 := do
  checked .signedOverflow ((← deref a).toInt * (← deref b).toInt)

/-- The guard is about the pointer `b`, not about what it points to. -/
def divide (a b : Option Int32) : Except Fault Int32 := do
  if b = none then return -1
  quotient (← deref a) (← deref b)

def NoBadDivision (result : Except Fault Int32) : Prop :=
  result ≠ .error .divisionByZero ∧ result ≠ .error .unrepresentableQuotient

def Exact (result : Except Fault Int32) (value : Int) : Prop :=
  InInt32 value → ∃ returned, result = .ok returned ∧ returned.toInt = value

/-- What a caller may expect of the four ECALLs on one pair of values. -/
structure Sound (x y : Int32) : Prop where
  noBadDivision : NoBadDivision (add (some x) (some y)) ∧
    NoBadDivision (subtract (some x) (some y)) ∧ NoBadDivision (multiply (some x) (some y)) ∧
    NoBadDivision (divide (some x) (some y))
  adds : Exact (add (some x) (some y)) (x.toInt + y.toInt)
  subtracts : Exact (subtract (some x) (some y)) (x.toInt - y.toInt)
  multiplies : Exact (multiply (some x) (some y)) (x.toInt * y.toInt)
  divides : ∃ returned, divide (some x) (some y) = .ok returned ∧
    returned.toInt = if y = 0 then -1 else x.toInt.tdiv y.toInt

theorem divide_eq (x y : Int32) : divide (some x) (some y) = quotient x y := rfl

theorem noBadDivision_checked (value : Int) : NoBadDivision (checked .signedOverflow value) := by
  rw [checked]
  split <;> exact ⟨nofun, nofun⟩

theorem exact_checked (value : Int) : Exact (checked .signedOverflow value) value :=
  fun inside => checked_ok Fault.signedOverflow value inside

theorem minValue_iff (x : Int32) : x = Int32.minValue ↔ x.toInt = -2147483648 :=
  Int32.toInt_inj.symm

theorem minusOne_iff (y : Int32) : y = -1 ↔ y.toInt = -1 := Int32.toInt_inj.symm

theorem zero_iff (y : Int32) : y = 0 ↔ y.toInt = 0 := Int32.toInt_inj.symm

theorem quotient_ok (x y : Int32) (zero : y ≠ 0)
    (exceptional : ¬ (x = Int32.minValue ∧ y = -1)) :
    ∃ returned, quotient x y = .ok returned ∧ returned.toInt = x.toInt.tdiv y.toInt := by
  rw [minValue_iff, minusOne_iff] at exceptional
  rw [quotient, if_neg zero]
  exact checked_ok _ _ (tdiv_inInt32 _ _ (toInt_inInt32 x) (zero ∘ (zero_iff y).mpr) exceptional)

/-- The ECALLs are sound on exactly the pairs that `divide` can divide. -/
theorem arithmetic_sound_iff (x y : Int32) :
    Sound x y ↔ y ≠ 0 ∧ ¬ (x = Int32.minValue ∧ y = -1) := by
  constructor
  · intro sound
    obtain ⟨returned, divided, _⟩ := sound.divides
    constructor
    · rintro rfl
      rw [divide_eq, quotient, if_pos rfl] at divided
      cases divided
    · rintro ⟨rfl, rfl⟩
      have outside : quotient Int32.minValue (-1) = .error .unrepresentableQuotient := by decide
      rw [divide_eq, outside] at divided
      cases divided
  · rintro ⟨zero, exceptional⟩
    obtain ⟨returned, divided, exact⟩ := quotient_ok x y zero exceptional
    refine ⟨⟨?_, ?_, ?_, ?_⟩, ?_, ?_, ?_, ?_⟩
    · exact noBadDivision_checked _
    · exact noBadDivision_checked _
    · exact noBadDivision_checked _
    · rw [divide_eq, divided]
      exact ⟨nofun, nofun⟩
    · exact exact_checked _
    · exact exact_checked _
    · exact exact_checked _
    · rw [if_neg zero]
      exact ⟨returned, divided, exact⟩

theorem divide_by_zero :
    divide (some 5) (some 0) = .error .divisionByZero ∧ ¬ ∀ x y, Sound x y := by
  refine ⟨by decide, ?_⟩
  intro sound
  exact (sound 5 0).noBadDivision.2.2.2.1 (by decide)

end SgxExperiments.Arithmetic
