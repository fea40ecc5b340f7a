import SgxExperiments.CallNesting
import SgxExperiments.KeyDerivation

/-!
The interface of the basic enclave as its EDL files declare it, with the OCALLs that
the code of each ECALL makes, and the functions that try it out. A thread that is in
an ECALL may enter another one only where an OCALL allows that.
-/

namespace SgxExperiments.FunctionAttributes

open CallNesting

inductive Ecall where
  | ecallTypeChar | ecallTypeInt | ecallTypeFloat | ecallTypeDouble | ecallTypeSizeT
  | ecallTypeWcharT | ecallTypeStruct | ecallTypeEnumUnion
  | ecallPointerUserCheck | ecallPointerIn | ecallPointerOut | ecallPointerInOut
  | ecallPointerString | ecallPointerStringConst | ecallPointerSize | ecallPointerCount
  | ecallPointerIsptrReadonly | ocallPointerAttr
  | ecallArrayUserCheck | ecallArrayIn | ecallArrayOut | ecallArrayInOut | ecallArrayIsary
  | ecallFunctionPublic | ecallFunctionPrivate
  | ecallMallocFree | ecallSgxCpuid
  | ecallException | ecallMap
  | ecallIncreaseCounter | ecallProducer | ecallConsumer
  | add | subtract | multiply | divide
  deriving DecidableEq

inductive SdkOcall where
  | sgxOcCpuidex
  | sgxThreadWaitUntrustedEventOcall
  | sgxThreadSetUntrustedEventOcall
  | sgxThreadSetwaitUntrustedEventsOcall
  | sgxThreadSetMultipleUntrustedEventsOcall
  deriving DecidableEq

inductive Ocall where
  | ocallPointerUserCheck | ocallPointerIn | ocallPointerOut | ocallPointerInOut
  | ocallFunctionAllow
  | ocallPrintString
  | sdk (which : SdkOcall)
  deriving DecidableEq

def isPublic : Ecall → Bool
  | .ecallFunctionPrivate => false
  | _ => true

def allows : Ocall → List Ecall
  | .ocallFunctionAllow => [.ecallFunctionPrivate]
  | _ => []

def makes : Ecall → List Ocall
  | .ocallPointerAttr =>
      [.ocallPointerUserCheck, .ocallPointerIn, .ocallPointerOut, .ocallPointerInOut]
  | .ecallPointerUserCheck => [.ocallPrintString]
  | .ecallFunctionPublic => [.ocallFunctionAllow]
  | _ => []

/-- The OCALLs that the SDK's functions make on their own; the private ECALL calls none
of these functions. -/
structure SdkCalls where
  makes : Ecall → SdkOcall → Prop
  notPrivate : ∀ out, ¬ makes .ecallFunctionPrivate out

def ownCalls : SdkCalls where
  makes
    | .ecallSgxCpuid, own => own = .sgxOcCpuidex
    | .ecallIncreaseCounter, own =>
        own = .sgxThreadWaitUntrustedEventOcall ∨ own = .sgxThreadSetUntrustedEventOcall
    | .ecallProducer, own | .ecallConsumer, own =>
        own = .sgxThreadWaitUntrustedEventOcall ∨ own = .sgxThreadSetUntrustedEventOcall ∨
          own = .sgxThreadSetwaitUntrustedEventsOcall
    | _, _ => False
  notPrivate _ made := made

def interface (sdk : SdkCalls) : Interface Ecall Ocall where
  isPublic which := isPublic which = true
  makes which out := out ∈ makes which ∨ ∃ own, out = .sdk own ∧ sdk.makes which own
  allows out which := which ∈ allows out

section Stacks

variable {sdk : SdkCalls}

inductive Stack (sdk : SdkCalls) : CallStack Ecall Ocall → Prop where
  | outside : Stack sdk []
  | inside (which : Ecall) (isPublic : isPublic which = true) : Stack sdk [.entry which]
  | calledOut (which : Ecall) (out : Ocall) (isPublic : isPublic which = true)
      (made : (interface sdk).makes which out) : Stack sdk [.exit out, .entry which]
  | insideAgain : Stack sdk
      [.entry .ecallFunctionPrivate, .exit .ocallFunctionAllow, .entry .ecallFunctionPublic]

theorem allows_eq {out : Ocall} {which : Ecall} (allowed : which ∈ allows out) :
    out = .ocallFunctionAllow ∧ which = .ecallFunctionPrivate := by
  cases out with
  | ocallFunctionAllow => exact ⟨rfl, List.mem_singleton.mp allowed⟩
  | _ => cases allowed

theorem makes_allow {which : Ecall} (made : (interface sdk).makes which .ocallFunctionAllow) :
    which = .ecallFunctionPublic := by
  rcases made with own | ⟨_, same, _⟩
  · revert own
    cases which <;> decide
  · cases same

theorem private_makes (out : Ocall) : ¬ (interface sdk).makes .ecallFunctionPrivate out := by
  rintro (own | ⟨_, _, made⟩)
  · cases own
  · exact sdk.notPrivate _ made

theorem nested_stack {stack : CallStack Ecall Ocall} (nested : Nested (interface sdk) stack) :
    Stack sdk stack := by
  induction stack with
  | nil => exact .outside
  | cons call below ih =>
      cases call with
      | entry which =>
          cases ih nested.2 with
          | outside => exact .inside which nested.1
          | inside other => exact nested.1.elim
          -- Only one OCALL lets anything in, and only one ECALL makes that OCALL.
          | calledOut other out isPublic made =>
              obtain ⟨rfl, rfl⟩ := allows_eq nested.1
              obtain rfl := makes_allow made
              exact .insideAgain
          | insideAgain => exact nested.1.elim
      | exit out =>
          cases ih nested.2 with
          | outside => exact nested.1.elim
          | inside which isPublic => exact .calledOut which out isPublic nested.1
          | calledOut => exact nested.1.elim
          -- The private ECALL calls nothing out, so there is no deeper stack.
          | insideAgain => exact (private_makes out nested.1).elim

theorem stack_nested {stack : CallStack Ecall Ocall} (isStack : Stack sdk stack) :
    Nested (interface sdk) stack := by
  cases isStack with
  | outside => trivial
  | inside which isPublic => exact ⟨isPublic, trivial⟩
  | calledOut which out isPublic made => exact ⟨made, isPublic, trivial⟩
  | insideAgain =>
      exact ⟨List.mem_singleton_self _, Or.inl (List.mem_singleton_self _), rfl, trivial⟩

/-- Whatever the application does in and out of its OCALLs: it is never more than three
calls deep, in no ECALL twice, and in the private one only through `ocall_function_allow`;
and a runtime that admits all that is permitted gets it into each of these stacks. -/
theorem call_stacks_exact (sdk : SdkCalls) :
    (∀ admits : CallStack Ecall Ocall → Ecall → Prop,
      (∀ stack which, admits stack which → Permits (interface sdk) stack which) →
      ∀ stack, Reached (interface sdk) admits stack →
        Stack sdk stack ∧ stack.length ≤ 3 ∧ stack.Nodup) ∧
    ∀ stack, Stack sdk stack → Reached (interface sdk) (Permits (interface sdk)) stack := by
  constructor
  · intro admits permitted stack reached
    have isStack := nested_stack (reached_nested permitted reached)
    refine ⟨isStack, ?_⟩
    cases isStack <;> simp
  · intro stack isStack
    exact nested_reached (stack_nested isStack)

theorem call_stacks_exact_ownCalls :
    Reached (interface ownCalls) (Permits (interface ownCalls))
      [.exit (.sdk .sgxOcCpuidex), .entry .ecallSgxCpuid] ∧
    Reached (interface ownCalls) (Permits (interface ownCalls))
      [.entry .ecallFunctionPrivate, .exit .ocallFunctionAllow, .entry .ecallFunctionPublic] ∧
    ∀ which, ¬ Reached (interface ownCalls) (Permits (interface ownCalls))
      [.entry which, .exit (.sdk .sgxOcCpuidex), .entry .ecallSgxCpuid] := by
  obtain ⟨held, within⟩ := call_stacks_exact ownCalls
  refine ⟨within _ (.calledOut _ _ rfl (Or.inr ⟨_, rfl, rfl⟩)), within _ .insideAgain, ?_⟩
  intro which reached
  cases (held _ (fun _ _ permitted => permitted) _ reached).1

end Stacks

section Functions

def errorEnclaveCrashed : SgxStatus := ⟨0x1006⟩

def errorEcallNotAllowed : SgxStatus := ⟨0x1007⟩

/-- `abort()`: inside, the call fails; outside, the process is over. -/
inductive Abort where
  | enclave
  | process
  deriving DecidableEq

/-- The SDK at a call. It turns down what is not permitted with a status of its own, and
may turn down anything for another reason. -/
structure Runtime (sdk : SdkCalls) where
  entering : CallStack Ecall Ocall → Ecall → SgxStatus
  callingOut : CallStack Ecall Ocall → Ocall → SgxStatus
  refused : ∀ stack which, ¬ Permits (interface sdk) stack which →
    entering stack which = errorEcallNotAllowed

instance (sdk : SdkCalls) (stack : CallStack Ecall Ocall) (which : Ecall) :
    Decidable (Permits (interface sdk) stack which) :=
  match stack with
  | [] => inferInstanceAs (Decidable (isPublic which = true))
  | .exit out :: _ => inferInstanceAs (Decidable (which ∈ allows out))
  | .entry _ :: _ => inferInstanceAs (Decidable False)

def permitting (sdk : SdkCalls) : Runtime sdk where
  entering stack which :=
    if Permits (interface sdk) stack which then .success else errorEcallNotAllowed
  callingOut _ _ := .success
  refused _ _ barred := if_neg barred

variable {sdk : SdkCalls} (runtime : Runtime sdk)

def ecall {α : Type} (which : Ecall) (body : CallStack Ecall Ocall → Except Abort α)
    (stack : CallStack Ecall Ocall) : Except Abort (SgxStatus × Option α) :=
  if runtime.entering stack which ≠ .success then pure (runtime.entering stack which, none)
  else match body (.entry which :: stack) with
    | .ok value => pure (.success, some value)
    | .error .enclave => pure (errorEnclaveCrashed, none)
    | .error .process => throw .process

def ocall (out : Ocall) (body : CallStack Ecall Ocall → Except Abort Unit)
    (stack : CallStack Ecall Ocall) : Except Abort SgxStatus := do
  if runtime.callingOut stack out ≠ .success then pure (runtime.callingOut stack out)
  else
    body (.exit out :: stack)
    pure .success

def ecallFunctionPrivate (_ : CallStack Ecall Ocall) : Except Abort Int := pure 1

def ocallFunctionAllow (stack : CallStack Ecall Ocall) : Except Abort Unit := do
  let (ret, runned) ← ecall runtime .ecallFunctionPrivate ecallFunctionPrivate stack
  if ret ≠ .success ∨ runned.getD 0 ≠ 1 then throw .process

def ecallFunctionPublic (stack : CallStack Ecall Ocall) : Except Abort Unit := do
  let ret ← ocall runtime .ocallFunctionAllow (ocallFunctionAllow runtime) stack
  if ret ≠ .success then throw .enclave

def edger8rFunctionAttributes : Except Abort Unit := do
  let (ret, _) ← ecall runtime .ecallFunctionPublic (ecallFunctionPublic runtime) []
  if ret ≠ .success then throw .process
  let (ret, runned) ← ecall runtime .ecallFunctionPrivate ecallFunctionPrivate []
  if ret ≠ errorEcallNotAllowed ∨ runned.getD 0 ≠ 0 then throw .process

theorem ecall_private (stack : CallStack Ecall Ocall) :
    ecall runtime .ecallFunctionPrivate ecallFunctionPrivate stack =
      .ok (runtime.entering stack .ecallFunctionPrivate,
        if runtime.entering stack .ecallFunctionPrivate = .success then some 1 else none) := by
  rw [ecall]
  by_cases entered : runtime.entering stack .ecallFunctionPrivate = .success
  · rw [if_neg fun differs => differs entered, if_pos entered, entered]
    rfl
  · rw [if_pos entered, if_neg entered]
    rfl

theorem ocallFunctionAllow_eq (stack : CallStack Ecall Ocall) :
    ocallFunctionAllow runtime stack =
      if runtime.entering stack .ecallFunctionPrivate = .success then .ok ()
      else .error .process := by
  rw [ocallFunctionAllow, ecall_private]
  by_cases entered : runtime.entering stack .ecallFunctionPrivate = .success
  · rw [if_pos entered, if_pos entered, entered]
    rfl
  · rw [if_neg entered, if_neg entered]
    exact if_pos (Or.inl entered)

theorem ecallFunctionPublic_eq (stack : CallStack Ecall Ocall) :
    ecallFunctionPublic runtime stack =
      if runtime.callingOut stack .ocallFunctionAllow = .success then
        if runtime.entering (.exit .ocallFunctionAllow :: stack) .ecallFunctionPrivate = .success then
          .ok ()
        else .error .process
      else .error .enclave := by
  rw [ecallFunctionPublic, ocall, ocallFunctionAllow_eq]
  by_cases out : runtime.callingOut stack .ocallFunctionAllow = .success
  · rw [if_neg fun differs => differs out, if_pos out]
    split <;> rfl
  · rw [if_pos out, if_neg out]
    exact if_pos out

/-- The private ECALL is refused to the application itself by every runtime, so it goes
through exactly when the three calls on the way to that ECALL are let in. -/
theorem function_attributes_ok_iff :
    edger8rFunctionAttributes runtime = .ok () ↔
      runtime.entering [] .ecallFunctionPublic = .success ∧
      runtime.callingOut [.entry .ecallFunctionPublic] .ocallFunctionAllow = .success ∧
      runtime.entering [.exit .ocallFunctionAllow, .entry .ecallFunctionPublic]
        .ecallFunctionPrivate = .success := by
  have refused : runtime.entering [] .ecallFunctionPrivate = errorEcallNotAllowed :=
    runtime.refused _ _ Bool.false_ne_true
  have failed : errorEcallNotAllowed ≠ .success := by decide
  rw [edger8rFunctionAttributes, ecall_private, refused, if_neg failed, ecall,
    ecallFunctionPublic_eq]
  by_cases entered : runtime.entering [] .ecallFunctionPublic = .success
  · rw [if_neg fun differs => differs entered, and_iff_right entered]
    by_cases out : runtime.callingOut [.entry .ecallFunctionPublic] .ocallFunctionAllow = .success
    · rw [if_pos out, and_iff_right out]
      by_cases again : runtime.entering [.exit .ocallFunctionAllow, .entry .ecallFunctionPublic]
          .ecallFunctionPrivate = .success
      · rw [if_pos again]
        exact iff_of_true rfl again
      · rw [if_neg again]
        exact iff_of_false (fun went => nomatch went) again
    · rw [if_neg out]
      exact iff_of_false (fun went => nomatch went) fun all => out all.1
  · rw [if_pos entered]
    refine iff_of_false ?_ fun all => entered all.1
    change ¬ (if runtime.entering [] .ecallFunctionPublic ≠ .success then
      (Except.error .process : Except Abort Unit) else _) = _
    rw [if_pos entered]
    exact fun went => nomatch went

example : edger8rFunctionAttributes (permitting ownCalls) = .ok () := rfl

end Functions

end SgxExperiments.FunctionAttributes
