import SgxExperiments.PointerAttributes
import SgxExperiments.UserCheck

/-!
The OCALLs with pointer attributes, and the application that tries all the pointers.
The gates and the SDK may turn any call down; the application aborts then.
-/

namespace SgxExperiments.PointerAttributes

open BreakableBlock CopiedBuffer CString ArrayAttributes

section Ocalls

structure OcallBody where
  run : Breakable AppFault (List Int32) Unit
  keeps : KeepsLength run

structure OcallBodies where
  ocallPointerIn : OcallBody
  ocallPointerOut : OcallBody
  ocallPointerInOut : OcallBody

/-- The generated gate of an OCALL; a buffer outside may hold anything to begin with. -/
abbrev OcallGate (left : Int32) := Gate AppFault SgxStatus.success left

variable {left : Int32}

def askApp (gate : OcallGate left) (passing : Passing) (body : OcallBody) (val : Nat)
    (wanted : Int32) : Breakable Fault (Memory Int32) Unit := do
  modify fun memory => place memory val [0]
  let ended := gate.call passing val 1 body.run (← get)
  modify fun _ => ended.2
  if ended.1 ≠ .success then faultWith .abort
  else if ended.2 val ≠ wanted then faultWith .assertion
  else pure ()

/-- On the memory of the enclave, with its local `val` at this address. The application
is told the address with `ocall_pointer_user_check`, and cannot get there. -/
def ocallPointerAttr (gate : OcallGate left) (userCheck : SgxStatus) (app : OcallBodies)
    (val : Nat) : Breakable Fault (Memory Int32) Unit := do
  modify fun memory => place memory val [0]
  if userCheck ≠ .success then faultWith .abort
  else
    askApp gate .copyIn app.ocallPointerIn val 0
    askApp gate .copyOut app.ocallPointerOut val 1234
    askApp gate .copyInOut app.ocallPointerInOut val 1234

def Confined (val : Nat) (before after : Memory Int32) : Prop :=
  ∀ address, address ≠ val → after address = before address

theorem Confined.trans {val : Nat} {before middle after : Memory Int32}
    (first : Confined val before middle) (second : Confined val middle after) :
    Confined val before after :=
  fun address other => (second address other).trans (first address other)

theorem placed_confined (memory : Memory Int32) (val : Nat) (x : Int32) :
    Confined val memory (place memory val [x]) := by
  intro address other
  apply place_outside
  rw [List.length_singleton]
  omega

def Answers (gate : OcallGate left) (passing : Passing) (body : OcallBody) (val : Nat) (x : Int32) :
    Prop :=
  gate.admits passing val 1 = true ∧ ∃ after, body.run (passing.found left [0] 1) = .ok () after ∧
    passing.seen [0] after = [x]

theorem askApp_run (gate : OcallGate left) (passing : Passing) (body : OcallBody) (val : Nat)
    (wanted : Int32) (memory : Memory Int32) :
    ∃ after, Confined val memory after ∧
      ((Answers gate passing body val wanted ∧
        askApp gate passing body val wanted memory = .ok () after) ∨
      (∃ x, x ≠ wanted ∧ Answers gate passing body val x ∧
        askApp gate passing body val wanted memory = .error (.fault .assertion) after) ∨
      ((∀ x, ¬ Answers gate passing body val x) ∧
        askApp gate passing body val wanted memory = .error (.fault .abort) after)) := by
  obtain ⟨before, isBefore⟩ : ∃ before, before = place memory val [0] := ⟨_, rfl⟩
  have given : passing.given left before val 1 = passing.found left [0] 1 := by
    rw [isBefore]
    exact passing.given_place left memory val 1 [0] le_rfl
  have confined : Confined val memory (gate.call passing val 1 body.run before).2 := by
    have start := placed_confined memory val 0
    rw [← isBefore] at start
    exact start.trans fun address other =>
      call_frame gate passing val 1 body.run before body.keeps address (by omega)
  have steps : askApp gate passing body val wanted memory =
      (if (gate.call passing val 1 body.run before).1 ≠ .success then faultWith .abort
        else if (gate.call passing val 1 body.run before).2 val ≠ wanted then faultWith .assertion
        else pure () : Breakable Fault (Memory Int32) Unit)
        (gate.call passing val 1 body.run before).2 := by
    rw [isBefore]
    rfl
  refine ⟨_, confined, ?_⟩
  rw [steps]
  rcases call_cases gate passing val 1 body.run before with
    ⟨down, failed, _⟩ | ⟨admitted, after, ran, called⟩ | ⟨_, exit, after, ran, failed, _⟩
  · rw [if_pos failed]
    refine Or.inr (Or.inr ⟨fun x answers => ?_, rfl⟩)
    rw [answers.1] at down
    cases down
  -- The one `int` that comes back is what the function then compares.
  · rw [given] at ran
    have length : after.length = 1 := by
      have same := body.keeps _ (passing.found left [0] 1) rfl
      rw [ran, ← given, passing.given_length] at same
      exact same
    have shown : passing.seen [0] after = [(gate.call passing val 1 body.run before).2 val] := by
      have back := passing.window_back memory val [0] after length.le
      rw [← isBefore] at back
      rw [called, ← back]
      rfl
    have answers : Answers gate passing body val ((gate.call passing val 1 body.run before).2 val) :=
      ⟨admitted, after, ran, shown⟩
    rw [called] at answers ⊢
    dsimp only at answers ⊢
    rw [if_neg (not_not.mpr rfl)]
    by_cases right : passing.back before val after val = wanted
    · rw [if_neg (not_not.mpr right)]
      rw [right] at answers
      exact Or.inl ⟨answers, rfl⟩
    · rw [if_pos right]
      exact Or.inr (Or.inl ⟨_, right, answers, rfl⟩)
  · rw [if_pos failed]
    refine Or.inr (Or.inr ⟨fun x answers => ?_, rfl⟩)
    obtain ⟨_, other, returned, _⟩ := answers
    rw [given, returned] at ran
    cases ran

theorem answers_copyIn (gate : OcallGate left) (body : OcallBody) (val : Nat) (x : Int32)
    (answers : Answers gate .copyIn body val x) : x = 0 := by
  obtain ⟨_, after, _, same⟩ := answers
  cases same
  rfl

theorem answers_unique (gate : OcallGate left) (passing : Passing) (body : OcallBody) (val : Nat)
    (x y : Int32) (first : Answers gate passing body val x) (second : Answers gate passing body val y) :
    x = y := by
  obtain ⟨_, after, ran, same⟩ := first
  obtain ⟨_, other, ranAgain, sameAgain⟩ := second
  cases ran.symm.trans ranAgain
  cases same.symm.trans sameAgain
  rfl

theorem ocallPointerAttr_cases (gate : OcallGate left) (userCheck : SgxStatus)
    (app : OcallBodies) (val : Nat) (memory : Memory Int32) :
    ∃ after, Confined val memory after ∧
      ((userCheck = .success ∧ (∃ x, Answers gate .copyIn app.ocallPointerIn val x) ∧
          Answers gate .copyOut app.ocallPointerOut val 1234 ∧
          Answers gate .copyInOut app.ocallPointerInOut val 1234 ∧
          ocallPointerAttr gate userCheck app val memory = .ok () after) ∨
        ((∃ x, x ≠ 1234 ∧ (Answers gate .copyOut app.ocallPointerOut val x ∨
            Answers gate .copyInOut app.ocallPointerInOut val x)) ∧
          ocallPointerAttr gate userCheck app val memory = .error (.fault .assertion) after) ∨
        ((userCheck ≠ .success ∨ (∀ x, ¬ Answers gate .copyIn app.ocallPointerIn val x) ∨
            (∀ x, ¬ Answers gate .copyOut app.ocallPointerOut val x) ∨
            ∀ x, ¬ Answers gate .copyInOut app.ocallPointerInOut val x) ∧
          ocallPointerAttr gate userCheck app val memory = .error (.fault .abort) after)) := by
  have start := placed_confined memory val 0
  by_cases checked : userCheck = .success
  · have begins : ocallPointerAttr gate userCheck app val memory =
        (askApp gate .copyIn app.ocallPointerIn val 0 >>= fun _ =>
          askApp gate .copyOut app.ocallPointerOut val 1234 >>= fun _ =>
            askApp gate .copyInOut app.ocallPointerInOut val 1234) (place memory val [0]) := by
      rw [checked]
      rfl
    rw [begins]
    obtain ⟨first, firstKept, ⟨answers, ran⟩ | ⟨x, wrong, answers, _⟩ | ⟨none, ran⟩⟩ :=
      askApp_run gate .copyIn app.ocallPointerIn val 0 (place memory val [0])
    · rw [bind_of_ok _ _ _ _ _ ran]
      obtain ⟨second, secondKept, ⟨outAnswers, outRan⟩ | ⟨x, wrong, outAnswers, outRan⟩ | ⟨none, outRan⟩⟩ :=
        askApp_run gate .copyOut app.ocallPointerOut val 1234 first
      · rw [bind_of_ok _ _ _ _ _ outRan]
        obtain ⟨third, thirdKept, ⟨lastAnswers, lastRan⟩ | ⟨x, wrong, lastAnswers, lastRan⟩ | ⟨none, lastRan⟩⟩ :=
          askApp_run gate .copyInOut app.ocallPointerInOut val 1234 second
        · exact ⟨third, (start.trans firstKept).trans (secondKept.trans thirdKept),
            Or.inl ⟨checked, ⟨0, answers⟩, outAnswers, lastAnswers, lastRan⟩⟩
        · exact ⟨third, (start.trans firstKept).trans (secondKept.trans thirdKept),
            Or.inr (Or.inl ⟨⟨x, wrong, .inr lastAnswers⟩, lastRan⟩)⟩
        · exact ⟨third, (start.trans firstKept).trans (secondKept.trans thirdKept),
            Or.inr (Or.inr ⟨.inr (.inr (.inr none)), lastRan⟩)⟩
      · exact ⟨second, (start.trans firstKept).trans secondKept,
          Or.inr (Or.inl ⟨⟨x, wrong, .inl outAnswers⟩, bind_of_error _ _ _ _ _ outRan⟩)⟩
      · exact ⟨second, (start.trans firstKept).trans secondKept,
          Or.inr (Or.inr ⟨.inr (.inr (.inl none)), bind_of_error _ _ _ _ _ outRan⟩)⟩
    -- What is only copied in cannot come back wrong.
    · exact (wrong (answers_copyIn gate _ val x answers)).elim
    · exact ⟨first, start.trans firstKept,
        Or.inr (Or.inr ⟨.inr (.inl none), bind_of_error _ _ _ _ _ ran⟩)⟩
  · refine ⟨place memory val [0], start, Or.inr (Or.inr ⟨.inl checked, ?_⟩)⟩
    change (if userCheck ≠ .success then faultWith .abort else _ : Breakable Fault (Memory Int32) Unit)
      (place memory val [0]) = _
    rw [if_pos checked]
    rfl

theorem ocallPointerAttr_ok_iff (gate : OcallGate left) (userCheck : SgxStatus)
    (app : OcallBodies) (val : Nat) (memory : Memory Int32) :
    (∃ after, ocallPointerAttr gate userCheck app val memory = .ok () after) ↔
      userCheck = .success ∧ (∃ x, Answers gate .copyIn app.ocallPointerIn val x) ∧
        Answers gate .copyOut app.ocallPointerOut val 1234 ∧
        Answers gate .copyInOut app.ocallPointerInOut val 1234 := by
  obtain ⟨after, _, ⟨checked, first, second, third, ran⟩ | ⟨⟨x, wrong, answers⟩, ran⟩ |
    ⟨missing, ran⟩⟩ := ocallPointerAttr_cases gate userCheck app val memory
  · exact iff_of_true ⟨after, ran⟩ ⟨checked, first, second, third⟩
  · rw [ran]
    apply iff_of_false (fun returned => nomatch returned)
    rintro ⟨_, _, second, third⟩
    rcases answers with out | inOut
    · exact wrong (answers_unique gate _ _ val x 1234 out second)
    · exact wrong (answers_unique gate _ _ val x 1234 inOut third)
  · rw [ran]
    apply iff_of_false (fun returned => nomatch returned)
    rintro ⟨checked, ⟨x, first⟩, second, third⟩
    rcases missing with failed | noFirst | noSecond | noThird
    · exact failed checked
    · exact noFirst x first
    · exact noSecond 1234 second
    · exact noThird 1234 third

/-- Whatever application is on the other side: the enclave goes on exactly when all calls
succeed and both values that are copied back are 1234; an assertion fails only over
one of these two, never over the value that is copied in; and at every end the
application has had no effect on the enclave's memory but on that one variable. -/
theorem ocall_pointer_attr_any_app (gate : OcallGate left) (userCheck : SgxStatus)
    (app : OcallBodies) (val : Nat) (memory : Memory Int32) :
    ((∃ after, ocallPointerAttr gate userCheck app val memory = .ok () after) ↔
      userCheck = .success ∧ (∃ x, Answers gate .copyIn app.ocallPointerIn val x) ∧
        Answers gate .copyOut app.ocallPointerOut val 1234 ∧
        Answers gate .copyInOut app.ocallPointerInOut val 1234) ∧
    (∀ after, ocallPointerAttr gate userCheck app val memory = .error (.fault .assertion) after →
      ∃ x, x ≠ 1234 ∧ (Answers gate .copyOut app.ocallPointerOut val x ∨
        Answers gate .copyInOut app.ocallPointerInOut val x)) ∧
    Confined val memory (last (ocallPointerAttr gate userCheck app val memory)) := by
  refine ⟨ocallPointerAttr_ok_iff gate userCheck app val memory, ?_⟩
  obtain ⟨after, confined, ⟨_, _, _, _, ran⟩ | ⟨wrong, ran⟩ | ⟨_, ran⟩⟩ :=
    ocallPointerAttr_cases gate userCheck app val memory
  · rw [ran]
    exact ⟨nofun, confined⟩
  · rw [ran]
    exact ⟨fun _ _ => wrong, confined⟩
  · rw [ran]
    exact ⟨nofun, confined⟩

def assign1234 : OcallBody where
  run := modify fun cells => cells.set 0 1234
  keeps := keeps_modify _ fun _ => List.length_set

def ownBodies : OcallBodies := ⟨assign1234, assign1234, assign1234⟩

def idleBody : OcallBody where
  run := pure ()
  keeps := fun _ => preserves_pure ()

/-- The application's own functions satisfy the enclave. One that leaves its copies alone
does not: what comes back then is what was outside before. -/
theorem ocall_pointer_attr_any_app_own :
    (∃ after, ocallPointerAttr (copyingUpTo 1 7) .success ownBodies 5 (fun _ => 3) = .ok () after) ∧
    (¬ ∃ after, ocallPointerAttr (copyingUpTo 1 7) .success ⟨assign1234, idleBody, assign1234⟩ 5
      (fun _ => 3) = .ok () after) ∧
    (last (ocallPointerAttr (copyingUpTo 1 7) .success ⟨assign1234, idleBody, assign1234⟩ 5
      fun _ => 3)) 6 = 3 := by
  have answered : ∀ passing x, passing.seen [0] [1234] = [x] →
      Answers (copyingUpTo 1 7) passing assign1234 5 x := by
    intro passing x seen
    refine ⟨?_, [1234], ?_, seen⟩
    · cases passing <;> rfl
    · cases passing <;> rfl
  obtain ⟨own, _, _⟩ := ocall_pointer_attr_any_app (copyingUpTo 1 7) .success ownBodies 5 fun _ => 3
  obtain ⟨idle, _, confined⟩ := ocall_pointer_attr_any_app (copyingUpTo 1 7) .success
    ⟨assign1234, idleBody, assign1234⟩ 5 fun _ => 3
  refine ⟨own.mpr ⟨rfl, ⟨0, answered .copyIn 0 rfl⟩, answered .copyOut _ rfl,
    answered .copyInOut _ rfl⟩, ?_, confined 6 (by decide)⟩
  intro returned
  obtain ⟨_, _, ⟨_, after, ran, seen⟩, _⟩ := idle.mp returned
  cases ran
  exact absurd seen (by decide)

end Ocalls

section App

def ecallPointerUserCheck (outside : Bool) (sz : UInt64) : CharBody := fun buffer =>
  match UserCheck.ecallPointerUserCheck outside
      (UserCheck.outsideBuffer sz fun k => buffer.getD k 0) sz with
  | .error _ => .error (.fault .abort) buffer
  | .ok result => .ok () (List.ofFn fun i : Fin buffer.length => result.val.block.byte i)

structure AppMemory where
  ints : Memory Int32
  chars : Memory UInt8

def onPart {Part : Type} (part : AppMemory → Part) (put : Part → AppMemory → AppMemory)
    (block : Breakable AppFault Part Unit) : Breakable AppFault AppMemory Unit := fun memory =>
  match block (part memory) with
  | .ok _ after => .ok () (put after memory)
  | .error exit after => .error exit (put after memory)

def onInts : Breakable AppFault (Memory Int32) Unit → Breakable AppFault AppMemory Unit :=
  onPart AppMemory.ints fun after memory => { memory with ints := after }

def onChars : Breakable AppFault (Memory UInt8) Unit → Breakable AppFault AppMemory Unit :=
  onPart AppMemory.chars fun after memory => { memory with chars := after }

structure Platform (left : Int32) where
  ints : ArrayGate
  chars : CharGate
  ocalls : OcallGate left
  userCheck : SgxStatus
  new : (n : Nat) → Option (Fin n → UInt8)
  enters : Bool
  enclave : Memory Int32
  enclaveVal : Nat

structure Addresses where
  c : Nat
  val : Nat
  str1 : Nat
  str2 : Nat
  str3 : Nat
  str4 : Nat
  arr : Nat

def ascendingDigits : List UInt8 :=
  [ '1', '2', '3', '4', '5', '6', '7', '8', '9', '0'].map fun c => UInt8.ofNat c.toNat

def reads (wanted str : List UInt8) : Bool := strlen str == some 10 && str.take 10 == wanted

def readsSuccess (c : List UInt8) : Bool := cString c == cString UserCheck.text

variable {left : Int32}

def succeedsWithin (platform : Platform left) : Bool :=
  platform.enters && match ocallPointerAttr platform.ocalls platform.userCheck ownBodies
      platform.enclaveVal platform.enclave with
    | .ok _ _ => true
    | .error _ _ => false

def edger8rPointerAttributes (ndebug : Bool) (platform : Platform left) (places : Addresses) :
    Breakable AppFault AppMemory Unit := do
  onChars (tryBuffer ndebug platform.chars .direct (List.replicate 128 0x0e) 128
    (ecallPointerUserCheck true 128) readsSuccess places.c)
  onInts (tryBuffer ndebug platform.ints .copyIn [0] 1 (ecallPointerIn true) (· == [0]) places.val)
  onInts (tryBuffer ndebug platform.ints .copyOut [0] 1 (ecallPointerOut true) (· == [1234])
    places.val)
  onInts (tryBuffer ndebug platform.ints .copyInOut [0] 1 (ecallPointerInOut true) (· == [1234])
    places.val)
  abortUnless (succeedsWithin platform)
  onChars (tryBuffer ndebug platform.chars .copyInOut (ascendingDigits ++ [0]) 11
    ecallPointerString (reads digits) places.str1)
  onChars (tryBuffer ndebug platform.chars .copyIn (ascendingDigits ++ [0]) 11
    (ecallPointerStringConst platform.new) (reads ascendingDigits) places.str2)
  onChars (tryBuffer ndebug platform.chars .copyInOut (ascendingDigits ++ [0]) 10
    (ecallPointerSize 10) (reads digits) places.str3)
  onChars (tryBuffer ndebug platform.chars .copyIn (ascendingDigits ++ [0]) 10
    (ecallPointerIsptrReadonly 10) (reads ascendingDigits) places.str4)
  onInts (tryBuffer ndebug platform.ints .copyInOut (ascending 10) 10 (ecallPointerCount 10)
    descends places.arr)

theorem onPart_abortsUnless {Part : Type} {condition : Prop} (part : AppMemory → Part)
    (put : Part → AppMemory → AppMemory) (block : Breakable AppFault Part Unit)
    (holds : AbortsUnless condition block) : AbortsUnless condition (onPart part put block) := by
  intro memory
  rw [onPart]
  rcases holds (part memory) with ⟨met, after, ran⟩ | ⟨unmet, after, ran⟩
  · rw [ran]
    exact Or.inl ⟨met, _, rfl⟩
  · rw [ran]
    exact Or.inr ⟨unmet, _, rfl⟩

theorem abortUnless_abortsUnless {State : Type} (succeeded : Bool) :
    AbortsUnless (succeeded = true) (abortUnless succeeded : Breakable AppFault State Unit) := by
  intro state
  cases succeeded with
  | false => exact Or.inr ⟨Bool.false_ne_true, state, rfl⟩
  | true => exact Or.inl ⟨rfl, state, rfl⟩

theorem own_answers (gate : OcallGate left) (passing : Passing) (val : Nat) :
    Answers gate passing assign1234 val (if passing = .copyIn then 0 else 1234) ↔
      gate.admits passing val 1 = true := by
  constructor
  · exact fun answers => answers.1
  · intro admitted
    refine ⟨admitted, [1234], ?_, ?_⟩
    · cases passing <;> rfl
    · cases passing <;> rfl

theorem succeedsWithin_iff (platform : Platform left) :
    succeedsWithin platform = true ↔ platform.enters = true ∧ platform.userCheck = .success ∧
      platform.ocalls.admits .copyIn platform.enclaveVal 1 = true ∧
      platform.ocalls.admits .copyOut platform.enclaveVal 1 = true ∧
      platform.ocalls.admits .copyInOut platform.enclaveVal 1 = true := by
  have copiedIn : (∃ x, Answers platform.ocalls .copyIn assign1234 platform.enclaveVal x) ↔
      platform.ocalls.admits .copyIn platform.enclaveVal 1 = true :=
    ⟨fun ⟨_, answers⟩ => answers.1, fun admitted => ⟨0, (own_answers _ .copyIn _).mpr admitted⟩⟩
  have ends := ocallPointerAttr_ok_iff platform.ocalls platform.userCheck ownBodies
    platform.enclaveVal platform.enclave
  have out := own_answers platform.ocalls .copyOut platform.enclaveVal
  have inOut := own_answers platform.ocalls .copyInOut platform.enclaveVal
  rw [if_neg nofun] at out inOut
  rw [ownBodies, copiedIn, out, inOut] at ends
  rw [succeedsWithin, Bool.and_eq_true, ← ends]
  apply and_congr_right
  intro _
  change _ ↔ ∃ after, ocallPointerAttr platform.ocalls platform.userCheck ownBodies
    platform.enclaveVal platform.enclave = .ok () after
  cases ocallPointerAttr platform.ocalls platform.userCheck ownBodies platform.enclaveVal
      platform.enclave with
  | ok value after => exact iff_of_true rfl ⟨after, rfl⟩
  | error exit after => exact iff_of_false Bool.false_ne_true fun returned => nomatch returned

theorem userCheck_writes (content : Nat → UInt8) :
    ∃ result, UserCheck.ecallPointerUserCheck true (UserCheck.outsideBuffer 128 content) 128 =
        .ok result ∧
      ∀ k, result.val.block.byte k = if k < 12 then UserCheck.text.getD k 0 else content k := by
  obtain ⟨copy, isCopy⟩ : ∃ copy, copy = UserCheck.copyIn (UserCheck.outsideBuffer 128 content) 100 :=
    ⟨_, rfl⟩
  obtain ⟨sum, reads, ran, _, _⟩ := UserCheck.checksumInternal_run copy.1 100 le_rfl
  refine ⟨⟨100, (100, (~~~sum).toUInt32), UserCheck.writeBack copy.2 12,
    ⟨copy.1.block, copy.1.reads ++ reads⟩⟩, ?_, ?_⟩
  · have called : UserCheck.ecallPointerUserCheck true (UserCheck.outsideBuffer 128 content) 128 =
        (UserCheck.checksumInternal copy.1 100).bind fun summed =>
          .ok ⟨100, (100, summed.1.toUInt32), UserCheck.writeBack copy.2 12, summed.2⟩ := by
      rw [isCopy]
      rfl
    rw [called, ran]
    rfl
  · rw [isCopy]
    exact UserCheck.writeBack_byte _ 12

theorem ecallPointerUserCheck_run :
    ∃ after, ecallPointerUserCheck true 128 (List.replicate 128 0x0e) = .ok () after ∧
      after.length = 128 ∧ readsSuccess after = true := by
  obtain ⟨result, ran, bytes⟩ := userCheck_writes fun k => (List.replicate 128 (0x0e : UInt8)).getD k 0
  -- `strcmp` stops at the NUL that ends the twelve bytes written, whatever follows it.
  have front : (List.ofFn fun i : Fin 12 => result.val.block.byte i) = UserCheck.text.take 11 ++ [0] := by
    have cells : (fun i : Fin 12 => result.val.block.byte i) =
        fun i : Fin 12 => UserCheck.text.getD i 0 := by
      funext i
      rw [bytes, if_pos i.isLt]
    rw [cells]
    rfl
  have all : (List.ofFn fun i : Fin (12 + 116) => result.val.block.byte i) =
      UserCheck.text.take 11 ++ 0 :: List.ofFn fun i : Fin 116 => result.val.block.byte (12 + i) := by
    rw [List.ofFn_add, List.append_cons, ← front]
    rfl
  refine ⟨List.ofFn fun i : Fin (12 + 116) => result.val.block.byte i, ?_, List.length_ofFn, ?_⟩
  · rw [ecallPointerUserCheck, ran]
    rfl
  · have text : (0 : UInt8) ∉ UserCheck.text.take 11 := by decide
    have itself : cString UserCheck.text = some (UserCheck.text.take 11) :=
      cString_text (UserCheck.text.take 11) [] text
    rw [readsSuccess, all, cString_text _ _ text, itself, beq_self_eq_true]

theorem userCheck_abortsUnless (ndebug : Bool) (gate : CharGate) (start : Nat) :
    AbortsUnless (gate.admits .direct start 128 = true)
      (tryBuffer ndebug gate .direct (List.replicate 128 0x0e) 128 (ecallPointerUserCheck true 128)
        readsSuccess start) := by
  have size : (List.replicate 128 (0x0e : UInt8)).length = 128 := List.length_replicate
  obtain ⟨after, ran, length, shown⟩ := ecallPointerUserCheck_run
  apply tryBuffer_abortsUnless ndebug gate .direct _ 128 _ _ start after size.ge length
  · change ecallPointerUserCheck true 128 ((List.replicate 128 0x0e).take 128) = _
    rw [List.take_of_length_le size.le]
    exact ran
  · change readsSuccess (after ++ (List.replicate 128 0x0e).drop after.length) = true
    rw [List.drop_eq_nil_of_le (by rw [size, length]), List.append_nil]
    exact shown

theorem ascendingDigits_text : (0 : UInt8) ∉ ascendingDigits := by decide

theorem stringConst_abortsUnless (ndebug : Bool) (gate : CharGate)
    (new : (n : Nat) → Option (Fin n → UInt8)) (start : Nat) :
    AbortsUnless (gate.admits .copyIn start 11 = true ∧ (new 10).isSome = true)
      (tryBuffer ndebug gate .copyIn (ascendingDigits ++ [0]) 11 (ecallPointerStringConst new)
        (reads ascendingDigits) start) := by
  have ran := ecallPointerStringConst_run new ascendingDigits ascendingDigits_text
  change ecallPointerStringConst new _ = if (new 10).isSome = true then _ else _ at ran
  cases given : (new 10).isSome with
  | true =>
      rw [if_pos given] at ran
      rw [and_iff_left rfl]
      exact tryBuffer_abortsUnless ndebug gate .copyIn _ 11 _ _ start _ le_rfl rfl ran rfl
  | false =>
      rw [if_neg (fun isSome => Bool.false_ne_true (given.symm.trans isSome))] at ran
      rw [iff_false_intro (fun both : _ ∧ false = true => Bool.false_ne_true both.2)]
      exact tryBuffer_aborts ndebug gate .copyIn _ 11 _ _ start _ _ le_rfl ran

/-- No assertion of the application ever fires: it aborts when some call is turned down
or runs out of memory, and goes through otherwise, in every build and wherever its
variables are. -/
theorem pointer_attributes_hold (ndebug : Bool) (platform : Platform left)
    (places : Addresses) :
    AbortsUnless (platform.chars.admits .direct places.c 128 = true ∧
        platform.ints.admits .copyIn places.val 1 = true ∧
        platform.ints.admits .copyOut places.val 1 = true ∧
        platform.ints.admits .copyInOut places.val 1 = true ∧
        (platform.enters = true ∧ platform.userCheck = .success ∧
          platform.ocalls.admits .copyIn platform.enclaveVal 1 = true ∧
          platform.ocalls.admits .copyOut platform.enclaveVal 1 = true ∧
          platform.ocalls.admits .copyInOut platform.enclaveVal 1 = true) ∧
        platform.chars.admits .copyInOut places.str1 11 = true ∧
        (platform.chars.admits .copyIn places.str2 11 = true ∧ (platform.new 10).isSome = true) ∧
        platform.chars.admits .copyInOut places.str3 10 = true ∧
        platform.chars.admits .copyIn places.str4 10 = true ∧
        platform.ints.admits .copyInOut places.arr 10 = true)
      (edger8rPointerAttributes ndebug platform places) := by
  have ints := @tryBuffer_abortsUnless Int32 0 ndebug platform.ints
  have chars := @tryBuffer_abortsUnless UInt8 0 ndebug platform.chars
  apply abortsUnless_seq
  · exact onPart_abortsUnless _ _ _ (userCheck_abortsUnless ndebug platform.chars places.c)
  apply abortsUnless_seq
  · exact onPart_abortsUnless _ _ _ (ints .copyIn _ 1 _ _ _ [1234] le_rfl rfl rfl rfl)
  apply abortsUnless_seq
  · exact onPart_abortsUnless _ _ _ (ints .copyOut _ 1 _ _ _ [1234] le_rfl rfl rfl rfl)
  apply abortsUnless_seq
  · exact onPart_abortsUnless _ _ _ (ints .copyInOut _ 1 _ _ _ [1234] le_rfl rfl rfl rfl)
  apply abortsUnless_seq
  · rw [← succeedsWithin_iff]
    exact abortUnless_abortsUnless _
  apply abortsUnless_seq
  · exact onPart_abortsUnless _ _ _ (chars .copyInOut _ 11 _ _ _ (digits ++ [0]) le_rfl rfl
      (ecallPointerString_run ascendingDigits ascendingDigits_text) rfl)
  apply abortsUnless_seq
  · exact onPart_abortsUnless _ _ _ (stringConst_abortsUnless ndebug platform.chars platform.new _)
  apply abortsUnless_seq
  · exact onPart_abortsUnless _ _ _ (chars .copyInOut _ 10 _ _ _ digits (by decide) rfl
      (ecallPointerSize_run ascendingDigits) rfl)
  apply abortsUnless_seq
  · exact onPart_abortsUnless _ _ _ (chars .copyIn _ 10 _ _ _ digits (by decide) rfl
      (ecallPointerSize_run ascendingDigits) rfl)
  · exact onPart_abortsUnless _ _ _ (ints .copyInOut _ 10 _ _ _ [9, 8, 7, 6, 5, 4, 3, 2, 1, 0] le_rfl rfl
      rfl rfl)

def withRoom (room : Nat) : Platform 7 where
  ints := copyingUpTo 10 0
  chars := copyingUpTo room 0
  ocalls := copyingUpTo 1 7
  userCheck := .success
  new _ := some fun _ => 0xcc
  enters := true
  enclave _ := 3
  enclaveVal := 5

/-- Eleven bytes are enough; with ten, the first string cannot be copied. -/
theorem pointer_attributes_hold_withRoom :
    (∃ after, edger8rPointerAttributes false (withRoom 11) ⟨0, 128, 140, 160, 180, 200, 220⟩
      ⟨fun _ => 0, fun _ => 0⟩ = .ok () after) ∧
    ∃ after, edger8rPointerAttributes false (withRoom 10) ⟨0, 128, 140, 160, 180, 200, 220⟩
      ⟨fun _ => 0, fun _ => 0⟩ = .error (.fault .abort) after := by
  constructor
  · rcases pointer_attributes_hold false (withRoom 11) ⟨0, 128, 140, 160, 180, 200, 220⟩
      ⟨fun _ => 0, fun _ => 0⟩ with ⟨_, through⟩ | ⟨turnedDown, _⟩
    · exact through
    · exact (turnedDown (by decide)).elim
  · rcases pointer_attributes_hold false (withRoom 10) ⟨0, 128, 140, 160, 180, 200, 220⟩
      ⟨fun _ => 0, fun _ => 0⟩ with ⟨letIn, _⟩ | ⟨_, aborted⟩
    · exact absurd letIn.2.2.2.2.2.1 (by decide)
    · exact aborted

end App

end SgxExperiments.PointerAttributes
