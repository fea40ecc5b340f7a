import SgxExperiments.CopiedBuffer
import SgxExperiments.KeyDerivation

/-!
The ECALLs with array attributes. Each goes through its array once, checks every
element and replaces it; they differ in how the array reaches the enclave, which is
up to the generated gate. The assertions of the enclave are never compiled out.
-/

namespace SgxExperiments.ArrayAttributes

open BreakableBlock CopiedBuffer

inductive Fault where
  | abort
  | assertion
  | outOfBounds
  | signedOverflow
  deriving DecidableEq

abbrev Body := Breakable Fault (List Int32) Unit

section Model

def load (i : Nat) : Breakable Fault (List Int32) Int32 := do
  match (← get)[i]? with
  | none => faultWith .outOfBounds
  | some value => pure value

def store (i : Nat) (value : Int32) : Body := do
  if (← get).length ≤ i then faultWith .outOfBounds
  modify fun arr => arr.set i value

def sweep (expected value : Nat → Int32) : Nat → Nat → Body
  | 0, _ => pure ()
  | steps + 1, i => do
      let found ← load i
      if found ≠ expected i then faultWith .assertion
      store i (value i)
      sweep expected value steps (i + 1)

def asInt (i : Nat) : Int32 := Int32.ofNat i

/-- `outside` is what `sgx_is_outside_enclave` says about the array. -/
def ecallArrayUserCheck (outside : Bool) : Body := do
  if outside = false then faultWith .abort
  sweep asInt (fun i => 3 - asInt i) 4 0

def ecallArrayIn : Body := sweep asInt (fun i => 3 - asInt i) 4 0

def ecallArrayOut : Body := sweep (fun _ => 0) (fun i => 3 - asInt i) 4 0

def ecallArrayInOut : Body := sweep asInt (fun i => 3 - asInt i) 4 0

-- int n = sizeof(array_t)/sizeof(arr[0]);
def ecallArrayIsary (outside : Bool) : Body := do
  if outside = false then faultWith .abort
  sweep asInt (fun i => 10 - 1 - asInt i) 10 0

end Model

section Sweep

variable (expected value : Nat → Int32)

/-- The array after the sweep: replaced up to the first element that is not as expected. -/
def swept : Nat → List Int32 → List Int32
  | _, [] => []
  | i, x :: rest => if x = expected i then value i :: swept (i + 1) rest else x :: rest

def Expected (i : Nat) (arr : List Int32) : Prop :=
  ∀ j x, arr[j]? = some x → x = expected (i + j)

theorem expected_cons (i : Nat) (x : Int32) (rest : List Int32) :
    Expected expected i (x :: rest) ↔ x = expected i ∧ Expected expected (i + 1) rest := by
  constructor
  · intro all
    refine ⟨all 0 x rfl, fun j y found => ?_⟩
    rw [Nat.add_right_comm, Nat.add_assoc]
    exact all (j + 1) y found
  · rintro ⟨first, all⟩ j y found
    cases j with
    | zero =>
        cases found
        exact first
    | succ j =>
        have there := all j y found
        rwa [Nat.add_right_comm, Nat.add_assoc] at there

theorem swept_getElem? (i j : Nat) (arr : List Int32) (inside : j < arr.length)
    (before : ∀ k ≤ j, arr[k]? = some (expected (i + k))) :
    (swept expected value i arr)[j]? = some (value (i + j)) := by
  induction arr generalizing i j with
  | nil => cases inside
  | cons x rest ih =>
      have first := before 0 (Nat.zero_le j)
      rw [List.getElem?_cons_zero, Option.some.injEq, Nat.add_zero] at first
      rw [swept, if_pos first]
      cases j with
      | zero => rfl
      | succ j =>
          rw [List.getElem?_cons_succ, ih (i + 1) j (Nat.lt_of_succ_lt_succ inside)]
          · rw [Nat.add_right_comm, Nat.add_assoc]
          · intro k upTo
            have there := before (k + 1) (Nat.succ_le_succ upTo)
            rwa [List.getElem?_cons_succ, ← Nat.add_assoc, Nat.add_right_comm] at there

theorem swept_kept (i j k : Nat) (arr : List Int32) (upTo : k ≤ j)
    (wrong : arr[k]? ≠ some (expected (i + k))) :
    (swept expected value i arr)[j]? = arr[j]? := by
  induction arr generalizing i j k with
  | nil => rfl
  | cons x rest ih =>
      rw [swept]
      split
      · rename_i first
        cases k with
        | zero => exact (wrong (congrArg some first)).elim
        | succ k =>
            cases j with
            | zero => cases upTo
            | succ j =>
                rw [List.getElem?_cons_succ, List.getElem?_cons_succ]
                apply ih (i + 1) j k (Nat.le_of_succ_le_succ upTo)
                rwa [List.getElem?_cons_succ, ← Nat.add_assoc, Nat.add_right_comm] at wrong
      · rfl

theorem load_run (done rest : List Int32) (x : Int32) :
    load done.length (done ++ x :: rest) = .ok x (done ++ x :: rest) := by
  rw [load, bind_run, get_run]
  dsimp only
  rw [List.getElem?_append_right le_rfl, Nat.sub_self, List.getElem?_cons_zero]
  rfl

theorem store_run (done rest : List Int32) (x y : Int32) :
    store done.length y (done ++ x :: rest) = .ok () (done ++ y :: rest) := by
  have short : ¬ (done ++ x :: rest).length ≤ done.length := by
    rw [List.length_append, List.length_cons]
    omega
  have replaced : (done ++ x :: rest).set done.length y = done ++ y :: rest := by
    rw [List.set_append_right _ _ le_rfl, Nat.sub_self, List.set_cons_zero]
  rw [store, bind_run, get_run]
  dsimp only
  rw [if_neg short]
  exact congrArg (EStateM.Result.ok ()) replaced

theorem sweep_step (done rest : List Int32) (x : Int32) (steps : Nat) :
    sweep expected value (steps + 1) done.length (done ++ x :: rest) =
      if x = expected done.length then
        sweep expected value steps (done.length + 1) (done ++ value done.length :: rest)
      else .error (.fault .assertion) (done ++ x :: rest) := by
  rw [sweep, bind_of_ok _ _ _ _ _ (load_run done rest x)]
  by_cases first : x = expected done.length
  · rw [if_pos first, if_neg (not_not.mpr first)]
    exact bind_of_ok _ _ _ _ _ (store_run done rest x (value done.length))
  · rw [if_neg first, if_pos first]
    rfl

/-- The loop stays inside the array, stops at the first element that is not as
expected, and has replaced those before it. -/
theorem sweep_run (done rest : List Int32) :
    (Expected expected done.length rest ∧
      sweep expected value rest.length done.length (done ++ rest) =
        .ok () (done ++ swept expected value done.length rest)) ∨
    (¬ Expected expected done.length rest ∧
      sweep expected value rest.length done.length (done ++ rest) =
        .error (.fault .assertion) (done ++ swept expected value done.length rest)) := by
  induction rest generalizing done with
  | nil => exact Or.inl ⟨fun j x found => by simp at found, rfl⟩
  | cons x rest ih =>
      rw [expected_cons, List.length_cons, sweep_step, swept]
      by_cases first : x = expected done.length
      · have longer : (done ++ [value done.length]).length = done.length + 1 := List.length_append
        have step := ih (done ++ [value done.length])
        rw [longer, ← List.append_cons, ← List.append_cons] at step
        rw [if_pos first, if_pos first, and_iff_right first]
        exact step
      · rw [if_neg first, if_neg first]
        exact Or.inr ⟨fun all => first all.1, rfl⟩

end Sweep

section Calls

/-- The generated gate of an array: [out] buffers are zero to begin with. -/
abbrev ArrayGate := Gate Fault SgxStatus.success (0 : Int32)

def copyingUpTo {Fault Cell : Type} (room : Nat) (zero : Cell) : Gate Fault SgxStatus.success zero :=
  copying SgxStatus.success SgxStatus.errorUnexpected (by decide) zero fun passing _ n =>
    passing == .direct || decide (n ≤ room)

structure SweepEnds (gate : ArrayGate) (passing : Passing) (n : Nat) (expected value : Nat → Int32)
    (body : Body) (memory : Memory Int32) (start : Nat) : Prop where
  returns : (gate.call passing start n body memory).1 = .success ↔
    gate.admits passing start n = true ∧ ∀ i < n, passing.cell 0 memory start i = expected i
  replaced : (gate.call passing start n body memory).1 = .success → passing ≠ .copyIn →
    ∀ i < n, (gate.call passing start n body memory).2 (start + i) = value i
  untouched : (passing = .copyIn ∨ passing ≠ .direct ∧
      (gate.call passing start n body memory).1 ≠ .success) →
    (gate.call passing start n body memory).2 = memory
  partly : passing = .direct → gate.admits passing start n = true → ∀ i < n,
    (gate.call passing start n body memory).2 (start + i) =
      if ∀ k ≤ i, memory (start + k) = expected k then value i else memory (start + i)
  beyond : ∀ address, address < start ∨ start + n ≤ address →
    (gate.call passing start n body memory).2 address = memory address

variable (expected value : Nat → Int32)

theorem load_keeps (i : Nat) : KeepsLength (load i) := by
  intro n
  apply preserves_get_bind
  intro cells
  cases cells[i]? with
  | none => exact preserves_fault _
  | some found => exact preserves_pure found

theorem store_keeps (i : Nat) (x : Int32) : KeepsLength (store i x) := by
  intro n
  have replaces : KeepsLength (modify fun arr => arr.set i x : Body) :=
    keeps_modify _ fun _ => List.length_set
  apply preserves_get_bind
  intro cells
  exact preserves_ite (preserves_bind (preserves_fault _) fun _ => replaces n) (replaces n)

theorem sweep_keeps (steps i : Nat) : KeepsLength (sweep expected value steps i) := by
  intro n
  induction steps generalizing i with
  | zero => exact preserves_pure ()
  | succ steps ih =>
      have goesOn := preserves_bind (store_keeps i (value i) n) fun _ => ih (i + 1)
      exact preserves_bind (load_keeps i n) fun found =>
        preserves_ite (preserves_bind (preserves_fault _) fun _ => goesOn) goesOn

theorem sweep_all (arr : List Int32) :
    last (sweep expected value arr.length 0 arr) = swept expected value 0 arr ∧
      ((∃ after, sweep expected value arr.length 0 arr = .ok () after) ↔ Expected expected 0 arr) := by
  rcases sweep_run expected value [] arr with ⟨all, ran⟩ | ⟨wrong, ran⟩
  · change sweep expected value arr.length 0 arr = _ at ran
    rw [ran]
    exact ⟨rfl, iff_of_true ⟨_, rfl⟩ all⟩
  · change sweep expected value arr.length 0 arr = _ at ran
    rw [ran]
    exact ⟨rfl, iff_of_false (fun returned => nomatch returned) wrong⟩

theorem expected_given (passing : Passing) (memory : Memory Int32) (start n : Nat) :
    Expected expected 0 (passing.given 0 memory start n) ↔
      ∀ i < n, passing.cell 0 memory start i = expected i := by
  have length := passing.given_length 0 memory start n
  constructor
  · intro all i inside
    have there := all i _ (passing.given_getElem? 0 memory start n i inside)
    rwa [Nat.zero_add] at there
  · intro all j x found
    have inside : j < n := by
      obtain ⟨short, _⟩ := List.getElem?_eq_some_iff.mp found
      omega
    rw [passing.given_getElem? 0 memory start n j inside, Option.some.injEq] at found
    rw [← found, Nat.zero_add]
    exact all j inside

theorem sweep_ends (gate : ArrayGate) (passing : Passing) (n : Nat) (memory : Memory Int32)
    (start : Nat) :
    SweepEnds gate passing n expected value (sweep expected value n 0) memory start := by
  have keeps := sweep_keeps expected value n 0
  have length := passing.given_length 0 memory start n
  obtain ⟨ended, returned⟩ := sweep_all expected value (passing.given 0 memory start n)
  rw [length] at ended returned
  have cells : ∀ i < n, (∀ k ≤ i, passing.cell 0 memory start k = expected k) →
      (swept expected value 0 (passing.given 0 memory start n))[i]? = some (value i) := by
    intro i inside before
    rw [swept_getElem? expected value 0 i _ (by omega), Nat.zero_add]
    intro k upTo
    rw [passing.given_getElem? 0 memory start n k (by omega), before k upTo, Nat.zero_add]
  constructor
  · rw [call_success_iff, returned, expected_given]
  · intro succeeded wanted i inside
    have came := call_returned gate passing start n _ memory keeps wanted succeeded
    rw [came] at ended
    have all := (expected_given expected passing memory start n).mp
      (returned.mp ⟨_, came⟩)
    have there := cells i inside fun k upTo => all k (by omega)
    rw [← ended, last, window_getElem? _ _ _ i inside, Option.some.injEq] at there
    exact there
  · rintro (rfl | ⟨copied, failed⟩)
    · exact call_copyIn gate start n _ memory
    · exact call_failed gate passing start n _ memory copied failed
  · rintro rfl admitted i inside
    have there := call_direct gate start n _ memory keeps admitted
    change _ = last (sweep expected value n 0 (Passing.direct.given 0 memory start n)) at there
    rw [ended] at there
    have now := congrArg (fun cells => cells[i]?) there
    rw [window_getElem? _ _ _ i inside] at now
    split
    · rename_i before
      rwa [cells i inside before, Option.some.injEq] at now
    · rename_i wrong
      -- The loop has stopped at or before this element.
      obtain ⟨k, upTo, differs⟩ : ∃ k ≤ i, memory (start + k) ≠ expected k := by
        by_contra none
        exact wrong fun k upTo => not_not.mp fun differs => none ⟨k, upTo, differs⟩
      rw [swept_kept expected value 0 i k _ upTo, Passing.given_getElem? _ 0 memory start n i inside,
        Option.some.injEq] at now
      · exact now
      · rw [Passing.given_getElem? _ 0 memory start n k (by omega), Nat.zero_add, ne_eq,
          Option.some.injEq]
        exact differs
  · exact call_frame gate passing start n _ memory keeps

theorem inside_rejected (gate : ArrayGate) (n : Nat) (memory : Memory Int32) (start : Nat)
    (body : Body) (aborts : ∀ arr, body arr = .error (.fault .abort) arr) :
    (gate.call .direct start n body memory).1 ≠ .success ∧
      (gate.call .direct start n body memory).2 = memory := by
  rcases call_cases gate .direct start n body memory with
    ⟨_, failed, same⟩ | ⟨_, after, ran, _⟩ | ⟨_, exit, after, ran, failed, called⟩
  · exact ⟨failed, same⟩
  · rw [aborts] at ran
    cases ran
  · rw [aborts] at ran
    cases ran
    exact ⟨failed, called.trans (place_window memory start n)⟩

/-- The five ECALLs, for whatever is in the array: they succeed when all elements are as
expected; then the caller finds them replaced, unless they are only copied in. When
they fail, a copied array is as it was, and one that is used in place has been
replaced up to the first element that was wrong. -/
theorem array_ecalls_exact (gate : ArrayGate) (memory : Memory Int32) (start : Nat) :
    SweepEnds gate .direct 4 asInt (fun i => 3 - asInt i) (ecallArrayUserCheck true) memory start ∧
    SweepEnds gate .copyIn 4 asInt (fun i => 3 - asInt i) ecallArrayIn memory start ∧
    SweepEnds gate .copyOut 4 (fun _ => 0) (fun i => 3 - asInt i) ecallArrayOut memory start ∧
    SweepEnds gate .copyInOut 4 asInt (fun i => 3 - asInt i) ecallArrayInOut memory start ∧
    SweepEnds gate .direct 10 asInt (fun i => 10 - 1 - asInt i) (ecallArrayIsary true) memory start ∧
    ∀ body n, body = ecallArrayUserCheck false ∨ body = ecallArrayIsary false →
      (gate.call .direct start n body memory).1 ≠ .success ∧
        (gate.call .direct start n body memory).2 = memory := by
  refine ⟨sweep_ends _ _ gate _ _ _ _, sweep_ends _ _ gate _ _ _ _, sweep_ends _ _ gate _ _ _ _,
    sweep_ends _ _ gate _ _ _ _, sweep_ends _ _ gate _ _ _ _, ?_⟩
  intro body n which
  apply inside_rejected
  intro arr
  rcases which with rfl | rfl
  · rfl
  · rfl

/-- On 0, 1, 2, … a copied array is turned round, and from the second element on it is
refused and left alone; ten elements need no copy, but have to be outside. -/
theorem array_ecalls_exact_counting :
    (∀ i < 4, ((copyingUpTo 8 0).call .copyInOut 0 4 ecallArrayInOut asInt).2 i = 3 - asInt i) ∧
    ((copyingUpTo 8 0).call .copyInOut 1 4 ecallArrayInOut asInt).1 ≠ .success ∧
    ((copyingUpTo 8 0).call .copyInOut 1 4 ecallArrayInOut asInt).2 = asInt ∧
    ((copyingUpTo 8 0).call .direct 0 10 (ecallArrayIsary true) asInt).1 = .success ∧
    ((copyingUpTo 8 0).call .direct 0 10 (ecallArrayIsary false) asInt).1 ≠ .success := by
  obtain ⟨_, _, _, turned, isary, within⟩ := array_ecalls_exact (copyingUpTo 8 0) asInt 0
  obtain ⟨_, _, _, refused, _⟩ := array_ecalls_exact (copyingUpTo 8 0) asInt 1
  have wrong : ((copyingUpTo 8 0).call .copyInOut 1 4 ecallArrayInOut asInt).1 ≠ .success :=
    fun succeeded => absurd ((refused.returns.mp succeeded).2 0 (by decide)) (by decide)
  refine ⟨?_, wrong, refused.untouched (Or.inr ⟨nofun, wrong⟩), ?_, (within _ 10 (Or.inr rfl)).1⟩
  · intro i inside
    have replaced := turned.replaced (turned.returns.mpr ⟨rfl, by decide⟩) nofun i inside
    rwa [Nat.zero_add] at replaced
  · exact isary.returns.mpr ⟨rfl, by decide⟩

end Calls

section App

inductive AppFault where
  | abort
  | assertion
  deriving DecidableEq

def AbortsUnless {State : Type} (condition : Prop) (block : Breakable AppFault State Unit) : Prop :=
  ∀ state, (condition ∧ ∃ after, block state = .ok () after) ∨
    (¬ condition ∧ ∃ after, block state = .error (.fault .abort) after)

theorem abortsUnless_seq {State : Type} {first second : Prop}
    {block next : Breakable AppFault State Unit} (firstHolds : AbortsUnless first block)
    (secondHolds : AbortsUnless second next) :
    AbortsUnless (first ∧ second) (block >>= fun _ => next) := by
  intro state
  rcases firstHolds state with ⟨holds, middle, went⟩ | ⟨fails, after, aborted⟩
  · rw [bind_of_ok _ _ _ _ _ went, and_iff_right holds]
    exact secondHolds middle
  · exact Or.inr ⟨fun both => fails both.1, after, bind_of_error _ _ _ _ _ aborted⟩

def abortUnless {State : Type} (succeeded : Bool) : Breakable AppFault State Unit :=
  if succeeded = false then faultWith .abort else pure ()

/-- `assert`, which `NDEBUG` compiles out. -/
def assertThat {State : Type} (ndebug holds : Bool) : Breakable AppFault State Unit :=
  if ndebug = false ∧ holds = false then faultWith .assertion else pure ()

theorem checked_abortsUnless {State : Type} {condition : Prop} (ndebug succeeded holds : Bool)
    (state : State) (succeeds : succeeded = true ↔ condition) (after : condition → holds = true) :
    (condition ∧ ∃ ended, (abortUnless succeeded >>= fun _ => assertThat ndebug holds) state =
      .ok () ended) ∨
    (¬ condition ∧ ∃ ended, (abortUnless succeeded >>= fun _ => assertThat ndebug holds) state =
      .error (.fault .abort) ended) := by
  cases succeeded with
  | false => exact Or.inr ⟨fun met => Bool.false_ne_true (succeeds.mpr met), state, rfl⟩
  | true =>
      have met := succeeds.mp rfl
      refine Or.inl ⟨met, state, ?_⟩
      rw [after met, assertThat, if_neg (fun both => nomatch both.2)]
      rfl

section Buffers

variable {Cell : Type} {zero : Cell} (ndebug : Bool) (gate : Gate Fault SgxStatus.success zero)
  (passing : Passing) (content : List Cell) (n : Nat) (body : Breakable Fault (List Cell) Unit)
  (holds : List Cell → Bool) (start : Nat)

def tryBuffer : Breakable AppFault (Memory Cell) Unit := do
  modify fun memory => place memory start content
  let ended := gate.call passing start n body (← get)
  modify fun _ => ended.2
  abortUnless (ended.1 = .success)
  assertThat ndebug (holds (window ended.2 start content.length))

theorem tryBuffer_abortsUnless (after : List Cell) (fits : n ≤ content.length)
    (length : after.length = n) (ran : body (passing.found zero content n) = .ok () after)
    (isSeen : holds (passing.seen content after) = true) :
    AbortsUnless (gate.admits passing start n = true)
      (tryBuffer ndebug gate passing content n body holds start) := by
  intro before
  obtain ⟨memory, filled⟩ : ∃ memory, memory = place before start content := ⟨_, rfl⟩
  have given : body (passing.given zero memory start n) = .ok () after := by
    rw [filled, passing.given_place zero before start n content fits]
    exact ran
  have steps : tryBuffer ndebug gate passing content n body holds start before =
      (abortUnless (decide ((gate.call passing start n body memory).1 = .success)) >>= fun _ =>
        assertThat ndebug (holds (window (gate.call passing start n body memory).2 start
          content.length))) (gate.call passing start n body memory).2 := by
    rw [filled]
    rfl
  rw [steps]
  apply checked_abortsUnless
  · rw [decide_eq_true_iff, call_success_iff]
    exact and_iff_left ⟨after, given⟩
  · intro admitted
    rw [gate.returns passing start n body memory after admitted given, filled]
    dsimp only
    rw [passing.window_back before start content after (by omega), isSeen]

theorem tryBuffer_aborts (exit : Exit Fault) (after : List Cell) (fits : n ≤ content.length)
    (ran : body (passing.found zero content n) = .error exit after) :
    AbortsUnless False (tryBuffer ndebug gate passing content n body holds start) := by
  intro before
  have given : ¬ ∃ returned,
      body (passing.given zero (place before start content) start n) = .ok () returned := by
    rintro ⟨returned, went⟩
    rw [passing.given_place zero before start n content fits, ran] at went
    cases went
  exact checked_abortsUnless ndebug
    (decide ((gate.call passing start n body (place before start content)).1 = .success)) _ _
    (by rw [decide_eq_true_iff, call_success_iff]; exact iff_of_false (fun both => given both.2) id)
    False.elim

end Buffers

def ascending (n : Nat) : List Int32 := (List.range n).map asInt

def descends (arr : List Int32) : Bool := arr == (List.range arr.length).map fun i => asInt (arr.length - 1 - i)

def ascends (arr : List Int32) : Bool := arr == ascending arr.length

def edger8rArrayAttributes (ndebug : Bool) (gate : ArrayGate) (arrays : Nat → Nat) :
    Breakable AppFault (Memory Int32) Unit := do
  tryBuffer ndebug gate .direct (ascending 4) 4 (ecallArrayUserCheck true) descends (arrays 1)
  tryBuffer ndebug gate .copyIn (ascending 4) 4 ecallArrayIn ascends (arrays 2)
  tryBuffer ndebug gate .copyOut (ascending 4) 4 ecallArrayOut descends (arrays 3)
  tryBuffer ndebug gate .copyInOut (ascending 4) 4 ecallArrayInOut descends (arrays 4)
  tryBuffer ndebug gate .direct (ascending 10) 10 (ecallArrayIsary true) descends (arrays 5)

/-- No assertion of the application ever fires: it aborts when a gate turns a call
down, and goes through otherwise, in every build and wherever its arrays are. -/
theorem array_attributes_hold (ndebug : Bool) (gate : ArrayGate) (arrays : Nat → Nat) :
    AbortsUnless (gate.admits .direct (arrays 1) 4 = true ∧ gate.admits .copyIn (arrays 2) 4 = true ∧
        gate.admits .copyOut (arrays 3) 4 = true ∧ gate.admits .copyInOut (arrays 4) 4 = true ∧
        gate.admits .direct (arrays 5) 10 = true)
      (edger8rArrayAttributes ndebug gate arrays) := by
  apply abortsUnless_seq
  · exact tryBuffer_abortsUnless ndebug gate .direct _ 4 _ _ _ [3, 2, 1, 0] le_rfl rfl rfl rfl
  apply abortsUnless_seq
  · exact tryBuffer_abortsUnless ndebug gate .copyIn _ 4 _ _ _ [3, 2, 1, 0] le_rfl rfl rfl rfl
  apply abortsUnless_seq
  · exact tryBuffer_abortsUnless ndebug gate .copyOut _ 4 _ _ _ [3, 2, 1, 0] le_rfl rfl rfl rfl
  apply abortsUnless_seq
  · exact tryBuffer_abortsUnless ndebug gate .copyInOut _ 4 _ _ _ [3, 2, 1, 0] le_rfl rfl rfl rfl
  · exact tryBuffer_abortsUnless ndebug gate .direct _ 10 _ _ _ [9, 8, 7, 6, 5, 4, 3, 2, 1, 0] le_rfl
      rfl rfl rfl

end App

end SgxExperiments.ArrayAttributes
