import Mathlib.Data.List.GetD
import Mathlib.Data.List.OfFn
import SgxExperiments.BlockInvariant

/-!
A body that works on a buffer of its caller's memory: on the buffer itself, or on a
copy that is filled from it before, copied back to it after, or both. A gate may
turn a call down, and the body may fault. What the body has done to the buffer
itself stays done; a copy is lost.
-/

namespace SgxExperiments.CopiedBuffer

open BreakableBlock

variable {Cell Fault Status : Type}

abbrev Memory (Cell : Type) := Nat → Cell

def window (memory : Memory Cell) (start n : Nat) : List Cell :=
  List.ofFn fun i : Fin n => memory (start + i)

def place (memory : Memory Cell) (start : Nat) (cells : List Cell) : Memory Cell := fun address =>
  if start ≤ address then cells.getD (address - start) (memory address) else memory address

section Windows

variable (memory : Memory Cell) (start n : Nat) (cells : List Cell)

@[simp] theorem window_length : (window memory start n).length = n := List.length_ofFn

theorem window_getElem? (i : Nat) (inside : i < n) :
    (window memory start n)[i]? = some (memory (start + i)) := by
  rw [window, List.getElem?_ofFn, dif_pos inside]

theorem place_outside (address : Nat)
    (outside : address < start ∨ start + cells.length ≤ address) :
    place memory start cells address = memory address := by
  rw [place]
  split
  · rw [List.getD_eq_default]
    omega
  · rfl

theorem place_inside (i : Nat) : place memory start cells (start + i) = cells.getD i (memory (start + i)) := by
  rw [place, if_pos (Nat.le_add_right start i), Nat.add_sub_cancel_left]

theorem window_place : window (place memory start cells) start cells.length = cells := by
  apply List.ext_getElem?
  intro i
  by_cases inside : i < cells.length
  · rw [window_getElem? _ _ _ i inside, place_inside, List.getD_eq_getElem _ _ inside,
      List.getElem?_eq_getElem inside]
  · rw [List.getElem?_eq_none (by rw [window_length]; omega), List.getElem?_eq_none (by omega)]

theorem place_getElem? (m i : Nat) (inside : i < m) :
    (window (place memory start cells) start m)[i]? = some (cells.getD i (memory (start + i))) := by
  rw [window_getElem? _ _ _ i inside, place_inside]

theorem window_place_take (fits : n ≤ cells.length) :
    window (place memory start cells) start n = cells.take n := by
  apply List.ext_getElem?
  intro i
  by_cases inside : i < n
  · rw [place_getElem? _ _ _ n i inside, List.getElem?_take_of_lt inside,
      List.getD_eq_getElem _ _ (by omega), List.getElem?_eq_getElem (by omega)]
  · rw [List.getElem?_eq_none (by rw [window_length]; omega),
      List.getElem?_eq_none (by rw [List.length_take]; omega)]

theorem window_place_place (front : List Cell) (fits : front.length ≤ cells.length) :
    window (place (place memory start cells) start front) start cells.length =
      front ++ cells.drop front.length := by
  apply List.ext_getElem?
  intro i
  by_cases inside : i < cells.length
  · rw [place_getElem? _ _ _ cells.length i inside, place_inside]
    by_cases first : i < front.length
    · rw [List.getD_eq_getElem _ _ first, List.getElem?_append_left first,
        List.getElem?_eq_getElem first]
    · rw [List.getD_eq_default _ _ (by omega), List.getD_eq_getElem _ _ inside,
        List.getElem?_append_right (by omega), List.getElem?_drop,
        Nat.add_sub_cancel' (Nat.le_of_not_lt first), List.getElem?_eq_getElem inside]
  · rw [List.getElem?_eq_none (by rw [window_length]; omega), List.getElem?_eq_none]
    rw [List.length_append, List.length_drop]
    omega

theorem place_window : place memory start (window memory start n) = memory := by
  funext address
  by_cases inside : start ≤ address ∧ address < start + n
  · obtain ⟨i, rfl⟩ := Nat.exists_eq_add_of_le inside.1
    rw [place_inside, List.getD_eq_getElem?_getD, window_getElem? _ _ _ i (by omega)]
    rfl
  · exact place_outside _ _ _ _ (by rw [window_length]; omega)

end Windows

def KeepsLength {α : Type} (body : Breakable Fault (List Cell) α) : Prop :=
  Keeps List.length body

inductive Passing where
  | direct
  | copyIn
  | copyOut
  | copyInOut
  deriving DecidableEq

namespace Passing

def given (passing : Passing) (zero : Cell) (memory : Memory Cell) (start n : Nat) : List Cell :=
  match passing with
  | .copyOut => List.replicate n zero
  | _ => window memory start n

/-- The caller's memory after the body has returned, and after it has faulted. -/
def back (passing : Passing) (memory : Memory Cell) (start : Nat) (after : List Cell) :
    Memory Cell :=
  match passing with
  | .copyIn => memory
  | _ => place memory start after

def left (passing : Passing) (memory : Memory Cell) (start : Nat) (after : List Cell) :
    Memory Cell :=
  match passing with
  | .direct => place memory start after
  | _ => memory

def cell (passing : Passing) (zero : Cell) (memory : Memory Cell) (start i : Nat) : Cell :=
  match passing with
  | .copyOut => zero
  | _ => memory (start + i)

theorem given_getElem? (passing : Passing) (zero : Cell) (memory : Memory Cell) (start n i : Nat)
    (inside : i < n) :
    (passing.given zero memory start n)[i]? = some (passing.cell zero memory start i) := by
  cases passing with
  | copyOut => exact List.getElem?_replicate_of_lt inside
  | direct | copyIn | copyInOut => exact window_getElem? memory start n i inside

/-- What the body finds of a buffer with this content, of which `n` cells are passed, and
what the caller finds after it has returned. -/
def found (passing : Passing) (zero : Cell) (content : List Cell) (n : Nat) : List Cell :=
  match passing with
  | .copyOut => List.replicate n zero
  | _ => content.take n

def seen (passing : Passing) (content after : List Cell) : List Cell :=
  match passing with
  | .copyIn => content
  | _ => after ++ content.drop after.length

theorem given_place (passing : Passing) (zero : Cell) (memory : Memory Cell) (start n : Nat)
    (content : List Cell) (fits : n ≤ content.length) :
    passing.given zero (place memory start content) start n = passing.found zero content n := by
  cases passing with
  | copyOut => rfl
  | direct | copyIn | copyInOut => exact window_place_take memory start n content fits

theorem window_back (passing : Passing) (memory : Memory Cell) (start : Nat)
    (content after : List Cell) (fits : after.length ≤ content.length) :
    window (passing.back (place memory start content) start after) start content.length =
      passing.seen content after := by
  cases passing with
  | copyIn => exact window_place memory start content
  | direct | copyOut | copyInOut => exact window_place_place memory start content after fits

theorem given_length (passing : Passing) (zero : Cell) (memory : Memory Cell) (start n : Nat) :
    (passing.given zero memory start n).length = n := by
  cases passing with
  | copyOut => exact List.length_replicate
  | direct | copyIn | copyInOut => exact window_length memory start n

end Passing

/-- How a call that passes a buffer ends. Whether it is turned down depends on the
buffer's place and size, not on its content. -/
structure Gate (Fault : Type) {Cell Status : Type} (success : Status) (zero : Cell) where
  admits : Passing → Nat → Nat → Bool
  call : Passing → Nat → Nat → Breakable Fault (List Cell) Unit → Memory Cell →
    Status × Memory Cell
  turnsDown : ∀ passing start n body memory, admits passing start n = false →
    (call passing start n body memory).1 ≠ success ∧
      (call passing start n body memory).2 = memory
  returns : ∀ passing start n body memory after, admits passing start n = true →
    body (passing.given zero memory start n) = .ok () after →
      call passing start n body memory = (success, passing.back memory start after)
  faults : ∀ passing start n body memory exit after, admits passing start n = true →
    body (passing.given zero memory start n) = .error exit after →
      (call passing start n body memory).1 ≠ success ∧
        (call passing start n body memory).2 = passing.left memory start after

def copying (success failure : Status) (differ : failure ≠ success) (zero : Cell)
    (admits : Passing → Nat → Nat → Bool) : Gate Fault success zero where
  admits := admits
  call passing start n body memory :=
    if admits passing start n = false then (failure, memory)
    else match body (passing.given zero memory start n) with
      | .ok _ after => (success, passing.back memory start after)
      | .error _ after => (failure, passing.left memory start after)
  turnsDown passing start n body memory down := by
    rw [if_pos down]
    exact ⟨differ, rfl⟩
  returns passing start n body memory after admitted ran := by
    rw [if_neg (by simp [admitted]), ran]
  faults passing start n body memory exit after admitted ran := by
    rw [if_neg (by simp [admitted]), ran]
    exact ⟨differ, rfl⟩

section Calls

variable {success : Status} {zero : Cell} (gate : Gate Fault success zero) (passing : Passing)
  (start n : Nat) (body : Breakable Fault (List Cell) Unit) (memory : Memory Cell)

theorem call_cases :
    (gate.admits passing start n = false ∧ (gate.call passing start n body memory).1 ≠ success ∧
      (gate.call passing start n body memory).2 = memory) ∨
    (gate.admits passing start n = true ∧
      ∃ after, body (passing.given zero memory start n) = .ok () after ∧
        gate.call passing start n body memory = (success, passing.back memory start after)) ∨
    (gate.admits passing start n = true ∧
      ∃ exit after, body (passing.given zero memory start n) = .error exit after ∧
        (gate.call passing start n body memory).1 ≠ success ∧
        (gate.call passing start n body memory).2 = passing.left memory start after) := by
  cases admitted : gate.admits passing start n with
  | false => exact Or.inl ⟨rfl, gate.turnsDown _ _ _ _ _ admitted⟩
  | true =>
      cases ran : body (passing.given zero memory start n) with
      | ok value after =>
          exact Or.inr (Or.inl ⟨rfl, after, rfl, gate.returns _ _ _ _ _ _ admitted ran⟩)
      | error exit after =>
          exact Or.inr (Or.inr ⟨rfl, exit, after, rfl, gate.faults _ _ _ _ _ _ _ admitted ran⟩)

theorem call_success_iff :
    (gate.call passing start n body memory).1 = success ↔ gate.admits passing start n = true ∧
      ∃ after, body (passing.given zero memory start n) = .ok () after := by
  rcases call_cases gate passing start n body memory with
    ⟨down, failed, _⟩ | ⟨admitted, after, ran, called⟩ | ⟨_, exit, after, ran, failed, _⟩
  · rw [down]
    exact iff_of_false failed fun both => Bool.false_ne_true both.1
  · rw [called]
    exact iff_of_true rfl ⟨admitted, after, ran⟩
  · refine iff_of_false failed ?_
    rintro ⟨_, other, returned⟩
    cases ran.symm.trans returned

theorem call_frame (keeps : KeepsLength body) (address : Nat)
    (outside : address < start ∨ start + n ≤ address) :
    (gate.call passing start n body memory).2 address = memory address := by
  have placed : ∀ after, last (body (passing.given zero memory start n)) = after →
      place memory start after address = memory address := by
    intro after ended
    have length := keeps _ (passing.given zero memory start n) rfl
    rw [ended, passing.given_length] at length
    exact place_outside _ _ _ _ (by omega)
  rcases call_cases gate passing start n body memory with
    ⟨_, _, same⟩ | ⟨_, after, ran, called⟩ | ⟨_, exit, after, ran, _, called⟩
  · rw [same]
  · have there := placed after (by rw [ran]; rfl)
    rw [called]
    cases passing with
    | copyIn => rfl
    | direct | copyOut | copyInOut => exact there
  · have there := placed after (by rw [ran]; rfl)
    rw [called]
    cases passing with
    | direct => exact there
    | copyIn | copyOut | copyInOut => rfl

theorem call_copyIn : (gate.call .copyIn start n body memory).2 = memory := by
  rcases call_cases gate .copyIn start n body memory with
    ⟨_, _, same⟩ | ⟨_, after, _, called⟩ | ⟨_, exit, after, _, _, called⟩
  · exact same
  · rw [called]
    rfl
  · exact called

theorem call_failed (copied : passing ≠ .direct)
    (failed : (gate.call passing start n body memory).1 ≠ success) :
    (gate.call passing start n body memory).2 = memory := by
  rcases call_cases gate passing start n body memory with
    ⟨_, _, same⟩ | ⟨_, after, _, called⟩ | ⟨_, exit, after, _, _, called⟩
  · exact same
  · rw [called] at failed
    exact (failed rfl).elim
  · rw [called]
    cases passing with
    | direct => exact (copied rfl).elim
    | copyIn | copyOut | copyInOut => rfl

example : ∀ passing, ((copying 0 1 Nat.one_ne_zero 0 fun _ _ _ => true : Gate Unit 0 0).call passing
    5 2 (modify (·.set 0 9) >>= fun _ => faultWith ()) id).2 5 =
      if passing = .direct then 9 else 5 := by
  intro passing
  cases passing <;> rfl

/-- What comes back from a call that succeeds is what the body has left in its buffer. -/
theorem call_returned (keeps : KeepsLength body) (wanted : passing ≠ .copyIn)
    (succeeded : (gate.call passing start n body memory).1 = success) :
    body (passing.given zero memory start n) =
      .ok () (window (gate.call passing start n body memory).2 start n) := by
  rcases call_cases gate passing start n body memory with
    ⟨_, failed, _⟩ | ⟨_, after, ran, called⟩ | ⟨_, exit, after, _, failed, _⟩
  · exact (failed succeeded).elim
  · have length := keeps _ (passing.given zero memory start n) rfl
    rw [ran, passing.given_length] at length
    have placed : window (place memory start after) start n = after := by
      have same := window_place memory start after
      rwa [show after.length = n from length] at same
    rw [called, ran]
    cases passing with
    | copyIn => exact (wanted rfl).elim
    | direct | copyOut | copyInOut => exact congrArg (EStateM.Result.ok ()) placed.symm
  · exact (failed succeeded).elim

/-- What the body does to the buffer itself is seen, returned or not. -/
theorem call_direct (keeps : KeepsLength body) (admitted : gate.admits .direct start n = true) :
    window (gate.call .direct start n body memory).2 start n =
      last (body (window memory start n)) := by
  have length := keeps _ (window memory start n) rfl
  rw [window_length] at length
  have placed := window_place memory start (last (body (window memory start n)))
  rw [length] at placed
  rcases call_cases gate .direct start n body memory with
    ⟨down, _⟩ | ⟨_, after, ran, called⟩ | ⟨_, exit, after, ran, _, called⟩
  · rw [admitted] at down
    cases down
  · change body (window memory start n) = _ at ran
    rw [ran] at placed ⊢
    rw [called]
    exact placed
  · change body (window memory start n) = _ at ran
    rw [ran] at placed ⊢
    rw [called]
    exact placed

end Calls

end SgxExperiments.CopiedBuffer
