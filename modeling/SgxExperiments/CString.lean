import Mathlib.Data.List.TakeWhile

/-!
Strings as C has them: the bytes before the first NUL. A function that is given a
string without one reads past its end, and is then undefined here.
-/

namespace SgxExperiments.CString

def cString : List UInt8 → Option (List UInt8)
  | [] => none
  | c :: rest => if c = 0 then some [] else (cString rest).map (c :: ·)

def strlen (buffer : List UInt8) : Option Nat := (cString buffer).map List.length

def strnlen : List UInt8 → Nat → Option Nat
  | _, 0 => some 0
  | [], _ + 1 => none
  | c :: rest, maxlen + 1 => if c = 0 then some 0 else (strnlen rest maxlen).map (· + 1)

/-- The bytes that `strncpy` writes: `n` of them, NUL after the end of the source. -/
def copied : List UInt8 → Nat → Option (List UInt8)
  | _, 0 => some []
  | [], _ + 1 => none
  | c :: rest, n + 1 =>
      if c = 0 then some (List.replicate (n + 1) 0) else (copied rest n).map (c :: ·)

def strncpy (dest src : List UInt8) (n : Nat) : Option (List UInt8) :=
  if n ≤ dest.length then (copied src n).map (· ++ dest.drop n) else none

/-- `vsnprintf` on the whole of a buffer, when `output` is what the format comes to: as much
of it as fits with a NUL after it. -/
def vsnprintf (buf output : List UInt8) : List UInt8 :=
  match buf.length with
  | 0 => buf
  | room + 1 => output.take room ++ 0 :: buf.drop ((output.take room).length + 1)

variable (s : List UInt8) (rest dest : List UInt8)

def upToNul : List UInt8 := s.takeWhile (· ≠ 0)

theorem upToNul_nul : upToNul (0 :: s) = [] := List.takeWhile_cons_of_neg (by simp)

theorem upToNul_cons (c : UInt8) (other : c ≠ 0) : upToNul (c :: s) = c :: upToNul s :=
  List.takeWhile_cons_of_pos (decide_eq_true other)

theorem upToNul_eq_self : upToNul s = s ↔ (0 : UInt8) ∉ s := by
  rw [upToNul, List.takeWhile_eq_self_iff]
  constructor
  · intro others member
    exact of_decide_eq_true (others 0 member) rfl
  · intro absent c member
    exact decide_eq_true fun same => absent (same ▸ member)

theorem upToNul_text : (0 : UInt8) ∉ upToNul s := by
  intro member
  rw [upToNul] at member
  have other := List.mem_takeWhile_imp member
  exact of_decide_eq_true other rfl

theorem take_upToNul :
    (s ++ 0 :: rest).take ((upToNul s).length + 1) = upToNul s ++ [0] := by
  induction s with
  | nil => rfl
  | cons c s ih =>
      by_cases same : c = 0
      · subst same
        rw [upToNul_nul]
        rfl
      · rw [upToNul_cons s c same, List.cons_append, List.length_cons, List.take_succ_cons, ih]
        rfl

theorem cString_nul : cString (s ++ 0 :: rest) = some (upToNul s) := by
  induction s with
  | nil => rfl
  | cons c s ih =>
      by_cases same : c = 0
      · subst same
        rw [upToNul_nul]
        rfl
      · rw [List.cons_append, cString, if_neg same, ih, upToNul_cons s c same]
        rfl

theorem cString_text (text : (0 : UInt8) ∉ s) : cString (s ++ 0 :: rest) = some s := by
  rw [cString_nul, (upToNul_eq_self s).mpr text]

theorem strlen_nul : strlen (s ++ 0 :: rest) = some (upToNul s).length := by
  rw [strlen, cString_nul]
  rfl

theorem strlen_text (text : (0 : UInt8) ∉ s) : strlen (s ++ 0 :: rest) = some s.length := by
  rw [strlen_nul, (upToNul_eq_self s).mpr text]

theorem strnlen_nul (maxlen : Nat) :
    strnlen (s ++ 0 :: rest) maxlen = some (min maxlen (upToNul s).length) := by
  induction s generalizing maxlen with
  | nil =>
      cases maxlen with
      | zero => rfl
      | succ maxlen => exact congrArg some (Nat.min_zero _).symm
  | cons c s ih =>
      cases maxlen with
      | zero => exact congrArg some (Nat.zero_min _).symm
      | succ maxlen =>
          by_cases same : c = 0
          · subst same
            rw [upToNul_nul]
            exact congrArg some (Nat.min_zero _).symm
          · rw [List.cons_append, strnlen, if_neg same, ih, upToNul_cons s c same,
              List.length_cons, Nat.succ_min_succ]
            rfl

def padded (n : Nat) : List UInt8 := s.take n ++ List.replicate (n - s.length) 0

theorem copied_text (text : (0 : UInt8) ∉ s) (n : Nat) :
    copied (s ++ 0 :: rest) n = some (padded s n) := by
  induction s generalizing n with
  | nil =>
      cases n <;> rfl
  | cons c s ih =>
      obtain ⟨first, others⟩ := List.ne_and_not_mem_of_not_mem_cons text
      cases n with
      | zero => simp [copied, padded]
      | succ n =>
          rw [List.cons_append, copied, if_neg (Ne.symm first), ih others, padded, padded,
            List.take_succ_cons, List.length_cons, Nat.add_sub_add_right]
          rfl

theorem strncpy_text (text : (0 : UInt8) ∉ s) (n : Nat) (fits : n ≤ dest.length) :
    strncpy dest (s ++ 0 :: rest) n = some (padded s n ++ dest.drop n) := by
  rw [strncpy, if_pos fits, copied_text s rest text]
  rfl

theorem cString_padded (text : (0 : UInt8) ∉ s) (n : Nat) :
    cString (padded s n ++ 0 :: rest) = some (s.take n) := by
  have short : (0 : UInt8) ∉ s.take n := fun member => text (List.mem_of_mem_take member)
  rw [padded, List.append_assoc]
  cases fill : n - s.length with
  | zero => exact cString_text (s.take n) rest short
  | succ more =>
      rw [List.replicate_succ, List.cons_append]
      exact cString_text (s.take n) _ short

end SgxExperiments.CString
