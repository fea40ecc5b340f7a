import SgxExperiments.CString

/-!
`printf` of the enclave and the OCALL it displays its buffer with. The format and its
arguments are given by the bytes they come to.
-/

namespace SgxExperiments.EnclavePrint

open CString

structure Printed where
  displayed : List UInt8
  returned : Int
  deriving DecidableEq

def ocallPrintString (str : List UInt8) : Option (List UInt8) := cString str

/-- The generated stub copies the string out with its NUL, when it gets the room for it. -/
def callPrintString (admits : Nat → Bool) (buf : List UInt8) : Option (List UInt8) := do
  let len ← strlen buf
  if admits (len + 1) then ocallPrintString (buf.take (len + 1)) else pure []

/-- The status of the OCALL is not looked at. -/
def printf (bufsiz : Nat) (admits : Nat → Bool) (output : List UInt8) : Option Printed := do
  let buf := vsnprintf (List.replicate bufsiz 0) output
  let displayed ← callPrintString admits buf
  let len ← strnlen buf (bufsiz - 1)
  pure ⟨displayed, (Int32.ofNat len).toInt + 1⟩

variable (bufsiz : Nat) (output : List UInt8)

def shownPart : List UInt8 := upToNul (output.take (bufsiz - 1))

theorem shownPart_length (positive : 0 < bufsiz) : (shownPart bufsiz output).length < bufsiz := by
  have shorter := (List.takeWhile_prefix (fun c : UInt8 => c ≠ 0) (l := output.take (bufsiz - 1))).length_le
  rw [List.length_take] at shorter
  rw [shownPart, upToNul]
  omega

theorem shownPart_eq_self (positive : 0 < bufsiz) :
    shownPart bufsiz output = output ↔ (0 : UInt8) ∉ output ∧ output.length < bufsiz := by
  constructor
  · intro whole
    have room := shownPart_length bufsiz output positive
    rw [whole] at room
    refine ⟨?_, room⟩
    rw [shownPart, List.take_of_length_le (by omega)] at whole
    exact (upToNul_eq_self output).mp whole
  · rintro ⟨text, room⟩
    rw [shownPart, List.take_of_length_le (by omega)]
    exact (upToNul_eq_self output).mpr text

theorem callPrintString_nul (admits : Nat → Bool) (s rest : List UInt8) :
    callPrintString admits (s ++ 0 :: rest) =
      some (if admits ((upToNul s).length + 1) then upToNul s else []) := by
  rw [callPrintString, strlen_nul]
  change (if admits ((upToNul s).length + 1) then _ else _) = _
  split
  · rw [take_upToNul]
    exact cString_text (upToNul s) [] (upToNul_text s)
  · rfl

/-- For every output, and `BUFSIZ` an `int`: the terminal gets what the buffer has room
for, up to a NUL, or nothing when the OCALL is turned down; and `printf` returns the
length of the former and one, turned down or not. -/
theorem printf_exact (bufsiz : Nat) (positive : 0 < bufsiz) (small : bufsiz ≤ 0x7fffffff)
    (admits : Nat → Bool) (output : List UInt8) :
    printf bufsiz admits output = some
        ⟨if admits ((shownPart bufsiz output).length + 1) then shownPart bufsiz output else [],
          (shownPart bufsiz output).length + 1⟩ ∧
      (shownPart bufsiz output).length < bufsiz ∧
      (shownPart bufsiz output = output ↔ (0 : UInt8) ∉ output ∧ output.length < bufsiz) := by
  have short := shownPart_length bufsiz output positive
  refine ⟨?_, short, shownPart_eq_self bufsiz output positive⟩
  obtain ⟨room, rfl⟩ := Nat.exists_eq_succ_of_ne_zero positive.ne'
  have buffer : vsnprintf (List.replicate (room + 1) 0) output =
      output.take room ++ 0 :: (List.replicate (room + 1) 0).drop ((output.take room).length + 1) := by
    rw [vsnprintf, List.length_replicate]
  -- Its bound does not cut `strnlen` short, and the length fits the `int`.
  have fits : min room (shownPart (room + 1) output).length = (shownPart (room + 1) output).length :=
    Nat.min_eq_right (Nat.le_of_lt_succ short)
  have narrow : (Int32.ofNat (shownPart (room + 1) output).length).toInt =
      (shownPart (room + 1) output).length := Int32.toInt_ofNat_of_lt (by omega)
  rw [printf, buffer, callPrintString_nul, Nat.succ_sub_one, strnlen_nul]
  change some (Printed.mk _ ((Int32.ofNat (min room (shownPart (room + 1) output).length)).toInt + 1)) = _
  rw [fits, narrow]
  rfl

theorem printf_exact_cut :
    printf 4 (fun _ => true) [97, 98, 99, 100] = some ⟨[97, 98, 99], 4⟩ := by
  have cut : shownPart 4 [97, 98, 99, 100] = [97, 98, 99] := by decide
  have ran := (printf_exact 4 (by decide) (by decide) (fun _ => true) [97, 98, 99, 100]).1
  rw [cut] at ran
  exact ran

end SgxExperiments.EnclavePrint
