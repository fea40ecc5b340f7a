import SgxExperiments.BlockSimulation

/-!
What a block keeps however it ends: a predicate that its parts keep, whether they
go on or not, is kept by the whole.
-/

namespace SgxExperiments.BreakableBlock

variable {Fault State α β : Type}

def Preserves (Inv : State → Prop) (block : Breakable Fault State α) : Prop :=
  ∀ state, Inv state → Inv (last (block state))

variable {Inv : State → Prop}

theorem preserves_pure (value : α) : Preserves Inv (pure value : Breakable Fault State α) :=
  fun _ => id

theorem preserves_fault (cause : Fault) :
    Preserves Inv (faultWith cause : Breakable Fault State α) :=
  fun _ => id

theorem preserves_modify (change : State → State) (keeps : ∀ state, Inv state → Inv (change state)) :
    Preserves Inv (modify change : Breakable Fault State PUnit) :=
  keeps

theorem preserves_leaveWith (change : State → State)
    (keeps : ∀ state, Inv state → Inv (change state)) :
    Preserves Inv (leaveWith change : Breakable Fault State α) :=
  keeps

/-- What the first part has brought about and the rest keeps. -/
theorem last_bind {first : Breakable Fault State α} {rest : α → Breakable Fault State β}
    (state : State) (begins : Inv (last (first state)))
    (restKeeps : ∀ value, Preserves Inv (rest value)) : Inv (last ((first >>= rest) state)) := by
  cases ran : first state with
  | ok value middle =>
      rw [ran] at begins
      rw [bind_of_ok first rest state middle value ran]
      exact restKeeps value middle begins
  | error exit after =>
      rw [ran] at begins
      rw [bind_of_error first rest state after exit ran]
      exact begins

theorem preserves_bind {first : Breakable Fault State α} {rest : α → Breakable Fault State β}
    (keeps : Preserves Inv first) (restKeeps : ∀ value, Preserves Inv (rest value)) :
    Preserves Inv (first >>= rest) :=
  fun state holds => last_bind state (keeps state holds) restKeeps

theorem preserves_get_bind {rest : State → Breakable Fault State β}
    (restKeeps : ∀ value, Preserves Inv (rest value)) : Preserves Inv (get >>= rest) :=
  fun state => restKeeps state state

theorem preserves_ite {condition : Prop} [Decidable condition] {yes no : Breakable Fault State α}
    (yesKeeps : Preserves Inv yes) (noKeeps : Preserves Inv no) :
    Preserves Inv (if condition then yes else no) := by
  split
  · exact yesKeeps
  · exact noKeeps

theorem preserves_guard {condition : Prop} [Decidable condition] {way : Breakable Fault State PUnit}
    {rest : PUnit → Breakable Fault State β} (keeps : Preserves Inv way)
    (restKeeps : Preserves Inv (rest ⟨⟩)) :
    Preserves Inv (if condition then way >>= rest else rest ⟨⟩) :=
  preserves_ite (preserves_bind keeps fun _ => restKeeps) restKeeps

theorem preserves_retryWhile {attempt : Nat → Breakable Fault State Bool}
    (keeps : ∀ k, Preserves Inv (attempt k)) (retries k : Nat) :
    Preserves Inv (retryWhile attempt retries k) := by
  induction retries generalizing k with
  | zero => exact preserves_bind (keeps k) fun _ => preserves_pure ()
  | succ retries ih =>
      exact preserves_bind (keeps k) fun _ => preserves_ite (ih (k + 1)) (preserves_pure ())

def Keeps {γ : Type} (reading : State → γ) (block : Breakable Fault State α) : Prop :=
  ∀ value, Preserves (fun state => reading state = value) block

theorem keeps_modify {γ : Type} {reading : State → γ} (change : State → State)
    (same : ∀ state, reading (change state) = reading state) :
    Keeps reading (modify change : Breakable Fault State PUnit) :=
  fun _ => preserves_modify change fun state => (same state).trans

theorem preserves_within {Part γ : Type} {reading : Part → γ} (part : State → Part)
    (put : Part → State → State) (block : Breakable Empty Part α) (keeps : Keeps reading block)
    (kept : ∀ state piece, Inv state → reading piece = reading (part state) → Inv (put piece state)) :
    Preserves Inv (within part put block : Breakable Fault State α) := by
  intro state holds
  have same := keeps (reading (part state)) (part state) rfl
  unfold within
  cases ran : block (part state) with
  | ok value piece =>
      rw [ran] at same
      exact kept state piece holds same
  | error exit piece =>
      rw [ran] at same
      exact kept state piece holds same

end SgxExperiments.BreakableBlock
