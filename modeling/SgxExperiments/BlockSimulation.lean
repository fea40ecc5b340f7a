import SgxExperiments.BreakableBlock

/-!
Two levels of one breakable block. The concrete one runs on a larger state, of
which the abstract state is a part; it may fault, the abstract one does not. A
simulation says that it does not fault either, and goes on or leaves when the
abstract one does, with the same part.
-/

namespace SgxExperiments.BreakableBlock

variable {Fault Whole Part α β : Type}

def within (part : Whole → Part) (put : Part → Whole → Whole) (block : Breakable Empty Part α) :
    Breakable Fault Whole α := fun whole =>
  match block (part whole) with
  | .ok value after => .ok value (put after whole)
  | .error _ after => .error .leave (put after whole)

/-- From a state with `Before`, the concrete block ends as the abstract one does,
with `After` when it goes on and with `Left` when it leaves. -/
def Simulates (part : Whole → Part) (Before : Whole → Prop) (concrete : Breakable Fault Whole α)
    (abstract : Breakable Empty Part α) (After Left : Whole → Prop) : Prop :=
  ∀ whole, Before whole → match abstract (part whole) with
    | .ok value after =>
        ∃ ended, concrete whole = .ok value ended ∧ part ended = after ∧ After ended
    | .error _ after =>
        ∃ ended, concrete whole = .error .leave ended ∧ part ended = after ∧ Left ended

variable {part : Whole → Part} {Before After Left : Whole → Prop}

theorem simulates_pure (value : α) (holds : ∀ whole, Before whole → After whole) :
    Simulates part Before (pure value : Breakable Fault Whole α) (pure value) After Left :=
  fun whole before => ⟨whole, rfl, rfl, holds whole before⟩

theorem simulates_leaving {concrete : Breakable Fault Whole α} {abstract : Breakable Empty Part α}
    (leaves : ∀ whole, Before whole → ∃ ended, concrete whole = .error .leave ended ∧
      abstract (part whole) = .error .leave (part ended) ∧ Left ended) :
    Simulates part Before concrete abstract After Left := by
  intro whole before
  obtain ⟨ended, left, alike, holds⟩ := leaves whole before
  rw [alike]
  exact ⟨ended, left, rfl, holds⟩

theorem simulates_modify (concrete : Breakable Fault Whole PUnit) (abstract : Part → Part)
    (runs : ∀ whole, Before whole → ∃ ended, concrete whole = .ok ⟨⟩ ended ∧
      part ended = abstract (part whole) ∧ After ended) :
    Simulates part Before concrete (modify abstract) After Left :=
  runs

theorem simulates_bind {concrete : Breakable Fault Whole α} {abstract : Breakable Empty Part α}
    {concreteRest : α → Breakable Fault Whole β} {abstractRest : α → Breakable Empty Part β}
    (Between : Whole → Prop)
    (first : Simulates part Before concrete abstract Between Left)
    (rest : ∀ value, Simulates part Between (concreteRest value) (abstractRest value) After Left) :
    Simulates part Before (concrete >>= concreteRest) (abstract >>= abstractRest) After Left := by
  intro whole before
  have step := first whole before
  rw [bind_run abstract]
  cases ran : abstract (part whole) with
  | ok value after =>
      rw [ran] at step
      obtain ⟨middle, went, same, between⟩ := step
      have more := rest value middle between
      rw [same] at more
      rwa [bind_of_ok concrete concreteRest whole middle value went]
  | error exit after =>
      rw [ran] at step
      obtain ⟨ended, left, same, holds⟩ := step
      exact ⟨ended, bind_of_error concrete concreteRest whole ended .leave left, same, holds⟩

theorem simulates_get_bind {concreteRest : Whole → Breakable Fault Whole β}
    {abstractRest : Part → Breakable Empty Part β}
    (rest : ∀ value, Simulates part (fun whole => Before whole ∧ whole = value)
      (concreteRest value) (abstractRest (part value)) After Left) :
    Simulates part Before (get >>= concreteRest) (get >>= abstractRest) After Left :=
  fun whole before => rest whole whole ⟨before, rfl⟩

theorem simulates_stutter {γ : Type} {first : Breakable Fault Whole γ}
    {concreteRest : γ → Breakable Fault Whole α} {abstract : Breakable Empty Part α}
    (Given : γ → Whole → Prop)
    (runs : ∀ whole, Before whole → ∃ value ended, first whole = .ok value ended ∧
      part ended = part whole ∧ Given value ended)
    (rest : ∀ value, Simulates part (Given value) (concreteRest value) abstract After Left) :
    Simulates part Before (first >>= concreteRest) abstract After Left := by
  intro whole before
  obtain ⟨value, middle, went, same, given⟩ := runs whole before
  have more := rest value middle given
  rw [same] at more
  rwa [bind_of_ok first concreteRest whole middle value went]

/-- The two conditions need only agree where the block can start. -/
theorem simulates_ite {condition abstractCondition : Prop} [Decidable condition]
    [Decidable abstractCondition] {yes no : Breakable Fault Whole α}
    {abstractYes abstractNo : Breakable Empty Part α}
    (agree : ∀ whole, Before whole → (condition ↔ abstractCondition))
    (yesSimulates : condition → Simulates part Before yes abstractYes After Left)
    (noSimulates : ¬ condition → Simulates part Before no abstractNo After Left) :
    Simulates part Before (if condition then yes else no)
      (if abstractCondition then abstractYes else abstractNo) After Left := by
  intro whole before
  by_cases decided : condition
  · rw [if_pos decided, if_pos ((agree whole before).mp decided)]
    exact yesSimulates decided whole before
  · rw [if_neg decided, if_neg fun holds => decided ((agree whole before).mpr holds)]
    exact noSimulates decided whole before

theorem simulates_weaken {concrete : Breakable Fault Whole α} {abstract : Breakable Empty Part α}
    (Needed Given GivenLeft : Whole → Prop)
    (simulates : Simulates part Needed concrete abstract Given GivenLeft)
    (before : ∀ whole, Before whole → Needed whole) (after : ∀ whole, Given whole → After whole)
    (left : ∀ whole, GivenLeft whole → Left whole) :
    Simulates part Before concrete abstract After Left := by
  intro whole holds
  have ends := simulates whole (before whole holds)
  cases ran : abstract (part whole) with
  | ok value last =>
      rw [ran] at ends
      exact ends.imp fun ended facts => ⟨facts.1, facts.2.1, after ended facts.2.2⟩
  | error exit last =>
      rw [ran] at ends
      exact ends.imp fun ended facts => ⟨facts.1, facts.2.1, left ended facts.2.2⟩

section Abstract

variable {concrete : Breakable Fault Whole α} {abstract : Breakable Empty Part α}
  {Begins Goes AbstractLeft : Part → Prop}

theorem simulates_ends {fact : Prop} (simulates : Simulates part Before concrete abstract After Left)
    (ends : Ends Begins abstract (fun _ state => Goes state ∧ fact) AbstractLeft) :
    Simulates part (fun whole => Before whole ∧ Begins (part whole)) concrete abstract
      (fun whole => (After whole ∧ Goes (part whole)) ∧ fact) Left := by
  rintro whole ⟨before, begins⟩
  have step := simulates whole before
  have known := ends (part whole) begins
  cases ran : abstract (part whole) with
  | ok value last =>
      rw [ran] at step known
      obtain ⟨ended, went, rfl, after⟩ := step
      exact ⟨ended, went, rfl, ⟨after, known.1⟩, known.2⟩
  | error exit last =>
      rw [ran] at step
      exact step

theorem simulates_goesOn (simulates : Simulates part Before concrete abstract After Left)
    (ends : Ends Begins abstract (fun _ => Goes) AbstractLeft) (stays : ∀ state, ¬ AbstractLeft state)
    (whole : Whole) (before : Before whole) (begins : Begins (part whole)) :
    ∃ value ended, concrete whole = .ok value ended ∧ After ended ∧ Goes (part ended) := by
  have step := simulates whole before
  have known := ends (part whole) begins
  cases ran : abstract (part whole) with
  | ok value last =>
      rw [ran] at step known
      obtain ⟨ended, went, rfl, after⟩ := step
      exact ⟨value, ended, went, after, known⟩
  | error exit last =>
      rw [ran] at known
      exact (stays last known).elim

theorem simulates_given {fact : Prop}
    (simulates : fact → Simulates part Before concrete abstract After Left) :
    Simulates part (fun whole => Before whole ∧ fact) concrete abstract After Left :=
  fun whole holds => simulates holds.2 whole holds.1

end Abstract

/-- A block that only concerns the part keeps what is said about the rest. -/
theorem simulates_within (put : Part → Whole → Whole) (block : Breakable Empty Part α)
    (law : ∀ after whole, part (put after whole) = after)
    (kept : ∀ after whole, Before whole → Before (put after whole)) :
    Simulates part Before (within part put block : Breakable Fault Whole α) block Before Before := by
  intro whole before
  unfold within
  cases block (part whole) with
  | ok value after => exact ⟨_, rfl, law after whole, kept after whole before⟩
  | error exit after => exact ⟨_, rfl, law after whole, kept after whole before⟩

theorem simulates_retryWhile {concrete : Nat → Breakable Fault Whole Bool}
    {abstract : Nat → Breakable Empty Part Bool} (limit : Nat)
    (attempt : ∀ k, Simulates part Before (concrete k) (abstract k) Before Left) :
    Simulates part Before (retryWhile concrete limit 0) (retryWhile abstract limit 0) Before Left := by
  have fromAttempt : ∀ retries k,
      Simulates part Before (retryWhile concrete retries k) (retryWhile abstract retries k) Before
        Left := by
    intro retries
    induction retries with
    | zero =>
        intro k
        exact simulates_bind _ (attempt k) fun _ => simulates_pure _ fun _ => id
    | succ retries ih =>
        intro k
        apply simulates_bind _ (attempt k)
        intro again
        cases again with
        | false => exact simulates_pure _ fun _ => id
        | true => exact ih (k + 1)
  exact fromAttempt limit 0

end SgxExperiments.BreakableBlock
