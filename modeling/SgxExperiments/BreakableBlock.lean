/-!
Blocks of statements that can be left early: `break` out of a
`do { … } while (0)`, `goto` to a clean-up label, or the end of the process at
a faulting access. Whatever the block has done to the state by then stays done.
-/

namespace SgxExperiments.BreakableBlock

inductive Exit (Fault : Type) where
  | leave
  | fault (cause : Fault)

abbrev Breakable (Fault State : Type) := EStateM (Exit Fault) State

variable {Fault State α β : Type}

def leaveWith (change : State → State) : Breakable Fault State α :=
  fun state => .error .leave (change state)

def faultWith (cause : Fault) : Breakable Fault State α :=
  fun state => .error (.fault cause) state

def conclude (rest : State → β) : EStateM.Result (Exit Fault) State α → Except Fault β
  | .ok _ state => .ok (rest state)
  | .error .leave state => .ok (rest state)
  | .error (.fault cause) _ => .error cause

/-- The state at the end of a block, in whatever way it ends. -/
def last : EStateM.Result (Exit Fault) State α → State
  | .ok _ after => after
  | .error _ after => after

theorem conclude_ok (rest : State → β) (ended : EStateM.Result (Exit Fault) State α) (result : β)
    (concluded : conclude rest ended = .ok result) : result = rest (last ended) := by
  rcases ended with ⟨_, after⟩ | ⟨_ | cause, after⟩
  · exact (Except.ok.inj concluded).symm
  · exact (Except.ok.inj concluded).symm
  · cases concluded

@[simp] theorem modify_run (change : State → State) (state : State) :
    (modify change : Breakable Fault State PUnit) state = .ok ⟨⟩ (change state) := rfl

@[simp] theorem get_run (state : State) :
    (get : Breakable Fault State State) state = .ok state state := rfl

@[simp] theorem map_get_run (reads : State → α) (state : State) :
    (reads <$> (get : Breakable Fault State State)) state = .ok (reads state) state := rfl

@[simp] theorem pure_run (value : α) (state : State) :
    (pure value : Breakable Fault State α) state = .ok value state := rfl

@[simp] theorem leaveWith_run (change : State → State) (state : State) :
    (leaveWith change : Breakable Fault State α) state = .error .leave (change state) := rfl

@[simp] theorem faultWith_run (cause : Fault) (state : State) :
    (faultWith cause : Breakable Fault State α) state = .error (.fault cause) state := rfl

@[simp] theorem leaveWith_map (result : α → β) (change : State → State) :
    result <$> (leaveWith change : Breakable Fault State α) = leaveWith change := rfl

theorem bind_run (first : Breakable Fault State α) (rest : α → Breakable Fault State β)
    (state : State) :
    (first >>= rest) state = match first state with
      | .ok value middle => rest value middle
      | .error exit middle => .error exit middle := by
  change EStateM.bind first rest state = _
  unfold EStateM.bind
  cases first state <;> rfl

theorem bind_of_ok (first : Breakable Fault State α) (rest : α → Breakable Fault State β)
    (state middle : State) (value : α) (went : first state = .ok value middle) :
    (first >>= rest) state = rest value middle := by
  rw [bind_run, went]

theorem bind_of_error (first : Breakable Fault State α) (rest : α → Breakable Fault State β)
    (state middle : State) (exit : Exit Fault) (left : first state = .error exit middle) :
    (first >>= rest) state = .error exit middle := by
  rw [bind_run, left]

section Ends

/-- From a state with `Before`, a block that goes on does so with `After`, and one
that does not stops with `Left`. -/
def Ends (Before : State → Prop) (block : Breakable Fault State α)
    (After : α → State → Prop) (Left : State → Prop) : Prop :=
  ∀ state, Before state → match block state with
    | .ok value after => After value after
    | .error _ after => Left after

variable {Before Middle Left : State → Prop} {After : α → State → Prop}

theorem ends_pure (value : α) (holds : ∀ state, Before state → After value state) :
    Ends Before (pure value : Breakable Fault State α) After Left :=
  holds

theorem ends_get {After : State → State → Prop} (holds : ∀ state, Before state → After state state) :
    Ends Before (get : Breakable Fault State State) After Left :=
  holds

theorem ends_modify {After : PUnit → State → Prop} (change : State → State)
    (holds : ∀ state, Before state → After ⟨⟩ (change state)) :
    Ends Before (modify change : Breakable Fault State PUnit) After Left :=
  holds

theorem ends_leaveWith (change : State → State)
    (holds : ∀ state, Before state → Left (change state)) :
    Ends Before (leaveWith change : Breakable Fault State α) After Left :=
  holds

theorem ends_bind {first : Breakable Fault State α} {rest : α → Breakable Fault State β}
    {After : β → State → Prop} (Between : α → State → Prop)
    (firstEnds : Ends Before first Between Left)
    (restEnds : ∀ value, Ends (Between value) (rest value) After Left) :
    Ends Before (first >>= rest) After Left := by
  intro state holds
  have middle := firstEnds state holds
  rw [bind_run]
  cases ran : first state with
  | ok value after =>
      rw [ran] at middle
      exact restEnds value after middle
  | error exit after =>
      rw [ran] at middle
      exact middle

theorem ends_leaveWith_bind {rest : α → Breakable Fault State β} {After : β → State → Prop}
    (change : State → State) (holds : ∀ state, Before state → Left (change state)) :
    Ends Before (leaveWith change >>= rest) After Left :=
  ends_bind (fun _ _ => False) (ends_leaveWith change holds) fun _ _ impossible => impossible.elim

theorem ends_modify_bind {rest : PUnit → Breakable Fault State β} {After : β → State → Prop}
    (change : State → State) (Between : State → Prop)
    (holds : ∀ state, Before state → Between (change state))
    (restEnds : Ends Between (rest ⟨⟩) After Left) :
    Ends Before (modify change >>= rest) After Left :=
  ends_bind (fun _ => Between) (ends_modify change holds) fun _ => restEnds

theorem ends_get_bind {rest : State → Breakable Fault State β} {After : β → State → Prop}
    (restEnds : ∀ value, Ends (fun state => Before state ∧ state = value) (rest value) After Left) :
    Ends Before (get >>= rest) After Left :=
  ends_bind (fun value state => Before state ∧ state = value)
    (ends_get fun _ holds => ⟨holds, rfl⟩) restEnds

theorem ends_ite {condition : Prop} [Decidable condition] {yes no : Breakable Fault State α}
    (yesEnds : condition → Ends Before yes After Left)
    (noEnds : ¬ condition → Ends Before no After Left) :
    Ends Before (if condition then yes else no) After Left := by
  by_cases decided : condition
  · rw [if_pos decided]
    exact yesEnds decided
  · rw [if_neg decided]
    exact noEnds decided

theorem ends_weaken {block : Breakable Fault State α} (Needed : State → Prop)
    (Given : α → State → Prop) (GivenLeft : State → Prop) (ends : Ends Needed block Given GivenLeft)
    (before : ∀ state, Before state → Needed state)
    (after : ∀ value state, Given value state → After value state)
    (left : ∀ state, GivenLeft state → Left state) :
    Ends Before block After Left := by
  intro state holds
  have given := ends state (before state holds)
  cases ran : block state with
  | ok value last =>
      rw [ran] at given
      exact after value last given
  | error exit last =>
      rw [ran] at given
      exact left last given

theorem ends_seq {first : Breakable Fault State α} {rest : α → Breakable Fault State β}
    {After : β → State → Prop} (Between : α → State → Prop) (FirstLeft : State → Prop)
    (firstEnds : Ends Before first Between FirstLeft)
    (left : ∀ state, FirstLeft state → Left state)
    (restEnds : ∀ value, Ends (Between value) (rest value) After Left) :
    Ends Before (first >>= rest) After Left :=
  ends_bind Between (ends_weaken Before Between FirstLeft firstEnds (fun _ => id) (fun _ _ => id) left)
    restEnds

theorem ends_given {block : Breakable Fault State α} {fact : Prop}
    (ends : fact → Ends Before block After Left) :
    Ends (fun state => Before state ∧ fact) block After Left :=
  fun state holds => ends holds.2 state holds.1

end Ends

section Retry

/-- `do { … } while (again && retries--);`, the attempts numbered from `k` on. -/
def retryWhile (attempt : Nat → Breakable Fault State Bool) : Nat → Nat → Breakable Fault State Unit
  | 0, k => do
      let _ ← attempt k
      pure ()
  | retries + 1, k => do
      let again ← attempt k
      if again then retryWhile attempt retries (k + 1) else pure ()

structure LastAttempt (again : Nat → Prop) (limit k : Nat) : Prop where
  inLimit : k ≤ limit
  wanted : ∀ j < k, again j
  stops : k < limit → ¬ again k

theorem lastAttempt_unique {again : Nat → Prop} {limit k j : Nat}
    (last : LastAttempt again limit k) (other : LastAttempt again limit j) : k = j := by
  rcases Nat.lt_trichotomy k j with before | same | after
  · exact (last.stops (Nat.lt_of_lt_of_le before other.inLimit) (other.wanted k before)).elim
  · exact same
  · exact (other.stops (Nat.lt_of_lt_of_le after last.inLimit) (last.wanted j after)).elim

theorem le_lastAttempt {again : Nat → Prop} {limit k j : Nat} (last : LastAttempt again limit k)
    (inLimit : j ≤ limit) (wanted : ∀ i < j, again i) : j ≤ k := by
  apply Nat.le_of_not_lt
  intro after
  exact last.stops (Nat.lt_of_lt_of_le after inLimit) (wanted k after)

/-- `Inv k` after `k` attempts carries over to the state after the last one. -/
theorem ends_retryWhile {attempt : Nat → Breakable Fault State Bool} {Left : State → Prop}
    (Inv : Nat → State → Prop) (again : Nat → Prop) (limit : Nat)
    (made : ∀ k, k ≤ limit → (∀ j < k, again j) →
      Ends (Inv k) (attempt k) (fun wanted state => Inv (k + 1) state ∧ (wanted = true ↔ again k))
        Left) :
    Ends (Inv 0) (retryWhile attempt limit 0)
      (fun _ state => ∃ k, LastAttempt again limit k ∧ Inv (k + 1) state) Left := by
  have fromAttempt : ∀ retries k, k + retries = limit → (∀ j < k, again j) →
      Ends (Inv k) (retryWhile attempt retries k)
        (fun _ state => ∃ k, LastAttempt again limit k ∧ Inv (k + 1) state) Left := by
    intro retries
    induction retries with
    | zero =>
        intro k reached wanted
        apply ends_bind _ (made k (by omega) wanted)
        intro last
        apply ends_pure
        rintro state ⟨holds, _⟩
        exact ⟨k, ⟨by omega, wanted, by omega⟩, holds⟩
    | succ retries ih =>
        intro k reached wanted
        apply ends_bind _ (made k (by omega) wanted)
        intro more
        cases more with
        | false =>
            apply ends_pure
            rintro state ⟨holds, stops⟩
            exact ⟨k, ⟨by omega, wanted, fun _ asked => Bool.false_ne_true (stops.mpr asked)⟩, holds⟩
        | true =>
            rintro state ⟨holds, asks⟩
            apply ih (k + 1) (by omega)
            · intro j earlier
              rcases Nat.lt_succ_iff_lt_or_eq.mp earlier with before | rfl
              · exact wanted j before
              · exact asks.mp rfl
            · exact holds
  exact fromAttempt limit 0 (Nat.zero_add limit) (fun j none => (Nat.not_lt_zero j none).elim)

end Retry

end SgxExperiments.BreakableBlock
