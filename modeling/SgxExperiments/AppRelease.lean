import SgxExperiments.ExitStatus

/-!
What `main` releases. Release hangs on the variables at `CLEANUP`, which hold one
enclave, one context and one MSG3; the return statement releases nothing.
-/

namespace SgxExperiments.AttestationApp

/-- All that was acquired is released exactly once, a context before its enclave,
and no context is closed that was not opened. -/
structure ReleasesAll (events : List AppEvent) : Prop where
  enclaves : ∀ k, .created k ∈ events → events.count (.destroyed (some k)) = 1
  contexts : ∀ context enclave, .opened context enclave ∈ events →
    events.count (.closed context enclave) = 1 ∧
      [.closed context enclave, .destroyed enclave].Sublist events
  opened : ∀ context enclave, .closed context enclave ∈ events → .opened context enclave ∈ events
  buffers : ∀ resource, .obtained resource ∈ events → events.count (.freed resource) = 1

section Counts

theorem freeIf_count (held : Bool) (resource other : Resource) :
    (freeIf held other).count (.freed resource) = if other = resource ∧ held = true then 1 else 0 := by
  cases held with
  | false => simp [freeIf]
  | true => simp [freeIf, List.count_singleton]

theorem freeMsg3_count (pMsg3 : Option Nat) (resource : Resource) :
    (freeMsg3 pMsg3).count (.freed resource) =
      if ∃ k, pMsg3 = some k ∧ .msg3 k = resource then 1 else 0 := by
  cases pMsg3 with
  | none => simp [freeMsg3]
  | some k => simp [freeMsg3, List.count_singleton]

theorem frees_count (frame : AppFrame) (resource : Resource) :
    (frees frame).count (.freed resource) = if frame.holds resource then 1 else 0 := by
  simp only [frees, List.count_append, freeIf_count, freeMsg3_count]
  cases resource with
  | msg3 k => simp [AppFrame.holds]
  | _ =>
      simp [AppFrame.holds]
      congr

theorem frees_count_zero (frame : AppFrame) (event : AppEvent)
    (other : ∀ resource, event ≠ .freed resource) : (frees frame).count event = 0 := by
  rw [List.count_eq_zero]
  intro member
  obtain ⟨resource, same⟩ := frees_freed frame event member
  exact other resource same

theorem acquiring_count (frame : AppFrame) (acquiring : Acquiring frame) (event : AppEvent)
    (releasing : event.acquires = false) :
    (frame.events ++ releases frame).count event = (releases frame).count event := by
  have absent : event ∉ frame.events := by
    intro member
    rw [acquiring event member] at releasing
    cases releasing
  rw [List.count_append, List.count_eq_zero.mpr absent, Nat.zero_add]

theorem destroyed_count (frame : AppFrame) (enclave : EnclaveId) :
    (releases frame).count (.destroyed enclave) = if frame.enclaveId = enclave then 1 else 0 := by
  have freed := frees_count_zero frame (.destroyed enclave) fun _ same => nomatch same
  have closed : (closes frame).count (.destroyed enclave) = 0 := by
    rw [closes]
    split <;> simp
  simp [releases, List.count_append, List.count_cons, freed, closed]

theorem closed_count (frame : AppFrame) (context : UInt32) (enclave : EnclaveId) :
    (releases frame).count (.closed context enclave) =
      if context ≠ intMax ∧ frame.context = context ∧ frame.enclaveId = enclave then 1 else 0 := by
  have freed := frees_count_zero frame (.closed context enclave) fun _ same => nomatch same
  have closed : (closes frame).count (.closed context enclave) =
      if context ≠ intMax ∧ frame.context = context ∧ frame.enclaveId = enclave then 1 else 0 := by
    by_cases held : context ≠ intMax ∧ frame.context = context ∧ frame.enclaveId = enclave
    · obtain ⟨real, rfl, rfl⟩ := held
      simp [closes, real]
    · rw [if_neg held, List.count_eq_zero, closes]
      intro member
      split at member
      · rename_i marked
        cases List.mem_singleton.mp member
        exact held ⟨marked, rfl, rfl⟩
      · cases member
  simp [releases, List.count_append, freed, closed]

theorem freed_count (frame : AppFrame) (resource : Resource) :
    (releases frame).count (.freed resource) = if frame.holds resource then 1 else 0 := by
  have closed : (closes frame).count (.freed resource) = 0 := by
    rw [closes]
    split <;> simp
  simp [releases, List.count_append, frees_count, closed]

end Counts

theorem cleanup_releases_iff (frame : AppFrame) (acquiring : Acquiring frame) :
    ReleasesAll (frame.events ++ releases frame) ↔ EnclaveHeld frame ∧ BuffersHeld frame := by
  constructor
  · intro released
    refine ⟨⟨?_, ?_, ?_⟩, ?_⟩
    · intro k created
      have once := released.enclaves k ((acquired_before frame _ rfl).mpr created)
      rw [acquiring_count frame acquiring _ rfl, destroyed_count] at once
      simpa using once
    · intro context enclave opened
      have once := (released.contexts context enclave ((acquired_before frame _ rfl).mpr opened)).1
      rw [acquiring_count frame acquiring _ rfl, closed_count] at once
      simpa using once
    · intro marked
      apply (acquired_before frame _ rfl).mp
      apply released.opened
      apply List.mem_append_right
      rw [releases, closes, if_pos marked]
      exact List.mem_append_left _ (List.mem_singleton_self _)
    · intro resource obtained
      have once := released.buffers resource ((acquired_before frame _ rfl).mpr obtained)
      rw [acquiring_count frame acquiring _ rfl, freed_count] at once
      simpa using once
  · rintro ⟨enclaveHeld, buffersHeld⟩
    constructor
    · intro k created
      rw [acquired_before frame _ rfl] at created
      rw [acquiring_count frame acquiring _ rfl, destroyed_count, if_pos (enclaveHeld.enclave k created)]
    · intro context enclave opened
      rw [acquired_before frame _ rfl] at opened
      have held := enclaveHeld.context context enclave opened
      constructor
      · rw [acquiring_count frame acquiring _ rfl, closed_count, if_pos held]
      · obtain ⟨real, rfl, rfl⟩ := held
        apply List.sublist_append_of_sublist_right
        rw [releases, closes, if_pos real]
        exact List.sublist_append_left [_, _] (frees frame)
    · intro context enclave closed
      have counted := List.count_pos_iff.mpr closed
      rw [acquiring_count frame acquiring _ rfl, closed_count] at counted
      split at counted
      · rename_i held
        obtain ⟨real, rfl, rfl⟩ := held
        exact (acquired_before frame _ rfl).mpr (enclaveHeld.marked real)
      · cases counted
    · intro resource obtained
      rw [acquired_before frame _ rfl] at obtained
      rw [acquiring_count frame acquiring _ rfl, freed_count, if_pos (buffersHeld resource obtained)]

/-- The enclave and the buffers are all still known when `CLEANUP` is reached. -/
def AllTracked (calls : AppCalls) : Prop :=
  (Configured calls → EnclaveTracked calls) ∧ (Msg3Reached calls → Msg3Tracked calls)

/-- Everything is released exactly when some call fails for good and, of what was
acquired until then, nothing has been lost track of. -/
theorem main_releases_iff (calls : AppCalls) :
    ReleasesAll (main calls).events ↔ ¬ AllSucceed calls ∧ AllTracked calls := by
  rcases main_cases calls with ⟨succeed, frame, returned, run⟩ | ⟨failed, frame, atCleanup, run⟩
  · rw [run]
    apply iff_of_false
    · intro released
      obtain ⟨resource, obtained⟩ := returned.msg3
      have once := released.buffers resource obtained
      have freed : .freed resource ∈ frame.events := by
        rw [← List.count_pos_iff, once]
        exact Nat.zero_lt_one
      cases returned.acquiring _ freed
    · exact fun tracked => tracked.1 succeed
  · rw [run, cleanup_releases_iff frame atCleanup.acquiring, atCleanup.enclave, atCleanup.buffers]
    exact ⟨fun tracked => ⟨failed, tracked⟩, fun tracked => tracked.2⟩

theorem main_releases_smooth : ¬ ReleasesAll (main smoothCalls).events := by
  intro released
  have once := released.buffers .msg0Full (by decide)
  exact absurd once (by decide)

end SgxExperiments.AttestationApp
