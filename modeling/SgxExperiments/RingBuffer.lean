import SgxExperiments.SectionProgress

/-!
The bounded buffer of the trusted library sample: `cond_buffer_t`,
`ecall_producer` and `ecall_consumer`. A statement of the source is a statement
of the section; `int` counters are integers, since the invariant keeps them far
from overflow, and `buf` is the memory the array index reaches, so that an
index out of range is expressible.
-/

namespace SgxExperiments.RingBuffer

open LockedSections

def bufferSize : Int := 50

/-- `cond_buffer_t` without its mutex and conditions, which the section
semantics owns. -/
structure CondBuffer where
  buf : Int → Int
  occupied : Int
  nextin : Int
  nextout : Int

inductive Cond where
  | more | less
  deriving DecidableEq

def buffer : CondBuffer := ⟨fun _ => 0, 0, 0, 0⟩

def CondBuffer.storeIndex (b : CondBuffer) : CondBuffer :=
  { b with buf := Function.update b.buf b.nextin b.nextin }

def CondBuffer.advanceIn (b : CondBuffer) : CondBuffer := { b with nextin := b.nextin + 1 }

def CondBuffer.wrapIn (b : CondBuffer) : CondBuffer :=
  { b with nextin := b.nextin.tmod bufferSize }

def CondBuffer.incOccupied (b : CondBuffer) : CondBuffer := { b with occupied := b.occupied + 1 }

def CondBuffer.clearSlot (b : CondBuffer) : CondBuffer :=
  { b with buf := Function.update b.buf b.nextout 0 }

def CondBuffer.advanceOut (b : CondBuffer) : CondBuffer := { b with nextout := b.nextout + 1 }

def CondBuffer.wrapOut (b : CondBuffer) : CondBuffer :=
  { b with nextout := b.nextout.tmod bufferSize }

def CondBuffer.decOccupied (b : CondBuffer) : CondBuffer := { b with occupied := b.occupied - 1 }

def onBuffer (update : CondBuffer → CondBuffer) : Statement CondBuffer Nat Cond :=
  .run fun b i => (update b, i)

def producerBody : List (Statement CondBuffer Nat Cond) :=
  [onBuffer CondBuffer.storeIndex, onBuffer CondBuffer.advanceIn, onBuffer CondBuffer.wrapIn,
    onBuffer CondBuffer.incOccupied, .signal .more]

-- `b->buf[b->nextout++] = 0` clears with the old index, then increments it.
def consumerBody : List (Statement CondBuffer Nat Cond) :=
  [onBuffer CondBuffer.clearSlot, onBuffer CondBuffer.advanceOut, onBuffer CondBuffer.wrapOut,
    onBuffer CondBuffer.decOccupied, .signal .less]

def producerLoop (iterations : Nat) : Program CondBuffer Nat Cond where
  returned i := !decide (i < iterations)
  waits b := if b.occupied ≥ bufferSize then some .less else none
  body := producerBody
  next i := i + 1

def consumerLoop (iterations : Nat) : Program CondBuffer Nat Cond where
  returned i := !decide (i < iterations)
  waits b := if b.occupied ≤ 0 then some .more else none
  body := consumerBody
  next i := i + 1

inductive Call where
  | producer (iterations : Nat)
  | consumer (iterations : Nat)
  deriving DecidableEq

def Call.program : Call → Program CondBuffer Nat Cond
  | .producer iterations => producerLoop iterations
  | .consumer iterations => consumerLoop iterations

def ecallProducer (loopsPerThread : Nat) : Call := .producer (4 * loopsPerThread)

def ecallConsumer (loopsPerThread : Nat) : Call := .consumer loopsPerThread

def Call.iterations : Call → Nat
  | .producer iterations | .consumer iterations => iterations

def Call.produced : Call → Nat → Int
  | .producer _, i => i
  | .consumer _, _ => 0

def Call.consumed : Call → Nat → Int
  | .producer _, _ => 0
  | .consumer _, i => i

abbrev Machine (Thread : Type) := State Thread CondBuffer Nat Cond

def launch (Thread : Type) : Machine Thread := ⟨buffer, fun _ => 0, fun _ => .ready, none⟩

variable {Thread : Type} [Fintype Thread] [DecidableEq Thread]

def programs (calls : Thread → Call) : Thread → Program CondBuffer Nat Cond :=
  fun thread => (calls thread).program

def itemsProduced (calls : Thread → Call) (state : Machine Thread) : Int :=
  ∑ thread, (calls thread).produced (state.locals thread)

def itemsConsumed (calls : Thread → Call) (state : Machine Thread) : Int :=
  ∑ thread, (calls thread).consumed (state.locals thread)

def CondBuffer.produce (b : CondBuffer) : CondBuffer :=
  b.storeIndex.advanceIn.wrapIn.incOccupied

def CondBuffer.consume (b : CondBuffer) : CondBuffer :=
  b.clearSlot.advanceOut.wrapOut.decOccupied

/-- Slot `i` lies in the stretch of `occupied` slots that starts at `nextout`. -/
def CondBuffer.Holds (b : CondBuffer) (i : Int) : Prop := (i - b.nextout) % bufferSize < b.occupied

structure CondBuffer.Valid (b : CondBuffer) : Prop where
  occupied_nonneg : 0 ≤ b.occupied
  occupied_le : b.occupied ≤ bufferSize
  nextout_nonneg : 0 ≤ b.nextout
  nextout_lt : b.nextout < bufferSize
  nextin_eq : b.nextin = (b.nextout + b.occupied) % bufferSize
  filled : ∀ i, 0 ≤ i → i < bufferSize → b.Holds i → b.buf i = i
  empty : ∀ i, 0 ≤ i → i < bufferSize → ¬ b.Holds i → b.buf i = 0

theorem CondBuffer.Valid.nextin_nonneg {b : CondBuffer} (valid : b.Valid) : 0 ≤ b.nextin := by
  rw [valid.nextin_eq]
  exact Int.emod_nonneg _ (by decide)

theorem CondBuffer.Valid.nextin_lt {b : CondBuffer} (valid : b.Valid) : b.nextin < bufferSize := by
  rw [valid.nextin_eq]
  exact Int.emod_lt_of_pos _ (by decide)

theorem buffer_valid : buffer.Valid where
  occupied_nonneg := by decide
  occupied_le := by decide
  nextout_nonneg := by decide
  nextout_lt := by decide
  nextin_eq := by decide
  filled i low high holds := by
    simp only [CondBuffer.Holds, buffer, bufferSize] at holds
    omega
  empty i _ _ _ := rfl

theorem produce_valid (b : CondBuffer) (valid : b.Valid) (room : b.occupied < bufferSize) :
    b.produce.Valid := by
  have nonneg := valid.occupied_nonneg
  have low := valid.nextout_nonneg
  have high := valid.nextout_lt
  have inLow := valid.nextin_nonneg
  have inHigh := valid.nextin_lt
  have inEq := valid.nextin_eq
  have wrapped : (b.nextin + 1).tmod bufferSize = (b.nextout + (b.occupied + 1)) % bufferSize := by
    rw [Int.tmod_eq_emod_of_nonneg (by omega), inEq]
    simp only [bufferSize]
    omega
  -- The slot written is the first one behind the occupied stretch.
  have slot : ∀ i, 0 ≤ i → i < bufferSize →
      ((i - b.nextout) % bufferSize < b.occupied + 1 ↔
        i = b.nextin ∨ (i - b.nextout) % bufferSize < b.occupied) := by
    intro i iLow iHigh
    rw [inEq]
    simp only [bufferSize] at *
    omega
  refine ⟨by simp [CondBuffer.produce, CondBuffer.storeIndex, CondBuffer.advanceIn,
    CondBuffer.wrapIn, CondBuffer.incOccupied]; omega, ?_, low, high, wrapped, ?_, ?_⟩
  · change b.occupied + 1 ≤ bufferSize
    omega
  · intro i iLow iHigh holds
    change Function.update b.buf b.nextin b.nextin i = i
    rcases (slot i iLow iHigh).mp holds with same | old
    · simp [same]
    · by_cases same : i = b.nextin
      · simp [same]
      · rw [Function.update_of_ne same]
        exact valid.filled i iLow iHigh old
  · intro i iLow iHigh absent
    change Function.update b.buf b.nextin b.nextin i = 0
    have apart : ¬ (i = b.nextin ∨ (i - b.nextout) % bufferSize < b.occupied) :=
      fun either => absent ((slot i iLow iHigh).mpr either)
    rw [Function.update_of_ne (fun same => apart (Or.inl same))]
    exact valid.empty i iLow iHigh (fun old => apart (Or.inr old))

theorem consume_valid (b : CondBuffer) (valid : b.Valid) (some : 0 < b.occupied) :
    b.consume.Valid := by
  have bound := valid.occupied_le
  have low := valid.nextout_nonneg
  have high := valid.nextout_lt
  have inEq := valid.nextin_eq
  have wrapped : (b.nextout + 1).tmod bufferSize = (b.nextout + 1) % bufferSize :=
    Int.tmod_eq_emod_of_nonneg (by omega)
  -- The slot cleared is the first of the occupied stretch.
  have slot : ∀ i, 0 ≤ i → i < bufferSize →
      ((i - (b.nextout + 1) % bufferSize) % bufferSize < b.occupied - 1 ↔
        i ≠ b.nextout ∧ (i - b.nextout) % bufferSize < b.occupied) := by
    intro i iLow iHigh
    simp only [bufferSize] at *
    omega
  have holdsIff : ∀ i, b.consume.Holds i ↔
      (i - (b.nextout + 1) % bufferSize) % bufferSize < b.occupied - 1 := by
    intro i
    change (i - (b.nextout + 1).tmod bufferSize) % bufferSize < b.occupied - 1 ↔ _
    rw [wrapped]
  refine ⟨?_, ?_, ?_, ?_, ?_, ?_, ?_⟩
  · change 0 ≤ b.occupied - 1
    omega
  · change b.occupied - 1 ≤ bufferSize
    omega
  · change 0 ≤ (b.nextout + 1).tmod bufferSize
    rw [wrapped]
    exact Int.emod_nonneg _ (by decide)
  · change (b.nextout + 1).tmod bufferSize < bufferSize
    rw [wrapped]
    exact Int.emod_lt_of_pos _ (by decide)
  · change b.nextin = ((b.nextout + 1).tmod bufferSize + (b.occupied - 1)) % bufferSize
    rw [wrapped, inEq]
    simp only [bufferSize]
    omega
  · intro i iLow iHigh holds
    change Function.update b.buf b.nextout 0 i = i
    have old := (slot i iLow iHigh).mp ((holdsIff i).mp holds)
    rw [Function.update_of_ne old.1]
    exact valid.filled i iLow iHigh old.2
  · intro i iLow iHigh absent
    change Function.update b.buf b.nextout 0 i = 0
    by_cases same : i = b.nextout
    · simp [same]
    · rw [Function.update_of_ne same]
      refine valid.empty i iLow iHigh (fun old => absent ?_)
      exact (holdsIff i).mpr ((slot i iLow iHigh).mpr ⟨same, old⟩)

section Sections

omit [Fintype Thread]

theorem onBuffer_effect (thread : Thread) (update : CondBuffer → CondBuffer)
    (before after : Machine Thread) :
    Effect thread (onBuffer update) before after ↔
      after = { before with shared := update before.shared } := by
  simp [Effect, onBuffer, State.runEffect]

theorem signal_effect (thread : Thread) (cond : Cond) (before after : Machine Thread)
    (effect : Effect thread (.signal cond) before after) :
    after.shared = before.shared ∧ after.locals = before.locals ∧ Signalled cond before after := by
  rcases effect with ⟨waiter, asleep, moved⟩ | ⟨nobody, unmoved⟩
  · subst moved
    exact ⟨rfl, rfl, Or.inl ⟨waiter, asleep, rfl⟩⟩
  · subst unmoved
    exact ⟨rfl, rfl, Or.inr ⟨nobody, rfl⟩⟩

theorem producer_exec (thread : Thread) (before after : Machine Thread)
    (exec : Exec thread producerBody before after) :
    after.shared = before.shared.produce ∧ after.locals = before.locals ∧
      Signalled .more before after := by
  simp only [producerBody, Exec, onBuffer_effect] at exec
  obtain ⟨_, rfl, _, rfl, _, rfl, _, rfl, _, signalled, rfl⟩ := exec
  exact signal_effect thread .more _ _ signalled

theorem consumer_exec (thread : Thread) (before after : Machine Thread)
    (exec : Exec thread consumerBody before after) :
    after.shared = before.shared.consume ∧ after.locals = before.locals ∧
      Signalled .less before after := by
  simp only [consumerBody, Exec, onBuffer_effect] at exec
  obtain ⟨_, rfl, _, rfl, _, rfl, _, rfl, _, signalled, rfl⟩ := exec
  exact signal_effect thread .less _ _ signalled

/-- How one atomic step of a call can go: a producer finds the buffer full, a
consumer finds it blank, or an item is put or taken. -/
inductive Move (calls : Thread → Call) (thread : Thread) (before after : Machine Thread) : Prop where
  | full (iterations : Nat) (kind : calls thread = .producer iterations)
      (noRoom : bufferSize ≤ before.shared.occupied)
      (slept : after = before.setPhase thread (.queued .less))
  | blank (iterations : Nat) (kind : calls thread = .consumer iterations)
      (noItem : before.shared.occupied ≤ 0)
      (slept : after = before.setPhase thread (.queued .more))
  | put (iterations : Nat) (kind : calls thread = .producer iterations)
      (room : before.shared.occupied < bufferSize)
      (shared : after.shared = before.shared.produce)
      (locals : after.locals = Function.update before.locals thread (before.locals thread + 1))
      (signalled : Signalled .more before after)
  | take (iterations : Nat) (kind : calls thread = .consumer iterations)
      (item : 0 < before.shared.occupied)
      (shared : after.shared = before.shared.consume)
      (locals : after.locals = Function.update before.locals thread (before.locals thread + 1))
      (signalled : Signalled .less before after)

theorem section_move (calls : Thread → Call) (thread : Thread) (before after : Machine Thread)
    (step : SectionStep (programs calls) thread before after) :
    before.phase thread = .ready ∧ before.locals thread < (calls thread).iterations ∧
      Move calls thread before after := by
  cases kind : calls thread with
  | producer iterations =>
      cases step with
      | wait cond waiting more blocked =>
          simp only [programs, kind, Call.program, producerLoop] at more blocked
          split at blocked
          · cases blocked
            exact ⟨waiting, by simpa [Call.iterations] using more, Move.full iterations kind ‹_› rfl⟩
          · cases blocked
      | @complete reached waiting more passed exec =>
          simp only [programs, kind, Call.program, producerLoop] at more passed exec ⊢
          split at passed
          · cases passed
          · obtain ⟨shared, locals, signalled⟩ := producer_exec thread before reached exec
            refine ⟨waiting, by simpa [Call.iterations] using more,
              Move.put iterations kind (by omega) shared ?_ signalled⟩
            simp [State.endIteration, locals]
  | consumer iterations =>
      cases step with
      | wait cond waiting more blocked =>
          simp only [programs, kind, Call.program, consumerLoop] at more blocked
          split at blocked
          · cases blocked
            exact ⟨waiting, by simpa [Call.iterations] using more,
              Move.blank iterations kind ‹_› rfl⟩
          · cases blocked
      | @complete reached waiting more passed exec =>
          simp only [programs, kind, Call.program, consumerLoop] at more passed exec ⊢
          split at passed
          · cases passed
          · obtain ⟨shared, locals, signalled⟩ := consumer_exec thread before reached exec
            refine ⟨waiting, by simpa [Call.iterations] using more,
              Move.take iterations kind (by omega) shared ?_ signalled⟩
            simp [State.endIteration, locals]

end Sections

section Invariant

/-- Ring and bookkeeping together: what is in the buffer is what has been
produced and not yet consumed. -/
structure Balanced (calls : Thread → Call) (state : Machine Thread) : Prop where
  valid : state.shared.Valid
  balance : itemsProduced calls state = itemsConsumed calls state + state.shared.occupied

omit [DecidableEq Thread] in
theorem launch_balanced (calls : Thread → Call) : Balanced calls (launch Thread) := by
  refine ⟨buffer_valid, ?_⟩
  have nothing : ∀ thread, (calls thread).produced 0 = 0 ∧ (calls thread).consumed 0 = 0 := by
    intro thread
    cases calls thread <;> exact ⟨rfl, rfl⟩
  simp [itemsProduced, itemsConsumed, launch, buffer, nothing]

theorem produced_step (calls : Thread → Call) (before after : Machine Thread) (thread : Thread)
    (iterations : Nat) (kind : calls thread = .producer iterations)
    (moved : after.locals = Function.update before.locals thread (before.locals thread + 1)) :
    itemsProduced calls after = itemsProduced calls before + 1 ∧
      itemsConsumed calls after = itemsConsumed calls before := by
  constructor
  · rw [itemsProduced, moved, sum_update_local (fun t i => (calls t).produced i), kind]
    simp [Call.produced, itemsProduced]
  · rw [itemsConsumed, moved, sum_update_local (fun t i => (calls t).consumed i), kind]
    simp [Call.consumed, itemsConsumed]

theorem consumed_step (calls : Thread → Call) (before after : Machine Thread) (thread : Thread)
    (iterations : Nat) (kind : calls thread = .consumer iterations)
    (moved : after.locals = Function.update before.locals thread (before.locals thread + 1)) :
    itemsProduced calls after = itemsProduced calls before ∧
      itemsConsumed calls after = itemsConsumed calls before + 1 := by
  constructor
  · rw [itemsProduced, moved, sum_update_local (fun t i => (calls t).produced i), kind]
    simp [Call.produced, itemsProduced]
  · rw [itemsConsumed, moved, sum_update_local (fun t i => (calls t).consumed i), kind]
    simp [Call.consumed, itemsConsumed]

theorem balanced_step (calls : Thread → Call) (before after : Machine Thread)
    (balanced : Balanced calls before) (step : Atomic (programs calls) before after) :
    Balanced calls after := by
  rcases step with ⟨thread, moved⟩ | ⟨thread, cond, asleep, woken⟩
  · have balance := balanced.balance
    cases (section_move calls thread before after moved).2.2 with
    | full iterations kind noRoom slept => exact slept ▸ ⟨balanced.valid, balance⟩
    | blank iterations kind noItem slept => exact slept ▸ ⟨balanced.valid, balance⟩
    | put iterations kind room shared locals signalled =>
        have counts := produced_step calls before after thread iterations kind locals
        have occupied : after.shared.occupied = before.shared.occupied + 1 := by rw [shared]; rfl
        exact ⟨shared ▸ produce_valid before.shared balanced.valid room, by omega⟩
    | take iterations kind item shared locals signalled =>
        have counts := consumed_step calls before after thread iterations kind locals
        have occupied : after.shared.occupied = before.shared.occupied - 1 := by rw [shared]; rfl
        exact ⟨shared ▸ consume_valid before.shared balanced.valid item, by omega⟩
  · subst woken
    exact ⟨balanced.valid, balanced.balance⟩

theorem atomic_balanced (calls : Thread → Call) (state : Machine Thread)
    (reached : AtomicReachable (programs calls) (launch Thread) state) : Balanced calls state := by
  induction reached with
  | refl => exact launch_balanced calls
  | tail _ step ih => exact balanced_step calls _ _ ih step

end Invariant

section Buffer

theorem body_origin (calls : Thread → Call) (state : Machine Thread)
    (reached : Reachable (programs calls) (launch Thread) state) (thread : Thread)
    (body : List (Statement CondBuffer Nat Cond)) (code : (programs calls thread).body = body)
    (position : state.phase thread = .inside body) :
    state.shared.Valid ∧ (programs calls thread).waits state.shared = none := by
  have initial : Initial (launch Thread) := ⟨rfl, fun _ => rfl⟩
  obtain ⟨origin, current, done, run, _, _, passed, split, exec, rfl⟩ :=
    inside_origin (programs calls) _ state initial reached thread body position
  have nothing : done = [] := by
    have lengths := congrArg List.length (code.symm.trans split)
    simp only [List.length_append] at lengths
    exact List.length_eq_zero_iff.mp (by omega)
  subst nothing
  have same : current = origin := exec
  subst same
  exact ⟨(atomic_balanced calls current run).valid, passed⟩

theorem holds_iff_position (b : CondBuffer) (valid : b.Valid) (i : Int) (low : 0 ≤ i)
    (high : i < bufferSize) :
    b.Holds i ↔ ∃ k, 0 ≤ k ∧ k < b.occupied ∧ i = (b.nextout + k) % bufferSize := by
  have bound := valid.occupied_le
  simp only [CondBuffer.Holds, bufferSize] at *
  constructor
  · intro inside
    exact ⟨(i - b.nextout) % 50, by omega, inside, by omega⟩
  · rintro ⟨k, nonneg, short, position⟩
    omega

/-- The ring invariant over every interleaving of any number of calls. Between
sections the counters and the array agree and every item is accounted for; in a
section the array is indexed in range, at a free slot or at the oldest item. -/
theorem ring_buffer_exact (calls : Thread → Call) (state : Machine Thread)
    (reached : Reachable (programs calls) (launch Thread) state) :
    (state.owner = none →
      (0 ≤ state.shared.occupied ∧ state.shared.occupied ≤ bufferSize) ∧
      (0 ≤ state.shared.nextin ∧ state.shared.nextin < bufferSize) ∧
      (0 ≤ state.shared.nextout ∧ state.shared.nextout < bufferSize) ∧
      state.shared.nextin = (state.shared.nextout + state.shared.occupied) % bufferSize ∧
      (∀ k, 0 ≤ k → k < state.shared.occupied →
        state.shared.buf ((state.shared.nextout + k) % bufferSize) =
          (state.shared.nextout + k) % bufferSize) ∧
      (∀ i, 0 ≤ i → i < bufferSize →
        (∀ k, 0 ≤ k → k < state.shared.occupied → i ≠ (state.shared.nextout + k) % bufferSize) →
        state.shared.buf i = 0) ∧
      itemsProduced calls state = itemsConsumed calls state + state.shared.occupied) ∧
    (∀ thread iterations, calls thread = .producer iterations →
      state.phase thread = .inside producerBody →
      (0 ≤ state.shared.nextin ∧ state.shared.nextin < bufferSize) ∧
      ∀ k, 0 ≤ k → k < state.shared.occupied →
        state.shared.nextin ≠ (state.shared.nextout + k) % bufferSize) ∧
    (∀ thread iterations, calls thread = .consumer iterations →
      state.phase thread = .inside consumerBody →
      (0 ≤ state.shared.nextout ∧ state.shared.nextout < bufferSize) ∧
      0 < state.shared.occupied) := by
  have initial : Initial (launch Thread) := ⟨rfl, fun _ => rfl⟩
  refine ⟨fun free => ?_, fun thread iterations kind position => ?_,
    fun thread iterations kind position => ?_⟩
  · have run := free_reachable (programs calls) _ state initial reached free
    obtain ⟨valid, balance⟩ := atomic_balanced calls state run
    have inRange : ∀ k, 0 ≤ (state.shared.nextout + k) % bufferSize ∧
        (state.shared.nextout + k) % bufferSize < bufferSize :=
      fun k => ⟨Int.emod_nonneg _ (by decide), Int.emod_lt_of_pos _ (by decide)⟩
    refine ⟨⟨valid.occupied_nonneg, valid.occupied_le⟩, ⟨valid.nextin_nonneg, valid.nextin_lt⟩,
      ⟨valid.nextout_nonneg, valid.nextout_lt⟩, valid.nextin_eq, ?_, ?_, balance⟩
    · intro k nonneg short
      have slot := inRange k
      exact valid.filled _ slot.1 slot.2
        ((holds_iff_position _ valid _ slot.1 slot.2).mpr ⟨k, nonneg, short, rfl⟩)
    · intro i low high apart
      apply valid.empty i low high
      intro inside
      obtain ⟨k, nonneg, short, same⟩ := (holds_iff_position _ valid i low high).mp inside
      exact apart k nonneg short same
  · obtain ⟨valid, passed⟩ := body_origin calls state reached thread _
      (by rw [programs, kind]; rfl) position
    simp only [programs, kind, Call.program, producerLoop] at passed
    have room : state.shared.occupied < bufferSize := by
      split at passed
      · cases passed
      · omega
    have inEq := valid.nextin_eq
    have nonneg := valid.occupied_nonneg
    refine ⟨⟨valid.nextin_nonneg, valid.nextin_lt⟩, fun k low short same => ?_⟩
    simp only [bufferSize] at *
    omega
  · obtain ⟨valid, passed⟩ := body_origin calls state reached thread _
      (by rw [programs, kind]; rfl) position
    simp only [programs, kind, Call.program, consumerLoop] at passed
    refine ⟨⟨valid.nextout_nonneg, valid.nextout_lt⟩, ?_⟩
    split at passed
    · cases passed
    · omega

def lone (b : CondBuffer) (i : Nat) : Machine Unit := ⟨b, fun _ => i, fun _ => .ready, none⟩

theorem lone_producer_step (iterations i : Nat) (b : CondBuffer) (more : i < iterations)
    (room : b.occupied < bufferSize) :
    Atomic (programs fun _ : Unit => .producer iterations) (lone b i) (lone b.produce (i + 1)) := by
  have running : (producerLoop iterations).returned i = false := by simpa [producerLoop] using more
  have passed : (producerLoop iterations).waits b = none := by
    simp only [producerLoop]
    rw [if_neg (by omega)]
  have exec : Exec () producerBody (lone b i) (lone b.produce i) := by
    simp only [producerBody, Exec, onBuffer_effect]
    exact ⟨_, rfl, _, rfl, _, rfl, _, rfl, _, Or.inr ⟨fun _ => by simp [lone], rfl⟩, rfl⟩
  have whole : SectionStep (programs fun _ : Unit => .producer iterations) () (lone b i)
      ((lone b.produce i).endIteration () (fun i => i + 1)) :=
    SectionStep.complete rfl running passed exec
  have ended : (lone b.produce i).endIteration () (fun i => i + 1) = lone b.produce (i + 1) := by
    simp only [lone, State.endIteration, Function.update_eq_const_of_subsingleton]
    rfl
  exact Or.inl ⟨(), ended ▸ whole⟩

def twoItems : Machine Unit := lone buffer.produce.produce 2

theorem twoItems_reachable :
    Reachable (programs fun _ : Unit => ecallProducer 1) (launch Unit) twoItems := by
  have run : AtomicReachable (programs fun _ : Unit => ecallProducer 1) (launch Unit) twoItems :=
    (Relation.ReflTransGen.single
      (lone_producer_step 4 0 buffer (by decide) (by decide))).tail
      (lone_producer_step 4 1 buffer.produce (by decide) (by decide))
  exact atomic_reachable _ _ _ ⟨rfl, fun _ => rfl⟩ run

theorem ring_buffer_exact_twoItems :
    twoItems.owner = none ∧ twoItems.shared.occupied = 2 ∧
      twoItems.shared.buf ((twoItems.shared.nextout + 1) % bufferSize) =
        (twoItems.shared.nextout + 1) % bufferSize := by
  have exact := (ring_buffer_exact (fun _ : Unit => ecallProducer 1) twoItems
    twoItems_reachable).1 rfl
  exact ⟨rfl, by decide, exact.2.2.2.2.1 1 (by decide) (by decide)⟩

end Buffer

end SgxExperiments.RingBuffer
