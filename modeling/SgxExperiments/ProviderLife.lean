import SgxExperiments.Framing
import SgxExperiments.Msg1Resources

/-!
The service provider over its whole life, whatever requests come: what it has
allocated and opened by the end of a run, and, with the one group of the real
table, when it is registered and how often it has enrolled.
-/

namespace SgxExperiments.ProviderLife

open ByteMemory KeyDerivation ServiceProvider NetworkRa Registration

variable {World : Type}

section Resources

def allocates : SpCall → Bool
  | .malloc _ true | .derivation (.malloc _ true) => true
  | _ => false

def frees : SpCall → Bool
  | .free | .derivation .free => true
  | _ => false

def delivers (event : Event World) : Bool := event.result.resp.join.isSome

/-- What is allocated is freed or handed over, and what is opened is closed. -/
structure Settled (calls : List SpCall) (delivered : Nat) : Prop where
  heap : calls.countP allocates = calls.countP frees + delivered
  contexts : calls.count (.openContext true) = calls.count .closeContext

theorem settled_append (first second : List SpCall) (one other : Nat) (before : Settled first one)
    (after : Settled second other) : Settled (first ++ second) (one + other) := by
  constructor
  · rw [List.countP_append, List.countP_append, before.heap, after.heap]
    omega
  · rw [List.count_append, List.count_append, before.contexts, after.contexts]

theorem settled_msg0Reply (malloc : Nat → Bool) (provider : Provider) (calls : List SpCall)
    (settled : Settled calls 0) :
    Settled (msg0Reply malloc provider calls).calls
      (if (msg0Reply malloc provider calls).ret = 0 then 1 else 0) := by
  rw [msg0Reply]
  split
  · exact settled_append calls _ 0 1 settled ⟨rfl, rfl⟩
  · exact settled_append calls _ 0 0 settled ⟨rfl, rfl⟩

variable {table : List (SampleExtendedEpidGroup World)} {build : Build} {primitives : Primitives}

theorem settled_msg0 (calls : Msg0Calls World) (before : Provider) (extendedEpidGroupId : UInt32)
    (result : HandlerResult) (outcome : Msg0Outcome table calls before extendedEpidGroupId result) :
    Settled result.calls (if result.ret = 0 then 1 else 0) := by
  cases outcome with
  | kept | unsupported => exact settled_msg0Reply _ _ [] ⟨rfl, rfl⟩
  | enrollFailed => exact ⟨rfl, rfl⟩
  | enrolled => exact settled_msg0Reply _ _ _ ⟨rfl, rfl⟩

theorem settled_stepsLog (steps : List DeriveStep)
    (each : ∀ step ∈ steps, Settled (step.heap.map .derivation) 0) : Settled (stepsLog steps) 0 := by
  induction steps with
  | nil => exact ⟨rfl, rfl⟩
  | cons step rest ih =>
      have later := ih fun other member => each other (List.mem_cons_of_mem step member)
      apply settled_append _ _ 0 0 (each step List.mem_cons_self)
      split
      · exact later
      · exact ⟨rfl, rfl⟩

theorem settled_derivationLog (build : Build) (primitives : Primitives) (calls : Msg1Calls World)
    (secret : EcDhShared) : Settled (derivationLog build primitives calls secret) 0 := by
  apply settled_stepsLog
  intro step member
  cases build with
  | suppliedKeyDerivation =>
      simp only [deriveSteps, List.mem_cons, List.not_mem_nil, or_false] at member
      rcases member with rfl | rfl <;> exact ⟨rfl, rfl⟩
  | defaultKeyDerivation =>
      obtain ⟨key, _, rfl⟩ := List.mem_map.mp member
      simp only [defaultStep, Default.DeriveKeyCalls.heap]
      split <;> exact ⟨rfl, rfl⟩

theorem fetchedLog_counts (build : Build) (primitives : Primitives) (calls : Msg1Calls World) (secret : EcDhShared) (i : Nat) :
    (fetchedLog build primitives calls secret i).countP allocates =
        (fetchedLog build primitives calls secret i).countP frees ∧
      (fetchedLog build primitives calls secret i).count (.openContext true) = 1 := by
  have log := settled_derivationLog build primitives calls secret
  have none : (derivationLog build primitives calls secret).count (.openContext true) = 0 := by
    rw [List.count_eq_zero]
    intro made
    obtain ⟨heap, other⟩ := mem_stepsLog _ _ made
    cases other
  constructor
  · rw [fetchedLog, List.countP_append, List.countP_append, log.heap]
    rfl
  · rw [fetchedLog, List.count_append, none]
    rfl

theorem settled_msg1 (calls : Msg1Calls World) (before : Provider) (msg1 : SampleRaMsg1)
    (result : HandlerResult)
    (outcome : Msg1Outcome table build primitives calls before msg1 (.ok result)) :
    Settled result.calls (if result.ret = 0 then 1 else 0) := by
  have log := fun secret i => fetchedLog_counts build primitives calls secret i
  cases outcome with
  | openFailed | keyPairFailed | dhFailed | sigrlFailed => exact ⟨rfl, rfl⟩
  | deriveFailed | mallocFailed | sealFailed | completed =>
      constructor <;> simp [log, List.countP_cons, allocates, frees, SpRaMsgStatus.code]

theorem delivers_iff (event : Event World) (standing : Standing table event.before)
    (handled : Handles table build primitives event) :
    delivers event = true ↔ event.result.ret = 0 := by
  have framed := Framing.handled_framed event standing handled
  rw [delivers]
  by_cases answered : event.result.ret = 0
  · obtain ⟨response, stored, _⟩ := framed.framed answered
    simp [stored, answered]
  · simp [framed.untouched answered, answered]

theorem settled_step (events : List (Event World)) (event : Event World)
    (run : Run table build primitives events event.before) (_ : True)
    (handled : Handles table build primitives event)
    (before : Settled (history events) (events.countP delivers)) :
    Settled (history (events ++ [event])) ((events ++ [event]).countP delivers) := by
  have standing := run_standing _ _ _ run
  rw [history_append, List.countP_append, List.countP_singleton]
  apply settled_append _ _ _ _ before
  simp only [delivers_iff event standing handled]
  rcases handles_cases event standing.inside handled with
    ⟨_, result, delivered, outcome⟩ | ⟨_, result, delivered, outcome⟩ |
      ⟨_, _, ret, notZero, refused⟩
  · obtain ⟨ret, _, calls, _⟩ := deliver_ok result _ delivered
    rw [ret, calls]
    exact settled_msg0 _ _ _ _ outcome
  · obtain ⟨ret, _, calls, _⟩ := deliver_ok result _ delivered
    rw [ret, calls]
    exact settled_msg1 _ _ _ _ outcome
  · rw [refused, if_neg notZero]
    exact ⟨rfl, rfl⟩

/-- Between requests no ECC context is open, and the blocks that are still allocated
are the answers that were delivered. -/
theorem run_settled (table : List (SampleExtendedEpidGroup World)) (build : Build)
    (primitives : Primitives) (events : List (Event World)) (provider : Provider)
    (run : Run table build primitives events provider) :
    Settled (history events) (events.countP delivers) :=
  run.invariant (fun events _ => Settled (history events) (events.countP delivers)) ⟨rfl, rfl⟩
    settled_step

/-- A registration and a completed exchange: a context and six blocks, of which the two
answers are left. -/
theorem run_settled_completed :
    Settled (history [registration, completedExchange]) 2 ∧
      (history [registration, completedExchange]).count (.openContext true) = 1 ∧
      (history [registration, completedExchange]).countP frees = 4 := by
  have settled := run_settled (gExtendedEpidGroups Unit) .defaultKeyDerivation blankPrimitives
    [registration, completedExchange] completedExchange.result.provider
    (.request [registration] completedExchange registration_run trivial rfl)
  exact ⟨settled, rfl, rfl⟩

end Resources

section Registered

def AsksForZero (event : Event World) : Prop :=
  IsMsg0 event ∧ (asMsg0 event.request.body).extendedEpidGroupId = 0

structure OneGroup (asked : Prop) (calls : List SpCall) (provider : Provider) : Prop where
  before : ¬ asked → provider.gIsSpRegistered = false ∧ provider.gSpExtendedEpidGroupId = none ∧
    provider.gSpid = zeroBytes 16 ∧ enrolls 0 calls = []
  after : asked → provider.gIsSpRegistered = true ∧ provider.gSpExtendedEpidGroupId = some 0 ∧
    provider.gSpid = gSimSpid ∧ enrolls 0 calls = [0]

theorem OneGroup.registered_iff {asked : Prop} {calls : List SpCall} {provider : Provider}
    (one : OneGroup asked calls provider) : provider.gIsSpRegistered = true ↔ asked := by
  constructor
  · intro registered
    by_contra never
    rw [(one.before never).1] at registered
    cases registered
  · exact fun asked => (one.after asked).1

theorem OneGroup.keep {asked : Prop} {calls : List SpCall} {provider : Provider}
    (one : OneGroup asked calls provider) (next : Provider) (more : List SpCall)
    (same : SameRegistration provider next) (quiet : enrolls 0 more = []) :
    OneGroup asked (calls ++ more) next := by
  obtain ⟨flag, pointer, spid⟩ := same
  have kept : enrolls 0 (calls ++ more) = enrolls 0 calls := by
    rw [enrolls_append, quiet, List.append_nil]
  constructor
  · rw [flag, pointer, spid, kept]
    exact one.before
  · rw [flag, pointer, spid, kept]
    exact one.after

theorem gExtendedEpidGroups_entry (i : Nat) (group : SampleExtendedEpidGroup World)
    (entry : (gExtendedEpidGroups World)[i]? = some group) :
    i = 0 ∧ group = ⟨0, iasEnroll World, iasGetSigrl World⟩ := by
  cases i with
  | zero =>
      cases entry
      exact ⟨rfl, rfl⟩
  | succ i => cases entry

variable {build : Build} {primitives : Primitives}

theorem oneGroup_step (calls : List SpCall) (asked : Prop) (event : Event World)
    (standing : Standing (gExtendedEpidGroups World) event.before)
    (handled : Handles (gExtendedEpidGroups World) build primitives event)
    (one : OneGroup asked calls event.before) :
    OneGroup (asked ∨ AsksForZero event) (calls ++ event.result.calls) event.result.provider := by
  have weaken : ¬ AsksForZero event → (asked ∨ AsksForZero event ↔ asked) := or_iff_left
  rcases handles_cases event standing.inside handled with
    ⟨isMsg0, result, delivered, outcome⟩ | ⟨taken, result, delivered, outcome⟩ |
      ⟨notMsg0, _, ret, _, refused⟩
  · obtain ⟨_, provider, made, _⟩ := deliver_ok result _ delivered
    rw [provider, made]
    cases outcome with
    | kept registered current =>
        obtain ⟨obtained, reply⟩ := msg0Reply_calls event.calls.msg0.malloc event.before []
        -- The branch is only taken when registered, so one more request changes nothing.
        have already := one.registered_iff.mp registered
        have same : (asked ∨ AsksForZero event) = asked :=
          propext (or_iff_left_of_imp fun _ => already)
        rw [same, msg0Reply_provider, reply]
        exact one.keep _ _ (sameRegistration_refl _) rfl
    | unsupported absent =>
        obtain ⟨obtained, reply⟩ := msg0Reply_calls event.calls.msg0.malloc event.before []
        have other : ¬ AsksForZero event := fun asks =>
          absent _ (List.mem_singleton_self _) asks.2.symm
        rw [propext (weaken other), msg0Reply_provider, reply]
        exact one.keep _ _ (sameRegistration_refl _) rfl
    | enrollFailed i group entry same selects failed =>
        obtain ⟨rfl, rfl⟩ := gExtendedEpidGroups_entry i group entry
        exact (failed rfl).elim
    | enrolled i group entry same selects succeeded =>
        obtain ⟨rfl, rfl⟩ := gExtendedEpidGroups_entry i group entry
        obtain ⟨obtained, reply⟩ := msg0Reply_calls event.calls.msg0.malloc
          { event.before.enrolledAt 0 (event.before.enrollment event.calls.msg0.world
              ⟨0, iasEnroll World, iasGetSigrl World⟩) with gIsSpRegistered := true } [.enroll 0 0]
        -- Once group 0 is selected, a MSG0 that asks for it does not select again.
        have fresh : ¬ asked := by
          intro already
          have pointer := (one.after already).2.1
          exact mustSelect_differs _ _ (one.after already).1 selects 0 _ pointer rfl same
        rw [msg0Reply_provider, reply]
        refine ⟨fun never => (never (.inr ⟨isMsg0, same.symm⟩)).elim, fun _ => ⟨rfl, rfl, rfl, ?_⟩⟩
        have quiet := (one.before fresh).2.2.2
        rw [enrolls] at quiet ⊢
        rw [List.filterMap_append, quiet]
        rfl
  · obtain ⟨_, provider, made, _⟩ := deliver_ok result _ delivered
    have other : ¬ AsksForZero event := by
      intro asks
      have types : typeRaMsg0 = typeRaMsg1 := asks.1.1.symm.trans taken.1
      cases types
    rw [propext (weaken other), provider, made]
    exact one.keep _ _ (msg1_sameRegistration _ _ _ _ outcome) (msg1_quiet _ _ _ _ outcome 0)
  · have other : ¬ AsksForZero event := fun asks => notMsg0 asks.1
    rw [propext (weaken other), refused]
    exact one.keep _ _ (sameRegistration_refl _) rfl

theorem run_oneGroup (events : List (Event World)) (provider : Provider)
    (run : Run (gExtendedEpidGroups World) build primitives events provider) :
    OneGroup (∃ event ∈ events, AsksForZero event) (history events) provider := by
  apply RunOf.invariant (fun events provider =>
    OneGroup (∃ event ∈ events, AsksForZero event) (history events) provider) _ _ events provider run
  · refine ⟨fun _ => ⟨rfl, rfl, rfl, rfl⟩, ?_⟩
    rintro ⟨event, member, _⟩
    cases member
  · intro events event run _ handled one
    have step := oneGroup_step _ _ event (run_standing _ _ _ run) handled one
    rw [history_append]
    have same : (∃ other ∈ events ++ [event], AsksForZero other) =
        ((∃ other ∈ events, AsksForZero other) ∨ AsksForZero event) := by
      simp only [List.mem_append, List.mem_singleton, or_and_right, exists_or, exists_eq_left]
    rw [same]
    exact step

theorem msg1_ret (calls : Msg1Calls World) (before : Provider) (msg1 : SampleRaMsg1)
    (result : HandlerResult) (table : List (SampleExtendedEpidGroup World))
    (outcome : Msg1Outcome table build primitives calls before msg1 (.ok result)) :
    result.ret ≠ SpRaMsgStatus.unsupportedExtendedEpidGroup.code := by
  cases outcome <;> simp [SpRaMsgStatus.code]

/-- The real table has one group, so the provider is registered from the first MSG0
that asks for it, for good; it enrolls that once; and a MSG1 is turned down as
unsupported exactly before it. -/
theorem registered_once (events : List (Event World)) (event : Event World)
    (run : Run (gExtendedEpidGroups World) build primitives events event.before)
    (handled : Handles (gExtendedEpidGroups World) build primitives event) :
    OneGroup (∃ event ∈ events, AsksForZero event) (history events) event.before ∧
      (event.request.type = typeRaMsg1 → event.request.size.toNat = sampleRaMsg1Size →
        (event.result.ret = SpRaMsgStatus.unsupportedExtendedEpidGroup.code ↔
          ∀ earlier ∈ events, ¬ AsksForZero earlier)) := by
  have one := run_oneGroup events event.before run
  refine ⟨one, fun isMsg1 exact => ?_⟩
  have standing := run_standing _ _ _ run
  have never : (∀ earlier ∈ events, ¬ AsksForZero earlier) ↔
      ¬ event.before.gIsSpRegistered = true := by
    rw [one.registered_iff]
    simp only [not_exists, not_and]
  rw [never]
  by_cases registered : event.before.gIsSpRegistered = true
  · refine iff_of_false ?_ (not_not.mpr registered)
    rcases handles_cases event standing.inside handled with
      ⟨isMsg0, _⟩ | ⟨_, result, delivered, outcome⟩ | ⟨_, notTaken, _⟩
    · have types : typeRaMsg0 = typeRaMsg1 := isMsg0.1.symm.trans isMsg1
      cases types
    · rw [(deliver_ok result _ delivered).1]
      exact msg1_ret _ _ _ _ _ outcome
    · exact (notTaken ⟨isMsg1, exact, registered⟩).elim
  · refine iff_of_true ?_ registered
    have types : typeRaMsg1 ≠ typeRaMsg0 := by decide
    rw [Handles, raNetworkSendReceive, isMsg1, if_neg (by simp), if_neg types, if_pos rfl,
      spRaProcMsg1Req, if_neg (by simp [exact]), if_pos (by simpa using registered)] at handled
    have refused := Except.ok.inj handled
    rw [← refused]

def firstMsg1 : Event Unit where
  before := registeredZero
  request := ⟨typeRaMsg1, 68, fun _ => 1⟩
  calls := idleCalls
  result := ⟨-1, none, registeredZero.withDb { registeredZero.gSpDb with gA := fun _ => 1 },
    [.openContext false]⟩

theorem registered_once_firstMsg1 :
    enrolls 0 (history [askedZero]) = [0] ∧
      firstMsg1.result.ret ≠ SpRaMsgStatus.unsupportedExtendedEpidGroup.code := by
  have run : Run (gExtendedEpidGroups Unit) .defaultKeyDerivation blankPrimitives [askedZero]
      firstMsg1.before := .request [] askedZero .startUp trivial rfl
  obtain ⟨one, refused⟩ := registered_once [askedZero] firstMsg1 run rfl
  have asks : AsksForZero askedZero := ⟨⟨rfl, rfl⟩, by decide⟩
  refine ⟨(one.after ⟨askedZero, List.mem_singleton_self _, asks⟩).2.2.2, fun unsupported => ?_⟩
  exact (refused rfl rfl).mp unsupported askedZero (List.mem_singleton_self _) asks

end Registered

end SgxExperiments.ProviderLife
