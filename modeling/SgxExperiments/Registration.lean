import Mathlib.Data.List.Nodup
import SgxExperiments.NetworkRa

/-!
Registration over whole runs: what the group pointer and the registered flag
say in every reachable state, and what a MSG0 that is accepted stands for. The
table is arbitrary.
-/

namespace SgxExperiments.Registration

open ByteMemory BreakableBlock KeyDerivation ServiceProvider NetworkRa

variable {World : Type}

section Invariant

variable {table : List (SampleExtendedEpidGroup World)} {build : Build} {primitives : Primitives}

structure Standing (table : List (SampleExtendedEpidGroup World)) (provider : Provider) : Prop where
  inside : PointsInto table provider
  pointed : provider.gIsSpRegistered = true → ∃ i, provider.gSpExtendedEpidGroupId = some i

def SameRegistration (before after : Provider) : Prop :=
  after.gIsSpRegistered = before.gIsSpRegistered ∧
    after.gSpExtendedEpidGroupId = before.gSpExtendedEpidGroupId ∧ after.gSpid = before.gSpid

theorem sameRegistration_refl (provider : Provider) : SameRegistration provider provider :=
  ⟨rfl, rfl, rfl⟩

theorem standing_same (before after : Provider) (standing : Standing table before)
    (same : SameRegistration before after) : Standing table after := by
  obtain ⟨flag, pointer, _⟩ := same
  constructor
  · intro i pointing
    apply standing.inside i
    rw [← pointer, pointing]
  · intro registered
    rw [pointer]
    apply standing.pointed
    rw [← flag, registered]

theorem msg0Reply_provider (malloc : Nat → Bool) (provider : Provider) (calls : List SpCall) :
    (msg0Reply malloc provider calls).provider = provider := by
  rw [msg0Reply]
  split <;> rfl

theorem msg1_sameRegistration (calls : Msg1Calls World) (before : Provider) (msg1 : SampleRaMsg1)
    (result : HandlerResult)
    (outcome : Msg1Outcome table build primitives calls before msg1 (.ok result)) :
    SameRegistration before result.provider := by
  cases outcome with
  | openFailed | keyPairFailed | dhFailed | sigrlFailed | deriveFailed | mallocFailed |
      sealFailed | completed => exact ⟨rfl, rfl, rfl⟩

theorem standing_enrolledAt (before : Provider) (i : Nat) (group : SampleExtendedEpidGroup World)
    (entry : table[i]? = some group) (enrolled : EnrollResult) (flag : Bool) :
    Standing table { before.enrolledAt i enrolled with gIsSpRegistered := flag } := by
  constructor
  · intro j pointing
    cases pointing
    exact ⟨group, entry⟩
  · intro _
    exact ⟨i, rfl⟩

theorem standing_msg0 (calls : Msg0Calls World) (before : Provider) (extendedEpidGroupId : UInt32)
    (result : HandlerResult) (standing : Standing table before)
    (outcome : Msg0Outcome table calls before extendedEpidGroupId result) :
    Standing table result.provider := by
  cases outcome with
  | kept registered current => rwa [msg0Reply_provider]
  | unsupported absent => rwa [msg0Reply_provider]
  | enrollFailed i group entry same selects failed =>
      exact standing_enrolledAt before i group entry _ before.gIsSpRegistered
  | enrolled i group entry same selects succeeded =>
      rw [msg0Reply_provider]
      exact standing_enrolledAt before i group entry _ true

theorem standing_step (event : Event World) (standing : Standing table event.before)
    (handled : Handles table build primitives event) : Standing table event.result.provider := by
  rcases handles_cases event standing.inside handled with
    ⟨_, result, delivered, outcome⟩ | ⟨_, result, delivered, outcome⟩ | ⟨_, _, ret, _, refused⟩
  · rw [(deliver_ok result _ delivered).2.1]
    exact standing_msg0 _ _ _ _ standing outcome
  · rw [(deliver_ok result _ delivered).2.1]
    exact standing_same _ _ standing (msg1_sameRegistration _ _ _ _ outcome)
  · rw [refused]
    exact standing

theorem startUp_standing (table : List (SampleExtendedEpidGroup World)) : Standing table startUp where
  inside _ pointing := nomatch pointing
  pointed registered := nomatch registered

theorem run_standing (Allowed : Event World → Prop) (events : List (Event World))
    (provider : Provider) (run : RunOf table build primitives Allowed events provider) :
    Standing table provider :=
  RunOf.invariant (fun _ => Standing table) (startUp_standing table)
    (fun _ event _ _ handled standing => standing_step event standing handled) events provider run

theorem msg1_registered (primitives : Primitives) (calls : Msg1Calls World) (provider : Provider)
    (standing : Standing table provider) (msg1 : SampleRaMsg1) (msg1Size : UInt32)
    (exact : msg1Size.toNat = sampleRaMsg1Size) (registered : provider.gIsSpRegistered = true) :
    (Overruns table build calls provider msg1 ∧
      spRaProcMsg1Req table build primitives calls provider (some msg1) msg1Size true =
        .error .outOfBlock) ∨
    (¬ Overruns table build calls provider msg1 ∧
      ∃ result, spRaProcMsg1Req table build primitives calls provider (some msg1) msg1Size true =
        .ok result ∧ Msg1Outcome table build primitives calls provider msg1 (.ok result)) := by
  have overruns := msg1_overruns_iff table build primitives calls provider msg1 msg1Size exact
    registered
  have outcome := msg1_outcome table build primitives calls provider msg1 msg1Size exact registered
  obtain ⟨current, points⟩ := standing.pointed registered
  obtain ⟨group, entry⟩ := standing.inside current points
  cases ran : spRaProcMsg1Req table build primitives calls provider (some msg1) msg1Size true with
  | error cause =>
      rw [ran] at outcome
      cases outcome with
      | nullGroup pointer => simp [points] at pointer
      | wildGroup i pointer outside =>
          rw [points] at pointer
          cases pointer
          simp [entry] at outside
      | overrun => exact Or.inl ⟨overruns.mp ran, rfl⟩
  | ok result =>
      rw [ran] at outcome
      refine Or.inr ⟨fun overrun => ?_, result, rfl, outcome⟩
      rw [overruns.mpr overrun] at ran
      cases ran

end Invariant

section Acceptance

/-- An accepted MSG0 stands for a registration with the requested group, and an
unsupported one is turned down without a trace. -/
def AcceptanceMeansRegistration (table : List (SampleExtendedEpidGroup World)) (before : Provider)
    (extendedEpidGroupId : UInt32) (result : HandlerResult) : Prop :=
  (result.ret = SpRaMsgStatus.ok.code →
    (∃ block, result.response = some (some block)) ∧ result.provider.gIsSpRegistered = true ∧
      ∃ i group, result.provider.gSpExtendedEpidGroupId = some i ∧ table[i]? = some group ∧
        group.extendedEpidGroupId = extendedEpidGroupId) ∧
  ((∀ group ∈ table, group.extendedEpidGroupId ≠ extendedEpidGroupId) →
    result.ret = SpRaMsgStatus.unsupportedExtendedEpidGroup.code ∧ result.response = some none ∧
      SameRegistration before result.provider)

theorem msg0Reply_accepted (malloc : Nat → Bool) (provider : Provider) (calls : List SpCall)
    (accepted : (msg0Reply malloc provider calls).ret = SpRaMsgStatus.ok.code) :
    (msg0Reply malloc provider calls).response = some (some msg0Response) := by
  rw [msg0Reply] at accepted ⊢
  split
  · rfl
  · rename_i refused
    rw [if_neg refused] at accepted
    cases accepted

theorem msg0Reply_ret (malloc : Nat → Bool) (provider : Provider) (calls : List SpCall) :
    (msg0Reply malloc provider calls).ret ≠
      SpRaMsgStatus.unsupportedExtendedEpidGroup.code := by
  rw [msg0Reply]
  split <;> simp [SpRaMsgStatus.code]

variable {table : List (SampleExtendedEpidGroup World)}

theorem acceptance_of_supported (calls : Msg0Calls World) (before : Provider)
    (extendedEpidGroupId : UInt32) (result : HandlerResult) (standing : Standing table before)
    (supported : ∃ group ∈ table, group.extendedEpidGroupId = extendedEpidGroupId)
    (outcome : Msg0Outcome table calls before extendedEpidGroupId result) :
    AcceptanceMeansRegistration table before extendedEpidGroupId result := by
  obtain ⟨known, member, matching⟩ := supported
  refine ⟨fun accepted => ?_, fun absent => (absent known member matching).elim⟩
  cases outcome with
  | kept registered current =>
      obtain ⟨i, pointer⟩ := standing.pointed registered
      obtain ⟨group, entry⟩ := standing.inside i pointer
      rw [msg0Reply_provider]
      exact ⟨⟨_, msg0Reply_accepted _ _ _ accepted⟩, registered, i, group, pointer, entry,
        current i group pointer entry⟩
  | unsupported absent => exact (absent known member matching).elim
  | enrollFailed i group entry same selects failed => cases accepted
  | enrolled i group entry same selects succeeded =>
      rw [msg0Reply_provider]
      exact ⟨⟨_, msg0Reply_accepted _ _ _ accepted⟩, rfl, i, group, rfl, entry, same⟩

theorem supported_of_acceptance (calls : Msg0Calls World) (before : Provider)
    (extendedEpidGroupId : UInt32) (result : HandlerResult) (standing : Standing table before)
    (accepted : AcceptanceMeansRegistration table before extendedEpidGroupId result)
    (outcome : Msg0Outcome table calls before extendedEpidGroupId result) :
    ∃ group ∈ table, group.extendedEpidGroupId = extendedEpidGroupId := by
  cases outcome with
  | kept registered current =>
      obtain ⟨i, pointer⟩ := standing.pointed registered
      obtain ⟨group, entry⟩ := standing.inside i pointer
      exact ⟨group, List.mem_of_getElem? entry, current i group pointer entry⟩
  | unsupported absent => exact (msg0Reply_ret _ _ _ (accepted.2 absent).1).elim
  | enrollFailed i group entry same selects failed =>
      exact ⟨group, List.mem_of_getElem? entry, same⟩
  | enrolled i group entry same selects succeeded =>
      exact ⟨group, List.mem_of_getElem? entry, same⟩

/-- In every reachable state a MSG0 is answered as it should be exactly when it
asks for a group of the table. -/
theorem msg0_acceptance_iff_supported (table : List (SampleExtendedEpidGroup World))
    (build : Build) (primitives : Primitives) (events : List (Event World)) (provider : Provider)
    (run : Run table build primitives events provider) (calls : Msg0Calls World)
    (msg0 : SampleRaMsg0) (msg0Size : UInt32) (exact : msg0Size.toNat = sampleRaMsg0Size) :
    ∃ result, spRaProcMsg0Req table calls provider (some msg0) msg0Size true = .ok result ∧
      (AcceptanceMeansRegistration table provider msg0.extendedEpidGroupId result ↔
        ∃ group ∈ table, group.extendedEpidGroupId = msg0.extendedEpidGroupId) := by
  have standing := run_standing _ events provider run
  obtain ⟨result, ran, outcome⟩ := msg0_outcome table calls provider msg0 msg0Size exact
    standing.inside
  refine ⟨result, ran, ?_, ?_⟩
  · intro accepted
    exact supported_of_acceptance calls provider _ result standing accepted outcome
  · intro supported
    exact acceptance_of_supported calls provider _ result standing supported outcome

def blankPrimitives : Primitives := ⟨fun _ _ => zeroBytes 16, fun _ => zeroBytes 32⟩

theorem msg0_acceptance_iff_supported_zero :
    ∃ result, spRaProcMsg0Req (gExtendedEpidGroups Unit) ⟨(), fun _ => true⟩ startUp (some ⟨0⟩) 4
      true = .ok result ∧ AcceptanceMeansRegistration (gExtendedEpidGroups Unit) startUp 0 result := by
  obtain ⟨result, ran, accepted⟩ := msg0_acceptance_iff_supported (gExtendedEpidGroups Unit)
    .defaultKeyDerivation blankPrimitives [] startUp .startUp ⟨(), fun _ => true⟩ ⟨0⟩ 4 rfl
  exact ⟨result, ran, accepted.mpr ⟨_, List.mem_singleton_self _, rfl⟩⟩

theorem msg0_acceptance_unsupported :
    (∀ group ∈ gExtendedEpidGroups Unit, group.extendedEpidGroupId ≠ 1) ∧
      ∃ result, spRaProcMsg0Req (gExtendedEpidGroups Unit) ⟨(), fun _ => true⟩ startUp (some ⟨1⟩) 4
          true = .ok result ∧
        result.ret = SpRaMsgStatus.ok.code ∧ result.provider.gIsSpRegistered = false ∧
        ¬ AcceptanceMeansRegistration (gExtendedEpidGroups Unit) startUp 1 result := by
  have absent : ∀ group ∈ gExtendedEpidGroups Unit, group.extendedEpidGroupId ≠ 1 := by
    intro group member
    rw [List.mem_singleton.mp member]
    decide
  refine ⟨absent, _, rfl, rfl, rfl, ?_⟩
  rintro ⟨accepted, _⟩
  cases (accepted rfl).2.1

end Acceptance

section Enrollment

def enrolls (i : Nat) (calls : List SpCall) : List Int :=
  calls.filterMap fun call => match call with
    | .enroll j ret => if j = i then some ret else none
    | _ => none

def history (events : List (Event World)) : List SpCall :=
  events.flatMap fun event => event.result.calls

theorem enrolls_append (i : Nat) (calls more : List SpCall) :
    enrolls i (calls ++ more) = enrolls i calls ++ enrolls i more :=
  List.filterMap_append

def Enrolled (i : Nat) (calls : List SpCall) : Prop := (enrolls i calls).getLast? = some 0

def GroupEnrolled (table : List (SampleExtendedEpidGroup World)) (calls : List SpCall)
    (provider : Provider) : Prop :=
  provider.gIsSpRegistered = true → ∃ i group, provider.gSpExtendedEpidGroupId = some i ∧
    table[i]? = some group ∧ Enrolled i calls

/-- A registered provider is asked to change to another supported group, and the
enrollment with that one fails. -/
def FailedSwitch (table : List (SampleExtendedEpidGroup World)) (event : Event World) : Prop :=
  IsMsg0 event ∧ event.before.gIsSpRegistered = true ∧
    (∀ i current, event.before.gSpExtendedEpidGroupId = some i → table[i]? = some current →
      current.extendedEpidGroupId ≠ (asMsg0 event.request.body).extendedEpidGroupId) ∧
    ∃ group ∈ table,
      group.extendedEpidGroupId = (asMsg0 event.request.body).extendedEpidGroupId ∧
      (event.before.enrollment event.calls.msg0.world group).ret ≠ 0

theorem history_append (events : List (Event World)) (event : Event World) :
    history (events ++ [event]) = history events ++ event.result.calls := by
  simp [history]

theorem enrolled_append (i : Nat) (calls more : List SpCall) (quiet : enrolls i more = []) :
    Enrolled i (calls ++ more) ↔ Enrolled i calls := by
  rw [Enrolled, Enrolled, enrolls_append, quiet, List.append_nil]

theorem enrolled_snoc (i : Nat) (calls : List SpCall) (ret : Int) (more : List SpCall)
    (quiet : enrolls i more = []) :
    Enrolled i (calls ++ (.enroll i ret :: more)) ↔ ret = 0 := by
  have split : calls ++ (SpCall.enroll i ret :: more) = (calls ++ [.enroll i ret]) ++ more := by
    simp
  rw [split, enrolled_append i _ more quiet, Enrolled, enrolls, List.filterMap_append]
  simp

variable {table : List (SampleExtendedEpidGroup World)} {build : Build} {primitives : Primitives}

theorem msg1_quiet (calls : Msg1Calls World) (before : Provider) (msg1 : SampleRaMsg1)
    (result : HandlerResult)
    (outcome : Msg1Outcome table build primitives calls before msg1 (.ok result)) (i : Nat) :
    enrolls i result.calls = [] := by
  have quiet : ∀ secret j, enrolls i (fetchedLog build primitives calls secret j) = [] := by
    intro secret j
    rw [enrolls, List.filterMap_eq_nil_iff]
    intro call made
    rcases mem_fetchedLog build primitives calls secret j call made with rfl | rfl | ⟨heap, rfl⟩ <;>
      rfl
  cases outcome with
  | openFailed | keyPairFailed | dhFailed | sigrlFailed => rfl
  | deriveFailed | mallocFailed | sealFailed | completed =>
      simp only [enrolls_append, quiet]
      rfl

theorem msg0Reply_calls (malloc : Nat → Bool) (provider : Provider) (calls : List SpCall) :
    ∃ obtained, (msg0Reply malloc provider calls).calls = calls ++ [.malloc 272 obtained] := by
  rw [msg0Reply]
  split
  · exact ⟨true, rfl⟩
  · exact ⟨false, rfl⟩

theorem groupEnrolled_quiet (before after : Provider) (calls more : List SpCall)
    (same : SameRegistration before after) (quiet : ∀ i, enrolls i more = [])
    (enrolled : GroupEnrolled table calls before) : GroupEnrolled table (calls ++ more) after := by
  intro registered
  obtain ⟨i, group, pointer, entry, last⟩ := enrolled (same.1 ▸ registered)
  exact ⟨i, group, same.2.1.trans pointer, entry, (enrolled_append i _ _ (quiet i)).mpr last⟩

theorem mustSelect_differs (before : Provider) (extendedEpidGroupId : UInt32)
    (registered : before.gIsSpRegistered = true)
    (selects : mustSelect table before extendedEpidGroupId = .ok true) (i : Nat)
    (current : SampleExtendedEpidGroup World) (pointer : before.gSpExtendedEpidGroupId = some i)
    (entry : table[i]? = some current) : current.extendedEpidGroupId ≠ extendedEpidGroupId := by
  simpa [mustSelect, registered, pointer, entry] using selects

theorem groupEnrolled_step (events : List (Event World)) (event : Event World)
    (standing : Standing table event.before) (allowed : ¬ FailedSwitch table event)
    (handled : Handles table build primitives event)
    (enrolled : GroupEnrolled table (history events) event.before) :
    GroupEnrolled table (history (events ++ [event])) event.result.provider := by
  rw [history_append]
  rcases handles_cases event standing.inside handled with
    ⟨isMsg0, result, delivered, outcome⟩ | ⟨_, result, delivered, outcome⟩ |
      ⟨_, _, ret, _, refused⟩
  · obtain ⟨_, provider, calls, _⟩ := deliver_ok result _ delivered
    rw [provider, calls]
    cases outcome with
    | kept registered current =>
        obtain ⟨obtained, made⟩ := msg0Reply_calls event.calls.msg0.malloc event.before []
        rw [msg0Reply_provider, made]
        exact groupEnrolled_quiet _ _ _ _ (sameRegistration_refl _) (fun _ => rfl) enrolled
    | unsupported absent =>
        obtain ⟨obtained, made⟩ := msg0Reply_calls event.calls.msg0.malloc event.before []
        rw [msg0Reply_provider, made]
        exact groupEnrolled_quiet _ _ _ _ (sameRegistration_refl _) (fun _ => rfl) enrolled
    | enrollFailed i group entry same selects failed =>
        intro registered
        apply (allowed _).elim
        exact ⟨isMsg0, registered, mustSelect_differs _ _ registered selects, group,
          List.mem_of_getElem? entry, same, failed⟩
    | enrolled i group entry same selects succeeded =>
        obtain ⟨obtained, made⟩ := msg0Reply_calls event.calls.msg0.malloc
          { event.before.enrolledAt i (event.before.enrollment event.calls.msg0.world group) with
            gIsSpRegistered := true } [.enroll i 0]
        rw [msg0Reply_provider, made]
        intro _
        exact ⟨i, group, rfl, entry, (enrolled_snoc i _ 0 _ rfl).mpr rfl⟩
  · obtain ⟨_, provider, calls, _⟩ := deliver_ok result _ delivered
    rw [provider, calls]
    exact groupEnrolled_quiet _ _ _ _ (msg1_sameRegistration _ _ _ _ outcome)
      (msg1_quiet _ _ _ _ outcome) enrolled
  · rw [refused, List.append_nil]
    exact enrolled

theorem failedSwitch_step (events : List (Event World)) (event : Event World)
    (distinct : (table.map fun group => group.extendedEpidGroupId).Nodup)
    (standing : Standing table event.before) (failed : FailedSwitch table event)
    (handled : Handles table build primitives event) :
    ¬ GroupEnrolled table (history (events ++ [event])) event.result.provider := by
  obtain ⟨isMsg0, registered, differs, group, member, matching, refuses⟩ := failed
  intro enrolled
  rw [history_append] at enrolled
  rcases handles_cases event standing.inside handled with
    ⟨_, result, delivered, outcome⟩ | ⟨taken, _⟩ | ⟨notMsg0, _⟩
  · obtain ⟨_, provider, calls, _⟩ := deliver_ok result _ delivered
    rw [provider, calls] at enrolled
    cases outcome with
    | kept _ current =>
        obtain ⟨i, pointer⟩ := standing.pointed registered
        obtain ⟨found, entry⟩ := standing.inside i pointer
        exact differs i found pointer entry (current i found pointer entry)
    | unsupported absent => exact absent group member matching
    | enrollFailed i found entry same selects notZero =>
        obtain ⟨j, _, pointer, _, last⟩ := enrolled registered
        cases pointer
        exact notZero ((enrolled_snoc i _ _ [] rfl).mp last)
    | enrolled i found entry same selects succeeded =>
        have only : found = group := List.inj_on_of_nodup_map distinct
          (List.mem_of_getElem? entry) member (same.trans matching.symm)
        rw [only] at succeeded
        exact refuses succeeded
  · have types : typeRaMsg0 = typeRaMsg1 := isMsg0.1.symm.trans taken.1
    cases types
  · exact notMsg0 isMsg0

theorem getSigrl_fetchedLog (calls : Msg1Calls World) (secret : EcDhShared) (i j : Nat) (ret : Int)
    (asked : .getSigrl i ret ∈ fetchedLog build primitives calls secret j) : i = j := by
  rcases mem_fetchedLog build primitives calls secret j _ asked with other | same | ⟨heap, other⟩
  · cases other
  · cases same
    rfl
  · cases other

theorem msg1_pointer (calls : Msg1Calls World) (provider : Provider) (msg1 : SampleRaMsg1)
    (result : HandlerResult)
    (outcome : Msg1Outcome table build primitives calls provider msg1 (.ok result)) (i : Nat)
    (ret : Int) (asked : SpCall.getSigrl i ret ∈ result.calls) :
    provider.gSpExtendedEpidGroupId = some i := by
  have first : ∀ secret j, .getSigrl i ret ∈ fetchedLog build primitives calls secret j → i = j :=
    fun secret j => getSigrl_fetchedLog calls secret i j ret
  cases outcome with
  | openFailed failed => simp at asked
  | keyPairFailed opened failed => simp at asked
  | dhFailed priv pub opened keyPair failed => simp at asked
  | sigrlFailed priv pub secret j group exchanged pointer entry failed =>
      have same : i = j := by simp_all
      rw [same, pointer]
  | deriveFailed priv pub secret j sigRl exchanged fetched =>
      have same : i = j := first secret j (by simpa using asked)
      rw [same, fetched.pointer]
  | mallocFailed priv pub secret j sigRl exchanged fetched =>
      have same : i = j := first secret j (by simpa using asked)
      rw [same, fetched.pointer]
  | sealFailed priv pub secret j sigRl exchanged fetched =>
      have same : i = j := first secret j (by simpa using asked)
      rw [same, fetched.pointer]
  | completed priv pub secret j sigRl signature exchanged fetched =>
      have same : i = j := first secret j (by simpa using asked)
      rw [same, fetched.pointer]

theorem msg1_asks (calls : Msg1Calls World) (provider : Provider) (pMsg1 : Option SampleRaMsg1)
    (msg1Size : UInt32) (ppMsg2 : Bool) (standing : Standing table provider) :
    (∃ result, spRaProcMsg1Req table build primitives calls provider pMsg1 msg1Size ppMsg2 =
        .ok result ∧
      ∀ i ret, SpCall.getSigrl i ret ∈ result.calls →
        provider.gIsSpRegistered = true ∧ provider.gSpExtendedEpidGroupId = some i) ∨
    (spRaProcMsg1Req table build primitives calls provider pMsg1 msg1Size ppMsg2 =
        .error .outOfBlock ∧
      ∃ msg1, pMsg1 = some msg1 ∧ Overruns table build calls provider msg1 ∧
        ∀ i ret, SpCall.getSigrl i ret ∈ (last (prepareMsg2 table build primitives calls msg1
            ⟨provider, 0, none, false, []⟩)).calls →
          provider.gIsSpRegistered = true ∧ provider.gSpExtendedEpidGroupId = some i) := by
  cases pMsg1 with
  | none => exact Or.inl ⟨_, rfl, fun _ _ member => (List.not_mem_nil member).elim⟩
  | some msg1 =>
      by_cases refused : ppMsg2 = false ∨ msg1Size.toNat ≠ sampleRaMsg1Size
      · exact Or.inl ⟨_, by rw [spRaProcMsg1Req, if_pos refused],
          fun _ _ member => (List.not_mem_nil member).elim⟩
      by_cases registered : provider.gIsSpRegistered = true
      · obtain ⟨output, exact⟩ := not_or.mp refused
        rw [Bool.not_eq_false] at output
        subst output
        rcases msg1_registered primitives calls provider standing msg1 msg1Size (not_not.mp exact)
          registered with ⟨overruns, faulted⟩ | ⟨_, result, ran, outcome⟩
        · refine Or.inr ⟨faulted, msg1, rfl, overruns, fun i ret member => ⟨registered, ?_⟩⟩
          obtain ⟨priv, pub, secret, j, sigRl, overrun⟩ := overruns
          obtain ⟨written, ends⟩ := overrun.ends primitives
          rw [ends] at member
          have same : i = j :=
            getSigrl_fetchedLog calls secret i j ret (by simpa [last] using member)
          rw [same, overrun.fetched.pointer]
        · exact Or.inl ⟨result, ran, fun i ret member =>
            ⟨registered, msg1_pointer calls provider msg1 result outcome i ret member⟩⟩
      · exact Or.inl ⟨_, by rw [spRaProcMsg1Req, if_neg refused, if_pos (by simpa using registered)],
          fun _ _ member => (List.not_mem_nil member).elim⟩

theorem run_groupEnrolled (events : List (Event World)) (provider : Provider)
    (run : RunOf table build primitives (fun event => ¬ FailedSwitch table event) events provider) :
    GroupEnrolled table (history events) provider :=
  RunOf.invariant (fun events => GroupEnrolled table (history events)) (fun registered => nomatch registered)
    (fun events event run allowed handled enrolled =>
      groupEnrolled_step events event (run_standing _ _ _ run) allowed handled enrolled)
    events provider run

/-- Runs without a failed switch keep the registration true to the group in use, and no
other is asked, whether MSG1 comes back or overruns its response; a failed switch
always breaks it. -/
theorem registered_group_enrolled (table : List (SampleExtendedEpidGroup World)) (build : Build)
    (primitives : Primitives)
    (distinct : (table.map fun group => group.extendedEpidGroupId).Nodup) :
    (∀ events provider,
      RunOf table build primitives (fun event => ¬ FailedSwitch table event) events provider →
      GroupEnrolled table (history events) provider ∧
      ∀ calls pMsg1 msg1Size ppMsg2,
        (∃ result, spRaProcMsg1Req table build primitives calls provider pMsg1 msg1Size ppMsg2 =
            .ok result ∧
          ∀ i ret, SpCall.getSigrl i ret ∈ result.calls → Enrolled i (history events)) ∨
        (spRaProcMsg1Req table build primitives calls provider pMsg1 msg1Size ppMsg2 =
            .error .outOfBlock ∧
          ∃ msg1, pMsg1 = some msg1 ∧ Overruns table build calls provider msg1 ∧
            ∀ i ret, SpCall.getSigrl i ret ∈ (last (prepareMsg2 table build primitives calls msg1
              ⟨provider, 0, none, false, []⟩)).calls → Enrolled i (history events))) ∧
    ∀ events event, Run table build primitives events event.before →
      Handles table build primitives event → FailedSwitch table event →
      ¬ GroupEnrolled table (history (events ++ [event])) event.result.provider := by
  constructor
  · intro events provider run
    have enrolled := run_groupEnrolled events provider run
    have current : ∀ i, provider.gIsSpRegistered = true ∧
        provider.gSpExtendedEpidGroupId = some i → Enrolled i (history events) := by
      rintro i ⟨registered, pointer⟩
      obtain ⟨j, group, points, entry, last⟩ := enrolled registered
      rw [pointer] at points
      cases points
      exact last
    refine ⟨enrolled, fun calls pMsg1 msg1Size ppMsg2 => ?_⟩
    rcases msg1_asks calls provider pMsg1 msg1Size ppMsg2 (run_standing _ _ _ run) with
      ⟨result, ran, asks⟩ | ⟨faulted, msg1, given, overruns, asks⟩
    · exact Or.inl ⟨result, ran, fun i ret member => current i (asks i ret member)⟩
    · exact Or.inr ⟨faulted, msg1, given, overruns,
        fun i ret member => current i (asks i ret member)⟩
  · intro events event run handled failed
    exact failedSwitch_step events event distinct (run_standing _ _ _ run) failed handled

def twoGroups : List (SampleExtendedEpidGroup Unit) :=
  [⟨0, iasEnroll Unit, iasGetSigrl Unit⟩,
    ⟨1, fun _ _ spid token => ⟨1, spid, token⟩, iasGetSigrl Unit⟩]

def idleCalls : RequestCalls Unit where
  msg0 := ⟨(), fun _ => true⟩
  msg1 :=
    { world := ()
      openContext := false
      createKeyPair := none
      computeSharedDhkey := fun _ _ => none
      sha := fun _ => ⟨true, true, true, true, true⟩
      derive := fun _ => ⟨.success, true, .success⟩
      malloc := fun _ => true
      ecdsaSign := fun _ _ => none
      cmac := .success }

def askFor (extendedEpidGroupId : UInt8) : RaSampRequest :=
  ⟨typeRaMsg0, 4, fun i => if i = 0 then extendedEpidGroupId else 0⟩

def registeredZero : Provider :=
  { startUp.enrolledAt 0 ⟨0, gSimSpid, 0⟩ with gIsSpRegistered := true }

def askedZero : Event Unit where
  before := startUp
  request := askFor 0
  calls := idleCalls
  result := ⟨0, some (some msg0Response), registeredZero,
    [.enroll 0 0, .malloc (msg0RespSize.toNat + headerSize) true]⟩

def askedOne : Event Unit where
  before := registeredZero
  request := askFor 1
  calls := idleCalls
  result := ⟨SpRaMsgStatus.iasFailed.code, none,
    { registeredZero with gSpExtendedEpidGroupId := some 1 }, [.enroll 1 1]⟩

theorem askedZero_run (build : Build) (primitives : Primitives) :
    RunOf twoGroups build primitives (fun event => ¬ FailedSwitch twoGroups event) [askedZero]
      registeredZero := by
  apply RunOf.request [] askedZero .startUp
  · rintro ⟨_, registered, _⟩
    cases registered
  · rfl

theorem registered_group_enrolled_zero :
    ∃ i group, registeredZero.gSpExtendedEpidGroupId = some i ∧ twoGroups[i]? = some group ∧
      Enrolled i (history [askedZero]) := by
  have safe := (registered_group_enrolled twoGroups .defaultKeyDerivation blankPrimitives
    (by decide)).1 [askedZero] registeredZero (askedZero_run _ _)
  exact safe.1 rfl

/-- The second group's enrollment fails, and from then on the provider counts as
registered with it and asks it for revocation lists. -/
theorem failed_switch_registered :
    ∃ events provider, Run twoGroups .defaultKeyDerivation blankPrimitives events provider ∧
      provider.gIsSpRegistered = true ∧ provider.gSpExtendedEpidGroupId = some 1 ∧
      enrolls 1 (history events) = [1] ∧
      ¬ GroupEnrolled twoGroups (history events) provider := by
  refine ⟨[askedZero] ++ [askedOne], askedOne.result.provider, ?_, rfl, rfl, rfl, ?_⟩
  · apply RunOf.request [askedZero] askedOne _ trivial
    · rfl
    · exact RunOf.request [] askedZero .startUp trivial rfl
  · intro enrolled
    obtain ⟨i, _, pointer, _, last⟩ := enrolled rfl
    cases pointer
    cases last

end Enrollment

section Sessions

def answerOf (answer : Except Fault NetworkResult) : NetworkResult :=
  match answer with
  | .ok result => result
  | .error _ => ⟨-1, none, startUp, []⟩

def send (before : Provider) (request : RaSampRequest) (calls : RequestCalls Unit) : Event Unit where
  before := before
  request := request
  calls := calls
  result := answerOf (raNetworkSendReceive (gExtendedEpidGroups Unit) .defaultKeyDerivation
    blankPrimitives calls before true (some request) true)

def smoothCalls : RequestCalls Unit where
  msg0 := ⟨(), fun _ => true⟩
  msg1 := { idleCalls.msg1 with
    openContext := true
    createKeyPair := some (fun _ => 2, fun _ => 3)
    computeSharedDhkey := fun _ _ => some fun _ => 4
    ecdsaSign := fun _ _ => some fun _ => 5 }

def helloMsg1 : RaSampRequest := ⟨typeRaMsg1, 68, fun _ => 1⟩

def registration : Event Unit := send startUp (askFor 0) smoothCalls

def completedExchange : Event Unit := send registration.result.provider helloMsg1 smoothCalls

theorem registration_run :
    Run (gExtendedEpidGroups Unit) .defaultKeyDerivation blankPrimitives [registration]
      registration.result.provider :=
  RunOf.request [] registration .startUp trivial rfl

def listGroup (sigRl : SigRl) : SampleExtendedEpidGroup Unit :=
  ⟨0, iasEnroll Unit, fun _ _ => ⟨0, sigRl⟩⟩

theorem listGroup_run (sigRl : SigRl) (build : Build) (primitives : Primitives) :
    Run [listGroup sigRl] build primitives [askedZero] registeredZero :=
  RunOf.request [] askedZero .startUp trivial rfl

theorem listGroup_fetched (sigRl : SigRl) :
    Fetched [listGroup sigRl] smoothCalls.msg1 registeredZero (asMsg1 fun _ => 1) 0 sigRl :=
  ⟨rfl, listGroup sigRl, rfl, rfl⟩

def zeroList (length : Nat) (short : length < 2 ^ 32) : SigRl :=
  ⟨List.replicate length 0, List.length_replicate.trans_lt short⟩

/-- The shortest list for which the sum wraps, to 0. -/
def wrappingList : SigRl := zeroList (2 ^ 32 - 168) (by decide)

theorem wrappingList_length : sampleRaMsg2Size + wrappingList.bytes.length = 2 ^ 32 := by
  have length : wrappingList.bytes.length = 2 ^ 32 - 168 := List.length_replicate
  rw [length, sampleRaMsg2Size]
  omega

theorem list_overruns (sigRl : SigRl) (wraps : sampleRaMsg2Size + sigRl.bytes.length = 2 ^ 32) :
    Overruns [listGroup sigRl] .suppliedKeyDerivation smoothCalls.msg1 registeredZero
      (asMsg1 fun _ => 1) := by
  refine ⟨_, _, _, 0, sigRl, ⟨rfl, rfl, rfl⟩, listGroup_fetched sigRl, ?_, rfl, ?_⟩
  · intro key
    cases key <;> rfl
  · rw [msg2Size_mod, wraps, Nat.mod_self]
    change 0 < sampleRaMsg2Size + sigRl.bytes.length
    rw [wraps]
    exact Nat.two_pow_pos 32

end Sessions

end SgxExperiments.Registration
