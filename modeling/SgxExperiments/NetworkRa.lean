import SgxExperiments.Msg1Overrun

/-!
network_ra.cpp: `ra_network_send_receive` hands a request to its handler. A
whole life of the service provider is a run of requests, each with the outcome
of what its handler calls.
-/

namespace SgxExperiments.NetworkRa

open ByteMemory KeyDerivation ServiceProvider

variable {World : Type}

structure RaSampRequest where
  type : UInt8
  size : UInt32
  body : Nat → UInt8

-- the casts of the bytes after the header
def asMsg0 (body : Nat → UInt8) : SampleRaMsg0 :=
  ⟨UInt32.ofNat (leValue fun i : Fin 4 => body i)⟩

def asMsg1 (body : Nat → UInt8) : SampleRaMsg1 :=
  ⟨fun i => body i, fun i => body (64 + i)⟩

structure RequestCalls (World : Type) where
  msg0 : Msg0Calls World
  msg1 : Msg1Calls World

structure NetworkResult where
  ret : Int
  resp : Option (Option Block)
  provider : Provider
  calls : List SpCall

/-- `*p_resp = p_resp_msg` after a zero result; the local is uninitialised unless
the handler has stored to it. -/
def deliver (handled : HandlerResult) : Except Fault NetworkResult :=
  if handled.ret ≠ 0 then .ok ⟨handled.ret, none, handled.provider, handled.calls⟩
  else match handled.response with
    | none => .error .uninitialisedRead
    | some response => .ok ⟨handled.ret, some response, handled.provider, handled.calls⟩

section Model

variable (table : List (SampleExtendedEpidGroup World)) (build : Build) (primitives : Primitives)

def raNetworkSendReceive (calls : RequestCalls World) (provider : Provider) (serverUrl : Bool)
    (pReq : Option RaSampRequest) (pResp : Bool) : Except Fault NetworkResult :=
  match pReq with
  | none => .ok ⟨-1, none, provider, []⟩
  | some request =>
      if serverUrl = false ∨ pResp = false then .ok ⟨-1, none, provider, []⟩
      else if request.type = typeRaMsg0 then
        (spRaProcMsg0Req table calls.msg0 provider (some (asMsg0 request.body)) request.size
          true).bind deliver
      else if request.type = typeRaMsg1 then
        (spRaProcMsg1Req table build primitives calls.msg1 provider (some (asMsg1 request.body))
          request.size true).bind deliver
      else .ok ⟨-1, none, provider, []⟩

structure Event (World : Type) where
  before : Provider
  request : RaSampRequest
  calls : RequestCalls World
  result : NetworkResult

def Handles (event : Event World) : Prop :=
  raNetworkSendReceive table build primitives event.calls event.before true (some event.request)
    true = .ok event.result

inductive RunOf (Allowed : Event World → Prop) : List (Event World) → Provider → Prop where
  | startUp : RunOf Allowed [] startUp
  | request (events : List (Event World)) (event : Event World)
      (run : RunOf Allowed events event.before) (allowed : Allowed event)
      (handled : Handles table build primitives event) :
      RunOf Allowed (events ++ [event]) event.result.provider

abbrev Run (events : List (Event World)) (provider : Provider) : Prop :=
  RunOf table build primitives (fun _ => True) events provider

end Model

/-- What holds at start-up and is kept by every request of a run holds all through it. -/
theorem RunOf.invariant {table : List (SampleExtendedEpidGroup World)} {build : Build}
    {primitives : Primitives} {Allowed : Event World → Prop}
    (Inv : List (Event World) → Provider → Prop) (start : Inv [] ServiceProvider.startUp)
    (step : ∀ events event, RunOf table build primitives Allowed events event.before →
      Allowed event → Handles table build primitives event → Inv events event.before →
      Inv (events ++ [event]) event.result.provider)
    (events : List (Event World)) (provider : Provider)
    (run : RunOf table build primitives Allowed events provider) : Inv events provider := by
  induction run with
  | startUp => exact start
  | request events event run allowed handled ih => exact step events event run allowed handled ih

def TakenUp (event : Event World) : Prop :=
  event.request.type = typeRaMsg1 ∧ event.request.size.toNat = sampleRaMsg1Size ∧
    event.before.gIsSpRegistered = true

def IsMsg0 (event : Event World) : Prop :=
  event.request.type = typeRaMsg0 ∧ event.request.size.toNat = sampleRaMsg0Size

section Events

variable {table : List (SampleExtendedEpidGroup World)} {build : Build} {primitives : Primitives}

theorem deliver_ok (handled : HandlerResult) (result : NetworkResult)
    (delivered : deliver handled = .ok result) :
    result.ret = handled.ret ∧ result.provider = handled.provider ∧
      result.calls = handled.calls ∧ (handled.ret = 0 → result.resp = handled.response) := by
  rw [deliver] at delivered
  split at delivered
  · rename_i failed
    cases delivered
    exact ⟨rfl, rfl, rfl, fun zero => (failed zero).elim⟩
  · cases response : handled.response with
    | none => simp [response] at delivered
    | some given =>
        simp only [response, Except.ok.injEq] at delivered
        subst delivered
        exact ⟨rfl, rfl, rfl, fun _ => rfl⟩

def Refused (event : Event World) : Prop :=
  ∃ ret, ret ≠ 0 ∧ event.result = ⟨ret, none, event.before, []⟩

/-- A handled request is a MSG0 of the right size, a MSG1 that is taken up, or
refused. -/
theorem handles_cases (event : Event World) (valid : PointsInto table event.before)
    (handled : Handles table build primitives event) :
    (IsMsg0 event ∧ ∃ result, deliver result = .ok event.result ∧
      Msg0Outcome table event.calls.msg0 event.before
        (asMsg0 event.request.body).extendedEpidGroupId result) ∨
    (TakenUp event ∧ ∃ result, deliver result = .ok event.result ∧
      Msg1Outcome table build primitives event.calls.msg1 event.before
        (asMsg1 event.request.body) (.ok result)) ∨
    (¬ IsMsg0 event ∧ ¬ TakenUp event ∧ Refused event) := by
  obtain ⟨before, request, calls, result⟩ := event
  simp only [Handles, raNetworkSendReceive, Bool.true_eq_false, or_self, if_false] at handled
  by_cases first : request.type = typeRaMsg0
  · have notSecond : ¬ request.type = typeRaMsg1 := by
      rw [first]
      decide
    rw [if_pos first] at handled
    by_cases exact : request.size.toNat = sampleRaMsg0Size
    · obtain ⟨answer, ran, outcome⟩ := msg0_outcome table calls.msg0 before (asMsg0 request.body)
        request.size exact valid
      rw [ran] at handled
      exact Or.inl ⟨⟨first, exact⟩, answer, handled, outcome⟩
    · have refused : result = ⟨-1, none, before, []⟩ := by
        simpa [spRaProcMsg0Req, exact, Except.bind, deliver, eq_comm] using handled
      exact Or.inr (Or.inr ⟨fun msg0 => exact msg0.2, fun taken => notSecond taken.1,
        -1, by decide, refused⟩)
  · rw [if_neg first] at handled
    by_cases second : request.type = typeRaMsg1
    · rw [if_pos second] at handled
      by_cases exact : request.size.toNat = sampleRaMsg1Size
      · by_cases registered : before.gIsSpRegistered = true
        · have outcome := msg1_outcome table build primitives calls.msg1 before
            (asMsg1 request.body) request.size exact registered
          cases ran : spRaProcMsg1Req table build primitives calls.msg1 before
              (some (asMsg1 request.body)) request.size true with
          | error cause => simp [ran, Except.bind] at handled
          | ok answer =>
              rw [ran] at handled outcome
              exact Or.inr (Or.inl ⟨⟨second, exact, registered⟩, answer, handled, outcome⟩)
        · have refused : result = ⟨1, none, before, []⟩ := by
            simpa [spRaProcMsg1Req, exact, registered, Except.bind, deliver,
              SpRaMsgStatus.code, eq_comm] using handled
          exact Or.inr (Or.inr ⟨fun msg0 => first msg0.1, fun taken => registered taken.2.2,
            1, by decide, refused⟩)
      · have refused : result = ⟨-1, none, before, []⟩ := by
          simpa [spRaProcMsg1Req, exact, Except.bind, deliver, eq_comm] using handled
        exact Or.inr (Or.inr ⟨fun msg0 => first msg0.1, fun taken => exact taken.2.1,
          -1, by decide, refused⟩)
    · rw [if_neg second] at handled
      have refused : result = ⟨-1, none, before, []⟩ := by simpa [eq_comm] using handled
      exact Or.inr (Or.inr ⟨fun msg0 => first msg0.1, fun taken => second taken.1,
        -1, by decide, refused⟩)

end Events

end SgxExperiments.NetworkRa
