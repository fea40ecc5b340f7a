import SgxExperiments.LinkedMain

/-!
The process with its provider and its bytes refines `main` with the answers of that
provider: it ends like it and reads inside the responses. It only faults in the
provider, at a MSG1 that overruns its response.
-/

namespace SgxExperiments.LinkedMain

open ByteMemory BreakableBlock KeyDerivation ServiceProvider NetworkRa Registration Framing
open AttestationApp

variable {World : Type}

section Reads

def Inside (process : Process World) : Prop :=
  ∀ which response, process.responses which = some response →
    ∀ range ∈ response.reads, range.1 + range.2 ≤ response.block.size

def Points (process : Process World) (which : Response) (block : Block) : Prop :=
  ∃ reads, process.responses which = some ⟨block, reads⟩

/-- Same requests, same provider, same blocks, and only good reads. -/
structure Quiet (before after : Process World) : Prop where
  app : after.app = before.app
  provider : after.provider = before.provider
  events : after.events = before.events
  points : ∀ which block, Points before which block → Points after which block
  null : ∀ which, before.responses which = none → after.responses which = none
  inside : Inside after

theorem readFrom_quiet (process : Process World) (which : Response) (block : Block)
    (points : Points process which block) (inside : Inside process) (offset n : Nat)
    (fits : offset + n ≤ block.size) :
    ∃ ended, readFrom which offset n process = .ok (List.ofFn (block.load offset n)) ended ∧
      Quiet process ended := by
  obtain ⟨reads, held⟩ := points
  refine ⟨process.setResponse which (some ⟨block, reads ++ [(offset, n)]⟩), ?_, rfl, rfl, rfl, ?_, ?_, ?_⟩
  · simp only [readFrom, bind_run, get_run, held, modify_run]
    rfl
  · rintro other target ⟨old, present⟩
    by_cases same : other = which
    · subst same
      rw [held] at present
      cases present
      exact ⟨_, setResponse_self _ _ _⟩
    · exact ⟨old, (setResponse_other _ _ _ _ same).trans present⟩
  · intro other null
    have different : other ≠ which := by
      rintro rfl
      rw [held] at null
      cases null
    exact (setResponse_other _ _ _ _ different).trans null
  · intro other response present range member
    by_cases same : other = which
    · subst same
      rw [setResponse_self, Option.some.injEq] at present
      subst present
      rcases List.mem_append.mp member with before | last
      · exact inside other _ held range before
      · cases List.mem_singleton.mp last
        exact fits
    · rw [setResponse_other _ _ _ _ same] at present
      exact inside other response present range member

theorem readSize_quiet (process : Process World) (which : Response) (block : Block)
    (points : Points process which block) (inside : Inside process) (fits : 7 ≤ block.size) :
    ∃ ended, readSize which process = .ok (leValue (block.load 3 4)) ended ∧
      Quiet process ended := by
  obtain ⟨ended, went, quiet⟩ := readFrom_quiet process which block points inside 3 4 fits
  refine ⟨ended, ?_, quiet⟩
  rw [readSize, bind_of_ok _ _ _ _ _ went, pure_run]
  rfl

theorem Quiet.trans {before middle after : Process World} (first : Quiet before middle)
    (second : Quiet middle after) : Quiet before after where
  app := second.app.trans first.app
  provider := second.provider.trans first.provider
  events := second.events.trans first.events
  points which block held := second.points which block (first.points which block held)
  null which null := second.null which (first.null which null)
  inside := second.inside

theorem readBody_quiet (process : Process World) (which : Response) (block : Block)
    (points : Points process which block) (inside : Inside process)
    (size : leValue (block.load 3 4) + headerSize = block.size) :
    ∃ ended, readBody which process =
        .ok (List.ofFn (block.load headerSize (leValue (block.load 3 4)))) ended ∧
      Quiet process ended := by
  simp only [headerSize] at size
  obtain ⟨middle, sized, first⟩ := readSize_quiet process which block points inside (by omega)
  obtain ⟨ended, went, second⟩ := readFrom_quiet middle which block (first.points _ _ points)
    first.inside headerSize (leValue (block.load 3 4)) (by simp only [headerSize]; omega)
  exact ⟨ended, (bind_of_ok _ _ _ _ _ sized).trans went, first.trans second⟩

end Reads

section Requests

def Surroundings.msg0Event (env : Surroundings World) (first : NetworkResult) : Event World :=
  ⟨startUp, msg0Request, env.providerMsg0, first⟩

def Surroundings.msg1Event (env : Surroundings World) (first second : NetworkResult) : Event World :=
  ⟨first.provider, msg1Request env.msg1, env.providerMsg1, second⟩

def bodyOf (result : NetworkResult) : List UInt8 :=
  match result.resp.join with
  | none => []
  | some response => List.ofFn (response.load headerSize (leValue (response.load 3 4)))

theorem bodyOf_given (result : NetworkResult) (block : Block)
    (given : result.resp = some (some block)) :
    bodyOf result = List.ofFn (block.load headerSize (leValue (block.load 3 4))) := by
  rw [bodyOf, given]
  rfl

/-- With this answer to MSG0 the process gets as far as sending MSG1. -/
structure Sends (env : Surroundings World) (first : NetworkResult) : Prop where
  mallocMsg0 : env.mallocMsg0 = true
  answered : first.ret = 0
  selected : env.selectAttKeyId (bodyOf first) = .success
  started : Started (env.sdk [])
  msg1Made : Msg1Made (env.sdk [])

structure Answers (table : List (SampleExtendedEpidGroup World)) (build : Build)
    (primitives : Primitives) (env : Surroundings World) (first second : NetworkResult) : Prop where
  handled0 : Handles table build primitives (env.msg0Event first)
  handled1 : Sends env first → Handles table build primitives (env.msg1Event first second)

variable {table : List (SampleExtendedEpidGroup World)} {build : Build} {primitives : Primitives}
  {env : Surroundings World} {first second : NetworkResult}

theorem afterFirst (handled0 : Handles table build primitives (env.msg0Event first)) :
    Run table build primitives [env.msg0Event first] first.provider :=
  .request [] (env.msg0Event first) .startUp trivial handled0

theorem Answers.afterSecond (answers : Answers table build primitives env first second)
    (sent : Sends env first) :
    Run table build primitives [env.msg0Event first, env.msg1Event first second]
      second.provider :=
  .request [env.msg0Event first] (env.msg1Event first second) (afterFirst answers.handled0) trivial
    (answers.handled1 sent)

theorem first_exists (table : List (SampleExtendedEpidGroup World)) (build : Build)
    (primitives : Primitives) (env : Surroundings World) :
    ∃ first, Handles table build primitives (env.msg0Event first) := by
  obtain ⟨first, ran, _⟩ := send_framed primitives env.providerMsg0 startUp
    (startUp_standing table) msg0Request fun request => typeRaMsg1_ne request.type.symm
  exact ⟨first, ran⟩

/-- The MSG1 that is sent ends the process in the provider. -/
def Overrunning (table : List (SampleExtendedEpidGroup World)) (build : Build)
    (env : Surroundings World) (first : NetworkResult) : Prop :=
  Sends env first ∧
    RequestOverruns table build env.providerMsg1 first.provider (msg1Request env.msg1)

theorem answers_exist (handled0 : Handles table build primitives (env.msg0Event first))
    (answered : ¬ Overrunning table build env first) :
    ∃ second, Answers table build primitives env first second := by
  by_cases sent : Sends env first
  · obtain ⟨second, ran, _⟩ := send_framed primitives env.providerMsg1 first.provider
      (run_standing _ _ _ (afterFirst handled0)) (msg1Request env.msg1)
      fun overruns => answered ⟨sent, overruns⟩
    exact ⟨second, handled0, fun _ => ran⟩
  · exact ⟨first, handled0, fun sends => (sent sends).elim⟩

def answeredCalls (handled0 : Handles table build primitives (env.msg0Event first))
    (second : NetworkResult) : AppCalls :=
  env.calls (Msg0Answer.ofEvent [] (env.msg0Event first) .startUp handled0) (bodyOf first)
    (Msg1Answer.ofEvent (env.msg1Event first second)) (bodyOf second)

abbrev Answers.calls (answers : Answers table build primitives env first second) : AppCalls :=
  answeredCalls answers.handled0 second

end Requests

section Simulation

variable {table : List (SampleExtendedEpidGroup World)} {build : Build} {primitives : Primitives}
  {env : Surroundings World} {first second : NetworkResult}

def AtStart (process : Process World) : Prop :=
  process.provider = startUp ∧ process.events = [] ∧ process.responses = fun _ => none

structure AfterMsg0 (env : Surroundings World) (first : NetworkResult) (process : Process World) :
    Prop where
  provider : process.provider = first.provider
  events : process.events = [env.msg0Event first]
  msg2 : process.responses .msg2 = none
  inside : Inside process

structure AfterMsg1 (env : Surroundings World) (first second : NetworkResult)
    (process : Process World) : Prop where
  provider : process.provider = second.provider
  events : process.events = [env.msg0Event first, env.msg1Event first second]
  msg2 : ∀ block, second.resp = some (some block) → Points process .msg2 block
  inside : Inside process

/-- At whatever end: the requests sent, and good reads only. -/
structure Ended (table : List (SampleExtendedEpidGroup World)) (build : Build)
    (primitives : Primitives) (env : Surroundings World) (first second : NetworkResult)
    (process : Process World) : Prop where
  run : Run table build primitives process.events process.provider
  sent : process.events <+: [env.msg0Event first, env.msg1Event first second]
  inside : Inside process

theorem AtStart.inside {process : Process World} (start : AtStart process) : Inside process := by
  intro which response present
  rw [start.2.2] at present
  cases present

theorem AtStart.ended {process : Process World} (start : AtStart process) :
    Ended table build primitives env first second process where
  run := by
    rw [start.1, start.2.1]
    exact .startUp
  sent := by
    rw [start.2.1]
    exact List.nil_prefix
  inside := start.inside

theorem AfterMsg0.ended {process : Process World} (after : AfterMsg0 env first process)
    (handled0 : Handles table build primitives (env.msg0Event first)) :
    Ended table build primitives env first second process where
  run := by
    rw [after.provider, after.events]
    exact afterFirst handled0
  sent := by
    rw [after.events]
    exact List.prefix_append [env.msg0Event first] [env.msg1Event first second]
  inside := after.inside

theorem AfterMsg1.ended {process : Process World} (after : AfterMsg1 env first second process)
    (answers : Answers table build primitives env first second) (sent : Sends env first) :
    Ended table build primitives env first second process where
  run := by
    rw [after.provider, after.events]
    exact answers.afterSecond sent
  sent := ⟨[], by rw [after.events, List.append_nil]⟩
  inside := after.inside

theorem Ended.withApp {process : Process World} (app : AppFrame)
    (ended : Ended table build primitives env first second process) :
    Ended table build primitives env first second { process with app := app } :=
  ⟨ended.run, ended.sent, ended.inside⟩

theorem AtStart.withApp {process : Process World} (app : AppFrame) (start : AtStart process) :
    AtStart { process with app := app } :=
  start

theorem AfterMsg0.withApp {process : Process World} (app : AppFrame)
    (after : AfterMsg0 env first process) : AfterMsg0 env first { process with app := app } :=
  ⟨after.provider, after.events, after.msg2, after.inside⟩

theorem AfterMsg1.withApp {process : Process World} (app : AppFrame)
    (after : AfterMsg1 env first second process) :
    AfterMsg1 env first second { process with app := app } :=
  ⟨after.provider, after.events, after.msg2, after.inside⟩

theorem AfterMsg0.quiet {before after : Process World} (holds : AfterMsg0 env first before)
    (quiet : Quiet before after) : AfterMsg0 env first after :=
  ⟨quiet.provider.trans holds.provider, quiet.events.trans holds.events,
    quiet.null _ holds.msg2, quiet.inside⟩

theorem AfterMsg1.quiet {before after : Process World} (holds : AfterMsg1 env first second before)
    (quiet : Quiet before after) : AfterMsg1 env first second after :=
  ⟨quiet.provider.trans holds.provider, quiet.events.trans holds.events,
    fun block given => quiet.points _ _ (holds.msg2 block given), quiet.inside⟩

/-- A request that the provider handles: it is sent, answered and stored. -/
structure RoundTrip (which : Response) (event : Event World) (before after : Process World) :
    Prop where
  app : after.app = before.app
  provider : after.provider = event.result.provider
  events : after.events = before.events ++ [event]
  inside : Inside before → Inside after
  points : ∀ block, event.result.resp = some (some block) → Points after which block
  others : ∀ other, other ≠ which → after.responses other = before.responses other

theorem raNetwork_roundTrip (process : Process World) (which : Response) (event : Event World)
    (before : process.provider = event.before) (handled : Handles table build primitives event) :
    ∃ ended, raNetwork table build primitives which event.calls event.request process =
      .ok event.result ended ∧ RoundTrip which event process ended := by
  rw [Handles] at handled
  refine ⟨Process.setResponse { process with
      provider := event.result.provider
      events := process.events ++ [event] } which
    (stored event.result.resp (process.responses which)), ?_, rfl, rfl, rfl, ?_, ?_,
    fun other different => setResponse_other _ _ _ _ different⟩
  · simp only [raNetwork, bind_run, get_run, before, handled, modify_run]
    rfl
  · intro inside other response present range member
    by_cases same : other = which
    · subst same
      rw [setResponse_self] at present
      cases stores : event.result.resp with
      | none =>
          rw [stores] at present
          exact inside other response present range member
      | some given =>
          rw [stores] at present
          -- Nothing has been read of a response that has just come.
          cases given with
          | none => cases present
          | some block =>
              cases present
              cases member
    · rw [setResponse_other _ _ _ _ same] at present
      exact inside other response present range member
  · intro block given
    refine ⟨[], ?_⟩
    rw [setResponse_self, given]
    rfl

theorem sendMsg0_simulates (handled0 : Handles table build primitives (env.msg0Event first))
    {Left : Process World → Prop} :
    Simulates Process.app AtStart (sendMsg0 table build primitives env)
      (modify (raNetworkMsg0 (answeredCalls handled0 second)))
      (fun process => AfterMsg0 env first process ∧
        (∀ block, first.resp = some (some block) → Points process .msg0Resp block) ∧
        process.app.ret = first.ret) Left := by
  apply simulates_modify
  intro process start
  obtain ⟨ended, ran, trip⟩ := raNetwork_roundTrip process .msg0Resp (env.msg0Event first)
    start.1 handled0
  refine ⟨_, bind_of_ok _ _ _ _ _ ran, ?_, ⟨trip.provider, ?_, ?_, ?_⟩, trip.points, rfl⟩
  · rw [← trip.app]
    rfl
  · exact trip.events.trans (by rw [start.2.1, List.nil_append])
  · exact (trip.others .msg2 nofun).trans (by rw [start.2.2])
  · exact trip.inside start.inside

theorem configure_simulates (handled0 : Handles table build primitives (env.msg0Event first)) :
    Simulates Process.app AtStart (configure table build primitives env)
      (AttestationApp.configure (answeredCalls handled0 second)) (AfterMsg0 env first)
      (Ended table build primitives env first second) := by
  dsimp only [configure, AttestationApp.configure]
  apply simulates_ite (fun _ _ => Iff.rfl)
  · intro noMemory
    apply simulates_leaving
    intro process start
    exact ⟨_, rfl, rfl, start.ended.withApp _⟩
  intro allocated
  apply simulates_bind AtStart
  · apply simulates_modify
    intro process start
    exact ⟨_, rfl, rfl, start.withApp _⟩
  intro _
  apply simulates_bind _ (sendMsg0_simulates handled0)
  intro _
  apply simulates_get_bind
  intro sent
  apply simulates_ite (fun _ _ => Iff.rfl)
  · intro failed
    apply simulates_leaving
    rintro process ⟨⟨after, _⟩, rfl⟩
    exact ⟨_, rfl, rfl, after.ended handled0⟩
  intro answered
  rw [Decidable.not_not] at answered
  -- An answer with 0 comes with a frame, so that the reads below stay inside it; they
  -- are steps of the process alone.
  by_cases zero : first.ret = 0
  · obtain ⟨block, given, frames⟩ := (handled_framed (env.msg0Event first)
      (startUp_standing table) handled0).framed zero
    have body := bodyOf_given first block given
    apply simulates_stutter (fun _ process => AfterMsg0 env first process ∧
      Points process .msg0Resp block)
    · rintro process ⟨⟨after, points, _⟩, _⟩
      obtain ⟨ended, went, quiet⟩ := readBody_quiet process .msg0Resp block (points block given)
        after.inside frames.size
      exact ⟨_, ended, went, quiet.app, after.quiet quiet, quiet.points _ _ (points block given)⟩
    intro _
    apply simulates_stutter (fun read process => AfterMsg0 env first process ∧ read = bodyOf first)
    · rintro process ⟨after, points⟩
      obtain ⟨ended, went, quiet⟩ := readBody_quiet process .msg0Resp block points after.inside
        frames.size
      exact ⟨_, ended, went, quiet.app, after.quiet quiet, body.symm⟩
    intro read
    apply simulates_bind (AfterMsg0 env first)
    · apply simulates_modify
      rintro process ⟨after, rfl⟩
      exact ⟨_, rfl, rfl, after.withApp _⟩
    intro _
    apply simulates_get_bind
    intro selected
    apply simulates_ite (fun _ _ => Iff.rfl)
    · intro failed
      apply simulates_leaving
      rintro process ⟨after, rfl⟩
      exact ⟨_, rfl, rfl, (after.ended handled0).withApp _⟩
    · intro succeeded
      apply simulates_pure
      rintro process ⟨after, rfl⟩
      exact after
  · rintro process ⟨⟨_, _, ret⟩, rfl⟩
    exact (zero (ret.symm.trans answered)).elim

theorem onApp_simulates {α : Type} (block : Breakable Empty AppFrame α) (Before : Process World → Prop)
    (kept : ∀ app process, Before process → Before { process with app := app }) :
    Simulates Process.app Before (onApp block) block Before Before :=
  simulates_within _ block (fun _ _ => rfl) kept

theorem sendMsg1_simulates (answers : Answers table build primitives env first second)
    (sent : Sends env first) {Left : Process World → Prop} :
    Simulates Process.app (AfterMsg0 env first) (sendMsg1 table build primitives env)
      (modify (raNetworkMsg1 answers.calls))
      (fun process => AfterMsg1 env first second process ∧ process.app.ret = second.ret ∧
        process.app.pMsg2Full = second.resp.join.map fun response => response.byte 0) Left := by
  apply simulates_modify
  intro process after
  obtain ⟨ended, ran, trip⟩ := raNetwork_roundTrip process .msg2 (env.msg1Event first second)
    after.provider (answers.handled1 sent)
  refine ⟨_, bind_of_ok _ _ _ _ _ ran, ?_, ⟨trip.provider, ?_, trip.points, ?_⟩, rfl, rfl⟩
  · rw [← trip.app]
    simp only [raNetworkMsg1, answeredCalls, Surroundings.calls, Msg1Answer.ofEvent,
      Option.isSome_map]
  · exact trip.events.trans (by rw [after.events]; rfl)
  · exact trip.inside after.inside

theorem exchange_simulates (answers : Answers table build primitives env first second)
    (sent : Sends env first) :
    Simulates Process.app (AfterMsg0 env first) (exchange table build primitives env)
      (AttestationApp.exchange answers.calls)
      (fun process => AfterMsg1 env first second process ∧ second.ret = 0)
      (Ended table build primitives env first second) := by
  dsimp only [exchange, AttestationApp.exchange]
  apply simulates_bind _ (sendMsg1_simulates answers sent)
  intro _
  apply simulates_get_bind
  intro answer
  apply simulates_ite (fun _ _ => Iff.rfl)
  · intro failed
    apply simulates_leaving
    rintro process ⟨⟨after, _⟩, rfl⟩
    exact ⟨_, rfl, rfl, after.ended answers sent⟩
  intro answered
  obtain ⟨ret, _⟩ := not_or.mp answered
  rw [Decidable.not_not] at ret
  -- As for MSG0: only the frame of an answer with 0 says that the type and the size are
  -- there to be read.
  by_cases zero : second.ret = 0
  · obtain ⟨block, given, frames⟩ := (handled_framed (env.msg1Event first second)
      (run_standing _ _ _ (afterFirst answers.handled0)) (answers.handled1 sent)).framed zero
    have size := frames.size
    simp only [headerSize] at size
    apply simulates_stutter (fun read process => AfterMsg1 env first second process ∧
      answer.app.pMsg2Full = some (block.byte 0) ∧ read = [block.byte 0])
    · rintro process ⟨⟨after, _, type⟩, rfl⟩
      obtain ⟨ended, went, quiet⟩ := readFrom_quiet process .msg2 block (after.msg2 block given)
        after.inside 0 1 (by omega)
      refine ⟨_, ended, went, quiet.app, after.quiet quiet, ?_, rfl⟩
      change second.resp = _ at given
      rw [type, given]
      rfl
    intro read
    apply simulates_ite
    · rintro process ⟨_, type, same⟩
      rw [type, same, ne_eq, ne_eq, List.cons.injEq, Option.some.injEq, and_iff_left rfl]
    · intro other
      apply simulates_leaving
      rintro process ⟨after, _⟩
      exact ⟨_, rfl, rfl, after.ended answers sent⟩
    intro isMsg2
    apply simulates_stutter (fun size process => AfterMsg1 env first second process ∧
      size = leValue (block.load 3 4))
    · rintro process ⟨after, _⟩
      obtain ⟨ended, went, quiet⟩ := readSize_quiet process .msg2 block (after.msg2 block given)
        after.inside (by omega)
      exact ⟨_, ended, went, quiet.app, after.quiet quiet, rfl⟩
    intro size
    apply simulates_stutter fun _ process => AfterMsg1 env first second process
    -- The dump reads a 32-bit sum, which may wrap but never comes out beyond the frame.
    · rintro process ⟨after, rfl⟩
      have short := Nat.mod_le (headerSize + leValue (block.load 3 4)) (2 ^ 32)
      obtain ⟨ended, went, quiet⟩ := readFrom_quiet process .msg2 block (after.msg2 block given)
        after.inside 0 ((headerSize + leValue (block.load 3 4)) % 2 ^ 32)
        (by simp only [headerSize] at short ⊢; omega)
      exact ⟨_, ended, went, quiet.app, after.quiet quiet⟩
    intro _
    exact simulates_pure _ fun _ after => ⟨after, zero⟩
  · rintro process ⟨⟨_, same, _⟩, rfl⟩
    exact (zero (same.symm.trans ret)).elim

theorem procMsg2_simulates (answers : Answers table build primitives env first second)
    (sent : Sends env first) {Left : Process World → Prop} (zero : second.ret = 0) (k : Nat) :
    Simulates Process.app (AfterMsg1 env first second) (procMsg2 env k)
      (AttestationApp.procMsg2 answers.calls k) (AfterMsg1 env first second) Left := by
  obtain ⟨block, given, frames⟩ := (handled_framed (env.msg1Event first second)
    (run_standing _ _ _ (afterFirst answers.handled0)) (answers.handled1 sent)).framed zero
  dsimp only [procMsg2, AttestationApp.procMsg2]
  apply simulates_stutter (fun read process => AfterMsg1 env first second process ∧
    read = bodyOf second)
  · intro process after
    obtain ⟨ended, went, quiet⟩ := readBody_quiet process .msg2 block (after.msg2 block given)
      after.inside frames.size
    exact ⟨_, ended, went, quiet.app, after.quiet quiet, (bodyOf_given second block given).symm⟩
  intro read
  apply simulates_bind (AfterMsg1 env first second)
  · apply simulates_modify
    rintro process ⟨after, rfl⟩
    exact ⟨_, rfl, rfl, after.withApp _⟩
  intro _
  apply simulates_get_bind
  intro last
  apply simulates_pure
  rintro process ⟨after, rfl⟩
  exact after

theorem makeMsg3_simulates (answers : Answers table build primitives env first second)
    (sent : Sends env first) :
    Simulates Process.app (fun process => AfterMsg1 env first second process ∧ second.ret = 0)
      (makeMsg3 env) (AttestationApp.makeMsg3 answers.calls) (AfterMsg1 env first second)
      (Ended table build primitives env first second) := by
  -- `exchange` does not get here with any other answer.
  by_cases zero : second.ret = 0
  · dsimp only [makeMsg3, AttestationApp.makeMsg3]
    apply simulates_bind (AfterMsg1 env first second)
    · exact simulates_weaken (AfterMsg1 env first second) _ _
        (simulates_retryWhile 2 fun k => procMsg2_simulates answers sent zero k) (fun _ => And.left)
        (fun _ => id) (fun _ => id)
    intro _
    apply simulates_get_bind
    intro last
    apply simulates_ite (fun _ _ => Iff.rfl)
    · intro null
      apply simulates_leaving
      rintro process ⟨after, rfl⟩
      exact ⟨_, rfl, rfl, (after.ended answers sent).withApp _⟩
    intro notNull
    apply simulates_ite (fun _ _ => Iff.rfl)
    · intro failed
      apply simulates_leaving
      rintro process ⟨after, rfl⟩
      exact ⟨_, rfl, rfl, (after.ended answers sent).withApp _⟩
    · intro succeeded
      apply simulates_pure
      rintro process ⟨after, rfl⟩
      exact after
  · rintro process ⟨_, answered⟩
    exact (zero answered).elim

theorem attest_simulates (answers : Answers table build primitives env first second) :
    Simulates Process.app (fun process => AtStart process ∧ process.app = AppFrame.initial)
      (attest table build primitives env) (AttestationApp.attest answers.calls)
      (fun process => AfterMsg1 env first second process ∧ Sends env first)
      (Ended table build primitives env first second) := by
  have onlyApp : ∀ block : Breakable Empty AppFrame Unit,
      Simulates Process.app (AfterMsg0 env first) (onApp block) block (AfterMsg0 env first)
        (Ended table build primitives env first second) := fun block =>
    simulates_weaken _ _ _ (onApp_simulates block (AfterMsg0 env first) fun app _ after =>
      after.withApp app) (fun _ => id) (fun _ => id) fun _ after => after.ended answers.handled0
  dsimp only [attest, AttestationApp.attest]
  -- What `main` has seen succeed by the exchange is just what makes it send MSG1.
  apply simulates_bind _ (simulates_ends (configure_simulates answers.handled0) (configure_ends _))
  intro _
  apply simulates_given
  rintro ⟨mallocMsg0, answered, selected⟩
  apply simulates_bind _ (simulates_ends (onlyApp _) (startRa_ends _))
  intro _
  apply simulates_given
  intro started
  apply simulates_bind _ (simulates_ends (onlyApp _) (makeMsg1_ends _))
  intro _
  apply simulates_given
  intro msg1Made
  have sent : Sends env first := ⟨mallocMsg0, answered, selected, started, msg1Made⟩
  apply simulates_bind _ (simulates_weaken _ _ _ (exchange_simulates answers sent)
    (fun _ => And.left) (fun _ => id) (fun _ => id))
  intro _
  exact simulates_weaken _ _ _ (makeMsg3_simulates answers sent) (fun _ => id)
    (fun _ after => ⟨after, sent⟩) (fun _ => id)

theorem exchange_overruns (process : Process World) (after : AfterMsg0 env first process)
    (overruns : RequestOverruns table build env.providerMsg1 first.provider
      (msg1Request env.msg1)) :
    exchange table build primitives env process = .error (.fault .outOfBlock) process := by
  have faulted : raNetwork table build primitives .msg2 env.providerMsg1 (msg1Request env.msg1)
      process = .error (.fault .outOfBlock) process := by
    simp only [raNetwork, bind_run, get_run, after.provider, send_overruns primitives _ _ _ overruns]
    rfl
  exact bind_of_error _ _ _ _ _ (bind_of_error _ _ _ _ _ faulted)

theorem attest_overruns (handled0 : Handles table build primitives (env.msg0Event first))
    (overruns : Overrunning table build env first) :
    ∃ process, attest table build primitives env Process.initial =
      .error (.fault .outOfBlock) process := by
  obtain ⟨sent, overruns⟩ := overruns
  have onlyApp := fun block : Breakable Empty AppFrame Unit =>
    onApp_simulates block (AfterMsg0 env first) fun app _ after => after.withApp app
  have configured : Configured (answeredCalls handled0 first) :=
    ⟨sent.mallocMsg0, sent.answered, sent.selected⟩
  obtain ⟨_, configuredProcess, went, after, idle, _⟩ := simulates_goesOn
    (configure_simulates handled0) (configure_ends _) (fun _ left => left.2 configured)
    Process.initial ⟨rfl, rfl, rfl⟩ rfl
  obtain ⟨_, startedProcess, started, later, early, _⟩ := simulates_goesOn
    (onlyApp (startRa (env.sdk []))) (startRa_ends _)
    (fun _ left => left.2 sent.started) configuredProcess after idle
  obtain ⟨_, process, made, last, _⟩ := simulates_goesOn
    (onlyApp (makeMsg1 (env.sdk []))) (makeMsg1_ends _)
    (fun _ left => left.2 sent.msg1Made) startedProcess later early
  refine ⟨process, ?_⟩
  rw [attest, bind_of_ok _ _ _ _ _ went, bind_of_ok _ _ _ _ _ started, bind_of_ok _ _ _ _ _ made,
    bind_of_error _ _ _ _ _ (exchange_overruns process last overruns)]

theorem main_overruns (handled0 : Handles table build primitives (env.msg0Event first))
    (overruns : Overrunning table build env first) :
    main table build primitives env = .error .outOfBlock := by
  obtain ⟨process, faulted⟩ := attest_overruns handled0 overruns
  rw [main, faulted]

/-- The body of the process returns when every call succeeds and leaves otherwise, as
the body of `main` does. -/
theorem attest_cases (answers : Answers table build primitives env first second) :
    (AllSucceed answers.calls ∧ ∃ process,
      attest table build primitives env Process.initial = .ok () process ∧
      AttestationApp.attest answers.calls AppFrame.initial = .ok () process.app ∧
      AfterMsg1 env first second process ∧ Sends env first) ∨
    (¬ AllSucceed answers.calls ∧ ∃ process exit,
      attest table build primitives env Process.initial = .error .leave process ∧
      AttestationApp.attest answers.calls AppFrame.initial = .error exit process.app ∧
      Ended table build primitives env first second process) := by
  have simulates := attest_simulates answers Process.initial ⟨⟨rfl, rfl, rfl⟩, rfl⟩
  have ends := attest_ends answers.calls AppFrame.initial rfl
  have begins : (Process.initial : Process World).app = AppFrame.initial := rfl
  rw [begins] at simulates
  cases ran : AttestationApp.attest answers.calls AppFrame.initial with
  | ok value app =>
      rw [ran] at simulates ends
      obtain ⟨process, went, rfl, after⟩ := simulates
      exact Or.inl ⟨ends.2, process, went, rfl, after⟩
  | error exit app =>
      rw [ran] at simulates ends
      obtain ⟨process, left, rfl, ended⟩ := simulates
      exact Or.inr ⟨ends.2, process, exit, left, rfl, ended⟩

/-- The process ends as `main` does with these answers. -/
theorem main_simulates (answers : Answers table build primitives env first second) :
    ∃ exit, main table build primitives env = .ok exit ∧
      exit.app = AttestationApp.main answers.calls ∧
      Ended table build primitives env first second exit.process ∧
      (AllSucceed answers.calls →
        exit.process.events = [env.msg0Event first, env.msg1Event first second] ∧
        exit.process.provider = second.provider) := by
  rw [main, AttestationApp.main]
  rcases attest_cases answers with
    ⟨_, process, went, same, after, sent⟩ | ⟨failed, process, exit, left, same, ended⟩
  · rw [went, same]
    exact ⟨_, rfl, rfl, after.ended answers sent, fun _ => ⟨after.events, after.provider⟩⟩
  · rw [left, same]
    exact ⟨_, rfl, rfl, ended, fun succeed => (failed succeed).elim⟩

end Simulation

end SgxExperiments.LinkedMain
