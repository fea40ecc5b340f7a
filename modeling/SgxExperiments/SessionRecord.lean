import SgxExperiments.Registration

/-!
The exchange part of `g_sp_db` over whole runs. The handler stores into the
global record as it goes and has no way back, so the record belongs to the last
MSG1 that was taken up, as far as that one came.
-/

namespace SgxExperiments.SessionRecord

open KeyDerivation ServiceProvider NetworkRa Registration

variable {World : Type}

section Record

/-- The steps before the failing one have stored, the failing one has left what
it leaves. -/
theorem runSteps_failed (steps : List DeriveStep) (db : SpDbItem)
    (failed : (runSteps steps db).1 = false) :
    ∃ done failing rest, steps = done ++ failing :: rest ∧
      (∀ step ∈ done, step.succeeds = true) ∧ failing.succeeds = false ∧
      (runSteps steps db).2 = failing.leaves (done.foldl (fun db step => step.stores db) db) := by
  induction steps generalizing db with
  | nil => cases failed
  | cons step rest ih =>
      cases succeeds : step.succeeds with
      | false =>
          exact ⟨[], step, rest, rfl, fun _ member => (List.not_mem_nil member).elim, succeeds,
            by simp [runSteps, succeeds]⟩
      | true =>
          simp only [runSteps, succeeds, if_true] at failed ⊢
          obtain ⟨done, failing, remaining, split, succeeded, stops, left⟩ := ih _ failed
          refine ⟨step :: done, failing, remaining, by rw [split, List.cons_append], ?_, stops, left⟩
          intro other member
          rcases List.mem_cons.mp member with rfl | later
          · exact succeeds
          · exact succeeded other later

theorem runSteps_stops (done rest : List DeriveStep) (failing : DeriveStep) (db : SpDbItem)
    (succeeded : ∀ step ∈ done, step.succeeds = true) (failed : failing.succeeds = false) :
    runSteps (done ++ failing :: rest) db =
      (false, failing.leaves (done.foldl (fun db step => step.stores db) db)) := by
  induction done generalizing db with
  | nil => simp [runSteps, failed]
  | cons step done ih =>
      have first := succeeded step List.mem_cons_self
      simp only [List.cons_append, runSteps, first, if_true, List.foldl_cons]
      exact ih _ fun other member => succeeded other (List.mem_cons_of_mem step member)

def exchangeRecord (msg1 : SampleRaMsg1) (priv : SampleEcPriv) (pub : SampleEcPub)
    (keys : SessionKeys) : SpDbItem :=
  { gA := msg1.gA, gB := pub, b := priv
    vkKey := keys.vkKey, mkKey := keys.mkKey, skKey := keys.skKey, smkKey := keys.smkKey }

variable (table : List (SampleExtendedEpidGroup World)) (build : Build) (primitives : Primitives)

def StoredBy (calls : Msg1Calls World) (msg1 : SampleRaMsg1) (db : SpDbItem) : Prop :=
  ∃ priv pub secret, Exchanged calls msg1 priv pub secret ∧
    db = exchangeRecord msg1 priv pub (sessionKeys primitives secret build)

/-- What a MSG1 that was taken up and failed has stored over the record it found, by
the call that has failed. -/
inductive PartlyStored (calls : Msg1Calls World) (before : Provider) (msg1 : SampleRaMsg1) :
    SpDbItem → Prop where
  | noKeyPair (failed : calls.openContext = false ∨
        calls.openContext = true ∧ calls.createKeyPair = none) :
      PartlyStored calls before msg1 { before.gSpDb with gA := msg1.gA }
  | keyPair (priv : SampleEcPriv) (pub : SampleEcPub) (opened : calls.openContext = true)
      (generated : calls.createKeyPair = some (priv, pub))
      (failed : calls.computeSharedDhkey priv msg1.gA = none ∨
        ∃ secret i group, calls.computeSharedDhkey priv msg1.gA = some secret ∧
          before.gSpExtendedEpidGroupId = some i ∧ table[i]? = some group ∧
          (group.getSigrl calls.world msg1.gid).ret ≠ 0) :
      PartlyStored calls before msg1 (before.exchanged msg1 priv pub)
  | someKeys (priv : SampleEcPriv) (pub : SampleEcPub) (secret : EcDhShared) (i : Nat)
      (sigRl : SigRl) (exchanged : Exchanged calls msg1 priv pub secret)
      (fetched : Fetched table calls before msg1 i sigRl) (done rest : List DeriveStep)
      (failing : DeriveStep)
      (order : deriveSteps build primitives calls secret = done ++ failing :: rest)
      (succeeded : ∀ step ∈ done, step.succeeds = true) (failed : failing.succeeds = false) :
      PartlyStored calls before msg1 (failing.leaves
        (done.foldl (fun db step => step.stores db) (before.exchanged msg1 priv pub)))
  | allKeys (priv : SampleEcPriv) (pub : SampleEcPub) (secret : EcDhShared) (i : Nat)
      (sigRl : SigRl) (exchanged : Exchanged calls msg1 priv pub secret)
      (fetched : Fetched table calls before msg1 i sigRl)
      (derived : DerivationsSucceed build calls)
      (failed : calls.malloc ((msg2Size sigRl).toNat + headerSize) = false ∨
        calls.malloc ((msg2Size sigRl).toNat + headerSize) = true ∧
          (calls.ecdsaSign (List.ofFn pub ++ List.ofFn msg1.gA) gSpPrivKey = none ∨
            ∃ left, calls.cmac = .failure left)) :
      PartlyStored calls before msg1
        (exchangeRecord msg1 priv pub (sessionKeys primitives secret build))

end Record

section Steps

variable {table : List (SampleExtendedEpidGroup World)} {build : Build} {primitives : Primitives}

theorem msg0_record (calls : Msg0Calls World) (before : Provider) (extendedEpidGroupId : UInt32)
    (result : HandlerResult)
    (outcome : Msg0Outcome table calls before extendedEpidGroupId result) :
    result.provider.gSpDb = before.gSpDb := by
  cases outcome with
  | kept registered current => rw [msg0Reply_provider]
  | unsupported absent => rw [msg0Reply_provider]
  | enrollFailed i group entry same selects failed => rfl
  | enrolled i group entry same selects succeeded =>
      rw [msg0Reply_provider]
      rfl

theorem msg1_stored (calls : Msg1Calls World) (before : Provider) (msg1 : SampleRaMsg1)
    (result : HandlerResult)
    (outcome : Msg1Outcome table build primitives calls before msg1 (.ok result))
    (returned : result.ret = 0) :
    StoredBy build primitives calls msg1 result.provider.gSpDb := by
  cases outcome with
  | completed priv pub secret i sigRl signature exchanged =>
      exact ⟨priv, pub, secret, exchanged, rfl⟩
  | _ => cases returned

theorem noKeyPair_exchanged (calls : Msg1Calls World) (msg1 : SampleRaMsg1) (priv : SampleEcPriv)
    (pub : SampleEcPub) (secret : EcDhShared) (exchanged : Exchanged calls msg1 priv pub secret) :
    ¬ (calls.openContext = false ∨ calls.openContext = true ∧ calls.createKeyPair = none) := by
  rintro (failed | ⟨_, failed⟩)
  · cases failed.symm.trans exchanged.opened
  · cases failed.symm.trans exchanged.keyPair

theorem keyPair_fetched (calls : Msg1Calls World) (before : Provider) (msg1 : SampleRaMsg1)
    (priv other : SampleEcPriv) (pub otherPub : SampleEcPub) (secret : EcDhShared) (i : Nat)
    (sigRl : SigRl) (generated : calls.createKeyPair = some (other, otherPub))
    (exchanged : Exchanged calls msg1 priv pub secret)
    (fetched : Fetched table calls before msg1 i sigRl) :
    ¬ (calls.computeSharedDhkey other msg1.gA = none ∨
      ∃ secret i group, calls.computeSharedDhkey other msg1.gA = some secret ∧
        before.gSpExtendedEpidGroupId = some i ∧ table[i]? = some group ∧
        (group.getSigrl calls.world msg1.gid).ret ≠ 0) := by
  cases generated.symm.trans exchanged.keyPair
  rintro (failed | ⟨_, j, group, _, pointer, entry, failed⟩)
  · cases failed.symm.trans exchanged.shared
  · cases pointer.symm.trans fetched.pointer
    obtain ⟨found, entryAgain, answer⟩ := fetched.answer
    cases entry.symm.trans entryAgain
    rw [answer] at failed
    exact failed rfl

theorem derivationsSucceed_stops (calls : Msg1Calls World) (secret : EcDhShared)
    (done rest : List DeriveStep) (failing : DeriveStep)
    (order : deriveSteps build primitives calls secret = done ++ failing :: rest)
    (failed : failing.succeeds = false) : ¬ DerivationsSucceed build calls := by
  rw [← derivationsSucceed_iff build primitives calls secret, order]
  simp [failed]

/-- The failed call leaves no choice of what has been stored. -/
theorem partlyStored_unique (calls : Msg1Calls World) (before : Provider) (msg1 : SampleRaMsg1)
    (db other : SpDbItem) (stored : PartlyStored table build primitives calls before msg1 db)
    (again : PartlyStored table build primitives calls before msg1 other) : other = db := by
  cases stored with
  | noKeyPair failed =>
      cases again with
      | noKeyPair => rfl
      | keyPair priv pub opened generated => simp [opened, generated] at failed
      | someKeys priv pub secret _ _ exchanged | allKeys priv pub secret _ _ exchanged =>
          exact (noKeyPair_exchanged calls msg1 priv pub secret exchanged failed).elim
  | keyPair priv pub opened generated failed =>
      cases again with
      | noKeyPair failed => simp [opened, generated] at failed
      | keyPair priv' pub' _ generated' =>
          cases generated.symm.trans generated'
          rfl
      | someKeys priv' pub' secret i sigRl exchanged fetched
      | allKeys priv' pub' secret i sigRl exchanged fetched =>
          exact (keyPair_fetched calls before msg1 _ _ _ _ _ _ _ generated exchanged fetched
            failed).elim
  | someKeys priv pub secret i sigRl exchanged fetched done rest failing order succeeded stops =>
      cases again with
      | noKeyPair failed =>
          exact (noKeyPair_exchanged calls msg1 priv pub secret exchanged failed).elim
      | keyPair priv' pub' _ generated failed =>
          exact (keyPair_fetched calls before msg1 _ _ _ _ _ _ _ generated exchanged fetched
            failed).elim
      | someKeys priv' pub' secret' _ _ exchanged' _ done' rest' failing' order' succeeded' stops' =>
          obtain ⟨rfl, rfl, rfl⟩ := exchanged_unique calls msg1 _ _ _ _ _ _ exchanged exchanged'
          have first := runSteps_stops done rest failing (before.exchanged msg1 priv' pub') succeeded
            stops
          have second := runSteps_stops done' rest' failing' (before.exchanged msg1 priv' pub')
            succeeded' stops'
          rw [← order] at first
          rw [← order', first] at second
          exact (Prod.mk.inj second).2.symm
      | allKeys priv' pub' secret' _ _ exchanged' _ derived =>
          exact (derivationsSucceed_stops calls secret done rest failing order stops derived).elim
  | allKeys priv pub secret i sigRl exchanged fetched derived =>
      cases again with
      | noKeyPair failed =>
          exact (noKeyPair_exchanged calls msg1 priv pub secret exchanged failed).elim
      | keyPair priv' pub' _ generated failed =>
          exact (keyPair_fetched calls before msg1 _ _ _ _ _ _ _ generated exchanged fetched
            failed).elim
      | someKeys priv' pub' secret' _ _ _ _ done rest failing order _ stops =>
          exact (derivationsSucceed_stops calls secret' done rest failing order stops derived).elim
      | allKeys priv' pub' secret' _ _ exchanged' =>
          obtain ⟨rfl, rfl, rfl⟩ := exchanged_unique calls msg1 _ _ _ _ _ _ exchanged exchanged'
          rfl

theorem msg1_partlyStored (calls : Msg1Calls World) (before : Provider) (msg1 : SampleRaMsg1)
    (result : HandlerResult)
    (outcome : Msg1Outcome table build primitives calls before msg1 (.ok result))
    (returned : result.ret ≠ 0) :
    PartlyStored table build primitives calls before msg1 result.provider.gSpDb := by
  cases outcome with
  | openFailed failed => exact PartlyStored.noKeyPair (Or.inl failed)
  | keyPairFailed opened failed => exact PartlyStored.noKeyPair (Or.inr ⟨opened, failed⟩)
  | dhFailed priv pub opened keyPair failed =>
      exact PartlyStored.keyPair priv pub opened keyPair (Or.inl failed)
  | sigrlFailed priv pub secret i group exchanged pointer entry failed =>
      exact PartlyStored.keyPair priv pub exchanged.opened exchanged.keyPair
        (Or.inr ⟨secret, i, group, exchanged.shared, pointer, entry, failed⟩)
  | deriveFailed priv pub secret i sigRl exchanged fetched failed =>
      obtain ⟨done, failing, rest, order, succeeded, stops, left⟩ := runSteps_failed _ _ failed
      have stored : PartlyStored table build primitives calls before msg1 _ :=
        PartlyStored.someKeys priv pub secret i sigRl exchanged fetched done rest failing order
          succeeded stops
      exact left ▸ stored
  | mallocFailed priv pub secret i sigRl exchanged fetched derived failed =>
      rw [runSteps_all] at derived
      exact PartlyStored.allKeys priv pub secret i sigRl exchanged fetched
        ((derivationsSucceed_iff build primitives calls secret).mp derived) (Or.inl failed)
  | sealFailed priv pub secret i sigRl exchanged fetched derived obtained _ failed =>
      rw [runSteps_all] at derived
      exact PartlyStored.allKeys priv pub secret i sigRl exchanged fetched
        ((derivationsSucceed_iff build primitives calls secret).mp derived)
        (Or.inr ⟨obtained, failed⟩)
  | completed => exact (returned rfl).elim

theorem not_takenUp_of_isMsg0 (event : Event World) (isMsg0 : IsMsg0 event) : ¬ TakenUp event := by
  intro taken
  have types : typeRaMsg0 = typeRaMsg1 := isMsg0.1.symm.trans taken.1
  cases types

theorem record_step (event : Event World) (standing : Standing table event.before)
    (handled : Handles table build primitives event) :
    (¬ TakenUp event → event.result.provider.gSpDb = event.before.gSpDb) ∧
    (TakenUp event →
      (event.result.ret = 0 → StoredBy build primitives event.calls.msg1
        (asMsg1 event.request.body) event.result.provider.gSpDb) ∧
      (event.result.ret ≠ 0 → PartlyStored table build primitives event.calls.msg1
        event.before (asMsg1 event.request.body) event.result.provider.gSpDb)) := by
  rcases handles_cases event standing.inside handled with
    ⟨isMsg0, result, delivered, outcome⟩ | ⟨taken, result, delivered, outcome⟩ |
      ⟨_, idle, ret, _, refused⟩
  · rw [(deliver_ok result _ delivered).2.1]
    exact ⟨fun _ => msg0_record _ _ _ _ outcome,
      fun taken => (not_takenUp_of_isMsg0 event isMsg0 taken).elim⟩
  · obtain ⟨ret, provider, _⟩ := deliver_ok result _ delivered
    rw [ret, provider]
    exact ⟨fun idle => (idle taken).elim, fun _ => ⟨msg1_stored _ _ _ _ outcome,
      msg1_partlyStored _ _ _ _ outcome⟩⟩
  · rw [refused]
    exact ⟨fun _ => rfl, fun taken => (idle taken).elim⟩

theorem record_kept (events : List (Event World)) (provider : Provider)
    (run : Run table build primitives events provider) :
    ∀ event ∈ events, ¬ TakenUp event → event.result.provider.gSpDb = event.before.gSpDb := by
  apply run.invariant fun events _ => ∀ event ∈ events, ¬ TakenUp event →
    event.result.provider.gSpDb = event.before.gSpDb
  · exact fun event member => (List.not_mem_nil member).elim
  · intro events last run _ handled ih event member
    rcases List.mem_append.mp member with earlier | same
    · exact ih event earlier
    · rw [List.mem_singleton.mp same]
      exact (record_step last (run_standing _ _ _ run) handled).1

theorem record_untouched (events : List (Event World)) (provider : Provider)
    (run : Run table build primitives events provider) :
    (∀ event ∈ events, ¬ TakenUp event) → provider.gSpDb = SpDbItem.zero := by
  apply run.invariant fun events provider =>
    (∀ event ∈ events, ¬ TakenUp event) → provider.gSpDb = SpDbItem.zero
  · exact fun _ => rfl
  · intro events event run _ handled ih idle
    have last := idle event (List.mem_append_right _ (List.mem_singleton_self _))
    rw [(record_step event (run_standing _ _ _ run) handled).1 last]
    exact ih fun other member => idle other (List.mem_append_left _ member)

theorem record_last (events : List (Event World)) (provider : Provider)
    (run : Run table build primitives events provider) :
    ∀ earlier event later, events = earlier ++ event :: later → TakenUp event →
      (∀ other ∈ later, ¬ TakenUp other) →
      Run table build primitives earlier event.before ∧
        provider.gSpDb = event.result.provider.gSpDb ∧
        Handles table build primitives event := by
  apply run.invariant fun events provider => ∀ earlier event later,
    events = earlier ++ event :: later → TakenUp event → (∀ other ∈ later, ¬ TakenUp other) →
      Run table build primitives earlier event.before ∧
        provider.gSpDb = event.result.provider.gSpDb ∧ Handles table build primitives event
  · intro earlier event later split
    simp at split
  · intro events last run _ handled ih earlier event later split taken idle
    rcases List.eq_nil_or_concat later with rfl | ⟨rest, other, rfl⟩
    · obtain ⟨rfl, same⟩ := List.append_inj' split rfl
      obtain rfl : last = event := by simpa using same
      exact ⟨run, rfl, handled⟩
    · rw [List.concat_eq_append] at split idle
      rw [← List.cons_append, ← List.append_assoc] at split
      obtain ⟨before, same⟩ := List.append_inj' split rfl
      obtain rfl : last = other := by simpa using same
      rw [(record_step last (run_standing _ _ _ run) handled).1
        (idle last (List.mem_append_right _ (List.mem_singleton_self _)))]
      exact ih earlier event rest before taken
        fun other member => idle other (List.mem_append_left _ member)

/-- In every reachable state the record is zero if no MSG1 was ever taken up;
otherwise it is what the last one taken up has stored: its whole exchange if it
returned 0, else as much of it as the call that failed allows, over the record before.
No other request changes it. -/
theorem session_record (table : List (SampleExtendedEpidGroup World)) (build : Build)
    (primitives : Primitives) (events : List (Event World)) (provider : Provider)
    (run : Run table build primitives events provider) :
    ((∀ event ∈ events, ¬ TakenUp event) → provider.gSpDb = SpDbItem.zero) ∧
    (∀ earlier event later, events = earlier ++ event :: later → TakenUp event →
      (∀ other ∈ later, ¬ TakenUp other) →
      Run table build primitives earlier event.before ∧
      (event.result.ret = 0 → StoredBy build primitives event.calls.msg1
        (asMsg1 event.request.body) provider.gSpDb) ∧
      (event.result.ret ≠ 0 → ∀ db, PartlyStored table build primitives event.calls.msg1
        event.before (asMsg1 event.request.body) db ↔ db = provider.gSpDb)) ∧
    ∀ event ∈ events, ¬ TakenUp event → event.result.provider.gSpDb = event.before.gSpDb := by
  refine ⟨record_untouched events provider run, ?_, record_kept events provider run⟩
  intro earlier event later split taken idle
  obtain ⟨before, last, handled⟩ := record_last events provider run earlier event later split taken
    idle
  obtain ⟨stored, partly⟩ := (record_step event (run_standing _ _ _ before) handled).2 taken
  rw [last]
  refine ⟨before, stored, fun failed db => ⟨fun other => ?_, fun same => same ▸ partly failed⟩⟩
  exact partlyStored_unique _ _ _ _ _ (partly failed) other

end Steps

section Runs

def rejectedCalls : RequestCalls Unit :=
  { smoothCalls with msg1 := { smoothCalls.msg1 with computeSharedDhkey := fun _ _ => none } }

def rejectedExchange : Event Unit := send registration.result.provider helloMsg1 rejectedCalls

theorem session_record_completed :
    completedExchange.result.ret = 0 ∧
      StoredBy .defaultKeyDerivation blankPrimitives smoothCalls.msg1 (asMsg1 fun _ => 1)
        completedExchange.result.provider.gSpDb := by
  have run : Run (gExtendedEpidGroups Unit) .defaultKeyDerivation blankPrimitives
      ([registration] ++ [completedExchange]) completedExchange.result.provider :=
    RunOf.request [registration] completedExchange registration_run trivial rfl
  have taken : TakenUp completedExchange := ⟨rfl, rfl, rfl⟩
  exact ⟨rfl, ((session_record _ _ _ _ _ run).2.1 [registration] completedExchange [] rfl taken
    fun _ member => (List.not_mem_nil member).elim).2.1 rfl⟩

/-- No MSG1 has returned 0, and yet the record is not the initial one: the MSG1
whose DH computation failed has changed it. -/
theorem rejected_exchange_stores :
    ∃ events provider, Run (gExtendedEpidGroups Unit) .defaultKeyDerivation blankPrimitives events
        provider ∧
      (∀ event ∈ events, TakenUp event → event.result.ret ≠ 0) ∧
      provider.gSpDb.gA ≠ SpDbItem.zero.gA ∧ provider.gSpDb.b ≠ SpDbItem.zero.b ∧
      ∃ event ∈ events, TakenUp event ∧ event.result.ret = SpRaMsgStatus.internalError.code ∧
        event.result.provider.gSpDb ≠ event.before.gSpDb := by
  have gA : rejectedExchange.result.provider.gSpDb.gA 0 ≠ registration.result.provider.gSpDb.gA 0 := by
    decide
  refine ⟨[registration] ++ [rejectedExchange], rejectedExchange.result.provider,
    RunOf.request [registration] rejectedExchange registration_run trivial rfl, ?_, ?_, ?_,
    rejectedExchange, List.mem_append_right _ (List.mem_singleton_self _), ⟨rfl, rfl, rfl⟩, rfl, ?_⟩
  · intro event member taken
    rcases List.mem_append.mp member with first | second
    · rw [List.mem_singleton.mp first] at taken
      cases taken.1
    · rw [List.mem_singleton.mp second]
      decide
  · intro same
    exact gA (congrFun same 0)
  · intro same
    have different : rejectedExchange.result.provider.gSpDb.b 0 ≠ SpDbItem.zero.b 0 := by decide
    exact different (congrFun same 0)
  · intro same
    exact gA (congrFun (congrArg SpDbItem.gA same) 0)

end Runs

end SgxExperiments.SessionRecord
