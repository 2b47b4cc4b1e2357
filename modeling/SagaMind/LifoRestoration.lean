import SagaMind.Coordinator.Workshop

/-!
# Restoration by rollback

The sandbox changes a world. A compensation that runs right after its action
gives the world back. Batches that return `True` stack their actions on each
other, and the first batch that fails takes all of them off again, newest
first, with or without a journal.
-/

namespace SagaMind.LifoRestoration

open CallProgram KeyedTable Coordinator Undoing Workshop

set_option autoImplicit false

variable {Args W : Type}

structure Rewinding (worker : Coordinator) (sagaId : String) (start : W) (sandbox : Sandbox Args W)
    (remaining : List (SagaStep Args)) (state : System Args (Site Args W)) : Prop where
  active : ∃ saga, state.memory.active.find? sagaId = some saga
  stacked : Stacked (applies sandbox) start (remaining.map deed) state.world.world
  reversible : ∀ step ∈ remaining, Reversible sandbox (deed step)
  distinct : (remaining.map (·.stepId)).Nodup
  journaled : worker.store = .journaled → ∀ step ∈ remaining, ∃ record,
    state.store.effect? sagaId step.stepId = some record ∧ record.state = .committed
  trail : state.world.compensated ++ remaining.map (fun step => (deed step).undoing) =
    state.world.executed.map Deed.undoing

/-- Everything executed is compensated, newest first, and the world is what it
was. -/
structure Restored (worker : Coordinator) (sagaId : String) (start : W)
    (state : System Args (Site Args W)) : Prop where
  world : state.world.world = start
  order : state.world.compensated = state.world.executed.map Deed.undoing
  memory : ∃ saga, state.memory.active.find? sagaId = some saga ∧ saga.status = .rolledBack
  durable : worker.hasStore = true → state.store.status? sagaId = some .rolledBack

section Rollback

variable [DecidableEq Args] {self : Coordinator} {sagaId : String} {start : W}
  {sandbox : Sandbox Args W} {state : System Args (Site Args W)} {step : SagaStep Args}
  {rest : List (SagaStep Args)}

abbrev working (sandbox : Sandbox Args W) :
    Machine (coordinatorFace Args) (System Args (Site Args W)) :=
  machine (workshop sandbox) fun _ => True

omit [DecidableEq Args] in
theorem rewinds_call (rewinding : Rewinding self sagaId start sandbox (step :: rest) state)
    {answer : Except PyError Bool} {after : Site Args W}
    (answered : (workshop sandbox).respond
      (.executeCompensation sagaId (some step.stepId) step.compensation) state.world answer after) :
    answer = .ok true ∧ Stacked (applies sandbox) start (rest.map deed) after.world ∧
      after.executed = state.world.executed ∧
      after.compensated = state.world.compensated ++ [(deed step).undoing] := by
  obtain ⟨world, undone, rfl⟩ := answered
  have reversible := rewinding.reversible step (List.mem_cons_self ..)
  have stacked := rewinding.stacked
  rw [List.map_cons] at stacked
  have succeeded : answer = .ok true := by
    cases stacked with
    | push earlier applied => exact (reversible _ _ _ _ applied undone).1
  have below := @Stacked.pop _ _ (applies sandbox)
    (fun deed between after => sandbox.undoes deed.compensation between answer after) _ _ _ _ _
    stacked (fun _ _ _ applied undone => (reversible _ _ _ _ applied undone).2) undone
  exact ⟨succeeded, below, rfl, rfl⟩

omit [DecidableEq Args] in
theorem workshop_unobserved : Unobserved (workshop sandbox) :=
  ⟨fun _ _ _ _ => rfl, fun _ _ _ _ _ _ _ _ _ => rfl⟩

/-- One iteration: the claim on the record, the compensation, and the mark. -/
theorem rewinds_step (rewinding : Rewinding self sagaId start sandbox (step :: rest) state) :
    wp (working sandbox) (self.compensateStep sagaId step)
      (fun goOn after => goOn = true ∧ Rewinding self sagaId start sandbox rest after)
      (fun _ _ => False) state := by
  have distinct := List.nodup_cons.mp rewinding.distinct
  have booked : self.journals = true → ∃ record,
      state.store.effect? sagaId step.stepId = some record ∧ record.state = .committed := by
    intro journals
    exact rewinding.journaled (journaled_of_journals journals) step (List.mem_cons_self ..)
  apply wp_mono (compensates_step workshop_unobserved booked fun _ _ => rewinds_call rewinding)
  · intro goOn after ⟨goes, memory, ⟨stacked, executed, compensated⟩, others⟩
    refine ⟨goes, ?_⟩
    constructor
    · obtain ⟨saga, found⟩ := rewinding.active
      exact ⟨saga, by rw [memory, found]⟩
    · exact stacked
    · exact fun other member => rewinding.reversible other (List.mem_cons_of_mem _ member)
    · exact distinct.2
    · intro journaled other member
      rw [others]
      · exact rewinding.journaled journaled other (List.mem_cons_of_mem _ member)
      · intro same
        exact distinct.1 (List.mem_map.mpr ⟨other, member, same⟩)
    · have trail := rewinding.trail
      rw [executed, compensated, ← trail, List.map_cons, List.append_assoc]
      rfl
  · exact fun _ _ impossible => impossible

theorem rewinds (steps : List (SagaStep Args))
    (rewinding : Rewinding self sagaId start sandbox steps state) :
    wp (working sandbox) (self.rollback sagaId steps)
      (fun _ after => Restored self sagaId start after) (fun _ _ => False) state := by
  apply rollback_rule (Rewinding self sagaId start sandbox)
  case closes =>
    intro state rewinding
    obtain ⟨saga, found⟩ := rewinding.active
    have trail : state.world.compensated = state.world.executed.map Deed.undoing := by
      simpa using rewinding.trail
    have memory : ∃ saga, ((MemoryCall.setStatusIfActive sagaId .rolledBack).serve
        state.memory).2.active.find? sagaId = some saga ∧ saga.status = .rolledBack := by
      have own : saga.sagaId = sagaId := Table.find_key found
      simp [MemoryCall.serve, found, own]
    unfold closeRollback writeStatus
    rw [wp_bind]
    apply wp_memory trivial
    rw [wp_ite]
    split
    · apply wp_write_state trivial
      constructor
      · exact rewinding.stacked.bottom
      · exact trail
      · exact memory
      · intro _
        rw [Store.status_write_state, if_pos rfl]
    · rename_i storeless
      constructor
      · exact rewinding.stacked.bottom
      · exact trail
      · exact memory
      · exact fun stored => absurd stored storeless
  case undoes =>
    intro step rest state rewinding
    unfold undoStep
    rw [wp_attempt]
    apply wp_unfailing (rewinds_step rewinding)
    intro goOn between ended
    rw [if_pos ended.1]
    exact ended.2
  case here => exact rewinding

end Rollback

section Books

variable {sagaId stepId : String} {done : List (Deed Args)} {store : Store Args}
  {phase : EffectState}

/-- The journal has a committed record for each deed, and no other record but
the one that is being worked on. -/
structure Booked (sagaId : String) (done : List (Deed Args))
    (current : Option (String × EffectState)) (store : Store Args) : Prop where
  committed : ∀ deed ∈ done, ∃ record,
    store.effect? sagaId deed.stepId = some record ∧ record.state = .committed
  underway : ∀ entry ∈ current, ∃ record,
    store.effect? sagaId entry.1 = some record ∧ record.state = entry.2
  known : ∀ id record, store.effect? sagaId id = some record →
    id ∈ done.map Deed.stepId ∨ ∃ phase, current = some (id, phase)

theorem booked_put {current : Option (String × EffectState)} {moved : Effect Args}
    (booked : Booked sagaId done current store) (fresh : moved.stepId ∉ done.map Deed.stepId)
    (same : ∀ id phase, current = some (id, phase) → id = moved.stepId) :
    Booked sagaId done (some (moved.stepId, moved.state)) (store.putEffect sagaId moved) := by
  constructor
  · intro deed member
    rw [Store.effect_put_effect, if_neg]
    · exact booked.committed deed member
    · intro both
      apply fresh
      rw [both.2]
      exact List.mem_map_of_mem member
  · intro entry now
    obtain rfl := Option.some.inj now
    exact ⟨moved, by simp, rfl⟩
  · intro id record found
    rw [Store.effect_put_effect] at found
    split at found
    · rename_i both
      exact .inr ⟨moved.state, by rw [both.2]⟩
    · rename_i apart
      rcases booked.known id record found with old | ⟨phase, shape⟩
      · exact .inl old
      · exact absurd ⟨rfl, (same id phase shape).symm⟩ apart

theorem Booked.move {entry : Effect Args} {newState : EffectState} {result : Option Args}
    {error : Option String} (booked : Booked sagaId done (some (stepId, phase)) store)
    (fresh : stepId ∉ done.map Deed.stepId) (found : store.effect? sagaId stepId = some entry) :
    Booked sagaId done (some (stepId, newState))
      (store.putEffect sagaId { entry with state := newState, result, error }) := by
  have ownId : entry.stepId = stepId := Table.find_key found
  have moved := @booked_put Args sagaId done store (some (stepId, phase))
    { entry with state := newState, result, error } booked (ownId ▸ fresh)
    fun id phase now => by rw [ownId, (Prod.mk.inj (Option.some.inj now)).1]
  rw [← ownId]
  exact moved

theorem booked_commit {deed : Deed Args}
    (booked : Booked sagaId done (some (deed.stepId, .committed)) store) :
    Booked sagaId (deed :: done) none store := by
  constructor
  · intro other member
    rcases List.mem_cons.mp member with rfl | old
    · exact booked.underway _ rfl
    · exact booked.committed other old
  · exact nofun
  · intro id record found
    left
    rw [List.map_cons, List.mem_cons]
    rcases booked.known id record found with old | ⟨phase, shape⟩
    · exact .inr old
    · left
      have both := Option.some.inj shape
      exact (congrArg Prod.fst both).symm

theorem Booked.other_store {current : Option (String × EffectState)} {after : Store Args}
    (booked : Booked sagaId done current store)
    (same : ∀ id, after.effect? sagaId id = store.effect? sagaId id) :
    Booked sagaId done current after := by
  obtain ⟨committed, now, known⟩ := booked
  constructor
  · intro deed member
    rw [same]
    exact committed deed member
  · intro entry member
    rw [same]
    exact now entry member
  · intro id record found
    rw [same] at found
    exact known id record found

end Books

section Forward

variable [DecidableEq Args] {self : Coordinator} {sagaId : String} {start : W}
  {sandbox : Sandbox Args W} {state : System Args (Site Args W)} {step : SagaStep Args}

structure Built (sandbox : Sandbox Args W) (start : W) (site : Site Args W) : Prop where
  stacked : Stacked (applies sandbox) start site.executed site.world
  reversible : ∀ deed ∈ site.executed, Reversible sandbox deed
  distinct : (site.executed.map Deed.stepId).Nodup
  fresh : site.compensated = []

structure Loaded (worker : Coordinator) (sagaId : String) (start : W) (sandbox : Sandbox Args W)
    (state : System Args (Site Args W)) : Prop where
  remembers : Remembers state.memory sagaId state.world.executed
  built : Built sandbox start state.world
  journaled : worker.store = .journaled → ∀ deed ∈ state.world.executed, ∃ record,
    state.store.effect? sagaId deed.stepId = some record ∧ record.state = .committed

structure Standing (worker : Coordinator) (sagaId : String) (start : W) (sandbox : Sandbox Args W)
    (state : System Args (Site Args W)) : Prop where
  remembers : Remembers state.memory sagaId state.world.executed
  built : Built sandbox start state.world
  journaled : worker.store = .journaled → Booked sagaId state.world.executed none state.store
  unfailed : state.world.failed = false

omit [DecidableEq Args] in
theorem Standing.loaded (standing : Standing self sagaId start sandbox state) :
    Loaded self sagaId start sandbox state :=
  ⟨standing.remembers, standing.built, fun journaled => (standing.journaled journaled).committed⟩

omit [DecidableEq Args] in
/-- The completed steps, newest first, are what the rollback takes off. -/
theorem Loaded.rewinding (loaded : Loaded self sagaId start sandbox state) :
    Rewinding self sagaId start sandbox
      ((MemoryCall.completedSteps sagaId).serve state.memory).1.reverse state := by
  obtain ⟨saga, found, deeds⟩ := loaded.remembers
  have read : ((MemoryCall.completedSteps sagaId).serve state.memory).1 = saga.completedSteps := by
    simp [MemoryCall.serve, Memory.held?, found]
  rw [read]
  have ids : saga.completedSteps.reverse.map (·.stepId) =
      state.world.executed.map Deed.stepId := by
    rw [← deeds, List.map_map]
    rfl
  have ofStep : ∀ step ∈ saga.completedSteps.reverse, deed step ∈ state.world.executed := by
    intro step member
    rw [← deeds]
    exact List.mem_map_of_mem member
  constructor
  · exact ⟨saga, found⟩
  · rw [deeds]
    exact loaded.built.stacked
  · exact fun step member => loaded.built.reversible _ (ofStep step member)
  · rw [ids]
    exact loaded.built.distinct
  · exact fun journaled step member => loaded.journaled journaled _ (ofStep step member)
  · have undoings : saga.completedSteps.reverse.map (fun step => (deed step).undoing) =
        state.world.executed.map Deed.undoing := by
      rw [← deeds, List.map_map]
      rfl
    rw [undoings, loaded.built.fresh]
    rfl

theorem compensates (loaded : Loaded self sagaId start sandbox state) :
    wp (working sandbox) (self.executeCompensations sagaId (completedSteps sagaId))
      (fun _ after => Restored self sagaId start after) (fun _ _ => False) state := by
  apply execute_compensations_rule (Loaded self sagaId start sandbox)
  · unfold writeStatus
    rw [wp_ite]
    split
    · apply wp_write_state trivial
      exact ⟨loaded.remembers, loaded.built, loaded.journaled⟩
    · exact loaded
  · intro between loaded
    apply wp_memory trivial
    exact rewinds _ loaded.rewinding

theorem marks_started (standing : Standing self sagaId start sandbox state)
    (fresh : step.stepId ∉ state.world.executed.map Deed.stepId)
    {post : Unit → System Args (Site Args W) → Prop}
    {failed : StepFault → System Args (Site Args W) → Prop}
    (marked : ∀ store, (self.store = .journaled →
      Booked sagaId state.world.executed (some (step.stepId, .executing)) store) →
      post () { state with store }) :
    wp (working sandbox) (self.markExecuting sagaId step) post failed state := by
  unfold markExecuting
  rw [wp_ite]
  split
  · rename_i journals
    have booked := standing.journaled (journaled_of_journals journals)
    have absent : state.store.effect? sagaId step.stepId = none := by
      cases found : state.store.effect? sagaId step.stepId with
      | none => rfl
      | some record =>
          rcases booked.known step.stepId record found with old | ⟨phase, shape⟩
          · exact absurd old fresh
          · cases shape
    rw [wp_bind, wp_flagged]
    refine (wp_on_store _ _ _ _).mpr ⟨trivial, ?_⟩
    simp only [StoreCall.serve, afterStore]
    rcases state.store.prepare_effect_cases sagaId step.stepId step.stepName step.action
      step.compensation step.idempotencyKey with
      ⟨existing, found, -, -⟩ | ⟨refusal, same⟩ | ⟨entry, -, shape, same⟩
    · rw [absent] at found
      cases found
    · simp [Store.prepareEffect, absent] at same
    · rw [same]
      have ownId : entry.stepId = step.stepId := by rw [shape]
      have prepared : entry.state = .prepared := by rw [shape]
      have registered := booked_put booked (ownId ▸ fresh) (by rintro _ _ ⟨⟩)
      rw [ownId, prepared] at registered
      rw [replied_ok, wp_bind, wp_flagged]
      apply wp_transition trivial
      · intro record found legal
        apply marked
        intro _
        exact registered.move fresh found
      · intro refusal illegal
        obtain ⟨record, found, state⟩ := registered.underway _ rfl
        apply absurd _ (illegal record found)
        simp [state]
  · rename_i journals
    apply marked
    exact fun journaled => absurd (journals_of_journaled journaled) journals

variable [Inhabited Args]

structure Ahead (worker : Coordinator) (sagaId : String) (start : W) (sandbox : Sandbox Args W)
    (step : SagaStep Args) (done : List (Deed Args)) (state : System Args (Site Args W)) :
    Prop where
  executed : state.world.executed = deed step :: done
  fresh : step.stepId ∉ done.map Deed.stepId
  remembers : Remembers state.memory sagaId done
  built : Built sandbox start state.world
  unfailed : state.world.failed = false
  journaled : worker.store = .journaled →
    Booked sagaId done (some (step.stepId, .executing)) state.store

omit [DecidableEq Args] [Inhabited Args] in
/-- Once the step is among the completed ones, the books agree again. -/
theorem Ahead.commit {done : List (Deed Args)}
    (ahead : Ahead self sagaId start sandbox step done state) {store : Store Args}
    (booked : self.store = .journaled → Booked sagaId (deed step :: done) none store) :
    Standing self sagaId start sandbox
      { state with
        store
        memory := ((MemoryCall.appendCompleted sagaId { step with status := .committed }).serve
          state.memory).2 } := by
  constructor
  · have remembers := remembers_append ahead.remembers { step with status := .committed }
    rw [ahead.executed]
    exact remembers
  · exact ahead.built
  · intro journaled
    rw [ahead.executed]
    exact booked journaled
  · exact ahead.unfailed

/-- What follows the commit of a record only adds to its history. -/
theorem records_standing {done : List (Deed Args)} {result : ExecuteResult Args}
    (ahead : Ahead self sagaId start sandbox step done state) {store : Store Args}
    (booked : self.store = .journaled → Booked sagaId (deed step :: done) none store) :
    wp (working sandbox) (do
      flagged self.journals false
        (self.recordHistory sagaId { step with status := .committed } result)
      pure { step with status := .committed })
      (fun _ after => Standing self sagaId start sandbox after ∧
        after.world.executed = state.world.executed) (fun _ _ => False)
      { state with
        store
        memory := ((MemoryCall.appendCompleted sagaId { step with status := .committed }).serve
          state.memory).2 } := by
  unfold recordHistory
  rw [wp_bind, wp_flagged, wp_ite]
  split
  · apply wp_record_step trivial
    exact ⟨ahead.commit fun journaled => (booked journaled).other_store fun _ => rfl, rfl⟩
  · exact ⟨ahead.commit booked, rfl⟩

theorem commits_standing {done : List (Deed Args)} {result : ExecuteResult Args}
    (ahead : Ahead self sagaId start sandbox step done state) :
    wp (working sandbox) (self.commitStep sagaId step result)
      (fun _ after => Standing self sagaId start sandbox after ∧
        after.world.executed = state.world.executed) (fun _ _ => False) state := by
  unfold commitStep markApplied publishStep publishUnjournaled
  rw [wp_bind, wp_ite]
  split
  · rename_i journals
    have booked := ahead.journaled (journaled_of_journals journals)
    rw [wp_bind, wp_flagged]
    apply wp_transition trivial
    · intro entry found legal
      have applied : Booked sagaId done (some (step.stepId, .applied))
          (state.store.putEffect sagaId
            { entry with state := .applied, result := some result.resultData, error := none }) :=
        booked.move ahead.fresh found
      rw [wp_pure, wp_bind, wp_flagged]
      apply wp_memory trivial
      rw [wp_bind, wp_bind, wp_flagged]
      apply wp_commit trivial
      · intro entry found legal
        apply records_standing ahead
        intro _
        apply booked_commit
        apply (applied.move ahead.fresh found).other_store
        exact fun id => Store.effect_publish _ _ _ _ _
      · intro refusal illegal
        obtain ⟨record, found, state⟩ := applied.underway _ rfl
        exact absurd state (illegal record found)
    · intro refusal illegal
      obtain ⟨record, found, state⟩ := booked.underway _ rfl
      apply absurd _ (illegal record found)
      simp [state]
  · rename_i journals
    have vacuous : ∀ store : Store Args, self.store = .journaled →
        Booked sagaId (deed step :: done) none store :=
      fun _ journaled => absurd (journals_of_journaled journaled) journals
    rw [wp_pure, wp_bind, wp_flagged]
    apply wp_memory trivial
    rw [wp_bind, wp_flagged, wp_ite]
    split
    · rw [wp_bind]
      refine (wp_on_store _ _ _ _).mpr ⟨trivial, ?_⟩
      simp only [StoreCall.serve, replied_ok, afterStore]
      rw [wp_ite]
      split
      · refine (wp_on_store _ _ _ _).mpr ⟨trivial, ?_⟩
        exact records_standing ahead (vacuous _)
      · exact records_standing ahead (vacuous _)
    · exact records_standing ahead (vacuous _)

omit [Inhabited Args] in
/-- A failed result leaves what was executed before, to be taken back. -/
theorem aborts_step {Value : Type} {result : ExecuteResult Args} {store : Store Args}
    (standing : Standing self sagaId start sandbox state)
    (fresh : step.stepId ∉ state.world.executed.map Deed.stepId)
    (booked : self.store = .journaled →
      Booked sagaId state.world.executed (some (step.stepId, .executing)) store)
    {post : Value → System Args (Site Args W) → Prop} :
    wp (working sandbox) (self.abortStep sagaId step result) post
      (fun fault after => Loaded self sagaId start sandbox after ∧
        fault.executionAmbiguous = false)
      { state with store, world := { state.world with failed := true } } := by
  have loaded : ∀ store : Store Args, (self.store = .journaled →
      ∃ current, Booked sagaId state.world.executed current store) →
      Loaded self sagaId start sandbox
        { state with store, world := { state.world with failed := true } } := by
    intro store booked
    constructor
    · exact standing.remembers
    · exact ⟨standing.built.stacked, standing.built.reversible, standing.built.distinct,
        standing.built.fresh⟩
    · intro journaled
      obtain ⟨current, books⟩ := booked journaled
      exact books.committed
  unfold abortStep
  rw [wp_ite]
  split
  · rename_i journals
    have journaled := journaled_of_journals journals
    rw [wp_bind, wp_flagged]
    apply wp_transition trivial
    · intro entry found legal
      exact ⟨loaded _ fun _ => ⟨_, (booked journaled).move fresh found⟩, rfl⟩
    · intro refusal illegal
      obtain ⟨record, found, executing⟩ := (booked journaled).underway _ rfl
      apply absurd _ (illegal record found)
      simp [executing]
  · exact ⟨loaded store fun journaled => ⟨_, booked journaled⟩, rfl⟩

/-- The step is executed and on the books, or its action reported a failure. -/
theorem executes_step (standing : Standing self sagaId start sandbox state)
    (fresh : step.stepId ∉ state.world.executed.map Deed.stepId)
    (reversible : Reversible sandbox (deed step)) :
    wp (working sandbox) (self.executeStep sagaId step)
      (fun _ after => Standing self sagaId start sandbox after ∧
        after.world.executed = deed step :: state.world.executed)
      (fun fault after => Loaded self sagaId start sandbox after ∧
        fault.executionAmbiguous = false) state := by
  let marked (between : System Args (Site Args W)) : Prop := between.world = state.world ∧
    between.memory = state.memory ∧ (self.store = .journaled →
      Booked sagaId state.world.executed (some (step.stepId, .executing)) between.store)
  apply execute_step_rule marked
  · apply marks_started standing fresh
    exact fun store booked => ⟨rfl, rfl, booked⟩
  · intro ⟨store, memory, world⟩ ⟨sameWorld, sameMemory, booked⟩
    obtain rfl : world = state.world := sameWorld
    obtain rfl : memory = state.memory := sameMemory
    apply wp_outside trivial
    · intro result site answered
      obtain ⟨same, reply, outcome⟩ := answered
      obtain rfl := Except.ok.inj reply
      split
      · rename_i succeeded
        rw [if_pos succeeded] at outcome
        obtain ⟨world, acted, rfl⟩ := outcome
        apply wp_unfailing (@commits_standing Args W _ self sagaId start sandbox _ step _
          state.world.executed result _)
        · exact fun _ after ends => ends
        · constructor
          · rfl
          · exact fresh
          · exact standing.remembers
          · constructor
            · exact .push standing.built.stacked acted
            · intro other member
              rcases List.mem_cons.mp member with rfl | old
              · exact reversible
              · exact standing.built.reversible other old
            · exact List.nodup_cons.mpr ⟨fresh, standing.built.distinct⟩
            · exact standing.built.fresh
          · exact standing.unfailed
          · exact booked
      · rename_i rejected
        rw [if_neg rejected] at outcome
        subst outcome
        exact aborts_step standing fresh booked
    · intro error site answered
      obtain ⟨same, reply, -⟩ := answered
      cases reply

/-- A step passed, or it failed and everything is taken back. A step that waits
for its approval has not failed. -/
structure Attempted (worker : Coordinator) (sagaId : String) (start : W)
    (sandbox : Sandbox Args W) (done : List (Deed Args)) (outcome : Option (SagaStep Args))
    (state : System Args (Site Args W)) : Prop where
  stopped : outcome = none → state.world.failed = true → Restored worker sagaId start state
  passed : outcome ≠ none →
    Standing worker sagaId start sandbox state ∧ state.world.executed = done

theorem attempts_step (standing : Standing self sagaId start sandbox state)
    (fresh : step.stepId ∉ state.world.executed.map Deed.stepId)
    (reversible : Reversible sandbox (deed step)) (before after : List (SagaStep Args)) :
    wp (working sandbox) (self.attemptStep sagaId before step after)
      (Attempted self sagaId start sandbox (deed step :: state.world.executed))
      (fun fault later => Loaded self sagaId start sandbox later ∧
        fault.executionAmbiguous = false) state := by
  have loaded : Loaded self sagaId start sandbox
      { state with world := { state.world with failed := true } } := by
    constructor
    · exact standing.remembers
    · exact ⟨standing.built.stacked, standing.built.reversible, standing.built.distinct,
        standing.built.fresh⟩
    · exact standing.loaded.journaled
  have unfailed : ∀ later : System Args (Site Args W), later.world = state.world →
      Attempted self sagaId start sandbox (deed step :: state.world.executed) none later := by
    intro later same
    constructor
    · intro _ failed
      rw [same, standing.unfailed] at failed
      cases failed
    · exact fun passed => absurd rfl passed
  let unmoved (between : System Args (Site Args W)) : Prop := between = state
  apply attempt_step_rule unmoved (Loaded self sagaId start sandbox) unmoved
  case verifies =>
    apply wp_outside trivial
    · intro answer site answered
      obtain ⟨accepted, reason⟩ := answer
      have verdict : site = { state.world with failed := state.world.failed || !accepted } :=
        answered
      split
      · rename_i yes
        have accepts : accepted = true := yes
        change _ = state
        rw [verdict, accepts]
        simp
      · rename_i no
        have rejects : accepted = false := Bool.eq_false_of_not_eq_true no
        rw [verdict, rejects]
        simpa using loaded
    · intro error site raised
      obtain rfl : site = { state.world with failed := true } := raised
      exact ⟨loaded, rfl⟩
  case checks =>
    intro between same
    rw [show between = state from same]
    unfold preflight
    rw [wp_ite]
    split
    · apply wp_outside trivial
      · intro _ site passed
        obtain rfl : site = state.world := passed
        rfl
      · intro error site raised
        obtain rfl : site = { state.world with failed := true } := raised
        exact ⟨loaded, rfl⟩
    · rfl
  case waits =>
    intro between same _ _
    rw [show between = state from same]
    unfold awaitApproval writeStatus
    rw [wp_bind]
    apply wp_memory trivial
    rw [wp_bind]
    apply wp_memory trivial
    rw [wp_ite]
    split
    · apply wp_write_state trivial
      exact unfailed _ rfl
    · exact unfailed _ rfl
  case executes =>
    intro between same _
    rw [show between = state from same]
    apply wp_mono (executes_step standing fresh reversible)
    · exact fun committed later ends => ⟨nofun, fun _ => ends⟩
    · exact fun _ _ ends => ends
  case retreats =>
    intro between loaded
    apply wp_unfailing (compensates loaded)
    exact fun _ later restored => ⟨fun _ _ => restored, fun passed => absurd rfl passed⟩

omit [Inhabited Args] in
/-- An error that leaves no doubt about the execution rolls the saga back. -/
theorem fails_step {fault : StepFault} (loaded : Loaded self sagaId start sandbox state)
    (certain : fault.executionAmbiguous = false) :
    wp (working sandbox) (self.failStep sagaId step fault)
      (fun _ after => Restored self sagaId start after) (fun _ _ => False) state := by
  apply fail_step_rule (Restored self sagaId start)
  · exact compensates loaded
  · intro after _ ambiguous
    rw [certain] at ambiguous
    cases ambiguous
  · exact fun restored _ => restored

structure Upcoming (sandbox : Sandbox Args W) (done : List (Deed Args))
    (steps : List (SagaStep Args)) : Prop where
  distinct : (steps.map (·.stepId)).Nodup
  fresh : ∀ step ∈ steps, step.stepId ∉ done.map Deed.stepId
  reversible : ∀ step ∈ steps, Reversible sandbox (deed step)

section Upcoming

variable {done : List (Deed Args)} {rest : List (SagaStep Args)}

omit [DecidableEq Args] [Inhabited Args] in
theorem Upcoming.skip (upcoming : Upcoming sandbox done (step :: rest)) :
    Upcoming sandbox done rest := by
  constructor
  · exact (List.nodup_cons.mp upcoming.distinct).2
  · exact fun other member => upcoming.fresh other (List.mem_cons_of_mem _ member)
  · exact fun other member => upcoming.reversible other (List.mem_cons_of_mem _ member)

omit [DecidableEq Args] [Inhabited Args] in
theorem Upcoming.execute (upcoming : Upcoming sandbox done (step :: rest)) :
    Upcoming sandbox (deed step :: done) rest := by
  constructor
  · exact upcoming.skip.distinct
  · intro other member known
    rw [List.map_cons, List.mem_cons] at known
    rcases known with same | old
    · have apart := (List.nodup_cons.mp upcoming.distinct).1
      exact apart (List.mem_map.mpr ⟨other, member, same⟩)
    · exact upcoming.skip.fresh other member old
  · exact upcoming.skip.reversible

end Upcoming

/-- Between two batches, with these steps still to come. The coordinator may have
dropped the saga. -/
structure Between (worker : Coordinator) (sagaId : String) (start : W) (sandbox : Sandbox Args W)
    (later : List (SagaStep Args)) (state : System Args (Site Args W)) : Prop where
  unfailed : state.world.failed = false
  held : state.memory.active.find? sagaId = none ∨
    Standing worker sagaId start sandbox state ∧ Upcoming sandbox state.world.executed later

structure Ended (worker : Coordinator) (sagaId : String) (start : W) (sandbox : Sandbox Args W)
    (later : List (SagaStep Args)) (passed : Bool) (state : System Args (Site Args W)) :
    Prop where
  goesOn : passed = true → Between worker sagaId start sandbox later state
  stopped : passed = false → state.world.failed = true → Restored worker sagaId start state

omit [Inhabited Args] in
/-- After the steps of a batch the coordinator may evict the saga. -/
theorem closes_batch {later : List (SagaStep Args)}
    (standing : Standing self sagaId start sandbox state)
    (upcoming : Upcoming sandbox state.world.executed later) :
    wp (working sandbox) (self.closeBatch sagaId)
      (fun _ => Ended self sagaId start sandbox later true) (fun _ _ => False) state := by
  obtain ⟨saga, found, deeds⟩ := standing.remembers
  have memory : Remembers ((MemoryCall.setStatus sagaId .committed).serve state.memory).2
      sagaId state.world.executed :=
    ⟨{ saga with status := .committed }, Memory.find_amend found rfl, deeds⟩
  have evicted : ∀ store : Store Args,
      (self.store = .journaled → Booked sagaId state.world.executed none store) →
      wp (working sandbox) (onMemory (.evictIfNeeded self.maxActiveSagas))
        (fun _ => Ended self sagaId start sandbox later true) (fun _ _ => False)
        { state with
          store
          memory := ((MemoryCall.setStatus sagaId .committed).serve state.memory).2 } := by
    intro store booked
    apply wp_memory trivial
    refine ⟨fun _ => ⟨standing.unfailed, ?_⟩, nofun⟩
    obtain ⟨saga, found, deeds⟩ := memory
    rcases @Memory.evict_drops Args sagaId self.maxActiveSagas
      ((MemoryCall.setStatus sagaId .committed).serve state.memory).2.active.rows
      ((MemoryCall.setStatus sagaId .committed).serve state.memory).2 with dropped | same
    · exact .inl dropped
    · have remembers : Remembers _ sagaId state.world.executed :=
        ⟨saga, same.trans found, deeds⟩
      exact .inr ⟨⟨remembers, standing.built, booked, standing.unfailed⟩, upcoming⟩
  unfold closeBatch writeStatus
  rw [wp_bind]
  apply wp_memory trivial
  rw [wp_bind, wp_ite]
  split
  · apply wp_write_state trivial
    exact evicted _ fun journaled => (standing.journaled journaled).other_store fun _ => rfl
  · exact evicted _ standing.journaled

theorem executes_steps (steps before : List (SagaStep Args)) {later : List (SagaStep Args)}
    (standing : Standing self sagaId start sandbox state)
    (upcoming : Upcoming sandbox state.world.executed (steps ++ later)) :
    wp (working sandbox) (self.executeSteps sagaId before steps)
      (Ended self sagaId start sandbox later)
      (fun _ _ => False) state := by
  let ready (steps : List (SagaStep Args)) (between : System Args (Site Args W)) : Prop :=
    Standing self sagaId start sandbox between ∧
      Upcoming sandbox between.world.executed (steps ++ later)
  apply execute_steps_rule (fun _ => ready) fun _ step rest => ready (step :: rest)
  case closes => exact fun here => closes_batch here.1 here.2
  case asks =>
    rintro before step rest between ⟨standing, upcoming⟩
    unfold alreadyCommitted
    rw [wp_ite]
    split
    · refine (wp_on_store _ _ _ _).mpr ⟨trivial, ?_⟩
      simp only [StoreCall.serve, replied_ok, afterStore]
      split
      · exact ⟨standing, upcoming.skip⟩
      · exact ⟨standing, upcoming⟩
    · exact ⟨standing, upcoming⟩
  case attempts =>
    rintro before step rest between ⟨standing, upcoming⟩
    apply wp_mono (@attempts_step Args W _ self sagaId start sandbox between
      { step with status := .running } _ standing (upcoming.fresh step (List.mem_cons_self ..))
      (upcoming.reversible step (List.mem_cons_self ..)) before rest)
    · intro outcome reached attempted
      cases outcome with
      | none =>
          refine ⟨?_, fun _ => attempted.stopped rfl⟩
          rintro ⟨⟩
      | some committed =>
          obtain ⟨standing, executed⟩ := attempted.passed (by rintro ⟨⟩)
          refine ⟨standing, ?_⟩
          rw [executed]
          exact upcoming.execute
    · intro fault reached ends
      apply wp_unfailing (fails_step ends.1 ends.2)
      intro _ after restored
      refine ⟨?_, fun _ _ => restored⟩
      rintro ⟨⟩
  case here => exact ⟨standing, upcoming⟩

theorem executes_saga (steps : List (SagaStep Args)) {later : List (SagaStep Args)}
    (between : Between self sagaId start sandbox (steps ++ later) state) :
    wp (working sandbox) (self.executeSaga sagaId steps) (Ended self sagaId start sandbox later)
      (fun _ after => after.world.failed = false) state := by
  unfold executeSaga
  rw [wp_bind]
  apply wp_memory trivial
  rw [wp_ite]
  split
  · rename_i known
    rcases between.held with dropped | ⟨standing, upcoming⟩
    · simp [MemoryCall.serve, dropped] at known
    · apply wp_unfailing (executes_steps steps [] standing upcoming)
      exact fun _ _ ended => ended
  · exact between.unfailed

omit [Inhabited Args] in
theorem starts_saga {goal tenantId : String} {later : List (SagaStep Args)}
    (fresh : ∀ stepId, state.store.effect? sagaId stepId = none)
    (idle : state.world = { world := start }) (upcoming : Upcoming sandbox [] later) :
    wp (working sandbox) (self.startTransactionLog sagaId goal tenantId)
      (fun _ after => Between self sagaId start sandbox later after) (fun _ _ => True) state := by
  have opened : ∀ store : Store Args, (∀ stepId, store.effect? sagaId stepId = none) →
      Between self sagaId start sandbox later
        { state with
          store
          memory := ((MemoryCall.registerSaga
            { sagaId, tenantId, goal, status := .running }).serve state.memory).2 } := by
    intro store fresh
    have standing : Standing self sagaId start sandbox
        { state with
          store
          memory := ((MemoryCall.registerSaga
            { sagaId, tenantId, goal, status := .running }).serve state.memory).2 } := by
      constructor
      · refine ⟨{ sagaId, tenantId, goal, status := .running }, ?_, ?_⟩
        · simp [MemoryCall.serve]
        · simp [idle]
      · constructor
        · simp [idle, Stacked.nil]
        · simp [idle]
        · simp [idle]
        · simp [idle]
      · intro _
        constructor
        · simp [idle]
        · rintro _ ⟨⟩
        · intro id record found
          rw [fresh] at found
          cases found
      · simp [idle]
    constructor
    · exact standing.unfailed
    · refine .inr ⟨standing, ?_⟩
      simpa [idle] using upcoming
  unfold startTransactionLog writeStatus
  rw [wp_bind]
  apply wp_memory trivial
  rw [wp_ite]
  split
  · trivial
  · rw [wp_bind]
    apply wp_memory trivial
    rw [wp_ite]
    split
    · apply wp_write_state trivial
      exact opened _ fresh
    · exact opened _ fresh

/-- Batches that ran one after the other and returned `True`. -/
inductive Batches (worker : Coordinator) (sagaId : String) (sandbox : Sandbox Args W) :
    List (List (SagaStep Args)) → System Args (Site Args W) → System Args (Site Args W) → Prop
  | nil {now} : Batches worker sagaId sandbox [] now now
  | cons {steps batches before between after}
      (passed : Steps (working sandbox) (worker.executeSaga sagaId steps) before (.done true)
        between)
      (later : Batches worker sagaId sandbox batches between after) :
      Batches worker sagaId sandbox (steps :: batches) before after

theorem batches_between {batches : List (List (SagaStep Args))} {last : List (SagaStep Args)}
    {after : System Args (Site Args W)} (earlier : Batches self sagaId sandbox batches state after)
    (between : Between self sagaId start sandbox (batches.flatten ++ last) state) :
    Between self sagaId start sandbox last after := by
  induction earlier with
  | nil => exact between
  | @cons steps batches state next after passed later ih =>
      rw [List.flatten_cons, List.append_assoc] at between
      have ended : Ended self sagaId start sandbox (batches.flatten ++ last) true next :=
        wp_steps (executes_saga steps between) passed
      exact ih (ended.goesOn rfl)

/-- The first batch that fails returns `False` and takes back everything the
saga has done. -/
theorem first_failure_restores {goal tenantId : String} {batches : List (List (SagaStep Args))}
    {last : List (SagaStep Args)} {initial opened between : System Args (Site Args W)}
    {outcome : Except PyError Bool}
    (fresh : ∀ stepId, initial.store.effect? sagaId stepId = none)
    (idle : initial.world = { world := start })
    (distinct : ((batches.flatten ++ last).map (·.stepId)).Nodup)
    (reversible : ∀ step ∈ batches.flatten ++ last, Reversible sandbox (deed step))
    (started : Steps (working sandbox) (self.startTransactionLog sagaId goal tenantId) initial
      (.done ()) opened)
    (earlier : Batches self sagaId sandbox batches opened between)
    (ended : Steps (working sandbox) (self.executeSaga sagaId last) between
      (Program.ended outcome) state)
    (failed : state.world.failed = true) :
    outcome = .ok false ∧ Restored self sagaId start state := by
  have upcoming : Upcoming sandbox [] (batches.flatten ++ last) := ⟨distinct, by simp, reversible⟩
  have opening : Between self sagaId start sandbox (batches.flatten ++ last) opened :=
    wp_steps (starts_saga fresh idle upcoming) started
  have closing : Between self sagaId start sandbox (last ++ []) between := by
    rw [List.append_nil]
    exact batches_between earlier opening
  have result := wp_ended (executes_saga last closing) ended
  cases outcome with
  | ok passed =>
      have ends : Ended self sagaId start sandbox [] passed state := result
      cases passed with
      | true =>
          have unfailed := (ends.goesOn rfl).unfailed
          rw [failed] at unfailed
          cases unfailed
      | false => exact ⟨rfl, ends.stopped rfl failed⟩
  | error error =>
      have unfailed : state.world.failed = false := result
      rw [failed] at unfailed
      cases unfailed

end Forward

section Runs

def clerk : (request : OutsideCall Nat) → Site Nat Nat →
    Except PyError request.Answer × Site Nat Nat
  | .verify .., site => (.ok (true, ""), site)
  | .validate _, site => (.ok (), site)
  | .execute _ step, site =>
      if step.action.arguments ≤ 10 then
        (.ok (.dict 0), { site with
          world := site.world + step.action.arguments
          executed := deed step :: site.executed })
      else (.ok .none, { site with failed := true })
  | .executeCompensation _ stepId compensation, site =>
      (.ok true, { site with
        world := site.world - compensation.arguments
        compensated := site.compensated ++ [(stepId, compensation)] })
  | .resolveEffect _, site => (.ok (.bool true), site)
  | .resolveCompensation _, site => (.ok (.bool true), site)
  | .executeIdempotent .., site => (.ok .none, site)

theorem clerk_honest (request : OutsideCall Nat) (site : Site Nat Nat) :
    (workshop account).respond request site (clerk request site).1 (clerk request site).2 := by
  cases request with
  | verify arguments invariants => simp [workshop, clerk]
  | execute sagaId step =>
      by_cases small : step.action.arguments ≤ 10
      · exact ⟨.dict 0, by simp [clerk, small],
          by simp [clerk, small, ExecuteResult.succeeded, account]⟩
      · exact ⟨.none, by simp [clerk, small], by simp [clerk, small, ExecuteResult.succeeded]⟩
  | executeCompensation sagaId stepId compensation => exact ⟨_, ⟨rfl, rfl⟩, rfl⟩
  | _ => rfl

def teller : Coordinator where
  store := .journaled

def served {Value : Type} (program : Action Nat Value) (state : System Nat (Site Nat Nat)) :
    Action Nat Value × System Nat (Site Nat Nat) :=
  simulate (answerWith (workshop account) clerk) 60 program state

theorem served_steps {Value : Type} (program : Action Nat Value)
    (state : System Nat (Site Nat Nat)) :
    Steps (working account) program state (served program state).1 (served program state).2 :=
  simulate_steps (answer_with_honest clerk_honest) 60 program state

def openingDay : System Nat (Site Nat Nat) := ⟨.empty, .empty, { world := 5 }⟩

def opened : System Nat (Site Nat Nat) :=
  (served (teller.startTransactionLog "s" "" "") openingDay).2

def deposited : System Nat (Site Nat Nat) :=
  (served (teller.executeSaga "s" [deposit "a" 2, deposit "b" 3]) opened).2

def overdone : System Nat (Site Nat Nat) :=
  (served (teller.executeSaga "s" [deposit "c" 4, deposit "d" 11]) deposited).2

/-- Two batches; the last step of the second one is rejected. -/
theorem three_deposits_taken_back : Restored teller "s" 5 overdone := by
  have first := served_steps (teller.startTransactionLog "s" "" "") openingDay
  have passed := served_steps (teller.executeSaga "s" [deposit "a" 2, deposit "b" 3]) opened
  have failing := served_steps (teller.executeSaga "s" [deposit "c" 4, deposit "d" 11]) deposited
  have reversible : ∀ step ∈ [deposit "a" 2, deposit "b" 3, deposit "c" 4, deposit "d" 11],
      Reversible account (deed step) := by
    intro step member
    simp only [List.mem_cons, List.not_mem_nil, or_false] at member
    rcases member with rfl | rfl | rfl | rfl
    all_goals exact deposit_reversible _ _
  exact (@first_failure_restores Nat Nat _ teller "s" 5 account overdone _ "" ""
    [[deposit "a" 2, deposit "b" 3]] [deposit "c" 4, deposit "d" 11] openingDay opened deposited
    (.ok false) (fun _ => rfl) rfl (by decide) reversible first (.cons passed .nil) failing rfl).2

end Runs

end SagaMind.LifoRestoration
