import SagaMind.AllOrNothing.Recovery

/-!
# Execution builds the layers

A running batch adds one layer for each step. The first step that does not pass
makes the coordinator take all of them off again.
-/

namespace SagaMind.AllOrNothing

open CallProgram KeyedTable Coordinator Undoing Walk Workshop

set_option autoImplicit false

variable {Args W : Type}

section Rollback

variable {batch : Batch Args W} {standing past : List (Effect Args)}
  {middle : Option (Effect Args)} {placed : Option (Deed Args)} {state : System Args (Site Args W)}

theorem Layered.remember (layered : Layered batch standing middle placed past state)
    (memory : Memory Args) : Layered batch standing middle placed past { state with memory } :=
  layered.aside ⟨rfl, rfl, rfl, rfl, rfl⟩

theorem Layered.write (layered : Layered batch standing middle placed past state)
    {status : SagaStatus} (alive : status.terminal = false) (working : status ≠ .awaitingApproval)
    (metadata : Metadata Args) :
    Layered batch standing middle placed past { state with
      store := state.store.writeTransactionState batch.sagaId status metadata } := by
  constructor
  · refine ⟨_, by rw [Store.find_write_state, if_pos rfl], alive, ?_⟩
    simp [awaitsApproval, working]
  · exact layered.books
  · exact layered.site
  · exact layered.scene
  · exact layered.unkeyed
  · exact layered.plain

variable [DecidableEq Args] {self : Coordinator}

theorem rolls_back_step (journaled : self.store = .journaled) {row : Effect Args}
    {step : SagaStep Args} (same : deed step = recorded row)
    (layered : Layered batch (row :: standing) none none past state) :
    wp (benching batch) (self.compensateStep batch.sagaId step) (Walked batch standing)
      (fun _ _ => False) state := by
  have ownId : step.stepId = row.stepId := congrArg Deed.stepId same
  have ownUndoing : step.compensation = row.compensation := congrArg Deed.compensation same
  have committed : row.state = .committed := layered.books.committed row (List.mem_cons_self ..)
  have opened := layered.reopen
  unfold compensateStep markCompensating markCompensated
  rw [ownId, ownUndoing, if_pos (journals_of_journaled journaled),
    if_pos (journals_of_journaled journaled), wp_bind, wp_bind]
  apply wp_get_effect layered.safe
  · intro effect known
    obtain rfl : row = effect := Option.some.inj (opened.find.symm.trans known)
    rw [wp_ite, if_pos (.inr committed), wp_bind]
    apply wp_claims opened
    · simp [committed]
    · intro entry store claimed compensating sameId sameUndoing
      rw [wp_pure, wp_bind, ← sameId, ← sameUndoing]
      apply wp_takes_off claimed compensating
      intro site taken
      rw [wp_ite, if_pos rfl, wp_bind, wp_bind]
      apply wp_settles taken rfl
      · simp [compensating]
      · rfl
      · exact fun entry store finished => ⟨rfl, _, finished⟩
  · intro error missing
    rw [opened.find] at missing
    cases missing

theorem rolls_back (journaled : self.store = .journaled) (steps : List (SagaStep Args))
    (same : steps.map deed = standing.map recorded)
    (layered : Layered batch standing none none past state) :
    wp (benching batch) (self.rollback batch.sagaId steps) (fun _ after => Outcome batch after)
      (fun _ _ => False) state := by
  let rolling (steps : List (SagaStep Args)) (between : System Args (Site Args W)) : Prop :=
    ∃ standing past, steps.map deed = standing.map recorded ∧
      Layered batch standing none none past between
  apply rollback_rule rolling
  case closes =>
    intro between ⟨standing, past, same, layered⟩
    obtain rfl : standing = [] := by simpa using same.symm
    unfold closeRollback
    rw [wp_bind]
    apply wp_memory layered.safe
    rw [write_status_journaled journaled]
    apply wp_write_state (layered.remember _).safe
    exact (layered.remember _).rolled_back _
  case undoes =>
    intro step rest between ⟨standing, past, same, layered⟩
    cases standing with
    | nil => simp at same
    | cons row earlier =>
        obtain ⟨first, later⟩ := List.cons.inj same
        unfold undoStep
        rw [wp_attempt]
        apply wp_unfailing (rolls_back_step journaled first layered)
        rintro goOn after ⟨rfl, past, layered⟩
        exact ⟨earlier, past, later, layered⟩
  case here => exact ⟨standing, past, same, layered⟩

def Retreating (batch : Batch Args W) (state : System Args (Site Args W)) : Prop :=
  ∃ standing past, Layered batch standing none none past state ∧
    Remembers state.memory batch.sagaId (standing.map recorded)

theorem compensates (journaled : self.store = .journaled) (retreating : Retreating batch state) :
    wp (benching batch) (self.executeCompensations batch.sagaId (completedSteps batch.sagaId))
      (fun _ after => Outcome batch after) (fun _ _ => False) state := by
  obtain ⟨standing, past, layered, saga, found, deeds⟩ := retreating
  apply execute_compensations_rule fun between =>
    Layered batch standing none none past between ∧ between.memory = state.memory
  · rw [write_status_journaled journaled]
    apply wp_write_state layered.safe
    exact ⟨layered.write (rfl : SagaStatus.compensating.terminal = false) nofun {}, rfl⟩
  · intro between ⟨compensating, remembered⟩
    have read : ((MemoryCall.completedSteps batch.sagaId).serve between.memory).1 =
        saga.completedSteps := by
      rw [remembered]
      simp [MemoryCall.serve, Memory.held?, found]
    apply wp_memory compensating.safe
    rw [read]
    exact rolls_back journaled _ deeds compensating

end Rollback

section Forward

variable {batch : Batch Args W} {done : List (SagaStep Args)} {standing : List (Effect Args)}
  {step : SagaStep Args} {state : System Args (Site Args W)}

def deeds (done : List (SagaStep Args)) : List (Deed Args) := (done.map deed).reverse

theorem deeds_append (done : List (SagaStep Args)) (step : SagaStep Args) :
    deeds (done ++ [step]) = deed step :: deeds done := by
  simp [deeds]

structure Knows (batch : Batch Args W) (done : List (SagaStep Args))
    (state : System Args (Site Args W)) : Prop where
  remembers : Remembers state.memory batch.sagaId (deeds done)
  published : ∀ key, state.store.stepAlreadyCommitted batch.sagaId key = true →
    some key ∈ done.map publishedKey

structure Running (batch : Batch Args W) (done : List (SagaStep Args))
    (standing : List (Effect Args)) (state : System Args (Site Args W)) : Prop where
  knows : Knows batch done state
  layered : Layered batch standing none none [] state
  stands : standing.map recorded = deeds done
  executed : state.world.executed = deeds done
  kept : state.world.compensated = []

structure Midway (batch : Batch Args W) (done : List (SagaStep Args))
    (standing : List (Effect Args)) (step : SagaStep Args) (row : Effect Args)
    (placed : Option (Deed Args)) (state : System Args (Site Args W)) : Prop where
  knows : Knows batch done state
  layered : Layered batch standing (some row) placed [] state
  stands : standing.map recorded = deeds done
  same : recorded row = deed step
  executed : state.world.executed = placed.toList ++ deeds done
  kept : state.world.compensated = []

theorem Running.retreating (running : Running batch done standing state) :
    Retreating batch state := by
  refine ⟨standing, [], running.layered, ?_⟩
  rw [running.stands]
  exact running.knows.remembers

def Next (batch : Batch Args W) (done : List (SagaStep Args)) (step : SagaStep Args) : Prop :=
  ∃ status rest, batch.steps = done ++ { step with status } :: rest

/-- A step that is to come is new to the journal and to the published keys. -/
theorem Running.fresh (running : Running batch done standing state)
    (next : Next batch done step) :
    (state.store.effects batch.sagaId).find? step.stepId = none ∧
      step.stepId ∉ state.world.executed.map Deed.stepId := by
  obtain ⟨status, rest, split⟩ := next
  have apart : step.stepId ∉ done.map (·.stepId) := by
    have distinct := batch.distinct
    rw [split, List.map_append, List.map_cons] at distinct
    intro member
    exact (List.nodup_append.mp distinct).2.2 _ member _ (List.mem_cons_self ..) rfl
  have ids : (deeds done).map Deed.stepId = (done.map (·.stepId)).reverse := by
    rw [deeds, List.map_reverse, List.map_map]
    rfl
  constructor
  · apply Table.find_none_iff.mpr
    intro row member same
    have rows : (state.store.effects batch.sagaId).rows = standing.reverse := by
      simpa using running.layered.books.rows
    rw [rows, List.mem_reverse] at member
    have known : (recorded row).stepId ∈ (standing.map recorded).map Deed.stepId :=
      List.mem_map_of_mem (List.mem_map_of_mem member)
    rw [running.stands, ids, List.mem_reverse] at known
    apply apart
    rw [← same]
    exact known
  · rw [running.executed, ids, List.mem_reverse]
    exact apart

theorem Running.unpublished (running : Running batch done standing state)
    (next : Next batch done step) (keyed : truthy step.idempotencyKey = true) :
    state.store.stepAlreadyCommitted batch.sagaId (step.idempotencyKey.getD "") = false := by
  obtain ⟨status, rest, split⟩ := next
  have own : publishedKey { step with status } = some (step.idempotencyKey.getD "") := by
    unfold publishedKey
    rw [if_pos keyed]
    cases shape : step.idempotencyKey with
    | none =>
        rw [shape] at keyed
        cases keyed
    | some key => rfl
  apply Bool.eq_false_of_not_eq_true
  intro published
  obtain ⟨other, member, same⟩ := List.mem_map.mp (running.knows.published _ published)
  have distinct := batch.keyed
  rw [split, List.filterMap_append, List.filterMap_cons_some own] at distinct
  apply (List.nodup_append.mp distinct).2.2 (step.idempotencyKey.getD "") _ _
    (List.mem_cons_self ..) rfl
  exact List.mem_filterMap.mpr ⟨other, member, same⟩

variable [DecidableEq Args] {self : Coordinator} {row : Effect Args}
  {placed : Option (Deed Args)} {failed : StepFault → System Args (Site Args W) → Prop}

theorem marks_executing (journaled : self.store = .journaled)
    (running : Running batch done standing state) (next : Next batch done step)
    {post : Unit → System Args (Site Args W) → Prop}
    (marked : ∀ row store, row.state = .executing →
      step.stepId ∉ state.world.executed.map Deed.stepId →
      Midway batch done standing step row none { state with store } →
      post () { state with store }) :
    wp (benching batch) (self.markExecuting batch.sagaId step) post failed state := by
  obtain ⟨absent, fresh⟩ := running.fresh next
  unfold markExecuting
  rw [if_pos (journals_of_journaled journaled), wp_bind, wp_flagged]
  refine (wp_on_store _ _ _ _).mpr ⟨running.layered.safe, ?_⟩
  simp only [StoreCall.serve, afterStore]
  rcases state.store.prepare_effect_cases batch.sagaId step.stepId step.stepName step.action
    step.compensation step.idempotencyKey with
    ⟨existing, found, -, -⟩ | ⟨refusal, same⟩ | ⟨entry, -, shape, same⟩
  · rw [Store.effect?, absent] at found
    cases found
  · simp [Store.prepareEffect, Store.effect?, absent] at same
  · have own : entry.sagaId = batch.sagaId := by rw [shape]
    have ownId : entry.stepId = step.stepId := by rw [shape]
    have ownDeed : recorded entry = deed step := by
      rw [shape]
      rfl
    have ownKey : entry.idempotencyKey = step.idempotencyKey := by rw [shape]
    have prepared : entry.state = .prepared := by rw [shape]
    rw [← ownId] at absent
    have registered : Layered batch standing (some entry) none [] { state with
        store := state.store.putEffect batch.sagaId entry } := by
      constructor
      · exact running.layered.alive
      · have journal : (state.store.putEffect batch.sagaId entry).effects batch.sagaId =
            (state.store.effects batch.sagaId).put entry := by
          simp [Store.putEffect]
        rw [journal]
        exact running.layered.books.prepare own absent
      · exact .prepared prepared
      · exact running.layered.scene
      · intro other member executing
        obtain rfl := Option.some.inj member
        rw [prepared] at executing
        cases executing
      · exact running.layered.plain
    rw [same, replied_ok, wp_bind, wp_flagged]
    apply wp_moves registered ownId
    · simp [prepared]
    · apply marked { entry with state := .executing, result := none, error := none }
      · rfl
      · exact fresh
      · constructor
        · exact ⟨running.knows.remembers, running.knows.published⟩
        · apply registered.put
          · apply Placed.unapplied rfl
            rw [← ownId] at fresh
            exact fresh
          · intro _ keyed
            rw [ownKey] at keyed ⊢
            exact running.unpublished next keyed
        · exact running.stands
        · exact ownDeed
        · exact running.executed
        · exact running.kept

/-- The action succeeds and is in place, or fails and nothing changes. -/
theorem executes_action (midway : Midway batch done standing step row none state)
    (executing : row.state = .executing)
    (fresh : step.stepId ∉ state.world.executed.map Deed.stepId) (next : Next batch done step)
    {post : ExecuteResult Args → System Args (Site Args W) → Prop}
    {failed : PyError → System Args (Site Args W) → Prop}
    (succeeds : ∀ result site, result.succeeded = true →
      Midway batch done standing step row (some (recorded row)) { state with world := site } →
      post result { state with world := site })
    (rejects : ∀ result site, ¬result.succeeded = true →
      Midway batch done standing step row none { state with world := site } →
      post result { state with world := site }) :
    wp (benching batch) (onOutside (.execute batch.sagaId step)) post failed state := by
  have ownId : row.stepId = step.stepId := congrArg Deed.stepId midway.same
  have whole : state.world.executed = deeds done := midway.executed
  have scene := midway.layered.scene
  rw [Option.toList_none, List.nil_append, midway.stands] at scene
  apply wp_outside midway.layered.safe
  · rintro result site ⟨answer, reply, outcome⟩
    obtain rfl := Except.ok.inj reply
    by_cases succeeded : result.succeeded = true
    · rw [if_pos succeeded] at outcome
      obtain ⟨world, acted, rfl⟩ := outcome
      apply succeeds _ _ succeeded
      have placed : Scene batch (deed step :: deeds done)
          { state.world with world, executed := deed step :: state.world.executed } := by
        constructor
        · exact .push scene.stacked acted
        · refine ⟨[], ?_, midway.kept⟩
          rw [whole]
          rfl
        · obtain ⟨status, rest, split⟩ := next
          refine ⟨done ++ [{ step with status }], rest, ?_, ?_⟩
          · rw [split]
            simp
          · rw [whole, ← deeds, deeds_append]
            rfl
      constructor
      · exact ⟨midway.knows.remembers, midway.knows.published⟩
      · constructor
        · exact midway.layered.alive
        · exact midway.layered.books
        · apply Placed.stands
          rw [executing]
          rfl
        · rw [Option.toList_some, List.singleton_append, midway.stands, midway.same]
          exact placed
        · exact midway.layered.unkeyed
        · exact midway.layered.plain
      · exact midway.stands
      · exact midway.same
      · rw [Option.toList_some, List.singleton_append, midway.same, ← whole]
      · exact midway.kept
    · rw [if_neg succeeded] at outcome
      subst outcome
      apply rejects _ _ succeeded
      constructor
      · exact ⟨midway.knows.remembers, midway.knows.published⟩
      · constructor
        · exact midway.layered.alive
        · exact midway.layered.books
        · apply Placed.unapplied executing
          rw [ownId]
          exact fresh
        · rw [Option.toList_none, List.nil_append, midway.stands]
          exact ⟨scene.stacked, scene.undone, scene.progress⟩
        · exact midway.layered.unkeyed
        · exact midway.layered.plain
      · exact midway.stands
      · exact midway.same
      · exact midway.executed
      · exact midway.kept
  · rintro error site ⟨answer, reply, -⟩
    cases reply

omit [DecidableEq Args] in
theorem publishes {store : Store Args} {sagaId key : String}
    (known : ∀ key, store.stepAlreadyCommitted sagaId key = true → some key ∈ done.map publishedKey)
    (published : (store.publish sagaId step.idempotencyKey).stepAlreadyCommitted sagaId key = true) :
    some key ∈ (done ++ [step]).map publishedKey := by
  rw [List.map_append, List.mem_append]
  by_cases keyed : truthy step.idempotencyKey = true
  · rcases Store.publish_adds published with old | ⟨-, given⟩
    · exact .inl (known key old)
    · right
      simp [publishedKey, given ▸ keyed, given]
  · rw [Store.publish, if_neg keyed] at published
    exact .inl (known key published)

variable [Inhabited Args]

omit [DecidableEq Args] [Inhabited Args] in
theorem Midway.advance (midway : Midway batch done standing step row (some (recorded row)) state)
    (newState : EffectState) (result : Option Args) (error : Option String)
    (stands : standable newState = true) (quiet : newState ≠ .executing) :
    Midway batch done standing step { row with state := newState, result, error }
      (some (recorded { row with state := newState, result, error })) { state with
        store := state.store.putEffect batch.sagaId
          { row with state := newState, result, error } } where
  knows := ⟨midway.knows.remembers, midway.knows.published⟩
  layered := midway.layered.stand newState result error stands quiet
  stands := midway.stands
  same := midway.same
  executed := midway.executed
  kept := midway.kept

omit [DecidableEq Args] [Inhabited Args] in
/-- A step whose record is committed and whose key is published is done with. -/
theorem Midway.finish (midway : Midway batch done standing step row (some (recorded row)) state)
    (committed : row.state = .committed) :
    Running batch (done ++ [step]) (row :: standing) { state with
      store := state.store.publish batch.sagaId step.idempotencyKey
      memory := ((MemoryCall.appendCompleted batch.sagaId { step with status := .committed }).serve
        state.memory).2 } := by
  have layered := midway.layered.commit committed
  constructor
  · constructor
    · rw [deeds_append]
      exact remembers_append midway.knows.remembers { step with status := .committed }
    · exact fun key published => publishes midway.knows.published published
  · constructor
    · obtain ⟨row, found, alive⟩ := layered.alive
      refine ⟨row, ?_, alive⟩
      rw [Store.state_publish]
      exact found
    · rw [Store.effects_publish]
      exact layered.books
    · exact .nothing
    · exact layered.scene
    · exact nofun
    · rw [Store.comps_publish]
      exact layered.plain
  · rw [List.map_cons, midway.stands, midway.same, deeds_append]
  · rw [midway.executed, midway.same, deeds_append]
    rfl
  · exact midway.kept

theorem commits_step (journaled : self.store = .journaled) {result : ExecuteResult Args}
    (midway : Midway batch done standing step row (some (recorded row)) state)
    (executing : row.state = .executing) :
    wp (benching batch) (self.commitStep batch.sagaId step result)
      (fun _ after => ∃ standing, Running batch (done ++ [step]) standing after)
      (fun _ _ => False) state := by
  have ownId : row.stepId = step.stepId := congrArg Deed.stepId midway.same
  have journals := journals_of_journaled journaled
  have applied := midway.advance .applied (some result.resultData) none rfl nofun
  have committed := applied.advance .committed (some result.resultData) none rfl nofun
  have running := committed.finish rfl
  unfold commitStep markApplied publishStep
  rw [if_pos journals, wp_bind, wp_bind, wp_flagged]
  apply wp_moves midway.layered ownId
  · simp [executing]
  · rw [wp_pure, wp_bind, wp_flagged]
    apply wp_memory applied.layered.safe
    rw [wp_bind, if_pos journals, wp_bind, wp_flagged]
    apply wp_commits (applied.layered.remember _) ownId rfl
    rw [wp_pure, wp_bind, wp_flagged, record_history_journaled journaled]
    apply wp_record_step running.layered.safe
    refine ⟨_, ⟨running.knows.remembers, running.knows.published⟩, ?_, running.stands,
      running.executed, running.kept⟩
    exact running.layered.aside ⟨rfl, rfl, rfl, rfl, rfl⟩

omit [Inhabited Args] in
theorem aborts_step (journaled : self.store = .journaled) {Value : Type}
    {result : ExecuteResult Args} (midway : Midway batch done standing step row none state)
    (executing : row.state = .executing) {post : Value → System Args (Site Args W) → Prop} :
    wp (benching batch) (self.abortStep batch.sagaId step result) post
      (fun fault after => Retreating batch after ∧ fault.executionAmbiguous = false) state := by
  have ownId : row.stepId = step.stepId := congrArg Deed.stepId midway.same
  unfold abortStep
  rw [if_pos (journals_of_journaled journaled), wp_bind, wp_flagged]
  apply wp_settles midway.layered ownId
  · simp [executing]
  · rfl
  · intro entry store finished
    refine ⟨⟨standing, _, finished, ?_⟩, rfl⟩
    rw [midway.stands]
    exact midway.knows.remembers

theorem executes_step (journaled : self.store = .journaled)
    (running : Running batch done standing state) (next : Next batch done step) :
    wp (benching batch) (self.executeStep batch.sagaId step)
      (fun _ after => ∃ standing, Running batch (done ++ [step]) standing after)
      (fun fault after => Retreating batch after ∧ fault.executionAmbiguous = false) state := by
  apply execute_step_rule fun marked => ∃ row, row.state = .executing ∧
    step.stepId ∉ marked.world.executed.map Deed.stepId ∧
    Midway batch done standing step row none marked
  · apply marks_executing journaled running next
    exact fun row store executing fresh midway => ⟨row, executing, fresh, midway⟩
  · intro marked ⟨row, executing, fresh, midway⟩
    apply executes_action midway executing fresh next
    · intro result site succeeded midway
      rw [if_pos succeeded]
      apply wp_unfailing (commits_step journaled midway executing)
      exact fun _ _ ends => ends
    · intro result site rejected midway
      rw [if_neg rejected]
      exact aborts_step journaled midway executing

omit [DecidableEq Args] [Inhabited Args] in
theorem Running.judged (running : Running batch done standing state) (failed : Bool) :
    Running batch done standing { state with world := { state.world with failed } } := by
  constructor
  · exact ⟨running.knows.remembers, running.knows.published⟩
  · constructor
    · exact running.layered.alive
    · exact running.layered.books
    · exact .nothing
    · have scene := running.layered.scene
      exact ⟨scene.stacked, scene.undone, scene.progress⟩
    · exact nofun
    · exact running.layered.plain
  · exact running.stands
  · exact running.executed
  · exact running.kept

/-- How the `try` block of a step may end. -/
def Attempted (batch : Batch Args W) (done : List (SagaStep Args))
    (outcome : Option (SagaStep Args)) (state : System Args (Site Args W)) : Prop :=
  match outcome with
  | some _ => ∃ standing, Running batch done standing state
  | none => Outcome batch state

theorem attempts_step (journaled : self.store = .journaled)
    (running : Running batch done standing state) (next : Next batch done step)
    (before after : List (SagaStep Args)) :
    wp (benching batch) (self.attemptStep batch.sagaId before step after)
      (Attempted batch (done ++ [step]))
      (fun fault after => Retreating batch after ∧ fault.executionAmbiguous = false) state := by
  have ungated : step.requiresApproval = false := by
    obtain ⟨status, rest, split⟩ := next
    apply batch.ungated { step with status }
    rw [split]
    simp
  have judged : ∀ failed, Retreating batch { state with world := { state.world with failed } } :=
    fun failed => (running.judged failed).retreating
  let unmoved (between : System Args (Site Args W)) : Prop := between = state
  apply attempt_step_rule unmoved (Retreating batch) unmoved
  case verifies =>
    apply wp_outside running.layered.safe
    · rintro ⟨accepted, reason⟩ site response
      obtain rfl : site = { state.world with failed := state.world.failed || !accepted } := response
      split
      · rename_i yes
        have accepts : accepted = true := yes
        change _ = state
        rw [accepts]
        simp
      · exact judged _
    · intro error site response
      obtain rfl : site = { state.world with failed := true } := response
      exact ⟨judged true, rfl⟩
  case checks =>
    intro between same
    rw [show between = state from same]
    unfold preflight
    rw [wp_ite]
    split
    · apply wp_outside running.layered.safe
      · intro _ site response
        obtain rfl : site = state.world := response
        rfl
      · intro error site response
        obtain rfl : site = { state.world with failed := true } := response
        exact ⟨judged true, rfl⟩
    · rfl
  case waits =>
    intro between _ gate
    rw [ungated] at gate
    cases gate
  case executes =>
    intro between same _
    rw [show between = state from same]
    apply wp_mono (executes_step journaled running next)
    · exact fun committed after ends => ends
    · exact fun _ _ ends => ends
  case retreats =>
    intro between retreating
    apply wp_unfailing (compensates journaled retreating)
    exact fun _ after outcome => outcome

omit [Inhabited Args] in
theorem fails_step (journaled : self.store = .journaled) {fault : StepFault}
    (retreating : Retreating batch state) (certain : fault.executionAmbiguous = false) :
    wp (benching batch) (self.failStep batch.sagaId step fault)
      (fun _ after => Outcome batch after) (fun _ _ => False) state := by
  apply fail_step_rule (Outcome batch)
  · exact compensates journaled retreating
  · intro after _ ambiguous
    rw [certain] at ambiguous
    cases ambiguous
  · exact fun outcome _ => outcome

omit [DecidableEq Args] [Inhabited Args] in
theorem Running.restated {status : StepStatus}
    (running : Running batch (done ++ [{ step with status }]) standing state) :
    Running batch (done ++ [step]) standing state := by
  have sameDeeds : deeds (done ++ [{ step with status }]) = deeds (done ++ [step]) := by
    rw [deeds_append, deeds_append]
    rfl
  have sameKeys : (done ++ [{ step with status }]).map publishedKey =
      (done ++ [step]).map publishedKey := by
    rw [List.map_append, List.map_append]
    rfl
  constructor
  · constructor
    · rw [← sameDeeds]
      exact running.knows.remembers
    · rw [← sameKeys]
      exact running.knows.published
  · exact running.layered
  · rw [← sameDeeds]
    exact running.stands
  · rw [← sameDeeds]
    exact running.executed
  · exact running.kept

theorem executes_steps (journaled : self.store = .journaled) (steps before : List (SagaStep Args))
    (running : Running batch done standing state) (split : batch.steps = done ++ steps) :
    wp (benching batch) (self.executeSteps batch.sagaId before steps)
      (fun _ after => Outcome batch after) (fun _ _ => False) state := by
  let ready (steps : List (SagaStep Args)) (between : System Args (Site Args W)) : Prop :=
    ∃ done standing, Running batch done standing between ∧ batch.steps = done ++ steps
  apply execute_steps_rule (fun _ => ready) fun _ step rest => ready (step :: rest)
  case closes =>
    intro before state ⟨done, standing, running, split⟩
    have complete : batch.steps = done := by simpa using split
    have outcome : ∀ memory : Memory Args, Outcome batch { state with
        store := state.store.writeTransactionState batch.sagaId .committed {}
        memory } := by
      intro memory
      have scene := running.layered.scene
      rw [Option.toList_none, List.nil_append, running.stands, ← running.executed] at scene
      apply Outcome.committed
      · rw [Store.status_write_state, if_pos rfl]
      · rw [complete]
        exact running.executed
      · exact running.kept
      · exact scene.stacked
    unfold closeBatch
    rw [wp_bind]
    apply wp_memory running.layered.safe
    rw [write_status_journaled journaled, wp_bind]
    apply wp_write_state (running.layered.remember _).safe
    apply wp_memory (.inl (outcome _))
    exact outcome _
  case asks =>
    intro before step rest state ⟨done, standing, running, split⟩
    have next : Next batch done step := ⟨step.status, rest, split⟩
    unfold alreadyCommitted
    rw [wp_ite]
    split
    · rename_i keyed
      refine (wp_on_store _ _ _ _).mpr ⟨running.layered.safe, ?_⟩
      simp only [StoreCall.serve, replied_ok, afterStore, running.unpublished next keyed.1]
      exact ⟨done, standing, running, split⟩
    · exact ⟨done, standing, running, split⟩
  case attempts =>
    intro before step rest state ⟨done, standing, running, split⟩
    have next : Next batch done { step with status := .running } := ⟨step.status, rest, split⟩
    apply wp_mono (attempts_step journaled running next before rest)
    · intro outcome after attempted
      cases outcome with
      | none => exact attempted
      | some committed =>
          obtain ⟨standing, running⟩ := attempted
          refine ⟨done ++ [step], standing, running.restated, ?_⟩
          rw [split]
          simp
    · exact fun fault after ends => fails_step journaled ends.1 ends.2
  case here => exact ⟨done, standing, running, split⟩

theorem executes_saga (journaled : self.store = .journaled)
    (running : Running batch [] standing state) :
    wp (benching batch) (self.executeSaga batch.sagaId batch.steps)
      (fun _ after => Outcome batch after) (fun _ _ => False) state := by
  obtain ⟨saga, found, -⟩ := running.knows.remembers
  unfold executeSaga
  rw [wp_bind]
  apply wp_memory running.layered.safe
  rw [wp_ite, if_pos (by simp [MemoryCall.serve, found])]
  exact executes_steps journaled batch.steps [] running rfl

end Forward

end SagaMind.AllOrNothing
