import SagaMind.ApprovalPauses.Verdict
import SagaMind.Coordinator.Lifetime

/-!
# A coordinator carries out the verdict

The calls of the sandbox, the records and the status that a coordinator leaves
are those of the verdict, unless it pauses. Where it pauses, the verdict on the
steps that wait is still the same.
-/

namespace SagaMind.ApprovalPauses

open CallProgram KeyedTable Coordinator Workshop

set_option autoImplicit false

variable {Args : Type}

abbrev Bench (Args : Type) : Type := String → List (SandboxCall Args)

/-- The verifier and the sandbox of the laboratory while one saga is executed.
What a recovery asks of a sandbox besides compensations may be answered in any
way. -/
def laboratory (lab : Laboratory Args) (sagaId : String) : Outside Args (Bench Args) where
  respond
    | .verify arguments invariants, bench, reply, after =>
        reply = lab.verify arguments invariants ∧ after = bench
    | .validate action, bench, reply, after =>
        reply = lab.validate (bench sagaId) action ∧ after = bench
    | .execute owner step, bench, reply, after =>
        reply = lab.execute (bench owner) step.action ∧
          after = Function.update bench owner (bench owner ++ [.execute step.action])
    | .executeCompensation owner _ compensation, bench, reply, after =>
        reply = lab.compensate (bench owner) compensation ∧
          after = Function.update bench owner (bench owner ++ [.compensate compensation])
    | _, bench, _, after => after = bench
  observe := fun _ _ bench => bench

abbrev testing [DecidableEq Args] (lab : Laboratory Args) (sagaId : String) :
    Machine (coordinatorFace Args) (System Args (Bench Args)) :=
  machine (laboratory lab sagaId) fun _ => True

variable {sagaId : String} {calls : List (SandboxCall Args)} {records : Records}
  {state : System Args (Bench Args)} {verdict : Verdict Args}

structure Tally (sagaId : String) (calls : List (SandboxCall Args)) (records : Records)
    (state : System Args (Bench Args)) : Prop where
  calls : state.world sagaId = calls
  records : ∀ stepId, (state.store.effect? sagaId stepId).map (·.state) = records stepId

/-- The saga is over, as the verdict says. -/
structure Reached (sagaId : String) (verdict : Verdict Args) (state : System Args (Bench Args)) :
    Prop where
  tally : Tally sagaId verdict.calls verdict.records state
  status : state.store.status? sagaId = some verdict.status
  settled : (ApiCall.resume sagaId).enters state.memory = false

theorem Tally.put (tally : Tally sagaId calls records state) (entry : Effect Args) :
    Tally sagaId calls (records.move entry.stepId entry.state)
      { state with store := state.store.putEffect sagaId entry } where
  calls := tally.calls
  records := by
    intro stepId
    dsimp only
    rw [Store.effect_put_effect]
    by_cases same : entry.stepId = stepId
    · rw [if_pos ⟨rfl, same⟩, ← same, Records.move_self]
      rfl
    · rw [if_neg fun both => same both.2, Records.move_other _ _ (Ne.symm same)]
      exact tally.records stepId

theorem Tally.known (tally : Tally sagaId calls records state) {stepId : String}
    {phase : EffectState} (known : records stepId = some phase) :
    ∃ entry, state.store.effect? sagaId stepId = some entry ∧ entry.state = phase := by
  rw [← tally.records] at known
  exact Option.map_eq_some_iff.mp known

theorem settled_of_status {memory : Memory Args} {saga : SagaTransaction Args}
    (found : memory.active.find? sagaId = some saga) (finished : saga.status ≠ .awaitingApproval) :
    (ApiCall.resume sagaId).enters memory = false := by
  simp [ApiCall.enters, found, finished]

section Rollback

variable [DecidableEq Args] {lab : Laboratory Args} {self : Coordinator} {step : SagaStep Args}
  {rest : List (SagaStep Args)} {failed : PyError → System Args (Bench Args) → Prop}

theorem wp_moves {stepId : String} {expected : List EffectState} {phase newState : EffectState}
    {result : Option Args} {error : Option String}
    {post : Effect Args → System Args (Bench Args) → Prop} (tally : Tally sagaId calls records state)
    (known : records stepId = some phase) (legal : phase ∈ expected)
    (done : ∀ entry : Effect Args, Tally sagaId calls (records.move stepId newState)
        { state with store := state.store.putEffect sagaId entry } →
      post entry { state with store := state.store.putEffect sagaId entry }) :
    wp (testing lab sagaId)
      (onStore (.transitionEffect sagaId stepId expected newState result error)) post failed
      state := by
  apply wp_transition trivial
  · intro entry found _
    have own : entry.stepId = stepId := Table.find_key found
    apply done
    rw [← own]
    exact tally.put { entry with state := newState, result, error }
  · intro refusal illegal
    obtain ⟨entry, found, rfl⟩ := tally.known known
    exact absurd legal (illegal entry found)

theorem wp_fails (journaled : self.store = .journaled) {error : String}
    (tally : Tally sagaId calls records state) (claimed : records step.stepId = some .compensating)
    (active : ∃ saga, state.memory.active.find? sagaId = some saga) :
    wp (testing lab sagaId) (self.handleCompensationFailure sagaId step error)
      (fun _ => Reached sagaId
        ⟨calls, records.move step.stepId .compensationFailed, .compensationFailed⟩)
      (fun _ _ => False) state := by
  obtain ⟨saga, found⟩ := active
  have own : saga.sagaId = sagaId := Table.find_key found
  unfold handleCompensationFailure recordCompensationFailure
  rw [if_pos (has_store_of_journaled journaled), if_pos (journals_of_journaled journaled), wp_bind]
  apply wp_memory trivial
  rw [wp_bind]
  apply wp_write_state trivial
  have settled : (ApiCall.resume sagaId).enters
      ((MemoryCall.setStatusIfActive sagaId .compensationFailed).serve state.memory).2 = false := by
    apply @settled_of_status _ _ _ { saga with status := .compensationFailed }
    · simp [MemoryCall.serve, found, own]
    · exact SagaStatus.noConfusion
  have written : ∀ metadata, Tally sagaId calls records { state with
      store := state.store.writeTransactionState sagaId .compensationFailed metadata
      memory := ((MemoryCall.setStatusIfActive sagaId .compensationFailed).serve
        state.memory).2 } :=
    fun _ => ⟨tally.calls, tally.records⟩
  rw [wp_bind, wp_attempt, wp_bind]
  apply wp_get_effect trivial
  · intro effect known
    have compensating : effect.state = .compensating := by
      have there := tally.records step.stepId
      rw [show state.store.effect? sagaId step.stepId = some effect from known, claimed] at there
      exact Option.some.inj there
    rw [wp_ite, if_pos compensating, wp_bind]
    apply wp_moves (written _) claimed (List.mem_singleton_self _)
    intro entry tally
    rw [wp_pure]
    apply wp_push_dead_letter trivial
    constructor
    · exact ⟨tally.calls, tally.records⟩
    · rw [Store.status_push_dead_letter, Store.status?, Store.state_put_effect, ← Store.status?,
        Store.status_write_state, if_pos rfl]
    · exact settled
  · intro refusal missing
    obtain ⟨entry, found, _⟩ := tally.known claimed
    rw [show state.store.effect? sagaId step.stepId = none from missing] at found
    cases found

structure Unwinding (sagaId : String) (deeds : List (Deed Args)) (calls : List (SandboxCall Args))
    (records : Records) (state : System Args (Bench Args)) : Prop where
  tally : Tally sagaId calls records state
  committed : ∀ deed ∈ deeds, records deed.stepId = some .committed
  distinct : (deeds.map Deed.stepId).Nodup
  active : ∃ saga, state.memory.active.find? sagaId = some saga

def Rolling (lab : Laboratory Args) (sagaId : String) (verdict : Verdict Args)
    (remaining : List (SagaStep Args)) (state : System Args (Bench Args)) : Prop :=
  ∃ calls records, Unwinding sagaId (remaining.map deed) calls records state ∧
    lab.unwind (remaining.map deed) calls records = verdict

def Falling (lab : Laboratory Args) (sagaId : String) (verdict : Verdict Args)
    (state : System Args (Bench Args)) : Prop :=
  ∃ done calls records, Remembers state.memory sagaId done ∧
    Unwinding sagaId done calls records state ∧ lab.unwind done calls records = verdict

theorem undoes_step (journaled : self.store = .journaled)
    (rolling : Rolling lab sagaId verdict (step :: rest) state) :
    wp (testing lab sagaId) (self.undoStep sagaId step)
      (fun goOn after => if goOn then Rolling lab sagaId verdict rest after
        else Reached sagaId verdict after) (fun _ _ => False) state := by
  obtain ⟨calls, records, unwinding, unwound⟩ := rolling
  have distinct := unwinding.distinct
  rw [List.map_cons, List.map_cons, List.nodup_cons] at distinct
  have committed : records step.stepId = some .committed :=
    unwinding.committed (deed step) (List.mem_cons_self ..)
  have stops : ∀ {between : System Args (Bench Args)} {error : String},
      Tally sagaId (calls ++ [.compensate step.compensation])
        (records.move step.stepId .compensating) between →
      between.memory = state.memory → lab.compensate calls step.compensation ≠ .ok true →
      wp (testing lab sagaId) (do
        self.handleCompensationFailure sagaId step error
        pure false)
        (fun goOn after => if goOn then Rolling lab sagaId verdict rest after
          else Reached sagaId verdict after) (fun _ _ => False) between := by
    intro between error tally memory fails
    have active : ∃ saga, between.memory.active.find? sagaId = some saga := by
      rw [memory]
      exact unwinding.active
    apply wp_seq (wp_fails journaled tally (Records.move_self ..) active)
    intro _ after reached
    rw [Records.move_move] at reached
    have same : verdict = ⟨calls ++ [.compensate step.compensation],
        records.move step.stepId .compensationFailed, .compensationFailed⟩ := by
      rw [← unwound, List.map_cons, Laboratory.unwind]
      split
      · rename_i succeeds
        exact absurd succeeds fails
      · rfl
    rw [same]
    exact reached
  unfold undoStep compensateStep markCompensating markCompensated
  rw [if_pos (journals_of_journaled journaled), if_pos (journals_of_journaled journaled),
    wp_attempt, wp_bind, wp_bind]
  apply wp_get_effect trivial
  · intro effect known
    have there : effect.state = .committed := by
      have there := unwinding.tally.records step.stepId
      rw [known, committed] at there
      exact Option.some.inj there
    rw [wp_ite, if_pos (.inr there), wp_bind]
    apply wp_moves unwinding.tally committed (by simp)
    intro entry tally
    rw [wp_pure, wp_bind]
    have asked : Tally sagaId (calls ++ [.compensate step.compensation])
        (records.move step.stepId .compensating) { state with
          store := state.store.putEffect sagaId entry
          world := Function.update state.world sagaId
            (state.world sagaId ++ [.compensate step.compensation]) } := by
      constructor
      · dsimp only
        rw [Function.update_self, unwinding.tally.calls]
      · exact tally.records
    apply wp_outside trivial
    · intro succeeded bench answered
      obtain ⟨answer, rfl⟩ := answered
      replace answer : .ok succeeded = lab.compensate (state.world sagaId) step.compensation := answer
      rw [unwinding.tally.calls] at answer
      rw [wp_ite]
      split
      · rename_i yes
        rw [wp_bind, wp_bind]
        apply wp_moves asked (Records.move_self ..) (List.mem_singleton_self _)
        intro last tally
        rw [Records.move_move] at tally
        refine ⟨_, _, ⟨tally, ?_, distinct.2, unwinding.active⟩, ?_⟩
        · intro other member
          rw [Records.move_other]
          · exact unwinding.committed other (List.mem_cons_of_mem _ member)
          · intro same
            apply distinct.1
            rw [show (deed step).stepId = other.stepId from same.symm]
            exact List.mem_map_of_mem member
        · rw [← unwound, List.map_cons, Laboratory.unwind]
          rw [show lab.compensate calls (deed step).compensation = .ok true by
            rw [← yes]
            exact answer.symm]
          rfl
      · rename_i no
        apply wp_unfailing (stops asked rfl _)
        · exact fun _ _ reached => reached
        · rw [← answer]
          simpa using no
    · intro error bench answered
      obtain ⟨answer, rfl⟩ := answered
      replace answer : .error error = lab.compensate (state.world sagaId) step.compensation := answer
      rw [unwinding.tally.calls] at answer
      apply stops asked rfl
      rw [← answer]
      simp
  · intro refusal missing
    obtain ⟨entry, found, _⟩ := unwinding.tally.known committed
    rw [missing] at found
    cases found

theorem closes_rollback (journaled : self.store = .journaled)
    (rolling : Rolling lab sagaId verdict [] state) :
    wp (testing lab sagaId) (self.closeRollback sagaId) (fun _ => Reached sagaId verdict)
      (fun _ _ => False) state := by
  obtain ⟨calls, records, unwinding, rfl⟩ := rolling
  obtain ⟨saga, found⟩ := unwinding.active
  have own : saga.sagaId = sagaId := Table.find_key found
  unfold closeRollback
  rw [wp_bind]
  apply wp_memory trivial
  rw [write_status_journaled journaled]
  apply wp_write_state trivial
  constructor
  · exact ⟨unwinding.tally.calls, unwinding.tally.records⟩
  · rw [Store.status_write_state, if_pos rfl]
    rfl
  · apply @settled_of_status _ _ _ { saga with status := .rolledBack }
    · simp [MemoryCall.serve, found, own]
    · exact SagaStatus.noConfusion

def retreat (lab : Laboratory Args) (journaled : self.store = .journaled) (sagaId : String)
    (verdict : Verdict Args) : Retreat (testing lab sagaId) self sagaId where
  falling := Falling lab sagaId verdict
  rolling := Rolling lab sagaId verdict
  undone := Reached sagaId verdict
  enters := by
    intro state ⟨done, calls, records, ⟨saga, found, steps⟩, unwinding, unwound⟩
    rw [write_status_journaled journaled, wp_bind]
    apply wp_write_state trivial
    apply wp_memory trivial
    have read : ((MemoryCall.completedSteps sagaId).serve state.memory).1 = saga.completedSteps := by
      simp [MemoryCall.serve, Memory.held?, found]
    dsimp only [System.stored]
    rw [read]
    refine ⟨calls, records, ?_, ?_⟩
    · rw [steps]
      exact ⟨⟨unwinding.tally.calls, unwinding.tally.records⟩, unwinding.committed,
        unwinding.distinct, unwinding.active⟩
    · rw [steps]
      exact unwound
  undoes := undoes_step journaled
  closes := closes_rollback journaled

end Rollback

section Journal

variable {store : Store Args} {done : List (Deed Args)} {stepId : String}

def recorded (effect : Effect Args) : Deed Args :=
  ⟨effect.stepId, effect.action, effect.compensation⟩

def journal (store : Store Args) (sagaId : String) : List (Deed Args × EffectState) :=
  (store.effects sagaId).rows.map fun effect => (recorded effect, effect.state)

def committedEntries (done : List (Deed Args)) : List (Deed Args × EffectState) :=
  done.reverse.map fun deed => (deed, .committed)

theorem journal_find (store : Store Args) (sagaId stepId : String) :
    (store.effect? sagaId stepId).map (fun effect => (recorded effect, effect.state)) =
      (journal store sagaId).find? fun entry => entry.1.stepId = stepId := by
  unfold journal
  rw [List.find?_map]
  rfl

theorem journal_state {entries : List (Deed Args × EffectState)}
    (shape : journal store sagaId = entries) (stepId : String) :
    (store.effect? sagaId stepId).map (·.state) =
      (entries.find? fun entry => entry.1.stepId = stepId).map (·.2) := by
  rw [← shape, ← journal_find, Option.map_map]
  rfl

theorem journal_distinct {entries : List (Deed Args × EffectState)}
    (shape : journal store sagaId = entries) : (entries.map (·.1.stepId)).Nodup := by
  rw [← shape, journal, List.map_map]
  exact (store.effects sagaId).distinct

theorem find_committed (done : List (Deed Args)) (stepId : String) :
    ((committedEntries done).find? fun entry => entry.1.stepId = stepId).map (·.2) =
      if stepId ∈ done.map Deed.stepId then some .committed else none := by
  split
  · rename_i member
    obtain ⟨deed, listed, same⟩ := List.mem_map.mp member
    have entry : (deed, EffectState.committed) ∈ committedEntries done :=
      List.mem_map.mpr ⟨deed, List.mem_reverse.mpr listed, rfl⟩
    cases found : (committedEntries done).find? fun entry => entry.1.stepId = stepId with
    | none =>
        have apart := List.find?_eq_none.mp found _ entry
        simp [same] at apart
    | some other =>
        obtain ⟨_, _, rfl⟩ := List.mem_map.mp (List.mem_of_find?_eq_some found)
        rfl
  · rename_i absent
    cases found : (committedEntries done).find? fun entry => entry.1.stepId = stepId with
    | none => rfl
    | some other =>
        obtain ⟨deed, listed, rfl⟩ := List.mem_map.mp (List.mem_of_find?_eq_some found)
        have same : deed.stepId = stepId := by simpa using List.find?_some found
        exact absurd (List.mem_map.mpr ⟨deed, List.mem_reverse.mp listed, same⟩) absent

theorem committed_absent (absent : stepId ∉ done.map Deed.stepId) :
    ((committedEntries done).find? fun entry => entry.1.stepId = stepId) = none := by
  have none_found := find_committed done stepId
  rw [if_neg absent] at none_found
  exact Option.map_eq_none_iff.mp none_found

theorem committed_entries_ids (done : List (Deed Args)) :
    (committedEntries done).map (·.1.stepId) = (done.map Deed.stepId).reverse := by
  unfold committedEntries
  rw [List.map_map, ← List.map_reverse]
  rfl

theorem journal_put_new {entry : Effect Args} (absent : store.effect? sagaId entry.stepId = none) :
    journal (store.putEffect sagaId entry) sagaId =
      journal store sagaId ++ [(recorded entry, entry.state)] := by
  unfold journal Store.putEffect
  dsimp only
  rw [Function.update_self, Table.rows_put_absent absent, List.map_append]
  rfl

theorem journal_put_last {entries : List (Deed Args × EffectState)} {entry : Effect Args}
    {phase : EffectState} (shape : journal store sagaId = entries ++ [(recorded entry, phase)]) :
    journal (store.putEffect sagaId entry) sagaId = entries ++ [(recorded entry, entry.state)] := by
  obtain ⟨before, last, rows, rfl, ends⟩ := List.map_eq_append_iff.mp shape
  obtain ⟨old, rfl, same⟩ := List.map_eq_singleton_iff.mp ends
  have own : old.stepId = entry.stepId := congrArg (·.1.stepId) same
  unfold journal Store.putEffect
  dsimp only
  rw [Function.update_self, Table.rows_put_at rows own, List.map_append]
  rfl

theorem idem_publish (store : Store Args) (sagaId : String) (key : Option String) :
    (store.publish sagaId key).idem sagaId =
      if truthy key then insert (key.getD "") (store.idem sagaId) else store.idem sagaId := by
  unfold Store.publish
  split
  · exact Function.update_self ..
  · rfl

end Journal

section Forward

variable {progress : Progress Args} {step : SagaStep Args} {phase : EffectState}

structure Abreast (sagaId : String) (progress : Progress Args) (state : System Args (Bench Args)) :
    Prop where
  calls : state.world sagaId = progress.calls
  keys : state.store.idem sagaId = progress.keys
  journal : journal state.store sagaId = committedEntries progress.done
  remembers : Remembers state.memory sagaId progress.done

structure Midway (sagaId : String) (progress : Progress Args) (calls : List (SandboxCall Args))
    (step : SagaStep Args) (phase : EffectState) (state : System Args (Bench Args)) : Prop where
  calls : state.world sagaId = calls
  keys : state.store.idem sagaId = progress.keys
  journal : journal state.store sagaId = committedEntries progress.done ++ [(deed step, phase)]
  remembers : Remembers state.memory sagaId progress.done

theorem Progress.records_done (progress : Progress Args) {deed : Deed Args}
    (member : deed ∈ progress.done) : progress.records deed.stepId = some .committed :=
  if_pos (List.mem_map_of_mem member)

theorem Abreast.unwinding (abreast : Abreast sagaId progress state) :
    Unwinding sagaId progress.done progress.calls progress.records state where
  tally := ⟨abreast.calls, fun stepId => by
    rw [journal_state abreast.journal, find_committed]
    rfl⟩
  committed := fun _ member => progress.records_done member
  distinct := by
    have distinct := journal_distinct abreast.journal
    rw [committed_entries_ids, List.nodup_reverse] at distinct
    exact distinct
  active := by
    obtain ⟨saga, found, _⟩ := abreast.remembers
    exact ⟨saga, found⟩

theorem Midway.fresh (midway : Midway sagaId progress calls step phase state) :
    step.stepId ∉ progress.done.map Deed.stepId := by
  have distinct := journal_distinct midway.journal
  rw [List.map_append, List.nodup_append, committed_entries_ids] at distinct
  intro member
  exact distinct.2.2 _ (List.mem_reverse.mpr member) _ (List.mem_singleton_self _) rfl

theorem Midway.unwinding (midway : Midway sagaId progress calls step phase state) :
    Unwinding sagaId progress.done calls (progress.records.move step.stepId phase) state where
  tally := ⟨midway.calls, fun stepId => by
    rw [journal_state midway.journal, List.find?_append]
    by_cases own : stepId = step.stepId
    · subst own
      rw [committed_absent midway.fresh, Records.move_self]
      simp [deed]
    · have other : ([(deed step, phase)].find? fun entry => entry.1.stepId = stepId) = none := by
        simp [deed, Ne.symm own]
      rw [other, Option.or_none, find_committed, Records.move_other _ _ own]
      rfl⟩
  committed := by
    intro other member
    rw [Records.move_other]
    · exact progress.records_done member
    · intro same
      exact midway.fresh (List.mem_map.mpr ⟨other, member, same⟩)
  distinct := by
    have distinct := journal_distinct midway.journal
    rw [List.map_append, List.nodup_append, committed_entries_ids, List.nodup_reverse] at distinct
    exact distinct.1
  active := by
    obtain ⟨saga, found, _⟩ := midway.remembers
    exact ⟨saga, found⟩

theorem Midway.found (midway : Midway sagaId progress calls step phase state) {entry : Effect Args}
    (found : state.store.effect? sagaId step.stepId = some entry) :
    recorded entry = deed step ∧ entry.state = phase := by
  have place := journal_find state.store sagaId step.stepId
  rw [found, midway.journal, List.find?_append, committed_absent midway.fresh] at place
  have same : (recorded entry, entry.state) = (deed step, phase) := by simpa [deed] using place
  exact Prod.mk.inj same

variable [DecidableEq Args] {lab : Laboratory Args} {self : Coordinator}

theorem wp_advances {expected : List EffectState} {newState : EffectState} {result : Option Args}
    {error : Option String} {post : Effect Args → System Args (Bench Args) → Prop}
    {failed : PyError → System Args (Bench Args) → Prop}
    (midway : Midway sagaId progress calls step phase state) (legal : phase ∈ expected)
    (done : ∀ entry store, Midway sagaId progress calls step newState { state with store } →
      post entry { state with store }) :
    wp (testing lab sagaId)
      (onStore (.transitionEffect sagaId step.stepId expected newState result error)) post failed
      state := by
  apply wp_transition trivial
  · intro entry found _
    obtain ⟨same, _⟩ := midway.found found
    apply done
    have shape : journal state.store sagaId = committedEntries progress.done ++
        [(recorded { entry with state := newState, result, error }, phase)] := by
      rw [midway.journal, ← same]
      rfl
    constructor
    · exact midway.calls
    · exact midway.keys
    · rw [← same]
      exact journal_put_last shape
    · exact midway.remembers
  · intro refusal illegal
    obtain ⟨entry, found, here⟩ := midway.unwinding.tally.known (Records.move_self ..)
    exact absurd (here ▸ legal) (illegal entry found)

def Fallen (lab : Laboratory Args) (sagaId stepId : String) (fault : StepFault)
    (verdict : Verdict Args) (state : System Args (Bench Args)) : Prop :=
  ∃ rolledBack, Falling lab sagaId rolledBack state ∧
    if fault.executionAmbiguous ∧ fault.journaled then
      rolledBack.records stepId = some .executing ∧ verdict = rolledBack.quarantine stepId
    else verdict = rolledBack

omit [DecidableEq Args] in
theorem Midway.falling (lab : Laboratory Args)
    (midway : Midway sagaId progress calls step phase state) :
    Falling lab sagaId
      (lab.unwind progress.done calls (progress.records.move step.stepId phase)) state :=
  ⟨_, _, _, midway.remembers, midway.unwinding, rfl⟩

omit [DecidableEq Args] in
theorem Abreast.falling (lab : Laboratory Args) (abreast : Abreast sagaId progress state) :
    Falling lab sagaId (lab.unwind progress.done progress.calls progress.records) state :=
  ⟨_, _, _, abreast.remembers, abreast.unwinding, rfl⟩

variable [Inhabited Args]

theorem commits_step (journaled : self.store = .journaled) {result : ExecuteResult Args}
    (midway : Midway sagaId progress (progress.calls ++ [.execute step.action]) step .executing
      state) :
    wp (testing lab sagaId) (self.commitStep sagaId step result)
      (fun committed after => committed.status = .committed ∧
        Abreast sagaId (progress.commit step) after) (fun _ _ => False) state := by
  have journals := journals_of_journaled journaled
  unfold commitStep markApplied publishStep
  rw [if_pos journals, wp_bind, wp_bind, wp_flagged]
  apply wp_advances midway (List.mem_singleton_self _)
  intro _ store applied
  rw [wp_pure, wp_bind, wp_flagged]
  apply wp_memory trivial
  rw [if_pos journals, wp_bind, wp_bind, wp_flagged]
  apply wp_commit trivial
  · intro entry found there
    obtain ⟨same, _⟩ := applied.found found
    rw [wp_pure, wp_bind, wp_flagged, record_history_journaled journaled]
    apply wp_record_step trivial
    refine ⟨rfl, ?_⟩
    have shape : journal store sagaId = committedEntries progress.done ++
        [(recorded { entry with state := .committed }, .applied)] := by
      rw [applied.journal, ← same]
      rfl
    constructor
    · exact applied.calls
    · have keys : store.idem sagaId = progress.keys := applied.keys
      change ((store.putEffect sagaId _).publish sagaId step.idempotencyKey).idem sagaId = _
      rw [idem_publish]
      change (if truthy step.idempotencyKey then
        insert (step.idempotencyKey.getD "") (store.idem sagaId) else store.idem sagaId) = _
      rw [keys]
      rfl
    · change journal ((store.putEffect sagaId _).publish sagaId step.idempotencyKey) sagaId = _
      unfold journal
      rw [Store.effects_publish]
      have written := journal_put_last shape
      unfold journal at written
      rw [written, show recorded { entry with state := .committed } = deed step from same]
      simp [committedEntries, Progress.commit]
    · exact remembers_append applied.remembers _
  · intro refusal illegal
    obtain ⟨entry, found, there⟩ := applied.unwinding.tally.known (Records.move_self ..)
    exact absurd there (illegal entry found)

omit [Inhabited Args] in
theorem marks_midway (journaled : self.store = .journaled) (abreast : Abreast sagaId progress state)
    (fresh : step.stepId ∉ progress.done.map Deed.stepId) :
    wp (testing lab sagaId) (self.markExecuting sagaId step)
      (fun _ => Midway sagaId progress progress.calls step .executing) (fun _ _ => False)
      state := by
  have unknown : state.store.effect? sagaId step.stepId = none := by
    have absent := abreast.unwinding.tally.records step.stepId
    rw [Progress.records, if_neg fresh] at absent
    exact Option.map_eq_none_iff.mp absent
  unfold markExecuting
  rw [if_pos (journals_of_journaled journaled), wp_bind, wp_flagged]
  apply wp_prepare_new trivial unknown
  intro entry shape
  have prepared : Midway sagaId progress progress.calls step .prepared
      { state with store := state.store.putEffect sagaId entry } := by
    constructor
    · exact abreast.calls
    · exact abreast.keys
    · have written := @journal_put_new _ sagaId state.store entry (by rw [shape]; exact unknown)
      rw [written, abreast.journal, shape]
      rfl
    · exact abreast.remembers
  rw [wp_bind, wp_flagged]
  apply wp_advances prepared (List.mem_singleton_self _)
  exact fun _ store executing => executing

/-- One step: it joins the others, or a rollback leads to the verdict. -/
theorem executes_step (journaled : self.store = .journaled) (abreast : Abreast sagaId progress state)
    (fresh : step.stepId ∉ progress.done.map Deed.stepId) (further : Verdict Args) :
    wp (testing lab sagaId) (self.executeStep sagaId step)
      (fun committed after => committed.status = .committed ∧
        Abreast sagaId (progress.commit step) after ∧ lab.carryOut step progress further = further)
      (fun fault after => Fallen lab sagaId step.stepId fault (lab.carryOut step progress further)
        after) state := by
  have journals := journals_of_journaled journaled
  apply execute_step_rule (Midway sagaId progress progress.calls step .executing)
  case marks =>
    apply wp_unfailing (marks_midway journaled abreast fresh)
    exact fun _ _ executing => executing
  case runs =>
    intro between executing
    have asked : Midway sagaId progress (progress.calls ++ [.execute step.action]) step .executing
        { between with
          world := Function.update between.world sagaId
            (between.world sagaId ++ [.execute step.action]) } := by
      constructor
      · dsimp only
        rw [Function.update_self, executing.calls]
      · exact executing.keys
      · exact executing.journal
      · exact executing.remembers
    apply wp_outside trivial
    · intro result bench answered
      obtain ⟨answer, rfl⟩ := answered
      replace answer : .ok result = lab.execute (between.world sagaId) step.action := answer
      rw [executing.calls] at answer
      unfold Laboratory.carryOut
      rw [← answer]
      dsimp only
      split
      · apply wp_unfailing (commits_step journaled asked)
        exact fun _ _ committed => ⟨committed.1, committed.2, rfl⟩
      · unfold abortStep
        rw [if_pos journals, wp_bind, wp_flagged]
        apply wp_advances asked (List.mem_singleton_self _)
        intro _ last aborted
        exact ⟨_, aborted.falling lab, rfl⟩
    · intro error bench answered
      obtain ⟨answer, rfl⟩ := answered
      replace answer : .error error = lab.execute (between.world sagaId) step.action := answer
      rw [executing.calls] at answer
      unfold Laboratory.carryOut
      rw [← answer]
      refine ⟨_, asked.falling lab, ?_⟩
      dsimp only
      rw [journals, if_pos ⟨rfl, rfl⟩]
      refine ⟨?_, rfl⟩
      rw [lab.unwind_elsewhere _ _ _ fresh, Records.move_self]

end Forward

section Batches

variable {validates : Bool} {progress : Progress Args} {step : SagaStep Args}
  {pending steps : List (SagaStep Args)}

def gated (step : SagaStep Args) : Bool := step.requiresApproval && !step.approved

structure Upcoming (progress : Progress Args) (steps : List (SagaStep Args)) : Prop where
  distinct : (steps.map (·.stepId)).Nodup
  fresh : ∀ step ∈ steps, step.stepId ∉ progress.done.map Deed.stepId

structure Paused (lab : Laboratory Args) (validates : Bool) (sagaId : String)
    (verdict : Verdict Args) (pending : List (SagaStep Args)) (state : System Args (Bench Args)) :
    Prop where
  verdict : ∃ progress, Abreast sagaId progress state ∧ Upcoming progress pending ∧
    lab.conclude validates pending progress = verdict
  first : ∃ step rest, pending = step :: rest ∧ gated step = true
  held : ∃ saga, state.memory.active.find? sagaId = some saga ∧
    saga.status = .awaitingApproval ∧ saga.pendingSteps = pending
  stored : ∃ row, state.store.state.find? sagaId = some row ∧ row.status = .awaitingApproval ∧
    row.metadata.pendingSteps = some (pending.map serializeStep)

def Ended (lab : Laboratory Args) (validates : Bool) (sagaId : String) (verdict : Verdict Args)
    (gates : Nat) (state : System Args (Bench Args)) : Prop :=
  Reached sagaId verdict state ∨
    ∃ pending, Paused lab validates sagaId verdict pending state ∧ pending.countP gated ≤ gates

theorem Upcoming.next (upcoming : Upcoming progress (step :: steps)) : Upcoming progress steps where
  distinct := (List.nodup_cons.mp upcoming.distinct).2
  fresh := fun other member => upcoming.fresh other (List.mem_cons_of_mem _ member)

theorem Upcoming.commit (upcoming : Upcoming progress (step :: steps)) :
    Upcoming (progress.commit step) steps where
  distinct := upcoming.next.distinct
  fresh := by
    intro other member
    rw [Progress.commit, List.map_cons, List.mem_cons, not_or]
    constructor
    · intro same
      apply (List.nodup_cons.mp upcoming.distinct).1
      exact List.mem_map.mpr ⟨other, member, same⟩
    · exact upcoming.next.fresh other member

theorem Ended.mono {lab : Laboratory Args} {fewer more : Nat} (le : fewer ≤ more)
    (ended : Ended lab validates sagaId verdict fewer state) :
    Ended lab validates sagaId verdict more state := by
  rcases ended with reached | ⟨pending, paused, count⟩
  · exact .inl reached
  · exact .inr ⟨pending, paused, count.trans le⟩

variable [DecidableEq Args] {lab : Laboratory Args} {self : Coordinator}

theorem wp_pauses (journaled : self.store = .journaled) (abreast : Abreast sagaId progress state)
    (upcoming : Upcoming progress (step :: steps)) (gate : gated step = true) :
    wp (testing lab sagaId) (self.pauseWith sagaId (step :: steps))
      (fun _ => Paused lab validates sagaId (lab.conclude validates (step :: steps) progress)
        (step :: steps)) (fun _ _ => False) state := by
  obtain ⟨saga, found, done⟩ := abreast.remembers
  have marked : ((MemoryCall.setStatus sagaId .awaitingApproval).serve state.memory).2.active.find?
      sagaId = some { saga with status := .awaitingApproval } := Memory.find_amend found rfl
  have filled : ((MemoryCall.setPending sagaId (step :: steps)).serve
      ((MemoryCall.setStatus sagaId .awaitingApproval).serve state.memory).2).2.active.find?
      sagaId = some { saga with status := .awaitingApproval, pendingSteps := step :: steps } :=
    Memory.find_amend marked rfl
  unfold pauseWith
  rw [wp_bind]
  apply wp_memory trivial
  rw [wp_bind]
  apply wp_memory trivial
  rw [write_status_journaled journaled]
  apply wp_write_state trivial
  constructor
  · refine ⟨progress, ⟨abreast.calls, abreast.keys, abreast.journal, ?_⟩, upcoming, rfl⟩
    exact ⟨_, filled, done⟩
  · exact ⟨step, steps, rfl, gate⟩
  · exact ⟨_, filled, rfl, rfl⟩
  · dsimp only [System.stored]
    rw [Store.find_write_state, if_pos rfl]
    exact ⟨_, rfl, rfl, rfl⟩

theorem wp_quarantines (reached : Reached sagaId verdict state)
    (executing : verdict.records step.stepId = some .executing) :
    wp (testing lab sagaId) (quarantineStep sagaId step)
      (fun _ => Reached sagaId (verdict.quarantine step.stepId)) (fun _ _ => False) state := by
  unfold quarantineStep deadLetterRecovery
  rw [wp_bind, wp_attempt, wp_bind]
  apply wp_moves reached.tally executing (List.mem_singleton_self _)
  intro entry tally
  rw [wp_pure, wp_bind]
  apply wp_write_state trivial
  apply wp_push_dead_letter trivial
  constructor
  · exact ⟨tally.calls, tally.records⟩
  · rw [Store.status_push_dead_letter, Store.status_write_state, if_pos rfl]
    rfl
  · exact reached.settled

theorem fails_step (journaled : self.store = .journaled) {fault : StepFault}
    (fallen : Fallen lab sagaId step.stepId fault verdict state) :
    wp (testing lab sagaId) (self.failStep sagaId step fault) (fun _ => Reached sagaId verdict)
      (fun _ _ => False) state := by
  obtain ⟨rolledBack, falling, outcome⟩ := fallen
  apply fail_step_rule (Reached sagaId rolledBack)
  case compensates =>
    apply wp_unfailing ((retreat lab journaled sagaId rolledBack).execute_compensations falling)
    exact fun _ _ reached => reached
  case quarantines =>
    intro between reached ambiguous inJournal
    rw [if_pos ⟨ambiguous, inJournal⟩] at outcome
    rw [outcome.2]
    exact wp_quarantines reached outcome.1
  case rests =>
    intro between reached certain
    rw [if_neg certain] at outcome
    rw [outcome]
    exact reached

theorem wp_asks_key (journaled : self.store = .journaled) (abreast : Abreast sagaId progress state)
    {post : Bool → System Args (Bench Args) → Prop}
    {failed : PyError → System Args (Bench Args) → Prop} (done : post (progress.skips step) state) :
    wp (testing lab sagaId) (self.alreadyCommitted sagaId step) post failed state := by
  unfold Progress.skips at done
  rw [← abreast.keys] at done
  unfold alreadyCommitted
  rw [wp_ite]
  split
  · rename_i keyed
    refine (wp_on_store _ _ _ _).mpr ⟨trivial, ?_⟩
    simp only [keyed.1, true_and] at done
    exact done
  · rename_i keyless
    have blank : truthy step.idempotencyKey = false := by
      simpa [has_store_of_journaled journaled] using keyless
    simp only [blank, Bool.false_eq_true, false_and, decide_false] at done
    exact done

theorem wp_closes (journaled : self.store = .journaled) (abreast : Abreast sagaId progress state) :
    wp (testing lab sagaId) (self.closeBatch sagaId)
      (fun _ => Reached sagaId ⟨progress.calls, progress.records, .committed⟩) (fun _ _ => False)
      state := by
  obtain ⟨saga, found, _⟩ := abreast.remembers
  have marked : ((MemoryCall.setStatus sagaId .committed).serve state.memory).2.active.find?
      sagaId = some { saga with status := .committed } := Memory.find_amend found rfl
  have tally := abreast.unwinding.tally
  unfold closeBatch
  rw [wp_bind]
  apply wp_memory trivial
  rw [wp_bind, write_status_journaled journaled]
  apply wp_write_state trivial
  apply wp_memory trivial
  constructor
  · exact ⟨tally.calls, tally.records⟩
  · exact (Store.status_write_state ..).trans (if_pos rfl)
  · have either := @Memory.evict_drops _ sagaId self.maxActiveSagas
      ((MemoryCall.setStatus sagaId .committed).serve state.memory).2.active.rows
      ((MemoryCall.setStatus sagaId .committed).serve state.memory).2
    rcases either with dropped | same
    · unfold ApiCall.enters
      dsimp only [MemoryCall.serve] at dropped ⊢
      rw [dropped]
      rfl
    · exact settled_of_status (same.trans marked) SagaStatus.noConfusion

variable [Inhabited Args]

/-- One step: it joins the others, or the saga waits or is over, or a rollback
leads to the verdict. -/
theorem attempts_step (journaled : self.store = .journaled) {before : List (SagaStep Args)}
    (behind : ∀ other ∈ before, other.status = .committed)
    (abreast : Abreast sagaId progress state) (upcoming : Upcoming progress (step :: steps))
    (due : progress.skips step = false) :
    wp (testing lab sagaId) (self.attemptStep sagaId before step steps)
      (fun outcome last => match outcome with
        | some committed => committed.status = .committed ∧
            Abreast sagaId (progress.commit step) last ∧
            lab.conclude self.validates (step :: steps) progress =
              lab.conclude self.validates steps (progress.commit step)
        | none => Ended lab self.validates sagaId
            (lab.conclude self.validates (step :: steps) progress) ((step :: steps).countP gated) last)
      (fun fault => Fallen lab sagaId step.stepId fault
        (lab.conclude self.validates (step :: steps) progress)) state := by
  have fresh := upcoming.fresh step (List.mem_cons_self ..)
  have concluded : lab.conclude self.validates (step :: steps) progress =
      if lab.admits self.validates progress.calls step then
        lab.carryOut step progress (lab.conclude self.validates steps (progress.commit step))
      else lab.unwind progress.done progress.calls progress.records := by
    rw [Laboratory.conclude, if_neg (by simp [due])]
  have refused : lab.admits self.validates progress.calls step = false → Falling lab sagaId
      (lab.conclude self.validates (step :: steps) progress) state := by
    intro rejected
    rw [concluded, if_neg (by simp [rejected])]
    exact abreast.falling lab
  have raises : ∀ {error : PyError}, lab.admits self.validates progress.calls step = false →
      Fallen lab sagaId step.stepId { error, journaled := false, executionAmbiguous := false }
        (lab.conclude self.validates (step :: steps) progress) state :=
    fun rejected => ⟨_, refused rejected, rfl⟩
  let accepted (between : System Args (Bench Args)) : Prop :=
    between = state ∧ ∃ reason, lab.verify step.action.arguments step.invariants = .ok (true, reason)
  let admitted (between : System Args (Bench Args)) : Prop :=
    between = state ∧ lab.admits self.validates progress.calls step = true
  apply attempt_step_rule accepted
    (Falling lab sagaId (lab.conclude self.validates (step :: steps) progress)) admitted
  case verifies =>
    apply wp_outside trivial
    · intro answer bench answered
      obtain ⟨verified, rfl⟩ := answered
      replace verified : .ok answer = lab.verify step.action.arguments step.invariants := verified
      split
      · rename_i yes
        refine ⟨rfl, answer.2, ?_⟩
        rw [← yes, ← verified]
      · rename_i no
        apply refused
        rw [Laboratory.admits, ← verified]
        simp [no]
    · intro error bench answered
      obtain ⟨verified, rfl⟩ := answered
      replace verified : .error error = lab.verify step.action.arguments step.invariants := verified
      apply raises
      rw [Laboratory.admits, ← verified]
  case checks =>
    intro between ⟨same, reason, verified⟩
    have admits : lab.admits self.validates progress.calls step =
        (!self.validates || (lab.validate progress.calls step.action).isOk) := by
      rw [Laboratory.admits, verified]
      exact Bool.true_and _
    rw [same]
    unfold preflight
    rw [wp_ite]
    split
    · rename_i validates
      apply wp_outside trivial
      · intro _ bench answered
        obtain ⟨validated, rfl⟩ := answered
        rw [abreast.calls] at validated
        refine ⟨rfl, ?_⟩
        rw [admits, ← validated]
        exact Bool.or_true _
      · intro error bench answered
        obtain ⟨validated, rfl⟩ := answered
        rw [abreast.calls] at validated
        apply raises
        rw [admits, validates, ← validated]
        rfl
    · rename_i unchecked
      refine ⟨rfl, ?_⟩
      rw [admits]
      simp [unchecked]
  case waits =>
    intro between ⟨same, admitted⟩ requires open'
    rw [same]
    have marked : gated { step with status := .awaitingApproval } = true := by
      simp [gated, requires, open']
    have waiting : Upcoming progress ({ step with status := .awaitingApproval } :: steps) :=
      ⟨upcoming.distinct, fun other member => by
        rcases List.mem_cons.mp member with rfl | later
        · exact fresh
        · exact upcoming.fresh other (List.mem_cons_of_mem _ later)⟩
    have verdict : lab.conclude self.validates
        ({ step with status := .awaitingApproval } :: steps) progress =
          lab.conclude self.validates (step :: steps) progress := rfl
    rw [self.await_approval_pauses sagaId behind rfl]
    apply wp_unfailing (wp_pauses journaled abreast waiting marked)
    intro _ last paused
    rw [verdict] at paused
    exact .inr ⟨_, paused, le_refl _⟩
  case executes =>
    intro between ⟨same, admitted⟩ _
    rw [if_pos admitted] at concluded
    rw [same, concluded]
    apply wp_mono (executes_step journaled abreast fresh _)
    · exact fun committed last reached => reached
    · exact fun fault last fallen => fallen
  case retreats =>
    intro between falling
    apply wp_unfailing ((retreat lab journaled sagaId _).execute_compensations falling)
    exact fun _ last reached => .inl reached

theorem concludes (journaled : self.store = .journaled) (before : List (SagaStep Args))
    (behind : ∀ other ∈ before, other.status = .committed)
    (upcoming : Upcoming progress steps) (abreast : Abreast sagaId progress state) :
    wp (testing lab sagaId) (self.executeSteps sagaId before steps)
      (fun _ => Ended lab self.validates sagaId (lab.conclude self.validates steps progress)
        (steps.countP gated)) (fun _ _ => False) state := by
  have further : ∀ {before : List (SagaStep Args)} {committed : SagaStep Args},
      (∀ other ∈ before, other.status = .committed) → committed.status = .committed →
      ∀ other ∈ before ++ [committed], other.status = .committed := by
    intro before committed behind done other member
    rcases List.mem_append.mp member with earlier | last
    · exact behind other earlier
    · rw [List.mem_singleton.mp last]
      exact done
  have fewer : ∀ (step : SagaStep Args) (rest : List (SagaStep Args)),
      rest.countP gated ≤ (step :: rest).countP gated := by
    intro step rest
    rw [List.countP_cons]
    exact Nat.le_add_right ..
  let onward (before ahead : List (SagaStep Args)) (reached : Progress Args)
      (between : System Args (Bench Args)) : Prop :=
    (∀ other ∈ before, other.status = .committed) ∧ Upcoming reached ahead ∧
      Abreast sagaId reached between ∧
      lab.conclude self.validates steps progress = lab.conclude self.validates ahead reached ∧
      ahead.countP gated ≤ steps.countP gated
  apply execute_steps_rule (fun before ahead between => ∃ reached, onward before ahead reached between)
    fun before step rest between => ∃ reached, onward before (step :: rest) reached between ∧
      reached.skips step = false
  case closes =>
    intro before between ⟨reached, _, _, abreast, same, _⟩
    rw [same]
    apply wp_mono (wp_closes journaled abreast)
    · exact fun _ _ closed => .inl closed
    · exact fun _ _ impossible => impossible
  case asks =>
    intro before step rest between ⟨reached, behind, upcoming, abreast, same, count⟩
    apply wp_asks_key journaled abreast
    split
    · rename_i skip
      refine ⟨reached, further behind rfl, upcoming.next, abreast, ?_,
        (fewer step rest).trans count⟩
      rw [same, Laboratory.conclude, if_pos skip]
    · rename_i due
      exact ⟨reached, ⟨behind, upcoming, abreast, same, count⟩, Bool.eq_false_iff.mpr due⟩
  case attempts =>
    intro before step rest between ⟨reached, ⟨behind, upcoming, abreast, same, count⟩, due⟩
    have running : Upcoming reached ({ step with status := .running } :: rest) :=
      ⟨upcoming.distinct, fun other member => by
        rcases List.mem_cons.mp member with rfl | later
        · exact upcoming.fresh step (List.mem_cons_self ..)
        · exact upcoming.fresh other (List.mem_cons_of_mem _ later)⟩
    have attempt := @attempts_step Args sagaId between reached { step with status := .running }
      rest _ lab self _ journaled before behind abreast running due
    have verdict : lab.conclude self.validates ({ step with status := .running } :: rest) reached =
        lab.conclude self.validates steps progress := same.symm
    rw [verdict] at attempt
    apply wp_mono attempt
    · intro outcome last ended
      cases outcome with
      | some committed =>
          obtain ⟨done, abreast, next⟩ := ended
          exact ⟨_, further behind done, upcoming.commit, abreast, next,
            (fewer step rest).trans count⟩
      | none => exact Ended.mono count ended
    · intro fault last fallen
      apply wp_unfailing (fails_step journaled fallen)
      exact fun _ _ reached => .inl reached
  case here => exact ⟨progress, behind, upcoming, abreast, rfl, le_refl _⟩

end Batches

end SagaMind.ApprovalPauses
