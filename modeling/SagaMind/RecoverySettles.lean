import SagaMind.Coordinator.Turns
import SagaMind.Coordinator.Walk

/-!
# Recovery settles what it lists

Run alone to its end, `recover` raises nothing and leaves no saga in between:
each is in a terminal status, or waits for its approval with the pending steps
back in `active_sagas`. It counts the sagas that it moved to `ROLLED_BACK`, and
a second run finds nothing to do. This holds for every store, whatever the
resolvers and the compensations answer.
-/

namespace SagaMind.RecoverySettles

open CallProgram KeyedTable Coordinator Walk

set_option autoImplicit false

variable {Args : Type}

/-- The coordinator holds the saga as its row has it, for the operator to
approve or reject. -/
structure Waits (row : SagaRow Args) (memory : Memory Args) : Prop where
  awaiting : awaitsApproval row.status row.metadata = true
  restored : ∃ saga, memory.active.find? row.sagaId = some saga ∧
    saga.status = .awaitingApproval ∧
    saga.pendingSteps = (row.metadata.pendingSteps.getD []).map deserializeStep

/-- The saga, if it was ever written, is over or waits. -/
def AtRest (state : System Args Unit) (sagaId : String) : Prop :=
  ∀ row, state.store.state.find? sagaId = some row →
    row.status.terminal = true ∨ Waits row state.memory

/-- How many sagas are `ROLLED_BACK` that were not. -/
def movedToRolledBack (before after : Store Args) : Nat :=
  (before.state.rows.filter fun row =>
    row.status ≠ .rolledBack ∧ after.status? row.sagaId = some .rolledBack).length

/-- The next thing the program does is a call of the verifier or the sandbox. -/
def asksOutside {Value : Type} : Action Args Value → Bool
  | .call (.outside _) _ => true
  | _ => false

structure Apart (sagaId : String) (before after : System Args Unit) : Prop where
  store : Untouched sagaId before.store after.store
  memory : ∀ other, other ≠ sagaId →
    after.memory.active.find? other = before.memory.active.find? other

section StateFacts

variable {sagaId : String} {before after : System Args Unit}

/-- Whether a saga is at rest is a matter of its own row and entry. -/
theorem at_rest_kept (row : after.store.state.find? sagaId = before.store.state.find? sagaId)
    (entry : after.memory.active.find? sagaId = before.memory.active.find? sagaId)
    (rests : AtRest before sagaId) : AtRest after sagaId := by
  intro found present
  rw [row] at present
  have own : found.sagaId = sagaId := Table.find_key present
  apply (rests found present).imp_right
  intro waits
  constructor
  · exact waits.awaiting
  · rw [own, entry, ← own]
    exact waits.restored

theorem at_rest_of_terminal {status : SagaStatus}
    (written : before.store.status? sagaId = some status) (finished : status.terminal = true) :
    AtRest before sagaId := by
  intro row found
  left
  unfold Store.status? at written
  rw [found] at written
  obtain rfl := Option.some.inj written
  exact finished

end StateFacts

section Sagas

variable [DecidableEq Args] {self : Coordinator} {saga : IncompleteSaga Args}
  {state : System Args Unit}

structure Swept (saga : IncompleteSaga Args) (rolledBack : Bool) (before after : System Args Unit) :
    Prop where
  rests : AtRest after saga.sagaId
  counted : rolledBack = decide (after.store.status? saga.sagaId = some .rolledBack)
  apart : Apart saga.sagaId before after

omit [DecidableEq Args] in
theorem Apart.refl {sagaId : String} (state : System Args Unit) : Apart sagaId state state :=
  ⟨.refl _, fun _ _ => rfl⟩

omit [DecidableEq Args] in
theorem Apart.trans {sagaId : String} {first second third : System Args Unit}
    (left : Apart sagaId first second) (right : Apart sagaId second third) :
    Apart sagaId first third where
  store := left.store.trans right.store
  memory := fun other different =>
    (right.memory other different).trans (left.memory other different)

theorem settle_call_apart {sagaId : String} {request : Call Args} {before after : System Args Unit}
    {reply : Except PyError request.Answer} (settle : SettleCall sagaId request)
    (taken : serveCall anyone request before reply after) : Apart sagaId before after := by
  have store := untouched_call settle.recovery.confined taken
  cases request with
  | memory request => exact settle.elim
  | store request =>
      obtain ⟨-, rfl⟩ := taken
      exact ⟨store, fun _ _ => rfl⟩
  | outside request =>
      obtain ⟨world, -, rfl⟩ := taken
      exact ⟨store, fun _ _ => rfl⟩

/-- A waiting saga goes back to `active_sagas`, and the store is left alone. -/
theorem wp_restore_saga {inv : System Args Unit → Prop} {post : Bool → System Args Unit → Prop}
    {failed : PyError → System Args Unit → Prop}
    (waiting : awaitsApproval saga.status saga.metadata = true) (here : inv state)
    (restored : ∀ held : SagaTransaction Args, held.sagaId = saga.sagaId →
      held.status = .awaitingApproval →
      held.pendingSteps = (saga.metadata.pendingSteps.getD []).map deserializeStep →
      post false { state with
        memory := { state.memory with active := state.memory.active.put held } }) :
    wp (machine anyone inv) (self.recoverSaga saga) post failed state := by
  unfold recoverSaga
  rw [if_pos waiting, wp_bind]
  apply wp_memory here
  apply restored
  · rfl
  · rfl
  · rfl

theorem wp_sweep_saga (listed : Listed saga state.store) :
    wp running (self.recoverSaga saga) (fun rolledBack after => Swept saga rolledBack state after)
      (fun _ _ => False) state := by
  obtain ⟨row, found, status, metadata⟩ := listed.row
  have own : row.sagaId = saga.sagaId := Table.find_key found
  cases working : awaitsApproval saga.status saga.metadata with
  | true =>
      apply wp_restore_saga working trivial
      intro held same waiting pending
      constructor
      · intro other present
        rw [found] at present
        obtain rfl := Option.some.inj present
        right
        constructor
        · rw [status, metadata]
          exact working
        · refine ⟨held, ?_, waiting, ?_⟩
          · rw [own, Table.find_put, if_pos same]
          · rw [metadata]
            exact pending
      · have paused : saga.status = .awaitingApproval := by
          simp only [awaitsApproval, decide_eq_true_eq] at working
          exact working.1
        simp [Store.status?, found, status, paused]
      · constructor
        · exact .refl _
        · intro other different
          rw [Table.find_put, if_neg]
          rw [same]
          exact Ne.symm different
  | false =>
      have kept := @wp_related (coordinatorFace Args) (System Args Unit) PyError Bool running
        (SettleCall saga.sagaId) (Apart saga.sagaId) .refl .trans
        (fun _ _ _ _ settle taken => settle_call_apart settle taken) _
        (self.recovery_settle_saga working) _ _ state (wp_settle_saga listed working)
      apply wp_mono kept
      · rintro rolledBack after ⟨ended, apart⟩
        constructor
        · apply at_rest_of_terminal ended
          cases rolledBack <;> rfl
        · rw [ended]
          cases rolledBack <;> rfl
        · exact apart
      · exact fun _ _ ends => ends.1

end Sagas

section Sweep

variable [DecidableEq Args] {self : Coordinator}

structure SweptAll (sagas : List (IncompleteSaga Args)) (count total : Nat)
    (before after : System Args Unit) : Prop where
  counted : total = count + (sagas.filter fun saga =>
    after.store.status? saga.sagaId = some .rolledBack).length
  rests : ∀ saga ∈ sagas, AtRest after saga.sagaId
  rows : ∀ other, other ∉ sagas.map (·.sagaId) →
    after.store.state.find? other = before.store.state.find? other
  memory : ∀ other, other ∉ sagas.map (·.sagaId) →
    after.memory.active.find? other = before.memory.active.find? other

omit [DecidableEq Args] in
/-- The first saga is done with, and so are the others after it. -/
theorem SweptAll.cons {saga : IncompleteSaga Args} {rest : List (IncompleteSaga Args)}
    {rolledBack : Bool} {count total : Nat} {before between after : System Args Unit}
    (swept : Swept saga rolledBack before between)
    (unlisted : saga.sagaId ∉ rest.map (·.sagaId))
    (later : SweptAll rest (if rolledBack then count + 1 else count) total between after) :
    SweptAll (saga :: rest) count total before after := by
  have row := later.rows saga.sagaId unlisted
  have same : after.store.status? saga.sagaId = between.store.status? saga.sagaId := by
    unfold Store.status?
    rw [row]
  constructor
  · rw [later.counted, List.filter_cons, same, ← swept.counted]
    cases rolledBack with
    | false => rfl
    | true =>
        simp only [if_true, List.length_cons]
        omega
  · intro other member
    rcases List.mem_cons.mp member with rfl | member
    · exact at_rest_kept row (later.memory _ unlisted) swept.rests
    · exact later.rests other member
  · intro other absent
    rw [List.map_cons, List.mem_cons, not_or] at absent
    rw [later.rows other absent.2]
    exact swept.apart.store.row other absent.1
  · intro other absent
    rw [List.map_cons, List.mem_cons, not_or] at absent
    rw [later.memory other absent.2]
    exact swept.apart.memory other absent.1

/-- The loop of `recover`: by induction on the sagas left. -/
theorem wp_sweep_sagas (sagas : List (IncompleteSaga Args)) (count : Nat)
    {state : System Args Unit} (listed : ∀ saga ∈ sagas, Listed saga state.store)
    (distinct : (sagas.map (·.sagaId)).Nodup) :
    wp running (self.recoverSagas sagas count) (fun total after => SweptAll sagas count total state after)
      (fun _ _ => False) state := by
  induction sagas generalizing count state with
  | nil =>
      constructor
      · simp
      · exact fun saga member => absurd member List.not_mem_nil
      · exact fun other absent => rfl
      · exact fun other absent => rfl
  | cons saga rest ih =>
      have unlisted : saga.sagaId ∉ rest.map (·.sagaId) := (List.nodup_cons.mp distinct).1
      unfold recoverSagas
      rw [wp_bind]
      apply wp_unfailing (wp_sweep_saga (listed saga (List.mem_cons_self ..)))
      intro rolledBack between swept
      have later : ∀ other ∈ rest, Listed other between.store := by
        intro other member
        apply untouched_listed swept.apart.store
        · intro same
          exact unlisted (List.mem_map.mpr ⟨other, member, same⟩)
        · exact listed other (List.mem_cons_of_mem _ member)
      apply wp_mono (ih _ later (List.nodup_cons.mp distinct).2)
      · exact fun total after sweptRest => .cons swept unlisted sweptRest
      · exact fun _ _ impossible => impossible

omit [DecidableEq Args] in
theorem list_incomplete_count (store : Store Args) (chosen : String → Bool) :
    (store.listIncomplete.filter fun saga => chosen saga.sagaId).length =
      (store.state.rows.filter fun row => !row.status.terminal && chosen row.sagaId).length := by
  unfold Store.listIncomplete
  rw [List.filter_map, List.length_map, List.filter_filter]
  congr 2
  funext row
  exact Bool.and_comm _ _

/-- `recover` settles every saga and counts those it rolled back. -/
theorem wp_recover_settles (stored : self.hasStore = true) {state : System Args Unit} :
    wp running self.recover
      (fun count after => count = movedToRolledBack state.store after.store ∧
        ∀ sagaId, AtRest after sagaId)
      (fun _ _ => False) state := by
  unfold recover
  rw [if_pos stored, wp_bind, wp_on_store]
  refine ⟨trivial, ?_⟩
  apply wp_mono (wp_sweep_sagas state.store.listIncomplete 0
    (fun saga member => list_incomplete_listed member) (list_incomplete_distinct _))
  · intro total after swept
    constructor
    · have chosen := list_incomplete_count state.store fun sagaId =>
        decide (after.store.status? sagaId = some .rolledBack)
      rw [swept.counted, Nat.zero_add, chosen, movedToRolledBack]
      congr 1
      apply List.filter_congr
      intro row member
      cases finished : row.status.terminal with
      | false =>
          have other : row.status ≠ .rolledBack := by
            intro same
            rw [same] at finished
            cases finished
          simp [other]
      | true =>
          have found : state.store.state.find? row.sagaId = some row := Table.find_of_mem member
          have absent : row.sagaId ∉ state.store.listIncomplete.map (·.sagaId) := by
            rw [listed_iff, found]
            rintro ⟨other, same, alive⟩
            obtain rfl := Option.some.inj same
            rw [finished] at alive
            cases alive
          have status : after.store.status? row.sagaId = some row.status := by
            unfold Store.status?
            rw [swept.rows _ absent]
            exact congrArg (Option.map SagaRow.status) found
          simp [status]
    · intro sagaId
      by_cases listed : sagaId ∈ state.store.listIncomplete.map (·.sagaId)
      · obtain ⟨saga, member, rfl⟩ := List.mem_map.mp listed
        exact swept.rests saga member
      · intro row found
        left
        rw [swept.rows sagaId listed] at found
        cases finished : row.status.terminal with
        | true => rfl
        | false => exact absurd (listed_iff.mpr ⟨row, found, finished⟩) listed
  · exact fun _ _ impossible => impossible

end Sweep

section Again

variable [DecidableEq Args] {worker : Coordinator} {state : System Args Unit}

abbrev idling (store : Store Args) : Machine (coordinatorFace Args) (System Args Unit) :=
  running.guard fun request state => state.store = store ∧ ∀ inner, request ≠ .outside inner

/-- Sagas that wait are registered again, and nothing else happens. -/
theorem wp_idle_sagas (store : Store Args) (sagas : List (IncompleteSaga Args)) (count : Nat)
    (waiting : ∀ saga ∈ sagas, awaitsApproval saga.status saga.metadata = true)
    (same : state.store = store) :
    wp (idling store) (worker.recoverSagas sagas count) (fun _ after => after.store = store)
      (fun _ after => after.store = store) state := by
  induction sagas generalizing count state with
  | nil => exact same
  | cons saga rest ih =>
      unfold recoverSagas recoverSaga
      rw [if_pos (waiting saga (List.mem_cons_self ..)), wp_bind, wp_bind, onMemory, wp_perform]
      refine ⟨⟨same, by rintro _ ⟨⟩⟩, ?_⟩
      rintro reply after ⟨rfl, rfl⟩
      exact ih _ (fun other member => waiting other (List.mem_cons_of_mem _ member)) same

theorem wp_idle_recover (rests : ∀ sagaId, AtRest state sagaId) (memory : Memory Args) :
    wp (idling state.store) worker.recover (fun _ after => after.store = state.store)
      (fun _ after => after.store = state.store) ⟨state.store, memory, ()⟩ := by
  unfold recover
  rw [wp_ite]
  split
  · rw [wp_bind, onStore, wp_perform]
    refine ⟨⟨rfl, by rintro _ ⟨⟩⟩, ?_⟩
    rintro reply after ⟨rfl, rfl⟩
    apply wp_idle_sagas
    · intro saga member
      have listed := list_incomplete_listed member
      obtain ⟨row, found, status, metadata⟩ := listed.row
      rcases rests saga.sagaId row found with finished | waits
      · rw [status, listed.alive] at finished
        cases finished
      · rw [← status, ← metadata]
        exact waits.awaiting
    · rfl
  · rfl

/-- `recover` run alone, on any store and whatever it is answered, ends without
an error. Every saga is then over or waits for its approval, the count is that
of the sagas moved to `ROLLED_BACK`, and a second run, on the same coordinator
or another, asks nothing of the outside and leaves the store as it is. -/
theorem recover_settles_and_is_idempotent {self : Coordinator} (stored : self.hasStore = true)
    {before after : System Args Unit} {outcome : Except PyError Nat}
    (run : Steps running self.recover before (Program.ended outcome) after) :
    outcome = .ok (movedToRolledBack before.store after.store) ∧
      (∀ sagaId, AtRest after sagaId) ∧
      ∀ (worker : Coordinator) (memory : Memory Args) (later : Action Args Nat)
        (last : System Args Unit), Steps running worker.recover ⟨after.store, memory, ()⟩ later last →
        asksOutside later = false ∧ last.store = after.store := by
  have ended := wp_ended (wp_recover_settles stored) run
  cases outcome with
  | error error => exact ended.elim
  | ok count =>
      obtain ⟨rfl, rests⟩ := ended
      refine ⟨rfl, rests, ?_⟩
      intro worker memory later last steps
      have there := wp_steps (wp_idle_recover rests memory) (steps.guard _)
      cases later with
      | done count => exact ⟨rfl, there⟩
      | raise error => exact ⟨rfl, there⟩
      | call request next =>
          refine ⟨?_, there.1.1⟩
          cases request with
          | memory inner => rfl
          | store inner => rfl
          | outside inner => exact absurd rfl (there.1.2 inner)

end Again

section Runs

def interrupted : System Unit Unit where
  store :=
    let running := Store.empty.writeTransactionState "s" .running {}
    let prepared := (running.prepareEffect "s" "a" "a" ⟨"pay", ()⟩ ⟨"refund", ()⟩ none).2
    prepared.writeTransactionState "t" .awaitingApproval
      { pendingSteps := some [serializeStep (sampleStep "b" none)] }
  memory := .empty
  world := ()

def recovered : Action Unit Nat × System Unit Unit :=
  simulate (answerWith anyone fun request world => (accepting request, world)) 20
    sampleWorker.recover interrupted

theorem recovered_at_rest : movedToRolledBack interrupted.store recovered.2.store = 1 ∧
    AtRest recovered.2 "t" := by
  have run : Steps running sampleWorker.recover interrupted recovered.1 recovered.2 :=
    simulate_steps (answer_with_honest fun _ _ => trivial) 20 _ _
  have settles := @recover_settles_and_is_idempotent Unit _ sampleWorker rfl interrupted recovered.2
    (.ok 1) run
  exact ⟨(Except.ok.inj settles.1).symm, settles.2.1 "t"⟩

end Runs

end SagaMind.RecoverySettles
