import SagaMind.ApprovalPauses.Execution
import SagaMind.Coordinator.Walk

/-!
# Pauses for an approval change nothing but timing

The steps of a fresh saga are executed and approved at every pause, and between
two approvals the coordinator may be lost and its successor recovers the saga.
The sandbox gets the same calls, and the journal and the status end the same, as
if all approvals had been there from the start.
-/

namespace SagaMind.ApprovalPauses

open CallProgram KeyedTable Coordinator Workshop Walk

set_option autoImplicit false

variable {Args : Type}

section Setting

/-- The saga was started: nothing is completed, recorded or published. -/
structure Fresh (sagaId : String) (state : System Args (Bench Args)) : Prop where
  held : ∃ saga, state.memory.active.find? sagaId = some saga ∧ saga.completedSteps = []
  unrecorded : (state.store.effects sagaId).rows = []
  unpublished : state.store.idem sagaId = ∅

def Alike (self worker : Coordinator) : Prop :=
  worker.store = .journaled ∧ worker.validates = self.validates

variable [DecidableEq Args] [Inhabited Args]

/-- A run of the steps with so many approvals, one at each pause. While the saga
waits its coordinator may be lost, and another one recovers what is stored. -/
inductive Approving (lab : Laboratory Args) (self : Coordinator) (sagaId : String)
    (steps : List (SagaStep Args)) (start : System Args (Bench Args)) :
    Nat → System Args (Bench Args) → Prop
  | executed {later after}
      (run : Steps (testing lab sagaId) ((ApiCall.execute sagaId steps).program self) start later after)
      (finished : later.finished = true) : Approving lab self sagaId steps start 0 after
  | approved {count worker before later after}
      (earlier : Approving lab self sagaId steps start count before) (alike : Alike self worker)
      (waits : (ApiCall.resume sagaId).enters before.memory = true)
      (run : Steps (testing lab sagaId) ((ApiCall.resume sagaId).program worker) before later after)
      (finished : later.finished = true) : Approving lab self sagaId steps start (count + 1) after
  | restarted {count worker before later after}
      (earlier : Approving lab self sagaId steps start count before) (alike : Alike self worker)
      (waits : (ApiCall.resume sagaId).enters before.memory = true)
      (run : Steps (testing lab sagaId) (ApiCall.recover.program worker) (restart before) later after)
      (finished : later.finished = true) : Approving lab self sagaId steps start count after

end Setting

/-- The sandbox got the same calls for the saga, and its records and its durable
status are the same. -/
structure SameEnd (sagaId : String) (left right : System Args (Bench Args)) : Prop where
  calls : left.world sagaId = right.world sagaId
  records : ∀ stepId, (left.store.effect? sagaId stepId).map (·.state) =
    (right.store.effect? sagaId stepId).map (·.state)
  status : left.store.status? sagaId = right.store.status? sagaId

variable {sagaId : String} {verdict : Verdict Args} {pending : List (SagaStep Args)}
  {progress : Progress Args} {validates : Bool} {state : System Args (Bench Args)}
  {lab : Laboratory Args} {self : Coordinator}

section Resumption

theorem Paused.enters (paused : Paused lab validates sagaId verdict pending state) :
    (ApiCall.resume sagaId).enters state.memory = true := by
  obtain ⟨saga, found, awaiting, same⟩ := paused.held
  obtain ⟨step, rest, shape, _⟩ := paused.first
  have filled : saga.pendingSteps ≠ [] := by
    rw [same, shape]
    exact List.cons_ne_nil _ _
  simp [ApiCall.enters, found, awaiting, filled]

theorem count_approved {step : SagaStep Args} (rest : List (SagaStep Args))
    (gate : gated step = true) :
    (approveFirst (step :: rest)).countP gated + 1 = (step :: rest).countP gated := by
  have open_gate : gated { step with approved := true } = false := by
    simp [gated]
  unfold approveFirst
  rw [List.countP_cons, List.countP_cons, gate, open_gate]
  rfl

variable [DecidableEq Args] [Inhabited Args]

theorem wp_executes (journaled : self.store = .journaled) {steps : List (SagaStep Args)}
    (upcoming : Upcoming progress steps) (abreast : Abreast sagaId progress state) :
    wp (testing lab sagaId) (self.executeSaga sagaId steps)
      (fun _ => Ended lab self.validates sagaId (lab.conclude self.validates steps progress)
        (steps.countP gated)) (fun _ _ => False) state := by
  obtain ⟨saga, found, _⟩ := abreast.remembers
  unfold executeSaga
  rw [wp_bind]
  apply wp_memory trivial
  dsimp only [MemoryCall.serve]
  rw [found, wp_ite, if_pos Option.isSome_some]
  exact concludes journaled [] (fun _ member => absurd member List.not_mem_nil) upcoming abreast

theorem wp_resumes {worker : Coordinator} (alike : Alike self worker)
    (paused : Paused lab self.validates sagaId verdict pending state) :
    wp (testing lab sagaId) (worker.resumeAfterApproval sagaId)
      (fun _ => Ended lab self.validates sagaId verdict (pending.countP gated - 1))
      (fun _ _ => False) state := by
  obtain ⟨journaled, same⟩ := alike
  rw [← same] at paused ⊢
  obtain ⟨progress, abreast, upcoming, rfl⟩ := paused.verdict
  obtain ⟨saga, found, awaiting, waiting⟩ := paused.held
  obtain ⟨step, rest, rfl, gate⟩ := paused.first
  obtain ⟨other, known, done⟩ := abreast.remembers
  obtain rfl : saga = other := Option.some.inj (found.symm.trans known)
  have taken : ((MemoryCall.setPending sagaId []).serve state.memory).2.active.find? sagaId =
      some { saga with pendingSteps := [] } := Memory.find_amend found rfl
  have running : ((MemoryCall.setStatus sagaId .running).serve
      ((MemoryCall.setPending sagaId []).serve state.memory).2).2.active.find? sagaId =
      some { saga with pendingSteps := [], status := .running } := Memory.find_amend taken rfl
  have approved : Upcoming progress (approveFirst (step :: rest)) :=
    ⟨upcoming.distinct, fun other member => by
      rcases List.mem_cons.mp member with rfl | later
      · exact upcoming.fresh step (List.mem_cons_self ..)
      · exact upcoming.fresh other (List.mem_cons_of_mem _ later)⟩
  have count := count_approved rest gate
  have fewer : (approveFirst (step :: rest)).countP gated = (step :: rest).countP gated - 1 := by
    omega
  unfold resumeAfterApproval
  rw [wp_bind]
  apply wp_memory trivial
  dsimp only [MemoryCall.serve]
  rw [found]
  dsimp only
  rw [wp_ite, if_neg (by simp [awaiting, waiting]), wp_bind]
  apply wp_memory trivial
  rw [wp_bind]
  apply wp_memory trivial
  rw [wp_bind, write_status_journaled journaled]
  apply wp_write_state trivial
  rw [waiting, ← fewer]
  apply wp_executes journaled approved
  constructor
  · exact abreast.calls
  · exact abreast.keys
  · exact abreast.journal
  · exact ⟨_, running, done⟩

end Resumption

section Recovery

structure Shelved (sagaId : String) (progress : Progress Args) (pending : List (SagaStep Args))
    (state : System Args (Bench Args)) : Prop where
  calls : state.world sagaId = progress.calls
  keys : state.store.idem sagaId = progress.keys
  journal : journal state.store sagaId = committedEntries progress.done
  stored : ∃ row, state.store.state.find? sagaId = some row ∧ row.status = .awaitingApproval ∧
    row.metadata.pendingSteps = some (pending.map serializeStep)

/-- The coordinator holds the saga as it was when it paused. -/
def Restored (sagaId : String) (progress : Progress Args) (pending : List (SagaStep Args))
    (memory : Memory Args) : Prop :=
  ∃ saga, memory.active.find? sagaId = some saga ∧ saga.status = .awaitingApproval ∧
    saga.pendingSteps = pending ∧ saga.completedSteps.reverse.map deed = progress.done

structure Spared (sagaId : String) (before after : System Args (Bench Args)) : Prop where
  row : after.store.state.find? sagaId = before.store.state.find? sagaId
  effects : after.store.effects sagaId = before.store.effects sagaId
  keys : after.store.idem sagaId = before.store.idem sagaId
  calls : after.world sagaId = before.world sagaId
  held : after.memory.active.find? sagaId = before.memory.active.find? sagaId

theorem Spared.refl (state : System Args (Bench Args)) : Spared sagaId state state :=
  ⟨rfl, rfl, rfl, rfl, rfl⟩

theorem Spared.trans {first second third : System Args (Bench Args)}
    (left : Spared sagaId first second) (right : Spared sagaId second third) :
    Spared sagaId first third where
  row := right.row.trans left.row
  effects := right.effects.trans left.effects
  keys := right.keys.trans left.keys
  calls := right.calls.trans left.calls
  held := right.held.trans left.held

theorem Shelved.spared {after : System Args (Bench Args)}
    (shelved : Shelved sagaId progress pending state) (spared : Spared sagaId state after) :
    Shelved sagaId progress pending after where
  calls := spared.calls.trans shelved.calls
  keys := spared.keys.trans shelved.keys
  journal := by
    have journal := shelved.journal
    unfold ApprovalPauses.journal at journal ⊢
    rw [spared.effects]
    exact journal
  stored := by
    rw [spared.row]
    exact shelved.stored

theorem Restored.spared {after : System Args (Bench Args)}
    (restored : Restored sagaId progress pending state.memory) (spared : Spared sagaId state after) :
    Restored sagaId progress pending after.memory := by
  unfold Restored
  rw [spared.held]
  exact restored

theorem Paused.shelved (paused : Paused lab validates sagaId verdict pending state) :
    ∃ progress, Shelved sagaId progress pending state ∧ Upcoming progress pending ∧
      lab.conclude validates pending progress = verdict := by
  obtain ⟨progress, abreast, upcoming, same⟩ := paused.verdict
  exact ⟨progress, ⟨abreast.calls, abreast.keys, abreast.journal, paused.stored⟩, upcoming, same⟩

/-- The completed steps of a saga that waits are its committed records. -/
theorem restored_steps {store : Store Args}
    (same : journal store sagaId = committedEntries progress.done) :
    ((((store.effects sagaId).rows.filter (·.state = .committed)).map stepFromEffect).reverse.map
      deed) = progress.done := by
  have all : ∀ effect ∈ (store.effects sagaId).rows, effect.state = .committed := by
    intro effect member
    have entry : (recorded effect, effect.state) ∈ committedEntries progress.done := by
      rw [← same]
      exact List.mem_map.mpr ⟨effect, member, rfl⟩
    obtain ⟨deed, _, shape⟩ := List.mem_map.mp entry
    exact (Prod.mk.inj shape).2.symm
  have deeds : (store.effects sagaId).rows.map recorded = progress.done.reverse := by
    have firsts := congrArg (List.map Prod.fst) same
    unfold journal committedEntries at firsts
    rw [List.map_map, List.map_map] at firsts
    simpa [Function.comp_def] using firsts
  rw [List.filter_eq_self.mpr (fun effect member => by simp [all effect member]), List.map_reverse,
    List.map_map]
  change ((store.effects sagaId).rows.map recorded).reverse = _
  rw [deeds, List.reverse_reverse]

variable [DecidableEq Args]

theorem settle_spares {owner : String} {request : Call Args} {before after : System Args (Bench Args)}
    {reply : Except PyError request.Answer} (settle : SettleCall owner request)
    (apart : owner ≠ sagaId) (taken : serveCall (laboratory lab sagaId) request before reply after) :
    Spared sagaId before after := by
  have untouched := untouched_call settle.recovery.confined taken
  have row := untouched.row sagaId (Ne.symm apart)
  have effects := untouched.journal sagaId (Ne.symm apart)
  cases request with
  | memory request => exact settle.elim
  | store request =>
      obtain ⟨_, rfl⟩ := taken
      refine ⟨row, effects, ?_, rfl, rfl⟩
      cases request with
      | transitionEffect other stepId expected newState result error =>
          rcases before.store.transition_effect_cases other stepId expected newState result error
            with ⟨_, _, _, same⟩ | ⟨_, _, same⟩
          · simp only [afterStore, StoreCall.serve, same]
            rfl
          · simp only [afterStore, StoreCall.serve, same]
      | writeTransactionState | pushDeadLetter | stepAlreadyCommitted => rfl
      | _ => exact settle.elim
  | outside request =>
      obtain ⟨bench, answered, rfl⟩ := taken
      refine ⟨row, effects, rfl, ?_, rfl⟩
      cases request with
      | executeCompensation other stepId compensation =>
          obtain rfl : other = owner := settle
          obtain ⟨_, rfl⟩ := answered
          exact Function.update_of_ne (Ne.symm apart) ..
      | resolveEffect | resolveCompensation | executeIdempotent =>
          obtain rfl : bench = before.world := answered
          rfl
      | _ => exact settle.elim

theorem wp_recovers_one {saga : IncompleteSaga Args} {rest : List (IncompleteSaga Args)}
    (some_step : pending ≠ []) (listed : Listed saga state.store)
    (shelved : Shelved sagaId progress pending state)
    (ahead : sagaId ∈ (saga :: rest).map (·.sagaId) ∨
      Restored sagaId progress pending state.memory) :
    wp (testing lab sagaId) (self.recoverSaga saga)
      (fun _ after => Shelved sagaId progress pending after ∧
        (sagaId ∈ rest.map (·.sagaId) ∨ Restored sagaId progress pending after.memory))
      (fun _ _ => False) state := by
  obtain ⟨row, present, status, metadata⟩ := listed.row
  by_cases own : saga.sagaId = sagaId
  · obtain ⟨stored, found, awaiting, written⟩ := shelved.stored
    rw [own, found] at present
    obtain rfl := Option.some.inj present
    have waits : awaitsApproval saga.status saga.metadata = true := by
      rw [← status, ← metadata]
      simp [awaitsApproval, awaiting, written, some_step]
    unfold recoverSaga
    rw [if_pos waits, wp_bind]
    apply wp_memory trivial
    refine ⟨⟨shelved.calls, shelved.keys, shelved.journal, shelved.stored⟩, .inr ?_⟩
    refine ⟨_, (Table.find_put ..).trans (if_pos own), rfl, ?_, ?_⟩
    · rw [← metadata, written]
      simp [Function.comp_def]
    · rw [listed.effects, own]
      exact restored_steps shelved.journal
  · have later : sagaId ∈ (saga :: rest).map (·.sagaId) → sagaId ∈ rest.map (·.sagaId) := by
      intro member
      rw [List.map_cons, List.mem_cons] at member
      exact member.resolve_left (Ne.symm own)
    cases working : awaitsApproval saga.status saga.metadata with
    | true =>
        unfold recoverSaga
        rw [if_pos working, wp_bind]
        apply wp_memory trivial
        refine ⟨⟨shelved.calls, shelved.keys, shelved.journal, shelved.stored⟩, ?_⟩
        apply ahead.imp later
        intro restored
        unfold Restored
        dsimp only [MemoryCall.serve]
        rw [Table.find_put, if_neg own]
        exact restored
    | false =>
        have kept := @wp_related (coordinatorFace Args) (System Args (Bench Args)) PyError Bool
          (testing lab sagaId) (SettleCall saga.sagaId) (Spared sagaId) .refl .trans
          (fun _ _ _ _ settle taken => settle_spares settle own taken) _
          (self.recovery_settle_saga working) _ _ state (wp_settle_saga listed working)
        apply wp_mono kept
        · intro rolledBack after ⟨_, spared⟩
          refine ⟨shelved.spared spared, ?_⟩
          exact ahead.imp later fun restored => restored.spared spared
        · exact fun _ _ ends => ends.1

theorem wp_recovers {worker : Coordinator} (alike : Alike self worker)
    (paused : Paused lab validates sagaId verdict pending state) :
    wp (testing lab sagaId) worker.recover
      (fun _ => Paused lab validates sagaId verdict pending) (fun _ _ => False)
      (restart state) := by
  obtain ⟨progress, shelved, upcoming, same⟩ := paused.shelved
  obtain ⟨step, rest, shape, gate⟩ := paused.first
  have some_step : pending ≠ [] := by
    rw [shape]
    exact List.cons_ne_nil _ _
  have listed : sagaId ∈ state.store.listIncomplete.map (·.sagaId) := by
    obtain ⟨row, found, awaiting, _⟩ := shelved.stored
    exact listed_iff.mpr ⟨row, found, by rw [awaiting]; rfl⟩
  unfold recover
  rw [if_pos (has_store_of_journaled alike.1), wp_bind]
  refine (wp_on_store _ _ _ _).mpr ⟨trivial, ?_⟩
  have sweep := @wp_each_saga_left Args (Bench Args) _ (laboratory lab sagaId) worker (testing lab sagaId)
    (fun taken => taken)
    (fun sagas state => Shelved sagaId progress pending state ∧
      (sagaId ∈ sagas.map (·.sagaId) ∨ Restored sagaId progress pending state.memory))
    (fun _ _ => False) (fun listed here => wp_recovers_one some_step listed here.1 here.2)
    state.store.listIncomplete 0 (restart state) (fun saga member => list_incomplete_listed member)
    (list_incomplete_distinct _)
    ⟨⟨shelved.calls, shelved.keys, shelved.journal, shelved.stored⟩, .inl listed⟩
  apply wp_mono sweep
  · intro _ after ⟨shelved, ahead⟩
    obtain ⟨saga, found, awaiting, waiting, done⟩ := ahead.resolve_left List.not_mem_nil
    constructor
    · exact ⟨progress, ⟨shelved.calls, shelved.keys, shelved.journal, saga, found, done⟩, upcoming, same⟩
    · exact ⟨step, rest, shape, gate⟩
    · exact ⟨saga, found, awaiting, waiting⟩
    · exact shelved.stored
  · exact fun _ _ impossible => impossible

end Recovery

section Runs

variable [DecidableEq Args] [Inhabited Args] {steps : List (SagaStep Args)}
  {start once : System Args (Bench Args)} {count : Nat}

/-- Where a run with approvals stands: the verdict is reached, or some gates are
left. -/
def OnTheWay (lab : Laboratory Args) (validates : Bool) (sagaId : String) (verdict : Verdict Args)
    (gates count : Nat) (state : System Args (Bench Args)) : Prop :=
  Reached sagaId verdict state ∨ ∃ pending, Paused lab validates sagaId verdict pending state ∧
    count + pending.countP gated ≤ gates

omit [DecidableEq Args] [Inhabited Args] in
theorem fresh_abreast (fresh : Fresh sagaId start) :
    Abreast sagaId ⟨start.world sagaId, ∅, []⟩ start where
  calls := rfl
  keys := fresh.unpublished
  journal := by
    unfold journal
    rw [fresh.unrecorded]
    rfl
  remembers := by
    obtain ⟨saga, found, empty⟩ := fresh.held
    exact ⟨saga, found, by rw [empty]; rfl⟩

/-- The run lemma: every run with approvals leads to the verdict on the steps. -/
theorem approving_on_the_way (journaled : self.store = .journaled)
    (distinct : (steps.map (·.stepId)).Nodup) (fresh : Fresh sagaId start)
    (approving : Approving lab self sagaId steps start count state) :
    OnTheWay lab self.validates sagaId
      (lab.conclude self.validates steps ⟨start.world sagaId, ∅, []⟩) (steps.countP gated) count
      state := by
  induction approving with
  | executed run finished =>
      have upcoming : Upcoming (⟨start.world sagaId, ∅, []⟩ : Progress Args) steps :=
        ⟨distinct, fun _ _ => List.not_mem_nil⟩
      have ended : wp (testing lab sagaId) (self.executeSaga sagaId steps)
          (fun _ => Ended lab self.validates sagaId _ (steps.countP gated)) (fun _ _ => False)
          start := wp_executes journaled upcoming (fresh_abreast fresh)
      have reached := wp_over ((wp_void ..).mpr (wp_mono ended (fun _ _ ended => ended)
        fun _ _ impossible => impossible.elim)) run finished
      rcases reached with reached | ⟨pending, paused, gates⟩
      · exact .inl reached
      · exact .inr ⟨pending, paused, by rw [Nat.zero_add]; exact gates⟩
  | approved earlier alike waits run finished ih =>
      rcases ih with reached | ⟨pending, paused, gates⟩
      · rw [reached.settled] at waits
        cases waits
      · have ended := wp_over ((wp_void ..).mpr (wp_mono (wp_resumes alike paused)
          (fun _ _ ended => ended) fun _ _ impossible => impossible.elim)) run finished
        obtain ⟨step, rest, shape, gate⟩ := paused.first
        have some_gate : 0 < pending.countP gated := by
          rw [shape, List.countP_cons, gate]
          exact Nat.succ_pos _
        rcases ended with reached | ⟨left, paused, fewer⟩
        · exact .inl reached
        · exact .inr ⟨left, paused, by omega⟩
  | restarted earlier alike waits run finished ih =>
      rcases ih with reached | ⟨pending, paused, gates⟩
      · rw [reached.settled] at waits
        cases waits
      · have recovered := wp_over ((wp_void ..).mpr (wp_mono (wp_recovers alike paused)
          (fun _ _ paused => paused) fun _ _ impossible => impossible.elim)) run finished
        exact .inr ⟨pending, recovered, gates⟩

omit [DecidableEq Args] [Inhabited Args] in
theorem granted_gates (steps : List (SagaStep Args)) : (granted steps).countP gated = 0 := by
  rw [List.countP_eq_zero]
  intro step member
  obtain ⟨other, _, rfl⟩ := List.mem_map.mp member
  simp [gated]

omit [DecidableEq Args] [Inhabited Args] in
/-- What the laboratory answers, and what it knows then. A recovery gets no help. -/
def consult (lab : Laboratory Args) (sagaId : String) :
    (request : OutsideCall Args) → Bench Args → Except PyError request.Answer × Bench Args
  | .verify arguments invariants, bench => (lab.verify arguments invariants, bench)
  | .validate action, bench => (lab.validate (bench sagaId) action, bench)
  | .execute owner step, bench => (lab.execute (bench owner) step.action,
      Function.update bench owner (bench owner ++ [.execute step.action]))
  | .executeCompensation owner _ compensation, bench =>
      (lab.compensate (bench owner) compensation,
        Function.update bench owner (bench owner ++ [.compensate compensation]))
  | .resolveEffect _, bench => (.error (.external "unsupported"), bench)
  | .resolveCompensation _, bench => (.error (.external "unsupported"), bench)
  | .executeIdempotent .., bench => (.error (.external "unsupported"), bench)

omit [DecidableEq Args] [Inhabited Args] in
theorem consult_honest (lab : Laboratory Args) (sagaId : String) (request : OutsideCall Args)
    (bench : Bench Args) :
    (laboratory lab sagaId).respond request bench (consult lab sagaId request bench).1
      (consult lab sagaId request bench).2 := by
  cases request with
  | verify | validate | execute | executeCompensation => exact ⟨rfl, rfl⟩
  | resolveEffect | resolveCompensation | executeIdempotent => rfl

/-- Executing the steps and approving at every pause, with or without recoveries
in between, comes to the end that executing them with all approvals granted
comes to. As long as the saga waits there are gates left, and the next approval
leads on. -/
theorem pausing_changes_only_timing (journaled : self.store = .journaled)
    (distinct : (steps.map (·.stepId)).Nodup) (fresh : Fresh sagaId start)
    {later : Action Args Unit}
    (uncut : Steps (testing lab sagaId) ((ApiCall.execute sagaId (granted steps)).program self) start later
      once) (finished : later.finished = true)
    (approving : Approving lab self sagaId steps start count state) :
    ((ApiCall.resume sagaId).enters state.memory = true ∧ count < steps.countP gated ∧
      ∃ next, Approving lab self sagaId steps start (count + 1) next) ∨
    ((ApiCall.resume sagaId).enters state.memory = false ∧ SameEnd sagaId state once) := by
  have same_ids : ((granted steps).map (·.stepId)) = steps.map (·.stepId) := by
    unfold granted
    rw [List.map_map]
    rfl
  have reached : Reached sagaId
      (lab.conclude self.validates steps ⟨start.world sagaId, ∅, []⟩) once := by
    have there := approving_on_the_way journaled (by rw [same_ids]; exact distinct) fresh
      (.executed uncut finished)
    rw [lab.conclude_granted, granted_gates] at there
    rcases there with reached | ⟨pending, paused, none_left⟩
    · exact reached
    · obtain ⟨step, rest, shape, gate⟩ := paused.first
      rw [shape, List.countP_cons, gate] at none_left
      simp at none_left
  rcases approving_on_the_way journaled distinct fresh approving with here | ⟨pending, paused, gates⟩
  · right
    refine ⟨here.settled, ?_, ?_, ?_⟩
    · rw [here.tally.calls, reached.tally.calls]
    · intro stepId
      rw [here.tally.records, reached.tally.records]
    · rw [here.status, reached.status]
  · left
    obtain ⟨step, rest, shape, gate⟩ := paused.first
    have some_gate : 0 < pending.countP gated := by
      rw [shape, List.countP_cons, gate]
      exact Nat.succ_pos _
    have answers : ∀ request before, ∃ reply after, (testing lab sagaId).step request before reply after :=
      fun request before => ⟨_, _, answer_with_honest (consult_honest lab sagaId) request before⟩
    obtain ⟨last, next, run, finished⟩ :=
      complete_run answers ((ApiCall.resume sagaId).program self) state
    exact ⟨paused.enters, by omega, next, .approved approving ⟨journaled, rfl⟩ paused.enters run finished⟩

def twoAccepted : Laboratory Unit where
  verify _ _ := .ok (true, "")
  validate _ _ := .ok ()
  execute calls _ := .ok (if calls.length < 2 then .dict () else .none)
  compensate _ _ := .ok true

def gatedBatch : List (SagaStep Unit) :=
  [sampleStep "a" none, { sampleStep "b" none with requiresApproval := true }, sampleStep "c" none]

def started : System Unit (Bench Unit) := ⟨.empty, sampleMemory, fun _ => []⟩

def rehearse (request : ApiCall Unit) (state : System Unit (Bench Unit)) :
    Action Unit Unit × System Unit (Bench Unit) :=
  simulate (answerWith (laboratory twoAccepted "s") (consult twoAccepted "s")) 80
    (request.program sampleWorker) state

theorem rehearse_steps (request : ApiCall Unit) (state : System Unit (Bench Unit)) :
    Steps (testing twoAccepted "s") (request.program sampleWorker) state (rehearse request state).1
      (rehearse request state).2 :=
  simulate_steps (answer_with_honest (consult_honest twoAccepted "s")) _ _ _

/-- The batch pauses, the coordinator is replaced, and the approval is given. -/
def paused : System Unit (Bench Unit) := (rehearse (.execute "s" gatedBatch) started).2

def replaced : System Unit (Bench Unit) := (rehearse .recover (restart paused)).2

def resumed : System Unit (Bench Unit) := (rehearse (.resume "s") replaced).2

theorem resumed_approving : Approving twoAccepted sampleWorker "s" gatedBatch started 1 resumed := by
  have executed : Approving twoAccepted sampleWorker "s" gatedBatch started 0 paused :=
    .executed (rehearse_steps _ _) rfl
  have recovered : Approving twoAccepted sampleWorker "s" gatedBatch started 0 replaced :=
    .restarted executed ⟨rfl, rfl⟩ rfl (rehearse_steps _ _) rfl
  exact .approved recovered ⟨rfl, rfl⟩ rfl (rehearse_steps _ _) rfl

/-- The third step fails after the approval, and the rollback undoes both others. -/
theorem resumed_same_end : SameEnd "s" resumed
    (rehearse (.execute "s" (granted gatedBatch)) started).2 := by
  have fresh : Fresh "s" started := ⟨⟨_, rfl, rfl⟩, rfl, rfl⟩
  rcases pausing_changes_only_timing rfl (by decide) fresh
    (rehearse_steps (.execute "s" (granted gatedBatch)) started) rfl resumed_approving with
    waits | ends
  · exact absurd waits.2.1 (by decide)
  · exact ends.2

end Runs

end SagaMind.ApprovalPauses
