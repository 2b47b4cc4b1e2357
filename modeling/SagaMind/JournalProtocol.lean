import SagaMind.Coordinator.Cluster

/-!
# The journal protocol under any interleaving

Records move along the documented diagram only, an action runs at most once for
each record, and its record is there before it runs. The budget of an identity
is one execution once its record has left `PREPARED`; executions in the past
and calls about to execute share it.
-/

namespace SagaMind.JournalProtocol

open CallProgram KeyedTable Coordinator

set_option autoImplicit false

variable {Args : Type}

def executes (sagaId stepId : String) : Call Args → Bool
  | .outside (.execute owner step) => owner = sagaId ∧ step.stepId = stepId
  | _ => false

def armedFor (sagaId stepId : String) (progress : Progress Args) : Bool :=
  match progress.stage with
  | .armed ticket => ticket.sagaId = sagaId ∧ ticket.stepId = stepId
  | _ => false

def executions (sagaId stepId : String) (trace : List (Event (coordinatorFace Args))) : Nat :=
  trace.countP fun event => executes sagaId stepId event.request

def budget : Option (Effect Args) → Nat
  | some record => if record.state = .prepared then 0 else 1
  | none => 0

structure Kept (cluster : Cluster Args) (trace : List (Event (coordinatorFace Args)))
    (notes : List (Progress Args)) : Prop where
  registered : ∀ progress ∈ notes, ∀ ticket ∈ Stage.ticket? progress.stage,
    Registered cluster.store ticket
  spent : ∀ sagaId stepId, executions sagaId stepId trace + notes.countP (armedFor sagaId stepId) ≤
    budget (cluster.store.effect? sagaId stepId)

section Steps

variable {progress : Progress Args} {sagaId stepId : String}

theorem budget_mono {old new : Option (Effect Args)} (moves : Moves old new) :
    budget old ≤ budget new := by
  cases moves with
  | stay => exact le_rfl
  | register record fresh => simp [budget]
  | move old state result error along =>
      have left : state ≠ .prepared := by
        rintro rfl
        cases shape : old.state <;> simp [shape, edge] at along
      simp only [budget, if_neg left]
      split <;> omega

def marks : StoreCall Args → Bool
  | .transitionEffect _ _ _ newState _ _ => newState = .executing
  | _ => false

theorem stage_note_store {request : StoreCall Args} (unmarked : marks request = false)
    (reply : Except PyError request.Answer) (stage : Stage Args) :
    Stage.note (.store request) reply stage = stage ∨
      ∀ ticket, Stage.note (.store request) reply stage ≠ .armed ticket := by
  cases request with
  | transitionEffect owner id expected newState result error =>
      left
      cases newState <;> first | rfl | (simp [marks] at unmarked)
  | stepAlreadyCommitted owner key =>
      rcases reply with error | (_ | _)
      · exact .inl rfl
      · exact .inr fun ticket => nofun
      · exact .inl rfl
  | prepareEffect =>
      right
      intro ticket
      cases reply <;> exact nofun
  | commitEffect =>
      cases reply with
      | error error => exact .inl rfl
      | ok answer => exact .inr fun ticket => nofun
  | writeTransactionState =>
      right
      intro ticket
      cases stage <;> exact nofun
  | _ => exact .inl rfl

def Affords (sagaId stepId : String) (request : Call Args) (before after : Progress Args)
    (old new : Option (Effect Args)) : Prop :=
  (executes sagaId stepId request).toNat + (armedFor sagaId stepId after).toNat + budget old ≤
    (armedFor sagaId stepId before).toNat + budget new

theorem Kept.advance {before after : Cluster Args} {trace : List (Event (coordinatorFace Args))}
    {left right : List (Progress Args)} {next : Progress Args} {request : Call Args}
    {reply : Except PyError request.Answer}
    (kept : Kept before trace (left ++ progress :: right))
    (moves : ∀ sagaId stepId,
      Moves (before.store.effect? sagaId stepId) (after.store.effect? sagaId stepId))
    (tickets : ∀ ticket ∈ Stage.ticket? next.stage, Registered after.store ticket)
    (affords : ∀ sagaId stepId, Affords sagaId stepId request progress next
      (before.store.effect? sagaId stepId) (after.store.effect? sagaId stepId)) :
    Kept after (trace ++ [⟨request, reply⟩]) (left ++ next :: right) := by
  constructor
  · have known : ∀ other ∈ left ++ progress :: right, ∀ ticket ∈ Stage.ticket? other.stage,
        Registered after.store ticket :=
      fun other earlier ticket holds =>
        registered_moves (kept.registered other earlier ticket holds) (moves _ _)
    exact Setting.every_replaced known tickets
  · intro sagaId stepId
    exact budget_advance _ _ (kept.spent sagaId stepId) (affords sagaId stepId)

variable [DecidableEq Args]

/-- A mark arms the call and moves its record out of `PREPARED`. -/
theorem affords_mark {store : Store Args} {owner id : String} {expected : List EffectState}
    {result : Option Args} {error : Option String}
    (here : Progress.allowed
      (.store (.transitionEffect owner id expected .executing result error)) progress) :
    let request : StoreCall Args := .transitionEffect owner id expected .executing result error
    Affords sagaId stepId (.store request) progress
      (progress.note (.store request) (request.serve store).1) (store.effect? sagaId stepId)
      ((request.serve store).2.effect? sagaId stepId) := by
  intro request
  have moves := serve_moves store request here sagaId stepId
  obtain ⟨ticket, prepared, rfl, rfl⟩ := here.2 rfl
  rcases store.transition_effect_cases ticket.sagaId ticket.stepId expected .executing result error
    with ⟨entry, found, legal, same⟩ | ⟨_, refusal, same⟩
  · have fresh : entry.state = .prepared := by
      have along := here.1 _ legal
      cases shape : entry.state <;> simp_all [edge]
    by_cases mine : ticket.sagaId = sagaId ∧ ticket.stepId = stepId
    · obtain ⟨rfl, rfl⟩ := mine
      have ownId : entry.stepId = ticket.stepId := Table.find_key found
      simp [Affords, request, StoreCall.serve, same, executes, armedFor, Progress.note, Stage.note,
        prepared, found, budget, fresh, ownId]
    · have armed : armedFor sagaId stepId
          (progress.note (.store request) (request.serve store).1) = false := by
        simpa [request, StoreCall.serve, same, armedFor, Progress.note, Stage.note, prepared]
          using mine
      have grown := budget_mono moves
      simp only [Affords, armed, executes, Bool.toNat_false]
      exact Nat.le_trans (by omega) (Nat.add_le_add_left grown _)
  · have armed : armedFor sagaId stepId
        (progress.note (.store request) (request.serve store).1) = false := by
      simp [request, StoreCall.serve, same, armedFor, Progress.note, Stage.note, prepared]
    have grown := budget_mono moves
    simp only [Affords, armed, executes, Bool.toNat_false]
    exact Nat.le_trans (by omega) (Nat.add_le_add_left grown _)

theorem affords_store {store : Store Args} {request : StoreCall Args}
    (here : Progress.allowed (.store request) progress) :
    Affords sagaId stepId (.store request) progress
      (progress.note (.store request) (request.serve store).1) (store.effect? sagaId stepId)
      ((request.serve store).2.effect? sagaId stepId) := by
  cases marked : marks request with
  | true =>
      cases request with
      | transitionEffect owner id expected newState result error =>
          obtain rfl : newState = .executing := by simpa [marks] using marked
          exact affords_mark here
      | _ => cases marked
  | false =>
      have grown := budget_mono (serve_moves store request here sagaId stepId)
      have armed : armedFor sagaId stepId (progress.note (.store request) (request.serve store).1) =
          true → armedFor sagaId stepId progress = true := by
        intro armed
        rcases stage_note_store marked (request.serve store).1 progress.stage with same | disarmed
        · simpa [armedFor, Progress.note, same] using armed
        · simp only [armedFor, Progress.note] at armed
          cases armed
      simp only [Affords, executes, Bool.toNat_false]
      cases now : armedFor sagaId stepId (progress.note (.store request) (request.serve store).1) with
      | false =>
          simp only [Bool.toNat_false]
          omega
      | true =>
          rw [armed now]
          omega

theorem kept_call {before after : Cluster Args} {trace : List (Event (coordinatorFace Args))}
    {left right : List (Progress Args)} {owner : Nat} {request : Call Args}
    {reply : Except PyError request.Answer}
    (kept : Kept before trace (left ++ progress :: right))
    (here : Progress.allowed request progress)
    (served : serveInCluster owner request before reply after) :
    Kept after (trace ++ [⟨request, reply⟩]) (left ++ progress.note request reply :: right) := by
  have own := kept.registered progress List.mem_append_cons_self
  apply kept.advance (journal_moves (Progress.allowed_along here) served)
  · exact fun ticket holds => registered_call own here served holds
  · intro sagaId stepId
    rcases request with request | request | request
    · obtain ⟨-, rfl⟩ := served
      simp [Affords, executes, armedFor, Progress.note, Stage.note]
    · obtain ⟨rfl, rfl⟩ := served
      exact affords_store here
    · obtain rfl := served
      cases request with
      | execute owner step =>
          have armed : progress.stage = .armed (step.ticket owner) := here
          rcases reply with error | result
          · simp [Affords, executes, armedFor, Progress.note, Stage.note, armed, SagaStep.ticket]
          · cases succeeded : result.succeeded <;>
              simp [Affords, executes, armedFor, Progress.note, Stage.note, armed, succeeded,
                SagaStep.ticket]
      | _ => simp [Affords, executes, armedFor, Progress.note, Stage.note]

end Steps

section Runs

variable [DecidableEq Args] [Inhabited Args]

abbrev workers : Setting (coordinatorFace Args) PyError Unit Nat (Progress Args) (Cluster Args) :=
  cluster (fun _ => True) True fun _ _ _ _ => True

theorem workers_keep :
    (workers : Setting (coordinatorFace Args) PyError Unit Nat _ _).Invariant Progress.allowed
      Kept := by
  constructor
  · intro shared trace notes kept
    constructor
    · exact List.forall_mem_append.mpr ⟨kept.registered, List.forall_mem_singleton.mpr nofun⟩
    · intro sagaId stepId
      have spent := kept.spent sagaId stepId
      rw [count_snoc]
      exact spent
  · exact fun kept here _ served => kept_call kept here served
  · rintro shared after trace notes survivors owner kept subset ⟨-, rfl⟩
    constructor
    · exact fun progress member => kept.registered progress (subset.subset member)
    · intro sagaId stepId
      have fewer := subset.countP_le (p := armedFor sagaId stepId)
      have spent := kept.spent sagaId stepId
      exact Nat.le_trans (Nat.add_le_add_left fewer _) spent

theorem step_moves
    {before after : Pool (coordinatorFace Args) PyError Unit Nat (Progress Args) (Cluster Args)}
    (sound : workers.Sound Progress.allowed Kept before) (taken : workers.Step before after)
    (sagaId stepId : String) :
    Moves (before.shared.store.effect? sagaId stepId) (after.shared.store.effect? sagaId stepId) := by
  cases taken with
  | spawn => exact .stay _
  | call permitted served =>
      rename_i left right owner request next noted reply trace
      have here := (sound.obeys _ List.mem_append_cons_self).1
      exact journal_moves (Progress.allowed_along here) served sagaId stepId
  | crash lost =>
      obtain ⟨-, rfl⟩ := lost
      exact .stay _

/-- In every reachable pool: the next step moves records along the diagram only
and leaves no final state, no action ran twice for one record, and a call about
to run an action has its record registered. -/
theorem journal_protocol_safe {memories : Nat → Memory Args}
    {pool : Pool (coordinatorFace Args) PyError Unit Nat (Progress Args) (Cluster Args)}
    (reached : workers.Reachable ⟨.empty, memories⟩ pool) :
    (∀ after, workers.Step pool after → ∀ sagaId stepId old,
      pool.shared.store.effect? sagaId stepId = some old →
        ∃ new, after.shared.store.effect? sagaId stepId = some new ∧
          (new.state = old.state ∨ edge old.state new.state = true) ∧
          (old.state = .aborted ∨ old.state = .compensated ∨ old.state = .compensationFailed →
            new.state = old.state)) ∧
      (∀ sagaId stepId, executions sagaId stepId pool.trace ≤ 1) ∧
      ∀ thread ∈ pool.threads, ∀ sagaId step next,
        thread.program = .call (.outside (.execute sagaId step)) next →
          ∃ record, pool.shared.store.effect? sagaId step.stepId = some record ∧
            record.action = step.action ∧ record.compensation = step.compensation := by
  have sound := Setting.reachable_sound workers_keep cluster_obeys
    ⟨fun _ member => absurd member List.not_mem_nil, fun _ _ => Nat.zero_le _⟩ reached
  refine ⟨?_, ?_, ?_⟩
  · intro after taken sagaId stepId old found
    have moves := step_moves sound taken sagaId stepId
    rw [found] at moves
    generalize arrived : after.shared.store.effect? sagaId stepId = now at moves
    cases moves with
    | stay => exact ⟨old, rfl, .inl rfl, fun _ => rfl⟩
    | move old state result error along =>
        refine ⟨_, rfl, .inr along, ?_⟩
        rintro (final | final | final) <;> simp [final, edge] at along
  · intro sagaId stepId
    have spent := sound.holds.spent sagaId stepId
    have capped : budget (pool.shared.store.effect? sagaId stepId) ≤ 1 := by
      unfold budget
      split
      · split <;> omega
      · omega
    omega
  · intro thread member sagaId step next calls
    have obeys := sound.obeys thread member
    rw [calls] at obeys
    have armed : thread.noted.stage = .armed (step.ticket sagaId) := obeys.1
    have noted := List.mem_map_of_mem (f := Thread.noted) member
    obtain ⟨record, found, action, compensation, _⟩ :=
      sound.holds.registered _ noted (step.ticket sagaId) (by rw [armed]; rfl)
    exact ⟨record, found, action, compensation⟩

/-- Two coordinators that hold one saga run the same step of it, call by call. -/
def contest : Pool (coordinatorFace Unit) PyError Unit Nat (Progress Unit) (Cluster Unit) :=
  rehearsed workers (fun _ _ _ _ => true) accepting
    [(0, .execute "s" [sampleStep "a" none]), (1, .execute "s" [sampleStep "a" none])]
    [0, 1, 0, 1, 0, 1, 0, 1, 0, 1, 0, 1, 0, 1, 0, 1]

theorem contest_executes_once : executions "s" "a" contest.trace ≤ 1 := by
  have reached : workers.Reachable ⟨.empty, fun _ => sampleMemory⟩ contest :=
    rehearsed_reachable (fun _ _ _ _ _ => trivial) accepting (fun _ _ => trivial) _
  exact (journal_protocol_safe reached).2.1 "s" "a"

example : executions "s" "a" contest.trace = 1 := by decide

end Runs

end SagaMind.JournalProtocol
