import SagaMind.Coordinator.Protocol
import SagaMind.Coordinator.Sequential

/-!
# Coordinators that share one store

Any number of coordinators work on one store. Each has its own memory, which
the threads it runs share. A call of the store or of a memory is atomic; the
verifier and the sandbox may answer or raise anything.
-/

namespace SagaMind

open CallProgram KeyedTable Coordinator

set_option autoImplicit false

variable {Args : Type}

structure Cluster (Args : Type) where
  store : Store Args
  /-- The memory of each coordinator. -/
  memories : Nat → Memory Args

def serveInCluster [DecidableEq Args] (owner : Nat) : (request : Call Args) → Cluster Args →
    Except PyError request.Answer → Cluster Args → Prop
  | .memory request, before, reply, after =>
      let served := request.serve (before.memories owner)
      reply = .ok served.1 ∧
        after = { before with memories := Function.update before.memories owner served.2 }
  | .store request, before, reply, after =>
      reply = (request.serve before.store).1 ∧
        after = { before with store := (request.serve before.store).2 }
  | .outside _, before, _, after => after = before

/-- The calls that operators make of journaled coordinators over one store,
those among them that `admits` admits, each call of which `permits` permits.
A coordinator that dies comes back with an empty memory. -/
def cluster [DecidableEq Args] [Inhabited Args] (admits : ApiCall Args → Prop)
    (crashes : Prop)
    (permits : Cluster Args → List (Progress Args) → Progress Args → Call Args → Prop) :
    Setting (coordinatorFace Args) PyError Unit Nat (Progress Args) (Cluster Args) where
  admits := fun _ program => ∃ (self : Coordinator) (request : ApiCall Args),
    self.store = .journaled ∧ admits request ∧ program = request.program self
  serve := serveInCluster
  lose := fun owner before after => crashes ∧
    after = { before with memories := Function.update before.memories owner .empty }
  start := {}
  note := Progress.note
  permits := permits

/-- Every call of an operator but `recover`, in any number, on one live store. -/
abbrev submissions [DecidableEq Args] [Inhabited Args]
    (permits : Cluster Args → List (Progress Args) → Progress Args → Call Args → Prop) :
    Setting (coordinatorFace Args) PyError Unit Nat (Progress Args) (Cluster Args) :=
  cluster (· ≠ .recover) False permits

section Rules

variable [DecidableEq Args] [Inhabited Args] {admits : ApiCall Args → Prop} {crashes : Prop}
  {permits : Cluster Args → List (Progress Args) → Progress Args → Call Args → Prop}

theorem cluster_obeys (owner : Nat) (program : Action Args Unit)
    (admitted : (cluster admits crashes permits).admits owner program) :
    (cluster admits crashes permits).Obeys Progress.allowed program {} := by
  obtain ⟨self, request, journaled, _, rfl⟩ := admitted
  exact disciplined_api_call journaled request rfl

/-- Calls other than `recover` never list the incomplete sagas. -/
theorem cluster_obeys_live (live : ∀ request, admits request → request ≠ .recover) (owner : Nat)
    (program : Action Args Unit)
    (admitted : (cluster admits crashes permits).admits owner program) :
    (cluster admits crashes permits).Obeys
      (fun request noted => Progress.allowed request noted ∧ request ≠ .store .listIncomplete)
      program {} := by
  obtain ⟨self, request, journaled, listed, rfl⟩ := admitted
  have confined : ∃ sagaId, request.sagaId? = some sagaId := by
    cases request with
    | recover => exact absurd rfl (live _ listed)
    | _ => exact ⟨_, rfl⟩
  obtain ⟨sagaId, own⟩ := confined
  have uses : Uses (fun request : Call Args => request ≠ .store .listIncomplete)
      (request.program self) := by
    apply uses_mono _ (request.confined_program self own)
    rintro _ single rfl
    exact single.1 rfl
  have idle : ({} : Progress Args).stage = .idle := rfl
  exact wp_uses uses (disciplined_api_call journaled request idle)

end Rules

section Schedules

def answerInCluster [DecidableEq Args]
    (outcome : (request : OutsideCall Args) → Except PyError request.Answer) (owner : Nat) :
    (request : Call Args) → Cluster Args → Except PyError request.Answer × Cluster Args
  | .memory request, before =>
      let served := request.serve (before.memories owner)
      (.ok served.1, { before with memories := Function.update before.memories owner served.2 })
  | .store request, before =>
      ((request.serve before.store).1, { before with store := (request.serve before.store).2 })
  | .outside request, before => (outcome request, before)

theorem answer_in_cluster_honest [DecidableEq Args]
    (outcome : (request : OutsideCall Args) → Except PyError request.Answer) (owner : Nat)
    (request : Call Args) (before : Cluster Args) :
    serveInCluster owner request before (answerInCluster outcome owner request before).1
      (answerInCluster outcome owner request before).2 := by
  rcases request with request | request | request
  · exact ⟨rfl, rfl⟩
  · exact ⟨rfl, rfl⟩
  · exact rfl

def accepting : (request : OutsideCall Unit) → Except PyError request.Answer
  | .verify .. => .ok (true, "")
  | .validate _ => .ok ()
  | .execute .. => .ok (.dict ())
  | .executeCompensation .. => .ok true
  | .resolveEffect _ => .ok (.bool true)
  | .resolveCompensation _ => .ok (.bool true)
  | .executeIdempotent .. => .ok (.dict ())

def raising : (request : OutsideCall Unit) → Except PyError request.Answer
  | .execute .. => .error (.external "connection lost")
  | request => accepting request

/-- The sandbox raises in the middle of action `b`, and compensations fail. -/
def failing : (request : OutsideCall Unit) → Except PyError request.Answer
  | .execute _ step =>
      if step.stepId = "b" then .error (.external "connection lost") else .ok (.dict ())
  | .executeCompensation .. => .ok false
  | request => accepting request

def sampleStep (stepId : String) (key : Option String) : SagaStep Unit where
  stepId := stepId
  stepName := stepId
  action := ⟨"pay", ()⟩
  compensation := ⟨"refund", ()⟩
  invariants := ""
  idempotencyKey := key

def sampleWorker : Coordinator where
  store := .journaled

def sampleMemory : Memory Unit where
  active := Table.empty.put { sagaId := "s", tenantId := "", goal := "" }
  released := .empty

/-- Operators make these calls of coordinators that hold the saga, and the
threads run in this order as far as the check lets them. -/
def rehearsed (setting : Setting (coordinatorFace Unit) PyError Unit Nat (Progress Unit) (Cluster Unit))
    (check : Cluster Unit → List (Progress Unit) → Progress Unit → Call Unit → Bool)
    (outcome : (request : OutsideCall Unit) → Except PyError request.Answer)
    (requests : List (Nat × ApiCall Unit)) (order : List Nat) :
    Pool (coordinatorFace Unit) PyError Unit Nat (Progress Unit) (Cluster Unit) :=
  scheduled setting (answerInCluster outcome) check ⟨.empty, fun _ => sampleMemory⟩
    (requests.map fun entry => (entry.1, entry.2.program sampleWorker)) order

theorem rehearsed_reachable {admits : ApiCall Unit → Prop} {crashes : Prop}
    {permits : Cluster Unit → List (Progress Unit) → Progress Unit → Call Unit → Prop}
    {check : Cluster Unit → List (Progress Unit) → Progress Unit → Call Unit → Bool}
    (sound : ∀ shared others noted request, check shared others noted request = true →
      permits shared others noted request)
    (outcome : (request : OutsideCall Unit) → Except PyError request.Answer)
    {requests : List (Nat × ApiCall Unit)} (admitted : ∀ entry ∈ requests, admits entry.2)
    (order : List Nat) :
    (cluster admits crashes permits).Reachable ⟨.empty, fun _ => sampleMemory⟩
      (rehearsed (cluster admits crashes permits) check outcome requests order) := by
  apply scheduled_reachable
  · exact answer_in_cluster_honest outcome
  · exact sound
  · intro entry member
    obtain ⟨request, listed, rfl⟩ := List.mem_map.mp member
    exact ⟨sampleWorker, request.2, rfl, admitted request listed, rfl⟩

end Schedules

section Records

variable [DecidableEq Args] {progress : Progress Args}

/-- What one call may do to one record: nothing, register it, or move it along
the diagram. Its identity never changes. -/
inductive Moves : Option (Effect Args) → Option (Effect Args) → Prop
  | stay (record : Option (Effect Args)) : Moves record record
  | register (record : Effect Args) (fresh : record.state = .prepared) : Moves none (some record)
  | move (old : Effect Args) (state : EffectState) (result : Option Args) (error : Option String)
      (along : edge old.state state = true) :
      Moves (some old) (some { old with state, result, error })

def StoreCall.alongDiagram : StoreCall Args → Prop
  | .transitionEffect _ _ expected newState _ _ => ∀ state ∈ expected, edge state newState = true
  | _ => True

def Call.alongDiagram : Call Args → Prop
  | .store request => request.alongDiagram
  | _ => True

theorem ApiCall.along_program [Inhabited Args] {self : Coordinator}
    (journaled : self.store = .journaled) (request : ApiCall Args) :
    Uses Call.alongDiagram (request.program self) := by
  have idle : ({} : Progress Args).stage = .idle := rfl
  apply uses_of_wp _ _ (disciplined_api_call journaled request idle)
  · intro request progress here
    rcases request with request | request | request
    · trivial
    · cases request with
      | transitionEffect => exact here.1
      | _ => trivial
    · trivial
  · exact fun request before reply => ⟨_, rfl⟩

omit [DecidableEq Args] in
theorem moves_put {store : Store Args} {sagaId stepId : String} {entry moved : Effect Args}
    (found : store.effect? sagaId stepId = some entry) (same : moved.stepId = entry.stepId)
    (moves : Moves (some entry) (some moved)) (other id : String) :
    Moves (store.effect? other id) ((store.putEffect sagaId moved).effect? other id) := by
  have owner : entry.stepId = stepId := Table.find_key found
  rw [Store.effect_put_effect]
  split
  · rename_i both
    rw [both.1, ← both.2, same, owner, found]
    exact moves
  · exact .stay _

theorem along_moves (store : Store Args) (request : StoreCall Args)
    (along : request.alongDiagram) (sagaId stepId : String) :
    Moves (store.effect? sagaId stepId) ((request.serve store).2.effect? sagaId stepId) := by
  cases request with
  | prepareEffect owner id stepName action compensation key =>
      rcases store.prepare_effect_cases owner id stepName action compensation key with
        ⟨_, _, _, same⟩ | ⟨_, same⟩ | ⟨entry, absent, shape, same⟩ <;> rw [StoreCall.serve, same]
      · exact .stay _
      · exact .stay _
      · rw [Store.effect_put_effect]
        split
        · rename_i both
          have fresh : store.effect? sagaId stepId = none := by
            rw [both.1, ← both.2, shape]
            exact absent
          rw [fresh]
          exact .register entry (by rw [shape])
        · exact .stay _
  | transitionEffect owner id expected newState result error =>
      rcases store.transition_effect_cases owner id expected newState result error with
        ⟨entry, found, legal, same⟩ | ⟨_, _, same⟩ <;> rw [StoreCall.serve, same]
      · apply moves_put found
        · rfl
        · exact .move entry newState result error (along _ legal)
      · exact .stay _
  | commitEffect owner id key =>
      rcases store.commit_effect_cases owner id key with
        ⟨entry, found, legal, same⟩ | ⟨_, _, same⟩ <;> rw [StoreCall.serve, same]
      · rw [Store.effect_publish]
        apply moves_put found
        · rfl
        · exact .move entry .committed entry.result entry.error (by rw [legal]; rfl)
      · exact .stay _
  | _ => exact .stay _

/-- The step lemma of the journal, for every call of a cluster. -/
theorem journal_moves {before after : Cluster Args} {owner : Nat} {request : Call Args}
    {reply : Except PyError request.Answer} (along : request.alongDiagram)
    (served : serveInCluster owner request before reply after) (sagaId stepId : String) :
    Moves (before.store.effect? sagaId stepId) (after.store.effect? sagaId stepId) := by
  rcases request with request | request | request
  · obtain ⟨-, rfl⟩ := served
    exact .stay _
  · obtain ⟨-, rfl⟩ := served
    exact along_moves _ request along sagaId stepId
  · obtain rfl := served
    exact .stay _

omit [DecidableEq Args] in
theorem Progress.allowed_along {request : Call Args} (here : Progress.allowed request progress) :
    request.alongDiagram := by
  rcases request with _ | request | _
  · trivial
  · cases request with
    | transitionEffect => exact here.1
    | _ => trivial
  · trivial

theorem serve_moves (store : Store Args) (request : StoreCall Args)
    (here : Progress.allowed (.store request) progress) (sagaId stepId : String) :
    Moves (store.effect? sagaId stepId) ((request.serve store).2.effect? sagaId stepId) :=
  along_moves store request (Progress.allowed_along here) sagaId stepId

end Records

section Tickets

def Stage.ticket? : Stage Args → Option (Ticket Args)
  | .prepared ticket => some ticket
  | .armed ticket => some ticket
  | .ran ticket => some ticket
  | _ => none

def Registered (store : Store Args) (ticket : Ticket Args) : Prop :=
  ∃ record, store.effect? ticket.sagaId ticket.stepId = some record ∧
    record.action = ticket.action ∧ record.compensation = ticket.compensation ∧
    record.idempotencyKey = ticket.idempotencyKey

theorem registered_moves {before after : Store Args} {ticket : Ticket Args}
    (registered : Registered before ticket)
    (moves : Moves (before.effect? ticket.sagaId ticket.stepId)
      (after.effect? ticket.sagaId ticket.stepId)) : Registered after ticket := by
  obtain ⟨record, found, same⟩ := registered
  rw [found] at moves
  generalize arrived : after.effect? ticket.sagaId ticket.stepId = now at moves
  cases moves with
  | stay => exact ⟨record, arrived, same⟩
  | move old state result error along => exact ⟨_, arrived, same⟩

variable [DecidableEq Args]

/-- A ticket after a store call is an old one, or its record was just prepared. -/
theorem registered_note {store : Store Args} (request : StoreCall Args) (stage : Stage Args)
    {ticket : Ticket Args}
    (holds : ticket ∈ Stage.ticket? (Stage.note (.store request) (request.serve store).1 stage)) :
    ticket ∈ Stage.ticket? stage ∨ Registered (request.serve store).2 ticket := by
  cases request with
  | prepareEffect owner id stepName action compensation key =>
      simp only [StoreCall.serve] at holds ⊢
      rcases store.prepare_effect_cases owner id stepName action compensation key with
        ⟨existing, found, agrees, same⟩ | ⟨refusal, same⟩ | ⟨entry, absent, shape, same⟩ <;>
        rw [same] at holds ⊢
      · obtain rfl := Option.some.inj holds
        simp only [Store.sameEffect, decide_eq_true_eq] at agrees
        exact .inr ⟨existing, found, agrees.2⟩
      · cases holds
      · obtain rfl := Option.some.inj holds
        exact .inr ⟨entry, by simp [shape], by simp [shape]⟩
  | transitionEffect owner id expected newState result error =>
      left
      generalize (StoreCall.serve _ store).1 = reply at holds
      cases newState <;> cases reply <;> cases stage <;> first | exact holds | cases holds
  | stepAlreadyCommitted owner key =>
      left
      generalize (StoreCall.serve _ store).1 = reply at holds
      rcases reply with error | (_ | _) <;> first | exact holds | cases holds
  | commitEffect =>
      left
      generalize (StoreCall.serve _ store).1 = reply at holds
      cases reply <;> first | exact holds | cases holds
  | writeTransactionState =>
      left
      cases stage <;> first | exact holds | cases holds
  | _ => exact .inl holds

/-- The step lemma of tickets: what a call holds a ticket for is registered. -/
theorem registered_call {before after : Cluster Args} {progress : Progress Args} {owner : Nat}
    {request : Call Args} {reply : Except PyError request.Answer}
    (registered : ∀ ticket ∈ Stage.ticket? progress.stage, Registered before.store ticket)
    (here : Progress.allowed request progress)
    (served : serveInCluster owner request before reply after) {ticket : Ticket Args}
    (holds : ticket ∈ Stage.ticket? (progress.note request reply).stage) :
    Registered after.store ticket := by
  have moves := journal_moves (Progress.allowed_along here) served
  rcases request with request | request | request
  · exact registered_moves (registered ticket holds) (moves _ _)
  · obtain ⟨rfl, rfl⟩ := served
    rcases registered_note request progress.stage holds with old | fresh
    · exact registered_moves (registered ticket old) (moves _ _)
    · exact fresh
  · apply registered_moves (registered ticket _) (moves _ _)
    cases request with
    | execute sagaId step =>
        have armed : progress.stage = .armed (step.ticket sagaId) := here
        rcases reply with error | result
        · simp [Progress.note, Stage.note, armed, Stage.ticket?] at holds
        · simp only [Progress.note, Stage.note, armed] at holds
          rw [armed]
          split at holds
          · exact holds
          · cases holds
    | _ => exact holds

end Tickets

end SagaMind
