import SagaMind.Coordinator.Cluster
import SagaMind.Coordinator.Tenancy
import SagaMind.Foundation.Pool
import SagaMind.Gateway.Endpoints
import SagaMind.GatewayAccess

/-!
# Tenants are kept apart at the gateways

Requests of any number of callers run at the same time over one coordinator and
one store, and every call of every request may be followed by a call of another.
A key that is bound to a tenant reads and changes the sagas of that tenant only:
what others have stays as it is, but for sagas that are over and may be evicted.
Identities of sagas are taken to be unique, so that each belongs to one tenant.
-/

namespace SagaMind.GatewayIsolation

open CallProgram KeyedTable Coordinator Gateway
open GatewayAccess (Entitled)

set_option autoImplicit false

variable {Args World : Type}

/-- What a request has been answered so far. -/
structure Notes (Args : Type) where
  /-- The sagas that were looked up, each under the identity that was asked for. -/
  seen : List (String × SagaTransaction Args)
  histories : List (String × List (HistoryEntry Args))
  letters : List DeadLetter

namespace Notes

def empty : Notes Args := ⟨[], [], []⟩

def addLetters (notes : Notes Args) (entries : List DeadLetter) : Notes Args :=
  { notes with letters := entries ++ notes.letters }

def add : (request : (gatewayFace Args).Call) → (gatewayFace Args).Reply request → Notes Args →
    Notes Args
  | .inl (.memory (.lookupSaga sagaId)), .ok (some saga), notes =>
      { notes with seen := (sagaId, saga) :: notes.seen }
  | .inr (.history sagaId), .ok entries, notes =>
      { notes with histories := (sagaId, entries) :: notes.histories }
  | .inr (.deadLetters _), .ok entries, notes => notes.addLetters entries
  | _, _, notes => notes

theorem seen_add {request : (gatewayFace Args).Call} {reply : (gatewayFace Args).Reply request}
    {notes : Notes Args} {entry : String × SagaTransaction Args} (member : entry ∈ notes.seen) :
    entry ∈ (notes.add request reply).seen := by
  unfold add
  split
  · exact List.mem_cons_of_mem _ member
  · exact member
  · exact member
  · exact member

end Notes

section Discipline

variable (tenantOf : String → String) (settings : Settings)

def Knows (notes : Notes Args) (sagaId tenantId : String) : Prop :=
  tenantOf sagaId = tenantId ∨ ∃ saga, (sagaId, saga) ∈ notes.seen ∧ saga.tenantId = tenantId

def Grants (key : Option String) (notes : Notes Args) (sagaId : String) : Prop :=
  ∃ tenantId, Knows tenantOf notes sagaId tenantId ∧ Entitled settings key tenantId

/-- The calls of a request: it looks sagas up, and works on one that is granted. -/
def Allowed (key : Option String) : (gatewayFace Args).Call → Notes Args → Prop
  | .inl request, notes => (∃ sagaId, request = .memory (.lookupSaga sagaId)) ∨
      ∃ sagaId tenantId, Knows tenantOf notes sagaId tenantId ∧ Entitled settings key tenantId ∧
        OwnCall sagaId tenantId request
  | .inr (.history sagaId), notes => Grants tenantOf settings key notes sagaId
  | .inr (.status sagaId), notes => Grants tenantOf settings key notes sagaId
  | .inr (.deadLetters boundTenant), _ =>
      requireApiKey settings key = .ok () ∧ boundTenant = getBoundTenant settings key

def Accounts (key : Option String) : Response Args → Notes Args → Prop
  | .started sagaId, notes => Grants tenantOf settings key notes sagaId
  | .speculated sagaId, notes => Grants tenantOf settings key notes sagaId
  | .state shown, notes => ∃ sagaId saga, (sagaId, saga) ∈ notes.seen ∧ shown = shownState saga ∧
      Grants tenantOf settings key notes sagaId
  | .events events, notes => ∀ shown ∈ events, ∃ sagaId saga, (sagaId, saga) ∈ notes.seen ∧
      shown = shownState saga ∧ Grants tenantOf settings key notes sagaId
  | .history sagaId entries, notes => (sagaId, entries) ∈ notes.histories ∧
      Grants tenantOf settings key notes sagaId
  | .letters entries, notes => ∀ letter ∈ entries, letter ∈ notes.letters
  | _, _ => True

variable [DecidableEq Args] [Inhabited Args] (self : Coordinator) (outside : Outside Args World)

/-- Requests at the gateways. An identity is given to one saga of one tenant. -/
def gateways : Setting (gatewayFace Args) Raised (Response Args) (Option String) (Notes Args)
    (System Args World) where
  admits := fun key program => ∃ request limited,
    program = Request.program self settings key limited request ∧
      ∀ started ∈ request.starts?, tenantOf started.1 = started.2
  serve := fun _ request before reply after =>
    match request, reply with
    | .inl request, reply => serveCall outside request before reply after
    | .inr query, reply => reply = .ok (query.serve before) ∧ after = before
  lose := fun _ _ _ => False
  start := .empty
  note := Notes.add
  permits := fun _ _ _ _ => True

end Discipline

section Serving

variable {tenantOf : String → String} {settings : Settings} {key : Option String}

theorem knows_add {notes : Notes Args} {sagaId tenantId : String}
    {request : (gatewayFace Args).Call} {reply : (gatewayFace Args).Reply request}
    (knows : Knows tenantOf notes sagaId tenantId) :
    Knows tenantOf (notes.add request reply) sagaId tenantId := by
  rcases knows with own | ⟨saga, member, same⟩
  · exact .inl own
  · exact .inr ⟨saga, Notes.seen_add member, same⟩

theorem grants_mono {notes after : Notes Args} {sagaId : String} (more : notes.seen ⊆ after.seen)
    (grants : Grants tenantOf settings key notes sagaId) :
    Grants tenantOf settings key after sagaId := by
  obtain ⟨tenantId, own | ⟨saga, member, same⟩, entitled⟩ := grants
  · exact ⟨tenantId, .inl own, entitled⟩
  · exact ⟨tenantId, .inr ⟨saga, more member, same⟩, entitled⟩

variable [DecidableEq Args] [Inhabited Args] {self : Coordinator} {outside : Outside Args World}

abbrev disciplined (tenantOf : String → String) (settings : Settings) (key : Option String)
    (self : Coordinator) (outside : Outside Args World) : Machine (gatewayFace Args) (Notes Args) :=
  (gateways tenantOf settings self outside).discipline (Allowed tenantOf settings key)

theorem wp_coordinate {Value : Type} {action : Action Args Value} {handled : PyError → Raised}
    {sagaId tenantId : String} (uses : Uses (OwnCall sagaId tenantId) action) {notes : Notes Args}
    (knows : Knows tenantOf notes sagaId tenantId) (entitled : Entitled settings key tenantId)
    {post : Value → Notes Args → Prop}
    (ends : ∀ value after, Knows tenantOf after sagaId tenantId → post value after) :
    wp (disciplined tenantOf settings key self outside) (coordinate action handled) post
      (fun _ _ => True) notes := by
  rw [coordinate, wp_attempt, wp_lift]
  have works := @wp_maintains (coordinatorFace Args) (Notes Args) PyError Value
    (disciplined tenantOf settings key self outside).inner (OwnCall sagaId tenantId)
    (fun notes => Knows tenantOf notes sagaId tenantId)
    (fun _ _ own knows => .inr ⟨sagaId, tenantId, knows, entitled, own⟩)
    (fun _ _ _ _ _ knows taken => by
      obtain rfl := taken
      exact knows_add knows) action (fun _ => True) (fun _ => True) (uses ()) notes knows
  exact wp_mono works (fun value after ended => ends value after ended.2) fun _ _ _ => trivial

theorem wp_lookup {sagaId : String} {notes : Notes Args}
    {post : Option (SagaTransaction Args) → Notes Args → Prop} (unknown : post none notes)
    (known : ∀ saga, post (some saga) { notes with seen := (sagaId, saga) :: notes.seen }) :
    wp (disciplined tenantOf settings key self outside) (lookup sagaId) post (fun _ _ => True)
      notes := by
  rw [lookup, coordinate, wp_attempt, wp_lift]
  refine ⟨.inl ⟨sagaId, rfl⟩, ?_⟩
  rintro reply after rfl
  cases reply with
  | error error => trivial
  | ok found =>
      cases found with
      | none => exact unknown
      | some saga => exact known saga

theorem wp_ask {query : Query} {notes : Notes Args} {post : query.Answer Args → Notes Args → Prop}
    (permitted : Allowed tenantOf settings key (.inr query) notes)
    (answered : ∀ answer, post answer (notes.add (.inr query) (.ok answer))) :
    wp (disciplined tenantOf settings key self outside) (ask query) post (fun _ _ => True) notes := by
  rw [ask, wp_attempt]
  apply wp_further permitted
  · rintro answer after rfl
    exact answered answer
  · exact fun _ _ _ => trivial

theorem wp_demand {checked : Except Reply Unit} {notes : Notes Args}
    {post : Unit → Notes Args → Prop} (passed : (∀ code detail, checked ≠ .error (.failure code detail)) →
      post () notes) :
    wp (disciplined tenantOf settings key self outside) (demand checked) post (fun _ _ => True)
      notes := by
  unfold demand
  split
  · rename_i value
    refine passed ?_
    intro code detail same
    cases same
  · trivial
  · rename_i status
    refine passed ?_
    intro code detail same
    cases same

theorem require_passed (passed : ∀ code detail,
    requireApiKey settings key ≠ .error (.failure code detail)) :
    requireApiKey settings key = .ok () := by
  unfold requireApiKey at passed ⊢
  split at passed
  · rename_i disabled
    exact if_pos disabled
  · rename_i enabled
    rw [if_neg enabled]
    split at passed
    · split at passed
      · exact absurd rfl (passed _ _)
      · rename_i own known
        exact if_neg known
    · exact absurd rfl (passed _ _)

/-- A valid key may see the data of the tenant that it is bound to, and of any
tenant if it is bound to none. -/
theorem bound_entitled {tenantId : String} (valid : requireApiKey settings key = .ok ())
    (bound : ∀ tenant ∈ getBoundTenant settings key, tenant = tenantId) :
    Entitled settings key tenantId := by
  obtain ⟨_, rest, _⟩ := GatewayAccess.keys_admit_alike settings key tenantId
  apply rest.mp
  rw [restAccess, valid]
  exact GatewayAccess.enforce_iff.1.mpr bound

theorem enforce_entitled {tenantId : String} (valid : requireApiKey settings key = .ok ())
    (passed : ∀ code detail, enforceTenantAccess (getBoundTenant settings key) tenantId ≠
      .error (.failure code detail)) : Entitled settings key tenantId := by
  apply bound_entitled valid
  intro bound member
  by_contra apart
  exact passed _ _ (GatewayAccess.enforce_iff.2.1.mpr ⟨bound, member, apart⟩)

theorem authorized_entitled {tenantId : String}
    (authorized : authorizeKey settings key tenantId = true) : Entitled settings key tenantId :=
  (GatewayAccess.keys_admit_alike settings key tenantId).1.mp authorized

abbrev Answers (tenantOf : String → String) (settings : Settings) (key : Option String)
    (self : Coordinator) (outside : Outside Args World) (endpoint : Endpoint Args (Response Args))
    (notes : Notes Args) : Prop :=
  wp (disciplined tenantOf settings key self outside) endpoint (Accounts tenantOf settings key)
    (fun _ _ => True) notes

variable {notes : Notes Args}

theorem answers_protect {limited : Bool} {endpoint : Option String → Endpoint Args (Response Args)}
    (answers : requireApiKey settings key = .ok () →
      Answers tenantOf settings key self outside (endpoint (getBoundTenant settings key)) notes) :
    Answers tenantOf settings key self outside (Request.protect settings key limited endpoint)
      notes := by
  rw [Answers, Request.protect, wp_bind]
  apply wp_demand
  intro passed
  rw [wp_ite]
  split
  · trivial
  · exact answers (require_passed passed)

/-- What a REST endpoint does with a saga that it was asked for. -/
theorem answers_saga (valid : requireApiKey settings key = .ok ())
    {sagaId : String} {rest : SagaTransaction Args → Endpoint Args (Response Args)}
    (answers : ∀ saga after, (sagaId, saga) ∈ after.seen → Entitled settings key saga.tenantId →
      Answers tenantOf settings key self outside (rest saga) after) :
    Answers tenantOf settings key self outside (do
      let saga ← getSagaOr404 sagaId
      demand (enforceTenantAccess (getBoundTenant settings key) saga.tenantId)
      rest saga) notes := by
  rw [Answers, wp_bind, getSagaOr404, wp_bind]
  apply wp_lookup
  · trivial
  · intro saga
    change wp (disciplined tenantOf settings key self outside)
      (demand (enforceTenantAccess (getBoundTenant settings key) saga.tenantId) >>=
        fun _ => rest saga) (Accounts tenantOf settings key) (fun _ _ => True) _
    rw [wp_bind]
    apply wp_demand
    intro passed
    exact answers saga _ (List.mem_cons_self ..) (enforce_entitled valid passed)

theorem answers_authorized {sagaId : String}
    {rest : SagaTransaction Args → Endpoint Args (Response Args)}
    (answers : ∀ saga after, (sagaId, saga) ∈ after.seen → Entitled settings key saga.tenantId →
      Answers tenantOf settings key self outside (rest saga) after) :
    Answers tenantOf settings key self outside (authorizedSaga settings key sagaId >>= rest)
      notes := by
  rw [Answers, wp_bind, authorizedSaga, wp_bind]
  apply wp_lookup
  · trivial
  · intro saga
    dsimp only
    rw [wp_ite]
    split
    · rename_i authorized
      exact answers saga _ (List.mem_cons_self ..) (authorized_entitled authorized)
    · trivial

theorem wp_event_source {sagaId : String} (polls : ℕ) (last : Option SagaStatus)
    (grants : Grants tenantOf settings key notes sagaId) :
    wp (disciplined tenantOf settings key self outside) (eventSource sagaId polls last)
      (fun events after => Accounts tenantOf settings key (.events events) after ∧
        notes.seen ⊆ after.seen) (fun _ _ => True) notes := by
  induction polls generalizing notes last with
  | zero => exact ⟨fun _ member => absurd member List.not_mem_nil, fun _ member => member⟩
  | succ polls ih =>
      unfold eventSource
      rw [wp_bind]
      apply wp_lookup
      · exact ⟨fun _ member => absurd member List.not_mem_nil, fun _ member => member⟩
      · intro saga
        have larger : notes.seen ⊆ (sagaId, saga) :: notes.seen := List.subset_cons_self _ _
        have looked : ∀ after : Notes Args, (sagaId, saga) :: notes.seen ⊆ after.seen →
            ∀ shown ∈ (if some saga.status ≠ last then [shownState saga] else []),
              ∃ sagaId saga, (sagaId, saga) ∈ after.seen ∧ shown = shownState saga ∧
                Grants tenantOf settings key after sagaId := by
          intro after more shown member
          have same : shown = shownState saga := by
            split at member
            · exact List.mem_singleton.mp member
            · exact absurd member List.not_mem_nil
          exact ⟨sagaId, saga, more (List.mem_cons_self ..), same,
            grants_mono (List.Subset.trans larger more) grants⟩
        dsimp only
        rw [wp_ite]
        split
        · exact ⟨looked _ (List.Subset.refl _), larger⟩
        · rw [wp_bind]
          apply wp_mono (ih (some saga.status) (grants_mono larger grants))
          · intro later after ⟨accounts, more⟩
            refine ⟨?_, List.Subset.trans larger more⟩
            exact List.forall_mem_append.mpr ⟨looked after more, accounts⟩
          · exact fun _ _ _ => trivial

theorem start_saga_answers (valid : requireApiKey settings key = .ok ())
    {sagaId goal tenantId : String} (given : tenantOf sagaId = tenantId) :
    Answers tenantOf settings key self outside
      (startSaga self (getBoundTenant settings key) sagaId goal tenantId) notes := by
  rw [Answers, startSaga, wp_bind]
  apply wp_demand
  intro passed
  have entitled := enforce_entitled valid passed
  rw [wp_bind]
  apply wp_coordinate (self.own_start_transaction_log goal) (.inl given) entitled
  exact fun _ after knows => ⟨tenantId, knows, entitled⟩

theorem submit_step_answers (valid : requireApiKey settings key = .ok ())
    {sagaId : String} (proposed : Proposed Args) :
    Answers tenantOf settings key self outside
      (submitStep self (getBoundTenant settings key) sagaId proposed) notes := by
  apply answers_saga valid
  intro saga after member entitled
  cases proposed with
  | error refusal => trivial
  | ok step =>
      change wp (disciplined tenantOf settings key self outside)
        (coordinate (self.executeSaga sagaId [step]) (refusing 404) >>= _) _ _ after
      rw [wp_bind]
      apply wp_coordinate (self.own_execute_saga [step]) (.inr ⟨saga, member, rfl⟩) entitled
      intro success last knows
      have grants : Grants tenantOf settings key last sagaId := ⟨saga.tenantId, knows, entitled⟩
      rw [wp_bind]
      apply wp_ask
      · exact grants
      · intro status
        rw [wp_ite]
        split
        · trivial
        · rw [wp_ite]
          split
          · trivial
          · trivial

theorem saga_status_answers (valid : requireApiKey settings key = .ok ()) {sagaId : String} :
    Answers tenantOf settings key self outside
      (sagaStatus (getBoundTenant settings key) sagaId) notes := by
  apply answers_saga valid
  intro saga after member entitled
  exact ⟨sagaId, saga, member, rfl, saga.tenantId, .inr ⟨saga, member, rfl⟩, entitled⟩

theorem approve_saga_step_answers (valid : requireApiKey settings key = .ok ()) {sagaId : String} :
    Answers tenantOf settings key self outside
      (approveSagaStep self (getBoundTenant settings key) sagaId) notes := by
  apply answers_saga valid
  intro saga after member entitled
  rw [Answers, wp_bind]
  apply wp_coordinate self.own_resume_after_approval (.inr ⟨saga, member, rfl⟩) entitled
  intro success last knows
  rw [wp_ite]
  split
  · trivial
  · have grants : Grants tenantOf settings key last sagaId := ⟨saga.tenantId, knows, entitled⟩
    rw [wp_bind]
    apply wp_ask
    · exact grants
    · exact fun status => trivial

theorem reject_saga_step_answers (valid : requireApiKey settings key = .ok ()) {sagaId : String} :
    Answers tenantOf settings key self outside
      (rejectSagaStep self (getBoundTenant settings key) sagaId) notes := by
  apply answers_saga valid
  intro saga after member entitled
  rw [Answers, wp_bind]
  apply wp_coordinate self.own_reject_pending (.inr ⟨saga, member, rfl⟩) entitled
  exact fun _ _ _ => trivial

theorem saga_history_answers (valid : requireApiKey settings key = .ok ()) {sagaId : String} :
    Answers tenantOf settings key self outside
      (sagaHistory (getBoundTenant settings key) sagaId) notes := by
  apply answers_saga valid
  intro saga after member entitled
  have grants : Grants tenantOf settings key after sagaId :=
    ⟨saga.tenantId, .inr ⟨saga, member, rfl⟩, entitled⟩
  rw [Answers, wp_bind]
  apply wp_ask
  · exact grants
  · intro entries
    exact ⟨List.mem_cons_self .., grants_mono (fun _ seen => Notes.seen_add seen) grants⟩

theorem stream_saga_answers (valid : requireApiKey settings key = .ok ())
    {sagaId : String} (polls : ℕ) :
    Answers tenantOf settings key self outside
      (streamSaga (getBoundTenant settings key) sagaId polls) notes := by
  apply answers_saga valid
  intro saga after member entitled
  rw [Answers, wp_bind]
  apply wp_mono (wp_event_source polls none ⟨saga.tenantId, .inr ⟨saga, member, rfl⟩, entitled⟩)
  · exact fun _ _ accounts => accounts.1
  · exact fun _ _ _ => trivial

theorem dead_letters_answers (valid : requireApiKey settings key = .ok ()) :
    Answers tenantOf settings key self outside
      (deadLetters (getBoundTenant settings key)) notes := by
  rw [Answers, deadLetters, wp_bind]
  apply wp_ask
  · exact ⟨valid, rfl⟩
  · exact fun entries letter member => List.mem_append_left _ member

theorem run_speculative_answers (valid : requireApiKey settings key = .ok ())
    {sagaId goal tenantId : String} (winner : Option (Proposed Args))
    (given : tenantOf sagaId = tenantId) :
    Answers tenantOf settings key self outside
      (runSpeculative self (getBoundTenant settings key) sagaId goal tenantId winner) notes := by
  unfold runSpeculative
  rw [Answers, wp_bind]
  apply wp_demand
  intro passed
  have entitled := enforce_entitled valid passed
  cases winner with
  | none => trivial
  | some proposed =>
      cases proposed with
      | error refusal => trivial
      | ok step =>
          change wp (disciplined tenantOf settings key self outside)
            (coordinate (self.startTransactionLog sagaId goal tenantId) .python >>= _) _ _ notes
          rw [wp_bind]
          apply wp_coordinate (self.own_start_transaction_log goal) (.inl given) entitled
          intro _ between knows
          rw [wp_bind]
          apply wp_coordinate (self.own_execute_saga [step]) knows entitled
          intro success last known
          rw [wp_ite]
          split
          · exact ⟨tenantId, known, entitled⟩
          · trivial

theorem start_saga_rpc_answers {sagaId goal tenantId : String}
    (given : tenantOf sagaId = tenantId) :
    Answers tenantOf settings key self outside
      (startSagaRpc self settings key sagaId goal tenantId) notes := by
  rw [Answers, startSagaRpc, wp_ite]
  split
  · rename_i authorized
    have entitled := authorized_entitled authorized
    rw [wp_bind]
    apply wp_coordinate (self.own_start_transaction_log goal) (.inl given) entitled
    exact fun _ after knows => ⟨tenantId, knows, entitled⟩
  · trivial

theorem submit_step_rpc_answers {sagaId : String} (step : SagaStep Args) :
    Answers tenantOf settings key self outside (submitStepRpc self settings key sagaId step)
      notes := by
  apply answers_authorized
  intro saga after member entitled
  rw [Answers, wp_bind]
  apply wp_coordinate (self.own_execute_saga [step]) (.inr ⟨saga, member, rfl⟩) entitled
  exact fun _ _ _ => trivial

theorem get_saga_status_rpc_answers {sagaId : String} :
    Answers tenantOf settings key self outside (getSagaStatusRpc settings key sagaId) notes := by
  apply answers_authorized
  intro saga after member entitled
  exact ⟨sagaId, saga, member, rfl, saga.tenantId, .inr ⟨saga, member, rfl⟩, entitled⟩

theorem stream_steps_answers {sagaId : String} (step : SagaStep Args) :
    Answers tenantOf settings key self outside (streamSteps self settings key sagaId step)
      notes := by
  apply answers_authorized
  intro saga after member entitled
  rw [Answers, wp_bind]
  apply wp_coordinate (self.own_execute_saga [step]) (.inr ⟨saga, member, rfl⟩) entitled
  exact fun _ _ _ => trivial

theorem request_answers (request : Request Args) (limited : Bool)
    (given : ∀ started ∈ request.starts?, tenantOf started.1 = started.2) :
    Answers tenantOf settings key self outside (request.program self settings key limited)
      notes := by
  unfold Request.program
  cases request with
  | startSaga sagaId goal tenantId =>
      apply answers_protect
      intro valid
      exact start_saga_answers valid (given _ rfl)
  | submitStep sagaId proposed =>
      apply answers_protect
      intro valid
      exact submit_step_answers valid proposed
  | sagaStatus sagaId =>
      apply answers_protect
      intro valid
      exact saga_status_answers valid
  | approveSagaStep sagaId =>
      apply answers_protect
      intro valid
      exact approve_saga_step_answers valid
  | rejectSagaStep sagaId =>
      apply answers_protect
      intro valid
      exact reject_saga_step_answers valid
  | sagaHistory sagaId =>
      apply answers_protect
      intro valid
      exact saga_history_answers valid
  | streamSaga sagaId polls =>
      apply answers_protect
      intro valid
      exact stream_saga_answers valid polls
  | deadLetters =>
      apply answers_protect
      intro valid
      exact dead_letters_answers valid
  | runSpeculative sagaId goal tenantId winner =>
      apply answers_protect
      intro valid
      exact run_speculative_answers valid winner (given _ rfl)
  | startSagaRpc sagaId goal tenantId => exact start_saga_rpc_answers (given _ rfl)
  | submitStepRpc sagaId step => exact submit_step_rpc_answers step
  | getSagaStatusRpc sagaId => exact get_saga_status_rpc_answers
  | streamSteps sagaId step => exact stream_steps_answers step

end Serving

section Invariants

variable {tenantOf : String → String} {settings : Settings} {key : Option String}
  {notes : Notes Args}

/-- What a caller has noted is so, and may be shown to it. -/
structure Consistent (tenantOf : String → String) (settings : Settings) (key : Option String)
    (notes : Notes Args) (store : Store Args) : Prop where
  seen : ∀ entry ∈ notes.seen, entry.2.sagaId = entry.1 ∧ entry.2.tenantId = tenantOf entry.1
  histories : ∀ entry ∈ notes.histories, entry.2 <+: store.history entry.1
  letters : ∀ letter ∈ notes.letters,
    letter ∈ store.dead ∧ Entitled settings key (tenantOf letter.sagaId)

def Apart (tenantOf : String → String) (settings : Settings) (shared : System Args World)
    (seats : List (Option String × Notes Args)) : Prop :=
  shared.Labelled tenantOf ∧
    ∀ seat ∈ seats, Consistent tenantOf settings seat.1 seat.2 shared.store

theorem Consistent.nothing (store : Store Args) :
    Consistent tenantOf settings key .empty store where
  seen := fun _ member => absurd member List.not_mem_nil
  histories := fun _ member => absurd member List.not_mem_nil
  letters := fun _ member => absurd member List.not_mem_nil

theorem Consistent.grown {before after : Store Args}
    (consistent : Consistent tenantOf settings key notes before) (grows : before.Grows after) :
    Consistent tenantOf settings key notes after where
  seen := consistent.seen
  histories := fun entry member => (consistent.histories entry member).trans (grows.history _)
  letters := fun letter member =>
    ⟨grows.letters.subset (consistent.letters letter member).1,
      (consistent.letters letter member).2⟩

theorem Consistent.known {store : Store Args} {sagaId tenantId : String}
    (consistent : Consistent tenantOf settings key notes store)
    (knows : Knows tenantOf notes sagaId tenantId) : tenantOf sagaId = tenantId := by
  rcases knows with own | ⟨saga, member, same⟩
  · exact own
  · exact (consistent.seen _ member).2.symm.trans same

theorem Consistent.granted {store : Store Args} {sagaId : String}
    (consistent : Consistent tenantOf settings key notes store)
    (grants : Grants tenantOf settings key notes sagaId) :
    Entitled settings key (tenantOf sagaId) := by
  obtain ⟨tenantId, knows, entitled⟩ := grants
  rw [consistent.known knows]
  exact entitled

theorem listed_entitled {store : Store Args} (labelled : store.Labelled tenantOf)
    (valid : requireApiKey settings key = .ok ()) :
    ∀ letter ∈ listDeadLetters store (getBoundTenant settings key),
      letter ∈ store.dead ∧ Entitled settings key (tenantOf letter.sagaId) := by
  intro letter member
  obtain ⟨pushed, listed⟩ := List.mem_filter.mp member
  refine ⟨List.mem_reverse.mp pushed, bound_entitled valid ?_⟩
  intro tenant bound
  have named : letter.tenantId = some tenant := by
    rw [Option.mem_def.mp bound] at listed
    simpa using listed
  exact labelled.letters letter (List.mem_reverse.mp pushed) tenant named

variable [DecidableEq Args] [Inhabited Args] {self : Coordinator} {outside : Outside Args World}
  {request : (gatewayFace Args).Call} {reply : (gatewayFace Args).Reply request}
  {before after : System Args World}

theorem served_grows
    (served : (gateways tenantOf settings self outside).serve key request before reply after) :
    before.store.Grows after.store := by
  cases request with
  | inl request => exact System.grows_call served
  | inr query =>
      obtain ⟨_, rfl⟩ := served
      exact .refl _

theorem served_labelled {store : Store Args} (labelled : before.Labelled tenantOf)
    (consistent : Consistent tenantOf settings key notes store)
    (allowed : Allowed tenantOf settings key request notes)
    (served : (gateways tenantOf settings self outside).serve key request before reply after) :
    after.Labelled tenantOf := by
  cases request with
  | inl request =>
      rcases allowed with ⟨sagaId, rfl⟩ | ⟨sagaId, tenantId, knows, _, own⟩
      · obtain ⟨_, rfl⟩ := served
        exact labelled
      · rw [← consistent.known knows] at own
        exact System.labelled_call labelled own served
  | inr query =>
      obtain ⟨_, rfl⟩ := served
      exact labelled

theorem served_consistent (labelled : before.Labelled tenantOf)
    (consistent : Consistent tenantOf settings key notes before.store)
    (allowed : Allowed tenantOf settings key request notes)
    (served : (gateways tenantOf settings self outside).serve key request before reply after) :
    Consistent tenantOf settings key (notes.add request reply) after.store := by
  have grown := consistent.grown (served_grows served)
  cases request with
  | inl request =>
      cases request with
      | memory request =>
          cases request with
          | lookupSaga sagaId =>
              obtain ⟨rfl, rfl⟩ := served
              cases found : before.memory.active.find? sagaId with
              | none =>
                  simp only [MemoryCall.serve, found]
                  exact consistent
              | some saga =>
                  simp only [MemoryCall.serve, found]
                  have own := labelled.memory.1 saga (Table.find_mem found)
                  rw [Table.find_key found] at own
                  refine ⟨?_, consistent.histories, consistent.letters⟩
                  exact List.forall_mem_cons.mpr ⟨⟨Table.find_key found, own⟩, consistent.seen⟩
          | _ => exact grown
      | store request => exact grown
      | outside request => exact grown
  | inr query =>
      obtain ⟨rfl, rfl⟩ := served
      cases query with
      | history sagaId =>
          refine ⟨consistent.seen, ?_, consistent.letters⟩
          exact List.forall_mem_cons.mpr ⟨List.prefix_rfl, consistent.histories⟩
      | deadLetters boundTenant =>
          obtain ⟨valid, rfl⟩ := allowed
          refine ⟨consistent.seen, consistent.histories, ?_⟩
          exact List.forall_mem_append.mpr
            ⟨listed_entitled labelled.store valid, consistent.letters⟩
      | status sagaId => exact grown

theorem gateways_keep : SeatInvariant (gateways tenantOf settings self outside)
    (Allowed tenantOf settings) (Apart tenantOf settings) where
  spawned := by
    intro shared seats owner program ⟨labelled, consistent⟩ _
    refine ⟨labelled, List.forall_mem_append.mpr ⟨consistent, ?_⟩⟩
    exact List.forall_mem_singleton.mpr (.nothing _)
  called := by
    intro shared after left right noted owner request reply ⟨labelled, consistent⟩ allowed _ served
    have own := consistent (owner, noted) List.mem_append_cons_self
    refine ⟨served_labelled labelled own allowed served, ?_⟩
    have others : ∀ seat ∈ left ++ (owner, noted) :: right,
        Consistent tenantOf settings seat.1 seat.2 after.store :=
      fun seat member => (consistent seat member).grown (served_grows served)
    exact Setting.every_replaced others (served_consistent labelled own allowed served)
  crashed := by
    intro shared after seats owner _ lost
    exact lost.elim

theorem gateways_serve : ∀ owner program,
    (gateways tenantOf settings self outside).admits owner program →
      (gateways tenantOf settings self outside).Serves (Allowed tenantOf settings)
        (Accounts tenantOf settings) (fun _ _ _ => True) ⟨owner, program, .empty⟩ := by
  rintro owner program ⟨request, limited, rfl, given⟩
  exact request_answers request limited given

end Invariants

section Runs

variable {tenantOf : String → String} {settings : Settings} [DecidableEq Args] [Inhabited Args]
  {self : Coordinator} {outside : Outside Args World} {initial : System Args World}

/-- Whoever is not entitled to a tenant leaves the sagas of the tenant as they
are, in the store and in memory, but for evictions of sagas that are over. -/
theorem strangers_change_nothing (labelled : initial.Labelled tenantOf)
    {first last : Pool (gatewayFace Args) Raised (Response Args) (Option String) (Notes Args)
      (System Args World)}
    (reached : (gateways tenantOf settings self outside).Reachable initial first)
    {tenantId : String}
    (run : Relation.ReflTransGen ((gateways tenantOf settings self outside).only fun key =>
      ¬Entitled settings key tenantId).Step first last)
    {sagaId : String} (own : tenantOf sagaId = tenantId) :
    first.shared.Keeps sagaId last.shared := by
  apply only_run (fun state => ⟨.refl _, .refl _⟩)
    (fun front back => ⟨front.store.trans back.store, front.memory.trans back.memory⟩)
    gateways_keep gateways_serve _ _ ⟨labelled, fun _ member => absurd member List.not_mem_nil⟩
    reached run
  · intro shared after seats noted owner request reply ⟨_, consistent⟩ member allowed stranger served
    cases request with
    | inl request =>
        rcases allowed with ⟨looked, rfl⟩ | ⟨other, tenant, knows, entitled, about⟩
        · obtain ⟨_, rfl⟩ := served
          exact ⟨.refl _, .refl _⟩
        · have apart : sagaId ≠ other := by
            rintro rfl
            rw [← (consistent _ member).known knows, own] at entitled
            exact stranger entitled
          exact System.keeps_call apart about served
    | inr query =>
        obtain ⟨_, rfl⟩ := served
        exact ⟨.refl _, .refl _⟩
  · intro shared after owner _ lost
    exact lost.elim

/-- A call for a caller is a look at a saga, or about a saga of a tenant that the
caller is entitled to. -/
def Within (tenantOf : String → String) (settings : Settings) (key : Option String) :
    (gatewayFace Args).Call → Prop
  | .inl request => (∃ sagaId, request = .memory (.lookupSaga sagaId)) ∨
      ∃ sagaId, Entitled settings key (tenantOf sagaId) ∧ OwnCall sagaId (tenantOf sagaId) request
  | .inr (.history sagaId) => Entitled settings key (tenantOf sagaId)
  | .inr (.status sagaId) => Entitled settings key (tenantOf sagaId)
  | .inr (.deadLetters boundTenant) => boundTenant = getBoundTenant settings key

/-- A caller is shown what is so, of tenants that it is entitled to. -/
def Shown (tenantOf : String → String) (settings : Settings) (key : Option String)
    (store : Store Args) : Response Args → Prop
  | .started sagaId => Entitled settings key (tenantOf sagaId)
  | .speculated sagaId => Entitled settings key (tenantOf sagaId)
  | .state shown => shown.tenantId = tenantOf shown.sagaId ∧ Entitled settings key shown.tenantId
  | .events events => ∀ shown ∈ events,
      shown.tenantId = tenantOf shown.sagaId ∧ Entitled settings key shown.tenantId
  | .history sagaId entries => Entitled settings key (tenantOf sagaId) ∧
      entries <+: store.history sagaId
  | .letters entries => ∀ letter ∈ entries,
      letter ∈ store.dead ∧ Entitled settings key (tenantOf letter.sagaId)
  | _ => True

omit [DecidableEq Args] [Inhabited Args] in
theorem Consistent.shown {key : Option String} {notes : Notes Args} {store : Store Args}
    (consistent : Consistent tenantOf settings key notes store) {sagaId : String}
    {saga : SagaTransaction Args} (member : (sagaId, saga) ∈ notes.seen)
    (grants : Grants tenantOf settings key notes sagaId) :
    (shownState saga).tenantId = tenantOf (shownState saga).sagaId ∧
      Entitled settings key (shownState saga).tenantId := by
  obtain ⟨same, _⟩ := consistent.seen _ member
  have tenant : saga.tenantId = tenantOf sagaId := (consistent.seen _ member).2
  constructor
  · exact tenant.trans (congrArg tenantOf same.symm)
  · change Entitled settings key saga.tenantId
    rw [tenant]
    exact consistent.granted grants

/-- Callers stay with the tenants that they are entitled to, in what is done for
them and in what they are shown. -/
theorem callers_stay_entitled (labelled : initial.Labelled tenantOf)
    {pool : Pool (gatewayFace Args) Raised (Response Args) (Option String) (Notes Args)
      (System Args World)}
    (reached : (gateways tenantOf settings self outside).Reachable initial pool) :
    ∀ thread ∈ pool.threads,
      (∀ request next, thread.program = .call request next →
        Within tenantOf settings thread.owner request) ∧
      ∀ response, thread.program = .done response →
        Shown tenantOf settings thread.owner pool.shared.store response := by
  intro thread member
  obtain ⟨serving, _, consistent⟩ := reachable_seats gateways_keep gateways_serve
    ⟨labelled, fun _ member => absurd member List.not_mem_nil⟩ reached
  have own := consistent _ (List.mem_map_of_mem member)
  have serves := serving thread member
  constructor
  · intro request next waiting
    rw [Setting.Serves, waiting] at serves
    have allowed := serves.1
    cases request with
    | inl request =>
        rcases allowed with looked | ⟨sagaId, tenant, knows, entitled, about⟩
        · exact .inl looked
        · obtain rfl := own.known knows
          exact .inr ⟨sagaId, entitled, about⟩
    | inr query =>
        cases query with
        | history sagaId => exact own.granted allowed
        | status sagaId => exact own.granted allowed
        | deadLetters boundTenant => exact allowed.2
  · intro response ended
    rw [Setting.Serves, ended] at serves
    have accounts : Accounts tenantOf settings thread.owner response thread.noted := serves
    cases response with
    | started sagaId => exact own.granted accounts
    | speculated sagaId => exact own.granted accounts
    | state shown =>
        obtain ⟨sagaId, saga, seen, rfl, grants⟩ := accounts
        exact own.shown seen grants
    | events events =>
        intro shown listed
        obtain ⟨sagaId, saga, seen, rfl, grants⟩ := accounts shown listed
        exact own.shown seen grants
    | history sagaId entries => exact ⟨own.granted accounts.2, own.histories _ accounts.1⟩
    | letters entries => exact fun letter listed => own.letters letter (accounts letter listed)
    | _ => trivial

end Runs

section Samples

def sampleSettings : Settings :=
  { apiKeys := "ka:acme,kb:globex" }

def sampleTenantOf (sagaId : String) : String := if sagaId = "a" then "acme" else "globex"

def calm : Outside Unit Unit where
  respond := fun request _ reply _ => reply = accepting request
  observe := fun _ _ world => world

def sampleWorker : Coordinator where
  store := .journaled

def started : System Unit Unit where
  store := Store.empty.writeTransactionState "a" .running
    { goal := some "plan", tenantId := some "acme" }
  memory := (MemoryCall.registerSaga
    { sagaId := "a", tenantId := "acme", goal := "plan", status := .running }).serve .empty |>.2
  world := ()

theorem started_labelled : started.Labelled sampleTenantOf where
  store := by
    apply Store.labelled_write
    · exact ⟨fun _ member => absurd member List.not_mem_nil,
        fun _ member => absurd member List.not_mem_nil⟩
    · rintro tenant ⟨⟩
      rfl
  memory := by
    constructor
    · intro saga member
      obtain rfl := List.mem_singleton.mp member
      rfl
    · exact fun _ member => absurd member List.not_mem_nil

abbrev sampleSetting := gateways sampleTenantOf sampleSettings sampleWorker calm

def sampleAnswers (_ : Option String) : (request : (gatewayFace Unit).Call) → System Unit Unit →
    (gatewayFace Unit).Reply request × System Unit Unit
  | .inl request, system =>
      answerWith calm (fun inner world => (accepting inner, world)) request system
  | .inr query, system => (.ok (query.serve system), system)

theorem sample_answers_honest (key : Option String) (request : (gatewayFace Unit).Call)
    (system : System Unit Unit) : sampleSetting.serve key request system
      (sampleAnswers key request system).1 (sampleAnswers key request system).2 := by
  cases request with
  | inl request => exact answer_with_honest (fun _ _ => rfl) request system
  | inr query => exact ⟨rfl, rfl⟩

/-- A caller of the second tenant starts a saga, and the first tenant asks for
the state of its own. -/
def sampleRequests : List (Option String × Request Unit) :=
  [(some "kb", .startSagaRpc "b" "plan" "globex"), (some "ka", .sagaStatus "a")]

def samplePrograms : List (Option String × Endpoint Unit (Response Unit)) :=
  sampleRequests.map fun entry => (entry.1, entry.2.program sampleWorker sampleSettings entry.1 false)

def samplePool (order : List Nat) : Pool (gatewayFace Unit) Raised (Response Unit) (Option String)
    (Notes Unit) (System Unit Unit) :=
  scheduled sampleSetting sampleAnswers (fun _ _ _ _ => true) started samplePrograms order

theorem sample_reachable (order : List Nat) : sampleSetting.Reachable started (samplePool order) := by
  apply scheduled_reachable sample_answers_honest (fun _ _ _ _ _ => trivial) started
  intro entry member
  obtain ⟨entry, listed, rfl⟩ := List.mem_map.mp member
  refine ⟨entry.2, false, rfl, ?_⟩
  rcases List.mem_cons.mp listed with rfl | listed
  · rintro given ⟨⟩
    rfl
  · obtain rfl := List.mem_singleton.mp listed
    rintro given ⟨⟩

/-- The theorem where a saga of the other tenant is being started. -/
theorem callers_stay_entitled_sample : Shown sampleTenantOf sampleSettings (some "ka")
    (samplePool [0, 1, 0]).shared.store (.state ⟨"a", "acme", "plan", .running, []⟩) := by
  have asked : (samplePool [0, 1, 0]).threads.length = 2 := rfl
  exact (callers_stay_entitled started_labelled (sample_reachable [0, 1, 0])
    (samplePool [0, 1, 0]).threads[1] (List.getElem_mem _)).2 _ rfl

theorem sample_stranger : ¬Entitled sampleSettings (some "kb") "acme" := by
  rw [← (GatewayAccess.keys_admit_alike sampleSettings (some "kb") "acme").1]
  decide

theorem sample_registers : (sampleSetting.only fun key => ¬Entitled sampleSettings key "acme").Step
    (samplePool [0]) (samplePool [0, 0]) := by
  have served := sample_answers_honest (some "kb") (.inl (.memory (.registerSaga
    { sagaId := "b", tenantId := "globex", goal := "plan", status := .running })))
    (samplePool [0]).shared
  exact @Setting.Step.call (gatewayFace Unit) Raised (Response Unit) (Option String) (Notes Unit)
    (System Unit Unit) _ (sampleSetting.only fun key => ¬Entitled sampleSettings key "acme")
    _ _ [] _ _ _ _ _ _ _ trivial ⟨sample_stranger, served⟩

/-- The theorem where a stranger starts a saga of its own. -/
theorem strangers_change_nothing_sample :
    (samplePool [0]).shared.Keeps "a" (samplePool [0, 0]).shared :=
  strangers_change_nothing started_labelled (sample_reachable _) (.single sample_registers) rfl

end Samples

end SagaMind.GatewayIsolation
