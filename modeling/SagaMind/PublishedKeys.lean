import SagaMind.Coordinator.Turns

/-!
# Published idempotency keys

A commit publishes the key of a step together with its record. A rollback takes
the record back and leaves the key. Where no record under a published key is
taken back, a published key stands for a committed record, and a batch that
returns `True` has one behind each of its steps.
-/

namespace SagaMind.PublishedKeys

open CallProgram KeyedTable Coordinator

set_option autoImplicit false

variable {Args : Type}

/-- Some committed record of the saga carries the key. -/
def InPlace (store : Store Args) (sagaId key : String) : Prop :=
  ∃ stepId record, store.effect? sagaId stepId = some record ∧ record.state = .committed ∧
    record.idempotencyKey = some key

def KeysInPlace (store : Store Args) : Prop :=
  ∀ sagaId key, store.stepAlreadyCommitted sagaId key = true → InPlace store sagaId key

def OwnCommitted (store : Store Args) (sagaId : String) (step : SagaStep Args) : Prop :=
  ∃ record, store.effect? sagaId step.stepId = some record ∧ record.state = .committed

def keepsPublished : Call Args → System Args Unit → Bool
  | .store (.transitionEffect sagaId stepId _ .compensating _ _), state =>
      (state.store.effect? sagaId stepId).all fun record => record.state ≠ .committed ||
        record.idempotencyKey.all fun key => !state.store.stepAlreadyCommitted sagaId key
  | _, _ => true

section Keys

variable [DecidableEq Args] {progress : Progress Args} {sagaId key : String}

/-- A committed record under a published key stays where it is. -/
theorem in_place_stays {state : System Args Unit} {request : StoreCall Args}
    (here : Progress.allowed (.store request) progress)
    (permitted : keepsPublished (.store request) state = true)
    (published : state.store.stepAlreadyCommitted sagaId key = true)
    (held : InPlace state.store sagaId key) : InPlace (request.serve state.store).2 sagaId key := by
  obtain ⟨stepId, record, found, committed, keyed⟩ := held
  cases request with
  | prepareEffect owner id stepName action compensation given =>
      rcases state.store.prepare_effect_cases owner id stepName action compensation given with
        ⟨_, _, _, same⟩ | ⟨_, same⟩ | ⟨entry, absent, shape, same⟩ <;> rw [StoreCall.serve, same]
      · exact ⟨stepId, record, found, committed, keyed⟩
      · exact ⟨stepId, record, found, committed, keyed⟩
      · refine ⟨stepId, record, ?_, committed, keyed⟩
        rw [Store.effect_put_effect, if_neg, found]
        rintro ⟨rfl, rfl⟩
        rw [shape, absent] at found
        cases found
  | transitionEffect owner id expected newState result error =>
      rcases state.store.transition_effect_cases owner id expected newState result error with
        ⟨entry, known, legal, same⟩ | ⟨_, _, same⟩ <;> rw [StoreCall.serve, same]
      · refine ⟨stepId, record, ?_, committed, keyed⟩
        rw [Store.effect_put_effect, if_neg, found]
        rintro ⟨rfl, rfl⟩
        have ownId : entry.stepId = id := Table.find_key known
        rw [ownId, known] at found
        obtain rfl := Option.some.inj found
        have along := here.1 _ legal
        rw [committed] at along
        obtain rfl : newState = .compensating := by
          cases newState <;> first | rfl | cases along
        simp [keepsPublished, known, committed, keyed, published] at permitted
      · exact ⟨stepId, record, found, committed, keyed⟩
  | commitEffect owner id given =>
      rcases state.store.commit_effect_cases owner id given with
        ⟨entry, known, legal, same⟩ | ⟨_, _, same⟩ <;> rw [StoreCall.serve, same]
      · refine ⟨stepId, record, ?_, committed, keyed⟩
        rw [Store.effect_publish, Store.effect_put_effect, if_neg, found]
        rintro ⟨rfl, rfl⟩
        have ownId : entry.stepId = id := Table.find_key known
        rw [ownId, known] at found
        obtain rfl := Option.some.inj found
        rw [committed] at legal
        cases legal
      · exact ⟨stepId, record, found, committed, keyed⟩
  | _ => exact ⟨stepId, record, found, committed, keyed⟩

/-- A key is published by the commit of a record that carries it. -/
theorem published_serve {store : Store Args} {request : StoreCall Args}
    (registered : ∀ ticket ∈ Stage.ticket? progress.stage, Registered store ticket)
    (here : Progress.allowed (.store request) progress)
    (published : (request.serve store).2.stepAlreadyCommitted sagaId key = true) :
    store.stepAlreadyCommitted sagaId key = true ∨ InPlace (request.serve store).2 sagaId key := by
  cases request with
  | prepareEffect owner id stepName action compensation given =>
      left
      rcases store.prepare_effect_cases owner id stepName action compensation given with
        ⟨_, _, _, same⟩ | ⟨_, same⟩ | ⟨_, _, _, same⟩ <;> rw [StoreCall.serve, same] at published
      · exact published
      · exact published
      · exact published
  | transitionEffect owner id expected newState result error =>
      left
      rcases store.transition_effect_cases owner id expected newState result error with
        ⟨_, _, _, same⟩ | ⟨_, _, same⟩ <;> rw [StoreCall.serve, same] at published
      · exact published
      · exact published
  | commitEffect owner id given =>
      obtain ⟨ticket, ran, rfl, rfl, rfl⟩ := here
      obtain ⟨record, found, -, -, keyed⟩ := registered ticket (by rw [ran]; rfl)
      rcases store.commit_effect_cases ticket.sagaId ticket.stepId ticket.idempotencyKey with
        ⟨entry, known, legal, same⟩ | ⟨_, _, same⟩ <;> rw [StoreCall.serve, same] at published ⊢
      · have ownId : entry.stepId = ticket.stepId := Table.find_key known
        rw [known] at found
        obtain rfl := Option.some.inj found
        rcases Store.publish_adds published with old | ⟨rfl, carried⟩
        · exact .inl old
        · right
          refine ⟨ticket.stepId, { entry with state := .committed }, ?_, rfl, ?_⟩
          · simp [ownId]
          · rw [← carried]
            exact keyed
      · exact .inl published
  | markStepCommitted => exact here.elim
  | _ => exact .inl published

theorem keys_call {before after : Cluster Args} {owner : Nat} {request : Call Args}
    {reply : Except PyError request.Answer}
    (registered : ∀ ticket ∈ Stage.ticket? progress.stage, Registered before.store ticket)
    (held : KeysInPlace before.store) (here : Progress.allowed request progress)
    (permitted : keepsPublished request (before.seat owner) = true)
    (served : serveInCluster owner request before reply after) : KeysInPlace after.store := by
  rcases request with request | request | request
  · obtain ⟨-, rfl⟩ := served
    exact held
  · obtain ⟨-, rfl⟩ := served
    intro sagaId key published
    rcases published_serve registered here published with old | fresh
    · exact in_place_stays here permitted old (held sagaId key old)
    · exact fresh
  · obtain rfl := served
    exact held

/-- Published keys are in place at every call of an operator's request and at
its end. -/
theorem keys_turn [Inhabited Args] {self : Coordinator} (journaled : self.store = .journaled)
    (owner : Nat) (request : ApiCall Args) {cluster : Cluster Args}
    (held : KeysInPlace cluster.store) :
    wp ((limitedTurn (fun request state => keepsPublished request state = true) owner).guard
        fun _ after => KeysInPlace after.store) (request.program self)
      (fun _ after => KeysInPlace after.store) (fun _ after => KeysInPlace after.store) cluster := by
  have idle : ({} : Progress Args).stage = .idle := rfl
  have linked : (∀ ticket ∈ Stage.ticket? ({} : Progress Args).stage,
      Registered cluster.store ticket) ∧ KeysInPlace cluster.store := by
    refine ⟨fun _ holds => ?_, held⟩
    cases holds
  have simulated := @wp_simulated (coordinatorFace Args) (Cluster Args) PyError Unit
    ((limitedTurn (fun request state => keepsPublished request state = true) owner).guard
      fun _ after => KeysInPlace after.store) (Progress Args) disciplined
    (fun progress after => (∀ ticket ∈ Stage.ticket? progress.stage,
      Registered after.store ticket) ∧ KeysInPlace after.store)
  apply wp_mono (simulated _ _ linked (disciplined_api_call journaled request idle))
  · exact fun _ after ⟨_, _, _, held⟩ => held
  · exact fun _ after ⟨_, _, _, held⟩ => held
  · exact fun _ _ _ linked _ => linked.2
  · rintro request progress before reply after ⟨registered, held⟩ here ⟨permitted, served⟩
    refine ⟨progress.note request reply, rfl, ?_, ?_⟩
    · exact fun ticket holds => registered_call registered here served holds
    · exact keys_call registered held here permitted served

end Keys

section Batches

variable {sagaId : String}

structure Onward (sagaId : String) (before after : Store Args) : Prop where
  committed : ∀ stepId record, before.effect? sagaId stepId = some record →
    record.state = .committed → after.effect? sagaId stepId = some record
  published : ∀ key, before.stepAlreadyCommitted sagaId key = true →
    after.stepAlreadyCommitted sagaId key = true

/-- What `execute_saga` answers for when it returns `True`. -/
def Settled (store : Store Args) (sagaId : String) (step : SagaStep Args) : Prop :=
  OwnCommitted store sagaId step ∨
    ∃ key, step.idempotencyKey = some key ∧ store.stepAlreadyCommitted sagaId key = true

theorem Onward.refl (store : Store Args) : Onward sagaId store store :=
  ⟨fun _ _ found _ => found, fun _ published => published⟩

theorem Onward.trans {first second third : Store Args} (left : Onward sagaId first second)
    (right : Onward sagaId second third) : Onward sagaId first third where
  committed := fun stepId record found committed =>
    right.committed stepId record (left.committed stepId record found committed) committed
  published := fun key published => right.published key (left.published key published)

theorem Onward.settled {before after : Store Args} {step : SagaStep Args}
    (onward : Onward sagaId before after) (settled : Settled before sagaId step) :
    Settled after sagaId step := by
  rcases settled with ⟨record, found, committed⟩ | ⟨key, keyed, published⟩
  · exact .inl ⟨record, onward.committed _ _ found committed, committed⟩
  · exact .inr ⟨key, keyed, onward.published key published⟩

theorem onward_moved {store : Store Args} {stepId : String} {entry moved : Effect Args}
    (found : store.effect? sagaId stepId = some entry) (early : entry.state ≠ .committed)
    (same : moved.stepId = entry.stepId) : Onward sagaId store (store.putEffect sagaId moved) := by
  have ownId : entry.stepId = stepId := Table.find_key found
  constructor
  · intro id record known committed
    rw [Store.effect_put_effect, if_neg, known]
    rintro ⟨-, rfl⟩
    rw [same, ownId, found] at known
    obtain rfl := Option.some.inj known
    exact early committed
  · exact fun key published => published

theorem onward_registered {store : Store Args} {entry : Effect Args}
    (absent : store.effect? sagaId entry.stepId = none) :
    Onward sagaId store (store.putEffect sagaId entry) := by
  constructor
  · intro id record known committed
    rw [Store.effect_put_effect, if_neg, known]
    rintro ⟨-, rfl⟩
    rw [absent] at known
    cases known
  · exact fun key published => published

theorem onward_committed {store : Store Args} {stepId : String} {entry : Effect Args}
    (found : store.effect? sagaId stepId = some entry) (applied : entry.state = .applied)
    (key : Option String) : Onward sagaId store
      ((store.putEffect sagaId { entry with state := .committed }).publish sagaId key) := by
  have early : entry.state ≠ .committed := by
    rw [applied]
    decide
  have moved := @onward_moved Args sagaId store stepId entry { entry with state := .committed } found
    early rfl
  constructor
  · intro id record known committed
    rw [Store.effect_publish]
    exact moved.committed id record known committed
  · exact fun key published => Store.publish_keeps (moved.published key published)

theorem Onward.recorded {before after : Store Args} (onward : Onward sagaId before after)
    (entry : HistoryEntry Args) : Onward sagaId before (after.recordStep sagaId entry) :=
  ⟨onward.committed, onward.published⟩

variable [DecidableEq Args] {self : Coordinator} {step : SagaStep Args}
  {state : System Args Unit}

theorem marks_onward (journaled : self.store = .journaled) :
    wp running (self.markExecuting sagaId step)
      (fun _ after => Onward sagaId state.store after.store) (fun _ _ => True) state := by
  unfold markExecuting
  rw [if_pos (journals_of_journaled journaled), wp_bind, wp_flagged]
  have marked : ∀ between : System Args Unit, Onward sagaId state.store between.store →
      wp running (do
        let _ ← flagged true false (onStore (.transitionEffect sagaId step.stepId [.prepared]
          .executing none none))
        pure ()) (fun _ after => Onward sagaId state.store after.store) (fun _ _ => True)
        between := by
    intro between onward
    rw [wp_bind, wp_flagged]
    apply wp_transition trivial
    · intro entry found legal
      apply onward.trans
      apply onward_moved found
      · rw [List.mem_singleton.mp legal]
        decide
      · rfl
    · exact fun _ _ => trivial
  apply wp_prepare trivial
  · exact fun existing found agrees => marked _ (.refl _)
  · rintro entry absent rfl
    exact marked _ (onward_registered absent)
  · exact fun _ => trivial

variable [Inhabited Args]

theorem commits_onward (journaled : self.store = .journaled) (result : ExecuteResult Args) :
    wp running (self.commitStep sagaId step result)
      (fun _ after => Onward sagaId state.store after.store ∧ OwnCommitted after.store sagaId step)
      (fun _ _ => True) state := by
  unfold commitStep markApplied
  rw [wp_bind, if_pos (journals_of_journaled journaled), wp_bind, wp_flagged]
  apply wp_transition trivial
  · intro entry found legal
    have ownId : entry.stepId = step.stepId := Table.find_key found
    have applied : Onward sagaId state.store (state.store.putEffect sagaId
        { entry with state := .applied, result := some result.resultData, error := none }) := by
      apply onward_moved found
      · rw [List.mem_singleton.mp legal]
        decide
      · rfl
    rw [wp_pure, wp_bind, wp_flagged]
    apply wp_memory trivial
    unfold publishStep
    rw [wp_bind, if_pos (journals_of_journaled journaled), wp_bind, wp_flagged]
    apply wp_commit trivial
    · intro entry found legal
      have ownId : entry.stepId = step.stepId := Table.find_key found
      rw [wp_pure, wp_bind, wp_flagged, record_history_journaled journaled]
      apply wp_record_step trivial
      constructor
      · apply Onward.recorded
        exact applied.trans (onward_committed found legal step.idempotencyKey)
      · exact ⟨{ entry with state := .committed }, by simp [ownId], rfl⟩
    · exact fun _ _ => trivial
  · exact fun _ _ => trivial

theorem executes_onward (journaled : self.store = .journaled) :
    wp running (self.executeStep sagaId step)
      (fun _ after => Onward sagaId state.store after.store ∧ OwnCommitted after.store sagaId step)
      (fun _ _ => True) state := by
  apply execute_step_rule fun marked => Onward sagaId state.store marked.store
  · exact wp_mono (marks_onward journaled) (fun _ _ onward => onward) fun _ _ _ => trivial
  · intro marked onward
    apply wp_outside trivial
    · intro result world _
      split
      · apply wp_mono (commits_onward journaled result)
        · exact fun _ after ⟨later, own⟩ => ⟨onward.trans later, own⟩
        · exact fun _ _ _ => trivial
      · unfold abortStep
        rw [if_pos (journals_of_journaled journaled), wp_bind, wp_flagged]
        apply wp_transition trivial
        · exact fun _ _ _ => trivial
        · exact fun _ _ => trivial
    · exact fun _ _ _ => trivial

theorem attempts_onward (journaled : self.store = .journaled)
    {before after : List (SagaStep Args)} :
    wp running (self.attemptStep sagaId before step after)
      (fun outcome last => outcome.isSome = true →
        Onward sagaId state.store last.store ∧ OwnCommitted last.store sagaId step)
      (fun _ _ => True) state := by
  let unchanged (between : System Args Unit) : Prop := between.store = state.store
  apply attempt_step_rule unchanged (fun _ => True) unchanged
  case verifies =>
    apply wp_outside trivial
    · intro verdict world _
      split
      · rfl
      · trivial
    · exact fun _ _ _ => trivial
  case checks =>
    intro between same
    unfold preflight
    rw [wp_ite]
    split
    · apply wp_outside trivial
      · exact fun _ _ _ => same
      · exact fun _ _ _ => trivial
    · exact same
  case waits =>
    exact fun _ _ _ => wp_mono (runs_anyhow _ _) (fun _ _ _ => nofun) fun _ _ _ => trivial
  case executes =>
    intro between same _
    apply wp_mono (executes_onward journaled)
    · intro _ last ended _
      rw [same] at ended
      exact ended
    · exact fun _ _ _ => trivial
  case retreats =>
    exact fun _ => wp_mono (runs_anyhow _ _) (fun _ _ _ => nofun) fun _ _ _ => trivial

/-- Every step of a batch that ends with `True` is settled. -/
theorem batch_settles (journaled : self.store = .journaled) (before steps : List (SagaStep Args)) :
    wp running (self.executeSteps sagaId before steps)
      (fun succeeded after => succeeded = true → Onward sagaId state.store after.store ∧
        ∀ step ∈ steps, Settled after.store sagaId step) (fun _ _ => True) state := by
  let ready (ahead : List (SagaStep Args)) (between : System Args Unit) : Prop :=
    Onward sagaId state.store between.store ∧
      ∀ other ∈ steps, other ∈ ahead ∨ Settled between.store sagaId other
  have advance : ∀ {step : SagaStep Args} {rest : List (SagaStep Args)}
      {between after : System Args Unit}, ready (step :: rest) between →
      Onward sagaId between.store after.store → Settled after.store sagaId step →
      ready rest after := by
    rintro step rest between after ⟨onward, listed⟩ later settled
    refine ⟨onward.trans later, ?_⟩
    intro other member
    rcases listed other member with ahead | earlier
    · rcases List.mem_cons.mp ahead with rfl | inRest
      · exact .inr settled
      · exact .inl inRest
    · exact .inr (later.settled earlier)
  apply execute_steps_rule (fun _ => ready) fun _ step rest => ready (step :: rest)
  case closes =>
    rintro _ between ⟨onward, listed⟩
    unfold closeBatch
    rw [wp_bind]
    apply wp_memory trivial
    rw [wp_bind, write_status_journaled journaled]
    apply wp_write_state trivial
    apply wp_memory trivial
    intro _
    exact ⟨⟨onward.committed, onward.published⟩,
      fun other member => (listed other member).resolve_left List.not_mem_nil⟩
  case asks =>
    intro _ step rest between here
    unfold alreadyCommitted
    rw [wp_ite]
    split
    · rename_i keyed
      refine (wp_on_store _ _ _ _).mpr ⟨trivial, ?_⟩
      simp only [StoreCall.serve, replied_ok]
      split
      · rename_i published
        apply advance here (.refl _)
        obtain ⟨key, shape⟩ : ∃ key, step.idempotencyKey = some key := by
          cases shape : step.idempotencyKey with
          | none => simp [shape, truthy] at keyed
          | some key => exact ⟨key, rfl⟩
        refine .inr ⟨key, shape, ?_⟩
        simpa [shape] using published
      · exact here
    · exact here
  case attempts =>
    intro _ step rest between here
    apply wp_mono (attempts_onward journaled)
    · intro outcome after advanced
      cases outcome with
      | none => rintro ⟨⟩
      | some committed =>
          obtain ⟨onward, own⟩ := advanced rfl
          exact advance here onward (.inl own)
    · intro fault after _
      apply wp_mono (runs_anyhow _ _)
      · rintro _ _ _ ⟨⟩
      · exact fun _ _ _ => trivial
  case here => exact ⟨.refl _, fun other member => .inl member⟩

theorem saga_settles (journaled : self.store = .journaled) (steps : List (SagaStep Args)) :
    wp running (self.executeSaga sagaId steps)
      (fun succeeded after => succeeded = true → ∀ step ∈ steps, Settled after.store sagaId step)
      (fun _ _ => True) state := by
  unfold executeSaga
  rw [wp_bind]
  apply wp_memory trivial
  rw [wp_ite]
  split
  · apply wp_mono (batch_settles journaled [] steps)
    · exact fun _ _ settles returned => (settles returned).2
    · exact fun _ _ _ => trivial
  · trivial

end Batches

section Runs

/-- The calls permitted between operators' requests. -/
abbrev Guarded (request : Call Args) (state : System Args Unit) : Prop :=
  keepsPublished request state = true

variable [DecidableEq Args] [Inhabited Args]

theorem turns_in_place {cluster : Cluster Args} (reached : Turns Guarded cluster) :
    KeysInPlace cluster.store := by
  change (fun cluster : Cluster Args => KeysInPlace cluster.store) cluster
  apply sessions_invariant _ _ reached
  · intro sagaId key published
    cases published
  · rintro owner _ cluster held ⟨self, request, journaled, rfl⟩
    exact wp_guard_mono (fun _ _ _ => trivial) (keys_turn journaled owner request held)

/-- As long as no record under a published key is taken back: at every point of
a call a published key stands for a committed record, and when `execute_saga`
returns `True` each step has its own committed record, or one with its key. -/
theorem published_keys_in_place {cluster : Cluster Args} (reached : Turns Guarded cluster)
    {self : Coordinator} (journaled : self.store = .journaled) (owner : Nat) :
    (∀ (request : ApiCall Args) later after,
      Steps (limitedTurn Guarded owner) (request.program self) cluster later after →
        KeysInPlace after.store) ∧
      ∀ sagaId steps after,
        Steps (limitedTurn Guarded owner) (self.executeSaga sagaId steps) cluster (.done true) after →
          ∀ step ∈ steps, OwnCommitted after.store sagaId step ∨
            ∃ key, step.idempotencyKey = some key ∧ InPlace after.store sagaId key := by
  have held := turns_in_place reached
  have always : ∀ (request : ApiCall Args) later after,
      Steps (limitedTurn Guarded owner) (request.program self) cluster later after →
        KeysInPlace after.store := by
    intro request later after steps
    change (fun cluster : Cluster Args => KeysInPlace cluster.store) after
    apply wp_cut (keys_turn journaled owner request held) _ _ _ (steps.guard _)
    · exact fun _ _ now => now
    · exact fun _ _ now => now
    · exact fun _ _ now => now
  refine ⟨always, ?_⟩
  intro sagaId steps after run step member
  have ran : wp (running.limit Guarded) (self.executeSaga sagaId steps)
      (fun succeeded after => succeeded = true → ∀ step ∈ steps, Settled after.store sagaId step)
      (fun _ _ => True) (cluster.seat owner) := wp_limit (saga_settles journaled steps)
  have finished : Steps (limitedTurn Guarded owner) (self.executeSaga sagaId steps) cluster
      (.ended (.ok true)) after := run
  have ended := wp_ended (wp_turn ran) (finished.guard _)
  have settles : Settled after.store sagaId step := ended rfl step member
  rcases settles with own | ⟨key, keyed, published⟩
  · exact .inl own
  · right
    have whole := run.bind (fun _ => (pure () : Action Args Unit))
    exact ⟨key, keyed, always (.execute sagaId steps) _ _ whole sagaId key published⟩

/-- Step `a` succeeds, step `b` reports a failed result. -/
def failingSecond : (request : OutsideCall Unit) → Except PyError request.Answer
  | .execute _ step => .ok (if step.stepId = "b" then .none else .dict ())
  | request => accepting request

/-- Step `a` commits under a key, and then a second batch fails. -/
def takenBack (check : Call Unit → System Unit Unit → Bool) : Cluster Unit :=
  rehearsedTurns check failingSecond
    [(0, .start "s" "" ""), (0, .execute "s" [sampleStep "a" (some "k")]),
      (0, .execute "s" [sampleStep "b" none])]

theorem taken_back_refused : InPlace (takenBack keepsPublished).store "s" "k" := by
  have reached : Turns Guarded (takenBack keepsPublished) :=
    rehearsed_turns_reached (fun _ _ passed => passed) _ _
  have always := (@published_keys_in_place Unit _ _ _ reached sampleWorker rfl 0).1
  exact always (.execute "s" []) _ _ .here "s" "k" (by decide)

/-- A rollback leaves the key behind. -/
theorem taken_back_leaves_key :
    ¬∀ cluster : Cluster Unit, Turns (fun _ _ => True) cluster → KeysInPlace cluster.store := by
  intro claim
  have held := claim (takenBack fun _ _ => true) (rehearsed_turns_reached (fun _ _ _ => trivial) _ _)
  obtain ⟨stepId, record, found, committed, keyed⟩ := held "s" "k" (by decide)
  have none' : ∀ record ∈ ((takenBack fun _ _ => true).store.effects "s").rows,
      record.state ≠ .committed := by decide
  exact none' record (Table.find_mem found) committed

end Runs

end SagaMind.PublishedKeys
