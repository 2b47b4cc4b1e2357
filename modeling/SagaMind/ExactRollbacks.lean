import SagaMind.Coordinator.Lifetime
import SagaMind.Coordinator.Workshop

/-!
# What a rollback undoes

The list of completed steps lives as long as the saga object and is never
shortened. The first rollback that finds something to undo undoes exactly the
steps that stand, newest first. Later ones find the same steps again: without
a store they are compensated a second time, and with one the rollback fails on
their records.
-/

namespace SagaMind.ExactRollbacks

open CallProgram KeyedTable Coordinator Workshop

set_option autoImplicit false

variable {Args : Type}

section Books

/-- What is noted of a saga. -/
inductive Happening (Args : Type) where
  /-- The action of a step succeeded. -/
  | committed (deed : Deed Args)
  /-- A rollback reads the completed steps. -/
  | rollback
  | compensated (call : Option String × ActionPayload Args)
  /-- A record is to be marked `AMBIGUOUS`. -/
  | ambiguous

/-- The steps that stand, newest first, and the compensations that the rollback
under way still owes. -/
structure Books (Args : Type) where
  standing : List (Deed Args) := []
  owed : List (Option String × ActionPayload Args) := []

/-- One entry. A rollback owes the compensations of all that stands, newest
first, and nothing else may be compensated. -/
def Books.post [DecidableEq Args] (books : Books Args) : Happening Args → Option (Books Args)
  | .committed deed =>
      if books.owed.isEmpty then some { standing := deed :: books.standing } else none
  | .rollback =>
      if books.owed.isEmpty then some { owed := books.standing.map Deed.undoing } else none
  | .compensated call =>
      match books.owed with
      | next :: rest => if call = next then some { books with owed := rest } else none
      | [] => none
  | .ambiguous => some books

def audit [DecidableEq Args] (log : List (Happening Args)) : Option (Books Args) :=
  log.foldlM Books.post {}

/-- Every rollback in the log compensated what stood, newest first, and nothing
was compensated besides. -/
def Audited [DecidableEq Args] (log : List (Happening Args)) : Prop :=
  ∃ standing, audit log = some { standing }

def undisturbed (log : List (Happening Args)) : Bool :=
  log.all fun
    | .compensated _ => false
    | _ => true

variable {log : List (Happening Args)} {standing : List (Deed Args)}

theorem undisturbed_append (more : List (Happening Args)) :
    undisturbed (log ++ more) = (undisturbed log && undisturbed more) :=
  List.all_append

variable [DecidableEq Args]

theorem audit_snoc (happening : Happening Args) :
    audit (log ++ [happening]) = (audit log).bind fun books => books.post happening := by
  unfold audit
  rw [List.foldlM_append]
  simp

theorem audit_committed (audited : audit log = some { standing }) (deed : Deed Args) :
    audit (log ++ [.committed deed]) = some { standing := deed :: standing } := by
  rw [audit_snoc, audited]
  rfl

theorem audit_rollback (audited : audit log = some { standing }) :
    audit (log ++ [.rollback]) = some { owed := standing.map Deed.undoing } := by
  rw [audit_snoc, audited]
  rfl

theorem audit_compensated {call : Option String × ActionPayload Args}
    {owed : List (Option String × ActionPayload Args)}
    (audited : audit log = some { standing, owed := call :: owed }) :
    audit (log ++ [.compensated call]) = some { standing, owed } := by
  rw [audit_snoc, audited]
  simp [Books.post]

theorem audit_ambiguous (audited : audit log = some { standing }) :
    audit (log ++ [.ambiguous]) = some { standing } := by
  rw [audit_snoc, audited]
  rfl

def undoes (call : Option String × ActionPayload Args) : Happening Args → Bool
  | .compensated other => other = call
  | _ => false

def does (call : Option String × ActionPayload Args) : Happening Args → Bool
  | .committed deed => deed.undoing = call
  | _ => false

theorem post_balances {before after : Books Args} {happening : Happening Args}
    (posted : before.post happening = some after) (call : Option String × ActionPayload Args) :
    (undoes call happening).toNat +
        (after.owed ++ after.standing.map Deed.undoing).count call =
      (does call happening).toNat +
        (before.owed ++ before.standing.map Deed.undoing).count call := by
  obtain ⟨standing, owed⟩ := before
  cases happening with
  | committed deed =>
      cases owed with
      | nil =>
          obtain rfl := Option.some.inj posted
          by_cases same : deed.undoing = call
          · simp [undoes, does, same]
            omega
          · simp [undoes, does, same]
      | cons next rest => cases posted
  | rollback =>
      cases owed with
      | nil =>
          obtain rfl := Option.some.inj posted
          simp [undoes, does]
      | cons next rest => cases posted
  | compensated other =>
      cases owed with
      | nil => cases posted
      | cons next rest =>
          dsimp only [Books.post] at posted
          split at posted
          · rename_i first
            obtain rfl := Option.some.inj posted
            by_cases same : next = call
            · simp [undoes, does, first, same]
              omega
            · simp [undoes, does, first, same]
          · cases posted
  | ambiguous =>
      obtain rfl := Option.some.inj posted
      simp [undoes, does]

theorem audit_balances {books : Books Args} (audited : audit log = some books)
    (call : Option String × ActionPayload Args) :
    log.countP (undoes call) + (books.owed ++ books.standing.map Deed.undoing).count call =
      log.countP (does call) := by
  induction log using List.reverseRecOn generalizing books with
  | nil =>
      obtain rfl : ({} : Books Args) = books := Option.some.inj audited
      rfl
  | append_singleton log happening ih =>
      rw [audit_snoc] at audited
      obtain ⟨before, earlier, posted⟩ := Option.bind_eq_some_iff.mp audited
      have balance := ih earlier
      have step := post_balances posted call
      rw [count_snoc, count_snoc]
      omega

theorem Audited.once (audited : Audited log) (call : Option String × ActionPayload Args) :
    log.countP (undoes call) ≤ log.countP (does call) := by
  obtain ⟨standing, books⟩ := audited
  have balance := audit_balances books call
  omega

end Books

section Setting

/-- The verifier and the sandbox may answer or raise anything, but every
compensation returns `True`. -/
def compensating : Outside Args (List (Happening Args)) where
  respond
    | .execute _ step, log, reply, after => after =
        match reply with
        | .ok result => if result.succeeded then log ++ [.committed (deed step)] else log
        | .error _ => log
    | .executeCompensation _ stepId compensation, log, reply, after =>
        reply = .ok true ∧ after = log ++ [.compensated (stepId, compensation)]
    | _, log, _, after => after = log
  observe request _ log :=
    match request with
    | .transitionEffect _ _ _ .ambiguous _ _ => log ++ [.ambiguous]
    | _ => log

def noticed : Call Args → System Args (List (Happening Args)) → System Args (List (Happening Args))
  | .memory (.completedSteps _), state => { state with world := state.world ++ [.rollback] }
  | _, state => state

variable [DecidableEq Args]

def recorded : Machine (coordinatorFace Args) (System Args (List (Happening Args))) where
  allowed := fun _ _ => True
  step := fun request before reply after =>
    serveCall compensating request (noticed request before) reply after

def startsUndisturbed : Call Args → System Args (List (Happening Args)) → Bool
  | .memory (.completedSteps _), state => undisturbed state.world
  | _, _ => true

variable [Inhabited Args]

/-- A saga that was started, and of which nothing is noted. -/
structure Started (sagaId : String) (state : System Args (List (Happening Args))) : Prop where
  active : ∃ saga, state.memory.active.find? sagaId = some saga ∧ saga.completedSteps = []
  blank : state.world = []

/-- The saga was rolled back; its durable status says so unless a step ended
ambiguous. -/
structure RolledBack (worker : Coordinator) (sagaId : String) (noted : List (Happening Args))
    (state : System Args (List (Happening Args))) : Prop where
  memory : ∃ saga, state.memory.active.find? sagaId = some saga ∧ saga.status = .rolledBack
  durable : worker.hasStore = true → .ambiguous ∉ noted →
    state.store.status? sagaId = some .rolledBack

end Setting

section Journal

variable {self : Coordinator} {sagaId : String} {steps : List (SagaStep Args)} {store after : Store Args}

/-- The journal, if there is one, has a committed record for each of the steps. -/
def Recorded (worker : Coordinator) (sagaId : String) (steps : List (SagaStep Args))
    (store : Store Args) : Prop :=
  worker.journals = true → (steps.map (·.stepId)).Nodup ∧ ∀ step ∈ steps, ∃ record,
    store.effect? sagaId step.stepId = some record ∧ record.state = .committed

theorem Recorded.reverse (recorded : Recorded self sagaId steps store) :
    Recorded self sagaId steps.reverse store := by
  intro journals
  obtain ⟨distinct, each⟩ := recorded journals
  constructor
  · rw [List.map_reverse, List.nodup_reverse]
    exact distinct
  · intro step member
    rw [List.mem_reverse] at member
    exact each step member

theorem recorded_nil : Recorded self sagaId ([] : List (SagaStep Args)) store :=
  fun _ => ⟨List.nodup_nil, fun _ member => absurd member List.not_mem_nil⟩

theorem Recorded.apart (recorded : Recorded self sagaId steps store) (journals : self.journals = true)
    {id : String}
    (other : ∀ record, store.effect? sagaId id = some record → record.state ≠ .committed) :
    ∀ step ∈ steps, step.stepId ≠ id := by
  intro step member same
  obtain ⟨record, found, committed⟩ := (recorded journals).2 step member
  rw [same] at found
  exact other record found committed

theorem Recorded.other_store (recorded : Recorded self sagaId steps store)
    (same : self.journals = true → ∀ step ∈ steps,
      after.effect? sagaId step.stepId = store.effect? sagaId step.stepId) :
    Recorded self sagaId steps after := by
  intro journals
  obtain ⟨distinct, each⟩ := recorded journals
  refine ⟨distinct, fun step member => ?_⟩
  rw [same journals step member]
  exact each step member

theorem recorded_append (recorded : Recorded self sagaId steps store) {step : SagaStep Args}
    (fresh : self.journals = true → ∀ other ∈ steps, other.stepId ≠ step.stepId)
    (committed : self.journals = true → ∃ record,
      store.effect? sagaId step.stepId = some record ∧ record.state = .committed) :
    Recorded self sagaId (steps ++ [step]) store := by
  intro journals
  obtain ⟨distinct, each⟩ := recorded journals
  constructor
  · rw [List.map_append, List.nodup_append]
    refine ⟨distinct, List.nodup_singleton _, ?_⟩
    intro id member other last same
    obtain ⟨earlier, listed, rfl⟩ := List.mem_map.mp member
    rw [List.map_singleton, List.mem_singleton] at last
    exact fresh journals earlier listed (same.trans last)
  · intro other member
    rcases List.mem_append.mp member with earlier | last
    · exact each other earlier
    · rw [List.mem_singleton.mp last]
      exact committed journals

end Journal

section Forward

variable [DecidableEq Args] {self : Coordinator} {sagaId : String}
  {origin : List (Happening Args)} {steps : List (SagaStep Args)} {step : SagaStep Args}
  {state : System Args (List (Happening Args))}

/-- The books are in order. As long as nothing was undone they agree with the
completed steps. -/
structure Underway (worker : Coordinator) (sagaId : String) (origin : List (Happening Args))
    (steps : List (SagaStep Args)) (state : System Args (List (Happening Args))) : Prop where
  active : ∃ saga, state.memory.active.find? sagaId = some saga ∧ saga.completedSteps = steps
  books : ∃ standing, audit state.world = some { standing } ∧
    (undisturbed state.world = true →
      standing = steps.reverse.map deed ∧ Recorded worker sagaId steps state.store)
  noted : ∃ noted, state.world = origin ++ noted ∧ .rollback ∉ noted

abbrev serving : Machine (coordinatorFace Args) (System Args (List (Happening Args))) :=
  machine compensating fun _ => True

theorem Underway.stores (underway : Underway self sagaId origin steps state) {store : Store Args}
    (same : self.journals = true → Recorded self sagaId steps state.store → ∀ other ∈ steps,
      store.effect? sagaId other.stepId = state.store.effect? sagaId other.stepId) :
    Underway self sagaId origin steps { state with store } where
  active := underway.active
  books := by
    obtain ⟨standing, audited, agrees⟩ := underway.books
    refine ⟨standing, audited, fun quiet => ?_⟩
    obtain ⟨shape, recorded⟩ := agrees quiet
    exact ⟨shape, recorded.other_store fun journals => same journals recorded⟩
  noted := underway.noted

theorem Underway.put (underway : Underway self sagaId origin steps state) {entry : Effect Args}
    (other : ∀ record, state.store.effect? sagaId entry.stepId = some record →
      record.state ≠ .committed) :
    Underway self sagaId origin steps { state with store := state.store.putEffect sagaId entry } := by
  apply underway.stores
  intro journals recorded step member
  rw [Store.effect_put_effect, if_neg]
  exact fun both => recorded.apart journals other step member both.2.symm

theorem marks_executing (underway : Underway self sagaId origin steps state) :
    wp serving (self.markExecuting sagaId step)
      (fun _ after => Underway self sagaId origin steps after ∧ (self.journals = true →
        ∃ record, after.store.effect? sagaId step.stepId = some record ∧
          record.state = .executing))
      (fun _ => Underway self sagaId origin steps) state := by
  unfold markExecuting
  rw [wp_ite]
  split
  · have starts : ∀ between, Underway self sagaId origin steps between → wp serving (do
        let _ ← flagged true false (onStore (.transitionEffect sagaId step.stepId [.prepared]
          .executing none none))
        pure ())
        (fun _ after => Underway self sagaId origin steps after ∧ (self.journals = true →
          ∃ record, after.store.effect? sagaId step.stepId = some record ∧
            record.state = .executing))
        (fun _ => Underway self sagaId origin steps) between := by
      intro between underway
      rw [wp_bind, wp_flagged]
      apply wp_transition trivial
      · intro entry found legal
        have own : entry.stepId = step.stepId := Table.find_key found
        have prepared : entry.state = .prepared := by simpa using legal
        constructor
        · apply underway.put
          intro record known
          rw [own, found] at known
          obtain rfl := Option.some.inj known
          rw [prepared]
          decide
        · exact fun _ => ⟨_, by rw [Store.effect_put_effect, if_pos ⟨rfl, own⟩], rfl⟩
      · exact fun refusal _ => underway
    rw [wp_bind, wp_flagged]
    apply wp_prepare trivial
    · exact fun existing _ _ => starts _ underway
    · intro entry unknown shape
      apply starts
      apply underway.put
      intro record known
      rw [shape, unknown] at known
      cases known
    · exact fun refusal => underway
  · rename_i unjournaled
    exact ⟨underway, fun journals => absurd journals unjournaled⟩

variable [Inhabited Args]

structure Ahead (worker : Coordinator) (sagaId : String) (origin : List (Happening Args))
    (step : SagaStep Args) (steps : List (SagaStep Args))
    (state : System Args (List (Happening Args))) : Prop where
  active : ∃ saga, state.memory.active.find? sagaId = some saga ∧ saga.completedSteps = steps
  books : ∃ standing, audit state.world = some { standing := deed step :: standing } ∧
    (undisturbed state.world = true →
      standing = steps.reverse.map deed ∧ Recorded worker sagaId steps state.store)
  noted : ∃ noted, state.world = origin ++ noted ∧ .rollback ∉ noted
  current : worker.journals = true → ∃ record,
    state.store.effect? sagaId step.stepId = some record ∧ record.state = .executing

omit [DecidableEq Args] [Inhabited Args] in
theorem completed_append {memory : Memory Args} {saga : SagaTransaction Args}
    (found : memory.active.find? sagaId = some saga) (step : SagaStep Args) :
    ∃ next, ((MemoryCall.appendCompleted sagaId step).serve memory).2.active.find? sagaId =
      some next ∧ next.completedSteps = saga.completedSteps ++ [step] := by
  exact ⟨{ saga with completedSteps := saga.completedSteps ++ [step] }, Memory.find_amend found rfl, rfl⟩

/-- A store in which the record of the step is committed and the others are as before. -/
structure CommittedIn (worker : Coordinator) (sagaId stepId : String) (before after : Store Args) :
    Prop where
  committed : worker.journals = true →
    ∃ record, after.effect? sagaId stepId = some record ∧ record.state = .committed
  others : worker.journals = true →
    ∀ id, id ≠ stepId → after.effect? sagaId id = before.effect? sagaId id

omit [Inhabited Args] in
/-- Once the step is committed and among the completed ones, it is on the books. -/
theorem Ahead.commit (ahead : Ahead self sagaId origin step steps state) {store : Store Args}
    (journal : CommittedIn self sagaId step.stepId state.store store) :
    Underway self sagaId origin (steps ++ [{ step with status := .committed }])
      { state with
        store
        memory := ((MemoryCall.appendCompleted sagaId { step with status := .committed }).serve
          state.memory).2 } := by
  constructor
  · obtain ⟨saga, found, rfl⟩ := ahead.active
    exact completed_append found _
  · obtain ⟨standing, audited, agrees⟩ := ahead.books
    refine ⟨deed step :: standing, audited, fun quiet => ?_⟩
    obtain ⟨rfl, recorded⟩ := agrees quiet
    have fresh : self.journals = true → ∀ other ∈ steps, other.stepId ≠ step.stepId := by
      intro journals
      apply recorded.apart journals
      intro record found
      obtain ⟨started, known, executing⟩ := ahead.current journals
      obtain rfl : started = record := Option.some.inj (known.symm.trans found)
      rw [executing]
      decide
    constructor
    · simp [deed]
    · apply recorded_append
      · apply recorded.other_store
        exact fun journals other member =>
          journal.others journals _ (fresh journals other member)
      · exact fresh
      · exact journal.committed
  · exact ahead.noted

/-- What follows the commit of a record only adds to its history. -/
theorem records_committed {result : ExecuteResult Args}
    (ahead : Ahead self sagaId origin step steps state) {store : Store Args}
    (journal : CommittedIn self sagaId step.stepId state.store store) :
    wp serving (do
      flagged self.journals false
        (self.recordHistory sagaId { step with status := .committed } result)
      pure { step with status := .committed })
      (fun committed after => committed.status = .committed ∧
        ∃ steps, Underway self sagaId origin steps after) (fun _ _ => False)
      { state with
        store
        memory := ((MemoryCall.appendCompleted sagaId { step with status := .committed }).serve
          state.memory).2 } := by
  unfold recordHistory
  rw [wp_bind, wp_flagged, wp_ite]
  split
  · apply wp_record_step trivial
    have recorded entry : CommittedIn self sagaId step.stepId state.store
        (store.recordStep sagaId entry) :=
      ⟨journal.committed, journal.others⟩
    exact ⟨rfl, _, ahead.commit (recorded _)⟩
  · exact ⟨rfl, _, ahead.commit journal⟩

theorem commits_ahead {result : ExecuteResult Args}
    (ahead : Ahead self sagaId origin step steps state) :
    wp serving (self.commitStep sagaId step result)
      (fun committed after => committed.status = .committed ∧
        ∃ steps, Underway self sagaId origin steps after)
      (fun _ _ => False) state := by
  unfold commitStep markApplied publishStep publishUnjournaled
  rw [wp_bind, wp_ite]
  split
  · rename_i journals
    obtain ⟨started, known, executing⟩ := ahead.current journals
    rw [wp_bind, wp_flagged]
    apply wp_transition trivial
    · intro entry found legal
      have own : entry.stepId = step.stepId := Table.find_key found
      rw [wp_pure, wp_bind, wp_flagged]
      apply wp_memory trivial
      rw [wp_bind, wp_bind, wp_flagged]
      apply wp_commit trivial
      · intro moved present _
        have same : moved.stepId = step.stepId := Table.find_key present
        apply records_committed ahead
        constructor
        · exact fun _ =>
            ⟨_, by rw [Store.effect_publish, Store.effect_put_effect, if_pos ⟨rfl, same⟩], rfl⟩
        · intro _ id apart
          rw [Store.effect_publish, Store.effect_put_effect, if_neg, Store.effect_put_effect,
            if_neg]
          · exact fun both => apart (both.2.symm.trans own)
          · exact fun both => apart (both.2.symm.trans same)
      · intro refusal illegal
        exact illegal _ (by rw [Store.effect_put_effect, if_pos ⟨rfl, own⟩]) rfl
    · intro refusal illegal
      apply illegal started known
      simp [executing]
  · rename_i unjournaled
    have unbound : ∀ store, CommittedIn self sagaId step.stepId state.store store :=
      fun _ => ⟨fun journals => absurd journals unjournaled,
        fun journals => absurd journals unjournaled⟩
    rw [wp_pure, wp_bind, wp_flagged]
    apply wp_memory trivial
    rw [wp_bind, wp_flagged, wp_ite]
    split
    · rw [wp_bind]
      refine (wp_on_store _ _ _ _).mpr ⟨trivial, ?_⟩
      simp only [StoreCall.serve, replied_ok, afterStore]
      rw [wp_ite]
      split
      · refine (wp_on_store _ _ _ _).mpr ⟨trivial, ?_⟩
        exact records_committed ahead (unbound _)
      · exact records_committed ahead (unbound _)
    · exact records_committed ahead (unbound _)

/-- A step is executed and on the books, or it fails with the books in order. -/
theorem executes_step (underway : Underway self sagaId origin steps state) :
    wp serving (self.executeStep sagaId step)
      (fun committed after => committed.status = .committed ∧
        ∃ steps, Underway self sagaId origin steps after)
      (fun _ after => ∃ steps, Underway self sagaId origin steps after) state := by
  apply execute_step_rule fun between => Underway self sagaId origin steps between ∧
    (self.journals = true → ∃ record, between.store.effect? sagaId step.stepId = some record ∧
      record.state = .executing)
  case marks =>
    apply wp_mono (marks_executing underway)
    · exact fun _ _ marked => marked
    · exact fun _ after underway => ⟨steps, underway⟩
  case runs =>
    intro between ⟨underway, current⟩
    apply wp_outside trivial
    · intro result world answered
      replace answered : world =
        if result.succeeded then between.world ++ [.committed (deed step)] else between.world :=
        answered
      split
      · rename_i succeeded
        rw [if_pos succeeded] at answered
        have ahead : Ahead self sagaId origin step steps { between with world } := by
          constructor
          · exact underway.active
          · obtain ⟨standing, audited, agrees⟩ := underway.books
            refine ⟨standing, ?_, fun quiet => agrees ?_⟩
            · rw [answered]
              exact audit_committed audited _
            · dsimp only at quiet
              rw [answered, undisturbed_append, Bool.and_eq_true] at quiet
              exact quiet.1
          · obtain ⟨noted, same, calm⟩ := underway.noted
            refine ⟨noted ++ [.committed (deed step)], ?_, ?_⟩
            · dsimp only
              rw [answered, same, List.append_assoc]
            · simp [calm]
          · exact current
        apply wp_unfailing (commits_ahead ahead)
        exact fun _ _ reached => reached
      · rename_i refused
        rw [if_neg refused] at answered
        subst answered
        unfold abortStep
        rw [wp_ite]
        split
        · rename_i journals
          rw [wp_bind, wp_flagged]
          apply wp_transition trivial
          · intro entry found legal
            have own : entry.stepId = step.stepId := Table.find_key found
            have executing : entry.state = .executing := by simpa using legal
            refine ⟨steps, ?_⟩
            apply underway.put
            intro record known
            rw [own, found] at known
            obtain rfl := Option.some.inj known
            rw [executing]
            decide
          · exact fun refusal _ => ⟨steps, underway⟩
        · exact ⟨steps, underway⟩
    · intro error world answered
      obtain rfl : world = between.world := answered
      exact ⟨steps, underway⟩

end Forward

section Rollback

variable [DecidableEq Args] {self : Coordinator} {sagaId : String}
  {origin : List (Happening Args)} {steps : List (SagaStep Args)} {step : SagaStep Args}
  {rest : List (SagaStep Args)} {state : System Args (List (Happening Args))}

structure Rolling (worker : Coordinator) (sagaId : String) (origin : List (Happening Args))
    (remaining : List (SagaStep Args)) (state : System Args (List (Happening Args))) : Prop where
  active : ∃ saga, state.memory.active.find? sagaId = some saga ∧
    (undisturbed state.world = true → saga.completedSteps.reverse = remaining)
  books : audit state.world = some { owed := remaining.map fun step => (deed step).undoing }
  recorded : Recorded worker sagaId remaining state.store
  noted : ∃ noted, state.world = origin ++ noted

structure Undone (worker : Coordinator) (sagaId : String) (origin : List (Happening Args))
    (state : System Args (List (Happening Args))) : Prop where
  active : ∃ saga, state.memory.active.find? sagaId = some saga ∧ saga.status = .rolledBack ∧
    (undisturbed state.world = true → saga.completedSteps = [])
  books : audit state.world = some {}
  durable : worker.hasStore = true → state.store.status? sagaId = some .rolledBack
  noted : ∃ noted, state.world = origin ++ noted

omit [DecidableEq Args] in
theorem compensating_unobserved : Unobserved (compensating : Outside Args _) := by
  constructor
  · exact fun _ _ _ _ => rfl
  · rintro sagaId stepId expected newState result error reply world (rfl | rfl) <;> rfl

theorem undoes_step (rolling : Rolling self sagaId origin (step :: rest) state) :
    wp serving (self.undoStep sagaId step)
      (fun goOn after => if goOn then Rolling self sagaId origin rest after
        else Undone self sagaId origin after) (fun _ _ => False) state := by
  have booked : self.journals = true → ∃ record,
      state.store.effect? sagaId step.stepId = some record ∧ record.state = .committed :=
    fun journals => (rolling.recorded journals).2 step (List.mem_cons_self ..)
  have answers : ∀ reply world, (compensating : Outside Args _).respond
      (.executeCompensation sagaId (some step.stepId) step.compensation) state.world reply world →
      reply = .ok true ∧ world = state.world ++ [.compensated (deed step).undoing] :=
    fun _ _ answered => answered
  unfold undoStep
  rw [wp_attempt]
  apply wp_unfailing (compensates_step compensating_unobserved booked answers)
  intro goOn after ⟨goes, memory, world, others⟩
  rw [if_pos goes]
  constructor
  · obtain ⟨saga, found, _⟩ := rolling.active
    refine ⟨saga, by rw [memory, found], fun quiet => ?_⟩
    rw [world, undisturbed_append, Bool.and_eq_true] at quiet
    simp [undisturbed] at quiet
  · rw [world]
    exact audit_compensated rolling.books
  · intro journals
    obtain ⟨distinct, each⟩ := rolling.recorded journals
    rw [List.map_cons, List.nodup_cons] at distinct
    refine ⟨distinct.2, fun other member => ?_⟩
    rw [others]
    · exact each other (List.mem_cons_of_mem _ member)
    · intro same
      exact distinct.1 (List.mem_map.mpr ⟨other, member, same⟩)
  · obtain ⟨noted, same⟩ := rolling.noted
    refine ⟨noted ++ [.compensated (deed step).undoing], ?_⟩
    rw [world, same, List.append_assoc]

theorem closes_rollback (rolling : Rolling self sagaId origin [] state) :
    wp serving (self.closeRollback sagaId) (fun _ => Undone self sagaId origin)
      (fun _ _ => False) state := by
  obtain ⟨saga, found, rest⟩ := rolling.active
  have own : saga.sagaId = sagaId := Table.find_key found
  have active : ∃ saga, ((MemoryCall.setStatusIfActive sagaId .rolledBack).serve
      state.memory).2.active.find? sagaId = some saga ∧ saga.status = .rolledBack ∧
      (undisturbed state.world = true → saga.completedSteps = []) := by
    refine ⟨{ saga with status := .rolledBack }, ?_, rfl, fun quiet => ?_⟩
    · simp [MemoryCall.serve, found, own]
    · exact List.reverse_eq_nil_iff.mp (rest quiet)
  unfold closeRollback writeStatus
  rw [wp_bind]
  apply wp_memory trivial
  rw [wp_ite]
  split
  · apply wp_write_state trivial
    constructor
    · exact active
    · exact rolling.books
    · intro _
      rw [Store.status_write_state, if_pos rfl]
    · exact rolling.noted
  · rename_i storeless
    constructor
    · exact active
    · exact rolling.books
    · exact fun stored => absurd stored storeless
    · exact rolling.noted

/-- What holds when a call returns: the books are in order, and a rollback that
was noted is complete. -/
structure Returned (worker : Coordinator) (sagaId : String) (origin : List (Happening Args))
    (state : System Args (List (Happening Args))) : Prop where
  books : ∃ standing, audit state.world = some { standing } ∧
    ∀ saga, state.memory.active.find? sagaId = some saga → undisturbed state.world = true →
      standing = saga.completedSteps.reverse.map deed ∧
        Recorded worker sagaId saga.completedSteps state.store
  noted : ∃ noted, state.world = origin ++ noted ∧
    (.rollback ∈ noted → RolledBack worker sagaId noted state)

abbrev Settled (worker : Coordinator) (sagaId : String)
    (state : System Args (List (Happening Args))) : Prop :=
  Returned worker sagaId state.world state

theorem Underway.returned (underway : Underway self sagaId origin steps state) :
    Returned self sagaId origin state := by
  obtain ⟨saga, found, rfl⟩ := underway.active
  obtain ⟨standing, audited, agrees⟩ := underway.books
  obtain ⟨noted, same, calm⟩ := underway.noted
  constructor
  · refine ⟨standing, audited, fun other known quiet => ?_⟩
    obtain rfl : saga = other := Option.some.inj (found.symm.trans known)
    exact agrees quiet
  · exact ⟨noted, same, fun rolled => absurd rolled calm⟩

theorem Undone.returned (undone : Undone self sagaId origin state) :
    Returned self sagaId origin state := by
  obtain ⟨saga, found, status, none_left⟩ := undone.active
  obtain ⟨noted, same⟩ := undone.noted
  constructor
  · refine ⟨[], undone.books, fun other known quiet => ?_⟩
    obtain rfl : saga = other := Option.some.inj (found.symm.trans known)
    rw [none_left quiet]
    exact ⟨rfl, recorded_nil⟩
  · exact ⟨noted, same, fun _ => ⟨⟨saga, found, status⟩, fun stored _ => undone.durable stored⟩⟩

theorem Returned.underway (returned : Returned self sagaId origin state) {saga : SagaTransaction Args}
    (found : state.memory.active.find? sagaId = some saga) :
    Underway self sagaId state.world saga.completedSteps state := by
  obtain ⟨standing, audited, agrees⟩ := returned.books
  constructor
  · exact ⟨saga, found, rfl⟩
  · exact ⟨standing, audited, agrees saga found⟩
  · exact ⟨[], by rw [List.append_nil], List.not_mem_nil⟩

end Rollback

section Lifting

variable {self : Coordinator} {sagaId : String}

def Plain : Call Args → Prop
  | .memory (.completedSteps _) => False
  | _ => True

variable [DecidableEq Args] {permits : Call Args → System Args (List (Happening Args)) → Prop}

end Lifting

section Batches

variable [DecidableEq Args] {self : Coordinator} {sagaId : String}
  {origin : List (Happening Args)} {steps : List (SagaStep Args)}
  {state : System Args (List (Happening Args))}

/-- Fields of the saga object may be assigned, but for its completed steps. -/
theorem Underway.amend (underway : Underway self sagaId origin steps state)
    {change : SagaTransaction Args → SagaTransaction Args}
    (own : ∀ saga, (change saga).sagaId = saga.sagaId)
    (kept : ∀ saga, (change saga).completedSteps = saga.completedSteps) :
    Underway self sagaId origin steps
      { state with memory := state.memory.amend sagaId change } where
  active := by
    obtain ⟨saga, found, rfl⟩ := underway.active
    exact ⟨change saga, Memory.find_amend found (own saga), kept saga⟩
  books := underway.books
  noted := underway.noted

theorem Underway.restatus (underway : Underway self sagaId origin steps state)
    (status : SagaStatus) :
    Underway self sagaId origin steps
      { state with memory := ((MemoryCall.setStatus sagaId status).serve state.memory).2 } :=
  underway.amend (fun _ => rfl) fun _ => rfl

theorem Underway.suspend (underway : Underway self sagaId origin steps state)
    (pending : List (SagaStep Args)) :
    Underway self sagaId origin steps
      { state with memory := ((MemoryCall.setPending sagaId pending).serve state.memory).2 } :=
  underway.amend (fun _ => rfl) fun _ => rfl

theorem Underway.evicted (underway : Underway self sagaId origin steps state) (limit : Nat) :
    Returned self sagaId origin
      { state with memory := ((MemoryCall.evictIfNeeded limit).serve state.memory).2 } := by
  obtain ⟨saga, found, rfl⟩ := underway.active
  obtain ⟨standing, audited, agrees⟩ := underway.books
  obtain ⟨noted, same, calm⟩ := underway.noted
  constructor
  · refine ⟨standing, audited, fun other known quiet => ?_⟩
    rcases Memory.evict_drops limit state.memory.active.rows state.memory with dropped | stays
    · exact absurd (dropped.symm.trans known) (by simp)
    · obtain rfl : saga = other := Option.some.inj (found.symm.trans (stays.symm.trans known))
      exact agrees quiet
  · exact ⟨noted, same, fun rolled => absurd rolled calm⟩

theorem writes_status (underway : Underway self sagaId origin steps state) (status : SagaStatus)
    (metadata : Metadata Args) :
    wp serving (self.writeStatus sagaId status metadata)
      (fun _ => Underway self sagaId origin steps) (fun _ _ => False) state := by
  unfold writeStatus
  rw [wp_ite]
  split
  · apply wp_write_state trivial
    apply underway.stores
    exact fun _ _ _ _ => Store.effect_write_state ..
  · exact underway

theorem reads_steps (underway : Underway self sagaId origin steps state) :
    wp (recorded.limit fun request state => startsUndisturbed request state = true)
      (completedSteps sagaId) (fun steps => Rolling self sagaId origin steps.reverse)
      (fun _ _ => False) state := by
  unfold completedSteps
  rw [onMemory, wp_perform]
  refine ⟨trivial, ?_⟩
  rintro reply after ⟨quiet, rfl, rfl⟩
  obtain ⟨saga, found, rfl⟩ := underway.active
  obtain ⟨standing, audited, agrees⟩ := underway.books
  obtain ⟨noted, same, _⟩ := underway.noted
  obtain ⟨rfl, recorded⟩ := agrees quiet
  have answer : ((MemoryCall.completedSteps sagaId).serve state.memory).1 = saga.completedSteps := by
    simp [MemoryCall.serve, Memory.held?, found]
  rw [replied_ok]
  dsimp only [noticed]
  rw [answer]
  constructor
  · exact ⟨saga, found, fun _ => rfl⟩
  · rw [audit_rollback audited, List.map_map]
    rfl
  · exact recorded.reverse
  · exact ⟨noted ++ [.rollback], by rw [same, List.append_assoc]⟩

/-- A step of unknown outcome is quarantined after the rollback. -/
theorem Undone.doubtful (undone : Undone self sagaId origin state) (store : Store Args) :
    Returned self sagaId origin
      { state with store, world := state.world ++ [.ambiguous] } := by
  obtain ⟨saga, found, status, none_left⟩ := undone.active
  obtain ⟨noted, same⟩ := undone.noted
  constructor
  · refine ⟨[], audit_ambiguous undone.books, fun other known quiet => ?_⟩
    obtain rfl : saga = other := Option.some.inj (found.symm.trans known)
    rw [undisturbed_append, Bool.and_eq_true] at quiet
    rw [none_left quiet.1]
    exact ⟨rfl, recorded_nil⟩
  · refine ⟨noted ++ [.ambiguous], ?_, fun _ => ⟨⟨saga, found, status⟩, fun _ certain => ?_⟩⟩
    · rw [same, List.append_assoc]
    · exact absurd (List.mem_append_right _ (List.mem_singleton_self _)) certain

theorem quarantines_step (undone : Undone self sagaId origin state) (step : SagaStep Args) :
    wp serving (quarantineStep sagaId step) (fun _ => Returned self sagaId origin)
      (fun _ _ => False) state := by
  unfold quarantineStep deadLetterRecovery
  rw [wp_bind, wp_attempt, wp_bind]
  apply wp_transition trivial
  · intro entry _ _
    rw [wp_pure, wp_bind]
    apply wp_write_state trivial
    apply wp_push_dead_letter trivial
    exact undone.doubtful _
  · intro refusal _
    rw [wp_pure, wp_bind]
    apply wp_write_state trivial
    apply wp_push_dead_letter trivial
    exact undone.doubtful _

theorem asks_nothing {Value : Type} {action : Action Args Value} (uses : Uses Enquiry action)
    (underway : Underway self sagaId origin steps state) :
    wp serving action (fun _ => Underway self sagaId origin steps)
      (fun _ => Underway self sagaId origin steps) state := by
  have kept : ∀ request before reply after, Enquiry request →
      Underway self sagaId origin steps before →
      serveCall compensating request before reply after →
      Underway self sagaId origin steps after := by
    intro request before reply after enquiry underway taken
    rcases request with request | request | request
    · exact enquiry.elim
    · cases request with
      | stepAlreadyCommitted owner key =>
          obtain ⟨_, rfl⟩ := taken
          exact underway
      | _ => exact enquiry.elim
    · cases request with
      | verify | validate =>
          obtain ⟨world, same, rfl⟩ := taken
          obtain rfl : world = before.world := same
          exact underway
      | _ => exact enquiry.elim
  apply wp_mono (wp_maintains (fun _ _ _ _ => trivial) kept (uses ()) underway)
  · exact fun _ _ reached => reached.2
  · exact fun _ _ reached => reached.2

variable [Inhabited Args]

end Batches

section Runs

variable [DecidableEq Args] [Inhabited Args] {self : Coordinator} {sagaId : String}
  {origin : List (Happening Args)} {initial state : System Args (List (Happening Args))}

omit [Inhabited Args] in
theorem Returned.settled (returned : Returned self sagaId origin state) :
    Settled self sagaId state :=
  ⟨returned.books, [], by rw [List.append_nil], fun rolled => absurd rolled List.not_mem_nil⟩

omit [Inhabited Args] in
theorem Started.settled (started : Started sagaId initial) : Settled self sagaId initial := by
  obtain ⟨saga, found, fresh⟩ := started.active
  have underway : Underway self sagaId initial.world [] initial := by
    constructor
    · exact ⟨saga, found, fresh⟩
    · rw [started.blank]
      exact ⟨[], rfl, fun _ => ⟨rfl, recorded_nil⟩⟩
    · exact ⟨[], by rw [List.append_nil], List.not_mem_nil⟩
  exact underway.returned

end Runs

end SagaMind.ExactRollbacks
