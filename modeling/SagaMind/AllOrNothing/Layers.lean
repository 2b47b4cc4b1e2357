import SagaMind.Coordinator.Walk
import SagaMind.Coordinator.Workshop

/-!
# One batch over its journal

The journal of a batch has the committed records first, then at most one record
that is being worked on, then settled ones. What is in place in the world stacks
up along the journal, so whoever takes it off, the live rollback or a recovery,
takes it off newest first.
-/

namespace SagaMind.AllOrNothing

open CallProgram KeyedTable Coordinator Undoing Walk Workshop

set_option autoImplicit false

variable {Args W : Type}

def publishedKey (step : SagaStep Args) : Option String :=
  if truthy step.idempotencyKey then step.idempotencyKey else none

structure Batch (Args W : Type) where
  sagaId : String
  sandbox : Sandbox Args W
  start : W
  steps : List (SagaStep Args)
  distinct : (steps.map (·.stepId)).Nodup
  keyed : (steps.filterMap publishedKey).Nodup
  ungated : ∀ step ∈ steps, step.requiresApproval = false
  reversible : ∀ step ∈ steps, Reversible sandbox (deed step)

/-- A resolver that knows whether the call took effect. -/
def Truthful (took : Prop) (reply : Except PyError ResolverValue) : Prop :=
  ∃ value, reply = .ok value ∧ (took → normaliseResolution value = .applied) ∧
    (¬took → normaliseResolution value = .notApplied)

/-- The workshop with truthful resolvers. Calls for other sagas leave this world
alone. -/
def bench (batch : Batch Args W) : Outside Args (Site Args W) where
  respond
    | .executeCompensation owner stepId compensation, site, reply, after =>
        if owner = batch.sagaId then
          (workshop batch.sandbox).respond (.executeCompensation owner stepId compensation) site
            reply after
        else after = site
    | .resolveEffect effect, site, reply, after => after = site ∧
        (effect.sagaId = batch.sagaId →
          Truthful (effect.stepId ∈ site.executed.map Deed.stepId) reply)
    | .resolveCompensation effect, site, reply, after => after = site ∧
        (effect.sagaId = batch.sagaId →
          Truthful (some effect.stepId ∈ site.compensated.map Prod.fst) reply)
    | request, site, reply, after => (workshop batch.sandbox).respond request site reply after
  observe := fun _ _ site => site

def recorded (effect : Effect Args) : Deed Args :=
  ⟨effect.stepId, effect.action, effect.compensation⟩

section Journal

/-- The journal of the saga: committed records, at most one that is being worked
on, and settled ones. `standing` has the newest first. -/
structure Books (sagaId : String) (standing : List (Effect Args)) (middle : Option (Effect Args))
    (past : List (Effect Args)) (journal : Journal Args) : Prop where
  rows : journal.rows = standing.reverse ++ middle.toList ++ past
  committed : ∀ row ∈ standing, row.state = .committed
  settled : ∀ row ∈ past, settled row.state = true
  owned : ∀ row ∈ standing ++ middle.toList, row.sagaId = sagaId

variable {sagaId : String} {standing past : List (Effect Args)} {row moved : Effect Args}
  {journal : Journal Args}

theorem Books.find (books : Books sagaId standing (some row) past journal) :
    journal.find? row.stepId = some row := by
  apply Table.find_of_mem
  rw [books.rows]
  simp

theorem Books.prepare (books : Books sagaId standing none [] journal)
    (own : row.sagaId = sagaId) (absent : journal.find? row.stepId = none) :
    Books sagaId standing (some row) [] (journal.put row) := by
  constructor
  · rw [Table.rows_put_absent absent, books.rows]
    simp
  · exact books.committed
  · exact books.settled
  · intro other member
    rcases List.mem_append.mp member with old | new
    · exact books.owned other (List.mem_append_left _ old)
    · obtain rfl : other = row := by simpa using new
      exact own

theorem Books.put (books : Books sagaId standing (some row) past journal)
    (same : row.stepId = moved.stepId) (own : moved.sagaId = row.sagaId) :
    Books sagaId standing (some moved) past (journal.put moved) := by
  have shape : journal.rows = standing.reverse ++ row :: past := by
    rw [books.rows]
    simp
  constructor
  · rw [Table.rows_put_at shape same]
    simp
  · exact books.committed
  · exact books.settled
  · intro other member
    rcases List.mem_append.mp member with old | new
    · exact books.owned other (List.mem_append_left _ old)
    · obtain rfl : other = moved := by simpa using new
      rw [own]
      exact books.owned row (by simp)

theorem Books.commit (books : Books sagaId standing (some row) [] journal)
    (committed : row.state = .committed) : Books sagaId (row :: standing) none [] journal := by
  constructor
  · rw [books.rows]
    simp
  · intro other member
    rcases List.mem_cons.mp member with rfl | old
    · exact committed
    · exact books.committed other old
  · exact books.settled
  · intro other member
    apply books.owned
    simp only [Option.toList_none, List.append_nil, List.mem_cons] at member
    simp only [Option.toList_some, List.mem_append, List.mem_singleton]
    exact member.symm

theorem Books.reopen (books : Books sagaId (row :: standing) none past journal) :
    Books sagaId standing (some row) past journal := by
  constructor
  · rw [books.rows]
    simp
  · exact fun other member => books.committed other (List.mem_cons_of_mem _ member)
  · exact books.settled
  · intro other member
    apply books.owned
    simp only [Option.toList_some, List.mem_append, List.mem_singleton] at member
    simp only [Option.toList_none, List.append_nil, List.mem_cons]
    exact member.symm

theorem Books.settle (books : Books sagaId standing (some row) past journal)
    (finished : Walk.settled row.state = true) : Books sagaId standing none (row :: past) journal := by
  constructor
  · rw [books.rows]
    simp
  · exact books.committed
  · intro other member
    rcases List.mem_cons.mp member with rfl | old
    · exact finished
    · exact books.settled other old
  · exact fun other member => books.owned other (by simp_all)

end Journal

section Site

/-- What is in place stacks up to the world. The rest of what was executed is
compensated, in the same order. -/
structure Scene (batch : Batch Args W) (inPlace : List (Deed Args)) (site : Site Args W) :
    Prop where
  stacked : Stacked (applies batch.sandbox) batch.start inPlace site.world
  undone : ∃ gone, site.executed = gone ++ inPlace ∧ site.compensated = gone.map Deed.undoing
  progress : ∃ done rest, batch.steps = done ++ rest ∧ site.executed = (done.map deed).reverse

variable {batch : Batch Args W} {inPlace : List (Deed Args)} {site after : Site Args W}
  {top : Deed Args}

theorem Scene.executed_distinct (scene : Scene batch inPlace site) :
    (site.executed.map Deed.stepId).Nodup := by
  obtain ⟨done, rest, split, executed⟩ := scene.progress
  have ids : site.executed.map Deed.stepId = (done.map (·.stepId)).reverse := by
    rw [executed, List.map_reverse, List.map_map]
    rfl
  rw [ids, List.nodup_reverse]
  have distinct := batch.distinct
  rw [split, List.map_append] at distinct
  exact (List.nodup_append.mp distinct).1

theorem Scene.top_reversible (scene : Scene batch (top :: inPlace) site) :
    Reversible batch.sandbox top := by
  obtain ⟨gone, split, -⟩ := scene.undone
  obtain ⟨done, rest, batched, executed⟩ := scene.progress
  have member : top ∈ (done.map deed).reverse := by
    rw [← executed, split]
    simp
  obtain ⟨step, old, rfl⟩ := List.mem_map.mp (List.mem_reverse.mp member)
  apply batch.reversible
  rw [batched]
  exact List.mem_append_left _ old

theorem Scene.top_executed (scene : Scene batch (top :: inPlace) site) :
    top.stepId ∈ site.executed.map Deed.stepId := by
  obtain ⟨gone, split, -⟩ := scene.undone
  rw [split]
  simp

theorem Scene.top_uncompensated (scene : Scene batch (top :: inPlace) site) :
    some top.stepId ∉ site.compensated.map Prod.fst := by
  obtain ⟨gone, split, compensated⟩ := scene.undone
  have distinct := scene.executed_distinct
  rw [split, List.map_append] at distinct
  intro member
  rw [compensated, List.map_map] at member
  obtain ⟨other, old, same⟩ := List.mem_map.mp member
  apply (List.nodup_append.mp distinct).2.2 other.stepId (List.mem_map_of_mem old) top.stepId
  · simp
  · exact Option.some.inj same

theorem Scene.take_off (scene : Scene batch (top :: inPlace) site) {owner : String}
    {reply : Except PyError Bool}
    (answered : (workshop batch.sandbox).respond
      (.executeCompensation owner (some top.stepId) top.compensation) site reply after) :
    reply = .ok true ∧ Scene batch inPlace after ∧
      some top.stepId ∈ after.compensated.map Prod.fst := by
  obtain ⟨world, undone, rfl⟩ := answered
  obtain ⟨gone, split, compensated⟩ := scene.undone
  have stacked := scene.stacked
  cases stacked with
  | push earlier applied =>
      obtain ⟨succeeded, back⟩ := scene.top_reversible _ _ _ _ applied undone
      refine ⟨succeeded, ?_, by simp⟩
      constructor
      · rw [back]
        exact earlier
      · refine ⟨gone ++ [top], ?_, ?_⟩
        · rw [split]
          simp
        · rw [compensated, List.map_append]
          rfl
      · exact scene.progress

def standable : EffectState → Bool
  | .executing | .applied | .committed | .compensating => true
  | _ => false

inductive Placed (site : Site Args W) : Option (Effect Args) → Option (Deed Args) → Prop
  | nothing : Placed site none none
  | prepared {row} (state : row.state = .prepared) : Placed site (some row) none
  | unapplied {row} (state : row.state = .executing)
      (fresh : row.stepId ∉ site.executed.map Deed.stepId) : Placed site (some row) none
  | stands {row} (state : standable row.state = true) :
      Placed site (some row) (some (recorded row))
  | undone {row} (state : row.state = .compensating)
      (taken : some row.stepId ∈ site.compensated.map Prod.fst) : Placed site (some row) none
  | finished {row} (state : settled row.state = true) : Placed site (some row) none

end Site

section Layers

structure Layered (batch : Batch Args W) (standing : List (Effect Args))
    (middle : Option (Effect Args)) (placed : Option (Deed Args)) (past : List (Effect Args))
    (state : System Args (Site Args W)) : Prop where
  alive : Recoverable state.store batch.sagaId
  books : Books batch.sagaId standing middle past (state.store.effects batch.sagaId)
  site : Placed state.world middle placed
  scene : Scene batch (placed.toList ++ standing.map recorded) state.world
  unkeyed : ∀ row ∈ middle, row.state = .executing → truthy row.idempotencyKey = true →
    state.store.stepAlreadyCommitted batch.sagaId (row.idempotencyKey.getD "") = false
  plain : state.store.comps batch.sagaId = []

/-- How the saga may end. -/
inductive Outcome (batch : Batch Args W) (state : System Args (Site Args W)) : Prop
  | committed (status : state.store.status? batch.sagaId = some .committed)
      (all : state.world.executed = (batch.steps.map deed).reverse)
      (kept : state.world.compensated = [])
      (stacked : Stacked (applies batch.sandbox) batch.start state.world.executed
        state.world.world)
  | rolledBack (status : state.store.status? batch.sagaId = some .rolledBack)
      (quiet : ∀ stepId record, state.store.effect? batch.sagaId stepId = some record →
        record.state = .aborted ∨ record.state = .compensated)
      (progress : ∃ done rest, batch.steps = done ++ rest ∧
        state.world.executed = (done.map deed).reverse)
      (order : state.world.compensated = state.world.executed.map Deed.undoing)
      (restored : state.world.world = batch.start)

def Safe (batch : Batch Args W) (state : System Args (Site Args W)) : Prop :=
  Outcome batch state ∨
    ∃ standing middle placed past, Layered batch standing middle placed past state

variable {batch : Batch Args W} {standing past : List (Effect Args)} {row : Effect Args}
  {middle : Option (Effect Args)} {placed : Option (Deed Args)}
  {state : System Args (Site Args W)} {newState : EffectState} {result : Option Args}
  {error : Option String}

theorem Layered.safe (layered : Layered batch standing middle placed past state) :
    Safe batch state :=
  .inr ⟨_, _, _, _, layered⟩

theorem Layered.find (layered : Layered batch standing (some row) placed past state) :
    state.store.effect? batch.sagaId row.stepId = some row :=
  layered.books.find

theorem Layered.own (layered : Layered batch standing (some row) placed past state) :
    row.sagaId = batch.sagaId :=
  layered.books.owned row (by simp)

theorem Layered.put (layered : Layered batch standing (some row) placed past state)
    (still : Placed state.world (some { row with state := newState, result, error }) placed)
    (quiet : newState = .executing → truthy row.idempotencyKey = true →
      state.store.stepAlreadyCommitted batch.sagaId (row.idempotencyKey.getD "") = false) :
    Layered batch standing (some { row with state := newState, result, error }) placed past
      { state with
        store := state.store.putEffect batch.sagaId
          { row with state := newState, result, error } } := by
  constructor
  · exact layered.alive
  · have journal : (state.store.putEffect batch.sagaId
        { row with state := newState, result, error }).effects batch.sagaId =
          (state.store.effects batch.sagaId).put { row with state := newState, result, error } := by
      simp [Store.putEffect]
    rw [journal]
    exact layered.books.put rfl rfl
  · exact still
  · exact layered.scene
  · intro other member executing
    obtain rfl := Option.some.inj member
    exact quiet executing
  · exact layered.plain

theorem Layered.stand (layered : Layered batch standing (some row) (some (recorded row)) past state)
    (newState : EffectState) (result : Option Args) (error : Option String)
    (stands : standable newState = true) (quiet : newState ≠ .executing) :
    Layered batch standing (some { row with state := newState, result, error })
      (some (recorded row)) past { state with
        store := state.store.putEffect batch.sagaId
          { row with state := newState, result, error } } := by
  apply layered.put
  · exact .stands stands
  · exact fun same => absurd same quiet

theorem Layered.commit (layered : Layered batch standing (some row) (some (recorded row)) [] state)
    (committed : row.state = .committed) :
    Layered batch (row :: standing) none none [] state := by
  constructor
  · exact layered.alive
  · exact layered.books.commit committed
  · exact .nothing
  · exact layered.scene
  · exact nofun
  · exact layered.plain

/-- A committed record is looked at as the one that is being worked on. -/
theorem Layered.reopen (layered : Layered batch (row :: standing) none none past state) :
    Layered batch standing (some row) (some (recorded row)) past state := by
  have committed : row.state = .committed := layered.books.committed row (List.mem_cons_self ..)
  constructor
  · exact layered.alive
  · exact layered.books.reopen
  · apply Placed.stands
    rw [committed]
    rfl
  · exact layered.scene
  · intro other member executing
    obtain rfl := Option.some.inj member
    rw [committed] at executing
    cases executing
  · exact layered.plain

theorem Layered.settle (layered : Layered batch standing (some row) none past state)
    (finished : settled row.state = true) : Layered batch standing none none (row :: past) state := by
  constructor
  · exact layered.alive
  · exact layered.books.settle finished
  · exact .nothing
  · exact layered.scene
  · exact nofun
  · exact layered.plain

theorem Layered.rolled_back (layered : Layered batch [] none none past state)
    (metadata : Metadata Args) :
    Outcome batch { state with
      store := state.store.writeTransactionState batch.sagaId .rolledBack metadata } := by
  have rows : (state.store.effects batch.sagaId).rows = past := by
    simpa using layered.books.rows
  obtain ⟨gone, executed, compensated⟩ := layered.scene.undone
  apply Outcome.rolledBack
  · rw [Store.status_write_state, if_pos rfl]
  · intro stepId record found
    have member : record ∈ past := by
      rw [← rows]
      exact Table.find_mem found
    have finished := layered.books.settled record member
    cases shape : record.state <;> rw [shape] at finished <;> simp_all [settled]
  · exact layered.scene.progress
  · rw [compensated, executed]
    simp
  · exact layered.scene.stacked.bottom

end Layers

section Calls

variable [DecidableEq Args] {batch : Batch Args W} {standing past : List (Effect Args)}
  {row : Effect Args} {placed : Option (Deed Args)} {state : System Args (Site Args W)}
  {expected : List EffectState} {newState : EffectState}
  {failed : PyError → System Args (Site Args W) → Prop}

abbrev benching (batch : Batch Args W) :
    Machine (coordinatorFace Args) (System Args (Site Args W)) :=
  machine (bench batch) (Safe batch)

/-- The record in the middle is as the caller thinks, so its transition succeeds. -/
theorem wp_moves {stepId : String} {result : Option Args} {error : Option String}
    {post : Effect Args → System Args (Site Args W) → Prop}
    (layered : Layered batch standing (some row) placed past state) (own : row.stepId = stepId)
    (legal : row.state ∈ expected)
    (moved : post { row with state := newState, result, error } { state with
      store := state.store.putEffect batch.sagaId
        { row with state := newState, result, error } }) :
    wp (benching batch)
      (onStore (.transitionEffect batch.sagaId stepId expected newState result error)) post
      failed state := by
  subst own
  apply wp_transition layered.safe
  · intro entry known _
    obtain rfl : row = entry := Option.some.inj (layered.find.symm.trans known)
    exact moved
  · intro refusal illegal
    exact absurd legal (illegal row layered.find)

theorem wp_commits {stepId : String} {key : Option String}
    {post : Effect Args → System Args (Site Args W) → Prop}
    (layered : Layered batch standing (some row) placed past state) (own : row.stepId = stepId)
    (applied : row.state = .applied)
    (moved : post { row with state := .committed } { state with
      store := (state.store.putEffect batch.sagaId { row with state := .committed }).publish
        batch.sagaId key }) :
    wp (benching batch) (onStore (.commitEffect batch.sagaId stepId key)) post failed state := by
  subst own
  apply wp_commit layered.safe
  · intro entry known _
    obtain rfl : row = entry := Option.some.inj (layered.find.symm.trans known)
    exact moved
  · intro refusal illegal
    exact absurd applied (illegal row layered.find)

theorem wp_settles {stepId : String} {result : Option Args} {error : Option String}
    {post : Effect Args → System Args (Site Args W) → Prop}
    (layered : Layered batch standing (some row) none past state) (own : row.stepId = stepId)
    (legal : row.state ∈ expected)
    (finished : settled newState = true)
    (moved : ∀ entry store, Layered batch standing none none (entry :: past) { state with store } →
      post entry { state with store }) :
    wp (benching batch)
      (onStore (.transitionEffect batch.sagaId stepId expected newState result error)) post
      failed state := by
  apply wp_moves layered own legal
  apply moved
  apply Layered.settle _ finished
  apply layered.put (.finished finished)
  rintro rfl
  cases finished

/-- A record whose deed is in place is claimed for compensation. -/
theorem wp_claims {post : Effect Args → System Args (Site Args W) → Prop}
    (layered : Layered batch standing (some row) (some (recorded row)) past state)
    (legal : row.state ∈ expected)
    (moved : ∀ entry store,
      Layered batch standing (some entry) (some (recorded entry)) past { state with store } →
      entry.state = .compensating → entry.stepId = row.stepId →
      entry.compensation = row.compensation → post entry { state with store }) :
    wp (benching batch)
      (onStore (.transitionEffect batch.sagaId row.stepId expected .compensating none none)) post
      failed state := by
  apply wp_moves layered rfl legal
  apply moved
  · exact layered.stand .compensating none none rfl nofun
  · rfl
  · rfl
  · rfl

theorem wp_takes_off {post : Bool → System Args (Site Args W) → Prop}
    (layered : Layered batch standing (some row) (some (recorded row)) past state)
    (compensating : row.state = .compensating)
    (taken : ∀ site, Layered batch standing (some row) none past { state with world := site } →
      post true { state with world := site }) :
    wp (benching batch)
      (onOutside (.executeCompensation batch.sagaId (some row.stepId) row.compensation)) post
      failed state := by
  have replies : ∀ (reply : Except PyError Bool) (site : Site Args W),
      (bench batch).respond (.executeCompensation batch.sagaId (some row.stepId) row.compensation)
        state.world reply site →
      reply = .ok true ∧
        Layered batch standing (some row) none past { state with world := site } := by
    intro reply site response
    have answered : (workshop batch.sandbox).respond
        (.executeCompensation batch.sagaId (some row.stepId) row.compensation) state.world reply
        site := by
      simpa [bench] using response
    obtain ⟨succeeded, scene, known⟩ := layered.scene.take_off answered
    refine ⟨succeeded, ?_⟩
    constructor
    · exact layered.alive
    · exact layered.books
    · exact .undone compensating known
    · exact scene
    · exact layered.unkeyed
    · exact layered.plain
  apply wp_outside layered.safe
  · intro answer site response
    obtain ⟨succeeded, rest⟩ := replies _ _ response
    obtain rfl := Except.ok.inj succeeded
    exact taken site rest
  · intro error site response
    cases (replies _ _ response).1

end Calls

end SagaMind.AllOrNothing
