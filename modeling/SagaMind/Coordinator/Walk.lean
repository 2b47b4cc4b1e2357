import SagaMind.Coordinator.Api

/-!
# The recovery walk

`recover` walks the records of each listed saga newest first, over a snapshot.
Between two records everything of the saga but the remaining ones is settled.
The walk ends with all of them settled or with a dead letter. The rules here
hold for any outside and any obligation on crash points that a walking saga and
the two writes of a dead letter meet.
-/

namespace SagaMind.Walk

open CallProgram KeyedTable Coordinator

set_option autoImplicit false

variable {Args World : Type}

def settled : EffectState → Bool
  | .aborted | .compensated => true
  | _ => false

def Reported (store : Store Args) (sagaId : String) : Prop :=
  ∃ letter ∈ store.dead, letter.sagaId = sagaId

structure Lettered (store : Store Args) (sagaId : String) : Prop where
  reported : Reported store sagaId
  failed : store.status? sagaId = some .compensationFailed

/-- `list_incomplete` reports the saga and `recover` walks its effects. -/
def Recoverable (store : Store Args) (sagaId : String) : Prop :=
  ∃ row, store.state.find? sagaId = some row ∧ row.status.terminal = false ∧
    awaitsApproval row.status row.metadata = false

theorem recoverable_status {store : Store Args} {sagaId : String}
    (alive : Recoverable store sagaId) :
    ∃ status, store.status? sagaId = some status ∧ status.terminal = false := by
  obtain ⟨row, found, working, _⟩ := alive
  refine ⟨row.status, ?_, working⟩
  unfold Store.status?
  rw [found]
  rfl

/-- Recovery has settled all records of the saga but the remaining ones, which
are as the snapshot has them. -/
structure Walking (sagaId : String) (remaining : List (Effect Args)) (store : Store Args) : Prop where
  alive : Recoverable store sagaId
  present : ∀ effect ∈ remaining, store.effect? sagaId effect.stepId = some effect
  distinct : (remaining.map (·.stepId)).Nodup
  unsettled : ∀ stepId effect, store.effect? sagaId stepId = some effect →
    settled effect.state = false → stepId ∈ remaining.map (·.stepId)

section StoreFacts

variable {sagaId : String} {store : Store Args} {effect : Effect Args} {earlier : List (Effect Args)}

theorem reported_push (stepName error : String) :
    Reported (store.pushDeadLetter sagaId stepName error) sagaId :=
  ⟨_, List.mem_append_right _ (List.mem_singleton_self _), rfl⟩

theorem Walking.skip (walking : Walking sagaId (effect :: earlier) store)
    (done : settled effect.state = true) : Walking sagaId earlier store where
  alive := walking.alive
  present := fun other member => walking.present other (List.mem_cons_of_mem _ member)
  distinct := (List.nodup_cons.mp walking.distinct).2
  unsettled := by
    intro stepId record found unsettled
    rcases List.mem_cons.mp (walking.unsettled stepId record found unsettled) with rfl | later
    · rw [walking.present effect (List.mem_cons_self ..)] at found
      cases found
      rw [done] at unsettled
      cases unsettled
    · exact later

theorem Walking.put (walking : Walking sagaId (effect :: earlier) store) {moved : Effect Args}
    (same : moved.stepId = effect.stepId) :
    Walking sagaId (moved :: earlier) (store.putEffect sagaId moved) where
  alive := walking.alive
  present := by
    have apart : effect.stepId ∉ earlier.map (·.stepId) :=
      (List.nodup_cons.mp walking.distinct).1
    intro other member
    rw [Store.effect_put_effect]
    rcases List.mem_cons.mp member with rfl | later
    · simp
    · have different : moved.stepId ≠ other.stepId := by
        intro equal
        apply apart
        rw [← same, equal]
        exact List.mem_map_of_mem later
      rw [if_neg fun both => different both.2]
      exact walking.present other (List.mem_cons_of_mem _ later)
  distinct := by
    have distinct := walking.distinct
    rw [List.map_cons] at distinct ⊢
    rwa [same]
  unsettled := by
    intro stepId record found unsettled
    rw [List.map_cons, same]
    by_cases equal : moved.stepId = stepId
    · rw [← equal, same]
      exact List.mem_cons_self ..
    · rw [Store.effect_put_effect, if_neg fun both => equal both.2] at found
      exact walking.unsettled stepId record found unsettled

end StoreFacts

/-- What the walk needs of an obligation on crash points: a walking saga meets
it, and so does a dead letter on its way. -/
structure Grounds [DecidableEq Args] (outside : Outside Args World)
    (inv : System Args World → Prop) (sagaId : String) : Prop where
  cut : ∀ {remaining state}, Walking sagaId remaining state.store → inv state
  letters : ∀ {stepName error state}, inv state →
    wp (machine outside inv) (deadLetterRecovery sagaId stepName error)
      (fun _ after => Lettered after.store sagaId) (fun _ _ => False) state

/-- Without an obligation on crash points there is nothing to meet. -/
theorem unguarded_grounds [DecidableEq Args] {outside : Outside Args World} {sagaId : String} :
    Grounds outside (fun _ => True) sagaId where
  cut := fun _ => trivial
  letters := by
    intro stepName error state _
    unfold deadLetterRecovery
    rw [wp_bind]
    apply wp_write_state trivial
    apply wp_push_dead_letter trivial
    constructor
    · exact reported_push _ _
    · rw [Store.status_push_dead_letter, Store.status_write_state, if_pos rfl]

section Effects

variable [DecidableEq Args] {outside : Outside Args World} {inv : System Args World → Prop}
  {sagaId : String} {self : Coordinator} {effect : Effect Args} {earlier : List (Effect Args)}
  {post : Bool → System Args World → Prop} {failed : PyError → System Args World → Prop}
  {state : System Args World}

/-- How the handling of one record ends: it is settled, or the saga is reported. -/
structure Handled (sagaId : String) (earlier : List (Effect Args))
    (post : Bool → System Args World → Prop) : Prop where
  settled : ∀ after, Walking sagaId earlier after.store → post true after
  reported : ∀ after, Lettered after.store sagaId → post false after

theorem wp_letters (grounds : Grounds outside inv sagaId) {stepName error : String}
    {post : Unit → System Args World → Prop} (here : inv state)
    (reported : ∀ after, Lettered after.store sagaId → post () after) :
    wp (machine outside inv) (deadLetterRecovery sagaId stepName error) post failed state := by
  apply wp_unfailing (grounds.letters here)
  exact fun _ after lettered => reported after lettered

/-- The record at hand is as the snapshot has it, so its transition succeeds. -/
theorem wp_settle (grounds : Grounds outside inv sagaId) {expected : List EffectState}
    {newState : EffectState} {result : Option Args} {error : Option String}
    {post : Effect Args → System Args World → Prop}
    (walking : Walking sagaId (effect :: earlier) state.store) (legal : effect.state ∈ expected)
    (moved : ∀ after,
      Walking sagaId ({ effect with state := newState, result, error } :: earlier) after.store →
      post { effect with state := newState, result, error } after) :
    wp (machine outside inv)
      (onStore (.transitionEffect sagaId effect.stepId expected newState result error)) post
      failed state := by
  have present := walking.present effect (List.mem_cons_self ..)
  apply wp_transition (grounds.cut walking)
  · intro entry found _
    rw [present] at found
    cases found
    apply moved
    exact walking.put rfl
  · exact fun refusal illegal => absurd legal (illegal effect present)

theorem wp_ask (grounds : Grounds outside inv sagaId) {request : OutsideCall Args}
    {post : request.Answer → System Args World → Prop}
    (walking : Walking sagaId (effect :: earlier) state.store)
    (answered : ∀ answer after, Walking sagaId (effect :: earlier) after.store →
      post answer after)
    (raised : ∀ error after, Walking sagaId (effect :: earlier) after.store →
      failed error after) :
    wp (machine outside inv) (onOutside request) post failed state := by
  apply wp_outside (grounds.cut walking)
  · exact fun answer world _ => answered answer { state with world } walking
  · exact fun error world _ => raised error { state with world } walking

theorem wp_mark_ambiguous (grounds : Grounds outside inv sagaId) {error : String}
    {post : Unit → System Args World → Prop}
    (walking : Walking sagaId (effect :: earlier) state.store)
    (reported : ∀ after, Lettered after.store sagaId → post () after) :
    wp (machine outside inv) (markAmbiguous sagaId effect error) post failed state := by
  unfold markAmbiguous recordAmbiguity
  rw [wp_bind, wp_ite]
  split
  · rename_i executing
    rw [wp_bind]
    apply wp_settle grounds walking
    · simp [executing]
    · exact fun after walking => wp_letters grounds (grounds.cut walking) reported
  · exact wp_letters grounds (grounds.cut walking) reported

theorem wp_fail_recovery_compensation (grounds : Grounds outside inv sagaId) {error : String}
    {post : Unit → System Args World → Prop}
    (walking : Walking sagaId (effect :: earlier) state.store)
    (marked : effect.state = .compensating)
    (reported : ∀ after, Lettered after.store sagaId → post () after) :
    wp (machine outside inv) (failRecoveryCompensation sagaId effect error) post failed state := by
  unfold failRecoveryCompensation
  rw [wp_bind]
  apply wp_settle grounds walking
  · simp [marked]
  · exact fun after walking => wp_letters grounds (grounds.cut walking) reported

theorem wp_run_recovery_compensation (grounds : Grounds outside inv sagaId)
    (walking : Walking sagaId (effect :: earlier) state.store)
    (marked : effect.state = .compensating) (handled : Handled sagaId earlier post) :
    wp (machine outside inv) (runRecoveryCompensation sagaId effect) post failed state := by
  unfold runRecoveryCompensation
  rw [wp_attempt, wp_bind]
  apply wp_ask grounds walking
  · intro succeeded between walking
    rw [wp_ite]
    split
    · rw [wp_bind]
      apply wp_settle grounds walking
      · simp [marked]
      · exact fun after walking => handled.settled _ (walking.skip rfl)
    · rw [wp_bind]
      exact wp_fail_recovery_compensation grounds walking marked handled.reported
  · intro error between walking
    rw [wp_bind]
    exact wp_fail_recovery_compensation grounds walking marked handled.reported

theorem wp_recover_compensation (grounds : Grounds outside inv sagaId)
    (walking : Walking sagaId (effect :: earlier) state.store)
    (done : effect.state = .applied ∨ effect.state = .committed)
    (handled : Handled sagaId earlier post) :
    wp (machine outside inv) (recoverCompensation sagaId effect false) post failed state := by
  unfold recoverCompensation
  rw [if_neg (by decide), wp_bind]
  apply wp_settle grounds walking
  · simpa using done
  · exact fun after walking => wp_run_recovery_compensation grounds walking rfl handled

theorem wp_resolve_compensation (grounds : Grounds outside inv sagaId)
    {post : Resolution → System Args World → Prop}
    (walking : Walking sagaId (effect :: earlier) state.store)
    (answered : ∀ resolution after, Walking sagaId (effect :: earlier) after.store →
      post resolution after)
    (raised : ∀ error after, Walking sagaId (effect :: earlier) after.store →
      failed error after) :
    wp (machine outside inv) (self.resolveCompensation effect) post failed state := by
  unfold resolveCompensation
  rw [wp_ite]
  split
  · rw [wp_bind]
    exact wp_ask grounds walking (fun _ => answered _) raised
  · exact answered _ _ walking

theorem wp_resolve_forward_effect (grounds : Grounds outside inv sagaId)
    {post : Resolution → System Args World → Prop}
    (walking : Walking sagaId (effect :: earlier) state.store)
    (answered : ∀ resolution after, Walking sagaId (effect :: earlier) after.store →
      post resolution after)
    (raised : ∀ error after, Walking sagaId (effect :: earlier) after.store →
      failed error after) :
    wp (machine outside inv) (self.resolveForwardEffect effect) post failed state := by
  have ask : ∀ between : System Args World, Walking sagaId (effect :: earlier) between.store →
      wp (machine outside inv) (self.askResolver effect) post failed between := by
    intro between walking
    unfold askResolver
    rw [wp_ite]
    split
    · rw [wp_bind]
      exact wp_ask grounds walking (fun _ => answered _) raised
    · rw [wp_ite]
      split
      · rw [wp_bind]
        exact wp_ask grounds walking (fun _ => answered _) raised
      · exact answered _ _ walking
  unfold resolveForwardEffect keyPublished
  rw [wp_bind, wp_ite]
  split
  · rw [wp_on_store]
    refine ⟨grounds.cut walking, ?_⟩
    simp only [StoreCall.serve, replied_ok, afterStore]
    rw [wp_ite]
    split
    · exact answered _ _ walking
    · exact ask _ walking
  · exact ask _ walking

theorem wp_undo_effect (grounds : Grounds outside inv sagaId)
    (walking : Walking sagaId (effect :: earlier) state.store)
    (resolved : effect.state = .applied ∨ effect.state = .committed ∨ effect.state = .compensating)
    (handled : Handled sagaId earlier post) :
    wp (machine outside inv) (self.undoEffect sagaId effect) post failed state := by
  unfold undoEffect
  split
  · rename_i marked
    rw [wp_bind, wp_caught]
    apply wp_resolve_compensation grounds walking
    · intro resolution between walking
      cases resolution with
      | applied =>
          rw [wp_bind]
          apply wp_settle grounds walking
          · simp [marked]
          · exact fun after walking => handled.settled _ (walking.skip rfl)
      | notApplied => exact wp_run_recovery_compensation grounds walking marked handled
      | unknown =>
          rw [wp_bind]
          exact wp_fail_recovery_compensation grounds walking marked handled.reported
    · intro error between walking
      rw [wp_bind]
      exact wp_fail_recovery_compensation grounds walking marked handled.reported
  · rename_i applied
    exact wp_recover_compensation grounds walking (.inl applied) handled
  · rename_i committed
    exact wp_recover_compensation grounds walking (.inr committed) handled
  · simp_all

theorem wp_settle_forward (grounds : Grounds outside inv sagaId)
    (walking : Walking sagaId (effect :: earlier) state.store)
    (started : effect.state = .executing ∨ effect.state = .ambiguous)
    (handled : Handled sagaId earlier post) :
    wp (machine outside inv) (self.settleForward sagaId effect) post failed state := by
  unfold settleForward
  rw [wp_bind, wp_caught]
  apply wp_resolve_forward_effect grounds walking
  · intro resolution between walking
    cases resolution with
    | applied =>
        rw [wp_bind]
        apply wp_settle grounds walking
        · simpa using started
        · exact fun after walking => wp_undo_effect grounds walking (.inl rfl) handled
    | notApplied =>
        rw [wp_bind]
        apply wp_settle grounds walking
        · simpa using started
        · exact fun after walking => handled.settled _ (walking.skip rfl)
    | unknown =>
        rw [wp_bind]
        exact wp_mark_ambiguous grounds walking handled.reported
  · intro error between walking
    rw [wp_bind]
    exact wp_mark_ambiguous grounds walking handled.reported

theorem wp_recover_effect (grounds : Grounds outside inv sagaId)
    (walking : Walking sagaId (effect :: earlier) state.store)
    (handled : Handled sagaId earlier post) :
    wp (machine outside inv) (self.recoverEffect sagaId effect) post failed state := by
  unfold recoverEffect
  cases shape : effect.state with
  | aborted => exact handled.settled _ (walking.skip (by rw [shape]; rfl))
  | compensated => exact handled.settled _ (walking.skip (by rw [shape]; rfl))
  | compensationFailed =>
      rw [wp_bind]
      exact wp_letters grounds (grounds.cut walking) handled.reported
  | prepared =>
      rw [wp_bind]
      apply wp_settle grounds walking
      · simp [shape]
      · exact fun after walking => handled.settled _ (walking.skip rfl)
  | executing => exact wp_settle_forward grounds walking (.inl shape) handled
  | ambiguous => exact wp_settle_forward grounds walking (.inr shape) handled
  | applied => exact wp_undo_effect grounds walking (by simp [shape]) handled
  | committed => exact wp_undo_effect grounds walking (by simp [shape]) handled
  | compensating => exact wp_undo_effect grounds walking (by simp [shape]) handled

theorem wp_recover_effects (grounds : Grounds outside inv sagaId) (effects : List (Effect Args))
    (walking : Walking sagaId effects state.store) (handled : Handled sagaId [] post) :
    wp (machine outside inv) (self.recoverEffects sagaId effects) post failed state := by
  induction effects generalizing state with
  | nil => exact handled.settled _ walking
  | cons effect earlier ih =>
      unfold recoverEffects
      rw [wp_bind]
      apply wp_recover_effect grounds walking
      exact ⟨fun after walking => ih walking, handled.reported⟩

theorem wp_replay_compensations (compensations : List (ActionPayload Args))
    {post : Option String → System Args World → Prop}
    (here : ∀ world, inv { state with world })
    (done : ∀ outcome world, post outcome { state with world }) :
    wp (machine outside inv) (replayCompensations sagaId compensations) post failed state := by
  induction compensations generalizing state with
  | nil => exact done none state.world
  | cons compensation earlier ih =>
      unfold replayCompensations
      rw [wp_bind, wp_caught]
      apply wp_outside (here state.world)
      · intro succeeded world _
        cases succeeded with
        | true => exact ih here done
        | false => exact done _ world
      · exact fun error world _ => done _ world

end Effects

section Snapshot

variable {sagaId : String} {saga : IncompleteSaga Args} {store before after : Store Args}

/-- The store is, for this saga, as the snapshot of `list_incomplete` has it. -/
structure Listed (saga : IncompleteSaga Args) (store : Store Args) : Prop where
  row : ∃ row, store.state.find? saga.sagaId = some row ∧ row.status = saga.status ∧
    row.metadata = saga.metadata
  alive : saga.status.terminal = false
  effects : saga.effects = (store.effects saga.sagaId).rows

theorem Listed.walking (listed : Listed saga store)
    (working : awaitsApproval saga.status saga.metadata = false) :
    Walking saga.sagaId saga.effects.reverse store where
  alive := by
    obtain ⟨row, found, status, metadata⟩ := listed.row
    exact ⟨row, found, status ▸ listed.alive, status ▸ metadata ▸ working⟩
  present := by
    intro effect member
    rw [List.mem_reverse, listed.effects] at member
    exact Table.find_of_mem member
  distinct := by
    rw [List.map_reverse, List.nodup_reverse, listed.effects]
    exact (store.effects saga.sagaId).distinct
  unsettled := by
    intro stepId effect found _
    have same : effect.stepId = stepId := Table.find_key found
    have member : effect ∈ saga.effects := listed.effects ▸ Table.find_mem found
    rw [List.map_reverse, List.mem_reverse, ← same]
    exact List.mem_map_of_mem member

theorem untouched_listed (untouched : Untouched sagaId before after)
    (apart : saga.sagaId ≠ sagaId) (listed : Listed saga before) : Listed saga after where
  row := by
    rw [untouched.row _ apart]
    exact listed.row
  alive := listed.alive
  effects := by
    rw [untouched.journal _ apart]
    exact listed.effects

theorem list_incomplete_listed (member : saga ∈ store.listIncomplete) : Listed saga store := by
  obtain ⟨row, reported, rfl⟩ := List.mem_map.mp member
  obtain ⟨present, alive⟩ := List.mem_filter.mp reported
  exact ⟨⟨row, Table.find_of_mem present, rfl, rfl⟩, by simpa using alive, rfl⟩

/-- A saga is listed when its last status is not a terminal one. -/
theorem listed_iff {sagaId : String} : sagaId ∈ store.listIncomplete.map (·.sagaId) ↔
    ∃ row, store.state.find? sagaId = some row ∧ row.status.terminal = false := by
  constructor
  · intro listed
    obtain ⟨saga, member, rfl⟩ := List.mem_map.mp listed
    have entry := list_incomplete_listed member
    obtain ⟨row, found, status, _⟩ := entry.row
    exact ⟨row, found, status ▸ entry.alive⟩
  · intro ⟨row, found, alive⟩
    have same : row.sagaId = sagaId := Table.find_key found
    have reported : row ∈ store.state.rows.filter fun row => !row.status.terminal :=
      List.mem_filter.mpr ⟨Table.find_mem found, by simp [alive]⟩
    rw [← same]
    exact List.mem_map.mpr ⟨_, List.mem_map_of_mem reported, rfl⟩

theorem list_incomplete_distinct (store : Store Args) :
    (store.listIncomplete.map (·.sagaId)).Nodup := by
  have same : store.listIncomplete.map (·.sagaId) =
      (store.state.rows.filter fun row => !row.status.terminal).map (·.sagaId) := by
    simp [Store.listIncomplete, Function.comp_def]
  rw [same]
  exact store.state.distinct.sublist (List.filter_sublist.map _)

end Snapshot

section Settlement

variable [DecidableEq Args] {outside : Outside Args World} {self : Coordinator}
  {saga : IncompleteSaga Args} {state : System Args World}

theorem wp_settle_saga (listed : Listed saga state.store)
    (working : awaitsApproval saga.status saga.metadata = false) :
    wp (machine outside fun _ => True) (self.recoverSaga saga)
      (fun rolledBack after => after.store.status? saga.sagaId =
        some (if rolledBack then .rolledBack else .compensationFailed))
      (fun _ _ => False) state := by
  unfold recoverSaga
  rw [if_neg (by simp [working]), wp_ite]
  split
  · rw [wp_bind]
    apply wp_recover_effects unguarded_grounds _ (listed.walking working)
    constructor
    · intro after done
      rw [if_pos rfl, wp_bind]
      apply wp_write_state trivial
      rw [wp_pure, if_pos rfl]
      simp [Store.status_write_state]
    · intro after lettered
      rw [if_neg (by decide), wp_pure, if_neg (by decide)]
      exact lettered.failed
  · rw [wp_bind]
    apply wp_replay_compensations _ fun _ => trivial
    intro outcome world
    cases outcome with
    | some error =>
        rw [wp_bind]
        apply wp_write_state trivial
        rw [wp_bind]
        apply wp_push_dead_letter trivial
        rw [wp_pure, if_neg (by decide)]
        simp [Store.status_write_state]
    | none =>
        rw [wp_bind]
        apply wp_write_state trivial
        rw [wp_pure, if_pos rfl]
        simp [Store.status_write_state]

end Settlement

section Sweep

/-- A property of one saga in the store, from a sweep to its end. Calls on
other sagas keep it. -/
structure Sweepable (pending through : String → Store Args → Prop) : Prop where
  weaken : ∀ {sagaId store}, through sagaId store → pending sagaId store
  pending : ∀ {sagaId other before after}, Untouched sagaId before after → other ≠ sagaId →
    pending other before → pending other after
  through : ∀ {sagaId other before after}, Untouched sagaId before after → other ≠ sagaId →
    through other before → through other after

/-- `recover` between two sagas. -/
structure Sweeping (pending through : String → Store Args → Prop)
    (remaining : List (IncompleteSaga Args)) (store : Store Args) : Prop where
  listed : ∀ saga ∈ remaining, Listed saga store
  distinct : (remaining.map (·.sagaId)).Nodup
  pending : ∀ sagaId, pending sagaId store
  through : ∀ sagaId, sagaId ∉ remaining.map (·.sagaId) → through sagaId store

variable {pending through : String → Store Args → Prop} {before after : Store Args}

theorem Sweeping.next (sweepable : Sweepable pending through) {saga : IncompleteSaga Args}
    {rest : List (IncompleteSaga Args)} (sweeping : Sweeping pending through (saga :: rest) before)
    (untouched : Untouched saga.sagaId before after) (handled : through saga.sagaId after) :
    Sweeping pending through rest after := by
  have unlisted : saga.sagaId ∉ rest.map (·.sagaId) := (List.nodup_cons.mp sweeping.distinct).1
  have apart : ∀ other ∈ rest, other.sagaId ≠ saga.sagaId := by
    intro other member same
    exact unlisted (List.mem_map.mpr ⟨other, member, same⟩)
  constructor
  · intro other member
    apply untouched_listed untouched (apart other member)
    exact sweeping.listed other (List.mem_cons_of_mem _ member)
  · exact (List.nodup_cons.mp sweeping.distinct).2
  · intro sagaId
    by_cases same : sagaId = saga.sagaId
    · rw [same]
      exact sweepable.weaken handled
    · exact sweepable.pending untouched same (sweeping.pending sagaId)
  · intro sagaId absent
    by_cases same : sagaId = saga.sagaId
    · rw [same]
      exact handled
    · apply sweepable.through untouched same
      apply sweeping.through
      rw [List.map_cons, List.mem_cons]
      exact not_or.mpr ⟨same, absent⟩

variable [DecidableEq Args] {outside : Outside Args World}
  {inv : String → System Args World → Prop} {self : Coordinator}

/-- The sweep: by induction on the sagas left, each with its own obligation. -/
theorem wp_recover_sagas (sweepable : Sweepable pending through)
    (safe : ∀ {sagaId state}, pending sagaId state.store → inv sagaId state)
    (handles : ∀ {saga state}, Listed saga state.store → pending saga.sagaId state.store →
      wp (machine outside (inv saga.sagaId)) (self.recoverSaga saga)
        (fun _ after => through saga.sagaId after.store) (fun _ _ => False) state)
    (sagas : List (IncompleteSaga Args)) (count : Nat) {state : System Args World}
    (sweeping : Sweeping pending through sagas state.store) :
    wp (machine outside fun state => ∀ sagaId, inv sagaId state) (self.recoverSagas sagas count)
      (fun _ after => ∀ sagaId, through sagaId after.store) (fun _ _ => False) state := by
  induction sagas generalizing count state with
  | nil => exact fun sagaId => sweeping.through sagaId List.not_mem_nil
  | cons saga rest ih =>
      unfold recoverSagas
      rw [wp_bind]
      have listed := sweeping.listed saga (List.mem_cons_self ..)
      have own := wp_untouched (self.confined_recover_saga saga)
        (handles listed (sweeping.pending saga.sagaId))
      have everywhere : wp (machine outside fun state => ∀ sagaId, inv sagaId state) _ _ _ _ :=
        wp_guard_mono (fun _ after here sagaId => by
          by_cases same : sagaId = saga.sagaId
          · exact same ▸ here.1
          · exact safe (sweepable.pending here.2 same (sweeping.pending sagaId))) own
      apply wp_mono everywhere
      · exact fun rolledBack after ends => ih _ (sweeping.next sweepable ends.2 ends.1)
      · exact fun error after ends => ends.1.elim

/-- `recover` takes every saga through. A saga that is not listed is through
already. -/
theorem wp_recover (stored : self.hasStore = true) (sweepable : Sweepable pending through)
    (safe : ∀ {sagaId state}, pending sagaId state.store → inv sagaId state)
    (handles : ∀ {saga state}, Listed saga state.store → pending saga.sagaId state.store →
      wp (machine outside (inv saga.sagaId)) (self.recoverSaga saga)
        (fun _ after => through saga.sagaId after.store) (fun _ _ => False) state)
    {state : System Args World} (start : ∀ sagaId, pending sagaId state.store)
    (unlisted : ∀ sagaId, sagaId ∉ state.store.listIncomplete.map (·.sagaId) →
      through sagaId state.store) :
    wp (machine outside fun state => ∀ sagaId, inv sagaId state) self.recover
      (fun _ after => ∀ sagaId, through sagaId after.store) (fun _ _ => False) state := by
  unfold recover
  rw [if_pos stored, wp_bind, wp_on_store]
  refine ⟨fun sagaId => safe (start sagaId), ?_⟩
  apply wp_recover_sagas sweepable safe handles
  constructor
  · exact fun saga member => list_incomplete_listed member
  · exact list_incomplete_distinct _
  · exact start
  · exact unlisted

/-- The sweep with a property of the sagas left that the handling of each listed
one hands on. -/
theorem wp_each_saga_left {served : Machine (coordinatorFace Args) (System Args World)}
    (serves : Serves outside served) {kept : List (IncompleteSaga Args) → System Args World → Prop}
    {failed : PyError → System Args World → Prop}
    (handles : ∀ {saga rest state}, Listed saga state.store → kept (saga :: rest) state →
      wp served (self.recoverSaga saga) (fun _ => kept rest) failed state)
    (sagas : List (IncompleteSaga Args)) (count : Nat) {state : System Args World}
    (listed : ∀ saga ∈ sagas, Listed saga state.store) (distinct : (sagas.map (·.sagaId)).Nodup)
    (here : kept sagas state) :
    wp served (self.recoverSagas sagas count) (fun _ => kept []) failed state := by
  induction sagas generalizing count state with
  | nil => exact here
  | cons saga rest ih =>
      have unlisted : saga.sagaId ∉ rest.map (·.sagaId) := (List.nodup_cons.mp distinct).1
      have apart := @wp_related (coordinatorFace Args) (System Args World) PyError Bool served
        (ConfinedTo saga.sagaId) (fun before after => Untouched saga.sagaId before.store after.store)
        (fun before => .refl before.store) (fun left right => left.trans right)
        (fun _ _ _ _ own taken => untouched_call own (serves taken)) _
        (self.confined_recover_saga saga) _ _ state
        (handles (listed saga (List.mem_cons_self ..)) here)
      unfold recoverSagas
      rw [wp_bind]
      apply wp_mono apart
      · intro rolledBack between ⟨here, untouched⟩
        apply ih _ _ (List.nodup_cons.mp distinct).2 here
        intro other member
        apply untouched_listed untouched
        · intro same
          exact unlisted (List.mem_map.mpr ⟨other, member, same⟩)
        · exact listed other (List.mem_cons_of_mem _ member)
      · exact fun _ _ ends => ends.1

/-- The sweep with an invariant that the handling of every listed saga keeps. -/
theorem wp_each_saga {served : Machine (coordinatorFace Args) (System Args World)}
    (serves : Serves outside served) {kept : System Args World → Prop}
    {failed : PyError → System Args World → Prop}
    (handles : ∀ {saga state}, Listed saga state.store → kept state →
      wp served (self.recoverSaga saga) (fun _ => kept) failed state)
    (sagas : List (IncompleteSaga Args)) (count : Nat) {state : System Args World}
    (listed : ∀ saga ∈ sagas, Listed saga state.store) (distinct : (sagas.map (·.sagaId)).Nodup)
    (here : kept state) :
    wp served (self.recoverSagas sagas count) (fun _ => kept) failed state :=
  @wp_each_saga_left _ _ _ _ self _ serves (fun _ => kept) failed
    (fun listed here => handles listed here) sagas count state listed distinct here

end Sweep

end SagaMind.Walk
