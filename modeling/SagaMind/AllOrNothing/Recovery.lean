import SagaMind.AllOrNothing.Layers

/-!
# Recovery takes a batch back

`recover` walks the layers of a batch from the top. Other sagas that it sweeps
leave the batch alone.
-/

namespace SagaMind.AllOrNothing

open CallProgram KeyedTable Coordinator Undoing Walk Workshop

set_option autoImplicit false

variable {Args W : Type}

section Walk

variable [DecidableEq Args] {self : Coordinator} {batch : Batch Args W}
  {standing past : List (Effect Args)} {row : Effect Args} {middle : Option (Effect Args)}
  {placed : Option (Deed Args)} {state : System Args (Site Args W)}

def Walked (batch : Batch Args W) (standing : List (Effect Args)) (goOn : Bool)
    (state : System Args (Site Args W)) : Prop :=
  goOn = true ∧ ∃ past, Layered batch standing none none past state

theorem runs_compensation
    (layered : Layered batch standing (some row) (some (recorded row)) past state)
    (compensating : row.state = .compensating) :
    wp (benching batch) (runRecoveryCompensation batch.sagaId row) (Walked batch standing)
      (fun _ _ => False) state := by
  unfold runRecoveryCompensation
  rw [wp_attempt, wp_bind]
  apply wp_takes_off layered compensating
  intro site taken
  rw [wp_ite, if_pos rfl, wp_bind]
  apply wp_settles taken rfl
  · simp [compensating]
  · rfl
  · exact fun entry store finished => ⟨rfl, _, finished⟩

theorem recovers_compensation
    (layered : Layered batch standing (some row) (some (recorded row)) past state)
    (undoable : row.state ∈ [EffectState.applied, .committed]) :
    wp (benching batch) (recoverCompensation batch.sagaId row false) (Walked batch standing)
      (fun _ _ => False) state := by
  unfold recoverCompensation
  rw [wp_ite, if_neg (by decide), wp_bind]
  apply wp_claims layered undoable
  exact fun entry store claimed compensating _ _ => runs_compensation claimed compensating

/-- A record in `COMPENSATING` is resolved, and compensated if it was not. -/
theorem resumes_compensation (resolves : self.resolvesCompensations = true)
    (layered : Layered batch standing (some row) placed past state)
    (compensating : row.state = .compensating) :
    wp (benching batch) (self.undoEffect batch.sagaId row) (Walked batch standing)
      (fun _ _ => False) state := by
  have known : placed = none ∧ some row.stepId ∈ state.world.compensated.map Prod.fst ∨
      placed = some (recorded row) ∧ some row.stepId ∉ state.world.compensated.map Prod.fst := by
    have site := layered.site
    have scene := layered.scene
    cases site with
    | prepared other => simp [compensating] at other
    | unapplied other => simp [compensating] at other
    | finished other => simp [compensating, settled] at other
    | stands => exact .inr ⟨rfl, scene.top_uncompensated⟩
    | undone _ taken => exact .inl ⟨rfl, taken⟩
  unfold undoEffect resolveCompensation
  rw [compensating, wp_bind, wp_caught, wp_ite, if_pos resolves, wp_bind]
  have truth : ∀ (reply : Except PyError ResolverValue) (site : Site Args W),
      (bench batch).respond (.resolveCompensation row) state.world reply site →
      site = state.world ∧
        Truthful (some row.stepId ∈ state.world.compensated.map Prod.fst) reply := by
    intro reply site response
    exact ⟨response.1, response.2 layered.own⟩
  apply wp_outside layered.safe
  · intro value site response
    obtain ⟨rfl, answer, same, took, missed⟩ := truth _ _ response
    obtain rfl := Except.ok.inj same
    rcases known with ⟨rfl, taken⟩ | ⟨rfl, standing⟩
    · rw [took taken, wp_pure]
      dsimp only
      rw [wp_bind]
      apply wp_settles layered rfl
      · simp [compensating]
      · rfl
      · exact fun entry store finished => ⟨rfl, _, finished⟩
    · rw [missed standing, wp_pure]
      exact runs_compensation layered compensating
  · intro error site response
    obtain ⟨-, answer, same, -⟩ := truth _ _ response
    cases same

/-- A record in `EXECUTING` is resolved, and compensated if it was applied. -/
theorem resolves_forward (resolves : self.resolvesEffects = true)
    (layered : Layered batch standing (some row) placed past state)
    (executing : row.state = .executing) :
    wp (benching batch) (self.settleForward batch.sagaId row) (Walked batch standing)
      (fun _ _ => False) state := by
  have known : placed = none ∧ row.stepId ∉ state.world.executed.map Deed.stepId ∨
      placed = some (recorded row) ∧ row.stepId ∈ state.world.executed.map Deed.stepId := by
    have site := layered.site
    have scene := layered.scene
    cases site with
    | prepared other => simp [executing] at other
    | undone other => simp [executing] at other
    | finished other => simp [executing, settled] at other
    | stands => exact .inr ⟨rfl, scene.top_executed⟩
    | unapplied _ fresh => exact .inl ⟨rfl, fresh⟩
  have asks : wp (benching batch) (self.askResolver row)
      (fun resolution after => after = state ∧
        ((placed = none ∧ resolution = .notApplied) ∨
          (placed = some (recorded row) ∧ resolution = .applied))) (fun _ _ => False) state := by
    have truth : ∀ (reply : Except PyError ResolverValue) (site : Site Args W),
        (bench batch).respond (.resolveEffect row) state.world reply site →
        site = state.world ∧
          Truthful (row.stepId ∈ state.world.executed.map Deed.stepId) reply := by
      intro reply site response
      exact ⟨response.1, response.2 layered.own⟩
    unfold askResolver
    rw [wp_ite, if_pos resolves, wp_bind]
    apply wp_outside layered.safe
    · intro value site response
      obtain ⟨rfl, answer, same, took, missed⟩ := truth _ _ response
      obtain rfl := Except.ok.inj same
      rcases known with ⟨absent, fresh⟩ | ⟨standing, taken⟩
      · exact ⟨rfl, .inl ⟨absent, missed fresh⟩⟩
      · exact ⟨rfl, .inr ⟨standing, took taken⟩⟩
    · intro error site response
      obtain ⟨-, answer, same, -⟩ := truth _ _ response
      cases same
  have resolved : wp (benching batch) (self.resolveForwardEffect row)
      (fun resolution after => after = state ∧
        ((placed = none ∧ resolution = .notApplied) ∨
          (placed = some (recorded row) ∧ resolution = .applied))) (fun _ _ => False) state := by
    unfold resolveForwardEffect keyPublished
    rw [wp_bind, wp_ite]
    split
    · rename_i keyed
      refine (wp_on_store _ _ _ _).mpr ⟨layered.safe, ?_⟩
      have unpublished := layered.unkeyed row rfl executing keyed
      simp only [StoreCall.serve, replied_ok, afterStore, layered.own, unpublished]
      exact asks
    · exact asks
  unfold settleForward
  rw [wp_bind, wp_caught]
  apply wp_unfailing resolved
  rintro resolution after ⟨rfl, ⟨rfl, rfl⟩ | ⟨rfl, rfl⟩⟩
  · dsimp only
    rw [wp_bind]
    apply wp_settles layered rfl
    · simp [executing]
    · rfl
    · exact fun entry store finished => ⟨rfl, _, finished⟩
  · dsimp only
    rw [wp_bind]
    apply wp_moves layered rfl
    · simp [executing]
    · apply recovers_compensation
      · apply layered.stand .applied none none rfl
        rintro ⟨⟩
      · simp

/-- The record that was being worked on, with one case for each state of it. -/
theorem recovers_middle (resolves : self.resolvesEffects = true)
    (settles : self.resolvesCompensations = true)
    (layered : Layered batch standing (some row) placed past state) :
    wp (benching batch) (self.recoverEffect batch.sagaId row) (Walked batch standing)
      (fun _ _ => False) state := by
  have finished : settled row.state = true → placed = none →
      Walked batch standing true state := by
    rintro finished rfl
    exact ⟨rfl, _, layered.settle finished⟩
  have stands : row.state ∈ [EffectState.applied, .committed] → placed = some (recorded row) := by
    intro undoable
    have site := layered.site
    cases site with
    | stands => rfl
    | prepared other => simp [other] at undoable
    | unapplied other => simp [other] at undoable
    | undone other => simp [other] at undoable
    | finished other =>
        cases shape : row.state <;> simp_all [settled]
  have gone : settled row.state = true → placed = none := by
    intro finished
    have site := layered.site
    cases site with
    | stands other => cases shape : row.state <;> simp_all [settled, standable]
    | _ => rfl
  have impossible : row.state = .ambiguous ∨ row.state = .compensationFailed → False := by
    intro other
    have site := layered.site
    cases site <;> rcases other with other | other <;> simp_all [settled, standable]
  unfold recoverEffect
  split
  · rename_i aborted
    have done : settled row.state = true := by
      rw [aborted]
      rfl
    exact finished done (gone done)
  · rename_i compensated
    have done : settled row.state = true := by
      rw [compensated]
      rfl
    exact finished done (gone done)
  · rename_i failed
    exact (impossible (.inr failed)).elim
  · rename_i prepared
    have absent : placed = none := by
      have site := layered.site
      cases site with
      | stands other => simp [prepared, standable] at other
      | _ => rfl
    subst absent
    rw [wp_bind]
    apply wp_settles layered rfl
    · simp [prepared]
    · rfl
    · exact fun entry store finished => ⟨rfl, _, finished⟩
  · rename_i executing
    exact resolves_forward resolves layered executing
  · rename_i ambiguous
    exact (impossible (.inl ambiguous)).elim
  · rename_i notAborted notCompensated notFailed notPrepared notExecuting notAmbiguous
    by_cases compensating : row.state = .compensating
    · exact resumes_compensation settles layered compensating
    · have undoable : row.state = .applied ∨ row.state = .committed := by
        cases shape : row.state <;> simp_all
      have placement := stands (by simpa using undoable)
      subst placement
      unfold undoEffect
      rcases undoable with applied | committed
      · rw [applied]
        exact recovers_compensation layered (by simp [applied])
      · rw [committed]
        exact recovers_compensation layered (by simp [committed])

/-- The walk over the committed records: by induction, newest first. -/
theorem recovers_standing
    (layered : Layered batch standing none none past state) :
    wp (benching batch) (self.recoverEffects batch.sagaId standing) (Walked batch [])
      (fun _ _ => False) state := by
  induction standing generalizing past state with
  | nil => exact ⟨rfl, _, layered⟩
  | cons row earlier ih =>
      have committed : row.state = .committed :=
        layered.books.committed row (List.mem_cons_self ..)
      have compensates : wp (benching batch) (self.recoverEffect batch.sagaId row)
          (Walked batch earlier) (fun _ _ => False) state := by
        unfold recoverEffect undoEffect
        rw [committed]
        exact recovers_compensation layered.reopen (by simp [committed])
      unfold recoverEffects
      rw [wp_bind]
      apply wp_unfailing compensates
      rintro goOn after ⟨rfl, past, layered⟩
      exact ih layered

omit [DecidableEq Args] in
theorem recover_skips (finished : ∀ row ∈ past, settled row.state = true)
    (rest : List (Effect Args)) :
    self.recoverEffects batch.sagaId (past ++ rest) = self.recoverEffects batch.sagaId rest := by
  induction past with
  | nil => rfl
  | cons row later ih =>
      have first : self.recoverEffect batch.sagaId row = pure true := by
        have done := finished row (List.mem_cons_self ..)
        unfold recoverEffect
        cases shape : row.state <;> simp_all [settled]
      rw [List.cons_append, recoverEffects, first]
      exact ih fun other member => finished other (List.mem_cons_of_mem _ member)

theorem recovers_effects (resolves : self.resolvesEffects = true)
    (settles : self.resolvesCompensations = true)
    (layered : Layered batch standing middle placed past state) :
    wp (benching batch)
      (self.recoverEffects batch.sagaId (state.store.effects batch.sagaId).rows.reverse)
      (Walked batch []) (fun _ _ => False) state := by
  have order : (state.store.effects batch.sagaId).rows.reverse =
      past.reverse ++ (middle.toList ++ standing) := by
    rw [layered.books.rows]
    cases middle <;> simp
  rw [order, recover_skips]
  · cases middle with
    | none =>
        cases layered.site
        exact recovers_standing layered
    | some row =>
        rw [Option.toList_some, List.singleton_append]
        unfold recoverEffects
        rw [wp_bind]
        apply wp_unfailing (recovers_middle resolves settles layered)
        rintro goOn after ⟨rfl, past, layered⟩
        exact recovers_standing layered
  · intro row member
    exact layered.books.settled row (List.mem_reverse.mp member)

theorem recovers_saga (resolves : self.resolvesEffects = true)
    (settles : self.resolvesCompensations = true) {saga : IncompleteSaga Args}
    (own : saga.sagaId = batch.sagaId) (listed : Listed saga state.store)
    (bare : saga.compensations = state.store.comps saga.sagaId)
    (layered : Layered batch standing middle placed past state) :
    wp (benching batch) (self.recoverSaga saga) (fun _ after => Outcome batch after)
      (fun _ _ => False) state := by
  have working : awaitsApproval saga.status saga.metadata = false := by
    obtain ⟨row, found, status, metadata⟩ := listed.row
    obtain ⟨row', found', -, working⟩ := layered.alive
    rw [own, found'] at found
    obtain rfl := Option.some.inj found
    rw [← status, ← metadata]
    exact working
  unfold recoverSaga
  rw [wp_ite, if_neg (by simp [working]), wp_ite]
  split
  · rw [own, listed.effects, own, wp_bind]
    apply wp_unfailing (recovers_effects resolves settles layered)
    rintro settled after ⟨rfl, past, layered⟩
    rw [wp_ite, if_pos rfl, wp_bind]
    apply wp_write_state layered.safe
    exact layered.rolled_back _
  · rename_i empty
    have rows : (state.store.effects batch.sagaId).rows = [] := by
      rw [← own, ← listed.effects]
      exact not_not.mp empty
    have shape := layered.books.rows
    rw [rows] at shape
    obtain ⟨front, -⟩ := List.append_eq_nil_iff.mp shape.symm
    obtain ⟨reversed, single⟩ := List.append_eq_nil_iff.mp front
    obtain rfl : standing = [] := List.reverse_eq_nil_iff.mp reversed
    obtain rfl : middle = none := by
      cases middle with
      | none => rfl
      | some row => cases single
    cases layered.site
    have replayed : saga.compensations.reverse = [] := by
      rw [bare, own, layered.plain]
      rfl
    rw [replayed, own, wp_bind]
    unfold replayCompensations
    rw [wp_pure, wp_bind]
    apply wp_write_state layered.safe
    exact layered.rolled_back _

end Walk

section Recovery

variable {batch : Batch Args W} {before after state : System Args (Site Args W)}

structure Aside (sagaId : String) (before after : System Args (Site Args W)) : Prop where
  row : after.store.state.find? sagaId = before.store.state.find? sagaId
  journal : after.store.effects sagaId = before.store.effects sagaId
  keys : after.store.idem sagaId = before.store.idem sagaId
  log : after.store.comps sagaId = before.store.comps sagaId
  world : after.world = before.world

theorem Aside.refl (sagaId : String) (state : System Args (Site Args W)) :
    Aside sagaId state state :=
  ⟨rfl, rfl, rfl, rfl, rfl⟩

theorem Aside.trans {sagaId : String} {first second third : System Args (Site Args W)}
    (left : Aside sagaId first second) (right : Aside sagaId second third) :
    Aside sagaId first third where
  row := right.row.trans left.row
  journal := right.journal.trans left.journal
  keys := right.keys.trans left.keys
  log := right.log.trans left.log
  world := right.world.trans left.world

theorem Layered.aside {standing past : List (Effect Args)} {middle : Option (Effect Args)}
    {placed : Option (Deed Args)} (layered : Layered batch standing middle placed past before)
    (aside : Aside batch.sagaId before after) :
    Layered batch standing middle placed past after := by
  constructor
  · obtain ⟨row, found, alive⟩ := layered.alive
    exact ⟨row, aside.row.trans found, alive⟩
  · rw [aside.journal]
    exact layered.books
  · rw [aside.world]
    exact layered.site
  · rw [aside.world]
    exact layered.scene
  · intro row member executing keyed
    rw [Store.stepAlreadyCommitted, aside.keys]
    exact layered.unkeyed row member executing keyed
  · rw [aside.log]
    exact layered.plain

theorem Outcome.aside (outcome : Outcome batch before) (aside : Aside batch.sagaId before after) :
    Outcome batch after := by
  have status : after.store.status? batch.sagaId = before.store.status? batch.sagaId := by
    rw [Store.status?, Store.status?, aside.row]
  cases outcome with
  | committed committed all kept stacked =>
      apply Outcome.committed
      · exact status.trans committed
      · rw [aside.world]
        exact all
      · rw [aside.world]
        exact kept
      · rw [aside.world]
        exact stacked
  | rolledBack rolledBack quiet progress order restored =>
      apply Outcome.rolledBack
      · exact status.trans rolledBack
      · intro stepId record found
        rw [Store.effect?, aside.journal] at found
        exact quiet stepId record found
      · rw [aside.world]
        exact progress
      · rw [aside.world]
        exact order
      · rw [aside.world]
        exact restored

theorem Safe.aside (safe : Safe batch before) (aside : Aside batch.sagaId before after) :
    Safe batch after := by
  rcases safe with outcome | ⟨_, _, _, _, layered⟩
  · exact .inl (outcome.aside aside)
  · exact .inr ⟨_, _, _, _, layered.aside aside⟩

variable [DecidableEq Args]

theorem aside_call {other : String} (apart : other ≠ batch.sagaId) {request : Call Args}
    {reply : Except PyError request.Answer} (recovery : RecoveryCall other request)
    (taken : serveCall (bench batch) request before reply after) :
    Aside batch.sagaId before after := by
  rcases request with request | request | request
  · obtain ⟨-, rfl⟩ := taken
    exact ⟨rfl, rfl, rfl, rfl, rfl⟩
  · obtain ⟨-, rfl⟩ := taken
    cases request with
    | transitionEffect owner stepId expected newState result error =>
        obtain ⟨rfl, -⟩ := recovery
        rcases before.store.transition_effect_cases owner stepId expected newState result error with
          ⟨entry, -, -, same⟩ | ⟨-, refusal, same⟩
        · simp only [afterStore, StoreCall.serve, same]
          exact ⟨rfl, by simp [Store.putEffect, Ne.symm apart], rfl, rfl, rfl⟩
        · simp only [afterStore, StoreCall.serve, same]
          exact .refl _ _
    | writeTransactionState owner status metadata =>
        obtain rfl : owner = other := recovery.1
        exact ⟨by simp [afterStore, StoreCall.serve, Store.find_write_state, apart], rfl, rfl, rfl,
          rfl⟩
    | pushDeadLetter => exact ⟨rfl, rfl, rfl, rfl, rfl⟩
    | stepAlreadyCommitted => exact ⟨rfl, rfl, rfl, rfl, rfl⟩
    | _ => exact recovery.elim
  · obtain ⟨site, response, rfl⟩ := taken
    have same : site = before.world := by
      cases request with
      | executeCompensation owner stepId compensation =>
          obtain rfl : owner = other := recovery
          simpa [bench, apart] using response
      | resolveEffect effect => exact response.1
      | resolveCompensation effect => exact response.1
      | executeIdempotent => exact response
      | _ => exact recovery.elim
    exact ⟨rfl, rfl, rfl, rfl, same⟩

/-- `recover` between two sagas: this one is still to come, or it is over. -/
inductive Pending (batch : Batch Args W) (remaining : List (IncompleteSaga Args))
    (state : System Args (Site Args W)) : Prop
  | ahead {saga standing middle placed past} (member : saga ∈ remaining)
      (own : saga.sagaId = batch.sagaId) (listed : Listed saga state.store)
      (bare : saga.compensations = state.store.comps saga.sagaId)
      (layered : Layered batch standing middle placed past state)
  | behind (absent : batch.sagaId ∉ remaining.map (·.sagaId)) (outcome : Outcome batch state)

omit [DecidableEq Args] in
theorem Pending.safe {remaining : List (IncompleteSaga Args)}
    (pending : Pending batch remaining state) : Safe batch state := by
  cases pending with
  | ahead _ _ _ _ layered => exact layered.safe
  | behind _ outcome => exact .inl outcome

omit [DecidableEq Args] in
theorem Pending.next {saga : IncompleteSaga Args} {rest : List (IncompleteSaga Args)}
    (pending : Pending batch (saga :: rest) before) (apart : saga.sagaId ≠ batch.sagaId)
    (aside : Aside batch.sagaId before after) : Pending batch rest after := by
  cases pending with
  | @ahead other _ _ _ _ member own listed bare layered =>
      rcases List.mem_cons.mp member with rfl | later
      · exact absurd own apart
      · refine .ahead later own ?_ ?_ (layered.aside aside)
        · constructor
          · obtain ⟨row, found, same⟩ := listed.row
            refine ⟨row, ?_, same⟩
            rw [own] at found ⊢
            exact aside.row.trans found
          · exact listed.alive
          · rw [listed.effects, own, aside.journal]
        · rw [bare, own, aside.log]
  | behind absent outcome =>
      apply Pending.behind _ (outcome.aside aside)
      intro member
      exact absent (List.mem_cons_of_mem _ member)

variable {self : Coordinator}

theorem recovers_sagas (resolves : self.resolvesEffects = true)
    (settles : self.resolvesCompensations = true) (sagas : List (IncompleteSaga Args))
    (count : Nat) (distinct : (sagas.map (·.sagaId)).Nodup)
    (pending : Pending batch sagas state) :
    wp (benching batch) (self.recoverSagas sagas count) (fun _ after => Outcome batch after)
      (fun _ after => Safe batch after) state := by
  induction sagas generalizing count state with
  | nil =>
      cases pending with
      | ahead member => cases member
      | behind _ outcome => exact outcome
  | cons saga rest ih =>
      obtain ⟨unlisted, distinct⟩ := List.nodup_cons.mp distinct
      unfold recoverSagas
      rw [wp_bind]
      by_cases own : saga.sagaId = batch.sagaId
      · have handled : wp (benching batch) (self.recoverSaga saga)
            (fun _ after => Outcome batch after) (fun _ _ => False) state := by
          cases pending with
          | @ahead other _ _ _ _ member same listed bare layered =>
              rcases List.mem_cons.mp member with rfl | later
              · exact recovers_saga resolves settles own listed bare layered
              · exact absurd (List.mem_map.mpr ⟨other, later, same.trans own.symm⟩) unlisted
          | behind absent => simp [own] at absent
        apply wp_unfailing handled
        intro rolledBack after outcome
        have absent : batch.sagaId ∉ rest.map (·.sagaId) := by
          rw [← own]
          exact unlisted
        exact ih _ distinct (.behind absent outcome)
      · have free : wp (machine (bench batch) fun _ => True) (self.recoverSaga saga)
            (fun _ _ => True) (fun _ _ => True) state := conforms_free (fun _ _ => trivial) _ state
        have kept : wp (machine (bench batch) fun after => True ∧ Aside batch.sagaId state after)
            (self.recoverSaga saga) (fun _ after => True ∧ Aside batch.sagaId state after)
            (fun _ after => True ∧ Aside batch.sagaId state after) state := by
          apply wp_keeps _ _ (fun _ _ _ _ recovery taken => aside_call own recovery taken)
            (self.recovery_recover_saga saga) free
          · exact Aside.refl batch.sagaId
          · exact fun left right => left.trans right
        have guarded : wp (benching batch) (self.recoverSaga saga) _ _ state :=
          wp_guard_mono (fun _ after (kept : True ∧ Aside batch.sagaId state after) =>
            pending.safe.aside kept.2) kept
        apply wp_mono guarded
        · intro rolledBack after ends
          exact ih _ distinct (pending.next own ends.2)
        · exact fun error after ends => pending.safe.aside ends.2

theorem recovers (journaled : self.store = .journaled) (resolves : self.resolvesEffects = true)
    (settles : self.resolvesCompensations = true) (safe : Safe batch state) :
    wp (benching batch) self.recover (fun _ after => Outcome batch after)
      (fun _ after => Safe batch after) state := by
  unfold recover
  rw [if_pos (has_store_of_journaled journaled), wp_bind, wp_on_store]
  refine ⟨safe, ?_⟩
  apply recovers_sagas resolves settles
  · exact list_incomplete_distinct _
  · rcases safe with outcome | ⟨standing, middle, placed, past, layered⟩
    · apply Pending.behind _ outcome
      intro member
      obtain ⟨saga, listed, own⟩ := List.mem_map.mp member
      obtain ⟨row, found, status, -⟩ := (list_incomplete_listed listed).row
      have alive := (list_incomplete_listed listed).alive
      rw [own] at found
      cases outcome with
      | committed committed =>
          simp [Store.status?, found, status] at committed
          simp [committed, SagaStatus.terminal] at alive
      | rolledBack rolledBack =>
          simp [Store.status?, found, status] at rolledBack
          simp [rolledBack, SagaStatus.terminal] at alive
    · obtain ⟨row, found, alive, -⟩ := layered.alive
      have reported : row ∈ state.store.state.rows.filter fun row => !row.status.terminal :=
        List.mem_filter.mpr ⟨Table.find_mem found, by simp [alive]⟩
      have own : row.sagaId = batch.sagaId := Table.find_key found
      have member : IncompleteSaga.mk row.sagaId row.status row.metadata
          (state.store.comps row.sagaId) (state.store.effects row.sagaId).rows ∈
            state.store.listIncomplete := List.mem_map.mpr ⟨row, reported, rfl⟩
      exact .ahead member own (list_incomplete_listed member) rfl layered

end Recovery

end SagaMind.AllOrNothing
