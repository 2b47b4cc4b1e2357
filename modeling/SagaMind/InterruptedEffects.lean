import SagaMind.Coordinator.Turns
import SagaMind.Coordinator.Walk
import SagaMind.JournalProtocol

/-!
# What recovery takes for applied

Recovery asks the published keys before it asks the resolver, and a key belongs
to a saga, not to a step. Where no step is started under a published key and no
key is published while another step runs under it, an interrupted record has no
published key, and recovery compensates it on the word of the resolver alone.
-/

namespace SagaMind.InterruptedEffects

open CallProgram KeyedTable Coordinator

set_option autoImplicit false

variable {Args : Type}

def interrupted (state : EffectState) : Prop := state = .executing ∨ state = .ambiguous

/-- Records are filed under their own saga, and no interrupted one has a
published key. -/
structure Clear (store : Store Args) : Prop where
  filed : ∀ {sagaId stepId record}, store.effect? sagaId stepId = some record →
    record.sagaId = sagaId
  unpublished : ∀ {sagaId stepId record key}, store.effect? sagaId stepId = some record →
    interrupted record.state → record.idempotencyKey = some key →
    store.stepAlreadyCommitted sagaId key = false

/-- A step is started under an unpublished key only, and a commit publishes a
key only while no other record is interrupted under it. What the journal
refuses changes nothing. -/
def KeepsApart (store : Store Args) : Call Args → Prop
  | .store (.transitionEffect sagaId stepId expected .executing _ _) =>
      ∀ record key, store.effect? sagaId stepId = some record → record.state ∈ expected →
        record.idempotencyKey = some key → store.stepAlreadyCommitted sagaId key = false
  | .store (.commitEffect sagaId stepId (some key)) =>
      ∀ own other record, store.effect? sagaId stepId = some own → own.state = .applied →
        other ≠ stepId → store.effect? sagaId other = some record → interrupted record.state →
        record.idempotencyKey ≠ some key
  | _ => True

section Journal

variable {progress : Progress Args} {store : Store Args}

theorem empty_clear : Clear (.empty : Store Args) := by
  constructor
  · intro sagaId stepId record impossible
    cases impossible
  · intro sagaId stepId record key impossible
    cases impossible

theorem Clear.put (clear : Clear store) {sagaId : String} {moved : Effect Args}
    (own : moved.sagaId = sagaId)
    (unpublished : ∀ key, interrupted moved.state → moved.idempotencyKey = some key →
      store.stepAlreadyCommitted sagaId key = false) : Clear (store.putEffect sagaId moved) := by
  constructor
  · intro other stepId record found
    rw [Store.effect_put_effect] at found
    split at found
    · rename_i same
      obtain rfl := Option.some.inj found
      rw [own, same.1]
    · exact clear.filed found
  · intro other stepId record key found stopped keyed
    change store.stepAlreadyCommitted other key = false
    rw [Store.effect_put_effect] at found
    split at found
    · rename_i same
      obtain rfl := Option.some.inj found
      rw [same.1]
      exact unpublished key stopped keyed
    · exact clear.unpublished found stopped keyed

/-- A record becomes `EXECUTING` under an unpublished key, and `AMBIGUOUS` only
from there. -/
theorem clear_transition {sagaId stepId : String} {expected : List EffectState}
    {newState : EffectState} {result : Option Args} {error : Option String} (clear : Clear store)
    (along : ∀ state ∈ expected, edge state newState = true)
    (apart : KeepsApart store
      (.store (.transitionEffect sagaId stepId expected newState result error))) :
    Clear (store.transitionEffect sagaId stepId expected newState result error).2 := by
  rcases store.transition_effect_cases sagaId stepId expected newState result error with
    ⟨entry, found, legal, same⟩ | ⟨_, refusal, same⟩
  · rw [same]
    have own : entry.sagaId = sagaId := clear.filed found
    apply Clear.put clear
    · exact own
    intro key stopped keyed
    rcases stopped with executing | ambiguous
    · have started : newState = .executing := executing
      subst started
      exact apart entry key found legal keyed
    · have doubted : newState = .ambiguous := ambiguous
      have before := along _ legal
      rw [doubted] at before
      have executing : entry.state = .executing := by
        cases shape : entry.state <;> rw [shape] at before <;> first | rfl | cases before
      exact clear.unpublished found (.inl executing) keyed
  · rw [same]
    exact clear

theorem clear_commit {sagaId stepId : String} {key : Option String} (clear : Clear store)
    (apart : KeepsApart store (.store (.commitEffect sagaId stepId key))) :
    Clear (store.commitEffect sagaId stepId key).2 := by
  rcases store.commit_effect_cases sagaId stepId key with
    ⟨entry, found, legal, same⟩ | ⟨_, refusal, same⟩
  · rw [same]
    have moved : Clear (store.putEffect sagaId { entry with state := .committed }) := by
      have own : entry.sagaId = sagaId := clear.filed found
      apply Clear.put clear
      · exact own
      intro given stopped
      rcases stopped with executing | ambiguous
      · cases executing
      · cases ambiguous
    constructor
    · intro other id record known
      rw [Store.effect_publish] at known
      exact moved.filed known
    · intro other id record given known stopped keyed
      rw [Store.effect_publish] at known
      rw [Bool.eq_false_iff]
      intro published
      rcases Store.publish_adds published with old | ⟨rfl, rfl⟩
      · rw [moved.unpublished known stopped keyed] at old
        cases old
      · have ownId : entry.stepId = stepId := Table.find_key found
        rw [Store.effect_put_effect] at known
        split at known
        · obtain rfl := Option.some.inj known
          rcases stopped with executing | ambiguous
          · cases executing
          · cases ambiguous
        · rename_i another
          have different : id ≠ stepId := fun same => another ⟨rfl, ownId.trans same.symm⟩
          exact apart entry id record found legal different known stopped keyed
  · rw [same]
    exact clear

variable [DecidableEq Args]

theorem clear_serve {request : StoreCall Args} (clear : Clear store)
    (here : Progress.allowed (.store request) progress)
    (apart : KeepsApart store (.store request)) : Clear (request.serve store).2 := by
  cases request with
  | prepareEffect sagaId stepId stepName action compensation key =>
      rcases store.prepare_effect_cases sagaId stepId stepName action compensation key with
        ⟨_, _, _, same⟩ | ⟨_, same⟩ | ⟨entry, _, shape, same⟩
      · rw [StoreCall.serve, same]
        exact clear
      · rw [StoreCall.serve, same]
        exact clear
      · rw [StoreCall.serve, same]
        apply clear.put
        · rw [shape]
        · intro given stopped
          rw [shape] at stopped
          rcases stopped with executing | ambiguous
          · cases executing
          · cases ambiguous
  | transitionEffect => exact clear_transition clear here.1 apart
  | commitEffect => exact clear_commit clear apart
  | markStepCommitted => exact here.elim
  | _ => exact ⟨clear.filed, clear.unpublished⟩

/-- Submissions, approvals and rejections in any number, with crashes anywhere. -/
abbrev operations [Inhabited Args] (permits : Store Args → Call Args → Prop) :
    Setting (coordinatorFace Args) PyError Unit Nat (Progress Args) (Cluster Args) :=
  cluster (· ≠ .recover) True fun shared _ _ request => permits shared.store request

theorem operations_clear [Inhabited Args] :
    (operations KeepsApart : Setting (coordinatorFace Args) PyError Unit Nat _ _).Invariant
      Progress.allowed fun shared _ _ => Clear shared.store := by
  constructor
  · exact fun clear => clear
  · intro shared after trace left right noted owner request reply clear here apart served
    rcases request with request | request | request
    · obtain ⟨-, rfl⟩ := served
      exact clear
    · obtain ⟨-, rfl⟩ := served
      exact clear_serve clear here apart
    · obtain rfl := served
      exact clear
  · rintro shared after trace notes survivors owner clear - ⟨-, rfl⟩
    exact clear

theorem reachable_clear [Inhabited Args] {memories : Nat → Memory Args}
    {pool : Pool (coordinatorFace Args) PyError Unit Nat (Progress Args) (Cluster Args)}
    (reached : (operations KeepsApart).Reachable ⟨.empty, memories⟩ pool) :
    Clear pool.shared.store :=
  (Setting.reachable_sound operations_clear cluster_obeys empty_clear reached).holds

end Journal

section Recovery

/-- The resolver knows which actions were applied. It may also raise or not say. -/
def truthful (applied : String → String → Prop) : Outside Args Unit where
  respond
    | .resolveEffect effect, _, reply, _ => ∀ value, reply = .ok value →
        (normaliseResolution value = .applied → applied effect.sagaId effect.stepId) ∧
          (normaliseResolution value = .notApplied → ¬applied effect.sagaId effect.stepId)
    | _, _, _, _ => True
  observe := fun _ _ world => world

def Backed (applied : String → String → Prop) (found : Store Args) (sagaId stepId : String) : Prop :=
  ∀ record, found.effect? sagaId stepId = some record → interrupted record.state →
    applied sagaId stepId

def Lawful (applied : String → String → Prop) (found : Store Args) : Call Args → Prop
  | .store (.commitEffect ..) => False
  | .store (.markStepCommitted ..) => False
  | .outside (.executeCompensation sagaId (some stepId) _) => Backed applied found sagaId stepId
  | _ => True

variable {applied : String → String → Prop} {found : Store Args} {self : Coordinator}
  {sagaId stepId : String} {effect : Effect Args}

section Calls

theorem lawful_transition {expected : List EffectState} {newState : EffectState}
    {result : Option Args} {error : Option String} :
    Uses (Lawful applied found)
      (onStore (.transitionEffect sagaId stepId expected newState result error)) :=
  @conforms_perform (coordinatorFace Args) _ _ _ fun _ => trivial

theorem lawful_dead_letter (stepName error : String) :
    Uses (Lawful applied found) (deadLetterRecovery sagaId stepName error) := by
  apply conforms_bind
  · exact @conforms_perform (coordinatorFace Args) _ _ _ fun _ => trivial
  · exact fun _ => @conforms_perform (coordinatorFace Args) _ _ _ fun _ => trivial

theorem lawful_mark_ambiguous (error : String) :
    Uses (Lawful applied found) (markAmbiguous sagaId effect error) := by
  apply conforms_bind
  · apply conforms_ite
    · exact conforms_bind lawful_transition fun _ => conforms_pure _
    · exact conforms_pure _
  · exact fun _ => lawful_dead_letter _ _

theorem lawful_fail_compensation (error : String) :
    Uses (Lawful applied found) (failRecoveryCompensation sagaId effect error) :=
  conforms_bind lawful_transition fun _ => lawful_dead_letter _ _

theorem lawful_run_compensation (backed : Backed applied found sagaId effect.stepId) :
    Uses (Lawful applied found) (runRecoveryCompensation sagaId effect) := by
  apply conforms_attempt
  · apply conforms_bind
    · exact @conforms_perform (coordinatorFace Args) _ _ _ fun _ => backed
    · intro succeeded
      apply conforms_ite
      · exact conforms_bind lawful_transition fun _ => conforms_pure _
      · exact conforms_bind (lawful_fail_compensation _) fun _ => conforms_pure _
  · exact fun error => conforms_bind (lawful_fail_compensation _) fun _ => conforms_pure _

theorem lawful_resolve_compensation :
    Uses (Lawful applied found) (self.resolveCompensation effect) := by
  apply conforms_ite
  · apply conforms_bind
    · exact @conforms_perform (coordinatorFace Args) _ _ _ fun _ => trivial
    · exact fun _ => conforms_pure _
  · exact conforms_pure _

/-- The compensation log of a saga without a journal names no records. -/
theorem lawful_replay_compensations (compensations : List (ActionPayload Args)) :
    Uses (Lawful applied found) (replayCompensations sagaId compensations) := by
  induction compensations with
  | nil => exact conforms_pure _
  | cons compensation earlier ih =>
      apply conforms_bind
      · apply conforms_caught
        exact @conforms_perform (coordinatorFace Args) _ _ _ fun _ => trivial
      · intro outcome
        rcases outcome with error | succeeded
        · exact conforms_pure _
        · cases succeeded with
          | true => exact ih
          | false => exact conforms_pure _

theorem lawful_write (status : SagaStatus) (metadata : Metadata Args) :
    Uses (Lawful applied found) (onStore (.writeTransactionState sagaId status metadata)) :=
  @conforms_perform (coordinatorFace Args) _ _ _ fun _ => trivial

end Calls

variable [DecidableEq Args] {state : System Args Unit}

abbrev judged (applied : String → String → Prop) (found : Store Args) :
    Machine (coordinatorFace Args) (System Args Unit) :=
  (machine (truthful applied) fun _ => True).guard fun request _ => Lawful applied found request

theorem judged_serves : Serves (truthful applied) (judged applied found) := fun taken => taken

def SameKeys (found : Store Args) (state : System Args Unit) : Prop :=
  state.store.idem = found.idem

theorem keys_kept {request : Call Args} (lawful : Lawful applied found request)
    {before after : System Args Unit} {reply : Except PyError request.Answer}
    (keys : SameKeys found before) (taken : (judged applied found).step request before reply after) :
    SameKeys found after := by
  rcases request with request | request | request
  · obtain ⟨-, rfl⟩ := taken
    exact keys
  · obtain ⟨-, rfl⟩ := taken
    cases request with
    | prepareEffect owner id stepName action compensation key =>
        rcases before.store.prepare_effect_cases owner id stepName action compensation key with
          ⟨_, _, _, same⟩ | ⟨_, same⟩ | ⟨_, _, _, same⟩ <;>
          simpa [SameKeys, afterStore, StoreCall.serve, same, Store.putEffect] using keys
    | transitionEffect owner id expected newState result error =>
        rcases before.store.transition_effect_cases owner id expected newState result error with
          ⟨_, _, _, same⟩ | ⟨_, _, same⟩ <;>
          simpa [SameKeys, afterStore, StoreCall.serve, same, Store.putEffect] using keys
    | commitEffect => exact lawful.elim
    | markStepCommitted => exact lawful.elim
    | _ => exact keys
  · obtain ⟨_, -, rfl⟩ := taken
    exact keys

theorem wp_lawful {Err Value : Type} {action : Program (coordinatorFace Args) Err Value}
    (uses : Uses (Lawful applied found) action) (keys : SameKeys found state) :
    wp (judged applied found) action (fun _ => SameKeys found) (fun _ => SameKeys found) state := by
  have runs := @wp_maintains (coordinatorFace Args) (System Args Unit) Err Value
    (judged applied found) (Lawful applied found) (SameKeys found)
    (fun _ _ lawful _ => lawful) (fun _ _ _ _ lawful keys taken => keys_kept lawful keys taken)
    action (fun _ => True) (fun _ => True) (uses ()) state keys
  apply wp_mono runs
  · exact fun _ _ ends => ends.2
  · exact fun _ _ ends => ends.2

/-- A transition answers with the record of the step it was asked for. -/
theorem wp_transition_step {expected : List EffectState} {newState : EffectState}
    {result : Option Args} {error : Option String}
    {post : Effect Args → System Args Unit → Prop} (keys : SameKeys found state)
    (moved : ∀ after record, record.stepId = stepId → SameKeys found after → post record after) :
    wp (judged applied found)
      (onStore (.transitionEffect sagaId stepId expected newState result error)) post
      (fun _ => SameKeys found) state := by
  apply wp_served_store judged_serves
  · trivial
  have lawful : Lawful applied found
      (.store (.transitionEffect sagaId stepId expected newState result error)) := trivial
  have kept : SameKeys found (afterStore (truthful applied)
      (.transitionEffect sagaId stepId expected newState result error) state) :=
    keys_kept lawful keys ⟨rfl, rfl⟩
  rcases state.store.transition_effect_cases sagaId stepId expected newState result error with
    ⟨entry, known, _, same⟩ | ⟨_, refusal, same⟩
  · have own : entry.stepId = stepId := Table.find_key known
    simp only [StoreCall.serve, same, replied_ok]
    exact moved _ _ own kept
  · simp only [StoreCall.serve, same, replied_error]
    exact kept

/-- The second half of an iteration, once the compensation is backed. -/
theorem wp_undo (backed : Backed applied found sagaId effect.stepId) (keys : SameKeys found state) :
    wp (judged applied found) (self.undoEffect sagaId effect) (fun _ => SameKeys found)
      (fun _ => SameKeys found) state := by
  have recovers : wp (judged applied found) (recoverCompensation sagaId effect false)
      (fun _ => SameKeys found) (fun _ => SameKeys found) state := by
    unfold recoverCompensation
    rw [if_neg (by decide), wp_bind]
    apply wp_transition_step keys
    intro after record same kept
    rw [← same] at backed
    exact wp_lawful (lawful_run_compensation backed) kept
  unfold undoEffect
  split
  · rw [wp_bind, wp_caught]
    apply wp_mono (wp_lawful lawful_resolve_compensation keys)
    · intro resolution after kept
      cases resolution with
      | applied => exact wp_lawful (conforms_bind lawful_transition fun _ => conforms_pure _) kept
      | notApplied => exact wp_lawful (lawful_run_compensation backed) kept
      | unknown =>
          exact wp_lawful (conforms_bind (lawful_fail_compensation _) fun _ => conforms_pure _) kept
    · intro error after kept
      exact wp_lawful (conforms_bind (lawful_fail_compensation _) fun _ => conforms_pure _) kept
  · exact recovers
  · exact recovers
  · exact keys

/-- An interrupted record without a published key is resolved by the resolver. -/
theorem wp_resolve (resolves : self.resolvesEffects = true) (clear : Clear found)
    (known : found.effect? sagaId effect.stepId = some effect) (stopped : interrupted effect.state)
    (keys : SameKeys found state) :
    wp (judged applied found) (self.resolveForwardEffect effect)
      (fun resolution after => SameKeys found after ∧
        (resolution = .applied → applied sagaId effect.stepId))
      (fun _ => SameKeys found) state := by
  have own : effect.sagaId = sagaId := clear.filed known
  have asks : wp (judged applied found) (self.askResolver effect)
      (fun resolution after => SameKeys found after ∧
        (resolution = .applied → applied sagaId effect.stepId))
      (fun _ => SameKeys found) state := by
    unfold askResolver
    rw [if_pos resolves, wp_bind, onOutside, wp_perform]
    refine ⟨trivial, ?_⟩
    rintro reply after ⟨world, told, rfl⟩
    cases reply with
    | error error => exact keys
    | ok value =>
        refine ⟨keys, fun settled => ?_⟩
        have truth := (told value rfl).1 settled
        rw [own] at truth
        exact truth
  unfold resolveForwardEffect keyPublished
  rw [wp_bind, wp_ite]
  split
  · rename_i filled
    apply wp_served_store judged_serves
    · trivial
    cases keyed : effect.idempotencyKey with
    | none =>
        rw [keyed] at filled
        cases filled
    | some key =>
        have hidden := clear.unpublished known stopped keyed
        have here : state.store.stepAlreadyCommitted sagaId key = false := by
          have same : state.store.idem = found.idem := keys
          rw [Store.stepAlreadyCommitted, same]
          exact hidden
        simp only [StoreCall.serve, replied_ok, own, Option.getD_some, here]
        exact asks
  · exact asks

theorem wp_settle_forward (resolves : self.resolvesEffects = true) (clear : Clear found)
    (known : found.effect? sagaId effect.stepId = some effect) (stopped : interrupted effect.state)
    (keys : SameKeys found state) :
    wp (judged applied found) (self.settleForward sagaId effect) (fun _ => SameKeys found)
      (fun _ => SameKeys found) state := by
  unfold settleForward
  rw [wp_bind, wp_caught]
  apply wp_mono (wp_resolve resolves clear known stopped keys)
  · intro resolution after settled
    obtain ⟨kept, grounds⟩ := settled
    cases resolution with
    | applied =>
        have backed : Backed applied found sagaId effect.stepId := fun _ _ _ => grounds rfl
        rw [wp_bind]
        apply wp_transition_step kept
        intro later record same kept
        rw [← same] at backed
        exact wp_undo backed kept
    | notApplied =>
        exact wp_lawful (conforms_bind lawful_transition fun _ => conforms_pure _) kept
    | unknown =>
        exact wp_lawful (conforms_bind (lawful_mark_ambiguous _) fun _ => conforms_pure _) kept
  · intro error after kept
    exact wp_lawful (conforms_bind (lawful_mark_ambiguous _) fun _ => conforms_pure _) kept

theorem wp_recover_effect (resolves : self.resolvesEffects = true) (clear : Clear found)
    (known : found.effect? sagaId effect.stepId = some effect) (keys : SameKeys found state) :
    wp (judged applied found) (self.recoverEffect sagaId effect) (fun _ => SameKeys found)
      (fun _ => SameKeys found) state := by
  have backed (settled : ¬interrupted effect.state) : Backed applied found sagaId effect.stepId := by
    intro record same stopped
    rw [known] at same
    obtain rfl := Option.some.inj same
    exact absurd stopped settled
  unfold recoverEffect
  split
  · exact keys
  · exact keys
  · exact wp_lawful (conforms_bind (lawful_dead_letter _ _) fun _ => conforms_pure _) keys
  · exact wp_lawful (conforms_bind lawful_transition fun _ => conforms_pure _) keys
  · rename_i executing
    exact wp_settle_forward resolves clear known (.inl executing) keys
  · rename_i ambiguous
    exact wp_settle_forward resolves clear known (.inr ambiguous) keys
  · rename_i executing ambiguous
    apply wp_undo _ keys
    apply backed
    intro stopped
    rcases stopped with stopped | stopped
    · exact executing stopped
    · exact ambiguous stopped

theorem wp_recover_effects (resolves : self.resolvesEffects = true) (clear : Clear found)
    (effects : List (Effect Args))
    (known : ∀ effect ∈ effects, found.effect? sagaId effect.stepId = some effect)
    (keys : SameKeys found state) :
    wp (judged applied found) (self.recoverEffects sagaId effects) (fun _ => SameKeys found)
      (fun _ => SameKeys found) state := by
  induction effects generalizing state with
  | nil => exact keys
  | cons effect earlier ih =>
      rw [recoverEffects, wp_bind]
      apply wp_mono (wp_recover_effect resolves clear (known effect List.mem_cons_self) keys)
      · intro goOn after kept
        rw [wp_ite]
        split
        · exact ih (fun other member => known other (List.mem_cons_of_mem _ member)) kept
        · exact kept
      · exact fun _ _ kept => kept

theorem wp_recover_saga {saga : IncompleteSaga Args} (resolves : self.resolvesEffects = true)
    (clear : Clear found)
    (known : ∀ effect ∈ saga.effects, found.effect? saga.sagaId effect.stepId = some effect)
    (keys : SameKeys found state) :
    wp (judged applied found) (self.recoverSaga saga) (fun _ => SameKeys found)
      (fun _ => SameKeys found) state := by
  unfold recoverSaga
  rw [wp_ite]
  split
  · apply wp_lawful _ keys
    apply conforms_bind
    · exact @conforms_perform (coordinatorFace Args) _ _ _ fun _ => trivial
    · exact fun _ => conforms_pure _
  rw [wp_ite]
  split
  · rw [wp_bind]
    have backwards : ∀ effect ∈ saga.effects.reverse,
        found.effect? saga.sagaId effect.stepId = some effect :=
      fun effect member => known effect (List.mem_reverse.mp member)
    apply wp_mono (wp_recover_effects resolves clear _ backwards keys)
    · intro settled after kept
      apply wp_lawful _ kept
      exact conforms_ite (conforms_bind (lawful_write _ _) fun _ => conforms_pure _) (conforms_pure _)
    · exact fun _ _ kept => kept
  · apply wp_lawful _ keys
    apply conforms_bind (lawful_replay_compensations _)
    intro outcome
    cases outcome with
    | none => exact conforms_bind (lawful_write _ _) fun _ => conforms_pure _
    | some error =>
        apply conforms_bind (lawful_write _ _)
        intro _
        apply conforms_bind
        · exact @conforms_perform (coordinatorFace Args) _ _ _ fun _ => trivial
        · exact fun _ => conforms_pure _

theorem wp_recover_sagas (resolves : self.resolvesEffects = true) (clear : Clear found)
    (sagas : List (IncompleteSaga Args)) (count : Nat)
    (known : ∀ saga ∈ sagas, ∀ effect ∈ saga.effects,
      found.effect? saga.sagaId effect.stepId = some effect) (keys : SameKeys found state) :
    wp (judged applied found) (self.recoverSagas sagas count) (fun _ => SameKeys found)
      (fun _ => SameKeys found) state := by
  induction sagas generalizing state count with
  | nil => exact keys
  | cons saga rest ih =>
      rw [recoverSagas, wp_bind]
      apply wp_mono (wp_recover_saga resolves clear (known saga List.mem_cons_self) keys)
      · intro rolledBack after kept
        exact ih _ (fun other member => known other (List.mem_cons_of_mem _ member)) kept
      · exact fun _ _ kept => kept

/-- The run lemma of recovery, from a journal that a crash left. -/
theorem wp_recover (resolves : self.resolvesEffects = true) (clear : Clear found)
    (memory : Memory Args) :
    wp (judged applied found) self.recover (fun _ => SameKeys found) (fun _ => SameKeys found)
      ⟨found, memory, ()⟩ := by
  unfold recover
  rw [wp_ite]
  split
  · rw [wp_bind]
    apply wp_served_store judged_serves
    · trivial
    apply wp_recover_sagas resolves clear
    · intro saga member effect listed
      have entry := Walk.list_incomplete_listed member
      rw [entry.effects] at listed
      exact Table.find_of_mem listed
    · rfl
  · rfl

end Recovery

section Runs

variable [DecidableEq Args] [Inhabited Args] {memories : Nat → Memory Args} {self : Coordinator}
  {pool : Pool (coordinatorFace Args) PyError Unit Nat (Progress Args) (Cluster Args)}

/-- Where no key is published over an interrupted record and none is started
under a published one, recovery compensates an interrupted record only if its
action was applied. -/
theorem recovery_never_guesses
    (reached : (operations KeepsApart).Reachable ⟨.empty, memories⟩ pool)
    (resolves : self.resolvesEffects = true) {applied : String → String → Prop}
    {memory : Memory Args} {later : Action Args Nat} {state : System Args Unit}
    (steps : Steps (machine (truthful applied) fun _ => True) self.recover
      ⟨pool.shared.store, memory, ()⟩ later state) {sagaId stepId : String}
    {compensation : ActionPayload Args} {record : Effect Args}
    (compensates : later.next? =
      some (.outside (.executeCompensation sagaId (some stepId) compensation)))
    (found : pool.shared.store.effect? sagaId stepId = some record)
    (stopped : record.state = .executing ∨ record.state = .ambiguous) : applied sagaId stepId := by
  have run : wp (judged applied pool.shared.store) self.recover _ _ _ :=
    wp_recover resolves (reachable_clear reached) memory
  have lawful := wp_next run (steps.guard _) compensates
  exact lawful record found stopped

end Runs

section Samples

/-- `KeepsApart`, read off a store. -/
def keepsApart (store : Store Unit) : Call Unit → Bool
  | .store (.transitionEffect sagaId stepId _ .executing _ _) =>
      (store.effect? sagaId stepId).all fun record =>
        record.idempotencyKey.all fun key => !store.stepAlreadyCommitted sagaId key
  | .store (.commitEffect sagaId stepId (some key)) =>
      (store.effects sagaId).rows.all fun record => record.stepId = stepId ||
        record.idempotencyKey ≠ some key || (record.state ≠ .executing && record.state ≠ .ambiguous)
  | _ => true

theorem keeps_apart_sound {store : Store Unit} {request : Call Unit}
    (passed : keepsApart store request = true) : KeepsApart store request := by
  unfold KeepsApart
  split
  · intro record key found legal keyed
    simp only [keepsApart, found, Option.all_some, keyed] at passed
    simpa using passed
  · intro own other record found legal different known stopped keyed
    have member : record ∈ _ := Table.find_mem known
    have id : record.stepId = other := Table.find_key known
    have settled := List.all_eq_true.mp passed record member
    rcases stopped with executing | ambiguous
    · simp [id, different, keyed, executing] at settled
    · simp [id, different, keyed, ambiguous] at settled
  · trivial

/-- One batch marks step `b` and goes on for so many calls, and another one then
commits step `a`. -/
def racing (permits : Store Unit → Call Unit → Prop) (check : Store Unit → Call Unit → Bool)
    (firstKey secondKey : String) (calls : Nat) :
    Pool (coordinatorFace Unit) PyError Unit Nat (Progress Unit) (Cluster Unit) :=
  scheduled (operations permits) (answerInCluster accepting)
    (fun shared _ _ request => check shared.store request) ⟨.empty, fun _ => .empty⟩
    ([.start "s" "" "", .execute "s" [sampleStep "a" (some firstKey)],
      .execute "s" [sampleStep "b" (some secondKey)]].map fun request =>
        (0, ApiCall.program sampleWorker request))
    (List.replicate 3 0 ++ List.replicate (6 + calls) 2 ++ List.replicate 10 1)

theorem racing_reachable {permits : Store Unit → Call Unit → Prop}
    {check : Store Unit → Call Unit → Bool}
    (sound : ∀ {store request}, check store request = true → permits store request)
    (firstKey secondKey : String) (calls : Nat) :
    (operations permits).Reachable ⟨.empty, fun _ => .empty⟩
      (racing permits check firstKey secondKey calls) := by
  apply scheduled_reachable
  · exact answer_in_cluster_honest accepting
  · exact fun _ _ _ _ passed => sound passed
  · intro entry member
    obtain ⟨request, listed, rfl⟩ := List.mem_map.mp member
    refine ⟨sampleWorker, request, rfl, ?_, rfl⟩
    rintro rfl
    simp at listed

def executed (pool : Pool (coordinatorFace Unit) PyError Unit Nat (Progress Unit) (Cluster Unit))
    (sagaId stepId : String) : Prop :=
  0 < JournalProtocol.executions sagaId stepId pool.trace

def recalling (pool : Pool (coordinatorFace Unit) PyError Unit Nat (Progress Unit) (Cluster Unit)) :
    (request : OutsideCall Unit) → Unit → Except PyError request.Answer × Unit
  | .resolveEffect effect, world =>
      (.ok (.bool (0 < JournalProtocol.executions effect.sagaId effect.stepId pool.trace)), world)
  | request, world => (accepting request, world)

theorem recalling_truthful
    (pool : Pool (coordinatorFace Unit) PyError Unit Nat (Progress Unit) (Cluster Unit))
    (request : OutsideCall Unit) (world : Unit) :
    (truthful (executed pool)).respond request world (recalling pool request world).1
      (recalling pool request world).2 := by
  cases request with
  | resolveEffect effect =>
      intro value told
      have same := Except.ok.inj told
      rw [← same, executed]
      by_cases done : 0 < JournalProtocol.executions effect.sagaId effect.stepId pool.trace
      · simp [done, normaliseResolution]
      · simp [done, normaliseResolution]
  | _ => trivial

def recovering (pool : Pool (coordinatorFace Unit) PyError Unit Nat (Progress Unit) (Cluster Unit))
    (calls : Nat) : Action Unit Nat × System Unit Unit :=
  simulate (answerWith (truthful (executed pool)) (recalling pool)) calls sampleWorker.recover
    ⟨pool.shared.store, .empty, ()⟩

theorem recovering_steps
    (pool : Pool (coordinatorFace Unit) PyError Unit Nat (Progress Unit) (Cluster Unit))
    (calls : Nat) :
    Steps (machine (truthful (executed pool)) fun _ => True) sampleWorker.recover
      ⟨pool.shared.store, .empty, ()⟩ (recovering pool calls).1 (recovering pool calls).2 :=
  simulate_steps (answer_with_honest (recalling_truthful pool)) calls _ _

/-- Step `b` has a key of its own and has run when the crash strikes. -/
def raced : Pool (coordinatorFace Unit) PyError Unit Nat (Progress Unit) (Cluster Unit) :=
  racing KeepsApart keepsApart "k" "l" 1

theorem recovery_never_guesses_sample :
    (recovering raced 8).1.next? =
        some (.outside (.executeCompensation "s" (some "b") ⟨"refund", ()⟩)) ∧
      executed raced "s" "b" := by
  have compensates : (recovering raced 8).1.next? =
      some (.outside (.executeCompensation "s" (some "b") ⟨"refund", ()⟩)) := by rfl
  have stopped : (raced.shared.store.effect? "s" "b").map Effect.state = some .executing := by
    decide
  obtain ⟨record, found, executing⟩ := Option.map_eq_some_iff.mp stopped
  exact ⟨compensates, recovery_never_guesses (racing_reachable keeps_apart_sound "k" "l" 1) rfl
    (recovering_steps raced 8) compensates found (.inl executing)⟩

/-- Both steps have one key, and the crash strikes before step `b` has run. -/
def overtaken : Pool (coordinatorFace Unit) PyError Unit Nat (Progress Unit) (Cluster Unit) :=
  racing (fun _ _ => True) (fun _ _ => true) "k" "k" 0

/-- The key that step `a` published stands for step `b` as well. -/
theorem published_key_misleads :
    (operations fun _ _ => True).Reachable ⟨.empty, fun _ => .empty⟩ overtaken ∧
      Steps (machine (truthful (executed overtaken)) fun _ => True) sampleWorker.recover
        ⟨overtaken.shared.store, .empty, ()⟩ (recovering overtaken 7).1 (recovering overtaken 7).2 ∧
      (recovering overtaken 7).1.next? =
        some (.outside (.executeCompensation "s" (some "b") ⟨"refund", ()⟩)) ∧
      (overtaken.shared.store.effect? "s" "b").map Effect.state = some .executing ∧
      ¬executed overtaken "s" "b" := by
  refine ⟨racing_reachable (fun _ => trivial) "k" "k" 0, recovering_steps overtaken 7, ?_, ?_, ?_⟩
  · rfl
  · decide
  · have none : JournalProtocol.executions "s" "b" overtaken.trace = 0 := by decide
    rw [executed, none]
    exact Nat.lt_irrefl 0

end Samples

end SagaMind.InterruptedEffects
