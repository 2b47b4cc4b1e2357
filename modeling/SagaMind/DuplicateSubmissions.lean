import SagaMind.Coordinator.Cluster
import SagaMind.Foundation.Annotations

/-!
# Concurrent submissions under one idempotency key

The check of a key, the registration of the step, its execution and the
publication of the key are separate calls, and the journal guards steps, not
keys. Where nobody acts on an answer about a key that is no longer true, a key is
executed successfully at most once under any interleaving.
-/

namespace SagaMind.DuplicateSubmissions

open CallProgram KeyedTable Coordinator

set_option autoImplicit false

variable {Args : Type}

def Ticket.carries (sagaId key : String) (ticket : Ticket Args) : Bool :=
  ticket.sagaId = sagaId ∧ ticket.idempotencyKey = some key

def preparedOn (sagaId key : String) (progress : Progress Args) : Bool :=
  match progress.stage with
  | .prepared ticket => Ticket.carries sagaId key ticket
  | _ => false

/-- The call has started a step with this key, and neither published the key
nor given the step up. -/
def runsOn (sagaId key : String) (progress : Progress Args) : Bool :=
  match progress.stage with
  | .armed ticket => Ticket.carries sagaId key ticket
  | .ran ticket => Ticket.carries sagaId key ticket
  | _ => false

def ranOn (sagaId key : String) (progress : Progress Args) : Bool :=
  match progress.stage with
  | .ran ticket => Ticket.carries sagaId key ticket
  | _ => false

def succeeds (sagaId key : String) : Event (coordinatorFace Args) → Bool
  | ⟨.outside (.execute owner step), .ok result⟩ =>
      owner = sagaId ∧ step.idempotencyKey = some key ∧ result.succeeded
  | _ => false

def successes (sagaId key : String) (trace : List (Event (coordinatorFace Args))) : Nat :=
  trace.countP (succeeds sagaId key)

theorem carries_ticket {sagaId key owner : String} {step : SagaStep Args} :
    Ticket.carries sagaId key (step.ticket owner) = true ↔
      owner = sagaId ∧ step.idempotencyKey = some key :=
  decide_eq_true_iff

def published (store : Store Args) (sagaId key : String) : Bool :=
  store.stepAlreadyCommitted sagaId key

def free (sagaId key : String) (store : Store Args) (others : List (Progress Args)) : Bool :=
  !published store sagaId key && others.all fun other => !runsOn sagaId key other

def startsFree (sagaId key : String) (cluster : Cluster Args) (others : List (Progress Args))
    (progress : Progress Args) : Call Args → Bool
  | .store (.transitionEffect owner stepId expected .executing _ _) =>
      !preparedOn sagaId key progress || free sagaId key cluster.store others ||
        (cluster.store.effect? owner stepId).all fun record => record.state ∉ expected
  | _ => true

/-- The key that a call has asked for last, if it was told that nobody has
published it. -/
abbrev Told : Type := Option (String × String)

def toldBy : (request : Call Args) → Except PyError request.Answer → Told → Told
  | .store (.stepAlreadyCommitted sagaId key), .ok false, _ => some (sagaId, key)
  | .store (.stepAlreadyCommitted ..), _, _ => none
  | _, _, told => told

/-- A call that was told that the key is unpublished starts a step with it only
while the key is still free. A mark that the journal refuses starts nothing, and
a call that was not told so may start what it likes. -/
def startsCurrent (sagaId key : String) (cluster : Cluster Args)
    (others : List (Progress Args × Told)) (noted : Progress Args × Told) : Call Args → Bool
  | .store (.transitionEffect owner stepId expected .executing _ _) =>
      !(preparedOn sagaId key noted.1 && noted.2 = some (sagaId, key)) ||
        free sagaId key cluster.store (others.map Prod.fst) ||
          (cluster.store.effect? owner stepId).all fun record => record.state ∉ expected
  | _ => true

def Asked (noted : Progress Args × Told) : Prop :=
  match noted.1.stage with
  | .cleared sagaId key => noted.2 = some (sagaId, key)
  | .prepared ticket => ∀ key, ticket.idempotencyKey = some key → key ≠ "" →
      noted.2 = some (ticket.sagaId, key)
  | _ => True

/-- The books of one key: once it is published nobody runs a step with it, and
before that at most one call does, which has executed or not. -/
structure Balanced (published : Bool) (successes opens runs : Nat) : Prop where
  closed : published = true → opens = 0 ∧ successes ≤ 1
  pending : published = false → opens ≤ 1 ∧ successes = runs

inductive Change (others : Nat) : (opened ran published : Bool) → (opened' ran' published' : Bool) →
    (success : Bool) → Prop
  | keep {opened ran published opened'} (fewer : opened' = true → opened = true) :
      Change others opened ran published opened' ran published false
  | mark (alone : others = 0) : Change others false false false true false false false
  | run {published} : Change others true false published true true published true
  | publish {published} : Change others true true published false false true false

theorem Balanced.change {others runs successes : Nat}
    {opened ran published opened' ran' published' success : Bool}
    (balanced : Balanced published successes (others + opened.toNat) (runs + ran.toNat))
    (bounded : runs ≤ others)
    (change : Change others opened ran published opened' ran' published' success) :
    Balanced published' (successes + success.toNat) (others + opened'.toNat)
      (runs + ran'.toNat) := by
  obtain ⟨closed, pending⟩ := balanced
  cases change with
  | keep fewer =>
      have less : opened'.toNat ≤ opened.toNat := by
        cases opened' <;> cases opened <;> simp_all
      constructor
      · intro isPublished
        have := closed isPublished
        simp only [Bool.toNat_false]
        omega
      · intro isOpen
        have := pending isOpen
        simp only [Bool.toNat_false]
        omega
  | mark alone =>
      constructor
      · exact nofun
      · intro _
        have := pending rfl
        simp only [Bool.toNat_false, Bool.toNat_true] at this ⊢
        omega
  | run =>
      constructor
      · intro isPublished
        have := closed isPublished
        simp only [Bool.toNat_true] at this
        omega
      · intro isOpen
        have := pending isOpen
        simp only [Bool.toNat_false, Bool.toNat_true] at this ⊢
        omega
  | publish =>
      constructor
      · intro _
        cases published with
        | true =>
            have := closed rfl
            simp only [Bool.toNat_true] at this
            omega
        | false =>
            have := pending rfl
            simp only [Bool.toNat_false, Bool.toNat_true] at this ⊢
            omega
      · exact nofun

structure Kept (sagaId key : String) (cluster : Cluster Args)
    (trace : List (Event (coordinatorFace Args))) (notes : List (Progress Args)) : Prop where
  live : ∀ progress ∈ notes, progress.recovering = false
  balanced : Balanced (published cluster.store sagaId key) (successes sagaId key trace)
    (notes.countP (runsOn sagaId key)) (notes.countP (ranOn sagaId key))

theorem ran_below_runs {sagaId key : String} (notes : List (Progress Args)) :
    notes.countP (ranOn sagaId key) ≤ notes.countP (runsOn sagaId key) := by
  apply List.countP_mono_left
  intro progress _ ran
  unfold ranOn at ran
  unfold runsOn
  split at ran
  · rename_i shape
    rw [shape]
    exact ran
  · cases ran

section Steps

variable {progress : Progress Args} {sagaId key : String} {others : Nat}

theorem Change.same {opened ran published opened' ran' published' success : Bool}
    (fewer : opened' = true → opened = true) (sameRan : ran' = ran)
    (samePublished : published' = published) (quiet : success = false) :
    Change others opened ran published opened' ran' published' success := by
  subst sameRan samePublished quiet
  exact .keep fewer

abbrev Books (others : Nat) (sagaId key : String) (request : Call Args)
    (reply : Except PyError request.Answer) (progress : Progress Args)
    (store after : Store Args) : Prop :=
  Change others (runsOn sagaId key progress) (ranOn sagaId key progress)
    (published store sagaId key) (runsOn sagaId key (progress.note request reply))
    (ranOn sagaId key (progress.note request reply)) (published after sagaId key)
    (succeeds sagaId key ⟨request, reply⟩)

theorem books_between {request : Call Args} {reply : Except PyError request.Answer}
    {store after : Store Args} (unran : ranOn sagaId key progress = false)
    (unopened : runsOn sagaId key (progress.note request reply) = false)
    (samePublished : published after sagaId key = published store sagaId key)
    (quiet : succeeds sagaId key ⟨request, reply⟩ = false) :
    Books others sagaId key request reply progress store after := by
  apply Change.same
  · simp [unopened]
  · rw [unran]
    unfold ranOn
    unfold runsOn at unopened
    split at unopened <;> simp_all
  · exact samePublished
  · exact quiet

variable [DecidableEq Args]

abbrev StoreBooks (others : Nat) (sagaId key : String) (store : Store Args)
    (request : StoreCall Args) (progress : Progress Args) : Prop :=
  Books others sagaId key (.store request) (request.serve store).1 progress store
    (request.serve store).2

theorem books_check {store : Store Args} {owner asked : String} (idle : progress.stage = .idle) :
    StoreBooks others sagaId key store (.stepAlreadyCommitted owner asked) progress := by
  apply books_between
  · simp [ranOn, idle]
  · simp only [StoreCall.serve]
    cases store.stepAlreadyCommitted owner asked with
    | true => simp [Progress.note, Stage.note, runsOn, idle]
    | false => simp [Progress.note, Stage.note, runsOn]
  · rfl
  · rfl

theorem books_prepare {store : Store Args} {owner stepId stepName : String}
    {action compensation : ActionPayload Args} {given : Option String}
    (cleared : progress.stage = clearance owner given) :
    StoreBooks others sagaId key store
      (.prepareEffect owner stepId stepName action compensation given) progress := by
  have unran : ranOn sagaId key progress = false := by
    unfold ranOn clearance at *
    split at cleared <;> simp [cleared]
  unfold StoreBooks
  simp only [StoreCall.serve]
  rcases store.prepare_effect_cases owner stepId stepName action compensation given with
    ⟨_, _, _, same⟩ | ⟨_, same⟩ | ⟨_, _, _, same⟩ <;> rw [same]
  · exact books_between unran rfl rfl rfl
  · exact books_between unran rfl rfl rfl
  · exact books_between unran rfl rfl rfl

theorem books_mark {store : Store Args} {owner stepId : String} {expected : List EffectState}
    {result : Option Args} {error : Option String} {ticket : Ticket Args}
    (prepared : progress.stage = .prepared ticket)
    (unclaimed : Ticket.carries sagaId key ticket = true →
      (published store sagaId key = false ∧ others = 0) ∨
        ∀ record, store.effect? owner stepId = some record → record.state ∉ expected) :
    StoreBooks others sagaId key store
      (.transitionEffect owner stepId expected .executing result error) progress := by
  have unran : ranOn sagaId key progress = false := by simp [ranOn, prepared]
  unfold StoreBooks
  simp only [StoreCall.serve]
  rcases store.transition_effect_cases owner stepId expected .executing result error with
    ⟨entry, found, legal, same⟩ | ⟨_, refusal, same⟩ <;> rw [same]
  · cases carries : Ticket.carries sagaId key ticket with
    | true =>
        have unopened : runsOn sagaId key progress = false := by simp [runsOn, prepared]
        rcases unclaimed carries with ⟨open', alone⟩ | refused
        · simp only [Books, Progress.note, Stage.note, prepared, unopened, unran, open', succeeds]
          have still : published (store.putEffect owner
              { entry with state := .executing, result, error }) sagaId key = false := open'
          rw [still]
          simpa [runsOn, ranOn, carries] using Change.mark alone
        · exact absurd legal (refused entry found)
    | false =>
        apply books_between unran
        · simp [Progress.note, Stage.note, prepared, runsOn, carries]
        · rfl
        · rfl
  · apply books_between unran
    · simp [Progress.note, Stage.note, prepared, runsOn]
    · rfl
    · rfl

theorem books_commit {store : Store Args} {owner stepId : String} {given : Option String}
    (filled : key ≠ "")
    (ran : ∃ ticket, progress.stage = .ran ticket ∧ ticket.sagaId = owner ∧
      ticket.stepId = stepId ∧ ticket.idempotencyKey = given) :
    StoreBooks others sagaId key store (.commitEffect owner stepId given) progress := by
  obtain ⟨ticket, ran, rfl, rfl, rfl⟩ := ran
  unfold StoreBooks
  simp only [StoreCall.serve]
  rcases store.commit_effect_cases ticket.sagaId ticket.stepId ticket.idempotencyKey with
    ⟨entry, found, legal, same⟩ | ⟨_, refusal, same⟩ <;> rw [same]
  · cases carries : Ticket.carries sagaId key ticket with
    | true =>
        obtain ⟨rfl, keyed⟩ : ticket.sagaId = sagaId ∧ ticket.idempotencyKey = some key := by
          simpa [Ticket.carries] using carries
        have opened : runsOn ticket.sagaId key progress = true := by simpa [runsOn, ran] using carries
        have executed : ranOn ticket.sagaId key progress = true := by simpa [ranOn, ran] using carries
        have out : published ((store.putEffect ticket.sagaId { entry with state := .committed }).publish
            ticket.sagaId ticket.idempotencyKey) ticket.sagaId key = true := by
          simp [published, Store.stepAlreadyCommitted, Store.publish, keyed, truthy, filled,
            Store.markStepCommitted]
        unfold Books
        rw [opened, executed, out]
        exact .publish
    | false =>
        have unran : ranOn sagaId key progress = false := by simpa [ranOn, ran] using carries
        apply books_between unran
        · rfl
        · dsimp only
          rw [Bool.eq_iff_iff]
          refine ⟨fun out => (Store.publish_adds out).resolve_right ?_,
            fun known => Store.publish_keeps known⟩
          rintro ⟨rfl, keyed⟩
          simp [Ticket.carries, keyed] at carries
        · rfl
  · exact .same id rfl rfl rfl

theorem books_store {store : Store Args} {request : StoreCall Args} (filled : key ≠ "")
    (live : progress.recovering = false) (here : Progress.allowed (.store request) progress)
    (unclaimed : ∀ owner stepId expected result error,
      request = .transitionEffect owner stepId expected .executing result error →
      preparedOn sagaId key progress = true →
        (published store sagaId key = false ∧ others = 0) ∨
          ∀ record, store.effect? owner stepId = some record → record.state ∉ expected) :
    StoreBooks others sagaId key store request progress := by
  cases request with
  | stepAlreadyCommitted owner asked =>
      apply books_check
      exact here.resolve_right (by simp [live])
  | prepareEffect => exact books_prepare here
  | commitEffect => exact books_commit filled here
  | markStepCommitted => exact here.elim
  | transitionEffect owner stepId expected newState result error =>
      have samePublished : published (StoreCall.serve
          (.transitionEffect owner stepId expected newState result error) store).2 sagaId key =
          published store sagaId key := by
        rcases store.transition_effect_cases owner stepId expected newState result error with
          ⟨_, _, _, same⟩ | ⟨_, _, same⟩
        · rw [StoreCall.serve, same]
          rfl
        · rw [StoreCall.serve, same]
      cases newState with
      | executing =>
          obtain ⟨ticket, prepared, -⟩ := here.2 rfl
          apply books_mark prepared
          intro carries
          apply unclaimed owner stepId expected result error rfl
          simpa [preparedOn, prepared] using carries
      | _ => exact .same id rfl samePublished rfl
  | writeTransactionState =>
      apply Change.same
      · cases shape : progress.stage <;>
          simp [runsOn, Progress.note, Stage.note, StoreCall.serve, shape]
      · cases shape : progress.stage <;>
          simp [ranOn, Progress.note, Stage.note, StoreCall.serve, shape]
      · rfl
      · rfl
  | _ => exact .same id rfl rfl rfl

omit [DecidableEq Args] in
theorem books_execute {store : Store Args} {owner : String} {step : SagaStep Args}
    {reply : Except PyError (ExecuteResult Args)}
    (armed : progress.stage = .armed (step.ticket owner)) :
    Books others sagaId key (.outside (.execute owner step)) reply progress store store := by
  have unran : ranOn sagaId key progress = false := by simp [ranOn, armed]
  cases reply with
  | error raised =>
      apply books_between unran
      · simp [Progress.note, Stage.note, armed, runsOn]
      · rfl
      · rfl
  | ok result =>
      have event : succeeds sagaId key ⟨.outside (.execute owner step), .ok result⟩ =
          (Ticket.carries sagaId key (step.ticket owner) && result.succeeded) := by
        rw [Bool.eq_iff_iff]
        simp [succeeds, carries_ticket, and_assoc]
      cases succeeded : result.succeeded with
      | true =>
          cases carries : Ticket.carries sagaId key (step.ticket owner) with
          | true =>
              simp only [Books, event, Progress.note, Stage.note, armed, succeeded, if_true,
                runsOn, ranOn, carries, Bool.true_and]
              exact .run
          | false =>
              apply books_between unran
              · simp [Progress.note, Stage.note, armed, runsOn, succeeded, carries]
              · rfl
              · rw [event, carries, Bool.false_and]
      | false =>
          apply books_between unran
          · simp [Progress.note, Stage.note, armed, runsOn, succeeded]
          · rfl
          · rw [event, succeeded, Bool.and_false]

theorem kept_call {before after : Cluster Args} {trace : List (Event (coordinatorFace Args))}
    {left right : List (Progress Args)} {owner : Nat} {request : Call Args}
    {reply : Except PyError request.Answer} (filled : key ≠ "")
    (kept : Kept sagaId key before trace (left ++ progress :: right))
    (here : Progress.allowed request progress ∧ request ≠ .store .listIncomplete)
    (starts : startsFree sagaId key before (left ++ right) progress request = true)
    (served : serveInCluster owner request before reply after) :
    Kept sagaId key after (trace ++ [⟨request, reply⟩])
      (left ++ progress.note request reply :: right) := by
  obtain ⟨allowed, single⟩ := here
  have live := kept.live progress List.mem_append_cons_self
  have stays : (progress.note request reply).recovering = false := by
    rcases request with request | request | request
    · exact live
    · cases request with
      | listIncomplete => exact absurd rfl single
      | _ => exact live
    · exact live
  have books : Books ((left ++ right).countP (runsOn sagaId key)) sagaId key request reply
      progress before.store after.store := by
    rcases request with request | request | request
    · obtain ⟨-, rfl⟩ := served
      exact .same id rfl rfl rfl
    · obtain ⟨rfl, rfl⟩ := served
      apply books_store filled live allowed
      rintro owner stepId expected result error rfl mine
      simp only [startsFree, mine, free, Bool.not_true, Bool.false_or, Bool.or_eq_true,
        Bool.and_eq_true, Bool.not_eq_true', Option.all_eq_true] at starts
      rcases starts with ⟨unpublished, alone⟩ | refused
      · left
        refine ⟨unpublished, List.countP_eq_zero.mpr ?_⟩
        intro other member
        simpa using List.all_eq_true.mp alone other member
      · right
        intro record found
        simpa using refused record found
    · obtain rfl := served
      cases request with
      | execute => exact books_execute allowed
      | _ => exact .same id rfl rfl rfl
  constructor
  · exact Setting.every_replaced kept.live stays
  · have balanced := kept.balanced
    rw [count_around, count_around] at balanced ⊢
    unfold successes
    rw [count_snoc]
    exact balanced.change (ran_below_runs _) books

end Steps

section Questions

variable {sagaId key : String} {noted : Progress Args × Told} {request : Call Args}

/-- The coordinator asks for a key before it prepares a step with it. -/
theorem asked_note (live : noted.1.recovering = false) (asked : Asked noted)
    (here : Progress.allowed request noted.1) (reply : Except PyError request.Answer) :
    Asked (noted.1.note request reply, toldBy request reply noted.2) := by
  obtain ⟨progress, told⟩ := noted
  cases request with
  | memory request => exact asked
  | outside request =>
      cases request with
      | execute owner step =>
          have armed : progress.stage = .armed (step.ticket owner) := here
          cases reply with
          | error error => simp [Asked, Progress.note, Stage.note, armed]
          | ok result =>
              cases succeeded : result.succeeded <;>
                simp [Asked, Progress.note, Stage.note, armed, succeeded]
      | _ => exact asked
  | store request =>
      cases request with
      | stepAlreadyCommitted owner asking =>
          have unrecovered : progress.recovering = false := live
          have idle : progress.stage = .idle := here.resolve_right (by simp [unrecovered])
          cases reply with
          | error error => simp [Asked, Progress.note, Stage.note, idle]
          | ok known => cases known <;> simp [Asked, Progress.note, Stage.note, toldBy, idle]
      | prepareEffect owner stepId stepName action compensation given =>
          have cleared : progress.stage = clearance owner given := here
          cases reply with
          | error error => trivial
          | ok effect =>
              intro name mine filled
              obtain rfl : given = some name := mine
              change told = some (owner, name)
              simpa [Asked, cleared, clearance, truthy, filled] using asked
      | transitionEffect owner stepId expected newState result error =>
          cases newState with
          | executing =>
              cases shape : progress.stage <;> cases reply <;>
                simp_all [Asked, Progress.note, Stage.note, toldBy]
          | _ => exact asked
      | commitEffect =>
          cases reply with
          | error error => exact asked
          | ok effect => trivial
      | writeTransactionState =>
          cases shape : progress.stage <;> simp [Asked, Progress.note, Stage.note, shape]
      | _ => exact asked

/-- The answer that a call acts on is the one that it was given. -/
theorem current_free (filled : key ≠ "") (asked : Asked noted) {cluster : Cluster Args}
    {others : List (Progress Args × Told)}
    (current : startsCurrent sagaId key cluster others noted request = true) :
    startsFree sagaId key cluster (others.map Prod.fst) noted.1 request = true := by
  cases request with
  | store request =>
      cases request with
      | transitionEffect owner stepId expected newState result error =>
          cases newState with
          | executing =>
              cases prepares : preparedOn sagaId key noted.1 with
              | false => simp [startsFree, prepares]
              | true =>
                  have told : noted.2 = some (sagaId, key) := by
                    unfold preparedOn at prepares
                    unfold Asked at asked
                    split at prepares
                    · rename_i ticket shape
                      obtain ⟨rfl, mine⟩ : ticket.sagaId = sagaId ∧
                          ticket.idempotencyKey = some key := of_decide_eq_true prepares
                      rw [shape] at asked
                      exact asked key mine filled
                    · cases prepares
                  simpa [startsCurrent, startsFree, prepares, told] using current
          | _ => rfl
      | _ => rfl
  | _ => rfl

end Questions

section Runs

variable [DecidableEq Args] [Inhabited Args] {sagaId key : String}

abbrev questioned
    (permits : Cluster Args → List (Progress Args × Told) → Progress Args × Told → Call Args → Prop) :
    Setting (coordinatorFace Args) PyError Unit Nat (Progress Args × Told) (Cluster Args) :=
  { (submissions fun _ _ _ _ => True).annotated none toldBy with permits := permits }

/-- No call acts on an answer about the key that is no longer true. -/
abbrev Current (sagaId key : String) (shared : Cluster Args)
    (others : List (Progress Args × Told)) (noted : Progress Args × Told)
    (request : Call Args) : Prop :=
  startsCurrent sagaId key shared others noted request = true

abbrev Live (request : Call Args) (noted : Progress Args × Told) : Prop :=
  (Progress.allowed request noted.1 ∧ request ≠ .store .listIncomplete) ∧ True

theorem submissions_keep (filled : key ≠ "") :
    (questioned (Current sagaId key)).Invariant (Live : Call Args → _ → Prop)
      fun cluster trace notes => Kept sagaId key cluster trace (notes.map Prod.fst) ∧
        ∀ noted ∈ notes, Asked noted := by
  constructor
  · rintro shared trace notes ⟨kept, asked⟩
    refine ⟨⟨?_, ?_⟩, List.forall_mem_append.mpr ⟨asked, List.forall_mem_singleton.mpr trivial⟩⟩
    · rw [List.map_append]
      exact List.forall_mem_append.mpr ⟨kept.live, List.forall_mem_singleton.mpr rfl⟩
    · rw [List.map_append, List.map_singleton, count_snoc, count_snoc]
      exact kept.balanced
  · rintro shared after trace left right noted owner request reply ⟨kept, asked⟩ ⟨here, -⟩ starts
      served
    have mine := asked noted List.mem_append_cons_self
    have free := current_free filled mine starts
    rw [List.map_append] at free
    rw [List.map_append, List.map_cons] at kept
    have live := kept.live noted.1 List.mem_append_cons_self
    constructor
    · rw [List.map_append, List.map_cons]
      exact kept_call filled kept here free served
    · exact Setting.every_replaced asked (asked_note live mine here.1 reply)
  · exact fun kept subset lost => lost.1.elim

/-- As long as no call starts a step on an answer about its key that is no longer
true, the key is executed successfully at most once. -/
theorem executed_at_most_once {memories : Nat → Memory Args}
    {pool : Pool (coordinatorFace Args) PyError Unit Nat (Progress Args × Told) (Cluster Args)}
    (filled : key ≠ "")
    (reached : (questioned (Current sagaId key)).Reachable ⟨.empty, memories⟩ pool) :
    successes sagaId key pool.trace ≤ 1 := by
  have initial : Kept sagaId key (⟨.empty, memories⟩ : Cluster Args) [] [] := by
    constructor
    · exact fun _ member => absurd member List.not_mem_nil
    · constructor
      · intro isPublished
        cases isPublished
      · exact fun _ => ⟨Nat.zero_le _, rfl⟩
  have obedient : ∀ owner program, (questioned (Current sagaId key)).admits owner program →
      (questioned (Current sagaId key)).Obeys (Live : Call Args → _ → Prop) program
        (questioned (Current sagaId key)).start := by
    intro owner program admitted
    have obeys := @cluster_obeys_live Args _ _ (· ≠ .recover) False (fun _ _ _ _ => True)
      (fun _ live => live) owner program admitted
    have both : wp (((submissions fun _ _ _ _ => True).annotated none toldBy).discipline Live)
        program (fun _ _ => True) (fun _ _ => True) ({}, none) :=
      wp_annotated obeys (conforms_free (fun _ _ => trivial) program none)
    exact both
  have sound := Setting.reachable_sound (submissions_keep filled) obedient
    ⟨initial, fun _ member => absurd member List.not_mem_nil⟩ reached
  have balanced := sound.holds.1.balanced
  have ranBelow := @ran_below_runs Args sagaId key ((pool.threads.map Thread.noted).map Prod.fst)
  cases isPublished : published pool.shared.store sagaId key with
  | true => exact (balanced.closed isPublished).2
  | false =>
      have := balanced.pending isPublished
      omega

def twinRequests : List (Nat × ApiCall Unit) :=
  [(0, .execute "s" [sampleStep "a" (some "k")]), (0, .execute "s" [sampleStep "b" (some "k")])]

theorem twin_requests_live : ∀ entry ∈ twinRequests, entry.2 ≠ .recover := by
  intro entry member
  rcases List.mem_pair.mp member with rfl | rfl <;> rintro ⟨⟩

def resubmitted : Pool (coordinatorFace Unit) PyError Unit Nat (Progress Unit × Told) (Cluster Unit) :=
  scheduled (questioned (Current "s" "k")) (answerInCluster accepting) (startsCurrent "s" "k")
    ⟨.empty, fun _ => sampleMemory⟩
    (twinRequests.map fun entry => (entry.1, entry.2.program sampleWorker))
    (List.replicate 14 0 ++ List.replicate 5 1)

theorem resubmitted_executes_once :
    (∀ thread ∈ resubmitted.threads, thread.program.outcome?.isSome = true) ∧
      1 ≤ successes "s" "k" resubmitted.trace ∧ successes "s" "k" resubmitted.trace ≤ 1 := by
  refine ⟨by decide, by decide, ?_⟩
  apply executed_at_most_once (by decide)
  apply scheduled_reachable
  · exact answer_in_cluster_honest accepting
  · exact fun _ _ _ _ passed => passed
  · intro entry member
    obtain ⟨request, listed, rfl⟩ := List.mem_map.mp member
    exact ⟨sampleWorker, request.2, rfl, twin_requests_live request listed, rfl⟩

def twins : Pool (coordinatorFace Unit) PyError Unit Nat (Progress Unit) (Cluster Unit) :=
  rehearsed (submissions fun _ _ _ _ => True) (fun _ _ _ _ => true) accepting twinRequests
    (List.replicate 3 0 ++ List.replicate 12 1 ++ List.replicate 9 0)

/-- The journal accepts both steps: it knows them by their identities only. -/
theorem twins_execute_twice :
    ¬∀ (memories : Nat → Memory Unit)
      (pool : Pool (coordinatorFace Unit) PyError Unit Nat (Progress Unit) (Cluster Unit))
      (sagaId key : String), key ≠ "" →
      (submissions fun _ _ _ _ => True).Reachable ⟨.empty, memories⟩ pool →
        successes sagaId key pool.trace ≤ 1 := by
  intro claim
  have once := claim _ twins "s" "k" (by decide)
    (rehearsed_reachable (fun _ _ _ _ _ => trivial) accepting twin_requests_live _)
  have twice : successes "s" "k" twins.trace = 2 := by decide
  rw [twice] at once
  omega

end Runs

end SagaMind.DuplicateSubmissions
