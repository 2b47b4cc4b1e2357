import SagaMind.StateStore.Codecs
import SagaMind.StateStore.DeadLetters

/-!
# Which dead letters a tenant sees

A tenant should see the newest of its own dead letters, whatever else was
pushed. On Redis the window is cut before the entries are filtered, so the
letters of other tenants push old ones out of sight. On Postgres a tenant sees
its letters as long as no column cuts a tenant identity.
-/

namespace SagaMind.DeadLetterVisibility

open CallProgram KeyedTable Redis Windows

set_option autoImplicit false

/-- A dead-letter queue: how it is filled, how it is listed, and what any other
operation of the store may change of it. -/
structure LetterQueue (State Push Letter : Type) where
  opened : State → Prop
  push : Push → State → Except PyError Unit × State
  elsewhere : State → State → Prop
  /-- The letter that a push is asked to record. -/
  letter : Push → State → Letter
  tenant : Letter → Option String
  list : String → State → Except PyError (List Letter)
  newestFirst : List Letter → List Letter

namespace LetterQueue

variable {State Push Letter : Type}

/-- A state of the queue, and the letters it has accepted, the last one first. -/
inductive Filled (queue : LetterQueue State Push Letter) : State → List Letter → Prop
  | opened {state} (fresh : queue.opened state) : Filled queue state []
  | pushed {state after letters push} (earlier : Filled queue state letters)
      (accepted : queue.push push state = (.ok (), after)) :
      Filled queue after (queue.letter push state :: letters)
  | refused {state after letters push error} (earlier : Filled queue state letters)
      (raised : queue.push push state = (.error error, after)) : Filled queue after letters
  | elsewhere {state after letters} (earlier : Filled queue state letters)
      (changed : queue.elsewhere state after) : Filled queue after letters

theorem Filled.pushes {queue : LetterQueue State Push Letter} {state : State}
    {letters : List Letter} (earlier : Filled queue state letters) (push : Push)
    (answered : (queue.push push state).1 = .ok ()) :
    Filled queue (queue.push push state).2 (queue.letter push state :: letters) :=
  .pushed earlier (Prod.ext answered rfl)

/-- The tenant is shown the newest 500 of its letters. -/
def Visible (queue : LetterQueue State Push Letter) (state : State) (letters : List Letter)
    (tenant : String) : Prop :=
  queue.list tenant state = .ok
    ((queue.newestFirst (letters.filter fun letter => queue.tenant letter = some tenant)).take
      letterLimit)

end LetterQueue

/-- The arguments of `push_dead_letter`. -/
structure LetterPush (Saga : Type) where
  sagaId : Saga
  stepName : String
  error : String
  tenantId : Option String

section OnRedis

variable {V : Type}

def redisQueue (wire : RedisStore.LetterWire V) :
    LetterQueue Redis.Server (LetterPush String) DeadLetter where
  opened := fun server => server.keys RedisStore.deadLetterKey = none
  push := fun push => (RedisStore.pushDeadLetter wire push.sagaId push.stepName push.error
    push.tenantId).evaluate (Request.serve RedisStore.Script.body)
  elsewhere := fun before after =>
    after.keys RedisStore.deadLetterKey = before.keys RedisStore.deadLetterKey
  letter := fun push server =>
    { sagaId := push.sagaId
      tenantId := RedisStore.tenantOf wire.toSagaWire push.sagaId push.tenantId server
      stepName := push.stepName
      error := push.error }
  tenant := DeadLetter.tenantId
  list := fun tenant server => ((RedisStore.listDeadLetters wire (some tenant)).evaluate
    (Request.serve RedisStore.Script.body) server).1
  newestFirst := id

/-- Writing the record of a saga, with its tenant, is such another operation. -/
theorem write_elsewhere (wire : RedisStore.LetterWire V) (server : Redis.Server)
    (sagaId status : String) (metadata : RedisStore.SagaMetadata V) :
    (redisQueue wire).elsewhere server
      ((RedisStore.writeTransactionState wire.toSagaWire sagaId status metadata).evaluate
        (Request.serve RedisStore.Script.body) server).2 :=
  RedisStore.write_keeps_letters wire.toSagaWire sagaId status metadata

/-- Nothing of the tenant lies behind the newest 500 letters, or these are all
its own. -/
def WithinWindow (letters : List DeadLetter) (tenant : String) : Prop :=
  (∀ letter ∈ letters.take letterLimit, letter.tenantId = some tenant) ∨
    ∀ letter ∈ letters.drop letterLimit, letter.tenantId ≠ some tenant

variable {wire : RedisStore.LetterWire V} {server : Redis.Server} {letters : List DeadLetter}

/-- The list holds the accepted letters, the last one in front. -/
theorem redis_filled (filled : (redisQueue wire).Filled server letters) :
    server.list RedisStore.deadLetterKey = .ok (letters.map wire.letters.dumps) := by
  induction filled with
  | opened fresh =>
      have absent : _ = none := fresh
      rw [Server.list, absent]
      rfl
  | pushed earlier accepted ih =>
      rename_i state after letters push
      change (RedisStore.pushDeadLetter wire push.sagaId push.stepName push.error
        push.tenantId).evaluate (Request.serve RedisStore.Script.body) state = _ at accepted
      rcases RedisStore.push_dead_letter_cases wire push.sagaId push.stepName push.error
        push.tenantId ih with ⟨raised, refused⟩ | added
      · rw [refused] at accepted
        cases accepted
      · rw [added] at accepted
        cases accepted
        rw [Server.list, keys_assign, if_pos rfl]
        rfl
  | refused earlier raised ih =>
      rename_i state after letters push error
      change (RedisStore.pushDeadLetter wire push.sagaId push.stepName push.error
        push.tenantId).evaluate (Request.serve RedisStore.Script.body) state = _ at raised
      rcases RedisStore.push_dead_letter_cases wire push.sagaId push.stepName push.error
        push.tenantId ih with ⟨_, refused⟩ | added
      · rw [refused] at raised
        cases raised
        exact ih
      · rw [added] at raised
        cases raised
  | elsewhere earlier changed ih =>
      have same : _ = _ := changed
      rw [Server.list, same]
      exact ih

theorem redis_push_given (filled : (redisQueue wire).Filled server letters)
    (sagaId stepName error : String) {tenant : String} (given : tenant ≠ "") :
    ∃ after, (redisQueue wire).Filled after
      (⟨sagaId, some tenant, stepName, error⟩ :: letters) := by
  have truth : truthy (some tenant) = true := decide_eq_true given
  have resolved : (RedisStore.resolveTenant wire.toSagaWire sagaId (some tenant)).evaluate
      (Request.serve RedisStore.Script.body) server = (.ok (some tenant), server) := by
    rw [RedisStore.resolveTenant, if_pos truth]
    rfl
  have accepted : (redisQueue wire).push ⟨sagaId, stepName, error, some tenant⟩ server = _ :=
    RedisStore.push_dead_letter_served wire stepName error resolved (redis_filled filled)
  have pushed := LetterQueue.Filled.pushed filled accepted
  have letter : (redisQueue wire).letter ⟨sagaId, stepName, error, some tenant⟩ server =
      ⟨sagaId, some tenant, stepName, error⟩ := by
    change DeadLetter.mk sagaId (RedisStore.tenantOf _ sagaId (some tenant) server) _ _ = _
    rw [RedisStore.tenantOf, resolved]
    rfl
  rw [letter] at pushed
  exact ⟨_, pushed⟩

theorem redis_visible_iff (filled : (redisQueue wire).Filled server letters) (tenant : String) :
    (redisQueue wire).Visible server letters tenant ↔ WithinWindow letters tenant := by
  have shown : (redisQueue wire).list tenant server = .ok ((letters.take letterLimit).filter
      fun letter => decide (letter.tenantId = some tenant)) :=
    congrArg Prod.fst (RedisStore.list_dead_letters_served wire tenant (redis_filled filled))
  have window := filter_window_iff (fun letter : DeadLetter =>
    decide (letter.tenantId = some tenant)) letterLimit letters
  simp only [decide_eq_true_eq, decide_eq_false_iff_not] at window
  rw [LetterQueue.Visible, shown, Except.ok.injEq]
  exact window

end OnRedis

section OnPostgres

open PostgresStore

def postgresQueue : LetterQueue LetterTables (Nat × LetterPush Uuid) LetterRow where
  opened := fun tables => tables.letters = []
  push := fun call tables =>
    match pushDeadLetter tables call.1 call.2.sagaId call.2.stepName call.2.error
        call.2.tenantId with
    | .ok after => (.ok (), after)
    | .error error => (.error error, tables)
  elsewhere := fun before after => after.letters = before.letters
  letter := fun call tables => requested tables call.1 call.2.sagaId call.2.stepName
    call.2.error call.2.tenantId
  tenant := LetterRow.tenantId
  list := fun tenant tables => listDeadLetters tables (some tenant)
  newestFirst := newestFirst LetterRow.occurredAt

def filedUnder (letters : List LetterRow) (tenant : String) : List LetterRow :=
  letters.filter fun letter => (columned letter).tenantId = some tenant

/-- The driver accepts the tenant, the column has cut none of its letters, and
the newest letters stored under it are its own. -/
structure Unmixed (letters : List LetterRow) (tenant : String) : Prop where
  clean : Clean tenant
  whole : ∀ letter ∈ letters, letter.tenantId = some tenant → tenant.toList.length ≤ 50
  own : ∀ letter ∈ listed (filedUnder letters tenant), letter.tenantId = some tenant

variable {tables : LetterTables} {letters : List LetterRow}

/-- The table holds what the column made of the accepted letters. -/
theorem postgres_filled (filled : postgresQueue.Filled tables letters) :
    tables.letters = letters.map columned := by
  induction filled with
  | opened fresh => exact fresh
  | pushed earlier accepted ih =>
      rename_i state after letters call
      simp only [postgresQueue] at accepted
      split at accepted
      · rename_i pushed
        cases accepted
        rw [(push_dead_letter_adds pushed).1, ih]
        rfl
      · cases accepted
  | refused earlier raised ih =>
      simp only [postgresQueue] at raised
      split at raised
      · cases raised
      · cases raised
        exact ih
  | elsewhere earlier changed ih => exact Eq.trans changed ih

theorem listed_nil_iff {rows : List LetterRow} : listed rows = [] ↔ rows = [] := by
  rw [listed, List.take_eq_nil_iff]
  constructor
  · rintro (none | empty)
    · cases none
    · exact (empty ▸ newest_perm rows).nil_eq.symm
  · intro empty
    rw [empty]
    exact .inr List.mergeSort_nil

theorem filed_nothing {tenant : String} (long : ¬tenant.toList.length ≤ 50) :
    filedUnder letters tenant = [] := by
  rw [filedUnder, List.filter_eq_nil_iff]
  intro letter _ stored
  exact long (columned_fits (by simpa using stored))

/-- The letters of a tenant that fits are among those filed under it. -/
theorem own_filed {tenant : String} (short : tenant.toList.length ≤ 50) :
    (filedUnder letters tenant).filter (fun letter => letter.tenantId = some tenant) =
      letters.filter fun letter => letter.tenantId = some tenant := by
  rw [filedUnder, List.filter_filter]
  apply List.filter_congr
  intro letter _
  by_cases own : letter.tenantId = some tenant
  · rw [columned_short own short]
    simp [own]
  · simp [own]

/-- What is shown are the own letters exactly if the window holds no other. -/
theorem listed_own_iff {tenant : String} (distinct : (letters.map LetterRow.occurredAt).Nodup)
    (short : tenant.toList.length ≤ 50) :
    (listed (filedUnder letters tenant)).map columned =
        listed (letters.filter fun letter => letter.tenantId = some tenant) ↔
      ∀ letter ∈ listed (filedUnder letters tenant), letter.tenantId = some tenant := by
  have filedDistinct : ((filedUnder letters tenant).map LetterRow.occurredAt).Nodup :=
    distinct.sublist (List.filter_sublist.map _)
  have own : listed (letters.filter fun letter => letter.tenantId = some tenant) =
      ((newestFirst LetterRow.occurredAt (filedUnder letters tenant)).filter
        fun letter => letter.tenantId = some tenant).take letterLimit := by
    rw [← own_filed short, listed, newest_filter filedDistinct]
  have accepted : ∀ letter ∈ listed (filedUnder letters tenant), letter ∈ letters := by
    intro letter member
    have filed := (newest_perm _).subset (List.mem_of_mem_take member)
    exact List.mem_of_mem_filter filed
  constructor
  · intro same letter member
    have shown := List.mem_map_of_mem (f := columned) member
    rw [same] at shown
    have wanted := List.mem_filter.mp ((newest_perm _).subset (List.mem_of_mem_take shown))
    -- The shown row has the time of its letter, so it is the letter.
    have itself := List.inj_on_of_nodup_map distinct wanted.1 (accepted letter member) rfl
    rw [← itself]
    simpa using wanted.2
  · intro every
    have window : listed (filedUnder letters tenant) =
        listed (letters.filter fun letter => letter.tenantId = some tenant) := by
      rw [own, listed, window_of_wanted]
      intro letter member
      exact decide_eq_true (every letter member)
    rw [← window]
    conv_rhs => rw [← List.map_id (listed (filedUnder letters tenant))]
    apply List.map_congr_left
    intro letter member
    exact columned_short (every letter member) short

theorem postgres_visible_iff (filled : postgresQueue.Filled tables letters)
    (distinct : (letters.map LetterRow.occurredAt).Nodup) (tenant : String) :
    postgresQueue.Visible tables letters tenant ↔ Unmixed letters tenant := by
  have table : (tables.letters.filter fun row => row.tenantId = some tenant) =
      (filedUnder letters tenant).map columned := by
    rw [postgres_filled filled, List.filter_map]
    rfl
  have rows : listed ((filedUnder letters tenant).map columned) =
      (listed (filedUnder letters tenant)).map columned := by
    rw [listed, newest_map fun _ => rfl, listed, List.map_take]
    rfl
  change listDeadLetters tables (some tenant) =
    .ok (listed (letters.filter fun letter => letter.tenantId = some tenant)) ↔ _
  by_cases clean : Clean tenant
  · have shown : listDeadLetters tables (some tenant) =
        .ok ((listed (filedUnder letters tenant)).map columned) := by
      rw [← rows, ← table, listDeadLetters, parameter_clean clean]
      rfl
    rw [shown, Except.ok.injEq]
    by_cases short : tenant.toList.length ≤ 50
    · rw [listed_own_iff distinct short]
      exact ⟨fun own => ⟨clean, fun _ _ _ => short, own⟩, Unmixed.own⟩
    · have nothing : listed (filedUnder letters tenant) = [] :=
        listed_nil_iff.mpr (filed_nothing short)
      rw [nothing, List.map_nil]
      constructor
      · intro none
        have unsent := List.filter_eq_nil_iff.mp (listed_nil_iff.mp none.symm)
        constructor
        · exact clean
        · intro letter member own
          exact absurd (decide_eq_true own) (unsent letter member)
        · rw [nothing]
          exact fun _ impossible => absurd impossible List.not_mem_nil
      · intro unmixed
        symm
        rw [listed_nil_iff, List.filter_eq_nil_iff]
        intro letter member own
        exact short (unmixed.whole letter member (of_decide_eq_true own))
  · constructor
    · intro shown
      rw [listDeadLetters, parameter, if_pos (not_not.mp clean)] at shown
      cases shown
    · exact fun unmixed => (clean unmixed.clean).elim

end OnPostgres

/-- Whatever was pushed, Redis shows a tenant its newest letters exactly if they
lie within the common window, and Postgres exactly if no column mixed tenants. -/
theorem dead_letters_visible_iff {V : Type} {wire : RedisStore.LetterWire V}
    {server : Redis.Server} {letters : List DeadLetter} {tables : PostgresStore.LetterTables}
    {rows : List PostgresStore.LetterRow} (onRedis : (redisQueue wire).Filled server letters)
    (onPostgres : postgresQueue.Filled tables rows)
    (distinct : (rows.map PostgresStore.LetterRow.occurredAt).Nodup) (tenant : String) :
    ((redisQueue wire).Visible server letters tenant ↔ WithinWindow letters tenant) ∧
      (postgresQueue.Visible tables rows tenant ↔ Unmixed rows tenant) :=
  ⟨redis_visible_iff onRedis tenant, postgres_visible_iff onPostgres distinct tenant⟩

section Samples

def sampleSaga : Uuid := ⟨"6f1c0f7e-52a4-4d0e-9a51-3f2b9c1d7e08", by decide⟩

def firstLetter : DeadLetter := ⟨sampleSaga.text, some "a", "one", "failed"⟩

def secondLetter : DeadLetter := ⟨sampleSaga.text, some "b", "two", "failed"⟩

/-- `json.dumps` of such a letter. -/
def letterText (tenant stepName : String) : String :=
  "\x7b\"saga_id\": \"6f1c0f7e-52a4-4d0e-9a51-3f2b9c1d7e08\", \"tenant_id\": \"" ++ tenant ++
    "\", \"step_name\": \"" ++ stepName ++ "\", \"error\": \"failed\"\x7d"

def sampleLetters : RedisStore.Worded DeadLetter where
  known := [(firstLetter, letterText "a" "one"), (secondLetter, letterText "b" "two")]
  values := by decide
  texts := by decide
  worded := by decide

def sampleMetadata : RedisStore.Worded (RedisStore.SagaMetadata String) where
  known := [(.empty, "\x7b\x7d")]
  values := by decide
  texts := by decide
  worded := by decide

def sampleWire : RedisStore.LetterWire String where
  metadata := sampleMetadata.codec
  loads_nothing := by decide
  str := some
  letters := sampleLetters.codec

def samplePush {Saga : Type} (sagaId : Saga) (tenant stepName : String) : LetterPush Saga :=
  ⟨sagaId, stepName, "failed", some tenant⟩

/-- The two letters on both backends, the one of the first tenant pushed first. On
Redis the record of the saga is written between them. -/
def sampleServer : Redis.Server :=
  ((redisQueue sampleWire).push (samplePush sampleSaga.text "b" "two")
    ((RedisStore.writeTransactionState sampleWire.toSagaWire sampleSaga.text "RUNNING" .empty).evaluate
      (Request.serve RedisStore.Script.body)
      ((redisQueue sampleWire).push (samplePush sampleSaga.text "a" "one") .empty).2).2).2

def sampleTables : PostgresStore.LetterTables :=
  (postgresQueue.push (2, samplePush sampleSaga "b" "two")
    (postgresQueue.push (1, samplePush sampleSaga "a" "one") ⟨[], fun _ => none⟩).2).2

def sampleRows : List PostgresStore.LetterRow :=
  [⟨sampleSaga, some "b", "two", "failed", 2⟩, ⟨sampleSaga, some "a", "one", "failed", 1⟩]

/-- The first tenant is shown its letter on both backends. -/
theorem dead_letters_visible_sample :
    (redisQueue sampleWire).Visible sampleServer [secondLetter, firstLetter] "a" ∧
      postgresQueue.Visible sampleTables sampleRows "a" := by
  have redisOpened : (redisQueue sampleWire).Filled .empty [] := .opened rfl
  have postgresOpened : postgresQueue.Filled ⟨[], fun _ => none⟩ [] := .opened rfl
  have onRedis : (redisQueue sampleWire).Filled sampleServer [secondLetter, firstLetter] :=
    ((redisOpened.pushes (samplePush sampleSaga.text "a" "one") rfl).elsewhere
      (write_elsewhere sampleWire _ sampleSaga.text "RUNNING" .empty)).pushes
        (samplePush sampleSaga.text "b" "two") rfl
  have onPostgres : postgresQueue.Filled sampleTables sampleRows :=
    (postgresOpened.pushes (1, samplePush sampleSaga "a" "one") rfl).pushes
      (2, samplePush sampleSaga "b" "two") rfl
  have both := dead_letters_visible_iff onRedis onPostgres (by decide) "a"
  constructor
  · exact both.1.mpr (.inr fun _ impossible => absurd impossible List.not_mem_nil)
  · refine both.2.mpr ⟨?_, fun _ _ _ => ?_, ?_⟩
    · exact (by decide : '\x00' ∉ "a".toList)
    · decide
    · intro letter member
      have filed := (newest_perm _).subset (List.mem_of_mem_take member)
      have only := List.mem_singleton.mp filed
      rw [only]

theorem redis_push_many {V : Type} {wire : RedisStore.LetterWire V} {server : Redis.Server}
    {letters : List DeadLetter} (filled : (redisQueue wire).Filled server letters)
    (sagaId stepName error : String) {tenant : String} (given : tenant ≠ "") (count : Nat) :
    ∃ after, (redisQueue wire).Filled after
      (List.replicate count ⟨sagaId, some tenant, stepName, error⟩ ++ letters) := by
  induction count with
  | zero => exact ⟨server, filled⟩
  | succ count ih =>
      obtain ⟨after, more⟩ := ih
      exact redis_push_given more sagaId stepName error given

/-- Five hundred letters of another tenant hide the letter that the first tenant
has. -/
theorem letter_hidden :
    ∃ server, (redisQueue sampleWire).Filled server
        (List.replicate letterLimit secondLetter ++ [firstLetter]) ∧
      (redisQueue sampleWire).list "a" server = .ok [] ∧
      ¬(redisQueue sampleWire).Visible server
        (List.replicate letterLimit secondLetter ++ [firstLetter]) "a" := by
  have opened : (redisQueue sampleWire).Filled .empty [] := .opened rfl
  obtain ⟨one, first⟩ := redis_push_given opened sampleSaga.text "one" "failed"
    (by decide : "a" ≠ "")
  obtain ⟨server, filled⟩ : ∃ server, (redisQueue sampleWire).Filled server
      (List.replicate letterLimit secondLetter ++ [firstLetter]) :=
    redis_push_many first sampleSaga.text "two" "failed" (by decide : "b" ≠ "") letterLimit
  have window : (List.replicate letterLimit secondLetter ++ [firstLetter]).take letterLimit =
      List.replicate letterLimit secondLetter := List.take_left' List.length_replicate
  have behind : (List.replicate letterLimit secondLetter ++ [firstLetter]).drop letterLimit =
      [firstLetter] := List.drop_left' List.length_replicate
  have others : ∀ letter ∈ List.replicate letterLimit secondLetter, letter.tenantId ≠ some "a" := by
    intro letter member
    rw [List.eq_of_mem_replicate member]
    decide
  refine ⟨server, filled, ?_, ?_⟩
  · have shown := congrArg Prod.fst
      (RedisStore.list_dead_letters_served sampleWire "a" (redis_filled filled))
    rw [window] at shown
    refine shown.trans (congrArg Except.ok (List.filter_eq_nil_iff.mpr ?_))
    intro letter member own
    exact others letter member (of_decide_eq_true own)
  · intro visible
    rcases (redis_visible_iff filled "a").mp visible with every | none
    · rw [window] at every
      have some : secondLetter ∈ List.replicate letterLimit secondLetter :=
        List.mem_replicate.mpr ⟨by decide, rfl⟩
      exact others _ some (every _ some)
    · rw [behind] at none
      exact none firstLetter (List.mem_singleton_self _) rfl

end Samples

end SagaMind.DeadLetterVisibility
