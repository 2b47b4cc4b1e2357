import SagaMind.Foundation.Windows
import SagaMind.StateStore.PostgresMirror
import SagaMind.StateStore.RedisRecords
import SagaMind.StateStore.SagaRecords

/-!
# Dead letters on Redis and Postgres

Redis keeps one list for all tenants, newest entry first, and reads at most 500
entries of it before it filters. Postgres filters before it limits, but its
column may cut a tenant identity. Generated identities are left out.
-/

namespace SagaMind

open CallProgram KeyedTable Redis Windows

set_option autoImplicit false

def letterLimit : Nat := 500

namespace RedisStore

variable {V : Type}

structure LetterWire (V : Type) extends SagaWire V where
  letters : Codec DeadLetter

def deadLetterKey : String := "sagas:dead_letter"

/-- `tenant_id or self._tenant_for_saga(saga_id)`. -/
def resolveTenant (wire : SagaWire V) (sagaId : String) (tenantId : Option String) :
    Program (face Script) PyError (Option String) :=
  if truthy tenantId then return tenantId else tenantForSaga wire sagaId

def pushDeadLetter (wire : LetterWire V) (sagaId stepName error : String)
    (tenantId : Option String) : Program (face Script) PyError Unit := do
  let tenantId ← resolveTenant wire.toSagaWire sagaId tenantId
  ask (.lpush deadLetterKey (wire.letters.dumps { sagaId, tenantId, stepName, error }))

def listDeadLetters (wire : LetterWire V) (tenantId : Option String) :
    Program (face Script) PyError (List DeadLetter) := do
  let raw ← ask (.lrange deadLetterKey 0 499)
  let entries ← .ended (raw.mapM (load wire.letters))
  return entries.filter fun entry => tenantId = none ∨ entry.tenantId = tenantId

section Serving

variable {server : Redis.Server}

theorem resolve_tenant_reads (wire : SagaWire V) (sagaId : String) (tenantId : Option String) :
    ((resolveTenant wire sagaId tenantId).evaluate (Request.serve Script.body) server).2 =
      server := by
  have looks : Uses (Plainly fun command => command = .hget (sagaKey sagaId) "metadata")
      (resolveTenant wire sagaId tenantId) := by
    unfold resolveTenant
    split
    · exact conforms_pure _
    · refine conforms_bind (uses_ask rfl) fun text => ?_
      exact conforms_bind (conforms_outcome _) fun _ => conforms_pure _
  have kept : ∀ (request : Request Script) (before : Redis.Server),
      Plainly (fun command => command = .hget (sagaKey sagaId) "metadata") request →
        (Request.serve Script.body request before).2 = before := by
    intro request before same
    cases request with
    | plain command =>
        obtain rfl : command = _ := same
        rfl
    | eval script keys argv => exact same.elim
  exact evaluate_keeps (fun before after => after = before) (fun _ => rfl)
    (fun first second => by exact second.trans first) kept looks server

def tenantOf (wire : SagaWire V) (sagaId : String) (tenantId : Option String)
    (server : Redis.Server) : Option String :=
  ((resolveTenant wire sagaId tenantId).evaluate (Request.serve Script.body)
    server).1.toOption.join

theorem push_dead_letter_served (wire : LetterWire V) {sagaId : String} (stepName error : String)
    {tenantId tenant : Option String} {items : List String}
    (resolved : (resolveTenant wire.toSagaWire sagaId tenantId).evaluate
      (Request.serve Script.body) server = (.ok tenant, server))
    (listed : server.list deadLetterKey = .ok items) :
    (pushDeadLetter wire sagaId stepName error tenantId).evaluate (Request.serve Script.body)
      server = (.ok (), server.assign deadLetterKey (some (.list
        (wire.letters.dumps { sagaId, tenantId := tenant, stepName, error } :: items)))) := by
  refine (Program.evaluate_bind_ok resolved).trans (ask_served ?_)
  simp only [Command.serve, Server.rewrite, listed]

theorem push_dead_letter_cases (wire : LetterWire V) (sagaId stepName error : String)
    (tenantId : Option String) {items : List String}
    (listed : server.list deadLetterKey = .ok items) :
    (∃ raised, (pushDeadLetter wire sagaId stepName error tenantId).evaluate
        (Request.serve Script.body) server = (.error raised, server)) ∨
      (pushDeadLetter wire sagaId stepName error tenantId).evaluate (Request.serve Script.body)
        server = (.ok (), server.assign deadLetterKey (some (.list (wire.letters.dumps
          { sagaId, tenantId := tenantOf wire.toSagaWire sagaId tenantId server, stepName, error }
            :: items)))) := by
  have reads : ((resolveTenant wire.toSagaWire sagaId tenantId).evaluate
      (Request.serve Script.body) server).2 = server :=
    resolve_tenant_reads wire.toSagaWire sagaId tenantId
  unfold tenantOf
  cases resolved : (resolveTenant wire.toSagaWire sagaId tenantId).evaluate
      (Request.serve Script.body) server with
  | mk outcome after =>
      rw [resolved] at reads
      have same : after = server := reads
      rw [same] at resolved
      cases outcome with
      | error raised => exact .inl ⟨raised, Program.evaluate_bind_error resolved⟩
      | ok tenant => exact .inr (push_dead_letter_served wire stepName error resolved listed)

theorem load_letters (wire : LetterWire V) (entries : List DeadLetter) :
    (entries.map wire.letters.dumps).mapM (load wire.letters) = .ok entries := by
  induction entries with
  | nil => rfl
  | cons entry rest ih =>
      rw [List.map_cons, List.mapM_cons, ih, load, wire.letters.loads_dumps]
      rfl

theorem list_dead_letters_served (wire : LetterWire V) (tenant : String)
    {entries : List DeadLetter}
    (listed : server.list deadLetterKey = .ok (entries.map wire.letters.dumps)) :
    (listDeadLetters wire (some tenant)).evaluate (Request.serve Script.body) server =
      (.ok ((entries.take letterLimit).filter fun entry => entry.tenantId = some tenant),
        server) := by
  have range : (Command.lrange deadLetterKey 0 499).serve server =
      (.ok ((entries.take letterLimit).map wire.letters.dumps), server) := by
    simp only [Command.serve, listed, Except.map]
    rw [List.map_take]
    exact congrArg (fun items => (Except.ok items, server)) (slice_first _ 499)
  refine (Program.evaluate_bind_ok (ask_served range)).trans ?_
  rw [load_letters]
  simp [Program.ended]
  rfl

theorem write_keeps_letters (wire : SagaWire V) (sagaId status : String)
    (metadata : SagaMetadata V) :
    ((writeTransactionState wire sagaId status metadata).evaluate (Request.serve Script.body)
      server).2.keys deadLetterKey = server.keys deadLetterKey := by
  have apart : ∀ key, key = sagaKey sagaId ∨ key = incompleteKey → deadLetterKey ≠ key := by
    intro key either same
    rcases either with saga | index
    · rw [saga] at same
      have chars := congrArg (fun text => text.toList[4]?) same
      simp [deadLetterKey, sagaKey] at chars
    · rw [index] at same
      exact absurd same (by decide)
  have kept : ∀ (request : Request Script) (before : Redis.Server),
      Plainly (fun command => command.key = sagaKey sagaId ∨ command.key = incompleteKey)
        request → (Request.serve Script.body request before).2.keys deadLetterKey =
          before.keys deadLetterKey := by
    intro request before about
    cases request with
    | plain command => exact serve_other command (apart _ about)
    | eval script keys argv => exact about.elim
  exact evaluate_keeps
    (fun before after => after.keys deadLetterKey = before.keys deadLetterKey)
    (fun _ => rfl) (fun first second => by exact second.trans first) kept
    (write_uses wire sagaId status metadata) server

end Serving

end RedisStore

namespace PostgresStore

/-- A row of `saga_dead_letters`. -/
structure LetterRow where
  sagaId : Uuid
  tenantId : Option String
  stepName : String
  error : String
  occurredAt : Nat
  deriving DecidableEq

structure LetterTables where
  /-- `saga_dead_letters`. -/
  letters : List LetterRow
  /-- The `tenant_id` column of `saga_transactions`. -/
  tenants : Uuid → Option String

/-- `now` is the `now()` of the insertion. -/
def pushDeadLetter (tables : LetterTables) (now : Nat) (sagaId : Uuid) (stepName error : String)
    (tenantId : Option String) : Except PyError LetterTables := do
  let tenantId := if truthy tenantId then tenantId else tables.tenants sagaId
  let row : LetterRow :=
    { sagaId
      tenantId := ← nullableVarchar 50 (← nullable tenantId)
      stepName := ← parameter stepName
      error := ← parameter error
      occurredAt := now }
  return { tables with letters := row :: tables.letters }

/-- `ORDER BY occurred_at DESC LIMIT 500`. -/
def listed (rows : List LetterRow) : List LetterRow :=
  (newestFirst LetterRow.occurredAt rows).take letterLimit

def listDeadLetters (tables : LetterTables) (tenantId : Option String) :
    Except PyError (List LetterRow) :=
  match tenantId with
  | none => return listed tables.letters
  | some text => do
      let text ← parameter text
      return listed (tables.letters.filter fun row => row.tenantId = some text)

section Columns

/-- What `VARCHAR(50)` makes of a tenant that it accepts. -/
def columned (row : LetterRow) : LetterRow :=
  { row with tenantId := (nullableVarchar 50 row.tenantId).toOption.join }

def requested (tables : LetterTables) (now : Nat) (sagaId : Uuid) (stepName error : String)
    (tenantId : Option String) : LetterRow where
  sagaId := sagaId
  tenantId := if truthy tenantId then tenantId else tables.tenants sagaId
  stepName := stepName
  error := error
  occurredAt := now

theorem push_dead_letter_adds {tables after : LetterTables} {now : Nat} {sagaId : Uuid}
    {stepName error : String} {tenantId : Option String}
    (pushed : pushDeadLetter tables now sagaId stepName error tenantId = .ok after) :
    after.letters = columned (requested tables now sagaId stepName error tenantId) ::
        tables.letters ∧
      ∃ kept, nullableVarchar 50 (requested tables now sagaId stepName error tenantId).tenantId =
        .ok kept := by
  simp only [pushDeadLetter, bind_ok_iff, nullable_ok_iff, parameter_ok_iff, pure_ok_iff]
    at pushed
  obtain ⟨tenant, ⟨_, rfl⟩, kept, stored, step, ⟨_, rfl⟩, text, ⟨_, rfl⟩, rfl⟩ := pushed
  constructor
  · simp only [columned, requested, stored]
    rfl
  · exact ⟨kept, stored⟩

theorem varchar_fits {width : Nat} {text stored : String} (kept : varchar width text = .ok stored) :
    stored.toList.length ≤ width := by
  unfold varchar at kept
  split at kept
  · rename_i short
    cases kept
    exact short
  · split at kept
    · cases kept
      rw [String.toList_ofList, List.length_take]
      omega
    · cases kept

theorem varchar_short {width : Nat} {text : String} (short : text.toList.length ≤ width) :
    varchar width text = .ok text :=
  if_pos short

theorem columned_fits {row : LetterRow} {tenant : String}
    (stored : (columned row).tenantId = some tenant) : tenant.toList.length ≤ 50 := by
  cases given : row.tenantId with
  | none => simp [columned, given, nullableVarchar, Except.toOption] at stored
  | some text =>
      cases kept : varchar 50 text with
      | error refused =>
          simp [columned, given, nullableVarchar, kept, Except.map, Except.toOption] at stored
      | ok cut =>
          have same : cut = tenant := by
            simpa [columned, given, nullableVarchar, kept, Except.map, Except.toOption] using stored
          rw [← same]
          exact varchar_fits kept

theorem columned_short {row : LetterRow} {tenant : String} (given : row.tenantId = some tenant)
    (short : tenant.toList.length ≤ 50) : columned row = row := by
  have kept : (nullableVarchar 50 row.tenantId).toOption.join = row.tenantId := by
    rw [given, nullableVarchar, varchar_short short]
    rfl
  rw [columned, kept]

end Columns

end PostgresStore

end SagaMind
