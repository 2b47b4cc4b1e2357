import SagaMind.StateStore

/-!
# The Postgres branches of the state store

A transaction either commits the database it computed or leaves the old one.
The tables are those of `_ensure_pg_schema`; generated identities and
timestamps are left out.
-/

namespace SagaMind

open KeyedTable

set_option autoImplicit false

namespace PostgresStore

/-- A row of `saga_effect_journal`. -/
structure JournalRow (Args : Type) where
  sagaId : Uuid
  seq : Nat
  stepId : String
  stepName : String
  actionToolName : String
  actionArguments : Args
  compensationToolName : String
  compensationArguments : Args
  idempotencyKey : Option String
  state : EffectState
  result : Option Args
  error : Option String

structure Database (Args : Type) where
  journal : List (JournalRow Args)
  /-- `saga_step_idempotency`. -/
  idempotency : List (Uuid × String)

/-- What only the server can tell. -/
structure Server (Args : Type) where
  /-- A payload after `json.dumps`, a `JSONB` column and the driver's parser,
  unless the column rejects it. -/
  jsonb : Args → Option Args
  /-- A B-tree entry with this step identity fits on a page. -/
  indexable : String → Bool

def parameter (text : String) : Except PyError String :=
  if '\x00' ∈ text.toList then
    .error (.external "A string literal cannot contain NUL (0x00) characters.")
  else .ok text

def nullable : Option String → Except PyError (Option String)
  | none => .ok none
  | some text => (parameter text).map some

/-- `VARCHAR(width)` cuts blanks at the end, and nothing else. -/
def varchar (width : Nat) (text : String) : Except PyError String :=
  if text.toList.length ≤ width then .ok text
  else if (text.toList.drop width).all fun char => char = ' ' then
    .ok (String.ofList (text.toList.take width))
  else .error (.external "value too long for type character varying")

/-- A nullable `VARCHAR(width)` column. -/
def nullableVarchar (width : Nat) : Option String → Except PyError (Option String)
  | none => .ok none
  | some text => (varchar width text).map some

/-- The largest value of an `INT` column. -/
def maxInt : Nat := 2147483647

variable {Args : Type}

def store (server : Server Args) (payload : Args) : Except PyError Args :=
  match server.jsonb payload with
  | some stored => .ok stored
  | none => .error (.external "unsupported Unicode escape sequence")

def storeOptional (server : Server Args) : Option Args → Except PyError (Option Args)
  | none => .ok none
  | some payload => (store server payload).map some

def transaction {Answer : Type} (database : Database Args)
    (body : Except PyError (Answer × Database Args)) : Except PyError Answer × Database Args :=
  match body with
  | .ok (answer, after) => (.ok answer, after)
  | .error error => (.error error, database)

def effectFromPgRow (row : JournalRow Args) : Effect Args where
  sagaId := row.sagaId.text
  stepId := row.stepId
  seq := row.seq
  stepName := row.stepName
  action := ⟨row.actionToolName, row.actionArguments⟩
  compensation := ⟨row.compensationToolName, row.compensationArguments⟩
  idempotencyKey := row.idempotencyKey
  state := row.state
  result := row.result
  error := row.error

namespace Database

def empty : Database Args := ⟨[], []⟩

/-- `WHERE saga_id = %s`. -/
def journalOf (database : Database Args) (sagaId : Uuid) : List (JournalRow Args) :=
  database.journal.filter fun row => row.sagaId = sagaId

/-- `WHERE saga_id = %s AND step_id = %s`. -/
def row? (database : Database Args) (sagaId : Uuid) (stepId : String) :
    Option (JournalRow Args) :=
  (database.journalOf sagaId).find? fun row => row.stepId = stepId

/-- `COALESCE(MAX(seq), 0) + 1`. -/
def nextSeq (database : Database Args) (sagaId : Uuid) : Nat :=
  ((database.journalOf sagaId).map JournalRow.seq).foldl max 0 + 1

/-- `INSERT INTO saga_effect_journal`, with the constraints of the table. -/
def insertRow (database : Database Args) (server : Server Args) (row : JournalRow Args) :
    Except PyError (Database Args) :=
  if (database.journalOf row.sagaId).any fun other =>
      other.stepId = row.stepId ∨ other.seq = row.seq then
    .error (.external "duplicate key value violates unique constraint")
  else if maxInt < row.seq then .error (.external "integer out of range")
  else if ¬server.indexable row.stepId then .error (.external "index row size exceeds maximum")
  else .ok { database with journal := database.journal ++ [row] }

/-- `UPDATE saga_effect_journal ... WHERE ... RETURNING`. -/
def update (database : Database Args) (sagaId : Uuid) (stepId : String)
    (states : List EffectState) (change : JournalRow Args → JournalRow Args) :
    Option (JournalRow Args) × Database Args :=
  let chosen (row : JournalRow Args) : Bool :=
    row.sagaId = sagaId ∧ row.stepId = stepId ∧ row.state ∈ states
  ((database.journal.find? chosen).map change,
    { database with
      journal := database.journal.map fun row => if chosen row then change row else row })

/-- `INSERT INTO saga_step_idempotency ... ON CONFLICT DO NOTHING`. -/
def insertKey (database : Database Args) (sagaId : Uuid) (key : String) :
    Except PyError (Database Args) := do
  let stored ← varchar 128 (← parameter key)
  return { database with
    idempotency :=
      if (sagaId, stored) ∈ database.idempotency then database.idempotency
      else database.idempotency ++ [(sagaId, stored)] }

end Database

section Journal

/-- `SELECT ... ORDER BY seq`. -/
def getEffects (database : Database Args) (sagaId : Uuid) : List (Effect Args) :=
  ((database.journalOf sagaId).mergeSort fun left right => left.seq ≤ right.seq).map
    effectFromPgRow

def getEffect (database : Database Args) (sagaId : Uuid) (stepId : String) :
    Except PyError (Effect Args) :=
  match (getEffects database sagaId).find? fun effect => effect.stepId = stepId with
  | some effect => .ok effect
  | none => .error (Store.unknownEffect sagaId.text stepId)

def newRow (server : Server Args) (database : Database Args) (sagaId : Uuid)
    (stepId stepName : String) (action compensation : ActionPayload Args)
    (idempotencyKey : Option String) : Except PyError (JournalRow Args) := do
  return {
    sagaId, stepId
    seq := database.nextSeq sagaId
    stepName := ← parameter stepName
    actionToolName := ← parameter action.toolName
    actionArguments := ← store server action.arguments
    compensationToolName := ← parameter compensation.toolName
    compensationArguments := ← store server compensation.arguments
    idempotencyKey := ← nullableVarchar 128 (← nullable idempotencyKey)
    state := .prepared
    result := none
    error := none }

/-- The transaction of `_pg_prepare_effect`: the record that was there, or
nothing after an insertion. -/
def registerEffect [DecidableEq Args] (server : Server Args) (database : Database Args)
    (sagaId : Uuid) (stepId stepName : String) (action compensation : ActionPayload Args)
    (idempotencyKey : Option String) : Except PyError (Option (Effect Args)) × Database Args :=
  transaction database do
    let stepId ← parameter stepId
    match database.row? sagaId stepId with
    | some row =>
        let existing := effectFromPgRow row
        if Store.sameEffect existing stepName action compensation idempotencyKey then
          return (some existing, database)
        else
          throw (.journalConflict ("Step identity " ++ sagaId.text ++ "/" ++ stepId ++
            " was reused with a different effect"))
    | none =>
        let row ← newRow server database sagaId stepId stepName action compensation idempotencyKey
        return (none, ← database.insertRow server row)

/-- `_pg_prepare_effect`. -/
def prepareEffect [DecidableEq Args] (server : Server Args) (database : Database Args)
    (sagaId : Uuid) (stepId stepName : String) (action compensation : ActionPayload Args)
    (idempotencyKey : Option String) : Except PyError (Effect Args) × Database Args :=
  match registerEffect server database sagaId stepId stepName action compensation
      idempotencyKey with
  | (.ok (some existing), after) => (.ok existing, after)
  | (.ok none, after) => (getEffect after sagaId stepId, after)
  | (.error error, after) => (.error error, after)

/-- `_pg_transition_effect`. -/
def transitionEffect (server : Server Args) (database : Database Args) (sagaId : Uuid)
    (stepId : String) (expected : List EffectState) (newState : EffectState)
    (result : Option Args) (error : Option String) :
    Except PyError (Effect Args) × Database Args :=
  transaction database do
    let result ← storeOptional server result
    let error ← nullable error
    let stepId ← parameter stepId
    let updated := database.update sagaId stepId expected fun row =>
      { row with state := newState, result, error }
    match updated with
    | (some row, after) => return (effectFromPgRow row, after)
    | (none, _) =>
        throw (.journalConflict ("Effect " ++ sagaId.text ++ "/" ++ stepId ++
          " did not match expected state " ++ Store.showExpected expected))

def commitEffect (database : Database Args) (sagaId : Uuid) (stepId : String)
    (idempotencyKey : Option String) : Except PyError (Effect Args) × Database Args :=
  transaction database do
    let stepId ← parameter stepId
    let updated := database.update sagaId stepId [.applied] fun row =>
      { row with state := .committed }
    match updated with
    | (some row, after) =>
        if truthy idempotencyKey then
          return (effectFromPgRow row, ← after.insertKey sagaId (idempotencyKey.getD ""))
        else
          return (effectFromPgRow row, after)
    | (none, _) =>
        throw (.journalConflict ("Effect " ++ sagaId.text ++ "/" ++ stepId ++
          " is not APPLIED"))

def stepAlreadyCommitted (database : Database Args) (sagaId : Uuid) (key : String) :
    Except PyError Bool := do
  let key ← parameter key
  return (sagaId, key) ∈ database.idempotency

end Journal

end PostgresStore

end SagaMind
