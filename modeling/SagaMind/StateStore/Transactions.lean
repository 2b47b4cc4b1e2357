import SagaMind.StateStore.Postgres

/-!
# The saga table of Postgres

`_pg_write_state`, on any table whose columns are those of `saga_transactions`.
Two definitions of the table are in the repository. They have the same columns
but for `created_at`, which has a default and which nothing reads, and differ in
what they declare `NOT NULL`. Such a constraint is checked on the row that is
proposed for insertion, before the conflict on its key is resolved.
-/

namespace SagaMind

open KeyedTable

set_option autoImplicit false

namespace PostgresStore

/-- The columns that may not be null in one definition of the table and may be
in another. `saga_id`, `status` and `updated_at` are `NOT NULL` in all of them. -/
structure TransactionSchema where
  tenantRequired : Bool
  goalRequired : Bool
  deriving DecidableEq

/-- The table of `_ensure_pg_schema`. -/
def runtimeSchema : TransactionSchema where
  tenantRequired := false
  goalRequired := false

/-- The table of `migrations/001_init.sql`, which the database container creates
at its first start. -/
def shippedSchema : TransactionSchema where
  tenantRequired := true
  goalRequired := true

/-- A row of `saga_transactions`. -/
structure TransactionRow (Args : Type) where
  sagaId : Uuid
  tenantId : Option String
  goal : Option String
  status : SagaStatus
  metadata : Option (Metadata Args)

variable {Args : Type}

/-- `saga_id UUID PRIMARY KEY`. -/
abbrev Transactions (Args : Type) : Type := Table (@TransactionRow.sagaId Args)

def nullViolation (column : String) : PyError :=
  .external ("null value in column \"" ++ column ++
    "\" of relation \"saga_transactions\" violates not-null constraint")

/-- The `NOT NULL` constraints, in the order of the columns. -/
def TransactionSchema.check (schema : TransactionSchema) (row : TransactionRow Args) :
    Except PyError Unit :=
  if schema.tenantRequired ∧ row.tenantId = none then .error (nullViolation "tenant_id")
  else if schema.goalRequired ∧ row.goal = none then .error (nullViolation "goal")
  else .ok ()

/-- The row that `VALUES` proposes, with each parameter as its column takes it. -/
def proposedRow (server : Server (Metadata Args)) (sagaId : Uuid) (status : SagaStatus)
    (metadata : Metadata Args) : Except PyError (TransactionRow Args) := do
  return {
    sagaId
    tenantId := ← nullableVarchar 50 (← nullable metadata.tenantId)
    goal := ← nullable metadata.goal
    status
    metadata := some (← store server metadata) }

/-- `DO UPDATE SET`. -/
def mergeRow (existing excluded : TransactionRow Args) : TransactionRow Args where
  sagaId := existing.sagaId
  tenantId := excluded.tenantId <|> existing.tenantId
  goal := excluded.goal <|> existing.goal
  status := excluded.status
  metadata := excluded.metadata.map fun metadata => (existing.metadata.getD {}).update metadata

/-- `INSERT ... ON CONFLICT (saga_id) DO UPDATE`. -/
def TransactionSchema.upsert (schema : TransactionSchema) (table : Transactions Args)
    (excluded : TransactionRow Args) : Except PyError (Transactions Args) := do
  schema.check excluded
  match table.find? excluded.sagaId with
  | none => return table.put excluded
  | some existing =>
      schema.check (mergeRow existing excluded)
      return table.put (mergeRow existing excluded)

/-- `_pg_write_state`, a transaction of its own. -/
def pgWriteState (schema : TransactionSchema) (server : Server (Metadata Args))
    (table : Transactions Args) (sagaId : Uuid) (status : SagaStatus) (metadata : Metadata Args) :
    Except PyError Unit × Transactions Args :=
  match proposedRow server sagaId status metadata >>= schema.upsert table with
  | .ok after => (.ok (), after)
  | .error error => (.error error, table)

def afterWrites (schema : TransactionSchema) (server : Server (Metadata Args))
    (table : Transactions Args) (sagaId : Uuid) (writes : List (SagaStatus × Metadata Args)) :
    Transactions Args :=
  writes.foldl (fun table write => (pgWriteState schema server table sagaId write.1 write.2).2) table

end PostgresStore

end SagaMind
