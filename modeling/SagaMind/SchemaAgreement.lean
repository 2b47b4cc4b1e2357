import SagaMind.StateStore.PostgresMirror
import SagaMind.StateStore.Transactions

/-!
# Two definitions of the saga table

The upsert of a status proposes a row from the metadata of this one write. On
the table of the migrations it has to carry the goal and the tenant, though the
stored row has them already and keeps them.
-/

namespace SagaMind

open KeyedTable PostgresStore

set_option autoImplicit false

variable {Args : Type}

/-- What `start_transaction_log` writes. -/
def startWrite (goal tenantId : String) : SagaStatus × Metadata Args :=
  (.running, { goal := some goal, tenantId := some tenantId })

/-- Every write succeeds on the shipped table and leaves the row that it leaves
on the runtime table. -/
def SchemasAgree (server : Server (Metadata Args)) (table : Transactions Args) (sagaId : Uuid)
    (writes : List (SagaStatus × Metadata Args)) : Prop :=
  ∀ earlier write later, writes = earlier ++ write :: later →
    let shipped := pgWriteState shippedSchema server
      (afterWrites shippedSchema server table sagaId earlier) sagaId write.1 write.2
    let runtime := pgWriteState runtimeSchema server
      (afterWrites runtimeSchema server table sagaId earlier) sagaId write.1 write.2
    shipped.1 = .ok () ∧ runtime.1 = .ok () ∧ shipped.2.find? sagaId = runtime.2.find? sagaId

/-- The driver and the columns take what the write passes. -/
structure Storable (server : Server (Metadata Args)) (metadata : Metadata Args) : Prop where
  tenant : ∀ tenantId ∈ metadata.tenantId, Clean tenantId ∧ ∃ stored, varchar 50 tenantId = .ok stored
  goal : ∀ goal ∈ metadata.goal, Clean goal
  json : (server.jsonb metadata).isSome = true

/-- The metadata of this one write has both keys. -/
def Complete (metadata : Metadata Args) : Prop :=
  metadata.goal.isSome = true ∧ metadata.tenantId.isSome = true

section Write

variable {server : Server (Metadata Args)} {table : Transactions Args} {sagaId : Uuid}
  {status : SagaStatus} {metadata : Metadata Args} {schema : TransactionSchema}

theorem check_shipped_iff {row : TransactionRow Args} :
    shippedSchema.check row = .ok () ↔ row.tenantId.isSome = true ∧ row.goal.isSome = true := by
  cases tenant : row.tenantId <;> cases goal : row.goal <;>
    simp [TransactionSchema.check, shippedSchema, tenant, goal]

/-- A merged row is no emptier than the row it was merged with. -/
theorem check_merged {existing excluded : TransactionRow Args}
    (passes : shippedSchema.check excluded = .ok ()) :
    shippedSchema.check (mergeRow existing excluded) = .ok () := by
  rw [check_shipped_iff] at passes ⊢
  obtain ⟨tenant, goal⟩ := passes
  obtain ⟨tenantId, tenantGiven⟩ := Option.isSome_iff_exists.mp tenant
  obtain ⟨text, goalGiven⟩ := Option.isSome_iff_exists.mp goal
  simp [mergeRow, tenantGiven, goalGiven]

def merged (table : Transactions Args) (excluded : TransactionRow Args) : Transactions Args :=
  match table.find? excluded.sagaId with
  | none => table.put excluded
  | some existing => table.put (mergeRow existing excluded)

theorem upsert_runtime (excluded : TransactionRow Args) :
    runtimeSchema.upsert table excluded = .ok (merged table excluded) := by
  unfold TransactionSchema.upsert merged
  cases table.find? excluded.sagaId <;> rfl

theorem upsert_shipped {excluded : TransactionRow Args}
    (passes : shippedSchema.check excluded = .ok ()) :
    shippedSchema.upsert table excluded = .ok (merged table excluded) := by
  unfold TransactionSchema.upsert merged
  rw [passes]
  cases table.find? excluded.sagaId with
  | none => rfl
  | some existing =>
      simp only [check_merged passes]
      rfl

theorem proposed_row_ok_iff {row : TransactionRow Args} :
    proposedRow server sagaId status metadata = .ok row ↔
      (∀ text, metadata.tenantId = some text → Clean text) ∧
      (∀ text, metadata.goal = some text → Clean text) ∧
      ∃ tenantId stored, nullableVarchar 50 metadata.tenantId = .ok tenantId ∧
        server.jsonb metadata = some stored ∧
        row = { sagaId, tenantId, goal := metadata.goal, status, metadata := some stored } := by
  simp only [proposedRow, bind_ok_iff, nullable_ok_iff, store_ok_iff, pure_ok_iff]
  constructor
  · rintro ⟨_, ⟨tenantClean, rfl⟩, tenantId, stored, _, ⟨goalClean, rfl⟩, json, parsed, rfl⟩
    exact ⟨tenantClean, goalClean, tenantId, json, stored, parsed, rfl⟩
  · rintro ⟨tenantClean, goalClean, tenantId, json, stored, parsed, rfl⟩
    exact ⟨_, ⟨tenantClean, rfl⟩, tenantId, stored, _, ⟨goalClean, rfl⟩, json, parsed, rfl⟩

theorem storable_iff : Storable server metadata ↔
    ∃ row, proposedRow server sagaId status metadata = .ok row := by
  simp only [proposed_row_ok_iff]
  constructor
  · intro storable
    obtain ⟨stored, parsed⟩ := Option.isSome_iff_exists.mp storable.json
    have columns : ∃ tenantId, nullableVarchar 50 metadata.tenantId = .ok tenantId := by
      cases given : metadata.tenantId with
      | none => exact ⟨none, rfl⟩
      | some text =>
          obtain ⟨-, kept, fits⟩ := storable.tenant text given
          exact ⟨some kept, nullable_varchar_ok_iff.mpr (.inr ⟨text, kept, rfl, fits, rfl⟩)⟩
    obtain ⟨tenantId, fits⟩ := columns
    exact ⟨_, fun text given => (storable.tenant text given).1, fun text given => storable.goal text given,
      tenantId, stored, fits, parsed, rfl⟩
  · rintro ⟨row, tenantClean, goalClean, tenantId, stored, fits, parsed, rfl⟩
    constructor
    · intro text given
      refine ⟨tenantClean text given, ?_⟩
      rcases nullable_varchar_ok_iff.mp fits with ⟨absent, -⟩ | ⟨other, kept, same, fits, -⟩
      · rw [absent] at given
        cases given
      · rw [same] at given
        cases given
        exact ⟨kept, fits⟩
    · exact fun text given => goalClean text given
    · rw [parsed]
      rfl

theorem proposed_complete_iff {row : TransactionRow Args}
    (proposed : proposedRow server sagaId status metadata = .ok row) :
    shippedSchema.check row = .ok () ↔ Complete metadata := by
  obtain ⟨-, -, tenantId, stored, fits, -, rfl⟩ := proposed_row_ok_iff.mp proposed
  rw [check_shipped_iff, Complete, and_comm]
  rcases nullable_varchar_ok_iff.mp fits with ⟨absent, rfl⟩ | ⟨text, kept, given, -, rfl⟩
  · rw [absent]
  · rw [given]
    rfl

theorem runtime_write {row : TransactionRow Args}
    (proposed : proposedRow server sagaId status metadata = .ok row) :
    pgWriteState runtimeSchema server table sagaId status metadata = (.ok (), merged table row) := by
  have upserted : (proposedRow server sagaId status metadata >>= runtimeSchema.upsert table) =
      .ok (merged table row) := bind_ok_iff.mpr ⟨row, proposed, upsert_runtime row⟩
  rw [pgWriteState, upserted]

theorem shipped_write {row : TransactionRow Args}
    (proposed : proposedRow server sagaId status metadata = .ok row) (complete : Complete metadata) :
    pgWriteState shippedSchema server table sagaId status metadata = (.ok (), merged table row) := by
  have upserted : (proposedRow server sagaId status metadata >>= shippedSchema.upsert table) =
      .ok (merged table row) :=
    bind_ok_iff.mpr ⟨row, proposed, upsert_shipped ((proposed_complete_iff proposed).mpr complete)⟩
  rw [pgWriteState, upserted]

/-- A write that succeeds was proposed and passed the constraints. -/
theorem write_ok (succeeded : (pgWriteState schema server table sagaId status metadata).1 = .ok ()) :
    ∃ row, proposedRow server sagaId status metadata = .ok row ∧ schema.check row = .ok () := by
  unfold pgWriteState at succeeded
  split at succeeded
  · rename_i after upserted
    obtain ⟨row, proposed, inserted⟩ := bind_ok_iff.mp upserted
    obtain ⟨⟨⟩, passes, -⟩ := bind_ok_iff.mp inserted
    exact ⟨row, proposed, passes⟩
  · cases succeeded

theorem shipped_ok_iff : (pgWriteState shippedSchema server table sagaId status metadata).1 = .ok () ↔
    Storable server metadata ∧ Complete metadata := by
  constructor
  · intro succeeded
    obtain ⟨row, proposed, passes⟩ := write_ok succeeded
    exact ⟨storable_iff.mpr ⟨row, proposed⟩, (proposed_complete_iff proposed).mp passes⟩
  · intro ⟨storable, complete⟩
    obtain ⟨row, proposed⟩ := (@storable_iff _ server sagaId status metadata).mp storable
    rw [shipped_write proposed complete]

theorem writes_alike (storable : Storable server metadata) (complete : Complete metadata) :
    pgWriteState shippedSchema server table sagaId status metadata =
      pgWriteState runtimeSchema server table sagaId status metadata := by
  obtain ⟨row, proposed⟩ := (@storable_iff _ server sagaId status metadata).mp storable
  rw [shipped_write proposed complete, runtime_write proposed]

end Write

section Runs

variable {server : Server (Metadata Args)} {table : Transactions Args} {sagaId : Uuid}

theorem tables_alike {writes : List (SagaStatus × Metadata Args)}
    (accepted : ∀ write ∈ writes, Storable server write.2 ∧ Complete write.2) :
    afterWrites shippedSchema server table sagaId writes =
      afterWrites runtimeSchema server table sagaId writes := by
  induction writes generalizing table with
  | nil => rfl
  | cons write rest ih =>
      rw [List.forall_mem_cons] at accepted
      obtain ⟨⟨storable, complete⟩, others⟩ := accepted
      change afterWrites shippedSchema server
        (pgWriteState shippedSchema server table sagaId write.1 write.2).2 sagaId rest =
          afterWrites runtimeSchema server
            (pgWriteState runtimeSchema server table sagaId write.1 write.2).2 sagaId rest
      rw [writes_alike storable complete]
      exact ih others

/-- The tables agree on the writes of a saga exactly if every single write has
the goal and the tenant, which the coordinator passes with the first one only. -/
theorem schemas_agree_iff (server : Server (Metadata Args)) (table : Transactions Args)
    (sagaId : Uuid) (goal tenantId : String) (later : List (SagaStatus × Metadata Args)) :
    SchemasAgree server table sagaId (startWrite goal tenantId :: later) ↔
      ∀ write ∈ startWrite goal tenantId :: later, Storable server write.2 ∧ Complete write.2 := by
  constructor
  · intro agree write member
    obtain ⟨earlier, rest, split⟩ := List.append_of_mem member
    exact shipped_ok_iff.mp (agree earlier write rest split).1
  · intro accepted earlier write rest split
    have before : ∀ other ∈ earlier, Storable server other.2 ∧ Complete other.2 := by
      intro other member
      apply accepted
      rw [split]
      exact List.mem_append_left _ member
    have here : Storable server write.2 ∧ Complete write.2 := by
      apply accepted
      rw [split]
      exact List.mem_append_right _ List.mem_cons_self
    dsimp only
    rw [tables_alike before, writes_alike here.1 here.2]
    obtain ⟨row, proposed⟩ := (@storable_iff _ server sagaId write.1 write.2).mp here.1
    refine ⟨?_, ?_, rfl⟩
    · rw [runtime_write proposed]
    · rw [runtime_write proposed]

end Runs

section Example

def zeroUuid : Uuid where
  text := "00000000-0000-0000-0000-000000000000"
  canonical := by decide

def plainServer : Server (Metadata Unit) where
  jsonb := some
  indexable := fun _ => true

/-- The commit of a saga, which the runtime table records and the shipped one
refuses. -/
theorem commit_refused :
    (pgWriteState runtimeSchema plainServer (afterWrites runtimeSchema plainServer .empty zeroUuid
      [startWrite "transfer" "acme"]) zeroUuid .committed {}).1 = .ok () ∧
    ¬SchemasAgree plainServer .empty zeroUuid [startWrite "transfer" "acme", (.committed, {})] := by
  refine ⟨rfl, ?_⟩
  intro agree
  have accepted := (agree [startWrite "transfer" "acme"] (.committed, {}) [] rfl).1
  have refused : (pgWriteState shippedSchema plainServer (afterWrites shippedSchema plainServer
      .empty zeroUuid [startWrite "transfer" "acme"]) zeroUuid .committed {}).1 =
        .error (nullViolation "tenant_id") := rfl
  rw [refused] at accepted
  cases accepted

end Example

end SagaMind
