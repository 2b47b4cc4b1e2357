import SagaMind.Foundation.Triple
import SagaMind.StateStore.Redis

/-!
# Saga records on Redis

The status and metadata of a saga are two fields of one hash, and recovery finds
a saga through the set of the unfinished ones. Writing a record is three
commands, one after the other. `V` stands for what a metadata value may be.
-/

namespace SagaMind.RedisStore

open CallProgram KeyedTable Redis

set_option autoImplicit false

/-- A `dict[str, Any]`. -/
abbrev SagaMetadata (V : Type) : Type := Table (Prod.fst : String × V → String)

/-- `existing.update(metadata)`. -/
def SagaMetadata.update {V : Type} (existing metadata : SagaMetadata V) : SagaMetadata V :=
  metadata.rows.foldl Table.put existing

/-- `json.dumps` and `json.loads` of metadata, and `str` of a value other than
`None`. -/
structure SagaWire (V : Type) where
  metadata : Codec (SagaMetadata V)
  loads_nothing : metadata.loads "{}" = some .empty
  str : V → Option String

def sagaKey (sagaId : String) : String := "saga:" ++ sagaId

def incompleteKey : String := "sagas:incomplete"

/-- `_TERMINAL`. -/
def terminalStatuses : List String := ["COMMITTED", "ROLLED_BACK", "COMPENSATION_FAILED", "FAILED"]

variable {V : Type}

/-- `json.loads(text or "{}")`. -/
def loadMetadata (wire : SagaWire V) (text : Option String) :
    Except PyError (SagaMetadata V) :=
  load wire.metadata (if truthy text then text.getD "" else "{}")

/-- The Redis branch of `write_transaction_state`. -/
def writeTransactionState (wire : SagaWire V) (sagaId status : String)
    (metadata : SagaMetadata V) : Program (face Script) PyError Unit := do
  let text ← ask (.hget (sagaKey sagaId) "metadata")
  let existing ← .ended (loadMetadata wire text)
  let updated := existing.update metadata
  ask (.hset (sagaKey sagaId) [("status", status), ("metadata", wire.metadata.dumps updated)])
  if status ∈ terminalStatuses then
    ask (.srem incompleteKey sagaId)
  else
    ask (.sadd incompleteKey sagaId)

/-- The Redis branch of `_tenant_for_saga`. -/
def tenantForSaga (wire : SagaWire V) (sagaId : String) :
    Program (face Script) PyError (Option String) := do
  let text ← ask (.hget (sagaKey sagaId) "metadata")
  let metadata ← .ended (loadMetadata wire text)
  return (metadata.find? "tenant_id").bind fun entry => wire.str entry.2

section Updates

theorem find_foldl_put (rows : List (String × V)) (distinct : (rows.map Prod.fst).Nodup)
    (existing : SagaMetadata V) (key : String) :
    (rows.foldl Table.put existing).find? key =
      (rows.find? fun entry => entry.1 = key).or (existing.find? key) := by
  induction rows generalizing existing with
  | nil => rfl
  | cons head rest ih =>
      rw [List.map_cons, List.nodup_cons] at distinct
      rw [List.foldl_cons, ih distinct.2, Table.find_put, List.find?_cons]
      by_cases same : head.1 = key
      · have later : (rest.find? fun entry => entry.1 = key) = none := by
          rw [List.find?_eq_none]
          intro entry member equal
          have equal := of_decide_eq_true equal
          rw [← same] at equal
          exact distinct.1 (equal ▸ List.mem_map_of_mem member)
        simp [same, later]
      · simp [same]

theorem find_update (existing metadata : SagaMetadata V) (key : String) :
    (existing.update metadata).find? key = (metadata.find? key).or (existing.find? key) :=
  find_foldl_put metadata.rows metadata.distinct existing key

end Updates

def Plainly (allowed : Command → Prop) : Request Script → Prop
  | .plain command => allowed command
  | .eval _ _ _ => False

theorem uses_ask {allowed : Command → Prop} {command : Command} (permitted : allowed command) :
    Uses (Plainly allowed) (ask command) := by
  refine fun _ => ⟨permitted, fun reply _ _ => ?_⟩
  cases reply with
  | ok answer => trivial
  | error fault =>
      cases fault
      trivial

theorem write_uses (wire : SagaWire V) (sagaId status : String) (metadata : SagaMetadata V) :
    Uses (Plainly fun command => command.key = sagaKey sagaId ∨ command.key = incompleteKey)
      (writeTransactionState wire sagaId status metadata) := by
  refine conforms_bind (uses_ask (.inl rfl)) fun text => ?_
  refine conforms_bind (conforms_outcome _) fun existing => ?_
  refine conforms_bind (uses_ask (.inl rfl)) fun _ => ?_
  split
  · exact uses_ask (.inr rfl)
  · exact uses_ask (.inr rfl)

end SagaMind.RedisStore
