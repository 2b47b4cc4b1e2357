import SagaMind.Foundation.Pool
import SagaMind.StateStore.Codecs
import SagaMind.StateStore.SagaRecords

/-!
# Saga records and the recovery index

Clients write the records of sagas at the same time, one Redis command each. A
write reads the metadata, stores the merged record and updates the index of
unfinished sagas, so a client may store over metadata it has not read, and may
update the index for a status that is no longer stored. As long as no client
does, the index and the metadata are right once all writes are over.
-/

namespace SagaMind.SagaIndex

open CallProgram KeyedTable Redis RedisStore

set_option autoImplicit false

variable {V : Type}

section Writers

/-- One call of `write_transaction_state`. -/
structure StateWrite (V : Type) where
  sagaId : String
  status : String
  metadata : SagaMetadata V
  deriving DecidableEq

/-- How far a write has come. -/
inductive Stage where
  | started
  /-- It has read this metadata. -/
  | read (text : Option String)
  /-- It has stored this status under this key, and owes the index an update. -/
  | written (key status : String)
  | indexed
  /-- The server refused a command, or the metadata could not be read. -/
  | broken
  deriving DecidableEq

variable (wire : SagaWire V)

def advance : (request : Request Script) → Except Fault request.Answer → Stage → Stage
  | .plain (.hget _ _), .ok text, _ =>
      if (loadMetadata wire text).toOption.isSome then .read text else .broken
  | .plain (.hset key ((_, status) :: _)), .ok _, _ => .written key status
  | .plain (.srem _ _), .ok _, _ => .indexed
  | .plain (.sadd _ _), .ok _, _ => .indexed
  | _, _, _ => .broken

def stored (server : Redis.Server) (sagaId field : String) : Option String :=
  match server.keys (sagaKey sagaId) with
  | some (.hash fields) => fields field
  | _ => none

def members : Option Value → Finset String
  | some (.set members) => members
  | _ => ∅

/-- `sagas:incomplete`. -/
def indexed (server : Redis.Server) : Finset String := members (server.keys incompleteKey)

/-- An index update is for the side of the stored status, or a write that has
stored a status of that side still owes its own update. -/
def Settles (server : Redis.Server) (others : List Stage) (sagaId : String) (terminal : Bool) :
    Prop :=
  ∀ status, stored server sagaId "status" = some status →
    decide (status ∈ terminalStatuses) = terminal ∨
      ∃ other ∈ others, ∃ pending, other = .written (sagaKey sagaId) pending ∧
        (pending ∈ terminalStatuses ↔ status ∈ terminalStatuses)

/-- A record is stored over the metadata that was read, and the index is updated
for the stored status. -/
def Orderly (server : Redis.Server) (others : List Stage) (noted : Stage) :
    Request Script → Prop
  | .plain (.hset key _) => ∀ text, noted = .read text →
      (match server.keys key with
        | some (.hash fields) => fields "metadata"
        | _ => none) = text
  | .plain (.srem _ sagaId) => Settles server others sagaId true
  | .plain (.sadd _ sagaId) => Settles server others sagaId false
  | _ => True

def writers (permits : Redis.Server → List Stage → Stage → Request Script → Prop) :
    Setting (face Script) PyError Unit (StateWrite V) Stage Redis.Server where
  admits := fun write program =>
    program = writeTransactionState wire write.sagaId write.status write.metadata
  serve := fun _ request before reply after =>
    Request.serve Script.body request before = (reply, after)
  lose := fun _ _ _ => False
  start := .started
  note := advance wire
  permits := permits

/-- What recovery and the endpoints read of a saga. -/
structure Consistent (pool : Pool (face Script) PyError Unit (StateWrite V) Stage Redis.Server) :
    Prop where
  returned : ∀ thread ∈ pool.threads, thread.program = .done ()
  index : ∀ sagaId, sagaId ∈ indexed pool.shared ↔
    ∃ status, stored pool.shared sagaId "status" = some status ∧ status ∉ terminalStatuses
  metadata : ∀ thread ∈ pool.threads, ∀ entry ∈ thread.owner.metadata.rows,
    ∃ current, loadMetadata wire (stored pool.shared thread.owner.sagaId "metadata") = .ok current ∧
      ∃ value, current.find? entry.1 = some (entry.1, value) ∧
        ∃ writer ∈ pool.threads, writer.owner.sagaId = thread.owner.sagaId ∧
          (entry.1, value) ∈ writer.owner.metadata.rows

end Writers

section Discipline

variable {wire : SagaWire V}
  {permits : Redis.Server → List Stage → Stage → Request Script → Prop}

def Disciplined (wire : SagaWire V) (write : StateWrite V) : Request Script → Stage → Prop
  | .plain (.hget key field), stage =>
      stage = .started ∧ key = sagaKey write.sagaId ∧ field = "metadata"
  | .plain (.hset key entries), stage =>
      ∃ text existing, stage = .read text ∧ loadMetadata wire text = .ok existing ∧
        key = sagaKey write.sagaId ∧ entries = [("status", write.status),
          ("metadata", wire.metadata.dumps (existing.update write.metadata))]
  | .plain (.srem key sagaId), stage =>
      key = incompleteKey ∧ sagaId = write.sagaId ∧
        stage = .written (sagaKey write.sagaId) write.status ∧ write.status ∈ terminalStatuses
  | .plain (.sadd key sagaId), stage =>
      key = incompleteKey ∧ sagaId = write.sagaId ∧
        stage = .written (sagaKey write.sagaId) write.status ∧ write.status ∉ terminalStatuses
  | _, _ => False

theorem advance_error (request : Request Script) (fault : Fault) (stage : Stage) :
    advance wire request (.error fault) stage = .broken := by
  unfold advance
  split <;> simp_all

theorem wp_told {write : StateWrite V} {command : Command} {stage : Stage}
    {post : command.Answer → Stage → Prop}
    (here : Disciplined wire write (.plain command) stage)
    (answered : ∀ answer, post answer (advance wire (.plain command) (.ok answer) stage)) :
    wp ((writers wire permits).discipline (Disciplined wire write)) (ask command) post
      (fun _ stage => stage = .broken) stage := by
  refine ⟨here, fun reply after taken => ?_⟩
  change after = advance wire (.plain command) reply stage at taken
  rw [taken]
  cases reply with
  | ok answer => exact answered answer
  | error fault =>
      rw [advance_error]
      cases fault
      rfl

/-- A write that returns has updated the index, and one that raises is broken. -/
theorem write_serves (write : StateWrite V) :
    (writers wire permits).Serves (Disciplined wire) (fun _ _ stage => stage = .indexed)
      (fun _ _ stage => stage = .broken)
      ⟨write, writeTransactionState wire write.sagaId write.status write.metadata, .started⟩ := by
  rw [Setting.Serves, writeTransactionState, wp_bind]
  apply wp_told
  · exact ⟨rfl, rfl, rfl⟩
  intro text
  rw [wp_bind, wp_outcome, advance]
  cases loaded : loadMetadata wire text with
  | error refusal => rfl
  | ok existing =>
      rw [replied_ok, wp_bind]
      apply wp_told
      · exact ⟨text, existing, rfl, loaded, rfl, rfl⟩
      intro _
      rw [wp_ite]
      split
      · rename_i terminal
        apply wp_told
        · exact ⟨rfl, rfl, rfl, terminal⟩
        · exact fun _ => rfl
      · rename_i open_status
        apply wp_told
        · exact ⟨rfl, rfl, rfl, open_status⟩
        · exact fun _ => rfl

end Discipline

section Reading

variable {wire : SagaWire V} {server after : Redis.Server} {sagaId other field : String}

theorem saga_key_injective : Function.Injective sagaKey := by
  intro left right same
  exact (String.append_right_inj _).mp same

theorem incomplete_apart : incompleteKey ≠ sagaKey sagaId := by
  intro same
  have chars := congrArg (fun text => text.toList[4]?) same
  simp [incompleteKey, sagaKey] at chars

theorem stored_congr (same : after.keys (sagaKey sagaId) = server.keys (sagaKey sagaId)) :
    stored after sagaId field = stored server sagaId field := by
  simp only [stored, same]

theorem indexed_congr (same : after.keys incompleteKey = server.keys incompleteKey) :
    indexed after = indexed server := by
  simp only [indexed, same]

theorem load_dumped (metadata : SagaMetadata V) :
    loadMetadata wire (some (wire.metadata.dumps metadata)) = .ok metadata := by
  have filled := wire.metadata.dumps_filled metadata
  simp [loadMetadata, load, truthy, filled, wire.metadata.loads_dumps]

theorem load_nothing : loadMetadata wire none = .ok .empty := by
  simp [loadMetadata, load, truthy, wire.loads_nothing]

def IsRecord (wire : SagaWire V) : Option Value → Prop
  | none => True
  | some (.hash fields) => (∃ status, fields "status" = some status) ∧
      ∃ current, loadMetadata wire (fields "metadata") = .ok current
  | some _ => False

def IsIndex : Option Value → Prop
  | none => True
  | some (.set _) => True
  | some _ => False

def current (wire : SagaWire V) (server : Redis.Server) (sagaId : String) : SagaMetadata V :=
  (loadMetadata wire (stored server sagaId "metadata")).toOption.getD .empty

theorem load_current (record : IsRecord wire (server.keys (sagaKey sagaId))) :
    loadMetadata wire (stored server sagaId "metadata") = .ok (current wire server sagaId) := by
  rw [current]
  cases held : server.keys (sagaKey sagaId) with
  | none =>
      have nothing : stored server sagaId "metadata" = none := by simp only [stored, held]
      rw [nothing, load_nothing]
      rfl
  | some value =>
      rw [held] at record
      cases value with
      | hash fields =>
          obtain ⟨-, metadata, loaded⟩ := record
          simp only [stored, held, loaded]
          rfl
      | list items => exact record.elim
      | set members => exact record.elim

theorem hget_served (record : IsRecord wire (server.keys (sagaKey sagaId))) :
    (Command.hget (sagaKey sagaId) "metadata").serve server =
      (.ok (stored server sagaId "metadata"), server) := by
  cases held : server.keys (sagaKey sagaId) with
  | none =>
      simp only [Command.serve, Server.hash, held, stored]
      rfl
  | some value =>
      rw [held] at record
      cases value with
      | hash fields =>
          simp only [Command.serve, Server.hash, held, stored]
          rfl
      | list items => exact record.elim
      | set members => exact record.elim

theorem hset_served (record : IsRecord wire (server.keys (sagaKey sagaId)))
    (status text : String) :
    ∃ after fields, (Command.hset (sagaKey sagaId) [("status", status), ("metadata", text)]).serve
        server = (.ok (), after) ∧
      after.keys = Function.update server.keys (sagaKey sagaId) (some (.hash fields)) ∧
      fields "status" = some status ∧ fields "metadata" = some text := by
  obtain ⟨held, found⟩ : ∃ held, server.hash (sagaKey sagaId) = .ok held := by
    rw [Server.hash]
    generalize server.keys (sagaKey sagaId) = value at record
    cases value with
    | none => exact ⟨_, rfl⟩
    | some held =>
        cases held with
        | hash fields => exact ⟨_, rfl⟩
        | list items => exact record.elim
        | set members => exact record.elim
  refine ⟨_, _, RedisStore.hset_served found _, rfl, ?_, ?_⟩
  · simp [setFields]
  · simp [setFields]

theorem set_indexed (index : IsIndex (server.keys incompleteKey)) :
    server.set incompleteKey = .ok (indexed server) := by
  rw [Server.set, indexed]
  generalize server.keys incompleteKey = value at index
  cases value with
  | none => rfl
  | some held =>
      cases held with
      | set members => rfl
      | hash fields => exact index.elim
      | list items => exact index.elim

theorem indexed_assign (value : Option Value) :
    indexed (server.assign incompleteKey value) = members value := by
  rw [indexed, keys_assign, if_pos rfl]

theorem srem_served (index : IsIndex (server.keys incompleteKey)) (sagaId : String) :
    ∃ after, (Command.srem incompleteKey sagaId).serve server = (.ok (), after) ∧
      IsIndex (after.keys incompleteKey) ∧ indexed after = (indexed server).erase sagaId := by
  have served : (Command.srem incompleteKey sagaId).serve server =
      (.ok (), server.assign incompleteKey (if (indexed server).erase sagaId = ∅ then none
        else some (.set ((indexed server).erase sagaId)))) := by
    simp only [Command.serve, Server.rewrite, set_indexed index]
  refine ⟨_, served, ?_⟩
  rw [indexed_assign, keys_assign, if_pos rfl]
  by_cases empty : (indexed server).erase sagaId = ∅
  · rw [if_pos empty, empty]
    exact ⟨trivial, rfl⟩
  · rw [if_neg empty]
    exact ⟨trivial, rfl⟩

theorem sadd_served (index : IsIndex (server.keys incompleteKey)) (sagaId : String) :
    ∃ after, (Command.sadd incompleteKey sagaId).serve server = (.ok (), after) ∧
      IsIndex (after.keys incompleteKey) ∧ indexed after = insert sagaId (indexed server) := by
  have served : (Command.sadd incompleteKey sagaId).serve server =
      (.ok (), server.assign incompleteKey (some (.set (insert sagaId (indexed server))))) := by
    simp only [Command.serve, Server.rewrite, set_indexed index]
  refine ⟨_, served, ?_⟩
  rw [indexed_assign, keys_assign, if_pos rfl]
  exact ⟨trivial, rfl⟩

end Reading

section Invariant

variable {wire : SagaWire V} {server after : Redis.Server}
  {seats left right : List (StateWrite V × Stage)} {write : StateWrite V} {stage next : Stage}

def Stage.stored : Stage → Bool
  | .written _ _ | .indexed => true
  | _ => false

/-- Some write of the saga, on the side of this status, still owes an update. -/
def Owed (seats : List (StateWrite V × Stage)) (sagaId status : String) : Prop :=
  ∃ seat ∈ seats, ∃ pending, seat.2 = .written (sagaKey sagaId) pending ∧
    (pending ∈ terminalStatuses ↔ status ∈ terminalStatuses)

def Matches (server : Redis.Server) (sagaId : String) : Prop :=
  sagaId ∈ indexed server ↔
    ∃ status, SagaIndex.stored server sagaId "status" = some status ∧ status ∉ terminalStatuses

def Wrote (seats : List (StateWrite V × Stage)) (sagaId : String) (entry : String × V) : Prop :=
  ∃ seat ∈ seats, seat.1.sagaId = sagaId ∧ entry ∈ seat.1.metadata.rows

/-- The records are well formed and complete, and where the index is wrong some
write is about to update it. -/
structure Kept (wire : SagaWire V) (server : Redis.Server)
    (seats : List (StateWrite V × Stage)) : Prop where
  records : ∀ sagaId, IsRecord wire (server.keys (sagaKey sagaId))
  isIndex : IsIndex (server.keys incompleteKey)
  unbroken : ∀ seat ∈ seats, seat.2 ≠ .broken
  filed : ∀ seat ∈ seats, seat.2.stored = true →
    (∃ status, SagaIndex.stored server seat.1.sagaId "status" = some status) ∧
      ∀ entry ∈ seat.1.metadata.rows,
        ((current wire server seat.1.sagaId).find? entry.1).isSome
  index : ∀ sagaId, Matches server sagaId ∨
    ∃ status, SagaIndex.stored server sagaId "status" = some status ∧ Owed seats sagaId status
  origin : ∀ sagaId, ∀ entry ∈ (current wire server sagaId).rows, Wrote seats sagaId entry

theorem empty_kept (wire : SagaWire V) : Kept wire .empty [] := by
  constructor
  · exact fun _ => trivial
  · trivial
  · exact fun seat impossible => absurd impossible List.not_mem_nil
  · exact fun seat impossible => absurd impossible List.not_mem_nil
  · intro sagaId
    left
    constructor
    · intro member
      exact absurd member (Finset.notMem_empty _)
    · intro unfinished
      obtain ⟨status, impossible, -⟩ := unfinished
      cases impossible
  · intro sagaId entry member
    have nothing : current wire .empty sagaId = .empty := by
      rw [current, show SagaIndex.stored .empty sagaId "metadata" = none from rfl, load_nothing]
      rfl
    rw [nothing] at member
    exact absurd member List.not_mem_nil

theorem Kept.spawned (kept : Kept wire server seats) (write : StateWrite V) :
    Kept wire server (seats ++ [(write, .started)]) := by
  constructor
  · exact kept.records
  · exact kept.isIndex
  · intro seat member
    rcases List.mem_append.mp member with old | new
    · exact kept.unbroken seat old
    · rw [List.mem_singleton.mp new]
      exact Stage.noConfusion
  · intro seat member filed
    rcases List.mem_append.mp member with old | new
    · exact kept.filed seat old filed
    · rw [List.mem_singleton.mp new] at filed
      cases filed
  · intro sagaId
    rcases kept.index sagaId with right | ⟨status, found, seat, member, owed⟩
    · exact .inl right
    · exact .inr ⟨status, found, seat, List.mem_append_left _ member, owed⟩
  · intro sagaId entry member
    obtain ⟨seat, there, wrote⟩ := kept.origin sagaId entry member
    exact ⟨seat, List.mem_append_left _ there, wrote⟩

theorem owed_replaced {sagaId status : String}
    (owed : Owed (left ++ (write, stage) :: right) sagaId status)
    (idle : ∀ pending, stage ≠ .written (sagaKey sagaId) pending) :
    Owed (left ++ (write, next) :: right) sagaId status := by
  obtain ⟨seat, member, pending, written, side⟩ := owed
  refine ⟨seat, ?_, pending, written, side⟩
  rcases List.mem_append.mp member with before | rest
  · exact List.mem_append_left _ before
  · rcases List.mem_cons.mp rest with same | later
    · rw [same] at written
      exact absurd written (idle pending)
    · exact List.mem_append_right _ (List.mem_cons_of_mem _ later)

theorem wrote_replaced {sagaId : String} {entry : String × V}
    (wrote : Wrote (left ++ (write, stage) :: right) sagaId entry) :
    Wrote (left ++ (write, next) :: right) sagaId entry := by
  obtain ⟨seat, member, saga, listed⟩ := wrote
  rcases List.mem_append.mp member with before | rest
  · exact ⟨seat, List.mem_append_left _ before, saga, listed⟩
  · rcases List.mem_cons.mp rest with same | later
    · rw [same] at saga listed
      exact ⟨(write, next), List.mem_append_cons_self, saga, listed⟩
    · exact ⟨seat, List.mem_append_right _ (List.mem_cons_of_mem _ later), saga, listed⟩

theorem Kept.reads (kept : Kept wire server (left ++ (write, .started) :: right))
    (text : Option String) : Kept wire server (left ++ (write, .read text) :: right) := by
  constructor
  · exact kept.records
  · exact kept.isIndex
  · exact Setting.every_replaced kept.unbroken Stage.noConfusion
  · apply Setting.every_replaced kept.filed
    intro impossible
    cases impossible
  · intro sagaId
    rcases kept.index sagaId with matching | ⟨status, found, owed⟩
    · exact .inl matching
    · exact .inr ⟨status, found, owed_replaced owed fun _ => Stage.noConfusion⟩
  · intro sagaId entry member
    exact wrote_replaced (kept.origin sagaId entry member)

theorem Kept.stores {text : Option String} {existing : SagaMetadata V}
    {fields : String → Option String}
    (kept : Kept wire server (left ++ (write, .read text) :: right))
    (loaded : loadMetadata wire text = .ok existing)
    (orderly : SagaIndex.stored server write.sagaId "metadata" = text)
    (written : after.keys =
      Function.update server.keys (sagaKey write.sagaId) (some (.hash fields)))
    (status : fields "status" = some write.status)
    (metadata : fields "metadata" =
      some (wire.metadata.dumps (existing.update write.metadata))) :
    Kept wire after (left ++ (write, .written (sagaKey write.sagaId) write.status) :: right) := by
  have others {sagaId : String} (apart : sagaId ≠ write.sagaId) :
      after.keys (sagaKey sagaId) = server.keys (sagaKey sagaId) := by
    rw [written, Function.update_of_ne fun same => apart (saga_key_injective same)]
  have own : after.keys (sagaKey write.sagaId) = some (.hash fields) := by
    rw [written, Function.update_self]
  have ownStatus : SagaIndex.stored after write.sagaId "status" = some write.status := by
    simp only [SagaIndex.stored, own, status]
  have before : current wire server write.sagaId = existing := by
    rw [current, orderly, loaded]
    rfl
  have ownMetadata : current wire after write.sagaId = existing.update write.metadata := by
    have field : SagaIndex.stored after write.sagaId "metadata" =
        some (wire.metadata.dumps (existing.update write.metadata)) := by
      simp only [SagaIndex.stored, own, metadata]
    rw [current, field, load_dumped]
    rfl
  have otherMetadata {sagaId : String} (apart : sagaId ≠ write.sagaId) :
      current wire after sagaId = current wire server sagaId := by
    rw [current, current, stored_congr (others apart)]
  have index : after.keys incompleteKey = server.keys incompleteKey := by
    rw [written, Function.update_of_ne incomplete_apart]
  -- What another write of the saga has stored is merged, not lost.
  have filed : ∀ seat ∈ left ++ (write, Stage.read text) :: right, seat.2.stored = true →
      (∃ status, SagaIndex.stored after seat.1.sagaId "status" = some status) ∧
        ∀ entry ∈ seat.1.metadata.rows,
          ((current wire after seat.1.sagaId).find? entry.1).isSome := by
    intro seat member done
    have old := kept.filed seat member done
    by_cases same : seat.1.sagaId = write.sagaId
    · rw [same, before] at old
      rw [same, ownMetadata]
      refine ⟨⟨_, ownStatus⟩, ?_⟩
      intro entry listed
      rw [find_update, Option.isSome_or, old.2 entry listed, Bool.or_true]
    · rw [otherMetadata same, stored_congr (others same)]
      exact old
  constructor
  · intro sagaId
    by_cases same : sagaId = write.sagaId
    · rw [same, own]
      refine ⟨⟨_, status⟩, existing.update write.metadata, ?_⟩
      rw [metadata, load_dumped]
    · rw [others same]
      exact kept.records sagaId
  · rw [index]
    exact kept.isIndex
  · exact Setting.every_replaced kept.unbroken Stage.noConfusion
  · apply Setting.every_replaced filed
    intro _
    refine ⟨⟨_, ownStatus⟩, ?_⟩
    intro entry listed
    have wrote : write.metadata.find? entry.1 = some entry := Table.find_of_mem listed
    rw [ownMetadata, find_update, wrote]
    rfl
  · intro sagaId
    by_cases same : sagaId = write.sagaId
    · right
      rw [same]
      exact ⟨write.status, ownStatus, (write, _), List.mem_append_cons_self, write.status, rfl,
        Iff.rfl⟩
    · have indexSame := indexed_congr index
      rcases kept.index sagaId with matching | ⟨old, found, owed⟩
      · left
        rw [Matches, indexSame, stored_congr (others same)]
        exact matching
      · right
        rw [stored_congr (others same)]
        exact ⟨old, found, owed_replaced owed fun _ => Stage.noConfusion⟩
  · intro sagaId entry member
    by_cases same : sagaId = write.sagaId
    · rw [same, ownMetadata] at member
      have found : (existing.update write.metadata).find? entry.1 = some entry :=
        Table.find_of_mem member
      rw [find_update] at found
      rcases Option.or_eq_some_iff.mp found with new | ⟨-, old⟩
      · exact ⟨(write, _), List.mem_append_cons_self, same.symm, Table.find_mem new⟩
      · rw [← before] at old
        rw [same]
        exact wrote_replaced (kept.origin write.sagaId entry (Table.find_mem old))
    · rw [otherMetadata same] at member
      exact wrote_replaced (kept.origin sagaId entry member)

/-- The index is updated on the side of the stored status, or of a write that
still owes an update. -/
theorem Kept.indexes
    (kept : Kept wire server
      (left ++ (write, .written (sagaKey write.sagaId) write.status) :: right))
    (others : ∀ key, key ≠ incompleteKey → after.keys key = server.keys key)
    (isIndex : IsIndex (after.keys incompleteKey))
    (updated : indexed after = if write.status ∈ terminalStatuses
      then (indexed server).erase write.sagaId else insert write.sagaId (indexed server))
    (settles : Settles server ((left ++ right).map Prod.snd) write.sagaId
      (decide (write.status ∈ terminalStatuses))) :
    Kept wire after (left ++ (write, .indexed) :: right) := by
  have records (sagaId : String) : after.keys (sagaKey sagaId) = server.keys (sagaKey sagaId) :=
    others _ incomplete_apart.symm
  have stored (sagaId field : String) :
      SagaIndex.stored after sagaId field = SagaIndex.stored server sagaId field :=
    stored_congr (records sagaId)
  have metadata (sagaId : String) : current wire after sagaId = current wire server sagaId := by
    rw [current, current, stored]
  have filed := kept.filed
  constructor
  · intro sagaId
    rw [records]
    exact kept.records sagaId
  · exact isIndex
  · exact Setting.every_replaced kept.unbroken Stage.noConfusion
  · simp only [stored, metadata]
    have own := filed (write, .written (sagaKey write.sagaId) write.status)
      List.mem_append_cons_self rfl
    exact Setting.every_replaced filed fun _ => own
  · intro sagaId
    by_cases same : sagaId = write.sagaId
    · have own := filed (write, .written (sagaKey write.sagaId) write.status)
        List.mem_append_cons_self rfl
      obtain ⟨status, found⟩ := own.1
      rw [same]
      rcases settles status found with agree | ⟨other, member, pending, owes, side⟩
      · left
        rw [Matches, stored, found, updated]
        have side : status ∈ terminalStatuses ↔ write.status ∈ terminalStatuses :=
          decide_eq_decide.mp agree
        by_cases terminal : write.status ∈ terminalStatuses
        · simp [terminal, side]
        · simp [terminal, side]
      · right
        rw [stored]
        obtain ⟨seat, there, stage⟩ := List.mem_map.mp member
        refine ⟨status, found, seat, ?_, pending, stage.trans owes, side⟩
        rcases List.mem_append.mp there with before | later
        · exact List.mem_append_left _ before
        · exact List.mem_append_right _ (List.mem_cons_of_mem _ later)
    · have membership : sagaId ∈ indexed after ↔ sagaId ∈ indexed server := by
        rw [updated]
        split
        · simp [same]
        · simp [same]
      rw [Matches, stored, membership]
      rcases kept.index sagaId with matching | ⟨status, found, owed⟩
      · exact .inl matching
      · refine .inr ⟨status, found, owed_replaced owed ?_⟩
        intro pending owes
        injection owes with key
        exact same (saga_key_injective key).symm
  · intro sagaId entry member
    rw [metadata] at member
    exact wrote_replaced (kept.origin sagaId entry member)

theorem kept_invariant [DecidableEq V] (wire : SagaWire V) :
    SeatInvariant (writers wire Orderly) (Disciplined wire) (Kept wire) := by
  constructor
  · intro shared seats write program kept _
    exact kept.spawned write
  · intro shared after left right stage write request reply kept permission permitted served
    cases request with
    | eval script keys argv => exact permission.elim
    | plain command =>
        change command.serve shared = (reply, after) at served
        cases command with
        | hget key field =>
            obtain ⟨rfl, rfl, rfl⟩ := permission
            have record := kept.records write.sagaId
            rw [hget_served record] at served
            cases served
            have readable := load_current record
            have moved : advance wire (.plain (.hget (sagaKey write.sagaId) "metadata"))
                (.ok (stored shared write.sagaId "metadata")) .started =
                .read (stored shared write.sagaId "metadata") := by
              simp only [advance, readable]
              rfl
            change Kept wire shared (left ++ (write, advance wire
              (.plain (.hget (sagaKey write.sagaId) "metadata"))
              (.ok (stored shared write.sagaId "metadata")) .started) :: right)
            rw [moved]
            exact kept.reads _
        | hset key entries =>
            obtain ⟨text, existing, rfl, loaded, rfl, rfl⟩ := permission
            obtain ⟨next, fields, ran, written, status, metadata⟩ := hset_served
              (kept.records write.sagaId) write.status
              (wire.metadata.dumps (existing.update write.metadata))
            rw [ran] at served
            cases served
            have orderly : SagaIndex.stored shared write.sagaId "metadata" = text :=
              permitted text rfl
            exact kept.stores loaded orderly written status metadata
        | srem key sagaId =>
            obtain ⟨rfl, rfl, rfl, terminal⟩ := permission
            obtain ⟨next, ran, isIndex, updated⟩ := srem_served kept.isIndex write.sagaId
            have others (key : String) (apart : key ≠ incompleteKey) :
                next.keys key = shared.keys key := by
              have other : ((Command.srem incompleteKey write.sagaId).serve shared).2.keys key =
                  shared.keys key := serve_other _ apart
              rw [ran] at other
              exact other
            rw [ran] at served
            cases served
            have settles : Settles shared ((left ++ right).map Prod.snd) write.sagaId true :=
              permitted
            rw [← decide_eq_true terminal] at settles
            apply kept.indexes others isIndex _ settles
            rw [updated, if_pos terminal]
        | sadd key sagaId =>
            obtain ⟨rfl, rfl, rfl, unfinished⟩ := permission
            obtain ⟨next, ran, isIndex, updated⟩ := sadd_served kept.isIndex write.sagaId
            have others (key : String) (apart : key ≠ incompleteKey) :
                next.keys key = shared.keys key := by
              have other : ((Command.sadd incompleteKey write.sagaId).serve shared).2.keys key =
                  shared.keys key := serve_other _ apart
              rw [ran] at other
              exact other
            rw [ran] at served
            cases served
            have settles : Settles shared ((left ++ right).map Prod.snd) write.sagaId false :=
              permitted
            rw [← decide_eq_false unfinished] at settles
            apply kept.indexes others isIndex _ settles
            rw [updated, if_neg unfinished]
        | _ => exact permission.elim
  · intro shared after seats owner _ lost
    exact lost.elim

end Invariant

/-- Once all writes are over, the index and the metadata are right, if no write
stored over metadata it had not read or indexed another status than the stored one. -/
theorem saga_records_consistent [DecidableEq V] {wire : SagaWire V}
    {pool : Pool (face Script) PyError Unit (StateWrite V) Stage Redis.Server}
    (reached : (writers wire Orderly).Reachable .empty pool)
    (finished : ∀ thread ∈ pool.threads, thread.program.next? = none) :
    Consistent wire pool := by
  have sound := reachable_seats (kept_invariant wire)
    (fun write program admitted => by
      have same : program = _ := admitted
      rw [same]
      exact write_serves write) (empty_kept wire) reached
  obtain ⟨serving, kept⟩ := sound
  have seated : ∀ thread ∈ pool.threads, thread.seat ∈ pool.threads.map Thread.seat :=
    fun thread member => List.mem_map_of_mem member
  have ended : ∀ thread ∈ pool.threads, thread.program = .done () ∧ thread.noted = .indexed := by
    intro thread member
    have owes := serving thread member
    have closed := finished thread member
    have unbroken := kept.unbroken _ (seated thread member)
    obtain ⟨owner, program, noted⟩ := thread
    cases program with
    | done value => exact ⟨rfl, owes⟩
    | raise error => exact absurd owes unbroken
    | call request next => cases closed
  constructor
  · exact fun thread member => (ended thread member).1
  · intro sagaId
    rcases kept.index sagaId with matching | ⟨status, found, seat, member, pending, owes, side⟩
    · exact matching
    · obtain ⟨thread, there, same⟩ := List.mem_map.mp member
      rw [← same] at owes
      have indexed : thread.seat.2 = .indexed := (ended thread there).2
      rw [indexed] at owes
      cases owes
  · intro thread member entry listed
    have stage : thread.seat.2.stored = true := by
      have indexed : thread.seat.2 = .indexed := (ended thread member).2
      rw [indexed]
      rfl
    have filed := (kept.filed _ (seated thread member) stage).2 entry listed
    obtain ⟨row, found⟩ := Option.isSome_iff_exists.mp filed
    have key : row.1 = entry.1 := Table.find_key found
    obtain ⟨seat, there, saga, wrote⟩ := kept.origin _ row (Table.find_mem found)
    obtain ⟨writer, written, same⟩ := List.mem_map.mp there
    rw [← same] at saga wrote
    refine ⟨_, load_current (kept.records thread.owner.sagaId), row.2, ?_, writer, written, saga, ?_⟩
    · rw [← key]
      rw [← key] at found
      exact found
    · rw [← key]
      exact wrote

section Samples

def upToDate (server : Redis.Server) (_others : List Stage) (noted : Stage) :
    Request Script → Bool
  | .plain (.hset key _) =>
      match noted with
      | .read text =>
          (match server.keys key with
            | some (.hash fields) => fields "metadata"
            | _ => none) = text
      | _ => true
  | .plain (.srem _ sagaId) =>
      (stored server sagaId "status").all fun status => status ∈ terminalStatuses
  | .plain (.sadd _ sagaId) =>
      (stored server sagaId "status").all fun status => status ∉ terminalStatuses
  | _ => true

theorem up_to_date_orderly (server : Redis.Server) (others : List Stage) (noted : Stage)
    (request : Request Script) (passed : upToDate server others noted request = true) :
    Orderly server others noted request := by
  unfold Orderly
  split
  · intro text read
    rw [read] at passed
    exact of_decide_eq_true passed
  · intro status found
    simp only [upToDate, found, Option.all_some] at passed
    exact .inl passed
  · intro status found
    simp only [upToDate, found, Option.all_some, decide_eq_true_eq] at passed
    exact .inl (decide_eq_false passed)
  · trivial

def goalMetadata : SagaMetadata String := ⟨[("goal", "transfer")], by decide⟩

def tenantMetadata : SagaMetadata String := ⟨[("tenant_id", "a")], by decide⟩

def recordTexts : Worded (SagaMetadata String) where
  known := [(.empty, "\x7b\x7d"),
    (goalMetadata, "\x7b\"goal\": \"transfer\"\x7d"),
    (tenantMetadata, "\x7b\"tenant_id\": \"a\"\x7d"),
    (goalMetadata.update tenantMetadata, "\x7b\"goal\": \"transfer\", \"tenant_id\": \"a\"\x7d")]
  values := by decide
  texts := by decide
  worded := by decide

def recordWire : SagaWire String where
  metadata := recordTexts.codec
  loads_nothing := by decide
  str := some

def startAndCommit (permits : Redis.Server → List Stage → Stage → Request Script → Prop)
    (check : Redis.Server → List Stage → Stage → Request Script → Bool) (order : List Nat) :
    Pool (face Script) PyError Unit (StateWrite String) Stage Redis.Server :=
  scheduled (writers recordWire permits)
    (fun _ request shared => Request.serve Script.body request shared) check .empty
    [(⟨"s", "RUNNING", goalMetadata⟩, writeTransactionState recordWire "s" "RUNNING" goalMetadata),
      (⟨"s", "COMMITTED", tenantMetadata⟩,
        writeTransactionState recordWire "s" "COMMITTED" tenantMetadata)] order

theorem start_and_commit_reachable
    {permits : Redis.Server → List Stage → Stage → Request Script → Prop}
    {check : Redis.Server → List Stage → Stage → Request Script → Bool}
    (sound : ∀ server others noted request, check server others noted request = true →
      permits server others noted request) (order : List Nat) :
    (writers recordWire permits).Reachable .empty (startAndCommit permits check order) := by
  apply scheduled_reachable
  · exact fun _ _ _ => rfl
  · exact sound
  · intro entry member
    rcases List.mem_cons.mp member with first | rest
    · rw [first]
      rfl
    · rw [List.mem_singleton.mp rest]
      rfl

/-- The start updates the index before the commit does, and the commit reads
what the start stored. -/
theorem saga_records_consistent_sample :
    Consistent recordWire (startAndCommit Orderly upToDate [0, 0, 0, 1, 1, 1]) := by
  apply saga_records_consistent (start_and_commit_reachable up_to_date_orderly _)
  have ended : ((startAndCommit Orderly upToDate [0, 0, 0, 1, 1, 1]).threads.map fun thread =>
      thread.program.next?.isNone) = [true, true] := by decide
  intro thread member
  have shown := List.mem_map_of_mem (f := fun thread => thread.program.next?.isNone) member
  rw [ended] at shown
  have none : thread.program.next?.isNone = true := by simpa using shown
  exact Option.isNone_iff_eq_none.mp none

def unordered (_server : Redis.Server) (_others : List Stage) (_noted : Stage)
    (_request : Request Script) : Prop := True

/-- Both writes read before either stores, and the start updates the index last. -/
def crossed : Pool (face Script) PyError Unit (StateWrite String) Stage Redis.Server :=
  startAndCommit unordered (fun _ _ _ _ => true) [0, 1, 0, 1, 1, 0]

/-- The committed saga is listed as unfinished, and its goal is lost. -/
theorem records_cross :
    (writers recordWire unordered).Reachable .empty crossed ∧
      (crossed.threads.map fun thread => thread.program.next?.isNone) = [true, true] ∧
      stored crossed.shared "s" "status" = some "COMMITTED" ∧
      "s" ∈ indexed crossed.shared ∧
      (loadMetadata recordWire (stored crossed.shared "s" "metadata")).toOption =
        some tenantMetadata ∧
      ¬Consistent recordWire crossed := by
  have reached : (writers recordWire unordered).Reachable .empty crossed :=
    start_and_commit_reachable (fun _ _ _ _ _ => trivial) _
  have ended : (crossed.threads.map fun thread => thread.program.next?.isNone) = [true, true] := by
    decide
  have status : stored crossed.shared "s" "status" = some "COMMITTED" := by decide
  have listed : "s" ∈ indexed crossed.shared := by decide
  have metadata : (loadMetadata recordWire (stored crossed.shared "s" "metadata")).toOption =
      some tenantMetadata := by decide
  refine ⟨reached, ended, status, listed, metadata, fun consistent => ?_⟩
  obtain ⟨found, same, unfinished⟩ := (consistent.index "s").mp listed
  rw [status] at same
  injection same with same
  rw [← same] at unfinished
  exact unfinished (by decide)

end Samples

end SagaMind.SagaIndex
