import SagaMind.StateStore.JournalCalls
import SagaMind.StateStore.Postgres

/-!
# The Postgres journal copies the memory journal

The rows of a saga are the records of the memory branch in order, numbered
from one, and the key table holds what the column made of the published keys.
A call parts the two branches when a parameter has a NUL, when a column
changes or rejects a value, or when an index or a number is exhausted.
-/

namespace SagaMind.PostgresStore

open Backends KeyedTable

set_option autoImplicit false

variable {Args : Type}

section Columns

def Clean (text : String) : Prop := '\x00' ∉ text.toList

theorem bind_ok_iff {Value Next : Type} {first : Except PyError Value}
    {rest : Value → Except PyError Next} {next : Next} :
    (first >>= rest) = .ok next ↔ ∃ value, first = .ok value ∧ rest value = .ok next := by
  cases first <;> simp [bind, Except.bind]

theorem pure_ok_iff {Value : Type} {value next : Value} :
    (pure value : Except PyError Value) = .ok next ↔ value = next := by
  simp [pure, Except.pure]

theorem parameter_ok_iff {text stored : String} :
    parameter text = .ok stored ↔ Clean text ∧ text = stored := by
  unfold parameter Clean
  split <;> simp [*]

theorem nullable_ok_iff {text stored : Option String} :
    nullable text = .ok stored ↔ (∀ given, text = some given → Clean given) ∧ text = stored := by
  cases text with
  | none => simp [nullable, eq_comm]
  | some text =>
      by_cases nul : '\x00' ∈ text.toList <;>
        simp [nullable, parameter, Clean, Except.map, nul]

theorem store_ok_iff {server : Server Args} {payload stored : Args} :
    store server payload = .ok stored ↔ server.jsonb payload = some stored := by
  unfold store
  split <;> simp [*]

theorem store_optional_ok_iff {server : Server Args} {payload stored : Option Args} :
    storeOptional server payload = .ok stored ↔
      (payload = none ∧ stored = none) ∨
        ∃ given kept, payload = some given ∧ server.jsonb given = some kept ∧
          stored = some kept := by
  cases payload with
  | none => simp [storeOptional, eq_comm]
  | some payload =>
      cases kept : server.jsonb payload <;>
        simp [storeOptional, store, Except.map, eq_comm, kept]

theorem nullable_varchar_ok_iff {width : Nat} {text stored : Option String} :
    nullableVarchar width text = .ok stored ↔
      (text = none ∧ stored = none) ∨
        ∃ given kept, text = some given ∧ varchar width given = .ok kept ∧
          stored = some kept := by
  cases text with
  | none => simp [nullableVarchar, eq_comm]
  | some text =>
      cases kept : varchar width text <;> simp [nullableVarchar, Except.map, eq_comm, kept]

end Columns

section Copies

structure Copies (store : Store Args) (database : Database Args) : Prop where
  journal : ∀ sagaId : Uuid, (database.journalOf sagaId).map effectFromPgRow =
    (store.effects sagaId.text).rows
  numbered : ∀ sagaId : Uuid, (store.effects sagaId.text).rows.map Effect.seq =
    List.range' 1 (store.effects sagaId.text).rows.length
  clean : ∀ sagaId : Uuid, ∀ effect ∈ (store.effects sagaId.text).rows, Clean effect.stepId
  published : ∀ (sagaId : Uuid) key, (sagaId, key) ∈ database.idempotency ↔
    ∃ given ∈ store.idem sagaId.text, varchar 128 given = .ok key

variable {store : Store Args} {database : Database Args}

theorem empty_copies : Copies (Store.empty : Store Args) .empty := by
  constructor
  · intro sagaId
    rfl
  · intro sagaId
    rfl
  · intro sagaId effect member
    cases member
  · intro sagaId key
    simp [Database.empty, Store.empty]

theorem Copies.seqs (copies : Copies store database) (sagaId : Uuid) :
    (database.journalOf sagaId).map JournalRow.seq =
      List.range' 1 (store.effects sagaId.text).rows.length := by
  rw [← copies.numbered sagaId, ← copies.journal sagaId, List.map_map]
  rfl

theorem effects_of_seqs {sagaId : Uuid} {count : Nat}
    (seqs : (database.journalOf sagaId).map JournalRow.seq = List.range' 1 count) :
    getEffects database sagaId = (database.journalOf sagaId).map effectFromPgRow := by
  have ascending : (database.journalOf sagaId).Pairwise fun left right => left.seq ≤ right.seq := by
    rw [← List.pairwise_map (R := (· ≤ ·)), seqs]
    exact List.pairwise_le_range'
  rw [getEffects, List.mergeSort_of_pairwise]
  simpa using ascending

theorem Copies.effects (copies : Copies store database) (sagaId : Uuid) :
    getEffects database sagaId = (store.effects sagaId.text).rows := by
  rw [effects_of_seqs (copies.seqs sagaId), copies.journal]

theorem next_seq_of_seqs {sagaId : Uuid} {count : Nat}
    (seqs : (database.journalOf sagaId).map JournalRow.seq = List.range' 1 count) :
    database.nextSeq sagaId = count + 1 := by
  have greatest (count : Nat) : (List.range' 1 count).foldl max 0 = count := by
    induction count with
    | zero => rfl
    | succ count ih =>
        rw [List.range'_concat, List.foldl_append, ih]
        simp
        omega
  rw [Database.nextSeq, seqs, greatest]

theorem Copies.next_seq (copies : Copies store database) (sagaId : Uuid) :
    database.nextSeq sagaId = (store.effects sagaId.text).rows.length + 1 :=
  next_seq_of_seqs (copies.seqs sagaId)

theorem Copies.row (copies : Copies store database) (sagaId : Uuid) (stepId : String) :
    (database.row? sagaId stepId).map effectFromPgRow = store.effect? sagaId.text stepId := by
  rw [Store.effect?, Table.find?, ← copies.journal, List.find?_map]
  rfl

theorem Copies.effect (copies : Copies store database) (sagaId : Uuid) (stepId : String) :
    getEffect database sagaId stepId = store.getEffect sagaId.text stepId := by
  rw [getEffect, copies.effects, Store.getEffect, Store.effect?, Table.find?]
  split <;> simp only [*]

theorem put_other {owner other : String} (apart : other ≠ owner) (entry : Effect Args) :
    (store.putEffect owner entry).effects other = store.effects other :=
  Function.update_of_ne apart ..

theorem text_apart {sagaId owner : Uuid} (apart : sagaId ≠ owner) : sagaId.text ≠ owner.text := by
  intro same
  cases sagaId
  cases owner
  cases same
  exact apart rfl

/-- What a database must satisfy to copy a store with one more or one changed record. -/
theorem Copies.put (copies : Copies store database) {after : Database Args} {owner : Uuid}
    {entry : Effect Args} (others : ∀ sagaId, sagaId ≠ owner →
      after.journalOf sagaId = database.journalOf sagaId)
    (keys : after.idempotency = database.idempotency)
    (own : (after.journalOf owner).map effectFromPgRow =
      Table.putRows Effect.stepId entry (store.effects owner.text).rows)
    (numbered : (Table.putRows Effect.stepId entry (store.effects owner.text).rows).map
        Effect.seq = List.range' 1
      (Table.putRows Effect.stepId entry (store.effects owner.text).rows).length)
    (clean : Clean entry.stepId) : Copies (store.putEffect owner.text entry) after := by
  have shape : ((store.putEffect owner.text entry).effects owner.text).rows =
      Table.putRows Effect.stepId entry (store.effects owner.text).rows := by
    simp only [Store.putEffect, Function.update_self, Table.put]
  constructor
  · intro sagaId
    by_cases same : sagaId = owner
    · rw [same, own, shape]
    · rw [others sagaId same, put_other (text_apart same), copies.journal]
  · intro sagaId
    by_cases same : sagaId = owner
    · rw [same, shape, numbered]
    · rw [put_other (text_apart same), copies.numbered]
  · intro sagaId effect member
    by_cases same : sagaId = owner
    · rw [same, shape] at member
      rcases Table.mem_put_rows member with new | old
      · rw [new]
        exact clean
      · exact copies.clean owner effect old
    · rw [put_other (text_apart same)] at member
      exact copies.clean sagaId effect member
  · intro sagaId key
    rw [keys]
    exact copies.published sagaId key

theorem Copies.insert (copies : Copies store database) {row : JournalRow Args}
    (absent : store.effect? row.sagaId.text row.stepId = none)
    (seq : row.seq = (store.effects row.sagaId.text).rows.length + 1) (clean : Clean row.stepId) :
    Copies (store.putEffect row.sagaId.text (effectFromPgRow row))
      { database with journal := database.journal ++ [row] } := by
  have appended : Table.putRows Effect.stepId (effectFromPgRow row)
      (store.effects row.sagaId.text).rows =
        (store.effects row.sagaId.text).rows ++ [effectFromPgRow row] :=
    Table.put_rows_absent (Table.find_none_iff.mp absent)
  have own : ({ database with journal := database.journal ++ [row] } : Database Args).journalOf
      row.sagaId = database.journalOf row.sagaId ++ [row] := by
    simp [Database.journalOf]
  apply copies.put
  · intro sagaId apart
    simp [Database.journalOf, apart.symm]
  · rfl
  · rw [own, appended, List.map_append, copies.journal]
    rfl
  · rw [appended, List.map_append, copies.numbered, List.length_append, List.length_singleton,
      List.range'_concat, List.map_singleton]
    congr 1
    rw [show (effectFromPgRow row).seq = row.seq from rfl, seq]
    congr 1
    omega
  · exact clean

end Copies

section Updates

variable {store : Store Args} {database : Database Args} {owner : Uuid} {stepId : String}
  {states : List EffectState} {change : JournalRow Args → JournalRow Args}
  {amend : Effect Args → Effect Args}

structure Amends (change : JournalRow Args → JournalRow Args)
    (amend : Effect Args → Effect Args) : Prop where
  saga : ∀ row, (change row).sagaId = row.sagaId
  record : ∀ row, effectFromPgRow (change row) = amend (effectFromPgRow row)
  step : ∀ effect, (amend effect).stepId = effect.stepId
  seq : ∀ effect, (amend effect).seq = effect.seq

theorem update_returns (copies : Copies store database) (owner : Uuid) (stepId : String)
    (states : List EffectState) (amends : Amends change amend) :
    (database.update owner stepId states change).1.map effectFromPgRow =
      ((store.effects owner.text).rows.find? fun effect =>
        effect.stepId = stepId ∧ effect.state ∈ states).map amend := by
  have record : effectFromPgRow ∘ change = amend ∘ @effectFromPgRow Args := funext amends.record
  rw [Database.update, Option.map_map, record, ← Option.map_map, ← copies.journal,
    Database.journalOf, List.find?_map, List.find?_filter]
  congr 3
  funext row
  rw [Bool.eq_iff_iff, decide_eq_true_iff, decide_eq_true_iff, decide_eq_true_iff]
  exact Iff.and Iff.rfl decide_eq_true_iff.symm

theorem found_in_state {effect : Effect Args}
    (found : store.effect? owner.text stepId = some effect) (legal : effect.state ∈ states) :
    ((store.effects owner.text).rows.find? fun effect =>
      effect.stepId = stepId ∧ effect.state ∈ states) = some effect := by
  have member := Table.find_mem found
  have step : effect.stepId = stepId := Table.find_key found
  cases chosen : (store.effects owner.text).rows.find? fun effect =>
      effect.stepId = stepId ∧ effect.state ∈ states with
  | none => simp_all
  | some other =>
      have holds : other.stepId = stepId ∧ other.state ∈ states := by
        simpa using List.find?_some chosen
      have same := Table.find_of_mem (List.mem_of_find?_eq_some chosen)
      rw [holds.1] at same
      exact same.symm.trans found

theorem update_missing (copies : Copies store database) (amends : Amends change amend)
    (stale : ¬store.grants owner.text stepId states) :
    (database.update owner stepId states change).1 = none := by
  have nobody : ((store.effects owner.text).rows.find? fun effect =>
      effect.stepId = stepId ∧ effect.state ∈ states) = none := by
    rw [List.find?_eq_none]
    intro effect member matched
    have holds : effect.stepId = stepId ∧ effect.state ∈ states := by simpa using matched
    exact stale ⟨effect, holds.1 ▸ Table.find_of_mem member, holds.2⟩
  have returned := update_returns copies owner stepId states amends
  rw [nobody] at returned
  exact Option.map_eq_none_iff.mp returned

theorem journal_of_update (database : Database Args) (owner : Uuid) (stepId : String)
    (states : List EffectState) (amends : Amends change amend) (sagaId : Uuid) :
    (database.update owner stepId states change).2.journalOf sagaId =
      (database.journalOf sagaId).map fun row =>
        if sagaId = owner ∧ row.stepId = stepId ∧ row.state ∈ states then change row else row := by
  simp only [Database.update, Database.journalOf, List.filter_map]
  have kept : (fun row : JournalRow Args => decide (row.sagaId = sagaId)) ∘ (fun row =>
      if decide (row.sagaId = owner ∧ row.stepId = stepId ∧ row.state ∈ states) = true then
        change row else row) = fun row => decide (row.sagaId = sagaId) := by
    funext row
    simp only [Function.comp_apply]
    split
    · rw [amends.saga]
    · rfl
  rw [kept]
  apply List.map_congr_left
  intro row member
  have saga : row.sagaId = sagaId := by simpa using (List.mem_filter.mp member).2
  simp [saga]

theorem update_found (copies : Copies store database) {effect : Effect Args}
    (found : store.effect? owner.text stepId = some effect) (legal : effect.state ∈ states)
    (amends : Amends change amend) :
    (database.update owner stepId states change).1.map effectFromPgRow = some (amend effect) ∧
      Copies (store.putEffect owner.text (amend effect))
        (database.update owner stepId states change).2 := by
  have step : effect.stepId = stepId := Table.find_key found
  have member := Table.find_mem found
  constructor
  · rw [update_returns copies owner stepId states amends, found_in_state found legal]
    rfl
  · have known : (amend effect).stepId ∈ (store.effects owner.text).rows.map Effect.stepId := by
      rw [amends.step]
      exact List.mem_map_of_mem member
    have put := Table.put_rows_known (store.effects owner.text).distinct known
    have own : ((database.update owner stepId states change).2.journalOf owner).map
        effectFromPgRow = Table.putRows Effect.stepId (amend effect)
          (store.effects owner.text).rows := by
      rw [journal_of_update database owner stepId states amends, put, ← copies.journal,
        List.map_map, List.map_map]
      apply List.map_congr_left
      intro row listed
      have filed : store.effect? owner.text row.stepId = some (effectFromPgRow row) := by
        have inside : effectFromPgRow row ∈ (store.effects owner.text).rows := by
          rw [← copies.journal]
          exact List.mem_map_of_mem listed
        exact Table.find_of_mem inside
      simp only [Function.comp_apply, true_and, amends.step, step]
      by_cases same : row.stepId = stepId
      · rw [same, found] at filed
        have record := Option.some.inj filed
        have state : row.state ∈ states := by
          rw [record] at legal
          exact legal
        rw [if_pos ⟨same, state⟩, amends.record, ← record]
        exact (if_pos step).symm
      · rw [if_neg fun both => same both.1]
        exact (if_neg same).symm
    have seqs : (Table.putRows Effect.stepId (amend effect) (store.effects owner.text).rows).map
        Effect.seq = (store.effects owner.text).rows.map Effect.seq := by
      rw [put, List.map_map]
      apply List.map_congr_left
      intro other listed
      simp only [Function.comp_apply, amends.step]
      split
      · rename_i same
        have filed := Table.find_of_mem listed
        rw [same, Table.find_of_mem member] at filed
        rw [amends.seq, Option.some.inj filed]
      · rfl
    apply copies.put
    · intro sagaId apart
      rw [journal_of_update database owner stepId states amends]
      apply (List.map_congr_left _).trans (List.map_id _)
      intro row listed
      exact if_neg fun all => apart all.1
    · rfl
    · exact own
    · rw [seqs, copies.numbered]
      congr 1
      rw [put, List.length_map]
    · rw [amends.step]
      exact copies.clean owner effect member

end Updates

section Backend

def servePostgres [DecidableEq Args] (server : Server Args) (timed : TimedCall Args) (database : Database Args) :
    Except PyError (JournalAnswer Args) × Database Args :=
  match timed.call with
  | .prepareEffect sagaId stepId stepName action compensation key =>
      answering .effect
        (prepareEffect server database sagaId stepId stepName action compensation key)
  | .transitionEffect sagaId stepId expected newState result error =>
      answering .effect
        (transitionEffect server database sagaId stepId expected newState result error)
  | .commitEffect sagaId stepId key =>
      answering .effect (commitEffect database sagaId stepId key)
  | .getEffect sagaId stepId => answering .effect (getEffect database sagaId stepId, database)
  | .getEffects sagaId => (.ok (.effects (getEffects database sagaId)), database)
  | .stepAlreadyCommitted sagaId key =>
      answering .flag (stepAlreadyCommitted database sagaId key, database)

/-- Every value that the call stores fits its column and comes back unchanged,
and a lookup finds the key it asks for and no other. -/
def Fits (server : Server Args) (call : JournalCall Args) (store : Store Args) : Prop :=
  match call with
  | .prepareEffect sagaId stepId stepName action compensation key =>
      store.effect? sagaId.text stepId = none →
        (Clean stepId ∧ Clean stepName ∧ Clean action.toolName ∧ Clean compensation.toolName) ∧
          server.jsonb action.arguments = some action.arguments ∧
          server.jsonb compensation.arguments = some compensation.arguments ∧
          (∀ given, key = some given → Clean given ∧ varchar 128 given = .ok given) ∧
          (store.effects sagaId.text).rows.length < maxInt ∧ server.indexable stepId = true
  | .transitionEffect sagaId stepId expected _ result error =>
      store.grants sagaId.text stepId expected →
        (∀ given, result = some given → server.jsonb given = some given) ∧
          ∀ given, error = some given → Clean given
  | .commitEffect sagaId stepId key =>
      store.grants sagaId.text stepId [.applied] → truthy key = true →
        Clean (key.getD "") ∧ ∃ kept, varchar 128 (key.getD "") = .ok kept
  | .stepAlreadyCommitted sagaId key =>
      Clean key ∧ (key ∈ store.idem sagaId.text ↔
        ∃ given ∈ store.idem sagaId.text, varchar 128 given = .ok key)
  | _ => True

structure Judged [DecidableEq Args] (server : Server Args) (timed : TimedCall Args) (store : Store Args)
    (database : Database Args) : Prop where
  kept : Fits server timed.call store →
    (servePostgres server timed database).1.toOption = (serveMemory timed store).1.toOption ∧
      Copies (serveMemory timed store).2 (servePostgres server timed database).2
  needed : (servePostgres server timed database).1.toOption =
    (serveMemory timed store).1.toOption → Fits server timed.call store

section Judging

variable {server : Server Args} {now : String} {store : Store Args} {database : Database Args}
  {sagaId : Uuid} {stepId : String}

theorem parameter_clean {text : String} (clean : Clean text) : parameter text = .ok text :=
  parameter_ok_iff.mpr ⟨clean, rfl⟩

theorem judged_refused [DecidableEq Args] {timed : TimedCall Args} (copies : Copies store database)
    (fits : Fits server timed.call store)
    (postgres : ∃ refusal, servePostgres server timed database = (.error refusal, database))
    (memory : ∃ refusal, serveMemory timed store = (.error refusal, store)) :
    Judged server timed store database := by
  obtain ⟨first, postgres⟩ := postgres
  obtain ⟨second, memory⟩ := memory
  constructor
  · intro fits
    rw [postgres, memory]
    exact ⟨rfl, copies⟩
  · intro agree
    exact fits

theorem prepare_known [DecidableEq Args] (copies : Copies store database) {existing : Effect Args}
    (found : store.effect? sagaId.text stepId = some existing) (stepName : String)
    (action compensation : ActionPayload Args) (key : Option String) :
    ∃ refusal, prepareEffect server database sagaId stepId stepName action compensation key =
      (if Store.sameEffect existing stepName action compensation key = true then .ok existing
        else .error refusal, database) := by
  have row := copies.row sagaId stepId
  rw [found] at row
  obtain ⟨row, held, record⟩ := Option.map_eq_some_iff.mp row
  have step : existing.stepId = stepId := Table.find_key found
  have clean := parameter_clean (step ▸ copies.clean sagaId existing (Table.find_mem found))
  refine ⟨.journalConflict ("Step identity " ++ sagaId.text ++ "/" ++ stepId ++
    " was reused with a different effect"), ?_⟩
  by_cases same : Store.sameEffect existing stepName action compensation key = true
  · simp [prepareEffect, registerEffect, transaction, clean, held, record, same, bind, Except.bind,
      pure, Except.pure]
  · simp [prepareEffect, registerEffect, transaction, clean, held, record, same, bind, Except.bind,
      throw, throwThe, MonadExceptOf.throw]

/-- The row of a new record, when the columns take every parameter. -/
theorem new_row_ok_iff {stepName : String} {action compensation : ActionPayload Args}
    {key : Option String} {row : JournalRow Args} :
    newRow server database sagaId stepId stepName action compensation key = .ok row ↔
      (Clean stepName ∧ Clean action.toolName ∧ Clean compensation.toolName) ∧
        server.jsonb action.arguments = some row.actionArguments ∧
        server.jsonb compensation.arguments = some row.compensationArguments ∧
        (∀ given, key = some given → Clean given) ∧
        nullableVarchar 128 key = .ok row.idempotencyKey ∧
        row = { row with
          sagaId, stepId, seq := database.nextSeq sagaId, stepName
          actionToolName := action.toolName, compensationToolName := compensation.toolName
          state := .prepared, result := none, error := none } := by
  simp only [newRow, bind_ok_iff, parameter_ok_iff, store_ok_iff, nullable_ok_iff, pure_ok_iff]
  constructor
  · rintro ⟨_, ⟨name, rfl⟩, _, ⟨tool, rfl⟩, arguments, stored, _, ⟨undo, rfl⟩, others, kept, _,
      ⟨clean, rfl⟩, column, fits, rfl⟩
    exact ⟨⟨name, tool, undo⟩, stored, kept, clean, fits, rfl⟩
  · rintro ⟨⟨name, tool, undo⟩, stored, kept, clean, fits, shape⟩
    exact ⟨_, ⟨name, rfl⟩, _, ⟨tool, rfl⟩, _, stored, _, ⟨undo, rfl⟩, _, kept, _, ⟨clean, rfl⟩, _,
      fits, shape.symm⟩

theorem insert_row_ok_iff {row : JournalRow Args} {after : Database Args} :
    database.insertRow server row = .ok after ↔
      (¬∃ other ∈ database.journalOf row.sagaId,
        other.stepId = row.stepId ∨ other.seq = row.seq) ∧
      row.seq ≤ maxInt ∧ server.indexable row.stepId = true ∧
      { database with journal := database.journal ++ [row] } = after := by
  unfold Database.insertRow
  split
  · rename_i taken
    simp_all
  · split
    · rename_i free large
      simp [Nat.not_le.mpr large]
    · split <;> simp_all

/-- No row of the saga has the identity or the number of a new one. -/
theorem Copies.unique (copies : Copies store database)
    (absent : store.effect? sagaId.text stepId = none) :
    ¬∃ other ∈ database.journalOf sagaId,
      other.stepId = stepId ∨ other.seq = database.nextSeq sagaId := by
  intro taken
  obtain ⟨other, member, clash⟩ := taken
  rcases clash with step | seq
  · have record : effectFromPgRow other ∈ (store.effects sagaId.text).rows := by
      rw [← copies.journal]
      exact List.mem_map_of_mem member
    exact Table.find_none_iff.mp absent _ record step
  · have listed := List.mem_map_of_mem (f := JournalRow.seq) member
    rw [copies.seqs, seq, copies.next_seq, List.mem_range'_1] at listed
    omega

theorem transaction_ok_iff {Answer : Type} {body : Except PyError (Answer × Database Args)}
    {answer : Answer} {after : Database Args} :
    transaction database body = (.ok answer, after) ↔ body = .ok (answer, after) := by
  cases body with
  | ok value => simp [transaction, Prod.ext_iff]
  | error error => simp [transaction]

theorem register_new_iff [DecidableEq Args] (copies : Copies store database)
    (absent : store.effect? sagaId.text stepId = none) {stepName : String}
    {action compensation : ActionPayload Args} {key : Option String}
    {answer : Option (Effect Args)} {after : Database Args} :
    registerEffect server database sagaId stepId stepName action compensation key =
        (.ok answer, after) ↔
      answer = none ∧ Clean stepId ∧ ∃ row,
        newRow server database sagaId stepId stepName action compensation key = .ok row ∧
        database.insertRow server row = .ok after := by
  have missing : database.row? sagaId stepId = none :=
    Option.map_eq_none_iff.mp ((copies.row sagaId stepId).trans absent)
  simp only [registerEffect, transaction_ok_iff, bind_ok_iff, parameter_ok_iff]
  constructor
  · rintro ⟨_, ⟨clean, rfl⟩, registered⟩
    simp only [missing, bind_ok_iff, pure_ok_iff, Prod.mk.injEq] at registered
    obtain ⟨row, made, inserted, written, rfl, rfl⟩ := registered
    exact ⟨rfl, clean, row, made, written⟩
  · rintro ⟨rfl, clean, row, made, written⟩
    refine ⟨stepId, ⟨clean, rfl⟩, ?_⟩
    simp only [missing, bind_ok_iff, pure_ok_iff, Prod.mk.injEq]
    exact ⟨row, made, after, written, trivial, rfl⟩

/-- A registration that goes through answers the row it inserted. -/
theorem prepare_new_ok [DecidableEq Args] (copies : Copies store database)
    (absent : store.effect? sagaId.text stepId = none) {stepName : String}
    {action compensation : ActionPayload Args} {key : Option String} {row : JournalRow Args}
    (clean : Clean stepId)
    (made : newRow server database sagaId stepId stepName action compensation key = .ok row)
    (room : (store.effects sagaId.text).rows.length < maxInt)
    (indexed : server.indexable stepId = true) :
    prepareEffect server database sagaId stepId stepName action compensation key =
        (.ok (effectFromPgRow row), { database with journal := database.journal ++ [row] }) ∧
      Copies (store.putEffect sagaId.text (effectFromPgRow row))
        { database with journal := database.journal ++ [row] } := by
  have shape := (new_row_ok_iff.mp made).2.2.2.2.2
  have saga : row.sagaId = sagaId := congrArg JournalRow.sagaId shape
  have step : row.stepId = stepId := congrArg JournalRow.stepId shape
  have seq : row.seq = database.nextSeq sagaId := congrArg JournalRow.seq shape
  subst saga
  subst step
  have inserted : database.insertRow server row =
      .ok { database with journal := database.journal ++ [row] } := by
    rw [insert_row_ok_iff, seq]
    refine ⟨copies.unique absent, ?_, indexed, rfl⟩
    rw [copies.next_seq]
    exact room
  have registered := (register_new_iff copies absent).mpr ⟨rfl, clean, row, made, inserted⟩
  have copied := copies.insert absent (seq.trans (copies.next_seq row.sagaId)) clean
  have own : (store.putEffect row.sagaId.text (effectFromPgRow row)).effect? row.sagaId.text
      row.stepId = some (effectFromPgRow row) := by simp [effectFromPgRow]
  constructor
  · have read := copied.effect row.sagaId row.stepId
    rw [Store.getEffect, own] at read
    rw [prepareEffect, registered]
    simp only [read]
  · exact copied

theorem prepare_new_needs [DecidableEq Args] (copies : Copies store database)
    (absent : store.effect? sagaId.text stepId = none) {stepName : String}
    {action compensation : ActionPayload Args} {key : Option String} {effect : Effect Args}
    (served : (prepareEffect server database sagaId stepId stepName action compensation key).1 =
      .ok effect) :
    Clean stepId ∧ (store.effects sagaId.text).rows.length < maxInt ∧
      server.indexable stepId = true ∧ ∃ row,
      newRow server database sagaId stepId stepName action compensation key = .ok row := by
  cases registered : registerEffect server database sagaId stepId stepName action compensation
      key with
  | mk outcome after =>
      cases outcome with
      | error error => simp [prepareEffect, registered] at served
      | ok answer =>
          obtain ⟨-, clean, row, made, inserted⟩ := (register_new_iff copies absent).mp registered
          have shape := (new_row_ok_iff.mp made).2.2.2.2.2
          have step : row.stepId = stepId := congrArg JournalRow.stepId shape
          have seq : row.seq = database.nextSeq sagaId := congrArg JournalRow.seq shape
          have limits := (insert_row_ok_iff.mp inserted).2
          rw [seq, copies.next_seq, step] at limits
          exact ⟨clean, limits.1, limits.2.1, row, made⟩

theorem judged_prepare [DecidableEq Args] (copies : Copies store database) (stepName : String)
    (action compensation : ActionPayload Args) (key : Option String) :
    Judged server ⟨now, .prepareEffect sagaId stepId stepName action compensation key⟩ store
      database := by
  cases found : store.effect? sagaId.text stepId with
  | some existing =>
      obtain ⟨first, memory⟩ := Store.prepare_effect_known found stepName action compensation key
      have known : ∃ refusal, prepareEffect server database sagaId stepId stepName action
          compensation key = (_, database) :=
        prepare_known copies found stepName action compensation key
      obtain ⟨second, postgres⟩ := known
      constructor
      · intro fits
        simp only [serveMemory, servePostgres, answering, memory, postgres]
        refine ⟨?_, copies⟩
        split <;> rfl
      · intro agree absent
        rw [found] at absent
        cases absent
  | none =>
      have memory := Store.prepare_effect_new found stepName action compensation key
      constructor
      · intro fits
        obtain ⟨⟨step, name, tool, undo⟩, stored, kept, filed, room, indexed⟩ := fits found
        have column : nullableVarchar 128 key = .ok key := by
          cases key with
          | none => rfl
          | some given => simp [nullableVarchar, (filed given rfl).2, Except.map]
        let row : JournalRow Args :=
          { sagaId, stepId, stepName, seq := database.nextSeq sagaId
            actionToolName := action.toolName, actionArguments := action.arguments
            compensationToolName := compensation.toolName
            compensationArguments := compensation.arguments
            idempotencyKey := key, state := .prepared, result := none, error := none }
        have made : newRow server database sagaId stepId stepName action compensation key =
            .ok row := new_row_ok_iff.mpr ⟨⟨name, tool, undo⟩, stored, kept,
              fun given same => (filed given same).1, column, rfl⟩
        have postgres := prepare_new_ok copies found step made room indexed
        have record : effectFromPgRow row =
            store.newEffect sagaId.text stepId stepName action compensation key := by
          simp only [effectFromPgRow, Store.newEffect, row, copies.next_seq]
        rw [record] at postgres
        simp only [serveMemory, servePostgres, answering, memory, postgres.1]
        exact ⟨trivial, postgres.2⟩
      · intro agree absent
        simp only [serveMemory, servePostgres, answering, memory] at agree
        cases served : (prepareEffect server database sagaId stepId stepName action compensation
            key).1 with
        | error error =>
            rw [served] at agree
            simp [Except.map, Except.toOption] at agree
        | ok effect =>
            obtain ⟨step, room, indexed, row, made⟩ := prepare_new_needs copies found served
            have postgres := (prepare_new_ok copies found step made room indexed).1
            obtain ⟨names, stored, kept, clean, column, shape⟩ := new_row_ok_iff.mp made
            rw [postgres] at agree
            have record : effectFromPgRow row =
                store.newEffect sagaId.text stepId stepName action compensation key := by
              simpa [Except.map, Except.toOption] using agree
            have arguments : row.actionArguments = action.arguments :=
              congrArg (fun effect => effect.action.arguments) record
            have inverse : row.compensationArguments = compensation.arguments :=
              congrArg (fun effect => effect.compensation.arguments) record
            have same : row.idempotencyKey = key := congrArg Effect.idempotencyKey record
            rw [arguments] at stored
            rw [inverse] at kept
            rw [same] at column
            refine ⟨⟨step, names⟩, stored, kept, ?_, room, indexed⟩
            intro given equal
            subst equal
            simp only [nullable_varchar_ok_iff, reduceCtorEq, false_and, false_or,
              Option.some.injEq] at column
            obtain ⟨text, cut, rfl, fits, rfl⟩ := column
            exact ⟨clean _ rfl, fits⟩

theorem transition_amends (newState : EffectState) (result : Option Args)
    (error : Option String) :
    Amends (fun row : JournalRow Args => { row with state := newState, result, error })
      fun effect => { effect with state := newState, result, error } := by
  constructor <;> intros <;> rfl

theorem commit_amends :
    Amends (fun row : JournalRow Args => { row with state := .committed })
      fun effect => { effect with state := .committed } := by
  constructor <;> intros <;> rfl

theorem transition_granted (copies : Copies store database) {expected : List EffectState}
    {effect : Effect Args} (found : store.effect? sagaId.text stepId = some effect)
    (legal : effect.state ∈ expected) (newState : EffectState) {result kept : Option Args}
    {error : Option String} (stored : storeOptional server result = .ok kept)
    (clean : nullable error = .ok error) :
    ∃ after, transitionEffect server database sagaId stepId expected newState result error =
        (.ok { effect with state := newState, result := kept, error }, after) ∧
      Copies (store.putEffect sagaId.text
        { effect with state := newState, result := kept, error }) after := by
  have step : effect.stepId = stepId := Table.find_key found
  have known := parameter_clean (step ▸ copies.clean sagaId effect (Table.find_mem found))
  have updated := update_found copies found legal (transition_amends newState kept error)
  obtain ⟨row, returned, record⟩ := Option.map_eq_some_iff.mp updated.1
  refine ⟨_, ?_, updated.2⟩
  rw [transitionEffect, transaction_ok_iff]
  simp only [bind_ok_iff]
  refine ⟨_, stored, _, clean, _, known, ?_⟩
  rw [← record]
  generalize database.update sagaId stepId expected _ = outcome at returned ⊢
  cases outcome
  cases returned
  rfl

theorem transaction_refused {Answer : Type} {body : Except PyError (Answer × Database Args)}
    (never : ∀ value, body ≠ .ok value) :
    ∃ refusal, transaction database body = (.error refusal, database) := by
  cases body with
  | ok value => exact absurd rfl (never value)
  | error refusal => exact ⟨refusal, rfl⟩

theorem transition_stale (copies : Copies store database) {expected : List EffectState}
    (stale : ¬store.grants sagaId.text stepId expected) (newState : EffectState)
    (result : Option Args) (error : Option String) :
    ∃ refusal, transitionEffect server database sagaId stepId expected newState result error =
      (.error refusal, database) := by
  apply transaction_refused
  intro value served
  simp only [bind_ok_iff, parameter_ok_iff] at served
  obtain ⟨result, -, error, -, _, ⟨-, rfl⟩, served⟩ := served
  have missing := update_missing copies (transition_amends newState result error) stale
  generalize database.update sagaId stepId expected _ = outcome at missing served
  cases outcome
  cases missing
  cases served

/-- What a transition that goes through did with its parameters. -/
theorem transition_needs {expected : List EffectState} {newState : EffectState}
    {result : Option Args} {error : Option String} {effect : Effect Args}
    (served : (transitionEffect server database sagaId stepId expected newState result error).1 =
      .ok effect) :
    (∃ kept, storeOptional server result = .ok kept) ∧ nullable error = .ok error := by
  have whole : transitionEffect server database sagaId stepId expected newState result error =
      (.ok effect, _) := Prod.ext served rfl
  rw [transitionEffect, transaction_ok_iff] at whole
  simp only [bind_ok_iff, nullable_ok_iff] at whole
  obtain ⟨kept, stored, _, ⟨clean, rfl⟩, -⟩ := whole
  exact ⟨⟨kept, stored⟩, nullable_ok_iff.mpr ⟨clean, rfl⟩⟩

theorem judged_transition [DecidableEq Args] (copies : Copies store database) (expected : List EffectState)
    (newState : EffectState) (result : Option Args) (error : Option String) :
    Judged server ⟨now, .transitionEffect sagaId stepId expected newState result error⟩ store
      database := by
  by_cases granted : store.grants sagaId.text stepId expected
  · obtain ⟨effect, found, legal⟩ := id granted
    have memory := Store.transition_effect_granted found legal newState result error
    constructor
    · intro fits
      have storable := fits granted
      have stored : storeOptional server result = .ok result := by
        rw [store_optional_ok_iff]
        cases result with
        | none => simp
        | some given => simpa using storable.1 given rfl
      have clean : nullable error = .ok error := nullable_ok_iff.mpr ⟨storable.2, rfl⟩
      obtain ⟨after, postgres, copied⟩ :=
        transition_granted copies found legal newState stored clean
      simp only [serveMemory, servePostgres, answering, memory, postgres]
      exact ⟨trivial, copied⟩
    · intro agree _
      simp only [serveMemory, servePostgres, answering, memory] at agree
      cases served : (transitionEffect server database sagaId stepId expected newState result
          error).1 with
      | error error =>
          rw [served] at agree
          simp [Except.map, Except.toOption] at agree
      | ok answer =>
          obtain ⟨⟨kept, stored⟩, clean⟩ := transition_needs served
          obtain ⟨after, postgres, -⟩ :=
            transition_granted copies found legal newState stored clean
          rw [postgres] at agree
          have same : kept = result := by simpa [Except.map, Except.toOption] using agree
          subst same
          constructor
          · intro given equal
            subst equal
            simpa [store_optional_ok_iff] using stored
          · exact (nullable_ok_iff.mp clean).1
  · have refused : ∃ refusal, transitionEffect server database sagaId stepId expected newState
        result error = (.error refusal, database) :=
      transition_stale copies granted newState result error
    have memory := Store.transition_effect_stale granted newState result error
    apply judged_refused copies
    · intro some_granted
      exact absurd some_granted granted
    · obtain ⟨refusal, refused⟩ := refused
      exact ⟨refusal, by simp only [servePostgres, answering, refused]; rfl⟩
    · obtain ⟨refusal, memory⟩ := memory
      exact ⟨refusal, by simp only [serveMemory, answering, memory]; rfl⟩

section Keys

theorem insert_key_ok_iff {key : String} {after : Database Args} :
    database.insertKey sagaId key = .ok after ↔ Clean key ∧ ∃ stored,
      varchar 128 key = .ok stored ∧
      { database with
        idempotency := if (sagaId, stored) ∈ database.idempotency then database.idempotency
          else database.idempotency ++ [(sagaId, stored)] } = after := by
  simp only [Database.insertKey, bind_ok_iff, parameter_ok_iff, pure_ok_iff]
  constructor
  · rintro ⟨_, ⟨clean, rfl⟩, stored, fits, written⟩
    exact ⟨clean, stored, fits, written⟩
  · rintro ⟨clean, stored, fits, written⟩
    exact ⟨key, ⟨clean, rfl⟩, stored, fits, written⟩

theorem Copies.publish (copies : Copies store database) {key : String} {after : Database Args}
    (inserted : database.insertKey sagaId key = .ok after) :
    Copies (store.markStepCommitted sagaId.text key) after := by
  obtain ⟨-, stored, fits, written⟩ := insert_key_ok_iff.mp inserted
  have rows (other : Uuid) : after.journalOf other = database.journalOf other := by
    rw [← written]
    rfl
  have listed (owner : Uuid) (text : String) : (owner, text) ∈ after.idempotency ↔
      (owner, text) ∈ database.idempotency ∨ owner = sagaId ∧ text = stored := by
    rw [← written]
    by_cases taken : (sagaId, stored) ∈ database.idempotency
    · simp only [if_pos taken]
      constructor
      · exact .inl
      · rintro (old | ⟨rfl, rfl⟩)
        · exact old
        · exact taken
    · simp [if_neg taken]
  constructor
  · intro other
    rw [rows]
    exact copies.journal other
  · exact copies.numbered
  · exact copies.clean
  · intro owner text
    rw [listed, copies.published]
    by_cases same : owner = sagaId
    · subst same
      simp only [Store.markStepCommitted, Function.update_self, Finset.mem_insert, true_and]
      constructor
      · rintro (⟨given, member, cut⟩ | rfl)
        · exact ⟨given, .inr member, cut⟩
        · exact ⟨key, .inl rfl, fits⟩
      · rintro ⟨given, rfl | member, cut⟩
        · rw [fits] at cut
          exact .inr (Except.ok.inj cut).symm
        · exact .inl ⟨given, member, cut⟩
    · simp only [Store.markStepCommitted, Function.update_of_ne (text_apart same), same, false_and,
        or_false]

end Keys

theorem commit_granted (copies : Copies store database) {effect : Effect Args}
    (found : store.effect? sagaId.text stepId = some effect) (legal : effect.state = .applied)
    {key : Option String}
    (storable : truthy key = true →
      Clean (key.getD "") ∧ ∃ kept, varchar 128 (key.getD "") = .ok kept) :
    ∃ after, commitEffect database sagaId stepId key =
        (.ok { effect with state := .committed }, after) ∧
      Copies ((store.putEffect sagaId.text { effect with state := .committed }).publish
        sagaId.text key) after := by
  have step : effect.stepId = stepId := Table.find_key found
  have known := parameter_clean (step ▸ copies.clean sagaId effect (Table.find_mem found))
  have updated := update_found copies found (List.mem_singleton.mpr legal) commit_amends
  obtain ⟨row, returned, record⟩ := Option.map_eq_some_iff.mp updated.1
  have outcome : ∃ moved, database.update sagaId stepId [.applied] (fun row =>
      { row with state := .committed }) = (some row, moved) := ⟨_, Prod.ext returned rfl⟩
  obtain ⟨moved, outcome⟩ := outcome
  have marked := updated.2
  rw [← record, outcome] at marked
  rw [← record]
  simp only [commitEffect, transaction_ok_iff, bind_ok_iff]
  by_cases filled : truthy key = true
  · obtain ⟨clean, kept, fits⟩ := storable filled
    have insertion : ∃ after, moved.insertKey sagaId (key.getD "") = .ok after :=
      ⟨_, insert_key_ok_iff.mpr ⟨clean, kept, fits, rfl⟩⟩
    obtain ⟨after, inserted⟩ := insertion
    refine ⟨after, ⟨_, known, ?_⟩, ?_⟩
    · rw [outcome]
      simp only [if_pos filled]
      rw [inserted]
      rfl
    · rw [Store.publish, if_pos filled]
      exact marked.publish inserted
  · refine ⟨moved, ⟨_, known, ?_⟩, ?_⟩
    · rw [outcome]
      simp only [if_neg filled]
      rfl
    · rw [Store.publish, if_neg filled]
      exact marked

theorem commit_stale (copies : Copies store database)
    (stale : ¬store.grants sagaId.text stepId [.applied]) (key : Option String) :
    ∃ refusal, commitEffect database sagaId stepId key = (.error refusal, database) := by
  apply transaction_refused
  intro value served
  simp only [bind_ok_iff, parameter_ok_iff] at served
  obtain ⟨_, ⟨-, rfl⟩, served⟩ := served
  have missing := update_missing copies commit_amends stale
  generalize database.update sagaId stepId [EffectState.applied] _ = outcome at missing served
  cases outcome
  cases missing
  cases served

theorem commit_needs {key : Option String} {effect : Effect Args}
    (served : (commitEffect database sagaId stepId key).1 = .ok effect)
    (filled : truthy key = true) :
    Clean (key.getD "") ∧ ∃ kept, varchar 128 (key.getD "") = .ok kept := by
  have whole : commitEffect database sagaId stepId key = (.ok effect, _) := Prod.ext served rfl
  simp only [commitEffect, transaction_ok_iff, bind_ok_iff] at whole
  obtain ⟨step, -, served⟩ := whole
  generalize database.update sagaId step [EffectState.applied] _ = outcome at served
  cases outcome with
  | mk row after =>
      cases row with
      | none => cases served
      | some row =>
          simp only [if_pos filled, bind_ok_iff] at served
          obtain ⟨written, inserted, -⟩ := served
          obtain ⟨clean, kept, fits, -⟩ := insert_key_ok_iff.mp inserted
          exact ⟨clean, kept, fits⟩

theorem judged_commit [DecidableEq Args] (copies : Copies store database) (key : Option String) :
    Judged server ⟨now, .commitEffect sagaId stepId key⟩ store database := by
  by_cases granted : store.grants sagaId.text stepId [.applied]
  · obtain ⟨effect, found, legal⟩ := id granted
    have applied := List.mem_singleton.mp legal
    have memory := Store.commit_effect_granted found applied key
    constructor
    · intro fits
      obtain ⟨after, postgres, copied⟩ := commit_granted copies found applied (fits granted)
      simp only [serveMemory, servePostgres, answering, memory, postgres]
      exact ⟨trivial, copied⟩
    · intro agree _ filled
      simp only [serveMemory, servePostgres, answering, memory] at agree
      cases served : (commitEffect database sagaId stepId key).1 with
      | error error =>
          rw [served] at agree
          simp [Except.map, Except.toOption] at agree
      | ok answer => exact commit_needs served filled
  · have refused := commit_stale copies granted key
    have memory := Store.commit_effect_stale granted key
    apply judged_refused copies
    · intro some_granted
      exact absurd some_granted granted
    · obtain ⟨refusal, refused⟩ := refused
      exact ⟨refusal, by simp only [servePostgres, answering, refused]; rfl⟩
    · obtain ⟨refusal, memory⟩ := memory
      exact ⟨refusal, by simp only [serveMemory, answering, memory]; rfl⟩

theorem judged_step_already_committed [DecidableEq Args] (copies : Copies store database)
    (key : String) :
    Judged server ⟨now, .stepAlreadyCommitted sagaId key⟩ store database := by
  have published : (sagaId, key) ∈ database.idempotency ↔ _ := copies.published sagaId key
  constructor
  · intro fits
    have looked : stepAlreadyCommitted database sagaId key =
        .ok (store.stepAlreadyCommitted sagaId.text key) := by
      rw [stepAlreadyCommitted, parameter_clean fits.1, Store.stepAlreadyCommitted]
      simp only [bind, Except.bind, pure, Except.pure, published, ← fits.2]
    simp only [serveMemory, servePostgres, answering, looked]
    exact ⟨rfl, copies⟩
  · intro agree
    simp only [serveMemory, servePostgres, answering] at agree
    cases looked : stepAlreadyCommitted database sagaId key with
    | error error =>
        rw [looked] at agree
        simp [Except.map, Except.toOption] at agree
    | ok flag =>
        rw [looked] at agree
        simp only [stepAlreadyCommitted, bind_ok_iff, parameter_ok_iff, pure_ok_iff] at looked
        obtain ⟨_, ⟨clean, rfl⟩, looked⟩ := looked
        have same : flag = store.stepAlreadyCommitted sagaId.text key := by
          simpa [Except.map, Except.toOption] using agree
        refine ⟨clean, ?_⟩
        rw [← published, ← decide_eq_true_iff (p := (sagaId, key) ∈ database.idempotency), looked,
          same]
        simp [Store.stepAlreadyCommitted]

theorem judged [DecidableEq Args] (copies : Copies store database) (timed : TimedCall Args) :
    Judged server timed store database := by
  obtain ⟨now, call⟩ := timed
  cases call with
  | prepareEffect sagaId stepId stepName action compensation key =>
      exact judged_prepare copies stepName action compensation key
  | transitionEffect sagaId stepId expected newState result error =>
      exact judged_transition copies expected newState result error
  | commitEffect sagaId stepId key => exact judged_commit copies key
  | getEffect sagaId stepId =>
      constructor
      · intro fits
        simp only [serveMemory, servePostgres, copies.effect]
        exact ⟨rfl, copies⟩
      · intro agree
        trivial
  | getEffects sagaId =>
      constructor
      · intro fits
        simp only [serveMemory, servePostgres, copies.effects]
        exact ⟨trivial, copies⟩
      · intro agree
        trivial
  | stepAlreadyCommitted sagaId key => exact judged_step_already_committed copies key

end Judging

/-- The Postgres branches part from the memory branches exactly at calls that do not fit. -/
theorem postgres_mirror [DecidableEq Args] (server : Server Args) :
    Mirror serveMemory (servePostgres server) (fun timed store => Fits server timed.call store)
      Copies where
  kept := fun copies fits => (judged copies _).kept fits
  broken := fun copies unfit agree => unfit ((judged copies _).needed agree)

end Backend

end SagaMind.PostgresStore
