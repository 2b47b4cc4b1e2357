import SagaMind.Foundation.AppendLog
import SagaMind.StateStore.PostgresMirror

/-!
# Clients that write one journal

Any number of clients prepare, move and commit the effects of one saga. In
memory a call is one section under the journal lock; on Postgres it is one
transaction, and a preparation that inserted a row reads it back in another one.
-/

namespace SagaMind

open AppendLog CallProgram KeyedTable

set_option autoImplicit false

variable {Args : Type}

def Effect.core (effect : Effect Args) : Effect Args :=
  { effect with state := .prepared, result := none, error := none }

inductive JournalWrite (Args : Type) where
  | prepare (stepId stepName : String) (action compensation : ActionPayload Args)
      (idempotencyKey : Option String)
  | transition (stepId : String) (expected : List EffectState) (newState : EffectState)
      (result : Option Args) (error : Option String)
  | commit (stepId : String) (idempotencyKey : Option String)

section LockedSections

abbrev lockedFace (Args : Type) : Interface :=
  ⟨JournalWrite Args, fun _ => Effect Args, PyError⟩

/-- The section of a call under `_journal_lock`. -/
def serveLocked [DecidableEq Args] (sagaId : String) (store : Store Args) :
    JournalWrite Args → Except PyError (Effect Args) × Store Args
  | .prepare stepId stepName action compensation key =>
      store.prepareEffect sagaId stepId stepName action compensation key
  | .transition stepId expected newState result error =>
      store.transitionEffect sagaId stepId expected newState result error
  | .commit stepId key => store.commitEffect sagaId stepId key

def lockedClients [DecidableEq Args] (sagaId : String) :
    Setting (lockedFace Args) PyError (Effect Args) Unit Unit (Store Args) where
  admits := fun _ program => ∃ request, program = @Program.perform (lockedFace Args) request
  serve := fun _ request before reply after =>
    serveLocked sagaId before request = (reply, after)
  lose := fun _ before after => after = before
  start := ()
  note := fun _ _ noted => noted
  permits := fun _ _ _ _ => True

def lockedRegisters (event : Event (lockedFace Args)) : Option String :=
  match event.request, event.reply with
  | .prepare stepId _ _ _ _, .ok _ => some stepId
  | _, _ => none

variable {store : Store Args} {sagaId : String} {effect : Effect Args}

/-- A record that is put back with its core leaves the cores alone. -/
theorem cores_put_known (effect : Effect Args) {old : Effect Args}
    (found : store.effect? sagaId effect.stepId = some old) (same : effect.core = old.core) :
    ((store.putEffect sagaId effect).effects sagaId).rows.map Effect.core =
      (store.effects sagaId).rows.map Effect.core := by
  have known : effect.stepId ∈ (store.effects sagaId).rows.map Effect.stepId :=
    List.mem_map.mpr ⟨old, Table.find_mem found, Table.find_key found⟩
  have put : ((store.putEffect sagaId effect).effects sagaId).rows =
      Table.putRows Effect.stepId effect (store.effects sagaId).rows := by
    simp only [Store.putEffect, Function.update_self, Table.put]
  rw [put, Table.put_rows_known (store.effects sagaId).distinct known, List.map_map]
  apply List.map_congr_left
  intro row member
  simp only [Function.comp_apply]
  split
  · rename_i step
    have filed := Table.find_of_mem member
    rw [step] at filed
    have row : row = old := Option.some.inj (filed.symm.trans found)
    rw [row, same]
  · rfl

theorem cores_put_new (absent : store.effect? sagaId effect.stepId = none) :
    ((store.putEffect sagaId effect).effects sagaId).rows.map Effect.core =
      (store.effects sagaId).rows.map Effect.core ++ [effect.core] := by
  have put : ((store.putEffect sagaId effect).effects sagaId).rows =
      ((store.effects sagaId).put effect).rows := by
    simp only [Store.putEffect, Function.update_self]
  rw [put, Table.rows_put_absent absent, List.map_append]
  rfl

theorem step_in_cores {stepId : String} (found : store.effect? sagaId stepId = some effect) :
    stepId ∈ ((store.effects sagaId).rows.map Effect.core).map Effect.stepId := by
  have step : effect.stepId = stepId := Table.find_key found
  rw [List.map_map, ← step]
  exact List.mem_map_of_mem (Table.find_mem found)

theorem locked_step [DecidableEq Args] (request : JournalWrite Args) (store : Store Args) :
    LogStep Effect.stepId Effect.seq
      (lockedRegisters ⟨request, (serveLocked sagaId store request).1⟩)
      ((store.effects sagaId).rows.map Effect.core)
      (((serveLocked sagaId store request).2.effects sagaId).rows.map Effect.core) := by
  have quiet : ∀ key, (none : Option String) = some key →
      key ∈ ((store.effects sagaId).rows.map Effect.core).map Effect.stepId := by
    intro key impossible
    cases impossible
  cases request with
  | prepare stepId stepName action compensation key =>
      rw [serveLocked]
      rcases store.prepare_effect_cases sagaId stepId stepName action compensation key with
        ⟨existing, found, -, served⟩ | ⟨refusal, served⟩ | ⟨entry, absent, shape, served⟩
      · rw [served]
        apply LogStep.keep
        intro step same
        cases same
        exact step_in_cores found
      · rw [served]
        exact .keep quiet
      · have step : entry.stepId = stepId := congrArg Effect.stepId shape
        have seq : entry.seq = (store.effects sagaId).rows.length + 1 :=
          congrArg Effect.seq shape
        have new : store.effect? sagaId entry.stepId = none := step ▸ absent
        have fresh : entry.core.stepId ∉
            ((store.effects sagaId).rows.map Effect.core).map Effect.stepId := by
          rw [List.map_map]
          intro member
          obtain ⟨row, listed, same⟩ := List.mem_map.mp member
          exact Table.find_none_iff.mp new row listed same
        have next : entry.core.seq = ((store.effects sagaId).rows.map Effect.core).length + 1 := by
          rw [List.length_map]
          exact seq
        rw [served, cores_put_new new]
        have grown := LogStep.append fresh next
        rw [show entry.core.stepId = stepId from step] at grown
        exact grown
  | transition stepId expected newState result error =>
      rw [serveLocked]
      rcases store.transition_effect_cases sagaId stepId expected newState result error with
        ⟨entry, found, -, served⟩ | ⟨-, refusal, served⟩
      · have step : entry.stepId = stepId := Table.find_key found
        rw [← step] at found
        have kept := cores_put_known { entry with state := newState, result, error } found rfl
        rw [served]
        simp only [kept]
        exact .keep quiet
      · rw [served]
        exact .keep quiet
  | commit stepId key =>
      rw [serveLocked]
      rcases store.commit_effect_cases sagaId stepId key with
        ⟨entry, found, -, served⟩ | ⟨-, refusal, served⟩
      · have step : entry.stepId = stepId := Table.find_key found
        rw [← step] at found
        have kept := cores_put_known { entry with state := .committed } found rfl
        rw [served]
        simp only [Store.effects_publish, kept]
        exact .keep quiet
      · rw [served]
        exact .keep quiet

def lockedStands (sagaId : String) (store : Store Args) (_notes : List Unit)
    (log : List (Effect Args)) : Prop :=
  (store.effects sagaId).rows.map Effect.core = log

theorem locked_carries [DecidableEq Args] (sagaId : String) :
    Carries (@lockedClients Args _ sagaId) (fun _ _ => True) Effect.stepId Effect.seq
      lockedRegisters (lockedStands sagaId) := by
  constructor
  · exact fun here => here
  · intro shared after left right noted owner request reply log here _ _ served
    change serveLocked sagaId shared request = (reply, after) at served
    have step : LogStep _ _ (lockedRegisters ⟨request, (serveLocked sagaId shared request).1⟩)
        ((shared.effects sagaId).rows.map Effect.core) _ := locked_step request shared
    rw [served, show _ = log from here] at step
    exact ⟨_, rfl, step⟩
  · intro shared after notes survivors owner log here _ lost
    change after = shared at lost
    rw [lost]
    exact here

end LockedSections

section Transactions

inductive JournalTransaction (Args : Type) where
  | register (stepId stepName : String) (action compensation : ActionPayload Args)
      (idempotencyKey : Option String)
  | transition (stepId : String) (expected : List EffectState) (newState : EffectState)
      (result : Option Args) (error : Option String)
  | commit (stepId : String) (idempotencyKey : Option String)
  | getEffect (stepId : String)

abbrev JournalTransaction.Answer : JournalTransaction Args → Type
  | register _ _ _ _ _ => Option (Effect Args)
  | _ => Effect Args

abbrev transactionFace (Args : Type) : Interface :=
  ⟨JournalTransaction Args, JournalTransaction.Answer, PyError⟩

def serveTransaction [DecidableEq Args] (server : PostgresStore.Server Args) (sagaId : Uuid)
    (database : PostgresStore.Database Args) :
    (request : JournalTransaction Args) →
      Except PyError request.Answer × PostgresStore.Database Args
  | .register stepId stepName action compensation key =>
      PostgresStore.registerEffect server database sagaId stepId stepName action compensation key
  | .transition stepId expected newState result error =>
      PostgresStore.transitionEffect server database sagaId stepId expected newState result error
  | .commit stepId key => PostgresStore.commitEffect database sagaId stepId key
  | .getEffect stepId => (PostgresStore.getEffect database sagaId stepId, database)

def transactions : JournalWrite Args → Program (transactionFace Args) PyError (Effect Args)
  | .prepare stepId stepName action compensation key => do
      let existing ← @Program.perform (transactionFace Args)
        (.register stepId stepName action compensation key)
      match existing with
      | some effect => return effect
      | none => @Program.perform (transactionFace Args) (.getEffect stepId)
  | .transition stepId expected newState result error =>
      @Program.perform (transactionFace Args) (.transition stepId expected newState result error)
  | .commit stepId key => @Program.perform (transactionFace Args) (.commit stepId key)

def transactionClients [DecidableEq Args] (server : PostgresStore.Server Args) (sagaId : Uuid) :
    Setting (transactionFace Args) PyError (Effect Args) Unit Unit
      (PostgresStore.Database Args) where
  admits := fun _ program => ∃ write, program = transactions write
  serve := fun _ request before reply after =>
    serveTransaction server sagaId before request = (reply, after)
  lose := fun _ before after => after = before
  start := ()
  note := fun _ _ noted => noted
  permits := fun _ _ _ _ => True

def transactionRegisters (event : Event (transactionFace Args)) : Option String :=
  match event.request, event.reply with
  | .register stepId _ _ _ _, .ok _ => some stepId
  | _, _ => none

variable {database : PostgresStore.Database Args} {sagaId : Uuid}

/-- The rows of the saga stand for the log of their cores, numbered without a gap. -/
structure TableStands (sagaId : Uuid) (database : PostgresStore.Database Args)
    (_notes : List Unit) (log : List (Effect Args)) : Prop where
  cores : (database.journalOf sagaId).map (fun row =>
    (PostgresStore.effectFromPgRow row).core) = log
  numbered : log.map Effect.seq = List.range' 1 log.length

open PostgresStore in
theorem cores_update (database : Database Args) (sagaId : Uuid)
    {change : JournalRow Args → JournalRow Args} {amend : Effect Args → Effect Args} (amends : Amends change amend)
    (kept : ∀ effect, (amend effect).core = effect.core) (stepId : String)
    (states : List EffectState) :
    ((database.update sagaId stepId states change).2.journalOf sagaId).map
        (fun row => (effectFromPgRow row).core) =
      (database.journalOf sagaId).map fun row => (effectFromPgRow row).core := by
  rw [journal_of_update database sagaId stepId states amends, List.map_map]
  apply List.map_congr_left
  intro row _
  simp only [Function.comp_apply]
  split
  · rw [amends.record, kept]
  · rfl

open PostgresStore in
theorem transaction_error {Answer : Type} {body : Except PyError (Answer × Database Args)}
    {error : PyError} {after : Database Args}
    (raised : transaction database body = (.error error, after)) : after = database := by
  cases body with
  | ok value => cases raised
  | error refusal => exact (congrArg Prod.snd raised).symm

open PostgresStore in
theorem transition_cores (server : Server Args) (database : Database Args) (sagaId : Uuid)
    (stepId : String) (expected : List EffectState) (newState : EffectState)
    (result : Option Args) (error : Option String) :
    ((transitionEffect server database sagaId stepId expected newState result error).2.journalOf
        sagaId).map (fun row => (effectFromPgRow row).core) =
      (database.journalOf sagaId).map fun row => (effectFromPgRow row).core := by
  cases served : transitionEffect server database sagaId stepId expected newState result error with
  | mk outcome after =>
      cases outcome with
      | error refusal => rw [transaction_error served]
      | ok answer =>
          rw [transitionEffect, transaction_ok_iff] at served
          simp only [bind_ok_iff, parameter_ok_iff] at served
          obtain ⟨kept, -, text, -, step, ⟨-, rfl⟩, updated⟩ := served
          have cores := cores_update database sagaId (transition_amends newState kept text)
            (fun _ => rfl) stepId expected
          generalize database.update sagaId stepId expected _ = outcome at updated cores
          obtain ⟨found, changed⟩ := outcome
          cases found with
          | none => cases updated
          | some row =>
              cases updated
              exact cores

open PostgresStore in
theorem commit_cores (database : Database Args) (sagaId : Uuid) (stepId : String)
    (key : Option String) :
    ((commitEffect database sagaId stepId key).2.journalOf sagaId).map
        (fun row => (effectFromPgRow row).core) =
      (database.journalOf sagaId).map fun row => (effectFromPgRow row).core := by
  cases served : commitEffect database sagaId stepId key with
  | mk outcome after =>
      cases outcome with
      | error refusal => rw [transaction_error served]
      | ok answer =>
          rw [commitEffect, transaction_ok_iff] at served
          simp only [bind_ok_iff, parameter_ok_iff] at served
          obtain ⟨step, ⟨-, rfl⟩, updated⟩ := served
          have cores := cores_update database sagaId commit_amends (fun _ => rfl) stepId
            [.applied]
          generalize database.update sagaId stepId [.applied] _ = outcome at updated cores
          obtain ⟨found, changed⟩ := outcome
          cases found with
          | none => cases updated
          | some row =>
              simp only at updated
              split at updated
              · simp only [bind_ok_iff, insert_key_ok_iff] at updated
                obtain ⟨published, ⟨-, stored, -, rfl⟩, rest⟩ := updated
                cases rest
                exact cores
              · cases updated
                exact cores

open PostgresStore in
/-- A registration finds its row, is refused, or inserts a row with the next number. -/
theorem register_effect_cases [DecidableEq Args] (server : Server Args)
    (database : Database Args) (sagaId : Uuid) (stepId stepName : String)
    (action compensation : ActionPayload Args) (key : Option String) :
    (∃ row, database.row? sagaId stepId = some row ∧
        registerEffect server database sagaId stepId stepName action compensation key =
          (.ok (some (effectFromPgRow row)), database)) ∨
      (∃ refusal, registerEffect server database sagaId stepId stepName action compensation key =
        (.error refusal, database)) ∨
      ∃ row : JournalRow Args, database.row? sagaId stepId = none ∧ row.sagaId = sagaId ∧
        row.stepId = stepId ∧ row.seq = database.nextSeq sagaId ∧
        registerEffect server database sagaId stepId stepName action compensation key =
          (.ok none, { database with journal := database.journal ++ [row] }) := by
  cases served : registerEffect server database sagaId stepId stepName action compensation key with
  | mk outcome after =>
      cases outcome with
      | error refusal => exact .inr (.inl ⟨refusal, by rw [transaction_error served]⟩)
      | ok answer =>
          rw [registerEffect, transaction_ok_iff] at served
          simp only [bind_ok_iff, parameter_ok_iff] at served
          obtain ⟨step, ⟨-, rfl⟩, registered⟩ := served
          cases found : database.row? sagaId stepId with
          | some row =>
              simp only [found] at registered
              split at registered
              · cases registered
                exact .inl ⟨row, rfl, rfl⟩
              · cases registered
          | none =>
              simp only [found, bind_ok_iff, pure_ok_iff] at registered
              obtain ⟨row, made, inserted, written, same⟩ := registered
              cases same
              have shape := (new_row_ok_iff.mp made).2.2.2.2.2
              have after := (insert_row_ok_iff.mp written).2.2.2
              rw [← after]
              exact .inr (.inr ⟨row, rfl, congrArg JournalRow.sagaId shape,
                congrArg JournalRow.stepId shape, congrArg JournalRow.seq shape, rfl⟩)

open PostgresStore in
theorem stands_seqs {notes : List Unit} {log : List (Effect Args)}
    (stands : TableStands sagaId database notes log) :
    (database.journalOf sagaId).map JournalRow.seq = List.range' 1 log.length := by
  rw [← stands.numbered, ← stands.cores, List.map_map]
  rfl

theorem stands_keys {notes : List Unit} {log : List (Effect Args)}
    (stands : TableStands sagaId database notes log) :
    (database.journalOf sagaId).map PostgresStore.JournalRow.stepId = log.map Effect.stepId := by
  rw [← stands.cores, List.map_map]
  rfl

theorem transaction_step [DecidableEq Args] (server : PostgresStore.Server Args)
    {notes : List Unit} {log : List (Effect Args)} (stands : TableStands sagaId database notes log)
    (request : JournalTransaction Args) :
    ∃ grown, TableStands sagaId (serveTransaction server sagaId database request).2 notes grown ∧
      LogStep Effect.stepId Effect.seq
        (transactionRegisters ⟨request, (serveTransaction server sagaId database request).1⟩)
        log grown := by
  have quiet : ∀ key, (none : Option String) = some key → key ∈ log.map Effect.stepId := by
    intro key impossible
    cases impossible
  cases request with
  | register stepId stepName action compensation key =>
      rw [serveTransaction]
      rcases register_effect_cases server database sagaId stepId stepName action compensation
        key with ⟨row, found, served⟩ | ⟨refusal, served⟩ | ⟨row, absent, saga, step, seq, served⟩
      · rw [served]
        refine ⟨log, stands, .keep ?_⟩
        intro other same
        cases same
        have listed := List.mem_of_find?_eq_some found
        have named : row.stepId = stepId := by simpa using List.find?_some found
        rw [← stands_keys stands, ← named]
        exact List.mem_map_of_mem listed
      · rw [served]
        exact ⟨log, stands, .keep quiet⟩
      · have next : (PostgresStore.effectFromPgRow row).core.seq = log.length + 1 :=
          seq.trans (PostgresStore.next_seq_of_seqs (stands_seqs stands))
        have fresh : (PostgresStore.effectFromPgRow row).core.stepId ∉ log.map Effect.stepId := by
          intro member
          rw [← stands_keys stands] at member
          obtain ⟨other, listed, same⟩ := List.mem_map.mp member
          have named : other.stepId = stepId := same.trans step
          have none := List.find?_eq_none.mp absent other listed
          exact none (decide_eq_true named)
        have grown := LogStep.append fresh next
        rw [show (PostgresStore.effectFromPgRow row).core.stepId = stepId from step] at grown
        rw [served]
        refine ⟨log ++ [(PostgresStore.effectFromPgRow row).core], ⟨?_, ?_⟩, grown⟩
        · have own : PostgresStore.Database.journalOf
              { database with journal := database.journal ++ [row] } sagaId =
              database.journalOf sagaId ++ [row] := by
            simp [PostgresStore.Database.journalOf, saga]
          rw [own, List.map_append, stands.cores]
          rfl
        · exact numbered_snoc stands.numbered next
  | transition stepId expected newState result error =>
      refine ⟨log, ⟨?_, stands.numbered⟩, .keep quiet⟩
      rw [← stands.cores]
      exact transition_cores server database sagaId stepId expected newState result error
  | commit stepId key =>
      refine ⟨log, ⟨?_, stands.numbered⟩, .keep quiet⟩
      rw [← stands.cores]
      exact commit_cores database sagaId stepId key
  | getEffect stepId => exact ⟨log, stands, .keep quiet⟩

theorem transaction_carries [DecidableEq Args] (server : PostgresStore.Server Args)
    (sagaId : Uuid) :
    Carries (transactionClients server sagaId) (fun _ _ => True) Effect.stepId Effect.seq
      transactionRegisters (TableStands sagaId) := by
  constructor
  · exact fun here => ⟨here.cores, here.numbered⟩
  · intro shared after left right noted owner request reply log here _ _ served
    change serveTransaction server sagaId shared request = (reply, after) at served
    obtain ⟨grown, stands, step⟩ := transaction_step server here request
    rw [served] at stands step
    exact ⟨grown, ⟨stands.cores, stands.numbered⟩, step⟩
  · intro shared after notes survivors owner log here _ lost
    change after = shared at lost
    rw [lost]
    exact ⟨here.cores, here.numbered⟩

end Transactions

end SagaMind
