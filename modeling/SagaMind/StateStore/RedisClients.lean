import SagaMind.StateStore.JournalClients
import SagaMind.StateStore.RedisMirror

/-!
# Clients that write one journal on Redis

A client talks to the server in single commands and scripts. A preparation asks
for the length of the list first and registers its record in a script later, so
another client may come in between. The hashes of the saga stand for a log as
long as no registration relies on an outdated length.
-/

namespace SagaMind.RedisStore

open AppendLog CallProgram Redis

set_option autoImplicit false

variable {Args : Type}

section Keys

variable (sagaId : String) {stepId other : String}

theorem effect_key_injective (same : effectKey sagaId stepId = effectKey sagaId other) :
    stepId = other :=
  (String.append_right_inj _).mp same

theorem keys_apart {left right : String} (apart : left ≠ right) :
    "saga:" ++ sagaId ++ left ≠ "saga:" ++ sagaId ++ right := by
  intro same
  exact apart ((String.append_right_inj _).mp same)

theorem effect_key_shape : effectKey sagaId stepId = "saga:" ++ sagaId ++ (":effect:" ++ stepId) := by
  rw [effectKey, ← String.append_assoc]

theorem effects_apart : effectsKey sagaId ≠ effectKey sagaId stepId := by
  rw [effect_key_shape]
  exact keys_apart sagaId (effect_suffix_apart stepId _ (by decide)).symm

theorem idem_apart : idemKey sagaId ≠ effectKey sagaId stepId := by
  rw [effect_key_shape]
  exact keys_apart sagaId (effect_suffix_apart stepId _ (by decide)).symm

theorem idem_effects_apart : idemKey sagaId ≠ effectsKey sagaId :=
  keys_apart sagaId (by decide)

end Keys

section Clients

structure ClientNotes where
  /-- The last length of the list. -/
  length : Nat
  /-- The last record whose state was read. -/
  seen : Option String

def ClientNotes.note : (request : Request Script) → Except Fault request.Answer → ClientNotes →
    ClientNotes
  | .plain (.llen _), .ok length, noted => { noted with length }
  | .plain (.hget key _), .ok (some _), noted => { noted with seen := some key }
  | _, _, noted => noted

/-- When a script registers a record, the list has the length that its client
read, or the record is there already. -/
def Fresh (server : Redis.Server) (_others : List ClientNotes) (noted : ClientNotes)
    (request : Request Script) : Prop :=
  ∀ keys argv, request = .eval .prepare keys argv →
    server.keys (keys.getD 0 "") ≠ none ∨
      (server.list (keys.getD 1 "")).map List.length = .ok noted.length

/-- The calls of a client; `attempts` bounds its loop over `WatchError`s. -/
def IsJournalCall [DecidableEq Args] (wire : Wire Args) (sagaId : String)
    (program : Program (face Script) PyError (Effect Args)) : Prop :=
  (∃ now stepId stepName action compensation key, program =
      prepareEffect wire now sagaId stepId stepName action compensation key) ∨
    (∃ now attempts stepId expected newState result error, program =
      transitionEffect wire now attempts sagaId stepId expected newState result error) ∨
    ∃ now stepId key, program = commitEffect wire now sagaId stepId key

def redisClients [DecidableEq Args] (wire : Wire Args) (sagaId : String)
    (permits : Redis.Server → List ClientNotes → ClientNotes → Request Script → Prop) :
    Setting (face Script) PyError (Effect Args) Unit ClientNotes Redis.Server where
  admits := fun _ program => IsJournalCall wire sagaId program
  serve := fun _ request before reply after =>
    Request.serve Script.body request before = (reply, after)
  lose := fun _ before after => after = before
  start := ⟨0, none⟩
  note := ClientNotes.note
  permits := permits

def scriptRegisters (event : Event (face Script)) : Option String :=
  match event.request, event.reply with
  | .eval .prepare _ argv, .ok _ => some (argv.getD 3 "")
  | _, _ => none

end Clients

section Discipline

def reads : Command → Bool
  | .present _ | .hget _ _ | .hgetall _ | .llen _ | .lrange _ _ _ | .sismember _ _ | .watch _ =>
      true
  | _ => false

theorem reads_keep {command : Command} (reading : reads command = true) (server : Redis.Server) :
    (command.serve server).2 = server := by
  cases command <;> first | rfl | cases reading

def transitionFields (wire : Wire Args) (now : String) (newState : EffectState)
    (result : Option Args) (error : Option String) : List (String × String) :=
  [("state", newState.value), ("result", wire.results.dumps result), ("error", error.getD ""),
    ("updated_at", now)]

def Disciplined (wire : Wire Args) (sagaId : String) : Request Script → ClientNotes → Prop
  | .eval .prepare keys argv, noted =>
      ∃ now stepId stepName action compensation key,
        keys = [effectKey sagaId stepId, effectsKey sagaId] ∧
          argv = flat (registration wire now sagaId stepId stepName action compensation key
            (noted.length + 1))
  | .eval .commit keys argv, _ =>
      ∃ now stepId key, keys = [effectKey sagaId stepId, idemKey sagaId] ∧
        argv = commitArguments now key
  | .plain (.exec key _ entries), noted =>
      noted.seen = some key ∧ ∃ stepId now newState result error,
        key = effectKey sagaId stepId ∧ entries = transitionFields wire now newState result error
  | .plain command, _ => reads command = true

variable [DecidableEq Args] {wire : Wire Args} {sagaId : String}
  {permits : Redis.Server → List ClientNotes → ClientNotes → Request Script → Prop}

theorem wp_asked {command : Command} {noted : ClientNotes}
    {post : command.Answer → ClientNotes → Prop}
    (here : Disciplined wire sagaId (.plain command) noted)
    (next : ∀ answer, post answer (ClientNotes.note (.plain command) (.ok answer) noted)) :
    wp ((redisClients wire sagaId permits).discipline (Disciplined wire sagaId)) (ask command)
      post (fun _ _ => True) noted := by
  refine ⟨here, fun reply after taken => ?_⟩
  change after = ClientNotes.note (.plain command) reply noted at taken
  rw [taken]
  cases reply with
  | ok answer => exact next answer
  | error fault =>
      cases fault
      trivial

theorem wp_evaluated {script : Script} {keys argv : List String} {noted : ClientNotes}
    {post : Nat → ClientNotes → Prop}
    (here : Disciplined wire sagaId (.eval script keys argv) noted)
    (next : ∀ answer, post answer noted) :
    wp ((redisClients wire sagaId permits).discipline (Disciplined wire sagaId))
      (eval script keys argv) post (fun _ _ => True) noted := by
  refine ⟨here, fun reply after taken => ?_⟩
  change after = ClientNotes.note (.eval script keys argv) reply noted at taken
  rw [taken]
  cases reply with
  | ok answer =>
      cases script <;> exact next answer
  | error fault =>
      cases fault
      trivial

theorem read_effects_obeys (stepIds : List String) (noted : ClientNotes) :
    wp ((redisClients wire sagaId permits).discipline (Disciplined wire sagaId))
      (readEffects wire sagaId stepIds) (fun _ _ => True) (fun _ _ => True) noted := by
  induction stepIds generalizing noted with
  | nil => trivial
  | cons stepId rest ih =>
      rw [readEffects, wp_bind]
      apply wp_asked
      · rfl
      intro raw
      rw [wp_bind, wp_outcome]
      cases decodeEffect wire raw with
      | error refusal => trivial
      | ok effect =>
          rw [replied_ok, wp_bind]
          exact wp_mono (ih _) (fun _ _ _ => trivial) fun _ _ _ => trivial

theorem get_effect_obeys (stepId : String) (noted : ClientNotes) :
    wp ((redisClients wire sagaId permits).discipline (Disciplined wire sagaId))
      (getEffect wire sagaId stepId) (fun _ _ => True) (fun _ _ => True) noted := by
  rw [getEffect, wp_bind, getEffects, wp_bind]
  apply wp_asked
  · rfl
  intro stepIds
  apply wp_mono (read_effects_obeys stepIds _)
  · intro effects after _
    split <;> trivial
  · exact fun _ _ _ => trivial

theorem prepare_obeys (now stepId stepName : String) (action compensation : ActionPayload Args)
    (key : Option String) (noted : ClientNotes) :
    (redisClients wire sagaId permits).Obeys (Disciplined wire sagaId)
      (prepareEffect wire now sagaId stepId stepName action compensation key) noted := by
  rw [Setting.Obeys, prepareEffect, wp_bind]
  apply wp_asked
  · rfl
  intro length
  rw [wp_bind]
  apply wp_evaluated
  · exact ⟨now, stepId, stepName, action, compensation, key, rfl, rfl⟩
  intro inserted
  rw [wp_bind]
  apply wp_asked
  · rfl
  intro raw
  rw [wp_bind, wp_outcome]
  cases decodeEffect wire raw with
  | error refusal => trivial
  | ok existing =>
      rw [replied_ok, wp_ite]
      split <;> trivial

theorem watch_loop_obeys (now : String) (attempts : Nat) (stepId : String)
    (expected : List EffectState) (refusal : Option String → PyError) (newState : EffectState)
    (result : Option Args) (error : Option String) (noted : ClientNotes) :
    wp ((redisClients wire sagaId permits).discipline (Disciplined wire sagaId))
      (watchLoop (effectKey sagaId stepId) expected refusal
        (transitionFields wire now newState result error) attempts)
      (fun _ _ => True) (fun _ _ => True) noted := by
  induction attempts generalizing noted with
  | zero => trivial
  | succ attempts ih =>
      rw [watchLoop, wp_bind]
      apply wp_asked
      · rfl
      intro watched
      rw [wp_bind]
      apply wp_asked
      · rfl
      intro current
      rw [wp_ite]
      split
      · trivial
      · rename_i matched
        cases current with
        | none => simp at matched
        | some value =>
            rw [wp_bind]
            apply wp_asked
            · exact ⟨rfl, stepId, now, newState, result, error, rfl, rfl⟩
            intro executed
            rw [wp_ite]
            split
            · trivial
            · exact ih _

theorem transition_obeys (now : String) (attempts : Nat) (stepId : String)
    (expected : List EffectState) (newState : EffectState) (result : Option Args)
    (error : Option String) (noted : ClientNotes) :
    (redisClients wire sagaId permits).Obeys (Disciplined wire sagaId)
      (transitionEffect wire now attempts sagaId stepId expected newState result error) noted := by
  rw [Setting.Obeys, transitionEffect, wp_bind]
  apply wp_mono (watch_loop_obeys now attempts stepId expected _ newState result error noted)
  · exact fun _ after _ => get_effect_obeys stepId after
  · exact fun _ _ _ => trivial

theorem commit_obeys (now stepId : String) (key : Option String) (noted : ClientNotes) :
    (redisClients wire sagaId permits).Obeys (Disciplined wire sagaId)
      (commitEffect wire now sagaId stepId key) noted := by
  rw [Setting.Obeys, commitEffect, wp_bind]
  apply wp_evaluated
  · exact ⟨now, stepId, key, rfl, rfl⟩
  intro ok
  rw [wp_ite]
  split
  · trivial
  · exact get_effect_obeys stepId noted

theorem clients_obey (owner : Unit) (program : Program (face Script) PyError (Effect Args))
    (admitted : (redisClients wire sagaId permits).admits owner program) :
    (redisClients wire sagaId permits).Obeys (Disciplined wire sagaId) program
      (redisClients wire sagaId permits).start := by
  rcases admitted with ⟨now, stepId, stepName, action, compensation, key, rfl⟩ |
    ⟨now, attempts, stepId, expected, newState, result, error, rfl⟩ | ⟨now, stepId, key, rfl⟩
  · exact prepare_obeys now stepId stepName action compensation key _
  · exact transition_obeys now attempts stepId expected newState result error _
  · exact commit_obeys now stepId key _

end Discipline

section Records

structure RecordsHeld (wire : Wire Args) (sagaId : String) (server : Redis.Server)
    (records : List (Effect Args)) : Prop where
  listed : server.list (effectsKey sagaId) = .ok (records.map Effect.stepId)
  distinct : (records.map Effect.stepId).Nodup
  held : HoldsAll wire server sagaId records
  absent : ∀ stepId, stepId ∉ records.map Effect.stepId →
    server.keys (effectKey sagaId stepId) = none
  published : ∃ members, server.set (idemKey sagaId) = .ok members
  plain : ∀ record ∈ records, withoutBlanks record = record

variable {wire : Wire Args} {sagaId : String} {server after : Redis.Server}
  {records : List (Effect Args)}

theorem empty_held (wire : Wire Args) (sagaId : String) : RecordsHeld wire sagaId .empty [] := by
  constructor
  · rfl
  · exact List.nodup_nil
  · exact fun record impossible => absurd impossible List.not_mem_nil
  · exact fun stepId _ => rfl
  · exact ⟨∅, rfl⟩
  · exact fun record impossible => absurd impossible List.not_mem_nil

theorem RecordsHeld.registered (held : RecordsHeld wire sagaId server records) {stepId : String}
    (present : server.keys (effectKey sagaId stepId) ≠ none) :
    stepId ∈ records.map Effect.stepId := by
  by_contra unknown
  exact present (held.absent stepId unknown)

theorem without_blanks_twice (effect : Effect Args) :
    withoutBlanks (withoutBlanks effect) = withoutBlanks effect := by
  have once (given : Option String) :
      (if truthy (if truthy given then given else none) then
        (if truthy given then given else none) else none) =
      if truthy given then given else none := by
    split <;> rfl
  rw [withoutBlanks, withoutBlanks]
  simp only [once]

theorem encodes_without_blanks {raw : String → Option String} {effect : Effect Args}
    (encodes : Encodes wire raw effect) : Encodes wire raw (withoutBlanks effect) := by
  have blank (given : Option String) :
      (if truthy given then given else none).getD "" = given.getD "" := by
    cases given with
    | none => rfl
    | some text =>
        by_cases empty : text = ""
        · simp [truthy, empty]
        · simp [truthy, empty]
  cases encodes
  constructor <;> simp only [withoutBlanks, blank] <;> assumption

theorem same_step {first second : Effect Args} (core : first.core = second.core) :
    first.stepId = second.stepId := by
  have step : first.core.stepId = second.core.stepId := congrArg Effect.stepId core
  exact step

theorem RecordsHeld.same (held : RecordsHeld wire sagaId server records)
    (same : after.keys = server.keys) : RecordsHeld wire sagaId after records := by
  constructor
  · rw [list_congr (congrFun same _)]
    exact held.listed
  · exact held.distinct
  · intro record member
    rw [same]
    exact held.held record member
  · intro stepId unknown
    rw [same]
    exact held.absent stepId unknown
  · rw [set_congr (congrFun same _)]
    exact held.published
  · exact held.plain

theorem RecordsHeld.publish (held : RecordsHeld wire sagaId server records)
    {members : Finset String} (written : after.keys = Function.update server.keys (idemKey sagaId)
      (some (.set members))) : RecordsHeld wire sagaId after records := by
  have others {key : String} (apart : key ≠ idemKey sagaId) : after.keys key = server.keys key := by
    rw [written, Function.update_of_ne apart]
  constructor
  · rw [list_congr (others (idem_effects_apart sagaId).symm)]
    exact held.listed
  · exact held.distinct
  · intro record member
    rw [others (idem_apart sagaId).symm]
    exact held.held record member
  · intro stepId unknown
    rw [others (idem_apart sagaId).symm]
    exact held.absent stepId unknown
  · refine ⟨members, ?_⟩
    rw [Server.set, written, Function.update_self]
  · exact held.plain

theorem RecordsHeld.amend (held : RecordsHeld wire sagaId server records)
    {old entry : Effect Args} {raw : String → Option String} (member : old ∈ records)
    (core : entry.core = old.core) (plain : withoutBlanks entry = entry)
    (encodes : Encodes wire raw entry)
    (written : after.keys = Function.update server.keys (effectKey sagaId entry.stepId)
      (some (.hash raw))) :
    ∃ amended, RecordsHeld wire sagaId after amended ∧
      amended.map Effect.core = records.map Effect.core := by
  have step := same_step core
  have others {key : String} (apart : key ≠ effectKey sagaId entry.stepId) :
      after.keys key = server.keys key := by
    rw [written, Function.update_of_ne apart]
  have cores : ∀ record ∈ records,
      (if record.stepId = entry.stepId then entry else record).core = record.core := by
    intro record listed
    split
    · rename_i same
      have itself := List.inj_on_of_nodup_map held.distinct listed member (same.trans step)
      rw [itself, core]
    · rfl
  have keys : (records.map fun record =>
      if record.stepId = entry.stepId then entry else record).map Effect.stepId =
        records.map Effect.stepId := by
    rw [List.map_map]
    apply List.map_congr_left
    intro record listed
    exact same_step (cores record listed)
  refine ⟨records.map fun record => if record.stepId = entry.stepId then entry else record, ?_, ?_⟩
  · constructor
    · rw [list_congr (others (effects_apart sagaId)), keys]
      exact held.listed
    · rw [keys]
      exact held.distinct
    · intro record listed
      obtain ⟨source, from_records, same⟩ := List.mem_map.mp listed
      rw [← same]
      split
      · exact ⟨raw, by rw [written, Function.update_self], encodes⟩
      · rename_i apart
        have other : effectKey sagaId source.stepId ≠ effectKey sagaId entry.stepId :=
          fun equal => apart (effect_key_injective sagaId equal)
        rw [others other]
        exact held.held source from_records
    · intro stepId unknown
      rw [keys] at unknown
      have other : effectKey sagaId stepId ≠ effectKey sagaId entry.stepId := by
        intro equal
        rw [effect_key_injective sagaId equal, step] at unknown
        exact unknown (List.mem_map_of_mem member)
      rw [others other]
      exact held.absent stepId unknown
    · rw [set_congr (others (idem_apart sagaId))]
      exact held.published
    · intro record listed
      obtain ⟨source, from_records, same⟩ := List.mem_map.mp listed
      rw [← same]
      split
      · exact plain
      · exact held.plain source from_records
  · rw [List.map_map]
    exact List.map_congr_left cores

theorem RecordsHeld.register (held : RecordsHeld wire sagaId server records)
    {entry : Effect Args} {raw : String → Option String}
    (new : entry.stepId ∉ records.map Effect.stepId) (plain : withoutBlanks entry = entry)
    (encodes : Encodes wire raw entry)
    (written : after.keys = Function.update (Function.update server.keys
        (effectKey sagaId entry.stepId) (some (.hash raw))) (effectsKey sagaId)
      (some (.list (records.map Effect.stepId ++ [entry.stepId])))) :
    RecordsHeld wire sagaId after (records ++ [entry]) := by
  have others {key : String} (first : key ≠ effectKey sagaId entry.stepId)
      (second : key ≠ effectsKey sagaId) : after.keys key = server.keys key := by
    rw [written, Function.update_of_ne second, Function.update_of_ne first]
  constructor
  · rw [Server.list, written, Function.update_self, List.map_append]
    rfl
  · rw [List.map_append, List.nodup_append]
    refine ⟨held.distinct, List.nodup_singleton _, ?_⟩
    intro old listed last single same
    rw [same, List.mem_singleton.mp single] at listed
    exact new listed
  · intro record listed
    rcases List.mem_append.mp listed with old | last
    · have apart : record.stepId ≠ entry.stepId := by
        intro same
        rw [← same] at new
        exact new (List.mem_map_of_mem old)
      have other : effectKey sagaId record.stepId ≠ effectKey sagaId entry.stepId :=
        fun equal => apart (effect_key_injective sagaId equal)
      rw [others other (effects_apart sagaId).symm]
      exact held.held record old
    · rw [List.mem_singleton.mp last]
      refine ⟨raw, ?_, encodes⟩
      rw [written, Function.update_of_ne (effects_apart sagaId).symm, Function.update_self]
  · intro stepId unknown
    rw [List.map_append, List.mem_append, not_or] at unknown
    have other : effectKey sagaId stepId ≠ effectKey sagaId entry.stepId := by
      intro equal
      exact unknown.2 (List.mem_singleton.mpr (effect_key_injective sagaId equal))
    rw [others other (effects_apart sagaId).symm]
    exact held.absent stepId unknown.1
  · rw [set_congr (others (idem_apart sagaId) (idem_effects_apart sagaId))]
    exact held.published
  · intro record listed
    rcases List.mem_append.mp listed with old | last
    · exact held.plain record old
    · rw [List.mem_singleton.mp last]
      exact plain

end Records

section Steps

variable {wire : Wire Args} {sagaId : String} {server after : Redis.Server}
  {records : List (Effect Args)} {noted : ClientNotes}

/-- The hashes stand for the log of their cores, and it has what a client has seen. -/
structure ServerStands (wire : Wire Args) (sagaId : String) (server : Redis.Server)
    (notes : List ClientNotes) (log : List (Effect Args)) : Prop where
  records : ∃ records, RecordsHeld wire sagaId server records ∧ records.map Effect.core = log
  seen : ∀ noted ∈ notes, ∀ stepId, noted.seen = some (effectKey sagaId stepId) →
    stepId ∈ log.map Effect.stepId

theorem disciplined_plain {command : Command}
    (here : Disciplined wire sagaId (.plain command) noted) :
    reads command = true ∨ ∃ key watched entries, command = .exec key watched entries ∧
      noted.seen = some key ∧ ∃ stepId now newState result error,
        key = effectKey sagaId stepId ∧ entries = transitionFields wire now newState result error := by
  cases command with
  | exec key watched entries => exact .inr ⟨key, watched, entries, rfl, here⟩
  | _ => exact .inl here

theorem RecordsHeld.behind (held : RecordsHeld wire sagaId server records) {stepId : String}
    (present : server.keys (effectKey sagaId stepId) ≠ none) :
    ∃ record ∈ records, record.stepId = stepId ∧ ∃ raw,
      server.keys (effectKey sagaId stepId) = some (.hash raw) ∧ Encodes wire raw record := by
  obtain ⟨record, member, same⟩ := List.mem_map.mp (held.registered present)
  obtain ⟨raw, found, encodes⟩ := held.held record member
  rw [same] at found
  exact ⟨record, member, same, raw, found, encodes⟩

theorem core_without_blanks {record : Effect Args} (plain : withoutBlanks record = record)
    (state : EffectState) (result : Option Args) (error : Option String) :
    (withoutBlanks { record with state, result, error }).core = record.core := by
  have key : (if truthy record.idempotencyKey then record.idempotencyKey else none) =
      record.idempotencyKey := congrArg Effect.idempotencyKey plain
  simp only [withoutBlanks, Effect.core, key]

/-- A transition rewrites a record or finds that it was written. -/
theorem exec_step (held : RecordsHeld wire sagaId server records) {stepId : String}
    (present : server.keys (effectKey sagaId stepId) ≠ none) (watched : Nat) (now : String)
    (newState : EffectState) (result : Option Args) (error : Option String) :
    ∃ amended, RecordsHeld wire sagaId ((Command.exec (effectKey sagaId stepId) watched
        (transitionFields wire now newState result error)).serve server).2 amended ∧
      amended.map Effect.core = records.map Effect.core := by
  obtain ⟨record, member, same, raw, found, encodes⟩ := held.behind present
  by_cases unchanged : server.writes (effectKey sagaId stepId) = watched
  · have stored := encodes_without_blanks (transition_encodes encodes now newState result error)
    have served : (Command.exec (effectKey sagaId stepId) watched
        (transitionFields wire now newState result error)).serve server =
        (.ok true, server.assign (effectKey sagaId stepId)
          (some (.hash (setFields raw (transitionFields wire now newState result error))))) := by
      simp only [Command.serve, if_pos unchanged, Server.rewrite, hash_of_keys found]
      rfl
    rw [served]
    apply held.amend member (core_without_blanks (held.plain record member) newState result error)
    · exact without_blanks_twice _
    · exact stored
    · rw [← same]
      rfl
  · have served : (Command.exec (effectKey sagaId stepId) watched
        (transitionFields wire now newState result error)).serve server = (.ok false, server) := by
      simp only [Command.serve, if_neg unchanged]
    rw [served]
    exact ⟨records, held, rfl⟩

/-- A commit rewrites a record, and may publish a key, or changes nothing. -/
theorem commit_step (held : RecordsHeld wire sagaId server records) (now stepId : String)
    (key : Option String) :
    ∃ amended, RecordsHeld wire sagaId
        ((Script.commit.body [effectKey sagaId stepId, idemKey sagaId]
          (commitArguments now key)).evaluate Command.serve server).2 amended ∧
      amended.map Effect.core = records.map Effect.core := by
  by_cases present : server.keys (effectKey sagaId stepId) = none
  · have nothing : server.hash (effectKey sagaId stepId) = .ok none := by
      rw [Server.hash, present]
    rw [commit_refused nothing (by simp)]
    exact ⟨records, held, rfl⟩
  · obtain ⟨record, member, same, raw, found, encodes⟩ := held.behind present
    by_cases applied : raw "state" = some ((commitArguments now key).getD 0 "")
    · obtain ⟨members, published⟩ := held.published
      obtain ⟨after, ran, written⟩ := commit_served found (idem_apart sagaId) applied published
      have stored := encodes_without_blanks (commit_encodes encodes now)
      have marked : ∃ amended, RecordsHeld wire sagaId (server.assign (effectKey sagaId stepId)
          (some (.hash (setFields raw [("state", EffectState.committed.value),
            ("updated_at", now)])))) amended ∧
          amended.map Effect.core = records.map Effect.core := by
        apply held.amend member (core_without_blanks (held.plain record member) .committed
          record.result record.error)
        · exact without_blanks_twice _
        · exact stored
        · rw [← same]
          rfl
      obtain ⟨amended, there, cores⟩ := marked
      rw [ran]
      refine ⟨amended, ?_, cores⟩
      by_cases blank : (commitArguments now key).getD 3 "" = ""
      · simp only [if_pos blank] at written
        exact there.same written
      · simp only [if_neg blank] at written
        exact there.publish written
    · rw [commit_refused (hash_of_keys found) applied]
      exact ⟨records, held, rfl⟩

/-- A registration whose length is up to date files its record with the next number. -/
theorem prepare_step (held : RecordsHeld wire sagaId server records)
    (now stepId stepName : String) (action compensation : ActionPayload Args)
    (key : Option String) (length : Nat)
    (fresh : server.keys (effectKey sagaId stepId) ≠ none ∨
      (server.list (effectsKey sagaId)).map List.length = .ok length) :
    ∃ count after grown, (Script.prepare.body [effectKey sagaId stepId, effectsKey sagaId]
        (flat (registration wire now sagaId stepId stepName action compensation key
          (length + 1)))).evaluate Command.serve server = (.ok count, after) ∧
      RecordsHeld wire sagaId after grown ∧
      LogStep Effect.stepId Effect.seq (some stepId) (records.map Effect.core)
        (grown.map Effect.core) := by
  by_cases present : server.keys (effectKey sagaId stepId) = none
  · rcases fresh with there | upToDate
    · exact absurd present there
    · rw [held.listed] at upToDate
      have count : records.length = length := by simpa [Except.map] using upToDate
      let entry : Effect Args :=
        { sagaId, stepId, stepName, action, compensation, idempotencyKey := key
          seq := length + 1, state := .prepared, result := none, error := none }
      have encodes := encodes_without_blanks (registration_encodes wire now entry ⟨rfl, rfl, rfl⟩)
      have new : stepId ∉ records.map Effect.stepId := by
        intro member
        obtain ⟨record, listed, same⟩ := List.mem_map.mp member
        obtain ⟨raw, found, -⟩ := held.held record listed
        rw [same, present] at found
        cases found
      obtain ⟨after, ran, written⟩ := prepare_served ("saga_id", sagaId)
        (registration wire now sagaId stepId stepName action compensation key (length + 1)).tail
        present (effects_apart sagaId) held.listed
      have filed : RecordsHeld wire sagaId after (records ++ [withoutBlanks entry]) :=
        held.register new (without_blanks_twice entry) encodes written
      have fresh : (withoutBlanks entry).core.stepId ∉
          (records.map Effect.core).map Effect.stepId := by
        rw [List.map_map]
        exact new
      have next : (withoutBlanks entry).core.seq = (records.map Effect.core).length + 1 := by
        rw [List.length_map, count]
        rfl
      have grown := LogStep.append fresh next
      refine ⟨1, after, records ++ [withoutBlanks entry], ran, filed, ?_⟩
      rw [List.map_append]
      exact grown
  · obtain ⟨record, member, same, raw, found, -⟩ := held.behind present
    refine ⟨0, server, records, prepare_refused _ found, held, .keep ?_⟩
    intro other equal
    cases equal
    rw [List.map_map, ← same]
    exact List.mem_map_of_mem member

theorem cores_keys (records : List (Effect Args)) :
    (records.map Effect.core).map Effect.stepId = records.map Effect.stepId := by
  rw [List.map_map]
  rfl

theorem note_seen (held : RecordsHeld wire sagaId server records) {request : Request Script}
    {reply : Except Fault request.Answer}
    (served : Request.serve Script.body request server = (reply, after)) {stepId : String}
    (seen : (ClientNotes.note request reply noted).seen = some (effectKey sagaId stepId)) :
    noted.seen = some (effectKey sagaId stepId) ∨ stepId ∈ records.map Effect.stepId := by
  cases request with
  | eval script keys argv => exact .inl seen
  | plain command =>
      cases command with
      | hget key field =>
          cases reply with
          | error fault => exact .inl seen
          | ok value =>
              cases value with
              | none => exact .inl seen
              | some text =>
                  right
                  have same : key = effectKey sagaId stepId := Option.some.inj seen
                  apply held.registered
                  intro absent
                  rw [same] at served
                  have nothing : server.hash (effectKey sagaId stepId) = .ok none := by
                    rw [Server.hash, absent]
                  simp only [Request.serve, Command.serve, nothing] at served
                  cases served
      | llen key =>
          cases reply <;> exact .inl seen
      | _ => exact .inl seen

theorem request_step (held : RecordsHeld wire sagaId server records) {others : List ClientNotes}
    {request : Request Script} {reply : Except Fault request.Answer}
    (permission : Disciplined wire sagaId request noted)
    (fresh : Fresh server others noted request)
    (known : ∀ stepId, noted.seen = some (effectKey sagaId stepId) →
      stepId ∈ records.map Effect.stepId)
    (served : Request.serve Script.body request server = (reply, after)) :
    ∃ grown, RecordsHeld wire sagaId after grown ∧
      LogStep Effect.stepId Effect.seq (scriptRegisters ⟨request, reply⟩)
        (records.map Effect.core) (grown.map Effect.core) := by
  have quiet : ∀ key, (none : Option String) = some key →
      key ∈ (records.map Effect.core).map Effect.stepId := by
    intro key impossible
    cases impossible
  cases request with
  | plain command =>
      have state : (command.serve server).2 = after := congrArg Prod.snd served
      rcases disciplined_plain permission with reading | writing
      · rw [reads_keep reading] at state
        rw [← state]
        exact ⟨records, held, .keep quiet⟩
      · obtain ⟨key, watched, entries, rfl, seen, stepId, now, newState, result, error, rfl, rfl⟩ :=
          writing
        obtain ⟨record, member, same⟩ := List.mem_map.mp (known stepId seen)
        have present : server.keys (effectKey sagaId stepId) ≠ none := by
          obtain ⟨raw, found, -⟩ := held.held record member
          rw [← same, found]
          exact Option.some_ne_none _
        obtain ⟨amended, there, cores⟩ :=
          exec_step held present watched now newState result error
        rw [state] at there
        refine ⟨amended, there, ?_⟩
        rw [cores]
        exact .keep quiet
  | eval script keys argv =>
      cases script with
      | prepare =>
          obtain ⟨now, stepId, stepName, action, compensation, key, rfl, rfl⟩ := permission
          obtain ⟨count, next, grown, ran, there, step⟩ := prepare_step held now stepId stepName
            action compensation key noted.length (fresh _ _ rfl)
          have same : (Except.ok count, next) = (reply, after) := ran.symm.trans served
          cases same
          exact ⟨grown, there, step⟩
      | commit =>
          obtain ⟨now, stepId, key, rfl, rfl⟩ := permission
          obtain ⟨amended, there, cores⟩ := commit_step held now stepId key
          have state : ((Script.commit.body [effectKey sagaId stepId, idemKey sagaId]
              (commitArguments now key)).evaluate Command.serve server).2 = after :=
            congrArg Prod.snd served
          rw [state] at there
          refine ⟨amended, there, ?_⟩
          rw [cores]
          exact .keep quiet

theorem server_carries [DecidableEq Args] (wire : Wire Args) (sagaId : String) :
    Carries (redisClients wire sagaId Fresh) (Disciplined wire sagaId) Effect.stepId Effect.seq
      scriptRegisters (ServerStands wire sagaId) := by
  constructor
  · intro shared notes log here
    refine ⟨here.records, ?_⟩
    intro noted member stepId seen
    rcases List.mem_append.mp member with old | new
    · exact here.seen noted old stepId seen
    · rw [List.mem_singleton.mp new] at seen
      cases seen
  · intro shared after left right noted owner request reply log here permission permitted served
    obtain ⟨records, held, cores⟩ := here.records
    have known : ∀ stepId, noted.seen = some (effectKey sagaId stepId) →
        stepId ∈ records.map Effect.stepId := by
      intro stepId seen
      have member := here.seen noted List.mem_append_cons_self stepId seen
      rw [← cores, cores_keys] at member
      exact member
    have fresh : Fresh shared (left ++ right) noted request := permitted
    have stepped := request_step held permission fresh known served
    obtain ⟨grown, there, step⟩ := stepped
    refine ⟨grown.map Effect.core, ⟨⟨grown, there, rfl⟩, ?_⟩, cores ▸ step⟩
    have more : ∀ stepId ∈ log.map Effect.stepId,
        stepId ∈ (grown.map Effect.core).map Effect.stepId := by
      intro stepId member
      rw [← cores] at member
      exact ((step_extends step).map Effect.stepId).subset member
    apply Setting.every_replaced
    · exact fun other member stepId seen => more stepId (here.seen other member stepId seen)
    · intro stepId seen
      rcases note_seen held served seen with old | found
      · exact more stepId (here.seen noted List.mem_append_cons_self stepId old)
      · rw [← cores_keys, cores] at found
        exact more stepId found
  · intro shared after notes survivors owner log here sublist lost
    change after = shared at lost
    rw [lost]
    exact ⟨here.records, fun noted member => here.seen noted (sublist.subset member)⟩

end Steps

end SagaMind.RedisStore
