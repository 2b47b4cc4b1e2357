import SagaMind.StateStore.JournalCalls
import SagaMind.StateStore.RedisRecords

/-!
# The Redis journal mirrors the memory journal

The server holds each record of the memory branch in its hash, the identities
of a saga in their list and the published keys in a set. Every granted call
keeps this; what a caller reads are the records without blanks, so the two
branches part exactly when a call stores an empty key or an empty error.
-/

namespace SagaMind.RedisStore

open Backends CallProgram KeyedTable Redis Store

set_option autoImplicit false

variable {Args : Type}

section Slots

inductive Slot where
  | effect (sagaId : Uuid) (stepId : String)
  | effects (sagaId : Uuid)
  | idem (sagaId : Uuid)

def Slot.key : Slot → String
  | .effect sagaId stepId => effectKey sagaId.text stepId
  | .effects sagaId => effectsKey sagaId.text
  | .idem sagaId => idemKey sagaId.text

def Slot.suffix : Slot → String
  | .effect _ stepId => ":effect:" ++ stepId
  | .effects _ => ":effects"
  | .idem _ => ":idem"

def Slot.sagaId : Slot → Uuid
  | .effect sagaId _ => sagaId
  | .effects sagaId => sagaId
  | .idem sagaId => sagaId

theorem slot_key_shape (slot : Slot) :
    slot.key = "saga:" ++ (slot.sagaId.text ++ slot.suffix) := by
  cases slot <;>
    simp only [Slot.key, effectKey, effectsKey, idemKey, Slot.sagaId, Slot.suffix,
      String.append_assoc]

theorem uuid_length (sagaId : Uuid) : sagaId.text.toList.length = 36 := by
  have canonical := sagaId.canonical
  simp only [isUuid, Bool.decide_and, Bool.and_eq_true, decide_eq_true_eq] at canonical
  exact canonical.1

theorem uuid_text_injective : Function.Injective Uuid.text := by
  intro left right same
  cases left
  cases right
  cases same
  rfl

theorem effect_suffix_apart (stepId other : String) (apart : (":effect:".toList).isPrefixOf
    other.toList = false) : ":effect:" ++ stepId ≠ other := by
  intro same
  rw [← same, String.toList_append] at apart
  simp at apart

theorem slot_determined {left right : Slot} (saga : left.sagaId = right.sagaId)
    (suffix : left.suffix = right.suffix) : left = right := by
  have effects (stepId : String) : ":effect:" ++ stepId ≠ ":effects" :=
    effect_suffix_apart stepId _ (by decide)
  have idem (stepId : String) : ":effect:" ++ stepId ≠ ":idem" :=
    effect_suffix_apart stepId _ (by decide)
  have apart : ":effects" ≠ ":idem" := by decide
  cases left with
  | effect sagaId stepId =>
      cases right with
      | effect other otherStep =>
          have step : stepId = otherStep := (String.append_right_inj _).mp suffix
          rw [step]
          exact congrArg (Slot.effect · otherStep) saga
      | effects other => exact absurd suffix (effects stepId)
      | idem other => exact absurd suffix (idem stepId)
  | effects sagaId =>
      cases right with
      | effect other otherStep => exact absurd suffix.symm (effects otherStep)
      | effects other => exact congrArg Slot.effects saga
      | idem other => exact absurd suffix apart
  | idem sagaId =>
      cases right with
      | effect other otherStep => exact absurd suffix.symm (idem otherStep)
      | effects other => exact absurd suffix.symm apart
      | idem other => exact congrArg Slot.idem saga

theorem slot_key_injective : Function.Injective Slot.key := by
  intro left right same
  rw [slot_key_shape, slot_key_shape, String.append_right_inj] at same
  have chars := congrArg String.toList same
  rw [String.toList_append, String.toList_append] at chars
  have parts := List.append_inj chars
    ((uuid_length left.sagaId).trans (uuid_length right.sagaId).symm)
  have saga := uuid_text_injective (String.toList_injective parts.1)
  exact slot_determined saga (String.toList_injective parts.2)

theorem slot_key_apart {left right : Slot} (apart : left ≠ right) : left.key ≠ right.key := by
  intro same
  exact apart (slot_key_injective same)

end Slots

section Mirrors

def Holds (wire : Wire Args) : Option (Effect Args) → Option Value → Prop
  | none, value => value = none
  | some effect, value => ∃ raw, value = some (.hash raw) ∧ Encodes wire raw effect

structure Mirrors (wire : Wire Args) (store : Store Args) (server : Redis.Server) : Prop where
  records : ∀ sagaId stepId, Holds wire (store.effect? sagaId.text stepId)
    (server.keys (Slot.effect sagaId stepId).key)
  listed : ∀ sagaId, server.list (Slot.effects sagaId).key =
    .ok ((store.effects sagaId.text).rows.map Effect.stepId)
  published : ∀ sagaId, server.set (Slot.idem sagaId).key = .ok (store.idem sagaId.text)

def Plain (store : Store Args) : Prop :=
  ∀ sagaId, ∀ effect ∈ (store.effects sagaId).rows,
    effect.idempotencyKey ≠ some "" ∧ effect.error ≠ some ""

variable {wire : Wire Args} {store : Store Args} {server after : Redis.Server}

theorem empty_mirrors (wire : Wire Args) : Mirrors wire (Store.empty : Store Args) .empty := by
  constructor <;> intros <;> rfl

theorem Mirrors.found (mirrors : Mirrors wire store server) {sagaId : Uuid} {stepId : String}
    {effect : Effect Args} (found : store.effect? sagaId.text stepId = some effect) :
    ∃ raw, server.keys (Slot.effect sagaId stepId).key = some (.hash raw) ∧
      Encodes wire raw effect := by
  have holds := mirrors.records sagaId stepId
  rw [found] at holds
  exact holds

theorem Mirrors.absent (mirrors : Mirrors wire store server) {sagaId : Uuid} {stepId : String}
    (absent : store.effect? sagaId.text stepId = none) :
    server.keys (Slot.effect sagaId stepId).key = none := by
  have holds := mirrors.records sagaId stepId
  rw [absent] at holds
  exact holds

theorem list_congr {key : String} (same : after.keys key = server.keys key) :
    after.list key = server.list key := by
  simp only [Server.list, same]

theorem set_congr {key : String} (same : after.keys key = server.keys key) :
    after.set key = server.set key := by
  simp only [Server.set, same]

theorem Mirrors.records_put (mirrors : Mirrors wire store server) {owner : Uuid}
    {entry : Effect Args} {raw : String → Option String} (encodes : Encodes wire raw entry)
    (written : after.keys (Slot.effect owner entry.stepId).key = some (.hash raw))
    (others : ∀ sagaId stepId, Slot.effect sagaId stepId ≠ .effect owner entry.stepId →
      after.keys (Slot.effect sagaId stepId).key = server.keys (Slot.effect sagaId stepId).key)
    (sagaId : Uuid) (stepId : String) :
    Holds wire ((store.putEffect owner.text entry).effect? sagaId.text stepId)
      (after.keys (Slot.effect sagaId stepId).key) := by
  rw [effect_put_effect]
  by_cases own : sagaId = owner ∧ entry.stepId = stepId
  · obtain ⟨rfl, rfl⟩ := own
    rw [if_pos ⟨rfl, rfl⟩]
    exact ⟨raw, written, encodes⟩
  · have text : ¬(sagaId.text = owner.text ∧ entry.stepId = stepId) := by
      intro same
      exact own ⟨uuid_text_injective same.1, same.2⟩
    have apart : Slot.effect sagaId stepId ≠ .effect owner entry.stepId := by
      intro same
      injection same with saga step
      exact own ⟨saga, step.symm⟩
    rw [if_neg text, others sagaId stepId apart]
    exact mirrors.records sagaId stepId

theorem Mirrors.amend (mirrors : Mirrors wire store server) {owner : Uuid}
    {old entry : Effect Args} {raw : String → Option String}
    (found : store.effect? owner.text entry.stepId = some old) (encodes : Encodes wire raw entry)
    (written : after.keys = Function.update server.keys
      (Slot.effect owner entry.stepId).key (some (.hash raw))) :
    Mirrors wire (store.putEffect owner.text entry) after := by
  have others (slot : Slot) (apart : slot ≠ .effect owner entry.stepId) :
      after.keys slot.key = server.keys slot.key := by
    rw [written, Function.update_of_ne (slot_key_apart apart)]
  constructor
  · apply mirrors.records_put encodes
    · rw [written, Function.update_self]
    · intro sagaId stepId apart
      exact others _ apart
  · intro sagaId
    rw [list_congr (others (.effects sagaId) (by simp)), mirrors.listed]
    by_cases same : sagaId.text = owner.text
    · have member : entry.stepId ∈ (store.effects owner.text).rows.map Effect.stepId :=
        List.mem_map.mpr ⟨old, Table.find_mem found, Table.find_key found⟩
      have kept : (Table.putRows Effect.stepId entry (store.effects owner.text).rows).map
          Effect.stepId = _ := Table.put_rows_keys entry (store.effects owner.text).rows
      rw [if_pos member] at kept
      rw [same]
      simp only [putEffect, Function.update_self, Table.put, kept]
    · simp only [putEffect, Function.update_of_ne same]
  · intro sagaId
    rw [set_congr (others (.idem sagaId) (by simp))]
    exact mirrors.published sagaId

theorem Mirrors.register (mirrors : Mirrors wire store server) {owner : Uuid}
    {entry : Effect Args} {raw : String → Option String}
    (absent : store.effect? owner.text entry.stepId = none) (encodes : Encodes wire raw entry)
    (written : after.keys = Function.update (Function.update server.keys
        (Slot.effect owner entry.stepId).key (some (.hash raw))) (Slot.effects owner).key
      (some (.list ((store.effects owner.text).rows.map Effect.stepId ++ [entry.stepId])))) :
    Mirrors wire (store.putEffect owner.text entry) after := by
  have others (slot : Slot) (first : slot ≠ .effect owner entry.stepId)
      (second : slot ≠ .effects owner) : after.keys slot.key = server.keys slot.key := by
    rw [written, Function.update_of_ne (slot_key_apart second),
      Function.update_of_ne (slot_key_apart first)]
  have appended : ((store.effects owner.text).put entry).rows =
      (store.effects owner.text).rows ++ [entry] := Table.rows_put_absent absent
  constructor
  · apply mirrors.records_put encodes
    · rw [written, Function.update_of_ne (slot_key_apart (by simp)), Function.update_self]
    · intro sagaId stepId apart
      exact others _ apart (by simp)
  · intro sagaId
    by_cases same : sagaId = owner
    · subst same
      simp only [Server.list, written, Function.update_self, putEffect, appended, List.map_append,
        List.map_cons, List.map_nil]
    · have text : sagaId.text ≠ owner.text := fun equal => same (uuid_text_injective equal)
      have apart : Slot.effects sagaId ≠ .effects owner := by simpa using same
      rw [list_congr (others (.effects sagaId) (by simp) apart), mirrors.listed]
      simp only [putEffect, Function.update_of_ne text]
  · intro sagaId
    rw [set_congr (others (.idem sagaId) (by simp) (by simp))]
    exact mirrors.published sagaId

theorem Mirrors.mark (mirrors : Mirrors wire store server) {owner : Uuid} {key : String}
    (written : after.keys = Function.update server.keys (Slot.idem owner).key
      (some (.set (insert key (store.idem owner.text))))) :
    Mirrors wire (store.markStepCommitted owner.text key) after := by
  have others (slot : Slot) (apart : slot ≠ .idem owner) :
      after.keys slot.key = server.keys slot.key := by
    rw [written, Function.update_of_ne (slot_key_apart apart)]
  constructor
  · intro sagaId stepId
    rw [others (.effect sagaId stepId) (by simp)]
    exact mirrors.records sagaId stepId
  · intro sagaId
    rw [list_congr (others (.effects sagaId) (by simp))]
    exact mirrors.listed sagaId
  · intro sagaId
    by_cases same : sagaId = owner
    · subst same
      simp only [Server.set, written, Function.update_self, markStepCommitted]
    · have text : sagaId.text ≠ owner.text := fun equal => same (uuid_text_injective equal)
      have apart : Slot.idem sagaId ≠ .idem owner := by simpa using same
      rw [set_congr (others (.idem sagaId) apart), mirrors.published]
      simp only [markStepCommitted, Function.update_of_ne text]

theorem Mirrors.publish (mirrors : Mirrors wire store server) {owner : Uuid}
    {key : Option String}
    (written : after.keys = if key.getD "" = "" then server.keys
      else Function.update server.keys (Slot.idem owner).key
        (some (.set (insert (key.getD "") (store.idem owner.text))))) :
    Mirrors wire (store.publish owner.text key) after := by
  by_cases blank : key.getD "" = ""
  · have quiet : truthy key = false := by
      cases key with
      | none => rfl
      | some key => simpa [truthy] using blank
    rw [if_pos blank] at written
    rw [Store.publish, quiet]
    constructor
    · intro sagaId stepId
      rw [written]
      exact mirrors.records sagaId stepId
    · intro sagaId
      rw [list_congr (congrFun written _)]
      exact mirrors.listed sagaId
    · intro sagaId
      rw [set_congr (congrFun written _)]
      exact mirrors.published sagaId
  · have filled : truthy key = true := by
      cases key with
      | none => exact absurd rfl blank
      | some key => simpa [truthy] using blank
    rw [if_neg blank] at written
    rw [Store.publish, filled]
    exact mirrors.mark written

end Mirrors

section Reading

variable {wire : Wire Args} {store : Store Args} {server : Redis.Server}

theorem Mirrors.held (mirrors : Mirrors wire store server) (sagaId : Uuid) :
    HoldsAll wire server sagaId.text (store.effects sagaId.text).rows := by
  intro effect member
  exact mirrors.found (Table.find_of_mem member)

theorem Mirrors.effects_served (mirrors : Mirrors wire store server) (sagaId : Uuid) :
    (getEffects wire sagaId.text).evaluate (Request.serve Script.body) server =
      (.ok ((store.effects sagaId.text).rows.map withoutBlanks), server) :=
  get_effects_served (mirrors.listed sagaId) (mirrors.held sagaId)

theorem Mirrors.effect_served (mirrors : Mirrors wire store server) {sagaId : Uuid}
    {stepId : String} {effect : Effect Args}
    (found : store.effect? sagaId.text stepId = some effect) :
    (getEffect wire sagaId.text stepId).evaluate (Request.serve Script.body) server =
      (.ok (withoutBlanks effect), server) :=
  get_effect_served (mirrors.listed sagaId) (mirrors.held sagaId) found

theorem Mirrors.effect_refused (mirrors : Mirrors wire store server) {sagaId : Uuid}
    {stepId : String} (absent : store.effect? sagaId.text stepId = none) :
    (getEffect wire sagaId.text stepId).evaluate (Request.serve Script.body) server =
      (.error (unknownEffect sagaId.text stepId), server) :=
  get_effect_refused (mirrors.listed sagaId) (mirrors.held sagaId) absent

theorem Mirrors.state_read (mirrors : Mirrors wire store server) (sagaId : Uuid)
    (stepId : String) :
    ∃ held, server.hash (Slot.effect sagaId stepId).key = .ok held ∧
      (held.bind fun raw => raw "state") =
        (store.effect? sagaId.text stepId).map fun effect => effect.state.value := by
  cases found : store.effect? sagaId.text stepId with
  | none =>
      refine ⟨none, ?_, rfl⟩
      rw [Server.hash, mirrors.absent found]
  | some effect =>
      obtain ⟨raw, held, encodes⟩ := mirrors.found found
      exact ⟨some raw, hash_of_keys held, encodes.state⟩

end Reading

section Calls

variable {wire : Wire Args} {store : Store Args} {server : Redis.Server}

theorem llen_served (mirrors : Mirrors wire store server) (sagaId : Uuid) :
    (ask (.llen (effectsKey sagaId.text))).evaluate (Request.serve Script.body) server =
      (.ok (store.effects sagaId.text).rows.length, server) := by
  have listed : server.list (effectsKey sagaId.text) = _ := mirrors.listed sagaId
  apply ask_served
  simp only [Command.serve, listed, Except.map, List.length_map]

theorem prepare_known [DecidableEq Args] (mirrors : Mirrors wire store server) (now : String)
    {sagaId : Uuid} {stepId : String} {existing : Effect Args}
    (found : store.effect? sagaId.text stepId = some existing)
    (stepName : String) (action compensation : ActionPayload Args) (key : Option String) :
    ∃ refusal, (prepareEffect wire now sagaId.text stepId stepName action compensation
        key).evaluate (Request.serve Script.body) server =
      (if sameEffect (withoutBlanks existing) stepName action compensation key = true then
        .ok (withoutBlanks existing) else .error refusal, server) := by
  obtain ⟨raw, held, encodes⟩ := mirrors.found found
  have decoded : (Program.ended (decodeEffect wire (some raw)) :
      Program (face Script) PyError _).evaluate (Request.serve Script.body) server =
        (.ok (withoutBlanks existing), server) := by
    rw [decode_encodes encodes]
    rfl
  refine ⟨.journalConflict ("Step identity " ++ sagaId.text ++ "/" ++ stepId ++
    " was reused with a different effect"), ?_⟩
  refine (Program.evaluate_bind_ok (llen_served mirrors sagaId)).trans ?_
  refine (Program.evaluate_bind_ok (eval_served (prepare_refused _ held))).trans ?_
  refine (Program.evaluate_bind_ok (hgetall_served held)).trans ?_
  refine (Program.evaluate_bind_ok decoded).trans ?_
  by_cases same : sameEffect (withoutBlanks existing) stepName action compensation key = true
  · rw [if_neg (by simp [same]), if_pos same]
    rfl
  · rw [if_pos ⟨rfl, same⟩, if_neg same]
    rfl

theorem prepare_new [DecidableEq Args] (mirrors : Mirrors wire store server) (now : String)
    {sagaId : Uuid} {entry : Effect Args}
    (absent : store.effect? sagaId.text entry.stepId = none) (owner : entry.sagaId = sagaId.text)
    (seq : entry.seq = (store.effects sagaId.text).rows.length + 1)
    (fresh : entry.state = .prepared ∧ entry.result = none ∧ entry.error = none) :
    ∃ after, (prepareEffect wire now sagaId.text entry.stepId entry.stepName entry.action
        entry.compensation entry.idempotencyKey).evaluate (Request.serve Script.body) server =
        (.ok (withoutBlanks entry), after) ∧
      Mirrors wire (store.putEffect sagaId.text entry) after := by
  have encodes := registration_encodes wire now entry fresh
  rw [owner, seq] at encodes
  have free : server.keys (effectKey sagaId.text entry.stepId) = none := mirrors.absent absent
  have apart : (Slot.effects sagaId).key ≠ (Slot.effect sagaId entry.stepId).key :=
    slot_key_apart (by simp)
  obtain ⟨after, ran, written⟩ := prepare_served ("saga_id", sagaId.text)
    (registration wire now sagaId.text entry.stepId entry.stepName entry.action
      entry.compensation entry.idempotencyKey
      ((store.effects sagaId.text).rows.length + 1)).tail free apart (mirrors.listed sagaId)
  have registered := mirrors.register absent encodes written
  have own : (store.putEffect sagaId.text entry).effect? sagaId.text entry.stepId =
      some entry := by simp
  obtain ⟨raw, held, stored⟩ := registered.found own
  have decoded : (Program.ended (decodeEffect wire (some raw)) :
      Program (face Script) PyError _).evaluate (Request.serve Script.body) after =
        (.ok (withoutBlanks entry), after) := by
    rw [decode_encodes stored]
    rfl
  refine ⟨after, ?_, registered⟩
  refine (Program.evaluate_bind_ok (llen_served mirrors sagaId)).trans ?_
  refine (Program.evaluate_bind_ok (eval_served ran)).trans ?_
  refine (Program.evaluate_bind_ok (hgetall_served held)).trans ?_
  refine (Program.evaluate_bind_ok decoded).trans ?_
  rw [if_neg (by simp)]
  rfl

/-- A stored state is among the expected values exactly if it is expected. -/
theorem expected_iff (expected : List EffectState) (state : Option EffectState) :
    ((expected.map EffectState.value).any fun value =>
      state.map EffectState.value = some value) = true ↔
      ∃ found ∈ expected, state = some found := by
  rw [List.any_map, List.any_eq_true]
  constructor
  · intro matched
    obtain ⟨found, member, same⟩ := matched
    cases state with
    | none => simp at same
    | some state =>
        have value : state.value = found.value := by simpa using same
        exact ⟨found, member, congrArg some (value_injective value)⟩
  · intro matched
    obtain ⟨found, member, same⟩ := matched
    exact ⟨found, member, by simp [same]⟩

section Watching

variable {key : String} {expected : List EffectState} {current : Option EffectState}
  {held : Option (String → Option String)} (refusal : Option String → PyError)
  (entries : List (String × String)) (attempts : Nat)

theorem state_served (found : server.hash key = .ok held)
    (state : (held.bind fun raw => raw "state") = current.map EffectState.value) :
    (ask (.hget key "state")).evaluate (Request.serve Script.body) server =
      (.ok (current.map EffectState.value), server) := by
  apply ask_served
  simp only [Command.serve, found, Except.map, ← state]

theorem watch_served (key : String) (server : Redis.Server) :
    (ask (.watch key)).evaluate (Request.serve Script.body) server =
      (.ok (server.writes key), server) := ask_served rfl

theorem watch_loop_stale (found : server.hash key = .ok held)
    (state : (held.bind fun raw => raw "state") = current.map EffectState.value)
    (stale : ¬∃ found ∈ expected, current = some found) :
    (watchLoop key expected refusal entries (attempts + 1)).evaluate (Request.serve Script.body)
      server = (.error (refusal (current.map EffectState.value)), server) := by
  refine (Program.evaluate_bind_ok (watch_served _ server)).trans ?_
  refine (Program.evaluate_bind_ok (state_served found state)).trans ?_
  rw [if_pos (mt (expected_iff expected current).mp stale)]
  rfl

theorem watch_loop_granted {raw : String → Option String} {stored : EffectState}
    (found : server.keys key = some (.hash raw)) (state : raw "state" = some stored.value)
    (legal : stored ∈ expected) :
    (watchLoop key expected refusal entries (attempts + 1)).evaluate (Request.serve Script.body)
      server = (.ok (), server.assign key (some (.hash (setFields raw entries)))) := by
  have executed : (Command.exec key (server.writes key) entries).serve server =
      (.ok true, server.assign key (some (.hash (setFields raw entries)))) := by
    simp only [Command.serve, if_true, Server.rewrite, hash_of_keys found]
    rfl
  refine (Program.evaluate_bind_ok (watch_served _ server)).trans ?_
  have granted := (expected_iff expected (some stored)).mpr ⟨stored, legal, rfl⟩
  have read : (ask (.hget key "state")).evaluate (Request.serve Script.body) server =
      (.ok ((some stored).map EffectState.value), server) := state_served (hash_of_keys found) state
  refine (Program.evaluate_bind_ok read).trans ?_
  rw [if_neg (not_not.mpr granted)]
  exact (Program.evaluate_bind_ok (ask_served executed)).trans rfl

end Watching

/-- A transition that is not granted raises, and changes nothing. -/
theorem transition_stale (mirrors : Mirrors wire store server) (now : String) (attempts : Nat)
    {sagaId : Uuid} {stepId : String} {expected : List EffectState}
    (stale : ¬store.grants sagaId.text stepId expected) (newState : EffectState)
    (result : Option Args) (error : Option String) :
    ∃ refusal, (transitionEffect wire now (attempts + 1) sagaId.text stepId expected newState
        result error).evaluate (Request.serve Script.body) server = (.error refusal, server) := by
  obtain ⟨held, found, state⟩ := mirrors.state_read sagaId stepId
  have unexpected : ¬∃ found ∈ expected,
      (store.effect? sagaId.text stepId).map Effect.state = some found := by
    intro granted
    obtain ⟨found, member, same⟩ := granted
    obtain ⟨effect, held, state⟩ := Option.map_eq_some_iff.mp same
    exact stale ⟨effect, held, state ▸ member⟩
  rw [← Function.comp_def EffectState.value Effect.state, ← Option.map_map] at state
  exact ⟨_, Program.evaluate_bind_error
    (watch_loop_stale _ _ attempts found state unexpected)⟩

/-- A granted transition rewrites its record, and reads it back. -/
theorem transition_granted (mirrors : Mirrors wire store server) (now : String) (attempts : Nat)
    {sagaId : Uuid} {expected : List EffectState} {effect : Effect Args}
    (found : store.effect? sagaId.text effect.stepId = some effect)
    (legal : effect.state ∈ expected) (newState : EffectState) (result : Option Args)
    (error : Option String) :
    ∃ after, (transitionEffect wire now (attempts + 1) sagaId.text effect.stepId expected newState
        result error).evaluate (Request.serve Script.body) server =
        (.ok (withoutBlanks { effect with state := newState, result, error }), after) ∧
      Mirrors wire (store.putEffect sagaId.text { effect with state := newState, result, error })
        after := by
  obtain ⟨raw, held, encodes⟩ := mirrors.found found
  have stored := transition_encodes encodes now newState result error
  have written := watch_loop_granted (fun current =>
      PyError.journalConflict ("Effect " ++ sagaId.text ++ "/" ++ effect.stepId ++ " is " ++
        current.getD "None" ++ "; expected " ++ showExpected expected))
    [("state", newState.value), ("result", wire.results.dumps result), ("error", error.getD ""),
      ("updated_at", now)] attempts held encodes.state legal
  have amended : Mirrors wire
      (store.putEffect sagaId.text { effect with state := newState, result, error })
      (server.assign (Slot.effect sagaId effect.stepId).key (some (.hash _))) :=
    mirrors.amend found stored rfl
  have own : (store.putEffect sagaId.text
      { effect with state := newState, result, error }).effect? sagaId.text effect.stepId =
        some { effect with state := newState, result, error } := by simp
  exact ⟨_, (Program.evaluate_bind_ok written).trans (amended.effect_served own), amended⟩

section Committing

variable (now : String) (key : Option String)

/-- `ARGV` of the commit script. -/
abbrev commitArguments : List String :=
  [EffectState.applied.value, EffectState.committed.value, now, key.getD ""]

theorem commit_stale (mirrors : Mirrors wire store server) {sagaId : Uuid}
    {stepId : String} (stale : ¬store.grants sagaId.text stepId [.applied]) :
    ∃ refusal, (commitEffect wire now sagaId.text stepId key).evaluate
      (Request.serve Script.body) server = (.error refusal, server) := by
  obtain ⟨held, found, state⟩ := mirrors.state_read sagaId stepId
  have other : (held.bind fun raw => raw "state") ≠
      some ((commitArguments now key).getD 0 "") := by
    intro applied
    obtain ⟨effect, known, value⟩ := Option.map_eq_some_iff.mp (state.symm.trans applied)
    exact stale ⟨effect, known, List.mem_singleton.mpr (value_injective value)⟩
  exact ⟨_, Program.evaluate_bind_ok (eval_served (commit_refused found other))⟩

theorem commit_granted (mirrors : Mirrors wire store server) {sagaId : Uuid}
    {effect : Effect Args} (found : store.effect? sagaId.text effect.stepId = some effect)
    (legal : effect.state = .applied) :
    ∃ after, (commitEffect wire now sagaId.text effect.stepId key).evaluate
        (Request.serve Script.body) server =
        (.ok (withoutBlanks { effect with state := .committed }), after) ∧
      Mirrors wire
        ((store.putEffect sagaId.text { effect with state := .committed }).publish sagaId.text key)
        after := by
  obtain ⟨raw, held, encodes⟩ := mirrors.found found
  have apart : (Slot.idem sagaId).key ≠ (Slot.effect sagaId effect.stepId).key :=
    slot_key_apart (by simp)
  have state : raw "state" = some ((commitArguments now key).getD 0 "") := by
    rw [encodes.state, legal]
    rfl
  obtain ⟨after, ran, written⟩ := commit_served held apart state (mirrors.published sagaId)
  have marked : Mirrors wire (store.putEffect sagaId.text { effect with state := .committed })
      (server.assign (Slot.effect sagaId effect.stepId).key (some (.hash _))) :=
    mirrors.amend found (commit_encodes encodes now) rfl
  have committed : Mirrors wire ((store.putEffect sagaId.text
      { effect with state := .committed }).publish sagaId.text key) after :=
    marked.publish written
  have own : ((store.putEffect sagaId.text { effect with state := .committed }).publish
      sagaId.text key).effect? sagaId.text effect.stepId =
        some { effect with state := .committed } := by simp
  exact ⟨after, (Program.evaluate_bind_ok (eval_served ran)).trans (committed.effect_served own),
    committed⟩

end Committing

end Calls

section Backend

variable [DecidableEq Args]

/-- The Redis branches, alone on the server; `attempts` bounds the loop over
`WatchError`s, of which there are none. -/
def serveRedis (wire : Wire Args) (attempts : Nat) (timed : TimedCall Args)
    (server : Redis.Server) : Except PyError (JournalAnswer Args) × Redis.Server :=
  match timed.call with
  | .prepareEffect sagaId stepId stepName action compensation key =>
      answering .effect ((prepareEffect wire timed.now sagaId.text stepId stepName action
        compensation key).evaluate (Request.serve Script.body) server)
  | .transitionEffect sagaId stepId expected newState result error =>
      answering .effect ((transitionEffect wire timed.now (attempts + 1) sagaId.text stepId
        expected newState result error).evaluate (Request.serve Script.body) server)
  | .commitEffect sagaId stepId key =>
      answering .effect ((commitEffect wire timed.now sagaId.text stepId key).evaluate
        (Request.serve Script.body) server)
  | .getEffect sagaId stepId =>
      answering .effect
        ((getEffect wire sagaId.text stepId).evaluate (Request.serve Script.body) server)
  | .getEffects sagaId =>
      answering .effects ((getEffects wire sagaId.text).evaluate (Request.serve Script.body) server)
  | .stepAlreadyCommitted sagaId key =>
      answering .flag
        ((stepAlreadyCommitted sagaId.text key).evaluate (Request.serve Script.body) server)

def shown : JournalAnswer Args → JournalAnswer Args
  | .effect effect => .effect (withoutBlanks effect)
  | .effects effects => .effects (effects.map withoutBlanks)
  | .flag flag => .flag flag

/-- The Redis branches answer what the memory branches answer, without blanks. -/
def Follows (wire : Wire Args) (attempts : Nat) (timed : TimedCall Args) (store : Store Args)
    (server : Redis.Server) : Prop :=
  (serveRedis wire attempts timed server).1.toOption =
      (serveMemory timed store).1.toOption.map shown ∧
    Mirrors wire (serveMemory timed store).2 (serveRedis wire attempts timed server).2

section Following

variable {wire : Wire Args} {attempts : Nat} {now : String} {store : Store Args}
  {server : Redis.Server} {sagaId : Uuid} {stepId : String}

theorem follows_prepare (mirrors : Mirrors wire store server) (plain : Plain store)
    (stepName : String) (action compensation : ActionPayload Args) (key : Option String) :
    Follows wire attempts ⟨now, .prepareEffect sagaId stepId stepName action compensation key⟩
      store server := by
  cases found : store.effect? sagaId.text stepId with
  | some existing =>
      have blanks := plain sagaId.text existing (Table.find_mem found)
      have whole := without_blanks_eq blanks.1 blanks.2
      obtain ⟨first, memory⟩ := prepare_effect_known found stepName action compensation key
      obtain ⟨second, redis⟩ := prepare_known mirrors now found stepName action compensation key
      simp only [Follows, serveMemory, serveRedis, answering, memory, redis, whole]
      constructor
      · split
        · exact congrArg (fun effect => some (JournalAnswer.effect effect)) whole.symm
        · rfl
      · exact mirrors
  | none =>
      have memory := prepare_effect_new found stepName action compensation key
      have absent : store.effect? sagaId.text (store.newEffect sagaId.text stepId stepName action
        compensation key).stepId = none := found
      obtain ⟨after, redis, registered⟩ := prepare_new mirrors now absent rfl rfl ⟨rfl, rfl, rfl⟩
      simp only [newEffect] at redis
      simp only [Follows, serveMemory, serveRedis, answering, memory, redis]
      exact ⟨rfl, registered⟩

theorem follows_transition (mirrors : Mirrors wire store server) (expected : List EffectState)
    (newState : EffectState) (result : Option Args) (error : Option String) :
    Follows wire attempts ⟨now, .transitionEffect sagaId stepId expected newState result error⟩
      store server := by
  by_cases granted : store.grants sagaId.text stepId expected
  · obtain ⟨effect, found, legal⟩ := granted
    have memory := transition_effect_granted found legal newState result error
    have step : effect.stepId = stepId := Table.find_key found
    subst step
    obtain ⟨after, redis, amended⟩ :=
      transition_granted mirrors now attempts found legal newState result error
    simp only [Follows, serveMemory, serveRedis, answering, memory, redis]
    exact ⟨rfl, amended⟩
  · obtain ⟨first, memory⟩ := transition_effect_stale granted newState result error
    obtain ⟨second, redis⟩ := transition_stale mirrors now attempts granted newState result error
    simp only [Follows, serveMemory, serveRedis, answering, memory, redis]
    exact ⟨rfl, mirrors⟩

theorem follows_commit (mirrors : Mirrors wire store server) (key : Option String) :
    Follows wire attempts ⟨now, .commitEffect sagaId stepId key⟩ store server := by
  by_cases granted : store.grants sagaId.text stepId [.applied]
  · obtain ⟨effect, found, legal⟩ := granted
    have applied := List.mem_singleton.mp legal
    have memory := commit_effect_granted found applied key
    have step : effect.stepId = stepId := Table.find_key found
    subst step
    obtain ⟨after, redis, committed⟩ := commit_granted now key mirrors found applied
    simp only [Follows, serveMemory, serveRedis, answering, memory, redis]
    exact ⟨rfl, committed⟩
  · obtain ⟨first, memory⟩ := commit_effect_stale granted key
    obtain ⟨second, redis⟩ := commit_stale now key mirrors granted
    simp only [Follows, serveMemory, serveRedis, answering, memory, redis]
    exact ⟨rfl, mirrors⟩

theorem follows_get_effect (mirrors : Mirrors wire store server) :
    Follows wire attempts ⟨now, .getEffect sagaId stepId⟩ store server := by
  cases found : store.effect? sagaId.text stepId with
  | some effect =>
      have redis := mirrors.effect_served found
      simp only [Follows, serveMemory, serveRedis, answering, Store.getEffect, found, redis]
      exact ⟨rfl, mirrors⟩
  | none =>
      have redis := mirrors.effect_refused found
      simp only [Follows, serveMemory, serveRedis, answering, Store.getEffect, found, redis]
      exact ⟨rfl, mirrors⟩

theorem follows_step_already_committed (mirrors : Mirrors wire store server) (key : String) :
    Follows wire attempts ⟨now, .stepAlreadyCommitted sagaId key⟩ store server := by
  have published : server.set (idemKey sagaId.text) = _ := mirrors.published sagaId
  have member : (Command.sismember (idemKey sagaId.text) key).serve server =
      (.ok (store.stepAlreadyCommitted sagaId.text key), server) := by
    simp only [Command.serve, published]
    rfl
  have redis := ask_served member
  simp only [Follows, serveMemory, serveRedis, answering, stepAlreadyCommitted, redis]
  exact ⟨rfl, mirrors⟩

theorem redis_follows (mirrors : Mirrors wire store server) (plain : Plain store)
    (timed : TimedCall Args) : Follows wire attempts timed store server := by
  obtain ⟨now, call⟩ := timed
  cases call with
  | prepareEffect sagaId stepId stepName action compensation key =>
      exact follows_prepare mirrors plain stepName action compensation key
  | transitionEffect sagaId stepId expected newState result error =>
      exact follows_transition mirrors expected newState result error
  | commitEffect sagaId stepId key => exact follows_commit mirrors key
  | getEffect sagaId stepId => exact follows_get_effect mirrors
  | getEffects sagaId =>
      have redis := mirrors.effects_served sagaId
      simp only [Follows, serveMemory, serveRedis, answering, redis]
      exact ⟨rfl, mirrors⟩
  | stepAlreadyCommitted sagaId key => exact follows_step_already_committed mirrors key

end Following

/-- The call stores no empty key and no empty error. -/
def Harmless (call : JournalCall Args) (store : Store Args) : Prop :=
  match call with
  | .prepareEffect sagaId stepId _ _ _ key =>
      store.effect? sagaId.text stepId = none → key ≠ some ""
  | .transitionEffect sagaId stepId expected _ _ error =>
      store.grants sagaId.text stepId expected → error ≠ some ""
  | _ => True

section Blanks

variable {store : Store Args}

omit [DecidableEq Args] in
theorem without_blanks_iff (effect : Effect Args) :
    withoutBlanks effect = effect ↔ effect.idempotencyKey ≠ some "" ∧ effect.error ≠ some "" := by
  constructor
  · intro same
    constructor
    · intro blank
      have key := congrArg Effect.idempotencyKey same
      simp [withoutBlanks, truthy, blank] at key
    · intro blank
      have error := congrArg Effect.error same
      simp [withoutBlanks, truthy, blank] at error
  · intro filled
    exact without_blanks_eq filled.1 filled.2

omit [DecidableEq Args] in
theorem empty_plain : Plain (Store.empty : Store Args) := by
  intro sagaId effect member
  cases member

omit [DecidableEq Args] in
theorem Plain.put (plain : Plain store) {owner : String} {entry : Effect Args}
    (filled : entry.idempotencyKey ≠ some "" ∧ entry.error ≠ some "") :
    Plain (store.putEffect owner entry) := by
  intro sagaId effect member
  by_cases same : sagaId = owner
  · subst same
    simp only [putEffect, Function.update_self] at member
    rcases Table.mem_put_rows member with new | old
    · subst new
      exact filled
    · exact plain _ effect old
  · simp only [putEffect, Function.update_of_ne same] at member
    exact plain sagaId effect member

omit [DecidableEq Args] in
theorem Plain.publish (plain : Plain store) (owner : String) (key : Option String) :
    Plain (store.publish owner key) := by
  intro sagaId effect member
  rw [effects_publish] at member
  exact plain sagaId effect member

omit [DecidableEq Args] in
theorem Plain.found (plain : Plain store) {sagaId stepId : String} {effect : Effect Args}
    (found : store.effect? sagaId stepId = some effect) :
    effect.idempotencyKey ≠ some "" ∧ effect.error ≠ some "" :=
  plain sagaId effect (Table.find_mem found)

omit [DecidableEq Args] in
theorem shown_effect_iff (effect : Effect Args) :
    (some (JournalAnswer.effect effect)).map shown = some (.effect effect) ↔
      effect.idempotencyKey ≠ some "" ∧ effect.error ≠ some "" := by
  simp only [Option.map_some, Option.some.injEq, shown, JournalAnswer.effect.injEq,
    without_blanks_iff]

structure Stored (timed : TimedCall Args) (store : Store Args) : Prop where
  shown : Harmless timed.call store ↔
    (serveMemory timed store).1.toOption.map shown = (serveMemory timed store).1.toOption
  plain : Harmless timed.call store → Plain (serveMemory timed store).2

theorem stored_prepare (plain : Plain store) (now : String) (sagaId : Uuid)
    (stepId stepName : String) (action compensation : ActionPayload Args) (key : Option String) :
    Stored ⟨now, .prepareEffect sagaId stepId stepName action compensation key⟩ store := by
  cases found : store.effect? sagaId.text stepId with
  | some existing =>
      obtain ⟨refusal, memory⟩ := prepare_effect_known found stepName action compensation key
      constructor <;> simp only [Harmless, serveMemory, answering, memory, found]
      · split
        · simpa [Except.map, Except.toOption] using (shown_effect_iff _).mpr (plain.found found)
        · simp [Except.map, Except.toOption]
      · intro harmless
        exact plain
  | none =>
      have memory := prepare_effect_new found stepName action compensation key
      have stored (filled : key ≠ some "") :
          (store.newEffect sagaId.text stepId stepName action compensation key).idempotencyKey ≠
            some "" ∧
          (store.newEffect sagaId.text stepId stepName action compensation key).error ≠ some "" :=
        ⟨filled, by simp [newEffect]⟩
      constructor <;> simp only [Harmless, serveMemory, answering, memory, found]
      · constructor
        · intro filled
          exact (shown_effect_iff _).mpr (stored (filled trivial))
        · intro same _
          exact ((shown_effect_iff _).mp same).1
      · intro filled
        exact plain.put (stored (filled trivial))

theorem stored_transition (plain : Plain store) (now : String) (sagaId : Uuid) (stepId : String)
    (expected : List EffectState) (newState : EffectState) (result : Option Args)
    (error : Option String) :
    Stored ⟨now, .transitionEffect sagaId stepId expected newState result error⟩ store := by
  by_cases granted : store.grants sagaId.text stepId expected
  · obtain ⟨effect, found, legal⟩ := id granted
    have memory := transition_effect_granted found legal newState result error
    have key := (plain.found found).1
    constructor <;> simp only [Harmless, serveMemory, answering, memory, granted]
    · constructor
      · intro filled
        exact (shown_effect_iff _).mpr ⟨key, filled trivial⟩
      · intro same _
        exact ((shown_effect_iff _).mp same).2
    · intro filled
      exact plain.put ⟨key, filled trivial⟩
  · obtain ⟨refusal, memory⟩ := transition_effect_stale granted newState result error
    constructor <;> simp only [Harmless, serveMemory, answering, memory, granted]
    · simp [Except.map, Except.toOption]
    · intro harmless
      exact plain

theorem stored_commit (plain : Plain store) (now : String) (sagaId : Uuid) (stepId : String)
    (key : Option String) : Stored ⟨now, .commitEffect sagaId stepId key⟩ store := by
  by_cases granted : store.grants sagaId.text stepId [.applied]
  · obtain ⟨effect, found, legal⟩ := granted
    have memory := commit_effect_granted found (List.mem_singleton.mp legal) key
    have filled := plain.found found
    constructor <;> simp only [Harmless, serveMemory, answering, memory]
    · constructor
      · intro harmless
        exact (shown_effect_iff _).mpr filled
      · intro same
        trivial
    · intro harmless
      have marked : Plain (store.putEffect sagaId.text { effect with state := .committed }) :=
        plain.put filled
      exact marked.publish sagaId.text key
  · obtain ⟨refusal, memory⟩ := commit_effect_stale granted key
    constructor <;> simp only [Harmless, serveMemory, answering, memory]
    · simp [Except.map, Except.toOption]
    · intro harmless
      exact plain

theorem stored_reading (plain : Plain store) {timed : TimedCall Args}
    (harmless : Harmless timed.call store) (same : (serveMemory timed store).2 = store)
    (whole : (serveMemory timed store).1.toOption.map shown =
      (serveMemory timed store).1.toOption) : Stored timed store where
  shown := iff_of_true harmless whole
  plain := fun _ => same.symm ▸ plain

theorem stored (plain : Plain store) (timed : TimedCall Args) : Stored timed store := by
  obtain ⟨now, call⟩ := timed
  cases call with
  | prepareEffect sagaId stepId stepName action compensation key =>
      exact stored_prepare plain now sagaId stepId stepName action compensation key
  | transitionEffect sagaId stepId expected newState result error =>
      exact stored_transition plain now sagaId stepId expected newState result error
  | commitEffect sagaId stepId key => exact stored_commit plain now sagaId stepId key
  | getEffect sagaId stepId =>
      refine stored_reading plain trivial rfl ?_
      cases found : store.effect? sagaId.text stepId with
      | some effect =>
          simp only [serveMemory, answering, Store.getEffect, found]
          exact (shown_effect_iff effect).mpr (plain.found found)
      | none =>
          simp only [serveMemory, answering, Store.getEffect, found]
          rfl
  | getEffects sagaId =>
      refine stored_reading plain trivial rfl ?_
      have whole : (store.effects sagaId.text).rows.map withoutBlanks =
          (store.effects sagaId.text).rows := by
        apply (List.map_congr_left _).trans (List.map_id _)
        intro effect member
        exact (without_blanks_iff effect).mpr (plain sagaId.text effect member)
      exact congrArg (fun effects => some (JournalAnswer.effects effects)) whole
  | stepAlreadyCommitted sagaId key => exact stored_reading plain trivial rfl rfl

end Blanks

/-- The Redis branches part from the memory branches exactly at harmful calls. -/
theorem redis_mirror (wire : Wire Args) (attempts : Nat) :
    Mirror serveMemory (serveRedis wire attempts) (fun timed store => Harmless timed.call store)
      fun store server => Mirrors wire store server ∧ Plain store where
  kept := by
    intro timed store server same harmless
    have follows : Follows wire attempts timed store server :=
      redis_follows same.1 same.2 timed
    have kept := stored same.2 timed
    exact ⟨follows.1.trans (kept.shown.mp harmless), follows.2, kept.plain harmless⟩
  broken := by
    intro timed store server same harmful agree
    have follows : Follows wire attempts timed store server :=
      redis_follows same.1 same.2 timed
    exact harmful ((stored same.2 timed).shown.mpr (follows.1.symm.trans agree))

end Backend

end SagaMind.RedisStore
