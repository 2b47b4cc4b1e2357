import SagaMind.StateStore.Redis

/-!
# What the Redis branches store and read

Decoding gives a stored record back, except that an empty key or error comes
back as `None`. The scripts and the reading programs are evaluated on a server
whose records are known.
-/

namespace SagaMind.RedisStore

open CallProgram KeyedTable Redis Store

set_option autoImplicit false

variable {Args : Type}

/-- The two `or None` of `_redis_decode_effect`. -/
def withoutBlanks (effect : Effect Args) : Effect Args :=
  { effect with
    idempotencyKey := if truthy effect.idempotencyKey then effect.idempotencyKey else none
    error := if truthy effect.error then effect.error else none }

structure Encodes (wire : Wire Args) (raw : String → Option String) (effect : Effect Args) :
    Prop where
  sagaId : raw "saga_id" = some effect.sagaId
  stepId : raw "step_id" = some effect.stepId
  seq : raw "seq" = some effect.seq.repr
  stepName : raw "step_name" = some effect.stepName
  action : raw "action" = some (wire.payloads.dumps effect.action)
  compensation : raw "compensation" = some (wire.payloads.dumps effect.compensation)
  idempotencyKey : raw "idempotency_key" = some (effect.idempotencyKey.getD "")
  state : raw "state" = some effect.state.value
  result : raw "result" = some (wire.results.dumps effect.result)
  error : raw "error" = some (effect.error.getD "")

section Decoding

theorem int_repr (count : Nat) : int count.repr = .ok count := by
  have digits : count.repr.toList = Nat.toDigits 10 count := Nat.toList_repr
  have filled : Nat.toDigits 10 count ≠ [] := Nat.toDigits_ne_nil
  have decimal : (Nat.toDigits 10 count).all Char.isDigit = true := by
    rw [List.all_eq_true]
    intro digit member
    exact Nat.isDigit_of_mem_toDigits (by omega) (by omega) member
  have value : Nat.ofDigitChars 10 (Nat.toDigits 10 count) 0 = count :=
    Nat.ofDigitChars_toDigits (by omega) (by omega)
  simp [int, digits, filled, decimal, value]

theorem read_state_value (state : EffectState) : readState state.value = .ok state := by
  cases state <;> rfl

theorem value_injective : Function.Injective EffectState.value := by
  intro left right same
  have read := congrArg readState same
  rw [read_state_value, read_state_value] at read
  exact Except.ok.inj read

theorem or_none_stored {raw : String → Option String} {name : String} {given : Option String}
    (stored : raw name = some (given.getD "")) :
    orNone raw name = if truthy given then given else none := by
  rw [orNone, stored]
  cases given with
  | none => simp [truthy]
  | some text => rfl

theorem decode_encodes {wire : Wire Args} {raw : String → Option String} {effect : Effect Args}
    (encodes : Encodes wire raw effect) :
    decodeEffect wire (some raw) = .ok (withoutBlanks effect) := by
  have result : orElse raw "result" "null" = wire.results.dumps effect.result := by
    have filled := wire.results.dumps_filled effect.result
    simp [orElse, encodes.result, truthy, filled]
  have payload (payload : ActionPayload Args) :
      load wire.payloads (wire.payloads.dumps payload) = .ok payload := by
    simp [load, wire.payloads.loads_dumps]
  have loaded : load wire.results (wire.results.dumps effect.result) = .ok effect.result := by
    simp [load, wire.results.loads_dumps]
  have name (name value : String) (stored : raw name = some value) :
      field raw name = .ok value := by
    rw [field, stored]
  simp only [decodeEffect, name _ _ encodes.sagaId, name _ _ encodes.stepId,
    name _ _ encodes.seq, name _ _ encodes.stepName, name _ _ encodes.action,
    name _ _ encodes.compensation, name _ _ encodes.state, int_repr, payload, read_state_value,
    result, loaded, or_none_stored encodes.idempotencyKey, or_none_stored encodes.error,
    bind, Except.bind]
  rfl

theorem without_blanks_eq {effect : Effect Args} (key : effect.idempotencyKey ≠ some "")
    (error : effect.error ≠ some "") : withoutBlanks effect = effect := by
  have kept (given : Option String) (filled : given ≠ some "") :
      (if truthy given then given else none) = given := by
    cases given with
    | none => rfl
    | some text =>
        have other : text ≠ "" := fun blank => filled (congrArg some blank)
        simp [truthy, other]
  rw [withoutBlanks, kept _ key, kept _ error]

theorem registration_encodes (wire : Wire Args) (now : String) (entry : Effect Args)
    (fresh : entry.state = .prepared ∧ entry.result = none ∧ entry.error = none) :
    Encodes wire (setFields (fun _ => none) (registration wire now entry.sagaId entry.stepId
      entry.stepName entry.action entry.compensation entry.idempotencyKey entry.seq)) entry := by
  have null : "null" = wire.results.dumps entry.result := by rw [fresh.2.1, wire.results_none]
  constructor <;> simp [setFields, registration, fresh.1, fresh.2.2, ← null]

theorem transition_encodes {wire : Wire Args} {raw : String → Option String}
    {effect : Effect Args} (encodes : Encodes wire raw effect) (now : String)
    (newState : EffectState) (result : Option Args) (error : Option String) :
    Encodes wire (setFields raw [("state", newState.value), ("result", wire.results.dumps result),
        ("error", error.getD ""), ("updated_at", now)])
      { effect with state := newState, result, error } := by
  cases encodes
  constructor <;> simp [setFields, *]

theorem commit_encodes {wire : Wire Args} {raw : String → Option String} {effect : Effect Args}
    (encodes : Encodes wire raw effect) (now : String) :
    Encodes wire (setFields raw [("state", EffectState.committed.value), ("updated_at", now)])
      { effect with state := .committed } := by
  cases encodes
  constructor <;> simp [setFields, *]

end Decoding

section Serving

variable {server after : Redis.Server} {key other : String}

theorem ask_served {command : Command} {answer : command.Answer}
    (served : command.serve server = (.ok answer, after)) :
    (ask command).evaluate (Request.serve Script.body) server = (.ok answer, after) := by
  rw [ask, Program.evaluate_call, Request.serve, served]
  rfl

theorem eval_served {script : Script} {keys argv : List String} {answer : Nat}
    (served : (script.body keys argv).evaluate Command.serve server = (.ok answer, after)) :
    (eval script keys argv).evaluate (Request.serve Script.body) server = (.ok answer, after) := by
  rw [eval, Program.evaluate_call, Request.serve, served]
  rfl

theorem redis_call_served {command : Command} {answer : command.Answer}
    (served : command.serve server = (.ok answer, after)) :
    (redisCall command).evaluate Command.serve server = (.ok answer, after) := by
  rw [redisCall, Program.perform, Program.evaluate_call, served]
  rfl

theorem hash_of_keys {raw : String → Option String} (held : server.keys key = some (.hash raw)) :
    server.hash key = .ok (some raw) := by
  rw [Server.hash, held]

theorem hset_served {raw : Option (String → Option String)} (held : server.hash key = .ok raw)
    (entries : List (String × String)) :
    (Command.hset key entries).serve server =
      (.ok (), server.assign key (putFields entries raw)) := by
  simp only [Command.serve, Server.rewrite, held]

theorem hset_pairs_served {raw : String → Option String}
    (held : server.keys key = some (.hash raw)) (fields : List (String × String)) :
    ∃ after, (hsetPairs key (flat fields)).evaluate Command.serve server = (.ok (), after) ∧
      after.keys = Function.update server.keys key (some (.hash (setFields raw fields))) := by
  induction fields generalizing server raw with
  | nil =>
      have same := Function.update_eq_self key server.keys
      rw [held] at same
      exact ⟨server, rfl, same.symm⟩
  | cons pair rest ih =>
      have first := redis_call_served (hset_served (hash_of_keys held) [(pair.1, pair.2)])
      have found : (server.assign key (putFields [(pair.1, pair.2)] (some raw))).keys key =
          some (.hash (setFields raw [(pair.1, pair.2)])) := by
        rw [keys_assign, if_pos rfl]
        rfl
      obtain ⟨after, ran, written⟩ := ih found
      refine ⟨after, ?_, ?_⟩
      · rw [flat, List.flatMap_cons]
        exact (Program.evaluate_bind_ok first).trans ran
      · rw [written]
        exact Function.update_idem ..

theorem prepare_refused {list : String} {value : Value} (argv : List String)
    (held : server.keys key = some value) :
    (Script.prepare.body [key, list] argv).evaluate Command.serve server = (.ok 0, server) := by
  have present : (Command.present key).serve server = (.ok true, server) := by
    simp [Command.serve, held]
  exact (Program.evaluate_bind_ok (redis_call_served present)).trans rfl

theorem prepare_served {list : String} {items : List String} (pair : String × String)
    (rest : List (String × String)) (absent : server.keys key = none) (apart : list ≠ key)
    (listed : server.list list = .ok items) :
    ∃ after, (Script.prepare.body [key, list] (flat (pair :: rest))).evaluate Command.serve server =
        (.ok 1, after) ∧
      after.keys = Function.update
        (Function.update server.keys key (some (.hash (setFields (fun _ => none) (pair :: rest)))))
        list (some (.list (items ++ [(flat (pair :: rest)).getD 3 ""]))) := by
  have present : (Command.present key).serve server = (.ok false, server) := by
    simp [Command.serve, absent]
  have nothing : server.hash key = .ok none := by rw [Server.hash, absent]
  have first := redis_call_served (hset_served nothing [(pair.1, pair.2)])
  have found : (server.assign key (putFields [(pair.1, pair.2)] none)).keys key =
      some (.hash (setFields (fun _ => none) [(pair.1, pair.2)])) := by
    rw [keys_assign, if_pos rfl]
    rfl
  obtain ⟨middle, ran, written⟩ := hset_pairs_served found rest
  have kept : middle.keys list = server.keys list := by
    rw [written, Function.update_of_ne apart, keys_assign, if_neg apart]
  have pushed : (Command.rpush list ((flat (pair :: rest)).getD 3 "")).serve middle =
      (.ok (), middle.assign list
        (some (.list (items ++ [(flat (pair :: rest)).getD 3 ""])))) := by
    rw [Server.list, ← kept, ← Server.list] at listed
    simp only [Command.serve, Server.rewrite, listed]
  refine ⟨middle.assign list (some (.list (items ++ [(flat (pair :: rest)).getD 3 ""]))),
    ?_, ?_⟩
  · refine (Program.evaluate_bind_ok (redis_call_served present)).trans ?_
    have pairs : (hsetPairs key (flat (pair :: rest))).evaluate Command.serve server =
        (.ok (), middle) := by
      rw [flat, List.flatMap_cons]
      exact (Program.evaluate_bind_ok first).trans ran
    refine (Program.evaluate_bind_ok pairs).trans ?_
    exact (Program.evaluate_bind_ok (redis_call_served pushed)).trans rfl
  · have shape := congrArg (fun keys => Function.update keys list
      (some (Value.list (items ++ [(flat (pair :: rest)).getD 3 ""])))) written
    refine shape.trans ?_
    congr 1
    exact Function.update_idem ..

theorem commit_refused {idem : String} {argv : List String} {held : Option (String → Option String)}
    (found : server.hash key = .ok held)
    (other : (held.bind fun raw => raw "state") ≠ some (argv.getD 0 "")) :
    (Script.commit.body [key, idem] argv).evaluate Command.serve server = (.ok 0, server) := by
  have read : (Command.hget key "state").serve server =
      (.ok (held.bind fun raw => raw "state"), server) := by
    simp only [Command.serve, found]
    rfl
  refine (Program.evaluate_bind_ok (redis_call_served read)).trans ?_
  rw [if_pos other]
  rfl

theorem commit_served {idem : String} {argv : List String} {raw : String → Option String}
    {members : Finset String} (held : server.keys key = some (.hash raw)) (apart : idem ≠ key)
    (state : raw "state" = some (argv.getD 0 "")) (published : server.set idem = .ok members) :
    ∃ after, (Script.commit.body [key, idem] argv).evaluate Command.serve server =
        (.ok 1, after) ∧
      after.keys =
        let marked := Function.update server.keys key (some (.hash (setFields raw
          [("state", argv.getD 1 ""), ("updated_at", argv.getD 2 "")])))
        if argv.getD 3 "" = "" then marked
        else Function.update marked idem (some (.set (insert (argv.getD 3 "") members))) := by
  have read : (Command.hget key "state").serve server = (.ok (some (argv.getD 0 "")), server) := by
    simp only [Command.serve, hash_of_keys held, ← state]
    rfl
  have marked := redis_call_served (hset_served (hash_of_keys held)
    [("state", argv.getD 1 ""), ("updated_at", argv.getD 2 "")])
  set middle := server.assign key (putFields
    [("state", argv.getD 1 ""), ("updated_at", argv.getD 2 "")] (some raw)) with shape
  have kept : middle.keys idem = server.keys idem := by
    rw [shape, keys_assign, if_neg apart]
  have added : (Command.sadd idem (argv.getD 3 "")).serve middle =
      (.ok (), middle.assign idem (some (.set (insert (argv.getD 3 "") members)))) := by
    rw [Server.set, ← kept, ← Server.set] at published
    simp only [Command.serve, Server.rewrite, published]
  by_cases blank : argv.getD 3 "" = ""
  · refine ⟨middle, ?_, ?_⟩
    · refine (Program.evaluate_bind_ok (redis_call_served read)).trans ?_
      rw [if_neg (not_not.mpr rfl)]
      refine (Program.evaluate_bind_ok marked).trans ?_
      rw [if_neg (not_not.mpr blank)]
      rfl
    · rw [if_pos blank]
      rfl
  · refine ⟨middle.assign idem (some (.set (insert (argv.getD 3 "") members))), ?_, ?_⟩
    · refine (Program.evaluate_bind_ok (redis_call_served read)).trans ?_
      rw [if_neg (not_not.mpr rfl)]
      refine (Program.evaluate_bind_ok marked).trans ?_
      rw [if_pos blank]
      exact (Program.evaluate_bind_ok (redis_call_served added)).trans rfl
    · rw [if_neg blank]
      rfl

def HoldsAll (wire : Wire Args) (server : Redis.Server) (sagaId : String)
    (effects : List (Effect Args)) : Prop :=
  ∀ effect ∈ effects, ∃ raw, server.keys (effectKey sagaId effect.stepId) = some (.hash raw) ∧
    Encodes wire raw effect

theorem hgetall_served {raw : String → Option String}
    (held : server.keys key = some (.hash raw)) :
    (ask (.hgetall key)).evaluate (Request.serve Script.body) server = (.ok (some raw), server) := by
  apply ask_served
  simp only [Command.serve, hash_of_keys held]

theorem read_effects_served {wire : Wire Args} {sagaId : String} {effects : List (Effect Args)}
    (held : HoldsAll wire server sagaId effects) :
    (readEffects wire sagaId (effects.map Effect.stepId)).evaluate (Request.serve Script.body)
      server = (.ok (effects.map withoutBlanks), server) := by
  induction effects with
  | nil => rfl
  | cons effect rest ih =>
      obtain ⟨raw, found, encodes⟩ := held effect (List.mem_cons_self ..)
      have later := ih fun other member => held other (List.mem_cons_of_mem _ member)
      have decoded : (Program.ended (decodeEffect wire (some raw)) :
          Program (face Script) PyError _).evaluate (Request.serve Script.body) server =
            (.ok (withoutBlanks effect), server) := by
        rw [decode_encodes encodes]
        rfl
      rw [List.map_cons, readEffects]
      refine (Program.evaluate_bind_ok (hgetall_served found)).trans ?_
      refine (Program.evaluate_bind_ok decoded).trans ?_
      exact (Program.evaluate_bind_ok later).trans rfl

theorem get_effects_served {wire : Wire Args} {sagaId : String} {effects : List (Effect Args)}
    (listed : server.list (effectsKey sagaId) = .ok (effects.map Effect.stepId))
    (held : HoldsAll wire server sagaId effects) :
    (getEffects wire sagaId).evaluate (Request.serve Script.body) server =
      (.ok (effects.map withoutBlanks), server) := by
  have range : (Command.lrange (effectsKey sagaId) 0 (-1)).serve server =
      (.ok (effects.map Effect.stepId), server) := by
    simp only [Command.serve, listed, Except.map, slice_all]
  exact (Program.evaluate_bind_ok (ask_served range)).trans (read_effects_served held)

theorem get_effect_served {wire : Wire Args} {sagaId stepId : String}
    {effects : List (Effect Args)} {effect : Effect Args}
    (listed : server.list (effectsKey sagaId) = .ok (effects.map Effect.stepId))
    (held : HoldsAll wire server sagaId effects)
    (found : effects.find? (fun effect => effect.stepId = stepId) = some effect) :
    (getEffect wire sagaId stepId).evaluate (Request.serve Script.body) server =
      (.ok (withoutBlanks effect), server) := by
  have chosen : (effects.map withoutBlanks).find? (fun effect => effect.stepId = stepId) =
      some (withoutBlanks effect) := by
    rw [List.find?_map]
    exact congrArg (Option.map withoutBlanks) found
  refine (Program.evaluate_bind_ok (get_effects_served listed held)).trans ?_
  rw [chosen]
  rfl

theorem get_effect_refused {wire : Wire Args} {sagaId stepId : String}
    {effects : List (Effect Args)}
    (listed : server.list (effectsKey sagaId) = .ok (effects.map Effect.stepId))
    (held : HoldsAll wire server sagaId effects)
    (absent : effects.find? (fun effect => effect.stepId = stepId) = none) :
    (getEffect wire sagaId stepId).evaluate (Request.serve Script.body) server =
      (.error (unknownEffect sagaId stepId), server) := by
  have missing : (effects.map withoutBlanks).find? (fun effect => effect.stepId = stepId) =
      none := by
    rw [List.find?_map]
    exact congrArg (Option.map withoutBlanks) absent
  refine (Program.evaluate_bind_ok (get_effects_served listed held)).trans ?_
  rw [missing]
  rfl

end Serving

end SagaMind.RedisStore
