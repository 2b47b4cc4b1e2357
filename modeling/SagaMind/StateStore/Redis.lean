import SagaMind.Foundation.Redis
import SagaMind.StateStore

/-!
# The Redis branches of the state store

Each branch is a program over single commands and scripts, so that the same
text serves sequential and interleaved runs. A journal record is a hash of
strings, filed under its own key, and the list of a saga holds the identities
of its records. `now` is what `_now()` returned.
-/

namespace SagaMind.RedisStore

open CallProgram KeyedTable Redis Store

set_option autoImplicit false

/-- `json.dumps` and `json.loads` on the values of one type. -/
structure Codec (Value : Type) where
  dumps : Value → String
  loads : String → Option Value
  loads_dumps : ∀ value, loads (dumps value) = some value
  dumps_filled : ∀ value, dumps value ≠ ""

/-- The two kinds of JSON text in a journal record. -/
structure Wire (Args : Type) where
  payloads : Codec (ActionPayload Args)
  results : Codec (Option Args)
  results_none : results.dumps none = "null"

inductive Script where
  /-- `_redis_prepare_effect`. -/
  | prepare
  /-- `commit_effect`. -/
  | commit

section Scripts

/-- `redis.call`. -/
def redisCall (command : Command) : Program commandFace Fault command.Answer :=
  @Program.perform commandFace command

/-- `for i = 1, #ARGV, 2 do redis.call('HSET', KEYS[1], ARGV[i], ARGV[i + 1]) end`. -/
def hsetPairs (key : String) : List String → Program commandFace Fault Unit
  | field :: value :: rest => do
      let _ ← redisCall (.hset key [(field, value)])
      hsetPairs key rest
  | _ => pure ()

/-- The text of each script; `KEYS` and `ARGV` count from one. -/
def Script.body : Script → List String → List String → Program commandFace Fault Nat
  | .prepare, keys, argv => do
      let present ← redisCall (.present (keys.getD 0 ""))
      if present = true then return 0
      hsetPairs (keys.getD 0 "") argv
      let _ ← redisCall (.rpush (keys.getD 1 "") (argv.getD 3 ""))
      return 1
  | .commit, keys, argv => do
      let state ← redisCall (.hget (keys.getD 0 "") "state")
      if state ≠ some (argv.getD 0 "") then return 0
      let _ ← redisCall
        (.hset (keys.getD 0 "") [("state", argv.getD 1 ""), ("updated_at", argv.getD 2 "")])
      if argv.getD 3 "" ≠ "" then
        let _ ← redisCall (.sadd (keys.getD 1 "") (argv.getD 3 ""))
      return 1

end Scripts

def ask (command : Command) : Program (face Script) PyError command.Answer :=
  .call (.plain command) fun reply =>
    match reply with
    | .ok answer => .done answer
    | .error .wrongType => .raise (.external "WRONGTYPE")

def eval (script : Script) (keys argv : List String) : Program (face Script) PyError Nat :=
  .call (.eval script keys argv) fun reply =>
    match reply with
    | .ok answer => .done answer
    | .error .wrongType => .raise (.external "WRONGTYPE")

def effectsKey (sagaId : String) : String := "saga:" ++ sagaId ++ ":effects"

/-- `_redis_effect_key`. -/
def effectKey (sagaId stepId : String) : String := "saga:" ++ sagaId ++ ":effect:" ++ stepId

def idemKey (sagaId : String) : String := "saga:" ++ sagaId ++ ":idem"

variable {Args : Type}

section Records

/-- The numerals that `int` reads here; `str` of a sequence number is one. -/
def int (text : String) : Except PyError Nat :=
  if text.toList ≠ [] ∧ text.toList.all Char.isDigit then
    .ok (Nat.ofDigitChars 10 text.toList 0)
  else .error (.external "invalid literal for int()")

def readState (text : String) : Except PyError EffectState :=
  match [EffectState.prepared, .executing, .applied, .committed, .aborted, .ambiguous,
      .compensating, .compensated, .compensationFailed].find? fun state => state.value = text with
  | some state => .ok state
  | none => .error (.external "not an effect state")

/-- `raw[field]`. -/
def field (raw : String → Option String) (name : String) : Except PyError String :=
  match raw name with
  | some value => .ok value
  | none => .error (.key name)

def load {Value : Type} (codec : Codec Value) (text : String) : Except PyError Value :=
  match codec.loads text with
  | some value => .ok value
  | none => .error (.external "JSONDecodeError")

/-- `raw.get(name) or other`. -/
def orElse (raw : String → Option String) (name other : String) : String :=
  if truthy (raw name) then (raw name).getD "" else other

/-- `raw.get(name) or None`. -/
def orNone (raw : String → Option String) (name : String) : Option String :=
  if truthy (raw name) then raw name else none

/-- `_redis_decode_effect`. -/
def decodeEffect (wire : Wire Args) :
    Option (String → Option String) → Except PyError (Effect Args)
  | none => .error (.key "Unknown Redis effect record")
  | some raw => do
      return {
        sagaId := ← field raw "saga_id"
        stepId := ← field raw "step_id"
        seq := ← int (← field raw "seq")
        stepName := ← field raw "step_name"
        action := ← load wire.payloads (← field raw "action")
        compensation := ← load wire.payloads (← field raw "compensation")
        idempotencyKey := orNone raw "idempotency_key"
        state := ← readState (← field raw "state")
        result := ← load wire.results (orElse raw "result" "null")
        error := orNone raw "error" }

/-- `fields.items()` of a new record. -/
def registration (wire : Wire Args) (now sagaId stepId stepName : String)
    (action compensation : ActionPayload Args) (idempotencyKey : Option String) (seq : Nat) :
    List (String × String) :=
  [("saga_id", sagaId), ("step_id", stepId), ("step_name", stepName),
    ("action", wire.payloads.dumps action), ("compensation", wire.payloads.dumps compensation),
    ("idempotency_key", idempotencyKey.getD ""), ("state", EffectState.prepared.value),
    ("result", "null"), ("error", ""), ("seq", seq.repr),
    ("created_at", now), ("updated_at", now)]

/-- `[item for pair in fields.items() for item in pair]`. -/
def flat (fields : List (String × String)) : List String :=
  fields.flatMap fun pair => [pair.1, pair.2]

end Records

section Journal

variable [DecidableEq Args]

/-- `_redis_prepare_effect`. -/
def prepareEffect (wire : Wire Args) (now sagaId stepId stepName : String)
    (action compensation : ActionPayload Args) (idempotencyKey : Option String) :
    Program (face Script) PyError (Effect Args) := do
  let key := effectKey sagaId stepId
  let length ← ask (.llen (effectsKey sagaId))
  let seq := length + 1
  let fields := registration wire now sagaId stepId stepName action compensation idempotencyKey seq
  let inserted ← eval .prepare [key, effectsKey sagaId] (flat fields)
  let raw ← ask (.hgetall key)
  let existing ← .ended (decodeEffect wire raw)
  if inserted = 0 ∧ ¬sameEffect existing stepName action compensation idempotencyKey then
    .raise (.journalConflict ("Step identity " ++ sagaId ++ "/" ++ stepId ++
      " was reused with a different effect"))
  else
    return existing

end Journal

def readEffects (wire : Wire Args) (sagaId : String) :
    List String → Program (face Script) PyError (List (Effect Args))
  | [] => return []
  | stepId :: rest => do
      let raw ← ask (.hgetall (effectKey sagaId stepId))
      let effect ← .ended (decodeEffect wire raw)
      let effects ← readEffects wire sagaId rest
      return effect :: effects

def getEffects (wire : Wire Args) (sagaId : String) :
    Program (face Script) PyError (List (Effect Args)) := do
  let stepIds ← ask (.lrange (effectsKey sagaId) 0 (-1))
  readEffects wire sagaId stepIds

def getEffect (wire : Wire Args) (sagaId stepId : String) :
    Program (face Script) PyError (Effect Args) := do
  let effects ← getEffects wire sagaId
  match effects.find? fun effect => effect.stepId = stepId with
  | some effect => return effect
  | none => .raise (unknownEffect sagaId stepId)

/-- The loop over `WatchError`s, `attempts` of them at most. -/
def watchLoop (key : String) (expected : List EffectState) (refusal : Option String → PyError)
    (entries : List (String × String)) : Nat → Program (face Script) PyError Unit
  | 0 => .raise (.external "WatchError")
  | attempts + 1 => do
      let watched ← ask (.watch key)
      let current ← ask (.hget key "state")
      if ¬(expected.map EffectState.value).any fun state => current = some state then
        .raise (refusal current)
      else
        let executed ← ask (.exec key watched entries)
        if executed = true then return ()
        watchLoop key expected refusal entries attempts

/-- `_redis_transition_effect`. -/
def transitionEffect (wire : Wire Args) (now : String) (attempts : Nat) (sagaId stepId : String)
    (expected : List EffectState) (newState : EffectState) (result : Option Args)
    (error : Option String) : Program (face Script) PyError (Effect Args) := do
  watchLoop (effectKey sagaId stepId) expected
    (fun current => .journalConflict ("Effect " ++ sagaId ++ "/" ++ stepId ++ " is " ++
      current.getD "None" ++ "; expected " ++ showExpected expected))
    [("state", newState.value), ("result", wire.results.dumps result), ("error", error.getD ""),
      ("updated_at", now)] attempts
  getEffect wire sagaId stepId

def commitEffect (wire : Wire Args) (now sagaId stepId : String)
    (idempotencyKey : Option String) : Program (face Script) PyError (Effect Args) := do
  let ok ← eval .commit [effectKey sagaId stepId, idemKey sagaId]
    [EffectState.applied.value, EffectState.committed.value, now, idempotencyKey.getD ""]
  if ok = 0 then
    .raise (.journalConflict ("Effect " ++ sagaId ++ "/" ++ stepId ++ " is not APPLIED"))
  else
    getEffect wire sagaId stepId

def stepAlreadyCommitted (sagaId idempotencyKey : String) :
    Program (face Script) PyError Bool :=
  ask (.sismember (idemKey sagaId) idempotencyKey)

end SagaMind.RedisStore
