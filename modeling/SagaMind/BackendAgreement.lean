import SagaMind.StateStore.PostgresMirror
import SagaMind.StateStore.RedisMirror

/-!
# Interchangeable journal backends

The memory, Redis and Postgres branches of the journal answer a history alike
exactly when no call of it meets one of their differences: Redis turns empty
keys and errors into `None`, Postgres refuses NULs, normalises payloads and
limits keys, identities and numbers.
-/

namespace SagaMind.BackendAgreement

open Backends KeyedTable

set_option autoImplicit false

variable {Args : Type} [DecidableEq Args]

/-- All three return the same records, and raise on the same calls. -/
def Interchangeable (wire : RedisStore.Wire Args) (attempts : Nat)
    (server : PostgresStore.Server Args) (history : List (TimedCall Args)) : Prop :=
  outcomes (RedisStore.serveRedis wire attempts) history .empty =
      outcomes serveMemory history .empty ∧
    outcomes (PostgresStore.servePostgres server) history .empty =
      outcomes serveMemory history .empty

theorem redis_agrees_iff (wire : RedisStore.Wire Args) (attempts : Nat)
    (history : List (TimedCall Args)) :
    outcomes (RedisStore.serveRedis wire attempts) history .empty =
        outcomes serveMemory history .empty ↔
      Throughout serveMemory (fun timed store => RedisStore.Harmless timed.call store) history
        .empty :=
  (RedisStore.redis_mirror wire attempts).agree_iff history
    ⟨RedisStore.empty_mirrors wire, RedisStore.empty_plain⟩

theorem postgres_agrees_iff (server : PostgresStore.Server Args)
    (history : List (TimedCall Args)) :
    outcomes (PostgresStore.servePostgres server) history .empty =
        outcomes serveMemory history .empty ↔
      Throughout serveMemory (fun timed store => PostgresStore.Fits server timed.call store)
        history .empty :=
  (PostgresStore.postgres_mirror server).agree_iff history PostgresStore.empty_copies

/-- The backends are interchangeable on a history exactly if each of its calls
is harmless on Redis and fits the columns of Postgres, in the store it finds. -/
theorem backends_interchangeable_iff (wire : RedisStore.Wire Args) (attempts : Nat)
    (server : PostgresStore.Server Args) (history : List (TimedCall Args)) :
    Interchangeable wire attempts server history ↔
      ∀ before timed rest, history = before ++ timed :: rest →
        RedisStore.Harmless timed.call (reached serveMemory before .empty) ∧
          PostgresStore.Fits server timed.call (reached serveMemory before .empty) := by
  have both : Throughout serveMemory (fun timed store =>
      RedisStore.Harmless timed.call store ∧ PostgresStore.Fits server timed.call store) history
        Store.empty ↔ _ := throughout_and history Store.empty
  rw [Interchangeable, redis_agrees_iff, postgres_agrees_iff, ← both, throughout_iff]

section EmptyKey

/-- The text of a payload without arguments and without characters to escape. -/
def opening : String := "\x7b\"tool_name\": \""

def closing : String := "\", \"arguments\": \x7b\x7d\x7d"

def payloadText (payload : ActionPayload Unit) : String := opening ++ payload.toolName ++ closing

def readPayload (text : String) : Option (ActionPayload Unit) :=
  let inner := text.toList.drop opening.toList.length
  some ⟨String.ofList (inner.take (inner.length - closing.toList.length)), ()⟩

theorem read_payload_text (payload : ActionPayload Unit) :
    readPayload (payloadText payload) = some payload := by
  have chars : (payloadText payload).toList =
      opening.toList ++ (payload.toolName.toList ++ closing.toList) := by
    rw [payloadText, String.toList_append, String.toList_append, List.append_assoc]
  have inner : (payload.toolName.toList ++ closing.toList).length - closing.toList.length =
      payload.toolName.toList.length := by
    rw [List.length_append]
    omega
  rw [readPayload, chars, List.drop_left, inner, List.take_left, String.ofList_toList]

def payloadCodec : RedisStore.Codec (ActionPayload Unit) where
  dumps := payloadText
  loads := readPayload
  loads_dumps := read_payload_text
  dumps_filled := by
    intro payload blank
    have chars := congrArg String.toList blank
    rw [payloadText, String.toList_append, String.toList_append] at chars
    simp [opening] at chars

def resultCodec : RedisStore.Codec (Option Unit) where
  dumps
    | none => "null"
    | some _ => "\x7b\x7d"
  loads text := if text = "null" then some none else if text = "\x7b\x7d" then some (some ()) else none
  loads_dumps := by
    intro result
    cases result with
    | none => rfl
    | some value => rfl
  dumps_filled := by
    intro result
    cases result with
    | none => exact (by decide : "null" ≠ "")
    | some value => exact (by decide : "\x7b\x7d" ≠ "")

def emptyWire : RedisStore.Wire Unit := ⟨payloadCodec, resultCodec, rfl⟩

/-- `JSONB` keeps an empty object, and short identities fit an index. -/
def emptyServer : PostgresStore.Server Unit := ⟨some, fun _ => true⟩

def sampleSaga : Uuid := ⟨"00000000-0000-4000-8000-000000000000", by decide⟩

def emptyKeyCall : TimedCall Unit where
  now := "2026-01-01T00:00:00+00:00"
  call := .prepareEffect sampleSaga "s1" "deposit" ⟨"DEPOSIT", ()⟩ ⟨"WITHDRAW", ()⟩ (some "")

/-- Redis refuses the identical preparation that the docstring promises to
accept: it read the empty key back as `None`. -/
theorem identical_preparation_refused :
    (outcomes (RedisStore.serveRedis emptyWire 0) [emptyKeyCall, emptyKeyCall] .empty)[1]? =
        some none ∧
      ¬Interchangeable emptyWire 0 emptyServer [emptyKeyCall, emptyKeyCall] := by
  constructor
  · decide
  · intro both
    have harmless := (redis_agrees_iff emptyWire 0 _).mp both.1
    exact harmless.1 rfl rfl

end EmptyKey

end SagaMind.BackendAgreement
