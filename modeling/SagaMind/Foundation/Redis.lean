import Mathlib.Data.Finset.Basic
import Mathlib.Logic.Function.Basic
import SagaMind.Foundation.Program

/-!
# A Redis server

The documented meaning of the commands on hashes, lists and sets, of Lua
scripts, and of `WATCH` with `MULTI` and `EXEC`. A command is one indivisible
step, and so is a script. Replies that no client reads are left out.
-/

namespace Redis

open CallProgram

set_option autoImplicit false

inductive Value where
  | hash (fields : String → Option String)
  | list (items : List String)
  | set (members : Finset String)

/-- The keys, and how often each was written. -/
structure Server where
  keys : String → Option Value
  writes : String → Nat

/-- `WRONGTYPE`: the key holds another kind of value. -/
inductive Fault where
  | wrongType
  deriving DecidableEq

namespace Server

def empty : Server := ⟨fun _ => none, fun _ => 0⟩

def assign (server : Server) (key : String) (value : Option Value) : Server where
  keys := Function.update server.keys key value
  writes := Function.update server.writes key (server.writes key + 1)

def hash (server : Server) (key : String) : Except Fault (Option (String → Option String)) :=
  match server.keys key with
  | none => .ok none
  | some (.hash fields) => .ok (some fields)
  | some _ => .error .wrongType

def list (server : Server) (key : String) : Except Fault (List String) :=
  match server.keys key with
  | none => .ok []
  | some (.list items) => .ok items
  | some _ => .error .wrongType

def set (server : Server) (key : String) : Except Fault (Finset String) :=
  match server.keys key with
  | none => .ok ∅
  | some (.set members) => .ok members
  | some _ => .error .wrongType

def rewrite {Held Answer : Type} (server : Server) (key : String) (held : Except Fault Held)
    (answer : Answer) (change : Held → Option Value) : Except Fault Answer × Server :=
  match held with
  | .ok held => (.ok answer, server.assign key (change held))
  | .error fault => (.error fault, server)

end Server

def setFields (fields : String → Option String) (entries : List (String × String)) :
    String → Option String :=
  entries.foldl (fun fields entry => Function.update fields entry.1 (some entry.2)) fields

def putFields (entries : List (String × String)) (held : Option (String → Option String)) :
    Option Value :=
  some (.hash (setFields (held.getD fun _ => none) entries))

/-- The items from one index to another, both counted from the end if negative. -/
def slice (items : List String) (start stop : Int) : List String :=
  let first := if start < 0 then start + items.length else start
  let last := if stop < 0 then stop + items.length else stop
  (items.take (last + 1).toNat).drop first.toNat

inductive Command where
  | present (key : String)
  | hget (key field : String)
  | hgetall (key : String)
  | hset (key : String) (entries : List (String × String))
  | llen (key : String)
  | lrange (key : String) (start stop : Int)
  | lpush (key item : String)
  | rpush (key item : String)
  | sadd (key member : String)
  | srem (key member : String)
  | sismember (key member : String)
  /-- The answer stands for what the connection remembers of the key. -/
  | watch (key : String)
  /-- `MULTI`, `HSET` and `EXEC` on a watched key; `false` is a `WatchError`. -/
  | exec (key : String) (watched : Nat) (entries : List (String × String))

namespace Command

abbrev Answer : Command → Type
  | present _ => Bool
  | hget _ _ => Option String
  | hgetall _ => Option (String → Option String)
  | llen _ => Nat
  | lrange _ _ _ => List String
  | sismember _ _ => Bool
  | watch _ => Nat
  | exec _ _ _ => Bool
  | _ => Unit

def key : Command → String
  | present key => key
  | hget key _ => key
  | hgetall key => key
  | hset key _ => key
  | llen key => key
  | lrange key _ _ => key
  | lpush key _ => key
  | rpush key _ => key
  | sadd key _ => key
  | srem key _ => key
  | sismember key _ => key
  | watch key => key
  | exec key _ _ => key

def serve : (command : Command) → Server → Except Fault command.Answer × Server
  | present key, server => (.ok (server.keys key).isSome, server)
  | hget key field, server =>
      ((server.hash key).map fun held => held.bind fun fields => fields field, server)
  | hgetall key, server => (server.hash key, server)
  | hset key entries, server => server.rewrite key (server.hash key) () (putFields entries)
  | llen key, server => ((server.list key).map List.length, server)
  | lrange key start stop, server =>
      ((server.list key).map fun items => slice items start stop, server)
  | lpush key item, server =>
      server.rewrite key (server.list key) () fun items => some (.list (item :: items))
  | rpush key item, server =>
      server.rewrite key (server.list key) () fun items => some (.list (items ++ [item]))
  | sadd key member, server =>
      server.rewrite key (server.set key) () fun members => some (.set (insert member members))
  | srem key member, server =>
      server.rewrite key (server.set key) () fun members =>
        if members.erase member = ∅ then none else some (.set (members.erase member))
  | sismember key member, server =>
      ((server.set key).map fun members => decide (member ∈ members), server)
  | watch key, server => (.ok (server.writes key), server)
  | exec key watched entries, server =>
      if server.writes key = watched then
        server.rewrite key (server.hash key) true (putFields entries)
      else (.ok false, server)

end Command

abbrev commandFace : Interface := ⟨Command, Command.Answer, Fault⟩

inductive Request (Script : Type) where
  | plain (command : Command)
  | eval (script : Script) (keys argv : List String)

namespace Request

variable {Script : Type}

abbrev Answer : Request Script → Type
  | .plain command => command.Answer
  | .eval _ _ _ => Nat

def serve (body : Script → List String → List String → Program commandFace Fault Nat) :
    (request : Request Script) → Server → Except Fault request.Answer × Server
  | .plain command, server => command.serve server
  | .eval script keys argv, server => (body script keys argv).evaluate Command.serve server

end Request

abbrev face (Script : Type) : Interface := ⟨Request Script, Request.Answer, Fault⟩

section Laws

variable {server : Server} {key other : String}

@[simp] theorem keys_assign (value : Option Value) :
    (server.assign key value).keys other = if other = key then value else server.keys other := by
  exact Function.update_apply ..

theorem rewrite_other {Held Answer : Type} (held : Except Fault Held) (answer : Answer)
    (change : Held → Option Value) (apart : other ≠ key) :
    (server.rewrite key held answer change).2.keys other = server.keys other := by
  cases held with
  | ok held => exact (keys_assign _).trans (if_neg apart)
  | error fault => rfl

theorem serve_other (command : Command) (apart : other ≠ command.key) :
    (command.serve server).2.keys other = server.keys other := by
  cases command with
  | hset => exact rewrite_other _ _ _ apart
  | lpush => exact rewrite_other _ _ _ apart
  | rpush => exact rewrite_other _ _ _ apart
  | sadd => exact rewrite_other _ _ _ apart
  | srem => exact rewrite_other _ _ _ apart
  | exec key watched entries =>
      by_cases fresh : server.writes key = watched
      · simp only [Command.serve, if_pos fresh]
        exact rewrite_other _ _ _ apart
      · simp only [Command.serve, if_neg fresh]
  | _ => rfl

@[simp] theorem slice_all (items : List String) : slice items 0 (-1) = items := by
  have whole : (-1 + (items.length : Int) + 1).toNat = items.length := by omega
  simp [slice, whole]

theorem slice_first (items : List String) (count : Nat) :
    slice items 0 count = items.take (count + 1) := by
  have short : ¬(count : Int) < 0 := by omega
  simp [slice, short]

end Laws

end Redis
