import SagaMind.Foundation.Json.RoundTrip
import SagaMind.Foundation.Words
import SagaMind.Sandbox.Execution

/-!
# The worker of the sandbox

`_execute_worker` of the parent and `main` of `sandbox_worker`, with the JSON
texts that go through the pipes between them. The worker ends by itself, or it
is stopped or struck by an exception in the middle of its handler. A temporary
file that it leaves then is not modelled, and neither are the settings that it
reads for itself.
-/

namespace SagaMind.Sandbox

open CallProgram FileTree KeyedTable Json

set_option autoImplicit false

section Documents

mutual

/-- A value as `json.dumps` takes it. -/
def toJson : Value → Json.Value PyFloat
  | .null => .null
  | .str text => .str text
  | .bool flag => .bool flag
  | .int number => .int number
  | .float number => .real number
  | .list items => .arr (toJsonItems items)
  | .dict entries => .obj (toJsonEntries entries)

def toJsonItems : List Value → List (Json.Value PyFloat)
  | [] => []
  | item :: items => toJson item :: toJsonItems items

def toJsonEntries : List (String × Value) → List (String × Json.Value PyFloat)
  | [] => []
  | (key, value) :: entries => (key, toJson value) :: toJsonEntries entries

end

mutual

/-- A value as `json.loads` gives it. -/
def ofJson : Json.Value PyFloat → Value
  | .null => .null
  | .str text => .str text
  | .bool flag => .bool flag
  | .int number => .int number
  | .real number => .float number
  | .arr items => .list (ofJsonItems items)
  | .obj entries => .dict (ofJsonEntries entries)

def ofJsonItems : List (Json.Value PyFloat) → List Value
  | [] => []
  | item :: items => ofJson item :: ofJsonItems items

def ofJsonEntries : List (String × Json.Value PyFloat) → List (String × Value)
  | [] => []
  | (key, value) :: entries => (key, ofJson value) :: ofJsonEntries entries

end

mutual

theorem of_to_json : ∀ value : Value, ofJson (toJson value) = value
  | .null => rfl
  | .str _ => rfl
  | .bool _ => rfl
  | .int _ => rfl
  | .float _ => rfl
  | .list items => congrArg Value.list (of_to_json_items items)
  | .dict entries => congrArg Value.dict (of_to_json_entries entries)

theorem of_to_json_items : ∀ items : List Value, ofJsonItems (toJsonItems items) = items
  | [] => rfl
  | item :: items => congrArg₂ List.cons (of_to_json item) (of_to_json_items items)

theorem of_to_json_entries : ∀ entries : List (String × Value),
    ofJsonEntries (toJsonEntries entries) = entries
  | [] => rfl
  | (key, value) :: entries =>
      congrArg₂ List.cons (congrArg (Prod.mk key) (of_to_json value)) (of_to_json_entries entries)

end

theorem to_json_keys (entries : List (String × Value)) :
    (toJsonEntries entries).map Prod.fst = entries.map Prod.fst := by
  induction entries with
  | nil => rfl
  | cons entry entries ih => exact congrArg (List.cons entry.1) ih

def argumentsOf (entries : List (String × Value)) : Arguments :=
  if distinct : (entries.map Prod.fst).Nodup then ⟨entries, distinct⟩ else .empty

theorem arguments_of_rows (arguments : Arguments) : argumentsOf arguments.rows = arguments :=
  dif_pos arguments.distinct

/-- `response.get(key)`, of a dictionary. -/
def member (entries : List (String × Json.Value PyFloat)) (key : String) :
    Option (Json.Value PyFloat) :=
  (entries.find? fun row => row.1 = key).map Prod.snd

end Documents

structure Platform where
  floats : Floats PyFloat
  /-- What the worker reads of a text, in UTF-8 mode and without fail. -/
  pipe : List Char → List Char
  pipe_ascii : ∀ text, (∀ c ∈ text, Printable c) → pipe text = text
  /-- What the parent makes of an output: `text=True` decodes strictly, so a
  `UnicodeDecodeError` may take the place of the text. -/
  decoded : List Char → Except String (List Char)
  decoded_ascii : ∀ text, (∀ c ∈ text, Printable c) → decoded text = .ok text
  /-- The text of a `JSONDecodeError`. -/
  decodeError : List Char → String
  /-- `f"{seconds:g}"`. -/
  general : ℚ → String

/-- The limits of `WasmSandbox`, as the settings have them. -/
structure WorkerLimits where
  workerTimeoutS : ℚ
  maxOutputBytes : Nat
  positive : 0 < workerTimeoutS

section Requests

variable (root : Path) (self : WasmSandbox) (limits : WorkerLimits) (tool : ToolDefinition)
  (arguments : Arguments) (compensation : Bool)

/-- `max(1, int(self.worker_timeout_s) + 1)`. -/
def cpuSeconds (limits : WorkerLimits) : Int := max 1 (limits.workerTimeoutS.floor + 1)

def workerRequest : Json.Value PyFloat :=
  .obj [
    ("tool_name", .str tool.name),
    ("arguments", .obj (toJsonEntries arguments.rows)),
    ("compensation", .bool compensation),
    ("workspace_root", .str root.text),
    ("memory_mb", .int (min self.memoryLimitMb tool.capabilities.memoryMb : Nat)),
    ("cpu_seconds", .int (cpuSeconds limits))]

end Requests

section Working

variable (library : Library) (platform : Platform)

/-- A handler whose exceptions are shown as `main` shows them. -/
def shownErrors {Answer : Type} (handler : Handler Answer) : Program FileTree.face String Answer :=
  handler.attempt fun failure => .raise (failure.describe library)

/-- `asdict(result)`. -/
def resultJson (result : SandboxResult) : Json.Value PyFloat :=
  .obj [
    ("success", .bool result.success),
    ("status", .str result.status),
    ("data", .obj (toJsonEntries result.data.rows)),
    ("error", (result.error.map Json.Value.str).getD .null)]

/-- `bool(value)`. -/
def jsonTruthy (value : Option (Json.Value PyFloat)) : Bool := Value.truthy (value.map ofJson)

/-- `worker_execute`, without the identity of the process. -/
def workerExecute (root : Path) (entries : List (String × Json.Value PyFloat)) :
    Program FileTree.face String (Json.Value PyFloat) :=
  match member entries "tool_name" with
  | some (.str name) =>
      match (registry library root).get library name with
      | .error message => .raise ("SandboxError: " ++ message)
      | .ok tool =>
          if tool.isolatedBuiltin = false then
            .raise ("SandboxError: Tool '" ++ name ++ "' is not a bundled isolated worker tool.")
          else
            match member entries "arguments" with
            | some (.obj arguments) =>
                if jsonTruthy (member entries "compensation") = true then
                  if (registry library root).isCompensationAllowed name = false then
                    .raise ("SandboxError: Tool '" ++ name ++ "' is not allowed as compensation.")
                  else
                    match tool.compensationHandler with
                    | none =>
                        .raise ("SandboxError: Tool '" ++ name ++
                          "' is not allowed as compensation.")
                    | some handler => do
                        let done ← shownErrors library
                          (handler (argumentsOf (ofJsonEntries arguments)))
                        pure (.bool done)
                else do
                  let result ← shownErrors library
                    (tool.handler (argumentsOf (ofJsonEntries arguments)))
                  pure (resultJson result)
            | _ => .raise "SandboxError: Worker arguments must be an object."
  | _ => .raise "SandboxError: Worker request has no valid tool_name."

/-- The part of `main` that is tried. `limiting` is the error of setting the
resource limits, if there is one. -/
def workerTry (limiting : Option String) (stdin : List Char) :
    Program FileTree.face String (Json.Value PyFloat) :=
  match read platform.floats stdin with
  | none => .raise ("JSONDecodeError: " ++ platform.decodeError stdin)
  | some (.obj entries) =>
      match limiting with
      | some error => .raise error
      | none =>
          match member entries "workspace_root" with
          | some (.str text) =>
              if text.toList.head? = some '/' then
                match realpath .root text with
                | none => .raise "ValueError: lstat: embedded null character in path"
                | some root => workerExecute library root entries
              else .raise "ValueError: workspace_root must be an absolute path"
          | _ => .raise "ValueError: workspace_root must be an absolute path"
  | some _ => .raise "ValueError: request must be a JSON object"

mutual

/-- Whether `json.dumps(..., allow_nan=False)` takes a value. -/
def finite : Json.Value PyFloat → Bool
  | .real number => match number with
    | .finite _ => true
    | _ => false
  | .arr items => finiteItems items
  | .obj entries => finiteEntries entries
  | _ => true

def finiteItems : List (Json.Value PyFloat) → Bool
  | [] => true
  | item :: items => finite item && finiteItems items

def finiteEntries : List (String × Json.Value PyFloat) → Bool
  | [] => true
  | (_, value) :: entries => finite value && finiteEntries entries

end

def workerResponse (pid : Nat) : Except String (Json.Value PyFloat) → Json.Value PyFloat
  | .ok result => .obj [("ok", .bool true), ("result", result), ("worker_pid", .int pid)]
  | .error error => .obj [("ok", .bool false), ("error", .str error)]

/-- What the parent learns of a worker. -/
inductive Completed where
  | timedOut
  | notStarted (message : String)
  | undecodable (message : String)
  | exited (code : Int) (stdout stderr : List Char)

/-- What `subprocess.run` makes of a worker that has ended with these outputs. -/
def Platform.completed (platform : Platform) (code : Int) (stdout stderr : List Char) : Completed :=
  match platform.decoded stdout, platform.decoded stderr with
  | .error message, _ => .undecodable message
  | .ok _, .error message => .undecodable message
  | .ok output, .ok diagnostics => .exited code output diagnostics

/-- `main` with a worker that may be stopped between two calls of its handler.
`struck` is the exception from outside that strikes it in what it tries, if there
is one, such as a `MemoryError` under the limit that it has set itself; no handler
catches such an exception. -/
inductive WorkerRun (failing : FileTree.Call → Option Errno) (limiting struck : Option String)
    (pid : Nat) (stdin : List Char) (tree : Tree) : Completed → Tree → Prop
  | notStarted (message : String) :
      WorkerRun failing limiting struck pid stdin tree (.notStarted message) tree
  /-- `main` returns zero. -/
  | returned {after : Tree} {outcome : Except String (Json.Value PyFloat)} {stderr : List Char}
      (spared : struck = none)
      (ran : (workerTry library platform limiting (platform.pipe stdin)).evaluate
        (Call.serve failing) tree = (outcome, after))
      (taken : finite (workerResponse pid outcome) = true) :
      WorkerRun failing limiting struck pid stdin tree (platform.completed 0
        (write platform.floats compact (workerResponse pid outcome)) stderr) after
  /-- `main` catches what has struck it, answers with it and returns zero. -/
  | interrupted {after : Tree} {later : Program FileTree.face String (Json.Value PyFloat)}
      {error : String} {stderr : List Char} (strikes : struck = some error)
      (steps : Steps (CallProgram.served (Call.serve failing))
        (workerTry library platform limiting (platform.pipe stdin)) tree later after) :
      WorkerRun failing limiting struck pid stdin tree (platform.completed 0
        (write platform.floats compact (workerResponse pid (.error error))) stderr) after
  /-- The response is refused, and the exception leaves `main`. -/
  | refused {after : Tree} {outcome : Except String (Json.Value PyFloat)} {stderr : List Char}
      (spared : struck = none)
      (ran : (workerTry library platform limiting (platform.pipe stdin)).evaluate
        (Call.serve failing) tree = (outcome, after))
      (refused : finite (workerResponse pid outcome) = false) :
      WorkerRun failing limiting struck pid stdin tree (platform.completed 1 [] stderr) after
  | timedOut {after : Tree} {later : Program FileTree.face String (Json.Value PyFloat)}
      (steps : Steps (CallProgram.served (Call.serve failing))
        (workerTry library platform limiting (platform.pipe stdin)) tree later after) :
      WorkerRun failing limiting struck pid stdin tree .timedOut after
  /-- A signal or a resource limit. -/
  | killed {after : Tree} {later : Program FileTree.face String (Json.Value PyFloat)} {code : Int}
      {stdout stderr : List Char}
      (steps : Steps (CallProgram.served (Call.serve failing))
        (workerTry library platform limiting (platform.pipe stdin)) tree later after)
      (failed : code ≠ 0) :
      WorkerRun failing limiting struck pid stdin tree (platform.completed code stdout stderr) after

end Working

section Receiving

variable (library : Library) (platform : Platform) (limits : WorkerLimits)
  (manifest : CapabilityManifest)

/-- What the parent raises: besides its own failures the `UnicodeDecodeError` of
the outputs, and another exception where the response has a shape that no worker
sends. -/
inductive ParentError where
  | raised (failure : Failure)
  | unicodeDecode (message : String)
  | shape
  deriving DecidableEq

/-- `completed.stderr.strip()[:1_000] or "no diagnostic"`. -/
def diagnostic (stderr : List Char) : String :=
  match (Words.strip Contracts.isSpace stderr).take 1000 with
  | [] => "no diagnostic"
  | text => String.ofList text

/-- `SandboxResult(**result_data)`. -/
def resultOf (entries : List (String × Json.Value PyFloat)) : Except ParentError SandboxResult :=
  match entries with
  | [("success", .bool success), ("status", .str status), ("data", .obj data), ("error", .null)] =>
      .ok ⟨success, status, argumentsOf (ofJsonEntries data), none⟩
  | [("success", .bool success), ("status", .str status), ("data", .obj data),
      ("error", .str error)] =>
      .ok ⟨success, status, argumentsOf (ofJsonEntries data), some error⟩
  | _ => .error .shape

/-- `result.data.setdefault("isolation", ...)`. -/
def isolated (pid : Value) (result : SandboxResult) : SandboxResult :=
  if result.data.get "isolation" = none then
    { result with data := result.data.put ("isolation",
        .dict [("backend", .str "isolated-worker"), ("worker_pid", pid)]) }
  else result

/-- The rest of `_execute_worker`, after the process. -/
def receive (compensation : Bool) : Completed → Except ParentError SandboxResult
  | .timedOut => .error (.raised (.sandbox ("Isolated worker exceeded " ++
      platform.general limits.workerTimeoutS ++ "s timeout.")))
  | .notStarted message => .error (.raised (.sandbox ("Unable to start isolated worker: " ++ message)))
  | .undecodable message => .error (.unicodeDecode message)
  | .exited code stdout stderr =>
      let effectiveOutputLimit := min limits.maxOutputBytes manifest.outputBytes
      if effectiveOutputLimit < (String.ofList stdout).utf8ByteSize then
        .error (.raised (.sandbox ("Isolated worker output exceeded " ++
          effectiveOutputLimit.repr ++ " bytes.")))
      else if code ≠ 0 then
        .error (.raised (.sandbox ("Isolated worker exited " ++ toString code ++ ": " ++
          diagnostic stderr)))
      else
        match read platform.floats stdout with
        | none => .error (.raised (.sandbox "Isolated worker returned malformed output."))
        | some (.obj response) =>
            if jsonTruthy (member response "ok") = false then
              .error (.raised (.sandbox (match member response "error" with
                | none => "isolated worker failed"
                | some error => pathText library (some (ofJson error)))))
            else if compensation = true then
              .ok { success := jsonTruthy (member response "result") }
            else
              match member response "result" with
              | some (.obj entries) =>
                  (resultOf entries).map
                    (isolated (((member response "worker_pid").map ofJson).getD .null))
              | _ => .error (.raised (.sandbox "Isolated worker returned an invalid result shape."))
        | some _ => .error .shape

end Receiving

section Boundary

variable (library : Library) (root : Path) (verify : Arguments → String → PolicyDecision)
  (self : WasmSandbox) (limits : WorkerLimits) (platform : Platform)
  (failing : FileTree.Call → Option Errno) (limiting struck : Option String) (pid : Nat)

def sent (tool : ToolDefinition) (arguments : Arguments) (compensation : Bool) : List Char :=
  write platform.floats compact (workerRequest root self limits tool arguments compensation)

/-- `WasmSandbox.execute`, with the process that it starts, if it starts one. -/
inductive ExecutesInWorker (action : ActionPayload Arguments) (tree : Tree) :
    Option Completed → Except ParentError SandboxResult → Tree → Prop
  | refused {failure : Failure} (invalid : validate library root verify self action = .error failure) :
      ExecutesInWorker action tree none (.error (.raised failure)) tree
  | unavailable {tool : ToolDefinition} (valid : validate library root verify self action = .ok tool)
      (custom : tool.isolatedBuiltin = false) :
      ExecutesInWorker action tree none (.error (.raised (.sandbox ("Tool '" ++ tool.name ++
        "' has no isolated backend; explicit development host fallback is disabled.")))) tree
  | worked {tool : ToolDefinition} {completed : Completed} {after : Tree}
      (valid : validate library root verify self action = .ok tool)
      (builtin : tool.isolatedBuiltin = true)
      (ran : WorkerRun library platform failing limiting struck pid
        (sent root self limits platform tool action.arguments false) tree completed after) :
      ExecutesInWorker action tree (some completed)
        (receive library platform limits tool.capabilities false completed) after

/-- The checks of a compensation, in the order of `execute_compensation`. -/
def admitCompensation (compensation : ActionPayload Arguments) :
    Except (Except Failure Bool) (ToolDefinition × (Arguments → Handler Bool)) :=
  if (registry library root).isCompensationAllowed compensation.toolName = false then
    .error (.ok false)
  else
    match (registry library root).get library compensation.toolName with
    | .error message => .error (.error (.sandbox message))
    | .ok tool =>
        match tool.compensationHandler with
        | none => .error (.ok false)
        | some handler =>
            match (do
              validatePolicy library root verify tool compensation.arguments
              validateCapabilities library root self tool compensation.arguments : Except Failure Unit)
            with
            | .error (.sandbox _) => .error (.ok false)
            | .error failure => .error (.error failure)
            | .ok _ => if tool.isolatedBuiltin = true then .ok (tool, handler) else .error (.ok false)

/-- A `SandboxError` of the process is caught. -/
def settled : Except ParentError SandboxResult → Except ParentError Bool
  | .ok result => .ok result.success
  | .error (.raised (.sandbox _)) => .ok false
  | .error error => .error error

/-- `WasmSandbox.execute_compensation`, with its process. -/
inductive CompensatesInWorker (compensation : ActionPayload Arguments) (tree : Tree) :
    Option Completed → Except ParentError Bool → Tree → Prop
  | refused {outcome : Except Failure Bool}
      (stopped : admitCompensation library root verify self compensation = .error outcome) :
      CompensatesInWorker compensation tree none (outcome.mapError .raised) tree
  | worked {tool : ToolDefinition} {handler : Arguments → Handler Bool} {completed : Completed}
      {after : Tree}
      (admitted : admitCompensation library root verify self compensation = .ok (tool, handler))
      (ran : WorkerRun library platform failing limiting struck pid
        (sent root self limits platform tool compensation.arguments true) tree completed after) :
      CompensatesInWorker compensation tree (some completed)
        (settled (receive library platform limits tool.capabilities true completed)) after

end Boundary

end SagaMind.Sandbox
