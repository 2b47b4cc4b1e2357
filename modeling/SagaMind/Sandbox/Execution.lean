import SagaMind.Models
import SagaMind.Sandbox.ToolRegistry

/-!
# The sandbox

The built-in tools, and `execute` and `execute_compensation` of the sandbox in
isolated mode. A request crosses the worker boundary as JSON, which leaves it as
it is; a worker that is stopped from outside is not modelled.
-/

namespace SagaMind.Sandbox

open CallProgram FileTree KeyedTable

set_option autoImplicit false

structure WasmSandbox where
  memoryLimitMb : Nat := 256
  sufficient : 64 ≤ memoryLimitMb := by decide

section Builtins

variable (library : Library) (root : Path)

def workspaceWrite : CapabilityManifest := { filesystem := { write := ["**"] } }

def writeFileTool : ToolDefinition where
  name := "WRITE_FILE"
  handler := handleWriteFile library root
  capabilities := workspaceWrite
  pathArguments := [("path", "write")]
  isolatedBuiltin := true
  mutating := some true
  policy := builtinPolicies.find? "WRITE_FILE"

def deleteFileTool : ToolDefinition where
  name := "DELETE_FILE"
  handler := handleDeleteFile library root
  compensationHandler := some (compDeleteFile library root)
  allowedAsCompensation := true
  capabilities := workspaceWrite
  pathArguments := [("path", "write")]
  isolatedBuiltin := true
  mutating := some true
  policy := builtinPolicies.find? "DELETE_FILE"

def restoreFileTool : ToolDefinition where
  name := "RESTORE_FILE"
  handler := handleRestoreFile library root
  compensationHandler := some (compRestoreFile library root)
  allowedAsCompensation := true
  capabilities := workspaceWrite
  pathArguments := [("path", "write")]
  isolatedBuiltin := true
  mutating := some true
  policy := builtinPolicies.find? "RESTORE_FILE"

def noopTool : ToolDefinition where
  name := "NOOP"
  handler := fun _ => pure { success := true }
  compensationHandler := some fun _ => pure true
  allowedAsCompensation := true
  isolatedBuiltin := true
  mutating := some false

def registry : ToolRegistry where
  tools := ⟨[writeFileTool library root, deleteFileTool library root, restoreFileTool library root,
    noopTool], by simp [writeFileTool, deleteFileTool, restoreFileTool, noopTool]⟩
  compTools := {"NOOP", "RESTORE_FILE", "DELETE_FILE"}

end Builtins

section Running

variable (library : Library) (root : Path) (verify : Arguments → String → PolicyDecision)

def pathMatches (relative : String) (patterns : List String) : Bool :=
  patterns.any fun pattern => decide (pattern = "**") || library.fnmatchcase relative pattern

/-- `os.path.relpath`, of a path below the root. -/
def relativePath (path : Path) : String :=
  match path.names.drop root.names.length with
  | [] => "."
  | names => "/".intercalate names

def validatePolicy (tool : ToolDefinition) (arguments : Arguments) : Except Failure Unit :=
  if tool.isMutating = false then .ok ()
  else
    match tool.policy with
    | none => .error (.sandbox ("Mutating tool '" ++ tool.name ++ "' has no typed policy."))
    | some policy =>
        match ToolPolicyRegistry.require library (containPath root) verify
            ⟨[policy], List.nodup_singleton _⟩ tool.name arguments true with
        | .error error => .error (.value error)
        | .ok decision =>
            if decision.allowed then .ok ()
            else
              .error (.sandbox ("Typed policy rejected '" ++ tool.name ++ "' (" ++
                (decision.violatedProperty.filter fun property => property ≠ "").getD
                  decision.status.value ++ "): " ++ decision.explanation))

/-- One path argument of `_validate_capabilities`. -/
def validatePath (tool : ToolDefinition) (arguments : Arguments) (entry : String × String) :
    Except Failure Unit :=
  match arguments.get entry.1 with
  | none => .ok ()
  | some .null => .ok ()
  | some (.str raw) =>
      match containPath root raw with
      | .error (.security message) => .error (.sandbox message)
      | .error (.value error) => .error (.value error)
      | .ok path =>
          let relative := relativePath root path
          let patterns := if entry.2 = "read" then tool.capabilities.filesystem.read
            else tool.capabilities.filesystem.write
          if (entry.2 ≠ "read" ∧ entry.2 ≠ "write") ∨
              pathMatches library relative patterns = false then
            .error (.sandbox ("Tool '" ++ tool.name ++ "' lacks " ++ library.repr entry.2 ++
              " capability for workspace path '" ++ relative ++ "'."))
          else .ok ()
  | some _ => .error (.sandbox ("Path argument '" ++ entry.1 ++ "' must be a string."))

def validateCapabilities (self : WasmSandbox) (tool : ToolDefinition) (arguments : Arguments) :
    Except Failure Unit := do
  if min tool.capabilities.memoryMb self.memoryLimitMb < 64 then
    .error (.sandbox "Effective worker memory limit is too small to start safely.")
  else
    tool.pathArguments.forM (validatePath library root tool arguments)
    if tool.isolatedBuiltin = true ∧ tool.capabilities.network ≠ [] then
      .error (.sandbox "Python worker tools cannot request network capabilities.")
    else .ok ()

def validate (self : WasmSandbox) (action : ActionPayload Arguments) :
    Except Failure ToolDefinition := do
  let tool ← ((registry library root).get library action.toolName).mapError Failure.sandbox
  validatePolicy library root verify tool action.arguments
  validateCapabilities library root self tool action.arguments
  pure tool

/-- `f"{type(exc).__name__}: {exc}"`. -/
def Failure.describe : Failure → String
  | sandbox message => "SandboxError: " ++ message
  | os errno => library.errorClass errno ++ ": " ++ library.strerror errno
  | value .nullCharacter => "ValueError: lstat: embedded null character in path"

/-- `_execute_worker`: every exception of the worker comes back as a text. -/
def executeWorker {Answer : Type} (handler : Arguments → Handler Answer) (arguments : Arguments) :
    Handler Answer :=
  (handler arguments).attempt fun failure => .raise (.sandbox (failure.describe library))

def execute (self : WasmSandbox) (action : ActionPayload Arguments) : Handler SandboxResult := do
  let tool ← Program.ended (validate library root verify self action)
  if tool.isolatedBuiltin = true then executeWorker library tool.handler action.arguments
  else .raise (.sandbox ("Tool '" ++ tool.name ++
    "' has no isolated backend; explicit development host fallback is disabled."))

def executeCompensation (self : WasmSandbox) (compensation : ActionPayload Arguments) :
    Handler Bool := do
  if (registry library root).isCompensationAllowed compensation.toolName = false then pure false
  else
    let tool ← Program.ended
      (((registry library root).get library compensation.toolName).mapError Failure.sandbox)
    match tool.compensationHandler with
    | none => pure false
    | some handler =>
        Program.attempt (do
          Program.ended (validatePolicy library root verify tool compensation.arguments)
          Program.ended (validateCapabilities library root self tool compensation.arguments)
          if tool.isolatedBuiltin = true then executeWorker library handler compensation.arguments
          else pure false)
          fun failure => match failure with
            | .sandbox _ => pure false
            | other => .raise other

end Running

end SagaMind.Sandbox
