import Mathlib.Data.Finset.Basic
import SagaMind.Contracts.Verifier
import SagaMind.Sandbox.FileTools

/-!
# The tool registry

Tool definitions with their capability contracts, and the registry that accepts
them. Tools that run as WASI modules are left out.
-/

namespace SagaMind.Sandbox

open CallProgram KeyedTable

set_option autoImplicit false

structure FilesystemCapabilities where
  read : List String := []
  write : List String := []

/-- What a tool may use, with what `__post_init__` demands. -/
structure CapabilityManifest where
  filesystem : FilesystemCapabilities := {}
  network : List String := []
  environment : List String := []
  fuel : Nat := 1000000
  memoryMb : Nat := 256
  outputBytes : Nat := 65536
  limited : 0 < fuel ∧ 0 < memoryMb ∧ 0 < outputBytes := by decide
  variableNames : ∀ name ∈ environment, name ≠ "" ∧ '=' ∉ name.toList := by decide

structure ToolDefinition where
  name : String
  handler : Arguments → Handler SandboxResult
  compensationHandler : Option (Arguments → Handler Bool) := none
  allowedAsCompensation : Bool := false
  capabilities : CapabilityManifest := {}
  pathArguments : List (String × String) := []
  isolatedBuiltin : Bool := false
  mutating : Option Bool := none
  policy : Option ToolPolicy := none
  requiresVerifiedCompensation : Bool := false
  compensationCertificate : Option Contracts.VerificationCertificate := none
  implementationIdentity : Option String := none

def ToolDefinition.isMutating (tool : ToolDefinition) : Bool := decide (tool.mutating = some true)

structure ToolRegistry where
  tools : Table ToolDefinition.name := .empty
  compTools : Finset String := ∅

namespace ToolRegistry

variable (host : Contracts.Host)

def certified (tool : ToolDefinition) : Except String Unit :=
  if tool.requiresVerifiedCompensation = false then .ok ()
  else
    match tool.compensationCertificate with
    | none => .error ("Tool '" ++ tool.name ++ "' requires a proved compensation certificate.")
    | some certificate =>
        if certificate.status ≠ .proved then
          .error ("Tool '" ++ tool.name ++ "' requires a proved compensation certificate.")
        else
          match tool.implementationIdentity with
          | none => .error ("Tool '" ++ tool.name ++ "' requires an implementation identity.")
          | some identity =>
              if identity = "" then
                .error ("Tool '" ++ tool.name ++ "' requires an implementation identity.")
              else if certificate.implementationHash ≠
                  Contracts.implementationHash host identity then
                .error ("Tool '" ++ tool.name ++
                  "' compensation certificate is for another implementation.")
              else .ok ()

/-- The checks of `register`, in order. -/
def accepts (tool : ToolDefinition) : Except String Unit :=
  if tool.mutating = none then
    .error ("Tool '" ++ tool.name ++ "' must explicitly declare whether it mutates state.")
  else if tool.capabilities.filesystem.write ≠ [] ∧ tool.mutating ≠ some true then
    .error ("Tool '" ++ tool.name ++ "' has write capability and must declare mutating=True.")
  else if tool.isMutating = true ∧ tool.policy.isNone = true then
    .error ("Mutating tool '" ++ tool.name ++ "' requires a typed policy.")
  else
    match tool.policy.filter fun policy => decide (policy.toolName ≠ tool.name) with
    | some policy =>
        .error ("Policy for '" ++ policy.toolName ++ "' cannot be attached to tool '" ++
          tool.name ++ "'.")
    | none => certified host tool

/-- `register`; a refusal is a `SandboxError`. -/
def register (self : ToolRegistry) (tool : ToolDefinition) (allowAsCompensation : Bool) :
    Except String ToolRegistry :=
  match accepts host tool with
  | .error message => .error message
  | .ok () => .ok {
      tools := self.tools.put tool
      compTools := if allowAsCompensation then insert tool.name self.compTools else self.compTools }

def unregister (self : ToolRegistry) (name : String) : ToolRegistry where
  tools := self.tools.erase name
  compTools := self.compTools.erase name

def get (library : Library) (self : ToolRegistry) (name : String) : Except String ToolDefinition :=
  match self.tools.find? name with
  | some tool => .ok tool
  | none =>
      let names := (self.tools.rows.map ToolDefinition.name).mergeSort fun left right => left ≤ right
      .error ("Tool '" ++ name ++ "' is not registered. Allowed: [" ++
        ", ".intercalate (names.map library.repr) ++ "]")

def isCompensationAllowed (self : ToolRegistry) (name : String) : Bool :=
  decide (name ∈ self.compTools)

end ToolRegistry

end SagaMind.Sandbox
