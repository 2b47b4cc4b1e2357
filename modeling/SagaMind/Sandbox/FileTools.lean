import SagaMind.Foundation.Triple
import SagaMind.Sandbox.Policy

/-!
# The built-in file tools

The handlers of `WRITE_FILE`, `DELETE_FILE` and `RESTORE_FILE` and of their
compensations, as programs over the calls of the operating system. The policy
lets only strings through as paths, so `str(raw_path)` is the path itself there.
-/

namespace SagaMind.Sandbox

open CallProgram FileTree KeyedTable

set_option autoImplicit false

/-- The exceptions that leave a handler. -/
inductive Failure where
  /-- `SandboxError`. -/
  | sandbox (message : String)
  /-- `OSError`. -/
  | os (errno : Errno)
  | value (error : ValueError)
  deriving DecidableEq

structure SandboxResult where
  success : Bool
  status : String := "SUCCESS"
  data : Arguments := .empty
  error : Option String := none

abbrev Handler (Answer : Type) : Type := Program FileTree.face Failure Answer

section Handlers

variable (library : Library) (root : Path)

def disk (request : Call) : Handler request.Answer :=
  (@Program.perform FileTree.face request).attempt fun errno => .raise (.os errno)

/-- `except OSError as exc: raise SandboxError(...) from exc`. -/
def explained {Answer : Type} (prelude : String) (program : Handler Answer) : Handler Answer :=
  program.attempt fun failure => match failure with
    | .os errno => .raise (.sandbox (prelude ++ library.strerror errno))
    | other => .raise other

/-- `str(raw_path)`. -/
def pathText (raw : Option Value) : String :=
  match raw with
  | some (.str text) => text
  | some value => library.str value
  | none => library.str .null

/-- `contain_path(str(raw_path))`. -/
def safePath (raw : Option Value) : Handler Path :=
  match containPath root (pathText library raw) with
  | .ok path => pure path
  | .error (.security message) => .raise (.sandbox message)
  | .error (.value error) => .raise (.value error)

def fileSha256 (path : Path) : Handler String := do
  let bytes ← disk (.read path)
  return library.sha256 bytes

/-- `value is True`. -/
def isTrue : Option Value → Bool
  | some (.bool flag) => flag
  | _ => false

def checkFilePrecondition (path : Path) (args : Arguments) : Handler Unit :=
  let expectedHash := args.get "expected_sha256"
  let expectedAbsent := args.get "expected_absent"
  if Value.given expectedHash = true ∧ Value.given expectedAbsent = true then
    .raise (.sandbox "Only one file precondition may be supplied.")
  else do
    let standing ← disk (.isFile path)
    if isTrue expectedAbsent = true ∧ standing = true then
      .raise (.sandbox "File precondition failed: expected path to be absent.")
    else if Value.given expectedHash = false then pure ()
    else if standing = false then
      .raise (.sandbox "File precondition failed: content hash changed.")
    else do
      let digest ← fileSha256 library path
      if Value.equals (.str digest) (expectedHash.getD .null) = true then pure ()
      else .raise (.sandbox "File precondition failed: content hash changed.")

/-- `_handle_write_file`. The directories are made before the check. -/
def handleWriteFile (args : Arguments) : Handler SandboxResult :=
  if Value.truthy (args.get "path") = false then
    .raise (.sandbox "WRITE_FILE requires a 'path' argument.")
  else
    match (args.get "content").getD (.str "") with
    | .str content => do
        let path ← safePath library root (args.get "path")
        explained library "Failed to write file: " do
          let _ ← disk (.makedirs path.parent)
          checkFilePrecondition library path args
          let _ ← disk (.replace path (encode content))
          pure { success := true
                 data := ⟨[("written_path", .str path.text), ("bytes", .int content.length)],
                   by simp⟩ }
    | _ => .raise (.sandbox "WRITE_FILE 'content' must be a string.")

def handleDeleteFile (args : Arguments) : Handler SandboxResult :=
  if Value.truthy (args.get "path") = false then pure { success := true }
  else do
    let path ← safePath library root (args.get "path")
    checkFilePrecondition library path args
    let standing ← disk (.present path)
    if standing = false then pure { success := true }
    else
      explained library "Failed to delete file: " do
        let _ ← disk (.remove path)
        pure { success := true
               data := ⟨[("deleted_path", .str path.text)], by simp⟩ }

/-- `_comp_delete_file`. No precondition is looked at. -/
def compDeleteFile (args : Arguments) : Handler Bool :=
  if Value.truthy (args.get "path") = false then pure true
  else
    Program.attempt (do
      let path ← safePath library root (args.get "path")
      let standing ← disk (.present path)
      if standing = false then pure true
      else do
        let _ ← disk (.remove path)
        pure true)
      fun failure => match failure with
        | .value error => .raise (.value error)
        | _ => pure false

/-- `result.data["restored"] = True`. -/
def restored (result : SandboxResult) : SandboxResult :=
  { result with data := result.data.put ("restored", .bool true) }

/-- `_handle_restore_file`. The preconditions are not handed on. -/
def handleRestoreFile (args : Arguments) : Handler SandboxResult := do
  let path := (args.get "path").getD .null
  let previous := (args.get "previous").getD .null
  let safe ← safePath library root (args.get "path")
  checkFilePrecondition library safe args
  if Value.truthy (args.get "existed") = true then do
    let result ← handleWriteFile library root ⟨[("path", path), ("content", previous)], by simp⟩
    pure (restored result)
  else do
    let result ← handleDeleteFile library root ⟨[("path", path)], by simp⟩
    pure (restored result)

def compRestoreFile (args : Arguments) : Handler Bool :=
  Program.attempt (do
    let result ← handleRestoreFile library root args
    pure result.success)
    fun failure => match failure with
      | .sandbox _ => pure false
      | other => .raise other

end Handlers

end SagaMind.Sandbox
