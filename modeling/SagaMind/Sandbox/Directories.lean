import SagaMind.Sandbox.FileContract

/-!
# Directories that the file tools leave

The file tools make no directories but those for their own path, and take none
away. A restoration whose guard is met succeeds where the directory of the path
stands.
-/

namespace SagaMind.Sandbox

open CallProgram FileTree KeyedTable

set_option autoImplicit false

section Handlers

variable {library : Library} {root path : Path} {args : Arguments}

theorem near_disk (request : Call) (near : request.Near path) :
    Uses (Call.Near path) (disk request) :=
  conforms_attempt (@conforms_perform FileTree.face _ _ _ fun _ => near) fun _ => conforms_raise _

theorem near_explained {Answer : Type} {prelude : String} {program : Handler Answer}
    (near : Uses (Call.Near path) program) :
    Uses (Call.Near path) (explained library prelude program) := by
  apply conforms_attempt near
  intro failure
  cases failure <;> exact conforms_raise _

theorem near_check (other : Path) :
    Uses (Call.Near path) (checkFilePrecondition library other args) := by
  apply conforms_ite (conforms_raise _)
  apply conforms_bind (near_disk (.isFile other) trivial)
  intro standing
  apply conforms_ite (conforms_raise _)
  apply conforms_ite (conforms_pure _)
  apply conforms_ite (conforms_raise _)
  apply conforms_bind
  · exact conforms_bind (near_disk (.read other) trivial) fun _ => conforms_pure _
  · exact fun _ => conforms_ite (conforms_pure _) (conforms_raise _)

theorem near_write (names : Names library root args path) :
    Uses (Call.Near path) (handleWriteFile library root args) := by
  apply conforms_ite (conforms_raise _)
  split
  · have safe : safePath library root (args.get "path") = pure path := by
      have contained : containPath root (pathText library (args.get "path")) = .ok path := names
      rw [safePath, contained]
    rw [safe]
    apply near_explained
    apply conforms_bind (near_disk (.makedirs path.parent) rfl)
    intro _
    apply conforms_bind (near_check _)
    intro _
    exact conforms_bind (near_disk (.replace path _) trivial) fun _ => conforms_pure _
  · exact conforms_raise _

theorem near_safe_path (raw : Option Value) :
    Uses (Call.Near path) (safePath library root raw) := by
  unfold safePath
  split
  · exact conforms_pure _
  · exact conforms_raise _
  · exact conforms_raise _

theorem near_delete : Uses (Call.Near path) (handleDeleteFile library root args) := by
  apply conforms_ite (conforms_pure _)
  apply conforms_bind (near_safe_path _)
  intro other
  apply conforms_bind (near_check _)
  intro _
  apply conforms_bind (near_disk (.present other) trivial)
  intro standing
  apply conforms_ite (conforms_pure _)
  apply near_explained
  exact conforms_bind (near_disk (.remove other) trivial) fun _ => conforms_pure _

theorem near_restore (names : Names library root args path) :
    Uses (Call.Near path) (compRestoreFile library root args) := by
  apply conforms_attempt
  · apply conforms_bind
    · apply conforms_bind (near_safe_path _)
      intro other
      apply conforms_bind (near_check _)
      intro _
      apply conforms_ite
      · apply conforms_bind
        · apply near_write
          exact (congrArg (containPath root) (path_text_handed _)).trans names
        · exact fun _ => conforms_pure _
      · exact conforms_bind near_delete fun _ => conforms_pure _
    · exact fun _ => conforms_pure _
  · intro failure
    cases failure with
    | sandbox message => exact conforms_pure _
    | os errno => exact conforms_raise _
    | value error => exact conforms_raise _

end Handlers

section Executing

variable {library : Library} {root path : Path} {verify : Arguments → String → PolicyDecision}
  {self : WasmSandbox} {tool : ToolDefinition} {args : Arguments}

theorem near_passed {Item Answer : Type} {item : Item} {rest : Item → Handler Answer}
    (near : Uses (Call.Near path) (rest item)) :
    Uses (Call.Near path) (Program.ended (.ok item) >>= rest) :=
  near

theorem near_worker {Answer : Type} {handler : Arguments → Handler Answer}
    (near : Uses (Call.Near path) (handler args)) :
    Uses (Call.Near path) (executeWorker library handler args) :=
  conforms_attempt near fun _ => conforms_raise _

theorem near_execute (builtin : IsFileTool library root tool)
    (near : Uses (Call.Near path) (tool.handler args)) :
    Uses (Call.Near path) (execute library root verify self ⟨tool.name, args⟩) := by
  unfold execute
  cases valid : validate library root verify self ⟨tool.name, args⟩ with
  | error failure => exact conforms_raise _
  | ok other =>
      obtain rfl := (validate_tool builtin valid).1
      apply near_passed
      exact conforms_ite (near_worker near) (conforms_raise _)

theorem near_execute_compensation {handler : Arguments → Handler Bool}
    (builtin : IsFileTool library root tool) (compensates : tool.compensationHandler = some handler)
    (near : Uses (Call.Near path) (handler args)) :
    Uses (Call.Near path) (executeCompensation library root verify self ⟨tool.name, args⟩) := by
  unfold executeCompensation
  apply conforms_ite (conforms_pure _)
  rw [(file_tool_found builtin).1]
  apply near_passed
  rw [compensates]
  apply conforms_attempt
  · apply conforms_bind (conforms_outcome _)
    intro _
    apply conforms_bind (conforms_outcome _)
    exact fun _ => conforms_ite (near_worker near) (conforms_pure _)
  · intro failure
    cases failure with
    | sandbox message => exact conforms_pure _
    | os errno => exact conforms_raise _
    | value error => exact conforms_raise _

/-- A program that makes directories for the path only, alone on a tree. -/
theorem near_grown {Answer : Type} {program : Handler Answer} (near : Uses (Call.Near path) program)
    (failing : Call → Option Errno) (tree : Tree) :
    Grown path tree (program.evaluate (Call.serve failing) tree).2 := by
  apply evaluate_keeps (Grown path) (grown_refl path) Grown.trans _ near
  exact fun call tree near => serve_grown failing near tree

end Executing

end SagaMind.Sandbox
