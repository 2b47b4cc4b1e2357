import SagaMind.Sandbox.FileContract

/-!
# Which tools respect a failed precondition

A file tool runs on accepted arguments whose precondition the file at the path
does not satisfy. Every handler looks at the precondition before it touches the
file, except the compensating deletion, and except a deletion without a path.
A write makes the missing directories before it looks.
-/

namespace SagaMind.Preconditions

open CallProgram FileTree KeyedTable Sandbox

set_option autoImplicit false

/-- How a tool is run. -/
inductive Mode where
  | forward
  | compensation
  deriving DecidableEq

section Property

variable (library : Library) (root : Path) (verify : Arguments → String → PolicyDecision)
  (self : WasmSandbox)

/-- The built-in typed policy accepts the arguments. -/
def Accepted (toolName : String) (args : Arguments) : Prop :=
  ∃ decision, builtinPolicies.require library (containPath root) verify toolName args true =
    .ok decision ∧ decision.allowed = true

/-- What the path holds does not satisfy a precondition of the arguments. -/
def Violated (held : Option ByteArray) (args : Arguments) : Prop :=
  (∃ expected, args.get "expected_sha256" = some (.str expected) ∧
    ∀ bytes ∈ held, library.sha256 bytes ≠ expected) ∨
  (args.get "expected_absent" = some (.bool true) ∧ held.isSome)

/-- The run leaves the workspace as it was, up to `kept`, and reports no
success. -/
def Refuses (kept : Tree → Tree → Prop) (toolName : String) (args : Arguments) (tree : Tree) :
    Mode → Prop
  | .forward => ∀ failing,
      let run := (execute library root verify self ⟨toolName, args⟩).evaluate
        (Call.serve failing) tree
      kept tree run.2 ∧ ∀ result, run.1 = .ok result → result.success = false
  | .compensation => ∀ failing,
      let run := (executeCompensation library root verify self ⟨toolName, args⟩).evaluate
        (Call.serve failing) tree
      kept tree run.2 ∧ run.1 ≠ .ok true

end Property

/-- Where a deletion looks at its precondition, or cannot delete. -/
def Guarded (toolName raw : String) (path : Path) (tree : Tree) : Mode → Prop
  | .forward => toolName = "DELETE_FILE" → raw ≠ ""
  | .compensation => toolName = "DELETE_FILE" → raw ≠ "" ∧ tree.node path = some .directory

/-- Where a write makes no directory. -/
def MakesNothing (toolName raw : String) (path : Path) (tree : Tree) : Mode → Prop
  | .forward => toolName = "WRITE_FILE" →
      raw = "" ∨ tree.node path.parent = some .directory ∨ tree.blocked path.parent = true
  | .compensation => True

section Handlers

variable {library : Library} {root : Path} {args : Arguments} {path : Path}
  {failing : Call → Option Errno} {tree : Tree}

theorem violated_unsatisfied {held : Option ByteArray} (violated : Violated library held args) :
    ¬Satisfied library held args := by
  intro satisfied
  rcases violated with ⟨expected, given, differs⟩ | ⟨given, present⟩
  · obtain ⟨bytes, holds, equal⟩ := satisfied.unchanged (by rw [given]; rfl)
    rw [given] at equal
    exact differs bytes holds (of_decide_eq_true equal)
  · have absent := satisfied.absent (by rw [given]; rfl)
    rw [absent] at present
    cases present

theorem write_refused (contained : Names library root args path)
    (failed : ¬Satisfied library (tree.file? path) args) :
    wp (operating failing) (handleWriteFile library root args) (fun _ _ => False)
      (fun _ after => Untouched library root args tree after) tree := by
  apply wp_mono (write_spec args)
  · intro result after written
    obtain ⟨_, _, other, _, own, _, satisfied, _⟩ := written
    cases Except.ok.inj (own.symm.trans contained)
    exact failed satisfied
  · exact fun _ _ untouched => untouched

theorem delete_refused (named : Value.truthy (args.get "path") = true)
    (contained : Names library root args path)
    (failed : ¬Satisfied library (tree.file? path) args) :
    wp (operating failing) (handleDeleteFile library root args) (fun _ _ => False)
      (fun _ after => after = tree) tree := by
  apply wp_mono (delete_spec args)
  · intro result after deleted
    rcases deleted.2 with ⟨unnamed, _⟩ | ⟨_, other, own, satisfied, _⟩
    · rw [named] at unnamed
      cases unnamed
    · cases Except.ok.inj (own.symm.trans contained)
      exact failed satisfied
  · exact fun _ _ same => same

theorem restore_refused (contained : Names library root args path)
    (failed : ¬Satisfied library (tree.file? path) args) :
    wp (operating failing) (handleRestoreFile library root args) (fun _ _ => False)
      (fun _ after => after = tree) tree := by
  rw [handleRestoreFile, wp_bind]
  apply wp_safe_ok contained
  apply wp_seq (check_spec path args)
  exact fun _ _ passed => absurd passed.2 failed

theorem comp_restore_refused (contained : Names library root args path)
    (failed : ¬Satisfied library (tree.file? path) args) :
    wp (operating failing) (compRestoreFile library root args)
      (fun done after => done = false ∧ after = tree) (fun _ after => after = tree) tree := by
  rw [compRestoreFile, wp_attempt, wp_bind]
  apply wp_mono (restore_refused contained failed)
  · exact fun _ _ impossible => impossible.elim
  · intro failure after same
    cases failure with
    | sandbox message => exact ⟨rfl, same⟩
    | os errno => exact same
    | value error => exact same

theorem write_makes {content : String} (named : Value.truthy (args.get "path") = true)
    (given : args.get "content" = some (.str content)) (contained : Names library root args path)
    (failed : ¬Satisfied library (tree.file? path) args)
    (clear : tree.blocked path.parent = false) :
    wp (operating working) (handleWriteFile library root args) (fun _ _ => False)
      (fun _ after => after.node path.parent = some .directory) tree := by
  have made := makedirs_makes clear
  have files := makedirs_files tree path.parent
  rw [handleWriteFile, if_neg (by simp [named]), given]
  simp only [Option.getD_some]
  rw [wp_bind]
  apply wp_safe_ok contained
  rw [explained, wp_attempt, wp_bind, wp_working, Call.carry]
  have done : (tree.makedirs path.parent).1 = .ok () := by
    rw [Tree.makedirs, if_neg (by simp [clear])]
  rw [done, replied_ok, wp_bind]
  generalize (tree.makedirs path.parent).2 = ready at made files ⊢
  apply wp_mono (check_spec path args)
  · intro _ after passed
    rw [files] at passed
    exact absurd passed.2 failed
  · intro failure after same
    rw [← same] at made
    cases failure <;> exact made

end Handlers

section Runs

variable {library : Library} {root : Path} {verify : Arguments → String → PolicyDecision}
  {self : WasmSandbox} {tool : ToolDefinition} {args : Arguments} {raw : String} {path : Path}
  {tree : Tree} {kept : Tree → Tree → Prop}

theorem accepted_allows (builtin : IsFileTool library root tool)
    (accepted : Accepted library root verify tool.name args) :
    Allows library root (filePolicy tool) args := by
  have shape : builtinPolicies.find? tool.name = some (filePolicy tool) ∧
      (filePolicy tool).mutating = true ∧ (filePolicy tool).advancedSmt = none := by
    rcases builtin with same | same | same
    · rw [same]
      exact ⟨rfl, rfl, rfl⟩
    · rw [same]
      exact ⟨rfl, rfl, rfl⟩
    · rw [same]
      exact ⟨rfl, rfl, rfl⟩
  exact (require_allows_iff shape.1 shape.2.1 shape.2.2).mp accepted

theorem named_truthy (named : args.get "path" = some (.str raw)) :
    Value.truthy (args.get "path") = true ↔ raw ≠ "" := by
  rw [named, Value.truthy, decide_eq_true_eq]

theorem named_names (named : args.get "path" = some (.str raw))
    (contained : containPath root raw = .ok path) : Names library root args path := by
  rw [Names, named]
  exact contained

/-- A forward handler that looks at the precondition stops there. -/
theorem handler_refused {failing : Call → Option Errno} (builtin : IsFileTool library root tool)
    (named : args.get "path" = some (.str raw)) (contained : containPath root raw = .ok path)
    (failed : ¬Satisfied library (tree.file? path) args)
    (guarded : Guarded tool.name raw path tree .forward) :
    wp (operating failing) (tool.handler args) (fun _ _ => False)
      (fun _ after => after = tree ∨ tool.name = "WRITE_FILE" ∧ raw ≠ "" ∧
        after = (tree.makedirs path.parent).2) tree := by
  have names : Names library root args path := named_names named contained
  rcases builtin with same | same | same
  · rw [same]
    apply wp_mono (write_refused names failed)
    · exact fun _ _ impossible => impossible
    · intro failure after untouched
      rcases untouched with untouched | ⟨other, own, filled, made⟩
      · exact .inl untouched
      · cases Except.ok.inj (own.symm.trans names)
        exact .inr ⟨rfl, (named_truthy named).mp filled, made⟩
  · rw [same] at guarded ⊢
    have filled := (named_truthy named).mpr (guarded rfl)
    apply wp_mono (delete_refused filled names failed)
    · exact fun _ _ impossible => impossible
    · exact fun _ _ untouched => .inl untouched
  · rw [same]
    apply wp_mono (restore_refused names failed)
    · exact fun _ _ impossible => impossible
    · exact fun _ _ untouched => .inl untouched

theorem refuses_forward (builtin : IsFileTool library root tool)
    (reflexive : kept tree tree)
    (run : ∀ failing, wp (operating failing) (tool.handler args) (fun _ _ => False)
      (fun _ after => kept tree after) tree) :
    Refuses library root verify self kept tool.name args tree .forward := by
  intro failing
  obtain ⟨failure, raised, unchanged⟩ :=
    served_error (wp_execute builtin reflexive fun _ => run failing)
  refine ⟨unchanged, fun result succeeded => ?_⟩
  rw [raised] at succeeded
  cases succeeded

theorem refuses_compensation {handler : Arguments → Handler Bool}
    (builtin : IsFileTool library root tool) (compensates : tool.compensationHandler = some handler)
    (reflexive : kept tree tree)
    (run : ∀ failing, wp (operating failing) (handler args)
      (fun done after => done = false ∧ kept tree after) (fun _ after => kept tree after) tree) :
    Refuses library root verify self kept tool.name args tree .compensation := by
  intro failing run'
  have refused : ∀ after, kept tree after → false = false ∧ kept tree after :=
    fun after unchanged => ⟨rfl, unchanged⟩
  have spec : replied (fun done => done = false ∧ kept tree run'.2) (fun _ => kept tree run'.2)
      run'.1 :=
    wp_served_iff.mp (wp_execute_compensation builtin compensates reflexive refused (run failing))
  cases outcome : run'.1 with
  | error failure =>
      rw [outcome] at spec
      exact ⟨spec, fun impossible => nomatch impossible⟩
  | ok done =>
      rw [outcome] at spec
      refine ⟨spec.2, fun succeeded => ?_⟩
      cases succeeded
      cases spec.1

theorem deleting_tool (builtin : IsFileTool library root tool) (deletes : tool.name = "DELETE_FILE") :
    tool = deleteFileTool library root := by
  rcases builtin with same | same | same
  · simp [same, writeFileTool] at deletes
  · exact same
  · simp [same, restoreFileTool] at deletes

theorem writing_tool (builtin : IsFileTool library root tool) (writes : tool.name = "WRITE_FILE") :
    tool = writeFileTool library root := by
  rcases builtin with same | same | same
  · exact same
  · simp [same, deleteFileTool] at writes
  · simp [same, restoreFileTool] at writes

/-- A deletion without a path succeeds, so nothing can be said of it. -/
theorem forward_guarded (builtin : IsFileTool library root tool)
    (allows : Allows library root (filePolicy tool) args)
    (named : args.get "path" = some (.str raw)) (contained : containPath root raw = .ok path)
    (refuses : Refuses library root verify self kept tool.name args tree .forward) :
    Guarded tool.name raw path tree .forward := by
  intro deletes empty
  have run : wp (operating working) (tool.handler args) (fun result _ => result.success = true)
      (fun _ _ => False) tree := by
    rw [deleting_tool builtin deletes]
    change wp _ (handleDeleteFile library root args) _ _ _
    rw [handleDeleteFile, if_pos (by simp [named, Value.truthy, empty])]
    rfl
  obtain ⟨result, done, success⟩ :=
    served_value (wp_execute_valid builtin allows named contained run)
  have silent := (refuses working).2 result done
  rw [success] at silent
  cases silent

theorem forward_makes_nothing (builtin : IsFileTool library root tool)
    (allows : Allows library root (filePolicy tool) args)
    (named : args.get "path" = some (.str raw)) (contained : containPath root raw = .ok path)
    (failed : ¬Satisfied library (tree.file? path) args)
    (refuses : Refuses library root verify self (fun before after => after = before) tool.name args
      tree .forward) : MakesNothing tool.name raw path tree .forward := by
  intro writes
  by_contra missing
  rw [not_or, not_or, Bool.not_eq_true] at missing
  have same := writing_tool builtin writes
  have listed : ("content", contentRule) ∈ (filePolicy tool).arguments.rows := by
    rw [same]
    exact List.mem_cons_of_mem _ List.mem_cons_self
  have rule := (allows_iff.mp allows).1 _ listed
  cases given : args.get "content" with
  | none =>
      rw [given] at rule
      cases rule
  | some value =>
      rw [given] at rule
      obtain ⟨content, shape, _⟩ := (meets_text rfl).mp rule
      rw [shape] at given
      have filled := (named_truthy named).mpr missing.1
      have run : wp (operating working) (tool.handler args) (fun _ _ => False)
          (fun _ after => after.node path.parent = some .directory) tree := by
        rw [same]
        exact write_makes filled given (named_names named contained) failed missing.2.2
      obtain ⟨failure, raised, made⟩ :=
        served_error (wp_execute_valid builtin allows named contained run)
      rw [(refuses working).1] at made
      exact missing.2.1 made

theorem forward_refuses_iff (builtin : IsFileTool library root tool)
    (allows : Allows library root (filePolicy tool) args)
    (named : args.get "path" = some (.str raw)) (contained : containPath root raw = .ok path)
    (failed : ¬Satisfied library (tree.file? path) args) :
    (Refuses library root verify self (fun before after => after.file? = before.file?) tool.name
        args tree .forward ↔ Guarded tool.name raw path tree .forward) ∧
    (Refuses library root verify self (fun before after => after = before) tool.name args tree
        .forward ↔
      Guarded tool.name raw path tree .forward ∧ MakesNothing tool.name raw path tree .forward) := by
  constructor
  · constructor
    · exact forward_guarded builtin allows named contained
    · intro guarded
      refine refuses_forward builtin rfl fun failing => ?_
      apply wp_mono (handler_refused builtin named contained failed guarded)
      · exact fun _ _ impossible => impossible
      · intro failure after untouched
        rcases untouched with same | ⟨_, _, made⟩
        · rw [same]
        · rw [made, makedirs_files]
  · constructor
    · intro refuses
      exact ⟨forward_guarded builtin allows named contained refuses,
        forward_makes_nothing builtin allows named contained failed refuses⟩
    · intro condition
      refine refuses_forward builtin rfl fun failing => ?_
      apply wp_mono (handler_refused builtin named contained failed condition.1)
      · exact fun _ _ impossible => impossible
      · intro failure after untouched
        rcases untouched with same | ⟨writes, filled, made⟩
        · exact same
        · rcases condition.2 writes with empty | standing | blocked
          · exact absurd empty filled
          · rw [made, makedirs_standing standing]
          · rw [made, Tree.makedirs, if_pos blocked]

theorem compensation_refuses_iff (builtin : IsFileTool library root tool)
    (allows : Allows library root (filePolicy tool) args)
    (named : args.get "path" = some (.str raw)) (contained : containPath root raw = .ok path)
    (failed : ¬Satisfied library (tree.file? path) args) (reflexive : kept tree tree) :
    Refuses library root verify self kept tool.name args tree .compensation ↔
      Guarded tool.name raw path tree .compensation := by
  have names : Names library root args path := named_names named contained
  constructor
  · intro refuses deletes
    have same := deleting_tool builtin deletes
    by_contra unguarded
    rw [not_and] at unguarded
    have free : Value.truthy (args.get "path") = true → tree.node path ≠ some .directory :=
      fun filled => unguarded ((named_truthy named).mp filled)
    have compensates : tool.compensationHandler = some (compDeleteFile library root) := by
      rw [same]
      rfl
    obtain ⟨done, ended, succeeded⟩ :=
      served_value (wp_execute_compensation_valid builtin compensates allows named contained
        (comp_delete_succeeds names free))
    rw [succeeded] at ended
    exact (refuses working).2 ended
  · intro guarded
    have own := builtin
    rcases builtin with same | same | same
    · intro failing
      have idle : executeCompensation library root verify self ⟨tool.name, args⟩ = pure false := by
        rw [same, executeCompensation]
        exact if_pos rfl
      rw [idle]
      refine ⟨reflexive, ?_⟩
      rintro ⟨⟩
    · have compensates : tool.compensationHandler = some (compDeleteFile library root) := by
        rw [same]
        rfl
      have stops := guarded (by rw [same]; rfl)
      refine refuses_compensation own compensates reflexive fun failing => ?_
      apply wp_unfailing (comp_delete_directory ((named_truthy named).mpr stops.1) names stops.2)
      intro done after refused
      rw [refused.2]
      exact ⟨refused.1, reflexive⟩
    · have compensates : tool.compensationHandler = some (compRestoreFile library root) := by
        rw [same]
        rfl
      refine refuses_compensation own compensates reflexive fun failing => ?_
      apply wp_mono (comp_restore_refused names failed)
      · intro done after refused
        rw [refused.2]
        exact ⟨refused.1, reflexive⟩
      · intro failure after unchanged
        rw [unchanged]
        exact reflexive

/-- A file tool leaves the workspace alone on a failed precondition, if and only
if it is guarded and makes no directory; it leaves the files alone if and only
if it is guarded. -/
theorem precondition_enforced_iff (mode : Mode) (builtin : IsFileTool library root tool)
    (accepted : Accepted library root verify tool.name args)
    (named : args.get "path" = some (.str raw)) (contained : containPath root raw = .ok path)
    (violated : Violated library (tree.file? path) args) :
    (Refuses library root verify self (fun before after => after = before) tool.name args tree
        mode ↔ Guarded tool.name raw path tree mode ∧ MakesNothing tool.name raw path tree mode) ∧
    (Refuses library root verify self (fun before after => after.file? = before.file?) tool.name
        args tree mode ↔ Guarded tool.name raw path tree mode) := by
  have allows := accepted_allows builtin accepted
  have failed := violated_unsatisfied violated
  cases mode with
  | forward =>
      exact and_comm.mp (forward_refuses_iff builtin allows named contained failed)
  | compensation =>
      constructor
      · rw [MakesNothing, and_true]
        exact compensation_refuses_iff builtin allows named contained failed rfl
      · exact compensation_refuses_iff builtin allows named contained failed rfl

def sampleArguments : Arguments :=
  ⟨[("path", .str "a"), ("expected_absent", .bool true)], by decide⟩

def occupiedTree : Tree := .holding samplePath (encode "b")

theorem occupied_held : occupiedTree.file? samplePath = some (encode "b") :=
  holding_file (by decide) _

/-- As a compensation it deletes the file and reports success. -/
theorem unexpected_file_deleted :
    ((executeCompensation sampleLibrary sampleRoot sampleVerify {}
      ⟨"DELETE_FILE", sampleArguments⟩).evaluate (Call.serve working) occupiedTree).1 = .ok true ∧
    ((executeCompensation sampleLibrary sampleRoot sampleVerify {}
      ⟨"DELETE_FILE", sampleArguments⟩).evaluate (Call.serve working) occupiedTree).2.file?
        samplePath = none := by
  decide +kernel

theorem sample_accepted : Accepted sampleLibrary sampleRoot sampleVerify
    (deleteFileTool sampleLibrary sampleRoot).name sampleArguments := by
  have located : Meets sampleRoot pathRule (.str "a") :=
    meets_path.mpr ⟨"a", samplePath, rfl, by decide⟩
  have absent : Meets sampleRoot expectedAbsentRule (.bool true) :=
    (meets_flag (.inr rfl)).mpr ⟨true, rfl⟩
  have allows : Allows sampleLibrary sampleRoot deleteFilePolicy sampleArguments := by
    refine allows_iff.mpr ⟨?_, .inr (by decide)⟩
    rw [deleteFilePolicy, List.forall_mem_cons, List.forall_mem_cons, List.forall_mem_singleton]
    exact ⟨located, rfl, absent⟩
  exact (require_allows_iff rfl rfl rfl).mpr allows

theorem sample_violated :
    Violated sampleLibrary (occupiedTree.file? samplePath) sampleArguments := by
  rw [occupied_held]
  exact .inr ⟨rfl, rfl⟩

theorem precondition_enforced_sample :
    (Refuses sampleLibrary sampleRoot sampleVerify {} (fun before after => after = before)
        "DELETE_FILE" sampleArguments occupiedTree .compensation ↔
      Guarded "DELETE_FILE" "a" samplePath occupiedTree .compensation ∧
        MakesNothing "DELETE_FILE" "a" samplePath occupiedTree .compensation) ∧
    (Refuses sampleLibrary sampleRoot sampleVerify {}
        (fun before after => after.file? = before.file?) "DELETE_FILE" sampleArguments occupiedTree
        .compensation ↔
      Guarded "DELETE_FILE" "a" samplePath occupiedTree .compensation) :=
  precondition_enforced_iff .compensation (.inr (.inl rfl)) sample_accepted rfl (by decide)
    sample_violated

end Runs

end SagaMind.Preconditions
