import SagaMind.Sandbox.Execution

/-!
# What the file tools do

Each handler runs alone on a file tree, and any call of the operating system
may fail. A handler that is refused leaves the files as they were; one that
succeeds has found its precondition satisfied and changed one file.
-/

namespace SagaMind.Sandbox

open CallProgram FileTree KeyedTable

set_option autoImplicit false

section Machine

variable {failing : Call → Option Errno} {tree : Tree}

abbrev operating (failing : Call → Option Errno) : Machine FileTree.face Tree :=
  served (Call.serve failing)

theorem wp_disk {request : Call} {post : request.Answer → Tree → Prop}
    {failed : Failure → Tree → Prop} :
    wp (operating failing) (disk request) post failed tree ↔
      replied (post · (Call.serve failing request tree).2)
        (fun errno => failed (.os errno) (Call.serve failing request tree).2)
        (Call.serve failing request tree).1 := by
  rw [disk, wp_attempt, wp_served_perform]
  rfl

theorem wp_is_file {path : Path} {post : Bool → Tree → Prop} {failed : Failure → Tree → Prop} :
    wp (operating failing) (disk (.isFile path)) post failed tree ↔
      post (tree.file? path).isSome tree := by
  rw [wp_disk]
  rfl

theorem wp_present {path : Path} {post : Bool → Tree → Prop} {failed : Failure → Tree → Prop} :
    wp (operating failing) (disk (.present path)) post failed tree ↔
      post (tree.node path).isSome tree := by
  rw [wp_disk]
  rfl

theorem wp_carried {request : Call} {post : request.Answer → Tree → Prop}
    {failed : Failure → Tree → Prop} (fails : ∀ errno, failed (.os errno) tree)
    (carries : replied (post · (request.carry tree).2)
      (fun errno => failed (.os errno) (request.carry tree).2) (request.carry tree).1) :
    wp (operating failing) (disk request) post failed tree := by
  rw [wp_disk]
  cases request with
  | isFile path => exact carries
  | present path => exact carries
  | _ =>
      simp only [Call.serve]
      split
      · exact fails _
      · exact carries

abbrev working : Call → Option Errno := fun _ => none

theorem wp_working {request : Call} {post : request.Answer → Tree → Prop}
    {failed : Failure → Tree → Prop} :
    wp (operating working) (disk request) post failed tree ↔
      replied (post · (request.carry tree).2)
        (fun errno => failed (.os errno) (request.carry tree).2) (request.carry tree).1 := by
  rw [wp_disk]
  cases request <;> rfl

theorem wp_read {path : Path} {post : ByteArray → Tree → Prop} {failed : Failure → Tree → Prop}
    (fails : ∀ errno, failed (.os errno) tree)
    (reads : ∀ bytes, tree.file? path = some bytes → post bytes tree) :
    wp (operating failing) (disk (.read path)) post failed tree := by
  apply wp_carried fails
  rw [Call.carry]
  split
  · rename_i bytes found
    exact reads bytes (file_some.mpr found)
  · exact fails _
  · exact fails _

end Machine

section Preconditions

variable {library : Library} {failing : Call → Option Errno} {tree : Tree}

structure Satisfied (library : Library) (held : Option ByteArray) (args : Arguments) : Prop where
  single : ¬(Value.given (args.get "expected_sha256") = true ∧
    Value.given (args.get "expected_absent") = true)
  absent : isTrue (args.get "expected_absent") = true → held = none
  unchanged : Value.given (args.get "expected_sha256") = true → ∃ bytes, held = some bytes ∧
    Value.equals (.str (library.sha256 bytes)) ((args.get "expected_sha256").getD .null) = true

theorem check_spec (path : Path) (args : Arguments) :
    wp (operating failing) (checkFilePrecondition library path args)
      (fun _ after => after = tree ∧ Satisfied library (tree.file? path) args)
      (fun _ after => after = tree) tree := by
  rw [checkFilePrecondition]
  split
  · rfl
  · rename_i single
    rw [wp_bind, wp_is_file, wp_ite]
    split
    · rfl
    · rename_i absent
      have free : isTrue (args.get "expected_absent") = true → tree.file? path = none := by
        intro expected
        rw [not_and, Bool.not_eq_true, Option.isSome_eq_false_iff, Option.isNone_iff_eq_none]
          at absent
        exact absent expected
      rw [wp_ite]
      split
      · rename_i unguarded
        refine ⟨rfl, single, free, fun guarded => ?_⟩
        rw [unguarded] at guarded
        cases guarded
      · rw [wp_ite]
        split
        · rfl
        · rename_i standing
          rw [wp_bind, fileSha256, wp_bind]
          apply wp_read
          · exact fun errno => rfl
          · intro bytes held
            rw [wp_pure, wp_ite]
            split
            · rename_i equal
              exact ⟨rfl, single, free, fun _ => ⟨bytes, held, equal⟩⟩
            · rfl

theorem check_accepts {path : Path} {args : Arguments}
    (satisfied : Satisfied library (tree.file? path) args) :
    wp (operating working) (checkFilePrecondition library path args)
      (fun _ after => after = tree) (fun _ _ => False) tree := by
  rw [checkFilePrecondition, if_neg satisfied.single, wp_bind, wp_is_file]
  have free : ¬(isTrue (args.get "expected_absent") = true ∧ (tree.file? path).isSome = true) := by
    rintro ⟨expected, standing⟩
    rw [satisfied.absent expected] at standing
    cases standing
  rw [if_neg free]
  by_cases guarded : Value.given (args.get "expected_sha256") = true
  · obtain ⟨bytes, held, equal⟩ := satisfied.unchanged guarded
    have present : tree.node path = some (.file bytes) := file_some.mp held
    rw [if_neg (by simp [guarded]), if_neg (by simp [held]), wp_bind, fileSha256, wp_bind,
      wp_working, Call.carry, present]
    change wp _ (if _ then _ else _) _ _ _
    rw [if_pos equal]
    rfl
  · rw [if_pos (by simpa using guarded)]
    rfl

end Preconditions

section Handlers

variable {library : Library} {root : Path} {failing : Call → Option Errno} {tree : Tree}

theorem wp_safe_path {raw : Option Value} {post : Path → Tree → Prop}
    {failed : Failure → Tree → Prop} (fails : ∀ failure, failed failure tree)
    (contains : ∀ path, containPath root (pathText library raw) = .ok path → post path tree) :
    wp (operating failing) (safePath library root raw) post failed tree := by
  rw [safePath]
  split
  · exact contains _ ‹_›
  · exact fails _
  · exact fails _

theorem wp_explained {Answer : Type} {prelude : String} {program : Handler Answer}
    {post : Answer → Tree → Prop} {failed : Failure → Tree → Prop}
    (run : wp (operating failing) program post
      (fun _ after => ∀ failure, failed failure after) tree) :
    wp (operating failing) (explained library prelude program) post failed tree := by
  rw [explained, wp_attempt]
  apply wp_mono run
  · exact fun _ _ post => post
  · intro failure after fails
    cases failure <;> exact fails _

def Names (library : Library) (root : Path) (args : Arguments) (path : Path) : Prop :=
  containPath root (pathText library (args.get "path")) = .ok path

/-- What a handler may leave of the tree when it is refused: the tree, or the
tree with the directories for the path. -/
def Untouched (library : Library) (root : Path) (args : Arguments) (tree after : Tree) : Prop :=
  after = tree ∨ ∃ path, Names library root args path ∧
    Value.truthy (args.get "path") = true ∧ after = (tree.makedirs path.parent).2

theorem untouched_files {args : Arguments} {after : Tree}
    (untouched : Untouched library root args tree after) : after.file? = tree.file? := by
  rcases untouched with same | ⟨path, _, _, made⟩
  · rw [same]
  · rw [made, makedirs_files]

theorem write_spec (args : Arguments) :
    wp (operating failing) (handleWriteFile library root args)
      (fun result after => result.success = true ∧ Value.truthy (args.get "path") = true ∧
        ∃ path content, Names library root args path ∧
          (args.get "content").getD (.str "") = .str content ∧
          Satisfied library (tree.file? path) args ∧
          after.file? = Function.update tree.file? path (some (encode content)))
      (fun _ after => Untouched library root args tree after) tree := by
  rw [handleWriteFile]
  split
  · exact .inl rfl
  · rename_i named
    rw [Bool.not_eq_false] at named
    split
    · rename_i content given
      rw [wp_bind]
      apply wp_safe_path
      · exact fun _ => .inl rfl
      · intro path contained
        apply wp_explained
        rw [wp_bind]
        apply wp_carried
        · exact fun _ _ => .inl rfl
        · have made : Untouched library root args tree (tree.makedirs path.parent).2 :=
            .inr ⟨path, contained, named, rfl⟩
          have files := makedirs_files tree path.parent
          simp only [Call.carry]
          generalize (tree.makedirs path.parent).2 = ready at made files ⊢
          cases (tree.makedirs path.parent).1 with
          | error errno => exact fun _ => made
          | ok _ =>
              rw [replied_ok, wp_bind]
              apply wp_mono (check_spec path args)
              · rintro _ after ⟨rfl, satisfied⟩
                rw [files] at satisfied
                rw [wp_bind]
                apply wp_carried
                · exact fun _ _ => made
                · rw [Call.carry]
                  rcases replace_cases after path (encode content) with
                    ⟨errno, refused⟩ | ⟨last, placed, changed⟩
                  · rw [refused]
                    exact fun _ => made
                  · rw [placed]
                    rw [files] at changed
                    exact ⟨rfl, named, path, content, contained, given, satisfied, changed⟩
              · rintro _ after rfl
                exact fun _ => made
    · exact .inl rfl

theorem wp_safe_ok {raw : Option Value} {path : Path} {post : Path → Tree → Prop}
    {failed : Failure → Tree → Prop}
    (contained : containPath root (pathText library raw) = .ok path) (next : post path tree) :
    wp (operating failing) (safePath library root raw) post failed tree := by
  rw [safePath, contained]
  exact next

/-- A write with a satisfied precondition succeeds where a file may stand. -/
theorem write_succeeds {args : Arguments} {path : Path} {content : String}
    (named : Value.truthy (args.get "path") = true) (contained : Names library root args path)
    (given : (args.get "content").getD (.str "") = .str content)
    (satisfied : Satisfied library (tree.file? path) args)
    (placed : tree.node path.parent = some .directory) (free : tree.node path ≠ some .directory) :
    wp (operating working) (handleWriteFile library root args)
      (fun result _ => result.success = true) (fun _ _ => False) tree := by
  rw [handleWriteFile, if_neg (by simp [named]), given]
  simp only
  rw [wp_bind]
  apply wp_safe_ok contained
  rw [explained, wp_attempt, wp_bind, wp_working, Call.carry, makedirs_standing placed, replied_ok,
    wp_bind]
  apply wp_unfailing (check_accepts satisfied)
  rintro _ after rfl
  obtain ⟨last, done, _⟩ := replace_places (encode content) placed free
  rw [wp_bind, wp_working, Call.carry, done]
  rfl

theorem delete_spec (args : Arguments) :
    wp (operating failing) (handleDeleteFile library root args)
      (fun result after => result.success = true ∧
        (Value.truthy (args.get "path") = false ∧ after = tree ∨
          Value.truthy (args.get "path") = true ∧ ∃ path, Names library root args path ∧
            Satisfied library (tree.file? path) args ∧
            after.file? = Function.update tree.file? path none))
      (fun _ after => after = tree) tree := by
  rw [handleDeleteFile]
  split
  · rename_i unnamed
    exact ⟨rfl, .inl ⟨unnamed, rfl⟩⟩
  · rename_i named
    rw [Bool.not_eq_false] at named
    rw [wp_bind]
    apply wp_safe_path
    · exact fun _ => rfl
    · intro path contained
      apply wp_seq (check_spec path args)
      rintro _ after ⟨rfl, satisfied⟩
      rw [wp_bind, wp_present, wp_ite]
      split
      · rename_i missing
        have absent : after.file? path = none := by
          rw [Option.isSome_eq_false_iff, Option.isNone_iff_eq_none] at missing
          rw [Tree.file?, missing]
          rfl
        have same : after.file? = Function.update after.file? path none := by
          rw [← absent, Function.update_eq_self]
        exact ⟨rfl, .inr ⟨named, path, contained, satisfied, same⟩⟩
      · apply wp_explained
        rw [wp_bind]
        apply wp_carried
        · exact fun _ _ => rfl
        · rw [Call.carry]
          rcases remove_cases after path with ⟨errno, refused⟩ | ⟨last, removed, changed⟩
          · rw [refused]
            exact fun _ => rfl
          · rw [removed]
            exact ⟨rfl, .inr ⟨named, path, contained, satisfied, changed⟩⟩

/-- A deletion with a satisfied precondition succeeds unless a directory is in
the way. -/
theorem delete_succeeds {args : Arguments} {path : Path}
    (contained : Names library root args path)
    (satisfied : Satisfied library (tree.file? path) args)
    (free : tree.node path ≠ some .directory) :
    wp (operating working) (handleDeleteFile library root args)
      (fun result _ => result.success = true) (fun _ _ => False) tree := by
  rw [handleDeleteFile]
  split
  · rfl
  · rw [wp_bind]
    apply wp_safe_ok contained
    rw [wp_bind]
    apply wp_unfailing (check_accepts satisfied)
    rintro _ after rfl
    rw [wp_bind, wp_present, wp_ite]
    split
    · rfl
    · rename_i standing
      cases found : after.node path with
      | none =>
          rw [found] at standing
          exact absurd rfl standing
      | some node =>
          cases node with
          | directory => exact absurd found free
          | file bytes =>
              obtain ⟨last, removed, _⟩ := remove_file (file_some.mpr found)
              rw [explained, wp_attempt, wp_bind, wp_working, Call.carry, removed]
              rfl

end Handlers

section Restoring

variable {library : Library} {root : Path} {failing : Call → Option Errno} {tree : Tree}

theorem path_text_handed (raw : Option Value) :
    pathText library (some (raw.getD .null)) = pathText library raw := by
  cases raw with
  | none => rfl
  | some value => cases value <;> rfl

theorem truthy_handed (raw : Option Value) :
    Value.truthy (some (raw.getD .null)) = Value.truthy raw := by
  cases raw with
  | none => rfl
  | some value => cases value <;> rfl

theorem names_handed {args : Arguments} {path other : Path}
    (contained : Names library root args path)
    (names : containPath root (pathText library (some ((args.get "path").getD .null))) =
      .ok other) : other = path := by
  rw [path_text_handed] at names
  exact Except.ok.inj (names.symm.trans contained)

def restoredBytes (args : Arguments) : Option ByteArray :=
  match Value.truthy (args.get "existed"), (args.get "previous").getD .null with
  | true, .str previous => some (encode previous)
  | _, _ => none

/-- What a restoration that succeeds has found and done. -/
def Restored (library : Library) (root : Path) (args : Arguments) (tree after : Tree) : Prop :=
  ∃ path, Names library root args path ∧ Satisfied library (tree.file? path) args ∧
    (Value.truthy (args.get "path") = true →
      after.file? = Function.update tree.file? path (restoredBytes args))

theorem restore_spec (args : Arguments) :
    wp (operating failing) (handleRestoreFile library root args)
      (fun result after => result.success = true ∧ Restored library root args tree after)
      (fun _ after => Untouched library root args tree after) tree := by
  rw [handleRestoreFile, wp_bind]
  apply wp_safe_path
  · exact fun _ => .inl rfl
  · intro path contained
    rw [wp_bind]
    apply wp_mono (check_spec path args)
    · rintro _ after ⟨rfl, satisfied⟩
      rw [wp_ite]
      split
      · rename_i existed
        rw [wp_bind]
        apply wp_mono (write_spec _)
        · rintro result last ⟨done, named, other, content, names, given, _, changed⟩
          have same : other = path := names_handed contained names
          have bytes : restoredBytes args = some (encode content) := by
            rw [restoredBytes, existed]
            change (args.get "previous").getD .null = .str content at given
            rw [given]
          rw [same] at changed
          rw [wp_pure]
          exact ⟨done, path, contained, satisfied, fun _ => bytes ▸ changed⟩
        · intro failure last untouched
          rcases untouched with same | ⟨other, names, named, made⟩
          · exact .inl same
          · have same : other = path := names_handed contained names
            rw [same] at made
            exact .inr ⟨path, contained, (truthy_handed _).symm.trans named, made⟩
      · rename_i fresh
        rw [wp_bind]
        apply wp_mono (delete_spec _)
        · rintro result last ⟨done, outcome⟩
          have bytes : restoredBytes args = none := by
            rw [restoredBytes]
            rw [Bool.not_eq_true] at fresh
            rw [fresh]
          refine ⟨done, path, contained, satisfied, fun named => ?_⟩
          rcases outcome with ⟨unnamed, _⟩ | ⟨_, other, names, _, changed⟩
          · have same := (truthy_handed (args.get "path")).symm.trans unnamed
            rw [named] at same
            cases same
          · rw [bytes, changed, names_handed contained names]
        · exact fun _ _ same => .inl same
    · rintro _ after rfl
      exact .inl rfl

/-- A compensating restoration reports success exactly where it restored. -/
theorem comp_restore_spec (args : Arguments) :
    wp (operating failing) (compRestoreFile library root args)
      (fun done after => if done = true then Restored library root args tree after
        else Untouched library root args tree after)
      (fun _ after => Untouched library root args tree after) tree := by
  rw [compRestoreFile, wp_attempt, wp_bind]
  apply wp_mono (restore_spec args)
  · rintro result after ⟨done, restored⟩
    rw [wp_pure, if_pos done]
    exact restored
  · intro failure after untouched
    cases failure <;> exact untouched

end Restoring

section CompensatingDeletion

variable {library : Library} {root : Path} {failing : Call → Option Errno} {tree : Tree}

theorem comp_delete_directory {args : Arguments} {path : Path}
    (named : Value.truthy (args.get "path") = true) (contained : Names library root args path)
    (directory : tree.node path = some .directory) :
    wp (operating failing) (compDeleteFile library root args)
      (fun done after => done = false ∧ after = tree) (fun _ _ => False) tree := by
  rw [compDeleteFile, if_neg (by simp [named]), wp_attempt, wp_bind]
  apply wp_safe_ok contained
  rw [wp_bind, wp_present, directory, wp_ite, if_neg (by simp), wp_bind]
  apply wp_carried
  · exact fun errno => ⟨rfl, rfl⟩
  · have refused : tree.remove path = (.error .isDirectory, tree) := by
      rw [Tree.remove]
      split
      · rename_i found
        rw [directory] at found
        cases found
      · rfl
      · rename_i found
        rw [directory] at found
        cases found
    rw [Call.carry, refused]
    exact ⟨rfl, rfl⟩

theorem comp_delete_succeeds {args : Arguments} {path : Path}
    (contained : Names library root args path)
    (free : Value.truthy (args.get "path") = true → tree.node path ≠ some .directory) :
    wp (operating working) (compDeleteFile library root args)
      (fun done _ => done = true) (fun _ _ => False) tree := by
  rw [compDeleteFile]
  split
  · rfl
  · rename_i named
    rw [Bool.not_eq_false] at named
    rw [wp_attempt, wp_bind]
    apply wp_safe_ok contained
    rw [wp_bind, wp_present, wp_ite]
    split
    · rfl
    · rename_i standing
      cases found : tree.node path with
      | none =>
          rw [found] at standing
          exact absurd rfl standing
      | some node =>
          cases node with
          | directory => exact absurd found (free named)
          | file bytes =>
              obtain ⟨last, removed, _⟩ := remove_file (file_some.mpr found)
              rw [wp_bind, wp_working, Call.carry, removed]
              rfl

end CompensatingDeletion

section Executing

variable {library : Library} {root : Path} {verify : Arguments → String → PolicyDecision}
  {self : WasmSandbox} {failing : Call → Option Errno} {tree : Tree}

/-- The tools that change files. -/
def IsFileTool (library : Library) (root : Path) (tool : ToolDefinition) : Prop :=
  tool = writeFileTool library root ∨ tool = deleteFileTool library root ∨
    tool = restoreFileTool library root

theorem file_tool_found {tool : ToolDefinition} (builtin : IsFileTool library root tool) :
    (registry library root).get library tool.name = .ok tool ∧ tool.isolatedBuiltin = true := by
  rcases builtin with rfl | rfl | rfl
  · exact ⟨rfl, rfl⟩
  · exact ⟨rfl, rfl⟩
  · exact ⟨rfl, rfl⟩

def filePolicy (tool : ToolDefinition) : ToolPolicy := tool.policy.getD writeFilePolicy

theorem validate_policy_iff {tool : ToolDefinition} (builtin : IsFileTool library root tool)
    {args : Arguments} : validatePolicy library root verify tool args = .ok () ↔
      Allows library root (filePolicy tool) args := by
  have shape : tool.isMutating = true ∧ tool.policy = some (filePolicy tool) ∧
      (filePolicy tool).toolName = tool.name ∧ (filePolicy tool).mutating = true ∧
      (filePolicy tool).advancedSmt = none := by
    rcases builtin with rfl | rfl | rfl
    · exact ⟨rfl, rfl, rfl, rfl, rfl⟩
    · exact ⟨rfl, rfl, rfl, rfl, rfl⟩
    · exact ⟨rfl, rfl, rfl, rfl, rfl⟩
  obtain ⟨mutates, typed, named, changes, plain⟩ := shape
  have found : Table.find? (⟨[filePolicy tool], List.nodup_singleton _⟩ : ToolPolicyRegistry)
      tool.name = some (filePolicy tool) := by
    rw [Table.find?, List.find?_cons_of_pos (by simp [named])]
  have required : (∃ decision, ToolPolicyRegistry.require library (containPath root) verify
      ⟨[filePolicy tool], List.nodup_singleton _⟩ tool.name args true = .ok decision ∧
      decision.allowed = true) ↔ _ := require_allows_iff found changes plain
  rw [← required, validatePolicy, if_neg (by simp [mutates]), typed]
  simp only
  cases ToolPolicyRegistry.require library (containPath root) verify ⟨[filePolicy tool], _⟩
      tool.name args true with
  | error error => simp
  | ok decision => cases allowed : decision.allowed <;> simp [allowed]

theorem validate_capabilities {tool : ToolDefinition} (builtin : IsFileTool library root tool)
    {args : Arguments} {raw : String} {path : Path} (named : args.get "path" = some (.str raw))
    (contained : containPath root raw = .ok path) :
    validateCapabilities library root self tool args = .ok () := by
  have shape : tool.capabilities = workspaceWrite ∧ tool.pathArguments = [("path", "write")] := by
    rcases builtin with rfl | rfl | rfl
    · exact ⟨rfl, rfl⟩
    · exact ⟨rfl, rfl⟩
    · exact ⟨rfl, rfl⟩
  have sufficient : ¬min workspaceWrite.memoryMb self.memoryLimitMb < 64 := by
    have enough := self.sufficient
    change ¬min 256 _ < 64
    omega
  have checked : validatePath library root tool args ("path", "write") = .ok () := by
    rw [validatePath]
    simp only [named, contained, shape.1]
    exact if_neg (by simp [workspaceWrite, pathMatches])
  rw [validateCapabilities, shape.1, if_neg sufficient, shape.2]
  simp only [List.forM_eq_forM, List.forM_cons, List.forM_nil, checked, bind, Except.bind]
  exact if_neg (by simp [workspaceWrite])

theorem validate_valid {tool : ToolDefinition} (builtin : IsFileTool library root tool)
    {args : Arguments} (policy : validatePolicy library root verify tool args = .ok ())
    (capabilities : validateCapabilities library root self tool args = .ok ()) :
    validate library root verify self ⟨tool.name, args⟩ = .ok tool := by
  rw [validate, (file_tool_found builtin).1]
  simp only [Except.mapError, bind, Except.bind, policy, capabilities]
  rfl

/-- An action of a file tool that is validated is an action of that tool. -/
theorem validate_tool {tool other : ToolDefinition} (builtin : IsFileTool library root tool)
    {args : Arguments} (valid : validate library root verify self ⟨tool.name, args⟩ = .ok other) :
    other = tool ∧ Allows library root (filePolicy tool) args := by
  have steps := valid
  rw [validate, (file_tool_found builtin).1] at steps
  cases policy : validatePolicy library root verify tool args with
  | error failure =>
      simp only [Except.mapError, bind, Except.bind, policy] at steps
      cases steps
  | ok _ =>
      cases capabilities : validateCapabilities library root self tool args with
      | error failure =>
          simp only [Except.mapError, bind, Except.bind, policy, capabilities] at steps
          cases steps
      | ok _ =>
          have same := validate_valid builtin policy capabilities
          exact ⟨Except.ok.inj (valid.symm.trans same), (validate_policy_iff builtin).mp policy⟩

/-- The validation of an action raises, or the handler runs in the worker. -/
theorem wp_execute {tool : ToolDefinition} (builtin : IsFileTool library root tool)
    {args : Arguments} {post : SandboxResult → Tree → Prop} {kept : Tree → Prop}
    (here : kept tree)
    (run : Allows library root (filePolicy tool) args →
      wp (operating failing) (tool.handler args) post (fun _ after => kept after) tree) :
    wp (operating failing) (execute library root verify self ⟨tool.name, args⟩) post
      (fun _ after => kept after) tree := by
  rw [execute, wp_bind]
  cases valid : validate library root verify self ⟨tool.name, args⟩ with
  | error failure => exact here
  | ok other =>
      have own := validate_tool builtin valid
      rw [own.1, wp_outcome, replied_ok, if_pos (file_tool_found builtin).2, executeWorker,
        wp_attempt]
      exact wp_mono (run own.2) (fun _ _ met => met) fun _ _ met => met

theorem wp_execute_valid {tool : ToolDefinition} (builtin : IsFileTool library root tool)
    {args : Arguments} {raw : String} {path : Path}
    (allows : Allows library root (filePolicy tool) args)
    (named : args.get "path" = some (.str raw)) (contained : containPath root raw = .ok path)
    {post : SandboxResult → Tree → Prop} {kept : Tree → Prop}
    (run : wp (operating failing) (tool.handler args) post (fun _ after => kept after) tree) :
    wp (operating failing) (execute library root verify self ⟨tool.name, args⟩) post
      (fun _ after => kept after) tree := by
  have valid : validate library root verify self ⟨tool.name, args⟩ = .ok tool :=
    validate_valid builtin ((validate_policy_iff builtin).mpr allows)
      (validate_capabilities builtin named contained)
  rw [execute, wp_bind, valid, wp_outcome, replied_ok, if_pos (file_tool_found builtin).2,
    executeWorker, wp_attempt]
  exact wp_mono run (fun _ _ met => met) fun _ _ met => met

theorem compensation_allowed {tool : ToolDefinition} {handler : Arguments → Handler Bool}
    (builtin : IsFileTool library root tool)
    (compensates : tool.compensationHandler = some handler) :
    (registry library root).isCompensationAllowed tool.name = true := by
  rcases builtin with rfl | rfl | rfl
  · cases compensates
  · rfl
  · rfl

/-- A compensation that is not carried out is not reported as done. -/
theorem wp_execute_compensation {tool : ToolDefinition} {handler : Arguments → Handler Bool}
    (builtin : IsFileTool library root tool) (compensates : tool.compensationHandler = some handler)
    {args : Arguments} {post : Bool → Tree → Prop} {kept : Tree → Prop} (here : kept tree)
    (refused : ∀ after, kept after → post false after)
    (run : wp (operating failing) (handler args) post (fun _ after => kept after) tree) :
    wp (operating failing) (executeCompensation library root verify self ⟨tool.name, args⟩) post
      (fun _ after => kept after) tree := by
  have allowed := compensation_allowed builtin compensates
  rw [executeCompensation, if_neg (by simp [allowed]), (file_tool_found builtin).1]
  have found : Except.mapError Failure.sandbox (Except.ok tool) = Except.ok tool := rfl
  rw [found, wp_bind, wp_outcome, replied_ok]
  dsimp only
  rw [compensates]
  dsimp only
  rw [wp_attempt, wp_bind]
  cases validatePolicy library root verify tool args with
  | error failure =>
      cases failure with
      | sandbox message => exact refused tree here
      | os errno => exact here
      | value error => exact here
  | ok _ =>
      rw [wp_outcome, replied_ok, wp_bind]
      cases validateCapabilities library root self tool args with
      | error failure =>
          cases failure with
          | sandbox message => exact refused tree here
          | os errno => exact here
          | value error => exact here
      | ok _ =>
          rw [wp_outcome, replied_ok, if_pos (file_tool_found builtin).2, executeWorker, wp_attempt]
          exact wp_mono run (fun _ _ met => met) fun failure after still => refused after still

theorem wp_execute_compensation_valid {tool : ToolDefinition} {handler : Arguments → Handler Bool}
    (builtin : IsFileTool library root tool) (compensates : tool.compensationHandler = some handler)
    {args : Arguments} {raw : String} {path : Path}
    (allows : Allows library root (filePolicy tool) args)
    (named : args.get "path" = some (.str raw)) (contained : containPath root raw = .ok path)
    {post : Bool → Tree → Prop}
    (run : wp (operating failing) (handler args) post (fun _ _ => False) tree) :
    wp (operating failing) (executeCompensation library root verify self ⟨tool.name, args⟩) post
      (fun _ _ => False) tree := by
  have allowed := compensation_allowed builtin compensates
  have policy : validatePolicy library root verify tool args = .ok () :=
    (validate_policy_iff builtin).mpr allows
  have capabilities : validateCapabilities library root self tool args = .ok () :=
    validate_capabilities builtin named contained
  rw [executeCompensation, if_neg (by simp [allowed]), (file_tool_found builtin).1]
  have found : Except.mapError Failure.sandbox (Except.ok tool) = Except.ok tool := rfl
  rw [found, wp_bind, wp_outcome, replied_ok]
  dsimp only
  rw [compensates]
  dsimp only
  rw [wp_attempt, wp_bind, policy, wp_outcome, replied_ok, wp_bind, capabilities, wp_outcome,
    replied_ok, if_pos (file_tool_found builtin).2, executeWorker, wp_attempt]
  exact wp_mono run (fun _ _ met => met) fun _ _ impossible => impossible.elim

end Executing

end SagaMind.Sandbox
