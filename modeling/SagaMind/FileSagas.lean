import SagaMind.Coordinator.Takeback
import SagaMind.FileContracts
import SagaMind.RejectedSteps
import SagaMind.Sandbox.Directories

/-!
# Sagas that change files

The saga endpoints on the built-in file tools. Every step carries the contract
that was derived for it, and the disk carries out what compensations ask. Such a
saga accounts for the files: they are what its completed steps have made of
them, and after a rollback they are what they were before the saga.
-/

namespace SagaMind.FileSagas

open CallProgram FileTree KeyedTable Coordinator Workshop Undoing Sandbox Takeback FileContracts
open RejectedSteps

set_option autoImplicit false

section Restoring

variable {library : Library} {root path : Path} {verify : Arguments → String → PolicyDecision}
  {self : WasmSandbox} {request : FileRequest} {captured : Option String} {tree : Tree}

theorem restore_allowed (contained : containPath root request.path = .ok path)
    (short : ∀ text ∈ captured, text.length ≤ 1000000) :
    Allows library root (filePolicy (restoreFileTool library root))
      (restoreArguments library request path captured) := by
  have located : Meets root pathRule (.str path.text) :=
    meets_path.mpr ⟨_, path, rfl, contain_path_text contained⟩
  have flagged : Meets root flagRule (.bool captured.isSome) := (meets_flag (.inl rfl)).mpr ⟨_, rfl⟩
  have bounded : Meets root contentRule (.str (captured.getD "")) := by
    refine (meets_text rfl).mpr ⟨_, rfl, ?_⟩
    cases captured with
    | none => decide
    | some text => exact short text rfl
  have digest : ∀ text, Meets root expectedSha256Rule (.str (library.sha256 (encode text))) :=
    fun text => (meets_text rfl).mpr ⟨_, rfl, (library.sha256_length _).le⟩
  have absent : Meets root expectedAbsentRule (.bool true) := (meets_flag (.inr rfl)).mpr ⟨_, rfl⟩
  change Allows library root restoreFilePolicy _
  rw [allows_iff]
  constructor
  · simp only [restoreFilePolicy, List.forall_mem_cons]
    refine ⟨located, flagged, bounded, ?_⟩
    obtain ⟨tool, own, _, _, _⟩ := request
    cases tool with
    | writeFile content => exact ⟨digest content, rfl, fun _ member => absurd member List.not_mem_nil⟩
    | deleteFile => exact ⟨rfl, absent, fun _ member => absurd member List.not_mem_nil⟩
  · right
    obtain ⟨tool, own, _, _, _⟩ := request
    cases tool <;> simp [restoreArguments, resultRow, restoreFilePolicy]

theorem unguarded_satisfied {held : Option ByteArray} {args : Arguments}
    (digest : args.get "expected_sha256" = none) (flag : args.get "expected_absent" = none) :
    Satisfied library held args := by
  constructor
  · rw [digest]
    exact fun both => Bool.false_ne_true both.1
  · rw [flag]
    exact fun expected => absurd expected Bool.false_ne_true
  · rw [digest]
    exact fun expected => absurd expected Bool.false_ne_true

/-- A restoration whose guard is met succeeds, where there is room for the file. -/
theorem restore_succeeds (contained : containPath root request.path = .ok path)
    (satisfied : Satisfied library (tree.file? path)
      (restoreArguments library request path captured))
    (placed : captured.isSome = true → tree.node path.parent = some .directory)
    (free : tree.node path ≠ some .directory) :
    wp (operating working)
      (compRestoreFile library root (restoreArguments library request path captured))
      (fun done _ => done = true) (fun _ _ => False) tree := by
  have names : Names library root (restoreArguments library request path captured) path ∧ _ :=
    restore_names contained captured
  have handed : containPath root (pathText library
      (some (((restoreArguments library request path captured).get "path").getD .null))) =
      .ok path := by
    rw [path_text_handed]
    exact names.1
  rw [compRestoreFile, wp_attempt, wp_bind, handleRestoreFile, wp_bind]
  apply wp_safe_ok names.1
  rw [wp_bind]
  apply wp_unfailing (check_accepts satisfied)
  rintro _ after rfl
  rw [wp_ite]
  split
  · rename_i existed
    have present : captured.isSome = true := existed
    obtain ⟨text, rfl⟩ := Option.isSome_iff_exists.mp present
    rw [wp_bind]
    refine wp_unfailing (write_succeeds ?_ ?_ rfl (unguarded_satisfied rfl rfl) (placed rfl) free) ?_
    · exact (truthy_handed _).trans names.2
    · exact handed
    · exact fun _ _ done => done
  · rw [wp_bind]
    refine wp_unfailing (delete_succeeds ?_ (unguarded_satisfied rfl rfl) free) ?_
    · exact handed
    · exact fun _ _ done => done

/-- The compensation of a contract succeeds on what its action has left. -/
theorem compensation_succeeds (contained : containPath root request.path = .ok path)
    (short : ∀ text ∈ captured, text.length ≤ 1000000)
    (resembles : Resembles library (tree.file? path) request.tool.result)
    (placed : captured.isSome = true → tree.node path.parent = some .directory)
    (free : tree.node path ≠ some .directory) :
    let back := compensationRun library root verify self
      ⟨"RESTORE_FILE", restoreArguments library request path captured⟩ working tree
    back.1 = .ok true ∧ back.2.file? = Function.update tree.file? path (captured.map encode) ∧
      Grown path tree back.2 := by
  intro back
  have names : Names library root (restoreArguments library request path captured) path ∧ _ :=
    restore_names contained captured
  have builtin : IsFileTool library root (restoreFileTool library root) := .inr (.inr rfl)
  have satisfied := (restore_satisfied_iff path captured).mpr resembles
  have run : wp (operating working) (executeCompensation library root verify self
      ⟨"RESTORE_FILE", restoreArguments library request path captured⟩)
      (fun done _ => done = true) (fun _ _ => False) tree :=
    wp_execute_compensation_valid builtin rfl (restore_allowed contained short) rfl
      (contain_path_text contained) (restore_succeeds contained satisfied placed free)
  obtain ⟨done, ended, rfl⟩ := served_value run
  have near : Uses (Call.Near path) (executeCompensation library root verify self
      ⟨"RESTORE_FILE", restoreArguments library request path captured⟩) :=
    near_execute_compensation builtin rfl (near_restore names.1)
  exact ⟨ended, ((compensation_run contained captured).1 ended).2, near_grown near working tree⟩

theorem delete_directory {failing : FileTree.Call → Option Errno} {args : Arguments}
    (named : Value.truthy (args.get "path") = true) (names : Names library root args path)
    (directory : tree.node path = some .directory) :
    wp (operating failing) (handleDeleteFile library root args) (fun _ _ => False)
      (fun _ _ => True) tree := by
  rw [handleDeleteFile, if_neg (by simp [named]), wp_bind]
  apply wp_safe_ok names
  rw [wp_bind]
  apply wp_mono (check_spec path args)
  · rintro _ after ⟨rfl, _⟩
    rw [wp_bind, wp_present, directory, wp_ite, if_neg (by simp)]
    apply wp_explained
    rw [wp_bind]
    apply wp_carried
    · exact fun _ _ => trivial
    · have refused : after.remove path = (.error .isDirectory, after) := by
        rw [Tree.remove]
        split
        · rename_i found
          rw [directory] at found
          cases found
        · rfl
        · rename_i found
          rw [directory] at found
          cases found
      rw [Call.carry, refused]
      exact fun _ => trivial
  · exact fun _ _ _ => trivial

theorem forward_grown (contained : containPath root request.path = .ok path)
    (captured : Option String) (failing : FileTree.Call → Option Errno) :
    Grown path tree (forwardRun library root verify self request
      (guardedArguments library request captured) failing tree).2 := by
  have names : Names library root (guardedArguments library request captured) path ∧ _ :=
    guarded_names contained captured
  have builtin : IsFileTool library root (request.definition library root) ∧ _ :=
    definition_builtin
  have near : Uses (Call.Near path) ((request.definition library root).handler
      (guardedArguments library request captured)) := by
    obtain ⟨tool, own, _, _, _⟩ := request
    cases tool with
    | writeFile content => exact near_write names.1
    | deleteFile => exact near_delete
  have shape : forwardRun library root verify self request (guardedArguments library request captured)
      failing tree = (execute library root verify self ⟨(request.definition library root).name,
        guardedArguments library request captured⟩).evaluate (Call.serve failing) tree := by
    rw [builtin.2]
    rfl
  rw [shape]
  exact near_grown (near_execute builtin.1 near) failing tree

/-- An action succeeds only where no directory is in its place. -/
theorem forward_free (contained : containPath root request.path = .ok path)
    {failing : FileTree.Call → Option Errno}
    (succeeded : Succeeded (forwardRun library root verify self request
      (guardedArguments library request captured) failing tree).1) :
    tree.node path ≠ some .directory := by
  intro directory
  have names : Names library root (guardedArguments library request captured) path ∧ _ :=
    guarded_names contained captured
  have changed := ((forward_run contained captured).1 succeeded).2.2
  have grown : Grown path tree (forwardRun library root verify self request
      (guardedArguments library request captured) failing tree).2 :=
    forward_grown contained captured failing
  obtain ⟨tool, own, _, _, _⟩ := request
  cases tool with
  | writeFile content =>
      have still := grown.keeps path directory
      have written := congrFun changed path
      rw [Function.update_self, Tree.file?, still] at written
      cases written
  | deleteFile =>
      have stopped : wp (operating failing) (execute library root verify self
          ⟨"DELETE_FILE", guardedArguments library ⟨.deleteFile, own, _, _, _⟩ captured⟩)
          (fun _ _ => False) (fun _ _ => True) tree :=
        @wp_execute library root verify self failing tree (deleteFileTool library root)
          (.inr (.inl rfl)) _ _ (fun _ => True) trivial
          fun _ => delete_directory names.2 names.1 directory
      obtain ⟨failure, ended, _⟩ := served_error stopped
      obtain ⟨result, done, _⟩ := succeeded
      cases ended.symm.trans done

end Restoring

section Setting

variable (library : Library) (root : Path) (verify : Arguments → String → PolicyDecision)
  (sandbox : WasmSandbox)

/-- The sandbox on a disk. Any call of an action may fail; those of a
compensation fail only for what stands on the disk. -/
def desk : Outside Arguments Tree where
  respond
    | .validate action, tree, reply, after => after = tree ∧
        (fileTools library root verify sandbox working).validates action reply
    | .execute _ step, tree, reply, after => ∃ failing,
        (fileTools library root verify sandbox failing).executes step.action tree reply after
    | .executeCompensation _ _ compensation, tree, reply, after =>
        (fileTools library root verify sandbox working).compensates compensation tree reply after
    | _, tree, _, after => after = tree
  observe := fun _ _ tree => tree

/-- What is agreed on the requests of a saga and the contents that they meet. -/
structure Terms (start : Tree) (requests : FileRequest → Prop) (contents : Set ByteArray) :
    Prop where
  /-- SHA-256 does not collide on the contents. -/
  distinct : Set.InjOn library.sha256 contents
  unixLines : ∀ bytes ∈ contents, carriageReturn bytes = false
  found : ∀ {request}, requests request → ∀ {path}, containPath root request.path = .ok path →
    ∀ bytes, start.file? path = some bytes → bytes ∈ contents
  written : ∀ {request}, requests request → ∀ text ∈ request.tool.result, encode text ∈ contents
  /-- No request needs a directory where another one has its file. -/
  apart : ∀ {request other}, requests request → requests other → ∀ {path beyond},
    containPath root request.path = .ok path → containPath root other.path = .ok beyond →
    path.contains beyond = true → path = beyond

/-- A completed step: its request, the path of it, and what was captured there. -/
structure Entry where
  request : FileRequest
  path : Path
  captured : Option String

namespace Entry

def applies (entry : Entry) (before after : Path → Option ByteArray) : Prop :=
  before entry.path = entry.captured.map encode ∧
    after = Function.update before entry.path (entry.request.tool.result.map encode)

structure Made (library : Library) (entry : Entry) (deed : Deed Arguments) : Prop where
  action : deed.action =
    ⟨entry.request.tool.name, guardedArguments library entry.request entry.captured⟩
  compensation : deed.compensation =
    ⟨"RESTORE_FILE", restoreArguments library entry.request entry.path entry.captured⟩

structure Fits (root : Path) (requests : FileRequest → Prop) (contents : Set ByteArray)
    (entry : Entry) : Prop where
  requested : requests entry.request
  contained : containPath root entry.request.path = .ok entry.path
  short : ∀ text ∈ entry.captured, text.length ≤ 1000000
  held : ∀ text ∈ entry.captured, encode text ∈ contents

structure Room (tree : Tree) (entry : Entry) : Prop where
  placed : entry.captured.isSome = true → tree.node entry.path.parent = some .directory
  free : tree.node entry.path ≠ some .directory

end Entry

/-- The files are those of the start with these deeds done, and there is room to
undo them. -/
structure Books (start : Tree) (requests : FileRequest → Prop) (contents : Set ByteArray)
    (deeds : List (Deed Arguments)) (tree : Tree) : Prop where
  entries : ∃ entries, List.Forall₂ (Entry.Made library) entries deeds ∧
    (∀ entry ∈ entries, entry.Fits root requests contents ∧ entry.Room tree) ∧
    Stacked Entry.applies start.file? entries tree.file?
  contents : ∀ {request}, requests request → ∀ {path}, containPath root request.path = .ok path →
    ∀ bytes, tree.file? path = some bytes → bytes ∈ contents

end Setting

section Accounts

variable {library : Library} {root : Path} {verify : Arguments → String → PolicyDecision}
  {sandbox : WasmSandbox} {start tree after : Tree} {requests : FileRequest → Prop}
  {contents : Set ByteArray} {entry : Entry} {deeds : List (Deed Arguments)}
  {step : SagaStep Arguments}

theorem resembling_met (terms : Terms library root start requests contents)
    {held : Option ByteArray} {text : Option String} (met : ∀ bytes ∈ held, bytes ∈ contents)
    (known : ∀ other ∈ text, encode other ∈ contents) (resembles : Resembles library held text) :
    held = text.map encode := by
  apply resembles_holds _ resembles
  intro bytes member other among equal
  exact terms.distinct (met bytes member) (known other among) equal

theorem room_kept (terms : Terms library root start requests contents)
    (fits : entry.Fits root requests contents) {other : Entry}
    (near : other.Fits root requests contents) (grown : Grown other.path tree after)
    (room : entry.Room tree) : entry.Room after := by
  have below : entry.path ≠ .root := by
    intro top
    apply room.free
    rw [top, tree.rooted]
  constructor
  · exact fun present => grown.keeps _ (room.placed present)
  · apply grown.spares below _ room.free
    exact terms.apart fits.requested near.requested fits.contained near.contained

theorem room_found {path : Path} {bytes : ByteArray} (held : tree.file? path = some bytes) :
    tree.node path.parent = some .directory ∧ tree.node path ≠ some .directory := by
  have found := file_some.mp held
  constructor
  · apply tree.inside
    rw [found]
    rfl
  · rw [found]
    rintro ⟨⟩

/-- The contents that are met stay so when one of them is written. -/
theorem contents_kept {path : Path} {text : Option String}
    (met : ∀ {request}, requests request → ∀ {path}, containPath root request.path = .ok path →
      ∀ bytes, tree.file? path = some bytes → bytes ∈ contents)
    (written : ∀ other ∈ text, encode other ∈ contents)
    (changed : after.file? = Function.update tree.file? path (text.map encode)) :
    ∀ {request}, requests request → ∀ {path}, containPath root request.path = .ok path →
      ∀ bytes, after.file? path = some bytes → bytes ∈ contents := by
  intro request requested other contained bytes held
  rw [changed] at held
  by_cases own : other = path
  · rw [own, Function.update_self] at held
    obtain ⟨content, shape, rfl⟩ := Option.map_eq_some_iff.mp held
    exact written content shape
  · rw [Function.update_of_ne own] at held
    exact met requested contained bytes held

/-- The files of the same tree, or of one that only grew on the way to a path. -/
theorem Books.unchanged (terms : Terms library root start requests contents)
    (books : Books library root start requests contents deeds tree) {other : Entry}
    (near : other.Fits root requests contents) (grown : Grown other.path tree after)
    (same : after.file? = tree.file?) : Books library root start requests contents deeds after := by
  obtain ⟨entries, made, each, stacked⟩ := books.entries
  constructor
  · refine ⟨entries, made, fun entry member => ?_, same ▸ stacked⟩
    obtain ⟨fits, room⟩ := each entry member
    exact ⟨fits, room_kept terms fits near grown room⟩
  · intro request requested path contained bytes held
    rw [same] at held
    exact books.contents requested contained bytes held

/-- An action of a contract is entered on the books, or the files are as they
were. -/
theorem books_forward (terms : Terms library root start requests contents)
    (books : Books library root start requests contents deeds tree)
    (fits : entry.Fits root requests contents) {done : Deed Arguments}
    (made : entry.Made library done) (failing : FileTree.Call → Option Errno) :
    let run := forwardRun library root verify sandbox entry.request
      (guardedArguments library entry.request entry.captured) failing tree
    (Succeeded run.1 → Books library root start requests contents (done :: deeds) run.2) ∧
      (¬Succeeded run.1 → Books library root start requests contents deeds run.2) := by
  intro run
  have outcome : (Succeeded run.1 → _) ∧ _ := forward_run fits.contained entry.captured
  have grown : Grown entry.path tree run.2 := forward_grown fits.contained entry.captured failing
  constructor
  · intro succeeded
    obtain ⟨_, resembles, changed⟩ := outcome.1 succeeded
    have found : tree.file? entry.path = entry.captured.map encode :=
      resembling_met terms (books.contents fits.requested fits.contained) fits.held resembles
    have free := forward_free fits.contained succeeded
    have room : entry.Room tree := by
      refine ⟨fun present => ?_, free⟩
      obtain ⟨text, shape⟩ := Option.isSome_iff_exists.mp present
      rw [shape, Option.map_some] at found
      exact (room_found found).1
    obtain ⟨entries, all, each, stacked⟩ := books.entries
    constructor
    · refine ⟨entry :: entries, .cons made all, ?_, .push stacked ⟨found, changed⟩⟩
      rw [List.forall_mem_cons]
      refine ⟨⟨fits, room_kept terms fits fits grown room⟩, fun other member => ?_⟩
      exact ⟨(each other member).1, room_kept terms (each other member).1 fits grown (each other member).2⟩
    · exact contents_kept books.contents (terms.written fits.requested) changed
  · exact fun failed => books.unchanged terms fits grown (outcome.2 failed)

/-- The compensation of the newest deed succeeds and takes it off the books. -/
theorem books_back (terms : Terms library root start requests contents) {done : Deed Arguments}
    (books : Books library root start requests contents (done :: deeds) tree) :
    let back := compensationRun library root verify sandbox done.compensation working tree
    back.1 = .ok true ∧ Books library root start requests contents deeds back.2 := by
  intro back
  obtain ⟨entries, made, each, stacked⟩ := books.entries
  cases made with
  | @cons entry _ rest _ made all =>
      rw [List.forall_mem_cons] at each
      obtain ⟨⟨fits, room⟩, each⟩ := each
      generalize files : tree.file? = now at stacked
      cases stacked with
      | @push _ _ before _ stacked applied =>
          obtain ⟨found, changed⟩ := applied
          have resembles : Resembles library (tree.file? entry.path) entry.request.tool.result := by
            rw [files, changed, Function.update_self]
            cases entry.request.tool.result with
            | none => rfl
            | some text => exact ⟨_, rfl, rfl⟩
          have run : back.1 = .ok true ∧ back.2.file? = Function.update tree.file? entry.path
              (entry.captured.map encode) ∧ Grown entry.path tree back.2 := by
            change (compensationRun library root verify sandbox done.compensation working tree).1 = _ ∧
              (compensationRun library root verify sandbox done.compensation working tree).2.file? = _ ∧
              Grown _ _ (compensationRun library root verify sandbox done.compensation working tree).2
            rw [made.compensation]
            exact compensation_succeeds fits.contained fits.short resembles room.placed room.free
          obtain ⟨ended, restored, grown⟩ := run
          have same : back.2.file? = before := by
            rw [restored, files, changed, Function.update_idem, ← found, Function.update_eq_self]
          refine ⟨ended, ⟨rest, all, fun other member => ?_, same ▸ stacked⟩, ?_⟩
          · exact ⟨(each other member).1,
              room_kept terms (each other member).1 fits grown (each other member).2⟩
          · exact contents_kept books.contents fits.held restored

/-- The sandbox runs the action of a contract, and says whether it succeeded. -/
theorem desk_executes (made : entry.Made library (deed step))
    {failing : FileTree.Call → Option Errno} {reply : Except PyError (ExecuteResult Arguments)}
    (executed : (fileTools library root verify sandbox failing).executes step.action tree reply
      after) :
    let run := forwardRun library root verify sandbox entry.request
      (guardedArguments library entry.request entry.captured) failing tree
    after = run.2 ∧ ((∃ result, reply = .ok result ∧ result.succeeded = true) ↔ Succeeded run.1) := by
  intro run
  have action : step.action =
      ⟨entry.request.tool.name, guardedArguments library entry.request entry.captured⟩ := made.action
  rw [action] at executed
  obtain ⟨answered, left⟩ := executed
  refine ⟨left, ?_⟩
  replace answered : reply = (run.1.map shown).mapError (surfaced library) := answered
  rw [answered]
  cases run.1 with
  | error failure =>
      constructor
      · rintro ⟨result, ⟨⟩, _⟩
      · rintro ⟨result, ⟨⟩, _⟩
  | ok result =>
      constructor
      · rintro ⟨other, same, succeeded⟩
        obtain rfl := Except.ok.inj same
        exact ⟨result, rfl, succeeded⟩
      · rintro ⟨other, same, succeeded⟩
        obtain rfl := Except.ok.inj same
        exact ⟨_, rfl, succeeded⟩

def reversing (terms : Terms library root start requests contents) (sagaId : String) :
    Reversing (desk library root verify sandbox) sagaId where
  holds := Books library root start requests contents
  sound := fun done => ∃ entry : Entry, entry.Fits root requests contents ∧ entry.Made library done
  unobserving := fun _ _ _ => rfl
  verifies := by
    intro arguments invariants deeds tree reply after books answered
    obtain rfl : after = tree := answered
    exact books
  validates := by
    intro action deeds tree reply after books answered
    obtain rfl : after = tree := answered.1
    exact books
  acts := by
    rintro step deeds tree result after ⟨entry, fits, made⟩ books ⟨failing, executed⟩
    obtain ⟨rfl, verdict⟩ := desk_executes made executed
    have outcome := @books_forward library root verify sandbox start tree requests contents entry
      deeds terms books fits _ made failing
    split
    · rename_i succeeded
      exact outcome.1 (verdict.mp ⟨result, rfl, succeeded⟩)
    · rename_i refused
      apply outcome.2
      intro succeeded
      obtain ⟨other, same, yes⟩ := verdict.mpr succeeded
      obtain rfl := Except.ok.inj same
      exact refused yes
  raises := by
    rintro step deeds tree error after ⟨entry, fits, made⟩ books ⟨failing, executed⟩
    obtain ⟨rfl, verdict⟩ := desk_executes made executed
    apply (@books_forward library root verify sandbox start tree requests contents entry
      deeds terms books fits _ made failing).2
    intro succeeded
    obtain ⟨other, same, _⟩ := verdict.mpr succeeded
    cases same
  undoes := by
    rintro done deeds tree reply after books ⟨answered, rfl⟩
    have outcome := @books_back library root verify sandbox start tree requests contents deeds
      terms done books
    refine ⟨?_, outcome.2⟩
    rw [answered]
    exact congrArg (Except.mapError (surfaced library)) outcome.1

end Accounts

section Runs

variable (library : Library) (root : Path) (verify : Arguments → String → PolicyDecision)
  (sandbox : WasmSandbox)

/-- The step that `submit_step` makes of a file request and its contract. -/
def fileStep (request : FileRequest) (derived : Arguments × ActionPayload Arguments)
    (stepId stepName invariants : String) (idempotencyKey : Option String)
    (requiresApproval : Bool) : SagaStep Arguments where
  stepId := stepId
  stepName := stepName
  action := ⟨request.tool.name, derived.1⟩
  compensation := derived.2
  invariants := invariants
  idempotencyKey := idempotencyKey
  requiresApproval := requiresApproval

/-- The calls that the endpoints make for a saga on files. A step is submitted
with the contract that is derived for it then, while the saga is not rolled
back; steps that wait are approved or rejected. -/
def Requested (sagaId : String) (requests : FileRequest → Prop) (state : System Arguments Tree) :
    ApiCall Arguments → Prop
  | .execute owner steps => owner = sagaId ∧
      (∀ saga, state.memory.active.find? sagaId = some saga → saga.status ≠ .rolledBack) ∧
      ∃ request failing derived stepId stepName invariants key approval, requests request ∧
        (deriveFileContract library root request.tool.name request.arguments).evaluate
          (FileTree.Call.serve failing) state.world = (.ok derived, state.world) ∧
        steps = [fileStep request derived stepId stepName invariants key approval]
  | .resume owner => owner = sagaId
  | .reject owner => owner = sagaId
  | _ => False

/-- The states between the calls of one coordinator on one saga. -/
abbrev FileRuns (worker : Coordinator) (sagaId : String) (requests : FileRequest → Prop) :
    System Arguments Tree → System Arguments Tree → Prop :=
  Lives (machine (desk library root verify sandbox) fun _ => True)
    (fun state program => ∃ request, Requested library root sagaId requests state request ∧
      program = request.program worker) (fun _ => False) id

/-- A saga that was just started. -/
def Opened (sagaId : String) (state : System Arguments Tree) : Prop :=
  ∃ saga, state.memory.active.find? sagaId = some saga ∧ saga.status = .running ∧
    saga.completedSteps = [] ∧ saga.pendingSteps = []

/-- The saga accounts for the files. -/
structure Accounted (sagaId : String) (start : Tree) (state : System Arguments Tree) : Prop where
  /-- The completed steps, in order, have made the files what they are. -/
  forward : ∀ saga, state.memory.active.find? sagaId = some saga → saga.status ≠ .rolledBack →
    ∃ entries : List Entry,
      List.Forall₂ (Entry.Made library) entries (saga.completedSteps.map deed) ∧
      state.world.file? = entries.foldl (fun files entry =>
        Function.update files entry.path (entry.request.tool.result.map encode)) start.file?
  back : ∀ saga, state.memory.active.find? sagaId = some saga → saga.status = .rolledBack →
    state.world.file? = start.file?

section Submissions

variable {library : Library} {root : Path} {verify : Arguments → String → PolicyDecision}
  {sandbox : WasmSandbox} {worker : Coordinator} {sagaId : String} {start : Tree}
  {requests : FileRequest → Prop} {contents : Set ByteArray}
  {initial state : System Arguments Tree}

/-- The contract that is derived from files without carriage returns captures
them exactly. -/
theorem derived_sound (terms : Terms library root start requests contents)
    {deeds : List (Deed Arguments)} {tree : Tree}
    (books : Books library root start requests contents deeds tree) {request : FileRequest}
    (requested : requests request) {failing : FileTree.Call → Option Errno}
    {derived : Arguments × ActionPayload Arguments}
    (derives : (deriveFileContract library root request.tool.name request.arguments).evaluate
      (FileTree.Call.serve failing) tree = (.ok derived, tree)) (stepId : String) :
    ∃ entry : Entry, entry.Fits root requests contents ∧
      entry.Made library ⟨stepId, ⟨request.tool.name, derived.1⟩, derived.2⟩ := by
  have named : request.arguments.get "path" = some (.str request.path) := rfl
  cases contained : containPath root request.path with
  | error failure =>
      rw [deriveFileContract, named] at derives
      simp only [pathText, contained] at derives
      cases failure <;> cases derives
  | ok path =>
      have spec : replied _ _ ((deriveFileContract library root request.tool.name
          request.arguments).evaluate (Call.serve failing) tree).1 :=
        wp_served_iff.mp (derive_spec contained)
      rw [derives] at spec
      obtain ⟨_, captured, captures, rfl⟩ := spec
      refine ⟨⟨request, path, captured⟩, ⟨requested, contained, captures.short, ?_⟩, ⟨rfl, rfl⟩⟩
      intro text member
      have exact : captured.map encode = tree.file? path := by
        apply (capture_exact_iff captures).mpr
        intro bytes held
        exact terms.unixLines bytes (books.contents requested contained bytes held)
      obtain rfl : captured = some text := member
      exact books.contents requested contained _ exact.symm

theorem stacked_files {entries : List Entry} {before files : Path → Option ByteArray}
    (stacked : Stacked Entry.applies before entries files) :
    files = entries.foldr (fun entry files =>
      Function.update files entry.path (entry.request.tool.result.map encode)) before := by
  induction stacked with
  | nil => rfl
  | push earlier applied ih => rw [List.foldr_cons, ← ih, applied.2]

abbrev filesBack (verify : Arguments → String → PolicyDecision) (sandbox : WasmSandbox)
    (terms : Terms library root start requests contents) (sagaId : String) :
    Reversing (desk library root verify sandbox) sagaId :=
  reversing terms sagaId

theorem opened_settled (terms : Terms library root start requests contents)
    (opened : Opened sagaId initial) (placed : initial.world = start) :
    Settled (filesBack verify sandbox terms sagaId) worker initial := by
  obtain ⟨saga, found, running, completed, pending⟩ := opened
  refine .standing [] ⟨⟨saga, found, completed, ?_, ?_⟩, ?_, ExactRollbacks.recorded_nil⟩
  · rw [running]
    decide
  · rw [pending]
    exact fun _ member => absurd member List.not_mem_nil
  · rw [placed]
    exact ⟨⟨[], .nil, fun _ member => absurd member List.not_mem_nil, .nil⟩, terms.found⟩

theorem requested_submittable (terms : Terms library root start requests contents)
    (settled : Settled (filesBack verify sandbox terms sagaId) worker state)
    {request : ApiCall Arguments} (requested : Requested library root sagaId requests state request) :
    Submittable (filesBack verify sandbox terms sagaId) state request := by
  have books : ∃ deeds, Books library root start requests contents deeds state.world := by
    cases settled with
    | standing done standing => exact ⟨_, standing.holds⟩
    | undone undone => exact ⟨_, undone.holds⟩
    | dropped absent deeds holds => exact ⟨_, holds⟩
  cases request with
  | start | recover => exact requested.elim
  | resume | reject => exact requested
  | execute owner steps =>
      obtain ⟨deeds, books⟩ := books
      obtain ⟨own, live, request, failing, derived, stepId, stepName, invariants, key, approval, asked,
        derives, rfl⟩ := requested
      refine ⟨own, ?_, live⟩
      intro step member
      rw [List.mem_singleton.mp member]
      exact derived_sound terms books asked derives stepId

/-- A saga of file steps accounts for the files after every call. -/
theorem file_saga_accounted (terms : Terms library root start requests contents)
    (opened : Opened sagaId initial) (placed : initial.world = start)
    (runs : FileRuns library root verify sandbox worker sagaId requests initial state) :
    Accounted library sagaId start state := by
  have settled : Settled (filesBack verify sandbox terms sagaId) worker state := by
    apply runs_settle _ (opened_settled terms opened placed) runs
    rintro before program settled ⟨request, requested, rfl⟩
    exact ⟨request, requested_submittable terms settled requested, rfl⟩
  cases settled with
  | standing done standing =>
      obtain ⟨saga, found, rfl, live, _⟩ := standing.active
      constructor
      · intro other known _
        obtain rfl : saga = other := Option.some.inj (found.symm.trans known)
        obtain ⟨entries, made, _, stacked⟩ := standing.holds.entries
        refine ⟨entries.reverse, ?_, ?_⟩
        · have turned := List.forall₂_reverse_iff.mpr made
          rwa [← List.map_reverse, List.reverse_reverse] at turned
        · rw [stacked_files stacked, List.foldl_reverse]
      · intro other known rolled
        obtain rfl : saga = other := Option.some.inj (found.symm.trans known)
        exact absurd rolled live
  | undone undone =>
      obtain ⟨saga, found, rolled⟩ := undone.active
      constructor
      · intro other known live
        obtain rfl : saga = other := Option.some.inj (found.symm.trans known)
        exact absurd rolled live
      · intro _ _ _
        obtain ⟨entries, made, _, stacked⟩ := undone.holds.entries
        cases made
        exact stacked.bottom
  | dropped absent deeds holds =>
      constructor
      · intro saga known
        rw [absent] at known
        cases known
      · intro saga known
        rw [absent] at known
        cases known

end Submissions

section Samples

def letteredContract : Arguments × ActionPayload Arguments :=
  contract sampleLibrary sampleRequest samplePath (some "a\n")

theorem lettered_terms : Terms sampleLibrary sampleRoot letteredTree (fun request =>
    request = sampleRequest) {encode "a\n", encode "b"} where
  distinct := by
    rintro _ (rfl | rfl) _ (rfl | rfl) same
    · rfl
    · exact absurd same (by decide +kernel)
    · exact absurd same (by decide +kernel)
    · rfl
  unixLines := by
    rintro _ (rfl | rfl)
    · decide +kernel
    · decide +kernel
  found := by
    rintro _ rfl path contained bytes held
    obtain rfl := Except.ok.inj (sample_contained.symm.trans contained)
    rw [lettered_held] at held
    exact .inl (Option.some.inj held).symm
  written := by
    rintro _ rfl text ⟨⟩
    exact .inr rfl
  apart := by
    rintro _ _ rfl rfl path beyond contained other _
    exact Except.ok.inj (contained.symm.trans other)

def sampleAnswers : (request : OutsideCall Arguments) → Tree →
    Except PyError request.Answer × Tree
  | .validate action, before =>
      (((validate sampleLibrary sampleRoot sampleVerify sampleSandbox action).map fun _ => ()).mapError
        (surfaced sampleLibrary), before)
  | .execute _ step, before =>
      let run := (execute sampleLibrary sampleRoot sampleVerify sampleSandbox step.action).evaluate
        (FileTree.Call.serve working) before
      ((run.1.map shown).mapError (surfaced sampleLibrary), run.2)
  | .executeCompensation _ _ compensation, before =>
      let run := (executeCompensation sampleLibrary sampleRoot sampleVerify sampleSandbox compensation).evaluate
        (FileTree.Call.serve working) before
      (run.1.mapError (surfaced sampleLibrary), run.2)
  | .verify .., before => (.ok (true, ""), before)
  | .resolveEffect _, before => (.ok (.bool true), before)
  | .resolveCompensation _, before => (.ok (.bool true), before)
  | .executeIdempotent .., before => (.ok .none, before)

theorem sample_answers_honest (request : OutsideCall Arguments) (before : Tree) :
    (desk sampleLibrary sampleRoot sampleVerify sampleSandbox).respond request before
      (sampleAnswers request before).1 (sampleAnswers request before).2 := by
  cases request with
  | validate action => exact ⟨rfl, rfl⟩
  | execute sagaId step => exact ⟨working, rfl, rfl⟩
  | executeCompensation sagaId stepId compensation => exact ⟨rfl, rfl⟩
  | _ => rfl

def letteredStep : SagaStep Arguments :=
  fileStep sampleRequest letteredContract "w" "write" "" none false

def lettered : System Arguments Tree := ⟨opened.store, opened.memory, letteredTree⟩

def fileServed (request : ApiCall Arguments) (state : System Arguments Tree) :
    Action Arguments Unit × System Arguments Tree :=
  simulate (answerWith (desk sampleLibrary sampleRoot sampleVerify sampleSandbox) sampleAnswers) 60
    (request.program worker) state

def overwritten : System Arguments Tree := (fileServed (.execute "s" [letteredStep]) lettered).2

def gatedWrite : SagaStep Arguments :=
  fileStep sampleRequest (contract sampleLibrary sampleRequest samplePath (some "b")) "v" "write" ""
    none true

def gatedAgain : System Arguments Tree := (fileServed (.execute "s" [gatedWrite]) overwritten).2

def rejected : System Arguments Tree := (fileServed (.reject "s") gatedAgain).2

theorem overwritten_captures : Captures (overwritten.world.file? samplePath) (some "b") := by
  have held : overwritten.world.file? samplePath = some (encode "b") := by decide +kernel
  rw [held]
  constructor
  · rw [Option.bind_some, decode, from_utf8_encode]
    decide
  · rfl
  · intro text member
    cases member
    decide

theorem file_runs_served {request : ApiCall Arguments} {state : System Arguments Tree}
    (runs : FileRuns sampleLibrary sampleRoot sampleVerify sampleSandbox worker "s"
      (fun request => request = sampleRequest) lettered state)
    (requested : Requested sampleLibrary sampleRoot "s" (fun request => request = sampleRequest) state
      request) (ended : (fileServed request state).1.finished = true) :
    FileRuns sampleLibrary sampleRoot sampleVerify sampleSandbox worker "s"
      (fun request => request = sampleRequest) lettered (fileServed request state).2 := by
  have steps : Steps (machine (desk sampleLibrary sampleRoot sampleVerify sampleSandbox) fun _ => True)
      (request.program worker) state (fileServed request state).1 (fileServed request state).2 :=
    simulate_steps (answer_with_honest sample_answers_honest) 60 _ state
  exact .served runs ⟨request, requested, rfl⟩ steps ended

theorem rejected_runs : FileRuns sampleLibrary sampleRoot sampleVerify sampleSandbox worker "s"
    (fun request => request = sampleRequest) lettered rejected := by
  have working_saga : ∀ {state : System Arguments Tree} {status},
      (state.memory.active.find? "s").map (·.status) = some status → status ≠ .rolledBack →
      ∀ saga, state.memory.active.find? "s" = some saga → saga.status ≠ .rolledBack := by
    intro state status known live saga found
    rw [found, Option.map_some, Option.some.injEq] at known
    rwa [known]
  have first : Requested sampleLibrary sampleRoot "s" (fun request => request = sampleRequest)
      lettered (.execute "s" [letteredStep]) :=
    ⟨rfl, working_saga (by decide : _ = some .running) (by decide), sampleRequest, working,
      letteredContract, "w", "write", "", none, false, rfl, sample_derives lettered_captures, rfl⟩
  have second : Requested sampleLibrary sampleRoot "s" (fun request => request = sampleRequest)
      overwritten (.execute "s" [gatedWrite]) :=
    ⟨rfl, working_saga (by decide +kernel : _ = some .committed) (by decide), sampleRequest, working, _,
      "v", "write", "", none, true, rfl, sample_derives overwritten_captures, rfl⟩
  apply file_runs_served (file_runs_served (file_runs_served .start first _) second _) _ _
  · decide +kernel
  · decide +kernel
  · exact rfl
  · decide +kernel

theorem lettered_opened : Opened "s" lettered := by
  refine ⟨_, rfl, ?_, ?_, ?_⟩
  · rfl
  · rfl
  · rfl

/-- The theorem where a file is overwritten and the saga is rolled back then. -/
theorem file_saga_accounted_sample :
    Accounted sampleLibrary "s" letteredTree rejected ∧
      (rejected.memory.active.find? "s").map (·.status) = some .rolledBack :=
  ⟨file_saga_accounted lettered_terms lettered_opened rfl rejected_runs, by decide +kernel⟩

end Samples

end Runs

end SagaMind.FileSagas
