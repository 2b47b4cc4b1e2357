import SagaMind.Coordinator.Attempts
import SagaMind.Sandbox.FileContract
import SagaMind.Sandbox.Rejections
import SagaMind.StateStore.Codecs

/-!
# Steps that their handler rejects

The worker turns the exception of a handler into a reply, the sandbox turns the
reply back into an exception, and the coordinator takes every exception of an
execution for an unknown outcome. So a step that its handler rejects before it
touches the workspace is recorded as ambiguous.
-/

namespace SagaMind.RejectedSteps

open CallProgram FileTree KeyedTable Sandbox Attempts

set_option autoImplicit false

section Boundary

variable (library : Library) (root : Path) (verify : Arguments → String → PolicyDecision)
  (sandbox : WasmSandbox) (failing : FileTree.Call → Option Errno)

/-- The exception with its `str`. -/
def surfaced : Failure → PyError
  | .sandbox message => .external message
  | .os errno => .external (library.strerror errno)
  | .value .nullCharacter => .external "lstat: embedded null character in path"

def shown (result : SandboxResult) : ExecuteResult Arguments :=
  .result result.success result.status result.data result.error

/-- The sandbox on a workspace, where any call of the operating system may fail. -/
def fileTools : Toolbox Arguments Tree where
  validates action reply :=
    reply = ((validate library root verify sandbox action).map fun _ => ()).mapError
      (surfaced library)
  executes action before reply left :=
    let run := (execute library root verify sandbox action).evaluate
      (FileTree.Call.serve failing) before
    reply = (run.1.map shown).mapError (surfaced library) ∧ left = run.2
  compensates compensation before reply left :=
    let run := (executeCompensation library root verify sandbox compensation).evaluate
      (FileTree.Call.serve failing) before
    reply = run.1.mapError (surfaced library) ∧ left = run.2

/-- An action of one of the file tools that passes the preflight check. -/
structure Passes (action : ActionPayload Arguments) : Prop where
  tool : action.toolName ∈ ["WRITE_FILE", "DELETE_FILE", "RESTORE_FILE"]
  valid : ∃ tool, validate library root verify sandbox action = .ok tool

/-- The handler of the action rejects it before it touches the workspace. -/
def Refuses (tree : Tree) (action : ActionPayload Arguments) : Prop :=
  ∃ tool, (registry library root).get library action.toolName = .ok tool ∧
    Stops failing tree (tool.handler action.arguments)

/-- What the action finds in the workspace makes its handler reject it. -/
def Rejected (tree : Tree) (action : ActionPayload Arguments) : Prop :=
  (action.toolName = "WRITE_FILE" ∧ WriteRejected library root failing tree action.arguments) ∨
  (action.toolName = "DELETE_FILE" ∧ DeleteRejected library root failing tree action.arguments) ∨
  (action.toolName = "RESTORE_FILE" ∧ RestoreRejected library root failing tree action.arguments)

/-- The record of every step that its handler rejected is aborted, and no dead
letter of the saga names the step. -/
def Distinguished (sagaId : String) (state : System Arguments (Ledger Arguments Tree)) : Prop :=
  ∀ attempt ∈ state.world.attempts,
    Refuses library root failing attempt.found attempt.step.action →
    (∃ record, state.store.effect? sagaId attempt.step.stepId = some record ∧
      record.state = .aborted) ∧
    (sagaId, attempt.step.stepName) ∉ state.world.letters

end Boundary

section Handlers

variable {library : Library} {root : Path} {verify : Arguments → String → PolicyDecision}
  {sandbox : WasmSandbox} {failing : FileTree.Call → Option Errno} {tree : Tree}
  {action : ActionPayload Arguments}

/-- An action that passes is run by the handler of its file tool. -/
theorem passes_tool (passes : Passes library root verify sandbox action) :
    ∃ tool path, IsFileTool library root tool ∧ tool.name = action.toolName ∧
      validate library root verify sandbox action = .ok tool ∧
      Names library root action.arguments path := by
  obtain ⟨other, valid⟩ := passes.valid
  have file : ∃ tool, IsFileTool library root tool ∧ tool.name = action.toolName := by
    have named := passes.tool
    simp only [List.mem_cons, List.not_mem_nil, or_false] at named
    rcases named with same | same | same
    · exact ⟨writeFileTool library root, .inl rfl, same.symm⟩
    · exact ⟨deleteFileTool library root, .inr (.inl rfl), same.symm⟩
    · exact ⟨restoreFileTool library root, .inr (.inr rfl), same.symm⟩
  obtain ⟨tool, builtin, named⟩ := file
  have shape : action = ⟨tool.name, action.arguments⟩ := by rw [named]
  have own := valid
  rw [shape] at own
  obtain ⟨same, allows⟩ := validate_tool builtin own
  have listed : ("path", pathRule) ∈ (filePolicy tool).arguments.rows := by
    rcases builtin with write | delete | restore
    · rw [write]
      exact List.mem_cons_self
    · rw [delete]
      exact List.mem_cons_self
    · rw [restore]
      exact List.mem_cons_self
  have rule := (allows_iff.mp allows).1 _ listed
  cases given : action.arguments.get "path" with
  | none =>
      rw [given] at rule
      cases rule
  | some value =>
      rw [given] at rule
      obtain ⟨text, path, shown, contained⟩ := meets_path.mp rule
      refine ⟨tool, path, builtin, named, same ▸ valid, ?_⟩
      rw [Names, given, shown]
      exact contained

/-- A handler rejects an action for what the action finds, and for nothing else. -/
theorem refuses_iff (passes : Passes library root verify sandbox action) :
    Refuses library root failing tree action ↔ Rejected library root failing tree action := by
  obtain ⟨tool, path, builtin, named, valid, contained⟩ := passes_tool passes
  have found : Refuses library root failing tree action ↔
      Stops failing tree (tool.handler action.arguments) := by
    have known := (file_tool_found builtin).1
    rw [named] at known
    constructor
    · rintro ⟨other, own, stops⟩
      rw [Except.ok.inj (known.symm.trans own)]
      exact stops
    · exact fun stops => ⟨tool, known, stops⟩
  rw [found, Rejected, ← named]
  rcases builtin with same | same | same
  · rw [same]
    have verdict := stops_iff (@write_verdict library root failing tree _ path contained)
    simpa [writeFileTool] using verdict
  · rw [same]
    have verdict := stops_iff (@delete_verdict library root failing tree _ path contained)
    simpa [deleteFileTool] using verdict
  · rw [same]
    have verdict := stops_iff (@restore_verdict library root failing tree _ path contained)
    simpa [restoreFileTool] using verdict

theorem refused_raises {reply : Except PyError (ExecuteResult Arguments)} {left : Tree}
    (passes : Passes library root verify sandbox action)
    (refuses : Refuses library root failing tree action)
    (answered : (fileTools library root verify sandbox failing).executes action tree reply left) :
    ∃ error, reply = .error error := by
  obtain ⟨tool, path, builtin, named, valid, contained⟩ := passes_tool passes
  obtain ⟨other, own, failure, rejects, stopped⟩ := refuses
  have known := (file_tool_found builtin).1
  rw [named, own] at known
  have same : other = tool := Except.ok.inj known
  rw [same] at stopped
  have handler : wp (operating failing) (tool.handler action.arguments) (fun _ _ => False)
      (fun _ _ => True) tree := by
    rw [wp_served_iff, stopped]
    trivial
  have run : wp (operating failing) (execute library root verify sandbox action)
      (fun _ _ => False) (fun _ _ => True) tree := by
    rw [execute, wp_bind, valid, wp_outcome, replied_ok, if_pos (file_tool_found builtin).2,
      executeWorker, wp_attempt]
    exact wp_mono handler (fun _ _ impossible => impossible) fun _ _ _ => trivial
  obtain ⟨error, raised, _⟩ := served_error run
  refine ⟨surfaced library error, ?_⟩
  rw [answered.1]
  simp only [raised]
  rfl

end Handlers

section Batches

variable {library : Library} {root : Path}
  {verify : Arguments → String → PolicyDecision} {sandbox : WasmSandbox}
  {failing : FileTree.Call → Option Errno} {self : Coordinator} {sagaId : String}
  {steps : List (SagaStep Arguments)} {store : Store Arguments} {memory : Memory Arguments}
  {tree : Tree} {reply : Except PyError Bool} {after : System Arguments (Ledger Arguments Tree)}

theorem batch_recorded (journaled : self.store = .journaled)
    (passing : ∀ step ∈ steps, Passes library root verify sandbox step.action)
    (ran : Steps (recording (fileTools library root verify sandbox failing))
      (self.executeSaga sagaId steps) ⟨store, memory, { world := tree }⟩ (Program.ended reply)
      after) :
    Recorded (fileTools library root verify sandbox failing)
      (Passes library root verify sandbox) sagaId after := by
  have quiet : Quiet (fileTools library root verify sandbox failing)
      (Passes library root verify sandbox) (⟨store, memory, { world := tree }⟩ :
        System Arguments (Ledger Arguments Tree)) := fun _ member => nomatch member
  have ends := wp_ended (executes_saga journaled passing quiet) ran
  cases reply <;> exact ends

/-- Every step that its handler rejects is recorded as ambiguous, and a dead
letter of the saga names it. -/
theorem rejected_ambiguous (journaled : self.store = .journaled)
    (passing : ∀ step ∈ steps, Passes library root verify sandbox step.action)
    (ran : Steps (recording (fileTools library root verify sandbox failing))
      (self.executeSaga sagaId steps) ⟨store, memory, { world := tree }⟩ (Program.ended reply)
      after) {attempt : Attempt Arguments Tree} (member : attempt ∈ after.world.attempts)
    (refuses : Refuses library root failing attempt.found attempt.step.action) :
    Ambiguous sagaId attempt after := by
  obtain ⟨honest, recorded⟩ := batch_recorded journaled passing ran attempt member
  exact recorded (refused_raises honest.planned refuses honest.answered)

/-- Rejections are kept apart from unknown outcomes, if and only if no step of
the batch finds a workspace in which its handler rejects it. -/
theorem rejections_distinguished_iff (journaled : self.store = .journaled)
    (passing : ∀ step ∈ steps, Passes library root verify sandbox step.action)
    (ran : Steps (recording (fileTools library root verify sandbox failing))
      (self.executeSaga sagaId steps) ⟨store, memory, { world := tree }⟩ (Program.ended reply)
      after) :
    Distinguished library root failing sagaId after ↔
      ∀ attempt ∈ after.world.attempts,
        ¬Rejected library root failing attempt.found attempt.step.action := by
  have agrees : ∀ attempt ∈ after.world.attempts,
      (Refuses library root failing attempt.found attempt.step.action ↔
        Rejected library root failing attempt.found attempt.step.action) := by
    intro attempt member
    exact refuses_iff (batch_recorded journaled passing ran attempt member).1.planned
  constructor
  · intro distinguished attempt member rejected
    have refuses := (agrees attempt member).mpr rejected
    obtain ⟨record, found, aborted⟩ := (distinguished attempt member refuses).1
    obtain ⟨other, known, ambiguous⟩ := (rejected_ambiguous journaled passing ran member refuses).record
    rw [Option.some.inj (found.symm.trans known), ambiguous] at aborted
    cases aborted
  · intro spared attempt member refuses
    exact absurd ((agrees attempt member).mp refuses) (spared attempt member)

end Batches

section Runs

def answering (library : Library) (root : Path) (verify : Arguments → String → PolicyDecision)
    (sandbox : WasmSandbox) (failing : FileTree.Call → Option Errno) :
    (request : OutsideCall Arguments) → Ledger Arguments Tree →
      Except PyError request.Answer × Ledger Arguments Tree
  | .validate action, before =>
      (((validate library root verify sandbox action).map fun _ => ()).mapError (surfaced library),
        before)
  | .execute _ step, before =>
      let run := (execute library root verify sandbox step.action).evaluate
        (FileTree.Call.serve failing) before.world
      let reply := (run.1.map shown).mapError (surfaced library)
      (reply, { before with
        world := run.2
        attempts := ⟨step, before.world, reply, run.2⟩ :: before.attempts })
  | .executeCompensation _ _ compensation, before =>
      let run := (executeCompensation library root verify sandbox compensation).evaluate
        (FileTree.Call.serve failing) before.world
      (run.1.mapError (surfaced library), { before with world := run.2 })
  | .verify .., before => (.ok (true, ""), before)
  | .resolveEffect _, before => (.ok (.bool true), before)
  | .resolveCompensation _, before => (.ok (.bool true), before)
  | .executeIdempotent .., before => (.ok .none, before)

theorem answering_honest (library : Library) (root : Path)
    (verify : Arguments → String → PolicyDecision) (sandbox : WasmSandbox)
    (failing : FileTree.Call → Option Errno) (request : OutsideCall Arguments)
    (before : Ledger Arguments Tree) :
    (ledger (fileTools library root verify sandbox failing)).respond request before
      (answering library root verify sandbox failing request before).1
      (answering library root verify sandbox failing request before).2 := by
  cases request with
  | validate action => exact ⟨rfl, rfl⟩
  | execute sagaId step => exact ⟨_, ⟨rfl, rfl⟩, rfl⟩
  | executeCompensation sagaId stepId compensation => exact ⟨_, ⟨rfl, rfl⟩, rfl⟩
  | _ => rfl

def worker : Coordinator where
  store := .journaled

def sampleTools : Toolbox Arguments Tree :=
  fileTools sampleLibrary sampleRoot sampleVerify sampleSandbox working

def guardedWrite : SagaStep Arguments where
  stepId := "w"
  stepName := "write"
  action := ⟨"WRITE_FILE", ⟨[("path", .str "a"), ("content", .str "c"),
    ("expected_absent", .bool true)], by decide⟩⟩
  compensation := ⟨"NOOP", .empty⟩
  invariants := ""

def sampled {Value : Type} (program : Action Arguments Value)
    (state : System Arguments (Ledger Arguments Tree)) :
    Action Arguments Value × System Arguments (Ledger Arguments Tree) :=
  simulate (answerWith (ledger sampleTools)
    (answering sampleLibrary sampleRoot sampleVerify sampleSandbox working)) 60 program state

def opened : System Arguments (Ledger Arguments Tree) :=
  (sampled (worker.startTransactionLog "s" "" "") ⟨.empty, .empty, { world := .bare }⟩).2

def wrote (tree : Tree) : Action Arguments Bool × System Arguments (Ledger Arguments Tree) :=
  sampled (worker.executeSaga "s" [guardedWrite]) ⟨opened.store, opened.memory, { world := tree }⟩

theorem sampled_steps {Value : Type} (program : Action Arguments Value)
    (state : System Arguments (Ledger Arguments Tree)) :
    Steps (recording sampleTools) program state (sampled program state).1
      (sampled program state).2 :=
  simulate_steps (answer_with_honest (answering_honest _ _ _ _ _)) 60 program state

theorem wrote_steps (tree : Tree) {outcome : Except PyError Bool}
    (result : (wrote tree).1.outcome? = some outcome) :
    Steps (recording sampleTools) (worker.executeSaga "s" [guardedWrite])
      ⟨opened.store, opened.memory, { world := tree }⟩ (Program.ended outcome) (wrote tree).2 := by
  rw [← Program.outcome_ended result]
  exact sampled_steps _ _

theorem guarded_write_passes :
    ∀ step ∈ [guardedWrite], Passes sampleLibrary sampleRoot sampleVerify sampleSandbox step.action := by
  rw [List.forall_mem_singleton]
  refine ⟨by decide, ?_⟩
  have accepted : (validate sampleLibrary sampleRoot sampleVerify sampleSandbox guardedWrite.action).isOk := by
    decide +kernel
  cases valid : validate sampleLibrary sampleRoot sampleVerify sampleSandbox guardedWrite.action with
  | ok tool => exact ⟨tool, rfl⟩
  | error failure =>
      rw [valid] at accepted
      cases accepted

def occupied : Tree := .holding samplePath (encode "b")

theorem occupied_tried : (wrote occupied).2.world.attempts ≠ [] := by
  rw [← List.length_pos_iff]
  decide +kernel

def occupiedAttempt : Attempt Arguments Tree :=
  (wrote occupied).2.world.attempts.head occupied_tried

theorem occupied_refused :
    Refuses sampleLibrary sampleRoot working occupiedAttempt.found guardedWrite.action := by
  apply (refuses_iff (guarded_write_passes guardedWrite List.mem_cons_self)).mpr
  have named : containPath sampleRoot "a" = .ok samplePath := by decide
  have placed : occupiedAttempt.found.node samplePath.parent = some .directory := by decide +kernel
  have standing : (occupiedAttempt.found.file? samplePath).isSome = true := by decide +kernel
  exact .inl ⟨rfl, .inr ⟨rfl, ⟨"c", rfl⟩, samplePath, named, rfl, placed,
    .inr (.inl ⟨rfl, standing⟩)⟩⟩

/-- A file stands where the write expects none, and its record is ambiguous. -/
theorem unexpected_file_ambiguous :
    Steps (recording sampleTools) (worker.executeSaga "s" [guardedWrite])
      ⟨opened.store, opened.memory, { world := occupied }⟩ (Program.ended (.ok false))
      (wrote occupied).2 ∧
    ¬Distinguished sampleLibrary sampleRoot working "s" (wrote occupied).2 := by
  refine ⟨wrote_steps occupied (by decide +kernel), fun distinguished => ?_⟩
  have own : occupiedAttempt.step.action = guardedWrite.action := by decide +kernel
  have filed : occupiedAttempt.step.stepId = "w" := by decide +kernel
  have settled := (distinguished occupiedAttempt (List.head_mem _) (own ▸ occupied_refused)).1
  rw [filed] at settled
  obtain ⟨record, found, aborted⟩ := settled
  have ambiguous : ((wrote occupied).2.store.effect? "s" "w").map (·.state) = some .ambiguous := by
    decide +kernel
  rw [found, Option.map_some, aborted] at ambiguous
  cases ambiguous

/-- A batch whose step is done and one whose step is rejected. -/
theorem rejections_distinguished_sample :
    (Distinguished sampleLibrary sampleRoot working "s" (wrote .bare).2 ↔
      ∀ attempt ∈ (wrote .bare).2.world.attempts,
        ¬Rejected sampleLibrary sampleRoot working attempt.found attempt.step.action) ∧
    (Distinguished sampleLibrary sampleRoot working "s" (wrote occupied).2 ↔
      ∀ attempt ∈ (wrote occupied).2.world.attempts,
        ¬Rejected sampleLibrary sampleRoot working attempt.found attempt.step.action) :=
  ⟨rejections_distinguished_iff rfl guarded_write_passes
      (@wrote_steps .bare (.ok true) (by decide +kernel)),
    rejections_distinguished_iff rfl guarded_write_passes
      (@wrote_steps occupied (.ok false) (by decide +kernel))⟩

end Runs

end SagaMind.RejectedSteps
