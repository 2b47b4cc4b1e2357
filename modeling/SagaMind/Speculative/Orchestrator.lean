import SagaMind.Foundation.KeyedTable
import SagaMind.Models

/-!
# The speculative orchestrator

`SpeculativeOrchestrator` with any number of runs on one event loop. A run draws a
sandbox id for each draft and awaits the validations; every draft that comes back
writes its entry into the dictionary that all runs share. `select_winner` reads that
dictionary and marks every other entry in it as invalid.
-/

namespace SagaMind.Speculative

open KeyedTable

set_option autoImplicit false

variable {Args : Type}

structure Draft (Args : Type) where
  command : String
  arguments : Args
  deriving DecidableEq

def Draft.action (draft : Draft Args) : ActionPayload Args :=
  { toolName := draft.command, arguments := draft.arguments }

/-- An entry of `active_sandboxes`. -/
structure ActiveSandbox (Args : Type) where
  sandboxId : String
  action : ActionPayload Args
  valid : Bool
  committed : Bool
  deriving DecidableEq

abbrev ActiveSandboxes (Args : Type) := Table (@ActiveSandbox.sandboxId Args)

/-- What `_validate` returns, with the hash drawn for a valid draft. -/
inductive Verdict where
  | valid (stateDiffHash : String)
  | invalid (error : String)
  deriving DecidableEq

def Verdict.success : Verdict → Bool
  | .valid _ => true
  | .invalid _ => false

structure DraftResult where
  sandboxId : String
  command : String
  success : Bool
  stateDiffHash : Option String
  error : Option String
  deriving DecidableEq

section Drafts

/-- What `execute_draft_async` stores once the verdict is there. -/
def draftEntry (sandboxId : String) (draft : Draft Args) (verdict : Verdict) :
    ActiveSandbox Args :=
  { sandboxId, action := draft.action, valid := verdict.success, committed := false }

/-- What `execute_draft_async` returns. -/
def draftResult (sandboxId : String) (draft : Draft Args) : Verdict → DraftResult
  | .valid stateDiffHash =>
      { sandboxId, command := draft.command, success := true,
        stateDiffHash := some stateDiffHash, error := none }
  | .invalid error =>
      { sandboxId, command := draft.command, success := false, stateDiffHash := none,
        error := some error }

@[simp] theorem draft_result_success (sandboxId : String) (draft : Draft Args)
    (verdict : Verdict) : (draftResult sandboxId draft verdict).success = verdict.success := by
  cases verdict <;> rfl

@[simp] theorem draft_result_sandbox (sandboxId : String) (draft : Draft Args)
    (verdict : Verdict) : (draftResult sandboxId draft verdict).sandboxId = sandboxId := by
  cases verdict <;> rfl

end Drafts

section Selection

def discard (keepId : String) (entry : ActiveSandbox Args) : ActiveSandbox Args :=
  if entry.sandboxId ≠ keepId then { entry with valid := false } else entry

theorem discard_sandbox (keepId : String) (entry : ActiveSandbox Args) :
    (discard keepId entry).sandboxId = entry.sandboxId := by
  rw [discard]
  split <;> rfl

theorem discard_action (keepId : String) (entry : ActiveSandbox Args) :
    (discard keepId entry).action = entry.action := by
  rw [discard]
  split <;> rfl

theorem discard_valid {keepId : String} {entry : ActiveSandbox Args}
    (valid : (discard keepId entry).valid = true) : entry.valid = true := by
  rw [discard] at valid
  split at valid
  · cases valid
  · exact valid

theorem discard_kept {keepId : String} {entry : ActiveSandbox Args}
    (same : entry.sandboxId = keepId) : discard keepId entry = entry := by
  rw [discard, if_neg (not_not_intro same)]

theorem discard_other {keepId : String} {entry : ActiveSandbox Args}
    (other : entry.sandboxId ≠ keepId) : (discard keepId entry).valid = false := by
  rw [discard, if_pos other]

def discardOthers (active : ActiveSandboxes Args) (keepId : String) : ActiveSandboxes Args :=
  active.mapRows (discard keepId) (discard_sandbox keepId)

@[simp] theorem find_discard_others (active : ActiveSandboxes Args) (keepId target : String) :
    (discardOthers active keepId).find? target = (active.find? target).map (discard keepId) :=
  Table.find_map_rows active (discard keepId) (discard_sandbox keepId) target

/-- The dictionary `select_winner` leaves, and the winner. -/
def selectWinner (active : ActiveSandboxes Args) :
    List DraftResult → ActiveSandboxes Args × Option (String × ActionPayload Args)
  | [] => (active, none)
  | result :: rest =>
      match active.find? result.sandboxId with
      | none => selectWinner active rest
      | some entry =>
          if result.success && entry.valid then
            (discardOthers active result.sandboxId, some (result.sandboxId, entry.action))
          else selectWinner active rest

/-- Without a successful result there is no winner and nothing is discarded. -/
theorem select_winner_none {active : ActiveSandboxes Args} {results : List DraftResult}
    (failed : ∀ result ∈ results, result.success = false) :
    selectWinner active results = (active, none) := by
  induction results with
  | nil => rfl
  | cons result rest ih =>
      have head := failed result (by simp)
      have tail := ih fun later member => failed later (by simp [member])
      rw [selectWinner, tail, head]
      cases active.find? result.sandboxId <;> rfl

/-- The first successful result wins when its entry is there and valid. -/
theorem select_winner_first {active : ActiveSandboxes Args} {results : List DraftResult}
    {index : Nat} {result : DraftResult} {entry : ActiveSandbox Args}
    (found : results[index]? = some result) (success : result.success = true)
    (first : ∀ earlier < index, ∀ other, results[earlier]? = some other → other.success = false)
    (stored : active.find? result.sandboxId = some entry) (valid : entry.valid = true) :
    selectWinner active results =
      (discardOthers active result.sandboxId, some (result.sandboxId, entry.action)) := by
  induction results generalizing index with
  | nil => simp at found
  | cons head rest ih =>
      cases index with
      | zero =>
          have same : head = result := by simpa using found
          subst same
          rw [selectWinner, stored]
          simp [success, valid]
      | succ index =>
          have headFailed : head.success = false := first 0 (by omega) head rfl
          have later := @ih index (by simpa using found)
            fun earlier below other there => first (earlier + 1) (by omega) other (by simpa using there)
          rw [selectWinner, later, headFailed]
          cases active.find? head.sandboxId <;> rfl

/-- A winner's action is read from a valid entry, and only then something is discarded. -/
theorem select_winner_cases (active : ActiveSandboxes Args) (results : List DraftResult) :
    selectWinner active results = (active, none) ∨
      ∃ sandboxId entry, active.find? sandboxId = some entry ∧ entry.valid = true ∧
        selectWinner active results =
          (discardOthers active sandboxId, some (sandboxId, entry.action)) := by
  induction results with
  | nil => exact .inl rfl
  | cons result rest ih =>
      rw [selectWinner]
      cases stored : active.find? result.sandboxId with
      | none => exact ih
      | some entry =>
          by_cases eligible : (result.success && entry.valid) = true
          · have valid : entry.valid = true := by
              rw [Bool.and_eq_true] at eligible
              exact eligible.2
            exact .inr ⟨result.sandboxId, entry, stored, valid, by simp [eligible]⟩
          · simp only [eligible]
            exact ih

end Selection

section Runs

/-- A draft of a run, with its sandbox id and the result that `gather` waits for. -/
structure Slot (Args : Type) where
  sandboxId : String
  draft : Draft Args
  result : Option DraftResult
  deriving DecidableEq

/-- The shared dictionary and all runs so far. -/
structure State (Args : Type) where
  active : ActiveSandboxes Args
  runs : List (List (Slot Args))

def initial : State Args := { active := Table.empty, runs := [] }

/-- The list that `asyncio.gather` returns once every draft is back. -/
def gathered : List (Slot Args) → Option (List DraftResult)
  | [] => some []
  | slot :: rest => do
      let result ← slot.result
      let results ← gathered rest
      some (result :: results)

/-- A run starts, the validation of one draft comes back, or a winner is selected. -/
inductive Event (Args : Type) where
  | start (drafts : List (String × Draft Args))
  | finish (run index : Nat) (verdict : Verdict)
  | select (run : Nat)
  deriving DecidableEq

def slotOf (drawn : String × Draft Args) : Slot Args :=
  { sandboxId := drawn.1, draft := drawn.2, result := none }

/-- `run_speculative_drafts`, up to its `gather`. -/
def startRun (state : State Args) (drafts : List (String × Draft Args)) : State Args :=
  { state with runs := state.runs ++ [drafts.map slotOf] }

/-- `execute_draft_async`, from the verdict on. -/
def finishDraft (state : State Args) (run index : Nat) (verdict : Verdict) :
    Option (State Args) := do
  let slots ← state.runs[run]?
  let slot ← slots[index]?
  match slot.result with
  | some _ => none
  | none =>
      let settled := { slot with result := some (draftResult slot.sandboxId slot.draft verdict) }
      some
        { active := state.active.put (draftEntry slot.sandboxId slot.draft verdict)
          runs := state.runs.set run (slots.set index settled) }

/-- `select_winner` on the results of a run. -/
def selectRun (state : State Args) (run : Nat) :
    Option (State Args × Option (String × ActionPayload Args)) := do
  let slots ← state.runs[run]?
  let results ← gathered slots
  let selected := selectWinner state.active results
  some ({ state with active := selected.1 }, selected.2)

def step (state : State Args) : Event Args → Option (State Args)
  | .start drafts => some (startRun state drafts)
  | .finish run index verdict => finishDraft state run index verdict
  | .select run => (selectRun state run).map Prod.fst

def replayFrom (state : State Args) (history : List (Event Args)) : Option (State Args) :=
  history.foldlM step state

def replay (history : List (Event Args)) : Option (State Args) := replayFrom initial history

end Runs

end SagaMind.Speculative
