import SagaMind.FileContracts
import SagaMind.Foundation.Relabel
import SagaMind.Sandbox.Worker

/-!
# The worker boundary changes nothing

The sandbox hands an action to a worker process, as JSON through a pipe, and
takes the answer back in the same way. Whatever becomes of the worker, the
parent reports what the handler itself has returned, or it raises a
`SandboxError` or the `UnicodeDecodeError` of an output; the disk is at a point of
the run of the handler. A worker that nothing strikes and that returns within the
limits is as good as a direct call.
-/

namespace SagaMind.WorkerBoundary

open CallProgram FileTree KeyedTable Json Sandbox FileContracts

set_option autoImplicit false

section Data

variable {library : Library} {root : Path}

/-- A value that JSON carries as it is. -/
def Scalar : Sandbox.Value → Prop
  | .str _ | .bool _ | .int _ => True
  | _ => False

def Plain (result : SandboxResult) : Prop :=
  (∀ row ∈ result.data.rows, Scalar row.2) ∧ result.data.get "isolation" = none

abbrev Plainly (handler : Handler SandboxResult) : Prop :=
  wp (havoc fun _ => True) handler (fun result _ => Plain result) (fun _ _ => True) ()

theorem plain_empty : Plain { success := true } :=
  ⟨fun _ member => absurd member List.not_mem_nil, rfl⟩

theorem free_handler {Answer : Type} (handler : Handler Answer) :
    wp (havoc fun _ => True) handler (fun _ _ => True) (fun _ _ => True) () :=
  conforms_free (fun _ _ => trivial) handler ()

theorem plainly_after {Answer : Type} {first : Handler Answer} {rest : Answer → Handler SandboxResult}
    (later : ∀ answer, Plainly (rest answer)) : Plainly (first >>= rest) :=
  wp_seq (free_handler first) fun answer _ _ => later answer

theorem plainly_explained {prelude : String} {handler : Handler SandboxResult}
    (plainly : Plainly handler) : Plainly (explained library prelude handler) := by
  unfold explained Plainly
  rw [wp_attempt]
  apply wp_mono plainly
  · exact fun _ _ plain => plain
  · intro failure _ _
    cases failure <;> trivial

theorem plainly_write (args : Arguments) : Plainly (handleWriteFile library root args) := by
  unfold handleWriteFile
  split
  · trivial
  · split
    · apply plainly_after
      intro path
      apply plainly_explained
      apply plainly_after
      intro _
      apply plainly_after
      intro _
      apply plainly_after
      intro _
      exact ⟨List.forall_mem_cons.mpr ⟨trivial, List.forall_mem_singleton.mpr trivial⟩, rfl⟩
    · trivial

theorem plainly_delete (args : Arguments) : Plainly (handleDeleteFile library root args) := by
  unfold handleDeleteFile
  split
  · exact plain_empty
  · apply plainly_after
    intro path
    apply plainly_after
    intro _
    apply plainly_after
    intro standing
    split
    · exact plain_empty
    · apply plainly_explained
      apply plainly_after
      intro _
      exact ⟨List.forall_mem_singleton.mpr trivial, rfl⟩

theorem put_rows_all {rows : List (String × Sandbox.Value)} {row : String × Sandbox.Value}
    (every : ∀ other ∈ rows, Scalar other.2) (fresh : Scalar row.2) :
    ∀ other ∈ Table.putRows Prod.fst row rows, Scalar other.2 := by
  induction rows with
  | nil => exact List.forall_mem_singleton.mpr fresh
  | cons head rows ih =>
      rw [List.forall_mem_cons] at every
      rw [Table.putRows]
      split
      · exact List.forall_mem_cons.mpr ⟨fresh, every.2⟩
      · exact List.forall_mem_cons.mpr ⟨every.1, ih every.2⟩

theorem plain_restored {result : SandboxResult} (plain : Plain result) : Plain (restored result) := by
  refine ⟨put_rows_all plain.1 trivial, ?_⟩
  have absent := plain.2
  rw [Arguments.get] at absent ⊢
  rw [restored, Table.find_put, if_neg (by decide)]
  exact absent

theorem plainly_restore (args : Arguments) : Plainly (handleRestoreFile library root args) := by
  unfold handleRestoreFile
  apply plainly_after
  intro safe
  apply plainly_after
  intro _
  split
  · exact wp_seq (plainly_write _) fun result _ plain => plain_restored plain
  · exact wp_seq (plainly_delete _) fun result _ plain => plain_restored plain

theorem registered_plainly {name : String} {tool : ToolDefinition}
    (found : (registry library root).get library name = .ok tool) (args : Arguments) :
    Plainly (tool.handler args) := by
  have member : tool ∈ (registry library root).tools.rows := by
    unfold ToolRegistry.get at found
    split at found
    · rename_i other known
      obtain rfl := Except.ok.inj found
      exact Table.find_mem known
    · cases found
  simp only [registry, List.mem_cons, List.not_mem_nil, or_false] at member
  rcases member with rfl | rfl | rfl | rfl
  · exact plainly_write args
  · exact plainly_delete args
  · exact plainly_restore args
  · exact plain_empty

theorem plainly_evaluates {handler : Handler SandboxResult} (plainly : Plainly handler)
    {serve : (request : FileTree.Call) → Tree → FileTree.face.Reply request × Tree} {tree : Tree}
    {result : SandboxResult} (returned : (handler.evaluate serve tree).1 = .ok result) :
    Plain result := by
  have kept := @wp_maintains FileTree.face Tree Failure SandboxResult (CallProgram.served serve)
    (fun _ => True) (fun _ => True) (fun _ _ _ _ => trivial) (fun _ _ _ _ _ _ _ => trivial) handler Plain
    (fun _ => True) plainly tree trivial
  rw [wp_served_iff, returned] at kept
  exact kept.1

end Data

section Documents

variable {floats : Floats PyFloat}

/-- Arguments that the JSON encoder takes and the decoder gives back: every
dictionary has distinct keys, and every float its own text. -/
def Sendable (floats : Floats PyFloat) (arguments : Arguments) : Prop :=
  SoundEntries floats.Faithful (toJsonEntries arguments.rows)

theorem sound_arguments {arguments : Arguments} (sendable : Sendable floats arguments) :
    Json.Sound floats.Faithful (.obj (toJsonEntries arguments.rows)) :=
  ⟨(to_json_keys arguments.rows).symm ▸ arguments.distinct, sendable⟩

theorem sound_scalar {value : Sandbox.Value} (scalar : Scalar value) :
    Json.Sound floats.Faithful (toJson value) ∧ finite (toJson value) = true := by
  cases value with
  | str text => exact ⟨trivial, rfl⟩
  | bool flag => exact ⟨trivial, rfl⟩
  | int number => exact ⟨trivial, rfl⟩
  | null => exact scalar.elim
  | float number => exact scalar.elim
  | list items => exact scalar.elim
  | dict entries => exact scalar.elim

theorem sound_scalars {rows : List (String × Sandbox.Value)} (scalars : ∀ row ∈ rows, Scalar row.2) :
    SoundEntries floats.Faithful (toJsonEntries rows) ∧ finiteEntries (toJsonEntries rows) = true := by
  induction rows with
  | nil => exact ⟨trivial, rfl⟩
  | cons row rows ih =>
      rw [List.forall_mem_cons] at scalars
      obtain ⟨key, value⟩ := row
      obtain ⟨sound, whole⟩ := @sound_scalar floats value scalars.1
      obtain ⟨sounds, wholes⟩ := ih scalars.2
      refine ⟨⟨sound, sounds⟩, ?_⟩
      rw [toJsonEntries, finiteEntries, whole, wholes]
      rfl

theorem sound_result {result : SandboxResult} (plain : Plain result) :
    Json.Sound floats.Faithful (resultJson result) ∧ finite (resultJson result) = true := by
  obtain ⟨sounds, wholes⟩ := @sound_scalars floats result.data.rows plain.1
  have keys : ((toJsonEntries result.data.rows).map Prod.fst).Nodup :=
    (to_json_keys result.data.rows).symm ▸ result.data.distinct
  have error : Json.Sound floats.Faithful ((result.error.map Json.Value.str).getD .null) ∧
      finite ((result.error.map Json.Value.str).getD .null) = true := by
    cases result.error with
    | none => exact ⟨trivial, rfl⟩
    | some text => exact ⟨trivial, rfl⟩
  refine ⟨⟨by simp, trivial, trivial, ⟨keys, sounds⟩, error.1, trivial⟩, ?_⟩
  simp [resultJson, finite, finiteEntries, wholes, error.2]

theorem sound_request {root : Path} {self : WasmSandbox} {limits : WorkerLimits}
    {tool : ToolDefinition} {arguments : Arguments} {compensation : Bool}
    (sendable : Sendable floats arguments) :
    Json.Sound floats.Faithful (workerRequest root self limits tool arguments compensation) :=
  ⟨by simp, trivial, sound_arguments sendable, trivial, trivial, trivial, trivial, trivial⟩

theorem sound_response {pid : ℕ} {outcome : Except String (Json.Value PyFloat)}
    (sound : ∀ value, outcome = .ok value → Json.Sound floats.Faithful value) :
    Json.Sound floats.Faithful (workerResponse pid outcome) := by
  cases outcome with
  | ok value => exact ⟨by simp, trivial, sound value rfl, trivial, trivial⟩
  | error text => exact ⟨by simp, trivial, trivial, trivial⟩

theorem through_pipe (platform : Platform) {value : Json.Value PyFloat}
    (sound : Json.Sound platform.floats.Faithful value) :
    read platform.floats (platform.pipe (write platform.floats compact value)) = some value := by
  rw [platform.pipe_ascii _ (printable_write compact_ascii value sound),
    read_written compact_spaced sound]

theorem completed_cases (platform : Platform) (code : Int) (stdout stderr : List Char) :
    (∃ message, platform.completed code stdout stderr = .undecodable message) ∨
      ∃ output diagnostics, platform.decoded stdout = .ok output ∧
        platform.completed code stdout stderr = .exited code output diagnostics := by
  unfold Platform.completed
  cases platform.decoded stdout with
  | error message => exact .inl ⟨message, rfl⟩
  | ok output =>
      cases platform.decoded stderr with
      | error message => exact .inl ⟨message, rfl⟩
      | ok diagnostics => exact .inr ⟨output, diagnostics, rfl, rfl⟩

/-- A sound response arrives, unless the diagnostics do not decode. -/
theorem response_arrives (platform : Platform) {value : Json.Value PyFloat}
    (sound : Json.Sound platform.floats.Faithful value) (code : Int) (stderr : List Char) :
    (∃ message, platform.completed code (write platform.floats compact value) stderr =
        .undecodable message) ∨
      ∃ output diagnostics, read platform.floats output = some value ∧
        platform.completed code (write platform.floats compact value) stderr =
          .exited code output diagnostics := by
  rcases completed_cases platform code (write platform.floats compact value) stderr with
    lost | ⟨output, diagnostics, decoded, same⟩
  · exact .inl lost
  · rw [platform.decoded_ascii _ (printable_write compact_ascii value sound)] at decoded
    obtain rfl := Except.ok.inj decoded
    exact .inr ⟨_, diagnostics, read_written compact_spaced sound, same⟩

end Documents

section Working

variable {library : Library} {root : Path} {self : WasmSandbox} {limits : WorkerLimits}
  {platform : Platform} {tool : ToolDefinition} {arguments : Arguments}

theorem registered_name {name : String}
    (found : (registry library root).get library name = .ok tool) : tool.name = name := by
  unfold ToolRegistry.get at found
  split at found
  · rename_i other known
    obtain rfl := Except.ok.inj found
    exact Table.find_key known
  · cases found

/-- The worker comes to the handler with the arguments of the action. -/
theorem worker_runs_handler (sendable : Sendable platform.floats arguments)
    (found : (registry library root).get library tool.name = .ok tool)
    (builtin : tool.isolatedBuiltin = true) :
    workerTry library platform none
      (platform.pipe (sent root self limits platform tool arguments false)) =
      (tool.handler arguments).relabel fun outcome =>
        (outcome.mapError (Failure.describe library)).map resultJson := by
  have arrived : read platform.floats
      (platform.pipe (sent root self limits platform tool arguments false)) =
      some (workerRequest root self limits tool arguments false) :=
    through_pipe platform (sound_request sendable)
  have absolute : root.text.toList.head? = some '/' := by
    rw [text_to_list]
    rfl
  rw [workerTry, arrived]
  simp only [workerRequest, member, List.find?_cons_of_pos, List.find?_cons_of_neg, decide_true,
    String.reduceEq, decide_false, Bool.false_eq_true, not_false_eq_true, Option.map_some,
    absolute, if_true, realpath_text, workerExecute, found, builtin]
  simp only [jsonTruthy, Option.map_some, ofJson, Sandbox.Value.truthy, of_to_json_entries,
    arguments_of_rows, shownErrors, Program.attempt_raise, Bool.false_eq_true, if_false, Bool.true_eq_false]
  rw [Program.bind_done, Program.relabel_relabel]

theorem worker_runs_compensation (sendable : Sendable platform.floats arguments)
    (found : (registry library root).get library tool.name = .ok tool)
    (builtin : tool.isolatedBuiltin = true)
    (allowed : (registry library root).isCompensationAllowed tool.name = true)
    {handler : Arguments → Handler Bool} (compensates : tool.compensationHandler = some handler) :
    workerTry library platform none
      (platform.pipe (sent root self limits platform tool arguments true)) =
      (handler arguments).relabel fun outcome =>
        (outcome.mapError (Failure.describe library)).map Json.Value.bool := by
  have arrived : read platform.floats
      (platform.pipe (sent root self limits platform tool arguments true)) =
      some (workerRequest root self limits tool arguments true) :=
    through_pipe platform (sound_request sendable)
  have absolute : root.text.toList.head? = some '/' := by
    rw [text_to_list]
    rfl
  rw [workerTry, arrived]
  simp only [workerRequest, member, List.find?_cons_of_pos, List.find?_cons_of_neg, decide_true,
    String.reduceEq, decide_false, Bool.false_eq_true, not_false_eq_true, Option.map_some,
    absolute, if_true, realpath_text, workerExecute, found, builtin, allowed, compensates]
  simp only [jsonTruthy, Option.map_some, ofJson, Sandbox.Value.truthy, of_to_json_entries,
    arguments_of_rows, shownErrors, Program.attempt_raise, if_true, if_false, Bool.true_eq_false]
  rw [Program.bind_done, Program.relabel_relabel]

/-- A request that finds no resource limits is answered without a call. -/
theorem worker_unlimited {stdin : List Char} {error : String} :
    ∃ text, workerTry library platform (some error) stdin = .raise text := by
  unfold workerTry
  split
  · exact ⟨_, rfl⟩
  · exact ⟨_, rfl⟩
  · exact ⟨_, rfl⟩

end Working

section Receiving

variable {library : Library} {platform : Platform} {limits : WorkerLimits}
  {manifest : CapabilityManifest} {compensation : Bool} {stdout stderr : List Char} {pid : ℕ}

/-- The output is within the limits of the sandbox and of the tool. -/
def Within (limits : WorkerLimits) (manifest : CapabilityManifest) (stdout : List Char) : Prop :=
  (String.ofList stdout).utf8ByteSize ≤ min limits.maxOutputBytes manifest.outputBytes

theorem result_of_json (result : SandboxResult) :
    ∃ entries, resultJson result = .obj entries ∧ resultOf entries = .ok result := by
  obtain ⟨success, status, data, error⟩ := result
  refine ⟨_, rfl, ?_⟩
  cases error with
  | none =>
      change Except.ok (SandboxResult.mk success status
        (argumentsOf (ofJsonEntries (toJsonEntries data.rows))) none) = _
      rw [of_to_json_entries, arguments_of_rows]
  | some text =>
      change Except.ok (SandboxResult.mk success status
        (argumentsOf (ofJsonEntries (toJsonEntries data.rows))) (some text)) = _
      rw [of_to_json_entries, arguments_of_rows]

theorem receive_result {result : SandboxResult} (within : Within limits manifest stdout)
    (arrived : read platform.floats stdout = some (workerResponse pid (.ok (resultJson result)))) :
    receive library platform limits manifest false (.exited 0 stdout stderr) =
      .ok (isolated (.int pid) result) := by
  obtain ⟨entries, shape, back⟩ := result_of_json result
  rw [receive, if_neg (Nat.not_lt.mpr within), if_neg (by decide), arrived]
  simp only [workerResponse, member, List.find?_cons_of_pos, List.find?_cons_of_neg, decide_true,
    String.reduceEq, decide_false, Bool.false_eq_true, not_false_eq_true, Option.map_some,
    jsonTruthy, ofJson, Sandbox.Value.truthy, Bool.true_eq_false, if_false, shape, back,
    Option.getD_some]
  rfl

theorem receive_done {done : Bool} (within : Within limits manifest stdout)
    (arrived : read platform.floats stdout = some (workerResponse pid (.ok (.bool done)))) :
    receive library platform limits manifest true (.exited 0 stdout stderr) =
      .ok { success := done } := by
  rw [receive, if_neg (Nat.not_lt.mpr within), if_neg (by decide), arrived]
  simp only [workerResponse, member, List.find?_cons_of_pos, List.find?_cons_of_neg, decide_true,
    String.reduceEq, decide_false, Bool.false_eq_true, not_false_eq_true, Option.map_some,
    jsonTruthy, ofJson, Sandbox.Value.truthy, Bool.true_eq_false, if_false, if_true]

theorem receive_error {text : String} (within : Within limits manifest stdout)
    (arrived : read platform.floats stdout = some (workerResponse pid (.error text))) :
    receive library platform limits manifest compensation (.exited 0 stdout stderr) =
      .error (.raised (.sandbox text)) := by
  rw [receive, if_neg (Nat.not_lt.mpr within), if_neg (by decide), arrived]
  simp only [workerResponse, member, List.find?_cons_of_pos, List.find?_cons_of_neg, decide_true,
    String.reduceEq, decide_false, Bool.false_eq_true, not_false_eq_true, Option.map_some,
    jsonTruthy, ofJson, Sandbox.Value.truthy, if_true, pathText]

/-- Where the process is the trouble, the parent raises a `SandboxError`. -/
theorem receive_trouble {code : Int} (failed : code ≠ 0) :
    ∃ message, receive library platform limits manifest compensation (.exited code stdout stderr) =
      .error (.raised (.sandbox message)) := by
  rw [receive, if_pos failed]
  split
  · exact ⟨_, rfl⟩
  · exact ⟨_, rfl⟩

theorem receive_oversized {code : Int} (large : ¬Within limits manifest stdout) :
    ∃ message, receive library platform limits manifest compensation (.exited code stdout stderr) =
      .error (.raised (.sandbox message)) := by
  rw [receive]
  rw [if_pos (Nat.not_le.mp large)]
  exact ⟨_, rfl⟩

end Receiving

section Processes

variable {library : Library} {root : Path} {limits : WorkerLimits} {platform : Platform}
  {failing : FileTree.Call → Option Errno} {limiting struck : Option String} {pid : ℕ}
  {stdin : List Char}
  {manifest : CapabilityManifest} {compensation : Bool} {tree after : Tree} {completed : Completed}

/-- The parent raises a `SandboxError`, or what the decoding of an output has raised. -/
def Fails (completed : Completed) (outcome : Except ParentError SandboxResult) : Prop :=
  (∃ message, outcome = .error (.raised (.sandbox message))) ∨
    ∃ message, completed = .undecodable message ∧ outcome = .error (.unicodeDecode message)

theorem finite_response {outcome : Except String (Json.Value PyFloat)}
    (whole : ∀ value, outcome = .ok value → finite value = true) :
    finite (workerResponse pid outcome) = true := by
  cases outcome with
  | ok value => simp [workerResponse, finite, finiteEntries, whole value rfl]
  | error text => rfl

theorem undecodable_fails {code : Int} {stdout stderr : List Char} {message : String}
    (lost : platform.completed code stdout stderr = .undecodable message) :
    Fails (platform.completed code stdout stderr) (receive library platform limits manifest
        compensation (platform.completed code stdout stderr)) ∧
      (limiting = none → struck = none → ∀ output diagnostics,
        platform.completed code stdout stderr = .exited 0 output diagnostics →
          ¬ Within limits manifest output) := by
  rw [lost]
  refine ⟨.inr ⟨message, rfl, rfl⟩, ?_⟩
  intro _ _ _ _ ended
  cases ended

theorem error_fails {error : String} {stderr : List Char} :
    Fails (platform.completed 0 (write platform.floats compact (workerResponse pid (.error error)))
        stderr)
      (receive library platform limits manifest compensation (platform.completed 0
        (write platform.floats compact (workerResponse pid (.error error))) stderr)) := by
  have sound : Json.Sound platform.floats.Faithful (workerResponse pid (.error error)) :=
    sound_response fun value same => by cases same
  rcases response_arrives platform sound 0 stderr with
    ⟨message, same⟩ | ⟨output, diagnostics, arrived, same⟩
  · exact .inr ⟨message, same, by rw [same]; rfl⟩
  · rw [same]
    left
    by_cases within : Within limits manifest output
    · exact ⟨error, receive_error within arrived⟩
    · exact receive_oversized within

/-- A worker that is stopped is at a point of the run of its handler. -/
theorem worker_stops {Answer : Type} {handler : Handler Answer}
    {change : Except Failure Answer → Except String (Json.Value PyFloat)}
    (comes : limiting = none → workerTry library platform none stdin = handler.relabel change)
    {later : Program FileTree.face String (Json.Value PyFloat)}
    (steps : Steps (CallProgram.served (Call.serve failing))
      (workerTry library platform limiting stdin) tree later after) :
    ∃ later, Steps (CallProgram.served (Call.serve failing)) handler tree later after := by
  cases limiting with
  | none =>
      rw [comes rfl] at steps
      obtain ⟨middle, run, _⟩ := steps_relabel steps
      exact ⟨middle, run⟩
  | some error =>
      obtain ⟨text, raised⟩ := @worker_unlimited library platform stdin error
      rw [raised] at steps
      cases steps
      exact ⟨_, .here⟩

/-- What a worker answers comes from what its handler has returned. -/
theorem answer_arrives {Answer : Type} {outcome : Except Failure Answer}
    {answer : Answer → Json.Value PyFloat}
    (answers : ∀ value, outcome = .ok value →
      Json.Sound platform.floats.Faithful (answer value) ∧ finite (answer value) = true)
    (value : Json.Value PyFloat)
    (same : (outcome.mapError (Failure.describe library)).map answer = .ok value) :
    Json.Sound platform.floats.Faithful value ∧ finite value = true := by
  cases outcome with
  | error failure => cases same
  | ok returned =>
      cases same
      exact answers returned rfl

/-- How a worker ends that comes to a handler: its response is that of the
handler, or the parent raises an exception. -/
theorem worker_ends {Answer : Type} {handler : Handler Answer}
    {answer : Answer → Json.Value PyFloat}
    (comes : limiting = none → workerTry library platform none (platform.pipe stdin) =
      handler.relabel fun outcome => (outcome.mapError (Failure.describe library)).map answer)
    (answers : ∀ value, (handler.evaluate (Call.serve failing) tree).1 = .ok value →
      Json.Sound platform.floats.Faithful (answer value) ∧ finite (answer value) = true)
    (ran : WorkerRun library platform failing limiting struck pid stdin tree completed after) :
    (∃ later, Steps (CallProgram.served (Call.serve failing)) handler tree later after) ∧
    ((Fails completed (receive library platform limits manifest compensation completed) ∧
      (limiting = none → struck = none → ∀ stdout stderr, completed = .exited 0 stdout stderr →
        ¬ Within limits manifest stdout)) ∨
      ∃ stdout stderr, completed = .exited 0 stdout stderr ∧ Within limits manifest stdout ∧
        limiting = none ∧ after = (handler.evaluate (Call.serve failing) tree).2 ∧
        read platform.floats stdout = some (workerResponse pid
          (((handler.evaluate (Call.serve failing) tree).1.mapError
            (Failure.describe library)).map answer))) := by
  have told := fun value => @answer_arrives library platform Answer
    (handler.evaluate (Call.serve failing) tree).1 answer answers value
  cases ran with
  | notStarted message =>
      refine ⟨⟨_, .here⟩, .inl ⟨.inl ⟨_, rfl⟩, ?_⟩⟩
      intro _ _ _ _ same
      cases same
  | timedOut steps =>
      refine ⟨worker_stops comes steps, .inl ⟨.inl ⟨_, rfl⟩, ?_⟩⟩
      intro _ _ _ _ same
      cases same
  | @killed _ _ code stdout stderr steps failed =>
      refine ⟨worker_stops comes steps, .inl ?_⟩
      rcases completed_cases platform code stdout stderr with
        ⟨message, same⟩ | ⟨output, diagnostics, _, same⟩
      · exact undecodable_fails same
      · rw [same]
        refine ⟨.inl (receive_trouble failed), ?_⟩
        intro _ _ _ _ ended
        exact absurd (Completed.exited.inj ended).1 failed
  | @interrupted _ _ error stderr strikes steps =>
      refine ⟨worker_stops comes steps, .inl ⟨error_fails, ?_⟩⟩
      intro _ spared
      rw [strikes] at spared
      cases spared
  | @returned _ outcome stderr _ ended taken =>
      cases limiting with
      | none =>
          rw [comes rfl, Program.evaluate_relabel] at ended
          obtain ⟨rfl, rfl⟩ := Prod.mk.inj ended
          refine ⟨⟨_, evaluate_steps handler tree⟩, ?_⟩
          have sound := @sound_response platform.floats pid _ fun value same => (told value same).1
          rcases response_arrives platform sound 0 stderr with
            ⟨message, same⟩ | ⟨output, diagnostics, arrived, same⟩
          · exact .inl (undecodable_fails same)
          · rw [same]
            by_cases within : Within limits manifest output
            · right
              exact ⟨_, _, rfl, within, rfl, rfl, arrived⟩
            · refine .inl ⟨.inl (receive_oversized within), ?_⟩
              intro _ _ _ _ ended
              rw [← (Completed.exited.inj ended).2.1]
              exact within
      | some error =>
          obtain ⟨text, raised⟩ := @worker_unlimited library platform (platform.pipe stdin) error
          rw [raised] at ended
          obtain ⟨rfl, rfl⟩ := Prod.mk.inj ended
          exact ⟨⟨_, .here⟩, .inl ⟨error_fails, fun unlimited => by cases unlimited⟩⟩
  | @refused _ outcome _ _ ended taken =>
      exfalso
      cases limiting with
      | none =>
          rw [comes rfl, Program.evaluate_relabel] at ended
          obtain ⟨rfl, rfl⟩ := Prod.mk.inj ended
          rw [finite_response fun value same => (told value same).2] at taken
          cases taken
      | some error =>
          obtain ⟨text, raised⟩ := @worker_unlimited library platform (platform.pipe stdin) error
          rw [raised] at ended
          obtain ⟨rfl, rfl⟩ := Prod.mk.inj ended
          cases taken

end Processes

section Boundary

variable {library : Library} {root : Path} {verify : Arguments → String → PolicyDecision}
  {self : WasmSandbox} {limits : WorkerLimits} {platform : Platform}
  {failing : FileTree.Call → Option Errno} {limiting struck : Option String} {pid : ℕ}
  {tree after : Tree} {completed : Option Completed}

def Untroubled (limits : WorkerLimits) (completed : Option Completed) : Prop :=
  ∀ process ∈ completed, ∃ stdout stderr, process = .exited 0 stdout stderr ∧
    (String.ofList stdout).utf8ByteSize ≤ min limits.maxOutputBytes 65536

/-- What a run with a process says of the same run without one. -/
structure Crosses {Answer Result : Type} (direct : Handler Answer) (told : Answer → Result)
    (failing : FileTree.Call → Option Errno) (limits : WorkerLimits)
    (limiting struck : Option String) (tree : Tree) (completed : Option Completed)
    (outcome : Except ParentError Result) (after : Tree) : Prop where
  /-- What is returned was returned. -/
  returned : ∀ result, outcome = .ok result →
    ∃ answer, direct.evaluate (Call.serve failing) tree = (.ok answer, after) ∧ result = told answer
  raised : ∀ error, outcome = .error error →
    (∃ message, error = .unicodeDecode message ∧ completed = some (.undecodable message)) ∨
    ∃ failure, error = .raised failure ∧ ((∃ message, failure = .sandbox message) ∨
      direct.evaluate (Call.serve failing) tree = (.error failure, after))
  /-- The disk is at a point of the run. -/
  along : ∃ later, Steps (CallProgram.served (Call.serve failing)) direct tree later after
  same : limiting = none → struck = none → Untroubled limits completed →
    outcome = ((direct.evaluate (Call.serve failing) tree).1.map told).mapError .raised ∧
      after = (direct.evaluate (Call.serve failing) tree).2

theorem registered_output {name : String} {tool : ToolDefinition}
    (found : (registry library root).get library name = .ok tool) :
    tool.capabilities.outputBytes = 65536 := by
  have member : tool ∈ (registry library root).tools.rows := by
    unfold ToolRegistry.get at found
    split at found
    · rename_i other known
      obtain rfl := Except.ok.inj found
      exact Table.find_mem known
    · cases found
  simp only [registry, List.mem_cons, List.not_mem_nil, or_false] at member
  rcases member with rfl | rfl | rfl | rfl
  · rfl
  · rfl
  · rfl
  · rfl

theorem untroubled_within {process : Completed} {manifest : CapabilityManifest}
    (untroubled : Untroubled limits (some process)) (output : manifest.outputBytes = 65536) :
    ∃ stdout stderr, process = .exited 0 stdout stderr ∧ Within limits manifest stdout := by
  obtain ⟨stdout, stderr, same, within⟩ := untroubled process rfl
  refine ⟨stdout, stderr, same, ?_⟩
  rw [Within, output]
  exact within

/-- A run that ends as the same run without a process. -/
theorem crosses_alike {Answer Result : Type} {direct : Handler Answer} {told : Answer → Result}
    {outcome : Except ParentError Result}
    (along : ∃ later, Steps (CallProgram.served (Call.serve failing)) direct tree later after)
    (alike : outcome = ((direct.evaluate (Call.serve failing) tree).1.map told).mapError .raised ∧
      after = (direct.evaluate (Call.serve failing) tree).2) :
    Crosses direct told failing limits limiting struck tree completed outcome after := by
  obtain ⟨rfl, rfl⟩ := alike
  cases ended : direct.evaluate (Call.serve failing) tree with
  | mk done last =>
      rw [ended] at along
      refine ⟨?_, ?_, along, fun _ _ _ => by rw [ended]; exact ⟨rfl, rfl⟩⟩
      · intro result same
        cases done with
        | error failure => cases same
        | ok answer =>
            cases same
            exact ⟨answer, ended, rfl⟩
      · intro error same
        cases done with
        | ok answer => cases same
        | error failure =>
            cases same
            exact .inr ⟨failure, rfl, .inr ended⟩

/-- A run whose process fails, which it does not untroubled. -/
theorem crosses_failing {Answer : Type} {direct : Handler Answer} {told : Answer → SandboxResult}
    {process : Completed} {outcome : Except ParentError SandboxResult}
    (along : ∃ later, Steps (CallProgram.served (Call.serve failing)) direct tree later after)
    (fails : Fails process outcome)
    (troubled : limiting = none → struck = none → ¬Untroubled limits (some process)) :
    Crosses direct told failing limits limiting struck tree (some process) outcome after := by
  refine ⟨?_, ?_, along, ?_⟩
  · intro result same
    rcases fails with ⟨message, failed⟩ | ⟨message, _, failed⟩
    · rw [failed] at same
      cases same
    · rw [failed] at same
      cases same
  · intro error same
    rcases fails with ⟨message, failed⟩ | ⟨message, lost, failed⟩
    · rw [failed] at same
      cases same
      exact .inr ⟨_, rfl, .inl ⟨message, rfl⟩⟩
    · rw [failed] at same
      cases same
      exact .inl ⟨message, rfl, congrArg some lost⟩
  · intro unlimited spared untroubled
    exact absurd untroubled (troubled unlimited spared)

/-- `_execute_worker`, for a worker that comes to a handler. -/
theorem worker_crosses {Answer : Type} {handler : Arguments → Handler Answer}
    {arguments : Arguments} {answer : Answer → Json.Value PyFloat} {told : Answer → SandboxResult}
    {stdin : List Char} {manifest : CapabilityManifest} {compensation : Bool} {process : Completed}
    (output : manifest.outputBytes = 65536)
    (comes : limiting = none → workerTry library platform none (platform.pipe stdin) =
      (handler arguments).relabel fun outcome =>
        (outcome.mapError (Failure.describe library)).map answer)
    (answers : ∀ value, ((handler arguments).evaluate (Call.serve failing) tree).1 = .ok value →
      Json.Sound platform.floats.Faithful (answer value) ∧ finite (answer value) = true)
    (ran : WorkerRun library platform failing limiting struck pid stdin tree process after)
    (receives : ∀ {stdout stderr value}, Within limits manifest stdout →
      read platform.floats stdout = some (workerResponse pid (.ok (answer value))) →
      receive library platform limits manifest compensation (.exited 0 stdout stderr) =
        .ok (told value)) :
    Crosses (executeWorker library handler arguments) told failing limits limiting struck tree
      (some process) (receive library platform limits manifest compensation process) after := by
  obtain ⟨⟨later, steps⟩, ends⟩ :=
    @worker_ends library limits platform failing limiting struck pid stdin manifest compensation tree after
      process Answer (handler arguments) answer comes answers ran
  have relabelled : executeWorker library handler arguments = (handler arguments).relabel
      (Except.mapError fun failure => .sandbox (failure.describe library)) := by
    rw [executeWorker, Program.attempt_raise]
  have alone := @Program.evaluate_relabel FileTree.face Tree Failure Failure Answer Answer
    (Call.serve failing) (Except.mapError fun failure => .sandbox (failure.describe library))
    (handler arguments) tree
  have along : ∃ later, Steps (CallProgram.served (Call.serve failing))
      (executeWorker library handler arguments) tree later after := by
    rw [relabelled]
    exact ⟨_, steps.relabel _⟩
  rw [← relabelled] at alone
  rcases ends with ⟨fails, outside⟩ | ⟨stdout, stderr, rfl, within, _, rfl, arrived⟩
  · apply crosses_failing along fails
    intro unlimited spared untroubled
    obtain ⟨stdout, stderr, ended, within⟩ := untroubled_within untroubled output
    exact outside unlimited spared stdout stderr ended within
  · apply crosses_alike along
    rw [alone]
    cases ended : ((handler arguments).evaluate (Call.serve failing) tree).1 with
    | error failure =>
        rw [ended] at arrived
        rw [receive_error within arrived]
        exact ⟨rfl, rfl⟩
    | ok value =>
        rw [ended] at arrived
        rw [receives within arrived]
        exact ⟨rfl, rfl⟩

theorem crosses_directly {Answer Result : Type} {direct : Handler Answer} {told : Answer → Result}
    {outcome : Except Failure Answer} (ended : direct = Program.ended outcome) :
    Crosses direct told failing limits limiting struck tree none
      ((outcome.map told).mapError .raised) tree := by
  apply crosses_alike ⟨_, .here⟩
  rw [ended, Program.evaluate_ended]
  exact ⟨rfl, rfl⟩

theorem valid_found {action : ActionPayload Arguments} {tool : ToolDefinition}
    (valid : validate library root verify self action = .ok tool) :
    (registry library root).get library action.toolName = .ok tool := by
  rw [validate] at valid
  cases found : (registry library root).get library action.toolName with
  | error message =>
      rw [found] at valid
      cases valid
  | ok other =>
      rw [found] at valid
      cases policy : validatePolicy library root verify other action.arguments with
      | error failure =>
          simp only [Except.mapError, bind, Except.bind, policy] at valid
          cases valid
      | ok _ =>
          cases capabilities : validateCapabilities library root self other action.arguments with
          | error failure =>
              simp only [Except.mapError, bind, Except.bind, policy, capabilities] at valid
              cases valid
          | ok _ =>
              simp only [Except.mapError, bind, Except.bind, policy, capabilities] at valid
              exact congrArg _ (Except.ok.inj valid)

/-- What the sandbox executes in a worker, it has executed. -/
theorem execution_crosses {action : ActionPayload Arguments}
    {outcome : Except ParentError SandboxResult} (sendable : Sendable platform.floats action.arguments)
    (run : ExecutesInWorker library root verify self limits platform failing limiting struck pid
      action tree completed outcome after) :
    Crosses (execute library root verify self action) (isolated (.int pid)) failing limits limiting
      struck tree completed outcome after := by
  cases run with
  | @refused failure invalid =>
      have ended : execute library root verify self action = Program.ended (.error failure) := by
        rw [execute, invalid]
        rfl
      exact crosses_directly ended
  | @unavailable tool valid custom =>
      have ended : execute library root verify self action = Program.ended (.error (.sandbox
          ("Tool '" ++ tool.name ++
            "' has no isolated backend; explicit development host fallback is disabled."))) := by
        rw [execute, valid]
        change (if tool.isolatedBuiltin = true then _ else _) = _
        rw [if_neg (by simp [custom])]
        rfl
      exact crosses_directly ended
  | @worked tool process _ valid builtin ran =>
      have found := valid_found valid
      have known : (registry library root).get library tool.name = .ok tool := by
        rw [registered_name found]
        exact found
      have direct : execute library root verify self action =
          executeWorker library tool.handler action.arguments := by
        rw [execute, valid]
        change (if tool.isolatedBuiltin = true then _ else _) = _
        rw [if_pos builtin]
      rw [direct]
      apply worker_crosses (registered_output found) _ _ ran
      · exact fun within arrived => receive_result within arrived
      · exact fun _ => worker_runs_handler sendable known builtin
      · exact fun value returned =>
          sound_result (plainly_evaluates (registered_plainly found action.arguments) returned)

/-- What is left of a compensation that has raised a `SandboxError`. -/
def forgiven : Except Failure Bool → Except Failure Bool
  | .ok done => .ok done
  | .error (.sandbox _) => .ok false
  | .error failure => .error failure

/-- A compensation that passes the checks is the run of its handler, forgiven. -/
theorem compensation_runs {compensation : ActionPayload Arguments} {tool : ToolDefinition}
    {handler : Arguments → Handler Bool}
    (allowed : (registry library root).isCompensationAllowed compensation.toolName = true)
    (found : (registry library root).get library compensation.toolName = .ok tool)
    (known : tool.compensationHandler = some handler)
    (policy : validatePolicy library root verify tool compensation.arguments = .ok ())
    (capabilities : validateCapabilities library root self tool compensation.arguments = .ok ())
    (builtin : tool.isolatedBuiltin = true) :
    executeCompensation library root verify self compensation =
      (executeWorker library handler compensation.arguments).relabel forgiven := by
  rw [executeCompensation, if_neg (by simp [allowed]), found, Program.ended_bind]
  simp only [known, policy, capabilities]
  change Program.attempt (if tool.isolatedBuiltin = true then _ else _) _ = _
  rw [if_pos builtin]
  apply Program.attempt_ended _ fun _ => rfl
  intro failure
  cases failure <;> rfl

theorem admitted_handler {compensation : ActionPayload Arguments} {tool : ToolDefinition}
    {handler : Arguments → Handler Bool}
    (admitted : admitCompensation library root verify self compensation = .ok (tool, handler)) :
    (registry library root).isCompensationAllowed compensation.toolName = true ∧
      (registry library root).get library compensation.toolName = .ok tool ∧
      tool.compensationHandler = some handler ∧ tool.isolatedBuiltin = true ∧
      validatePolicy library root verify tool compensation.arguments = .ok () ∧
      validateCapabilities library root self tool compensation.arguments = .ok () := by
  rw [admitCompensation] at admitted
  by_cases allowed : (registry library root).isCompensationAllowed compensation.toolName = true
  · rw [if_neg (by simp [allowed])] at admitted
    cases found : (registry library root).get library compensation.toolName with
    | error message =>
        rw [found] at admitted
        cases admitted
    | ok other =>
        rw [found] at admitted
        cases known : other.compensationHandler with
        | none =>
            simp only [known] at admitted
            cases admitted
        | some first =>
            simp only [known] at admitted
            cases policy : validatePolicy library root verify other compensation.arguments with
            | error failure =>
                simp only [policy, bind, Except.bind] at admitted
                cases failure <;> cases admitted
            | ok _ =>
                cases capabilities : validateCapabilities library root self other
                    compensation.arguments with
                | error failure =>
                    simp only [policy, capabilities, bind, Except.bind] at admitted
                    cases failure <;> cases admitted
                | ok _ =>
                    by_cases builtin : other.isolatedBuiltin = true
                    · simp only [policy, capabilities, bind, Except.bind, builtin, if_true]
                        at admitted
                      obtain ⟨rfl, rfl⟩ := Prod.mk.inj (Except.ok.inj admitted)
                      exact ⟨allowed, rfl, known, builtin, policy, capabilities⟩
                    · simp only [policy, capabilities, bind, Except.bind, if_neg builtin]
                        at admitted
                      cases admitted
  · rw [if_pos (by simpa using allowed)] at admitted
    cases admitted

theorem stopped_compensation {compensation : ActionPayload Arguments}
    {outcome : Except Failure Bool}
    (stopped : admitCompensation library root verify self compensation = .error outcome) :
    executeCompensation library root verify self compensation = Program.ended outcome := by
  rw [admitCompensation] at stopped
  rw [executeCompensation]
  by_cases allowed : (registry library root).isCompensationAllowed compensation.toolName = true
  · rw [if_neg (by simp [allowed])] at stopped ⊢
    cases found : (registry library root).get library compensation.toolName with
    | error message =>
        rw [found] at stopped
        cases stopped
        rfl
    | ok tool =>
        rw [found] at stopped
        rw [Program.ended_bind]
        cases known : tool.compensationHandler with
        | none =>
            simp only [known] at stopped
            cases stopped
            rfl
        | some handler =>
            simp only [known] at stopped
            cases policy : validatePolicy library root verify tool compensation.arguments with
            | error failure =>
                simp only [policy, bind, Except.bind] at stopped
                cases failure <;> cases stopped <;> rfl
            | ok _ =>
                cases capabilities : validateCapabilities library root self tool
                    compensation.arguments with
                | error failure =>
                    simp only [policy, capabilities, bind, Except.bind] at stopped
                    cases failure <;> cases stopped <;> rfl
                | ok _ =>
                    by_cases builtin : tool.isolatedBuiltin = true
                    · simp only [policy, capabilities, bind, Except.bind, builtin, if_true]
                        at stopped
                      cases stopped
                    · simp only [policy, capabilities, bind, Except.bind, if_neg builtin]
                        at stopped
                      cases stopped
                      change Program.attempt (if tool.isolatedBuiltin = true then _ else _) _ = _
                      rw [if_neg builtin]
                      rfl
  · rw [if_pos (by simpa using allowed)] at stopped ⊢
    cases stopped
    rfl

/-- What a compensation with a process says of the same one without: it may have
failed where the other has not, and it has never succeeded alone. -/
structure Undoes (direct : Handler Bool) (failing : FileTree.Call → Option Errno)
    (limits : WorkerLimits) (limiting struck : Option String) (tree : Tree)
    (completed : Option Completed) (outcome : Except ParentError Bool) (after : Tree) : Prop where
  undone : outcome = .ok true → direct.evaluate (Call.serve failing) tree = (.ok true, after)
  raised : ∀ error, outcome = .error error →
    (∃ message, error = .unicodeDecode message ∧ completed = some (.undecodable message)) ∨
    ∃ failure, error = .raised failure ∧
      direct.evaluate (Call.serve failing) tree = (.error failure, after)
  /-- The disk is at a point of the run. -/
  along : ∃ later, Steps (CallProgram.served (Call.serve failing)) direct tree later after
  same : limiting = none → struck = none → Untroubled limits completed →
    outcome = (direct.evaluate (Call.serve failing) tree).1.mapError .raised ∧
      after = (direct.evaluate (Call.serve failing) tree).2

theorem undoes_directly {direct : Handler Bool} {outcome : Except Failure Bool}
    (ended : direct = Program.ended outcome) :
    Undoes direct failing limits limiting struck tree none (outcome.mapError .raised) tree := by
  have alone : direct.evaluate (Call.serve failing) tree = (outcome, tree) := by
    rw [ended, Program.evaluate_ended]
  constructor
  · intro same
    cases outcome with
    | error failure => cases same
    | ok done =>
        cases same
        exact alone
  · intro error same
    cases outcome with
    | ok done => cases same
    | error failure =>
        cases same
        exact .inr ⟨failure, rfl, alone⟩
  · exact ⟨_, .here⟩
  · intro _ _ _
    rw [alone]
    exact ⟨rfl, rfl⟩

/-- A worker raises nothing but a `SandboxError`. -/
theorem worker_raises {handler : Arguments → Handler Bool} {arguments : Arguments}
    {failure : Failure}
    (raised : ((executeWorker library handler arguments).evaluate (Call.serve failing) tree).1 =
      .error failure) : ∃ message, failure = .sandbox message := by
  rw [executeWorker, Program.attempt_raise, Program.evaluate_relabel] at raised
  cases ended : ((handler arguments).evaluate (Call.serve failing) tree).1 with
  | ok done =>
      rw [ended] at raised
      cases raised
  | error first =>
      rw [ended] at raised
      cases raised
      exact ⟨_, rfl⟩

/-- A crossing whose `SandboxError` is caught. -/
theorem crossing_undoes {handler : Arguments → Handler Bool} {arguments : Arguments}
    {received : Except ParentError SandboxResult}
    (crosses : Crosses (executeWorker library handler arguments)
      (fun done => { success := done }) failing limits limiting struck tree completed received
      after) :
    Undoes ((executeWorker library handler arguments).relabel forgiven) failing limits limiting
      struck tree completed (settled received) after := by
  obtain ⟨returned, raised, ⟨later, steps⟩, same⟩ := crosses
  have alone := @Program.evaluate_relabel FileTree.face Tree Failure Failure Bool Bool
    (Call.serve failing) forgiven (executeWorker library handler arguments) tree
  refine ⟨?_, ?_, ⟨_, steps.relabel _⟩, ?_⟩
  · intro done
    cases received with
    | error error =>
        cases error with
        | shape | unicodeDecode => cases done
        | raised failure => cases failure <;> cases done
    | ok result =>
        obtain ⟨answer, ended, rfl⟩ := returned result rfl
        rw [settled] at done
        obtain rfl : answer = true := Except.ok.inj done
        rw [alone, ended]
        rfl
  · intro error failed
    cases received with
    | ok result => cases failed
    | error first =>
        rcases raised first rfl with ⟨message, rfl, lost⟩ | ⟨failure, rfl, cause⟩
        · cases failed
          exact .inl ⟨message, rfl, lost⟩
        have sandboxed : ∃ message, failure = .sandbox message := by
          rcases cause with caught | ended
          · exact caught
          · exact worker_raises (congrArg Prod.fst ended)
        obtain ⟨message, rfl⟩ := sandboxed
        cases failed
  · intro unlimited spared untroubled
    obtain ⟨outcome, rfl⟩ := same unlimited spared untroubled
    rw [alone]
    refine ⟨?_, rfl⟩
    rw [outcome]
    cases ended : ((executeWorker library handler arguments).evaluate (Call.serve failing) tree).1 with
    | ok done => rfl
    | error failure =>
        obtain ⟨message, rfl⟩ := worker_raises ended
        rfl

/-- What the sandbox undoes in a worker, it has undone. -/
theorem compensation_crosses {compensation : ActionPayload Arguments}
    {outcome : Except ParentError Bool} (sendable : Sendable platform.floats compensation.arguments)
    (run : CompensatesInWorker library root verify self limits platform failing limiting struck pid
      compensation tree completed outcome after) :
    Undoes (executeCompensation library root verify self compensation) failing limits limiting
      struck tree completed outcome after := by
  cases run with
  | @refused outcome stopped => exact undoes_directly (stopped_compensation stopped)
  | @worked tool handler process _ admitted ran =>
      obtain ⟨allowed, found, known, builtin, policy, capabilities⟩ := admitted_handler admitted
      obtain name := registered_name found
      rw [compensation_runs allowed found known policy capabilities builtin]
      apply crossing_undoes
      apply worker_crosses (registered_output found) _ _ ran
      · exact fun within arrived => receive_done within arrived
      · intro _
        exact worker_runs_compensation sendable (name.symm ▸ found) builtin (name.symm ▸ allowed)
          known
      · exact fun value _ => ⟨trivial, rfl⟩

end Boundary

section Samples

def samplePlatform : Platform where
  floats := {
    nan := .nan
    infinity := .infinite false
    negativeInfinity := .infinite true
    write := fun _ => ['0', '.', '0']
    float := fun _ => .finite 0 }
  pipe := id
  pipe_ascii := fun _ _ => rfl
  decoded := .ok
  decoded_ascii := fun _ _ => rfl
  decodeError := fun _ => "Expecting value: line 1 column 1 (char 0)"
  general := fun _ => "10"

def sampleLimits : WorkerLimits := ⟨10, 65536, by norm_num⟩

def linedTree : Tree := .holding samplePath (encode "a\n")

def deletion : FileRequest := { sampleRequest with tool := .deleteFile }

def guardedRequest (request : FileRequest) : Arguments :=
  guardedArguments sampleLibrary request (some "a\n")

def workedRequest (request : FileRequest) (compensation : Bool) :
    Except String (Json.Value PyFloat) × Tree :=
  (workerTry sampleLibrary samplePlatform none (samplePlatform.pipe (sent sampleRoot sampleSandbox sampleLimits
    samplePlatform (request.definition sampleLibrary sampleRoot) (guardedRequest request)
    compensation))).evaluate (Call.serve working) linedTree

def workedProcess (request : FileRequest) (compensation : Bool) : Completed :=
  samplePlatform.completed 0 (write samplePlatform.floats compact
    (workerResponse 7 (workedRequest request compensation).1)) []

theorem sample_sendable (request : FileRequest) (own : request ∈ [sampleRequest, deletion]) :
    Sendable samplePlatform.floats (guardedRequest request) := by
  simp only [List.mem_cons, List.not_mem_nil, or_false] at own
  rcases own with rfl | rfl
  · exact ⟨trivial, trivial, trivial, trivial⟩
  · exact ⟨trivial, trivial, trivial⟩

theorem sample_checked (request : FileRequest) (own : request ∈ [sampleRequest, deletion]) :
    IsFileTool sampleLibrary sampleRoot (request.definition sampleLibrary sampleRoot) ∧
    validatePolicy sampleLibrary sampleRoot sampleVerify
      (request.definition sampleLibrary sampleRoot) (guardedRequest request) = .ok () ∧
    validateCapabilities sampleLibrary sampleRoot sampleSandbox (request.definition sampleLibrary sampleRoot)
      (guardedRequest request) = .ok () := by
  have shape : request.path = "a" ∧ request.size ≤ 1000000 := by
    simp only [List.mem_cons, List.not_mem_nil, or_false] at own
    rcases own with rfl | rfl
    · exact ⟨rfl, by decide⟩
    · exact ⟨rfl, by decide⟩
  have contained : containPath sampleRoot request.path = .ok samplePath := by
    rw [shape.1]
    exact sample_contained
  have builtin := (@definition_builtin sampleLibrary sampleRoot request).1
  exact ⟨builtin, (validate_policy_iff builtin).mpr ((guarded_allowed_iff contained _).mpr shape.2),
    validate_capabilities builtin rfl contained⟩

/-- A worker that answers with what a handler returns, ends by itself. -/
theorem worked_returned {request : FileRequest} {compensation : Bool}
    (whole : ∀ value, (workedRequest request compensation).1 = .ok value → finite value = true) :
    WorkerRun sampleLibrary samplePlatform working none none 7 (sent sampleRoot sampleSandbox sampleLimits
      samplePlatform (request.definition sampleLibrary sampleRoot) (guardedRequest request)
      compensation) linedTree (workedProcess request compensation)
      (workedRequest request compensation).2 := by
  have ran : workedRequest request compensation = (_, _) := Prod.mk.eta.symm
  exact .returned rfl ran (finite_response whole)

theorem sample_execution_whole (value : Json.Value PyFloat)
    (worked : (workedRequest sampleRequest false).1 = .ok value) : finite value = true := by
  have builtin := sample_checked sampleRequest (by simp)
  have found := file_tool_found builtin.1
  have comes := @worker_runs_handler sampleLibrary sampleRoot sampleSandbox sampleLimits samplePlatform
    (sampleRequest.definition sampleLibrary sampleRoot) (guardedRequest sampleRequest)
    (sample_sendable sampleRequest (by simp)) found.1 found.2
  rw [workedRequest, comes, Program.evaluate_relabel] at worked
  dsimp only at worked
  refine (@answer_arrives sampleLibrary samplePlatform _ _ _ ?_ value worked).2
  exact fun _ returned =>
    sound_result (plainly_evaluates (registered_plainly found.1 _) returned)

theorem sample_compensation_whole (value : Json.Value PyFloat)
    (worked : (workedRequest deletion true).1 = .ok value) : finite value = true := by
  have builtin := sample_checked deletion (by simp)
  have found := file_tool_found builtin.1
  have comes := @worker_runs_compensation sampleLibrary sampleRoot sampleSandbox sampleLimits samplePlatform
    (deletion.definition sampleLibrary sampleRoot) (guardedRequest deletion)
    (sample_sendable deletion (by simp)) found.1 found.2 (compensation_allowed builtin.1 rfl) _ rfl
  rw [workedRequest, comes, Program.evaluate_relabel] at worked
  dsimp only at worked
  refine (@answer_arrives sampleLibrary samplePlatform _ _ _ ?_ value worked).2
  exact fun _ _ => ⟨trivial, rfl⟩

/-- A worker writes the file. -/
theorem execution_crosses_sample :
    Crosses (execute sampleLibrary sampleRoot sampleVerify sampleSandbox
        ⟨"WRITE_FILE", guardedRequest sampleRequest⟩) (isolated (.int (7 : ℕ))) working sampleLimits
      none none linedTree (some (workedProcess sampleRequest false))
      (receive sampleLibrary samplePlatform sampleLimits workspaceWrite false
        (workedProcess sampleRequest false)) (workedRequest sampleRequest false).2 := by
  obtain ⟨builtin, policy, capabilities⟩ := sample_checked sampleRequest (by simp)
  have run : ExecutesInWorker sampleLibrary sampleRoot sampleVerify sampleSandbox sampleLimits samplePlatform
      working none none 7 _ _ _ _ _ :=
    .worked (validate_valid builtin policy capabilities) rfl
      (worked_returned sample_execution_whole)
  exact execution_crosses (sample_sendable sampleRequest (by simp)) run

/-- A worker deletes the file. -/
theorem compensation_crosses_sample :
    Undoes (executeCompensation sampleLibrary sampleRoot sampleVerify sampleSandbox
        ⟨"DELETE_FILE", guardedRequest deletion⟩) working sampleLimits none none linedTree
      (some (workedProcess deletion true))
      (settled (receive sampleLibrary samplePlatform sampleLimits workspaceWrite true
        (workedProcess deletion true))) (workedRequest deletion true).2 := by
  obtain ⟨builtin, policy, capabilities⟩ := sample_checked deletion (by simp)
  have admitted : admitCompensation sampleLibrary sampleRoot sampleVerify sampleSandbox
      ⟨"DELETE_FILE", guardedRequest deletion⟩ =
        .ok (deletion.definition sampleLibrary sampleRoot, compDeleteFile sampleLibrary sampleRoot) := by
    have allowed : (registry sampleLibrary sampleRoot).isCompensationAllowed "DELETE_FILE" = true :=
      compensation_allowed builtin rfl
    have found : (registry sampleLibrary sampleRoot).get sampleLibrary "DELETE_FILE" =
        .ok (deletion.definition sampleLibrary sampleRoot) := (file_tool_found builtin).1
    have known : (deletion.definition sampleLibrary sampleRoot).compensationHandler =
        some (compDeleteFile sampleLibrary sampleRoot) := rfl
    rw [admitCompensation, if_neg (by simp [allowed]), found]
    simp only [known, policy, capabilities, bind, Except.bind, (file_tool_found builtin).2, if_true]
  have run : CompensatesInWorker sampleLibrary sampleRoot sampleVerify sampleSandbox sampleLimits samplePlatform
      working none none 7 _ _ _ _ _ :=
    .worked admitted (worked_returned sample_compensation_whole)
  exact compensation_crosses (sample_sendable deletion (by simp)) run

end Samples

end SagaMind.WorkerBoundary
