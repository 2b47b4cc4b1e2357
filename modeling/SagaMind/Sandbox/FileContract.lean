import SagaMind.Sandbox.Outcomes

/-!
# Derived file contracts

`_derive_file_contract` of `src/main.py`: it reads the file at the path in text
mode, binds the action to a hash of what it read, and puts the text into the
compensation. The request has passed its argument schema.
-/

namespace SagaMind.Sandbox

open CallProgram FileTree KeyedTable

set_option autoImplicit false

inductive FileTool where
  | writeFile (content : String)
  | deleteFile
  deriving DecidableEq

def FileTool.name : FileTool → String
  | writeFile _ => "WRITE_FILE"
  | deleteFile => "DELETE_FILE"

/-- A request that `WriteFileArgs` or `DeleteFileArgs` accepts. -/
structure FileRequest where
  tool : FileTool
  path : String
  expectedSha256 : Option String := none
  expectedAbsent : Option Bool := none
  named : path ≠ "" := by decide

namespace FileRequest

def contentRows (request : FileRequest) : List (String × Value) :=
  match request.tool with
  | .writeFile content => [("content", .str content)]
  | .deleteFile => []

/-- `model_dump(exclude_none=True)`. -/
def arguments (request : FileRequest) : Arguments where
  rows := [("path", .str request.path)] ++ request.contentRows ++
    (request.expectedSha256.map fun digest => ("expected_sha256", Value.str digest)).toList ++
    (request.expectedAbsent.map fun flag => ("expected_absent", Value.bool flag)).toList
  distinct := by
    obtain ⟨tool, path, digest, flag, _⟩ := request
    cases tool <;> cases digest <;> cases flag <;> simp [contentRows]

end FileRequest

inductive ContractError where
  /-- `HTTPException`. -/
  | http (code : Nat) (detail : String)
  /-- `KeyError`, or the `AttributeError` of a content that is not a string. -/
  | uncaught
  | value (error : ValueError)
  deriving DecidableEq

section Derivation

variable (library : Library) (root : Path)

/-- `except OSError as exc` around the reading. -/
def reading (request : Call) : Program FileTree.face ContractError request.Answer :=
  (@Program.perform FileTree.face request).attempt fun errno =>
    .raise (.http 422 (library.strerror errno))

/-- `safe_path.read_text(encoding="utf-8") if existed else ""`. -/
def readPrevious (path : Path) (existed : Bool) : Program FileTree.face ContractError String :=
  if existed = false then pure ""
  else do
    let bytes ← reading library (.read path)
    match decode bytes with
    | none => .raise (.http 422 (library.decodeError bytes))
    | some previous => pure previous

def bindContract (toolName : String) (arguments : Arguments) (path : Path) (existed : Bool)
    (previous : String) : Except ContractError (Arguments × ActionPayload Arguments) :=
  let plain : Arguments := (arguments.erase "expected_sha256").erase "expected_absent"
  let guarded : Arguments :=
    if existed then plain.put ("expected_sha256", .str (library.sha256 (encode previous)))
    else plain.put ("expected_absent", .bool true)
  let captured : Arguments :=
    ⟨[("path", .str path.text), ("existed", .bool existed), ("previous", .str previous)], by simp⟩
  if toolName = "WRITE_FILE" then
    match guarded.get "content" with
    | some (.str content) => .ok (guarded, ⟨"RESTORE_FILE",
        captured.put ("expected_sha256", .str (library.sha256 (encode content)))⟩)
    | _ => .error .uncaught
  else .ok (guarded, ⟨"RESTORE_FILE", captured.put ("expected_absent", .bool true)⟩)

def deriveFileContract (toolName : String) (arguments : Arguments) :
    Program FileTree.face ContractError (Arguments × ActionPayload Arguments) :=
  match arguments.get "path" with
  | none => .raise .uncaught
  | some raw =>
      match containPath root (pathText library (some raw)) with
      | .error (.security message) => .raise (.http 422 message)
      | .error (.value error) => .raise (.value error)
      | .ok path => do
          let existed ← reading library (.isFile path)
          let previous ← readPrevious library path existed
          if 1000000 < previous.length then
            .raise (.http 422 "File is too large for the built-in exact rollback contract.")
          else Program.ended (bindContract library toolName arguments path existed previous)

end Derivation

section Contracts

variable {library : Library} {root : Path} {request : FileRequest}

structure Captures (held : Option ByteArray) (captured : Option String) : Prop where
  decoded : held.bind decode = captured
  present : held.isSome = captured.isSome
  short : ∀ text ∈ captured, text.length ≤ 1000000

def guardRow (library : Library) (captured : Option String) : String × Value :=
  match captured with
  | some text => ("expected_sha256", .str (library.sha256 (encode text)))
  | none => ("expected_absent", .bool true)

def guardedArguments (library : Library) (request : FileRequest) (captured : Option String) :
    Arguments where
  rows := ("path", .str request.path) :: request.contentRows ++ [guardRow library captured]
  distinct := by
    obtain ⟨tool, path, _, _, _⟩ := request
    cases tool <;> cases captured <;> simp [FileRequest.contentRows, guardRow]

def resultRow (library : Library) (request : FileRequest) : String × Value :=
  match request.tool with
  | .writeFile content => ("expected_sha256", .str (library.sha256 (encode content)))
  | .deleteFile => ("expected_absent", .bool true)

def restoreArguments (library : Library) (request : FileRequest) (path : Path)
    (captured : Option String) : Arguments where
  rows := [("path", .str path.text), ("existed", .bool captured.isSome),
    ("previous", .str (captured.getD "")), resultRow library request]
  distinct := by
    obtain ⟨tool, _, _, _, _⟩ := request
    cases tool <;> simp [resultRow]

def contract (library : Library) (request : FileRequest) (path : Path)
    (captured : Option String) : Arguments × ActionPayload Arguments :=
  (guardedArguments library request captured,
    ⟨"RESTORE_FILE", restoreArguments library request path captured⟩)

theorem bind_contract (path : Path) (captured : Option String) :
    bindContract library request.tool.name request.arguments path captured.isSome
      (captured.getD "") = .ok (contract library request path captured) := by
  obtain ⟨tool, own, digest, flag, _⟩ := request
  cases tool <;> cases digest <;> cases flag <;> cases captured <;> rfl

theorem wp_reading {failing : Call → Option Errno} {tree : Tree} {call : Call}
    {post : call.Answer → Tree → Prop} {failed : ContractError → Tree → Prop} :
    wp (operating failing) (reading library call) post failed tree ↔
      replied (post · (Call.serve failing call tree).2)
        (fun errno => failed (.http 422 (library.strerror errno)) (Call.serve failing call tree).2)
        (Call.serve failing call tree).1 := by
  rw [reading, wp_attempt, wp_served_perform]
  rfl

theorem read_previous_spec {failing : Call → Option Errno} {tree : Tree} (path : Path) :
    wp (operating failing) (readPrevious library path (tree.file? path).isSome)
      (fun previous after => after = tree ∧ ∃ captured : Option String,
        captured.getD "" = previous ∧ (tree.file? path).bind decode = captured ∧
        (tree.file? path).isSome = captured.isSome)
      (fun _ after => after = tree) tree := by
  rw [readPrevious]
  split
  · rename_i missing
    rw [Option.isSome_eq_false_iff, Option.isNone_iff_eq_none] at missing
    rw [missing]
    exact ⟨rfl, none, rfl, rfl, rfl⟩
  · rename_i standing
    cases held : tree.file? path with
    | none =>
        rw [held] at standing
        exact absurd rfl standing
    | some bytes =>
        rw [wp_bind, wp_reading]
        simp only [Call.serve]
        split
        · rfl
        · rw [Call.carry, file_some.mp held]
          simp only [replied_ok]
          cases read : decode bytes with
          | none => rfl
          | some previous => exact ⟨rfl, some previous, rfl, read, rfl⟩

/-- A derivation captures what it read and ends with the contract for it. -/
theorem derive_spec {failing : Call → Option Errno} {tree : Tree} {path : Path}
    (contained : containPath root request.path = .ok path) :
    wp (operating failing) (deriveFileContract library root request.tool.name request.arguments)
      (fun derived after => after = tree ∧ ∃ captured, Captures (tree.file? path) captured ∧
        derived = contract library request path captured)
      (fun _ after => after = tree) tree := by
  have named : request.arguments.get "path" = some (.str request.path) := rfl
  rw [deriveFileContract, named]
  simp only [pathText, contained]
  rw [wp_bind, wp_reading]
  change wp _ _ _ _ _
  apply wp_seq (read_previous_spec path)
  rintro previous after ⟨rfl, captured, rfl, decoded, present⟩
  rw [wp_ite]
  split
  · rfl
  · rename_i short
    have captures : Captures (after.file? path) captured := by
      refine ⟨decoded, present, fun text member => ?_⟩
      rw [Option.mem_def] at member
      rw [member] at short
      exact Nat.le_of_not_lt short
    rw [present, bind_contract, wp_outcome]
    exact ⟨rfl, captured, captures, rfl⟩

/-- A file that can be read and is not too large has a contract. -/
theorem derive_succeeds {tree : Tree} {path : Path} {captured : Option String}
    (contained : containPath root request.path = .ok path)
    (captures : Captures (tree.file? path) captured) :
    wp (operating working) (deriveFileContract library root request.tool.name request.arguments)
      (fun derived after => derived = contract library request path captured ∧ after = tree)
      (fun _ _ => False) tree := by
  have named : request.arguments.get "path" = some (.str request.path) := rfl
  have read : wp (operating working) (readPrevious library path (tree.file? path).isSome)
      (fun previous after => after = tree ∧ previous = captured.getD "") (fun _ _ => False)
      tree := by
    rw [readPrevious, captures.present]
    have decoded := captures.decoded
    cases captured with
    | none => exact ⟨rfl, rfl⟩
    | some text =>
        obtain ⟨bytes, held, reads⟩ := Option.bind_eq_some_iff.mp decoded
        rw [if_neg (by simp), wp_bind, wp_reading]
        simp only [Call.serve, Call.carry, file_some.mp held, replied_ok, reads]
        exact ⟨rfl, rfl⟩
  rw [deriveFileContract, named]
  simp only [pathText, contained]
  rw [wp_bind, wp_reading]
  change wp _ _ _ _ _
  rw [wp_bind]
  apply wp_unfailing read
  rintro _ after ⟨rfl, rfl⟩
  have short : ¬1000000 < (captured.getD "").length := by
    cases captured with
    | none => decide
    | some text => exact Nat.not_lt.mpr (captures.short text rfl)
  rw [if_neg short, captures.present, bind_contract, wp_outcome]
  exact ⟨rfl, rfl⟩

end Contracts

section Guards

variable {library : Library} {root : Path} {request : FileRequest} {held : Option ByteArray}

theorem satisfied_digest {args : Arguments} {digest : String}
    (guarded : args.get "expected_sha256" = some (.str digest))
    (plain : args.get "expected_absent" = none) :
    Satisfied library held args ↔ ∃ bytes, held = some bytes ∧ library.sha256 bytes = digest := by
  constructor
  · intro satisfied
    obtain ⟨bytes, holds, equal⟩ := satisfied.unchanged (by rw [guarded]; rfl)
    rw [guarded] at equal
    exact ⟨bytes, holds, of_decide_eq_true equal⟩
  · rintro ⟨bytes, holds, equal⟩
    constructor
    · rw [plain]
      exact fun both => Bool.false_ne_true both.2
    · rw [plain]
      exact fun expected => absurd expected Bool.false_ne_true
    · intro _
      rw [guarded]
      exact ⟨bytes, holds, decide_eq_true equal⟩

theorem satisfied_absent {args : Arguments} (plain : args.get "expected_sha256" = none)
    (guarded : args.get "expected_absent" = some (.bool true)) :
    Satisfied library held args ↔ held = none := by
  constructor
  · intro satisfied
    exact satisfied.absent (by rw [guarded]; rfl)
  · intro absent
    constructor
    · rw [plain]
      exact fun both => Bool.false_ne_true both.1
    · exact fun _ => absent
    · rw [plain]
      exact fun expected => absurd expected Bool.false_ne_true

def Resembles (library : Library) (held : Option ByteArray) (text : Option String) : Prop :=
  match text with
  | some text => ∃ bytes, held = some bytes ∧ library.sha256 bytes = library.sha256 (encode text)
  | none => held = none

theorem guarded_satisfied_iff (captured : Option String) :
    Satisfied library held (guardedArguments library request captured) ↔
      Resembles library held captured := by
  obtain ⟨tool, own, _, _, _⟩ := request
  cases captured with
  | none => cases tool <;> exact satisfied_absent rfl rfl
  | some text => cases tool <;> exact satisfied_digest rfl rfl

def FileTool.result : FileTool → Option String
  | writeFile content => some content
  | deleteFile => none

theorem restore_satisfied_iff (path : Path) (captured : Option String) :
    Satisfied library held (restoreArguments library request path captured) ↔
      Resembles library held request.tool.result := by
  obtain ⟨tool, own, _, _, _⟩ := request
  cases tool with
  | writeFile content => exact satisfied_digest rfl rfl
  | deleteFile => exact satisfied_absent rfl rfl

theorem restored_captured (path : Path) (captured : Option String) :
    restoredBytes (restoreArguments library request path captured) = captured.map encode := by
  cases captured <;> rfl

theorem restore_names {path : Path} (contained : containPath root request.path = .ok path)
    (captured : Option String) :
    Names library root (restoreArguments library request path captured) path ∧
      Value.truthy ((restoreArguments library request path captured).get "path") = true := by
  constructor
  · exact contain_path_text contained
  · have filled : path.text ≠ "" := by
      intro empty
      have letters := congrArg String.toList empty
      rw [text_to_list] at letters
      cases letters
    exact decide_eq_true filled

theorem guarded_names {path : Path} (contained : containPath root request.path = .ok path)
    (captured : Option String) :
    Names library root (guardedArguments library request captured) path ∧
      Value.truthy ((guardedArguments library request captured).get "path") = true :=
  ⟨contained, decide_eq_true request.named⟩

def FileRequest.size (request : FileRequest) : Nat :=
  (request.tool.result.getD "").length

def FileRequest.definition (library : Library) (root : Path) (request : FileRequest) :
    ToolDefinition :=
  match request.tool with
  | .writeFile _ => writeFileTool library root
  | .deleteFile => deleteFileTool library root

/-- A guard passes its rule, and the other precondition is not required. -/
theorem guard_row_meets (captured : Option String) :
    ∀ entry ∈ [("expected_sha256", expectedSha256Rule), ("expected_absent", expectedAbsentRule)],
      match (guardedArguments library request captured).get entry.1 with
      | none => entry.2.required = false
      | some value => Meets root entry.2 value := by
  have digest : ∀ text, Meets root expectedSha256Rule (.str (library.sha256 (encode text))) :=
    fun text => (meets_text rfl).mpr ⟨_, rfl, (library.sha256_length _).le⟩
  have absent : Meets root expectedAbsentRule (.bool true) := (meets_flag (.inr rfl)).mpr ⟨_, rfl⟩
  obtain ⟨tool, own, _, _, _⟩ := request
  rw [List.forall_mem_cons, List.forall_mem_singleton]
  cases captured with
  | none => cases tool <;> exact ⟨rfl, absent⟩
  | some text => cases tool <;> exact ⟨digest text, rfl⟩

theorem definition_rules :
    (filePolicy (request.definition library root)).arguments.rows =
      [("path", pathRule)] ++ (request.contentRows.map fun row => (row.1, contentRule)) ++
        [("expected_sha256", expectedSha256Rule), ("expected_absent", expectedAbsentRule)] := by
  obtain ⟨tool, own, _, _, _⟩ := request
  cases tool <;> rfl

theorem guarded_content (captured : Option String) :
    ∀ row ∈ request.contentRows,
      (guardedArguments library request captured).get row.1 = some row.2 := by
  obtain ⟨tool, own, _, _, _⟩ := request
  cases tool with
  | writeFile content =>
      intro row member
      rw [List.mem_singleton.mp member]
      rfl
  | deleteFile => exact fun row member => absurd member List.not_mem_nil

theorem content_rows_meet :
    (∀ row ∈ request.contentRows, Meets root contentRule row.2) ↔ request.size ≤ 1000000 := by
  obtain ⟨tool, own, _, _, _⟩ := request
  cases tool with
  | writeFile content =>
      rw [FileRequest.contentRows, List.forall_mem_singleton, meets_text rfl]
      constructor
      · rintro ⟨text, shape, short⟩
        cases shape
        exact short
      · exact fun short => ⟨content, rfl, short⟩
  | deleteFile =>
      constructor
      · exact fun _ => Nat.zero_le _
      · exact fun _ row member => absurd member List.not_mem_nil

/-- The typed policy lets the guarded action through unless it writes too much. -/
theorem guarded_allowed_iff {path : Path} (contained : containPath root request.path = .ok path)
    (captured : Option String) :
    Allows library root (filePolicy (request.definition library root))
      (guardedArguments library request captured) ↔ request.size ≤ 1000000 := by
  have located : Meets root pathRule (.str request.path) :=
    meets_path.mpr ⟨_, path, rfl, contained⟩
  have declared : ∀ row ∈ (guardedArguments library request captured).rows,
      row.1 ∈ (filePolicy (request.definition library root)).arguments.rows.map Prod.fst := by
    rw [definition_rules]
    intro row member
    simp only [guardedArguments, List.mem_append, List.mem_cons, List.not_mem_nil, or_false]
      at member
    rcases member with (own | content) | guard
    · simp [own]
    · simp only [List.map_append, List.map_map, List.mem_append, List.mem_map]
      exact .inl (.inr ⟨row, content, rfl⟩)
    · cases captured <;> simp [guard, guardRow]
  rw [allows_iff, definition_rules, ← content_rows_meet, List.forall_mem_append,
    List.forall_mem_append, List.forall_mem_singleton, List.forall_mem_map]
  constructor
  · intro allows row member
    have meets := allows.1.1.2 row member
    rw [guarded_content captured row member] at meets
    exact meets
  · intro meets
    refine ⟨⟨⟨located, fun row member => ?_⟩, guard_row_meets captured⟩, .inr ?_⟩
    · rw [guarded_content captured row member]
      exact meets row member
    · rw [← definition_rules]
      exact declared

end Guards

section Samples

def sampleLibrary : Library where
  sha256 := fun data =>
    if data = encode "a\n" then "87428fc522803d31065e7bce3cf03fe475096631e5e07bbd7a0fde60c4cf25c7"
    else if data = encode "a\r\n" then
      "8e4621379786ef42a4fec155cd525c291dd7db3c1fde3478522f4f61c03fd1bd"
    else if data = encode "b" then "3e23e8160039594a33894f6564e1b1348bbd7a0088d42c4acb73eeaed59c009d"
    else "e3b0c44298fc1c149afbf4c8996fb92427ae41e4649b934ca495991b7852b855"
  sha256_length := by
    intro data
    split
    · rfl
    · split
      · rfl
      · split <;> rfl
  str := fun _ => "None"
  repr := fun text => "'" ++ text ++ "'"
  fnmatchcase := fun text pattern => decide (text = pattern)
  errorClass := fun _ => "OSError"
  strerror := fun _ => "[Errno 5] Input/output error"
  decodeError := fun _ => "'utf-8' codec can't decode byte"

theorem sample_sufficient : 64 ≤ 256 := by decide

def sampleSandbox : WasmSandbox := { sufficient := sample_sufficient }

def sampleRoot : Path := ⟨["w"], by decide⟩

def samplePath : Path := ⟨["w", "a"], by decide⟩

def sampleVerify : Arguments → String → PolicyDecision :=
  fun arguments _ => rejection "advanced_smt" "" arguments "No solver."

end Samples

end SagaMind.Sandbox
