import SagaMind.Sandbox.FileContract

/-!
# Derived file contracts restore exactly or refuse

A contract is derived from one workspace, its forward action runs on another one
and its compensation on a third; what happens in between is up to others. The
contract restores the text that the derivation read. That is what the path held
then unless a line ended in a carriage return, which reading in text mode drops.
-/

namespace SagaMind.FileContracts

open CallProgram FileTree KeyedTable Sandbox

set_option autoImplicit false

section Property

variable (library : Library) (root : Path) (verify : Arguments → String → PolicyDecision)
  (self : WasmSandbox)

/-- SHA-256 does not collide on what a path holds and an expected text. -/
def Distinguished (held : Option ByteArray) (expected : Option String) : Prop :=
  ∀ bytes ∈ held, ∀ text ∈ expected,
    library.sha256 bytes = library.sha256 (encode text) → bytes = encode text

def forwardRun (request : FileRequest) (guarded : Arguments) (failing : Call → Option Errno)
    (before : Tree) : Except Failure SandboxResult × Tree :=
  (execute library root verify self ⟨request.tool.name, guarded⟩).evaluate (Call.serve failing)
    before

def compensationRun (compensation : ActionPayload Arguments) (failing : Call → Option Errno)
    (between : Tree) : Except Failure Bool × Tree :=
  (executeCompensation library root verify self compensation).evaluate (Call.serve failing) between

def Succeeded (outcome : Except Failure SandboxResult) : Prop :=
  ∃ result, outcome = .ok result ∧ result.success = true

/-- The contract that was derived from `origin` restores exactly or refuses,
where `preimage` is what counts as captured. -/
structure RestoresOrRefuses (request : FileRequest) (path : Path) (origin : Tree)
    (contract : Arguments × ActionPayload Arguments) (preimage : Option ByteArray) : Prop where
  forward : ∀ failing before, before.node path ≠ some .directory →
    Distinguished library (before.file? path) ((origin.file? path).bind decode) →
    let run := forwardRun library root verify self request contract.1 failing before
    (Succeeded run.1 → before.file? path = preimage) ∧
    (¬Succeeded run.1 → run.2.file? = before.file?)
  compensation : ∀ failing again before between, before.node path ≠ some .directory →
    between.node path ≠ some .directory →
    Distinguished library (between.file? path) request.tool.result →
    let run := forwardRun library root verify self request contract.1 failing before
    let back := compensationRun library root verify self contract.2 again between
    (Succeeded run.1 → back.1 = .ok true →
      between.file? path = run.2.file? path ∧
      back.2.file? = Function.update between.file? path preimage) ∧
    (back.1 ≠ .ok true → back.2.file? = between.file?)

end Property

section Runs

variable {library : Library} {root : Path} {verify : Arguments → String → PolicyDecision}
  {self : WasmSandbox} {request : FileRequest} {path : Path} {failing : Call → Option Errno}
  {tree : Tree}

theorem definition_builtin : IsFileTool library root (request.definition library root) ∧
    (request.definition library root).name = request.tool.name := by
  obtain ⟨tool, own, _, _, _⟩ := request
  cases tool
  · exact ⟨.inl rfl, rfl⟩
  · exact ⟨.inr (.inl rfl), rfl⟩

/-- What a path resembles it holds, where digests tell contents apart. -/
theorem resembles_holds {held : Option ByteArray} {text : Option String}
    (distinguished : Distinguished library held text) (resembles : Resembles library held text) :
    held = text.map encode := by
  cases text with
  | none => exact resembles
  | some text =>
      obtain ⟨bytes, holds, equal⟩ := resembles
      rw [holds, distinguished bytes holds text rfl equal]
      rfl

/-- A forward action that succeeds has found its guard and written its result. -/
theorem forward_spec (contained : containPath root request.path = .ok path)
    (captured : Option String) :
    wp (operating failing)
      (execute library root verify self
        ⟨request.tool.name, guardedArguments library request captured⟩)
      (fun result after => result.success = true ∧ request.size ≤ 1000000 ∧
        Resembles library (tree.file? path) captured ∧
        after.file? = Function.update tree.file? path (request.tool.result.map encode))
      (fun _ after => after.file? = tree.file?) tree := by
  have names : Names library root (guardedArguments library request captured) path ∧ _ :=
    guarded_names contained captured
  have builtin : IsFileTool library root (request.definition library root) ∧ _ :=
    definition_builtin
  have here : tree.file? = tree.file? := rfl
  rw [← builtin.2]
  refine wp_execute builtin.1 here fun allows => ?_
  have short := (guarded_allowed_iff contained captured).mp allows
  have guards : Satisfied library (tree.file? path) (guardedArguments library request captured) →
      Resembles library (tree.file? path) captured := (guarded_satisfied_iff captured).mp
  obtain ⟨tool, own, digest, flag, filled⟩ := request
  cases tool with
  | writeFile content =>
      apply wp_mono (write_spec _)
      · rintro result after ⟨done, _, other, text, own, given, satisfied, changed⟩
        cases Except.ok.inj (own.symm.trans names.1)
        cases given
        exact ⟨done, short, guards satisfied, changed⟩
      · exact fun _ _ untouched => untouched_files untouched
  | deleteFile =>
      apply wp_mono (delete_spec _)
      · rintro result after ⟨done, ⟨unnamed, _⟩ | ⟨_, other, own, satisfied, changed⟩⟩
        · rw [names.2] at unnamed
          cases unnamed
        · cases Except.ok.inj (own.symm.trans names.1)
          exact ⟨done, short, guards satisfied, changed⟩
      · rintro _ after rfl
        rfl

/-- A compensation that succeeds has found the result and restored the capture. -/
theorem compensation_spec (contained : containPath root request.path = .ok path)
    (captured : Option String) :
    wp (operating failing)
      (executeCompensation library root verify self
        ⟨"RESTORE_FILE", restoreArguments library request path captured⟩)
      (fun done after => if done = true then
          Resembles library (tree.file? path) request.tool.result ∧
            after.file? = Function.update tree.file? path (captured.map encode)
        else after.file? = tree.file?)
      (fun _ after => after.file? = tree.file?) tree := by
  have names : Names library root (restoreArguments library request path captured) path ∧ _ :=
    restore_names contained captured
  have builtin : IsFileTool library root (restoreFileTool library root) := .inr (.inr rfl)
  have here : tree.file? = tree.file? := rfl
  refine wp_execute_compensation builtin rfl here (fun after same => ?_) ?_
  · exact same
  · apply wp_mono (comp_restore_spec _)
    · intro done after outcome
      cases done with
      | false => exact untouched_files outcome
      | true =>
          obtain ⟨other, own, satisfied, changed⟩ := outcome
          cases Except.ok.inj (own.symm.trans names.1)
          have restored := changed names.2
          rw [restored_captured] at restored
          exact ⟨(restore_satisfied_iff _ captured).mp satisfied, restored⟩
    · exact fun _ _ untouched => untouched_files untouched

theorem forward_run (contained : containPath root request.path = .ok path)
    (captured : Option String) :
    let run := forwardRun library root verify self request
      (guardedArguments library request captured) failing tree
    (Succeeded run.1 → request.size ≤ 1000000 ∧ Resembles library (tree.file? path) captured ∧
      run.2.file? = Function.update tree.file? path (request.tool.result.map encode)) ∧
    (¬Succeeded run.1 → run.2.file? = tree.file?) := by
  intro run
  have spec : replied _ _ run.1 := wp_served_iff.mp (forward_spec contained captured)
  cases outcome : run.1 with
  | error failure =>
      rw [outcome] at spec
      constructor
      · rintro ⟨result, impossible, _⟩
        cases impossible
      · exact fun _ => spec
  | ok result =>
      rw [outcome] at spec
      constructor
      · exact fun _ => spec.2
      · intro failed
        exact absurd ⟨result, rfl, spec.1⟩ failed

theorem compensation_run (contained : containPath root request.path = .ok path)
    (captured : Option String) :
    let back := compensationRun library root verify self
      ⟨"RESTORE_FILE", restoreArguments library request path captured⟩ failing tree
    (back.1 = .ok true → Resembles library (tree.file? path) request.tool.result ∧
      back.2.file? = Function.update tree.file? path (captured.map encode)) ∧
    (back.1 ≠ .ok true → back.2.file? = tree.file?) := by
  intro back
  have spec : replied _ _ back.1 := wp_served_iff.mp (compensation_spec contained captured)
  cases outcome : back.1 with
  | error failure =>
      rw [outcome] at spec
      constructor
      · intro impossible
        cases impossible
      · exact fun _ => spec
  | ok done =>
      rw [outcome] at spec
      cases done with
      | true => exact ⟨fun _ => spec, fun failed => absurd rfl failed⟩
      | false =>
          constructor
          · intro impossible
            cases impossible
          · exact fun _ => spec

end Runs

section Exactness

variable {library : Library} {root : Path} {verify : Arguments → String → PolicyDecision}
  {self : WasmSandbox} {request : FileRequest} {path : Path} {tree : Tree}

theorem contract_restores_capture (contained : containPath root request.path = .ok path)
    {captured : Option String} (captures : Captures (tree.file? path) captured) :
    RestoresOrRefuses library root verify self request path tree
      (contract library request path captured) (captured.map encode) := by
  constructor
  · intro failing before _ distinguished run
    rw [captures.decoded] at distinguished
    have outcome : (Succeeded run.1 → _) ∧ _ := forward_run contained captured
    constructor
    · intro succeeded
      exact resembles_holds distinguished (outcome.1 succeeded).2.1
    · exact outcome.2
  · intro failing again before between _ _ distinguished run back
    have forward : (Succeeded run.1 → _) ∧ _ := forward_run contained captured
    have outcome : (back.1 = .ok true → _) ∧ _ := compensation_run contained captured
    constructor
    · intro succeeded restored
      have holds := resembles_holds distinguished (outcome.1 restored).1
      have left : run.2.file? = _ := (forward.1 succeeded).2.2
      have result : run.2.file? path = request.tool.result.map encode := by
        rw [left, Function.update_self]
      rw [result]
      exact ⟨holds, (outcome.1 restored).2⟩
    · exact outcome.2

theorem file_rewritten {bytes : ByteArray} (held : tree.file? path = some bytes)
    (next : ByteArray) : ∃ before : Tree, before.node path = some (.file next) := by
  have found := file_some.mp held
  have placed : tree.node path.parent = some .directory := by
    apply tree.inside
    rw [found]
    rfl
  have free : tree.node path ≠ some .directory := by
    rw [found]
    intro impossible
    cases impossible
  obtain ⟨before, _, changed⟩ := replace_places next placed free
  have holds : before.file? path = some next := by
    rw [changed, Function.update_self]
  exact ⟨before, file_some.mp holds⟩

/-- A request that does not write too much goes through on a file that holds
the captured text. -/
theorem forward_succeeds (contained : containPath root request.path = .ok path)
    {captured : String} (found : tree.node path = some (.file (encode captured)))
    (small : request.size ≤ 1000000) :
    Succeeded (forwardRun library root verify self request
      (guardedArguments library request (some captured)) working tree).1 := by
  have holds := file_some.mpr found
  have names : Names library root (guardedArguments library request (some captured)) path ∧ _ :=
    guarded_names contained (some captured)
  have builtin : IsFileTool library root (request.definition library root) ∧ _ :=
    definition_builtin
  have satisfied : Satisfied library (tree.file? path)
      (guardedArguments library request (some captured)) :=
    (guarded_satisfied_iff (some captured)).mpr ⟨_, holds, rfl⟩
  have placed : tree.node path.parent = some .directory := by
    apply tree.inside
    rw [found]
    rfl
  have free : tree.node path ≠ some .directory := by
    rw [found]
    intro impossible
    cases impossible
  have allows : Allows library root _ _ := (guarded_allowed_iff contained (some captured)).mpr small
  have run : wp (operating working)
      (execute library root verify self
        ⟨request.tool.name, guardedArguments library request (some captured)⟩)
      (fun result _ => result.success = true) (fun _ _ => False) tree := by
    rw [← builtin.2]
    refine wp_execute_valid builtin.1 allows rfl contained ?_
    obtain ⟨tool, own, digest, flag, filled⟩ := request
    cases tool with
    | writeFile content => exact write_succeeds names.2 names.1 rfl satisfied placed free
    | deleteFile => exact delete_succeeds names.1 satisfied free
  exact served_value run

/-- The captured text encodes what the path held, if and only if that has no
carriage return. -/
theorem capture_exact_iff {held : Option ByteArray} {captured : Option String}
    (captures : Captures held captured) :
    captured.map encode = held ↔ ∀ bytes ∈ held, carriageReturn bytes = false := by
  obtain ⟨decoded, present, _⟩ := captures
  cases held with
  | none =>
      rw [← decoded]
      constructor
      · intro _ bytes member
        cases member
      · exact fun _ => rfl
  | some bytes =>
      cases captured with
      | none => cases present
      | some text =>
          rw [Option.map_some, Option.some.injEq, encode_decode_iff decoded]
          constructor
          · intro clean other member
            cases member
            exact clean
          · exact fun clean => clean bytes rfl

/-- A request that is refused for its size keeps any promise about success. -/
theorem oversized_refuses (contained : containPath root request.path = .ok path)
    {captured : Option String} (large : 1000000 < request.size) (preimage : Option ByteArray) :
    RestoresOrRefuses library root verify self request path tree
      (contract library request path captured) preimage := by
  constructor
  · intro failing before _ _ run
    have forward : (Succeeded run.1 → _) ∧ _ := forward_run contained captured
    exact ⟨fun succeeded => absurd (forward.1 succeeded).1 (Nat.not_le.mpr large), forward.2⟩
  · intro failing again before between _ _ _ run back
    have forward : (Succeeded run.1 → _) ∧ _ := forward_run contained captured
    have outcome : (back.1 = .ok true → _) ∧ _ := compensation_run contained captured
    exact ⟨fun succeeded => absurd (forward.1 succeeded).1 (Nat.not_le.mpr large), outcome.2⟩

/-- What counts as captured is what was read, if a forward action can go through. -/
theorem exact_captures (contained : containPath root request.path = .ok path)
    {captured : Option String} (captures : Captures (tree.file? path) captured)
    (small : request.size ≤ 1000000)
    (exact : RestoresOrRefuses library root verify self request path tree
      (contract library request path captured) (tree.file? path)) :
    captured.map encode = tree.file? path := by
  cases held : tree.file? path with
  | none =>
      have decoded := captures.decoded
      rw [held] at decoded
      rw [← decoded]
      rfl
  | some bytes =>
      cases captured with
      | none =>
          have present := captures.present
          rw [held] at present
          cases present
      | some text =>
          obtain ⟨before, found⟩ := file_rewritten held (encode text)
          have free : before.node path ≠ some .directory := by
            rw [found]
            intro impossible
            cases impossible
          have holds := file_some.mpr found
          have distinguished : Distinguished library (before.file? path)
              ((tree.file? path).bind decode) := by
            rw [holds, captures.decoded]
            intro other member expected among _
            cases member
            cases among
            rfl
          obtain ⟨forward, _⟩ := exact
          have run := forward working before free distinguished
          have still := run.1 (forward_succeeds contained found small)
          rw [holds, held] at still
          exact still

end Exactness

section Samples

/-- Overwrite `a` with the letter b. -/
def sampleRequest : FileRequest := { tool := .writeFile "b", path := "a" }

theorem sample_contained : containPath sampleRoot sampleRequest.path = .ok samplePath := by
  decide

/-- A file with one line, ended by `\r\n`. -/
def sampleTree : Tree := .holding samplePath (encode "a\r\n")

theorem sample_held : sampleTree.file? samplePath = some (encode "a\r\n") :=
  holding_file (by decide) _

theorem sample_captures : Captures (sampleTree.file? samplePath) (some "a\n") := by
  rw [sample_held]
  constructor
  · rw [Option.bind_some, decode, from_utf8_encode]
    decide
  · rfl
  · intro text member
    cases member
    decide

/-- A file with the same line, ended by `\n`. -/
def letteredTree : Tree := .holding samplePath (encode "a\n")

theorem lettered_held : letteredTree.file? samplePath = some (encode "a\n") :=
  holding_file (by decide) _

theorem lettered_captures : Captures (letteredTree.file? samplePath) (some "a\n") := by
  rw [lettered_held]
  constructor
  · rw [Option.bind_some, decode, from_utf8_encode]
    decide
  · rfl
  · intro text member
    cases member
    decide

theorem sample_derives {tree : Tree} {captured : Option String}
    (captures : Captures (tree.file? samplePath) captured) :
    (deriveFileContract sampleLibrary sampleRoot sampleRequest.tool.name
      sampleRequest.arguments).evaluate (Call.serve working) tree =
      (.ok (contract sampleLibrary sampleRequest samplePath captured), tree) := by
  obtain ⟨derived, ended, shape, last⟩ := served_value (derive_succeeds sample_contained captures)
  rw [← shape, ← ended]
  exact congrArg (Prod.mk _) last

end Samples

section Claims

variable {library : Library} {root : Path} {verify : Arguments → String → PolicyDecision}
  {self : WasmSandbox} {request : FileRequest} {path : Path} {tree : Tree}

/-- A contract derived for a file restores exactly or refuses, if and only if
the file has no carriage return or the request is refused for its size; it
restores the captured text in any case. -/
theorem derived_contract_exact_iff {failing : Call → Option Errno} {after : Tree}
    {derived : Arguments × ActionPayload Arguments}
    (contained : containPath root request.path = .ok path)
    (derives : (deriveFileContract library root request.tool.name request.arguments).evaluate
      (Call.serve failing) tree = (.ok derived, after)) :
    (RestoresOrRefuses library root verify self request path tree derived (tree.file? path) ↔
      (∀ bytes ∈ tree.file? path, carriageReturn bytes = false) ∨ 1000000 < request.size) ∧
    RestoresOrRefuses library root verify self request path tree derived
      (((tree.file? path).bind decode).map encode) := by
  have spec : replied _ _ ((deriveFileContract library root request.tool.name
      request.arguments).evaluate (Call.serve failing) tree).1 :=
    wp_served_iff.mp (derive_spec contained)
  rw [derives] at spec
  obtain ⟨_, captured, captures, rfl⟩ := spec
  have restores : RestoresOrRefuses library root verify self request path tree
      (contract library request path captured) (captured.map encode) :=
    contract_restores_capture contained captures
  rw [captures.decoded, ← capture_exact_iff captures]
  refine ⟨⟨fun exact => ?_, fun condition => ?_⟩, restores⟩
  · rcases Nat.lt_or_ge 1000000 request.size with large | small
    · exact .inr large
    · exact .inl (exact_captures contained captures small exact)
  · rcases condition with same | large
    · rw [← same]
      exact restores
    · exact oversized_refuses contained large _

/-- The file is read with another line end, which another party writes; the
forward action then goes through on what the derivation did not find. -/
theorem line_end_lost : ∃ derived after,
    (deriveFileContract sampleLibrary sampleRoot sampleRequest.tool.name
      sampleRequest.arguments).evaluate (Call.serve working) sampleTree = (.ok derived, after) ∧
    ¬RestoresOrRefuses sampleLibrary sampleRoot sampleVerify {} sampleRequest samplePath sampleTree
      derived (sampleTree.file? samplePath) := by
  refine ⟨_, _, sample_derives sample_captures, fun exact => ?_⟩
  have same := exact_captures sample_contained sample_captures (by decide) exact
  rw [sample_held, Option.map_some, Option.some.injEq] at same
  exact absurd (encode_injective same) (by decide)

/-- The contract restores the file with `\n` and not the other one. -/
theorem derived_contract_exact_sample :
    RestoresOrRefuses sampleLibrary sampleRoot sampleVerify {} sampleRequest samplePath letteredTree
        (contract sampleLibrary sampleRequest samplePath (some "a\n"))
        (letteredTree.file? samplePath) ∧
      ¬RestoresOrRefuses sampleLibrary sampleRoot sampleVerify {} sampleRequest samplePath sampleTree
        (contract sampleLibrary sampleRequest samplePath (some "a\n"))
        (sampleTree.file? samplePath) := by
  constructor
  · refine (derived_contract_exact_iff sample_contained (sample_derives lettered_captures)).1.mpr ?_
    rw [lettered_held]
    decide
  · rw [(derived_contract_exact_iff sample_contained (sample_derives sample_captures)).1, sample_held]
    decide

/-- The guard of a derived contract accepts the unchanged file, if and only if
the file has no carriage return. -/
theorem unchanged_file_accepted_iff {failing : Call → Option Errno} {after : Tree}
    {derived : Arguments × ActionPayload Arguments} {bytes : ByteArray}
    (contained : containPath root request.path = .ok path)
    (held : tree.file? path = some bytes)
    (derives : (deriveFileContract library root request.tool.name request.arguments).evaluate
      (Call.serve failing) tree = (.ok derived, after))
    (distinguished : Distinguished library (some bytes) (decode bytes)) :
    (∀ before : Tree, before.file? path = some bytes →
      ((checkFilePrecondition library path derived.1).evaluate (Call.serve working) before).1 =
        .ok ()) ↔ carriageReturn bytes = false := by
  have spec : replied _ _ ((deriveFileContract library root request.tool.name
      request.arguments).evaluate (Call.serve failing) tree).1 :=
    wp_served_iff.mp (derive_spec contained)
  rw [derives] at spec
  obtain ⟨_, captured, captures, rfl⟩ := spec
  rw [held] at captures
  have exact : captured.map encode = some bytes ↔ carriageReturn bytes = false := by
    rw [capture_exact_iff captures]
    simp
  rw [← exact]
  have decoded := captures.decoded
  rw [Option.bind_some] at decoded
  rw [decoded] at distinguished
  constructor
  · intro accepts
    have passed := accepts tree held
    have check : replied _ _ ((checkFilePrecondition library path
        (guardedArguments library request captured)).evaluate (Call.serve working) tree).1 :=
      wp_served_iff.mp (check_spec path _)
    change ((checkFilePrecondition library path (guardedArguments library request captured)).evaluate
      (Call.serve working) tree).1 = .ok () at passed
    rw [passed, held] at check
    exact (resembles_holds distinguished ((guarded_satisfied_iff captured).mp check.2)).symm
  · intro same before holds
    have resembles : Resembles library (before.file? path) captured := by
      rw [holds, ← same]
      cases captured with
      | none => cases same
      | some text => exact ⟨encode text, rfl, rfl⟩
    obtain ⟨_, passed, _⟩ :=
      served_value (check_accepts ((guarded_satisfied_iff captured).mpr resembles))
    exact passed

theorem sample_distinguished :
    Distinguished sampleLibrary (some (encode "a\r\n")) (decode (encode "a\r\n")) := by
  have decoded := sample_captures.decoded
  rw [sample_held, Option.bind_some] at decoded
  rw [decoded]
  intro bytes member text among equal
  cases member
  cases among
  have unequal : sampleLibrary.sha256 (encode "a\r\n") ≠ sampleLibrary.sha256 (encode "a\n") := by
    decide
  exact absurd equal unequal

theorem lettered_distinguished :
    Distinguished sampleLibrary (some (encode "a\n")) (decode (encode "a\n")) := by
  have decoded := lettered_captures.decoded
  rw [lettered_held, Option.bind_some] at decoded
  rw [decoded]
  intro bytes member text among _
  cases member
  cases among
  rfl

/-- The unchanged file is refused. -/
theorem unchanged_file_refused : ∃ derived after,
    (deriveFileContract sampleLibrary sampleRoot sampleRequest.tool.name
      sampleRequest.arguments).evaluate (Call.serve working) sampleTree = (.ok derived, after) ∧
    ((checkFilePrecondition sampleLibrary samplePath derived.1).evaluate (Call.serve working)
      sampleTree).1 = .error (.sandbox "File precondition failed: content hash changed.") := by
  refine ⟨_, _, sample_derives sample_captures, ?_⟩
  decide

/-- The guard accepts the file with `\n` and not the other one. -/
theorem unchanged_file_sample :
    (∀ before : Tree, before.file? samplePath = some (encode "a\n") →
      ((checkFilePrecondition sampleLibrary samplePath
        (contract sampleLibrary sampleRequest samplePath (some "a\n")).1).evaluate
          (Call.serve working) before).1 = .ok ()) ∧
    ¬∀ before : Tree, before.file? samplePath = some (encode "a\r\n") →
      ((checkFilePrecondition sampleLibrary samplePath
        (contract sampleLibrary sampleRequest samplePath (some "a\n")).1).evaluate
          (Call.serve working) before).1 = .ok () := by
  constructor
  · exact (unchanged_file_accepted_iff sample_contained lettered_held
      (sample_derives lettered_captures) lettered_distinguished).mpr (by decide)
  · rw [unchanged_file_accepted_iff sample_contained sample_held (sample_derives sample_captures)
      sample_distinguished]
    decide

end Claims

end SagaMind.FileContracts
