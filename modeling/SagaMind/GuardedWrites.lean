import SagaMind.Foundation.Pool
import SagaMind.Sandbox.FileContract

/-!
# Two guarded writes of one file

Two workers run `WRITE_FILE` on one path under the same guard, one call of the
operating system at a time. The check and the final replace are different calls,
so a worker may replace what the other one wrote after the check. Where what the
check of a worker saw is still there when it replaces, the check of the other one
tells it that it is too late.
-/

namespace SagaMind.GuardedWrites

open CallProgram FileTree KeyedTable Sandbox

set_option autoImplicit false

section Writers

variable (library : Library) (root : Path) (verify : Arguments → String → PolicyDecision)
  (self : WasmSandbox)

def preimageRow (preimage : Option ByteArray) : String × Value :=
  match preimage with
  | some bytes => ("expected_sha256", .str (library.sha256 bytes))
  | none => ("expected_absent", .bool true)

def writeArguments (raw content : String) (preimage : Option ByteArray) : Arguments where
  rows := [("path", .str raw), ("content", .str content), preimageRow library preimage]
  distinct := by
    cases preimage <;> simp [preimageRow]

def holds (preimage held : Option ByteArray) : Bool :=
  match preimage with
  | some bytes => held.any fun other => decide (library.sha256 other = library.sha256 bytes)
  | none => held.isNone

def writer (raw : String) (preimage : Option ByteArray) (content : String) :
    Handler SandboxResult :=
  execute library root verify self ⟨"WRITE_FILE", writeArguments library raw content preimage⟩

/-- What a worker has seen at a path, and whether it has replaced a file. -/
structure Glance where
  seen : Option (Path × Option ByteArray) := none
  replaced : Bool := false

def Glance.note : (request : Call) → Except Errno request.Answer → Glance → Glance
  | .isFile path, .ok false, glance => { glance with seen := some (path, none) }
  | .read path, .ok bytes, glance => { glance with seen := some (path, some bytes) }
  | .replace _ _, .ok _, glance => { glance with replaced := true }
  | _, _, glance => glance

/-- The two workers, told apart by a flag. Any call may fail, and a worker may be
killed between two calls. -/
def writers (permits : Tree → List Glance → Glance → Call → Prop) :
    Setting FileTree.face Failure SandboxResult Bool Glance Tree where
  admits := fun _ _ => False
  serve := fun _ request before reply after =>
    ∃ failing, Call.serve failing request before = (reply, after)
  lose := fun _ before after => after = before
  start := {}
  note := Glance.note
  permits := permits

def started (raw : String) (preimage : Option ByteArray) (first second : String) (tree : Tree) :
    Pool FileTree.face Failure SandboxResult Bool Glance Tree where
  shared := tree
  threads := [⟨false, writer library root verify self raw preimage first, {}⟩,
    ⟨true, writer library root verify self raw preimage second, {}⟩]
  trace := []

/-- What a worker has seen at a path is still there when it replaces the file, and
what it writes does not satisfy the guard. A worker that has not looked may
replace anything. -/
def Undisturbed (preimage : Option ByteArray) (shared : Tree) (_others : List Glance)
    (noted : Glance) (request : Call) : Prop :=
  ∀ path bytes, request = .replace path bytes →
    (∀ found, noted.seen = some (path, found) → shared.file? path = found) ∧
      holds library preimage (some bytes) = false

end Writers

def reportsSuccess : Handler SandboxResult → Bool
  | .done result => result.success
  | _ => false

section Exclusion

variable {library : Library} {root : Path} {verify : Arguments → String → PolicyDecision}
  {self : WasmSandbox} {raw : String} {path : Path} {preimage : Option ByteArray}
  {permits : Tree → List Glance → Glance → Call → Prop} {noted : Glance}

def Checked (library : Library) (path : Path) (preimage : Option ByteArray) (noted : Glance) :
    Prop :=
  ∃ found, noted.seen = some (path, found) ∧ holds library preimage found = true

/-- What a writer does next: it replaces this path once, after a check, and
removes nothing. -/
def allowed (library : Library) (path : Path) (preimage : Option ByteArray) (request : Call)
    (noted : Glance) : Prop :=
  match request with
  | .replace other _ => other = path ∧ noted.replaced = false ∧ Checked library path preimage noted
  | .remove _ => False
  | _ => True

abbrev writing (library : Library) (path : Path) (preimage : Option ByteArray)
    (permits : Tree → List Glance → Glance → Call → Prop) : Machine FileTree.face Glance :=
  (writers permits).discipline (allowed library path preimage)

theorem wp_noted {request : Call} {post : request.Answer → Glance → Prop}
    {failed : Failure → Glance → Prop} (here : allowed library path preimage request noted)
    (next : ∀ reply, replied (post · (noted.note request reply))
      (fun errno => failed (.os errno) (noted.note request reply)) reply) :
    wp (writing library path preimage permits) (disk request) post failed noted := by
  rw [disk, wp_attempt, wp_perform]
  refine ⟨here, fun reply after taken => ?_⟩
  have replies := next reply
  change after = noted.note request reply at taken
  rw [taken]
  cases reply with
  | ok answer => exact replies
  | error errno => exact replies

theorem guard_arguments (content : String) :
    (writeArguments library raw content preimage).get "expected_sha256" =
        preimage.map (fun bytes => .str (library.sha256 bytes)) ∧
      (writeArguments library raw content preimage).get "expected_absent" =
        if preimage.isNone then some (.bool true) else none := by
  cases preimage with
  | none => exact ⟨rfl, rfl⟩
  | some bytes => exact ⟨rfl, rfl⟩

/-- A worker that passes the check has seen the guard satisfied. -/
theorem check_noted (content : String) :
    wp (writing library path preimage permits)
      (checkFilePrecondition library path (writeArguments library raw content preimage))
      (fun _ after => after.replaced = noted.replaced ∧ Checked library path preimage after)
      (fun _ _ => True) noted := by
  obtain ⟨digest, absent⟩ := @guard_arguments library raw preimage content
  have asking : allowed library path preimage (.isFile path) noted := trivial
  rw [checkFilePrecondition, digest, absent]
  cases preimage with
  | none =>
      rw [if_neg (by simp [Value.given]), wp_bind]
      apply wp_noted asking
      intro reply
      cases reply with
      | error errno => trivial
      | ok standing =>
          cases standing with
          | true => trivial
          | false => exact ⟨rfl, none, rfl, rfl⟩
  | some bytes =>
      rw [if_neg (by simp [Value.given]), wp_bind]
      apply wp_noted asking
      intro reply
      cases reply with
      | error errno => trivial
      | ok standing =>
          cases standing with
          | false => trivial
          | true =>
              have reading : allowed library path (some bytes) (.read path) noted := trivial
              rw [replied_ok, if_neg (by simp [Sandbox.isTrue]), if_neg (by simp [Value.given]),
                if_neg (by simp), fileSha256, wp_bind, wp_bind]
              apply wp_noted reading
              intro reply
              cases reply with
              | error errno => trivial
              | ok other =>
                  rw [replied_ok, wp_pure, wp_ite]
                  split
                  · rename_i same
                    refine ⟨rfl, some other, rfl, ?_⟩
                    simpa [holds, Value.equals] using same
                  · trivial

theorem handler_owes (contained : containPath root raw = .ok path) (content : String) :
    wp (writing library path preimage permits)
      (handleWriteFile library root (writeArguments library raw content preimage))
      (fun result noted => result.success = true → noted.replaced = true) (fun _ _ => True) {} := by
  have making : allowed library path preimage (.makedirs path.parent) {} := trivial
  rw [handleWriteFile]
  split
  · trivial
  · change wp _ (safePath library root (some (.str raw)) >>= _) _ _ _
    rw [wp_bind, safePath, pathText]
    simp only [contained]
    rw [wp_pure, explained, wp_attempt, wp_bind]
    apply wp_noted making
    intro reply
    cases reply with
    | error errno => trivial
    | ok _ =>
        rw [replied_ok, wp_bind]
        apply wp_mono (check_noted content)
        · rintro _ after ⟨idle, checked⟩
          have replacing : allowed library path preimage (.replace path (encode content)) after :=
            ⟨rfl, idle, checked⟩
          rw [wp_bind]
          apply wp_noted replacing
          intro reply
          cases reply with
          | error errno => trivial
          | ok _ => exact fun _ => rfl
        · intro failure after _
          cases failure <;> trivial

theorem writer_owes (contained : containPath root raw = .ok path) (content : String)
    (owner : Bool) :
    (writers permits).Owes (allowed library path preimage)
      (fun _ result noted => result.success = true → noted.replaced = true)
      ⟨owner, writer library root verify self raw preimage content, {}⟩ := by
  have builtin : IsFileTool library root (writeFileTool library root) := .inl rfl
  change wp _ (execute library root verify self ⟨(writeFileTool library root).name, _⟩) _ _ _
  rw [execute, wp_bind]
  cases valid : validate library root verify self
      ⟨(writeFileTool library root).name, writeArguments library raw content preimage⟩ with
  | error failure => trivial
  | ok tool =>
      rw [(validate_tool builtin valid).1, wp_outcome, replied_ok,
        if_pos (file_tool_found builtin).2, executeWorker, wp_attempt]
      apply wp_mono (handler_owes contained content)
      · exact fun _ _ met => met
      · exact fun _ _ _ => trivial

/-- At most one worker has replaced the file, and then it no longer satisfies
the guard. -/
def Exclusive (library : Library) (path : Path) (preimage : Option ByteArray) (shared : Tree)
    (_trace : List (Event FileTree.face)) (notes : List Glance) : Prop :=
  notes.countP Glance.replaced ≤ 1 ∧
    ∀ noted ∈ notes, noted.replaced = true → holds library preimage (shared.file? path) = false

theorem note_quiet {request : Call} (quiet : request.changes = false)
    (reply : Except Errno request.Answer) (noted : Glance) :
    (noted.note request reply).replaced = noted.replaced := by
  cases request with
  | replace other bytes => cases quiet
  | isFile other =>
      cases reply with
      | error errno => rfl
      | ok standing => cases standing <;> rfl
  | read other => cases reply <;> rfl
  | _ => rfl

/-- The worker that replaces the file is the only one that has. -/
theorem exclusive_replace {shared after : Tree} {trace : List (Event FileTree.face)}
    {left right : List Glance} {bytes : ByteArray}
    (held : Exclusive library path preimage shared trace (left ++ noted :: right))
    (fresh : holds library preimage (shared.file? path) = true)
    (spoils : holds library preimage (some bytes) = false)
    (changed : after.file? = Function.update shared.file? path (some bytes))
    (later : List (Event FileTree.face)) :
    Exclusive library path preimage after later
      (left ++ { noted with replaced := true } :: right) := by
  have nobody : ∀ other ∈ left ++ noted :: right, ¬ other.replaced = true := by
    intro other member replaced
    rw [held.2 other member replaced] at fresh
    cases fresh
  have none : (left ++ noted :: right).countP Glance.replaced = 0 :=
    List.countP_eq_zero.mpr nobody
  constructor
  · rw [List.countP_append, List.countP_cons] at none ⊢
    simp only [if_true]
    omega
  · intro other _ _
    rw [changed, Function.update_self]
    exact spoils

theorem exclusive_invariant :
    (writers (Undisturbed library preimage)).Invariant (allowed library path preimage)
      (Exclusive library path preimage) := by
  constructor
  · intro shared trace notes held
    constructor
    · rw [count_snoc]
      exact held.1
    · refine List.forall_mem_append.mpr ⟨held.2, List.forall_mem_singleton.mpr ?_⟩
      exact fun replaced => by cases replaced
  · intro shared after trace left right noted owner request reply held here permitted served
    obtain ⟨failing, served⟩ := served
    cases changes : request.changes with
    | false =>
        have files := serve_files failing changes shared
        rw [served] at files
        have same := note_quiet changes reply noted
        constructor
        · have few := held.1
          rw [count_around] at few ⊢
          change _ + (noted.note request reply).replaced.toNat ≤ 1
          rw [same]
          exact few
        · rw [files]
          apply Setting.every_replaced held.2
          intro replaced
          exact held.2 noted List.mem_append_cons_self (same.symm.trans replaced)
    | true =>
        cases request with
        | replace other bytes =>
            obtain ⟨same, idle, found, seen, holding⟩ := here
            subst same
            obtain ⟨undisturbed, spoils⟩ := permitted other bytes rfl
            have fresh : holds library preimage (shared.file? other) = true := by
              rw [undisturbed found seen]
              exact holding
            rcases serve_replace failing other bytes shared with
              ⟨errno, refused⟩ | ⟨next, done, changed⟩
            · rw [refused] at served
              cases served
              exact held
            · rw [done] at served
              cases served
              exact exclusive_replace held fresh spoils changed _
        | remove other => exact here.elim
        | _ => cases changes
  · intro shared after trace notes survivors owner held sublist lost
    change after = shared at lost
    rw [lost]
    exact ⟨(sublist.countP_le).trans held.1, fun noted member => held.2 noted (sublist.subset member)⟩

theorem success_noted {thread : Thread FileTree.face Failure SandboxResult Bool Glance}
    (owes : (writers permits).Owes (allowed library path preimage)
      (fun _ result noted => result.success = true → noted.replaced = true) thread)
    (success : reportsSuccess thread.program = true) : thread.noted.replaced = true := by
  obtain ⟨owner, program, noted⟩ := thread
  cases program with
  | done result => exact owes success
  | raise failure => cases success
  | call request next => cases success

/-- If nobody replaces what a worker has checked before it replaces that itself,
and no write satisfies the guard, at most one of the two writers reports success. -/
theorem guarded_writes_exclusive {first second : String} {tree : Tree}
    {pool : Pool FileTree.face Failure SandboxResult Bool Glance Tree}
    (contained : containPath root raw = .ok path)
    (run : Relation.ReflTransGen (writers (Undisturbed library preimage)).Step
      (started library root verify self raw preimage first second tree) pool) :
    (pool.threads.countP fun thread => reportsSuccess thread.program) ≤ 1 := by
  let setting := writers (Undisturbed library preimage)
  have owing : ∀ thread ∈ (started library root verify self raw preimage first second tree).threads,
      setting.Owes (allowed library path preimage)
        (fun _ result noted => result.success = true → noted.replaced = true) thread := by
    rw [started, List.forall_mem_cons, List.forall_mem_singleton]
    exact ⟨writer_owes contained first false, writer_owes contained second true⟩
  have obedient : ∀ owner program, setting.admits owner program →
      setting.Obeys (allowed library path preimage) program setting.start :=
    fun _ _ impossible => impossible.elim
  have sound : setting.Sound (allowed library path preimage) (Exclusive library path preimage)
      (started library root verify self raw preimage first second tree) := by
    constructor
    · exact fun thread member => owes_obeys (owing thread member)
    · constructor
      · simp [started]
      · intro noted member replaced
        simp only [started, List.map_cons, List.map_nil, List.mem_cons, List.not_mem_nil, or_false,
          or_self] at member
        rw [member] at replaced
        cases replaced
  have reached := Setting.run_sound exclusive_invariant obedient sound run
  have dutiful : ∀ owner program, setting.admits owner program →
      setting.Owes (allowed library path preimage)
        (fun _ result noted => result.success = true → noted.replaced = true)
        ⟨owner, program, setting.start⟩ :=
    fun _ _ impossible => impossible.elim
  have dues := run_owes dutiful owing run
  -- Every success is noted, and at most one note says so.
  calc
    (pool.threads.countP fun thread => reportsSuccess thread.program)
        ≤ pool.threads.countP fun thread => thread.noted.replaced := by
      apply List.countP_mono_left
      exact fun thread member success => success_noted (dues thread member) success
    _ = (pool.threads.map Thread.noted).countP Glance.replaced := by
      rw [List.countP_map]
      rfl
    _ ≤ 1 := reached.holds.1

def sampleAnswer (_owner : Bool) (request : Call) (shared : Tree) :
    Except Errno request.Answer × Tree :=
  Call.serve working request shared

/-- Both workers check before either of them replaces: both report success. -/
theorem concurrent_update_lost : ∃ pool,
    Relation.ReflTransGen (writers fun _ _ _ _ => True).Step
      (started sampleLibrary sampleRoot sampleVerify {} "a" none "b" "c" .bare) pool ∧
    (pool.threads.countP fun thread => reportsSuccess thread.program) = 2 := by
  refine ⟨[0, 0, 1, 1, 0, 1].foldl (runThread (writers fun _ _ _ _ => True) sampleAnswer
    fun _ _ _ _ => true) (started sampleLibrary sampleRoot sampleVerify {} "a" none "b" "c" .bare),
    run_threads_run ?_ ?_ _ _, ?_⟩
  · exact fun _ _ _ => ⟨working, rfl⟩
  · exact fun _ _ _ _ _ => trivial
  · decide +kernel

def undisturbedCheck (shared : Tree) (_others : List Glance) (noted : Glance)
    (request : Call) : Bool :=
  match request with
  | .replace path bytes =>
      (noted.seen.all fun found => found.1 ≠ path || shared.file? path = found.2) &&
        !holds sampleLibrary none (some bytes)
  | _ => true

/-- The second worker starts when the first one is done, and its check fails. -/
def inOrder : Pool FileTree.face Failure SandboxResult Bool Glance Tree :=
  [0, 0, 0, 1, 1].foldl
    (runThread (writers (Undisturbed sampleLibrary none)) sampleAnswer undisturbedCheck)
    (started sampleLibrary sampleRoot sampleVerify {} "a" none "b" "c" .bare)

theorem in_order_exclusive :
    (∀ thread ∈ inOrder.threads, thread.program.outcome?.isSome = true) ∧
      1 ≤ (inOrder.threads.countP fun thread => reportsSuccess thread.program) ∧
      (inOrder.threads.countP fun thread => reportsSuccess thread.program) ≤ 1 := by
  have contained : containPath sampleRoot "a" = .ok samplePath := by
    decide
  have honest : ∀ owner request shared, (writers (Undisturbed sampleLibrary none)).serve owner
      request shared (sampleAnswer owner request shared).1 (sampleAnswer owner request shared).2 :=
    fun _ _ _ => ⟨working, rfl⟩
  have checked : ∀ shared others noted request,
      undisturbedCheck shared others noted request = true →
        (writers (Undisturbed sampleLibrary none)).permits shared others noted request := by
    intro shared others noted request passed path bytes same
    rw [same, undisturbedCheck, Bool.and_eq_true, Bool.not_eq_true'] at passed
    refine ⟨fun found seen => ?_, passed.2⟩
    simpa [seen] using passed.1
  refine ⟨by decide +kernel, by decide +kernel, ?_⟩
  exact guarded_writes_exclusive contained (run_threads_run honest checked _ _)

end Exclusion

end SagaMind.GuardedWrites
