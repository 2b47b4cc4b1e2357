import SagaMind.Sandbox.Outcomes

/-!
# What the file tools reject

A handler may find no path, or a file precondition that does not hold, and stop
before it touches the workspace. Whether it does is a property of its arguments
and of the workspace that it finds.
-/

namespace SagaMind.Sandbox

open CallProgram FileTree KeyedTable

set_option autoImplicit false

def rejections : List String :=
  ["WRITE_FILE requires a 'path' argument.",
    "Only one file precondition may be supplied.",
    "File precondition failed: expected path to be absent.",
    "File precondition failed: content hash changed."]

def Failure.Rejects (failure : Failure) : Prop := ∃ message ∈ rejections, failure = .sandbox message

def Stops (failing : FileTree.Call → Option Errno) (tree : Tree) (handler : Handler SandboxResult) :
    Prop :=
  ∃ failure : Failure, failure.Rejects ∧
    handler.evaluate (FileTree.Call.serve failing) tree = (.error failure, tree)

section Causes

variable (library : Library) (root : Path) (failing : FileTree.Call → Option Errno) (tree : Tree)
  (args : Arguments)

def Fails (path : Path) : Prop :=
  (Value.given (args.get "expected_sha256") = true ∧
    Value.given (args.get "expected_absent") = true) ∨
  (isTrue (args.get "expected_absent") = true ∧ (tree.file? path).isSome = true) ∨
  (Value.given (args.get "expected_sha256") = true ∧ ∀ bytes, tree.file? path = some bytes →
    failing (.read path) = none ∧
      Value.equals (.str (library.sha256 bytes)) ((args.get "expected_sha256").getD .null) = false)

structure Holds (path : Path) : Prop where
  satisfied : Satisfied library (tree.file? path) args
  readable : Value.given (args.get "expected_sha256") = true → failing (.read path) = none

def WriteRejected : Prop :=
  Value.truthy (args.get "path") = false ∨
  Value.truthy (args.get "path") = true ∧
    (∃ content, (args.get "content").getD (.str "") = .str content) ∧
    ∃ path, Names library root args path ∧ failing (.makedirs path.parent) = none ∧
      tree.node path.parent = some .directory ∧ Fails library failing tree args path

def DeleteRejected : Prop :=
  Value.truthy (args.get "path") = true ∧
    ∃ path, Names library root args path ∧ Fails library failing tree args path

def RestoreRejected : Prop :=
  ∃ path, Names library root args path ∧
    (Fails library failing tree args path ∨
      Holds library failing tree args path ∧ Value.truthy (args.get "existed") = true ∧
        Value.truthy (args.get "path") = false)

end Causes

section Verdicts

variable {library : Library} {root : Path} {failing : FileTree.Call → Option Errno} {tree : Tree}
  {args : Arguments} {path : Path} {cause : Prop}

theorem holds_not_fails (holds : Holds library failing tree args path) :
    ¬Fails library failing tree args path := by
  rintro (both | ⟨absent, standing⟩ | ⟨guarded, differs⟩)
  · exact holds.satisfied.single both
  · rw [holds.satisfied.absent absent] at standing
    cases standing
  · obtain ⟨bytes, held, equal⟩ := holds.satisfied.unchanged guarded
    rw [(differs bytes held).2] at equal
    cases equal

theorem os_not_rejects (errno : Errno) : ¬(Failure.os errno).Rejects := by
  rintro ⟨message, _, same⟩
  cases same

theorem failed_not_rejects {prelude : List Char} (rest : String)
    (unlike : ∀ message ∈ rejections, ¬prelude <+: message.toList) :
    ¬(Failure.sandbox (String.ofList prelude ++ rest)).Rejects := by
  rintro ⟨message, listed, same⟩
  apply unlike message listed
  rw [← Failure.sandbox.inj same, String.toList_append, String.toList_ofList]
  exact List.prefix_append _ _

/-- A handler whose every end agrees with a cause stops for that cause. -/
theorem stops_iff {handler : Handler SandboxResult}
    (verdict : wp (operating failing) handler (fun _ _ => ¬cause)
      (fun failure after => (failure.Rejects ∧ after = tree) ↔ cause) tree) :
    Stops failing tree handler ↔ cause := by
  rw [wp_served_iff] at verdict
  unfold Stops
  generalize handler.evaluate (FileTree.Call.serve failing) tree = run at verdict ⊢
  obtain ⟨outcome, after⟩ := run
  cases outcome with
  | ok result =>
      constructor
      · rintro ⟨failure, _, same⟩
        cases same
      · exact fun holds => absurd holds verdict
  | error failure =>
      have agrees : (failure.Rejects ∧ after = tree) ↔ cause := verdict
      rw [← agrees]
      constructor
      · rintro ⟨other, rejects, same⟩
        cases same
        exact ⟨rejects, rfl⟩
      · rintro ⟨rejects, same⟩
        exact ⟨failure, rejects, by rw [same]⟩

/-- A check that did not pass: the failure is a rejection where the precondition
fails. -/
structure Unpassed (library : Library) (failing : FileTree.Call → Option Errno) (tree : Tree)
    (args : Arguments) (path : Path) (failure : Failure) (after : Tree) : Prop where
  untouched : after = tree
  broken : ¬Holds library failing tree args path
  agrees : failure.Rejects ↔ Fails library failing tree args path

theorem Fails.unpassed {message : String} (fails : Fails library failing tree args path)
    (listed : message ∈ rejections) :
    Unpassed library failing tree args path (.sandbox message) tree where
  untouched := rfl
  broken := fun holds => holds_not_fails holds fails
  agrees := ⟨fun _ => fails, fun _ => ⟨message, listed, rfl⟩⟩

/-- A check comes to the hash of the file: one precondition is given, and the
file stands. -/
structure Hashing (tree : Tree) (args : Arguments) (path : Path) (bytes : ByteArray) : Prop where
  single : ¬(Value.given (args.get "expected_sha256") = true ∧
    Value.given (args.get "expected_absent") = true)
  clear : isTrue (args.get "expected_absent") = true → tree.file? path = none
  guarded : Value.given (args.get "expected_sha256") = true
  held : tree.file? path = some bytes

/-- The hash decides, and a file that cannot be read is no rejection. -/
theorem Hashing.fails_iff {bytes : ByteArray} (hashing : Hashing tree args path bytes) :
    Fails library failing tree args path ↔ failing (.read path) = none ∧
      Value.equals (.str (library.sha256 bytes)) ((args.get "expected_sha256").getD .null) =
        false := by
  constructor
  · rintro (both | ⟨absent, standing⟩ | ⟨_, differs⟩)
    · exact absurd both hashing.single
    · rw [hashing.clear absent] at standing
      cases standing
    · exact differs bytes hashing.held
  · intro differs
    refine .inr (.inr ⟨hashing.guarded, fun other own => ?_⟩)
    rw [← Option.some.inj (hashing.held.symm.trans own)]
    exact differs

theorem hash_verdict {bytes : ByteArray} (hashing : Hashing tree args path bytes) :
    wp (operating failing) (do
        let digest ← fileSha256 library path
        if Value.equals (.str digest) ((args.get "expected_sha256").getD .null) = true then pure ()
        else .raise (.sandbox "File precondition failed: content hash changed."))
      (fun _ after => after = tree ∧ Holds library failing tree args path)
      (Unpassed library failing tree args path) tree := by
  rw [wp_bind, fileSha256, wp_bind, wp_disk]
  cases readable : failing (.read path) with
  | some errno =>
      simp only [FileTree.Call.serve, readable]
      constructor
      · rfl
      · intro holds
        rw [holds.readable hashing.guarded] at readable
        cases readable
      · rw [hashing.fails_iff, readable]
        refine iff_of_false (os_not_rejects errno) ?_
        rintro ⟨⟨⟩, -⟩
  | none =>
      have found := file_some.mp hashing.held
      simp only [FileTree.Call.serve, readable, FileTree.Call.carry, found, replied_ok]
      rw [wp_pure, wp_ite]
      split
      · rename_i equal
        exact ⟨rfl, ⟨hashing.single, hashing.clear, fun _ => ⟨bytes, hashing.held, equal⟩⟩,
          fun _ => readable⟩
      · rename_i differs
        rw [Bool.not_eq_true] at differs
        exact (hashing.fails_iff.mpr ⟨readable, differs⟩).unpassed (by decide)

/-- The check passes, or it does not and leaves the workspace alone. -/
theorem check_verdict :
    wp (operating failing) (checkFilePrecondition library path args)
      (fun _ after => after = tree ∧ Holds library failing tree args path)
      (Unpassed library failing tree args path) tree := by
  rw [checkFilePrecondition]
  split
  · rename_i both
    have fails : Fails library failing tree args path := .inl both
    exact fails.unpassed (by decide)
  · rename_i single
    rw [wp_bind, wp_is_file, wp_ite]
    split
    · rename_i absent
      have fails : Fails library failing tree args path := .inr (.inl absent)
      exact fails.unpassed (by decide)
    · rename_i free
      have clear : isTrue (args.get "expected_absent") = true → tree.file? path = none := by
        intro expected
        rw [not_and, Bool.not_eq_true, Option.isSome_eq_false_iff, Option.isNone_iff_eq_none]
          at free
        exact free expected
      rw [wp_ite]
      split
      · rename_i unguarded
        have spared : ¬Value.given (args.get "expected_sha256") = true := by simp [unguarded]
        exact ⟨rfl, ⟨single, clear, fun guarded => absurd guarded spared⟩,
          fun guarded => absurd guarded spared⟩
      · rename_i guarded
        rw [Bool.not_eq_false] at guarded
        rw [wp_ite]
        cases held : tree.file? path with
        | none =>
            rw [if_pos Option.isSome_none]
            have fails : Fails library failing tree args path :=
              .inr (.inr ⟨guarded, fun bytes own => absurd (held.symm.trans own) (by simp)⟩)
            exact fails.unpassed (by decide)
        | some bytes =>
            rw [if_neg (by simp)]
            exact hash_verdict ⟨single, clear, guarded, held⟩

theorem wp_disk_any {request : FileTree.Call} {post : request.Answer → Tree → Prop}
    {failed : Failure → Tree → Prop} (fails : ∀ errno after, failed (.os errno) after)
    (answers : ∀ answer after, post answer after) :
    wp (operating failing) (disk request) post failed tree := by
  rw [wp_disk]
  cases (FileTree.Call.serve failing request tree).1 with
  | ok answer => exact answers answer _
  | error errno => exact fails errno _

theorem delete_failed_not_rejects (text : String) :
    ¬(Failure.sandbox ("Failed to delete file: " ++ text)).Rejects :=
  @failed_not_rejects "Failed to delete file: ".toList text (by decide)

theorem write_failed_not_rejects (text : String) :
    ¬(Failure.sandbox ("Failed to write file: " ++ text)).Rejects :=
  @failed_not_rejects "Failed to write file: ".toList text (by decide)

theorem delete_verdict (contained : Names library root args path) :
    wp (operating failing) (handleDeleteFile library root args)
      (fun _ _ => ¬DeleteRejected library root failing tree args)
      (fun failure after => (failure.Rejects ∧ after = tree) ↔
        DeleteRejected library root failing tree args) tree := by
  have cause : DeleteRejected library root failing tree args ↔
      Value.truthy (args.get "path") = true ∧ Fails library failing tree args path := by
    refine and_congr_right fun _ => ⟨?_, fun fails => ⟨path, contained, fails⟩⟩
    rintro ⟨other, own, fails⟩
    rwa [Except.ok.inj (contained.symm.trans own)]
  rw [cause, handleDeleteFile]
  split
  · rename_i unnamed
    rw [wp_pure, unnamed]
    rintro ⟨⟨⟩, -⟩
  · rename_i named
    rw [Bool.not_eq_false] at named
    rw [wp_bind]
    apply wp_safe_ok contained
    rw [wp_bind]
    apply wp_mono check_verdict
    · rintro _ after ⟨same, holds⟩
      have spared : ¬(Value.truthy (args.get "path") = true ∧ Fails library failing tree args path) :=
        fun rejected => holds_not_fails holds rejected.2
      rw [wp_bind, wp_present, wp_ite]
      split
      · exact spared
      · rw [explained, wp_attempt, wp_bind]
        apply wp_disk_any
        · intro errno last
          exact iff_of_false (fun rejects => delete_failed_not_rejects _ rejects.1) spared
        · exact fun _ _ => spared
    · rintro failure after ⟨same, _, agrees⟩
      rw [agrees]
      exact ⟨fun rejects => ⟨named, rejects.1⟩, fun rejected => ⟨rejected.2, same⟩⟩

/-- The part of a write behind its directories, where the directory was missing
or stood. -/
theorem guarded_write_verdict {ready : Tree} {bytes : ByteArray} {result : SandboxResult}
    (cause : Prop) (spared : Holds library failing ready args path → ¬cause)
    (agrees : Fails library failing ready args path ∧ ready = tree ↔ cause) :
    wp (operating failing) (do
        checkFilePrecondition library path args
        let _ ← disk (.replace path bytes)
        pure result)
      (fun _ _ => ¬cause)
      (fun failure after => wp (operating failing) (match failure with
        | .os errno => .raise (.sandbox ("Failed to write file: " ++ library.strerror errno))
        | other => .raise other : Handler SandboxResult) (fun _ _ => ¬cause)
        (fun failure after => (failure.Rejects ∧ after = tree) ↔ cause) after) ready := by
  rw [wp_bind]
  apply wp_mono check_verdict
  · rintro _ after ⟨same, holds⟩
    rw [wp_bind]
    apply wp_disk_any
    · intro errno last
      exact iff_of_false (fun rejects => write_failed_not_rejects _ rejects.1) (spared holds)
    · exact fun _ _ => spared holds
  · rintro failure after ⟨same, _, fails⟩
    rw [same]
    cases failure with
    | os errno =>
        have spared : ¬cause := by
          rw [← agrees, ← fails]
          exact fun rejects => os_not_rejects errno rejects.1
        exact iff_of_false (fun rejects => write_failed_not_rejects _ rejects.1) spared
    | sandbox message =>
        rw [wp_raise, fails]
        exact agrees
    | value error =>
        rw [wp_raise, fails]
        exact agrees

/-- A write stops where it has no path, or where its precondition fails and no
directory was made before. -/
theorem write_verdict (contained : Names library root args path) :
    wp (operating failing) (handleWriteFile library root args)
      (fun _ _ => ¬WriteRejected library root failing tree args)
      (fun failure after => (failure.Rejects ∧ after = tree) ↔
        WriteRejected library root failing tree args) tree := by
  rw [handleWriteFile]
  split
  · rename_i unnamed
    exact iff_of_true ⟨⟨_, by decide, rfl⟩, rfl⟩ (.inl unnamed)
  · rename_i named
    rw [Bool.not_eq_false] at named
    split
    · rename_i content given
      have cause : WriteRejected library root failing tree args ↔
          failing (.makedirs path.parent) = none ∧ tree.node path.parent = some .directory ∧
            Fails library failing tree args path := by
        constructor
        · rintro (unnamed | ⟨_, _, other, own, clear, standing, fails⟩)
          · rw [named] at unnamed
            cases unnamed
          · rw [Except.ok.inj (contained.symm.trans own)]
            exact ⟨clear, standing, fails⟩
        · rintro ⟨clear, standing, fails⟩
          exact .inr ⟨named, ⟨content, given⟩, path, contained, clear, standing, fails⟩
      rw [wp_bind]
      apply wp_safe_ok contained
      rw [explained, wp_attempt, wp_bind, wp_disk]
      cases ready : failing (.makedirs path.parent) with
      | some errno =>
          simp only [FileTree.Call.serve, ready]
          apply iff_of_false
          · exact fun rejects => write_failed_not_rejects _ rejects.1
          · rw [cause, ready]
            rintro ⟨⟨⟩, -⟩
      | none =>
          simp only [FileTree.Call.serve, ready, FileTree.Call.carry]
          by_cases standing : tree.node path.parent = some .directory
          · rw [makedirs_standing standing]
            apply guarded_write_verdict
            · exact fun holds rejected => holds_not_fails holds (cause.mp rejected).2.2
            · rw [cause]
              exact ⟨fun rejects => ⟨ready, standing, rejects.1⟩, fun rejected => ⟨rejected.2.2, rfl⟩⟩
          · have spared : ¬WriteRejected library root failing tree args :=
              fun rejected => standing (cause.mp rejected).2.1
            cases blocked : tree.blocked path.parent with
            | true =>
                rw [Tree.makedirs, if_pos blocked]
                exact iff_of_false (fun rejects => write_failed_not_rejects _ rejects.1) spared
            | false =>
                have made := makedirs_makes blocked
                have done : (tree.makedirs path.parent).1 = .ok () := by
                  rw [Tree.makedirs, if_neg (by simp [blocked])]
                rw [done]
                apply guarded_write_verdict
                · exact fun _ => spared
                · refine iff_of_false (fun rejects => ?_) spared
                  rw [rejects.2] at made
                  exact standing made
    · rename_i other
      apply iff_of_false
      · rintro ⟨⟨message, listed, same⟩, _⟩
        cases same
        revert listed
        decide
      · rintro (unnamed | ⟨_, ⟨content, given⟩, _⟩)
        · rw [named] at unnamed
          cases unnamed
        · exact other content given

theorem unguarded_not_fails {handed : Arguments} (plain : handed.get "expected_sha256" = none)
    (free : handed.get "expected_absent" = none) : ¬Fails library failing tree handed path := by
  rw [Fails, plain, free]
  simp [Value.given, isTrue]

theorem names_kept {handed : Arguments} (contained : Names library root args path)
    (kept : handed.get "path" = some ((args.get "path").getD .null)) :
    Names library root handed path := by
  rw [Names, kept, path_text_handed]
  exact contained

theorem unguarded_write_iff {handed : Arguments} (plain : handed.get "expected_sha256" = none)
    (free : handed.get "expected_absent" = none) :
    WriteRejected library root failing tree handed ↔
      Value.truthy (handed.get "path") = false := by
  constructor
  · rintro (unnamed | ⟨_, _, other, _, _, _, fails⟩)
    · exact unnamed
    · exact absurd fails (unguarded_not_fails plain free)
  · exact .inl

/-- A restoration stops where its precondition fails, or where it has nowhere to
write. -/
theorem restore_verdict (contained : Names library root args path) :
    wp (operating failing) (handleRestoreFile library root args)
      (fun _ _ => ¬RestoreRejected library root failing tree args)
      (fun failure after => (failure.Rejects ∧ after = tree) ↔
        RestoreRejected library root failing tree args) tree := by
  have cause : RestoreRejected library root failing tree args ↔
      Fails library failing tree args path ∨ Holds library failing tree args path ∧
        Value.truthy (args.get "existed") = true ∧ Value.truthy (args.get "path") = false := by
    refine ⟨?_, fun rejected => ⟨path, contained, rejected⟩⟩
    rintro ⟨other, own, rejected⟩
    rwa [Except.ok.inj (contained.symm.trans own)]
  rw [handleRestoreFile, wp_bind]
  apply wp_safe_ok contained
  rw [wp_bind]
  apply wp_mono check_verdict
  · rintro _ after ⟨same, holds⟩
    rw [same, wp_ite]
    split
    · rename_i existed
      have passed : RestoreRejected library root failing tree args ↔
          Value.truthy (args.get "path") = false := by
        rw [cause]
        constructor
        · rintro (fails | rejected)
          · exact absurd fails (holds_not_fails holds)
          · exact rejected.2.2
        · exact fun unnamed => .inr ⟨holds, existed, unnamed⟩
      have writes : RestoreRejected library root failing tree args ↔
          WriteRejected library root failing tree
            ⟨[("path", (args.get "path").getD .null), ("content", (args.get "previous").getD .null)],
              by simp⟩ := by
        rw [passed, unguarded_write_iff rfl rfl, ← truthy_handed]
        rfl
      rw [wp_bind, writes]
      apply wp_mono (write_verdict (names_kept contained rfl))
      · exact fun _ _ spared => spared
      · exact fun _ _ agrees => agrees
    · rename_i fresh
      have spared : ¬RestoreRejected library root failing tree args := by
        rw [cause]
        rintro (fails | rejected)
        · exact holds_not_fails holds fails
        · exact fresh rejected.2.1
      rw [wp_bind]
      apply wp_mono (delete_verdict (names_kept contained rfl))
      · exact fun _ _ _ => spared
      · intro failure after agrees
        refine iff_of_false (fun rejects => ?_) spared
        obtain ⟨_, other, _, fails⟩ := agrees.mp rejects
        exact unguarded_not_fails rfl rfl fails
  · rintro failure after ⟨same, broken, agrees⟩
    rw [agrees, cause]
    constructor
    · exact fun rejects => .inl rejects.1
    · rintro (fails | rejected)
      · exact ⟨fails, same⟩
      · exact absurd rejected.1 broken

end Verdicts

end SagaMind.Sandbox
