import SagaMind.Foundation.Pool

/-!
# Notes that decide nothing

More may be noted of the threads of a setting than the setting itself does. The
pools are the same, so that an invariant of the richer notes says what holds of
the plain ones, and a discipline of the richer notes is one for each part.
-/

namespace CallProgram

set_option autoImplicit false

variable {face : Interface} {Err Value Owner Local Extra State : Type}

def Setting.annotated (setting : Setting face Err Value Owner Local State) (start : Extra)
    (note : (request : face.Call) → face.Reply request → Extra → Extra) :
    Setting face Err Value Owner (Local × Extra) State where
  admits := setting.admits
  serve := setting.serve
  lose := setting.lose
  start := (setting.start, start)
  note := fun request reply noted =>
    (setting.note request reply noted.1, note request reply noted.2)
  permits := fun shared others noted request =>
    setting.permits shared (others.map Prod.fst) noted.1 request

def Thread.plain (thread : Thread face Err Value Owner (Local × Extra)) :
    Thread face Err Value Owner Local :=
  ⟨thread.owner, thread.program, thread.noted.1⟩

def Pool.plain (pool : Pool face Err Value Owner (Local × Extra) State) :
    Pool face Err Value Owner Local State :=
  ⟨pool.shared, pool.threads.map Thread.plain, pool.trace⟩

def Pool.marked (pool : Pool face Err Value Owner Local State) (extra : Extra) :
    Pool face Err Value Owner (Local × Extra) State :=
  { pool with threads := pool.threads.map fun thread =>
      ⟨thread.owner, thread.program, (thread.noted, extra)⟩ }

@[simp] theorem plain_marked (pool : Pool face Err Value Owner Local State) (extra : Extra) :
    (pool.marked extra).plain = pool := by
  simp [Pool.plain, Pool.marked, Thread.plain, Function.comp_def]

section Erasure

variable [DecidableEq Owner] {setting : Setting face Err Value Owner Local State} {start : Extra}
  {note : (request : face.Call) → face.Reply request → Extra → Extra}

omit [DecidableEq Owner] in
theorem noted_plain (threads : List (Thread face Err Value Owner (Local × Extra))) :
    (threads.map Thread.plain).map Thread.noted = (threads.map Thread.noted).map Prod.fst := by
  rw [List.map_map, List.map_map]
  rfl

theorem filter_plain (threads : List (Thread face Err Value Owner (Local × Extra)))
    (owner : Owner) :
    (threads.filter fun thread => thread.owner ≠ owner).map Thread.plain =
      (threads.map Thread.plain).filter fun thread => thread.owner ≠ owner := by
  rw [List.filter_map]
  rfl

/-- A step of the plain pool is one of the pool with more notes. -/
theorem step_annotated {before after : Pool face Err Value Owner Local State}
    (taken : setting.Step before after)
    {marked : Pool face Err Value Owner (Local × Extra) State} (same : marked.plain = before) :
    ∃ next, (setting.annotated start note).Step marked next ∧ next.plain = after := by
  obtain ⟨shared, threads, trace⟩ := marked
  cases taken with
  | spawn admitted =>
      cases same
      refine ⟨_, .spawn admitted, ?_⟩
      simp [Pool.plain, Thread.plain, Setting.annotated]
  | call permitted served =>
      rename_i left right owner request next noted reply earlier
      rw [Pool.plain, Pool.mk.injEq] at same
      obtain ⟨rfl, shape, rfl⟩ := same
      change threads.map Thread.plain = _ at shape
      obtain ⟨front, back, rfl, rfl, behind⟩ := List.map_eq_append_iff.mp shape
      obtain ⟨thread, rest, rfl, mine, rfl⟩ := List.map_eq_cons_iff.mp behind
      obtain ⟨owner, program, noted, extra⟩ := thread
      cases mine
      refine ⟨_, .call ?_ served, ?_⟩
      · change setting.permits shared
          (((front ++ rest).map Thread.noted).map Prod.fst) noted request
        rw [← noted_plain, List.map_append]
        exact permitted
      · simp [Pool.plain, Thread.plain, Setting.annotated]
  | crash lost =>
      cases same
      refine ⟨_, .crash lost, ?_⟩
      rw [Pool.plain, filter_plain]

theorem reachable_annotated {initial : State} {pool : Pool face Err Value Owner Local State}
    (reached : setting.Reachable initial pool) (start : Extra)
    (note : (request : face.Call) → face.Reply request → Extra → Extra) :
    ∃ marked, (setting.annotated start note).Reachable initial marked ∧ marked.plain = pool := by
  induction reached with
  | start => exact ⟨⟨initial, [], []⟩, .start, rfl⟩
  | step earlier taken ih =>
      obtain ⟨marked, reached, same⟩ := ih
      obtain ⟨next, moved, plain⟩ := step_annotated taken same
      exact ⟨next, reached.step moved, plain⟩

theorem run_annotated {first last : Pool face Err Value Owner Local State}
    (run : Relation.ReflTransGen setting.Step first last)
    {marked : Pool face Err Value Owner (Local × Extra) State} (same : marked.plain = first) :
    ∃ next, Relation.ReflTransGen (setting.annotated start note).Step marked next ∧
      next.plain = last := by
  induction run with
  | refl => exact ⟨marked, .refl, same⟩
  | tail earlier taken ih =>
      obtain ⟨between, moved, plain⟩ := ih
      obtain ⟨next, last, ended⟩ := step_annotated taken plain
      exact ⟨next, moved.tail last, ended⟩

end Erasure

section Disciplines

variable {setting : Setting face Err Value Owner Local State} {start : Extra}
  {note : (request : face.Call) → face.Reply request → Extra → Extra}
  {allowed : face.Call → Local → Prop} {extra : face.Call → Extra → Prop}

/-- Two disciplines of one program, by induction on the program. -/
theorem wp_annotated {program : Program face Err Value} {noted : Local} {other : Extra}
    {post : Value → Extra → Prop} {failed : Err → Extra → Prop}
    (obeys : setting.Obeys allowed program noted)
    (also : wp (noting extra note) program post failed other) :
    wp ((setting.annotated start note).discipline fun request noted =>
      allowed request noted.1 ∧ extra request noted.2) program
      (fun value noted => post value noted.2) (fun error noted => failed error noted.2)
      (noted, other) := by
  induction program generalizing noted other with
  | done value => exact also
  | raise error => exact also
  | call request next ih =>
      refine ⟨⟨obeys.1, also.1⟩, ?_⟩
      rintro reply after rfl
      exact ih reply (obeys.2 reply _ rfl) (also.2 reply _ rfl)

theorem Setting.Invariant.annotated
    {inv : State → List (Event face) → List Local → Prop}
    (invariant : Setting.Invariant setting allowed inv) :
    Setting.Invariant (setting.annotated start note)
      (fun request noted => allowed request noted.1 ∧ extra request noted.2)
      (fun shared trace notes => inv shared trace (notes.map Prod.fst)) where
  spawned := by
    intro shared trace notes holds
    rw [List.map_append]
    exact invariant.spawned holds
  called := by
    intro shared after trace left right noted owner request reply holds permitted others served
    rw [List.map_append, List.map_cons] at holds ⊢
    change setting.permits shared ((left ++ right).map Prod.fst) noted.1 request at others
    rw [List.map_append] at others
    exact invariant.called holds permitted.1 others served
  crashed := by
    intro shared after trace notes survivors owner holds fewer lost
    exact invariant.crashed holds (fewer.map Prod.fst) lost

end Disciplines

end CallProgram
