import Mathlib.Logic.Relation
import SagaMind.Foundation.Triple

/-!
# Pools of programs

Any number of threads run programs over one shared state, one call at a time
in any order. Threads may be started at any time, and an owner may die with
all of its threads. What a thread has done so far is noted in a local state
that no reply depends on. An invariant over the shared state, the trace of
calls and the local states carries every interleaving.
-/

namespace CallProgram

set_option autoImplicit false

structure Thread (face : Interface) (Err Value Owner Local : Type) where
  owner : Owner
  program : Program face Err Value
  noted : Local

structure Pool (face : Interface) (Err Value Owner Local State : Type) where
  shared : State
  threads : List (Thread face Err Value Owner Local)
  trace : List (Event face)

/-- What may happen in a pool: which programs start, how calls are answered,
what dies with an owner, what is noted of a call, and which calls the runs
under study make. -/
structure Setting (face : Interface) (Err Value Owner Local State : Type) where
  admits : Owner → Program face Err Value → Prop
  serve : Owner → (request : face.Call) → State → face.Reply request → State → Prop
  lose : Owner → State → State → Prop
  start : Local
  note : (request : face.Call) → face.Reply request → Local → Local
  permits : State → List Local → Local → face.Call → Prop

variable {face : Interface} {Err Value Owner Local State : Type}

namespace Setting

inductive Step [DecidableEq Owner] (setting : Setting face Err Value Owner Local State) :
    Pool face Err Value Owner Local State → Pool face Err Value Owner Local State → Prop
  | spawn {shared threads trace owner program} (admitted : setting.admits owner program) :
      Step setting ⟨shared, threads, trace⟩
        ⟨shared, threads ++ [⟨owner, program, setting.start⟩], trace⟩
  | call {shared after left right owner request next noted reply trace}
      (permitted : setting.permits shared ((left ++ right).map Thread.noted) noted request)
      (served : setting.serve owner request shared reply after) :
      Step setting ⟨shared, left ++ ⟨owner, .call request next, noted⟩ :: right, trace⟩
        ⟨after, left ++ ⟨owner, next reply, setting.note request reply noted⟩ :: right,
          trace ++ [⟨request, reply⟩]⟩
  | crash {shared after threads trace owner} (lost : setting.lose owner shared after) :
      Step setting ⟨shared, threads, trace⟩
        ⟨after, threads.filter fun thread => thread.owner ≠ owner, trace⟩

inductive Reachable [DecidableEq Owner] (setting : Setting face Err Value Owner Local State)
    (initial : State) : Pool face Err Value Owner Local State → Prop
  | start : Reachable setting initial ⟨initial, [], []⟩
  | step {before after} (earlier : Reachable setting initial before)
      (taken : setting.Step before after) : Reachable setting initial after

def discipline (setting : Setting face Err Value Owner Local State)
    (allowed : face.Call → Local → Prop) : Machine face Local where
  allowed := allowed
  step := fun request before reply after => after = setting.note request reply before

abbrev Obeys (setting : Setting face Err Value Owner Local State)
    (allowed : face.Call → Local → Prop) (program : Program face Err Value)
    (noted : Local) : Prop :=
  wp (setting.discipline allowed) program (fun _ _ => True) (fun _ _ => True) noted

theorem obeys_reply {setting : Setting face Err Value Owner Local State}
    {allowed : face.Call → Local → Prop} {request : face.Call}
    {next : face.Reply request → Program face Err Value} {noted : Local}
    (obeys : setting.Obeys allowed (.call request next) noted) (reply : face.Reply request) :
    setting.Obeys allowed (next reply) (setting.note request reply noted) :=
  obeys.2 reply _ rfl

/-- An invariant of the shared state, the trace and the notes of all threads. -/
structure Invariant (setting : Setting face Err Value Owner Local State)
    (allowed : face.Call → Local → Prop) (inv : State → List (Event face) → List Local → Prop) :
    Prop where
  spawned : ∀ {shared trace notes}, inv shared trace notes →
    inv shared trace (notes ++ [setting.start])
  called : ∀ {shared after trace left right noted owner request reply},
    inv shared trace (left ++ noted :: right) → allowed request noted →
    setting.permits shared (left ++ right) noted request →
    setting.serve owner request shared reply after →
    inv after (trace ++ [⟨request, reply⟩]) (left ++ setting.note request reply noted :: right)
  crashed : ∀ {shared after trace notes survivors owner}, inv shared trace notes →
    survivors.Sublist notes → setting.lose owner shared after → inv after trace survivors

structure Sound (setting : Setting face Err Value Owner Local State)
    (allowed : face.Call → Local → Prop) (inv : State → List (Event face) → List Local → Prop)
    (pool : Pool face Err Value Owner Local State) : Prop where
  obeys : ∀ thread ∈ pool.threads, setting.Obeys allowed thread.program thread.noted
  holds : inv pool.shared pool.trace (pool.threads.map Thread.noted)

theorem every_replaced {Item : Type} {property : Item → Prop} {left right : List Item}
    {item next : Item} (every : ∀ other ∈ left ++ item :: right, property other)
    (fresh : property next) : ∀ other ∈ left ++ next :: right, property other := by
  rw [List.forall_mem_append, List.forall_mem_cons] at every ⊢
  exact ⟨every.1, fresh, every.2.2⟩

variable [DecidableEq Owner] {setting : Setting face Err Value Owner Local State}
  {allowed : face.Call → Local → Prop} {inv : State → List (Event face) → List Local → Prop}

theorem step_sound (invariant : Invariant setting allowed inv)
    (obedient : ∀ owner program, setting.admits owner program →
      setting.Obeys allowed program setting.start)
    {before after : Pool face Err Value Owner Local State}
    (sound : Sound setting allowed inv before) (taken : setting.Step before after) :
    Sound setting allowed inv after := by
  cases taken with
  | spawn admitted =>
      constructor
      · exact List.forall_mem_append.mpr
          ⟨sound.obeys, List.forall_mem_singleton.mpr (obedient _ _ admitted)⟩
      · have holds := invariant.spawned sound.holds
        simpa using holds
  | call permitted served =>
      rename_i left right owner request next noted reply trace
      have own := sound.obeys _ List.mem_append_cons_self
      constructor
      · exact every_replaced sound.obeys (obeys_reply own reply)
      · have holds := sound.holds
        simp only [List.map_append, List.map_cons] at holds permitted ⊢
        exact invariant.called holds own.1 permitted served
  | crash lost =>
      constructor
      · intro thread member
        exact sound.obeys thread (List.mem_filter.mp member).1
      · exact invariant.crashed sound.holds (List.filter_sublist.map _) lost

theorem reachable_sound (invariant : Invariant setting allowed inv)
    (obedient : ∀ owner program, setting.admits owner program →
      setting.Obeys allowed program setting.start)
    {initial : State} (holds : inv initial [] [])
    {pool : Pool face Err Value Owner Local State} (reached : setting.Reachable initial pool) :
    Sound setting allowed inv pool := by
  induction reached with
  | start => exact ⟨fun thread member => absurd member List.not_mem_nil, holds⟩
  | step earlier taken ih => exact step_sound invariant obedient ih taken

theorem run_sound (invariant : Invariant setting allowed inv)
    (obedient : ∀ owner program, setting.admits owner program →
      setting.Obeys allowed program setting.start)
    {first pool : Pool face Err Value Owner Local State} (sound : Sound setting allowed inv first)
    (run : Relation.ReflTransGen setting.Step first pool) : Sound setting allowed inv pool := by
  induction run with
  | refl => exact sound
  | tail earlier taken ih => exact step_sound invariant obedient ih taken

theorem reachable_run {initial : State} {pool last : Pool face Err Value Owner Local State}
    (reached : setting.Reachable initial pool)
    (run : Relation.ReflTransGen setting.Step pool last) : setting.Reachable initial last := by
  induction run with
  | refl => exact reached
  | tail earlier taken ih => exact ih.step taken

end Setting

section Duties

variable {face : Interface} {Err Value Owner Local State : Type}

/-- What a thread still owes, whatever it is answered: only allowed calls, and a
value that its notes account for. -/
abbrev Setting.Owes (setting : Setting face Err Value Owner Local State)
    (allowed : face.Call → Local → Prop) (post : Owner → Value → Local → Prop)
    (thread : Thread face Err Value Owner Local) : Prop :=
  wp (setting.discipline allowed) thread.program (post thread.owner) (fun _ _ => True) thread.noted

variable [DecidableEq Owner] {setting : Setting face Err Value Owner Local State}
  {allowed : face.Call → Local → Prop} {post : Owner → Value → Local → Prop}

theorem step_owes
    (dutiful : ∀ owner program, setting.admits owner program →
      setting.Owes allowed post ⟨owner, program, setting.start⟩)
    {before after : Pool face Err Value Owner Local State}
    (owing : ∀ thread ∈ before.threads, setting.Owes allowed post thread)
    (taken : setting.Step before after) :
    ∀ thread ∈ after.threads, setting.Owes allowed post thread := by
  cases taken with
  | spawn admitted =>
      exact List.forall_mem_append.mpr
        ⟨owing, List.forall_mem_singleton.mpr (dutiful _ _ admitted)⟩
  | call permitted served =>
      have own := owing _ List.mem_append_cons_self
      exact Setting.every_replaced owing (own.2 _ _ rfl)
  | crash lost =>
      intro thread member
      exact owing thread (List.mem_filter.mp member).1

theorem run_owes
    (dutiful : ∀ owner program, setting.admits owner program →
      setting.Owes allowed post ⟨owner, program, setting.start⟩)
    {first pool : Pool face Err Value Owner Local State}
    (owing : ∀ thread ∈ first.threads, setting.Owes allowed post thread)
    (run : Relation.ReflTransGen setting.Step first pool) :
    ∀ thread ∈ pool.threads, setting.Owes allowed post thread := by
  induction run with
  | refl => exact owing
  | tail earlier taken ih => exact step_owes dutiful ih taken

omit [DecidableEq Owner] in
theorem owes_obeys {thread : Thread face Err Value Owner Local}
    (owes : setting.Owes allowed post thread) :
    setting.Obeys allowed thread.program thread.noted :=
  wp_mono owes (fun _ _ _ => trivial) fun _ _ _ => trivial

end Duties

section Seats

variable {face : Interface} {Err Value Owner Local State : Type}

abbrev Thread.seat (thread : Thread face Err Value Owner Local) : Owner × Local :=
  (thread.owner, thread.noted)

/-- What the rest of a thread owes when its calls and its outcome depend on its
owner. -/
abbrev Setting.Serves (setting : Setting face Err Value Owner Local State)
    (allowed : Owner → face.Call → Local → Prop) (post : Owner → Value → Local → Prop)
    (failed : Owner → Err → Local → Prop) (thread : Thread face Err Value Owner Local) : Prop :=
  wp (setting.discipline (allowed thread.owner)) thread.program (post thread.owner)
    (failed thread.owner) thread.noted

structure SeatInvariant [DecidableEq Owner] (setting : Setting face Err Value Owner Local State)
    (allowed : Owner → face.Call → Local → Prop) (inv : State → List (Owner × Local) → Prop) :
    Prop where
  spawned : ∀ {shared seats owner program}, inv shared seats → setting.admits owner program →
    inv shared (seats ++ [(owner, setting.start)])
  called : ∀ {shared after left right noted owner request reply},
    inv shared (left ++ (owner, noted) :: right) → allowed owner request noted →
    setting.permits shared ((left ++ right).map Prod.snd) noted request →
    setting.serve owner request shared reply after →
    inv after (left ++ (owner, setting.note request reply noted) :: right)
  crashed : ∀ {shared after seats owner}, inv shared seats → setting.lose owner shared after →
    inv after (seats.filter fun seat => seat.1 ≠ owner)

variable [DecidableEq Owner] {setting : Setting face Err Value Owner Local State}
  {allowed : Owner → face.Call → Local → Prop} {post : Owner → Value → Local → Prop}
  {failed : Owner → Err → Local → Prop} {inv : State → List (Owner × Local) → Prop}

theorem step_seats (invariant : SeatInvariant setting allowed inv)
    (dutiful : ∀ owner program, setting.admits owner program →
      setting.Serves allowed post failed ⟨owner, program, setting.start⟩)
    {before after : Pool face Err Value Owner Local State}
    (serving : ∀ thread ∈ before.threads, setting.Serves allowed post failed thread)
    (holds : inv before.shared (before.threads.map Thread.seat))
    (taken : setting.Step before after) :
    (∀ thread ∈ after.threads, setting.Serves allowed post failed thread) ∧
      inv after.shared (after.threads.map Thread.seat) := by
  cases taken with
  | spawn admitted =>
      constructor
      · exact List.forall_mem_append.mpr
          ⟨serving, List.forall_mem_singleton.mpr (dutiful _ _ admitted)⟩
      · have more := invariant.spawned holds admitted
        simpa using more
  | call permitted served =>
      rename_i left right owner request next noted reply trace
      have own := serving _ List.mem_append_cons_self
      constructor
      · exact Setting.every_replaced serving (own.2 _ _ rfl)
      · simp only [List.map_append, List.map_cons] at holds ⊢
        have others : (left ++ right).map Thread.noted =
            (left.map Thread.seat ++ right.map Thread.seat).map Prod.snd := by
          simp [List.map_map, Function.comp_def]
        rw [others] at permitted
        exact invariant.called holds own.1 permitted served
  | crash lost =>
      constructor
      · intro thread member
        exact serving thread (List.mem_filter.mp member).1
      · have survivors := invariant.crashed holds lost
        rw [List.filter_map] at survivors
        exact survivors

theorem reachable_seats (invariant : SeatInvariant setting allowed inv)
    (dutiful : ∀ owner program, setting.admits owner program →
      setting.Serves allowed post failed ⟨owner, program, setting.start⟩)
    {initial : State} (holds : inv initial []) {pool : Pool face Err Value Owner Local State}
    (reached : setting.Reachable initial pool) :
    (∀ thread ∈ pool.threads, setting.Serves allowed post failed thread) ∧
      inv pool.shared (pool.threads.map Thread.seat) := by
  induction reached with
  | start => exact ⟨fun thread member => absurd member List.not_mem_nil, holds⟩
  | step earlier taken ih => exact step_seats invariant dutiful ih.1 ih.2 taken

theorem run_seats (invariant : SeatInvariant setting allowed inv)
    (dutiful : ∀ owner program, setting.admits owner program →
      setting.Serves allowed post failed ⟨owner, program, setting.start⟩)
    {first last : Pool face Err Value Owner Local State}
    (serving : ∀ thread ∈ first.threads, setting.Serves allowed post failed thread)
    (holds : inv first.shared (first.threads.map Thread.seat))
    (run : Relation.ReflTransGen setting.Step first last) :
    (∀ thread ∈ last.threads, setting.Serves allowed post failed thread) ∧
      inv last.shared (last.threads.map Thread.seat) := by
  induction run with
  | refl => exact ⟨serving, holds⟩
  | tail earlier taken ih => exact step_seats invariant dutiful ih.1 ih.2 taken

end Seats

section Restriction

variable {face : Interface} {Err Value Owner Local State : Type}

def Setting.only (setting : Setting face Err Value Owner Local State) (moves : Owner → Prop) :
    Setting face Err Value Owner Local State :=
  { setting with
    serve := fun owner request before reply after =>
      moves owner ∧ setting.serve owner request before reply after
    lose := fun owner before after => moves owner ∧ setting.lose owner before after }

variable [DecidableEq Owner] {setting : Setting face Err Value Owner Local State}
  {moves : Owner → Prop} {allowed : Owner → face.Call → Local → Prop}
  {post : Owner → Value → Local → Prop} {failed : Owner → Err → Local → Prop}
  {inv : State → List (Owner × Local) → Prop} {keeps : State → State → Prop}

theorem only_step {before after : Pool face Err Value Owner Local State}
    (taken : (setting.only moves).Step before after) : setting.Step before after := by
  cases taken with
  | spawn admitted => exact .spawn admitted
  | call permitted served => exact .call permitted served.2
  | crash lost => exact .crash lost.2

/-- The run lemma for what the calls of some owners leave of the shared state. -/
theorem only_run (reflexive : ∀ state, keeps state state)
    (transitive : ∀ {before between after}, keeps before between → keeps between after →
      keeps before after)
    (invariant : SeatInvariant setting allowed inv)
    (dutiful : ∀ owner program, setting.admits owner program →
      setting.Serves allowed post failed ⟨owner, program, setting.start⟩)
    (called : ∀ {shared after seats noted owner request reply}, inv shared seats →
      (owner, noted) ∈ seats → allowed owner request noted → moves owner →
      setting.serve owner request shared reply after → keeps shared after)
    (crashed : ∀ {shared after owner}, moves owner → setting.lose owner shared after →
      keeps shared after)
    {initial : State} (holds : inv initial [])
    {first last : Pool face Err Value Owner Local State}
    (reached : setting.Reachable initial first)
    (run : Relation.ReflTransGen (setting.only moves).Step first last) :
    keeps first.shared last.shared := by
  have whole : setting.Reachable initial last ∧ keeps first.shared last.shared := by
    induction run with
    | refl => exact ⟨reached, reflexive _⟩
    | tail earlier taken ih =>
        refine ⟨ih.1.step (only_step taken), transitive ih.2 ?_⟩
        obtain ⟨serving, stands⟩ := reachable_seats invariant dutiful holds ih.1
        cases taken with
        | spawn admitted => exact reflexive _
        | call permitted served =>
            have own := serving _ List.mem_append_cons_self
            exact called stands (List.mem_map_of_mem List.mem_append_cons_self) own.1 served.1
              served.2
        | crash lost => exact crashed lost.1 lost.2
  exact whole.2

end Restriction

section Schedules

variable {face : Interface} {Err Value Owner Local State : Type}
  (setting : Setting face Err Value Owner Local State)
  (answer : Owner → (request : face.Call) → State → face.Reply request × State)
  (check : State → List Local → Local → face.Call → Bool)

/-- Let one thread make its next call, answered in one way, if the check
passes. -/
def runThread (pool : Pool face Err Value Owner Local State) (index : Nat) :
    Pool face Err Value Owner Local State :=
  match pool.threads[index]? with
  | some ⟨owner, .call request next, noted⟩ =>
      let others := pool.threads.take index ++ pool.threads.drop (index + 1)
      if check pool.shared (others.map Thread.noted) noted request then
        let reply := (answer owner request pool.shared).1
        { shared := (answer owner request pool.shared).2
          threads := pool.threads.set index ⟨owner, next reply, setting.note request reply noted⟩
          trace := pool.trace ++ [⟨request, reply⟩] }
      else pool
  | _ => pool

def scheduled (initial : State) (programs : List (Owner × Program face Err Value))
    (order : List Nat) : Pool face Err Value Owner Local State :=
  order.foldl (runThread setting answer check)
    ⟨initial, programs.map fun entry => ⟨entry.1, entry.2, setting.start⟩, []⟩

variable {setting answer check} [DecidableEq Owner]

theorem run_thread_runs
    (honest : ∀ owner request shared, setting.serve owner request shared
      (answer owner request shared).1 (answer owner request shared).2)
    (sound : ∀ shared others noted request, check shared others noted request = true →
      setting.permits shared others noted request)
    (pool : Pool face Err Value Owner Local State) (index : Nat) :
    Relation.ReflTransGen setting.Step pool (runThread setting answer check pool index) := by
  unfold runThread
  split
  · rename_i owner request next noted found
    obtain ⟨inside, same⟩ := List.getElem?_eq_some_iff.mp found
    have shape : pool = ⟨pool.shared, pool.threads.take index ++
        ⟨owner, .call request next, noted⟩ :: pool.threads.drop (index + 1), pool.trace⟩ := by
      rw [← same, List.getElem_cons_drop, List.take_append_drop]
    simp only
    split
    · rename_i passed
      have moved : setting.Step ⟨pool.shared, pool.threads.take index ++
          ⟨owner, .call request next, noted⟩ :: pool.threads.drop (index + 1), pool.trace⟩ _ :=
        .call (sound _ _ _ _ passed) (honest owner request pool.shared)
      rw [← shape, ← if_pos inside (t := _ ++ _ :: _), ← List.set_eq_take_append_cons_drop]
        at moved
      exact .single moved
    · exact .refl
  · exact .refl

theorem run_threads_run
    (honest : ∀ owner request shared, setting.serve owner request shared
      (answer owner request shared).1 (answer owner request shared).2)
    (sound : ∀ shared others noted request, check shared others noted request = true →
      setting.permits shared others noted request)
    (pool : Pool face Err Value Owner Local State) (order : List Nat) :
    Relation.ReflTransGen setting.Step pool
      (order.foldl (runThread setting answer check) pool) := by
  induction order generalizing pool with
  | nil => exact .refl
  | cons index rest ih => exact (run_thread_runs honest sound pool index).trans (ih _)

theorem spawned_reachable {initial : State} (programs : List (Owner × Program face Err Value))
    (admitted : ∀ entry ∈ programs, setting.admits entry.1 entry.2)
    {earlier : List (Thread face Err Value Owner Local)}
    (reached : setting.Reachable initial ⟨initial, earlier, []⟩) :
    setting.Reachable initial ⟨initial, earlier ++ programs.map fun entry =>
      ⟨entry.1, entry.2, setting.start⟩, []⟩ := by
  induction programs generalizing earlier with
  | nil => simpa using reached
  | cons entry rest ih =>
      have spawned := reached.step (.spawn (admitted entry (List.mem_cons_self ..)))
      have all := ih (fun other member => admitted other (List.mem_cons_of_mem _ member)) spawned
      simpa using all

theorem scheduled_reachable
    (honest : ∀ owner request shared, setting.serve owner request shared
      (answer owner request shared).1 (answer owner request shared).2)
    (sound : ∀ shared others noted request, check shared others noted request = true →
      setting.permits shared others noted request)
    (initial : State) {programs : List (Owner × Program face Err Value)}
    (admitted : ∀ entry ∈ programs, setting.admits entry.1 entry.2) (order : List Nat) :
    setting.Reachable initial (scheduled setting answer check initial programs order) := by
  have empty : setting.Reachable initial ⟨initial, [], []⟩ := .start
  have spawned := spawned_reachable programs admitted empty
  rw [List.nil_append] at spawned
  exact Setting.reachable_run spawned (run_threads_run honest sound _ order)

end Schedules

section Counting

variable {Item Happening : Type}

theorem count_around (property : Item → Bool) (left right : List Item) (item : Item) :
    (left ++ item :: right).countP property =
      (left ++ right).countP property + (property item).toNat := by
  rw [List.countP_append, List.countP_append, List.countP_cons]
  cases property item <;> simp
  omega

theorem count_snoc (property : Item → Bool) (items : List Item) (item : Item) :
    (items ++ [item]).countP property = items.countP property + (property item).toNat := by
  rw [List.countP_append, List.countP_singleton]
  cases property item <;> rfl

/-- Happenings of the past and tokens for happenings to come share a budget.
One call may turn its token into a happening, and may take a token when it
raises the budget. -/
theorem budget_advance (happens : Happening → Bool) (token : Item → Bool)
    {trace : List Happening} {left right : List Item} {noted next : Item} {happening : Happening}
    {old new : Nat} (spent : trace.countP happens + (left ++ noted :: right).countP token ≤ old)
    (cost : (happens happening).toNat + (token next).toNat + old ≤ (token noted).toNat + new) :
    (trace ++ [happening]).countP happens + (left ++ next :: right).countP token ≤ new := by
  rw [count_around] at spent
  rw [count_snoc, count_around]
  omega

end Counting

end CallProgram
