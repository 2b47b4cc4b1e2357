import SagaMind.Foundation.Program

/-!
# Weakest preconditions for runs that a crash may cut

A machine answers calls on a state. `wp` asks of a program that every call it
makes is allowed in the state where it makes it and that it ends in its
postcondition, for every reply the machine may give. A crash strikes between
two calls, so an invariant of crash states is an `allowed` that ignores the
call, and the rule for restarts follows from the one for single runs.
-/

namespace CallProgram

set_option autoImplicit false

structure Machine (face : Interface) (State : Type) where
  allowed : face.Call → State → Prop
  step : (request : face.Call) → State → face.Reply request → State → Prop

variable {face : Interface} {State Err Other Value Next : Type}

def wp (machine : Machine face State) (program : Program face Err Value)
    (post : Value → State → Prop) (failed : Err → State → Prop) (state : State) : Prop :=
  match program with
  | .done value => post value state
  | .raise error => failed error state
  | .call request next => machine.allowed request state ∧
      ∀ reply after, machine.step request state reply after →
        wp machine (next reply) post failed after

def replied {Fault Answer : Type} (post : Answer → Prop) (failed : Fault → Prop) :
    Except Fault Answer → Prop
  | .ok answer => post answer
  | .error fault => failed fault

@[simp] theorem replied_ok {Fault Answer : Type} (post : Answer → Prop)
    (failed : Fault → Prop) (answer : Answer) :
    replied post failed (.ok answer) ↔ post answer := Iff.rfl

@[simp] theorem replied_error {Fault Answer : Type} (post : Answer → Prop)
    (failed : Fault → Prop) (fault : Fault) :
    replied post failed (.error fault) ↔ failed fault := Iff.rfl

section Rules

variable {machine : Machine face State}

@[simp] theorem wp_done (value : Value) (post : Value → State → Prop)
    (failed : Err → State → Prop) (state : State) :
    wp machine (.done value) post failed state ↔ post value state := Iff.rfl

@[simp] theorem wp_pure (value : Value) (post : Value → State → Prop)
    (failed : Err → State → Prop) (state : State) :
    wp machine (pure value) post failed state ↔ post value state := Iff.rfl

@[simp] theorem wp_raise (error : Err) (post : Value → State → Prop)
    (failed : Err → State → Prop) (state : State) :
    wp machine (.raise error) post failed state ↔ failed error state := Iff.rfl

@[simp] theorem wp_outcome (outcome : Except Err Value) (post : Value → State → Prop)
    (failed : Err → State → Prop) (state : State) :
    wp machine (Program.ended outcome) post failed state ↔
      replied (post · state) (failed · state) outcome := by
  cases outcome <;> rfl

theorem wp_bind_iff (program : Program face Err Value)
    (rest : Value → Program face Err Next) (post : Next → State → Prop)
    (failed : Err → State → Prop) (state : State) :
    wp machine (program.bind rest) post failed state ↔
      wp machine program (fun value => wp machine (rest value) post failed) failed state := by
  induction program generalizing state with
  | done value => rfl
  | raise error => rfl
  | call request next ih =>
      simp only [Program.bind, wp]
      exact and_congr_right fun _ => forall_congr' fun reply => forall_congr' fun after =>
        imp_congr_right fun _ => ih reply after

@[simp] theorem wp_bind (program : Program face Err Value)
    (rest : Value → Program face Err Next) (post : Next → State → Prop)
    (failed : Err → State → Prop) (state : State) :
    wp machine (program >>= rest) post failed state ↔
      wp machine program (fun value => wp machine (rest value) post failed) failed state :=
  wp_bind_iff program rest post failed state

@[simp] theorem wp_attempt (program : Program face Err Value)
    (handler : Err → Program face Other Value) (post : Value → State → Prop)
    (failed : Other → State → Prop) (state : State) :
    wp machine (program.attempt handler) post failed state ↔
      wp machine program post (fun error => wp machine (handler error) post failed) state := by
  induction program generalizing state with
  | done value => rfl
  | raise error => rfl
  | call request next ih =>
      simp only [Program.attempt, wp]
      exact and_congr_right fun _ => forall_congr' fun reply => forall_congr' fun after =>
        imp_congr_right fun _ => ih reply after

@[simp] theorem wp_caught (program : Program face Err Value)
    (post : Except Err Value → State → Prop) (failed : Other → State → Prop) (state : State) :
    wp machine program.caught post failed state ↔
      wp machine program (fun value => post (.ok value)) (fun error => post (.error error))
        state := by
  rw [Program.caught, wp_attempt, wp_bind_iff]
  rfl

@[simp] theorem wp_ite {condition : Prop} [Decidable condition]
    (yes no : Program face Err Value) (post : Value → State → Prop)
    (failed : Err → State → Prop) (state : State) :
    wp machine (if condition then yes else no) post failed state ↔
      if condition then wp machine yes post failed state
      else wp machine no post failed state := by
  split <;> rfl

@[simp] theorem wp_void (program : Program face Err Value) (post : Unit → State → Prop)
    (failed : Err → State → Prop) (state : State) :
    wp machine program.void post failed state ↔
      wp machine program (fun _ => post ()) failed state :=
  wp_bind_iff program _ post failed state

theorem wp_perform (request : face.Call) (post : face.Answer request → State → Prop)
    (failed : face.Fault → State → Prop) (state : State) :
    wp machine (Program.perform request) post failed state ↔
      machine.allowed request state ∧ ∀ reply after, machine.step request state reply after →
        replied (post · after) (failed · after) reply := by
  simp only [Program.perform, wp]
  refine and_congr_right fun _ => forall_congr' fun reply => forall_congr' fun after =>
    imp_congr_right fun _ => ?_
  cases reply <;> rfl

theorem wp_mono {program : Program face Err Value} {post wider : Value → State → Prop}
    {failed worse : Err → State → Prop} {state : State}
    (run : wp machine program post failed state)
    (values : ∀ value after, post value after → wider value after)
    (errors : ∀ error after, failed error after → worse error after) :
    wp machine program wider worse state := by
  induction program generalizing state with
  | done value => exact values value state run
  | raise error => exact errors error state run
  | call request next ih =>
      exact ⟨run.1, fun reply after taken => ih reply (run.2 reply after taken)⟩

theorem wp_and {program : Program face Err Value} {post other : Value → State → Prop}
    {failed broken : Err → State → Prop} {state : State}
    (left : wp machine program post failed state) (right : wp machine program other broken state) :
    wp machine program (fun value after => post value after ∧ other value after)
      (fun error after => failed error after ∧ broken error after) state := by
  induction program generalizing state with
  | done value => exact ⟨left, right⟩
  | raise error => exact ⟨left, right⟩
  | call request next ih =>
      refine ⟨left.1, ?_⟩
      intro reply after taken
      exact ih reply (left.2 reply after taken) (right.2 reply after taken)

theorem wp_unfailing {program : Program face Err Value} {post wider : Value → State → Prop}
    {failed : Err → State → Prop} {state : State}
    (run : wp machine program post (fun _ _ => False) state)
    (values : ∀ value after, post value after → wider value after) :
    wp machine program wider failed state :=
  wp_mono run values fun _ _ impossible => impossible.elim

/-- The rule of composition: what holds where the first part returns is what the
rest starts from. -/
theorem wp_seq {program : Program face Err Value} {rest : Value → Program face Err Next}
    {middle : Value → State → Prop} {post : Next → State → Prop} {failed : Err → State → Prop}
    {state : State} (first : wp machine program middle failed state)
    (later : ∀ value after, middle value after → wp machine (rest value) post failed after) :
    wp machine (program >>= rest) post failed state := by
  rw [wp_bind]
  exact wp_mono first later fun _ _ stopped => stopped

end Rules

def Machine.guard (machine : Machine face State) (allowed : face.Call → State → Prop) :
    Machine face State where
  allowed := allowed
  step := machine.step

theorem wp_guard_mono {machine : Machine face State} {weaker : face.Call → State → Prop}
    (implies : ∀ request state, machine.allowed request state → weaker request state)
    {program : Program face Err Value} {post : Value → State → Prop}
    {failed : Err → State → Prop} {state : State} (run : wp machine program post failed state) :
    wp (machine.guard weaker) program post failed state := by
  induction program generalizing state with
  | done value => exact run
  | raise error => exact run
  | call request next ih =>
      exact ⟨implies request state run.1, fun reply after taken => ih reply (run.2 reply after taken)⟩

theorem wp_unguard {machine : Machine face State} {extra : face.Call → State → Prop}
    {program : Program face Err Value} {post : Value → State → Prop}
    {failed : Err → State → Prop} {state : State}
    (run : wp (machine.guard fun request before =>
      machine.allowed request before ∧ extra request before) program post failed state) :
    wp machine program post failed state := by
  induction program generalizing state with
  | done value => exact run
  | raise error => exact run
  | call request next ih =>
      exact ⟨run.1.1, fun reply after taken => ih reply (run.2 reply after taken)⟩

section Conforms

/-- The program makes only allowed calls, from any state and whatever it ends
with. -/
def Conforms (machine : Machine face State) (program : Program face Err Value) : Prop :=
  ∀ state, wp machine program (fun _ _ => True) (fun _ _ => True) state

variable {machine : Machine face State}

theorem conforms_pure (value : Value) : Conforms machine (pure value : Program face Err Value) :=
  fun _ => trivial

theorem conforms_raise (error : Err) : Conforms machine (.raise error : Program face Err Value) :=
  fun _ => trivial

theorem conforms_outcome (outcome : Except Err Value) :
    Conforms machine (Program.ended outcome : Program face Err Value) := by
  cases outcome <;> exact fun _ => trivial

theorem conforms_perform {request : face.Call}
    (permitted : ∀ state, machine.allowed request state) :
    Conforms machine (Program.perform request) := by
  intro state
  rw [wp_perform]
  refine ⟨permitted state, fun reply _ _ => ?_⟩
  cases reply <;> trivial

theorem conforms_bind {program : Program face Err Value} {rest : Value → Program face Err Next}
    (first : Conforms machine program) (later : ∀ value, Conforms machine (rest value)) :
    Conforms machine (program >>= rest) := by
  intro state
  exact wp_seq (first state) fun value after _ => later value after

theorem conforms_attempt {program : Program face Err Value}
    {handler : Err → Program face Other Value} (first : Conforms machine program)
    (handled : ∀ error, Conforms machine (handler error)) :
    Conforms machine (program.attempt handler) := by
  intro state
  rw [wp_attempt]
  exact wp_mono (first state) (fun _ _ _ => trivial) fun error after _ => handled error after

theorem conforms_caught {program : Program face Err Value} (first : Conforms machine program) :
    Conforms machine (program.caught : Program face Other (Except Err Value)) := by
  intro state
  rw [wp_caught]
  exact wp_mono (first state) (fun _ _ _ => trivial) fun _ _ _ => trivial

theorem conforms_ite {condition : Prop} [Decidable condition] {yes no : Program face Err Value}
    (first : Conforms machine yes) (second : Conforms machine no) :
    Conforms machine (if condition then yes else no) := by
  split
  · exact first
  · exact second

theorem conforms_free (free : ∀ request state, machine.allowed request state)
    (program : Program face Err Value) : Conforms machine program := by
  intro state
  induction program generalizing state with
  | done value => trivial
  | raise error => trivial
  | call request next ih => exact ⟨free request state, fun reply after _ => ih reply after⟩

def havoc (allowed : face.Call → Prop) : Machine face Unit where
  allowed := fun request _ => allowed request
  step := fun _ _ _ _ => True

abbrev Uses (allowed : face.Call → Prop) (program : Program face Err Value) : Prop :=
  Conforms (havoc allowed) program

theorem uses_mono {allowed wider : face.Call → Prop}
    (implies : ∀ request, allowed request → wider request) {program : Program face Err Value}
    (uses : Uses allowed program) : Uses wider program := by
  intro state
  exact wp_guard_mono (fun request _ permitted => implies request permitted) (uses state)

/-- What every run owes to its calls it also owes to the calls it uses. -/
theorem wp_uses {allowed : face.Call → Prop} {program : Program face Err Value}
    (uses : Uses allowed program) {post : Value → State → Prop} {failed : Err → State → Prop}
    {state : State} (run : wp machine program post failed state) :
    wp (machine.guard fun request before => machine.allowed request before ∧ allowed request)
      program post failed state := by
  have calls := uses ()
  clear uses
  induction program generalizing state with
  | done value => exact run
  | raise error => exact run
  | call request next ih =>
      refine ⟨⟨run.1, calls.1⟩, fun reply after taken => ?_⟩
      exact ih reply (run.2 reply after taken) (calls.2 reply () trivial)

/-- A relation that every permitted call keeps holds at every later point of
the program, at its calls and at its end. -/
theorem wp_keeps {allowed : face.Call → Prop} {related : State → State → Prop}
    (reflexive : ∀ state, related state state)
    (transitive : ∀ {first second third}, related first second → related second third →
      related first third)
    (kept : ∀ request before reply after, allowed request →
      machine.step request before reply after → related before after)
    {program : Program face Err Value} (uses : Uses allowed program)
    {post : Value → State → Prop} {failed : Err → State → Prop} {state : State}
    (run : wp machine program post failed state) :
    wp (machine.guard fun request after => machine.allowed request after ∧ related state after)
      program (fun value after => post value after ∧ related state after)
      (fun error after => failed error after ∧ related state after) state := by
  suffices general : ∀ origin, related origin state →
      wp (machine.guard fun request after => machine.allowed request after ∧ related origin after)
        program (fun value after => post value after ∧ related origin after)
        (fun error after => failed error after ∧ related origin after) state from
    general state (reflexive state)
  have calls := uses ()
  clear uses
  induction program generalizing state with
  | done value => exact fun origin now => ⟨run, now⟩
  | raise error => exact fun origin now => ⟨run, now⟩
  | call request next ih =>
      refine fun origin now => ⟨⟨run.1, now⟩, fun reply after taken => ?_⟩
      have later := kept request state reply after calls.1 taken
      exact ih reply (run.2 reply after taken) (calls.2 reply () trivial) origin
        (transitive now later)

theorem wp_related {allowed : face.Call → Prop} {related : State → State → Prop}
    (reflexive : ∀ state, related state state)
    (transitive : ∀ {first second third}, related first second → related second third →
      related first third)
    (kept : ∀ request before reply after, allowed request →
      machine.step request before reply after → related before after)
    {program : Program face Err Value} (uses : Uses allowed program)
    {post : Value → State → Prop} {failed : Err → State → Prop} {state : State}
    (run : wp machine program post failed state) :
    wp machine program (fun value after => post value after ∧ related state after)
      (fun error after => failed error after ∧ related state after) state :=
  wp_unguard (wp_keeps reflexive transitive kept uses run)

theorem wp_invariant {inv : State → Prop}
    (kept : ∀ request before reply after, machine.allowed request before → inv before →
      machine.step request before reply after → inv after)
    {program : Program face Err Value} {post : Value → State → Prop}
    {failed : Err → State → Prop} {state : State} (run : wp machine program post failed state)
    (here : inv state) :
    wp (machine.guard fun _ => inv) program (fun value after => post value after ∧ inv after)
      (fun error after => failed error after ∧ inv after) state := by
  induction program generalizing state with
  | done value => exact ⟨run, here⟩
  | raise error => exact ⟨run, here⟩
  | call request next ih =>
      refine ⟨here, fun reply after taken => ?_⟩
      exact ih reply (run.2 reply after taken) (kept request state reply after run.1 here taken)

/-- A program whose calls keep an invariant keeps it, and its outcome is what
it is under any replies. -/
theorem wp_maintains {allowed : face.Call → Prop} {inv : State → Prop}
    (permitted : ∀ request state, allowed request → inv state → machine.allowed request state)
    (kept : ∀ request before reply after, allowed request → inv before →
      machine.step request before reply after → inv after)
    {program : Program face Err Value} {good : Value → Prop} {bad : Err → Prop}
    (uses : wp (havoc allowed) program (fun value _ => good value) (fun error _ => bad error) ())
    {state : State} (here : inv state) :
    wp machine program (fun value after => good value ∧ inv after)
      (fun error after => bad error ∧ inv after) state := by
  induction program generalizing state with
  | done value => exact ⟨uses, here⟩
  | raise error => exact ⟨uses, here⟩
  | call request next ih =>
      refine ⟨permitted request state uses.1 here, fun reply after taken => ?_⟩
      exact ih reply (uses.2 reply () trivial) (kept request state reply after uses.1 here taken)

/-- What every call of a run is, the calls of the program are under any
replies, if the machine has a step for each. -/
theorem uses_of_wp {allowed : face.Call → Prop}
    (implies : ∀ request state, machine.allowed request state → allowed request)
    (answers : ∀ request before reply, ∃ after, machine.step request before reply after)
    {program : Program face Err Value} {post : Value → State → Prop}
    {failed : Err → State → Prop} {state : State} (run : wp machine program post failed state) :
    Uses allowed program := by
  intro _
  induction program generalizing state with
  | done value => trivial
  | raise error => trivial
  | call request next ih =>
      refine ⟨implies request state run.1, fun reply _ _ => ?_⟩
      obtain ⟨after, taken⟩ := answers request state reply
      exact ih reply (run.2 reply after taken)

/-- A program that obeys an abstract machine obeys a concrete one, as long as a
link between their states survives every call. -/
theorem wp_simulated {Abstract : Type} {abstract : Machine face Abstract}
    {link : Abstract → State → Prop}
    (allows : ∀ request inner state, link inner state → abstract.allowed request inner →
      machine.allowed request state)
    (follows : ∀ request inner before reply after, link inner before →
      abstract.allowed request inner → machine.step request before reply after →
      ∃ next, abstract.step request inner reply next ∧ link next after)
    {program : Program face Err Value} {post : Value → Abstract → Prop}
    {failed : Err → Abstract → Prop} {inner : Abstract} {state : State}
    (linked : link inner state) (run : wp abstract program post failed inner) :
    wp machine program (fun value after => ∃ last, post value last ∧ link last after)
      (fun error after => ∃ last, failed error last ∧ link last after) state := by
  induction program generalizing inner state with
  | done value => exact ⟨inner, run, linked⟩
  | raise error => exact ⟨inner, run, linked⟩
  | call request next ih =>
      refine ⟨allows request inner state linked run.1, fun reply after taken => ?_⟩
      obtain ⟨last, moved, relinked⟩ := follows request inner state reply after linked run.1 taken
      exact ih reply relinked (run.2 reply last moved)

/-- A machine that contains another one takes over what its runs owe. -/
theorem wp_embedded {Inner : Type} {inner : Machine face Inner} {wrap : Inner → State}
    (allows : ∀ request held, inner.allowed request held → machine.allowed request (wrap held))
    (follows : ∀ request before reply after, machine.step request (wrap before) reply after →
      ∃ next, inner.step request before reply next ∧ after = wrap next)
    {program : Program face Err Value} {post : Value → Inner → Prop} {failed : Err → Inner → Prop}
    {held : Inner} (run : wp inner program post failed held) :
    wp machine program (fun _ _ => True) (fun _ _ => True) (wrap held) := by
  induction program generalizing held with
  | done value => trivial
  | raise error => trivial
  | call request next ih =>
      refine ⟨allows request held run.1, fun reply after taken => ?_⟩
      obtain ⟨next, moved, rfl⟩ := follows request held reply after taken
      exact ih reply (run.2 reply next moved)

end Conforms

section Served

def served (serve : (request : face.Call) → State → face.Reply request × State) :
    Machine face State where
  allowed := fun _ _ => True
  step := fun request before reply after => serve request before = (reply, after)

variable {serve : (request : face.Call) → State → face.Reply request × State}

theorem wp_served_iff {program : Program face Err Value} {post : Value → State → Prop}
    {failed : Err → State → Prop} {state : State} :
    wp (served serve) program post failed state ↔
      replied (post · (program.evaluate serve state).2) (failed · (program.evaluate serve state).2)
        (program.evaluate serve state).1 := by
  induction program generalizing state with
  | done value => rfl
  | raise error => rfl
  | call request next ih =>
      rw [Program.evaluate_call, ← ih]
      constructor
      · intro run
        exact run.2 _ _ rfl
      · intro run
        refine ⟨trivial, fun reply after taken => ?_⟩
        rw [taken] at run
        exact run

theorem wp_served_perform (request : face.Call) (post : face.Answer request → State → Prop)
    (failed : face.Fault → State → Prop) (state : State) :
    wp (served serve) (Program.perform request) post failed state ↔
      replied (post · (serve request state).2) (failed · (serve request state).2)
        (serve request state).1 := by
  rw [wp_perform]
  constructor
  · intro run
    exact run.2 _ _ rfl
  · intro run
    refine ⟨trivial, fun reply after taken => ?_⟩
    rw [taken] at run
    exact run

/-- What every call of a kind keeps, a program of such calls keeps. -/
theorem evaluate_keeps {allowed : face.Call → Prop} (related : State → State → Prop)
    (reflexive : ∀ state, related state state)
    (transitive : ∀ {first second third}, related first second → related second third →
      related first third)
    (kept : ∀ request state, allowed request → related state (serve request state).2)
    {program : Program face Err Value} (uses : Uses allowed program) (state : State) :
    related state (program.evaluate serve state).2 := by
  have free : Conforms (served serve) program := conforms_free (fun _ _ => trivial) program
  have run := wp_related reflexive transitive (fun request before reply after permitted taken => by
    have step := kept request before permitted
    rw [taken] at step
    exact step) uses (free state)
  rw [wp_served_iff] at run
  cases outcome : (program.evaluate serve state).1 with
  | ok value =>
      rw [outcome] at run
      exact run.2
  | error error =>
      rw [outcome] at run
      exact run.2

theorem served_value {program : Program face Err Value} {post : Value → State → Prop}
    {state : State} (run : wp (served serve) program post (fun _ _ => False) state) :
    ∃ value, (program.evaluate serve state).1 = .ok value ∧
      post value (program.evaluate serve state).2 := by
  rw [wp_served_iff] at run
  cases outcome : (program.evaluate serve state).1 with
  | ok value =>
      rw [outcome] at run
      exact ⟨value, rfl, run⟩
  | error error =>
      rw [outcome] at run
      exact run.elim

theorem served_error {program : Program face Err Value} {failed : Err → State → Prop}
    {state : State} (run : wp (served serve) program (fun _ _ => False) failed state) :
    ∃ error, (program.evaluate serve state).1 = .error error ∧
      failed error (program.evaluate serve state).2 := by
  rw [wp_served_iff] at run
  cases outcome : (program.evaluate serve state).1 with
  | ok value =>
      rw [outcome] at run
      exact run.elim
  | error error =>
      rw [outcome] at run
      exact ⟨error, rfl, run⟩

end Served

section Notes

variable {Local : Type}

def noting (allowed : face.Call → Local → Prop)
    (note : (request : face.Call) → face.Reply request → Local → Local) : Machine face Local where
  allowed := allowed
  step := fun request before reply after => after = note request reply before

theorem wp_noting {allowed : face.Call → Local → Prop}
    {note : (request : face.Call) → face.Reply request → Local → Local} {request : face.Call}
    {post : face.Answer request → Local → Prop} {failed : face.Fault → Local → Prop}
    {noted : Local} (here : allowed request noted)
    (answered : ∀ answer, post answer (note request (.ok answer) noted))
    (raised : ∀ fault, failed fault (note request (.error fault) noted)) :
    wp (noting allowed note) (Program.perform request) post failed noted := by
  rw [wp_perform]
  refine ⟨here, ?_⟩
  rintro (fault | answer) after rfl
  · exact raised fault
  · exact answered answer

end Notes

/-- The run of a program from a state up to some later point of it. -/
inductive Steps (machine : Machine face State) :
    Program face Err Value → State → Program face Err Value → State → Prop
  | here {program state} : Steps machine program state program state
  | call {request next state reply after program last}
      (taken : machine.step request state reply after)
      (rest : Steps machine (next reply) after program last) :
      Steps machine (.call request next) state program last

variable {machine : Machine face State}

theorem Steps.trans {first middle last : Program face Err Value} {before between after : State}
    (left : Steps machine first before middle between)
    (right : Steps machine middle between last after) :
    Steps machine first before last after := by
  induction left with
  | here => exact right
  | call taken rest ih => exact .call taken (ih right)

theorem Steps.bind {program later : Program face Err Value} {state after : State}
    (steps : Steps machine program state later after) (rest : Value → Program face Err Next) :
    Steps machine (program.bind rest) state (later.bind rest) after := by
  induction steps with
  | here => exact .here
  | call taken _ ih => exact .call taken ih

theorem Steps.answered {request : face.Call} {answer : face.Answer request} {state after : State}
    (taken : machine.step request state (.ok answer) after)
    (rest : face.Answer request → Program face face.Fault Next) :
    Steps machine (Program.perform request >>= rest) state (rest answer) after :=
  .call taken .here

/-- What `wp` promises at the start it still promises at every later point. -/
theorem wp_steps {program later : Program face Err Value} {post : Value → State → Prop}
    {failed : Err → State → Prop} {state after : State}
    (run : wp machine program post failed state)
    (steps : Steps machine program state later after) :
    wp machine later post failed after := by
  induction steps with
  | here => exact run
  | call taken rest ih => exact ih (run.2 _ _ taken)

/-- The call at which a run stands is one that is allowed there. -/
theorem wp_next {program later : Program face Err Value} {post : Value → State → Prop}
    {failed : Err → State → Prop} {state after : State} {request : face.Call}
    (run : wp machine program post failed state) (steps : Steps machine program state later after)
    (asks : later.next? = some request) : machine.allowed request after := by
  have there := wp_steps run steps
  cases later with
  | done value => cases asks
  | raise error => cases asks
  | call asked next =>
      obtain rfl := Option.some.inj asks
      exact there.1

theorem wp_ended {program : Program face Err Value} {outcome : Except Err Value}
    {post : Value → State → Prop} {failed : Err → State → Prop} {state after : State}
    (run : wp machine program post failed state)
    (steps : Steps machine program state (Program.ended outcome) after) :
    replied (post · after) (failed · after) outcome := by
  have there := wp_steps run steps
  cases outcome <;> exact there

theorem Steps.guard {program later : Program face Err Value} {state after : State}
    (steps : Steps machine program state later after)
    (allowed : face.Call → State → Prop) :
    Steps (machine.guard allowed) program state later after := by
  induction steps with
  | here => exact .here
  | call taken rest ih => exact .call taken ih

theorem wp_cut {inv : State → Prop} {program later : Program face Err Value}
    {post : Value → State → Prop} {failed : Err → State → Prop} {state after : State}
    (run : wp machine program post failed state)
    (guarded : ∀ request before, machine.allowed request before → inv before)
    (values : ∀ value last, post value last → inv last)
    (errors : ∀ error last, failed error last → inv last)
    (steps : Steps machine program state later after) : inv after := by
  have there := wp_steps run steps
  cases later with
  | done value => exact values value after there
  | raise error => exact errors error after there
  | call request next => exact guarded request after there.1

/-- Work that crashes any number of times, each crash followed by a recovery
that may crash as well. `crash` is what a crash does to the state. -/
inductive Interrupted (machine : Machine face State) (crash : State → State)
    (work : Program face Err Value) (recover : Program face Other Next) (start : State) :
    State → Prop
  | working {later after} (steps : Steps machine work start later after) :
      Interrupted machine crash work recover start after
  | recovering {before later after}
      (earlier : Interrupted machine crash work recover start before)
      (steps : Steps machine recover (crash before) later after) :
      Interrupted machine crash work recover start after

/-- The work, or a recovery after some crash, has come to its end. -/
inductive Completed (machine : Machine face State) (crash : State → State)
    (work : Program face Err Value) (recover : Program face Other Next) (start : State) :
    State → Prop
  | worked {value after} (steps : Steps machine work start (.done value) after) :
      Completed machine crash work recover start after
  | recovered {before value after}
      (earlier : Interrupted machine crash work recover start before)
      (steps : Steps machine recover (crash before) (.done value) after) :
      Completed machine crash work recover start after

section Crashes

variable {crash : State → State} {work : Program face Err Value}
  {recover : Program face Other Next} {start state : State} {inv goal : State → Prop}

/-- The invariant of crash states carries a whole schedule of crashes. -/
theorem interrupted_invariant (reached : ∀ state, goal state → inv state)
    (worked : wp (machine.guard fun _ => inv) work (fun _ => goal) (fun _ => inv) start)
    (recovers : ∀ state, inv state →
      wp (machine.guard fun _ => inv) recover (fun _ => goal) (fun _ => inv) (crash state))
    (run : Interrupted machine crash work recover start state) : inv state := by
  induction run with
  | working steps =>
      apply wp_cut worked
      · exact fun _ _ safe => safe
      · exact fun _ last ends => reached last ends
      · exact fun _ _ safe => safe
      · exact steps.guard _
  | recovering earlier steps ih =>
      apply wp_cut (recovers _ ih)
      · exact fun _ _ safe => safe
      · exact fun _ last ends => reached last ends
      · exact fun _ _ safe => safe
      · exact steps.guard _

/-- Whatever the schedule of crashes, the end is the goal of the work. -/
theorem completed_goal (reached : ∀ state, goal state → inv state)
    (worked : wp (machine.guard fun _ => inv) work (fun _ => goal) (fun _ => inv) start)
    (recovers : ∀ state, inv state →
      wp (machine.guard fun _ => inv) recover (fun _ => goal) (fun _ => inv) (crash state))
    (completed : Completed machine crash work recover start state) : goal state := by
  cases completed with
  | worked steps => exact wp_steps worked (steps.guard _)
  | recovered earlier steps =>
      have safe := interrupted_invariant reached worked recovers earlier
      exact wp_steps (recovers _ safe) (steps.guard _)

end Crashes

/-- Drive a program with a fixed way of answering, for at most `count` calls. -/
def simulate (answer : (request : face.Call) → State → face.Reply request × State) :
    Nat → Program face Err Value → State → Program face Err Value × State
  | 0, program, state => (program, state)
  | _ + 1, .done value, state => (.done value, state)
  | _ + 1, .raise error, state => (.raise error, state)
  | count + 1, .call request next, state =>
      simulate answer count (next (answer request state).1) (answer request state).2

theorem simulate_steps {answer : (request : face.Call) → State → face.Reply request × State}
    (honest : ∀ request state,
      machine.step request state (answer request state).1 (answer request state).2)
    (count : Nat) (program : Program face Err Value) (state : State) :
    Steps machine program state (simulate answer count program state).1
      (simulate answer count program state).2 := by
  induction count generalizing program state with
  | zero => exact .here
  | succ count ih =>
      cases program with
      | done value => exact .here
      | raise error => exact .here
      | call request next => exact .call (honest request state) (ih _ _)

end CallProgram
