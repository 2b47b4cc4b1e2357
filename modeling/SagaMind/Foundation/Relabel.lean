import SagaMind.Foundation.Triple

/-!
# Programs with other outcomes

A program whose value or error is turned into another one makes the same calls.
Its runs are the runs of the program, up to the outcome.
-/

namespace CallProgram

set_option autoImplicit false

variable {face : Interface} {State Err Other Value Next : Type}

def Program.relabel (outcome : Except Err Value → Except Other Next) :
    Program face Err Value → Program face Other Next
  | .done value => Program.ended (outcome (.ok value))
  | .raise error => Program.ended (outcome (.error error))
  | .call request next => .call request fun reply => (next reply).relabel outcome

namespace Program

theorem attempt_ended (program : Program face Err Value) {recover : Err → Program face Other Value}
    {change : Except Err Value → Except Other Value} (kept : ∀ value, change (.ok value) = .ok value)
    (recovers : ∀ error, recover error = ended (change (.error error))) :
    program.attempt recover = program.relabel change := by
  induction program with
  | done value => exact congrArg ended (kept value).symm
  | raise error => exact recovers error
  | call request next ih => exact congrArg (Program.call request) (funext ih)

theorem attempt_raise (program : Program face Err Value) (change : Err → Other) :
    (program.attempt fun error => .raise (change error)) = program.relabel (Except.mapError change) :=
  attempt_ended program (fun _ => rfl) fun _ => rfl

theorem bind_done (program : Program face Err Value) (change : Value → Next) :
    (program >>= fun value => pure (change value)) = program.relabel (Except.map change) := by
  induction program with
  | done value => rfl
  | raise error => rfl
  | call request next ih => exact congrArg (Program.call request) (funext ih)

theorem ended_bind {value : Value} {change : Err → Other} (next : Value → Program face Other Next) :
    (ended ((Except.ok value : Except Err Value).mapError change) >>= next) = next value := rfl

theorem relabel_ended (outcome : Except Err Value) (change : Except Err Value → Except Other Next) :
    (ended outcome : Program face Err Value).relabel change = ended (change outcome) := by
  cases outcome <;> rfl

theorem relabel_relabel {Last Final : Type} (program : Program face Err Value)
    (first : Except Err Value → Except Other Next) (second : Except Other Next → Except Last Final) :
    (program.relabel first).relabel second = program.relabel fun outcome => second (first outcome) := by
  induction program with
  | done value => exact relabel_ended _ _
  | raise error => exact relabel_ended _ _
  | call request next ih => exact congrArg (Program.call request) (funext ih)

theorem evaluate_ended {serve : (request : face.Call) → State → face.Reply request × State}
    (outcome : Except Err Value) (state : State) :
    (ended outcome : Program face Err Value).evaluate serve state = (outcome, state) := by
  cases outcome <;> rfl

theorem evaluate_relabel {serve : (request : face.Call) → State → face.Reply request × State}
    (outcome : Except Err Value → Except Other Next) (program : Program face Err Value)
    (state : State) :
    (program.relabel outcome).evaluate serve state =
      (outcome (program.evaluate serve state).1, (program.evaluate serve state).2) := by
  induction program generalizing state with
  | done value => exact evaluate_ended _ _
  | raise error => exact evaluate_ended _ _
  | call request next ih => exact ih _ _

end Program

theorem steps_relabel {machine : Machine face State} {outcome : Except Err Value → Except Other Next}
    {program : Program face Err Value} {later : Program face Other Next} {state after : State}
    (steps : Steps machine (program.relabel outcome) state later after) :
    ∃ middle, Steps machine program state middle after ∧ later = middle.relabel outcome := by
  generalize shape : program.relabel outcome = relabelled at steps
  induction steps generalizing program with
  | here => exact ⟨program, .here, shape.symm⟩
  | call taken rest ih =>
      cases program with
      | done value =>
          rw [Program.relabel] at shape
          cases whole : outcome (.ok value) <;> rw [whole] at shape <;> cases shape
      | raise error =>
          rw [Program.relabel] at shape
          cases whole : outcome (.error error) <;> rw [whole] at shape <;> cases shape
      | call request next =>
          cases shape
          obtain ⟨middle, run, same⟩ := ih rfl
          exact ⟨middle, .call taken run, same⟩

theorem Steps.relabel {machine : Machine face State} {program later : Program face Err Value}
    {state after : State} (steps : Steps machine program state later after)
    (outcome : Except Err Value → Except Other Next) :
    Steps machine (program.relabel outcome) state (later.relabel outcome) after := by
  induction steps with
  | here => exact .here
  | call taken rest ih => exact .call taken ih

theorem evaluate_steps {serve : (request : face.Call) → State → face.Reply request × State}
    (program : Program face Err Value) (state : State) :
    Steps (served serve) program state (Program.ended (program.evaluate serve state).1)
      (program.evaluate serve state).2 := by
  induction program generalizing state with
  | done value => exact .here
  | raise error => exact .here
  | call request next ih => exact .call rfl (ih _ _)

end CallProgram
