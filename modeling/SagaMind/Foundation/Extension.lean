import SagaMind.Foundation.Triple

/-!
# Programs over a larger interface

An interface may get calls of another kind. A program of the smaller interface
is one of the larger, and makes its calls there as it did.
-/

namespace CallProgram

set_option autoImplicit false

variable {face : Interface} {Extra : Type} {Answer : Extra → Type} {State Err Other Value : Type}

abbrev Interface.extend (face : Interface) (Extra : Type) (Answer : Extra → Type) : Interface where
  Call := face.Call ⊕ Extra
  Answer := Sum.elim face.Answer Answer
  Fault := face.Fault

def Program.further (request : Extra) : Program (face.extend Extra Answer) face.Fault (Answer request) :=
  @Program.perform (face.extend Extra Answer) (.inr request)

def Program.lift (Extra : Type) (Answer : Extra → Type) :
    Program face Err Value → Program (face.extend Extra Answer) Err Value
  | .done value => .done value
  | .raise error => .raise error
  | .call request next => .call (.inl request) fun reply => (next reply).lift Extra Answer

def Machine.inner (machine : Machine (face.extend Extra Answer) State) : Machine face State where
  allowed := fun request => machine.allowed (.inl request)
  step := fun request => machine.step (.inl request)

theorem wp_lift {machine : Machine (face.extend Extra Answer) State}
    (program : Program face Err Value) (post : Value → State → Prop)
    (failed : Err → State → Prop) (state : State) :
    wp machine (program.lift Extra Answer) post failed state ↔
      wp machine.inner program post failed state := by
  induction program generalizing state with
  | done value => exact Iff.rfl
  | raise error => exact Iff.rfl
  | call request next ih =>
      simp only [Program.lift, wp]
      exact and_congr_right fun _ => forall_congr' fun reply => forall_congr' fun after =>
        imp_congr_right fun _ => ih reply after

theorem wp_further {machine : Machine (face.extend Extra Answer) State} {request : Extra}
    {post : Answer request → State → Prop} {failed : face.Fault → State → Prop} {state : State}
    (permitted : machine.allowed (.inr request) state)
    (answered : ∀ answer after, machine.step (.inr request) state (.ok answer) after →
      post answer after)
    (raised : ∀ fault after, machine.step (.inr request) state (.error fault) after →
      failed fault after) :
    wp machine (Program.further request) post failed state := by
  refine ⟨permitted, fun reply after taken => ?_⟩
  cases reply with
  | ok answer => exact answered answer after taken
  | error fault => exact raised fault after taken

end CallProgram
