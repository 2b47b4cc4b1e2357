import Mathlib.Tactic.Common

/-!
# Programs that call an interface

A program is a tree of calls: it ends with a value, ends with an error, or
makes one call and continues with every possible reply. A reply is an answer
or a fault; `perform` turns a fault into an error of the program, and `attempt`
catches errors. A program says nothing about who answers its calls, so one
text serves sequential runs, runs cut by a crash and interleaved runs.
-/

namespace CallProgram

set_option autoImplicit false

structure Interface where
  Call : Type
  Answer : Call → Type
  Fault : Type

abbrev Interface.Reply (face : Interface) (request : face.Call) : Type :=
  Except face.Fault (face.Answer request)

inductive Program (face : Interface) (Err Value : Type) where
  | done (value : Value)
  | raise (error : Err)
  | call (request : face.Call) (next : face.Reply request → Program face Err Value)

namespace Program

variable {face : Interface} {Err Other Value Next : Type}

def bind (program : Program face Err Value) (rest : Value → Program face Err Next) :
    Program face Err Next :=
  match program with
  | .done value => rest value
  | .raise error => .raise error
  | .call request next => .call request fun reply => (next reply).bind rest

instance : Monad (Program face Err) where
  pure := .done
  bind := bind

/-- `try program except error: handler error`. -/
def attempt (program : Program face Err Value) (handler : Err → Program face Other Value) :
    Program face Other Value :=
  match program with
  | .done value => .done value
  | .raise error => handler error
  | .call request next => .call request fun reply => (next reply).attempt handler

def perform (request : face.Call) : Program face face.Fault (face.Answer request) :=
  .call request fun reply =>
    match reply with
    | .ok answer => .done answer
    | .error fault => .raise fault

def caught (program : Program face Err Value) : Program face Other (Except Err Value) :=
  (program.bind fun value => .done (.ok value)).attempt fun error => .done (.error error)

def ended : Except Err Value → Program face Err Value
  | .ok value => .done value
  | .error error => .raise error

def outcome? : Program face Err Value → Option (Except Err Value)
  | .done value => some (.ok value)
  | .raise error => some (.error error)
  | .call _ _ => none

theorem outcome_ended {program : Program face Err Value} {outcome : Except Err Value}
    (result : program.outcome? = some outcome) : program = ended outcome := by
  cases program with
  | done value =>
      cases result
      rfl
  | raise error =>
      cases result
      rfl
  | call request next => cases result

def evaluate {State : Type}
    (serve : (request : face.Call) → State → face.Reply request × State) :
    Program face Err Value → State → Except Err Value × State
  | .done value, state => (.ok value, state)
  | .raise error, state => (.error error, state)
  | .call request next, state =>
      (next (serve request state).1).evaluate serve (serve request state).2

def next? : Program face Err Value → Option face.Call
  | .call request _ => some request
  | _ => none

def void (program : Program face Err Value) : Program face Err Unit :=
  program.bind fun _ => .done ()

section Evaluation

variable {State : Type} {serve : (request : face.Call) → State → face.Reply request × State}

@[simp] theorem evaluate_pure (value : Value) (state : State) :
    (pure value : Program face Err Value).evaluate serve state = (.ok value, state) := rfl

@[simp] theorem evaluate_raise (error : Err) (state : State) :
    (Program.raise error : Program face Err Value).evaluate serve state = (.error error, state) :=
  rfl

@[simp] theorem evaluate_call (request : face.Call)
    (next : face.Reply request → Program face Err Value) (state : State) :
    (Program.call request next).evaluate serve state =
      (next (serve request state).1).evaluate serve (serve request state).2 := rfl

theorem evaluate_bind (program : Program face Err Value) (rest : Value → Program face Err Next)
    (state : State) :
    (program >>= rest).evaluate serve state =
      match (program.evaluate serve state).1 with
      | .ok value => (rest value).evaluate serve (program.evaluate serve state).2
      | .error error => (.error error, (program.evaluate serve state).2) := by
  induction program generalizing state with
  | done value => rfl
  | raise error => rfl
  | call request next ih => exact ih (serve request state).1 (serve request state).2

theorem evaluate_bind_ok {program : Program face Err Value}
    {rest : Value → Program face Err Next} {state after : State} {value : Value}
    (ended : program.evaluate serve state = (.ok value, after)) :
    (program >>= rest).evaluate serve state = (rest value).evaluate serve after := by
  rw [evaluate_bind, ended]

theorem evaluate_bind_error {program : Program face Err Value}
    {rest : Value → Program face Err Next} {state after : State} {error : Err}
    (ended : program.evaluate serve state = (.error error, after)) :
    (program >>= rest).evaluate serve state = (.error error, after) := by
  rw [evaluate_bind, ended]

@[simp] theorem evaluate_ite {condition : Prop} [Decidable condition]
    (yes no : Program face Err Value) (state : State) :
    (if condition then yes else no).evaluate serve state =
      if condition then yes.evaluate serve state else no.evaluate serve state := by
  split <;> rfl

end Evaluation

end Program

/-- A call together with the reply it got. -/
structure Event (face : Interface) where
  request : face.Call
  reply : face.Reply request

end CallProgram
