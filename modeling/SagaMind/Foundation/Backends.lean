import Mathlib.Tactic.Common

/-!
# Interchangeable backends

A backend serves calls one after another: each call answers or raises, and
leaves a state. Two backends are told apart by their answers and by which
calls raise, not by what is raised. A relation between their states that a
condition on each call keeps shows that they agree exactly as long as every
call meets the condition.
-/

namespace Backends

set_option autoImplicit false

variable {Call Answer State Err : Type}

def outcomes (serve : Call → State → Except Err Answer × State) :
    List Call → State → List (Option Answer)
  | [], _ => []
  | call :: rest, state =>
      (serve call state).1.toOption :: outcomes serve rest (serve call state).2

def reached (serve : Call → State → Except Err Answer × State) (calls : List Call)
    (state : State) : State :=
  calls.foldl (fun state call => (serve call state).2) state

def Throughout (serve : Call → State → Except Err Answer × State)
    (condition : Call → State → Prop) : List Call → State → Prop
  | [], _ => True
  | call :: rest, state =>
      condition call state ∧ Throughout serve condition rest (serve call state).2

theorem throughout_iff {serve : Call → State → Except Err Answer × State}
    {condition : Call → State → Prop} (calls : List Call) (state : State) :
    Throughout serve condition calls state ↔
      ∀ before call rest, calls = before ++ call :: rest →
        condition call (reached serve before state) := by
  induction calls generalizing state with
  | nil => simp [Throughout]
  | cons head tail ih =>
      rw [Throughout, ih]
      constructor
      · intro met before call rest shape
        cases before with
        | nil =>
            cases shape
            exact met.1
        | cons first before =>
            cases shape
            exact met.2 before call rest rfl
      · intro met
        constructor
        · exact met [] head tail rfl
        · intro before call rest shape
          exact met (head :: before) call rest (congrArg (head :: ·) shape)

theorem throughout_and {serve : Call → State → Except Err Answer × State}
    {first second : Call → State → Prop} (calls : List Call) (state : State) :
    Throughout serve (fun call state => first call state ∧ second call state) calls state ↔
      Throughout serve first calls state ∧ Throughout serve second calls state := by
  induction calls generalizing state with
  | nil => simp [Throughout]
  | cons call rest ih =>
      simp only [Throughout, ih]
      tauto

section Agreement

variable {Other OtherErr : Type}

structure Mirror (serve : Call → State → Except Err Answer × State)
    (other : Call → Other → Except OtherErr Answer × Other)
    (condition : Call → State → Prop) (mirrors : State → Other → Prop) : Prop where
  kept : ∀ {call state image}, mirrors state image → condition call state →
    (other call image).1.toOption = (serve call state).1.toOption ∧
      mirrors (serve call state).2 (other call image).2
  broken : ∀ {call state image}, mirrors state image → ¬condition call state →
    (other call image).1.toOption ≠ (serve call state).1.toOption

/-- The backends agree on a history exactly if every call meets the condition. -/
theorem Mirror.agree_iff {serve : Call → State → Except Err Answer × State}
    {other : Call → Other → Except OtherErr Answer × Other}
    {condition : Call → State → Prop} {mirrors : State → Other → Prop}
    (mirror : Mirror serve other condition mirrors) (calls : List Call) {state : State}
    {image : Other} (same : mirrors state image) :
    outcomes other calls image = outcomes serve calls state ↔
      Throughout serve condition calls state := by
  induction calls generalizing state image with
  | nil => simp [outcomes, Throughout]
  | cons call rest ih =>
      rw [outcomes, outcomes, Throughout, List.cons.injEq]
      by_cases met : condition call state
      · have step := mirror.kept same met
        simp only [step.1, met, true_and]
        exact ih step.2
      · have differ := mirror.broken same met
        simp only [differ, met, false_and]

end Agreement

end Backends
