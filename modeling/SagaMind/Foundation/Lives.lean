import SagaMind.Foundation.Sessions

/-!
# Programs in turn on a state that survives crashes

One program runs after another on one state. A crash may cut a program between
any two calls and takes part of the state with it. What may be started, and
where a crash may strike, is a matter of the state.
-/

namespace CallProgram

set_option autoImplicit false

variable {face : Interface} {Err Value State : Type}

inductive Lives (machine : Machine face State) (admits : State → Program face Err Value → Prop)
    (strikes : State → Prop) (crash : State → State) (initial : State) : State → Prop
  | start : Lives machine admits strikes crash initial initial
  | served {before program later after}
      (earlier : Lives machine admits strikes crash initial before)
      (admitted : admits before program) (steps : Steps machine program before later after)
      (finished : later.finished = true) : Lives machine admits strikes crash initial after
  | crashed {before program later after}
      (earlier : Lives machine admits strikes crash initial before)
      (admitted : admits before program) (steps : Steps machine program before later after)
      (struck : strikes after) : Lives machine admits strikes crash initial (crash after)

section Rule

variable {machine : Machine face State} {admits : State → Program face Err Value → Prop}
  {strikes : State → Prop} {crash : State → State} {initial state : State} {inv cut : State → Prop}

/-- The run lemma of lives: `inv` holds between programs, and every point of a
program meets `cut`, from which a crash leads back to `inv`. -/
theorem lives_invariant (initially : inv initial) (reached : ∀ state, inv state → cut state)
    (kept : ∀ program state, inv state → admits state program →
      wp (machine.guard fun _ => cut) program (fun _ => inv) (fun _ => inv) state)
    (restarted : ∀ state, cut state → strikes state → inv (crash state))
    (lives : Lives machine admits strikes crash initial state) : inv state := by
  induction lives with
  | start => exact initially
  | served earlier admitted steps finished ih =>
      exact wp_over (kept _ _ ih admitted) (steps.guard _) finished
  | crashed earlier admitted steps struck ih =>
      apply restarted _ _ struck
      apply wp_cut (kept _ _ ih admitted) _ _ _ (steps.guard _)
      · exact fun _ _ here => here
      · exact fun _ last ends => reached last ends
      · exact fun _ last ends => reached last ends

end Rule

section Rehearsal

variable {Entry : Type} (answer : (request : face.Call) → State → face.Reply request × State)
  (program : Entry → Program face Err Value) (accepts : State → Entry → Bool)
  (strike : State → Bool) (crash : State → State)

def liveThrough (fuel : Nat) (state : State) (entry : Entry × Option Nat) : State :=
  if accepts state entry.1 then
    let last := simulate answer (entry.2.getD fuel) (program entry.1) state
    match entry.2 with
    | none => if last.1.finished then last.2 else state
    | some _ => if strike last.2 then crash last.2 else state
  else state

variable {answer program accepts strike crash} {machine : Machine face State}
  {admits : State → Program face Err Value → Prop} {strikes : State → Prop} {initial : State}

theorem live_through_lives
    (honest : ∀ request state,
      machine.step request state (answer request state).1 (answer request state).2)
    (admitted : ∀ state entry, accepts state entry = true → admits state (program entry))
    (struck : ∀ state, strike state = true → strikes state) (fuel : Nat)
    (entries : List (Entry × Option Nat)) :
    Lives machine admits strikes crash initial
      (entries.foldl (liveThrough answer program accepts strike crash fuel) initial) := by
  suffices general : ∀ state, Lives machine admits strikes crash initial state →
      Lives machine admits strikes crash initial
        (entries.foldl (liveThrough answer program accepts strike crash fuel) state) from
    general initial .start
  induction entries with
  | nil => exact fun state lives => lives
  | cons entry rest ih =>
      intro state lives
      apply ih
      have steps := simulate_steps honest (entry.2.getD fuel) (program entry.1) state
      unfold liveThrough
      split
      · rename_i passed
        dsimp only
        split
        · split
          · rename_i finished
            exact .served lives (admitted state entry.1 passed) steps finished
          · exact lives
        · split
          · rename_i fatal
            exact .crashed lives (admitted state entry.1 passed) steps (struck _ fatal)
          · exact lives
      · exact lives

end Rehearsal

end CallProgram
