import SagaMind.Foundation.Triple

/-!
# Programs that run one after another

A session is the run of one program to its end. Sessions work on one state,
each on the machine of its owner, and what may be started is a matter of the
state it is started in. A limit cuts runs that make a certain call.
-/

namespace CallProgram

set_option autoImplicit false

variable {face : Interface} {Err Value Owner State : Type}

def Program.finished : Program face Err Value → Bool
  | .call _ _ => false
  | _ => true

def Machine.limit (machine : Machine face State) (permits : face.Call → State → Prop) :
    Machine face State where
  allowed := machine.allowed
  step := fun request before reply after =>
    permits request before ∧ machine.step request before reply after

section Limit

variable {machine : Machine face State} {permits : face.Call → State → Prop}

theorem wp_limit {program : Program face Err Value} {post : Value → State → Prop}
    {failed : Err → State → Prop} {state : State} (run : wp machine program post failed state) :
    wp (machine.limit permits) program post failed state := by
  induction program generalizing state with
  | done value => exact run
  | raise error => exact run
  | call request next ih =>
      exact ⟨run.1, fun reply after taken => ih reply (run.2 reply after taken.2)⟩

/-- The first call of a limited run may be assumed to be permitted. -/
theorem wp_limit_perform {request : face.Call} {post : face.Answer request → State → Prop}
    {failed : face.Fault → State → Prop} {state : State} (here : machine.allowed request state)
    (run : permits request state → wp machine (Program.perform request) post failed state) :
    wp (machine.limit permits) (Program.perform request) post failed state := by
  rw [wp_perform]
  refine ⟨here, ?_⟩
  intro reply after ⟨permitted, taken⟩
  exact ((wp_perform _ _ _ _).mp (run permitted)).2 reply after taken

end Limit

theorem wp_over {machine : Machine face State} {inv : State → Prop}
    {program later : Program face Err Value} {state after : State}
    (run : wp machine program (fun _ => inv) (fun _ => inv) state)
    (steps : Steps machine program state later after) (finished : later.finished = true) : inv after := by
  have there := wp_steps run steps
  cases later with
  | done value => exact there
  | raise error => exact there
  | call request next => cases finished

/-- Where every call is answered, every program has a complete run. -/
theorem complete_run {machine : Machine face State}
    (answers : ∀ request state, ∃ reply after, machine.step request state reply after)
    (program : Program face Err Value) (state : State) :
    ∃ later after, Steps machine program state later after ∧ later.finished = true := by
  induction program generalizing state with
  | done value => exact ⟨_, _, .here, rfl⟩
  | raise error => exact ⟨_, _, .here, rfl⟩
  | call request next ih =>
      obtain ⟨reply, between, taken⟩ := answers request state
      obtain ⟨later, after, steps, finished⟩ := ih reply between
      exact ⟨later, after, .call taken steps, finished⟩

inductive Sessions (machine : Owner → Machine face State)
    (admits : Owner → State → Program face Err Value → Prop) (initial : State) : State → Prop
  | start : Sessions machine admits initial initial
  | session {before owner program later after}
      (earlier : Sessions machine admits initial before) (admitted : admits owner before program)
      (steps : Steps (machine owner) program before later after) (finished : later.finished = true) :
      Sessions machine admits initial after

variable {machine : Owner → Machine face State}
  {admits : Owner → State → Program face Err Value → Prop}

/-- The run lemma of sessions: an invariant need only hold between them. -/
theorem sessions_invariant {inv : State → Prop} {initial : State} (initially : inv initial)
    (kept : ∀ owner program state, inv state → admits owner state program →
      wp (machine owner) program (fun _ => inv) (fun _ => inv) state)
    {state : State} (reached : Sessions machine admits initial state) : inv state := by
  induction reached with
  | start => exact initially
  | session earlier admitted steps finished ih => exact wp_over (kept _ _ _ ih admitted) steps finished

section Rehearsal

variable (answer : Owner → (request : face.Call) → State → face.Reply request × State)
  (check : Owner → face.Call → State → Bool)

/-- Run a program to its end, answered in one way. It fails where the fuel is
spent and at a call that the check refuses. -/
def runToEnd (owner : Owner) : Nat → Program face Err Value → State → Option State
  | _, .done _, state => some state
  | _, .raise _, state => some state
  | 0, .call _ _, _ => none
  | fuel + 1, .call request next, state =>
      if check owner request state then
        runToEnd owner fuel (next (answer owner request state).1) (answer owner request state).2
      else none

def inTurn (fuel : Nat) (initial : State) (programs : List (Owner × Program face Err Value)) :
    State :=
  programs.foldl (fun state entry =>
    (runToEnd answer check entry.1 fuel entry.2 state).getD state) initial

variable {answer check} {permits : Owner → face.Call → State → Prop}
  (honest : ∀ owner request state, (machine owner).step request state
    (answer owner request state).1 (answer owner request state).2)
  (sound : ∀ owner request state, check owner request state = true →
    permits owner request state)

include honest sound

theorem run_to_end_steps {owner : Owner} {fuel : Nat} {program : Program face Err Value}
    {state after : State} (ended : runToEnd answer check owner fuel program state = some after) :
    ∃ later, Steps ((machine owner).limit (permits owner)) program state later after ∧
      later.finished = true := by
  induction fuel generalizing program state with
  | zero =>
      cases program with
      | done value =>
          obtain rfl := Option.some.inj ended
          exact ⟨_, .here, rfl⟩
      | raise error =>
          obtain rfl := Option.some.inj ended
          exact ⟨_, .here, rfl⟩
      | call request next => cases ended
  | succ fuel ih =>
      cases program with
      | done value =>
          obtain rfl := Option.some.inj ended
          exact ⟨_, .here, rfl⟩
      | raise error =>
          obtain rfl := Option.some.inj ended
          exact ⟨_, .here, rfl⟩
      | call request next =>
          unfold runToEnd at ended
          split at ended
          · rename_i passed
            obtain ⟨later, steps, finished⟩ := ih ended
            exact ⟨later, .call ⟨sound owner request state passed, honest owner request state⟩ steps, finished⟩
          · cases ended

theorem in_turn_sessions (fuel : Nat) {initial : State}
    (programs : List (Owner × Program face Err Value))
    (admitted : ∀ entry ∈ programs, ∀ state, admits entry.1 state entry.2) :
    Sessions (fun owner => (machine owner).limit (permits owner)) admits initial
      (inTurn answer check fuel initial programs) := by
  unfold inTurn
  suffices general : ∀ state,
      Sessions (fun owner => (machine owner).limit (permits owner)) admits initial state →
      Sessions (fun owner => (machine owner).limit (permits owner)) admits initial
        (programs.foldl (fun state entry =>
          (runToEnd answer check entry.1 fuel entry.2 state).getD state) state) from
    general initial .start
  induction programs with
  | nil => exact fun state reached => reached
  | cons entry rest ih =>
      intro state reached
      apply ih fun other member => admitted other (List.mem_cons_of_mem _ member)
      dsimp only
      cases ended : runToEnd answer check entry.1 fuel entry.2 state with
      | none => exact reached
      | some after =>
          obtain ⟨later, steps, finished⟩ := run_to_end_steps honest sound ended
          exact .session reached (admitted entry (List.mem_cons_self ..) state) steps finished

end Rehearsal

end CallProgram
