import SagaMind.Coordinator.Cluster
import SagaMind.Foundation.Sessions

/-!
# Coordinators that take turns

Any number of coordinators over one store, one call of an operator after the
other and none of them interrupted. A coordinator that takes over from another
starts with an empty memory.
-/

namespace SagaMind

open CallProgram KeyedTable Coordinator

set_option autoImplicit false

variable {Args : Type}

def anyone : Outside Args Unit where
  respond := fun _ _ _ _ => True
  observe := fun _ _ world => world

def Cluster.seat (cluster : Cluster Args) (owner : Nat) : System Args Unit :=
  ⟨cluster.store, cluster.memories owner, ()⟩

def Cluster.fresh : Cluster Args := ⟨.empty, fun _ => .empty⟩

variable [DecidableEq Args]

abbrev running : Machine (coordinatorFace Args) (System Args Unit) :=
  machine anyone fun _ => True

theorem serves_running : Serves anyone (running : Machine (coordinatorFace Args) _) :=
  fun taken => taken

theorem runs_anyhow {Err Value : Type} (program : Program (coordinatorFace Args) Err Value)
    (state : System Args Unit) : wp running program (fun _ _ => True) (fun _ _ => True) state :=
  conforms_free (fun _ _ => trivial) program state

def turn (owner : Nat) : Machine (coordinatorFace Args) (Cluster Args) where
  allowed := fun _ _ => True
  step := serveInCluster owner

def limitedTurn (permits : Call Args → System Args Unit → Prop) (owner : Nat) :
    Machine (coordinatorFace Args) (Cluster Args) :=
  (turn owner).limit fun request cluster => permits request (cluster.seat owner)

/-- What is proved of a system at its calls holds of the coordinator's turn. -/
theorem wp_turn {Err Value : Type} {inv : System Args Unit → Prop}
    {permits : Call Args → System Args Unit → Prop} {owner : Nat}
    {program : Program (coordinatorFace Args) Err Value}
    {post : Value → System Args Unit → Prop} {failed : Err → System Args Unit → Prop}
    {cluster : Cluster Args}
    (run : wp ((machine anyone inv).limit permits) program post failed (cluster.seat owner)) :
    wp ((limitedTurn permits owner).guard fun _ after => inv (after.seat owner)) program
      (fun value after => post value (after.seat owner))
      (fun error after => failed error (after.seat owner)) cluster := by
  have simulated := @wp_simulated (coordinatorFace Args) (Cluster Args) Err Value
    ((limitedTurn permits owner).guard fun _ after => inv (after.seat owner)) (System Args Unit)
    ((machine anyone inv).limit permits) (fun system cluster => system = cluster.seat owner)
  apply wp_mono (simulated _ _ rfl run)
  · rintro value after ⟨last, reached, rfl⟩
    exact reached
  · rintro error after ⟨last, reached, rfl⟩
    exact reached
  · rintro request inner cluster rfl here
    exact here
  · rintro request inner before reply after rfl _ ⟨permitted, served⟩
    rcases request with request | request | request
    · obtain ⟨rfl, rfl⟩ := served
      refine ⟨_, ⟨permitted, rfl, rfl⟩, ?_⟩
      simp [Cluster.seat]
    · obtain ⟨rfl, rfl⟩ := served
      exact ⟨_, ⟨permitted, rfl, rfl⟩, rfl⟩
    · obtain rfl := served
      exact ⟨_, ⟨permitted, (), trivial, rfl⟩, rfl⟩

/-- At the end of a confined program the other sagas are as they were. -/
theorem wp_untouched_limit {Err Value : Type} {permits : Call Args → System Args Unit → Prop}
    {sagaId : String} {program : Program (coordinatorFace Args) Err Value}
    (confined : Uses (ConfinedTo sagaId) program) {post : Value → System Args Unit → Prop}
    {failed : Err → System Args Unit → Prop} {state : System Args Unit}
    (run : wp (running.limit permits) program post failed state) :
    wp (running.limit permits) program
      (fun value after => post value after ∧ Untouched sagaId state.store after.store)
      (fun error after => failed error after ∧ Untouched sagaId state.store after.store) state := by
  exact @wp_related (coordinatorFace Args) (System Args Unit) Err Value
    (running.limit permits) (ConfinedTo sagaId)
    (fun before after => Untouched sagaId before.store after.store)
    (fun before => .refl before.store) (fun left right => left.trans right)
    (fun _ _ _ _ own taken => untouched_call own taken.2) program confined post failed state run

variable [Inhabited Args]

/-- The states between the calls that operators make of journaled coordinators,
one at a time, on a store that was empty. -/
abbrev Turns (permits : Call Args → System Args Unit → Prop) : Cluster Args → Prop :=
  Sessions (limitedTurn permits)
    (fun _ _ program => ∃ (self : Coordinator) (request : ApiCall Args),
      self.store = .journaled ∧ program = request.program self) .fresh

def rehearsedTurns (check : Call Unit → System Unit Unit → Bool)
    (outcome : (request : OutsideCall Unit) → Except PyError request.Answer)
    (requests : List (Nat × ApiCall Unit)) : Cluster Unit :=
  inTurn (answerInCluster outcome) (fun owner request cluster => check request (cluster.seat owner))
    100 .fresh (requests.map fun entry => (entry.1, entry.2.program sampleWorker))

theorem rehearsed_turns_reached {permits : Call Unit → System Unit Unit → Prop}
    {check : Call Unit → System Unit Unit → Bool}
    (sound : ∀ request state, check request state = true → permits request state)
    (outcome : (request : OutsideCall Unit) → Except PyError request.Answer)
    (requests : List (Nat × ApiCall Unit)) :
    Turns permits (rehearsedTurns check outcome requests) := by
  apply in_turn_sessions
  · exact answer_in_cluster_honest outcome
  · exact fun owner request cluster passed => sound request _ passed
  · intro entry member
    obtain ⟨request, listed, rfl⟩ := List.mem_map.mp member
    intro _
    exact ⟨sampleWorker, request.2, rfl, rfl⟩

end SagaMind
