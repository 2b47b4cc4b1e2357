import SagaMind.AllOrNothing.Execution

/-!
# All or nothing

One batch of a new saga, cut by any number of crashes, each followed by a
recovery that may be cut as well.
-/

namespace SagaMind.AllOrNothing

open CallProgram KeyedTable Coordinator Undoing Walk Workshop

set_option autoImplicit false

variable {Args W : Type}

section Schedules

variable [DecidableEq Args] {batch : Batch Args W} {self rescuer : Coordinator}
  {initial opened state : System Args (Site Args W)}

/-- The saga is new to the store, and nothing has happened to its world. -/
structure Fresh (batch : Batch Args W) (state : System Args (Site Args W)) : Prop where
  journal : (state.store.effects batch.sagaId).rows = []
  keys : state.store.idem batch.sagaId = ∅
  log : state.store.comps batch.sagaId = []
  world : state.world = { world := batch.start }

theorem starts_saga (journaled : self.store = .journaled) {goal tenantId : String}
    (fresh : Fresh batch state) :
    wp (machine (bench batch) fun _ => True)
      (self.startTransactionLog batch.sagaId goal tenantId)
      (fun _ after => Running batch [] [] after) (fun _ _ => True) state := by
  have opening : Running batch [] [] { state with
      store := state.store.writeTransactionState batch.sagaId .running
        { goal := some goal, tenantId := some tenantId }
      memory := ((MemoryCall.registerSaga
        { sagaId := batch.sagaId, tenantId, goal, status := .running }).serve state.memory).2 } := by
    constructor
    · constructor
      · refine ⟨{ sagaId := batch.sagaId, tenantId, goal, status := .running }, ?_, rfl⟩
        simp [MemoryCall.serve]
      · intro key published
        have unknown : state.store.stepAlreadyCommitted batch.sagaId key = true := published
        simp [Store.stepAlreadyCommitted, fresh.keys] at unknown
    · constructor
      · exact ⟨_, by rw [Store.find_write_state, if_pos rfl], rfl, rfl⟩
      · exact ⟨fresh.journal, by simp, by simp, by simp⟩
      · exact .nothing
      · constructor
        · simp [fresh.world, Stacked.nil]
        · simp [fresh.world]
        · exact ⟨[], batch.steps, rfl, by simp [fresh.world]⟩
      · rintro _ ⟨⟩
      · exact fresh.log
    · rfl
    · simp [fresh.world, deeds]
    · simp [fresh.world]
  unfold startTransactionLog
  rw [wp_bind]
  apply wp_memory trivial
  rw [wp_ite]
  split
  · trivial
  · rw [wp_bind]
    apply wp_memory trivial
    rw [write_status_journaled journaled]
    apply wp_write_state trivial
    exact opening

def crash (state : System Args (Site Args W)) : System Args (Site Args W) :=
  { state with memory := .empty }

/-- However often the batch and its recoveries are cut, once one of them
completes the batch is in place as a whole or taken back as a whole. -/
theorem all_or_nothing [Inhabited Args] (journaled : self.store = .journaled)
    (rescuing : rescuer.store = .journaled) (resolves : rescuer.resolvesEffects = true)
    (settles : rescuer.resolvesCompensations = true) {goal tenantId : String}
    (fresh : Fresh batch initial)
    (started : Steps (machine (bench batch) fun _ => True)
      (self.startTransactionLog batch.sagaId goal tenantId) initial (.done ()) opened)
    (completed : Completed (machine (bench batch) fun _ => True) crash
      (self.executeSaga batch.sagaId batch.steps) rescuer.recover opened state) :
    Outcome batch state := by
  have running : Running batch [] [] opened := wp_steps (starts_saga journaled fresh) started
  have worked : wp (benching batch) (self.executeSaga batch.sagaId batch.steps)
      (fun _ after => Outcome batch after) (fun _ after => Safe batch after) opened := by
    apply wp_unfailing (executes_saga journaled running)
    exact fun _ _ outcome => outcome
  have recovered : ∀ state, Safe batch state →
      wp (benching batch) rescuer.recover (fun _ after => Outcome batch after)
        (fun _ after => Safe batch after) (crash state) := by
    intro state safe
    exact recovers rescuing resolves settles (safe.aside ⟨rfl, rfl, rfl, rfl, rfl⟩)
  exact @completed_goal (coordinatorFace Args) _ _ _ _ _ (machine (bench batch) fun _ => True) crash
    _ _ opened state (Safe batch) (Outcome batch) (fun _ => .inl) worked recovered completed

end Schedules

section Runs

def deposits : Batch Nat Nat where
  sagaId := "s"
  sandbox := account
  start := 5
  steps := [deposit "a" 2, deposit "b" 3]
  distinct := by decide
  keyed := by decide
  ungated := by decide
  reversible := by
    intro step member
    simp only [List.mem_cons, List.not_mem_nil, or_false] at member
    rcases member with rfl | rfl
    all_goals exact deposit_reversible _ _

def honest : (request : OutsideCall Nat) → Site Nat Nat →
    Except PyError request.Answer × Site Nat Nat
  | .verify .., site => (.ok (true, ""), site)
  | .validate _, site => (.ok (), site)
  | .execute _ step, site => (.ok (.dict 0), { site with
      world := site.world + step.action.arguments
      executed := deed step :: site.executed })
  | .executeCompensation owner stepId compensation, site =>
      (.ok true, if owner = "s" then { site with
        world := site.world - compensation.arguments
        compensated := site.compensated ++ [(stepId, compensation)] } else site)
  | .resolveEffect effect, site =>
      (.ok (.bool (decide (effect.stepId ∈ site.executed.map Deed.stepId))), site)
  | .resolveCompensation effect, site =>
      (.ok (.bool (decide (some effect.stepId ∈ site.compensated.map Prod.fst))), site)
  | .executeIdempotent .., site => (.ok .none, site)

theorem truthful_bool {took : Prop} [Decidable took] :
    Truthful took (.ok (.bool (decide took))) := by
  refine ⟨_, rfl, ?_, ?_⟩
  · intro yes
    simp [yes, normaliseResolution]
  · intro no
    simp [no, normaliseResolution]

theorem honest_bench (request : OutsideCall Nat) (site : Site Nat Nat) :
    (bench deposits).respond request site (honest request site).1 (honest request site).2 := by
  cases request with
  | verify arguments invariants => simp [bench, workshop, honest]
  | execute sagaId step => exact ⟨.dict 0, rfl, _, rfl, rfl⟩
  | executeCompensation owner stepId compensation =>
      by_cases own : owner = "s"
      · subst own
        exact ⟨_, ⟨rfl, rfl⟩, rfl⟩
      · simp [bench, deposits, honest, own]
  | resolveEffect effect => exact ⟨rfl, fun _ => truthful_bool⟩
  | resolveCompensation effect => exact ⟨rfl, fun _ => truthful_bool⟩
  | _ => rfl

def worker : Coordinator where
  store := .journaled

def run {Value : Type} (count : Nat) (program : Action Nat Value)
    (state : System Nat (Site Nat Nat)) : Action Nat Value × System Nat (Site Nat Nat) :=
  simulate (answerWith (bench deposits) honest) count program state

theorem run_steps {Value : Type} (count : Nat) (program : Action Nat Value)
    (state : System Nat (Site Nat Nat)) :
    Steps (machine (bench deposits) fun _ => True) program state (run count program state).1
      (run count program state).2 :=
  simulate_steps (answer_with_honest honest_bench) count program state

def morning : System Nat (Site Nat Nat) :=
  (run 10 (worker.startTransactionLog "s" "" "") ⟨.empty, .empty, { world := 5 }⟩).2

def firstCut : System Nat (Site Nat Nat) :=
  (run 15 (worker.executeSaga "s" deposits.steps) morning).2

def secondCut : System Nat (Site Nat Nat) := (run 5 worker.recover (crash firstCut)).2

def evening : System Nat (Site Nat Nat) := (run 40 worker.recover (crash secondCut)).2

theorem deposits_taken_back_as_a_whole : Outcome deposits evening := by
  have started := run_steps 10 (worker.startTransactionLog "s" "" "")
    ⟨.empty, .empty, { world := 5 }⟩
  have working := run_steps 15 (worker.executeSaga "s" deposits.steps) morning
  have recovering := run_steps 5 worker.recover (crash firstCut)
  have ended : Steps (machine (bench deposits) fun _ => True) worker.recover (crash secondCut)
      (.done 1) evening := run_steps 40 worker.recover (crash secondCut)
  exact @all_or_nothing Nat Nat _ deposits worker worker _ morning evening _ rfl rfl rfl rfl "" ""
    ⟨rfl, rfl, rfl, rfl⟩ started (.recovered (.recovering (.working working) recovering) ended)

end Runs

end SagaMind.AllOrNothing
