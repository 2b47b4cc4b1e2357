import SagaMind.Coordinator.Cluster

/-!
# Concurrent rollbacks

A rollback that moves a record to `COMPENSATING` claims it and compensates it
once. A rollback that finds a record there compensates it as well, although
another call may be doing so. Where no rollback finds one, each record is
compensated at most once under any interleaving.
-/

namespace SagaMind.ConcurrentRollback

open CallProgram KeyedTable Coordinator

set_option autoImplicit false

variable {Args : Type}

def compensates (sagaId stepId : String) : Call Args → Bool
  | .outside (.executeCompensation owner (some id) _) => owner = sagaId ∧ id = stepId
  | _ => false

def compensations (sagaId stepId : String) (trace : List (Event (coordinatorFace Args))) : Nat :=
  trace.countP fun event => compensates sagaId stepId event.request

def claimsOn (sagaId stepId : String) (progress : Progress Args) : Bool :=
  progress.claim = some (sagaId, stepId)

def budget : Option (Effect Args) → Nat
  | some record =>
      match record.state with
      | .compensating | .compensated | .compensationFailed => 1
      | _ => 0
  | none => 0

/-- A rollback does not read a record that is being compensated. The read that
follows a `COMPENSATION_FAILED` status is the failure handler's. -/
def readsUnclaimed (cluster : Cluster Args) (progress : Progress Args) : Call Args → Bool
  | .store (.getEffect sagaId stepId) => progress.handling ||
      (cluster.store.effect? sagaId stepId).all fun record => record.state ≠ .compensating
  | _ => true

structure Kept (cluster : Cluster Args) (trace : List (Event (coordinatorFace Args)))
    (notes : List (Progress Args)) : Prop where
  calm : ∀ progress ∈ notes, progress.found = none ∧ progress.recovering = false
  spent : ∀ sagaId stepId, compensations sagaId stepId trace +
    notes.countP (claimsOn sagaId stepId) ≤ budget (cluster.store.effect? sagaId stepId)

section Steps

variable {progress : Progress Args} {sagaId stepId : String}

theorem budget_mono {old new : Option (Effect Args)} (moves : Moves old new) :
    budget old ≤ budget new := by
  cases moves with
  | stay => exact le_rfl
  | register record fresh => simp [budget]
  | move old state result error along =>
      cases shape : old.state <;> cases state <;> simp_all [budget, edge]

theorem budget_le_one (record : Option (Effect Args)) : budget record ≤ 1 := by
  unfold budget
  split
  · split <;> omega
  · omega

def Affords (sagaId stepId : String) (request : Call Args) (before after : Progress Args)
    (old new : Option (Effect Args)) : Prop :=
  (compensates sagaId stepId request).toNat + (claimsOn sagaId stepId after).toNat + budget old ≤
    (claimsOn sagaId stepId before).toNat + budget new

theorem affords_kept {request : Call Args} {after : Progress Args} {old new : Option (Effect Args)}
    (quiet : compensates sagaId stepId request = false) (same : after.claim = progress.claim)
    (moves : Moves old new) : Affords sagaId stepId request progress after old new := by
  have grown := budget_mono moves
  simp only [Affords, quiet, claimsOn, same, Bool.toNat_false]
  omega

variable [DecidableEq Args]

/-- Taking a claim moves the record into `COMPENSATING`. -/
theorem affords_claim {store : Store Args} {owner id : String} {expected : List EffectState}
    {result : Option Args} {error : Option String}
    (here : Progress.allowed
      (.store (.transitionEffect owner id expected .compensating result error)) progress) :
    let request : StoreCall Args := .transitionEffect owner id expected .compensating result error
    Affords sagaId stepId (.store request) progress
      (progress.note (.store request) (request.serve store).1) (store.effect? sagaId stepId)
      ((request.serve store).2.effect? sagaId stepId) := by
  intro request
  have moves := serve_moves store request here sagaId stepId
  rcases store.transition_effect_cases owner id expected .compensating result error with
    ⟨entry, found, legal, same⟩ | ⟨_, refusal, same⟩
  · have fresh : budget (some entry) = 0 := by
      have along := here.1 _ legal
      cases shape : entry.state <;> simp_all [edge, budget]
    have ownId : entry.stepId = id := Table.find_key found
    by_cases mine : owner = sagaId ∧ id = stepId
    · obtain ⟨rfl, rfl⟩ := mine
      have marked : budget ((request.serve store).2.effect? owner id) = 1 := by
        simp [request, StoreCall.serve, same, ownId, budget]
      have claimed := Bool.toNat_le
        (claimsOn owner id (progress.note (.store request) (request.serve store).1))
      unfold Affords
      rw [marked, found, fresh]
      simp only [compensates, request, Bool.toNat_false] at claimed ⊢
      omega
    · have claimed : claimsOn sagaId stepId
          (progress.note (.store request) (request.serve store).1) = false := by
        simpa [request, StoreCall.serve, same, claimsOn, Progress.note, Progress.noteClaim]
          using mine
      have grown := budget_mono moves
      simp only [Affords, claimed, compensates, Bool.toNat_false]
      exact Nat.le_trans (by omega) (Nat.add_le_add_left grown _)
  · apply affords_kept rfl _ moves
    simp [request, StoreCall.serve, same, Progress.note, Progress.noteClaim]

theorem affords_store {store : Store Args} {request : StoreCall Args}
    (here : Progress.allowed (.store request) progress) :
    Affords sagaId stepId (.store request) progress
      (progress.note (.store request) (request.serve store).1) (store.effect? sagaId stepId)
      ((request.serve store).2.effect? sagaId stepId) := by
  have moves := serve_moves store request here sagaId stepId
  cases request with
  | transitionEffect owner id expected newState result error =>
      cases newState with
      | compensating => exact affords_claim here
      | _ => exact affords_kept rfl rfl moves
  | _ => exact affords_kept rfl rfl moves

/-- The step lemma: nothing is found claimed, and the budget holds. -/
theorem kept_call {before after : Cluster Args} {trace : List (Event (coordinatorFace Args))}
    {left right : List (Progress Args)} {owner : Nat} {request : Call Args}
    {reply : Except PyError request.Answer}
    (kept : Kept before trace (left ++ progress :: right))
    (here : Progress.allowed request progress ∧ request ≠ .store .listIncomplete)
    (unclaimed : readsUnclaimed before progress request = true)
    (served : serveInCluster owner request before reply after) :
    Kept after (trace ++ [⟨request, reply⟩]) (left ++ progress.note request reply :: right) := by
  obtain ⟨allowed, single⟩ := here
  obtain ⟨unfound, live⟩ :=
    kept.calm progress List.mem_append_cons_self
  have calm : (progress.note request reply).found = none ∧
      (progress.note request reply).recovering = false := by
    rcases request with request | request | request
    · exact ⟨unfound, live⟩
    · cases request with
      | listIncomplete => exact absurd rfl single
      | getEffect sagaId stepId =>
          obtain ⟨rfl, -⟩ := served
          refine ⟨?_, live⟩
          cases found : before.store.effect? sagaId stepId with
          | none =>
              simp only [StoreCall.serve, Store.getEffect, found]
              exact unfound
          | some record =>
              have honest : ¬(record.state = .compensating ∧ progress.handling = false) := by
                rintro ⟨marked, calm⟩
                simp [readsUnclaimed, found, marked, calm] at unclaimed
              simp [Progress.note, StoreCall.serve, Store.getEffect, found, Progress.noteFound, honest]
      | _ => exact ⟨unfound, live⟩
    · cases request with
      | executeCompensation => exact ⟨rfl, live⟩
      | _ => exact ⟨unfound, live⟩
  have affords : ∀ sagaId stepId, Affords sagaId stepId request progress
      (progress.note request reply) (before.store.effect? sagaId stepId)
      (after.store.effect? sagaId stepId) := by
    intro sagaId stepId
    rcases request with request | request | request
    · obtain ⟨-, rfl⟩ := served
      exact affords_kept rfl rfl (.stay _)
    · obtain ⟨rfl, rfl⟩ := served
      exact affords_store allowed
    · obtain rfl := served
      cases request with
      | executeCompensation owner id compensation =>
          rcases allowed with recovers | ⟨id, rfl, claimed | found⟩
          · rw [live] at recovers
            cases recovers
          · simp [Affords, compensates, claimsOn, claimed, Progress.note, Progress.noteClaim]
          · rw [unfound] at found
            cases found
      | _ => exact affords_kept rfl rfl (.stay _)
  constructor
  · exact Setting.every_replaced kept.calm calm
  · exact fun sagaId stepId => budget_advance _ _ (kept.spent sagaId stepId) (affords sagaId stepId)

end Steps

section Runs

variable [DecidableEq Args] [Inhabited Args]

theorem submissions_keep :
    (submissions fun (shared : Cluster Args) _ noted request =>
      readsUnclaimed shared noted request = true).Invariant
      (fun request noted => Progress.allowed request noted ∧ request ≠ .store .listIncomplete)
      Kept := by
  constructor
  · intro shared trace notes kept
    constructor
    · exact List.forall_mem_append.mpr ⟨kept.calm, List.forall_mem_singleton.mpr ⟨rfl, rfl⟩⟩
    · intro sagaId stepId
      rw [count_snoc]
      exact kept.spent sagaId stepId
  · exact fun kept here unclaimed served => kept_call kept here unclaimed served
  · exact fun kept subset lost => lost.1.elim

/-- As long as no rollback finds a record in `COMPENSATING`, each record is
compensated at most once. -/
theorem compensated_at_most_once {memories : Nat → Memory Args}
    {pool : Pool (coordinatorFace Args) PyError Unit Nat (Progress Args) (Cluster Args)}
    (reached : (submissions fun shared _ noted request =>
      readsUnclaimed shared noted request = true).Reachable ⟨.empty, memories⟩ pool)
    (sagaId stepId : String) : compensations sagaId stepId pool.trace ≤ 1 := by
  have sound := Setting.reachable_sound submissions_keep
    (cluster_obeys_live fun _ live => live)
    ⟨fun _ member => absurd member List.not_mem_nil, fun _ _ => Nat.zero_le _⟩ reached
  have spent := sound.holds.spent sagaId stepId
  have capped := budget_le_one (pool.shared.store.effect? sagaId stepId)
  omega

/-- Step `a` succeeds and every other action reports a failed result. -/
def failingAfterFirst : (request : OutsideCall Unit) → Except PyError request.Answer
  | .execute _ step => .ok (if step.stepId = "a" then .dict () else .none)
  | request => accepting request

/-- Step `a` commits, and then two more requests fail at the same time. -/
def failingRequests : List (Nat × ApiCall Unit) :=
  [(0, .execute "s" [sampleStep "a" none]), (0, .execute "s" [sampleStep "b" none]),
    (0, .execute "s" [sampleStep "c" none])]

def racingOrder : List Nat :=
  List.replicate 12 0 ++ List.replicate 11 1 ++ List.replicate 11 2 ++ [1]

theorem failing_requests_live : ∀ entry ∈ failingRequests, entry.2 ≠ .recover := by
  intro entry member
  simp only [failingRequests, List.mem_cons, List.not_mem_nil, or_false] at member
  rcases member with rfl | rfl | rfl <;> exact nofun

def raced
    (permits : Cluster Unit → List (Progress Unit) → Progress Unit → Call Unit → Prop)
    (check : Cluster Unit → List (Progress Unit) → Progress Unit → Call Unit → Bool) :
    Pool (coordinatorFace Unit) PyError Unit Nat (Progress Unit) (Cluster Unit) :=
  rehearsed (submissions permits) check failingAfterFirst failingRequests racingOrder

theorem raced_reachable
    {permits : Cluster Unit → List (Progress Unit) → Progress Unit → Call Unit → Prop}
    {check : Cluster Unit → List (Progress Unit) → Progress Unit → Call Unit → Bool}
    (sound : ∀ shared others noted request, check shared others noted request = true →
      permits shared others noted request) :
    (submissions permits).Reachable ⟨.empty, fun _ => sampleMemory⟩ (raced permits check) := by
  apply rehearsed_reachable sound
  exact failing_requests_live

def racedUnclaimed : Pool (coordinatorFace Unit) PyError Unit Nat (Progress Unit) (Cluster Unit) :=
  raced (fun shared _ noted request => readsUnclaimed shared noted request = true)
    fun shared _ noted request => readsUnclaimed shared noted request

theorem raced_compensates_once : compensations "s" "a" racedUnclaimed.trace ≤ 1 :=
  compensated_at_most_once (raced_reachable fun _ _ _ _ passed => passed) "s" "a"

/-- The branch for a record that is already `COMPENSATING` is open to a live
competitor as well. -/
theorem raced_compensates_twice :
    ¬∀ (memories : Nat → Memory Unit)
      (pool : Pool (coordinatorFace Unit) PyError Unit Nat (Progress Unit) (Cluster Unit))
      (sagaId stepId : String),
      (submissions fun _ _ _ _ => True).Reachable ⟨.empty, memories⟩ pool →
        compensations sagaId stepId pool.trace ≤ 1 := by
  intro claim
  have once := claim _ (raced (fun _ _ _ _ => True) fun _ _ _ _ => true) "s" "a"
    (raced_reachable fun _ _ _ _ _ => trivial)
  have twice : compensations "s" "a"
      (raced (fun _ _ _ _ => True) fun _ _ _ _ => true).trace = 2 := by
    decide
  rw [twice] at once
  omega

end Runs

end SagaMind.ConcurrentRollback
