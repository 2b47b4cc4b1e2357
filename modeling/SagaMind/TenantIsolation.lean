import Mathlib.Data.List.Induction
import SagaMind.Memory.Consolidation

/-!
# Isolation of tenants in memory retrieval

Two histories with the same operations of one tenant are compared through what
`GET /memory/active` returns to it. The memories are the same; the related
concepts are looked up under the agent role, which tenants share, so they are
the same as long as no other tenant clusters a memory of a returned role.
-/

namespace SagaMind.TenantIsolation

open EpisodicMemory KeyedTable

set_option autoImplicit false

variable {Embedding Number Instant Context : Type}

structure MemoryState (Embedding Number Instant Context : Type) where
  episodes : List (Episode Embedding Number Instant Context)
  graph : List Relationship

inductive Operation (Embedding Number Instant Context : Type) where
  /-- `POST /memory`: `write_episodic_memory` at some instant. -/
  | ingest (memoryId tenantId agentRole summary : String) (importance : Number)
      (embedding : Embedding) (context : Context) (now : Instant)
  /-- A consolidation cycle. -/
  | consolidate (tenantId : String) (eps : Number)

namespace Operation

def tenantId : Operation Embedding Number Instant Context → String
  | ingest _ tenantId _ _ _ _ _ _ => tenantId
  | consolidate tenantId _ => tenantId

end Operation

section Running

variable [LinearOrder Number] (consolidator : Consolidator Embedding Number)

def perform (state : MemoryState Embedding Number Instant Context) :
    Operation Embedding Number Instant Context → MemoryState Embedding Number Instant Context
  | .ingest memoryId tenantId agentRole summary importance embedding context now =>
      { state with episodes := state.episodes ++
          [{ memoryId, tenantId, createdAt := now, lastRetrievedAt := now, agentRole, summary
             importanceScore := importance, retrievalCount := 0, embedding
             contextData := context }] }
  | .consolidate tenantId eps =>
      { state with
        graph := (runConsolidationCycle consolidator state.episodes state.graph tenantId eps).2 }

def run (history : List (Operation Embedding Number Instant Context)) :
    MemoryState Embedding Number Instant Context :=
  history.foldl (perform consolidator) ⟨[], []⟩

end Running

section Retrieval

/-- One element of `active_memories`. -/
structure ActiveMemory (Embedding Number Instant Context : Type) where
  episode : Episode Embedding Number Instant Context
  retention : Number
  relatedConcepts : List String

structure ActiveResponse (Embedding Number Instant Context : Type) where
  activeMemories : List (ActiveMemory Embedding Number Instant Context)
  limit : Nat
  offset : Nat
  count : Nat

/-- The parameters of a request, and the clock during it. -/
structure ActiveRequest (Embedding Instant : Type) where
  boundTenant : Option String
  tenantId : String
  queryVector : Embedding
  limit : Nat
  offset : Nat
  now : Instant
  retrievedAt : Instant

inductive HttpError where
  | forbidden (detail : String)
  deriving DecidableEq

def enforceTenantAccess (boundTenant : Option String) (tenantId : String) :
    Except HttpError Unit :=
  match boundTenant with
  | some bound =>
      if bound ≠ tenantId then .error (.forbidden "API key is not authorized for this tenant.")
      else .ok ()
  | none => .ok ()

/-- `m["related_concepts"]`. -/
def relatedConcepts (graph : List Relationship) (agentRole : String) : List String :=
  ((getNeighbors graph agentRole).filter fun neighbor =>
    neighbor.type = "DISCOVERED_CONCEPT").map Neighbor.target

variable [LinearOrder Number] (scoring : Scoring Embedding Number Instant)

/-- `retrieve_active_memories` of a request. -/
def retrieved (request : ActiveRequest Embedding Instant)
    (state : MemoryState Embedding Number Instant Context) :
    List (Episode Embedding Number Instant Context × Number) :=
  fallbackActive scoring state.episodes request.tenantId request.queryVector request.limit
    request.offset request.now

/-- `GET /memory/active`, with the store it leaves. -/
def getActiveMemories (request : ActiveRequest Embedding Instant)
    (state : MemoryState Embedding Number Instant Context) :
    Except HttpError (ActiveResponse Embedding Number Instant Context) ×
      MemoryState Embedding Number Instant Context :=
  match enforceTenantAccess request.boundTenant request.tenantId with
  | .error error => (.error error, state)
  | .ok () =>
      let active := retrieved scoring request state
      let marked := markRetrieved state.episodes (active.map fun entry => entry.1.memoryId)
        request.retrievedAt
      let activeMemories := active.map fun entry =>
        { episode := { entry.1 with
            retrievalCount := entry.1.retrievalCount + 1
            lastRetrievedAt := request.retrievedAt }
          retention := entry.2
          relatedConcepts := relatedConcepts state.graph entry.1.agentRole }
      (.ok { activeMemories, limit := request.limit, offset := request.offset
             count := active.length }, { state with episodes := marked })

end Retrieval

section Sharing

variable [LinearOrder Number] (consolidator : Consolidator Embedding Number)

def ownOperations (tenantId : String)
    (history : List (Operation Embedding Number Instant Context)) :
    List (Operation Embedding Number Instant Context) :=
  history.filter fun operation => operation.tenantId = tenantId

def Clusters (state : MemoryState Embedding Number Instant Context) (tenantId : String)
    (eps : Number) (agentRole : String) : Prop :=
  let episodes := getAllMemories state.episodes tenantId
  let dist := consolidator.distanceMatrix (episodes.map Episode.embedding)
  2 ≤ episodes.length ∧ ∃ entry ∈ (EpisodicMemory.cluster dist episodes eps 2).rows,
    2 ≤ entry.2.length ∧ ∃ item ∈ entry.2, item.agentRole = agentRole

def Shared (tenantId : String) (history : List (Operation Embedding Number Instant Context))
    (agentRole : String) : Prop :=
  ∃ before other eps rest, history = before ++ .consolidate other eps :: rest ∧
    other ≠ tenantId ∧ Clusters consolidator (run consolidator before) other eps agentRole

/-- No memory that the request returns has a role that another tenant clusters. -/
def Unshared (scoring : Scoring Embedding Number Instant)
    (request : ActiveRequest Embedding Instant)
    (history : List (Operation Embedding Number Instant Context)) : Prop :=
  enforceTenantAccess request.boundTenant request.tenantId = .ok () →
    ∀ entry ∈ retrieved scoring request (run consolidator history),
      ¬Shared consolidator request.tenantId history entry.1.agentRole

end Sharing

section Concepts

variable [LinearOrder Number] {consolidator : Consolidator Embedding Number}

def discovered (consolidator : Consolidator Embedding Number) (agentRole : String)
    (entry : Nat × List (Episode Embedding Number Instant Context)) : List String :=
  if entry.2.length < 2 then []
  else (entry.2.filter fun item => item.agentRole = agentRole).map fun _ =>
    labelCluster consolidator entry.1 entry.2

theorem related_concepts_append (graph edges : List Relationship) (agentRole : String) :
    relatedConcepts (graph ++ edges) agentRole =
      relatedConcepts graph agentRole ++ relatedConcepts edges agentRole := by
  simp [relatedConcepts, getNeighbors]

omit [LinearOrder Number] in
theorem related_concepts_cluster (graph : List Relationship) (agentRole : String)
    (entry : Nat × List (Episode Embedding Number Instant Context)) :
    relatedConcepts (writeCluster consolidator graph entry) agentRole =
      relatedConcepts graph agentRole ++ discovered consolidator agentRole entry := by
  rw [writeCluster, discovered]
  split
  · rw [List.append_nil]
  · generalize labelCluster consolidator entry.1 entry.2 = concept
    induction entry.2 generalizing graph with
    | nil => simp
    | cons item rest ih =>
        rw [List.foldl_cons, ih, upsertRelationship, upsertRelationship,
          related_concepts_append, related_concepts_append, List.filter_cons]
        by_cases role : item.agentRole = agentRole <;>
          simp [relatedConcepts, getNeighbors, role, List.append_assoc]

omit [LinearOrder Number] in
theorem related_concepts_clusters (graph : List Relationship) (agentRole : String)
    (clusters : List (Nat × List (Episode Embedding Number Instant Context))) :
    relatedConcepts (clusters.foldl (writeCluster consolidator) graph) agentRole =
      relatedConcepts graph agentRole ++
        clusters.flatMap (discovered consolidator agentRole) := by
  induction clusters generalizing graph with
  | nil => simp
  | cons entry rest ih =>
      rw [List.foldl_cons, ih, related_concepts_cluster, List.flatMap_cons, List.append_assoc]

def cycleConcepts (consolidator : Consolidator Embedding Number) (eps : Number)
    (agentRole : String) (episodes : List (Episode Embedding Number Instant Context)) :
    List String :=
  if episodes.length < 2 then []
  else
    let dist := consolidator.distanceMatrix (episodes.map Episode.embedding)
    (EpisodicMemory.cluster dist episodes eps 2).rows.flatMap (discovered consolidator agentRole)

theorem related_concepts_cycle (episodes : List (Episode Embedding Number Instant Context))
    (graph : List Relationship) (tenantId : String) (eps : Number) (agentRole : String) :
    relatedConcepts (runConsolidationCycle consolidator episodes graph tenantId eps).2 agentRole =
      relatedConcepts graph agentRole ++
        cycleConcepts consolidator eps agentRole (getAllMemories episodes tenantId) := by
  simp only [runConsolidationCycle, cycleConcepts]
  split
  · rw [List.append_nil]
  · exact related_concepts_clusters ..

/-- A cycle adds nothing for a role exactly if it clusters no memory of it. -/
theorem cycle_concepts_nil_iff (consolidator : Consolidator Embedding Number)
    (state : MemoryState Embedding Number Instant Context)
    (tenantId : String) (eps : Number) (agentRole : String) :
    cycleConcepts consolidator eps agentRole (getAllMemories state.episodes tenantId) = [] ↔
      ¬Clusters consolidator state tenantId eps agentRole := by
  simp only [cycleConcepts, Clusters]
  by_cases few : (getAllMemories state.episodes tenantId).length < 2
  · rw [if_pos few]
    apply iff_of_true rfl
    intro clusters
    have many := clusters.1
    omega
  · rw [if_neg few, List.flatMap_eq_nil_iff]
    constructor
    · intro nothing clusters
      obtain ⟨-, entry, member, large, item, inside, role⟩ := clusters
      have none := nothing entry member
      rw [discovered, if_neg (by omega), List.map_eq_nil_iff, List.filter_eq_nil_iff] at none
      exact none item inside (by simpa using role)
    · intro spared entry member
      rw [discovered]
      split
      · rfl
      · rw [List.map_eq_nil_iff, List.filter_eq_nil_iff]
        intro item inside role
        exact spared ⟨by omega, entry, member, by omega, item, inside, by simpa using role⟩

end Concepts

section Histories

variable [LinearOrder Number] {consolidator : Consolidator Embedding Number}

theorem run_snoc (history : List (Operation Embedding Number Instant Context))
    (operation : Operation Embedding Number Instant Context) :
    run consolidator (history ++ [operation]) =
      perform consolidator (run consolidator history) operation := by
  rw [run, List.foldl_append]
  rfl

omit [LinearOrder Number] in
theorem own_snoc (tenantId : String)
    (history : List (Operation Embedding Number Instant Context))
    (operation : Operation Embedding Number Instant Context) :
    ownOperations tenantId (history ++ [operation]) =
      if operation.tenantId = tenantId then ownOperations tenantId history ++ [operation]
      else ownOperations tenantId history := by
  rw [ownOperations, List.filter_append, List.filter_singleton]
  by_cases own : operation.tenantId = tenantId <;> simp [own, ownOperations]

/-- An operation of another tenant leaves the memories of a tenant alone. -/
theorem memories_other (state : MemoryState Embedding Number Instant Context)
    {operation : Operation Embedding Number Instant Context} {tenantId : String}
    (foreign : operation.tenantId ≠ tenantId) :
    getAllMemories (perform consolidator state operation).episodes tenantId =
      getAllMemories state.episodes tenantId := by
  cases operation with
  | consolidate other eps => rfl
  | ingest memoryId other agentRole summary importance embedding context now =>
      have apart : other ≠ tenantId := foreign
      simp [perform, getAllMemories, apart]

/-- An operation changes the memories of a tenant as those memories decide. -/
theorem memories_same {left right : MemoryState Embedding Number Instant Context}
    (operation : Operation Embedding Number Instant Context) {tenantId : String}
    (same : getAllMemories left.episodes tenantId = getAllMemories right.episodes tenantId) :
    getAllMemories (perform consolidator left operation).episodes tenantId =
      getAllMemories (perform consolidator right operation).episodes tenantId := by
  cases operation with
  | consolidate other eps => exact same
  | ingest memoryId other agentRole summary importance embedding context now =>
      simp only [getAllMemories] at same
      simp only [perform, getAllMemories, List.filter_append, same]

theorem own_memories (consolidator : Consolidator Embedding Number) (tenantId : String)
    (history : List (Operation Embedding Number Instant Context)) :
    getAllMemories (run consolidator history).episodes tenantId =
      getAllMemories (run consolidator (ownOperations tenantId history)).episodes tenantId := by
  induction history using List.reverseRecOn with
  | nil => rfl
  | append_singleton history operation ih =>
      rw [run_snoc, own_snoc]
      split
      · rw [run_snoc]
        exact memories_same operation ih
      · rename_i foreign
        rw [memories_other _ foreign, ih]

abbrev concepts (consolidator : Consolidator Embedding Number)
    (history : List (Operation Embedding Number Instant Context)) (agentRole : String) :
    List String :=
  relatedConcepts (run consolidator history).graph agentRole

theorem concepts_consolidate (history : List (Operation Embedding Number Instant Context))
    (tenantId : String) (eps : Number) (agentRole : String) :
    concepts consolidator (history ++ [.consolidate tenantId eps]) agentRole =
      concepts consolidator history agentRole ++ cycleConcepts consolidator eps agentRole
        (getAllMemories (run consolidator history).episodes tenantId) := by
  rw [concepts, run_snoc]
  exact related_concepts_cycle ..

theorem concepts_ingest (history : List (Operation Embedding Number Instant Context))
    (memoryId tenantId role summary : String) (importance : Number) (embedding : Embedding)
    (context : Context) (now : Instant) (agentRole : String) :
    concepts consolidator (history ++
        [.ingest memoryId tenantId role summary importance embedding context now]) agentRole =
      concepts consolidator history agentRole := by
  rw [concepts, run_snoc]
  rfl

/-- The last operation shares a role if it is a cycle of another tenant on it. -/
theorem shared_snoc (tenantId : String)
    (history : List (Operation Embedding Number Instant Context))
    (operation : Operation Embedding Number Instant Context) (agentRole : String) :
    Shared consolidator tenantId (history ++ [operation]) agentRole ↔
      Shared consolidator tenantId history agentRole ∨
        ∃ other eps, operation = .consolidate other eps ∧ other ≠ tenantId ∧
          Clusters consolidator (run consolidator history) other eps agentRole := by
  constructor
  · intro shared
    obtain ⟨before, other, eps, rest, shape, apart, clusters⟩ := shared
    rcases List.eq_nil_or_concat' rest with rfl | ⟨front, last, rfl⟩
    · have parts := List.append_inj' shape rfl
      rw [← parts.1] at clusters
      exact .inr ⟨other, eps, List.singleton_inj.mp parts.2, apart, clusters⟩
    · rw [← List.cons_append, ← List.append_assoc] at shape
      have parts := List.append_inj' shape rfl
      exact .inl ⟨before, other, eps, front, parts.1, apart, clusters⟩
  · intro either
    rcases either with shared | last
    · obtain ⟨before, other, eps, rest, shape, apart, clusters⟩ := shared
      exact ⟨before, other, eps, rest ++ [operation], by simp [shape], apart, clusters⟩
    · obtain ⟨other, eps, rfl, apart, clusters⟩ := last
      exact ⟨history, other, eps, [], rfl, apart, clusters⟩

theorem own_concepts_length (consolidator : Consolidator Embedding Number) (tenantId : String)
    (history : List (Operation Embedding Number Instant Context)) (agentRole : String) :
    (concepts consolidator (ownOperations tenantId history) agentRole).length ≤
      (concepts consolidator history agentRole).length := by
  induction history using List.reverseRecOn with
  | nil => exact le_rfl
  | append_singleton history operation ih =>
      rw [own_snoc]
      cases operation with
      | ingest memoryId other role summary importance embedding context now =>
          rw [concepts_ingest]
          split
          · rw [concepts_ingest]
            exact ih
          · exact ih
      | consolidate other eps =>
          rw [concepts_consolidate, List.length_append]
          split
          · rename_i own
            have same : other = tenantId := own
            rw [concepts_consolidate, List.length_append, same, ← own_memories consolidator]
            omega
          · omega

/-- The other tenants leave the concepts of a role alone exactly if they share
it in no cycle. -/
theorem own_concepts_iff (consolidator : Consolidator Embedding Number) (tenantId : String)
    (history : List (Operation Embedding Number Instant Context)) (agentRole : String) :
    concepts consolidator history agentRole =
        concepts consolidator (ownOperations tenantId history) agentRole ↔
      ¬Shared consolidator tenantId history agentRole := by
  induction history using List.reverseRecOn with
  | nil =>
      apply iff_of_true rfl
      intro shared
      obtain ⟨before, other, eps, rest, shape, -⟩ := shared
      simp at shape
  | append_singleton history operation ih =>
      rw [own_snoc, shared_snoc, not_or, ← ih]
      cases operation with
      | ingest memoryId other role summary importance embedding context now =>
          rw [concepts_ingest]
          split <;> simp [concepts_ingest]
      | consolidate other eps =>
          rw [concepts_consolidate]
          by_cases own : other = tenantId
          · subst own
            have cycle := own_memories consolidator other history
            have same : (Operation.consolidate other eps :
                Operation Embedding Number Instant Context).tenantId = other := rfl
            rw [if_pos same, concepts_consolidate, ← cycle, List.append_left_inj]
            simp
          · have foreign : ¬(Operation.consolidate other eps :
                Operation Embedding Number Instant Context).tenantId = tenantId := own
            have longer := own_concepts_length consolidator tenantId history
              agentRole
            have added := cycle_concepts_nil_iff consolidator
              (run consolidator history) other eps agentRole
            rw [if_neg foreign]
            constructor
            · intro same
              have lengths := congrArg List.length same
              rw [List.length_append] at lengths
              have nothing : cycleConcepts consolidator eps agentRole
                  (getAllMemories (run consolidator history).episodes other) = [] :=
                List.eq_nil_of_length_eq_zero (by omega)
              rw [nothing, List.append_nil] at same
              refine ⟨same, ?_⟩
              intro last
              obtain ⟨_, _, equal, -, clusters⟩ := last
              cases equal
              exact added.mp nothing clusters
            · intro kept
              have spared : ¬Clusters consolidator (run consolidator history) other eps
                  agentRole := fun clusters => kept.2 ⟨other, eps, rfl, own, clusters⟩
              rw [added.mpr spared, List.append_nil]
              exact kept.1

end Histories

section Isolation

variable [LinearOrder Number] {consolidator : Consolidator Embedding Number}
  {scoring : Scoring Embedding Number Instant}

def answer (consolidator : Consolidator Embedding Number)
    (scoring : Scoring Embedding Number Instant) (request : ActiveRequest Embedding Instant)
    (history : List (Operation Embedding Number Instant Context)) :
    Except HttpError (ActiveResponse Embedding Number Instant Context) :=
  (getActiveMemories scoring request (run consolidator history)).1

theorem retrieved_congr (request : ActiveRequest Embedding Instant)
    {left right : MemoryState Embedding Number Instant Context}
    (same : getAllMemories left.episodes request.tenantId =
      getAllMemories right.episodes request.tenantId) :
    retrieved scoring request left = retrieved scoring request right := by
  simp only [getAllMemories] at same
  simp only [retrieved, fallbackActive, same]

theorem retrieved_same (consolidator : Consolidator Embedding Number)
    (scoring : Scoring Embedding Number Instant) (request : ActiveRequest Embedding Instant)
    {first second : List (Operation Embedding Number Instant Context)}
    (same : ownOperations request.tenantId first = ownOperations request.tenantId second) :
    retrieved scoring request (run consolidator first) =
      retrieved scoring request (run consolidator second) := by
  apply retrieved_congr
  rw [own_memories, same, ← own_memories]

/-- Two answers agree exactly if the concepts of every returned role do. -/
theorem answer_eq_iff (request : ActiveRequest Embedding Instant)
    {first second : List (Operation Embedding Number Instant Context)}
    (same : ownOperations request.tenantId first = ownOperations request.tenantId second) :
    answer consolidator scoring request first = answer consolidator scoring request second ↔
      (enforceTenantAccess request.boundTenant request.tenantId = .ok () →
        ∀ entry ∈ retrieved scoring request (run consolidator first),
          concepts consolidator first entry.1.agentRole =
            concepts consolidator second entry.1.agentRole) := by
  have active := retrieved_same consolidator scoring request same
  rw [answer, answer, getActiveMemories, getActiveMemories]
  cases access : enforceTenantAccess request.boundTenant request.tenantId with
  | error error => simp
  | ok allowed =>
      simp only [← active, Except.ok.injEq, ActiveResponse.mk.injEq, and_true, List.map_inj_left,
        ActiveMemory.mk.injEq, true_and, forall_const]

omit [LinearOrder Number] in
theorem own_own (tenantId : String)
    (history : List (Operation Embedding Number Instant Context)) :
    ownOperations tenantId (ownOperations tenantId history) = ownOperations tenantId history := by
  simp [ownOperations]

/-- A tenant gets the answer that its own operations alone give it exactly if no
other tenant clusters a returned role. -/
theorem answer_own_iff (consolidator : Consolidator Embedding Number)
    (scoring : Scoring Embedding Number Instant) (request : ActiveRequest Embedding Instant)
    (history : List (Operation Embedding Number Instant Context)) :
    answer consolidator scoring request history =
        answer consolidator scoring request (ownOperations request.tenantId history) ↔
      Unshared consolidator scoring request history := by
  rw [answer_eq_iff request (own_own request.tenantId history).symm, Unshared]
  apply forall_congr'
  intro access
  apply forall₂_congr
  intro entry member
  exact own_concepts_iff consolidator request.tenantId history entry.1.agentRole

/-- Two histories with the same operations of a tenant answer it alike when no
other tenant clusters a returned role in either; and each of them answers it
otherwise than its own operations alone exactly when one does. -/
theorem retrieval_isolated_iff (consolidator : Consolidator Embedding Number)
    (scoring : Scoring Embedding Number Instant) (request : ActiveRequest Embedding Instant)
    (first second : List (Operation Embedding Number Instant Context)) :
    (ownOperations request.tenantId first = ownOperations request.tenantId second →
      Unshared consolidator scoring request first →
      Unshared consolidator scoring request second →
      answer consolidator scoring request first = answer consolidator scoring request second) ∧
      (answer consolidator scoring request first =
          answer consolidator scoring request (ownOperations request.tenantId first) ↔
        Unshared consolidator scoring request first) := by
  have alone := answer_own_iff consolidator scoring request first
  have other := answer_own_iff consolidator scoring request second
  constructor
  · intro same left right
    rw [alone.mpr left, same, other.mpr right]
  · exact alone

end Isolation

section SharedRole

def closeConsolidator : Consolidator Unit ℕ := ⟨fun _ _ _ => 0, none⟩

def freshScoring : Scoring Unit ℕ Unit := ⟨fun _ _ _ _ => 1, fun _ _ => 0, 1⟩

def memoryOf (memoryId tenantId summary : String) : Operation Unit ℕ Unit Unit :=
  .ingest memoryId tenantId "planner" summary 1 () () ()

def quietHistory : List (Operation Unit ℕ Unit Unit) := [memoryOf "m1" "acme" "shipped"]

def sharedHistory : List (Operation Unit ℕ Unit Unit) :=
  quietHistory ++ [memoryOf "m2" "rival" "hired", memoryOf "m3" "rival" "fired",
    .consolidate "rival" 0]

def acmeRequest : ActiveRequest Unit Unit :=
  { boundTenant := some "acme", tenantId := "acme", queryVector := (), limit := 20, offset := 0
    now := (), retrievedAt := () }

/-- The tenant sees the concepts of the other. -/
theorem shared_role_leaks :
    ownOperations "acme" sharedHistory = ownOperations "acme" quietHistory ∧
      (answer closeConsolidator freshScoring acmeRequest sharedHistory).toOption.map
        (fun response => response.activeMemories.map ActiveMemory.relatedConcepts) =
          some [["Cluster 0 Concept", "Cluster 0 Concept"]] ∧
      (answer closeConsolidator freshScoring acmeRequest quietHistory).toOption.map
        (fun response => response.activeMemories.map ActiveMemory.relatedConcepts) =
          some [[]] := by
  refine ⟨?_, ?_, ?_⟩
  · rfl
  · decide +kernel
  · decide +kernel

def apartHistory : List (Operation Unit ℕ Unit Unit) :=
  quietHistory ++ [.ingest "m2" "rival" "auditor" "hired" 1 () () (),
    .ingest "m3" "rival" "auditor" "fired" 1 () () (), .consolidate "rival" 0]

theorem quiet_unshared : Unshared closeConsolidator freshScoring acmeRequest quietHistory :=
  (answer_own_iff closeConsolidator freshScoring acmeRequest quietHistory).mp rfl

theorem apart_unshared : Unshared closeConsolidator freshScoring acmeRequest apartHistory := by
  intro _ entry member
  rw [← own_concepts_iff]
  have role : entry.1.agentRole = "planner" := by
    have roles : (retrieved freshScoring acmeRequest (run closeConsolidator apartHistory)).map
        (fun entry => entry.1.agentRole) = ["planner"] := by
      decide +kernel
    have named := List.mem_map_of_mem (f := fun entry => entry.1.agentRole) member
    rw [roles] at named
    exact List.mem_singleton.mp named
  rw [role]
  decide +kernel

/-- The cycle of the other tenant adds its concepts and the answer stays. -/
theorem apart_roles_isolated :
    answer closeConsolidator freshScoring acmeRequest quietHistory =
        answer closeConsolidator freshScoring acmeRequest apartHistory ∧
      (concepts closeConsolidator quietHistory "auditor").length = 0 ∧
      (concepts closeConsolidator apartHistory "auditor").length = 2 :=
  ⟨(retrieval_isolated_iff closeConsolidator freshScoring acmeRequest quietHistory apartHistory).1 rfl
    quiet_unshared apart_unshared, rfl, by decide +kernel⟩

end SharedRole

end SagaMind.TenantIsolation
