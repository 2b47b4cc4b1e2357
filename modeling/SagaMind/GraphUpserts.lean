import SagaMind.Foundation.KeyedTable
import SagaMind.Memory.Stores
import Mathlib.Data.List.Induction
import Mathlib.Data.List.Perm.Subperm

/-!
# Repeated relationships in the two concept graphs

The Neo4j branch of `upsert_relationship` merges: one relationship for a source, a
type and a target, whose weight a repeated upsert reinforces. The in-memory branch
appends. The two agree on a concept exactly when no relationship that starts there is
upserted twice.
-/

namespace SagaMind.GraphUpserts

open KeyedTable
open SagaMind.EpisodicMemory

set_option autoImplicit false

/-- The arguments of one `upsert_relationship` call. -/
structure Upsert where
  source : String
  relation : String
  target : String
  weight : ℚ

/-- What `MERGE (s)-[r:RELATION {type: $relation}]->(t)` matches a relationship by. -/
def mergeKey (edge : Relationship) : String × String × String :=
  (edge.source, edge.type, edge.target)

abbrev Neo4jGraph := Table mergeKey

namespace Upsert

def key (call : Upsert) : String × String × String :=
  (call.source, call.relation, call.target)

def edge (call : Upsert) : Relationship :=
  { source := call.source, target := call.target, type := call.relation, weight := call.weight }

@[simp] theorem merge_key_edge (call : Upsert) : mergeKey call.edge = call.key := rfl

end Upsert

/-- The `weight` that the `MERGE` leaves: `ON CREATE SET` or `ON MATCH SET`. -/
def mergedWeight (graph : Neo4jGraph) (call : Upsert) : ℚ :=
  match graph.find? call.key with
  | none => call.weight
  | some matched => call.weight + (1 - matched.weight) * (1 / 10)

/-- The Neo4j branch of `upsert_relationship`. -/
def mergeRelationship (graph : Neo4jGraph) (call : Upsert) : Neo4jGraph :=
  graph.put { call.edge with weight := mergedWeight graph call }

/-- The Neo4j branch of `get_neighbors`. -/
def matchNeighbors (graph : Neo4jGraph) (concept : String) : List Neighbor :=
  getNeighbors graph.rows concept

/-- The in-memory branch of `upsert_relationship`, on one call. -/
def appendRelationship (graph : List Relationship) (call : Upsert) : List Relationship :=
  upsertRelationship graph call.source call.relation call.target call.weight

def inMemory (calls : List Upsert) : List Relationship :=
  calls.foldl appendRelationship []

def inNeo4j (calls : List Upsert) : Neo4jGraph :=
  calls.foldl mergeRelationship Table.empty

def upsertsFrom (concept : String) (calls : List Upsert) : List Upsert :=
  calls.filter fun call => call.source = concept

section InMemory

theorem foldl_append_relationship (calls : List Upsert) (graph : List Relationship) :
    calls.foldl appendRelationship graph = graph ++ calls.map Upsert.edge := by
  induction calls generalizing graph with
  | nil => simp
  | cons call rest ih =>
      rw [List.foldl_cons, ih, List.map_cons, List.append_cons]
      rfl

theorem in_memory_edges (calls : List Upsert) : inMemory calls = calls.map Upsert.edge := by
  rw [inMemory, foldl_append_relationship, List.nil_append]

theorem edges_from (concept : String) (calls : List Upsert) :
    ((calls.map Upsert.edge).filter fun edge => edge.source = concept) =
      (upsertsFrom concept calls).map Upsert.edge := by
  rw [List.filter_map]
  rfl

theorem in_memory_neighbors_length (concept : String) (calls : List Upsert) :
    (getNeighbors (inMemory calls) concept).length = (upsertsFrom concept calls).length := by
  rw [getNeighbors, in_memory_edges, edges_from, List.length_map, List.length_map]

end InMemory

section Neo4j

def edgesFrom (graph : Neo4jGraph) (concept : String) : List Relationship :=
  graph.rows.filter fun edge => edge.source = concept

theorem in_neo4j_concat (calls : List Upsert) (call : Upsert) :
    inNeo4j (calls ++ [call]) = mergeRelationship (inNeo4j calls) call := by
  rw [inNeo4j, List.foldl_append]
  rfl

theorem in_neo4j_keys (calls : List Upsert) :
    ∀ edge ∈ (inNeo4j calls).rows, ∃ call ∈ calls, mergeKey edge = call.key := by
  induction calls using List.reverseRecOn with
  | nil =>
      intro edge member
      cases member
  | append_singleton calls call ih =>
      intro edge member
      rw [in_neo4j_concat] at member
      rcases Table.mem_put_rows member with written | old
      · subst written
        exact ⟨call, by simp, rfl⟩
      · have earlier := ih edge old
        rcases earlier with ⟨source, sourceMember, same⟩
        exact ⟨source, List.mem_append_left _ sourceMember, same⟩

theorem key_source {edge : Relationship} {call : Upsert} (same : mergeKey edge = call.key) :
    edge.source = call.source :=
  congrArg Prod.fst same

/-- A call for another concept leaves the relationships of this one. -/
theorem edges_from_other {graph : Neo4jGraph} {call : Upsert} {concept : String}
    (other : call.source ≠ concept) :
    edgesFrom (mergeRelationship graph call) concept = edgesFrom graph concept := by
  let written : Relationship := { call.edge with weight := mergedWeight graph call }
  have dropped : decide ((mergeKey written).1 = concept) = false := by
    rw [decide_eq_false_iff_not]
    exact other
  exact @Table.filter_put_rows_other _ _ mergeKey _ (fun key => decide (key.1 = concept)) written
    dropped graph.rows

theorem rows_merge_fresh {graph : Neo4jGraph} {call : Upsert}
    (fresh : graph.find? call.key = none) :
    (mergeRelationship graph call).rows = graph.rows ++ [call.edge] := by
  have weight : mergedWeight graph call = call.weight := by
    rw [mergedWeight, fresh]
  rw [mergeRelationship, weight]
  exact Table.rows_put_absent fresh

/-- While no relationship of the concept is upserted twice, the graph holds the calls. -/
theorem edges_from_distinct (concept : String) (calls : List Upsert)
    (distinct : ((upsertsFrom concept calls).map Upsert.key).Nodup) :
    edgesFrom (inNeo4j calls) concept = (upsertsFrom concept calls).map Upsert.edge := by
  induction calls using List.reverseRecOn with
  | nil => rfl
  | append_singleton calls call ih =>
      rw [in_neo4j_concat]
      by_cases here : call.source = concept
      · have split : upsertsFrom concept (calls ++ [call]) =
            upsertsFrom concept calls ++ [call] := by
          simp [upsertsFrom, here]
        rw [split, List.map_append, List.nodup_append] at distinct
        have fresh : (inNeo4j calls).find? call.key = none := by
          rw [Table.find_none_iff]
          intro edge member same
          have written := in_neo4j_keys calls edge member
          rcases written with ⟨earlier, earlierMember, earlierKey⟩
          have keys : earlier.key = call.key := earlierKey.symm.trans same
          have source : earlier.source = concept := (congrArg Prod.fst keys).trans here
          have listed : earlier ∈ upsertsFrom concept calls := by
            simp [upsertsFrom, earlierMember, source]
          exact distinct.2.2 earlier.key (List.mem_map_of_mem listed) call.key (by simp) keys
        have edgeSource : call.edge.source = concept := here
        rw [edgesFrom, rows_merge_fresh fresh, List.filter_append, split, List.map_append,
          ← ih distinct.1, edgesFrom]
        simp [edgeSource]
      · have skip : upsertsFrom concept (calls ++ [call]) = upsertsFrom concept calls := by
          simp [upsertsFrom, here]
        rw [skip] at distinct ⊢
        rw [edges_from_other here]
        exact ih distinct

theorem edges_from_nodup (graph : Neo4jGraph) (concept : String) :
    ((edgesFrom graph concept).map mergeKey).Nodup :=
  graph.distinct.sublist (List.filter_sublist.map mergeKey)

theorem edges_from_subset (concept : String) (calls : List Upsert) :
    (edgesFrom (inNeo4j calls) concept).map mergeKey ⊆
      (upsertsFrom concept calls).map Upsert.key := by
  intro target member
  rw [List.mem_map] at member
  rcases member with ⟨edge, edgeMember, rfl⟩
  rw [edgesFrom, List.mem_filter, decide_eq_true_eq] at edgeMember
  have written := in_neo4j_keys calls edge edgeMember.1
  rcases written with ⟨call, callMember, same⟩
  have source : call.source = concept := (key_source same).symm.trans edgeMember.2
  rw [same]
  apply List.mem_map_of_mem
  simp [upsertsFrom, callMember, source]

/-- As many relationships as calls leave no room for a repeated call. -/
theorem distinct_of_length {concept : String} {calls : List Upsert}
    (full : (upsertsFrom concept calls).length ≤ (edgesFrom (inNeo4j calls) concept).length) :
    ((upsertsFrom concept calls).map Upsert.key).Nodup := by
  have within := List.subperm_of_subset (edges_from_nodup (inNeo4j calls) concept)
    (edges_from_subset concept calls)
  have whole := within.perm_of_length_le (by simpa using full)
  exact whole.nodup_iff.mp (edges_from_nodup (inNeo4j calls) concept)

end Neo4j

/-- After any sequence of upserts, the two branches of `get_neighbors` return the same
collection for a concept exactly when the calls for it have pairwise different
relationships. -/
theorem neighbors_agree_iff (calls : List Upsert) (concept : String) :
    (getNeighbors (inMemory calls) concept).Perm (matchNeighbors (inNeo4j calls) concept) ↔
      ((upsertsFrom concept calls).map Upsert.key).Nodup := by
  constructor
  · intro same
    have lengths := same.length_eq
    rw [in_memory_neighbors_length] at lengths
    have neo4j : (matchNeighbors (inNeo4j calls) concept).length =
        (edgesFrom (inNeo4j calls) concept).length := by
      rw [matchNeighbors, getNeighbors, List.length_map, edgesFrom]
    apply distinct_of_length
    rw [lengths, neo4j]
  · intro distinct
    have edges := edges_from_distinct concept calls distinct
    have equal : getNeighbors (inMemory calls) concept =
        matchNeighbors (inNeo4j calls) concept := by
      rw [matchNeighbors, getNeighbors, getNeighbors, in_memory_edges, edges_from, ← edges,
        edgesFrom]
    rw [equal]

def repeatedUpsert : List Upsert :=
  let discovered : Upsert :=
    { source := "planner", relation := "DISCOVERED_CONCEPT", target := "concept_0",
      weight := 1 / 2 }
  [discovered, discovered]

/-- Two entries of weight 1/2 in memory, one relationship of weight 11/20 in Neo4j. -/
theorem repeated_upsert_differs :
    ¬ (getNeighbors (inMemory repeatedUpsert) "planner").Perm
        (matchNeighbors (inNeo4j repeatedUpsert) "planner") := by
  intro same
  have lengths := same.length_eq
  have inMemoryTwo : (getNeighbors (inMemory repeatedUpsert) "planner").length = 2 := by
    decide
  have inNeo4jOne : (matchNeighbors (inNeo4j repeatedUpsert) "planner").length = 1 := by
    decide
  omega

end SagaMind.GraphUpserts
