import Mathlib.Logic.Function.Basic
import SagaMind.Foundation.KeyedTable
import SagaMind.Memory.Stores

/-!
# Memory consolidation

`MemoryConsolidator`: density-based clustering of the memories of one tenant,
and the concept edges written for each cluster. Distances come as a matrix
that the embeddings determine.
-/

namespace SagaMind.EpisodicMemory

open KeyedTable

set_option autoImplicit false

section Clustering

/-- `labels[i]`: `-2`, `-1` or a cluster. -/
inductive Label where
  | unvisited
  | noise
  | cluster (id : Nat)
  deriving DecidableEq

variable {Number : Type} [LinearOrder Number]

def neighbours (count : Nat) (dist : Nat → Nat → Number) (eps : Number) (index : Nat) :
    List Nat :=
  (List.range count).filter fun other => dist index other ≤ eps

/-- `for candidate in point_near`: the seeds to come and the queued points. -/
def enqueue (labels : Nat → Label) (near : List Nat) (seeds queued : List Nat) :
    List Nat × List Nat :=
  near.foldl (fun state candidate =>
    if candidate ∉ state.2 ∧ labels candidate ∈ [Label.unvisited, .noise] then
      (state.1 ++ [candidate], candidate :: state.2)
    else state) (seeds, queued)

/-- `while cursor < len(seeds)`, with the seeds from the cursor on. A point is
queued once, so as many turns as there are points are enough. -/
def expand (near : Nat → List Nat) (minSamples clusterId : Nat) :
    Nat → (Nat → Label) → List Nat → List Nat → Nat → Label
  | 0, labels, _, _ => labels
  | _ + 1, labels, [], _ => labels
  | turns + 1, labels, point :: seeds, queued =>
      let labels :=
        if labels point = .noise then Function.update labels point (.cluster clusterId) else labels
      if labels point ≠ .unvisited then
        expand near minSamples clusterId turns labels seeds queued
      else
        let labels := Function.update labels point (.cluster clusterId)
        if minSamples ≤ (near point).length then
          let (seeds, queued) := enqueue labels (near point) seeds queued
          expand near minSamples clusterId turns labels seeds queued
        else
          expand near minSamples clusterId turns labels seeds queued

/-- One turn of `for i in range(n)`, on the labels and the next cluster. -/
def visit (count : Nat) (near : Nat → List Nat) (minSamples : Nat)
    (state : (Nat → Label) × Nat) (index : Nat) : (Nat → Label) × Nat :=
  let (labels, clusterId) := state
  if labels index ≠ .unvisited then state
  else if (near index).length < minSamples then
    (Function.update labels index .noise, clusterId)
  else
    let seeds := (near index).filter fun other => other ≠ index
    let labels := Function.update labels index (.cluster clusterId)
    (expand near minSamples clusterId count labels seeds seeds, clusterId + 1)

def labelAll (count : Nat) (near : Nat → List Nat) (minSamples : Nat) : Nat → Label :=
  ((List.range count).foldl (visit count near minSamples) (fun _ => .unvisited, 0)).1

/-- `clusters.setdefault(label, []).append(episode)`. -/
def assign {Item : Type} (clusters : Table (@Prod.fst Nat (List Item))) (id : Nat)
    (item : Item) : Table (@Prod.fst Nat (List Item)) :=
  clusters.put (id, ((clusters.find? id).map Prod.snd).getD [] ++ [item])

def gather {Item : Type} (labels : Nat → Label) (items : List Item) :
    Table (@Prod.fst Nat (List Item)) :=
  items.zipIdx.foldl (fun clusters entry =>
    match labels entry.2 with
    | .cluster id => assign clusters id entry.1
    | _ => clusters) .empty

/-- `_cluster`, on the distances of its episodes. -/
def cluster {Item : Type} (dist : Nat → Nat → Number) (items : List Item) (eps : Number)
    (minSamples : Nat) : Table (@Prod.fst Nat (List Item)) :=
  gather (labelAll items.length (neighbours items.length dist eps) minSamples) items

end Clustering

section Cycle

variable {Embedding Number Instant Context : Type}

structure Consolidator (Embedding Number : Type) where
  /-- `_distance_matrix`. -/
  distanceMatrix : List Embedding → Nat → Nat → Number
  /-- `self.llm.summarize`, if there is a client; `none` when it raises. -/
  llm : Option (String → Option String)

/-- The prompt of `_llm_summarize`. -/
def prompt (summaries : List String) : String :=
  "Summarise the shared concept behind these agent experiences in a short noun phrase:\n- " ++
    "\n- ".intercalate summaries

def labelCluster (consolidator : Consolidator Embedding Number) (clusterId : Nat)
    (members : List (Episode Embedding Number Instant Context)) : String :=
  let fallback := "Cluster " ++ clusterId.repr ++ " Concept"
  match consolidator.llm with
  | none => fallback
  | some summarize => (summarize (prompt (members.map Episode.summary))).getD fallback

def writeCluster (consolidator : Consolidator Embedding Number) (graph : List Relationship)
    (entry : Nat × List (Episode Embedding Number Instant Context)) : List Relationship :=
  if entry.2.length < 2 then graph
  else
    let concept := labelCluster consolidator entry.1 entry.2
    entry.2.foldl (fun graph item =>
      let graph := upsertRelationship graph concept "SUMMARIZES_EXPERIENCE" item.summary (7 / 10)
      upsertRelationship graph item.agentRole "DISCOVERED_CONCEPT" concept (1 / 2)) graph

variable [LinearOrder Number]

/-- `run_consolidation_cycle`: the number of clusters, and the graph it leaves. -/
def runConsolidationCycle (consolidator : Consolidator Embedding Number)
    (storage : List (Episode Embedding Number Instant Context)) (graph : List Relationship)
    (tenantId : String) (eps : Number) : Nat × List Relationship :=
  let episodes := getAllMemories storage tenantId
  if episodes.length < 2 then (0, graph)
  else
    let dist := consolidator.distanceMatrix (episodes.map Episode.embedding)
    let clusters := (cluster dist episodes eps 2).rows
    (clusters.length, clusters.foldl (writeCluster consolidator) graph)

end Cycle

end SagaMind.EpisodicMemory
