import Mathlib.Data.Rat.Defs
import Mathlib.Order.Lattice
import Mathlib.Tactic.Common

/-!
# The in-memory episodic store and semantic graph

The fallback branches of `TimescaleMemoryStore` and `Neo4jGraphStore`. The
floating-point scores are a parameter: what the store does with them is filter,
sort and return.
-/

namespace SagaMind.EpisodicMemory

set_option autoImplicit false

/-- One entry of `fallback_storage`. -/
structure Episode (Embedding Number Instant Context : Type) where
  memoryId : String
  tenantId : String
  createdAt : Instant
  lastRetrievedAt : Instant
  agentRole : String
  summary : String
  importanceScore : Number
  retrievalCount : Nat
  embedding : Embedding
  contextData : Context

/-- The scores of `_fallback_active`, with the settings of the memory manager. -/
structure Scoring (Embedding Number Instant : Type) where
  /-- From `retrieval_count`, `importance_score`, `last_retrieved_at` and now. -/
  retention : Nat → Number → Instant → Instant → Number
  /-- `_cosine_similarity`. -/
  similarity : Embedding → Embedding → Number
  tau : Number

variable {Embedding Number Instant Context : Type}

section Episodes

variable [LinearOrder Number]

/-- The slice `[offset : offset + limit]`. -/
def slice {Item : Type} (items : List Item) (offset limit : Nat) : List Item :=
  (items.drop offset).take limit

def fallbackActive (scoring : Scoring Embedding Number Instant)
    (storage : List (Episode Embedding Number Instant Context)) (tenantId : String)
    (queryEmbedding : Embedding) (limit offset : Nat) (now : Instant) :
    List (Episode Embedding Number Instant Context × Number) :=
  let scored := (storage.filter fun item => item.tenantId = tenantId).filterMap fun item =>
    let retention := scoring.retention item.retrievalCount item.importanceScore
      item.lastRetrievedAt now
    if scoring.tau ≤ retention then
      some (item, scoring.similarity item.embedding queryEmbedding, retention)
    else none
  -- `reverse=True` keeps the order of equally similar memories
  let sorted := scored.mergeSort fun left right => right.2.1 ≤ left.2.1
  (slice sorted offset limit).map fun entry => (entry.1, entry.2.2)

end Episodes

def markRetrieved (storage : List (Episode Embedding Number Instant Context))
    (memoryIds : List String) (now : Instant) :
    List (Episode Embedding Number Instant Context) :=
  storage.map fun item =>
    if item.memoryId ∈ memoryIds then
      { item with retrievalCount := item.retrievalCount + 1, lastRetrievedAt := now }
    else item

def getAllMemories (storage : List (Episode Embedding Number Instant Context))
    (tenantId : String) : List (Episode Embedding Number Instant Context) :=
  storage.filter fun item => item.tenantId = tenantId

/-- One entry of `fallback_relationships`. -/
structure Relationship where
  source : String
  target : String
  type : String
  weight : ℚ
  deriving DecidableEq

structure Neighbor where
  target : String
  type : String
  weight : ℚ
  deriving DecidableEq

def upsertRelationship (graph : List Relationship) (source relation target : String)
    (weight : ℚ) : List Relationship :=
  graph ++ [{ source, target, type := relation, weight }]

def getNeighbors (graph : List Relationship) (concept : String) : List Neighbor :=
  (graph.filter fun edge => edge.source = concept).map fun edge =>
    { target := edge.target, type := edge.type, weight := edge.weight }

end SagaMind.EpisodicMemory
