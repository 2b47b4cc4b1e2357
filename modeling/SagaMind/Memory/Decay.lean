import Mathlib.Analysis.SpecialFunctions.Log.Basic
import SagaMind.Memory.Stores
import Mathlib.Data.List.Induction

/-!
# Memory decay

`EbbinghausMemoryManager` and the retention of the episodic store, over exact real
numbers. Instants are seconds in UTC.
-/

namespace SagaMind.EpisodicMemory

set_option autoImplicit false

noncomputable section

variable {Embedding Context : Type}

structure EbbinghausMemoryManager where
  sInit : ℝ
  tau : ℝ
  gamma : ℝ

/-- `(now - last).total_seconds() / 3600.0`. -/
def hoursSince (now last : ℝ) : ℝ := (now - last) / 3600

def strength (manager : EbbinghausMemoryManager) (importance : ℝ) (accesses : Nat) : ℝ :=
  manager.sInit * (1 + manager.gamma * Real.log (1 + max (accesses : ℝ) 0)) * importance

def calculateRetention (manager : EbbinghausMemoryManager)
    (memory : Episode Embedding ℝ ℝ Context) (now : ℝ) : ℝ :=
  let hours := hoursSince now memory.lastRetrievedAt
  let strength := strength manager memory.importanceScore memory.retrievalCount
  if strength ≤ 0 then 0 else Real.exp (-max hours 0 / strength)

/-- The two lists of `evaluate_memories`, to keep and to prune. -/
def evaluateMemories (manager : EbbinghausMemoryManager)
    (memories : List (Episode Embedding ℝ ℝ Context)) (now : ℝ) :
    List (Episode Embedding ℝ ℝ Context) × List (Episode Embedding ℝ ℝ Context) :=
  memories.foldl (fun lists memory =>
    if manager.tau ≤ calculateRetention manager memory now then
      (lists.1 ++ [memory], lists.2)
    else (lists.1, lists.2 ++ [memory])) ([], [])

/-- `calculate_retention_batch`, with or without NumPy. -/
def calculateRetentionBatch (manager : EbbinghausMemoryManager) (numpy : Bool)
    (memories : List (Episode Embedding ℝ ℝ Context)) (now : ℝ) : List ℝ :=
  if memories.isEmpty then []
  else if numpy then
    let deltas := memories.map fun memory => max (hoursSince now memory.lastRetrievedAt) 0
    let importance := memories.map Episode.importanceScore
    let accesses := memories.map fun memory => (memory.retrievalCount : ℝ)
    let strength := List.zipWith (fun accesses importance =>
      manager.sInit * (1 + manager.gamma * Real.log (1 + max accesses 0)) * importance)
      accesses importance
    List.zipWith (fun delta strength => if 0 < strength then Real.exp (-delta / strength) else 0)
      deltas strength
  else memories.map fun memory => calculateRetention manager memory now

/-- The retention of `_fallback_active`. -/
def activeRetention (sInit gamma : ℝ) (retrievalCount : Nat) (importance last now : ℝ) : ℝ :=
  let strength := sInit * (1 + gamma * Real.log (retrievalCount + 1)) * importance
  let strength := max strength 1e-9
  let hours := hoursSince now last
  Real.exp (-hours / strength)

/-- The retention that the SQL of `retrieve_active_memories` selects and filters by. -/
def sqlRetention (sInit gamma : ℝ) (retrievalCount : Nat) (importance last now : ℝ) : ℝ :=
  Real.exp (-(now - last) / 3600 /
    max (sInit * (1 + gamma * Real.log (retrievalCount + 1)) * importance) 1e-9)

/-- `_fallback_active` with its settings. -/
def activeScoring (sInit gamma tau : ℝ) (similarity : Embedding → Embedding → ℝ) :
    Scoring Embedding ℝ ℝ where
  retention retrievalCount importance last now :=
    activeRetention sInit gamma retrievalCount importance last now
  similarity := similarity
  tau := tau

section Formulas

theorem sql_retention_eq (sInit gamma : ℝ) (retrievalCount : Nat) (importance last now : ℝ) :
    sqlRetention sInit gamma retrievalCount importance last now =
      activeRetention sInit gamma retrievalCount importance last now := by
  rw [sqlRetention, activeRetention, hoursSince, neg_div]

theorem strength_eq (manager : EbbinghausMemoryManager) (importance : ℝ) (accesses : Nat) :
    strength manager importance accesses =
      manager.sInit * (1 + manager.gamma * Real.log (accesses + 1)) * importance := by
  have count : max (accesses : ℝ) 0 = accesses := max_eq_left (Nat.cast_nonneg accesses)
  rw [strength, count, add_comm 1 (accesses : ℝ)]

theorem active_retention_eq (manager : EbbinghausMemoryManager) (retrievalCount : Nat)
    (importance last now : ℝ) :
    activeRetention manager.sInit manager.gamma retrievalCount importance last now =
      Real.exp (-hoursSince now last / max (strength manager importance retrievalCount) 1e-9) := by
  rw [strength_eq]
  rfl

theorem retention_batch_eq (manager : EbbinghausMemoryManager) (numpy : Bool)
    (memories : List (Episode Embedding ℝ ℝ Context)) (now : ℝ) :
    calculateRetentionBatch manager numpy memories now =
      memories.map fun memory => calculateRetention manager memory now := by
  rw [calculateRetentionBatch]
  split
  · rename_i empty
    rw [List.isEmpty_iff] at empty
    rw [empty]
    rfl
  · split
    · change List.zipWith _ (memories.map _) (List.zipWith _ (memories.map _) (memories.map _)) = _
      rw [List.zipWith_map, List.zipWith_self, List.zipWith_map, List.zipWith_self]
      apply List.map_congr_left
      intro memory _
      let power := strength manager memory.importanceScore memory.retrievalCount
      let hours := hoursSince now memory.lastRetrievedAt
      change (if 0 < power then Real.exp (-max hours 0 / power) else 0) =
        if power ≤ 0 then 0 else Real.exp (-max hours 0 / power)
      by_cases positive : 0 < power
      · rw [if_pos positive, if_neg (not_le.mpr positive)]
      · rw [if_neg positive, if_pos (not_lt.mp positive)]
    · rfl

/-- `evaluate_memories` keeps the memories that retain enough, in their order. -/
theorem evaluate_memories_kept (manager : EbbinghausMemoryManager)
    (memories : List (Episode Embedding ℝ ℝ Context)) (now : ℝ) :
    (evaluateMemories manager memories now).1 =
      memories.filter fun memory => manager.tau ≤ calculateRetention manager memory now := by
  rw [evaluateMemories]
  induction memories using List.reverseRecOn with
  | nil => rfl
  | append_singleton memories memory ih =>
      rw [List.foldl_append, List.foldl_cons, List.foldl_nil, List.filter_append]
      by_cases retained : manager.tau ≤ calculateRetention manager memory now
      · simp [retained, ih]
      · simp [retained, ih]

end Formulas

section Values

variable {manager : EbbinghausMemoryManager}

theorem reinforcement_pos (gammaNonneg : 0 ≤ manager.gamma) (accesses : Nat) :
    0 < 1 + manager.gamma * Real.log (accesses + 1) := by
  have log : 0 ≤ Real.log ((accesses : ℝ) + 1) := by
    apply Real.log_nonneg
    have count : (0 : ℝ) ≤ accesses := Nat.cast_nonneg accesses
    linarith
  have product := mul_nonneg gammaNonneg log
  linarith

theorem strength_pos_iff (positive : 0 < manager.sInit) (gammaNonneg : 0 ≤ manager.gamma)
    (importance : ℝ) (accesses : Nat) :
    0 < strength manager importance accesses ↔ 0 < importance := by
  have factor : 0 < manager.sInit * (1 + manager.gamma * Real.log (accesses + 1)) :=
    mul_pos positive (reinforcement_pos gammaNonneg accesses)
  rw [strength_eq, mul_pos_iff_of_pos_left factor]

theorem retention_bounds (memory : Episode Embedding ℝ ℝ Context) (now : ℝ) :
    0 ≤ calculateRetention manager memory now ∧ calculateRetention manager memory now ≤ 1 := by
  simp only [calculateRetention]
  split
  · constructor <;> norm_num
  · rename_i positive
    constructor
    · exact (Real.exp_pos _).le
    · rw [Real.exp_le_one_iff]
      apply div_nonpos_of_nonpos_of_nonneg
      · have hours : 0 ≤ max (hoursSince now memory.lastRetrievedAt) 0 := le_max_right _ _
        linarith
      · linarith

end Values

end

end SagaMind.EpisodicMemory
