import SagaMind.Memory.Decay
import Mathlib.Analysis.SpecialFunctions.Exp

/-!
# The retention of a memory, on every path

The memory manager clamps the elapsed time at zero and gives a memory without strength no
retention; the episodic store does neither and raises the strength to a floor instead. The
paths agree exactly on memories that have some importance, were not retrieved after the
present, and whose strength is not below the floor unless they were retrieved just now.
-/

namespace SagaMind.EpisodicMemory

set_option autoImplicit false

noncomputable section

variable {Embedding Context : Type}

/-- Every path assigns the same retention in [0, 1], and the same memories are kept and
returned as active, whatever the threshold. -/
structure RetentionAgrees (manager : EbbinghausMemoryManager)
    (similarity : Embedding → Embedding → ℝ) (storage : List (Episode Embedding ℝ ℝ Context))
    (now : ℝ) : Prop where
  batch : ∀ numpy, calculateRetentionBatch manager numpy storage now =
    storage.map fun memory => calculateRetention manager memory now
  active : ∀ memory ∈ storage, activeRetention manager.sInit manager.gamma memory.retrievalCount
    memory.importanceScore memory.lastRetrievedAt now = calculateRetention manager memory now
  sql : ∀ memory ∈ storage, sqlRetention manager.sInit manager.gamma memory.retrievalCount
    memory.importanceScore memory.lastRetrievedAt now = calculateRetention manager memory now
  bounds : ∀ memory ∈ storage, 0 ≤ calculateRetention manager memory now ∧
    calculateRetention manager memory now ≤ 1
  kept : ∀ tau tenantId query limit, storage.length ≤ limit →
    ((fallbackActive (activeScoring manager.sInit manager.gamma tau similarity) storage tenantId
        query limit 0 now).map Prod.fst).Perm
      (evaluateMemories { manager with tau } (getAllMemories storage tenantId) now).1

/-- The memory has importance, was not retrieved after the present, and has the strength of
the floor unless it was retrieved just now. -/
def Regular (manager : EbbinghausMemoryManager) (memory : Episode Embedding ℝ ℝ Context)
    (now : ℝ) : Prop :=
  0 < memory.importanceScore ∧ memory.lastRetrievedAt ≤ now ∧
    (memory.lastRetrievedAt = now ∨
      1e-9 ≤ strength manager memory.importanceScore memory.retrievalCount)

section Memories

variable {manager : EbbinghausMemoryManager}

theorem hours_nonneg_iff {now last : ℝ} : 0 ≤ hoursSince now last ↔ last ≤ now := by
  rw [hoursSince]
  constructor
  · intro nonneg
    linarith
  · intro before
    linarith

theorem hours_zero_iff {now last : ℝ} : hoursSince now last = 0 ↔ last = now := by
  rw [hoursSince, div_eq_zero_iff, sub_eq_zero]
  constructor
  · rintro (same | absurd)
    · exact same.symm
    · norm_num at absurd
  · intro same
    exact .inl same.symm

/-- For a positive strength, the clamp of the time and the floor of the strength cancel
only where neither matters. -/
theorem clamped_eq_floored_iff {hours positive floor : ℝ} (strong : 0 < positive) :
    -hours / max positive floor = -max hours 0 / positive ↔
      0 ≤ hours ∧ (hours = 0 ∨ floor ≤ positive) := by
  have base : 0 < max positive floor := lt_max_of_lt_left strong
  rw [div_eq_div_iff base.ne' strong.ne']
  rcases lt_trichotomy hours 0 with before | now | after
  · rw [max_eq_right before.le]
    constructor
    · intro equal
      have product : 0 < -hours * positive := mul_pos (by linarith) strong
      linarith
    · rintro ⟨nonneg, _⟩
      linarith
  · rw [now]
    simp
  · rw [max_eq_left after.le]
    constructor
    · intro equal
      have same : positive = max positive floor := by
        have nonzero : -hours ≠ 0 := by linarith
        exact mul_left_cancel₀ nonzero equal
      refine ⟨after.le, .inr ?_⟩
      rw [same]
      exact le_max_right positive floor
    · rintro ⟨_, none | enough⟩
      · linarith
      · rw [max_eq_left enough]

/-- The store and the manager agree on a memory exactly when it is regular. -/
theorem active_retention_iff (positive : 0 < manager.sInit) (gammaNonneg : 0 ≤ manager.gamma)
    (memory : Episode Embedding ℝ ℝ Context) (now : ℝ) :
    activeRetention manager.sInit manager.gamma memory.retrievalCount memory.importanceScore
        memory.lastRetrievedAt now = calculateRetention manager memory now ↔
      Regular manager memory now := by
  rw [active_retention_eq, calculateRetention, Regular,
    ← strength_pos_iff positive gammaNonneg memory.importanceScore memory.retrievalCount]
  by_cases weak : strength manager memory.importanceScore memory.retrievalCount ≤ 0
  · simp only [weak, if_true]
    constructor
    · intro equal
      exact absurd equal (Real.exp_pos _).ne'
    · rintro ⟨strong, _⟩
      exact absurd weak (not_le.mpr strong)
  · have strong := not_le.mp weak
    simp only [weak, if_false]
    rw [Real.exp_eq_exp, clamped_eq_floored_iff strong, hours_nonneg_iff,
      hours_zero_iff]
    constructor
    · rintro ⟨before, rest⟩
      exact ⟨strong, before, rest⟩
    · rintro ⟨_, before, rest⟩
      exact ⟨before, rest⟩

end Memories

section Storage

/-- Without a limit, the active memories are those of the tenant that retain enough. -/
theorem fallback_active_perm (scoring : Scoring Embedding ℝ ℝ)
    (storage : List (Episode Embedding ℝ ℝ Context)) (tenantId : String) (query : Embedding)
    {limit : Nat} (all : storage.length ≤ limit) (now : ℝ) :
    ((fallbackActive scoring storage tenantId query limit 0 now).map Prod.fst).Perm
      ((getAllMemories storage tenantId).filter fun memory =>
        scoring.tau ≤ scoring.retention memory.retrievalCount memory.importanceScore
          memory.lastRetrievedAt now) := by
  let scored := (storage.filter fun item => item.tenantId = tenantId).filterMap fun item =>
    let retention := scoring.retention item.retrievalCount item.importanceScore
      item.lastRetrievedAt now
    if scoring.tau ≤ retention then
      some (item, scoring.similarity item.embedding query, retention)
    else none
  let sorted := scored.mergeSort fun left right => right.2.1 ≤ left.2.1
  have short : sorted.length ≤ limit := by
    have filtered := List.length_filter_le (fun item : Episode Embedding ℝ ℝ Context =>
      decide (item.tenantId = tenantId)) storage
    have mapped : scored.length ≤ _ := List.length_filterMap_le _ _
    rw [List.length_mergeSort]
    omega
  have active : (fallbackActive scoring storage tenantId query limit 0 now).map Prod.fst =
      sorted.map Prod.fst := by
    change ((slice sorted 0 limit).map fun entry => (entry.1, entry.2.2)).map Prod.fst = _
    rw [slice, List.drop_zero, List.take_of_length_le short, List.map_map]
    rfl
  have items : scored.map Prod.fst = (getAllMemories storage tenantId).filter fun memory =>
      scoring.tau ≤ scoring.retention memory.retrievalCount memory.importanceScore
        memory.lastRetrievedAt now := by
    simp only [scored, getAllMemories]
    induction storage.filter fun item => item.tenantId = tenantId with
    | nil => rfl
    | cons item rest ih =>
        by_cases retained : scoring.tau ≤ scoring.retention item.retrievalCount
            item.importanceScore item.lastRetrievedAt now
        · simp [retained, ih]
        · simp [retained, ih]
  rw [active, ← items]
  exact (List.mergeSort_perm scored _).map Prod.fst

/-- For every storage and every instant, the paths agree exactly when every memory is
regular. -/
theorem retention_agrees_iff (manager : EbbinghausMemoryManager) (positive : 0 < manager.sInit)
    (gammaNonneg : 0 ≤ manager.gamma) (similarity : Embedding → Embedding → ℝ)
    (storage : List (Episode Embedding ℝ ℝ Context)) (now : ℝ) :
    RetentionAgrees manager similarity storage now ↔
      ∀ memory ∈ storage, Regular manager memory now := by
  constructor
  · intro agrees memory member
    have equal := agrees.active memory member
    exact (active_retention_iff positive gammaNonneg memory now).mp
      equal
  · intro regular
    have active : ∀ memory ∈ storage,
        activeRetention manager.sInit manager.gamma memory.retrievalCount memory.importanceScore
          memory.lastRetrievedAt now = calculateRetention manager memory now := by
      intro memory member
      exact (active_retention_iff positive gammaNonneg memory now).mpr
        (regular memory member)
    constructor
    · exact fun numpy => retention_batch_eq manager numpy storage now
    · exact active
    · intro memory member
      rw [sql_retention_eq]
      exact active memory member
    · exact fun memory _ => retention_bounds memory now
    · intro tau tenantId query limit all
      have perm := fallback_active_perm
        (activeScoring manager.sInit manager.gamma tau similarity) storage tenantId query all now
      rw [evaluate_memories_kept]
      have same : ((getAllMemories storage tenantId).filter fun memory =>
            tau ≤ activeRetention manager.sInit manager.gamma memory.retrievalCount
              memory.importanceScore memory.lastRetrievedAt now) =
          (getAllMemories storage tenantId).filter fun memory =>
            tau ≤ calculateRetention { manager with tau } memory now := by
        apply List.filter_congr
        intro memory member
        rw [active memory (List.mem_of_mem_filter member)]
        rfl
      rw [← same]
      exact perm

def defaultManager : EbbinghausMemoryManager := { sInit := 12, tau := 15 / 100, gamma := 45 / 100 }

def memoryAt (lastRetrievedAt : ℝ) : Episode (List ℝ) ℝ ℝ Unit where
  memoryId := "fresh"
  tenantId := "t1"
  createdAt := 0
  lastRetrievedAt := lastRetrievedAt
  agentRole := "agent-a"
  summary := "a memory"
  importanceScore := 1
  retrievalCount := 0
  embedding := [1, 0]
  contextData := ()

/-- A memory of full importance, an hour after it was retrieved. -/
theorem retention_agrees_hour :
    RetentionAgrees defaultManager (fun _ _ => 0) [memoryAt 0] 3600 := by
  apply (retention_agrees_iff defaultManager (by norm_num [defaultManager])
    (by norm_num [defaultManager]) (fun _ _ => 0) [memoryAt 0] 3600).mpr
  intro memory member
  rw [List.mem_singleton] at member
  subst member
  refine ⟨by norm_num [memoryAt], by norm_num [memoryAt], .inr ?_⟩
  rw [strength_eq]
  norm_num [defaultManager, memoryAt]

/-- A memory that was retrieved an hour after the present: the store retains more than all
of it. -/
theorem later_retrieval_differs :
    ¬ RetentionAgrees defaultManager (fun _ _ => 0) [memoryAt 3600] 0 := by
  intro agrees
  have equal := agrees.active (memoryAt 3600) (by simp)
  have regular := (active_retention_iff (by norm_num [defaultManager])
    (by norm_num [defaultManager]) (memoryAt 3600) 0).mp equal
  have before : (3600 : ℝ) ≤ 0 := regular.2.1
  norm_num at before

end Storage

end

end SagaMind.EpisodicMemory
