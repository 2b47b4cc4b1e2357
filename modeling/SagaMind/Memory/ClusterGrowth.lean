import SagaMind.Foundation.DensityGraph
import SagaMind.Memory.Consolidation
import Mathlib.Data.List.Perm.Subperm
import Mathlib.Data.List.Range

/-!
# How one cluster grows

The worklist of one cluster, turn by turn: no neighbour of a core point that it took is
forgotten, a point is queued once, and so the loop ends with every point taken that is
reached from the first one and had no cluster.
-/

namespace SagaMind.EpisodicMemory

open KeyedTable DensityGraph

set_option autoImplicit false

section Bounded

/-- One turn of `while cursor < len(seeds)`: the labels, the seeds from the cursor on and
the queued points. -/
def turn (near : Nat → List Nat) (minSamples clusterId : Nat) (labels : Nat → Label)
    (point : Nat) (seeds queued : List Nat) : (Nat → Label) × List Nat × List Nat :=
  let labels :=
    if labels point = .noise then Function.update labels point (.cluster clusterId) else labels
  if labels point ≠ .unvisited then (labels, seeds, queued)
  else
    let labels := Function.update labels point (.cluster clusterId)
    if minSamples ≤ (near point).length then (labels, enqueue labels (near point) seeds queued)
    else (labels, seeds, queued)

/-- The loop with a bound on its turns, `none` when the bound cuts it off. -/
def expandWithin (near : Nat → List Nat) (minSamples clusterId : Nat) :
    Nat → (Nat → Label) → List Nat → List Nat → Option (Nat → Label)
  | _, labels, [], _ => some labels
  | 0, _, _ :: _, _ => none
  | turns + 1, labels, point :: seeds, queued =>
      let next := turn near minSamples clusterId labels point seeds queued
      expandWithin near minSamples clusterId turns next.1 next.2.1 next.2.2

def visitWithin (turns : Nat) (near : Nat → List Nat) (minSamples : Nat)
    (state : (Nat → Label) × Nat) (index : Nat) : Option ((Nat → Label) × Nat) :=
  let (labels, clusterId) := state
  if labels index ≠ .unvisited then some state
  else if (near index).length < minSamples then
    some (Function.update labels index .noise, clusterId)
  else do
    let seeds := (near index).filter fun other => other ≠ index
    let labels := Function.update labels index (.cluster clusterId)
    let labels ← expandWithin near minSamples clusterId turns labels seeds seeds
    some (labels, clusterId + 1)

variable {Number Item : Type} [LinearOrder Number]

/-- `_cluster`, with a bound on the turns of each inner loop. -/
def clusterWithin (turns : Nat) (dist : Nat → Nat → Number) (items : List Item) (eps : Number)
    (minSamples : Nat) : Option (Table (@Prod.fst Nat (List Item))) := do
  let near := neighbours items.length dist eps
  let labelled ← (List.range items.length).foldlM (visitWithin turns near minSamples)
    (fun _ => .unvisited, 0)
  some (gather labelled.1 items)

theorem expand_cons (near : Nat → List Nat) (minSamples clusterId turns : Nat)
    (labels : Nat → Label) (point : Nat) (seeds queued : List Nat) :
    expand near minSamples clusterId (turns + 1) labels (point :: seeds) queued =
      (let next := turn near minSamples clusterId labels point seeds queued
      expand near minSamples clusterId turns next.1 next.2.1 next.2.2) := by
  simp only [expand, turn]
  split_ifs <;> rfl

/-- Enough turns make no difference: the bound of the model's loop is not a cut. -/
theorem expand_within_eq {near : Nat → List Nat} {minSamples clusterId turns : Nat}
    {labels final : Nat → Label} {seeds queued : List Nat}
    (ran : expandWithin near minSamples clusterId turns labels seeds queued = some final) :
    expand near minSamples clusterId turns labels seeds queued = final := by
  induction turns generalizing labels seeds queued with
  | zero =>
      cases seeds with
      | nil => simpa [expandWithin, expand] using ran
      | cons point seeds => simp [expandWithin] at ran
  | succ turns ih =>
      cases seeds with
      | nil => simpa [expandWithin, expand] using ran
      | cons point seeds =>
          rw [expandWithin] at ran
          rw [expand_cons]
          exact ih ran

theorem expand_within_more {near : Nat → List Nat} {minSamples clusterId turns more : Nat}
    {labels final : Nat → Label} {seeds queued : List Nat} (enough : turns ≤ more)
    (ran : expandWithin near minSamples clusterId turns labels seeds queued = some final) :
    expandWithin near minSamples clusterId more labels seeds queued = some final := by
  induction turns generalizing labels seeds queued more with
  | zero =>
      cases seeds with
      | nil => cases more <;> simpa [expandWithin] using ran
      | cons point seeds => simp [expandWithin] at ran
  | succ turns ih =>
      cases seeds with
      | nil => cases more <;> simpa [expandWithin] using ran
      | cons point seeds =>
          cases more with
          | zero => omega
          | succ more =>
              rw [expandWithin] at ran ⊢
              exact ih (by omega) ran

end Bounded

section Turns

variable {near : Nat → List Nat} {minSamples clusterId : Nat}

inductive Turned (near : Nat → List Nat) (minSamples clusterId : Nat) (labels : Nat → Label)
    (point : Nat) (seeds queued : List Nat) :
    (Nat → Label) × List Nat × List Nat → Prop where
  | taken {id : Nat} (owned : labels point = .cluster id) :
      Turned near minSamples clusterId labels point seeds queued (labels, seeds, queued)
  | border (sparse : labels point = .noise ∨
        labels point = .unvisited ∧ (near point).length < minSamples) :
      Turned near minSamples clusterId labels point seeds queued
        (Function.update labels point (.cluster clusterId), seeds, queued)
  | dense (fresh : labels point = .unvisited) (many : minSamples ≤ (near point).length) :
      Turned near minSamples clusterId labels point seeds queued
        (Function.update labels point (.cluster clusterId),
          enqueue (Function.update labels point (.cluster clusterId)) (near point) seeds queued)

theorem turn_cases (labels : Nat → Label) (point : Nat) (seeds queued : List Nat) :
    Turned near minSamples clusterId labels point seeds queued
      (turn near minSamples clusterId labels point seeds queued) := by
  cases label : labels point with
  | unvisited =>
      by_cases many : minSamples ≤ (near point).length
      · simp only [turn, label, many, reduceCtorEq, if_false, if_true, ne_eq, not_true]
        exact .dense label many
      · simp only [turn, label, many, reduceCtorEq, if_false, ne_eq, not_true]
        exact .border (.inr ⟨label, by omega⟩)
  | noise =>
      simp only [turn, label, if_true, Function.update_self, reduceCtorEq, ne_eq,
        not_false_eq_true]
      exact .border (.inl label)
  | cluster id =>
      simp only [turn, label, reduceCtorEq, if_false, ne_eq, not_false_eq_true, if_true]
      exact .taken label

def Clustered (labels : Nat → Label) (point : Nat) : Prop := ∃ id, labels point = .cluster id

theorem not_clustered_iff {labels : Nat → Label} {point : Nat} :
    ¬ Clustered labels point ↔ labels point ∈ [Label.unvisited, .noise] := by
  rw [Clustered]
  cases labels point <;> simp

/-- The candidates that a core point adds: its neighbours without a cluster that were
never queued. -/
structure Enqueued (labels : Nat → Label) (near seeds queued : List Nat)
    (after : List Nat × List Nat) (added : List Nat) : Prop where
  seeds_eq : after.1 = seeds ++ added
  queued_mem : ∀ point, point ∈ after.2 ↔ point ∈ added ∨ point ∈ queued
  distinct : added.Nodup
  fresh : ∀ point ∈ added, point ∈ near ∧ point ∉ queued
  covers : ∀ point ∈ near, point ∈ added ∨ point ∈ queued ∨ Clustered labels point

theorem enqueue_cases (labels : Nat → Label) (near seeds queued : List Nat) :
    ∃ added, Enqueued labels near seeds queued (enqueue labels near seeds queued) added := by
  induction near generalizing seeds queued with
  | nil => exact ⟨[], by simp [enqueue], by simp [enqueue], List.nodup_nil, by simp, by simp⟩
  | cons candidate rest ih =>
      by_cases take : candidate ∉ queued ∧ labels candidate ∈ [Label.unvisited, .noise]
      · have step : enqueue labels (candidate :: rest) seeds queued =
            enqueue labels rest (seeds ++ [candidate]) (candidate :: queued) := by
          rw [enqueue, List.foldl_cons, if_pos take]
          rfl
        have later := ih (seeds ++ [candidate]) (candidate :: queued)
        rcases later with ⟨added, enqueued⟩
        rw [step]
        refine ⟨candidate :: added, ?_, ?_, ?_, ?_, ?_⟩
        · rw [enqueued.seeds_eq]
          simp
        · intro point
          rw [enqueued.queued_mem]
          simp only [List.mem_cons]
          tauto
        · have absent : candidate ∉ added := by
            intro member
            exact (enqueued.fresh candidate member).2 (by simp)
          exact List.nodup_cons.mpr ⟨absent, enqueued.distinct⟩
        · intro point member
          rcases List.mem_cons.mp member with same | added
          · rw [same]
            exact ⟨by simp, take.1⟩
          · have fresh := enqueued.fresh point added
            exact ⟨by simp [fresh.1], fun old => fresh.2 (by simp [old])⟩
        · intro point member
          rcases List.mem_cons.mp member with same | later
          · exact .inl (by simp [same])
          · rcases enqueued.covers point later with inAdded | inQueued | clustered
            · exact .inl (by simp [inAdded])
            · rcases List.mem_cons.mp inQueued with same | old
              · exact .inl (by simp [same])
              · exact .inr (.inl old)
            · exact .inr (.inr clustered)
      · have step : enqueue labels (candidate :: rest) seeds queued =
            enqueue labels rest seeds queued := by
          rw [enqueue, List.foldl_cons, if_neg take]
          rfl
        have later := ih seeds queued
        rcases later with ⟨added, enqueued⟩
        rw [step]
        refine ⟨added, enqueued.seeds_eq, enqueued.queued_mem, enqueued.distinct, ?_, ?_⟩
        · intro point member
          have fresh := enqueued.fresh point member
          exact ⟨by simp [fresh.1], fresh.2⟩
        · intro point member
          rcases List.mem_cons.mp member with same | later
          · rw [same]
            by_cases old : candidate ∈ queued
            · exact .inr (.inl old)
            · have clustered : Clustered labels candidate := by
                by_contra free
                exact take ⟨old, not_clustered_iff.mp free⟩
              exact .inr (.inr clustered)
          · exact enqueued.covers point later

end Turns

section Expansion

variable {count : Nat} {near : Nat → List Nat} {minSamples : Nat}

def Near (count : Nat) (near : Nat → List Nat) (left right : Nat) : Prop :=
  left < count ∧ right ∈ near left

/-- A point with at least `min_samples` neighbours. -/
def Core (count : Nat) (near : Nat → List Nat) (minSamples point : Nat) : Prop :=
  point < count ∧ minSamples ≤ (near point).length

structure Indices (count : Nat) (near : Nat → List Nat) : Prop where
  inside : ∀ point, ∀ other ∈ near point, other < count
  distinct : ∀ point, (near point).Nodup

theorem reached_inside (indices : Indices count near) {source point : Nat}
    (dense : Core count near minSamples source)
    (reached : Reached (Near count near) (Core count near minSamples) source point) :
    point < count := by
  rcases reached with ⟨last, linked, same | next⟩
  · rw [← same]
    exact (core_of_linked dense linked).1
  · exact indices.inside last point next.2

/-- What holds before each turn of the loop that grows the cluster of `start`: where the
labels stand since it began, and that no neighbour of a core point it took is forgotten. -/
structure Growing (count : Nat) (near : Nat → List Nat) (minSamples clusterId start : Nat)
    (before labels : Nat → Label) (seeds queued : List Nat) : Prop where
  kept : ∀ point id, before point = .cluster id → labels point = .cluster id
  grown : ∀ point id, labels point = .cluster id → before point = .cluster id ∨
    id = clusterId ∧ Reached (Near count near) (Core count near minSamples) start point
  noise : ∀ point, labels point = .noise → before point = .noise
  started : labels start = .cluster clusterId
  waiting : ∀ point ∈ seeds,
    Reached (Near count near) (Core count near minSamples) start point
  known : ∀ point ∈ queued, point ∈ seeds ∨ Clustered labels point
  closed : ∀ point, Core count near minSamples point → labels point = .cluster clusterId →
    ∀ other ∈ near point, other ∈ queued ∨ Clustered labels other

variable {clusterId start : Nat} {before labels : Nat → Label} {seeds queued : List Nat}

theorem clustered_update {point : Nat} (id : Nat) {other : Nat}
    (clustered : Clustered labels other) :
    Clustered (Function.update labels point (.cluster id)) other := by
  by_cases same : other = point
  · exact ⟨id, by rw [same, Function.update_self]⟩
  · rcases clustered with ⟨owner, owned⟩
    exact ⟨owner, by rw [Function.update_of_ne same, owned]⟩

/-- The turn leaves the labels alone: the point at the cursor has a cluster. -/
theorem Growing.passes {point id : Nat}
    (growing : Growing count near minSamples clusterId start before labels (point :: seeds) queued)
    (owned : labels point = .cluster id) :
    Growing count near minSamples clusterId start before labels seeds queued where
  kept := growing.kept
  grown := growing.grown
  noise := growing.noise
  started := growing.started
  waiting other member := growing.waiting other (List.mem_cons_of_mem _ member)
  known other member := by
    rcases growing.known other member with inSeeds | clustered
    · rcases List.mem_cons.mp inSeeds with same | later
      · rw [same]
        exact .inr ⟨id, owned⟩
      · exact .inl later
    · exact .inr clustered
  closed := growing.closed

/-- The turn takes the point at the cursor into the cluster, with or without more
candidates behind it. -/
theorem Growing.take {point : Nat} {candidates met : List Nat}
    (growing : Growing count near minSamples clusterId start before labels (point :: seeds) queued)
    (free : ¬ Clustered labels point) (left : seeds ⊆ candidates) (old : queued ⊆ met)
    (waiting : ∀ other ∈ candidates,
      Reached (Near count near) (Core count near minSamples) start other)
    (known : ∀ other ∈ met, other ∈ candidates ∨ other ∈ queued)
    (closed : Core count near minSamples point → ∀ other ∈ near point, other ∈ met ∨
      Clustered (Function.update labels point (.cluster clusterId)) other) :
    Growing count near minSamples clusterId start before
      (Function.update labels point (.cluster clusterId)) candidates met := by
  have self : Function.update labels point (.cluster clusterId) point = .cluster clusterId :=
    Function.update_self ..
  have others : ∀ other, other ≠ point →
      Function.update labels point (.cluster clusterId) other = labels other :=
    fun other apart => Function.update_of_ne apart ..
  constructor
  case kept =>
    intro other id owned
    have apart : other ≠ point := by
      intro same
      rw [same] at owned
      exact free ⟨id, growing.kept point id owned⟩
    rw [others other apart]
    exact growing.kept other id owned
  case grown =>
    intro other id owned
    by_cases same : other = point
    · rw [same, self, Label.cluster.injEq] at owned
      rw [same]
      exact .inr ⟨owned.symm, growing.waiting point (by simp)⟩
    · rw [others other same] at owned
      exact growing.grown other id owned
  case noise =>
    intro other quiet
    by_cases same : other = point
    · rw [same, self] at quiet
      cases quiet
    · rw [others other same] at quiet
      exact growing.noise other quiet
  case started =>
    by_cases same : start = point
    · rw [same, self]
    · rw [others start same]
      exact growing.started
  case waiting => exact waiting
  case known =>
    intro other member
    rcases known other member with candidate | queuedBefore
    · exact .inl candidate
    · rcases growing.known other queuedBefore with inSeeds | clustered
      · rcases List.mem_cons.mp inSeeds with same | later
        · rw [same]
          exact .inr ⟨clusterId, self⟩
        · exact .inl (left later)
      · exact .inr (clustered_update clusterId clustered)
  case closed =>
    intro other core owned target member
    by_cases same : other = point
    · rw [same] at core member
      exact closed core target member
    · rw [others other same] at owned
      rcases growing.closed other core owned target member with inQueued | clustered
      · exact .inl (old inQueued)
      · exact .inr (clustered_update clusterId clustered)

theorem Growing.step {point : Nat} (indices : Indices count near)
    (dense : Core count near minSamples start)
    (sparse : ∀ other, before other = .noise → ¬ Core count near minSamples other)
    (growing : Growing count near minSamples clusterId start before labels (point :: seeds) queued) :
    let next := turn near minSamples clusterId labels point seeds queued
    Growing count near minSamples clusterId start before next.1 next.2.1 next.2.2 := by
  have reached := growing.waiting point (by simp)
  have later : ∀ other ∈ seeds, Reached (Near count near) (Core count near minSamples) start other :=
    fun other member => growing.waiting other (List.mem_cons_of_mem _ member)
  have cases := @turn_cases near minSamples clusterId labels point seeds queued
  generalize turn near minSamples clusterId labels point seeds queued = next at cases
  cases cases with
  | @taken id owned => exact growing.passes owned
  | border sparseHere =>
      have free : ¬ Clustered labels point := by
        rw [not_clustered_iff]
        rcases sparseHere with noise | ⟨unvisited, _⟩
        · simp [noise]
        · simp [unvisited]
      have notCore : ¬ Core count near minSamples point := by
        rcases sparseHere with noise | ⟨_, few⟩
        · exact sparse point (growing.noise point noise)
        · intro core
          have many := core.2
          omega
      exact growing.take free (List.Subset.refl _) (List.Subset.refl _) later
        (fun other member => .inr member) fun core => absurd core notCore
  | dense fresh many =>
      have free : ¬ Clustered labels point := by
        rw [not_clustered_iff]
        simp [fresh]
      have inside := reached_inside indices dense reached
      have core : Core count near minSamples point := ⟨inside, many⟩
      have linked := (reached_core_iff dense core).mp reached
      have added := enqueue_cases (Function.update labels point (.cluster clusterId))
        (near point) seeds queued
      rcases added with ⟨added, enqueued⟩
      apply growing.take free
      · rw [enqueued.seeds_eq]
        exact List.subset_append_left ..
      · exact fun other member => (enqueued.queued_mem other).mpr (.inr member)
      · intro other member
        rw [enqueued.seeds_eq, List.mem_append] at member
        rcases member with old | new
        · exact later other old
        · exact ⟨point, linked, .inr ⟨inside, (enqueued.fresh other new).1⟩⟩
      · intro other member
        rw [enqueued.seeds_eq, List.mem_append]
        rcases (enqueued.queued_mem other).mp member with new | old
        · exact .inl (.inr new)
        · exact .inr old
      · intro _ target member
        rw [enqueued.queued_mem]
        rcases enqueued.covers target member with new | old | clustered
        · exact .inl (.inl new)
        · exact .inl (.inr old)
        · exact .inr clustered

theorem length_without {part pool : List Nat} (distinct : part.Nodup) (pooled : pool.Nodup)
    (within : part ⊆ pool) :
    part.length + (pool.filter fun point => point ∉ part).length ≤ pool.length := by
  have together : (part ++ pool.filter fun point => point ∉ part).Nodup := by
    rw [List.nodup_append]
    refine ⟨distinct, pooled.filter _, ?_⟩
    intro left inPart right inRest same
    rw [List.mem_filter, decide_eq_true_eq] at inRest
    exact inRest.2 (same ▸ inPart)
  have inside : (part ++ pool.filter fun point => point ∉ part) ⊆ pool := by
    intro point member
    rcases List.mem_append.mp member with inPart | inRest
    · exact within inPart
    · exact List.mem_of_mem_filter inRest
  have room := (List.subperm_of_subset together inside).length_le
  rw [List.length_append] at room
  exact room

def turnsLeft (count : Nat) (seeds queued : List Nat) : Nat :=
  seeds.length + ((List.range count).filter fun point => point ∉ queued).length

theorem turns_left_turn {point : Nat} (indices : Indices count near) :
    let next := turn near minSamples clusterId labels point seeds queued
    turnsLeft count next.2.1 next.2.2 + 1 ≤ turnsLeft count (point :: seeds) queued := by
  have cases := @turn_cases near minSamples clusterId labels point seeds queued
  generalize turn near minSamples clusterId labels point seeds queued = next at cases
  cases cases with
  | taken owned =>
      simp only [turnsLeft, List.length_cons]
      omega
  | border sparse =>
      simp only [turnsLeft, List.length_cons]
      omega
  | dense fresh many =>
      have added := enqueue_cases (Function.update labels point (.cluster clusterId))
        (near point) seeds queued
      rcases added with ⟨added, enqueued⟩
      let after := enqueue (Function.update labels point (.cluster clusterId)) (near point)
        seeds queued
      let pool := (List.range count).filter fun other => other ∉ queued
      have within : added ⊆ pool := by
        intro other member
        have fresh := enqueued.fresh other member
        rw [List.mem_filter, decide_eq_true_eq, List.mem_range]
        exact ⟨indices.inside point other fresh.1, fresh.2⟩
      have pooled : pool.Nodup := List.nodup_range.filter _
      have room := length_without enqueued.distinct pooled within
      have rest : ((List.range count).filter fun other => other ∉ after.2) =
          pool.filter fun other => other ∉ added := by
        rw [List.filter_filter]
        apply List.filter_congr
        intro other _
        rw [← Bool.decide_and, decide_eq_decide, enqueued.queued_mem]
        tauto
      have grown : after.1.length = seeds.length + added.length := by
        rw [enqueued.seeds_eq, List.length_append]
      change after.1.length + ((List.range count).filter fun other => other ∉ after.2).length + 1 ≤
        seeds.length + 1 + pool.length
      rw [rest, grown]
      omega

/-- The loop ends within the turns that are left, in the state of an empty worklist. -/
theorem expand_within_ends (indices : Indices count near)
    (dense : Core count near minSamples start)
    (sparse : ∀ other, before other = .noise → ¬ Core count near minSamples other)
    {turns : Nat} (enough : turnsLeft count seeds queued ≤ turns)
    (growing : Growing count near minSamples clusterId start before labels seeds queued) :
    ∃ final known, expandWithin near minSamples clusterId turns labels seeds queued = some final ∧
      Growing count near minSamples clusterId start before final [] known := by
  induction turns generalizing labels seeds queued with
  | zero =>
      cases seeds with
      | nil => exact ⟨labels, queued, rfl, growing⟩
      | cons point seeds =>
          simp only [turnsLeft, List.length_cons] at enough
          omega
  | succ turns ih =>
      cases seeds with
      | nil => exact ⟨labels, queued, rfl, growing⟩
      | cons point seeds =>
          have left := @turns_left_turn count near minSamples clusterId labels seeds queued point
            indices
          rw [expandWithin]
          exact ih (by omega) (growing.step indices dense sparse)

/-- The labels when the worklist is empty: the cluster took what is reached from its first
point and had no cluster. -/
theorem grown_labels {final : Nat → Label} {known : List Nat}
    (dense : Core count near minSamples start)
    (apart : ∀ point, Linked (Near count near) (Core count near minSamples) start point →
      ¬ Clustered before point)
    (growing : Growing count near minSamples clusterId start before final [] known)
    (point id : Nat) :
    final point = .cluster id ↔ before point = .cluster id ∨
      id = clusterId ∧ ¬ Clustered before point ∧
        Reached (Near count near) (Core count near minSamples) start point := by
  have near_clustered : ∀ core, Core count near minSamples core →
      final core = .cluster clusterId → ∀ other ∈ near core, Clustered final other := by
    intro core isCore owned other member
    rcases growing.closed core isCore owned other member with inQueued | clustered
    · rcases growing.known other inQueued with none | clustered
      · cases none
      · exact clustered
    · exact clustered
  have linked_owned : ∀ last, Linked (Near count near) (Core count near minSamples) start last →
      final last = .cluster clusterId := by
    intro last linked
    induction linked with
    | refl => exact growing.started
    | @tail middle last linked link ih =>
        have clustered := near_clustered middle link.1 ih last link.2.2.2
        rcases clustered with ⟨owner, owned⟩
        rcases growing.grown last owner owned with old | ⟨same, _⟩
        · exact absurd ⟨owner, old⟩ (apart last (linked.tail link))
        · rw [owned, same]
  constructor
  · intro owned
    by_cases old : Clustered before point
    · rcases old with ⟨owner, ownedBefore⟩
      have both := growing.kept point owner ownedBefore
      rw [owned, Label.cluster.injEq] at both
      rw [both]
      exact .inl ownedBefore
    · rcases growing.grown point id owned with ownedBefore | ⟨same, reached⟩
      · exact .inl ownedBefore
      · exact .inr ⟨same, old, reached⟩
  · rintro (ownedBefore | ⟨same, free, last, linked, equal | next⟩)
    · exact growing.kept point id ownedBefore
    · rw [same, ← equal]
      exact linked_owned last linked
    · have clustered := near_clustered last (core_of_linked dense linked)
        (linked_owned last linked) point next.2
      rcases clustered with ⟨owner, owned⟩
      rcases growing.grown point owner owned with old | ⟨mine, _⟩
      · exact absurd ⟨owner, old⟩ free
      · rw [same, owned, mine]

/-- The loop starts with the neighbours of a core point that has no cluster. -/
theorem growing_initial (dense : Core count near minSamples start)
    (unvisited : before start = .unvisited) (fresh : ∀ point, before point ≠ .cluster clusterId) :
    let seeds := (near start).filter fun other => other ≠ start
    Growing count near minSamples clusterId start before
      (Function.update before start (.cluster clusterId)) seeds seeds := by
  intro seeds
  let labels := Function.update before start (.cluster clusterId)
  have self : labels start = .cluster clusterId := Function.update_self ..
  have others : ∀ other, other ≠ start → labels other = before other :=
    fun other apart => Function.update_of_ne apart ..
  refine ⟨?_, ?_, ?_, self, ?_, ?_, ?_⟩
  · intro point id owned
    have apart : point ≠ start := by
      intro same
      rw [same, unvisited] at owned
      cases owned
    exact (others point apart).trans owned
  · intro point id owned
    by_cases same : point = start
    · rw [same] at owned ⊢
      have mine : Label.cluster clusterId = .cluster id := self.symm.trans owned
      injection mine with mine
      exact .inr ⟨mine.symm, reached_self start⟩
    · exact .inl ((others point same).symm.trans owned)
  · intro point quiet
    by_cases same : point = start
    · rw [same] at quiet
      cases self.symm.trans quiet
    · exact (others point same).symm.trans quiet
  · intro point member
    exact ⟨start, Relation.ReflTransGen.refl, .inr ⟨dense.1, List.mem_of_mem_filter member⟩⟩
  · exact fun point member => .inl member
  · intro point _ owned other member
    have same : point = start := by
      by_contra apart
      exact fresh point ((others point apart).symm.trans owned)
    rw [same] at member
    by_cases itself : other = start
    · rw [itself]
      exact .inr ⟨clusterId, self⟩
    · left
      rw [List.mem_filter, decide_eq_true_eq]
      exact ⟨member, itself⟩

theorem turns_left_initial (indices : Indices count near) (start : Nat) :
    let seeds := (near start).filter fun other => other ≠ start
    turnsLeft count seeds seeds ≤ count := by
  intro seeds
  have within : seeds ⊆ List.range count := by
    intro other member
    rw [List.mem_range]
    exact indices.inside start other (List.mem_of_mem_filter member)
  have room := length_without ((indices.distinct start).filter _) List.nodup_range within
  rw [List.length_range] at room
  exact room

end Expansion

end SagaMind.EpisodicMemory
