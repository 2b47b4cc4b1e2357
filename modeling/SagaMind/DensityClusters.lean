import SagaMind.Memory.ClusterGrowth
import Mathlib.Data.List.Induction

/-!
# The clusters of a consolidation cycle are those of DBSCAN

Index after index, the clusters so far are those of the least core points so far. The
clusters that come first keep their points, so the clusters are the density-connected
components, and a border point stays with the first of them.
-/

namespace SagaMind.EpisodicMemory

open KeyedTable DensityGraph

set_option autoImplicit false

section Visits

variable {count : Nat} {near : Nat → List Nat} {minSamples : Nat}

/-- What holds after the first indices were visited. -/
structure Progress (count : Nat) (near : Nat → List Nat) (minSamples : Nat)
    (leader : Nat → Nat) (visited : Nat) (labels : Nat → Label) (size : Nat) : Prop where
  leaders : Leaders (Near count near) (Core count near minSamples) leader size
  below : ∀ id < size, leader id < visited
  covers : ∀ point < visited, Core count near minSamples point →
    ∃ id < size, Linked (Near count near) (Core count near minSamples) (leader id) point
  clustered : ∀ point id, labels point = .cluster id ↔
    FirstReaching (Near count near) (Core count near minSamples) leader size point id
  sparse : ∀ point, labels point = .noise → ¬ Core count near minSamples point

variable {leader : Nat → Nat} {visited size : Nat} {labels : Nat → Label}

theorem progress_initial :
    Progress count near minSamples (fun _ => 0) 0 (fun _ => .unvisited) 0 where
  leaders := ⟨by omega, by omega, by omega⟩
  below := by omega
  covers := by omega
  clustered := by
    intro point id
    constructor
    · intro owned
      cases owned
    · rintro ⟨bound, _⟩
      omega
  sparse := by
    intro point noise
    cases noise

theorem Progress.clustered_of_reached
    (progress : Progress count near minSamples leader visited labels size) {point id : Nat}
    (bound : id < size)
    (reached : Reached (Near count near) (Core count near minSamples) (leader id) point) :
    Clustered labels point := by
  have first := first_reaching_exists bound reached
  rcases first with ⟨owner, _, first⟩
  exact ⟨owner, (progress.clustered point owner).mpr first⟩

theorem Progress.free_iff
    (progress : Progress count near minSamples leader visited labels size) {point : Nat} :
    ¬ Clustered labels point ↔ ∀ earlier < size,
      ¬ Reached (Near count near) (Core count near minSamples) (leader earlier) point := by
  constructor
  · intro free earlier bound reached
    exact free (progress.clustered_of_reached bound reached)
  · rintro none ⟨owner, owned⟩
    have first := (progress.clustered point owner).mp owned
    exact none owner first.1 first.2.1

theorem Progress.unlinked (symmetric : ∀ left right, Near count near left right →
      Near count near right left)
    (progress : Progress count near minSamples leader visited labels size) {start point id : Nat}
    (bound : id < size) (unvisited : labels start = .unvisited)
    (linked : Linked (Near count near) (Core count near minSamples) start point) :
    ¬ Linked (Near count near) (Core count near minSamples) (leader id) point := by
  intro fromLeader
  have joined := fromLeader.trans (linked_symm symmetric linked)
  have clustered := progress.clustered_of_reached bound (reached_of_linked joined)
  rcases clustered with ⟨owner, owned⟩
  rw [unvisited] at owned
  cases owned

theorem Progress.covered_step
    (progress : Progress count near minSamples leader visited labels size)
    (labelled : labels visited ≠ .unvisited) :
    Progress count near minSamples leader (visited + 1) labels size where
  leaders := progress.leaders
  below := by
    intro id bound
    have below := progress.below id bound
    omega
  covers := by
    intro point bound core
    by_cases old : point < visited
    · exact progress.covers point old core
    · have here : point = visited := by omega
      subst here
      cases label : labels point with
      | unvisited => exact absurd label labelled
      | noise => exact absurd core (progress.sparse point label)
      | cluster id =>
          have first := (progress.clustered point id).mp label
          exact ⟨id, first.1,
            (reached_core_iff (progress.leaders.dense id first.1) core).mp first.2.1⟩
  clustered := progress.clustered
  sparse := progress.sparse

theorem Progress.noise_step
    (progress : Progress count near minSamples leader visited labels size)
    (unvisited : labels visited = .unvisited) (few : (near visited).length < minSamples) :
    Progress count near minSamples leader (visited + 1)
      (Function.update labels visited .noise) size where
  leaders := progress.leaders
  below := by
    intro id bound
    have below := progress.below id bound
    omega
  covers := by
    intro point bound core
    have old : point < visited := by
      by_contra late
      have here : point = visited := by omega
      have many := core.2
      rw [here] at many
      omega
    exact progress.covers point old core
  clustered := by
    intro point id
    rw [← progress.clustered]
    by_cases same : point = visited
    · rw [same, Function.update_self, unvisited]
      simp
    · rw [Function.update_of_ne same]
  sparse := by
    intro point noise
    by_cases same : point = visited
    · intro core
      have many := core.2
      rw [same] at many
      omega
    · rw [Function.update_of_ne same] at noise
      exact progress.sparse point noise

theorem Progress.cluster_step (symmetric : ∀ left right, Near count near left right →
      Near count near right left)
    (progress : Progress count near minSamples leader visited labels size)
    (unvisited : labels visited = .unvisited) (core : Core count near minSamples visited)
    {final : Nat → Label} {known : List Nat}
    (growing : Growing count near minSamples size visited labels final [] known) :
    Progress count near minSamples (Function.update leader size visited) (visited + 1) final
      (size + 1) := by
  have newest : Function.update leader size visited size = visited := Function.update_self ..
  have apart : ∀ point, Linked (Near count near) (Core count near minSamples) visited point →
      ¬ Clustered labels point := by
    rintro point linked ⟨id, owned⟩
    have first := (progress.clustered point id).mp owned
    have pointCore := core_of_linked core linked
    apply progress.unlinked symmetric first.1 unvisited linked
    exact (reached_core_iff (progress.leaders.dense id first.1) pointCore).mp first.2.1
  have labelled := grown_labels core apart growing
  constructor
  · apply progress.leaders.next core progress.below
    intro point linked
    by_contra early
    have covered := progress.covers point (by omega) (core_of_linked core linked)
    rcases covered with ⟨owner, ownerBound, fromLeader⟩
    exact progress.unlinked symmetric ownerBound unvisited linked fromLeader
  · intro id bound
    by_cases old : id < size
    · rw [update_older leader visited old]
      have below := progress.below id old
      omega
    · have last : id = size := by omega
      rw [last, newest]
      omega
  · intro point bound pointCore
    by_cases old : point < visited
    · have covered := progress.covers point old pointCore
      rcases covered with ⟨id, idBound, linked⟩
      refine ⟨id, by omega, ?_⟩
      rw [update_older leader visited idBound]
      exact linked
    · have here : point = visited := by omega
      refine ⟨size, by omega, ?_⟩
      rw [newest, here]
      exact Relation.ReflTransGen.refl
  · intro point id
    rw [labelled point id, progress.clustered, progress.free_iff, first_reaching_next]
  · intro point noise
    exact progress.sparse point (growing.noise point noise)

section Runs

theorem visit_within_eq {state next : (Nat → Label) × Nat} {index : Nat}
    (ran : visitWithin count near minSamples state index = some next) :
    visit count near minSamples state index = next := by
  rw [visitWithin] at ran
  rw [visit]
  split at ran
  · rename_i labelled
    rw [if_pos labelled]
    exact Option.some.inj ran
  · rename_i labelled
    rw [if_neg labelled]
    split at ran
    · rename_i few
      rw [if_pos few]
      exact Option.some.inj ran
    · rename_i many
      rw [if_neg many]
      rw [Option.bind_eq_bind, Option.bind_eq_some_iff] at ran
      rcases ran with ⟨final, expanded, same⟩
      have grown := expand_within_eq expanded
      rw [← Option.some.inj same]
      exact congrArg (fun labels => (labels, state.2 + 1)) grown

theorem visit_within_more {turns more : Nat} (enough : turns ≤ more)
    {state next : (Nat → Label) × Nat} {index : Nat}
    (ran : visitWithin turns near minSamples state index = some next) :
    visitWithin more near minSamples state index = some next := by
  rw [visitWithin] at ran ⊢
  split at ran
  · rename_i labelled
    rw [if_pos labelled]
    exact ran
  · rename_i labelled
    rw [if_neg labelled]
    split at ran
    · rename_i few
      rw [if_pos few]
      exact ran
    · rename_i many
      rw [if_neg many]
      rw [Option.bind_eq_bind, Option.bind_eq_some_iff] at ran ⊢
      rcases ran with ⟨final, expanded, same⟩
      exact ⟨final, expand_within_more enough expanded, same⟩

theorem Progress.visit_step (indices : Indices count near)
    (symmetric : ∀ left right, Near count near left right → Near count near right left)
    (progress : Progress count near minSamples leader visited labels size)
    (bound : visited < count) :
    ∃ after next nextSize, visitWithin count near minSamples (labels, size) visited =
        some (next, nextSize) ∧
      Progress count near minSamples after (visited + 1) next nextSize := by
  by_cases unvisited : labels visited = .unvisited
  · by_cases few : (near visited).length < minSamples
    · refine ⟨leader, _, size, ?_, progress.noise_step unvisited few⟩
      simp [visitWithin, unvisited, few]
    · have core : Core count near minSamples visited := ⟨bound, by omega⟩
      have fresh : ∀ point, labels point ≠ .cluster size := by
        intro point owned
        have first := (progress.clustered point size).mp owned
        exact Nat.lt_irrefl size first.1
      have ends := expand_within_ends indices core progress.sparse
        (turns_left_initial indices visited) (growing_initial core unvisited fresh)
      rcases ends with ⟨final, known, expanded, growing⟩
      refine ⟨_, final, size + 1, ?_,
        progress.cluster_step symmetric unvisited core growing⟩
      simp only [visitWithin, unvisited, few, ne_eq, not_true, if_false]
      rw [expanded]
      rfl
  · refine ⟨leader, labels, size, ?_, progress.covered_step unvisited⟩
    simp [visitWithin, unvisited]

theorem visits_progress (indices : Indices count near)
    (symmetric : ∀ left right, Near count near left right → Near count near right left)
    (turns : Nat) (enough : count ≤ turns) (reach : visited ≤ count) :
    ∃ after next nextSize,
      (List.range visited).foldlM (visitWithin turns near minSamples)
          (fun _ => Label.unvisited, 0) = some (next, nextSize) ∧
      (List.range visited).foldl (visit count near minSamples) (fun _ => .unvisited, 0) =
        (next, nextSize) ∧
      Progress count near minSamples after visited next nextSize := by
  induction visited with
  | zero => exact ⟨_, _, 0, rfl, rfl, progress_initial⟩
  | succ visited ih =>
      have earlier := ih (by omega)
      rcases earlier with ⟨leader, labels, size, ran, same, progress⟩
      have step := progress.visit_step indices symmetric (by omega)
      rcases step with ⟨after, next, nextSize, visits, progressed⟩
      refine ⟨after, next, nextSize, ?_, ?_, progressed⟩
      · rw [List.range_succ, List.foldlM_append, ran]
        have more := visit_within_more enough visits
        simp [more]
      · rw [List.range_succ, List.foldl_append, same]
        exact visit_within_eq visits

end Runs

end Visits

section Gathering

variable {Item : Type}

def clusterId? : Label → Option Nat
  | .cluster id => some id
  | .unvisited => none
  | .noise => none

def members (clusterOf : Nat → Option Nat) (items : List Item) (id : Nat) : List Item :=
  (items.zipIdx.filter fun entry => clusterOf entry.2 = some id).map Prod.fst

theorem clustered_some_iff {label : Label} {id : Nat} :
    clusterId? label = some id ↔ label = .cluster id := by
  cases label <;> simp [clusterId?]

def gatherOne (labels : Nat → Label) (clusters : Table (@Prod.fst Nat (List Item)))
    (entry : Item × Nat) : Table (@Prod.fst Nat (List Item)) :=
  match labels entry.2 with
  | .cluster id => assign clusters id entry.1
  | _ => clusters

theorem find_gather_one (labels : Nat → Label) (clusters : Table (@Prod.fst Nat (List Item)))
    (entry : Item × Nat) (id : Nat) :
    (gatherOne labels clusters entry).find? id =
      if labels entry.2 = .cluster id then
        some (id, ((clusters.find? id).map Prod.snd).getD [] ++ [entry.1])
      else clusters.find? id := by
  rw [gatherOne]
  cases label : labels entry.2 with
  | unvisited => simp
  | noise => simp
  | cluster own =>
      simp only [assign, Table.find_put, Label.cluster.injEq]
      by_cases same : own = id
      · simp [same]
      · simp [same]

/-- `clusters` holds the members of each label that some item has. -/
theorem find_gather (labels : Nat → Label) (items : List Item) (id : Nat) :
    (gather labels items).find? id =
      if members (fun index => clusterId? (labels index)) items id = [] then none
      else some (id, members (fun index => clusterId? (labels index)) items id) := by
  change (items.zipIdx.foldl (gatherOne labels) Table.empty).find? id = _
  rw [members]
  generalize items.zipIdx = entries
  induction entries using List.reverseRecOn with
  | nil => rfl
  | append_singleton entries entry ih =>
      rw [List.foldl_append, List.foldl_cons, List.foldl_nil, find_gather_one, ih,
        List.filter_append, List.map_append]
      by_cases own : labels entry.2 = .cluster id
      · have taken : clusterId? (labels entry.2) = some id := clustered_some_iff.mpr own
        rw [if_pos own]
        by_cases empty : (entries.filter fun entry =>
            clusterId? (labels entry.2) = some id).map Prod.fst = []
        · simp [empty, taken]
        · simp [empty, taken]
      · have left : clusterId? (labels entry.2) ≠ some id :=
          fun taken => own (clustered_some_iff.mp taken)
        have alone : ([entry].filter fun entry => clusterId? (labels entry.2) = some id) = [] := by
          simp [left]
        rw [if_neg own, alone, List.map_nil, List.append_nil]

theorem members_ne_nil {clusterOf : Nat → Option Nat} {items : List Item} {index id : Nat}
    (bound : index < items.length) (owned : clusterOf index = some id) :
    members clusterOf items id ≠ [] := by
  have listed : (items[index], index) ∈ items.zipIdx := by
    rw [List.mem_zipIdx_iff_getElem?]
    simp [bound]
  intro empty
  rw [members, List.map_eq_nil_iff, List.filter_eq_nil_iff] at empty
  exact empty _ listed (by simpa using owned)

end Gathering

section Clusters

variable {Number Item : Type} [LinearOrder Number]

theorem neighbours_indices (count : Nat) (dist : Nat → Nat → Number) (eps : Number) :
    Indices count (neighbours count dist eps) where
  inside := by
    intro point other member
    exact List.mem_range.mp (List.mem_of_mem_filter member)
  distinct := fun _ => List.nodup_range.filter _

theorem mem_neighbours {count : Nat} {dist : Nat → Nat → Number} {eps : Number}
    {point other : Nat} :
    other ∈ neighbours count dist eps point ↔ other < count ∧ dist point other ≤ eps := by
  rw [neighbours, List.mem_filter, List.mem_range, decide_eq_true_eq]

/-- Whatever the items, the radius and the number of samples, the inner loops end within as
many turns as there are items, and `_cluster` returns the clusters of DBSCAN: `Core` points
have at least `min_samples` indices within `eps`, `Near` indices are within `eps`. -/
theorem cluster_is_dbscan (dist : Nat → Nat → Number) (items : List Item) (eps : Number)
    (minSamples : Nat)
    (symmetric : ∀ left < items.length, ∀ right < items.length,
      dist left right = dist right left) :
    (∀ turns, items.length ≤ turns →
      clusterWithin turns dist items eps minSamples = some (cluster dist items eps minSamples)) ∧
    ∃ clusterOf size,
      Clustering (Near items.length (neighbours items.length dist eps))
        (Core items.length (neighbours items.length dist eps) minSamples) clusterOf size ∧
      ∀ id, (cluster dist items eps minSamples).find? id =
        if id < size then some (id, members clusterOf items id) else none := by
  let near := neighbours items.length dist eps
  have indices : Indices items.length near := neighbours_indices items.length dist eps
  have nearSymmetric : ∀ left right, Near items.length near left right →
      Near items.length near right left := by
    intro left right next
    have mem := mem_neighbours.mp next.2
    have back := symmetric left next.1 right mem.1
    exact ⟨mem.1, mem_neighbours.mpr ⟨next.1, back ▸ mem.2⟩⟩
  have runs : ∀ turns, items.length ≤ turns → ∃ leader labels size,
      (List.range items.length).foldlM (visitWithin turns near minSamples)
          (fun _ => Label.unvisited, 0) = some (labels, size) ∧
        (List.range items.length).foldl (visit items.length near minSamples)
          (fun _ => .unvisited, 0) = (labels, size) ∧
        Progress items.length near minSamples leader items.length labels size :=
    fun turns enough => visits_progress indices nearSymmetric turns enough le_rfl
  constructor
  · intro turns enough
    have run := runs turns enough
    rcases run with ⟨leader, labels, size, ran, same, _⟩
    rw [clusterWithin, cluster, labelAll, same]
    simp only [near] at ran
    simp [ran]
  · have run := runs items.length le_rfl
    rcases run with ⟨leader, labels, size, _, same, progress⟩
    let clusterOf : Nat → Option Nat := fun index => clusterId? (labels index)
    have assigned : ∀ point id, clusterOf point = some id ↔
        FirstReaching (Near items.length near) (Core items.length near minSamples) leader size
          point id := by
      intro point id
      rw [← progress.clustered]
      exact clustered_some_iff
    have clustering := clustering_of_leaders nearSymmetric progress.leaders
      (fun point core => progress.covers point core.1 core) assigned
    refine ⟨clusterOf, size, clustering, ?_⟩
    intro id
    have found := find_gather labels items id
    rw [cluster, labelAll, same, found]
    by_cases bound : id < size
    · have own : clusterOf (leader id) = some id := by
        rw [assigned]
        exact ⟨bound, reached_self _, fun earlier below reached => by
          have core := progress.leaders.dense id bound
          have linked := (reached_core_iff
            (progress.leaders.dense earlier (by omega)) core).mp reached
          have equal := progress.leaders.same_of_linked nearSymmetric (by omega) bound linked
          omega⟩
      have some := members_ne_nil (progress.leaders.dense id bound).1 own
      rw [if_pos bound, if_neg some]
    · have none : members clusterOf items id = [] := by
        rw [members, List.map_eq_nil_iff, List.filter_eq_nil_iff]
        intro entry _ owned
        rw [decide_eq_true_eq] at owned
        exact bound (clustering.bounded entry.2 id owned)
      rw [if_neg bound, if_pos none]

def lineDistance (left right : Nat) : Nat :=
  let place := fun index => [0, 1, 2, 9].getD index 0
  (place left - place right) + (place right - place left)

theorem cluster_is_dbscan_line :
    clusterWithin 4 lineDistance ["e1", "e2", "e3", "e4"] 1 3 =
        some (cluster lineDistance ["e1", "e2", "e3", "e4"] 1 3) ∧
      (cluster lineDistance ["e1", "e2", "e3", "e4"] 1 3).rows = [(0, ["e1", "e2", "e3"])] := by
  constructor
  · apply (cluster_is_dbscan lineDistance ["e1", "e2", "e3", "e4"] 1 3 _).1 4 (by decide)
    intro left _ right _
    exact Nat.add_comm ..
  · decide

end Clusters

end SagaMind.EpisodicMemory
