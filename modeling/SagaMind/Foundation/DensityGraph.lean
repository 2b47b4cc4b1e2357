import Mathlib.Data.Nat.Find
import Mathlib.Logic.Function.Basic
import Mathlib.Logic.Relation
import Mathlib.Order.Bounds.Basic
import Mathlib.Tactic.Common

/-!
# Density-connected points

Points with a neighbourhood relation, some of them dense (core). Two core points belong
together when a chain of neighbouring core points joins them; a point is reached from a
core point when it is on such a chain or next to one. `Clustering` says what numbered
clusters of such points are, and `clustering_of_leaders` builds one from the least core
point of each cluster.
-/

namespace DensityGraph

set_option autoImplicit false

variable {Point : Type*} {near : Point → Point → Prop} {core : Point → Prop}

def Link (near : Point → Point → Prop) (core : Point → Prop) (left right : Point) : Prop :=
  core left ∧ core right ∧ near left right

def Linked (near : Point → Point → Prop) (core : Point → Prop) : Point → Point → Prop :=
  Relation.ReflTransGen (Link near core)

def Reached (near : Point → Point → Prop) (core : Point → Prop) (source point : Point) : Prop :=
  ∃ last, Linked near core source last ∧ (last = point ∨ near last point)

theorem core_of_linked {source last : Point} (dense : core source)
    (linked : Linked near core source last) : core last := by
  induction linked with
  | refl => exact dense
  | tail _ link _ => exact link.2.1

theorem linked_symm (symmetric : ∀ left right, near left right → near right left)
    {left right : Point} (linked : Linked near core left right) :
    Linked near core right left := by
  induction linked with
  | refl => exact Relation.ReflTransGen.refl
  | tail _ link ih =>
      have back : Link near core _ _ := ⟨link.2.1, link.1, symmetric _ _ link.2.2⟩
      exact (Relation.ReflTransGen.single back).trans ih

theorem reached_self (source : Point) : Reached near core source source :=
  ⟨source, Relation.ReflTransGen.refl, .inl rfl⟩

theorem reached_of_linked {source point : Point} (linked : Linked near core source point) :
    Reached near core source point :=
  ⟨point, linked, .inl rfl⟩

theorem reached_core_iff {source point : Point} (dense : core source) (densePoint : core point) :
    Reached near core source point ↔ Linked near core source point := by
  constructor
  · rintro ⟨last, linked, same | next⟩
    · rw [← same]
      exact linked
    · have link : Link near core last point := ⟨core_of_linked dense linked, densePoint, next⟩
      exact linked.tail link
  · exact reached_of_linked

/-- A point that is not dense is reached through a core neighbour. -/
theorem reached_border_iff {source point : Point} (dense : core source) (sparse : ¬ core point) :
    Reached near core source point ↔
      ∃ last, Linked near core source last ∧ core last ∧ near last point := by
  constructor
  · rintro ⟨last, linked, same | next⟩
    · exact absurd (same ▸ core_of_linked dense linked) sparse
    · exact ⟨last, linked, core_of_linked dense linked, next⟩
  · rintro ⟨last, linked, _, next⟩
    exact ⟨last, linked, .inr next⟩

variable [LinearOrder Point]

/-- The numbered clusters of the points: the core points by their chains, in the order of
the least core points, the others with the first cluster that has a core neighbour. -/
structure Clustering (near : Point → Point → Prop) (core : Point → Prop)
    (clusterOf : Point → Option Nat) (size : Nat) : Prop where
  connected : ∀ left right, core left → core right →
    ((∃ id, clusterOf left = some id ∧ clusterOf right = some id) ↔
      Linked near core left right)
  bounded : ∀ point id, clusterOf point = some id → id < size
  numbered : ∃ leader : Nat → Point,
    (∀ id < size, IsLeast {point | core point ∧ clusterOf point = some id} (leader id)) ∧
      ∀ first second, first < second → second < size → leader first < leader second
  border : ∀ point, ¬ core point → ∀ id, clusterOf point = some id ↔
    IsLeast {id | ∃ other, core other ∧ near other point ∧ clusterOf other = some id} id
  omitted : ∀ point, ¬ core point → (∀ other, core other → ¬ near other point) →
    clusterOf point = none

structure Leaders (near : Point → Point → Prop) (core : Point → Prop) (leader : Nat → Point)
    (size : Nat) : Prop where
  dense : ∀ id < size, core (leader id)
  increasing : ∀ first second, first < second → second < size → leader first < leader second
  least : ∀ id < size, ∀ point, Linked near core (leader id) point → leader id ≤ point

def FirstReaching (near : Point → Point → Prop) (core : Point → Prop) (leader : Nat → Point)
    (size : Nat) (point : Point) (id : Nat) : Prop :=
  id < size ∧ Reached near core (leader id) point ∧
    ∀ earlier < id, ¬ Reached near core (leader earlier) point

section Leaders

variable {leader : Nat → Point} {size : Nat}

omit [LinearOrder Point] in
theorem first_reaching_exists {point : Point} {id : Nat} (bound : id < size)
    (reached : Reached near core (leader id) point) :
    ∃ first ≤ id, FirstReaching near core leader size point first := by
  classical
  have some : ∃ other, Reached near core (leader other) point := ⟨id, reached⟩
  have early : Nat.find some ≤ id := Nat.find_min' some reached
  exact ⟨Nat.find some, early, by omega, Nat.find_spec some,
    fun earlier below => Nat.find_min some below⟩

theorem Leaders.same_of_linked (symmetric : ∀ left right, near left right → near right left)
    (leaders : Leaders near core leader size) {first second : Nat} (firstBound : first < size)
    (secondBound : second < size)
    (linked : Linked near core (leader first) (leader second)) : first = second := by
  have low := leaders.least first firstBound _ linked
  have high := leaders.least second secondBound _ (linked_symm symmetric linked)
  have equal : leader first = leader second := le_antisymm low high
  rcases Nat.lt_trichotomy first second with below | same | above
  · have strict := leaders.increasing first second below secondBound
    exact absurd equal strict.ne
  · exact same
  · have strict := leaders.increasing second first above firstBound
    exact absurd equal.symm strict.ne

theorem Leaders.first_reaching_core_iff
    (symmetric : ∀ left right, near left right → near right left)
    (leaders : Leaders near core leader size) {point : Point} (dense : core point) (id : Nat) :
    FirstReaching near core leader size point id ↔
      id < size ∧ Linked near core (leader id) point := by
  constructor
  · rintro ⟨bound, reached, _⟩
    exact ⟨bound, (reached_core_iff (leaders.dense id bound) dense).mp reached⟩
  · rintro ⟨bound, linked⟩
    refine ⟨bound, reached_of_linked linked, ?_⟩
    intro earlier below reached
    have earlierBound : earlier < size := by omega
    have other := (reached_core_iff (leaders.dense earlier earlierBound) dense).mp reached
    have joined := other.trans (linked_symm symmetric linked)
    have same := leaders.same_of_linked symmetric earlierBound bound joined
    omega

omit [LinearOrder Point] in
theorem update_older (leader : Nat → Point) (newcomer : Point) {id : Nat} (bound : id < size) :
    Function.update leader size newcomer id = leader id :=
  Function.update_of_ne bound.ne ..

/-- The next leader is above the others and the least point that it is linked to. -/
theorem Leaders.next (leaders : Leaders near core leader size) {newcomer : Point}
    (dense : core newcomer) (above : ∀ id < size, leader id < newcomer)
    (least : ∀ point, Linked near core newcomer point → newcomer ≤ point) :
    Leaders near core (Function.update leader size newcomer) (size + 1) where
  dense := by
    intro id bound
    by_cases old : id < size
    · rw [update_older leader newcomer old]
      exact leaders.dense id old
    · have last : id = size := by omega
      rw [last, Function.update_self]
      exact dense
  increasing := by
    intro first second less bound
    have firstOld : first < size := by omega
    rw [update_older leader newcomer firstOld]
    by_cases old : second < size
    · rw [update_older leader newcomer old]
      exact leaders.increasing first second less old
    · have last : second = size := by omega
      rw [last, Function.update_self]
      exact above first firstOld
  least := by
    intro id bound point linked
    by_cases old : id < size
    · rw [update_older leader newcomer old] at linked ⊢
      exact leaders.least id old point linked
    · have last : id = size := by omega
      rw [last, Function.update_self] at linked ⊢
      exact least point linked

omit [LinearOrder Point] in
/-- With one more leader, what it reaches is its own unless an older one reached
it. -/
theorem first_reaching_next (newcomer point : Point) (id : Nat) :
    FirstReaching near core (Function.update leader size newcomer) (size + 1) point id ↔
      FirstReaching near core leader size point id ∨
        id = size ∧ (∀ earlier < size, ¬ Reached near core (leader earlier) point) ∧
          Reached near core newcomer point := by
  have among : ∀ {earlier : Nat}, earlier < size →
      (Reached near core (Function.update leader size newcomer earlier) point ↔
        Reached near core (leader earlier) point) := by
    intro earlier bound
    rw [update_older leader newcomer bound]
  constructor
  · rintro ⟨bound, reached, first⟩
    by_cases old : id < size
    · left
      refine ⟨old, (among old).mp reached, ?_⟩
      intro earlier below other
      exact first earlier below ((among (by omega)).mpr other)
    · right
      have last : id = size := by omega
      subst last
      rw [Function.update_self] at reached
      refine ⟨rfl, ?_, reached⟩
      intro earlier below other
      exact first earlier below ((among below).mpr other)
  · rintro (⟨bound, reached, first⟩ | ⟨last, none, reached⟩)
    · refine ⟨by omega, (among bound).mpr reached, ?_⟩
      intro earlier below other
      exact first earlier below ((among (by omega)).mp other)
    · subst last
      refine ⟨by omega, ?_, ?_⟩
      · rw [Function.update_self]
        exact reached
      · intro earlier below other
        exact none earlier below ((among below).mp other)

/-- The clusters of the leaders, once they cover the core points. -/
theorem clustering_of_leaders (symmetric : ∀ left right, near left right → near right left)
    (leaders : Leaders near core leader size)
    (covers : ∀ point, core point → ∃ id < size, Linked near core (leader id) point)
    {clusterOf : Point → Option Nat}
    (assigned : ∀ point id, clusterOf point = some id ↔
      FirstReaching near core leader size point id) :
    Clustering near core clusterOf size := by
  have ofCore : ∀ point, core point → ∀ id, clusterOf point = some id ↔
      id < size ∧ Linked near core (leader id) point := by
    intro point dense id
    rw [assigned, leaders.first_reaching_core_iff symmetric dense]
  have lowest : ∀ point, ¬ core point → ∀ id, clusterOf point = some id ↔
      IsLeast {id | ∃ other, core other ∧ near other point ∧ clusterOf other = some id} id := by
    intro point sparse id
    have among : ∀ cluster, cluster < size → (Reached near core (leader cluster) point ↔
        ∃ other, core other ∧ near other point ∧ clusterOf other = some cluster) := by
      intro cluster bound
      rw [reached_border_iff (leaders.dense cluster bound) sparse]
      constructor
      · rintro ⟨last, linked, dense, next⟩
        exact ⟨last, dense, next, (ofCore last dense cluster).mpr ⟨bound, linked⟩⟩
      · rintro ⟨last, dense, next, member⟩
        exact ⟨last, ((ofCore last dense cluster).mp member).2, dense, next⟩
    rw [assigned]
    constructor
    · rintro ⟨bound, reached, first⟩
      refine ⟨(among id bound).mp reached, ?_⟩
      rintro cluster ⟨other, dense, next, member⟩
      have clusterBound := ((ofCore other dense cluster).mp member).1
      by_contra below
      apply first cluster (by omega)
      exact (among cluster clusterBound).mpr ⟨other, dense, next, member⟩
    · rintro ⟨⟨other, dense, next, member⟩, least⟩
      have bound := ((ofCore other dense id).mp member).1
      refine ⟨bound, (among id bound).mpr ⟨other, dense, next, member⟩, ?_⟩
      intro earlier below reached
      have small : id ≤ earlier := least ((among earlier (by omega)).mp reached)
      omega
  constructor
  · intro left right denseLeft denseRight
    constructor
    · rintro ⟨id, memberLeft, memberRight⟩
      have fromLeft := ((ofCore left denseLeft id).mp memberLeft).2
      have fromRight := ((ofCore right denseRight id).mp memberRight).2
      exact (linked_symm symmetric fromLeft).trans fromRight
    · intro linked
      have owner := covers left denseLeft
      rcases owner with ⟨id, bound, fromLeader⟩
      exact ⟨id, (ofCore left denseLeft id).mpr ⟨bound, fromLeader⟩,
        (ofCore right denseRight id).mpr ⟨bound, fromLeader.trans linked⟩⟩
  · intro point id member
    exact ((assigned point id).mp member).1
  · refine ⟨leader, ?_, leaders.increasing⟩
    intro id bound
    constructor
    · exact ⟨leaders.dense id bound,
        (ofCore _ (leaders.dense id bound) id).mpr ⟨bound, Relation.ReflTransGen.refl⟩⟩
    · rintro point ⟨dense, member⟩
      exact leaders.least id bound point ((ofCore point dense id).mp member).2
  · exact lowest
  · intro point sparse alone
    by_contra somewhere
    rw [← ne_eq, Option.ne_none_iff_exists'] at somewhere
    rcases somewhere with ⟨id, member⟩
    have least := (lowest point sparse id).mp member
    rcases least.1 with ⟨other, dense, next, _⟩
    exact alone other dense next

end Leaders

end DensityGraph
