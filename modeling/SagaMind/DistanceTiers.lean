import SagaMind.Memory.Consolidation
import SagaMind.Memory.Distance

/-!
# The tiers of the distance matrix

NumPy and the double loop compute the same matrix. The native kernel computes it off the
diagonal and leaves zeros on it, so the tiers agree exactly on embeddings without a zero
vector.
-/

namespace SagaMind.EpisodicMemory

open ListVectors

set_option autoImplicit false

noncomputable section

def entryAt (matrix : Matrix) (row column : Nat) : Option ℝ :=
  matrix[row]?.bind fun entries => entries[column]?

/-- Whatever is installed, the same square and symmetric matrix of distances in [0, 2]. -/
structure TiersAgree (embeddings : List (List ℝ)) : Prop where
  same : ∀ installed, distanceMatrix installed embeddings = pythonMatrix embeddings
  square : (pythonMatrix embeddings).length = embeddings.length ∧
    ∀ row ∈ pythonMatrix embeddings, row.length = embeddings.length
  symmetric : ∀ row column,
    entryAt (pythonMatrix embeddings) row column = entryAt (pythonMatrix embeddings) column row
  bounded : ∀ row ∈ pythonMatrix embeddings, ∀ entry ∈ row, 0 ≤ entry ∧ entry ≤ 2

theorem widths_equal {embeddings : List (List ℝ)} (some : embeddings ≠ [])
    (equal : ∀ left ∈ embeddings, ∀ right ∈ embeddings, left.length = right.length) :
    (widths embeddings).length = 1 := by
  cases embeddings with
  | nil => exact absurd rfl some
  | cons first rest =>
      have constant : (first :: rest).map List.length =
          List.replicate (rest.length + 1) first.length := by
        rw [List.eq_replicate_iff]
        constructor
        · simp
        · intro width member
          rw [List.mem_map] at member
          rcases member with ⟨vector, inList, same⟩
          rw [← same]
          exact equal vector inList first (by simp)
      rw [widths, constant, List.replicate_dedup (by omega)]
      rfl

theorem entry_at_python {embeddings : List (List ℝ)} {row column : Nat}
    (rowBound : row < embeddings.length) (columnBound : column < embeddings.length) :
    entryAt (pythonMatrix embeddings) row column =
      some (computeCosineDistance embeddings[row] embeddings[column]) := by
  simp [entryAt, pythonMatrix, rowBound, columnBound]

theorem entry_at_native {embeddings : List (List ℝ)} {row column : Nat}
    (rowBound : row < embeddings.length) (columnBound : column < embeddings.length) :
    entryAt (cosineDistanceMatrix embeddings) row column =
      some (if row = column then 0
        else computeCosineDistance embeddings[row] embeddings[column]) := by
  have entry := upper_triangle_eq rowBound columnBound
  rw [pair_distance_eq rowBound columnBound] at entry
  simp [entryAt, cosineDistanceMatrix, rowBound, columnBound, entry]

/-- The native kernel is the double loop where no vector is zero. -/
theorem native_matrix_eq {embeddings : List (List ℝ)}
    (long : ∀ vector ∈ embeddings, norm vector ≠ 0) :
    cosineDistanceMatrix embeddings = pythonMatrix embeddings := by
  apply List.ext_getElem
  · simp [cosineDistanceMatrix, pythonMatrix]
  · intro row nativeRow pythonRow
    have rowBound : row < embeddings.length := by simpa [pythonMatrix] using pythonRow
    apply List.ext_getElem
    · simp [cosineDistanceMatrix, pythonMatrix]
    · intro column nativeColumn pythonColumn
      have columnBound : column < embeddings.length := by simpa [pythonMatrix] using pythonColumn
      have entry := upper_triangle_eq rowBound columnBound
      rw [pair_distance_eq rowBound columnBound] at entry
      simp only [cosineDistanceMatrix, pythonMatrix, List.getElem_map, List.getElem_range, entry]
      split
      · rename_i same
        subst same
        exact (cosine_distance_self (long _ (List.getElem_mem rowBound))).symm
      · rfl

theorem python_symmetric (embeddings : List (List ℝ)) (row column : Nat) :
    entryAt (pythonMatrix embeddings) row column =
      entryAt (pythonMatrix embeddings) column row := by
  have outside : ∀ first second : Nat, ¬ (first < embeddings.length ∧ second < embeddings.length) →
      entryAt (pythonMatrix embeddings) first second = none := by
    intro first second beyond
    rw [entryAt, Option.bind_eq_none_iff]
    intro entries there
    rw [pythonMatrix, List.getElem?_map, Option.map_eq_some_iff] at there
    rcases there with ⟨vector, inList, same⟩
    have firstBound := (List.getElem?_eq_some_iff.mp inList).1
    rw [← same, List.getElem?_eq_none_iff, List.length_map]
    omega
  by_cases both : row < embeddings.length ∧ column < embeddings.length
  · rw [entry_at_python both.1 both.2, entry_at_python both.2 both.1, cosine_distance_comm]
  · rw [outside row column both, outside column row (fun flipped => both flipped.symm)]

/-- The tiers agree, and their matrix is what it should be, exactly when no embedding is a
zero vector. -/
theorem tiers_agree_iff (embeddings : List (List ℝ)) (two : 2 ≤ embeddings.length)
    (equal : ∀ left ∈ embeddings, ∀ right ∈ embeddings, left.length = right.length) :
    TiersAgree embeddings ↔ ∀ vector ∈ embeddings, ∃ entry ∈ vector, entry ≠ 0 := by
  have some : embeddings ≠ [] := by
    intro none
    rw [none] at two
    simp at two
  have one := widths_equal some equal
  have long_iff : ∀ vector : List ℝ, norm vector ≠ 0 ↔ ∃ entry ∈ vector, entry ≠ 0 := by
    intro vector
    simp only [ne_eq, norm_eq_zero_iff, not_forall, exists_prop]
  constructor
  · intro agree vector member
    have native := agree.same { native := true, numpy := true }
    rw [distanceMatrix, if_neg (not_not_intro one), if_pos rfl] at native
    rw [List.mem_iff_getElem] at member
    rcases member with ⟨row, bound, same⟩
    have nativeEntry := entry_at_native bound bound
    rw [native, entry_at_python bound bound, if_pos rfl, Option.some.injEq] at nativeEntry
    rw [← same, ← long_iff]
    intro short
    rw [computeCosineDistance, if_pos (.inl short)] at nativeEntry
    exact one_ne_zero nativeEntry
  · intro nonzero
    have long : ∀ vector ∈ embeddings, norm vector ≠ 0 :=
      fun vector member => (long_iff vector).mpr (nonzero vector member)
    constructor
    · intro installed
      rw [distanceMatrix, if_neg (not_not_intro one)]
      split
      · exact native_matrix_eq long
      · split
        · exact numpy_matrix_eq embeddings
        · rfl
    · simp [pythonMatrix]
    · exact python_symmetric embeddings
    · intro row rowMember entry entryMember
      rw [pythonMatrix, List.mem_map] at rowMember
      rcases rowMember with ⟨left, _, same⟩
      rw [← same, List.mem_map] at entryMember
      rcases entryMember with ⟨right, _, equalEntry⟩
      rw [← equalEntry]
      exact cosine_distance_bounds left right

theorem tiers_agree_axes : TiersAgree [[1, 0], [0, 1]] := by
  apply (tiers_agree_iff [[1, 0], [0, 1]] (by simp) (by simp)).mpr
  intro vector member
  rcases List.mem_cons.mp member with first | rest
  · exact ⟨1, by simp [first], one_ne_zero⟩
  · rw [List.mem_singleton] at rest
    exact ⟨1, by simp [rest], one_ne_zero⟩

/-- A zero vector is at distance 1 from itself, and at 0 in the native kernel. -/
theorem zero_vector_differs : ¬ TiersAgree [[0], [1]] := by
  intro agree
  have native := agree.same { native := true, numpy := true }
  have one : (widths [[(0 : ℝ)], [1]]).length = 1 := widths_equal (by simp) (by simp)
  rw [distanceMatrix, if_neg (not_not_intro one), if_pos rfl] at native
  have bound : 0 < [[(0 : ℝ)], [1]].length := by simp
  have diagonal := entry_at_native bound bound
  rw [native, entry_at_python bound bound, if_pos rfl, Option.some.injEq] at diagonal
  have short : norm [(0 : ℝ)] = 0 := by
    rw [norm_eq_zero_iff]
    simp
  simp [computeCosineDistance, short] at diagonal

end

end SagaMind.EpisodicMemory
