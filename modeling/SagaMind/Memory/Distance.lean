import Mathlib.Analysis.SpecialFunctions.Pow.Real
import SagaMind.Foundation.ListVectors

/-!
# The three distance matrices of the consolidator

`_distance_matrix` over exact real numbers: the native kernel when it is installed, else
NumPy, else the double loop of `compute_cosine_distance`.
-/

namespace SagaMind.EpisodicMemory

open ListVectors

set_option autoImplicit false

noncomputable section

abbrev Matrix := List (List ℝ)

def norm (vector : List ℝ) : ℝ := Real.sqrt (squares vector)

def computeCosineDistance (left right : List ℝ) : ℝ :=
  if norm left = 0 ∨ norm right = 0 then 1
  else 1 - dot left right / (norm left * norm right)

def pythonMatrix (embeddings : List (List ℝ)) : Matrix :=
  embeddings.map fun left => embeddings.map fun right => computeCosineDistance left right

/-- `dist[zero, :] = 1.0` and `dist[:, zero] = 1.0`. -/
def fillZero (zero : List Bool) (dist : Matrix) : Matrix :=
  let rows := List.zipWith (fun isZero row => if isZero then row.map fun _ => 1 else row) zero dist
  rows.map fun row => List.zipWith (fun isZero entry => if isZero then 1 else entry) zero row

def numpyMatrix (embeddings : List (List ℝ)) : Matrix :=
  let norms := embeddings.map norm
  let safe := norms.map fun length => if length = 0 then 1 else length
  let unit := List.zipWith (fun row length => row.map fun entry => entry / length) embeddings safe
  let sim := unit.map fun left => unit.map fun right => dot left right
  let dist := sim.map fun row => row.map fun entry => 1 - entry
  let zero := norms.map fun length => decide (length = 0)
  if zero.any id then fillZero zero dist else dist

/-- `dist[i][j] = d; dist[j][i] = d`. -/
def setPair (dist : Nat → Nat → ℝ) (i j : Nat) (value : ℝ) : Nat → Nat → ℝ :=
  fun row column => if (row = i ∧ column = j) ∨ (row = j ∧ column = i) then value
    else dist row column

def pairDistance (embeddings : List (List ℝ)) (i j : Nat) : ℝ :=
  let norms := embeddings.map norm
  if norms.getD i 0 = 0 ∨ norms.getD j 0 = 0 then 1
  else 1 - dot (embeddings.getD i []) (embeddings.getD j []) / (norms.getD i 0 * norms.getD j 0)

def upperTriangle (embeddings : List (List ℝ)) : Nat → Nat → ℝ :=
  (List.range embeddings.length).foldl (fun dist i =>
    (List.range' (i + 1) (embeddings.length - (i + 1))).foldl (fun dist j =>
      setPair dist i j (pairDistance embeddings i j)) dist) fun _ _ => 0

/-- The native kernel `cosine_distance_matrix`. -/
def cosineDistanceMatrix (embeddings : List (List ℝ)) : Matrix :=
  (List.range embeddings.length).map fun row =>
    (List.range embeddings.length).map fun column => upperTriangle embeddings row column

structure Installed where
  native : Bool
  numpy : Bool

def widths (embeddings : List (List ℝ)) : List Nat := (embeddings.map List.length).dedup

/-- `_distance_matrix`. Ragged embeddings fall through to the double loop. -/
def distanceMatrix (installed : Installed) (embeddings : List (List ℝ)) : Matrix :=
  if (widths embeddings).length ≠ 1 then pythonMatrix embeddings
  else if installed.native then cosineDistanceMatrix embeddings
  else if installed.numpy then numpyMatrix embeddings
  else pythonMatrix embeddings

section Distance

theorem norm_eq_zero_iff (vector : List ℝ) : norm vector = 0 ↔ ∀ entry ∈ vector, entry = 0 := by
  rw [norm, Real.sqrt_eq_zero (squares_nonneg vector), squares_eq_zero_iff]

theorem norm_nonneg (vector : List ℝ) : 0 ≤ norm vector := Real.sqrt_nonneg _

theorem norm_mul_self (vector : List ℝ) : norm vector * norm vector = squares vector :=
  Real.mul_self_sqrt (squares_nonneg vector)

theorem cosine_distance_comm (left right : List ℝ) :
    computeCosineDistance left right = computeCosineDistance right left := by
  rw [computeCosineDistance, computeCosineDistance, dot_comm, mul_comm]
  exact if_congr or_comm rfl rfl

theorem cosine_distance_self {vector : List ℝ} (long : norm vector ≠ 0) :
    computeCosineDistance vector vector = 0 := by
  have square : squares vector ≠ 0 := by
    rw [← norm_mul_self]
    exact mul_self_ne_zero.mpr long
  have both : ¬ (norm vector = 0 ∨ norm vector = 0) := by
    rw [or_self]
    exact long
  rw [computeCosineDistance, if_neg both, dot_self, norm_mul_self, div_self square, sub_self]

theorem abs_dot_le (left right : List ℝ) : |dot left right| ≤ norm left * norm right := by
  have bound := dot_mul_self_le left right
  have product : squares left * squares right =
      norm left * norm right * (norm left * norm right) := by
    rw [← norm_mul_self, ← norm_mul_self]
    ring
  rw [product] at bound
  have absolute := abs_le_iff_mul_self_le.mpr bound
  rw [abs_of_nonneg (mul_nonneg (norm_nonneg left) (norm_nonneg right))] at absolute
  exact absolute

theorem cosine_distance_bounds (left right : List ℝ) :
    0 ≤ computeCosineDistance left right ∧ computeCosineDistance left right ≤ 2 := by
  rw [computeCosineDistance]
  split
  · constructor <;> norm_num
  · rename_i long
    rw [not_or] at long
    have positive : 0 < norm left * norm right :=
      mul_pos (lt_of_le_of_ne (norm_nonneg left) (Ne.symm long.1))
        (lt_of_le_of_ne (norm_nonneg right) (Ne.symm long.2))
    have cosine := abs_le.mp (abs_dot_le left right)
    have high : dot left right / (norm left * norm right) ≤ 1 := by
      rw [div_le_one positive]
      exact cosine.2
    have low : -1 ≤ dot left right / (norm left * norm right) := by
      rw [le_div_iff₀ positive]
      linarith [cosine.1]
    constructor <;> linarith

end Distance

section NumPy

/-- A row of the NumPy branch after the division by its safe norm. -/
theorem unit_dot (left right : List ℝ) (leftLong : norm left ≠ 0) (rightLong : norm right ≠ 0) :
    1 - dot (left.map fun entry => entry / if norm left = 0 then 1 else norm left)
        (right.map fun entry => entry / if norm right = 0 then 1 else norm right) =
      computeCosineDistance left right := by
  rw [if_neg leftLong, if_neg rightLong, dot_map_div, computeCosineDistance,
    if_neg (not_or.mpr ⟨leftLong, rightLong⟩)]

theorem fill_zero_map (embeddings : List (List ℝ)) (zero : List ℝ → Bool)
    (entry : List ℝ → List ℝ → ℝ) :
    fillZero (embeddings.map zero)
        (embeddings.map fun left => embeddings.map fun right => entry left right) =
      embeddings.map fun left => embeddings.map fun right =>
        if zero left || zero right then 1 else entry left right := by
  have zip : ∀ (fill : Bool → ℝ → ℝ) (value : List ℝ → ℝ),
      List.zipWith fill (embeddings.map zero) (embeddings.map value) =
        embeddings.map fun right => fill (zero right) (value right) := by
    intro fill value
    rw [List.zipWith_map, List.zipWith_self]
  rw [fillZero, List.zipWith_map, List.zipWith_self, List.map_map]
  apply List.map_congr_left
  intro left _
  simp only [Function.comp_apply]
  cases zero left with
  | true =>
      simp only [if_true, List.map_map, Bool.true_or]
      rw [zip]
      simp
  | false =>
      simp only [Bool.false_eq_true, if_false, Bool.false_or]
      rw [zip]

/-- The NumPy branch is the double loop, zero vectors included. -/
theorem numpy_matrix_eq (embeddings : List (List ℝ)) :
    numpyMatrix embeddings = pythonMatrix embeddings := by
  let safe : List ℝ → ℝ := fun vector => if norm vector = 0 then 1 else norm vector
  let entry : List ℝ → List ℝ → ℝ := fun left right =>
    1 - dot (left.map fun value => value / safe left) (right.map fun value => value / safe right)
  let zero : List ℝ → Bool := fun vector => decide (norm vector = 0)
  have dist : numpyMatrix embeddings =
      if (embeddings.map zero).any id then
        fillZero (embeddings.map zero)
          (embeddings.map fun left => embeddings.map fun right => entry left right)
      else embeddings.map fun left => embeddings.map fun right => entry left right := by
    have unit : List.zipWith (fun (row : List ℝ) length => row.map fun value => value / length)
        embeddings ((embeddings.map norm).map fun length => if length = 0 then 1 else length) =
          embeddings.map fun row => row.map fun value => value / safe row := by
      rw [List.map_map, List.zipWith_map_right, List.zipWith_self]
      rfl
    simp only [numpyMatrix]
    rw [unit]
    simp only [List.map_map, Function.comp_def]
    rfl
  rw [dist]
  split
  · rw [fill_zero_map, pythonMatrix]
    apply List.map_congr_left
    intro left _
    apply List.map_congr_left
    intro right _
    by_cases short : norm left = 0 ∨ norm right = 0
    · have filled : (zero left || zero right) = true := by
        simpa [zero] using short
      rw [if_pos filled, computeCosineDistance, if_pos short]
    · have kept : (zero left || zero right) = false := by
        simpa [zero] using short
      rw [not_or] at short
      rw [kept]
      exact unit_dot left right short.1 short.2
  · rename_i none
    have long : ∀ vector ∈ embeddings, norm vector ≠ 0 := by
      intro vector member short
      apply none
      rw [List.any_eq_true]
      exact ⟨true, List.mem_map.mpr ⟨vector, member, by simpa [zero] using short⟩, rfl⟩
    apply List.map_congr_left
    intro left leftMember
    apply List.map_congr_left
    intro right rightMember
    exact unit_dot left right (long left leftMember) (long right rightMember)

end NumPy

section Native

theorem pair_distance_eq {embeddings : List (List ℝ)} {i j : Nat} (iBound : i < embeddings.length)
    (jBound : j < embeddings.length) :
    pairDistance embeddings i j = computeCosineDistance embeddings[i] embeddings[j] := by
  simp [pairDistance, computeCosineDistance, iBound, jBound]

theorem pair_distance_comm (embeddings : List (List ℝ)) (i j : Nat) :
    pairDistance embeddings i j = pairDistance embeddings j i := by
  rw [pairDistance, pairDistance, dot_comm, mul_comm]
  exact if_congr or_comm rfl rfl

/-- The inner loop sets the entries of one row and of one column. -/
theorem inner_loop (embeddings : List (List ℝ)) (i : Nat) (columns : List Nat)
    (dist : Nat → Nat → ℝ) (row column : Nat) :
    columns.foldl (fun dist j => setPair dist i j (pairDistance embeddings i j)) dist row column =
      if (row = i ∧ column ∈ columns) ∨ (column = i ∧ row ∈ columns) then
        pairDistance embeddings row column
      else dist row column := by
  induction columns generalizing dist with
  | nil => simp
  | cons j columns ih =>
      rw [List.foldl_cons, ih]
      by_cases later : (row = i ∧ column ∈ columns) ∨ (column = i ∧ row ∈ columns)
      · have now : (row = i ∧ column ∈ j :: columns) ∨ (column = i ∧ row ∈ j :: columns) := by
          rcases later with ⟨same, member⟩ | ⟨same, member⟩
          · exact .inl ⟨same, List.mem_cons_of_mem j member⟩
          · exact .inr ⟨same, List.mem_cons_of_mem j member⟩
        rw [if_pos later, if_pos now]
      · rw [if_neg later, setPair]
        by_cases here : (row = i ∧ column = j) ∨ (row = j ∧ column = i)
        · have now : (row = i ∧ column ∈ j :: columns) ∨ (column = i ∧ row ∈ j :: columns) := by
            rcases here with ⟨same, equal⟩ | ⟨equal, same⟩
            · exact .inl ⟨same, by simp [equal]⟩
            · exact .inr ⟨same, by simp [equal]⟩
          rw [if_pos here, if_pos now]
          rcases here with ⟨same, equal⟩ | ⟨equal, same⟩
          · rw [same, equal]
          · rw [same, equal, pair_distance_comm]
        · have never : ¬ ((row = i ∧ column ∈ j :: columns) ∨
              (column = i ∧ row ∈ j :: columns)) := by
            simp only [List.mem_cons]
            tauto
          rw [if_neg here, if_neg never]

theorem outer_loop (embeddings : List (List ℝ)) (columns : Nat → List Nat) (rows : List Nat)
    (dist : Nat → Nat → ℝ) (row column : Nat) :
    rows.foldl (fun dist i => (columns i).foldl (fun dist j =>
        setPair dist i j (pairDistance embeddings i j)) dist) dist row column =
      if ∃ i ∈ rows, (row = i ∧ column ∈ columns i) ∨ (column = i ∧ row ∈ columns i) then
        pairDistance embeddings row column
      else dist row column := by
  induction rows generalizing dist with
  | nil => simp
  | cons i rows ih =>
      rw [List.foldl_cons, ih, inner_loop]
      by_cases later : ∃ other ∈ rows,
          (row = other ∧ column ∈ columns other) ∨ (column = other ∧ row ∈ columns other)
      · have now : ∃ other ∈ i :: rows,
            (row = other ∧ column ∈ columns other) ∨ (column = other ∧ row ∈ columns other) := by
          rcases later with ⟨other, member, hit⟩
          exact ⟨other, List.mem_cons_of_mem i member, hit⟩
        rw [if_pos later, if_pos now]
      · rw [if_neg later]
        by_cases here : (row = i ∧ column ∈ columns i) ∨ (column = i ∧ row ∈ columns i)
        · rw [if_pos here, if_pos ⟨i, List.mem_cons_self .., here⟩]
        · have never : ¬ ∃ other ∈ i :: rows,
              (row = other ∧ column ∈ columns other) ∨
                (column = other ∧ row ∈ columns other) := by
            rintro ⟨other, member, hit⟩
            rcases List.mem_cons.mp member with same | inRows
            · exact here (same ▸ hit)
            · exact later ⟨other, inRows, hit⟩
          rw [if_neg here, if_neg never]

/-- Above and below the diagonal the kernel holds the distances, on it the zeros it began
with. -/
theorem upper_triangle_eq {embeddings : List (List ℝ)} {row column : Nat}
    (rowBound : row < embeddings.length) (columnBound : column < embeddings.length) :
    upperTriangle embeddings row column =
      if row = column then 0 else pairDistance embeddings row column := by
  rw [upperTriangle, outer_loop embeddings
    (fun i => List.range' (i + 1) (embeddings.length - (i + 1)))]
  by_cases same : row = column
  · have none : ¬ ∃ i ∈ List.range embeddings.length,
        (row = i ∧ column ∈ List.range' (i + 1) (embeddings.length - (i + 1))) ∨
          (column = i ∧ row ∈ List.range' (i + 1) (embeddings.length - (i + 1))) := by
      rintro ⟨i, _, ⟨equal, member⟩ | ⟨equal, member⟩⟩
      · rw [List.mem_range'_1] at member
        omega
      · rw [List.mem_range'_1] at member
        omega
    rw [if_neg none, if_pos same]
  · have some : ∃ i ∈ List.range embeddings.length,
        (row = i ∧ column ∈ List.range' (i + 1) (embeddings.length - (i + 1))) ∨
          (column = i ∧ row ∈ List.range' (i + 1) (embeddings.length - (i + 1))) := by
      rcases Nat.lt_or_gt_of_ne same with below | above
      · refine ⟨row, List.mem_range.mpr rowBound, .inl ⟨rfl, ?_⟩⟩
        rw [List.mem_range'_1]
        omega
      · refine ⟨column, List.mem_range.mpr columnBound, .inr ⟨rfl, ?_⟩⟩
        rw [List.mem_range'_1]
        omega
    rw [if_pos some, if_neg same]

end Native

end

end SagaMind.EpisodicMemory
