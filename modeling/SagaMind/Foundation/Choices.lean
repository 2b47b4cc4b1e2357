import Mathlib.Data.Fintype.Card
import Mathlib.Data.Fintype.Prod
import Mathlib.SetTheory.Cardinal.Finite

/-!
# Enumerating the choices

A list enumerates a finite family when it lists every member as often as the
family does. The cartesian product of lists enumerates the choices of one
position in each list, so what a loop over the product counts is a cardinality.
-/

namespace Choices

set_option autoImplicit false

universe u

variable {α β γ : Type u} {ι κ : Type}

def Enumerates [Fintype ι] (family : ι → α) (values : List α) : Prop :=
  (values : Multiset α) = Finset.univ.val.map family

section Enumerates

variable [Fintype ι] [Fintype κ] {family : ι → α} {values : List α}

theorem Enumerates.mem_iff (enumerates : Enumerates family values) (value : α) :
    value ∈ values ↔ ∃ index, family index = value := by
  have same : value ∈ (values : Multiset α) ↔ value ∈ Finset.univ.val.map family := by
    rw [enumerates]
  simpa using same

theorem Enumerates.length_eq (enumerates : Enumerates family values) :
    values.length = Nat.card ι := by
  have same := congrArg Multiset.card enumerates
  simpa using same

theorem Enumerates.count_eq (enumerates : Enumerates family values) (test : α → Bool) :
    values.countP test = Nat.card { index // test (family index) = true } := by
  have same := congrArg (Multiset.countP fun value => test value = true) enumerates
  rw [Multiset.coe_countP, Multiset.countP_map] at same
  rw [Nat.card_eq_fintype_card, Fintype.card_subtype]
  simp only [Bool.decide_eq_true] at same
  exact same

theorem Enumerates.map (enumerates : Enumerates family values) (image : α → β) :
    Enumerates (fun index => image (family index)) (values.map image) := by
  have same := congrArg (Multiset.map image) enumerates
  simpa [Enumerates] using same

theorem Enumerates.pairs {other : κ → β} {others : List β}
    (enumerates : Enumerates family values) (inner : Enumerates other others)
    (combine : α → β → γ) :
    Enumerates (fun both : ι × κ => combine (family both.1) (other both.2))
      (values.flatMap fun value => others.map (combine value)) := by
  have rows : ∀ value, ((others.map (combine value) : List γ) : Multiset γ) =
      Finset.univ.val.map fun index => combine value (other index) := by
    intro value
    have same := congrArg (Multiset.map (combine value)) inner
    rwa [Multiset.map_coe, Multiset.map_map] at same
  rw [Enumerates, ← Multiset.coe_bind]
  simp only [rows]
  rw [enumerates, Multiset.bind_map, ← Finset.univ_product_univ, Finset.product_val]
  simp only [SProd.sprod, Multiset.product, Multiset.map_bind, Multiset.map_map]
  rfl

theorem enumerates_positions (values : List α) :
    Enumerates (fun index : Fin values.length => values.get index) values := by
  rw [Enumerates, Fin.univ_val_map, List.ofFn_get]

end Enumerates

/-- `itertools.product`: the last list varies fastest. -/
def product : List (List α) → List (List α)
  | [] => [[]]
  | values :: rest => values.flatMap fun value => (product rest).map (value :: ·)

def Choice : List (List α) → Type
  | [] => Unit
  | values :: rest => Fin values.length × Choice rest

instance Choice.fintype : (lists : List (List α)) → Fintype (Choice lists)
  | [] => inferInstanceAs (Fintype Unit)
  | values :: rest =>
      have := Choice.fintype rest
      inferInstanceAs (Fintype (Fin values.length × Choice rest))

def Choice.values : {lists : List (List α)} → Choice lists → List α
  | [], _ => []
  | values :: _, (position, rest) => values.get position :: Choice.values rest

/-- By induction on the lists: the product enumerates the choices. -/
theorem product_enumerates (lists : List (List α)) :
    Enumerates (@Choice.values α lists) (product lists) := by
  induction lists with
  | nil => rfl
  | cons values rest ih =>
      exact (enumerates_positions values).pairs ih List.cons

theorem card_choice (lists : List (List α)) :
    Nat.card (Choice lists) = (lists.map List.length).prod := by
  induction lists with
  | nil => exact (Nat.card_unique : Nat.card Unit = 1)
  | cons values rest ih =>
      have pairs : Nat.card (Choice (values :: rest)) = values.length * Nat.card (Choice rest) := by
        have split := Nat.card_prod (Fin values.length) (Choice rest)
        rwa [Nat.card_fin] at split
      rw [pairs, ih, List.map_cons, List.prod_cons]

end Choices
