import Mathlib.Data.List.Nodup

/-!
# Checklists

Named checks in an order, of which the first that fails is reported. A lenient
reading of the same checks reports what the strict one does exactly when no
check that only the strict one fails is ever reached.
-/

namespace Checklist

set_option autoImplicit false

variable {Item Name : Type} (name : Item → Name)

def firstFailing (passes : Item → Bool) (items : List Item) : Option Name :=
  (items.find? fun item => !passes item).map name

variable {name} {passes strict lenient : Item → Bool} {items rest : List Item} {item : Item}

@[simp] theorem first_nil : firstFailing name passes [] = none := rfl

@[simp] theorem first_cons : firstFailing name passes (item :: rest) =
    if passes item then firstFailing name passes rest else some (name item) := by
  rw [firstFailing, List.find?_cons]
  cases passes item with
  | true => rfl
  | false => rfl

theorem first_append : firstFailing name passes (items ++ rest) =
    (firstFailing name passes items).or (firstFailing name passes rest) := by
  induction items with
  | nil => rfl
  | cons head tail ih =>
      rw [List.cons_append, first_cons, first_cons, ih]
      cases passes head with
      | true => rfl
      | false => rfl

theorem first_none_iff :
    firstFailing name passes items = none ↔ ∀ item ∈ items, passes item = true := by
  simp [firstFailing]

theorem first_mem {found : Name} (first : firstFailing name passes items = some found) :
    found ∈ items.map name := by
  obtain ⟨item, failing, same⟩ := Option.map_eq_some_iff.mp first
  rw [← same]
  exact List.mem_map_of_mem (List.mem_of_find?_eq_some failing)

theorem same_first_iff (distinct : (items.map name).Nodup)
    (weaker : ∀ item ∈ items, strict item = true → lenient item = true) :
    firstFailing name lenient items = firstFailing name strict items ↔
      ∀ before item later, items = before ++ item :: later →
        (∀ earlier ∈ before, strict earlier = true) → lenient item = true → strict item = true := by
  induction items with
  | nil =>
      constructor
      · intro _ before item later shape
        exact absurd shape.symm (List.append_ne_nil_of_right_ne_nil _ (List.cons_ne_nil _ _))
      · exact fun _ => rfl
  | cons head tail ih =>
      rw [List.map_cons, List.nodup_cons] at distinct
      rw [first_cons, first_cons]
      cases kept : strict head with
      | true =>
          rw [if_pos (weaker head List.mem_cons_self kept), if_pos rfl,
            ih distinct.2 fun item member => weaker item (List.mem_cons_of_mem _ member)]
          constructor
          · intro same before item later shape
            cases before with
            | nil =>
                obtain ⟨rfl, -⟩ := List.cons.inj shape
                exact fun _ _ => kept
            | cons first before =>
                intro held
                exact same before item later (List.cons.inj shape).2
                  fun earlier member => held earlier (List.mem_cons_of_mem _ member)
          · intro same before item later shape held
            apply same (head :: before) item later
            · rw [shape, List.cons_append]
            · intro earlier member
              rcases List.mem_cons.mp member with first | rest
              · rw [first]
                exact kept
              · exact held earlier rest
      | false =>
          cases passed : lenient head with
          | false =>
              constructor
              · intro _ before item later shape held lets
                cases before with
                | nil =>
                    obtain ⟨rfl, -⟩ := List.cons.inj shape
                    rw [passed] at lets
                    cases lets
                | cons first before =>
                    obtain ⟨rfl, -⟩ := List.cons.inj shape
                    have impossible := held head List.mem_cons_self
                    rw [kept] at impossible
                    cases impossible
              · exact fun _ => rfl
          | true =>
              constructor
              · intro same
                have later : firstFailing name lenient tail = some (name head) := same
                exact absurd (first_mem later) distinct.1
              · intro same
                have impossible := same [] head tail rfl
                  (fun _ member => absurd member List.not_mem_nil) passed
                rw [kept] at impossible
                cases impossible

end Checklist
