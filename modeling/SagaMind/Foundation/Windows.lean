import Mathlib.Data.List.Nodup
import Mathlib.Tactic.Common

/-!
# Windows on a feed

A feed is listed newest first and cut at a limit. Filtering a feed and cutting
it do not commute in general; they do exactly if the filter drops nothing inside
the window, or finds nothing outside of it.
-/

namespace Windows

set_option autoImplicit false

variable {Item Other : Type}

theorem filter_window_iff (wanted : Item → Bool) (limit : Nat) (feed : List Item) :
    (feed.take limit).filter wanted = (feed.filter wanted).take limit ↔
      (∀ item ∈ feed.take limit, wanted item = true) ∨
        ∀ item ∈ feed.drop limit, wanted item = false := by
  have split : feed.filter wanted =
      (feed.take limit).filter wanted ++ (feed.drop limit).filter wanted := by
    rw [← List.filter_append, List.take_append_drop]
  have few : ((feed.take limit).filter wanted).length ≤ (feed.take limit).length :=
    List.length_filter_le ..
  have short : (feed.take limit).length ≤ limit := List.length_take_le ..
  -- What of the rest still fits is what the two sides differ by.
  have window : (feed.filter wanted).take limit = (feed.take limit).filter wanted ++
      ((feed.drop limit).filter wanted).take (limit - ((feed.take limit).filter wanted).length) := by
    rw [split, List.take_append, List.take_of_length_le (Nat.le_trans few short)]
  rw [window, List.self_eq_append_right, List.take_eq_nil_iff]
  by_cases full : feed.length ≤ limit
  · have nothing : feed.drop limit = [] := List.drop_eq_nil_of_le full
    simp [nothing]
  · have exact : (feed.take limit).length = limit := by
      rw [List.length_take]
      omega
    have every : limit - ((feed.take limit).filter wanted).length = 0 ↔
        ∀ item ∈ feed.take limit, wanted item = true := by
      rw [← List.length_filter_eq_length_iff, exact]
      omega
    rw [every, List.filter_eq_nil_iff]
    simp

/-- A feed in which every wanted item counts is cut as if filtered. -/
theorem window_of_wanted {wanted : Item → Bool} {limit : Nat} {feed : List Item}
    (every : ∀ item ∈ feed.take limit, wanted item = true) :
    (feed.filter wanted).take limit = feed.take limit := by
  rw [← (filter_window_iff wanted limit feed).mpr (.inl every)]
  exact List.filter_eq_self.mpr every

section Times

variable (time : Item → Nat)

/-- `ORDER BY time DESC`. -/
def newestFirst (items : List Item) : List Item :=
  items.mergeSort fun left right => decide (time right ≤ time left)

variable {time}

theorem newest_perm (items : List Item) : (newestFirst time items).Perm items :=
  List.mergeSort_perm ..

theorem newest_ordered (items : List Item) :
    (newestFirst time items).Pairwise fun left right => time right ≤ time left := by
  have ordered : (items.mergeSort fun left right => decide (time right ≤ time left)).Pairwise
      fun left right => decide (time right ≤ time left) = true := by
    apply List.pairwise_mergeSort
    · intro first second third left right
      simp only [decide_eq_true_eq] at left right ⊢
      exact Nat.le_trans right left
    · intro first second
      simp only [Bool.or_eq_true, decide_eq_true_eq]
      exact Nat.le_total ..
  simpa [newestFirst] using ordered

theorem newest_filter {items : List Item} (distinct : (items.map time).Nodup)
    (wanted : Item → Bool) :
    newestFirst time (items.filter wanted) = (newestFirst time items).filter wanted := by
  refine List.Perm.eq_of_pairwise ?_ (newest_ordered _) ((newest_ordered items).filter wanted) ?_
  · intro left right leftMember rightMember after before
    have same : time left = time right := by omega
    have leftItem := List.mem_of_mem_filter ((newest_perm _).subset leftMember)
    have rightItem := (newest_perm _).subset (List.mem_of_mem_filter rightMember)
    exact List.inj_on_of_nodup_map distinct leftItem rightItem same
  · exact (newest_perm _).trans ((newest_perm items).symm.filter wanted)

theorem newest_map {later : Other → Nat} {change : Item → Other}
    (kept : ∀ item, later (change item) = time item) (items : List Item) :
    newestFirst later (items.map change) = (newestFirst time items).map change := by
  rw [newestFirst, newestFirst, List.map_mergeSort]
  intro left _ right _
  rw [kept, kept]

end Times

end Windows
