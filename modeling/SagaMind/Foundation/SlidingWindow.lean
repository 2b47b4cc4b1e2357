import Mathlib.Algebra.Order.Group.Defs
import Mathlib.Data.List.Basic
import Mathlib.Tactic.Common

/-!
# Sliding windows over a log of times

A log is throttled if each entry was added while fewer than `limit` earlier ones
stood in the window that ends at it. Then no window of that width holds more
than `limit` entries, wherever it starts. A part of the log does for the test as
long as it agrees with the log on every window still to come.
-/

namespace SlidingWindow

set_option autoImplicit false

variable {Time : Type} [LinearOrder Time]

def since (start : Time) (log : List Time) : List Time :=
  log.filter fun time => decide (start ≤ time)

def within (start finish : Time) (log : List Time) : List Time :=
  log.filter fun time => decide (start ≤ time ∧ time ≤ finish)

theorem since_append (start : Time) (log more : List Time) :
    since start (log ++ more) = since start log ++ since start more :=
  List.filter_append ..

theorem since_since {early late : Time} (before : early ≤ late) (log : List Time) :
    since late (since early log) = since late log := by
  unfold since
  rw [List.filter_filter]
  apply List.filter_congr
  intro time _
  rw [← Bool.decide_and, decide_eq_decide]
  exact and_iff_left_of_imp before.trans

theorem within_of_latest {start finish : Time} {log : List Time}
    (latest : ∀ time ∈ log, time ≤ finish) : within start finish log = since start log := by
  apply List.filter_congr
  intro time member
  rw [decide_eq_decide]
  exact and_iff_left (latest time member)

theorem within_length_le (start finish : Time) (log : List Time) :
    (within start finish log).length ≤ (since start log).length := by
  apply List.Sublist.length_le
  apply List.monotone_filter_right
  intro time inside
  exact decide_eq_true (of_decide_eq_true inside).1

theorem since_length_le {early late : Time} (before : early ≤ late) (log : List Time) :
    (since late log).length ≤ (since early log).length := by
  rw [← since_since before]
  exact List.length_filter_le ..

variable [AddCommGroup Time] [IsOrderedAddMonoid Time]

inductive Throttled (limit : Nat) (width : Time) : List Time → Prop
  | empty : Throttled limit width []
  | add {log now} (earlier : Throttled limit width log) (latest : ∀ time ∈ log, time ≤ now)
      (room : (since (now - width) log).length < limit) : Throttled limit width (log ++ [now])

/-- By induction on the log: the last entry of a window sees all the others. -/
theorem throttled_window {limit : Nat} {width : Time} {log : List Time}
    (throttled : Throttled limit width log) (start : Time) :
    (within start (start + width) log).length ≤ limit := by
  induction throttled with
  | empty => exact Nat.zero_le limit
  | @add log now earlier latest room ih =>
      have split : within start (start + width) (log ++ [now]) =
          within start (start + width) log ++ within start (start + width) [now] :=
        List.filter_append ..
      rw [split, List.length_append]
      by_cases inside : start ≤ now ∧ now ≤ start + width
      · have alone : within start (start + width) [now] = [now] :=
          List.filter_cons_of_pos (decide_eq_true inside)
        have begins : now - width ≤ start := sub_le_iff_le_add.mpr inside.2
        have others : (within start (start + width) log).length ≤
            (since (now - width) log).length :=
          (within_length_le ..).trans (since_length_le begins log)
        rw [alone, List.length_singleton]
        omega
      · have alone : within start (start + width) [now] = [] :=
          List.filter_cons_of_neg (by simpa using inside)
        rw [alone, List.length_nil, Nat.add_zero]
        exact ih

/-- What is kept of a log agrees with it on every window that ends at such a
time. -/
def Remembers (width : Time) (kept log : List Time) (ahead : Time → Prop) : Prop :=
  ∀ now, ahead now → since (now - width) kept = since (now - width) log

section Remembered

variable {width : Time} {kept log : List Time} {ahead : Time → Prop}

/-- What the current window does not hold is not asked for again. -/
theorem Remembers.prune (remembers : Remembers width kept log ahead) {now : Time}
    (here : ahead now) :
    Remembers width (since (now - width) kept) log fun next => now ≤ next := by
  intro next passed
  have moved : now - width ≤ next - width := sub_le_sub_right passed width
  rw [remembers now here, since_since moved]

omit [IsOrderedAddMonoid Time] in
theorem Remembers.add (remembers : Remembers width kept log ahead) (added : List Time) :
    Remembers width (kept ++ added) (log ++ added) ahead := by
  intro next passed
  rw [since_append, since_append, remembers next passed]

end Remembered

end SlidingWindow
