import Mathlib.Data.List.Induction
import SagaMind.Security

/-!
# The rate limiter has a true sliding window

What the limiter stores is the part of its history that a later window can
still see, so its test is the test on the whole history.
-/

namespace SagaMind.Security

open SlidingWindow

set_option autoImplicit false

def fresh (maxPerMinute : Int) : SlidingRateLimiter := { maxPerMinute }

structure Tracks (maxPerMinute : Int) (calls : List Request) : Prop where
  bound : (after (fresh maxPerMinute) calls).maxPerMinute = maxPerMinute
  remembers : ∀ key, Remembers 60 ((after (fresh maxPerMinute) calls).hits key)
    (admitted key (outcomes (fresh maxPerMinute) calls)) fun now => ∀ call ∈ calls, call.time ≤ now
  throttled : ∀ key, Throttled maxPerMinute.toNat (60 : ℚ)
    (admitted key (outcomes (fresh maxPerMinute) calls))

section History

variable {maxPerMinute : Int} {calls : List Request} {call : Request}

theorem after_snoc (limiter : SlidingRateLimiter) (calls : List Request) (call : Request) :
    after limiter (calls ++ [call]) = ((after limiter calls).allow call.key call.time).2 := by
  rw [after, List.foldl_append]
  rfl

theorem outcomes_snoc (limiter : SlidingRateLimiter) (calls : List Request) (call : Request) :
    outcomes limiter (calls ++ [call]) = outcomes limiter calls ++
      [(call, ((after limiter calls).allow call.key call.time).1)] :=
  outcomes_append limiter calls [call]

/-- What the test counts is what the history has in the window. -/
theorem Tracks.counts (tracks : Tracks maxPerMinute calls)
    (latest : ∀ earlier ∈ calls, earlier.time ≤ call.time) :
    since (call.time - 60) ((after (fresh maxPerMinute) calls).hits call.key) =
      since (call.time - 60) (admitted call.key (outcomes (fresh maxPerMinute) calls)) :=
  tracks.remembers call.key call.time latest

theorem Tracks.step (tracks : Tracks maxPerMinute calls) (positive : 1 ≤ maxPerMinute)
    (latest : ∀ earlier ∈ calls, earlier.time ≤ call.time) :
    Tracks maxPerMinute (calls ++ [call]) := by
  have limited : 1 ≤ (after (fresh maxPerMinute) calls).maxPerMinute := by
    rw [tracks.bound]
    exact positive
  have pruned := (tracks.remembers call.key).prune latest
  -- The stored list of another key, and its history, are as they were.
  have others (key : String) (apart : key ≠ call.key) (answer : Bool) :
      Remembers 60 (((after (fresh maxPerMinute) calls).allow call.key call.time).2.hits key)
        (admitted key (outcomes (fresh maxPerMinute) calls ++ [(call, answer)]))
        fun now => ∀ other ∈ calls ++ [call], other.time ≤ now := by
    rw [allow_other apart, admitted_append, admitted_other (Ne.symm apart), List.append_nil]
    intro now passed
    exact tracks.remembers key now fun other member =>
      passed other (List.mem_append_left [call] member)
  constructor
  · rw [after_snoc, allow_keeps_bound, tracks.bound]
  · intro key
    rw [after_snoc, outcomes_snoc]
    by_cases own : key = call.key
    · rw [own]
      have ahead (now : ℚ) (passed : ∀ other ∈ calls ++ [call], other.time ≤ now) :
          call.time ≤ now :=
        passed call List.mem_concat_self
      rcases le_or_gt maxPerMinute
          (since (call.time - 60) ((after (fresh maxPerMinute) calls).hits call.key)).length with
        full | room
      · rw [allow_full limited (by rw [tracks.bound]; exact full), admitted_append, admitted_own,
          record_own]
        intro now passed
        rw [pruned now (ahead now passed)]
        simp
      · rw [allow_room limited (by rw [tracks.bound]; exact room), admitted_append, admitted_own,
          record_own]
        exact fun now passed => pruned.add [call.time] now (ahead now passed)
    · exact others key own _
  · intro key
    rw [outcomes_snoc, admitted_append]
    by_cases own : key = call.key
    · rw [own, admitted_own]
      rcases le_or_gt maxPerMinute
          (since (call.time - 60) ((after (fresh maxPerMinute) calls).hits call.key)).length with
        full | room
      · rw [allow_full limited (by rw [tracks.bound]; exact full)]
        simpa using tracks.throttled call.key
      · rw [allow_room limited (by rw [tracks.bound]; exact room)]
        rw [tracks.counts latest] at room
        exact .add (tracks.throttled call.key) (admitted_latest latest) (by omega)
    · rw [admitted_other (Ne.symm own), List.append_nil]
      exact tracks.throttled key

theorem tracks_ordered (positive : 1 ≤ maxPerMinute)
    (ordered : calls.Pairwise fun earlier later => earlier.time ≤ later.time) :
    Tracks maxPerMinute calls := by
  induction calls using List.reverseRecOn with
  | nil =>
      constructor
      · rfl
      · exact fun key now _ => rfl
      · exact fun key => .empty
  | append_singleton calls call ih =>
      obtain ⟨before, -, latest⟩ := List.pairwise_append.mp ordered
      exact (ih before).step positive fun earlier member =>
        latest earlier member call (List.mem_singleton_self call)

end History

section Decisions

/-- Limiters that agree on a key answer its calls alike, whatever else they are
asked. -/
theorem outcomes_of_key (key : String) (calls : List Request) (left right : SlidingRateLimiter)
    (bound : left.maxPerMinute = right.maxPerMinute) (same : left.hits key = right.hits key) :
    ofKey key (outcomes left calls) = outcomes right (calls.filter fun call => call.key = key) := by
  induction calls generalizing left right with
  | nil => rfl
  | cons call rest ih =>
      by_cases own : call.key = key
      · have alike : (left.allow call.key call.time).1 = (right.allow call.key call.time).1 ∧
            (left.allow call.key call.time).2.hits key =
              (right.allow call.key call.time).2.hits key := by
          rw [own]
          simp only [SlidingRateLimiter.allow, bound, same]
          split
          · exact ⟨rfl, same⟩
          · split
            · exact ⟨rfl, by simp⟩
            · exact ⟨rfl, by simp⟩
        have kept : (call :: rest).filter (fun call => decide (call.key = key)) =
            call :: rest.filter fun call => decide (call.key = key) :=
          List.filter_cons_of_pos (decide_eq_true own)
        have told : ofKey key (outcomes left (call :: rest)) =
            (call, (left.allow call.key call.time).1) ::
              ofKey key (outcomes (left.allow call.key call.time).2 rest) :=
          List.filter_cons_of_pos (decide_eq_true own)
        rw [kept, told, outcomes, alike.1]
        apply congrArg (List.cons _)
        apply ih _ _ _ alike.2
        rw [allow_keeps_bound, allow_keeps_bound, bound]
      · have dropped : (call :: rest).filter (fun call => decide (call.key = key)) =
            rest.filter fun call => decide (call.key = key) :=
          List.filter_cons_of_neg (by simpa using own)
        have untold : ofKey key (outcomes left (call :: rest)) =
            ofKey key (outcomes (left.allow call.key call.time).2 rest) :=
          List.filter_cons_of_neg (by simpa using own)
        rw [dropped, untold]
        apply ih
        · rw [allow_keeps_bound, bound]
        · rw [allow_other (Ne.symm own), same]

end Decisions

/-- A call is admitted exactly if there is room in the minute that ends with it,
so no minute exceeds the limit, and other keys do not matter. -/
theorem sliding_window_exact {maxPerMinute : Int} (positive : 1 ≤ maxPerMinute)
    {calls : List Request}
    (ordered : calls.Pairwise fun earlier later => earlier.time ≤ later.time) :
    (∀ earlier call later, calls = earlier ++ call :: later →
      (((after (fresh maxPerMinute) earlier).allow call.key call.time).1 = true ↔
        (within (call.time - 60) call.time
          (admitted call.key (outcomes (fresh maxPerMinute) earlier))).length < maxPerMinute)) ∧
    (∀ key start, (within start (start + 60)
      (admitted key (outcomes (fresh maxPerMinute) calls))).length ≤ maxPerMinute) ∧
    ∀ key, ofKey key (outcomes (fresh maxPerMinute) calls) =
      outcomes (fresh maxPerMinute) (calls.filter fun call => call.key = key) := by
  refine ⟨?_, ?_, fun key => outcomes_of_key key calls _ _ rfl rfl⟩
  · rintro earlier call later rfl
    obtain ⟨before, -, latest⟩ := List.pairwise_append.mp ordered
    have past : ∀ other ∈ earlier, other.time ≤ call.time :=
      fun other member => latest other member call List.mem_cons_self
    have tracks := tracks_ordered positive before
    have limited : 1 ≤ (after (fresh maxPerMinute) earlier).maxPerMinute := by
      rw [tracks.bound]
      exact positive
    rw [within_of_latest (admitted_latest past), ← tracks.counts past]
    rcases le_or_gt maxPerMinute
        (since (call.time - 60) ((after (fresh maxPerMinute) earlier).hits call.key)).length with
      full | room
    · rw [allow_full limited (by rw [tracks.bound]; exact full)]
      exact iff_of_false Bool.false_ne_true (not_lt.mpr full)
    · rw [allow_room limited (by rw [tracks.bound]; exact room)]
      exact iff_of_true rfl room
  · intro key start
    have few := throttled_window ((tracks_ordered positive ordered).throttled key) start
    omega

/-- At one instant with two a minute, and again exactly a minute later. -/
theorem sliding_window_exact_sample :
    (outcomes (fresh 2) [⟨"k", 0⟩, ⟨"j", 0⟩, ⟨"k", 1⟩, ⟨"k", 60⟩, ⟨"k", 61⟩]).map Prod.snd =
        [true, true, true, false, true] ∧
      (within 0 (0 + 60) (admitted "k" (outcomes (fresh 2)
        [⟨"k", 0⟩, ⟨"j", 0⟩, ⟨"k", 1⟩, ⟨"k", 60⟩, ⟨"k", 61⟩]))).length ≤ (2 : Int) :=
  ⟨by decide +kernel, (sliding_window_exact (by decide) (by decide +kernel)).2.1 "k" 0⟩

end SagaMind.Security
