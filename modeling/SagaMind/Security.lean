import Mathlib.Algebra.Order.Ring.Rat
import SagaMind.Foundation.SlidingWindow

/-!
# The rate limiter

`SlidingRateLimiter` of `src/security.py`. A reading of the clock is an exact
number of seconds. The limiter holds its lock while it works on the lists, so
calls come one after another.
-/

namespace SagaMind.Security

open SlidingWindow

set_option autoImplicit false

/-- `_hits` is a `defaultdict(list)`. -/
structure SlidingRateLimiter where
  maxPerMinute : Int
  hits : String → List ℚ := fun _ => []

namespace SlidingRateLimiter

/-- `self._hits[key] = hits`. -/
def record (self : SlidingRateLimiter) (key : String) (hits : List ℚ) : SlidingRateLimiter :=
  { self with hits := fun other => if other = key then hits else self.hits other }

/-- `allow`, when the clock reads `now`. -/
def allow (self : SlidingRateLimiter) (key : String) (now : ℚ) : Bool × SlidingRateLimiter :=
  if self.maxPerMinute ≤ 0 then (true, self)
  else
    let windowStart := now - 60
    let hits := (self.hits key).filter fun time => windowStart ≤ time
    if self.maxPerMinute ≤ hits.length then (false, self.record key hits)
    else (true, self.record key (hits ++ [now]))

end SlidingRateLimiter

/-- One call of `allow`. -/
structure Request where
  key : String
  time : ℚ
  deriving DecidableEq

def outcomes (limiter : SlidingRateLimiter) : List Request → List (Request × Bool)
  | [] => []
  | call :: rest =>
      let answered := limiter.allow call.key call.time
      (call, answered.1) :: outcomes answered.2 rest

def after (limiter : SlidingRateLimiter) (calls : List Request) : SlidingRateLimiter :=
  calls.foldl (fun limiter call => (limiter.allow call.key call.time).2) limiter

def ofKey (key : String) (told : List (Request × Bool)) : List (Request × Bool) :=
  told.filter fun entry => entry.1.key = key

def admitted (key : String) (told : List (Request × Bool)) : List ℚ :=
  ((ofKey key told).filter Prod.snd).map fun entry => entry.1.time

section Calls

variable {limiter : SlidingRateLimiter} {key : String} {now : ℚ}

theorem outcomes_append (limiter : SlidingRateLimiter) (earlier later : List Request) :
    outcomes limiter (earlier ++ later) =
      outcomes limiter earlier ++ outcomes (after limiter earlier) later := by
  induction earlier generalizing limiter with
  | nil => rfl
  | cons call rest ih => exact congrArg (List.cons _) (ih _)

theorem admitted_append (key : String) (told more : List (Request × Bool)) :
    admitted key (told ++ more) = admitted key told ++ admitted key more := by
  simp [admitted, ofKey]

theorem admitted_other {call : Request} (apart : call.key ≠ key) (answer : Bool) :
    admitted key [(call, answer)] = [] := by
  simp [admitted, ofKey, apart]

theorem admitted_own (call : Request) (answer : Bool) :
    admitted call.key [(call, answer)] = if answer then [call.time] else [] := by
  cases answer <;> simp [admitted, ofKey]

theorem admitted_latest {calls : List Request} {latest : ℚ}
    (past : ∀ call ∈ calls, call.time ≤ latest) :
    ∀ time ∈ admitted key (outcomes limiter calls), time ≤ latest := by
  have known : ∀ entry ∈ outcomes limiter calls, entry.1 ∈ calls := by
    induction calls generalizing limiter with
    | nil => exact nofun
    | cons call rest ih =>
        intro entry member
        rcases List.mem_cons.mp member with rfl | later
        · exact List.mem_cons_self
        · exact List.mem_cons_of_mem call
            (ih (fun other listed => past other (List.mem_cons_of_mem call listed)) entry later)
  intro time member
  obtain ⟨entry, chosen, rfl⟩ := List.mem_map.mp member
  exact past _ (known _ (List.mem_of_mem_filter (List.mem_of_mem_filter chosen)))

theorem allow_keeps_bound : (limiter.allow key now).2.maxPerMinute = limiter.maxPerMinute := by
  rw [SlidingRateLimiter.allow]
  split
  · rfl
  · dsimp only
    split <;> rfl

theorem allow_other {other : String} (apart : other ≠ key) :
    (limiter.allow key now).2.hits other = limiter.hits other := by
  rw [SlidingRateLimiter.allow]
  split
  · rfl
  · dsimp only
    split
    · exact if_neg apart
    · exact if_neg apart

@[simp] theorem record_own (hits : List ℚ) : (limiter.record key hits).hits key = hits :=
  if_pos rfl

theorem allow_full (positive : 1 ≤ limiter.maxPerMinute)
    (full : limiter.maxPerMinute ≤ (since (now - 60) (limiter.hits key)).length) :
    limiter.allow key now = (false, limiter.record key (since (now - 60) (limiter.hits key))) := by
  rw [SlidingRateLimiter.allow, if_neg (by omega)]
  exact if_pos full

theorem allow_room (positive : 1 ≤ limiter.maxPerMinute)
    (room : (since (now - 60) (limiter.hits key)).length < limiter.maxPerMinute) :
    limiter.allow key now =
      (true, limiter.record key (since (now - 60) (limiter.hits key) ++ [now])) := by
  rw [SlidingRateLimiter.allow, if_neg (by omega)]
  exact if_neg (not_le.mpr room)

end Calls

end SagaMind.Security
