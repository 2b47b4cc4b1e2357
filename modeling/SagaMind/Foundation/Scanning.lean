import Mathlib.Data.List.TakeWhile
import Mathlib.Tactic.Common

/-!
# Scanning a text for matches

A reader takes something off the front of a text, or fails. `findall` tries it at
every place from left to right and goes on behind a match, as a search for the
non-overlapping matches of a pattern does.
-/

namespace Scanning

set_option autoImplicit false

variable {Found : Type}

section Runs

variable (allowed : Char → Bool)

def run (text : List Char) : Option (List Char × List Char) :=
  if text.takeWhile allowed = [] then none
  else some (text.takeWhile allowed, text.dropWhile allowed)

variable {allowed}

theorem take_while_stop {stop : Char} (stops : allowed stop = false) (text rest : List Char) :
    (text ++ stop :: rest).takeWhile allowed = text.takeWhile allowed := by
  induction text with
  | nil => simp [stops]
  | cons c text ih =>
      rw [List.cons_append, List.takeWhile_cons, List.takeWhile_cons, ih]

theorem drop_while_stop {stop : Char} (stops : allowed stop = false) (text rest : List Char) :
    (text ++ stop :: rest).dropWhile allowed = text.dropWhile allowed ++ stop :: rest := by
  induction text with
  | nil => simp [stops]
  | cons c text ih =>
      rw [List.cons_append, List.dropWhile_cons, List.dropWhile_cons, ih]
      split <;> rfl

theorem run_whole {text : List Char} (some : text ≠ []) (every : ∀ c ∈ text, allowed c = true) :
    run allowed text = Option.some (text, []) := by
  rw [run, List.takeWhile_eq_self_iff.mpr every, List.dropWhile_eq_nil_iff.mpr every, if_neg some]

theorem run_none {stop : Char} (stops : allowed stop = false) (rest : List Char) :
    run allowed (stop :: rest) = none := by
  rw [run, List.takeWhile_cons, stops]
  rfl

/-- A run ends before the character that stops it, whatever follows. -/
theorem run_stop {stop : Char} (stops : allowed stop = false) (text rest : List Char) :
    run allowed (text ++ stop :: rest) =
      (run allowed text).map fun taken => (taken.1, taken.2 ++ stop :: rest) := by
  unfold run
  rw [take_while_stop stops, drop_while_stop stops]
  split <;> rfl

theorem run_taken {text taken rest : List Char} (read : run allowed text = some (taken, rest)) :
    taken ≠ [] ∧ taken.all allowed = true := by
  unfold run at read
  split at read
  · cases read
  · rename_i some
    cases read
    exact ⟨some, List.all_takeWhile⟩

end Runs

section Search

variable (read : List Char → Option (Found × List Char))

def scan : Nat → List Char → List Found
  | _, [] => []
  | skipped + 1, _ :: text => scan skipped text
  | 0, c :: text =>
      match read (c :: text) with
      | some (found, rest) => found :: scan (text.length - rest.length) text
      | none => scan 0 text

/-- `pattern.findall(text)`. -/
def findall (text : List Char) : List Found := scan read 0 text

variable {read}

theorem scan_skip (skipped text : List Char) :
    scan read skipped.length (skipped ++ text) = findall read text := by
  induction skipped with
  | nil => rfl
  | cons c skipped ih => exact ih

theorem findall_none {c : Char} {text : List Char} (nothing : read (c :: text) = none) :
    findall read (c :: text) = findall read text := by
  rw [findall, scan, nothing]
  rfl

theorem findall_match {c : Char} {matched rest : List Char} {found : Found}
    (here : read (c :: (matched ++ rest)) = some (found, rest)) :
    findall read (c :: (matched ++ rest)) = found :: findall read rest := by
  have length : (matched ++ rest).length - rest.length = matched.length := by
    rw [List.length_append, Nat.add_sub_cancel]
  rw [findall, scan, here]
  dsimp only
  rw [length, scan_skip]

theorem findall_read {found : Found} {text : List Char} (listed : found ∈ findall read text) :
    ∃ front rest, read front = some (found, rest) := by
  have scanned : ∀ (text : List Char) (skipped : Nat), found ∈ scan read skipped text →
      ∃ front rest, read front = some (found, rest) := by
    intro text
    induction text with
    | nil =>
        intro skipped member
        cases skipped <;> cases member
    | cons c text ih =>
        intro skipped member
        cases skipped with
        | succ skipped => exact ih skipped member
        | zero =>
            rw [scan] at member
            cases here : read (c :: text) with
            | none =>
                rw [here] at member
                exact ih 0 member
            | some taken =>
                rw [here] at member
                rcases List.mem_cons.mp member with rfl | later
                · exact ⟨c :: text, taken.2, here⟩
                · exact ih _ later
  exact scanned text 0 listed

theorem findall_pass {start : Char} (starts : ∀ c text, c ≠ start → read (c :: text) = none)
    {passed : List Char} (free : start ∉ passed) (text : List Char) :
    findall read (passed ++ text) = findall read text := by
  induction passed with
  | nil => rfl
  | cons c passed ih =>
      rw [List.mem_cons, not_or] at free
      rw [List.cons_append, findall_none (starts c _ (Ne.symm free.1))]
      exact ih free.2

end Search

end Scanning
