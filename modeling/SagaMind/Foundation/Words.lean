import Mathlib.Data.List.DropRight
import Mathlib.Tactic.Common

/-!
# Fields of a text

Stripping a text of what surrounds it, and parting it at the first separator.
What was written around a word comes off again.
-/

namespace Words

set_option autoImplicit false

variable {Letter : Type} (blank : Letter → Bool)

/-- `text.strip()`. -/
def strip (text : List Letter) : List Letter := (text.dropWhile blank).rdropWhile blank

structure Trim (word : List Letter) : Prop where
  front : ∀ letter ∈ word.head?, blank letter = false
  back : ∀ letter ∈ word.getLast?, blank letter = false

variable {blank}

theorem drop_gap {gap : List Letter} (white : ∀ letter ∈ gap, blank letter = true)
    (rest : List Letter) : (gap ++ rest).dropWhile blank = rest.dropWhile blank := by
  induction gap with
  | nil => rfl
  | cons letter gap ih =>
      rw [List.forall_mem_cons] at white
      rw [List.cons_append, List.dropWhile_cons, if_pos white.1]
      exact ih white.2

theorem strip_blank {gap : List Letter} (white : ∀ letter ∈ gap, blank letter = true) :
    strip blank gap = [] := by
  rw [strip, List.dropWhile_eq_nil_iff.mpr white, List.rdropWhile_nil]

theorem strip_padded {front back word : List Letter}
    (before : ∀ letter ∈ front, blank letter = true)
    (after : ∀ letter ∈ back, blank letter = true) (trim : Trim blank word) :
    strip blank (front ++ word ++ back) = word := by
  cases word with
  | nil =>
      rw [List.append_nil]
      exact strip_blank (List.forall_mem_append.mpr ⟨before, after⟩)
  | cons first rest =>
      have kept : blank first = false := trim.front first rfl
      have shape : (front ++ first :: rest ++ back).dropWhile blank = first :: rest ++ back := by
        rw [List.append_assoc, drop_gap before, List.cons_append, List.dropWhile_cons, kept]
        rfl
      rw [strip, shape, List.rdropWhile, List.reverse_append,
        drop_gap (fun letter member => after letter (List.mem_reverse.mp member)),
        List.dropWhile_eq_self_iff.mpr, List.reverse_reverse]
      intro filled
      apply Bool.eq_false_iff.mp
      apply trim.back
      rw [← List.head?_reverse, List.head?_eq_getElem?]
      exact List.getElem?_eq_getElem filled

theorem strip_trim (text : List Letter) : Trim blank (strip blank text) := by
  constructor
  · intro letter first
    have within : strip blank text <+: text.dropWhile blank := List.rdropWhile_prefix ..
    obtain ⟨rest, shape⟩ := within
    cases stripped : strip blank text with
    | nil =>
        rw [stripped] at first
        cases first
    | cons head tail =>
        rw [stripped] at first shape
        obtain rfl := Option.some.inj first
        have filled : text.dropWhile blank ≠ [] := by
          rw [← shape]
          exact List.cons_ne_nil _ _
        have front := List.head_dropWhile_not blank filled
        simpa [← shape] using front
  · intro letter last
    have filled : strip blank text ≠ [] := by
      intro empty
      rw [empty] at last
      cases last
    have kept := List.rdropWhile_last_not blank _ filled
    rw [List.getLast?_eq_some_getLast filled] at last
    obtain rfl := Option.some.inj last
    exact Bool.eq_false_iff.mpr kept

structure Reads (blank : Letter → Bool) (text word : List Letter) : Prop where
  padded : ∃ front back, text = front ++ word ++ back ∧ (∀ letter ∈ front, blank letter = true) ∧
    ∀ letter ∈ back, blank letter = true
  trim : Trim blank word

theorem reads_iff {text word : List Letter} : Reads blank text word ↔ strip blank text = word := by
  constructor
  · rintro ⟨⟨front, back, rfl, before, after⟩, trim⟩
    exact strip_padded before after trim
  · rintro rfl
    refine ⟨⟨text.takeWhile blank, (text.dropWhile blank).rtakeWhile blank, ?_, ?_, ?_⟩,
      strip_trim text⟩
    · rw [List.append_assoc, strip, List.rdropWhile_append_rtakeWhile,
        List.takeWhile_append_dropWhile]
    · exact fun letter member => List.mem_takeWhile_imp member
    · exact fun letter member => List.mem_rtakeWhile_imp member

theorem strip_before {gap : List Letter} (white : ∀ letter ∈ gap, blank letter = true)
    (text : List Letter) : strip blank (gap ++ text) = strip blank text := by
  rw [strip, drop_gap white, strip]

theorem strip_behind {gap : List Letter} (white : ∀ letter ∈ gap, blank letter = true)
    (text : List Letter) : strip blank (text ++ gap) = strip blank text := by
  obtain ⟨⟨front, back, shape, before, after⟩, trim⟩ :=
    @reads_iff Letter blank text (strip blank text) |>.mpr rfl
  apply reads_iff.mp
  refine ⟨⟨front, back ++ gap, ?_, before, List.forall_mem_append.mpr ⟨after, white⟩⟩, trim⟩
  rw [← List.append_assoc, ← shape]

theorem drop_at {letter : Letter} (shown : blank letter = false) (front back : List Letter) :
    (front ++ letter :: back).dropWhile blank = front.dropWhile blank ++ letter :: back := by
  rw [List.dropWhile_append]
  split
  · rename_i empty
    rw [List.isEmpty_iff.mp empty, List.nil_append, List.dropWhile_cons, shown]
    rfl
  · rfl

theorem strip_at {letter : Letter} (shown : blank letter = false) (front back : List Letter) :
    strip blank (front ++ letter :: back) =
      front.dropWhile blank ++ letter :: back.rdropWhile blank := by
  rw [strip, drop_at shown, List.rdropWhile, List.reverse_append, List.reverse_cons,
    List.append_assoc, List.singleton_append, drop_at shown, List.reverse_append,
    List.reverse_cons, List.reverse_reverse, List.append_assoc, List.singleton_append,
    List.rdropWhile]

variable [DecidableEq Letter]

/-- `text.split(separator, 1)`, for a text that has the separator. -/
def part (separator : Letter) : List Letter → Option (List Letter × List Letter)
  | [] => none
  | letter :: rest =>
      if letter = separator then some ([], rest)
      else (part separator rest).map fun halves => (letter :: halves.1, halves.2)

theorem part_at {separator : Letter} {front : List Letter} (absent : separator ∉ front)
    (back : List Letter) : part separator (front ++ separator :: back) = some (front, back) := by
  induction front with
  | nil => rw [List.nil_append, part, if_pos rfl]
  | cons letter front ih =>
      rw [List.mem_cons, not_or] at absent
      rw [List.cons_append, part, if_neg (Ne.symm absent.1), ih absent.2]
      rfl

theorem part_none {separator : Letter} {text : List Letter} (absent : separator ∉ text) :
    part separator text = none := by
  induction text with
  | nil => rfl
  | cons letter text ih =>
      rw [List.mem_cons, not_or] at absent
      rw [part, if_neg (Ne.symm absent.1), ih absent.2]
      rfl

end Words
