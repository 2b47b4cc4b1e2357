import Mathlib.Logic.Equiv.List
import SagaMind.StateStore.RedisRecords

/-!
# Codecs that agree with given texts

A few values are written as the texts that belong to them, and every other value
as a number.
-/

namespace SagaMind.RedisStore

open KeyedTable

set_option autoImplicit false

section Encodings

instance encodableChar : Encodable Char :=
  Encodable.ofLeftInjection Char.toNat (fun code => some (Char.ofNat code)) fun char => by simp

instance encodableString : Encodable String :=
  Encodable.ofLeftInjection String.toList (fun chars => some (String.ofList chars))
    fun text => by simp

instance {Key Row : Type} [DecidableEq Key] {key : Row → Key} [Encodable Row] :
    Encodable (Table key) :=
  Encodable.ofLeftInjection Table.rows
    (fun rows => if distinct : (rows.map key).Nodup then some ⟨rows, distinct⟩ else none)
    fun table => dif_pos table.distinct

instance {Key Row : Type} {key : Row → Key} [DecidableEq Row] : DecidableEq (Table key) :=
  fun left right => decidable_of_iff (left.rows = right.rows) (by
    constructor
    · intro same
      cases left
      cases right
      cases same
      rfl
    · exact congrArg Table.rows)

instance : Encodable DeadLetter :=
  Encodable.ofLeftInjection
    (fun letter => (letter.sagaId, letter.tenantId, letter.stepName, letter.error))
    (fun fields => some ⟨fields.1, fields.2.1, fields.2.2.1, fields.2.2.2⟩) fun _ => rfl

end Encodings

variable {Value : Type}

/-- Some values and their texts; a text that `int` reads is none of them. -/
structure Worded (Value : Type) where
  known : List (Value × String)
  values : (known.map Prod.fst).Nodup
  texts : (known.map Prod.snd).Nodup
  worded : ∀ pair ∈ known, pair.2 ≠ "" ∧ (int pair.2).toOption = none

theorem Worded.not_number (words : Worded Value) {pair : Value × String} (member : pair ∈ words.known)
    (code : Nat) : pair.2 ≠ code.repr := by
  intro same
  have refused := (words.worded pair member).2
  rw [same, RedisStore.int_repr] at refused
  cases refused

variable [DecidableEq Value] [Encodable Value]

def Worded.codec (words : Worded Value) : Codec Value where
  dumps value :=
    match words.known.find? fun pair => pair.1 = value with
    | some pair => pair.2
    | none => (Encodable.encode value).repr
  loads text :=
    match words.known.find? fun pair => pair.2 = text with
    | some pair => some pair.1
    | none => (int text).toOption.bind Encodable.decode
  loads_dumps := by
    intro value
    cases found : words.known.find? fun pair => pair.1 = value with
    | some pair =>
        have same : pair.1 = value := by simpa using List.find?_some found
        have back : words.known.find? (fun other => other.2 = pair.2) = some pair :=
          Table.find_of_mem_rows words.texts (List.mem_of_find?_eq_some found)
        simp only [back, same]
    | none =>
        have unknown : words.known.find? (fun pair => pair.2 = (Encodable.encode value).repr) =
            none := by
          rw [List.find?_eq_none]
          intro pair member same
          exact words.not_number member _ (of_decide_eq_true same)
        simp only [unknown, RedisStore.int_repr]
        exact Encodable.encodek value
  dumps_filled := by
    intro value
    cases found : words.known.find? fun pair => pair.1 = value with
    | some pair => exact (words.worded pair (List.mem_of_find?_eq_some found)).1
    | none =>
        intro blank
        have digits : (Encodable.encode value).repr.toList = Nat.toDigits 10 _ := Nat.toList_repr
        simp only [blank] at digits
        exact Nat.toDigits_ne_nil digits.symm

end SagaMind.RedisStore
