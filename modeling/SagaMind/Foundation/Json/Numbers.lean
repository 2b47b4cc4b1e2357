import Mathlib.Data.List.TakeWhile
import Mathlib.Tactic.Common

/-!
# JSON numbers

A number is a whole part, and it is a float if a fraction or an exponent
follows. How floats are shown and read is a parameter.
-/

namespace Json

set_option autoImplicit false

section Reading

/-- `0`, or digits that do not start with `0`. -/
def readWhole : List Char → Option (List Char × List Char)
  | [] => none
  | c :: rest =>
      if c = '0' then some (['0'], rest)
      else if c.isDigit then some (c :: rest.takeWhile Char.isDigit, rest.dropWhile Char.isDigit)
      else none

def readSigned : List Char → Option (List Char × List Char)
  | [] => none
  | c :: rest =>
      if c = '-' then (readWhole rest).map fun taken => ('-' :: taken.1, taken.2)
      else readWhole (c :: rest)

/-- Characters, digits behind them, and what follows; nothing if there are no
digits. -/
def readDigits (front text whole : List Char) : List Char × List Char :=
  if text.takeWhile Char.isDigit = [] then ([], whole)
  else (front ++ text.takeWhile Char.isDigit, text.dropWhile Char.isDigit)

def readFraction : List Char → List Char × List Char
  | [] => ([], [])
  | c :: rest => if c = '.' then readDigits [c] rest (c :: rest) else ([], c :: rest)

def readPower (c : Char) : List Char → List Char × List Char
  | [] => ([], [c])
  | sign :: rest =>
      if sign = '+' ∨ sign = '-' then readDigits [c, sign] rest (c :: sign :: rest)
      else readDigits [c] (sign :: rest) (c :: sign :: rest)

def readExponent : List Char → List Char × List Char
  | [] => ([], [])
  | c :: rest => if c = 'e' ∨ c = 'E' then readPower c rest else ([], c :: rest)

/-- `int(text)`, of a whole part. -/
def wholeValue : List Char → Int
  | [] => 0
  | c :: rest =>
      if c = '-' then -(Nat.ofDigitChars 10 rest 0 : Int)
      else (Nat.ofDigitChars 10 (c :: rest) 0 : Int)

def readNumber (text : List Char) : Option ((Int ⊕ List Char) × List Char) :=
  (readSigned text).map fun whole =>
    let fraction := readFraction whole.2
    let exponent := readExponent fraction.2
    if fraction.1 = [] ∧ exponent.1 = [] then (.inl (wholeValue whole.1), exponent.2)
    else (.inr (whole.1 ++ fraction.1 ++ exponent.1), exponent.2)

end Reading

section Spelling

/-- `int.__repr__`. -/
def writeInt : Int → List Char
  | .ofNat number => Nat.toDigits 10 number
  | .negSucc number => '-' :: Nat.toDigits 10 (number + 1)

def AllDigits (text : List Char) : Prop := text ≠ [] ∧ ∀ c ∈ text, c.isDigit = true

def Numeral (text : List Char) : Prop := AllDigits text ∧ (text.head? = some '0' → text = ['0'])

inductive Whole : List Char → Prop
  | positive {text : List Char} (numeral : Numeral text) : Whole text
  | negative {text : List Char} (numeral : Numeral text) : Whole ('-' :: text)

inductive Fraction : List Char → Prop
  | absent : Fraction []
  | point {text : List Char} (digits : AllDigits text) : Fraction ('.' :: text)

inductive Exponent : List Char → Prop
  | absent : Exponent []
  | power {text sign : List Char} (signed : sign = [] ∨ sign = ['+'] ∨ sign = ['-'])
      (digits : AllDigits text) : Exponent ('e' :: sign ++ text)

inductive Spelled : List Char → Prop
  | of {whole fraction exponent : List Char} (first : Whole whole) (second : Fraction fraction)
      (third : Exponent exponent) (float : fraction ≠ [] ∨ exponent ≠ []) :
      Spelled (whole ++ fraction ++ exponent)

def Ends (text : List Char) : Prop :=
  ∀ c ∈ text.head?, c.isDigit = false ∧ c ≠ '.' ∧ c ≠ 'e' ∧ c ≠ 'E'

end Spelling

section Laws

variable {text rest : List Char}

theorem take_digits (digits : ∀ c ∈ text, c.isDigit = true)
    (stops : ∀ c ∈ rest.head?, c.isDigit = false) :
    (text ++ rest).takeWhile Char.isDigit = text ∧ (text ++ rest).dropWhile Char.isDigit = rest := by
  have none_ : rest.takeWhile Char.isDigit = [] ∧ rest.dropWhile Char.isDigit = rest := by
    cases rest with
    | nil => exact ⟨rfl, rfl⟩
    | cons c rest =>
        have stop : c.isDigit = false := stops c rfl
        rw [List.takeWhile_cons, List.dropWhile_cons, stop]
        exact ⟨rfl, rfl⟩
  rw [List.takeWhile_append_of_pos digits, List.dropWhile_append_of_pos digits, none_.1, none_.2,
    List.append_nil]
  exact ⟨rfl, rfl⟩

theorem read_digits_front (digits : AllDigits text) (stops : ∀ c ∈ rest.head?, c.isDigit = false)
    (front whole : List Char) :
    readDigits front (text ++ rest) whole = (front ++ text, rest) := by
  rw [readDigits, (take_digits digits.2 stops).1, (take_digits digits.2 stops).2, if_neg digits.1]

theorem read_whole_numeral (numeral : Numeral text)
    (stops : ∀ c ∈ rest.head?, c.isDigit = false) :
    readWhole (text ++ rest) = some (text, rest) := by
  obtain ⟨⟨filled, digits⟩, leading⟩ := numeral
  cases text with
  | nil => exact absurd rfl filled
  | cons c text =>
      rw [List.cons_append, readWhole]
      split
      · rename_i zero
        subst zero
        obtain rfl : text = [] := (List.cons.inj (leading rfl)).2
        rfl
      · rw [List.forall_mem_cons] at digits
        rw [if_pos digits.1, (take_digits digits.2 stops).1, (take_digits digits.2 stops).2]

theorem numeral_not_minus (numeral : Numeral text) : text.head? ≠ some '-' := by
  intro minus
  cases text with
  | nil => cases minus
  | cons c text =>
      obtain rfl := Option.some.inj minus
      exact absurd (numeral.1.2 '-' List.mem_cons_self) (by decide)

theorem read_signed_whole (whole : Whole text) (stops : ∀ c ∈ rest.head?, c.isDigit = false) :
    readSigned (text ++ rest) = some (text, rest) := by
  cases whole with
  | positive numeral =>
      have plain := numeral_not_minus numeral
      have read := read_whole_numeral numeral stops
      cases text with
      | nil => exact absurd rfl numeral.1.1
      | cons c text =>
          rw [List.cons_append] at read ⊢
          rw [readSigned, if_neg (fun minus => plain (congrArg some minus)), read]
  | negative numeral =>
      rw [List.cons_append, readSigned, if_pos rfl, read_whole_numeral numeral stops]
      rfl

theorem fraction_stops (fraction : Fraction text) (ends : ∀ c ∈ rest.head?, c.isDigit = false) :
    ∀ c ∈ (text ++ rest).head?, c.isDigit = false := by
  cases fraction with
  | absent => exact ends
  | point digits =>
      intro c first
      obtain rfl := Option.some.inj first
      decide

theorem exponent_stops (exponent : Exponent text) (ends : Ends rest) :
    ∀ c ∈ (text ++ rest).head?, c.isDigit = false ∧ c ≠ '.' := by
  cases exponent with
  | absent => exact fun c first => ⟨(ends c first).1, (ends c first).2.1⟩
  | power signed digits =>
      intro c first
      obtain rfl := Option.some.inj first
      decide

theorem read_fraction_front (fraction : Fraction text)
    (stops : ∀ c ∈ rest.head?, c.isDigit = false ∧ c ≠ '.') :
    readFraction (text ++ rest) = (text, rest) := by
  cases fraction with
  | absent =>
      cases rest with
      | nil => rfl
      | cons c rest =>
          rw [List.nil_append, readFraction, if_neg (stops c rfl).2]
  | point digits =>
      rw [List.cons_append, readFraction, if_pos rfl,
        read_digits_front digits fun c first => (stops c first).1]
      rfl

theorem read_exponent_front (exponent : Exponent text) (ends : Ends rest) :
    readExponent (text ++ rest) = (text, rest) := by
  cases exponent with
  | absent =>
      cases rest with
      | nil => rfl
      | cons c rest =>
          obtain ⟨_, _, small, large⟩ := ends c rfl
          rw [List.nil_append, readExponent.eq_def]
          exact if_neg (not_or.mpr ⟨small, large⟩)
  | @power digits sign signed alldigits =>
      have stops : ∀ c ∈ rest.head?, c.isDigit = false := fun c first => (ends c first).1
      rcases signed with rfl | rfl | rfl
      · cases digits with
        | nil => exact absurd rfl alldigits.1
        | cons d digits =>
            have digit := alldigits.2 d List.mem_cons_self
            have plain : ¬(d = '+' ∨ d = '-') := by
              rintro (rfl | rfl)
              · exact absurd digit (by decide)
              · exact absurd digit (by decide)
            change readExponent ('e' :: d :: (digits ++ rest)) = _
            rw [readExponent, if_pos (.inl rfl), readPower, if_neg plain]
            exact read_digits_front alldigits stops _ _
      · change readExponent ('e' :: '+' :: (digits ++ rest)) = _
        rw [readExponent, if_pos (.inl rfl), readPower, if_pos (.inl rfl),
          read_digits_front alldigits stops]
      · change readExponent ('e' :: '-' :: (digits ++ rest)) = _
        rw [readExponent, if_pos (.inl rfl), readPower, if_pos (.inr rfl),
          read_digits_front alldigits stops]

theorem read_number_spelled (spelled : Spelled text) (ends : Ends rest) :
    readNumber (text ++ rest) = some (.inr text, rest) := by
  obtain ⟨first, second, third, float⟩ := spelled
  rename_i whole fraction exponent
  have stops := exponent_stops third ends
  rw [List.append_assoc, List.append_assoc, readNumber,
    read_signed_whole first (fraction_stops second fun c head => (stops c head).1), Option.map_some]
  simp only [read_fraction_front second stops, read_exponent_front third ends]
  rw [if_neg (by rintro ⟨noFraction, noExponent⟩; exact float.elim (· noFraction) (· noExponent)),
    List.append_assoc]

end Laws

section Integers

theorem to_digits_leading (number : Nat) :
    (Nat.toDigits 10 number).head? = some '0' → Nat.toDigits 10 number = ['0'] := by
  induction number using Nat.strong_induction_on with
  | _ number ih =>
      rw [Nat.toDigits_eq_if (by decide)]
      split
      · intro zero
        exact congrArg (fun c => [c]) (Option.some.inj zero)
      · rename_i large
        intro zero
        have smaller : number / 10 < number := by omega
        have front : (Nat.toDigits 10 (number / 10)).head? = some '0' := by
          cases digits : Nat.toDigits 10 (number / 10) with
          | nil => exact absurd digits Nat.toDigits_ne_nil
          | cons c rest =>
              rw [digits] at zero
              exact zero
        have single := ih _ smaller front
        have value : Nat.ofDigitChars 10 (Nat.toDigits 10 (number / 10)) 0 = number / 10 :=
          Nat.ofDigitChars_toDigits (by decide) (by decide)
        rw [single] at value
        have zeroed : 0 = number / 10 := value
        omega

theorem to_digits_numeral (number : Nat) : Numeral (Nat.toDigits 10 number) :=
  ⟨⟨Nat.toDigits_ne_nil, fun _ member => Nat.isDigit_of_mem_toDigits (by decide) (by decide) member⟩,
    to_digits_leading number⟩

theorem write_int_whole (number : Int) : Whole (writeInt number) := by
  cases number with
  | ofNat number => exact .positive (to_digits_numeral number)
  | negSucc number => exact .negative (to_digits_numeral (number + 1))

theorem whole_value_write (number : Int) : wholeValue (writeInt number) = number := by
  cases number with
  | ofNat number =>
      have plain := numeral_not_minus (to_digits_numeral number)
      have value : Nat.ofDigitChars 10 (Nat.toDigits 10 number) 0 = number :=
        Nat.ofDigitChars_toDigits (by decide) (by decide)
      rw [writeInt]
      cases digits : Nat.toDigits 10 number with
      | nil => exact absurd digits Nat.toDigits_ne_nil
      | cons c rest =>
          rw [digits] at plain value
          rw [wholeValue, if_neg (fun minus => plain (congrArg some minus)), value]
          rfl
  | negSucc number =>
      rw [writeInt, wholeValue, if_pos rfl, Nat.ofDigitChars_toDigits (by decide) (by decide)]
      rfl

theorem read_number_int (number : Int) {rest : List Char} (ends : Ends rest) :
    readNumber (writeInt number ++ rest) = some (.inl number, rest) := by
  have stops : ∀ c ∈ rest.head?, c.isDigit = false ∧ c ≠ '.' :=
    fun c first => ⟨(ends c first).1, (ends c first).2.1⟩
  have fraction : readFraction rest = ([], rest) := read_fraction_front .absent stops
  have exponent : readExponent rest = ([], rest) := read_exponent_front .absent ends
  rw [readNumber, read_signed_whole (write_int_whole number) fun c first => (stops c first).1,
    Option.map_some]
  simp only [fraction, exponent, and_self, if_true, whole_value_write]

end Integers

end Json
