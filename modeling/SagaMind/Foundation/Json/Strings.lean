import Mathlib.Tactic.Common
import Mathlib.Tactic.IntervalCases

/-!
# JSON strings

How an encoder writes a string in ASCII, and how a decoder reads one. A code
point beyond the basic plane is written as a surrogate pair; an escape that
leaves a surrogate alone stands for no character.
-/

namespace Json

set_option autoImplicit false

section Writing

def hexDigits (code : Nat) : List Char :=
  [Nat.digitChar (code / 4096 % 16), Nat.digitChar (code / 256 % 16),
    Nat.digitChar (code / 16 % 16), Nat.digitChar (code % 16)]

/-- `\uXXXX`. -/
def unicodeEscape (code : Nat) : List Char := '\\' :: 'u' :: hexDigits code

def escapes : List (Char × Char) :=
  [('\\', '\\'), ('"', '"'), ('\x08', 'b'), ('\x0c', 'f'), ('\n', 'n'), ('\r', 'r'), ('\t', 't')]

def escape (c : Char) : List Char :=
  match escapes.find? fun row => row.1 = c with
  | some row => ['\\', row.2]
  | none =>
      if 32 ≤ c.toNat ∧ c.toNat ≤ 126 then [c]
      else if c.toNat < 65536 then unicodeEscape c.toNat
      else unicodeEscape (55296 + (c.toNat - 65536) / 1024) ++
        unicodeEscape (56320 + (c.toNat - 65536) % 1024)

def writeString (text : List Char) : List Char := '"' :: (text.flatMap escape ++ ['"'])

end Writing

section Reading

def hexValue (c : Char) : Option Nat :=
  if 48 ≤ c.toNat ∧ c.toNat ≤ 57 then some (c.toNat - 48)
  else if 97 ≤ c.toNat ∧ c.toNat ≤ 102 then some (c.toNat - 87)
  else if 65 ≤ c.toNat ∧ c.toNat ≤ 70 then some (c.toNat - 55)
  else none

def readHex : List Char → Option (Nat × List Char)
  | a :: b :: c :: d :: rest => do
      let a ← hexValue a
      let b ← hexValue b
      let c ← hexValue c
      let d ← hexValue d
      some (((a * 16 + b) * 16 + c) * 16 + d, rest)
  | _ => none

def readLow (high : Nat) : List Char → Option (Char × List Char)
  | '\\' :: 'u' :: rest =>
      (readHex rest).bind fun low =>
        if 56320 ≤ low.1 ∧ low.1 < 57344 then
          some (Char.ofNat (65536 + (high - 55296) * 1024 + (low.1 - 56320)), low.2)
        else none
  | _ => none

/-- The rest of an escape, behind the `u`. -/
def readUnicode (text : List Char) : Option (Char × List Char) :=
  (readHex text).bind fun code =>
    if 55296 ≤ code.1 ∧ code.1 < 56320 then readLow code.1 code.2
    else if 56320 ≤ code.1 ∧ code.1 < 57344 then none
    else some (Char.ofNat code.1, code.2)

def backslash : List (Char × Char) :=
  [('"', '"'), ('\\', '\\'), ('/', '/'), ('b', '\x08'), ('f', '\x0c'), ('n', '\n'), ('r', '\r'),
    ('t', '\t')]

def readEscape : List Char → Option (Char × List Char)
  | [] => none
  | letter :: rest =>
      if letter = 'u' then readUnicode rest
      else (backslash.find? fun row => row.1 = letter).map fun row => (row.2, rest)

def readLetter : List Char → Option (Char × List Char)
  | [] => none
  | c :: rest =>
      if c = '\\' then readEscape rest
      else if c.toNat < 32 then none
      else some (c, rest)

/-- The rest of a string, behind the opening quote. A text is read with as much
fuel as it is long. -/
def readLetters : Nat → List Char → Option (List Char × List Char)
  | _, [] => none
  | 0, _ => none
  | fuel + 1, c :: text =>
      if c = '"' then some ([], text)
      else
        (readLetter (c :: text)).bind fun letter =>
          (readLetters fuel letter.2).map fun taken => (letter.1 :: taken.1, taken.2)

/-- `scanstring`, behind the opening quote. -/
def readString (text : List Char) : Option (List Char × List Char) := readLetters text.length text

end Reading

section Laws

variable {c : Char} {rest : List Char}

theorem hex_value_digit {digit : Nat} (small : digit < 16) :
    hexValue (Nat.digitChar digit) = some digit := by
  interval_cases digit <;> rfl

theorem read_hex_digits {code : Nat} (small : code < 65536) (rest : List Char) :
    readHex (hexDigits code ++ rest) = some (code, rest) := by
  have digit : ∀ power, hexValue (Nat.digitChar (code / power % 16)) = some (code / power % 16) :=
    fun power => hex_value_digit (Nat.mod_lt _ (by decide))
  have last : hexValue (Nat.digitChar (code % 16)) = some (code % 16) :=
    hex_value_digit (Nat.mod_lt _ (by decide))
  have whole : ((code / 4096 % 16 * 16 + code / 256 % 16) * 16 + code / 16 % 16) * 16 + code % 16 =
      code := by omega
  simp [hexDigits, readHex, digit, last, whole]

theorem read_unicode_escape {code : Nat} (small : code < 65536)
    (plain : code < 55296 ∨ 57343 < code) (rest : List Char) :
    readUnicode (hexDigits code ++ rest) = some (Char.ofNat code, rest) := by
  rw [readUnicode, read_hex_digits small, Option.bind_some]
  rw [if_neg (by omega), if_neg (by omega)]

theorem read_surrogates {high low : Nat} (first : high < 1024) (second : low < 1024)
    (rest : List Char) :
    readUnicode (hexDigits (55296 + high) ++ (unicodeEscape (56320 + low) ++ rest)) =
      some (Char.ofNat (65536 + high * 1024 + low), rest) := by
  rw [readUnicode, read_hex_digits (by omega), Option.bind_some, if_pos (by omega)]
  change (readHex (hexDigits (56320 + low) ++ rest)).bind _ = _
  rw [read_hex_digits (by omega), Option.bind_some, if_pos (by omega)]
  simp only [Nat.add_sub_cancel_left]

theorem read_short_escape : ∀ row ∈ escapes, ∀ rest,
    readEscape (row.2 :: rest) = some (row.1, rest) := by
  simp only [escapes, List.forall_mem_cons]
  refine ⟨?_, ?_, ?_, ?_, ?_, ?_, ?_, fun _ member => absurd member List.not_mem_nil⟩
  · exact fun rest => rfl
  · exact fun rest => rfl
  · exact fun rest => rfl
  · exact fun rest => rfl
  · exact fun rest => rfl
  · exact fun rest => rfl
  · exact fun rest => rfl

theorem read_letter_escape (c : Char) (rest : List Char) :
    readLetter (escape c ++ rest) = some (c, rest) := by
  have valid : c.toNat < 55296 ∨ 57343 < c.toNat ∧ c.toNat < 1114112 := c.valid
  unfold escape
  cases found : escapes.find? fun row => row.1 = c with
  | some row =>
      obtain rfl : row.1 = c := by simpa using List.find?_some found
      exact read_short_escape row (List.mem_of_find?_eq_some found) rest
  | none =>
      dsimp only
      split
      · have plain : c ≠ '\\' := by
          rintro rfl
          cases found
        rw [List.singleton_append, readLetter, if_neg plain, if_neg (by omega)]
      · split
        · change readUnicode (hexDigits c.toNat ++ rest) = _
          rw [read_unicode_escape (by omega) (by omega), Char.ofNat_toNat]
        · rw [List.append_assoc]
          change readUnicode (hexDigits _ ++ (unicodeEscape _ ++ rest)) = _
          rw [read_surrogates (by omega) (Nat.mod_lt _ (by decide))]
          have whole : 65536 + (c.toNat - 65536) / 1024 * 1024 + (c.toNat - 65536) % 1024 =
              c.toNat := by omega
          rw [whole, Char.ofNat_toNat]

def Printable (c : Char) : Prop := 32 ≤ c.toNat ∧ c.toNat ≤ 126

instance decidablePrintable (c : Char) : Decidable (Printable c) := inferInstanceAs (Decidable (_ ∧ _))

theorem printable_letters {text : List Char}
    (every : (text.all fun c => decide (Printable c)) = true) : ∀ c ∈ text, Printable c :=
  fun c member => of_decide_eq_true (List.all_eq_true.mp every c member)

theorem printable_digit {digit : Nat} (small : digit < 16) : Printable (Nat.digitChar digit) := by
  interval_cases digit <;> decide

theorem printable_unicode (code : Nat) : ∀ c ∈ unicodeEscape code, Printable c := by
  have digit : ∀ number : Nat, Printable (Nat.digitChar (number % 16)) :=
    fun number => printable_digit (Nat.mod_lt _ (by decide))
  simp only [unicodeEscape, hexDigits, List.forall_mem_cons]
  exact ⟨by decide, by decide, digit _, digit _, digit _, digit _,
    fun _ member => absurd member List.not_mem_nil⟩

theorem printable_escape (c : Char) : ∀ letter ∈ escape c, Printable letter := by
  unfold escape
  cases found : escapes.find? fun row => row.1 = c with
  | some row =>
      have short : (escapes.all fun row => ['\\', row.2].all fun c => decide (Printable c)) = true := by
        decide
      exact printable_letters (List.all_eq_true.mp short row (List.mem_of_find?_eq_some found))
  | none =>
      dsimp only
      split
      · rename_i printable
        exact List.forall_mem_singleton.mpr printable
      · split
        · exact printable_unicode _
        · rw [List.forall_mem_append]
          exact ⟨printable_unicode _,
            printable_unicode _⟩

/-- An escape does not start with a quote, so that it does not end its string. -/
theorem escape_starts (c : Char) : ∃ first tail, escape c = first :: tail ∧ first ≠ '"' := by
  unfold escape
  cases found : escapes.find? fun row => row.1 = c with
  | some row => exact ⟨_, _, rfl, by decide⟩
  | none =>
      dsimp only
      split
      · refine ⟨c, [], rfl, ?_⟩
        rintro rfl
        cases found
      · split
        · exact ⟨_, _, rfl, by decide⟩
        · exact ⟨_, _, rfl, by decide⟩

theorem read_letters_escapes (text rest : List Char) {fuel : Nat}
    (enough : (text.flatMap escape).length < fuel) :
    readLetters fuel (text.flatMap escape ++ '"' :: rest) = some (text, rest) := by
  induction text generalizing fuel with
  | nil =>
      cases fuel with
      | zero => cases enough
      | succ fuel => rfl
  | cons c text ih =>
      obtain ⟨first, tail, shape, open_⟩ := escape_starts c
      have read := read_letter_escape c (text.flatMap escape ++ '"' :: rest)
      rw [List.flatMap_cons, List.length_append] at enough
      rw [shape] at read enough
      rw [List.flatMap_cons, shape, List.append_assoc]
      cases fuel with
      | zero => cases enough
      | succ fuel =>
          rw [List.cons_append, readLetters, if_neg open_]
          rw [List.cons_append] at read
          rw [read, Option.bind_some, ih]
          · rfl
          · rw [List.length_cons] at enough
            omega

theorem read_write_string (text rest : List Char) :
    readString (text.flatMap escape ++ '"' :: rest) = some (text, rest) := by
  apply read_letters_escapes
  rw [List.length_append, List.length_cons]
  omega

end Laws

end Json
