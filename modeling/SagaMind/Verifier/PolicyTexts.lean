import SagaMind.Verifier.PolicyFormulas

/-!
# The texts of policies

How a policy may be spelled: any white space between the tokens and around the
brackets of a connective, a comparison as `(op field atom)`. In every such text
the pattern finds the comparisons whose names it can read, from left to right.
-/

namespace SagaMind.Verifier

open Scanning

set_option autoImplicit false

section Spelling

def White (gap : List Char) : Prop := ∀ c ∈ gap, Contracts.isSpace c = true

def Comparison.spelled (comparison : Comparison) (gap gap' : List Char) : List Char :=
  comparison.operator.symbol.toList ++ (gap ++ (comparison.field.name.toList ++
    (gap' ++ (comparison.atom.text.toList ++ [')']))))

/-- `(keyword inner)`. -/
def bracketed (keyword : String) (inner : List Char) : List Char :=
  '(' :: (keyword.toList ++ (inner ++ [')']))

mutual

def Policy.Spells : Policy → List Char → Prop
  | .comparison basic, text =>
      ∃ gap gap', (White gap ∧ gap ≠ []) ∧ (White gap' ∧ gap' ≠ []) ∧
        text = '(' :: basic.spelled gap gap'
  | .and policies, text => ∃ inner, Policy.SpellsEach policies inner ∧ text = bracketed "and" inner
  | .or policies, text => ∃ inner, Policy.SpellsEach policies inner ∧ text = bracketed "or" inner
  | .not policy, text =>
      ∃ gap own gap', White gap ∧ policy.Spells own ∧ White gap' ∧
        text = bracketed "not" (gap ++ (own ++ gap'))
  | .implies premises conclusion, text =>
      ∃ inner own gap, Policy.SpellsEach premises inner ∧ conclusion.Spells own ∧ White gap ∧
        text = bracketed "=>" (inner ++ (own ++ gap))

def Policy.SpellsEach : List Policy → List Char → Prop
  | [], text => White text
  | head :: tail, text =>
      ∃ gap own later, White gap ∧ head.Spells own ∧ Policy.SpellsEach tail later ∧
        text = gap ++ (own ++ later)

end

/-- Each policy in an assertion of its own. -/
def SpellsAssertions : List Policy → List Char → Prop
  | [], text => White text
  | head :: tail, text =>
      ∃ gap own later, White gap ∧ Policy.SpellsEach [head] own ∧ SpellsAssertions tail later ∧
        text = gap ++ (bracketed "assert" own ++ later)

end Spelling

section Legibility

def Atom.legible : Atom → Bool
  | .numeral _ => true
  | .argument symbol => Contracts.isIdentifier symbol.name

def Comparison.legible (comparison : Comparison) : Bool :=
  Contracts.isIdentifier comparison.field.name && comparison.atom.legible

def Comparison.simple (comparison : Comparison) : SimpleComparison where
  operator := comparison.operator
  field := comparison.field.name
  rawLimit := comparison.atom.text

def found (comparisons : List Comparison) : List SimpleComparison :=
  (comparisons.filter Comparison.legible).map Comparison.simple

theorem found_append (left right : List Comparison) : found (left ++ right) = found left ++ found right := by
  rw [found, List.filter_append, List.map_append]
  rfl

end Legibility

section Tokens

theorem space_stops_name {c : Char} (space : Contracts.isSpace c = true) : nameRest c = false := by
  by_contra rest
  rw [Bool.not_eq_false] at rest
  have range := name_rest_range rest
  simp only [Contracts.isSpace, Bool.or_eq_true, Bool.and_eq_true, decide_eq_true_eq] at space
  omega

theorem read_name_stop {stop : Char} (stops : nameRest stop = false) {name : List Char}
    (some : name ≠ []) (rest : List Char) :
    readName (name ++ stop :: rest) =
      (readName name).map fun taken => (taken.1, taken.2 ++ stop :: rest) := by
  cases name with
  | nil => exact absurd rfl some
  | cons c name =>
      rw [List.cons_append, readName, readName, take_while_stop stops, drop_while_stop stops]
      split
      · rfl
      · rfl

theorem identifier_eq (name : String) :
    Contracts.isIdentifier name = match name.toList with
      | [] => false
      | first :: rest => nameStart first && rest.all nameRest := rfl

theorem read_name_identifier {name : String} (identifier : Contracts.isIdentifier name = true) :
    readName name.toList = some (name.toList, []) := by
  rw [identifier_eq] at identifier
  cases letters : name.toList with
  | nil =>
      rw [letters] at identifier
      cases identifier
  | cons first rest =>
      rw [letters] at identifier
      obtain ⟨start, every⟩ := Bool.and_eq_true_iff.mp identifier
      rw [List.all_eq_true] at every
      rw [readName, if_pos start, List.takeWhile_eq_self_iff.mpr every,
        List.dropWhile_eq_nil_iff.mpr every]

/-- What is left of another token starts with a character of the token. -/
theorem read_name_other {name : String} (other : Contracts.isIdentifier name = false)
    {taken rest : List Char} (read : readName name.toList = some (taken, rest)) :
    ∃ c left, c ∈ name.toList ∧ rest = c :: left := by
  rw [identifier_eq] at other
  cases letters : name.toList with
  | nil =>
      rw [letters] at read
      cases read
  | cons first later =>
      rw [letters] at read other
      rw [readName] at read
      split at read
      · rename_i start
        cases read
        cases behind : later.dropWhile nameRest with
        | nil =>
            have every : later.all nameRest = true :=
              List.all_eq_true.mpr (List.dropWhile_eq_nil_iff.mp behind)
            dsimp only at other
            rw [start, every] at other
            cases other
        | cons c left =>
            refine ⟨c, left, List.mem_cons_of_mem _ ?_, rfl⟩
            apply (List.dropWhile_sublist nameRest).subset
            rw [behind]
            exact List.mem_cons_self
      · cases read

theorem read_spaces_gap {gap : List Char} (white : White gap) (some : gap ≠ []) {stop : Char}
    (stops : Contracts.isSpace stop = false) (rest : List Char) :
    readSpaces (gap ++ stop :: rest) = Option.some (stop :: rest) := by
  rw [readSpaces, run_stop stops, run_whole some white]
  rfl

theorem read_operator_symbol (operator : Operator) {space : Char}
    (white : Contracts.isSpace space = true) (rest : List Char) :
    readOperator (operator.symbol.toList ++ space :: rest) = some (operator, space :: rest) := by
  have different : '=' ≠ space := by
    rintro rfl
    exact absurd white (by decide)
  cases operator with
  | le => rfl
  | lt =>
      have longer : literal Operator.le.symbol.toList ('<' :: space :: rest) = none := by
        change (if '=' = space then literal [] rest else none) = none
        rw [if_neg different]
      change readOperator ('<' :: space :: rest) = _
      rw [readOperator, List.findSome?_cons, longer]
      rfl
  | ge => rfl
  | gt =>
      have longer : literal Operator.ge.symbol.toList ('>' :: space :: rest) = none := by
        change (if '=' = space then literal [] rest else none) = none
        rw [if_neg different]
      change readOperator ('>' :: space :: rest) = _
      rw [readOperator, List.findSome?_cons, List.findSome?_cons, List.findSome?_cons, longer]
      rfl
  | eq => rfl

theorem digits_digit (numbers : List (Fin 10)) : ∀ c ∈ Numeral.digits numbers, isDigit c = true := by
  have each : ∀ digit : Fin 10, isDigit (Nat.digitChar digit.val) = true := by decide
  intro c member
  obtain ⟨digit, -, rfl⟩ := List.mem_map.mp member
  exact each digit

theorem digits_some {numbers : List (Fin 10)} (some : numbers ≠ []) : Numeral.digits numbers ≠ [] :=
  fun empty => some (List.map_eq_nil_iff.mp empty)

theorem read_unsigned_numeral (numeral : Numeral) (rest : List Char) :
    readUnsigned (Numeral.digits numeral.whole ++
        ((if numeral.fraction = [] then [] else '.' :: Numeral.digits numeral.fraction) ++
          ')' :: rest)) =
      some (Numeral.digits numeral.whole ++
        (if numeral.fraction = [] then [] else '.' :: Numeral.digits numeral.fraction),
          ')' :: rest) := by
  have bracket : isDigit ')' = false := by decide
  have point : isDigit '.' = false := by decide
  have whole := run_whole (digits_some numeral.some) (digits_digit numeral.whole)
  rw [readUnsigned]
  split
  · rw [List.nil_append, run_stop bracket, whole]
    rfl
  · rename_i fraction
    rw [List.cons_append, run_stop point, whole]
    simp only [Option.map_some, List.nil_append, readFraction]
    rw [run_stop bracket, run_whole (digits_some fraction) (digits_digit _)]
    rfl

theorem read_number_unsigned {first : Char} (unsigned : first ≠ '-') (rest : List Char) :
    readNumber (first :: rest) = readUnsigned (first :: rest) := by
  unfold readNumber
  split
  · rename_i equal
    exact absurd (List.cons.inj equal).1 unsigned
  · rfl

theorem read_atom_numeral (numeral : Numeral) (rest : List Char) :
    readAtom (numeral.chars ++ ')' :: rest) = some (numeral.chars, ')' :: rest) := by
  have number := read_unsigned_numeral numeral rest
  rw [Numeral.chars]
  cases sign : numeral.negative with
  | true =>
      have noName : ∀ text, readName ('-' :: text) = none := fun _ => rfl
      simp only [if_true, List.cons_append, List.nil_append, List.append_assoc, readAtom, noName,
        Option.none_or, readNumber, number]
      rfl
  | false =>
      simp only [Bool.false_eq_true, if_false, List.nil_append, List.append_assoc, readAtom]
      cases leading : Numeral.digits numeral.whole with
      | nil => exact absurd leading (digits_some numeral.some)
      | cons first later =>
          have digit : isDigit first = true :=
            digits_digit numeral.whole first (leading ▸ List.mem_cons_self)
          obtain ⟨letter, unsigned⟩ := digit_first digit
          rw [leading] at number
          rw [List.cons_append, readName, if_neg (by rw [letter]; decide), Option.none_or,
            read_number_unsigned unsigned, ← List.cons_append, number]

theorem read_number_symbol (symbol : Symbol) (rest : List Char) :
    readNumber (symbol.name.toList ++ ')' :: rest) = none := by
  have plain := symbol.plain
  cases letters : symbol.name.toList with
  | nil => exact absurd letters symbol.token.1
  | cons first later =>
      rw [letters] at plain
      by_cases sign : first = '-'
      · subst sign
        rw [List.cons_append, readNumber, readUnsigned]
        cases later with
        | nil => rfl
        | cons second later =>
            have other : isDigit second = false := plain
            rw [List.cons_append, run_none other]
            rfl
      · have other : isDigit first = false := by
          rw [unsigned_plain sign] at plain
          exact plain
        rw [List.cons_append, read_number_unsigned sign, readUnsigned, run_none other]
        rfl

end Tokens

section Matching

/-- The atom and the closing bracket are read, unless the name has other characters. -/
theorem read_atom_closed (atom : Atom) (rest : List Char) (make : List Char → SimpleComparison) :
    ((readAtom (atom.text.toList ++ ')' :: rest)).bind fun taken =>
      (literal [')'] taken.2).bind fun behind => some (make taken.1, behind)) =
      if atom.legible then some (make atom.text.toList, rest) else none := by
  cases atom with
  | numeral number =>
      rw [Atom.text, String.toList_ofList, read_atom_numeral]
      rfl
  | argument symbol =>
      have stop : nameRest ')' = false := by decide
      have read := read_name_stop stop symbol.token.1 rest
      rw [Atom.text, Atom.legible, readAtom, read_number_symbol, Option.or_none, read]
      by_cases identifier : Contracts.isIdentifier symbol.name = true
      · rw [read_name_identifier identifier, if_pos identifier]
        rfl
      · rw [if_neg identifier]
        rw [Bool.not_eq_true] at identifier
        cases read : readName symbol.name.toList with
        | none => rfl
        | some taken =>
            obtain ⟨c, left, member, behind⟩ := read_name_other identifier read
            have bracket : ')' ≠ c := Ne.symm (symbol.token.2 c member).2.2
            simp only [Option.map_some, Option.bind_some, behind, List.cons_append, literal]
            rw [if_neg bracket]
            rfl

theorem numeral_token (numeral : Numeral) : IsToken numeral.chars := by
  have each : ∀ digit : Fin 10, Contracts.isSpace (Nat.digitChar digit.val) = false ∧
      Nat.digitChar digit.val ≠ '(' ∧ Nat.digitChar digit.val ≠ ')' := by decide
  have digits : ∀ (numbers : List (Fin 10)), ∀ c ∈ Numeral.digits numbers,
      Contracts.isSpace c = false ∧ c ≠ '(' ∧ c ≠ ')' := by
    intro numbers c member
    obtain ⟨digit, -, rfl⟩ := List.mem_map.mp member
    exact each digit
  constructor
  · intro empty
    rw [Numeral.chars, List.append_eq_nil_iff, List.append_eq_nil_iff] at empty
    exact digits_some numeral.some empty.1.2
  · intro c member
    rw [Numeral.chars, List.mem_append, List.mem_append] at member
    rcases member with (sign | whole) | fraction
    · split at sign
      · rw [List.mem_singleton.mp sign]
        decide
      · cases sign
    · exact digits numeral.whole c whole
    · split at fraction
      · cases fraction
      · rcases List.mem_cons.mp fraction with rfl | later
        · decide
        · exact digits numeral.fraction c later

theorem atom_token (atom : Atom) : IsToken atom.text.toList := by
  cases atom with
  | numeral number =>
      rw [Atom.text, String.toList_ofList]
      exact numeral_token number
  | argument symbol => exact symbol.token

theorem read_spaces_token {gap token : List Char} (white : White gap) (some : gap ≠ [])
    (shape : IsToken token) (rest : List Char) :
    readSpaces (gap ++ (token ++ rest)) = Option.some (token ++ rest) := by
  obtain ⟨nonempty, plain⟩ := shape
  cases token with
  | nil => exact absurd rfl nonempty
  | cons c token => exact read_spaces_gap white some (plain c List.mem_cons_self).1 (token ++ rest)

theorem read_comparison_spelled (basic : Comparison) {gap gap' : List Char}
    (white : White gap ∧ gap ≠ []) (white' : White gap' ∧ gap' ≠ []) (rest : List Char) :
    readComparison ('(' :: (basic.spelled gap gap' ++ rest)) =
      if basic.legible then some (basic.simple, rest) else none := by
  have operator : readOperator (basic.operator.symbol.toList ++ (gap ++ (basic.field.name.toList ++
      (gap' ++ (basic.atom.text.toList ++ ')' :: rest))))) = some (basic.operator,
        gap ++ (basic.field.name.toList ++ (gap' ++ (basic.atom.text.toList ++ ')' :: rest)))) := by
    obtain ⟨blank, some⟩ := white
    cases gap with
    | nil => exact absurd rfl some
    | cons space gap => exact read_operator_symbol basic.operator (blank space List.mem_cons_self) _
  have name : readName (basic.field.name.toList ++ (gap' ++ (basic.atom.text.toList ++ ')' :: rest))) =
      (readName basic.field.name.toList).map fun taken =>
        (taken.1, taken.2 ++ (gap' ++ (basic.atom.text.toList ++ ')' :: rest))) := by
    obtain ⟨blank, some⟩ := white'
    cases gap' with
    | nil => exact absurd rfl some
    | cons space gap' =>
        exact read_name_stop (space_stops_name (blank space List.mem_cons_self))
          basic.field.token.1 _
  have spaces := read_spaces_token white.1 white.2 basic.field.token
    (gap' ++ (basic.atom.text.toList ++ ')' :: rest))
  have spaces' := read_spaces_token white'.1 white'.2 (atom_token basic.atom) (')' :: rest)
  have closed := read_atom_closed basic.atom rest fun rawLimit => {
    operator := basic.operator
    field := String.ofList basic.field.name.toList
    rawLimit := String.ofList rawLimit }
  have opened : ∀ text, literal ['('] ('(' :: text) = some text := fun _ => rfl
  rw [Comparison.spelled]
  simp only [List.append_assoc, List.cons_append, List.nil_append]
  simp only [readComparison, Option.bind_eq_bind, opened, Option.bind_some, operator, spaces, name]
  by_cases identifier : Contracts.isIdentifier basic.field.name = true
  · rw [read_name_identifier identifier]
    simp only [Option.map_some, Option.bind_some, List.nil_append, spaces']
    refine closed.trans ?_
    rw [Comparison.legible, identifier, Bool.true_and, String.ofList_toList, String.ofList_toList]
    rfl
  · rw [Bool.not_eq_true] at identifier
    rw [Comparison.legible, identifier, Bool.false_and, if_neg Bool.false_ne_true]
    cases read : readName basic.field.name.toList with
    | none => rfl
    | some taken =>
        obtain ⟨c, left, member, behind⟩ := read_name_other identifier read
        have letter := (basic.field.token.2 c member).1
        simp only [Option.map_some, Option.bind_some, behind, List.cons_append, readSpaces,
          run_none letter, Option.map_none, Option.bind_none]

end Matching

section Search

theorem read_comparison_start (c : Char) (text : List Char) (other : c ≠ '(') :
    readComparison (c :: text) = none := by
  have bracket : literal ['('] (c :: text) = none := if_neg (Ne.symm other)
  rw [readComparison, bracket]
  rfl

theorem findall_white {gap : List Char} (white : White gap) (rest : List Char) :
    findall readComparison (gap ++ rest) = findall readComparison rest := by
  have free : '(' ∉ gap := by
    intro member
    exact absurd (white '(' member) (by decide)
  exact findall_pass read_comparison_start free rest

theorem findall_closed (rest : List Char) :
    findall readComparison (')' :: rest) = findall readComparison rest :=
  findall_none (read_comparison_start ')' rest (by decide))

theorem findall_bracketed {keyword : String} (foreign : ∀ text,
    readComparison ('(' :: (keyword.toList ++ text)) = none) (free : '(' ∉ keyword.toList)
    (inner rest : List Char) :
    findall readComparison (bracketed keyword inner ++ rest) =
      findall readComparison (inner ++ ')' :: rest) := by
  rw [bracketed, List.cons_append, List.append_assoc, findall_none (foreign _),
    findall_pass read_comparison_start free, List.append_assoc, List.singleton_append]

theorem findall_comparison (basic : Comparison) {gap gap' : List Char}
    (white : White gap ∧ gap ≠ []) (white' : White gap' ∧ gap' ≠ []) (rest : List Char) :
    findall readComparison ('(' :: (basic.spelled gap gap' ++ rest)) =
      found [basic] ++ findall readComparison rest := by
  have read := read_comparison_spelled basic white white' rest
  by_cases legible : basic.legible = true
  · rw [if_pos legible] at read
    rw [findall_match read, found, List.filter_cons_of_pos legible]
    rfl
  · rw [if_neg legible] at read
    have free : '(' ∉ basic.spelled gap gap' := by
      have operator : '(' ∉ basic.operator.symbol.toList := by
        cases basic.operator <;> decide
      have first : '(' ∉ gap := fun member => absurd (white.1 '(' member) (by decide)
      have field : '(' ∉ basic.field.name.toList :=
        fun member => (basic.field.token.2 '(' member).2.1 rfl
      have second : '(' ∉ gap' := fun member => absurd (white'.1 '(' member) (by decide)
      have atom : '(' ∉ basic.atom.text.toList :=
        fun member => ((atom_token basic.atom).2 '(' member).2.1 rfl
      simp only [Comparison.spelled, List.mem_append, List.mem_singleton, operator, first, field,
        second, atom, false_or]
      decide
    rw [findall_none read, findall_pass read_comparison_start free, found,
      List.filter_cons_of_neg legible]
    rfl

theorem findall_each {policies : List Policy}
    (each : ∀ item ∈ policies, ∀ text rest, item.Spells text →
      findall readComparison (text ++ rest) =
        found item.comparisons ++ findall readComparison rest)
    {text : List Char} (spelled : Policy.SpellsEach policies text) (rest : List Char) :
    findall readComparison (text ++ rest) =
      found (Policy.listed policies) ++ findall readComparison rest := by
  induction policies generalizing text with
  | nil => exact findall_white spelled rest
  | cons head tail ih =>
      rw [List.forall_mem_cons] at each
      obtain ⟨gap, own, later, white, ownSpelled, laterSpelled, rfl⟩ := spelled
      rw [List.append_assoc, findall_white white, List.append_assoc, each.1 own _ ownSpelled,
        ih each.2 laterSpelled, Policy.listed, found_append, List.append_assoc]

/-- In a policy the pattern finds the comparisons that it can read. -/
theorem findall_policy (policy : Policy) (text rest : List Char) (spelled : policy.Spells text) :
    findall readComparison (text ++ rest) =
      found policy.comparisons ++ findall readComparison rest := by
  induction policy using Policy.induction generalizing text rest with
  | comparison basic =>
      obtain ⟨gap, gap', white, white', rfl⟩ := spelled
      exact findall_comparison basic white white' rest
  | and policies each =>
      obtain ⟨inner, spelled, rfl⟩ := spelled
      rw [findall_bracketed (fun _ => rfl) (by decide), findall_each each spelled, findall_closed]
      rfl
  | or policies each =>
      obtain ⟨inner, spelled, rfl⟩ := spelled
      rw [findall_bracketed (fun _ => rfl) (by decide), findall_each each spelled, findall_closed]
      rfl
  | not policy each =>
      obtain ⟨gap, own, gap', white, spelled, white', rfl⟩ := spelled
      rw [findall_bracketed (fun _ => rfl) (by decide), List.append_assoc, findall_white white,
        List.append_assoc, each own _ spelled, findall_white white', findall_closed]
      rfl
  | implies premises conclusion each last =>
      obtain ⟨inner, own, gap, spelled, ownSpelled, white, rfl⟩ := spelled
      rw [findall_bracketed (fun _ => rfl) (by decide), List.append_assoc, findall_each each spelled,
        List.append_assoc, last own _ ownSpelled, findall_white white, findall_closed,
        Policy.comparisons, found_append, List.append_assoc]

theorem findall_assertions {assertions : List Policy} {text : List Char}
    (spelled : SpellsAssertions assertions text) :
    findall readComparison text = found (Policy.listed assertions) := by
  induction assertions generalizing text with
  | nil =>
      have searched := findall_white spelled []
      rwa [List.append_nil] at searched
  | cons head tail ih =>
      obtain ⟨gap, own, later, white, ownSpelled, laterSpelled, rfl⟩ := spelled
      rw [findall_white white, findall_bracketed (fun _ => rfl) (by decide),
        findall_each (fun item _ => findall_policy item) ownSpelled, findall_closed,
        ih laterSpelled, Policy.listed, Policy.listed, Policy.listed, List.append_nil, found_append]

/-- `_SIMPLE_COMPARISON.findall` on a policy. -/
theorem simple_comparisons_eq {assertions : List Policy} {invariants : String}
    (spelled : SpellsAssertions assertions invariants.toList) :
    simpleComparisons invariants = found (Policy.listed assertions) :=
  findall_assertions spelled

end Search

end SagaMind.Verifier
