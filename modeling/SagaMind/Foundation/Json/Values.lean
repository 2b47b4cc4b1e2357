import SagaMind.Foundation.Json.Numbers
import SagaMind.Foundation.Json.Strings
import SagaMind.Foundation.KeyedTable

/-!
# JSON texts

Values, the text that an encoder writes of them, and the value that a decoder
reads off a text. Floats are a parameter: how they are shown, and what a text
is as a float. A text is read by recursive descent, with as much fuel as it
needs.
-/

namespace Json

set_option autoImplicit false

inductive Value (Real : Type) where
  | null
  | bool (flag : Bool)
  | int (number : Int)
  | real (number : Real)
  | str (text : String)
  | arr (items : List (Value Real))
  | obj (entries : List (String × Value Real))

/-- The floats of a program: their names, `repr` and `float`. -/
structure Floats (Real : Type) where
  nan : Real
  infinity : Real
  negativeInfinity : Real
  write : Real → List Char
  float : List Char → Real

structure Style where
  afterComma : List Char
  afterColon : List Char

variable {Real : Type} (floats : Floats Real) (style : Style)

section Writing

mutual

/-- `json.dumps`. -/
def write : Value Real → List Char
  | .null => ['n', 'u', 'l', 'l']
  | .bool true => ['t', 'r', 'u', 'e']
  | .bool false => ['f', 'a', 'l', 's', 'e']
  | .int number => writeInt number
  | .real number => floats.write number
  | .str text => writeString text.toList
  | .arr [] => ['[', ']']
  | .arr (item :: items) => '[' :: (write item ++ writeItems items)
  | .obj [] => ['{', '}']
  | .obj ((key, value) :: entries) =>
      '{' :: (writeString key.toList ++ ':' :: (style.afterColon ++ (write value ++
        writeEntries entries)))

def writeItems : List (Value Real) → List Char
  | [] => [']']
  | item :: items => ',' :: (style.afterComma ++ (write item ++ writeItems items))

def writeEntries : List (String × Value Real) → List Char
  | [] => ['}']
  | (key, value) :: entries =>
      ',' :: (style.afterComma ++ (writeString key.toList ++ ':' :: (style.afterColon ++
        (write value ++ writeEntries entries))))

end

end Writing

section Reading

def isGap (c : Char) : Bool := c = ' ' || c = '\t' || c = '\n' || c = '\r'

def skip (text : List Char) : List Char := text.dropWhile isGap

def names : List (List Char × Value Real) :=
  [(['n', 'u', 'l', 'l'], .null), (['t', 'r', 'u', 'e'], .bool true),
    (['f', 'a', 'l', 's', 'e'], .bool false), (['N', 'a', 'N'], .real floats.nan),
    (['I', 'n', 'f', 'i', 'n', 'i', 't', 'y'], .real floats.infinity),
    (['-', 'I', 'n', 'f', 'i', 'n', 'i', 't', 'y'], .real floats.negativeInfinity)]

def readName (text : List Char) : Option (Value Real × List Char) :=
  (names floats).findSome? fun row => (row.1.isPrefixOf? text).map fun rest => (row.2, rest)

def readScalar (text : List Char) : Option (Value Real × List Char) :=
  match readName floats text with
  | some taken => some taken
  | none =>
      (readNumber text).map fun taken =>
        (taken.1.elim Value.int fun digits => .real (floats.float digits), taken.2)

/-- What follows an element: the closing bracket, or a comma and more elements. -/
def readMore {Item : Type} (closing : Char) (item : Item)
    (next : List Char → Option (List Item × List Char)) : List Char → Option (List Item × List Char)
  | [] => none
  | c :: rest =>
      if c = closing then some ([item], rest)
      else if c = ',' then
        (next (skip rest)).map fun more => (item :: more.1, more.2)
      else none

def readElements {Item : Type} (closing : Char)
    (next : List Char → Option (List Item × List Char)) : List Char → Option (List Item × List Char)
  | [] => none
  | c :: rest => if c = closing then some ([], rest) else next (c :: rest)

def readKey : List Char → Option (String × List Char)
  | [] => none
  | c :: rest =>
      if c = '"' then
        (readString rest).bind fun key =>
          match skip key.2 with
          | ':' :: rest => some (String.ofList key.1, skip rest)
          | _ => none
      else none

/-- Entries as a dictionary keeps them: a later one replaces the value of an
earlier one. -/
def dictionary (entries : List (String × Value Real)) : List (String × Value Real) :=
  entries.foldl (fun rows row => KeyedTable.Table.putRows Prod.fst row rows) []

mutual

def readValue : Nat → List Char → Option (Value Real × List Char)
  | 0, _ => none
  | _ + 1, [] => none
  | fuel + 1, c :: rest =>
      if c = '"' then
        (readString rest).map fun taken => (.str (String.ofList taken.1), taken.2)
      else if c = '[' then
        (readElements ']' (readItems fuel) (skip rest)).map fun taken => (.arr taken.1, taken.2)
      else if c = '{' then
        (readElements '}' (readEntries fuel) (skip rest)).map fun taken =>
          (.obj (dictionary taken.1), taken.2)
      else readScalar floats (c :: rest)

def readItems : Nat → List Char → Option (List (Value Real) × List Char)
  | 0, _ => none
  | fuel + 1, text =>
      (readValue fuel text).bind fun item => readMore ']' item.1 (readItems fuel) (skip item.2)

def readEntries : Nat → List Char → Option (List (String × Value Real) × List Char)
  | 0, _ => none
  | fuel + 1, text =>
      (readKey text).bind fun key =>
        (readValue fuel key.2).bind fun item =>
          readMore '}' (key.1, item.1) (readEntries fuel) (skip item.2)

end

/-- `json.loads`; `none` is a `JSONDecodeError`. -/
def read (text : List Char) : Option (Value Real) :=
  (readValue floats (2 * text.length) (skip text)).bind fun taken =>
    if skip taken.2 = [] then some taken.1 else none

end Reading

section Soundness

inductive Floats.Faithful : Real → Prop
  | nan (shown : floats.write floats.nan = ['N', 'a', 'N']) : Faithful floats.nan
  | infinity (shown : floats.write floats.infinity = ['I', 'n', 'f', 'i', 'n', 'i', 't', 'y']) :
      Faithful floats.infinity
  | negativeInfinity (shown : floats.write floats.negativeInfinity =
      ['-', 'I', 'n', 'f', 'i', 'n', 'i', 't', 'y']) : Faithful floats.negativeInfinity
  | finite {number : Real} (spelled : Spelled (floats.write number))
      (back : floats.float (floats.write number) = number) : Faithful number

variable (good : Real → Prop)

mutual

def Sound : Value Real → Prop
  | .real number => good number
  | .arr items => SoundItems items
  | .obj entries => (entries.map Prod.fst).Nodup ∧ SoundEntries entries
  | _ => True

def SoundItems : List (Value Real) → Prop
  | [] => True
  | item :: items => Sound item ∧ SoundItems items

def SoundEntries : List (String × Value Real) → Prop
  | [] => True
  | (_, value) :: entries => Sound value ∧ SoundEntries entries

end

structure Style.Spaced : Prop where
  comma : ∀ c ∈ style.afterComma, isGap c = true
  colon : ∀ c ∈ style.afterColon, isGap c = true

/-- `separators=(",", ":")`. -/
def compact : Style := ⟨[], []⟩

theorem compact_spaced : compact.Spaced :=
  ⟨fun _ member => absurd member List.not_mem_nil, fun _ member => absurd member List.not_mem_nil⟩

end Soundness

end Json
