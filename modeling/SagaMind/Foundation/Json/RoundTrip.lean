import SagaMind.Foundation.Json.Values

/-!
# Texts that are read back

A value whose keys are distinct and whose floats are faithful is read back from
its text, whatever stands behind it. The text is printable ASCII.
-/

namespace Json

open KeyedTable

set_option autoImplicit false

variable {Real : Type} {floats : Floats Real} {style : Style}

section Starts

def Opens (text : List Char) : Prop := ∃ c rest, text = c :: rest ∧ isGap c = false

theorem skip_opens {text : List Char} (opens : Opens text) (rest : List Char) :
    skip (text ++ rest) = text ++ rest := by
  obtain ⟨c, tail, rfl, solid⟩ := opens
  rw [skip, List.cons_append, List.dropWhile_cons, solid]
  rfl

theorem skip_gap {gap : List Char} (white : ∀ c ∈ gap, isGap c = true) (rest : List Char) :
    skip (gap ++ rest) = skip rest := by
  induction gap with
  | nil => rfl
  | cons c gap ih =>
      rw [List.forall_mem_cons] at white
      rw [List.cons_append, skip, List.dropWhile_cons, if_pos white.1]
      exact ih white.2

theorem digit_solid {c : Char} (digit : c.isDigit = true) :
    isGap c = false ∧ c ≠ '"' ∧ c ≠ '[' ∧ c ≠ '{' ∧ c ≠ ']' ∧ c ≠ '}' := by
  have plain : ∀ other : Char, other.isDigit = false → c ≠ other := by
    rintro other not_digit rfl
    rw [digit] at not_digit
    cases not_digit
  refine ⟨?_, plain _ (by decide), plain _ (by decide), plain _ (by decide), plain _ (by decide),
    plain _ (by decide)⟩
  simp [isGap, plain _ (show Char.isDigit ' ' = false by decide),
    plain _ (show Char.isDigit '\t' = false by decide),
    plain _ (show Char.isDigit '\n' = false by decide),
    plain _ (show Char.isDigit '\r' = false by decide)]

inductive Leads : List Char → Prop
  | digit {c : Char} {rest : List Char} (digit : c.isDigit = true) : Leads (c :: rest)
  | minus {c : Char} {rest : List Char} (digit : c.isDigit = true) : Leads ('-' :: c :: rest)

theorem numeral_leads {text : List Char} (numeral : Numeral text) (rest : List Char) :
    Leads (text ++ rest) ∧ Leads ('-' :: (text ++ rest)) := by
  cases text with
  | nil => exact absurd rfl numeral.1.1
  | cons c text =>
      have digit := numeral.1.2 c List.mem_cons_self
      exact ⟨.digit digit, .minus digit⟩

theorem whole_leads {text : List Char} (whole : Whole text) (rest : List Char) :
    Leads (text ++ rest) := by
  cases whole with
  | positive numeral => exact (numeral_leads numeral rest).1
  | negative numeral => exact (numeral_leads numeral rest).2

theorem spelled_leads {text : List Char} (spelled : Spelled text) (rest : List Char) :
    Leads (text ++ rest) := by
  obtain ⟨first, _, _, _⟩ := spelled
  rw [List.append_assoc, List.append_assoc]
  exact whole_leads first _

/-- How a value may start: none of the brackets that close, and no white space. -/
def Begins (c : Char) : Prop := isGap c = false ∧ c ≠ ']' ∧ c ≠ '}'

theorem leads_begins {text : List Char} (leads : Leads text) :
    ∃ c rest, text = c :: rest ∧ Begins c ∧ c ≠ '"' ∧ c ≠ '[' ∧ c ≠ '{' := by
  cases leads with
  | digit digit =>
      obtain ⟨solid, quote, bracket, brace, closing, ending⟩ := digit_solid digit
      exact ⟨_, _, rfl, ⟨solid, closing, ending⟩, quote, bracket, brace⟩
  | minus digit => exact ⟨_, _, rfl, by unfold Begins; decide, by decide, by decide, by decide⟩

theorem leads_unnamed {text : List Char} (leads : Leads text) : readName floats text = none := by
  have apart : ∀ first second : Char, first ≠ second → (first == second) = false :=
    fun _ _ other => beq_eq_false_iff_ne.mpr other
  have digit_apart : ∀ {c : Char}, c.isDigit = true → ∀ other : Char, other.isDigit = false →
      (other == c) = false := by
    intro c digit other not_digit
    apply apart
    rintro rfl
    rw [digit] at not_digit
    cases not_digit
  cases leads with
  | digit digit =>
      simp [readName, names, List.findSome?, List.isPrefixOf?,
        digit_apart digit 'n' (by decide), digit_apart digit 't' (by decide),
        digit_apart digit 'f' (by decide), digit_apart digit 'N' (by decide),
        digit_apart digit 'I' (by decide), digit_apart digit '-' (by decide)]
  | minus digit =>
      simp [readName, names, List.findSome?, List.isPrefixOf?,
        digit_apart digit 'I' (by decide)]

theorem write_begins {value : Value Real} (sound : Sound floats.Faithful value) :
    ∃ c rest, write floats style value = c :: rest ∧ Begins c := by
  cases value with
  | null => exact ⟨_, _, rfl, by unfold Begins; decide⟩
  | bool flag => cases flag <;> exact ⟨_, _, rfl, by unfold Begins; decide⟩
  | int number =>
      obtain ⟨c, rest, shape, begins, _⟩ := leads_begins (whole_leads (write_int_whole number) [])
      rw [List.append_nil] at shape
      exact ⟨c, rest, shape, begins⟩
  | real number =>
      rw [write]
      have faithful : floats.Faithful number := sound
      cases faithful with
      | nan shown => exact ⟨_, _, shown, by unfold Begins; decide⟩
      | infinity shown => exact ⟨_, _, shown, by unfold Begins; decide⟩
      | negativeInfinity shown => exact ⟨_, _, shown, by unfold Begins; decide⟩
      | finite spelled back =>
          obtain ⟨c, rest, shape, begins, _⟩ := leads_begins (spelled_leads spelled [])
          rw [List.append_nil] at shape
          exact ⟨c, rest, shape, begins⟩
  | str text => exact ⟨_, _, rfl, by unfold Begins; decide⟩
  | arr items => cases items <;> exact ⟨_, _, rfl, by unfold Begins; decide⟩
  | obj entries =>
      cases entries with
      | nil => exact ⟨_, _, rfl, by unfold Begins; decide⟩
      | cons entry entries => exact ⟨_, _, rfl, by unfold Begins; decide⟩

theorem string_opens (text : List Char) : Opens (writeString text) :=
  ⟨'"', text.flatMap escape ++ ['"'], rfl, by decide⟩

theorem write_opens {value : Value Real} (sound : Sound floats.Faithful value) :
    Opens (write floats style value) := by
  obtain ⟨c, rest, shape, begins⟩ := write_begins sound
  exact ⟨c, rest, shape, begins.1⟩

theorem items_end (items : List (Value Real)) (rest : List Char) :
    Opens (writeItems floats style items) ∧ Ends (writeItems floats style items ++ rest) := by
  cases items with
  | nil =>
      refine ⟨⟨_, _, rfl, by decide⟩, fun c first => ?_⟩
      obtain rfl := Option.some.inj first
      decide
  | cons item items =>
      refine ⟨⟨_, _, rfl, by decide⟩, fun c first => ?_⟩
      obtain rfl := Option.some.inj first
      decide

theorem entries_end (entries : List (String × Value Real)) (rest : List Char) :
    Opens (writeEntries floats style entries) ∧ Ends (writeEntries floats style entries ++ rest) := by
  cases entries with
  | nil =>
      refine ⟨⟨_, _, rfl, by decide⟩, fun c first => ?_⟩
      obtain rfl := Option.some.inj first
      decide
  | cons entry entries =>
      refine ⟨⟨_, _, rfl, by decide⟩, fun c first => ?_⟩
      obtain rfl := Option.some.inj first
      decide

end Starts

section Scalars

variable {rest : List Char}

theorem read_scalar_int (number : Int) (ends : Ends rest) :
    readScalar floats (writeInt number ++ rest) = some (.int number, rest) := by
  rw [readScalar, leads_unnamed (whole_leads (write_int_whole number) rest)]
  dsimp only
  rw [read_number_int number ends]
  rfl

theorem read_scalar_float {number : Real} (faithful : floats.Faithful number) (ends : Ends rest) :
    readScalar floats (floats.write number ++ rest) = some (.real number, rest) := by
  cases faithful with
  | nan shown =>
      rw [shown]
      rfl
  | infinity shown =>
      rw [shown]
      rfl
  | negativeInfinity shown =>
      rw [shown]
      rfl
  | finite spelled back =>
      rw [readScalar, leads_unnamed (spelled_leads spelled rest)]
      dsimp only
      rw [read_number_spelled spelled ends, Option.map_some, Sum.elim_inr, back]

/-- A value that starts like a name or a number is read as one. -/
theorem read_value_scalar {fuel : Nat} {text : List Char}
    (leads : ∃ c tail, text = c :: tail ∧ c ≠ '"' ∧ c ≠ '[' ∧ c ≠ '{') :
    readValue floats (fuel + 1) text = readScalar floats text := by
  obtain ⟨c, tail, rfl, quote, bracket, brace⟩ := leads
  rw [readValue, if_neg quote, if_neg bracket, if_neg brace]

theorem read_key_written (spacing : style.Spaced) (key : String) {text : List Char}
    (opens : Opens text) :
    readKey (writeString key.toList ++ ':' :: (style.afterColon ++ (text ++ rest))) =
      some (key, text ++ rest) := by
  have read := read_write_string key.toList (':' :: (style.afterColon ++ (text ++ rest)))
  have shape : writeString key.toList ++ ':' :: (style.afterColon ++ (text ++ rest)) =
      '"' :: (key.toList.flatMap escape ++ '"' :: ':' :: (style.afterColon ++ (text ++ rest))) := by
    rw [writeString, List.cons_append, List.append_assoc]
    rfl
  rw [shape, readKey, if_pos rfl, read, Option.bind_some]
  have colon : skip (':' :: (style.afterColon ++ (text ++ rest))) = _ :: _ :=
    skip_opens ⟨':', [], rfl, by decide⟩ (style.afterColon ++ (text ++ rest))
  dsimp only
  rw [colon]
  change some (String.ofList key.toList, skip (style.afterColon ++ (text ++ rest))) = _
  rw [skip_gap spacing.colon, skip_opens opens, String.ofList_toList]

end Scalars

section Dictionaries

theorem put_rows_new {rows : List (String × Value Real)} {row : String × Value Real}
    (absent : row.1 ∉ rows.map Prod.fst) : Table.putRows Prod.fst row rows = rows ++ [row] := by
  induction rows with
  | nil => rfl
  | cons head rows ih =>
      rw [List.map_cons, List.mem_cons, not_or] at absent
      rw [Table.putRows, if_neg (Ne.symm absent.1), ih absent.2]
      rfl

theorem dictionary_distinct {entries : List (String × Value Real)}
    (distinct : (entries.map Prod.fst).Nodup) : dictionary entries = entries := by
  suffices general : ∀ rows : List (String × Value Real), ((rows ++ entries).map Prod.fst).Nodup →
      entries.foldl (fun rows row => Table.putRows Prod.fst row rows) rows = rows ++ entries from
    general [] distinct
  clear distinct
  induction entries with
  | nil => exact fun rows _ => (List.append_nil rows).symm
  | cons row entries ih =>
      intro rows distinct
      have absent : row.1 ∉ rows.map Prod.fst := by
        rw [List.map_append, List.nodup_append] at distinct
        intro member
        exact distinct.2.2 _ member _ List.mem_cons_self rfl
      rw [List.foldl_cons, put_rows_new absent, ih, List.append_assoc]
      · rfl
      · rw [List.append_assoc]
        exact distinct

end Dictionaries

section RoundTrips

theorem read_more_closing {rest : List Char} {Item : Type} {closing : Char} {item : Item}
    {next : List Char → Option (List Item × List Char)} :
    readMore closing item next (closing :: rest) = some ([item], rest) := by
  rw [readMore, if_pos rfl]

theorem read_more_comma {rest : List Char} {Item : Type} {closing : Char} (other : closing ≠ ',') {item : Item}
    {next : List Char → Option (List Item × List Char)} (gap : ∀ c ∈ style.afterComma, isGap c = true)
    {text : List Char} (opens : Opens text) :
    readMore closing item next (',' :: (style.afterComma ++ (text ++ rest))) =
      (next (text ++ rest)).map fun more => (item :: more.1, more.2) := by
  rw [readMore, if_neg (Ne.symm other), if_pos rfl, skip_gap gap, skip_opens opens]

theorem read_items_front {item : Value Real} {items : List (Value Real)} {rest : List Char}
    {fuel : Nat}
    (front : readValue floats fuel (write floats style item ++ (writeItems floats style items ++
      rest)) = some (item, writeItems floats style items ++ rest))
    (back : readMore ']' item (readItems floats fuel) (writeItems floats style items ++ rest) =
      some (item :: items, rest)) :
    readItems floats (fuel + 1) (write floats style item ++ (writeItems floats style items ++
      rest)) = some (item :: items, rest) := by
  rw [readItems, front, Option.bind_some, skip_opens (items_end items rest).1, back]

theorem read_entries_front (spacing : style.Spaced) {key : String} {value : Value Real}
    (sound : Sound floats.Faithful value) {entries : List (String × Value Real)} {rest : List Char}
    {fuel : Nat}
    (front : readValue floats fuel (write floats style value ++ (writeEntries floats style entries ++
      rest)) = some (value, writeEntries floats style entries ++ rest))
    (back : readMore '}' (key, value) (readEntries floats fuel) (writeEntries floats style entries ++
      rest) = some ((key, value) :: entries, rest)) :
    readEntries floats (fuel + 1) (writeString key.toList ++ ':' :: (style.afterColon ++
      (write floats style value ++ (writeEntries floats style entries ++ rest)))) =
      some ((key, value) :: entries, rest) := by
  rw [readEntries, read_key_written spacing key (write_opens sound), Option.bind_some]
  dsimp only
  rw [front, Option.bind_some, skip_opens (entries_end entries rest).1, back]

theorem items_filled (items : List (Value Real)) : 1 ≤ (writeItems floats style items).length := by
  cases items <;> exact Nat.le_add_left 1 _

theorem entries_filled (entries : List (String × Value Real)) :
    1 ≤ (writeEntries floats style entries).length := by
  cases entries <;> exact Nat.le_add_left 1 _

mutual

theorem read_write (spacing : style.Spaced) (value : Value Real) (sound : Sound floats.Faithful value)
    {rest : List Char} (ends : Ends rest) {fuel : Nat}
    (enough : 2 * (write floats style value).length ≤ fuel) :
    readValue floats fuel (write floats style value ++ rest) = some (value, rest) := by
  obtain ⟨c, tail, shape, begins⟩ := @write_begins Real floats style value sound
  obtain ⟨fuel, rfl⟩ : ∃ less, fuel = less + 1 := by
    rw [shape, List.length_cons] at enough
    exact Nat.exists_eq_succ_of_ne_zero (by omega)
  cases value with
  | null => rfl
  | bool flag => cases flag <;> rfl
  | int number =>
      have leads := leads_begins (whole_leads (write_int_whole number) rest)
      obtain ⟨c, tail, shape, _, quote, bracket, brace⟩ := leads
      rw [write, read_value_scalar ⟨c, tail, shape, quote, bracket, brace⟩,
        read_scalar_int number ends]
  | real number =>
      have faithful : floats.Faithful number := sound
      rw [write, ← read_scalar_float faithful ends]
      apply read_value_scalar
      cases faithful with
      | nan shown =>
          rw [shown]
          exact ⟨_, _, rfl, by decide, by decide, by decide⟩
      | infinity shown =>
          rw [shown]
          exact ⟨_, _, rfl, by decide, by decide, by decide⟩
      | negativeInfinity shown =>
          rw [shown]
          exact ⟨_, _, rfl, by decide, by decide, by decide⟩
      | finite spelled back =>
          obtain ⟨c, tail, shape, _, apart⟩ := leads_begins (spelled_leads spelled rest)
          exact ⟨c, tail, shape, apart⟩
  | str text =>
      have read := read_write_string text.toList rest
      have shape : write floats style (.str text) ++ rest =
          '"' :: (text.toList.flatMap escape ++ '"' :: rest) := by
        rw [write, writeString, List.cons_append, List.append_assoc]
        rfl
      rw [shape, readValue, if_pos rfl, read, Option.map_some, String.ofList_toList]
  | arr items =>
      cases items with
      | nil => rfl
      | cons item items =>
          have shape : write floats style (.arr (item :: items)) ++ rest =
              '[' :: (write floats style item ++ (writeItems floats style items ++ rest)) := by
            rw [write, List.cons_append, List.append_assoc]
          have length : (write floats style (.arr (item :: items))).length =
              (write floats style item).length + (writeItems floats style items).length + 1 := by
            rw [write, List.length_cons, List.length_append]
          obtain ⟨fuel, rfl⟩ : ∃ less, fuel = less + 1 := Nat.exists_eq_succ_of_ne_zero (by omega)
          obtain ⟨c, tail, first, solid, closing, _⟩ := @write_begins Real floats style item sound.1
          have elements : readElements ']' (readItems floats (fuel + 1))
              (skip (write floats style item ++ (writeItems floats style items ++ rest))) =
              some (item :: items, rest) := by
            rw [skip_opens (write_opens sound.1), first, List.cons_append, readElements,
              if_neg closing, ← List.cons_append, ← first]
            apply read_items_front
            · exact read_write spacing item sound.1 (items_end items rest).2 (by omega)
            · exact read_write_items spacing items sound.2 item (by omega)
          rw [shape, readValue, if_neg (by decide), if_pos rfl, elements]
          rfl
  | obj entries =>
      cases entries with
      | nil => rfl
      | cons entry entries =>
          obtain ⟨key, value⟩ := entry
          have shape : write floats style (.obj ((key, value) :: entries)) ++ rest =
              '{' :: (writeString key.toList ++ ':' :: (style.afterColon ++
                (write floats style value ++ (writeEntries floats style entries ++ rest)))) := by
            simp only [write, List.cons_append, List.append_assoc]
          have length : (write floats style (.obj ((key, value) :: entries))).length =
              (writeString key.toList).length + style.afterColon.length +
                (write floats style value).length +
                (writeEntries floats style entries).length + 2 := by
            simp only [write, List.length_cons, List.length_append]
            omega
          have filled := @entries_filled Real floats style entries
          obtain ⟨fuel, rfl⟩ : ∃ less, fuel = less + 1 := Nat.exists_eq_succ_of_ne_zero (by omega)
          have elements : readElements '}' (readEntries floats (fuel + 1))
              (skip (writeString key.toList ++ ':' :: (style.afterColon ++
                (write floats style value ++ (writeEntries floats style entries ++ rest))))) =
              some ((key, value) :: entries, rest) := by
            rw [skip_opens (string_opens _)]
            change readEntries floats (fuel + 1) _ = _
            apply read_entries_front spacing sound.2.1
            · exact read_write spacing value sound.2.1 (entries_end entries rest).2 (by omega)
            · exact read_write_entries spacing entries sound.2.2 (key, value) (by omega)
          rw [shape, readValue, if_neg (by decide), if_neg (by decide), if_pos rfl, elements,
            Option.map_some, dictionary_distinct sound.1]

theorem read_write_items (spacing : style.Spaced) (items : List (Value Real))
    (sound : SoundItems floats.Faithful items) (first : Value Real) {rest : List Char} {fuel : Nat}
    (enough : 2 * (writeItems floats style items).length ≤ fuel + 2) :
    readMore ']' first (readItems floats fuel) (writeItems floats style items ++ rest) =
      some (first :: items, rest) := by
  cases items with
  | nil => exact read_more_closing
  | cons item items =>
      have shape : writeItems floats style (item :: items) ++ rest = ',' :: (style.afterComma ++
          (write floats style item ++ (writeItems floats style items ++ rest))) := by
        simp only [writeItems, List.cons_append, List.append_assoc]
      have length : (writeItems floats style (item :: items)).length = 1 + style.afterComma.length +
          (write floats style item).length + (writeItems floats style items).length := by
        simp only [writeItems, List.length_cons, List.length_append]
        omega
      have filled := @items_filled Real floats style items
      cases fuel with
      | zero => omega
      | succ fuel =>
          rw [shape, read_more_comma (by decide) spacing.comma (write_opens sound.1),
            read_items_front]
          · rfl
          · exact read_write spacing item sound.1 (items_end items rest).2 (by omega)
          · exact read_write_items spacing items sound.2 item (by omega)

theorem read_write_entries (spacing : style.Spaced) (entries : List (String × Value Real))
    (sound : SoundEntries floats.Faithful entries) (first : String × Value Real) {rest : List Char}
    {fuel : Nat} (enough : 2 * (writeEntries floats style entries).length ≤ fuel + 2) :
    readMore '}' first (readEntries floats fuel) (writeEntries floats style entries ++ rest) =
      some (first :: entries, rest) := by
  cases entries with
  | nil => exact read_more_closing
  | cons entry entries =>
      obtain ⟨key, value⟩ := entry
      have shape : writeEntries floats style ((key, value) :: entries) ++ rest =
          ',' :: (style.afterComma ++ (writeString key.toList ++ (':' :: (style.afterColon ++
            (write floats style value ++ (writeEntries floats style entries ++ rest)))))) := by
        simp only [writeEntries, List.cons_append, List.append_assoc]
      have length : (writeEntries floats style ((key, value) :: entries)).length =
          style.afterComma.length + (writeString key.toList).length + style.afterColon.length +
            (write floats style value).length + (writeEntries floats style entries).length + 2 := by
        simp only [writeEntries, List.length_cons, List.length_append]
        omega
      have filled := @entries_filled Real floats style entries
      cases fuel with
      | zero => omega
      | succ fuel =>
          rw [shape, read_more_comma (by decide) spacing.comma (string_opens _),
            read_entries_front spacing sound.1]
          · rfl
          · exact read_write spacing value sound.1 (entries_end entries rest).2 (by omega)
          · exact read_write_entries spacing entries sound.2 (key, value) (by omega)

end

/-- `loads` takes back what `dumps` has written. -/
theorem read_written (spacing : style.Spaced) {value : Value Real}
    (sound : Sound floats.Faithful value) : read floats (write floats style value) = some value := by
  have whole : readValue floats (2 * (write floats style value).length)
      (write floats style value ++ []) = some (value, []) :=
    read_write spacing value sound (fun c first => by cases first) le_rfl
  have front := skip_opens (@write_opens Real floats style value sound) []
  rw [List.append_nil] at whole front
  rw [read, front, whole]
  rfl

end RoundTrips

section Ascii

theorem printable_digits {text : List Char} (digits : ∀ c ∈ text, c.isDigit = true) :
    ∀ c ∈ text, Printable c := by
  intro c member
  have digit := digits c member
  simp only [Char.isDigit, Bool.and_eq_true, decide_eq_true_eq, UInt32.le_iff_toNat_le] at digit
  have low : 48 ≤ c.toNat := digit.1
  have high : c.toNat ≤ 57 := digit.2
  exact ⟨by omega, by omega⟩

theorem printable_whole {text : List Char} (whole : Whole text) : ∀ c ∈ text, Printable c := by
  cases whole with
  | positive numeral => exact printable_digits numeral.1.2
  | negative numeral => exact List.forall_mem_cons.mpr ⟨by decide, printable_digits numeral.1.2⟩

theorem printable_spelled {text : List Char} (spelled : Spelled text) : ∀ c ∈ text, Printable c := by
  obtain ⟨first, second, third, _⟩ := spelled
  rw [List.forall_mem_append, List.forall_mem_append]
  refine ⟨⟨printable_whole first, ?_⟩, ?_⟩
  · cases second with
    | absent => exact fun _ member => absurd member List.not_mem_nil
    | point digits => exact List.forall_mem_cons.mpr ⟨by decide, printable_digits digits.2⟩
  · cases third with
    | absent => exact fun _ member => absurd member List.not_mem_nil
    | power signed digits =>
        rw [List.cons_append, List.forall_mem_cons, List.forall_mem_append]
        refine ⟨by decide, ?_, printable_digits digits.2⟩
        rcases signed with rfl | rfl | rfl
        · exact fun _ member => absurd member List.not_mem_nil
        · exact List.forall_mem_singleton.mpr (by decide)
        · exact List.forall_mem_singleton.mpr (by decide)

theorem printable_string (text : List Char) : ∀ c ∈ writeString text, Printable c := by
  rw [writeString, List.forall_mem_cons, List.forall_mem_append]
  refine ⟨by decide, ?_, List.forall_mem_singleton.mpr (by decide)⟩
  intro c member
  obtain ⟨letter, _, among⟩ := List.mem_flatMap.mp member
  exact printable_escape letter c among

structure Style.Ascii (style : Style) : Prop where
  comma : ∀ c ∈ style.afterComma, Printable c
  colon : ∀ c ∈ style.afterColon, Printable c

mutual

theorem printable_write (ascii : style.Ascii) (value : Value Real)
    (sound : Sound floats.Faithful value) : ∀ c ∈ write floats style value, Printable c := by
  cases value with
  | null => exact @printable_letters ['n', 'u', 'l', 'l'] (by decide)
  | bool flag =>
      cases flag
      · exact @printable_letters ['f', 'a', 'l', 's', 'e'] (by decide)
      · exact @printable_letters ['t', 'r', 'u', 'e'] (by decide)
  | int number => exact printable_whole (write_int_whole number)
  | real number =>
      have faithful : floats.Faithful number := sound
      rw [write]
      cases faithful with
      | nan shown =>
          rw [shown]
          exact printable_letters (by decide)
      | infinity shown =>
          rw [shown]
          exact printable_letters (by decide)
      | negativeInfinity shown =>
          rw [shown]
          exact printable_letters (by decide)
      | finite spelled back => exact printable_spelled spelled
  | str text => exact printable_string text.toList
  | arr items =>
      cases items with
      | nil => exact @printable_letters ['[', ']'] (by decide)
      | cons item items =>
          rw [write, List.forall_mem_cons, List.forall_mem_append]
          exact ⟨by decide, printable_write ascii item sound.1,
            printable_items ascii items sound.2⟩
  | obj entries =>
      cases entries with
      | nil => exact @printable_letters ['{', '}'] (by decide)
      | cons entry entries =>
          obtain ⟨key, value⟩ := entry
          rw [write, List.forall_mem_cons, List.forall_mem_append, List.forall_mem_cons,
            List.forall_mem_append, List.forall_mem_append]
          exact ⟨by decide, printable_string _, by decide, ascii.colon,
            printable_write ascii value sound.2.1, printable_entries ascii entries sound.2.2⟩

theorem printable_items (ascii : style.Ascii) (items : List (Value Real))
    (sound : SoundItems floats.Faithful items) :
    ∀ c ∈ writeItems floats style items, Printable c := by
  cases items with
  | nil => exact List.forall_mem_singleton.mpr (by decide)
  | cons item items =>
      rw [writeItems, List.forall_mem_cons, List.forall_mem_append, List.forall_mem_append]
      exact ⟨by decide, ascii.comma, printable_write ascii item sound.1,
        printable_items ascii items sound.2⟩

theorem printable_entries (ascii : style.Ascii) (entries : List (String × Value Real))
    (sound : SoundEntries floats.Faithful entries) :
    ∀ c ∈ writeEntries floats style entries, Printable c := by
  cases entries with
  | nil => exact List.forall_mem_singleton.mpr (by decide)
  | cons entry entries =>
      obtain ⟨key, value⟩ := entry
      rw [writeEntries, List.forall_mem_cons, List.forall_mem_append, List.forall_mem_append,
        List.forall_mem_cons, List.forall_mem_append, List.forall_mem_append]
      exact ⟨by decide, ascii.comma, printable_string _, by decide, ascii.colon,
        printable_write ascii value sound.1, printable_entries ascii entries sound.2⟩

end

theorem compact_ascii : compact.Ascii :=
  ⟨fun _ member => absurd member List.not_mem_nil, fun _ member => absurd member List.not_mem_nil⟩

end Ascii

end Json
