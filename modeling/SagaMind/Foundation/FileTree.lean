import Mathlib.Data.List.Basic
import Mathlib.Logic.Function.Basic
import SagaMind.Foundation.Program

/-!
# A file tree without symbolic links

Resolved paths, a tree of files and directories, and the calls of the
operating system that look at it and change it. Every node of a tree lies in
a directory. A call that changes the tree may fail for reasons of its own, and
then changes nothing.
-/

namespace FileTree

open CallProgram

set_option autoImplicit false

def Proper (name : String) : Prop :=
  name ≠ "" ∧ name ≠ "." ∧ name ≠ ".." ∧ '/' ∉ name.toList ∧ '\x00' ∉ name.toList

instance (name : String) : Decidable (Proper name) :=
  inferInstanceAs (Decidable (_ ∧ _))

/-- A resolved absolute path. -/
@[ext] structure Path where
  names : List String
  proper : ∀ name ∈ names, Proper name
  deriving DecidableEq

namespace Path

def root : Path := ⟨[], fun _ member => absurd member List.not_mem_nil⟩

def text (path : Path) : String := "/" ++ "/".intercalate path.names

/-- `os.path.dirname`. -/
def parent (path : Path) : Path where
  names := path.names.dropLast
  proper := fun name member => path.proper name (List.dropLast_subset _ member)

def take (path : Path) (count : Nat) : Path where
  names := path.names.take count
  proper := fun name member => path.proper name (List.mem_of_mem_take member)

def contains (path other : Path) : Bool := path.names.isPrefixOf other.names

end Path

section Resolving

def components (text : String) : List String := (text.toList.splitOn '/').map String.ofList

def follow (names : List String) (name : String) : List String :=
  if name = "" ∨ name = "." then names
  else if name = ".." then names.dropLast
  else names ++ [name]

theorem split_on_mem {Item : Type} [DecidableEq Item] {separator : Item} {items part : List Item}
    (member : part ∈ items.splitOn separator) :
    separator ∉ part ∧ ∀ item ∈ part, item ∈ items := by
  rw [List.splitOn_eq_splitOnP] at member
  induction items generalizing part with
  | nil =>
      rw [List.splitOnP_nil, List.mem_singleton] at member
      rw [member]
      exact ⟨List.not_mem_nil, fun _ inside => inside⟩
  | cons head rest ih =>
      rw [List.splitOnP_cons_eq_if_modifyHead] at member
      by_cases same : head = separator
      · rw [if_pos (beq_iff_eq.mpr same), List.mem_cons] at member
        rcases member with empty | later
        · rw [empty]
          exact ⟨List.not_mem_nil, fun _ inside => absurd inside List.not_mem_nil⟩
        · exact ⟨(ih later).1, fun item inside => List.mem_cons_of_mem _ ((ih later).2 item inside)⟩
      · rw [if_neg (by simpa using same)] at member
        cases shape : rest.splitOnP (fun item => item == separator) with
        | nil => exact absurd shape (List.splitOnP_ne_nil _ _)
        | cons first others =>
            rw [shape, List.modifyHead_cons, List.mem_cons] at member
            rcases member with grown | later
            · have old := ih (shape ▸ List.mem_cons_self)
              rw [grown]
              constructor
              · rw [List.mem_cons, not_or]
                exact ⟨fun equal => same equal.symm, old.1⟩
              · intro item inside
                rcases List.mem_cons.mp inside with equal | inside
                · exact equal ▸ List.mem_cons_self
                · exact List.mem_cons_of_mem _ (old.2 item inside)
            · have old := ih (shape ▸ List.mem_cons_of_mem first later)
              exact ⟨old.1, fun item inside => List.mem_cons_of_mem _ (old.2 item inside)⟩

theorem components_clean {text name : String} (clean : '\x00' ∉ text.toList)
    (member : name ∈ components text) : '/' ∉ name.toList ∧ '\x00' ∉ name.toList := by
  obtain ⟨part, inside, shape⟩ := List.mem_map.mp member
  have split := split_on_mem inside
  rw [← shape, String.toList_ofList]
  exact ⟨split.1, fun nul => clean (split.2 _ nul)⟩

theorem follow_proper {names : List String} {name : String}
    (proper : ∀ other ∈ names, Proper other) (clean : '/' ∉ name.toList ∧ '\x00' ∉ name.toList) :
    ∀ other ∈ follow names name, Proper other := by
  intro other member
  rw [follow] at member
  split at member
  · exact proper other member
  · rename_i shown
    rw [not_or] at shown
    split at member
    · exact proper other (List.dropLast_subset _ member)
    · rename_i climbs
      rcases List.mem_append.mp member with old | new
      · exact proper other old
      · rw [List.mem_singleton.mp new]
        exact ⟨shown.1, shown.2, climbs, clean⟩

theorem follow_all_proper {parts names : List String} (proper : ∀ other ∈ names, Proper other)
    (clean : ∀ part ∈ parts, '/' ∉ part.toList ∧ '\x00' ∉ part.toList) :
    ∀ other ∈ parts.foldl follow names, Proper other := by
  induction parts generalizing names with
  | nil => exact proper
  | cons part rest ih =>
      rw [List.forall_mem_cons] at clean
      exact ih (follow_proper proper clean.1) clean.2

def realpath (base : Path) (text : String) : Option Path :=
  if clean : '\x00' ∉ text.toList then
    some {
      names := (components text).foldl follow (if text.toList.head? = some '/' then [] else base.names)
      proper := by
        apply follow_all_proper
        · split
          · exact fun _ member => absurd member List.not_mem_nil
          · exact base.proper
        · exact fun part member => components_clean clean member }
  else none

theorem follow_names {names rest : List String} (proper : ∀ name ∈ rest, Proper name) :
    rest.foldl follow names = names ++ rest := by
  induction rest generalizing names with
  | nil => simp
  | cons name rest ih =>
      rw [List.forall_mem_cons] at proper
      have step : follow names name = names ++ [name] := by
        rw [follow, if_neg (not_or.mpr ⟨proper.1.1, proper.1.2.1⟩), if_neg proper.1.2.2.1]
      rw [List.foldl_cons, step, ih proper.2, List.append_assoc, List.singleton_append]

theorem text_to_list (path : Path) :
    path.text.toList = '/' :: ['/'].intercalate (path.names.map String.toList) := by
  rw [Path.text, String.toList_append, String.toList_intercalate]
  rfl

theorem components_text (path : Path) (below : path.names ≠ []) :
    components path.text = "" :: path.names := by
  have apart : ∀ part ∈ path.names.map String.toList, '/' ∉ part := by
    intro part member
    obtain ⟨name, inside, shape⟩ := List.mem_map.mp member
    rw [← shape]
    exact (path.proper name inside).2.2.2.1
  have split := List.splitOn_intercalate '/' apart (by simpa using below)
  rw [components, text_to_list, List.splitOn_eq_splitOnP, List.splitOnP_cons_eq_if_modifyHead,
    if_pos (by simp), ← List.splitOn_eq_splitOnP, split, List.map_cons, List.map_map]
  have same : String.ofList ∘ String.toList = id := by
    funext name
    exact String.ofList_toList
  rw [same, List.map_id]

theorem mem_intercalate {Item : Type} {separator item : Item} {parts : List (List Item)}
    (member : item ∈ [separator].intercalate parts) :
    item = separator ∨ ∃ part ∈ parts, item ∈ part := by
  induction parts with
  | nil => cases member
  | cons first rest ih =>
      cases rest with
      | nil =>
          rw [List.intercalate_singleton] at member
          exact .inr ⟨first, List.mem_cons_self, member⟩
      | cons second others =>
          rw [List.intercalate_cons_cons, List.mem_append, List.mem_append, List.mem_singleton]
            at member
          rcases member with (inside | same) | later
          · exact .inr ⟨first, List.mem_cons_self, inside⟩
          · exact .inl same
          · rcases ih later with same | ⟨part, among, inside⟩
            · exact .inl same
            · exact .inr ⟨part, List.mem_cons_of_mem first among, inside⟩

theorem text_clean (path : Path) : '\x00' ∉ path.text.toList := by
  rw [text_to_list, List.mem_cons, not_or]
  constructor
  · decide
  · intro inside
    rcases mem_intercalate inside with separator | ⟨part, member, inside⟩
    · revert separator
      decide
    · obtain ⟨name, member, shape⟩ := List.mem_map.mp member
      rw [← shape] at inside
      exact (path.proper name member).2.2.2.2 inside

theorem realpath_text (base path : Path) : realpath base path.text = some path := by
  have absolute : path.text.toList.head? = some '/' := by
    rw [text_to_list]
    rfl
  have names : (components path.text).foldl follow
      (if path.text.toList.head? = some '/' then [] else base.names) = path.names := by
    rw [if_pos absolute]
    by_cases below : path.names = []
    · rw [Path.text, below]
      decide
    · rw [components_text path below, List.foldl_cons]
      exact (follow_names path.proper).trans (List.nil_append _)
  rw [realpath, dif_pos (text_clean path)]
  exact congrArg some (Path.ext names)

end Resolving

section TextMode

def universalNewlines : List Char → List Char
  | [] => []
  | '\r' :: '\n' :: rest => '\n' :: universalNewlines rest
  | '\r' :: rest => '\n' :: universalNewlines rest
  | head :: rest => head :: universalNewlines rest

/-- A file as read in text mode; `none` is a `UnicodeError`. -/
def decode (bytes : ByteArray) : Option String :=
  (String.fromUTF8? bytes).map fun text => String.ofList (universalNewlines text.toList)

def encode (text : String) : ByteArray := text.toUTF8

def carriageReturn (bytes : ByteArray) : Bool :=
  match String.fromUTF8? bytes with
  | some text => decide ('\r' ∈ text.toList)
  | none => false

theorem universal_newlines_clean (text : List Char) : '\r' ∉ universalNewlines text := by
  fun_induction universalNewlines text with
  | case1 => exact List.not_mem_nil
  | case2 rest ih => simp [ih]
  | case3 rest _ ih => simp [ih]
  | case4 head rest _ other ih =>
      have apart : '\r' ≠ head := fun equal => other equal.symm
      simp [ih, apart]

theorem universal_newlines_fixed {text : List Char} (clean : '\r' ∉ text) :
    universalNewlines text = text := by
  fun_induction universalNewlines text with
  | case1 => rfl
  | case2 rest ih => exact absurd List.mem_cons_self clean
  | case3 rest _ ih => exact absurd List.mem_cons_self clean
  | case4 head rest _ other ih =>
      rw [List.mem_cons, not_or] at clean
      rw [ih clean.2]

theorem from_utf8_encode (text : String) : String.fromUTF8? (encode text) = some text := by
  have valid : (encode text).IsValidUTF8 := text.isValidUTF8
  rw [String.fromUTF8?, dif_pos valid]
  rfl

theorem encode_from_utf8 {bytes : ByteArray} {text : String}
    (read : String.fromUTF8? bytes = some text) : encode text = bytes := by
  rw [String.fromUTF8?] at read
  split at read
  · cases read
    rfl
  · cases read

theorem encode_injective {left right : String} (same : encode left = encode right) :
    left = right := by
  have read := from_utf8_encode left
  rw [same, from_utf8_encode] at read
  exact (Option.some.inj read).symm

/-- Writing back what was read is exact if and only if no line ends in a
carriage return. -/
theorem encode_decode_iff {bytes : ByteArray} {text : String} (read : decode bytes = some text) :
    encode text = bytes ↔ carriageReturn bytes = false := by
  rw [decode, Option.map_eq_some_iff] at read
  obtain ⟨raw, valid, shape⟩ := read
  rw [carriageReturn, valid, decide_eq_false_iff_not, ← encode_from_utf8 valid]
  constructor
  · intro same
    have fixed := encode_injective same
    rw [← fixed, ← shape, String.toList_ofList]
    exact universal_newlines_clean _
  · intro clean
    rw [universal_newlines_fixed clean, String.ofList_toList] at shape
    rw [shape]

end TextMode

instance bytesEq : DecidableEq ByteArray := ByteArray.instDecidableEq

inductive Node where
  | file (bytes : ByteArray)
  | directory
  deriving DecidableEq

def Node.bytes? : Node → Option ByteArray
  | .file bytes => some bytes
  | .directory => none

/-- Every node lies in a directory. -/
structure Tree where
  node : Path → Option Node
  rooted : node .root = some .directory
  inside : ∀ path, (node path).isSome → node path.parent = some .directory

def Tree.bare : Tree where
  node := fun path => if path = .root then some .directory else none
  rooted := if_pos rfl
  inside := by
    intro path present
    split at present
    · rename_i top
      rw [top]
      exact if_pos rfl
    · cases present

/-- Why the operating system refuses a call. -/
inductive Errno where
  | noEntry
  | isDirectory
  | notDirectory
  | other (code : Nat)
  deriving DecidableEq

namespace Tree

def file? (tree : Tree) (path : Path) : Option ByteArray :=
  (tree.node path).bind Node.bytes?

def blocked (tree : Tree) (dir : Path) : Bool :=
  (List.range (dir.names.length + 1)).any fun count => (tree.file? (dir.take count)).isSome

theorem parent_contains {path dir : Path} (above : path.contains dir = true) :
    path.parent.contains dir = true := by
  rw [Path.contains, List.isPrefixOf_iff_prefix] at above ⊢
  exact (List.dropLast_prefix _).trans above

/-- `os.makedirs` with `exist_ok`. -/
def makedirs (tree : Tree) (dir : Path) : Except Errno Unit × Tree :=
  if tree.blocked dir then (.error .notDirectory, tree)
  else (.ok (), {
    node := fun path => if path.contains dir then some .directory else tree.node path
    rooted := by
      rw [tree.rooted, ite_self]
    inside := by
      intro path present
      by_cases above : path.contains dir = true
      · rw [if_pos (parent_contains above)]
      · rw [if_neg above] at present
        rw [tree.inside path present, ite_self] })

/-- A temporary file in the directory of the path, filled and moved there with
`os.replace`. -/
def replace (tree : Tree) (path : Path) (bytes : ByteArray) : Except Errno Unit × Tree :=
  if placed : tree.node path.parent = some .directory then
    if free : tree.node path = some .directory then (.error .isDirectory, tree)
    else (.ok (), {
      node := Function.update tree.node path (some (.file bytes))
      rooted := by
        have apart : Path.root ≠ path := fun equal => free (equal ▸ tree.rooted)
        rw [Function.update_of_ne apart, tree.rooted]
      inside := by
        intro other present
        by_cases own : other = path
        · have apart : other.parent ≠ path := by
            intro equal
            exact free (equal ▸ own ▸ placed)
          rw [Function.update_of_ne apart, own, placed]
        · rw [Function.update_of_ne own] at present
          have parent := tree.inside other present
          have apart : other.parent ≠ path := fun equal => free (equal ▸ parent)
          rw [Function.update_of_ne apart, parent] })
  else (.error (if tree.node path.parent = none then .noEntry else .notDirectory), tree)

def remove (tree : Tree) (path : Path) : Except Errno Unit × Tree :=
  match found : tree.node path with
  | some (.file _) =>
      (.ok (), {
        node := Function.update tree.node path none
        rooted := by
          have apart : Path.root ≠ path := by
            intro equal
            rw [← equal, tree.rooted] at found
            cases found
          rw [Function.update_of_ne apart, tree.rooted]
        inside := by
          intro other present
          have own : other ≠ path := by
            intro equal
            rw [equal, Function.update_self] at present
            cases present
          rw [Function.update_of_ne own] at present
          have parent := tree.inside other present
          have apart : other.parent ≠ path := by
            intro equal
            rw [equal, found] at parent
            cases parent
          rw [Function.update_of_ne apart, parent] })
  | some .directory => (.error .isDirectory, tree)
  | none => (.error .noEntry, tree)

end Tree

/-- The calls of the operating system. -/
inductive Call where
  | makedirs (dir : Path)
  /-- `os.path.isfile`. -/
  | isFile (path : Path)
  /-- `os.path.exists`. -/
  | present (path : Path)
  /-- The bytes of a file. -/
  | read (path : Path)
  | replace (path : Path) (bytes : ByteArray)
  | remove (path : Path)

namespace Call

abbrev Answer : Call → Type
  | isFile _ => Bool
  | present _ => Bool
  | read _ => ByteArray
  | _ => Unit

end Call

abbrev face : Interface := ⟨Call, Call.Answer, Errno⟩

namespace Call

def carry : (call : Call) → Tree → Except Errno call.Answer × Tree
  | makedirs dir, tree => tree.makedirs dir
  | isFile path, tree => (.ok (tree.file? path).isSome, tree)
  | present path, tree => (.ok (tree.node path).isSome, tree)
  | read path, tree =>
      match tree.node path with
      | some (.file bytes) => (.ok bytes, tree)
      | some .directory => (.error .isDirectory, tree)
      | none => (.error .noEntry, tree)
  | replace path bytes, tree => tree.replace path bytes
  | remove path, tree => tree.remove path

def serve (failing : Call → Option Errno) (call : Call) (tree : Tree) :
    Except Errno call.Answer × Tree :=
  match call with
  | isFile path => (isFile path).carry tree
  | present path => (present path).carry tree
  | other =>
      match failing other with
      | some errno => (.error errno, tree)
      | none => other.carry tree

end Call

section Laws

variable {tree : Tree}

theorem file_some {path : Path} {bytes : ByteArray} :
    tree.file? path = some bytes ↔ tree.node path = some (.file bytes) := by
  rw [Tree.file?, Option.bind_eq_some_iff]
  constructor
  · rintro ⟨node, found, held⟩
    cases node with
    | file other =>
        cases held
        exact found
    | directory => cases held
  · intro found
    exact ⟨_, found, rfl⟩

theorem contains_take {path dir : Path} (above : path.contains dir = true) :
    path = dir.take path.names.length ∧ path.names.length ≤ dir.names.length := by
  rw [Path.contains, List.isPrefixOf_iff_prefix] at above
  exact ⟨Path.ext (List.prefix_iff_eq_take.mp above), above.length_le⟩

theorem makedirs_files (tree : Tree) (dir : Path) : (tree.makedirs dir).2.file? = tree.file? := by
  rw [Tree.makedirs]
  split
  · rfl
  · rename_i clear
    funext path
    change (if path.contains dir = true then some Node.directory else tree.node path).bind
      Node.bytes? = tree.file? path
    by_cases above : path.contains dir = true
    · have place := contains_take above
      have absent : tree.file? path = none := by
        rw [place.1, ← Option.not_isSome_iff_eq_none]
        intro standing
        apply clear
        rw [Tree.blocked, List.any_eq_true]
        exact ⟨path.names.length, List.mem_range.mpr (by omega), standing⟩
      rw [if_pos above, absent]
      rfl
    · rw [if_neg above, Tree.file?]

theorem update_files {after : Tree} {path : Path} {node : Option Node} {held : Option ByteArray}
    (changed : after.node = Function.update tree.node path node)
    (holds : node.bind Node.bytes? = held) :
    after.file? = Function.update tree.file? path held := by
  funext other
  rw [Tree.file?, changed]
  by_cases own : other = path
  · rw [own, Function.update_self, Function.update_self, holds]
  · rw [Function.update_of_ne own, Function.update_of_ne own, Tree.file?]

/-- A replacement fails and changes nothing, or sets the bytes of one file. -/
theorem replace_cases (tree : Tree) (path : Path) (bytes : ByteArray) :
    (∃ errno, tree.replace path bytes = (.error errno, tree)) ∨
      ∃ after, tree.replace path bytes = (.ok (), after) ∧
        after.file? = Function.update tree.file? path (some bytes) := by
  rw [Tree.replace]
  split
  · split
    · exact .inl ⟨_, rfl⟩
    · exact .inr ⟨_, rfl, update_files rfl rfl⟩
  · exact .inl ⟨_, rfl⟩

theorem remove_cases (tree : Tree) (path : Path) :
    (∃ errno, tree.remove path = (.error errno, tree)) ∨
      ∃ after, tree.remove path = (.ok (), after) ∧
        after.file? = Function.update tree.file? path none := by
  rw [Tree.remove]
  split
  · exact .inr ⟨_, rfl, update_files rfl rfl⟩
  · exact .inl ⟨_, rfl⟩
  · exact .inl ⟨_, rfl⟩

theorem above_directory {path other : Path} (present : (tree.node other).isSome)
    (above : path.contains other = true) (apart : path ≠ other) :
    tree.node path = some .directory := by
  rw [Path.contains, List.isPrefixOf_iff_prefix] at above
  induction length : other.names.length generalizing other with
  | zero =>
      have empty := List.eq_nil_of_length_eq_zero length
      rw [empty, List.prefix_nil] at above
      exact absurd (Path.ext (above.trans empty.symm)) apart
  | succ count ih =>
      have parent := tree.inside other present
      by_cases own : path = other.parent
      · rw [own, parent]
      · have shorter : other.parent.names.length = count := by
          rw [Path.parent, List.length_dropLast, length]
          rfl
        have within : path.names <+: other.parent.names := by
          rw [List.prefix_iff_eq_take] at above ⊢
          have strict : path.names.length < other.names.length := by
            rcases Nat.lt_or_ge path.names.length other.names.length with less | more
            · exact less
            · rw [List.take_of_length_le more] at above
              exact absurd (Path.ext above) apart
          change path.names = other.names.dropLast.take path.names.length
          rw [List.dropLast_eq_take, List.take_take, Nat.min_eq_left (by omega)]
          exact above
        exact ih (by rw [parent]; rfl) within own shorter

theorem makedirs_standing {dir : Path} (standing : tree.node dir = some .directory) :
    tree.makedirs dir = (.ok (), tree) := by
  have inside : ∀ path : Path, path.contains dir = true → tree.node path = some .directory := by
    intro path above
    by_cases own : path = dir
    · rw [own, standing]
    · exact above_directory (by rw [standing]; rfl) above own
  have clear : ¬tree.blocked dir = true := by
    rw [Tree.blocked, List.any_eq_true]
    rintro ⟨count, _, file⟩
    have above : (dir.take count).contains dir = true := by
      rw [Path.contains, List.isPrefixOf_iff_prefix]
      exact List.take_prefix _ _
    rw [Tree.file?, inside _ above] at file
    cases file
  have same : (fun path : Path => if path.contains dir then some Node.directory
      else tree.node path) = tree.node := by
    funext path
    split
    · exact (inside path ‹_›).symm
    · rfl
  rw [Tree.makedirs, if_neg clear]
  congr 1
  cases tree
  simp only at same
  simp only [same]

theorem makedirs_makes {dir : Path} (clear : tree.blocked dir = false) :
    (tree.makedirs dir).2.node dir = some .directory := by
  rw [Tree.makedirs, if_neg (by simp [clear])]
  exact if_pos (List.isPrefixOf_iff_prefix.mpr (List.prefix_refl _))

theorem replace_places {path : Path} (bytes : ByteArray)
    (placed : tree.node path.parent = some .directory) (free : tree.node path ≠ some .directory) :
    ∃ after, tree.replace path bytes = (.ok (), after) ∧
      after.file? = Function.update tree.file? path (some bytes) := by
  rw [Tree.replace, dif_pos placed, dif_neg free]
  exact ⟨_, rfl, update_files rfl rfl⟩

theorem remove_file {path : Path} {bytes : ByteArray} (held : tree.file? path = some bytes) :
    ∃ after, tree.remove path = (.ok (), after) ∧
      after.file? = Function.update tree.file? path none := by
  have found := file_some.mp held
  rw [Tree.remove]
  split
  · exact ⟨_, rfl, update_files rfl rfl⟩
  · rename_i directory
    rw [found] at directory
    cases directory
  · rename_i absent
    rw [found] at absent
    cases absent

def Call.changes : Call → Bool
  | .replace _ _ => true
  | .remove _ => true
  | _ => false

theorem serve_files (failing : Call → Option Errno) {request : Call}
    (quiet : request.changes = false) (tree : Tree) :
    (Call.serve failing request tree).2.file? = tree.file? := by
  cases request with
  | makedirs dir =>
      simp only [Call.serve]
      split
      · rfl
      · exact makedirs_files tree dir
  | read path =>
      simp only [Call.serve]
      split
      · rfl
      · rw [Call.carry]
        split <;> rfl
  | isFile path => rfl
  | present path => rfl
  | replace path bytes => cases quiet
  | remove path => cases quiet

/-- A replace fails and changes nothing, or sets the bytes of the file. -/
theorem serve_replace (failing : Call → Option Errno) (path : Path) (bytes : ByteArray)
    (tree : Tree) :
    (∃ errno, Call.serve failing (.replace path bytes) tree = (.error errno, tree)) ∨
      ∃ after, Call.serve failing (.replace path bytes) tree = (.ok (), after) ∧
        after.file? = Function.update tree.file? path (some bytes) := by
  simp only [Call.serve]
  split
  · exact .inl ⟨_, rfl⟩
  · exact replace_cases tree path bytes

theorem parent_apart {path : Path} (below : path ≠ .root) : path.contains path.parent = false := by
  rw [← Bool.not_eq_true, Path.contains, List.isPrefixOf_iff_prefix]
  intro within
  have shorter := within.length_le
  have filled : path.names ≠ [] := fun empty => below (Path.ext empty)
  have positive := List.length_pos_of_ne_nil filled
  rw [Path.parent, List.length_dropLast] at shorter
  omega

def Tree.holding (path : Path) (bytes : ByteArray) : Tree :=
  ((Tree.bare.makedirs path.parent).2.replace path bytes).2

theorem holding_file {path : Path} (below : path ≠ .root) (bytes : ByteArray) :
    (Tree.holding path bytes).file? path = some bytes := by
  have clear : Tree.bare.blocked path.parent = false := by
    rw [← Bool.not_eq_true, Tree.blocked, List.any_eq_true]
    rintro ⟨count, _, file⟩
    rw [Tree.file?, Tree.bare] at file
    simp only at file
    split at file <;> cases file
  have placed := makedirs_makes clear
  have free : (Tree.bare.makedirs path.parent).2.node path ≠ some .directory := by
    rw [Tree.makedirs, if_neg (by simp [clear])]
    simp [parent_apart below, Tree.bare, below]
  obtain ⟨after, done, changed⟩ := replace_places bytes placed free
  rw [Tree.holding, done, changed, Function.update_self]

end Laws

section Directories

variable {path : Path} {before after : Tree}

structure Grown (path : Path) (before after : Tree) : Prop where
  keeps : ∀ dir, before.node dir = some .directory → after.node dir = some .directory
  limited : ∀ dir, after.node dir = some .directory →
    before.node dir = some .directory ∨ dir.contains path.parent = true

theorem grown_refl (path : Path) (tree : Tree) : Grown path tree tree :=
  ⟨fun _ standing => standing, fun _ standing => .inl standing⟩

theorem Grown.trans {last : Tree} (first : Grown path before after)
    (second : Grown path after last) : Grown path before last := by
  constructor
  · exact fun dir standing => second.keeps dir (first.keeps dir standing)
  · intro dir standing
    rcases second.limited dir standing with there | above
    · exact first.limited dir there
    · exact .inr above

/-- A node that is no directory may change to one that is none. -/
theorem grown_update {other : Path} {node : Option Node}
    (changed : after.node = Function.update before.node other node)
    (was : before.node other ≠ some .directory) (becomes : node ≠ some .directory) :
    Grown path before after := by
  constructor
  · intro dir standing
    have apart : dir ≠ other := fun same => was (same ▸ standing)
    rw [changed, Function.update_of_ne apart]
    exact standing
  · intro dir standing
    by_cases own : dir = other
    · rw [changed, own, Function.update_self] at standing
      exact absurd standing becomes
    · rw [changed, Function.update_of_ne own] at standing
      exact .inl standing

/-- A call that makes no directories but those for the path. -/
def Call.Near (path : Path) : Call → Prop
  | .makedirs dir => dir = path.parent
  | _ => True

theorem carry_grown {request : Call} (near : request.Near path) (tree : Tree) :
    Grown path tree (request.carry tree).2 := by
  cases request with
  | makedirs dir =>
      obtain rfl : dir = path.parent := near
      rw [Call.carry, Tree.makedirs]
      split
      · exact grown_refl _ _
      · constructor
        · intro other standing
          dsimp only
          split
          · rfl
          · exact standing
        · intro other standing
          dsimp only at standing
          split at standing
          · exact .inr ‹_›
          · exact .inl standing
  | isFile other => exact grown_refl _ _
  | present other => exact grown_refl _ _
  | read other =>
      rw [Call.carry]
      split <;> exact grown_refl _ _
  | replace other bytes =>
      rw [Call.carry, Tree.replace]
      split
      · split
        · exact grown_refl _ _
        · rename_i free
          exact grown_update rfl free (by rintro ⟨⟩)
      · exact grown_refl _ _
  | remove other =>
      rw [Call.carry, Tree.remove]
      split
      · rename_i bytes found
        exact grown_update rfl (by rw [found]; rintro ⟨⟩) (by rintro ⟨⟩)
      · exact grown_refl _ _
      · exact grown_refl _ _

theorem serve_grown (failing : Call → Option Errno) {request : Call} (near : request.Near path)
    (tree : Tree) : Grown path tree (Call.serve failing request tree).2 := by
  have carried := carry_grown near tree
  cases request with
  | isFile other => exact carried
  | present other => exact carried
  | _ =>
      simp only [Call.serve]
      split
      · exact grown_refl _ _
      · exact carried

/-- A path that is not on the way to another one does not become a directory. -/
theorem Grown.spares {other : Path} (grown : Grown path before after) (below : other ≠ .root)
    (apart : other.contains path = true → other = path)
    (free : before.node other ≠ some .directory) : after.node other ≠ some .directory := by
  intro standing
  rcases grown.limited other standing with there | above
  · exact free there
  · have within : other.contains path = true := by
      rw [Path.contains, List.isPrefixOf_iff_prefix] at above ⊢
      exact above.trans (List.dropLast_prefix _)
    obtain rfl := apart within
    rw [parent_apart below] at above
    cases above

end Directories

end FileTree
