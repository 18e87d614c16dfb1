import Mathlib.Data.Char
import Mathlib.Data.List.Lex
import SpiceKit.Proofs.Disk.Write
import SpiceKit.Proofs.Source.Lines

/-!
# Trees as a disk holds them

The type of trees admits more than a disk does: two entries of one name, entries out of order, names
with slashes in them. A tree is `Proper` if it has none of that. Then an entry is found by its name
exactly when it is there (`Node.find?_eq_some_iff`), a node that is put over another one takes its
place among the entries (`Node.exists_split_of_find?`), and **the written path of some names says
which names they are** (`Path.joinNames_inj`).
-/

set_option autoImplicit false

namespace SpiceKit

/-! ## Names -/

namespace Path

/-- A name that a disk can hold: it is not empty, neither of the two names for folders on the way,
holds no slash and no NUL, and is not too long. `Node.Proper` asks it of every entry. -/
structure IsName (name : List Char) : Prop where
  nonempty : name ≠ []
  not_here : name ≠ ['.']
  not_up : name ≠ ['.', '.']
  no_slash : '/' ∉ name
  no_null : '\x00' ∉ name
  short : Disk.exceeds Disk.nameLimit name = false

theorem isName_iff {name : List Char} :
    IsName name ↔ name ≠ [] ∧ name ≠ ['.'] ∧ name ≠ ['.', '.'] ∧ '/' ∉ name ∧ '\x00' ∉ name ∧
      Disk.exceeds Disk.nameLimit name = false :=
  ⟨fun ⟨h₁, h₂, h₃, h₄, h₅, h₆⟩ => ⟨h₁, h₂, h₃, h₄, h₅, h₆⟩,
    fun ⟨h₁, h₂, h₃, h₄, h₅, h₆⟩ => ⟨h₁, h₂, h₃, h₄, h₅, h₆⟩⟩

instance (name : List Char) : Decidable (IsName name) := decidable_of_iff' _ isName_iff

@[simp] theorem below_nil (path : Path) : path.below [] = path := by
  simp [below]

@[simp] theorem below_below (path : Path) (names names' : List (List Char)) :
    (path.below names).below names' = path.below (names ++ names') := by
  simp [below]

theorem parent_below_name {path : Path} (hne : path.names ≠ []) :
    path.parent.below [path.name] = path := by
  obtain ⟨start, names⟩ := path
  unfold below parent name
  rw [List.getLast?_eq_some_getLast hne, Option.getD_some, List.dropLast_append_getLast hne]

theorem joinNames_singleton (name : List Char) : joinNames [name] = name := by
  unfold joinNames
  rw [List.intercalate_singleton]

theorem joinNames_cons_cons (first second : List Char) (names : List (List Char)) :
    joinNames (first :: second :: names) = first ++ '/' :: joinNames (second :: names) := by
  unfold joinNames
  rw [List.intercalate_cons_cons, List.append_assoc]
  rfl

theorem split_joinNames {names : List (List Char)} (hne : names ≠ [])
    (h : ∀ name ∈ names, '/' ∉ name) : Text.split '/' (joinNames names) = names := by
  induction names with
  | nil => exact absurd rfl hne
  | cons first names ih =>
    obtain ⟨hfirst, hnames⟩ := List.forall_mem_cons.mp h
    cases names with
    | nil =>
      rw [joinNames_singleton]
      exact Text.split_of_not_mem hfirst
    | cons second names =>
      rw [joinNames_cons_cons, Text.split_append hfirst, ih (by simp) hnames]

/-- **A written path says which names it is made of.** Files of a walk have different paths for this
reason (`path_injOn`). -/
theorem joinNames_inj {names names' : List (List Char)} (hne : names ≠ []) (hne' : names' ≠ [])
    (h : ∀ name ∈ names, '/' ∉ name) (h' : ∀ name ∈ names', '/' ∉ name)
    (hsame : joinNames names = joinNames names') : names = names' := by
  rw [← split_joinNames hne h, hsame, split_joinNames hne' h']

end Path

/-! ## Trees -/

namespace Node

/-- A tree that a disk can hold: the entries of every folder stand in strict order of their names,
and these are names. Results on all files of a tree ask for it; on other trees a name could stand
twice, and only the first entry would be found. -/
inductive Proper : Node → Prop
  | file (bytes : List UInt8) : Proper (.file bytes)
  | folder {entries : List (List Char × Node)} (sorted : entries.Pairwise fun a b => a.1 < b.1)
      (named : ∀ entry ∈ entries, Path.IsName entry.1) (inner : ∀ entry ∈ entries, Proper entry.2) :
      Proper (.folder entries)

variable {name : List Char} {node : Node} {entries : List (List Char × Node)}

theorem Proper.sorted (h : Proper (.folder entries)) : entries.Pairwise fun a b => a.1 < b.1 := by
  cases h with
  | folder sorted _ _ => exact sorted

theorem Proper.isName (h : Proper (.folder entries)) (hmem : (name, node) ∈ entries) :
    Path.IsName name := by
  cases h with
  | folder _ named _ => exact named _ hmem

theorem Proper.of_mem (h : Proper (.folder entries)) (hmem : (name, node) ∈ entries) :
    node.Proper := by
  cases h with
  | folder _ _ inner => exact inner _ hmem

theorem exists_split_of_find?_eq_some (h : find? name entries = some node) :
    ∃ front back, entries = front ++ (name, node) :: back ∧ ∀ entry ∈ front, entry.1 ≠ name := by
  induction entries with
  | nil => cases h
  | cons entry entries ih =>
    rw [find?] at h
    split at h
    · rename_i heq
      refine ⟨[], entries, ?_, by simp⟩
      rw [← heq, ← Option.some.inj h]
      rfl
    · rename_i hne
      obtain ⟨front, back, rfl, hfront⟩ := ih h
      exact ⟨entry :: front, back, rfl, List.forall_mem_cons.mpr ⟨hne, hfront⟩⟩

theorem mem_of_find? (h : find? name entries = some node) : (name, node) ∈ entries := by
  obtain ⟨front, back, rfl, -⟩ := exists_split_of_find?_eq_some h
  simp

theorem find?_append (name : List Char) (front back : List (List Char × Node)) :
    find? name (front ++ back) = (find? name front).or (find? name back) := by
  induction front with
  | nil => rfl
  | cons entry front ih =>
    rw [List.cons_append, find?, find?]
    split
    · rfl
    · exact ih

/-! ## Putting further down -/

theorem put_file {names : List (List Char)} (hne : names ≠ []) (bytes : List UInt8) (target : Node) :
    (file bytes).put names target = file bytes := by
  obtain ⟨name, names, rfl⟩ := List.exists_cons_of_ne_nil hne
  rw [put]

theorem put_folder_of_none {names : List (List Char)} (hfind : find? name entries = none)
    (hne : names ≠ []) (target : Node) :
    (folder entries).put (name :: names) target = folder entries := by
  obtain ⟨next, names, rfl⟩ := List.exists_cons_of_ne_nil hne
  simp only [put, hfind]

theorem isFile_put (node : Node) {names : List (List Char)} (hne : names ≠ []) (target : Node) :
    (node.put names target).isFile = node.isFile := by
  obtain ⟨name, names, rfl⟩ := List.exists_cons_of_ne_nil hne
  cases node with
  | file bytes => rw [put]
  | folder entries =>
    obtain ⟨entries', hput, -⟩ := exists_put_folder entries name names target
    rw [hput]
    rfl

theorem isFolder_eq (node : Node) : node.isFolder = !node.isFile := by
  cases node <;> rfl

/-! ## Entries of a proper folder -/

/-- **In a proper folder, the entries are what is found by name.** In other folders `find?` stops at
the first entry of a name. -/
theorem find?_eq_some_iff (h : Proper (.folder entries)) :
    find? name entries = some node ↔ (name, node) ∈ entries := by
  constructor
  · exact mem_of_find?
  · intro hmem
    have hsorted := h.sorted
    clear h
    induction entries with
    | nil => cases hmem
    | cons entry entries ih =>
      obtain ⟨hfirst, hsorted⟩ := List.pairwise_cons.mp hsorted
      rw [find?]
      rcases List.mem_cons.mp hmem with rfl | hmem
      · rw [if_pos rfl]
      · rw [if_neg (hfirst _ hmem).ne]
        exact ih hmem hsorted

/-- **What is put over an entry takes its place.** `putEntry` then changes one entry of the list and
moves none. -/
theorem exists_split_of_find? (h : Proper (.folder entries)) {old : Node}
    (hold : find? name entries = some old) (new : Node) :
    ∃ front back, entries = front ++ (name, old) :: back ∧
      putEntry name new entries = front ++ (name, new) :: back := by
  obtain ⟨front, back, rfl, hfront⟩ := exists_split_of_find?_eq_some hold
  refine ⟨front, back, rfl, ?_⟩
  have hsorted := h.sorted
  clear h hold
  induction front with
  | nil =>
    rw [List.nil_append, putEntry, if_neg (lt_irrefl name), if_pos rfl]
    rfl
  | cons entry front ih =>
    obtain ⟨hfirst, hsorted⟩ := List.pairwise_cons.mp hsorted
    obtain ⟨hne, hfront⟩ := List.forall_mem_cons.mp hfront
    have hlt : entry.1 < name := hfirst (name, old) (by simp)
    rw [List.cons_append, putEntry, if_neg hlt.asymm, if_neg hne, ih hfront hsorted]
    rfl

theorem put_folder_of_file (h : Proper (.folder entries)) {bytes : List UInt8}
    (hfind : find? name entries = some (.file bytes)) {names : List (List Char)} (hne : names ≠ [])
    (target : Node) : (folder entries).put (name :: names) target = folder entries := by
  obtain ⟨front, back, rfl, hput⟩ := exists_split_of_find? h hfind (.file bytes)
  rw [put_folder_cons hfind, put_file hne, hput]

theorem Proper.isName_of_get? {tree target : Node} {names : List (List Char)} (h : tree.Proper)
    (hget : tree.get? names = some target) : ∀ name ∈ names, Path.IsName name := by
  induction names generalizing tree with
  | nil => nofun
  | cons first names ih =>
    cases tree with
    | file bytes => simp [get?] at hget
    | folder entries =>
      rw [get?, Option.bind_eq_some_iff] at hget
      obtain ⟨inner, hfirst, hget⟩ := hget
      have hmem := mem_of_find? hfirst
      exact List.forall_mem_cons.mpr ⟨h.isName hmem, ih (h.of_mem hmem) hget⟩

end Node
end SpiceKit
