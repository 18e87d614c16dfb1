import SpiceKit.Proofs.Disk.Reading
import SpiceKit.Proofs.Disk.Tree

/-!
# What is found below a path

A path leads to a folder, and names lead on from there to a file. The path of all these names
together leads to that file, since the names that a tree holds neither go up again nor are too long
(`Disk.place_below`); only the whole of it may be too long in writing. So a file that is known from
the tree is also what is found at its path, and what is read there (`Disk.find_below`,
`Disk.readText_below`).

The bytes of such a file can be changed in place (`Disk.withBytes`). Its path, and that of every
other file, lead where they did, and **the other files are as they were** (`Disk.find_withBytes`,
`Node.get?_put_file_of_ne`).
-/

set_option autoImplicit false

namespace SpiceKit

/-! ## Trees -/

namespace Node

variable {tree node target : Node} {place names other : List (List Char)}

theorem get?_append (tree : Node) (place names : List (List Char)) :
    tree.get? (place ++ names) = (tree.get? place).bind fun node => node.get? names := by
  induction place generalizing tree with
  | nil => rw [List.nil_append, get?, Option.bind_some]
  | cons name place ih =>
    cases tree with
    | file bytes => rfl
    | folder entries =>
      rw [List.cons_append, get?, get?]
      cases find? name entries with
      | none => rfl
      | some inner => exact ih inner

theorem get?_put_append (hnode : tree.get? place = some node) :
    (tree.put (place ++ names) target).get? place = some (node.put names target) := by
  induction place generalizing tree with
  | nil =>
    obtain rfl := Option.some.inj hnode
    rw [List.nil_append, get?]
  | cons name place ih =>
    cases tree with
    | file bytes => cases hnode
    | folder entries =>
      rw [get?, Option.bind_eq_some_iff] at hnode
      obtain ⟨inner, hfind, hnode⟩ := hnode
      rw [List.cons_append, get?_put_folder_cons hfind]
      exact ih hnode

theorem not_folderAt_of_file {bytes : List UInt8} (h : tree.get? place = some (.file bytes)) :
    ¬ tree.FolderAt place := by
  rintro ⟨entries, hentries⟩
  cases h.symm.trans hentries

/-- **Other bytes in a file leave the other files as they were.** It is `standing?_put_of_ne` for
files. -/
theorem get?_put_file_of_ne {old bytes : List UInt8} (hold : tree.get? place = some (.file old))
    (hne : other ≠ place) (hfile : tree.get? other = some (.file bytes)) (new : List UInt8) :
    (tree.put place (.file new)).get? other = some (.file bytes) := by
  apply standing?_eq_file_iff.mp
  rw [standing?_put_of_ne (not_folderAt_of_file hold) (bare_file new) hne]
  exact standing?_eq_file_iff.mpr hfile

end Node

/-! ## Paths -/

namespace Disk

variable {disk : Disk} {path : Path} {root node : Node} {place names : List (List Char)}
  {bytes : List UInt8}

theorem find_eq_some_iff : disk.find path = .ok (some node) ↔
    ∃ place, disk.target path = .ok place ∧ disk.tree.get? place = some node := by
  unfold find target
  cases path.hasNull with
  | true => simp
  | false =>
    cases disk.place path with
    | error refusal =>
      cases hrefused : saysAbsent refusal with
      | true => simp [hrefused]
      | false => simp [hrefused]
    | ok place => simp

theorem follow_append {tree : Node} {start stop : List (List Char)} {names : List (List Char)}
    (h : follow tree start names = .ok stop) (rest : List (List Char)) :
    follow tree start (names ++ rest) = follow tree stop rest := by
  induction names generalizing start with
  | nil =>
    obtain rfl := Except.ok.inj h
    rfl
  | cons name names ih =>
    obtain ⟨⟨entries, hentries⟩, hrest⟩ := follow_cons_eq_ok.mp h
    rw [List.cons_append, follow, hentries]
    rcases hrest with ⟨hup, hrest⟩ | ⟨hname, hshort, hrest⟩
    · simp only [hup, if_true]
      exact ih hrest
    · simp only [hname, hshort, if_false, Bool.false_eq_true]
      exact ih hrest

theorem follow_of_get? {tree : Node} (hplace : tree.get? place = some root)
    (hnames : ∀ name ∈ names, Path.IsName name) (hget : root.get? names = some node) :
    follow tree place names = .ok (place ++ names) := by
  induction names generalizing place root with
  | nil => rw [follow, List.append_nil]
  | cons name names ih =>
    obtain ⟨hname, hrest⟩ := List.forall_mem_cons.mp hnames
    cases root with
    | file bytes => cases hget
    | folder entries =>
      rw [Node.get?, Option.bind_eq_some_iff] at hget
      obtain ⟨inner, hfind, hget⟩ := hget
      have hinner : tree.get? (place ++ [name]) = some inner := by
        rw [Node.get?_append, hplace, Option.bind_some, Node.get?, hfind, Option.bind_some, Node.get?]
      rw [← List.singleton_append, ← List.append_assoc, ← ih hinner hrest hget]
      rw [List.singleton_append, follow, hplace]
      simp only [hname.not_up, hname.short, if_false, Bool.false_eq_true]

/-- Whether the path of some names below another one is too long to be looked up. It is a matter of
how the path is written, and a file may be found by a walk and still be too far to be read.
`place_below` and what follows from it have this as their one exception. -/
def tooFar (path : Path) (names : List (List Char)) : Bool :=
  exceeds pathLimit (path.below names).toText

theorem hasNull_below (hnull : path.hasNull = false) (hnames : ∀ name ∈ names, Path.IsName name) :
    (path.below names).hasNull = false := by
  unfold Path.hasNull Path.below at *
  rw [List.any_append, hnull, Bool.false_or, List.any_eq_false]
  intro name hname
  simpa using (hnames name hname).no_null

theorem hasNull_of_find (h : disk.find path = .ok (some root)) : path.hasNull = false := by
  obtain ⟨place, htarget, -⟩ := find_eq_some_iff.mp h
  exact (target_eq_ok.mp htarget).1

/-- **The path of names below a folder leads to where they lead from there**, unless it is too long.
On the way there nothing is looked up but names, since `Path.below` adds no `..`. -/
theorem place_below (hroot : disk.find path = .ok (some root))
    (hnames : ∀ name ∈ names, Path.IsName name) (hget : root.get? names = some node) :
    disk.place (path.below names) =
      if tooFar path names then .error .tooLong else .ok (disk.lexicalPlace path ++ names) := by
  obtain ⟨place, htarget, hplace⟩ := find_eq_some_iff.mp hroot
  obtain ⟨-, -, hfollow⟩ := target_eq_ok.mp htarget
  have hwhole : follow disk.tree (disk.origin (path.below names)) (path.below names).names =
      .ok (place ++ names) := (follow_append hfollow names).trans (follow_of_get? hplace hnames hget)
  unfold Disk.place tooFar
  rw [hwhole, ← target_eq_lexicalPlace htarget]

theorem get?_lexicalPlace_append (hroot : disk.find path = .ok (some root))
    (hget : root.get? names = some node) :
    disk.tree.get? (disk.lexicalPlace path ++ names) = some node := by
  obtain ⟨place, htarget, hplace⟩ := find_eq_some_iff.mp hroot
  rw [← target_eq_lexicalPlace htarget, Node.get?_append, hplace, Option.bind_some, hget]

/-- **What names below a folder lead to is found at their path.** -/
theorem find_below (hroot : disk.find path = .ok (some root))
    (hnames : ∀ name ∈ names, Path.IsName name) (hget : root.get? names = some node) :
    disk.find (path.below names) =
      if tooFar path names then .error (faultAt (path.below names) .tooLong)
      else .ok (some node) := by
  have hplace := place_below hroot hnames hget
  unfold find
  rw [hasNull_below (hasNull_of_find hroot) hnames, hplace]
  cases tooFar path names with
  | true => rfl
  | false => exact congrArg Except.ok (get?_lexicalPlace_append hroot hget)

theorem read_below (hroot : disk.find path = .ok (some root))
    (hnames : ∀ name ∈ names, Path.IsName name) (hget : root.get? names = some (.file bytes)) :
    disk.read (path.below names) =
      if tooFar path names then .error (.system (faultAt (path.below names) .tooLong))
      else .ok bytes := by
  have hplace := place_below hroot hnames hget
  have hbytes := get?_lexicalPlace_append hroot hget
  unfold read target
  rw [hasNull_below (hasNull_of_find hroot) hnames, hplace]
  cases tooFar path names with
  | true => rfl
  | false =>
    simp only [Bool.false_eq_true, if_false, bind, Except.bind, hbytes]
    rfl

/-- **What is read at the path of a file is the text of its bytes.** `examine_of_mem` applies this
to the files of a walk. -/
theorem readText_below (hroot : disk.find path = .ok (some root))
    (hnames : ∀ name ∈ names, Path.IsName name) (hget : root.get? names = some (.file bytes)) :
    disk.readText (path.below names) =
      if tooFar path names then
        .error (.path (.system (faultAt (path.below names) .tooLong)))
      else (textOfBytes bytes).mapError .encoding := by
  unfold readText
  rw [read_below hroot hnames hget]
  cases tooFar path names with
  | true => rfl
  | false =>
    simp only [Bool.false_eq_true, if_false]
    cases textOfBytes bytes <;> rfl

/-! ## Other bytes -/

/-- The disk with other bytes in the file at some names below a path. `survey_keeps_apart` compares
the survey of such a disk with that of the disk itself. -/
def withBytes (disk : Disk) (path : Path) (names : List (List Char)) (bytes : List UInt8) : Disk :=
  { disk with tree := disk.tree.put (disk.lexicalPlace path ++ names) (.file bytes) }

theorem find_withBytes {old : List UInt8} (hroot : disk.find path = .ok (some root))
    (hold : root.get? names = some (.file old)) (bytes : List UInt8) :
    (disk.withBytes path names bytes).find path = .ok (some (root.put names (.file bytes))) := by
  obtain ⟨place, htarget, hplace⟩ := find_eq_some_iff.mp hroot
  obtain ⟨hnull, hshort, hfollow⟩ := target_eq_ok.mp htarget
  have hfile := Node.not_folderAt_of_file (get?_lexicalPlace_append hroot hold)
  refine find_eq_some_iff.mpr ⟨place, target_eq_ok.mpr ⟨hnull, hshort, ?_⟩, ?_⟩
  · exact follow_put hfollow hfile bytes
  · rw [target_eq_lexicalPlace htarget] at hplace ⊢
    exact Node.get?_put_append hplace

end Disk
end SpiceKit
