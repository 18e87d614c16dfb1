import SpiceKit.Disk.Text

/-!
# What is written is read back

Writing a file puts its bytes at the place that the path leads to; reading follows the path once
more, through a tree that is no longer the same. That it leads to the same place, and that the place
holds the bytes, is not a matter of course: a path may go up again with `..`, so that the place of
one name on the way can lie below, beside or above the place that is written to.

What saves it is that only folders are passed on the way and that no folder is written over: **every
folder is still a folder afterwards** (`Node.FolderAt.put_file`), hence the path is followed as
before (`Disk.follow_put`), and what is read is what was written (`Disk.read_of_write`).
-/

set_option autoImplicit false

namespace SpiceKit
namespace Node

/-! ## Entries -/

theorem find?_putEntry_self (name : List Char) (node : Node) (entries : List (List Char × Node)) :
    find? name (putEntry name node entries) = some node := by
  induction entries with
  | nil => simp [putEntry, find?]
  | cons entry entries ih =>
    rw [putEntry]
    split
    · simp [find?]
    · split
      · simp [find?]
      · rename_i hne
        rw [find?, if_neg hne, ih]

theorem find?_putEntry_of_ne {name other : List Char} (h : other ≠ name) (node : Node)
    (entries : List (List Char × Node)) :
    find? other (putEntry name node entries) = find? other entries := by
  induction entries with
  | nil => simp [putEntry, find?, h.symm]
  | cons entry entries ih =>
    rw [putEntry]
    split
    · rw [find?, if_neg h.symm]
    · split
      · rename_i heq
        rw [find?, if_neg h.symm, find?, heq, if_neg h.symm]
      · rw [find?, find?, ih]

/-! ## Trees -/

/-- A folder stands at the end of some names. A path is followed through these, and what is written
changes where it leads only if it takes one of them away (`follow_put`). -/
def FolderAt (tree : Node) (place : List (List Char)) : Prop :=
  ∃ entries, tree.get? place = some (.folder entries)

theorem folderAt_nil {tree : Node} : tree.FolderAt [] ↔ ∃ entries, tree = .folder entries := by
  simp [FolderAt, get?]

theorem folderAt_cons {tree : Node} {name : List Char} {names : List (List Char)} :
    tree.FolderAt (name :: names) ↔
      ∃ entries node, tree = .folder entries ∧ find? name entries = some node ∧
        node.FolderAt names := by
  cases tree with
  | file bytes => simp [FolderAt, get?]
  | folder entries =>
    simp only [FolderAt, get?, Option.bind_eq_some_iff, folder.injEq]
    constructor
    · rintro ⟨inner, node, hnode, hinner⟩
      exact ⟨entries, node, rfl, hnode, inner, hinner⟩
    · rintro ⟨_, node, rfl, hnode, inner, hinner⟩
      exact ⟨inner, node, hnode, hinner⟩

theorem FolderAt.top {tree : Node} {place : List (List Char)} (h : tree.FolderAt place) :
    tree.FolderAt [] := by
  cases place with
  | nil => exact h
  | cons name names =>
    obtain ⟨entries, -, hentries, -⟩ := folderAt_cons.mp h
    exact folderAt_nil.mpr ⟨entries, hentries⟩

theorem FolderAt.of_append {tree : Node} {place names : List (List Char)}
    (h : tree.FolderAt (place ++ names)) : tree.FolderAt place := by
  induction place generalizing tree with
  | nil => exact h.top
  | cons name place ih =>
    obtain ⟨entries, node, hentries, hnode, hinner⟩ := folderAt_cons.mp h
    exact folderAt_cons.mpr ⟨entries, node, hentries, hnode, ih hinner⟩

theorem FolderAt.dropLast {tree : Node} {place : List (List Char)} (h : tree.FolderAt place) :
    tree.FolderAt place.dropLast := by
  rcases List.eq_nil_or_concat place with rfl | ⟨place, name, rfl⟩
  · exact h
  · rw [List.concat_eq_append] at h ⊢
    rw [List.dropLast_concat]
    exact h.of_append

/-- Below a folder, putting a node touches the entry of the first name only. Inductions along a path
take their step by it. -/
theorem exists_put_folder (entries : List (List Char × Node)) (name : List Char)
    (names : List (List Char)) (target : Node) :
    ∃ entries', (folder entries).put (name :: names) target = folder entries' ∧
      ∀ other, other ≠ name → find? other entries' = find? other entries := by
  cases names with
  | nil => exact ⟨_, by rw [put], fun other hne => find?_putEntry_of_ne hne _ _⟩
  | cons next names =>
    cases hnode : find? name entries with
    | none => exact ⟨entries, by simp [put, hnode], fun _ _ => rfl⟩
    | some node =>
      exact ⟨putEntry name (node.put (next :: names) target) entries, by simp only [put, hnode],
        fun other hne => find?_putEntry_of_ne hne _ _⟩

theorem put_folder_cons {entries : List (List Char × Node)} {name : List Char}
    {node : Node} (hnode : find? name entries = some node) (names : List (List Char))
    (target : Node) :
    (folder entries).put (name :: names) target =
      folder (putEntry name (node.put names target) entries) := by
  cases names with
  | nil => rw [put, put]
  | cons next names => simp only [put, hnode]

theorem get?_put_folder_cons {entries : List (List Char × Node)} {name : List Char} {node : Node}
    (hnode : find? name entries = some node) (names other : List (List Char)) (target : Node) :
    ((folder entries).put (name :: names) target).get? (name :: other) =
      (node.put names target).get? other := by
  rw [put_folder_cons hnode, get?, find?_putEntry_self, Option.bind_some]

theorem get?_put_self {tree : Node} {place : List (List Char)} (h : tree.FolderAt place)
    (name : List Char) (target : Node) :
    (tree.put (place ++ [name]) target).get? (place ++ [name]) = some target := by
  induction place generalizing tree with
  | nil =>
    obtain ⟨entries, rfl⟩ := folderAt_nil.mp h
    rw [List.nil_append, put, get?, find?_putEntry_self, Option.bind_some, get?]
  | cons next place ih =>
    obtain ⟨entries, node, rfl, hnode, hinner⟩ := folderAt_cons.mp h
    rw [List.cons_append, get?_put_folder_cons hnode, ih hinner]

/-- **Where no folder is written over, every folder stays one.** So the way to any other file is as
it was (`follow_put`). -/
theorem FolderAt.put_file {tree : Node} {place other : List (List Char)} (h : tree.FolderAt other)
    (hplace : ¬ tree.FolderAt place) (bytes : List UInt8) :
    (tree.put place (.file bytes)).FolderAt other := by
  induction place generalizing tree other with
  | nil => exact absurd h.top hplace
  | cons name names ih =>
    obtain ⟨entries, rfl⟩ := folderAt_nil.mp h.top
    obtain ⟨entries', hput, hsame⟩ := exists_put_folder entries name names (.file bytes)
    cases other with
    | nil => exact folderAt_nil.mpr ⟨entries', hput⟩
    | cons first other =>
      obtain ⟨_, node, hentries, hnode, hinner⟩ := folderAt_cons.mp h
      obtain rfl := folder.inj hentries
      by_cases hfirst : first = name
      · -- The two ways go through the same entry, which is a folder with the rest of both below it.
        subst hfirst
        have hrest : ¬ node.FolderAt names := fun hfolder =>
          hplace (folderAt_cons.mpr ⟨entries, node, rfl, hnode, hfolder⟩)
        rw [put_folder_cons hnode]
        exact folderAt_cons.mpr ⟨_, _, rfl, find?_putEntry_self _ _ _, ih hinner hrest⟩
      · rw [hput]
        exact folderAt_cons.mpr ⟨entries', node, rfl, (hsame first hfirst).trans hnode, hinner⟩

end Node

namespace Disk

/-! ## Paths -/

theorem follow_cons_eq_ok {tree : Node} {place stop : List (List Char)} {name : List Char}
    {names : List (List Char)} :
    follow tree place (name :: names) = .ok stop ↔
      tree.FolderAt place ∧
        ((name = ['.', '.'] ∧ follow tree place.dropLast names = .ok stop) ∨
          (name ≠ ['.', '.'] ∧ exceeds nameLimit name = false ∧
            follow tree (place ++ [name]) names = .ok stop)) := by
  rw [follow]
  unfold Node.FolderAt
  cases tree.get? place with
  | none => simp
  | some node =>
    cases node with
    | file bytes => simp
    | folder entries =>
      by_cases hup : name = ['.', '.']
      · simp [hup]
      · cases hlength : exceeds nameLimit name <;> simp [hup]

/-- A path is followed as before where no folder was written over. Following ends at the same names,
whatever was put there. -/
theorem follow_put {tree : Node} {place stop target : List (List Char)}
    {names : List (List Char)} (h : follow tree place names = .ok stop)
    (htarget : ¬ tree.FolderAt target) (bytes : List UInt8) :
    follow (tree.put target (.file bytes)) place names = .ok stop := by
  induction names generalizing place with
  | nil => exact h
  | cons name names ih =>
    obtain ⟨hfolder, hrest⟩ := follow_cons_eq_ok.mp h
    refine follow_cons_eq_ok.mpr ⟨hfolder.put_file htarget bytes, ?_⟩
    rcases hrest with ⟨hup, hrest⟩ | ⟨hname, hlength, hrest⟩
    · exact Or.inl ⟨hup, ih hrest⟩
    · exact Or.inr ⟨hname, hlength, ih hrest⟩

theorem folderAt_or_eq_concat_of_follow {tree : Node} {place stop : List (List Char)}
    {names : List (List Char)} (hne : names ≠ []) (h : follow tree place names = .ok stop) :
    tree.FolderAt stop ∨ ∃ parent name, stop = parent ++ [name] ∧ tree.FolderAt parent := by
  induction names generalizing place with
  | nil => exact absurd rfl hne
  | cons name names ih =>
    obtain ⟨hfolder, hrest⟩ := follow_cons_eq_ok.mp h
    -- Only the last name decides: the folder in which it is looked up is there.
    cases names with
    | nil =>
      rcases hrest with ⟨-, hrest⟩ | ⟨-, -, hrest⟩
      · obtain rfl := Except.ok.inj hrest
        exact Or.inl hfolder.dropLast
      · obtain rfl := Except.ok.inj hrest
        exact Or.inr ⟨place, name, rfl, hfolder⟩
    | cons next names =>
      rcases hrest with ⟨-, hrest⟩ | ⟨-, -, hrest⟩
      · exact ih (by simp) hrest
      · exact ih (by simp) hrest

/-! ## Files -/

theorem target_eq_ok {disk : Disk} {path : Path} {place : List (List Char)} :
    disk.target path = .ok place ↔
      path.hasNull = false ∧ exceeds pathLimit path.toText = false ∧
        follow disk.tree (disk.origin path) path.names = .ok place := by
  unfold target Disk.place
  cases path.hasNull with
  | true => simp
  | false =>
    cases exceeds pathLimit path.toText with
    | true => simp
    | false => cases follow disk.tree (disk.origin path) path.names <;> simp

theorem target_eq_error {disk : Disk} {path : Path} {fault : PathFault}
    (h : disk.target path = .error fault) :
    (path.hasNull = true ∧ fault = .nullName) ∨
      (path.hasNull = false ∧ ∃ refusal, fault = .system (faultAt path refusal)) := by
  unfold target at h
  cases hnull : path.hasNull with
  | true =>
    simp only [hnull, if_true, Except.error.injEq] at h
    exact Or.inl ⟨rfl, h.symm⟩
  | false =>
    simp only [hnull, Bool.false_eq_true, if_false] at h
    split at h
    · cases h
    · exact Or.inr ⟨rfl, _, (Except.error.inj h).symm⟩

theorem write_eq_ok {disk disk' : Disk} {path : Path} {bytes : List UInt8}
    (h : disk.write path bytes = .ok disk') :
    ∃ place, disk.target path = .ok place ∧ path.names ≠ [] ∧ ¬ disk.tree.FolderAt place ∧
      disk' = { disk with tree := disk.tree.put place (.file bytes) } := by
  unfold write at h
  cases htarget : disk.target path with
  | error fault => simp [htarget, bind, Except.bind] at h
  | ok place =>
    simp only [htarget, bind, Except.bind] at h
    split at h
    · cases h
    · rename_i hne
      split at h
      · cases h
      · rename_i hnode
        refine ⟨place, rfl, hne, ?_, (Except.ok.inj h).symm⟩
        rintro ⟨entries, hentries⟩
        exact hnode entries hentries

/-- The only faults of writing: a NUL in the path, or a refusal of the system about the path. -/
theorem write_eq_error {disk : Disk} {path : Path} {bytes : List UInt8} {fault : PathFault}
    (h : disk.write path bytes = .error fault) :
    (path.hasNull = true ∧ fault = .nullName) ∨
      (path.hasNull = false ∧ ∃ refusal, fault = .system (faultAt path refusal)) := by
  unfold write at h
  cases htarget : disk.target path with
  | error fault' =>
    simp only [htarget, bind, Except.bind, Except.error.injEq] at h
    exact h ▸ target_eq_error htarget
  | ok place =>
    have hnull := (target_eq_ok.mp htarget).1
    simp only [htarget, bind, Except.bind] at h
    split at h
    · exact Or.inr ⟨hnull, _, (Except.error.inj h).symm⟩
    · split at h
      · exact Or.inr ⟨hnull, _, (Except.error.inj h).symm⟩
      · cases h

/-- **What is written is read back.** The path is followed again after the write, by `follow_put`. -/
theorem read_of_write {disk disk' : Disk} {path : Path} {bytes : List UInt8}
    (h : disk.write path bytes = .ok disk') : disk'.read path = .ok bytes := by
  obtain ⟨place, htarget, hne, hnone, rfl⟩ := write_eq_ok h
  obtain ⟨hnull, hlength, hfollow⟩ := target_eq_ok.mp htarget
  -- The path is followed through the new tree, from the same folder.
  have htarget' : target { disk with tree := disk.tree.put place (.file bytes) } path = .ok place :=
    target_eq_ok.mpr ⟨hnull, hlength, follow_put hfollow hnone bytes⟩
  have hread : (disk.tree.put place (.file bytes)).get? place = some (.file bytes) := by
    rcases folderAt_or_eq_concat_of_follow hne hfollow with hfolder | ⟨parent, name, rfl, hparent⟩
    · exact absurd hfolder hnone
    · exact Node.get?_put_self hparent name (.file bytes)
  simp only [read, htarget', bind, Except.bind, hread]
  rfl

end Disk
end SpiceKit
