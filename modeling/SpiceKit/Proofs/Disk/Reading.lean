import SpiceKit.Document
import SpiceKit.Proofs.Disk.Frame
import SpiceKit.Proofs.Encoding.Utf8

/-!
# What can be told apart by reading

To somebody who looks and reads, a file is the text that its bytes stand for. Two disks are `Alike`
if at every place they show the same; then paths lead to the same places, the same things are found
there, and the same texts are read.

A document that has just been loaded is written back in other bytes if its line ends were of another
kind. **Writing back what was read leaves the disk alike** (`Disk.Resaved.alike`).
-/

set_option autoImplicit false

namespace SpiceKit

/-- What a place shows to a reader: the text of a file, or why it has none, or a folder. Two files
with the same text and different bytes are seen alike. Two disks are `Alike` if everything on them
is seen alike. -/
inductive Seen where
  | text (result : Except Utf8.Fault (List Char))
  | folder

def Node.Standing.seen : Node.Standing → Seen
  | .file bytes => .text (Disk.textOfBytes bytes)
  | .folder => .folder

namespace Disk

def seen? (disk : Disk) (place : List (List Char)) : Option Seen :=
  (disk.tree.standing? place).map Node.Standing.seen

/-- Two disks that cannot be told apart by reading: the same is `Seen` at every place. Saving a
document that was just loaded leaves such a disk (`Resaved.alike`), so what is read behind that is
what would have been read before. -/
structure Alike (disk disk' : Disk) : Prop where
  here : disk'.here = disk.here
  seen : ∀ place, disk'.seen? place = disk.seen? place

namespace Alike

variable {disk disk' : Disk}

theorem refl (disk : Disk) : Alike disk disk := ⟨rfl, fun _ => rfl⟩

/-- Alike disks hold nothing, files or folders at the same places. Where bytes differ they decode to
one text, or fail to with one fault (`textOfBytes`). -/
theorem cases (h : Alike disk disk') (place : List (List Char)) :
    (disk.tree.get? place = none ∧ disk'.tree.get? place = none) ∨
    (∃ bytes bytes', disk.tree.get? place = some (.file bytes) ∧
      disk'.tree.get? place = some (.file bytes') ∧ textOfBytes bytes' = textOfBytes bytes) ∨
    (∃ entries entries', disk.tree.get? place = some (.folder entries) ∧
      disk'.tree.get? place = some (.folder entries')) := by
  have hseen := h.seen place
  unfold seen? Node.standing? at hseen
  cases hnode : disk.tree.get? place with
  | none =>
    cases hnode' : disk'.tree.get? place with
    | none => exact Or.inl ⟨rfl, rfl⟩
    | some node' =>
      rw [hnode, hnode'] at hseen
      cases hseen
  | some node =>
    cases hnode' : disk'.tree.get? place with
    | none =>
      rw [hnode, hnode'] at hseen
      cases hseen
    | some node' =>
      rw [hnode, hnode'] at hseen
      cases node with
      | file bytes =>
        cases node' with
        | file bytes' =>
          exact Or.inr (Or.inl ⟨bytes, bytes', rfl, rfl, Seen.text.inj (Option.some.inj hseen)⟩)
        | folder entries' => cases Option.some.inj hseen
      | folder entries =>
        cases node' with
        | file bytes' => cases Option.some.inj hseen
        | folder entries' => exact Or.inr (Or.inr ⟨entries, entries', rfl, rfl⟩)

theorem follow_eq (h : Alike disk disk') (place : List (List Char)) (names : List (List Char)) :
    follow disk'.tree place names = follow disk.tree place names := by
  induction names generalizing place with
  | nil => rfl
  | cons name names ih =>
    rw [follow, follow]
    rcases h.cases place with ⟨hnone, hnone'⟩ | ⟨_, _, hfile, hfile', -⟩ | ⟨_, _, hfolder, hfolder'⟩
    · rw [hnone, hnone']
    · rw [hfile, hfile']
    · rw [hfolder, hfolder']
      simp only [ih]

theorem place_eq (h : Alike disk disk') (path : Path) : disk'.place path = disk.place path := by
  unfold place origin
  rw [h.here, h.follow_eq]

/-- The same is found at a path, but for the bytes of a file and what is in a folder. `has_eq`
follows from it. -/
theorem find_cases (h : Alike disk disk') (path : Path) :
    (∃ fault, disk.find path = .error fault ∧ disk'.find path = .error fault) ∨
    (disk.find path = .ok none ∧ disk'.find path = .ok none) ∨
    (∃ node node', disk.find path = .ok (some node) ∧ disk'.find path = .ok (some node') ∧
      node'.isFile = node.isFile) := by
  unfold find
  rw [h.place_eq]
  cases path.hasNull with
  | true => exact Or.inr (Or.inl ⟨rfl, rfl⟩)
  | false =>
    cases disk.place path with
    | error refusal =>
      cases habsent : saysAbsent refusal with
      | true => simp [habsent]
      | false => simp [habsent]
    | ok place =>
      rcases h.cases place with ⟨hnone, hnone'⟩ | ⟨_, _, hfile, hfile', -⟩ |
        ⟨_, _, hfolder, hfolder'⟩
      · simp [hnone, hnone']
      · simp [hfile, hfile', Node.isFile]
      · simp [hfolder, hfolder', Node.isFile]

theorem has_eq (h : Alike disk disk') (path : Path) : disk'.has path = disk.has path := by
  unfold has
  rcases h.find_cases path with ⟨fault, hfind, hfind'⟩ | ⟨hfind, hfind'⟩ |
    ⟨node, node', hfind, hfind', -⟩
  · rw [hfind, hfind']
  · rw [hfind, hfind']
  · rw [hfind, hfind']
    rfl

theorem readText_eq (h : Alike disk disk') (path : Path) :
    disk'.readText path = disk.readText path := by
  unfold readText read target
  rw [h.place_eq]
  cases path.hasNull with
  | true => rfl
  | false =>
    cases disk.place path with
    | error refusal => rfl
    | ok place =>
      rcases h.cases place with ⟨hnone, hnone'⟩ | ⟨bytes, bytes', hfile, hfile', htext⟩ |
        ⟨_, _, hfolder, hfolder'⟩
      · simp [bind, Except.bind, hnone, hnone']
      · simp [bind, Except.bind, hfile, hfile', htext, pure, Except.pure]
      · simp [bind, Except.bind, hfolder, hfolder']

end Alike

/-! ## Writing back what was read -/

theorem read_eq_ok {disk : Disk} {path : Path} {bytes : List UInt8} :
    disk.read path = .ok bytes ↔
      ∃ place, disk.target path = .ok place ∧ disk.tree.get? place = some (.file bytes) := by
  unfold read
  cases disk.target path with
  | error fault => simp [bind, Except.bind]
  | ok place =>
    simp only [bind, Except.bind, Except.ok.injEq, exists_eq_left']
    cases disk.tree.get? place with
    | none => simp [refuse]
    | some node => cases node <;> simp [refuse, pure, Except.pure]

theorem has_of_read {disk : Disk} {path : Path} {bytes : List UInt8}
    (h : disk.read path = .ok bytes) : disk.has path = .ok true := by
  obtain ⟨place, htarget, hnode⟩ := read_eq_ok.mp h
  unfold target at htarget
  cases hnull : path.hasNull with
  | true => simp [hnull] at htarget
  | false =>
    cases hplace : disk.place path with
    | error refusal => simp [hnull, hplace] at htarget
    | ok place' =>
      simp only [hnull, hplace, Bool.false_eq_true, if_false, Except.ok.injEq] at htarget
      simp only [has, find, hnull, hplace, htarget, hnode, Bool.false_eq_true, if_false]
      rfl

theorem readText_eq_ok {disk : Disk} {path : Path} {text : List Char} :
    disk.readText path = .ok text ↔
      ∃ bytes, disk.read path = .ok bytes ∧ textOfBytes bytes = .ok text := by
  unfold readText
  cases disk.read path with
  | error fault => simp
  | ok bytes =>
    simp only [Except.ok.injEq, exists_eq_left']
    cases textOfBytes bytes with
    | error fault => simp
    | ok found => simp

theorem standing?_of_readText {disk : Disk} {path : Path} {text : List Char}
    (h : disk.readText path = .ok text) :
    ∃ bytes, disk.tree.standing? (disk.lexicalPlace path) = some (.file bytes) := by
  obtain ⟨bytes, hbytes, -⟩ := readText_eq_ok.mp h
  obtain ⟨place, htarget, hnode⟩ := read_eq_ok.mp hbytes
  exact ⟨bytes, target_eq_lexicalPlace htarget ▸ Node.standing?_eq_file_iff.mpr hnode⟩

/-- One disk has come out of another by writing a text back to the file it was read from. The bytes
may differ, in line ends alone. `resaved_of_writeText` is how it comes about, and `Resaved.alike`
all that is needed of it. -/
structure Resaved (path : Path) (disk disk' : Disk) : Prop where
  here : disk'.here = disk.here
  source : ∃ bytes text, disk.tree.standing? (disk.lexicalPlace path) = some (.file bytes) ∧
    textOfBytes bytes = .ok text ∧
    disk'.tree.standing? (disk.lexicalPlace path) = some (.file (Utf8.encode text))
  elsewhere : ∀ place, place ≠ disk.lexicalPlace path →
    disk'.tree.standing? place = disk.tree.standing? place

/-- **Writing back what was read changes the file alone**, and that only to the bytes of its text.
The place of the file is the one that `lexicalPlace` gives. -/
theorem resaved_of_writeText {disk disk' : Disk} {path : Path} {text : List Char}
    (hread : disk.readText path = .ok text) (hwrite : disk.writeText path text = .ok disk') :
    Resaved path disk disk' := by
  obtain ⟨bytes, hbytes, htext⟩ := readText_eq_ok.mp hread
  obtain ⟨place, htarget, hnode⟩ := read_eq_ok.mp hbytes
  obtain ⟨place', htarget', -, -, hdisk⟩ := write_eq_ok hwrite
  obtain rfl : place = place' := Except.ok.inj (htarget.symm.trans htarget')
  have hplace := target_eq_lexicalPlace htarget
  refine ⟨here_write hwrite, ⟨bytes, text, ?_, htext, ?_⟩,
    fun other hne => standing?_write hwrite hne⟩
  · rw [← hplace]
    exact Node.standing?_eq_file_iff.mpr hnode
  · rw [← hplace, hdisk]
    exact Node.standing?_eq_file_iff.mpr (Node.get?_put_self_of_isSome (by rw [hnode]; rfl) _)

/-- **Writing back what was read leaves the disk alike.** So what is loaded, listed or surveyed
after a save is what it was before (`load_of_alike`). -/
theorem Resaved.alike {path : Path} {disk disk' : Disk} (h : Resaved path disk disk') :
    Alike disk disk' := by
  obtain ⟨bytes, text, hbefore, htext, hafter⟩ := h.source
  refine ⟨h.here, fun place => ?_⟩
  unfold seen?
  by_cases hplace : place = disk.lexicalPlace path
  · rw [hplace, hbefore, hafter, Option.map_some, Option.map_some, Node.Standing.seen,
      Node.Standing.seen, textOfBytes_encode htext, htext]
  · rw [h.elsewhere place hplace]

theorem writeText_of_readText {disk : Disk} {path : Path} {text : List Char}
    (h : disk.readText path = .ok text) (written : List Char) :
    (∃ disk', disk.writeText path written = .ok disk') ∨
      ∃ fault, disk.writeText path written = .error (.system fault) := by
  obtain ⟨bytes, hbytes, -⟩ := readText_eq_ok.mp h
  obtain ⟨place, htarget, hnode⟩ := read_eq_ok.mp hbytes
  unfold writeText write
  simp only [htarget, bind, Except.bind, hnode]
  split
  · exact Or.inr ⟨_, rfl⟩
  · exact Or.inl ⟨_, rfl⟩

end Disk
end SpiceKit
