import SpiceKit.Proofs.Disk.Reading

/-!
# Writing a file again

The folder of a file is there once the file is (`Disk.hasFolder_parent`), so that making it makes
nothing (`Disk.ensureFolder_of_hasFolder`). A file that was written can be written once more, and
writing the bytes that it holds **leaves every place as it is** (`Disk.write_again`).

The middle step is about paths alone: the written path of a parent is no longer than that of its
child (`exceeds_parent`), so a path that could be written has a parent that can be looked up. Saving
settings needs this, for it makes the folder of its file each time.
-/

set_option autoImplicit false

namespace SpiceKit

namespace Path

theorem joinNames_append {front : List (List Char)} (hne : front ≠ []) (name : List Char) :
    joinNames (front ++ [name]) = joinNames front ++ '/' :: name := by
  unfold joinNames
  induction front with
  | nil => exact absurd rfl hne
  | cons first front ih =>
    cases front with
    | nil => simp [List.intercalate, List.intersperse]
    | cons second front =>
      have hrest := ih (by simp)
      simp only [List.cons_append, List.intercalate, List.intersperse, List.flatten_cons] at hrest ⊢
      rw [hrest]
      simp only [List.cons_append, List.nil_append, List.append_assoc]

/-- The text of a folder starts the text of what is in it, but for the folder in which paths start.
So a parent is never too long when its child is not (`exceeds_parent`). -/
theorem toText_parent (path : Path) :
    path.parent.toText = ['.'] ∨ path.parent.toText <+: path.toText := by
  obtain ⟨root, names⟩ := path
  rcases List.eq_nil_or_concat names with rfl | ⟨front, name, rfl⟩
  · exact Or.inr (List.prefix_refl _)
  · rw [List.concat_eq_append]
    have hparent : (⟨root, front ++ [name]⟩ : Path).parent = ⟨root, front⟩ := by
      rw [parent, List.dropLast_concat]
    have htext : (⟨root, front ++ [name]⟩ : Path).toText =
        root.slashes ++ joinNames (front ++ [name]) := by
      cases root <;> cases front <;> rfl
    rw [hparent, htext]
    rcases Decidable.em (front = []) with rfl | hne
    -- Above the only name: the top, or where one is, which is written as a dot.
    · cases root with
      | here => exact Or.inl rfl
      | single => exact Or.inr ⟨name, by simp [toText, Root.slashes, joinNames]⟩
      | double => exact Or.inr ⟨name, by simp [toText, Root.slashes, joinNames]⟩
    · have htext' : (⟨root, front⟩ : Path).toText = root.slashes ++ joinNames front := by
        obtain ⟨first, front, rfl⟩ := List.exists_cons_of_ne_nil hne
        cases root <;> rfl
      rw [htext', joinNames_append hne]
      exact Or.inr ⟨'/' :: name, by rw [List.append_assoc]⟩

theorem hasNull_parent {path : Path} (h : path.hasNull = false) : path.parent.hasNull = false := by
  unfold hasNull parent at *
  rw [List.any_eq_false] at h ⊢
  exact fun name hname => h name (List.dropLast_subset _ hname)

end Path

namespace Disk

variable {disk disk' : Disk} {path : Path} {bytes : List UInt8}

theorem exceeds_parent (h : exceeds pathLimit path.toText = false) :
    exceeds pathLimit path.parent.toText = false := by
  rcases path.toText_parent with hdot | ⟨rest, htext⟩
  · rw [hdot]
    decide
  · unfold exceeds at *
    rw [decide_eq_false_iff_not, Nat.not_lt] at h ⊢
    rw [← htext, Utf8.encode, List.flatMap_append, List.length_append] at h
    exact Nat.le_trans (Nat.le_add_right _ _) h

/-! ## The folder of a file -/

theorem exists_follow_front {tree : Node} {place stop : List (List Char)} {front : List (List Char)}
    {name : List Char} (h : follow tree place (front ++ [name]) = .ok stop) :
    ∃ folder, follow tree place front = .ok folder ∧ tree.FolderAt folder := by
  induction front generalizing place with
  | nil => exact ⟨place, rfl, (follow_cons_eq_ok.mp h).1⟩
  | cons first front ih =>
    obtain ⟨hfolder, hrest⟩ := follow_cons_eq_ok.mp h
    rcases hrest with ⟨hup, hrest⟩ | ⟨hname, hlength, hrest⟩
    · obtain ⟨folder, hfollow, hthere⟩ := ih hrest
      exact ⟨folder, follow_cons_eq_ok.mpr ⟨hfolder, Or.inl ⟨hup, hfollow⟩⟩, hthere⟩
    · obtain ⟨folder, hfollow, hthere⟩ := ih hrest
      exact ⟨folder, follow_cons_eq_ok.mpr ⟨hfolder, Or.inr ⟨hname, hlength, hfollow⟩⟩, hthere⟩

theorem hasFolder_eq_ok_true :
    disk.hasFolder path = .ok true ↔
      ∃ place, disk.target path = .ok place ∧ disk.tree.FolderAt place := by
  unfold hasFolder find target
  cases path.hasNull with
  | true => simp [Except.map]
  | false =>
    cases hplace : disk.place path with
    | error refusal => by_cases habsent : saysAbsent refusal = true <;> simp [Except.map, habsent]
    | ok place =>
      unfold Node.FolderAt
      cases hnode : disk.tree.get? place with
      | none => simp [Except.map, hnode]
      | some node => cases node <;> simp [Except.map, hnode, Node.isFolder]

/-- **Where a path leads, its folder is there.** `ensureFolder_of_hasFolder` then has nothing to do. -/
theorem hasFolder_parent {place : List (List Char)} (hne : path.names ≠ [])
    (h : disk.target path = .ok place) : disk.hasFolder path.parent = .ok true := by
  obtain ⟨hnull, hlength, hfollow⟩ := target_eq_ok.mp h
  obtain ⟨front, name, hnames⟩ := (List.eq_nil_or_concat path.names).resolve_left hne
  rw [List.concat_eq_append] at hnames
  rw [hnames] at hfollow
  obtain ⟨folder, hfront, hfolder⟩ := exists_follow_front hfollow
  have hparent : path.parent.names = front := by rw [Path.parent, hnames, List.dropLast_concat]
  refine hasFolder_eq_ok_true.mpr ⟨folder, target_eq_ok.mpr
    ⟨Path.hasNull_parent hnull, exceeds_parent hlength, ?_⟩, hfolder⟩
  rw [hparent]
  exact hfront

/-- **Making a folder that is there makes nothing.** A settings file that was written once is
therefore written again without a look at what is above it (`Settings.Store.writeFile_again`). -/
theorem ensureFolder_of_hasFolder (h : disk.hasFolder path = .ok true) :
    disk.ensureFolder path = (disk, none) := by
  obtain ⟨place, htarget, entries, hentries⟩ := hasFolder_eq_ok_true.mp h
  have hmade : disk.makeFolder path = .error (.system (faultAt path .exists)) := by
    simp only [makeFolder, htarget, bind, Except.bind, hentries, refuse]
  -- One folder is tried, so of the limit it matters only that it is not zero.
  obtain ⟨count, hcount⟩ : ∃ count, mostMissing = count + 1 :=
    Nat.exists_eq_succ_of_ne_zero (by decide)
  rw [ensureFolder, hcount, ensureWithin, hmade]
  simp only [faultAt, orPresent, h]

/-! ## The same bytes once more -/

/-- **A file that was written can be written again**, and the same bytes leave every place as it is.
Places are compared by `standing?`. -/
theorem write_again (h : disk.write path bytes = .ok disk') :
    ∃ disk'', disk'.write path bytes = .ok disk'' ∧ disk''.here = disk'.here ∧
      ∀ place, disk''.tree.standing? place = disk'.tree.standing? place := by
  obtain ⟨place, -, hne, -, -⟩ := write_eq_ok h
  obtain ⟨place', htarget', hfile⟩ := read_eq_ok.mp (read_of_write h)
  refine ⟨{ disk' with tree := disk'.tree.put place' (.file bytes) }, ?_, rfl, fun other => ?_⟩
  · simp only [write, htarget', bind, Except.bind, if_neg hne, hfile]
    rfl
  · by_cases hother : other = place'
    · rw [hother, Node.standing?_eq_file_iff.mpr hfile]
      exact Node.standing?_eq_file_iff.mpr (Node.get?_put_self_of_isSome (by rw [hfile]; rfl) _)
    · refine Node.standing?_put_of_ne ?_ (Node.bare_file bytes) hother
      rintro ⟨entries, hentries⟩
      cases hfile.symm.trans hentries

end Disk
end SpiceKit
