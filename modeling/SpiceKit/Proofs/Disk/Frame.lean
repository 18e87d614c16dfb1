import SpiceKit.Proofs.Disk.Write

/-!
# What a write leaves alone

A tree is seen here place by place: `standing?` says which file stands at a place, or that a folder
does, without what is in it. Seen so, **a write changes one place** (`Node.standing?_put_of_ne`) and
making the folders on the way to a file changes places where nothing stood, each on that way, to a
folder (`Disk.grown_ensureFolder`).

The place of a path is the one that its names spell, whether or not they are there
(`Disk.target_eq_lexicalPlace`), so that what may change is known from the path alone.
-/

set_option autoImplicit false

namespace SpiceKit
namespace Node

/-! ## Place by place -/

/-- What stands at a place, a folder without what is in it. Changes to a disk are told place by
place in this way, so that a change below a folder is no change to the folder. `Disk.standing?` is
the look from outside, and frames are stated with it. -/
inductive Standing where
  | file (bytes : List UInt8)
  | folder
  deriving DecidableEq, Repr

def standing : Node → Standing
  | .file bytes => .file bytes
  | .folder _ => .folder

def standing? (tree : Node) (place : List (List Char)) : Option Standing :=
  (tree.get? place).map standing

theorem standing?_eq_folder_iff {tree : Node} {place : List (List Char)} :
    tree.standing? place = some .folder ↔ tree.FolderAt place := by
  unfold standing? FolderAt
  cases tree.get? place with
  | none => simp
  | some node => cases node <;> simp [standing]

theorem standing?_eq_file_iff {tree : Node} {place : List (List Char)} {bytes : List UInt8} :
    tree.standing? place = some (.file bytes) ↔ tree.get? place = some (.file bytes) := by
  unfold standing?
  cases tree.get? place with
  | none => simp
  | some node => cases node <;> simp [standing]

theorem standing?_eq_none_iff {tree : Node} {place : List (List Char)} :
    tree.standing? place = none ↔ tree.get? place = none := Option.map_eq_none_iff

def Bare (node : Node) : Prop := ∀ name names, node.get? (name :: names) = none

theorem bare_file (bytes : List UInt8) : (file bytes).Bare := fun _ _ => rfl

theorem bare_emptyFolder : emptyFolder.Bare := fun _ _ => rfl

/-- **What is put at a place changes no other place**, if it has nothing below it and no folder is
put over. `Bare` is what may be put anywhere: a file, or a folder with nothing in it. -/
theorem standing?_put_of_ne {tree target : Node} {place other : List (List Char)}
    (hplace : ¬ tree.FolderAt place) (hbare : target.Bare) (hne : other ≠ place) :
    (tree.put place target).standing? other = tree.standing? other := by
  induction place generalizing tree other with
  | nil =>
    obtain ⟨name, names, rfl⟩ := List.exists_cons_of_ne_nil hne
    cases tree with
    | file bytes => simp only [put, standing?, hbare name names, get?]
    | folder entries => exact absurd (folderAt_nil.mpr ⟨entries, rfl⟩) hplace
  | cons name names ih =>
    cases tree with
    | file bytes => rfl
    | folder entries =>
      obtain ⟨entries', hput, hsame⟩ := exists_put_folder entries name names target
      cases other with
      | nil => rw [hput]; rfl
      | cons first rest =>
        by_cases hfirst : first = name
        · subst hfirst
          have hrest : rest ≠ names := fun h => hne (by rw [h])
          cases hnode : find? first entries with
          | none =>
            -- Nothing stands there; a name of its own is put in, with nothing below it.
            cases names with
            | nil =>
              obtain ⟨next, rest, rfl⟩ := List.exists_cons_of_ne_nil hrest
              simp only [put, standing?, get?, find?_putEntry_self, hnode, Option.bind_some,
                Option.bind_none, hbare next rest]
            | cons next names => simp only [put, hnode]
          | some node =>
            have hbelow : ¬ node.FolderAt names := fun hfolder =>
              hplace (folderAt_cons.mpr ⟨entries, node, rfl, hnode, hfolder⟩)
            have hinner := ih hbelow hrest
            unfold standing? at hinner ⊢
            rw [get?_put_folder_cons hnode, get?, hnode, Option.bind_some]
            exact hinner
        · unfold standing?
          rw [hput, get?, hsame first hfirst, get?]

theorem get?_put_self_or (tree target : Node) (place : List (List Char)) :
    (tree.put place target).get? place = some target ∨
      (tree.put place target).get? place = tree.get? place := by
  induction place generalizing tree with
  | nil =>
    left
    cases tree <;> rw [put, get?]
  | cons name names ih =>
    cases tree with
    | file bytes => exact Or.inr rfl
    | folder entries =>
      cases hnode : find? name entries with
      | some node =>
        rw [get?_put_folder_cons hnode, get?, hnode, Option.bind_some]
        exact ih node
      -- Nothing of that name: it is made if it is the last, and otherwise the way ends here.
      | none =>
        cases names with
        | nil =>
          left
          rw [put, get?, find?_putEntry_self, Option.bind_some, get?]
        | cons next names =>
          right
          simp only [put, hnode]

theorem get?_put_self_of_isSome {tree : Node} {place : List (List Char)}
    (h : (tree.get? place).isSome) (target : Node) :
    (tree.put place target).get? place = some target := by
  induction place generalizing tree with
  | nil => cases tree <;> rw [put, get?]
  | cons name names ih =>
    cases tree with
    | file bytes => simp [get?] at h
    | folder entries =>
      rw [get?] at h
      cases hnode : find? name entries with
      | none => simp [hnode] at h
      | some node =>
        rw [hnode, Option.bind_some] at h
        rw [get?_put_folder_cons hnode, ih h]

end Node

namespace Disk

/-! ## The place of a path -/

def lexicalStep (place : List (List Char)) (name : List Char) : List (List Char) :=
  if name = ['.', '.'] then place.dropLast else place ++ [name]

theorem follow_eq_ok_lexical {tree : Node} {place stop : List (List Char)}
    {names : List (List Char)} (h : follow tree place names = .ok stop) :
    stop = names.foldl lexicalStep place := by
  induction names generalizing place with
  | nil => exact (Except.ok.inj h).symm
  | cons name names ih =>
    rw [List.foldl_cons, lexicalStep]
    rcases (follow_cons_eq_ok.mp h).2 with ⟨hup, hrest⟩ | ⟨hname, -, hrest⟩
    · rw [if_pos hup]
      exact ih hrest
    · rw [if_neg hname]
      exact ih hrest

/-- **A path leads to the place that its names spell**, if it leads anywhere. There are no links on
a disk, so `Disk.lexicalPlace` can name the place of a file before anything is looked up. -/
theorem target_eq_lexicalPlace {disk : Disk} {path : Path} {place : List (List Char)}
    (h : disk.target path = .ok place) : place = disk.lexicalPlace path :=
  follow_eq_ok_lexical (target_eq_ok.mp h).2.2

theorem lexicalPlace_congr {disk disk' : Disk} (h : disk'.here = disk.here) (path : Path) :
    disk'.lexicalPlace path = disk.lexicalPlace path := by
  unfold lexicalPlace origin
  rw [h]

/-! ## Folders on the way -/

/-- The places that a path leads through, its own included. `OnWay` is the same without its own
place. -/
def Through (disk : Disk) (path : Path) (place : List (List Char)) : Prop :=
  ∃ front, front <+: path.names ∧ place = disk.lexicalPlace { path with names := front }

/-- The places that a path leads through before it comes to its own. Making the folders of a
settings file makes some of these and no others (`grown_ensureFolder`). -/
def OnWay (disk : Disk) (path : Path) (place : List (List Char)) : Prop :=
  ∃ front, front <+: path.names ∧ front ≠ path.names ∧
    place = disk.lexicalPlace { path with names := front }

theorem onWay_congr {disk disk' : Disk} (h : disk'.here = disk.here) {path : Path}
    {place : List (List Char)} : disk'.OnWay path place ↔ disk.OnWay path place := by
  unfold OnWay
  simp only [lexicalPlace_congr h]

theorem Through.of_parent {disk : Disk} {path : Path} {place : List (List Char)}
    (h : disk.Through path.parent place) : disk.Through path place := by
  obtain ⟨front, hfront, hplace⟩ := h
  exact ⟨front, hfront.trans (List.dropLast_prefix _), hplace⟩

theorem Through.onWay {disk : Disk} {path : Path} {place : List (List Char)}
    (h : disk.Through path.parent place) (hne : place ≠ disk.lexicalPlace path) :
    disk.OnWay path place := by
  obtain ⟨front, hfront, rfl⟩ := h
  refine ⟨front, hfront.trans (List.dropLast_prefix _), ?_, rfl⟩
  rintro rfl
  exact hne rfl

/-- One disk has grown out of another: folders were made, where nothing stood before, at places of
some kind. The relation is reflexive and transitive, so it follows the recursion of `ensureWithin`,
also where that ends with a fault. -/
structure Grown (allowed : List (List Char) → Prop) (disk disk' : Disk) : Prop where
  here : disk'.here = disk.here
  standing : ∀ place, disk'.tree.standing? place = disk.tree.standing? place ∨
    allowed place ∧ disk.tree.standing? place = none ∧ disk'.tree.standing? place = some .folder

namespace Grown

variable {allowed : List (List Char) → Prop} {disk disk' disk'' : Disk}

theorem refl (allowed : List (List Char) → Prop) (disk : Disk) : Grown allowed disk disk :=
  ⟨rfl, fun _ => Or.inl rfl⟩

theorem trans (h : Grown allowed disk disk') (h' : Grown allowed disk' disk'') :
    Grown allowed disk disk'' := by
  refine ⟨h'.here.trans h.here, fun place => ?_⟩
  rcases h'.standing place with hsame' | ⟨hplace, hnone', hfolder'⟩
  · rw [hsame']
    exact h.standing place
  · rcases h.standing place with hsame | ⟨-, -, hfolder⟩
    · exact Or.inr ⟨hplace, hsame ▸ hnone', hfolder'⟩
    · rw [hfolder] at hnone'
      cases hnone'

theorem mono {wider : List (List Char) → Prop} (h : Grown allowed disk disk')
    (hwider : ∀ place, allowed place → wider place) : Grown wider disk disk' :=
  ⟨h.here, fun place => (h.standing place).imp_right fun ⟨hplace, hrest⟩ =>
    ⟨hwider place hplace, hrest⟩⟩

theorem through (h : Grown allowed disk disk') {path : Path} {place : List (List Char)} :
    disk'.Through path place ↔ disk.Through path place := by
  unfold Through
  simp only [lexicalPlace_congr h.here]

end Grown

theorem grown_makeFolder {disk disk' : Disk} {path : Path} (h : disk.makeFolder path = .ok disk') :
    Grown (disk.Through path) disk disk' := by
  unfold makeFolder at h
  cases htarget : disk.target path with
  | error fault => simp [htarget, bind, Except.bind] at h
  | ok place =>
    simp only [htarget, bind, Except.bind] at h
    split at h
    · cases h
    · rename_i hnone
      obtain rfl := Except.ok.inj h
      have hfolder : ¬ disk.tree.FolderAt place := by
        rintro ⟨entries, hentries⟩
        cases hnone.symm.trans hentries
      refine ⟨rfl, fun other => ?_⟩
      -- The folder is made where nothing stood, and every other place is as it was.
      by_cases hother : other = place
      · subst hother
        rcases Node.get?_put_self_or disk.tree .emptyFolder other with hput | hsame
        · refine Or.inr ⟨⟨path.names, List.prefix_refl _, target_eq_lexicalPlace htarget⟩,
            Node.standing?_eq_none_iff.mpr hnone, ?_⟩
          exact Node.standing?_eq_folder_iff.mpr ⟨[], hput⟩
        · exact Or.inl (congrArg (Option.map Node.standing) hsame)
      · exact Or.inl (Node.standing?_put_of_ne hfolder Node.bare_emptyFolder hother)

theorem grown_orPresent (disk : Disk) (path : Path) :
    Grown (disk.Through path) disk (disk.orPresent path (disk.makeFolder path)).1 := by
  unfold orPresent
  split
  · rename_i hmade
    exact grown_makeFolder hmade
  · split
    · exact .refl _ _
    · exact .refl _ _
    · exact .refl _ _
  · exact .refl _ _

-- Induction on how many folders may still be tried: what is made above is on the way, and leaves the
-- places of paths where they are.
theorem grown_ensureWithin (count : Nat) (disk : Disk) (path : Path) :
    Grown (disk.Through path) disk (ensureWithin count disk path).1 := by
  induction count generalizing path with
  | zero => exact .refl _ _
  | succ count ih =>
    rw [ensureWithin]
    split
    · split
      · exact .refl _ _
      · have hparent : Grown (disk.Through path) disk (ensureWithin count disk path.parent).1 :=
          (ih path.parent).mono fun _ => Through.of_parent
        split
        · rename_i disk' fault hmade
          rw [hmade] at hparent
          exact hparent
        · rename_i disk' hmade
          rw [hmade] at hparent
          exact hparent.trans ((grown_orPresent disk' path).mono fun _ => hparent.through.mp)
    · exact grown_orPresent disk path

/-- **Making the folders on the way to a file makes nothing else.** What has been made is a `Grown`
disk, at places of `Through` only. -/
theorem grown_ensureFolder (disk : Disk) (path : Path) :
    Grown (disk.Through path) disk (disk.ensureFolder path).1 :=
  grown_ensureWithin mostMissing disk path

/-! ## Files -/

/-- **Writing a file changes no other place.** The place of the file is its `lexicalPlace`. -/
theorem standing?_write {disk disk' : Disk} {path : Path} {bytes : List UInt8}
    (h : disk.write path bytes = .ok disk') {place : List (List Char)}
    (hne : place ≠ disk.lexicalPlace path) :
    disk'.tree.standing? place = disk.tree.standing? place := by
  obtain ⟨stop, htarget, -, hfolder, rfl⟩ := write_eq_ok h
  rw [← target_eq_lexicalPlace htarget] at hne
  exact Node.standing?_put_of_ne hfolder (Node.bare_file bytes) hne

theorem here_write {disk disk' : Disk} {path : Path} {bytes : List UInt8}
    (h : disk.write path bytes = .ok disk') : disk'.here = disk.here := by
  obtain ⟨stop, -, -, -, rfl⟩ := write_eq_ok h
  rfl

end Disk

end SpiceKit
