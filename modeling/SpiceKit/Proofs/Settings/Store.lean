import SpiceKit.Proofs.Disk.Reading
import SpiceKit.Proofs.Settings.Form
import SpiceKit.Settings.Store

/-!
# What a settings file keeps

A compiler named for the time being lies over the settings that are kept: it is in what is loaded,
and saving what was loaded **keeps what was kept** (`Settings.Store.save_overlay`). Settings that
are written to a file are there afterwards (`Settings.Store.load_of_writeFile`), and the file and
the missing folders on the way to it are all that has changed (`Settings.Store.kept_writeFile`).
-/

set_option autoImplicit false

namespace SpiceKit
namespace Settings

/-! ## Texts of settings -/

theorem joined_of_ofText {path : Path} {text : List Char} {settings : Settings}
    (h : ofText path text = .ok settings) : settings.Joined := by
  unfold ofText at h
  split at h
  · cases h
  · cases h
  · cases h
  · rename_i members hread
    split at h
    · cases h
    · cases h
    · rename_i found hfound
      obtain rfl := Except.ok.inj h
      cases Json.joined_of_read hread with
      | object hmembers => exact joined_of_ofMembers hmembers hfound
  · cases h

/-- **Settings that are written are read again**, but for the time limit as its digits stand for.
The text is read by `read_write` and understood by `ofMembers_members`. -/
theorem ofText_write {settings : Settings} (h : settings.Joined) (path : Path) :
    ofText path (Json.write settings.toJson) = .ok settings.reread := by
  have hread : Json.read (Json.write settings.toJson) = .ok (.object settings.reread.members) :=
    read_write h
  rw [ofText, hread]
  simp only [ofMembers_members]

namespace Keeper

theorem load_of_alike {disk disk' : Disk} (h : Disk.Alike disk disk') (keeper : Keeper) :
    keeper.load disk' = keeper.load disk := by
  cases keeper with
  | memory settings => rfl
  | file path => simp only [load, h.has_eq, h.readText_eq]

theorem load_of_readText {disk : Disk} {path : Path} {text : List Char}
    (h : disk.readText path = .ok text) : (file path).load disk = ofText path text := by
  obtain ⟨bytes, hbytes, -⟩ := Disk.readText_eq_ok.mp h
  simp only [load, Disk.has_of_read hbytes, h]

theorem joined_of_load {disk : Disk} {path : Path} {settings : Settings}
    (h : (file path).load disk = .ok settings) : settings.Joined := by
  rw [load] at h
  split at h
  · cases h
  · obtain rfl := Except.ok.inj h
    exact joined_default
  · split at h
    · cases h
    · exact joined_of_ofText h

end Keeper

namespace Store

variable {store : Store} {disk disk' : Disk} {path : Path} {settings kept : Settings}

def overlay (store : Store) (settings : Settings) : Settings :=
  match store.compiler with
  | none => settings
  | some compiler => { settings with compiler := compiler }

theorem load_eq (store : Store) (disk : Disk) :
    store.load disk = (store.keeper.load disk).map store.overlay := rfl

theorem toKeep_overlay (h : store.keeper.load disk = .ok kept) (on : Bool) :
    store.toKeep disk ((store.overlay kept).withRedefinitionCheck on) =
      .ok (kept.withRedefinitionCheck on) := by
  unfold toKeep overlay
  cases store.compiler with
  | none => rfl
  | some compiler =>
    rw [h]
    rfl

/-- **Saving what was loaded keeps what was kept**, with the warning on or off: the compiler named
for the time being is not written. What goes into the file is computed by `toKeep`, from the file as
it is. -/
theorem save_overlay (hkeeper : store.keeper = .file path)
    (h : store.keeper.load disk = .ok kept) (on : Bool) :
    store.save disk ((store.overlay kept).withRedefinitionCheck on) =
      ((writeFile disk path (kept.withRedefinitionCheck on)).1, store,
        (writeFile disk path (kept.withRedefinitionCheck on)).2) := by
  rw [save, toKeep_overlay h, hkeeper]

/-- **Settings that are written to a file are loaded from it**, but for the time limit as its digits
stand for. No carriage return is written, so reading gives back the text as it was
(`return_not_mem_write`). -/
theorem load_of_writeFile (hjoined : settings.Joined)
    (h : writeFile disk path settings = (disk', none)) :
    (Keeper.file path).load disk' = .ok settings.reread := by
  unfold writeFile at h
  split at h
  · cases (Prod.mk.inj h).2
  · split at h
    · cases (Prod.mk.inj h).2
    · rename_i hwrite
      obtain rfl := (Prod.mk.inj h).1
      have hread := Disk.read_of_write hwrite
      have htext : Disk.readText _ path = .ok (Json.write settings.toJson) :=
        Disk.readText_eq_ok.mpr
          ⟨_, hread, Disk.textOfBytes_encode_of_not_mem (return_not_mem_write hjoined)⟩
      rw [Keeper.load, Disk.has_of_read hread]
      simp only [htext, ofText_write hjoined]

/-! ## What else changes -/

/-- What keeping settings in a file may change: the file, and folders that were missing on the way
to it. Of a failed attempt some of the folders may be left. `Disk.OnWay` are the places of such
folders. -/
structure Kept (path : Path) (disk disk' : Disk) : Prop where
  here : disk'.here = disk.here
  standing : ∀ place, place ≠ disk.lexicalPlace path →
    disk'.tree.standing? place = disk.tree.standing? place ∨
      disk.OnWay path place ∧ disk.tree.standing? place = none ∧
        disk'.tree.standing? place = some .folder

/-- **Keeping settings in a file changes the file and the missing folders on the way to it**,
whether or not it succeeds. The two steps are `grown_ensureFolder` and `standing?_write`. -/
theorem kept_writeFile (disk : Disk) (path : Path) (settings : Settings) :
    Kept path disk (writeFile disk path settings).1 := by
  have hgrown := disk.grown_ensureFolder path.parent
  have hfolders : Kept path disk (disk.ensureFolder path.parent).1 :=
    ⟨hgrown.here, fun place hne => (hgrown.standing place).imp_right fun ⟨hplace, hrest⟩ =>
      ⟨hplace.onWay hne, hrest⟩⟩
  unfold writeFile
  split
  · rename_i disk' fault hmade
    rw [hmade] at hfolders
    exact hfolders
  · rename_i disk' hmade
    rw [hmade] at hfolders
    split
    · exact hfolders
    · rename_i disk'' hwrite
      refine ⟨(Disk.here_write hwrite).trans hfolders.here, fun place hne => ?_⟩
      rw [Disk.standing?_write hwrite (by rwa [Disk.lexicalPlace_congr hfolders.here])]
      exact hfolders.standing place hne

end Store
end Settings
end SpiceKit
