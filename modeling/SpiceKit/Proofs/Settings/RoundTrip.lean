import SpiceKit.Proofs.Disk.Again
import SpiceKit.Proofs.Settings.Store

/-!
# Settings that are saved and loaded again

Every number is written with digits that read back as it, so settings whose texts are joined are
read again just as they were written. **Saving them and loading them gives them back, and saving
what was loaded writes the same bytes** (`Settings.Store.load_save`): the second time every folder
is there and the file holds these bytes already.
-/

set_option autoImplicit false

namespace SpiceKit
namespace Settings

theorem reread_eq (settings : Settings) : settings.reread = settings :=
  reread_eq_self (Binary64.ofText?_toText_self settings.timeLimit)

namespace Store

variable {disk disk' : Disk} {path : Path} {settings : Settings}

/-- Settings that were written to a file are there, and writing them again leaves every place as it
is. Making the folder makes nothing, and `Disk.write_again` is the rest. -/
theorem writeFile_again (h : writeFile disk path settings = (disk', none)) :
    disk'.read path = .ok (Utf8.encode (Json.write settings.toJson)) ∧
      ∃ disk'', writeFile disk' path settings = (disk'', none) ∧ disk''.here = disk'.here ∧
        ∀ place, disk''.tree.standing? place = disk'.tree.standing? place := by
  unfold writeFile at h
  split at h
  · cases (Prod.mk.inj h).2
  · rename_i made _
    split at h
    · cases (Prod.mk.inj h).2
    · rename_i hwrite
      obtain rfl := (Prod.mk.inj h).1
      have hread := Disk.read_of_write hwrite
      obtain ⟨place, -, hne, -, -⟩ := Disk.write_eq_ok hwrite
      obtain ⟨place', htarget, -⟩ := Disk.read_eq_ok.mp hread
      obtain ⟨disk'', hagain, hhere, hstanding⟩ := Disk.write_again hwrite
      refine ⟨hread, disk'', ?_, hhere, hstanding⟩
      rw [writeFile, Disk.ensureFolder_of_hasFolder (Disk.hasFolder_parent hne htarget)]
      simp only [Disk.writeText, hagain]

/-- **Settings that are saved to a file are loaded from it just as they were**, whatever the two
texts, the truth values and the time limit are. Saving what was loaded succeeds, writes the same
bytes again and leaves every place as it is. It is `load_of_writeFile` with the round trip of
numbers (`reread_eq`), and `writeFile_again` for the second save. -/
theorem load_save {compiler runner : String} {store : Store}
    (hcompiler : settings.compiler = .ofString compiler) (hrunner : settings.runner = .ofString runner)
    (h : save disk { keeper := .file path } settings = (disk', store, none)) :
    load disk' store = .ok settings ∧
      ∃ bytes, disk'.read path = .ok bytes ∧
        ∀ loaded, load disk' store = .ok loaded →
          ∃ disk'', save disk' store loaded = (disk'', store, none) ∧ disk''.read path = .ok bytes ∧
            disk''.here = disk'.here ∧
            ∀ place, disk''.tree.standing? place = disk'.tree.standing? place := by
  have hjoined : settings.Joined :=
    ⟨hcompiler ▸ WideText.joined_ofString compiler, hrunner ▸ WideText.joined_ofString runner⟩
  obtain ⟨hdisk, hrest⟩ := Prod.mk.inj h
  obtain ⟨rfl, hfault⟩ := Prod.mk.inj hrest
  have hwrite : writeFile disk path settings = (disk', none) := Prod.ext hdisk hfault
  have hload : load disk' { keeper := .file path } = .ok settings := by
    rw [load_eq, load_of_writeFile hjoined hwrite, reread_eq]
    rfl
  obtain ⟨hread, disk'', hagain, hhere, hstanding⟩ := writeFile_again hwrite
  refine ⟨hload, _, hread, fun loaded hloaded => ?_⟩
  obtain rfl := Except.ok.inj (hload.symm.trans hloaded)
  refine ⟨disk'', ?_, (writeFile_again hagain).1, hhere, hstanding⟩
  simp only [save, toKeep, hagain]

/-- Settings with a quotation mark, a character beyond the first plane and an endless time limit
come back from a file in a folder that was not there. -/
theorem load_save_endless :
    let settings : Settings :=
      { compiler := .ofString "a\"b", runner := .ofString "😀", timeLimit := .infinite false }
    let store : Store := { keeper := .file (Path.ofString "new/settings.json") }
    ∃ disk', save ⟨.emptyFolder, []⟩ store settings = (disk', store, none) ∧
      load disk' store = .ok settings := by
  intro settings store
  obtain ⟨disk', hsave⟩ : ∃ disk', save ⟨.emptyFolder, []⟩ store settings = (disk', store, none) :=
    ⟨_, rfl⟩
  exact ⟨disk', hsave, (load_save rfl rfl hsave).1⟩

end Store
end Settings
end SpiceKit
