import SpiceKit.Proofs.Disk.Again
import SpiceKit.Proofs.Encoding.LineEnds
import SpiceKit.Proofs.Workplace

/-!
# A document that is loaded and saved unedited

Every action on a document saves it first, whether or not anything was edited. What this does to a
file is told by its bytes: reading unifies the line ends, and writing does not bring the old ones
back. So **the file is left with one line feed for every line end and is the same in every other
byte** (`Document.load_and_save`), which is a change exactly if there was a carriage return in it.
Nothing is changed elsewhere, and a second time nothing is changed at all.

Bytes that are no text are never written over: no document is loaded of them.
-/

set_option autoImplicit false

namespace SpiceKit

namespace Disk

variable {disk : Disk} {path : Path} {bytes : List UInt8} {text : List Char}

theorem names_ne_nil_of_read (hhere : disk.tree.FolderAt disk.here)
    (hfile : disk.read path = .ok bytes) : path.names ≠ [] := by
  intro hnames
  obtain ⟨place, htarget, hnode⟩ := read_eq_ok.mp hfile
  obtain ⟨-, -, hfollow⟩ := target_eq_ok.mp htarget
  rw [hnames] at hfollow
  obtain rfl : disk.origin path = place := Except.ok.inj hfollow
  obtain ⟨entries, hentries⟩ : disk.tree.FolderAt (disk.origin path) := by
    unfold origin
    split
    · exact hhere
    · exact hhere.top
  cases hnode.symm.trans hentries

theorem exists_writeText_of_read (hhere : disk.tree.FolderAt disk.here)
    (hfile : disk.read path = .ok bytes) (text : List Char) :
    ∃ disk', disk.writeText path text = .ok disk' := by
  have hne := names_ne_nil_of_read hhere hfile
  obtain ⟨place, htarget, hnode⟩ := read_eq_ok.mp hfile
  simp only [writeText, write, htarget, bind, Except.bind, if_neg hne, hnode]
  exact ⟨_, rfl⟩

end Disk

namespace Document

open Work

variable {disk : Disk} {path : Path} {bytes : List UInt8} {text : List Char}

theorem load_of_text (hfile : disk.read path = .ok bytes) (htext : Disk.textOfBytes bytes = .ok text) :
    load disk path = .ok { uri := uriOf (disk.lexicalPlace path), path := path, text := text } := by
  rw [load, Disk.readText_eq_ok.mpr ⟨bytes, hfile, htext⟩]
  rfl

theorem load_of_fault {fault : Utf8.Fault} (hfile : disk.read path = .ok bytes)
    (htext : Disk.textOfBytes bytes = .error fault) : load disk path = .error (.encoding fault) := by
  simp only [load, Disk.readText, hfile, htext, Except.map]

/-- Of a file, no document is loaded exactly if its bytes are not valid, which here is what the
validity check of the standard library says (`Utf8.exists_decode_iff_isValidUTF8`). -/
theorem load_fails_iff (hfile : disk.read path = .ok bytes) :
    (∃ fault, load disk path = .error (.encoding fault)) ↔ ¬ bytes.toByteArray.IsValidUTF8 := by
  rw [← Disk.exists_textOfBytes_iff]
  cases htext : Disk.textOfBytes bytes with
  | error fault => simp [load_of_fault hfile htext]
  | ok text => simp [load_of_text hfile htext]

/-- **Loading and saving leaves a file with unified line ends and the same in every other byte.** A
file whose bytes are not valid is not loaded. Of any other, the document that is loaded can be
saved; the file then holds its bytes with one line feed for every line end, which are the same bytes
exactly if there was no carriage return among them, and no other place is changed. The same document
is loaded again, and saving it once more leaves every place as it is. The bytes are unified by
`Utf8.unifyReturns`; places are compared by `Disk.standing?`. -/
theorem load_and_save {place : Workplace} (hhere : place.disk.tree.FolderAt place.disk.here)
    (hfile : place.disk.read path = .ok bytes) :
    ((∃ fault, load place.disk path = .error (.encoding fault)) ↔
      ¬ bytes.toByteArray.IsValidUTF8) ∧
    (bytes.toByteArray.IsValidUTF8 → ∃ document saved,
      load place.disk path = .ok document ∧
      runAt (saveDocument document) place = (.ok (), { place with disk := saved }) ∧
      saved.read path = .ok (Utf8.unifyReturns bytes) ∧
      (saved.read path = .ok bytes ↔ 0x0D ∉ bytes) ∧
      saved.here = place.disk.here ∧
      (∀ other, other ≠ place.disk.lexicalPlace path →
        saved.tree.standing? other = place.disk.tree.standing? other) ∧
      load saved path = .ok document ∧
      ∃ again,
        runAt (saveDocument document) { place with disk := saved } =
          (.ok (), { place with disk := again }) ∧
        again.read path = saved.read path ∧ again.here = saved.here ∧
        ∀ other, again.tree.standing? other = saved.tree.standing? other) := by
  refine ⟨load_fails_iff hfile, fun hvalid => ?_⟩
  obtain ⟨text, htext⟩ := Disk.exists_textOfBytes_iff.mpr hvalid
  have hbytes := Disk.encode_of_textOfBytes htext
  obtain ⟨saved, hwrite⟩ := Disk.exists_writeText_of_read hhere hfile text
  obtain ⟨again, hagain, hhere', hstanding⟩ := Disk.write_again hwrite
  have hsaved : saved.read path = .ok (Utf8.unifyReturns bytes) := hbytes ▸ Disk.read_of_write hwrite
  have hsame : saved.here = place.disk.here := Disk.here_write hwrite
  refine ⟨_, saved, load_of_text hfile htext, runAt_saveDocument_ok hwrite, hsaved, ?_, hsame,
    fun other hother => Disk.standing?_write hwrite hother, ?_, again, runAt_saveDocument_ok hagain, ?_,
    hhere', hstanding⟩
  · rw [hsaved, Except.ok.injEq]
    exact Utf8.unifyReturns_eq_self_iff
  · have hread : Disk.textOfBytes (Utf8.unifyReturns bytes) = .ok text :=
      hbytes ▸ Disk.textOfBytes_encode htext
    rw [load_of_text hsaved hread, Disk.lexicalPlace_congr hsame]
  · rw [hsaved, ← hbytes]
    exact Disk.read_of_write hagain

/-- A byte order mark and a character beyond the first plane are kept; a pair and a lone return
become a line feed each. -/
theorem load_and_save_marked :
    let bytes : List UInt8 :=
      [0xEF, 0xBB, 0xBF, 0xF0, 0x9F, 0x98, 0x80, 0x0D, 0x0D, 0x0A, 0x61, 0x0D]
    let place : Workplace :=
      { disk := ⟨.folder [("a.spc".toList, .file bytes)], []⟩, store := { keeper := .memory {} } }
    ∃ document saved, load place.disk (.ofString "a.spc") = .ok document ∧
      runAt (saveDocument document) place = (.ok (), { place with disk := saved }) ∧
      saved.read (.ofString "a.spc") =
        .ok [0xEF, 0xBB, 0xBF, 0xF0, 0x9F, 0x98, 0x80, 0x0A, 0x0A, 0x61, 0x0A] := by
  intro bytes place
  have hvalid : bytes.toByteArray.IsValidUTF8 := ⟨"\ufeff😀\r\r\na\r".toList, by decide⟩
  have hhere : place.disk.tree.FolderAt place.disk.here := ⟨_, rfl⟩
  have hfile : place.disk.read (.ofString "a.spc") = .ok bytes := rfl
  obtain ⟨document, saved, hload, hsave, hread, -⟩ := (load_and_save hhere hfile).2 hvalid
  exact ⟨document, saved, hload, hsave, hread⟩

end Document
end SpiceKit
