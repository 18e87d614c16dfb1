import Mathlib
import SpiceKit.Proofs.Encoding.Utf8
import SpiceKit.Proofs.Workspace.Selection

/-!
# Discovery

The files that the walk finds, sorted. Their paths differ, since the written path of a file in a
proper tree says where it is; so the order is strict, and **the sources below a path are the files
that the rule lists, in strict order of their paths** (`Workspace.sourcesBy_lists`).

All of this holds in every dialect of pattern files. The limit on the length of a path shows in the
statement as the folders to which the walk comes (`Walked`): a file below a folder whose path is too
long is not listed, and `sources_skip_far_folder` is a disk on which there is one.
-/

set_option autoImplicit false

namespace SpiceKit
namespace Workspace

variable {ρ : Type} {dialect : Ignore.Dialect ρ} {path : Path} {root : Node}
  {folder names rest : List (List Char)} {found : List Found}

theorem discover_eq_ok :
    discover dialect path root = .ok found ↔ ∃ walked, walk dialect path [] [] root = .ok walked ∧
      found = walked.mergeSort fun a b => !(decide (b.path < a.path)) := by
  unfold discover
  cases walk dialect path [] [] root with
  | error fault => simp [Except.map]
  | ok walked => simp [Except.map, eq_comm]

/-- **The files that the rule lists are found**, and no others. `Listed` is the rule, and `mem_walk`
the induction behind this. -/
theorem mem_discover (hproper : root.Proper) (hfound : discover dialect path root = .ok found) :
    ⟨names⟩ ∈ found ↔ Listed dialect path root names := by
  obtain ⟨walked, hwalked, rfl⟩ := discover_eq_ok.mp hfound
  rw [List.mem_mergeSort, listed_iff]
  exact mem_walk hproper (clear_root_iff.mpr (spared_nil root true)) hwalked

theorem Listed.isName (hproper : root.Proper) (h : Listed dialect path root names) :
    names ≠ [] ∧ ∀ name ∈ names, Path.IsName name := by
  obtain ⟨bytes, hfile⟩ := h.file
  exact ⟨(listed_iff.mp h).ne_nil, hproper.isName_of_get? hfile⟩

/-- Two files that were found are told apart by their paths. In a proper tree no name holds a slash,
so the names can be read off the written path (`Path.joinNames_inj`). -/
theorem path_injOn (hproper : root.Proper) (hfound : discover dialect path root = .ok found)
    {a b : Found} (ha : a ∈ found) (hb : b ∈ found) (hsame : a.path = b.path) : a = b := by
  obtain ⟨names⟩ := a
  obtain ⟨names'⟩ := b
  obtain ⟨hne, hnames⟩ := ((mem_discover hproper hfound).mp ha).isName hproper
  obtain ⟨hne', hnames'⟩ := ((mem_discover hproper hfound).mp hb).isName hproper
  exact congrArg Found.mk (Path.joinNames_inj hne hne' (fun name h => (hnames name h).no_slash)
    (fun name h => (hnames' name h).no_slash) hsame)

theorem sorted_mergeSort (walked : List Found) :
    (walked.mergeSort fun a b => !(decide (b.path < a.path))).Pairwise
      fun a b => a.path ≤ b.path := by
  have hsorted : (walked.mergeSort fun a b => !(decide (b.path < a.path))).Pairwise
      fun a b => !(decide (b.path < a.path)) := by
    apply List.pairwise_mergeSort
    · intro a b c hab hbc
      simp only [Bool.not_eq_true', decide_eq_false_iff_not, not_lt] at hab hbc ⊢
      exact hab.trans hbc
    · intro a b
      simp only [Bool.or_eq_true, Bool.not_eq_true', decide_eq_false_iff_not, not_lt]
      exact le_total a.path b.path
  exact hsorted.imp fun {a b} h => by simpa using h

/-- **The files are found in strict order of their paths**, hence none twice. That no path is there
twice is `nodup_walk` with `path_injOn`. -/
theorem discover_sorted (hproper : root.Proper) (hfound : discover dialect path root = .ok found) :
    found.Pairwise fun a b => a.path < b.path := by
  have hdistinct : found.Pairwise fun a b => a.path ≠ b.path := by
    have hnodup : found.Nodup := by
      obtain ⟨walked, hwalked, rfl⟩ := discover_eq_ok.mp hfound
      rw [(List.mergeSort_perm walked _).nodup_iff]
      exact nodup_walk hproper (clear_root_iff.mpr (spared_nil root true)) hwalked
    exact hnodup.pairwise_of_forall_ne fun a ha b hb hne hsame =>
      hne (path_injOn hproper hfound ha hb hsame)
  obtain ⟨walked, -, rfl⟩ := discover_eq_ok.mp hfound
  exact ((sorted_mergeSort walked).and hdistinct).imp fun ⟨hle, hne⟩ => lt_of_le_of_ne hle hne

/-- **What is below a folder to which the walk does not come makes no difference.** The folders to
which it comes are those of `Walked`. -/
theorem discover_put (hproper : root.Proper) (hwalked : ¬ Walked dialect path root folder)
    (hrest : rest ≠ []) (target : Node) :
    discover dialect path (root.put (folder ++ rest) target) = discover dialect path root := by
  unfold discover
  rw [walk_put hproper (clear_root_iff.mpr (spared_nil root true)) (walked_iff.not.mp hwalked) hrest]

theorem sourcesBy_eq {disk : Disk} (hroot : disk.find path = .ok (some root)) :
    sourcesBy dialect disk path = discover dialect path root := by
  unfold sourcesBy
  cases hnull : path.hasNull with
  | true => simp [Disk.find, hnull] at hroot
  | false => simp only [hroot, Bool.false_eq_true, if_false]

/-- **Below a path to a proper tree, the sources are the files that the rule lists**, in strict
order of their paths, if the pattern files of all folders that the walk comes to can be read. What
is below a folder to which it does not come is not looked at, pattern files included. The rule is
`Listed`, the folders are those of `Walked`, and that the pattern files can be read is
`PatternsRead`. -/
theorem sourcesBy_lists (dialect : Ignore.Dialect ρ) {disk : Disk} {path : Path} {root : Node}
    (hroot : disk.find path = .ok (some root)) (hproper : root.Proper)
    (hread : ∀ folder, Walked dialect path root folder → PatternsRead dialect path root folder) :
    ∃ found, sourcesBy dialect disk path = .ok found ∧
      found.Pairwise (fun a b => a.path < b.path) ∧
      (∀ names, ⟨names⟩ ∈ found ↔ Listed dialect path root names) ∧
      ∀ folder rest target, ¬ Walked dialect path root folder → rest ≠ [] →
        discover dialect path (root.put (folder ++ rest) target) = discover dialect path root := by
  have hclear : Clear dialect [] root true [] := clear_root_iff.mpr (spared_nil root true)
  obtain ⟨walked, hwalked⟩ : ∃ walked, walk dialect path [] [] root = .ok walked := by
    apply exists_walk hproper hclear
    intro folder hfolder
    rw [Path.below_nil]
    exact hread folder (walked_iff.mpr hfolder)
  have hfound := discover_eq_ok.mpr ⟨walked, hwalked, rfl⟩
  refine ⟨_, (sourcesBy_eq hroot).trans hfound, discover_sorted hproper hfound, ?_, ?_⟩
  · intro names
    exact mem_discover hproper hfound
  · intro folder rest target hfolder hrest
    exact discover_put hproper hfolder hrest target

/-! ### A folder with a pattern file -/

/-- A folder with two sources, one of which its pattern file excludes. -/
def halved : Node :=
  .folder [(patternFile, .file (Utf8.encode "b.spc".toList)), ("b.spc".toList, .file []),
    ("c.spc".toList, .file [])]

theorem proper_halved : halved.Proper := by
  refine .folder (by decide) (by decide) ?_
  simp only [List.forall_mem_cons]
  exact ⟨.file _, .file _, .file _, nofun⟩

theorem eq_nil_of_folderAt_halved (h : halved.FolderAt folder) : folder = [] := by
  cases folder with
  | nil => rfl
  | cons name names =>
    obtain ⟨entries, node, hentries, hfind, hnode⟩ := Node.folderAt_cons.mp h
    obtain rfl := Node.folder.inj hentries
    obtain ⟨inner, rfl⟩ := Node.folderAt_nil.mp hnode.top
    have hmem := Node.mem_of_find? hfind
    simp at hmem

theorem sourcesBy_lists_halved :
    ∃ found, sourcesBy Ignore.standard ⟨halved, []⟩ ⟨.here, []⟩ = .ok found ∧
      (∀ names, ⟨names⟩ ∈ found ↔ Listed Ignore.standard ⟨.here, []⟩ halved names) ∧
      ⟨["b.spc".toList]⟩ ∉ found := by
  obtain ⟨rules, hrules, hexcluded⟩ : ∃ rules, Ignore.ofText "b.spc".toList = .ok rules ∧
      Ignore.excludes rules "b.spc".toList = true := by
    have hread : ((Ignore.ofText "b.spc".toList).toOption.map fun rules =>
        Ignore.excludes rules "b.spc".toList) = some true := by decide +kernel
    cases hrules : Ignore.ofText "b.spc".toList with
    | error fault =>
      rw [hrules] at hread
      cases hread
    | ok rules =>
      rw [hrules] at hread
      exact ⟨rules, rfl, Option.some.inj hread⟩
  have hsaid : Says Ignore.standard halved [] rules :=
    ⟨_, _, rfl, Disk.textOfBytes_encode_of_not_mem (by decide), hrules⟩
  have hread : ∀ folder, Walked Ignore.standard ⟨.here, []⟩ halved folder →
      PatternsRead Ignore.standard ⟨.here, []⟩ halved folder := by
    intro folder hfolder
    obtain rfl := eq_nil_of_folderAt_halved hfolder.there
    refine ⟨by decide, fun bytes hbytes => ?_⟩
    obtain rfl := Node.file.inj (Option.some.inj hbytes)
    exact ⟨_, rules, Disk.textOfBytes_encode_of_not_mem (by decide), hrules⟩
  have hroot : (Disk.mk halved []).find ⟨.here, []⟩ = .ok (some halved) := rfl
  obtain ⟨found, hfound, -, hlisted, -⟩ :=
    sourcesBy_lists Ignore.standard hroot proper_halved hread
  refine ⟨found, hfound, hlisted, fun hmem => ?_⟩
  have hspared := ((hlisted _).mp hmem).spared [] _ rules rfl (by simp) hsaid
  exact Bool.noConfusion (hexcluded.symm.trans hspared)

/-! ## Paths that are too long

A path may be as long as one likes and still lead to a folder close by. From a folder that is
reached on such a way, a folder below may be too far in writing. -/

theorem length_encode_joinNames (hne : names ≠ []) :
    (Utf8.encode (Path.joinNames names)).length + 1 =
      (names.map fun name => (Utf8.encode name).length + 1).sum := by
  have hslash : ∀ cs : List Char, (Utf8.encode ('/' :: cs)).length = 1 + (Utf8.encode cs).length :=
    fun cs => List.length_append
  induction names with
  | nil => exact absurd rfl hne
  | cons first names ih =>
    cases names with
    | nil =>
      rw [Path.joinNames_singleton]
      rfl
    | cons second names =>
      rw [Path.joinNames_cons_cons, Utf8.encode_append, List.length_append, hslash, List.map_cons,
        List.sum_cons, ← ih (List.cons_ne_nil second names)]
      omega

theorem le_length_encode_writeBehind (text name : List Char) :
    (Utf8.encode text).length + (Utf8.encode name).length ≤
      (Utf8.encode (writeBehind text name)).length := by
  unfold writeBehind
  split
  · rw [Utf8.encode_append, List.length_append]
  · rw [Utf8.encode_append, List.length_append]
    have hslash : (Utf8.encode ('/' :: name)).length = 1 + (Utf8.encode name).length :=
      List.length_append
    omega

/-- The way into a folder, out of it and into it again, so many times. It leads to the folder next
door (`find_winding`) and takes as many bytes as one likes. -/
def winding (turns : Nat) : Path :=
  ⟨.here, ['a'] :: (List.replicate turns [['.', '.'], ['a']]).flatten⟩

theorem length_encode_winding (turns : Nat) (below : List (List Char)) :
    (Utf8.encode ((winding turns).below below).toText).length =
      5 * turns + 1 + (below.map fun name => (Utf8.encode name).length + 1).sum := by
  have hne : ((winding turns).below below).names ≠ [] := by simp [winding, Path.below]
  have hlength := length_encode_joinNames hne
  have htext : ((winding turns).below below).toText =
      Path.joinNames ((winding turns).below below).names := rfl
  have hin : (Utf8.encode ['a']).length = 1 := rfl
  have hout : (Utf8.encode ['.', '.']).length = 2 := rfl
  rw [htext]
  simp only [winding, Path.below, List.cons_append, List.map_cons, List.map_append, List.map_flatten,
    List.map_replicate, List.sum_cons, List.sum_append, List.sum_flatten, List.sum_replicate_nat,
    List.map_nil, List.sum_nil, hin, hout] at hlength ⊢
  omega

theorem follow_winding (entries : List (List Char × Node)) (turns : Nat) :
    Disk.follow (.folder [(['a'], .folder entries)]) [] (winding turns).names = .ok [['a']] := by
  have hturns : Disk.follow (.folder [(['a'], .folder entries)]) [['a']]
      (List.replicate turns [['.', '.'], ['a']]).flatten = .ok [['a']] := by
    induction turns with
    | zero => rfl
    | succ turns ih =>
      rw [List.replicate_succ, List.flatten_cons]
      refine Disk.follow_cons_eq_ok.mpr ⟨⟨_, rfl⟩, Or.inl ⟨rfl, ?_⟩⟩
      exact Disk.follow_cons_eq_ok.mpr ⟨⟨_, rfl⟩, Or.inr ⟨by decide, by decide, ih⟩⟩
  exact Disk.follow_cons_eq_ok.mpr ⟨⟨_, rfl⟩, Or.inr ⟨by decide, by decide, hturns⟩⟩

theorem find_winding {turns : Nat} (hshort : 5 * turns < Disk.pathLimit)
    (entries : List (List Char × Node)) :
    (Disk.mk (.folder [(['a'], .folder entries)]) []).find (winding turns) =
      .ok (some (.folder entries)) := by
  have hnull : (winding turns).hasNull = false := by
    simp [winding, Path.hasNull, List.any_flatten]
  have hlength : Disk.exceeds Disk.pathLimit (winding turns).toText = false := by
    have := length_encode_winding turns []
    rw [Path.below_nil] at this
    unfold Disk.exceeds
    rw [this, decide_eq_false_iff_not]
    simp only [List.map_nil, List.sum_nil]
    omega
  have hplace : (Disk.mk (.folder [(['a'], .folder entries)]) []).place (winding turns) =
      .ok [['a']] := by
    unfold Disk.place
    rw [hlength]
    exact follow_winding entries turns
  unfold Disk.find
  rw [hnull, hplace]
  rfl

def oneDown (name : List Char) : Node :=
  .folder [(name, .folder [("x.spc".toList, .file (Utf8.encode "x;".toList))])]

theorem proper_oneDown {name : List Char} (h : Path.IsName name) : (oneDown name).Proper := by
  refine .folder (List.pairwise_singleton _ _) (List.forall_mem_singleton.mpr h) ?_
  refine List.forall_mem_singleton.mpr (.folder (by decide) (by decide) ?_)
  exact List.forall_mem_singleton.mpr (.file _)

theorem get?_singleton (name first : List Char) (node : Node) (rest : List (List Char)) :
    (Node.folder [(name, node)]).get? (first :: rest) =
      if name = first then node.get? rest else none := by
  rw [Node.get?, Node.find?]
  split
  · rfl
  · rfl

theorem get?_patternFile_oneDown {name : List Char} (h : name ≠ patternFile)
    (folder : List (List Char)) : (oneDown name).get? (folder ++ [patternFile]) = none := by
  unfold oneDown
  cases folder with
  | nil => rw [List.nil_append, get?_singleton, if_neg h]
  | cons first folder =>
    rw [List.cons_append, get?_singleton]
    split
    · cases folder with
      | nil => rfl
      | cons second folder =>
        rw [List.cons_append, get?_singleton]
        split
        · cases folder <;> rfl
        · rfl
    · rfl

/-- The walk passes over the folder if it is too far to be listed. `oneDown` is the tree with that
one folder in it. -/
theorem sourcesBy_oneDown {disk : Disk} {name : List Char}
    (hroot : disk.find path = .ok (some (oneDown name))) (hname : name ≠ patternFile)
    (hlisted : canList path [] = true) (hfar : canList path [name] = false)
    (hshort : Disk.exceeds Disk.pathLimit (path.child patternFile).toText = false) :
    sourcesBy dialect disk path = .ok [] := by
  have hread : PatternsRead dialect path (oneDown name) [] := by
    refine ⟨by rwa [Path.below_nil], fun bytes hbytes => ?_⟩
    rw [get?_patternFile_oneDown hname] at hbytes
    cases hbytes
  obtain ⟨own, hown⟩ := exists_ownLayer hread
  have hwalk : walk dialect path [] [] (oneDown name) = .ok [] := by
    refine (walk_folder_eq_ok hlisted).mpr ⟨own, [], by rw [Path.below_nil]; exact hown, ?_, rfl⟩
    by_cases hopen : isOpen dialect ([] ++ own) name = true
    · exact (walkFolders_open_eq_ok hopen).mpr ⟨[], [], walk_eq_nil_of_not_listed hfar _, rfl, rfl⟩
    · rw [walkFolders, if_neg hopen]
      rfl
  rw [sourcesBy_eq hroot]
  exact discover_eq_ok.mpr ⟨[], hwalk, by simp⟩

/-- A name of 250 bytes. -/
def farName : List Char := List.replicate 250 'b'

/-- A disk with a source in a folder of that name. -/
def farDisk : Disk := ⟨.folder [(['a'], oneDown farName)], []⟩

/-- **Not every source that no pattern excludes is listed.** At the end of a way of 3901 bytes, the
folder of a long name cannot be listed; the source in it is passed over, without a fault. The way is
`winding`, and the limit `Disk.pathLimit`. -/
theorem sources_skip_far_folder :
    farDisk.find (winding 780) = .ok (some (oneDown farName)) ∧ (oneDown farName).Proper ∧
      (∀ folder, (oneDown farName).get? (folder ++ [patternFile]) = none) ∧
      (oneDown farName).get? [farName, "x.spc".toList] = some (.file (Utf8.encode "x;".toList)) ∧
      isSourceName "x.spc".toList = true ∧ hiddenFolder ∉ [farName] ∧
      sources farDisk (winding 780) = .ok [] := by
  have hlength : (Utf8.encode farName).length = 250 := Utf8.length_encode_replicate 250 'b'
  have hpath : (Utf8.encode (winding 780).toText).length = 3901 := by
    have := length_encode_winding 780 []
    rwa [Path.below_nil] at this
  have hroot : farDisk.find (winding 780) = .ok (some (oneDown farName)) := find_winding (by decide) _
  have hother : ∀ other : List Char, other.head? ≠ some 'b' → farName ≠ other := by
    rintro other hhead rfl
    exact hhead rfl
  have hname : Path.IsName farName := by
    refine ⟨hother _ (by decide), hother _ (by decide), hother _ (by decide), ?_, ?_, ?_⟩
    · exact fun h => absurd (List.eq_of_mem_replicate h) (by decide)
    · exact fun h => absurd (List.eq_of_mem_replicate h) (by decide)
    · simp [Disk.exceeds, hlength, Disk.nameLimit]
  have hfile : (oneDown farName).get? [farName, "x.spc".toList] =
      some (.file (Utf8.encode "x;".toList)) := by
    unfold oneDown
    rw [get?_singleton, if_pos rfl]
    rfl
  have hpattern := hother patternFile (by decide)
  refine ⟨hroot, proper_oneDown hname, get?_patternFile_oneDown hpattern, hfile, by decide, ?_, ?_⟩
  · intro hmem
    exact hother hiddenFolder (by decide) (List.mem_singleton.mp hmem).symm
  · apply sourcesBy_oneDown hroot hpattern
    · unfold canList listingText Disk.exceeds
      rw [List.foldl_nil, hpath]
      rfl
    · have hle := le_length_encode_writeBehind (winding 780).toText farName
      have hlong : Disk.pathLimit < (Utf8.encode (writeBehind (winding 780).toText farName)).length := by
        unfold Disk.pathLimit
        omega
      unfold canList listingText Disk.exceeds
      rw [List.foldl_cons, List.foldl_nil, decide_eq_true hlong, Bool.not_true]
    · have hchild := length_encode_winding 780 [patternFile]
      unfold Disk.exceeds
      rw [show (winding 780).child patternFile = (winding 780).below [patternFile] from rfl, hchild]
      rfl

end Workspace
end SpiceKit
