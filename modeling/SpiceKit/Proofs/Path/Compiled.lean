import SpiceKit.Proofs.Disk.Tree

/-!
# Where a source is compiled to

The name of a source is a stem and the ending of sources, and the stem is not empty. That is the
whole rule: such a name keeps its stem and gets the ending of compiled files
(`Path.compiledName_source`), every other name is kept (`Path.compiledName_other`), and no other
part of a path is looked at.

A path that was read is `Normal`: its names are neither empty nor a dot and hold no slash. What is
written of a normal path is read as that path (`Path.ofText_toText`), and the target of a normal
path is normal, so that two targets are written alike only if they are the same.
**`Path.compiled_renames_sources`** puts this together for the paths that are read from a text.
-/

set_option autoImplicit false

namespace SpiceKit
namespace Path

variable {path path' : Path} {name stem extension : List Char}

/-! ## Names, cut before the last dot -/

theorem exists_last_dot (name : List Char) :
    '.' ∉ name ∨ ∃ stem extension, name = stem ++ '.' :: extension ∧ '.' ∉ extension := by
  by_cases hdot : '.' ∈ name.reverse
  · obtain ⟨back, front, hname, hback⟩ := List.eq_append_cons_of_mem hdot
    refine Or.inr ⟨front.reverse, back.reverse, ?_, by rwa [List.mem_reverse]⟩
    rw [← List.reverse_reverse name, hname]
    simp
  · exact Or.inl (by rwa [List.mem_reverse] at hdot)

theorem forall_reverse_ne_dot {cs : List Char} (h : '.' ∉ cs) :
    ∀ c ∈ cs.reverse, decide (c ≠ '.') = true := by
  intro c hc
  rw [decide_eq_true_eq]
  rintro rfl
  exact h (List.mem_reverse.mp hc)

theorem splitSuffix_of_not_mem (h : '.' ∉ name) : splitSuffix name = (name, []) := by
  have hback : (name.reverse.takeWhile (· ≠ '.')).reverse = name := by
    rw [List.takeWhile_eq_self_iff.mpr (forall_reverse_ne_dot h), List.reverse_reverse]
  unfold splitSuffix
  simp only [hback, Nat.sub_self, Nat.zero_sub, List.take_zero, or_true, if_true]

theorem splitSuffix_append (h : '.' ∉ extension) (stem : List Char) :
    splitSuffix (stem ++ '.' :: extension) =
      if extension = [] ∨ stem = [] then (stem ++ '.' :: extension, [])
      else (stem, '.' :: extension) := by
  have hback : ((stem ++ '.' :: extension).reverse.takeWhile (· ≠ '.')).reverse = extension := by
    rw [List.reverse_append, List.reverse_cons, List.append_assoc,
      List.takeWhile_append_of_pos (forall_reverse_ne_dot h)]
    simp
  have hfront : (stem ++ '.' :: extension).length - extension.length - 1 = stem.length := by
    rw [List.length_append, List.length_cons]
    omega
  unfold splitSuffix
  simp only [hback, hfront, List.take_left]

/-- **The name of a source keeps its stem and gets the other ending.** The cut at the last dot is
`splitSuffix`. -/
theorem compiledName_source (hstem : stem ≠ []) :
    compiledName (stem ++ ".spc".toList) = stem ++ ".py".toList := by
  have hdot : '.' ∉ "spc".toList := by decide
  have hsplit : splitSuffix (stem ++ ".spc".toList) = (stem, ".spc".toList) :=
    (splitSuffix_append hdot stem).trans (if_neg (by simp [hstem]))
  rw [compiledName, hsplit]
  rfl

/-- **Every other name is kept.** Either there is no dot, or what stands behind the last one is no
ending of sources. -/
theorem compiledName_other (h : ∀ stem, stem ≠ [] → name ≠ stem ++ ".spc".toList) :
    compiledName name = name := by
  have hkept : (splitSuffix name).2 ≠ Vocabulary.sourceSuffix.toList := by
    intro hsuffix
    rcases exists_last_dot name with hnone | ⟨stem, extension, rfl, hdot⟩
    · rw [splitSuffix_of_not_mem hnone] at hsuffix
      cases hsuffix
    · rw [splitSuffix_append hdot] at hsuffix
      split at hsuffix
      · cases hsuffix
      · rename_i hne
        exact h stem (fun hstem => hne (Or.inr hstem)) (congrArg (stem ++ ·) hsuffix)
  simp only [compiledName, if_neg hkept]

/-! ## Paths -/

/-- A path of a source: the last name is a stem that is not empty, and the ending of sources. A name
that is the ending alone is no source, since its first dot is not taken for the beginning of an
ending. `compiled_renames_sources` tells the two kinds of paths apart by it. -/
structure SourceOf (path : Path) (stem : List Char) : Prop where
  nonempty : stem ≠ []
  last : path.names.getLast? = some (stem ++ ".spc".toList)

@[simp] theorem getLast?_child (folder : Path) (name : List Char) :
    (folder.child name).names.getLast? = some name := List.getLast?_concat

@[simp] theorem parent_child (folder : Path) (name : List Char) :
    (folder.child name).parent = folder := by
  rw [parent, child, List.dropLast_concat]

theorem length_names_child (folder : Path) (name : List Char) :
    (folder.child name).names.length = folder.names.length + 1 := List.length_append

theorem child_inj {folder folder' : Path} {name name' : List Char} :
    folder.child name = folder'.child name' ↔ folder = folder' ∧ name = name' := by
  constructor
  · intro h
    have hparent := congrArg parent h
    have hlast := congrArg (fun path => path.names.getLast?) h
    simp only [parent_child, getLast?_child, Option.some.injEq] at hparent hlast
    exact ⟨hparent, hlast⟩
  · rintro ⟨rfl, rfl⟩
    rfl

theorem parent_child_of_getLast? (h : path.names.getLast? = some name) :
    path.parent.child name = path := by
  have hne : path.names ≠ [] := fun hnil => by simp [hnil] at h
  have hname : path.name = name := by rw [Path.name, h, Option.getD_some]
  rw [← hname]
  exact parent_below_name hne

theorem SourceOf.eq_child (h : SourceOf path stem) :
    path = path.parent.child (stem ++ ".spc".toList) :=
  (parent_child_of_getLast? h.last).symm

/-- The target of a path with names is another name in the same folder. Which one, `compiledName`
says. -/
theorem compiled_of_getLast? (h : path.names.getLast? = some name) :
    path.compiled = path.parent.child (compiledName name) := by
  unfold compiled
  rw [h]
  rfl

/-- A source is compiled to the file of its stem beside it. This is the only thing that the results
on sources know of `Path.compiled`. -/
theorem SourceOf.compiled_eq (h : SourceOf path stem) :
    path.compiled = path.parent.child (stem ++ ".py".toList) := by
  rw [compiled_of_getLast? h.last, compiledName_source h.nonempty]

theorem compiled_of_forall_not (h : ∀ stem, ¬ SourceOf path stem) : path.compiled = path := by
  cases hlast : path.names.getLast? with
  | none =>
    unfold compiled
    rw [hlast]
  | some name =>
    have hkept : compiledName name = name :=
      compiledName_other fun stem hstem hname => h stem ⟨hstem, hname ▸ hlast⟩
    rw [compiled_of_getLast? hlast, hkept, parent_child_of_getLast? hlast]

theorem compiled_cases (path : Path) :
    (∃ stem, SourceOf path stem ∧ path.compiled = path.parent.child (stem ++ ".py".toList)) ∨
      path.compiled = path := by
  by_cases h : ∃ stem, SourceOf path stem
  · obtain ⟨stem, hsource⟩ := h
    exact Or.inl ⟨stem, hsource, hsource.compiled_eq⟩
  · exact Or.inr (compiled_of_forall_not (not_exists.mp h))

theorem not_sourceOf_child (folder : Path) (stem other : List Char) :
    ¬ SourceOf (folder.child (stem ++ ".py".toList)) other := by
  intro h
  have hname := h.last
  rw [getLast?_child, Option.some.injEq] at hname
  have hends := congrArg List.getLast? hname
  rw [List.getLast?_append_of_ne_nil _ (by decide), List.getLast?_append_of_ne_nil _ (by decide)]
    at hends
  exact absurd hends (by decide)

/-- **The target of a target is that target.** A target is no source, for its ending is another
(`not_sourceOf_child`). -/
theorem compiled_compiled (path : Path) : path.compiled.compiled = path.compiled := by
  rcases path.compiled_cases with ⟨stem, -, htarget⟩ | hkept
  · rw [htarget]
    exact compiled_of_forall_not (not_sourceOf_child _ _)
  · rw [hkept, hkept]

theorem parent_compiled (path : Path) : path.compiled.parent = path.parent := by
  rcases path.compiled_cases with ⟨stem, -, htarget⟩ | hkept
  · rw [htarget, parent_child]
  · rw [hkept]

theorem length_names_compiled (path : Path) :
    path.compiled.names.length = path.names.length := by
  rcases path.compiled_cases with ⟨stem, hsource, htarget⟩ | hkept
  · have hnames := congrArg (fun path => path.names.length) hsource.eq_child
    simp only [length_names_child] at hnames
    rw [htarget, length_names_child, hnames]
  · rw [hkept]

/-- **Two sources have the same target only if they are the same.** Stem and folder are read off the
target (`child_inj`). -/
theorem SourceOf.compiled_injective {stem' : List Char} (h : SourceOf path stem)
    (h' : SourceOf path' stem') (hsame : path.compiled = path'.compiled) : path = path' := by
  rw [h.compiled_eq, h'.compiled_eq, child_inj] at hsame
  rw [h.eq_child, h'.eq_child, hsame.1, List.append_cancel_right hsame.2]

theorem SourceOf.compiled_ne (h : SourceOf path stem) : path.compiled ≠ path := by
  intro hsame
  rw [h.compiled_eq] at hsame
  exact not_sourceOf_child _ _ _ (hsame ▸ h)

/-! ## Paths that are written and read -/

/-- A path as it is read: its names say something and hold no slash. Such a path is known by what is
written of it (`ofString_toString`), so that statements on paths can be stated for the texts that
are typed. -/
def Normal (path : Path) : Prop :=
  ∀ name ∈ path.names, name ≠ [] ∧ name ≠ ['.'] ∧ '/' ∉ name

theorem normal_ofText (text : List Char) : (ofText text).Normal := by
  intro name hname
  obtain ⟨hpiece, hsays⟩ := List.mem_filter.mp hname
  obtain ⟨hnonempty, hdot⟩ := of_decide_eq_true hsays
  exact ⟨hnonempty, hdot, Text.not_mem_of_mem_split hpiece⟩

theorem Normal.compiled (h : path.Normal) : path.compiled.Normal := by
  rcases path.compiled_cases with ⟨stem, hsource, htarget⟩ | hkept
  · rw [htarget]
    intro name hname
    rw [child, List.mem_append, List.mem_singleton] at hname
    rcases hname with hname | rfl
    · exact h name (List.dropLast_subset _ hname)
    · obtain ⟨-, -, hslash⟩ := h _ (List.mem_of_getLast? hsource.last)
      rw [List.mem_append, not_or] at hslash
      refine ⟨by simp, fun hdot => ?_, ?_⟩
      · have hlength := congrArg List.length hdot
        simp at hlength
      · rw [List.mem_append, not_or]
        exact ⟨hslash.1, by decide⟩
  · rw [hkept]
    exact h

theorem rootOf_slashes_append (root : Root) {c : Char} (hc : c ≠ '/') (cs : List Char) :
    rootOf (root.slashes ++ c :: cs) = root := by
  cases root with
  | here => simp [Root.slashes, rootOf, hc]
  | single => simp [Root.slashes, rootOf, hc]
  | double => simp [Root.slashes, rootOf, hc]

theorem filter_split_slashes_append (root : Root) (text : List Char) :
    ((Text.split '/' (root.slashes ++ text)).filter fun name => name ≠ [] ∧ name ≠ ['.']) =
      (Text.split '/' text).filter fun name => name ≠ [] ∧ name ≠ ['.'] := by
  cases root with
  | here => rfl
  | single => simp [Root.slashes, Text.split]
  | double => simp [Root.slashes, Text.split]

/-- **A path as it is read is read again from what is written of it.** A path as it is read is
`Normal`: it holds no name that reading would drop. -/
theorem ofText_toText (h : path.Normal) : ofText path.toText = path := by
  obtain ⟨root, names⟩ := path
  cases names with
  | nil =>
    cases root with
    | here => rfl
    | single => rfl
    | double => rfl
  | cons first names =>
    have htext : (⟨root, first :: names⟩ : Path).toText =
        root.slashes ++ joinNames (first :: names) := by
      cases root <;> rfl
    -- The written names start with a character that is no slash, so the root ends in front of it.
    obtain ⟨hnonempty, -, hslash⟩ := h first List.mem_cons_self
    obtain ⟨c, rest, hfirst⟩ := List.exists_cons_of_ne_nil hnonempty
    have hc : c ≠ '/' := fun heq => hslash (by simp [hfirst, heq])
    have hjoined : ∃ cs, joinNames (first :: names) = c :: cs := by
      cases names with
      | nil => exact ⟨rest, by rw [joinNames_singleton, hfirst]⟩
      | cons second names => exact ⟨_, by rw [joinNames_cons_cons, hfirst]; rfl⟩
    obtain ⟨cs, hcs⟩ := hjoined
    have hroot : rootOf (root.slashes ++ joinNames (first :: names)) = root := by
      rw [hcs]
      exact rootOf_slashes_append root hc cs
    have hnames : ((Text.split '/' (root.slashes ++ joinNames (first :: names))).filter
        fun name => name ≠ [] ∧ name ≠ ['.']) = first :: names := by
      rw [filter_split_slashes_append,
        split_joinNames (List.cons_ne_nil _ _) fun name hname => (h name hname).2.2]
      refine List.filter_eq_self.mpr fun name hname => ?_
      rw [decide_eq_true_eq]
      exact ⟨(h name hname).1, (h name hname).2.1⟩
    rw [htext, ofText, hroot, hnames]

theorem ofString_toString (h : path.Normal) : ofString path.toString = path := by
  rw [ofString, toString, String.toList_ofList]
  exact ofText_toText h

/-- **The target is another file exactly for a source.** Whatever text a path is read from: the
target of its target is that target, and it has all names of the path but the last. If the last name
is a stem that is not empty and the ending of sources, the target has the stem with the ending of
compiled files and is not the path itself, and no other source has this target. Every other path is
its own target. What is written of a target is read as that target. Sources are the paths with a
`SourceOf`. -/
theorem compiled_renames_sources (text : String) :
    let path := ofString text
    path.compiled.compiled = path.compiled ∧
    (path.compiled.parent = path.parent ∧ path.compiled.names.length = path.names.length) ∧
    (∀ stem, SourceOf path stem →
      path.compiled.names.getLast? = some (stem ++ ".py".toList) ∧ path.compiled ≠ path ∧
      ∀ text' stem', SourceOf (ofString text') stem' →
        path.compiled = (ofString text').compiled → path = ofString text') ∧
    ((∀ stem, ¬ SourceOf path stem) → path.compiled = path) ∧
    ofString path.compiled.toString = path.compiled := by
  intro path
  refine ⟨path.compiled_compiled, ⟨path.parent_compiled, path.length_names_compiled⟩,
    fun stem hsource => ⟨?_, hsource.compiled_ne, fun text' stem' => hsource.compiled_injective⟩,
    compiled_of_forall_not, ofString_toString (normal_ofText _).compiled⟩
  rw [hsource.compiled_eq, getLast?_child]

/-- A name of dots before the ending, written with folders that say nothing and a slash too much. -/
theorem compiled_renames_sources_dots :
    SourceOf (ofString "//a/./b//..spc/") ['.'] ∧
      (ofString "//a/./b//..spc/").compiled.names.getLast? = some "..py".toList ∧
      (ofString "//a/./b//..spc/").compiled ≠ ofString "//a/./b//..spc/" := by
  have hsource : SourceOf (ofString "//a/./b//..spc/") ['.'] := ⟨by decide, by decide⟩
  obtain ⟨-, -, hsources, -⟩ := compiled_renames_sources "//a/./b//..spc/"
  obtain ⟨hlast, hne, -⟩ := hsources ['.'] hsource
  exact ⟨hsource, hlast, hne⟩

example : ∀ text ∈ [".spc", "a.spc.", "a.spc/..", "/", "", "a.SPC", "a.spc.py"],
    (ofString text).compiled = ofString text := by decide

end Path
end SpiceKit
