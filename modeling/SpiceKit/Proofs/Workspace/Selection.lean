import Mathlib.Data.List.Nodup
import SpiceKit.Proofs.Workspace.Rule

/-!
# What the walk finds

By induction on the tree, from facts about one folder: what the walk finds there comes from its
entries (`mem_sourcesIn`, `mem_walkFolders`), and the rule takes the same steps (`kept_folder_iff`);
the walk ends well if it does in the folders that are looked at (`exists_walkFolders_iff`); and
putting another node of its kind over an entry matters only if the walk looks into it
(`walk_replace`).

Hence **the walk finds the files that are kept** (`mem_walk`), each once (`nodup_walk`), and **what
is not reached is not looked at** (`walk_put`), nor are the bytes of any but pattern files
(`walk_put_file`).
-/

set_option autoImplicit false

namespace SpiceKit
namespace Workspace

variable {ρ : Type} {dialect : Ignore.Dialect ρ} {base : Path} {node target : Node}
  {place folder names rest : List (List Char)} {name : List Char} {layers own : List (Layer ρ)}
  {entries : List (List Char × Node)} {found : List Found}

/-! ## One folder -/

theorem mem_sourcesIn {file : Found} :
    file ∈ sourcesIn dialect layers entries ↔ ∃ name, file = ⟨[name]⟩ ∧
      (∃ bytes, (name, .file bytes) ∈ entries) ∧ isSourceName name = true ∧
        SparedBy dialect layers false [name] := by
  unfold sourcesIn
  rw [List.mem_filterMap]
  constructor
  · rintro ⟨⟨name, entry⟩, hmem, hfile⟩
    cases entry with
    | folder inner => cases hfile
    | file bytes =>
      simp only [Option.ite_none_right_eq_some, Bool.and_eq_true, Bool.not_eq_true',
        Option.some.injEq] at hfile
      obtain ⟨⟨hsource, hspared⟩, rfl⟩ := hfile
      exact ⟨name, rfl, ⟨bytes, hmem⟩, hsource, any_excludes_eq_false_iff.mp hspared⟩
  · rintro ⟨name, rfl, ⟨bytes, hmem⟩, hsource, hspared⟩
    refine ⟨(name, .file bytes), hmem, ?_⟩
    simp only [hsource, any_excludes_eq_false_iff.mpr hspared, Bool.not_false, Bool.and_self, if_true]

/-- A folder that can be listed is walked by its own files first, and then by the folders in it. The
layers of both are those given with that of `ownLayer` behind them. -/
theorem walk_folder_eq_ok (hlisted : canList base place = true) :
    walk dialect base place layers (.folder entries) = .ok found ↔
      ∃ own inner, ownLayer dialect (base.below place) entries = .ok own ∧
        walkFolders dialect base place (layers ++ own) entries = .ok inner ∧
        found = sourcesIn dialect (layers ++ own) entries ++ inner := by
  rw [walk, if_pos hlisted]
  cases ownLayer dialect (base.below place) entries with
  | error fault => simp [bind, Except.bind]
  | ok own =>
    cases hinner : walkFolders dialect base place (layers ++ own) entries with
    | error fault => simp [bind, Except.bind, hinner]
    | ok inner => simp [bind, Except.bind, hinner, pure, Except.pure, eq_comm]

theorem walk_eq_nil_of_not_listed (hlisted : canList base place = false) (node : Node) :
    walk dialect base place layers node = .ok [] := by
  cases node with
  | file bytes => rw [walk]
  | folder entries =>
    rw [walk, hlisted]
    rfl

/-! ## The folders among some entries -/

/-- A folder that is looked at is among some entries: it `isOpen` under the layers of the folder
that holds them. -/
def Opened (dialect : Ignore.Dialect ρ) (layers : List (Layer ρ))
    (entries : List (List Char × Node)) (name : List Char) (inner : List (List Char × Node)) : Prop :=
  (name, .folder inner) ∈ entries ∧ isOpen dialect layers name = true

/-- The walk goes on into a folder that is looked at: it is not hidden, and nothing excludes it. So
`Clear` holds of it, seen from there. -/
theorem Opened.enter {inner : List (List Char × Node)}
    (h : Opened dialect layers entries name inner) : name ≠ hiddenFolder ∧
      Clear dialect (layers.map (Layer.descend name)) (.folder inner) true [] :=
  isOpen_iff.mp h.2

theorem opened_cons_file {next : List Char} {bytes : List UInt8} {inner : List (List Char × Node)} :
    Opened dialect layers ((name, .file bytes) :: entries) next inner ↔
      Opened dialect layers entries next inner := by
  unfold Opened
  rw [List.mem_cons]
  simp

theorem opened_cons_closed {next : List Char} {inner inner' : List (List Char × Node)}
    (hopen : ¬ isOpen dialect layers name = true) :
    Opened dialect layers ((name, .folder inner) :: entries) next inner' ↔
      Opened dialect layers entries next inner' := by
  unfold Opened
  rw [List.mem_cons, or_and_right, or_iff_right]
  rintro ⟨heq, hnext⟩
  cases heq
  exact hopen hnext

theorem opened_cons_open {next : List Char} {inner inner' : List (List Char × Node)}
    (hopen : isOpen dialect layers name = true) :
    Opened dialect layers ((name, .folder inner) :: entries) next inner' ↔
      (next = name ∧ inner' = inner) ∨ Opened dialect layers entries next inner' := by
  unfold Opened
  rw [List.mem_cons, or_and_right, Prod.mk.injEq, Node.folder.injEq]
  refine or_congr_left ⟨fun h => h.1, ?_⟩
  rintro ⟨rfl, rfl⟩
  exact ⟨⟨rfl, rfl⟩, hopen⟩

theorem walkFolders_open_eq_ok {inner : List (List Char × Node)}
    (hopen : isOpen dialect layers name = true) :
    walkFolders dialect base place layers ((name, .folder inner) :: entries) = .ok found ↔
      ∃ here others, walk dialect base (place ++ [name]) (layers.map (Layer.descend name))
          (.folder inner) = .ok here ∧
        walkFolders dialect base place layers entries = .ok others ∧
        found = here.map (Found.lift name) ++ others := by
  rw [walkFolders, if_pos hopen]
  cases walk dialect base (place ++ [name]) (layers.map (Layer.descend name)) (.folder inner) with
  | error fault => simp [bind, Except.bind]
  | ok here =>
    cases walkFolders dialect base place layers entries with
    | error fault => simp [bind, Except.bind]
    | ok others => simp [bind, Except.bind, pure, Except.pure, eq_comm]

theorem mem_walkFolders (hwalk : walkFolders dialect base place layers entries = .ok found)
    {file : Found} :
    file ∈ found ↔ ∃ name inner, Opened dialect layers entries name inner ∧
      ∃ here, walk dialect base (place ++ [name]) (layers.map (Layer.descend name))
          (.folder inner) = .ok here ∧ ∃ below ∈ here, below.lift name = file := by
  induction entries generalizing found with
  | nil =>
    obtain rfl := Except.ok.inj hwalk
    simp [Opened]
  | cons entry entries ih =>
    obtain ⟨name, entry⟩ := entry
    cases entry with
    | file bytes =>
      rw [walkFolders] at hwalk
      simp only [opened_cons_file]
      exact ih hwalk
    | folder inner =>
      -- A folder that is closed is passed over like a file.
      by_cases hopen : isOpen dialect layers name = true
      · obtain ⟨here, others, hhere, hothers, rfl⟩ := (walkFolders_open_eq_ok hopen).mp hwalk
        rw [List.mem_append, List.mem_map, ih hothers]
        simp only [opened_cons_open hopen]
        constructor
        · rintro (hbelow | ⟨next, inner', hopened, hrest⟩)
          · exact ⟨name, inner, Or.inl ⟨rfl, rfl⟩, here, hhere, hbelow⟩
          · exact ⟨next, inner', Or.inr hopened, hrest⟩
        · rintro ⟨next, inner', ⟨rfl, rfl⟩ | hopened, here', hhere', hbelow⟩
          · obtain rfl := Except.ok.inj (hhere.symm.trans hhere')
            exact Or.inl hbelow
          · exact Or.inr ⟨next, inner', hopened, here', hhere', hbelow⟩
      · rw [walkFolders, if_neg hopen] at hwalk
        simp only [opened_cons_closed hopen]
        exact ih hwalk

/-- The walk of some entries ends well exactly when it does in all folders that are looked at. Those
are the ones that are `Opened`. -/
theorem exists_walkFolders_iff :
    (∃ found, walkFolders dialect base place layers entries = .ok found) ↔
      ∀ name inner, Opened dialect layers entries name inner →
        ∃ here, walk dialect base (place ++ [name]) (layers.map (Layer.descend name))
          (.folder inner) = .ok here := by
  induction entries with
  | nil => simp [walkFolders, Opened]
  | cons entry entries ih =>
    obtain ⟨name, entry⟩ := entry
    cases entry with
    | file bytes =>
      rw [walkFolders, ih]
      simp only [opened_cons_file]
    | folder inner =>
      by_cases hopen : isOpen dialect layers name = true
      · simp only [walkFolders_open_eq_ok hopen, opened_cons_open hopen]
        constructor
        · rintro ⟨_, here, others, hhere, hothers, rfl⟩ next inner' (⟨rfl, rfl⟩ | hopened)
          · exact ⟨here, hhere⟩
          · exact ih.mp ⟨others, hothers⟩ next inner' hopened
        · intro h
          obtain ⟨here, hhere⟩ := h name inner (Or.inl ⟨rfl, rfl⟩)
          obtain ⟨others, hothers⟩ := ih.mpr fun next inner' hopened =>
            h next inner' (Or.inr hopened)
          exact ⟨_, here, others, hhere, hothers, rfl⟩
      · rw [walkFolders, if_neg hopen, ih]
        simp only [opened_cons_closed hopen]

/-! ## The whole walk -/

/-- The pattern file of a folder can be looked for, and if it is there it can be read in the
dialect. It is asked of the folders that are `Walked`, and of no others: what is below a folder that
is not looked at may hold anything. -/
structure PatternsRead (dialect : Ignore.Dialect ρ) (base : Path) (root : Node)
    (folder : List (List Char)) : Prop where
  short : Disk.exceeds Disk.pathLimit ((base.below folder).child patternFile).toText = false
  sound : ∀ bytes, root.get? (folder ++ [patternFile]) = some (.file bytes) →
    ∃ text rules, Disk.textOfBytes bytes = .ok text ∧ dialect.read text = .ok rules

theorem exists_ownLayer (h : PatternsRead dialect base (.folder entries) []) :
    ∃ own, ownLayer dialect base entries = .ok own := by
  unfold ownLayer
  have hshort := h.short
  rw [Path.below_nil] at hshort
  simp only [hshort, Bool.false_eq_true, if_false]
  split
  · rename_i bytes hfile
    obtain ⟨text, rules, htext, hread⟩ := h.sound bytes (by simp [Node.get?, hfile])
    simp only [htext, hread]
    exact ⟨[⟨rules, []⟩], rfl⟩
  · exact ⟨[], rfl⟩

theorem PatternsRead.of_cons {inner : Node} (hinner : Node.find? name entries = some inner)
    (h : PatternsRead dialect base (.folder entries) (name :: folder)) :
    PatternsRead dialect (base.below [name]) inner folder := by
  refine ⟨?_, fun bytes hbytes => h.sound bytes ?_⟩
  · rw [Path.below_below]
    exact h.short
  · rw [List.cons_append, Node.get?, hinner, Option.bind_some]
    exact hbytes

/-- **The walk ends well if the pattern files of all folders that it comes to can be read.**
`PatternsRead` is that condition, and `Reached` says which folders it is about. -/
theorem exists_walk (hproper : node.Proper) (hclear : Clear dialect layers node true [])
    (hread : ∀ folder, Reached dialect base place layers node folder →
      PatternsRead dialect (base.below place) node folder) :
    ∃ found, walk dialect base place layers node = .ok found := by
  -- Induction on the tree: every folder that is looked at is one that the walk comes to from here, so
  -- that its pattern file, and those below it, are among the ones that can be read.
  induction hproper generalizing place layers with
  | file bytes => exact ⟨[], by rw [walk]⟩
  | @folder entries sorted named nodes ih =>
    have hproper : (Node.folder entries).Proper := .folder sorted named nodes
    cases hlisted : canList base place with
    | false => exact ⟨[], walk_eq_nil_of_not_listed hlisted _⟩
    | true =>
      have hhere : Reached dialect base place layers (.folder entries) [] :=
        .here hclear hlisted
      obtain ⟨own, hown⟩ := exists_ownLayer (hread [] hhere)
      have hbelow : ∃ below, walkFolders dialect base place (layers ++ own) entries = .ok below := by
        apply exists_walkFolders_iff.mpr
        intro name inner hopened
        have hfind := (Node.find?_eq_some_iff hproper).mpr hopened.1
        refine ih _ hopened.1 hopened.enter.2 fun folder hreached => ?_
        have hfolder := (reached_cons_iff hown hfind hclear hlisted).mpr ⟨hopened.enter.1, hreached⟩
        have hpatterns := (hread _ hfolder).of_cons hfind
        rw [Path.below_below] at hpatterns
        exact hpatterns
      obtain ⟨below, hbelow⟩ := hbelow
      exact ⟨_, (walk_folder_eq_ok hlisted).mpr ⟨own, below, hown, hbelow, rfl⟩⟩

/-- **The rule takes the steps of the walk**: a file that is kept is one in the folder in hand, or
it is kept from a folder there that is looked at. -/
theorem kept_folder_iff {folder : Path} (hproper : (Node.folder entries).Proper)
    (hown : ownLayer dialect folder entries = .ok own)
    (hclear : Clear dialect layers (.folder entries) true []) (hlisted : canList base place = true) :
    Kept dialect base place layers (.folder entries) names ↔
      (∃ name, names = [name] ∧ (∃ bytes, (name, .file bytes) ∈ entries) ∧
        isSourceName name = true ∧ SparedBy dialect (layers ++ own) false [name]) ∨
      ∃ name inner rest, names = name :: rest ∧ Opened dialect (layers ++ own) entries name inner ∧
        Kept dialect base (place ++ [name]) ((layers ++ own).map (Layer.descend name)) (.folder inner)
          rest := by
  simp only [← Node.find?_eq_some_iff hproper]
  constructor
  · intro hkept
    obtain ⟨name, rest, rfl⟩ := List.exists_cons_of_ne_nil hkept.ne_nil
    -- A name alone is that of a source, one with others behind it that of an open folder.
    by_cases hrest : rest = []
    · subst hrest
      exact Or.inl ⟨name, rfl, (kept_singleton_iff hown hclear hlisted).mp hkept⟩
    · obtain ⟨inner, hfind⟩ := hkept.exists_folder hrest
      obtain ⟨hname, hbelow⟩ := (kept_cons_iff hown hfind hclear hlisted hrest).mp hkept
      have hopen := isOpen_iff.mpr ⟨hname, hbelow.reached.clear [] List.nil_prefix⟩
      exact Or.inr ⟨name, inner, rest, rfl, ⟨Node.mem_of_find? hfind, hopen⟩, hbelow⟩
  · rintro (⟨name, rfl, hfile⟩ | ⟨name, inner, rest, rfl, hopened, hbelow⟩)
    · exact (kept_singleton_iff hown hclear hlisted).mpr hfile
    · have hfind := (Node.find?_eq_some_iff hproper).mpr hopened.1
      exact (kept_cons_iff hown hfind hclear hlisted hbelow.ne_nil).mpr ⟨hopened.enter.1, hbelow⟩

/-- **The walk finds the files that are kept.** What is kept is `Kept`; the induction is on the
tree, with `kept_folder_iff` as its step. -/
theorem mem_walk (hproper : node.Proper) (hclear : Clear dialect layers node true [])
    (hwalk : walk dialect base place layers node = .ok found) :
    ⟨names⟩ ∈ found ↔ Kept dialect base place layers node names := by
  induction hproper generalizing place layers found names with
  | file bytes =>
    rw [walk] at hwalk
    obtain rfl := Except.ok.inj hwalk
    refine iff_of_false List.not_mem_nil fun h => ?_
    obtain ⟨entries, hentries⟩ := Node.folderAt_nil.mp h.reached.there.top
    cases hentries
  | @folder entries sorted named nodes ih =>
    have hproper : (Node.folder entries).Proper := .folder sorted named nodes
    cases hlisted : canList base place with
    | false =>
      rw [walk_eq_nil_of_not_listed hlisted] at hwalk
      obtain rfl := Except.ok.inj hwalk
      refine iff_of_false List.not_mem_nil fun h => ?_
      have := h.reached.listed [] List.nil_prefix
      rw [List.append_nil, hlisted] at this
      cases this
    | true =>
      obtain ⟨own, below, hown, hbelow, rfl⟩ := (walk_folder_eq_ok hlisted).mp hwalk
      rw [List.mem_append, mem_sourcesIn, mem_walkFolders hbelow,
        kept_folder_iff hproper hown hclear hlisted]
      refine or_congr (by simp only [Found.mk.injEq]) ⟨?_, ?_⟩
      · rintro ⟨name, inner, hopened, here, hhere, ⟨rest⟩, hrest, hlift⟩
        have hkept := (ih _ hopened.1 hopened.enter.2 hhere).mp hrest
        exact ⟨name, inner, rest, (Found.mk.inj hlift).symm, hopened, hkept⟩
      · -- The whole walk ended well, hence that of each folder that was looked at.
        rintro ⟨name, inner, rest, rfl, hopened, hkept⟩
        obtain ⟨here, hhere⟩ := exists_walkFolders_iff.mp ⟨below, hbelow⟩ name inner hopened
        have hrest := (ih _ hopened.1 hopened.enter.2 hhere).mpr hkept
        exact ⟨name, inner, hopened, here, hhere, ⟨rest⟩, hrest, rfl⟩

/-! ## Each file once -/

theorem nodup_sourcesIn (hproper : (Node.folder entries).Proper) :
    (sourcesIn dialect layers entries).Nodup := by
  have hsorted := hproper.sorted
  clear hproper
  unfold sourcesIn
  rw [List.Nodup, List.pairwise_filterMap]
  refine hsorted.imp fun {a b} hlt file hfile file' hfile' heq => ?_
  subst heq
  obtain ⟨first, node⟩ := a
  obtain ⟨second, node'⟩ := b
  cases node with
  | folder inner => cases hfile
  | file bytes =>
    cases node' with
    | folder inner => cases hfile'
    | file bytes' =>
      simp only [Option.ite_none_right_eq_some, Option.some.injEq] at hfile hfile'
      obtain ⟨-, rfl⟩ := hfile
      obtain ⟨-, hsame⟩ := hfile'
      obtain rfl : second = first := by simpa using hsame
      exact lt_irrefl _ hlt

theorem lift_injective (name : List Char) : Function.Injective (Found.lift name) := by
  rintro ⟨names⟩ ⟨names'⟩ h
  simpa [Found.lift] using h

theorem nodup_walkFolders (hsorted : entries.Pairwise fun a b => a.1 < b.1)
    (hnodup : ∀ name inner, Opened dialect layers entries name inner → ∀ here,
      walk dialect base (place ++ [name]) (layers.map (Layer.descend name)) (.folder inner)
        = .ok here → here.Nodup)
    (hwalk : walkFolders dialect base place layers entries = .ok found) : found.Nodup := by
  induction entries generalizing found with
  | nil =>
    obtain rfl := Except.ok.inj hwalk
    exact List.nodup_nil
  | cons entry entries ih =>
    obtain ⟨name, entry⟩ := entry
    obtain ⟨hfirst, hrest⟩ := List.pairwise_cons.mp hsorted
    cases entry with
    | file bytes =>
      rw [walkFolders] at hwalk
      simp only [opened_cons_file] at hnodup
      exact ih hrest hnodup hwalk
    | folder inner =>
      by_cases hopen : isOpen dialect layers name = true
      · obtain ⟨here, others, hhere, hothers, rfl⟩ := (walkFolders_open_eq_ok hopen).mp hwalk
        simp only [opened_cons_open hopen] at hnodup
        refine List.nodup_append.mpr ⟨?_, ?_, ?_⟩
        · exact (hnodup name inner (Or.inl ⟨rfl, rfl⟩) here hhere).map (lift_injective name)
        · exact ih hrest (fun next inner' h => hnodup next inner' (Or.inr h)) hothers
        · -- What is found in another folder starts with another name.
          rintro file hfile file' hfile' rfl
          obtain ⟨below, -, rfl⟩ := List.mem_map.mp hfile
          obtain ⟨next, inner', hopened, -, -, below', -, hsame⟩ := (mem_walkFolders hothers).mp hfile'
          obtain ⟨rfl, -⟩ := List.cons.inj (Found.mk.inj hsame)
          have hlt := hfirst _ hopened.1
          exact lt_irrefl _ hlt
      · rw [walkFolders, if_neg hopen] at hwalk
        simp only [opened_cons_closed hopen] at hnodup
        exact ih hrest hnodup hwalk

/-- **The walk finds no file twice.** Names of one folder differ, and so do files below different
folders (`nodup_walkFolders`). -/
theorem nodup_walk (hproper : node.Proper) (hclear : Clear dialect layers node true [])
    (hwalk : walk dialect base place layers node = .ok found) : found.Nodup := by
  induction hproper generalizing place layers found with
  | file bytes =>
    rw [walk] at hwalk
    obtain rfl := Except.ok.inj hwalk
    exact List.nodup_nil
  | @folder entries sorted named nodes ih =>
    have hproper : (Node.folder entries).Proper := .folder sorted named nodes
    cases hlisted : canList base place with
    | false =>
      rw [walk_eq_nil_of_not_listed hlisted] at hwalk
      obtain rfl := Except.ok.inj hwalk
      exact List.nodup_nil
    | true =>
      obtain ⟨own, below, hown, hbelow, rfl⟩ := (walk_folder_eq_ok hlisted).mp hwalk
      refine List.nodup_append.mpr ⟨nodup_sourcesIn hproper, ?_, ?_⟩
      · refine nodup_walkFolders sorted (fun name inner hopened here hhere => ?_) hbelow
        exact ih _ hopened.1 hopened.enter.2 hhere
      · -- A name is that of a file or of a folder.
        rintro file hfile file' hfile' rfl
        obtain ⟨name, rfl, ⟨bytes, hmem⟩, -⟩ := mem_sourcesIn.mp hfile
        obtain ⟨next, inner, hopened, -, -, below', -, hsame⟩ := (mem_walkFolders hbelow).mp hfile'
        obtain ⟨rfl, -⟩ := List.cons.inj (Found.mk.inj hsame)
        have hfile := (Node.find?_eq_some_iff hproper).mpr hmem
        have hfolder := (Node.find?_eq_some_iff hproper).mpr hopened.1
        cases hfile.symm.trans hfolder

/-! ## What the walk does not depend on -/

theorem ownLayer_replace {folder : Path} {front back : List (List Char × Node)} {old new : Node}
    (hkind : new.isFile = old.isFile) (hplain : old.isFile = true → name ≠ patternFile) :
    ownLayer dialect folder (front ++ (name, new) :: back) =
      ownLayer dialect folder (front ++ (name, old) :: back) := by
  unfold ownLayer
  rw [Node.find?_append, Node.find?_append, Node.find?, Node.find?]
  by_cases hname : name = patternFile
  · -- Neither node is a file, hence neither is read.
    cases old with
    | file bytes => exact absurd hname (hplain rfl)
    | folder inner =>
      cases new with
      | file bytes => cases hkind
      | folder inner' =>
        rw [if_pos hname, if_pos hname]
        cases Node.find? patternFile front <;> rfl
  · rw [if_neg hname, if_neg hname]

theorem sourcesIn_replace {front back : List (List Char × Node)} {old new : Node}
    (hkind : new.isFile = old.isFile) :
    sourcesIn dialect layers (front ++ (name, new) :: back) =
      sourcesIn dialect layers (front ++ (name, old) :: back) := by
  unfold sourcesIn
  rw [List.filterMap_append, List.filterMap_append, List.filterMap_cons, List.filterMap_cons]
  cases old with
  | file bytes =>
    cases new with
    | file bytes' => rfl
    | folder inner => cases hkind
  | folder inner =>
    cases new with
    | file bytes' => cases hkind
    | folder inner' => rfl

theorem walkFolders_replace {front back : List (List Char × Node)} {old new : Node}
    (hkind : new.isFile = old.isFile)
    (hwalk : isOpen dialect layers name = true →
      walk dialect base (place ++ [name]) (layers.map (Layer.descend name)) new =
        walk dialect base (place ++ [name]) (layers.map (Layer.descend name)) old) :
    walkFolders dialect base place layers (front ++ (name, new) :: back) =
      walkFolders dialect base place layers (front ++ (name, old) :: back) := by
  -- The entries before the one that is put over are the same, and so are those behind it.
  induction front with
  | nil =>
    rw [List.nil_append, List.nil_append]
    cases old with
    | file bytes =>
      cases new with
      | file bytes' => rw [walkFolders, walkFolders]
      | folder inner => cases hkind
    | folder inner =>
      cases new with
      | file bytes' => cases hkind
      | folder inner' =>
        by_cases hopen : isOpen dialect layers name = true
        · rw [walkFolders, walkFolders, hwalk hopen]
        · rw [walkFolders, walkFolders, if_neg hopen, if_neg hopen]
  | cons entry front ih =>
    obtain ⟨first, node⟩ := entry
    cases node with
    | file bytes =>
      rw [List.cons_append, List.cons_append, walkFolders, walkFolders]
      exact ih
    | folder inner =>
      rw [List.cons_append, List.cons_append, walkFolders, walkFolders, ih]

/-- Putting another node of its kind over an entry changes what the walk finds only if the entry is
a pattern file or a folder that is looked at. `walk_put` and `walk_put_file` both end in this. -/
theorem walk_replace {front back : List (List Char × Node)} {old new : Node}
    (hkind : new.isFile = old.isFile) (hplain : old.isFile = true → name ≠ patternFile)
    (hwalk : ∀ own, ownLayer dialect (base.below place) (front ++ (name, old) :: back) = .ok own →
      isOpen dialect (layers ++ own) name = true →
        walk dialect base (place ++ [name]) ((layers ++ own).map (Layer.descend name)) new =
          walk dialect base (place ++ [name]) ((layers ++ own).map (Layer.descend name)) old) :
    walk dialect base place layers (.folder (front ++ (name, new) :: back)) =
      walk dialect base place layers (.folder (front ++ (name, old) :: back)) := by
  rw [walk, walk, ownLayer_replace hkind hplain]
  cases hown : ownLayer dialect (base.below place) (front ++ (name, old) :: back) with
  | error fault => rfl
  | ok own =>
    simp only [bind, Except.bind]
    rw [sourcesIn_replace hkind, walkFolders_replace hkind (hwalk own hown)]

theorem walk_put_cons (hproper : (Node.folder entries).Proper) {inner : List (List Char × Node)}
    (hfind : Node.find? name entries = some (.folder inner)) (hne : names ≠ [])
    (hwalk : ∀ own, ownLayer dialect (base.below place) entries = .ok own →
      isOpen dialect (layers ++ own) name = true →
        walk dialect base (place ++ [name]) ((layers ++ own).map (Layer.descend name))
            ((Node.folder inner).put names target) =
          walk dialect base (place ++ [name]) ((layers ++ own).map (Layer.descend name))
            (.folder inner)) :
    walk dialect base place layers ((Node.folder entries).put (name :: names) target) =
      walk dialect base place layers (.folder entries) := by
  obtain ⟨front, back, rfl, hput⟩ :=
    Node.exists_split_of_find? hproper hfind ((Node.folder inner).put names target)
  rw [Node.put_folder_cons hfind, hput]
  exact walk_replace (Node.isFile_put _ hne target) nofun hwalk

/-- **What is below a folder to which the walk does not come is not looked at.** The folder is not
`Reached`, at whatever step of the way this shows. -/
theorem walk_put (hproper : node.Proper) (hclear : Clear dialect layers node true [])
    (hunreached : ¬ Reached dialect base place layers node folder) (hrest : rest ≠ [])
    (target : Node) :
    walk dialect base place layers (node.put (folder ++ rest) target) =
      walk dialect base place layers node := by
  -- Induction on the tree, along the way to the folder. The way breaks off where a name leads nowhere or
  -- to a file, where the folder in hand cannot be listed, or where the next one is not looked at.
  induction hproper generalizing place layers folder with
  | file bytes => rw [Node.put_file (List.append_ne_nil_of_right_ne_nil folder hrest)]
  | @folder entries sorted named nodes ih =>
    have hproper : (Node.folder entries).Proper := .folder sorted named nodes
    cases hlisted : canList base place with
    | false => rw [walk_eq_nil_of_not_listed hlisted, walk_eq_nil_of_not_listed hlisted]
    | true =>
      cases folder with
      | nil => exact absurd (.here hclear hlisted) hunreached
      | cons name folder =>
        have hne := List.append_ne_nil_of_right_ne_nil folder hrest
        cases hfind : Node.find? name entries with
        | none => rw [List.cons_append, Node.put_folder_of_none hfind hne]
        | some inner =>
          cases inner with
          | file bytes => rw [List.cons_append, Node.put_folder_of_file hproper hfind hne]
          | folder inner =>
            apply walk_put_cons hproper hfind hne
            intro own hown hopen
            obtain ⟨hname, hopen⟩ := isOpen_iff.mp hopen
            refine ih _ (Node.mem_of_find? hfind) hopen fun hreached => hunreached ?_
            exact (reached_cons_iff hown hfind hclear hlisted).mpr ⟨hname, hreached⟩

/-- **The bytes of a file do not matter to the walk**, unless it is a pattern file. The one case
where bytes count is `ownLayer`. -/
theorem walk_put_file {old : List UInt8} (hproper : node.Proper)
    (hfile : node.get? names = some (.file old)) (hplain : names.getLast? ≠ some patternFile)
    (bytes : List UInt8) :
    walk dialect base place layers (node.put names (.file bytes)) =
      walk dialect base place layers node := by
  induction names generalizing node place layers with
  | nil =>
    obtain rfl : node = .file old := Option.some.inj hfile
    rw [Node.put, walk, walk]
  | cons name names ih =>
    cases node with
    | file bytes' => rw [Node.put]
    | folder entries =>
      rw [Node.get?, Option.bind_eq_some_iff] at hfile
      obtain ⟨inner, hfind, hfile⟩ := hfile
      cases names with
      | nil =>
        -- The file itself: it is put where one of its name was, and it is no pattern file.
        obtain rfl : inner = .file old := Option.some.inj hfile
        obtain ⟨front, back, rfl, hput⟩ := Node.exists_split_of_find? hproper hfind (.file bytes)
        rw [Node.put, hput]
        refine walk_replace rfl (fun _ hname => hplain ?_) fun own hown hopen => ?_
        · rw [hname]
          rfl
        · rw [walk, walk]
      | cons next names =>
        cases inner with
        | file bytes' => cases hfile
        | folder inner =>
          rw [List.getLast?_cons_cons] at hplain
          apply walk_put_cons hproper hfind (List.cons_ne_nil next names)
          intro own hown hopen
          exact ih (hproper.of_mem (Node.mem_of_find? hfind)) hfile hplain

end Workspace
end SpiceKit
