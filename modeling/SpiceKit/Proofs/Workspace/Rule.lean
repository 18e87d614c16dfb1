import SpiceKit.Proofs.Disk.Tree
import SpiceKit.Workspace

/-!
# Which files are sources of a workspace

The rule, said without a walk: a pattern file excludes what its folder's names lead to when its
rules match the path from there (`Spared`), a folder is come to when nothing on the way to it is
hidden, excluded or impossible to list (`Walked`), and a file is listed when it has the name of a
source, its folder is walked and nothing excludes it (`Listed`).

The walk knows of the pattern files above it only what it carries along, a layer for each. So the
rule is said once more for a node somewhere below the root, under some layers (`Clear`, `Reached`,
`Kept`). **What is carried along is what counts** (`clear_cons_iff`): going down by one name turns
the pattern file of the folder into one more layer and changes nothing else, hence a folder or a
file further down is reached or kept from above exactly when it is from below (`reached_cons_iff`,
`kept_cons_iff`).
-/

set_option autoImplicit false

namespace SpiceKit
namespace Workspace

variable {ρ : Type} (dialect : Ignore.Dialect ρ)

/-! ## The rule -/

/-- The folder at the end of some names has a pattern file, and it says this. `Spared` looks for
these above a path. -/
def Says (root : Node) (folder : List (List Char)) (rules : ρ) : Prop :=
  ∃ bytes text, root.get? (folder ++ [patternFile]) = some (.file bytes) ∧
    Disk.textOfBytes bytes = .ok text ∧ dialect.read text = .ok rules

/-- No pattern file in a folder above excludes what stands at the end of some names. Each of them is
asked about the names from its own folder on, with no regard to what the others say. `Listed` and
`Walked` are made of it. -/
def Spared (root : Node) (isFolder : Bool) (names : List (List Char)) : Prop :=
  ∀ folder below rules, folder ++ below = names → below ≠ [] → Says dialect root folder rules →
    dialect.excludes rules (seenAs isFolder below) = false

/-- The walk from a root comes to a folder: it is there, it and the folders on the way to it are
neither hidden nor excluded, and they can be listed. This and `Listed` are the rule to which
`sourcesBy_lists` holds the walk; neither knows of layers. -/
structure Walked (base : Path) (root : Node) (folder : List (List Char)) : Prop where
  there : root.FolderAt folder
  visible : hiddenFolder ∉ folder
  spared : ∀ front, front <+: folder → Spared dialect root true front
  listed : ∀ front, front <+: folder → canList base front = true

/-- A file is listed: it has the name of a source, the walk comes to its folder, and nothing
excludes it. `sourcesBy_lists` shows that these are the files found. -/
structure Listed (base : Path) (root : Node) (names : List (List Char)) : Prop where
  file : ∃ bytes, root.get? names = some (.file bytes)
  source : ∃ name, names.getLast? = some name ∧ isSourceName name = true
  walked : Walked dialect base root names.dropLast
  spared : Spared dialect root false names

/-! ## The rule below the root -/

def SparedBy (layers : List (Layer ρ)) (isFolder : Bool) (names : List (List Char)) : Prop :=
  ∀ layer ∈ layers, dialect.excludes layer.rules (seenAs isFolder (layer.below ++ names)) = false

/-- Neither a layer nor a pattern file below excludes what stands at the end of some names. It mixes
what the walk has carried along with what is still to be read, so that an induction along the walk
can move the seam between the two. `SparedBy` is its one half, `Spared` the other. -/
structure Clear (layers : List (Layer ρ)) (node : Node) (isFolder : Bool)
    (names : List (List Char)) : Prop where
  inherited : SparedBy dialect layers isFolder names
  own : Spared dialect node isFolder names

/-- The walk comes to a folder from a node further up, under some layers. At the root, where there
are no layers, this is `Walked` (`walked_iff`). -/
structure Reached (base : Path) (place : List (List Char)) (layers : List (Layer ρ)) (node : Node)
    (folder : List (List Char)) : Prop where
  there : node.FolderAt folder
  visible : hiddenFolder ∉ folder
  clear : ∀ front, front <+: folder → Clear dialect layers node true front
  listed : ∀ front, front <+: folder → canList base (place ++ front) = true

/-- A file is listed from a node further up, under some layers. At the root, where there are no
layers, this is `Listed` (`listed_iff`). -/
structure Kept (base : Path) (place : List (List Char)) (layers : List (Layer ρ)) (node : Node)
    (names : List (List Char)) : Prop where
  file : ∃ bytes, node.get? names = some (.file bytes)
  source : ∃ name, names.getLast? = some name ∧ isSourceName name = true
  reached : Reached dialect base place layers node names.dropLast
  clear : Clear dialect layers node false names

variable {dialect} {base : Path} {root node inner : Node} {place folder names : List (List Char)}
  {name : List Char} {layers own : List (Layer ρ)} {entries : List (List Char × Node)}
  {isFolder : Bool}

theorem spared_nil (node : Node) (isFolder : Bool) : Spared dialect node isFolder [] := by
  intro folder below rules hsplit hne
  exact absurd (List.append_eq_nil_iff.mp hsplit).2 hne

theorem Reached.here (hclear : Clear dialect layers (.folder entries) true [])
    (hlisted : canList base place = true) :
    Reached dialect base place layers (.folder entries) [] := by
  refine ⟨⟨entries, rfl⟩, nofun, fun front hfront => ?_, fun front hfront => ?_⟩
  · obtain rfl := List.prefix_nil.mp hfront
    exact hclear
  · obtain rfl := List.prefix_nil.mp hfront
    rw [List.append_nil]
    exact hlisted

theorem clear_root_iff {names : List (List Char)} :
    Clear dialect [] root isFolder names ↔ Spared dialect root isFolder names :=
  ⟨fun h => h.own, fun h => ⟨nofun, h⟩⟩

theorem walked_iff : Walked dialect base root folder ↔ Reached dialect base [] [] root folder := by
  constructor
  · intro h
    exact ⟨h.there, h.visible, fun front hfront => clear_root_iff.mpr (h.spared front hfront),
      h.listed⟩
  · intro h
    exact ⟨h.there, h.visible, fun front hfront => (h.clear front hfront).own, h.listed⟩

theorem listed_iff : Listed dialect base root names ↔ Kept dialect base [] [] root names := by
  constructor
  · intro h
    exact ⟨h.file, h.source, walked_iff.mp h.walked, clear_root_iff.mpr h.spared⟩
  · intro h
    exact ⟨h.file, h.source, walked_iff.mpr h.reached, h.clear.own⟩

theorem Kept.ne_nil (h : Kept dialect base place layers node names) : names ≠ [] := by
  rintro rfl
  obtain ⟨_, hlast, -⟩ := h.source
  cases hlast

theorem Kept.exists_folder (h : Kept dialect base place layers (.folder entries) (name :: names))
    (hne : names ≠ []) : ∃ inner, Node.find? name entries = some (.folder inner) := by
  have hthere := h.reached.there
  rw [List.dropLast_cons_of_ne_nil hne] at hthere
  obtain ⟨_, node, hentries, hfind, hnode⟩ := Node.folderAt_cons.mp hthere
  obtain ⟨inner, rfl⟩ := Node.folderAt_nil.mp hnode.top
  exact ⟨inner, Node.folder.inj hentries ▸ hfind⟩

/-! ## Going down by one name -/

theorem any_excludes_eq_false_iff :
    layers.any (·.excludes dialect isFolder name) = false ↔
      SparedBy dialect layers isFolder [name] := by
  rw [List.any_eq_false]
  unfold SparedBy Layer.excludes
  simp only [Bool.not_eq_true]

theorem sparedBy_descend_iff :
    SparedBy dialect (layers.map (Layer.descend name)) isFolder names ↔
      SparedBy dialect layers isFolder (name :: names) := by
  unfold SparedBy
  rw [List.forall_mem_map]
  simp only [Layer.descend, List.append_assoc, List.singleton_append]

/-- The pattern file of a folder further down is the same one, seen from there. `spared_cons_iff`
moves it along a path. -/
theorem says_cons_iff (hinner : Node.find? name entries = some inner) {rules : ρ} :
    Says dialect (.folder entries) (name :: folder) rules ↔ Says dialect inner folder rules := by
  unfold Says
  rw [List.cons_append, Node.get?, hinner, Option.bind_some]

/-- What is further down must be spared by the pattern file here and by those from there on. It is
`Spared` with its first step taken off. -/
theorem spared_cons_iff (hinner : Node.find? name entries = some inner) :
    Spared dialect (.folder entries) isFolder (name :: names) ↔
      (∀ rules, Says dialect (.folder entries) [] rules →
        dialect.excludes rules (seenAs isFolder (name :: names)) = false) ∧
      Spared dialect inner isFolder names := by
  constructor
  · intro h
    refine ⟨fun rules hsaid => h [] _ rules rfl (by simp) hsaid, ?_⟩
    intro folder below rules hsplit hne hsaid
    exact h (name :: folder) below rules (by rw [List.cons_append, hsplit]) hne
      ((says_cons_iff hinner).mpr hsaid)
  · rintro ⟨hhere, hbelow⟩ folder below rules hsplit hne hsaid
    cases folder with
    | nil =>
      rw [List.nil_append] at hsplit
      rw [hsplit]
      exact hhere rules hsaid
    | cons first folder =>
      obtain ⟨rfl, htail⟩ := List.cons.inj hsplit
      exact hbelow folder below rules htail hne ((says_cons_iff hinner).mp hsaid)

theorem mem_own_iff {file : Path} (hown : ownLayer dialect file entries = .ok own)
    {layer : Layer ρ} :
    layer ∈ own ↔ layer.below = [] ∧ Says dialect (.folder entries) [] layer.rules := by
  -- Of a folder in hand, `Says` and the layer look at the same entry, and at nothing else.
  unfold ownLayer at hown
  unfold Says
  simp only [List.nil_append, Node.get?, Option.bind_eq_some_iff]
  simp only at hown
  split at hown
  · cases hown
  · split at hown
    · rename_i bytes hfile
      split at hown
      · cases hown
      · rename_i text htext
        cases hread : dialect.read text with
        | error fault => simp [hread, Except.map] at hown
        | ok rules =>
          obtain rfl : [⟨rules, []⟩] = own := by simpa [hread, Except.map] using hown
          obtain ⟨rules', below⟩ := layer
          simp only [List.mem_singleton, Layer.mk.injEq]
          constructor
          · rintro ⟨rfl, rfl⟩
            exact ⟨rfl, bytes, text, ⟨_, hfile, rfl⟩, htext, hread⟩
          · rintro ⟨rfl, bytes', text', ⟨found, hfound, hbytes⟩, htext', hread'⟩
            obtain rfl : .file bytes = found := Option.some.inj (hfile.symm.trans hfound)
            obtain rfl : bytes = bytes' := Node.file.inj (Option.some.inj hbytes)
            obtain rfl : text = text' := Except.ok.inj (htext.symm.trans htext')
            exact ⟨Except.ok.inj (hread'.symm.trans hread), rfl⟩
    · rename_i hnone
      obtain rfl := Except.ok.inj hown
      simp only [List.not_mem_nil, false_iff]
      rintro ⟨-, bytes, text, ⟨found, hfound, hbytes⟩, -⟩
      obtain rfl : found = .file bytes := Option.some.inj hbytes
      exact hnone bytes hfound

/-- The layers behind a folder are those before it and its pattern file. `ownLayer` makes the one
that is new. -/
theorem sparedBy_own_iff {file : Path} (hown : ownLayer dialect file entries = .ok own) :
    SparedBy dialect (layers ++ own) isFolder names ↔ SparedBy dialect layers isFolder names ∧
      ∀ rules, Says dialect (.folder entries) [] rules →
        dialect.excludes rules (seenAs isFolder names) = false := by
  unfold SparedBy
  rw [List.forall_mem_append]
  refine and_congr_right fun _ => ⟨fun h rules hsaid => ?_, fun h layer hlayer => ?_⟩
  · exact h ⟨rules, []⟩ ((mem_own_iff hown).mpr ⟨rfl, hsaid⟩)
  · obtain ⟨hbelow, hsaid⟩ := (mem_own_iff hown).mp hlayer
    rw [hbelow]
    exact h layer.rules hsaid

/-- **What is carried along is what counts.** Seen from the folder below, with its pattern file
among the layers, the same is excluded. Every step of the walk is matched with `Clear` by this. -/
theorem clear_cons_iff {file : Path} (hown : ownLayer dialect file entries = .ok own)
    (hinner : Node.find? name entries = some inner) :
    Clear dialect layers (.folder entries) isFolder (name :: names) ↔
      Clear dialect ((layers ++ own).map (Layer.descend name)) inner isFolder names := by
  constructor
  · rintro ⟨hlayers, hspared⟩
    obtain ⟨hhere, hbelow⟩ := (spared_cons_iff hinner).mp hspared
    exact ⟨sparedBy_descend_iff.mpr ((sparedBy_own_iff hown).mpr ⟨hlayers, hhere⟩), hbelow⟩
  · rintro ⟨hlayers, hbelow⟩
    obtain ⟨hlayers, hhere⟩ := (sparedBy_own_iff hown).mp (sparedBy_descend_iff.mp hlayers)
    exact ⟨hlayers, (spared_cons_iff hinner).mpr ⟨hhere, hbelow⟩⟩

theorem isOpen_iff :
    isOpen dialect layers name = true ↔ name ≠ hiddenFolder ∧
      Clear dialect (layers.map (Layer.descend name)) inner true [] := by
  unfold isOpen
  rw [Bool.and_eq_true, decide_eq_true_eq, Bool.not_eq_true', any_excludes_eq_false_iff,
    ← sparedBy_descend_iff]
  exact and_congr_right fun _ => ⟨fun h => ⟨h, spared_nil inner true⟩, fun h => h.inherited⟩

/-- **A folder further down is reached exactly when the walk goes on to it from below.** `Reached`
is `Walked` from the middle of a walk. -/
theorem reached_cons_iff {file : Path} (hown : ownLayer dialect file entries = .ok own)
    (hinner : Node.find? name entries = some inner)
    (hclear : Clear dialect layers (.folder entries) true [])
    (hlisted : canList base place = true) :
    Reached dialect base place layers (.folder entries) (name :: folder) ↔ name ≠ hiddenFolder ∧
      Reached dialect base (place ++ [name]) ((layers ++ own).map (Layer.descend name)) inner
        folder := by
  have hshift : ∀ front, place ++ name :: front = place ++ [name] ++ front := by simp
  constructor
  · intro h
    obtain ⟨_, _, hentries, hfind, hthere⟩ := Node.folderAt_cons.mp h.there
    obtain rfl := Node.folder.inj hentries
    obtain rfl := Option.some.inj (hinner.symm.trans hfind)
    obtain ⟨hname, hvisible⟩ := not_or.mp (fun hmem => h.visible (List.mem_cons.mpr hmem))
    refine ⟨Ne.symm hname, hthere, hvisible, fun front hfront => ?_, fun front hfront => ?_⟩
    · exact (clear_cons_iff hown hinner).mp (h.clear _ (List.prefix_cons_inj name |>.mpr hfront))
    · rw [← hshift]
      exact h.listed _ (List.prefix_cons_inj name |>.mpr hfront)
  · rintro ⟨hname, h⟩
    refine ⟨Node.folderAt_cons.mpr ⟨_, _, rfl, hinner, h.there⟩, ?_, ?_, ?_⟩
    · intro hmem
      exact (List.mem_cons.mp hmem).elim (fun heq => hname heq.symm) h.visible
    -- A folder on the way is the one at hand, or it lies behind the name.
    · intro front hfront
      rcases List.prefix_cons_iff.mp hfront with rfl | ⟨rest, rfl, hrest⟩
      · exact hclear
      · exact (clear_cons_iff hown hinner).mpr (h.clear rest hrest)
    · intro front hfront
      rcases List.prefix_cons_iff.mp hfront with rfl | ⟨rest, rfl, hrest⟩
      · rw [List.append_nil]
        exact hlisted
      · rw [hshift]
        exact h.listed rest hrest

/-- **A file further down is kept exactly when it is from below.** `Kept` is `Listed` from the
middle of a walk. -/
theorem kept_cons_iff {file : Path} (hown : ownLayer dialect file entries = .ok own)
    (hinner : Node.find? name entries = some inner)
    (hclear : Clear dialect layers (.folder entries) true [])
    (hlisted : canList base place = true) (hne : names ≠ []) :
    Kept dialect base place layers (.folder entries) (name :: names) ↔ name ≠ hiddenFolder ∧
      Kept dialect base (place ++ [name]) ((layers ++ own).map (Layer.descend name)) inner
        names := by
  have hget : (Node.folder entries).get? (name :: names) = inner.get? names := by
    rw [Node.get?, hinner, Option.bind_some]
  have hlast : (name :: names).getLast? = names.getLast? := by
    obtain ⟨first, rest, rfl⟩ := List.exists_cons_of_ne_nil hne
    exact List.getLast?_cons_cons
  have hfront : (name :: names).dropLast = name :: names.dropLast := List.dropLast_cons_of_ne_nil hne
  constructor
  · rintro ⟨hfile, hsource, hreached, hkept⟩
    rw [hget] at hfile
    rw [hlast] at hsource
    rw [hfront] at hreached
    obtain ⟨hname, hreached⟩ := (reached_cons_iff hown hinner hclear hlisted).mp hreached
    exact ⟨hname, hfile, hsource, hreached, (clear_cons_iff hown hinner).mp hkept⟩
  · rintro ⟨hname, hfile, hsource, hreached, hkept⟩
    refine ⟨hget ▸ hfile, hlast ▸ hsource, ?_, (clear_cons_iff hown hinner).mpr hkept⟩
    rw [hfront]
    exact (reached_cons_iff hown hinner hclear hlisted).mpr ⟨hname, hreached⟩

theorem kept_singleton_iff {file : Path} (hown : ownLayer dialect file entries = .ok own)
    (hclear : Clear dialect layers (.folder entries) true []) (hlisted : canList base place = true) :
    Kept dialect base place layers (.folder entries) [name] ↔
      (∃ bytes, Node.find? name entries = some (.file bytes)) ∧ isSourceName name = true ∧
        SparedBy dialect (layers ++ own) false [name] := by
  have hget : ∀ bytes, (Node.folder entries).get? [name] = some (.file bytes) ↔
      Node.find? name entries = some (.file bytes) := by
    intro bytes
    rw [Node.get?, Option.bind_eq_some_iff]
    simp [Node.get?]
  constructor
  · rintro ⟨⟨bytes, hfile⟩, ⟨_, hlast, hsource⟩, -, hkept⟩
    obtain rfl : name = _ := by simpa using hlast
    have hfind := (hget bytes).mp hfile
    refine ⟨⟨bytes, hfind⟩, hsource, ?_⟩
    rw [← sparedBy_descend_iff]
    exact ((clear_cons_iff hown hfind).mp hkept).inherited
  · rintro ⟨⟨bytes, hfind⟩, hsource, hspared⟩
    refine ⟨⟨bytes, (hget bytes).mpr hfind⟩, ⟨name, rfl, hsource⟩, ?_, ?_⟩
    · exact .here hclear hlisted
    · rw [← sparedBy_descend_iff] at hspared
      exact (clear_cons_iff hown hfind).mpr ⟨hspared, spared_nil _ _⟩

end Workspace
end SpiceKit
