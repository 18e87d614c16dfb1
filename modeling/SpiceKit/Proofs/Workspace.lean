import SpiceKit.Workspace

/-!
# What a survey can fail with

The walk passes over what it cannot read: a file that is no text becomes a failure among the
reports. Nothing else that it meets in a tree can go wrong but a pattern file, and those are read on
the way, so that the first bad one ends the survey. Hence **a survey of a path that leads somewhere
fails with nothing but the fault of a pattern file** (`Workspace.faultsOnly_survey`): one that
cannot be looked for, is no text, or has a line that is no pattern.

The proof follows the tree, with one case for each kind of node and of entry.

That a dialect fails with such faults only is its being `Plain`, and that of the program is
(`plain_standard`): `faultsOnly_ofLine` looks at the outcomes of a line, and at nothing of how a
pattern is read.
-/

set_option autoImplicit false

namespace SpiceKit

/-- An outcome has no other fault than those that are allowed. It is closed under the ways in which
outcomes are put together (`FaultsOnly.bind`, `FaultsOnly.map`, `FaultsOnly.mapM`), so that a bound
on the parts is one on the whole. -/
def FaultsOnly {ε α : Type} (allowed : ε → Prop) (outcome : Except ε α) : Prop :=
  ∀ fault, outcome = .error fault → allowed fault

namespace FaultsOnly

variable {ε α β : Type} {allowed : ε → Prop}

theorem ok (a : α) : FaultsOnly allowed (.ok a) := fun _ h => nomatch h

theorem error {fault : ε} (h : allowed fault) : FaultsOnly allowed (.error fault : Except ε α) :=
  fun _ hfault => Except.error.inj hfault ▸ h

theorem bind {outcome : Except ε α} {next : α → Except ε β} (h : FaultsOnly allowed outcome)
    (hnext : ∀ a, FaultsOnly allowed (next a)) : FaultsOnly allowed (outcome >>= next) := by
  intro fault hfault
  cases outcome with
  | ok a => exact hnext a fault hfault
  | error first =>
    obtain rfl := Except.error.inj hfault
    exact h first rfl

theorem map {outcome : Except ε α} (f : α → β) (h : FaultsOnly allowed outcome) :
    FaultsOnly allowed (outcome.map f) := by
  cases outcome with
  | ok a => exact .ok _
  | error fault => exact .error (h fault rfl)

theorem mapM {f : α → Except ε β} (h : ∀ a, FaultsOnly allowed (f a)) (as : List α) :
    FaultsOnly allowed (as.mapM f) := by
  induction as with
  | nil => exact .ok _
  | cons a as ih =>
    rw [List.mapM_cons]
    exact .bind (h a) fun _ => .bind ih fun _ => .ok _

end FaultsOnly

namespace Workspace

/-- The faults of a pattern file: it cannot be read, or one of its lines is no pattern. The first is
reported by the command that meets it, and the two others escape from it. `Command.Escapes` lists
these two for `lint`. -/
inductive OfPatternFile : Fault → Prop
  | unreadable (reason : Unreadable) : OfPatternFile (.unreadable reason)
  | pattern (line : String) : OfPatternFile (.pattern line)
  | reversed (range : Ignore.Reversed) : OfPatternFile (.reversedRange range)

theorem faultsOnly_ofLine (line : List Char) : FaultsOnly OfPatternFile (Ignore.ofLine line) := by
  unfold Ignore.ofLine
  simp only
  split
  · exact .ok _
  · split
    · exact .ok _
    · exact .ok _
    · exact .error (.pattern _)
    · exact .error (.reversed _)

variable {ρ : Type} {dialect : Ignore.Dialect ρ}

/-- What is relied on of a dialect where faults are told apart: reading a pattern file in it fails
with nothing but an `OfPatternFile`. -/
def Plain (dialect : Ignore.Dialect ρ) : Prop :=
  ∀ text, FaultsOnly OfPatternFile (dialect.read text)

/-- The dialect of the program is plain, so what is proved of plain ones holds of it. The witness of
`execute_ends` is drawn with it. -/
theorem plain_standard : Plain Ignore.standard :=
  fun _ => .map _ (.mapM faultsOnly_ofLine _)

theorem faultsOnly_ownLayer (hplain : Plain dialect) (folder : Path)
    (entries : List (List Char × Node)) :
    FaultsOnly OfPatternFile (ownLayer dialect folder entries) := by
  unfold ownLayer
  simp only
  split
  · exact .error (.unreadable _)
  · split
    · split
      · exact .error (.unreadable _)
      · exact .map _ (hplain _)
    · exact .ok _

mutual

theorem faultsOnly_walk (hplain : Plain dialect) (root : Path) (place : List (List Char))
    (layers : List (Layer ρ)) :
    ∀ node, FaultsOnly OfPatternFile (walk dialect root place layers node)
  | .file _ => .ok _
  | .folder entries => by
    rw [walk]
    split
    · exact .bind (faultsOnly_ownLayer hplain _ entries) fun own =>
        .bind (faultsOnly_walkFolders hplain root place (layers ++ own) entries) fun _ => .ok _
    · exact .ok _

theorem faultsOnly_walkFolders (hplain : Plain dialect) (root : Path) (place : List (List Char))
    (layers : List (Layer ρ)) :
    ∀ entries, FaultsOnly OfPatternFile (walkFolders dialect root place layers entries)
  | [] => .ok _
  | (_, .file _) :: entries => by
    rw [walkFolders]
    exact faultsOnly_walkFolders hplain root place layers entries
  | (name, .folder inner) :: entries => by
    rw [walkFolders]
    split
    · exact .bind
        (faultsOnly_walk hplain root (place ++ [name]) (layers.map (Layer.descend name))
          (.folder inner))
        fun _ => .bind (faultsOnly_walkFolders hplain root place layers entries) fun _ => .ok _
    · exact faultsOnly_walkFolders hplain root place layers entries

end

/-- **The survey of a path that leads somewhere fails with nothing but the fault of a pattern
file.** The induction along the tree is `faultsOnly_walk`. -/
theorem faultsOnly_survey (hplain : Plain dialect) {disk : Disk} {path : Path}
    (h : disk.has path = .ok true) :
    FaultsOnly OfPatternFile (surveyBy dialect disk path) := by
  unfold Disk.has at h
  unfold surveyBy sourcesBy
  cases hnull : path.hasNull with
  | true => simp [Disk.find, hnull, Except.map] at h
  | false =>
    simp only [Bool.false_eq_true, if_false]
    cases hfind : disk.find path with
    | error fault => simp [hfind, Except.map] at h
    | ok node =>
      cases node with
      | none => exact .ok _
      | some node =>
        cases node with
        | file bytes => exact .ok _
        | folder entries => exact .map _ (.map _ (faultsOnly_walk hplain _ [] [] _))

end Workspace
end SpiceKit
