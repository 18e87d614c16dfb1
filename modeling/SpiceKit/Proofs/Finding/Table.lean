import Mathlib.Data.String.Basic
import SpiceKit.Finding

/-!
# The table of findings

A table is known by what it holds for each document, `FindingTable.find?`: replacing and clearing
change that for one document and for no other. Its rows are in increasing order of document, which
both keep, and **a table in order is determined by what it holds** (`FindingTable.Sorted.ext`).

Order is what makes that true, and it is an invariant of the table (`Sorted`), with one lemma for
each of the two operations. A whole sequence of events is then compared by comparing `find?`, and
rows never have to be looked at.
-/

set_option autoImplicit false

namespace SpiceKit
namespace FindingTable

variable {table table' : FindingTable} {document other : String}

def find? (table : FindingTable) (document : String) : Option (List Finding) :=
  table.rows.lookup document

/-- The documents stand in increasing order, and none stands twice. `FindingTable.replace` and
`FindingTable.clear` keep it so, and a table in order is known by what it holds (`Sorted.ext`). -/
def Sorted (table : FindingTable) : Prop := table.documents.Pairwise (· < ·)

theorem sorted_nil : Sorted {} := .nil

theorem get_eq (table : FindingTable) (document : String) :
    table.get document = (table.find? document).getD [] := rfl

theorem mem_documents_iff :
    document ∈ table.documents ↔ ∃ findings, table.find? document = some findings := by
  unfold documents find?
  induction table.rows with
  | nil => simp
  | cons row rows ih =>
    rw [List.map_cons, List.mem_cons, ih, List.lookup_cons]
    by_cases h : document = row.1
    · simp [h]
    · have hne : (document == row.1) = false := beq_false_of_ne h
      simp [h, hne]

/-! ## Replacing -/

theorem lookup_putRow_self (document : String) (findings : List Finding)
    (rows : List (String × List Finding)) :
    (putRow document findings rows).lookup document = some findings := by
  induction rows with
  | nil => simp [putRow]
  | cons row rows ih =>
    rw [putRow]
    split_ifs with hlt heq
    · simp
    · simp
    · have hne : (document == row.1) = false := beq_false_of_ne heq
      rw [List.lookup_cons, hne]
      exact ih

theorem lookup_putRow_of_ne (h : other ≠ document) (findings : List Finding)
    (rows : List (String × List Finding)) :
    (putRow document findings rows).lookup other = rows.lookup other := by
  have hne : (other == document) = false := beq_false_of_ne h
  induction rows with
  | nil => simp [putRow, List.lookup_cons, hne]
  | cons row rows ih =>
    rw [putRow]
    split_ifs with hlt heq
    · rw [List.lookup_cons, hne]
    · rw [List.lookup_cons, List.lookup_cons, ← heq, hne]
    · rw [List.lookup_cons, List.lookup_cons, ih]

theorem find?_replace_self (table : FindingTable) (document : String) (findings : List Finding) :
    (table.replace document findings).find? document = some findings :=
  lookup_putRow_self document findings table.rows

theorem find?_replace_of_ne (h : other ≠ document) (table : FindingTable) (findings : List Finding) :
    (table.replace document findings).find? other = table.find? other :=
  lookup_putRow_of_ne h findings table.rows

theorem mem_putRow {document name : String} {findings : List Finding}
    {rows : List (String × List Finding)} (h : name ∈ (putRow document findings rows).map Prod.fst) :
    name = document ∨ name ∈ rows.map Prod.fst := by
  induction rows with
  | nil => simpa [putRow] using h
  | cons row rows ih =>
    rw [putRow] at h
    split_ifs at h with hlt heq
    · simpa using h
    · rcases List.mem_cons.mp h with hname | hname
      · exact Or.inl hname
      · exact Or.inr (List.mem_cons_of_mem _ hname)
    · rcases List.mem_cons.mp h with hname | hname
      · exact Or.inr (hname ▸ List.mem_cons_self)
      · exact (ih hname).imp_right (List.mem_cons_of_mem _)

theorem Sorted.replace (h : table.Sorted) (document : String) (findings : List Finding) :
    (table.replace document findings).Sorted := by
  obtain ⟨rows⟩ := table
  unfold Sorted documents FindingTable.replace at *
  simp only at h ⊢
  induction rows with
  | nil => simp [putRow]
  | cons row rows ih =>
    rw [List.map_cons, List.pairwise_cons] at h
    rw [putRow]
    split_ifs with hlt heq
    · rw [List.map_cons, List.map_cons, List.pairwise_cons, List.pairwise_cons]
      refine ⟨fun name hname => ?_, h⟩
      rcases List.mem_cons.mp hname with rfl | hname
      · exact hlt
      · exact hlt.trans (h.1 name hname)
    · rw [List.map_cons, List.pairwise_cons]
      exact ⟨fun name hname => lt_of_eq_of_lt heq (h.1 name hname), h.2⟩
    · rw [List.map_cons, List.pairwise_cons]
      refine ⟨fun name hname => ?_, ih h.2⟩
      rcases mem_putRow hname with rfl | hname
      · exact lt_of_le_of_ne (not_lt.mp hlt) (Ne.symm heq)
      · exact h.1 name hname

/-! ## Clearing -/

theorem find?_clear_self (table : FindingTable) (document : String) :
    (table.clear document).find? document = none := by
  unfold find? clear
  rw [List.lookup_eq_none_iff]
  intro row hrow
  have hne : row.1 ≠ document := by simpa using (List.mem_filter.mp hrow).2
  exact bne_iff_ne.mpr (Ne.symm hne)

theorem find?_clear_of_ne (h : other ≠ document) (table : FindingTable) :
    (table.clear document).find? other = table.find? other := by
  unfold find? clear
  simp only
  induction table.rows with
  | nil => rfl
  | cons row rows ih =>
    by_cases heq : row.1 = document
    · have hne : (other == row.1) = false := beq_false_of_ne (heq ▸ h)
      rw [List.filter_cons_of_neg (by simp [heq]), List.lookup_cons, hne]
      exact ih
    · rw [List.filter_cons_of_pos (by simp [heq]), List.lookup_cons, List.lookup_cons, ih]

theorem Sorted.clear (h : table.Sorted) (document : String) : (table.clear document).Sorted :=
  h.sublist (List.filter_sublist.map _)

/-! ## What determines a table -/

theorem Sorted.head_le {row : String × List Finding} {rows : List (String × List Finding)}
    (h : Sorted ⟨row :: rows⟩) {findings : List Finding}
    (hfind : find? ⟨row :: rows⟩ document = some findings) : row.1 ≤ document := by
  have hmem : document ∈ row.1 :: rows.map Prod.fst := mem_documents_iff.mpr ⟨findings, hfind⟩
  rcases List.mem_cons.mp hmem with rfl | hmem
  · exact le_refl _
  · exact le_of_lt ((List.pairwise_cons.mp h).1 document hmem)

theorem Sorted.find?_tail {row : String × List Finding} {rows : List (String × List Finding)}
    (h : Sorted ⟨row :: rows⟩) (document : String) :
    find? ⟨rows⟩ document = if document = row.1 then none else find? ⟨row :: rows⟩ document := by
  split_ifs with heq
  · refine Option.eq_none_iff_forall_ne_some.mpr fun findings hfind => ?_
    have hmem : document ∈ rows.map Prod.fst := mem_documents_iff.mpr ⟨findings, hfind⟩
    exact absurd ((List.pairwise_cons.mp h).1 document hmem) (heq ▸ lt_irrefl _)
  · have hne : (document == row.1) = false := beq_false_of_ne heq
    unfold find?
    rw [List.lookup_cons, hne]

/-- **A table in order is determined by what it holds for each document.** With this, two histories
that publish the same in another order leave the same table (`publish_comm`). -/
theorem Sorted.ext (h : table.Sorted) (h' : table'.Sorted)
    (heq : ∀ document, table.find? document = table'.find? document) : table = table' := by
  obtain ⟨rows⟩ := table
  obtain ⟨rows'⟩ := table'
  have hhead (row : String × List Finding) (rows : List (String × List Finding)) :
      find? ⟨row :: rows⟩ row.1 = some row.2 := by
    unfold find?
    rw [List.lookup_cons, beq_self_eq_true]
  congr 1
  induction rows generalizing rows' with
  | nil =>
    cases rows' with
    | nil => rfl
    | cons row' rows' => cases (heq row'.1).trans (hhead row' rows')
  | cons row rows ih =>
    cases rows' with
    | nil => cases (hhead row rows).symm.trans (heq row.1)
    | cons row' rows' =>
      -- Each of the two heads is somewhere in the other table, so neither stands before the other.
      have hkey : row.1 = row'.1 :=
        le_antisymm (h.head_le ((heq row'.1).trans (hhead row' rows')))
          (h'.head_le ((heq row.1).symm.trans (hhead row rows)))
      have hvalue : row.2 = row'.2 := by
        have hsame := (heq row.1).symm.trans (hhead row rows)
        rw [hkey, hhead row' rows'] at hsame
        exact (Option.some.inj hsame).symm
      have htail : rows = rows' := by
        refine ih (List.pairwise_cons.mp h).2 rows' (List.pairwise_cons.mp h').2 fun document => ?_
        rw [h.find?_tail, h'.find?_tail, heq document, hkey]
      rw [Prod.ext hkey hvalue, htail]

end FindingTable
end SpiceKit
