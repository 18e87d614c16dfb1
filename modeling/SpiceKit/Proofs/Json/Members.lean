import SpiceKit.Proofs.Json.Object

/-!
# The pairs of an object

The text of an object is a row of pairs, each a name and a value, and a name may come more than
once. `ObjectText` ties a text to its pairs. It leaves values to the reader, at any bound and any
number of levels: a larger bound and more levels read the same value (`Json.readValue_mono`), so a
text has one row of pairs (`ObjectText.unique`).

**The members of an object that was read are its pairs, merged** (`Json.exists_objectText_of_read`).
In the merged members a name has the value that it is given last (`Json.lookup_merged`), the names
come in order of first mention (`Json.exists_names_merged_split`), and what is left out among the
pairs is left out among the members (`Json.filter_merged`).
-/

set_option autoImplicit false

namespace SpiceKit
namespace Json

variable {bound levels : Nat} {cs rest : List Char} {value : Value}

/-! ## Pairs in a text -/

/-- A name that is written stands in front of a colon and a value as that name. Witnesses with a
settings file of their own are built up with it, member by member. -/
theorem memberAt_writeString {reads : List Char → Value → List Char → Prop}
    {next last rest : List Char} {value : Value} (name : String)
    (hvalue : reads (skipSpace next) value last) (hlast : skipSpace last = rest) :
    MemberAt reads (writeString (.ofString name) ++ ':' :: next) (name, value) rest := by
  have hname := readString_writeString (WideText.joined_ofString name) (':' :: next)
  have hmember := MemberAt.intro hname rfl hvalue hlast
  rw [WideText.toString_ofString] at hmember
  simpa [writeString] using hmember

/-- Pairs stand at the front of a text with commas between them, and a brace ends them. Each pair is
a `MemberAt`; names may come twice, and no budget of the reader occurs. -/
inductive PairsAt : List Char → List (String × Value) → List Char → Prop
  | last {cs rest : List Char} {pair : String × Value} (h : MemberAt Reads cs pair ('}' :: rest)) :
    PairsAt cs [pair] rest
  | more {cs next rest : List Char} {pair : String × Value} {pairs : List (String × Value)}
      (h : MemberAt Reads cs pair (',' :: next)) (hpairs : PairsAt (skipSpace next) pairs rest) :
    PairsAt cs (pair :: pairs) rest

theorem PairsAt.unique {pairs pairs' : List (String × Value)} {rest' : List Char}
    (h : PairsAt cs pairs rest) (h' : PairsAt cs pairs' rest') : pairs = pairs' ∧ rest = rest' := by
  induction h generalizing pairs' with
  | last hmember =>
    cases h' with
    | last hmember' =>
      obtain ⟨rfl, hrest⟩ := hmember.unique hmember'
      exact ⟨rfl, (List.cons.inj hrest).2⟩
    | more hmember' =>
      obtain ⟨-, hrest⟩ := hmember.unique hmember'
      exact absurd (List.cons.inj hrest).1 (by decide)
  | more hmember _ ih =>
    cases h' with
    | last hmember' =>
      obtain ⟨-, hrest⟩ := hmember.unique hmember'
      exact absurd (List.cons.inj hrest).1 (by decide)
    | more hmember' hpairs' =>
      obtain ⟨rfl, hrest⟩ := hmember.unique hmember'
      obtain ⟨-, rfl⟩ := List.cons.inj hrest
      obtain ⟨rfl, rfl⟩ := ih hpairs'
      exact ⟨rfl, rfl⟩

/-- A text is an object of pairs, and nothing else but white space. `exists_objectText_of_read`
finds the pairs of every object that was read, and there is one row of them (`ObjectText.unique`). -/
inductive ObjectText : List Char → List (String × Value) → Prop
  | empty {text inside behind : List Char} (hopen : skipSpace text = '{' :: inside)
      (hclose : skipSpace inside = '}' :: behind) (hend : skipSpace behind = []) :
    ObjectText text []
  | pairs {text inside behind : List Char} {pairs : List (String × Value)}
      (hopen : skipSpace text = '{' :: inside) (hpairs : PairsAt (skipSpace inside) pairs behind)
      (hend : skipSpace behind = []) : ObjectText text pairs

theorem not_pairsAt_brace {pairs : List (String × Value)} : ¬ PairsAt ('}' :: cs) pairs rest := by
  intro h
  cases h with
  | last h => cases h
  | more h => cases h

/-- **A text has one row of pairs.** `load_follows_last_values` speaks of the pairs of a text for
this reason. -/
theorem ObjectText.unique {text : List Char} {pairs pairs' : List (String × Value)}
    (h : ObjectText text pairs) (h' : ObjectText text pairs') : pairs = pairs' := by
  cases h with
  | empty hopen hclose =>
    cases h' with
    | empty => rfl
    | pairs hopen' hpairs =>
      obtain ⟨-, rfl⟩ := List.cons.inj (hopen.symm.trans hopen')
      exact absurd (hclose ▸ hpairs) not_pairsAt_brace
  | pairs hopen hpairs =>
    cases h' with
    | empty hopen' hclose =>
      obtain ⟨-, rfl⟩ := List.cons.inj (hopen.symm.trans hopen')
      exact absurd (hclose ▸ hpairs) not_pairsAt_brace
    | pairs hopen' hpairs' =>
      obtain ⟨-, rfl⟩ := List.cons.inj (hopen.symm.trans hopen')
      exact (hpairs.unique hpairs').1

/-! ## Merged pairs -/

def mergeInto (members pairs : List (String × Value)) : List (String × Value) :=
  pairs.foldl (fun members pair => setMember pair.1 pair.2 members) members

/-- The members that pairs make: one for each name, in order of first mention, with the last value
of the name. It is `mergeInto` behind no members, and `mergeInto` repeats `setMember`. -/
def merged (pairs : List (String × Value)) : List (String × Value) := mergeInto [] pairs

/-- The value that a name is given last. `lookup_merged` is what it is good for. -/
def lastValue? (name : String) (pairs : List (String × Value)) : Option Value :=
  pairs.reverse.lookup name

/-- Members are read as pairs that are merged into those before them. The induction is on the bound
of the reader, a step being `readMembers_succ_eq_ok_iff`. -/
theorem exists_pairsAt_of_readMembers {members : List (String × Value)}
    (h : readMembers bound levels members cs = .ok (value, rest)) :
    ∃ pairs, PairsAt cs pairs rest ∧ value = .object (mergeInto members pairs) := by
  induction bound generalizing members cs with
  | zero => exact absurd h readMembers_zero_ne_ok
  | succ bound ih =>
    cases readMembers_succ_eq_ok_iff.mp h with
    | last hpair => exact ⟨[_], .last (hpair.mono fun _ _ _ h => ⟨_, _, h⟩), rfl⟩
    | more hpair hmore =>
      obtain ⟨pairs, hpairs, hmerged⟩ := ih hmore
      exact ⟨_ :: pairs, .more (hpair.mono fun _ _ _ h => ⟨_, _, h⟩) hpairs, hmerged⟩

theorem exists_array_of_readItems {items : List Value}
    (h : readItems bound levels items cs = .ok (value, rest)) : ∃ all, value = .array all := by
  induction bound generalizing items cs with
  | zero => exact absurd h readItems_zero_ne_ok
  | succ bound ih =>
    cases readItems_succ_eq_ok_iff.mp h with
    | last => exact ⟨_, rfl⟩
    | more _ _ hmore => exact ih hmore

theorem readScalar_ne_object {members : List (String × Value)} :
    readScalar cs ≠ .ok (.object members, rest) := by
  intro h
  unfold readScalar at h
  split at h
  · rename_i word found hfound
    obtain ⟨rfl, -⟩ := Prod.mk.inj (Except.ok.inj h)
    have hmem := List.mem_of_find?_eq_some hfound
    simp [words] at hmem
  · unfold readNumber at h
    split at h
    · cases h
    · split at h
      · split at h <;> cases h
      · cases h

theorem exists_object_of_typeName (h : value.typeName = "dict") :
    ∃ members, value = .object members := by
  cases value with
  | object members => exact ⟨members, rfl⟩
  | _ => simp [Value.typeName] at h

/-- An object that is read starts with a brace, and is empty or made of pairs. `PairsAt` is the row
of them behind the brace. -/
theorem object_of_readValue {members : List (String × Value)}
    (h : readValue bound levels cs = .ok (.object members, rest)) :
    ∃ inside, cs = '{' :: inside ∧
      (skipSpace inside = '}' :: rest ∧ members = [] ∨
        ∃ pairs, PairsAt (skipSpace inside) pairs rest ∧ members = merged pairs) := by
  cases bound with
  | zero => exact absurd h readValue_zero_ne_ok
  | succ bound =>
    cases readValue_succ_eq_ok_iff.mp h with
    | emptyObject hclose => exact ⟨_, rfl, .inl ⟨hclose, rfl⟩⟩
    | object _ hmembers =>
      obtain ⟨pairs, hpairs, hmerged⟩ := exists_pairsAt_of_readMembers hmembers
      exact ⟨_, rfl, .inr ⟨pairs, hpairs, Value.object.inj hmerged⟩⟩
    | array _ hitems =>
      obtain ⟨items, harray⟩ := exists_array_of_readItems hitems
      cases harray
    | scalar _ _ _ hscalar => exact absurd hscalar readScalar_ne_object

/-- **The members of an object that was read are its pairs, merged.** `ObjectText` leaves white
space before and behind the object open. -/
theorem exists_objectText_of_read {text : List Char} {members : List (String × Value)}
    (h : read text = .ok (.object members)) :
    ∃ pairs, ObjectText text pairs ∧ members = merged pairs := by
  unfold read at h
  split at h
  · cases h
  · obtain ⟨⟨found, behind⟩, hfound, h⟩ := exists_of_bind_eq_ok h
    simp only at h
    split at h
    · rename_i hend
      obtain rfl := Except.ok.inj h
      obtain ⟨inside, hopen, ⟨hclose, rfl⟩ | ⟨pairs, hpairs, rfl⟩⟩ := object_of_readValue hfound
      · exact ⟨[], .empty hopen hclose hend, rfl⟩
      · exact ⟨pairs, .pairs hopen hpairs hend, rfl⟩
    · cases h

/-! ## What merging keeps -/

theorem merged_concat (pairs : List (String × Value)) (pair : String × Value) :
    merged (pairs ++ [pair]) = setMember pair.1 pair.2 (merged pairs) :=
  List.foldl_concat ..

theorem lookup_cons_eq (name other : String) (value : Value) (members : List (String × Value)) :
    ((other, value) :: members).lookup name =
      if name = other then some value else members.lookup name := by
  rw [List.lookup_cons]
  by_cases h : name = other
  · simp [h]
  · simp [h, beq_false_of_ne h]

theorem lookup_setMember (name other : String) (value : Value) (members : List (String × Value)) :
    (setMember other value members).lookup name =
      if name = other then some value else members.lookup name := by
  induction members with
  | nil => exact lookup_cons_eq name other value []
  | cons member members ih =>
    obtain ⟨first, found⟩ := member
    rw [setMember]
    by_cases hfirst : first = other
    · rw [if_pos hfirst, lookup_cons_eq, lookup_cons_eq, hfirst]
      split <;> rfl
    · rw [if_neg hfirst, lookup_cons_eq, lookup_cons_eq, ih]
      by_cases h : name = first
      · rw [if_pos h, if_neg (h ▸ hfirst), if_pos h]
      · rw [if_neg h, if_neg h]

/-- **Among merged pairs, a name has the value that it is given last.** Both sides are folds, and a
row is taken from its end (`merged_concat`). -/
theorem lookup_merged (name : String) (pairs : List (String × Value)) :
    (merged pairs).lookup name = lastValue? name pairs := by
  -- From the end of the row: the last pair decides for its name, and for the other names nothing changes.
  induction pairs using List.reverseRecOn with
  | nil => rfl
  | append_singleton pairs pair ih =>
    rw [merged_concat, lookup_setMember, ih, lastValue?, lastValue?, List.reverse_concat]
    exact (lookup_cons_eq name pair.1 pair.2 pairs.reverse).symm

theorem lookup_eq_some_iff {name : String} {value : Value} {members : List (String × Value)}
    (h : (members.map Prod.fst).Nodup) :
    members.lookup name = some value ↔ (name, value) ∈ members := by
  induction members with
  | nil => simp
  | cons member members ih =>
    obtain ⟨first, found⟩ := member
    obtain ⟨hnew, hrest⟩ := List.nodup_cons.mp h
    rw [lookup_cons_eq, List.mem_cons, Prod.mk.injEq]
    split
    · rename_i heq
      have hbehind : (name, value) ∉ members := fun hmem =>
        hnew (List.mem_map.mpr ⟨_, hmem, heq⟩)
      simp [heq ▸ hbehind, heq, eq_comm]
    · rename_i hne
      simp [hne, ih hrest]

/-- In a row without a name twice, the last value of a name is the value of its pair. So two such
rows with the same pairs have the same last values (`lastValue?_of_perm`). -/
theorem lastValue?_eq_some_iff {name : String} {value : Value} {pairs : List (String × Value)}
    (h : (pairs.map Prod.fst).Nodup) :
    lastValue? name pairs = some value ↔ (name, value) ∈ pairs := by
  rw [lastValue?, lookup_eq_some_iff (by rwa [List.map_reverse, List.nodup_reverse]),
    List.mem_reverse]

theorem names_setMember (name : String) (value : Value) (members : List (String × Value)) :
    (setMember name value members).map Prod.fst =
      if name ∈ members.map Prod.fst then members.map Prod.fst
      else members.map Prod.fst ++ [name] := by
  induction members with
  | nil => simp [setMember]
  | cons member members ih =>
    rw [setMember]
    by_cases hfirst : member.1 = name
    · simp [hfirst]
    · simp only [hfirst, if_false, List.map_cons, ih, List.mem_cons, Ne.symm hfirst, false_or]
      split <;> rfl

theorem names_prefix_mergeInto (members pairs : List (String × Value)) :
    members.map Prod.fst <+: (mergeInto members pairs).map Prod.fst := by
  induction pairs generalizing members with
  | nil => exact List.prefix_rfl
  | cons pair pairs ih =>
    refine List.IsPrefix.trans ?_ (ih (setMember pair.1 pair.2 members))
    rw [names_setMember]
    split
    · exact List.prefix_rfl
    · exact List.prefix_append _ _

theorem mem_names_merged {name : String} {pairs : List (String × Value)} :
    name ∈ (merged pairs).map Prod.fst ↔ name ∈ pairs.map Prod.fst := by
  induction pairs using List.reverseRecOn with
  | nil => rfl
  | append_singleton pairs pair ih =>
    rw [merged_concat, names_setMember, List.map_append, List.mem_append, ← ih]
    split
    · rename_i hmem
      simp only [List.map_cons, List.map_nil, List.mem_singleton]
      exact ⟨.inl, fun h => h.elim id (· ▸ hmem)⟩
    · simp

theorem nodup_names_merged (pairs : List (String × Value)) :
    ((merged pairs).map Prod.fst).Nodup := by
  induction pairs using List.reverseRecOn with
  | nil => exact List.nodup_nil
  | append_singleton pairs pair ih =>
    rw [merged_concat, names_setMember]
    split
    · exact ih
    · rename_i hnew
      exact List.concat_eq_append ▸ ih.concat hnew

/-- **Names come in order of first mention**: the names before one among the members are those that
are mentioned before it is mentioned first. The wrong setting that is reported is found by it
(`FirstWrong`). -/
theorem exists_names_merged_split {before : List (String × Value)} {pair : String × Value}
    (h : pair.1 ∉ before.map Prod.fst) (behind : List (String × Value)) :
    ∃ later, (merged (before ++ pair :: behind)).map Prod.fst =
      (merged before).map Prod.fst ++ pair.1 :: later := by
  have hsplit : merged (before ++ pair :: behind) =
      mergeInto (setMember pair.1 pair.2 (merged before)) behind := List.foldl_append ..
  obtain ⟨later, hlater⟩ :=
    names_prefix_mergeInto (setMember pair.1 pair.2 (merged before)) behind
  rw [names_setMember, if_neg (mt mem_names_merged.mp h), List.append_assoc,
    List.singleton_append] at hlater
  exact ⟨later, by rw [hsplit, hlater]⟩

theorem filter_setMember (keep : String → Bool) (name : String) (value : Value)
    (members : List (String × Value)) :
    (setMember name value members).filter (fun member => keep member.1) =
      if keep name then setMember name value (members.filter fun member => keep member.1)
      else members.filter fun member => keep member.1 := by
  induction members with
  | nil => cases h : keep name <;> simp [setMember, h]
  | cons member members ih =>
    rw [setMember]
    by_cases hfirst : member.1 = name
    · cases h : keep name <;> simp [hfirst, h, setMember]
    · cases h : keep name <;> cases hmember : keep member.1 <;>
        simp [hfirst, h, hmember, ih, setMember]

/-- **What is left out among the pairs is left out among the members**, and nothing else changes.
With the names that are known for what is kept, this is `ofMembers_known`. -/
theorem filter_merged (keep : String → Bool) (pairs : List (String × Value)) :
    (merged pairs).filter (fun member => keep member.1) =
      merged (pairs.filter fun pair => keep pair.1) := by
  induction pairs using List.reverseRecOn with
  | nil => rfl
  | append_singleton pairs pair ih =>
    rw [merged_concat, filter_setMember, ih, List.filter_append]
    cases h : keep pair.1 <;> simp [h, merged_concat]

end Json
end SpiceKit
