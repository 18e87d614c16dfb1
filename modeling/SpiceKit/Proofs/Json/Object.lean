import SpiceKit.Proofs.Json.Steps
import SpiceKit.Proofs.Json.Strings
import SpiceKit.Proofs.Number.Binary64

/-!
# Objects are read as they are written

Texts, truth values and reals are written so that they are read again, whatever follows that is not
part of a numeral: a text as itself, a real as the number that its digits stand for. `ReadAs` is
that judgment, and **an object whose members are read again is read again, member by member**
(`Json.read_write_object`).

The other way round, **every text among the members of an object that was read is joined**
(`Json.joined_of_read`), and so will be written in a way that it can be read again.
-/

set_option autoImplicit false

namespace SpiceKit
namespace Json

open Text (Stops stops_cons stops_nil)

/-! ## White space -/

def isSpace (c : Char) : Bool := c == ' ' || c == '\t' || c == '\n' || c == '\r'

theorem skipSpace_of_stops {cs : List Char} (h : Stops isSpace cs) : skipSpace cs = cs := by
  have hsplit : ([] ++ cs).takeWhile isSpace = [] ∧ ([] ++ cs).dropWhile isSpace = cs :=
    Text.span_eq (by simp) h
  exact hsplit.2

theorem skipSpace_newline (level : Nat) {cs : List Char} (h : Stops isSpace cs) :
    skipSpace (newline level ++ cs) = cs := by
  refine (Text.span_eq (fun c hc => ?_) h).2
  rcases List.mem_cons.mp hc with rfl | hc
  · decide
  · rw [List.eq_of_mem_replicate hc]
    decide

/-! ## Values -/

/-- What is written for a value is read as a value: it starts with no white space, holds no carriage
return, and whatever follows it that does not go on with a numeral is left. Texts, truth values and
reals are read so (`readAs_text`, `readAs_bool`, `readAs_real`), and a real may be read as another
one. -/
structure ReadAs (value found : Value) : Prop where
  stops : ∀ level rest, Stops isSpace (writeValue level value ++ rest)
  clean : ∀ level, '\r' ∉ writeValue level value
  read : ∀ level bound levels rest, Stops Numeral.continues rest →
    readValue (bound + 1) levels (writeValue level value ++ rest) = .ok (found, rest)

theorem return_not_mem_escapeUnit (unit : Nat) : '\r' ∉ escapeUnit unit := by
  have hdigit : ∀ digit < 16, Nat.digitChar digit ≠ '\r' := by decide
  rw [escapeUnit_eq]
  simp only [List.mem_cons, List.not_mem_nil, or_false, not_or]
  refine ⟨by decide, by decide, ?_, ?_, ?_, ?_⟩ <;>
    exact (hdigit _ (Nat.mod_lt _ (by decide))).symm

theorem return_not_mem_escapePoint (point : CodePoint) : '\r' ∉ escapePoint point := by
  cases point with
  | half index => exact return_not_mem_escapeUnit _
  | char c =>
    rw [escapePoint]
    unfold escapeChar
    split_ifs with _ _ _ _ _ _ _ hprinted
    iterate 7 decide
    · intro hc
      rw [← List.mem_singleton.mp hc] at hprinted
      exact absurd hprinted (by decide)
    · exact return_not_mem_escapeUnit _
    · exact fun hc => (List.mem_append.mp hc).elim (return_not_mem_escapeUnit _)
        (return_not_mem_escapeUnit _)

theorem return_not_mem_writeString (text : WideText) : '\r' ∉ writeString text := by
  simp only [writeString, List.mem_cons, List.mem_append, List.mem_flatMap, List.not_mem_nil,
    or_false, not_or, not_exists, not_and]
  exact ⟨by decide, fun point _ => return_not_mem_escapePoint point, by decide⟩

theorem readAs_text {text : WideText} (h : text.Joined) : ReadAs (.text text) (.text text) where
  stops _ _ := by
    rw [writeValue, writeString, List.cons_append]
    exact stops_cons.mpr (by decide)
  clean _ := by
    rw [writeValue]
    exact return_not_mem_writeString text
  read level bound levels rest _ := by
    simp only [writeValue, writeString, List.cons_append, List.append_assoc, List.nil_append,
      readValue, readString_writeString h, bind, Except.bind]
    rfl

theorem readAs_bool (b : Bool) : ReadAs (.bool b) (.bool b) where
  stops _ _ := by cases b <;> exact stops_cons.mpr (by decide)
  clean _ := by cases b <;> simp [writeValue]
  read _ _ _ _ _ := by cases b <;> rfl

theorem find?_words_eq_none {cs : List Char} (h : (Numeral.read? cs).isSome) :
    words.find? (fun (word, _) => word.isPrefixOf cs) = none := by
  rw [List.find?_eq_none]
  rintro ⟨word, value⟩ hword hprefix
  obtain ⟨rest, rfl⟩ := List.isPrefixOf_iff_prefix.mp hprefix
  simp only [words, List.mem_cons, Prod.mk.injEq, List.not_mem_nil, or_false] at hword
  rcases hword with ⟨rfl, -⟩ | ⟨rfl, -⟩ | ⟨rfl, -⟩ | ⟨rfl, -⟩ | ⟨rfl, -⟩ | ⟨rfl, -⟩ <;>
    exact Bool.false_ne_true h

theorem readScalar_of_numeral {cs rest : List Char} {numeral : Numeral}
    (h : Numeral.read? cs = some (numeral, rest)) (hreal : numeral.isInteger = false) :
    readScalar cs = .ok (.real (Binary64.ofNumeral numeral), rest) := by
  rw [readScalar, find?_words_eq_none (by rw [h]; rfl)]
  simp only [readNumber, h, hreal, Bool.false_eq_true, if_false]

theorem of_isNumeralChar {c : Char} (h : Numeral.isNumeralChar c = true) :
    isSpace c = false ∧ c ≠ '"' ∧ c ≠ '{' ∧ c ≠ '[' ∧ c ≠ '\r' := by
  refine ⟨?_, ?_, ?_, ?_, ?_⟩
  · rw [Bool.eq_false_iff]
    intro hspace
    simp only [isSpace, Bool.or_eq_true, beq_iff_eq] at hspace
    rcases hspace with ((rfl | rfl) | rfl) | rfl <;> exact absurd h (by decide)
  all_goals
    rintro rfl
    exact absurd h (by decide)

/-- **A real is read as the number that its digits stand for.** That number is the real itself
(`Binary64.reread_eq`). -/
theorem readAs_real (x : Binary64) : ReadAs (.real x) (.real x.reread) := by
  cases x with
  | nan =>
    exact ⟨fun _ _ => stops_cons.mpr (by decide), fun _ => (by decide : '\r' ∉ "NaN".toList),
      fun _ _ _ _ _ => rfl⟩
  | infinite negative =>
    cases negative with
    | false =>
      exact ⟨fun _ _ => stops_cons.mpr (by decide),
        fun _ => (by decide : '\r' ∉ "Infinity".toList), fun _ _ _ _ _ => rfl⟩
    | true =>
      exact ⟨fun _ _ => stops_cons.mpr (by decide),
        fun _ => (by decide : '\r' ∉ "-Infinity".toList), fun _ _ _ _ _ => rfl⟩
  | finite negative rank =>
    obtain ⟨spelled, hformed, hreal, hwrite, hreread, -⟩ :=
      Binary64.exists_spelled_reread negative rank
    have htext : ∀ level, writeValue level (.real (.finite negative rank)) = spelled.text :=
      fun _ => by rw [writeValue, hwrite]
    have hchar := fun c => Numeral.isNumeralChar_of_mem_text hformed (c := c)
    obtain ⟨c, cs, hcons, -⟩ := Numeral.exists_head_text hformed
    obtain ⟨hspace, hquote, hbrace, hbracket, -⟩ :=
      of_isNumeralChar (hchar c (by rw [hcons]; exact List.mem_cons_self))
    refine ⟨fun level rest => ?_, fun level => ?_, fun level bound levels rest hrest => ?_⟩
    · rw [htext, hcons]
      exact stops_cons.mpr hspace
    · rw [htext]
      exact fun hmem => (of_isNumeralChar (hchar _ hmem)).2.2.2.2 rfl
    · have hread := readScalar_of_numeral (Numeral.read?_text hformed hrest) hreal
      rw [htext, Binary64.reread, hreread, Option.getD_some, ← hread, hcons, List.cons_append]
      exact readValue_of_head hquote hbrace hbracket bound levels (cs ++ rest)

/-! ## Objects -/

theorem setMember_of_not_mem {name : String} {members : List (String × Value)}
    (h : name ∉ members.map Prod.fst) (value : Value) :
    setMember name value members = members ++ [(name, value)] := by
  induction members with
  | nil => rfl
  | cons member members ih =>
    rw [List.map_cons, List.mem_cons, not_or] at h
    rw [setMember, if_neg (Ne.symm h.1), ih h.2, List.cons_append]

def ReadAsMember (member found : String × Value) : Prop :=
  member.1 = found.1 ∧ ReadAs member.2 found.2

/-- What stands behind a member of an object that is written. It starts with a comma or a line end,
and so stops a number (`stops_afterMember`). -/
def afterMember (level : Nat) (members : List (String × Value)) (rest : List Char) : List Char :=
  writeMembers (level + 1) members ++ (newline level ++ '}' :: rest)

theorem stops_afterMember (level : Nat) (members : List (String × Value)) (rest : List Char) :
    Stops Numeral.continues (afterMember level members rest) := by
  unfold afterMember
  cases members with
  | nil => exact stops_cons.mpr (by decide)
  | cons member members => exact stops_cons.mpr (by decide)

/-- The name and the value of a member, and what stands behind it. `memberAt_memberText` says how it
is read. -/
def memberText (level : Nat) (member : String × Value) (rest : List Char) : List Char :=
  writeString member.1 ++ ':' :: ' ' :: (writeValue (level + 1) member.2 ++ rest)

theorem afterMember_cons (level : Nat) (member : String × Value) (members : List (String × Value))
    (rest : List Char) : afterMember level (member :: members) rest =
      ',' :: (newline (level + 1) ++ memberText level member (afterMember level members rest)) := by
  obtain ⟨name, value⟩ := member
  simp only [afterMember, memberText, writeMembers, List.cons_append, List.append_assoc,
    List.nil_append]

/-- A member that is written is found there by `MemberAt`, if what follows does not go on with a
numeral. `readMembers_write` takes each of its steps with this. -/
theorem memberAt_memberText {member found : String × Value} (h : ReadAsMember member found)
    (bound levels level : Nat) {rest : List Char} (hrest : Stops Numeral.continues rest) :
    MemberAt (ReadsWithin (bound + 1) levels) (memberText level member rest) found
      (skipSpace rest) := by
  obtain ⟨name, value⟩ := member
  obtain ⟨name', value'⟩ := found
  obtain ⟨rfl, hvalue⟩ : name = name' ∧ ReadAs value value' := h
  have hname := readString_writeString (WideText.joined_ofString name)
    (':' :: ' ' :: (writeValue (level + 1) value ++ rest))
  have hspace : skipSpace (' ' :: (writeValue (level + 1) value ++ rest)) =
      writeValue (level + 1) value ++ rest :=
    skipSpace_of_stops (hvalue.stops (level + 1) rest)
  have hcolon : skipSpace (':' :: ' ' :: (writeValue (level + 1) value ++ rest)) =
      ':' :: ' ' :: (writeValue (level + 1) value ++ rest) :=
    skipSpace_of_stops (stops_cons.mpr (by decide))
  have hread : ReadsWithin (bound + 1) levels
      (skipSpace (' ' :: (writeValue (level + 1) value ++ rest))) value' rest := by
    rw [hspace]
    exact hvalue.read _ _ _ _ hrest
  have hmember : MemberAt (ReadsWithin (bound + 1) levels) (memberText level (name, value) rest)
      ((WideText.ofString name).toString, value') (skipSpace rest) := by
    simp only [memberText, writeString, List.cons_append, List.append_assoc, List.nil_append]
    exact .intro hname hcolon hread rfl
  rwa [WideText.toString_ofString] at hmember

theorem not_mem_of_nodup {before behind : List (String × Value)} {member : String × Value}
    (h : ((before ++ member :: behind).map Prod.fst).Nodup) :
    member.1 ∉ before.map Prod.fst := by
  rw [List.map_append, List.map_cons] at h
  exact fun hmem => (List.nodup_append.mp h).2.2 _ hmem _ List.mem_cons_self rfl

/-- **The members of an object are read one behind the other.** The induction is on the members
still to come; `memberAt_memberText` is the step. -/
theorem readMembers_write {members found : List (String × Value)}
    (h : List.Forall₂ ReadAsMember members found) {member first : String × Value}
    (hfirst : ReadAsMember member first) {before : List (String × Value)}
    (hnames : ((before ++ first :: found).map Prod.fst).Nodup) {bound : Nat}
    (hbound : members.length + 2 ≤ bound) (levels level : Nat) (rest : List Char) :
    readMembers bound levels before
        (memberText level member (afterMember level members rest)) =
      .ok (.object (before ++ first :: found), rest) := by
  induction h generalizing member first before bound with
  | nil =>
    obtain ⟨bound, rfl⟩ := Nat.exists_eq_add_of_le' hbound
    have hnew : first.1 ∉ before.map Prod.fst := not_mem_of_nodup hnames
    have hlast : skipSpace (afterMember level [] rest) = '}' :: rest :=
      skipSpace_newline level (stops_cons.mpr (by decide))
    have hmember := memberAt_memberText hfirst bound levels level (stops_afterMember level [] rest)
    rw [hlast] at hmember
    rw [← setMember_of_not_mem hnew]
    exact readMembers_succ_eq_ok_iff.mpr (.last hmember)
  -- The member that was read goes behind those before it, since its name is new.
  | @cons next found members founds hnext _ ih =>
    obtain ⟨bound, rfl⟩ := Nat.exists_eq_add_of_le' hbound
    have hnew : first.1 ∉ before.map Prod.fst := not_mem_of_nodup hnames
    have hbound' : members.length + 2 ≤ bound + (next :: members).length + 1 := by
      rw [List.length_cons]
      omega
    have hcomma : skipSpace (afterMember level (next :: members) rest) =
        ',' :: (newline (level + 1) ++ memberText level next (afterMember level members rest)) := by
      rw [afterMember_cons]
      exact skipSpace_of_stops (stops_cons.mpr (by decide))
    have hspace : skipSpace (newline (level + 1) ++ memberText level next
        (afterMember level members rest)) = memberText level next (afterMember level members rest) :=
      skipSpace_newline _ (stops_cons.mpr (by decide))
    have hmember := memberAt_memberText hfirst (bound + (next :: members).length) levels level
      (stops_afterMember level (next :: members) rest)
    rw [hcomma] at hmember
    rw [List.append_cons] at hnames ⊢
    refine readMembers_succ_eq_ok_iff.mpr (.more hmember ?_)
    rw [hspace, setMember_of_not_mem hnew]
    exact ih hnext hnames hbound'

theorem length_le_writeMembers (level : Nat) (members : List (String × Value)) :
    members.length ≤ (writeMembers level members).length := by
  induction members with
  | nil => exact Nat.le_refl _
  | cons member members ih =>
    obtain ⟨name, value⟩ := member
    simp only [writeMembers, List.length_cons, List.length_append]
    omega

theorem writeValue_object (level : Nat) (member : String × Value)
    (members : List (String × Value)) : writeValue level (.object (member :: members)) =
      '{' :: (newline (level + 1) ++ memberText level member (afterMember level members [])) := by
  obtain ⟨name, value⟩ := member
  simp only [writeValue, memberText, afterMember, List.append_assoc, List.cons_append,
    List.nil_append]

theorem readValue_object {members found : List (String × Value)}
    (h : List.Forall₂ ReadAsMember members found) {member first : String × Value}
    (hfirst : ReadAsMember member first) (hnames : ((first :: found).map Prod.fst).Nodup)
    {bound : Nat} (hbound : members.length + 2 ≤ bound) (levels level : Nat) :
    readValue (bound + 1) (levels + 1) (writeValue level (.object (member :: members))) =
      .ok (.object (first :: found), []) := by
  have hskip : skipSpace (newline (level + 1) ++
      memberText level member (afterMember level members [])) =
        memberText level member (afterMember level members []) :=
    skipSpace_newline _ (stops_cons.mpr (by decide))
  have hmembers : readMembers bound levels []
      (memberText level member (afterMember level members [])) =
        .ok (.object (first :: found), []) := by
    rw [← List.nil_append (first :: found)] at hnames ⊢
    exact readMembers_write h hfirst hnames hbound levels level []
  rw [writeValue_object, readValue]
  simp only [hskip]
  exact hmembers

/-- **An object whose members are read again is read again**, member by member. `ReadAs` is what is
asked of a member: that its value, with anything harmless behind it, is read as another. -/
theorem read_write_object {members found : List (String × Value)}
    (h : List.Forall₂ ReadAsMember members found) (hnames : (found.map Prod.fst).Nodup) :
    read (write (.object members)) = .ok (.object found) := by
  cases h with
  | nil => rfl
  | @cons member first members found hmember hmembers =>
    have hlength := length_le_writeMembers (0 + 1) members
    have htext : write (.object (member :: members)) =
        '{' :: (newline 1 ++ memberText 0 member (afterMember 0 members [])) :=
      writeValue_object 0 member members
    have hbound : members.length + 2 ≤ 2 * (write (.object (member :: members))).length + 1 := by
      simp only [htext, memberText, afterMember, List.length_cons, List.length_append]
      omega
    have hbrace : skipSpace (write (.object (member :: members))) =
        write (.object (member :: members)) := by
      rw [htext]
      exact skipSpace_of_stops (stops_cons.mpr (by decide))
    have hmark : (write (.object (member :: members))).head? ≠ some '\ufeff' := by
      rw [htext, List.head?_cons]
      decide
    -- Of the limit it matters only that one object may be opened.
    obtain ⟨levels, hlevels⟩ : ∃ levels, nestingLimit = levels + 1 :=
      Nat.exists_eq_succ_of_ne_zero (by decide)
    have hvalue : readValue (2 * (write (.object (member :: members))).length + 1 + 1) (levels + 1)
        (write (.object (member :: members))) = .ok (.object (first :: found), []) :=
      readValue_object hmembers hmember hnames hbound levels 0
    rw [read, if_neg hmark, hbrace, hlevels, hvalue]
    rfl

theorem return_not_mem_newline (level : Nat) : '\r' ∉ newline level := by
  intro hmem
  rcases List.mem_cons.mp hmem with heq | hmem
  · exact absurd heq (by decide)
  · exact absurd (List.eq_of_mem_replicate hmem) (by decide)

theorem return_not_mem_memberText {member found : String × Value} (h : ReadAsMember member found)
    (level : Nat) {rest : List Char} (hrest : '\r' ∉ rest) :
    '\r' ∉ memberText level member rest := by
  simp only [memberText, List.mem_append, List.mem_cons, not_or]
  exact ⟨return_not_mem_writeString _, by decide, by decide, h.2.clean _, hrest⟩

theorem return_not_mem_afterMember {members found : List (String × Value)}
    (h : List.Forall₂ ReadAsMember members found) (level : Nat) :
    '\r' ∉ afterMember level members [] := by
  induction h with
  | nil =>
    simp only [afterMember, writeMembers, List.nil_append, List.mem_append, not_or]
    exact ⟨return_not_mem_newline level, by decide⟩
  | @cons member found members founds hmember _ ih =>
    rw [afterMember_cons, List.mem_cons, List.mem_append, not_or, not_or]
    exact ⟨by decide, return_not_mem_newline _, return_not_mem_memberText hmember level ih⟩

theorem return_not_mem_write_object {members found : List (String × Value)}
    (h : List.Forall₂ ReadAsMember members found) : '\r' ∉ write (.object members) := by
  cases h with
  | nil => decide
  | @cons member found members founds hmember hmembers =>
    rw [write, writeValue_object, List.mem_cons, List.mem_append, not_or, not_or]
    exact ⟨by decide, return_not_mem_newline _,
      return_not_mem_memberText hmember 0 (return_not_mem_afterMember hmembers 0)⟩

/-! ## What was read -/

/-- Every text in a value is joined, down to those in the objects and arrays in it; the names of
members are not asked for. `joined_of_read` provides it for whatever was read. -/
inductive Value.Joined : Value → Prop
  | null : Joined .null
  | bool (b : Bool) : Joined (.bool b)
  | int (n : Int) : Joined (.int n)
  | real (x : Binary64) : Joined (.real x)
  | text {text : WideText} (h : text.Joined) : Joined (.text text)
  | array {items : List Value} (h : ∀ item ∈ items, Joined item) : Joined (.array items)
  | object {members : List (String × Value)} (h : ∀ member ∈ members, Joined member.2) :
    Joined (.object members)

theorem joined_of_readScalar {cs rest : List Char} {value : Value}
    (h : readScalar cs = .ok (value, rest)) : value.Joined := by
  unfold readScalar at h
  split at h
  · rename_i word found hfound
    have hmem := List.mem_of_find?_eq_some hfound
    obtain ⟨rfl, -⟩ := Prod.mk.inj (Except.ok.inj h)
    simp only [words, List.mem_cons, Prod.mk.injEq, List.not_mem_nil, or_false] at hmem
    rcases hmem with ⟨-, rfl⟩ | ⟨-, rfl⟩ | ⟨-, rfl⟩ | ⟨-, rfl⟩ | ⟨-, rfl⟩ | ⟨-, rfl⟩ <;> constructor
  · unfold readNumber at h
    split at h
    · cases h
    · split at h
      · split at h
        · cases h
        · obtain ⟨rfl, -⟩ := Prod.mk.inj (Except.ok.inj h)
          exact .int _
      · obtain ⟨rfl, -⟩ := Prod.mk.inj (Except.ok.inj h)
        exact .real _

theorem joined_setMember {name : String} {value : Value} {members : List (String × Value)}
    (hvalue : value.Joined) (h : ∀ member ∈ members, member.2.Joined) :
    ∀ member ∈ setMember name value members, member.2.Joined := by
  induction members with
  | nil =>
    intro member hmember
    rw [List.mem_singleton.mp hmember]
    exact hvalue
  | cons first members ih =>
    obtain ⟨hfirst, hmembers⟩ := List.forall_mem_cons.mp h
    rw [setMember]
    split
    · exact List.forall_mem_cons.mpr ⟨hvalue, hmembers⟩
    · exact List.forall_mem_cons.mpr ⟨hfirst, ih hmembers⟩

-- The induction is on the bound and carries the statements about all three readers.
theorem joined_of_read_within (bound : Nat) :
    (∀ {levels cs value rest}, readValue bound levels cs = .ok (value, rest) → value.Joined) ∧
    (∀ {levels members cs value rest}, (∀ member ∈ members, Value.Joined member.2) →
      readMembers bound levels members cs = .ok (value, rest) → value.Joined) ∧
    (∀ {levels items cs value rest}, (∀ item ∈ items, Value.Joined item) →
      readItems bound levels items cs = .ok (value, rest) → value.Joined) := by
  -- The readers call each other with a smaller bound, hence one induction for all three.
  induction bound with
  | zero =>
    exact ⟨fun h => absurd h readValue_zero_ne_ok, fun _ h => absurd h readMembers_zero_ne_ok,
      fun _ h => absurd h readItems_zero_ne_ok⟩
  | succ bound ih =>
    obtain ⟨ihvalue, ihmembers, ihitems⟩ := ih
    refine ⟨fun h => ?_, fun {levels members cs value rest} hmembers h => ?_,
      fun {levels items cs value rest} hitems h => ?_⟩
    · cases readValue_succ_eq_ok_iff.mp h with
      | text htext => exact .text (joined_of_readString htext)
      | emptyObject => exact .object (by simp)
      | object _ hmembers => exact ihmembers (by simp) hmembers
      | emptyArray => exact .array (by simp)
      | array _ hitems => exact ihitems (by simp) hitems
      | scalar _ _ _ hscalar => exact joined_of_readScalar hscalar
    · have hset {pair : String × Value} {behind : List Char}
          (hpair : MemberAt (ReadsWithin bound levels) cs pair behind) :
          ∀ member ∈ setMember pair.1 pair.2 members, member.2.Joined := by
        cases hpair with
        | intro _ _ hvalue _ => exact joined_setMember (ihvalue hvalue) hmembers
      cases readMembers_succ_eq_ok_iff.mp h with
      | last hpair => exact .object (hset hpair)
      | more hpair hmore => exact ihmembers (hset hpair) hmore
    · have hall {item : Value} {behind : List Char} (hitem : ReadsWithin bound levels cs item behind) :
          ∀ other ∈ item :: items, Value.Joined other :=
        List.forall_mem_cons.mpr ⟨ihvalue hitem, hitems⟩
      cases readItems_succ_eq_ok_iff.mp h with
      | last hitem _ => exact .array fun item hmem => hall hitem item (List.mem_reverse.mp hmem)
      | more hitem _ hmore => exact ihitems (hall hitem) hmore

/-- **Every text in a value that was read is joined.** The induction goes through the three readers
at once (`joined_of_read_within`). -/
theorem joined_of_read {cs : List Char} {value : Value} (h : read cs = .ok value) :
    value.Joined := by
  unfold read at h
  split at h
  · cases h
  · obtain ⟨⟨found, rest⟩, hfound, hrest⟩ := exists_of_bind_eq_ok h
    simp only at hrest
    split at hrest
    · obtain rfl := Except.ok.inj hrest
      exact (joined_of_read_within _).1 hfound
    · cases hrest

end Json
end SpiceKit
