import SpiceKit.Json.Reader

/-!
# Steps of the reader

The readers of values, members and items call each other with a smaller bound. What one step of each
can do is said once (`Json.readValue_succ_eq_ok_iff` and its two companions), so that a proof about
all that is read is an induction on the bound with one case for each kind of step.

A larger bound and more levels read the same value (`Json.readValue_mono`), so **a text is read as
one value, whatever the bound and the levels** (`Json.Reads.unique`).
-/

set_option autoImplicit false

namespace SpiceKit
namespace Json

theorem exists_of_bind_eq_ok {α β : Type} {first : Except Fault α} {next : α → Except Fault β}
    {b : β} (h : (first >>= next) = .ok b) : ∃ a, first = .ok a ∧ next a = .ok b := by
  cases first with
  | error fault => cases h
  | ok a => exact ⟨a, rfl, h⟩

/-- A text is read as a value with a given bound and given levels. Both are budgets of the reader; a
larger one reads the same (`readValue_mono`), so that `Reads` can do without them. -/
def ReadsWithin (bound levels : Nat) (cs : List Char) (value : Value) (rest : List Char) : Prop :=
  readValue bound levels cs = .ok (value, rest)

/-! ## Values -/

theorem readValue_of_head {c : Char} (hquote : c ≠ '"') (hbrace : c ≠ '{') (hbracket : c ≠ '[')
    (bound levels : Nat) (cs : List Char) :
    readValue (bound + 1) levels (c :: cs) = readScalar (c :: cs) := by
  rw [readValue]
  all_goals simp_all

/-- What is read in one step as a value: a text; an object or an array, which takes a level; a word
or a number. A proof about `readValue` takes its cases from here and not from the text of the
reader. -/
inductive ValueStep (bound : Nat) : Nat → List Char → Value → List Char → Prop
  | text {levels : Nat} {cs rest : List Char} {text : WideText}
      (h : readString cs = .ok (text, rest)) : ValueStep bound levels ('"' :: cs) (.text text) rest
  | emptyObject {levels : Nat} {cs rest : List Char} (h : skipSpace cs = '}' :: rest) :
      ValueStep bound (levels + 1) ('{' :: cs) (.object []) rest
  | object {levels : Nat} {cs rest : List Char} {value : Value}
      (hopen : ∀ next, skipSpace cs ≠ '}' :: next)
      (h : readMembers bound levels [] (skipSpace cs) = .ok (value, rest)) :
      ValueStep bound (levels + 1) ('{' :: cs) value rest
  | emptyArray {levels : Nat} {cs rest : List Char} (h : skipSpace cs = ']' :: rest) :
      ValueStep bound (levels + 1) ('[' :: cs) (.array []) rest
  | array {levels : Nat} {cs rest : List Char} {value : Value}
      (hopen : ∀ next, skipSpace cs ≠ ']' :: next)
      (h : readItems bound levels [] (skipSpace cs) = .ok (value, rest)) :
      ValueStep bound (levels + 1) ('[' :: cs) value rest
  | scalar {levels : Nat} {c : Char} {cs rest : List Char} {value : Value} (hquote : c ≠ '"')
      (hbrace : c ≠ '{') (hbracket : c ≠ '[') (h : readScalar (c :: cs) = .ok (value, rest)) :
      ValueStep bound levels (c :: cs) value rest

variable {bound levels : Nat} {cs rest : List Char} {value : Value}

theorem ValueStep.of_readValue (h : readValue (bound + 1) levels cs = .ok (value, rest)) :
    ValueStep bound levels cs value rest := by
  unfold readValue at h
  split at h
  · obtain ⟨⟨text, rest'⟩, htext, hvalue⟩ := exists_of_bind_eq_ok h
    obtain ⟨rfl, rfl⟩ := Prod.mk.inj (Except.ok.inj hvalue)
    exact .text htext
  · split at h
    · cases h
    · split at h
      · rename_i hclose
        obtain ⟨rfl, rfl⟩ := Prod.mk.inj (Except.ok.inj h)
        exact .emptyObject hclose
      · rename_i hopen
        exact .object hopen h
  · split at h
    · cases h
    · split at h
      · rename_i hclose
        obtain ⟨rfl, rfl⟩ := Prod.mk.inj (Except.ok.inj h)
        exact .emptyArray hclose
      · rename_i hopen
        exact .array hopen h
  · rename_i hquote hbrace hbracket
    cases cs with
    | nil => cases h
    | cons c cs =>
      exact .scalar (fun heq => hquote cs (heq ▸ rfl)) (fun heq => hbrace cs (heq ▸ rfl))
        (fun heq => hbracket cs (heq ▸ rfl)) h

/-- One step of reading a value. What it means is `ValueStep`. -/
theorem readValue_succ_eq_ok_iff :
    readValue (bound + 1) levels cs = .ok (value, rest) ↔ ValueStep bound levels cs value rest := by
  refine ⟨.of_readValue, fun h => ?_⟩
  cases h with
  | text h =>
    unfold readValue
    simp only [h, bind, Except.bind]
    rfl
  | emptyObject h =>
    unfold readValue
    simp only [h]
  | object hopen h =>
    unfold readValue
    simp only
    exact h
  | emptyArray h =>
    unfold readValue
    simp only [h]
  | array hopen h =>
    unfold readValue
    simp only
    exact h
  | scalar hquote hbrace hbracket h => rwa [readValue_of_head hquote hbrace hbracket]

/-! ## Members and items -/

/-- A name, a colon and a value stand at the front of a text, with white space between them and
behind them. What a value is, is a parameter: `ReadsWithin` in one step of the reader, and `Reads`
in `PairsAt`. -/
inductive MemberAt (reads : List Char → Value → List Char → Prop) :
    List Char → String × Value → List Char → Prop
  | intro {cs behind next last rest : List Char} {name : WideText} {value : Value}
      (hname : readString cs = .ok (name, behind)) (hcolon : skipSpace behind = ':' :: next)
      (hvalue : reads (skipSpace next) value last) (hlast : skipSpace last = rest) :
      MemberAt reads ('"' :: cs) (name.toString, value) rest

theorem MemberAt.mono {reads reads' : List Char → Value → List Char → Prop} {pair : String × Value}
    (h : MemberAt reads cs pair rest)
    (hreads : ∀ cs value rest, reads cs value rest → reads' cs value rest) :
    MemberAt reads' cs pair rest := by
  cases h with
  | intro hname hcolon hvalue hlast => exact .intro hname hcolon (hreads _ _ _ hvalue) hlast

/-- What is read in one step behind some members: the last member, or a member with more behind it.
The member is a `MemberAt`. -/
inductive MembersStep (bound levels : Nat) (members : List (String × Value)) :
    List Char → Value → List Char → Prop
  | last {cs rest : List Char} {pair : String × Value}
      (h : MemberAt (ReadsWithin bound levels) cs pair ('}' :: rest)) :
      MembersStep bound levels members cs (.object (setMember pair.1 pair.2 members)) rest
  | more {cs next rest : List Char} {pair : String × Value} {value : Value}
      (h : MemberAt (ReadsWithin bound levels) cs pair (',' :: next))
      (hmore : readMembers bound levels (setMember pair.1 pair.2 members) (skipSpace next) =
        .ok (value, rest)) :
      MembersStep bound levels members cs value rest

theorem readMembers_succ_eq_ok_iff {members : List (String × Value)} :
    readMembers (bound + 1) levels members cs = .ok (value, rest) ↔
      MembersStep bound levels members cs value rest := by
  constructor
  · intro h
    unfold readMembers at h
    split at h
    · obtain ⟨⟨name, behind⟩, hname, h⟩ := exists_of_bind_eq_ok h
      simp only at h
      split at h
      · rename_i next hcolon
        obtain ⟨⟨found, last⟩, hfound, h⟩ := exists_of_bind_eq_ok h
        simp only at h
        split at h
        · rename_i hbrace
          obtain ⟨rfl, rfl⟩ := Prod.mk.inj (Except.ok.inj h)
          exact .last (.intro hname hcolon hfound hbrace)
        · rename_i hcomma
          exact .more (.intro hname hcolon hfound hcomma) h
        · cases h
      · cases h
    · cases h
  · intro h
    cases h with
    | last hmember =>
      cases hmember with
      | intro hname hcolon hvalue hlast =>
        unfold ReadsWithin at hvalue
        unfold readMembers
        simp only [hname, hcolon, hvalue, hlast, bind, Except.bind]
    | more hmember hmore =>
      cases hmember with
      | intro hname hcolon hvalue hlast =>
        unfold ReadsWithin at hvalue
        unfold readMembers
        simp only [hname, hcolon, hvalue, hlast, bind, Except.bind]
        exact hmore

/-- What is read in one step behind some items: the last item, or an item with more behind it. Items
have no names, so nothing corresponds to `MemberAt` here. -/
inductive ItemsStep (bound levels : Nat) (items : List Value) :
    List Char → Value → List Char → Prop
  | last {cs behind rest : List Char} {item : Value} (h : ReadsWithin bound levels cs item behind)
      (hbracket : skipSpace behind = ']' :: rest) :
      ItemsStep bound levels items cs (.array (item :: items).reverse) rest
  | more {cs behind next rest : List Char} {item value : Value}
      (h : ReadsWithin bound levels cs item behind) (hcomma : skipSpace behind = ',' :: next)
      (hmore : readItems bound levels (item :: items) (skipSpace next) = .ok (value, rest)) :
      ItemsStep bound levels items cs value rest

theorem readItems_succ_eq_ok_iff {items : List Value} :
    readItems (bound + 1) levels items cs = .ok (value, rest) ↔
      ItemsStep bound levels items cs value rest := by
  constructor
  · intro h
    unfold readItems at h
    obtain ⟨⟨item, behind⟩, hitem, h⟩ := exists_of_bind_eq_ok h
    simp only at h
    split at h
    · rename_i hbracket
      obtain ⟨rfl, rfl⟩ := Prod.mk.inj (Except.ok.inj h)
      exact .last hitem hbracket
    · rename_i hcomma
      exact .more hitem hcomma h
    · cases h
  · intro h
    cases h with
    | last hitem hbracket =>
      unfold ReadsWithin at hitem
      unfold readItems
      simp only [hitem, hbracket, bind, Except.bind]
    | more hitem hcomma hmore =>
      unfold ReadsWithin at hitem
      unfold readItems
      simp only [hitem, hcomma, bind, Except.bind]
      exact hmore

/-! ## Any bound -/

theorem readValue_zero_ne_ok : readValue 0 levels cs ≠ .ok (value, rest) := by
  rw [readValue]
  exact nofun

theorem readMembers_zero_ne_ok {members : List (String × Value)} :
    readMembers 0 levels members cs ≠ .ok (value, rest) := by
  rw [readMembers]
  exact nofun

theorem readItems_zero_ne_ok {items : List Value} :
    readItems 0 levels items cs ≠ .ok (value, rest) := by
  rw [readItems]
  exact nofun

-- The induction is on the bound, for all three readers together; a step hands each of them a smaller
-- bound, and no more levels than before.
theorem read_mono_within (bound : Nat) :
    (∀ {levels cs value rest}, readValue bound levels cs = .ok (value, rest) →
      ∀ {bound' levels'}, bound ≤ bound' → levels ≤ levels' →
        readValue bound' levels' cs = .ok (value, rest)) ∧
    (∀ {levels members cs value rest}, readMembers bound levels members cs = .ok (value, rest) →
      ∀ {bound' levels'}, bound ≤ bound' → levels ≤ levels' →
        readMembers bound' levels' members cs = .ok (value, rest)) ∧
    (∀ {levels items cs value rest}, readItems bound levels items cs = .ok (value, rest) →
      ∀ {bound' levels'}, bound ≤ bound' → levels ≤ levels' →
        readItems bound' levels' items cs = .ok (value, rest)) := by
  -- The readers call each other with a smaller bound, hence one induction for all three.
  induction bound with
  | zero =>
    exact ⟨fun h => absurd h readValue_zero_ne_ok, fun h => absurd h readMembers_zero_ne_ok,
      fun h => absurd h readItems_zero_ne_ok⟩
  | succ bound ih =>
    obtain ⟨ihvalue, ihmembers, ihitems⟩ := ih
    refine ⟨fun {levels cs value rest} h bound' levels' hbound hlevels => ?_,
      fun {levels members cs value rest} h bound' levels' hbound hlevels => ?_,
      fun {levels items cs value rest} h bound' levels' hbound hlevels => ?_⟩ <;>
      obtain ⟨bound', rfl⟩ :=
        Nat.exists_eq_add_of_le' (Nat.le_trans (Nat.le_add_left 1 bound) hbound) <;>
      replace hbound := Nat.le_of_succ_le_succ hbound
    · obtain ⟨more, rfl⟩ := Nat.exists_eq_add_of_le' hlevels
      rw [readValue_succ_eq_ok_iff] at h ⊢
      cases h with
      | text h => exact .text h
      | emptyObject h => exact .emptyObject h
      | object hopen h => exact .object hopen (ihmembers h hbound (Nat.le_add_left _ more))
      | emptyArray h => exact .emptyArray h
      | array hopen h => exact .array hopen (ihitems h hbound (Nat.le_add_left _ more))
      | scalar hquote hbrace hbracket h => exact .scalar hquote hbrace hbracket h
    · rw [readMembers_succ_eq_ok_iff] at h ⊢
      cases h with
      | last h => exact .last (h.mono fun _ _ _ h => ihvalue h hbound hlevels)
      | more h hmore =>
        exact .more (h.mono fun _ _ _ h => ihvalue h hbound hlevels) (ihmembers hmore hbound hlevels)
    · rw [readItems_succ_eq_ok_iff] at h ⊢
      cases h with
      | last h hbracket => exact .last (ihvalue h hbound hlevels) hbracket
      | more h hcomma hmore =>
        exact .more (ihvalue h hbound hlevels) hcomma (ihitems hmore hbound hlevels)

/-- **A larger bound and more levels read the same value.** It is one third of `read_mono_within`. -/
theorem readValue_mono (h : readValue bound levels cs = .ok (value, rest)) {bound' levels' : Nat}
    (hbound : bound ≤ bound') (hlevels : levels ≤ levels') :
    readValue bound' levels' cs = .ok (value, rest) :=
  (read_mono_within bound).1 h hbound hlevels

/-- A text is read as a value, with some bound and some levels. By `Reads.unique` the value and the
rest are determined, whatever the budget. -/
def Reads (cs : List Char) (value : Value) (rest : List Char) : Prop :=
  ∃ bound levels, ReadsWithin bound levels cs value rest

/-- **A text is read as one value**, and leaves one rest. `Reads` leaves the bound open, and
`readValue_mono` brings two bounds together. -/
theorem Reads.unique {value' : Value} {rest' : List Char} (h : Reads cs value rest)
    (h' : Reads cs value' rest') : value = value' ∧ rest = rest' := by
  obtain ⟨bound, levels, h⟩ := h
  obtain ⟨bound', levels', h'⟩ := h'
  have hboth := readValue_mono h (Nat.le_max_left bound bound') (Nat.le_max_left levels levels')
  have hboth' := readValue_mono h' (Nat.le_max_right bound bound') (Nat.le_max_right levels levels')
  exact Prod.mk.inj (Except.ok.inj (hboth.symm.trans hboth'))

theorem MemberAt.unique {pair pair' : String × Value} {rest' : List Char}
    (h : MemberAt Reads cs pair rest) (h' : MemberAt Reads cs pair' rest') :
    pair = pair' ∧ rest = rest' := by
  cases h with
  | intro hname hcolon hvalue hlast =>
    cases h' with
    | intro hname' hcolon' hvalue' hlast' =>
      obtain ⟨rfl, rfl⟩ := Prod.mk.inj (Except.ok.inj (hname.symm.trans hname'))
      obtain ⟨-, rfl⟩ := List.cons.inj (hcolon.symm.trans hcolon')
      obtain ⟨rfl, rfl⟩ := hvalue.unique hvalue'
      exact ⟨rfl, hlast.symm.trans hlast'⟩

end Json
end SpiceKit
