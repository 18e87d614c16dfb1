import SpiceKit.Cli.Run
import SpiceKit.Proofs.Json.Members
import SpiceKit.Proofs.Settings.Store

/-!
# What a settings file says

A settings file is a row of pairs, and a name in it may come more than once. What counts is the last
value of a name that is known, and the order in which the names come first.

**Loading is refused for exactly the files in which a known name has a last value of the wrong
type**, and the message names the first of these names. Otherwise each setting takes the last value
of its name, an integral time limit as a real, or has its default
(`Settings.load_follows_last_values`). So pairs of other names do not matter at all, and where no
known name comes twice the order of the pairs does not matter to settings that are loaded.
-/

set_option autoImplicit false

namespace SpiceKit
namespace Settings

open Json (ObjectText lastValue? merged)

/-! ## Types -/

/-- A value is of the type that a setting is to have. A truth value is no number. `Key.accepts_iff`
ties it to the test of the model. -/
inductive Key.Fits : Key → Json.Value → Prop
  | compiler (text : WideText) : Fits .compiler (.text text)
  | runner (text : WideText) : Fits .runner (.text text)
  | liveCheck (b : Bool) : Fits .liveCheck (.bool b)
  | redefinitionCheck (b : Bool) : Fits .redefinitionCheck (.bool b)
  | integerLimit (n : Int) : Fits .timeLimit (.int n)
  | realLimit (x : Binary64) : Fits .timeLimit (.real x)

theorem Key.accepts_iff {key : Key} {value : Json.Value} :
    key.accepts value = true ↔ key.Fits value := by
  constructor
  · intro h
    cases key <;> cases value <;> first | constructor | cases h
  · rintro ⟨⟩ <;> rfl

theorem Key.ofName?_eq_some_iff {name : String} {key : Key} :
    Key.ofName? name = some key ↔ name = key.name := by
  constructor
  · intro h
    unfold Key.ofName? at h
    have hname := List.find?_some h
    exact (of_decide_eq_true hname).symm
  · rintro rfl
    exact ofName?_name key

theorem Key.name_injective : Function.Injective Key.name := fun key other h =>
  Option.some.inj (ofName?_name key ▸ h ▸ ofName?_name other)

/-! ## The first wrong value -/

variable {pairs : List (String × Json.Value)} {key : Key} {found : Json.Value}

def Wrong (pairs : List (String × Json.Value)) (key : Key) (found : Json.Value) : Prop :=
  lastValue? key.name pairs = some found ∧ ¬ key.Fits found

/-- No setting is wrong: wherever a known name has a last value, that value `Fits` its key. What
stands before the last value makes no difference. -/
def Right (pairs : List (String × Json.Value)) : Prop :=
  ∀ key found, ¬ Wrong pairs key found

/-- A setting is wrong, and no wrong one is mentioned before it. There is one such setting at most
(`FirstWrong.unique`), and it is the one that the message of a fault names. -/
structure FirstWrong (pairs : List (String × Json.Value)) (key : Key) (found : Json.Value) :
    Prop where
  wrong : Wrong pairs key found
  first : ∃ before value behind, pairs = before ++ (key.name, value) :: behind ∧
    ∀ other found, Wrong pairs other found → other.name ∉ before.map Prod.fst

def wrong? (member : String × Json.Value) : Option Fault :=
  match Key.ofName? member.1 with
  | none => none
  | some key => if key.accepts member.2 then none else some (.wrongType key member.2.typeName)

theorem firstWrong?_eq (members : List (String × Json.Value)) :
    firstWrong? members = members.findSome? wrong? := rfl

theorem wrong?_eq_none_iff {member : String × Json.Value} :
    wrong? member = none ↔ ∀ key : Key, member.1 = key.name → key.Fits member.2 := by
  constructor
  · intro h key hname
    by_contra hfits
    rw [wrong?, Key.ofName?_eq_some_iff.mpr hname] at h
    simp [Key.accepts_iff, hfits] at h
  · intro h
    unfold wrong?
    split
    · rfl
    · rename_i key hkey
      rw [if_pos (Key.accepts_iff.mpr (h key (Key.ofName?_eq_some_iff.mp hkey)))]

theorem wrong?_of_not_fits (h : ¬ key.Fits found) :
    wrong? (key.name, found) = some (.wrongType key found.typeName) := by
  rw [wrong?, ofName?_name]
  exact if_neg (mt Key.accepts_iff.mp h)

theorem mem_merged_iff {name : String} :
    (name, found) ∈ merged pairs ↔ lastValue? name pairs = some found := by
  rw [← Json.lookup_eq_some_iff (Json.nodup_names_merged pairs), Json.lookup_merged]

theorem mem_names_of_lastValue? {name : String} (h : lastValue? name pairs = some found) :
    name ∈ pairs.map Prod.fst :=
  Json.mem_names_merged.mp (List.mem_map.mpr ⟨_, mem_merged_iff.mpr h, rfl⟩)

theorem wrong?_eq_none_of_member {member : String × Json.Value} (hmem : member ∈ merged pairs)
    (h : ∀ key found, member.1 = key.name → ¬ Wrong pairs key found) : wrong? member = none := by
  refine wrong?_eq_none_iff.mpr fun key hname => ?_
  by_contra hfits
  exact h key member.2 hname ⟨hname ▸ mem_merged_iff.mp hmem, hfits⟩

theorem Right.firstWrong?_merged (h : Right pairs) : firstWrong? (merged pairs) = none := by
  rw [firstWrong?_eq, List.findSome?_eq_none_iff]
  exact fun member hmem => wrong?_eq_none_of_member hmem fun key found _ => h key found

/-- **The wrong setting that is mentioned first is the one that is found.** The names of the members
come in the order of first mention, by `exists_names_merged_split`. -/
theorem FirstWrong.firstWrong?_merged (h : FirstWrong pairs key found) :
    firstWrong? (merged pairs) = some (.wrongType key found.typeName) := by
  obtain ⟨hwrong, before, value, behind, rfl, hfirst⟩ := h
  have hnew : ((key.name, value) : String × Json.Value).1 ∉ before.map Prod.fst :=
    hfirst key found hwrong
  -- The members split at the name, and in front of it are the names that are mentioned before it.
  obtain ⟨later, hnames⟩ := Json.exists_names_merged_split hnew behind
  obtain ⟨earlier, rest, hsplit, hearlier, hrest⟩ := List.map_eq_append_iff.mp hnames
  obtain ⟨⟨name, last⟩, others, rfl, rfl, -⟩ := List.map_eq_cons_iff.mp hrest
  have hlast : last = found := by
    have hmem := mem_merged_iff.mp (hsplit ▸ List.mem_append_right earlier List.mem_cons_self)
    exact Option.some.inj (hmem.symm.trans hwrong.1)
  rw [firstWrong?_eq, List.findSome?_eq_some_iff]
  refine ⟨earlier, (key.name, last), others, hsplit, ?_, fun member hmem => ?_⟩
  · rw [hlast, wrong?_of_not_fits hwrong.2]
  · refine wrong?_eq_none_of_member (hsplit ▸ List.mem_append_left _ hmem)
      fun other found hname hother => hfirst other found hother ?_
    rw [← hname, ← Json.mem_names_merged, ← hearlier]
    exact List.mem_map_of_mem hmem

/-- One setting at most is the wrong one that is mentioned first. So a message that names it is
determined by the pairs. -/
theorem FirstWrong.unique {key' : Key} {found' : Json.Value} (h : FirstWrong pairs key found)
    (h' : FirstWrong pairs key' found') : key = key' ∧ found = found' := by
  have hfault := Option.some.inj (h.firstWrong?_merged.symm.trans h'.firstWrong?_merged)
  obtain ⟨rfl, -⟩ := Fault.wrongType.inj hfault
  exact ⟨rfl, Option.some.inj (h.wrong.1.symm.trans h'.wrong.1)⟩

def MentionsWrong (pairs : List (String × Json.Value)) (pair : String × Json.Value) : Prop :=
  ∃ key found, pair.1 = key.name ∧ Wrong pairs key found

/-- If any setting is wrong, one of the wrong ones is mentioned first. `Wrong` says that the last
value of a setting is not of its type. -/
theorem exists_firstWrong (h : Wrong pairs key found) :
    ∃ key found, FirstWrong pairs key found := by
  classical
  obtain ⟨pair, hmem, hname⟩ := List.mem_map.mp (mem_names_of_lastValue? h.1)
  obtain ⟨⟨name, value⟩, hfirst⟩ : ∃ first, pairs.find? (MentionsWrong pairs ·) = some first :=
    Option.isSome_iff_exists.mp
      (List.find?_isSome.mpr ⟨pair, hmem, decide_eq_true ⟨key, found, hname, h⟩⟩)
  obtain ⟨hmentions, before, behind, hsplit, hbefore⟩ := List.find?_eq_some_iff_append.mp hfirst
  obtain ⟨key, found, rfl, hwrong⟩ := of_decide_eq_true hmentions
  refine ⟨key, found, hwrong, before, value, behind, hsplit, fun other found hother hmem => ?_⟩
  obtain ⟨pair, hpair, hname⟩ := List.mem_map.mp hmem
  have hnot := hbefore pair hpair
  rw [Bool.not_eq_true', decide_eq_false_iff_not] at hnot
  exact hnot ⟨other, found, hname, hother⟩

/-! ## Values that are taken over -/

/-- What a setting holds where a value is given: the value itself, or an integer as a real. `Takes`
asks this of each setting that is given. -/
inductive Holds : Json.Value → Json.Value → Prop
  | same (value : Json.Value) : Holds value value
  | converted {n : Int} {x : Binary64} (h : Binary64.ofInt? n = some x) : Holds (.int n) (.real x)

/-- Settings have the values that are given, and are as before where none is. `Settings.assignAll`
is held to it one member at a time (`Takes.cons_known`, `Takes.cons_unknown`). -/
structure Takes (base : Settings) (given : String → Option Json.Value) (settings : Settings) :
    Prop where
  present : ∀ (key : Key) value, given key.name = some value → Holds value (settings.value key)
  absent : ∀ key : Key, given key.name = none → settings.value key = base.value key

theorem ext_value {settings settings' : Settings}
    (h : ∀ key, settings.value key = settings'.value key) : settings = settings' := by
  have hcompiler := Json.Value.text.inj (h .compiler)
  have hrunner := Json.Value.text.inj (h .runner)
  have hlive := Json.Value.bool.inj (h .liveCheck)
  have hredefinition := Json.Value.bool.inj (h .redefinitionCheck)
  have hlimit := Json.Value.real.inj (h .timeLimit)
  cases settings
  cases settings'
  simp_all

theorem value_ne_int (settings : Settings) (key : Key) (n : Int) : settings.value key ≠ .int n := by
  cases key <;> exact Json.Value.noConfusion

/-- A value is held in one way: a setting never holds an integer, so it cannot be held as it is
where it is held as a real. Hence the values determine the settings (`Takes.unique`). -/
theorem Holds.unique {value : Json.Value} {settings settings' : Settings}
    (h : Holds value (settings.value key)) (h' : Holds value (settings'.value key)) :
    settings.value key = settings'.value key := by
  generalize hheld : settings.value key = held at h
  generalize hheld' : settings'.value key = held' at h'
  cases h with
  | same =>
    cases h' with
    | same => rfl
    | converted => exact absurd hheld (value_ne_int settings key _)
  | converted hx =>
    cases h' with
    | same => exact absurd hheld' (value_ne_int settings' key _)
    | converted hx' => rw [Option.some.inj (hx.symm.trans hx')]

theorem Takes.unique {base settings settings' : Settings} {given : String → Option Json.Value}
    (h : Takes base given settings) (h' : Takes base given settings') : settings = settings' := by
  refine ext_value fun key => ?_
  cases hgiven : given key.name with
  | none => exact (h.absent key hgiven).trans (h'.absent key hgiven).symm
  | some value => exact (h.present key value hgiven).unique (h'.present key value hgiven)

variable {base settings : Settings} {value : Json.Value}

/-- A value of the right type is held by its setting, and no other setting changes. The first part
is `Holds`. -/
theorem assign_eq_ok (hfits : key.Fits value) (h : base.assign key value = .ok settings) :
    Holds value (settings.value key) ∧
      ∀ other, other ≠ key → settings.value other = base.value other := by
  cases hfits with
  | integerLimit n =>
    rw [assign] at h
    cases hx : Binary64.ofInt? n with
    | none =>
      rw [hx] at h
      cases h
    | some x =>
      rw [hx] at h
      obtain rfl := Except.ok.inj h
      refine ⟨.converted hx, fun other hne => ?_⟩
      cases other <;> first | rfl | exact absurd rfl hne
  | _ =>
    obtain rfl := Except.ok.inj h
    refine ⟨.same _, fun other hne => ?_⟩
    cases other <;> first | rfl | exact absurd rfl hne

theorem assign_eq_error {fault : Fault} (h : base.assign key value = .error fault) :
    fault = .hugeTimeLimit ∧ key = .timeLimit ∧ ∃ n, value = .int n ∧ Binary64.ofInt? n = none := by
  unfold assign at h
  split at h
  case h_6 n =>
    cases hx : Binary64.ofInt? n with
    | none =>
      rw [hx] at h
      exact ⟨(Except.error.inj h).symm, rfl, n, rfl, hx⟩
    | some x =>
      rw [hx] at h
      cases h
  all_goals cases h

theorem assignAll_eq_error {members : List (String × Json.Value)} {fault : Fault}
    (h : base.assignAll members = .error fault) :
    fault = .hugeTimeLimit ∧
      ∃ n, (Key.timeLimit.name, Json.Value.int n) ∈ members ∧ Binary64.ofInt? n = none := by
  induction members generalizing base with
  | nil => cases h
  | cons member members ih =>
    obtain ⟨name, value⟩ := member
    rw [assignAll] at h
    split at h
    · obtain ⟨hfault, n, hmem, hn⟩ := ih h
      exact ⟨hfault, n, List.mem_cons_of_mem _ hmem, hn⟩
    · rename_i key hkey
      cases hfirst : base.assign key value with
      | error first =>
        rw [hfirst] at h
        obtain rfl := Except.error.inj h
        obtain ⟨hfault, rfl, n, rfl, hn⟩ := assign_eq_error hfirst
        rw [Key.ofName?_eq_some_iff.mp hkey]
        exact ⟨hfault, n, List.mem_cons_self, hn⟩
      | ok first =>
        rw [hfirst] at h
        obtain ⟨hfault, n, hmem, hn⟩ := ih h
        exact ⟨hfault, n, List.mem_cons_of_mem _ hmem, hn⟩

def given (members : List (String × Json.Value)) (name : String) : Option Json.Value :=
  members.lookup name

variable {members : List (String × Json.Value)} {name : String}

theorem given_cons (key : Key) : given ((name, value) :: members) key.name =
    if key.name = name then some value else given members key.name :=
  Json.lookup_cons_eq ..

theorem given_eq_none (h : name ∉ members.map Prod.fst) : given members name = none := by
  refine List.lookup_eq_none_iff.mpr fun member hmem => bne_iff_ne.mpr ?_
  rintro rfl
  exact h (List.mem_map_of_mem hmem)

theorem Takes.cons_unknown (h : Takes base (given members) settings)
    (hname : ∀ key : Key, key.name ≠ name) :
    Takes base (given ((name, value) :: members)) settings where
  present key found hfound := h.present key found (by rwa [given_cons, if_neg (hname key)] at hfound)
  absent key hnone := h.absent key (by rwa [given_cons, if_neg (hname key)] at hnone)

/-- A member that is taken over is not touched by those behind it, for its name does not come again.
It is the step of `takes_of_assignAll` for a name that is known. -/
theorem Takes.cons_known {first : Settings} (h : Takes first (given members) settings)
    (hnew : key.name ∉ members.map Prod.fst) (hholds : Holds value (first.value key))
    (hothers : ∀ other, other ≠ key → first.value other = base.value other) :
    Takes base (given ((key.name, value) :: members)) settings where
  present other found hfound := by
    rw [given_cons] at hfound
    split at hfound
    · rename_i heq
      obtain rfl := Key.name_injective heq
      obtain rfl := Option.some.inj hfound
      rwa [h.absent other (given_eq_none hnew)]
    · exact h.present other found hfound
  absent other hnone := by
    rw [given_cons] at hnone
    split at hnone
    · cases hnone
    · rename_i hne
      rw [h.absent other hnone]
      exact hothers other fun heq => hne (congrArg Key.name heq)

/-- **Settings that take over members have their values.** `Takes` compares them with the settings
at first, value by value. -/
theorem takes_of_assignAll (hnames : (members.map Prod.fst).Nodup)
    (hfits : ∀ (key : Key) value, (key.name, value) ∈ members → key.Fits value)
    (h : base.assignAll members = .ok settings) : Takes base (given members) settings := by
  -- The induction carries the settings so far, with what the members in front have set.
  induction members generalizing base with
  | nil =>
    obtain rfl := Except.ok.inj h
    exact { present := fun _ _ hfound => absurd hfound (by simp [given]), absent := fun _ _ => rfl }
  | cons member members ih =>
    obtain ⟨name, value⟩ := member
    obtain ⟨hnew, hbehind⟩ := List.nodup_cons.mp hnames
    have hrest : ∀ (key : Key) value, (key.name, value) ∈ members → key.Fits value :=
      fun key value hmem => hfits key value (List.mem_cons_of_mem _ hmem)
    rw [assignAll] at h
    split at h
    · rename_i hunknown
      refine (ih hbehind hrest h).cons_unknown ?_
      rintro key rfl
      rw [ofName?_name] at hunknown
      cases hunknown
    · rename_i key hkey
      obtain rfl := Key.ofName?_eq_some_iff.mp hkey
      cases hfirst : base.assign key value with
      | error fault =>
        rw [hfirst] at h
        cases h
      | ok first =>
        rw [hfirst] at h
        obtain ⟨hholds, hothers⟩ := assign_eq_ok (hfits key value List.mem_cons_self) hfirst
        exact (ih hbehind hrest h).cons_known hnew hholds hothers

/-! ## Settings of merged pairs -/

theorem Right.fits (h : Right pairs) (hfound : lastValue? key.name pairs = some found) :
    key.Fits found :=
  Classical.byContradiction fun hfits => h key found ⟨hfound, hfits⟩

theorem right_of_ofMembers (h : ofMembers (merged pairs) = .ok settings) : Right pairs := by
  intro key found hwrong
  obtain ⟨key, found, hfirst⟩ := exists_firstWrong hwrong
  rw [ofMembers, hfirst.firstWrong?_merged] at h
  cases h

theorem ofMembers_merged (h : Right pairs) :
    ofMembers (merged pairs) = assignAll {} (merged pairs) := by
  rw [ofMembers, h.firstWrong?_merged]

theorem takes_of_ofMembers (h : ofMembers (merged pairs) = .ok settings) :
    Takes {} (lastValue? · pairs) settings := by
  have hright := right_of_ofMembers h
  rw [ofMembers_merged hright] at h
  have htakes := takes_of_assignAll (Json.nodup_names_merged pairs)
    (fun key value hmem => hright.fits (mem_merged_iff.mp hmem)) h
  exact (funext fun name => Json.lookup_merged name pairs : given (merged pairs) = _) ▸ htakes

/-- The time limit of a row of pairs is no integer beyond the greatest real. Where it fails, loading
fails with a fault that is not one of settings. -/
def LimitConverts (pairs : List (String × Json.Value)) : Prop :=
  ∀ n, lastValue? Key.timeLimit.name pairs = some (.int n) → ∃ x, Binary64.ofInt? n = some x

theorem exists_ofMembers_eq_ok (h : Right pairs) (hlimit : LimitConverts pairs) :
    ∃ settings, ofMembers (merged pairs) = .ok settings := by
  rw [ofMembers_merged h]
  cases hall : assignAll {} (merged pairs) with
  | ok settings => exact ⟨settings, rfl⟩
  | error fault =>
    obtain ⟨-, n, hmem, hn⟩ := assignAll_eq_error hall
    obtain ⟨x, hx⟩ := hlimit n (mem_merged_iff.mp hmem)
    rw [hn] at hx
    cases hx

theorem limitConverts_of_takes (h : Takes base (lastValue? · pairs) settings) :
    LimitConverts pairs := by
  intro n hn
  have hholds := h.present .timeLimit (.int n) hn
  cases hholds with
  | converted hx => exact ⟨_, hx⟩

/-- Pairs with the same last values give the same settings. Settings that take the same values are
the same (`Takes.unique`), and the one fault that is left shows in the last values too
(`LimitConverts`). -/
theorem ofMembers_congr {pairs' : List (String × Json.Value)}
    (hlast : ∀ name, lastValue? name pairs' = lastValue? name pairs)
    (h : ofMembers (merged pairs) = .ok settings) : ofMembers (merged pairs') = .ok settings := by
  have htakes := takes_of_ofMembers h
  have hright : Right pairs' := fun key found hwrong =>
    right_of_ofMembers h key found ⟨hlast key.name ▸ hwrong.1, hwrong.2⟩
  have hlimit : LimitConverts pairs' := fun n hn =>
    limitConverts_of_takes htakes n (hlast _ ▸ hn)
  obtain ⟨settings', h'⟩ := exists_ofMembers_eq_ok hright hlimit
  have htakes' := takes_of_ofMembers h'
  simp only [hlast] at htakes'
  rw [h', htakes'.unique htakes]

/-! ## Names that are not known -/

def isKnown (name : String) : Bool := (Key.ofName? name).isSome

/-- The pairs of names that are known. `ofMembers_known` says that loading looks at no others, which
is the first half of `load_follows_last_values`. -/
def known (pairs : List (String × Json.Value)) : List (String × Json.Value) :=
  pairs.filter fun pair => isKnown pair.1

theorem firstWrong?_known (members : List (String × Json.Value)) :
    firstWrong? (known members) = firstWrong? members := by
  rw [firstWrong?_eq, firstWrong?_eq, known]
  induction members with
  | nil => rfl
  | cons member members ih =>
    rw [List.filter_cons]
    split
    · rw [List.findSome?_cons, List.findSome?_cons, ih]
    · rename_i hunknown
      have hnone : wrong? member = none := by
        rw [wrong?, Option.not_isSome_iff_eq_none.mp hunknown]
      rw [List.findSome?_cons, hnone, ih]

theorem assignAll_known (base : Settings) (members : List (String × Json.Value)) :
    base.assignAll (known members) = base.assignAll members := by
  unfold known
  induction members generalizing base with
  | nil => rfl
  | cons member members ih =>
    obtain ⟨name, value⟩ := member
    rw [List.filter_cons, assignAll]
    cases hname : Key.ofName? name with
    | none =>
      have hunknown : isKnown name = false := congrArg Option.isSome hname
      simp only [hunknown, Bool.false_eq_true, if_false, ih]
    | some key =>
      have hknown : isKnown name = true := congrArg Option.isSome hname
      simp only [hknown, if_true, assignAll, hname]
      exact bind_congr fun settings => ih settings

/-- **Pairs of names that are not known do not matter**: not their number, their places or their
values. `filter_merged` leaves them out of the members, and neither pass over the members sees a
difference. -/
theorem ofMembers_known (pairs : List (String × Json.Value)) :
    ofMembers (merged (known pairs)) = ofMembers (merged pairs) := by
  have hmembers : merged (known pairs) = known (merged pairs) :=
    (Json.filter_merged isKnown pairs).symm
  rw [hmembers, ofMembers, ofMembers, firstWrong?_known, assignAll_known]

/-! ## Loading -/

def atFile (path : Path) : Fault → SpiceKit.Fault
  | .wrongType key found => .settingsType path key found
  | .hugeTimeLimit => .hugeTimeLimit

/-- The outcome of loading a file with some pairs, without the text in which they stand:
`load_of_objectText` says that any text of these pairs comes to it. -/
def loaded (path : Path) (pairs : List (String × Json.Value)) : Except SpiceKit.Fault Settings :=
  (ofMembers (merged pairs)).mapError (atFile path)

theorem load_of_objectText {disk : Disk} {path : Path} {text : List Char}
    {members : List (String × Json.Value)} (htext : disk.readText path = .ok text)
    (hread : Json.read text = .ok (.object members)) (hpairs : ObjectText text pairs) :
    (Keeper.file path).load disk = loaded path pairs := by
  obtain ⟨pairs', hpairs', rfl⟩ := Json.exists_objectText_of_read hread
  obtain rfl := hpairs.unique hpairs'
  rw [Keeper.load_of_readText htext, ofText, hread, loaded]
  simp only
  cases ofMembers (merged pairs) with
  | ok settings => rfl
  | error fault => cases fault <;> rfl

variable {path : Path}

theorem loaded_eq_ok_iff :
    loaded path pairs = .ok settings ↔ ofMembers (merged pairs) = .ok settings := by
  unfold loaded
  cases ofMembers (merged pairs) <;> simp [Except.mapError]

theorem loaded_of_firstWrong (h : FirstWrong pairs key found) :
    loaded path pairs = .error (.settingsType path key found.typeName) := by
  rw [loaded, ofMembers, h.firstWrong?_merged]
  rfl

/-- Nothing but a value of the wrong type is a fault of settings. `Right` is that no setting is
wrong. -/
theorem loaded_of_right (h : Right pairs) {fault : SpiceKit.Fault}
    (hfault : loaded path pairs = .error fault) : fault = .hugeTimeLimit := by
  rw [loaded, ofMembers_merged h] at hfault
  cases hall : assignAll {} (merged pairs) with
  | ok settings =>
    rw [hall] at hfault
    cases hfault
  | error first =>
    rw [hall] at hfault
    obtain ⟨rfl, -⟩ := assignAll_eq_error hall
    exact (Except.error.inj hfault).symm

/-- What loading a file with some pairs comes to. It is refused as a fault of settings if and only
if a setting is wrong, and the message names the wrong setting that is mentioned first. If all
settings are right, and the time limit is a real or becomes one, each setting takes its last value
or has its default. `followsLast_loaded` shows it of what `ofMembers` makes of the pairs. -/
structure FollowsLast (path : Path) (pairs : List (String × Json.Value))
    (outcome : Except SpiceKit.Fault Settings) : Prop where
  refused : (∃ fault, outcome = .error fault ∧ Cli.isSettingsFault fault = true) ↔
    ∃ key found, Wrong pairs key found
  named : ∀ fault, outcome = .error fault → Cli.isSettingsFault fault = true →
    ∃ key found, FirstWrong pairs key found ∧
      fault.message = "Setting '" ++ key.name ++ "' must be " ++ key.expected ++ ", got " ++
        found.typeName ++ ": " ++ path.toString
  taken : Right pairs → LimitConverts pairs →
    ∃ settings, outcome = .ok settings ∧ Takes {} (lastValue? · pairs) settings

theorem followsLast_loaded (path : Path) (pairs : List (String × Json.Value)) :
    FollowsLast path pairs (loaded path pairs) := by
  -- Without a wrong value the one fault that is left is no fault of the settings file.
  have hwrong : ∀ fault, loaded path pairs = .error fault → Cli.isSettingsFault fault = true →
      ∃ key found, Wrong pairs key found := by
    intro fault hfault hsettings
    by_contra hnone
    obtain rfl := loaded_of_right (fun key found hwrong => hnone ⟨key, found, hwrong⟩) hfault
    cases hsettings
  constructor
  case refused =>
    constructor
    · rintro ⟨fault, hfault, hsettings⟩
      exact hwrong fault hfault hsettings
    · rintro ⟨key, found, h⟩
      obtain ⟨key, found, hfirst⟩ := exists_firstWrong h
      exact ⟨_, loaded_of_firstWrong hfirst, rfl⟩
  case named =>
    intro fault hfault hsettings
    obtain ⟨key, found, h⟩ := hwrong fault hfault hsettings
    obtain ⟨key, found, hfirst⟩ := exists_firstWrong h
    obtain rfl := Except.error.inj (hfault.symm.trans (loaded_of_firstWrong hfirst))
    exact ⟨key, found, hfirst, rfl⟩
  case taken =>
    intro hright hlimit
    obtain ⟨settings, hsettings⟩ := exists_ofMembers_eq_ok hright hlimit
    exact ⟨settings, loaded_eq_ok_iff.mpr hsettings, takes_of_ofMembers hsettings⟩

/-- Where no name comes twice, the last values do not depend on the order of the pairs. It needs the
names to be `Nodup`: otherwise another value could come last. -/
theorem lastValue?_of_perm {pairs' : List (String × Json.Value)} (h : pairs'.Perm pairs)
    (hnames : (pairs.map Prod.fst).Nodup) (name : String) :
    lastValue? name pairs' = lastValue? name pairs := by
  have hnames' : (pairs'.map Prod.fst).Nodup := (h.map Prod.fst).nodup_iff.mpr hnames
  ext value
  rw [Json.lastValue?_eq_some_iff hnames', Json.lastValue?_eq_some_iff hnames, h.mem_iff]

/-- **Loading a file that holds an object follows the last values of the names that are known.** A
file with the same pairs of such names, whatever else it holds, is loaded with the same outcome.
Where none of them comes twice, a file with these pairs in another order is loaded as the same
settings. The pairs are those of `ObjectText`, and what loading comes to is `FollowsLast`. -/
theorem load_follows_last_values {disk : Disk} {text : List Char}
    {members : List (String × Json.Value)} (htext : disk.readText path = .ok text)
    (hread : Json.read text = .ok (.object members)) :
    ∃ pairs, (∀ pairs', ObjectText text pairs' ↔ pairs' = pairs) ∧
      FollowsLast path pairs ((Keeper.file path).load disk) ∧
      ∀ disk' text' members' pairs', disk'.readText path = .ok text' →
        Json.read text' = .ok (.object members') → ObjectText text' pairs' →
          (known pairs' = known pairs →
            (Keeper.file path).load disk' = (Keeper.file path).load disk) ∧
          ((known pairs').Perm (known pairs) → ((known pairs).map Prod.fst).Nodup →
            ∀ settings, (Keeper.file path).load disk = .ok settings →
              (Keeper.file path).load disk' = .ok settings) := by
  obtain ⟨pairs, hpairs, -⟩ := Json.exists_objectText_of_read hread
  have hload := load_of_objectText htext hread hpairs
  refine ⟨pairs, fun pairs' => ⟨fun h => h.unique hpairs, fun h => h ▸ hpairs⟩,
    hload ▸ followsLast_loaded path pairs,
    fun disk' text' members' pairs' htext' hread' hpairs' => ?_⟩
  rw [load_of_objectText htext' hread' hpairs', hload]
  constructor
  · intro hknown
    rw [loaded, loaded, ← ofMembers_known pairs', hknown, ofMembers_known]
  · intro hperm hnames settings hsettings
    rw [loaded_eq_ok_iff, ← ofMembers_known] at hsettings ⊢
    exact ofMembers_congr (lastValue?_of_perm hperm hnames) hsettings

/-- Two settings are wrong, and the one that is named is mentioned before the other. Its first value
would be right; its last one is a truth value, which is no number. -/
theorem load_names_first_mentioned :
    let path := Path.ofString "settings.json"
    let text := "\x7b\"process_timeout_seconds\": 1, \"runner_path\": 1, " ++
      "\"process_timeout_seconds\": true\x7d"
    ∃ disk : Disk, disk.readText path = .ok text.toList ∧
      ∃ fault, (Keeper.file path).load disk = .error fault ∧ fault.message =
        "Setting 'process_timeout_seconds' must be a number, got bool: settings.json" := by
  intro path text
  obtain ⟨disk, hwrite⟩ : ∃ disk, Disk.writeText ⟨.emptyFolder, []⟩ path text.toList = .ok disk :=
    ⟨_, rfl⟩
  have htext : disk.readText path = .ok text.toList :=
    Disk.readText_eq_ok.mpr
      ⟨_, Disk.read_of_write hwrite, Disk.textOfBytes_encode_of_not_mem (by decide +kernel)⟩
  have htype : (Json.read text.toList).toOption.map Json.Value.typeName = some "dict" := by
    decide +kernel
  obtain ⟨value, hread, hdict⟩ : ∃ value, Json.read text.toList = .ok value ∧
      value.typeName = "dict" := by
    cases hread : Json.read text.toList with
    | error fault =>
      rw [hread] at htype
      cases htype
    | ok value =>
      rw [hread] at htype
      exact ⟨value, rfl, Option.some.inj htype⟩
  obtain ⟨members, rfl⟩ := Json.exists_object_of_typeName hdict
  obtain ⟨pairs, hpairs, hfollows, -⟩ := load_follows_last_values htext hread
  let third := Json.writeString (.ofString "process_timeout_seconds") ++
    [':', ' ', 't', 'r', 'u', 'e', '}']
  let second := Json.writeString (.ofString "runner_path") ++ ':' :: ' ' :: '1' :: ',' :: ' ' :: third
  let first := Json.writeString (.ofString "process_timeout_seconds") ++
    ':' :: ' ' :: '1' :: ',' :: ' ' :: second
  have hfirst : Json.PairsAt first [("process_timeout_seconds", .int 1), ("runner_path", .int 1),
      ("process_timeout_seconds", .bool true)] [] :=
    .more (Json.memberAt_writeString _ ⟨1, 0, rfl⟩ rfl)
      (.more (Json.memberAt_writeString _ ⟨1, 0, rfl⟩ rfl)
        (.last (Json.memberAt_writeString _ ⟨1, 0, rfl⟩ rfl)))
  have hopen : Json.skipSpace text.toList = '{' :: first := by decide +kernel
  obtain rfl := (hpairs _).mp (.pairs hopen hfirst rfl)
  have hlast : lastValue? Key.timeLimit.name [("process_timeout_seconds", .int 1),
      ("runner_path", .int 1), ("process_timeout_seconds", .bool true)] = some (.bool true) :=
    Json.lookup_cons_eq ..
  have hwrong : Wrong _ .timeLimit (.bool true) := ⟨hlast, by rintro ⟨⟩⟩
  obtain ⟨fault, hfault, hsettings⟩ := hfollows.refused.mpr ⟨_, _, hwrong⟩
  obtain ⟨key, found, hnamed, hmessage⟩ := hfollows.named fault hfault hsettings
  obtain ⟨rfl, rfl⟩ := hnamed.unique
    ⟨hwrong, [], _, _, rfl, fun _ _ _ => List.not_mem_nil⟩
  exact ⟨disk, htext, fault, hfault, hmessage⟩

end Settings
end SpiceKit
