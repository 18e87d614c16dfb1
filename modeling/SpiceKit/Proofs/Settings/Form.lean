import SpiceKit.Proofs.Json.Object
import SpiceKit.Settings

/-!
# Settings are read as they were written

Every member of the settings object is of the type that its setting expects, so reading the object
takes them all over: **settings that are written are read again** (`Settings.ofMembers_members`),
but for the time limit, which is the number that its digits stand for. The texts have to be joined,
and those of settings that were read are (`Settings.joined_of_ofMembers`).
-/

set_option autoImplicit false

namespace SpiceKit
namespace Settings

/-- Settings whose texts are joined, so that they are read as they were written. Settings that were
read are (`joined_of_ofMembers`), and those at first are as well. -/
structure Joined (settings : Settings) : Prop where
  compiler : settings.compiler.Joined
  runner : settings.runner.Joined

theorem joined_default : Joined {} :=
  ⟨WideText.joined_ofString "spicy", WideText.joined_ofString "spice"⟩

theorem Joined.withRedefinitionCheck {settings : Settings} (h : settings.Joined) (on : Bool) :
    (settings.withRedefinitionCheck on).Joined := ⟨h.compiler, h.runner⟩

/-! ## Settings that are read -/

theorem Joined.assignLimit {settings settings' : Settings} {limit : Option Binary64}
    (h : settings.Joined) (hassign : settings.assignLimit limit = .ok settings') :
    settings'.Joined := by
  cases limit with
  | none => cases hassign
  | some x =>
    obtain rfl := Except.ok.inj hassign
    exact ⟨h.compiler, h.runner⟩

theorem Joined.assign {settings settings' : Settings} {key : Key} {value : Json.Value}
    (h : settings.Joined) (hvalue : value.Joined)
    (hassign : settings.assign key value = .ok settings') :
    settings'.Joined := by
  unfold Settings.assign at hassign
  split at hassign
  · cases hvalue with
    | text htext =>
      obtain rfl := Except.ok.inj hassign
      exact ⟨htext, h.runner⟩
  · cases hvalue with
    | text htext =>
      obtain rfl := Except.ok.inj hassign
      exact ⟨h.compiler, htext⟩
  · obtain rfl := Except.ok.inj hassign
    exact ⟨h.compiler, h.runner⟩
  · obtain rfl := Except.ok.inj hassign
    exact ⟨h.compiler, h.runner⟩
  · obtain rfl := Except.ok.inj hassign
    exact ⟨h.compiler, h.runner⟩
  · exact h.assignLimit hassign
  · obtain rfl := Except.ok.inj hassign
    exact h

theorem Joined.assignAll {settings settings' : Settings} {members : List (String × Json.Value)}
    (h : settings.Joined) (hmembers : ∀ member ∈ members, Json.Value.Joined member.2)
    (hassign : settings.assignAll members = .ok settings') : settings'.Joined := by
  induction members generalizing settings with
  | nil =>
    obtain rfl := Except.ok.inj hassign
    exact h
  | cons member members ih =>
    obtain ⟨name, value⟩ := member
    obtain ⟨hvalue, hmembers⟩ := List.forall_mem_cons.mp hmembers
    rw [Settings.assignAll] at hassign
    split at hassign
    · exact ih h hmembers hassign
    · rename_i key _
      cases hfirst : settings.assign key value with
      | error fault =>
        rw [hfirst] at hassign
        cases hassign
      | ok first =>
        rw [hfirst] at hassign
        exact ih (h.assign hvalue hfirst) hmembers hassign

/-- **Settings that were read are joined.** The texts were joined in the file (`joined_of_read`),
and `assign` does not change them. -/
theorem joined_of_ofMembers {members : List (String × Json.Value)} {settings : Settings}
    (hmembers : ∀ member ∈ members, Json.Value.Joined member.2)
    (h : ofMembers members = .ok settings) : settings.Joined := by
  unfold ofMembers at h
  split at h
  · cases h
  · exact joined_default.assignAll hmembers h

/-! ## Settings that are written -/

/-- The settings that are read where settings were written: the same, but for the time limit, of
which the digits that were written are read. It is the identity on settings, but that needs the
round trip of numbers (`reread_eq_self`). -/
def reread (settings : Settings) : Settings :=
  { settings with timeLimit := settings.timeLimit.reread }

theorem reread_withRedefinitionCheck (settings : Settings) (on : Bool) :
    (settings.withRedefinitionCheck on).reread = settings.reread.withRedefinitionCheck on := rfl

theorem reread_eq_self {settings : Settings}
    (h : Binary64.ofText? settings.timeLimit.toText = some settings.timeLimit) :
    settings.reread = settings := by
  rw [Binary64.ofText?_toText, Option.some.injEq] at h
  rw [reread, h]

def members (settings : Settings) : List (String × Json.Value) :=
  Key.all.map fun key => (key.name, settings.value key)

theorem readAs_value {settings : Settings} (h : settings.Joined) (key : Key) :
    Json.ReadAs (settings.value key) (settings.reread.value key) := by
  cases key with
  | compiler => exact Json.readAs_text h.compiler
  | runner => exact Json.readAs_text h.runner
  | liveCheck => exact Json.readAs_bool _
  | redefinitionCheck => exact Json.readAs_bool _
  | timeLimit => exact Json.readAs_real _

theorem readAs_members {settings : Settings} (h : settings.Joined) :
    List.Forall₂ Json.ReadAsMember settings.members settings.reread.members := by
  unfold members
  rw [List.forall₂_map_left_iff, List.forall₂_map_right_iff, List.forall₂_same]
  exact fun key _ => ⟨rfl, readAs_value h key⟩

theorem ofName?_name (key : Key) : Key.ofName? key.name = some key := by
  cases key <;> decide

theorem accepts_value (settings : Settings) (key : Key) :
    key.accepts (settings.value key) = true := by
  cases key <;> rfl

/-- **The settings of a settings object are those it was made of.** The members are those that
`toJson` writes. -/
theorem ofMembers_members (settings : Settings) : ofMembers settings.members = .ok settings := by
  have hright : firstWrong? settings.members = none := by
    unfold firstWrong? members
    rw [List.findSome?_eq_none_iff]
    intro member hmember
    obtain ⟨key, -, rfl⟩ := List.mem_map.mp hmember
    simp only [ofName?_name, accepts_value, if_true]
  rw [ofMembers, hright]
  simp only [members, Key.all, List.map_cons, List.map_nil, assignAll, ofName?_name]
  rfl

/-- **Settings that are written are read again.** What comes back are the members of `reread`
settings. -/
theorem read_write {settings : Settings} (h : settings.Joined) :
    Json.read (Json.write settings.toJson) = .ok settings.reread.toJson := by
  have hnames : (settings.reread.members.map Prod.fst).Nodup := by
    rw [members, List.map_map]
    exact (by decide : (Key.all.map Key.name).Nodup)
  exact Json.read_write_object (readAs_members h) hnames

theorem return_not_mem_write {settings : Settings} (h : settings.Joined) :
    '\r' ∉ Json.write settings.toJson :=
  Json.return_not_mem_write_object (readAs_members h)

end Settings
end SpiceKit
