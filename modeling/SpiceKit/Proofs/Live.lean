import Mathlib.Data.List.Induction
import SpiceKit.Live
import SpiceKit.Proofs.Finding.Table

/-!
# What is known of a document while editing

The findings of a document are settled by the last event about it, and by whether checking was on at
that moment; nothing that happened before, and nothing that happens to other documents or to the
settings later, plays a part. `Published settings events uri text` says so of the events alone: the
last one about `uri` brought `text` while checking was on. **The table holds the findings of a
document exactly if it is published, and no others** (`Live.table_follows_last_events`), so that
events about different documents can be exchanged.

What one event does to the table is `Event.publish`. It looks at neither the versions nor the
documents as they were last seen.
-/

set_option autoImplicit false

namespace SpiceKit

namespace Event

def uri? : Event → Option String
  | .opened uri _ => some uri
  | .changed uri _ => some uri
  | .closed uri => some uri
  | .configured _ => none

def text? : Event → Option (List Char)
  | .opened _ text => some text
  | .changed _ text => some text
  | .closed _ => none
  | .configured _ => none

def settings? : Event → Option Settings
  | .opened _ _ => none
  | .changed _ _ => none
  | .closed _ => none
  | .configured settings => some settings

end Event

def Live.findingsOf (text : List Char) : List Finding := (Source.ofText text).findings

/-- What an event makes of the table: a text puts its findings there if checking is on and takes the
document out if it is off, and so does a closed document. Of the settings nothing else is looked at.
`InOrder.table_step` says that `Live.step` does just this. -/
def Event.publish (settings : Settings) (table : FindingTable) (event : Event) : FindingTable :=
  match event.uri?, event.text? with
  | some uri, some text =>
    if settings.liveCheck then table.replace uri (Live.findingsOf text) else table.clear uri
  | some uri, none => table.clear uri
  | none, _ => table

namespace Live

variable {live live' : Live} {settings : Settings} {event : Event} {uri : String} {text : List Char}

/-- The state after events one after another. It is a fold of `Live.step`, so inductions take events
from the end. -/
def after (live : Live) (events : List Event) : Live := events.foldl step live

/-- The settings after events: those that were brought last, or those at first. What an event
publishes depends on the events before it through these alone. `Published` uses it for the events in
front of the one that counts. -/
def settingsAfter (settings : Settings) (events : List Event) : Settings :=
  (events.filterMap Event.settings?).getLast?.getD settings

/-- The last event about an address brought a text while checking was on. `find?_after` says that
the table holds something for the address exactly then, and that it holds the findings of that text. -/
def Published (settings : Settings) (events : List Event) (uri : String) (text : List Char) : Prop :=
  ∃ before event later, events = before ++ event :: later ∧
    event.uri? = some uri ∧ event.text? = some text ∧ (∀ other ∈ later, other.uri? ≠ some uri) ∧
    (settingsAfter settings before).liveCheck = true

/-! ## What one event does -/

/-- A state in order: the table is `Sorted`, and documents are remembered under their own addresses.
The empty state is in order, and each event keeps it so (`InOrder.step`). -/
structure InOrder (live : Live) : Prop where
  table : live.table.Sorted
  seen : ∀ entry ∈ live.seen, entry.2.uri = entry.1

theorem inOrder_nil (settings : Settings) : InOrder { settings := settings } :=
  ⟨FindingTable.sorted_nil, nofun⟩

theorem InOrder.changing (h : live.InOrder) (uri : String) (text : List Char) :
    (live.changing uri text).uri = uri ∧ (live.changing uri text).text = text := by
  unfold Live.changing
  split
  · rename_i document hseen
    have hmem : (uri, document) ∈ live.seen := by
      obtain ⟨before, later, hsplit, -⟩ := List.lookup_eq_some_iff.mp hseen
      rw [hsplit]
      exact List.mem_append_right _ List.mem_cons_self
    exact ⟨h.seen _ hmem, rfl⟩
  · exact ⟨rfl, rfl⟩

theorem table_take (document : Document) :
    (live.take document).2.table =
      if live.settings.liveCheck then live.table.replace document.uri (findingsOf document.text)
      else live.table.clear document.uri := by
  unfold take refresh
  by_cases h : live.settings.liveCheck = true
  · rw [if_pos h, if_pos h]
    rfl
  · rw [if_neg h, if_neg h]

/-- **What one event does to the table.** `Event.publish` is the change without the rest of the
state. -/
theorem InOrder.table_step (h : live.InOrder) (event : Event) :
    (live.step event).table = event.publish live.settings live.table := by
  cases event with
  | opened uri text => exact table_take _
  | changed uri text =>
    obtain ⟨huri, htext⟩ := h.changing uri text
    refine (table_take _).trans ?_
    rw [huri, htext]
    rfl
  | closed uri => rfl
  | configured settings => rfl

theorem settings_step (live : Live) (event : Event) :
    (live.step event).settings = event.settings?.getD live.settings := by
  cases event <;> rfl

theorem sorted_publish {table : FindingTable} (h : table.Sorted) (settings : Settings)
    (event : Event) : (event.publish settings table).Sorted := by
  unfold Event.publish
  split
  · split
    · exact h.replace _ _
    · exact h.clear _
  · exact h.clear _
  · exact h

theorem InOrder.step (h : live.InOrder) (event : Event) : (live.step event).InOrder := by
  constructor
  · rw [h.table_step]
    exact sorted_publish h.table _ _
  · have htake (document : Document) : ∀ entry ∈ (live.take document).2.seen, entry.2.uri = entry.1 := by
      intro entry hentry
      rcases List.mem_cons.mp hentry with rfl | hentry
      · rfl
      · exact h.seen entry hentry
    cases event with
    | opened uri text => exact htake _
    | changed uri text => exact htake _
    | closed uri => exact h.seen
    | configured settings => exact h.seen

theorem InOrder.after (h : live.InOrder) (events : List Event) : (live.after events).InOrder := by
  induction events generalizing live with
  | nil => exact h
  | cons event events ih => exact ih (h.step event)

theorem find?_publish_of_ne (h : event.uri? ≠ some uri) (settings : Settings) (table : FindingTable) :
    (event.publish settings table).find? uri = table.find? uri := by
  unfold Event.publish
  split
  · rename_i other _ hother _
    have hne : uri ≠ other := fun heq => h (heq ▸ hother)
    split
    · exact FindingTable.find?_replace_of_ne hne _ _
    · exact FindingTable.find?_clear_of_ne hne _
  · rename_i other hother _
    have hne : uri ≠ other := fun heq => h (heq ▸ hother)
    exact FindingTable.find?_clear_of_ne hne _
  · rfl

theorem find?_publish_self (h : event.uri? = some uri) (settings : Settings) (table : FindingTable) :
    (event.publish settings table).find? uri =
      if settings.liveCheck then event.text?.map findingsOf else none := by
  unfold Event.publish
  rw [h]
  cases event.text? with
  | none =>
    simp only [Option.map_none, ite_self]
    exact FindingTable.find?_clear_self _ _
  | some text =>
    simp only [Option.map_some]
    split
    · exact FindingTable.find?_replace_self _ _ _
    · exact FindingTable.find?_clear_self _ _

/-- **An event is answered with what is then known of its document.** The answer is read from the
table after the step, by `FindingTable.get`. -/
theorem InOrder.respond_eq (h : live.InOrder) (huri : event.uri? = some uri)
    (htext : event.text? = some text) :
    (live.respond event).1 = some ((live.step event).table.get uri) := by
  have htake (document : Document) :
      (live.take document).1 = (live.take document).2.table.get document.uri := by
    unfold take refresh
    by_cases hon : live.settings.liveCheck = true
    · rw [if_pos hon]
    · rw [if_neg hon]
      exact (congrArg (Option.getD · []) (FindingTable.find?_clear_self _ _)).symm
  cases event with
  | opened other text' =>
    obtain rfl := Option.some.inj huri
    exact congrArg some (htake _)
  | changed other text' =>
    obtain rfl := Option.some.inj huri
    obtain ⟨hsame, -⟩ := h.changing other text'
    have hanswer := htake (live.changing other text')
    rw [hsame] at hanswer
    exact congrArg some hanswer
  | closed other => cases htext
  | configured settings => cases htext

/-! ## What the last event about a document says -/

theorem settingsAfter_concat (settings : Settings) (events : List Event) (event : Event) :
    settingsAfter settings (events ++ [event]) =
      event.settings?.getD (settingsAfter settings events) := by
  unfold settingsAfter
  rw [List.filterMap_append]
  cases hevent : event.settings? with
  | none => simp [hevent]
  | some brought => simp [hevent]

theorem not_published_nil : ¬ Published settings [] uri text := by
  rintro ⟨before, event, later, hsplit, -⟩
  simp at hsplit

theorem published_concat_of_ne (h : event.uri? ≠ some uri) {events : List Event} :
    Published settings (events ++ [event]) uri text ↔ Published settings events uri text := by
  constructor
  · rintro ⟨before, event', later, hsplit, huri, htext, hlater, hon⟩
    rcases List.eq_nil_or_concat later with rfl | ⟨later, last, rfl⟩
    · obtain ⟨-, rfl⟩ := List.append_inj' hsplit rfl |>.imp_right List.singleton_inj.mp
      exact absurd huri h
    · rw [List.concat_eq_append, ← List.cons_append, ← List.append_assoc] at hsplit
      obtain ⟨rfl, -⟩ := List.append_inj' hsplit rfl
      refine ⟨before, event', later, rfl, huri, htext, fun other hother => ?_, hon⟩
      exact hlater other (by simp [hother])
  · rintro ⟨before, event', later, rfl, huri, htext, hlater, hon⟩
    refine ⟨before, event', later ++ [event], by simp, huri, htext, fun other hother => ?_, hon⟩
    rcases List.mem_append.mp hother with hother | hother
    · exact hlater other hother
    · rw [List.mem_singleton.mp hother]
      exact h

/-- An event about an address settles whether its document is published, and with which text. Events
about other addresses leave `Published` as it is. -/
theorem published_concat_of_uri (h : event.uri? = some uri) {events : List Event} :
    Published settings (events ++ [event]) uri text ↔
      event.text? = some text ∧ (settingsAfter settings events).liveCheck = true := by
  constructor
  · rintro ⟨before, event', later, hsplit, huri, htext, hlater, hon⟩
    rcases List.eq_nil_or_concat later with rfl | ⟨later, last, rfl⟩
    · obtain ⟨rfl, rfl⟩ := List.append_inj' hsplit rfl |>.imp_right List.singleton_inj.mp
      exact ⟨htext, hon⟩
    · rw [List.concat_eq_append, ← List.cons_append, ← List.append_assoc] at hsplit
      obtain ⟨-, rfl⟩ := List.append_inj' hsplit rfl |>.imp_right List.singleton_inj.mp
      exact absurd h (hlater event (by simp))
  · rintro ⟨htext, hon⟩
    exact ⟨events, event, [], rfl, h, htext, nofun, hon⟩

theorem after_append (live : Live) (before later : List Event) :
    live.after (before ++ later) = (live.after before).after later := List.foldl_append

theorem after_concat (live : Live) (events : List Event) (event : Event) :
    live.after (events ++ [event]) = (live.after events).step event :=
  live.after_append events [event]

theorem settings_after (settings : Settings) (events : List Event) :
    (({ settings := settings } : Live).after events).settings = settingsAfter settings events := by
  induction events using List.reverseRecOn with
  | nil => rfl
  | append_singleton events event ih =>
    rw [after_concat, settings_step, ih, settingsAfter_concat]

/-- **The table holds findings for a document exactly if it is published.** The induction is on the
events, from the end: the last one is about this document or not. -/
theorem find?_after (settings : Settings) (events : List Event) (uri : String)
    (findings : List Finding) :
    (({ settings := settings } : Live).after events).table.find? uri = some findings ↔
      ∃ text, Published settings events uri text ∧ findings = findingsOf text := by
  -- The induction takes the last event off: what is published rests on it, or on those before.
  induction events using List.reverseRecOn with
  | nil =>
    constructor
    · exact nofun
    · rintro ⟨text, h, -⟩
      exact absurd h not_published_nil
  | append_singleton events event ih =>
    have horder := (inOrder_nil settings).after events
    rw [after_concat, horder.table_step, settings_after]
    by_cases huri : event.uri? = some uri
    · simp only [find?_publish_self huri, published_concat_of_uri huri]
      constructor
      · intro h
        split at h
        · rename_i hon
          obtain ⟨text, htext, rfl⟩ := Option.map_eq_some_iff.mp h
          exact ⟨text, ⟨htext, hon⟩, rfl⟩
        · cases h
      · rintro ⟨text, ⟨htext, hon⟩, rfl⟩
        rw [if_pos hon, htext]
        rfl
    · simp only [find?_publish_of_ne huri, published_concat_of_ne huri]
      exact ih

/-! ## Events in another order -/

/-- Events about different documents can be exchanged, as far as the table goes. Both orders leave a
sorted table that holds the same, so `FindingTable.Sorted.ext` applies. -/
theorem publish_comm {first second : Event} {other : String} (hfirst : first.uri? = some uri)
    (hsecond : second.uri? = some other) (hne : uri ≠ other) {table : FindingTable}
    (h : table.Sorted) (settings : Settings) :
    second.publish settings (first.publish settings table) =
      first.publish settings (second.publish settings table) := by
  refine (sorted_publish (sorted_publish h _ _) _ _).ext (sorted_publish (sorted_publish h _ _) _ _)
    fun document => ?_
  have hfirst' : first.uri? ≠ some other := hfirst ▸ fun heq => hne (Option.some.inj heq)
  have hsecond' : second.uri? ≠ some uri := hsecond ▸ fun heq => hne (Option.some.inj heq).symm
  by_cases huri : document = uri
  · rw [huri, find?_publish_of_ne hsecond', find?_publish_self hfirst, find?_publish_self hfirst]
  · have hdocument : first.uri? ≠ some document := hfirst ▸ fun heq => huri (Option.some.inj heq).symm
    by_cases hother : document = other
    · rw [hother, find?_publish_self hsecond, find?_publish_of_ne hfirst', find?_publish_self hsecond]
    · have hdocument' : second.uri? ≠ some document :=
        hsecond ▸ fun heq => hother (Option.some.inj heq).symm
      rw [find?_publish_of_ne hdocument', find?_publish_of_ne hdocument,
        find?_publish_of_ne hdocument, find?_publish_of_ne hdocument']

theorem table_after_congr (h : live.InOrder) (h' : live'.InOrder)
    (hsettings : live.settings = live'.settings) (htable : live.table = live'.table)
    (events : List Event) : (live.after events).table = (live'.after events).table := by
  induction events generalizing live live' with
  | nil => exact htable
  | cons event events ih =>
    refine ih (h.step event) (h'.step event) ?_ ?_
    · rw [settings_step, settings_step, hsettings]
    · rw [h.table_step, h'.table_step, hsettings, htable]

theorem settings?_of_uri? (h : event.uri? = some uri) : event.settings? = none := by
  cases event with
  | configured settings => cases h
  | opened other text => rfl
  | changed other text => rfl
  | closed other => rfl

theorem table_after_swap (h : live.InOrder) {first second : Event} {other : String}
    (hfirst : first.uri? = some uri) (hsecond : second.uri? = some other) (hne : uri ≠ other)
    (events : List Event) :
    (live.after (second :: first :: events)).table = (live.after (first :: second :: events)).table := by
  refine table_after_congr ((h.step second).step first) ((h.step first).step second) ?_ ?_ events
  · simp only [settings_step, settings?_of_uri? hfirst, settings?_of_uri? hsecond, Option.getD_none]
  · rw [(h.step second).table_step, h.table_step, (h.step first).table_step, h.table_step]
    simp only [settings_step, settings?_of_uri? hfirst, settings?_of_uri? hsecond, Option.getD_none]
    exact (publish_comm hfirst hsecond hne h.table _).symm

/-- **The table follows the last event about each document.** If that brought a text while checking
was on, the document is known with the findings of the text, even if there are none; otherwise it is
not known. Documents stand in increasing order, an event is answered with what is then known of its
document, and events about different documents can be exchanged. Known with findings is `Published`;
that two events can be exchanged is `table_after_swap`. -/
theorem table_follows_last_events (settings : Settings) (events : List Event) :
    let live := ({ settings := settings } : Live).after events
    live.table.documents.Pairwise (· < ·) ∧
      (∀ uri text, Published settings events uri text →
        live.table.get uri = findingsOf text ∧ uri ∈ live.table.documents) ∧
      (∀ uri, (∀ text, ¬ Published settings events uri text) →
        live.table.get uri = [] ∧ uri ∉ live.table.documents) ∧
      (∀ event uri text, event.uri? = some uri → event.text? = some text →
        (live.respond event).1 = some ((live.step event).table.get uri)) ∧
      ∀ before first second later uri other, events = before ++ first :: second :: later →
        first.uri? = some uri → second.uri? = some other → uri ≠ other →
          (({ settings := settings } : Live).after (before ++ second :: first :: later)).table =
            live.table := by
  intro live
  have horder : live.InOrder := (inOrder_nil settings).after events
  refine ⟨horder.table, ?_, ?_, fun event uri text huri htext => horder.respond_eq huri htext, ?_⟩
  · intro uri text h
    have hfind := (find?_after settings events uri (findingsOf text)).mpr ⟨text, h, rfl⟩
    exact ⟨by rw [FindingTable.get_eq, hfind]; rfl, FindingTable.mem_documents_iff.mpr ⟨_, hfind⟩⟩
  · intro uri h
    have hfind : live.table.find? uri = none := by
      refine Option.eq_none_iff_forall_ne_some.mpr fun findings hfind => ?_
      obtain ⟨text, hpublished, -⟩ := (find?_after settings events uri findings).mp hfind
      exact h text hpublished
    refine ⟨by rw [FindingTable.get_eq, hfind]; rfl, fun hmem => ?_⟩
    obtain ⟨findings, hknown⟩ := FindingTable.mem_documents_iff.mp hmem
    cases hfind.symm.trans hknown
  · rintro before first second later uri other rfl hfirst hsecond hne
    have hswap := table_after_swap ((inOrder_nil settings).after before) hfirst hsecond hne later
    rwa [← after_append, ← after_append] at hswap

/-- A document keeps its finding when another one, which has none, is opened after it and checking
is switched off after that. -/
theorem table_follows_last_events_opened :
    let events : List Event := [.opened "a" ['x'], .opened "b" ['y', ';'],
      .configured { liveCheck := false }]
    let live := ({ settings := {} } : Live).after events
    Published {} events "a" ['x'] ∧ live.table.get "a" = [⟨.missingTerminator, 0, 0, 1⟩] ∧
      Published {} events "b" ['y', ';'] ∧ live.table.get "b" = [] ∧ "b" ∈ live.table.documents := by
  intro events live
  have ha : Published {} events "a" ['x'] :=
    ⟨[], .opened "a" ['x'], [.opened "b" ['y', ';'], .configured { liveCheck := false }], rfl, rfl, rfl,
      by decide, rfl⟩
  have hb : Published {} events "b" ['y', ';'] :=
    ⟨[.opened "a" ['x']], .opened "b" ['y', ';'], [.configured { liveCheck := false }], rfl, rfl, rfl,
      by decide, rfl⟩
  obtain ⟨-, hpublished, -⟩ := table_follows_last_events {} events
  refine ⟨ha, (hpublished _ _ ha).1.trans ?_, hb, (hpublished _ _ hb).1.trans ?_, (hpublished _ _ hb).2⟩
  · decide
  · decide

end Live
end SpiceKit
