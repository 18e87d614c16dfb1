import SpiceKit.Proofs.Action.Session

/-!
# The history of the warning

Whether the warning of redefined built-ins is on is kept in the settings, and the settings are
written from what was loaded before the person was asked. Nothing of that shows in the end: **the
warning is off when the last thing said about it was never to ask again, on when it was last asked
back, and as it was at first when nothing was said** (`warning_follows_last_event`). No other
setting changes, and it does not matter what became of the orders in which it was said.

What is said about the warning in one turn is its `event?`; `store_turn` is the law for one turn,
and a session is its turns one after another.
-/

set_option autoImplicit false

namespace SpiceKit

namespace Settings

theorem withRedefinitionCheck_twice (settings : Settings) (on off : Bool) :
    (settings.withRedefinitionCheck on).withRedefinitionCheck off =
      settings.withRedefinitionCheck off := rfl

end Settings

namespace Action

open Work

/-! ## What is said about the warning -/

/-- What can be said about the warning: that it is not to come again, or that it is asked back. The
warning follows the last of these, whatever else is done in between. `Turn.event?` reads it off a
turn: its command, whether anybody was asked, and the answer. -/
inductive Event where
  /-- A question was answered with never to ask again. -/
  | silenced
  /-- The warning was asked back. -/
  | restored
  deriving DecidableEq

/-- What is said about the warning in a turn. An answer counts only if the person was asked, which
`Turn.Guarded` reads off the turn. -/
def Turn.event? (turn : Turn) : Option Event :=
  match turn.order.command with
  | .restoreWarning => some .restored
  | _ =>
    if turn.after.asked ≠ [] ∧ turn.order.answer = some .neverAsk then some .silenced else none

/-- Whether the warning is on after what was said about it, the last word counting. Only the last
event counts, so `warningAfter_append` can forget those in front. -/
def warningAfter (on : Bool) (events : List Event) : Bool :=
  match events.getLast? with
  | none => on
  | some .silenced => false
  | some .restored => true

theorem warningAfter_append (on : Bool) (before events : List Event) :
    warningAfter on (before ++ events) = warningAfter (warningAfter on before) events := by
  unfold warningAfter
  rw [List.getLast?_append]
  cases events.getLast? with
  | none => rfl
  | some event =>
    cases event with
    | silenced => rfl
    | restored => rfl

theorem warningAfter_off {events : List Event} (h : .restored ∉ events) :
    warningAfter false events = false := by
  unfold warningAfter
  cases hlast : events.getLast? with
  | none => rfl
  | some event =>
    cases event with
    | silenced => rfl
    | restored => exact absurd (List.mem_of_getLast? hlast) h

def events (turns : List Turn) : List Event := turns.filterMap Turn.event?

def afterAll (place : Workplace) (orders : List Order) : Workplace :=
  orders.foldl (fun place order => (order.turn place).after) place

/-! ## One turn -/

variable {place : Workplace} {settings : Settings} {document : Document}

theorem event?_of_guarded? {turn : Turn} (h : turn.order.command.guarded? = some document) :
    turn.event? =
      if turn.after.asked ≠ [] ∧ turn.order.answer = some .neverAsk then some .silenced
      else none := by
  unfold Turn.event?
  split
  · rename_i hcommand
    rw [hcommand] at h
    cases h
  · rfl

theorem event?_of_unasked {turn : Turn} (hasked : turn.after.asked = [])
    (hcommand : turn.order.command ≠ .restoreWarning) : turn.event? = none := by
  unfold Turn.event?
  split
  · contradiction
  · rw [if_neg fun h => h.1 hasked]

theorem settingsAfter_verdict (settings : Settings) (document : Document)
    (answer : Option Consent.Choice) :
    settingsAfter settings (verdict settings document answer) =
      settings.withRedefinitionCheck (warningAfter settings.redefinitionCheck
        (if questions settings document ≠ [] ∧ answer = some .neverAsk then some Event.silenced
          else none).toList) := by
  unfold questions verdict
  by_cases hneeded : Consent.needed settings.redefinitionCheck document.redefinitions = true
  · rw [if_pos hneeded, if_pos hneeded]
    rcases answer with _ | choice
    · rfl
    · cases choice with
      | proceed => rfl
      | cancel => rfl
      | neverAsk => rfl
  · rw [if_neg hneeded, if_neg hneeded]
    rfl

/-- Of a command that may ask, the settings keep what was said at its gate, and this also if the
tool then cannot be started: the settings are saved before that. The two ways to a turn are those of
`turn_of_saved` and `turn_of_unsaved`. -/
theorem store_turn_of_guarded {order : Order} (hguarded : order.command.guarded? = some document)
    (hstore : place.store = settings.inMemory) :
    (order.turn place).after.store =
      (settings.withRedefinitionCheck
        (warningAfter settings.redefinitionCheck (order.turn place).event?.toList)).inMemory := by
  rw [event?_of_guarded? (show (order.turn place).order.command.guarded? = _ from hguarded)]
  cases hsave : place.disk.writeText document.path document.text with
  | error fault =>
    -- Nobody has been asked, so nothing was said.
    rw [(turn_of_unsaved (Command.document?_of_guarded? hguarded) hstore hsave).2]
    exact hstore
  | ok disk =>
    have hsaid := settingsAfter_verdict settings document order.answer
    rcases turn_of_saved hguarded hstore hsave with ⟨-, -, started, hafter⟩ | ⟨-, -, hafter⟩
    · rw [hafter]
      exact congrArg Settings.inMemory hsaid
    · rw [hafter]
      exact congrArg Settings.inMemory hsaid

/-- **What a turn does to the settings**: the warning is what was said about it, and nothing else
changes. `store_afterAll` repeats this along a session. -/
theorem store_turn (order : Order) (hstore : place.store = settings.inMemory) :
    (order.turn place).after.store =
      (settings.withRedefinitionCheck
        (warningAfter settings.redefinitionCheck (order.turn place).event?.toList)).inMemory := by
  cases hcommand : order.command with
  | compile document =>
    have hguarded : order.command.guarded? = some document := by rw [hcommand]; rfl
    exact store_turn_of_guarded hguarded hstore
  | run document =>
    have hguarded : order.command.guarded? = some document := by rw [hcommand]; rfl
    exact store_turn_of_guarded hguarded hstore
  | check document =>
    obtain ⟨hasked, hkept⟩ := turn_of_check hcommand hstore
    have hother : (order.turn place).order.command ≠ .restoreWarning := by
      intro h
      cases hcommand.symm.trans h
    rw [hkept, event?_of_unasked hasked hother]
    rfl
  | restoreWarning =>
    have hevent : (order.turn place).event? = some .restored := by
      unfold Turn.event?
      rw [show (order.turn place).order.command = .restoreWarning from hcommand]
    rw [turn_of_restoreWarning hcommand hstore, hevent]
    rfl

theorem Turn.Guarded.unasked_of_off {turn : Turn} (h : turn.Guarded settings)
    (hoff : settings.redefinitionCheck = false) : turn.after.asked = [] := by
  cases hguarded : turn.order.command.guarded? with
  | none => exact h.unasked hguarded
  | some document =>
    cases hsave : turn.before.disk.writeText document.path document.text with
    | error fault =>
      exact (h.unsaved document (Command.document?_of_guarded? hguarded) fault hsave).2.1
    | ok disk =>
      rw [h.asked document hguarded ⟨disk, hsave⟩, hoff]
      rfl

theorem Turn.Guarded.length_asked_le {turn : Turn} (h : turn.Guarded settings) :
    turn.after.asked.length ≤ 1 := by
  cases hguarded : turn.order.command.guarded? with
  | none =>
    rw [h.unasked hguarded]
    exact Nat.zero_le _
  | some document =>
    cases hsave : turn.before.disk.writeText document.path document.text with
    | error fault =>
      rw [(h.unsaved document (Command.document?_of_guarded? hguarded) fault hsave).2.1]
      exact Nat.zero_le _
    | ok disk =>
      rw [h.asked document hguarded ⟨disk, hsave⟩]
      split
      · exact Nat.le_refl _
      · exact Nat.zero_le _

/-! ## A whole session -/

-- Induction on the orders: the settings after the first turn are those with which the others start.
theorem store_afterAll (hstore : place.store = settings.inMemory) (orders : List Order) :
    (afterAll place orders).store =
      (settings.withRedefinitionCheck
        (warningAfter settings.redefinitionCheck (events (turns place orders)))).inMemory := by
  induction orders generalizing place settings with
  | nil => exact hstore
  | cons order orders ih =>
    have hturn := store_turn order hstore
    have hevents : events (turns place (order :: orders)) =
        (order.turn place).event?.toList ++ events (turns (order.turn place).after orders) := by
      rw [turns, events, events, List.filterMap_cons]
      cases (order.turn place).event? with
      | none => rfl
      | some event => rfl
    have hrest := ih hturn
    rw [Settings.withRedefinitionCheck_twice] at hrest
    rw [hevents, warningAfter_append]
    exact hrest

theorem exists_orders_of_turns {orders : List Order} {before rest : List Turn}
    (h : turns place orders = before ++ rest) :
    ∃ earlier later, before = turns place earlier ∧ rest = turns (afterAll place earlier) later := by
  induction before generalizing place orders with
  | nil => exact ⟨[], orders, rfl, h.symm⟩
  | cons turn before ih =>
    cases orders with
    | nil => cases h
    | cons order orders =>
      obtain ⟨rfl, hrest⟩ := List.cons.inj h
      obtain ⟨earlier, later, rfl, rfl⟩ := ih hrest
      exact ⟨order :: earlier, later, rfl, rfl⟩

theorem exists_order_of_turns {orders : List Order} {turn : Turn} {rest : List Turn}
    (h : turns place orders = turn :: rest) :
    ∃ (order : Order) (later : List Order),
      turn = order.turn place ∧ rest = turns turn.after later := by
  cases orders with
  | nil => cases h
  | cons order orders =>
    obtain ⟨rfl, rfl⟩ := List.cons.inj h
    exact ⟨order, orders, rfl, rfl⟩

/-- After a turn in which the answer was never to ask again, nobody is asked until the warning is
asked back. The turns in between are bridged by `store_afterAll`, and `Turn.Guarded.unasked_of_off`
is the turn itself. -/
theorem unasked_of_silenced (hstore : place.store = settings.inMemory) {order : Order}
    (hsilent : (order.turn place).event? = some .silenced) {middle : List Order}
    (hmiddle : .restored ∉ events (turns (order.turn place).after middle)) (last : Order) :
    (order.turn place).after.asked.length = 1 ∧
      (last.turn (afterAll (order.turn place).after middle)).after.asked = [] := by
  constructor
  · have hasked : (order.turn place).after.asked ≠ [] := by
      intro hnone
      unfold Turn.event? at hsilent
      split at hsilent
      · cases hsilent
      · rw [if_neg fun h => h.1 hnone] at hsilent
        cases hsilent
    have hle := (turn_guarded order hstore).length_asked_le
    have hpos := List.length_pos_iff.mpr hasked
    omega
  · have hturn := store_turn order hstore
    rw [hsilent] at hturn
    exact (turn_guarded last (store_afterAll hturn middle)).unasked_of_off (warningAfter_off hmiddle)

/-- **The warning follows the last word about it.** At a workplace whose settings are kept in
memory, whatever is ordered in whatever sequence, with whatever answers and whatever the tools do:

* after the session, the settings are those before it, but for the warning, which is off, on or as
  it was as the last word about it says (`warningAfter`);
* once the answer was never to ask again, the person is not asked again, neither in that turn nor in
  any other until the warning is asked back. -/
theorem warning_follows_last_event (place : Workplace) (settings : Settings)
    (orders : List Order) :
    (afterAll { place with store := settings.inMemory } orders).store =
        (settings.withRedefinitionCheck (warningAfter settings.redefinitionCheck
          (events (turns { place with store := settings.inMemory } orders)))).inMemory ∧
      ∀ before silent between later rest,
        turns { place with store := settings.inMemory } orders =
          before ++ silent :: (between ++ later :: rest) →
        silent.event? = some .silenced → .restored ∉ events between →
          silent.after.asked.length = 1 ∧ later.after.asked = [] := by
  refine ⟨store_afterAll rfl orders, ?_⟩
  intro before silent between later rest hturns hsilent hbetween
  obtain ⟨earlier, _, -, hfrom⟩ := exists_orders_of_turns hturns
  obtain ⟨order, behind, rfl, hbehind⟩ := exists_order_of_turns hfrom.symm
  obtain ⟨middle, _, rfl, hlater⟩ := exists_orders_of_turns hbehind.symm
  obtain ⟨last, _, rfl, -⟩ := exists_order_of_turns hlater.symm
  exact unasked_of_silenced (store_afterAll rfl earlier) hsilent hbetween last

/-- The answer counts although the compiler cannot be started: the warning is off, and the second
order asks nobody about the same text. -/
theorem warning_follows_last_event_refused_compiler :
    (afterAll { disk := ⟨.emptyFolder, []⟩, store := Settings.inMemory {} }
        [⟨.compile ⟨"", ⟨.here, [['a']]⟩, "def print(".toList, 0⟩, some .neverAsk, .refused .noEntry⟩,
          ⟨.run ⟨"", ⟨.here, [['a']]⟩, "def print(".toList, 0⟩, some .cancel, .endless⟩]).store =
        (Settings.withRedefinitionCheck {} false).inMemory ∧
      (turns { disk := ⟨.emptyFolder, []⟩, store := Settings.inMemory {} }
        [⟨.compile ⟨"", ⟨.here, [['a']]⟩, "def print(".toList, 0⟩, some .neverAsk, .refused .noEntry⟩,
          ⟨.run ⟨"", ⟨.here, [['a']]⟩, "def print(".toList, 0⟩, some .cancel, .endless⟩]).map
        (fun turn => turn.after.asked.length) = [1, 0] := by
  obtain ⟨hstore, hquiet⟩ := warning_follows_last_event
    { disk := ⟨.emptyFolder, []⟩, store := Settings.inMemory {} } {}
    [⟨.compile ⟨"", ⟨.here, [['a']]⟩, "def print(".toList, 0⟩, some .neverAsk, .refused .noEntry⟩,
      ⟨.run ⟨"", ⟨.here, [['a']]⟩, "def print(".toList, 0⟩, some .cancel, .endless⟩]
  obtain ⟨honce, hnone⟩ := hquiet [] _ [] _ [] rfl (by decide +kernel) List.not_mem_nil
  constructor
  · refine hstore.trans (congrArg (fun on => (Settings.withRedefinitionCheck {} on).inMemory) ?_)
    decide +kernel
  · rw [turns, turns, turns, List.map_cons, List.map_cons, List.map_nil]
    exact congrArg₂ (fun a b => [a, b]) honce (congrArg List.length hnone)

end Action
end SpiceKit
