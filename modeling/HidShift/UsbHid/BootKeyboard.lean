import Mathlib.Data.Finset.Dedup
import Mathlib.Data.Finset.Erase
import Mathlib.Data.Finset.Lattice.Lemmas
import Mathlib.Data.Finset.SDiff
import HidShift.Lib.Bits
import HidShift.UsbHid.Frame

/-! Boot keyboard reports and the events that lead from one to the next
(`usb_hid/boot_keyboard.rs`). -/

namespace HidShift

open Lib

inductive KeyCode
  | hidUsage (usage : UInt8)

inductive KeyboardEvent
  | press (key : KeyCode)
  | release (key : KeyCode)
  | modifierPress (modifier : Modifier)
  | modifierRelease (modifier : Modifier)

/-- Boot keyboards emit no mouse reports and no consumer usages. -/
inductive InputEvent
  | keyboard (event : KeyboardEvent)

def ModifierState.setModifier (state : ModifierState) (modifier : Modifier)
    (pressed : Bool) : ModifierState :=
  if pressed then state ||| modifier.flag else state &&& ~~~modifier.flag

def bootKeyboardKeySlots : Nat := 6

def maxBootKeyboardEvents : Nat := 14

inductive BootKeyboardError
  | invalidKeyArray
  | tooManyEvents

abbrev BootKeyboardEvents := BoundedVec InputEvent maxBootKeyboardEvents

namespace BootKeyboardEvents

def clear (_ : BootKeyboardEvents) : BootKeyboardEvents := .empty

def push (events : BootKeyboardEvents) (event : InputEvent) :
    Except BootKeyboardError BootKeyboardEvents :=
  match events.push? event with
  | some events => .ok events
  | none => .error .tooManyEvents

/-- A loop that pushes an event for each value that passes the test. -/
def pushEach {α : Type} (events : BootKeyboardEvents) (test : α → Bool)
    (event : α → InputEvent) (values : List α) :
    Except BootKeyboardError BootKeyboardEvents :=
  values.foldlM
    (fun events value =>
      if test value then events.push (event value) else .ok events)
    events

variable {events after : BootKeyboardEvents}

theorem push_ok :
    events.push event = .ok after ↔ after.toList = events.toList ++ [event] := by
  rw [push, ← BoundedVec.push?_eq_some]
  cases events.push? event <;> simp

theorem pushEach_ok {α : Type} {test : α → Bool} {event : α → InputEvent}
    {values : List α} :
    events.pushEach test event values = .ok after ↔
      after.toList = events.toList ++ (values.filter test).map event := by
  simp only [pushEach]
  induction values generalizing events with
  | nil =>
      rw [List.filter_nil, List.map_nil, List.append_nil]
      exact ⟨fun same => by cases same; rfl,
        fun lists => congrArg _ (BoundedVec.ext lists.symm)⟩
  | cons head tail ih =>
      rw [List.foldlM_cons]
      cases passes : test head with
      | false =>
          rw [List.filter_cons_of_neg (by simp [passes])]
          exact ih
      | true =>
          rw [List.filter_cons_of_pos passes, List.map_cons,
            if_pos rfl, bind_eq_ok, List.append_cons]
          constructor
          · rintro ⟨middle, pushed, rest⟩
            rw [ih.mp rest, push_ok.mp pushed]
          · intro lists
            have room : (events.toList ++ [event head]).length ≤
                maxBootKeyboardEvents := by
              have bound := after.length_le
              rw [lists, List.length_append] at bound
              exact Nat.le_trans (Nat.le_add_right _ _) bound
            exact ⟨⟨_, room⟩, push_ok.mpr rfl, ih.mpr lists⟩

end BootKeyboardEvents

structure BootKeyboardReport where
  modifiers : UInt8
  keys : Vector UInt8 bootKeyboardKeySlots

namespace BootKeyboardReport

def modifierFromBit : Nat → Modifier
  | 0 => .leftCtrl
  | 1 => .leftShift
  | 2 => .leftAlt
  | 3 => .leftGui
  | 4 => .rightCtrl
  | 5 => .rightShift
  | 6 => .rightAlt
  | _ => .rightGui

def isRealKey (key : UInt8) : Bool := 4 ≤ key

def containsKey (keys : Vector UInt8 bootKeyboardKeySlots) (needle : UInt8) :
    Bool :=
  keys.toList.contains needle

def isPressed (report : BootKeyboardReport) (bit : Nat) : Bool :=
  report.modifiers &&& ((1 : UInt8) <<< bit.toUInt8) ≠ 0

def modifierEvent (current : BootKeyboardReport) (bit : Nat) : InputEvent :=
  .keyboard (
    if current.isPressed bit then .modifierPress (modifierFromBit bit)
    else .modifierRelease (modifierFromBit bit))

def differs (current previous : BootKeyboardReport) (bit : Nat) : Bool :=
  previous.isPressed bit ≠ current.isPressed bit

/-- A real key of a report that the other one has not. -/
def lacks (other : BootKeyboardReport) (key : UInt8) : Bool :=
  isRealKey key && !containsKey other.keys key

def releaseEvent (key : UInt8) : InputEvent :=
  .keyboard (.release (.hidUsage key))

def pressEvent (key : UInt8) : InputEvent :=
  .keyboard (.press (.hidUsage key))

def diffInto (current previous : BootKeyboardReport)
    (events : BootKeyboardEvents) :
    Except BootKeyboardError BootKeyboardEvents := do
  let events ← events.clear.pushEach (current.differs previous)
    current.modifierEvent (List.range 8)
  let events ← events.pushEach current.lacks releaseEvent previous.keys.toList
  events.pushEach previous.lacks pressEvent current.keys.toList

end BootKeyboardReport

structure PressedKeys where
  modifiers : ModifierState
  keys : Finset UInt8

def PressedKeys.apply (pressed : PressedKeys) : InputEvent → PressedKeys
  | .keyboard (.press (.hidUsage key)) =>
      { pressed with keys := insert key pressed.keys }
  | .keyboard (.release (.hidUsage key)) =>
      { pressed with keys := pressed.keys.erase key }
  | .keyboard (.modifierPress modifier) => { pressed with
      modifiers := pressed.modifiers.setModifier modifier true }
  | .keyboard (.modifierRelease modifier) => { pressed with
      modifiers := pressed.modifiers.setModifier modifier false }

namespace BootKeyboardReport

def pressed (report : BootKeyboardReport) : PressedKeys :=
  ⟨report.modifiers.toBitVec, (report.keys.toList.filter isRealKey).toFinset⟩

/-- The modifiers that differ, the slots of `previous` with a key that goes,
and the slots of `current` with a key that comes. -/
def changeCount (current previous : BootKeyboardReport) : Nat :=
  (List.range 8).countP (current.differs previous) +
    previous.keys.toList.countP current.lacks +
      current.keys.toList.countP previous.lacks

variable {current previous : BootKeyboardReport} {state : PressedKeys}

theorem isPressed_eq (report : BootKeyboardReport) (small : bit < 8) :
    report.isPressed bit = report.modifiers.toBitVec.getLsbD bit := by
  have mask := getLsbD_bit8 bit small
  rw [isPressed]
  cases held : report.modifiers.toBitVec.getLsbD bit with
  | true =>
      apply decide_eq_true
      intro zero
      have clear := congrArg (fun value => value.toBitVec.getLsbD bit) zero
      rw [UInt8.toBitVec_and, BitVec.getLsbD_and, held, mask bit small] at clear
      simp at clear
  | false =>
      apply decide_eq_false
      apply not_not_intro
      apply UInt8.toBitVec_inj.mp
      apply BitVec.eq_of_getLsbD_eq
      intro other inside
      rw [UInt8.toBitVec_and, BitVec.getLsbD_and, mask other inside]
      by_cases same : other = bit <;> simp [same, held]

theorem flag_modifierFromBit : ∀ bit < 8, ∀ other < 8,
    (modifierFromBit bit).flag.getLsbD other = decide (other = bit) := by
  decide

theorem getLsbD_setModifier (modifiers : ModifierState) (down : Bool)
    (small : bit < 8) (inside : other < 8) :
    (modifiers.setModifier (modifierFromBit bit) down).getLsbD other =
      if other = bit then down else modifiers.getLsbD other := by
  have flag := flag_modifierFromBit bit small other inside
  cases down with
  | true =>
      rw [ModifierState.setModifier, if_pos rfl, BitVec.getLsbD_or, flag]
      by_cases same : other = bit <;> simp [same]
  | false =>
      rw [ModifierState.setModifier, if_neg Bool.false_ne_true,
        BitVec.getLsbD_and, BitVec.getLsbD_not, flag]
      by_cases same : other = bit <;> simp [same, inside]

theorem apply_modifiers {bits : Nat} (few : bits ≤ 8) :
    let reached := (((List.range bits).filter
      (current.differs previous)).map current.modifierEvent).foldl
        PressedKeys.apply previous.pressed
    reached.keys = previous.pressed.keys ∧
      ∀ other < 8, reached.modifiers.getLsbD other =
        if other < bits then current.modifiers.toBitVec.getLsbD other
        else previous.modifiers.toBitVec.getLsbD other := by
  induction bits with
  | zero => exact ⟨rfl, fun other inside => rfl⟩
  | succ bit ih =>
      obtain ⟨keys, settled⟩ := ih (by omega)
      have small : bit < 8 := by omega
      rw [List.range_succ, List.filter_append, List.map_append]
      simp only [List.foldl_append]
      generalize (((List.range bit).filter (current.differs previous)).map
        current.modifierEvent).foldl PressedKeys.apply previous.pressed =
          before at keys settled
      cases changed : current.differs previous bit with
      | false =>
          have same : previous.isPressed bit = current.isPressed bit := by
            simpa [differs] using changed
          rw [isPressed_eq _ small, isPressed_eq _ small] at same
          rw [List.filter_singleton, changed]
          refine ⟨keys, fun other inside => ?_⟩
          change before.modifiers.getLsbD other = _
          rw [settled other inside]
          by_cases here : other = bit
          · rw [here, if_neg (Nat.lt_irrefl bit),
              if_pos (Nat.lt_succ_self bit), same]
          · simp only [Nat.lt_succ_iff_lt_or_eq, here, or_false]
      | true =>
          have event : before.apply (current.modifierEvent bit) =
              ⟨before.modifiers.setModifier (modifierFromBit bit)
                (current.isPressed bit), before.keys⟩ := by
            rw [modifierEvent]
            cases current.isPressed bit <;> rfl
          rw [List.filter_singleton, changed]
          change (before.apply _).keys = _ ∧ ∀ other < 8,
            (before.apply _).modifiers.getLsbD other = _
          rw [event]
          refine ⟨keys, fun other inside => ?_⟩
          rw [getLsbD_setModifier _ _ small inside, settled other inside,
            isPressed_eq _ small]
          by_cases here : other = bit
          · rw [if_pos here, here, if_pos (Nat.lt_succ_self bit)]
          · simp only [Nat.lt_succ_iff_lt_or_eq, here, or_false, if_false]

theorem apply_releases (gone : List UInt8) :
    (gone.map releaseEvent).foldl PressedKeys.apply state =
      ⟨state.modifiers, state.keys \ gone.toFinset⟩ := by
  induction gone generalizing state with
  | nil => simp
  | cons key rest ih =>
      rw [List.map_cons, List.foldl_cons, ih]
      congr 1
      ext other
      simp [releaseEvent, PressedKeys.apply]
      tauto

theorem apply_presses (come : List UInt8) :
    (come.map pressEvent).foldl PressedKeys.apply state =
      ⟨state.modifiers, come.toFinset ∪ state.keys⟩ := by
  induction come generalizing state with
  | nil => simp
  | cons key rest ih =>
      rw [List.map_cons, List.foldl_cons, ih]
      congr 1
      ext other
      simp [pressEvent, PressedKeys.apply]

def changes (current previous : BootKeyboardReport) : List InputEvent :=
  ((List.range 8).filter (current.differs previous)).map
      current.modifierEvent ++
    (previous.keys.toList.filter current.lacks).map releaseEvent ++
      (current.keys.toList.filter previous.lacks).map pressEvent

theorem apply_changes (current previous : BootKeyboardReport) :
    (current.changes previous).foldl PressedKeys.apply previous.pressed =
      current.pressed := by
  obtain ⟨keys, modifiers⟩ :=
    @apply_modifiers current previous 8 (Nat.le_refl 8)
  rw [changes, List.foldl_append, List.foldl_append, apply_releases,
    apply_presses, keys]
  apply PressedKeys.mk.injEq .. |>.mpr
  constructor
  · apply BitVec.eq_of_getLsbD_eq
    intro other inside
    rw [modifiers other inside, if_pos inside]
  · ext key
    simp [pressed, lacks, containsKey]
    tauto

theorem length_changes :
    (current.changes previous).length = current.changeCount previous := by
  simp only [changes, changeCount, List.length_append, List.length_map,
    List.countP_eq_length_filter]

theorem diffInto_ok {events after : BootKeyboardEvents} :
    current.diffInto previous events = .ok after ↔
      after.toList = current.changes previous := by
  simp only [diffInto, bind_eq_ok, BootKeyboardEvents.pushEach_ok]
  constructor
  · rintro ⟨first, modifiers, second, releases, presses⟩
    rw [presses, releases, modifiers]
    rfl
  · intro lists
    have bound := after.length_le
    rw [lists, changes, List.length_append] at bound
    have room := Nat.le_trans (Nat.le_add_right _ _) bound
    refine ⟨⟨_, ?_⟩, rfl, ⟨_, room⟩, rfl, lists⟩
    rw [List.length_append] at room
    exact Nat.le_trans (Nat.le_add_right _ _) room

/-- A diff succeeds and leads from one report to the other exactly when its
events fit the buffer. -/
theorem diff_complete_iff (current previous : BootKeyboardReport)
    (events : BootKeyboardEvents) :
    (∃ after, current.diffInto previous events = .ok after ∧
      after.toList.foldl PressedKeys.apply previous.pressed = current.pressed) ↔
      current.changeCount previous ≤ maxBootKeyboardEvents := by
  rw [← length_changes]
  constructor
  · rintro ⟨after, diffed, -⟩
    rw [← diffInto_ok.mp diffed]
    exact after.length_le
  · intro fits
    exact ⟨⟨_, fits⟩, diffInto_ok.mpr rfl, apply_changes current previous⟩

/-- Six keys go, six others come and all modifiers are pressed. -/
theorem diff_incomplete :
    ¬ ∀ (current previous : BootKeyboardReport) (events : BootKeyboardEvents),
      ∃ after, current.diffInto previous events = .ok after ∧
        after.toList.foldl PressedKeys.apply previous.pressed =
          current.pressed := by
  intro complete
  obtain ⟨after, diffed, -⟩ := complete
    ⟨0xff, ⟨#[4, 5, 6, 7, 8, 9], rfl⟩⟩ ⟨0, ⟨#[10, 11, 12, 13, 14, 15], rfl⟩⟩
    .empty
  have bound := after.length_le
  rw [diffInto_ok.mp diffed] at bound
  revert bound
  decide

end BootKeyboardReport

end HidShift
