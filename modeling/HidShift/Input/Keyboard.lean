import HidShift.Lib.BoundedVec
import HidShift.Lib.OrderedUnion

/-! Held keys and their suppression (`input/keyboard.rs`).  Key lists are kept
in press order. -/

namespace HidShift

open Lib

inductive InputError
  | keyCapacity
  | deviceCapacity
  | vendorPayloadCapacity
deriving DecidableEq, Repr

def physicalKeyboardKeyCapacity : Nat := 32

structure KeyUsage where
  val : UInt8
deriving DecidableEq, Repr

abbrev ModifierState := BitVec 8

abbrev KeyVec := BoundedVec KeyUsage physicalKeyboardKeyCapacity

theorem KeyVec.single_fits (key : UInt8) :
    [KeyUsage.mk key].length ≤ physicalKeyboardKeyCapacity :=
  Nat.le_add_left 1 31

theorem KeyVec.single_nodup (key : UInt8) : [KeyUsage.mk key].Nodup :=
  List.nodup_singleton _

/-- Pushes key by key, as the `push(..).map_err(..)?` loops do. -/
def extendKeys (keys : KeyVec) (values : List KeyUsage) :
    Except InputError KeyVec :=
  match keys.extend? values with
  | some extended => .ok extended
  | none => .error .keyCapacity

/-- One keyboard snapshot.  `push_key` is the only way to add a key, so no
key occurs twice. -/
structure KeyboardFrame where
  modifiers : ModifierState
  keysDown : KeyVec
  nodup : keysDown.toList.Nodup
deriving DecidableEq

namespace KeyboardFrame

def new (modifiers : ModifierState) : KeyboardFrame :=
  ⟨modifiers, .empty, List.nodup_nil⟩

def pushKey (frame : KeyboardFrame) (key : KeyUsage) :
    Except InputError KeyboardFrame :=
  if absent : key ∉ frame.keysDown.toList then
    match pushed : frame.keysDown.push? key with
    | some keys => .ok ⟨frame.modifiers, keys, by
        rw [BoundedVec.push?_eq_some.mp pushed]
        exact List.nodup_append.mpr ⟨frame.nodup, List.nodup_singleton key,
          fun _ left _ right same =>
            absent (List.mem_singleton.mp right ▸ same ▸ left)⟩⟩
    | none => .error .keyCapacity
  else
    .ok frame

end KeyboardFrame

structure KeyboardSuppression where
  modifiers : ModifierState
  keys : KeyVec
deriving DecidableEq

structure PhysicalKeyboardState where
  modifiers : ModifierState
  keys : KeyVec
deriving DecidableEq

structure VisibleKeyboardState where
  modifiers : ModifierState
  keys : KeyVec
  truncated : Bool

namespace KeyboardSuppression

def new : KeyboardSuppression := ⟨0, .empty⟩

def containsKey (suppression : KeyboardSuppression) (key : KeyUsage) : Bool :=
  key ∈ suppression.keys

def releaseKey (suppression : KeyboardSuppression) (key : KeyUsage) :
    KeyboardSuppression :=
  { suppression with keys := suppression.keys.erase key }

def captureFrom (state : PhysicalKeyboardState) :
    Except InputError KeyboardSuppression := do
  let keys ← extendKeys .empty state.keys.toList
  return ⟨state.modifiers, keys⟩

def retainPressedBy (suppression : KeyboardSuppression)
    (state : PhysicalKeyboardState) : KeyboardSuppression :=
  ⟨suppression.modifiers &&& state.modifiers,
    suppression.keys.retain fun key => key ∈ state.keys⟩

/-- The loop of `suppress_visible_after`: `visible` counts the keys shown so
far, `added` the keys newly suppressed. -/
def suppressVisibleAfterLoop (limit : Nat) :
    List KeyUsage → KeyboardSuppression → (visible added : Nat) →
      Except InputError (KeyboardSuppression × Nat)
  | [], suppression, _, added => .ok (suppression, added)
  | key :: rest, suppression, visible, added =>
      if suppression.containsKey key then
        suppressVisibleAfterLoop limit rest suppression visible added
      else if visible < limit then
        suppressVisibleAfterLoop limit rest suppression (visible + 1) added
      else
        match suppression.keys.push? key with
        | some keys =>
            suppressVisibleAfterLoop limit rest
              { suppression with keys := keys } visible (added + 1)
        | none => .error .keyCapacity

/-- Keys beyond `limit` stay suppressed until their physical release. -/
def suppressVisibleAfter (suppression : KeyboardSuppression)
    (state : PhysicalKeyboardState) (limit : Nat) :
    Except InputError (KeyboardSuppression × Nat) :=
  suppressVisibleAfterLoop limit state.keys.toList suppression 0 0

end KeyboardSuppression

namespace PhysicalKeyboardState

def new : PhysicalKeyboardState := ⟨0, .empty⟩

def containsKey (state : PhysicalKeyboardState) (key : KeyUsage) : Bool :=
  key ∈ state.keys

def pressKey (state : PhysicalKeyboardState) (key : KeyUsage) :
    Except InputError PhysicalKeyboardState :=
  if state.containsKey key then
    .ok state
  else
    match state.keys.push? key with
    | some keys => .ok { state with keys := keys }
    | none => .error .keyCapacity

def pressKeys (state : PhysicalKeyboardState) (keys : List KeyUsage) :
    Except InputError PhysicalKeyboardState :=
  keys.foldlM pressKey state

/-- Replaces the held keys.  Keys missing from the snapshot leave the state
and the suppression; keys that stay keep their place; new keys go last. -/
def applySnapshot (state : PhysicalKeyboardState) (modifiers : ModifierState)
    (keysDown : List KeyUsage) (suppression : KeyboardSuppression) :
    Except InputError (PhysicalKeyboardState × KeyboardSuppression) := do
  let released := state.keys.toList.filter fun key => key ∉ keysDown
  let kept : PhysicalKeyboardState :=
    ⟨modifiers, state.keys.retain fun key => key ∈ keysDown⟩
  let pressed ← kept.pressKeys keysDown
  return (pressed,
    (released.foldl .releaseKey suppression).retainPressedBy pressed)

def applyFrame (state : PhysicalKeyboardState) (frame : KeyboardFrame)
    (suppression : KeyboardSuppression) :
    Except InputError (PhysicalKeyboardState × KeyboardSuppression) :=
  state.applySnapshot frame.modifiers frame.keysDown.toList suppression

def applyState (state next : PhysicalKeyboardState)
    (suppression : KeyboardSuppression) :
    Except InputError (PhysicalKeyboardState × KeyboardSuppression) :=
  state.applySnapshot next.modifiers next.keys.toList suppression

/-- The previous keys are cleared, so the old state does not matter. -/
def replaceWithFrame (frame : KeyboardFrame) :
    Except InputError PhysicalKeyboardState := do
  let keys ← extendKeys .empty frame.keysDown.toList
  return ⟨frame.modifiers, keys⟩

def visibleAgainst (state : PhysicalKeyboardState)
    (suppression : KeyboardSuppression) : VisibleKeyboardState :=
  state.keys.toList.foldl
    (fun visible key =>
      if suppression.containsKey key then
        visible
      else
        match visible.keys.push? key with
        | some keys => { visible with keys := keys }
        | none => { visible with truncated := true })
    ⟨state.modifiers &&& ~~~suppression.modifiers, .empty, false⟩

def toFrame (state : PhysicalKeyboardState) :
    Except InputError KeyboardFrame :=
  state.keys.toList.foldlM KeyboardFrame.pushKey (.new state.modifiers)

end PhysicalKeyboardState

theorem extendKeys_empty (keys : KeyVec) :
    extendKeys .empty keys.toList = .ok keys := by
  have extended : (BoundedVec.empty : KeyVec).extend? keys.toList = some keys :=
    BoundedVec.extend?_eq_some.mpr (List.nil_append _).symm
  simp [extendKeys, extended]

@[simp] theorem captureFrom_eq (state : PhysicalKeyboardState) :
    KeyboardSuppression.captureFrom state =
      .ok ⟨state.modifiers, state.keys⟩ := by
  simp only [KeyboardSuppression.captureFrom]
  rw [extendKeys_empty]
  rfl

@[simp] theorem replaceWithFrame_eq (frame : KeyboardFrame) :
    PhysicalKeyboardState.replaceWithFrame frame =
      .ok ⟨frame.modifiers, frame.keysDown⟩ := by
  simp only [PhysicalKeyboardState.replaceWithFrame]
  rw [extendKeys_empty]
  rfl

namespace PhysicalKeyboardState

open OrderedUnion

theorem ext_lists {left right : PhysicalKeyboardState}
    (modifiers : left.modifiers = right.modifiers)
    (keys : left.keys.toList = right.keys.toList) : left = right := by
  obtain ⟨leftModifiers, leftKeys⟩ := left
  obtain ⟨rightModifiers, rightKeys⟩ := right
  have sameKeys : leftKeys = rightKeys := BoundedVec.ext keys
  subst sameKeys
  subst modifiers
  rfl

theorem pressKey_eq_ok {state next : PhysicalKeyboardState} :
    state.pressKey key = .ok next ↔
      next.modifiers = state.modifiers ∧
        next.keys.toList = pushNew state.keys.toList key := by
  simp only [pressKey, pushNew, containsKey]
  simp only [decide_eq_true_eq, BoundedVec.mem_toList]
  split
  · constructor
    · intro same
      cases same
      exact ⟨rfl, rfl⟩
    · rintro ⟨sameModifiers, sameKeys⟩
      exact congrArg Except.ok (ext_lists sameModifiers.symm sameKeys.symm)
  · cases pushed : state.keys.push? key with
    | none =>
        constructor
        · intro impossible
          cases impossible
        · rintro ⟨-, lists⟩
          rw [BoundedVec.push?_eq_some.mpr lists] at pushed
          cases pushed
    | some keys =>
        have lists := BoundedVec.push?_eq_some.mp pushed
        constructor
        · intro same
          cases same
          exact ⟨rfl, lists⟩
        · rintro ⟨sameModifiers, sameKeys⟩
          exact congrArg Except.ok
            (ext_lists sameModifiers.symm (lists.trans sameKeys.symm))

theorem pressKeys_eq_ok {state next : PhysicalKeyboardState}
    {keys : List KeyUsage} :
    state.pressKeys keys = .ok next ↔
      next.modifiers = state.modifiers ∧
        next.keys.toList = unionInto state.keys.toList keys := by
  simp only [pressKeys]
  induction keys generalizing state with
  | nil =>
      constructor
      · intro same
        cases same
        exact ⟨rfl, rfl⟩
      · rintro ⟨sameModifiers, sameKeys⟩
        exact congrArg Except.ok (ext_lists sameModifiers.symm sameKeys.symm)
  | cons head tail ih =>
      rw [List.foldlM_cons, unionInto_cons]
      constructor
      · intro pressed
        cases first : state.pressKey head with
        | error error => simp [first, bind, Except.bind] at pressed
        | ok middle =>
            obtain ⟨sameModifiers, headKeys⟩ := pressKey_eq_ok.mp first
            simp only [first, bind, Except.bind] at pressed
            obtain ⟨restModifiers, restKeys⟩ := ih.mp pressed
            rw [headKeys] at restKeys
            exact ⟨restModifiers.trans sameModifiers, restKeys⟩
      · rintro ⟨sameModifiers, sameKeys⟩
        -- The first push fits because the final list fits and extends it.
        have room : (pushNew state.keys.toList head).length ≤
            physicalKeyboardKeyCapacity := by
          refine Nat.le_trans ?_ next.keys.length_le
          rw [sameKeys]
          exact (prefix_unionInto _ tail).length_le
        have first : state.pressKey head = .ok ⟨state.modifiers,
            ⟨pushNew state.keys.toList head, room⟩⟩ :=
          pressKey_eq_ok.mpr ⟨rfl, rfl⟩
        simp only [first, bind, Except.bind]
        exact ih.mpr ⟨sameModifiers, sameKeys⟩

end PhysicalKeyboardState

end HidShift
