import HidShift.Input.KeyboardSpec
import HidShift.Input.State

/-! HID reports sent to a computer (`reports/`), byte for byte. -/

namespace HidShift

inductive ReportKind
  | keyboard
  | mouse
  | consumer
  | keyboardOutput
deriving DecidableEq, Repr

def keyboard6KroKeyCapacity : Nat := 6

structure Keyboard6KroReport where
  bytes : Vector UInt8 8
deriving DecidableEq

structure KeyboardReportBuild where
  report : Keyboard6KroReport
  truncated : Bool

namespace Keyboard6KroReport

def release : Keyboard6KroReport := ⟨Vector.replicate 8 0⟩

/-- Writes the unsuppressed keys into the six key bytes; `visible` counts
them, also those that no longer fit. -/
def fillKeys (suppressed : KeyUsage → Bool) :
    List KeyUsage → (visible : Nat) → Vector UInt8 8 → Vector UInt8 8 × Nat
  | [], visible, bytes => (bytes, visible)
  | key :: rest, visible, bytes =>
      if suppressed key then
        fillKeys suppressed rest visible bytes
      else if room : visible < keyboard6KroKeyCapacity then
        fillKeys suppressed rest (visible + 1)
          (bytes.set (2 + visible) key.val
            (by unfold keyboard6KroKeyCapacity at room; omega))
      else
        fillKeys suppressed rest (visible + 1) bytes

def withModifiers (modifiers : ModifierState) : Vector UInt8 8 :=
  (Vector.replicate 8 0).set 0 (.ofBitVec modifiers)

def fromPhysicalState (state : PhysicalKeyboardState)
    (suppression : KeyboardSuppression) : KeyboardReportBuild :=
  let (bytes, visible) := fillKeys suppression.containsKey state.keys.toList 0
    (withModifiers (state.modifiers &&& ~~~suppression.modifiers))
  ⟨⟨bytes⟩, visible > keyboard6KroKeyCapacity⟩

def fromVisibleState (state : VisibleKeyboardState) : KeyboardReportBuild :=
  let (bytes, visible) := fillKeys (fun _ => false) state.keys.toList 0
    (withModifiers state.modifiers)
  ⟨⟨bytes⟩, state.truncated || visible > keyboard6KroKeyCapacity⟩

def modifiers (report : Keyboard6KroReport) : ModifierState :=
  report.bytes[0].toBitVec

/-- The report shows a key as pressed.  Usage 0 marks an unused key byte. -/
def Carries (report : Keyboard6KroReport) (key : KeyUsage) : Prop :=
  key.val ≠ 0 ∧ ∃ position : Fin 6, report.bytes[2 + position.val] = key.val

instance (report : Keyboard6KroReport) (key : KeyUsage) :
    Decidable (report.Carries key) :=
  inferInstanceAs (Decidable (_ ∧ _))

end Keyboard6KroReport

structure MouseReport where
  bytes : Vector UInt8 7
deriving DecidableEq

namespace MouseReport

def fromFrame (buttons : MouseButtons) (movement : MouseMovement) :
    MouseReport :=
  let x := movement.x.toBitVec
  let y := movement.y.toBitVec
  ⟨#v[.ofBitVec buttons.bits,
    .ofBitVec (x.setWidth 8), .ofBitVec ((x >>> 8).setWidth 8),
    .ofBitVec (y.setWidth 8), .ofBitVec ((y >>> 8).setWidth 8),
    movement.wheel.toUInt8, movement.pan.toUInt8]⟩

def releaseButtons : MouseReport := ⟨Vector.replicate 7 0⟩

def buttons (report : MouseReport) : BitVec 8 := report.bytes[0].toBitVec

def movement (report : MouseReport) : MouseMovement where
  x := .ofBitVec (report.bytes[2].toBitVec ++ report.bytes[1].toBitVec)
  y := .ofBitVec (report.bytes[4].toBitVec ++ report.bytes[3].toBitVec)
  wheel := report.bytes[5].toInt8
  pan := report.bytes[6].toInt8

@[simp] theorem buttons_fromFrame (buttons : MouseButtons)
    (movement : MouseMovement) :
    (fromFrame buttons movement).buttons = buttons.bits := rfl

@[simp] theorem buttons_releaseButtons : releaseButtons.buttons = 0 := rfl

end MouseReport

structure ConsumerReport where
  bytes : Vector UInt8 2
deriving DecidableEq

namespace ConsumerReport

def fromUsage (usage : ConsumerUsage) : ConsumerReport :=
  ⟨#v[usage.val.toUInt8, (usage.val >>> 8).toUInt8]⟩

def release : ConsumerReport := ⟨#v[0, 0]⟩

/-- The report shows a usage as pressed.  Usage 0 means that none is. -/
def Carries (report : ConsumerReport) (usage : ConsumerUsage) : Prop :=
  usage.val ≠ 0 ∧ report = fromUsage usage

instance (report : ConsumerReport) (usage : ConsumerUsage) :
    Decidable (report.Carries usage) :=
  inferInstanceAs (Decidable (_ ∧ _))

end ConsumerReport

inductive StandardHidReport
  | keyboard (report : Keyboard6KroReport)
  | mouse (report : MouseReport)
  | consumer (report : ConsumerReport)
deriving DecidableEq

namespace StandardHidReport

def kind : StandardHidReport → ReportKind
  | .keyboard _ => .keyboard
  | .mouse _ => .mouse
  | .consumer _ => .consumer

def IsNeutral : StandardHidReport → Prop
  | .keyboard report => report = .release
  | .mouse report => report = .releaseButtons
  | .consumer report => report = .release

end StandardHidReport

namespace Keyboard6KroReport

section

variable {suppressed : KeyUsage → Bool} {key : KeyUsage}
  (rest : List KeyUsage) (visible : Nat) (bytes : Vector UInt8 8)

theorem fillKeys_hidden (hidden : suppressed key = true) :
    fillKeys suppressed (key :: rest) visible bytes =
      fillKeys suppressed rest visible bytes := by
  simp [fillKeys, hidden]

theorem fillKeys_shown (shown : suppressed key = false) (room : visible < 6) :
    fillKeys suppressed (key :: rest) visible bytes =
      fillKeys suppressed rest (visible + 1)
        (bytes.set (2 + visible) key.val) := by
  simp [fillKeys, shown, keyboard6KroKeyCapacity, room]

theorem fillKeys_full (shown : suppressed key = false) (full : ¬ visible < 6) :
    fillKeys suppressed (key :: rest) visible bytes =
      fillKeys suppressed rest (visible + 1) bytes := by
  simp [fillKeys, shown, keyboard6KroKeyCapacity, full]

end

section

variable (suppressed : KeyUsage → Bool) (keys : List KeyUsage) (visible : Nat)
    (bytes : Vector UInt8 8)

theorem fillKeys_modifiers :
    (fillKeys suppressed keys visible bytes).1[0] = bytes[0] := by
  induction keys generalizing visible bytes with
  | nil => rfl
  | cons head tail ih =>
      cases hidden : suppressed head with
      | true => rw [fillKeys_hidden tail visible bytes hidden, ih]
      | false =>
          by_cases room : visible < 6
          · rw [fillKeys_shown tail visible bytes hidden room, ih]
            exact Vector.getElem_set_ne _ _ (by omega)
          · rw [fillKeys_full tail visible bytes hidden room, ih]

/-- The key bytes hold the unsuppressed keys in press order from the byte the
fill starts at; the other bytes are left alone. -/
theorem fillKeys_byte (position : Nat) (bound : position < 6) :
    (fillKeys suppressed keys visible bytes).1[2 + position] =
      if position < visible then bytes[2 + position]
      else (((keys.filter fun key => !suppressed key)[position - visible]?).map
        KeyUsage.val).getD bytes[2 + position] := by
  induction keys generalizing visible bytes with
  | nil => simp [fillKeys]
  | cons head tail ih =>
      cases hidden : suppressed head with
      | true =>
          rw [fillKeys_hidden tail visible bytes hidden, ih,
            List.filter_cons_of_neg (by simp [hidden])]
      | false =>
          rw [List.filter_cons_of_pos (by simp [hidden])]
          by_cases earlier : position < visible
          · rw [if_pos earlier]
            by_cases room : visible < 6
            · rw [fillKeys_shown tail visible bytes hidden room, ih,
                if_pos (by omega)]
              exact Vector.getElem_set_ne _ _ (by omega)
            · rw [fillKeys_full tail visible bytes hidden room, ih,
                if_pos (by omega)]
          · have room : visible < 6 := by omega
            rw [if_neg earlier, fillKeys_shown tail visible bytes hidden room,
              ih]
            by_cases here : position = visible
            · subst here
              rw [if_pos (by omega), Nat.sub_self]
              simp
            · have later : position - visible =
                  position - (visible + 1) + 1 := by omega
              rw [if_neg (by omega), later, List.getElem?_cons_succ,
                Vector.getElem_set_ne _ _ (by omega)]

theorem fillKeys_count :
    (fillKeys suppressed keys visible bytes).2 =
      visible + (keys.filter fun key => !suppressed key).length := by
  induction keys generalizing visible bytes with
  | nil => rfl
  | cons head tail ih =>
      cases hidden : suppressed head with
      | true =>
          rw [fillKeys_hidden tail visible bytes hidden, ih,
            List.filter_cons_of_neg (by simp [hidden])]
      | false =>
          rw [List.filter_cons_of_pos (by simp [hidden]), List.length_cons]
          by_cases room : visible < 6
          · rw [fillKeys_shown tail visible bytes hidden room, ih]
            omega
          · rw [fillKeys_full tail visible bytes hidden room, ih]
            omega

end

theorem truncated_fromPhysicalState (state : PhysicalKeyboardState)
    (suppression : KeyboardSuppression) :
    (fromPhysicalState state suppression).truncated =
      decide ((state.keys.toList.filter fun key =>
        !suppression.containsKey key).length > keyboard6KroKeyCapacity) := by
  simp only [fromPhysicalState]
  rw [fillKeys_count, Nat.zero_add]

private theorem carries_fillKeys (suppressed : KeyUsage → Bool)
    (keys : List KeyUsage) (modifiers : ModifierState) (key : KeyUsage) :
    Carries ⟨(fillKeys suppressed keys 0 (withModifiers modifiers)).1⟩ key ↔
      key.val ≠ 0 ∧
        key ∈ (keys.filter fun key => !suppressed key).take 6 := by
  apply and_congr_right
  intro used
  have blank : ∀ position : Fin 6,
      (withModifiers modifiers)[2 + position.val] = 0 := by
    intro position
    rw [withModifiers, Vector.getElem_set_ne _ _ (by omega),
      Vector.getElem_replicate]
  constructor
  · rintro ⟨position, byte⟩
    change (fillKeys suppressed keys 0 (withModifiers modifiers)).1[_] = _
      at byte
    rw [fillKeys_byte _ _ _ _ _ position.isLt, if_neg (Nat.not_lt_zero _),
      Nat.sub_zero, blank position] at byte
    cases stored :
        (keys.filter fun key => !suppressed key)[position.val]? with
    | none =>
        rw [stored] at byte
        exact absurd byte.symm used
    | some found =>
        rw [stored] at byte
        have same : found = key := by
          cases found
          cases key
          exact congrArg KeyUsage.mk byte
        subst same
        exact List.mem_take_iff_getElem.mpr ⟨position.val, by
          have bound := (List.getElem?_eq_some_iff.mp stored).1
          have := position.isLt
          omega, (List.getElem?_eq_some_iff.mp stored).2⟩
  · intro member
    obtain ⟨position, bound, stored⟩ := List.mem_take_iff_getElem.mp member
    have inReport : position < 6 := by omega
    refine ⟨⟨position, inReport⟩, ?_⟩
    change (fillKeys suppressed keys 0 (withModifiers modifiers)).1[_] = _
    rw [fillKeys_byte _ _ _ _ _ inReport, if_neg (Nat.not_lt_zero _),
      Nat.sub_zero, List.getElem?_eq_getElem (by omega), stored]
    rfl

theorem carries_fromPhysicalState (state : PhysicalKeyboardState)
    (suppression : KeyboardSuppression) (key : KeyUsage) :
    (fromPhysicalState state suppression).report.Carries key ↔
      key.val ≠ 0 ∧ key ∈ (state.keys.toList.filter fun key =>
        !suppression.containsKey key).take 6 :=
  carries_fillKeys _ _ _ key

theorem carries_fromVisibleState (state : VisibleKeyboardState)
    (key : KeyUsage) :
    (fromVisibleState state).report.Carries key ↔
      key.val ≠ 0 ∧ key ∈ state.keys.toList.take 6 := by
  have all : (state.keys.toList.filter fun _ => !false) =
      state.keys.toList := List.filter_true _
  have carried := carries_fillKeys (fun _ => false) state.keys.toList
    state.modifiers key
  rw [all] at carried
  exact carried

theorem modifiers_fillKeys (suppressed : KeyUsage → Bool)
    (keys : List KeyUsage) (held : ModifierState) :
    modifiers ⟨(fillKeys suppressed keys 0 (withModifiers held)).1⟩ =
      held := by
  simp only [modifiers]
  change (fillKeys suppressed keys 0 (withModifiers held)).1[0].toBitVec = _
  rw [fillKeys_modifiers, withModifiers, Vector.getElem_set_self]

@[simp] theorem modifiers_fromPhysicalState (state : PhysicalKeyboardState)
    (suppression : KeyboardSuppression) :
    (fromPhysicalState state suppression).report.modifiers =
      state.modifiers &&& ~~~suppression.modifiers :=
  modifiers_fillKeys _ _ _

@[simp] theorem modifiers_fromVisibleState (state : VisibleKeyboardState) :
    (fromVisibleState state).report.modifiers = state.modifiers :=
  modifiers_fillKeys _ _ _

@[simp] theorem modifiers_release : release.modifiers = 0 := rfl

theorem not_carries_release (key : KeyUsage) : ¬ release.Carries key := by
  rintro ⟨used, position, byte⟩
  apply used
  rw [← byte]
  exact Vector.getElem_replicate (by omega)

end Keyboard6KroReport

namespace ConsumerReport

theorem fromUsage_injective (same : fromUsage left = fromUsage right) :
    left = right := by
  have bytes : (fromUsage left).bytes = (fromUsage right).bytes :=
    congrArg ConsumerReport.bytes same
  have low : left.val.toUInt8 = right.val.toUInt8 :=
    congrArg (fun bytes => bytes[0]) bytes
  have high : (left.val >>> 8).toUInt8 = (right.val >>> 8).toUInt8 :=
    congrArg (fun bytes => bytes[1]) bytes
  have lowNat := congrArg UInt8.toNat low
  have highNat := congrArg UInt8.toNat high
  have leftBound := left.val.toNat_lt
  have rightBound := right.val.toNat_lt
  have eight : (8 : UInt16).toNat % 16 = 8 := rfl
  simp only [UInt16.toNat_toUInt8, UInt16.toNat_shiftRight, eight,
    Nat.shiftRight_eq_div_pow] at lowNat highNat
  have value : left.val = right.val := UInt16.toNat_inj.mp (by omega)
  cases left
  cases right
  exact congrArg ConsumerUsage.mk value

theorem not_carries_release (usage : ConsumerUsage) :
    ¬ release.Carries usage := by
  rintro ⟨used, same⟩
  have zero : release = fromUsage ⟨0⟩ := rfl
  rw [zero] at same
  exact used (congrArg ConsumerUsage.val (fromUsage_injective same)).symm

theorem carries_fromUsage (carries : (fromUsage usage).Carries carried) :
    carried = usage :=
  (fromUsage_injective carries.2).symm

end ConsumerReport

namespace Keyboard6KroReport

def placeKeys : List KeyUsage → (index : Nat) → Vector UInt8 8 →
    (truncated : Bool) → Vector UInt8 8 × Bool
  | [], _, bytes, truncated => (bytes, truncated)
  | key :: rest, index, bytes, truncated =>
      if room : index < keyboard6KroKeyCapacity then
        placeKeys rest (index + 1)
          (bytes.set (2 + index) key.val
            (by unfold keyboard6KroKeyCapacity at room; omega)) truncated
      else
        placeKeys rest (index + 1) bytes true

/-- `from_visible_state` with its own loop. -/
def placeVisibleState (state : VisibleKeyboardState) : KeyboardReportBuild :=
  let (bytes, truncated) := placeKeys state.keys.toList 0
    (withModifiers state.modifiers) state.truncated
  ⟨⟨bytes⟩, truncated⟩

theorem placeKeys_eq (keys : List KeyUsage) (index : Nat)
    (bytes : Vector UInt8 8) (truncated : Bool)
    (flagged : keyboard6KroKeyCapacity < index → truncated = true) :
    placeKeys keys index bytes truncated =
      ((fillKeys (fun _ => false) keys index bytes).1,
        truncated ||
          decide (index + keys.length > keyboard6KroKeyCapacity)) := by
  induction keys generalizing index bytes truncated with
  | nil =>
      apply Prod.ext
      · rfl
      · show truncated = (truncated || decide (keyboard6KroKeyCapacity < index))
        by_cases outside : keyboard6KroKeyCapacity < index
        · rw [flagged outside, Bool.true_or]
        · rw [decide_eq_false outside, Bool.or_false]
  | cons head tail ih =>
      rw [List.length_cons, Nat.add_comm tail.length, ← Nat.add_assoc]
      by_cases room : index < keyboard6KroKeyCapacity
      · rw [placeKeys, dif_pos room, fillKeys_shown tail index bytes rfl room]
        apply ih
        intro outside
        omega
      · -- From here on the flag is up, and the keys are too many.
        rw [placeKeys, dif_neg room, fillKeys_full tail index bytes rfl room,
          ih _ _ _ fun _ => rfl, decide_eq_true (by omega), Bool.true_or,
          Bool.or_true]

theorem fromVisibleState_eq_place (state : VisibleKeyboardState) :
    fromVisibleState state = placeVisibleState state := by
  unfold fromVisibleState placeVisibleState
  rw [placeKeys_eq _ _ _ _ (fun outside => by cases outside)]
  simp only [fillKeys_count, List.filter_true, Bool.not_false]

theorem fillKeys_filter (suppressed : KeyUsage → Bool) (keys : List KeyUsage)
    (visible : Nat) (bytes : Vector UInt8 8) :
    fillKeys suppressed keys visible bytes =
      fillKeys (fun _ => false) (keys.filter fun key => !suppressed key)
        visible bytes := by
  induction keys generalizing visible bytes with
  | nil => rfl
  | cons head tail ih =>
      cases hidden : suppressed head with
      | true =>
          rw [fillKeys_hidden tail visible bytes hidden, ih,
            List.filter_cons_of_neg (by simp [hidden])]
      | false =>
          rw [List.filter_cons_of_pos (by simp [hidden])]
          by_cases room : visible < 6
          · rw [fillKeys_shown tail visible bytes hidden room, ih,
              fillKeys_shown _ visible bytes rfl room]
          · rw [fillKeys_full tail visible bytes hidden room, ih,
              fillKeys_full _ visible bytes rfl room]

def shownKeys (state : PhysicalKeyboardState)
    (suppression : KeyboardSuppression) : List UInt8 :=
  (state.keys.toList.filter fun key =>
    !suppression.containsKey key).map KeyUsage.val

/-- Building a report in one step or in two gives the same, and without
truncation the key bytes are the unsuppressed keys in press order. -/
theorem report_builds_agree (state : PhysicalKeyboardState)
    (suppression : KeyboardSuppression) :
    fromPhysicalState state suppression =
        placeVisibleState (state.visibleAgainst suppression) ∧
      ((fromPhysicalState state suppression).truncated = false →
        (fromPhysicalState state suppression).report.bytes.toList.drop 2 =
          shownKeys state suppression ++ List.replicate
            (keyboard6KroKeyCapacity -
              (shownKeys state suppression).length) 0) := by
  constructor
  · obtain ⟨modifiers, untruncated, keys⟩ :=
      visibleAgainst_spec state suppression
    rw [← fromVisibleState_eq_place]
    unfold fromPhysicalState fromVisibleState
    rw [modifiers, untruncated, keys, fillKeys_filter]
    rfl
  · intro untruncated
    rw [truncated_fromPhysicalState, decide_eq_false_iff_not, Nat.not_lt,
      keyboard6KroKeyCapacity] at untruncated
    apply List.ext_getElem
    · simp [shownKeys, keyboard6KroKeyCapacity]
      omega
    · intro position inside _
      have inReport : position < 6 := by simpa using inside
      have byte := fillKeys_byte suppression.containsKey state.keys.toList 0
        (withModifiers (state.modifiers &&& ~~~suppression.modifiers))
        position inReport
      have blank : (withModifiers (state.modifiers &&&
          ~~~suppression.modifiers))[2 + position] = 0 := by
        unfold withModifiers
        rw [Vector.getElem_set_ne _ _ (by omega), Vector.getElem_replicate]
      rw [List.getElem_drop, Vector.getElem_toList, List.getElem_append]
      change (fillKeys _ _ _ _).1[2 + position] = _
      rw [byte, if_neg (Nat.not_lt_zero _), Nat.sub_zero, blank]
      by_cases held : position < (shownKeys state suppression).length
      · rw [dif_pos held]
        rw [shownKeys, List.length_map] at held
        simp only [shownKeys, List.getElem_map]
        rw [List.getElem?_eq_getElem held]
        rfl
      · rw [dif_neg held, List.getElem_replicate]
        rw [shownKeys, List.length_map, Nat.not_lt] at held
        rw [List.getElem?_eq_none held]
        rfl

end Keyboard6KroReport

end HidShift
