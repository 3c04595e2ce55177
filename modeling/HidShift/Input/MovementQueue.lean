import HidShift.Ble.MouseAccumulator

/-! Mouse movement that waits for room in the runtime queue
(`input/movement_queue.rs`), summed for each interface. -/

namespace HidShift

open Lib

structure PendingMovement where
  deviceId : DeviceId
  interfaceId : InterfaceId
  buttons : MouseButtons
  x : Int
  y : Int
  wheel : Int
  pan : Int
  pending : Bool

/-- The counters of `mouse_accumulator.rs`, and below its sums. -/
abbrev UsbMovementCoalescerStats := MouseAccumulatorStats

inductive UsbMovementCoalescerError
  | notMovementOnly
  | interfaceCapacity
deriving Repr

structure UsbMovementCoalescer where
  pending : List PendingMovement
  stats : UsbMovementCoalescerStats

/-- `checked_add`, or `saturating_add` with a note in the statistics. -/
def addAxis (current delta : Int) (stats : UsbMovementCoalescerStats) :
    Int × UsbMovementCoalescerStats :=
  saturatingAdd current delta stats

namespace PendingMovement

def free : PendingMovement := ⟨⟨0⟩, ⟨0⟩, .empty, 0, 0, 0, 0, false⟩

def add (entry : PendingMovement) (movement : MouseMovement)
    (stats : UsbMovementCoalescerStats) :
    PendingMovement × UsbMovementCoalescerStats :=
  let (x, stats) := addAxis entry.x movement.x.toInt stats
  let (y, stats) := addAxis entry.y movement.y.toInt stats
  let (wheel, stats) := addAxis entry.wheel movement.wheel.toInt stats
  let (pan, stats) := addAxis entry.pan movement.pan.toInt stats
  ({ entry with x, y, wheel, pan }, stats)

/-- The part of the movement that one report carries, and what is left. -/
def take (entry : PendingMovement) : StandardInputFrame × PendingMovement :=
  let (moveX, x) := takeAxisI16 entry.x
  let (moveY, y) := takeAxisI16 entry.y
  let (moveWheel, wheel) := takeAxisI8 entry.wheel
  let (movePan, pan) := takeAxisI8 entry.pan
  ({ deviceId := entry.deviceId
     interfaceId := entry.interfaceId
     keyboard := none
     mouse := some ⟨entry.buttons, ⟨moveX, moveY, moveWheel, movePan⟩⟩
     consumer := none },
    { entry with
      x, y, wheel, pan
      pending := x != 0 || y != 0 || wheel != 0 || pan != 0 })

end PendingMovement

namespace UsbMovementCoalescer

def new (interfaces : Nat) : UsbMovementCoalescer :=
  ⟨List.replicate interfaces .free, ⟨0, 0⟩⟩

def indexFor (queue : UsbMovementCoalescer) (interfaceId : InterfaceId) :
    Option Nat :=
  (queue.pending.findIdx? fun entry =>
    entry.pending && entry.interfaceId = interfaceId).or
    (queue.pending.findIdx? fun entry => !entry.pending)

def pushAt (queue : UsbMovementCoalescer) (index : Nat)
    (entry : PendingMovement) (frame : StandardInputFrame)
    (mouse : MouseFrame) :
    Except UsbMovementCoalescerError UsbMovementCoalescer :=
  if entry.pending then
    if entry.deviceId ≠ frame.deviceId ∨ entry.buttons ≠ mouse.buttons then
      .error .notMovementOnly
    else
      let (entry, stats) := entry.add mouse.movement { queue.stats with
        reportsCoalesced := saturatingSucc queue.stats.reportsCoalesced }
      .ok ⟨queue.pending.set index entry, stats⟩
  else
    let (entry, stats) := { entry with
      deviceId := frame.deviceId
      interfaceId := frame.interfaceId
      buttons := mouse.buttons
      pending := true }.add mouse.movement queue.stats
    .ok ⟨queue.pending.set index entry, stats⟩

def push (queue : UsbMovementCoalescer) (frame : StandardInputFrame) :
    Except UsbMovementCoalescerError UsbMovementCoalescer :=
  match frame.mouse with
  | none => .error .notMovementOnly
  | some mouse =>
      if frame.keyboard ≠ none ∨ frame.consumer ≠ none ∨
          mouse.movement = .neutral then
        .error .notMovementOnly
      else
        match queue.indexFor frame.interfaceId with
        | none => .error .interfaceCapacity
        | some index =>
            match queue.pending[index]? with
            | none => .error .interfaceCapacity
            | some entry => queue.pushAt index entry frame mouse

/-- `push` on the queue in place; a refused frame throws. -/
def pushInPlace (frame : StandardInputFrame) :
    InPlace UsbMovementCoalescerError UsbMovementCoalescer Unit := do
  let some mouse := frame.mouse | throw .notMovementOnly
  if frame.keyboard ≠ none ∨ frame.consumer ≠ none ∨
      mouse.movement = .neutral then
    throw .notMovementOnly
  let some index := (← get).indexFor frame.interfaceId
    | throw .interfaceCapacity
  let some entry := (← get).pending[index]? | throw .interfaceCapacity
  if entry.pending then
    if entry.deviceId ≠ frame.deviceId ∨ entry.buttons ≠ mouse.buttons then
      throw .notMovementOnly
    modify fun queue =>
      { queue with stats := { queue.stats with
          reportsCoalesced := saturatingSucc queue.stats.reportsCoalesced } }
  else
    modify fun queue =>
      { queue with pending := queue.pending.set index { entry with
          deviceId := frame.deviceId
          interfaceId := frame.interfaceId
          buttons := mouse.buttons
          pending := true } }
  let some entry := (← get).pending[index]? | throw .interfaceCapacity
  modify fun queue =>
    let (entry, stats) := entry.add mouse.movement queue.stats
    ⟨queue.pending.set index entry, stats⟩

def takeNext (queue : UsbMovementCoalescer) :
    Option (StandardInputFrame × UsbMovementCoalescer) := do
  let index ← queue.pending.findIdx? PendingMovement.pending
  let entry ← queue.pending[index]?
  let (frame, left) := entry.take
  return (frame, { queue with pending := queue.pending.set index left })

end UsbMovementCoalescer

inductive MouseAxis
  | x
  | y
  | wheel
  | pan
deriving DecidableEq

namespace MouseMovement

def along (movement : MouseMovement) : MouseAxis → Int
  | .x => movement.x.toInt
  | .y => movement.y.toInt
  | .wheel => movement.wheel.toInt
  | .pan => movement.pan.toInt

end MouseMovement

def clampI32 (value : Int) : Int := max (-0x80000000) (min 0x7fffffff value)

theorem addAxis_fst (current delta : Int) (stats : UsbMovementCoalescerStats) :
    (addAxis current delta stats).1 = clampI32 (current + delta) := by
  simp only [addAxis, saturatingAdd, clampI32]
  split
  · omega
  · rfl

namespace PendingMovement

def along (entry : PendingMovement) : MouseAxis → Int
  | .x => entry.x
  | .y => entry.y
  | .wheel => entry.wheel
  | .pan => entry.pan

section

variable (entry : PendingMovement)

theorem add_same (movement : MouseMovement)
    (stats : UsbMovementCoalescerStats) :
    (entry.add movement stats).1.deviceId = entry.deviceId ∧
      (entry.add movement stats).1.interfaceId = entry.interfaceId ∧
      (entry.add movement stats).1.buttons = entry.buttons ∧
      (entry.add movement stats).1.pending = entry.pending :=
  ⟨rfl, rfl, rfl, rfl⟩

theorem along_add (movement : MouseMovement)
    (stats : UsbMovementCoalescerStats) (axis : MouseAxis) :
    (entry.add movement stats).1.along axis =
      clampI32 (entry.along axis + movement.along axis) := by
  cases axis <;> exact addAxis_fst ..

theorem takeAxisI16_sum (value : Int) :
    (takeAxisI16 value).1.toInt + (takeAxisI16 value).2 = value := by
  simp only [takeAxisI16, takeAxis]
  rw [Int16.toInt_ofInt_of_le (by omega) (by omega)]
  omega

theorem takeAxisI8_sum (value : Int) :
    (takeAxisI8 value).1.toInt + (takeAxisI8 value).2 = value := by
  simp only [takeAxisI8, takeAxis]
  rw [Int8.toInt_ofInt_of_le (by omega) (by omega)]
  omega

theorem along_take (axis : MouseAxis) :
    ∃ mouse, entry.take.1.mouse = some mouse ∧
      mouse.buttons = entry.buttons ∧
        mouse.movement.along axis + entry.take.2.along axis =
          entry.along axis := by
  refine ⟨_, rfl, rfl, ?_⟩
  cases axis with
  | x => exact takeAxisI16_sum entry.x
  | y => exact takeAxisI16_sum entry.y
  | wheel => exact takeAxisI8_sum entry.wheel
  | pan => exact takeAxisI8_sum entry.pan

theorem take_same :
    entry.take.2.deviceId = entry.deviceId ∧
      entry.take.2.interfaceId = entry.interfaceId ∧
      entry.take.2.buttons = entry.buttons :=
  ⟨rfl, rfl, rfl⟩

end

theorem along_of_done {entry : PendingMovement}
    (done : entry.take.2.pending = false) (axis : MouseAxis) :
    entry.take.2.along axis = 0 := by
  simp only [take, Bool.or_eq_false_iff, bne_eq_false_iff_eq] at done
  cases axis <;> simp [along, take, done]

/-- The entry as the accumulator of the BLE lanes has it; it empties the same
way. -/
def state (entry : PendingMovement) : PendingMouseState :=
  ⟨entry.buttons.bits, entry.x, entry.y, entry.wheel, entry.pan, entry.pending⟩

def remaining (entry : PendingMovement) : Nat := entry.state.remaining

theorem remaining_take_lt {entry : PendingMovement}
    (pending : entry.pending = true) :
    entry.take.2.remaining < entry.remaining := by
  have same : entry.take.2.state = entry.state.takeReport.2 := rfl
  rw [remaining, same]
  exact @PendingMouseState.remaining_takeReport_lt entry.state pending

end PendingMovement

namespace UsbMovementCoalescer

def waiting (queue : UsbMovementCoalescer) : List PendingMovement :=
  queue.pending.filter PendingMovement.pending

def Clear (queue : UsbMovementCoalescer) : Prop :=
  ∀ entry ∈ queue.pending, entry.pending = false → ∀ axis, entry.along axis = 0

variable {entry : PendingMovement} {before after : List PendingMovement}
  {queue : UsbMovementCoalescer}

theorem waiting_split (split : queue.pending = before ++ entry :: after) :
    queue.waiting = before.filter PendingMovement.pending ++
      (if entry.pending then [entry] else []) ++
        after.filter PendingMovement.pending := by
  rw [waiting, split, List.filter_append, List.filter_cons, List.append_assoc]
  split <;> rfl

theorem waiting_set (before after : List PendingMovement)
    (old new : PendingMovement) (stats : UsbMovementCoalescerStats) :
    waiting ⟨(before ++ old :: after).set before.length new, stats⟩ =
      before.filter PendingMovement.pending ++
        (if new.pending then [new] else []) ++
          after.filter PendingMovement.pending := by
  apply waiting_split
  rw [List.set_append_right _ _ (Nat.le_refl _), Nat.sub_self]
  rfl

theorem clear_set {old new : PendingMovement}
    {stats stats' : UsbMovementCoalescerStats}
    (clear : Clear ⟨before ++ old :: after, stats⟩)
    (settled : new.pending = false → ∀ axis, new.along axis = 0) :
    Clear ⟨(before ++ old :: after).set before.length new, stats'⟩ := by
  intro entry member
  rcases List.mem_or_eq_of_mem_set member with earlier | rfl
  · exact clear entry earlier
  · exact settled

theorem takeNext_eq_none : queue.takeNext = none ↔ queue.waiting = [] := by
  cases found : queue.pending.findIdx? PendingMovement.pending with
  | none =>
      refine iff_of_true (by simp [takeNext, found]) ?_
      apply List.filter_eq_nil_iff.mpr
      simpa using List.findIdx?_eq_none_iff.mp found
  | some index =>
      obtain ⟨before, entry, after, split, rfl, here, _⟩ :=
        SlotTable.split_of_findIdx? found
      refine iff_of_false ?_ ?_
      · rw [takeNext, found, split]
        simp
      · rw [waiting_split split, if_pos here]
        simp

theorem takeNext_eq_some (clear : queue.Clear)
    (taken : queue.takeNext = some (frame, next)) :
    ∃ entry rest, queue.waiting = entry :: rest ∧
      frame = entry.take.1 ∧
      next.waiting =
        (if entry.take.2.pending then [entry.take.2] else []) ++ rest ∧
      next.Clear ∧ next.pending.length = queue.pending.length := by
  simp only [takeNext, Option.bind_eq_bind, Option.bind_eq_some_iff] at taken
  obtain ⟨index, found, entry, stored, same⟩ := taken
  obtain ⟨before, other, after, split, rfl, here, earlier⟩ :=
    SlotTable.split_of_findIdx? found
  rw [split, List.getElem?_append_right (Nat.le_refl _), Nat.sub_self,
    List.getElem?_cons_zero] at stored
  cases stored
  cases same
  have none : before.filter PendingMovement.pending = [] :=
    List.filter_eq_nil_iff.mpr fun value member => by
      rw [earlier value member]
      exact Bool.false_ne_true
  refine ⟨entry, after.filter PendingMovement.pending, ?_, rfl, ?_, ?_, ?_⟩
  · rw [waiting_split split, none, if_pos here]
    rfl
  · rw [split, waiting_set, none]
    rfl
  · rw [split]
    refine @clear_set before after entry _ queue.stats _ ?_
      PendingMovement.along_of_done
    rwa [Clear, ← split]
  · rw [List.length_set]

def start (frame : StandardInputFrame) (mouse : MouseFrame) :
    PendingMovement :=
  ⟨frame.deviceId, frame.interfaceId, mouse.buttons, 0, 0, 0, 0, true⟩

/-- The movement joins the entry of its interface, which has the same device
and buttons, or starts one. -/
structure Joined (queue joined : UsbMovementCoalescer)
    (frame : StandardInputFrame) (mouse : MouseFrame)
    (before after : List PendingMovement) (entry : PendingMovement) :
    Prop where
  waiting : queue.waiting = before ++ entry :: after ∧
      entry.interfaceId = frame.interfaceId ∧
      entry.deviceId = frame.deviceId ∧ entry.buttons = mouse.buttons ∨
    queue.waiting = before ++ after ∧ entry = start frame mouse ∧
      ∀ other ∈ queue.waiting, other.interfaceId ≠ frame.interfaceId
  added : ∃ stats, joined.waiting =
    before ++ (entry.add mouse.movement stats).1 :: after
  clear : joined.Clear
  length : joined.pending.length = queue.pending.length

theorem not_waiting
    (missing : (queue.pending.findIdx? fun entry => entry.pending &&
      entry.interfaceId = interfaceId) = none) :
    ∀ other ∈ queue.waiting, other.interfaceId ≠ interfaceId := by
  intro other member
  obtain ⟨listed, pending⟩ := List.mem_filter.mp member
  have unmatched := List.findIdx?_eq_none_iff.mp missing other listed
  simpa [pending] using unmatched

theorem indexFor_eq_some (found : queue.indexFor interfaceId = some index) :
    ∃ before entry after, queue.pending = before ++ entry :: after ∧
      before.length = index ∧
        (entry.pending = true ∧ entry.interfaceId = interfaceId ∨
          entry.pending = false ∧
            ∀ other ∈ queue.waiting, other.interfaceId ≠ interfaceId) := by
  simp only [indexFor] at found
  cases own : queue.pending.findIdx? fun entry =>
      entry.pending && entry.interfaceId = interfaceId with
  | some position =>
      rw [own, Option.some_or] at found
      cases found
      obtain ⟨before, entry, after, split, length, matched, _⟩ :=
        SlotTable.split_of_findIdx? own
      simp only [Bool.and_eq_true, decide_eq_true_eq] at matched
      exact ⟨before, entry, after, split, length, .inl matched⟩
  | none =>
      rw [own, Option.none_or] at found
      obtain ⟨before, entry, after, split, length, free, _⟩ :=
        SlotTable.split_of_findIdx? found
      exact ⟨before, entry, after, split, length,
        .inr ⟨by simpa using free, not_waiting own⟩⟩

theorem clear_add (movement : MouseMovement) (stats : UsbMovementCoalescerStats)
    (pending : entry.pending = true) :
    (entry.add movement stats).1.pending = false →
      ∀ axis, (entry.add movement stats).1.along axis = 0 := by
  intro done
  rw [(entry.add_same movement stats).2.2.2, pending] at done
  cases done

theorem start_of_clear (clear : queue.Clear) (listed : entry ∈ queue.pending)
    (free : entry.pending = false) (frame : StandardInputFrame)
    (mouse : MouseFrame) :
    { entry with
      deviceId := frame.deviceId
      interfaceId := frame.interfaceId
      buttons := mouse.buttons
      pending := true } = start frame mouse := by
  have x := clear entry listed free .x
  have y := clear entry listed free .y
  have wheel := clear entry listed free .wheel
  have pan := clear entry listed free .pan
  simp only [PendingMovement.along] at x y wheel pan
  rw [start, x, y, wheel, pan]

theorem pushAt_eq_ok (clear : queue.Clear)
    (split : queue.pending = before ++ entry :: after)
    (place : entry.pending = true ∧ entry.interfaceId = frame.interfaceId ∨
      entry.pending = false ∧ ∀ other ∈ queue.waiting, other.interfaceId ≠
      frame.interfaceId)
    (pushed : queue.pushAt before.length entry frame mouse = .ok next) :
    ∃ entry, queue.Joined next frame mouse
      (before.filter PendingMovement.pending)
      (after.filter PendingMovement.pending) entry := by
  have waiting := waiting_split split
  have clear' : Clear ⟨before ++ entry :: after, queue.stats⟩ := by
    rwa [Clear, ← split]
  rcases place with ⟨pending, interface⟩ | ⟨free, others⟩
  · rw [if_pos pending, List.append_assoc] at waiting
    simp only [pushAt, pending, ↓reduceIte, split] at pushed
    by_cases differs : entry.deviceId ≠ frame.deviceId ∨
        entry.buttons ≠ mouse.buttons
    · rw [if_pos differs] at pushed
      cases pushed
    · rw [if_neg differs] at pushed
      simp only [not_or, not_not] at differs
      cases pushed
      refine ⟨entry, .inl ⟨waiting, interface, differs⟩,
        ⟨{ queue.stats with
          reportsCoalesced := saturatingSucc queue.stats.reportsCoalesced },
          ?_⟩, clear_set clear' (clear_add _ _ pending), ?_⟩
      · rw [waiting_set, (entry.add_same _ _).2.2.2, if_pos pending,
          List.append_assoc]
        rfl
      · rw [List.length_set, split]
  · rw [if_neg (by simp [free]), List.append_nil] at waiting
    simp only [pushAt, free, Bool.false_eq_true, ↓reduceIte, split] at pushed
    rw [start_of_clear clear (by rw [split]; simp) free] at pushed
    cases pushed
    refine ⟨start frame mouse, .inr ⟨waiting, rfl, others⟩,
      ⟨queue.stats, ?_⟩, clear_set clear' (clear_add _ _ rfl), ?_⟩
    · have pending : (start frame mouse).pending = true := rfl
      rw [waiting_set, (PendingMovement.add_same _ _ _).2.2.2,
        if_pos pending, List.append_assoc]
      rfl
    · rw [List.length_set, split]

structure MovesOnly (frame : StandardInputFrame) (mouse : MouseFrame) :
    Prop where
  carried : frame.mouse = some mouse
  keyboard : frame.keyboard = none
  consumer : frame.consumer = none
  moves : mouse.movement ≠ .neutral

theorem push_of_movesOnly (only : MovesOnly frame mouse) :
    queue.push frame =
      match queue.indexFor frame.interfaceId with
      | none => .error .interfaceCapacity
      | some index =>
          match queue.pending[index]? with
          | none => .error .interfaceCapacity
          | some entry => queue.pushAt index entry frame mouse := by
  simp only [push, only.carried]
  rw [if_neg]
  simp [only.keyboard, only.consumer, only.moves]

theorem push_eq_ok (clear : queue.Clear)
    (pushed : queue.push frame = .ok next) :
    ∃ mouse before after entry, MovesOnly frame mouse ∧
      queue.Joined next frame mouse before after entry := by
  have only : ∃ mouse, MovesOnly frame mouse := by
    simp only [push] at pushed
    cases carried : frame.mouse with
    | none => simp [carried] at pushed
    | some mouse =>
        simp only [carried] at pushed
        split at pushed
        · cases pushed
        · rename_i only
          simp only [not_or, not_not] at only
          exact ⟨mouse, carried, only.1, only.2.1, only.2.2⟩
  obtain ⟨mouse, only⟩ := only
  rw [push_of_movesOnly only] at pushed
  cases found : queue.indexFor frame.interfaceId with
  | none => simp [found] at pushed
  | some index =>
      obtain ⟨before, entry, after, split, rfl, place⟩ :=
        indexFor_eq_some found
      rw [found, split] at pushed
      simp only [List.getElem?_append_right (Nat.le_refl _), Nat.sub_self,
        List.getElem?_cons_zero] at pushed
      obtain ⟨entry, joined⟩ := pushAt_eq_ok clear split place pushed
      exact ⟨mouse, _, _, entry, only, joined⟩

theorem pushInPlace_updates (frame : StandardInputFrame) :
    InPlace.Updates (pushInPlace frame) (push · frame) := by
  intro queue
  simp only [pushInPlace, push]
  cases carried : frame.mouse with
  | none => simp
  | some mouse =>
      by_cases other : frame.keyboard ≠ none ∨ frame.consumer ≠ none ∨
          mouse.movement = .neutral
      · simp only [if_pos other]
        simp
      · simp only [if_neg other]
        cases found : queue.indexFor frame.interfaceId with
        | none => simp [found]
        | some index =>
            cases listed : queue.pending[index]? with
            | none => simp [found, listed]
            | some entry =>
                cases pending : entry.pending with
                | true =>
                    by_cases differs : entry.deviceId ≠ frame.deviceId ∨
                        entry.buttons ≠ mouse.buttons <;>
                      simp [found, listed, pending, differs, pushAt]
                | false =>
                    simp [found, listed, pending, pushAt,
                      List.getElem?_set_self']

/-- Movement is taken if the entry of its interface has its device and
buttons, and there is such an entry or a free one. -/
theorem push_isOk (only : MovesOnly frame mouse)
    (same : ∀ entry ∈ queue.waiting,
      entry.interfaceId = frame.interfaceId →
        entry.deviceId = frame.deviceId ∧ entry.buttons = mouse.buttons)
    (room : (∃ entry ∈ queue.waiting, entry.interfaceId = frame.interfaceId) ∨
      queue.waiting.length < queue.pending.length) :
    ∃ next, queue.push frame = .ok next := by
  rw [push_of_movesOnly only]
  cases found : queue.indexFor frame.interfaceId with
  | none =>
      simp only [indexFor, Option.or_eq_none_iff] at found
      obtain ⟨own, full⟩ := found
      rcases room with ⟨entry, waits, interface⟩ | room
      · exact absurd interface (not_waiting own entry waits)
      · rw [waiting, List.filter_eq_self.mpr] at room
        · exact absurd room (Nat.lt_irrefl _)
        · simpa using List.findIdx?_eq_none_iff.mp full
  | some index =>
      obtain ⟨before, entry, after, split, rfl, place⟩ :=
        indexFor_eq_some found
      simp only [split, List.getElem?_append_right (Nat.le_refl _),
        Nat.sub_self, List.getElem?_cons_zero, pushAt]
      rcases place with ⟨pending, interface⟩ | ⟨free, _⟩
      · have waits : entry ∈ queue.waiting :=
          List.mem_filter.mpr ⟨by rw [split]; simp, pending⟩
        obtain ⟨device, buttons⟩ := same entry waits interface
        rw [if_pos pending, if_neg (by simp [device, buttons])]
        exact ⟨_, rfl⟩
      · rw [if_neg (by simp [free])]
        exact ⟨_, rfl⟩

end UsbMovementCoalescer

end HidShift
