import HidShift.Lib.Coalescing
import HidShift.UsbHost.Task

namespace HidShift

open Lib

theorem clampI32_of_fits (fits : -0x80000000 ≤ value ∧ value ≤ 0x7fffffff) :
    clampI32 value = value := by
  simp only [clampI32]
  omega

theorem clampI32_fits (value : Int) :
    -0x80000000 ≤ clampI32 value ∧ clampI32 value ≤ 0x7fffffff := by
  simp only [clampI32]
  omega

namespace StandardInputFrame

def along (frame : StandardInputFrame) (axis : MouseAxis) : Int :=
  frame.mouse.elim 0 fun mouse => mouse.movement.along axis

end StandardInputFrame

def movedBy (frames : List StandardInputFrame) (interfaceId : InterfaceId)
    (axis : MouseAxis) : Int :=
  keyedSum StandardInputFrame.interfaceId (·.along axis) frames interfaceId

namespace PendingMovement

def source (entry : PendingMovement) : InterfaceId × DeviceId × MouseButtons :=
  (entry.interfaceId, entry.deviceId, entry.buttons)

def InRange (entry : PendingMovement) : Prop :=
  ∀ axis, -0x80000000 ≤ entry.along axis ∧ entry.along axis ≤ 0x7fffffff

theorem InRange.take {entry : PendingMovement} (inRange : entry.InRange) :
    entry.take.2.InRange := by
  intro axis
  have sum := inRange axis
  cases axis <;>
    simp only [along, PendingMovement.take, takeAxisI16, takeAxisI8,
      takeAxis] at sum ⊢ <;> omega

theorem inRange_add (entry : PendingMovement) (movement : MouseMovement)
    (stats : UsbMovementCoalescerStats) :
    (entry.add movement stats).1.InRange := by
  intro axis
  rw [along_add]
  exact clampI32_fits _

theorem take_along (entry : PendingMovement) (axis : MouseAxis) :
    entry.take.1.along axis + entry.take.2.along axis = entry.along axis := by
  obtain ⟨mouse, carried, _, sum⟩ := entry.along_take axis
  rw [StandardInputFrame.along, carried]
  exact sum

end PendingMovement

namespace UsbMovementCoalescer

def held (queue : UsbMovementCoalescer) (interfaceId : InterfaceId)
    (axis : MouseAxis) : Int :=
  keyedSum PendingMovement.interfaceId (·.along axis) queue.waiting
    interfaceId

structure Orderly (queue : UsbMovementCoalescer) : Prop where
  clear : queue.Clear
  distinct : (queue.waiting.map PendingMovement.interfaceId).Nodup
  inRange : ∀ entry ∈ queue.waiting, entry.InRange

structure Sends (before after : UsbMovementCoalescer)
    (sent : List StandardInputFrame) : Prop where
  orderly : after.Orderly
  sources : ∀ entry ∈ after.waiting,
    ∃ old ∈ before.waiting, old.source = entry.source
  frames : ∀ frame ∈ sent,
    ∃ old ∈ before.waiting, old.interfaceId = frame.interfaceId
  balance : ∀ interfaceId axis, before.held interfaceId axis =
    movedBy sent interfaceId axis + after.held interfaceId axis
  length : after.pending.length = before.pending.length

variable {frame : StandardInputFrame} {mouse : MouseFrame}
  {queue : UsbMovementCoalescer} {before after : List PendingMovement}
  {entry : PendingMovement} {known : List InterfaceId}

theorem Sends.nothing (orderly : queue.Orderly) : Sends queue queue [] :=
  ⟨orderly, fun entry member => ⟨entry, member, rfl⟩,
    fun _ member => (List.not_mem_nil member).elim,
    fun _ _ => (Int.zero_add _).symm, rfl⟩

theorem Sends.append {before middle after : UsbMovementCoalescer}
    {first second : List StandardInputFrame} (earlier : Sends before middle first)
    (later : Sends middle after second) :
    Sends before after (first ++ second) where
  orderly := later.orderly
  sources entry member := by
    obtain ⟨old, waits, same⟩ := later.sources entry member
    obtain ⟨older, waited, same'⟩ := earlier.sources old waits
    exact ⟨older, waited, same'.trans same⟩
  frames frame member := by
    rcases List.mem_append.mp member with early | late
    · exact earlier.frames frame early
    · obtain ⟨old, waits, same⟩ := later.frames frame late
      obtain ⟨older, waited, same'⟩ := earlier.sources old waits
      exact ⟨older, waited, (Prod.mk.inj same').1.trans same⟩
  balance interfaceId axis := by
    have split : movedBy (first ++ second) interfaceId axis =
        movedBy first interfaceId axis + movedBy second interfaceId axis :=
      KeyedSum.append first second interfaceId
    rw [earlier.balance, later.balance, split, Int.add_assoc]
  length := later.length.trans earlier.length

theorem sends_takeNext {queue : UsbMovementCoalescer} (orderly : queue.Orderly)
    (taken : queue.takeNext = some (frame, next)) :
    Sends queue next [frame] := by
  obtain ⟨entry, rest, waiting, rfl, left, clear, length⟩ :=
    takeNext_eq_some orderly.clear taken
  have inRange := orderly.inRange
  have distinct := orderly.distinct
  rw [waiting] at inRange distinct
  refine ⟨⟨clear, ?_, ?_⟩, ?_, ?_, ?_, length⟩
  · rw [left]
    split
    · exact distinct
    · exact (List.nodup_cons.mp distinct).2
  · rw [left]
    intro other member
    rcases List.mem_append.mp member with own | later
    · split at own
      · rw [List.mem_singleton.mp own]
        exact (inRange entry List.mem_cons_self).take
      · cases own
    · exact inRange other (List.mem_cons_of_mem _ later)
  · rw [left, waiting]
    intro other member
    rcases List.mem_append.mp member with own | later
    · split at own
      · rw [List.mem_singleton.mp own]
        exact ⟨entry, List.mem_cons_self, rfl⟩
      · cases own
    · exact ⟨other, List.mem_cons_of_mem _ later, rfl⟩
  · intro frame member
    rw [List.mem_singleton.mp member, waiting]
    exact ⟨entry, List.mem_cons_self, rfl⟩
  · intro interfaceId axis
    have sum := entry.take_along axis
    simp only [held, movedBy, waiting, left, KeyedSum.append, KeyedSum.cons,
      KeyedSum.nil]
    have interface : entry.take.1.interfaceId = entry.interfaceId := rfl
    have interface' : entry.take.2.interfaceId = entry.interfaceId := rfl
    cases pending : entry.take.2.pending with
    | true =>
        simp only [↓reduceIte, KeyedSum.cons, KeyedSum.nil, interface,
          interface']
        split <;> omega
    | false =>
        have nothing := PendingMovement.along_of_done pending axis
        simp only [Bool.false_eq_true, ↓reduceIte, KeyedSum.nil, interface]
        split <;> omega

section

variable (joins : queue.Joined joined frame mouse before after entry)
    (ordered : queue.Orderly)

include joins ordered

theorem Joined.others :
    entry.interfaceId = frame.interfaceId ∧
      ((before ++ after).map PendingMovement.interfaceId).Nodup ∧
      (∀ other ∈ before ++ after, other ∈ queue.waiting ∧
        other.interfaceId ≠ frame.interfaceId) ∧
      ∀ interfaceId axis, queue.held interfaceId axis =
        (if frame.interfaceId = interfaceId then entry.along axis else 0) +
          keyedSum PendingMovement.interfaceId (·.along axis)
            (before ++ after) interfaceId := by
  have distinct := ordered.distinct
  rcases joins.waiting with ⟨waiting, own, _⟩ | ⟨waiting, rfl, absent⟩
  · rw [waiting, List.map_append, List.map_cons, List.nodup_middle,
      List.nodup_cons, ← List.map_append] at distinct
    refine ⟨own, distinct.2, fun other member => ⟨?_, fun same => ?_⟩, ?_⟩
    · rw [waiting]
      exact (List.Sublist.append_left (List.sublist_cons_self ..) _).subset
        member
    · apply distinct.1
      rw [own, ← same]
      exact List.mem_map_of_mem member
    · intro interfaceId axis
      rw [held, waiting, KeyedSum.middle, own]
  · rw [waiting] at distinct absent
    refine ⟨rfl, distinct, fun other member => ⟨?_, absent other member⟩, ?_⟩
    · rwa [waiting]
    · intro interfaceId axis
      have empty : (start frame mouse).along axis = 0 := by cases axis <;> rfl
      rw [held, waiting, empty]
      simp

theorem Joined.held (interfaceId : InterfaceId) (axis : MouseAxis) :
    joined.held interfaceId axis =
      if frame.interfaceId = interfaceId then
        clampI32 (queue.held interfaceId axis + mouse.movement.along axis)
      else
        queue.held interfaceId axis := by
  obtain ⟨own, _, others, held⟩ := joins.others ordered
  obtain ⟨stats, waiting⟩ := joins.added
  rw [held, UsbMovementCoalescer.held, waiting, KeyedSum.middle,
    PendingMovement.along_add, (entry.add_same _ stats).2.1, own]
  by_cases here : frame.interfaceId = interfaceId
  · subst here
    have none := @KeyedSum.eq_zero _ _ _ PendingMovement.interfaceId
      (·.along axis) _ _ fun other member => (others other member).2
    simp only [↓reduceIte, none, Int.add_zero]
  · simp only [here, ↓reduceIte]

theorem Joined.orderly : joined.Orderly := by
  obtain ⟨own, distinct, others, _⟩ := joins.others ordered
  obtain ⟨stats, waiting⟩ := joins.added
  refine ⟨joins.clear, ?_, ?_⟩
  · rw [waiting, List.map_append, List.map_cons, List.nodup_middle,
      List.nodup_cons, ← List.map_append]
    refine ⟨fun member => ?_, distinct⟩
    obtain ⟨other, listed, same⟩ := List.mem_map.mp member
    exact (others other listed).2 (same.trans own)
  · rw [waiting]
    intro other member
    rcases List.mem_append.mp member with early | late
    · exact ordered.inRange other
        (others other (List.mem_append_left _ early)).1
    · rcases List.mem_cons.mp late with rfl | late
      · exact entry.inRange_add _ stats
      · exact ordered.inRange other
          (others other (List.mem_append_right _ late)).1

theorem Joined.sources :
    ∀ other ∈ joined.waiting,
      (∃ old ∈ queue.waiting, old.source = other.source) ∨
        other.source = (frame.interfaceId, frame.deviceId, mouse.buttons) := by
  obtain ⟨_, _, others, _⟩ := joins.others ordered
  obtain ⟨stats, waiting⟩ := joins.added
  rw [waiting]
  intro other member
  have listed : other ∈ before ++ after ∨
      other = (entry.add mouse.movement stats).1 := by
    rcases List.mem_append.mp member with early | late
    · exact .inl (List.mem_append_left _ early)
    · rcases List.mem_cons.mp late with rfl | late
      · exact .inr rfl
      · exact .inl (List.mem_append_right _ late)
  rcases listed with listed | rfl
  · exact .inl ⟨other, (others other listed).1, rfl⟩
  · refine .inr ?_
    rcases joins.waiting with ⟨_, interface, device, buttons⟩ | ⟨_, rfl, _⟩
    · rw [← interface, ← device, ← buttons]
      rfl
    · rfl

end

theorem held_front (orderly : queue.Orderly)
    (waiting : queue.waiting = entry :: rest) (axis : MouseAxis) :
    queue.held entry.interfaceId axis = entry.along axis := by
  have distinct := orderly.distinct
  rw [waiting, List.map_cons, List.nodup_cons] at distinct
  have none := @KeyedSum.eq_zero _ _ _ PendingMovement.interfaceId
    (·.along axis) rest entry.interfaceId fun other member same =>
      distinct.1 (same ▸ List.mem_map_of_mem member)
  rw [held, waiting, KeyedSum.cons, if_pos rfl, none, Int.add_zero]

theorem movedBy_single (frame : StandardInputFrame)
    (interfaceId : InterfaceId) (axis : MouseAxis) :
    movedBy [frame] interfaceId axis =
      if frame.interfaceId = interfaceId then frame.along axis else 0 := by
  rw [movedBy, KeyedSum.cons, KeyedSum.nil, Int.add_zero]

theorem along_neutral (carried : frame.mouse = some mouse)
    (still : mouse.movement = .neutral) (axis : MouseAxis) :
    frame.along axis = 0 := by
  rw [StandardInputFrame.along, carried]
  simp only [Option.elim_some, still]
  cases axis <;> rfl

theorem sends_pushBack (orderly : queue.Orderly)
    (taken : queue.takeNext = some (frame, next)) :
    Sends queue (next.pushBack frame) [] := by
  have sends := sends_takeNext orderly taken
  obtain ⟨entry, rest, waiting, rfl, left, clear, length⟩ :=
    takeNext_eq_some orderly.clear taken
  have waits : entry ∈ queue.waiting := by
    rw [waiting]
    exact List.mem_cons_self
  obtain ⟨mouse, carried, buttons, _⟩ := entry.along_take .x
  simp only [pushBack]
  cases pushed : next.push entry.take.1 with
  | error error =>
      -- There is room for what was just there, so nothing was taken.
      have still : mouse.movement = .neutral := by
        by_contra moves
        suffices ok : ∃ joined, next.push entry.take.1 = .ok joined by
          obtain ⟨joined, ok⟩ := ok
          rw [pushed] at ok
          cases ok
        refine push_isOk ⟨carried, rfl, rfl, moves⟩
          (fun other member same => ?_) ?_
        · have distinct := orderly.distinct
          rw [waiting, List.map_cons, List.nodup_cons] at distinct
          rw [left] at member
          rcases List.mem_append.mp member with own | later
          · split at own
            · rw [List.mem_singleton.mp own]
              exact ⟨rfl, buttons.symm⟩
            · cases own
          · have interface : other.interfaceId = entry.interfaceId := same
            exact absurd (interface ▸ List.mem_map_of_mem later) distinct.1
        · cases pending : entry.take.2.pending with
          | true =>
              refine .inl ⟨entry.take.2, ?_, rfl⟩
              rw [left, pending]
              exact List.mem_cons_self
          | false =>
              have fits : queue.waiting.length ≤ queue.pending.length :=
                List.length_filter_le ..
              rw [waiting, List.length_cons] at fits
              refine .inr ?_
              rw [left, pending, length]
              exact fits
      refine { sends with
        frames := fun _ member => (List.not_mem_nil member).elim
        balance := fun interfaceId axis => ?_ }
      rw [sends.balance, movedBy_single, along_neutral carried still, ite_self]
      rfl
  | ok joined =>
      obtain ⟨mouse', before, after, own, only, joins⟩ :=
        push_eq_ok clear pushed
      obtain rfl : mouse = mouse' :=
        Option.some.inj (carried.symm.trans only.carried)
      refine ⟨joins.orderly sends.orderly, fun other member => ?_,
        fun _ member => (List.not_mem_nil member).elim,
        fun interfaceId axis => ?_, joins.length.trans length⟩
      · rcases joins.sources sends.orderly other member with
          ⟨old, member', same⟩ | same
        · obtain ⟨older, here, same'⟩ := sends.sources old member'
          exact ⟨older, here, same'.trans same⟩
        · refine ⟨entry, waits, ?_⟩
          rw [same, buttons]
          rfl
      · have balance := sends.balance interfaceId axis
        have along : entry.take.1.along axis = mouse.movement.along axis := by
          rw [StandardInputFrame.along, carried]
          rfl
        rw [movedBy_single, along] at balance
        rw [joins.held sends.orderly]
        simp only [movedBy, KeyedSum.nil, Int.zero_add]
        by_cases here : entry.take.1.interfaceId = interfaceId
        · rw [if_pos here] at balance ⊢
          have front := held_front orderly waiting axis
          have interface : entry.interfaceId = interfaceId := here
          rw [interface] at front
          have fits := orderly.inRange entry waits axis
          rw [clampI32_of_fits (by omega)]
          omega
        · rw [if_neg here] at balance ⊢
          omega

theorem sends_sendWaiting (answers : List QueueAnswer)
    (orderly : queue.Orderly) :
    Sends queue (sendWaiting answers queue).1 (sendWaiting answers queue).2 := by
  induction answers generalizing queue with
  | nil => exact .nothing orderly
  | cons answer answers ih =>
      cases answer with
      | full => exact .nothing orderly
      | refused =>
          simp only [sendWaiting]
          cases taken : queue.takeNext with
          | none => exact .nothing orderly
          | some result => exact sends_pushBack orderly taken
      | accepted =>
          simp only [sendWaiting]
          cases taken : queue.takeNext with
          | none => exact .nothing orderly
          | some result =>
              have first := sends_takeNext orderly taken
              exact first.append (ih first.orderly)

theorem remaining_takeNext (orderly : queue.Orderly)
    (taken : queue.takeNext = some (frame, next)) :
    next.remaining < queue.remaining := by
  obtain ⟨entry, rest, waiting, _, left, _, _⟩ :=
    takeNext_eq_some orderly.clear taken
  have pending : entry.pending = true := by
    have waits : entry ∈ queue.waiting := by
      rw [waiting]
      exact List.mem_cons_self
    exact (List.mem_filter.mp waits).2
  have less := PendingMovement.remaining_take_lt pending
  simp only [remaining, waiting, left, List.map_append, List.sum_append,
    List.map_cons, List.sum_cons]
  split
  · simp only [List.map_cons, List.map_nil, List.sum_cons, List.sum_nil]
    omega
  · simp only [List.map_nil, List.sum_nil]
    omega

theorem sends_sendAll (left : Nat) (orderly : queue.Orderly)
    (enough : queue.remaining ≤ left) :
    Sends queue (sendAll left queue).1 (sendAll left queue).2 ∧
      (sendAll left queue).1.waiting = [] := by
  induction left generalizing queue with
  | zero =>
      refine ⟨.nothing orderly, ?_⟩
      cases taken : queue.takeNext with
      | none => exact takeNext_eq_none.mp taken
      | some result =>
          have less := remaining_takeNext orderly taken
          omega
  | succ left ih =>
      simp only [sendAll]
      cases taken : queue.takeNext with
      | none => exact ⟨.nothing orderly, takeNext_eq_none.mp taken⟩
      | some result =>
          have first := sends_takeNext orderly taken
          have less := remaining_takeNext orderly taken
          obtain ⟨rest, nothing⟩ := ih first.orderly (by omega)
          exact ⟨first.append rest, nothing⟩

theorem held_fits (orderly : queue.Orderly) (interfaceId : InterfaceId)
    (axis : MouseAxis) :
    -0x80000000 ≤ queue.held interfaceId axis ∧
      queue.held interfaceId axis ≤ 0x7fffffff := by
  have distinct := orderly.distinct
  by_cases waits : ∃ entry ∈ queue.waiting, entry.interfaceId = interfaceId
  · obtain ⟨entry, member, rfl⟩ := waits
    have fits := orderly.inRange entry member axis
    obtain ⟨before, after, split⟩ := List.append_of_mem member
    rw [split, List.map_append, List.map_cons, List.nodup_middle,
      List.nodup_cons, ← List.map_append] at distinct
    have none := @KeyedSum.eq_zero _ _ _ PendingMovement.interfaceId
      (·.along axis) (before ++ after) entry.interfaceId
      fun other listed same => distinct.1 (same ▸ List.mem_map_of_mem listed)
    rwa [held, split, KeyedSum.middle, if_pos rfl, none, Int.add_zero]
  · have none : queue.held interfaceId axis = 0 :=
      KeyedSum.eq_zero fun entry member same => waits ⟨entry, member, same⟩
    omega

structure Covers (known : List InterfaceId) (queue : UsbMovementCoalescer) :
    Prop where
  waiting : ∀ entry ∈ queue.waiting, entry.interfaceId ∈ known
  room : known.length ≤ queue.pending.length

theorem Covers.room_for (covers : Covers known queue) (orderly : queue.Orderly)
    (member : interfaceId ∈ known) :
    (∃ entry ∈ queue.waiting, entry.interfaceId = interfaceId) ∨
      queue.waiting.length < queue.pending.length := by
  by_cases waits : ∃ entry ∈ queue.waiting, entry.interfaceId = interfaceId
  · exact .inl waits
  · have fresh : (interfaceId ::
        queue.waiting.map PendingMovement.interfaceId).Nodup := by
      refine List.nodup_cons.mpr ⟨fun listed => waits ?_, orderly.distinct⟩
      obtain ⟨entry, waiting, same⟩ := List.mem_map.mp listed
      exact ⟨entry, waiting, same⟩
    have fits := (List.subperm_of_subset fresh fun other listed => by
      rcases List.mem_cons.mp listed with rfl | listed
      · exact member
      · obtain ⟨entry, waiting, rfl⟩ := List.mem_map.mp listed
        exact covers.waiting entry waiting).length_le
    rw [List.length_cons, List.length_map] at fits
    exact .inr (Nat.lt_of_lt_of_le fits covers.room)

theorem Covers.sends {before after : UsbMovementCoalescer}
    {sent : List StandardInputFrame} (covers : Covers known before)
    (sends : Sends before after sent) :
    Covers known after where
  waiting entry member := by
    obtain ⟨old, waits, same⟩ := sends.sources entry member
    rw [← (Prod.mk.inj same).1]
    exact covers.waiting old waits
  room := by rw [sends.length]; exact covers.room

structure Joins (queue : UsbMovementCoalescer) (known : List InterfaceId)
    (frame : StandardInputFrame) (mouse : MouseFrame) : Prop where
  only : MovesOnly frame mouse
  covers : Covers known queue
  member : frame.interfaceId ∈ known
  same : ∀ entry ∈ queue.waiting, entry.interfaceId = frame.interfaceId →
    entry.deviceId = frame.deviceId ∧ entry.buttons = mouse.buttons

theorem Joins.push_isOk (joins : queue.Joins known frame mouse)
    (orderly : queue.Orderly) : ∃ next, queue.push frame = .ok next :=
  UsbMovementCoalescer.push_isOk joins.only joins.same
    (joins.covers.room_for orderly joins.member)

theorem Joins.sends {before after : UsbMovementCoalescer}
    (joins : before.Joins known frame mouse) (sends : Sends before after sent) :
    after.Joins known frame mouse where
  only := joins.only
  covers := joins.covers.sends sends
  member := joins.member
  same entry member interface := by
    obtain ⟨old, waits, same⟩ := sends.sources entry member
    simp only [PendingMovement.source, Prod.mk.injEq] at same
    obtain ⟨device, buttons⟩ :=
      joins.same old waits (same.1.trans interface)
    exact ⟨same.2.1.symm.trans device, same.2.2.symm.trans buttons⟩

/-- What comes of forwarding a frame: it is sent, or its movement joins what
waits. -/
structure Forwards (before after : UsbMovementCoalescer)
    (frame : StandardInputFrame) (movementOnly : Bool)
    (sent : List StandardInputFrame) : Prop where
  orderly : after.Orderly
  length : after.pending.length = before.pending.length
  sources : ∀ entry ∈ after.waiting, movementOnly = true ∧
    ((∃ old ∈ before.waiting, old.source = entry.source) ∨
      ∃ mouse, frame.mouse = some mouse ∧
        entry.source = (frame.interfaceId, frame.deviceId, mouse.buttons))
  frames : ∀ other ∈ sent, other = frame ∨
    ∃ old ∈ before.waiting, old.interfaceId = other.interfaceId
  balance : ∀ interfaceId axis, after.held interfaceId axis =
    clampI32 (before.held interfaceId axis +
      movedBy [frame] interfaceId axis - movedBy sent interfaceId axis)

theorem Sends.forwards {before after : UsbMovementCoalescer}
    {sent : List StandardInputFrame} (sends : Sends before after sent)
    (frame : StandardInputFrame) {movementOnly : Bool}
    (waiting : movementOnly = false → after.waiting = []) :
    Forwards before after frame movementOnly (sent ++ [frame]) where
  orderly := sends.orderly
  length := sends.length
  sources entry member := by
    cases movementOnly with
    | true => exact ⟨rfl, .inl (sends.sources entry member)⟩
    | false =>
        rw [waiting rfl] at member
        cases member
  frames other member := by
    rcases List.mem_append.mp member with early | late
    · exact .inr (sends.frames other early)
    · exact .inl (List.mem_singleton.mp late)
  balance interfaceId axis := by
    have split : movedBy (sent ++ [frame]) interfaceId axis =
        movedBy sent interfaceId axis + movedBy [frame] interfaceId axis :=
      KeyedSum.append sent [frame] interfaceId
    have balance := sends.balance interfaceId axis
    have fits := held_fits sends.orderly interfaceId axis
    rw [split, clampI32_of_fits (by omega)]
    omega

theorem forwards {queue : UsbMovementCoalescer} (orderly : queue.Orderly)
    {frame : StandardInputFrame} {movementOnly : Bool}
    (joins : movementOnly = true → ∃ known mouse, queue.Joins known frame mouse)
    (answers : List QueueAnswer) (direct : Bool) :
    Forwards queue (queue.forward frame movementOnly answers direct).1 frame
      movementOnly (queue.forward frame movementOnly answers direct).2 := by
  have first := sends_sendWaiting answers orderly
  simp only [forward]
  cases movementOnly with
  | false =>
      obtain ⟨rest, nothing⟩ := sends_sendAll
        (sendWaiting answers queue).1.remaining first.orderly (Nat.le_refl _)
      exact (first.append rest).forwards frame fun _ => nothing
  | true =>
      simp only [↓reduceIte]
      cases direct with
      | true => exact first.forwards frame fun none => (by cases none)
      | false =>
          obtain ⟨known, mouse, joins⟩ := joins rfl
          obtain ⟨next, pushed⟩ := (joins.sends first).push_isOk first.orderly
          obtain ⟨mouse', before, after, entry, only, joined⟩ :=
            push_eq_ok first.orderly.clear pushed
          simp only [Bool.false_eq_true, ↓reduceIte, pushBack, pushed]
          refine ⟨joined.orderly first.orderly,
            joined.length.trans first.length, fun other member => ⟨rfl, ?_⟩,
            fun other member => .inr (first.frames other member),
            fun interfaceId axis => ?_⟩
          · rcases joined.sources first.orderly other member with
              ⟨old, waits, same⟩ | same
            · obtain ⟨older, waited, same'⟩ := first.sources old waits
              exact .inl ⟨older, waited, same'.trans same⟩
            · exact .inr ⟨mouse', only.carried, same⟩
          · have balance := first.balance interfaceId axis
            have fits := held_fits first.orderly interfaceId axis
            have along : frame.along axis = mouse'.movement.along axis := by
              rw [StandardInputFrame.along, only.carried]
              rfl
            rw [joined.held first.orderly, movedBy_single, along, balance]
            split
            · congr 1
              omega
            · rw [clampI32_of_fits (by omega)]
              omega

end UsbMovementCoalescer

end HidShift
