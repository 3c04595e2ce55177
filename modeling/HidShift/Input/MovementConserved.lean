import HidShift.Ble.MouseConserved

namespace HidShift

open Lib

def movementCoalescing : Coalescing StandardInputFrame InterfaceId MouseAxis
    (DeviceId × Option MouseButtons) where
  key := StandardInputFrame.interfaceId
  mark frame := (frame.deviceId, frame.mouse.map MouseFrame.buttons)
  amount frame := frame.along
  clamp := clampI32

namespace PendingMovement

def mark (entry : PendingMovement) : DeviceId × Option MouseButtons :=
  (entry.deviceId, some entry.buttons)

def isFor (interfaceId : InterfaceId) (entry : PendingMovement) : Bool :=
  entry.interfaceId = interfaceId

theorem find_middle {interfaceId : InterfaceId}
    (different : interfaceId ≠ entry.interfaceId) :
    (before ++ entry :: after).find? (isFor interfaceId) =
      (before ++ after).find? (isFor interfaceId) := by
  have skipped : ¬ isFor interfaceId entry = true := by
    simp [isFor, different.symm]
  rw [List.find?_append, List.find?_cons_of_neg skipped, List.find?_append]

theorem find_own {entries : List PendingMovement} {entry : PendingMovement}
    (distinct : (entries.map interfaceId).Nodup) (member : entry ∈ entries) :
    entries.find? (isFor entry.interfaceId) = some entry := by
  induction entries with
  | nil => cases member
  | cons first rest ih =>
      obtain ⟨fresh, distinct⟩ := List.nodup_cons.mp distinct
      rcases List.mem_cons.mp member with here | later
      · rw [here]
        exact List.find?_cons_of_pos (by simp [isFor])
      · have other : ¬ isFor entry.interfaceId first = true := by
          intro same
          apply fresh
          rw [of_decide_eq_true same]
          exact List.mem_map_of_mem later
        rw [List.find?_cons_of_neg other]
        exact ih distinct later

theorem find_none {entries : List PendingMovement} {interfaceId : InterfaceId}
    (absent : ∀ entry ∈ entries, entry.interfaceId ≠ interfaceId) :
    entries.find? (isFor interfaceId) = none := by
  apply List.find?_eq_none.mpr
  intro entry member
  simpa [isFor] using absent entry member

end PendingMovement

namespace UsbMovementCoalescer

def coalesced (queue : UsbMovementCoalescer) :
    Coalesced InterfaceId MouseAxis (DeviceId × Option MouseButtons) where
  held := queue.held
  mark interfaceId :=
    (queue.waiting.find? (PendingMovement.isFor interfaceId)).map
      PendingMovement.mark

variable {queue next : UsbMovementCoalescer} {frame : StandardInputFrame}

theorem push_accepts (orderly : queue.Orderly)
    (pushed : queue.push frame = .ok next) :
    movementCoalescing.Accepts queue.coalesced next.coalesced frame ∧
      next.Orderly := by
  obtain ⟨mouse, before, after, entry, only, joined⟩ :=
    push_eq_ok orderly.clear pushed
  have orderlyNext := joined.orderly orderly
  obtain ⟨own, distinct, others, _⟩ := joined.others orderly
  have held := joined.held orderly
  obtain ⟨stats, added⟩ := joined.added
  have kept := entry.add_same mouse.movement stats
  have along : frame.along = mouse.movement.along := by
    funext axis
    rw [StandardInputFrame.along, only.carried]
    rfl
  have mark : movementCoalescing.mark frame =
      (frame.deviceId, some mouse.buttons) := by
    change (frame.deviceId, frame.mouse.map MouseFrame.buttons) = _
    rw [only.carried]
    rfl
  have same : entry.deviceId = frame.deviceId ∧
      entry.buttons = mouse.buttons := by
    rcases joined.waiting with ⟨_, _, same⟩ | ⟨_, fresh, _⟩
    · exact same
    · rw [fresh]
      exact ⟨rfl, rfl⟩
  have foundNext : next.waiting.find?
      (PendingMovement.isFor frame.interfaceId) =
        some (entry.add mouse.movement stats).1 := by
    rw [← own, ← kept.2.1]
    apply PendingMovement.find_own orderlyNext.distinct
    rw [added]
    exact List.mem_append_right _ List.mem_cons_self
  refine ⟨⟨fun held found => ?_, ?_, fun axis => ?_, ?_, ?_⟩, orderlyNext⟩
  · rcases joined.waiting with ⟨waiting, _, _⟩ | ⟨_, _, absent⟩
    · have foundOld : queue.waiting.find?
          (PendingMovement.isFor frame.interfaceId) = some entry := by
        rw [← own]
        apply PendingMovement.find_own orderly.distinct
        rw [waiting]
        exact List.mem_append_right _ List.mem_cons_self
      change (queue.waiting.find? (PendingMovement.isFor
        frame.interfaceId)).map _ = _ at found
      rw [foundOld, Option.map_some, Option.some.injEq] at found
      rw [← found, mark, PendingMovement.mark, same.1, same.2]
    · change (queue.waiting.find? (PendingMovement.isFor
        frame.interfaceId)).map _ = _ at found
      rw [PendingMovement.find_none absent] at found
      cases found
  · change (next.waiting.find? (PendingMovement.isFor
      frame.interfaceId)).map _ = _
    rw [foundNext, mark, Option.map_some, PendingMovement.mark, kept.1,
      kept.2.2.1, same.1, same.2]
  · change next.held frame.interfaceId axis =
      clampI32 (queue.held frame.interfaceId axis + frame.along axis)
    rw [held, if_pos rfl, along]
  · intro other (different : other ≠ frame.interfaceId)
    funext axis
    change next.held other axis = queue.held other axis
    rw [held, if_neg (Ne.symm different)]
  · intro other different
    have apart : other ≠ entry.interfaceId := by
      rw [own]
      exact different
    change (next.waiting.find? _).map _ = (queue.waiting.find? _).map _
    rw [added, PendingMovement.find_middle (by rw [kept.2.1]; exact apart)]
    rcases joined.waiting with ⟨waiting, _, _⟩ | ⟨waiting, _, _⟩
    · rw [waiting, PendingMovement.find_middle apart]
    · rw [waiting]

theorem takeNext_gives (orderly : queue.Orderly)
    (taken : queue.takeNext = some (frame, next)) :
    movementCoalescing.Gives queue.coalesced next.coalesced frame ∧
      next.Orderly := by
  have sends := sends_takeNext orderly taken
  obtain ⟨entry, rest, waiting, rfl, left, _, _⟩ :=
    takeNext_eq_some orderly.clear taken
  have distinct := orderly.distinct
  rw [waiting, List.map_cons, List.nodup_cons] at distinct
  have interface : entry.take.1.interfaceId = entry.interfaceId := rfl
  have balance := fun interfaceId axis => sends.balance interfaceId axis
  simp only [movedBy_single, interface] at balance
  have absent : rest.find? (PendingMovement.isFor entry.interfaceId) =
      none := by
    apply PendingMovement.find_none
    intro other member same
    exact distinct.1 (same ▸ List.mem_map_of_mem member)
  refine ⟨⟨?_, ?_, fun axis => ?_, ?_, ?_⟩, sends.orderly⟩
  · change (queue.waiting.find? (PendingMovement.isFor
      entry.interfaceId)).map _ = some entry.mark
    rw [waiting, List.find?_cons_of_pos (by simp [PendingMovement.isFor])]
    rfl
  · change (next.waiting.find? (PendingMovement.isFor
      entry.interfaceId)).map _ = none ∨ (next.waiting.find?
        (PendingMovement.isFor entry.interfaceId)).map _ = some entry.mark
    rw [left]
    by_cases remains : entry.take.2.pending = true
    · rw [if_pos remains, List.singleton_append,
        List.find?_cons_of_pos (by simp [PendingMovement.isFor,
          entry.take_same.2.1])]
      exact .inr rfl
    · rw [if_neg remains, List.nil_append, absent]
      exact .inl rfl
  · have own := balance entry.interfaceId axis
    rw [if_pos rfl] at own
    exact own.symm
  · intro other (different : other ≠ entry.interfaceId)
    funext axis
    have own := balance other axis
    rw [if_neg (Ne.symm different), Int.zero_add] at own
    exact own.symm
  · intro other (different : other ≠ entry.interfaceId)
    have skipped : ∀ found : PendingMovement,
        found.interfaceId = entry.interfaceId →
          ¬ PendingMovement.isFor other found = true := by
      intro found same here
      exact different ((of_decide_eq_true here).symm.trans same)
    change (next.waiting.find? (PendingMovement.isFor other)).map _ =
      (queue.waiting.find? (PendingMovement.isFor other)).map _
    rw [left, waiting, List.find?_cons_of_neg (skipped entry rfl)]
    split
    · rw [List.singleton_append,
        List.find?_cons_of_neg (skipped entry.take.2 rfl)]
    · rw [List.nil_append]

theorem orderly_new (interfaces : Nat) : (new interfaces).Orderly := by
  have nothing : (new interfaces).waiting = [] := by
    apply List.filter_eq_nil_iff.mpr
    intro entry member
    rw [List.eq_of_mem_replicate member]
    exact Bool.false_ne_true
  refine ⟨fun entry listed _ axis => ?_, ?_, fun entry waits => ?_⟩
  · rw [List.eq_of_mem_replicate listed]
    cases axis <;> rfl
  · rw [nothing]
    exact .nil
  · rw [nothing] at waits
    cases waits

end UsbMovementCoalescer

inductive MovementCall
  | push (frame : StandardInputFrame)
  | takeNext

structure MovementRun where
  queue : UsbMovementCoalescer
  log : CoalescingLog StandardInputFrame InterfaceId

namespace MovementRun

def start (interfaces : Nat) : MovementRun := ⟨.new interfaces, .empty⟩

def perform (run : MovementRun) : MovementCall → MovementRun
  | .push frame =>
      match (UsbMovementCoalescer.pushInPlace frame).run run.queue with
      | .error _ left => { run with queue := left }
      | .ok _ next => ⟨next, movementCoalescing.accept run.log frame⟩
  | .takeNext =>
      match run.queue.takeNext with
      | none => run
      | some (frame, next) =>
          ⟨next, movementCoalescing.give run.log frame
            (next.waiting.any (PendingMovement.isFor frame.interfaceId))⟩

def Fits (run : MovementRun) : MovementCall → Prop
  | .push frame =>
      (run.queue.push frame).isOk → ∀ axis,
        -0x80000000 ≤ run.queue.held frame.interfaceId axis + frame.along axis ∧
          run.queue.held frame.interfaceId axis + frame.along axis ≤
            0x7fffffff
  | .takeNext => True

def after (interfaces : Nat) (calls : List MovementCall) : MovementRun :=
  calls.foldl perform (start interfaces)

structure Sound (run : MovementRun) : Prop where
  orderly : run.queue.Orderly
  marked : movementCoalescing.Marked run.queue.coalesced run.log

def Balanced (run : MovementRun) : Prop :=
  movementCoalescing.Balanced run.queue.coalesced run.log

theorem waiting_start (interfaces : Nat) :
    (start interfaces).queue.waiting = [] := by
  apply List.filter_eq_nil_iff.mpr
  intro entry member
  rw [List.eq_of_mem_replicate member]
  exact Bool.false_ne_true

theorem sound_start (interfaces : Nat) : (start interfaces).Sound where
  orderly := UsbMovementCoalescer.orderly_new interfaces
  marked := Coalescing.marked_empty fun interfaceId => by
    change ((start interfaces).queue.waiting.find? _).map _ = none
    rw [waiting_start]
    rfl

theorem balanced_start (interfaces : Nat) : (start interfaces).Balanced := by
  apply Coalescing.balanced_empty
  intro interfaceId axis
  change keyedSum _ _ (start interfaces).queue.waiting interfaceId = 0
  rw [waiting_start]
  rfl

theorem isSome_mark (queue : UsbMovementCoalescer) (interfaceId : InterfaceId) :
    (queue.coalesced.mark interfaceId).isSome =
      queue.waiting.any (PendingMovement.isFor interfaceId) := by
  change ((queue.waiting.find? _).map _).isSome = _
  rw [Option.isSome_map, List.isSome_find?]

theorem perform_push_ok {run : MovementRun}
    (pushed : run.queue.push frame = .ok next) :
    run.perform (.push frame) =
      ⟨next, movementCoalescing.accept run.log frame⟩ := by
  obtain ⟨accepts, _⟩ :=
    UsbMovementCoalescer.pushInPlace_updates frame run.queue
  rw [perform, accepts next pushed]

theorem perform_push_error {run : MovementRun}
    (refused : run.queue.push frame = .error error) :
    run.perform (.push frame) = run := by
  obtain ⟨_, refuses⟩ :=
    UsbMovementCoalescer.pushInPlace_updates frame run.queue
  rw [perform, refuses error refused]

theorem Sound.perform {run : MovementRun} (sound : run.Sound)
    (call : MovementCall) : (run.perform call).Sound := by
  cases call with
  | push frame =>
      cases pushed : run.queue.push frame with
      | error error =>
          rw [perform_push_error pushed]
          exact sound
      | ok next =>
          rw [perform_push_ok pushed]
          obtain ⟨accepts, orderly⟩ :=
            UsbMovementCoalescer.push_accepts sound.orderly pushed
          exact ⟨orderly, sound.marked.accept accepts⟩
  | takeNext =>
      simp only [MovementRun.perform]
      cases taken : run.queue.takeNext with
      | none => exact sound
      | some result =>
          obtain ⟨gives, orderly⟩ :=
            UsbMovementCoalescer.takeNext_gives sound.orderly taken
          refine ⟨orderly, ?_⟩
          change movementCoalescing.Marked result.2.coalesced
            (movementCoalescing.give run.log result.1 (result.2.waiting.any
              (PendingMovement.isFor result.1.interfaceId)))
          rw [← isSome_mark]
          exact sound.marked.give gives

theorem Balanced.perform {run : MovementRun} (sound : run.Sound)
    (balanced : run.Balanced) (call : MovementCall) (fits : run.Fits call) :
    (run.perform call).Balanced := by
  cases call with
  | push frame =>
      cases pushed : run.queue.push frame with
      | error error =>
          rw [perform_push_error pushed]
          exact balanced
      | ok next =>
          rw [perform_push_ok pushed]
          refine Coalescing.Balanced.accept balanced
            (UsbMovementCoalescer.push_accepts sound.orderly pushed).1
            fun axis => ?_
          exact clampI32_of_fits (fits (by rw [pushed]; rfl) axis)
  | takeNext =>
      simp only [MovementRun.perform]
      cases taken : run.queue.takeNext with
      | none => exact balanced
      | some result =>
          exact Coalescing.Balanced.give balanced
            (UsbMovementCoalescer.takeNext_gives sound.orderly taken).1 _

end MovementRun

/-- What is pushed is taken or pending, a report shows the buttons of what it
sums up, a refused push changes nothing, and taking comes to an end. -/
structure MouseRun.Passes {hosts : Nat} (run : MouseRun hosts)
    (exact : Prop) : Prop where
  balance : exact → ∀ hostId axis,
    keyedSum Prod.fst (·.2.movement.along axis) run.log.accepted hostId =
      keyedSum Prod.fst (·.2.movement.along axis)
          (run.log.taken.map Prod.fst) hostId +
        (run.accumulator.state hostId).along axis
  buttons : ∀ entry ∈ run.log.taken, entry.2 ≠ [] ∧
    ∀ pushed ∈ entry.2, pushed.1 = entry.1.1 ∧
      entry.1.2.buttons = (MouseButtons.fromBitsTruncate pushed.2.buttons).bits
  refused : ∀ hostId report left,
    (MouseReportAccumulator.pushInPlace hostId report).run run.accumulator =
        .error () left →
      left = run.accumulator ∧ run.perform (.push hostId report) = run
  drains : ∀ hostId,
    (run.accumulator.drain hostId).2.takeNext hostId = none ∧
      (run.accumulator.drain hostId).2.isPending hostId = false ∧
        ∀ axis, ((run.accumulator.drain hostId).1.map
          (·.movement.along axis)).sum =
            (run.accumulator.state hostId).along axis

structure MovementRun.Passes (run : MovementRun) (exact : Prop) : Prop where
  balance : exact → ∀ interfaceId axis,
    movedBy run.log.accepted interfaceId axis =
      movedBy (run.log.taken.map Prod.fst) interfaceId axis +
        run.queue.held interfaceId axis
  buttons : ∀ entry ∈ run.log.taken, entry.2 ≠ [] ∧
    ∀ pushed ∈ entry.2, pushed.interfaceId = entry.1.interfaceId ∧
      entry.1.deviceId = pushed.deviceId ∧
      entry.1.mouse.map MouseFrame.buttons = pushed.mouse.map MouseFrame.buttons
  refused : ∀ frame error left,
    (UsbMovementCoalescer.pushInPlace frame).run run.queue = .error error left →
      left = run.queue ∧ run.perform (.push frame) = run
  drains : (run.queue.sendAll run.queue.remaining).1.takeNext = none ∧
    ∀ interfaceId axis,
      movedBy (run.queue.sendAll run.queue.remaining).2 interfaceId axis =
        run.queue.held interfaceId axis

theorem MouseRun.passes
    (idle : Along perform SetsIdle (start : MouseRun hosts) calls) :
    (after calls : MouseRun hosts).Passes
      (Along perform Fits (start : MouseRun hosts) calls) := by
  have sound : (after calls : MouseRun hosts).Sound :=
    idle.invariant Sound sound_start
      fun run call sound idle => sound.perform call idle
  refine ⟨fun fits => ?_, fun entry member => ?_, ?_, fun hostId => ?_⟩
  · have both := idle.and fits
    have balanced : (after calls : MouseRun hosts).Balanced :=
      both.invariant Balanced balanced_start
        fun run call balanced holds => balanced.perform call holds.1 holds.2
    exact balanced
  · obtain ⟨some, all⟩ := sound.marked.taken entry member
    refine ⟨some, fun pushed inBatch => ?_⟩
    obtain ⟨same, mark⟩ := all pushed inBatch
    refine ⟨same, (sound.bits entry member).trans ?_⟩
    exact congrArg MouseButtons.bits mark.symm
  · intro hostId report left refused
    obtain ⟨same, _⟩ :=
      (MouseReportAccumulator.pushInPlace_updates hostId report).of_error
        refused
    refine ⟨same, ?_⟩
    rw [perform, refused, same]
  · have idle := (MouseReportAccumulator.drain_spec
      (after calls : MouseRun hosts).accumulator hostId).1.1
    exact ⟨MouseReportAccumulator.takeNext_eq_none_iff.mpr idle, idle,
      fun axis => MouseReportAccumulator.drain_moves sound.settled axis⟩

theorem MovementRun.passes (interfaces : Nat) (calls : List MovementCall) :
    (after interfaces calls).Passes
      (Along perform Fits (start interfaces) calls) := by
  have every : Along perform (fun _ _ => True) (start interfaces) calls :=
    .of_forall fun _ _ => trivial
  have sound : (after interfaces calls).Sound :=
    every.invariant Sound (sound_start interfaces)
      fun run call sound _ => sound.perform call
  refine ⟨fun fits => ?_, fun entry member => ?_, ?_, ?_⟩
  · have both : (after interfaces calls).Sound ∧
        (after interfaces calls).Balanced :=
      fits.invariant (fun run => run.Sound ∧ run.Balanced)
        ⟨sound_start interfaces, balanced_start interfaces⟩
        fun run call held fits =>
          ⟨held.1.perform call, held.2.perform held.1 call fits⟩
    exact both.2
  · obtain ⟨some, all⟩ := sound.marked.taken entry member
    refine ⟨some, fun pushed inBatch => ?_⟩
    obtain ⟨same, mark⟩ := all pushed inBatch
    obtain ⟨device, buttons⟩ := Prod.mk.inj mark
    exact ⟨same, device.symm, buttons.symm⟩
  · intro frame error left refused
    obtain ⟨same, _⟩ :=
      (UsbMovementCoalescer.pushInPlace_updates frame).of_error refused
    refine ⟨same, ?_⟩
    rw [perform, refused, same]
  · obtain ⟨sends, nothing⟩ := UsbMovementCoalescer.sends_sendAll
      (after interfaces calls).queue.remaining sound.orderly (Nat.le_refl _)
    refine ⟨UsbMovementCoalescer.takeNext_eq_none.mpr nothing, ?_⟩
    intro interfaceId axis
    have balance := sends.balance interfaceId axis
    have none : ((after interfaces calls).queue.sendAll
        (after interfaces calls).queue.remaining).1.held interfaceId axis =
          0 := by
      rw [UsbMovementCoalescer.held, nothing]
      rfl
    rw [none, Int.add_zero] at balance
    exact balance.symm

/-- A report with a bit above the five buttons.  The bit is not passed on. -/
theorem bits_beyond_buttons_dropped :
    ∃ calls : List MouseCall,
      Along MouseRun.perform MouseRun.SetsIdle (MouseRun.start : MouseRun 4)
        calls ∧
      Along MouseRun.perform MouseRun.Fits (MouseRun.start : MouseRun 4) calls ∧
      ¬ ∀ entry ∈ (MouseRun.after calls : MouseRun 4).log.taken,
        ∀ pushed ∈ entry.2, entry.1.2.buttons = pushed.2.buttons := by
  refine ⟨[.push ⟨1⟩ ⟨Vector.replicate 7 0x20⟩, .takeNext ⟨1⟩],
    ⟨trivial, trivial, trivial⟩, ⟨fun _ axis => ?_, trivial, trivial⟩, ?_⟩
  · cases axis <;> decide +kernel
  · intro same
    have taken : ((⟨1⟩, .fromFrame .empty ⟨0x2020, 0x2020, 0x20, 0x20⟩),
        [(⟨1⟩, ⟨Vector.replicate 7 0x20⟩)]) ∈
          (MouseRun.after [.push ⟨1⟩ ⟨Vector.replicate 7 0x20⟩,
            .takeNext ⟨1⟩] : MouseRun 4).log.taken := by
      decide +kernel
    exact absurd (same _ taken _ List.mem_cons_self) (by decide +kernel)

/-- Movement is passed on whole by both places that add it up, in reports that
show the five buttons it was pushed with. -/
theorem mouse_movement_conserved {hosts : Nat} (calls : List MouseCall)
    (idle : Along MouseRun.perform MouseRun.SetsIdle
      (MouseRun.start : MouseRun hosts) calls)
    (interfaces : Nat) (movements : List MovementCall) :
    (MouseRun.after calls : MouseRun hosts).Passes
        (Along MouseRun.perform MouseRun.Fits (MouseRun.start : MouseRun hosts)
          calls) ∧
      (MovementRun.after interfaces movements).Passes
        (Along MovementRun.perform MovementRun.Fits
          (MovementRun.start interfaces) movements) :=
  ⟨MouseRun.passes idle, MovementRun.passes interfaces movements⟩

/-- Two movements that come out as one report, one with other buttons that is
refused between them, and then the button state. -/
theorem mouse_movement_conserved_two : let calls : List MouseCall :=
      [.push ⟨1⟩ ⟨Vector.replicate 7 1⟩, .push ⟨1⟩ ⟨Vector.replicate 7 2⟩,
        .push ⟨1⟩ ⟨Vector.replicate 7 1⟩, .takeNext ⟨1⟩, .setButtons ⟨1⟩ 2]
    (MouseRun.after calls : MouseRun 4).Passes
        (Along MouseRun.perform MouseRun.Fits (MouseRun.start : MouseRun 4)
          calls) ∧
      (MouseRun.after calls : MouseRun 4).log.taken.length = 1 := by
  intro calls
  have idle : Along MouseRun.perform MouseRun.SetsIdle
      (MouseRun.start : MouseRun 4) calls :=
    ⟨trivial, trivial, trivial, trivial,
      (by change _ = false; decide +kernel), trivial⟩
  exact ⟨(mouse_movement_conserved calls idle 1 []).1, by decide +kernel⟩

end HidShift
