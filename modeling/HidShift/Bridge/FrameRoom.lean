import HidShift.Bridge.InputAggregate
import HidShift.Lib.Agreement

namespace HidShift

open Lib InPlace

/-- Two action vectors got the same reports so far, `sent` at most. -/
structure SameNext {few many : Nat} (sent : Nat) (left : NextInput few)
    (right : NextInput many) : Prop where
  input : left.input = right.input
  suppression : left.suppression = right.suppression
  stats : left.stats = right.stats
  out : left.out.toList = right.out.toList
  bounded : left.out.toList.length ≤ sent

section

variable {few many sent : Nat} {left : NextInput few}
  {right : NextInput many}

theorem SameNext.later (same : SameNext sent left right) :
    SameNext (sent + 1) left right :=
  ⟨same.input, same.suppression, same.stats, same.out,
    Nat.le_succ_of_le same.bounded⟩

theorem push_room {next : NextInput capacity} {list : List BridgeAction}
    (room : next.out.toList.length + list.length ≤ capacity) :
    next.push list = .ok { next with out :=
      ⟨next.out.toList ++ list, by rw [List.length_append]; exact room⟩ } := by
  unfold NextInput.push
  rw [BoundedVec.extend?_eq_some.mpr]
  rfl

theorem SameNext.push (same : SameNext sent left right)
    {list : List BridgeAction} (one : list.length ≤ 1)
    (roomLeft : sent < few) (roomRight : sent < many) :
    Agree (SameNext (sent + 1)) (left.push list) (right.push list) := by
  have bounded := same.bounded
  have lengths := congrArg List.length same.out
  rw [push_room (by omega), push_room (by omega)]
  refine .ok ⟨same.input, same.suppression, same.stats, ?_, ?_⟩
  · exact congrArg (· ++ list) same.out
  · rw [List.length_append]
    omega

variable {build : Build} {bridge : BridgeState}
  {aggregate : PhysicalInputState}

theorem frameKeyboard_agrees (same : SameNext sent left right)
    (roomLeft : sent < few) (roomRight : sent < many) :
    Agree (SameNext (sent + 1)) (bridge.frameKeyboard build aggregate left)
      (bridge.frameKeyboard build aggregate right) := by
  refine Agree.bind_same fun applied => Agree.bind_same fun window => ?_
  have one : (bridge.keyboardReports build applied.1 window.1).length ≤ 1 := by
    unfold BridgeState.keyboardReports
    split <;> simp
  refine Agree.bind (same.push one roomLeft roomRight) fun first second =>
    fun pushed => .ok ?_
  refine ⟨?_, ?_, ?_, pushed.out, pushed.bounded⟩
  · simp only [pushed.input]
  · simp only [pushed.suppression]
  · simp only [pushed.stats, same.stats]

theorem frameMouse_agrees (mouse : MouseFrame)
    (same : SameNext sent left right) (roomLeft : sent < few)
    (roomRight : sent < many) :
    Agree (SameNext (sent + 1)) (bridge.frameMouse build aggregate mouse left)
      (bridge.frameMouse build aggregate mouse right) := by
  unfold BridgeState.frameMouse
  refine Agree.bind (same.push ?_ roomLeft roomRight) fun first second =>
    fun pushed => .ok ?_
  · unfold BridgeState.mouseReports
    split <;> simp
  · refine ⟨?_, ?_, ?_, pushed.out, pushed.bounded⟩
    · simp only [pushed.input]
    · simp only [pushed.suppression]
    · simp only [pushed.stats, same.stats]

theorem frameConsumer_agrees (same : SameNext sent left right)
    (roomLeft : sent < few) (roomRight : sent < many) :
    Agree (SameNext (sent + 1)) (bridge.frameConsumer build aggregate left)
      (bridge.frameConsumer build aggregate right) := by
  unfold BridgeState.frameConsumer
  refine Agree.bind (same.push ?_ roomLeft roomRight) fun first second =>
    fun pushed => .ok ?_
  · unfold BridgeState.consumerReports
    split <;> simp
  · refine ⟨?_, ?_, pushed.stats, pushed.out, pushed.bounded⟩
    · simp only [pushed.input]
    · simp only [pushed.suppression]

theorem withPart_agrees {α : Type} (part : Option α)
    {leftUpdate : α → NextInput few → Except BridgeError (NextInput few)}
    {rightUpdate : α → NextInput many → Except BridgeError (NextInput many)}
    (same : SameNext sent left right)
    (updates : ∀ value, Agree (SameNext (sent + 1)) (leftUpdate value left)
      (rightUpdate value right)) :
    Agree (SameNext (sent + 1)) (left.withPart part leftUpdate)
      (right.withPart part rightUpdate) := by
  cases part with
  | none => exact .ok same.later
  | some value => exact updates value

end

variable {few many : Nat} {build : Build} {bridge : BridgeState}

theorem frameInput_agrees (aggregate : PhysicalInputState)
    (frame : StandardInputFrame) (roomLeft : 3 ≤ few) (roomRight : 3 ≤ many) :
    Agree (SameNext 3)
      (bridge.frameInput build aggregate frame (.empty : BoundedVec _ few))
      (bridge.frameInput build aggregate frame
        (.empty : BoundedVec _ many)) := by
  have start : SameNext 0
      (⟨bridge.input, bridge.suppression, bridge.stats, .empty⟩ :
        NextInput few)
      (⟨bridge.input, bridge.suppression, bridge.stats, .empty⟩ :
        NextInput many) := ⟨rfl, rfl, rfl, rfl, Nat.le_refl 0⟩
  refine Agree.bind (withPart_agrees frame.keyboard start fun _ =>
    frameKeyboard_agrees start (by omega) (by omega)) fun left right => ?_
  intro typed
  refine Agree.bind (withPart_agrees frame.mouse typed fun mouse =>
    frameMouse_agrees mouse typed (by omega) (by omega)) fun left right => ?_
  intro moved
  exact withPart_agrees frame.consumer moved fun _ =>
    frameConsumer_agrees moved (by omega) (by omega)

structure SameWork (left : BridgeWork few) (right : BridgeWork many) :
    Prop where
  bridge : left.bridge = right.bridge
  out : left.out.toList = right.out.toList
  bounded : left.out.toList.length ≤ 3

theorem handleStandardInputFrame_finish (frame : StandardInputFrame)
    (out : BoundedVec BridgeAction capacity) :
    (handleStandardInputFrame build frame).finish ⟨bridge, out⟩ = (do
      let prepared ← Except.mapInputError
        (bridge.inputDevices.prepareFrame frame)
      let next ← bridge.frameInput build
        (prepared.aggregateOver bridge.inputDevices) frame out
      return ({
        bridge := { bridge with
          inputDevices := bridge.inputDevices.commitFrame prepared
          input := next.input
          suppression := next.suppression
          stats := next.stats }
        out := next.out } : BridgeWork capacity)) := by
  have reads : (get : BridgeM capacity (BridgeWork capacity)).run
      ⟨bridge, out⟩ = .ok ⟨bridge, out⟩ ⟨bridge, out⟩ := rfl
  unfold handleStandardInputFrame finish
  rw [run_bind_ok reads]
  cases bridge.inputDevices.prepareFrame frame with
  | error error => rfl
  | ok prepared =>
      have lifted : (InPlace.lift BridgeError.input (.ok prepared) :
          BridgeM capacity PreparedInputFrame).run ⟨bridge, out⟩ =
            .ok prepared ⟨bridge, out⟩ := rfl
      rw [run_bind_ok lifted]
      dsimp only [Except.mapInputError]
      rw [ok_bind]
      cases bridge.frameInput build
          (prepared.aggregateOver bridge.inputDevices) frame out with
      | error error => rfl
      | ok next => rfl

theorem handleInputFrame_agrees (frame : InputFrame) (roomLeft : 3 ≤ few)
    (roomRight : 3 ≤ many) :
    Agree SameWork
      ((handleInputFrame build frame).finish
        (⟨bridge, .empty⟩ : BridgeWork few))
      ((handleInputFrame build frame).finish
        (⟨bridge, .empty⟩ : BridgeWork many)) := by
  cases frame with
  | vendor => exact .ok ⟨rfl, rfl, Nat.zero_le 3⟩
  | standard frame =>
      unfold handleInputFrame
      rw [handleStandardInputFrame_finish, handleStandardInputFrame_finish]
      refine Agree.bind_same fun prepared => Agree.bind
        (frameInput_agrees _ frame roomLeft roomRight) fun left right => ?_
      intro same
      refine .ok ⟨?_, same.out, same.bounded⟩
      simp only [same.input, same.suppression, same.stats]

end HidShift
