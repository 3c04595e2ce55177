import HidShift.Lib.Run
import HidShift.UsbHost.Movement

namespace HidShift

open Lib

theorem join_bytes (value : BitVec 16) :
    (value >>> 8).setWidth 8 ++ value.setWidth 8 = value := by
  apply BitVec.eq_of_getLsbD_eq
  intro i inWord
  rw [BitVec.getLsbD_append]
  by_cases low : i < 8
  · simp [low]
  · simp [low, show i - 8 < 8 by omega, show 8 + (i - 8) = i by omega]

@[simp] theorem MouseReport.movement_fromFrame (buttons : MouseButtons)
    (movement : MouseMovement) :
    (fromFrame buttons movement).movement = movement := by
  have x := join_bytes movement.x.toBitVec
  have y := join_bytes movement.y.toBitVec
  change MouseMovement.mk
    (.ofBitVec ((movement.x.toBitVec >>> 8).setWidth 8 ++
      movement.x.toBitVec.setWidth 8))
    (.ofBitVec ((movement.y.toBitVec >>> 8).setWidth 8 ++
      movement.y.toBitVec.setWidth 8))
    movement.wheel.toUInt8.toInt8 movement.pan.toUInt8.toInt8 = _
  rw [x, y]
  rfl

namespace PendingMouseState

def along (state : PendingMouseState) : MouseAxis → Int
  | .x => state.x
  | .y => state.y
  | .wheel => state.wheel
  | .pan => state.pan

theorem along_merge (state : PendingMouseState) (report : MouseReport)
    (stats : MouseAccumulatorStats) (axis : MouseAxis) :
    (state.merge report stats).1.along axis =
      clampI32 (state.along axis + report.movement.along axis) := by
  cases axis <;> exact addAxis_fst ..

theorem along_takeReport (state : PendingMouseState) (axis : MouseAxis) :
    state.takeReport.1.movement.along axis + state.takeReport.2.along axis =
      state.along axis := by
  rw [takeReport, MouseReport.movement_fromFrame]
  cases axis with
  | x => exact PendingMovement.takeAxisI16_sum state.x
  | y => exact PendingMovement.takeAxisI16_sum state.y
  | wheel => exact PendingMovement.takeAxisI8_sum state.wheel
  | pan => exact PendingMovement.takeAxisI8_sum state.pan

theorem along_of_done {state : PendingMouseState}
    (done : state.takeReport.2.pending = false) (axis : MouseAxis) :
    state.takeReport.2.along axis = 0 := by
  simp only [takeReport, Bool.or_eq_false_iff, bne_eq_false_iff_eq] at done
  cases axis <;> simp [along, takeReport, done]

end PendingMouseState

def mouseCoalescing : Coalescing (HostId × MouseReport) HostId MouseAxis
    MouseButtons where
  key := Prod.fst
  mark entry := .fromBitsTruncate entry.2.buttons
  amount entry := entry.2.movement.along
  clamp := clampI32

namespace MouseReportAccumulator

variable {hosts : Nat}

def coalesced (accumulator : MouseReportAccumulator hosts) :
    Coalesced HostId MouseAxis MouseButtons where
  held hostId := (accumulator.state hostId).along
  mark hostId :=
    if accumulator.isPending hostId then
      some (.fromBitsTruncate (accumulator.state hostId).buttons)
    else
      none

def Settled (accumulator : MouseReportAccumulator hosts) : Prop :=
  ∀ hostId, accumulator.isPending hostId = false →
    ∀ axis, (accumulator.state hostId).along axis = 0

variable {accumulator next : MouseReportAccumulator hosts} {hostId : HostId}
  {report : MouseReport}

theorem push_state (pushed : accumulator.push hostId report = some next) :
    ((accumulator.state hostId).pending = true →
      (accumulator.state hostId).buttons = report.buttons) ∧
    ∀ other, next.state other =
      if other = hostId then
        ((accumulator.state hostId).merge report accumulator.stats).1
      else
        accumulator.state other := by
  unfold push at pushed
  cases found : hostIndex hosts hostId with
  | none =>
      rw [found] at pushed
      cases pushed
  | some index =>
      rw [found] at pushed
      dsimp only at pushed
      by_cases refused : report.buttons ≠ (accumulator.hosts index).buttons ∧
          (accumulator.hosts index).pending
      · rw [if_pos refused] at pushed
        cases pushed
      · rw [if_neg refused] at pushed
        obtain rfl := Option.some.inj pushed
        rw [state_of_index found]
        refine ⟨fun pending => ?_, state_update accumulator found _ _⟩
        by_contra differs
        exact refused ⟨fun same => differs same.symm, pending⟩

theorem coalesced_elsewhere (others : ∀ other, other ≠ hostId →
      next.state other = accumulator.state other) :
    Coalescing.Elsewhere hostId accumulator.coalesced next.coalesced where
  held other different := by
    change (next.state other).along = _
    rw [others other different]
    rfl
  mark other different := by
    change ite ((next.state other).pending = true) _ _ = _
    rw [others other different]
    rfl

theorem push_accepts (pushed : accumulator.push hostId report = some next) :
    mouseCoalescing.Accepts accumulator.coalesced next.coalesced
      (hostId, report) := by
  obtain ⟨matching, states⟩ := push_state pushed
  have own := states hostId
  rw [if_pos rfl] at own
  refine ⟨fun mark held => ?_, ?_, fun axis => ?_, ?_⟩
  · change ite ((accumulator.state hostId).pending = true) (some
      (MouseButtons.fromBitsTruncate (accumulator.state hostId).buttons)) _ =
        _ at held
    by_cases pending : (accumulator.state hostId).pending = true
    · rw [if_pos pending, matching pending] at held
      exact (Option.some.inj held).symm
    · rw [if_neg pending] at held
      cases held
  · change ite ((next.state hostId).pending = true)
      (some (MouseButtons.fromBitsTruncate (next.state hostId).buttons)) _ = _
    rw [own]
    rfl
  · change (next.state hostId).along axis = _
    rw [own]
    exact PendingMouseState.along_merge ..
  · have others : ∀ other, other ≠ hostId →
        next.state other = accumulator.state other := by
      intro other different
      rw [states, if_neg different]
    exact coalesced_elsewhere others

theorem takeNext_gives
    (taken : accumulator.takeNext hostId = some (report, next)) :
    mouseCoalescing.Gives accumulator.coalesced next.coalesced
        (hostId, report) ∧
      (next.coalesced.mark hostId).isSome = next.isPending hostId := by
  obtain ⟨pending, rfl, states⟩ := takeNext_eq_some taken
  have own := states hostId
  rw [if_pos rfl] at own
  have shown := PendingMouseState.buttons_takeReport (accumulator.state hostId)
  have mark : next.coalesced.mark hostId =
      if next.isPending hostId then
        some (.fromBitsTruncate (accumulator.state hostId).takeReport.1.buttons)
      else
        none := by
    rw [shown]
    change ite _ (some (MouseButtons.fromBitsTruncate
      (next.state hostId).buttons)) _ = _
    rw [own]
    rfl
  refine ⟨⟨?_, ?_, fun axis => ?_, ?_⟩, ?_⟩
  · change ite ((accumulator.state hostId).pending = true) _ _ = some
      (MouseButtons.fromBitsTruncate _)
    rw [if_pos pending, shown]
    rfl
  · change next.coalesced.mark hostId = none ∨
      next.coalesced.mark hostId = some _
    rw [mark]
    by_cases left : next.isPending hostId = true
    · exact .inr (if_pos left)
    · exact .inl (if_neg left)
  · change _ + (next.state hostId).along axis = _
    rw [own]
    exact PendingMouseState.along_takeReport ..
  · have others : ∀ other, other ≠ hostId →
        next.state other = accumulator.state other := by
      intro other different
      rw [states, if_neg different]
    exact coalesced_elsewhere others
  · rw [mark]
    cases next.isPending hostId <;> rfl

theorem takeNext_settled (settled : accumulator.Settled)
    (taken : accumulator.takeNext hostId = some (report, next)) :
    next.Settled := by
  obtain ⟨_, _, states⟩ := takeNext_eq_some taken
  intro other idle axis
  rw [isPending] at idle
  rw [states] at idle ⊢
  by_cases own : other = hostId
  · rw [if_pos own] at idle ⊢
    exact PendingMouseState.along_of_done idle axis
  · rw [if_neg own] at idle ⊢
    exact settled other idle axis

theorem push_settled (settled : accumulator.Settled)
    (pushed : accumulator.push hostId report = some next) : next.Settled := by
  obtain ⟨pending, _, others⟩ := push_eq_some pushed
  intro other idle axis
  rw [isPending] at idle
  by_cases own : other = hostId
  · rw [own, pending] at idle
    cases idle
  · rw [others other own] at idle ⊢
    exact settled other idle axis

theorem coalesced_setButtons (buttons : BitVec 8)
    (idle : accumulator.isPending hostId = false) :
    (accumulator.setButtons hostId buttons).coalesced =
      accumulator.coalesced := by
  have along : ∀ other,
      ((accumulator.setButtons hostId buttons).state other).along =
        (accumulator.state other).along := by
    intro other
    by_cases own : other = hostId
    · subst own
      rw [setButtons]
      cases found : hostIndex hosts other with
      | none => rfl
      | some index =>
          dsimp only
          rw [state_update accumulator found, if_pos rfl, state_of_index found]
          funext axis
          cases axis <;> rfl
    · rw [state_setButtons_other buttons own]
  have marks : ∀ other,
      (accumulator.setButtons hostId buttons).coalesced.mark other =
        accumulator.coalesced.mark other := by
    intro other
    have pending :
        ((accumulator.setButtons hostId buttons).state other).pending =
          (accumulator.state other).pending :=
      state_setButtons_pending buttons other
    change ite (_ = true) _ _ = ite (_ = true) _ _
    rw [isPending, isPending, pending]
    by_cases own : other = hostId
    · subst own
      rw [isPending] at idle
      rw [idle]
      rfl
    · rw [state_setButtons_other buttons own]
  exact congrArg₂ Coalesced.mk (funext along) (funext marks)

theorem drain_moves (settled : accumulator.Settled) (axis : MouseAxis) :
    ((accumulator.drain hostId).1.map (·.movement.along axis)).sum =
      (accumulator.state hostId).along axis := by
  fun_induction drain accumulator hostId with
  | case1 accumulator taken =>
      rw [settled hostId (takeNext_eq_none_iff.mp taken)]
      rfl
  | case2 accumulator report next taken reports last drained ih =>
      have rest := ih (takeNext_settled settled taken)
      obtain ⟨_, rfl, states⟩ := takeNext_eq_some taken
      rw [drained, states, if_pos rfl] at rest
      rw [List.map_cons, List.sum_cons, rest]
      exact PendingMouseState.along_takeReport ..

end MouseReportAccumulator

inductive MouseCall
  | push (hostId : HostId) (report : MouseReport)
  | takeNext (hostId : HostId)
  | setButtons (hostId : HostId) (buttons : BitVec 8)

structure MouseRun (hosts : Nat) where
  accumulator : MouseReportAccumulator hosts
  log : CoalescingLog (HostId × MouseReport) HostId

namespace MouseRun

variable {hosts : Nat}

def start : MouseRun hosts := ⟨.new, .empty⟩

def perform (run : MouseRun hosts) : MouseCall → MouseRun hosts
  | .push hostId report =>
      match (MouseReportAccumulator.pushInPlace hostId report).run
          run.accumulator with
      | .error _ left => { run with accumulator := left }
      | .ok _ next => ⟨next, mouseCoalescing.accept run.log (hostId, report)⟩
  | .takeNext hostId =>
      match run.accumulator.takeNext hostId with
      | none => run
      | some (report, next) =>
          ⟨next, mouseCoalescing.give run.log (hostId, report)
            (next.isPending hostId)⟩
  | .setButtons hostId buttons =>
      { run with accumulator := run.accumulator.setButtons hostId buttons }

/-- Buttons are set while nothing is pending, as the sink does. -/
def SetsIdle (run : MouseRun hosts) : MouseCall → Prop
  | .setButtons hostId _ => run.accumulator.isPending hostId = false
  | _ => True

def Fits (run : MouseRun hosts) : MouseCall → Prop
  | .push hostId report =>
      (run.accumulator.push hostId report).isSome → ∀ axis,
        -0x80000000 ≤ (run.accumulator.state hostId).along axis +
            report.movement.along axis ∧
          (run.accumulator.state hostId).along axis +
            report.movement.along axis ≤ 0x7fffffff
  | _ => True

def after (calls : List MouseCall) : MouseRun hosts :=
  calls.foldl perform start

structure Sound (run : MouseRun hosts) : Prop where
  settled : run.accumulator.Settled
  marked : mouseCoalescing.Marked run.accumulator.coalesced run.log
  bits : ∀ entry ∈ run.log.taken, entry.1.2.buttons =
    (MouseButtons.fromBitsTruncate entry.1.2.buttons).bits

def Balanced (run : MouseRun hosts) : Prop :=
  mouseCoalescing.Balanced run.accumulator.coalesced run.log

theorem idle_start (hostId : HostId) :
    (start : MouseRun hosts).accumulator.state hostId = .default := by
  change MouseReportAccumulator.state .new hostId = _
  rw [MouseReportAccumulator.state]
  cases hostIndex hosts hostId <;> rfl

theorem held_start (hostId : HostId) (axis : MouseAxis) :
    (start : MouseRun hosts).accumulator.coalesced.held hostId axis = 0 := by
  change (MouseReportAccumulator.state _ hostId).along axis = 0
  rw [idle_start]
  cases axis <;> rfl

theorem sound_start : (start : MouseRun hosts).Sound where
  settled hostId _ axis := held_start hostId axis
  marked := Coalescing.marked_empty fun hostId => by
    change ite ((MouseReportAccumulator.state _ hostId).pending = true) _ _ = _
    rw [idle_start]
    rfl
  bits _ member := (List.not_mem_nil member).elim

theorem balanced_start : (start : MouseRun hosts).Balanced :=
  Coalescing.balanced_empty held_start

theorem settled_setButtons {accumulator : MouseReportAccumulator hosts}
    (settled : accumulator.Settled) (buttons : BitVec 8)
    (idle : accumulator.isPending hostId = false) :
    (accumulator.setButtons hostId buttons).Settled := by
  have same := accumulator.coalesced_setButtons buttons idle
  intro other quiet axis
  have held := congrArg (fun seen => seen.held other axis) same
  rw [MouseReportAccumulator.isPending,
    MouseReportAccumulator.state_setButtons_pending] at quiet
  exact held.trans (settled other quiet axis)

theorem perform_push (run : MouseRun hosts) (hostId : HostId)
    (report : MouseReport) :
    run.perform (.push hostId report) =
      (run.accumulator.push hostId report).elim run
        fun next =>
          ⟨next, mouseCoalescing.accept run.log (hostId, report)⟩ := by
  obtain ⟨accepts, refuses⟩ :=
    MouseReportAccumulator.pushInPlace_updates hostId report run.accumulator
  cases pushed : run.accumulator.push hostId report with
  | none =>
      rw [perform, refuses () (by simp [pushed])]
      rfl
  | some next =>
      rw [perform, accepts next (by simp [pushed])]
      rfl

theorem Sound.perform {run : MouseRun hosts} (sound : run.Sound)
    (call : MouseCall) (idle : run.SetsIdle call) :
    (run.perform call).Sound := by
  cases call with
  | push hostId report =>
      rw [perform_push]
      cases pushed : run.accumulator.push hostId report with
      | none => exact sound
      | some next =>
          exact ⟨MouseReportAccumulator.push_settled sound.settled pushed,
            sound.marked.accept (MouseReportAccumulator.push_accepts pushed),
            sound.bits⟩
  | takeNext hostId =>
      simp only [MouseRun.perform]
      cases taken : run.accumulator.takeNext hostId with
      | none => exact sound
      | some result =>
          obtain ⟨gives, left⟩ := MouseReportAccumulator.takeNext_gives taken
          have marked := sound.marked.give gives
          refine ⟨MouseReportAccumulator.takeNext_settled sound.settled taken,
            ?_, ?_⟩
          · change mouseCoalescing.Marked result.2.coalesced
              (mouseCoalescing.give run.log (hostId, result.1)
                (result.2.isPending hostId))
            rw [← left]
            exact marked
          · intro entry member
            rcases List.mem_append.mp member with old | latest
            · exact sound.bits entry old
            · obtain ⟨_, same, _⟩ :=
                MouseReportAccumulator.takeNext_eq_some taken
              rw [List.mem_singleton.mp latest]
              dsimp only
              rw [same, PendingMouseState.buttons_takeReport]
              rfl
  | setButtons hostId buttons =>
      refine ⟨settled_setButtons sound.settled buttons idle, ?_, sound.bits⟩
      change mouseCoalescing.Marked
        (run.accumulator.setButtons hostId buttons).coalesced run.log
      rw [run.accumulator.coalesced_setButtons buttons idle]
      exact sound.marked

theorem Balanced.perform {run : MouseRun hosts} (balanced : run.Balanced)
    (call : MouseCall) (idle : run.SetsIdle call) (fits : run.Fits call) :
    (run.perform call).Balanced := by
  cases call with
  | push hostId report =>
      rw [perform_push]
      cases pushed : run.accumulator.push hostId report with
      | none => exact balanced
      | some next =>
          refine Coalescing.Balanced.accept balanced
            (MouseReportAccumulator.push_accepts pushed) fun axis => ?_
          exact clampI32_of_fits (fits (by rw [pushed]; rfl) axis)
  | takeNext hostId =>
      simp only [MouseRun.perform]
      cases taken : run.accumulator.takeNext hostId with
      | none => exact balanced
      | some result =>
          exact Coalescing.Balanced.give balanced
            (MouseReportAccumulator.takeNext_gives taken).1 _
  | setButtons hostId buttons =>
      change mouseCoalescing.Balanced
        (run.accumulator.setButtons hostId buttons).coalesced run.log
      rw [run.accumulator.coalesced_setButtons buttons idle]
      exact balanced

end MouseRun

end HidShift
