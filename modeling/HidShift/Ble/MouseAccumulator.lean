import HidShift.Ble.Command
import HidShift.Lib.InPlace

/-! Mouse movement waiting for room on a lane (`mouse_accumulator.rs`).  The
four sums are 32-bit in the source; here they are integers that
`saturatingAdd` keeps in that range. -/

namespace HidShift

open Lib

structure PendingMouseState where
  buttons : BitVec 8
  x : Int
  y : Int
  wheel : Int
  pan : Int
  pending : Bool

def PendingMouseState.default : PendingMouseState :=
  ⟨0, 0, 0, 0, 0, false⟩

structure MouseAccumulatorStats where
  reportsCoalesced : UInt32
  movementSaturated : UInt32

structure MouseReportAccumulator (hosts : Nat) where
  hosts : Fin hosts → PendingMouseState
  stats : MouseAccumulatorStats

def saturatingAdd (current delta : Int) (stats : MouseAccumulatorStats) :
    Int × MouseAccumulatorStats :=
  let sum := current + delta
  if -0x80000000 ≤ sum ∧ sum ≤ 0x7fffffff then
    (sum, stats)
  else
    (max (-0x80000000) (min 0x7fffffff sum),
      { stats with
        movementSaturated := saturatingSucc stats.movementSaturated })

/-- The part of a sum that fits one report, and what is left of the sum. -/
def takeAxis (low high value : Int) : Int × Int :=
  let part := max low (min high value)
  (part, value - part)

def takeAxisI16 (value : Int) : Int16 × Int :=
  let (part, rest) := takeAxis (-0x8000) 0x7fff value
  (.ofInt part, rest)

def takeAxisI8 (value : Int) : Int8 × Int :=
  let (part, rest) := takeAxis (-0x80) 0x7f value
  (.ofInt part, rest)

namespace PendingMouseState

def merge (state : PendingMouseState) (report : MouseReport)
    (stats : MouseAccumulatorStats) :
    PendingMouseState × MouseAccumulatorStats :=
  let movement := report.movement
  let stats :=
    if state.pending then
      { stats with
        reportsCoalesced := saturatingSucc stats.reportsCoalesced }
    else
      stats
  let (x, stats) := saturatingAdd state.x movement.x.toInt stats
  let (y, stats) := saturatingAdd state.y movement.y.toInt stats
  let (wheel, stats) := saturatingAdd state.wheel movement.wheel.toInt stats
  let (pan, stats) := saturatingAdd state.pan movement.pan.toInt stats
  (⟨report.buttons, x, y, wheel, pan, true⟩, stats)

def takeReport (state : PendingMouseState) : MouseReport × PendingMouseState :=
  let (x, xRest) := takeAxisI16 state.x
  let (y, yRest) := takeAxisI16 state.y
  let (wheel, wheelRest) := takeAxisI8 state.wheel
  let (pan, panRest) := takeAxisI8 state.pan
  (.fromFrame (.fromBitsTruncate state.buttons) ⟨x, y, wheel, pan⟩,
    ⟨state.buttons, xRest, yRest, wheelRest, panRest,
      xRest != 0 || yRest != 0 || wheelRest != 0 || panRest != 0⟩)

def remaining (state : PendingMouseState) : Nat :=
  state.x.natAbs + state.y.natAbs + state.wheel.natAbs + state.pan.natAbs +
    state.pending.toNat

end PendingMouseState

namespace MouseReportAccumulator

variable {hosts : Nat}

def new : MouseReportAccumulator hosts := ⟨fun _ => .default, ⟨0, 0⟩⟩

def state (accumulator : MouseReportAccumulator hosts) (hostId : HostId) :
    PendingMouseState :=
  match hostIndex hosts hostId with
  | some index => accumulator.hosts index
  | none => .default

def isPending (accumulator : MouseReportAccumulator hosts)
    (hostId : HostId) : Bool :=
  (accumulator.state hostId).pending

/-- Nothing changes when the report is refused. -/
def push (accumulator : MouseReportAccumulator hosts) (hostId : HostId)
    (report : MouseReport) : Option (MouseReportAccumulator hosts) :=
  match hostIndex hosts hostId with
  | none => none
  | some index =>
      let state := accumulator.hosts index
      if report.buttons ≠ state.buttons ∧ state.pending then
        none
      else
        let (state, stats) := state.merge report accumulator.stats
        some ⟨Function.update accumulator.hosts index state, stats⟩

/-- `push` on the accumulator in place; a refused report throws. -/
def pushInPlace (hostId : HostId) (report : MouseReport) :
    InPlace Unit (MouseReportAccumulator hosts) Unit := do
  let some index := hostIndex hosts hostId | throw ()
  let state := (← get).hosts index
  if report.buttons ≠ state.buttons then
    if state.pending then
      throw ()
    modify fun accumulator =>
      { accumulator with
        hosts := Function.update accumulator.hosts index
          { state with buttons := report.buttons } }
  modify fun accumulator =>
    let (state, stats) :=
      (accumulator.hosts index).merge report accumulator.stats
    ⟨Function.update accumulator.hosts index state, stats⟩

def setButtons (accumulator : MouseReportAccumulator hosts)
    (hostId : HostId) (buttons : BitVec 8) : MouseReportAccumulator hosts :=
  match hostIndex hosts hostId with
  | none => accumulator
  | some index =>
      { accumulator with
        hosts := Function.update accumulator.hosts index
          { accumulator.hosts index with buttons } }

def takeNext (accumulator : MouseReportAccumulator hosts) (hostId : HostId) :
    Option (MouseReport × MouseReportAccumulator hosts) :=
  match hostIndex hosts hostId with
  | none => none
  | some index =>
      let state := accumulator.hosts index
      if state.pending then
        let (report, state) := state.takeReport
        some (report,
          { accumulator with
            hosts := Function.update accumulator.hosts index state })
      else
        none

end MouseReportAccumulator

namespace PendingMouseState

theorem takeAxis_rest_le (lowNeg : low < 0) (highPos : 0 < high) (value : Int) :
    (takeAxis low high value).2.natAbs ≤ value.natAbs ∧
      ((takeAxis low high value).2 ≠ 0 →
        (takeAxis low high value).2.natAbs < value.natAbs) := by
  simp only [takeAxis]
  omega

theorem takeAxisI16_rest_le (value : Int) :
    (takeAxisI16 value).2.natAbs ≤ value.natAbs ∧
      ((takeAxisI16 value).2 ≠ 0 →
        (takeAxisI16 value).2.natAbs < value.natAbs) :=
  takeAxis_rest_le (by decide) (by decide) value

theorem takeAxisI8_rest_le (value : Int) :
    (takeAxisI8 value).2.natAbs ≤ value.natAbs ∧
      ((takeAxisI8 value).2 ≠ 0 → (takeAxisI8 value).2.natAbs < value.natAbs) :=
  takeAxis_rest_le (by decide) (by decide) value

theorem remaining_takeReport_lt {state : PendingMouseState}
    (pending : state.pending = true) :
    state.takeReport.2.remaining < state.remaining := by
  have x := takeAxisI16_rest_le state.x
  have y := takeAxisI16_rest_le state.y
  have wheel := takeAxisI8_rest_le state.wheel
  have pan := takeAxisI8_rest_le state.pan
  simp only [remaining, takeReport, pending, Bool.toNat_true]
  -- Either everything fitted this report, or a part of some axis was taken.
  by_cases rest : (takeAxisI16 state.x).2 = 0 ∧ (takeAxisI16 state.y).2 = 0 ∧
      (takeAxisI8 state.wheel).2 = 0 ∧ (takeAxisI8 state.pan).2 = 0
  · obtain ⟨xZero, yZero, wheelZero, panZero⟩ := rest
    simp [xZero, yZero, wheelZero, panZero]
  · have bound := Bool.toNat_le
      ((takeAxisI16 state.x).2 != 0 || (takeAxisI16 state.y).2 != 0 ||
        (takeAxisI8 state.wheel).2 != 0 || (takeAxisI8 state.pan).2 != 0)
    omega

theorem buttons_takeReport (state : PendingMouseState) :
    MouseButtons.fromBitsTruncate state.takeReport.1.buttons =
      .fromBitsTruncate state.buttons := by
  apply MouseButtons.ext
  exact MouseButtons.bits_and_mask _

end PendingMouseState

namespace MouseReportAccumulator

variable {hosts : Nat} {accumulator next : MouseReportAccumulator hosts}
  {hostId other : HostId} {report : MouseReport}

theorem state_update (accumulator : MouseReportAccumulator hosts)
    (found : hostIndex hosts hostId = some index) (value : PendingMouseState)
    (stats : MouseAccumulatorStats) (other : HostId) :
    state ⟨Function.update accumulator.hosts index value, stats⟩ other =
      if other = hostId then value else accumulator.state other := by
  simp only [state]
  by_cases same : other = hostId
  · rw [if_pos same, same, found]
    exact Function.update_self ..
  · rw [if_neg same]
    cases read : hostIndex hosts other with
    | none => rfl
    | some otherIndex =>
        have apart : otherIndex ≠ index := by
          rintro rfl
          exact same (hostIndex_injective read found)
        exact Function.update_of_ne apart _ _

theorem state_of_index (found : hostIndex hosts hostId = some index) :
    accumulator.state hostId = accumulator.hosts index := by
  simp only [state]
  rw [found]

theorem pushInPlace_updates (hostId : HostId) (report : MouseReport) :
    InPlace.Updates (pushInPlace hostId report)
      fun accumulator : MouseReportAccumulator hosts =>
        (accumulator.push hostId report).elim (.error ()) .ok := by
  intro accumulator
  simp only [pushInPlace, push]
  cases found : hostIndex hosts hostId with
  | none => simp
  | some index =>
      by_cases differs : report.buttons ≠ (accumulator.hosts index).buttons
      · cases pending : (accumulator.hosts index).pending with
        | true => simp [differs, pending]
        | false =>
            simp [differs, pending, Function.update_idem,
              PendingMouseState.merge]
      · simp [not_not.mp differs]

theorem push_eq_some (pushed : accumulator.push hostId report = some next) :
    (next.state hostId).pending = true ∧
      (next.state hostId).buttons = report.buttons ∧
        ∀ other, other ≠ hostId →
          next.state other = accumulator.state other := by
  unfold push at pushed
  cases found : hostIndex hosts hostId with
  | none =>
      rw [found] at pushed
      cases pushed
  | some index =>
      rw [found] at pushed
      dsimp only at pushed
      split at pushed
      · cases pushed
      · obtain rfl := Option.some.inj pushed
        have update := state_update accumulator found
          ((accumulator.hosts index).merge report accumulator.stats).1
          ((accumulator.hosts index).merge report accumulator.stats).2
        refine ⟨?_, ?_, fun other different => ?_⟩
        · rw [update, if_pos rfl]
          rfl
        · rw [update, if_pos rfl]
          rfl
        · rw [update, if_neg different]

theorem state_setButtons_pending (buttons : BitVec 8) (other : HostId) :
    ((accumulator.setButtons hostId buttons).state other).pending =
      (accumulator.state other).pending := by
  simp only [setButtons]
  cases found : hostIndex hosts hostId with
  | none => rfl
  | some index =>
      rw [state_update accumulator found]
      by_cases same : other = hostId
      · rw [if_pos same, same, state_of_index found]
      · rw [if_neg same]

theorem state_setButtons_other (buttons : BitVec 8)
    (different : other ≠ hostId) :
    (accumulator.setButtons hostId buttons).state other =
      accumulator.state other := by
  simp only [setButtons]
  cases found : hostIndex hosts hostId with
  | none => rfl
  | some index =>
      rw [state_update accumulator found, if_neg different]

theorem takeNext_eq_none_iff :
    accumulator.takeNext hostId = none ↔
      (accumulator.state hostId).pending = false := by
  simp only [takeNext, state]
  cases hostIndex hosts hostId with
  | none => exact iff_of_true rfl rfl
  | some index =>
      cases pending : (accumulator.hosts index).pending with
      | true => simp [pending]
      | false => simp [pending]

theorem takeNext_eq_some
    (taken : accumulator.takeNext hostId = some (report, next)) :
    (accumulator.state hostId).pending = true ∧
      report = (accumulator.state hostId).takeReport.1 ∧
        ∀ other, next.state other =
          if other = hostId then (accumulator.state hostId).takeReport.2
          else accumulator.state other := by
  unfold takeNext at taken
  cases found : hostIndex hosts hostId with
  | none =>
      rw [found] at taken
      cases taken
  | some index =>
      rw [found] at taken
      dsimp only at taken
      split at taken
      · rename_i pending
        obtain ⟨rfl, rfl⟩ := Prod.mk.inj (Option.some.inj taken)
        rw [state_of_index found]
        exact ⟨pending, rfl, state_update accumulator found _ _⟩
      · cases taken

def drain (accumulator : MouseReportAccumulator hosts) (hostId : HostId) :
    List MouseReport × MouseReportAccumulator hosts :=
  match _ : accumulator.takeNext hostId with
  | none => ([], accumulator)
  | some (report, next) =>
      let (reports, last) := next.drain hostId
      (report :: reports, last)
termination_by (accumulator.state hostId).remaining
decreasing_by
  rename_i taken
  obtain ⟨pending, -, states⟩ := takeNext_eq_some taken
  rw [states, if_pos rfl]
  exact PendingMouseState.remaining_takeReport_lt pending

/-- Draining leaves nothing pending for the host, sends at least one report
when something was, and shows the same buttons in each of them. -/
theorem drain_spec (accumulator : MouseReportAccumulator hosts)
    (hostId : HostId) :
    (((accumulator.drain hostId).2.state hostId).pending = false ∧
      ∀ other, other ≠ hostId →
        (accumulator.drain hostId).2.state other = accumulator.state other) ∧
      ((accumulator.drain hostId).1 = [] ↔
        (accumulator.state hostId).pending = false) ∧
        ∀ report ∈ (accumulator.drain hostId).1,
          MouseButtons.fromBitsTruncate report.buttons =
            .fromBitsTruncate (accumulator.state hostId).buttons := by
  fun_induction drain accumulator hostId with
  | case1 accumulator taken =>
      have idle := takeNext_eq_none_iff.mp taken
      exact ⟨⟨idle, fun _ _ => rfl⟩, iff_of_true rfl idle, nofun⟩
  | case2 accumulator report next taken reports last drained ih =>
      obtain ⟨pending, rfl, states⟩ := takeNext_eq_some taken
      rw [drained] at ih
      obtain ⟨⟨idle, others⟩, -, shown⟩ := ih
      refine ⟨⟨idle, fun other different => ?_⟩, ?_, ?_⟩
      · rw [others other different, states, if_neg different]
      · simp [pending]
      · intro report member
        rcases List.mem_cons.mp member with rfl | later
        · exact PendingMouseState.buttons_takeReport _
        · rw [shown report later, states, if_pos rfl]
          rfl

end MouseReportAccumulator

end HidShift
