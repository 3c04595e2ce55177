import HidShift.Lib.Agreement
import HidShift.Runtime.Owner

namespace HidShift

open Lib InPlace

namespace RuntimeCommand

@[simp] def forBle : RuntimeCommand → Option BleTaskCommand
  | .bleCommand command => some command
  | _ => none

/-- Device commands but for the answers to the wired computer. -/
@[simp] def forDevice : RuntimeCommand → Option DeviceTaskCommand
  | .deviceCommand command => some command
  | _ => none

@[simp] def wiredAnswer (build : Build) : RuntimeCommand → Option DeviceTaskCommand
  | .managementResponse destination response =>
      if build = .dual ∧ destination = .wiredHid then
        some (.managementResponse response)
      else
        none
  | _ => none

@[simp] def forUsbHost : RuntimeCommand → Option UsbHostTaskCommand
  | .usbKeyboardLedWrite interfaceId deviceId bytes =>
      some (.keyboardLedWrite interfaceId deviceId bytes)
  | .setUsbHostBusState state => some (.setBusState state)
  | .usbMirrorEndpointOut deviceId report =>
      some (.mirrorEndpointOut deviceId report)
  | .usbMirrorControlRequest deviceId request =>
      some (.mirrorControlRequest deviceId request)
  | _ => none

@[simp] def forStorage : RuntimeCommand → Option StorageTaskCommand
  | .persistStorage state priority => some (.persist state priority)
  | _ => none

@[simp] def forStatus (build : Build) : RuntimeCommand → Option StatusTaskCommand
  | .statusChanged snapshot => some ⟨snapshot.bridgeStatus, snapshot, none⟩
  | .managementResponse destination response =>
      if build = .dual ∧ destination = .wiredHid then
        none
      else
        some ⟨responseStatus response, .empty, some ⟨destination, response⟩⟩
  | _ => none

@[simp] def forEffects : RuntimeCommand → Option RuntimeEffect
  | .applyEffect effect => some effect
  | _ => none

end RuntimeCommand

def RuntimeCapacities.ofLane (capacities : RuntimeCapacities) :
    RuntimeLane → Nat
  | .ble => capacities.bleCommandQueue
  | .device => runtimeDeviceCommandQueueCapacity
  | .usb => capacities.usbCommandQueue
  | .storage => capacities.storageCommandQueue
  | .status => capacities.statusCommandQueue
  | .effects => capacities.statusCommandQueue

namespace RuntimeCommandQueues

variable {build : Build} {capacities : RuntimeCapacities}
  {queues : RuntimeCommandQueues capacities} {commands : List RuntimeCommand}

def laneLength (queues : RuntimeCommandQueues capacities) : RuntimeLane → Nat
  | .ble => queues.ble.toList.length
  | .device => queues.device.toList.length
  | .usb => queues.usbHost.toList.length
  | .storage => queues.storage.toList.length
  | .status => queues.status.toList.length
  | .effects => queues.effects.toList.length

/-- The queues hold a command list: every lane in list order, and before the
device commands the answers to the wired computer, the last one first. -/
structure Carries (build : Build) (queues : RuntimeCommandQueues capacities)
    (commands : List RuntimeCommand) : Prop where
  ble : queues.ble.toList = commands.filterMap RuntimeCommand.forBle
  device : queues.device.toList =
    (commands.filterMap (RuntimeCommand.wiredAnswer build)).reverse ++
      commands.filterMap RuntimeCommand.forDevice
  usbHost : queues.usbHost.toList = commands.filterMap RuntimeCommand.forUsbHost
  storage : queues.storage.toList = commands.filterMap RuntimeCommand.forStorage
  status : queues.status.toList =
    commands.filterMap (RuntimeCommand.forStatus build)
  effects : queues.effects.toList = commands.filterMap RuntimeCommand.forEffects

theorem laneCount_append (build : Build) (first second : List RuntimeCommand)
    (lane : RuntimeLane) :
    laneCount build (first ++ second) lane =
      laneCount build first lane + laneCount build second lane :=
  List.countP_append

theorem laneCount_singleton (build : Build) (command : RuntimeCommand)
    (lane : RuntimeLane) :
    laneCount build [command] lane =
      if command.lane build = lane then 1 else 0 := by
  unfold laneCount
  simp [List.countP_singleton]

theorem length_filterMap_lane {α : Type} {lane : RuntimeLane}
    {select : RuntimeCommand → Option α}
    (selects : ∀ command : RuntimeCommand,
      (select command).isSome = decide (command.lane build = lane))
    (commands : List RuntimeCommand) :
    (commands.filterMap select).length = laneCount build commands lane := by
  rw [List.length_filterMap_eq_countP, funext selects]
  rfl

section

variable (build : Build) (commands : List RuntimeCommand)

theorem length_forDevice :
    (commands.filterMap (RuntimeCommand.wiredAnswer build)).length +
      (commands.filterMap RuntimeCommand.forDevice).length =
        laneCount build commands .device := by
  induction commands with
  | nil => rfl
  | cons command rest ih =>
      rw [← List.singleton_append, List.filterMap_append,
        List.filterMap_append, List.length_append, List.length_append,
        laneCount_append, ← ih]
      have one : ([command].filterMap
          (RuntimeCommand.wiredAnswer build)).length +
          ([command].filterMap RuntimeCommand.forDevice).length =
            laneCount build [command] .device := by
        rw [laneCount_singleton]
        cases command with
        | managementResponse destination response =>
            by_cases wired : build = .dual ∧ destination = .wiredHid
            · simp only [List.filterMap_cons, RuntimeCommand.wiredAnswer,
                RuntimeCommand.forDevice, RuntimeCommand.lane, if_pos wired]
              rfl
            · simp only [List.filterMap_cons, RuntimeCommand.wiredAnswer,
                RuntimeCommand.forDevice, RuntimeCommand.lane, if_neg wired]
              rfl
        | _ => rfl
      omega

theorem length_forBle :
    (commands.filterMap RuntimeCommand.forBle).length =
      laneCount build commands .ble := by
  refine length_filterMap_lane (fun command => ?_) commands
  cases command <;> simp [RuntimeCommand.lane]
  split <;> simp

theorem length_forUsbHost :
    (commands.filterMap RuntimeCommand.forUsbHost).length =
      laneCount build commands .usb := by
  refine length_filterMap_lane (fun command => ?_) commands
  cases command <;> simp [RuntimeCommand.lane]
  split <;> simp

theorem length_forStorage :
    (commands.filterMap RuntimeCommand.forStorage).length =
      laneCount build commands .storage := by
  refine length_filterMap_lane (fun command => ?_) commands
  cases command <;> simp [RuntimeCommand.lane]
  split <;> simp

theorem length_forStatus :
    (commands.filterMap (RuntimeCommand.forStatus build)).length =
      laneCount build commands .status := by
  refine length_filterMap_lane (fun command => ?_) commands
  cases command with
  | managementResponse destination response =>
      simp only [RuntimeCommand.forStatus, RuntimeCommand.lane]
      split <;> rfl
  | _ => rfl

theorem length_forEffects :
    (commands.filterMap RuntimeCommand.forEffects).length =
      laneCount build commands .effects := by
  refine length_filterMap_lane (fun command => ?_) commands
  cases command <;> simp [RuntimeCommand.lane]
  split <;> simp

end

structure Takes (build : Build) (before after : RuntimeCommandQueues capacities)
    (command : RuntimeCommand) : Prop where
  ble : after.ble.toList =
    before.ble.toList ++ [command].filterMap RuntimeCommand.forBle
  device : after.device.toList =
    [command].filterMap (RuntimeCommand.wiredAnswer build) ++
      (before.device.toList ++ [command].filterMap RuntimeCommand.forDevice)
  usbHost : after.usbHost.toList =
    before.usbHost.toList ++ [command].filterMap RuntimeCommand.forUsbHost
  storage : after.storage.toList =
    before.storage.toList ++ [command].filterMap RuntimeCommand.forStorage
  status : after.status.toList =
    before.status.toList ++ [command].filterMap (RuntimeCommand.forStatus build)
  effects : after.effects.toList =
    before.effects.toList ++ [command].filterMap RuntimeCommand.forEffects

variable {command : RuntimeCommand}

theorem Carries.takes (carries : Carries build queues commands)
    (takes : Takes build queues after command) :
    Carries build after (commands ++ [command]) where
  ble := by rw [takes.ble, carries.ble, List.filterMap_append]
  device := by
    have single : ([command].filterMap
        (RuntimeCommand.wiredAnswer build)).reverse =
          [command].filterMap (RuntimeCommand.wiredAnswer build) := by
      rw [List.filterMap_cons]
      split <;> rfl
    rw [takes.device, carries.device, List.filterMap_append,
      List.filterMap_append, List.reverse_append, single,
      List.append_assoc, List.append_assoc]
  usbHost := by rw [takes.usbHost, carries.usbHost, List.filterMap_append]
  storage := by rw [takes.storage, carries.storage, List.filterMap_append]
  status := by rw [takes.status, carries.status, List.filterMap_append]
  effects := by rw [takes.effects, carries.effects, List.filterMap_append]

theorem Takes.laneLength_eq (takes : Takes build queues after command)
    (lane : RuntimeLane) :
    after.laneLength lane =
      queues.laneLength lane + laneCount build [command] lane := by
  cases lane with
  | ble =>
      rw [laneLength, takes.ble, List.length_append, length_forBle build]
      rfl
  | device =>
      rw [laneLength, takes.device, List.length_append, List.length_append,
        ← length_forDevice, laneLength]
      omega
  | usb =>
      rw [laneLength, takes.usbHost, List.length_append,
        length_forUsbHost build]
      rfl
  | storage =>
      rw [laneLength, takes.storage, List.length_append,
        length_forStorage build]
      rfl
  | status =>
      rw [laneLength, takes.status, List.length_append, length_forStatus]
      rfl
  | effects =>
      rw [laneLength, takes.effects, List.length_append,
        length_forEffects build]
      rfl

inductive Pushed (build : Build) (queues : RuntimeCommandQueues capacities)
    (command : RuntimeCommand) :
    EStateM.Result RuntimeDispatchError (RuntimeCommandQueues capacities) Unit →
      Prop
  | taken (after : RuntimeCommandQueues capacities)
      (room : queues.laneLength (command.lane build) <
        capacities.ofLane (command.lane build))
      (takes : Takes build queues after command) :
      Pushed build queues command (.ok () after)
  | full (error : RuntimeDispatchError)
      (noRoom : capacities.ofLane (command.lane build) ≤
        queues.laneLength (command.lane build)) :
      Pushed build queues command (.error error queues)

theorem pushed_of {α : Type} (queue : BoundedVec α capacity) (value : α)
    (save : BoundedVec α capacity → RuntimeCommandQueues capacities)
    (error : RuntimeDispatchError)
    (ran : result = (queue.push? value).elim (.error error queues)
      fun next => .ok () (save next))
    (length : queue.toList.length = queues.laneLength (command.lane build))
    (room : capacity = capacities.ofLane (command.lane build))
    (takes : ∀ next, next.toList = queue.toList ++ [value] →
      Takes build queues (save next) command) :
    Pushed build queues command result := by
  rw [ran]
  cases pushed : queue.push? value with
  | none =>
      refine .full error ?_
      rw [← room, ← length]
      exact BoundedVec.push?_eq_none.mp pushed
  | some next =>
      have now := BoundedVec.push?_eq_some.mp pushed
      refine .taken (save next) ?_ (takes next now)
      have bound := next.length_le
      rw [now, List.length_append, List.length_singleton] at bound
      rw [← room, ← length]
      exact bound

theorem pushUsbHost_pushed (lane : command.lane build = .usb)
    (takes : ∀ next : BoundedVec UsbHostTaskCommand capacities.usbCommandQueue,
      next.toList = queues.usbHost.toList ++ [sent] → Takes build queues {
      queues with usbHost := next } command) :
    Pushed build queues command ((pushUsbHost sent).run queues) := by
  refine pushed_of queues.usbHost sent
    (fun next => { queues with usbHost := next }) .usbQueueCapacity ?_
    (by rw [lane]; rfl) (by rw [lane]; rfl) takes
  cases pushed : queues.usbHost.push? sent <;> simp [pushUsbHost, pushed]

theorem pushStatus_pushed (lane : command.lane build = .status)
    (takes : ∀ next : BoundedVec StatusTaskCommand
      capacities.statusCommandQueue, next.toList = queues.status.toList ++
      [sent] → Takes build queues { queues with status := next } command) :
    Pushed build queues command ((pushStatus sent).run queues) := by
  refine pushed_of queues.status sent
    (fun next => { queues with status := next }) .statusQueueCapacity ?_
    (by rw [lane]; rfl) (by rw [lane]; rfl) takes
  cases pushed : queues.status.push? sent <;> simp [pushStatus, pushed]

theorem dispatchManagementResponse_pushed (build : Build)
    (queues : RuntimeCommandQueues capacities)
    (destination : ManagementDestination) (response : ManagementResponse) :
    Pushed build queues (.managementResponse destination response)
      ((dispatchManagementResponse build destination response).run queues) := by
  unfold dispatchManagementResponse
  by_cases wired : build = .dual ∧ destination = .wiredHid
  · have lane : (RuntimeCommand.managementResponse destination
        response).lane build = .device := if_pos wired
    rw [if_pos wired]
    by_cases room : queues.device.toList.length <
        runtimeDeviceCommandQueueCapacity
    · have front : (pushDeviceFront (.managementResponse response)).run
          queues = .ok () { queues with
            device := ⟨.managementResponse response :: queues.device.toList,
              room⟩ } := by
        simp [pushDeviceFront, room]
      rw [front]
      refine .taken _ (by rw [lane]; exact room) ?_
      constructor <;> simp [List.filterMap_cons, wired]
    · have front : (pushDeviceFront (.managementResponse response)).run
          queues = .error .deviceQueueCapacity queues := by
        simp [pushDeviceFront, room]
      rw [front]
      exact .full _ (by rw [lane]; exact Nat.le_of_not_lt room)
  · rw [if_neg wired]
    refine pushStatus_pushed (if_neg wired) fun next now => ?_
    constructor <;> simp [List.filterMap_cons, if_neg wired, now]

theorem dispatchOne_pushed (build : Build)
    (queues : RuntimeCommandQueues capacities) (command : RuntimeCommand) :
    Pushed build queues command ((dispatchOne build command).run queues) := by
  cases command with
  | bleCommand command =>
      refine pushed_of queues.ble command
        (fun next => { queues with ble := next }) .bleQueueCapacity ?_
        rfl rfl fun next now => by
          constructor <;> simp [List.filterMap_cons, now]
      cases pushed : queues.ble.push? command <;>
        simp [dispatchOne, pushBle, pushed]
  | deviceCommand command =>
      refine pushed_of queues.device command
        (fun next => { queues with device := next }) .deviceQueueCapacity ?_
        rfl rfl fun next now => by
          constructor <;> simp [List.filterMap_cons, now]
      cases pushed : queues.device.push? command <;>
        simp [dispatchOne, pushDevice, pushed]
  | usbKeyboardLedWrite interfaceId deviceId bytes =>
      refine pushUsbHost_pushed rfl fun next now => ?_
      constructor <;> simp [List.filterMap_cons, now]
  | setUsbHostBusState state =>
      refine pushUsbHost_pushed rfl fun next now => ?_
      constructor <;> simp [List.filterMap_cons, now]
  | usbMirrorEndpointOut deviceId report =>
      refine pushUsbHost_pushed rfl fun next now => ?_
      constructor <;> simp [List.filterMap_cons, now]
  | usbMirrorControlRequest deviceId request =>
      refine pushUsbHost_pushed rfl fun next now => ?_
      constructor <;> simp [List.filterMap_cons, now]
  | persistStorage state priority =>
      refine pushed_of queues.storage (.persist state priority)
        (fun next => { queues with storage := next }) .storageQueueCapacity ?_
        rfl rfl fun next now => by
          constructor <;> simp [List.filterMap_cons, now]
      cases pushed : queues.storage.push? (.persist state priority) <;>
        simp [dispatchOne, pushStorage, pushed]
  | statusChanged snapshot =>
      refine pushStatus_pushed rfl fun next now => ?_
      constructor <;> simp [List.filterMap_cons, now]
  | managementResponse destination response =>
      exact dispatchManagementResponse_pushed build queues destination response
  | applyEffect effect =>
      refine pushed_of queues.effects effect
        (fun next => { queues with effects := next }) .effectQueueCapacity ?_
        rfl rfl fun next now => by
          constructor <;> simp [List.filterMap_cons, now]
      cases pushed : queues.effects.push? effect <;>
        simp [dispatchOne, pushEffect, pushed]

theorem validateCapacity_eq_ok :
    validateCapacity build capacities commands = .ok () ↔
      ∀ lane, laneCount build commands lane ≤ capacities.ofLane lane := by
  unfold validateCapacity
  simp only [bind_eq_ok, require_eq_ok, exists_const]
  constructor
  · rintro ⟨ble, device, usb, storage, status, effects⟩ lane
    cases lane <;> assumption
  · intro fits
    exact ⟨fits .ble, fits .device, fits .usb, fits .storage, fits .status,
      fits .effects⟩

theorem carries_new :
    Carries build (new : RuntimeCommandQueues capacities) [] :=
  ⟨rfl, rfl, rfl, rfl, rfl, rfl⟩

theorem dispatchAll_carries (carries : Carries build queues sent)
    (lengths : ∀ lane, queues.laneLength lane = laneCount build sent lane)
    (fits : ∀ lane,
      laneCount build (sent ++ rest) lane ≤ capacities.ofLane lane) :
    ∃ after, (dispatchAll build rest).run queues = .ok () after ∧
      Carries build after (sent ++ rest) ∧ ∀ lane,
        after.laneLength lane = laneCount build (sent ++ rest) lane := by
  induction rest generalizing queues sent with
  | nil =>
      rw [List.append_nil]
      exact ⟨queues, rfl, carries, lengths⟩
  | cons command rest ih =>
      have one := dispatchOne_pushed build queues command
      cases outcome : (dispatchOne build command).run queues with
      | error error after =>
          rw [outcome] at one
          cases one with
          | full _ noRoom =>
              have fit := fits (command.lane build)
              rw [← List.singleton_append, laneCount_append,
                laneCount_append, laneCount_singleton, if_pos rfl,
                ← lengths] at fit
              omega
      | ok done after =>
          rw [outcome] at one
          cases one with
          | taken _ _ takes =>
              rw [← List.singleton_append, ← List.append_assoc] at fits
              obtain ⟨final, ran, all⟩ := ih (carries.takes takes)
                (fun lane => by
                  rw [takes.laneLength_eq, lengths, laneCount_append])
                fits
              rw [← List.singleton_append, ← List.append_assoc]
              exact ⟨final, (run_bind_ok outcome _).trans ran, all⟩

theorem dispatchFrom_rejected
    (rejected : validateCapacity build capacities commands = .error error) :
    (dispatchFrom build commands).run queues = .error error queues := by
  unfold dispatchFrom
  rw [rejected]
  rfl

theorem dispatchFrom_admitted (queues : RuntimeCommandQueues capacities)
    (admitted : validateCapacity build capacities commands = .ok ()) :
    ∃ after, (dispatchFrom build commands).run queues = .ok () after ∧
      Carries build after commands ∧ ∀ lane,
        after.laneLength lane = laneCount build commands lane := by
  have started : (dispatchFrom build commands).run queues =
      (dispatchAll build commands).run new := by
    unfold dispatchFrom
    rw [admitted]
    rfl
  rw [started]
  exact dispatchAll_carries carries_new
    (fun lane => by cases lane <;> rfl) (validateCapacity_eq_ok.mp admitted)

def CountsAgree (build : Build) (capacities : RuntimeCapacities) : Prop :=
  ∀ (command : RuntimeCommand) (before after : RuntimeCommandQueues capacities),
    Succeeds (dispatchOne build command) before () after →
    ∀ lane, after.laneLength lane =
      before.laneLength lane + laneCount build [command] lane

theorem countsAgree (build : Build) (capacities : RuntimeCapacities) :
    CountsAgree build capacities := by
  intro command before after dispatched lane
  have one := dispatchOne_pushed build before command
  rw [dispatched] at one
  cases one with
  | taken _ _ takes => exact takes.laneLength_eq lane

/-- A command list goes to the queues as a whole, exactly when the check
admits it, or leaves them alone. -/
theorem dispatchFrom_whole (build : Build)
    (queues : RuntimeCommandQueues capacities)
    (commands : List RuntimeCommand) :
    CountsAgree build capacities ∧
      ((∃ error, validateCapacity build capacities commands = .error error ∧
          (dispatchFrom build commands).run queues = .error error queues) ∨
        ∃ after, validateCapacity build capacities commands = .ok () ∧
          (dispatchFrom build commands).run queues = .ok () after ∧
          Carries build after commands ∧ ∀ lane,
            after.laneLength lane = laneCount build commands lane) := by
  refine ⟨countsAgree build capacities, ?_⟩
  cases checked : validateCapacity build capacities commands with
  | error error => exact .inl ⟨error, rfl, dispatchFrom_rejected checked⟩
  | ok done =>
      obtain ⟨after, ran, all⟩ := dispatchFrom_admitted queues checked
      exact .inr ⟨after, rfl, ran, all⟩

def twoWiredAnswers : List RuntimeCommand :=
  [.managementResponse .wiredHid ⟨1, .ok, .none⟩,
    .managementResponse .wiredHid ⟨2, .ok, .none⟩]

/-- Each answer to the wired computer goes before the ones queued already, so
two of them in one list end up in the opposite order. -/
theorem wired_answers_reversed :
    ∃ after, (dispatchFrom .dual twoWiredAnswers).run
        (new : RuntimeCommandQueues defaultRuntimeCapacities) = .ok () after ∧
      after.device.toList ≠
        twoWiredAnswers.filterMap (RuntimeCommand.wiredAnswer .dual) ++
          twoWiredAnswers.filterMap RuntimeCommand.forDevice := by
  have admitted : validateCapacity .dual defaultRuntimeCapacities
      twoWiredAnswers = .ok () := by decide
  obtain ⟨after, ran, carries, -⟩ := dispatchFrom_admitted
    (new : RuntimeCommandQueues defaultRuntimeCapacities) admitted
  refine ⟨after, ran, ?_⟩
  rw [carries.device]
  decide

end RuntimeCommandQueues

end HidShift
