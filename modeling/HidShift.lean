import HidShift.Bridge.FreshPress
import HidShift.Bridge.StableWindow
import HidShift.Bridge.ConsumerSuppression
import HidShift.Interchip.SessionRecovery
import HidShift.Interchip.RequestStream
import HidShift.Interchip.SessionAcks
import HidShift.Input.ObserveExact
import HidShift.Input.ScaleExact
import HidShift.Storage.PersistenceRun
import HidShift.Ble.Admission
import HidShift.Mirror.FindProfile
import HidShift.UsbHost.ReaderEvents
import HidShift.UsbHost.LateInput
import HidShift.Runtime.Snapshot
import HidShift.Runtime.HeldInput
import HidShift.Runtime.QueueDispatch
import HidShift.Runtime.Forgotten
import HidShift.Runtime.ActionOrder
import HidShift.Runtime.PairingWindow
import HidShift.Runtime.MirrorSelectable
import HidShift.Runtime.ProfileTracking
import HidShift.Bridge.TargetCycle
import HidShift.Ble.LaneDelivery
import HidShift.Interchip.InputBatchExact
import HidShift.Interchip.HostDelivery
import HidShift.Interchip.HostPending
import HidShift.Interchip.ProfileDevice
import HidShift.Management.FrameRoundTrip
import HidShift.Runtime.Answers
import HidShift.Interchip.FragmentRoundTrip
import HidShift.UsbHid.MotionExact
import HidShift.UsbHid.OutputExact
import HidShift.Mirror.Control
import HidShift.Wired.HeadOfQueue
import HidShift.Input.MovementConserved
import HidShift.UsbHid.TopologyExact
import HidShift.Input.ShortcutCycle
import HidShift.Storage.TaskPolicy
import HidShift.Domain.Destination
import HidShift.Domain.Update
import HidShift.UsbHid.BootKeyboard
