import GhostCom.Clients.CreatePort
import GhostCom.Clients.HandleUse
import GhostCom.Clients.OpenEvents
import GhostCom.Clients.Ownership
import GhostCom.Clients.StreamWrite
import GhostCom.DataPath.Accounting
import GhostCom.DataPath.Purge
import GhostCom.DataPath.Runs
import GhostCom.DataPath.WaitMask
import GhostCom.Driver.CompIoctl
import GhostCom.Driver.RingFifo
import GhostCom.Driver.SpscRing
import GhostCom.Lifecycle.Construction
import GhostCom.Lifecycle.OpenClose
import GhostCom.Lifecycle.Teardown
import GhostCom.PortTable.ShadowDevices
import GhostCom.PortTable.UnloadRace
import GhostCom.Requests.Refinement
import GhostCom.Signals.Delivery
import GhostCom.Signals.MaskWaits
import GhostCom.Signals.Settings
import GhostCom.Signals.Snapshots
import GhostCom.Stream.Progress
import GhostCom.Wire.Companion
import GhostCom.Wire.ListPorts
