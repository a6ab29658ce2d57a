import Visor.Vsock.LifeCycle
import Visor.Vsock.CreditAgreement
import Visor.Muxer.GuestStream
import Visor.Muxer.Wakeup
import Visor.Muxer.HostStream
import Visor.Devices.Permission
import Visor.Block.Refinement
import Visor.Mmio.QueueGating
import Visor.Mmio.DriverReset
import Visor.Fs.Confinement
import Visor.Backend.Ownership
import Visor.Backend.Stopping
import Visor.Backend.LifeCycle
import Visor.Backend.SnapshotKey
import Visor.Build.StageRefs
import Visor.Build.Inheritance
import Visor.Oci.CacheIntegrity
import Visor.Compose.Isolation
import Visor.Compose.EnvVars
import Visor.Net.Isolation
import Visor.Oci.Confinement
import Visor.Muxer.Ports
import Visor.Vsock.TxFraming
import Visor.Vmm.Acpi
import Visor.Vmm.CpuTemplate
import Visor.SharedRing.Blocking
import Visor.Devices.Addresses
import Visor.Boot.Aarch64
import Visor.Lifecycle.Audit
import Visor.Lifecycle.GuestAgent
import Visor.Lifecycle.WorkerLoop
import Visor.Pool.SnapshotBundle
import Visor.Vmm.PreCopy
import Visor.Net.HookRepair
import Visor.Net.Dns
import Visor.Net.IpAlloc
import Visor.Backend.Persistence
import Visor.Docker.Names
import Visor.Docker.Events
