import RunpodShim.Library.Words
import RunpodShim.Library.ShellScript
import RunpodShim.Library.Holders
import RunpodShim.Gpu.Topology
import RunpodShim.Cgroup.Cgroup
import RunpodShim.Memory.Memory
import RunpodShim.Preload.MemoryCalls
import RunpodShim.Preload.Transparency
import RunpodShim.Preload.Trace
import RunpodShim.Preload.TrackerRuns
import RunpodShim.Tools.InstallGlobal
import RunpodShim.Tools.Launcher
import RunpodShim.Behaviour.NormalForms
import RunpodShim.Behaviour.RelativeResolution
import RunpodShim.Behaviour.PathDecision
import RunpodShim.Behaviour.Classification
import RunpodShim.Behaviour.PathEntries
import RunpodShim.Behaviour.OpenatAbsolute
import RunpodShim.Behaviour.FailOpen
import RunpodShim.Behaviour.DriverViews
import RunpodShim.Behaviour.TopologyHiding
import RunpodShim.Behaviour.InformationFormat
import RunpodShim.Behaviour.DirectoryScan
import RunpodShim.Behaviour.DirentBuffers
import RunpodShim.Behaviour.LearnedIds
import RunpodShim.Behaviour.ResponseFilter
import RunpodShim.Behaviour.DecimalReaders
import RunpodShim.Behaviour.TrackerMap
import RunpodShim.Behaviour.MeminfoTable
import RunpodShim.Behaviour.MeminfoRewrite
import RunpodShim.Behaviour.CgroupPaths
import RunpodShim.Behaviour.CgroupDetection
import RunpodShim.Behaviour.MountDiscovery
import RunpodShim.Behaviour.MemoryReporting
import RunpodShim.Behaviour.SysinfoEncoding
import RunpodShim.Behaviour.MemoryViews
import RunpodShim.Behaviour.SwitchedOff
import RunpodShim.Behaviour.GlobalActivation
import RunpodShim.Behaviour.FailedDisable
import RunpodShim.Behaviour.Launches
import RunpodShim.Sequential.Kernel
import RunpodShim.Sequential.Effects
import RunpodShim.Sequential.Truthful
import RunpodShim.Sequential.ExactTracker
import RunpodShim.Sequential.DriverRuns
import RunpodShim.Sequential.DirectoryStreams
import RunpodShim.Sequential.MountedViews
import RunpodShim.Sequential.MeminfoStreams
import RunpodShim.Sequential.Hiding
import RunpodShim.Sequential.MeminfoCopies
import RunpodShim.Sequential.StaleContent
import RunpodShim.Interleaving.Machine
import RunpodShim.Interleaving.TrackerUpdates
import RunpodShim.Interleaving.MeminfoReads
import RunpodShim.Interleaving.Enables
