import StageForge.Witness.Fencing
import StageForge.Witness.LeaseEpochs
import StageForge.Replication.Ordering
import StageForge.Runtime.ReplicaApply
import StageForge.Runtime.CommandIds
import StageForge.Runtime.Outputs
import StageForge.Governance.Failures
import StageForge.Show.Atomicity
import StageForge.Show.Accounting
import StageForge.Session.Guard
import StageForge.Session.Link
import StageForge.Adaptation.Layers
import StageForge.Handoff.LiveFeeds
import StageForge.Persistence.Torn
import StageForge.Native.CoreAtomicity
import StageForge.Native.ShowEventConservation
import StageForge.Native.ShowExecutionLoop
import StageForge.Native.EffectRollback
import StageForge.Native.PlannedHandoff
import StageForge.Native.PlaybackRuns
import StageForge.Native.ShadowSources
import StageForge.Native.StreamingRuns
import StageForge.Native.CueExpansion
import StageForge.Daw.PunchCapture
import StageForge.Venue.Reconciliation
import StageForge.Daw.ClipEdits
import StageForge.Daw.SamplerPreload
import StageForge.Interop.Sessions
import StageForge.Server.RateLimiter
import StageForge.Native.UwbHardwareBridge
import StageForge.Interop.NativeProjection
import StageForge.Daw.PluginHost
import StageForge.Governance.AuthorityLeases
import StageForge.Native.DawRecordingQueue
import StageForge.Native.RouteTables
import StageForge.Server.PerformerIsolation
import StageForge.Governance.VotingWindows
import StageForge.Native.AutomationRamps
import StageForge.Midi.ByteParser
import StageForge.Midi.LearnRouter
import StageForge.Native.DelayCompensation
import StageForge.Native.DeviceDescriptors
import StageForge.Native.DriftResampler
import StageForge.Native.FanoutRing
import StageForge.Midi.ClockPulses
import StageForge.Native.TransportContinuity
import StageForge.Show.TechnologyMaturity
import StageForge.Daw.SourceSlices
import StageForge.Daw.GroupMoves
import StageForge.Show.MusicXml
import StageForge.Venue.TimingBlockers
import StageForge.Interop.Symmetry
import StageForge.Native.ResourcePlanner
import StageForge.Native.SamplerLoops
import StageForge.Daw.StreamingBanks
import StageForge.Native.LeUwbHardwareManager
import StageForge.Show.NotationDurations
import StageForge.Witness.SignedBodies
import StageForge.Runtime.MutationLock
import StageForge.Show.LocalRuns
import StageForge.Replication.MadeEnvelopes
import StageForge.Server.OperationCosts
