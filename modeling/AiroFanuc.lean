import AiroFanuc.RtCore.Agreement
import AiroFanuc.RtCore.Resolution
import AiroFanuc.RtCore.SilencePark
import AiroFanuc.RtCore.Coalescing
import AiroFanuc.RtCore.Buffers
import AiroFanuc.RtCore.StopOrder
import AiroFanuc.RtCore.FaultLatch
import AiroFanuc.RtCore.Entries
import AiroFanuc.RtCore.EpochSafety
import AiroFanuc.Library.TwoRuns
import AiroFanuc.RtCore.RejectedTarget
import AiroFanuc.Library.Interval
import AiroFanuc.RtCore.SlewSafety
import AiroFanuc.RtCore.AntiFlap
import AiroFanuc.RtCore.SupervisorWatch
import AiroFanuc.TickEngine.Playback
import AiroFanuc.RtCore.SeamTiming
import AiroFanuc.Rmi.Client
import AiroFanuc.Rmi.Moves
import AiroFanuc.Rmi.Slot
import AiroFanuc.Rmi.Claims
import AiroFanuc.Rmi.Correlation
import AiroFanuc.Rmi.Packets
import AiroFanuc.Rmi.Routing
import AiroFanuc.Rmi.Replies
import AiroFanuc.Rmi.Reseed
import AiroFanuc.Rmi.Lockstep
import AiroFanuc.Driver.Lifecycle
import AiroFanuc.Driver.Supervisor
import AiroFanuc.Driver.Moves
import AiroFanuc.Driver.Shutdown
import AiroFanuc.Driver.ArmGate
import AiroFanuc.Driver.GripperGate
import AiroFanuc.Driver.StreamCore
import AiroFanuc.Driver.StreamCoreTicks
import AiroFanuc.Driver.Bringup
import AiroFanuc.Driver.BringupRules
import AiroFanuc.Driver.GrprunOnce
import AiroFanuc.Driver.LaterBringup
import AiroFanuc.Driver.HealthyBringup
import AiroFanuc.Driver.FailedBringup
import AiroFanuc.Gripper.Protocol
import AiroFanuc.Gripper.Worker
import AiroFanuc.Gripper.Attribution
import AiroFanuc.Gripper.Dispatcher
import AiroFanuc.Gripper.Handshake
import AiroFanuc.Library.Descent
import AiroFanuc.RtCore.Pll
import AiroFanuc.Library.Framing
import AiroFanuc.Rmi.RxLoop
import AiroFanuc.Rmi.RxLines
import AiroFanuc.Codec.Wire
import AiroFanuc.Codec.Native
import AiroFanuc.Codec.Layout
import AiroFanuc.Codec.Agreement
import AiroFanuc.Codec.Builders
import AiroFanuc.Library.Cubic
import AiroFanuc.TickEngine.Sampling
import AiroFanuc.TickEngine.Curve
import AiroFanuc.Driver.Tangents
import AiroFanuc.Driver.TrajectoryCheck
import AiroFanuc.Library.Rounding
import AiroFanuc.Driver.PlaybackClock
import AiroFanuc.Library.JerkProfile
import AiroFanuc.TickEngine.ShedTime
import AiroFanuc.Driver.JointMove
import AiroFanuc.RtCore.GuardStages
import AiroFanuc.RtCore.GuardTrips
import AiroFanuc.RtCore.GuardScope
import AiroFanuc.Library.Pursuit
import AiroFanuc.RtCore.Reanchor
import AiroFanuc.Library.Coasting
import AiroFanuc.RtCore.FaultCoast
import AiroFanuc.TickEngine.Passage
import AiroFanuc.RtCore.BrakeEntry
import AiroFanuc.Library.Fifo
import AiroFanuc.RtCore.SpscRing
import AiroFanuc.TickEngine.EndBlend
import AiroFanuc.RtCore.JointsAtRing
import AiroFanuc.Library.LeastSquares
import AiroFanuc.Receive.Calibration
import AiroFanuc.Probe.Facts
import AiroFanuc.Probe.Preflight
import AiroFanuc.Library.Decimal
import AiroFanuc.Probe.Profile
import AiroFanuc.Probe.ProfileSource
import AiroFanuc.Library.LastWritten
import AiroFanuc.RtCore.VelocityEstimate
import AiroFanuc.Library.Ranking
import AiroFanuc.RtCore.Halting
import AiroFanuc.RtCore.MotionTicks
import AiroFanuc.RtCore.MotionEnds
import AiroFanuc.Library.Seqlock
import AiroFanuc.RtCore.Publication
import AiroFanuc.RtCore.SnapshotReads
import AiroFanuc.Library.Flock
import AiroFanuc.Driver.Ownership
import AiroFanuc.RtCore.ResolvedOnce
import AiroFanuc.Library.SlotRing
import AiroFanuc.RtCore.MotionStatusReads
import AiroFanuc.Codec.Handshake
import AiroFanuc.Library.Conversation
import AiroFanuc.Testing.StreamMotionServer
import AiroFanuc.RtCore.SentCommands
import AiroFanuc.RtCore.Conformance
import AiroFanuc.RtCore.WireSlew
import AiroFanuc.Library.Ranks
import AiroFanuc.RtCore.Timing
import AiroFanuc.RtCore.SplicePlay
import AiroFanuc.Driver.CheckedSplice
