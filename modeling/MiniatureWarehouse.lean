import MiniatureWarehouse.Composition.CalibrationGate
import MiniatureWarehouse.Composition.CodeGrammar
import MiniatureWarehouse.Composition.Isolation
import MiniatureWarehouse.Composition.OfflineJoin
import MiniatureWarehouse.Composition.SiteProfile
import MiniatureWarehouse.Composition.ZonePolicy
import MiniatureWarehouse.Deploy.Redaction
import MiniatureWarehouse.Deploy.RunIds
import MiniatureWarehouse.EvalSdk.MetricBounds
import MiniatureWarehouse.EvalSdk.StreamingStats
import MiniatureWarehouse.Framework.CodePoints
import MiniatureWarehouse.Framework.Loops
import MiniatureWarehouse.Framework.Runs
import MiniatureWarehouse.Framework.Since
import MiniatureWarehouse.Framework.Tally
import MiniatureWarehouse.Interfaces.Config
import MiniatureWarehouse.LlmBridge.ContentSurvival
import MiniatureWarehouse.LlmBridge.ConversationEvents
import MiniatureWarehouse.LlmBridge.DecisionNotice
import MiniatureWarehouse.LlmBridge.Generations
import MiniatureWarehouse.LlmBridge.NegotiationLaws
import MiniatureWarehouse.LlmBridge.NoticeDelivery
import MiniatureWarehouse.LlmBridge.NoticeIngress
import MiniatureWarehouse.LlmBridge.OperatorFeedback
import MiniatureWarehouse.LlmBridge.SelfActionGate
import MiniatureWarehouse.LlmBridge.TaskView
import MiniatureWarehouse.M1Driver.OperatorStopPath
import MiniatureWarehouse.M1Driver.SpeedCap
import MiniatureWarehouse.M1Driver.StopFeed
import MiniatureWarehouse.M1Driver.StopOverlay
import MiniatureWarehouse.M1Driver.TravelConservation
import MiniatureWarehouse.M1Driver.WheelOdometry
import MiniatureWarehouse.Mcp.AtMostOnce
import MiniatureWarehouse.Mcp.CancelledReservations
import MiniatureWarehouse.Mcp.DestinationExclusivity
import MiniatureWarehouse.Mcp.EmergencyMirror
import MiniatureWarehouse.Mcp.ForwardedDrives
import MiniatureWarehouse.Mcp.IdempotencyFile
import MiniatureWarehouse.Mcp.SnapshotFreshness
import MiniatureWarehouse.Mcp.WireAgreement
import MiniatureWarehouse.Nav2Bridge.GoalAccounting
import MiniatureWarehouse.Nav2Bridge.HeadOnInjector
import MiniatureWarehouse.Orchestrator.KpiAccounting
import MiniatureWarehouse.Orchestrator.MetricShares
import MiniatureWarehouse.Orchestrator.MotionWindow
import MiniatureWarehouse.Perception.CliffScan
import MiniatureWarehouse.Perception.DepthDecoding
import MiniatureWarehouse.Perception.FrameAnalysis
import MiniatureWarehouse.Perception.FrameTotality
import MiniatureWarehouse.Perception.GroundFit
import MiniatureWarehouse.Perception.SignalOrder
import MiniatureWarehouse.Perception.SpeedBand
import MiniatureWarehouse.Planning.CycleDetection
import MiniatureWarehouse.Planning.DependencyFidelity
import MiniatureWarehouse.Planning.HandoffEnvelope
import MiniatureWarehouse.Planning.HandoffScan
import MiniatureWarehouse.Planning.Pipeline
import MiniatureWarehouse.Planning.PlanProgress
import MiniatureWarehouse.Planning.Verdict
import MiniatureWarehouse.Planning.VisualSoundness
import MiniatureWarehouse.Safety.BlockedTimer
import MiniatureWarehouse.Safety.ExactGeometry
import MiniatureWarehouse.Safety.FrozenEvidence
import MiniatureWarehouse.Safety.GuardRelations
import MiniatureWarehouse.Safety.OperatorStop
import MiniatureWarehouse.Safety.OperatorStopHistory
import MiniatureWarehouse.Safety.PoseGateBound
import MiniatureWarehouse.Safety.PoseGateLatch
import MiniatureWarehouse.Safety.RedeliveredFrames
import MiniatureWarehouse.State.StateCache
import MiniatureWarehouse.Teleop.ChordEdges
import MiniatureWarehouse.Teleop.CrossingApproval
import MiniatureWarehouse.Teleop.EstopDominance
import MiniatureWarehouse.Teleop.LinkParser
import MiniatureWarehouse.Teleop.LinkWatchdog
import MiniatureWarehouse.Teleop.SessionReplay
import MiniatureWarehouse.Teleop.TeleopJoy
import MiniatureWarehouse.Teleop.VideoFreshness
import MiniatureWarehouse.Traffic.AtomicSubmission
import MiniatureWarehouse.Traffic.TrafficLogic
import MiniatureWarehouse.Traffic.VirtualScan
import MiniatureWarehouse.WebBridge.BackfillSeam
import MiniatureWarehouse.WebBridge.CrashRecovery
import MiniatureWarehouse.WebBridge.FanOut
import MiniatureWarehouse.WebBridge.Publication
import MiniatureWarehouse.WebBridge.ReconnectLimit
import MiniatureWarehouse.WebBridge.Recordings
import MiniatureWarehouse.WebBridge.SeqContiguity
import MiniatureWarehouse.WebConsole.RunBoundary
import MiniatureWarehouse.XErBridge.Attribution
import MiniatureWarehouse.XErBridge.CommitAlignment
