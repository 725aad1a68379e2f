import DaphneSc.Slots.Updates
import DaphneSc.Program.Within
import DaphneSc.Program.Decides
import DaphneSc.Core.AfeFunctions
import DaphneSc.Core.ConfigureFrames
import DaphneSc.Rpu.Interlock
import DaphneSc.Rpu.ConfigureSequence
import DaphneSc.Rpu.TrimOffsetRuns
import DaphneSc.Rpu.ApplyErrors
import DaphneSc.Rpu.Readback
import DaphneSc.Rpu.ConfigureRun
import DaphneSc.Rpu.ConfigureReadback
import DaphneSc.Core.Rpu
import DaphneSc.Queue.Delayed
import DaphneSc.Server.Rpmsg
import DaphneSc.Server.Link
import DaphneSc.Server.LateReplies
import DaphneSc.Server.Calls
import DaphneSc.Server.NoisyLink
import DaphneSc.Server.ReplyMatching
import DaphneSc.Core.RpuWireAccepts
import DaphneSc.Core.RpuWireCommands
import DaphneSc.Rpu.CallOrder
import DaphneSc.Program.Safe
import DaphneSc.Rpu.NeverStops
import DaphneSc.Rpu.Replies
import DaphneSc.Rpu.DeliveryOrder
import DaphneSc.Rpu.RegisterFile
import DaphneSc.Rpu.ConfigureApplied
import DaphneSc.Rpu.ConfigureFields
import DaphneSc.Server.PromptLink
import DaphneSc.Server.ReportedConfiguration
import DaphneSc.Core.Transport
import DaphneSc.Program.Simulated
import DaphneSc.Server.Messages
import DaphneSc.Program.Results
import DaphneSc.Server.Handlers
import DaphneSc.Server.Observed
import DaphneSc.Server.Preflight
import DaphneSc.Server.HandlerCommands
import DaphneSc.Server.HandlersServed
import DaphneSc.Server.Router
import DaphneSc.Server.PreflightGate
import DaphneSc.Numbering.Spread
import DaphneSc.Server.SequenceSpacing
import DaphneSc.Slots.Gaps
import DaphneSc.Server.AlignmentVectors
import DaphneSc.Rpu.FailedChannelWrite
import DaphneSc.Runs.Longest
import DaphneSc.Rpu.Hardware
import DaphneSc.Rpu.AlignExits
import DaphneSc.Rpu.DelaySearch
import DaphneSc.Rpu.BitslipSearch
import DaphneSc.Rpu.FunctionFields
import DaphneSc.Strings.Replace
import DaphneSc.Strings.Template
import DaphneSc.Bridge.Registry
import DaphneSc.Bridge.V8Snapshot
import DaphneSc.Program.Visits
import DaphneSc.Bridge.OpcUaSnapshotWriter
import DaphneSc.Bridge.SnapshotPublished
import DaphneSc.Bridge.NodeIds
import DaphneSc.Bridge.SendRequest
import DaphneSc.Bridge.Config
import DaphneSc.Slots.Typed
import DaphneSc.Bridge.Poll
import DaphneSc.Bridge.UpdateNodes
import DaphneSc.Bridge.GoodNodes
import DaphneSc.Core.FrameNumbers
import DaphneSc.Bits.Overlaid
import DaphneSc.Server.MessageIds
import DaphneSc.Program.Scripted
import DaphneSc.Core.ClockChip
import DaphneSc.Core.ClockChipAccesses
import DaphneSc.Server.ClockChipTool
import DaphneSc.Program.Feed
import DaphneSc.Program.Fuel
import DaphneSc.Bridge.CsvRecord
import DaphneSc.Bridge.InstanceList
import DaphneSc.Slots.Choices
import DaphneSc.Bridge.Expansion
import DaphneSc.Bridge.Execute
import DaphneSc.Bridge.Methods
import DaphneSc.Bridge.MethodGate
import DaphneSc.Json.Text
import DaphneSc.Bridge.ErrorResponse
import DaphneSc.Ieee.Double
import DaphneSc.Bridge.Power
import DaphneSc.Bridge.PowerGate
import DaphneSc.Server.Machine
import DaphneSc.Server.LinuxPreflight
import DaphneSc.Server.Prerequisites
import DaphneSc.Server.FreshPreflight
import DaphneSc.Program.Assigns
import DaphneSc.Rpu.Settings
import DaphneSc.Server.KnownSettings
import DaphneSc.Server.RouterBound
import DaphneSc.Server.ClientSettings
import DaphneSc.Server.StatusCollector
import DaphneSc.Server.Inventory
import DaphneSc.Server.ClockChipListed
import DaphneSc.Bridge.ExecutedOnce
import DaphneSc.Core.Checked
import DaphneSc.Server.Iterations
