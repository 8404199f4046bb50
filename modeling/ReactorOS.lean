import ReactorOS.Component
import ReactorOS.Integration
import ReactorOS.Modbus
import ReactorOS.Ai
import ReactorOS.ControlLoop
import ReactorOS.Discipline.Daemon
import ReactorOS.Latches
import ReactorOS.RuntimeInvariant
import ReactorOS.LatchReset
import ReactorOS.ManualUnlock
import ReactorOS.LatchContinuity
import ReactorOS.EmergencyStop
import ReactorOS.DuplicateSuppression
import ReactorOS.Esp32
import ReactorOS.ChecksumCoverage
import ReactorOS.FrameRoundTrip
import ReactorOS.TamperEvidence
import ReactorOS.AuditWindow
import ReactorOS.Behaviours
import ReactorOS.HardLimits
import ReactorOS.BridgeStop
import ReactorOS.BridgeConvergence
import ReactorOS.Backends
import ReactorOS.ComponentStop
import ReactorOS.Concurrency.Compensation
import ReactorOS.DeviceEffects
import ReactorOS.FaultAfterEffect
import ReactorOS.Rounding
import ReactorOS.TargetLimits
import ReactorOS.Envelope
import ReactorOS.DevicePairs
import ReactorOS.TargetCommits
import ReactorOS.LostUpdates
import ReactorOS.LineReads
import ReactorOS.AckHandshake
import ReactorOS.ModbusTcp
import ReactorOS.ModbusStream
import ReactorOS.ModbusMap
import ReactorOS.ModbusWriteBack
import ReactorOS.ModbusReads
import ReactorOS.ModbusRegisters
import ReactorOS.Limiter
import ReactorOS.Wire.TextOrder
import ReactorOS.SampleHistory
import ReactorOS.Auth
import ReactorOS.SessionForgery
import ReactorOS.Memory
import ReactorOS.Chance.Ranking
import ReactorOS.Feasibility
import ReactorOS.SteadySearch
import ReactorOS.CrowdQuality
import ReactorOS.RoundedTargets
import ReactorOS.StorableRecommendations
import ReactorOS.AiProvider
import ReactorOS.ProviderSoundness
import ReactorOS.Firmware
import ReactorOS.FirmwareAgreement
import ReactorOS.AiRequests
import ReactorOS.AiAlarms
import ReactorOS.AiPreview
import ReactorOS.BackupSet
import ReactorOS.CoveredBounds
import ReactorOS.WatchedSearch
import ReactorOS.Chance.Guarded
import ReactorOS.CorruptedByte
import ReactorOS.BatchRecovery
import ReactorOS.Rekey
import ReactorOS.RekeyAtomicity
import ReactorOS.Reports
import ReactorOS.AiParsing
import ReactorOS.CsvExports
import ReactorOS.ExperimentPlan
import ReactorOS.OtaMarker
import ReactorOS.PasswordChange
import ReactorOS.ProcessStarts
import ReactorOS.Storage.Updates
import ReactorOS.TaskMigration
import ReactorOS.Wipe
import ReactorOS.Wire.Xml
import ReactorOS.Worksheets
import ReactorOS.XlsxExports
import ReactorOS.AiDecision
import ReactorOS.TaskRows
import ReactorOS.TaskClaims
import ReactorOS.TaskExecution
import ReactorOS.AuditListing
import ReactorOS.Labels
import ReactorOS.VirtualSensor
import ReactorOS.DryRun
import ReactorOS.LatestSample
import ReactorOS.AutoDisable
import ReactorOS.Wire.Substitution
import ReactorOS.Wire.Document
import ReactorOS.DeviceSummary
import ReactorOS.Ota.StateFile
import ReactorOS.Ota.Idle
import ReactorOS.Ota.Package
import ReactorOS.Ota.Board
import ReactorOS.Ota.Scripts
import ReactorOS.Ota.Slots
import ReactorOS.Ota.BootCheck
import ReactorOS.Ota.Recovery
import ReactorOS.Ota.Restarts
import ReactorOS.Concurrency.Mailbox
import ReactorOS.BridgeMachine
import ReactorOS.BridgeLink
import ReactorOS.Concurrency.Ticker
import ReactorOS.FirmwareRun
import ReactorOS.ModbusRtu
import ReactorOS.Storage.Encoded
import ReactorOS.TaskStore
import ReactorOS.TaskRegister
import ReactorOS.TaskRefinement
import ReactorOS.TaskHistory
import ReactorOS.SealedTasks
