import WispDisk.Cli.Args
import WispDisk.Cli.Commands
import WispDisk.Cli.Control
import WispDisk.Cli.Creation
import WispDisk.Cli.Decoding
import WispDisk.Cli.Deletion
import WispDisk.Cli.Disks
import WispDisk.Cli.Enumeration
import WispDisk.Cli.Inquiries
import WispDisk.Cli.Install
import WispDisk.Cli.Inventory
import WispDisk.Cli.Mutations
import WispDisk.Cli.Recovery
import WispDisk.Cli.Session
import WispDisk.Cli.Storage
import WispDisk.Cli.Volumes
import WispDisk.Cli.Windows
import WispDisk.Cli.World
import WispDisk.Driver.Adapter
import WispDisk.Driver.Blocks
import WispDisk.Driver.ControlDispatch
import WispDisk.Driver.ControlRequest
import WispDisk.Driver.Diagnostics
import WispDisk.Driver.Envelope
import WispDisk.Driver.Extension
import WispDisk.Driver.Gate
import WispDisk.Driver.Instances
import WispDisk.Driver.Journal
import WispDisk.Driver.LunStore
import WispDisk.Driver.ManagementController
import WispDisk.Driver.Replies
import WispDisk.Driver.Scsi
import WispDisk.Driver.Sections
import WispDisk.Driver.Tails
import WispDisk.Foundations.BigEndian
import WispDisk.Foundations.Counting
import WispDisk.Foundations.History
import WispDisk.Foundations.Identifiers
import WispDisk.Foundations.Interference
import WispDisk.Foundations.Layout
import WispDisk.Foundations.Procedure
import WispDisk.Foundations.RingLog
import WispDisk.Foundations.SectorStore
import WispDisk.Foundations.SlotTable
import WispDisk.Foundations.Tail
import WispDisk.Foundations.Transition
import WispDisk.Guarantees.AcceptedCreates
import WispDisk.Guarantees.Accounting
import WispDisk.Guarantees.AtMostOnce
import WispDisk.Guarantees.BackingLifetime
import WispDisk.Guarantees.BlockDevice
import WispDisk.Guarantees.BusChanges
import WispDisk.Guarantees.Completion
import WispDisk.Guarantees.CreationOutcome
import WispDisk.Guarantees.CreationRollback
import WispDisk.Guarantees.DeletionTarget
import WispDisk.Guarantees.DeviceIds
import WispDisk.Guarantees.DiskCreation
import WispDisk.Guarantees.DiskIdentity
import WispDisk.Guarantees.DiskSetup
import WispDisk.Guarantees.DriverInstall
import WispDisk.Guarantees.ExitStatus
import WispDisk.Guarantees.FailedCreates
import WispDisk.Guarantees.Handles
import WispDisk.Guarantees.HostileRequests
import WispDisk.Guarantees.IdentityChecks
import WispDisk.Guarantees.Listing
import WispDisk.Guarantees.MaskedOutcomes
import WispDisk.Guarantees.MeaningfulReplies
import WispDisk.Guarantees.ReadWrite
import WispDisk.Guarantees.RecoveryEvents
import WispDisk.Guarantees.RecoverySafety
import WispDisk.Guarantees.References
import WispDisk.Guarantees.Reservations
import WispDisk.Guarantees.Schedules
import WispDisk.Guarantees.ScsiResponses
import WispDisk.Guarantees.SingleFlight
import WispDisk.Guarantees.SizeGrammar
import WispDisk.Guarantees.SlashOptions
import WispDisk.Guarantees.SparedTarget
import WispDisk.Guarantees.Tables
import WispDisk.Guarantees.TargetedDeletion
import WispDisk.Guarantees.Teardown
import WispDisk.Guarantees.Tracing
import WispDisk.Guarantees.VolumePreparation
import WispDisk.Guarantees.WindowsBuffers
import WispDisk.Lifecycle.Agreement
import WispDisk.Lifecycle.Backing
import WispDisk.Lifecycle.Completions
import WispDisk.Lifecycle.Confinement
import WispDisk.Lifecycle.Contents
import WispDisk.Lifecycle.Descriptions
import WispDisk.Lifecycle.Disks
import WispDisk.Lifecycle.Erasure
import WispDisk.Lifecycle.Finality
import WispDisk.Lifecycle.Machine
import WispDisk.Lifecycle.Moves
import WispDisk.Lifecycle.Outcomes
import WispDisk.Lifecycle.Progress
import WispDisk.Lifecycle.Records
import WispDisk.Lifecycle.Removal
import WispDisk.Lifecycle.Results
import WispDisk.Lifecycle.Retention
import WispDisk.Lifecycle.Simulation
import WispDisk.Lifecycle.SlotSearch
import WispDisk.Lifecycle.Statuses
import WispDisk.Lifecycle.Tails
import WispDisk.Lifecycle.Teardown
import WispDisk.Lifecycle.Whereabouts
import WispDisk.Protocol.Extents
import WispDisk.Protocol.Wire
