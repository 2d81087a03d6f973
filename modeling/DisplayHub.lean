import DisplayHub.CommandLine
import DisplayHub.Extension.Trial
import DisplayHub.Inspection
import DisplayHub.Main
import DisplayHub.Pool
import DisplayHub.Proofs.Dealing
import DisplayHub.Proofs.Frame
import DisplayHub.Session.View
import DisplayHub.Socket
import DisplayHub.Proofs.Service
import DisplayHub.Proofs.Lifecycle
import DisplayHub.Proofs.Ledger
import DisplayHub.Proofs.Run
import DisplayHub.Proofs.Registration
import DisplayHub.Proofs.Exclusion
import DisplayHub.Proofs.Writeback
import DisplayHub.Proofs.Views
import DisplayHub.Proofs.Creation
import DisplayHub.Proofs.Bootstrap
import DisplayHub.Proofs.BootstrapState
import DisplayHub.Proofs.Teardown
import DisplayHub.Proofs.Coherence
import DisplayHub.Proofs.Renaming
import DisplayHub.Proofs.Parallel
import DisplayHub.Proofs.Slots
import DisplayHub.Proofs.Reset
import DisplayHub.Proofs.Report
import DisplayHub.Proofs.Admission
import DisplayHub.Proofs.Snapshot
import DisplayHub.Proofs.Workers
import DisplayHub.Proofs.Numbering
import DisplayHub.Proofs.Survey
import DisplayHub.Proofs.Notification
import DisplayHub.Proofs.LibraryUse
import DisplayHub.Proofs.Written
import DisplayHub.Proofs.Flags
import DisplayHub.Proofs.Document
import DisplayHub.Proofs.Operation
import DisplayHub.Proofs.Selection
import DisplayHub.Proofs.Tour
import DisplayHub.Proofs.Program
import DisplayHub.Proofs.Capacity
import DisplayHub.Proofs.Attempts
import DisplayHub.Proofs.Leftover
import DisplayHub.Proofs.Ordering
import DisplayHub.Proofs.Choice
import DisplayHub.Proofs.Destruction
import DisplayHub.Proofs.Stay
import DisplayHub.Proofs.IgnoredStays
import DisplayHub.Proofs.Plugging
import DisplayHub.Proofs.Panel
import DisplayHub.Proofs.Search
import DisplayHub.Proofs.Grammar
import DisplayHub.Proofs.Tables
import DisplayHub.Proofs.Variation
import DisplayHub.Proofs.Spelling
import DisplayHub.Proofs.Counting
import DisplayHub.Proofs.Identity
import DisplayHub.Proofs.Cursor
import DisplayHub.Proofs.Naming
