import HostInventory.Agent.Basic
import HostInventory.Agent.Loop
import HostInventory.Agent.Pass
import HostInventory.Collection.Basic
import HostInventory.Collection.Collector
import HostInventory.Collection.Comparison
import HostInventory.Collection.Timestamp
import HostInventory.Command.Basic
import HostInventory.Command.Error
import HostInventory.Config.Basic
import HostInventory.Config.Load
import HostInventory.Duration
import HostInventory.Extraction.Basic
import HostInventory.Fields
import HostInventory.FileTree.Basic
import HostInventory.FileTree.Error
import HostInventory.FileTree.Operations
import HostInventory.FileTree.Replacement
import HostInventory.FileTree.Resolve
import HostInventory.FileTree.Temp
import HostInventory.Json.Basic
import HostInventory.Json.Codec
import HostInventory.Json.Parser
import HostInventory.Json.Printer
import HostInventory.Log.Event
import HostInventory.Log.Filter
import HostInventory.Log.Writer
import HostInventory.Main
import HostInventory.Package.Basic
import HostInventory.Package.Codec
import HostInventory.Package.Lists
import HostInventory.Path.Basic
import HostInventory.Path.Normalize
import HostInventory.Process.Basic
import HostInventory.Process.Image
import HostInventory.Process.Machine
import HostInventory.Proofs.Agent.Calls
import HostInventory.Proofs.Agent.Documents
import HostInventory.Proofs.Agent.Shutdown
import HostInventory.Proofs.Agent.Site
import HostInventory.Proofs.Collection.Contract
import HostInventory.Proofs.Collection.Difference
import HostInventory.Proofs.Collection.Kept
import HostInventory.Proofs.Collection.Keys
import HostInventory.Proofs.Collection.Modes
import HostInventory.Proofs.Config.Overlay
import HostInventory.Proofs.Dpkg.Agreement
import HostInventory.Proofs.Dpkg.Database
import HostInventory.Proofs.Dpkg.Query
import HostInventory.Proofs.Dpkg.StatusDocument
import HostInventory.Proofs.Dpkg.Template
import HostInventory.Proofs.Extraction.Mapping
import HostInventory.Proofs.Extraction.PackageUrl
import HostInventory.Proofs.FileTree.AllOrNothing
import HostInventory.Proofs.FileTree.Alone
import HostInventory.Proofs.FileTree.Changeable
import HostInventory.Proofs.FileTree.Changes
import HostInventory.Proofs.FileTree.Containment
import HostInventory.Proofs.FileTree.Contest
import HostInventory.Proofs.FileTree.Creation
import HostInventory.Proofs.FileTree.Effect
import HostInventory.Proofs.FileTree.Exclusive
import HostInventory.Proofs.FileTree.Moves
import HostInventory.Proofs.FileTree.Named
import HostInventory.Proofs.FileTree.TempName
import HostInventory.Proofs.FileTree.Ways
import HostInventory.Proofs.Json.Compact
import HostInventory.Proofs.Json.Forms
import HostInventory.Proofs.Json.PlainObject
import HostInventory.Proofs.Log.Session
import HostInventory.Proofs.Package.Architecture
import HostInventory.Proofs.Path.Cleaning
import HostInventory.Proofs.Path.LastSegment
import HostInventory.Proofs.Path.Parent
import HostInventory.Proofs.Path.Resolution
import HostInventory.Proofs.Path.Traversal
import HostInventory.Proofs.Provider.DryRun
import HostInventory.Proofs.Provider.LineByLine
import HostInventory.Proofs.Provider.Listing
import HostInventory.Proofs.Provider.Replies
import HostInventory.Proofs.Provider.Sections
import HostInventory.Proofs.Provider.Transaction
import HostInventory.Proofs.Queue.Accounting
import HostInventory.Proofs.Queue.Accounts
import HostInventory.Proofs.Queue.Barrier
import HostInventory.Proofs.Queue.Ledger
import HostInventory.Proofs.Queue.Lock
import HostInventory.Proofs.Queue.Panic
import HostInventory.Proofs.Queue.Progress
import HostInventory.Proofs.Queue.Transition
import HostInventory.Proofs.Queue.Worklog
import HostInventory.Proofs.Scan.Conservation
import HostInventory.Proofs.Scan.Isolation
import HostInventory.Proofs.Scan.RoundTrip
import HostInventory.Proofs.Scan.Stanza
import HostInventory.Proofs.Text.Cut
import HostInventory.Proofs.Text.LineFeed
import HostInventory.Proofs.Text.Lowercase
import HostInventory.Proofs.Text.OctetOrder
import HostInventory.Proofs.Text.Utf8
import HostInventory.Proofs.Text.Words
import HostInventory.Proofs.Toml.Names
import HostInventory.Provider.Apt
import HostInventory.Provider.Basic
import HostInventory.Provider.Dpkg
import HostInventory.Provider.Error
import HostInventory.Provider.Rpm
import HostInventory.Provider.Yum
import HostInventory.Queue.Basic
import HostInventory.Queue.Executor
import HostInventory.Queue.Scheduler
import HostInventory.Scan.Basic
import HostInventory.Scan.Error
import HostInventory.Scan.Stanza
import HostInventory.Scan.Status
import HostInventory.Shell.Arithmetic
import HostInventory.Shell.Commands
import HostInventory.Shell.Interpreter
import HostInventory.Shell.Parser
import HostInventory.Shell.State
import HostInventory.Shell.Syntax
import HostInventory.System.Error
import HostInventory.Text.Blank
import HostInventory.Text.CaseTable
import HostInventory.Text.Cut
import HostInventory.Text.Decimal
import HostInventory.Text.LetterTable
import HostInventory.Text.Lowercase
import HostInventory.Text.PrintTable
import HostInventory.Text.Quoted
import HostInventory.Text.Utf8
import HostInventory.Toml.Basic
import HostInventory.Toml.Codec
import HostInventory.Toml.Parser
import HostInventory.Toml.Quote
import HostInventory.Toml.Scalar
import HostInventory.Toml.Tree
import HostInventory.Utility.Basic
import HostInventory.Utility.Condition
import HostInventory.Utility.Print
import HostInventory.Utility.Stream
import HostInventory.Utility.Table
