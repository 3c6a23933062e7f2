import ArtifactPipeline.Artifact
import ArtifactPipeline.Assoc
import ArtifactPipeline.Classification
import ArtifactPipeline.Command
import ArtifactPipeline.CommandLine
import ArtifactPipeline.Config.Check
import ArtifactPipeline.Config.Compose
import ArtifactPipeline.Config.Document
import ArtifactPipeline.Config.Fault
import ArtifactPipeline.Config.Model
import ArtifactPipeline.Config.Schema
import ArtifactPipeline.Dataset
import ArtifactPipeline.Disk.Basic
import ArtifactPipeline.Disk.Step
import ArtifactPipeline.Disk.Virtual
import ArtifactPipeline.Experiment
import ArtifactPipeline.Failure
import ArtifactPipeline.Feature
import ArtifactPipeline.Freshness
import ArtifactPipeline.Glob.Expand
import ArtifactPipeline.Glob.Match
import ArtifactPipeline.Glob.Pattern
import ArtifactPipeline.Graph.Cycle
import ArtifactPipeline.Groups
import ArtifactPipeline.Host.Awk.Eval
import ArtifactPipeline.Host.Awk.Number
import ArtifactPipeline.Host.Awk.Pattern
import ArtifactPipeline.Host.Awk.Reader
import ArtifactPipeline.Host.Awk.Start
import ArtifactPipeline.Host.Awk.Streams
import ArtifactPipeline.Host.Awk.Syntax
import ArtifactPipeline.Host.Awk.Token
import ArtifactPipeline.Host.Awk.Value
import ArtifactPipeline.Host.Awk.World
import ArtifactPipeline.Host.Basic
import ArtifactPipeline.Host.Disk
import ArtifactPipeline.Host.Launch
import ArtifactPipeline.Host.LineFields
import ArtifactPipeline.Host.Machine
import ArtifactPipeline.Host.Process
import ArtifactPipeline.Host.Regex.Basic
import ArtifactPipeline.Host.Regex.Glob
import ArtifactPipeline.Host.Regex.Reader
import ArtifactPipeline.Host.Regex.RichReader
import ArtifactPipeline.Host.RichShell.Arithmetic
import ArtifactPipeline.Host.RichShell.Assign
import ArtifactPipeline.Host.RichShell.Braces
import ArtifactPipeline.Host.RichShell.Builtins
import ArtifactPipeline.Host.RichShell.Builtins.Basic
import ArtifactPipeline.Host.RichShell.Builtins.Flow
import ArtifactPipeline.Host.RichShell.Builtins.InputOutput
import ArtifactPipeline.Host.RichShell.Builtins.Names
import ArtifactPipeline.Host.RichShell.Builtins.Places
import ArtifactPipeline.Host.RichShell.Builtins.Processes
import ArtifactPipeline.Host.RichShell.Builtins.Settings
import ArtifactPipeline.Host.RichShell.Builtins.Variables
import ArtifactPipeline.Host.RichShell.Condition
import ArtifactPipeline.Host.RichShell.Eval
import ArtifactPipeline.Host.RichShell.Expansion
import ArtifactPipeline.Host.RichShell.Files
import ArtifactPipeline.Host.RichShell.Jobs
import ArtifactPipeline.Host.RichShell.Print
import ArtifactPipeline.Host.RichShell.Programs
import ArtifactPipeline.Host.RichShell.Quoting
import ArtifactPipeline.Host.RichShell.Reader
import ArtifactPipeline.Host.RichShell.Start
import ArtifactPipeline.Host.RichShell.State
import ArtifactPipeline.Host.RichShell.Subshell
import ArtifactPipeline.Host.RichShell.Syntax
import ArtifactPipeline.Host.Routine
import ArtifactPipeline.Host.Scene
import ArtifactPipeline.Host.Shell.Arithmetic
import ArtifactPipeline.Host.Shell.Builtins
import ArtifactPipeline.Host.Shell.Eval
import ArtifactPipeline.Host.Shell.Expansion
import ArtifactPipeline.Host.Shell.Pattern
import ArtifactPipeline.Host.Shell.Reader
import ArtifactPipeline.Host.Shell.State
import ArtifactPipeline.Host.Shell.Subshell
import ArtifactPipeline.Host.Shell.Syntax
import ArtifactPipeline.Host.Signal
import ArtifactPipeline.Host.Tools.Arguments
import ArtifactPipeline.Host.Tools.Arrangement
import ArtifactPipeline.Host.Tools.Blocks
import ArtifactPipeline.Host.Tools.Call
import ArtifactPipeline.Host.Tools.Checksums
import ArtifactPipeline.Host.Tools.Columns
import ArtifactPipeline.Host.Tools.Command
import ArtifactPipeline.Host.Tools.Content
import ArtifactPipeline.Host.Tools.Condition
import ArtifactPipeline.Host.Tools.Date
import ArtifactPipeline.Host.Tools.Diff
import ArtifactPipeline.Host.Tools.Dump
import ArtifactPipeline.Host.Tools.Edit
import ArtifactPipeline.Host.Tools.Editing
import ArtifactPipeline.Host.Tools.Encoding
import ArtifactPipeline.Host.Tools.Entries
import ArtifactPipeline.Host.Tools.Expression
import ArtifactPipeline.Host.Tools.Files
import ArtifactPipeline.Host.Tools.Find
import ArtifactPipeline.Host.Tools.Find.Reader
import ArtifactPipeline.Host.Tools.Find.Basic
import ArtifactPipeline.Host.Tools.Format
import ArtifactPipeline.Host.Tools.Lines
import ArtifactPipeline.Host.Tools.Listing
import ArtifactPipeline.Host.Tools.Moment
import ArtifactPipeline.Host.Tools.Naming
import ArtifactPipeline.Host.Tools.Order
import ArtifactPipeline.Host.Tools.Permission
import ArtifactPipeline.Host.Tools.Pieces
import ArtifactPipeline.Host.Tools.Printing
import ArtifactPipeline.Host.Tools.Processes
import ArtifactPipeline.Host.Tools.Search
import ArtifactPipeline.Host.Tools.Sequence
import ArtifactPipeline.Host.Tools.Sizes
import ArtifactPipeline.Host.Tools.Starting
import ArtifactPipeline.Host.Tools.Status
import ArtifactPipeline.Host.Tools.Stream
import ArtifactPipeline.Host.Tools.Surroundings
import ArtifactPipeline.Host.Tools.Transfer
import ArtifactPipeline.Host.Tools.Translate
import ArtifactPipeline.Host.Tree
import ArtifactPipeline.Lifecycle
import ArtifactPipeline.Log.Filter
import ArtifactPipeline.Log.Journal
import ArtifactPipeline.Log.Level
import ArtifactPipeline.Log.Line
import ArtifactPipeline.Log.ValuePattern
import ArtifactPipeline.Main
import ArtifactPipeline.NodeId
import ArtifactPipeline.OutputNamer
import ArtifactPipeline.Path.Basic
import ArtifactPipeline.Path.Location
import ArtifactPipeline.Pipeline
import ArtifactPipeline.Plan
import ArtifactPipeline.Program
import ArtifactPipeline.Registry
import ArtifactPipeline.Registry.Indexed
import ArtifactPipeline.Rehearsal
import ArtifactPipeline.Run.Action
import ArtifactPipeline.Run.Basic
import ArtifactPipeline.Run.Coordinator
import ArtifactPipeline.Run.Session
import ArtifactPipeline.Run.Pool
import ArtifactPipeline.Run.Sequence
import ArtifactPipeline.RunSettings
import ArtifactPipeline.Template
import ArtifactPipeline.Text.Alphanumeric
import ArtifactPipeline.Text.Basic
import ArtifactPipeline.Text.Binary64
import ArtifactPipeline.Text.Lower
import ArtifactPipeline.Text.Digest
import ArtifactPipeline.Text.EditScript
import ArtifactPipeline.Text.Utf8
import ArtifactPipeline.Text.Quantity
import ArtifactPipeline.Text.Quoted
import ArtifactPipeline.Text.Version
import ArtifactPipeline.Toml.Document
import ArtifactPipeline.Toml.Scalar
import ArtifactPipeline.Toml.Text
import ArtifactPipeline.Toml.Value
import ArtifactPipeline.Proofs.ParallelSafety
import ArtifactPipeline.Proofs.AbortSafety
import ArtifactPipeline.Proofs.CycleSearch
import ArtifactPipeline.Proofs.Progress
import ArtifactPipeline.Proofs.Agreement
import ArtifactPipeline.Proofs.Rebuild
import ArtifactPipeline.Proofs.Assembly
import ArtifactPipeline.Proofs.PublicOnly
import ArtifactPipeline.Proofs.Dirtiness
import ArtifactPipeline.Proofs.FailureDrain
import ArtifactPipeline.Proofs.Inquiry
import ArtifactPipeline.Proofs.MemoTransparency
import ArtifactPipeline.Proofs.MissingPrerequisites
import ArtifactPipeline.Proofs.Selection
import ArtifactPipeline.Proofs.Rendering
import ArtifactPipeline.Proofs.Numbering
import ArtifactPipeline.Proofs.Enumeration
import ArtifactPipeline.Proofs.OutputDirectories
import ArtifactPipeline.Proofs.Links
import ArtifactPipeline.Proofs.Resume
import ArtifactPipeline.Proofs.SequentialRehearsal
import ArtifactPipeline.Proofs.CanonicalIds
import ArtifactPipeline.Proofs.Matching
import ArtifactPipeline.Proofs.Listings
import ArtifactPipeline.Proofs.GlobExpansion
import ArtifactPipeline.Proofs.GlobSpelling
import ArtifactPipeline.Proofs.SequentialTrace
import ArtifactPipeline.Proofs.Registration
import ArtifactPipeline.Proofs.DiskTable
import ArtifactPipeline.Proofs.LinkChains
