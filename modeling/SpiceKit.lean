import SpiceKit.Action
import SpiceKit.Analysis
import SpiceKit.Assist
import SpiceKit.Cli.Run
import SpiceKit.Cli.Screen
import SpiceKit.Live
import SpiceKit.Main
import SpiceKit.Proofs.Action.History
import SpiceKit.Proofs.Analysis.LineEnds
import SpiceKit.Proofs.Assist.CallHead
import SpiceKit.Proofs.Assist.Definition
import SpiceKit.Proofs.Declaration.Extent
import SpiceKit.Proofs.Declaration.Statement
import SpiceKit.Proofs.Redefinition.Agreement
import SpiceKit.Server
import SpiceKit.Workspace
import SpiceKit.Proofs.Disk.Frame
import SpiceKit.Proofs.Encoding.Utf8
import SpiceKit.Proofs.Number.Binary64
import SpiceKit.Proofs.Json.Strings
import SpiceKit.Proofs.Json.Object
import SpiceKit.Proofs.Settings.Form
import SpiceKit.Proofs.Disk.Reading
import SpiceKit.Proofs.Settings.Store
import SpiceKit.Proofs.Action.Console
import SpiceKit.Proofs.Cli.Steps
import SpiceKit.Proofs.Cli.Compiler
import SpiceKit.Proofs.Cli.Frame
import SpiceKit.Proofs.Workspace
import SpiceKit.Proofs.Server.Ownership
import SpiceKit.Proofs.Server.Shutdown
import SpiceKit.Proofs.Finding.Table
import SpiceKit.Proofs.Live
import SpiceKit.Proofs.Settings.RoundTrip
import SpiceKit.Proofs.Cli.Ending
import SpiceKit.Proofs.Source.Matching
import SpiceKit.Proofs.Source.Places
import SpiceKit.Proofs.Disk.Tree
import SpiceKit.Proofs.Workspace.Rule
import SpiceKit.Proofs.Workspace.Selection
import SpiceKit.Proofs.Workspace.Discovery
import SpiceKit.Proofs.Disk.Below
import SpiceKit.Proofs.Workspace.Survey
import SpiceKit.Proofs.Source.Nesting
import SpiceKit.Proofs.Finding.Mark
import SpiceKit.Proofs.Redefinition.Grammar
import SpiceKit.Proofs.Analysis.Locality
import SpiceKit.Proofs.Tool.Verdict
import SpiceKit.Proofs.Json.Members
import SpiceKit.Proofs.Settings.Loading
import SpiceKit.Proofs.Source.Index
import SpiceKit.Proofs.Path.Compiled
import SpiceKit.Proofs.Document
