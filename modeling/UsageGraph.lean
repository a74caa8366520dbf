import UsageGraph.Main
import UsageGraph.Proofs.Graph.CycleCoverage
import UsageGraph.Proofs.Graph.Users
import UsageGraph.Proofs.Graph.Unresolved
import UsageGraph.Proofs.Graph.EntryPoints
import UsageGraph.Proofs.Json.Zones
import UsageGraph.Proofs.Json.Scanner
import UsageGraph.Proofs.Json.ValueTokens
import UsageGraph.Proofs.Json.Comments
import UsageGraph.Proofs.Json.Reading
import UsageGraph.Proofs.Json.Printed
import UsageGraph.Proofs.Json.LineEnds
import UsageGraph.Proofs.Tree.Paths
import UsageGraph.Proofs.Store.Discovery
import UsageGraph.Proofs.Store.Records
import UsageGraph.Proofs.Graph.Rebuilt
import UsageGraph.Proofs.Project.Loading
import UsageGraph.Proofs.Store.Writing
import UsageGraph.Proofs.Graph.Changed
import UsageGraph.Proofs.Store.Rebuild
import UsageGraph.Proofs.Graph.SimpleCycles
import UsageGraph.Proofs.Graph.Reach
import UsageGraph.Proofs.Graph.Components
import UsageGraph.Proofs.Graph.Clusters
import UsageGraph.Proofs.Text.Affix
import UsageGraph.Proofs.Reference.Folder
import UsageGraph.Proofs.Graph.Loose
import UsageGraph.Proofs.Graph.Isolation
import UsageGraph.Proofs.Graph.BlastRadius
import UsageGraph.Proofs.Console.Escape
import UsageGraph.Proofs.Console.Plain
import UsageGraph.Proofs.Console.Printing
import UsageGraph.Proofs.Console.Report
import UsageGraph.Proofs.CommandLine.Running
import UsageGraph.Proofs.CommandLine.Outcome
import UsageGraph.Proofs.Store.Loading
import UsageGraph.Proofs.CommandLine.Endings
import UsageGraph.Proofs.Graph.StoredUsers
import UsageGraph.Proofs.Store.RoundTrip
import UsageGraph.Proofs.Store.Effect
import UsageGraph.Proofs.Graph.Reordered
import UsageGraph.Proofs.Tree.Pruned
import UsageGraph.Proofs.Store.Acceptance
import UsageGraph.Proofs.Store.Isolation
import UsageGraph.Proofs.Project.Obstacles
import UsageGraph.Proofs.Regex.Matching
import UsageGraph.Proofs.Regex.Reading
import UsageGraph.Proofs.EntryPattern.Glob
import UsageGraph.Proofs.CommandLine.MachineOutput
import UsageGraph.Proofs.CommandLine.Status
import UsageGraph.Proofs.Reference.Canonical
import UsageGraph.Proofs.Reference.Relative
import UsageGraph.Proofs.Graph.RootAlias
import UsageGraph.Proofs.Project.AliasTargets
import UsageGraph.Proofs.Reference.Key
import UsageGraph.Proofs.Graph.Keys
import UsageGraph.Proofs.Graph.Precedence
import UsageGraph.Proofs.EntryPattern.Matcher
import UsageGraph.Proofs.Graph.MorePatterns
import UsageGraph.Proofs.Dot.Reader
import UsageGraph.Proofs.Dot.Drawing
import UsageGraph.Proofs.Dot.RedNodes
import UsageGraph.Proofs.Json.Literals
import UsageGraph.Proofs.Json.Lexemes
import UsageGraph.Proofs.Json.Commented
import UsageGraph.Proofs.Tree.View
import UsageGraph.Proofs.Store.Refused
import UsageGraph.Proofs.Tree.Proper
import UsageGraph.Proofs.Store.Folders
import UsageGraph.Proofs.Project.AliasSources
import UsageGraph.Proofs.Graph.Memory
import UsageGraph.Proofs.Graph.Rotations
import UsageGraph.Proofs.Regex.Literal
import UsageGraph.Proofs.EntryPattern.Fallback
import UsageGraph.Proofs.Text.Trimmed
import UsageGraph.Proofs.Graph.Locating
import UsageGraph.Proofs.Graph.Traversal
