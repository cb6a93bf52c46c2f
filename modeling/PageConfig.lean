import PageConfig.Main
import PageConfig.Disk.Access
import PageConfig.Extract.Initializer
import PageConfig.Proofs.Resolve.Reachable
import PageConfig.Proofs.Resolve.Cycle
import PageConfig.Proofs.Json.Fields
import PageConfig.Proofs.Resolve.Merge
import PageConfig.Proofs.Decimal.Exact
import PageConfig.Proofs.Source.Lexing
import PageConfig.Proofs.Source.Literals
import PageConfig.Proofs.Extract.RoundTrip
import PageConfig.Proofs.Disk.Answers
import PageConfig.Proofs.Resolve.OnDisk
import PageConfig.Proofs.Resolve.Independent
import PageConfig.Proofs.Store
import PageConfig.Proofs.Project.Runs
import PageConfig.Proofs.Project.Fates
import PageConfig.Proofs.Path.Names
import PageConfig.Proofs.Project.Plan
import PageConfig.Proofs.Disk.Writes
import PageConfig.Proofs.Resolve.Agreement
import PageConfig.Proofs.Project.Rehearsal
import PageConfig.Proofs.Resolve.Findings
import PageConfig.Proofs.Resolve.Isolation
import PageConfig.Proofs.Path.Tidy
import PageConfig.Proofs.Resolve.Reorder
import PageConfig.Proofs.Disk.Rerun
import PageConfig.Proofs.Project.Rerun
import PageConfig.Proofs.Path.Beside
import PageConfig.Proofs.Project.Overwrites
import PageConfig.Proofs.Extract.Repeats
import PageConfig.Proofs.Path.Settled
import PageConfig.Proofs.Path.Reference
import PageConfig.Proofs.Resolve.References
import PageConfig.Proofs.Json.Grammar
import PageConfig.Proofs.Json.Printing
import PageConfig.Proofs.Json.Reading
import PageConfig.Proofs.Project.SettingsText
import PageConfig.Proofs.Extract.Occurrences
import PageConfig.Proofs.Extract.Omissions
import PageConfig.Proofs.Extract.Declarations
import PageConfig.Proofs.Extract.Interleaving
import PageConfig.Proofs.Path.Canonical
import PageConfig.Proofs.Resolve.Priority
import PageConfig.Proofs.FirstMet
import PageConfig.Proofs.Extract.Usages
import PageConfig.Proofs.Project.PageLists
import PageConfig.Proofs.Report.Findings
import PageConfig.Proofs.Path.Ancestors
import PageConfig.Proofs.Project.Locate
import PageConfig.Proofs.Glob
import PageConfig.Proofs.Path.Display
import PageConfig.Proofs.Project.Ignores
import PageConfig.Proofs.Project.KeyPaths
import PageConfig.Proofs.Extract.Objects
import PageConfig.Proofs.Project.Advice
import PageConfig.Proofs.Resolve.Calls
import PageConfig.Proofs.Path.Relative
import PageConfig.Proofs.Resolve.Shown
import PageConfig.Proofs.Resolve.Entries
import PageConfig.Proofs.Path.Slashes
import PageConfig.Proofs.Project.Seams
