import Gatehouse.Authorizer.Basic
import Gatehouse.Authorizer.Operation
import Gatehouse.Authorizer.Verdict
import Gatehouse.Bindings
import Gatehouse.Breaker.Basic
import Gatehouse.Breaker.Circuit
import Gatehouse.Breaker.Config
import Gatehouse.Breaker.Traffic
import Gatehouse.Cli.Arguments
import Gatehouse.Cli.Help
import Gatehouse.Cli.Report
import Gatehouse.Decimal.Shortest
import Gatehouse.Dispatch.Failure
import Gatehouse.Dispatch.Gateway
import Gatehouse.Dispatch.Router
import Gatehouse.Entity.Kind
import Gatehouse.Entity.Template
import Gatehouse.Environment
import Gatehouse.Files.Basic
import Gatehouse.Files.Tree
import Gatehouse.Json
import Gatehouse.Json.Misfit
import Gatehouse.Json.Number
import Gatehouse.Json.Outline
import Gatehouse.Json.Quotation
import Gatehouse.Json.Reader
import Gatehouse.Ledger
import Gatehouse.Main
import Gatehouse.Memo
import Gatehouse.NameMap
import Gatehouse.Pattern.Action
import Gatehouse.Pattern.Basic
import Gatehouse.Pattern.Document
import Gatehouse.Pattern.Object
import Gatehouse.Policy.Basic
import Gatehouse.Policy.Decision
import Gatehouse.Policy.Document
import Gatehouse.Proofs.Authorizer.Effect
import Gatehouse.Proofs.Authorizer.Isolation
import Gatehouse.Proofs.Authorizer.Scope
import Gatehouse.Proofs.Authorizer.Standing
import Gatehouse.Proofs.Authorizer.Transparency
import Gatehouse.Proofs.Authorizer.Watching
import Gatehouse.Proofs.Bindings.Inclusion
import Gatehouse.Proofs.Bindings.Union
import Gatehouse.Proofs.Breaker.CoolDown
import Gatehouse.Proofs.Breaker.ExactNumbers
import Gatehouse.Proofs.Breaker.FailureCount
import Gatehouse.Proofs.Breaker.FruitlessCalls
import Gatehouse.Proofs.Breaker.Growth
import Gatehouse.Proofs.Breaker.History
import Gatehouse.Proofs.Breaker.LateCalls
import Gatehouse.Proofs.Breaker.Memory
import Gatehouse.Proofs.Breaker.Moves
import Gatehouse.Proofs.Breaker.Openings
import Gatehouse.Proofs.Breaker.TrialSlot
import Gatehouse.Proofs.Decision.LastClause
import Gatehouse.Proofs.Decision.PatternSets
import Gatehouse.Proofs.Decision.Restriction
import Gatehouse.Proofs.Directory.Freshness
import Gatehouse.Proofs.Dispatch.Dropping
import Gatehouse.Proofs.Dispatch.Submission
import Gatehouse.Proofs.Entity.Rendering
import Gatehouse.Proofs.FirstProblem
import Gatehouse.Proofs.Json.Grammar
import Gatehouse.Proofs.Json.Outlining
import Gatehouse.Proofs.Json.Readers
import Gatehouse.Proofs.Ledger.Membership
import Gatehouse.Proofs.Memo.Overlap
import Gatehouse.Proofs.Memo.Room
import Gatehouse.Proofs.Memo.Serving
import Gatehouse.Proofs.Pattern.Assignments
import Gatehouse.Proofs.Pattern.Grammar
import Gatehouse.Proofs.Pattern.Matching
import Gatehouse.Proofs.Pattern.Prebinding
import Gatehouse.Proofs.Pattern.Slashes
import Gatehouse.Proofs.Pattern.Spelling
import Gatehouse.Proofs.Policy.Acceptance
import Gatehouse.Proofs.Policy.Documents
import Gatehouse.Proofs.Registry.Integrity
import Gatehouse.Proofs.Registry.Locality
import Gatehouse.Proofs.Registry.Replacement
import Gatehouse.Proofs.Settings.Accepted
import Gatehouse.Proofs.Settings.Expansion
import Gatehouse.Proofs.Settings.NumberSigns
import Gatehouse.Proofs.Settings.Reading
import Gatehouse.Proofs.Startup.Building
import Gatehouse.Registry.Basic
import Gatehouse.Registry.Directory
import Gatehouse.Registry.Grant
import Gatehouse.Settings
import Gatehouse.Settings.Document
import Gatehouse.Settings.Object
import Gatehouse.Settings.Validation
import Gatehouse.Startup
import Gatehouse.Subject
import Gatehouse.Text
import Gatehouse.Text.Quoted
import Gatehouse.Toml
import Gatehouse.Toml.Document
import Gatehouse.Toml.Reader
import Gatehouse.Toml.Scalar
