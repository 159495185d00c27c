import RequestRouting.Text.Blank
import RequestRouting.Text.Ascii
import RequestRouting.Text.Split
import RequestRouting.Text.Utf8
import RequestRouting.Json.Printer
import RequestRouting.Json.Parser
import RequestRouting.Method
import RequestRouting.PathTrie.Basic
import RequestRouting.PathTrie.Arena
import RequestRouting.Event
import RequestRouting.Request
import RequestRouting.Context
import RequestRouting.Chain
import RequestRouting.Echo
import RequestRouting.RouteGroup
import RequestRouting.Dispatcher
import RequestRouting.Json.Reading
import RequestRouting.RouteTable
import RequestRouting.RuntimeConfig.Reading
import RequestRouting.RouteTable.Reading
import RequestRouting.Yaml.Scalar
import RequestRouting.Yaml.Token
import RequestRouting.Yaml.Reading
import RequestRouting.Toml.Reading
import RequestRouting.RuntimeConfig.File
import RequestRouting.RouteTable.File
import RequestRouting.Regex.Parser
import RequestRouting.LogConfig
import RequestRouting.CommandLine.Arguments
import RequestRouting.Main
import RequestRouting.Event.Json
import RequestRouting.Proofs.PathTrie.Insertion
import RequestRouting.Proofs.PathTrie.Search
import RequestRouting.Proofs.PathTrie.Numbering
import RequestRouting.Proofs.PathTrie.Binding
import RequestRouting.Proofs.PathTrie.SegmentTree
import RequestRouting.Proofs.PathTrie.Arena.Insertion
import RequestRouting.Proofs.PathTrie.Locality
import RequestRouting.Proofs.Router.Resolution
import RequestRouting.Proofs.Chain.Conduct
import RequestRouting.Proofs.Chain.Journal
import RequestRouting.Proofs.Chain.Nesting
import RequestRouting.Proofs.Chain.Order
import RequestRouting.Proofs.Chain.Moments
import RequestRouting.Proofs.Chain.Containment
import RequestRouting.Proofs.Router.Listing
import RequestRouting.Proofs.Router.Family
import RequestRouting.Proofs.PathTrie.Refusal
import RequestRouting.Proofs.PathTrie.Refinement
import RequestRouting.Proofs.Chain.Progress
import RequestRouting.Proofs.Chain.Panic
import RequestRouting.Proofs.Chain.Timeline
import RequestRouting.Proofs.Chain.Cancellation
import RequestRouting.Proofs.Router.Assembly
import RequestRouting.Proofs.Pattern.Joining
import RequestRouting.Proofs.Router.Prefixes
import RequestRouting.Proofs.Dispatcher.Head
import RequestRouting.Proofs.Pattern.Grammar
import RequestRouting.Proofs.Router.Alike
import RequestRouting.Proofs.Dispatcher.Identification
import RequestRouting.Proofs.Dispatcher.ErrorCounts
import RequestRouting.Proofs.PathTrie.Acceptance
import RequestRouting.Proofs.PathTrie.Reordering
import RequestRouting.Proofs.RouteTable.Construction
import RequestRouting.Proofs.SharedRouter.Revision
import RequestRouting.Proofs.SharedRouter.Settings
import RequestRouting.Proofs.SharedRouter.Stability
import RequestRouting.Proofs.Dispatcher.Transparency
import RequestRouting.Proofs.Dispatcher.HeadFallback
import RequestRouting.Proofs.Dispatcher.Concealment
import RequestRouting.Proofs.CommandLine.Agreement
import RequestRouting.Proofs.Dispatcher.Stamping
import RequestRouting.Proofs.Dispatcher.Preregistration
import RequestRouting.Proofs.RouteTable.Folding
import RequestRouting.Proofs.Router.Slashes
import RequestRouting.Proofs.PathTrie.Respelling
import RequestRouting.Proofs.Dispatcher.Adoption
import RequestRouting.Proofs.RequestId.Order
import RequestRouting.Proofs.Router.AllowHeader
import RequestRouting.Proofs.Dispatcher.Bindings
import RequestRouting.Proofs.RuntimeConfig.Overlay
import RequestRouting.Proofs.Dispatcher.TimeLimit
import RequestRouting.Proofs.Headers
import RequestRouting.Proofs.CancelToken.Families
