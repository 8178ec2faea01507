import PlatformManifests.Binary64
import PlatformManifests.CommandLine.Arguments
import PlatformManifests.CommandLine.Files
import PlatformManifests.CommandLine.Run
import PlatformManifests.Component.Basic
import PlatformManifests.Component.Cache
import PlatformManifests.Component.CatalogApi
import PlatformManifests.Component.Database
import PlatformManifests.Component.IdentityProvider
import PlatformManifests.Component.IngressRouter
import PlatformManifests.Component.InitJob
import PlatformManifests.Component.ObjectStore
import PlatformManifests.Component.SearchIndex
import PlatformManifests.Component.Selection
import PlatformManifests.Composition
import PlatformManifests.Configuration.Basic
import PlatformManifests.Configuration.Document
import PlatformManifests.Configuration.Validation
import PlatformManifests.Descriptor
import PlatformManifests.Dict
import PlatformManifests.Error
import PlatformManifests.Json.Basic
import PlatformManifests.Json.Number
import PlatformManifests.Json.Printer
import PlatformManifests.Json.Reader
import PlatformManifests.Json.Source
import PlatformManifests.Main
import PlatformManifests.Manifest.Access
import PlatformManifests.Manifest.Basic
import PlatformManifests.Manifest.Container
import PlatformManifests.Manifest.Ingress
import PlatformManifests.Manifest.Metadata
import PlatformManifests.Manifest.Pod
import PlatformManifests.Manifest.Probe
import PlatformManifests.Manifest.Service
import PlatformManifests.Manifest.Workload
import PlatformManifests.Model.Basic
import PlatformManifests.Model.Document
import PlatformManifests.Model.Keys
import PlatformManifests.Model.Standard
import PlatformManifests.Naming
import PlatformManifests.Proofs.Composition
import PlatformManifests.Proofs.Descriptor
import PlatformManifests.Proofs.Dictionary
import PlatformManifests.Proofs.Endpoint
import PlatformManifests.Proofs.Generation
import PlatformManifests.Proofs.Lookup
import PlatformManifests.Proofs.Merge
import PlatformManifests.Proofs.Network
import PlatformManifests.Proofs.Outcome
import PlatformManifests.Proofs.Profile
import PlatformManifests.Proofs.Requirements
import PlatformManifests.Proofs.Route
import PlatformManifests.Proofs.SecretNames
import PlatformManifests.Proofs.Validation
import PlatformManifests.Readiness
import PlatformManifests.Reading.Fault
import PlatformManifests.Reading.Source
import PlatformManifests.Resource
import PlatformManifests.ResourceSet
import PlatformManifests.Route
import PlatformManifests.Secret
import PlatformManifests.Text.Pieces
import PlatformManifests.Text.Printable
import PlatformManifests.Text.Quoted
import PlatformManifests.Yaml.Cursor
import PlatformManifests.Yaml.Document
import PlatformManifests.Yaml.Input
import PlatformManifests.Yaml.Mark
import PlatformManifests.Yaml.Node
import PlatformManifests.Yaml.Printer
import PlatformManifests.Yaml.Property
import PlatformManifests.Yaml.Scalar
import PlatformManifests.Yaml.ScalarText
import PlatformManifests.Yaml.Scanner
import PlatformManifests.Yaml.Tag
import PlatformManifests.Yaml.Token
import PlatformManifests.Yaml.Tree
import PlatformManifests.Yaml.Value
import PlatformManifests.Proofs.Wiring
import PlatformManifests.Proofs.Settings
import PlatformManifests.Proofs.Workloads
import PlatformManifests.Proofs.Routing
import PlatformManifests.Proofs.Hosts
import PlatformManifests.Proofs.Connections
import PlatformManifests.Proofs.Listening
import PlatformManifests.Proofs.Scheme
import PlatformManifests.Proofs.Listing
import PlatformManifests.Proofs.History
import PlatformManifests.Proofs.Selection
import PlatformManifests.Proofs.Ownership
import PlatformManifests.Proofs.References
import PlatformManifests.Proofs.ApplyOrder
import PlatformManifests.Proofs.Credentials
import PlatformManifests.Proofs.Naming
import PlatformManifests.Proofs.Reachability
import PlatformManifests.Proofs.Relevance
import PlatformManifests.Proofs.Frame
import PlatformManifests.Proofs.ReadBack
import PlatformManifests.Proofs.Encoding
import PlatformManifests.Proofs.JsonTree
import PlatformManifests.Proofs.Keeping
import PlatformManifests.Proofs.Inputs
import PlatformManifests.Proofs.Outline
import PlatformManifests.Proofs.YamlNumbers
import PlatformManifests.Proofs.YamlTrees
import PlatformManifests.Proofs.YamlSources
import PlatformManifests.Proofs.Lossless
import PlatformManifests.Proofs.PortNumbers
import PlatformManifests.Proofs.JsonText
import PlatformManifests.Proofs.Documents
import PlatformManifests.Proofs.Lines
import PlatformManifests.Proofs.Stream
import PlatformManifests.Proofs.Formats
import PlatformManifests.Proofs.Arguments
import PlatformManifests.Proofs.Commands
import PlatformManifests.Proofs.Files
import PlatformManifests.Proofs.Headers
import PlatformManifests.Proofs.Agreement
import PlatformManifests.Proofs.Output
import PlatformManifests.Proofs.NameGrammar
import PlatformManifests.Proofs.KeyOrder
import PlatformManifests.Proofs.Rules
import PlatformManifests.Proofs.Overrides
import PlatformManifests.Proofs.TlsSecret
import PlatformManifests.Proofs.Buckets
import PlatformManifests.Proofs.Grants
import PlatformManifests.Proofs.RouteFaults
import PlatformManifests.Proofs.WaitSteps
import PlatformManifests.Proofs.Repeats
import PlatformManifests.Proofs.Attribution
