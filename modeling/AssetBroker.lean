import AssetBroker.Access
import AssetBroker.Batch.Code
import AssetBroker.Batch.Relay
import AssetBroker.Batch.Sink
import AssetBroker.Binary64.Arith
import AssetBroker.Binary64.Basic
import AssetBroker.Binary64.Read
import AssetBroker.Binary64.Round
import AssetBroker.Binary64.Shortest
import AssetBroker.Binary64.Text
import AssetBroker.CommandLine.Grammar
import AssetBroker.CommandLine.Help
import AssetBroker.CommandLine.Parse
import AssetBroker.CommandLine.Program
import AssetBroker.CommandLine.Snapshot
import AssetBroker.Config.Diagnostic
import AssetBroker.Config.EnvValue
import AssetBroker.Config.Extract
import AssetBroker.Config.Load
import AssetBroker.Config.Locate
import AssetBroker.Config.Model
import AssetBroker.Config.Placeholder
import AssetBroker.Config.Report
import AssetBroker.Config.Tree
import AssetBroker.Config.Validate
import AssetBroker.Environment
import AssetBroker.Error
import AssetBroker.FileSystem
import AssetBroker.Host
import AssetBroker.Json.Basic
import AssetBroker.Json.Read
import AssetBroker.Json.Write
import AssetBroker.Keyed
import AssetBroker.Log
import AssetBroker.Log.Console
import AssetBroker.Log.Filter
import AssetBroker.Log.Stamp
import AssetBroker.Main
import AssetBroker.Manager.Backend
import AssetBroker.Manager.Bare
import AssetBroker.Manager.Bench
import AssetBroker.Manager.Calls
import AssetBroker.Manager.Catalog
import AssetBroker.Manager.Pages
import AssetBroker.Manager.Scripted
import AssetBroker.Manager.Session
import AssetBroker.Manager.State
import AssetBroker.Manager.Token
import AssetBroker.Path
import AssetBroker.Plugin.Binary
import AssetBroker.Plugin.Factory
import AssetBroker.Plugin.Library
import AssetBroker.Plugin.Listing
import AssetBroker.Plugin.Maker
import AssetBroker.Plugin.Manifest
import AssetBroker.Plugin.Origin
import AssetBroker.Plugin.Provider
import AssetBroker.Plugin.Registry
import AssetBroker.Plugin.Scan
import AssetBroker.Plugin.SearchPaths
import AssetBroker.Plugin.Source
import AssetBroker.Plugin.World
import AssetBroker.Property.Json
import AssetBroker.Property.Value
import AssetBroker.Query
import AssetBroker.Script.Batch
import AssetBroker.Script.Cli
import AssetBroker.Script.Common
import AssetBroker.Script.Config
import AssetBroker.Script.Manager
import AssetBroker.Script.Manifest
import AssetBroker.Script.PluginSetup
import AssetBroker.Script.Plugins
import AssetBroker.Script.Registry
import AssetBroker.Script.Run
import AssetBroker.Script.Scenario
import AssetBroker.Script.Small
import AssetBroker.Script.Values
import AssetBroker.Text.Blank
import AssetBroker.Text.Debug
import AssetBroker.Text.LineBreak
import AssetBroker.Text.Replace
import AssetBroker.Text.Similarity
import AssetBroker.Text.Wrap
import AssetBroker.Toml.Decode
import AssetBroker.Toml.Document
import AssetBroker.Toml.Lexeme
import AssetBroker.Toml.Read
import AssetBroker.Toml.Report
import AssetBroker.Toml.Scan
import AssetBroker.Toml.Value
import AssetBroker.Traits.Data
import AssetBroker.Unicode.Data
import AssetBroker.Unicode.Properties
import AssetBroker.Unicode.Table
import AssetBroker.Version
import AssetBroker.Proofs.SinkRun
import AssetBroker.Proofs.ExactlyOnce
import AssetBroker.Proofs.CallShapes
import AssetBroker.Proofs.FirstRegistration
import AssetBroker.Proofs.WorldRuns
import AssetBroker.Proofs.NativeLoad
import AssetBroker.Proofs.NativeScan
import AssetBroker.Proofs.HybridPrecedence
import AssetBroker.Proofs.ScanOnce
import AssetBroker.Proofs.LibraryHandles
import AssetBroker.Proofs.BenchHolds
import AssetBroker.Proofs.LoadedHeld
import AssetBroker.Proofs.BoundObjects
import AssetBroker.Proofs.RelayedSink
import AssetBroker.Proofs.RefusedCalls
import AssetBroker.Proofs.PackageLoad
import AssetBroker.Proofs.PackageScan
import AssetBroker.Proofs.PackageManifests
import AssetBroker.Proofs.PagerTeardown
import AssetBroker.Proofs.ConfigChecks
import AssetBroker.Proofs.TraitsCanonical
import AssetBroker.Proofs.TokenRoundTrip
import AssetBroker.Proofs.ContextPersistence
import AssetBroker.Proofs.ConfigSpans
import AssetBroker.Proofs.PlaceholderSubstitution
import AssetBroker.Proofs.TraitsAlgebra
import AssetBroker.Proofs.CanonicalTraits
import AssetBroker.Proofs.QueryOutcomes
import AssetBroker.Proofs.JsonReading
import AssetBroker.Proofs.PropertyReading
import AssetBroker.Proofs.PropertyRoundTrip
import AssetBroker.Proofs.CatalogLoops
import AssetBroker.Proofs.RelationPages
import AssetBroker.Proofs.Publishing
import AssetBroker.Proofs.SpanLookup
import AssetBroker.Proofs.EnvironmentKeys
