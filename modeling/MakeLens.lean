import MakeLens.Text.Blank
import MakeLens.Text.Ranges
import MakeLens.Text.WordClass
import MakeLens.Text.Printable
import MakeLens.Text.Utf8
import MakeLens.Text.Editor
import MakeLens.Line.Logical
import MakeLens.Line.Fact
import MakeLens.Line.Grammar
import MakeLens.Path
import MakeLens.Entity
import MakeLens.Scan
import MakeLens.Decimal.Shortest
import MakeLens.Text.Quoted
import MakeLens.Json
import MakeLens.Json.Writer
import MakeLens.Json.Reader
import MakeLens.Glob
import MakeLens.Disk
import MakeLens.Index.File
import MakeLens.Index.Cache
import MakeLens.Index.Closure
import MakeLens.Index.Pass
import MakeLens.Index.Definition
import MakeLens.Index.Expansion
import MakeLens.Index
import MakeLens.Toml
import MakeLens.Toml.Scalar
import MakeLens.Toml.Text
import MakeLens.Toml.Conversion
import MakeLens.Toml.Reader
import MakeLens.Settings
import MakeLens.Settings.Decode
import MakeLens.Settings.Overlay
import MakeLens.Settings.Load
import MakeLens.Text.Marks
import MakeLens.Text.Composition
import MakeLens.Uri.Percent
import MakeLens.Uri.Domain.Mapping
import MakeLens.Uri.Domain.Direction
import MakeLens.Uri.Domain.Joining
import MakeLens.Uri.Domain.Punycode
import MakeLens.Uri.Domain
import MakeLens.Uri.Address
import MakeLens.Uri.Host
import MakeLens.Uri.Authority
import MakeLens.Uri.Steps
import MakeLens.Uri
import MakeLens.Documents
import MakeLens.Cursor
import MakeLens.Session.Service
import MakeLens.Session.Message
import MakeLens.Session
import MakeLens.Session.Wire
import MakeLens.Proofs.NormalPath
import MakeLens.Proofs.ReadablePaths
import MakeLens.Proofs.BuildPass
import MakeLens.Proofs.PassExactness
import MakeLens.Proofs.IncludeClosure
import MakeLens.Proofs.Substitution
import MakeLens.Proofs.ExpansionChains
import MakeLens.Proofs.Representation
import MakeLens.Proofs.Frame
import MakeLens.Proofs.DepthFirst
import MakeLens.Proofs.PassRelation
import MakeLens.Proofs.FaultReports
import MakeLens.Proofs.Rescan
import MakeLens.Proofs.AbsolutePath
import MakeLens.Proofs.DiskAgreement
import MakeLens.Proofs.OrderIndependence
import MakeLens.Proofs.NameGroups
import MakeLens.Proofs.DefinitionInEffect
import MakeLens.Proofs.Noninterference
import MakeLens.Proofs.QueryAgreement
import MakeLens.Proofs.Causality
import MakeLens.Proofs.LineForms
import MakeLens.Proofs.NamePositions
import MakeLens.Proofs.CursorWord
import MakeLens.Proofs.EditorLines
import MakeLens.Proofs.CursorRoundTrip
import MakeLens.Proofs.SessionRuns
import MakeLens.Proofs.UnsavedEdits
import MakeLens.Proofs.SettingsRuns
import MakeLens.Proofs.AbsoluteEntries
import MakeLens.Proofs.OpenedText
import MakeLens.Proofs.JsonMembers
import MakeLens.Proofs.TomlTables
import MakeLens.Proofs.FieldPrecedence
import MakeLens.Proofs.LatestDefinition
import MakeLens.Proofs.NamePlaces
import MakeLens.Proofs.RewritingRounds
import MakeLens.Proofs.BoundedExpansion
import MakeLens.Proofs.DiscoveryOrder
import MakeLens.Proofs.PassNesting
import MakeLens.Proofs.PhysicalLines
import MakeLens.Proofs.ContinuedLines
import MakeLens.Proofs.ScanLocality
import MakeLens.Proofs.PrimaryLines
import MakeLens.Proofs.DirectiveLines
import MakeLens.Proofs.FunctionOpeners
import MakeLens.Proofs.CallSites
import MakeLens.Proofs.WordSpans
import MakeLens.Proofs.SharedLines
import MakeLens.Proofs.EntityNames
import MakeLens.Proofs.CanonicalPath
import MakeLens.Proofs.LineEnds
import MakeLens.Proofs.NamePartition
import MakeLens.Index.Lookup
import MakeLens.Proofs.PlainPaths
