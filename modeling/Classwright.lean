import Classwright.BuildLog.Link
import Classwright.BuildLog.Location
import Classwright.BuildLog.Message
import Classwright.Command.Basic
import Classwright.Command.Insertion
import Classwright.Command.Request
import Classwright.Command.Run
import Classwright.CompileDatabase
import Classwright.Counterpart
import Classwright.Document.Basic
import Classwright.EditorJson
import Classwright.FileTree
import Classwright.Generated.Accessor
import Classwright.Generated.Function
import Classwright.Generated.SpecialMember
import Classwright.HeaderGuard
import Classwright.Hover
import Classwright.Json.Basic
import Classwright.Json.Decode
import Classwright.Json.Reader
import Classwright.Member
import Classwright.Number.Digits
import Classwright.Number.Double
import Classwright.Path.Basic
import Classwright.Pattern.Automaton
import Classwright.Pattern.Basic
import Classwright.Pattern.Bracket
import Classwright.Pattern.CharSet
import Classwright.Pattern.Escape
import Classwright.Pattern.Footprint
import Classwright.Pattern.Reader
import Classwright.Pattern.Replace
import Classwright.Pattern.Search
import Classwright.Position
import Classwright.Proofs.BuildLog.Collapse
import Classwright.Proofs.BuildLog.Condensed
import Classwright.Proofs.BuildLog.LastBuild
import Classwright.Proofs.BuildLog.Link
import Classwright.Proofs.BuildLog.Location
import Classwright.Proofs.BuildLog.Verdict
import Classwright.Proofs.BuildLog.Workspace
import Classwright.Proofs.Command.Choice
import Classwright.Proofs.Command.LineEnds
import Classwright.Proofs.Command.Lowered
import Classwright.Proofs.CompileDatabase.Entry
import Classwright.Proofs.CompileDatabase.Rewrite
import Classwright.Proofs.Counterpart.Nearest
import Classwright.Proofs.Counterpart.Search
import Classwright.Proofs.Counterpart.Walk
import Classwright.Proofs.Document.Change
import Classwright.Proofs.Document.Edits
import Classwright.Proofs.Document.History
import Classwright.Proofs.Document.Inverse
import Classwright.Proofs.Document.Offset
import Classwright.Proofs.Document.Scanned
import Classwright.Proofs.Document.Shift
import Classwright.Proofs.Document.Table
import Classwright.Proofs.Generated.Function
import Classwright.Proofs.Generated.Placements
import Classwright.Proofs.HeaderGuard.Directive
import Classwright.Proofs.HeaderGuard.Edits
import Classwright.Proofs.HeaderGuard.Find
import Classwright.Proofs.HeaderGuard.Fresh
import Classwright.Proofs.HeaderGuard.MacroName
import Classwright.Proofs.HeaderGuard.Pattern
import Classwright.Proofs.HeaderGuard.Recognition
import Classwright.Proofs.HeaderGuard.SingleLine
import Classwright.Proofs.HeaderGuard.Written
import Classwright.Proofs.Hover
import Classwright.Proofs.Json.Fields
import Classwright.Proofs.Member.RoundTrip
import Classwright.Proofs.Path.Below
import Classwright.Proofs.Path.LastName
import Classwright.Proofs.Path.Normal
import Classwright.Proofs.Path.Walk
import Classwright.Proofs.PublicSection.Insertion
import Classwright.Proofs.PublicSection.Inside
import Classwright.Proofs.PublicSection.Lowered
import Classwright.Proofs.PublicSection.Scan
import Classwright.Proofs.PublicSection.Section
import Classwright.Proofs.Session.Guards
import Classwright.Proofs.Session.Watched
import Classwright.Proofs.Settings.LastWriter
import Classwright.Proofs.Settings.Normal
import Classwright.Proofs.Settings.Reachable
import Classwright.Proofs.Signature.Boundary
import Classwright.Proofs.Signature.Closed
import Classwright.Proofs.Signature.Declaration
import Classwright.Proofs.Signature.FirstDeclaration
import Classwright.Proofs.Signature.Identifier
import Classwright.Proofs.Signature.Offsets
import Classwright.Proofs.Signature.RoundTrip
import Classwright.Proofs.Signature.Title
import Classwright.Proofs.Symbol.Descent
import Classwright.Proofs.Text.Lines
import Classwright.Proofs.Text.Place
import Classwright.Proofs.Text.Search
import Classwright.Proofs.Text.Sliced
import Classwright.Proofs.Text.Stretch
import Classwright.Proofs.Text.Trim
import Classwright.Proofs.Text.Utf8
import Classwright.Proofs.Url.FilePath
import Classwright.Proofs.Url.Resolved
import Classwright.Property.Age
import Classwright.Property.Boundary
import Classwright.Property.Category
import Classwright.Property.Query
import Classwright.Property.Script
import Classwright.Property.Trait
import Classwright.Property.TraitTable
import Classwright.PublicSection
import Classwright.Scaffold
import Classwright.Session.Basic
import Classwright.Session.Dispatch
import Classwright.Session.Message
import Classwright.Session.Params
import Classwright.Settings.Basic
import Classwright.Settings.Patch
import Classwright.Signature.Basic
import Classwright.Signature.Declaration
import Classwright.Symbol
import Classwright.Text.Alphabetic
import Classwright.Text.Basic
import Classwright.Text.CaseFold
import Classwright.Text.CaseMap
import Classwright.Text.Composed
import Classwright.Text.Decomposition
import Classwright.Text.Direction
import Classwright.Text.MarkClass
import Classwright.Text.Numeric
import Classwright.Text.Quoted
import Classwright.Text.Table
import Classwright.Text.Utf8
import Classwright.Text.Word
import Classwright.Toml.Reader
import Classwright.Toml.Scalar
import Classwright.Toml.Table
import Classwright.Url.Basic
import Classwright.Url.Domain
import Classwright.Url.Host
import Classwright.Url.Label
import Classwright.Url.Mapping
import Classwright.Url.Parser
