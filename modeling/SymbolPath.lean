import SymbolPath.Main
import SymbolPath.Proofs.Comment.InsertedName
import SymbolPath.Proofs.Comment.Layout
import SymbolPath.Proofs.Doclet.Writes
import SymbolPath.Proofs.Extraction.Constructors
import SymbolPath.Proofs.Extraction.Containment
import SymbolPath.Proofs.Extraction.DocumentOrder
import SymbolPath.Proofs.Extraction.FileNames
import SymbolPath.Proofs.Extraction.Isolation
import SymbolPath.Proofs.Extraction.Locality
import SymbolPath.Proofs.Extraction.ModuleScope
import SymbolPath.Proofs.Extraction.Nameless
import SymbolPath.Proofs.Extraction.Pinning
import SymbolPath.Proofs.Extraction.Shapes
import SymbolPath.Proofs.Extraction.StringKeys
import SymbolPath.Proofs.Number.DigitRows
import SymbolPath.Proofs.Path.Pieces
import SymbolPath.Proofs.Path.RoundTrip
import SymbolPath.Proofs.Path.Schemes
import SymbolPath.Proofs.Path.WholeSegments
import SymbolPath.Proofs.Registry.History
import SymbolPath.Proofs.Report.Columns
import SymbolPath.Proofs.Report.Printing
import SymbolPath.Proofs.Resolution.BareName
import SymbolPath.Proofs.Resolution.Docspace
import SymbolPath.Proofs.Resolution.Footprint
import SymbolPath.Proofs.Resolution.InstanceSpellings
import SymbolPath.Proofs.Resolution.Nesting
import SymbolPath.Proofs.Resolution.Sessions
import SymbolPath.Proofs.Resolution.ThisContainer
import SymbolPath.Proofs.Resolution.ThisMember
import SymbolPath.Proofs.Settings.Canonical
import SymbolPath.Proofs.Settings.KindNames
import SymbolPath.Proofs.Settings.Loading
import SymbolPath.Proofs.Settings.Migration
import SymbolPath.Proofs.Settings.Rejection
import SymbolPath.Proofs.Sources.Endings
import SymbolPath.Proofs.Sources.Naming
import SymbolPath.Proofs.Sources.Repetition
import SymbolPath.Report.Console
