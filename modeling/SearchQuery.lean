import SearchQuery.Main
import SearchQuery.Proofs.Document.Concatenation
import SearchQuery.Proofs.Document.Coverage
import SearchQuery.Proofs.Document.FreeText
import SearchQuery.Proofs.Document.Order
import SearchQuery.Proofs.Document.Placement
import SearchQuery.Proofs.Document.Rejection
import SearchQuery.Proofs.Document.RoundTrip
import SearchQuery.Proofs.Symbol.History
import SearchQuery.Proofs.Symbol.Listing
import SearchQuery.Proofs.Validation.ItemOrder
import SearchQuery.Proofs.Document.Position
import SearchQuery.Proofs.Node.Text
import SearchQuery.Proofs.Repository.Named
import SearchQuery.Proofs.Validation.Found
import SearchQuery.Proofs.Repository.Split
import SearchQuery.Proofs.Repository.Literal
import SearchQuery.Proofs.Repository.Values
import SearchQuery.Proofs.Line.Shape
import SearchQuery.Proofs.Symbol.Definitions
import SearchQuery.Proofs.Validation.Clean
import SearchQuery.Proofs.Line.Text
import SearchQuery.Proofs.Symbol.Resolution
import SearchQuery.Proofs.Document.Moved
import SearchQuery.Proofs.Document.Erasure
import SearchQuery.Proofs.Symbol.Moved
import SearchQuery.Proofs.Symbol.Redefinition
import SearchQuery.Proofs.Line.Correspondence
import SearchQuery.Proofs.Line.Gap
import SearchQuery.Proofs.Line.Absence
import SearchQuery.Proofs.Validation.Lines
import SearchQuery.Proofs.Symbol.Alike
import SearchQuery.Proofs.Document.Alike
import SearchQuery.Proofs.Symbol.Dependence
import SearchQuery.Proofs.Text.LineEndings
import SearchQuery.Proofs.Validation.Inside
import SearchQuery.Proofs.Document.LineEndings
import SearchQuery.Proofs.Line.FreeText
import SearchQuery.Proofs.Document.Expected
import SearchQuery.Proofs.Validation.Variables
import SearchQuery.Proofs.Document.Charges
import SearchQuery.Proofs.Document.Passing
import SearchQuery.Proofs.Outline
import SearchQuery.Proofs.Catalog.Entry
import SearchQuery.Proofs.Catalog.Failure
import SearchQuery.Proofs.Text.Offset
import SearchQuery.Proofs.Log.History
