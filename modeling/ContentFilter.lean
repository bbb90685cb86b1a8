import ContentFilter.Text.Blank
import ContentFilter.Text.Letter
import ContentFilter.NameTable
import ContentFilter.Decimal.Text
import ContentFilter.Decimal.Shortest
import ContentFilter.Json.Reader
import ContentFilter.Json.Text
import ContentFilter.Calendar.Text
import ContentFilter.Calendar.Fields
import ContentFilter.Calendar.Iso
import ContentFilter.Calendar.Pattern
import ContentFilter.Value.OfJson
import ContentFilter.Expr.Lexeme
import ContentFilter.Expr.Reader
import ContentFilter.Text.BinaryProperty
import ContentFilter.Text.CaseOrbit
import ContentFilter.Text.Category
import ContentFilter.Text.Script
import ContentFilter.Clock
import ContentFilter.CommandLine.Options
import ContentFilter.CommandLine.Run
import ContentFilter.Filter.Meaning
import ContentFilter.Filter.Session
import ContentFilter.Main
import ContentFilter.Filter.Selection
import ContentFilter.Proofs.Meaning
import ContentFilter.Proofs.Nesting
import ContentFilter.Proofs.RoundTrip
import ContentFilter.Proofs.Selection
import ContentFilter.Proofs.Binding
import ContentFilter.Proofs.WholeText
import ContentFilter.Proofs.Numeral
import ContentFilter.Proofs.ContentTree
import ContentFilter.Proofs.Starting
import ContentFilter.Proofs.NullTests
import ContentFilter.Proofs.JsonErrors
import ContentFilter.Proofs.Outcome
import ContentFilter.Proofs.PrintedValue
import ContentFilter.Proofs.Containment
import ContentFilter.Proofs.RelativePath
import ContentFilter.Proofs.TimeAgreement
import ContentFilter.Proofs.StringLiteral
import ContentFilter.Proofs.Remainder
import ContentFilter.Proofs.ErrorPosition
import ContentFilter.Proofs.ArgumentList
import ContentFilter.Proofs.PatternClock
import ContentFilter.Proofs.PatternTranslation
import ContentFilter.Proofs.Progress
