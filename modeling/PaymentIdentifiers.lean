import PaymentIdentifiers.Agreement
import PaymentIdentifiers.Arguments
import PaymentIdentifiers.Bban.Range
import PaymentIdentifiers.Bban.Registry
import PaymentIdentifiers.Bban.Structure
import PaymentIdentifiers.Bban.Table
import PaymentIdentifiers.Bic
import PaymentIdentifiers.Card
import PaymentIdentifiers.CheckDigits
import PaymentIdentifiers.Country
import PaymentIdentifiers.CreditorIdentifier
import PaymentIdentifiers.Datum
import PaymentIdentifiers.Decimal.Binary
import PaymentIdentifiers.Decimal.Notation
import PaymentIdentifiers.Iban
import PaymentIdentifiers.Identifier
import PaymentIdentifiers.Log.Conversion
import PaymentIdentifiers.Log.Filling
import PaymentIdentifiers.Log.Mask
import PaymentIdentifiers.Log.Record
import PaymentIdentifiers.Log.Settings
import PaymentIdentifiers.Log.Sink
import PaymentIdentifiers.Luhn
import PaymentIdentifiers.Path
import PaymentIdentifiers.Path.Making
import PaymentIdentifiers.Path.Place
import PaymentIdentifiers.Proofs.Bban.Registration
import PaymentIdentifiers.Proofs.CheckDigits.Number
import PaymentIdentifiers.Proofs.CheckDigits.Pair
import PaymentIdentifiers.Proofs.CheckDigits.Streaming
import PaymentIdentifiers.Proofs.Iban.Acceptance
import PaymentIdentifiers.Proofs.Iban.Parts
import PaymentIdentifiers.Proofs.Iban.Printing
import PaymentIdentifiers.Proofs.Swift.Compilation
import PaymentIdentifiers.Proofs.Swift.Grammar
import PaymentIdentifiers.Proofs.Swift.Matching
import PaymentIdentifiers.Proofs.Swift.Search
import PaymentIdentifiers.Proofs.Swift.Tiling
import PaymentIdentifiers.Proofs.Text.Canonical
import PaymentIdentifiers.Proofs.Text.Decimal
import PaymentIdentifiers.Proofs.Text.Pieces
import PaymentIdentifiers.Rejection
import PaymentIdentifiers.Sampling
import PaymentIdentifiers.Session.Comparison
import PaymentIdentifiers.Session.Field
import PaymentIdentifiers.Session.Item
import PaymentIdentifiers.Session.Number
import PaymentIdentifiers.Session.Run
import PaymentIdentifiers.Session.Step
import PaymentIdentifiers.Sheet.Batch
import PaymentIdentifiers.Sheet.Reader
import PaymentIdentifiers.Sheet.Dialect
import PaymentIdentifiers.Sheet.Detection
import PaymentIdentifiers.Sorting.Merge
import PaymentIdentifiers.Sorting.Runs
import PaymentIdentifiers.Swift.CharClass
import PaymentIdentifiers.Swift.Group
import PaymentIdentifiers.Swift.Pattern
import PaymentIdentifiers.Swift.Token
import PaymentIdentifiers.Text.Basic
import PaymentIdentifiers.Text.CaseTable
import PaymentIdentifiers.Text.Word
import PaymentIdentifiers.Text.Escaped
import PaymentIdentifiers.Text.Lowercase
import PaymentIdentifiers.Text.PrintableTable
import PaymentIdentifiers.Text.WordTable
import PaymentIdentifiers.Tool
import PaymentIdentifiers.Validation
import PaymentIdentifiers.Proofs.Swift.Merging
import PaymentIdentifiers.Proofs.Text.Expression
import PaymentIdentifiers.Proofs.Log.Forms
import PaymentIdentifiers.Proofs.Log.Masking
import PaymentIdentifiers.Proofs.Log.Sentence
import PaymentIdentifiers.Proofs.Log.Discretion
import PaymentIdentifiers.Proofs.Tool.Building
import PaymentIdentifiers.Proofs.Bic.Acceptance
import PaymentIdentifiers.Proofs.Identifier.Spelling
import PaymentIdentifiers.Proofs.Session.Items
import PaymentIdentifiers.Proofs.Validation.EntryPoints
import PaymentIdentifiers.Proofs.Tool.Replies
import PaymentIdentifiers.Proofs.Sheet.Dialects
import PaymentIdentifiers.Proofs.Sheet.Faults
import PaymentIdentifiers.Proofs.Sheet.Rows
import PaymentIdentifiers.Proofs.Sheet.Decoding
import PaymentIdentifiers.Proofs.Tool.Failures
import PaymentIdentifiers.Proofs.Sheet.Guesses
import PaymentIdentifiers.Proofs.Sheet.Samples
import PaymentIdentifiers.Proofs.Sheet.Records
import PaymentIdentifiers.Proofs.Text.Folded
import PaymentIdentifiers.Proofs.Sheet.Delimiters
import PaymentIdentifiers.Proofs.Text.Slips
import PaymentIdentifiers.Proofs.CheckDigits.Detection
import PaymentIdentifiers.Proofs.Luhn.Detection
import PaymentIdentifiers.Proofs.Text.Regular
import PaymentIdentifiers.Proofs.Card.Issuers
import PaymentIdentifiers.Proofs.Bban.Rows
import PaymentIdentifiers.Proofs.Bban.Construction
import PaymentIdentifiers.Proofs.Bban.Fields
import PaymentIdentifiers.Proofs.Iban.Fields
import PaymentIdentifiers.Proofs.Text.Respelling
import PaymentIdentifiers.Proofs.Identifier.Respelling
import PaymentIdentifiers.Proofs.Iban.Sampling
import PaymentIdentifiers.Proofs.Bic.NormalForm
import PaymentIdentifiers.Proofs.Bic.Sampling
import PaymentIdentifiers.Proofs.Log.Formatting
import PaymentIdentifiers.Proofs.Validation.Leakage
import PaymentIdentifiers.Proofs.Sheet.Lines
import PaymentIdentifiers.Proofs.Sheet.Runs
import PaymentIdentifiers.Proofs.Sheet.RowNumbers
import PaymentIdentifiers.Proofs.Sheet.Detection
import PaymentIdentifiers.Proofs.Sheet.Bytewise
import PaymentIdentifiers.Proofs.Sheet.AsciiContent
import PaymentIdentifiers.Proofs.Text.Order
import PaymentIdentifiers.Proofs.Sheet.Headers
import PaymentIdentifiers.Proofs.Tool.Batches
import PaymentIdentifiers.Proofs.Swift.Joining
import PaymentIdentifiers.Proofs.Swift.Spans
import PaymentIdentifiers.Proofs.Swift.Language
import PaymentIdentifiers.Proofs.Identifier.Shapes
