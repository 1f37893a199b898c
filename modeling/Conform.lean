import Conform.Calendar.Date
import Conform.Calendar.DateTime
import Conform.Calendar.Reader
import Conform.Coercion
import Conform.Coercion.Builtin
import Conform.Coercion.Conversion
import Conform.CoercionError
import Conform.Generator
import Conform.Identifier
import Conform.Identifier.Cut
import Conform.Json
import Conform.Json.Reader
import Conform.Json.Writer
import Conform.Named
import Conform.Node.Basic
import Conform.Node.Compile
import Conform.Node.OfType
import Conform.Node.Reader
import Conform.Node.Writer
import Conform.Number
import Conform.Number.Binary64
import Conform.Number.Decimal
import Conform.Number.Decimal.Words
import Conform.Number.Integer
import Conform.Number.Power
import Conform.Number.Shortest
import Conform.Number.Word
import Conform.Pattern
import Conform.Pattern.Category
import Conform.Pattern.CharClass
import Conform.Pattern.Fold
import Conform.Pattern.Letters
import Conform.Pattern.Reader
import Conform.Pattern.Regex
import Conform.Primitive
import Conform.Proofs.Accumulation
import Conform.Proofs.Addresses
import Conform.Proofs.Agreement
import Conform.Proofs.Alternatives
import Conform.Proofs.Behaviour
import Conform.Proofs.Blame
import Conform.Proofs.CalendarText
import Conform.Proofs.Calls
import Conform.Proofs.Closed
import Conform.Proofs.Comparison
import Conform.Proofs.Contents
import Conform.Proofs.Cores
import Conform.Proofs.DecimalText
import Conform.Proofs.Decimals
import Conform.Proofs.Defaults
import Conform.Proofs.Digits
import Conform.Proofs.Documents
import Conform.Proofs.Enforcement
import Conform.Proofs.Entries
import Conform.Proofs.Enumerations
import Conform.Proofs.Equality
import Conform.Proofs.ExactOrder
import Conform.Proofs.Explanations
import Conform.Proofs.Fields
import Conform.Proofs.FirstError
import Conform.Proofs.FloatText
import Conform.Proofs.Grammar
import Conform.Proofs.Idempotence
import Conform.Proofs.Identifiers
import Conform.Proofs.Integers
import Conform.Proofs.Issued
import Conform.Proofs.JsonText
import Conform.Proofs.Literals
import Conform.Proofs.Lookups
import Conform.Proofs.Moments
import Conform.Proofs.Monotone
import Conform.Proofs.Names
import Conform.Proofs.Narrowing
import Conform.Proofs.Order
import Conform.Proofs.Overwritten
import Conform.Proofs.Parallel
import Conform.Proofs.Pipelines
import Conform.Proofs.PlainData
import Conform.Proofs.Policies
import Conform.Proofs.Positions
import Conform.Proofs.Quiet
import Conform.Proofs.Ranges
import Conform.Proofs.Rebuilding
import Conform.Proofs.References
import Conform.Proofs.Registered
import Conform.Proofs.Registrations
import Conform.Proofs.Repeat
import Conform.Proofs.Replacement
import Conform.Proofs.Rereading
import Conform.Proofs.Respect
import Conform.Proofs.Rounding
import Conform.Proofs.Same
import Conform.Proofs.Spelling
import Conform.Proofs.Steady
import Conform.Proofs.Stripping
import Conform.Proofs.Tables
import Conform.Proofs.Targets
import Conform.Proofs.Transparency
import Conform.Proofs.Transport
import Conform.Proofs.Truncation
import Conform.Registry
import Conform.Registry.Functions
import Conform.Registry.Lookup
import Conform.Registry.Standard
import Conform.Rule
import Conform.Rule.Predicate
import Conform.Schema
import Conform.Text.Blank
import Conform.Text.CodeRange
import Conform.Text.Digits
import Conform.Text.Position
import Conform.Text.Quoted
import Conform.Text.Visible
import Conform.Ty.Basic
import Conform.Ty.Combinators
import Conform.Ty.Equality
import Conform.Ty.Evaluation
import Conform.Value
import Conform.Value.Display
import Conform.Value.Document
import Conform.Value.Literal
import Conform.Value.Order
import Conform.Value.Table
