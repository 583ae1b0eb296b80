import BodyScrub.Document
import BodyScrub.Entries
import BodyScrub.Failure
import BodyScrub.Fault
import BodyScrub.Filter
import BodyScrub.Journal
import BodyScrub.Json.Display
import BodyScrub.Json.Position
import BodyScrub.Json.Reader
import BodyScrub.Json.Value
import BodyScrub.Json.Writer
import BodyScrub.MediaType
import BodyScrub.Number.Decimal
import BodyScrub.Number.Double
import BodyScrub.Operation
import BodyScrub.Path
import BodyScrub.Path.Match
import BodyScrub.Path.Reader
import BodyScrub.Pattern.Escape
import BodyScrub.Pattern.Flags
import BodyScrub.Pattern.Matcher
import BodyScrub.Pattern.Node
import BodyScrub.Pattern.PointTest
import BodyScrub.Pattern.Reader
import BodyScrub.Pattern.Reading
import BodyScrub.Pattern.Search
import BodyScrub.Pattern.Token
import BodyScrub.Proofs.Document
import BodyScrub.Proofs.Entries
import BodyScrub.Proofs.Filter.Commuting
import BodyScrub.Proofs.Filter.Deletion
import BodyScrub.Proofs.Filter.Leaves
import BodyScrub.Proofs.Filter.Merge
import BodyScrub.Proofs.Filter.Messages
import BodyScrub.Proofs.Filter.Replacement
import BodyScrub.Proofs.Filter.Steps
import BodyScrub.Proofs.Filter.Writing
import BodyScrub.Proofs.Json.Contents
import BodyScrub.Proofs.Json.Modify
import BodyScrub.Proofs.Json.Numbers
import BodyScrub.Proofs.Json.Reading
import BodyScrub.Proofs.Json.Regular
import BodyScrub.Proofs.Json.Removal
import BodyScrub.Proofs.Json.RoundTrip
import BodyScrub.Proofs.Json.Separators
import BodyScrub.Proofs.Json.Spelling
import BodyScrub.Proofs.Json.Strings
import BodyScrub.Proofs.Json.Tokens
import BodyScrub.Proofs.Json.Writable
import BodyScrub.Proofs.MediaType
import BodyScrub.Proofs.Number.Digits
import BodyScrub.Proofs.Number.Overflow
import BodyScrub.Proofs.Number.Rounding
import BodyScrub.Proofs.Number.Shortest
import BodyScrub.Proofs.Operation
import BodyScrub.Proofs.Operation.Deleting
import BodyScrub.Proofs.Operation.Progress
import BodyScrub.Proofs.Operation.Rewriting
import BodyScrub.Proofs.Operation.Subject
import BodyScrub.Proofs.Operation.Transforming
import BodyScrub.Proofs.Path.DocumentOrder
import BodyScrub.Proofs.Path.Grammar
import BodyScrub.Proofs.Path.Identity
import BodyScrub.Proofs.Path.NormalText
import BodyScrub.Proofs.Path.Renaming
import BodyScrub.Proofs.Path.Resolution
import BodyScrub.Proofs.Path.Simultaneous
import BodyScrub.Proofs.Path.Untouched
import BodyScrub.Proofs.Pattern.Groups
import BodyScrub.Proofs.PropertyFilter.Coverage
import BodyScrub.Proofs.PropertyFilter.Masking
import BodyScrub.Proofs.PropertyFilter.Rescan
import BodyScrub.Proofs.PropertyFilter.Scan
import BodyScrub.Proofs.PropertyFilter.Trees
import BodyScrub.Proofs.PropertyFilter.Truncation
import BodyScrub.Proofs.PropertyFilter.Union
import BodyScrub.Proofs.PropertyFilter.Values
import BodyScrub.Proofs.Sensitive
import BodyScrub.Proofs.Sensitive.Composing
import BodyScrub.Proofs.Session
import BodyScrub.Proofs.Session.Defaults
import BodyScrub.Proofs.Session.Events
import BodyScrub.Proofs.Session.Opening
import BodyScrub.Proofs.Settings
import BodyScrub.Proofs.Template
import BodyScrub.Proofs.Text.Case
import BodyScrub.Proofs.Text.Classes
import BodyScrub.Proofs.Text.Numerals
import BodyScrub.Proofs.Text.Parts
import BodyScrub.PropertyFilter
import BodyScrub.Sensitive
import BodyScrub.Session
import BodyScrub.Session.Run
import BodyScrub.Settings
import BodyScrub.Settings.Sources
import BodyScrub.Template
import BodyScrub.Text
import BodyScrub.Text.Blank
import BodyScrub.Text.Case
import BodyScrub.Text.CaseTable
import BodyScrub.Text.Digit
import BodyScrub.Text.Mark
import BodyScrub.Text.Numeral
import BodyScrub.Text.PointSet
import BodyScrub.Text.Printable
import BodyScrub.Text.Quoted
import BodyScrub.Text.Word
