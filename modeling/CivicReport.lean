import CivicReport.Address
import CivicReport.Address.Escape
import CivicReport.Address.Host
import CivicReport.Address.Letters
import CivicReport.Calendar.Date
import CivicReport.Calendar.Timestamp
import CivicReport.Command
import CivicReport.Command.Arguments
import CivicReport.Command.Usage
import CivicReport.Configuration
import CivicReport.Configuration.Document
import CivicReport.Console
import CivicReport.Console.Table
import CivicReport.Decimal.Exact
import CivicReport.Decimal.Reading
import CivicReport.Decimal.Shortest
import CivicReport.Desk
import CivicReport.Fault
import CivicReport.Intent
import CivicReport.Intent.Action
import CivicReport.Intent.Document
import CivicReport.Intent.FilterKey
import CivicReport.Intent.Filters
import CivicReport.Intent.Scalar
import CivicReport.Json
import CivicReport.Json.Numeral
import CivicReport.Json.Reading
import CivicReport.Json.Record
import CivicReport.Json.Writing
import CivicReport.Main
import CivicReport.Pattern
import CivicReport.Proofs.Calendar.Days
import CivicReport.Proofs.Calendar.Writing
import CivicReport.Proofs.Console.Alignment
import CivicReport.Proofs.Decimal.Digits
import CivicReport.Proofs.Decimal.Doubles
import CivicReport.Proofs.Decimal.Rounding
import CivicReport.Proofs.Decimal.Values
import CivicReport.Proofs.Desk.Compiling
import CivicReport.Proofs.Desk.Confirmation
import CivicReport.Proofs.Desk.Coverage
import CivicReport.Proofs.Desk.Gate
import CivicReport.Proofs.Desk.Proposals
import CivicReport.Proofs.Desk.Readings
import CivicReport.Proofs.Desk.Structured
import CivicReport.Proofs.Filters.Keys
import CivicReport.Proofs.Filters.Reading
import CivicReport.Proofs.Json.Records
import CivicReport.Proofs.Json.Texts
import CivicReport.Proofs.Pattern.Following
import CivicReport.Proofs.Pattern.Preference
import CivicReport.Proofs.Pattern.Search
import CivicReport.Proofs.Proposal.Answers
import CivicReport.Proofs.Proposal.Keys
import CivicReport.Proofs.Query.Accounting
import CivicReport.Proofs.Query.Conditions
import CivicReport.Proofs.Query.Dates
import CivicReport.Proofs.Query.Likeness
import CivicReport.Proofs.Query.Listing
import CivicReport.Proofs.Query.Names
import CivicReport.Proofs.Query.Parameters
import CivicReport.Proofs.Query.Parts
import CivicReport.Proofs.Query.Placeholders
import CivicReport.Proofs.Query.Scan
import CivicReport.Proofs.Query.Shape
import CivicReport.Proofs.Query.Subjects
import CivicReport.Proofs.Question.Alike
import CivicReport.Proofs.Question.Directions
import CivicReport.Proofs.Question.Findings
import CivicReport.Proofs.Question.Folding
import CivicReport.Proofs.Question.LastYear
import CivicReport.Proofs.Question.Negation
import CivicReport.Proofs.Question.NormalForm
import CivicReport.Proofs.Question.Numbers
import CivicReport.Proofs.Question.Punctuation
import CivicReport.Proofs.Question.Ranking
import CivicReport.Proofs.Question.Rules
import CivicReport.Proofs.Question.SoleNumber
import CivicReport.Proofs.Question.WholeNumbers
import CivicReport.Proofs.Question.Years
import CivicReport.Proofs.Registry.Acceptance
import CivicReport.Proofs.Registry.Documents
import CivicReport.Proofs.Report.Aggregates
import CivicReport.Proofs.Report.Amounts
import CivicReport.Proofs.Report.Columns
import CivicReport.Proofs.Report.Documents
import CivicReport.Proofs.Service.Discretion
import CivicReport.Proofs.Store.Alike
import CivicReport.Proofs.Store.Fetch
import CivicReport.Proofs.Store.Retries
import CivicReport.Proofs.Text.Casing
import CivicReport.Proofs.Text.Offsets
import CivicReport.Proofs.Text.Replacing
import CivicReport.Proofs.Text.Words
import CivicReport.Proofs.Vetting.Acceptance
import CivicReport.Proofs.Vetting.Agreement
import CivicReport.Proofs.Vetting.Grammar
import CivicReport.Proofs.Vetting.Order
import CivicReport.Proposal.Answer
import CivicReport.Proposal.Contract
import CivicReport.Query.Compilation
import CivicReport.Query.Layout
import CivicReport.Query.Plan
import CivicReport.Question
import CivicReport.Question.Extraction
import CivicReport.Question.Interpretation
import CivicReport.Question.Ranking
import CivicReport.Question.Shape
import CivicReport.Question.Vocabulary
import CivicReport.Registry
import CivicReport.Registry.Document
import CivicReport.Registry.Domain
import CivicReport.Registry.Municipal
import CivicReport.Registry.Overview
import CivicReport.Report
import CivicReport.Report.Amount
import CivicReport.Report.Document
import CivicReport.Service
import CivicReport.Service.Body
import CivicReport.Service.MediaType
import CivicReport.Store
import CivicReport.Text.Blank
import CivicReport.Text.Digit
import CivicReport.Text.Letter
import CivicReport.Text.Lowercase
import CivicReport.Text.Ranges
import CivicReport.Text.Search
import CivicReport.Toml
import CivicReport.Toml.Reading
import CivicReport.Vetting
