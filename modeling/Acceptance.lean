import Acceptance.Args
import Acceptance.Config
import Acceptance.Description
import Acceptance.Feature.Basic
import Acceptance.Feature.Line
import Acceptance.Feature.Scan
import Acceptance.Feature.Source
import Acceptance.Json
import Acceptance.Keyword
import Acceptance.Log
import Acceptance.Outcome
import Acceptance.Panic
import Acceptance.Pattern.Basic
import Acceptance.Pattern.CharSet
import Acceptance.Pattern.Class
import Acceptance.Pattern.Escape
import Acceptance.Pattern.Expr
import Acceptance.Pattern.Flags
import Acceptance.Pattern.Flaw
import Acceptance.Pattern.Machine
import Acceptance.Pattern.Nest
import Acceptance.Pattern.Openings
import Acceptance.Pattern.Program
import Acceptance.Pattern.Property
import Acceptance.Pattern.Reader
import Acceptance.Pattern.Search
import Acceptance.Pattern.Shape
import Acceptance.Pattern.Size
import Acceptance.Pattern.Slots
import Acceptance.Pattern.Tree
import Acceptance.Proofs.Accounts
import Acceptance.Proofs.AttributeReading
import Acceptance.Proofs.Calls
import Acceptance.Proofs.Canonical
import Acceptance.Proofs.Chronicle
import Acceptance.Proofs.Course
import Acceptance.Proofs.Covering
import Acceptance.Proofs.Effects
import Acceptance.Proofs.Escalation
import Acceptance.Proofs.Halting
import Acceptance.Proofs.History
import Acceptance.Proofs.JsonReading
import Acceptance.Proofs.JsonText
import Acceptance.Proofs.JunitNumbers
import Acceptance.Proofs.JunitReading
import Acceptance.Proofs.Levels
import Acceptance.Proofs.Markup
import Acceptance.Proofs.Masks
import Acceptance.Proofs.Matching
import Acceptance.Proofs.Outline
import Acceptance.Proofs.Pasting
import Acceptance.Proofs.Progress
import Acceptance.Proofs.RawReading
import Acceptance.Proofs.ReportScanning
import Acceptance.Proofs.Rescanning
import Acceptance.Proofs.ScanLog
import Acceptance.Proofs.Separation
import Acceptance.Proofs.Sharing
import Acceptance.Proofs.Sources
import Acceptance.Proofs.Splitting
import Acceptance.Proofs.Steady
import Acceptance.Proofs.Strictness
import Acceptance.Proofs.StubCollection
import Acceptance.Proofs.StubLiterals
import Acceptance.Proofs.StubMatching
import Acceptance.Proofs.StubReading
import Acceptance.Proofs.StubText
import Acceptance.Proofs.TextBytes
import Acceptance.Proofs.Variation
import Acceptance.Registry.Basic
import Acceptance.Registry.Listing
import Acceptance.Report.Json
import Acceptance.Report.Junit
import Acceptance.Report.Summary
import Acceptance.Suite.Basic
import Acceptance.Suite.Record
import Acceptance.Suite.Stats
import Acceptance.Suite.Walk
import Acceptance.Text.Blank
import Acceptance.Text.Category
import Acceptance.Text.Fold
import Acceptance.Text.Letter
import Acceptance.Text.Lines
import Acceptance.Text.Number
import Acceptance.Text.Numeral
import Acceptance.Text.Quoted
import Acceptance.Text.Ranges
import Acceptance.Text.RawLiteral
import Acceptance.Text.Script
import Acceptance.Text.Trait
import Acceptance.Text.Utf8
import Acceptance.Text.Visible
import Acceptance.Text.Word
