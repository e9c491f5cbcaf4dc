import Almanac.Ascending
import Almanac.Calendar.Date
import Almanac.Calendar.DateText
import Almanac.Calendar.Step
import Almanac.Calendar.Weekday
import Almanac.Command.Arguments
import Almanac.Command.Report
import Almanac.Command.Run
import Almanac.Command.Templates
import Almanac.Config.Expansion
import Almanac.Config.Load
import Almanac.Config.Location
import Almanac.Config.Settings
import Almanac.Decimal.Binary
import Almanac.Decimal.Shortest
import Almanac.Environment
import Almanac.FileSystem
import Almanac.Holiday.Basic
import Almanac.Holiday.Json
import Almanac.Json
import Almanac.Log.Event
import Almanac.Log.Filter
import Almanac.Log.Setup
import Almanac.Log.Severity
import Almanac.Main
import Almanac.OffDuty.Hours
import Almanac.Proofs.Calendar.Clipping
import Almanac.Proofs.Calendar.DateText
import Almanac.Proofs.Calendar.Day
import Almanac.Proofs.Calendar.Order
import Almanac.Proofs.Calendar.WeekdayName
import Almanac.Proofs.Command.Agreement
import Almanac.Proofs.Command.Anchor
import Almanac.Proofs.Command.Arguments
import Almanac.Proofs.Command.Json
import Almanac.Proofs.Command.Lines
import Almanac.Proofs.Command.Listing
import Almanac.Proofs.Command.LogFile
import Almanac.Proofs.Command.Resolving
import Almanac.Proofs.Config.Checks
import Almanac.Proofs.Config.Displayed
import Almanac.Proofs.Config.Document
import Almanac.Proofs.Config.FirstError
import Almanac.Proofs.Config.Listed
import Almanac.Proofs.Config.Loaded
import Almanac.Proofs.Config.Meaning
import Almanac.Proofs.Config.Omitted
import Almanac.Proofs.Config.Settings
import Almanac.Proofs.Config.Templates
import Almanac.Proofs.Config.Unknown
import Almanac.Proofs.Config.Written
import Almanac.Proofs.Holiday.Resolution
import Almanac.Proofs.Holiday.Views
import Almanac.Proofs.Json
import Almanac.Proofs.Json.Grammar
import Almanac.Proofs.Json.Unambiguous
import Almanac.Proofs.Json.Written
import Almanac.Proofs.Log.Heard
import Almanac.Proofs.Log.Level
import Almanac.Proofs.OffDuty.Notation
import Almanac.Proofs.OffDuty.Order
import Almanac.Proofs.Table
import Almanac.Proofs.Template.Anchor
import Almanac.Proofs.Template.Attribution
import Almanac.Proofs.Template.Brackets
import Almanac.Proofs.Template.Capitals
import Almanac.Proofs.Template.Clipping
import Almanac.Proofs.Template.Composition
import Almanac.Proofs.Template.DateText
import Almanac.Proofs.Template.DayOffset
import Almanac.Proofs.Template.Endings
import Almanac.Proofs.Template.FieldOutcome
import Almanac.Proofs.Template.FieldText
import Almanac.Proofs.Template.Influence
import Almanac.Proofs.Template.Joined
import Almanac.Proofs.Template.Language
import Almanac.Proofs.Template.LetterCase
import Almanac.Proofs.Template.LiteralOutcome
import Almanac.Proofs.Template.Literals
import Almanac.Proofs.Template.Monotone
import Almanac.Proofs.Template.Quoting
import Almanac.Proofs.Template.RangeMessage
import Almanac.Proofs.Template.Regions
import Almanac.Proofs.Template.Steps
import Almanac.Proofs.Text.Ascii
import Almanac.Proofs.Text.LowerCase
import Almanac.Proofs.Text.Numeral
import Almanac.Proofs.Text.Trim
import Almanac.Proofs.Toml.Writing
import Almanac.Success
import Almanac.Table
import Almanac.Template.Compose
import Almanac.Template.Entry
import Almanac.Template.Fault
import Almanac.Template.Field
import Almanac.Template.Piece
import Almanac.Template.Resolve
import Almanac.Template.Step
import Almanac.Text.Blank
import Almanac.Text.CaseRun
import Almanac.Text.Digits
import Almanac.Text.LowerCase
import Almanac.Text.Quoted
import Almanac.Text.UpperCase
import Almanac.Text.Word
import Almanac.Toml.Blank
import Almanac.Toml.Document
import Almanac.Toml.Moment
import Almanac.Toml.Number
import Almanac.Toml.Quoted
import Almanac.Toml.Statement
import Almanac.Toml.Structure
import Almanac.Toml.Value
import Almanac.Traced
