import Folio.Binary64
import Folio.Binary64.Shortest
import Folio.Value
import Folio.Value.Display
import Folio.Value.Lookup
import Folio.Value.Reading
import Folio.Number
import Folio.Text.Digits
import Folio.Text.Cased
import Folio.Text.Numeral
import Folio.Text.LetterCase
import Folio.Query
import Folio.Text.Quoted
import Folio.Text.Separated
import Folio.Text.WordChars
import Folio.Issue
import Folio.Checked
import Folio.SortKey
import Folio.Page
import Folio.Window
import Folio.Failure
import Folio.KeyChoice
import Folio.ColumnMap
import Folio.Hidden
import Folio.Pager
import Folio.Pager.Configuration
import Folio.Pager.Draft
import Folio.Pager.Work
import Folio.Statement
import Folio.Statement.Sql
import Folio.Settings
import Folio.Settings.Dotenv
import Folio.Settings.Sources
import Folio.Listing
import Folio.Desk
import Folio.Desk.Shown
import Folio.Desk.Source
import Folio.Desk.Work
import Folio.Session
import Folio.Endpoint
import Folio.Journal
import Folio.Journal.Entry
import Folio.Journal.Logger
import Folio.Journal.Manner
import Folio.Proofs.Window
import Folio.Proofs.Numbering
import Folio.Proofs.Round
import Folio.Proofs.Walk
import Folio.Proofs.Parameters
import Folio.Proofs.Request
import Folio.Proofs.Holding
import Folio.Proofs.Changes
import Folio.Proofs.Tasks
import Folio.Proofs.Sharing
import Folio.Proofs.Sanity
import Folio.Proofs.Construction
import Folio.Proofs.Drafting
import Folio.Proofs.Deployment
import Folio.Proofs.RoundTrip
import Folio.Proofs.Logging
import Folio.Proofs.Ordering
import Folio.Proofs.Narrowing
import Folio.Proofs.Eager
import Folio.Proofs.Rendering
import Folio.Proofs.Refusal
import Folio.Proofs.Specs
import Folio.Proofs.DefaultSpecs
import Folio.Proofs.Repetition
import Folio.Proofs.SortSetting
import Folio.Proofs.Retrying
import Folio.Proofs.Assigned
import Folio.Proofs.Accounts
import Folio.Proofs.Writable
import Folio.Proofs.Debugging
import Folio.Proofs.Reports
import Folio.Proofs.Reporting
import Folio.Proofs.Working
