import SingleFlight.Catalog
import SingleFlight.Command.Arguments
import SingleFlight.Command.Machine
import SingleFlight.Command.Options
import SingleFlight.Command.Run
import SingleFlight.Config.Format
import SingleFlight.Config.Load
import SingleFlight.Config.Problem
import SingleFlight.Config.Settings
import SingleFlight.Dictionary
import SingleFlight.Fault
import SingleFlight.Files.Effect
import SingleFlight.Files.Failure
import SingleFlight.Files.Layout
import SingleFlight.Files.Tree
import SingleFlight.Flight.Desk
import SingleFlight.Flight.Execution
import SingleFlight.Flight.Opening
import SingleFlight.Flight.Outcome
import SingleFlight.Gateway.Client
import SingleFlight.Gateway.Decoding
import SingleFlight.Gateway.Exchange
import SingleFlight.Gateway.Health
import SingleFlight.Gateway.Response
import SingleFlight.Gateway.Script
import SingleFlight.Gateway.Timeout
import SingleFlight.Gateway.Verdict
import SingleFlight.Json.Printer
import SingleFlight.Json.Quoted
import SingleFlight.Json.Reader
import SingleFlight.Json.Shape
import SingleFlight.Json.Token
import SingleFlight.Json.Value
import SingleFlight.Ledger.Database
import SingleFlight.Ledger.FileStore
import SingleFlight.Ledger.Migration
import SingleFlight.Ledger.SqlFailure
import SingleFlight.Ledger.SqlStore
import SingleFlight.Ledger.Store
import SingleFlight.Lock.Policy
import SingleFlight.Lock.Table
import SingleFlight.Main
import SingleFlight.Path
import SingleFlight.Proofs.Absence
import SingleFlight.Proofs.Accounts
import SingleFlight.Proofs.AddressText
import SingleFlight.Proofs.Admission
import SingleFlight.Proofs.Agreement
import SingleFlight.Proofs.Allowances
import SingleFlight.Proofs.ArtifactChoice
import SingleFlight.Proofs.AsciiText
import SingleFlight.Proofs.Calls
import SingleFlight.Proofs.Chronology
import SingleFlight.Proofs.Configuration
import SingleFlight.Proofs.Confinement
import SingleFlight.Proofs.CrashSafety
import SingleFlight.Proofs.DatabaseFiles
import SingleFlight.Proofs.DateOrder
import SingleFlight.Proofs.Days
import SingleFlight.Proofs.Defaults
import SingleFlight.Proofs.Directories
import SingleFlight.Proofs.DirectoryLog
import SingleFlight.Proofs.DomainText
import SingleFlight.Proofs.Enumeration
import SingleFlight.Proofs.Exclusion
import SingleFlight.Proofs.Filing
import SingleFlight.Proofs.FormText
import SingleFlight.Proofs.HostText
import SingleFlight.Proofs.Interruption
import SingleFlight.Proofs.Joining
import SingleFlight.Proofs.JsonText
import SingleFlight.Proofs.Landing
import SingleFlight.Proofs.LastNames
import SingleFlight.Proofs.Listings
import SingleFlight.Proofs.LiveSessions
import SingleFlight.Proofs.LockHistory
import SingleFlight.Proofs.Minting
import SingleFlight.Proofs.Moves
import SingleFlight.Proofs.Outage
import SingleFlight.Proofs.OutputTail
import SingleFlight.Proofs.PercentText
import SingleFlight.Proofs.Permanence
import SingleFlight.Proofs.Precedence
import SingleFlight.Proofs.Presentation
import SingleFlight.Proofs.Probes
import SingleFlight.Proofs.Readings
import SingleFlight.Proofs.RecordFile
import SingleFlight.Proofs.RecordText
import SingleFlight.Proofs.Release
import SingleFlight.Proofs.ReportText
import SingleFlight.Proofs.Reports
import SingleFlight.Proofs.Rfc3339Text
import SingleFlight.Proofs.Rows
import SingleFlight.Proofs.RunLog
import SingleFlight.Proofs.Safekeeping
import SingleFlight.Proofs.Schema
import SingleFlight.Proofs.SettingsText
import SingleFlight.Proofs.SnapshotFile
import SingleFlight.Proofs.Spelling
import SingleFlight.Proofs.Staging
import SingleFlight.Proofs.StampOrder
import SingleFlight.Proofs.StreamWindow
import SingleFlight.Proofs.TableLog
import SingleFlight.Proofs.TableReadings
import SingleFlight.Proofs.UnreadRows
import SingleFlight.Proofs.Utf8Text
import SingleFlight.Proofs.Verdicts
import SingleFlight.Proofs.VersionHistory
import SingleFlight.Proofs.ViewerText
import SingleFlight.Proofs.Waiting
import SingleFlight.Proofs.Walking
import SingleFlight.Proofs.Waypoints
import SingleFlight.Run.Filter
import SingleFlight.Run.Id
import SingleFlight.Run.Record
import SingleFlight.Run.Status
import SingleFlight.Status.Artifacts
import SingleFlight.Status.Extraction
import SingleFlight.Status.Family
import SingleFlight.Status.Findings
import SingleFlight.Status.Report
import SingleFlight.Status.Resolve
import SingleFlight.Status.Session
import SingleFlight.Status.Snapshot
import SingleFlight.Text.Ascii
import SingleFlight.Text.Base64
import SingleFlight.Text.Blank
import SingleFlight.Text.Decimal
import SingleFlight.Text.Lines
import SingleFlight.Text.OsText
import SingleFlight.Text.Replace
import SingleFlight.Text.Utf8
import SingleFlight.Time.Calendar
import SingleFlight.Time.Rfc3339
import SingleFlight.Time.Timestamp
import SingleFlight.Unicode.Direction
import SingleFlight.Unicode.Joining
import SingleFlight.Unicode.Mapping
import SingleFlight.Unicode.Marks
import SingleFlight.Unicode.Normal
import SingleFlight.Unicode.Spans
import SingleFlight.Web.Address
import SingleFlight.Web.Domain
import SingleFlight.Web.Form
import SingleFlight.Web.Host
import SingleFlight.Web.Percent
import SingleFlight.Web.Punycode
import SingleFlight.Web.Viewer
