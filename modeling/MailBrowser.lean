import MailBrowser.Archive.Basic
import MailBrowser.Archive.Demo
import MailBrowser.Archive.Find
import MailBrowser.Archive.Grouping
import MailBrowser.Archive.Keys
import MailBrowser.Archive.Opening
import MailBrowser.Archive.Questions
import MailBrowser.Browser.Arrivals
import MailBrowser.Browser.Basic
import MailBrowser.Browser.Crumb
import MailBrowser.Browser.Cursor
import MailBrowser.Browser.Desk
import MailBrowser.Browser.Dialog
import MailBrowser.Browser.DiskUse
import MailBrowser.Browser.Effect
import MailBrowser.Browser.Key
import MailBrowser.Browser.Keymap
import MailBrowser.Browser.Ledger
import MailBrowser.Browser.Loads
import MailBrowser.Browser.Marking
import MailBrowser.Browser.Navigation
import MailBrowser.Browser.SearchLine
import MailBrowser.Browser.SearchSession
import MailBrowser.Browser.Session
import MailBrowser.Browser.Timers
import MailBrowser.Browser.Update
import MailBrowser.Browser.View
import MailBrowser.Browser.Window
import MailBrowser.Calendar.Date
import MailBrowser.Calendar.Instant
import MailBrowser.Calendar.Reading
import MailBrowser.Calendar.Written
import MailBrowser.CommandLine
import MailBrowser.Deletion.Manifest
import MailBrowser.Deletion.Shelf
import MailBrowser.Deletion.Staging
import MailBrowser.Drill.Filter
import MailBrowser.Drill.Selection
import MailBrowser.Engine.Interface
import MailBrowser.Export.Copy
import MailBrowser.Export.Names
import MailBrowser.Figure
import MailBrowser.Files.Path
import MailBrowser.Files.Store
import MailBrowser.Forest
import MailBrowser.Group.Dimension
import MailBrowser.Group.Order
import MailBrowser.Group.Row
import MailBrowser.Json.Decode
import MailBrowser.Json.Encode
import MailBrowser.Json.Lexer
import MailBrowser.Json.Printer
import MailBrowser.Json.Reader
import MailBrowser.Json.Value
import MailBrowser.Mail.Address
import MailBrowser.Mail.Conversation
import MailBrowser.Mail.Message
import MailBrowser.Mail.Stored
import MailBrowser.Main
import MailBrowser.OrdSet
import MailBrowser.Proofs.Archive.Filters
import MailBrowser.Proofs.Archive.Grouping
import MailBrowser.Proofs.Archive.Listing
import MailBrowser.Proofs.Archive.Lookups
import MailBrowser.Proofs.Archive.Tally
import MailBrowser.Proofs.Browser.Checked
import MailBrowser.Proofs.Browser.Ending
import MailBrowser.Proofs.Browser.KeyStep
import MailBrowser.Proofs.Browser.Notices
import MailBrowser.Proofs.Browser.Orderly
import MailBrowser.Proofs.Browser.Quiet
import MailBrowser.Proofs.Browser.Run
import MailBrowser.Proofs.Browser.Scene
import MailBrowser.Proofs.Browser.Standing
import MailBrowser.Proofs.Browser.Tuning
import MailBrowser.Proofs.Browser.Way
import MailBrowser.Proofs.Browser.Ways
import MailBrowser.Proofs.Browser.Work
import MailBrowser.Proofs.Calendar.Days
import MailBrowser.Proofs.Calendar.Periods
import MailBrowser.Proofs.Calendar.Reading
import MailBrowser.Proofs.Deletion.Accounts
import MailBrowser.Proofs.Deletion.BatchNames
import MailBrowser.Proofs.Deletion.Confirmation
import MailBrowser.Proofs.Deletion.FileForm
import MailBrowser.Proofs.Deletion.Marking
import MailBrowser.Proofs.Deletion.Marks
import MailBrowser.Proofs.Deletion.Messages
import MailBrowser.Proofs.Deletion.Picking
import MailBrowser.Proofs.Deletion.Resolving
import MailBrowser.Proofs.Deletion.Saving
import MailBrowser.Proofs.Deletion.Shelf
import MailBrowser.Proofs.Deletion.Staged
import MailBrowser.Proofs.Drill.Accumulation
import MailBrowser.Proofs.Drill.Constraints
import MailBrowser.Proofs.Drill.Narrowing
import MailBrowser.Proofs.Drill.Origins
import MailBrowser.Proofs.Drill.Sizes
import MailBrowser.Proofs.Export.Copies
import MailBrowser.Proofs.Export.Directory
import MailBrowser.Proofs.Export.Names
import MailBrowser.Proofs.Export.Sources
import MailBrowser.Proofs.Files.Endings
import MailBrowser.Proofs.Files.Operations
import MailBrowser.Proofs.Files.Places
import MailBrowser.Proofs.Files.Within
import MailBrowser.Proofs.Group.Figures
import MailBrowser.Proofs.Group.Sorting
import MailBrowser.Proofs.Json.Reading
import MailBrowser.Proofs.Json.Tokens
import MailBrowser.Proofs.Mail.Addresses
import MailBrowser.Proofs.Mail.Components
import MailBrowser.Proofs.Mail.FileOrder
import MailBrowser.Proofs.Navigation.Bounds
import MailBrowser.Proofs.Navigation.Excursion
import MailBrowser.Proofs.Navigation.Home
import MailBrowser.Proofs.Navigation.Outlook
import MailBrowser.Proofs.Navigation.Panes
import MailBrowser.Proofs.Navigation.Return
import MailBrowser.Proofs.Navigation.Shape
import MailBrowser.Proofs.Navigation.Sight
import MailBrowser.Proofs.Navigation.Stack
import MailBrowser.Proofs.Navigation.Windows
import MailBrowser.Proofs.Reading.Finding
import MailBrowser.Proofs.Reading.Scrolling
import MailBrowser.Proofs.Reading.Steps
import MailBrowser.Proofs.Requests.AtRest
import MailBrowser.Proofs.Requests.Awaited
import MailBrowser.Proofs.Requests.Bench
import MailBrowser.Proofs.Requests.Failures
import MailBrowser.Proofs.Requests.Fits
import MailBrowser.Proofs.Requests.Laws
import MailBrowser.Proofs.Requests.Numbering
import MailBrowser.Proofs.Requests.Owed
import MailBrowser.Proofs.Requests.Scope
import MailBrowser.Proofs.Requests.Since
import MailBrowser.Proofs.Requests.Sources
import MailBrowser.Proofs.Requests.Stale
import MailBrowser.Proofs.Requests.Stance
import MailBrowser.Proofs.Requests.Threads
import MailBrowser.Proofs.Requests.Totals
import MailBrowser.Proofs.Search.Cancelling
import MailBrowser.Proofs.Search.Course
import MailBrowser.Proofs.Search.Keystrokes
import MailBrowser.Proofs.Search.Leaving
import MailBrowser.Proofs.Search.Moves
import MailBrowser.Proofs.Search.Paging
import MailBrowser.Proofs.Search.Queries
import MailBrowser.Proofs.Search.Ticks
import MailBrowser.Proofs.SearchBox.Joining
import MailBrowser.Proofs.SearchBox.Lexing
import MailBrowser.Proofs.SearchBox.Writing
import MailBrowser.Proofs.Text.LowerCase
import MailBrowser.Proofs.Text.Numerals
import MailBrowser.Proofs.Text.Trimming
import MailBrowser.Screen.Area
import MailBrowser.Screen.Bars
import MailBrowser.Screen.Border
import MailBrowser.Screen.Canvas
import MailBrowser.Screen.Dialogs
import MailBrowser.Screen.Lists
import MailBrowser.Screen.Picture
import MailBrowser.Screen.Reading
import MailBrowser.Screen.Style
import MailBrowser.Screen.Table
import MailBrowser.SearchBox.Lexeme
import MailBrowser.SearchBox.SearchQuery
import MailBrowser.Settings.Config
import MailBrowser.Terminal.Keystrokes
import MailBrowser.Terminal.Painting
import MailBrowser.Text.Blank
import MailBrowser.Text.ByteSize
import MailBrowser.Text.Case
import MailBrowser.Text.CaseTable
import MailBrowser.Text.Cluster
import MailBrowser.Text.ClusterTable
import MailBrowser.Text.Numeral
import MailBrowser.Text.Quoted
import MailBrowser.Text.ShapelessTable
import MailBrowser.Text.Width
import MailBrowser.Text.WidthTable
import MailBrowser.Toml.Document
import MailBrowser.Toml.Reader
import MailBrowser.Toml.Scalar
import MailBrowser.Toml.Strings
