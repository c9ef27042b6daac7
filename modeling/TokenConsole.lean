import TokenConsole.Accounts
import TokenConsole.Calendar.Moment
import TokenConsole.Calendar.Rfc3339
import TokenConsole.CommandLine
import TokenConsole.Config
import TokenConsole.Console
import TokenConsole.DataDir
import TokenConsole.Dialog
import TokenConsole.Dictionary
import TokenConsole.Duration
import TokenConsole.Effect
import TokenConsole.FileTree
import TokenConsole.Form
import TokenConsole.Gateway.Amounts
import TokenConsole.Gateway.Answer
import TokenConsole.Gateway.Call
import TokenConsole.Gateway.Cookie
import TokenConsole.Gateway.Error
import TokenConsole.Gateway.Exchange
import TokenConsole.Gateway.Listing
import TokenConsole.Gateway.Mapping
import TokenConsole.Gateway.Session
import TokenConsole.Gateway.Status
import TokenConsole.Grid
import TokenConsole.Json.Numeral
import TokenConsole.Json.Pretty
import TokenConsole.Json.Raw
import TokenConsole.Json.Value
import TokenConsole.Log
import TokenConsole.Main
import TokenConsole.Number.Binary64
import TokenConsole.Number.Radix
import TokenConsole.Number.Reading
import TokenConsole.Number.Shortest
import TokenConsole.Number.Whole
import TokenConsole.Page.Admin
import TokenConsole.Page.Login
import TokenConsole.Password
import TokenConsole.Proofs.Console.Continuation
import TokenConsole.Proofs.Console.LateReport
import TokenConsole.Proofs.Console.Logout
import TokenConsole.Proofs.Console.SignIn
import TokenConsole.Proofs.Console.Work
import TokenConsole.Proofs.Dialog.Submission
import TokenConsole.Proofs.Flow
import TokenConsole.Proofs.Grid.Paging
import TokenConsole.Proofs.Grid.Work
import TokenConsole.Proofs.Machine.Basic
import TokenConsole.Proofs.Machine.Calls
import TokenConsole.Proofs.Machine.Progress
import TokenConsole.Proofs.Machine.Steps
import TokenConsole.Proofs.Machine.Tasks
import TokenConsole.Proofs.Page.Admin
import TokenConsole.Proofs.Page.InFlight
import TokenConsole.Proofs.Page.Login
import TokenConsole.Proofs.Page.Report
import TokenConsole.Screen.Color
import TokenConsole.Screen.Drawing
import TokenConsole.Screen.Node
import TokenConsole.Screen.Style
import TokenConsole.Screen.View
import TokenConsole.Startup
import TokenConsole.Text.Base64
import TokenConsole.Text.Blank
import TokenConsole.Text.CaseTable
import TokenConsole.Text.Cluster
import TokenConsole.Text.ClusterTable
import TokenConsole.Text.CodeMap
import TokenConsole.Text.CodeRange
import TokenConsole.Text.CombiningTable
import TokenConsole.Text.DecompositionTable
import TokenConsole.Text.DirectionTable
import TokenConsole.Text.Ellipsis
import TokenConsole.Text.Ignorable
import TokenConsole.Text.Lines
import TokenConsole.Text.LowerCase
import TokenConsole.Text.Normal
import TokenConsole.Text.Quoted
import TokenConsole.Text.QuotedTable
import TokenConsole.Text.Split
import TokenConsole.Text.Utf8
import TokenConsole.Toast
import TokenConsole.Tokens
import TokenConsole.Toml.Document
import TokenConsole.Toml.Scalar
import TokenConsole.Toml.Table
import TokenConsole.Toml.Text
import TokenConsole.Url.Address
import TokenConsole.Url.Basic
import TokenConsole.Url.Direction
import TokenConsole.Url.Domain
import TokenConsole.Url.DomainFormTable
import TokenConsole.Url.DomainTable
import TokenConsole.Url.Host
import TokenConsole.Url.Joiner
import TokenConsole.Url.LabelTable
import TokenConsole.Url.Path
import TokenConsole.Url.Percent
import TokenConsole.Url.Punycode
import TokenConsole.Proofs.Grid.History
import TokenConsole.Proofs.Page.Rows
import TokenConsole.Proofs.Form.Values
import TokenConsole.Proofs.Tokens.Lifetime
import TokenConsole.Proofs.Dialog.Entry
import TokenConsole.Proofs.Tokens.Draft
import TokenConsole.Proofs.Tokens.Request
import TokenConsole.Proofs.Machine.Trail
import TokenConsole.Proofs.Accounts.Flows
import TokenConsole.Proofs.Page.Calls
import TokenConsole.Proofs.Console.Calls
import TokenConsole.Proofs.Screen.Parts
import TokenConsole.Proofs.Grid.Pages
import TokenConsole.Proofs.Grid.View
import TokenConsole.Proofs.Console.Shown
import TokenConsole.Proofs.Dialog.View
import TokenConsole.Proofs.Page.Controls
import TokenConsole.Proofs.Page.Exclusive
import TokenConsole.Proofs.Except
import TokenConsole.Proofs.Text.Blank
import TokenConsole.Proofs.Text.Utf8
import TokenConsole.Proofs.Text.Base64
import TokenConsole.Proofs.Number.Decimal
import TokenConsole.Proofs.Gateway.Amounts
import TokenConsole.Proofs.Gateway.Record
import TokenConsole.Proofs.Gateway.Listing
import TokenConsole.Proofs.Gateway.Encodings
import TokenConsole.Proofs.Gateway.Reply
import TokenConsole.Proofs.Gateway.Plaintext
import TokenConsole.Proofs.Screen.Reach
import TokenConsole.Proofs.Duration
import TokenConsole.Proofs.Form.Visibility
import TokenConsole.Proofs.Gateway.Unauthorized
import TokenConsole.Proofs.Number.Rounding
import TokenConsole.Proofs.Gateway.SecondsText
import TokenConsole.Proofs.Text.Split
import TokenConsole.Proofs.Url.Path
import TokenConsole.Proofs.Url.Suffix
import TokenConsole.Proofs.Url.Literal
import TokenConsole.Proofs.Gateway.Deletion
import TokenConsole.Proofs.Form.Ring
import TokenConsole.Proofs.Form.Reveal
import TokenConsole.Proofs.Dialog.Reopening
import TokenConsole.Proofs.Dialog.Gate
import TokenConsole.Proofs.Dialog.Tab
import TokenConsole.Proofs.Dialog.Focus
import TokenConsole.Proofs.Toasts
import TokenConsole.Proofs.Grid.Deletions
import TokenConsole.Proofs.Dialog.Notice
import TokenConsole.Proofs.Text.LowerCase
import TokenConsole.Proofs.Grid.Filter
import TokenConsole.Proofs.Calendar.Moment
import TokenConsole.Proofs.CommandLine
import TokenConsole.Proofs.Config
import TokenConsole.Proofs.Json.Lexical
import TokenConsole.Proofs.Json.Grammar
import TokenConsole.Proofs.Gateway.FailureText
import TokenConsole.Proofs.Password
import TokenConsole.Proofs.Accounts.Registration
