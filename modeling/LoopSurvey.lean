import LoopSurvey.Text.Blank
import LoopSurvey.Text.Case
import LoopSurvey.Text.Percent
import LoopSurvey.Decimal.Shortest
import LoopSurvey.Json.Reader
import LoopSurvey.Outline.Node
import LoopSurvey.Outline.Forest
import LoopSurvey.Outline.Basic
import LoopSurvey.Outline.Tables
import LoopSurvey.Outline.LineKey
import LoopSurvey.Outline.Rows
import LoopSurvey.Outline.Expand
import LoopSurvey.Outline.TextTree
import LoopSurvey.Outline.Markup
import LoopSurvey.Record.Load
import LoopSurvey.Session.Jump
import LoopSurvey.Session.Progress
import LoopSurvey.Journal.Entry
import LoopSurvey.Journal.Reply
import LoopSurvey.Source.View
import LoopSurvey.Session.Debounce
import LoopSurvey.Sample.Demo
import LoopSurvey.Sample.Wide
import LoopSurvey.Toml.Reader
import LoopSurvey.Screen.Palette
import LoopSurvey.Web.Address
import LoopSurvey.Command.Run
import LoopSurvey.Screen.Area
import LoopSurvey.Screen.Canvas
import LoopSurvey.Screen.Wrap
import LoopSurvey.Viewer.Key
import LoopSurvey.Viewer.TreePane
import LoopSurvey.Viewer.Pane
import LoopSurvey.Viewer.Dialog
import LoopSurvey.Viewer.Basic
import LoopSurvey.Viewer.Search
import LoopSurvey.Viewer.Command
import LoopSurvey.Viewer.Press
import LoopSurvey.Viewer.Offline
import LoopSurvey.Viewer.Lines
import LoopSurvey.Viewer.Help
import LoopSurvey.Viewer.Draw
import LoopSurvey.Main
import LoopSurvey.Proofs.Outline.Mapping
import LoopSurvey.Proofs.Outline.Places
import LoopSurvey.Proofs.Outline.Growth
import LoopSurvey.Proofs.Outline.Visibility
import LoopSurvey.Proofs.Record.Loading
import LoopSurvey.Proofs.Outline.Selection
import LoopSurvey.Proofs.Outline.Alike
import LoopSurvey.Proofs.Outline.LineOrder
import LoopSurvey.Proofs.Session.Operation
import LoopSurvey.Proofs.Session.Highlight
import LoopSurvey.Sample.Pair
import LoopSurvey.Proofs.Session.Search
import LoopSurvey.Proofs.Session.Reveal
import LoopSurvey.Proofs.Session.Repeat
import LoopSurvey.Proofs.Journal.Replay
import LoopSurvey.Proofs.Viewer.Core
import LoopSurvey.Proofs.Viewer.Effect
import LoopSurvey.Proofs.Viewer.Response
import LoopSurvey.Proofs.Viewer.Work
import LoopSurvey.Proofs.Viewer.Poise
import LoopSurvey.Proofs.Viewer.Highlight
import LoopSurvey.Proofs.Viewer.Cursor
import LoopSurvey.Proofs.Viewer.Alerts
import LoopSurvey.Proofs.Viewer.Showing
import LoopSurvey.Proofs.Viewer.Typing
import LoopSurvey.Proofs.Viewer.Replay
import LoopSurvey.Proofs.Outline.Scopes
import LoopSurvey.Proofs.Source.Recovery
import LoopSurvey.Proofs.Source.Pattern
import LoopSurvey.Proofs.Session.Found
import LoopSurvey.Proofs.Viewer.Scene
import LoopSurvey.Proofs.Viewer.Rows
import LoopSurvey.Proofs.Viewer.Matches
import LoopSurvey.Proofs.Text.Percent
import LoopSurvey.Proofs.Decimal.Digits
import LoopSurvey.Proofs.Source.Query
import LoopSurvey.Proofs.Outline.Markup
import LoopSurvey.Proofs.Json.Reading
import LoopSurvey.Proofs.Journal.Form
import LoopSurvey.Proofs.Viewer.Delivery
import LoopSurvey.Proofs.Session.Moves
import LoopSurvey.Proofs.Session.Steady
import LoopSurvey.Proofs.Session.Progress
import LoopSurvey.Proofs.Record.Spelling
import LoopSurvey.Proofs.Record.KeyOrder
import LoopSurvey.Proofs.Record.Document
import LoopSurvey.Proofs.Session.InView
import LoopSurvey.Proofs.Viewer.SourceText
import LoopSurvey.Proofs.Viewer.Mode
import LoopSurvey.Proofs.Session.Targets
import LoopSurvey.Proofs.Session.Labels
import LoopSurvey.Proofs.Session.Callees
import LoopSurvey.Proofs.Viewer.Judging
import LoopSurvey.Proofs.Session.References
import LoopSurvey.Proofs.Session.Distinct
import LoopSurvey.Proofs.Json.Compact
import LoopSurvey.Proofs.Json.Typed
import LoopSurvey.Proofs.Source.Ranges
import LoopSurvey.Proofs.Record.Ranges
import LoopSurvey.Proofs.Command.Options
import LoopSurvey.Proofs.Outline.Shape
import LoopSurvey.Proofs.Outline.TextTree
import LoopSurvey.Proofs.Session.Spreading
import LoopSurvey.Proofs.Session.Editing
import LoopSurvey.Proofs.Session.Overwriting
import LoopSurvey.Proofs.Source.Marks
import LoopSurvey.Proofs.Viewer.SourceLines
import LoopSurvey.Proofs.Session.Presenting
import LoopSurvey.Proofs.Viewer.Focus
import LoopSurvey.Proofs.Record.SameLine
import LoopSurvey.Proofs.Outline.Tags
import LoopSurvey.Proofs.Outline.Pieces
import LoopSurvey.Proofs.Outline.Selectors
import LoopSurvey.Proofs.Outline.Entities
import LoopSurvey.Proofs.Outline.Sorting
import LoopSurvey.Proofs.Outline.Opening
import LoopSurvey.Proofs.Outline.Expansion
import LoopSurvey.Proofs.Session.Toggling
import LoopSurvey.Proofs.Session.Debouncing
import LoopSurvey.Proofs.Session.Share
import LoopSurvey.Proofs.Session.Stepping
import LoopSurvey.Proofs.Text.LowerCase
import LoopSurvey.Proofs.Session.Literal
import LoopSurvey.Proofs.Viewer.Scrolling
