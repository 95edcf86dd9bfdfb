import VisualNovel.Calendar.Date
import VisualNovel.Calendar.Instant
import VisualNovel.Calendar.Parser
import VisualNovel.Calendar.Printer
import VisualNovel.Command.Arguments
import VisualNovel.Command.Basic
import VisualNovel.Command.Input
import VisualNovel.Command.Play
import VisualNovel.Command.Review
import VisualNovel.Decimal.Binary
import VisualNovel.Decimal.Layout
import VisualNovel.Decimal.Shortest
import VisualNovel.Disk.Basic
import VisualNovel.Disk.Path
import VisualNovel.Fault
import VisualNovel.Frame
import VisualNovel.History.Basic
import VisualNovel.History.Format
import VisualNovel.Json.Basic
import VisualNovel.Json.Number
import VisualNovel.Json.Parser
import VisualNovel.Json.Printer
import VisualNovel.Json.Token
import VisualNovel.Lint.Analysis
import VisualNovel.Lint.Diagnostic
import VisualNovel.Lint.Graph
import VisualNovel.Lint.Resource
import VisualNovel.Main
import VisualNovel.Music
import VisualNovel.Novel.Basic
import VisualNovel.Novel.Format
import VisualNovel.Novel.Loading
import VisualNovel.Novel.Node
import VisualNovel.Playback.Basic
import VisualNovel.Playback.Entry
import VisualNovel.Playback.Walk
import VisualNovel.Player
import VisualNovel.Prompt
import VisualNovel.Reveal
import VisualNovel.Save.Basic
import VisualNovel.Save.Folder
import VisualNovel.Save.Slots
import VisualNovel.Schema.Codec
import VisualNovel.Schema.Error
import VisualNovel.Schema.Float
import VisualNovel.Schema.Record
import VisualNovel.Session
import VisualNovel.Schema.Variant
import VisualNovel.Settings
import VisualNovel.Stage.Basic
import VisualNovel.Stage.Direction
import VisualNovel.Stage.Format
import VisualNovel.Text.Alphanumeric
import VisualNovel.Text.Blank
import VisualNovel.Text.Lines
import VisualNovel.Text.Printable
import VisualNovel.Text.Quoted
import VisualNovel.Text.Ranges
import VisualNovel.Proofs.Basic
import VisualNovel.Proofs.Disk.Path
import VisualNovel.Proofs.Disk.Changes
import VisualNovel.Proofs.Calendar.Date
import VisualNovel.Proofs.Calendar.RoundTrip
import VisualNovel.Proofs.Json.Literals
import VisualNovel.Proofs.Json.RoundTrip
import VisualNovel.Proofs.Schema.Faithful
import VisualNovel.Proofs.Schema.Records
import VisualNovel.Proofs.Novel.RoundTrip
import VisualNovel.Proofs.Playback.Calls
import VisualNovel.Proofs.Playback.Cursor
import VisualNovel.Proofs.Playback.EntryPath
import VisualNovel.Proofs.Playback.InPlace
import VisualNovel.Proofs.Playback.Log
import VisualNovel.Proofs.Playback.Past
import VisualNovel.Proofs.Playback.Refinement
import VisualNovel.Proofs.Playback.Reachable
import VisualNovel.Proofs.Playback.Replay
import VisualNovel.Proofs.Playback.Resume
import VisualNovel.Proofs.Playback.Sounds
import VisualNovel.Proofs.Player.Coherence
import VisualNovel.Proofs.Save.RoundTrip
import VisualNovel.Proofs.Lint.Cycles
import VisualNovel.Proofs.Lint.Soundness
import VisualNovel.Proofs.Lint.Unreachable
import VisualNovel.Proofs.Lint.Warnings
import VisualNovel.Proofs.Lint.Wording
import VisualNovel.Proofs.Playback.Declared
import VisualNovel.Proofs.Player.Words
import VisualNovel.Proofs.Player.Offers
import VisualNovel.Proofs.Player.Menu
import VisualNovel.Proofs.Player.Refusals
import VisualNovel.Proofs.Reveal.Growth
import VisualNovel.Proofs.History.Window
import VisualNovel.Proofs.Prompt.Grammar
import VisualNovel.Proofs.Text.Blank
import VisualNovel.Proofs.Stage.Cast
import VisualNovel.Proofs.Stage.Directions
import VisualNovel.Proofs.Music.Fades
import VisualNovel.Proofs.Playback.TwoRuns
import VisualNovel.Proofs.Playback.Restart
import VisualNovel.Proofs.Playback.Muted
import VisualNovel.Proofs.Player.Restart
import VisualNovel.Proofs.Save.Slots
import VisualNovel.Proofs.Save.Folder
import VisualNovel.Proofs.Lint.Closure
import VisualNovel.Proofs.Command.Checks
import VisualNovel.Proofs.Decimal.Rounding
import VisualNovel.Proofs.Decimal.Arithmetic
import VisualNovel.Proofs.Decimal.Interval
import VisualNovel.Proofs.Decimal.Shortest
import VisualNovel.Proofs.Decimal.Gap
import VisualNovel.Proofs.Decimal.Literal
import VisualNovel.Proofs.Schema.Float
import VisualNovel.Proofs.Disk.Files
import VisualNovel.Proofs.Settings.RoundTrip
