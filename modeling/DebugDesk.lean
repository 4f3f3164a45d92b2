import DebugDesk.Board
import DebugDesk.Breakpoint
import DebugDesk.Command
import DebugDesk.CommandLine
import DebugDesk.Console
import DebugDesk.Desk
import DebugDesk.Desk.Loop
import DebugDesk.Event
import DebugDesk.Event.Title
import DebugDesk.Json.Basic
import DebugDesk.Json.Printer
import DebugDesk.Json.Reader
import DebugDesk.Json.Record
import DebugDesk.Json.Token
import DebugDesk.Main
import DebugDesk.Proofs.Board.History
import DebugDesk.Proofs.Board.Life
import DebugDesk.Proofs.Board.Lifecycle
import DebugDesk.Proofs.Board.Plain
import DebugDesk.Proofs.Board.Unstamped
import DebugDesk.Proofs.Command.Grammar
import DebugDesk.Proofs.Command.ReadBack
import DebugDesk.Proofs.CommandLine
import DebugDesk.Proofs.Console
import DebugDesk.Proofs.Desk.Batch
import DebugDesk.Proofs.Desk.Call
import DebugDesk.Proofs.Desk.Condition
import DebugDesk.Proofs.Desk.Delivery
import DebugDesk.Proofs.Desk.History
import DebugDesk.Proofs.Desk.Loop
import DebugDesk.Proofs.Desk.Orders
import DebugDesk.Proofs.Desk.Pause
import DebugDesk.Proofs.Desk.Reconfirmation
import DebugDesk.Proofs.Desk.Reset
import DebugDesk.Proofs.Desk.Resumed
import DebugDesk.Proofs.Desk.Separate
import DebugDesk.Proofs.Desk.Status
import DebugDesk.Proofs.Desk.Unstamped
import DebugDesk.Proofs.Event.Confirmation
import DebugDesk.Proofs.Event.Frame
import DebugDesk.Proofs.Event.Stop
import DebugDesk.Proofs.Json.Atom
import DebugDesk.Proofs.Json.Layout
import DebugDesk.Proofs.Json.Line
import DebugDesk.Proofs.Json.Print
import DebugDesk.Proofs.Json.Reading
import DebugDesk.Proofs.Json.Record
import DebugDesk.Proofs.Json.Wire
import DebugDesk.Proofs.Network
import DebugDesk.Proofs.Network.Causality
import DebugDesk.Proofs.Network.Clock
import DebugDesk.Proofs.Network.Convergence
import DebugDesk.Proofs.Network.Plain
import DebugDesk.Proofs.Network.Stamps
import DebugDesk.Proofs.Recording
import DebugDesk.Proofs.Recording.Lines
import DebugDesk.Proofs.Replay
import DebugDesk.Proofs.Replica.Live
import DebugDesk.Proofs.Replica.Merge
import DebugDesk.Proofs.Replica.Observed
import DebugDesk.Proofs.Replica.Transfer
import DebugDesk.Proofs.Replica.Word
import DebugDesk.Proofs.Session
import DebugDesk.Proofs.Session.Lifecycle
import DebugDesk.Proofs.Session.Orders
import DebugDesk.Proofs.Settings
import DebugDesk.Proofs.Store.Shelf
import DebugDesk.Proofs.Store.Usage
import DebugDesk.Proofs.Text.Decimal
import DebugDesk.Proofs.Text.Utf8
import DebugDesk.Recording
import DebugDesk.Replay
import DebugDesk.Replica
import DebugDesk.Replica.Snapshot
import DebugDesk.Request
import DebugDesk.Sample
import DebugDesk.Settings
import DebugDesk.Settings.File
import DebugDesk.Status
import DebugDesk.Store
import DebugDesk.Table
import DebugDesk.Text.Blank
import DebugDesk.Text.Decimal
import DebugDesk.Text.Double
import DebugDesk.Text.Quoted
import DebugDesk.Text.Split
import DebugDesk.Toml.Basic
import DebugDesk.Toml.Moment
import DebugDesk.Toml.Reader
import DebugDesk.Toml.Scalar
import DebugDesk.Transport
