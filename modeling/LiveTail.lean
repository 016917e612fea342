import LiveTail.Bytes.Utf8
import LiveTail.Bytes.Utf16
import LiveTail.Bytes.Base64
import LiveTail.Text.Json
import LiveTail.Text.Printable
import LiveTail.Text.Letter
import LiveTail.Text.Case
import LiveTail.Text.Quote
import LiveTail.Text.Verbs
import LiveTail.Text.Grapheme
import LiveTail.Text.Wide
import LiveTail.Number.Double
import LiveTail.Number.Shortest
import LiveTail.Text.Ansi
import LiveTail.Lines.Splitter
import LiveTail.Signal
import LiveTail.Signal.Calls
import LiveTail.Dispatch
import LiveTail.Feed
import LiveTail.Session.Basic
import LiveTail.Path.Basic
import LiveTail.Settings.Duration
import LiveTail.Settings.Basic
import LiveTail.Settings.Level
import LiveTail.Failure
import LiveTail.Volume.Basic
import LiveTail.Volume.Walk
import LiveTail.Volume.Handle
import LiveTail.Volume.Change
import LiveTail.Cursor
import LiveTail.Session.Listener
import LiveTail.Session.Run
import LiveTail.Registry
import LiveTail.Session.Thread
import LiveTail.Text.Words
import LiveTail.Text.Truth
import LiveTail.Host.Message
import LiveTail.Host.Files
import LiveTail.Host.Exec
import LiveTail.Host.Serve
import LiveTail.Event
import LiveTail.View.Cells
import LiveTail.View.Style
import LiveTail.View.Clock
import LiveTail.View.Row
import LiveTail.View.Screen
import LiveTail.Text.Integer
import LiveTail.Document.Value
import LiveTail.Document.Moment
import LiveTail.Document.Json
import LiveTail.Document.Dotenv
import LiveTail.Document.Properties
import LiveTail.Document.Ini
import LiveTail.Document.Hcl.Token
import LiveTail.Document.Hcl.Syntax
import LiveTail.Document.Hcl.Json
import LiveTail.Document.Hcl.Read
import LiveTail.Document.Toml.Syntax
import LiveTail.Document.Toml.Seen
import LiveTail.Document.Toml.Scalar
import LiveTail.Document.Toml
import LiveTail.Document.Yaml.Token
import LiveTail.Document.Yaml.Input
import LiveTail.Document.Yaml.Scanner
import LiveTail.Document.Yaml.Parser
import LiveTail.Document.Yaml.Read
import LiveTail.Settings.Layers
import LiveTail.Settings.Load
import LiveTail.Path.Pattern
import LiveTail.Volume.Glob
import LiveTail.Source.Files
import LiveTail.Cli.Flags
import LiveTail.Cli.Commands
import LiveTail.Cli.Complete
import LiveTail.Cli.Scripts
import LiveTail.Cli.Program
import LiveTail.Main
import LiveTail.Proofs.LineView
import LiveTail.Proofs.Reading
import LiveTail.Proofs.Following
import LiveTail.Proofs.Transcript
import LiveTail.Proofs.Advancing
import LiveTail.Proofs.Driving
import LiveTail.Proofs.Cancelling
import LiveTail.Proofs.Stopping
import LiveTail.Proofs.Scrolling
import LiveTail.Proofs.Protocol
import LiveTail.Proofs.Holding
import LiveTail.Proofs.Handles
import LiveTail.Proofs.Chunking
import LiveTail.Proofs.Shrinking
import LiveTail.Proofs.Sourcing
import LiveTail.Proofs.Printing
import LiveTail.Proofs.Lifecycle
import LiveTail.Proofs.Winding
import LiveTail.Proofs.Encoding
import LiveTail.Proofs.JsonLiterals
import LiveTail.Proofs.Notifying
import LiveTail.Proofs.Cleaning
import LiveTail.Proofs.Resolving
import LiveTail.Proofs.Making
import LiveTail.Proofs.Sandbox
import LiveTail.Proofs.Stripping
import LiveTail.Proofs.Waking
import LiveTail.Proofs.Scrollback
import LiveTail.Proofs.Fitting
import LiveTail.Proofs.Expanding
import LiveTail.Feed.Calls
import LiveTail.Proofs.Buffering
import LiveTail.Proofs.Closing
import LiveTail.Dispatch.Calls
import LiveTail.Proofs.Queueing
import LiveTail.Proofs.Cutting
import LiveTail.Registry.Keys
import LiveTail.Proofs.Turns
import LiveTail.Watcher
import LiveTail.Proofs.Watching
import LiveTail.Proofs.Subscribing
