import Roleplay.App.Basic
import Roleplay.App.Conversations
import Roleplay.App.Event
import Roleplay.App.Opening
import Roleplay.Card
import Roleplay.Character
import Roleplay.CommandLine.Command
import Roleplay.CommandLine.Grammar
import Roleplay.CommandLine.Run
import Roleplay.Completion
import Roleplay.Config
import Roleplay.Connector.Answer
import Roleplay.Connector.Basic
import Roleplay.Connector.Gemini
import Roleplay.Connector.OpenAI
import Roleplay.Entries
import Roleplay.Failure
import Roleplay.Files.Path
import Roleplay.Files.Tree
import Roleplay.Generation.Assembly
import Roleplay.Generation.Collaborators
import Roleplay.Generation.Narration
import Roleplay.Generation.Reply
import Roleplay.Generation.Trace
import Roleplay.Generation.Variables
import Roleplay.Generation.WorldState
import Roleplay.Json.Basic
import Roleplay.Json.Checked
import Roleplay.Json.Display
import Roleplay.Json.Lenient
import Roleplay.Json.Reader
import Roleplay.Json.Writer
import Roleplay.Logging
import Roleplay.Lore
import Roleplay.Main
import Roleplay.Message
import Roleplay.Notifier.Basic
import Roleplay.Notifier.Listener
import Roleplay.Number.Binary64
import Roleplay.Number.Numeral
import Roleplay.Number.Shortest
import Roleplay.Prompt.Builtin
import Roleplay.Prompt.Library
import Roleplay.PromptLog
import Roleplay.Proofs.App.Conversations
import Roleplay.Proofs.App.Journal
import Roleplay.Proofs.App.Opening
import Roleplay.Proofs.App.Refresh
import Roleplay.Proofs.Card
import Roleplay.Proofs.Entries
import Roleplay.Proofs.Except
import Roleplay.Proofs.Files.Directory
import Roleplay.Proofs.Files.Tree
import Roleplay.Proofs.Generation.Log
import Roleplay.Proofs.Generation.Speech
import Roleplay.Proofs.Generation.Variables
import Roleplay.Proofs.Json.Bytes
import Roleplay.Proofs.Json.Fields
import Roleplay.Proofs.Json.Grammar
import Roleplay.Proofs.Json.ReadBack
import Roleplay.Proofs.Json.Reading
import Roleplay.Proofs.Json.Sound
import Roleplay.Proofs.Json.Strings
import Roleplay.Proofs.Json.Written
import Roleplay.Proofs.Lore
import Roleplay.Proofs.Notifier.Bounds
import Roleplay.Proofs.Notifier.Delivery
import Roleplay.Proofs.Notifier.Registry
import Roleplay.Proofs.Notifier.Run
import Roleplay.Proofs.Number.Digits
import Roleplay.Proofs.Number.Literal
import Roleplay.Proofs.Number.Notation
import Roleplay.Proofs.Number.Rounding
import Roleplay.Proofs.Number.Shortest
import Roleplay.Proofs.Prompt.Library
import Roleplay.Proofs.PromptLog.Greatest
import Roleplay.Proofs.PromptLog.Pruning
import Roleplay.Proofs.Scenario.Confinement
import Roleplay.Proofs.Scenario.Directory
import Roleplay.Proofs.Scenario.Files
import Roleplay.Proofs.Scenario.Insertion
import Roleplay.Proofs.Scenario.Names
import Roleplay.Proofs.Settings.File
import Roleplay.Proofs.Settings.Reading
import Roleplay.Proofs.Settings.Stored
import Roleplay.Proofs.Store.Cast
import Roleplay.Proofs.Store.Gains
import Roleplay.Proofs.Store.Lore
import Roleplay.Proofs.Store.Personas
import Roleplay.Proofs.Store.Room
import Roleplay.Proofs.Store.StoredWorld
import Roleplay.Proofs.Store.World
import Roleplay.Proofs.Template.Evaluation
import Roleplay.Proofs.Template.Opacity
import Roleplay.Proofs.Template.Pairing
import Roleplay.Proofs.Template.Placeholders
import Roleplay.Proofs.Template.Tag
import Roleplay.Proofs.Text.Encoding
import Roleplay.Proofs.Text.Fold
import Roleplay.Proofs.Text.Formats
import Roleplay.Proofs.Text.Lines
import Roleplay.Proofs.Text.Lower
import Roleplay.Proofs.Text.Occurrence
import Roleplay.Proofs.Text.Order
import Roleplay.Proofs.Text.Rewriting
import Roleplay.Proofs.Text.Squeeze
import Roleplay.Proofs.Text.Strip
import Roleplay.Proofs.Text.Words
import Roleplay.Proofs.Transcript
import Roleplay.Proofs.World.Account
import Roleplay.Proofs.World.AttributeMap
import Roleplay.Proofs.World.Blocks
import Roleplay.Proofs.World.CurrentForm
import Roleplay.Proofs.World.Entities
import Roleplay.Proofs.World.FlatForm
import Roleplay.Proofs.World.Headers
import Roleplay.Proofs.World.Labels
import Roleplay.Proofs.World.Mentions
import Roleplay.Proofs.World.Migration
import Roleplay.Proofs.World.Recovered
import Roleplay.Proofs.World.RequestedSheet
import Roleplay.Proofs.World.Reread
import Roleplay.Proofs.World.RoundTrip
import Roleplay.Proofs.World.SheetLines
import Roleplay.Scenario.Basic
import Roleplay.Scenario.Directory
import Roleplay.Settings
import Roleplay.Settings.File
import Roleplay.Store.Basic
import Roleplay.Store.Characters
import Roleplay.Store.Conversations
import Roleplay.Store.Documents
import Roleplay.Store.File
import Roleplay.Store.LoreEntries
import Roleplay.Store.Scene
import Roleplay.Store.Table
import Roleplay.Store.Users
import Roleplay.Store.World
import Roleplay.Template.Basic
import Roleplay.Template.Conditional
import Roleplay.Template.Placeholder
import Roleplay.Text.Alphanumeric
import Roleplay.Text.Basic
import Roleplay.Text.Blank
import Roleplay.Text.Case
import Roleplay.Text.CaseTable
import Roleplay.Text.Decimal
import Roleplay.Text.Encoding
import Roleplay.Text.Fold
import Roleplay.Text.Printable
import Roleplay.Text.Quoted
import Roleplay.Text.Ranges
import Roleplay.Transcript
import Roleplay.World.Basic
import Roleplay.World.Document
import Roleplay.World.Info
import Roleplay.World.Legacy
import Roleplay.World.Recovery
import Roleplay.World.Sheet
