import Colloquy.Command.Arguments
import Colloquy.Command.Chat
import Colloquy.Command.Run
import Colloquy.Command.Source
import Colloquy.Cursor
import Colloquy.Dialogue.Composer
import Colloquy.Dialogue.Conversation
import Colloquy.Dialogue.Menu
import Colloquy.Dialogue.Message
import Colloquy.Dialogue.Picker
import Colloquy.Dialogue.Reply
import Colloquy.Dialogue.Service
import Colloquy.Dialogue.Submission
import Colloquy.Dialogue.World
import Colloquy.Dialogue.Written
import Colloquy.Dict
import Colloquy.Disk.Basic
import Colloquy.Disk.Fault
import Colloquy.Disk.Node
import Colloquy.Disk.Path
import Colloquy.Json.Any
import Colloquy.Json.Fault
import Colloquy.Json.Number
import Colloquy.Json.Reader
import Colloquy.Json.Record
import Colloquy.Json.Scan
import Colloquy.Json.Value
import Colloquy.Main
import Colloquy.Markup.Cursor
import Colloquy.Markup.Document
import Colloquy.Markup.Element
import Colloquy.Markup.Fault
import Colloquy.Markup.Reference
import Colloquy.Markup.Tag
import Colloquy.Pattern.Brackets
import Colloquy.Pattern.Escape
import Colloquy.Pattern.Expr
import Colloquy.Pattern.Fault
import Colloquy.Pattern.Groups
import Colloquy.Pattern.Matching
import Colloquy.Pattern.Property
import Colloquy.Pattern.Term
import Colloquy.Proofs.Dialogue.Alike
import Colloquy.Proofs.Dialogue.Consistency
import Colloquy.Proofs.Dialogue.Interleaving
import Colloquy.Proofs.Dialogue.Passage
import Colloquy.Proofs.Dialogue.Reading
import Colloquy.Proofs.Dialogue.Reopening
import Colloquy.Proofs.Dialogue.Run
import Colloquy.Proofs.Dialogue.Standing
import Colloquy.Proofs.Dialogue.Steps
import Colloquy.Proofs.Dialogue.Submitted
import Colloquy.Proofs.Dialogue.Turn
import Colloquy.Proofs.Dict
import Colloquy.Proofs.Disk.Saved
import Colloquy.Proofs.Json.Characters
import Colloquy.Proofs.Json.ReadBack
import Colloquy.Proofs.Routing.Payload
import Colloquy.Proofs.Script.Compiled
import Colloquy.Proofs.Script.Places
import Colloquy.Proofs.Session.Healthy
import Colloquy.Proofs.Session.Keys
import Colloquy.Proofs.Session.Saved
import Colloquy.Proofs.Text.Utf8
import Colloquy.Proofs.Url.Form
import Colloquy.Report
import Colloquy.Routing.Target
import Colloquy.Routing.Token
import Colloquy.Routing.Written
import Colloquy.Script.Basic
import Colloquy.Script.Compile
import Colloquy.Script.Condition
import Colloquy.Script.Written
import Colloquy.Session.Keys
import Colloquy.Session.Snapshot
import Colloquy.Session.Store
import Colloquy.Span
import Colloquy.Span.Written
import Colloquy.Text.Age
import Colloquy.Text.Blank
import Colloquy.Text.Break.Grapheme
import Colloquy.Text.Break.Sentence
import Colloquy.Text.Break.Word
import Colloquy.Text.CaseFold
import Colloquy.Text.Category
import Colloquy.Text.CodeSet
import Colloquy.Text.Composition
import Colloquy.Text.Direction
import Colloquy.Text.Joining
import Colloquy.Text.Lowercase
import Colloquy.Text.Numeral
import Colloquy.Text.Pieces
import Colloquy.Text.Property
import Colloquy.Text.Property.Current
import Colloquy.Text.Property.Named
import Colloquy.Text.Script
import Colloquy.Text.Utf8
import Colloquy.Text.Visible
import Colloquy.Text.Word
import Colloquy.Url.Basic
import Colloquy.Url.Form
import Colloquy.Url.Host
import Colloquy.Url.International
import Colloquy.Url.Percent
import Colloquy.Url.Punycode
import Colloquy.Proofs.Dialogue.Dispatch
import Colloquy.Proofs.Dialogue.Picking
import Colloquy.Proofs.Dialogue.Rounds
import Colloquy.Proofs.Session.WriteThrough
import Colloquy.Proofs.Dialogue.Endurance
import Colloquy.Proofs.Dialogue.Admission
import Colloquy.Proofs.Dialogue.Agreement
import Colloquy.Proofs.Dialogue.Retry
import Colloquy.Proofs.Dialogue.Recovery
import Colloquy.Proofs.Script.WellFormed
import Colloquy.Proofs.Dialogue.Fallback
import Colloquy.Proofs.Dialogue.Presenting
import Colloquy.Proofs.Dialogue.Succession
import Colloquy.Proofs.Json.Numerals
import Colloquy.Proofs.Json.Compact
import Colloquy.Proofs.Dialogue.Protocol
import Colloquy.Proofs.Routing.Canonical
import Colloquy.Proofs.Routing.Survival
import Colloquy.Proofs.Dialogue.Buttons
import Colloquy.Proofs.Text.Word
import Colloquy.Proofs.Script.Clause
import Colloquy.Proofs.Dialogue.Replying
import Colloquy.Proofs.Script.Refusal
import Colloquy.Proofs.Dialogue.Addresses
import Colloquy.Proofs.Text.Numeral
import Colloquy.Proofs.Script.Ordering
import Colloquy.Proofs.Dialogue.Draws
import Colloquy.Proofs.Dialogue.Scope
import Colloquy.Proofs.Markup.Source
import Colloquy.Proofs.Markup.Passing
import Colloquy.Proofs.Markup.Content
import Colloquy.Proofs.Dialogue.Fairness
import Colloquy.Proofs.Dialogue.Filling
import Colloquy.Proofs.Text.Truncation
import Colloquy.Proofs.Dialogue.Arrival
import Colloquy.Proofs.Command.Numbering
import Colloquy.Proofs.Dialogue.Selection
import Colloquy.Proofs.Script.Lookup
import Colloquy.Proofs.Disk.Path
import Colloquy.Proofs.Command.Inspection
