import Yan85.Enumerated
import Yan85.Ordered
import Yan85.Byte
import Yan85.Register
import Yan85.Text.Basic
import Yan85.Text.CharClass
import Yan85.Text.CaseTable
import Yan85.Text.CaseMap
import Yan85.Text.Hex
import Yan85.Text.Quoted
import Yan85.Text.Utf8
import Yan85.Text.IntegerLiteral
import Yan85.Binary64.Basic
import Yan85.Binary64.Shortest
import Yan85.Binary64.Written
import Yan85.Binary64.Literal
import Yan85.Calendar
import Yan85.Value.Basic
import Yan85.Value.Compare
import Yan85.Value.Text
import Yan85.Value.View
import Yan85.Bindings.Names
import Yan85.Bindings.Table
import Yan85.Bindings.Fault
import Yan85.Access
import Yan85.Fault
import Yan85.Instruction
import Yan85.Bindings.Basic
import Yan85.Bindings.Standard
import Yan85.Bindings.Validate
import Yan85.Bindings.Read
import Yan85.Listing
import Yan85.Codec
import Yan85.Action
import Yan85.RegisterFile
import Yan85.Memory
import Yan85.Stack
import Yan85.Host.Basic
import Yan85.Machine.Basic
import Yan85.Machine.Syscall
import Yan85.Machine.Execute
import Yan85.Machine.Step
import Yan85.Machine.Run
import Yan85.Host.Simulated
import Yan85.Host.Directory
import Yan85.Document.Fault
import Yan85.Document.Source
import Yan85.Document.Cursor
import Yan85.Document.Token.Basic
import Yan85.Document.Token.Quoted
import Yan85.Document.Token.Plain
import Yan85.Document.Token.Block
import Yan85.Document.Token.Mark
import Yan85.Document.Token.Layout
import Yan85.Document.Tag
import Yan85.Document.Node
import Yan85.Text.Base64
import Yan85.Document.Scalar
import Yan85.Document.Content
import Yan85.Document.Build
import Yan85.Document.Read
import Yan85.CommandLine.Options
import Yan85.CommandLine.Line
import Yan85.CommandLine.Session
import Yan85.Host.Replay
import Yan85.Main
import Yan85.Proofs.Bindings.Lookups
import Yan85.Proofs.Machine.Effects
import Yan85.Proofs.Machine.Steps
import Yan85.Proofs.Machine.Reference
import Yan85.Proofs.Machine.Calls
import Yan85.Proofs.Memory.Replay
import Yan85.Proofs.Codec.Decoding
import Yan85.Proofs.Codec.RoundTrip
import Yan85.Proofs.Codec.Acceptance
import Yan85.Proofs.Machine.Actions
import Yan85.Proofs.Machine.Evolution
import Yan85.Proofs.Machine.Faults
import Yan85.Proofs.Machine.Failure
import Yan85.Proofs.Machine.Safety
import Yan85.Proofs.Host.Simulated
import Yan85.Proofs.Machine.Accesses
import Yan85.Proofs.Machine.Activity
import Yan85.Proofs.Machine.Runs
import Yan85.Proofs.Machine.Services
import Yan85.Proofs.Host.Mirrors
import Yan85.Proofs.Machine.Twins
import Yan85.Proofs.Machine.Wrapping
import Yan85.Proofs.Machine.Encodings
import Yan85.Proofs.Host.Descriptors
import Yan85.Proofs.Machine.Ownership
import Yan85.Proofs.CommandLine.Arguments
import Yan85.Proofs.Machine.Observations
import Yan85.Proofs.CommandLine.Sessions
import Yan85.Proofs.Stack.Bounded
import Yan85.Proofs.Machine.Refusals
import Yan85.Proofs.Results
import Yan85.Proofs.Bindings.Validation
import Yan85.Proofs.Bindings.Loading
import Yan85.Proofs.CommandLine.Breakdowns
import Yan85.Proofs.Machine.Resuming
import Yan85.Proofs.Machine.Halting
import Yan85.Proofs.Machine.Rewriting
import Yan85.Proofs.Codec.Usability
import Yan85.Proofs.Stack.Wrapping
import Yan85.Proofs.Machine.RangeChecks
import Yan85.Proofs.Host.Streams
import Yan85.Proofs.Machine.Pieces
import Yan85.Proofs.Machine.Installing
import Yan85.Proofs.Machine.Moves
import Yan85.Proofs.Stack.Refusals
import Yan85.Proofs.Bindings.Flags
import Yan85.Proofs.Machine.Comparisons
import Yan85.Proofs.Machine.Conditions
import Yan85.Proofs.Memory.Strings
import Yan85.Proofs.Machine.Opening
import Yan85.Proofs.Bindings.Tables
import Yan85.Proofs.Bindings.Exactness
import Yan85.Proofs.Text.Numerals
import Yan85.Proofs.Text.LetterCase
import Yan85.Proofs.Bindings.Exports
import Yan85.Proofs.Bindings.Documents
import Yan85.Proofs.Memory.Ranges
import Yan85.Proofs.Listings
import Yan85.Proofs.Machine.Dispatching
import Yan85.Proofs.Machine.Traces
import Yan85.Proofs.Bindings.Equality
import Yan85.Proofs.Bindings.Integers
import Yan85.Proofs.Registers
