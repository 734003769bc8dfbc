import LineMachine.Chain
import LineMachine.Cli.Command
import LineMachine.Cli.Configuration
import LineMachine.Cli.Decoding
import LineMachine.Cli.Options
import LineMachine.Cli.Texts
import LineMachine.Cli.Watch
import LineMachine.Edge.Keyboard
import LineMachine.Edge.Simulation
import LineMachine.Fault
import LineMachine.Files
import LineMachine.Host
import LineMachine.Instruction
import LineMachine.Interactive
import LineMachine.Interpreter
import LineMachine.Line
import LineMachine.Log.Logger
import LineMachine.Log.Record
import LineMachine.Machine
import LineMachine.Main
import LineMachine.Number
import LineMachine.Operation
import LineMachine.Path
import LineMachine.Position
import LineMachine.Proofs.Calls
import LineMachine.Proofs.Canonical
import LineMachine.Proofs.Capitals
import LineMachine.Proofs.Chains
import LineMachine.Proofs.Commuting
import LineMachine.Proofs.Countdown
import LineMachine.Proofs.Decimals
import LineMachine.Proofs.Dispatch
import LineMachine.Proofs.Driving
import LineMachine.Proofs.Dump
import LineMachine.Proofs.Editing
import LineMachine.Proofs.Effects
import LineMachine.Proofs.Faulting
import LineMachine.Proofs.Feeding
import LineMachine.Proofs.Filing
import LineMachine.Proofs.Forward
import LineMachine.Proofs.Glyphs
import LineMachine.Proofs.Growth
import LineMachine.Proofs.History
import LineMachine.Proofs.Independence
import LineMachine.Proofs.Interaction
import LineMachine.Proofs.Joining
import LineMachine.Proofs.Journal
import LineMachine.Proofs.Language
import LineMachine.Proofs.Lifecycle
import LineMachine.Proofs.LineEnds
import LineMachine.Proofs.Literals
import LineMachine.Proofs.Lockstep
import LineMachine.Proofs.Output
import LineMachine.Proofs.Passage
import LineMachine.Proofs.Placing
import LineMachine.Proofs.Refinement
import LineMachine.Proofs.Registry
import LineMachine.Proofs.Relocation
import LineMachine.Proofs.Renaming
import LineMachine.Proofs.Restriction
import LineMachine.Proofs.Rows
import LineMachine.Proofs.Rules
import LineMachine.Proofs.Sessions
import LineMachine.Proofs.Silence
import LineMachine.Proofs.Source
import LineMachine.Proofs.Stacks
import LineMachine.Proofs.Streams
import LineMachine.Proofs.Totals
import LineMachine.Proofs.Tracing
import LineMachine.Proofs.Turn
import LineMachine.Proofs.Twins
import LineMachine.Proofs.WellFormed
import LineMachine.Proofs.Words
import LineMachine.Proofs.Wrapping
import LineMachine.Proofs.Writing
import LineMachine.Routine
import LineMachine.Session
import LineMachine.Standard
import LineMachine.Storage
import LineMachine.Table
import LineMachine.Terminal
import LineMachine.Text.Base64
import LineMachine.Text.Basic
import LineMachine.Text.Blank
import LineMachine.Text.Case
import LineMachine.Text.Decimal
import LineMachine.Text.Glyph
import LineMachine.Text.Printable
import LineMachine.Text.Quoted
import LineMachine.Tour
import LineMachine.Value
import LineMachine.Yaml.Decoding
import LineMachine.Yaml.Implicit
import LineMachine.Yaml.Node
import LineMachine.Yaml.Node.Reader
import LineMachine.Yaml.Problem
import LineMachine.Yaml.Source
import LineMachine.Yaml.Token
import LineMachine.Yaml.Token.Cursor
import LineMachine.Yaml.Token.Scalars
import LineMachine.Yaml.Token.Stream
