import Cascade.Aliases
import Cascade.Command.Arguments
import Cascade.Command.Directory
import Cascade.Command.Installed
import Cascade.Command.ModuleNames
import Cascade.Command.Path
import Cascade.Command.Run
import Cascade.Command.Target
import Cascade.Console.Argument
import Cascade.Console.Cells
import Cascade.Console.Emoji
import Cascade.Console.EmojiTable
import Cascade.Console.Markup
import Cascade.Console.Style
import Cascade.Console.Tag
import Cascade.Console.Token
import Cascade.Depth
import Cascade.Fault
import Cascade.Frame.Basic
import Cascade.Frame.Tree
import Cascade.Lowering.Call
import Cascade.Lowering.Descent
import Cascade.Lowering.Expr
import Cascade.Lowering.Iterator
import Cascade.Lowering.Operand
import Cascade.Lowering.State
import Cascade.Lowering.Statement
import Cascade.Main
import Cascade.Node.Basic
import Cascade.Node.Draft
import Cascade.Node.Json
import Cascade.Node.Wire
import Cascade.Number.Decimal
import Cascade.Number.Double
import Cascade.Number.Shortest
import Cascade.Operator.Fixity
import Cascade.Operator.Token
import Cascade.Program
import Cascade.Proofs.Aliases
import Cascade.Proofs.Frame.Binding
import Cascade.Proofs.Frame.Difference
import Cascade.Proofs.Frame.Lookup
import Cascade.Proofs.Frame.Pairs
import Cascade.Proofs.Frame.Shape
import Cascade.Proofs.Lowering.Abreast
import Cascade.Proofs.Lowering.Activation
import Cascade.Proofs.Lowering.Agreement
import Cascade.Proofs.Lowering.Allocation
import Cascade.Proofs.Lowering.Anonymous
import Cascade.Proofs.Lowering.Blame
import Cascade.Proofs.Lowering.Clearness
import Cascade.Proofs.Lowering.Completion
import Cascade.Proofs.Lowering.Coupling.Framed
import Cascade.Proofs.Lowering.DeadClosures
import Cascade.Proofs.Lowering.Depth
import Cascade.Proofs.Lowering.Derivation
import Cascade.Proofs.Lowering.Entries
import Cascade.Proofs.Lowering.Faults
import Cascade.Proofs.Lowering.Frames
import Cascade.Proofs.Lowering.Grammar
import Cascade.Proofs.Lowering.Guidance
import Cascade.Proofs.Lowering.Independence
import Cascade.Proofs.Lowering.Inlining.Basic
import Cascade.Proofs.Lowering.Inlining.Expr
import Cascade.Proofs.Lowering.Inlining.Statement
import Cascade.Proofs.Lowering.Inversion
import Cascade.Proofs.Lowering.Links
import Cascade.Proofs.Lowering.Load
import Cascade.Proofs.Lowering.Locality
import Cascade.Proofs.Lowering.Lockstep
import Cascade.Proofs.Lowering.Lookups
import Cascade.Proofs.Lowering.Matching
import Cascade.Proofs.Lowering.Need
import Cascade.Proofs.Lowering.Origins
import Cascade.Proofs.Lowering.Outline
import Cascade.Proofs.Lowering.Parallel
import Cascade.Proofs.Lowering.Reach
import Cascade.Proofs.Lowering.Rebinding
import Cascade.Proofs.Lowering.Results
import Cascade.Proofs.Lowering.Shadowing
import Cascade.Proofs.Lowering.Soundness
import Cascade.Proofs.Lowering.Soundness.Expr
import Cascade.Proofs.Lowering.Success
import Cascade.Proofs.Lowering.Support
import Cascade.Proofs.Lowering.Transparency
import Cascade.Proofs.Lowering.Twin
import Cascade.Proofs.Lowering.Uniqueness
import Cascade.Proofs.Meaning.Agreement
import Cascade.Proofs.Meaning.Derivation
import Cascade.Proofs.Meaning.Engine
import Cascade.Proofs.Meaning.Evaluation
import Cascade.Proofs.Meaning.Fragment
import Cascade.Proofs.Meaning.Preservation
import Cascade.Proofs.Node.Decoding
import Cascade.Proofs.Node.Functions
import Cascade.Proofs.Node.JsonReader
import Cascade.Proofs.Node.JsonRoundTrip
import Cascade.Proofs.Node.JsonText
import Cascade.Proofs.Node.Reading
import Cascade.Proofs.Node.WireReader
import Cascade.Proofs.Number.Numeral
import Cascade.Proofs.Settings
import Cascade.Proofs.Source.Alignment
import Cascade.Proofs.Source.Calls
import Cascade.Proofs.Source.Exposure
import Cascade.Proofs.Source.ExprScope
import Cascade.Proofs.Source.Inlining
import Cascade.Proofs.Source.Live
import Cascade.Proofs.Source.Results
import Cascade.Proofs.Source.Scoping
import Cascade.Proofs.Source.Tokens
import Cascade.Proofs.World.Provenance
import Cascade.Proofs.World.Replacement
import Cascade.Proofs.World.Submodules
import Cascade.Scalar
import Cascade.Settings
import Cascade.Source.Expr
import Cascade.Source.Level
import Cascade.Source.Operator
import Cascade.Source.Routine
import Cascade.Source.Stmt
import Cascade.Source.Text
import Cascade.Table
import Cascade.Text.Blank
import Cascade.Text.Digit
import Cascade.Text.Integer
import Cascade.Text.LowerCase
import Cascade.Text.Printable
import Cascade.Text.QuoteChoice
import Cascade.Text.Quoted
import Cascade.Text.Split
import Cascade.Text.UpperCase
import Cascade.Text.WholeNumber
import Cascade.World.Basic
import Cascade.World.Builtin
import Cascade.World.Provenance
import Cascade.World.StandardModules
import Cascade.World.Value
