import SizeFlags.Text.Basic
import SizeFlags.Text.CodeRange
import SizeFlags.Text.Blank
import SizeFlags.Text.Lines
import SizeFlags.Text.Decimal
import SizeFlags.Text.DecimalDigit
import SizeFlags.Text.Printable
import SizeFlags.Text.Quoted
import SizeFlags.Text.Filled
import SizeFlags.Utf8
import SizeFlags.Table
import SizeFlags.Path
import SizeFlags.Obstacle
import SizeFlags.Width
import SizeFlags.WordSize
import SizeFlags.Operand
import SizeFlags.Fault
import SizeFlags.Shape
import SizeFlags.TypeName
import SizeFlags.Radix
import SizeFlags.Integer.Reading
import SizeFlags.Integer.Numeral
import SizeFlags.Size
import SizeFlags.World
import SizeFlags.FileTree
import SizeFlags.Flags.Piece
import SizeFlags.Flags.Entry
import SizeFlags.Flags.Registry
import SizeFlags.Flags.Config
import SizeFlags.Outcome
import SizeFlags.Flags.Report
import SizeFlags.Command
import SizeFlags.CommandLine.OptionName
import SizeFlags.CommandLine.Misuse
import SizeFlags.CommandLine.Token
import SizeFlags.CommandLine.Isolation
import SizeFlags.CommandLine.Arguments
import SizeFlags.CommandLine.Help
import SizeFlags.Program
import SizeFlags.Session
import SizeFlags.Main
import SizeFlags.Proofs.Size.Digits
import SizeFlags.Proofs.Size.Reading
import SizeFlags.Proofs.Size.Scaling
import SizeFlags.Proofs.Size.Spelling
import SizeFlags.Proofs.Size.Grammar
import SizeFlags.Proofs.Flags.Entry
import SizeFlags.Proofs.Utf8
import SizeFlags.Proofs.Flags.Expansion
import SizeFlags.Proofs.Flags.Written
import SizeFlags.Proofs.Flags.RoundTrip
import SizeFlags.Proofs.Flags.Loading
import SizeFlags.Proofs.Text.Unbroken
import SizeFlags.Proofs.Flags.Report
import SizeFlags.Proofs.Flags.WordSize
import SizeFlags.Proofs.CommandLine.Isolation
import SizeFlags.Proofs.CommandLine.OptionGroup
import SizeFlags.Proofs.CommandLine.Arrangement
import SizeFlags.Proofs.Flags.Environment
import SizeFlags.Proofs.Program.FrontEnds
import SizeFlags.Proofs.Program.Escapes
import SizeFlags.Proofs.Flags.Faults
import SizeFlags.Proofs.Program.Streams
import SizeFlags.Proofs.Size.Writing
import SizeFlags.Proofs.Session
import SizeFlags.Proofs.Flags.Concatenation
import SizeFlags.Proofs.Integer.Longest
import SizeFlags.Proofs.Flags.Segments
import SizeFlags.Proofs.CommandLine.Target
import SizeFlags.Proofs.Size.Words
import SizeFlags.Proofs.Size.Marks
import SizeFlags.Proofs.Text.ReadBack
import SizeFlags.Proofs.Flags.Unambiguous
