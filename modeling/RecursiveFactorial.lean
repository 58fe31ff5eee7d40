import RecursiveFactorial.Text.Utf8
import RecursiveFactorial.Text.Blank
import RecursiveFactorial.Text.Ranges
import RecursiveFactorial.Text.Extender
import RecursiveFactorial.Text.Printable
import RecursiveFactorial.Text.Quoted
import RecursiveFactorial.Text.Hangul
import RecursiveFactorial.Text.Parts
import RecursiveFactorial.Text.Cluster.Class
import RecursiveFactorial.Text.Cluster.Basic
import RecursiveFactorial.Text.Width
import RecursiveFactorial.Text.Alphanumeric
import RecursiveFactorial.Text.LineBreak.Class
import RecursiveFactorial.Text.LineBreak.Basic
import RecursiveFactorial.Text.Fill
import RecursiveFactorial.Decimal.Shortest
import RecursiveFactorial.Decimal.Double
import RecursiveFactorial.Number
import RecursiveFactorial.Evaluation
import RecursiveFactorial.Settings.Basic
import RecursiveFactorial.Document.Fault
import RecursiveFactorial.Document.Text
import RecursiveFactorial.Document.Numeral
import RecursiveFactorial.Document.Skip
import RecursiveFactorial.Document.Field
import RecursiveFactorial.Document.Basic
import RecursiveFactorial.Failure
import RecursiveFactorial.Notice
import RecursiveFactorial.FileTree
import RecursiveFactorial.Settings.Load
import RecursiveFactorial.Console.Line
import RecursiveFactorial.Console.Basic
import RecursiveFactorial.Calculation
import RecursiveFactorial.ThreeAddress.Basic
import RecursiveFactorial.ThreeAddress.Lowering
import RecursiveFactorial.Output
import RecursiveFactorial.CSource.Literal
import RecursiveFactorial.CSource.Listing
import RecursiveFactorial.CSource.File
import RecursiveFactorial.Report
import RecursiveFactorial.Repl.History
import RecursiveFactorial.Repl.Basic
import RecursiveFactorial.CommandLine.Plain
import RecursiveFactorial.CommandLine.Arguments
import RecursiveFactorial.CommandLine.Help
import RecursiveFactorial.CommandLine.Run
import RecursiveFactorial.Main
import RecursiveFactorial.Proofs.Recursion
import RecursiveFactorial.Proofs.Factorial
import RecursiveFactorial.Proofs.Overflow
import RecursiveFactorial.Proofs.Calculation
import RecursiveFactorial.Proofs.ThreeAddress.Machine
import RecursiveFactorial.Proofs.ThreeAddress.Simulation
import RecursiveFactorial.Proofs.Console.Marks
import RecursiveFactorial.Proofs.Console.Session
import RecursiveFactorial.Proofs.Text.Utf8
import RecursiveFactorial.Proofs.CSource.Layout
import RecursiveFactorial.Proofs.C.Token
import RecursiveFactorial.Proofs.C.Grammar
import RecursiveFactorial.Proofs.C.Library
import RecursiveFactorial.Proofs.C.Execution
import RecursiveFactorial.Proofs.C.Literal
import RecursiveFactorial.Proofs.CSource.Emitted
import RecursiveFactorial.Proofs.CSource.Reading
import RecursiveFactorial.Proofs.CSource.Simulation
import RecursiveFactorial.Proofs.Text.Lossy
import RecursiveFactorial.Proofs.Number
import RecursiveFactorial.Proofs.Console.Stream
import RecursiveFactorial.Proofs.Console.Line
import RecursiveFactorial.Proofs.CSource.Input
import RecursiveFactorial.Proofs.CSource.Agreement
import RecursiveFactorial.Proofs.Console.Limit
import RecursiveFactorial.Proofs.CSource.Lexeme
import RecursiveFactorial.Proofs.CSource.Recovery
import RecursiveFactorial.Proofs.Document.Grammar
import RecursiveFactorial.Proofs.Text.Characters
import RecursiveFactorial.Proofs.Text.Ascii
import RecursiveFactorial.Proofs.Document.Text
import RecursiveFactorial.Proofs.Document.Numeral
import RecursiveFactorial.Proofs.Document.Skip
import RecursiveFactorial.Proofs.Document.Field
import RecursiveFactorial.Proofs.Document.Draft
import RecursiveFactorial.Proofs.Document.Load
import RecursiveFactorial.Proofs.CSource.Confinement
import RecursiveFactorial.Proofs.NumberParts
import RecursiveFactorial.Proofs.Text.Torn
import RecursiveFactorial.Proofs.Console.Texts
import RecursiveFactorial.Proofs.Console.FirstFailure
import RecursiveFactorial.Proofs.Console.Asked
import RecursiveFactorial.Proofs.Document.Context
import RecursiveFactorial.Proofs.Document.Forms
import RecursiveFactorial.Proofs.CSource.Blocks
import RecursiveFactorial.Proofs.CSource.Temps
import RecursiveFactorial.Proofs.C.PrintCall
import RecursiveFactorial.Proofs.CSource.Printing
import RecursiveFactorial.Proofs.Repl.Lines
