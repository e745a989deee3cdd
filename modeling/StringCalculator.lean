import StringCalculator.FileTree
import StringCalculator.Main
import StringCalculator.Proofs.Delimiter.Ranking
import StringCalculator.Proofs.Delimiter.Splitting
import StringCalculator.Proofs.Folding
import StringCalculator.Proofs.Header
import StringCalculator.Proofs.Number
import StringCalculator.Proofs.Calculation.Basic
import StringCalculator.Proofs.Calculation.Headers
import StringCalculator.Proofs.Calculation.Delimiters
import StringCalculator.Proofs.Calculation.Expression
import StringCalculator.Proofs.Folding.Nonnegative
import StringCalculator.Proofs.Calculation.Negatives
import StringCalculator.Proofs.Console.Chunks
import StringCalculator.Proofs.Console.Transcript
import StringCalculator.Proofs.Session.History
import StringCalculator.Proofs.Session.Following
import StringCalculator.Proofs.Encoding
import StringCalculator.Proofs.Offset.Slice
import StringCalculator.Proofs.Offset.Scan
import StringCalculator.Proofs.Offset.Header
import StringCalculator.Proofs.Delimiter.Decomposition
import StringCalculator.Proofs.Delimiter.Concatenation
import StringCalculator.Proofs.Header.Decomposition
import StringCalculator.Proofs.Header.Declarable
import StringCalculator.Proofs.Folding.Exact
import StringCalculator.Proofs.Folding.ClosedForm
import StringCalculator.Proofs.Folding.Progress
import StringCalculator.Proofs.Folding.Permutation
import StringCalculator.Proofs.Calculation.Capacity
import StringCalculator.Proofs.Calculation.Concatenation
import StringCalculator.Proofs.Json.Literals
import StringCalculator.Proofs.Json.Spelling
import StringCalculator.Proofs.Json.Roundtrip
import StringCalculator.Proofs.Record
import StringCalculator.Proofs.Record.Fields
import StringCalculator.Proofs.FileTree
import StringCalculator.Proofs.Program.Choice
import StringCalculator.Proofs.Program.Agreement
import StringCalculator.Proofs.Console.Lines
import StringCalculator.Proofs.Number.Spelling
import StringCalculator.Proofs.Calculation.UpperBound
import StringCalculator.Proofs.Trimming
import StringCalculator.Proofs.Delimiter.Canonical
import StringCalculator.Proofs.Calculation.Joined
import StringCalculator.Proofs.Operation
import StringCalculator.Proofs.Calculation.Report
