import CircuitBench.Main
import CircuitBench.Proofs.Number.FloatBits
import CircuitBench.Proofs.Number.Rounding
import CircuitBench.Proofs.Number.ShortestDecimal
import CircuitBench.Proofs.Number.PlainText
import CircuitBench.Proofs.Circuit.AngleText
import CircuitBench.Proofs.Circuit.Qasm.Statements
import CircuitBench.Proofs.Circuit.WellFormed
import CircuitBench.Proofs.Circuit.Qasm.Operands
import CircuitBench.Proofs.Circuit.Qasm.Rereading
import CircuitBench.Proofs.Circuit.Qasm.Roundtrip
import CircuitBench.Proofs.Circuit.Qasm.Soundness
import CircuitBench.Proofs.Json.Tokens
import CircuitBench.Proofs.Json.Values
import CircuitBench.Proofs.Circuit.Tket.DocumentText
import CircuitBench.Proofs.Circuit.Tket.Roundtrip
import CircuitBench.Proofs.Results.Points
import CircuitBench.Proofs.Circuit.Expression.Parsing
import CircuitBench.Proofs.Circuit.Tket.Survival
import CircuitBench.Proofs.Circuit.Tket.Programs
import CircuitBench.Proofs.Circuit.Qasm.Continuation
import CircuitBench.Proofs.Circuit.Tket.Wiring
import CircuitBench.Proofs.Chart.Figures
import CircuitBench.Proofs.Report.JsonLookup
import CircuitBench.Proofs.Csv.Rereading
import CircuitBench.Proofs.Results.Union
import CircuitBench.Proofs.Chart.RowOrder
import CircuitBench.Proofs.Results.Isolation
import CircuitBench.Proofs.Dataset.Identifiers
import CircuitBench.Proofs.Circuit.Tket.Declared
import CircuitBench.Proofs.Chart.Rendering
import CircuitBench.Proofs.Run.Destinations
import CircuitBench.Proofs.Run.Summary
import CircuitBench.Proofs.Circuit.Qasm.Includes
import CircuitBench.Proofs.Circuit.Qasm.StartLines
import CircuitBench.Proofs.Circuit.Tket.Rebuilding
import CircuitBench.Proofs.Results.RecordLookup
import CircuitBench.Proofs.Results.SortedKeys
import CircuitBench.Proofs.Results.Counts
import CircuitBench.Proofs.Results.TableRuns
import CircuitBench.Proofs.Results.Extensions
