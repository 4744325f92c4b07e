import CircuitBench.Text.Lines
import CircuitBench.Number.Digits

/-!
# Summaries of runs

What is told about a run when it has ended: the files and rows of each source, the rows of the
table, and the figures that were written. `RunSummary.text` is the text of a summary.
-/

namespace CircuitBench

/-- The files and rows of one source. -/
structure SourceSummary where
  label : String
  files : Nat
  skipped : Nat
  rows : Nat
deriving DecidableEq, Repr

/-- The counts of a run; the lists of pairs are sorted by name. -/
structure RunSummary where
  sources : List SourceSummary
  totalRows : Nat
  rowsByAlgorithm : List (String × Nat)
  qubitsByType : List (String × List String)
  grammarWarnings : Nat
deriving DecidableEq, Repr

/-- The line of a source; skipped files are told only where there are some. -/
def SourceSummary.text (s : SourceSummary) : String :=
  let skipped := if 0 < s.skipped then s!" ({s.skipped} skipped)" else ""
  s!"   {s.label}: {s.files} files, {s.rows} rows{skipped}\n"

/-- The lines about the sources. -/
def RunSummary.sourcesText (s : RunSummary) : String :=
  "📂 Sources:\n" ++ String.join (s.sources.map SourceSummary.text)

/-- The line of one type of data sets. -/
def qubitsText (datasetType : String) (qubits : List String) : String :=
  s!"   {datasetType} datasets: n_qubits in " ++ "\x7b" ++ ", ".intercalate qubits ++ "\x7d\n"

/-- The lines about the rows. -/
def RunSummary.rowsText (s : RunSummary) : String :=
  s!"\n📊 Aggregated rows: {s.totalRows}\n" ++
    if s.totalRows = 0 then "   No benchmark results found.\n"
    else
      String.join (s.rowsByAlgorithm.map fun (name, count) => s!"   - {name}: {count}\n") ++
        String.join (s.qubitsByType.map fun (name, qubits) => qubitsText name qubits) ++
        if 0 < s.grammarWarnings then
          s!"   ⚠️  {s.grammarWarnings} dataset names did not match the naming grammar\n"
        else ""

/-- The lines about the figures. -/
def figuresText (figures : List String) : String :=
  if figures.isEmpty then ""
  else "\n🖼️  Figures:\n" ++ String.join (figures.map fun path => s!"   {path}\n")

/-- The text of a summary with the figures that were written. -/
def RunSummary.text (s : RunSummary) (figures : List String) : String :=
  s.sourcesText ++ s.rowsText ++ figuresText figures

end CircuitBench
