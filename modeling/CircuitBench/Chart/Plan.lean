import CircuitBench.Chart.Figure

/-!
# Plans of figures

Which figures a run draws and where they go: `planFigures` gives the figures of a `Layout`, each
with its file among the `Targets`.
-/

namespace CircuitBench

/-- Which figures a run draws. -/
inductive Layout where
  /-- Equivalence classes and random circuits in two figures. -/
  | comparison
  /-- One figure of all measurements. -/
  | single
deriving DecidableEq, Repr

/-- The files that figures go to. -/
structure Targets where
  outputFile : String
  eccsFile : String
  randomFile : String
deriving DecidableEq, Repr

/-- The figures of a layout with their files. -/
def planFigures (t : NormalizedTable) (layout : Layout) (targets : Targets) :
    List (Figure × String) :=
  match layout with
  | .comparison =>
    [(eccsComparison t, targets.eccsFile), (randomScaling t, targets.randomFile)]
  | .single => [(singleComparison t, targets.outputFile)]

end CircuitBench
