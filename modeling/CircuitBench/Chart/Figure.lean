import CircuitBench.Results.Normalize

/-!
# Figures

A `Figure` is a row of facets, one for each number of qubits, and each `Facet` shows series of
points. `facetsByQubits` takes measurements apart into facets and series; `eccsComparison`,
`randomScaling` and `singleComparison` are the three figures of this program.
-/

namespace CircuitBench

/-- The shape of a point. -/
inductive Marker where
  | circle
  | triangle
  | cross
  | square
deriving DecidableEq, Repr

/-- The shape for a style; the shapes take turns. -/
def Marker.ofStyle (style : Nat) : Marker :=
  match style % 4 with
  | 0 => .circle
  | 1 => .triangle
  | 2 => .cross
  | _ => .square

/-- Points of one colour and shape: numbers of patterns with runtimes. -/
structure Series where
  label : String
  style : Nat
  points : List (Float × Float)
deriving DecidableEq, BEq, Repr

/-- The shape of a series' points. -/
def Series.marker (s : Series) : Marker := .ofStyle s.style

/-- The series for one number of qubits. -/
structure Facet where
  key : String
  series : List Series
deriving DecidableEq, BEq, Repr

/-- The caption of a facet. -/
def Facet.title (f : Facet) : String :=
  s!"{qubitsColumn} = {f.key}"

/-- A row of facets with common axes. -/
structure Figure where
  title : String
  xLabel : String
  yLabel : String
  facets : List Facet
deriving BEq, Repr

namespace Figure

/-- The series of all facets. -/
def series (f : Figure) : List Series :=
  f.facets.flatMap Facet.series

/-- The points of all facets. -/
def points (f : Figure) : List (Float × Float) :=
  f.series.flatMap Series.points

/-- Whether there is no point. -/
def isEmpty (f : Figure) : Bool :=
  f.facets.all fun facet => facet.series.all fun s => s.points.isEmpty

/-- The largest coordinates, none below zero. -/
def bounds (f : Figure) : Float × Float :=
  f.points.foldl (fun (mx, my) (x, y) => (Number.larger mx x, Number.larger my y)) (0, 0)

/-- The number of points. -/
def pointCount (f : Figure) : Nat :=
  (f.series.map fun s => s.points.length).foldr (· + ·) 0

end Figure

/-- The data sets of equivalence classes of circuits. -/
def eccsType : String := "eccs"

/-- The data sets of random circuits. -/
def randomType : String := "random"

/-- What tells series apart: the style and the label, the style first in order. -/
abbrev SeriesKey : Type := Nat × String

/-- The order of series in a facet. -/
def SeriesKey.le (a b : SeriesKey) : Bool :=
  a.1 < b.1 || (a.1 == b.1 && decide (a.2 ≤ b.2))

/-- The coordinates of a measurement. -/
def BenchPoint.coordinates (p : BenchPoint) : Float × Float :=
  (Cell.floatOfInt p.patterns, p.runtime)

/-- The series of some points, told apart by a key. -/
def seriesBy (keyOf : BenchPoint → SeriesKey) (points : List BenchPoint) : List Series :=
  ((distinct (points.map keyOf)).mergeSort SeriesKey.le).map fun key =>
    { label := key.2
      style := key.1
      points := (points.filter (keyOf · == key)).map BenchPoint.coordinates }

/-- Points grouped by their number of qubits, in ascending order, and in each facet by the key that
its place and the point give. -/
def facetsByQubits (keyOf : Nat → BenchPoint → SeriesKey) (points : List BenchPoint) : List Facet :=
  (sortKeys (distinct (points.map BenchPoint.qubits))).zipIdx.map fun (qubits, place) =>
    { key := qubits
      series := seriesBy (keyOf place) (points.filter (·.qubits == qubits)) }

/-- The series of an algorithm; its style is its place among the sources. -/
def algorithmKey (p : BenchPoint) : SeriesKey :=
  ((Source.all.findIdx? (· == p.algorithm)).getD 0, p.algorithm.label)

/-- The series of a number of qubits, styled by the place of the facet. -/
def qubitsKey (place : Nat) (p : BenchPoint) : SeriesKey :=
  (place, s!"{p.qubits} qubits")

/-- The measurements on equivalence classes. -/
def eccsPoints (t : NormalizedTable) : List BenchPoint :=
  t.points.filter (·.datasetType == eccsType)

/-- The measurements of one algorithm on random circuits. -/
def randomPoints (t : NormalizedTable) : List BenchPoint :=
  t.points.filter fun p => p.datasetType == randomType && p.algorithm == .portmatching

/-- Both algorithms on equivalence classes. -/
def eccsComparison (t : NormalizedTable) : Figure where
  title := "Quartz vs Portmatching on ECC datasets"
  xLabel := patternsColumn
  yLabel := t.runtimeLabel
  facets := facetsByQubits (fun _ => algorithmKey) (eccsPoints t)

/-- One algorithm on random circuits. -/
def randomScaling (t : NormalizedTable) : Figure where
  title := "Portmatching on random datasets"
  xLabel := patternsColumn
  yLabel := t.runtimeLabel
  facets := facetsByQubits qubitsKey (randomPoints t)

/-- All measurements. -/
def singleComparison (t : NormalizedTable) : Figure where
  title := "Comparison between Portmatching and Quartz"
  xLabel := patternsColumn
  yLabel := t.runtimeLabel
  facets := facetsByQubits (fun _ => algorithmKey) t.points

end CircuitBench
