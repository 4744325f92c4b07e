import CircuitBench.Chart.Figure
import CircuitBench.Files.Tree

/-!
# Drawings

A figure is drawn by a library, in one of two formats. `Figure.drawing` is what the library is asked
for: a panel for each facet, side by side under a common title, on axes that start at zero and end a
little above the largest coordinates. `drawingSize` is the size asked for.

How the library draws is its own matter. A `DrawingLibrary` is any way to get from the tree in which
it is called to the tree that it leaves, with the wording of a fault where it reports one.
-/

namespace CircuitBench

/-- The format of a drawing. -/
inductive ImageFormat where
  | svg
  | png
deriving DecidableEq, Repr

/-- The format that a path asks for by its extension. -/
def ImageFormat.ofPath? (path : String) : Option ImageFormat :=
  match (Path.lowerExtension? path.toList).map String.ofList with
  | some "svg" => some .svg
  | some "png" => some .png
  | _ => none

/-- The width of a facet and the height of a figure in pixels. -/
structure FigureSize where
  facetWidth : Nat
  height : Nat
deriving DecidableEq, Repr

/-- The width and height of a drawing: a facet's width for each facet, at least one, kept within 32
bits. -/
def drawingSize (size : FigureSize) (facets : Nat) : Nat × Nat :=
  (min (size.facetWidth * min (max facets 1) (Number.word32 - 1)) (Number.word32 - 1), size.height)

/-- One panel of a drawing. -/
structure Panel where
  caption : String
  series : List Series

/-- What a library is asked to draw. The panels take equal parts of the width, from left to right,
and share their axes. -/
structure Drawing where
  title : String
  parts : Nat
  /-- Where the horizontal axis ends; both axes start at zero. -/
  xMax : Float
  yMax : Float
  xLabel : String
  yLabel : String
  panels : List Panel

/-- The drawing that a figure asks for. -/
def Figure.drawing (f : Figure) : Drawing where
  title := f.title
  parts := max f.facets.length 1
  xMax := Number.larger (f.bounds.1 * 1.05) 1
  yMax := Number.larger (f.bounds.2 * 1.1) 0.000001
  xLabel := f.xLabel
  yLabel := f.yLabel
  panels := f.facets.map fun facet => ⟨facet.title, facet.series⟩

/-- What a library leaves: the tree, and the wording of the fault that it reports, if any. -/
structure Drawn where
  tree : Tree
  fault : Option String

/-- A library that draws in a format, with a width and a height in pixels, to the file at a path. -/
structure DrawingLibrary where
  draw : ImageFormat → Nat × Nat → Drawing → Tree → Location → String → Drawn

end CircuitBench
