import CircuitBench.Chart.Plan
import CircuitBench.Chart.Svg
import CircuitBench.Report.Log

/-!
# Rendering figures

Each figure of a plan that has points is drawn to its file by a library, the folders around the file
being made as needed. The first fault ends the rendering, and a `Rendering` tells the files that
were written until then. `renderLayoutWith` takes the library as given; `renderLayout` is the same
with the one of this program.
-/

namespace CircuitBench

/-- Why a figure cannot be rendered. -/
inductive RenderError where
  | unsupportedFormat (path : String)
  | cannotCreateFolder (path : String) (cause : FileError)
  /-- The library reported a fault. -/
  | cannotDraw (path fault : String)
deriving DecidableEq, Repr

/-- The wording of an error. -/
def RenderError.message : RenderError → String
  | .unsupportedFormat path => s!"unsupported image type for {path} (expected .svg or .png)"
  | .cannotCreateFolder path cause =>
    s!"failed to create output folder for {path}: {cause.message}"
  | .cannotDraw path fault => s!"failed to draw {path}: {fault}"

/-- What rendering one figure leads to: whether its drawing was begun, the tree, and the error. -/
structure Rendered where
  begun : Bool
  tree : Tree
  error : Option RenderError

/-- A figure rendered to a path. -/
def renderFigure (library : DrawingLibrary) (t : Tree) (cwd : Location) (figure : Figure)
    (path : String) (size : FigureSize) : Rendered :=
  match ImageFormat.ofPath? path with
  | none => ⟨false, t, some (.unsupportedFormat path)⟩
  | some format =>
    match t.createParent cwd path with
    | .error cause => ⟨false, t, some (.cannotCreateFolder path cause)⟩
    | .ok prepared =>
      let drawn :=
        library.draw format (drawingSize size figure.facets.length) figure.drawing prepared
        cwd path
      ⟨true, drawn.tree, drawn.fault.map (.cannotDraw path)⟩

/-- What rendering leads to: the tree, the files written, the fault that ended it, and its log. -/
structure Rendering where
  tree : Tree
  written : List String
  error : Option RenderError
  log : List LogEntry

/-- The log entry at the start of a drawing. -/
def drawingLog (figure : Figure) (path : String) (size : FigureSize) : LogEntry :=
  let (width, height) := drawingSize size figure.facets.length
  ⟨.debug, s!"Rendering {figure.title} ({width}x{height}) to {path}"⟩

/-- The log entry of a finished drawing. -/
def writtenLog (figure : Figure) (path : String) : LogEntry :=
  ⟨.info, s!"Wrote {path} ({figure.pointCount} points in {figure.facets.length} facets)"⟩

/-- The log entry of a figure without points. -/
def skippedLog (figure : Figure) (path : String) : LogEntry :=
  ⟨.warn, s!"No data for '{figure.title}', skipping {path}"⟩

/-- Figures rendered one after the other. -/
def renderAll (library : DrawingLibrary) (t : Tree) (cwd : Location) (size : FigureSize) :
    List (Figure × String) → Rendering
  | [] => ⟨t, [], none, []⟩
  | (figure, path) :: others =>
    if figure.isEmpty then
      let rest := renderAll library t cwd size others
      { rest with log := skippedLog figure path :: rest.log }
    else
      let rendered := renderFigure library t cwd figure path size
      let begun := if rendered.begun then [drawingLog figure path size] else []
      match rendered.error with
      | some e => ⟨rendered.tree, [], some e, begun⟩
      | none =>
        let rest := renderAll library rendered.tree cwd size others
        ⟨rest.tree, path :: rest.written, rest.error, begun ++ writtenLog figure path :: rest.log⟩

/-- The figures of a layout rendered by a library. -/
def renderLayoutWith (library : DrawingLibrary) (t : Tree) (cwd : Location)
    (table : NormalizedTable)
    (layout : Layout) (targets : Targets) (size : FigureSize) : Rendering :=
  renderAll library t cwd size (planFigures table layout targets)

/-- The figures of a layout rendered by this program. -/
def renderLayout : Tree → Location → NormalizedTable → Layout → Targets → FigureSize → Rendering :=
  renderLayoutWith svgLibrary

/-- The log of a plan: for each figure the rows that cannot be drawn. -/
def planLog (table : NormalizedTable) (layout : Layout) (targets : Targets) : List LogEntry :=
  (planFigures table layout targets).flatMap fun _ =>
    table.unplottableRows.map fun row =>
      ⟨.debug, s!"Row {row} has no plottable measurement, skipping"⟩

end CircuitBench
