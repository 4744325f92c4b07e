import CircuitBench.Chart.Drawing

/-!
# Drawings as SVG texts

The drawing library of this program, which stands in for a general one. `svgLibrary` makes an SVG
text of any drawing and writes it to the file, whatever the format asked for. Each panel has a
frame, the labels of the axes, its points and a legend; there are no fonts, ticks or meshes, and no
pixels. Results about rendering hold for every `DrawingLibrary`, so that none of them depends on
these texts.
-/

namespace CircuitBench

namespace Svg

/-- A text in which no character has a meaning of its own. -/
def escape (s : String) : List Char :=
  s.toList.flatMap fun c =>
    match c with
    | '<' => "&lt;".toList
    | '>' => "&gt;".toList
    | '&' => "&amp;".toList
    | '"' => "&quot;".toList
    | c => [c]

/-- An attribute. -/
def attr (name : String) (value : List Char) : List Char :=
  ' ' :: (name.toList ++ '=' :: '"' :: (value ++ ['"']))

/-- Attributes with numbers as values. -/
def numbers (values : List (String × Float)) : List Char :=
  values.flatMap fun (name, x) => attr name (Number.plainText x)

/-- An element without content, on a line of its own. -/
def element (tag : String) (attributes : List Char) : List Char :=
  '<' :: (tag.toList ++ (attributes ++ ['/', '>', '\n']))

/-- A line of text at a place. -/
def label (x y : Float) (s : String) : List Char :=
  "<text".toList ++ numbers [("x", x), ("y", y)] ++ '>' :: (escape s ++ "</text>\n".toList)

/-- A place on a drawing. -/
structure Place where
  x : Float
  y : Float

/-- The written form of a place in lists of corners. -/
def Place.corner (p : Place) : List Char :=
  Number.plainText p.x ++ ',' :: Number.plainText p.y

/-- The colours, which take turns. -/
def color (style : Nat) : List Char :=
  match style % 4 with
  | 0 => "#e6194b".toList
  | 1 => "#3cb44b".toList
  | 2 => "#4363d8".toList
  | _ => "#f58231".toList

/-- The shape of one point. -/
def markerShape (marker : Marker) (fill : List Char) (p : Place) : List Char :=
  match marker with
  | .circle => element "circle" (numbers [("cx", p.x), ("cy", p.y), ("r", 4)] ++ attr "fill" fill)
  | .triangle =>
    let corners : List Place := [⟨p.x, p.y - 5⟩, ⟨p.x - 4, p.y + 3⟩, ⟨p.x + 4, p.y + 3⟩]
    let places := ((corners.map Place.corner).intersperse [' ']).flatten
    element "polygon" (attr "points" places ++ attr "fill" fill)
  | .cross =>
    element "line" (numbers [("x1", p.x - 4), ("y1", p.y - 4), ("x2", p.x + 4), ("y2", p.y + 4)] ++
      attr "stroke" fill) ++
    element "line" (numbers [("x1", p.x - 4), ("y1", p.y + 4), ("x2", p.x + 4), ("y2", p.y - 4)] ++
      attr "stroke" fill)
  | .square =>
    element "rect" (numbers [("x", p.x - 4), ("y", p.y - 4), ("width", 8), ("height", 8)] ++
      attr "fill" fill)

/-- A rectangle that points are drawn in, with the ends of its axes. -/
structure Frame where
  left : Float
  top : Float
  width : Float
  height : Float
  xMax : Float
  yMax : Float

/-- Where a point lies in a frame; its vertical axis points up. -/
def Frame.place (f : Frame) (point : Float × Float) : Place :=
  ⟨f.left + point.1 / f.xMax * f.width, f.top + f.height - point.2 / f.yMax * f.height⟩

/-- The points of a series and its line of the legend. -/
def seriesShapes (f : Frame) (s : Series) (line : Nat) : List Char :=
  let fill := color s.style
  let entry : Place := ⟨f.left + 12, f.top + 12 + 16 * Cell.floatOfInt line⟩
  s.points.flatMap (fun p => markerShape s.marker fill (f.place p)) ++
    markerShape s.marker fill entry ++ label (entry.x + 10) (entry.y + 4) s.label

/-- A panel with its caption, frame, axes, points and legend. -/
def panelShapes (f : Frame) (xLabel yLabel : String) (panel : Panel) : List Char :=
  label f.left (f.top - 8) panel.caption ++
    element "rect"
      (numbers [("x", f.left), ("y", f.top), ("width", f.width), ("height", f.height)] ++
        attr "fill" "none".toList ++ attr "stroke" "black".toList) ++
    label f.left (f.top + f.height + 24) xLabel ++ label f.left (f.top - 24) yLabel ++
    (panel.series.zipIdx.flatMap fun (s, line) => seriesShapes f s line)

end Svg

/-- The frame of the panel at a place in a drawing. -/
def Drawing.frameAt (d : Drawing) (pixels : Nat × Nat) (place : Nat) : Svg.Frame :=
  let width := Cell.floatOfInt (pixels.1 / d.parts : Nat)
  let height := Cell.floatOfInt pixels.2
  { left := Cell.floatOfInt place * width + 60
    top := 70
    width := Number.larger 1 (width - 80)
    height := Number.larger 1 (height - 120)
    xMax := d.xMax
    yMax := d.yMax }

/-- The text of a drawing. -/
def Drawing.svg (d : Drawing) (pixels : Nat × Nat) : List Char :=
  "<svg".toList ++ Svg.attr "width" (Number.natText pixels.1) ++
    Svg.attr "height" (Number.natText pixels.2) ++
    Svg.attr "xmlns" "http://www.w3.org/2000/svg".toList ++ ['>', '\n'] ++
    Svg.element "rect" (Svg.attr "width" "100%".toList ++
      Svg.attr "height" "100%".toList ++ Svg.attr "fill" "white".toList) ++
    Svg.label 20 24 d.title ++
    (d.panels.zipIdx.flatMap fun (panel, place) =>
      Svg.panelShapes (d.frameAt pixels place) d.xLabel d.yLabel panel) ++
    "</svg>\n".toList

/-- The library of this program. A file that cannot be written is reported as a fault of the
drawing, in both formats. -/
def svgLibrary : DrawingLibrary where
  draw _ pixels drawing t cwd path :=
    match t.writeFile cwd path (Utf8.encode (drawing.svg pixels)) with
    | .error cause => ⟨t, some s!"backend error: Drawing backend error: {cause.message}"⟩
    | .ok written => ⟨written, none⟩

end CircuitBench
