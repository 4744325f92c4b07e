import Mathlib
import CircuitBench.Chart.Rendering

/-!
# Rendering figure by figure

The figures of a plan are rendered one after the other, and the first fault ends the rendering, so
that a plan can be cut anywhere (`renderAll_append`). A figure without points is passed over,
whatever file it would go to. So a file without image type is met only when its figure has points
and all figures before it are rendered, and by then their files are written
(`renderAll_unsupportedFormat_iff`). All this is so for every drawing library; what a library does
decides only which figures it renders (`DrawingLibrary.Renders`).
-/

namespace CircuitBench

/-- The files of the figures that have points. -/
def drawnFiles (plan : List (Figure × String)) : List String :=
  (plan.filter fun p => !p.1.isEmpty).map Prod.snd

/-- A rendering that goes on in the tree that it leaves, unless a fault ended it. -/
def Rendering.andThen (r : Rendering) (next : Tree → Rendering) : Rendering :=
  match r.error with
  | some _ => r
  | none =>
    let rest := next r.tree
    ⟨rest.tree, r.written ++ rest.written, rest.error, r.log ++ rest.log⟩

/-- A library can render a figure: its file has an image type, the folders around it can be made,
and the drawing ends without a fault. -/
def DrawingLibrary.Renders (library : DrawingLibrary) (t : Tree) (cwd : Location) (figure : Figure)
    (file : String) (size : FigureSize) : Prop :=
  ∃ format prepared, ImageFormat.ofPath? file = some format ∧
    t.createParent cwd file = .ok prepared ∧
    (library.draw format (drawingSize size figure.facets.length) figure.drawing prepared cwd
      file).fault = none

section Rendering

variable {library : DrawingLibrary} {cwd : Location} {size : FigureSize}

/-- A figure is refused for its file exactly when the file has no image type, whatever the
library. -/
lemma error_renderFigure_eq_unsupportedFormat_iff {t : Tree} {figure : Figure}
    {file path : String} :
    (renderFigure library t cwd figure file size).error = some (.unsupportedFormat path) ↔
      file = path ∧ ImageFormat.ofPath? file = none := by
  unfold renderFigure
  split
  next hnone => simp [hnone]
  next format hformat =>
    refine iff_of_false ?_ (by simp [hformat])
    split
    · simp
    · simp [Option.map_eq_some_iff]

/-- A figure is rendered without an error exactly when the library can render it. -/
lemma error_renderFigure_eq_none_iff {t : Tree} {figure : Figure} {file : String} :
    (renderFigure library t cwd figure file size).error = none ↔
      library.Renders t cwd figure file size := by
  unfold renderFigure DrawingLibrary.Renders
  cases ImageFormat.ofPath? file with
  | none => simp
  | some format =>
    dsimp only
    cases t.createParent cwd file with
    | error cause => simp
    | ok prepared => simp

/-- A figure without points is passed over. -/
lemma renderAll_cons_of_isEmpty {figure : Figure} (h : figure.isEmpty = true) (t : Tree)
    (file : String) (others : List (Figure × String)) :
    renderAll library t cwd size ((figure, file) :: others) =
      { renderAll library t cwd size others with
        log := skippedLog figure file :: (renderAll library t cwd size others).log } := by
  rw [renderAll, if_pos h]

/-- A figure that cannot be rendered ends the rendering. -/
lemma renderAll_cons_of_error {t : Tree} {figure : Figure} {file : String} {e : RenderError}
    (h : figure.isEmpty = false)
    (he : (renderFigure library t cwd figure file size).error = some e) :
    ∃ log, ∀ others, renderAll library t cwd size ((figure, file) :: others) =
      ⟨(renderFigure library t cwd figure file size).tree, [], some e, log⟩ := by
  refine ⟨if (renderFigure library t cwd figure file size).begun then [drawingLog figure file size]
    else [], fun others => ?_⟩
  rw [renderAll, if_neg (by simp [h])]
  dsimp only
  rw [he]

/-- After a figure that is rendered the rendering goes on. -/
lemma renderAll_cons_of_rendered {t : Tree} {figure : Figure} {file : String}
    (h : figure.isEmpty = false) (he : (renderFigure library t cwd figure file size).error = none) :
    ∃ log, ∀ others, renderAll library t cwd size ((figure, file) :: others) =
      Rendering.andThen ⟨(renderFigure library t cwd figure file size).tree, [file], none, log⟩
        fun drawn => renderAll library drawn cwd size others := by
  refine ⟨(if (renderFigure library t cwd figure file size).begun then [drawingLog figure file size]
    else []) ++ [writtenLog figure file], fun others => ?_⟩
  rw [renderAll, if_neg (by simp [h])]
  dsimp only
  rw [he]
  simp [Rendering.andThen]

/-- The fault of a plan of one figure that has points is that of the figure. -/
lemma error_renderAll_singleton {t : Tree} {figure : Figure} {file : String}
    (h : figure.isEmpty = false) :
    (renderAll library t cwd size [(figure, file)]).error =
      (renderFigure library t cwd figure file size).error := by
  cases he : (renderFigure library t cwd figure file size).error with
  | some e =>
    obtain ⟨log, hcons⟩ := renderAll_cons_of_error h he
    rw [hcons]
  | none =>
    obtain ⟨log, hcons⟩ := renderAll_cons_of_rendered h he
    rw [hcons]
    rfl

/-- A rendering that goes on twice goes on once with both. -/
lemma Rendering.andThen_andThen (r : Rendering) (f g : Tree → Rendering) :
    (r.andThen f).andThen g = r.andThen fun t => (f t).andThen g := by
  cases hr : r.error with
  | some e => simp [andThen, hr]
  | none => cases hf : (f r.tree).error <;> simp [andThen, hr, hf]

/-- The figures of two plans are rendered one plan after the other. -/
theorem renderAll_append (t : Tree) (before after : List (Figure × String)) :
    renderAll library t cwd size (before ++ after) =
      (renderAll library t cwd size before).andThen fun drawn =>
        renderAll library drawn cwd size after := by
  induction before generalizing t with
  | nil => simp [renderAll, Rendering.andThen]
  | cons first others ih =>
    obtain ⟨figure, file⟩ := first
    rw [List.cons_append]
    cases hempty : figure.isEmpty with
    | true =>
      rw [renderAll_cons_of_isEmpty hempty, renderAll_cons_of_isEmpty hempty, ih]
      cases herror : (renderAll library t cwd size others).error <;>
        simp [Rendering.andThen, herror]
    | false =>
      cases herror : (renderFigure library t cwd figure file size).error with
      | some e =>
        obtain ⟨log, hcons⟩ := renderAll_cons_of_error hempty herror
        rw [hcons, hcons]
        rfl
      | none =>
        obtain ⟨log, hcons⟩ := renderAll_cons_of_rendered hempty herror
        rw [hcons, hcons, Rendering.andThen_andThen]
        simp only [ih]

/-- Figures without points are rendered without a fault. -/
lemma error_eq_none_of_isEmpty {t : Tree} {plan : List (Figure × String)}
    (h : ∀ p ∈ plan, p.1.isEmpty = true) : (renderAll library t cwd size plan).error = none := by
  induction plan with
  | nil => rfl
  | cons first others ih =>
    obtain ⟨hfirst, hothers⟩ := List.forall_mem_cons.1 h
    rw [renderAll_cons_of_isEmpty hfirst]
    exact ih hothers

/-- A rendering that no fault ended wrote the files of all figures that have points. -/
lemma written_of_error_eq_none {t : Tree} {plan : List (Figure × String)}
    (h : (renderAll library t cwd size plan).error = none) :
    (renderAll library t cwd size plan).written = drawnFiles plan := by
  induction plan generalizing t with
  | nil => rfl
  | cons first others ih =>
    obtain ⟨figure, file⟩ := first
    cases hempty : figure.isEmpty with
    | true =>
      rw [renderAll_cons_of_isEmpty hempty] at h ⊢
      rw [drawnFiles, List.filter_cons_of_neg (by simp [hempty])]
      exact ih h
    | false =>
      cases herror : (renderFigure library t cwd figure file size).error with
      | some e =>
        obtain ⟨log, hcons⟩ := renderAll_cons_of_error hempty herror
        rw [hcons] at h
        cases h
      | none =>
        obtain ⟨log, hcons⟩ := renderAll_cons_of_rendered hempty herror
        rw [hcons] at h ⊢
        rw [drawnFiles, List.filter_cons_of_pos (by simp [hempty]), List.map_cons]
        exact congrArg (file :: ·) (ih h)

/-- A file without image type that ends a rendering is that of a figure with points, and all figures
before it are rendered. -/
lemma exists_of_renderAll_unsupportedFormat {t : Tree} {plan : List (Figure × String)}
    {path : String}
    (h : (renderAll library t cwd size plan).error = some (.unsupportedFormat path)) :
    ∃ before figure after, plan = before ++ (figure, path) :: after ∧
      (renderAll library t cwd size before).error = none ∧ figure.isEmpty = false ∧
      ImageFormat.ofPath? path = none := by
  induction plan generalizing t with
  | nil => cases h
  | cons first others ih =>
    obtain ⟨figure, file⟩ := first
    cases hempty : figure.isEmpty with
    | true =>
      rw [renderAll_cons_of_isEmpty hempty] at h
      obtain ⟨before, refused, after, rfl, hbefore, hrest⟩ := ih h
      refine ⟨(figure, file) :: before, refused, after, rfl, ?_, hrest⟩
      rw [renderAll_cons_of_isEmpty hempty]
      exact hbefore
    | false =>
      cases herror : (renderFigure library t cwd figure file size).error with
      | some e =>
        obtain ⟨log, hcons⟩ := renderAll_cons_of_error hempty herror
        rw [hcons] at h
        have he : e = .unsupportedFormat path := Option.some.inj h
        obtain ⟨rfl, hformat⟩ := error_renderFigure_eq_unsupportedFormat_iff.1 (he ▸ herror)
        exact ⟨[], figure, others, rfl, rfl, hempty, hformat⟩
      | none =>
        obtain ⟨log, hcons⟩ := renderAll_cons_of_rendered hempty herror
        rw [hcons] at h
        obtain ⟨before, refused, after, rfl, hbefore, hrest⟩ := ih h
        refine ⟨(figure, file) :: before, refused, after, rfl, ?_, hrest⟩
        rw [hcons]
        exact hbefore

/-- A file without image type ends a rendering exactly when its figure has points and all figures
before it are rendered. The files of those figures are written then, and no other. -/
theorem renderAll_unsupportedFormat_iff {t : Tree} {plan : List (Figure × String)} {path : String}
    {written : List String} :
    ((renderAll library t cwd size plan).error = some (.unsupportedFormat path) ∧
        (renderAll library t cwd size plan).written = written) ↔
      ∃ before figure after, plan = before ++ (figure, path) :: after ∧
        (renderAll library t cwd size before).error = none ∧ figure.isEmpty = false ∧
        ImageFormat.ofPath? path = none ∧ drawnFiles before = written := by
  have hstop : ∀ before figure after, (renderAll library t cwd size before).error = none →
      figure.isEmpty = false → ImageFormat.ofPath? path = none →
      (renderAll library t cwd size (before ++ (figure, path) :: after)).error =
          some (.unsupportedFormat path) ∧
        (renderAll library t cwd size (before ++ (figure, path) :: after)).written =
          drawnFiles before := by
    intro before figure after hbefore hempty hformat
    have hrefused : (renderFigure library (renderAll library t cwd size before).tree cwd figure path
        size).error = some (.unsupportedFormat path) :=
      error_renderFigure_eq_unsupportedFormat_iff.2 ⟨rfl, hformat⟩
    obtain ⟨log, hcons⟩ := renderAll_cons_of_error hempty hrefused
    rw [renderAll_append, Rendering.andThen, hbefore]
    dsimp only
    rw [hcons, List.append_nil]
    exact ⟨rfl, written_of_error_eq_none hbefore⟩
  constructor
  · rintro ⟨herror, rfl⟩
    obtain ⟨before, figure, after, rfl, hbefore, hempty, hformat⟩ :=
      exists_of_renderAll_unsupportedFormat herror
    exact ⟨before, figure, after, rfl, hbefore, hempty, hformat,
      (hstop before figure after hbefore hempty hformat).2.symm⟩
  · rintro ⟨before, figure, after, rfl, hbefore, hempty, hformat, rfl⟩
    exact hstop before figure after hbefore hempty hformat

end Rendering

end CircuitBench
