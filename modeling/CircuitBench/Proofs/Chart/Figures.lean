import Mathlib
import CircuitBench.Chart.Figure
import CircuitBench.Proofs.Results.Keys

/-!
# What figures show

A figure takes a selection of the measurements apart, first by number of qubits and then by label,
and puts nothing else in, so that it shows each of them once and in its place (`Figure.Shows`).
Series are told apart by style and label together, and the style may depend on the place of the
facet; that the label alone tells them apart is what each figure has to make sure of
(`StylesFollowLabels`). With that, `Figure.shows_of_stylesFollowLabels` gives what the facets show,
and `comparisons_show` what the three figures do.
-/

namespace CircuitBench

/-- A figure shows some measurements: its facets are their numbers of qubits, the series of a facet
are the labels that occur there, and each series has the numbers of patterns and the runtimes of its
measurements in their order. The same label has the same style everywhere in the figure, and no
other label has. -/
structure Figure.Shows (f : Figure) (measurements : List BenchPoint)
    (labelOf : BenchPoint → String) : Prop where
  nodup_keys : (f.facets.map Facet.key).Nodup
  mem_keys : ∀ qubits, qubits ∈ f.facets.map Facet.key ↔ ∃ p ∈ measurements, p.qubits = qubits
  series_ne_nil : ∀ facet ∈ f.facets, facet.series ≠ []
  points_ne_nil : ∀ facet ∈ f.facets, ∀ s ∈ facet.series, s.points ≠ []
  points_eq : ∀ facet ∈ f.facets, ∀ s ∈ facet.series, s.points =
    (measurements.filter fun p => p.qubits = facet.key ∧ labelOf p = s.label).map
      fun p => (Cell.floatOfInt p.patterns, p.runtime)
  nodup_labels : ∀ facet ∈ f.facets, (facet.series.map Series.label).Nodup
  mem_labels : ∀ facet ∈ f.facets, ∀ label, label ∈ facet.series.map Series.label ↔
    ∃ p ∈ measurements, p.qubits = facet.key ∧ labelOf p = label
  label_eq_iff : ∀ s ∈ f.series, ∀ t ∈ f.series, s.label = t.label ↔ s.style = t.style
  markers_ne : ∀ facet ∈ f.facets, ∀ s ∈ facet.series, ∀ t ∈ facet.series, s.label ≠ t.label →
    s.style ≠ t.style ∧ s.marker ≠ t.marker
  pointCount_eq : f.pointCount = measurements.length
  isEmpty_iff : f.isEmpty = true ↔ measurements = []

/-! ### Series -/

section Series

variable {keyOf : BenchPoint → SeriesKey} {points : List BenchPoint}

/-- A key of a series is the key of some point. -/
lemma mem_seriesKeys {key : SeriesKey} :
    key ∈ (distinct (points.map keyOf)).mergeSort SeriesKey.le ↔ key ∈ points.map keyOf := by
  rw [List.mem_mergeSort, mem_distinct]

/-- Each series has a key of its own. -/
lemma nodup_seriesKeys : ((distinct (points.map keyOf)).mergeSort SeriesKey.le).Nodup :=
  (List.mergeSort_perm _ _).nodup_iff.2 (nodup_distinct _)

/-- A series is that of one of the points, and has all points with its key. -/
lemma mem_seriesBy {s : Series} :
    s ∈ seriesBy keyOf points ↔ ∃ p ∈ points, s = ⟨(keyOf p).2, (keyOf p).1,
      (points.filter (keyOf · == keyOf p)).map BenchPoint.coordinates⟩ := by
  rw [seriesBy, List.mem_map]
  constructor
  · rintro ⟨key, hkey, rfl⟩
    obtain ⟨p, hp, rfl⟩ := List.mem_map.1 (mem_seriesKeys.1 hkey)
    exact ⟨p, hp, rfl⟩
  · rintro ⟨p, hp, rfl⟩
    exact ⟨keyOf p, mem_seriesKeys.2 (List.mem_map_of_mem hp), rfl⟩

/-- The series have as many points as there are. -/
lemma sum_length_seriesBy (keyOf : BenchPoint → SeriesKey) (points : List BenchPoint) :
    ((seriesBy keyOf points).map fun s => s.points.length).sum = points.length := by
  rw [← sum_length_filter keyOf points nodup_seriesKeys fun _ => mem_seriesKeys, seriesBy,
    List.map_map]
  simp only [Function.comp_def, List.length_map]

end Series

/-! ### Facets -/

/-- The numbers of qubits of some points, in the order of the facets. -/
def facetKeys (points : List BenchPoint) : List String :=
  sortKeys (distinct (points.map BenchPoint.qubits))

/-- The keys of facets are the numbers of qubits. -/
lemma mem_facetKeys {points : List BenchPoint} {qubits : String} :
    qubits ∈ facetKeys points ↔ qubits ∈ points.map BenchPoint.qubits := by
  rw [facetKeys, (sortKeys_perm _).mem_iff, mem_distinct]

/-- Each number of qubits has one facet. -/
lemma nodup_facetKeys (points : List BenchPoint) : (facetKeys points).Nodup :=
  (sortKeys_perm _).nodup_iff.2 (nodup_distinct _)

/-- Series keys that give each point a label, and the same style exactly to points with the same
label, each in the facet of its number of qubits; in one facet other labels have other shapes. -/
structure StylesFollowLabels (keys : List String) (keyOf : Nat → BenchPoint → SeriesKey)
    (labelOf : BenchPoint → String) : Prop where
  label : ∀ place p, (keyOf place p).2 = labelOf p
  style_iff : ∀ {i j : Nat} {p q : BenchPoint}, keys[i]? = some p.qubits →
    keys[j]? = some q.qubits → (labelOf p = labelOf q ↔ (keyOf i p).1 = (keyOf j q).1)
  marker_ne : ∀ {i : Nat} {p q : BenchPoint}, keys[i]? = some p.qubits →
    keys[i]? = some q.qubits → labelOf p ≠ labelOf q →
      Marker.ofStyle (keyOf i p).1 ≠ Marker.ofStyle (keyOf i q).1

section Facets

variable {keyOf : Nat → BenchPoint → SeriesKey} {labelOf : BenchPoint → String}
  {points : List BenchPoint}

/-- A facet belongs to a place among the numbers of qubits. -/
lemma mem_facetsByQubits {facet : Facet} :
    facet ∈ facetsByQubits keyOf points ↔ ∃ place, (facetKeys points)[place]? = some facet.key ∧
      facet.series = seriesBy (keyOf place) (points.filter (·.qubits == facet.key)) := by
  rw [facetsByQubits, List.mem_map]
  constructor
  · rintro ⟨⟨qubits, place⟩, hmem, rfl⟩
    exact ⟨place, List.mem_zipIdx_iff_getElem?.1 hmem, rfl⟩
  · rintro ⟨place, hkey, hseries⟩
    refine ⟨(facet.key, place), List.mem_zipIdx_iff_getElem?.2 hkey, ?_⟩
    dsimp only
    rw [← hseries]

/-- The facets are keyed by the numbers of qubits, in their order. -/
lemma map_key_facetsByQubits (keyOf : Nat → BenchPoint → SeriesKey) (points : List BenchPoint) :
    (facetsByQubits keyOf points).map Facet.key = facetKeys points := by
  rw [facetsByQubits, List.map_map]
  exact List.zipIdx_map_fst 0 (facetKeys points)

/-- The facets have as many points as there are. -/
lemma sum_length_facetsByQubits (keyOf : Nat → BenchPoint → SeriesKey) (points : List BenchPoint) :
    (((facetsByQubits keyOf points).flatMap Facet.series).map fun s => s.points.length).sum
      = points.length := by
  have hfacet : ∀ facet ∈ facetsByQubits keyOf points,
      (facet.series.map fun s => s.points.length).sum
        = (points.filter (·.qubits == facet.key)).length := by
    intro facet hfacet
    obtain ⟨place, -, hseries⟩ := mem_facetsByQubits.1 hfacet
    rw [hseries, sum_length_seriesBy]
  rw [List.map_flatMap, List.flatMap_def, List.sum_flatten, List.map_map]
  change ((facetsByQubits keyOf points).map fun facet =>
    (facet.series.map fun s => s.points.length).sum).sum = _
  rw [List.map_congr_left hfacet,
    ← sum_length_filter BenchPoint.qubits points (nodup_facetKeys points) fun _ => mem_facetKeys,
    ← map_key_facetsByQubits keyOf points, List.map_map]
  rfl

/-- A series stands for the points of one number of qubits and one label; its style is that of each
of them. -/
lemma StylesFollowLabels.of_mem_series (h : StylesFollowLabels (facetKeys points) keyOf labelOf)
    {facet : Facet} (hfacet : facet ∈ facetsByQubits keyOf points) {s : Series}
    (hs : s ∈ facet.series) :
    ∃ place, (facetKeys points)[place]? = some facet.key ∧
      ∃ p ∈ points, p.qubits = facet.key ∧ s = ⟨labelOf p, (keyOf place p).1,
        (points.filter fun q => q.qubits = facet.key ∧ labelOf q = labelOf p).map
          BenchPoint.coordinates⟩ := by
  obtain ⟨place, hkey, hseries⟩ := mem_facetsByQubits.1 hfacet
  rw [hseries, mem_seriesBy] at hs
  obtain ⟨p, hp, rfl⟩ := hs
  obtain ⟨hp, hqubits⟩ := List.mem_filter.1 hp
  rw [beq_iff_eq] at hqubits
  refine ⟨place, hkey, p, hp, hqubits, ?_⟩
  -- among the points of this facet the key and the label select the same ones
  have hselect : ∀ q ∈ points, ((keyOf place q == keyOf place p) && (q.qubits == facet.key))
      = decide (q.qubits = facet.key ∧ labelOf q = labelOf p) := by
    intro q _
    by_cases hq : q.qubits = facet.key
    · have hstyle := h.style_iff (i := place) (j := place) (hq ▸ hkey) (hqubits ▸ hkey)
      rw [Bool.eq_iff_iff, Bool.and_eq_true, beq_iff_eq, beq_iff_eq, decide_eq_true_eq,
        Prod.ext_iff, h.label, h.label, ← hstyle]
      tauto
    · simp [hq]
  rw [h.label, List.filter_filter, List.filter_congr hselect]

/-- Every facet has a point. -/
lemma exists_mem_of_mem_facets {facet : Facet} (hfacet : facet ∈ facetsByQubits keyOf points) :
    ∃ p ∈ points, p.qubits = facet.key := by
  obtain ⟨place, hkey, -⟩ := mem_facetsByQubits.1 hfacet
  exact List.mem_map.1 (mem_facetKeys.1 (List.mem_of_getElem? hkey))

/-- The label of every point stands in the facet of its number of qubits. -/
lemma StylesFollowLabels.exists_series (h : StylesFollowLabels (facetKeys points) keyOf labelOf)
    {facet : Facet} (hfacet : facet ∈ facetsByQubits keyOf points) {p : BenchPoint}
    (hp : p ∈ points)
    (hqubits : p.qubits = facet.key) : ∃ s ∈ facet.series, s.label = labelOf p := by
  obtain ⟨place, -, hseries⟩ := mem_facetsByQubits.1 hfacet
  rw [hseries]
  exact ⟨_, mem_seriesBy.2 ⟨p, List.mem_filter.2 ⟨hp, beq_iff_eq.2 hqubits⟩, rfl⟩, h.label place p⟩

/-- In one facet no label stands twice, since its style is the same. -/
lemma StylesFollowLabels.nodup_labels (h : StylesFollowLabels (facetKeys points) keyOf labelOf)
    {facet : Facet} (hfacet : facet ∈ facetsByQubits keyOf points) :
    (facet.series.map Series.label).Nodup := by
  obtain ⟨place, hkey, hseries⟩ := mem_facetsByQubits.1 hfacet
  rw [hseries, seriesBy, List.map_map]
  refine List.Nodup.map_on (fun key hkeyp key' hkeyq hlabel => ?_) nodup_seriesKeys
  obtain ⟨p, hp, rfl⟩ := List.mem_map.1 (mem_seriesKeys.1 hkeyp)
  obtain ⟨q, hq, rfl⟩ := List.mem_map.1 (mem_seriesKeys.1 hkeyq)
  have hpqubits : p.qubits = facet.key := by simpa using (List.mem_filter.1 hp).2
  have hqqubits : q.qubits = facet.key := by simpa using (List.mem_filter.1 hq).2
  change (keyOf place p).2 = (keyOf place q).2 at hlabel
  refine Prod.ext ((h.style_iff (hpqubits ▸ hkey) (hqqubits ▸ hkey)).1 ?_) hlabel
  rw [← h.label place p, ← h.label place q, hlabel]

/-- No series is without points. -/
lemma StylesFollowLabels.points_ne_nil (h : StylesFollowLabels (facetKeys points) keyOf labelOf)
    {facet : Facet} (hfacet : facet ∈ facetsByQubits keyOf points) {s : Series}
    (hs : s ∈ facet.series) : s.points ≠ [] := by
  obtain ⟨place, -, p, hp, hqubits, rfl⟩ := h.of_mem_series hfacet hs
  refine List.ne_nil_of_mem (List.mem_map_of_mem (List.mem_filter.2 ⟨hp, ?_⟩))
  simpa using hqubits

/-- No facet is without series. -/
lemma StylesFollowLabels.series_ne_nil (h : StylesFollowLabels (facetKeys points) keyOf labelOf)
    {facet : Facet} (hfacet : facet ∈ facetsByQubits keyOf points) : facet.series ≠ [] := by
  obtain ⟨p, hp, hqubits⟩ := exists_mem_of_mem_facets hfacet
  obtain ⟨s, hs, -⟩ := h.exists_series hfacet hp hqubits
  exact List.ne_nil_of_mem hs

/-- The series of a facet are the labels that occur there. -/
lemma StylesFollowLabels.mem_labels (h : StylesFollowLabels (facetKeys points) keyOf labelOf)
    {facet : Facet} (hfacet : facet ∈ facetsByQubits keyOf points) {label : String} :
    label ∈ facet.series.map Series.label ↔
      ∃ p ∈ points, p.qubits = facet.key ∧ labelOf p = label := by
  rw [List.mem_map]
  constructor
  · rintro ⟨s, hs, rfl⟩
    obtain ⟨place, -, p, hp, hqubits, rfl⟩ := h.of_mem_series hfacet hs
    exact ⟨p, hp, hqubits, rfl⟩
  · rintro ⟨p, hp, hqubits, rfl⟩
    exact h.exists_series hfacet hp hqubits

/-- Other labels of a facet have other styles and other shapes. -/
lemma StylesFollowLabels.markers_ne (h : StylesFollowLabels (facetKeys points) keyOf labelOf)
    {facet : Facet} (hfacet : facet ∈ facetsByQubits keyOf points) {s t : Series}
    (hs : s ∈ facet.series) (ht : t ∈ facet.series) (hlabel : s.label ≠ t.label) :
    s.style ≠ t.style ∧ s.marker ≠ t.marker := by
  obtain ⟨i, hi, p, -, hp, rfl⟩ := h.of_mem_series hfacet hs
  obtain ⟨j, hj, q, -, hq, rfl⟩ := h.of_mem_series hfacet ht
  have hij : i = j := (List.getElem?_inj (List.getElem?_eq_some_iff.1 hi).1
    (nodup_facetKeys points)).1 (hi.trans hj.symm)
  subst hij
  exact ⟨mt (h.style_iff (hp ▸ hi) (hq ▸ hi)).2 hlabel, h.marker_ne (hp ▸ hi) (hq ▸ hi) hlabel⟩

/-- All series are without points only when there is no point. -/
lemma StylesFollowLabels.all_isEmpty_iff (h : StylesFollowLabels (facetKeys points) keyOf labelOf) :
    ((facetsByQubits keyOf points).all fun facet => facet.series.all fun s => s.points.isEmpty)
      = true ↔ points = [] := by
  rw [List.all_eq_true]
  constructor
  · intro hempty
    by_contra hne
    obtain ⟨p, hp⟩ := List.exists_mem_of_ne_nil _ hne
    have hmem : p.qubits ∈ (facetsByQubits keyOf points).map Facet.key := by
      rw [map_key_facetsByQubits]
      exact mem_facetKeys.2 (List.mem_map_of_mem hp)
    obtain ⟨facet, hfacet, hqubits⟩ := List.mem_map.1 hmem
    obtain ⟨s, hs, -⟩ := h.exists_series hfacet hp hqubits.symm
    have hpoints := List.all_eq_true.1 (hempty facet hfacet) s hs
    exact h.points_ne_nil hfacet hs (List.isEmpty_iff.1 hpoints)
  · rintro rfl facet hfacet
    obtain ⟨p, hp, -⟩ := exists_mem_of_mem_facets hfacet
    cases hp

/-- Facets and series whose styles follow their labels show the points that they are made from. -/
theorem Figure.shows_of_stylesFollowLabels {f : Figure}
    (hfacets : f.facets = facetsByQubits keyOf points)
    (h : StylesFollowLabels (facetKeys points) keyOf labelOf) : f.Shows points labelOf := by
  obtain ⟨title, xLabel, yLabel, facets⟩ := f
  dsimp only at hfacets
  subst hfacets
  have hkeys := map_key_facetsByQubits keyOf points
  refine ⟨?nodup_keys, ?mem_keys, fun facet hfacet => h.series_ne_nil hfacet,
    fun facet hfacet s hs => h.points_ne_nil hfacet hs, ?points_eq,
    fun facet hfacet => h.nodup_labels hfacet, fun facet hfacet label => h.mem_labels hfacet,
    ?label_eq_iff, fun facet hfacet s hs t ht => h.markers_ne hfacet hs ht,
    sum_length_facetsByQubits keyOf points, h.all_isEmpty_iff⟩
  case nodup_keys =>
    rw [hkeys]
    exact nodup_facetKeys points
  case mem_keys =>
    intro qubits
    rw [hkeys, mem_facetKeys, List.mem_map]
  case points_eq =>
    intro facet hfacet s hs
    obtain ⟨place, -, p, -, -, rfl⟩ := h.of_mem_series hfacet hs
    rfl
  case label_eq_iff =>
    intro s hs t ht
    obtain ⟨facet, hfacet, hs⟩ := List.mem_flatMap.1 hs
    obtain ⟨facet', hfacet', ht⟩ := List.mem_flatMap.1 ht
    obtain ⟨i, hi, p, -, hp, rfl⟩ := h.of_mem_series hfacet hs
    obtain ⟨j, hj, q, -, hq, rfl⟩ := h.of_mem_series hfacet' ht
    exact h.style_iff (hp ▸ hi) (hq ▸ hj)

end Facets

/-! ### The three figures -/

/-- The facets of the first figure are keyed by the numbers of qubits of its measurements. -/
lemma facets_eccsComparison (t : NormalizedTable) : (eccsComparison t).facets =
    (facetKeys (eccsPoints t)).zipIdx.map fun (qubits, _) =>
      ⟨qubits, seriesBy algorithmKey ((eccsPoints t).filter (·.qubits == qubits))⟩ := rfl

/-- The label of an algorithm's series. -/
def algorithmLabel (p : BenchPoint) : String :=
  p.algorithm.label

/-- The label of the series of a number of qubits. -/
def qubitsLabel (p : BenchPoint) : String :=
  s!"{p.qubits} qubits"

/-- The styles of algorithms follow their labels, whatever the facets are. -/
lemma stylesFollowLabels_algorithm (keys : List String) :
    StylesFollowLabels keys (fun _ => algorithmKey) algorithmLabel := by
  refine ⟨fun _ _ => rfl, fun {_ _ p q} _ _ => ?_, fun {_ p q} _ _ hlabel => ?_⟩
  · unfold algorithmLabel algorithmKey
    cases p.algorithm <;> cases q.algorithm <;> decide
  · unfold algorithmLabel at hlabel
    unfold algorithmKey
    revert hlabel
    cases p.algorithm <;> cases q.algorithm <;> decide

/-- Labels of numbers of qubits are told apart by the numbers. -/
lemma qubitsLabel_inj {p q : BenchPoint} : qubitsLabel p = qubitsLabel q ↔ p.qubits = q.qubits :=
  String.append_left_inj " qubits"

/-- The styles of numbers of qubits are the places of their facets, one for each label. -/
lemma stylesFollowLabels_qubits {keys : List String} (hnodup : keys.Nodup) :
    StylesFollowLabels keys qubitsKey qubitsLabel := by
  refine ⟨fun _ _ => rfl, fun {i j p q} hi hj => ?_, fun {i p q} hi hj hlabel => ?_⟩
  · rw [qubitsLabel_inj]
    change p.qubits = q.qubits ↔ i = j
    rw [← List.getElem?_inj (List.getElem?_eq_some_iff.1 hi).1 hnodup, hi, hj, Option.some_inj]
  · exact absurd (qubitsLabel_inj.2 (Option.some.inj (hi.symm.trans hj))) hlabel

/-- The three figures show the measurements that they are about: all of equivalence classes and all
there are by algorithm, and those of one algorithm on random circuits by number of qubits. -/
theorem comparisons_show (t : NormalizedTable) :
    (eccsComparison t).Shows (t.points.filter fun p => p.datasetType = "eccs") algorithmLabel ∧
      (randomScaling t).Shows
        (t.points.filter fun p => p.datasetType = "random" ∧ p.algorithm = .portmatching)
        qubitsLabel ∧
      (singleComparison t).Shows t.points algorithmLabel := by
  have heccs : eccsPoints t = t.points.filter fun p => p.datasetType = "eccs" :=
    List.filter_congr fun p _ => rfl
  have hrandom : randomPoints t
      = t.points.filter fun p => p.datasetType = "random" ∧ p.algorithm = .portmatching :=
    List.filter_congr fun p _ => (Bool.decide_and _ _).symm
  rw [← heccs, ← hrandom]
  exact ⟨Figure.shows_of_stylesFollowLabels rfl (stylesFollowLabels_algorithm _),
    Figure.shows_of_stylesFollowLabels rfl (stylesFollowLabels_qubits (nodup_facetKeys _)),
    Figure.shows_of_stylesFollowLabels rfl (stylesFollowLabels_algorithm _)⟩

/-- Three results of both algorithms on equivalence classes of two qubits, and one on random
circuits of four. -/
def fourResults : NormalizedTable where
  table :=
    { columns := ["Number of patterns", "Runtime (s)", "Pattern matching algorithm", "dataset",
        "n_qubits", "dataset type"]
      rows := [
        [.int 200, .int 1, .text "Quartz", .text "2_6-eccs", .text "2", .text "eccs"],
        [.int 400, .int 3, .text "Portmatching", .text "2_6-eccs", .text "2", .text "eccs"],
        [.int 100, .int 2, .text "Quartz", .text "2_6-eccs", .text "2", .text "eccs"],
        [.int 50, .int 4, .text "Portmatching", .text "4_15-random", .text "4", .text "random"]] }
  durationName := .runtime

/-- The first figure shows the three results in two series of one facet, the second shows the
other. -/
theorem comparisons_show_fourResults :
    ((eccsComparison fourResults).Shows
        (fourResults.points.filter fun p => p.datasetType = "eccs") algorithmLabel ∧
      (eccsComparison fourResults).facets = [⟨"2", [
        ⟨"Quartz", 0, [(200, 1), (100, 2)]⟩, ⟨"Portmatching", 1, [(400, 3)]⟩]⟩]) ∧
    (randomScaling fourResults).facets = [⟨"4", [⟨"4 qubits", 0, [(50, 4)]⟩]⟩] := by
  have hkeys : facetKeys (eccsPoints fourResults) = ["2"] := by decide +kernel
  have hsorted : (distinct (((eccsPoints fourResults).filter (·.qubits == "2")).map
      algorithmKey)).Pairwise fun a b => SeriesKey.le a b = true := by decide +kernel
  have hseries : seriesBy algorithmKey ((eccsPoints fourResults).filter (·.qubits == "2")) =
      [⟨"Quartz", 0, [(200, 1), (100, 2)]⟩, ⟨"Portmatching", 1, [(400, 3)]⟩] := by
    rw [seriesBy, List.mergeSort_of_pairwise hsorted]
    decide +kernel
  refine ⟨⟨(comparisons_show fourResults).1, ?_⟩, by decide +kernel⟩
  rw [facets_eccsComparison, hkeys, List.zipIdx_singleton, List.map_singleton]
  dsimp only
  rw [hseries]

end CircuitBench
