import Mathlib
import CircuitBench.Results.Aggregate
import CircuitBench.Proofs.Chart.Figures
import CircuitBench.Proofs.Results.KeyOrder

/-!
# Figures and the order of rows

Rows come in the order in which results are loaded. Points, series and facets are told apart by what
the rows hold, so another order of the rows reaches a figure in one place only: the facets are in
the order of their keys, and keys that tie keep the order of the rows. A series that is styled by
the place of its facet changes its style with it.

Two figures are compared by `Figure.SameUpToOrder`, which leaves open the order of the points in
each series. Without keys that tie the facets do not depend on the order of points
(`sameUpToOrder_facetsByQubits`), and `comparisons_rowOrder` says that each of the three figures is
the same for every order of the rows exactly when no two numbers of qubits in it tie.
-/

namespace CircuitBench

/-- The same rows under the same columns, in another order. -/
structure NormalizedTable.RowsPermuted (t t' : NormalizedTable) : Prop where
  durationName_eq : t'.durationName = t.durationName
  columns_eq : t'.table.columns = t.table.columns
  rows_perm : t'.table.rows.Perm t.table.rows

/-- The same series, except for the order of its points. -/
structure Series.SameUpToOrder (s s' : Series) : Prop where
  label_eq : s'.label = s.label
  style_eq : s'.style = s.style
  marker_eq : s'.marker = s.marker
  points_perm : s'.points.Perm s.points

/-- The same key and, one by one, the same series. -/
structure Facet.SameUpToOrder (facet facet' : Facet) : Prop where
  key_eq : facet'.key = facet.key
  series : List.Forall₂ Series.SameUpToOrder facet.series facet'.series

/-- The same texts and, one by one, the same facets. -/
structure Figure.SameUpToOrder (f f' : Figure) : Prop where
  title_eq : f'.title = f.title
  xLabel_eq : f'.xLabel = f.xLabel
  yLabel_eq : f'.yLabel = f.yLabel
  facets : List.Forall₂ Facet.SameUpToOrder f.facets f'.facets

/-- Facets that are the same one by one have the same keys in the same order. -/
lemma map_key_eq_of_forall₂ {facets facets' : List Facet}
    (h : List.Forall₂ Facet.SameUpToOrder facets facets') :
    facets.map Facet.key = facets'.map Facet.key := by
  rw [← List.forall₂_eq_eq_eq, List.forall₂_map_left_iff, List.forall₂_map_right_iff]
  exact h.imp fun _ _ hfacet => hfacet.key_eq.symm

/-! ### Facets of permuted points -/

section Points

variable {points points' : List BenchPoint}

/-- The order of series is transitive. -/
lemma SeriesKey.le_trans (a b c : SeriesKey) (hab : SeriesKey.le a b) (hbc : SeriesKey.le b c) :
    SeriesKey.le a c := by
  simp only [SeriesKey.le, Bool.or_eq_true, Bool.and_eq_true, decide_eq_true_eq, beq_iff_eq] at *
  obtain hab | ⟨hab, hab'⟩ := hab
  · exact Or.inl (by omega)
  · obtain hbc | ⟨hbc, hbc'⟩ := hbc
    · exact Or.inl (by omega)
    · exact Or.inr ⟨hab.trans hbc, hab'.trans hbc'⟩

/-- The order of series is total. -/
lemma SeriesKey.le_total (a b : SeriesKey) : SeriesKey.le a b || SeriesKey.le b a := by
  simp only [SeriesKey.le, Bool.or_eq_true, Bool.and_eq_true, decide_eq_true_eq, beq_iff_eq]
  obtain h | h | h := Nat.lt_trichotomy a.1 b.1
  · exact Or.inl (Or.inl h)
  · exact (String.le_total a.2 b.2).imp (fun hle => Or.inr ⟨h, hle⟩) fun hle => Or.inr ⟨h.symm, hle⟩
  · exact Or.inr (Or.inl h)

/-- The order of series tells series apart. -/
lemma SeriesKey.le_antisymm (a b : SeriesKey) (hab : SeriesKey.le a b) (hba : SeriesKey.le b a) :
    a = b := by
  simp only [SeriesKey.le, Bool.or_eq_true, Bool.and_eq_true, decide_eq_true_eq, beq_iff_eq] at *
  obtain hab | ⟨hab, hab'⟩ := hab
  · omega
  · obtain hba | ⟨-, hba'⟩ := hba
    · omega
    · exact Prod.ext hab (hab'.antisymm hba')

/-- The series of points do not depend on the order of the points. -/
lemma sameUpToOrder_seriesBy (keyOf : BenchPoint → SeriesKey) (hperm : points'.Perm points) :
    List.Forall₂ Series.SameUpToOrder (seriesBy keyOf points) (seriesBy keyOf points') := by
  have hkeys : (distinct (points.map keyOf)).mergeSort SeriesKey.le
      = (distinct (points'.map keyOf)).mergeSort SeriesKey.le :=
    mergeSort_eq_of_perm (perm_distinct (hperm.symm.map keyOf)) SeriesKey.le_trans
      SeriesKey.le_total fun a _ b _ => SeriesKey.le_antisymm a b
  rw [seriesBy, seriesBy, ← hkeys, List.forall₂_map_left_iff, List.forall₂_map_right_iff,
    List.forall₂_same]
  intro key _
  exact ⟨rfl, rfl, rfl, (hperm.filter _).map _⟩

/-- The facets of points do not depend on the order of the points, as long as no keys tie. -/
theorem sameUpToOrder_facetsByQubits (keyOf : Nat → BenchPoint → SeriesKey)
    (hperm : points'.Perm points) (htie : NoKeysTie (points.map BenchPoint.qubits)) :
    List.Forall₂ Facet.SameUpToOrder (facetsByQubits keyOf points)
      (facetsByQubits keyOf points') := by
  have hkeys : facetKeys points = facetKeys points' := by
    refine sortKeys_eq_of_perm (perm_distinct (hperm.symm.map _)) ?_
    simpa only [NoKeysTie, mem_distinct] using htie
  change List.Forall₂ _ ((facetKeys points).zipIdx.map _) ((facetKeys points').zipIdx.map _)
  rw [← hkeys, List.forall₂_map_left_iff, List.forall₂_map_right_iff, List.forall₂_same]
  rintro ⟨qubits, place⟩ _
  exact ⟨rfl, sameUpToOrder_seriesBy (keyOf place) (hperm.filter _)⟩

end Points

/-! ### Facets of permuted rows -/

section Rows

variable {t t' : NormalizedTable}

/-- The points of permuted rows are permuted. -/
lemma NormalizedTable.RowsPermuted.points_perm (h : t.RowsPermuted t') :
    t'.points.Perm t.points := by
  obtain ⟨⟨columns, rows⟩, durationName⟩ := t
  obtain ⟨⟨columns', rows'⟩, durationName'⟩ := t'
  obtain ⟨hduration, hcolumns, hrows⟩ := h
  dsimp only at hduration hcolumns hrows
  subst hduration hcolumns
  -- which point a row has does not depend on the other rows
  exact hrows.filterMap (NormalizedTable.point? ⟨⟨columns', rows⟩, durationName'⟩)

/-- Every point comes first for some order of the rows. -/
lemma NormalizedTable.exists_rowsPermuted_points {p : BenchPoint} (hp : p ∈ t.points) :
    ∃ t', t.RowsPermuted t' ∧ ∃ others, t'.points = p :: others := by
  obtain ⟨row, hrow, hpoint⟩ := List.mem_filterMap.1 hp
  obtain ⟨before, after, hrows⟩ := List.append_of_mem hrow
  refine ⟨⟨⟨t.table.columns, row :: (before ++ after)⟩, t.durationName⟩, ⟨rfl, rfl, ?_⟩, ?_⟩
  · rw [hrows]
    exact List.perm_middle.symm
  · exact ⟨_, List.filterMap_cons_some hpoint⟩

/-- A selection of the points is shown the same way for every order of the rows exactly when no two
numbers of qubits among them tie. -/
theorem facetsByQubits_rowOrder (keyOf : Nat → BenchPoint → SeriesKey) (select : BenchPoint → Bool)
    (t : NormalizedTable) :
    (∀ t', t.RowsPermuted t' → List.Forall₂ Facet.SameUpToOrder
        (facetsByQubits keyOf (t.points.filter select))
        (facetsByQubits keyOf (t'.points.filter select))) ↔
      NoKeysTie ((t.points.filter select).map BenchPoint.qubits) := by
  constructor
  · intro hsame hnumbers a ha b hb htie
    by_contra hne
    -- for either key there is an order of the rows in which it comes first
    have hfirst : ∀ k ∈ (t.points.filter select).map BenchPoint.qubits,
        ∃ others, (distinct ((t.points.filter select).map BenchPoint.qubits)).Perm (k :: others) ∧
          facetKeys (t.points.filter select) = sortKeys (k :: others) := by
      intro k hk
      obtain ⟨p, hp, rfl⟩ := List.mem_map.1 hk
      obtain ⟨hp, hselect⟩ := List.mem_filter.1 hp
      obtain ⟨t', hperm, others, hothers⟩ := NormalizedTable.exists_rowsPermuted_points hp
      obtain ⟨keys, hkeys⟩ := distinct_cons p.qubits ((others.filter select).map BenchPoint.qubits)
      have hkeys' : distinct ((t'.points.filter select).map BenchPoint.qubits)
          = p.qubits :: keys := by
        rw [hothers, List.filter_cons_of_pos hselect, List.map_cons, hkeys]
      refine ⟨keys, ?_, ?_⟩
      · rw [← hkeys']
        exact perm_distinct ((hperm.points_perm.symm.filter select).map _)
      · rw [← map_key_facetsByQubits keyOf, map_key_eq_of_forall₂ (hsame t' hperm),
          map_key_facetsByQubits, facetKeys, hkeys']
    obtain ⟨rest, hperm, hsorted⟩ := hfirst a ha
    obtain ⟨rest', hperm', hsorted'⟩ := hfirst b hb
    refine sortKeys_ne_of_tie (hperm.symm.trans hperm') (hperm.nodup_iff.1 (nodup_distinct _))
      (fun k hk => ?_) htie hne (hsorted.symm.trans hsorted')
    exact hnumbers k ((mem_distinct _ k).1 (hperm.mem_iff.2 hk))
  · intro htie t' hperm
    exact sameUpToOrder_facetsByQubits keyOf (hperm.points_perm.filter select) htie

end Rows

/-! ### The three figures -/

/-- A figure of a selection of the points, with texts that rows do not change, is the same for every
order of the rows exactly when no two numbers of qubits in it tie. -/
lemma Figure.rowOrder {draw : NormalizedTable → Figure} {keyOf : Nat → BenchPoint → SeriesKey}
    {select : BenchPoint → Bool}
    (hfacets : ∀ t, (draw t).facets = facetsByQubits keyOf (t.points.filter select))
    (htexts : ∀ t t', t.RowsPermuted t' → (draw t').title = (draw t).title ∧
      (draw t').xLabel = (draw t).xLabel ∧ (draw t').yLabel = (draw t).yLabel)
    (t : NormalizedTable) :
    (∀ t', t.RowsPermuted t' → (draw t).SameUpToOrder (draw t')) ↔
      NoKeysTie ((t.points.filter select).map BenchPoint.qubits) := by
  rw [← facetsByQubits_rowOrder keyOf select t]
  refine forall₂_congr fun t' hperm => ?_
  rw [← hfacets, ← hfacets]
  constructor
  · exact Figure.SameUpToOrder.facets
  · intro hsame
    obtain ⟨htitle, hx, hy⟩ := htexts t t' hperm
    exact ⟨htitle, hx, hy, hsame⟩

/-- The three figures are the same for every order of the rows exactly when no two numbers of qubits
that they show tie. -/
theorem comparisons_rowOrder (t : NormalizedTable) :
    ((∀ t', t.RowsPermuted t' → (eccsComparison t).SameUpToOrder (eccsComparison t')) ↔
        NoKeysTie ((eccsPoints t).map BenchPoint.qubits)) ∧
      ((∀ t', t.RowsPermuted t' → (randomScaling t).SameUpToOrder (randomScaling t')) ↔
        NoKeysTie ((randomPoints t).map BenchPoint.qubits)) ∧
      ((∀ t', t.RowsPermuted t' → (singleComparison t).SameUpToOrder (singleComparison t')) ↔
        NoKeysTie (t.points.map BenchPoint.qubits)) := by
  have hlabel : ∀ t t' : NormalizedTable, t.RowsPermuted t' → t'.runtimeLabel = t.runtimeLabel :=
    fun t t' hperm => congrArg DurationName.label hperm.durationName_eq
  have hall : ∀ points : List BenchPoint, points.filter (fun _ => true) = points :=
    fun points => List.filter_eq_self.2 fun _ _ => rfl
  have heccs : ∀ t, (eccsComparison t).facets = facetsByQubits (fun _ => algorithmKey)
      (t.points.filter fun p => p.datasetType == eccsType) := fun _ => rfl
  have hrandom : ∀ t, (randomScaling t).facets = facetsByQubits qubitsKey
      (t.points.filter fun p => p.datasetType == randomType && p.algorithm == .portmatching) :=
    fun _ => rfl
  have hsingle : ∀ t, (singleComparison t).facets = facetsByQubits (fun _ => algorithmKey)
      (t.points.filter fun _ => true) := fun t => by rw [hall]; rfl
  refine ⟨?_, ?_, ?_⟩
  · exact Figure.rowOrder heccs (fun t t' hperm => ⟨rfl, rfl, hlabel t t' hperm⟩) t
  · exact Figure.rowOrder hrandom (fun t t' hperm => ⟨rfl, rfl, hlabel t t' hperm⟩) t
  · rw [← hall t.points]
    exact Figure.rowOrder hsingle (fun t t' hperm => ⟨rfl, rfl, hlabel t t' hperm⟩) t

/-- Two results whose names give the same number of qubits in different writing. -/
def tiedSets : List (List Record) := [
  [⟨.portmatching, "2_6-random", [("size", .int 200), ("duration", .int 1)]⟩],
  [⟨.portmatching, "02_6-random", [("size", .int 200), ("duration", .int 2)]⟩]]

/-- Facets whose keys tie follow the order of the rows, so that the figure depends on it. -/
theorem not_forall_sameUpToOrder : ¬ ∀ t t' : NormalizedTable, t.RowsPermuted t' →
    (eccsComparison t).SameUpToOrder (eccsComparison t') ∧
      (randomScaling t).SameUpToOrder (randomScaling t') ∧
      (singleComparison t).SameUpToOrder (singleComparison t') := by
  intro h
  let t : NormalizedTable := (normalize (aggregate tiedSets) .standard).table
  let t' : NormalizedTable := ⟨⟨t.table.columns, t.table.rows.reverse⟩, t.durationName⟩
  have hperm : t.RowsPermuted t' := ⟨rfl, rfl, List.reverse_perm _⟩
  have hqubits : t.points.map BenchPoint.qubits = ["2", "02"] := by decide +kernel
  have hqubits' : t'.points.map BenchPoint.qubits = ["02", "2"] := by decide +kernel
  have hfacets : ∀ u, (singleComparison u).facets.map Facet.key = facetKeys u.points :=
    fun u => map_key_facetsByQubits (fun _ => algorithmKey) u.points
  have hkeys := map_key_eq_of_forall₂ (h t t' hperm).2.2.facets
  rw [hfacets, hfacets, facetKeys, facetKeys, hqubits, hqubits'] at hkeys
  exact sortKeys_ne_of_tie (List.Perm.swap "02" "2" []) (by decide) (by decide) (by decide)
    (by decide) hkeys

end CircuitBench
