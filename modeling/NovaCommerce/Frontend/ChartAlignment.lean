import NovaCommerce.Frontend.Charts

/-!
# Points and their labels

`sanitizeChartSpec` keeps a place for every category, but drops the points that are no numbers: those behind them
move forward.

* `drawn` : the points of the series that are drawn; `sanitizeChartSpec_drawn` : what an accepted chart holds of them;
* `Aligned` : every number stands where it stood, and every series has a point for each label;
* `aligned_iff` : an accepted chart is aligned exactly when the numbers of each drawn series come first.
-/

namespace NovaCommerce.Frontend

open JsValue

/-! ## The input -/

/-- The properties of a plain object. -/
def propertiesOf : JsValue → List (JsString × JsValue)
  | .object _ true entries => ownEntries entries
  | _ => []

def arrayOf : JsValue → Option (List JsValue)
  | .array _ items => some items
  | _ => none

def rawCategories (input : JsValue) : Option (List JsValue) := arrayOf (field (propertiesOf input) (js "categories"))

def rawSeries (input : JsValue) : List JsValue := (arrayOf (field (propertiesOf input) (js "series"))).getD []

def hasKind (input : JsValue) (kind : ChartKind) : Bool :=
  match field (propertiesOf input) (js "kind") with
  | .string s => decide (s = kind.value)
  | _ => false

/-- The points of a series that has a name, an array of data and a number in it; those behind the cap are not read. -/
def seriesPoints : JsValue → Option (List JsValue)
  | .object _ true entries =>
    match safeString (field (ownEntries entries) (js "name")) stringLengthLimit,
      arrayOf (field (ownEntries entries) (js "data")) with
    | some _, some points =>
      if (points.take dataPointsLimit).filterMap safeNumber = [] then none else some (points.take dataPointsLimit)
    | _, _ => none
  | _ => none

/-- The points of the series that are drawn: one for a pie and a gauge. -/
def drawn (input : JsValue) : List (List JsValue) :=
  let all := ((rawSeries input).take seriesLimit).filterMap seriesPoints
  if hasKind input .pie || hasKind input .gauge then all.take 1 else all

/-- The entries of the categories that are read; a table has none. -/
def labelled (input : JsValue) : Option (List JsValue) :=
  if hasKind input .table then none else (rawCategories input).map fun raws => raws.take categoriesLimit

def longest (lengths : List Nat) : Nat := lengths.foldl max 0

/-- How many numbers the longest of the series has. -/
def mostNumbers (series : List (List JsValue)) : Nat :=
  longest (series.map fun points => (points.filterMap safeNumber).length)

/-! ## What an accepted chart holds -/

/-- The series that a raw one becomes. -/
def seriesOf (raw : JsValue) : Option ChartSeries := (sanitizeSeries raw [] 0).1

theorem sanitizeSeries_fst (raw : JsValue) (warnings : List JsString) (index : Nat) :
    (sanitizeSeries raw warnings index).1 = seriesOf raw := by
  unfold seriesOf sanitizeSeries
  split
  · next entries =>
    dsimp only
    cases safeString (field (ownEntries entries) (js "name")) stringLengthLimit with
    | none => rfl
    | some name =>
      dsimp only
      split
      · split_ifs <;> rfl
      · rfl
  · rfl

theorem sanitizeAllSeries_fst (raws : List JsValue) (index : Nat) (warnings : List JsString) :
    (sanitizeAllSeries index raws warnings).1 = raws.filterMap seriesOf := by
  induction raws generalizing index warnings with
  | nil => rfl
  | cons raw raws ih =>
    rw [sanitizeAllSeries]
    dsimp only
    rw [ih, sanitizeSeries_fst, List.filterMap_cons]
    cases seriesOf raw <;> rfl

/-- A series holds the numbers among its points. -/
theorem seriesOf_data (raw : JsValue) :
    (seriesOf raw).map ChartSeries.data = (seriesPoints raw).map fun points => points.filterMap safeNumber := by
  unfold seriesOf sanitizeSeries seriesPoints
  split
  · next entries =>
    dsimp only
    cases safeString (field (ownEntries entries) (js "name")) stringLengthLimit with
    | none => rfl
    | some name =>
      dsimp only
      generalize field (ownEntries entries) (js "data") = data
      cases data with
      | array origin points =>
        dsimp only [arrayOf]
        by_cases hempty : (points.take dataPointsLimit).filterMap safeNumber = []
        · rw [if_pos hempty, if_pos hempty]
          rfl
        · rw [if_neg hempty, if_neg hempty]
          rfl
      | _ => rfl
  · next hplain =>
    cases raw with
    | object origin plain entries =>
      cases plain with
      | false => rfl
      | true => exact absurd rfl (hplain origin entries)
    | _ => rfl

theorem series_data (raws : List JsValue) : (raws.filterMap seriesOf).map ChartSeries.data =
    (raws.filterMap seriesPoints).map fun points => points.filterMap safeNumber := by
  rw [List.map_filterMap, List.map_filterMap]
  exact List.filterMap_congr fun raw _ => seriesOf_data raw

theorem singleSeries_fst (kind : ChartKind) (series : List ChartSeries) (warnings : List JsString) :
    (singleSeries kind series warnings).1 = if kind = .pie ∨ kind = .gauge then series.take 1 else series := by
  unfold singleSeries
  by_cases hmany : 1 < series.length
  · rw [if_pos hmany]
    cases kind <;> rfl
  · rw [if_neg hmany, List.take_of_length_le (not_lt.mp hmany), ite_self]

/-- The kind that an accepted input names, and the branch that it takes. -/
theorem sanitizeChartSpec_kind {input : JsValue} {spec : ChartSpec} {warnings : List JsString}
    (h : sanitizeChartSpec input = .ok spec warnings) :
    ∃ kind : ChartKind, (∀ k, hasKind input k = decide (k = kind)) ∧
      (if kind = .table then sanitizeTable (propertiesOf input) (specHeader (propertiesOf input) kind)
        else sanitizeChart (propertiesOf input) (specHeader (propertiesOf input) kind)) = .ok spec warnings := by
  unfold sanitizeChartSpec at h
  split at h
  · next origin entries =>
    dsimp only at h
    cases hfield : field (ownEntries entries) (js "kind") with
    | string s =>
      rw [hfield] at h
      dsimp only at h
      by_cases hs : s = []
      · rw [if_pos hs] at h
        cases h
      rw [if_neg hs] at h
      cases hfind : chartKinds.find? fun k => decide (k.value = s) with
      | none =>
        rw [hfind] at h
        cases h
      | some kind =>
        rw [hfind] at h
        have hdecide : decide (kind.value = s) = true := by
          have hsome := List.find?_some hfind
          exact hsome
        have hvalue : kind.value = s := of_decide_eq_true hdecide
        refine ⟨kind, fun k => ?_, h⟩
        unfold hasKind propertiesOf
        rw [hfield]
        dsimp only
        rw [← hvalue]
        cases k <;> cases kind <;> decide
    | _ =>
      rw [hfield] at h
      cases h
  · cases h

theorem sanitizeTable_ok {fields : List (JsString × JsValue)} {spec spec' : ChartSpec} {warnings : List JsString}
    (h : sanitizeTable fields spec = .ok spec' warnings) : ∃ rawColumns rawRows columns,
      arrayOf (field fields (js "columns")) = some rawColumns ∧ arrayOf (field fields (js "rows")) = some rawRows ∧
      columns = (rawColumns.take columnsLimit).filterMap sanitizeColumn ∧ columns ≠ [] ∧
      spec' = { spec with
        columns := some columns
        rows := some ((rawRows.take tableRowsLimit).filterMap (sanitizeRow (columns.map (·.key)))) } := by
  unfold sanitizeTable at h
  split at h
  · next rawColumns hcolumns =>
    dsimp only at h
    by_cases hnone : ((rawColumns.take columnsLimit).filterMap sanitizeColumn).length = 0
    · rw [if_pos hnone] at h
      cases h
    rw [if_neg hnone] at h
    split at h
    · next rawRows hrows =>
      rw [ChartSpecResult.ok.injEq] at h
      refine ⟨rawColumns, rawRows, _, ?_, ?_, rfl, ?_, h.1.symm⟩
      · rw [hcolumns]
        rfl
      · rw [hrows]
        rfl
      · exact fun hempty => hnone (List.length_eq_zero_iff.mpr hempty)
    · cases h
  · cases h

theorem foldl_max_le_iff (lengths : List Nat) (a n : Nat) :
    lengths.foldl max a ≤ n ↔ a ≤ n ∧ ∀ length ∈ lengths, length ≤ n := by
  induction lengths generalizing a with
  | nil => simp
  | cons length lengths ih =>
    rw [List.foldl_cons, ih, max_le_iff, List.forall_mem_cons, and_assoc]

theorem longest_le_iff {lengths : List Nat} {n : Nat} : longest lengths ≤ n ↔ ∀ length ∈ lengths, length ≤ n := by
  unfold longest
  rw [foldl_max_le_iff]
  exact and_iff_right (Nat.zero_le n)

def ChartSeries.cut (n : Nat) (serie : ChartSeries) : ChartSeries := { serie with data := serie.data.take n }

def ChartSpec.mostPoints (spec : ChartSpec) : Nat := longest (spec.series.map fun serie => serie.data.length)

/-- A chart with labels is cut to the shorter side. -/
def ChartSpec.aligned (spec : ChartSpec) : ChartSpec :=
  match spec.categories with
  | none => spec
  | some labels =>
    { spec with
      categories := some (labels.take (min labels.length spec.mostPoints))
      series := spec.series.map (ChartSeries.cut (min labels.length spec.mostPoints)) }

theorem ChartSpec.cut_of_mostPoints {spec : ChartSpec} {n : Nat} (h : spec.mostPoints ≤ n) :
    spec.series.map (ChartSeries.cut n) = spec.series := by
  have hcut : ∀ serie ∈ spec.series, ChartSeries.cut n serie = id serie := by
    intro serie hserie
    have hlength := longest_le_iff.mp h serie.data.length (List.mem_map_of_mem hserie)
    unfold ChartSeries.cut
    rw [List.take_of_length_le hlength]
    rfl
  rw [List.map_congr_left hcut, List.map_id]

theorem alignCategories_fst (spec : ChartSpec) (warnings : List JsString) :
    (alignCategories spec warnings).1 = spec.aligned := by
  unfold alignCategories ChartSpec.aligned
  cases hcategories : spec.categories with
  | none => rfl
  | some labels =>
    dsimp only
    change (if spec.mostPoints = labels.length then _ else _ : ChartSpec × List JsString).1 = _
    rcases Nat.lt_trichotomy spec.mostPoints labels.length with hlt | heq | hgt
    · rw [if_neg hlt.ne, min_eq_right hlt.le, ChartSpec.cut_of_mostPoints le_rfl]
      exact if_pos hlt
    · rw [if_pos heq, ← heq, min_self, ChartSpec.cut_of_mostPoints le_rfl, heq, List.take_length, ← hcategories]
    · rw [if_neg hgt.ne', min_eq_left hgt.le, List.take_length, ← hcategories]
      exact if_neg hgt.not_gt

theorem sanitizeChart_ok {fields : List (JsString × JsValue)} {spec spec' : ChartSpec} {warnings : List JsString}
    (h : sanitizeChart fields spec = .ok spec' warnings) : ∃ raws series,
      arrayOf (field fields (js "series")) = some raws ∧
      series = (raws.take seriesLimit).filterMap seriesOf ∧ series ≠ [] ∧
      spec' = ChartSpec.aligned { spec with
        categories := (sanitizeCategories (field fields (js "categories"))).1
        series := if spec.kind = .pie ∨ spec.kind = .gauge then series.take 1 else series } := by
  unfold sanitizeChart at h
  dsimp only at h
  cases hseries : field fields (js "series") with
  | array origin raws =>
    rw [hseries] at h
    dsimp only at h
    by_cases hnone : (sanitizeAllSeries 0 (raws.take seriesLimit)
        (sanitizeCategories (field fields (js "categories"))).2).1.length = 0
    · rw [if_pos hnone] at h
      cases h
    rw [if_neg hnone, ChartSpecResult.ok.injEq, singleSeries_fst, sanitizeAllSeries_fst] at h
    rw [sanitizeAllSeries_fst] at hnone
    refine ⟨raws, _, rfl, rfl, fun hempty => hnone (List.length_eq_zero_iff.mpr hempty), ?_⟩
    rw [← h.1, alignCategories_fst]
  | _ =>
    rw [hseries] at h
    cases h

theorem sanitizeCategories_fst (raw : JsValue) : (sanitizeCategories raw).1 =
    (arrayOf raw).map fun raws => (raws.take categoriesLimit).map fun raw => (safeString raw 80).getD [] := by
  cases raw <;> rfl

theorem mostPoints_eq {spec : ChartSpec} {series : List (List JsValue)}
    (h : spec.series.map ChartSeries.data = series.map fun points => points.filterMap safeNumber) :
    spec.mostPoints = mostNumbers series := by
  have hlengths : (spec.series.map ChartSeries.data).map List.length =
      (series.map fun points => points.filterMap safeNumber).map List.length := by rw [h]
  rw [List.map_map, List.map_map] at hlengths
  exact congrArg longest hlengths

theorem aligned_of_labels (spec : ChartSpec) (labels : List JsString) {drawing : List ChartSeries}
    {series : List (List JsValue)}
    (h : drawing.map ChartSeries.data = series.map fun points => points.filterMap safeNumber) :
    (ChartSpec.aligned { spec with categories := some labels, series := drawing }).categories =
        some (labels.take (min labels.length (mostNumbers series))) ∧
      (ChartSpec.aligned { spec with categories := some labels, series := drawing }).series.map ChartSeries.data =
        series.map fun points => (points.filterMap safeNumber).take (min labels.length (mostNumbers series)) := by
  have hmost : ChartSpec.mostPoints { spec with categories := some labels, series := drawing } = mostNumbers series :=
    mostPoints_eq h
  rw [← hmost]
  generalize hn : min labels.length (ChartSpec.mostPoints { spec with categories := some labels, series :=
    drawing }) = n
  have hdata : (drawing.map (ChartSeries.cut n)).map ChartSeries.data =
      series.map fun points => (points.filterMap safeNumber).take n :=
    calc (drawing.map (ChartSeries.cut n)).map ChartSeries.data
        = (drawing.map ChartSeries.data).map (List.take n) := by
          rw [List.map_map, List.map_map]
          rfl
      _ = series.map fun points => (points.filterMap safeNumber).take n := by
          rw [h, List.map_map]
          rfl
  unfold ChartSpec.aligned
  dsimp only
  rw [hn]
  exact ⟨rfl, hdata⟩

/-- What an accepted chart has of its input: no labels, or the labels and the numbers up to the shorter side. -/
theorem sanitizeChartSpec_drawn {input : JsValue} {spec : ChartSpec} {warnings : List JsString}
    (h : sanitizeChartSpec input = .ok spec warnings) :
    (labelled input = none ∧ spec.categories = none) ∨
    ∃ raws, labelled input = some raws ∧
      spec.categories = some ((raws.map fun raw => (safeString raw 80).getD []).take
        (min raws.length (mostNumbers (drawn input)))) ∧
      spec.series.map ChartSeries.data = (drawn input).map fun points =>
        (points.filterMap safeNumber).take (min raws.length (mostNumbers (drawn input))) := by
  obtain ⟨kind, hkind, hbranch⟩ := sanitizeChartSpec_kind h
  unfold labelled
  rw [hkind]
  by_cases htable : kind = .table
  · rw [if_pos htable] at hbranch
    obtain ⟨_, _, _, _, _, _, _, rfl⟩ := sanitizeTable_ok hbranch
    exact .inl ⟨if_pos (decide_eq_true htable.symm), rfl⟩
  rw [if_neg htable] at hbranch
  rw [if_neg fun htrue => htable (of_decide_eq_true htrue).symm]
  obtain ⟨raws, series, hraws, hseries, -, hspec⟩ := sanitizeChart_ok hbranch
  have hdrawn : (if kind = .pie ∨ kind = .gauge then series.take 1 else series).map ChartSeries.data =
      (drawn input).map fun points => points.filterMap safeNumber := by
    unfold drawn rawSeries
    rw [hraws, hkind, hkind, Option.getD_some, hseries]
    dsimp only
    by_cases hone : kind = .pie ∨ kind = .gauge
    · rw [if_pos hone, if_pos, List.map_take, List.map_take, series_data]
      rcases hone with rfl | rfl <;> rfl
    · rw [if_neg hone, if_neg, series_data]
      rw [Bool.or_eq_true, decide_eq_true_eq, decide_eq_true_eq]
      exact fun htrue => hone (htrue.imp Eq.symm Eq.symm)
  cases hcategories : rawCategories input with
  | none =>
    refine .inl ⟨rfl, ?_⟩
    have hnone : (sanitizeCategories (field (propertiesOf input) (js "categories"))).1 = none := by
      rw [sanitizeCategories_fst, show arrayOf _ = none from hcategories]
      rfl
    rw [hspec, hnone]
    rfl
  | some labels =>
    refine .inr ⟨labels.take categoriesLimit, rfl, ?_⟩
    have hsome : (sanitizeCategories (field (propertiesOf input) (js "categories"))).1 =
        some ((labels.take categoriesLimit).map fun raw => (safeString raw 80).getD []) := by
      rw [sanitizeCategories_fst, show arrayOf _ = some labels from hcategories]
      rfl
    rw [hspec, hsome]
    have haligned := aligned_of_labels (specHeader (propertiesOf input) kind)
      ((labels.take categoriesLimit).map fun raw => (safeString raw 80).getD []) hdrawn
    rw [List.length_map] at haligned
    exact haligned

/-! ## Alignment -/

/-- Every label and every number of a chart with labels stands where it stood, and every series has a point for each
label. -/
def Aligned (input : JsValue) (spec : ChartSpec) : Prop :=
  ∀ labels ∈ spec.categories,
    (∀ (k : Nat) (label : JsString), labels[k]? = some label →
      ∃ raw, ((rawCategories input).getD [])[k]? = some raw ∧ label = (safeString raw 80).getD []) ∧
    List.Forall₂ (fun serie points => serie.data.length = labels.length ∧
      ∀ (k : Nat) (x : JsNumber), serie.data[k]? = some x → points[k]? = some (.number x)) spec.series (drawn input)

/-- The points of every series that is drawn start with numbers, one for each label that stays. -/
def NumbersFirst (input : JsValue) : Prop :=
  ∀ raws ∈ labelled input, ∀ points ∈ drawn input, ∀ k < min raws.length (mostNumbers (drawn input)),
    ∃ x : JsNumber, points[k]? = some (.number x) ∧ x.isFinite = true

theorem safeNumber_some_iff {value : JsValue} {x : JsNumber} :
    safeNumber value = some x ↔ value = .number x ∧ x.isFinite = true := by
  constructor
  · intro h
    refine ⟨?_, safeNumber_finite h⟩
    cases value with
    | number y =>
      rw [safeNumber] at h
      split_ifs at h
      rw [Option.some.inj h]
    | _ => cases h
  · rintro ⟨rfl, hx⟩
    rw [safeNumber, if_pos hx]

theorem places_cons (x : JsNumber) (data : List JsNumber) (points : List JsValue) :
    (∀ (k : Nat) (y : JsNumber), (x :: data)[k]? = some y → (JsValue.number x :: points)[k]? = some (.number y)) ↔
      ∀ (k : Nat) (y : JsNumber), data[k]? = some y → points[k]? = some (.number y) := by
  constructor
  · exact fun hall k y hy => hall (k + 1) y hy
  · intro hall k y hy
    cases k with
    | zero =>
      rw [List.getElem?_cons_zero] at hy ⊢
      rw [Option.some.inj hy]
    | succ k => exact hall k y hy

/-- By induction on the points: the first that is no number moves the next one forward, or leaves its place empty. -/
theorem numbers_take (points : List JsValue) (n : Nat) :
    (((points.filterMap safeNumber).take n).length = n ∧
      ∀ (k : Nat) (x : JsNumber), ((points.filterMap safeNumber).take n)[k]? = some x →
        points[k]? = some (.number x)) ↔
    ∀ k < n, ∃ x : JsNumber, points[k]? = some (.number x) ∧ x.isFinite = true := by
  induction points generalizing n with
  | nil =>
    cases n with
    | zero => simp
    | succ n =>
      constructor
      · rintro ⟨hlength, -⟩
        cases hlength
      · intro hall
        obtain ⟨x, hplace, -⟩ := hall 0 (Nat.succ_pos n)
        cases hplace
  | cons point points ih =>
    cases n with
    | zero => simp
    | succ n =>
      rw [List.filterMap_cons]
      cases hpoint : safeNumber point with
      | none =>
        dsimp only
        have hfirst : ∀ x : JsNumber, x.isFinite = true → point ≠ .number x := by
          intro x hx hnumber
          rw [safeNumber_some_iff.mpr ⟨hnumber, hx⟩] at hpoint
          cases hpoint
        constructor
        · rintro ⟨hlength, hplaces⟩
          obtain ⟨x, rest, hcons⟩ := List.exists_cons_of_length_eq_add_one hlength
          rw [hcons] at hplaces
          have hplace := hplaces 0 x List.getElem?_cons_zero
          have hmem : x ∈ points.filterMap safeNumber := by
            apply List.mem_of_mem_take
            rw [hcons]
            exact List.mem_cons_self
          obtain ⟨value, -, hvalue⟩ := List.mem_filterMap.mp hmem
          exact absurd (Option.some.inj hplace) (hfirst x (safeNumber_finite hvalue))
        · intro hall
          obtain ⟨x, hplace, hx⟩ := hall 0 (Nat.succ_pos n)
          exact absurd (Option.some.inj hplace) (hfirst x hx)
      | some x =>
        dsimp only
        obtain ⟨rfl, hx⟩ := safeNumber_some_iff.mp hpoint
        rw [List.take_succ_cons, List.length_cons, Nat.add_right_cancel_iff, places_cons, ih n]
        constructor
        · intro hall k hk
          cases k with
          | zero => exact ⟨x, rfl, hx⟩
          | succ k => exact hall k (Nat.lt_of_succ_lt_succ hk)
        · exact fun hall k hk => hall (k + 1) (Nat.succ_lt_succ hk)

theorem getElem?_of_take {α : Type} {items : List α} {n k : Nat} {item : α} (h : (items.take n)[k]? = some item) :
    items[k]? = some item := by
  rw [List.getElem?_take] at h
  split_ifs at h
  exact h

theorem labelled_place {input : JsValue} {raws : List JsValue} (h : labelled input = some raws) {k : Nat}
    {raw : JsValue} (hraw : raws[k]? = some raw) : ((rawCategories input).getD [])[k]? = some raw := by
  unfold labelled at h
  by_cases htable : hasKind input .table = true
  · rw [if_pos htable] at h
    cases h
  rw [if_neg htable] at h
  obtain ⟨all, hall, rfl⟩ := Option.map_eq_some_iff.mp h
  rw [hall, Option.getD_some]
  exact getElem?_of_take hraw

theorem aligned_iff {input : JsValue} {spec : ChartSpec} {warnings : List JsString}
    (h : sanitizeChartSpec input = .ok spec warnings) : Aligned input spec ↔ NumbersFirst input := by
  unfold Aligned NumbersFirst
  rcases sanitizeChartSpec_drawn h with ⟨hlabelled, hcategories⟩ | ⟨raws, hlabelled, hcategories, hdata⟩
  · rw [hlabelled, hcategories]
    constructor
    · exact fun _ _ hraws => nomatch hraws
    · exact fun _ _ hlabels => nomatch hlabels
  rw [hlabelled, hcategories]
  generalize hn : min raws.length (mostNumbers (drawn input)) = n at *
  -- the labels that stay are `n`, each in its place
  have hcount : ((raws.map fun raw => (safeString raw 80).getD []).take n).length = n := by
    rw [List.length_take, List.length_map, ← hn]
    exact min_eq_left (min_le_left _ _)
  have hplaces : ∀ (k : Nat) (label : JsString),
      ((raws.map fun raw => (safeString raw 80).getD []).take n)[k]? = some label →
      ∃ raw, ((rawCategories input).getD [])[k]? = some raw ∧ label = (safeString raw 80).getD [] := by
    intro k label hlabel
    have hmap := getElem?_of_take hlabel
    rw [List.getElem?_map, Option.map_eq_some_iff] at hmap
    obtain ⟨raw, hraw, hvalue⟩ := hmap
    exact ⟨raw, labelled_place hlabelled hraw, hvalue.symm⟩
  -- so the chart is aligned if the numbers of each series are
  have hseries : List.Forall₂ (fun (serie : ChartSeries) (points : List JsValue) => serie.data.length = n ∧
        ∀ (k : Nat) (x : JsNumber), serie.data[k]? = some x → points[k]? = some (.number x)) spec.series
          (drawn input) ↔
      ∀ points ∈ drawn input, ∀ k < n, ∃ x : JsNumber, points[k]? = some (.number x) ∧ x.isFinite = true := by
    rw [← List.forall₂_map_left_iff (f := ChartSeries.data)
      (R := fun (data : List JsNumber) (points : List JsValue) =>
      data.length = n ∧ ∀ (k : Nat) (x : JsNumber), data[k]? = some x → points[k]? = some (.number x)),
      hdata, List.forall₂_map_left_iff, List.forall₂_same]
    simp only [numbers_take]
  constructor
  · intro haligned raws' hraws'
    obtain rfl : raws = raws' := Option.some.inj hraws'
    rw [hn]
    have hlabels := (haligned _ rfl).2
    rw [hcount] at hlabels
    exact hseries.mp hlabels
  · intro hfirst labels hlabels
    obtain rfl : _ = labels := Option.some.inj hlabels
    refine ⟨hplaces, ?_⟩
    rw [hcount]
    have hnumbers := hfirst raws rfl
    rw [hn] at hnumbers
    exact hseries.mpr hnumbers

/-- A bar chart of three months whose first point is missing. -/
def shiftedChart : JsValue :=
  .object .given true [
    (js "kind", .string (js "bar")),
    (js "categories", .array .given [.string (js "Jan"), .string (js "Feb"), .string (js "Mar")]),
    (js "series", .array .given [.object .given true [
      (js "name", .string (js "Sales")),
      (js "data", .array .given [.null, .number (.finite 2 0), .number (.finite 3 0)])]])]

/-- The number of February is drawn over January, and the number of March over February. -/
theorem shiftedChart_misaligned : ∃ spec warnings, sanitizeChartSpec shiftedChart = .ok spec warnings ∧
    spec.categories = some [js "Jan", js "Feb"] ∧
    spec.series.map ChartSeries.data = [[.finite 2 0, .finite 3 0]] ∧ ¬Aligned shiftedChart spec := by
  refine ⟨_, _, rfl, rfl, rfl, fun haligned => ?_⟩
  obtain ⟨-, hseries⟩ := haligned _ rfl
  have hplaces := (hseries.get Nat.zero_lt_one Nat.zero_lt_one).2
  have hplace : (some JsValue.null : Option JsValue) = some (.number (.finite 2 0)) := hplaces 0 (.finite 2 0) rfl
  cases hplace

/-- A bar chart of two months, both with a number; a third point has no label. -/
def steadyChart : JsValue :=
  .object .given true [
    (js "kind", .string (js "bar")),
    (js "categories", .array .given [.string (js "Jan"), .null]),
    (js "series", .array .given [.object .given true [
      (js "name", .string (js "Sales")),
      (js "data", .array .given [.number (.finite 2 0), .number (.finite 3 0), .null])]])]

theorem aligned_iff_steady : ∃ spec warnings, sanitizeChartSpec steadyChart = .ok spec warnings ∧
    (Aligned steadyChart spec ↔ NumbersFirst steadyChart) :=
  ⟨_, _, rfl, aligned_iff rfl⟩

end NovaCommerce.Frontend
