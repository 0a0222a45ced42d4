import NovaCommerce.Frontend.ChartAlignment

/-!
# Charts that are sanitised again

What `sanitizeChartSpec` returns is put through it once more. The sanitisers of the fields keep what they made
(`safeString_again`, `safeColor_again`, `SettledSeries.again`, `sanitizeColumn_again`, `sanitizeRow_again`), and a
chart that is aligned stays so (`aligned_aligned`). An empty array of categories cuts every series to no points, and
a series without points is refused: `stable_iff`.
-/

namespace NovaCommerce.Frontend

open JsValue

/-! ## Fields -/

theorem safeString_some {value : JsValue} {cap : Nat} {s : JsString} (h : safeString value cap = some s) :
    ∃ cleaned : JsString, cleaned ≠ [] ∧ (∀ c ∈ cleaned, isControl c = false) ∧ cleaned.trim = cleaned ∧
      s = if cap < cleaned.length then cleaned.take cap ++ js "…" else cleaned := by
  cases value with
  | string raw =>
    rw [safeString] at h
    by_cases hempty : JsString.trim (raw.filter fun c => !isControl c) = []
    · rw [if_pos hempty] at h
      cases h
    rw [if_neg hempty, Option.some.injEq] at h
    refine ⟨_, hempty, fun c hc => ?_, JsString.trim_trim _, h.symm⟩
    have hmem := List.mem_filter.mp (JsString.mem_of_mem_trim hc)
    rw [Bool.not_eq_true'] at hmem
    exact hmem.2
  | _ => cases h

theorem safeString_of_settled {s : JsString} {cap : Nat} (hempty : s ≠ []) (hclean : ∀ c ∈ s, isControl c = false)
    (htrim : s.trim = s) :
    safeString (.string s) cap = some (if cap < s.length then s.take cap ++ js "…" else s) := by
  have hfilter : (s.filter fun c => !isControl c) = s := by
    rw [List.filter_eq_self]
    intro c hc
    rw [hclean c hc]
    rfl
  rw [safeString, hfilter, htrim, if_neg hempty]

/-- A text that was cut is longer than its cap by the ellipsis, and is cut to itself. -/
theorem safeString_again {value : JsValue} {cap : Nat} {s : JsString} (h : safeString value cap = some s) :
    safeString (.string s) cap = some s := by
  obtain ⟨cleaned, hempty, hclean, htrim, rfl⟩ := safeString_some h
  by_cases hlong : cap < cleaned.length
  · rw [if_pos hlong]
    have hmark : js "…" = [0x2026] := rfl
    have hcut : (cleaned.take cap ++ js "…").length = cap + 1 := by
      rw [List.length_append, List.length_take_of_le hlong.le, hmark, List.length_singleton]
    have hempty' : cleaned.take cap ++ js "…" ≠ [] := List.ne_nil_of_length_eq_add_one hcut
    have hclean' : ∀ c ∈ cleaned.take cap ++ js "…", isControl c = false := by
      intro c hc
      rcases List.mem_append.mp hc with hc | hc
      · exact hclean c (List.mem_of_mem_take hc)
      · rw [hmark, List.mem_singleton] at hc
        rw [hc]
        decide
    have htrim' : JsString.trim (cleaned.take cap ++ js "…") = cleaned.take cap ++ js "…" := by
      rw [hmark]
      exact JsString.trim_take_append htrim cap (by decide)
    rw [safeString_of_settled hempty' hclean' htrim', hcut, if_pos (Nat.lt_succ_self cap),
      List.take_append_of_le_length (List.length_take_of_le hlong.le).ge, List.take_take, min_self]
  · rw [if_neg hlong, safeString_of_settled hempty hclean htrim, if_neg hlong]

theorem safeColor_again {value : JsValue} {s : JsString} (h : safeColor value = some s) :
    safeColor (.string s) = some s := by
  cases value with
  | string raw =>
    rw [safeColor] at h
    by_cases hform : hexColor raw.trim = true ∨ varColor raw.trim = true
    · rw [if_pos hform, Option.some.injEq] at h
      rw [← h, safeColor, JsString.trim_trim, if_pos hform]
    · rw [if_neg hform] at h
      cases h
  | _ => cases h

/-- A label: the text of a category, or the empty text. -/
theorem label_again (raw : JsValue) :
    (safeString (.string ((safeString raw 80).getD [])) 80).getD [] = (safeString raw 80).getD [] := by
  cases h : safeString raw 80 with
  | none => rfl
  | some s =>
    rw [Option.getD_some, safeString_again h]
    rfl

theorem sanitizeCell_again {value : JsValue} {cell : Cell} (h : sanitizeCell value = some cell) :
    sanitizeCell cell.toJs = some cell := by
  unfold sanitizeCell at h
  split at h
  · cases h
    rfl
  · next x =>
    by_cases hx : x.isFinite = true
    · rw [if_pos hx] at h
      cases h
      exact if_pos hx
    · rw [if_neg hx] at h
      cases h
  · next raw =>
    cases h
    show some (Cell.text _) = some (Cell.text _)
    cases hraw : safeString (.string raw) stringLengthLimit with
    | none => rfl
    | some s =>
      rw [Option.getD_some, safeString_again hraw]
      rfl
  · cases h

/-! ## Properties -/

theorem field_append_of_notMem {entries entries' : List (JsString × JsValue)} {key : JsString}
    (h : ∀ e ∈ entries', e.1 ≠ key) : field (entries ++ entries') key = field entries key := by
  have hnone : entries'.reverse.find? (fun e => decide (e.1 = key)) = none := by
    rw [List.find?_eq_none]
    intro e he htrue
    exact h e (List.mem_reverse.mp he) (of_decide_eq_true htrue)
  unfold field
  rw [List.reverse_append, List.find?_append, hnone, Option.none_or]

theorem field_append_of_some {entries entries' : List (JsString × JsValue)} {key : JsString} {value : JsValue}
    (h : (entries'.reverse.find? fun e => decide (e.1 = key)) = some (key, value)) :
    field (entries ++ entries') key = value := by
  unfold field
  rw [List.reverse_append, List.find?_append, h]
  rfl

theorem field_optional_ne {entries : List (JsString × JsValue)} {name : String} {value : Option JsValue}
    {key : JsString}
    (h : js name ≠ key) : field (entries ++ optional name value) key = field entries key := by
  apply field_append_of_notMem
  intro e he
  cases value with
  | none => cases he
  | some v =>
    rw [List.mem_singleton.mp he]
    exact h

theorem field_optional {entries : List (JsString × JsValue)} {name : String} {value : Option JsValue}
    (h : field entries (js name) = .undefined) :
    field (entries ++ optional name value) (js name) = value.getD .undefined := by
  cases value with
  | none =>
    show field (entries ++ []) (js name) = .undefined
    rw [List.append_nil, h]
  | some v =>
    apply field_append_of_some
    exact List.find?_cons_of_pos (decide_eq_true rfl)

theorem ownEntries_of_plain {entries : List (JsString × JsValue)} (h : Plain (.object .built true entries)) :
    ownEntries entries = entries := by
  cases h with
  | object keys parts =>
    unfold ownEntries
    rw [List.filter_eq_self]
    exact fun e he => decide_eq_true (keys e he)

theorem propertiesOf_of_plain {entries : List (JsString × JsValue)} (h : Plain (.object .built true entries)) :
    propertiesOf (.object .built true entries) = entries := ownEntries_of_plain h

/-! ## Series -/

def ChartSeries.entries (serie : ChartSeries) : List (JsString × JsValue) :=
  [(js "name", .string serie.name), (js "data", .array .built (serie.data.map .number))] ++
    optional "color" (serie.color.map .string) ++ optional "stack" (serie.stack.map .string)

/-- A series that is kept as it is. -/
structure ChartSeries.Settled (serie : ChartSeries) : Prop where
  safe : serie.Safe
  name : safeString (.string serie.name) stringLengthLimit = some serie.name
  drawn : serie.data ≠ []
  color : ∀ s ∈ serie.color, safeColor (.string s) = some s
  stack : ∀ s ∈ serie.stack, safeString (.string s) 40 = some s

theorem seriesOf_settled {raw : JsValue} {serie : ChartSeries} (h : seriesOf raw = some serie) : serie.Settled := by
  have hsafe : serie.Safe := sanitizeSeries_safe (Prod.ext h rfl)
  unfold seriesOf sanitizeSeries at h
  split at h
  · next entries =>
    dsimp only at h
    cases hname : safeString (field (ownEntries entries) (js "name")) stringLengthLimit with
    | none =>
      rw [hname] at h
      cases h
    | some name =>
      rw [hname] at h
      dsimp only at h
      split at h
      · next points _ =>
        by_cases hempty : (points.take dataPointsLimit).filterMap safeNumber = []
        · rw [if_pos hempty] at h
          cases h
        rw [if_neg hempty, Option.some.injEq] at h
        subst h
        exact ⟨hsafe, safeString_again hname, hempty, fun s hs => safeColor_again hs, fun s hs => safeString_again hs⟩
      · cases h
  · cases h

theorem ChartSeries.Settled.cut {serie : ChartSeries} (settled : serie.Settled) {n : Nat} (hn : n ≠ 0) :
    (serie.cut n).Settled where
  safe := settled.safe.take n
  name := settled.name
  drawn := by
    show serie.data.take n ≠ []
    rw [Ne, List.take_eq_nil_iff, not_or]
    exact ⟨hn, settled.drawn⟩
  color := settled.color
  stack := settled.stack

/-- Parts that are read as they were written. -/
theorem filterMap_again {α β : Type} {read : β → Option α} {write : α → β} {items : List α}
    (h : ∀ item ∈ items, read (write item) = some item) : (items.map write).filterMap read = items := by
  rw [List.filterMap_map]
  have hkeep : ∀ item ∈ items, (read ∘ write) item = some item := h
  rw [List.filterMap_congr hkeep, List.filterMap_some]

/-- A text property that is read as it was written. -/
theorem read_optional {value : Option JsString} {read : JsValue → Option JsString} (hnone : read .undefined = none)
    (h : ∀ s ∈ value, read (.string s) = some s) : read ((value.map JsValue.string).getD .undefined) = value := by
  cases value with
  | none => exact hnone
  | some s => exact h s rfl

theorem seriesOf_object {origin : Origin} {entries : List (JsString × JsValue)} {name : JsString}
    {data : List JsNumber}
    (hname : safeString (field (ownEntries entries) (js "name")) stringLengthLimit = some name)
    (hdata : field (ownEntries entries) (js "data") = .array .built (data.map .number))
    (hkeep : ((data.map JsValue.number).take dataPointsLimit).filterMap safeNumber = data) (hdrawn : data ≠ []) :
    seriesOf (.object origin true entries) = some {
      name := name
      data := data
      color := safeColor (field (ownEntries entries) (js "color"))
      stack := safeString (field (ownEntries entries) (js "stack")) 40 } := by
  unfold seriesOf sanitizeSeries
  dsimp only
  rw [hname, hdata]
  dsimp only
  rw [hkeep, if_neg hdrawn]

theorem ChartSeries.Settled.again {serie : ChartSeries} (settled : serie.Settled) :
    seriesOf serie.toJs = some serie := by
  have hown : ownEntries serie.entries = serie.entries := ownEntries_of_plain settled.safe.plain
  have hname : field serie.entries (js "name") = .string serie.name := by
    simp (disch := decide) only [ChartSeries.entries, field_optional_ne]
    rfl
  have hdata : field serie.entries (js "data") = .array .built (serie.data.map .number) := by
    simp (disch := decide) only [ChartSeries.entries, field_optional_ne]
    rfl
  have hcolor : field serie.entries (js "color") = (serie.color.map JsValue.string).getD .undefined := by
    simp (disch := decide) only [ChartSeries.entries, field_optional_ne]
    exact field_optional rfl
  have hstack : field serie.entries (js "stack") = (serie.stack.map JsValue.string).getD .undefined := by
    refine field_optional ?_
    simp (disch := decide) only [field_optional_ne]
    rfl
  have hkeep : ((serie.data.map JsValue.number).take dataPointsLimit).filterMap safeNumber = serie.data := by
    rw [List.take_of_length_le (by rw [List.length_map]; exact settled.safe.points)]
    exact filterMap_again fun x hx => if_pos (settled.safe.finite x hx)
  show seriesOf (.object .built true serie.entries) = some serie
  rw [seriesOf_object (by rw [hown, hname]; exact settled.name) (by rw [hown, hdata]) hkeep settled.drawn,
    hown, hcolor,
    hstack, read_optional rfl settled.color]
  rw [@read_optional serie.stack (fun value => safeString value 40) rfl settled.stack]

/-! ## Tables -/

def ChartColumn.entries (column : ChartColumn) : List (JsString × JsValue) :=
  [(js "key", .string column.key), (js "title", .string column.title)] ++
    optional "align" (column.align.map fun align => .string align.value)

theorem sanitizeColumn_again {raw : JsValue} {column : ChartColumn} (h : sanitizeColumn raw = some column) :
    sanitizeColumn column.toJs = some column := by
  have hown : ownEntries column.entries = column.entries := ownEntries_of_plain (sanitizeColumn_safe h).plain
  have hkey : field column.entries (js "key") = .string column.key := by
    simp (disch := decide) only [ChartColumn.entries, field_optional_ne]
    rfl
  have htitle : field column.entries (js "title") = .string column.title := by
    simp (disch := decide) only [ChartColumn.entries, field_optional_ne]
    rfl
  have halign : field column.entries (js "align") =
      (column.align.map fun align => JsValue.string align.value).getD .undefined := field_optional rfl
  have hread : sanitizeAlign ((column.align.map fun align => JsValue.string align.value).getD .undefined) =
      column.align := by
    cases column.align with
    | none => rfl
    | some align => cases align <;> rfl
  unfold sanitizeColumn at h
  split at h
  · dsimp only at h
    split at h
    · next key title hkeyText htitleText =>
      have hkey' : safeString (.string column.key) 60 = some column.key := by
        cases h
        exact safeString_again hkeyText
      have htitle' : safeString (.string column.title) 60 = some column.title := by
        cases h
        exact safeString_again htitleText
      show sanitizeColumn (.object .built true column.entries) = some column
      unfold sanitizeColumn
      dsimp only
      rw [hown, hkey, htitle, halign, hkey', htitle', hread]
    · cases h
  · cases h

/-- By induction on the properties of the raw row. -/
theorem foldl_writeCell_again {allowed : List JsString} (entries : List (JsString × JsValue))
    {row : Dict JsString Cell}
    (settled : ∀ e ∈ row.entries, sanitizeCell e.2.toJs = some e.2) :
    ∀ e ∈ (entries.foldl (writeCell allowed) row).entries, sanitizeCell e.2.toJs = some e.2 := by
  induction entries generalizing row with
  | nil => exact settled
  | cons entry rest ih =>
    apply ih
    unfold writeCell
    by_cases hallowed : entry.1 ∈ allowed
    · rw [if_pos hallowed]
      cases hcell : sanitizeCell entry.2 with
      | none => exact settled
      | some cell =>
        intro e he
        rcases Dict.mem_set.mp he with rfl | ⟨he, -⟩
        · exact sanitizeCell_again hcell
        · exact settled e he
    · rw [if_neg hallowed]
      exact settled

/-- Cells under declared keys are written back in their order. -/
theorem foldl_writeCell_entries {allowed : List JsString} {row : Dict JsString Cell}
    (hkeys : ∀ e ∈ row.entries, e.1 ∈ allowed) (hcells : ∀ e ∈ row.entries, sanitizeCell e.2.toJs = some e.2) :
    (row.entries.map fun e => (e.1, e.2.toJs)).foldl (writeCell allowed) Dict.empty = row := by
  have hwrite : ∀ (d : Dict JsString Cell), ∀ e ∈ row.entries, writeCell allowed d (e.1, e.2.toJs) =
    d.set e.1 e.2 := by
    intro d e he
    unfold writeCell
    rw [if_pos (hkeys e he), hcells e he]
  rw [List.foldl_map, List.foldl_ext _ _ _ hwrite]
  exact Dict.ext_entries (Dict.entries_ofList row.nodup)

theorem sanitizeRow_again {allowed : List JsString} {raw : JsValue} {row : Dict JsString Cell}
    (h : sanitizeRow allowed raw = some row) : sanitizeRow allowed (rowToJs row) = some row := by
  have hsafe := sanitizeRow_safe h
  have hown := ownEntries_of_plain hsafe.plain
  have hcells : ∀ e ∈ row.entries, sanitizeCell e.2.toJs = some e.2 := by
    unfold sanitizeRow at h
    split at h
    · cases h
      exact foldl_writeCell_again _ fun e he => nomatch he
    · cases h
  unfold rowToJs sanitizeRow
  dsimp only
  rw [hown, foldl_writeCell_entries (fun e he => (hsafe e he).1) hcells]

/-! ## The header -/

/-- Texts of a header that are kept as they are. -/
structure ChartSpec.Settled (spec : ChartSpec) : Prop where
  safe : spec.Safe
  title : ∀ s ∈ spec.title, safeString (.string s) stringLengthLimit = some s
  subtitle : ∀ s ∈ spec.subtitle, safeString (.string s) stringLengthLimit = some s
  valueUnit : ∀ s ∈ spec.valueUnit, safeString (.string s) 20 = some s
  footnote : ∀ s ∈ spec.footnote, safeString (.string s) stringLengthLimit = some s

/-- The properties of a chart, in their order. -/
def ChartSpec.entries (spec : ChartSpec) : List (JsString × JsValue) :=
  [(js "kind", .string spec.kind.value), (js "series", .array .built (spec.series.map (·.toJs)))] ++
    optional "title" (spec.title.map .string) ++
    optional "subtitle" (spec.subtitle.map .string) ++
    optional "value_unit" (spec.valueUnit.map .string) ++
    optional "footnote" (spec.footnote.map .string) ++
    optional "money" (if spec.money then some (.bool true) else none) ++
    optional "columns" (spec.columns.map fun columns => .array .built (columns.map (·.toJs))) ++
    optional "rows" (spec.rows.map fun rows => .array .built (rows.map rowToJs)) ++
    optional "categories" (spec.categories.map fun categories => .array .built (categories.map .string))

attribute [local simp] ChartSpec.entries

theorem entries_kind (spec : ChartSpec) : field spec.entries (js "kind") = .string spec.kind.value := by
  simp (disch := decide) only [ChartSpec.entries, field_optional_ne]
  rfl

theorem entries_series (spec : ChartSpec) :
    field spec.entries (js "series") = .array .built (spec.series.map (·.toJs)) := by
  simp (disch := decide) only [ChartSpec.entries, field_optional_ne]
  rfl

theorem entries_title (spec : ChartSpec) :
    field spec.entries (js "title") = (spec.title.map JsValue.string).getD .undefined := by
  simp (disch := decide) only [ChartSpec.entries, field_optional_ne]
  exact field_optional rfl

theorem entries_subtitle (spec : ChartSpec) :
    field spec.entries (js "subtitle") = (spec.subtitle.map JsValue.string).getD .undefined := by
  simp (disch := decide) only [ChartSpec.entries, field_optional_ne]
  apply field_optional
  simp (disch := decide) only [field_optional_ne]
  rfl

theorem entries_valueUnit (spec : ChartSpec) :
    field spec.entries (js "value_unit") = (spec.valueUnit.map JsValue.string).getD .undefined := by
  simp (disch := decide) only [ChartSpec.entries, field_optional_ne]
  apply field_optional
  simp (disch := decide) only [field_optional_ne]
  rfl

theorem entries_footnote (spec : ChartSpec) :
    field spec.entries (js "footnote") = (spec.footnote.map JsValue.string).getD .undefined := by
  simp (disch := decide) only [ChartSpec.entries, field_optional_ne]
  apply field_optional
  simp (disch := decide) only [field_optional_ne]
  rfl

theorem entries_money (spec : ChartSpec) :
    field spec.entries (js "money") = (if spec.money then some (JsValue.bool true) else none).getD .undefined := by
  simp (disch := decide) only [ChartSpec.entries, field_optional_ne]
  apply field_optional
  simp (disch := decide) only [field_optional_ne]
  rfl

theorem entries_columns (spec : ChartSpec) :
    field spec.entries (js "columns") = (spec.columns.map fun columns => JsValue.array .built
      (columns.map (·.toJs))).getD .undefined := by
  simp (disch := decide) only [ChartSpec.entries, field_optional_ne]
  apply field_optional
  simp (disch := decide) only [field_optional_ne]
  rfl

theorem entries_rows (spec : ChartSpec) :
    field spec.entries (js "rows") = (spec.rows.map fun rows => JsValue.array .built
      (rows.map rowToJs)).getD .undefined := by
  simp (disch := decide) only [ChartSpec.entries, field_optional_ne]
  apply field_optional
  simp (disch := decide) only [field_optional_ne]
  rfl

theorem entries_categories (spec : ChartSpec) :
    field spec.entries (js "categories") = (spec.categories.map fun categories => JsValue.array .built
      (categories.map .string)).getD .undefined := by
  unfold ChartSpec.entries
  apply field_optional
  simp (disch := decide) only [field_optional_ne]
  rfl

theorem specHeader_settled (fields : List (JsString × JsValue)) (kind : ChartKind) :
    (specHeader fields kind).Settled where
  safe := specHeader_safe fields kind
  title _ h := safeString_again h
  subtitle _ h := safeString_again h
  valueUnit _ h := safeString_again h
  footnote _ h := safeString_again h

theorem ChartSpec.Settled.header {spec : ChartSpec} (settled : spec.Settled) : specHeader spec.entries spec.kind =
    { spec with series := [], columns := none, rows := none, categories := none } := by
  have hmoney : (specHeader spec.entries spec.kind).money = spec.money := by
    unfold specHeader
    dsimp only
    rw [entries_money]
    cases spec.money <;> rfl
  have htitle : (specHeader spec.entries spec.kind).title = spec.title := by
    unfold specHeader
    rw [entries_title, @read_optional spec.title (fun value => safeString value stringLengthLimit) rfl settled.title]
  have hsubtitle : (specHeader spec.entries spec.kind).subtitle = spec.subtitle := by
    unfold specHeader
    rw [entries_subtitle,
      @read_optional spec.subtitle (fun value => safeString value stringLengthLimit) rfl settled.subtitle]
  have hunit : (specHeader spec.entries spec.kind).valueUnit = spec.valueUnit := by
    unfold specHeader
    rw [entries_valueUnit, @read_optional spec.valueUnit (fun value => safeString value 20) rfl settled.valueUnit]
  have hfootnote : (specHeader spec.entries spec.kind).footnote = spec.footnote := by
    unfold specHeader
    rw [entries_footnote,
      @read_optional spec.footnote (fun value => safeString value stringLengthLimit) rfl settled.footnote]
  calc specHeader spec.entries spec.kind
      = { kind := spec.kind
          title := (specHeader spec.entries spec.kind).title
          subtitle := (specHeader spec.entries spec.kind).subtitle
          valueUnit := (specHeader spec.entries spec.kind).valueUnit
          footnote := (specHeader spec.entries spec.kind).footnote
          money := (specHeader spec.entries spec.kind).money } := rfl
    _ = { spec with series := [], columns := none, rows := none, categories := none } := by
        rw [htitle, hsubtitle, hunit, hfootnote, hmoney]

theorem sanitizeChartSpec_entries {spec : ChartSpec} (settled : spec.Settled) : sanitizeChartSpec spec.toJs =
    if spec.kind = .table then
      sanitizeTable spec.entries { spec with series := [], columns := none, rows := none, categories := none }
    else sanitizeChart spec.entries { spec with series := [], columns := none, rows := none, categories :=
      none } := by
  have hown : ownEntries spec.entries = spec.entries := ownEntries_of_plain settled.safe.plain
  have hfind : (chartKinds.find? fun k => decide (k.value = spec.kind.value)) = some spec.kind := by
    cases spec.kind <;> rfl
  have hkind : spec.kind.value ≠ [] := by cases spec.kind <;> decide
  show sanitizeChartSpec (.object .built true spec.entries) = _
  unfold sanitizeChartSpec
  dsimp only
  rw [hown, entries_kind]
  dsimp only
  rw [if_neg hkind, hfind]
  dsimp only
  rw [settled.header]

theorem sanitizeTable_of {fields : List (JsString × JsValue)} {rawColumns rawRows : List JsValue}
    {columns : List ChartColumn} (spec : ChartSpec)
    (hcolumns : field fields (js "columns") = .array .built rawColumns)
    (hrows : field fields (js "rows") = .array .built rawRows)
    (hread : (rawColumns.take columnsLimit).filterMap sanitizeColumn = columns) (hne : columns ≠ []) :
    ∃ warnings, sanitizeTable fields spec = .ok { spec with
      columns := some columns
      rows := some ((rawRows.take tableRowsLimit).filterMap (sanitizeRow (columns.map (·.key)))) } warnings := by
  unfold sanitizeTable
  rw [hcolumns]
  dsimp only
  rw [hread, if_neg fun hlength => hne (List.length_eq_zero_iff.mp hlength), hrows]
  exact ⟨_, rfl⟩

/-- What is read of the series is drawn and aligned; without any the chart is refused. -/
theorem sanitizeChart_of {fields : List (JsString × JsValue)} {raws : List JsValue} (spec : ChartSpec)
    (hraws : field fields (js "series") = .array .built raws) :
    if (raws.take seriesLimit).filterMap seriesOf = [] then
      ∃ reason warnings, sanitizeChart fields spec = .refused reason warnings
    else ∃ warnings, sanitizeChart fields spec = .ok (ChartSpec.aligned { spec with
      categories := (sanitizeCategories (field fields (js "categories"))).1
      series := if spec.kind = .pie ∨ spec.kind = .gauge then ((raws.take seriesLimit).filterMap seriesOf).take 1
        else (raws.take seriesLimit).filterMap seriesOf }) warnings := by
  unfold sanitizeChart
  dsimp only
  rw [hraws]
  dsimp only
  rw [sanitizeAllSeries_fst]
  by_cases hempty : (raws.take seriesLimit).filterMap seriesOf = []
  · rw [if_pos hempty, if_pos (List.length_eq_zero_iff.mpr hempty)]
    exact ⟨_, _, rfl⟩
  · rw [if_neg hempty, if_neg fun hlength => hempty (List.length_eq_zero_iff.mp hlength), alignCategories_fst,
      singleSeries_fst]
    exact ⟨_, rfl⟩

/-! ## Charts -/

theorem mostPoints_cut (spec : ChartSpec) (n : Nat) :
    ChartSpec.mostPoints { spec with series := spec.series.map (ChartSeries.cut n) } = min n spec.mostPoints := by
  refine eq_of_forall_ge_iff fun c => ?_
  unfold ChartSpec.mostPoints
  rw [longest_le_iff, min_le_iff, longest_le_iff]
  simp only [List.map_map, List.forall_mem_map, Function.comp_apply, ChartSeries.cut, List.length_take, min_le_iff]
  constructor
  · intro hall
    by_cases hn : n ≤ c
    · exact .inl hn
    · exact .inr fun serie hserie => (hall serie hserie).resolve_left hn
  · intro hor serie hserie
    exact hor.imp id fun hall => hall serie hserie

theorem aligned_of_some {spec : ChartSpec} {labels : List JsString} (h : spec.categories = some labels) :
    spec.aligned = { spec with
      categories := some (labels.take (min labels.length spec.mostPoints))
      series := spec.series.map (ChartSeries.cut (min labels.length spec.mostPoints)) } := by
  unfold ChartSpec.aligned
  rw [h]

theorem aligned_of_none {spec : ChartSpec} (h : spec.categories = none) : spec.aligned = spec := by
  unfold ChartSpec.aligned
  rw [h]

theorem cut_cut (n : Nat) (serie : ChartSeries) : (serie.cut n).cut n = serie.cut n := by
  unfold ChartSeries.cut
  rw [List.take_take, min_self]

/-- A chart that is aligned stays as it is. -/
theorem aligned_aligned (spec : ChartSpec) : spec.aligned.aligned = spec.aligned := by
  cases hcategories : spec.categories with
  | none => rw [aligned_of_none hcategories, aligned_of_none hcategories]
  | some labels =>
    rw [aligned_of_some hcategories]
    generalize hn : min labels.length spec.mostPoints = n
    have hcount : (labels.take n).length = n := by
      rw [List.length_take]
      exact min_eq_left (hn ▸ min_le_left _ _)
    have hmost : ChartSpec.mostPoints { spec with
        categories := some (labels.take n), series := spec.series.map (ChartSeries.cut n) } = n :=
      (mostPoints_cut spec n).trans (min_eq_left (hn ▸ min_le_right _ _))
    rw [aligned_of_some rfl, hmost, hcount, min_self]
    dsimp only
    rw [List.take_take, min_self, List.map_map]
    have hcut : ChartSeries.cut n ∘ ChartSeries.cut n = ChartSeries.cut n := funext fun serie => cut_cut n serie
    rw [hcut]

theorem mostPoints_ne_zero {spec : ChartSpec} (hne : spec.series ≠ [])
    (settled : ∀ serie ∈ spec.series, serie.Settled) : spec.mostPoints ≠ 0 := by
  intro hzero
  obtain ⟨serie, hserie⟩ := List.exists_mem_of_ne_nil _ hne
  have hlength := longest_le_iff.mp hzero.le serie.data.length (List.mem_map_of_mem hserie)
  exact (settled serie hserie).drawn (List.length_eq_zero_iff.mp (Nat.le_zero.mp hlength))

theorem aligned_settled {spec : ChartSpec} (hne : spec.series ≠ []) (settled : ∀ serie ∈ spec.series, serie.Settled)
    (hlabels : spec.categories ≠ some []) : ∀ serie ∈ spec.aligned.series, serie.Settled := by
  cases hcategories : spec.categories with
  | none =>
    rw [aligned_of_none hcategories]
    exact settled
  | some labels =>
    rw [aligned_of_some hcategories]
    intro serie hserie
    obtain ⟨serie, hmem, rfl⟩ := List.mem_map.mp hserie
    refine (settled serie hmem).cut ?_
    rw [Ne, Nat.min_eq_zero_iff, not_or]
    refine ⟨fun hlength => hlabels ?_, mostPoints_ne_zero hne settled⟩
    rw [hcategories, List.length_eq_zero_iff.mp hlength]

theorem aligned_undrawn {spec : ChartSpec} (hlabels : spec.categories = some []) :
    ∀ serie ∈ spec.aligned.series, serie.data = [] := by
  rw [aligned_of_some hlabels, List.length_nil, Nat.zero_min]
  intro serie hserie
  obtain ⟨whole, -, rfl⟩ := List.mem_map.mp hserie
  exact @List.take_zero JsNumber whole.data

/-- A series without points is dropped. -/
theorem seriesOf_undrawn {serie : ChartSeries} (safe : serie.Safe) (h : serie.data = []) :
    seriesOf serie.toJs = none := by
  have hown : ownEntries serie.entries = serie.entries := ownEntries_of_plain safe.plain
  have hdata : field serie.entries (js "data") = .array .built [] := by
    simp (disch := decide) only [ChartSeries.entries, field_optional_ne]
    rw [h]
    rfl
  show seriesOf (.object .built true serie.entries) = none
  unfold seriesOf sanitizeSeries
  dsimp only
  rw [hown, hdata]
  cases safeString (field serie.entries (js "name")) stringLengthLimit <;> rfl

/-- Labels that are read as they were written. -/
theorem categories_again {spec : ChartSpec} (hcount : ∀ labels ∈ spec.categories, labels.length ≤ categoriesLimit)
    (hlabels : ∀ labels ∈ spec.categories, ∀ s ∈ labels, (safeString (.string s) 80).getD [] = s) :
    (sanitizeCategories (field spec.entries (js "categories"))).1 = spec.categories := by
  rw [sanitizeCategories_fst, entries_categories]
  cases hcategories : spec.categories with
  | none => rfl
  | some labels =>
    rw [hcategories] at hcount hlabels
    have hread : ∀ s ∈ labels, ((fun raw => (safeString raw 80).getD []) ∘ JsValue.string) s = id s :=
      hlabels labels rfl
    show some (((labels.map JsValue.string).take categoriesLimit).map fun raw => (safeString raw 80).getD []) =
      some labels
    rw [List.take_of_length_le (by rw [List.length_map]; exact hcount labels rfl), List.map_map,
      List.map_congr_left hread, List.map_id]

theorem sanitize_chart_again {spec : ChartSpec} (settled : spec.Settled) (htable : spec.kind ≠ .table)
    (hcolumns : spec.columns = none) (hrows : spec.rows = none) (haligned : spec.aligned = spec)
    (hlabels : ∀ labels ∈ spec.categories, ∀ s ∈ labels, (safeString (.string s) 80).getD [] = s)
    (hone : spec.kind = .pie ∨ spec.kind = .gauge → spec.series.length ≤ 1) (hne : spec.series ≠ [])
    (hseries : ∀ serie ∈ spec.series, serie.Settled) :
    ∃ warnings, sanitizeChartSpec spec.toJs = .ok spec warnings := by
  rw [sanitizeChartSpec_entries settled, if_neg htable]
  have hread : ((spec.series.map (·.toJs)).take seriesLimit).filterMap seriesOf = spec.series := by
    rw [List.take_of_length_le (by rw [List.length_map]; exact settled.safe.seriesCount)]
    exact filterMap_again fun serie hserie => (hseries serie hserie).again
  have hchart := sanitizeChart_of { spec with series := [], columns := none, rows := none, categories := none }
    (entries_series spec)
  rw [hread, if_neg hne, categories_again settled.safe.categoriesCount hlabels] at hchart
  obtain ⟨warnings, hok⟩ := hchart
  refine ⟨warnings, hok.trans ?_⟩
  have hdrawn : (if spec.kind = .pie ∨ spec.kind = .gauge then spec.series.take 1 else spec.series) =
    spec.series := by
    by_cases hkind : spec.kind = .pie ∨ spec.kind = .gauge
    · rw [if_pos hkind, List.take_of_length_le (hone hkind)]
    · rw [if_neg hkind]
  congr 1
  calc ChartSpec.aligned { spec with
        columns := none
        rows := none
        series := if spec.kind = .pie ∨ spec.kind = .gauge then spec.series.take 1 else spec.series }
      = spec.aligned := by rw [hdrawn, ← hcolumns, ← hrows]
    _ = spec := haligned

/-- A chart whose series have no points is refused. -/
theorem sanitize_chart_refused {spec : ChartSpec} (settled : spec.Settled) (htable : spec.kind ≠ .table)
    (hseries : ∀ serie ∈ spec.series, serie.data = []) :
    ∃ reason warnings, sanitizeChartSpec spec.toJs = .refused reason warnings := by
  rw [sanitizeChartSpec_entries settled, if_neg htable]
  have hread : ((spec.series.map (·.toJs)).take seriesLimit).filterMap seriesOf = [] := by
    rw [List.filterMap_eq_nil_iff]
    intro raw hraw
    obtain ⟨serie, hserie, rfl⟩ := List.mem_map.mp (List.mem_of_mem_take hraw)
    exact seriesOf_undrawn (settled.safe.series serie hserie) (hseries serie hserie)
  have hchart := sanitizeChart_of { spec with series := [], columns := none, rows := none, categories := none }
    (entries_series spec)
  rwa [if_pos hread] at hchart

theorem sanitize_table_again {fields : List (JsString × JsValue)} {spec : ChartSpec} {warnings : List JsString}
    (h : sanitizeTable fields (specHeader fields .table) = .ok spec warnings) :
    ∃ warnings', sanitizeChartSpec spec.toJs = .ok spec warnings' := by
  obtain ⟨rawColumns, rawRows, columns, -, -, hcolumns, hne, hspec⟩ := sanitizeTable_ok h
  have header := specHeader_settled fields .table
  have safe := sanitizeTable_safe header.safe h
  have settled : spec.Settled := by
    rw [hspec] at safe ⊢
    exact ⟨safe, header.title, header.subtitle, header.valueUnit, header.footnote⟩
  have hreadColumns : ((columns.map (·.toJs)).take columnsLimit).filterMap sanitizeColumn = columns := by
    rw [List.take_of_length_le]
    · refine filterMap_again fun column hcolumn => ?_
      rw [hcolumns] at hcolumn
      obtain ⟨raw, -, hraw⟩ := List.mem_filterMap.mp hcolumn
      exact sanitizeColumn_again hraw
    · rw [List.length_map, hcolumns]
      exact (List.length_filterMap_le _ _).trans (List.length_take_le _ _)
  have hreadRows : (((rawRows.take tableRowsLimit).filterMap (sanitizeRow (columns.map (·.key)))).map rowToJs |>.take
      tableRowsLimit).filterMap (sanitizeRow (columns.map (·.key))) =
      (rawRows.take tableRowsLimit).filterMap (sanitizeRow (columns.map (·.key))) := by
    rw [List.take_of_length_le]
    · refine filterMap_again fun row hrow => ?_
      obtain ⟨raw, -, hraw⟩ := List.mem_filterMap.mp hrow
      exact sanitizeRow_again hraw
    · rw [List.length_map]
      exact (List.length_filterMap_le _ _).trans (List.length_take_le _ _)
  have htable : spec.kind = .table := by
    rw [hspec]
    rfl
  rw [sanitizeChartSpec_entries settled, if_pos htable]
  have hfieldColumns : field spec.entries (js "columns") = .array .built (columns.map (·.toJs)) := by
    rw [entries_columns, hspec]
    rfl
  have hfieldRows : field spec.entries (js "rows") = .array .built
      (((rawRows.take tableRowsLimit).filterMap (sanitizeRow (columns.map (·.key)))).map rowToJs) := by
    rw [entries_rows, hspec]
    rfl
  have htableOk := sanitizeTable_of { spec with series := [], columns := none, rows := none, categories := none }
    hfieldColumns hfieldRows hreadColumns hne
  obtain ⟨warnings', hok⟩ := htableOk
  refine ⟨warnings', hok.trans ?_⟩
  rw [hreadRows, hspec]
  rfl

/-! ## Stability -/

theorem aligned_header (spec : ChartSpec) :
    spec.aligned = { spec with categories := spec.aligned.categories, series := spec.aligned.series } := by
  cases hcategories : spec.categories with
  | none => rw [aligned_of_none hcategories]
  | some labels => rw [aligned_of_some hcategories]

theorem labelled_of_chart {input : JsValue} {kind : ChartKind} (hkind : ∀ k, hasKind input k = decide (k = kind))
    (htable : kind ≠ .table) :
    (sanitizeCategories (field (propertiesOf input) (js "categories"))).1 =
      (labelled input).map fun raws => raws.map fun raw => (safeString raw 80).getD [] := by
  unfold labelled
  rw [sanitizeCategories_fst, hkind, if_neg fun htrue => htable (of_decide_eq_true htrue).symm, Option.map_map]
  rfl

/-- What a chart is before it is aligned. -/
structure Drawable (spec : ChartSpec) : Prop where
  header : ∃ fields, { specHeader fields spec.kind with categories := spec.categories, series := spec.series } = spec
  drawn : spec.series ≠ []
  series : ∀ serie ∈ spec.series, serie.Settled
  single : spec.kind = .pie ∨ spec.kind = .gauge → spec.series.length ≤ 1
  labels : ∀ labels ∈ spec.categories, ∀ s ∈ labels, (safeString (.string s) 80).getD [] = s

theorem Drawable.settled {spec : ChartSpec} (drawable : Drawable spec) (safe : spec.aligned.Safe) :
    spec.aligned.Settled := by
  obtain ⟨fields, hfields⟩ := drawable.header
  have header := specHeader_settled fields spec.kind
  rw [aligned_header, ← hfields] at safe ⊢
  exact ⟨safe, header.title, header.subtitle, header.valueUnit, header.footnote⟩

theorem Drawable.single_aligned {spec : ChartSpec} (drawable : Drawable spec) :
    spec.kind = .pie ∨ spec.kind = .gauge → spec.aligned.series.length ≤ 1 := by
  intro hkind
  cases hcategories : spec.categories with
  | none =>
    rw [aligned_of_none hcategories]
    exact drawable.single hkind
  | some labels =>
    rw [aligned_of_some hcategories]
    show (spec.series.map _).length ≤ 1
    rw [List.length_map]
    exact drawable.single hkind

theorem Drawable.labels_aligned {spec : ChartSpec} (drawable : Drawable spec) :
    ∀ labels ∈ spec.aligned.categories, ∀ s ∈ labels, (safeString (.string s) 80).getD [] = s := by
  cases hcategories : spec.categories with
  | none =>
    rw [aligned_of_none hcategories]
    exact drawable.labels
  | some labels =>
    rw [aligned_of_some hcategories]
    intro labels' hlabels' s hs
    obtain rfl : _ = labels' := Option.some.inj hlabels'
    exact drawable.labels labels hcategories s (List.mem_of_mem_take hs)

theorem Drawable.drawn_aligned {spec : ChartSpec} (drawable : Drawable spec) : spec.aligned.series ≠ [] := by
  cases hcategories : spec.categories with
  | none =>
    rw [aligned_of_none hcategories]
    exact drawable.drawn
  | some labels =>
    rw [aligned_of_some hcategories]
    exact fun hnil => drawable.drawn (List.map_eq_nil_iff.mp hnil)

theorem Drawable.again_iff {spec : ChartSpec} (drawable : Drawable spec) (safe : spec.aligned.Safe)
    (htable : spec.kind ≠ .table) :
    (∃ warnings, sanitizeChartSpec spec.aligned.toJs = .ok spec.aligned warnings) ↔ spec.categories ≠ some [] := by
  have settled := drawable.settled safe
  have hkind : spec.aligned.kind = spec.kind := by rw [aligned_header]
  constructor
  · rintro ⟨warnings, hok⟩ hlabels
    obtain ⟨reason, warnings', hrefused⟩ :=
      sanitize_chart_refused settled (hkind.trans_ne htable) (aligned_undrawn hlabels)
    rw [hrefused] at hok
    cases hok
  · intro hlabels
    obtain ⟨fields, hfields⟩ := drawable.header
    have hcolumns : spec.aligned.columns = none := by rw [aligned_header, ← hfields]; rfl
    have hrows : spec.aligned.rows = none := by rw [aligned_header, ← hfields]; rfl
    have hseries := aligned_settled drawable.drawn drawable.series hlabels
    refine sanitize_chart_again settled (hkind.trans_ne htable) hcolumns hrows (aligned_aligned spec)
      drawable.labels_aligned ?_ drawable.drawn_aligned hseries
    rw [hkind]
    exact drawable.single_aligned

/-- A chart is accepted again, unchanged, exactly if it is a table or its input did not have an empty array of
categories. -/
theorem stable_iff {input : JsValue} {spec : ChartSpec} {warnings : List JsString}
    (h : sanitizeChartSpec input = .ok spec warnings) :
    (∃ warnings', sanitizeChartSpec spec.toJs = .ok spec warnings') ↔ labelled input ≠ some [] := by
  have safe := sanitizeChartSpec_ok h
  obtain ⟨kind, hkind, hbranch⟩ := sanitizeChartSpec_kind h
  by_cases htable : kind = .table
  · rw [htable, if_pos rfl] at hbranch
    have hlabelled : labelled input = none := if_pos (by rw [hkind]; exact decide_eq_true htable.symm)
    rw [hlabelled]
    exact iff_of_true (sanitize_table_again hbranch) fun hsome => nomatch hsome
  rw [if_neg htable] at hbranch
  obtain ⟨raws, series, -, hread, hne, hspec⟩ := sanitizeChart_ok hbranch
  rw [labelled_of_chart hkind htable] at hspec
  have hsettled : ∀ serie ∈ series, serie.Settled := by
    intro serie hserie
    rw [hread] at hserie
    obtain ⟨raw, -, hraw⟩ := List.mem_filterMap.mp hserie
    exact seriesOf_settled hraw
  have hempty : ((labelled input).map fun raws => raws.map fun raw => (safeString raw 80).getD []) = some [] ↔
      labelled input = some [] := by
    cases labelled input with
    | none => exact iff_of_false (fun hsome => nomatch hsome) fun hsome => nomatch hsome
    | some raws =>
      rw [Option.map_some, Option.some.injEq, Option.some.injEq, List.map_eq_nil_iff]
  have hlabels : ∀ labels ∈ (labelled input).map fun raws => raws.map fun raw => (safeString raw 80).getD [],
      ∀ s ∈ labels, (safeString (.string s) 80).getD [] = s := by
    intro labels hlabels s hs
    obtain ⟨raws, -, rfl⟩ := Option.mem_map.mp hlabels
    obtain ⟨raw, -, rfl⟩ := List.mem_map.mp hs
    exact label_again raw
  rw [hspec] at safe ⊢
  rw [Ne, ← hempty]
  by_cases hone : kind = .pie ∨ kind = .gauge
  · have hfirst : series.take 1 ≠ [] := by
      rw [Ne, List.take_eq_nil_iff, not_or]
      exact ⟨one_ne_zero, hne⟩
    have hseries : (if kind = .pie ∨ kind = .gauge then series.take 1 else series) = series.take 1 := if_pos hone
    refine Drawable.again_iff ⟨⟨propertiesOf input, rfl⟩, ?_, ?_, fun _ => ?_, hlabels⟩ safe htable
    · exact (congrArg (· ≠ []) hseries).mpr hfirst
    · intro serie hserie
      exact hsettled serie (List.mem_of_mem_take (hseries ▸ hserie))
    · exact (congrArg List.length hseries).trans_le (List.length_take_le _ _)
  · have hseries : (if kind = .pie ∨ kind = .gauge then series.take 1 else series) = series := if_neg hone
    refine Drawable.again_iff ⟨⟨propertiesOf input, rfl⟩, ?_, ?_, fun hkind => absurd hkind hone, hlabels⟩ safe htable
    · exact (congrArg (· ≠ []) hseries).mpr hne
    · intro serie hserie
      exact hsettled serie (hseries ▸ hserie)

theorem stable_iff_steady : ∃ spec warnings, sanitizeChartSpec steadyChart = .ok spec warnings ∧
    ((∃ warnings', sanitizeChartSpec spec.toJs = .ok spec warnings') ↔ labelled steadyChart ≠ some []) :=
  ⟨_, _, rfl, stable_iff rfl⟩

/-- A line chart of one number with an empty array of categories. -/
def unlabelledChart : JsValue :=
  .object .given true [
    (js "kind", .string (js "line")),
    (js "categories", .array .given []),
    (js "series", .array .given [.object .given true [
      (js "name", .string (js "Sales")),
      (js "data", .array .given [.number (.finite 1 0)])]])]

/-- It is accepted with a series that has no points, and refused when it comes back. -/
theorem unlabelledChart_refused : ∃ spec warnings, sanitizeChartSpec unlabelledChart = .ok spec warnings ∧
    spec.series.map ChartSeries.data = [[]] ∧
    ∃ reason warnings', sanitizeChartSpec spec.toJs = .refused reason warnings' :=
  ⟨_, _, rfl, rfl, _, _, rfl⟩

end NovaCommerce.Frontend
