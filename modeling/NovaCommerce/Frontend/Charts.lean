import NovaCommerce.Lib.Dict
import NovaCommerce.Lib.Js

/-!
# Chart specs

`sanitizeChartSpec` rebuilds an untrusted chart. A `ChartSpec` holds strings, numbers and booleans only, and every
array and object of it is built here (`ChartSpec.toJs`).

* `safeString`, `safeNumber`, `safeColor` : the field sanitisers;
* `ChartSpec.Safe` : the caps and the content of a rebuilt chart (`sanitizeChartSpec_safe`).
-/

namespace NovaCommerce.Frontend

open JsValue

/-! ## Limits -/

def categoriesLimit : Nat := 500

def seriesLimit : Nat := 20

def dataPointsLimit : Nat := 500

def tableRowsLimit : Nat := 1000

def columnsLimit : Nat := 30

def stringLengthLimit : Nat := 200

/-- `DANGEROUS_KEYS`. -/
def dangerousKeys : List JsString := [js "__proto__", js "constructor", js "prototype"]

/-! ## Specs -/

inductive ChartKind where
  | line
  | bar
  | pie
  | scatter
  | gauge
  | table
  deriving DecidableEq, Repr

/-- `CHART_KINDS`. -/
def chartKinds : List ChartKind := [.line, .bar, .pie, .scatter, .gauge, .table]

def ChartKind.value : ChartKind → JsString
  | .line => js "line"
  | .bar => js "bar"
  | .pie => js "pie"
  | .scatter => js "scatter"
  | .gauge => js "gauge"
  | .table => js "table"

structure ChartSeries where
  name : JsString
  data : List JsNumber
  color : Option JsString := none
  stack : Option JsString := none

inductive Align where
  | left
  | center
  | right
  deriving DecidableEq, Repr

def Align.value : Align → JsString
  | .left => js "left"
  | .center => js "center"
  | .right => js "right"

structure ChartColumn where
  key : JsString
  title : JsString
  align : Option Align := none

/-- What a table row holds under a column key. -/
inductive Cell where
  | null
  | number (value : JsNumber)
  | text (value : JsString)

structure ChartSpec where
  kind : ChartKind
  series : List ChartSeries := []
  title : Option JsString := none
  subtitle : Option JsString := none
  valueUnit : Option JsString := none
  footnote : Option JsString := none
  money : Bool := false
  columns : Option (List ChartColumn) := none
  rows : Option (List (Dict JsString Cell)) := none
  categories : Option (List JsString) := none

inductive ChartSpecResult where
  | ok (spec : ChartSpec) (warnings : List JsString)
  | refused (reason : JsString) (warnings : List JsString)

/-! ## Fields -/

/-- The control characters that are stripped: tab, line feed and carriage return stay. -/
def isControl (c : UInt16) : Bool :=
  let n := c.toNat
  decide (n ≤ 8 ∨ n = 0xB ∨ n = 0xC ∨ (0xE ≤ n ∧ n ≤ 0x1F) ∨ n = 0x7F)

def safeString (value : JsValue) (maxLength : Nat) : Option JsString :=
  match value with
  | .string s =>
    let cleaned := JsString.trim (s.filter fun c => !isControl c)
    if cleaned = [] then none
    else some (if maxLength < cleaned.length then cleaned.take maxLength ++ js "…" else cleaned)
  | _ => none

def safeNumber : JsValue → Option JsNumber
  | .number x => if x.isFinite then some x else none
  | _ => none

def isHexDigit (c : UInt16) : Bool :=
  let n := c.toNat
  decide ((48 ≤ n ∧ n ≤ 57) ∨ (65 ≤ n ∧ n ≤ 70) ∨ (97 ≤ n ∧ n ≤ 102))

/-- `HEX_COLOR`. -/
def hexColor : JsString → Bool
  | [] => false
  | c :: digits => decide (c = 35 ∧ digits.length ∈ [3, 4, 6, 8]) && digits.all isHexDigit

/-- A letter, a digit, `-` or `_`. -/
def isTokenChar (c : UInt16) : Bool :=
  let n := c.toNat
  decide ((48 ≤ n ∧ n ≤ 57) ∨ (65 ≤ n ∧ n ≤ 90) ∨ (97 ≤ n ∧ n ≤ 122) ∨ n = 45 ∨ n = 95)

/-- `VAR_COLOR`. -/
def varColor (s : JsString) : Bool :=
  let token := (s.drop 6).dropLast
  decide (s = js "var(--" ++ token ++ js ")" ∧ token ≠ []) && token.all isTokenChar

def safeColor : JsValue → Option JsString
  | .string s => if hexColor s.trim ∨ varColor s.trim then some s.trim else none
  | _ => none

/-- The own enumerable properties, but for dangerous keys. -/
def ownEntries (entries : List (JsString × JsValue)) : List (JsString × JsValue) :=
  entries.filter fun e => e.1 ∉ dangerousKeys

/-! ## Series -/

def sanitizeSeries (raw : JsValue) (warnings : List JsString) (index : Nat) :
    Option ChartSeries × List JsString :=
  match raw with
  | .object _ true entries =>
    let fields := ownEntries entries
    match safeString (field fields (js "name")) stringLengthLimit with
    | none => (none, warnings ++ [js s!"series[{index}] 缺少名称，已跳过"])
    | some name =>
      match field fields (js "data") with
      | .array _ rawData =>
        let data := (rawData.take dataPointsLimit).filterMap safeNumber
        let warnings :=
          if dataPointsLimit < rawData.length then
            warnings ++ [js s!"series[{index}] 数据点超出上限 {dataPointsLimit}，已截断"]
          else warnings
        if data = [] then (none, warnings ++ [js s!"series[{index}] 没有有效数值，已跳过"])
        else
          (some {
            name := name
            data := data
            color := safeColor (field fields (js "color"))
            stack := safeString (field fields (js "stack")) 40 }, warnings)
      | _ => (none, warnings ++ [js s!"series[{index}] 缺少数据数组，已跳过"])
  | _ => (none, warnings ++ [js s!"series[{index}] 不是对象，已跳过"])

/-- The series from `index` on. -/
def sanitizeAllSeries : Nat → List JsValue → List JsString → List ChartSeries × List JsString
  | _, [], warnings => ([], warnings)
  | index, raw :: rest, warnings =>
    let (sanitized, warnings) := sanitizeSeries raw warnings index
    let (series, warnings) := sanitizeAllSeries (index + 1) rest warnings
    (sanitized.toList ++ series, warnings)

/-! ## Tables -/

def sanitizeAlign : JsValue → Option Align
  | .string s =>
    if s = js "left" then some .left
    else if s = js "center" then some .center
    else if s = js "right" then some .right
    else none
  | _ => none

def sanitizeColumn : JsValue → Option ChartColumn
  | .object _ true entries =>
    let fields := ownEntries entries
    match safeString (field fields (js "key")) 60, safeString (field fields (js "title")) 60 with
    | some key, some title => some { key := key, title := title, align := sanitizeAlign (field fields (js "align")) }
    | _, _ => none
  | _ => none

/-- A cell; any other value is dropped. -/
def sanitizeCell : JsValue → Option Cell
  | .null => some .null
  | .number x => if x.isFinite then some (.number x) else none
  | .string s => some (.text ((safeString (.string s) stringLengthLimit).getD []))
  | _ => none

/-- Write one property of a raw row. -/
def writeCell (allowed : List JsString) (row : Dict JsString Cell) (entry : JsString × JsValue) : Dict JsString Cell :=
  if entry.1 ∈ allowed then
    match sanitizeCell entry.2 with
    | some cell => row.set entry.1 cell
    | none => row
  else row

def sanitizeRow (allowed : List JsString) : JsValue → Option (Dict JsString Cell)
  | .object _ true entries => some ((ownEntries entries).foldl (writeCell allowed) Dict.empty)
  | _ => none

/-- The table kind. -/
def sanitizeTable (fields : List (JsString × JsValue)) (spec : ChartSpec) : ChartSpecResult :=
  match field fields (js "columns") with
  | .array _ rawColumns =>
    let columns := (rawColumns.take columnsLimit).filterMap sanitizeColumn
    if columns.length = 0 then .refused (js "table 类型没有有效列定义") []
    else match field fields (js "rows") with
      | .array _ rawRows =>
        let rows := (rawRows.take tableRowsLimit).filterMap (sanitizeRow (columns.map (·.key)))
        let warnings := if tableRowsLimit < rawRows.length then [js s!"表格行数超出上限 {tableRowsLimit}，已截断"] else []
        .ok { spec with columns := some columns, rows := some rows } warnings
      | _ => .refused (js "table 类型缺少 rows") []
  | _ => .refused (js "table 类型缺少 columns") []

/-! ## Charts -/

def sanitizeCategories : JsValue → Option (List JsString) × List JsString
  | .array _ rawCategories =>
    (some ((rawCategories.take categoriesLimit).map fun raw => (safeString raw 80).getD []),
      if categoriesLimit < rawCategories.length then [js s!"分类数超出上限 {categoriesLimit}，已截断"] else [])
  | _ => (none, [])

/-- A pie and a gauge draw one series. -/
def singleSeries (kind : ChartKind) (series : List ChartSeries) (warnings : List JsString) :
    List ChartSeries × List JsString :=
  if 1 < series.length then
    match kind with
    | .pie => (series.take 1, warnings ++ [js "饼图仅使用第一个系列渲染"])
    | .gauge => (series.take 1, warnings ++ [js "仪表盘仅使用第一个系列渲染"])
    | _ => (series, warnings)
  else (series, warnings)

/-- Align categories and data to the shorter side. -/
def alignCategories (spec : ChartSpec) (warnings : List JsString) : ChartSpec × List JsString :=
  match spec.categories with
  | none => (spec, warnings)
  | some categories =>
    let maxData := (spec.series.map fun serie => serie.data.length).foldl max 0
    if maxData = categories.length then (spec, warnings)
    else
      (if maxData < categories.length then { spec with categories := some (categories.take maxData) }
        else { spec with
          series := spec.series.map fun serie => { serie with data := serie.data.take categories.length } },
        warnings ++ [js s!"分类数({categories.length})与数据点({maxData})不一致，已按较短者对齐"])

/-- The kinds that draw series. -/
def sanitizeChart (fields : List (JsString × JsValue)) (spec : ChartSpec) : ChartSpecResult :=
  let (categories, warnings) := sanitizeCategories (field fields (js "categories"))
  match field fields (js "series") with
  | .array _ rawSeries =>
    let (series, warnings) := sanitizeAllSeries 0 (rawSeries.take seriesLimit) warnings
    let warnings :=
      if seriesLimit < rawSeries.length then warnings ++ [js s!"系列数超出上限 {seriesLimit}，已截断"] else warnings
    if series.length = 0 then .refused (js "没有任何有效的系列数据") warnings
    else
      let (series, warnings) := singleSeries spec.kind series warnings
      let (spec, warnings) := alignCategories { spec with categories := categories, series := series } warnings
      .ok spec warnings
  | _ => .refused (js "缺少 series 数组") warnings

/-- The fields every kind has. -/
def specHeader (fields : List (JsString × JsValue)) (kind : ChartKind) : ChartSpec where
  kind := kind
  title := safeString (field fields (js "title")) stringLengthLimit
  subtitle := safeString (field fields (js "subtitle")) stringLengthLimit
  valueUnit := safeString (field fields (js "value_unit")) 20
  footnote := safeString (field fields (js "footnote")) stringLengthLimit
  money := match field fields (js "money") with
    | .bool value => value
    | _ => false

def sanitizeChartSpec : JsValue → ChartSpecResult
  | .object _ true entries =>
    let fields := ownEntries entries
    let kind := match field fields (js "kind") with
      | .string s => s
      | _ => []
    if kind = [] then .refused (js "缺少图表类型 kind") []
    else match chartKinds.find? fun k => k.value = kind with
      | none => .refused (js "未知的图表类型 \"" ++ (safeString (.string kind) 40).getD [] ++ js "\"") []
      | some chartKind =>
        let spec := specHeader fields chartKind
        if chartKind = .table then sanitizeTable fields spec else sanitizeChart fields spec
  | _ => .refused (js "图表数据不是对象") []

/-! ## The chart as a value -/

/-- A property that is set if its value is there. -/
def optional (key : String) (value : Option JsValue) : List (JsString × JsValue) :=
  (value.map fun v => (js key, v)).toList

def ChartSeries.toJs (serie : ChartSeries) : JsValue :=
  .object .built true ([(js "name", .string serie.name), (js "data", .array .built (serie.data.map .number))] ++
    optional "color" (serie.color.map .string) ++ optional "stack" (serie.stack.map .string))

def ChartColumn.toJs (column : ChartColumn) : JsValue :=
  .object .built true ([(js "key", .string column.key), (js "title", .string column.title)] ++
    optional "align" (column.align.map fun align => .string align.value))

def Cell.toJs : Cell → JsValue
  | .null => .null
  | .number x => .number x
  | .text s => .string s

def rowToJs (row : Dict JsString Cell) : JsValue := .object .built true (row.entries.map fun e => (e.1, e.2.toJs))

/-- The object that is returned. -/
def ChartSpec.toJs (spec : ChartSpec) : JsValue :=
  .object .built true ([(js "kind", .string spec.kind.value), (js "series", .array .built (spec.series.map (·.toJs)))] ++
    optional "title" (spec.title.map .string) ++
    optional "subtitle" (spec.subtitle.map .string) ++
    optional "value_unit" (spec.valueUnit.map .string) ++
    optional "footnote" (spec.footnote.map .string) ++
    optional "money" (if spec.money then some (.bool true) else none) ++
    optional "columns" (spec.columns.map fun columns => .array .built (columns.map (·.toJs))) ++
    optional "rows" (spec.rows.map fun rows => .array .built (rows.map rowToJs)) ++
    optional "categories" (spec.categories.map fun categories => .array .built (categories.map .string)))

/-! ## Safe fields -/

/-- A text without control characters, within its cap or cut to it and marked by an ellipsis. -/
structure SafeText (cap : Nat) (s : JsString) : Prop where
  clean : ∀ c ∈ s, isControl c = false
  capped : s.length ≤ cap ∨ ∃ t : JsString, t.length = cap ∧ s = t ++ js "…"

/-- A colour of an allowed form. -/
structure SafeColor (s : JsString) : Prop where
  form : hexColor s = true ∨ varColor s = true
  clean : ∀ c ∈ s, isControl c = false

theorem clean_of_all {s : JsString} (h : (s.all fun c => !isControl c) = true) : ∀ c ∈ s, isControl c = false := by
  intro c hc
  have hclean := List.all_eq_true.mp h c hc
  rwa [Bool.not_eq_true'] at hclean

theorem SafeText.nil (cap : Nat) : SafeText cap [] := ⟨fun _ h => (nomatch h), .inl (Nat.zero_le cap)⟩

theorem safeString_safe {value : JsValue} {cap : Nat} {s : JsString} (h : safeString value cap = some s) :
    SafeText cap s := by
  cases value with
  | string raw =>
    unfold safeString at h
    dsimp only at h
    have hclean : ∀ c ∈ JsString.trim (raw.filter fun c => !isControl c), isControl c = false := by
      intro c hc
      have hmem := JsString.mem_of_mem_trim hc
      rw [List.mem_filter, Bool.not_eq_true'] at hmem
      exact hmem.2
    split_ifs at h with hempty hlong
    · cases h
      refine ⟨fun c hc => ?_, .inr ⟨_, List.length_take_of_le hlong.le, rfl⟩⟩
      rcases List.mem_append.mp hc with hc | hc
      · exact hclean c (List.mem_of_mem_take hc)
      · have hdots : ∀ c ∈ js "…", isControl c = false := clean_of_all (by decide)
        exact hdots c hc
    · cases h
      exact ⟨hclean, .inl (not_lt.mp hlong)⟩
  | _ => cases h

theorem safeString_getD_safe (value : JsValue) (cap : Nat) : SafeText cap ((safeString value cap).getD []) := by
  cases h : safeString value cap with
  | none => exact .nil cap
  | some s => exact safeString_safe h

theorem isHexDigit_clean {c : UInt16} (h : isHexDigit c = true) : isControl c = false := by
  unfold isHexDigit at h
  unfold isControl
  simp only [decide_eq_true_eq, decide_eq_false_iff_not] at h ⊢
  omega

theorem isTokenChar_clean {c : UInt16} (h : isTokenChar c = true) : isControl c = false := by
  unfold isTokenChar at h
  unfold isControl
  simp only [decide_eq_true_eq, decide_eq_false_iff_not] at h ⊢
  omega

theorem hexColor_clean {s : JsString} (h : hexColor s = true) : ∀ c ∈ s, isControl c = false := by
  cases s with
  | nil => cases h
  | cons sharp digits =>
    unfold hexColor at h
    rw [Bool.and_eq_true, decide_eq_true_eq, List.all_eq_true] at h
    obtain ⟨⟨rfl, -⟩, hdigits⟩ := h
    intro c hc
    rcases List.mem_cons.mp hc with rfl | hc
    · decide
    · exact isHexDigit_clean (hdigits c hc)

theorem varColor_clean {s : JsString} (h : varColor s = true) : ∀ c ∈ s, isControl c = false := by
  unfold varColor at h
  rw [Bool.and_eq_true, decide_eq_true_eq, List.all_eq_true] at h
  obtain ⟨⟨hs, -⟩, htoken⟩ := h
  have hopen : ∀ c ∈ js "var(--", isControl c = false := clean_of_all (by decide)
  have hclose : ∀ c ∈ js ")", isControl c = false := clean_of_all (by decide)
  intro c hc
  rw [hs, List.mem_append, List.mem_append] at hc
  rcases hc with (hc | hc) | hc
  · exact hopen c hc
  · exact isTokenChar_clean (htoken c hc)
  · exact hclose c hc

theorem safeColor_safe {value : JsValue} {s : JsString} (h : safeColor value = some s) : SafeColor s := by
  cases value with
  | string raw =>
    unfold safeColor at h
    dsimp only at h
    split_ifs at h with hform
    cases h
    exact ⟨hform, hform.elim hexColor_clean varColor_clean⟩
  | _ => cases h

theorem safeNumber_finite {value : JsValue} {x : JsNumber} (h : safeNumber value = some x) : x.isFinite = true := by
  cases value with
  | number y =>
    unfold safeNumber at h
    dsimp only at h
    split_ifs at h with hy
    cases h
    exact hy
  | _ => cases h

theorem ownEntries_keys {entries : List (JsString × JsValue)} {e : JsString × JsValue} (h : e ∈ ownEntries entries) :
    e.1 ∉ dangerousKeys := by
  unfold ownEntries at h
  simpa using (List.mem_filter.mp h).2

/-! ## Safe charts -/

structure ChartSeries.Safe (serie : ChartSeries) : Prop where
  name : SafeText stringLengthLimit serie.name
  points : serie.data.length ≤ dataPointsLimit
  finite : ∀ x ∈ serie.data, x.isFinite = true
  color : ∀ s ∈ serie.color, SafeColor s
  stack : ∀ s ∈ serie.stack, SafeText 40 s

structure ChartColumn.Safe (column : ChartColumn) : Prop where
  key : SafeText 60 column.key
  title : SafeText 60 column.title

/-- `null`, a finite number or a safe text. -/
inductive Cell.Safe : Cell → Prop where
  | null : Safe .null
  | number {x : JsNumber} (finite : x.isFinite = true) : Safe (.number x)
  | text {s : JsString} (safe : SafeText stringLengthLimit s) : Safe (.text s)

/-- A row with cells under declared keys only. -/
def SafeRow (declared : List JsString) (row : Dict JsString Cell) : Prop :=
  ∀ e ∈ row.entries, e.1 ∈ declared ∧ e.1 ∉ dangerousKeys ∧ e.2.Safe

/-- The keys a chart declares. -/
def ChartSpec.declared (spec : ChartSpec) : List JsString := (spec.columns.getD []).map (·.key)

structure ChartSpec.Safe (spec : ChartSpec) : Prop where
  title : ∀ s ∈ spec.title, SafeText stringLengthLimit s
  subtitle : ∀ s ∈ spec.subtitle, SafeText stringLengthLimit s
  valueUnit : ∀ s ∈ spec.valueUnit, SafeText 20 s
  footnote : ∀ s ∈ spec.footnote, SafeText stringLengthLimit s
  seriesCount : spec.series.length ≤ seriesLimit
  series : ∀ serie ∈ spec.series, serie.Safe
  categoriesCount : ∀ cs ∈ spec.categories, cs.length ≤ categoriesLimit
  categories : ∀ cs ∈ spec.categories, ∀ s ∈ cs, SafeText 80 s
  columnsCount : ∀ cs ∈ spec.columns, cs.length ≤ columnsLimit
  columns : ∀ cs ∈ spec.columns, ∀ c ∈ cs, c.Safe
  rowsCount : ∀ rs ∈ spec.rows, rs.length ≤ tableRowsLimit
  rows : ∀ rs ∈ spec.rows, ∀ row ∈ rs, SafeRow spec.declared row

theorem sanitizeSeries_safe {raw : JsValue} {warnings warnings' : List JsString} {index : Nat} {serie : ChartSeries}
    (h : sanitizeSeries raw warnings index = (some serie, warnings')) : serie.Safe := by
  unfold sanitizeSeries at h
  split at h
  · next entries =>
    dsimp only at h
    cases hname : safeString (field (ownEntries entries) (js "name")) stringLengthLimit with
    | none => simp [hname] at h
    | some name =>
      simp only [hname] at h
      split at h
      · next rawData hdata =>
        by_cases hempty : (rawData.take dataPointsLimit).filterMap safeNumber = []
        · rw [if_pos hempty] at h
          cases h
        rw [if_neg hempty, Prod.mk.injEq, Option.some.injEq] at h
        obtain ⟨rfl, -⟩ := h
        refine ⟨safeString_safe hname, ?_, fun x hx => ?_, fun s hs => safeColor_safe hs,
          fun s hs => safeString_safe hs⟩
        · exact (List.length_filterMap_le _ _).trans (List.length_take_le _ _)
        · obtain ⟨value, -, hvalue⟩ := List.mem_filterMap.mp hx
          exact safeNumber_finite hvalue
      · cases h
  · cases h

theorem sanitizeAllSeries_safe (raws : List JsValue) (index : Nat) (warnings : List JsString) :
    (sanitizeAllSeries index raws warnings).1.length ≤ raws.length ∧
      ∀ serie ∈ (sanitizeAllSeries index raws warnings).1, serie.Safe := by
  induction raws generalizing index warnings with
  | nil => exact ⟨le_rfl, fun _ h => nomatch h⟩
  | cons raw rest ih =>
    unfold sanitizeAllSeries
    rcases hraw : sanitizeSeries raw warnings index with ⟨sanitized, warnings'⟩
    obtain ⟨hlength, hsafe⟩ := ih (index + 1) warnings'
    have hone : sanitized.toList.length ≤ 1 := by cases sanitized <;> simp
    dsimp only
    refine ⟨?_, fun serie hserie => ?_⟩
    · rw [List.length_append, List.length_cons]
      omega
    · rcases List.mem_append.mp hserie with h | h
      · rw [Option.mem_toList] at h
        cases h
        exact sanitizeSeries_safe hraw
      · exact hsafe serie h

theorem ChartSeries.Safe.take {serie : ChartSeries} (safe : serie.Safe) (n : Nat) :
    ChartSeries.Safe { serie with data := serie.data.take n } where
  name := safe.name
  points := (List.length_take_le' _ _).trans safe.points
  finite x hx := safe.finite x (List.mem_of_mem_take hx)
  color := safe.color
  stack := safe.stack

/-- Columns and rows are a table's only. -/
theorem specHeader_safe (fields : List (JsString × JsValue)) (kind : ChartKind) : (specHeader fields kind).Safe where
  title _ h := safeString_safe h
  subtitle _ h := safeString_safe h
  valueUnit _ h := safeString_safe h
  footnote _ h := safeString_safe h
  seriesCount := Nat.zero_le _
  series _ h := nomatch h
  categoriesCount _ h := nomatch h
  categories _ h := nomatch h
  columnsCount _ h := nomatch h
  columns _ h := nomatch h
  rowsCount _ h := nomatch h
  rows _ h := nomatch h

theorem sanitizeColumn_safe {raw : JsValue} {column : ChartColumn} (h : sanitizeColumn raw = some column) :
    column.Safe := by
  unfold sanitizeColumn at h
  split at h
  · dsimp only at h
    split at h
    · next hkey htitle =>
      cases h
      exact ⟨safeString_safe hkey, safeString_safe htitle⟩
    · cases h
  · cases h

theorem sanitizeCell_safe {value : JsValue} {cell : Cell} (h : sanitizeCell value = some cell) : cell.Safe := by
  unfold sanitizeCell at h
  split at h
  · cases h
    exact .null
  · next x =>
    split_ifs at h with hfinite
    cases h
    exact .number hfinite
  · cases h
    exact .text (safeString_getD_safe _ _)
  · cases h

theorem writeCell_safe {allowed : List JsString} {row : Dict JsString Cell} (safe : SafeRow allowed row)
    {entry : JsString × JsValue} (hkey : entry.1 ∉ dangerousKeys) : SafeRow allowed (writeCell allowed row entry) := by
  unfold writeCell
  split_ifs with hallowed
  · cases hcell : sanitizeCell entry.2 with
    | none => exact safe
    | some cell =>
      intro e he
      rcases Dict.mem_set.mp he with rfl | ⟨he, -⟩
      · exact ⟨hallowed, hkey, sanitizeCell_safe hcell⟩
      · exact safe e he
  · exact safe

/-- By induction on the properties of the raw row: the row written so far stays safe. -/
theorem foldl_writeCell_safe {allowed : List JsString} (entries : List (JsString × JsValue))
    (hkeys : ∀ e ∈ entries, e.1 ∉ dangerousKeys) {row : Dict JsString Cell} (safe : SafeRow allowed row) :
    SafeRow allowed (entries.foldl (writeCell allowed) row) := by
  induction entries generalizing row with
  | nil => exact safe
  | cons entry rest ih =>
    have hrest : ∀ e ∈ rest, e.1 ∉ dangerousKeys := fun e he => hkeys e (List.mem_cons_of_mem entry he)
    exact ih hrest (writeCell_safe safe (hkeys entry List.mem_cons_self))

theorem sanitizeRow_safe {allowed : List JsString} {raw : JsValue} {row : Dict JsString Cell}
    (h : sanitizeRow allowed raw = some row) : SafeRow allowed row := by
  unfold sanitizeRow at h
  split at h
  · cases h
    exact foldl_writeCell_safe _ (fun e he => ownEntries_keys he) fun _ he => nomatch he
  · cases h

theorem sanitizeTable_safe {fields : List (JsString × JsValue)} {spec spec' : ChartSpec} {warnings : List JsString}
    (safe : spec.Safe) (h : sanitizeTable fields spec = .ok spec' warnings) : spec'.Safe := by
  unfold sanitizeTable at h
  split at h
  · next rawColumns _ =>
    dsimp only at h
    by_cases hnone : ((rawColumns.take columnsLimit).filterMap sanitizeColumn).length = 0
    · rw [if_pos hnone] at h
      cases h
    rw [if_neg hnone] at h
    split at h
    · next rawRows _ =>
      rw [ChartSpecResult.ok.injEq] at h
      obtain ⟨rfl, -⟩ := h
      refine { safe with columnsCount := ?_, columns := ?_, rowsCount := ?_, rows := ?_ }
      · intro cs hcs
        cases hcs
        exact (List.length_filterMap_le _ _).trans (List.length_take_le _ _)
      · intro cs hcs c hc
        cases hcs
        obtain ⟨raw, -, hraw⟩ := List.mem_filterMap.mp hc
        exact sanitizeColumn_safe hraw
      · intro rs hrs
        cases hrs
        exact (List.length_filterMap_le _ _).trans (List.length_take_le _ _)
      · intro rs hrs row hrow
        cases hrs
        obtain ⟨raw, -, hraw⟩ := List.mem_filterMap.mp hrow
        exact sanitizeRow_safe hraw
    · cases h
  · cases h

theorem singleSeries_subset (kind : ChartKind) (series : List ChartSeries) (warnings : List JsString) :
    (singleSeries kind series warnings).1.Sublist series := by
  unfold singleSeries
  split_ifs
  · cases kind <;> first | exact List.take_sublist _ _ | exact List.Sublist.refl _
  · exact List.Sublist.refl _

theorem sanitizeCategories_safe (raw : JsValue) : ∀ cs ∈ (sanitizeCategories raw).1,
    cs.length ≤ categoriesLimit ∧ ∀ s ∈ cs, SafeText 80 s := by
  unfold sanitizeCategories
  split
  · intro cs hcs
    cases hcs
    refine ⟨?_, fun s hs => ?_⟩
    · rw [List.length_map]
      exact List.length_take_le _ _
    · obtain ⟨value, -, rfl⟩ := List.mem_map.mp hs
      exact safeString_getD_safe value 80
  · exact fun _ h => nomatch h

theorem alignCategories_safe {spec : ChartSpec} (safe : spec.Safe) (warnings : List JsString) :
    (alignCategories spec warnings).1.Safe := by
  unfold alignCategories
  cases hcategories : spec.categories with
  | none => exact safe
  | some categories =>
    have hcount := safe.categoriesCount categories hcategories
    have htexts := safe.categories categories hcategories
    dsimp only
    split_ifs
    · exact safe
    · refine { safe with categoriesCount := ?_, categories := ?_ }
      · intro cs hcs
        cases hcs
        exact (List.length_take_le' _ _).trans hcount
      · intro cs hcs s hs
        cases hcs
        exact htexts s (List.mem_of_mem_take hs)
    · refine { safe with seriesCount := ?_, series := ?_, categoriesCount := ?_, categories := ?_ }
      · rw [List.length_map]
        exact safe.seriesCount
      · intro serie hserie
        obtain ⟨serie', hmem, rfl⟩ := List.mem_map.mp hserie
        exact (safe.series serie' hmem).take _
      · intro cs hcs
        cases hcs
        exact hcount
      · intro cs hcs
        cases hcs
        exact htexts

theorem sanitizeChart_safe {fields : List (JsString × JsValue)} {spec spec' : ChartSpec} {warnings : List JsString}
    (safe : spec.Safe) (h : sanitizeChart fields spec = .ok spec' warnings) : spec'.Safe := by
  unfold sanitizeChart at h
  rcases hcategories : sanitizeCategories (field fields (js "categories")) with ⟨categories, warnings₀⟩
  have hsafe := sanitizeCategories_safe (field fields (js "categories"))
  rw [hcategories] at h hsafe
  dsimp only at h
  split at h
  · next rawSeries _ =>
    rcases hall : sanitizeAllSeries 0 (rawSeries.take seriesLimit) warnings₀ with ⟨series, warnings₁⟩
    obtain ⟨hlength, hseries⟩ := sanitizeAllSeries_safe (rawSeries.take seriesLimit) 0 warnings₀
    rw [hall] at h hlength hseries
    dsimp only at h
    by_cases hnone : series.length = 0
    · rw [if_pos hnone] at h
      cases h
    rw [if_neg hnone] at h
    generalize hone : singleSeries spec.kind series _ = one at h
    have hsub : one.1.Sublist series := by
      rw [← hone]
      exact singleSeries_subset _ _ _
    have hspec : ChartSpec.Safe { spec with categories := categories, series := one.1 } := by
      refine { safe with seriesCount := ?_, series := ?_, categoriesCount := ?_, categories := ?_ }
      · exact hsub.length_le.trans (hlength.trans (List.length_take_le _ _))
      · exact fun serie hserie => hseries serie (hsub.subset hserie)
      · exact fun cs hcs => (hsafe cs hcs).1
      · exact fun cs hcs => (hsafe cs hcs).2
    have haligned := alignCategories_safe hspec one.2
    rw [ChartSpecResult.ok.injEq] at h
    rw [← h.1]
    exact haligned
  · cases h

theorem sanitizeChartSpec_ok {input : JsValue} {spec : ChartSpec} {warnings : List JsString}
    (h : sanitizeChartSpec input = .ok spec warnings) : spec.Safe := by
  unfold sanitizeChartSpec at h
  split at h
  · next entries =>
    dsimp only at h
    by_cases hkind : (match field (ownEntries entries) (js "kind") with | .string s => s | _ => []) = []
    · rw [if_pos hkind] at h
      cases h
    rw [if_neg hkind] at h
    split at h
    · cases h
    · next chartKind _ =>
      have hheader := specHeader_safe (ownEntries entries) chartKind
      split_ifs at h
      · exact sanitizeTable_safe hheader h
      · exact sanitizeChart_safe hheader h
  · cases h

/-! ## Plain data -/

/-- Data of a chart. -/
abbrev Plain : JsValue → Prop := PlainData dangerousKeys isControl

/-- Properties with plain values under harmless keys. -/
def PlainEntries (entries : List (JsString × JsValue)) : Prop :=
  ∀ e ∈ entries, e.1 ∉ dangerousKeys ∧ Plain e.2

theorem Plain.ofEntries {entries : List (JsString × JsValue)} (h : PlainEntries entries) :
    Plain (.object .built true entries) :=
  .object (fun e he => (h e he).1) fun e he => (h e he).2

theorem PlainEntries.append {entries entries' : List (JsString × JsValue)} (h : PlainEntries entries)
    (h' : PlainEntries entries') : PlainEntries (entries ++ entries') := by
  intro e he
  rcases List.mem_append.mp he with he | he
  · exact h e he
  · exact h' e he

theorem PlainEntries.cons {key : JsString} {value : JsValue} {entries : List (JsString × JsValue)}
    (hkey : key ∉ dangerousKeys) (hvalue : Plain value) (h : PlainEntries entries) :
    PlainEntries ((key, value) :: entries) := by
  intro e he
  rcases List.mem_cons.mp he with rfl | he
  · exact ⟨hkey, hvalue⟩
  · exact h e he

theorem plainEntries_optional {key : String} {value : Option JsValue} (hkey : js key ∉ dangerousKeys)
    (hvalue : ∀ v ∈ value, Plain v) : PlainEntries (optional key value) := by
  intro e he
  cases value with
  | none => cases he
  | some v =>
    have he : e = (js key, v) := by simpa [optional] using he
    rw [he]
    exact ⟨hkey, hvalue v rfl⟩

theorem SafeText.plain {cap : Nat} {s : JsString} (safe : SafeText cap s) : Plain (.string s) := .string safe.clean

theorem plain_texts {value : Option JsString} {cap : Nat} (safe : ∀ s ∈ value, SafeText cap s) :
    ∀ v ∈ value.map JsValue.string, Plain v := by
  intro v hv
  obtain ⟨s, hs, rfl⟩ := Option.mem_map.mp hv
  exact (safe s hs).plain

theorem ChartSeries.Safe.plain {serie : ChartSeries} (safe : serie.Safe) : Plain serie.toJs := by
  have hdata : Plain (.array .built (serie.data.map .number)) := by
    refine .array fun v hv => ?_
    obtain ⟨x, hx, rfl⟩ := List.mem_map.mp hv
    exact .number (safe.finite x hx)
  have hcolor : ∀ v ∈ serie.color.map JsValue.string, Plain v := by
    intro v hv
    obtain ⟨s, hs, rfl⟩ := Option.mem_map.mp hv
    exact .string (safe.color s hs).clean
  have hfirst : PlainEntries [(js "name", .string serie.name), (js "data", .array .built (serie.data.map .number))] :=
    .cons (by decide) safe.name.plain (.cons (by decide) hdata fun _ h => nomatch h)
  exact .ofEntries ((hfirst.append (plainEntries_optional (by decide) hcolor)).append
    (plainEntries_optional (by decide) (plain_texts safe.stack)))

theorem ChartColumn.Safe.plain {column : ChartColumn} (safe : column.Safe) : Plain column.toJs := by
  have halign : ∀ v ∈ column.align.map fun align => JsValue.string align.value, Plain v := by
    intro v hv
    obtain ⟨align, -, rfl⟩ := Option.mem_map.mp hv
    cases align <;> exact .string (clean_of_all (by decide))
  have hfirst : PlainEntries [(js "key", .string column.key), (js "title", .string column.title)] :=
    .cons (by decide) safe.key.plain (.cons (by decide) safe.title.plain fun _ h => nomatch h)
  exact .ofEntries (hfirst.append (plainEntries_optional (by decide) halign))

theorem Cell.Safe.plain {cell : Cell} (safe : cell.Safe) : Plain cell.toJs := by
  cases safe with
  | null => exact .null
  | number finite => exact .number finite
  | text safe => exact safe.plain

theorem SafeRow.plain {declared : List JsString} {row : Dict JsString Cell} (safe : SafeRow declared row) :
    Plain (rowToJs row) := by
  refine .ofEntries fun e he => ?_
  obtain ⟨cell, hcell, rfl⟩ := List.mem_map.mp he
  obtain ⟨-, hkey, hsafe⟩ := safe cell hcell
  exact ⟨hkey, hsafe.plain⟩

theorem ChartKind.plain (kind : ChartKind) : Plain (.string kind.value) := by
  cases kind <;> exact .string (clean_of_all (by decide))

theorem ChartSpec.Safe.plain {spec : ChartSpec} (safe : spec.Safe) : Plain spec.toJs := by
  have hseries : Plain (.array .built (spec.series.map (·.toJs))) := by
    refine .array fun v hv => ?_
    obtain ⟨serie, hserie, rfl⟩ := List.mem_map.mp hv
    exact (safe.series serie hserie).plain
  have hmoney : ∀ v ∈ (if spec.money then some (JsValue.bool true) else none), Plain v := by
    intro v hv
    split_ifs at hv
    · cases hv
      exact .bool true
    · cases hv
  have hcolumns : ∀ v ∈ spec.columns.map fun columns => JsValue.array .built (columns.map (·.toJs)), Plain v := by
    intro v hv
    obtain ⟨columns, hcolumns, rfl⟩ := Option.mem_map.mp hv
    refine .array fun v hv => ?_
    obtain ⟨column, hcolumn, rfl⟩ := List.mem_map.mp hv
    exact (safe.columns columns hcolumns column hcolumn).plain
  have hrows : ∀ v ∈ spec.rows.map fun rows => JsValue.array .built (rows.map rowToJs), Plain v := by
    intro v hv
    obtain ⟨rows, hrows, rfl⟩ := Option.mem_map.mp hv
    refine .array fun v hv => ?_
    obtain ⟨row, hrow, rfl⟩ := List.mem_map.mp hv
    exact (safe.rows rows hrows row hrow).plain
  have hcategories : ∀ v ∈ spec.categories.map fun categories => JsValue.array .built (categories.map .string), Plain v := by
    intro v hv
    obtain ⟨categories, hcategories, rfl⟩ := Option.mem_map.mp hv
    refine .array fun v hv => ?_
    obtain ⟨s, hs, rfl⟩ := List.mem_map.mp hv
    exact (safe.categories categories hcategories s hs).plain
  have hfirst : PlainEntries [(js "kind", .string spec.kind.value), (js "series", .array .built (spec.series.map (·.toJs)))] :=
    .cons (by decide) spec.kind.plain (.cons (by decide) hseries fun _ h => nomatch h)
  refine .ofEntries ?_
  refine ((((((((hfirst.append ?_).append ?_).append ?_).append ?_).append ?_).append ?_).append ?_).append ?_)
  · exact plainEntries_optional (by decide) (plain_texts safe.title)
  · exact plainEntries_optional (by decide) (plain_texts safe.subtitle)
  · exact plainEntries_optional (by decide) (plain_texts safe.valueUnit)
  · exact plainEntries_optional (by decide) (plain_texts safe.footnote)
  · exact plainEntries_optional (by decide) hmoney
  · exact plainEntries_optional (by decide) hcolumns
  · exact plainEntries_optional (by decide) hrows
  · exact plainEntries_optional (by decide) hcategories

/-- A chart that is accepted is plain data, and keeps the caps and the content rules of its fields. -/
theorem sanitizeChartSpec_safe (input : JsValue) (spec : ChartSpec) (warnings : List JsString)
    (h : sanitizeChartSpec input = .ok spec warnings) : spec.Safe ∧ Plain spec.toJs :=
  ⟨sanitizeChartSpec_ok h, (sanitizeChartSpec_ok h).plain⟩

/-- A table that declares one column, with a row that holds a function, an infinite number and a dangerous key. -/
def sampleTable : JsValue :=
  .object .given true [
    (js "kind", .string (js "table")),
    (js "title", .string (js "Stock" ++ [7])),
    (js "columns", .array .given [
      .object .given true [(js "key", .string (js "sku")), (js "title", .string (js "SKU")), (js "format", .function)]]),
    (js "rows", .array .given [
      .object .given true [
        (js "sku", .string (js "cup")),
        (js "qty", .number (.infinity false)),
        (js "__proto__", .object .given true [(js "polluted", .bool true)])]])]

theorem sanitizeChartSpec_safe_table : ∃ spec warnings, sanitizeChartSpec sampleTable = .ok spec warnings ∧
    spec.title = some (js "Stock") ∧ spec.Safe ∧ Plain spec.toJs :=
  ⟨_, _, rfl, rfl, sanitizeChartSpec_safe sampleTable _ _ rfl⟩

end NovaCommerce.Frontend
