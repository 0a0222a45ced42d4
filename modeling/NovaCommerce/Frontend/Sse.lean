import NovaCommerce.Lib.Feeds
import NovaCommerce.Lib.Js

/-!
# The SSE parser

`createSseParser` keeps a buffer, appends each chunk with its line ends normalised, and takes the frames off that a blank line
ends.

* `parse`, `parseAll` : one chunk, and chunk after chunk; `parseAll_eq` : what was appended decides what comes out;
* `TextLine`, `linesOf` : the lines of a text, and which line ends are cut by a chunk boundary;
* `Reader`, `readLines` : the parser line by line (`read_lines`).
-/

namespace NovaCommerce.Frontend

/-! ## Code units -/

def lineFeed : UInt16 := 10

def carriageReturn : UInt16 := 13

def space : UInt16 := 32

def colon : UInt16 := 58

/-! ## The parser -/

structure SseFrame where
  event : JsString
  data : JsString
  deriving DecidableEq

/-- `replace(/\r\n/g, '\n')`. -/
def replaceCrLf : JsString → JsString
  | c :: d :: s => if c = carriageReturn ∧ d = lineFeed then lineFeed :: replaceCrLf s else c :: replaceCrLf (d :: s)
  | [c] => [c]
  | [] => []

/-- A chunk, with `\r\n` and `\r` replaced by `\n`. -/
def normalizeEnds (chunk : JsString) : JsString :=
  (replaceCrLf chunk).map fun c => if c = carriageReturn then lineFeed else c

/-- The field and the value of a line; empty lines and comments have none. -/
def fieldOf (line : JsString) : Option (JsString × JsString) :=
  if line = [] ∨ line.head? = some colon then none
  else
    let field := line.takeWhile (· ≠ colon)
    let rawValue := (line.dropWhile (· ≠ colon)).tail
    some (field, if rawValue.head? = some space then rawValue.tail else rawValue)

/-- What the lines of a frame have said. -/
structure Fields where
  eventName : JsString := []
  dataLines : List JsString := []

def Fields.read (fields : Fields) (line : JsString) : Fields :=
  match fieldOf line with
  | none => fields
  | some (field, value) =>
    if field = js "event" then { fields with eventName := value }
    else if field = js "data" then { fields with dataLines := fields.dataLines ++ [value] }
    else fields

def readFields (lines : List JsString) : Fields := lines.foldl Fields.read {}

/-- The frame that the lines make, if they say something. -/
def frameOf (lines : List JsString) : Option SseFrame :=
  let fields := readFields lines
  if fields.dataLines ≠ [] ∨ fields.eventName ≠ [] then
    some ⟨fields.eventName, [lineFeed].intercalate fields.dataLines⟩
  else none

/-- The text before the first `\n\n`, and the text behind it. -/
def splitFrame : JsString → Option (JsString × JsString)
  | c :: d :: s =>
    if c = lineFeed ∧ d = lineFeed then some ([], s)
    else (splitFrame (d :: s)).map fun e => (c :: e.1, e.2)
  | [_] => none
  | [] => none

theorem splitFrame_spec {s raw rest : JsString} (h : splitFrame s = some (raw, rest)) :
    s = raw ++ lineFeed :: lineFeed :: rest := by
  induction s using splitFrame.induct generalizing raw with
  | case1 c d s hend =>
    rw [splitFrame, if_pos hend] at h
    cases h
    rw [hend.1, hend.2]
    rfl
  | case2 c d s hend ih =>
    rw [splitFrame, if_neg hend] at h
    obtain ⟨e, he, heq⟩ := Option.map_eq_some_iff.mp h
    cases heq
    rw [ih he]
    rfl
  | case3 c => cases h
  | case4 => cases h

theorem splitFrame_append {s raw rest : JsString} (t : JsString) (h : splitFrame s = some (raw, rest)) :
    splitFrame (s ++ t) = some (raw, rest ++ t) := by
  induction s using splitFrame.induct generalizing raw with
  | case1 c d s hend =>
    rw [splitFrame, if_pos hend] at h
    cases h
    exact if_pos hend
  | case2 c d s hend ih =>
    rw [splitFrame, if_neg hend] at h
    obtain ⟨e, he, heq⟩ := Option.map_eq_some_iff.mp h
    cases heq
    show splitFrame (c :: d :: (s ++ t)) = _
    rw [splitFrame, if_neg hend]
    have hrest := ih he
    rw [List.cons_append] at hrest
    rw [hrest]
    rfl
  | case3 c => cases h
  | case4 => cases h

/-- Frames, taken off a buffer. -/
def frameSplitter : Splitter UInt16 JsString where
  take := splitFrame
  shorter h := by
    rw [splitFrame_spec h, List.length_append, List.length_cons, List.length_cons]
    omega
  stable t h := splitFrame_append t h

/-- The frames of a buffer, and what is left of it. -/
def parseBuffer (buffer : JsString) : List SseFrame × JsString :=
  let r := frameSplitter.drain buffer
  (r.1.filterMap fun raw => frameOf (raw.splitOn lineFeed), r.2)

/-- One chunk. -/
def parse (buffer chunk : JsString) : List SseFrame × JsString := parseBuffer (buffer ++ normalizeEnds chunk)

/-- Chunk after chunk: the frames in their order, and what is left of the buffer. -/
def parseAll (buffer : JsString) : List JsString → List SseFrame × JsString
  | [] => ([], buffer)
  | chunk :: chunks =>
    let now := parse buffer chunk
    let later := parseAll now.2 chunks
    (now.1 ++ later.1, later.2)

/-- What was appended to the buffer decides what comes out. -/
theorem parseAll_eq (chunks : List JsString) : parseAll [] chunks = parseBuffer (chunks.flatMap normalizeEnds) := by
  have hfeed : ∀ buffer, parseAll buffer chunks =
      ((frameSplitter.feed buffer (chunks.map normalizeEnds)).1.filterMap fun raw => frameOf (raw.splitOn lineFeed),
        (frameSplitter.feed buffer (chunks.map normalizeEnds)).2) := by
    induction chunks with
    | nil => exact fun _ => rfl
    | cons chunk chunks ih =>
      intro buffer
      rw [parseAll, ih, List.map_cons, Splitter.feed, List.filterMap_append]
      rfl
  have hempty : frameSplitter.take [] = none := rfl
  rw [hfeed, frameSplitter.feed_eq_drain hempty, List.nil_append, List.flatMap_def]
  rfl

/-! ## Lines -/

/-- A code unit of a line, or the end of one: `cut` when it is `\r\n` with a chunk boundary inside. -/
inductive Mark where
  | unit (c : UInt16)
  | lineEnd (cut : Bool)

/-- A chunk, each code unit with whether a chunk boundary stands before it. -/
def flagged : JsString → List (UInt16 × Bool)
  | [] => []
  | c :: s => (c, true) :: s.map fun d => (d, false)

def markOf (c : UInt16) : Mark := if c = carriageReturn ∨ c = lineFeed then .lineEnd false else .unit c

def marks : List (UInt16 × Bool) → List Mark
  | (c, _) :: (d, b) :: s =>
    if c = carriageReturn ∧ d = lineFeed then .lineEnd b :: marks s else markOf c :: marks ((d, b) :: s)
  | [(c, _)] => [markOf c]
  | [] => []

/-- A line without its end. -/
structure TextLine where
  text : JsString
  cut : Bool

/-- The lines that are ended, and the text behind the last line end. -/
def linesOf : List Mark → List TextLine × JsString
  | [] => ([], [])
  | .lineEnd cut :: ms =>
    let r := linesOf ms
    (⟨[], cut⟩ :: r.1, r.2)
  | .unit c :: ms =>
    match linesOf ms with
    | ([], rest) => ([], c :: rest)
    | (l :: ls, rest) => (⟨c :: l.text, l.cut⟩ :: ls, rest)

/-- A mark in the text as a whole. -/
def Mark.once : Mark → JsString
  | .unit c => [c]
  | .lineEnd _ => [lineFeed]

/-- A mark in the chunks as they are normalised: a line end that is cut counts twice. -/
def Mark.each : Mark → JsString
  | .unit c => [c]
  | .lineEnd cut => if cut then [lineFeed, lineFeed] else [lineFeed]

theorem normalizeEnds_crLf (s : JsString) :
    normalizeEnds (carriageReturn :: lineFeed :: s) = lineFeed :: normalizeEnds s := by
  unfold normalizeEnds
  rw [replaceCrLf, if_pos ⟨rfl, rfl⟩]
  rfl

theorem normalizeEnds_cons {c d : UInt16} (h : ¬ (c = carriageReturn ∧ d = lineFeed)) (s : JsString) :
    normalizeEnds (c :: d :: s) = (if c = carriageReturn then lineFeed else c) :: normalizeEnds (d :: s) := by
  unfold normalizeEnds
  rw [replaceCrLf, if_neg h]
  rfl

theorem once_markOf (c : UInt16) : (markOf c).once = [if c = carriageReturn then lineFeed else c] := by
  unfold markOf
  by_cases hcr : c = carriageReturn
  · rw [if_pos (.inl hcr), if_pos hcr]
    rfl
  · by_cases hlf : c = lineFeed
    · rw [if_pos (.inr hlf), if_neg hcr, hlf]
      rfl
    · rw [if_neg (not_or.mpr ⟨hcr, hlf⟩), if_neg hcr]
      rfl

theorem each_markOf (c : UInt16) : (markOf c).each = (markOf c).once := by
  unfold markOf
  split_ifs <;> rfl

/-- The text as a whole is normalised mark by mark. -/
theorem normalizeEnds_marks (fs : List (UInt16 × Bool)) : normalizeEnds (fs.map Prod.fst) = (marks fs).flatMap Mark.once := by
  induction fs using marks.induct with
  | case1 c a d b s hend ih =>
    rw [marks, if_pos hend, List.flatMap_cons, ← ih, List.map_cons, List.map_cons, hend.1, hend.2, normalizeEnds_crLf]
    rfl
  | case2 c a d b s hend ih =>
    rw [marks, if_neg hend, List.flatMap_cons, ← ih, List.map_cons, List.map_cons, normalizeEnds_cons hend, once_markOf]
    rfl
  | case3 c a =>
    rw [marks, List.flatMap_singleton, once_markOf]
    rfl
  | case4 => rfl

theorem marks_lineFeed (b : Bool) (fs : List (UInt16 × Bool)) : marks ((lineFeed, b) :: fs) = .lineEnd false :: marks fs := by
  cases fs with
  | nil => rfl
  | cons e fs =>
    obtain ⟨d, b'⟩ := e
    rw [marks, if_neg (fun h => absurd h.1 (by decide))]
    rfl

/-- A chunk is normalised on its own: a line end that is cut behind it is two line ends. -/
theorem each_marks_append {rest : List (UInt16 × Bool)} (hrest : ∀ e ∈ rest.head?, e.2 = true) :
    ∀ {fs : List (UInt16 × Bool)}, (∀ e ∈ fs.tail, e.2 = false) →
      (marks (fs ++ rest)).flatMap Mark.each = normalizeEnds (fs.map Prod.fst) ++ (marks rest).flatMap Mark.each := by
  intro fs
  induction fs using marks.induct with
  | case1 c a d b s hend ih =>
    intro hin
    have hb : b = false := hin (d, b) List.mem_cons_self
    have hs : ∀ e ∈ s.tail, e.2 = false := fun e he => hin e (List.mem_cons_of_mem _ (List.mem_of_mem_tail he))
    show (marks ((c, a) :: (d, b) :: (s ++ rest))).flatMap Mark.each = _
    rw [marks, if_pos hend, List.flatMap_cons, ih hs, List.map_cons, List.map_cons, hend.1, hend.2, normalizeEnds_crLf, hb]
    rfl
  | case2 c a d b s hend ih =>
    intro hin
    have hs : ∀ e ∈ s, e.2 = false := fun e he => hin e (List.mem_cons_of_mem _ he)
    show (marks ((c, a) :: (d, b) :: (s ++ rest))).flatMap Mark.each = _
    rw [marks, if_neg hend, List.flatMap_cons]
    have hlater := ih hs
    rw [List.cons_append] at hlater
    rw [hlater, each_markOf, once_markOf]
    show _ = normalizeEnds (c :: d :: s.map Prod.fst) ++ _
    rw [normalizeEnds_cons hend]
    rfl
  | case3 c a =>
    intro _
    cases rest with
    | nil =>
      show (marks [(c, a)]).flatMap Mark.each = _
      rw [marks, List.flatMap_singleton, each_markOf, once_markOf]
      rfl
    | cons e rest =>
      obtain ⟨d, b⟩ := e
      have hb : b = true := hrest (d, b) rfl
      show (marks ((c, a) :: (d, b) :: rest)).flatMap Mark.each = _
      by_cases hend : c = carriageReturn ∧ d = lineFeed
      · rw [marks, if_pos hend, hend.1, hend.2, marks_lineFeed, hb]
        rfl
      · rw [marks, if_neg hend, List.flatMap_cons, each_markOf, once_markOf]
        rfl
  | case4 =>
    intro _
    rfl

theorem flagged_units (chunk : JsString) : (flagged chunk).map Prod.fst = chunk := by
  cases chunk with
  | nil => rfl
  | cons c s =>
    show c :: (s.map fun d => (d, false)).map Prod.fst = c :: s
    rw [List.map_map, show (Prod.fst ∘ fun d : UInt16 => (d, false)) = id from rfl, List.map_id]

/-- The chunks, normalised one by one. -/
theorem flatMap_normalizeEnds (chunks : List JsString) :
    chunks.flatMap normalizeEnds = (marks (chunks.flatMap flagged)).flatMap Mark.each := by
  induction chunks with
  | nil => rfl
  | cons chunk chunks ih =>
    have hfirst : ∀ chunks : List JsString, ∀ e ∈ (chunks.flatMap flagged).head?, e.2 = true := by
      intro chunks
      induction chunks with
      | nil => exact fun e he => nomatch he
      | cons chunk chunks ih =>
        cases chunk with
        | nil => exact ih
        | cons c s =>
          intro e he
          cases he
          rfl
    have hin : ∀ e ∈ (flagged chunk).tail, e.2 = false := by
      cases chunk with
      | nil => exact fun e he => nomatch he
      | cons c s =>
        intro e he
        obtain ⟨d, -, rfl⟩ := List.mem_map.mp he
        rfl
    rw [List.flatMap_cons, List.flatMap_cons, each_marks_append (hfirst chunks) hin, flagged_units, ih]

/-! ## A text from its lines -/

/-- Lines with their ends, and the rest. -/
def textOf (lines : List JsString) (rest : JsString) : JsString := lines.flatMap (fun l => l ++ [lineFeed]) ++ rest

/-- A line that is cut is followed by a blank one. -/
def TextLine.each (l : TextLine) : List JsString := if l.cut then [l.text, []] else [l.text]

theorem once_linesOf (ms : List Mark) :
    ms.flatMap Mark.once = textOf ((linesOf ms).1.map TextLine.text) (linesOf ms).2 := by
  induction ms with
  | nil => rfl
  | cons m ms ih =>
    cases m with
    | lineEnd cut =>
      rw [List.flatMap_cons, ih]
      rfl
    | unit c =>
      rw [List.flatMap_cons, ih, linesOf]
      rcases linesOf ms with ⟨_ | ⟨l, ls⟩, rest⟩ <;> rfl

theorem each_linesOf (ms : List Mark) :
    ms.flatMap Mark.each = textOf ((linesOf ms).1.flatMap TextLine.each) (linesOf ms).2 := by
  induction ms with
  | nil => rfl
  | cons m ms ih =>
    cases m with
    | lineEnd cut =>
      rw [List.flatMap_cons, ih]
      cases cut <;> rfl
    | unit c =>
      rw [List.flatMap_cons, ih, linesOf]
      rcases linesOf ms with ⟨_ | ⟨⟨text, _ | _⟩, ls⟩, rest⟩ <;> rfl

/-- No line holds a line feed. -/
theorem linesOf_plain {ms : List Mark} (h : ∀ c, Mark.unit c ∈ ms → c ≠ lineFeed) :
    (∀ l ∈ (linesOf ms).1, lineFeed ∉ l.text) ∧ lineFeed ∉ (linesOf ms).2 := by
  induction ms with
  | nil => exact ⟨(fun _ hl => nomatch hl), (fun hl => nomatch hl)⟩
  | cons m ms ih =>
    obtain ⟨hlines, hrest⟩ := ih fun c hc => h c (List.mem_cons_of_mem _ hc)
    cases m with
    | lineEnd cut =>
      refine ⟨fun l hl => ?_, hrest⟩
      rcases List.mem_cons.mp hl with rfl | hl
      · exact fun hmem => nomatch hmem
      · exact hlines l hl
    | unit c =>
      have hc : lineFeed ≠ c := (h c List.mem_cons_self).symm
      unfold linesOf
      rcases hls : linesOf ms with ⟨_ | ⟨l, ls⟩, rest⟩
      · rw [hls] at hrest
        exact ⟨(fun _ hl => nomatch hl), List.not_mem_cons_of_ne_of_not_mem hc hrest⟩
      · rw [hls] at hlines hrest
        refine ⟨fun l' hl' => ?_, hrest⟩
        rcases List.mem_cons.mp hl' with rfl | hl'
        · exact List.not_mem_cons_of_ne_of_not_mem hc (hlines l List.mem_cons_self)
        · exact hlines l' (List.mem_cons_of_mem _ hl')

theorem unit_mem_marks {c : UInt16} {fs : List (UInt16 × Bool)} (h : Mark.unit c ∈ marks fs) : c ≠ lineFeed := by
  have hof : ∀ d, Mark.unit c = markOf d → c ≠ lineFeed := by
    intro d hd
    unfold markOf at hd
    split_ifs at hd with hend
    cases hd
    exact fun hc => hend (.inr hc)
  induction fs using marks.induct with
  | case1 d a e b s hend ih =>
    rw [marks, if_pos hend] at h
    rcases List.mem_cons.mp h with heq | h
    · cases heq
    · exact ih h
  | case2 d a e b s hend ih =>
    rw [marks, if_neg hend] at h
    rcases List.mem_cons.mp h with heq | h
    · exact hof d heq
    · exact ih h
  | case3 d a => exact hof d (List.mem_singleton.mp h)
  | case4 => cases h

/-! ## Line by line -/

/-- What the buffer holds: a line end without a line, perhaps, and the lines of a frame that is not ended. -/
structure Reader where
  lead : Bool := false
  pending : List JsString := []

def Reader.text (r : Reader) : JsString := (if r.lead then [lineFeed] else []) ++ textOf r.pending []

/-- One line. A blank one ends a frame, or is half of an empty one. -/
def Reader.line (r : Reader) (l : JsString) : List SseFrame × Reader :=
  if l ≠ [] then ([], { r with pending := r.pending ++ [l] })
  else if r.pending ≠ [] then ((frameOf r.pending).toList, {})
  else ([], { lead := !r.lead })

def readLines (r : Reader) : List JsString → List SseFrame × Reader
  | [] => ([], r)
  | l :: ls =>
    let now := r.line l
    let later := readLines now.2 ls
    (now.1 ++ later.1, later.2)

/-- The pending lines are neither blank nor hold a line feed. -/
def Reader.Plain (r : Reader) : Prop := ∀ l ∈ r.pending, l ≠ [] ∧ lineFeed ∉ l

theorem Reader.Plain.line {r : Reader} (hr : r.Plain) {l : JsString} (hl : lineFeed ∉ l) : (r.line l).2.Plain := by
  unfold Reader.line
  by_cases hblank : l ≠ []
  · rw [if_pos hblank]
    intro l' hl'
    rcases List.mem_append.mp hl' with hl' | hl'
    · exact hr l' hl'
    · rw [List.mem_singleton.mp hl']
      exact ⟨hblank, hl⟩
  · rw [if_neg hblank]
    by_cases hpending : r.pending ≠ []
    · rw [if_pos hpending]
      exact fun _ h => nomatch h
    · rw [if_neg hpending]
      exact fun _ h => nomatch h

theorem splitFrame_plain {s : JsString} (h : lineFeed ∉ s) : splitFrame s = none := by
  cases hs : splitFrame s with
  | none => rfl
  | some e =>
    refine absurd ?_ h
    rw [splitFrame_spec hs]
    exact List.mem_append_right _ List.mem_cons_self

/-- A line, and one line feed, before a text. -/
theorem splitFrame_line {l : JsString} (hl : lineFeed ∉ l) (hne : l ≠ []) (s : JsString) :
    splitFrame (l ++ lineFeed :: s) = (if s.head? = some lineFeed then some (l, s.tail)
      else (splitFrame s).map fun e => (l ++ lineFeed :: e.1, e.2)) := by
  induction l with
  | nil => exact absurd rfl hne
  | cons c l ih =>
    obtain ⟨hc, hl⟩ := List.ne_and_not_mem_of_not_mem_cons hl
    cases l with
    | nil =>
      show splitFrame (c :: lineFeed :: s) = _
      rw [splitFrame, if_neg (fun h => hc h.1.symm)]
      cases s with
      | nil => rfl
      | cons d s =>
        rw [splitFrame, List.head?_cons]
        by_cases hd : d = lineFeed
        · rw [if_pos ⟨rfl, hd⟩, if_pos (congrArg some hd)]
          rfl
        · rw [if_neg (fun h => hd h.2), if_neg (fun h => hd (Option.some.inj h)), Option.map_map]
          rfl
    | cons d l =>
      have hrest := ih hl (List.cons_ne_nil _ _)
      rw [List.cons_append] at hrest
      show splitFrame (c :: d :: (l ++ lineFeed :: s)) = _
      rw [splitFrame, if_neg (fun h => hc h.1.symm), hrest]
      split_ifs
      · rfl
      · rw [Option.map_map]
        rfl

theorem textOf_cons (l : JsString) (ls : List JsString) (rest : JsString) :
    textOf (l :: ls) rest = l ++ lineFeed :: textOf ls rest := by
  unfold textOf
  rw [List.flatMap_cons, List.append_assoc, List.append_assoc]
  rfl

theorem textOf_append (ls later : List JsString) (rest : JsString) :
    textOf (ls ++ later) rest = textOf ls [] ++ textOf later rest := by
  unfold textOf
  rw [List.flatMap_append, List.append_nil, List.append_assoc]

/-- A text that begins with a pending line does not begin with a line feed. -/
theorem head?_textOf {l : JsString} (hl : l ≠ [] ∧ lineFeed ∉ l) (ls : List JsString) (rest : JsString) :
    (textOf (l :: ls) rest).head? ≠ some lineFeed := by
  rw [textOf_cons]
  cases l with
  | nil => exact absurd rfl hl.1
  | cons c l =>
    intro hc
    cases hc
    exact hl.2 List.mem_cons_self

theorem splitFrame_textOf {ls : List JsString} (hls : ∀ l ∈ ls, l ≠ [] ∧ lineFeed ∉ l) {rest : JsString}
    (hrest : lineFeed ∉ rest) : splitFrame (textOf ls rest) = none := by
  induction ls with
  | nil => exact splitFrame_plain hrest
  | cons l ls ih =>
    have hl := hls l List.mem_cons_self
    have hhead : (textOf ls rest).head? ≠ some lineFeed := by
      cases ls with
      | nil => exact fun h => hrest (List.mem_of_mem_head? h)
      | cons l' ls => exact head?_textOf (hls l' (List.mem_cons_of_mem _ List.mem_cons_self)) ls rest
    rw [textOf_cons, splitFrame_line hl.2 hl.1, if_neg hhead, ih fun l' hl' => hls l' (List.mem_cons_of_mem _ hl')]
    rfl

/-- Lines, and a blank one: the first frame. -/
theorem splitFrame_ended {ls : List JsString} (hls : ∀ l ∈ ls, l ≠ [] ∧ lineFeed ∉ l) (hne : ls ≠ []) (s : JsString) :
    splitFrame (textOf ls (lineFeed :: s)) = some ([lineFeed].intercalate ls, s) := by
  induction ls with
  | nil => exact absurd rfl hne
  | cons l ls ih =>
    have hl := hls l List.mem_cons_self
    rw [textOf_cons, splitFrame_line hl.2 hl.1]
    cases ls with
    | nil =>
      have hhead : (textOf [] (lineFeed :: s)).head? = some lineFeed := rfl
      rw [if_pos hhead, List.intercalate_singleton]
      rfl
    | cons l' ls =>
      rw [if_neg (head?_textOf (hls l' (List.mem_cons_of_mem _ List.mem_cons_self)) ls _),
        ih (fun x hx => hls x (List.mem_cons_of_mem _ hx)) (List.cons_ne_nil _ _), List.intercalate_cons_cons]
      show some (_, _) = _
      rw [List.append_assoc]
      rfl

theorem splitFrame_lead {s : JsString} (h : s.head? ≠ some lineFeed) :
    splitFrame (lineFeed :: s) = (splitFrame s).map fun e => (lineFeed :: e.1, e.2) := by
  cases s with
  | nil => rfl
  | cons c s => rw [splitFrame, if_neg (fun hc => h (congrArg some hc.2))]

/-- A blank line says nothing. -/
theorem frameOf_blank (ls : List JsString) : frameOf ([] :: ls) = frameOf ls := rfl

theorem parseBuffer_none {buffer : JsString} (h : splitFrame buffer = none) : parseBuffer buffer = ([], buffer) := by
  have hdrain : frameSplitter.drain buffer = ([], buffer) := frameSplitter.drain_none h
  unfold parseBuffer
  rw [hdrain]
  rfl

theorem parseBuffer_some {buffer raw rest : JsString} (h : splitFrame buffer = some (raw, rest)) :
    parseBuffer buffer = ((frameOf (raw.splitOn lineFeed)).toList ++ (parseBuffer rest).1, (parseBuffer rest).2) := by
  have hdrain : frameSplitter.drain buffer = (raw :: (frameSplitter.drain rest).1, (frameSplitter.drain rest).2) :=
    frameSplitter.drain_some h
  unfold parseBuffer
  rw [hdrain]
  dsimp only
  rw [List.filterMap_cons]
  cases frameOf (raw.splitOn lineFeed) <;> rfl

/-- Pending lines and a blank one are a frame, whatever stands before them. -/
theorem parseBuffer_ended {r : Reader} (hr : r.Plain) (hne : r.pending ≠ []) (s : JsString) :
    parseBuffer (r.text ++ lineFeed :: s) = ((frameOf r.pending).toList ++ (parseBuffer s).1, (parseBuffer s).2) := by
  have htext : r.text ++ lineFeed :: s = (if r.lead then [lineFeed] else []) ++ textOf r.pending (lineFeed :: s) := by
    unfold Reader.text
    rw [List.append_assoc]
    unfold textOf
    rw [List.append_nil]
  have hended := splitFrame_ended hr hne s
  have hlines : ∀ l ∈ r.pending, lineFeed ∉ l := fun l hl => (hr l hl).2
  rw [htext]
  cases hlead : r.lead with
  | false =>
    rw [if_neg Bool.false_ne_true, List.nil_append, parseBuffer_some hended, List.splitOn_intercalate _ hlines hne]
  | true =>
    -- the frame begins with an empty line
    have hsplit : splitFrame (lineFeed :: textOf r.pending (lineFeed :: s)) =
        some ([lineFeed].intercalate ([] :: r.pending), s) := by
      rcases hpending : r.pending with _ | ⟨l, ls⟩
      · exact absurd hpending hne
      · rw [hpending] at hended
        rw [splitFrame_lead (head?_textOf (hr l (hpending ▸ List.mem_cons_self)) ls _), hended, List.intercalate_cons_cons]
        rfl
    have hblank : ∀ l ∈ [] :: r.pending, lineFeed ∉ l := by
      intro l hl
      rcases List.mem_cons.mp hl with rfl | hl
      · exact fun hmem => nomatch hmem
      · exact hlines l hl
    rw [if_pos rfl, List.singleton_append, parseBuffer_some hsplit, List.splitOn_intercalate _ hblank (List.cons_ne_nil _ _),
      frameOf_blank]

/-- The parser reads a text line by line. -/
theorem read_lines : ∀ {ls : List JsString} {r : Reader}, r.Plain → (∀ l ∈ ls, lineFeed ∉ l) → ∀ {rest : JsString},
    lineFeed ∉ rest → parseBuffer (r.text ++ textOf ls rest) = ((readLines r ls).1, (readLines r ls).2.text ++ rest) := by
  intro ls
  induction ls with
  | nil =>
    intro r hr _ rest hrest
    refine parseBuffer_none ?_
    show splitFrame (r.text ++ rest) = none
    have htext : r.text ++ rest = (if r.lead then [lineFeed] else []) ++ textOf r.pending rest := by
      unfold Reader.text textOf
      rw [List.append_nil, List.append_assoc]
    have hpending := splitFrame_textOf hr hrest
    rw [htext]
    cases r.lead with
    | false => exact hpending
    | true =>
      have hhead : (textOf r.pending rest).head? ≠ some lineFeed := by
        rcases hls : r.pending with _ | ⟨l, ls⟩
        · exact fun h => hrest (List.mem_of_mem_head? h)
        · exact head?_textOf (hr l (hls ▸ List.mem_cons_self)) ls rest
      have hlead := splitFrame_lead hhead
      rw [hpending] at hlead
      exact hlead
  | cons l ls ih =>
    intro r hr hls rest hrest
    have hl := hls l List.mem_cons_self
    have hlater : ∀ l' ∈ ls, lineFeed ∉ l' := fun l' hl' => hls l' (List.mem_cons_of_mem _ hl')
    have hread := ih (hr.line hl) hlater hrest
    rw [textOf_cons, readLines]
    by_cases hblank : l ≠ []
    · -- the line is pending
      have hline : r.line l = ([], { r with pending := r.pending ++ [l] }) := if_pos hblank
      have htext : r.text ++ (l ++ lineFeed :: textOf ls rest) = (r.line l).2.text ++ textOf ls rest := by
        rw [hline]
        unfold Reader.text
        rw [textOf_append, textOf_cons]
        simp [textOf]
      rw [htext, hread, hline]
      rfl
    · rw [not_not.mp hblank, List.nil_append]
      rw [not_not.mp hblank] at hread
      by_cases hpending : r.pending ≠ []
      · -- a blank line ends the frame
        have hline : r.line [] = ((frameOf r.pending).toList, {}) := by
          unfold Reader.line
          rw [if_neg (not_not.mpr rfl), if_pos hpending]
        rw [hline] at hread ⊢
        rw [parseBuffer_ended hr hpending]
        have hrest' : ({} : Reader).text ++ textOf ls rest = textOf ls rest := rfl
        rw [hrest'] at hread
        rw [hread]
      · have hline : r.line [] = ([], { lead := !r.lead }) := by
          unfold Reader.line
          rw [if_neg (not_not.mpr rfl), if_neg hpending]
        rw [hline] at hread ⊢
        have htext : r.text = if r.lead then [lineFeed] else [] := by
          unfold Reader.text
          rw [not_not.mp hpending]
          exact List.append_nil _
        rw [htext]
        cases hlead : r.lead with
        | false =>
          rw [hlead] at hread
          exact hread
        | true =>
          rw [hlead] at hread
          have hsplit : splitFrame (lineFeed :: lineFeed :: textOf ls rest) = some ([], textOf ls rest) := if_pos ⟨rfl, rfl⟩
          rw [if_pos rfl, List.singleton_append, parseBuffer_some hsplit]
          exact hread

end NovaCommerce.Frontend
