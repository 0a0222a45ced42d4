import NovaCommerce.Frontend.Sse

/-!
# Streams cut into chunks

A chunk boundary inside `\r\n` makes two line ends of one: the parser sees a blank line that the stream does not have. The blank
line splits a frame, or shifts the pairing of the line ends around it.

* `pieces` : the parts that the cuts make of a frame; `OneVoice` : only one of them says something (`frames_pieces_iff`);
* `CutsHarmless` : when the cuts of a stream change nothing;
* `cuts_harmless_iff` : chunk by chunk, the parser finds what it finds in the text as a whole, exactly then.
-/

namespace NovaCommerce.Frontend

/-! ## What lines say -/

/-- The lines make no frame. -/
def Silent (lines : List JsString) : Prop := (readFields lines).dataLines = [] ∧ (readFields lines).eventName = []

def NamesEvent (lines : List JsString) : Prop := ∃ l ∈ lines, (fieldOf l).map Prod.fst = some (js "event")

theorem frameOf_eq_none {lines : List JsString} : frameOf lines = none ↔ Silent lines := by
  unfold frameOf Silent
  dsimp only
  split_ifs with h
  · refine ⟨(fun hnone => nomatch hnone), fun hsilent => ?_⟩
    rcases h with h | h
    · exact absurd hsilent.1 h
    · exact absurd hsilent.2 h
  · rw [not_or, not_not, not_not] at h
    exact ⟨fun _ => h, fun _ => rfl⟩

theorem event_frameOf {lines : List JsString} {frame : SseFrame} (h : frameOf lines = some frame) :
    frame.event = (readFields lines).eventName := by
  unfold frameOf at h
  dsimp only at h
  split_ifs at h
  cases h
  rfl

theorem read_dataLines (fields : Fields) (line : JsString) :
    (fields.read line).dataLines = fields.dataLines ++ (Fields.read {} line).dataLines := by
  unfold Fields.read
  cases fieldOf line with
  | none => exact (List.append_nil _).symm
  | some e =>
    dsimp only
    split_ifs
    · exact (List.append_nil _).symm
    · rfl
    · exact (List.append_nil _).symm

theorem foldl_dataLines (lines : List JsString) (fields : Fields) :
    (lines.foldl Fields.read fields).dataLines = fields.dataLines ++ (readFields lines).dataLines := by
  unfold readFields
  induction lines generalizing fields with
  | nil => exact (List.append_nil _).symm
  | cons l ls ih => rw [List.foldl_cons, List.foldl_cons, ih, ih (Fields.read {} l), read_dataLines, List.append_assoc]

/-- Whether an event is named before makes no difference behind a line that names one. -/
theorem foldl_eventName {lines : List JsString} (fields : Fields) :
    (NamesEvent lines → (lines.foldl Fields.read fields).eventName = (readFields lines).eventName) ∧
      (¬ NamesEvent lines → (lines.foldl Fields.read fields).eventName = fields.eventName) := by
  unfold readFields
  induction lines generalizing fields with
  | nil => exact ⟨(fun h => nomatch h.choose_spec.1), fun _ => rfl⟩
  | cons l ls ih =>
    rw [List.foldl_cons, List.foldl_cons]
    have hread : (fieldOf l).map Prod.fst ≠ some (js "event") → (fields.read l).eventName = fields.eventName := by
      intro h
      unfold Fields.read
      cases hf : fieldOf l with
      | none => rfl
      | some e =>
        rw [hf] at h
        dsimp only
        rw [if_neg fun he => h (congrArg some he)]
        split_ifs <;> rfl
    by_cases hlater : NamesEvent ls
    · refine ⟨fun _ => ?_, fun h => absurd ?_ h⟩
      · rw [(ih _).1 hlater, (ih (Fields.read {} l)).1 hlater]
      · obtain ⟨x, hx, hevent⟩ := hlater
        exact ⟨x, List.mem_cons_of_mem _ hx, hevent⟩
    · rw [(ih _).2 hlater, (ih (Fields.read {} l)).2 hlater]
      refine ⟨fun h => ?_, fun h => hread fun hevent => h ⟨l, List.mem_cons_self, hevent⟩⟩
      have hevent : (fieldOf l).map Prod.fst = some (js "event") := by
        obtain ⟨x, hx, hevent⟩ := h
        rcases List.mem_cons.mp hx with rfl | hx
        · exact hevent
        · exact absurd ⟨x, hx, hevent⟩ hlater
      unfold Fields.read
      obtain ⟨e, he, heq⟩ := Option.map_eq_some_iff.mp hevent
      rw [he]
      dsimp only
      rw [if_pos heq, if_pos heq]

theorem readFields_append (lines later : List JsString) :
    readFields (lines ++ later) = later.foldl Fields.read (readFields lines) := List.foldl_append

theorem dataLines_append (lines later : List JsString) :
    (readFields (lines ++ later)).dataLines = (readFields lines).dataLines ++ (readFields later).dataLines := by
  rw [readFields_append, foldl_dataLines]

theorem eventName_of_not_namesEvent {lines : List JsString} (h : ¬ NamesEvent lines) : (readFields lines).eventName = [] :=
  (foldl_eventName {}).2 h

/-- Lines behind others have the last word on the event name, when they name one. -/
theorem eventName_append {lines later : List JsString} :
    (NamesEvent later → (readFields (lines ++ later)).eventName = (readFields later).eventName) ∧
      (¬ NamesEvent later → (readFields (lines ++ later)).eventName = (readFields lines).eventName) := by
  rw [readFields_append]
  exact foldl_eventName _

theorem Silent.flatten {ps : List (List JsString)} (h : ∀ p ∈ ps, Silent p) : Silent ps.flatten := by
  induction ps with
  | nil => exact ⟨rfl, rfl⟩
  | cons p ps ih =>
    have hp := h p List.mem_cons_self
    have hps := ih fun q hq => h q (List.mem_cons_of_mem _ hq)
    rw [List.flatten_cons]
    refine ⟨?_, ?_⟩
    · rw [dataLines_append, hp.1, hps.1]
      rfl
    · by_cases hnames : NamesEvent ps.flatten
      · rw [eventName_append.1 hnames, hps.2]
      · rw [eventName_append.2 hnames, hp.2]

/-- Silent lines before others change nothing. -/
theorem Silent.frameOf_append {p later : List JsString} (h : Silent p) : frameOf (p ++ later) = frameOf later := by
  have hname : (readFields (p ++ later)).eventName = (readFields later).eventName := by
    by_cases hnames : NamesEvent later
    · exact eventName_append.1 hnames
    · rw [eventName_append.2 hnames, h.2, eventName_of_not_namesEvent hnames]
  unfold frameOf
  dsimp only
  rw [dataLines_append, h.1, List.nil_append, hname]

/-! ## Pieces of a frame -/

/-- A piece that says something is the only one, and the pieces behind it do not take its event name away. -/
def OneVoice (ps : List (List JsString)) : Prop :=
  ∀ before p after, ps = before ++ p :: after → ¬ Silent p →
    (∀ q ∈ before ++ after, Silent q) ∧ ((readFields p).eventName = [] ∨ ∀ q ∈ after, ¬ NamesEvent q)

theorem OneVoice.cons_silent {p : List JsString} (h : Silent p) (ps : List (List JsString)) : OneVoice (p :: ps) ↔ OneVoice ps := by
  constructor
  · intro hone before q after heq hq
    obtain ⟨hsilent, hname⟩ := hone (p :: before) q after (by rw [heq, List.cons_append]) hq
    exact ⟨fun x hx => hsilent x (List.mem_cons_of_mem _ hx), hname⟩
  · intro hone before q after heq hq
    cases before with
    | nil =>
      cases heq
      exact absurd h hq
    | cons p' before =>
      obtain ⟨rfl, hps⟩ := List.cons.inj heq
      obtain ⟨hsilent, hname⟩ := hone before q after hps hq
      refine ⟨fun x hx => ?_, hname⟩
      rcases List.mem_cons.mp hx with rfl | hx
      · exact h
      · exact hsilent x hx

theorem OneVoice.cons_speaking {p : List JsString} (h : ¬ Silent p) (ps : List (List JsString)) :
    OneVoice (p :: ps) ↔ (∀ q ∈ ps, Silent q) ∧ ((readFields p).eventName = [] ∨ ¬ NamesEvent ps.flatten) := by
  have hflatten : (∀ q ∈ ps, ¬ NamesEvent q) ↔ ¬ NamesEvent ps.flatten := by
    constructor
    · rintro hps ⟨l, hl, hevent⟩
      obtain ⟨q, hq, hlq⟩ := List.mem_flatten.mp hl
      exact hps q hq ⟨l, hlq, hevent⟩
    · rintro hps q hq ⟨l, hl, hevent⟩
      exact hps ⟨l, List.mem_flatten.mpr ⟨q, hq, hl⟩, hevent⟩
  rw [← hflatten]
  constructor
  · exact fun hone => hone [] p ps rfl h
  · rintro hps before q after heq hq
    cases before with
    | nil =>
      obtain ⟨rfl, rfl⟩ := List.cons.inj heq
      exact hps
    | cons p' before =>
      obtain ⟨-, hrest⟩ := List.cons.inj heq
      refine absurd (hps.1 q ?_) hq
      rw [hrest]
      exact List.mem_append_right _ List.mem_cons_self

/-- The pieces make at least as many frames as they make together, and the same ones exactly when only one of them speaks. -/
theorem frames_pieces_iff (ps : List (List JsString)) :
    (frameOf ps.flatten).toList.length ≤ (ps.filterMap frameOf).length ∧
      (ps.filterMap frameOf = (frameOf ps.flatten).toList ↔ OneVoice ps) := by
  induction ps with
  | nil => exact ⟨le_refl _, (fun _ before p after h => by simp at h), fun _ => rfl⟩
  | cons p ps ih =>
    rw [List.flatten_cons]
    by_cases hp : Silent p
    · rw [List.filterMap_cons_none (frameOf_eq_none.mpr hp), hp.frameOf_append, OneVoice.cons_silent hp]
      exact ih
    · obtain ⟨frame, hframe⟩ := Option.ne_none_iff_exists'.mp fun hnone => hp (frameOf_eq_none.mp hnone)
      rw [List.filterMap_cons_some hframe, OneVoice.cons_speaking hp]
      refine ⟨?_, ?_⟩
      · rw [List.length_cons]
        cases frameOf (p ++ ps.flatten) <;> simp
      constructor
      · intro heq
        have hnone : ps.filterMap frameOf = [] ∧ frameOf (p ++ ps.flatten) = some frame := by
          cases hf : frameOf (p ++ ps.flatten) with
          | none =>
            rw [hf] at heq
            cases heq
          | some f =>
            rw [hf] at heq
            obtain ⟨rfl, hrest⟩ := List.cons.inj heq
            exact ⟨hrest, rfl⟩
        have hsilent : ∀ q ∈ ps, Silent q := fun q hq => frameOf_eq_none.mp (List.filterMap_eq_nil_iff.mp hnone.1 q hq)
        refine ⟨hsilent, ?_⟩
        by_cases hnames : NamesEvent ps.flatten
        · left
          rw [← event_frameOf hframe, event_frameOf hnone.2, eventName_append.1 hnames]
          exact (Silent.flatten hsilent).2
        · exact .inr hnames
      · rintro ⟨hsilent, hname⟩
        have hflat := Silent.flatten hsilent
        have hevent : (readFields (p ++ ps.flatten)).eventName = (readFields p).eventName := by
          by_cases hnames : NamesEvent ps.flatten
          · rw [eventName_append.1 hnames, hflat.2, hname.resolve_right fun h => h hnames]
          · exact eventName_append.2 hnames
        have hsame : frameOf (p ++ ps.flatten) = frameOf p := by
          unfold frameOf
          dsimp only
          rw [dataLines_append, hflat.1, List.append_nil, hevent]
        rw [hsame, hframe, List.filterMap_eq_nil_iff.mpr fun q hq => frameOf_eq_none.mpr (hsilent q hq)]
        rfl

/-! ## Lines that are cut -/

def TextLine.isBlank (l : TextLine) : Bool := decide (l.text = [])

/-- The pieces of a frame that is cut behind some of its lines, after the lines `open_`: those that are closed, and the
one that is open. -/
def piecesFrom (opened : List JsString) : List TextLine → List (List JsString) × List JsString
  | [] => ([], opened)
  | l :: ls =>
    if l.cut then
      let later := piecesFrom [] ls
      ((opened ++ [l.text]) :: later.1, later.2)
    else piecesFrom (opened ++ [l.text]) ls

def pieces (ls : List TextLine) : List (List JsString) := (piecesFrom [] ls).1 ++ [(piecesFrom [] ls).2]

/-- The lines between the blank ones. All but the last of these paragraphs are frames that are ended. -/
def paragraphs (ls : List TextLine) : List (List TextLine) := ls.splitOnP TextLine.isBlank

/-- Whether an odd number of line ends is cut from the last line of the last frame that is ended, up to the lines behind it. -/
def oddGap (odd : Bool) (ls : List TextLine) : Bool :=
  (ls.rdropWhile fun l => !l.isBlank).foldl (fun odd l => if l.isBlank then xor odd l.cut else l.cut) odd

/-- The cuts change nothing: of the pieces of an ended frame only one speaks, the lines of a frame that is not ended are not
cut, and the line ends before it are cut in pairs. -/
structure CutsHarmless (ls : List TextLine) : Prop where
  ended : ∀ p ∈ (paragraphs ls).dropLast, OneVoice (pieces p)
  opened : ∀ p ∈ (paragraphs ls).getLast?, ∀ l ∈ p, l.cut = false
  gap : oddGap false ls = false

theorem flatten_piecesFrom (opened : List JsString) (ls : List TextLine) :
    (piecesFrom opened ls).1.flatten ++ (piecesFrom opened ls).2 = opened ++ ls.map TextLine.text := by
  induction ls generalizing opened with
  | nil => exact (List.append_nil _).symm
  | cons l ls ih =>
    rw [piecesFrom]
    split_ifs
    · dsimp only
      rw [List.flatten_cons, List.append_assoc, ih, List.nil_append, List.append_assoc]
      rfl
    · rw [ih, List.append_assoc]
      rfl

theorem flatten_pieces (ls : List TextLine) : (pieces ls).flatten = ls.map TextLine.text := by
  unfold pieces
  rw [List.flatten_append, List.flatten_singleton, flatten_piecesFrom, List.nil_append]

theorem piecesFrom_uncut {ls : List TextLine} (h : ∀ l ∈ ls, l.cut = false) (opened : List JsString) :
    piecesFrom opened ls = ([], opened ++ ls.map TextLine.text) := by
  induction ls generalizing opened with
  | nil => rw [piecesFrom, List.map_nil, List.append_nil]
  | cons l ls ih =>
    rw [piecesFrom, h l List.mem_cons_self, if_neg Bool.false_ne_true, ih fun x hx => h x (List.mem_cons_of_mem _ hx),
      List.append_assoc]
    rfl

/-- The open piece is empty when the last line is cut. -/
theorem open_piece_iff {ls : List TextLine} {l : TextLine} (opened : List JsString) :
    (piecesFrom opened (ls ++ [l])).2 = [] ↔ l.cut = true := by
  induction ls generalizing opened with
  | nil =>
    rw [List.nil_append, piecesFrom]
    split_ifs with hcut
    · exact ⟨fun _ => hcut, fun _ => rfl⟩
    · exact ⟨fun h => absurd h (List.append_ne_nil_of_right_ne_nil _ (List.cons_ne_nil _ _)), fun h => absurd h hcut⟩
  | cons x ls ih =>
    rw [List.cons_append, piecesFrom]
    split_ifs
    · exact ih []
    · exact ih _

/-! ## Reading lines -/

theorem readLines_append (r : Reader) (ls later : List JsString) :
    readLines r (ls ++ later) =
      ((readLines r ls).1 ++ (readLines (readLines r ls).2 later).1, (readLines (readLines r ls).2 later).2) := by
  induction ls generalizing r with
  | nil => rfl
  | cons l ls ih =>
    rw [List.cons_append, readLines, readLines, ih, List.append_assoc]

/-- Lines that are not blank are pending. -/
theorem readLines_paragraph {ls : List TextLine} (h : ∀ l ∈ ls, l.isBlank = false) (r : Reader) :
    readLines r (ls.map TextLine.text) = ([], { r with pending := r.pending ++ ls.map TextLine.text }) := by
  induction ls generalizing r with
  | nil =>
    rw [List.map_nil, List.append_nil]
    rfl
  | cons l ls ih =>
    have hl : l.text ≠ [] := of_decide_eq_false (h l List.mem_cons_self)
    have hline : r.line l.text = ([], { r with pending := r.pending ++ [l.text] }) := if_pos hl
    rw [List.map_cons, readLines, hline]
    dsimp only
    rw [ih fun x hx => h x (List.mem_cons_of_mem _ hx), List.append_assoc]
    rfl

/-- Each cut ends a piece. -/
theorem readLines_pieces {ls : List TextLine} (h : ∀ l ∈ ls, l.isBlank = false) (r : Reader) :
    readLines r (ls.flatMap TextLine.each) =
      ((piecesFrom r.pending ls).1.filterMap frameOf,
        ⟨if ls.any TextLine.cut then false else r.lead, (piecesFrom r.pending ls).2⟩) := by
  induction ls generalizing r with
  | nil => rfl
  | cons l ls ih =>
    have hl : l.text ≠ [] := of_decide_eq_false (h l List.mem_cons_self)
    have hline : r.line l.text = ([], { r with pending := r.pending ++ [l.text] }) := if_pos hl
    have hlater := ih fun x hx => h x (List.mem_cons_of_mem _ hx)
    have hone : readLines r [l.text] = ([], { r with pending := r.pending ++ [l.text] }) := by
      rw [readLines, hline]
      rfl
    rw [List.flatMap_cons, readLines_append, piecesFrom, List.any_cons]
    cases hcut : l.cut with
    | false =>
      have heach : l.each = [l.text] := by
        unfold TextLine.each
        rw [hcut, if_neg Bool.false_ne_true]
      rw [heach, hone, hlater]
      rfl
    | true =>
      have hpending : r.pending ++ [l.text] ≠ [] := List.append_ne_nil_of_right_ne_nil _ (List.cons_ne_nil _ _)
      have hblank : readLines { r with pending := r.pending ++ [l.text] } [[]] =
          ((frameOf (r.pending ++ [l.text])).toList, {}) := by
        rw [readLines]
        unfold Reader.line
        rw [if_neg (not_not.mpr rfl), if_pos hpending]
        exact congrArg (·, ({} : Reader)) (List.append_nil _)
      have htwo : readLines r [l.text, []] = ((frameOf (r.pending ++ [l.text])).toList, {}) := by
        rw [← List.singleton_append, readLines_append, hone]
        dsimp only
        rw [hblank, List.nil_append]
      have heach : l.each = [l.text, []] := by
        unfold TextLine.each
        rw [hcut, if_pos rfl]
      rw [heach, htwo, hlater, if_pos rfl, Bool.true_or, if_pos rfl]
      dsimp only
      rw [List.filterMap_cons, ite_self]
      cases frameOf (r.pending ++ [l.text]) <;> rfl

/-! ## A stream and its text -/

theorem paragraphs_opened {p : List TextLine} (h : ∀ l ∈ p, l.isBlank = false) : paragraphs p = [p] :=
  List.splitOnP_eq_singleton h

theorem paragraphs_ended {p : List TextLine} (h : ∀ l ∈ p, l.isBlank = false) {blank : TextLine} (hblank : blank.isBlank = true)
    (ls : List TextLine) : paragraphs (p ++ blank :: ls) = p :: paragraphs ls :=
  List.splitOnP_append_cons_of_forall_mem h blank hblank ls

theorem oddGap_opened {p : List TextLine} (h : ∀ l ∈ p, l.isBlank = false) (odd : Bool) : oddGap odd p = odd := by
  have hdrop : (p.rdropWhile fun l => !l.isBlank) = [] :=
    List.rdropWhile_eq_nil_iff.mpr fun l hl => by rw [h l hl]; rfl
  unfold oddGap
  rw [hdrop]
  rfl

theorem oddGap_ended {p : List TextLine} (h : ∀ l ∈ p, l.isBlank = false) {blank : TextLine} (hblank : blank.isBlank = true)
    (ls : List TextLine) (odd : Bool) :
    oddGap odd (p ++ blank :: ls) = oddGap (xor ((p.getLast?.map TextLine.cut).getD odd) blank.cut) ls := by
  have hdrop : ((p ++ blank :: ls).rdropWhile fun l => !l.isBlank) = p ++ blank :: ls.rdropWhile fun l => !l.isBlank := by
    have hstop : (blank :: p.reverse).dropWhile (fun l => !l.isBlank) = blank :: p.reverse :=
      List.dropWhile_cons_of_neg (by rw [hblank]; exact Bool.false_ne_true)
    unfold List.rdropWhile
    rw [List.reverse_append, List.reverse_cons, List.append_assoc, List.dropWhile_append, List.singleton_append, hstop]
    cases hrest : ls.reverse.dropWhile fun l => !l.isBlank with
    | nil =>
      rw [List.isEmpty_nil, if_pos rfl, List.reverse_cons, List.reverse_reverse]
      rfl
    | cons x xs =>
      rw [List.isEmpty_cons, if_neg Bool.false_ne_true, List.reverse_append, List.reverse_cons, List.reverse_reverse,
        List.append_assoc]
      rfl
  have hfold : ∀ (p : List TextLine) (odd : Bool), (∀ l ∈ p, l.isBlank = false) →
      p.foldl (fun odd l => if l.isBlank then xor odd l.cut else l.cut) odd = (p.getLast?.map TextLine.cut).getD odd := by
    intro p
    induction p using List.reverseRecOn with
    | nil => exact fun _ _ => rfl
    | append_singleton p l _ =>
      intro odd hp
      rw [List.foldl_append, List.getLast?_concat, List.foldl_cons, List.foldl_nil,
        hp l (List.mem_append_right _ List.mem_cons_self)]
      rfl
  unfold oddGap
  rw [hdrop, List.foldl_append, hfold p odd h, List.foldl_cons, hblank, if_pos rfl]

theorem readLines_blank (lead : Bool) (q : List JsString) :
    readLines ⟨lead, q⟩ [[]] = ((frameOf q).toList, ⟨if q = [] then !lead else false, []⟩) := by
  rw [readLines, readLines]
  unfold Reader.line
  rw [if_neg (not_not.mpr rfl)]
  by_cases hq : q = []
  · rw [if_neg (not_not.mpr hq), if_pos hq, hq]
    rfl
  · rw [if_pos hq, if_neg hq, List.append_nil]

/-- A blank line, and another one when its end is cut. -/
theorem readLines_each_blank {blank : TextLine} (hblank : blank.isBlank = true) (lead : Bool) (q : List JsString) :
    readLines ⟨lead, q⟩ blank.each = ((frameOf q).toList, ⟨xor (if q = [] then !lead else false) blank.cut, []⟩) := by
  have htext : blank.text = [] := of_decide_eq_true hblank
  unfold TextLine.each
  rw [htext]
  cases blank.cut with
  | false => rw [if_neg Bool.false_ne_true, readLines_blank, Bool.xor_false]
  | true =>
    rw [if_pos rfl, ← List.singleton_append, readLines_append, readLines_blank, readLines_blank, if_pos rfl, Bool.xor_true]
    exact congrArg (·, _) (List.append_nil _)

/-- What an ended frame comes to, in the text and in the chunks. -/
theorem readLines_ended {p : List TextLine} (h : ∀ l ∈ p, l.isBlank = false) {blank : TextLine} (hblank : blank.isBlank = true)
    (a b : Bool) : ∃ a' b', readLines ⟨a, []⟩ ((p ++ [blank]).map TextLine.text) = ((frameOf (p.map TextLine.text)).toList, ⟨a', []⟩) ∧
      readLines ⟨b, []⟩ ((p ++ [blank]).flatMap TextLine.each) = ((pieces p).filterMap frameOf, ⟨b', []⟩) ∧
      xor a' b' = xor ((p.getLast?.map TextLine.cut).getD (xor a b)) blank.cut := by
  have htext : blank.text = [] := of_decide_eq_true hblank
  refine ⟨if p.map TextLine.text = [] then !a else false,
    xor (if (piecesFrom [] p).2 = [] then !(if p.any TextLine.cut then false else b) else false) blank.cut, ?_, ?_, ?_⟩
  · rw [List.map_append, readLines_append, readLines_paragraph h, List.map_singleton, htext]
    dsimp only
    rw [List.nil_append, readLines_blank]
    rfl
  · rw [List.flatMap_append, List.flatMap_singleton, readLines_append, readLines_pieces h]
    dsimp only
    rw [readLines_each_blank hblank]
    unfold pieces
    rw [List.filterMap_append, List.filterMap_cons]
    cases frameOf (piecesFrom [] p).2 <;> rfl
  · rcases List.eq_nil_or_concat p with rfl | ⟨ls, l, rfl⟩
    · show xor (!a) (xor (!b) blank.cut) = xor (xor a b) blank.cut
      rw [Bool.not_xor, Bool.not_xor, Bool.xor_not, Bool.not_not, Bool.xor_assoc]
    · have hne : (ls.concat l).map TextLine.text ≠ [] := by simp
      rw [if_neg hne, Bool.false_xor, List.concat_eq_append, List.getLast?_concat]
      refine congrArg (xor · blank.cut) ?_
      show _ = l.cut
      cases hcut : l.cut with
      | false =>
        have hopen : (piecesFrom [] (ls ++ [l])).2 ≠ [] := fun hnil => by
          rw [open_piece_iff, hcut] at hnil
          cases hnil
        rw [if_neg hopen]
      | true =>
        have hany : (ls ++ [l]).any TextLine.cut = true := List.any_eq_true.mpr ⟨l, by simp, hcut⟩
        rw [if_pos ((open_piece_iff []).mpr hcut), if_pos hany]
        rfl

/-- Frame by frame: an open one, or one that a blank line ends and the lines behind it. -/
theorem paragraph_induction {P : List TextLine → Prop} (opened : ∀ p, (∀ l ∈ p, l.isBlank = false) → P p)
    (ended : ∀ p blank ls, (∀ l ∈ p, l.isBlank = false) → blank.isBlank = true → P ls → P (p ++ blank :: ls))
    (ls : List TextLine) : P ls := by
  have hfrom : ∀ ls p, (∀ l ∈ p, l.isBlank = false) → P (p ++ ls) := by
    intro ls
    induction ls with
    | nil =>
      intro p hp
      rw [List.append_nil]
      exact opened p hp
    | cons l ls ih =>
      intro p hp
      cases hl : l.isBlank with
      | true => exact ended p l ls hp hl (ih [] fun _ h => nomatch h)
      | false =>
        rw [List.append_cons]
        refine ih (p ++ [l]) fun x hx => ?_
        rcases List.mem_append.mp hx with hx | hx
        · exact hp x hx
        · rw [List.mem_singleton.mp hx]
          exact hl
  exact hfrom ls [] fun _ h => nomatch h

/-- A cut closes a piece. -/
theorem closed_ne_nil {ls : List TextLine} (h : ls.any TextLine.cut = true) (opened : List JsString) :
    (piecesFrom opened ls).1.flatten ≠ [] := by
  induction ls generalizing opened with
  | nil => cases h
  | cons l ls ih =>
    rw [piecesFrom]
    split_ifs with hcut
    · rw [List.flatten_cons, List.append_assoc]
      exact List.append_ne_nil_of_right_ne_nil _ (List.cons_ne_nil _ _)
    · refine ih ?_ _
      rw [List.any_cons, Bool.or_eq_true] at h
      exact h.resolve_left hcut

/-- Lines of a frame that is not ended: what is left is the same when none of them is cut, and as many line ends stand before
them. -/
theorem left_opened_iff {p : List TextLine} (a b : Bool) :
    Reader.text ⟨if p.any TextLine.cut then false else b, (piecesFrom [] p).2⟩ = Reader.text ⟨a, p.map TextLine.text⟩ ↔
      (∀ l ∈ p, l.cut = false) ∧ xor a b = false := by
  cases hany : p.any TextLine.cut with
  | true =>
    have hcut : ¬ ∀ l ∈ p, l.cut = false := by
      obtain ⟨l, hl, hcut⟩ := List.any_eq_true.mp hany
      intro h
      rw [h l hl] at hcut
      cases hcut
    refine ⟨fun htext => ?_, fun h => absurd h.1 hcut⟩
    have hflat := flatten_piecesFrom [] p
    have hclosed := closed_ne_nil hany []
    rw [List.nil_append] at hflat
    rw [if_pos rfl, ← hflat] at htext
    unfold Reader.text at htext
    rw [textOf_append] at htext
    have hlength := congrArg List.length htext
    rcases hlines : (piecesFrom [] p).1.flatten with _ | ⟨l, ls⟩
    · exact absurd hlines hclosed
    · rw [hlines, textOf_cons] at hlength
      simp only [Bool.false_eq_true, if_false, List.nil_append, List.length_append, List.length_cons] at hlength
      omega
  | false =>
    have huncut : ∀ l ∈ p, l.cut = false := fun l hl => by
      have h := List.any_eq_false.mp hany l hl
      rwa [Bool.not_eq_true] at h
    rw [piecesFrom_uncut huncut, if_neg Bool.false_ne_true, List.nil_append]
    unfold Reader.text
    dsimp only
    rw [List.append_left_inj, and_iff_right huncut]
    cases a <;> cases b <;> simp

/-- What the parser finds chunk by chunk, against what it finds in the text: never fewer frames, and the same exactly when the
cuts are harmless. -/
theorem readLines_each_iff (ls : List TextLine) : ∀ a b : Bool,
    (readLines ⟨a, []⟩ (ls.map TextLine.text)).1.length ≤ (readLines ⟨b, []⟩ (ls.flatMap TextLine.each)).1.length ∧
      ((readLines ⟨b, []⟩ (ls.flatMap TextLine.each)).1 = (readLines ⟨a, []⟩ (ls.map TextLine.text)).1 ∧
        (readLines ⟨b, []⟩ (ls.flatMap TextLine.each)).2.text = (readLines ⟨a, []⟩ (ls.map TextLine.text)).2.text ↔
      (∀ p ∈ (paragraphs ls).dropLast, OneVoice (pieces p)) ∧ (∀ p ∈ (paragraphs ls).getLast?, ∀ l ∈ p, l.cut = false) ∧
        oddGap (xor a b) ls = false) := by
  induction ls using paragraph_induction with
  | opened p hp =>
    intro a b
    rw [readLines_paragraph hp, readLines_pieces hp, paragraphs_opened hp, oddGap_opened hp]
    refine ⟨Nat.zero_le _, ?_⟩
    dsimp only
    rw [List.nil_append, left_opened_iff]
    constructor
    · rintro ⟨-, huncut, hodd⟩
      refine ⟨(fun _ h => nomatch h), fun q hq => ?_, hodd⟩
      cases hq
      exact huncut
    · rintro ⟨-, huncut, hodd⟩
      have h := huncut p rfl
      refine ⟨?_, h, hodd⟩
      rw [piecesFrom_uncut h]
      rfl
  | ended p blank ls hp hblank ih =>
    intro a b
    obtain ⟨a', b', hwhole, hcuts, hxor⟩ := readLines_ended hp hblank a b
    obtain ⟨hlength, hiff⟩ := ih a' b'
    obtain ⟨hpieces, hvoice⟩ := frames_pieces_iff (pieces p)
    rw [flatten_pieces] at hpieces hvoice
    have hne : paragraphs ls ≠ [] := List.splitOnP_ne_nil _ _
    rw [paragraphs_ended hp hblank, oddGap_ended hp hblank, ← hxor, List.append_cons, List.map_append, List.flatMap_append,
      readLines_append, readLines_append, hwhole, hcuts, List.dropLast_cons_of_ne_nil hne, List.getLast?_cons_of_ne_nil hne]
    dsimp only
    refine ⟨?_, ?_⟩
    · rw [List.length_append, List.length_append]
      omega
    · -- the frames of `p` agree, and those of the lines behind it: no part can make up for another
      have hframes : ∀ {xs ys us vs : List SseFrame}, ys.length ≤ xs.length → vs.length ≤ us.length →
          (xs ++ us = ys ++ vs ↔ xs = ys ∧ us = vs) := by
        intro xs ys us vs hxs hus
        constructor
        · intro heq
          have hlengths := congrArg List.length heq
          rw [List.length_append, List.length_append] at hlengths
          exact List.append_inj heq (by omega)
        · rintro ⟨rfl, rfl⟩
          rfl
      rw [hframes hpieces hlength, and_assoc, hiff, hvoice, List.forall_mem_cons, and_assoc]

/-- Without a cut there is no harm. -/
theorem CutsHarmless.of_uncut {ls : List TextLine} (h : ∀ l ∈ ls, l.cut = false) : CutsHarmless ls := by
  have hsame : ls.flatMap TextLine.each = ls.map TextLine.text := by
    rw [List.map_eq_flatMap]
    refine List.flatMap_congr fun l hl => ?_
    unfold TextLine.each
    rw [h l hl, if_neg Bool.false_ne_true]
  have hiff := (readLines_each_iff ls false false).2
  rw [hsame] at hiff
  obtain ⟨hended, hopened, hgap⟩ := hiff.mp ⟨rfl, rfl⟩
  exact ⟨hended, hopened, hgap⟩

/-! ## Streams -/

/-- The lines of a stream that are ended, with the line ends that chunk boundaries cut. -/
def streamLines (chunks : List JsString) : List TextLine := (linesOf (marks (chunks.flatMap flagged))).1

/-- The text behind the last line end. -/
def streamRest (chunks : List JsString) : JsString := (linesOf (marks (chunks.flatMap flagged))).2

theorem stream_plain (chunks : List JsString) : (∀ l ∈ streamLines chunks, lineFeed ∉ l.text) ∧ lineFeed ∉ streamRest chunks :=
  linesOf_plain fun _ h => unit_mem_marks h

theorem units_flagged (chunks : List JsString) : (chunks.flatMap flagged).map Prod.fst = chunks.flatten := by
  rw [List.map_flatMap, List.flatMap_congr fun chunk _ => flagged_units chunk, List.flatMap_id']

/-- The text at once. -/
theorem parseAll_whole (chunks : List JsString) :
    parseAll [] [chunks.flatten] = ((readLines {} ((streamLines chunks).map TextLine.text)).1,
      (readLines {} ((streamLines chunks).map TextLine.text)).2.text ++ streamRest chunks) := by
  have hplain : ∀ l ∈ (streamLines chunks).map TextLine.text, lineFeed ∉ l := by
    intro l hl
    obtain ⟨x, hx, rfl⟩ := List.mem_map.mp hl
    exact (stream_plain chunks).1 x hx
  have hread := read_lines (r := {}) (fun _ h => nomatch h) hplain (stream_plain chunks).2
  rw [parseAll_eq, List.flatMap_singleton, ← units_flagged, normalizeEnds_marks, once_linesOf]
  exact hread

/-- Chunk by chunk. -/
theorem parseAll_chunks (chunks : List JsString) :
    parseAll [] chunks = ((readLines {} ((streamLines chunks).flatMap TextLine.each)).1,
      (readLines {} ((streamLines chunks).flatMap TextLine.each)).2.text ++ streamRest chunks) := by
  have hplain : ∀ l ∈ (streamLines chunks).flatMap TextLine.each, lineFeed ∉ l := by
    intro l hl
    obtain ⟨x, hx, hl⟩ := List.mem_flatMap.mp hl
    have htext := (stream_plain chunks).1 x hx
    unfold TextLine.each at hl
    split_ifs at hl
    · rcases List.mem_cons.mp hl with rfl | hl
      · exact htext
      · rw [List.mem_singleton.mp hl]
        exact fun h => nomatch h
    · rw [List.mem_singleton.mp hl]
      exact htext
  have hread := read_lines (r := {}) (fun _ h => nomatch h) hplain (stream_plain chunks).2
  rw [parseAll_eq, flatMap_normalizeEnds, each_linesOf]
  exact hread

/-- Chunk by chunk, the parser finds the frames of the text, in their order, and leaves the same buffer, exactly when the
cuts of the stream are harmless. -/
theorem cuts_harmless_iff (chunks : List JsString) :
    parseAll [] chunks = parseAll [] [chunks.flatten] ↔ CutsHarmless (streamLines chunks) := by
  have hiff := (readLines_each_iff (streamLines chunks) false false).2
  rw [parseAll_whole, parseAll_chunks, Prod.mk.injEq, List.append_left_inj]
  refine hiff.trans ⟨fun h => ⟨h.1, h.2.1, h.2.2⟩, fun h => ⟨h.ended, h.opened, h.gap⟩⟩

/-- A boundary inside `\r\n` makes two frames of one. -/
theorem cut_splits_frame : ¬ ∀ (text : JsString) (chunks : List JsString), chunks.flatten = text →
    parseAll [] chunks = parseAll [] [text] := by
  intro h
  have hsame := h _ [js "event: x\r", js "\ndata: 1\r\n\r\n"] rfl
  revert hsame
  rw [parseAll_whole, parseAll_chunks]
  decide +kernel

end NovaCommerce.Frontend
