import Mathlib

/-!
# Percent-decoding

`unquote` reads each `%` with two hexadecimal digits as a byte, and decodes the bytes as UTF-8; what is no UTF-8
becomes replacement characters.

* `pieces`, `decode` : the bytes of a text, and the text of bytes;
* `unquote_append_cons` : a character that is no part of an escape cuts a text in two;
* `unquote_eq_or_shorter` : a round that changes a text makes it shorter, so `unquote_settles`;
* `parts_unquote` : the parts between such characters are decoded one by one.
-/

namespace Percent

/-! ## Bytes of a text -/

/-- A byte, or a character beyond ASCII. -/
inductive Piece where
  | byte (value : Nat)
  | char (c : Char)
  deriving DecidableEq, Repr

/-- The value of a hexadecimal digit. -/
def hexValue? (c : Char) : Option Nat :=
  if '0' ≤ c ∧ c ≤ '9' then some (c.toNat - 48)
  else if 'A' ≤ c ∧ c ≤ 'F' then some (c.toNat - 55)
  else if 'a' ≤ c ∧ c ≤ 'f' then some (c.toNat - 87)
  else none

/-- The byte of an escape. -/
def escaped? (c high low : Char) : Option Nat :=
  if c = '%' then
    match hexValue? high, hexValue? low with
    | some high, some low => some (16 * high + low)
    | _, _ => none
  else none

def pieceOf (c : Char) : Piece := if c.toNat < 128 then .byte c.toNat else .char c

def pieces : List Char → List Piece
  | c :: high :: low :: rest =>
    match escaped? c high low with
    | some value => .byte value :: pieces rest
    | none => pieceOf c :: pieces (high :: low :: rest)
  | c :: rest => pieceOf c :: pieces rest
  | [] => []

/-! ## Text of bytes -/

/-- Between characters, or inside one: the bytes it still needs, the least and the greatest payload of the next
one, and its bits. -/
inductive State where
  | start
  | inside (owed low high bits : Nat)
  deriving DecidableEq, Repr

def replacement : Char := Char.ofNat 0xFFFD

/-- What a broken character is replaced by. -/
def State.flush : State → List Char
  | .start => []
  | .inside .. => [replacement]

/-- A piece between characters. -/
def first : Piece → List Char × State
  | .char c => ([c], .start)
  | .byte b =>
    if b < 0x80 then ([Char.ofNat b], .start)
    else if 0xC2 ≤ b ∧ b ≤ 0xDF then ([], .inside 1 0 0x3F (b - 0xC0))
    else if b = 0xE0 then ([], .inside 2 0x20 0x3F 0)
    else if b = 0xED then ([], .inside 2 0 0x1F (b - 0xE0))
    else if 0xE1 ≤ b ∧ b ≤ 0xEF then ([], .inside 2 0 0x3F (b - 0xE0))
    else if b = 0xF0 then ([], .inside 3 0x10 0x3F 0)
    else if 0xF1 ≤ b ∧ b ≤ 0xF3 then ([], .inside 3 0 0x3F (b - 0xF0))
    else if b = 0xF4 then ([], .inside 3 0 0x0F (b - 0xF0))
    else ([replacement], .start)

/-- A piece that cannot continue a character ends it, and is read again. -/
def step : State → Piece → List Char × State
  | .start, p => first p
  | .inside owed low high bits, .byte b =>
    if 0x80 + low ≤ b ∧ b ≤ 0x80 + high then
      if owed ≤ 1 then ([Char.ofNat (64 * bits + (b - 0x80))], .start)
      else ([], .inside (owed - 1) 0 0x3F (64 * bits + (b - 0x80)))
    else (replacement :: (first (.byte b)).1, (first (.byte b)).2)
  | .inside .., .char c => ([replacement, c], .start)

def run : State → List Piece → List Char
  | s, [] => s.flush
  | s, p :: ps => (step s p).1 ++ run (step s p).2 ps

/-- `bytes.decode("utf-8", "replace")`. -/
def decode (ps : List Piece) : List Char := run .start ps

/-- `urllib.parse.unquote`. -/
def unquote (text : List Char) : List Char := decode (pieces text)

/-! ## Cuts -/

/-- An ASCII character that is no part of an escape. -/
def Inert (c : Char) : Prop := c.toNat < 128 ∧ c ≠ '%' ∧ hexValue? c = none

theorem escaped?_eq_none {c high low : Char} (h : c ≠ '%' ∨ hexValue? high = none ∨ hexValue? low = none) :
    escaped? c high low = none := by
  unfold escaped?
  split_ifs with hc
  · rcases h with h | h | h
    · exact absurd hc h
    · rw [h]
    · rw [h]
      cases hexValue? high <;> rfl
  · rfl

theorem pieces_cons {c : Char} {rest : List Char}
    (h : ∀ high low tail, rest = high :: low :: tail → escaped? c high low = none) :
    pieces (c :: rest) = pieceOf c :: pieces rest := by
  match rest with
  | [] => rfl
  | [_] => rfl
  | high :: low :: tail => rw [pieces, h high low tail rfl]

theorem pieces_append_cons {c : Char} (hc : Inert c) (after : List Char) : ∀ before : List Char,
    pieces (before ++ c :: after) = pieces before ++ pieceOf c :: pieces after := by
  intro before
  induction before using pieces.induct with
  | case1 d high low rest value hescaped ih =>
    rw [List.cons_append, List.cons_append, List.cons_append, pieces, hescaped, pieces, hescaped]
    dsimp only
    rw [ih, List.cons_append]
  | case2 d high low rest hplain ih =>
    rw [List.cons_append, List.cons_append, List.cons_append, pieces, hplain, pieces, hplain]
    dsimp only
    rw [← List.cons_append, ← List.cons_append, ih, List.cons_append]
  | case3 d rest hshort ih =>
    -- no escape begins at the last two characters before the cut
    have hrest : rest = [] ∨ ∃ e, rest = [e] := by
      match rest with
      | [] => exact .inl rfl
      | [e] => exact .inr ⟨e, rfl⟩
      | high :: low :: tail => exact absurd rfl (hshort high low tail)
    have hnone : ∀ high low tail, rest ++ c :: after = high :: low :: tail → escaped? d high low = none := by
      intro high low tail heq
      rcases hrest with rfl | ⟨e, rfl⟩
      · obtain ⟨rfl, -⟩ := List.cons.inj heq
        exact escaped?_eq_none (.inr (.inl hc.2.2))
      · obtain ⟨-, htail⟩ := List.cons.inj heq
        obtain ⟨rfl, -⟩ := List.cons.inj htail
        exact escaped?_eq_none (.inr (.inr hc.2.2))
    have hnone' : ∀ high low tail, rest = high :: low :: tail → escaped? d high low = none :=
      fun high low tail heq => absurd heq (hshort high low tail)
    rw [List.cons_append, pieces_cons hnone, pieces_cons hnone', ih, List.cons_append]
  | case4 =>
    rw [List.nil_append, pieces_cons fun high low tail _ => escaped?_eq_none (.inl hc.2.1)]
    rfl

theorem step_pieceOf (s : State) (c : Char) : step s (pieceOf c) = (s.flush ++ [c], .start) := by
  unfold pieceOf
  by_cases hc : c.toNat < 128
  · rw [if_pos hc]
    have hfirst : first (.byte c.toNat) = ([c], .start) := by
      unfold first
      dsimp only
      rw [if_pos (by omega), Char.ofNat_toNat]
    cases s with
    | start => exact hfirst
    | inside owed low high bits =>
      -- an ASCII byte continues no character
      have hnot : ¬ (0x80 + low ≤ c.toNat ∧ c.toNat ≤ 0x80 + high) := by omega
      unfold step
      dsimp only
      rw [if_neg hnot, hfirst]
      rfl
  · rw [if_neg hc]
    cases s <;> rfl

theorem run_append_cons (c : Char) (after : List Piece) : ∀ (before : List Piece) (s : State),
    run s (before ++ pieceOf c :: after) = run s before ++ c :: run .start after := by
  intro before
  induction before with
  | nil =>
    intro s
    show (step s (pieceOf c)).1 ++ run (step s (pieceOf c)).2 after = s.flush ++ c :: run .start after
    rw [step_pieceOf, List.append_assoc]
    rfl
  | cons p before ih =>
    intro s
    rw [List.cons_append, run, run, ih, List.append_assoc]

/-- An inert character cuts a text in two. -/
theorem unquote_append_cons {c : Char} (hc : Inert c) (before after : List Char) :
    unquote (before ++ c :: after) = unquote before ++ c :: unquote after := by
  unfold unquote decode
  rw [pieces_append_cons hc, run_append_cons]

/-- A text without escapes is left as it is. -/
theorem run_map_pieceOf : ∀ text : List Char, run .start (text.map pieceOf) = text := by
  intro text
  induction text with
  | nil => rfl
  | cons c text ih => rw [List.map_cons, run, step_pieceOf, ih]; rfl

theorem unquote_inert {text : List Char} (h : ∀ c ∈ text, Inert c) : unquote text = text := by
  induction text with
  | nil => rfl
  | cons c text ih =>
    rw [List.forall_mem_cons] at h
    have hcut := unquote_append_cons h.1 [] text
    rw [ih h.2] at hcut
    exact hcut

/-- A text without a percent sign holds no escape. -/
theorem unquote_of_no_percent {text : List Char} (h : '%' ∉ text) : unquote text = text := by
  have hpieces : pieces text = text.map pieceOf := by
    induction text with
    | nil => rfl
    | cons c text ih =>
      rw [List.mem_cons, not_or] at h
      rw [pieces_cons fun high low tail _ => escaped?_eq_none (.inl (Ne.symm h.1)), ih h.2, List.map_cons]
  unfold unquote decode
  rw [hpieces, run_map_pieceOf]

/-- A cut stays through every number of rounds. -/
theorem iterate_unquote_append_cons {c : Char} (hc : Inert c) : ∀ (n : Nat) (before after : List Char),
    unquote^[n] (before ++ c :: after) = unquote^[n] before ++ c :: unquote^[n] after := by
  intro n
  induction n with
  | zero => exact fun _ _ => rfl
  | succ n ih =>
    intro before after
    rw [Function.iterate_succ_apply, Function.iterate_succ_apply, Function.iterate_succ_apply,
      unquote_append_cons hc, ih]

/-! ## Length -/

theorem length_first_le (p : Piece) : (first p).1.length + (first p).2.flush.length ≤ 1 := by
  unfold first
  cases p with
  | char c => exact le_refl 1
  | byte b => dsimp only; split_ifs <;> exact le_refl 1

theorem length_step_le (s : State) (p : Piece) :
    (step s p).1.length + (step s p).2.flush.length ≤ 1 + s.flush.length := by
  cases s with
  | start => exact length_first_le p
  | inside owed low high bits =>
    cases p with
    | char c => exact le_refl 2
    | byte b =>
      have hfirst := length_first_le (.byte b)
      unfold step
      dsimp only
      split_ifs
      · exact Nat.le_succ 1
      · exact Nat.le_succ 1
      · show (first (.byte b)).1.length + 1 + (first (.byte b)).2.flush.length ≤ 2
        omega

theorem length_run_le : ∀ (ps : List Piece) (s : State), (run s ps).length ≤ ps.length + s.flush.length := by
  intro ps
  induction ps with
  | nil => exact fun s => (Nat.zero_add _).ge
  | cons p ps ih =>
    intro s
    have hstep := length_step_le s p
    have hrest := ih (step s p).2
    rw [run, List.length_append, List.length_cons]
    omega

/-- A text without an escape has one piece for each character; an escape has one piece for three. -/
theorem pieces_eq_or_shorter (text : List Char) :
    pieces text = text.map pieceOf ∨ (pieces text).length < text.length := by
  induction text using pieces.induct with
  | case1 c high low rest value hescaped ih =>
    right
    rw [pieces, hescaped]
    have hle : (pieces rest).length ≤ rest.length := by
      rcases ih with h | h
      · rw [h, List.length_map]
      · exact h.le
    show (pieces rest).length + 1 < rest.length + 1 + 1 + 1
    omega
  | case2 c high low rest hplain ih =>
    rw [pieces, hplain]
    rcases ih with h | h
    · left
      show pieceOf c :: pieces (high :: low :: rest) = _
      rw [h]
      rfl
    · right
      exact Nat.succ_lt_succ h
  | case3 c rest hshort ih =>
    have hnone : ∀ high low tail, rest = high :: low :: tail → escaped? c high low = none :=
      fun high low tail heq => absurd heq (hshort high low tail)
    rw [pieces_cons hnone]
    rcases ih with h | h
    · left
      rw [h]
      rfl
    · right
      exact Nat.succ_lt_succ h
  | case4 => exact .inl rfl

/-- A round of decoding leaves a text as it is or makes it shorter. -/
theorem unquote_eq_or_shorter (text : List Char) : unquote text = text ∨ (unquote text).length < text.length := by
  rcases pieces_eq_or_shorter text with h | h
  · left
    unfold unquote decode
    rw [h, run_map_pieceOf]
  · right
    exact (length_run_le (pieces text) .start).trans_lt h

/-- As many rounds as there are characters are enough. -/
theorem unquote_settles : ∀ (rounds : Nat) (text : List Char), text.length ≤ rounds →
    unquote (unquote^[rounds] text) = unquote^[rounds] text := by
  intro rounds
  induction rounds with
  | zero =>
    intro text hlength
    rw [List.eq_nil_of_length_eq_zero (Nat.le_zero.mp hlength)]
    rfl
  | succ rounds ih =>
    intro text hlength
    rw [Function.iterate_succ_apply]
    rcases unquote_eq_or_shorter text with h | h
    · rw [h, Function.iterate_fixed h, h]
    · exact ih (unquote text) (by omega)

/-! ## Parts -/

theorem parts_unquote_intercalate {c : Char} (hc : Inert c) : ∀ parts : List (List Char), parts ≠ [] →
    (unquote ([c].intercalate parts)).splitOn c = parts.flatMap fun part => (unquote part).splitOn c := by
  intro parts
  induction parts with
  | nil => exact fun hne => absurd rfl hne
  | cons part parts ih =>
    intro _
    cases parts with
    | nil => simp
    | cons next rest =>
      have hcut : [c].intercalate (part :: next :: rest) = part ++ c :: [c].intercalate (next :: rest) := by simp
      rw [hcut, unquote_append_cons hc, List.splitOn_append_cons_self, ih (List.cons_ne_nil _ _)]
      rfl

/-- The parts between inert characters are decoded one by one. -/
theorem parts_unquote {c : Char} (hc : Inert c) (text : List Char) :
    (unquote text).splitOn c = (text.splitOn c).flatMap fun part => (unquote part).splitOn c := by
  have hparts := parts_unquote_intercalate hc (text.splitOn c) (List.splitOn_ne_nil c text)
  rw [List.intercalate_splitOn] at hparts
  exact hparts

end Percent
