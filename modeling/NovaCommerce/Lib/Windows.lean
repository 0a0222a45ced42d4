import Mathlib

/-!
# Windows over a list

A list is cut into windows of `width` elements that start every `stride` elements.

* `offsets`, `windows` : where they start, and what they hold; `spans` : the positions they cover;
* `exists_window_of_infix` : what is no longer than the overlap and one element stands in one window;
* `pairwise_spans_iff` : when no window lies within another.
-/

namespace Windows

variable {α : Type} {stride width n : Nat}

/-- `range(0, n, stride)`. -/
def offsets (stride n : Nat) : List Nat := (List.range ((n + stride - 1) / stride)).map fun i => stride * i

/-- `xs[start:stop]`. -/
def slice (xs : List α) (start stop : Nat) : List α := (xs.take stop).drop start

/-- The positions from `start` up to `stop`. -/
structure Span where
  start : Nat
  stop : Nat
  deriving DecidableEq

def Span.Within (a b : Span) : Prop := b.start ≤ a.start ∧ a.stop ≤ b.stop

/-- The windows of a list. -/
def windows (stride width : Nat) (xs : List α) : List (List α) :=
  (offsets stride xs.length).map fun offset => slice xs offset (offset + width)

/-- The positions that the windows of a list of `n` elements cover. -/
def spans (stride width n : Nat) : List Span := (offsets stride n).map fun offset => ⟨offset, min (offset + width) n⟩

theorem mem_offsets (hs : 0 < stride) {offset : Nat} : offset ∈ offsets stride n ↔ stride ∣ offset ∧ offset < n := by
  unfold offsets
  rw [List.mem_map]
  constructor
  · rintro ⟨i, hi, rfl⟩
    rw [List.mem_range, Nat.lt_div_iff_mul_lt hs] at hi
    rw [Nat.mul_comm] at hi
    exact ⟨Nat.dvd_mul_right stride i, by omega⟩
  · rintro ⟨⟨i, rfl⟩, hlt⟩
    refine ⟨i, ?_, rfl⟩
    rw [List.mem_range, Nat.lt_div_iff_mul_lt hs, Nat.mul_comm]
    omega

theorem slice_eq (xs : List α) (start width : Nat) : slice xs start (start + width) = (xs.drop start).take width := by
  unfold slice
  rw [List.take_drop]

theorem length_window_le (xs : List α) (start width : Nat) : (slice xs start (start + width)).length ≤ width := by
  rw [slice_eq]
  exact List.length_take_le width _

/-- A window is what stands at its span. -/
theorem windows_eq (stride width : Nat) (xs : List α) :
    windows stride width xs = (spans stride width xs.length).map fun s => slice xs s.start s.stop := by
  unfold windows spans
  rw [List.map_map]
  refine List.map_congr_left fun offset _ => ?_
  show (xs.take (offset + width)).drop offset = (xs.take (min (offset + width) xs.length)).drop offset
  rw [← List.take_eq_take_min]

/-- A piece of a list that lies between two positions stands in what is between them. -/
theorem infix_slice {before phrase after : List α} {start width : Nat} (hstart : start ≤ before.length)
    (hstop : before.length + phrase.length ≤ start + width) :
    phrase <:+: slice (before ++ phrase ++ after) start (start + width) := by
  rw [slice_eq, List.append_assoc, List.drop_append_of_le_length hstart]
  refine ⟨before.drop start, after.take (width - ((before.drop start).length + phrase.length)), ?_⟩
  have hfits : (before.drop start ++ phrase).length ≤ width := by
    rw [List.length_append, List.length_drop]
    omega
  rw [← List.append_assoc, List.take_append, List.take_of_length_le hfits, List.length_append]

/-- What is no longer than the overlap and one element stands in one window. -/
theorem exists_window_of_infix (hs : 0 < stride) (hw : stride ≤ width) {xs phrase : List α} (hxs : xs ≠ []) (h : phrase <:+: xs)
    (hlength : phrase.length + stride ≤ width + 1) : ∃ w ∈ windows stride width xs, phrase <:+: w := by
  obtain ⟨before, after, rfl⟩ := h
  have hlast := List.length_pos_of_ne_nil hxs
  rw [List.length_append, List.length_append] at hlast
  -- the last window that starts no later than the phrase, or than the last element
  let p := min before.length (before.length + phrase.length + after.length - 1)
  have hdiv : stride * (p / stride) ≤ p := Nat.mul_div_le p stride
  have hnext : p < stride * (p / stride) + stride := Nat.lt_mul_div_succ p hs
  have hp : p ≤ before.length := min_le_left _ _
  have hmem : stride * (p / stride) ∈ offsets stride (before ++ phrase ++ after).length := by
    rw [mem_offsets hs, List.length_append, List.length_append]
    exact ⟨Nat.dvd_mul_right _ _, by omega⟩
  refine ⟨_, List.mem_map_of_mem hmem, infix_slice (hdiv.trans hp) ?_⟩
  omega

/-- No window lies within another when the last but one ends before the list. -/
theorem pairwise_spans_iff (hs : 0 < stride) :
    (spans stride width n).Pairwise (fun a b => ¬ a.Within b ∧ ¬ b.Within a) ↔
      ∀ i, i + 1 < (n + stride - 1) / stride → stride * i + width < n := by
  unfold spans offsets
  rw [List.pairwise_map, List.pairwise_map]
  have hstart : ∀ {i}, i < (n + stride - 1) / stride → stride * i < n := by
    intro i hi
    rw [Nat.lt_div_iff_mul_lt hs, Nat.mul_comm] at hi
    omega
  constructor
  · intro h i hi
    have hpair := (List.pairwise_iff_getElem.mp h) i (i + 1) (by rw [List.length_range]; omega)
      (by rw [List.length_range]; exact hi) (Nat.lt_succ_self i)
    rw [List.getElem_range, List.getElem_range] at hpair
    by_contra hcut
    refine hpair.2 ⟨Nat.mul_le_mul_left stride (Nat.le_succ i), ?_⟩
    dsimp only
    rw [Nat.min_eq_right (not_lt.mp hcut)]
    exact min_le_right _ _
  · intro h
    refine List.pairwise_lt_range.imp_of_mem fun {i j} hi hj hlt => ?_
    have hnext : stride * i + stride ≤ stride * j := by
      rw [← Nat.mul_succ]
      exact Nat.mul_le_mul_left stride hlt
    rw [List.mem_range] at hj
    have hends := h i (by omega)
    have hbegins := hstart hj
    constructor
    · rintro ⟨hle, -⟩
      dsimp only at hle
      omega
    · rintro ⟨-, hle⟩
      dsimp only at hle
      omega

end Windows
