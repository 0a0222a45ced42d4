import Mathlib

/-!
# Decimals inside texts

Texts that are built from decimals can be taken apart again:

* `toString_injective` : a decimal names its number;
* `append_colon_decimal_inj` : a text that ends in `:` and a decimal names both of its parts;
* `decimal_colon_append_inj` : so does a text that begins with a decimal and `:`;
* `zeros_decimal_inj` : leading zeros do not change the number.
-/

namespace Digits

/-- The decimal digits of a number. -/
abbrev decimal (n : Nat) : List Char := Nat.toDigits 10 n

theorem toList_toString (n : Nat) : (toString n).toList = decimal n := by
  rw [Nat.toString_eq_ofList_toDigits, String.toList_ofList]

theorem decimal_injective {n m : Nat} (h : decimal n = decimal m) : n = m := by
  calc n = Nat.ofDigitChars 10 (decimal n) 0 := Nat.ofDigitChars_ten_toDigits.symm
    _ = Nat.ofDigitChars 10 (decimal m) 0 := by rw [h]
    _ = m := Nat.ofDigitChars_ten_toDigits

theorem toString_injective {n m : Nat} (h : toString n = toString m) : n = m := by
  refine decimal_injective ?_
  rw [← toList_toString, h, toList_toString]

theorem colon_not_mem_decimal (n : Nat) : ':' ∉ decimal n := by
  intro h
  have hdigit := Nat.isDigit_of_mem_toDigits (by decide) (by decide) h
  revert hdigit
  decide

/-- Lists that are cut at their first `c` agree on both parts. -/
theorem cut_first {α : Type} {c : α} : ∀ {xs ys s t : List α}, c ∉ xs → c ∉ ys → xs ++ c :: s = ys ++ c :: t →
    xs = ys ∧ s = t
  | [], [], _, _, _, _, h => ⟨rfl, (List.cons.inj h).2⟩
  | [], y :: ys, _, _, _, hy, h => by
    rw [List.nil_append, List.cons_append, List.cons.injEq] at h
    exact absurd (h.1 ▸ List.mem_cons_self) hy
  | x :: xs, [], _, _, hx, _, h => by
    rw [List.nil_append, List.cons_append, List.cons.injEq] at h
    exact absurd (h.1 ▸ List.mem_cons_self) hx
  | x :: xs, y :: ys, _, _, hx, hy, h => by
    rw [List.cons_append, List.cons_append, List.cons.injEq] at h
    rw [List.mem_cons, not_or] at hx hy
    obtain ⟨hxs, hs⟩ := cut_first hx.2 hy.2 h.2
    exact ⟨by rw [h.1, hxs], hs⟩

/-- Lists that are cut at their last `c` agree on both parts. -/
theorem cut_last {α : Type} {c : α} {xs ys s t : List α} (hx : c ∉ xs) (hy : c ∉ ys)
    (h : s ++ c :: xs = t ++ c :: ys) : s = t ∧ xs = ys := by
  have hrev := congrArg List.reverse h
  simp only [List.reverse_append, List.reverse_cons, List.append_assoc, List.singleton_append] at hrev
  obtain ⟨hxs, hs⟩ := cut_first (by simpa using hx) (by simpa using hy) hrev
  exact ⟨List.reverse_injective hs, List.reverse_injective hxs⟩

theorem append_colon_decimal_inj {s t : String} {n m : Nat}
    (h : s ++ ":" ++ toString n = t ++ ":" ++ toString m) : s = t ∧ n = m := by
  have hlist := congrArg String.toList h
  simp only [String.toList_append, toList_toString, List.append_assoc] at hlist
  obtain ⟨hs, hn⟩ := cut_last (colon_not_mem_decimal n) (colon_not_mem_decimal m) hlist
  exact ⟨String.toList_injective hs, decimal_injective hn⟩

theorem decimal_colon_append_inj {s t : String} {n m : Nat}
    (h : toString n ++ ":" ++ s = toString m ++ ":" ++ t) : n = m ∧ s = t := by
  have hlist := congrArg String.toList h
  simp only [String.toList_append, toList_toString, List.append_assoc] at hlist
  obtain ⟨hn, hs⟩ := cut_first (colon_not_mem_decimal n) (colon_not_mem_decimal m) hlist
  exact ⟨decimal_injective hn, String.toList_injective hs⟩

theorem zeros_decimal_inj {i j n m : Nat}
    (h : List.replicate i '0' ++ decimal n = List.replicate j '0' ++ decimal m) : n = m := by
  have hvalue := congrArg (fun cs => Nat.ofDigitChars 10 cs 0) h
  simp only [Nat.ofDigitChars_append, Nat.ofDigitChars_replicate_zero, Nat.mul_zero,
    Nat.ofDigitChars_ten_toDigits] at hvalue
  exact hvalue

/-- A number below `10 ^ width` has at most `width` digits. -/
theorem length_decimal_le {n width : Nat} (hw : 0 < width) (h : n < 10 ^ width) : (decimal n).length ≤ width :=
  (Nat.length_toDigits_le_iff (by decide) hw).mpr h

end Digits
