import NovaCommerce.Lib.Js

/-!
# Arithmetic on doubles

* `roundEven` : to the nearest integer, ties to even; `nearest` : to the nearest number with 53 significant bits;
* `nearest_intCast` : safe integers stay; `floor_nearest_div` : a quotient is not rounded past an integer;
* `JsNumber.ofRat`, `neg`, `add`, `mul` : rounded results, with signed zeros and infinities;
* `toRat?_mul_of_safe`, `toRat?_add_of_safe` : a result that is a safe integer is exact.
-/

namespace Doubles

/-! ## Rounding -/

/-- The nearest integer, the even one of two. -/
def roundEven (q : ℚ) : ℤ :=
  let below := ⌊q⌋
  if q - below < 1 / 2 then below
  else if 1 / 2 < q - below then below + 1
  else if below % 2 = 0 then below
  else below + 1

/-- The exponent of the last place of a double near `q`. -/
def lastPlace (q : ℚ) : ℤ := max (Int.log 2 |q| - 52) (-1074)

/-- The nearest double, of any size. -/
def nearest (q : ℚ) : ℚ := roundEven (q / 2 ^ lastPlace q) * 2 ^ lastPlace q

theorem roundEven_intCast (n : ℤ) : roundEven n = n := by
  unfold roundEven
  rw [Int.floor_intCast]
  dsimp only
  rw [sub_self, if_pos (by norm_num)]

theorem abs_roundEven_sub_le (q : ℚ) : |(roundEven q : ℚ) - q| ≤ 1 / 2 := by
  have hlow := Int.floor_le q
  have hhigh := Int.lt_floor_add_one q
  unfold roundEven
  dsimp only
  split_ifs <;> push_cast <;> rw [abs_le] <;> constructor <;> linarith

theorem le_roundEven {n : ℤ} {q : ℚ} (h : (n : ℚ) ≤ q) : n ≤ roundEven q := by
  have hfloor := Int.le_floor.mpr h
  unfold roundEven
  dsimp only
  split_ifs <;> omega

theorem two_zpow_pos (e : ℤ) : (0 : ℚ) < 2 ^ e := zpow_pos two_pos e

/-- A double is its own nearest. -/
theorem nearest_of_multiple {q : ℚ} {n : ℤ} (h : q = n * 2 ^ lastPlace q) : nearest q = q := by
  have hquotient : q / 2 ^ lastPlace q = n := by
    rw [div_eq_iff (two_zpow_pos _).ne']
    exact h
  unfold nearest
  rw [hquotient, roundEven_intCast]
  exact h.symm

/-- The error is half a unit in the last place. -/
theorem abs_nearest_sub_le (q : ℚ) : |nearest q - q| ≤ 2 ^ lastPlace q / 2 := by
  have hpos := two_zpow_pos (lastPlace q)
  have herror := abs_roundEven_sub_le (q / 2 ^ lastPlace q)
  have hscaled : nearest q - q = (roundEven (q / 2 ^ lastPlace q) - q / 2 ^ lastPlace q) * 2 ^ lastPlace q := by
    unfold nearest
    rw [sub_mul, div_mul_cancel₀ _ hpos.ne']
  rw [hscaled, abs_mul, abs_of_pos hpos]
  calc |(roundEven (q / 2 ^ lastPlace q) : ℚ) - q / 2 ^ lastPlace q| * 2 ^ lastPlace q
      ≤ 1 / 2 * 2 ^ lastPlace q := mul_le_mul_of_nonneg_right herror hpos.le
    _ = 2 ^ lastPlace q / 2 := by ring

theorem lastPlace_le {q : ℚ} {k : ℕ} (hq : q ≠ 0) (h : |q| < 2 ^ k) : lastPlace q ≤ max ((k : ℤ) - 53) (-1074) := by
  have hlog : Int.log 2 |q| < k := by
    rw [← Int.lt_zpow_iff_log_lt one_lt_two (abs_pos.mpr hq), zpow_natCast]
    exact_mod_cast h
  unfold lastPlace
  omega

/-- An integer is a multiple of every power that is not positive. -/
theorem intCast_multiple (n : ℤ) {e : ℤ} (h : e ≤ 0) : ∃ m : ℤ, (n : ℚ) = m * 2 ^ e := by
  obtain ⟨k, rfl⟩ := Int.exists_eq_neg_ofNat h
  refine ⟨n * 2 ^ k, ?_⟩
  rw [zpow_neg, zpow_natCast]
  push_cast
  rw [mul_assoc, mul_inv_cancel₀ (by positivity), mul_one]

/-- Safe integers are doubles. -/
theorem nearest_intCast {n : ℤ} (h : |n| ≤ 9007199254740991) : nearest (n : ℚ) = n := by
  rcases eq_or_ne n 0 with rfl | hn
  · have hzero : ((0 : ℤ) : ℚ) = (0 : ℤ) * 2 ^ lastPlace ((0 : ℤ) : ℚ) := by
      rw [Int.cast_zero, zero_mul]
    exact nearest_of_multiple hzero
  · have hbound : |(n : ℚ)| < 2 ^ 53 := by
      rw [← Int.cast_abs]
      have hcast : ((|n| : ℤ) : ℚ) ≤ 9007199254740991 := by exact_mod_cast h
      exact hcast.trans_lt (by norm_num)
    have hplace := lastPlace_le (Int.cast_ne_zero.mpr hn) hbound
    obtain ⟨m, hm⟩ := intCast_multiple n (e := lastPlace (n : ℚ)) (by omega)
    exact nearest_of_multiple hm

/-- The quotient of a safe integer by one hundred is not rounded past an integer. -/
theorem floor_nearest_div {a : ℕ} (h : a ≤ 9007199254740991) : ⌊nearest ((a : ℚ) / 100)⌋ = ((a / 100 : ℕ) : ℤ) := by
  have hsplit : ((a / 100 : ℕ) : ℚ) * 100 + ((a % 100 : ℕ) : ℚ) = a := by exact_mod_cast Nat.div_add_mod' a 100
  have hrest : ((a % 100 : ℕ) : ℚ) ≤ 99 := by exact_mod_cast Nat.le_of_lt_succ (Nat.mod_lt a (by omega : 0 < 100))
  have hrest0 : (0 : ℚ) ≤ ((a % 100 : ℕ) : ℚ) := Nat.cast_nonneg _
  rcases eq_or_ne a 0 with rfl | ha
  · have hzero : nearest (((0 : ℤ) : ℚ)) = ((0 : ℤ) : ℚ) := nearest_intCast (by norm_num)
    rw [Int.cast_zero] at hzero
    rw [Nat.cast_zero, zero_div, hzero]
    rfl
  · have hpos : (0 : ℚ) < (a : ℚ) / 100 := div_pos (Nat.cast_pos.mpr (Nat.pos_of_ne_zero ha)) (by norm_num)
    have hbound : |(a : ℚ) / 100| < 2 ^ 47 := by
      rw [abs_of_pos hpos]
      have hcast : (a : ℚ) ≤ 9007199254740991 := by exact_mod_cast h
      linarith
    have hplace := lastPlace_le hpos.ne' hbound
    have hle : lastPlace ((a : ℚ) / 100) ≤ -6 := hplace.trans (by norm_num)
    have hunit : (2 : ℚ) ^ lastPlace ((a : ℚ) / 100) ≤ 2 ^ (-6 : ℤ) := zpow_le_zpow_right₀ one_le_two hle
    have herror := (abs_le.mp (abs_nearest_sub_le ((a : ℚ) / 100))).2
    rw [Int.floor_eq_iff]
    constructor
    · -- the integer below is a double, and rounding keeps order with it
      obtain ⟨m, hm⟩ := intCast_multiple ((a / 100 : ℕ) : ℤ) (e := lastPlace ((a : ℚ) / 100)) (by omega)
      have hunitpos := two_zpow_pos (lastPlace ((a : ℚ) / 100))
      have hquotient : (m : ℚ) ≤ (a : ℚ) / 100 / 2 ^ lastPlace ((a : ℚ) / 100) := by
        rw [le_div_iff₀ hunitpos, ← hm, Int.cast_natCast]
        linarith
      have hround : (m : ℚ) ≤ roundEven ((a : ℚ) / 100 / 2 ^ lastPlace ((a : ℚ) / 100)) := by
        exact_mod_cast le_roundEven hquotient
      rw [hm]
      exact mul_le_mul_of_nonneg_right hround hunitpos.le
    · have hsmall : (2 : ℚ) ^ (-6 : ℤ) = 1 / 64 := by norm_num
      rw [hsmall] at hunit
      rw [Int.cast_natCast]
      linarith

end Doubles

/-! ## Numbers -/

namespace JsNumber

open Doubles

/-- The value of a finite number. -/
def toRat? : JsNumber → Option ℚ
  | .finite num shift => some (num / 2 ^ shift)
  | .minusZero => some 0
  | .infinity _ | .nan => none

/-- The sign bit. -/
def negative : JsNumber → Bool
  | .finite num _ => decide (num < 0)
  | .minusZero => true
  | .infinity negative => negative
  | .nan => false

/-- The double nearest to `q`; `negative` is the sign of a zero. -/
def ofRat (negative : Bool) (q : ℚ) : JsNumber :=
  let r := nearest q
  if (2 : ℚ) ^ 1024 ≤ |r| then .infinity (decide (r < 0))
  else if r = 0 then (if negative then .minusZero else .finite 0 0)
  else .finite r.num (Nat.log2 r.den)

def neg : JsNumber → JsNumber
  | .finite num shift => if num = 0 then .minusZero else .finite (-num) shift
  | .minusZero => .finite 0 0
  | .infinity negative => .infinity !negative
  | .nan => .nan

def add (x y : JsNumber) : JsNumber :=
  match x.toRat?, y.toRat? with
  | some a, some b => ofRat (x.negative && y.negative) (a + b)
  | some _, none => y
  | none, some _ => x
  | none, none => if x = y then x else .nan

def mul (x y : JsNumber) : JsNumber :=
  match x.toRat?, y.toRat? with
  | some a, some b => ofRat (x.negative != y.negative) (a * b)
  | _, _ =>
    if x = .nan ∨ y = .nan ∨ x.toRat? = some 0 ∨ y.toRat? = some 0 then .nan
    else .infinity (x.negative != y.negative)

/-- `Number.isSafeInteger`. -/
def SafeInteger (x : JsNumber) : Prop := ∃ n : ℤ, x.toRat? = some (n : ℚ) ∧ |n| ≤ 9007199254740991

theorem toRat?_ofRat {n : ℤ} (h : |n| ≤ 9007199254740991) (negative : Bool) : (ofRat negative n).toRat? = some (n : ℚ) := by
  have hbound : ¬ (2 : ℚ) ^ 1024 ≤ |(n : ℚ)| := by
    have hcast : |(n : ℚ)| ≤ 9007199254740991 := by
      rw [← Int.cast_abs]
      exact_mod_cast h
    have hpow : (2 : ℚ) ^ 53 ≤ 2 ^ 1024 := pow_le_pow_right₀ one_le_two (by omega)
    rw [not_le]
    exact (hcast.trans_lt (by norm_num)).trans_le hpow
  unfold ofRat
  dsimp only
  rw [nearest_intCast h, if_neg hbound]
  by_cases hn : (n : ℚ) = 0
  · rw [if_pos hn, hn]
    cases negative
    · show some (((0 : ℤ) : ℚ) / 2 ^ 0) = some 0
      rw [Int.cast_zero, zero_div]
    · rfl
  · rw [if_neg hn, Rat.num_intCast, Rat.den_intCast]
    show some ((n : ℚ) / 2 ^ Nat.log2 1) = some (n : ℚ)
    rw [show Nat.log2 1 = 0 from rfl, pow_zero, div_one]

theorem toRat?_neg {x : JsNumber} {q : ℚ} (h : x.toRat? = some q) : x.neg.toRat? = some (-q) := by
  cases x with
  | finite num shift =>
    cases h
    show (if num = 0 then minusZero else finite (-num) shift).toRat? = _
    split_ifs with hzero
    · rw [hzero, Int.cast_zero, zero_div, neg_zero]
      rfl
    · show some (((-num : ℤ) : ℚ) / 2 ^ shift) = _
      rw [Int.cast_neg, neg_div]
  | minusZero =>
    cases h
    show some (((0 : ℤ) : ℚ) / 2 ^ 0) = _
    rw [Int.cast_zero, zero_div, neg_zero]
  | infinity negative => cases h
  | nan => cases h

/-- A product that is a safe integer is exact. -/
theorem toRat?_mul_of_safe {x y : JsNumber} {a b : ℚ} {n : ℤ} (hx : x.toRat? = some a) (hy : y.toRat? = some b) (hn : a * b = n)
    (h : |n| ≤ 9007199254740991) : (x.mul y).toRat? = some (a * b) := by
  unfold mul
  rw [hx, hy]
  dsimp only
  rw [hn]
  exact toRat?_ofRat h _

/-- A sum that is a safe integer is exact. -/
theorem toRat?_add_of_safe {x y : JsNumber} {a b : ℚ} {n : ℤ} (hx : x.toRat? = some a) (hy : y.toRat? = some b) (hn : a + b = n)
    (h : |n| ≤ 9007199254740991) : (x.add y).toRat? = some (a + b) := by
  unfold add
  rw [hx, hy]
  dsimp only
  rw [hn]
  exact toRat?_ofRat h _

theorem isFinite_of_toRat? {x : JsNumber} {q : ℚ} (h : x.toRat? = some q) : x.isFinite = true := by
  cases x with
  | finite num shift => rfl
  | minusZero => rfl
  | infinity negative => cases h
  | nan => cases h

end JsNumber
