import NovaCommerce.Lib.Digits
import NovaCommerce.Lib.Doubles
import NovaCommerce.Lib.Numerals

/-!
# Amounts as text

`formatMoney` prints minor units with a symbol and grouped digits, and `fromMajorString` reads an amount in major units back.

* `Numeral`, `decimal` : the texts of decimal numbers, and their values (`numeral_unique`);
* `accepted_iff` : what the pattern of `fromMajorString` lets through; `fromMajorString_eq` : what it computes then;
* `unmarked_formatMoney` : a printed amount without its marks;
* `money_survives_iff` : printing and reading is lossless, and what is read is exact up to the largest safe integer.
-/

namespace NovaCommerce.Frontend

open Doubles

/-! ## Characters -/

def minusSign : UInt16 := 45

def dot : UInt16 := 46

def comma : UInt16 := 44

def yen : UInt16 := 0xA5

def zeroDigit : UInt16 := 48

/-- `\d`. -/
def isDigit (c : UInt16) : Bool := decide (48 ≤ c.toNat ∧ c.toNat ≤ 57)

/-- The number that digits spell. -/
def digitsValue (ds : JsString) : Nat := ds.foldl (fun n c => 10 * n + (c.toNat - 48)) 0

/-- `Number(digits)`. -/
def toNumber (ds : JsString) : JsNumber := JsNumber.ofRat false (digitsValue ds)

/-- `padStart(2, '0')`. -/
def padStart (s : JsString) : JsString := List.replicate (2 - s.length) zeroDigit ++ s

/-- `padEnd(2, '0')`. -/
def padEnd (s : JsString) : JsString := s ++ List.replicate (2 - s.length) zeroDigit

/-! ## Printing -/

/-- The digits of a number. -/
def decimalText (n : Nat) : JsString := (Digits.decimal n).map fun c => c.toNat.toUInt16

/-- `toMajorString`. -/
def toMajorString (amount : Int) : JsString :=
  let abs := amount.natAbs
  let major := ⌊nearest ((abs : ℚ) / 100)⌋
  let minor := abs % 100
  (if amount < 0 then [minusSign] else []) ++ decimalText major.toNat ++ dot :: padStart (decimalText minor)

/-- A comma before every third digit from the end: `replace(/\B(?=(\d{3})+(?!\d))/g, ',')` on digits. -/
def groupThousands : JsString → JsString
  | [] => []
  | [c] => [c]
  | c :: d :: rest =>
    if (d :: rest).length % 3 = 0 then c :: comma :: groupThousands (d :: rest) else c :: groupThousands (d :: rest)

structure FormatMoneyOptions where
  symbol : JsString := [yen]
  withSymbol : Bool := true
  withMinor : Bool := true
  grouping : Bool := true

/-- `formatMoney`. -/
def formatMoney (amount : Int) (options : FormatMoneyOptions) : JsString :=
  let parts := (toMajorString amount).splitOn dot
  let majorPart := parts.getD 0 [zeroDigit]
  let minorPart := (padStart (parts.getD 1 [zeroDigit, zeroDigit])).take 2
  let digits := majorPart.erase minusSign
  let grouped := if options.grouping then groupThousands digits else digits
  let body := if options.withMinor then grouped ++ dot :: minorPart else grouped
  (if majorPart.head? = some minusSign then [minusSign] else []) ++ (if options.withSymbol then options.symbol else []) ++ body

/-! ## Reading -/

/-- `[¥,\s]`. -/
def isMark (c : UInt16) : Bool := decide (c = yen ∨ c = comma) || JsString.isSpace c

/-- A text without symbol, commas and blanks. -/
def unmarked (s : JsString) : JsString := s.filter fun c => !isMark c

/-- `/^-?\d+(\.\d{0,2})?$/.test(s)`. -/
def accepted (s : JsString) : Bool :=
  let body := if s.head? = some minusSign then s.tail else s
  let rest := body.dropWhile isDigit
  decide (body.takeWhile isDigit ≠ []) &&
    decide (rest = [] ∨ (rest.head? = some dot ∧ rest.tail.length ≤ 2 ∧ rest.tail.all isDigit = true))

/-- `fromMajorString`. -/
def fromMajorString (input : JsString) : Option JsNumber :=
  let trimmed := unmarked input.trim
  if accepted trimmed = false then none
  else
    let parts := (trimmed.erase minusSign).splitOn dot
    let minor := padEnd (parts.getD 1 [])
    let cents := ((toNumber (parts.getD 0 [zeroDigit])).mul (.finite 100 0)).add (toNumber (if minor = [] then [zeroDigit] else minor))
    if cents.isFinite = false then none
    else some (if trimmed.head? = some minusSign then cents.neg else cents)

/-! ## Decimal numbers -/

def signMark (negative : Bool) : JsString := if negative then [minusSign] else []

/-- The value of a sign, digits before the point and digits after it. -/
def decimal (negative : Bool) (whole fraction : JsString) : ℚ :=
  (if negative then -1 else 1) * (digitsValue whole + digitsValue fraction / 10 ^ fraction.length)

/-- The texts of decimal numbers. -/
inductive Numeral : JsString → Bool → JsString → JsString → Prop where
  | whole {negative : Bool} {ds : JsString} (hne : ds ≠ []) (hds : ∀ d ∈ ds, isDigit d = true) :
      Numeral (signMark negative ++ ds) negative ds []
  | point {negative : Bool} {ds fs : JsString} (hne : ds ≠ []) (hds : ∀ d ∈ ds, isDigit d = true) (hfs : ∀ d ∈ fs, isDigit d = true) :
      Numeral (signMark negative ++ ds ++ dot :: fs) negative ds fs

theorem ne_of_isDigit {c : UInt16} (h : isDigit c = true) : c ≠ minusSign ∧ c ≠ dot ∧ c ≠ comma ∧ c ≠ yen := by
  have hbounds := of_decide_eq_true h
  refine ⟨?_, ?_, ?_, ?_⟩ <;>
  · rintro rfl
    revert hbounds
    decide

theorem not_isSpace_of_isDigit {c : UInt16} (h : isDigit c = true) : JsString.isSpace c = false := by
  have hbounds := of_decide_eq_true h
  unfold JsString.isSpace
  dsimp only
  apply decide_eq_false
  omega

theorem isMark_of_isDigit {c : UInt16} (h : isDigit c = true) : isMark c = false := by
  obtain ⟨-, -, hcomma, hyen⟩ := ne_of_isDigit h
  unfold isMark
  rw [not_isSpace_of_isDigit h, Bool.or_false]
  exact decide_eq_false (not_or.mpr ⟨hyen, hcomma⟩)

/-- The sign of a numeral is its first character. -/
theorem head?_signMark {negative : Bool} {ds rest : JsString} (hne : ds ≠ []) (hds : ∀ d ∈ ds, isDigit d = true) :
    (signMark negative ++ ds ++ rest).head? = some minusSign ↔ negative = true := by
  cases negative with
  | true => exact iff_of_true rfl rfl
  | false =>
    refine iff_of_false (fun h => ?_) Bool.false_ne_true
    obtain ⟨d, ds', rfl⟩ := List.exists_cons_of_ne_nil hne
    cases h
    exact (ne_of_isDigit (hds minusSign List.mem_cons_self)).1 rfl

theorem erase_signMark {negative : Bool} {ds rest : JsString} (hds : ∀ d ∈ ds, isDigit d = true) (hrest : minusSign ∉ rest) :
    (signMark negative ++ ds ++ rest).erase minusSign = ds ++ rest := by
  cases negative with
  | true => exact List.erase_cons_head minusSign (ds ++ rest)
  | false =>
    have habsent : minusSign ∉ ds ++ rest := by
      rw [List.mem_append, not_or]
      exact ⟨fun hmem => (ne_of_isDigit (hds _ hmem)).1 rfl, hrest⟩
    exact List.erase_of_not_mem habsent

theorem dot_not_mem {ds : JsString} (hds : ∀ d ∈ ds, isDigit d = true) : dot ∉ ds := fun hmem => (ne_of_isDigit (hds _ hmem)).2.1 rfl

theorem minusSign_not_mem {ds : JsString} (hds : ∀ d ∈ ds, isDigit d = true) : minusSign ∉ ds :=
  fun hmem => (ne_of_isDigit (hds _ hmem)).1 rfl

theorem splitOn_point {xs ys : JsString} (hx : dot ∉ xs) (hy : dot ∉ ys) : (xs ++ dot :: ys).splitOn dot = [xs, ys] := by
  rw [List.splitOn_append_cons_self, List.splitOn_eq_singleton hx, List.splitOn_eq_singleton hy]
  rfl

theorem takeWhile_digits {ds rest : JsString} (hds : ∀ d ∈ ds, isDigit d = true) (hrest : ∀ c ∈ rest.head?, isDigit c = false) :
    (ds ++ rest).takeWhile isDigit = ds ∧ (ds ++ rest).dropWhile isDigit = rest :=
  ⟨Numerals.takeWhile_stop hds hrest, Numerals.dropWhile_stop hds hrest⟩

theorem sign_append (t : JsString) : ∃ negative, t = signMark negative ++ if t.head? = some minusSign then t.tail else t := by
  by_cases hsign : t.head? = some minusSign
  · refine ⟨true, ?_⟩
    rw [if_pos hsign]
    exact (List.cons_head?_tail hsign).symm
  · refine ⟨false, ?_⟩
    rw [if_neg hsign]
    rfl

/-- The pattern lets the texts of decimal numbers through that have two digits after the point at most. -/
theorem accepted_iff {t : JsString} : accepted t = true ↔ ∃ negative ds fs, Numeral t negative ds fs ∧ fs.length ≤ 2 := by
  constructor
  · intro h
    unfold accepted at h
    dsimp only at h
    rw [Bool.and_eq_true, decide_eq_true_eq, decide_eq_true_eq] at h
    obtain ⟨negative, ht⟩ := sign_append t
    generalize (if t.head? = some minusSign then t.tail else t) = body at h ht
    subst ht
    have hdigits : ∀ d ∈ body.takeWhile isDigit, isDigit d = true := fun d hd => List.mem_takeWhile_imp hd
    have hbody : body.takeWhile isDigit ++ body.dropWhile isDigit = body := List.takeWhile_append_dropWhile
    rcases h.2 with hnil | ⟨hdot, hshort, hfraction⟩
    · refine ⟨negative, body.takeWhile isDigit, [], ?_, Nat.zero_le 2⟩
      rw [hnil, List.append_nil] at hbody
      rw [hbody] at h hdigits ⊢
      exact .whole h.1 hdigits
    · refine ⟨negative, body.takeWhile isDigit, (body.dropWhile isDigit).tail, ?_, hshort⟩
      have hnumeral : Numeral (signMark negative ++ _ ++ dot :: _) negative _ _ :=
        .point h.1 hdigits (List.all_eq_true.mp hfraction)
      rwa [List.cons_head?_tail hdot, List.append_assoc, hbody] at hnumeral
  · rintro ⟨negative, ds, fs, hnumeral, hshort⟩
    have hread : ∀ rest : JsString, ds ≠ [] → (∀ d ∈ ds, isDigit d = true) → (∀ c ∈ rest.head?, isDigit c = false) →
        (rest = [] ∨ (rest.head? = some dot ∧ rest.tail.length ≤ 2 ∧ rest.tail.all isDigit = true)) →
        accepted (signMark negative ++ ds ++ rest) = true := by
      intro rest hne hds hstop hrest
      have hbody : (if (signMark negative ++ ds ++ rest).head? = some minusSign then (signMark negative ++ ds ++ rest).tail
          else signMark negative ++ ds ++ rest) = ds ++ rest := by
        cases negative with
        | true => rfl
        | false =>
          rw [if_neg (fun h => Bool.false_ne_true ((head?_signMark hne hds).mp h))]
          rfl
      unfold accepted
      dsimp only
      rw [hbody, (takeWhile_digits hds hstop).1, (takeWhile_digits hds hstop).2, Bool.and_eq_true, decide_eq_true_eq,
        decide_eq_true_eq]
      exact ⟨hne, hrest⟩
    cases hnumeral with
    | whole hne hds =>
      have hwhole := hread [] hne hds (fun c hc => absurd hc (Option.not_mem_none c)) (.inl rfl)
      rwa [List.append_nil] at hwhole
    | point hne hds hfs =>
      refine hread (dot :: fs) hne hds (fun c hc => ?_) (.inr ⟨rfl, hshort, List.all_eq_true.mpr hfs⟩)
      cases hc
      decide

/-- A text is a decimal number in one way. -/
theorem numeral_unique {t : JsString} {n n' : Bool} {ds ds' fs fs' : JsString} (h : Numeral t n ds fs) (h' : Numeral t n' ds' fs') :
    decimal n ds fs = decimal n' ds' fs' := by
  have hparts : ∀ {t n ds fs}, Numeral t n ds fs → n = decide (t.head? = some minusSign) ∧
      ds = ((t.erase minusSign).splitOn dot).getD 0 [] ∧ fs = ((t.erase minusSign).splitOn dot).getD 1 [] := by
    intro t n ds fs h
    cases h with
    | whole hne hds =>
      have hhead : (signMark n ++ ds ++ []).head? = some minusSign ↔ n = true := head?_signMark hne hds
      have herase : (signMark n ++ ds ++ []).erase minusSign = ds ++ [] := erase_signMark hds List.not_mem_nil
      rw [List.append_nil] at hhead herase
      rw [herase, List.append_nil, List.splitOn_eq_singleton (dot_not_mem hds)]
      refine ⟨?_, rfl, rfl⟩
      cases n with
      | true => exact (decide_eq_true (hhead.mpr rfl)).symm
      | false => exact (decide_eq_false fun hh => Bool.false_ne_true (hhead.mp hh)).symm
    | point hne hds hfs =>
      have hhead : (signMark n ++ ds ++ dot :: fs).head? = some minusSign ↔ n = true := head?_signMark hne hds
      have hminus : minusSign ∉ dot :: fs := by
        rw [List.mem_cons, not_or]
        exact ⟨by decide, minusSign_not_mem hfs⟩
      rw [erase_signMark hds hminus, splitOn_point (dot_not_mem hds) (dot_not_mem hfs)]
      refine ⟨?_, rfl, rfl⟩
      cases n with
      | true => exact (decide_eq_true (hhead.mpr rfl)).symm
      | false => exact (decide_eq_false fun hh => Bool.false_ne_true (hhead.mp hh)).symm
  obtain ⟨hn, hds, hfs⟩ := hparts h
  obtain ⟨hn', hds', hfs'⟩ := hparts h'
  rw [hn, hn', hds, hds', hfs, hfs']

/-! ## Digits -/

theorem foldl_digits (ds : JsString) (n : Nat) :
    ds.foldl (fun n c => 10 * n + (c.toNat - 48)) n = n * 10 ^ ds.length + digitsValue ds := by
  induction ds generalizing n with
  | nil =>
    rw [List.length_nil, pow_zero, mul_one]
    rfl
  | cons d ds ih =>
    unfold digitsValue
    rw [List.foldl_cons, List.foldl_cons, ih, ih, List.length_cons, pow_succ]
    ring

theorem digitsValue_append (ds es : JsString) : digitsValue (ds ++ es) = digitsValue ds * 10 ^ es.length + digitsValue es := by
  unfold digitsValue
  rw [List.foldl_append, foldl_digits]
  rfl

theorem digitsValue_zeros (n : Nat) : digitsValue (List.replicate n zeroDigit) = 0 := by
  induction n with
  | zero => rfl
  | succ n ih =>
    rw [List.replicate_succ, ← List.singleton_append, digitsValue_append, ih]
    show 0 * _ + 0 = 0
    rw [zero_mul]

theorem digitsValue_padStart (ds : JsString) : digitsValue (padStart ds) = digitsValue ds := by
  unfold padStart
  rw [digitsValue_append, digitsValue_zeros, zero_mul, zero_add]

theorem digitsValue_padEnd (ds : JsString) : digitsValue (padEnd ds) = digitsValue ds * 10 ^ (2 - ds.length) := by
  unfold padEnd
  rw [digitsValue_append, digitsValue_zeros, List.length_replicate, add_zero]

theorem padEnd_ne_nil (ds : JsString) : padEnd ds ≠ [] := by
  intro h
  have hlength := congrArg List.length h
  unfold padEnd at hlength
  rw [List.length_append, List.length_replicate, List.length_nil] at hlength
  omega

/-- One hundred times a decimal number with at most two digits after the point. -/
theorem hundred_mul_decimal (negative : Bool) (ds : JsString) {fs : JsString} (h : fs.length ≤ 2) :
    100 * decimal negative ds fs = (if negative then -1 else 1) * ((100 * digitsValue ds + digitsValue (padEnd fs) : ℕ) : ℚ) := by
  have hscale : (100 : ℚ) = 10 ^ fs.length * 10 ^ (2 - fs.length) := by
    rw [← pow_add, Nat.add_sub_cancel' h]
    norm_num
  have hfraction : (100 : ℚ) * (digitsValue fs / 10 ^ fs.length) = digitsValue fs * 10 ^ (2 - fs.length) := by
    rw [hscale]
    have hne : (10 : ℚ) ^ fs.length ≠ 0 := pow_ne_zero _ (by norm_num)
    field_simp
  unfold decimal
  rw [digitsValue_padEnd]
  push_cast
  linear_combination (if negative then (-1 : ℚ) else 1) * hfraction

/-! ## Reading a numeral -/

/-- What is computed from the digits of a numeral. -/
theorem fromMajorString_eq {s : JsString} {negative : Bool} {ds fs : JsString} (h : Numeral (unmarked s.trim) negative ds fs)
    (hshort : fs.length ≤ 2) :
    fromMajorString s =
      if (((toNumber ds).mul (.finite 100 0)).add (toNumber (padEnd fs))).isFinite = false then none
      else some (if negative then (((toNumber ds).mul (.finite 100 0)).add (toNumber (padEnd fs))).neg
        else ((toNumber ds).mul (.finite 100 0)).add (toNumber (padEnd fs))) := by
  have haccepted := accepted_iff.mpr ⟨negative, ds, fs, h, hshort⟩
  have hparts : ((unmarked s.trim).erase minusSign).splitOn dot = [ds, fs] ∨
      ((unmarked s.trim).erase minusSign).splitOn dot = [ds] ∧ fs = [] := by
    generalize unmarked s.trim = t at h
    cases h with
    | whole hne hds =>
      have herase : (signMark negative ++ ds ++ []).erase minusSign = ds ++ [] := erase_signMark hds List.not_mem_nil
      rw [List.append_nil, List.append_nil] at herase
      rw [herase, List.splitOn_eq_singleton (dot_not_mem hds)]
      exact .inr ⟨rfl, rfl⟩
    | point hne hds hfs =>
      have hminus : minusSign ∉ dot :: fs := by
        rw [List.mem_cons, not_or]
        exact ⟨by decide, minusSign_not_mem hfs⟩
      rw [erase_signMark hds hminus, splitOn_point (dot_not_mem hds) (dot_not_mem hfs)]
      exact .inl rfl
  have hmajor : (((unmarked s.trim).erase minusSign).splitOn dot).getD 0 [zeroDigit] = ds := by
    rcases hparts with hparts | ⟨hparts, -⟩ <;> rw [hparts] <;> rfl
  have hminor : (((unmarked s.trim).erase minusSign).splitOn dot).getD 1 [] = fs := by
    rcases hparts with hparts | ⟨hparts, hnil⟩
    · rw [hparts]
      rfl
    · rw [hparts, hnil]
      rfl
  have hsign : ((unmarked s.trim).head? = some minusSign) = (negative = true) := by
    generalize unmarked s.trim = t at h
    cases h with
    | whole hne hds =>
      have hhead : (signMark negative ++ ds ++ []).head? = some minusSign ↔ negative = true := head?_signMark hne hds
      rw [List.append_nil] at hhead
      exact propext hhead
    | point hne hds hfs => exact propext (head?_signMark hne hds)
  unfold fromMajorString
  dsimp only
  have htest : ¬ accepted (unmarked s.trim) = false := by
    rw [haccepted]
    decide
  rw [if_neg htest, hmajor, hminor, if_neg (padEnd_ne_nil fs)]
  simp only [hsign]

/-- Cents that are safe are exact. -/
theorem cents_exact {ds es : JsString} (h : 100 * digitsValue ds + digitsValue es ≤ 9007199254740991) :
    (((toNumber ds).mul (.finite 100 0)).add (toNumber es)).toRat? = some ((100 * digitsValue ds + digitsValue es : ℕ) : ℚ) := by
  have hnumber : ∀ {cs : JsString}, digitsValue cs ≤ 9007199254740991 → (toNumber cs).toRat? = some ((digitsValue cs : ℤ) : ℚ) := by
    intro cs hcs
    have hsafe : |((digitsValue cs : ℕ) : ℤ)| ≤ 9007199254740991 := by
      rw [Nat.abs_cast]
      omega
    have hread := JsNumber.toRat?_ofRat hsafe false
    rwa [Int.cast_natCast] at hread ⊢
  have hhundred : (JsNumber.finite 100 0).toRat? = some 100 := by
    show some (((100 : ℤ) : ℚ) / 2 ^ 0) = some 100
    norm_num
  have hproduct : ((toNumber ds).mul (.finite 100 0)).toRat? = some (((digitsValue ds : ℤ) : ℚ) * 100) := by
    have hcast : ((digitsValue ds : ℤ) : ℚ) * 100 = ((digitsValue ds * 100 : ℤ) : ℚ) := by
      push_cast
      rfl
    refine JsNumber.toRat?_mul_of_safe (hnumber (by omega)) hhundred hcast ?_
    rw [abs_of_nonneg (by positivity)]
    omega
  have hcast : ((digitsValue ds : ℤ) : ℚ) * 100 + ((digitsValue es : ℤ) : ℚ) = ((digitsValue ds * 100 + digitsValue es : ℤ) : ℚ) := by
    push_cast
    rfl
  have hminor : (toNumber es).toRat? = some ((digitsValue es : ℤ) : ℚ) := hnumber (by omega)
  have hsafe : |(digitsValue ds * 100 + digitsValue es : ℤ)| ≤ 9007199254740991 := by
    rw [abs_of_nonneg (by positivity)]
    omega
  rw [JsNumber.toRat?_add_of_safe hproduct hminor hcast hsafe]
  push_cast
  rw [mul_comm]

/-! ## Marks -/

theorem filter_dropWhile {p q : UInt16 → Bool} (h : ∀ c, q c = true → p c = false) (s : JsString) :
    (s.dropWhile q).filter p = s.filter p := by
  induction s with
  | nil => rfl
  | cons c s ih =>
    rw [List.dropWhile_cons]
    split_ifs with hc
    · have hdropped : ¬ p c = true := by
        rw [h c hc]
        exact Bool.false_ne_true
      rw [ih, List.filter_cons_of_neg hdropped]
    · rfl

/-- Trimming takes off what is removed anyway. -/
theorem unmarked_trim (s : JsString) : unmarked s.trim = unmarked s := by
  have hspace : ∀ c, JsString.isSpace c = true → (!isMark c) = false := by
    intro c hc
    unfold isMark
    rw [hc, Bool.or_true]
    rfl
  unfold unmarked JsString.trim
  rw [List.filter_reverse, filter_dropWhile hspace, List.filter_reverse, List.reverse_reverse, filter_dropWhile hspace]

theorem unmarked_append (s t : JsString) : unmarked (s ++ t) = unmarked s ++ unmarked t := List.filter_append s t

theorem unmarked_of_digits {ds : JsString} (h : ∀ d ∈ ds, isDigit d = true) : unmarked ds = ds := by
  refine List.filter_eq_self.mpr fun d hd => ?_
  rw [isMark_of_isDigit (h d hd)]
  rfl

/-- Grouping only adds commas. -/
theorem unmarked_groupThousands {ds : JsString} (h : ∀ d ∈ ds, isDigit d = true) : unmarked (groupThousands ds) = ds := by
  have hcons : ∀ {c : UInt16} {s : JsString}, isDigit c = true → unmarked (c :: s) = c :: unmarked s := by
    intro c s hc
    refine List.filter_cons_of_pos ?_
    rw [isMark_of_isDigit hc]
    rfl
  have hcomma : ∀ s : JsString, unmarked (comma :: s) = unmarked s := fun s => List.filter_cons_of_neg (by decide)
  fun_induction groupThousands ds with
  | case1 => rfl
  | case2 c => exact unmarked_of_digits h
  | case3 c d rest hthird ih =>
    rw [hcons (h c List.mem_cons_self), hcomma, ih fun e he => h e (List.mem_cons_of_mem c he)]
  | case4 c d rest hthird ih => rw [hcons (h c List.mem_cons_self), ih fun e he => h e (List.mem_cons_of_mem c he)]

/-! ## Printed digits -/

theorem toNat_unit {c : Char} (h : c.isDigit = true) : (c.toNat.toUInt16).toNat = c.toNat ∧ 48 ≤ c.toNat ∧ c.toNat ≤ 57 := by
  have hbounds : 48 ≤ c.toNat ∧ c.toNat ≤ 57 := by
    rw [Char.isDigit_iff_toNat] at h
    exact h
  refine ⟨?_, hbounds⟩
  rw [Nat.toUInt16_eq, UInt16.toNat_ofNat']
  omega

theorem decimalText_digits (n : Nat) : ∀ d ∈ decimalText n, isDigit d = true := by
  intro d hd
  obtain ⟨c, hc, rfl⟩ := List.mem_map.mp hd
  obtain ⟨hunit, hbounds⟩ := toNat_unit (Nat.isDigit_of_mem_toDigits (by decide) (by decide) hc)
  unfold isDigit
  rw [hunit]
  exact decide_eq_true hbounds

theorem decimalText_ne_nil (n : Nat) : decimalText n ≠ [] := by
  intro h
  exact Nat.toDigits_ne_nil (List.map_eq_nil_iff.mp h)

/-- Printed digits spell the number. -/
theorem digitsValue_decimalText (n : Nat) : digitsValue (decimalText n) = n := by
  have hfold : ∀ (cs : List Char) (acc : Nat), (∀ c ∈ cs, c.isDigit = true) →
      (cs.map fun c => c.toNat.toUInt16).foldl (fun n c => 10 * n + (c.toNat - 48)) acc = Nat.ofDigitChars 10 cs acc := by
    intro cs
    induction cs with
    | nil => exact fun acc _ => rfl
    | cons c cs ih =>
      intro acc h
      rw [List.map_cons, List.foldl_cons, (toNat_unit (h c List.mem_cons_self)).1, Nat.ofDigitChars_cons,
        ih _ fun c' hc' => h c' (List.mem_cons_of_mem c hc')]
      rfl
  unfold digitsValue decimalText
  rw [hfold _ 0 fun c hc => Nat.isDigit_of_mem_toDigits (by decide) (by decide) hc]
  exact Nat.ofDigitChars_ten_toDigits

theorem padStart_digits {ds : JsString} (h : ∀ d ∈ ds, isDigit d = true) : ∀ d ∈ padStart ds, isDigit d = true := by
  intro d hd
  rcases List.mem_append.mp hd with hzero | hmem
  · rw [List.eq_of_mem_replicate hzero]
    decide
  · exact h d hmem

theorem length_padStart {n : Nat} (h : n < 100) : (padStart (decimalText n)).length = 2 := by
  have hle : (decimalText n).length ≤ 2 := by
    unfold decimalText
    rw [List.length_map]
    exact Digits.length_decimal_le (by omega) h
  unfold padStart
  rw [List.length_append, List.length_replicate]
  omega

theorem padStart_of_length {s : JsString} (h : s.length = 2) : padStart s = s := by
  unfold padStart
  rw [h]
  rfl

/-! ## Printing an amount -/

/-- The amounts that `formatMoney` is given. -/
def SafeAmount (a : Int) : Prop := |a| ≤ 9007199254740991

theorem SafeAmount.natAbs_le {a : Int} (h : SafeAmount a) : a.natAbs ≤ 9007199254740991 := by
  unfold SafeAmount at h
  rw [Int.abs_eq_natAbs] at h
  omega

theorem toMajorString_eq {a : Int} (h : SafeAmount a) : toMajorString a =
    signMark (decide (a < 0)) ++ decimalText (a.natAbs / 100) ++ dot :: padStart (decimalText (a.natAbs % 100)) := by
  unfold toMajorString signMark
  dsimp only
  rw [floor_nearest_div h.natAbs_le, Int.toNat_natCast]
  simp only [decide_eq_true_eq]

/-- A printed amount without its marks is the amount in major units. -/
theorem unmarked_formatMoney {a : Int} (h : SafeAmount a) (withSymbol grouping : Bool) :
    unmarked (formatMoney a { withSymbol := withSymbol, grouping := grouping }) =
      signMark (decide (a < 0)) ++ decimalText (a.natAbs / 100) ++ dot :: padStart (decimalText (a.natAbs % 100)) := by
  have hwhole := decimalText_digits (a.natAbs / 100)
  have hfraction := padStart_digits (decimalText_digits (a.natAbs % 100))
  have hne := decimalText_ne_nil (a.natAbs / 100)
  have hminor : (padStart (padStart (decimalText (a.natAbs % 100)))).take 2 = padStart (decimalText (a.natAbs % 100)) := by
    have hlength := length_padStart (Nat.mod_lt a.natAbs (by omega : 0 < 100))
    rw [padStart_of_length hlength, List.take_of_length_le hlength.le]
  have hparts : (toMajorString a).splitOn dot =
      [signMark (decide (a < 0)) ++ decimalText (a.natAbs / 100), padStart (decimalText (a.natAbs % 100))] := by
    rw [toMajorString_eq h]
    refine splitOn_point ?_ (dot_not_mem hfraction)
    rw [List.mem_append, not_or]
    refine ⟨fun hmem => ?_, dot_not_mem hwhole⟩
    unfold signMark at hmem
    split_ifs at hmem
    · exact absurd (List.mem_singleton.mp hmem) (by decide)
    · cases hmem
  have hhead : (signMark (decide (a < 0)) ++ decimalText (a.natAbs / 100) ++ []).head? = some minusSign ↔ decide (a < 0) = true :=
    head?_signMark hne hwhole
  have herase : (signMark (decide (a < 0)) ++ decimalText (a.natAbs / 100) ++ []).erase minusSign = decimalText (a.natAbs / 100) ++ [] :=
    erase_signMark hwhole List.not_mem_nil
  rw [List.append_nil] at hhead herase
  rw [List.append_nil] at herase
  have hgrouped : unmarked (if grouping = true then groupThousands (decimalText (a.natAbs / 100)) else decimalText (a.natAbs / 100)) =
      decimalText (a.natAbs / 100) := by
    split_ifs
    · exact unmarked_groupThousands hwhole
    · exact unmarked_of_digits hwhole
  have hsign : unmarked (if (signMark (decide (a < 0)) ++ decimalText (a.natAbs / 100)).head? = some minusSign then [minusSign] else []) =
      signMark (decide (a < 0)) := by
    unfold signMark at hhead ⊢
    simp only [hhead]
    split_ifs
    · decide
    · rfl
  have hsymbol : unmarked (if withSymbol = true then [yen] else []) = [] := by
    split_ifs <;> decide
  have hpoint : unmarked (dot :: padStart (decimalText (a.natAbs % 100))) = dot :: padStart (decimalText (a.natAbs % 100)) := by
    have hkept : unmarked (dot :: padStart (decimalText (a.natAbs % 100))) = dot :: unmarked (padStart (decimalText (a.natAbs % 100))) :=
      List.filter_cons_of_pos (by decide)
    rw [hkept, unmarked_of_digits hfraction]
  unfold formatMoney
  dsimp only
  rw [hparts]
  simp only [List.getD_cons_zero, List.getD_cons_succ, if_true]
  rw [hminor, herase, unmarked_append, unmarked_append, unmarked_append, hsign, hsymbol, hgrouped, hpoint, List.append_nil,
    List.append_assoc]

/-- What is printed is read back. -/
theorem fromMajorString_formatMoney {a : Int} (h : SafeAmount a) (withSymbol grouping : Bool) :
    ∃ x, fromMajorString (formatMoney a { withSymbol := withSymbol, grouping := grouping }) = some x ∧ x.toRat? = some (a : ℚ) := by
  let ds := decimalText (a.natAbs / 100)
  let fs := padStart (decimalText (a.natAbs % 100))
  have hlength : fs.length = 2 := length_padStart (Nat.mod_lt a.natAbs (by omega))
  have hnumeral : Numeral (unmarked (formatMoney a { withSymbol := withSymbol, grouping := grouping }).trim) (decide (a < 0)) ds fs := by
    rw [unmarked_trim, unmarked_formatMoney h]
    exact .point (decimalText_ne_nil _) (decimalText_digits _) (padStart_digits (decimalText_digits _))
  have hvalue : 100 * digitsValue ds + digitsValue (padEnd fs) = a.natAbs := by
    rw [digitsValue_padEnd, hlength, Nat.sub_self, pow_zero, mul_one, digitsValue_padStart, digitsValue_decimalText,
      digitsValue_decimalText]
    exact Nat.div_add_mod a.natAbs 100
  have hbound : 100 * digitsValue ds + digitsValue (padEnd fs) ≤ 9007199254740991 := by
    rw [hvalue]
    exact h.natAbs_le
  have hcents := cents_exact hbound
  rw [hvalue] at hcents
  have hfinite : ¬ (((toNumber ds).mul (.finite 100 0)).add (toNumber (padEnd fs))).isFinite = false := by
    rw [JsNumber.isFinite_of_toRat? hcents]
    decide
  rw [fromMajorString_eq hnumeral hlength.le, if_neg hfinite]
  refine ⟨_, rfl, ?_⟩
  by_cases hneg : a < 0
  · rw [decide_eq_true hneg, if_pos rfl, JsNumber.toRat?_neg hcents]
    have habs : -((a.natAbs : ℕ) : ℤ) = a := by omega
    rw [← Int.cast_natCast, ← Int.cast_neg, habs]
  · rw [decide_eq_false hneg, if_neg Bool.false_ne_true, hcents]
    have habs : ((a.natAbs : ℕ) : ℤ) = a := by omega
    rw [← Int.cast_natCast, habs]

/-! ## Reading any text -/

/-- What is read is exact when one hundred times the number is a safe integer. -/
theorem fromMajorString_exact {s : JsString} {x : JsNumber} {negative : Bool} {ds fs : JsString} (accepted : fromMajorString s = some x)
    (h : Numeral (unmarked s) negative ds fs) (hshort : fs.length ≤ 2) (hsafe : |100 * decimal negative ds fs| ≤ 9007199254740991) :
    x.toRat? = some (100 * decimal negative ds fs) := by
  rw [← unmarked_trim] at h
  rw [hundred_mul_decimal negative ds hshort] at hsafe ⊢
  have hbound : 100 * digitsValue ds + digitsValue (padEnd fs) ≤ 9007199254740991 := by
    have habs : |(if negative = true then (-1 : ℚ) else 1) * ((100 * digitsValue ds + digitsValue (padEnd fs) : ℕ) : ℚ)| =
        ((100 * digitsValue ds + digitsValue (padEnd fs) : ℕ) : ℚ) := by
      rw [abs_mul, Nat.abs_cast]
      split_ifs <;> norm_num
    rw [habs] at hsafe
    exact_mod_cast hsafe
  have hcents := cents_exact hbound
  rw [fromMajorString_eq h hshort] at accepted
  split_ifs at accepted with hfinite hneg
  · cases accepted
    rw [if_pos hneg, JsNumber.toRat?_neg hcents, neg_one_mul]
  · cases accepted
    rw [if_neg hneg, hcents, one_mul]

/-- Every safe amount is read back from what is printed. What is read from any other text is a safe integer, and exactly one hundred
times the number, when one hundred times the number is a safe integer. -/
theorem money_survives_iff {a : Int} (hsafeAmount : SafeAmount a) (withSymbol grouping : Bool) {s : JsString} {x : JsNumber}
    (h : fromMajorString s = some x) :
    (∃ y, fromMajorString (formatMoney a { withSymbol := withSymbol, grouping := grouping }) = some y ∧ y.toRat? = some (a : ℚ)) ∧
    ∃ negative ds fs, Numeral (unmarked s) negative ds fs ∧
      ((x.SafeInteger ∧ x.toRat? = some (100 * decimal negative ds fs)) ↔ |100 * decimal negative ds fs| ≤ 9007199254740991) := by
  refine ⟨fromMajorString_formatMoney hsafeAmount withSymbol grouping, ?_⟩
  have haccepted : accepted (unmarked s) = true := by
    have hx := h
    unfold fromMajorString at hx
    dsimp only at hx
    rw [unmarked_trim] at hx
    split_ifs at hx with htest <;> exact Bool.eq_true_of_not_eq_false htest
  obtain ⟨negative, ds, fs, hnumeral, hshort⟩ := accepted_iff.mp haccepted
  refine ⟨negative, ds, fs, hnumeral, ?_⟩
  constructor
  · rintro ⟨⟨n, hn, hsafe⟩, hvalue⟩
    rw [hvalue, Option.some.injEq] at hn
    rw [hn]
    exact_mod_cast hsafe
  · intro hsafe
    have hvalue := fromMajorString_exact h hnumeral hshort hsafe
    refine ⟨?_, hvalue⟩
    rw [hundred_mul_decimal negative ds hshort] at hvalue hsafe
    have hcast : (if negative = true then (-1 : ℚ) else 1) * ((100 * digitsValue ds + digitsValue (padEnd fs) : ℕ) : ℚ) =
        (((if negative = true then -1 else 1) * (100 * digitsValue ds + digitsValue (padEnd fs) : ℕ) : ℤ) : ℚ) := by
      push_cast
      split_ifs <;> rfl
    rw [hcast] at hvalue hsafe
    exact ⟨_, hvalue, by exact_mod_cast hsafe⟩

theorem money_survives_iff_cups :
    (∃ x, fromMajorString (formatMoney (-1999) {}) = some x ∧ x.toRat? = some ((-1999 : Int) : ℚ)) ∧
    ∃ negative ds fs, Numeral (unmarked [49, 50, 46, 53]) negative ds fs ∧
      (((JsNumber.finite 1250 0).SafeInteger ∧ (JsNumber.finite 1250 0).toRat? = some (100 * decimal negative ds fs)) ↔
        |100 * decimal negative ds fs| ≤ 9007199254740991) := by
  have hamount : SafeAmount (-1999) := by
    unfold SafeAmount
    decide
  have hread : fromMajorString [49, 50, 46, 53] = some (.finite 1250 0) := by decide +kernel
  exact money_survives_iff hamount true true hread

/-- The digits before the point of an amount past the largest safe integer. -/
def largeWhole : JsString := [57, 48, 48, 55, 49, 57, 57, 50, 53, 52, 55, 52, 48, 57]

/-- `90071992547409.93` is read as its neighbour. -/
theorem largeAmount_rounded : ∃ x, fromMajorString (js "90071992547409.93") = some x ∧
    Numeral (unmarked (js "90071992547409.93")) false largeWhole [57, 51] ∧
    ¬ (x.SafeInteger ∧ x.toRat? = some (100 * decimal false largeWhole [57, 51])) := by
  have htext : js "90071992547409.93" = largeWhole ++ dot :: [57, 51] := by decide +kernel
  have hread : fromMajorString (largeWhole ++ dot :: [57, 51]) = some (.finite 9007199254740992 0) := by decide +kernel
  rw [htext]
  refine ⟨_, hread, ?_, ?_⟩
  · have hplain : unmarked (largeWhole ++ dot :: [57, 51]) = signMark false ++ largeWhole ++ dot :: [57, 51] := by decide +kernel
    rw [hplain]
    exact .point (by decide) (List.all_eq_true.mp (by decide)) (List.all_eq_true.mp (by decide))
  · rintro ⟨⟨n, hn, hsafe⟩, -⟩
    have hvalue : (JsNumber.finite 9007199254740992 0).toRat? = some ((9007199254740992 : ℤ) : ℚ) := by
      show some (((9007199254740992 : ℤ) : ℚ) / 2 ^ 0) = _
      rw [pow_zero, div_one]
    rw [hvalue, Option.some.injEq, Int.cast_inj] at hn
    rw [← hn] at hsafe
    exact absurd hsafe (by decide)

end NovaCommerce.Frontend
