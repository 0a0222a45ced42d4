import Mathlib

/-!
# Base64 with the URL-safe alphabet

* `encode` : three bytes in four characters, with padding at the end;
* `scan`, `decode?` : the lenient decoder. It skips what is not in the alphabet, and a padded group ends the input;
* `strip`, `repad` : the padding taken off, and put on again;
* `decode?_repad` : what was encoded and stripped is read back.
-/

namespace Base64

def alphabet : List Char := "ABCDEFGHIJKLMNOPQRSTUVWXYZabcdefghijklmnopqrstuvwxyz0123456789-_".toList

/-- The character of six bits. -/
def digit (n : Nat) : Char := alphabet.getD n 'A'

/-- The six bits of a character, also of the two that the standard alphabet has instead. -/
def value? (c : Char) : Option Nat :=
  let n := c.toNat
  if 65 ≤ n ∧ n ≤ 90 then some (n - 65)
  else if 97 ≤ n ∧ n ≤ 122 then some (n - 71)
  else if 48 ≤ n ∧ n ≤ 57 then some (n + 4)
  else if c = '+' ∨ c = '-' then some 62
  else if c = '/' ∨ c = '_' then some 63
  else none

def encode : List UInt8 → List Char
  | [] => []
  | [a] => [digit (a.toNat / 4), digit (a.toNat % 4 * 16), '=', '=']
  | [a, b] => [digit (a.toNat / 4), digit (a.toNat % 4 * 16 + b.toNat / 16), digit (b.toNat % 16 * 4), '=']
  | a :: b :: c :: bytes =>
    digit (a.toNat / 4) :: digit (a.toNat % 4 * 16 + b.toNat / 16) :: digit (b.toNat % 16 * 4 + c.toNat / 64) ::
      digit (c.toNat % 64) :: encode bytes

/-- The decoder at a place in its group, with the bits left over there and the padding just read. -/
def scan : Nat → Nat → Nat → List Char → Option (List UInt8)
  | place, _, _, [] => if place = 0 then some [] else none
  | place, left, pads, c :: cs =>
    if c = '=' then
      if 2 ≤ place then if 4 ≤ place + (pads + 1) then some [] else scan place left (pads + 1) cs
      else scan place left pads cs
    else match value? c with
      | none => scan place left pads cs
      | some v =>
        match place with
        | 0 => scan 1 v 0 cs
        | 1 => (scan 2 (v % 16) 0 cs).map (UInt8.ofNat (left * 4 + v / 16) :: ·)
        | 2 => (scan 3 (v % 4) 0 cs).map (UInt8.ofNat (left * 16 + v / 4) :: ·)
        | _ => (scan 0 0 0 cs).map (UInt8.ofNat (left * 64 + v) :: ·)

def decode? (cs : List Char) : Option (List UInt8) := scan 0 0 0 cs

/-- `rstrip("=")`. -/
def strip (cs : List Char) : List Char := (cs.reverse.dropWhile (· = '=')).reverse

/-- As many pads as the length lacks. -/
def repad (cs : List Char) : List Char := cs ++ List.replicate ((4 - cs.length % 4) % 4) '='

/-! ## Digits -/

theorem digits_known : ∀ n : Fin 64, value? (digit n) = some n.val ∧ digit n ≠ '=' ∧ digit n ≠ '.' ∧ (digit n).toNat < 128 := by
  decide +kernel

theorem value?_digit {n : Nat} (h : n < 64) : value? (digit n) = some n := (digits_known ⟨n, h⟩).1

theorem digit_ne_pad {n : Nat} (h : n < 64) : digit n ≠ '=' := (digits_known ⟨n, h⟩).2.1

theorem digit_ne_dot {n : Nat} (h : n < 64) : digit n ≠ '.' := (digits_known ⟨n, h⟩).2.2.1

theorem digit_ascii {n : Nat} (h : n < 64) : (digit n).toNat < 128 := (digits_known ⟨n, h⟩).2.2.2

/-! ## Reading a group -/

theorem scan_digit {n : Nat} (h : n < 64) (place left pads : Nat) (cs : List Char) :
    scan place left pads (digit n :: cs) =
      match place with
      | 0 => scan 1 n 0 cs
      | 1 => (scan 2 (n % 16) 0 cs).map (UInt8.ofNat (left * 4 + n / 16) :: ·)
      | 2 => (scan 3 (n % 4) 0 cs).map (UInt8.ofNat (left * 16 + n / 4) :: ·)
      | _ => (scan 0 0 0 cs).map (UInt8.ofNat (left * 64 + n) :: ·) := by
  rw [scan, if_neg (digit_ne_pad h), value?_digit h]

/-- The first byte of a group, from its first two characters. -/
theorem scan_first (a : UInt8) {low : Nat} (h : low < 16) (cs : List Char) :
    scan 0 0 0 (digit (a.toNat / 4) :: digit (a.toNat % 4 * 16 + low) :: cs) = (scan 2 low 0 cs).map (a :: ·) := by
  have ha : a.toNat < 256 := a.toNat_lt
  have hbyte : a.toNat / 4 * 4 + (a.toNat % 4 * 16 + low) / 16 = a.toNat := by omega
  have hleft : (a.toNat % 4 * 16 + low) % 16 = low := by omega
  rw [scan_digit (by omega), scan_digit (by omega)]
  rw [hbyte, hleft, UInt8.ofNat_toNat]
  rfl

/-- The second byte. -/
theorem scan_second (b : UInt8) {low : Nat} (h : low < 4) (cs : List Char) :
    scan 2 (b.toNat / 16) 0 (digit (b.toNat % 16 * 4 + low) :: cs) = (scan 3 low 0 cs).map (b :: ·) := by
  have hb : b.toNat < 256 := b.toNat_lt
  have hbyte : b.toNat / 16 * 16 + (b.toNat % 16 * 4 + low) / 4 = b.toNat := by omega
  have hleft : (b.toNat % 16 * 4 + low) % 4 = low := by omega
  rw [scan_digit (by omega)]
  rw [hbyte, hleft, UInt8.ofNat_toNat]
  rfl

/-- The third byte. -/
theorem scan_third (c : UInt8) (cs : List Char) :
    scan 3 (c.toNat / 64) 0 (digit (c.toNat % 64) :: cs) = (scan 0 0 0 cs).map (c :: ·) := by
  have hc : c.toNat < 256 := c.toNat_lt
  have hbyte : c.toNat / 64 * 64 + c.toNat % 64 = c.toNat := by omega
  rw [scan_digit (by omega)]
  rw [hbyte, UInt8.ofNat_toNat]
  rfl

theorem decode?_encode (bytes : List UInt8) : decode? (encode bytes) = some bytes := by
  unfold decode?
  induction bytes using encode.induct with
  | case1 => rfl
  | case2 a =>
    have ha : a.toNat < 256 := a.toNat_lt
    show scan 0 0 0 (digit (a.toNat / 4) :: digit (a.toNat % 4 * 16 + 0) :: ['=', '=']) = _
    rw [scan_first a (by omega)]
    rfl
  | case3 a b =>
    have hb : b.toNat < 256 := b.toNat_lt
    show scan 0 0 0 (digit (a.toNat / 4) :: digit (a.toNat % 4 * 16 + b.toNat / 16) :: digit (b.toNat % 16 * 4 + 0) :: ['=']) = _
    rw [scan_first a (by omega), scan_second b (by omega)]
    rfl
  | case4 a b c bytes ih =>
    have hb : b.toNat < 256 := b.toNat_lt
    have hc : c.toNat < 256 := c.toNat_lt
    rw [encode, scan_first a (by omega), scan_second b (by omega), scan_third, ih]
    rfl

/-! ## Padding -/

/-- What was encoded is digits and fewer than three pads, four by four. -/
theorem encode_padded (bytes : List UInt8) : ∃ body pads, encode bytes = body ++ List.replicate pads '=' ∧ pads ≤ 2 ∧
    (body.length + pads) % 4 = 0 ∧ ∀ c ∈ body, ∃ n < 64, c = digit n := by
  induction bytes using encode.induct with
  | case1 => exact ⟨[], 0, rfl, by omega, rfl, fun _ h => nomatch h⟩
  | case2 a =>
    have ha : a.toNat < 256 := a.toNat_lt
    refine ⟨[digit (a.toNat / 4), digit (a.toNat % 4 * 16)], 2, rfl, le_rfl, by simp, ?_⟩
    simp only [List.forall_mem_cons, List.not_mem_nil, false_imp_iff, implies_true, and_true]
    exact ⟨⟨_, by omega, rfl⟩, ⟨_, by omega, rfl⟩⟩
  | case3 a b =>
    have ha : a.toNat < 256 := a.toNat_lt
    have hb : b.toNat < 256 := b.toNat_lt
    refine ⟨[digit (a.toNat / 4), digit (a.toNat % 4 * 16 + b.toNat / 16), digit (b.toNat % 16 * 4)], 1, rfl, by omega, by simp, ?_⟩
    simp only [List.forall_mem_cons, List.not_mem_nil, false_imp_iff, implies_true, and_true]
    exact ⟨⟨_, by omega, rfl⟩, ⟨_, by omega, rfl⟩, ⟨_, by omega, rfl⟩⟩
  | case4 a b c bytes ih =>
    have ha : a.toNat < 256 := a.toNat_lt
    have hb : b.toNat < 256 := b.toNat_lt
    have hc : c.toNat < 256 := c.toNat_lt
    obtain ⟨body, pads, hencode, hpads, hlength, hdigits⟩ := ih
    refine ⟨digit (a.toNat / 4) :: digit (a.toNat % 4 * 16 + b.toNat / 16) :: digit (b.toNat % 16 * 4 + c.toNat / 64) ::
      digit (c.toNat % 64) :: body, pads, ?_, hpads, ?_, ?_⟩
    · rw [encode, hencode]
      rfl
    · simp only [List.length_cons]
      omega
    · simp only [List.forall_mem_cons]
      exact ⟨⟨_, by omega, rfl⟩, ⟨_, by omega, rfl⟩, ⟨_, by omega, rfl⟩, ⟨_, by omega, rfl⟩, hdigits⟩

/-- Stripping takes the pads, and nothing else. -/
theorem strip_append {body : List Char} (h : ∀ c ∈ body, c ≠ '=') (pads : Nat) : strip (body ++ List.replicate pads '=') = body := by
  unfold strip
  rw [List.reverse_append, List.reverse_replicate]
  have hpads : (List.replicate pads '=' ++ body.reverse).dropWhile (· = '=') = body.reverse.dropWhile (· = '=') := by
    induction pads with
    | zero => rfl
    | succ pads ih => exact ih
  have hbody : body.reverse.dropWhile (· = '=') = body.reverse := by
    apply List.dropWhile_eq_self_iff.mpr
    intro hpos
    simp only [decide_eq_true_eq]
    exact h _ (List.mem_reverse.mp (List.getElem_mem hpos))
  rw [hpads, hbody, List.reverse_reverse]

/-- The characters that are left when the padding is taken off are digits. -/
theorem strip_encode_digits (bytes : List UInt8) : ∀ c ∈ strip (encode bytes), ∃ n < 64, c = digit n := by
  obtain ⟨body, pads, hencode, -, -, hdigits⟩ := encode_padded bytes
  have hplain : ∀ c ∈ body, c ≠ '=' := by
    intro c hc
    obtain ⟨n, hn, rfl⟩ := hdigits c hc
    exact digit_ne_pad hn
  rw [hencode, strip_append hplain]
  exact hdigits

/-- The padding is put on again as it was. -/
theorem repad_strip_encode (bytes : List UInt8) : repad (strip (encode bytes)) = encode bytes := by
  obtain ⟨body, pads, hencode, hpads, hlength, hdigits⟩ := encode_padded bytes
  have hplain : ∀ c ∈ body, c ≠ '=' := by
    intro c hc
    obtain ⟨n, hn, rfl⟩ := hdigits c hc
    exact digit_ne_pad hn
  have hmissing : (4 - body.length % 4) % 4 = pads := by omega
  rw [hencode, strip_append hplain, repad, hmissing]

/-- What was encoded and stripped is read back. -/
theorem decode?_repad (bytes : List UInt8) : decode? (repad (strip (encode bytes))) = some bytes := by
  rw [repad_strip_encode, decode?_encode]

end Base64
