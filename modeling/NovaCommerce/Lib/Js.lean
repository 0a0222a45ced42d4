import Mathlib

/-!
# JavaScript values

* `JsString` : the UTF-16 code units of a string, with `js` for a literal and `trim`;
* `JsNumber` : a double;
* `JsValue` : a value, `plain` on an object says that its prototype is `Object.prototype` or `null`, and an
  `Origin` whether a function was given an array or object or built it;
* `JsValue.PlainData` : strings, finite numbers, booleans and `null`, in arrays and plain objects that were built.
-/

/-- The UTF-16 code units of a string. -/
abbrev JsString := List UInt16

namespace JsString

/-- The code units of a character. -/
def units (c : Char) : JsString :=
  if c.toNat < 0x10000 then [c.toNat.toUInt16]
  else [(0xD800 + (c.toNat - 0x10000) / 0x400).toUInt16, (0xDC00 + (c.toNat - 0x10000) % 0x400).toUInt16]

/-- White space and line terminators. -/
def isSpace (c : UInt16) : Bool :=
  let n := c.toNat
  decide ((9 ≤ n ∧ n ≤ 13) ∨ n = 0x20 ∨ n = 0xA0 ∨ n = 0x1680 ∨ (0x2000 ≤ n ∧ n ≤ 0x200A) ∨ n = 0x2028 ∨
    n = 0x2029 ∨ n = 0x202F ∨ n = 0x205F ∨ n = 0x3000 ∨ n = 0xFEFF)

/-- `String.prototype.trim`. -/
def trim (s : JsString) : JsString := ((s.dropWhile isSpace).reverse.dropWhile isSpace).reverse

theorem mem_of_mem_trim {s : JsString} {c : UInt16} (h : c ∈ s.trim) : c ∈ s := by
  unfold trim at h
  rw [List.mem_reverse] at h
  have hdrop := (List.dropWhile_sublist _).mem h
  rw [List.mem_reverse] at hdrop
  exact (List.dropWhile_sublist _).mem hdrop

theorem dropWhile_of_prefix {s t : JsString} {p : UInt16 → Bool} (h : t <+: s) (hs : s.dropWhile p = s) :
    t.dropWhile p = t := by
  rw [List.dropWhile_eq_self_iff] at hs ⊢
  intro hlength
  have hfirst := hs (hlength.trans_le h.length_le)
  rwa [h.getElem hlength]

theorem dropWhile_trim (s : JsString) : s.trim.dropWhile isSpace = s.trim :=
  dropWhile_of_prefix (List.rdropWhile_prefix isSpace _) (List.dropWhile_idempotent isSpace s)

/-- A text that starts with no space and ends in none is trimmed. -/
theorem trim_of_ends {s : JsString} (hfirst : s.dropWhile isSpace = s) (hlast : s.rdropWhile isSpace = s) :
    s.trim = s := by
  show (s.dropWhile isSpace).rdropWhile isSpace = s
  rw [hfirst, hlast]

@[simp] theorem trim_trim (s : JsString) : s.trim.trim = s.trim :=
  trim_of_ends (dropWhile_trim s) (List.rdropWhile_idempotent isSpace _)

/-- A trimmed text stays trimmed if it is cut and a mark is put behind it. -/
theorem trim_take_append {s : JsString} (h : s.trim = s) (n : Nat) {mark : UInt16} (hmark : isSpace mark = false) :
    JsString.trim (s.take n ++ [mark]) = s.take n ++ [mark] := by
  apply trim_of_ends
  · have hfirst : (s.take n).dropWhile isSpace = s.take n := by
      apply dropWhile_of_prefix (List.take_prefix n s)
      rw [← h]
      exact dropWhile_trim s
    rw [List.dropWhile_append, hfirst]
    cases s.take n with
    | nil =>
      rw [List.isEmpty_nil, if_pos rfl, List.dropWhile_cons_of_neg (by rw [hmark]; exact Bool.false_ne_true)]
      rfl
    | cons c rest => rfl
  · apply List.rdropWhile_concat_neg
    rw [hmark]
    exact Bool.false_ne_true

end JsString

/-- A string literal. -/
def js (s : String) : JsString := s.toList.flatMap JsString.units

/-- A double: `num / 2 ^ shift`, minus zero, an infinity, or NaN. -/
inductive JsNumber where
  | finite (num : Int) (shift : Nat)
  | minusZero
  | infinity (negative : Bool)
  | nan
  deriving DecidableEq, Repr

/-- `Number.isFinite`. -/
def JsNumber.isFinite : JsNumber → Bool
  | .finite _ _ | .minusZero => true
  | .infinity _ | .nan => false

/-- Where an array or object comes from: a function was given it, or evaluated a literal. -/
inductive Origin where
  | given
  | built
  deriving DecidableEq, Repr

/-- A value. The own enumerable properties of an object stand in their order. -/
inductive JsValue where
  | undefined
  | null
  | bool (value : Bool)
  | number (value : JsNumber)
  | bigint (value : Int)
  | string (value : JsString)
  | symbol
  | function
  | array (origin : Origin) (items : List JsValue)
  | object (origin : Origin) (plain : Bool) (entries : List (JsString × JsValue))

namespace JsValue

/-- `new Map(entries).get(key)`: the last entry of the key. -/
def field (entries : List (JsString × JsValue)) (key : JsString) : JsValue :=
  ((entries.reverse.find? fun e => e.1 = key).map Prod.snd).getD .undefined

/-- Data that shares nothing with what a function was given, and that holds no function, no foreign prototype, no
key that `reserved` lists, no string with a character that `banned` names, and no number that is not finite. -/
inductive PlainData (reserved : List JsString) (banned : UInt16 → Bool) : JsValue → Prop where
  | null : PlainData reserved banned .null
  | bool (value : Bool) : PlainData reserved banned (.bool value)
  | number {value : JsNumber} (finite : value.isFinite = true) : PlainData reserved banned (.number value)
  | string {value : JsString} (clean : ∀ c ∈ value, banned c = false) : PlainData reserved banned (.string value)
  | array {items : List JsValue} (parts : ∀ v ∈ items, PlainData reserved banned v) :
      PlainData reserved banned (.array .built items)
  | object {entries : List (JsString × JsValue)} (keys : ∀ e ∈ entries, e.1 ∉ reserved)
      (parts : ∀ e ∈ entries, PlainData reserved banned e.2) : PlainData reserved banned (.object .built true entries)

end JsValue
