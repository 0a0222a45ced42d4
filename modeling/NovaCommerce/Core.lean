import NovaCommerce.Lib.Dict
import NovaCommerce.Lib.Digits
import NovaCommerce.Lib.Raise
import NovaCommerce.Lib.Sql

/-!
# Shared vocabulary

* `Time` : epoch milliseconds, and the `YYYYMMDD` stamp of the numbers built from it;
* `strip`, `pyInt?` : the string operations of the edge, on the characters Python knows;
* `Json` : a decoded JSON value;
* `AppError` : an exception with its business code.
-/

namespace NovaCommerce

/-- Epoch milliseconds. -/
abbrev Time := Nat

/-! ## Dates and numbers -/

/-- A number in at least `width` decimal digits. -/
def pad (width n : Nat) : String :=
  let digits := toString n
  String.ofList (List.replicate (width - digits.length) '0') ++ digits

/-- The civil date of a day count since the epoch. -/
def civil (days : Nat) : Nat × Nat × Nat :=
  let z := days + 719468
  let era := z / 146097
  let doe := z % 146097
  let yoe := (doe - doe / 1460 + doe / 36524 - doe / 146096) / 365
  let doy := doe - (365 * yoe + yoe / 4 - yoe / 100)
  let mp := (5 * doy + 2) / 153
  let day := doy - (153 * mp + 2) / 5 + 1
  let month := if mp < 10 then mp + 3 else mp - 9
  let year := yoe + era * 400 + (if month ≤ 2 then 1 else 0)
  (year, month, day)

/-- The `%Y%m%d` stamp of a time. -/
def stamp (t : Time) : String :=
  let (year, month, day) := civil (t / 86400000)
  pad 4 year ++ pad 2 month ++ pad 2 day

/-- A business number: prefix, date stamp, and the row id in six digits. -/
def businessNo (prefix_ : String) (now : Time) (id : Nat) : String :=
  prefix_ ++ stamp now ++ pad 6 id

example : businessNo "NV" 1735689600000 42 = "NV20250101000042" := by decide

/-- `datetime.max`, to the millisecond. -/
def maxTime : Time := 253402300799999

theorem toList_pad (width n : Nat) :
    (pad width n).toList =
      List.replicate (width - (Digits.decimal n).length) '0' ++ Digits.decimal n := by
  unfold pad
  rw [String.toList_append, String.toList_ofList, ← String.length_toList, Digits.toList_toString]

theorem pad_injective {width n m : Nat} (h : pad width n = pad width m) : n = m := by
  have hlist := congrArg String.toList h
  rw [toList_pad, toList_pad] at hlist
  exact Digits.zeros_decimal_inj hlist

/-- A number that fits its width has exactly that many characters. -/
theorem length_pad {width n : Nat} (hw : 0 < width) (h : n < 10 ^ width) : (pad width n).toList.length = width := by
  have hlen := Digits.length_decimal_le hw h
  rw [toList_pad, List.length_append, List.length_replicate]
  omega

/-- The fields of a date that has a four-digit year. -/
theorem civil_bounds {days : Nat} (h : days ≤ maxTime / 86400000) :
    (civil days).1 < 10000 ∧ (civil days).2.1 < 100 ∧ (civil days).2.2 < 100 := by
  have hmax : days ≤ 2932896 := h
  unfold civil
  dsimp only
  refine ⟨?_, ?_, ?_⟩
  · split_ifs <;> omega
  · split_ifs <;> omega
  · omega

theorem length_stamp {t : Time} (h : t ≤ maxTime) : (stamp t).toList.length = 8 := by
  obtain ⟨hyear, hmonth, hday⟩ := civil_bounds (Nat.div_le_div_right (c := 86400000) h)
  unfold stamp
  dsimp only
  rw [String.toList_append, String.toList_append, List.length_append, List.length_append,
    length_pad (by decide) hyear, length_pad (by decide) hmonth, length_pad (by decide) hday]

/-- A business number names its row. -/
theorem businessNo_injective {prefix_ : String} {s t : Time} {i j : Nat} (hs : s ≤ maxTime) (ht : t ≤ maxTime)
    (h : businessNo prefix_ s i = businessNo prefix_ t j) : i = j := by
  have hlist := congrArg String.toList h
  unfold businessNo at hlist
  rw [String.toList_append, String.toList_append, String.toList_append, String.toList_append] at hlist
  have hlen : ((prefix_.toList ++ (stamp s).toList)).length = (prefix_.toList ++ (stamp t).toList).length := by
    rw [List.length_append, List.length_append, length_stamp hs, length_stamp ht]
  exact pad_injective (String.toList_injective (List.append_inj_right hlist hlen))

/-- ISO-8601 with milliseconds, in UTC. -/
def isoMillis (t : Time) : String :=
  let (year, month, day) := civil (t / 86400000)
  let seconds := t % 86400000 / 1000
  pad 4 year ++ "-" ++ pad 2 month ++ "-" ++ pad 2 day ++ "T" ++ pad 2 (seconds / 3600) ++ ":" ++
    pad 2 (seconds % 3600 / 60) ++ ":" ++ pad 2 (seconds % 60) ++ "." ++ pad 3 (t % 1000) ++ "Z"

example : isoMillis 1790119867507 = "2026-09-22T23:31:07.507Z" := by decide

/-! ## Strings -/

/-- `str.isspace` of one character. -/
def isSpace (c : Char) : Bool :=
  let n := c.toNat
  decide ((9 ≤ n ∧ n ≤ 13) ∨ (28 ≤ n ∧ n ≤ 32) ∨ n = 0x85 ∨ n = 0xA0 ∨ n = 0x1680 ∨
    (0x2000 ≤ n ∧ n ≤ 0x200A) ∨ n = 0x2028 ∨ n = 0x2029 ∨ n = 0x202F ∨ n = 0x205F ∨ n = 0x3000)

/-- `str.strip()`. -/
def strip (s : String) : String :=
  String.ofList ((s.toList.dropWhile isSpace).reverse.dropWhile isSpace).reverse

/-- The first `n` characters. -/
def truncate (n : Nat) (s : String) : String := String.ofList (s.toList.take n)

/-- The code points of the decimal digit zero in every script. -/
def zeroDigits : List Nat :=
  [0x30, 0x660, 0x6F0, 0x7C0, 0x966, 0x9E6, 0xA66, 0xAE6, 0xB66, 0xBE6, 0xC66, 0xCE6, 0xD66, 0xDE6,
   0xE50, 0xED0, 0xF20, 0x1040, 0x1090, 0x17E0, 0x1810, 0x1946, 0x19D0, 0x1A80, 0x1A90, 0x1B50,
   0x1BB0, 0x1C40, 0x1C50, 0xA620, 0xA8D0, 0xA900, 0xA9D0, 0xA9F0, 0xAA50, 0xABF0, 0xFF10, 0x104A0,
   0x10D30, 0x11066, 0x110F0, 0x11136, 0x111D0, 0x112F0, 0x11450, 0x114D0, 0x11650, 0x116C0,
   0x11730, 0x118E0, 0x11950, 0x11C50, 0x11D50, 0x11DA0, 0x11F50, 0x16A60, 0x16AC0, 0x16B50,
   0x1D7CE, 0x1D7D8, 0x1D7E2, 0x1D7EC, 0x1D7F6, 0x1E140, 0x1E2F0, 0x1E4F0, 0x1E950, 0x1FBF0]

/-- The value of a decimal digit. -/
def digitValue? (c : Char) : Option Nat :=
  (zeroDigits.find? (fun z => decide (z ≤ c.toNat ∧ c.toNat < z + 10))).map (fun z => c.toNat - z)

/-- Digits with single underscores between them: the value read so far, and whether the last
character was a digit. -/
def readDigits : List Char → Nat → Bool → Option Nat
  | [], acc, last => if last then some acc else none
  | c :: cs, acc, last =>
    match digitValue? c with
    | some v => readDigits cs (10 * acc + v) true
    | none => if c = '_' ∧ last then readDigits cs acc false else none

/-- The characters `int` skips around a number: not the four separators that `str.strip` removes. -/
def isIntSpace (c : Char) : Bool := isSpace c && decide (¬ (28 ≤ c.toNat ∧ c.toNat ≤ 31))

/-- `int(s)` in base ten, `none` for a `ValueError`. -/
def pyInt? (s : String) : Option Int :=
  let cs := ((s.toList.dropWhile isIntSpace).reverse.dropWhile isIntSpace).reverse
  if 4300 < (cs.filter (fun c => (digitValue? c).isSome)).length then none
  else match cs with
    | '+' :: cs => (readDigits cs 0 false).map Int.ofNat
    | '-' :: cs => (readDigits cs 0 false).map (fun n => -Int.ofNat n)
    | cs => (readDigits cs 0 false).map Int.ofNat

/-! ## JSON texts -/

/-- The escape of one character in a JSON string, with `ensure_ascii` off. -/
def jsonEscape (c : Char) : List Char :=
  if c = '"' then ['\\', '"']
  else if c = '\\' then ['\\', '\\']
  else if c = '\n' then ['\\', 'n']
  else if c = '\r' then ['\\', 'r']
  else if c = '\t' then ['\\', 't']
  else if c.toNat = 8 then ['\\', 'b']
  else if c.toNat = 12 then ['\\', 'f']
  else if c.toNat < 32 then
    ['\\', 'u', '0', '0', if c.toNat < 16 then '0' else '1', Nat.digitChar (c.toNat % 16)]
  else [c]

/-- A JSON string literal. -/
def jsonString (s : String) : String := String.ofList ('"' :: s.toList.flatMap jsonEscape ++ ['"'])

/-! ## Decoded JSON -/

/-- A JSON number that was decoded to a binary float: `num / 2 ^ shift`, an infinity, or NaN. -/
inductive JsonFloat where
  | finite (num : Int) (shift : Nat)
  | infinity (negative : Bool)
  | nan
  deriving DecidableEq, Repr

/-- A decoded JSON value. -/
inductive Json where
  | null
  | bool (value : Bool)
  | int (value : Int)
  | float (value : JsonFloat)
  | str (value : String)
  | arr (items : List Json)
  | obj (fields : List (String × Json))

/-- A decoded JSON object. -/
abbrev JsonObject := List (String × Json)

/-- `payload.get(key)`. -/
def JsonObject.get (payload : JsonObject) (key : String) : Json :=
  ((payload.find? (fun field => field.1 = key)).map Prod.snd).getD .null

/-- The value of a key as a non-blank string, stripped. -/
def JsonObject.text? (payload : JsonObject) (key : String) : Option String :=
  match payload.get key with
  | .str value => if strip value = "" then none else some (strip value)
  | _ => none

/-! ## Exceptions -/

/-- The exception classes the modelled code raises. -/
inductive ErrorKind where
  | validation
  | valueError
  | typeError
  | overflow
  | invalidOperation
  | integrity
  | operational
  | idempotencyKeyRequired
  | idempotencyPayloadMismatch
  | idempotencyInProgress
  | permissionDenied
  | warehouseNotFound
  | inventoryNotFound
  | insufficientStock
  | inventoryVersionConflict
  | orderNotFound
  | orderStateInvalid
  | orderExpired
  | orderNotCancellable
  | orderNotConfirmable
  | orderAmountMismatch
  | cartEmpty
  | addressNotFound
  | skuNotFound
  | skuNotAvailable
  | productNotPublished
  | paymentNotFound
  | paymentStateInvalid
  | paymentChannelUnsupported
  | paymentAmountMismatch
  | paymentCallbackDuplicate
  | paymentCallbackSignature
  | afterSaleNotFound
  | afterSaleNotEligible
  | afterSaleStateInvalid
  | refundAmountInvalid
  | refundExceedsPaid
  | refundExceedsItem
  | refundAlreadyCompleted
  | couponNotFound
  | couponNotApplicable
  | couponExpired
  | couponAlreadyUsed
  | couponAlreadyLocked
  | couponThresholdNotMet
  | promotionConflict
  | productNotFound
  | fulfillmentNotFound
  | fulfillmentAlreadyShipped
  | fulfillmentQuantity
  | pricingInvariant
  | authentication
  | invalidCredentials
  | tokenInvalid
  | refreshTokenReuse
  | accountDisabled
  | accountLocked
  | dataScopeViolation
  | knowledgeBaseNotFound
  | documentUnsupportedType
  | promotionRuleInvalid
  | promotionPreviewRequired
  | pendingActionNotFound
  | pendingActionAlreadyDecided
  | pendingActionExpired
  | pendingActionPayloadChanged
  | pendingActionStateInvalid
  | agentBlockedByRisk
  | agentToolInputInvalid
  | mcpTokenInvalid
  | mcpTokenInsufficientScope
  | mcpToolNotExposed
  | mcpWriteNotPermitted
  | zeroDivision
  | internal
  deriving DecidableEq, Repr

/-- A value in an error's context. -/
inductive ErrorDetail where
  | int (value : Int)
  | ints (values : List Int)
  | str (value : String)
  | strs (values : List String)
  | byId (entries : List (Int × Int))
  deriving DecidableEq, Repr

/-- An exception: its class, its message and its context. -/
structure AppError where
  kind : ErrorKind
  message : String
  context : List (String × ErrorDetail) := []
  deriving DecidableEq, Repr

end NovaCommerce
