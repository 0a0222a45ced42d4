import NovaCommerce.Core

/-!
# Redaction

`redact` walks an object graph and builds its redacted copy. A payload is a reference into a `Heap`: it may
share objects and contain itself, and an iterator in it can be read once.

* `isSecretKey`, `isChainOfThoughtKey` : the keys whose values are withheld;
* `redact` : the copy, and the heap after it was made;
* `Heap.Agree` : two heaps that differ under withheld keys only (`redact_agree`);
* `Heap.Spent` : what is left of the input (`redact_spent`).
-/

namespace NovaCommerce.Redaction

/-! ## Vocabulary -/

/-- `RedactionPurpose`. -/
inductive RedactionPurpose where
  | llm
  | mcp
  | trace
  | audit
  | toolSnapshot
  | idempotency
  | callback
  deriving DecidableEq, Repr

/-- `_SECRET_KEY_MARKERS`. -/
def secretKeyMarkers : List String := [
  "password", "passwd", "pwd", "secret", "token", "apikey", "api_key", "accesskey", "secretkey", "privatekey",
  "clientsecret", "credential", "authorization", "auth", "cookie", "sessionid", "signature", "sign", "salt", "otp",
  "pin", "cvv", "cardnumber", "refreshtoken", "idtoken", "bearertoken", "jwt"]

/-- `_SECRET_KEY_ALLOWLIST`. -/
def secretKeyAllowlist : List String := [
  "authorization_status", "auth_sessions_count", "token_input", "token_output", "token_count", "tokens_used",
  "signature_valid", "sign_verified"]

/-- `_COT_KEY_MARKERS`. -/
def cotKeyMarkers : List String := [
  "chain_of_thought", "chainofthought", "reasoning_trace", "raw_reasoning", "scratchpad", "internal_thought",
  "hidden_reasoning", "thought_process"]

/-- `_NO_PII_PURPOSES`. -/
def noPiiPurposes : List RedactionPurpose := [.llm, .mcp, .trace]

def mask : String := "***REDACTED***"

def secretRemoved : String := "[SECRET_REMOVED]"

def cotRemoved : String := "[REASONING_WITHHELD]"

def truncated : String := "[TRUNCATED]"

def maxDepthDefault : Int := 8

def maxStringLen : Nat := 4096

def maxSequenceLen : Nat := 200

def maxKeysPerMapping : Nat := 200

/-- `_FREE_TEXT_PATTERNS`: each pattern with its replacement. -/
def freeTextPatterns : List (String × String) := [
  ("\\b[\\w.+-]+@[\\w-]+\\.[\\w.-]\x7b2,\x7d\\b", "***@***"),
  ("\\beyJ[A-Za-z0-9_-]\x7b5,\x7d\\.[A-Za-z0-9_-]\x7b5,\x7d\\.[A-Za-z0-9_-]\x7b5,\x7d\\b", "[TOKEN]"),
  ("(?i)\\b(bearer|basic)\\s+[A-Za-z0-9._~+/=-]\x7b8,\x7d", "\\1 [TOKEN]"),
  ("\\b(?:AKIA|ASIA)[0-9A-Z]\x7b16\x7d\\b", "[AWS_KEY]"),
  ("\\bsk-[A-Za-z0-9_-]\x7b16,\x7d\\b", "[API_KEY]"),
  ("(?i)\\b([a-z][a-z0-9+.-]*)://([^:/@\\s]+):([^@\\s]+)@", "\\1://***:***@"),
  ("(?<!\\d)\\d\x7b17\x7d[\\dXx](?!\\d)", "[ID_CARD]"),
  ("(?<!\\d)(?:\\+?86[- ]?)?1[3-9]\\d\x7b9\x7d(?!\\d)", "[PHONE]"),
  ("(?<!\\d)\\+\\d\x7b7,15\x7d(?!\\d)", "[PHONE]"),
  ("[\\u4e00-\\u9fa5]\x7b2,10\x7d(?:省|市|自治区)[\\u4e00-\\u9fa5]\x7b0,15\x7d(?:区|县|市)[\\u4e00-\\u9fa5]\x7b0,20\x7d" ++
    "(?:路|街|道|巷|号)[\\u4e00-\\u9fa50-9\\-]\x7b0,40\x7d", "[ADDRESS]")]

/-- What the walk takes from the runtime: `str.lower` and `re.sub`. -/
structure Runtime where
  lowerText : String → String
  sub (pattern replacement value : String) : String

section

variable (py : Runtime)

/-! ## Keys -/

/-- `_normalise_key`. -/
def normaliseKey (key : String) : List Char :=
  (py.lowerText key).toList.filter fun c => ('a' ≤ c ∧ c ≤ 'z') ∨ ('0' ≤ c ∧ c ≤ '9')

/-- `_NORMALISED_ALLOWLIST`. -/
def normalisedAllowlist : List (List Char) := secretKeyAllowlist.map (normaliseKey py)

/-- `marker.replace("_", "") in normalised`. -/
def marks (normalised : List Char) (marker : String) : Bool :=
  decide (marker.toList.filter (· ≠ '_') <:+: normalised)

def isSecretKey (key : String) : Bool :=
  let normalised := normaliseKey py key
  if normalised ∈ normalisedAllowlist py then false
  else secretKeyMarkers.any (marks normalised)

def isChainOfThoughtKey (key : String) : Bool := cotKeyMarkers.any (marks (normaliseKey py key))

/-! ## Texts -/

def maskEmail (value : String) : String :=
  match value.toList.span (· ≠ '@') with
  | (_, []) | (_, [_]) => mask
  | (local_, _ :: domain) => String.ofList (local_.take 1 ++ "***@".toList ++ domain)

def maskPhone (value : String) : String :=
  let digits := value.toList.filter fun c => (digitValue? c).isSome
  if digits.length < 7 then mask
  else String.ofList (digits.take 3 ++ "****".toList ++ digits.drop (digits.length - 4))

def maskAddress (value : String) : String :=
  if value.length ≤ 6 then mask else truncate 6 value ++ "****"

/-- `redact_text`: every purpose scrubs the same patterns. -/
def redactText (value : String) : String :=
  if value = "" then value
  else freeTextPatterns.foldl (fun result pattern => py.sub pattern.1 pattern.2 result) value

/-- The text of a string payload, cut to `MAX_STRING_LEN`. -/
def redactString (value : String) : String :=
  let scrubbed := redactText py value
  if maxStringLen < scrubbed.length then truncate maxStringLen scrubbed ++ truncated else scrubbed

/-- `_FIELD_MASKERS`: the markers of a field and what is done to its value. -/
def fieldMaskers : List (List String × (String → String)) := [
  (["email", "mail", "emailaddress"], maskEmail),
  (["phone", "mobile", "tel", "telephone", "phonenumber", "contactphone"], maskPhone),
  (["address", "addr", "shippingaddress", "receiveraddress", "fulladdress"], maskAddress),
  (["idcard", "idnumber", "cardno", "bankcard"], fun _ => mask)]

/-- The masker of a well-known field name. -/
def fieldMasker (key : String) : Option (String → String) :=
  let normalised := normaliseKey py key
  (fieldMaskers.find? fun entry =>
    entry.1.any fun marker => normalised = marker.toList ∨ marker.toList <:+: normalised).map Prod.snd

end

/-! ## Payloads -/

/-- A reference to an object. -/
abbrev Ref := Nat

/-- An object, as `redact` tells them apart; the keys of a mapping stand by their `str`. An `iterable` can be
read any number of times, an `iterator` holds what is left of it. -/
inductive Obj where
  | none
  | bool (value : Bool)
  | int (value : Int)
  | float (value : JsonFloat)
  | str (value : String)
  | bytes (length : Nat)
  | mapping (entries : List (String × Ref))
  | sequence (items : List Ref)
  | iterable (items : List Ref)
  | iterator (items : List Ref)
  | other (typeName : String)
  deriving DecidableEq, Repr

/-- The objects of a program. -/
def Heap := Ref → Obj

/-- `list(payload)` reads an iterator to its end. -/
def Heap.exhaust (h : Heap) (ref : Ref) : Heap := fun r => if r = ref then .iterator [] else h r

/-- A redacted copy. -/
inductive Redacted where
  | none
  | bool (value : Bool)
  | int (value : Int)
  | float (value : JsonFloat)
  | str (value : String)
  | mapping (entries : List (String × Redacted))
  | sequence (items : List Redacted)

/-! ## The walk -/

section

variable (py : Runtime) (purpose : RedactionPurpose)

/-- The items of a sequence from `index` on, of `total`. -/
def redactItems (redactOne : Ref → Heap → Redacted × Heap) (total : Nat) :
    Nat → List Ref → Heap → List Redacted × Heap
  | _, [], h => ([], h)
  | index, item :: rest, h =>
    if maxSequenceLen ≤ index then ([.str s!"{truncated} +{total - maxSequenceLen}"], h)
    else
      let (value, h) := redactOne item h
      let (values, h) := redactItems redactOne total (index + 1) rest h
      (value :: values, h)

/-- `_redact_field`. -/
def redactField (redactOne : Ref → Heap → Redacted × Heap) (key : String) (value : Ref) (h : Heap) :
    Redacted × Heap :=
  match h value with
  | .str text =>
    if text = "" then redactOne value h
    else match fieldMasker py key with
      | some masker => (.str (if purpose ∈ noPiiPurposes then mask else masker text), h)
      | none => redactOne value h
  | _ => redactOne value h

/-- The entries of a mapping from `index` on, of `total`, written to `out`. -/
def redactEntries (redactOne : Ref → Heap → Redacted × Heap) (total : Nat) :
    Nat → List (String × Ref) → List (String × Redacted) → Heap → List (String × Redacted) × Heap
  | _, [], out, h => (out, h)
  | index, (key, value) :: rest, out, h =>
    if maxKeysPerMapping ≤ index then
      (Dict.setEntries "__truncated__" (.str s!"{total - maxKeysPerMapping} more keys") out, h)
    else if isChainOfThoughtKey py key then
      redactEntries redactOne total (index + 1) rest (Dict.setEntries key (.str cotRemoved) out) h
    else if isSecretKey py key then
      redactEntries redactOne total (index + 1) rest (Dict.setEntries key (.str secretRemoved) out) h
    else
      let (field, h) := redactField py purpose redactOne key value h
      redactEntries redactOne total (index + 1) rest (Dict.setEntries key field out) h

/-- `redact`, with `levels` left before the depth limit. The list of an iterable is a level of its own, and
it is made before the limit is looked at. -/
def redactLevels : Nat → Ref → Heap → Redacted × Heap
  | 0, _, h => (.str truncated, h)
  | levels + 1, ref, h =>
    match h ref with
    | .none => (.none, h)
    | .bool value => (.bool value, h)
    | .int value => (.int value, h)
    | .float value => (.float value, h)
    | .str value => (.str (redactString py value), h)
    | .bytes length => (.str s!"<bytes:{length}>", h)
    | .mapping entries =>
      let (out, h) := redactEntries py purpose (redactLevels levels) entries.length 0 entries [] h
      (.mapping out, h)
    | .sequence items =>
      let (out, h) := redactItems (redactLevels levels) items.length 0 items h
      (.sequence out, h)
    | .iterable items =>
      match levels with
      | 0 => (.str truncated, h)
      | levels + 1 =>
        let (out, h) := redactItems (redactLevels levels) items.length 0 items h
        (.sequence out, h)
    | .iterator items =>
      match levels with
      | 0 => (.str truncated, h.exhaust ref)
      | levels + 1 =>
        let (out, h) := redactItems (redactLevels levels) items.length 0 items (h.exhaust ref)
        (.sequence out, h)
    | .other typeName => (.str s!"<{typeName}>", h)

/-- `redact` at depth `depth`. -/
def redact (payload : Ref) (maxDepth : Int) (depth : Nat) (h : Heap) : Redacted × Heap :=
  redactLevels py purpose (maxDepth + 1 - depth).toNat payload h

end

/-! ## Payloads that differ under withheld keys -/

/-- A key classified as a secret or as chain-of-thought. -/
def Withheld (py : Runtime) (key : String) : Prop := isChainOfThoughtKey py key = true ∨ isSecretKey py key = true

/-- Two objects of the same shape, whose parts are related by `R`; what a mapping holds under a withheld key
may be anything. -/
inductive Obj.Agree (py : Runtime) (R : Ref → Ref → Prop) : Obj → Obj → Prop where
  | none : Agree py R .none .none
  | bool (value : Bool) : Agree py R (.bool value) (.bool value)
  | int (value : Int) : Agree py R (.int value) (.int value)
  | float (value : JsonFloat) : Agree py R (.float value) (.float value)
  | str (value : String) : Agree py R (.str value) (.str value)
  | bytes (length : Nat) : Agree py R (.bytes length) (.bytes length)
  | mapping {entries entries' : List (String × Ref)}
      (parts : List.Forall₂ (fun e e' => e.1 = e'.1 ∧ (Withheld py e.1 ∨ R e.2 e'.2)) entries entries') :
      Agree py R (.mapping entries) (.mapping entries')
  | sequence {items items' : List Ref} (parts : List.Forall₂ R items items') :
      Agree py R (.sequence items) (.sequence items')
  | iterable {items items' : List Ref} (parts : List.Forall₂ R items items') :
      Agree py R (.iterable items) (.iterable items')
  | iterator {items items' : List Ref} (parts : List.Forall₂ R items items') :
      Agree py R (.iterator items) (.iterator items')
  | other (typeName : String) : Agree py R (.other typeName) (.other typeName)

/-- An iterator, which a walk reads to its end. -/
def Obj.OneShot (o : Obj) : Prop := ∃ items, o = .iterator items

/-- The payloads `R` relates differ under withheld keys only. Related iterators are shared alike, since a walk
that meets one again finds it empty. -/
structure Heap.Agree (py : Runtime) (R : Ref → Ref → Prop) (h h' : Heap) : Prop where
  objects : ∀ {r r'}, R r r' → (h r).Agree py R (h' r')
  shared : ∀ {r r' q q'}, R r r' → R q q' → (h r).OneShot → (q = r ↔ q' = r')

/-- Two walks answer the same on payloads that agree, and leave payloads that agree. -/
def SameAnswer {α : Type} (py : Runtime) (R : Ref → Ref → Prop) (walk walk' : Heap → α × Heap) : Prop :=
  ∀ {h h' : Heap}, h.Agree py R h' → (walk h).1 = (walk' h').1 ∧ (walk h).2.Agree py R (walk' h').2

section

variable {py : Runtime} {R : Ref → Ref → Prop}

/-- An exhausted iterator is exhausted on both sides. -/
theorem Heap.Agree.exhaust {h h' : Heap} (agree : h.Agree py R h') {r r' : Ref} (hr : R r r')
    (honce : (h r).OneShot) : (h.exhaust r).Agree py R (h'.exhaust r') where
  objects {q q'} hq := by
    have hiff := agree.shared hr hq honce
    unfold Heap.exhaust
    by_cases hqr : q = r
    · rw [if_pos hqr, if_pos (hiff.mp hqr)]
      exact .iterator .nil
    · rw [if_neg hqr, if_neg fun h => hqr (hiff.mpr h)]
      exact agree.objects hq
  shared {q q' p p'} hq hp hqonce := by
    unfold Heap.exhaust at hqonce
    split_ifs at hqonce with hqr
    · subst hqr
      have hrr : r' = q' := ((agree.shared hr hq honce).mp rfl).symm
      subst hrr
      exact agree.shared hr hp honce
    · exact agree.shared hq hp hqonce

theorem redactItems_same {redactOne : Ref → Heap → Redacted × Heap}
    (hone : ∀ {r r'}, R r r' → SameAnswer py R (redactOne r) (redactOne r')) (total : Nat) {items items' : List Ref}
    (parts : List.Forall₂ R items items') (index : Nat) :
    SameAnswer py R (redactItems redactOne total index items) (redactItems redactOne total index items') := by
  induction parts generalizing index with
  | nil => exact fun agree => ⟨rfl, agree⟩
  | cons hitem _ ih =>
    intro h h' agree
    unfold redactItems
    split_ifs
    · exact ⟨rfl, agree⟩
    · obtain ⟨hvalue, agree₁⟩ := hone hitem agree
      obtain ⟨hvalues, agree₂⟩ := ih (index + 1) agree₁
      exact ⟨congrArg₂ List.cons hvalue hvalues, agree₂⟩

theorem redactField_same {purpose : RedactionPurpose} {redactOne : Ref → Heap → Redacted × Heap}
    (hone : ∀ {r r'}, R r r' → SameAnswer py R (redactOne r) (redactOne r')) (key : String) {value value' : Ref}
    (hvalue : R value value') :
    SameAnswer py R (redactField py purpose redactOne key value) (redactField py purpose redactOne key value') := by
  intro h h' agree
  unfold redactField
  have hobjects := agree.objects hvalue
  generalize h value = object at hobjects ⊢
  generalize h' value' = object' at hobjects ⊢
  cases hobjects with
  | str text =>
    dsimp only
    by_cases hempty : text = ""
    · rw [if_pos hempty, if_pos hempty]
      exact hone hvalue agree
    · rw [if_neg hempty, if_neg hempty]
      cases fieldMasker py key with
      | none => exact hone hvalue agree
      | some masker => exact ⟨rfl, agree⟩
  | _ => exact hone hvalue agree

theorem redactEntries_same {purpose : RedactionPurpose} {redactOne : Ref → Heap → Redacted × Heap}
    (hone : ∀ {r r'}, R r r' → SameAnswer py R (redactOne r) (redactOne r')) (total : Nat)
    {entries entries' : List (String × Ref)}
    (parts : List.Forall₂ (fun e e' => e.1 = e'.1 ∧ (Withheld py e.1 ∨ R e.2 e'.2)) entries entries') (index : Nat)
    (out : List (String × Redacted)) :
    SameAnswer py R (redactEntries py purpose redactOne total index entries out)
      (redactEntries py purpose redactOne total index entries' out) := by
  induction parts generalizing index out with
  | nil => exact fun agree => ⟨rfl, agree⟩
  | @cons e e' _ _ hentry _ ih =>
    intro h h' agree
    obtain ⟨key, value⟩ := e
    obtain ⟨key', value'⟩ := e'
    obtain ⟨hkey, hvalue⟩ := hentry
    dsimp only at hkey hvalue
    subst hkey
    unfold redactEntries
    split_ifs with htotal hcot hsecret
    · exact ⟨rfl, agree⟩
    · exact ih (index + 1) _ agree
    · exact ih (index + 1) _ agree
    · -- the key is not withheld, so its values are related
      have hrelated : R value value' := hvalue.resolve_left fun h => h.elim hcot hsecret
      obtain ⟨hfield, agree₁⟩ := redactField_same hone key hrelated agree
      dsimp only
      rw [hfield]
      exact ih (index + 1) _ agree₁

/-- The walk of every level looks at no value under a withheld key. -/
theorem redactLevels_same (purpose : RedactionPurpose) (levels : Nat) : ∀ {r r'}, R r r' →
    SameAnswer py R (redactLevels py purpose levels r) (redactLevels py purpose levels r') := by
  induction levels using Nat.strong_induction_on with
  | _ levels ih =>
    intro r r' hr h h' agree
    cases levels with
    | zero => exact ⟨rfl, agree⟩
    | succ levels =>
      have hone : ∀ {q q'}, R q q' →
          SameAnswer py R (redactLevels py purpose levels q) (redactLevels py purpose levels q') :=
        ih levels (Nat.lt_succ_self levels)
      have hobjects := agree.objects hr
      have hexhaust := agree.exhaust hr
      unfold redactLevels
      generalize h r = object at hobjects hexhaust ⊢
      generalize h' r' = object' at hobjects ⊢
      cases hobjects with
      | @mapping entries _ parts =>
        obtain ⟨hout, agree'⟩ := redactEntries_same hone entries.length parts 0 [] agree
        dsimp only
        rw [← parts.length_eq]
        exact ⟨congrArg Redacted.mapping hout, agree'⟩
      | @sequence items _ parts =>
        obtain ⟨hout, agree'⟩ := redactItems_same hone items.length parts 0 agree
        dsimp only
        rw [← parts.length_eq]
        exact ⟨congrArg Redacted.sequence hout, agree'⟩
      | @iterable items _ parts =>
        cases levels with
        | zero => exact ⟨rfl, agree⟩
        | succ levels =>
          obtain ⟨hout, agree'⟩ := redactItems_same (ih levels (by omega)) items.length parts 0 agree
          dsimp only
          rw [← parts.length_eq]
          exact ⟨congrArg Redacted.sequence hout, agree'⟩
      | @iterator items _ parts =>
        -- both iterators are exhausted before their items are walked
        have agree := hexhaust ⟨items, rfl⟩
        cases levels with
        | zero => exact ⟨rfl, agree⟩
        | succ levels =>
          obtain ⟨hout, agree'⟩ := redactItems_same (ih levels (by omega)) items.length parts 0 agree
          dsimp only
          rw [← parts.length_eq]
          exact ⟨congrArg Redacted.sequence hout, agree'⟩
      | _ => exact ⟨rfl, agree⟩

end

/-! ## What is left of the input -/

/-- Every object is as it was, but for iterators that were read to their end. -/
def Heap.Spent (h h' : Heap) : Prop := ∀ r, h' r = h r ∨ ((h r).OneShot ∧ h' r = .iterator [])

theorem Heap.Spent.refl (h : Heap) : h.Spent h := fun _ => .inl rfl

theorem Heap.Spent.trans {h h' h'' : Heap} (first : h.Spent h') (second : h'.Spent h'') : h.Spent h'' := by
  intro r
  rcases second r with hsame | ⟨honce, hspent⟩
  · rw [hsame]
    exact first r
  · rcases first r with hsame' | ⟨honce', -⟩
    · rw [hsame'] at honce
      exact .inr ⟨honce, hspent⟩
    · exact .inr ⟨honce', hspent⟩

theorem Heap.spent_exhaust {h : Heap} {ref : Ref} (honce : (h ref).OneShot) : h.Spent (h.exhaust ref) := by
  intro r
  unfold Heap.exhaust
  split_ifs with hr
  · subst hr
    exact .inr ⟨honce, rfl⟩
  · exact .inl rfl

section

variable {py : Runtime} {purpose : RedactionPurpose} {redactOne : Ref → Heap → Redacted × Heap}

theorem redactItems_spent (hone : ∀ r (h : Heap), h.Spent (redactOne r h).2) (total : Nat) (items : List Ref) (index : Nat)
    (h : Heap) : h.Spent (redactItems redactOne total index items h).2 := by
  induction items generalizing index h with
  | nil => exact .refl h
  | cons item rest ih =>
    unfold redactItems
    split_ifs
    · exact .refl h
    · exact (hone item h).trans (ih (index + 1) _)

theorem redactField_spent (hone : ∀ r (h : Heap), h.Spent (redactOne r h).2) (key : String) (value : Ref) (h : Heap) :
    h.Spent (redactField py purpose redactOne key value h).2 := by
  unfold redactField
  cases h value with
  | str text =>
    dsimp only
    by_cases hempty : text = ""
    · rw [if_pos hempty]
      exact hone value h
    · rw [if_neg hempty]
      cases fieldMasker py key with
      | none => exact hone value h
      | some masker => exact .refl h
  | _ => exact hone value h

theorem redactEntries_spent (hone : ∀ r (h : Heap), h.Spent (redactOne r h).2) (total : Nat) (entries : List (String × Ref))
    (index : Nat) (out : List (String × Redacted)) (h : Heap) :
    h.Spent (redactEntries py purpose redactOne total index entries out h).2 := by
  induction entries generalizing index out h with
  | nil => exact .refl h
  | cons entry rest ih =>
    unfold redactEntries
    split_ifs
    · exact .refl h
    · exact ih (index + 1) _ h
    · exact ih (index + 1) _ h
    · exact (redactField_spent hone entry.1 entry.2 h).trans (ih (index + 1) _ _)

end

theorem redactLevels_spent (py : Runtime) (purpose : RedactionPurpose) (levels : Nat) :
    ∀ r h, Heap.Spent h (redactLevels py purpose levels r h).2 := by
  induction levels using Nat.strong_induction_on with
  | _ levels ih =>
    intro r h
    cases levels with
    | zero => exact .refl h
    | succ levels =>
      have hone := ih levels (Nat.lt_succ_self levels)
      unfold redactLevels
      cases hobject : h r with
      | mapping entries => exact redactEntries_spent hone entries.length entries 0 [] h
      | sequence items => exact redactItems_spent hone items.length items 0 h
      | iterable items =>
        cases levels with
        | zero => exact .refl h
        | succ levels => exact redactItems_spent (ih levels (by omega)) items.length items 0 h
      | iterator items =>
        have hspent : h.Spent (h.exhaust r) := Heap.spent_exhaust ⟨items, hobject⟩
        cases levels with
        | zero => exact hspent
        | succ levels =>
          exact hspent.trans (redactItems_spent (ih levels (by omega)) items.length items 0 (h.exhaust r))
      | _ => exact .refl h

/-! ## The whole walk -/

/-- Payloads that differ under withheld keys only have the same copy, and what is changed of a payload are its
iterators, which are read to their end. -/
theorem redact_noninterfering (py : Runtime) (purpose : RedactionPurpose) (R : Ref → Ref → Prop) (h h' : Heap)
    (payload payload' : Ref) (maxDepth : Int) (depth : Nat) (agree : h.Agree py R h') (hpayload : R payload payload') :
    (redact py purpose payload maxDepth depth h).1 = (redact py purpose payload' maxDepth depth h').1 ∧
      h.Spent (redact py purpose payload maxDepth depth h).2 :=
  ⟨(redactLevels_same purpose _ hpayload agree).1, redactLevels_spent py purpose _ payload h⟩

/-- A runtime whose `str.lower` is right on ASCII, and whose texts hold nothing to scrub. -/
def sampleRuntime : Runtime where
  lowerText := String.toLower
  sub _ _ value := value

/-- `{"user": {"name": "ann", "X-Api-Key": secret}}`. -/
def sampleAccount (secret : Obj) : Heap
  | 0 => .mapping [("user", 1)]
  | 1 => .mapping [("name", 2), ("X-Api-Key", 3)]
  | 2 => .str "ann"
  | 3 => secret
  | _ => .none

theorem redact_noninterfering_account :
    (redact sampleRuntime .audit 0 maxDepthDefault 0 (sampleAccount (.str "k1"))).1 =
        (redact sampleRuntime .audit 0 maxDepthDefault 0 (sampleAccount (.sequence [0]))).1 ∧
      (sampleAccount (.str "k1")).Spent (redact sampleRuntime .audit 0 maxDepthDefault 0 (sampleAccount (.str "k1"))).2 := by
  refine redact_noninterfering sampleRuntime .audit (fun r r' => r = r' ∧ r < 3) _ _ 0 0 maxDepthDefault 0
    ⟨?_, ?_⟩ ⟨rfl, by decide⟩
  · rintro r _ ⟨rfl, hr⟩
    interval_cases r
    · exact .mapping (.cons ⟨rfl, .inr ⟨rfl, by decide⟩⟩ .nil)
    · exact .mapping (.cons ⟨rfl, .inr ⟨rfl, by decide⟩⟩ (.cons ⟨rfl, .inl (.inr (by decide +kernel))⟩ .nil))
    · exact .str "ann"
  · rintro r _ q _ ⟨rfl, -⟩ ⟨rfl, -⟩ -
    rfl

/-- An iterator in a payload is read to its end. -/
theorem redact_changes_iterators : ¬ ∀ (py : Runtime) (purpose : RedactionPurpose) (R : Ref → Ref → Prop) (h h' : Heap)
    (payload payload' : Ref) (maxDepth : Int) (depth : Nat), h.Agree py R h' → R payload payload' →
    (redact py purpose payload maxDepth depth h).1 = (redact py purpose payload' maxDepth depth h').1 ∧
      (redact py purpose payload maxDepth depth h).2 = h := by
  intro hclaim
  let h : Heap := fun r => if r = 0 then .iterator [1] else .int 5
  have agree : h.Agree sampleRuntime Eq h := by
    refine ⟨?_, ?_⟩
    · rintro r _ rfl
      by_cases hr : r = 0
      · rw [show h r = .iterator [1] from if_pos hr]
        exact .iterator (.cons rfl .nil)
      · rw [show h r = .int 5 from if_neg hr]
        exact .int 5
    · rintro r _ q _ rfl rfl -
      rfl
  have hsame := (hclaim sampleRuntime .audit Eq h h 0 0 maxDepthDefault 0 agree rfl).2
  have hzero : (redact sampleRuntime .audit 0 maxDepthDefault 0 h).2 0 = .iterator [1] := congrFun hsame 0
  have hspent : (redact sampleRuntime .audit 0 maxDepthDefault 0 h).2 0 = .iterator [] := by decide +kernel
  rw [hspent] at hzero
  cases hzero

end NovaCommerce.Redaction
