import NovaCommerce.Fulfillment.Shipping
import NovaCommerce.Lib.Codes
import NovaCommerce.Order.Workflow

/-!
# What a request hash identifies

* `mergeOrderLines_units` : merging keeps the units of every SKU; `mergedLines_perm` : and nothing else matters but their order;
* `canonicalText` : what is hashed, and `canonicalText_inj` : it can be taken apart again;
* `canonicalRequestHash_eq_iff` : two requests have one hash exactly when they are the same business request.
-/

namespace NovaCommerce

open Codes

/-! ## Merged lines -/

def OrderLineInput.pair (line : OrderLineInput) : Nat × Int := (line.skuId, line.quantity)

theorem OrderLineInput.pair_injective : Function.Injective OrderLineInput.pair := by
  rintro ⟨s, q⟩ ⟨s', q'⟩ h
  cases h
  rfl

/-- The units of a SKU that a request asks for, on all its lines together. -/
def unitsAsked (lines : List OrderLineInput) (skuId : Nat) : Int := unitsOf (lines.map OrderLineInput.pair) skuId

theorem unitsOf_entries (d : Dict Nat Int) (s : Nat) : unitsOf d.entries s = (d.get? s).getD 0 := by
  cases h : d.get? s with
  | none => exact unitsOf_absent (Dict.get?_eq_none.mp h)
  | some q => exact unitsOf_of_mem d.nodup (Dict.get?_eq_some.mp h)

theorem mergeOrderLine_units {d d' : Dict Nat Int} {line : OrderLineInput} (h : mergeOrderLine d line = .ok d') (s : Nat) :
    (d'.get? s).getD 0 = (d.get? s).getD 0 + if line.skuId = s then line.quantity else 0 := by
  unfold mergeOrderLine at h
  split_ifs at h
  cases h
  by_cases hs : line.skuId = s
  · subst hs
    simp
  · rw [Dict.get?_set_ne (fun heq => hs heq.symm), if_neg hs, add_zero]

/-- Merging keeps the units of every SKU. -/
theorem mergeOrderLines_units {lines merged : List OrderLineInput} (h : mergeOrderLines lines = .ok merged) (s : Nat) :
    unitsAsked merged s = unitsAsked lines s := by
  have hfold : ∀ (lines : List OrderLineInput) (d d' : Dict Nat Int), Raise.foldSteps mergeOrderLine lines d = .ok d' →
      (d'.get? s).getD 0 = (d.get? s).getD 0 + unitsAsked lines s := by
    intro lines
    induction lines with
    | nil =>
      intro d d' h
      cases h
      simp [unitsAsked, unitsOf]
    | cons line lines ih =>
      intro d d' h
      obtain ⟨d₁, hline, h⟩ := Raise.bind_eq_ok.mp h
      have hcons : unitsAsked (line :: lines) s = (if line.skuId = s then line.quantity else 0) + unitsAsked lines s :=
        unitsOf_cons line.pair (lines.map OrderLineInput.pair) s
      rw [ih d₁ d' h, mergeOrderLine_units hline s, hcons, add_assoc]
  unfold mergeOrderLines at h
  obtain ⟨d, hd, h⟩ := Raise.bind_eq_ok.mp h
  split_ifs at h
  cases h
  have hpairs : (d.entries.map fun e => ({ skuId := e.1, quantity := e.2 } : OrderLineInput)).map OrderLineInput.pair = d.entries := by
    rw [List.map_map]
    exact List.map_id _
  unfold unitsAsked
  rw [hpairs, unitsOf_entries, hfold lines _ d hd]
  simp [Dict.empty, Dict.get?, unitsAsked]

theorem MergedLines.nodup_pairs {lines : List OrderLineInput} (h : MergedLines lines) :
    ((lines.map OrderLineInput.pair).map Prod.fst).Nodup := by
  rw [List.map_map]
  exact h.nodup

/-- A merged line is a SKU with its units. -/
theorem MergedLines.mem_iff {lines : List OrderLineInput} (h : MergedLines lines) {s : Nat} {q : Int} :
    (s, q) ∈ lines.map OrderLineInput.pair ↔ 0 < q ∧ unitsAsked lines s = q := by
  constructor
  · intro hmem
    obtain ⟨line, hline, heq⟩ := List.mem_map.mp hmem
    cases heq
    exact ⟨h.positive line hline, unitsOf_of_mem h.nodup_pairs hmem⟩
  · rintro ⟨hpos, rfl⟩
    by_contra hmem
    have habsent : s ∉ (lines.map OrderLineInput.pair).map Prod.fst := by
      intro hs
      obtain ⟨e, he, rfl⟩ := List.mem_map.mp hs
      have hunits : unitsAsked lines e.1 = e.2 := unitsOf_of_mem h.nodup_pairs he
      rw [hunits] at hmem
      exact hmem he
    have hzero : unitsAsked lines s = 0 := unitsOf_absent habsent
    omega

/-- Merged lines with the same units of every SKU differ in their order only. -/
theorem mergedLines_perm {lines lines' : List OrderLineInput} (h : MergedLines lines) (h' : MergedLines lines') :
    lines.Perm lines' ↔ ∀ s, unitsAsked lines s = unitsAsked lines' s := by
  constructor
  · intro hperm s
    unfold unitsAsked unitsOf
    exact (((hperm.map OrderLineInput.pair).filter _).map _).sum_eq
  · intro hunits
    have hpairs : (lines.map OrderLineInput.pair).Perm (lines'.map OrderLineInput.pair) := by
      refine (List.perm_ext_iff_of_nodup h.nodup_pairs.of_map h'.nodup_pairs.of_map).mpr ?_
      rintro ⟨s, q⟩
      rw [h.mem_iff, h'.mem_iff, hunits s]
    exact (List.map_perm_map_iff OrderLineInput.pair_injective).mp hpairs

/-! ## The canonical text -/

/-- The lines of the canonical request, by SKU and quantity. -/
def sortedLines (lines : List OrderLineInput) : List OrderLineInput :=
  lines.insertionSort fun a b => toLex (a.skuId, a.quantity) ≤ toLex (b.skuId, b.quantity)

/-- Sorting forgets the order of the lines, and nothing else. -/
theorem sortedLines_eq_iff {lines lines' : List OrderLineInput} : sortedLines lines = sortedLines lines' ↔ lines.Perm lines' := by
  let before (a b : OrderLineInput) : Prop := toLex (a.skuId, a.quantity) ≤ toLex (b.skuId, b.quantity)
  have hsort : ∀ lines : List OrderLineInput, (sortedLines lines).Perm lines := fun lines => List.perm_insertionSort _ lines
  have : Std.Total before := ⟨fun a b => le_total _ _⟩
  have : IsTrans OrderLineInput before := ⟨fun a b c => le_trans⟩
  have : Std.Antisymm before := ⟨fun a b hab hba => OrderLineInput.pair_injective (toLex.injective (le_antisymm hab hba))⟩
  constructor
  · intro h
    exact (hsort lines).symm.trans (h ▸ hsort lines')
  · intro h
    exact ((hsort lines).trans (h.trans (hsort lines').symm)).eq_of_pairwise' (List.pairwise_insertionSort before lines)
      (List.pairwise_insertionSort before lines')

/-- The text whose digest is the hash of a request. -/
def canonicalText (userId : Nat) (items : List OrderLineInput) (addressId : Nat) (couponId : Option Nat)
    (remark : Option String) : String :=
  "\x7b\"address_id\":" ++ toString addressId ++ ",\"coupon_id\":" ++ (match couponId with | none => "null" | some id => toString id) ++
    ",\"items\":" ++ canonicalItems items ++ ",\"remark\":" ++ jsonString (remark.getD "") ++ ",\"user_id\":" ++ toString userId ++ "\x7d"

theorem canonicalRequestHash_eq (env : Deployment) (userId : Nat) (items : List OrderLineInput) (addressId : Nat)
    (couponId : Option Nat) (remark : Option String) :
    canonicalRequestHash env userId items addressId couponId remark =
      env.sha256Hex (canonicalText userId items addressId couponId remark) :=
  rfl

/-! ## The parts of the text -/

/-- One line of the text. -/
def lineCode (p : Nat × Nat) : List Char := ['['] ++ (Digits.decimal p.1 ++ (',' :: Digits.decimal p.2)) ++ [']']

theorem cuts_lineCode : Cuts Always lineCode := by
  have hsecond : Cuts EndsDigits fun n : Nat => ',' :: Digits.decimal n := by
    intro n m s t hs ht heq
    rw [List.cons_append, List.cons_append, List.cons.injEq] at heq
    exact cuts_decimal hs ht heq.2
  have hpair := cuts_decimal.seq hsecond fun m s _ => endsDigits_cons (by decide) _
  exact hpair.between ['['] [']'] fun s => endsDigits_cons (by decide) s

/-- The coupon of the text. -/
def couponCode : Option Nat → List Char
  | none => "null".toList
  | some id => Digits.decimal id

theorem cuts_couponCode : Cuts EndsDigits couponCode := by
  have hnull : ∀ (id : Nat) (s t : List Char), Digits.decimal id ++ s ≠ "null".toList ++ t := by
    intro id s t heq
    obtain ⟨c, rest, hcons, hdigit⟩ := head_decimal id s
    rw [hcons] at heq
    have hc : c = 'n' := (List.cons.inj heq).1
    rw [hc] at hdigit
    exact absurd hdigit (by decide)
  rintro (_ | id) (_ | id') s t hs ht heq
  · exact ⟨rfl, List.append_cancel_left heq⟩
  · exact absurd heq.symm (hnull id' t s)
  · exact absurd heq (hnull id s t)
  · obtain ⟨rfl, rfl⟩ := cuts_decimal hs ht heq
    exact ⟨rfl, rfl⟩

/-- Read the character behind a backslash. -/
def readSpecial : List Char → Option (Char × List Char)
  | '"' :: s => some ('"', s)
  | '\\' :: s => some ('\\', s)
  | 'n' :: s => some ('\n', s)
  | 'r' :: s => some ('\r', s)
  | 't' :: s => some ('\t', s)
  | 'b' :: s => some (Char.ofNat 8, s)
  | 'f' :: s => some (Char.ofNat 12, s)
  | 'u' :: '0' :: '0' :: high :: low :: s =>
    some (Char.ofNat ((if high = '0' then 0 else 16) +
      if low.isDigit then low.toNat - '0'.toNat else low.toNat - 'a'.toNat + 10), s)
  | _ => none

/-- Read one character of a JSON string. -/
def readEscape : List Char → Option (Char × List Char)
  | [] => none
  | c :: s => if c = '\\' then readSpecial s else some (c, s)

theorem readEscape_jsonEscape (c : Char) (s : List Char) : readEscape (jsonEscape c ++ s) = some (c, s) := by
  have hof : ∀ n : Nat, c.toNat = n → c = Char.ofNat n := fun n h => by rw [← h, Char.ofNat_toNat]
  have hn := hof c.toNat rfl
  unfold jsonEscape
  split_ifs with h1 h2 h3 h4 h5 h6 h7 h8 h9
  · rw [h1]; rfl
  · rw [h2]; rfl
  · rw [h3]; rfl
  · rw [h4]; rfl
  · rw [h5]; rfl
  · rw [hof 8 h6]; rfl
  · rw [hof 12 h7]; rfl
  · -- the control characters of the first row
    generalize c.toNat = n at h9 hn
    subst hn
    interval_cases n <;> rfl
  · generalize c.toNat = n at h8 h9 hn
    subst hn
    rw [not_lt] at h9
    interval_cases n <;> rfl
  · exact if_neg h2

theorem head_jsonEscape (c : Char) (s : List Char) : (jsonEscape c ++ s).head? ≠ some '"' := by
  unfold jsonEscape
  split_ifs with h1 h2 h3 h4 h5 h6 h7 h8
  all_goals simp [h1]

/-- The rest of a JSON string after its opening mark. -/
def textCode (text : String) : List Char := text.toList.flatMap jsonEscape ++ ['"']

theorem cuts_textCode : Cuts Always textCode := by
  have hescape : Cuts Always jsonEscape := .of_read readEscape fun c s _ => readEscape_jsonEscape c s
  intro a b s t hs ht heq
  obtain ⟨hlist, rfl⟩ := hescape.closed head_jsonEscape hs ht heq
  exact ⟨String.toList_injective hlist, rfl⟩

/-- A merged line in numbers. -/
def OrderLineInput.numbers (line : OrderLineInput) : Nat × Nat := (line.skuId, line.quantity.toNat)

/-- The whole text. -/
def requestCode (addressId : Nat) (couponId : Option Nat) (lines : List (Nat × Nat)) (remark : String) (userId : Nat) : List Char :=
  "\x7b\"address_id\":".toList ++ (Digits.decimal addressId ++ (",\"coupon_id\":".toList ++ (couponCode couponId ++
    (",\"items\":[".toList ++ ((Codes.joined ',' lineCode lines ++ [']']) ++ (",\"remark\":\"".toList ++ (textCode remark ++
      (",\"user_id\":".toList ++ (Digits.decimal userId ++ ['\x7d'])))))))))

theorem canonicalItems_toList {items : List OrderLineInput} (h : ∀ line ∈ items, 0 < line.quantity) :
    (canonicalItems items).toList = '[' :: Codes.joined ',' lineCode ((sortedLines items).map OrderLineInput.numbers) ++ [']'] := by
  have hline : ∀ line ∈ sortedLines items, s!"[{line.skuId},{line.quantity}]" = String.ofList (lineCode line.numbers) := by
    intro line hline
    have hpos := h line ((List.mem_insertionSort _).mp hline)
    obtain ⟨s, q⟩ := line
    lift q to ℕ using hpos.le
    show "[" ++ toString s ++ "," ++ toString q ++ "]" = _
    apply String.toList_injective
    simp [lineCode, OrderLineInput.numbers]
  have hmap : (sortedLines items).map (fun line => s!"[{line.skuId},{line.quantity}]") =
      ((sortedLines items).map OrderLineInput.numbers).map fun p => String.ofList (lineCode p) := by
    rw [List.map_map]
    exact List.map_congr_left hline
  show ("[" ++ ",".intercalate ((sortedLines items).map fun line => s!"[{line.skuId},{line.quantity}]") ++ "]").toList = _
  rw [hmap, String.toList_append, String.toList_append]
  exact congrArg (fun cs => '[' :: cs ++ [']']) (toList_intercalate ',' lineCode _)

theorem canonicalText_toList (userId : Nat) {items : List OrderLineInput} (h : ∀ line ∈ items, 0 < line.quantity)
    (addressId : Nat) (couponId : Option Nat) (remark : Option String) :
    (canonicalText userId items addressId couponId remark).toList =
      requestCode addressId couponId ((sortedLines items).map OrderLineInput.numbers) (remark.getD "") userId := by
  have hcoupon : (match couponId with | none => "null" | some id => toString id : String).toList = couponCode couponId := by
    cases couponId with
    | none => rfl
    | some id => exact Digits.toList_toString id
  have hremark : (jsonString (remark.getD "")).toList = ['"'] ++ textCode (remark.getD "") := by
    rw [jsonString, String.toList_ofList]
    rfl
  have hitems : ",\"items\":[".toList = ",\"items\":".toList ++ ['['] := by decide
  have hquote : ",\"remark\":\"".toList = ",\"remark\":".toList ++ ['"'] := by decide
  unfold canonicalText requestCode
  simp only [String.toList_append, hcoupon, canonicalItems_toList h, hremark, hitems, hquote, Digits.toList_toString,
    List.append_assoc, List.cons_append, List.nil_append]
  rfl

/-- The text can be taken apart: it is one request. -/
theorem requestCode_inj {addressId addressId' userId userId' : Nat} {couponId couponId' : Option Nat}
    {lines lines' : List (Nat × Nat)} {remark remark' : String}
    (h : requestCode addressId couponId lines remark userId = requestCode addressId' couponId' lines' remark' userId') :
    addressId = addressId' ∧ couponId = couponId' ∧ lines = lines' ∧ remark = remark' ∧ userId = userId' := by
  have hlines : Cuts Always fun lines : List (Nat × Nat) => Codes.joined ',' lineCode lines ++ [']'] :=
    cuts_lineCode.joined (by decide) fun a s heq => by cases heq
  unfold requestCode at h
  obtain ⟨haddress, h₁⟩ := cuts_decimal (endsDigits_append (by decide) _) (endsDigits_append (by decide) _)
    (List.append_cancel_left h)
  obtain ⟨hcoupon, h₂⟩ := cuts_couponCode (endsDigits_append (by decide) _) (endsDigits_append (by decide) _)
    (List.append_cancel_left h₁)
  obtain ⟨hitems, h₃⟩ := hlines trivial trivial (List.append_cancel_left h₂)
  obtain ⟨hremark, h₄⟩ := cuts_textCode trivial trivial (List.append_cancel_left h₃)
  obtain ⟨huser, -⟩ := cuts_decimal (endsDigits_cons (by decide) []) (endsDigits_cons (by decide) [])
    (List.append_cancel_left h₄)
  exact ⟨haddress, hcoupon, hitems, hremark, huser⟩

/-! ## The hash -/

/-- Lines of positive quantities are told by their numbers. -/
theorem numbers_inj {lines lines' : List OrderLineInput} (h : ∀ line ∈ lines, 0 < line.quantity)
    (h' : ∀ line ∈ lines', 0 < line.quantity) (heq : lines.map OrderLineInput.numbers = lines'.map OrderLineInput.numbers) :
    lines = lines' := by
  let back (p : Nat × Nat) : OrderLineInput := ⟨p.1, p.2⟩
  have hback : ∀ lines : List OrderLineInput, (∀ line ∈ lines, 0 < line.quantity) →
      (lines.map OrderLineInput.numbers).map back = lines := by
    intro lines hlines
    rw [List.map_map]
    refine (List.map_congr_left fun line hline => ?_).trans (List.map_id lines)
    obtain ⟨s, q⟩ := line
    show (⟨s, (q.toNat : Int)⟩ : OrderLineInput) = ⟨s, q⟩
    rw [Int.toNat_of_nonneg (hlines _ hline).le]
  rw [← hback lines h, heq, hback lines' h']

/-- After merging, two requests have one hash exactly when they come from the same user and ask for the same units of every SKU,
to the same address, with the same coupon and the same remark, where no remark is an empty one. -/
theorem canonicalRequestHash_eq_iff (env : Deployment) (hsha : Function.Injective env.sha256Hex)
    {items items' merged merged' : List OrderLineInput} (hmerged : mergeOrderLines items = .ok merged)
    (hmerged' : mergeOrderLines items' = .ok merged') (userId userId' addressId addressId' : Nat)
    (couponId couponId' : Option Nat) (remark remark' : Option String) :
    canonicalRequestHash env userId merged addressId couponId remark =
        canonicalRequestHash env userId' merged' addressId' couponId' remark' ↔
      userId = userId' ∧ (∀ skuId, unitsAsked items skuId = unitsAsked items' skuId) ∧ addressId = addressId' ∧
        couponId = couponId' ∧ remark.getD "" = remark'.getD "" := by
  have hm := mergeOrderLines_merged hmerged
  have hm' := mergeOrderLines_merged hmerged'
  have hunits : (∀ skuId, unitsAsked items skuId = unitsAsked items' skuId) ↔ sortedLines merged = sortedLines merged' := by
    rw [sortedLines_eq_iff, mergedLines_perm hm hm']
    simp only [mergeOrderLines_units hmerged, mergeOrderLines_units hmerged']
  have hpositive : ∀ {lines : List OrderLineInput}, MergedLines lines → ∀ line ∈ sortedLines lines, 0 < line.quantity :=
    fun h line hline => h.positive line ((List.mem_insertionSort _).mp hline)
  rw [canonicalRequestHash_eq, canonicalRequestHash_eq, hsha.eq_iff, hunits]
  constructor
  · intro h
    have hlist := congrArg String.toList h
    rw [canonicalText_toList userId hm.positive, canonicalText_toList userId' hm'.positive] at hlist
    obtain ⟨haddress, hcoupon, hlines, hremark, huser⟩ := requestCode_inj hlist
    exact ⟨huser, numbers_inj (hpositive hm) (hpositive hm') hlines, haddress, hcoupon, hremark⟩
  · rintro ⟨rfl, hlines, rfl, rfl, hremark⟩
    apply String.toList_injective
    rw [canonicalText_toList userId hm.positive, canonicalText_toList userId hm'.positive, hlines, hremark]

/-- Two cups and a plate to the fifth address. -/
def sampleText : String :=
  "\x7b\"address_id\":5,\"coupon_id\":null,\"items\":[[1,1],[2,2]],\"remark\":\"\",\"user_id\":1\x7d"

/-- The digest of the sample text, on a digest without collisions. -/
def sampleDigest : String → String :=
  Equiv.swap sampleText "a19b0de90f362ab816a48decc7e5a9398ad6a62a6de7fd85c681cb4243c18a63"

/-- A deployment with that digest. -/
def hashingDeployment : Deployment where
  settings := {}
  upperText := id
  lowerText := id
  isAlnumChar := fun _ => false
  sha256Hex := sampleDigest
  hmacHex := fun _ _ => ""
  jsonLoads := fun _ => none

theorem canonicalRequestHash_split :
    canonicalRequestHash hashingDeployment 1 [⟨2, 2⟩, ⟨1, 1⟩] 5 none none =
      canonicalRequestHash hashingDeployment 1 [⟨1, 1⟩, ⟨2, 2⟩] 5 none (some "") := by
  have hmerged : mergeOrderLines [⟨2, 1⟩, ⟨1, 1⟩, ⟨2, 1⟩] = .ok [⟨2, 2⟩, ⟨1, 1⟩] := by decide
  have hmerged' : mergeOrderLines [⟨1, 1⟩, ⟨2, 2⟩] = .ok [⟨1, 1⟩, ⟨2, 2⟩] := by decide
  refine (canonicalRequestHash_eq_iff hashingDeployment (Equiv.injective _) hmerged hmerged' 1 1 5 5 none none none
    (some "")).mpr ⟨rfl, ?_, rfl, rfl, rfl⟩
  intro skuId
  simp only [unitsAsked, List.map_cons, List.map_nil, unitsOf_cons, OrderLineInput.pair]
  split_ifs <;> simp_all [unitsOf]

end NovaCommerce
