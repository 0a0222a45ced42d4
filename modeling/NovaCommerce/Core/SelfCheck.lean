import NovaCommerce.Core.Walk

/-!
# The redactor and its own checker

`assertion_that_no_secret_remains` lists the paths of the secret keys whose values are not cleared. A copy asks
for chain-of-thought before it asks for secrets, and the checker knows one of the two markers.

* `walk_eq_nil_iff` : what the checker finds in a copy that is not too deep;
* `redact_passes_check_iff` : it reports nothing if and only if no key that is copied is of both kinds.
-/

namespace NovaCommerce.Redaction

/-! ## The checker -/

/-- `value in (SECRET_REMOVED, None)`. -/
def Redacted.cleared : Redacted → Bool
  | .none => true
  | .str value => value = secretRemoved
  | _ => false

section

variable (py : Runtime)

/-- `walk`, with `levels` left before `MAX_DEPTH` is passed. -/
def walk : Nat → Redacted → String → List String
  | 0, _, _ => []
  | levels + 1, .mapping entries, path =>
    entries.flatMap fun e =>
      (if isSecretKey py e.1 ∧ ¬ e.2.cleared then [s!"{path}.{e.1}"] else []) ++ walk levels e.2 s!"{path}.{e.1}"
  | levels + 1, .sequence items, path =>
    items.zipIdx.flatMap fun item => walk levels item.1 s!"{path}[{item.2}]"
  | _ + 1, _, _ => []

/-- `assertion_that_no_secret_remains`. -/
def assertionThatNoSecretRemains (payload : Redacted) : List String := walk py (maxDepthDefault + 1).toNat payload "$"

/-- Every secret key of the mapping is cleared. -/
def Cleared (entries : List (String × Redacted)) : Prop := ∀ e ∈ entries, isSecretKey py e.1 = true →
    e.2.cleared = true

end

section

variable {py : Runtime}

theorem walk_entries_eq_nil_iff {levels : Nat} {entries : List (String × Redacted)} {path : String} :
    walk py (levels + 1) (.mapping entries) path = [] ↔
      Cleared py entries ∧ ∀ e ∈ entries, walk py levels e.2 s!"{path}.{e.1}" = [] := by
  rw [walk, List.flatMap_eq_nil_iff]
  constructor
  · intro hnil
    refine ⟨fun e he hsecret => ?_, fun e he => (List.append_eq_nil_iff.mp (hnil e he)).2⟩
    have hfirst := (List.append_eq_nil_iff.mp (hnil e he)).1
    by_contra hopen
    rw [if_pos ⟨hsecret, hopen⟩] at hfirst
    cases hfirst
  · rintro ⟨hcleared, hbelow⟩ e he
    have hfine : ¬ (isSecretKey py e.1 = true ∧ ¬ e.2.cleared = true) := fun h => h.2 (hcleared e he h.1)
    rw [if_neg hfine, hbelow e he]
    rfl

theorem walk_items_eq_nil_iff {levels : Nat} {items : List Redacted} {path : String} :
    walk py (levels + 1) (.sequence items) path = [] ↔
      ∀ (i : Nat) (r : Redacted), items[i]? = some r → walk py levels r s!"{path}[{i}]" = [] := by
  rw [walk, List.flatMap_eq_nil_iff]
  constructor
  · intro hnil i r hr
    exact hnil (r, i) (List.mk_mem_zipIdx_iff_getElem?.mpr hr)
  · rintro hnil ⟨r, i⟩ hri
    exact hnil i r (List.mk_mem_zipIdx_iff_getElem?.mp hri)

/-- The checker reaches every mapping of a copy that nests no deeper than it walks. -/
theorem walk_eq_nil_iff : ∀ {levels : Nat} {r : Redacted} {path : String}, r.Fits levels →
    (walk py levels r path = [] ↔ ∀ entries, (Redacted.mapping entries).Part r → Cleared py entries) := by
  intro levels
  induction levels with
  | zero =>
    intro r path fits
    refine iff_of_true rfl fun entries hpart => ?_
    cases hpart <;> exact absurd fits id
  | succ levels ih =>
    intro r path fits
    cases r with
    | mapping entries =>
      rw [walk_entries_eq_nil_iff]
      constructor
      · rintro ⟨hcleared, hbelow⟩ entries' hpart
        rcases Redacted.part_mapping_iff.mp hpart with heq | ⟨e, he, hpart⟩
        · cases heq
          exact hcleared
        · exact (ih (fits e he)).mp (hbelow e he) entries' hpart
      · intro hall
        exact ⟨hall entries .whole, fun e he => (ih (fits e he)).mpr fun entries' hpart =>
          hall entries' (.entry he hpart)⟩
    | sequence items =>
      rw [walk_items_eq_nil_iff]
      constructor
      · intro hbelow entries hpart
        rcases Redacted.part_sequence_iff.mp hpart with heq | ⟨r, hr, hpart⟩
        · cases heq
        · obtain ⟨i, hi⟩ := List.mem_iff_getElem?.mp hr
          exact (ih (fits r hr)).mp (hbelow i r hi) entries hpart
      · intro hall i r hi
        have hr : r ∈ items := List.mem_of_getElem? hi
        exact (ih (fits r hr)).mpr fun entries hpart => hall entries (.item hr hpart)
    | _ =>
      refine iff_of_true rfl fun entries hpart => ?_
      cases hpart

end

/-! ## Copies -/

/-- Where `redact` starts. -/
def Stop.first (payload : Ref) (h : Heap) : Stop := ⟨h, (maxDepthDefault + 1).toNat, payload⟩

theorem redact_eq (py : Runtime) (purpose : RedactionPurpose) (payload : Ref) (h : Heap) :
    (redact py purpose payload maxDepthDefault 0 h).1 = (Stop.first payload h).copy py purpose := rfl

/-- `str.lower` is known on ASCII. -/
def LowersAscii (py : Runtime) : Prop := ∀ text : String, (∀ c ∈ text.toList, c.toNat < 128) →
    py.lowerText text = text.toLower

section

variable {py : Runtime} {purpose : RedactionPurpose}

/-- The key of the entry that counts the rest is neither kind of key. -/
theorem marker_not_secret (hlower : LowersAscii py) : isSecretKey py "__truncated__" = false := by
  have hnormal : normaliseKey py "__truncated__" = "truncated".toList := by
    unfold normaliseKey
    rw [hlower _ (by simp)]
    decide +kernel
  unfold isSecretKey
  dsimp only
  split_ifs
  · rfl
  · rw [hnormal]
    decide +kernel

/-- A copy that is a mapping is the copy of one. -/
theorem Stop.visit_of_mapping {s : Stop} {out : List (String × Redacted)} (hcopy : s.copy py purpose = .mapping out) :
    ∃ levels entries, s.visit = .entries levels entries := by
  have heq := s.copy_eq py purpose
  rw [hcopy] at heq
  cases hvisit : s.visit with
  | entries levels entries => exact ⟨levels, entries, rfl⟩
  | scalar copy =>
    rw [hvisit] at heq
    have hscalar := Stop.visit_scalar hvisit
    rw [show copy = .mapping out from heq.symm] at hscalar
    cases hscalar
  | _ =>
    rw [hvisit] at heq
    cases heq

/-- The copy of a mapping is clear, but for the keys that are withheld as chain-of-thought. -/
theorem cleared_copy_iff (hlower : LowersAscii py) {s : Stop} {levels : Nat} {entries : List (String × Ref)}
    (hvisit : s.visit = .entries levels entries) {out : List (String × Redacted)}
    (hcopy : s.copy py purpose = .mapping out) :
    Cleared py out ↔ ∀ e ∈ entries.take maxKeysPerMapping,
      ¬ (isChainOfThoughtKey py e.1 = true ∧ isSecretKey py e.1 = true) := by
  obtain ⟨out', hcopy', -, hkeys, hmem⟩ := @copy_mapping py purpose _ _ _ hvisit
  cases hcopy.symm.trans hcopy'
  constructor
  · rintro hcleared e he ⟨hcot, hsecret⟩
    -- the key is in the copy, with the other marker
    have hkey : e.1 ∈ out.map Prod.fst := (hkeys e.1).mpr (List.mem_append_left _ (List.mem_map_of_mem he))
    obtain ⟨copied, hcopied, hsame⟩ := List.mem_map.mp hkey
    rw [← hsame] at hcot hsecret
    rcases (hmem copied).mp hcopied with ⟨i, key, value, -, rfl⟩ | hcount
    · rw [copyEntry_key] at hcot hsecret
      have hclear := hcleared _ hcopied
      rw [copyEntry_reasoning _ hcot] at hclear
      have hopen : (Redacted.str cotRemoved).cleared = false := by decide +kernel
      exact Bool.false_ne_true (hopen.symm.trans (hclear hsecret))
    · rw [(mem_moreKeys.mp hcount).2, marker_not_secret hlower] at hsecret
      cases hsecret
  · intro hplain e he hsecret
    rcases (hmem e).mp he with ⟨i, key, value, hkept, rfl⟩ | hcount
    · rw [copyEntry_key] at hsecret
      have hcopied : (key, value) ∈ entries.take maxKeysPerMapping := by
        rw [List.mem_iff_getElem?]
        exact ⟨i, by rw [List.getElem?_take, if_pos hkept.copied, hkept.entry]⟩
      have hcot : ¬ isChainOfThoughtKey py key = true := fun hcot => hplain _ hcopied ⟨hcot, hsecret⟩
      rw [copyEntry_secret _ hcot hsecret]
      rfl
    · rw [(mem_moreKeys.mp hcount).2, marker_not_secret hlower] at hsecret
      cases hsecret

end

/-- The checker reports nothing of a copy if and only if no mapping that the walk meets has, among the keys
that it copies, a key that is classified as chain-of-thought and as a secret. -/
theorem redact_passes_check_iff (py : Runtime) (hlower : LowersAscii py) (purpose : RedactionPurpose) (payload : Ref)
    (h : Heap) :
    assertionThatNoSecretRemains py (redact py purpose payload maxDepthDefault 0 h).1 = [] ↔
      ∀ s levels entries, Met py purpose (Stop.first payload h) s → s.visit = .entries levels entries →
        ∀ e ∈ entries.take maxKeysPerMapping, ¬ (isChainOfThoughtKey py e.1 = true ∧ isSecretKey py e.1 = true) := by
  unfold assertionThatNoSecretRemains
  have fits : ((Stop.first payload h).copy py purpose).Fits (maxDepthDefault + 1).toNat :=
    (Stop.first payload h).fits_copy py purpose
  rw [redact_eq, walk_eq_nil_iff fits]
  constructor
  · intro hclear s levels entries hmet hvisit
    obtain ⟨out, hcopy, -⟩ := @copy_mapping py purpose _ _ _ hvisit
    rw [← cleared_copy_iff hlower hvisit hcopy]
    refine hclear out ?_
    rw [← hcopy]
    exact hmet.part
  · intro hplain out hpart
    obtain ⟨s, hmet, hcopy | ⟨text, -, htext⟩⟩ := (part_copy_iff _).mp hpart
    · obtain ⟨levels, entries, hvisit⟩ := Stop.visit_of_mapping hcopy.symm
      exact (cleared_copy_iff hlower hvisit hcopy.symm).mpr (hplain s levels entries hmet hvisit)
    · cases htext

theorem sampleRuntime_lowersAscii : LowersAscii sampleRuntime := fun _ _ => rfl

theorem redact_passes_check_account :
    assertionThatNoSecretRemains sampleRuntime
        (redact sampleRuntime .audit 0 maxDepthDefault 0 (sampleAccount (.str "k1"))).1 = [] ↔
      ∀ s levels entries, Met sampleRuntime .audit (Stop.first 0 (sampleAccount (.str "k1"))) s →
        s.visit = .entries levels entries →
        ∀ e ∈ entries.take maxKeysPerMapping,
          ¬ (isChainOfThoughtKey sampleRuntime e.1 = true ∧ isSecretKey sampleRuntime e.1 = true) :=
  redact_passes_check_iff sampleRuntime sampleRuntime_lowersAscii .audit 0 (sampleAccount (.str "k1"))

/-- `{"scratchpad_token": "abc"}`. -/
def sampleNotes : Heap
  | 0 => .mapping [("scratchpad_token", 1)]
  | 1 => .str "abc"
  | _ => .none

/-- A key of both kinds gets the marker that the checker does not know. -/
theorem redact_fails_check : ¬ ∀ (py : Runtime) (purpose : RedactionPurpose) (payload : Ref) (h : Heap),
    LowersAscii py →
    assertionThatNoSecretRemains py (redact py purpose payload maxDepthDefault 0 h).1 = [] := by
  intro hclaim
  have hnone := hclaim sampleRuntime .audit 0 sampleNotes sampleRuntime_lowersAscii
  have hreport : assertionThatNoSecretRemains sampleRuntime
    (redact sampleRuntime .audit 0 maxDepthDefault 0 sampleNotes).1 =
      ["$.scratchpad_token"] := by decide +kernel
  rw [hreport] at hnone
  cases hnone

end NovaCommerce.Redaction
