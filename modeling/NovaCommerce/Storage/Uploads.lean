import NovaCommerce.Storage.Names

/-!
# Uploads

`validate_upload` compares the type that is declared with the one that the first bytes show.

* `sniffContentType`, `validateUpload` : the functions;
* `declaredType` : the type that an upload is taken for;
* `Signed` : bytes that begin with a signature of a type;
* `declared_signed_iff` : when an accepted upload begins with a signature of its type.
-/

namespace NovaCommerce.Storage

/-- `ALLOWED_CONTENT_TYPES`. -/
def allowedContentTypes : List String := [
  "image/jpeg", "image/png", "image/webp", "image/gif", "image/avif", "application/pdf", "text/plain",
  "text/markdown", "text/csv", "application/json",
  "application/vnd.openxmlformats-officedocument.wordprocessingml.document",
  "application/vnd.openxmlformats-officedocument.spreadsheetml.sheet"]

/-- `_SIGNATURES`. -/
def signatures : List (String × List (List UInt8)) := [
  ("application/pdf", [[0x25, 0x50, 0x44, 0x46, 0x2D]]),
  ("image/jpeg", [[0xFF, 0xD8, 0xFF]]),
  ("image/png", [[0x89, 0x50, 0x4E, 0x47, 0x0D, 0x0A, 0x1A, 0x0A]]),
  ("image/gif", [[0x47, 0x49, 0x46, 0x38, 0x37, 0x61], [0x47, 0x49, 0x46, 0x38, 0x39, 0x61]]),
  ("application/zip", [[0x50, 0x4B, 0x03, 0x04]])]

/-- The types whose files are zip containers. -/
def ooxmlTypes : List String := [
  "application/vnd.openxmlformats-officedocument.wordprocessingml.document",
  "application/vnd.openxmlformats-officedocument.spreadsheetml.sheet"]

/-- `sniff_content_type`. -/
def sniffContentType (head : List UInt8) : Option String :=
  (signatures.find? fun entry => entry.2.any fun signature => signature.isPrefixOf head).map Prod.fst

section

variable (py : Runtime)

/-- `guess_content_type`. -/
def guessContentType (filename : String) : String :=
  match py.guessType filename with
  | some guessed => if guessed = "" then "application/octet-stream" else guessed
  | none => "application/octet-stream"

/-- `(declared_content_type or "").split(";")[0].strip().lower()`. -/
def declaredName (declaredContentType : String) : String :=
  py.lowerText (strip (String.ofList ((declaredContentType.toList.splitOn ';').headD [])))

/-- The allow-list of `validate_upload`: the declared type, or else the one that the name suggests. -/
def allowedType (filename declaredContentType : String) : Except StorageError String :=
  let declared := declaredName py declaredContentType
  let guessed := guessContentType py filename
  if declared ∉ allowedContentTypes then
    if guessed ∈ allowedContentTypes then .ok guessed
    else .error (.unsupportedContentType s!"content type {py.repr declaredContentType} is not allowed")
  else .ok declared

/-- `validate_upload`. -/
def validateUpload (filename declaredContentType : String) (head : List UInt8) (size maxBytes : Int) :
    Except StorageError String := do
  Raise.raiseIf (size ≤ 0) (.unsupportedContentType "empty upload rejected")
  Raise.raiseIf (maxBytes < size) (.objectTooLarge s!"upload of {size} bytes exceeds the {maxBytes} byte limit")
  let declared ← allowedType py filename declaredContentType
  match sniffContentType head with
  | some sniffed =>
    let ooxml := declared ∈ ooxmlTypes
    if sniffed = "application/zip" ∧ ooxml then return declared
    Raise.raiseIf (sniffed ≠ declared ∧ ¬ (sniffed = "application/zip" ∧ ooxml))
      (.unsupportedContentType
        s!"declared content type {py.repr declared} contradicts the file signature ({py.repr sniffed})")
    return declared
  | none => return declared

/-! ## Accepted uploads -/

/-- The type that an upload is taken for: the declared one, or that of its name where the port does not know it. -/
def declaredType (filename declaredContentType : String) : Option String :=
  if declaredName py declaredContentType ∈ allowedContentTypes then some (declaredName py declaredContentType)
  else if guessContentType py filename ∈ allowedContentTypes then some (guessContentType py filename)
  else none

end

/-- The bytes begin with a signature of the type. -/
def Signed (contentType : String) (head : List UInt8) : Prop :=
  ∃ entry ∈ signatures, entry.1 = contentType ∧ ∃ signature ∈ entry.2, signature <+: head

/-- The type has a signature. -/
def HasSignature (contentType : String) : Prop := contentType ∈ signatures.map Prod.fst

theorem signed_of_sniffed {head : List UInt8} {contentType : String} (h : sniffContentType head = some contentType) :
    Signed contentType head := by
  obtain ⟨entry, hfound, rfl⟩ := Option.map_eq_some_iff.mp h
  have hany : (entry.2.any fun signature => signature.isPrefixOf head) = true := by simpa using List.find?_some hfound
  obtain ⟨signature, hsignature, hbegins⟩ := List.any_eq_true.mp hany
  exact ⟨entry, List.mem_of_find?_eq_some hfound, rfl, signature, hsignature, List.isPrefixOf_iff_prefix.mp hbegins⟩

theorem sniffed_of_signed {head : List UInt8} {contentType : String} (h : Signed contentType head) :
    sniffContentType head ≠ none := by
  obtain ⟨entry, hentry, -, signature, hsignature, hbegins⟩ := h
  intro hnone
  have hall := List.find?_eq_none.mp (Option.map_eq_none_iff.mp hnone) entry hentry
  exact hall (List.any_eq_true.mpr ⟨signature, hsignature, List.isPrefixOf_iff_prefix.mpr hbegins⟩)

/-- What an accepted upload is taken for, and what its bytes may show. -/
theorem validateUpload_eq_ok_iff {py : Runtime} {filename declaredContentType : String} {head : List UInt8}
    {size maxBytes : Int}
    {contentType : String} : validateUpload py filename declaredContentType head size maxBytes = .ok contentType ↔
      0 < size ∧ size ≤ maxBytes ∧ declaredType py filename declaredContentType = some contentType ∧
        (sniffContentType head = none ∨ sniffContentType head = some contentType ∨
          (sniffContentType head = some "application/zip" ∧ contentType ∈ ooxmlTypes)) := by
  have hdeclared : ∀ declared : String, allowedType py filename declaredContentType = .ok declared ↔
      declaredType py filename declaredContentType = some declared := by
    intro declared
    unfold declaredType allowedType
    dsimp only
    by_cases hknown : declaredName py declaredContentType ∈ allowedContentTypes
    · rw [if_neg (not_not.mpr hknown), if_pos hknown]
      simp
    · rw [if_pos hknown, if_neg hknown]
      by_cases hguessed : guessContentType py filename ∈ allowedContentTypes
      · rw [if_pos hguessed, if_pos hguessed]
        simp
      · rw [if_neg hguessed, if_neg hguessed]
        simp
  unfold validateUpload
  dsimp only
  rw [Raise.bind_eq_ok]
  simp only [Raise.raiseIf_eq_ok, exists_const, Raise.bind_eq_ok, hdeclared, not_le, not_lt]
  refine and_congr_right fun _ => and_congr_right fun _ => ?_
  constructor
  · rintro ⟨declared, htype, hsniff⟩
    cases hsniffed : sniffContentType head with
    | none =>
      rw [hsniffed] at hsniff
      cases hsniff
      exact ⟨htype, .inl rfl⟩
    | some sniffed =>
      rw [hsniffed] at hsniff
      dsimp only at hsniff
      by_cases hzip : sniffed = "application/zip" ∧ declared ∈ ooxmlTypes
      · rw [if_pos hzip] at hsniff
        cases hsniff
        exact ⟨htype, .inr (.inr ⟨congrArg some hzip.1, hzip.2⟩)⟩
      · rw [if_neg hzip] at hsniff
        obtain ⟨_, hagree, hsame⟩ := Raise.bind_eq_ok.mp hsniff
        cases hsame
        have heq : sniffed = contentType := by
          by_contra hne
          exact Raise.raiseIf_eq_ok.mp hagree ⟨hne, hzip⟩
        exact ⟨htype, .inr (.inl (congrArg some heq))⟩
  · rintro ⟨htype, hsniffed⟩
    refine ⟨contentType, htype, ?_⟩
    rcases hsniffed with h | h | ⟨h, hooxml⟩
    · rw [h]
      rfl
    · rw [h]
      dsimp only
      split_ifs
      · rfl
      · exact Raise.bind_eq_ok.mpr ⟨(), Raise.raiseIf_eq_ok.mpr fun hne => hne.1 rfl, rfl⟩
    · rw [h]
      dsimp only
      rw [if_pos ⟨rfl, hooxml⟩]
      rfl

/-- An accepted upload begins with a signature of its type, when the type has one, if and only if some signature
is recognised in it. -/
theorem declared_signed_iff (py : Runtime) (filename declaredContentType : String) (head : List UInt8)
    (size maxBytes : Int) :
    (∀ contentType, validateUpload py filename declaredContentType head size maxBytes = .ok contentType →
        HasSignature contentType → Signed contentType head) ↔
      size ≤ 0 ∨ maxBytes < size ∨ (∀ contentType, declaredType py filename declaredContentType = some contentType →
        ¬ HasSignature contentType) ∨ sniffContentType head ≠ none := by
  constructor
  · intro hclaim
    by_contra hopen
    push Not at hopen
    obtain ⟨hpositive, hfits, ⟨contentType, hdeclared, hsigned⟩, hnone⟩ := hopen
    have haccepted := validateUpload_eq_ok_iff.mpr ⟨hpositive, hfits, hdeclared, .inl hnone⟩
    exact sniffed_of_signed (hclaim contentType haccepted hsigned) hnone
  · intro hcondition contentType haccepted hsigned
    obtain ⟨hpositive, hfits, hdeclared, hsniffed⟩ := validateUpload_eq_ok_iff.mp haccepted
    have hsome : sniffContentType head ≠ none := by
      rcases hcondition with h | h | h | h
      · omega
      · omega
      · exact absurd hsigned (h contentType hdeclared)
      · exact h
    rcases hsniffed with h | h | ⟨-, hooxml⟩
    · exact absurd h hsome
    · exact signed_of_sniffed h
    · -- no zip container is a type with a signature of its own
      have hnone : ∀ contentType ∈ ooxmlTypes, contentType ∉ signatures.map Prod.fst := by decide
      exact absurd hsigned (hnone contentType hooxml)

/-- Bytes without a signature are accepted as a PDF. -/
theorem declared_not_signed : ¬ ∀ (py : Runtime) (filename declaredContentType : String) (head : List UInt8)
    (size maxBytes : Int) (contentType : String),
    validateUpload py filename declaredContentType head size maxBytes = .ok contentType → HasSignature contentType →
      Signed contentType head := by
  intro hclaim
  let script : List UInt8 := [0x23, 0x21, 0x2F, 0x62, 0x69, 0x6E, 0x2F, 0x73, 0x68]
  have haccepted : validateUpload sampleRuntime "invoice.pdf" "application/pdf" script 9 10000 =
    .ok "application/pdf" := by
    decide +kernel
  exact sniffed_of_signed
    (hclaim sampleRuntime "invoice.pdf" "application/pdf" script 9 10000 "application/pdf" haccepted
    (by unfold HasSignature; decide)) (by decide +kernel)

end NovaCommerce.Storage
