import NovaCommerce.Console.Catalogue
import NovaCommerce.Lib.Windows
import NovaCommerce.Payment.Providers

/-!
# Chunks of a knowledge document

`chunksOf` decodes an upload and cuts its text into windows of a thousand characters, one every nine hundred.

* `ChunkedExactly` : no short phrase is cut, no chunk is too long, and no chunk lies within another;
* `chunksOf_exact_iff` : the last window must reach past the one before it;
* `uploaded_found` : a short phrase of an uploaded text is found.
-/

namespace NovaCommerce.Console

open Windows

/-! ## Uploads -/

/-- `data.decode("utf-8-sig")`. -/
def decodeUtf8Sig (data : List UInt8) : Option String :=
  String.fromUTF8? (if [0xEF, 0xBB, 0xBF] <+: data then data.drop 3 else data).toByteArray

/-- The text of an upload. -/
def documentText (data : List UInt8) : Option String := (decodeUtf8Sig data).map strip

/-- The windows of a text. -/
def chunkTexts (content : String) : List String := (windows 900 1000 content.toList).map String.ofList

/-- `_chunks`. -/
def chunksOf (data : List UInt8) (contentType : String) : Except AppError (List String) := do
  let mediaType := strip (String.ofList (contentType.toList.takeWhile (· ≠ ';')))
  Raise.raiseIf (mediaType ≠ "text/plain" ∧ mediaType ≠ "text/markdown")
    { kind := .documentUnsupportedType, message := "only UTF-8 plain text and Markdown ingestion is configured" }
  let content ← Raise.orRaise (documentText data)
    { kind := .validation, message := "document must contain valid UTF-8 text" }
  Raise.raiseIf (content = "" ∨ Char.ofNat 0 ∈ content.toList)
    { kind := .validation, message := "document must contain nonempty text" }
  return chunkTexts content

/-- A base of the merchant, as `get_base` finds it. -/
def Tables.baseOf (t : Tables) (baseId merchantId : Nat) : Option KnowledgeBase :=
  (t.knowledgeBases.get? baseId).filter fun b => decide (b.merchantId = merchantId)

/-- The rows of a document that is ready. -/
def Tables.ingest (t : Tables) (merchantId baseId : Nat) (fileName : String) (chunks : List String) : Tables :=
  { t with
    documents := t.documents.set t.next {
      merchantId := merchantId, knowledgeBaseId := baseId, fileName := truncate 255 fileName, status := .ready }
    chunks := t.chunks.setFrom (t.next + 1) (chunks.map fun text => { documentId := t.next, text := text })
    next := t.next + 1 + chunks.length }

/-- `upload`, from the bytes to the rows. -/
def upload (t : Tables) (principal : Identity.Principal) (baseId : Nat) (fileName contentType : String) (data : List UInt8) :
    Except AppError (Nat × Tables) := do
  let merchantId ← knowledgeMerchant principal "knowledge:ingest"
  let _ ← Raise.orRaise (t.baseOf baseId merchantId) { kind := .knowledgeBaseNotFound, message := "knowledge base not found" }
  Raise.raiseIf (data = []) { kind := .validation, message := "knowledge document is empty" }
  let chunks ← chunksOf data contentType
  return (t.next, t.ingest merchantId baseId fileName chunks)

/-! ## Accepted texts -/

/-- What is accepted is a text, and its chunks are its windows. -/
theorem chunksOf_eq_ok {data : List UInt8} {contentType : String} {chunks : List String} (h : chunksOf data contentType = .ok chunks) :
    ∃ content, documentText data = some content ∧ content ≠ "" ∧ chunks = chunkTexts content := by
  unfold chunksOf at h
  obtain ⟨_, -, h⟩ := Raise.bind_eq_ok.mp h
  obtain ⟨content, hcontent, h⟩ := Raise.bind_eq_ok.mp h
  obtain ⟨_, hguard, h⟩ := Raise.bind_eq_ok.mp h
  rw [Raise.orRaise_eq_ok] at hcontent
  rw [Raise.raiseIf_eq_ok] at hguard
  cases h
  exact ⟨content, hcontent, fun hempty => hguard (.inl hempty), rfl⟩

/-- A text without white space and zero characters, as it is uploaded. -/
theorem chunksOf_utf8 {s : String} (hne : s ≠ "") (hmark : ¬ [0xEF, 0xBB, 0xBF] <+: utf8 s) (hspace : ∀ c ∈ s.toList, isSpace c = false)
    (hzero : Char.ofNat 0 ∉ s.toList) : documentText (utf8 s) = some s ∧ chunksOf (utf8 s) "text/plain" = .ok (chunkTexts s) := by
  have hbytes : (utf8 s).toByteArray = s.toByteArray := by
    rw [← String.utf8Encode_toList]
    rfl
  have hdecoded : decodeUtf8Sig (utf8 s) = some s := by
    unfold decodeUtf8Sig String.fromUTF8?
    rw [if_neg hmark, hbytes, dif_pos s.isValidUTF8]
    rfl
  have hstrip : strip s = s := by
    have hfirst : s.toList.dropWhile isSpace = s.toList :=
      List.dropWhile_eq_self_iff.mpr fun hl => by rw [hspace _ (List.getElem_mem hl)]; exact Bool.false_ne_true
    have hlast : s.toList.reverse.dropWhile isSpace = s.toList.reverse :=
      List.dropWhile_eq_self_iff.mpr fun hl => by
        rw [hspace _ (List.mem_reverse.mp (List.getElem_mem hl))]
        exact Bool.false_ne_true
    unfold strip
    rw [hfirst, hlast, List.reverse_reverse, String.ofList_toList]
  have htext : documentText (utf8 s) = some s := by
    unfold documentText
    rw [hdecoded, Option.map_some, hstrip]
  refine ⟨htext, ?_⟩
  unfold chunksOf
  have hmedia : ¬ (strip (String.ofList ("text/plain".toList.takeWhile (· ≠ ';'))) ≠ "text/plain" ∧
      strip (String.ofList ("text/plain".toList.takeWhile (· ≠ ';'))) ≠ "text/markdown") := by decide
  dsimp only
  rw [Raise.raiseIf_neg hmedia, htext]
  show (Raise.raiseIf (s = "" ∨ Char.ofNat 0 ∈ s.toList) _ >>= fun _ => pure (chunkTexts s)) = _
  rw [Raise.raiseIf_neg (not_or.mpr ⟨hne, hzero⟩)]
  rfl

/-! ## Chunks -/

/-- Every phrase of at most 101 characters stands in a chunk, no chunk has more than a thousand characters, and what one chunk
covers is not covered by another. -/
structure ChunkedExactly (content : String) (chunks : List String) : Prop where
  placed : chunks = (spans 900 1000 content.length).map fun s => String.ofList (slice content.toList s.start s.stop)
  covered : ∀ phrase : List Char, phrase.length ≤ 101 → phrase <:+: content.toList → ∃ chunk ∈ chunks, phrase <:+: chunk.toList
  bounded : ∀ chunk ∈ chunks, chunk.length ≤ 1000
  apart : (spans 900 1000 content.length).Pairwise fun a b => ¬ a.Within b ∧ ¬ b.Within a

theorem chunkTexts_placed (content : String) :
    chunkTexts content = (spans 900 1000 content.length).map fun s => String.ofList (slice content.toList s.start s.stop) := by
  unfold chunkTexts
  rw [windows_eq, List.map_map]
  rfl

theorem chunkTexts_covered {content : String} (hne : content ≠ "") {phrase : List Char} (hlength : phrase.length ≤ 101)
    (h : phrase <:+: content.toList) : ∃ chunk ∈ chunkTexts content, phrase <:+: chunk.toList := by
  have hchars : content.toList ≠ [] := fun hnil => hne (String.toList_eq_nil_iff.mp hnil)
  have hfits : phrase.length + 900 ≤ 1000 + 1 := by omega
  obtain ⟨w, hw, hphrase⟩ := exists_window_of_infix (by omega) (by omega) hchars h hfits
  refine ⟨String.ofList w, List.mem_map_of_mem hw, ?_⟩
  rw [String.toList_ofList]
  exact hphrase

theorem chunkTexts_bounded {content chunk : String} (h : chunk ∈ chunkTexts content) : chunk.length ≤ 1000 := by
  obtain ⟨w, hw, rfl⟩ := List.mem_map.mp h
  obtain ⟨offset, -, rfl⟩ := List.mem_map.mp hw
  rw [String.length_ofList]
  exact length_window_le content.toList offset 1000

/-- The last window reaches past the one before it unless the text ends within their overlap. -/
theorem spans_apart_iff (n : Nat) : (spans 900 1000 n).Pairwise (fun a b => ¬ a.Within b ∧ ¬ b.Within a) ↔
    n ≤ 900 ∨ 100 ≤ (n - 1) % 900 := by
  rw [pairwise_spans_iff (by omega)]
  constructor
  · intro h
    by_contra hcut
    have hlast := h ((n + 900 - 1) / 900 - 2) (by omega)
    omega
  · intro h i hi
    omega

/-- The chunks of an accepted upload lose nothing. None of them lies within another exactly when the text has at most 900
characters or ends at least 101 characters into its last window. -/
theorem chunksOf_exact_iff {data : List UInt8} {contentType : String} {chunks : List String} {content : String}
    (accepted : chunksOf data contentType = .ok chunks) (text : documentText data = some content) :
    ChunkedExactly content chunks ↔ content.length ≤ 900 ∨ 100 ≤ (content.length - 1) % 900 := by
  obtain ⟨content', htext, hne, rfl⟩ := chunksOf_eq_ok accepted
  rw [text] at htext
  cases htext
  rw [← spans_apart_iff]
  constructor
  · intro h
    exact h.apart
  · intro h
    exact {
      placed := chunkTexts_placed content
      covered := fun phrase hlength hphrase => chunkTexts_covered hne hlength hphrase
      bounded := fun chunk hchunk => chunkTexts_bounded hchunk
      apart := h }

theorem chunksOf_exact_iff_cups : ChunkedExactly "cups" (chunkTexts "cups") ↔ "cups".length ≤ 900 ∨ 100 ≤ ("cups".length - 1) % 900 := by
  have hbytes : utf8 "cups" = [99, 117, 112, 115] := rfl
  have hmark : ¬ [0xEF, 0xBB, 0xBF] <+: utf8 "cups" := by
    rw [hbytes]
    decide
  have hspace : ∀ c ∈ "cups".toList, isSpace c = false := by
    have hchars : "cups".toList = ['c', 'u', 'p', 's'] := rfl
    rw [hchars]
    simp only [List.forall_mem_cons, List.not_mem_nil, false_imp_iff, forall_true_iff, and_true]
    decide
  have hcups := chunksOf_utf8 (s := "cups") (by decide) hmark hspace (by decide)
  exact chunksOf_exact_iff hcups.2 hcups.1

/-- A text of 901 characters. -/
def longText : String := String.ofList (List.replicate 901 'a')

/-- The second chunk of 901 characters is the last character of the first. -/
theorem longText_repeats : ∃ chunks, chunksOf (utf8 longText) "text/plain" = .ok chunks ∧ documentText (utf8 longText) = some longText ∧
    ¬ ChunkedExactly longText chunks := by
  have hchars : longText.toList = List.replicate 901 'a' := String.toList_ofList
  have hlength : longText.length = 901 := by
    rw [← String.length_toList, hchars, List.length_replicate]
  have hmem : ∀ c ∈ longText.toList, c = 'a' := by
    intro c hc
    rw [hchars] at hc
    exact List.eq_of_mem_replicate hc
  have hbytes : ∃ rest, utf8 longText = 97 :: rest := by
    refine ⟨(List.replicate 900 'a').flatMap String.utf8EncodeChar, ?_⟩
    unfold utf8
    rw [hchars, List.replicate_succ, List.flatMap_cons]
    rfl
  have haccepted := chunksOf_utf8 (s := longText)
    (by
      intro h
      rw [h] at hlength
      exact absurd hlength (by decide))
    (by
      obtain ⟨rest, hrest⟩ := hbytes
      rw [hrest, List.cons_prefix_cons]
      exact fun h => absurd h.1 (by decide))
    (by
      intro c hc
      rw [hmem c hc]
      decide)
    (by
      intro hzero
      exact absurd (hmem _ hzero) (by decide))
  refine ⟨chunkTexts longText, haccepted.2, haccepted.1, fun h => ?_⟩
  have hapart := (spans_apart_iff _).mp h.apart
  rw [hlength] at hapart
  omega

/-! ## Found again -/

/-- A short phrase of an uploaded text is found, in a search that is not cut off. -/
theorem uploaded_found {t t' : Tables} {principal : Identity.Principal} {baseId id : Nat} {fileName contentType content phrase : String}
    {data : List UInt8} {limit : Nat} (h : upload t principal baseId fileName contentType data = .ok (id, t'))
    (text : documentText data = some content) (short : phrase.length ≤ 101) (occurs : phrase.toList <:+: content.toList)
    (whole : t'.chunks.entries.length ≤ limit) :
    ∃ merchantId, principal.merchantId = some merchantId ∧
      ∃ hit ∈ t'.searchChunks baseId merchantId phrase limit, hit.2.2.1 = id ∧ phrase.toList <:+: hit.2.1.text.toList := by
  unfold upload at h
  obtain ⟨merchantId, hmerchant, h⟩ := Raise.bind_eq_ok.mp h
  obtain ⟨_, -, h⟩ := Raise.bind_eq_ok.mp h
  obtain ⟨_, -, h⟩ := Raise.bind_eq_ok.mp h
  obtain ⟨chunks, hchunks, h⟩ := Raise.bind_eq_ok.mp h
  cases h
  have hscope : principal.merchantId = some merchantId := by
    unfold knowledgeMerchant at hmerchant
    obtain ⟨_, -, hmerchant⟩ := Raise.bind_eq_ok.mp hmerchant
    cases hp : principal.merchantId with
    | none =>
      rw [hp] at hmerchant
      cases hmerchant
    | some m =>
      rw [hp] at hmerchant
      obtain ⟨_, -, hmerchant⟩ := Raise.bind_eq_ok.mp hmerchant
      cases hmerchant
      rfl
  obtain ⟨content', htext, hne, rfl⟩ := chunksOf_eq_ok hchunks
  rw [text] at htext
  cases htext
  obtain ⟨chunk, hchunk, hphrase⟩ := chunkTexts_covered hne (by rw [String.length_toList]; exact short) occurs
  obtain ⟨k, hk, rfl⟩ := List.getElem_of_mem hchunk
  let row : KnowledgeChunk := { documentId := t.next, text := (chunkTexts content)[k] }
  let document : KnowledgeDocument :=
    { merchantId := merchantId, knowledgeBaseId := baseId, fileName := truncate 255 fileName, status := .ready }
  let rows : List KnowledgeChunk := (chunkTexts content).map fun text => { documentId := t.next, text := text }
  have hrows : k < rows.length := by
    rw [List.length_map]
    exact hk
  have hstored : (t.ingest merchantId baseId fileName (chunkTexts content)).chunks.get? (t.next + 1 + k) = some row := by
    show (t.chunks.setFrom (t.next + 1) rows).get? (t.next + 1 + k) = some row
    rw [Dict.get?_setFrom_at hrows, List.getElem?_eq_getElem hrows, List.getElem_map]
  refine ⟨merchantId, hscope, (t.next + 1 + k, row, t.next, document), ?_, rfl, hphrase⟩
  unfold Tables.searchChunks
  rw [List.take_of_length_le]
  · refine List.mem_filterMap.mpr ⟨(t.next + 1 + k, row), ?_, ?_⟩
    · exact (List.mem_insertionSort _).mpr (Dict.get?_eq_some.mp hstored)
    · rw [Option.map_eq_some_iff]
      refine ⟨_, ?_, rfl⟩
      rw [Option.filter_eq_some_iff]
      refine ⟨Dict.get?_set_self _ _ _, ?_⟩
      exact decide_eq_true ⟨rfl, rfl, rfl, hphrase⟩
  · refine (List.length_filterMap_le _ _).trans (le_trans (le_of_eq ?_) whole)
    exact List.length_insertionSort _ _

end NovaCommerce.Console
