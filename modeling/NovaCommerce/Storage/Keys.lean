import NovaCommerce.Core
import NovaCommerce.Lib.Percent

/-!
# Object keys

`validate_object_key` reads a key as a backend would that decodes it, for at most six rounds.

* `fullyDecode`, `normpath`, `validateObjectKey` : the validation;
* `Relative`, `Plain` : what a key must be like for every backend, however often it decodes the key;
* `validateObjectKey_eq_ok_iff` : the keys that are accepted;
* `decoded_safe_iff` : of which keys every number of rounds is safe.
-/

namespace NovaCommerce.Storage

open Percent

/-! ## Errors -/

/-- What the port takes from the runtime: `repr` of a text, `unicodedata.normalize` to NFKC, `\w` of a regular
expression, `str.lower` and `mimetypes.guess_type`. -/
structure Runtime where
  repr : String → String
  normalize : String → String
  isWord : Char → Bool
  lowerText : String → String
  guessType : String → Option String

inductive StorageError where
  | unsafeKey (message : String)
  | objectTooLarge (message : String)
  | unsupportedContentType (message : String)
  deriving DecidableEq, Repr

/-! ## Validation -/

/-- `_MAX_DECODE_ROUNDS`. -/
def maxDecodeRounds : Nat := 6

def maxKeyLength : Nat := 512

def maxSegmentLength : Nat := 128

/-- `_fully_decode`. -/
def fullyDecode : Nat → List Char → List Char
  | 0, previous => previous
  | rounds + 1, previous =>
    let current := unquote previous
    if current = previous then previous else fullyDecode rounds current

/-- `_WINDOWS_DRIVE.match`. -/
def windowsDrive : List Char → Bool
  | letter :: ':' :: _ => decide (('A' ≤ letter ∧ letter ≤ 'Z') ∨ ('a' ≤ letter ∧ letter ≤ 'z'))
  | _ => false

/-- A component that `normpath` reads, behind those that it kept. -/
def normpathStep (slashes : Nat) (kept : List (List Char)) (component : List Char) : List (List Char) :=
  if component = [] ∨ component = ['.'] then kept
  else if component ≠ ['.', '.'] ∨ (slashes = 0 ∧ kept = []) ∨ kept.getLast? = some ['.', '.'] then kept ++
    [component]
  else kept.dropLast

/-- `posixpath.normpath`. -/
def normpath (path : List Char) : List Char :=
  if path = [] then ['.']
  else
    let slashes := if ['/', '/'] <+: path ∧ ¬ ['/', '/', '/'] <+: path then 2 else if ['/'] <+: path then 1 else 0
    let kept := (path.splitOn '/').foldl (normpathStep slashes) []
    let joined := List.replicate slashes '/' ++ ['/'].intercalate kept
    if joined = [] then ['.'] else joined

/-- `ord(char) < 32 or ord(char) == 127`. -/
def isControl (c : Char) : Bool := decide (c.toNat < 32 ∨ c.toNat = 127)

/-- `replace("\\", "/")`. -/
def slashed (text : List Char) : List Char := text.map fun c => if c = '\\' then '/' else c

/-- Texts are compared character by character. -/
instance lawfulText : LawfulBEq (List Char) := inferInstance

/-- `validate_object_key`. -/
def validateObjectKey (py : Runtime) (key : String) : Except StorageError String := do
  Raise.raiseIf (key = "") (.unsafeKey "object key must not be empty")
  Raise.raiseIf (maxKeyLength < key.length) (.unsafeKey s!"object key exceeds {maxKeyLength} characters")
  Raise.raiseIf (Char.ofNat 0 ∈ key.toList) (.unsafeKey "object key must not contain NUL bytes")
  Raise.raiseIf (key.toList.any isControl) (.unsafeKey "object key must not contain control characters")
  let normalised := slashed (fullyDecode maxDecodeRounds key.toList)
  Raise.raiseIf (['/'] <+: normalised ∨ windowsDrive normalised)
    (.unsafeKey s!"object key must be relative, got {py.repr key}")
  Raise.raiseIf (['~'] <+: normalised ∨ ['$'] <+: normalised)
    (.unsafeKey s!"object key must not start with a shell/home marker: {py.repr key}")
  Raise.raiseIf (∃ segment ∈ normalised.splitOn '/', segment ∈ [[], ['.'], ['.', '.']])
    (.unsafeKey s!"object key contains an empty or traversal segment: {py.repr key}")
  Raise.raiseIf (normpath normalised ≠ normalised) (.unsafeKey s!"object key is not in canonical form: {py.repr key}")
  return key

/-! ## Decoding -/

theorem fullyDecode_eq : ∀ (rounds : Nat) (text : List Char), fullyDecode rounds text = unquote^[rounds] text := by
  intro rounds
  induction rounds with
  | zero => exact fun _ => rfl
  | succ rounds ih =>
    intro text
    unfold fullyDecode
    dsimp only
    rw [Function.iterate_succ_apply]
    split_ifs with hstable
    · rw [hstable, Function.iterate_fixed hstable]
    · exact ih (unquote text)

/-- The text that decoding comes to, however many rounds it takes. -/
def decodedFully (text : List Char) : List Char := unquote^[text.length] text

theorem decodedFully_stable (text : List Char) : unquote (decodedFully text) = decodedFully text :=
  unquote_settles text.length text (le_refl _)

/-- Every round is on the way to it. -/
theorem iterate_decodedFully (text : List Char) (n : Nat) : unquote^[text.length] (unquote^[n] text) =
    decodedFully text := by
  rw [← Function.iterate_add_apply, Nat.add_comm, Function.iterate_add_apply]
  exact Function.iterate_fixed (decodedFully_stable text) n

/-! ## Safe keys -/

/-- Neither absolute nor with a dot segment. -/
structure Relative (text : List Char) : Prop where
  notAbsolute : ¬ ['/'] <+: text
  noDrive : windowsDrive text = false
  noDots : ∀ segment ∈ text.splitOn '/', segment ∉ [['.'], ['.', '.']]

/-- Without backslashes and control characters. -/
structure Plain (text : List Char) : Prop where
  noBackslash : '\\' ∉ text
  noControl : ∀ c ∈ text, isControl c = false

theorem inert_slash : Inert '/' := by refine ⟨?_, ?_, ?_⟩ <;> decide

theorem inert_colon : Inert ':' := by refine ⟨?_, ?_, ?_⟩ <;> decide

theorem inert_backslash : Inert '\\' := by refine ⟨?_, ?_, ?_⟩ <;> decide

theorem inert_control {c : Char} (hc : isControl c = true) : Inert c := by
  have hcontrol : c.toNat < 32 ∨ c.toNat = 127 := of_decide_eq_true hc
  refine ⟨by omega, ?_, ?_⟩
  · rintro rfl
    exact absurd hcontrol (by decide)
  · have hle : ∀ d e : Char, d ≤ c ∧ c ≤ e → d.toNat ≤ c.toNat ∧ c.toNat ≤ e.toNat := fun d e h => h
    unfold hexValue?
    rw [if_neg, if_neg, if_neg]
    · intro h
      have := hle _ _ h
      have : 'a'.toNat = 97 := rfl
      have : 'f'.toNat = 102 := rfl
      omega
    · intro h
      have := hle _ _ h
      have : 'A'.toNat = 65 := rfl
      have : 'F'.toNat = 70 := rfl
      omega
    · intro h
      have := hle _ _ h
      have : '0'.toNat = 48 := rfl
      have : '9'.toNat = 57 := rfl
      omega

theorem mem_unquote_of_inert {c : Char} (hc : Inert c) {text : List Char} (hmem : c ∈ text) : c ∈ unquote text := by
  obtain ⟨before, after, rfl⟩ := List.append_of_mem hmem
  rw [unquote_append_cons hc]
  exact List.mem_append_right _ List.mem_cons_self

/-- What a round of decoding leaves relative was relative. -/
theorem Relative.of_unquote {text : List Char} (h : Relative (unquote text)) : Relative text where
  notAbsolute := by
    rintro ⟨rest, rfl⟩
    apply h.notAbsolute
    rw [List.cons_append, List.nil_append, show '/' :: rest = [] ++ '/' :: rest from rfl,
      unquote_append_cons inert_slash]
    exact ⟨unquote rest, rfl⟩
  noDrive := by
    by_contra hdrive
    rw [Bool.not_eq_false] at hdrive
    unfold windowsDrive at hdrive
    split at hdrive
    · rename_i letter rest
      have hletter : unquote [letter] = [letter] := run_map_pieceOf [letter]
      have hcut := unquote_append_cons inert_colon [letter] rest
      have hnone := h.noDrive
      rw [List.cons_append, List.nil_append] at hcut
      rw [hcut, hletter] at hnone
      exact Bool.false_ne_true (hnone.symm.trans hdrive)
    · cases hdrive
  noDots := by
    intro segment hsegment hdots
    have hfixed : (unquote segment).splitOn '/' = [segment] := by
      rcases List.mem_cons.mp hdots with rfl | hdots
      · decide
      · rw [List.mem_singleton.mp hdots]
        decide
    refine h.noDots segment ?_ hdots
    rw [parts_unquote inert_slash]
    exact List.mem_flatMap.mpr ⟨segment, hsegment, by rw [hfixed]; exact List.mem_singleton_self _⟩

theorem Plain.of_unquote {text : List Char} (h : Plain (unquote text)) : Plain text where
  noBackslash hmem := h.noBackslash (mem_unquote_of_inert inert_backslash hmem)
  noControl c hmem := by
    by_contra hcontrol
    rw [Bool.not_eq_false] at hcontrol
    have hnone := h.noControl c (mem_unquote_of_inert (inert_control hcontrol) hmem)
    exact Bool.false_ne_true (hnone.symm.trans hcontrol)

theorem Relative.of_iterate : ∀ (n : Nat) {text : List Char}, Relative (unquote^[n] text) → Relative text := by
  intro n
  induction n with
  | zero => exact fun h => h
  | succ n ih =>
    intro text h
    rw [Function.iterate_succ_apply] at h
    exact (ih h).of_unquote

theorem Plain.of_iterate : ∀ (n : Nat) {text : List Char}, Plain (unquote^[n] text) → Plain text := by
  intro n
  induction n with
  | zero => exact fun h => h
  | succ n ih =>
    intro text h
    rw [Function.iterate_succ_apply] at h
    exact (ih h).of_unquote

/-! ## Accepted keys -/

/-- Components that are neither empty nor dots are kept. -/
theorem foldl_normpathStep : ∀ (components kept : List (List Char)),
    (∀ component ∈ components, component ∉ [[], ['.'], ['.', '.']]) →
    components.foldl (normpathStep 0) kept = kept ++ components := by
  intro components
  induction components with
  | nil => exact fun kept _ => (List.append_nil kept).symm
  | cons component components ih =>
    intro kept h
    rw [List.forall_mem_cons] at h
    obtain ⟨hcomponent, hrest⟩ := h
    have hplain : ¬ (component = [] ∨ component = ['.']) := by
      rintro (rfl | rfl) <;> exact hcomponent (by decide)
    have hup : component ≠ ['.', '.'] := by
      rintro rfl
      exact hcomponent (by decide)
    rw [List.foldl_cons, normpathStep, if_neg hplain, if_pos (.inl hup), ih _ hrest, List.append_assoc]
    rfl

/-- A relative path without empty and dot segments is in canonical form. -/
theorem normpath_of_segments {path : List Char} (hrelative : ¬ ['/'] <+: path)
    (hsegments : ∀ segment ∈ path.splitOn '/', segment ∉ [[], ['.'], ['.', '.']]) : normpath path = path := by
  have hne : path ≠ [] := by
    rintro rfl
    exact hsegments [] (by decide) (by decide)
  have htwo : ¬ (['/', '/'] <+: path ∧ ¬ ['/', '/', '/'] <+: path) := by
    rintro ⟨⟨rest, rfl⟩, -⟩
    exact hrelative ⟨'/' :: rest, rfl⟩
  unfold normpath
  dsimp only
  rw [if_neg hne, if_neg htwo, if_neg hrelative, foldl_normpathStep _ _ hsegments, List.nil_append,
    List.intercalate_splitOn, List.replicate_zero, List.nil_append, if_neg hne]

/-- What the port asks of a key. -/
structure Accepted (key : String) : Prop where
  nonempty : key ≠ ""
  short : key.length ≤ maxKeyLength
  noControl : ∀ c ∈ key.toList, isControl c = false
  relative : Relative (slashed (fullyDecode maxDecodeRounds key.toList))
  noMarker : ¬ ['~'] <+: slashed (fullyDecode maxDecodeRounds key.toList) ∧
    ¬ ['$'] <+: slashed (fullyDecode maxDecodeRounds key.toList)
  noEmpty : [] ∉ (slashed (fullyDecode maxDecodeRounds key.toList)).splitOn '/'

theorem validateObjectKey_eq_ok_iff {py : Runtime} {key key' : String} :
    validateObjectKey py key = .ok key' ↔ key' = key ∧ Accepted key := by
  unfold validateObjectKey
  simp only [Raise.bind_eq_ok, Raise.raiseIf_eq_ok, exists_const, Raise.pure_eq_ok]
  constructor
  · rintro ⟨hne, hshort, -, hcontrol, hrelative, hmarker, hsegments, -, rfl⟩
    have hfree : ∀ segment ∈ (slashed (fullyDecode maxDecodeRounds key.toList)).splitOn '/',
        segment ∉ [[], ['.'], ['.', '.']] := fun segment hmem hbad => hsegments ⟨segment, hmem, hbad⟩
    rw [not_or] at hrelative hmarker
    refine ⟨rfl, hne, not_lt.mp hshort, ?_, ⟨hrelative.1, Bool.not_eq_true _ ▸ hrelative.2, ?_⟩, hmarker, ?_⟩
    · intro c hc
      by_contra hbad
      exact hcontrol (List.any_eq_true.mpr ⟨c, hc, (Bool.not_eq_false _).mp hbad⟩)
    · exact fun segment hmem hdots => hfree segment hmem (List.mem_cons_of_mem _ hdots)
    · exact fun hempty => hfree [] hempty List.mem_cons_self
  · rintro ⟨rfl, h⟩
    have hfree : ∀ segment ∈ (slashed (fullyDecode maxDecodeRounds key'.toList)).splitOn '/',
        segment ∉ [[], ['.'], ['.', '.']] := by
      intro segment hmem hbad
      rcases List.mem_cons.mp hbad with rfl | hdots
      · exact h.noEmpty hmem
      · exact h.relative.noDots segment hmem hdots
    have hcontrol : ¬ key'.toList.any isControl = true := by
      intro hany
      obtain ⟨c, hc, hbad⟩ := List.any_eq_true.mp hany
      exact Bool.false_ne_true ((h.noControl c hc).symm.trans hbad)
    have hnul : ¬ Char.ofNat 0 ∈ key'.toList := fun hmem => Bool.false_ne_true (h.noControl _ hmem).symm
    refine ⟨h.nonempty, not_lt.mpr h.short, hnul, hcontrol, ?_, ?_, ?_, ?_, rfl⟩
    · rintro (hslash | hdrive)
      · exact h.relative.notAbsolute hslash
      · exact Bool.false_ne_true (h.relative.noDrive.symm.trans hdrive)
    · exact not_or.mpr h.noMarker
    · rintro ⟨segment, hmem, hbad⟩
      exact hfree segment hmem hbad
    · exact not_not.mpr (normpath_of_segments h.relative.notAbsolute hfree)

theorem slashed_of_noBackslash {text : List Char} (h : '\\' ∉ text) : slashed text = text := by
  unfold slashed
  conv_rhs => rw [← List.map_id text]
  apply List.map_congr_left
  intro c hc
  exact if_neg fun (heq : c = '\\') => h (heq ▸ hc)

/-- Every number of rounds leaves an accepted key safe if and only if the text that decoding comes to is plain,
and it is relative or six rounds come to it. -/
theorem decoded_safe_iff (py : Runtime) (key key' : String) (h : validateObjectKey py key = .ok key') :
    (∀ n, Relative (unquote^[n] key.toList) ∧ Plain (unquote^[n] key.toList)) ↔
      Plain (decodedFully key.toList) ∧ (decodedFully key.toList = fullyDecode maxDecodeRounds key.toList ∨
        Relative (decodedFully key.toList)) := by
  obtain ⟨rfl, accepted⟩ := validateObjectKey_eq_ok_iff.mp h
  constructor
  · intro hsafe
    obtain ⟨hrelative, hplain⟩ := hsafe key'.toList.length
    exact ⟨hplain, .inr hrelative⟩
  · rintro ⟨hplain, hreached⟩ n
    have hrelative : Relative (decodedFully key'.toList) := by
      rcases hreached with hsix | hrelative
      · -- the text that was checked, since there is no backslash to replace
        have hchecked := accepted.relative
        rw [← hsix, slashed_of_noBackslash hplain.noBackslash] at hchecked
        exact hchecked
      · exact hrelative
    rw [← iterate_decodedFully key'.toList n] at hrelative hplain
    exact ⟨hrelative.of_iterate, hplain.of_iterate⟩

/-- A runtime that agrees with Python on printable ASCII. -/
def sampleRuntime : Runtime where
  repr value := "'" ++ value ++ "'"
  normalize value := value
  isWord c := c.isAlphanum || c = '_'
  lowerText := String.toLower
  guessType filename := if ".pdf".toList <:+ filename.toList then some "application/pdf" else none

theorem decoded_safe_hero :
    (∀ n, Relative (unquote^[n] "products/1/hero.png".toList) ∧ Plain (unquote^[n] "products/1/hero.png".toList)) ↔
      Plain (decodedFully "products/1/hero.png".toList) ∧
        (decodedFully "products/1/hero.png".toList = fullyDecode maxDecodeRounds "products/1/hero.png".toList ∨
          Relative (decodedFully "products/1/hero.png".toList)) :=
  decoded_safe_iff sampleRuntime "products/1/hero.png" "products/1/hero.png" (by decide +kernel)

/-- A key that is encoded seven times is accepted, and the seventh round makes a dot segment of it. -/
theorem decoded_unsafe : ¬ ∀ (py : Runtime) (key key' : String), validateObjectKey py key = .ok key' →
    ∀ n, Relative (unquote^[n] key.toList) ∧ Plain (unquote^[n] key.toList) := by
  intro hclaim
  let key := "reports/%2525252525252e%2525252525252e/x"
  have haccepted : validateObjectKey sampleRuntime key = .ok key := by decide +kernel
  have hdecoded : unquote^[7] key.toList = "reports/../x".toList := by decide +kernel
  have hsafe := (hclaim sampleRuntime key key haccepted 7).1.noDots
  rw [hdecoded] at hsafe
  exact hsafe ['.', '.'] (by decide +kernel) (by decide)

end NovaCommerce.Storage
