import NovaCommerce.Storage.Keys

/-!
# File names

`sanitise_filename` makes one segment of the name that a client gives, and `build_object_key` puts it under a
prefix.

* `cleanedName`, `sanitiseFilename`, `buildObjectKey` : the functions;
* `Segment` : one segment of at most the limit;
* `segment_iff` : the limit holds if and only if the extension is shorter than it;
* `filename_key_iff` : of which names the key is built.
-/

namespace NovaCommerce.Storage

open Percent

/-! ## Python texts -/

/-- `text.rpartition(sep)`: what is before and behind the last separator. -/
def rpartition (sep : Char) (text : List Char) : Option (List Char × List Char) :=
  match text.reverse.dropWhile (· ≠ sep) with
  | [] => none
  | _ :: before => some (before.reverse, (text.reverse.takeWhile (· ≠ sep)).reverse)

/-- `text[:stop]`, which counts from the end when `stop` is negative. -/
def sliceTo (stop : Int) (text : List Char) : List Char :=
  text.take (if 0 ≤ stop then stop else text.length + stop).toNat

/-- `text.strip(chars)`. -/
def stripChars (chars : List Char) (text : List Char) : List Char :=
  ((text.dropWhile (· ∈ chars)).reverse.dropWhile (· ∈ chars)).reverse

/-- `re.sub(r"_{2,}", "_", text)`. -/
def squeeze : List Char → List Char
  | c :: d :: rest => if c = '_' ∧ d = '_' then squeeze (d :: rest) else c :: squeeze (d :: rest)
  | text => text

/-! ## The functions -/

section

variable (py : Runtime)

/-- `[\w.\-]`. -/
def keeps (c : Char) : Bool := py.isWord c || decide (c = '.') || decide (c = '-')

/-- The name, before it is shortened. -/
def cleanedName (filename : String) : List Char :=
  let normalised := (strip (py.normalize filename)).toList
  let normalised := ((slashed normalised).splitOn '/').getLastD []
  let normalised := if windowsDrive normalised then normalised.drop 2 else normalised
  let normalised := stripChars ['.', ' '] normalised
  squeeze (normalised.map fun c => if keeps py c then c else '_')

/-- `sanitise_filename`. -/
def sanitiseFilename (filename : String) (fallback : String := "upload") : String :=
  let normalised := cleanedName py filename
  if normalised ∈ [[], ['.'], ['.', '.']] then fallback
  else
    let (stem, suffix) := (rpartition '.' normalised).getD (normalised, [])
    let stem := sliceTo (maxSegmentLength - suffix.length - 1) stem
    String.ofList (if suffix ≠ [] then stem ++ '.' :: suffix else stem)

/-- `owner_id`. -/
inductive OwnerId where
  | int (value : Int)
  | str (value : String)

/-- `str(owner_id)`. -/
def OwnerId.text : OwnerId → String
  | .int value => toString value
  | .str value => value

/-- `prefix.rstrip("/")`. -/
def rstripSlash (text : String) : String := String.ofList (text.toList.reverse.dropWhile (· = '/')).reverse

/-- The parts of a key under a prefix that is safe. -/
def keyParts (safePrefix filename : String) (ownerId : Option OwnerId) (unique : Option String) : List String :=
  let safeName := sanitiseFilename py filename
  let safeName := match unique with
    | some unique => if unique = "" then safeName else sanitiseFilename py unique "v" ++ "_" ++ safeName
    | none => safeName
  [safePrefix] ++ (ownerId.map OwnerId.text).toList ++ [safeName]

/-- `"/".join(parts)`. -/
def joined (parts : List String) : String := String.ofList (['/'].intercalate (parts.map String.toList))

/-- `build_object_key`. -/
def buildObjectKey (pre filename : String) (ownerId : Option OwnerId) (unique : Option String) :
    Except StorageError String := do
  let safePrefix ← if pre = "" then pure "objects" else validateObjectKey py (rstripSlash pre)
  validateObjectKey py (joined (keyParts py safePrefix filename ownerId unique))

end

/-! ## Segments -/

/-- A control character of any kind. -/
def ControlCharacter (c : Char) : Prop := c.toNat < 32 ∨ (127 ≤ c.toNat ∧ c.toNat < 160)

/-- `\w` is known where the control characters are: letters, digits and the underscore. -/
def Runtime.WordsKnown (py : Runtime) : Prop := ∀ c : Char, c.toNat < 160 → py.isWord c = (c.isAlphanum || c = '_')

/-- One segment of a path. -/
structure Segment (name : String) : Prop where
  nonempty : name ≠ ""
  short : name.length ≤ maxSegmentLength
  noDots : name ≠ "." ∧ name ≠ ".."
  noSeparator : '/' ∉ name.toList ∧ '\\' ∉ name.toList
  noControl : ∀ c ∈ name.toList, ¬ ControlCharacter c

/-- The characters that a cleaned name has. -/
def NameChar (py : Runtime) (c : Char) : Prop := keeps py c = true ∨ c = '_'

theorem NameChar.plain {py : Runtime} (hwords : py.WordsKnown) {c : Char} (h : NameChar py c) :
    c ≠ '/' ∧ c ≠ '\\' ∧ c ≠ '%' ∧ ¬ ControlCharacter c := by
  have hknown : c.toNat < 160 → c.isAlphanum = true ∨ c = '_' ∨ c = '.' ∨ c = '-' := by
    intro hlow
    rcases h with h | h
    · unfold keeps at h
      rw [hwords c hlow] at h
      simpa [or_assoc] using h
    · exact .inr (.inl h)
  refine ⟨?_, ?_, ?_, ?_⟩
  · rintro rfl
    exact absurd (hknown (by decide)) (by decide)
  · rintro rfl
    exact absurd (hknown (by decide)) (by decide)
  · rintro rfl
    exact absurd (hknown (by decide)) (by decide)
  · intro hcontrol
    have hlow : c.toNat < 160 := by
      rcases hcontrol with h | h <;> omega
    rcases hknown hlow with halnum | rfl | rfl | rfl
    · have hletter : 48 ≤ c.toNat ∧ c.toNat ≤ 122 := by
        simp only [Char.isAlphanum, Char.isAlpha, Char.isUpper, Char.isLower, Char.isDigit, Bool.or_eq_true,
          Bool.and_eq_true, decide_eq_true_eq, ge_iff_le, UInt32.le_iff_toNat_le] at halnum
        have hval : c.val.toNat = c.toNat := rfl
        have hbounds : '0'.val.toNat = 48 ∧ '9'.val.toNat = 57 ∧ 'A'.val.toNat = 65 ∧ 'Z'.val.toNat = 90 ∧
          'a'.val.toNat = 97 ∧ 'z'.val.toNat = 122 := by decide
        omega
      unfold ControlCharacter at hcontrol
      omega
    all_goals exact absurd hcontrol (by unfold ControlCharacter; decide)

theorem mem_of_mem_squeeze {c : Char} : ∀ {text : List Char}, c ∈ squeeze text → c ∈ text := by
  intro text
  induction text using squeeze.induct with
  | case1 c d rest hboth ih =>
    intro h
    rw [squeeze, if_pos hboth] at h
    exact List.mem_cons_of_mem _ (ih h)
  | case2 c d rest hnot ih =>
    intro h
    rw [squeeze, if_neg hnot] at h
    rcases List.mem_cons.mp h with rfl | h
    · exact List.mem_cons_self
    · exact List.mem_cons_of_mem _ (ih h)
  | case3 text hshort =>
    intro h
    unfold squeeze at h
    split at h
    · exact absurd rfl (hshort _ _ _)
    · exact h

theorem cleanedName_chars {py : Runtime} {filename : String} : ∀ c ∈ cleanedName py filename, NameChar py c := by
  intro c hc
  obtain ⟨d, -, rfl⟩ := List.mem_map.mp (mem_of_mem_squeeze hc)
  by_cases hkeeps : keeps py d = true
  · rw [if_pos hkeeps]
    exact .inl hkeeps
  · rw [if_neg hkeeps]
    exact .inr rfl

theorem rpartition_eq_some {sep : Char} {text stem suffix : List Char}
    (h : rpartition sep text = some (stem, suffix)) :
    text = stem ++ sep :: suffix ∧ sep ∉ suffix := by
  unfold rpartition at h
  split at h
  · cases h
  · rename_i d before hdrop
    obtain ⟨rfl, rfl⟩ := Prod.mk.inj (Option.some.inj h)
    have hd : d = sep := by
      have hhead := List.head?_dropWhile_not (· ≠ sep) text.reverse
      rw [hdrop] at hhead
      simpa using hhead
    subst hd
    constructor
    · have hsplit := List.takeWhile_append_dropWhile (p := (· ≠ d)) (l := text.reverse)
      rw [hdrop] at hsplit
      have hreverse := congrArg List.reverse hsplit
      rw [List.reverse_reverse, List.reverse_append, List.reverse_cons, List.append_assoc] at hreverse
      exact hreverse.symm
    · intro hmem
      have hkept := List.mem_takeWhile_imp (List.mem_reverse.mp hmem)
      simp at hkept

theorem rpartition_eq_none {sep : Char} {text : List Char} (h : rpartition sep text = none) : sep ∉ text := by
  unfold rpartition at h
  split at h
  · rename_i hdrop
    intro hmem
    have hall := List.dropWhile_eq_nil_iff.mp hdrop sep (List.mem_reverse.mpr hmem)
    simp at hall
  · cases h

theorem getLast?_squeeze (text : List Char) : (squeeze text).getLast? = text.getLast? := by
  induction text using squeeze.induct with
  | case1 c d rest hboth ih =>
    rw [squeeze, if_pos hboth, ih, List.getLast?_cons_cons]
  | case2 c d rest hnot ih =>
    rw [squeeze, if_neg hnot, List.getLast?_cons_cons, ← ih]
    cases hrest : squeeze (d :: rest) with
    | nil =>
      rw [hrest] at ih
      exact absurd (List.getLast?_eq_none_iff.mp ih.symm) (List.cons_ne_nil _ _)
    | cons e es => rw [List.getLast?_cons_cons]
  | case3 text hshort =>
    unfold squeeze
    split
    · exact absurd rfl (hshort _ _ _)
    · rfl

theorem getLast?_stripChars {chars text : List Char} {c : Char} (h : (stripChars chars text).getLast? = some c) :
    c ∉ chars := by
  unfold stripChars at h
  rw [List.getLast?_reverse] at h
  have hhead := List.head?_dropWhile_not (· ∈ chars) (text.dropWhile (· ∈ chars)).reverse
  rw [h] at hhead
  simpa using hhead

/-- The dots at the end were stripped. -/
theorem cleanedName_last (py : Runtime) (filename : String) : (cleanedName py filename).getLast? ≠ some '.' := by
  intro hlast
  unfold cleanedName at hlast
  dsimp only at hlast
  rw [getLast?_squeeze, List.getLast?_map] at hlast
  obtain ⟨c, hc, hdot⟩ := Option.map_eq_some_iff.mp hlast
  have hcdot : c = '.' := by
    split_ifs at hdot with hkeeps
    · exact hdot
    · exact absurd hdot (by decide)
  rw [hcdot] at hc
  exact getLast?_stripChars hc (by decide)

/-! ## What the function makes of a cleaned name -/

/-- The text behind the last dot. -/
def extension (name : List Char) : List Char := ((rpartition '.' name).map Prod.snd).getD []

/-- The fallback, the beginning of a name without a dot, or a stem that leaves room for its extension. -/
theorem sanitiseFilename_cases (py : Runtime) (filename fallback : String) :
    (extension (cleanedName py filename) = [] ∧ sanitiseFilename py filename fallback = fallback) ∨
      (extension (cleanedName py filename) = [] ∧ cleanedName py filename ≠ [] ∧ '.' ∉ cleanedName py filename ∧
        sanitiseFilename py filename fallback = String.ofList
          ((cleanedName py filename).take (maxSegmentLength - 1))) ∨
      ∃ stem suffix, cleanedName py filename = stem ++ '.' :: suffix ∧ '.' ∉ suffix ∧ suffix ≠ [] ∧
        extension (cleanedName py filename) = suffix ∧ sanitiseFilename py filename fallback =
          String.ofList (sliceTo (maxSegmentLength - suffix.length - 1) stem ++ '.' :: suffix) := by
  have hlast := cleanedName_last py filename
  unfold sanitiseFilename extension
  dsimp only
  generalize cleanedName py filename = name at hlast
  by_cases hbad : name ∈ [[], ['.'], ['.', '.']]
  · left
    rw [if_pos hbad]
    refine ⟨?_, rfl⟩
    have hempty : name = [] := by
      rcases List.mem_cons.mp hbad with h | h
      · exact h
      · rcases List.mem_cons.mp h with rfl | h
        · exact absurd rfl hlast
        · rw [List.mem_singleton.mp h] at hlast
          exact absurd rfl hlast
    rw [hempty]
    rfl
  · right
    rw [if_neg hbad]
    have hne : name ≠ [] := by
      rintro rfl
      exact hbad (by decide)
    cases hparts : rpartition '.' name with
    | none =>
      left
      exact ⟨rfl, hne, rpartition_eq_none hparts, by simp [sliceTo, maxSegmentLength]⟩
    | some parts =>
      right
      obtain ⟨stem, suffix⟩ := parts
      obtain ⟨heq, hnodot⟩ := rpartition_eq_some hparts
      have hsuffix : suffix ≠ [] := by
        rintro rfl
        rw [heq] at hlast
        exact hlast (by simp)
      refine ⟨stem, suffix, heq, hnodot, hsuffix, rfl, ?_⟩
      dsimp only [Option.getD_some]
      rw [if_pos hsuffix]

theorem sliceTo_subset {stop : Int} {text : List Char} {c : Char} (h : c ∈ sliceTo stop text) : c ∈ text :=
  List.mem_of_mem_take h

theorem length_sliceTo_le {stop : Int} (hstop : 0 ≤ stop) (text : List Char) :
    (sliceTo stop text).length ≤ stop.toNat := by
  unfold sliceTo
  rw [if_pos hstop]
  exact List.length_take_le _ _

/-- The characters of a sanitised name are those of a cleaned one, or of the fallback. -/
theorem sanitiseFilename_chars {py : Runtime} {filename fallback : String} (hfallback : ∀ c ∈ fallback.toList,
    NameChar py c) :
    ∀ c ∈ (sanitiseFilename py filename fallback).toList, NameChar py c := by
  intro c hc
  have hchars := @cleanedName_chars py filename
  rcases sanitiseFilename_cases py filename fallback with ⟨-, heq⟩ | ⟨-, -, -, heq⟩ | ⟨stem, suffix, hname, -,
    -, -, heq⟩
  · rw [heq] at hc
    exact hfallback c hc
  · rw [heq, String.toList_ofList] at hc
    exact hchars c (List.mem_of_mem_take hc)
  · rw [heq, String.toList_ofList] at hc
    refine hchars c ?_
    rw [hname]
    rcases List.mem_append.mp hc with h | h
    · exact List.mem_append_left _ (sliceTo_subset h)
    · exact List.mem_append_right _ h

/-- A sanitised name is neither empty nor dots. -/
theorem sanitiseFilename_noDots {py : Runtime} {filename fallback : String} (hfallback : fallback ∉ ["", ".", ".."]) :
    sanitiseFilename py filename fallback ∉ ["", ".", ".."] := by
  have hlists : ∀ text : List Char, text ∉ [[], ['.'], ['.', '.']] → String.ofList text ∉ ["", ".", ".."] := by
    intro text htext hmem
    have hmem' := List.mem_map_of_mem (f := String.toList) hmem
    rw [String.toList_ofList] at hmem'
    exact htext hmem'
  rcases sanitiseFilename_cases py filename fallback with
    ⟨-, heq⟩ | ⟨-, hne, hnodot, heq⟩ | ⟨stem, suffix, -, hnodot, hne, -, heq⟩
  · rw [heq]
    exact hfallback
  · rw [heq]
    refine hlists _ fun hmem => ?_
    rcases List.mem_cons.mp hmem with h | h
    · rcases List.take_eq_nil_iff.mp h with h | h
      · exact absurd h (by decide)
      · exact hne h
    · have hdot : '.' ∈ (cleanedName py filename).take (maxSegmentLength - 1) := by
        rcases List.mem_cons.mp h with h | h
        · rw [h]
          decide
        · rw [List.mem_singleton.mp h]
          decide
      exact hnodot (List.mem_of_mem_take hdot)
  · rw [heq]
    refine hlists _ fun hmem => ?_
    -- the last character is one of the extension
    have hlast : (sliceTo (maxSegmentLength - suffix.length - 1) stem ++ '.' :: suffix).getLast? ≠ some '.' := by
      obtain ⟨d, hd⟩ : ∃ d, suffix.getLast? = some d := ⟨_, List.getLast?_eq_some_getLast hne⟩
      have hmemd : d ∈ suffix := List.mem_of_getLast? hd
      rw [List.getLast?_append, List.getLast?_cons, hd]
      intro h
      cases h
      exact hnodot hmemd
    have hnil : sliceTo (maxSegmentLength - suffix.length - 1) stem ++ '.' :: suffix ≠ [] := by simp
    rcases List.mem_cons.mp hmem with h | h
    · exact hnil h
    · rcases List.mem_cons.mp h with h | h
      · exact hlast (h ▸ rfl)
      · exact hlast (List.mem_singleton.mp h ▸ rfl)

/-- A sanitised name is a segment if and only if its extension is shorter than the limit. -/
theorem segment_iff {py : Runtime} (hwords : py.WordsKnown) (filename : String) {fallback : String}
    (hfallback : Segment fallback)
    (hchars : ∀ c ∈ fallback.toList, NameChar py c) :
    Segment (sanitiseFilename py filename fallback) ↔
      (extension (cleanedName py filename)).length < maxSegmentLength := by
  have hplain : ∀ c ∈ (sanitiseFilename py filename fallback).toList, c ≠ '/' ∧ c ≠ '\\' ∧ c ≠ '%' ∧
    ¬ ControlCharacter c :=
    fun c hc => (sanitiseFilename_chars hchars c hc).plain hwords
  have hfallbackDots : fallback ∉ ["", ".", ".."] := by
    intro h
    rcases List.mem_cons.mp h with h | h
    · exact hfallback.nonempty h
    · rcases List.mem_cons.mp h with h | h
      · exact hfallback.noDots.1 h
      · exact hfallback.noDots.2 (List.mem_singleton.mp h)
  have hdots : sanitiseFilename py filename fallback ∉ ["", ".", ".."] := sanitiseFilename_noDots hfallbackDots
  have hrest : ∀ hshort : (sanitiseFilename py filename fallback).length ≤ maxSegmentLength,
      Segment (sanitiseFilename py filename fallback) := fun hshort => {
    nonempty := fun h => hdots (h ▸ by simp)
    short := hshort
    noDots := ⟨fun h => hdots (h ▸ by simp), fun h => hdots (h ▸ by simp)⟩
    noSeparator := ⟨fun h => (hplain _ h).1 rfl, fun h => (hplain _ h).2.1 rfl⟩
    noControl := fun c hc => (hplain c hc).2.2.2 }
  have hshort : (sanitiseFilename py filename fallback).length ≤ maxSegmentLength ↔
      (extension (cleanedName py filename)).length < maxSegmentLength := by
    rcases sanitiseFilename_cases py filename fallback with
      ⟨hext, heq⟩ | ⟨hext, -, -, heq⟩ | ⟨stem, suffix, -, -, -, hext, heq⟩
    · rw [heq, hext]
      exact iff_of_true hfallback.short (by decide)
    · rw [heq, hext, String.length_ofList]
      have htake := List.length_take_le (maxSegmentLength - 1) (cleanedName py filename)
      exact iff_of_true (htake.trans (Nat.sub_le _ _)) (by decide)
    · rw [heq, hext, String.length_ofList, List.length_append, List.length_cons]
      constructor
      · intro h
        omega
      · intro h
        have hslice := @length_sliceTo_le (maxSegmentLength - suffix.length - 1) (by omega) stem
        omega
  exact ⟨fun h => hshort.mp h.short, fun h => hrest (hshort.mpr h)⟩

/-! ## Keys -/

/-- A text that can stand as a segment of a key. -/
structure Name (text : List Char) : Prop where
  noDots : text ∉ [[], ['.'], ['.', '.']]
  plain : ∀ c ∈ text, c ≠ '/' ∧ c ≠ '\\' ∧ c ≠ '%' ∧ isControl c = false

/-- What the port asks of a key, but for its length. -/
structure Sound (key : List Char) : Prop where
  noControl : ∀ c ∈ key, isControl c = false
  relative : Relative (slashed (unquote^[maxDecodeRounds] key))
  noMarker : ¬ ['~'] <+: slashed (unquote^[maxDecodeRounds] key) ∧ ¬ ['$'] <+: slashed (unquote^[maxDecodeRounds] key)
  noEmpty : [] ∉ (slashed (unquote^[maxDecodeRounds] key)).splitOn '/'

theorem accepted_iff {key : String} : Accepted key ↔ Sound key.toList ∧ key.length ≤ maxKeyLength := by
  constructor
  · intro h
    obtain ⟨-, hshort, hcontrol, hrelative, hmarker, hempty⟩ := h
    rw [fullyDecode_eq] at hrelative hmarker hempty
    exact ⟨⟨hcontrol, hrelative, hmarker, hempty⟩, hshort⟩
  · rintro ⟨⟨hcontrol, hrelative, hmarker, hempty⟩, hshort⟩
    rw [← fullyDecode_eq] at hrelative hmarker hempty
    refine ⟨?_, hshort, hcontrol, hrelative, hmarker, hempty⟩
    rintro rfl
    exact hempty (by decide +kernel)

theorem windowsDrive_append {before after : List Char} (hne : before ≠ []) :
    windowsDrive (before ++ '/' :: after) = windowsDrive before := by
  match before with
  | [] => exact absurd rfl hne
  | [_] => rfl
  | c :: d :: rest =>
    by_cases hd : d = ':'
    · subst hd
      rfl
    · have hnone : ∀ tail, windowsDrive (c :: d :: tail) = false := by
        intro tail
        unfold windowsDrive
        split
        · rename_i heq
          obtain ⟨-, htail⟩ := List.cons.inj heq
          exact absurd (List.cons.inj htail).1 hd
        · rfl
      rw [hnone]
      exact hnone _

theorem prefix_append_iff {c : Char} {before after : List Char} (hne : before ≠ []) :
    [c] <+: before ++ after ↔ [c] <+: before := by
  cases before with
  | nil => exact absurd rfl hne
  | cons d rest => simp [List.cons_prefix_cons]

/-- A name behind a sound key makes a sound key. -/
theorem Sound.append {key name : List Char} (h : Sound key) (hname : Name name) : Sound (key ++ '/' :: name) := by
  have hpercent : '%' ∉ name := fun hmem => (hname.plain _ hmem).2.2.1 rfl
  have hdecoded : unquote^[maxDecodeRounds] (key ++ '/' :: name) = unquote^[maxDecodeRounds] key ++ '/' :: name := by
    rw [iterate_unquote_append_cons inert_slash, Function.iterate_fixed (unquote_of_no_percent hpercent)]
  have hslashed : slashed (unquote^[maxDecodeRounds] key ++ '/' :: name) =
      slashed (unquote^[maxDecodeRounds] key) ++ '/' :: name := by
    have hsame : slashed name = name := slashed_of_noBackslash fun hmem => (hname.plain _ hmem).2.1 rfl
    unfold slashed at hsame ⊢
    rw [List.map_append, List.map_cons, hsame]
    rfl
  have hne : slashed (unquote^[maxDecodeRounds] key) ≠ [] := by
    intro hnil
    have hempty := h.noEmpty
    rw [hnil] at hempty
    exact hempty (by decide)
  have hparts : (slashed (unquote^[maxDecodeRounds] key) ++ '/' :: name).splitOn '/' =
      (slashed (unquote^[maxDecodeRounds] key)).splitOn '/' ++ [name] := by
    rw [List.splitOn_append_cons_self, List.splitOn_eq_singleton fun hmem => (hname.plain _ hmem).1 rfl]
  refine ⟨?_, ⟨?_, ?_, ?_⟩, ?_, ?_⟩
  · intro c hc
    rcases List.mem_append.mp hc with hc | hc
    · exact h.noControl c hc
    · rcases List.mem_cons.mp hc with rfl | hc
      · decide
      · exact (hname.plain c hc).2.2.2
  · rw [hdecoded, hslashed, prefix_append_iff hne]
    exact h.relative.notAbsolute
  · rw [hdecoded, hslashed, windowsDrive_append hne]
    exact h.relative.noDrive
  · rw [hdecoded, hslashed, hparts]
    intro segment hmem
    rcases List.mem_append.mp hmem with hmem | hmem
    · exact h.relative.noDots segment hmem
    · rw [List.mem_singleton.mp hmem]
      exact fun hdots => hname.noDots (List.mem_cons_of_mem _ hdots)
  · rw [hdecoded, hslashed, prefix_append_iff hne, prefix_append_iff hne]
    exact h.noMarker
  · rw [hdecoded, hslashed, hparts]
    intro hmem
    rcases List.mem_append.mp hmem with hmem | hmem
    · exact h.noEmpty hmem
    · rw [← List.mem_singleton.mp hmem] at hname
      exact hname.noDots List.mem_cons_self

theorem nameChars_name {py : Runtime} (hwords : py.WordsKnown) {text : List Char}
    (hdots : text ∉ [[], ['.'], ['.', '.']])
    (hchars : ∀ c ∈ text, NameChar py c) : Name text where
  noDots := hdots
  plain c hc := by
    obtain ⟨hslash, hbackslash, hpercent, hcontrol⟩ := (hchars c hc).plain hwords
    refine ⟨hslash, hbackslash, hpercent, ?_⟩
    by_contra hbad
    rw [Bool.not_eq_false] at hbad
    have hlow : c.toNat < 32 ∨ c.toNat = 127 := of_decide_eq_true hbad
    unfold ControlCharacter at hcontrol
    omega

theorem toString_name (n : Nat) : Name (toString n).toList := by
  rw [Digits.toList_toString]
  have hdigit : ∀ c ∈ Digits.decimal n, c.isDigit = true :=
    fun c hc => Nat.isDigit_of_mem_toDigits (by decide) (by decide) hc
  have hdot : '.' ∉ Digits.decimal n := fun h => absurd (hdigit _ h) (by decide)
  refine ⟨?_, fun c hc => ?_⟩
  · intro h
    rcases List.mem_cons.mp h with h | h
    · exact absurd h (List.ne_nil_of_length_pos Nat.length_toDigits_pos)
    · rcases List.mem_cons.mp h with h | h
      · exact hdot (h ▸ by decide)
      · exact hdot (List.mem_singleton.mp h ▸ by decide)
  · have hc' := hdigit c hc
    refine ⟨?_, ?_, ?_, ?_⟩
    · rintro rfl
      exact absurd hc' (by decide)
    · rintro rfl
      exact absurd hc' (by decide)
    · rintro rfl
      exact absurd hc' (by decide)
    · simp only [Char.isDigit, Bool.and_eq_true, decide_eq_true_eq, ge_iff_le, UInt32.le_iff_toNat_le] at hc'
      have hbounds : '0'.val.toNat = 48 ∧ '9'.val.toNat = 57 := by decide
      have hval : c.val.toNat = c.toNat := rfl
      exact decide_eq_false (by omega)

theorem OwnerId.int_name (value : Int) : Name (OwnerId.int value).text.toList := by
  cases value with
  | ofNat n => exact toString_name n
  | negSucc n =>
    have hdigits := toString_name (n + 1)
    have htext : (OwnerId.int (.negSucc n)).text.toList = '-' :: (toString (n + 1)).toList := by
      have hsign : (OwnerId.int (.negSucc n)).text = "-" ++ toString (n + 1) := rfl
      rw [hsign, String.toList_append]
      rfl
    rw [htext]
    refine ⟨?_, fun c hc => ?_⟩
    · simp
    · rcases List.mem_cons.mp hc with rfl | hc
      · decide
      · exact hdigits.plain c hc

/-- The last part of a key: the name, behind what makes it unique. -/
def safeName (py : Runtime) (filename : String) (unique : Option String) : String :=
  match unique with
  | some unique =>
    if unique = "" then sanitiseFilename py filename
    else sanitiseFilename py unique "v" ++ "_" ++ sanitiseFilename py filename
  | none => sanitiseFilename py filename

theorem keyParts_eq (py : Runtime) (safePrefix filename : String) (ownerId : Option OwnerId)
    (unique : Option String) :
    keyParts py safePrefix filename ownerId unique =
      [safePrefix] ++ (ownerId.map OwnerId.text).toList ++ [safeName py filename unique] := rfl

theorem upload_chars (py : Runtime) (hwords : py.WordsKnown) : ∀ c ∈ "upload".toList, NameChar py c := by
  intro c hc
  have hknown : c.toNat < 160 ∧ c.isAlphanum = true := by
    have hall : ∀ c ∈ "upload".toList, c.toNat < 160 ∧ c.isAlphanum = true := by simp
    exact hall c hc
  left
  unfold keeps
  rw [hwords c hknown.1, hknown.2]
  rfl

theorem v_chars (py : Runtime) (hwords : py.WordsKnown) : ∀ c ∈ "v".toList, NameChar py c := by
  intro c hc
  have hv : c = 'v' := by simpa using hc
  left
  unfold keeps
  rw [hv, hwords 'v' (by decide)]
  rfl

theorem safeName_name {py : Runtime} (hwords : py.WordsKnown) (filename : String) (unique : Option String) :
    Name (safeName py filename unique).toList := by
  have hdots : ∀ {text : String}, text ∉ ["", ".", ".."] → text.toList ∉ [[], ['.'], ['.', '.']] := by
    intro text h hmem
    refine h ?_
    have hmem' := List.mem_map_of_mem (f := String.ofList) hmem
    rw [String.ofList_toList] at hmem'
    exact hmem'
  have hplain : Name (sanitiseFilename py filename).toList :=
    nameChars_name hwords (hdots (sanitiseFilename_noDots (by decide)))
      (sanitiseFilename_chars (upload_chars py hwords))
  cases unique with
  | none => exact hplain
  | some unique =>
    unfold safeName
    dsimp only
    split_ifs with hempty
    · exact hplain
    · have htext : (sanitiseFilename py unique "v" ++ "_" ++ sanitiseFilename py filename).toList =
          (sanitiseFilename py unique "v").toList ++ '_' :: (sanitiseFilename py filename).toList := by
        rw [String.toList_append, String.toList_append, List.append_assoc]
        rfl
      rw [htext]
      refine nameChars_name hwords ?_ fun c hc => ?_
      · intro hmem
        have hlow : '_' ∈ (sanitiseFilename py unique "v").toList ++
          '_' :: (sanitiseFilename py filename).toList := by simp
        rcases List.mem_cons.mp hmem with h | h
        · exact absurd (h ▸ hlow) (by decide)
        · rcases List.mem_cons.mp h with h | h
          · exact absurd (h ▸ hlow) (by decide)
          · exact absurd (List.mem_singleton.mp h ▸ hlow) (by decide)
      · rcases List.mem_append.mp hc with hc | hc
        · exact sanitiseFilename_chars (v_chars py hwords) c hc
        · rcases List.mem_cons.mp hc with rfl | hc
          · exact .inr rfl
          · exact sanitiseFilename_chars (upload_chars py hwords) c hc

/-- The prefix that a key is built under. -/
def prefixOf (pre : String) : String := if pre = "" then "objects" else rstripSlash pre

/-- A key is the prefix, the owner and the name. -/
theorem joined_sound {py : Runtime} (hwords : py.WordsKnown) {safePrefix filename : String} {ownerId : Option OwnerId}
    {unique : Option String} (hleading : Sound safePrefix.toList) (howner : ∀ text, ownerId = some (.str text) →
      Name text.toList) :
    Sound (joined (keyParts py safePrefix filename ownerId unique)).toList ∧
      safePrefix.toList ++ ['/'] <+: (joined (keyParts py safePrefix filename ownerId unique)).toList := by
  have hname := safeName_name hwords filename unique
  rw [keyParts_eq]
  unfold joined
  rw [String.toList_ofList]
  cases ownerId with
  | none =>
    have hkey : ['/'].intercalate
      (([safePrefix] ++ (Option.map OwnerId.text none).toList ++ [safeName py filename unique]).map
        String.toList) = safePrefix.toList ++ '/' :: (safeName py filename unique).toList := by simp
    rw [hkey]
    exact ⟨hleading.append hname, ⟨(safeName py filename unique).toList, by simp⟩⟩
  | some ownerId =>
    have hkey : ['/'].intercalate (([safePrefix] ++ (Option.map OwnerId.text (some ownerId)).toList ++
        [safeName py filename unique]).map String.toList) =
          (safePrefix.toList ++ '/' :: ownerId.text.toList) ++ '/' :: (safeName py filename unique).toList := by simp
    have hid : Name ownerId.text.toList := by
      cases ownerId with
      | int value => exact OwnerId.int_name value
      | str text => exact howner text rfl
    rw [hkey]
    exact ⟨(hleading.append hid).append hname, ⟨ownerId.text.toList ++ '/' :: (safeName py filename unique).toList,
      by simp⟩⟩

/-- For a prefix that the port accepts and an owner that is a name: the name of a client's file is a segment and
its key is built, under the prefix, as one that the port accepts, if and only if the extension is shorter than a
segment and the key is no longer than a key. -/
theorem filename_key_iff (py : Runtime) (hwords : py.WordsKnown) (pre filename : String) (ownerId : Option OwnerId)
    (unique : Option String) (hleading : pre = "" ∨ ∃ key, validateObjectKey py (rstripSlash pre) = .ok key)
    (howner : ∀ text, ownerId = some (.str text) → Name text.toList) :
    (Segment (sanitiseFilename py filename) ∧ ∃ key, buildObjectKey py pre filename ownerId unique = .ok key ∧
        (prefixOf pre).toList ++ ['/'] <+: key.toList ∧ validateObjectKey py key = .ok key) ↔
      (extension (cleanedName py filename)).length < maxSegmentLength ∧
        (joined (keyParts py (prefixOf pre) filename ownerId unique)).length ≤ maxKeyLength := by
  have hupload : Segment "upload" := by
    refine ⟨by decide, by decide, by decide, by simp, ?_⟩
    unfold ControlCharacter
    simp
  rw [segment_iff hwords filename hupload (upload_chars py hwords)]
  refine and_congr_right fun _ => ?_
  have hsound : Sound (prefixOf pre).toList ∧ buildObjectKey py pre filename ownerId unique =
      validateObjectKey py (joined (keyParts py (prefixOf pre) filename ownerId unique)) := by
    unfold prefixOf buildObjectKey
    by_cases hempty : pre = ""
    · rw [if_pos hempty, if_pos hempty]
      have haccepted : validateObjectKey sampleRuntime "objects" = .ok "objects" := by decide +kernel
      exact ⟨(accepted_iff.mp (validateObjectKey_eq_ok_iff.mp haccepted).2).1, rfl⟩
    · obtain ⟨key, hkey⟩ := hleading.resolve_left hempty
      obtain ⟨rfl, haccepted⟩ := validateObjectKey_eq_ok_iff.mp hkey
      rw [if_neg hempty, if_neg hempty, hkey]
      exact ⟨(accepted_iff.mp haccepted).1, rfl⟩
  obtain ⟨hsound, hbuild⟩ := hsound
  obtain ⟨hjoined, hunder⟩ := @joined_sound py hwords _ filename ownerId unique hsound howner
  rw [hbuild]
  constructor
  · rintro ⟨key, hkey, -, -⟩
    exact (accepted_iff.mp (validateObjectKey_eq_ok_iff.mp hkey).2).2
  · intro hlength
    have hkey := (@validateObjectKey_eq_ok_iff py _ _).mpr ⟨rfl, accepted_iff.mpr ⟨hjoined, hlength⟩⟩
    exact ⟨_, hkey, hunder, hkey⟩

theorem sampleRuntime_wordsKnown : sampleRuntime.WordsKnown := fun _ _ => rfl

theorem filename_key_passwd :
    (Segment (sanitiseFilename sampleRuntime "../../etc/passwd") ∧
        ∃ key, buildObjectKey sampleRuntime "products/" "../../etc/passwd" (some (.int 7)) (some "abc") = .ok key ∧
          (prefixOf "products/").toList ++ ['/'] <+: key.toList ∧ validateObjectKey sampleRuntime key = .ok key) ↔
      (extension (cleanedName sampleRuntime "../../etc/passwd")).length < maxSegmentLength ∧
        (joined (keyParts sampleRuntime (prefixOf "products/") "../../etc/passwd" (some (.int 7))
          (some "abc"))).length ≤
          maxKeyLength :=
  filename_key_iff sampleRuntime sampleRuntime_wordsKnown "products/" "../../etc/passwd" (some (.int 7)) (some "abc")
    (.inr ⟨"products", by decide +kernel⟩) (fun _ h => nomatch h)

theorem dropWhile_of_head {p : Char → Bool} {text : List Char} (h : ∀ c, text.head? = some c → p c = false) :
    text.dropWhile p = text := by
  cases text with
  | nil => rfl
  | cons c text => rw [List.dropWhile_cons, h c rfl, if_neg Bool.false_ne_true]

/-- A name that holds nothing to replace, and no dots at its ends, is clean. -/
theorem cleanedName_of_kept {py : Runtime} {name : List Char} (hnormal : py.normalize (String.ofList name) =
    String.ofList name)
    (hkept : ∀ c ∈ name, keeps py c = true ∧ isSpace c = false ∧ c ∉ ['/', '\\', ' ', ':', '_'])
    (hdots : name.head? ≠ some '.' ∧ name.getLast? ≠ some '.') : cleanedName py (String.ofList name) = name := by
  have hnotMem : ∀ d ∈ ['/', '\\', ' ', ':', '_'], d ∉ name := fun d hd hmem => (hkept d hmem).2.2 hd
  have hreverse : ∀ c, name.reverse.head? = some c → c ∈ name := fun c hc =>
    List.mem_reverse.mp (List.mem_of_mem_head? hc)
  have hstrip : (strip (String.ofList name)).toList = name := by
    unfold strip
    rw [String.toList_ofList, String.toList_ofList, dropWhile_of_head fun c hc =>
      (hkept c (List.mem_of_mem_head? hc)).2.1,
      dropWhile_of_head fun c hc => (hkept c (hreverse c hc)).2.1, List.reverse_reverse]
  have hdrive : windowsDrive name = false := by
    unfold windowsDrive
    split
    · exact absurd (by simp) (hnotMem ':' (by decide))
    · rfl
  have hends : stripChars ['.', ' '] name = name := by
    have hcharacter : ∀ c ∈ name, c ≠ '.' → decide (c ∈ ['.', ' ']) = false := by
      intro c hc hdot
      refine decide_eq_false fun hmem => ?_
      rcases List.mem_cons.mp hmem with h | h
      · exact hdot h
      · exact hnotMem ' ' (by decide) (List.mem_singleton.mp h ▸ hc)
    unfold stripChars
    rw [dropWhile_of_head fun c hc => hcharacter c (List.mem_of_mem_head? hc) fun h => hdots.1 (h ▸ hc),
      dropWhile_of_head fun c hc => hcharacter c (hreverse c hc) fun h => hdots.2 (by
        rw [← h, ← hc, List.head?_reverse]), List.reverse_reverse]
  have hmap : (name.map fun c => if keeps py c then c else '_') = name := by
    conv_rhs => rw [← List.map_id name]
    apply List.map_congr_left
    intro c hc
    exact if_pos (hkept c hc).1
  have hsqueeze : ∀ text : List Char, '_' ∉ text → squeeze text = text := by
    intro text
    induction text using squeeze.induct with
    | case1 c d rest hboth ih =>
      intro hnone
      exact absurd (hboth.1 ▸ List.mem_cons_self) hnone
    | case2 c d rest hnot ih =>
      intro hnone
      rw [squeeze, if_neg hnot, ih fun h => hnone (List.mem_cons_of_mem _ h)]
    | case3 text hshort =>
      intro _
      unfold squeeze
      split
      · exact absurd rfl (hshort _ _ _)
      · rfl
  unfold cleanedName
  dsimp only
  rw [hnormal, hstrip, slashed_of_noBackslash (hnotMem '\\' (by decide)),
    List.splitOn_eq_singleton (hnotMem '/' (by decide))]
  show squeeze ((stripChars ['.', ' '] (if windowsDrive name = true then name.drop 2 else name)).map _) = name
  rw [hdrive, if_neg Bool.false_ne_true, hends, hmap, hsqueeze name (hnotMem '_' (by decide))]

/-- A file name with an extension of this length. -/
def longExtension (length : Nat) : String := String.ofList (['x'] ++ '.' :: List.replicate length 'b')

theorem extension_of_cut {stem suffix : List Char} (h : '.' ∉ suffix) : extension (stem ++ '.' :: suffix) =
    suffix := by
  unfold extension
  cases hparts : rpartition '.' (stem ++ '.' :: suffix) with
  | none => exact absurd (by simp) (rpartition_eq_none hparts)
  | some parts =>
    obtain ⟨stem', suffix'⟩ := parts
    obtain ⟨heq, hnodot⟩ := rpartition_eq_some hparts
    exact (Digits.cut_last h hnodot heq).2.symm

theorem length_longExtension {length : Nat} (hlength : 0 < length) :
    length ≤ (sanitiseFilename sampleRuntime (longExtension length)).length := by
  have hne : List.replicate length 'b' ≠ [] := by simp; omega
  have hnodot : '.' ∉ List.replicate length 'b' := fun h => absurd (List.eq_of_mem_replicate h) (by decide)
  have hlast : (['x'] ++ '.' :: List.replicate length 'b').getLast? ≠ some '.' := by
    rw [List.getLast?_append_cons, List.getLast?_cons, List.getLast?_eq_some_getLast hne, List.getLast_replicate]
    decide
  have hkept : ∀ c ∈ ['x'] ++ '.' :: List.replicate length 'b',
      keeps sampleRuntime c = true ∧ isSpace c = false ∧ c ∉ ['/', '\\', ' ', ':', '_'] := by
    intro c hc
    have hletter : c = 'x' ∨ c = '.' ∨ c = 'b' := by
      rw [List.mem_append, List.mem_singleton, List.mem_cons, List.mem_replicate] at hc
      tauto
    rcases hletter with rfl | rfl | rfl <;> decide
  have hfirst : (['x'] ++ '.' :: List.replicate length 'b').head? ≠ some '.' := by
    intro h
    exact absurd (Option.some.inj h) (by decide)
  have hcleaned : cleanedName sampleRuntime (longExtension length) = ['x'] ++ '.' :: List.replicate length 'b' :=
    cleanedName_of_kept rfl hkept ⟨hfirst, hlast⟩
  have hextension := @extension_of_cut ['x'] _ hnodot
  rw [← hcleaned] at hextension
  rcases sanitiseFilename_cases sampleRuntime (longExtension length) "upload" with
    ⟨hnone, -⟩ | ⟨hnone, -⟩ | ⟨stem, suffix, -, -, -, hsuffix, heq⟩
  · exact absurd (hextension.symm.trans hnone) hne
  · exact absurd (hextension.symm.trans hnone) hne
  · rw [heq, ← hsuffix, hextension, String.length_ofList, List.length_append, List.length_cons, List.length_replicate]
    omega

theorem length_lt_of_built {py : Runtime} {filename key : String} (h : buildObjectKey py "" filename none none =
    .ok key) :
    (sanitiseFilename py filename).length < maxKeyLength := by
  have hbuilt : validateObjectKey py (joined (keyParts py "objects" filename none none)) = .ok key := by
    unfold buildObjectKey at h
    rw [if_pos rfl, pure_bind] at h
    exact h
  have hparts : keyParts py "objects" filename none none = ["objects", sanitiseFilename py filename] := rfl
  rw [hparts] at hbuilt
  have hshort := (validateObjectKey_eq_ok_iff.mp hbuilt).2.short
  have htext : ['/'].intercalate (["objects", sanitiseFilename py filename].map String.toList) =
      "objects".toList ++ '/' :: (sanitiseFilename py filename).toList := by simp
  unfold joined at hshort
  rw [String.length_ofList, htext, List.length_append, List.length_cons, String.length_toList,
    String.length_toList] at hshort
  omega

/-- An extension as long as a segment is kept whole, and a longer one leaves no room in the key. -/
theorem filename_too_long :
    (¬ ∀ (py : Runtime) (filename : String), py.WordsKnown → Segment (sanitiseFilename py filename)) ∧
      ¬ ∀ (py : Runtime) (filename : String), py.WordsKnown → ∃ key, buildObjectKey py "" filename none none =
        .ok key := by
  have hlength : 600 ≤ (sanitiseFilename sampleRuntime (longExtension 600)).length := length_longExtension (by decide)
  constructor
  · intro hclaim
    have hshort := (hclaim sampleRuntime (longExtension 600) sampleRuntime_wordsKnown).short
    exact absurd (hlength.trans hshort) (by decide)
  · intro hclaim
    obtain ⟨key, hkey⟩ := hclaim sampleRuntime (longExtension 600) sampleRuntime_wordsKnown
    have hroom := length_lt_of_built hkey
    have hmax : maxKeyLength = 512 := rfl
    omega

end NovaCommerce.Storage
