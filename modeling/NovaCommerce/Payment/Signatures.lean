import NovaCommerce.Payment.Providers
import NovaCommerce.Lib.Digits

/-!
# What a signature accepts

* `signedMessage_inj` : behind a timestamp that reads as a number, the dot is the first one, so the signed message names the
  timestamp and the body;
* `verifySignatureAt_iff` : the verification answers, and accepts exactly the genuine callbacks, unless the timestamp has no float,
  the signature has a character beyond ASCII, or the difference lies less than a second beyond the window.
-/

namespace NovaCommerce

/-! ## The signed message -/

/-- A dot in the encoding of a character is the dot. -/
theorem mem_utf8EncodeChar_dot {c : Char} (h : (46 : UInt8) ∈ String.utf8EncodeChar c) : c = '.' := by
  have hbyte : c.val.toNat = 46 := by
    unfold String.utf8EncodeChar at h
    dsimp only at h
    split_ifs at h
    all_goals simp only [List.mem_cons, List.not_mem_nil, or_false, ← UInt8.toNat_inj, UInt8.toNat_ofNat', UInt8.reduceToNat] at h
    all_goals omega
  exact Char.ext (UInt32.toNat_inj.mp hbyte)

theorem dot_not_mem_utf8 {s : String} (h : '.' ∉ s.toList) : (46 : UInt8) ∉ utf8 s := by
  intro hmem
  obtain ⟨c, hc, hdot⟩ := List.mem_flatMap.mp hmem
  exact h (mem_utf8EncodeChar_dot hdot ▸ hc)

theorem utf8_injective : Function.Injective utf8 := by
  intro s t h
  apply String.toByteArray_inj.mp
  rw [← String.utf8Encode_toList, ← String.utf8Encode_toList]
  exact congrArg List.toByteArray h

/-- A number has no dot. -/
theorem dot_not_mem_of_readDigits {cs : List Char} {acc : Nat} {last : Bool} (h : (readDigits cs acc last).isSome = true) :
    '.' ∉ cs := by
  induction cs generalizing acc last with
  | nil => exact List.not_mem_nil
  | cons c cs ih =>
    have hdot : digitValue? '.' = none := by decide
    unfold readDigits at h
    rw [List.mem_cons, not_or]
    split at h
    next v hv =>
      refine ⟨?_, ih h⟩
      rintro rfl
      rw [hdot] at hv
      cases hv
    next =>
      split_ifs at h with hunderscore
      · refine ⟨?_, ih h⟩
        rw [hunderscore.1]
        decide
      · cases h

theorem mem_dropWhile_of_not {α : Type} {p : α → Bool} {a : α} {xs : List α} (ha : a ∈ xs) (hp : p a = false) :
    a ∈ xs.dropWhile p := by
  rw [← List.takeWhile_append_dropWhile (p := p) (l := xs), List.mem_append] at ha
  rcases ha with ha | ha
  · rw [List.mem_takeWhile_imp ha] at hp
    cases hp
  · exact ha

/-- A timestamp that reads as a number has no dot. -/
theorem dot_not_mem_of_pyInt {s : String} (h : (pyInt? s).isSome = true) : '.' ∉ s.toList := by
  intro hdot
  have hspace : isIntSpace '.' = false := by decide
  have hcore : '.' ∈ ((s.toList.dropWhile isIntSpace).reverse.dropWhile isIntSpace).reverse :=
    List.mem_reverse.mpr (mem_dropWhile_of_not (List.mem_reverse.mpr (mem_dropWhile_of_not hdot hspace)) hspace)
  unfold pyInt? at h
  dsimp only at h
  split_ifs at h
  · cases h
  split at h
  next cs hcs =>
    rw [hcs] at hcore
    rw [Option.isSome_map] at h
    exact dot_not_mem_of_readDigits h (List.mem_of_ne_of_mem (by decide) hcore)
  next cs hcs =>
    rw [hcs] at hcore
    rw [Option.isSome_map] at h
    exact dot_not_mem_of_readDigits h (List.mem_of_ne_of_mem (by decide) hcore)
  next =>
    rw [Option.isSome_map] at h
    exact dot_not_mem_of_readDigits h hcore

/-- A run of nines reads as a power of ten less one. -/
theorem readDigits_nines (n acc : Nat) (last : Bool) :
    readDigits (List.replicate (n + 1) '9') acc last = some (10 ^ (n + 1) * (acc + 1) - 1) := by
  have hdigit : digitValue? '9' = some 9 := by decide
  induction n generalizing acc last with
  | zero =>
    simp only [List.replicate, readDigits, hdigit, if_pos]
    congr 1
  | succ n ih =>
    rw [List.replicate_succ, readDigits, hdigit]
    dsimp only
    rw [ih, pow_succ 10 (n + 1)]
    congr 2
    ring

/-- A run of nines is not blank at either end. -/
theorem trim_nines {p : Char → Bool} (hp : p '9' = false) (n : Nat) :
    (((List.replicate n '9').dropWhile p).reverse.dropWhile p).reverse = List.replicate n '9' := by
  have hkept : (List.replicate n '9').dropWhile p = List.replicate n '9' := by
    rw [List.dropWhile_replicate, if_neg (by simp [hp])]
  rw [hkept, List.reverse_replicate, hkept, List.reverse_replicate]

theorem strip_nines (n : Nat) : strip (String.ofList (List.replicate n '9')) = String.ofList (List.replicate n '9') := by
  have hspace : isSpace '9' = false := by decide
  rw [strip, String.toList_ofList, trim_nines hspace]

/-- Up to the 4300 digits that `int` reads. -/
theorem pyInt_nines {n : Nat} (hn : n < 4300) :
    pyInt? (String.ofList (List.replicate (n + 1) '9')) = some (10 ^ (n + 1) - 1) := by
  have hspace : isIntSpace '9' = false := by decide
  have hkept : ¬ 4300 < ((List.replicate (n + 1) '9').filter fun c => (digitValue? c).isSome).length := by
    have hlength := List.length_filter_le (fun c => (digitValue? c).isSome) (List.replicate (n + 1) '9')
    rw [List.length_replicate] at hlength
    omega
  rw [pyInt?, String.toList_ofList, trim_nines hspace]
  rw [if_neg hkept]
  show (readDigits (List.replicate (n + 1) '9') 0 false).map Int.ofNat = _
  rw [readDigits_nines]
  have hpos : 0 < 10 ^ (n + 1) := by positivity
  simp [Nat.cast_sub hpos]

/-- The signed message names the timestamp and the body. -/
theorem signedMessage_inj {timestamp timestamp' : String} {body body' : List UInt8} (h : (pyInt? timestamp).isSome = true)
    (h' : (pyInt? timestamp').isSome = true) (heq : signedMessage timestamp body = signedMessage timestamp' body') :
    timestamp = timestamp' ∧ body = body' := by
  have hcut : ∀ (s : String) (b : List UInt8), signedMessage s b = utf8 s ++ 46 :: b := by
    intro s b
    have hdot : utf8 "." = [46] := by decide
    rw [signedMessage, utf8, String.toList_append, List.flatMap_append]
    show (utf8 s ++ utf8 ".") ++ b = utf8 s ++ 46 :: b
    rw [hdot, List.append_assoc, List.singleton_append]
  rw [hcut, hcut] at heq
  obtain ⟨htimestamp, hbody⟩ := Digits.cut_first (dot_not_mem_utf8 (dot_not_mem_of_pyInt h)) (dot_not_mem_utf8 (dot_not_mem_of_pyInt h')) heq
  exact ⟨utf8_injective htimestamp, hbody⟩

/-! ## The verification -/

namespace Deployment

variable (env : Deployment)

/-- What a callback has to be: complete, fresh, and signed with a configured secret. -/
def Genuine (secret : Option String) (maxSkewSeconds : Int) (headers : CallbackHeaders) (rawBody : List UInt8) (now : ℚ) : Prop :=
  ∃ s, secret = some s ∧ s ≠ "" ∧ ¬ headers.Incomplete ∧
    ∃ timestamp, pyInt? headers.timestamp = some timestamp ∧ |now - timestamp| ≤ maxSkewSeconds ∧ env.SignedWith s headers rawBody

/-- A timestamp and a signature the verification can judge: the timestamp has a float, and where it is not stale the signature is
ASCII and, if it is right, the difference does not exceed the window by a fraction of a second. -/
def Answerable (secret : Option String) (maxSkewSeconds : Int) (headers : CallbackHeaders) (rawBody : List UInt8) (now : ℚ) : Prop :=
  ∀ s timestamp, secret = some s → s ≠ "" → ¬ headers.Incomplete → pyInt? headers.timestamp = some timestamp →
    timestamp.natAbs < floatLimit ∧ (⌊|now - timestamp|⌋ ≤ maxSkewSeconds →
      isAscii (strip headers.signature) = true ∧ (env.SignedWith s headers rawBody → |now - timestamp| ≤ maxSkewSeconds))

variable {env} {secret : Option String} {maxSkewSeconds : Int} {headers : CallbackHeaders} {rawBody : List UInt8} {now : ℚ}

/-- A digest is compared, and answered, exactly when the received signature is ASCII. -/
theorem verifyDigest_iff (hhex : ∀ key message, isAscii (env.hmacHex key message) = true) (s : String) (P : Prop) :
    (∃ verdict, env.verifyDigest s headers rawBody = .ok verdict ∧ (verdict.valid = true ↔ P)) ↔
      isAscii (strip headers.signature) = true ∧ (env.SignedWith s headers rawBody ↔ P) := by
  have hexpected : isAscii (env.signBody s headers.timestamp rawBody) = true := hhex _ _
  unfold verifyDigest
  dsimp only
  by_cases hascii : isAscii (strip headers.signature) = true
  · rw [if_pos ⟨hexpected, hascii⟩]
    by_cases hsigned : env.signBody s headers.timestamp rawBody = strip headers.signature
    · rw [if_pos hsigned]
      simp [SignedWith, hsigned, hascii]
    · rw [if_neg hsigned]
      simp [SignedWith, hsigned, hascii]
  · rw [if_neg fun h => hascii h.2]
    simp [hascii]

/-- Where the verification refuses, it answers. -/
theorem answers_refusal {reason : String} {P : Prop} (hP : ¬ P) :
    ∃ verdict : SignatureVerdict, (Except.ok { valid := false, reason := reason } : Except AppError SignatureVerdict) = .ok verdict ∧
      (verdict.valid = true ↔ P) :=
  ⟨_, rfl, by simp [hP]⟩

/-- A number beyond every float is not answered, whatever the signature. -/
theorem verifySignatureAt_overflow {s : String} {maxSkewSeconds timestamp : Int} {headers : CallbackHeaders} {rawBody : List UInt8}
    {now : ℚ} (hsecret : s ≠ "") (hheaders : ¬ headers.Incomplete) (htimestamp : pyInt? headers.timestamp = some timestamp)
    (hfloat : floatLimit ≤ timestamp.natAbs) :
    env.verifySignatureAt (some s) maxSkewSeconds headers rawBody now =
      .error { kind := .overflow, message := "int too large to convert to float" } := by
  have hkept : (some s).filter (fun s => decide (s ≠ "")) = some s := by
    rw [Option.filter_some, if_pos (decide_eq_true hsecret)]
  rw [verifySignatureAt, hkept]
  dsimp only
  rw [if_neg hheaders, htimestamp]
  dsimp only
  rw [skewSeconds, if_pos hfloat]

/-- The verification answers and accepts exactly the genuine callbacks, if and only if the callback is answerable; and the signed
message of a timestamp that reads as a number names the timestamp and the body. -/
theorem verifySignatureAt_iff (hhex : ∀ key message, isAscii (env.hmacHex key message) = true) (secret : Option String)
    (maxSkewSeconds : Int) (headers : CallbackHeaders) (rawBody : List UInt8) (now : ℚ) :
    ((∃ verdict, env.verifySignatureAt secret maxSkewSeconds headers rawBody now = .ok verdict ∧
        (verdict.valid = true ↔ env.Genuine secret maxSkewSeconds headers rawBody now)) ↔
      env.Answerable secret maxSkewSeconds headers rawBody now) ∧
    ∀ timestamp timestamp' body body', (pyInt? timestamp).isSome = true → (pyInt? timestamp').isSome = true →
      signedMessage timestamp body = signedMessage timestamp' body' → timestamp = timestamp' ∧ body = body' := by
  refine ⟨?_, fun timestamp timestamp' body body' h h' heq => signedMessage_inj h h' heq⟩
  unfold verifySignatureAt
  cases hsecret : secret.filter fun s => decide (s ≠ "") with
  | none =>
    have hnone : ∀ s, secret = some s → s ≠ "" → False := by
      intro s hs hne
      rw [hs, Option.filter_some, if_pos (by simpa using hne)] at hsecret
      cases hsecret
    refine iff_of_true (answers_refusal ?_) fun s timestamp hs hne => absurd hne fun hne => hnone s hs hne
    rintro ⟨s, hs, hne, -⟩
    exact hnone s hs hne
  | some s =>
    obtain ⟨rfl, hne⟩ := Option.filter_eq_some_iff.mp hsecret
    have hne : s ≠ "" := by simpa using hne
    dsimp only
    by_cases hheaders : headers.Incomplete
    · rw [if_pos hheaders]
      refine iff_of_true (answers_refusal ?_) fun _ _ _ _ hcomplete => absurd hheaders hcomplete
      rintro ⟨-, -, -, hcomplete, -⟩
      exact hcomplete hheaders
    rw [if_neg hheaders]
    cases htimestamp : pyInt? headers.timestamp with
    | none =>
      refine iff_of_true (answers_refusal ?_) fun _ _ _ _ _ h => by rw [htimestamp] at h; cases h
      rintro ⟨-, -, -, -, timestamp, h, -⟩
      rw [htimestamp] at h
      cases h
    | some timestamp =>
      have hgenuine : env.Genuine (some s) maxSkewSeconds headers rawBody now ↔
          |now - timestamp| ≤ maxSkewSeconds ∧ env.SignedWith s headers rawBody := by
        simp [Genuine, hne, hheaders, htimestamp]
      have hanswerable : env.Answerable (some s) maxSkewSeconds headers rawBody now ↔
          timestamp.natAbs < floatLimit ∧ (⌊|now - timestamp|⌋ ≤ maxSkewSeconds →
            isAscii (strip headers.signature) = true ∧ (env.SignedWith s headers rawBody → |now - timestamp| ≤ maxSkewSeconds)) := by
        simp [Answerable, hne, hheaders, htimestamp]
      rw [hanswerable]
      dsimp only
      unfold skewSeconds
      by_cases hfloat : floatLimit ≤ timestamp.natAbs
      · rw [if_pos hfloat]
        simp [Nat.not_lt.mpr hfloat]
      rw [if_neg hfloat]
      dsimp only
      by_cases hstale : maxSkewSeconds < ⌊|now - timestamp|⌋
      · rw [if_pos hstale]
        refine iff_of_true (answers_refusal ?_) ⟨Nat.not_le.mp hfloat, fun h => absurd h (Int.not_le.mpr hstale)⟩
        rw [hgenuine]
        rintro ⟨hfresh, -⟩
        have hfloor : ((⌊|now - timestamp|⌋ : Int) : ℚ) ≤ maxSkewSeconds := (Int.floor_le _).trans hfresh
        exact absurd (Int.cast_le.mp hfloor) (Int.not_le.mpr hstale)
      rw [if_neg hstale, verifyDigest_iff hhex, hgenuine]
      have hfresh : ⌊|now - timestamp|⌋ ≤ maxSkewSeconds := Int.not_lt.mp hstale
      constructor
      · rintro ⟨hascii, hsigned⟩
        exact ⟨Nat.not_le.mp hfloat, fun _ => ⟨hascii, fun h => (hsigned.mp h).1⟩⟩
      · rintro ⟨-, h⟩
        obtain ⟨hascii, hwindow⟩ := h hfresh
        exact ⟨hascii, fun h => ⟨hwindow h, h⟩, fun h => h.2⟩

deriving instance DecidableEq for SignatureVerdict

/-- A deployment whose digest is that of `1790119867.{"event_id":"evt-1"}` under the shared secret. -/
def sampleSigner : Deployment where
  settings := {}
  upperText := id
  lowerText := id
  isAlnumChar := fun _ => false
  sha256Hex := id
  hmacHex := fun _ _ => "803cbbfc958ad77d008e1f2fdeb174610ddf410a827b2f25bec6244430533cd9"
  jsonLoads := fun _ => none

/-- A callback of the mock provider. -/
def sampleHeaders : CallbackHeaders where
  provider := "MOCK"
  eventId := "evt-1"
  timestamp := "1790119867"
  signature := "803cbbfc958ad77d008e1f2fdeb174610ddf410a827b2f25bec6244430533cd9"

def sampleBody : List UInt8 := utf8 "\x7b\"event_id\":\"evt-1\"\x7d"

theorem verifySignatureAt_sample :
    ∃ verdict, sampleSigner.verifySignatureAt (some "dev-mock-callback-secret") 300 sampleHeaders sampleBody 1790120000 = .ok verdict ∧
      (verdict.valid = true ↔ sampleSigner.Genuine (some "dev-mock-callback-secret") 300 sampleHeaders sampleBody 1790120000) := by
  have hhex : ∀ key message, isAscii (sampleSigner.hmacHex key message) = true := by
    intro key message
    show isAscii "803cbbfc958ad77d008e1f2fdeb174610ddf410a827b2f25bec6244430533cd9" = true
    decide
  refine (verifySignatureAt_iff hhex (some "dev-mock-callback-secret") 300 sampleHeaders sampleBody 1790120000).1.mpr ?_
  intro s timestamp _ _ _ htimestamp
  have hvalue : pyInt? sampleHeaders.timestamp = some 1790119867 := by decide +kernel
  rw [hvalue] at htimestamp
  cases htimestamp
  refine ⟨by decide +kernel, fun _ => ⟨by decide +kernel, fun _ => ?_⟩⟩
  norm_num [abs_of_nonneg]

/-- A signature beyond ASCII and a timestamp of 310 digits are not answered, and the right signature is accepted half a second after
the window. -/
theorem verifySignatureAt_raises :
    sampleSigner.verifySignatureAt (some "dev-mock-callback-secret") 300 { sampleHeaders with signature := "é" } sampleBody 1790120000 =
        .error { kind := .typeError, message := "comparing strings with non-ASCII characters is not supported" } ∧
      sampleSigner.verifySignatureAt (some "dev-mock-callback-secret") 300
        { sampleHeaders with timestamp := String.ofList (List.replicate 310 '9') } sampleBody 1790120000 =
        .error { kind := .overflow, message := "int too large to convert to float" } ∧
      sampleSigner.verifySignatureAt (some "dev-mock-callback-secret") 300 sampleHeaders sampleBody (1790120167 + 1 / 2) =
        .ok { valid := true, reason := "OK" } ∧
      ¬ sampleSigner.Genuine (some "dev-mock-callback-secret") 300 sampleHeaders sampleBody (1790120167 + 1 / 2) := by
  have hheaders : ¬ CallbackHeaders.Incomplete { sampleHeaders with timestamp := String.ofList (List.replicate 310 '9') } := by
    have hprovider : strip sampleHeaders.provider ≠ "" := by decide
    have hevent : strip sampleHeaders.eventId ≠ "" := by decide
    have hsignature : strip sampleHeaders.signature ≠ "" := by decide
    rintro (h | h | h | h)
    · exact hprovider h
    · exact hevent h
    · rw [strip_nines] at h
      have hlist := congrArg String.toList h
      rw [String.toList_ofList] at hlist
      cases hlist
    · exact hsignature h
  have hfloat : floatLimit ≤ ((10 : Int) ^ (309 + 1) - 1).natAbs := by decide +kernel
  have htimestamp := pyInt_nines (by decide : 309 < 4300)
  refine ⟨by decide +kernel, sampleSigner.verifySignatureAt_overflow (by decide) hheaders htimestamp hfloat, by decide +kernel, ?_⟩
  rintro ⟨s, -, -, -, timestamp, htimestamp, hfresh, -⟩
  have hvalue : pyInt? sampleHeaders.timestamp = some 1790119867 := by decide +kernel
  rw [hvalue] at htimestamp
  cases htimestamp
  norm_num [abs_of_nonneg] at hfresh

end Deployment

end NovaCommerce
