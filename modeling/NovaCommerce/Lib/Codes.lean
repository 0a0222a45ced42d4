import NovaCommerce.Lib.Digits

/-!
# Codes that can be cut off a text

A value is written down in front of a rest. `Cuts` says that both can be told from the whole, provided the rest does not begin with
what could still belong to the code.

* `Cuts.of_read` : it is enough to read back what was written;
* `Cuts.seq`, `Cuts.closed`, `Cuts.joined` : one code after the other, until a closing mark, with separators;
* `cuts_decimal` : a decimal, in front of anything but a digit.
-/

namespace Codes

variable {χ α β : Type} {Stop Stop' : List χ → Prop}

/-- A code in front of a rest that satisfies `Stop` tells its value and the rest. -/
def Cuts (Stop : List χ → Prop) (code : α → List χ) : Prop :=
  ∀ ⦃a b : α⦄ ⦃s t : List χ⦄, Stop s → Stop t → code a ++ s = code b ++ t → a = b ∧ s = t

/-- Nothing is asked of the rest. -/
abbrev Always (_ : List χ) : Prop := True

theorem Cuts.mono {code : α → List χ} (h : Cuts Stop code) (himp : ∀ s, Stop' s → Stop s) : Cuts Stop' code :=
  fun _ _ s t hs ht heq => h (himp s hs) (himp t ht) heq

/-- What is written can be read back. -/
theorem Cuts.of_read {code : α → List χ} (read : List χ → Option (α × List χ))
    (h : ∀ a s, Stop s → read (code a ++ s) = some (a, s)) : Cuts Stop code := by
  intro a b s t hs ht heq
  have hread : some (a, s) = some (b, t) := by rw [← h a s hs, ← h b t ht, heq]
  have hpair := Option.some.inj hread
  exact ⟨congrArg Prod.fst hpair, congrArg Prod.snd hpair⟩

/-- One code after the other. -/
theorem Cuts.seq {code : α → List χ} {code' : β → List χ} (h : Cuts Stop code) (h' : Cuts Stop' code')
    (hstop : ∀ b s, Stop' s → Stop (code' b ++ s)) : Cuts Stop' fun p : α × β => code p.1 ++ code' p.2 := by
  rintro ⟨a, b⟩ ⟨a', b'⟩ s t hs ht heq
  rw [List.append_assoc, List.append_assoc] at heq
  obtain ⟨rfl, hrest⟩ := h (hstop b s hs) (hstop b' t ht) heq
  obtain ⟨rfl, rfl⟩ := h' hs ht hrest
  exact ⟨rfl, rfl⟩

/-- A code between two fixed marks. -/
theorem Cuts.between {code : α → List χ} (h : Cuts Stop code) (before after : List χ) (hstop : ∀ s, Stop (after ++ s)) :
    Cuts Always fun a => before ++ code a ++ after := by
  intro a b s t _ _ heq
  simp only [List.append_assoc] at heq
  obtain ⟨rfl, hrest⟩ := h (hstop s) (hstop t) (List.append_cancel_left heq)
  exact ⟨rfl, List.append_cancel_left hrest⟩

/-- Codes one after the other until a closing mark that none of them begins with. -/
theorem Cuts.closed {code : α → List χ} (h : Cuts Always code) {close : χ} (hclose : ∀ a s, (code a ++ s).head? ≠ some close) :
    Cuts Always fun as : List α => as.flatMap code ++ [close] := by
  intro as
  induction as with
  | nil =>
    intro bs s t _ _ heq
    cases bs with
    | nil => exact ⟨rfl, List.append_cancel_left heq⟩
    | cons b bs =>
      simp only [List.flatMap_cons, List.append_assoc] at heq
      exact absurd (congrArg List.head? heq).symm (hclose b _)
  | cons a as ih =>
    intro bs s t _ _ heq
    cases bs with
    | nil =>
      simp only [List.flatMap_cons, List.append_assoc] at heq
      exact absurd (congrArg List.head? heq) (hclose a _)
    | cons b bs =>
      simp only [List.flatMap_cons, List.append_assoc] at heq
      obtain ⟨rfl, hrest⟩ := h trivial trivial heq
      simp only [← List.append_assoc] at hrest
      obtain ⟨rfl, rfl⟩ := ih trivial trivial hrest
      exact ⟨rfl, rfl⟩

/-- Codes with a separator between them. -/
def joined (separator : χ) (code : α → List χ) : List α → List χ
  | [] => []
  | a :: as => code a ++ as.flatMap fun b => separator :: code b

/-- Codes with separators between them, until a closing mark. -/
theorem Cuts.joined {code : α → List χ} (h : Cuts Always code) {separator close : χ} (hmarks : separator ≠ close)
    (hclose : ∀ a s, (code a ++ s).head? ≠ some close) :
    Cuts Always fun as : List α => Codes.joined separator code as ++ [close] := by
  have hlater : Cuts Always fun b : α => separator :: code b := by
    intro a b s t _ _ heq
    rw [List.cons_append, List.cons_append, List.cons.injEq] at heq
    exact h trivial trivial heq.2
  have hrest : Cuts Always fun as : List α => as.flatMap (fun b => separator :: code b) ++ [close] :=
    hlater.closed fun a s heq => hmarks (Option.some.inj heq)
  intro as bs s t _ _ heq
  cases as with
  | nil =>
    cases bs with
    | nil => exact ⟨rfl, List.append_cancel_left heq⟩
    | cons b bs =>
      simp only [Codes.joined, List.append_assoc] at heq
      exact absurd (congrArg List.head? heq).symm (hclose b _)
  | cons a as =>
    cases bs with
    | nil =>
      simp only [Codes.joined, List.append_assoc] at heq
      exact absurd (congrArg List.head? heq) (hclose a _)
    | cons b bs =>
      simp only [Codes.joined, List.append_assoc] at heq
      obtain ⟨rfl, htail⟩ := h trivial trivial heq
      simp only [← List.append_assoc] at htail
      obtain ⟨rfl, rfl⟩ := hrest trivial trivial htail
      exact ⟨rfl, rfl⟩

/-- Texts with a separator between them, as a list of characters. -/
theorem toList_intercalate (separator : Char) (code : α → List Char) (as : List α) :
    ((String.singleton separator).intercalate (as.map fun a => String.ofList (code a))).toList = Codes.joined separator code as := by
  cases as with
  | nil => rfl
  | cons a as =>
    rw [String.toList_intercalate]
    induction as generalizing a with
    | nil => simp [Codes.joined]
    | cons b as ih =>
      have hb := ih b
      simp [Codes.joined, List.intercalate] at hb ⊢
      exact hb

/-! ## Decimals -/

/-- The rest does not begin with a digit. -/
def EndsDigits (s : List Char) : Prop := ∀ c ∈ s.head?, c.isDigit = false

theorem endsDigits_cons {c : Char} (h : c.isDigit = false) (s : List Char) : EndsDigits (c :: s) := by
  intro c' hc'
  cases hc'
  exact h

theorem endsDigits_append {mark : List Char} (h : mark.head?.any (fun c => !c.isDigit) = true) (s : List Char) :
    EndsDigits (mark ++ s) := by
  cases mark with
  | nil => cases h
  | cons c mark => exact endsDigits_cons (by simpa using h) _

theorem takeWhile_isDigit {xs s : List Char} (hxs : ∀ c ∈ xs, c.isDigit = true) (hs : EndsDigits s) :
    (xs ++ s).takeWhile Char.isDigit = xs := by
  rw [List.takeWhile_append_of_pos hxs]
  cases s with
  | nil => simp
  | cons c s => simp [hs c rfl]

theorem cuts_decimal : Cuts EndsDigits Digits.decimal := by
  intro n m s t hs ht heq
  have hdigits : ∀ k : Nat, ∀ c ∈ Digits.decimal k, c.isDigit = true :=
    fun k c hc => Nat.isDigit_of_mem_toDigits (by decide) (by decide) hc
  have htake : Digits.decimal n = Digits.decimal m := by
    rw [← takeWhile_isDigit (hdigits n) hs, heq, takeWhile_isDigit (hdigits m) ht]
  rw [htake] at heq
  exact ⟨Digits.decimal_injective htake, List.append_cancel_left heq⟩

/-- A decimal begins with a digit. -/
theorem head_decimal (n : Nat) (s : List Char) : ∃ c rest, Digits.decimal n ++ s = c :: rest ∧ c.isDigit = true := by
  cases h : Digits.decimal n with
  | nil => exact absurd h Nat.toDigits_ne_nil
  | cons c cs =>
    exact ⟨c, cs ++ s, rfl, Nat.isDigit_of_mem_toDigits (by decide) (by decide) (h ▸ List.mem_cons_self)⟩

end Codes
