import Mathlib

/-!
# Insertion-ordered dictionaries

A `Dict κ ν` is a list of entries with distinct keys, in the order the keys were first written.

* `get?`, `set`, `values`, `keys`;
* `get?_set_self`, `get?_set_ne` : reads after a write;
* `mem_set` : the entries after a write;
* `entries_set_fresh` : a fresh key goes to the end;
* `ofList` : a dictionary of a list of entries (`entries_ofList`);
* `setFrom` : values at consecutive keys (`entries_setFrom`);
* `modify` : rewrite the value of one key in place (`get?_modify`, `mem_modify`);
* `mapValues` : the same keys with other values (`get?_mapValues`);
* `find?`, `select` : the entries that satisfy a predicate, in insertion order; `StillFinds` : what searches still find;
* `total g` : a sum over the entries (`total_set_fresh`, `total_modify`, `total_le_total`);
* `Grows` : rows that are rewritten or inserted (`Grows.total_eq`, `Grows.length_select`).
-/

/-- A dictionary in insertion order. -/
structure Dict (κ ν : Type) where
  entries : List (κ × ν)
  nodup : (entries.map Prod.fst).Nodup

namespace Dict

variable {κ ν : Type} [DecidableEq κ]

/-- The empty dictionary. -/
def empty : Dict κ ν := ⟨[], List.nodup_nil⟩

/-- The keys in insertion order. -/
def keys (d : Dict κ ν) : List κ := d.entries.map Prod.fst

/-- The values in insertion order. -/
def values (d : Dict κ ν) : List ν := d.entries.map Prod.snd

/-- The value at a key. -/
def get? (d : Dict κ ν) (k : κ) : Option ν :=
  (d.entries.find? (fun e => e.1 = k)).map Prod.snd

/-- Overwrite the value of a present key in place, or add the key at the end. -/
def setEntries (k : κ) (v : ν) : List (κ × ν) → List (κ × ν)
  | [] => [(k, v)]
  | e :: es => if e.1 = k then (k, v) :: es else e :: setEntries k v es

omit [DecidableEq κ] in
@[simp] theorem keys_empty : (empty : Dict κ ν).keys = [] := rfl

omit [DecidableEq κ] in
@[simp] theorem values_empty : (empty : Dict κ ν).values = [] := rfl

@[simp] theorem get?_empty (k : κ) : (empty : Dict κ ν).get? k = none := rfl

theorem map_fst_setEntries (k : κ) (v : ν) : ∀ es : List (κ × ν),
    (setEntries k v es).map Prod.fst =
      if k ∈ es.map Prod.fst then es.map Prod.fst else es.map Prod.fst ++ [k]
  | [] => by simp [setEntries]
  | e :: es => by
    have ih := map_fst_setEntries k v es
    by_cases h : e.1 = k
    · simp [setEntries, h]
    · have h' : ¬ k = e.1 := fun hk => h hk.symm
      simp only [setEntries, if_neg h, List.map_cons, ih, List.mem_cons, h', false_or]
      split_ifs <;> simp

/-- Write a value at a key. -/
def set (d : Dict κ ν) (k : κ) (v : ν) : Dict κ ν where
  entries := setEntries k v d.entries
  nodup := by
    rw [map_fst_setEntries]
    split_ifs with h
    · exact d.nodup
    · exact List.nodup_append.mpr ⟨d.nodup, List.nodup_singleton k, by
        rintro a ha b hb rfl
        exact h (List.mem_singleton.mp hb ▸ ha)⟩

/-! ## Reads -/

theorem get?_eq_some {d : Dict κ ν} {k : κ} {v : ν} : d.get? k = some v ↔ (k, v) ∈ d.entries := by
  have aux : ∀ es : List (κ × ν), (es.map Prod.fst).Nodup →
      ((es.find? (fun e => e.1 = k)).map Prod.snd = some v ↔ (k, v) ∈ es) := by
    intro es
    induction es with
    | nil => simp
    | cons e es ih =>
      intro hn
      rw [List.map_cons, List.nodup_cons] at hn
      by_cases h : e.1 = k
      · have hnot : (k, v) ∉ es := fun hm => hn.1 (h ▸ List.mem_map_of_mem (f := Prod.fst) hm)
        obtain ⟨a, b⟩ := e
        simp only at h
        subst h
        simp [hnot, eq_comm]
      · have hne : (k, v) ≠ e := by rintro rfl; exact h rfl
        rw [List.find?_cons_of_neg (by simpa using h), ih hn.2, List.mem_cons]
        simp [hne]
  exact aux d.entries d.nodup

theorem get?_eq_none {d : Dict κ ν} {k : κ} : d.get? k = none ↔ k ∉ d.keys := by
  simp only [get?, keys, Option.map_eq_none_iff, List.find?_eq_none, decide_eq_true_eq, List.mem_map,
    not_exists, not_and]

theorem mem_keys_iff {d : Dict κ ν} {k : κ} : k ∈ d.keys ↔ ∃ v, d.get? k = some v := by
  rw [← not_iff_not, ← get?_eq_none, ← Option.not_isSome_iff_eq_none, Option.isSome_iff_exists]

/-! ## Writes -/

theorem mem_setEntries {k : κ} {v : ν} {e : κ × ν} : ∀ {es : List (κ × ν)},
    (es.map Prod.fst).Nodup → (e ∈ setEntries k v es ↔ e = (k, v) ∨ (e ∈ es ∧ e.1 ≠ k))
  | [], _ => by simp [setEntries]
  | f :: es, hn => by
    rw [List.map_cons, List.nodup_cons] at hn
    have ih := mem_setEntries (k := k) (v := v) (e := e) hn.2
    by_cases h : f.1 = k
    · have hfresh : e ∈ es → e.1 ≠ k := fun he hk =>
        hn.1 (h ▸ hk ▸ List.mem_map_of_mem (f := Prod.fst) he)
      simp only [setEntries, if_pos h, List.mem_cons]
      constructor
      · rintro (rfl | he)
        · exact .inl rfl
        · exact .inr ⟨.inr he, hfresh he⟩
      · rintro (rfl | ⟨rfl | he, hne⟩)
        · exact .inl rfl
        · exact absurd h hne
        · exact .inr he
    · simp only [setEntries, if_neg h, List.mem_cons, ih]
      constructor
      · rintro (rfl | rfl | ⟨he, hne⟩)
        · exact .inr ⟨.inl rfl, h⟩
        · exact .inl rfl
        · exact .inr ⟨.inr he, hne⟩
      · rintro (rfl | ⟨rfl | he, hne⟩)
        · exact .inr (.inl rfl)
        · exact .inl rfl
        · exact .inr (.inr ⟨he, hne⟩)

theorem mem_set {d : Dict κ ν} {k : κ} {v : ν} {e : κ × ν} :
    e ∈ (d.set k v).entries ↔ e = (k, v) ∨ (e ∈ d.entries ∧ e.1 ≠ k) :=
  mem_setEntries d.nodup

@[simp] theorem get?_set_self (d : Dict κ ν) (k : κ) (v : ν) : (d.set k v).get? k = some v :=
  get?_eq_some.mpr (mem_set.mpr (.inl rfl))

theorem get?_set_ne {d : Dict κ ν} {k j : κ} (h : j ≠ k) (v : ν) :
    (d.set k v).get? j = d.get? j := by
  ext w
  rw [get?_eq_some, get?_eq_some, mem_set]
  constructor
  · rintro (he | ⟨he, -⟩)
    · exact absurd (congrArg Prod.fst he) h
    · exact he
  · intro he; exact .inr ⟨he, h⟩

theorem setEntries_fresh {k : κ} {v : ν} : ∀ {es : List (κ × ν)}, k ∉ es.map Prod.fst →
    setEntries k v es = es ++ [(k, v)]
  | [], _ => rfl
  | e :: es, h => by
    rw [List.map_cons, List.mem_cons, not_or] at h
    rw [setEntries, if_neg (Ne.symm h.1), setEntries_fresh h.2, List.cons_append]

theorem entries_set_fresh {d : Dict κ ν} {k : κ} (h : d.get? k = none) (v : ν) :
    (d.set k v).entries = d.entries ++ [(k, v)] :=
  setEntries_fresh (get?_eq_none.mp h)

/-! ## From a list -/

/-- A dictionary of some entries, the last one of each key. -/
def ofList (es : List (κ × ν)) : Dict κ ν := es.foldl (fun d e => d.set e.1 e.2) empty

/-- Distinct keys are kept as they are. -/
theorem entries_ofList {es : List (κ × ν)} (h : (es.map Prod.fst).Nodup) : (ofList es).entries = es := by
  have aux : ∀ (es : List (κ × ν)) (d : Dict κ ν), (es.map Prod.fst).Nodup →
      (∀ e ∈ es, d.get? e.1 = none) →
      (es.foldl (fun d e => d.set e.1 e.2) d).entries = d.entries ++ es := by
    intro es
    induction es with
    | nil => simp
    | cons e es ih =>
      intro d hn hfresh
      rw [List.map_cons, List.nodup_cons] at hn
      rw [List.foldl_cons, ih _ hn.2, entries_set_fresh (hfresh e List.mem_cons_self), List.append_assoc]
      · rfl
      · intro e' he'
        have hne : e'.1 ≠ e.1 := fun heq => hn.1 (heq ▸ List.mem_map_of_mem he')
        rw [get?_set_ne hne]
        exact hfresh e' (List.mem_cons_of_mem _ he')
  exact aux es empty h fun _ _ => rfl

/-- Every entry comes from the list. -/
theorem mem_of_mem_ofList {es : List (κ × ν)} {e : κ × ν} (h : e ∈ (ofList es).entries) : e ∈ es := by
  have aux : ∀ (es : List (κ × ν)) (d : Dict κ ν), e ∈ (es.foldl (fun d e => d.set e.1 e.2) d).entries →
      e ∈ d.entries ∨ e ∈ es := by
    intro es
    induction es with
    | nil => exact fun d h => .inl h
    | cons e' es ih =>
      intro d h
      rcases ih _ h with h | h
      · rcases mem_set.mp h with rfl | ⟨h, -⟩
        · exact .inr List.mem_cons_self
        · exact .inl h
      · exact .inr (List.mem_cons_of_mem _ h)
  exact (aux es empty h).resolve_left fun h => nomatch h

/-! ## Consecutive keys -/

/-- Write values at the keys from `k` on. -/
def setFrom {ν : Type} (d : Dict Nat ν) (k : Nat) : List ν → Dict Nat ν
  | [] => d
  | v :: vs => (d.set k v).setFrom (k + 1) vs

theorem get?_setFrom_lt {ν : Type} {d : Dict Nat ν} {k i : Nat} {vs : List ν} (h : i < k) :
    (d.setFrom k vs).get? i = d.get? i := by
  induction vs generalizing d k with
  | nil => rfl
  | cons v vs ih =>
    show ((d.set k v).setFrom (k + 1) vs).get? i = d.get? i
    rw [ih (by omega), get?_set_ne (by omega)]

theorem get?_setFrom_ge {ν : Type} {d : Dict Nat ν} {k i : Nat} {vs : List ν} (h : k + vs.length ≤ i) :
    (d.setFrom k vs).get? i = d.get? i := by
  induction vs generalizing d k with
  | nil => rfl
  | cons v vs ih =>
    rw [List.length_cons] at h
    show ((d.set k v).setFrom (k + 1) vs).get? i = d.get? i
    rw [ih (by omega), get?_set_ne (by omega)]

/-- Fresh keys go to the end, one value after the other. -/
theorem get?_setFrom_at {ν : Type} {d : Dict Nat ν} {k : Nat} : ∀ {vs : List ν} {i : Nat}, i < vs.length →
    (d.setFrom k vs).get? (k + i) = vs[i]? := by
  intro vs
  induction vs generalizing d k with
  | nil => exact fun h => absurd h (Nat.not_lt_zero _)
  | cons v vs ih =>
    intro i hi
    cases i with
    | zero =>
      have hlater : ((d.set k v).setFrom (k + 1) vs).get? k = (d.set k v).get? k :=
        get?_setFrom_lt (show k < k + 1 by omega)
      show ((d.set k v).setFrom (k + 1) vs).get? k = some v
      rw [hlater, get?_set_self]
    | succ i =>
      have hrest := ih (d := d.set k v) (k := k + 1) (Nat.lt_of_succ_lt_succ hi)
      show ((d.set k v).setFrom (k + 1) vs).get? (k + (i + 1)) = vs[i]?
      rw [show k + (i + 1) = k + 1 + i by omega, hrest]

/-- A row of the new table is an old one, or one that was written. -/
theorem get?_setFrom_origin {ν : Type} {d : Dict Nat ν} {k i : Nat} {vs : List ν} {v : ν}
    (h : (d.setFrom k vs).get? i = some v) :
    (i < k ∨ k + vs.length ≤ i) ∧ d.get? i = some v ∨ ∃ n, i = k + n ∧ vs[n]? = some v := by
  by_cases hlt : i < k
  · rw [get?_setFrom_lt hlt] at h
    exact .inl ⟨.inl hlt, h⟩
  · by_cases hge : k + vs.length ≤ i
    · rw [get?_setFrom_ge hge] at h
      exact .inl ⟨.inr hge, h⟩
    · obtain ⟨n, rfl⟩ := Nat.exists_eq_add_of_le (not_lt.mp hlt)
      rw [get?_setFrom_at (by omega)] at h
      exact .inr ⟨n, rfl, h⟩

theorem entries_setFrom {ν : Type} {d : Dict Nat ν} {k : Nat} {vs : List ν}
    (h : ∀ i, k ≤ i → d.get? i = none) :
    (d.setFrom k vs).entries = d.entries ++ (vs.zipIdx k).map Prod.swap := by
  induction vs generalizing d k with
  | nil => simp [setFrom]
  | cons v vs ih =>
    show ((d.set k v).setFrom (k + 1) vs).entries = _
    rw [ih fun i hi => by rw [get?_set_ne (by omega), h i (by omega)], entries_set_fresh (h k (le_refl k)),
      List.zipIdx_cons, List.map_cons, List.append_assoc]
    rfl

/-! ## Rewriting one value -/

/-- Apply `f` to the value of a key, if the key is present. -/
def modify (d : Dict κ ν) (k : κ) (f : ν → ν) : Dict κ ν where
  entries := d.entries.map (fun e => if e.1 = k then (e.1, f e.2) else e)
  nodup := by
    have h : (d.entries.map (fun e => if e.1 = k then (e.1, f e.2) else e)).map Prod.fst =
        d.entries.map Prod.fst := by
      rw [List.map_map]
      refine List.map_congr_left fun e _ => ?_
      simp only [Function.comp]
      split_ifs <;> rfl
    rw [h]
    exact d.nodup

theorem mem_modify {d : Dict κ ν} {k : κ} {f : ν → ν} {e : κ × ν} :
    e ∈ (d.modify k f).entries ↔
      ∃ old ∈ d.entries, e = if old.1 = k then (old.1, f old.2) else old := by
  simp only [modify, List.mem_map, eq_comm]

theorem get?_modify (d : Dict κ ν) (k j : κ) (f : ν → ν) :
    (d.modify k f).get? j = if j = k then (d.get? j).map f else d.get? j := by
  ext w
  rw [get?_eq_some, mem_modify]
  constructor
  · rintro ⟨⟨i, v⟩, hold, heq⟩
    by_cases hi : i = k
    · simp only [if_pos hi, Prod.mk.injEq] at heq
      obtain ⟨rfl, rfl⟩ := heq
      simp [hi, get?_eq_some.mpr (hi ▸ hold)]
    · simp only [if_neg hi, Prod.mk.injEq] at heq
      obtain ⟨rfl, rfl⟩ := heq
      simp [hi, get?_eq_some.mpr hold]
  · intro h
    by_cases hj : j = k
    · rw [if_pos hj, Option.map_eq_some_iff] at h
      obtain ⟨v, hv, rfl⟩ := h
      exact ⟨(j, v), get?_eq_some.mp hv, by simp [hj]⟩
    · rw [if_neg hj] at h
      exact ⟨(j, w), get?_eq_some.mp h, by simp [hj]⟩

@[simp] theorem get?_modify_self (d : Dict κ ν) (k : κ) (f : ν → ν) :
    (d.modify k f).get? k = (d.get? k).map f := by
  rw [get?_modify, if_pos rfl]

theorem get?_modify_ne {d : Dict κ ν} {k j : κ} (h : j ≠ k) (f : ν → ν) :
    (d.modify k f).get? j = d.get? j := by
  rw [get?_modify, if_neg h]

theorem get?_modify_none {d : Dict κ ν} {i : κ} (h : d.get? i = none) (k : κ) (f : ν → ν) :
    (d.modify k f).get? i = none := by
  rw [get?_modify, h, Option.map_none, ite_self]

@[simp] theorem keys_modify (d : Dict κ ν) (k : κ) (f : ν → ν) : (d.modify k f).keys = d.keys := by
  simp only [keys, modify, List.map_map]
  refine List.map_congr_left fun e _ => ?_
  simp only [Function.comp]
  split_ifs <;> rfl

/-- Two rewrites of one value are one rewrite. -/
theorem modify_modify (d : Dict κ ν) (k : κ) (f g : ν → ν) :
    (d.modify k f).modify k g = d.modify k fun v => g (f v) := by
  have hentries : ((d.modify k f).modify k g).entries = (d.modify k fun v => g (f v)).entries := by
    simp only [modify, List.map_map]
    refine List.map_congr_left fun e _ => ?_
    by_cases h : e.1 = k <;> simp [h]
  cases hd : (d.modify k f).modify k g
  cases hd' : d.modify k fun v => g (f v)
  rw [hd, hd'] at hentries
  cases hentries
  rfl

/-- Rewrite every value. -/
def adjust (d : Dict κ ν) (f : κ → ν → ν) : Dict κ ν where
  entries := d.entries.map (fun e => (e.1, f e.1 e.2))
  nodup := by
    rw [List.map_map]
    exact d.nodup

omit [DecidableEq κ] in
theorem mem_adjust {d : Dict κ ν} {f : κ → ν → ν} {e : κ × ν} :
    e ∈ (d.adjust f).entries ↔ ∃ old ∈ d.entries, e = (old.1, f old.1 old.2) := by
  simp only [adjust, List.mem_map, eq_comm]

@[simp] theorem get?_adjust (d : Dict κ ν) (f : κ → ν → ν) (k : κ) :
    (d.adjust f).get? k = (d.get? k).map (f k) := by
  ext w
  rw [get?_eq_some, mem_adjust, Option.map_eq_some_iff]
  constructor
  · rintro ⟨old, hold, heq⟩
    cases heq
    exact ⟨old.2, get?_eq_some.mpr hold, rfl⟩
  · rintro ⟨v, hv, rfl⟩
    exact ⟨(k, v), get?_eq_some.mp hv, rfl⟩

/-- The same keys, with a function of the values. -/
def mapValues {μ : Type} (d : Dict κ ν) (f : ν → μ) : Dict κ μ where
  entries := d.entries.map fun e => (e.1, f e.2)
  nodup := by
    rw [List.map_map]
    exact d.nodup

@[simp] theorem get?_mapValues {μ : Type} (d : Dict κ ν) (f : ν → μ) (k : κ) : (d.mapValues f).get? k = (d.get? k).map f := by
  ext w
  rw [get?_eq_some, Option.map_eq_some_iff]
  show (k, w) ∈ d.entries.map _ ↔ _
  rw [List.mem_map]
  constructor
  · rintro ⟨old, hold, heq⟩
    cases heq
    exact ⟨old.2, get?_eq_some.mpr hold, rfl⟩
  · rintro ⟨v, hv, rfl⟩
    exact ⟨(k, v), get?_eq_some.mp hv, rfl⟩

omit [DecidableEq κ] in
theorem ext_entries {d d' : Dict κ ν} (h : d.entries = d'.entries) : d = d' := by
  cases d
  cases d'
  cases h
  rfl

/-- Rewrites that agree on every value rewrite alike. -/
theorem adjust_congr {d : Dict κ ν} {f g : κ → ν → ν} (h : ∀ k v, d.get? k = some v → f k v = g k v) :
    d.adjust f = d.adjust g := by
  refine ext_entries (List.map_congr_left fun e he => ?_)
  rw [h e.1 e.2 (get?_eq_some.mpr he)]

/-- A rewrite of one value, and then of every value. -/
theorem adjust_modify (d : Dict κ ν) (k : κ) (f : ν → ν) (g : κ → ν → ν) :
    (d.modify k f).adjust g = d.adjust fun j v => g j (if j = k then f v else v) := by
  refine ext_entries ?_
  simp only [adjust, modify, List.map_map]
  refine List.map_congr_left fun e _ => ?_
  by_cases h : e.1 = k <;> simp [h]

omit [DecidableEq κ] in
theorem adjust_self {d : Dict κ ν} {f : κ → ν → ν} (h : ∀ e ∈ d.entries, f e.1 e.2 = e.2) : d.adjust f = d := by
  refine ext_entries ?_
  have hid : d.entries.map (fun e => (e.1, f e.1 e.2)) = d.entries.map id := by
    refine List.map_congr_left fun e he => ?_
    rw [h e he]
    rfl
  rw [List.map_id] at hid
  exact hid

/-- Rewriting a value that was just set sets the rewritten value. -/
theorem modify_set_self (d : Dict κ ν) (k : κ) (v : ν) (f : ν → ν) :
    (d.set k v).modify k f = d.set k (f v) := by
  refine ext_entries ?_
  have aux : ∀ es : List (κ × ν), (es.map Prod.fst).Nodup →
      (setEntries k v es).map (fun e => if e.1 = k then (e.1, f e.2) else e) = setEntries k (f v) es := by
    intro es
    induction es with
    | nil => simp [setEntries]
    | cons e es ih =>
      intro hn
      rw [List.map_cons, List.nodup_cons] at hn
      by_cases hk : e.1 = k
      · have hrest : es.map (fun e => if e.1 = k then (e.1, f e.2) else e) = es := by
          conv_rhs => rw [← List.map_id es]
          refine List.map_congr_left fun e' he' => if_neg fun heq => ?_
          exact hn.1 (hk ▸ heq ▸ List.mem_map_of_mem he')
        simp [setEntries, hk, hrest]
      · simp [setEntries, hk, ih hn.2]
  exact aux d.entries d.nodup

omit [DecidableEq κ] in
/-- Some order of the entries begins with a given one. -/
theorem exists_perm_head {d : Dict κ ν} [DecidableEq (κ × ν)] {entry : κ × ν} (h : entry ∈ d.entries) :
    ∃ d' : Dict κ ν, d'.entries.Perm d.entries ∧ ∃ rest, d'.entries = entry :: rest := by
  have hperm : (entry :: d.entries.erase entry).Perm d.entries := (List.perm_cons_erase h).symm
  refine ⟨⟨entry :: d.entries.erase entry, ?_⟩, hperm, _, rfl⟩
  exact (hperm.map Prod.fst).nodup_iff.mpr d.nodup

/-! ## Searching -/

/-- The first entry that satisfies `p`. -/
def find? (d : Dict κ ν) (p : ν → Bool) : Option (κ × ν) := d.entries.find? (fun e => p e.2)

/-- The entries that satisfy `p`, in insertion order. -/
def select (d : Dict κ ν) (p : ν → Bool) : List (κ × ν) := d.entries.filter (fun e => p e.2)

theorem find?_some {d : Dict κ ν} {p : ν → Bool} {k : κ} {v : ν} (h : d.find? p = some (k, v)) :
    d.get? k = some v ∧ p v = true := by
  rw [find?] at h
  have hp := List.find?_some h
  exact ⟨get?_eq_some.mpr (List.mem_of_find?_eq_some h), hp⟩

omit [DecidableEq κ] in
theorem find?_none {d : Dict κ ν} {p : ν → Bool} :
    d.find? p = none ↔ ∀ e ∈ d.entries, ¬ p e.2 = true := by
  rw [find?, List.find?_eq_none]

/-- Changing a row in a way the predicate does not see changes only what is found there. -/
theorem find?_modify (d : Dict κ ν) (k : κ) {f : ν → ν} {p : ν → Bool} (h : ∀ v, p (f v) = p v) :
    (d.modify k f).find? p = (d.find? p).map (fun e => if e.1 = k then (e.1, f e.2) else e) := by
  have hp : (fun e : κ × ν => p e.2) ∘ (fun e => if e.1 = k then (e.1, f e.2) else e) =
      fun e => p e.2 := by
    funext e
    simp only [Function.comp]
    split_ifs <;> simp [h]
  rw [find?, modify, List.find?_map, hp]
  rfl

/-- What a search by columns that `R` keeps found in `d`, it still finds in `d'`. -/
def StillFinds (R : ν → ν → Prop) (d d' : Dict κ ν) : Prop :=
  ∀ p : ν → Bool, (∀ v w, R v w → p w = p v) → ∀ k v, d.find? p = some (k, v) → ∃ w, d'.find? p = some (k, w) ∧ R v w

omit [DecidableEq κ] in
theorem StillFinds.refl {R : ν → ν → Prop} (hR : ∀ v, R v v) (d : Dict κ ν) : d.StillFinds R d :=
  fun _ _ _ v h => ⟨v, h, hR v⟩

omit [DecidableEq κ] in
theorem StillFinds.trans {R : ν → ν → Prop} (hR : ∀ u v w, R u v → R v w → R u w) {d d₁ d₂ : Dict κ ν}
    (h : d.StillFinds R d₁) (h' : d₁.StillFinds R d₂) : d.StillFinds R d₂ := by
  intro p hp k v hv
  obtain ⟨v₁, hv₁, hr⟩ := h p hp k v hv
  obtain ⟨v₂, hv₂, hr'⟩ := h' p hp k v₁ hv₁
  exact ⟨v₂, hv₂, hR v v₁ v₂ hr hr'⟩

omit [DecidableEq κ] in
/-- Rewriting rows does not move them. -/
theorem stillFinds_adjust {R : ν → ν → Prop} (d : Dict κ ν) {f : κ → ν → ν} (hf : ∀ k v, R v (f k v)) :
    d.StillFinds R (d.adjust f) := by
  intro p hp k v hv
  have hcomp : (fun e : κ × ν => p e.2) ∘ (fun e : κ × ν => (e.1, f e.1 e.2)) = fun e => p e.2 := by
    funext e
    exact hp _ _ (hf e.1 e.2)
  refine ⟨f k v, ?_, hf k v⟩
  rw [find?] at hv
  rw [find?, adjust, List.find?_map, hcomp, hv]
  rfl

/-- Rewriting a row does not move it. -/
theorem stillFinds_modify {R : ν → ν → Prop} (hR : ∀ v, R v v) (d : Dict κ ν) (k : κ) {f : ν → ν} (hf : ∀ v, R v (f v)) :
    d.StillFinds R (d.modify k f) := by
  intro p hp j v hv
  rw [find?_modify d k fun v => hp v _ (hf v), hv]
  by_cases hj : j = k
  · exact ⟨f v, by simp [hj], hf v⟩
  · exact ⟨v, by simp [hj], hR v⟩

/-- A new row comes behind the others. -/
theorem find?_set_fresh {d : Dict κ ν} {k : κ} (h : d.get? k = none) (v : ν) (p : ν → Bool) :
    (d.set k v).find? p = (d.find? p).or (if p v then some (k, v) else none) := by
  rw [find?, entries_set_fresh h, List.find?_append, ← find?, List.find?_singleton]

theorem stillFinds_set {R : ν → ν → Prop} (hR : ∀ v, R v v) {d : Dict κ ν} {k : κ} (h : d.get? k = none) (v : ν) :
    d.StillFinds R (d.set k v) := by
  intro p _ j w hw
  refine ⟨w, ?_, hR w⟩
  rw [find?_set_fresh h, hw, Option.some_or]

theorem mem_select {d : Dict κ ν} {p : ν → Bool} {k : κ} {v : ν} :
    (k, v) ∈ d.select p ↔ d.get? k = some v ∧ p v = true := by
  rw [select, List.mem_filter, get?_eq_some]

/-! ## Sums -/

/-- A sum over the entries. -/
def total (d : Dict κ ν) (g : κ → ν → Int) : Int := (d.entries.map (fun e => g e.1 e.2)).sum

omit [DecidableEq κ] in
@[simp] theorem total_empty (g : κ → ν → Int) : (empty : Dict κ ν).total g = 0 := rfl

theorem sum_setEntries {k : κ} {v w : Int} : ∀ {es : List (κ × Int)}, (es.map Prod.fst).Nodup → (k, w) ∈ es →
    ((setEntries k v es).map Prod.snd).sum = (es.map Prod.snd).sum - w + v
  | [], _, h => nomatch h
  | e :: es, hn, hm => by
    rw [List.map_cons, List.nodup_cons] at hn
    unfold setEntries
    rcases List.mem_cons.mp hm with rfl | hm
    · rw [if_pos rfl, List.map_cons, List.map_cons, List.sum_cons, List.sum_cons]
      omega
    · have hne : e.1 ≠ k := fun hk => hn.1 (hk ▸ List.mem_map_of_mem (f := Prod.fst) hm)
      rw [if_neg hne, List.map_cons, List.map_cons, List.sum_cons, List.sum_cons, sum_setEntries hn.2 hm]
      omega

/-- Adding to the value of a key adds to the sum of the values. -/
theorem sum_values_set (d : Dict κ Int) (k : κ) (x : Int) :
    (d.set k ((d.get? k).getD 0 + x)).values.sum = d.values.sum + x := by
  cases h : d.get? k with
  | none =>
    unfold values
    rw [entries_set_fresh h]
    simp
  | some w =>
    show ((setEntries k _ d.entries).map Prod.snd).sum = (d.entries.map Prod.snd).sum + x
    rw [sum_setEntries d.nodup (get?_eq_some.mp h), Option.getD_some]
    omega

omit [DecidableEq κ] in
theorem total_congr {d : Dict κ ν} {g h : κ → ν → Int}
    (heq : ∀ e ∈ d.entries, g e.1 e.2 = h e.1 e.2) : d.total g = d.total h := by
  rw [total, total, List.map_congr_left heq]

omit [DecidableEq κ] in
theorem total_le_total {d : Dict κ ν} {g h : κ → ν → Int}
    (hle : ∀ e ∈ d.entries, g e.1 e.2 ≤ h e.1 e.2) : d.total g ≤ d.total h :=
  List.sum_le_sum hle

omit [DecidableEq κ] in
theorem total_nonneg {d : Dict κ ν} {g : κ → ν → Int} (h : ∀ e ∈ d.entries, 0 ≤ g e.1 e.2) :
    0 ≤ d.total g := by
  refine List.sum_nonneg fun v hv => ?_
  obtain ⟨e, he, rfl⟩ := List.mem_map.mp hv
  exact h e he

omit [DecidableEq κ] in
theorem total_eq_zero {d : Dict κ ν} {g : κ → ν → Int} (h : ∀ e ∈ d.entries, g e.1 e.2 = 0) : d.total g = 0 := by
  refine List.sum_eq_zero fun v hv => ?_
  obtain ⟨e, he, rfl⟩ := List.mem_map.mp hv
  exact h e he

omit [DecidableEq κ] in
theorem total_add (d : Dict κ ν) (g h : κ → ν → Int) :
    d.total (fun k v => g k v + h k v) = d.total g + d.total h :=
  List.sum_map_add

/-- One term of a sum of nonnegative terms. -/
theorem le_total {d : Dict κ ν} {g : κ → ν → Int} (hn : ∀ e ∈ d.entries, 0 ≤ g e.1 e.2) {k : κ} {v : ν}
    (h : d.get? k = some v) : g k v ≤ d.total g := by
  refine List.single_le_sum (fun q hq => ?_) _ (List.mem_map_of_mem (get?_eq_some.mp h))
  obtain ⟨e, he, rfl⟩ := List.mem_map.mp hq
  exact hn e he

theorem total_set_fresh {d : Dict κ ν} {k : κ} (h : d.get? k = none) (v : ν) (g : κ → ν → Int) :
    (d.set k v).total g = d.total g + g k v := by
  rw [total, entries_set_fresh h]
  simp [total]

/-- Values at fresh consecutive keys add their terms. -/
theorem total_setFrom {ν : Type} {d : Dict Nat ν} {k : Nat} {vs : List ν} (h : ∀ i, k ≤ i → d.get? i = none)
    (f : ν → Int) : (d.setFrom k vs).total (fun _ v => f v) = d.total (fun _ v => f v) + (vs.map f).sum := by
  induction vs generalizing d k with
  | nil =>
    rw [List.map_nil, List.sum_nil, add_zero]
    rfl
  | cons v vs ih =>
    show ((d.set k v).setFrom (k + 1) vs).total _ = _
    rw [ih fun i hi => by rw [get?_set_ne (by omega), h i (by omega)], total_set_fresh (h k (le_refl k)),
      List.map_cons, List.sum_cons, add_assoc]

omit [DecidableEq κ] in
/-- A sum over the entries that satisfy a predicate. -/
theorem sum_select (d : Dict κ ν) (p : ν → Bool) (f : ν → Int) :
    ((d.select p).map fun e => f e.2).sum = d.total fun _ v => if p v then f v else 0 := by
  have aux : ∀ es : List (κ × ν), ((es.filter fun e => p e.2).map fun e => f e.2).sum =
      (es.map fun e => if p e.2 then f e.2 else 0).sum := by
    intro es
    induction es with
    | nil => rfl
    | cons e es ih =>
      rw [List.map_cons, List.sum_cons, List.filter_cons]
      split_ifs
      · rw [List.map_cons, List.sum_cons, ih]
      · rw [ih, zero_add]
  exact aux d.entries

/-- Rewriting one value moves a sum by what that entry's term moves. -/
theorem total_modify {d : Dict κ ν} {k : κ} {v : ν} (h : d.get? k = some v) (f : ν → ν)
    (g : κ → ν → Int) : (d.modify k f).total g = d.total g - g k v + g k (f v) := by
  have aux : ∀ es : List (κ × ν), (es.map Prod.fst).Nodup → (k, v) ∈ es →
      ((es.map (fun e => if e.1 = k then (e.1, f e.2) else e)).map (fun e => g e.1 e.2)).sum =
        (es.map (fun e => g e.1 e.2)).sum - g k v + g k (f v) := by
    intro es
    induction es with
    | nil => intro _ hm; cases hm
    | cons e es ih =>
      intro hn hm
      rw [List.map_cons, List.nodup_cons] at hn
      simp only [List.map_cons, List.sum_cons]
      rcases List.mem_cons.mp hm with rfl | hm
      · have hrest : es.map (fun e => if e.1 = k then (e.1, f e.2) else e) = es := by
          conv_rhs => rw [← List.map_id es]
          refine List.map_congr_left fun e he => if_neg fun hk => ?_
          have hm : e.1 ∈ es.map Prod.fst := List.mem_map_of_mem he
          rw [hk] at hm
          exact hn.1 hm
        rw [if_pos rfl, hrest]
        ring
      · have hne : e.1 ≠ k := fun hk => hn.1 (hk ▸ List.mem_map_of_mem (f := Prod.fst) hm)
        rw [if_neg hne, ih hn.2 hm]
        ring
  exact aux d.entries d.nodup (get?_eq_some.mp h)

omit [DecidableEq κ] in
@[simp] theorem total_adjust (d : Dict κ ν) (f : κ → ν → ν) (g : κ → ν → Int) :
    (d.adjust f).total g = d.total (fun k v => g k (f k v)) := by
  rw [total, adjust, total, List.map_map]
  rfl

@[simp] theorem modify_id (d : Dict κ ν) (k : κ) : d.modify k id = d := by
  refine ext_entries ?_
  simp [modify]

theorem modify_absent {d : Dict κ ν} {k : κ} (h : d.get? k = none) (f : ν → ν) :
    (d.modify k f).entries = d.entries := by
  have hk : k ∉ d.entries.map Prod.fst := get?_eq_none.mp h
  simp only [modify]
  conv_rhs => rw [← List.map_id d.entries]
  refine List.map_congr_left fun e he => if_neg fun heq => ?_
  have hm : e.1 ∈ d.entries.map Prod.fst := List.mem_map_of_mem he
  rw [heq] at hm
  exact hk hm

/-! ## Rows that grow -/

/-- Every row of `d` is still there, changed as `R` allows, and every other row is new as `N` allows. -/
structure Grows (R : ν → ν → Prop) (N : ν → Prop) (d d' : Dict κ ν) : Prop where
  kept : ∀ k v, d.get? k = some v → ∃ v', d'.get? k = some v' ∧ R v v'
  origin : ∀ k v', d'.get? k = some v' → (∃ v, d.get? k = some v ∧ R v v') ∨ (d.get? k = none ∧ N v')

variable {R : ν → ν → Prop} {N : ν → Prop}

theorem grows_refl (hR : ∀ v, R v v) (d : Dict κ ν) : Grows R N d d where
  kept _ v h := ⟨v, h, hR v⟩
  origin _ v h := .inl ⟨v, h, hR v⟩

/-- A row that is rewritten. -/
theorem grows_modify (hR : ∀ v, R v v) {d : Dict κ ν} {k : κ} {f : ν → ν}
    (hf : ∀ v, d.get? k = some v → R v (f v)) : Grows R N d (d.modify k f) where
  kept j v h := by
    rw [get?_modify, h]
    split_ifs with hj
    · exact ⟨f v, rfl, hf v (hj ▸ h)⟩
    · exact ⟨v, rfl, hR v⟩
  origin j v' h := by
    rw [get?_modify] at h
    split_ifs at h with hj
    · obtain ⟨v, hv, rfl⟩ := Option.map_eq_some_iff.mp h
      exact .inl ⟨v, hv, hf v (hj ▸ hv)⟩
    · exact .inl ⟨v', h, hR v'⟩

/-- Rows that are all rewritten. -/
theorem grows_adjust {d : Dict κ ν} {f : κ → ν → ν} (hf : ∀ k v, d.get? k = some v → R v (f k v)) :
    Grows R N d (d.adjust f) where
  kept k v h := ⟨f k v, by rw [get?_adjust, h]; rfl, hf k v h⟩
  origin k v' h := by
    rw [get?_adjust] at h
    obtain ⟨v, hv, rfl⟩ := Option.map_eq_some_iff.mp h
    exact .inl ⟨v, hv, hf k v hv⟩

/-- A row that is inserted. -/
theorem grows_set (hR : ∀ v, R v v) {d : Dict κ ν} {k : κ} {v : ν} (hk : d.get? k = none) (hv : N v) :
    Grows R N d (d.set k v) where
  kept j w h := by
    have hj : j ≠ k := by
      rintro rfl
      rw [hk] at h
      cases h
    exact ⟨w, by rw [get?_set_ne hj, h], hR w⟩
  origin j w h := by
    by_cases hj : j = k
    · subst hj
      rw [get?_set_self] at h
      cases h
      exact .inr ⟨hk, hv⟩
    · rw [get?_set_ne hj] at h
      exact .inl ⟨w, h, hR w⟩

/-- Rows that are rewritten before the others are inserted. -/
theorem Grows.trans (hR : ∀ u v w, R u v → R v w → R u w) {d d₁ d₂ : Dict κ ν} (h : Grows R (fun _ => False) d d₁)
    (h' : Grows R N d₁ d₂) : Grows R N d d₂ where
  kept k v hv := by
    obtain ⟨v₁, hv₁, hr⟩ := h.kept k v hv
    obtain ⟨v₂, hv₂, hr'⟩ := h'.kept k v₁ hv₁
    exact ⟨v₂, hv₂, hR v v₁ v₂ hr hr'⟩
  origin k v₂ hv₂ := by
    rcases h'.origin k v₂ hv₂ with ⟨v₁, hv₁, hr'⟩ | ⟨hnone, hN⟩
    · rcases h.origin k v₁ hv₁ with ⟨v, hv, hr⟩ | ⟨-, hfalse⟩
      · exact .inl ⟨v, hv, hR v v₁ v₂ hr hr'⟩
      · exact hfalse.elim
    · refine .inr ⟨?_, hN⟩
      by_contra hsome
      obtain ⟨v, hv⟩ := Option.ne_none_iff_exists'.mp hsome
      obtain ⟨v₁, hv₁, -⟩ := h.kept k v hv
      rw [hnone] at hv₁
      cases hv₁

/-! ## Sums over rows that grow -/

/-- A sum over the entries is a sum over the keys. -/
theorem total_eq_sum (d : Dict κ ν) (g : κ → ν → Int) :
    d.total g = ∑ k ∈ d.keys.toFinset, (d.get? k).elim 0 (g k) := by
  have hnodup : d.keys.Nodup := d.nodup
  rw [List.sum_toFinset _ hnodup, total, keys, List.map_map]
  refine congrArg List.sum (List.map_congr_left fun e he => ?_)
  have hget : d.get? e.1 = some e.2 := get?_eq_some.mpr he
  show g e.1 e.2 = (d.get? e.1).elim 0 (g e.1)
  rw [hget]
  rfl

/-- A sum over a set of entries is at most the sum over all, when no term is negative. -/
theorem sum_le_total {d : Dict κ ν} {f : κ → ν → Int} (hn : ∀ e ∈ d.entries, 0 ≤ f e.1 e.2) {ms : List (κ × Int)}
    (hd : (ms.map Prod.fst).Nodup) (h : ∀ m ∈ ms, ∃ v, d.get? m.1 = some v ∧ m.2 ≤ f m.1 v) :
    (ms.map Prod.snd).sum ≤ d.total f := by
  have hterms : (ms.map Prod.snd).sum ≤ ((ms.map Prod.fst).map fun k => (d.get? k).elim 0 (f k)).sum := by
    rw [List.map_map]
    refine List.sum_le_sum fun m hm => ?_
    obtain ⟨v, hv, hle⟩ := h m hm
    show m.2 ≤ (d.get? m.1).elim 0 (f m.1)
    rw [hv]
    exact hle
  refine hterms.trans ?_
  rw [total_eq_sum, ← List.sum_toFinset _ hd]
  refine Finset.sum_le_sum_of_subset_of_nonneg (fun k hk => ?_) fun k hk _ => ?_
  · obtain ⟨m, hm, rfl⟩ := List.mem_map.mp (List.mem_toFinset.mp hk)
    obtain ⟨v, hv, -⟩ := h m hm
    exact List.mem_toFinset.mpr (mem_keys_iff.mpr ⟨v, hv⟩)
  · obtain ⟨v, hv⟩ := mem_keys_iff.mp (List.mem_toFinset.mp hk)
    rw [hv]
    exact hn _ (get?_eq_some.mp hv)

/-- Of the selected entries, at most one has a key. -/
theorem sum_select_key (d : Dict κ ν) (p : ν → Bool) (k : κ) (x : Int) :
    ((d.select p).map fun e => if k = e.1 then x else 0).sum = if (d.get? k).any p then x else 0 := by
  have aux : ∀ es : List (κ × ν), ((es.filter fun e => p e.2).map fun e => if k = e.1 then x else 0).sum =
      (es.map fun e => if k = e.1 ∧ p e.2 = true then x else 0).sum := by
    intro es
    induction es with
    | nil => rfl
    | cons e es ih =>
      rw [List.map_cons, List.sum_cons, List.filter_cons, ← ih]
      by_cases hp : p e.2 = true
      · simp [hp]
      · simp [hp]
  have htotal : ((d.select p).map fun e => if k = e.1 then x else 0).sum =
      d.total fun j v => if k = j ∧ p v = true then x else 0 := aux d.entries
  rw [htotal, total_eq_sum]
  cases hk : d.get? k with
  | none =>
    refine (Finset.sum_eq_zero fun j hj => ?_).trans (by simp)
    obtain ⟨v, hv⟩ := mem_keys_iff.mp (List.mem_toFinset.mp hj)
    have hne : k ≠ j := by
      rintro rfl
      rw [hk] at hv
      cases hv
    rw [hv]
    simp [hne]
  | some v =>
    rw [Finset.sum_eq_single k]
    · rw [hk]
      simp
    · intro j hj hjk
      cases hv : d.get? j with
      | none => rfl
      | some w => simp [Ne.symm hjk]
    · intro hnot
      exact absurd (List.mem_toFinset.mpr (mem_keys_iff.mpr ⟨v, hk⟩)) hnot

/-- A sum over selected entries of the sums of the rows that point at them, row by row. -/
theorem sum_select_total {ι μ : Type} (d : Dict κ ν) (p : ν → Bool) (e : Dict ι μ) (key : μ → κ) (g : μ → Int) :
    ((d.select p).map fun c => e.total fun _ row => if key row = c.1 then g row else 0).sum =
      e.total fun _ row => if (d.get? (key row)).any p then g row else 0 := by
  have aux : ∀ rows : List (ι × μ),
      ((d.select p).map fun c => (rows.map fun r => if key r.2 = c.1 then g r.2 else 0).sum).sum =
        (rows.map fun r => if (d.get? (key r.2)).any p then g r.2 else 0).sum := by
    intro rows
    induction rows with
    | nil => simp
    | cons r rows ih =>
      simp only [List.map_cons, List.sum_cons]
      rw [List.sum_map_add, ih, sum_select_key]
  exact aux e.entries

/-- Rows that are rewritten where the sum does not look. -/
theorem Grows.total_eq {d d' : Dict κ ν} (h : Grows R (fun _ => False) d d') {g : κ → ν → Int}
    (hg : ∀ k v v', R v v' → g k v' = g k v) : d'.total g = d.total g := by
  have hkeys : d'.keys.toFinset = d.keys.toFinset := by
    ext k
    rw [List.mem_toFinset, List.mem_toFinset]
    refine not_iff_not.mp ?_
    show k ∉ d'.keys ↔ k ∉ d.keys
    rw [← get?_eq_none, ← get?_eq_none]
    constructor
    · intro hk
      cases hv : d.get? k with
      | none => rfl
      | some v =>
        obtain ⟨v', hv', -⟩ := h.kept k v hv
        rw [hk] at hv'
        cases hv'
    · intro hk
      cases hv : d'.get? k with
      | none => rfl
      | some v' =>
        obtain ⟨v, hv, -⟩ := (h.origin k v' hv).resolve_right fun hn => hn.2
        rw [hk] at hv
        cases hv
  rw [total_eq_sum, total_eq_sum, hkeys]
  refine Finset.sum_congr rfl fun k _ => ?_
  cases hv : d.get? k with
  | none =>
    cases hv' : d'.get? k with
    | none => rfl
    | some v' =>
      obtain ⟨v, hv'', -⟩ := (h.origin k v' hv').resolve_right fun hn => hn.2
      rw [hv] at hv''
      cases hv''
  | some v =>
    obtain ⟨v', hv', hR⟩ := h.kept k v hv
    rw [hv']
    exact hg k v v' hR

/-! ## Counting -/

omit [DecidableEq κ] in
/-- The number of rows a predicate selects is a sum. -/
theorem length_select (d : Dict κ ν) (p : ν → Bool) :
    ((d.select p).length : Int) = d.total fun _ v => if p v then 1 else 0 := by
  have aux : ∀ es : List (κ × ν),
      ((es.filter fun e => p e.2).length : Int) = (es.map fun e => if p e.2 then (1 : Int) else 0).sum := by
    intro es
    induction es with
    | nil => rfl
    | cons e es ih =>
      rw [List.map_cons, List.sum_cons, List.filter_cons]
      split_ifs
      · rw [List.length_cons, Nat.cast_succ, ih, add_comm]
      · rw [ih, zero_add]
  exact aux d.entries

/-- A row that is inserted is counted when the predicate selects it. -/
theorem length_select_set {d : Dict κ ν} {k : κ} (h : d.get? k = none) (v : ν) (p : ν → Bool) :
    (((d.set k v).select p).length : Int) = (d.select p).length + if p v then 1 else 0 := by
  rw [length_select, length_select, total_set_fresh h]

/-- Rewritten rows are counted as before. -/
theorem Grows.length_select {d d' : Dict κ ν} (h : Grows R (fun _ => False) d d') {p : ν → Bool}
    (hp : ∀ v v', R v v' → p v' = p v) : (d'.select p).length = (d.select p).length := by
  have htotal : ((d'.select p).length : Int) = (d.select p).length := by
    rw [Dict.length_select, Dict.length_select]
    refine h.total_eq fun _ v v' hR => ?_
    rw [hp v v' hR]
  exact_mod_cast htotal

omit [DecidableEq κ] in
/-- Rewritten rows that are selected were selected before. -/
theorem length_select_adjust_le (d : Dict κ ν) {f : κ → ν → ν} {p : ν → Bool} (h : ∀ k v, p (f k v) = true → p v = true) :
    ((d.adjust f).select p).length ≤ (d.select p).length := by
  simp only [select, adjust, ← List.countP_eq_length_filter, List.countP_map]
  exact List.countP_mono_left fun e _ he => h e.1 e.2 he

theorem length_select_modify_le (d : Dict κ ν) (k : κ) {f : ν → ν} {p : ν → Bool} (h : ∀ v, p (f v) = true → p v = true) :
    ((d.modify k f).select p).length ≤ (d.select p).length := by
  simp only [select, modify, ← List.countP_eq_length_filter, List.countP_map]
  refine List.countP_mono_left fun e _ he => ?_
  by_cases hk : e.1 = k
  · simp only [Function.comp_apply, if_pos hk] at he
    exact h e.2 he
  · simpa only [Function.comp_apply, if_neg hk] using he

end Dict
