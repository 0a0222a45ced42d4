import NovaCommerce.Lib.Dict

/-!
# Traversals and writes in order

* `thread` : element by element, with a state that is handed on; `length_thread`, `getElem?_thread` : what
  stands at a place;
* `mem_foldl_setEntries` : the dictionary that writes leave holds the last one of each key;
* `mem_keys_foldl_setEntries` : and it holds every key that was written.
-/

namespace Traversals

/-! ## Traversals -/

/-- Element by element, from the state that the ones before leave. -/
def thread {σ α β : Type} (f : α → σ → β × σ) : List α → σ → List β × σ
  | [], s => ([], s)
  | a :: as, s =>
    let (b, s) := f a s
    let (bs, s) := thread f as s
    (b :: bs, s)

section

variable {σ α β : Type} (f : α → σ → β × σ)

theorem thread_cons (a : α) (as : List α) (s : σ) :
    thread f (a :: as) s = ((f a s).1 :: (thread f as (f a s).2).1, (thread f as (f a s).2).2) := rfl

theorem length_thread : ∀ (as : List α) (s : σ), (thread f as s).1.length = as.length := by
  intro as
  induction as with
  | nil => exact fun _ => rfl
  | cons a as ih =>
    intro s
    rw [thread_cons, List.length_cons, List.length_cons, ih]

/-- What stands at a place was made in the state behind the elements before it. -/
theorem getElem?_thread : ∀ (as : List α) (i : Nat) (s : σ),
    (thread f as s).1[i]? = as[i]?.map fun a => (f a (thread f (as.take i) s).2).1 := by
  intro as
  induction as with
  | nil => exact fun _ _ => rfl
  | cons a as ih =>
    intro i s
    rw [thread_cons]
    cases i with
    | zero => rfl
    | succ i =>
      rw [List.getElem?_cons_succ, List.getElem?_cons_succ, List.take_succ_cons, thread_cons, ih]

end

/-! ## The last write of a key -/

/-- The entries that writes leave are the last ones of their keys. -/
theorem mem_foldl_setEntries {κ ν : Type} [DecidableEq κ] (writes : List (κ × ν)) :
    ((writes.foldl (fun out e => Dict.setEntries e.1 e.2 out) []).map Prod.fst).Nodup ∧ ∀ e : κ × ν,
      e ∈ writes.foldl (fun out e => Dict.setEntries e.1 e.2 out) [] ↔
        ∃ i : Nat, writes[i]? = some e ∧ ∀ j, i < j → ∀ e' : κ × ν, writes[j]? = some e' → e'.1 ≠ e.1 := by
  induction writes using List.reverseRecOn with
  | nil =>
    refine ⟨List.nodup_nil, fun e => iff_of_false List.not_mem_nil ?_⟩
    rintro ⟨i, hi, -⟩
    cases hi
  | append_singleton writes last ih =>
    obtain ⟨hnodup, hmem⟩ := ih
    rw [List.foldl_append, List.foldl_cons, List.foldl_nil]
    refine ⟨(Dict.set ⟨_, hnodup⟩ last.1 last.2).nodup, fun e => ?_⟩
    rw [Dict.mem_setEntries hnodup, hmem]
    have hlast : (writes ++ [last])[writes.length]? = some last := by simp
    constructor
    · rintro (rfl | ⟨⟨i, hi, hlater⟩, hne⟩)
      · refine ⟨writes.length, hlast, fun j hj e' he' => ?_⟩
        have hnone : (writes ++ [last])[j]? = none := List.getElem?_eq_none (by simp; omega)
        rw [hnone] at he'
        cases he'
      · have hlt : i < writes.length := (List.getElem?_eq_some_iff.mp hi).1
        refine ⟨i, by rw [List.getElem?_append_left hlt, hi], fun j hj e' he' => ?_⟩
        by_cases hj' : j < writes.length
        · rw [List.getElem?_append_left hj'] at he'
          exact hlater j hj e' he'
        · rw [List.getElem?_append_right (not_lt.mp hj')] at he'
          obtain ⟨hzero, rfl⟩ : j - writes.length = 0 ∧ last = e' := by
            cases hk : j - writes.length with
            | zero =>
              rw [hk] at he'
              exact ⟨rfl, Option.some.inj he'⟩
            | succ k =>
              rw [hk] at he'
              cases he'
          exact hne.symm
    · rintro ⟨i, hi, hlater⟩
      by_cases hlt : i < writes.length
      · rw [List.getElem?_append_left hlt] at hi
        refine .inr ⟨⟨i, hi, fun j hj e' he' => hlater j hj e' ?_⟩, (hlater writes.length hlt last hlast).symm⟩
        rw [List.getElem?_append_left (List.getElem?_eq_some_iff.mp he').1]
        exact he'
      · rw [List.getElem?_append_right (not_lt.mp hlt)] at hi
        cases hk : i - writes.length with
        | zero =>
          rw [hk] at hi
          exact .inl (Option.some.inj hi).symm
        | succ k =>
          rw [hk] at hi
          cases hi

/-- Every key that is written stays. -/
theorem mem_keys_foldl_setEntries {κ ν : Type} [DecidableEq κ] {k : κ} : ∀ (writes out : List (κ × ν)),
    k ∈ (writes.foldl (fun out e => Dict.setEntries e.1 e.2 out) out).map Prod.fst ↔ k ∈ out.map Prod.fst ∨
      k ∈ writes.map Prod.fst := by
  intro writes
  induction writes with
  | nil => simp
  | cons e writes ih =>
    intro out
    rw [List.foldl_cons, ih, Dict.map_fst_setEntries, List.map_cons, List.mem_cons]
    split_ifs with hk
    · constructor
      · rintro (h | h)
        · exact .inl h
        · exact .inr (.inr h)
      · rintro (h | rfl | h)
        · exact .inl h
        · exact .inl hk
        · exact .inr h
    · rw [List.mem_append, List.mem_singleton, or_assoc]

end Traversals
