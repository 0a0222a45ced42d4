import Mathlib.Data.List.Basic

/-!
# Feeding a splitter

A splitter takes the first piece off a text, or none when the text holds no whole piece yet. It is fed chunk by chunk and keeps
what is left over.

* `Splitter.drain` : all pieces of a text, and what is left; `drain_append` : a text in two parts;
* `Splitter.feed` : chunk after chunk; `feed_eq_drain` : where the chunks are cut makes no difference.
-/

namespace NovaCommerce

/-- Taking the first piece off a text; more text behind it changes nothing. -/
structure Splitter (α β : Type) where
  take : List α → Option (β × List α)
  shorter : ∀ {s b r}, take s = some (b, r) → r.length < s.length
  stable : ∀ {s b r} (t : List α), take s = some (b, r) → take (s ++ t) = some (b, r ++ t)

namespace Splitter

variable {α β : Type} (S : Splitter α β)

/-- The pieces of a text, and what is left. -/
def drain (s : List α) : List β × List α :=
  match _h : S.take s with
  | none => ([], s)
  | some (b, r) =>
    let rest := drain r
    (b :: rest.1, rest.2)
termination_by s.length
decreasing_by exact S.shorter _h

theorem drain_none {s : List α} (h : S.take s = none) : S.drain s = ([], s) := by
  rw [drain]
  split
  · rfl
  · rename_i b r hsome
    rw [h] at hsome
    cases hsome

theorem drain_some {s r : List α} {b : β} (h : S.take s = some (b, r)) : S.drain s = (b :: (S.drain r).1, (S.drain r).2) := by
  rw [drain]
  split
  · rename_i hnone
    rw [h] at hnone
    cases hnone
  · rename_i b' r' hsome
    rw [h] at hsome
    cases hsome
    rfl

/-- What is left holds no whole piece. -/
theorem take_drain (s : List α) : S.take (S.drain s).2 = none := by
  induction s using drain.induct S with
  | case1 s h => rw [S.drain_none h, h]
  | case2 s b r h ih =>
    rw [S.drain_some h]
    exact ih

/-- The pieces of a text in two parts: those of the first part, then those of what it leaves and the second part. -/
theorem drain_append (s t : List α) :
    S.drain (s ++ t) = ((S.drain s).1 ++ (S.drain ((S.drain s).2 ++ t)).1, (S.drain ((S.drain s).2 ++ t)).2) := by
  induction s using drain.induct S with
  | case1 s h => rw [S.drain_none h, List.nil_append]
  | case2 s b r h ih =>
    rw [S.drain_some h, S.drain_some (S.stable t h), ih]
    rfl

/-- Chunk after chunk, from what was left over. -/
def feed (left : List α) : List (List α) → List β × List α
  | [] => ([], left)
  | chunk :: chunks =>
    let now := S.drain (left ++ chunk)
    let later := feed now.2 chunks
    (now.1 ++ later.1, later.2)

/-- Feeding chunks is draining the text they make. -/
theorem feed_eq_drain {left : List α} (h : S.take left = none) (chunks : List (List α)) :
    S.feed left chunks = S.drain (left ++ chunks.flatten) := by
  induction chunks generalizing left with
  | nil => rw [List.flatten_nil, List.append_nil, S.drain_none h, feed]
  | cons chunk chunks ih =>
    rw [List.flatten_cons, ← List.append_assoc, S.drain_append, feed, ih (S.take_drain _)]

end Splitter

end NovaCommerce
