import NovaCommerce.Core.Redaction
import NovaCommerce.Lib.Traversals
import Mathlib.Logic.Relation

/-!
# Where the walk of `redact` goes

A walk stops at one object after the other, and each stop puts something into the copy.

* `redactItems_eq`, `redactEntries_eq` : the loops are traversals that hand the heap on;
* `Stop` : an object, in the heap and with the levels that the walk meets it with; `Step` : to an item or to
  the value of a field;
* `Inserted` : the texts that a stop puts in place of fields and behind its items;
* `part_copy_iff` : the parts of a copy are the copies and the texts of the stops that the walk meets.
-/

namespace NovaCommerce.Redaction

open Traversals

/-! ## The loops -/

section

variable (py : Runtime) (purpose : RedactionPurpose)

/-- The text that stands for the items behind the limit. -/
def moreItems (total : Nat) : List Redacted :=
  if maxSequenceLen < total then [.str s!"{truncated} +{total - maxSequenceLen}"] else []

/-- The entry that stands for the keys behind the limit. -/
def moreKeys (total : Nat) : List (String × Redacted) :=
  if maxKeysPerMapping < total then [("__truncated__", .str s!"{total - maxKeysPerMapping} more keys")] else []

/-- What the masker of its field makes of a text. -/
def maskedField (h : Heap) (key : String) (value : Ref) : Option String :=
  match h value with
  | .str text => if text = "" then none else (fieldMasker py key).map fun masker =>
    if purpose ∈ noPiiPurposes then mask else masker text
  | _ => none

/-- One entry of a mapping. -/
def copyEntry (redactOne : Ref → Heap → Redacted × Heap) (e : String × Ref) (h : Heap) : (String × Redacted) × Heap :=
  if isChainOfThoughtKey py e.1 then ((e.1, .str cotRemoved), h)
  else if isSecretKey py e.1 then ((e.1, .str secretRemoved), h)
  else
    let (field, h) := redactField py purpose redactOne e.1 e.2 h
    ((e.1, field), h)

variable {py purpose} (redactOne : Ref → Heap → Redacted × Heap)

theorem redactItems_eq (total : Nat) : ∀ (items : List Ref) (index : Nat) (h : Heap), index ≤ maxSequenceLen →
    total = index + items.length → redactItems redactOne total index items h =
      ((thread redactOne (items.take (maxSequenceLen - index)) h).1 ++ moreItems total,
        (thread redactOne (items.take (maxSequenceLen - index)) h).2) := by
  intro items
  induction items with
  | nil =>
    intro index h hindex htotal
    have hfits : ¬ maxSequenceLen < total := by rw [List.length_nil] at htotal; omega
    rw [List.take_nil, moreItems, if_neg hfits]
    rfl
  | cons item items ih =>
    intro index h hindex htotal
    rw [List.length_cons] at htotal
    unfold redactItems
    split_ifs with hfull
    · have hover : maxSequenceLen < total := by omega
      rw [show maxSequenceLen - index = 0 by omega, List.take_zero, moreItems, if_pos hover]
      rfl
    · rw [show maxSequenceLen - index = (maxSequenceLen - (index + 1)) + 1 by omega, List.take_succ_cons, thread_cons]
      dsimp only
      rw [ih (index + 1) _ (by omega) (by omega)]
      rfl

theorem copyEntry_reasoning {key : String} {value : Ref} {h : Heap} (hcot : isChainOfThoughtKey py key = true) :
    copyEntry py purpose redactOne (key, value) h = ((key, .str cotRemoved), h) := by
  unfold copyEntry
  rw [if_pos hcot]

theorem copyEntry_secret {key : String} {value : Ref} {h : Heap} (hcot : ¬ isChainOfThoughtKey py key = true)
    (hsecret : isSecretKey py key = true) :
    copyEntry py purpose redactOne (key, value) h = ((key, .str secretRemoved), h) := by
  unfold copyEntry
  rw [if_neg hcot, if_pos hsecret]

theorem copyEntry_shown {key : String} {value : Ref} {h : Heap} (hshown : ¬ Withheld py key) :
    copyEntry py purpose redactOne (key, value) h =
      ((key, (redactField py purpose redactOne key value h).1),
        (redactField py purpose redactOne key value h).2) := by
  unfold copyEntry
  rw [if_neg fun hcot => hshown (.inl hcot), if_neg fun hsecret => hshown (.inr hsecret)]

theorem redactEntries_eq (total : Nat) : ∀ (entries : List (String × Ref)) (index : Nat)
    (out : List (String × Redacted)) (h : Heap), index ≤ maxKeysPerMapping → total = index + entries.length →
    redactEntries py purpose redactOne total index entries out h =
      (((thread (copyEntry py purpose redactOne) (entries.take (maxKeysPerMapping - index)) h).1 ++
          moreKeys total).foldl (fun out e => Dict.setEntries e.1 e.2 out) out,
        (thread (copyEntry py purpose redactOne) (entries.take (maxKeysPerMapping - index)) h).2) := by
  intro entries
  induction entries with
  | nil =>
    intro index out h hindex htotal
    have hfits : ¬ maxKeysPerMapping < total := by rw [List.length_nil] at htotal; omega
    rw [List.take_nil, moreKeys, if_neg hfits]
    rfl
  | cons entry entries ih =>
    intro index out h hindex htotal
    obtain ⟨key, value⟩ := entry
    rw [List.length_cons] at htotal
    unfold redactEntries
    split_ifs with hfull hcot hsecret
    · have hover : maxKeysPerMapping < total := by omega
      rw [show maxKeysPerMapping - index = 0 by omega, List.take_zero, moreKeys, if_pos hover]
      rfl
    all_goals
      rw [show maxKeysPerMapping - index = (maxKeysPerMapping - (index + 1)) + 1 by omega, List.take_succ_cons,
        thread_cons]
    · rw [copyEntry_reasoning redactOne hcot, ih (index + 1) _ _ (by omega) (by omega)]
      rfl
    · rw [copyEntry_secret redactOne hcot hsecret, ih (index + 1) _ _ (by omega) (by omega)]
      rfl
    · rw [copyEntry_shown redactOne fun h => h.elim hcot hsecret]
      dsimp only
      rw [ih (index + 1) _ _ (by omega) (by omega)]
      rfl

theorem redactField_masked {key : String} {value : Ref} {h : Heap} {text : String}
    (hmasked : maskedField py purpose h key value = some text) :
    redactField py purpose redactOne key value h = (.str text, h) := by
  unfold maskedField at hmasked
  unfold redactField
  cases hvalue : h value with
  | str plain =>
    rw [hvalue] at hmasked
    dsimp only at hmasked ⊢
    by_cases hempty : plain = ""
    · rw [if_pos hempty] at hmasked
      cases hmasked
    · rw [if_neg hempty] at hmasked ⊢
      obtain ⟨masker, hmasker, rfl⟩ := Option.map_eq_some_iff.mp hmasked
      rw [hmasker]
  | _ =>
    rw [hvalue] at hmasked
    cases hmasked

theorem redactField_plain {key : String} {value : Ref} {h : Heap}
    (hplain : maskedField py purpose h key value = none) :
    redactField py purpose redactOne key value h = redactOne value h := by
  unfold maskedField at hplain
  unfold redactField
  cases hvalue : h value with
  | str plain =>
    rw [hvalue] at hplain
    dsimp only at hplain ⊢
    by_cases hempty : plain = ""
    · rw [if_pos hempty]
    · rw [if_neg hempty] at hplain ⊢
      rw [Option.map_eq_none_iff.mp hplain]
  | _ => rfl

end

/-! ## Stops -/

/-- An object, in the heap and with the levels that a walk meets it with. -/
structure Stop where
  heap : Heap
  levels : Nat
  ref : Ref

/-- What a walk does at a stop. -/
inductive Visit where
  | limit
  | scalar (copy : Redacted)
  | text (value : String)
  | placeholder (text : String)
  | entries (levels : Nat) (entries : List (String × Ref))
  | items (heap : Heap) (levels : Nat) (items : List Ref)

/-- The iterator that is met is read to its end before its items are. -/
def Stop.visit (s : Stop) : Visit :=
  match s.levels with
  | 0 => .limit
  | levels + 1 =>
    match s.heap s.ref with
    | .none => .scalar .none
    | .bool value => .scalar (.bool value)
    | .int value => .scalar (.int value)
    | .float value => .scalar (.float value)
    | .str value => .text value
    | .bytes length => .placeholder s!"<bytes:{length}>"
    | .mapping entries => .entries levels entries
    | .sequence items => .items s.heap levels items
    | .iterable items =>
      match levels with
      | 0 => .limit
      | levels + 1 => .items s.heap levels items
    | .iterator items =>
      match levels with
      | 0 => .limit
      | levels + 1 => .items (s.heap.exhaust s.ref) levels items
    | .other typeName => .placeholder s!"<{typeName}>"

/-- The copy of a scalar is neither a text nor a container. -/
inductive Redacted.Scalar : Redacted → Prop where
  | none : Scalar .none
  | bool (value : Bool) : Scalar (.bool value)
  | int (value : Int) : Scalar (.int value)
  | float (value : JsonFloat) : Scalar (.float value)

theorem Stop.visit_scalar {s : Stop} {copy : Redacted} (hvisit : s.visit = .scalar copy) : copy.Scalar := by
  unfold Stop.visit at hvisit
  split at hvisit
  · cases hvisit
  · split at hvisit
    case h_1 | h_2 | h_3 | h_4 =>
      cases hvisit
      constructor
    case h_9 | h_10 => split at hvisit <;> cases hvisit
    all_goals cases hvisit

/-- The levels below a container are fewer. -/
theorem Stop.visit_entries {s : Stop} {levels : Nat} {entries : List (String × Ref)}
    (hvisit : s.visit = .entries levels entries) :
    levels < s.levels := by
  unfold Stop.visit at hvisit
  split at hvisit
  · cases hvisit
  · rename_i hlevels
    split at hvisit
    case h_7 =>
      cases hvisit
      omega
    case h_9 | h_10 => split at hvisit <;> cases hvisit
    all_goals cases hvisit

theorem Stop.visit_items {s : Stop} {heap : Heap} {levels : Nat} {items : List Ref}
    (hvisit : s.visit = .items heap levels items) :
    levels < s.levels := by
  unfold Stop.visit at hvisit
  split at hvisit
  · cases hvisit
  · rename_i hlevels
    split at hvisit
    case h_8 =>
      cases hvisit
      omega
    case h_9 | h_10 =>
      split at hvisit <;> cases hvisit
      omega
    all_goals cases hvisit

section

variable (py : Runtime) (purpose : RedactionPurpose)

def Stop.copy (s : Stop) : Redacted := (redactLevels py purpose s.levels s.ref s.heap).1

/-- The heap in which the walk of a mapping meets an entry. -/
def entryHeap (levels : Nat) (entries : List (String × Ref)) (i : Nat) (h : Heap) : Heap :=
  (thread (copyEntry py purpose (redactLevels py purpose levels)) (entries.take i) h).2

/-- The heap in which the walk of a list meets an item. -/
def itemHeap (levels : Nat) (items : List Ref) (i : Nat) (h : Heap) : Heap :=
  (thread (redactLevels py purpose levels) (items.take i) h).2

/-- The copy that a visit makes. -/
def visitCopy (s : Stop) : Visit → Redacted
  | .limit => .str truncated
  | .scalar copy => copy
  | .text value => .str (redactString py value)
  | .placeholder value => .str value
  | .entries levels entries =>
    .mapping (((thread (copyEntry py purpose (redactLevels py purpose levels))
      (entries.take maxKeysPerMapping) s.heap).1 ++
      moreKeys entries.length).foldl (fun out e => Dict.setEntries e.1 e.2 out) [])
  | .items heap levels items =>
    .sequence ((thread (redactLevels py purpose levels) (items.take maxSequenceLen) heap).1 ++ moreItems items.length)

theorem Stop.copy_eq (s : Stop) : s.copy py purpose = visitCopy py purpose s s.visit := by
  obtain ⟨heap, levels, ref⟩ := s
  unfold Stop.copy Stop.visit
  dsimp only
  have hitems : ∀ (levels : Nat) (items : List Ref) (h : Heap),
      (redactItems (redactLevels py purpose levels) items.length 0 items h).1 =
        (thread (redactLevels py purpose levels) (items.take maxSequenceLen) h).1 ++ moreItems items.length :=
    fun levels items h => congrArg Prod.fst (redactItems_eq _ items.length items 0 h (Nat.zero_le _)
      (Nat.zero_add _).symm)
  cases levels with
  | zero => rfl
  | succ levels =>
    unfold redactLevels
    dsimp only
    cases heap ref with
    | mapping entries =>
      exact congrArg Redacted.mapping (congrArg Prod.fst
        (redactEntries_eq _ entries.length entries 0 [] heap (Nat.zero_le _) (Nat.zero_add _).symm))
    | sequence items => exact congrArg Redacted.sequence (hitems levels items heap)
    | iterable items =>
      cases levels with
      | zero => rfl
      | succ levels => exact congrArg Redacted.sequence (hitems levels items heap)
    | iterator items =>
      cases levels with
      | zero => rfl
      | succ levels => exact congrArg Redacted.sequence (hitems levels items _)
    | _ => rfl

/-! ## Entries and items of a copy -/

/-- The entry is copied, and it is the last of those that are copied which has its key. -/
structure Kept (entries : List (String × Ref)) (i : Nat) (key : String) (value : Ref) : Prop where
  copied : i < maxKeysPerMapping
  entry : entries[i]? = some (key, value)
  last : ∀ j, i < j → j < maxKeysPerMapping → ∀ later : String × Ref, entries[j]? = some later → later.1 ≠ key
  unmarked : maxKeysPerMapping < entries.length → key ≠ "__truncated__"

/-- The keys that the copy of a mapping has. -/
def writtenKeys (entries : List (String × Ref)) : List String :=
  (entries.take maxKeysPerMapping).map Prod.fst ++
    if maxKeysPerMapping < entries.length then ["__truncated__"] else []

variable {py purpose}

theorem copyEntry_key (redactOne : Ref → Heap → Redacted × Heap) (e : String × Ref) (h : Heap) :
    (copyEntry py purpose redactOne e h).1.1 = e.1 := by
  unfold copyEntry
  split_ifs <;> rfl

theorem mem_moreKeys {total : Nat} {e : String × Redacted} :
    e ∈ moreKeys total ↔ maxKeysPerMapping < total ∧
      e = ("__truncated__", .str s!"{total - maxKeysPerMapping} more keys") := by
  unfold moreKeys
  split_ifs with h
  · simp [h]
  · simp [h]

theorem mem_moreItems {total : Nat} {r : Redacted} :
    r ∈ moreItems total ↔ maxSequenceLen < total ∧ r = .str s!"{truncated} +{total - maxSequenceLen}" := by
  unfold moreItems
  split_ifs with h
  · simp [h]
  · simp [h]

/-- What the traversal of the first entries makes of the one at a place. -/
theorem getElem?_thread_take {α β : Type} (f : α → Heap → β × Heap) (as : List α) (cap i : Nat) (h : Heap) (b : β) :
    (thread f (as.take cap) h).1[i]? = some b ↔
      i < cap ∧ ∃ a, as[i]? = some a ∧ b = (f a (thread f (as.take i) h).2).1 := by
  rw [getElem?_thread, List.getElem?_take, List.take_take]
  by_cases hi : i < cap
  · rw [if_pos hi, min_eq_left hi.le]
    constructor
    · intro hb
      obtain ⟨a, ha, rfl⟩ := Option.map_eq_some_iff.mp hb
      exact ⟨hi, a, ha, rfl⟩
    · rintro ⟨-, a, ha, rfl⟩
      rw [ha]
      rfl
  · rw [if_neg hi]
    constructor
    · intro hb
      cases hb
    · rintro ⟨hi', -⟩
      exact absurd hi' hi

theorem keys_thread (redactOne : Ref → Heap → Redacted × Heap) : ∀ (entries : List (String × Ref)) (h : Heap),
    (thread (copyEntry py purpose redactOne) entries h).1.map Prod.fst = entries.map Prod.fst := by
  intro entries
  induction entries with
  | nil => exact fun _ => rfl
  | cons e entries ih =>
    intro h
    rw [thread_cons, List.map_cons, List.map_cons, copyEntry_key, ih]

theorem keys_moreKeys (total : Nat) :
    (moreKeys total).map Prod.fst = if maxKeysPerMapping < total then ["__truncated__"] else [] := by
  unfold moreKeys
  split_ifs <;> rfl

/-- The copies that are not overwritten by a copy. -/
theorem mem_copies {redactOne : Ref → Heap → Redacted × Heap} {entries : List (String × Ref)} {h : Heap}
    {e : String × Redacted} :
    e ∈ (thread (copyEntry py purpose redactOne) (entries.take maxKeysPerMapping) h).1.foldl
        (fun out e => Dict.setEntries e.1 e.2 out) [] ↔
      ∃ i key value, i < maxKeysPerMapping ∧ entries[i]? = some (key, value) ∧
        (∀ j, i < j → j < maxKeysPerMapping → ∀ later : String × Ref, entries[j]? = some later → later.1 ≠ key) ∧
        e = (copyEntry py purpose redactOne (key, value) (thread (copyEntry py purpose redactOne)
          (entries.take i) h).2).1 := by
  rw [(mem_foldl_setEntries _).2]
  constructor
  · rintro ⟨i, hi, hlater⟩
    obtain ⟨hcap, ⟨key, value⟩, hentry, rfl⟩ := (getElem?_thread_take _ _ _ _ _ _).mp hi
    refine ⟨i, key, value, hcap, hentry, fun j hij hj later hjlater => ?_, rfl⟩
    have hne := hlater j hij _ ((getElem?_thread_take _ _ _ _ _ _).mpr ⟨hj, later, hjlater, rfl⟩)
    rw [copyEntry_key, copyEntry_key] at hne
    exact hne
  · rintro ⟨i, key, value, hcap, hentry, hlast, rfl⟩
    refine ⟨i, (getElem?_thread_take _ _ _ _ _ _).mpr ⟨hcap, (key, value), hentry, rfl⟩, fun j hij e' he' => ?_⟩
    obtain ⟨hj, later, hjlater, rfl⟩ := (getElem?_thread_take _ _ _ _ _ _).mp he'
    rw [copyEntry_key, copyEntry_key]
    exact hlast j hij hj later hjlater

/-- The copy of a mapping has the last copied entry of each key, and the one that counts the rest. -/
theorem copy_mapping {s : Stop} {levels : Nat} {entries : List (String × Ref)}
    (hvisit : s.visit = .entries levels entries) :
    ∃ out, s.copy py purpose = .mapping out ∧ (out.map Prod.fst).Nodup ∧
      (∀ k, k ∈ out.map Prod.fst ↔ k ∈ writtenKeys entries) ∧ ∀ e, e ∈ out ↔
        (∃ i key value, Kept entries i key value ∧
          e = (copyEntry py purpose (redactLevels py purpose levels) (key, value)
            (entryHeap py purpose levels entries i s.heap)).1) ∨
        e ∈ moreKeys entries.length := by
  have hcopy := s.copy_eq py purpose
  rw [hvisit] at hcopy
  refine ⟨_, hcopy, (mem_foldl_setEntries _).1, fun k => ?_, fun e => ?_⟩
  · rw [mem_keys_foldl_setEntries, List.map_append, keys_thread, keys_moreKeys]
    simp [writtenKeys]
  · rw [List.foldl_append, mem_moreKeys]
    unfold moreKeys
    by_cases hmore : maxKeysPerMapping < entries.length
    · -- the count is written last
      rw [if_pos hmore, List.foldl_cons, List.foldl_nil, Dict.mem_setEntries (mem_foldl_setEntries _).1, mem_copies]
      constructor
      · rintro (rfl | ⟨⟨i, key, value, hcap, hentry, hlast, rfl⟩, hne⟩)
        · exact .inr ⟨hmore, rfl⟩
        · rw [copyEntry_key] at hne
          exact .inl ⟨i, key, value, ⟨hcap, hentry, hlast, fun _ => hne⟩, rfl⟩
      · rintro (⟨i, key, value, hkept, rfl⟩ | ⟨-, rfl⟩)
        · refine .inr ⟨⟨i, key, value, hkept.copied, hkept.entry, hkept.last, rfl⟩, ?_⟩
          rw [copyEntry_key]
          exact hkept.unmarked hmore
        · exact .inl rfl
    · rw [if_neg hmore, List.foldl_nil, mem_copies]
      constructor
      · rintro ⟨i, key, value, hcap, hentry, hlast, rfl⟩
        exact .inl ⟨i, key, value, ⟨hcap, hentry, hlast, fun h => absurd h hmore⟩, rfl⟩
      · rintro (⟨i, key, value, hkept, rfl⟩ | ⟨h, -⟩)
        · exact ⟨i, key, value, hkept.copied, hkept.entry, hkept.last, rfl⟩
        · exact absurd h hmore

theorem copy_items {s : Stop} {heap : Heap} {levels : Nat} {items : List Ref}
    (hvisit : s.visit = .items heap levels items) :
    ∃ out, s.copy py purpose = .sequence out ∧
      out.length = min maxSequenceLen items.length + (if maxSequenceLen < items.length then 1 else 0) ∧ ∀ r, r ∈ out ↔
        (∃ i item, i < maxSequenceLen ∧ items[i]? = some item ∧
          r = (redactLevels py purpose levels item (itemHeap py purpose levels items i heap)).1) ∨
        r ∈ moreItems items.length := by
  have hcopy := s.copy_eq py purpose
  rw [hvisit] at hcopy
  refine ⟨_, hcopy, ?_, fun r => ?_⟩
  · rw [List.length_append, length_thread, List.length_take]
    unfold moreItems
    split_ifs <;> rfl
  · rw [List.mem_append, List.mem_iff_getElem?]
    refine or_congr (exists_congr fun i => ?_) Iff.rfl
    rw [getElem?_thread_take]
    constructor
    · rintro ⟨hcap, item, hitem, rfl⟩
      exact ⟨item, hcap, hitem, rfl⟩
    · rintro ⟨item, hcap, hitem, rfl⟩
      exact ⟨hcap, item, hitem, rfl⟩

/-! ## Where a walk goes -/

variable (py purpose)

/-- From a container to a part that it copies. The values of withheld keys and of masked fields are not walked. -/
inductive Step : Stop → Stop → Prop where
  | field {s : Stop} {levels : Nat} {entries : List (String × Ref)} {i : Nat} {key : String} {value : Ref}
      (visit : s.visit = .entries levels entries) (kept : Kept entries i key value) (shown : ¬ Withheld py key)
      (plain : maskedField py purpose (entryHeap py purpose levels entries i s.heap) key value = none) :
      Step s ⟨entryHeap py purpose levels entries i s.heap, levels, value⟩
  | item {s : Stop} {heap : Heap} {levels : Nat} {items : List Ref} {i : Nat} {item : Ref}
      (visit : s.visit = .items heap levels items) (copied : i < maxSequenceLen) (at_ : items[i]? = some item) :
      Step s ⟨itemHeap py purpose levels items i heap, levels, item⟩

/-- The texts that a container gets in place of its fields and behind its parts. -/
inductive Inserted (s : Stop) : String → Prop where
  | reasoning {levels : Nat} {entries : List (String × Ref)} {i : Nat} {key : String} {value : Ref}
      (visit : s.visit = .entries levels entries) (kept : Kept entries i key value)
      (withheld : isChainOfThoughtKey py key = true) : Inserted s cotRemoved
  | secret {levels : Nat} {entries : List (String × Ref)} {i : Nat} {key : String} {value : Ref}
      (visit : s.visit = .entries levels entries) (kept : Kept entries i key value)
      (withheld : ¬ isChainOfThoughtKey py key = true ∧ isSecretKey py key = true) : Inserted s secretRemoved
  | masked {levels : Nat} {entries : List (String × Ref)} {i : Nat} {key : String} {value : Ref} {text : String}
      (visit : s.visit = .entries levels entries) (kept : Kept entries i key value) (shown : ¬ Withheld py key)
      (masked : maskedField py purpose (entryHeap py purpose levels entries i s.heap) key value = some text) :
        Inserted s text
  | moreKeys {levels : Nat} {entries : List (String × Ref)} (visit : s.visit = .entries levels entries)
      (more : maxKeysPerMapping < entries.length) : Inserted s s!"{entries.length - maxKeysPerMapping} more keys"
  | moreItems {heap : Heap} {levels : Nat} {items : List Ref} (visit : s.visit = .items heap levels items)
      (more : maxSequenceLen < items.length) : Inserted s s!"{truncated} +{items.length - maxSequenceLen}"

/-- The walk that starts at `s` stops at `s'`, and what it copies there is in its copy. -/
def Met (s s' : Stop) : Prop := Relation.ReflTransGen (Step py purpose) s s'

end

/-- `x` is the copy or a part of it. -/
inductive Redacted.Part (x : Redacted) : Redacted → Prop where
  | whole : Part x x
  | entry {entries : List (String × Redacted)} {e : String × Redacted} (mem : e ∈ entries) (part : Part x e.2) :
      Part x (.mapping entries)
  | item {items : List Redacted} {r : Redacted} (mem : r ∈ items) (part : Part x r) : Part x (.sequence items)

namespace Redacted

theorem Part.trans {x y z : Redacted} (first : Part x y) (second : Part y z) : Part x z := by
  induction second with
  | whole => exact first
  | entry mem _ ih => exact .entry mem ih
  | item mem _ ih => exact .item mem ih

theorem part_mapping_iff {x : Redacted} {entries : List (String × Redacted)} :
    Part x (.mapping entries) ↔ x = .mapping entries ∨ ∃ e ∈ entries, Part x e.2 := by
  constructor
  · intro hpart
    cases hpart with
    | whole => exact .inl rfl
    | entry mem part => exact .inr ⟨_, mem, part⟩
  · rintro (rfl | ⟨e, mem, part⟩)
    · exact .whole
    · exact .entry mem part

theorem part_sequence_iff {x : Redacted} {items : List Redacted} :
    Part x (.sequence items) ↔ x = .sequence items ∨ ∃ r ∈ items, Part x r := by
  constructor
  · intro hpart
    cases hpart with
    | whole => exact .inl rfl
    | item mem part => exact .inr ⟨_, mem, part⟩
  · rintro (rfl | ⟨r, mem, part⟩)
    · exact .whole
    · exact .item mem part

theorem part_str_iff {x : Redacted} {text : String} : Part x (.str text) ↔ x = .str text := by
  constructor
  · intro hpart
    cases hpart
    rfl
  · rintro rfl
    exact .whole

theorem part_scalar_iff {x y : Redacted} (hscalar : y.Scalar) : Part x y ↔ x = y := by
  constructor
  · intro hpart
    cases hscalar <;> cases hpart <;> rfl
  · rintro rfl
    exact .whole

end Redacted

section

variable {py : Runtime} {purpose : RedactionPurpose}

/-- The value of a kept entry is a text that is inserted, or the copy of the next stop. -/
theorem copyEntry_value {s : Stop} {levels : Nat} {entries : List (String × Ref)} {i : Nat} {key : String}
    {value : Ref}
    (hvisit : s.visit = .entries levels entries) (hkept : Kept entries i key value) :
    (∃ text, Inserted py purpose s text ∧ (copyEntry py purpose (redactLevels py purpose levels) (key, value)
        (entryHeap py purpose levels entries i s.heap)).1 = (key, .str text)) ∨
      ∃ s', Step py purpose s s' ∧ (copyEntry py purpose (redactLevels py purpose levels) (key, value)
        (entryHeap py purpose levels entries i s.heap)).1 = (key, s'.copy py purpose) := by
  by_cases hcot : isChainOfThoughtKey py key = true
  · exact .inl ⟨_, .reasoning hvisit hkept hcot, congrArg Prod.fst (copyEntry_reasoning _ hcot)⟩
  · by_cases hsecret : isSecretKey py key = true
    · exact .inl ⟨_, .secret hvisit hkept ⟨hcot, hsecret⟩, congrArg Prod.fst (copyEntry_secret _ hcot hsecret)⟩
    · have hshown : ¬ Withheld py key := fun h => h.elim hcot hsecret
      rw [copyEntry_shown _ hshown]
      cases hmasked : maskedField py purpose (entryHeap py purpose levels entries i s.heap) key value with
      | some text =>
        rw [redactField_masked _ hmasked]
        exact .inl ⟨text, .masked hvisit hkept hshown hmasked, rfl⟩
      | none =>
        rw [redactField_plain _ hmasked]
        exact .inr ⟨_, .field hvisit hkept hshown hmasked, rfl⟩

theorem Step.levels_lt {s s' : Stop} (step : Step py purpose s s') : s'.levels < s.levels := by
  cases step with
  | field visit => exact Stop.visit_entries visit
  | item visit => exact Stop.visit_items visit

/-- What is copied at a stop is in the copy of the stop before. -/
theorem Step.part {s s' : Stop} (step : Step py purpose s s') : (s'.copy py purpose).Part (s.copy py purpose) := by
  cases step with
  | @field levels entries i key value visit kept shown plain =>
    obtain ⟨out, hcopy, -, -, hmem⟩ := @copy_mapping py purpose _ _ _ visit
    rw [hcopy]
    refine .entry ((hmem _).mpr (.inl ⟨i, key, value, kept, rfl⟩)) ?_
    rw [copyEntry_shown _ shown, redactField_plain _ plain]
    exact .whole
  | @item heap levels items i item visit copied at_ =>
    obtain ⟨out, hcopy, -, hmem⟩ := @copy_items py purpose _ _ _ _ visit
    rw [hcopy]
    exact .item ((hmem _).mpr (.inl ⟨i, item, copied, at_, rfl⟩)) .whole

theorem Inserted.part {s : Stop} {text : String} (inserted : Inserted py purpose s text) :
    (Redacted.str text).Part (s.copy py purpose) := by
  have hentry : ∀ {levels : Nat} {entries : List (String × Ref)} {i : Nat} {key : String} {value : Ref}
    {text : String},
      s.visit = .entries levels entries → Kept entries i key value →
      (copyEntry py purpose (redactLevels py purpose levels) (key, value)
        (entryHeap py purpose levels entries i s.heap)).1 =
        (key, .str text) → (Redacted.str text).Part (s.copy py purpose) := by
    intro levels entries i key value text visit kept hcopied
    obtain ⟨out, hcopy, -, -, hmem⟩ := @copy_mapping py purpose _ _ _ visit
    rw [hcopy]
    exact .entry ((hmem _).mpr (.inl ⟨i, key, value, kept, hcopied.symm⟩)) .whole
  cases inserted with
  | reasoning visit kept withheld => exact hentry visit kept (congrArg Prod.fst (copyEntry_reasoning _ withheld))
  | secret visit kept withheld =>
    exact hentry visit kept (congrArg Prod.fst (copyEntry_secret _ withheld.1 withheld.2))
  | masked visit kept shown masked =>
    refine hentry visit kept ?_
    rw [copyEntry_shown _ shown, redactField_masked _ masked]
  | moreKeys visit more =>
    obtain ⟨out, hcopy, -, -, hmem⟩ := @copy_mapping py purpose _ _ _ visit
    rw [hcopy]
    exact .entry ((hmem _).mpr (.inr (mem_moreKeys.mpr ⟨more, rfl⟩))) .whole
  | moreItems visit more =>
    obtain ⟨out, hcopy, -, hmem⟩ := @copy_items py purpose _ _ _ _ visit
    rw [hcopy]
    exact .item ((hmem _).mpr (.inr (mem_moreItems.mpr ⟨more, rfl⟩))) .whole

theorem Met.part {s s' : Stop} (met : Met py purpose s s') : (s'.copy py purpose).Part (s.copy py purpose) := by
  induction met with
  | refl => exact .whole
  | tail _ step ih => exact step.part.trans ih

/-- The parts of a copy are what the walk copies at its stops and the texts that it inserts there. -/
theorem part_copy_iff {x : Redacted} (s : Stop) : x.Part (s.copy py purpose) ↔
    ∃ s', Met py purpose s s' ∧ (x = s'.copy py purpose ∨ ∃ text, Inserted py purpose s' text ∧ x = .str text) := by
  constructor
  · -- by the number of levels that are left
    induction hlevels : s.levels using Nat.strong_induction_on generalizing s with
    | _ levels ih =>
      intro hpart
      subst hlevels
      -- what is in the copy of the next stop
      have hnext : ∀ s', Step py purpose s s' → x.Part (s'.copy py purpose) →
          ∃ s', Met py purpose s s' ∧ (x = s'.copy py purpose ∨ ∃ text, Inserted py purpose s' text ∧
            x = .str text) := by
        intro s' step hpart
        obtain ⟨s'', hmet, hx⟩ := ih s'.levels step.levels_lt s' rfl hpart
        exact ⟨s'', .head step hmet, hx⟩
      cases hvisit : s.visit with
      | entries levels entries =>
        obtain ⟨out, hcopy, -, -, hmem⟩ := @copy_mapping py purpose _ _ _ hvisit
        rw [hcopy] at hpart
        rcases Redacted.part_mapping_iff.mp hpart with rfl | ⟨e, he, hpart⟩
        · exact ⟨s, .refl, .inl hcopy.symm⟩
        · rcases (hmem e).mp he with ⟨i, key, value, hkept, rfl⟩ | hcount
          · rcases copyEntry_value hvisit hkept with ⟨text, inserted, hcopied⟩ | ⟨s', step, hcopied⟩
            · rw [hcopied] at hpart
              exact ⟨s, .refl, .inr ⟨text, inserted, Redacted.part_str_iff.mp hpart⟩⟩
            · rw [hcopied] at hpart
              exact hnext s' step hpart
          · obtain ⟨hmore, rfl⟩ := mem_moreKeys.mp hcount
            exact ⟨s, .refl, .inr ⟨_, .moreKeys hvisit hmore, Redacted.part_str_iff.mp hpart⟩⟩
      | items heap levels items =>
        obtain ⟨out, hcopy, -, hmem⟩ := @copy_items py purpose _ _ _ _ hvisit
        rw [hcopy] at hpart
        rcases Redacted.part_sequence_iff.mp hpart with rfl | ⟨r, hr, hpart⟩
        · exact ⟨s, .refl, .inl hcopy.symm⟩
        · rcases (hmem r).mp hr with ⟨i, item, hcap, hitem, rfl⟩ | hcount
          · exact hnext _ (.item hvisit hcap hitem) hpart
          · obtain ⟨hmore, rfl⟩ := mem_moreItems.mp hcount
            exact ⟨s, .refl, .inr ⟨_, .moreItems hvisit hmore, Redacted.part_str_iff.mp hpart⟩⟩
      | scalar copy =>
        have hcopy := s.copy_eq py purpose
        rw [hvisit] at hcopy
        rw [hcopy] at hpart
        exact ⟨s, .refl, .inl (((Redacted.part_scalar_iff (Stop.visit_scalar hvisit)).mp hpart).trans hcopy.symm)⟩
      | _ =>
        have hcopy := s.copy_eq py purpose
        rw [hvisit] at hcopy
        rw [hcopy] at hpart
        exact ⟨s, .refl, .inl ((Redacted.part_str_iff.mp hpart).trans hcopy.symm)⟩
  · rintro ⟨s', hmet, hx⟩
    rcases hx with rfl | ⟨text, inserted, rfl⟩
    · exact hmet.part
    · exact inserted.part.trans hmet.part

end

/-! ## Depth -/

/-- Containers are nested no deeper than this. -/
def Redacted.Fits : Nat → Redacted → Prop
  | levels + 1, .mapping entries => ∀ e ∈ entries, e.2.Fits levels
  | levels + 1, .sequence items => ∀ r ∈ items, r.Fits levels
  | 0, .mapping _ | 0, .sequence _ => False
  | _, _ => True

theorem Redacted.fits_str (levels : Nat) (text : String) : (Redacted.str text).Fits levels := by
  cases levels <;> trivial

theorem Redacted.Fits.mono : ∀ {levels levels' : Nat} {r : Redacted}, r.Fits levels → levels ≤ levels' →
    r.Fits levels' := by
  intro levels
  induction levels with
  | zero =>
    intro levels' r fits _
    cases r with
    | mapping entries => exact absurd fits id
    | sequence items => exact absurd fits id
    | _ => cases levels' <;> trivial
  | succ levels ih =>
    intro levels' r fits hle
    obtain ⟨more, rfl⟩ : ∃ more, levels' = more + 1 := ⟨levels' - 1, by omega⟩
    cases r with
    | mapping entries => exact fun e he => ih (fits e he) (by omega)
    | sequence items => exact fun r hr => ih (fits r hr) (by omega)
    | _ => trivial

/-- A copy nests no deeper than the levels that were left. -/
theorem Stop.fits_copy (py : Runtime) (purpose : RedactionPurpose) (s : Stop) :
    (s.copy py purpose).Fits s.levels := by
  induction hlevels : s.levels using Nat.strong_induction_on generalizing s with
  | _ levels ih =>
    have hnext : ∀ s', Step py purpose s s' → (s'.copy py purpose).Fits (levels - 1) := by
      intro s' step
      have hlt := step.levels_lt
      exact (ih s'.levels (by omega) s' rfl).mono (by omega)
    cases hvisit : s.visit with
    | entries below entries =>
      have hlt := Stop.visit_entries hvisit
      obtain ⟨rest, rfl⟩ : ∃ rest, levels = rest + 1 := ⟨levels - 1, by omega⟩
      obtain ⟨out, hcopy, -, -, hmem⟩ := @copy_mapping py purpose _ _ _ hvisit
      rw [hcopy]
      intro e he
      rcases (hmem e).mp he with ⟨i, key, value, hkept, rfl⟩ | hcount
      · rcases copyEntry_value hvisit hkept with ⟨text, -, hcopied⟩ | ⟨s', step, hcopied⟩
        · rw [hcopied]
          exact Redacted.fits_str rest text
        · rw [hcopied]
          exact hnext s' step
      · rw [(mem_moreKeys.mp hcount).2]
        exact Redacted.fits_str rest _
    | items heap below items =>
      have hlt := Stop.visit_items hvisit
      obtain ⟨rest, rfl⟩ : ∃ rest, levels = rest + 1 := ⟨levels - 1, by omega⟩
      obtain ⟨out, hcopy, -, hmem⟩ := @copy_items py purpose _ _ _ _ hvisit
      rw [hcopy]
      intro r hr
      rcases (hmem r).mp hr with ⟨i, item, hcap, hitem, rfl⟩ | hcount
      · exact hnext _ (.item hvisit hcap hitem)
      · rw [(mem_moreItems.mp hcount).2]
        exact Redacted.fits_str rest _
    | scalar copy =>
      have hcopy := s.copy_eq py purpose
      rw [hvisit] at hcopy
      rw [hcopy]
      cases Stop.visit_scalar hvisit <;> cases levels <;> trivial
    | _ =>
      have hcopy := s.copy_eq py purpose
      rw [hvisit] at hcopy
      rw [hcopy]
      exact Redacted.fits_str levels _

end NovaCommerce.Redaction
