import NovaCommerce.Payment.Providers

/-!
# Stored payloads

`filter_callback_payload` reads the provider's live dict and builds a new one. The objects of the program are cells of
a heap; a payload is a tree that they show.

* `filterAt` : the filter on a heap; `filterJson` is the tree that its result shows (`filterAt_shows`);
* `Agree` : payloads that differ under sensitive keys only (`filterJson_agree`);
* `Json.at` : the value at a key path (`filterJson_at`).
-/

namespace NovaCommerce

/-! ## Objects -/

/-- A value of the program: scalars are immutable, dicts and lists are cells. -/
inductive PyValue where
  | null
  | bool (value : Bool)
  | int (value : Int)
  | float (value : JsonFloat)
  | str (value : String)
  | ref (cell : Nat)

/-- A mutable object. -/
inductive PyCell where
  | dict (entries : Dict String PyValue)
  | list (items : List PyValue)

/-- The objects of the program, in the order they were made. -/
abbrev PyHeap := List PyCell

namespace PyHeap

/-- `filtered[key] = value`. -/
def setItem (h : PyHeap) (r : Nat) (key : String) (value : PyValue) : PyHeap :=
  h.modify r fun cell => match cell with
    | .dict entries => .dict (entries.set key value)
    | .list items => .list items

/-- The objects of `h` are there, unchanged, among those of `h'`. -/
structure Keeps (h h' : PyHeap) : Prop where
  length_le : h.length ≤ h'.length
  kept : ∀ r < h.length, h'[r]? = h[r]?

end PyHeap

/-- A value shows a tree, whose dicts and lists are cells that satisfy `p`. -/
inductive Shows (h : PyHeap) (p : Nat → Prop) : PyValue → Json → Prop where
  | null : Shows h p .null .null
  | bool (value : Bool) : Shows h p (.bool value) (.bool value)
  | int (value : Int) : Shows h p (.int value) (.int value)
  | float (value : JsonFloat) : Shows h p (.float value) (.float value)
  | str (value : String) : Shows h p (.str value) (.str value)
  | obj {r : Nat} {entries : Dict String PyValue} {fields : JsonObject} (here : p r)
      (cell : h[r]? = some (.dict entries)) (keys : entries.entries.map Prod.fst = fields.map Prod.fst)
      (values : ∀ (i : Nat) e f, entries.entries[i]? = some e → fields[i]? = some f → Shows h p e.2 f.2) :
      Shows h p (.ref r) (.obj fields)
  | arr {r : Nat} {items : List PyValue} {values : List Json} (here : p r) (cell : h[r]? = some (.list items))
      (length : items.length = values.length)
      (parts : ∀ (i : Nat) v j, items[i]? = some v → values[i]? = some j → Shows h p v j) :
      Shows h p (.ref r) (.arr values)

namespace Deployment

variable (env : Deployment)

/-! ## The filter -/

/-- The entries of a mapping, written to the new dict one by one. -/
def filterEntries (filterOne : PyValue → PyHeap → PyValue × PyHeap) (filtered : Nat) :
    List (String × PyValue) → PyHeap → PyHeap
  | [], h => h
  | (key, value) :: rest, h =>
    if env.isSensitiveKey key then
      filterEntries filterOne filtered rest (h.setItem filtered key (.str payloadRedacted))
    else
      let (value, h) := filterOne value h
      filterEntries filterOne filtered rest (h.setItem filtered key value)

/-- The items of a sequence, from left to right. -/
def filterItems (filterOne : PyValue → PyHeap → PyValue × PyHeap) : List PyValue → PyHeap → List PyValue × PyHeap
  | [], h => ([], h)
  | item :: rest, h =>
    let (item, h) := filterOne item h
    let (rest, h) := filterItems filterOne rest h
    (item :: rest, h)

/-- `filter_callback_payload`, with `levels` left before the depth limit. -/
def filterAt : Nat → PyValue → PyHeap → PyValue × PyHeap
  | 0, _, h => (.str payloadRedacted, h)
  | levels + 1, .ref r, h =>
    match h[r]? with
    | some (.dict entries) =>
      (.ref h.length, env.filterEntries (filterAt levels) h.length entries.entries (h ++ [.dict Dict.empty]))
    | some (.list items) =>
      let (items, h) := filterItems (filterAt levels) items h
      (.ref h.length, h ++ [.list items])
    | none => (.ref r, h)
  | _ + 1, value, h => (value, h)

/-- `filter_callback_payload` of a payload, from its top. -/
def filterPayload (payload : PyValue) (h : PyHeap) : PyValue × PyHeap := env.filterAt (maxDepth + 1) payload h

/-! ## Payloads that differ under sensitive keys -/

/-- Two payloads that are equal but for what they hold under sensitive keys, at any depth. -/
inductive Agree : Json → Json → Prop where
  | refl (value : Json) : Agree value value
  | obj {fields fields' : JsonObject} (keys : fields.map Prod.fst = fields'.map Prod.fst)
      (values : ∀ (i : Nat) f f', fields[i]? = some f → fields'[i]? = some f' → env.isSensitiveKey f.1 = false →
        Agree f.2 f'.2) : Agree (.obj fields) (.obj fields')
  | arr {items items' : List Json} (length : items.length = items'.length)
      (parts : ∀ (i : Nat) j j', items[i]? = some j → items'[i]? = some j' → Agree j j') : Agree (.arr items)
      (.arr items')

end Deployment

/-! ## Key paths -/

/-- A step into a payload. -/
inductive PathStep where
  | key (key : String)
  | index (i : Nat)

/-- The value at a path. -/
def Json.at : List PathStep → Json → Option Json
  | [], value => some value
  | .key key :: path, .obj fields => (fields.find? fun f => f.1 = key).bind fun f => Json.at path f.2
  | .index i :: path, .arr items => items[i]?.bind (Json.at path)
  | _ :: _, _ => none

/-- A value that holds no other. -/
def Json.Leaf : Json → Prop
  | .obj _ => False
  | .arr _ => False
  | _ => True

/-- Lists with the same keys have the same key at each index. -/
theorem pair_at {β γ : Type} {xs : List (String × β)} {ys : List (String × γ)} (h : xs.map Prod.fst = ys.map Prod.fst)
    (i : Nat) : (xs[i]? = none ∧ ys[i]? = none) ∨ ∃ x y, xs[i]? = some x ∧ ys[i]? = some y ∧ x.1 = y.1 := by
  have hi := congrArg (fun keys => keys[i]?) h
  simp only [List.getElem?_map] at hi
  cases hx : xs[i]? with
  | none =>
    rw [hx, Option.map_none, eq_comm, Option.map_eq_none_iff] at hi
    exact .inl ⟨rfl, hi⟩
  | some x =>
    rw [hx, Option.map_some, eq_comm, Option.map_eq_some_iff] at hi
    obtain ⟨y, hy, hkey⟩ := hi
    exact .inr ⟨x, y, rfl, hy, hkey.symm⟩

namespace Deployment

variable (env : Deployment)

/-- No key of a path is sensitive. -/
def Open (path : List PathStep) : Prop := ∀ key, PathStep.key key ∈ path → env.isSensitiveKey key = false

/-! ## The tree that is stored -/

theorem filterJson_obj (levels : Nat) (fields : JsonObject) :
    env.filterJson (levels + 1) (.obj fields) = .obj (fields.map fun field =>
      (field.1, if env.isSensitiveKey field.1 then .str payloadRedacted else env.filterJson levels field.2)) := rfl

theorem filterJson_arr (levels : Nat) (items : List Json) :
    env.filterJson (levels + 1) (.arr items) = .arr (items.map (env.filterJson levels)) := rfl

theorem filterJson_agree : ∀ (levels : Nat) {payload payload' : Json}, env.Agree payload payload' →
    env.filterJson levels payload = env.filterJson levels payload' := by
  intro levels
  induction levels with
  | zero => exact fun _ => rfl
  | succ levels ih =>
    intro payload payload' hagree
    cases hagree with
    | refl => rfl
    | @obj fields fields' keys values =>
      rw [filterJson_obj, filterJson_obj]
      congr 1
      refine List.ext_getElem? fun i => ?_
      rw [List.getElem?_map, List.getElem?_map]
      rcases pair_at keys i with ⟨hx, hy⟩ | ⟨f, f', hx, hy, hkey⟩
      · rw [hx, hy]
      · rw [hx, hy, Option.map_some, Option.map_some, hkey]
        split_ifs with hsensitive
        · rfl
        · rw [ih (values i f f' hx hy (by rw [hkey]; simpa using hsensitive))]
    | @arr items items' length parts =>
      rw [filterJson_arr, filterJson_arr]
      congr 1
      refine List.ext_getElem (by simpa using length) fun i hi hi' => ?_
      rw [List.getElem_map, List.getElem_map]
      exact ih (parts i _ _ (List.getElem?_eq_getElem _) (List.getElem?_eq_getElem _))

theorem filterJson_idempotent : ∀ (levels : Nat) (payload : Json),
    env.filterJson levels (env.filterJson levels payload) = env.filterJson levels payload := by
  intro levels
  induction levels with
  | zero => exact fun _ => rfl
  | succ levels ih =>
    intro payload
    cases payload with
    | arr items =>
      rw [filterJson_arr, filterJson_arr, List.map_map]
      congr 1
      exact List.map_congr_left fun item _ => ih item
    | obj fields =>
      rw [filterJson_obj, filterJson_obj, List.map_map]
      congr 1
      refine List.map_congr_left fun field _ => ?_
      dsimp only [Function.comp_apply]
      split_ifs with hsensitive
      · rfl
      · rw [ih]
    | _ => rfl

/-- A leaf that is not below the depth limit, and under no sensitive key, stands where it stood. -/
theorem filterJson_at {leaf : Json} (hleaf : leaf.Leaf) : ∀ (path : List PathStep) {levels : Nat} {payload : Json},
    path.length < levels → env.Open path → payload.at path = some leaf → (env.filterJson levels payload).at path =
      some leaf := by
  intro path
  induction path with
  | nil =>
    intro levels payload hlevels _ hat
    obtain ⟨n, rfl⟩ : ∃ n, levels = n + 1 := ⟨levels - 1, by simp at hlevels; omega⟩
    obtain rfl := Option.some.inj hat
    cases payload with
    | obj => exact hleaf.elim
    | arr => exact hleaf.elim
    | _ => rfl
  | cons step path ih =>
    intro levels payload hlevels hopen hat
    obtain ⟨n, rfl⟩ : ∃ n, levels = n + 1 := ⟨levels - 1, by simp at hlevels; omega⟩
    have hn : path.length < n := by simpa using hlevels
    have hrest : env.Open path := fun key hkey => hopen key (List.mem_cons_of_mem _ hkey)
    cases step with
    | key key =>
      cases payload with
      | obj fields =>
        have hkey : env.isSensitiveKey key = false := hopen key List.mem_cons_self
        obtain ⟨field, hfind, hvalue⟩ := Option.bind_eq_some_iff.mp hat
        have hname : field.1 = key := by simpa using List.find?_some hfind
        rw [filterJson_obj]
        show ((fields.map _).find? fun f : String × Json => decide (f.1 = key)).bind _ = some leaf
        rw [List.find?_map]
        have hsame : ((fun f : String × Json => decide (f.1 = key)) ∘ fun field : String × Json =>
            (field.1, if env.isSensitiveKey field.1 then Json.str payloadRedacted else env.filterJson n field.2)) =
            fun f => decide (f.1 = key) := rfl
        rw [hsame, hfind]
        show Json.at path (if env.isSensitiveKey field.1 then _ else _) = some leaf
        rw [hname, hkey, if_neg Bool.false_ne_true]
        exact ih hn hrest hvalue
      | _ => cases hat
    | index i =>
      cases payload with
      | arr items =>
        obtain ⟨item, hitem, hvalue⟩ := Option.bind_eq_some_iff.mp hat
        show (items.map (env.filterJson n))[i]?.bind _ = some leaf
        rw [List.getElem?_map, hitem]
        exact ih hn hrest hvalue
      | _ => cases hat

/-! ## The objects that are made -/

end Deployment

namespace PyHeap

theorem Keeps.refl (h : PyHeap) : h.Keeps h := ⟨le_refl _, fun _ _ => rfl⟩

theorem Keeps.trans {h h' h'' : PyHeap} (first : h.Keeps h') (second : h'.Keeps h'') : h.Keeps h'' where
  length_le := le_trans first.length_le second.length_le
  kept r hr := (second.kept r (lt_of_lt_of_le hr first.length_le)).trans (first.kept r hr)

theorem keeps_append (h : PyHeap) (cell : PyCell) : h.Keeps (h ++ [cell]) where
  length_le := by simp
  kept r hr := List.getElem?_append_left hr

theorem length_setItem (h : PyHeap) (r : Nat) (key : String) (value : PyValue) : (h.setItem r key value).length =
    h.length :=
  List.length_modify _ _ _

theorem getElem?_setItem_ne {h : PyHeap} {r s : Nat} (hne : s ≠ r) (key : String) (value : PyValue) :
    (h.setItem r key value)[s]? = h[s]? := by
  unfold setItem
  rw [List.getElem?_modify]
  simp [Ne.symm hne]

theorem getElem?_setItem_self {h : PyHeap} {r : Nat} {entries : Dict String PyValue}
    (hr : h[r]? = some (.dict entries))
    (key : String) (value : PyValue) : (h.setItem r key value)[r]? = some (.dict (entries.set key value)) := by
  unfold setItem
  rw [List.getElem?_modify, hr]
  simp

/-- A dict that was made since is none of the old objects. -/
theorem Keeps.setItem {h h' : PyHeap} (keeps : h.Keeps h') {r : Nat} (hr : h.length ≤ r) (key : String)
    (value : PyValue) :
    h.Keeps (h'.setItem r key value) where
  length_le := by
    rw [length_setItem]
    exact keeps.length_le
  kept s hs := by
    rw [getElem?_setItem_ne (by omega)]
    exact keeps.kept s hs

end PyHeap

/-- A tree is still shown when the cells that show it are still there. -/
theorem Shows.mono {h h' : PyHeap} {p q : Nat → Prop} (hcells : ∀ r cell, p r → h[r]? = some cell → q r ∧
    h'[r]? = some cell)
    {v : PyValue} {j : Json} (hshows : Shows h p v j) : Shows h' q v j := by
  induction hshows with
  | null => exact .null
  | bool value => exact .bool value
  | int value => exact .int value
  | float value => exact .float value
  | str value => exact .str value
  | obj here cell keys _ ih =>
    obtain ⟨hq, hcell⟩ := hcells _ _ here cell
    exact .obj hq hcell keys ih
  | arr here cell length _ ih =>
    obtain ⟨hq, hcell⟩ := hcells _ _ here cell
    exact .arr hq hcell length ih

theorem Shows.keeps {h h' : PyHeap} {p : Nat → Prop} {v : PyValue} {j : Json} (hshows : Shows h p v j)
    (keeps : h.Keeps h') :
    Shows h' p v j := by
  refine hshows.mono fun r cell hr hcell => ⟨hr, ?_⟩
  rw [keeps.kept r (List.getElem?_eq_some_iff.mp hcell).1]
  exact hcell

theorem forall₂_iff_getElem? {α β : Type} {R : α → β → Prop} : ∀ {xs : List α} {ys : List β},
    List.Forall₂ R xs ys ↔ xs.length = ys.length ∧ ∀ (i : Nat) x y, xs[i]? = some x → ys[i]? = some y → R x y
  | [], [] => by simp
  | [], _ :: _ => by simp
  | _ :: _, [] => by simp
  | x :: xs, y :: ys => by
    rw [List.forall₂_cons, forall₂_iff_getElem?, List.length_cons, List.length_cons, Nat.add_right_cancel_iff]
    constructor
    · rintro ⟨hxy, hlength, hparts⟩
      refine ⟨hlength, fun i a b ha hb => ?_⟩
      cases i with
      | zero =>
        cases ha
        cases hb
        exact hxy
      | succ i => exact hparts i a b ha hb
    · rintro ⟨hlength, hparts⟩
      exact ⟨hparts 0 x y rfl rfl, hlength, fun i a b ha hb => hparts (i + 1) a b ha hb⟩

/-- Entries show fields: the same keys in the same order, and trees under them. -/
def ShowsFields (h : PyHeap) (p : Nat → Prop) (entries : List (String × PyValue)) (fields : JsonObject) : Prop :=
  List.Forall₂ (fun e f => e.1 = f.1 ∧ Shows h p e.2 f.2) entries fields

theorem showsFields_iff {h : PyHeap} {p : Nat → Prop} {entries : List (String × PyValue)} {fields : JsonObject} :
    ShowsFields h p entries fields ↔ entries.map Prod.fst = fields.map Prod.fst ∧
      ∀ (i : Nat) e f, entries[i]? = some e → fields[i]? = some f → Shows h p e.2 f.2 := by
  unfold ShowsFields
  constructor
  · intro hparts
    refine ⟨?_, fun i e f he hf => ((forall₂_iff_getElem?.mp hparts).2 i e f he hf).2⟩
    induction hparts with
    | nil => rfl
    | cons hpart _ ih => rw [List.map_cons, List.map_cons, hpart.1, ih]
  · rintro ⟨hkeys, hvalues⟩
    refine forall₂_iff_getElem?.mpr ⟨by simpa using congrArg List.length hkeys, fun i e f he hf =>
      ⟨?_, hvalues i e f he hf⟩⟩
    rcases pair_at hkeys i with ⟨hnone, -⟩ | ⟨e', f', he', hf', hkey⟩
    · rw [he] at hnone
      cases hnone
    · rw [he] at he'
      rw [hf] at hf'
      cases he'
      cases hf'
      exact hkey

theorem ShowsFields.mono {h h' : PyHeap} {p q : Nat → Prop} (hcells : ∀ r cell, p r → h[r]? = some cell → q r ∧
    h'[r]? = some cell)
    {entries : List (String × PyValue)} {fields : JsonObject} (hshows : ShowsFields h p entries fields) :
    ShowsFields h' q entries fields :=
  List.Forall₂.imp (fun _ _ hpart => ⟨hpart.1, hpart.2.mono hcells⟩) hshows

/-- A walk makes new objects only, and what it returns shows the image of what it was given. -/
def Filters (walk : PyValue → PyHeap → PyValue × PyHeap) (f : Json → Json) : Prop :=
  ∀ {h : PyHeap} {p : Nat → Prop} {v : PyValue} {j : Json}, Shows h p v j →
    h.Keeps (walk v h).2 ∧ Shows (walk v h).2 (fun r => h.length ≤ r) (walk v h).1 (f j)

namespace Deployment

variable (env : Deployment) {walk : PyValue → PyHeap → PyValue × PyHeap} {f : Json → Json}

theorem filterItems_shows (hwalk : Filters walk f) : ∀ (items : List PyValue) {values : List Json} {h : PyHeap}
    {p : Nat → Prop},
    List.Forall₂ (Shows h p) items values →
    h.Keeps (filterItems walk items h).2 ∧
      List.Forall₂ (Shows (filterItems walk items h).2 fun r => h.length ≤ r) (filterItems walk items h).1
        (values.map f) := by
  intro items
  induction items with
  | nil =>
    intro values h p hparts
    cases hparts
    exact ⟨.refl h, .nil⟩
  | cons item rest ih =>
    intro values h p hparts
    cases hparts with
    | cons hitem hrest =>
      obtain ⟨hkeeps, hshows⟩ := hwalk hitem
      obtain ⟨hkeeps', hshows'⟩ := ih (List.Forall₂.imp (fun _ _ h => h.keeps hkeeps) hrest)
      refine ⟨hkeeps.trans hkeeps', .cons (hshows.keeps hkeeps') (List.Forall₂.imp (fun _ _ h => ?_) hshows')⟩
      exact h.mono fun r cell hr hcell => ⟨le_trans hkeeps.length_le hr, hcell⟩

/-- What other cells show is still shown after a write to the new dict. -/
theorem setItem_others {h h₁ : PyHeap} (hkeeps : h.Keeps h₁) {out : Nat} {p : Nat → Prop} (hp : ∀ r, p r → r ≠ out)
    (key : String)
    (v : PyValue) {entries : List (String × PyValue)} {fields : JsonObject}
    (hfields : ShowsFields h p entries fields) :
    ShowsFields (h₁.setItem out key v) p entries fields := by
  refine hfields.mono fun r cell hr hcell => ⟨hr, ?_⟩
  rw [PyHeap.getElem?_setItem_ne (hp r hr), hkeeps.kept r (List.getElem?_eq_some_iff.mp hcell).1]
  exact hcell

/-- The new dict after one more entry. -/
theorem setItem_shows {h h₁ : PyHeap} (hkeeps : h.Keeps h₁) {out : Nat} {acc : Dict String PyValue}
    (hout : h[out]? = some (.dict acc))
    {key : String} (hfresh : acc.get? key = none) {done : JsonObject}
    (hdone : ShowsFields h (fun r => out < r) acc.entries done)
    {v : PyValue} {j : Json} (hv : Shows h₁ (fun r => out < r) v j) :
    (h₁.setItem out key v)[out]? = some (.dict (acc.set key v)) ∧
      ShowsFields (h₁.setItem out key v) (fun r => out < r) (acc.set key v).entries (done ++ [(key, j)]) := by
  have hout₁ : h₁[out]? = some (.dict acc) := (hkeeps.kept out (List.getElem?_eq_some_iff.mp hout).1).trans hout
  refine ⟨PyHeap.getElem?_setItem_self hout₁ key v, ?_⟩
  rw [Dict.entries_set_fresh hfresh]
  have hv' : Shows (h₁.setItem out key v) (fun r => out < r) v j := by
    refine hv.mono fun r cell hr hcell => ⟨hr, ?_⟩
    rw [PyHeap.getElem?_setItem_ne (by omega)]
    exact hcell
  exact List.rel_append (setItem_others hkeeps (fun r hr => by omega) key v hdone) (.cons ⟨rfl, hv'⟩ .nil)

/-- The new dict is filled with the images of the entries; no other object changes. -/
theorem filterEntries_shows (hwalk : Filters walk f) {out : Nat} : ∀ (entries : List (String × PyValue))
    {fields done : JsonObject}
    {h : PyHeap} {p : Nat → Prop} {acc : Dict String PyValue}, (∀ r, p r → r ≠ out) → ShowsFields h p entries fields →
    h[out]? = some (.dict acc) → ShowsFields h (fun r => out < r) acc.entries done →
    (entries.map Prod.fst).Nodup → (∀ e ∈ entries, acc.get? e.1 = none) →
    ∃ filled : Dict String PyValue, h.length ≤ (env.filterEntries walk out entries h).length ∧
      (∀ r < h.length, r ≠ out → (env.filterEntries walk out entries h)[r]? = h[r]?) ∧
      (env.filterEntries walk out entries h)[out]? = some (.dict filled) ∧
      ShowsFields (env.filterEntries walk out entries h) (fun r => out < r) filled.entries
        (done ++ fields.map fun field =>
          (field.1, if env.isSensitiveKey field.1 then .str payloadRedacted else f field.2)) := by
  intro entries
  induction entries with
  | nil =>
    intro fields done h p acc _ hfields hout hdone _ _
    cases hfields
    refine ⟨acc, le_refl _, fun _ _ _ => rfl, hout, ?_⟩
    rw [List.map_nil, List.append_nil]
    exact hdone
  | cons entry rest ih =>
    intro fields done h p acc hp hfields hout hdone hnodup hfresh
    obtain ⟨key, value⟩ := entry
    cases hfields with
    | @cons _ field _ fields hfield hrest =>
      obtain ⟨field, j⟩ := field
      obtain ⟨rfl, hvalue⟩ : key = field ∧ Shows h p value j := hfield
      rw [List.map_cons, List.nodup_cons] at hnodup
      have hkey : acc.get? key = none := hfresh _ List.mem_cons_self
      have hfresh' : ∀ v, ∀ e ∈ rest, (acc.set key v).get? e.1 = none := by
        intro v e he
        have hne : e.1 ≠ key := by
          rintro rfl
          exact hnodup.1 (List.mem_map.mpr ⟨e, he, rfl⟩)
        rw [Dict.get?_set_ne hne]
        exact hfresh e (List.mem_cons_of_mem _ he)
      have hlt : out < h.length := (List.getElem?_eq_some_iff.mp hout).1
      unfold filterEntries
      rw [List.map_cons, List.append_cons]
      dsimp only
      split_ifs with hsensitive
      · obtain ⟨hout', hdone'⟩ := setItem_shows (.refl h) hout hkey hdone (.str payloadRedacted)
        obtain ⟨filled, hlength, hkept, hfilled, hshows⟩ :=
          ih hp (setItem_others (.refl h) hp key _ hrest) hout' hdone' hnodup.2 (hfresh' _)
        rw [PyHeap.length_setItem] at hlength hkept
        exact ⟨filled, hlength, fun r hr hne => (hkept r hr hne).trans (PyHeap.getElem?_setItem_ne hne _ _),
          hfilled, hshows⟩
      · obtain ⟨hkeeps, hv⟩ := hwalk hvalue
        have hv' := hv.mono fun r cell hr hcell => ⟨lt_of_lt_of_le hlt hr, hcell⟩
        obtain ⟨hout', hdone'⟩ := setItem_shows hkeeps hout hkey hdone hv'
        obtain ⟨filled, hlength, hkept, hfilled, hshows⟩ :=
          ih hp (setItem_others hkeeps hp key _ hrest) hout' hdone' hnodup.2 (hfresh' _)
        rw [PyHeap.length_setItem] at hlength hkept
        refine ⟨filled, le_trans hkeeps.length_le hlength, fun r hr hne => ?_, hfilled, hshows⟩
        rw [hkept r (lt_of_lt_of_le hr hkeeps.length_le) hne, PyHeap.getElem?_setItem_ne hne]
        exact hkeeps.kept r hr

/-- The filter makes new objects only, and they show the filtered tree. -/
theorem filterAt_shows : ∀ levels : Nat, Filters (env.filterAt levels) (env.filterJson levels) := by
  intro levels
  induction levels with
  | zero => exact fun {h} _ _ _ _ => ⟨.refl h, .str payloadRedacted⟩
  | succ levels ih =>
    intro h p v j hshows
    cases hshows with
    | @obj r entries fields here cell keys values =>
      have hlt : r < h.length := (List.getElem?_eq_some_iff.mp cell).1
      have hfields : ShowsFields (h ++ [.dict Dict.empty]) (fun r => r < h.length) entries.entries fields := by
        refine ShowsFields.mono (fun r cell _ hcell => ⟨(List.getElem?_eq_some_iff.mp hcell).1, ?_⟩)
          (showsFields_iff.mpr ⟨keys, values⟩)
        rw [(PyHeap.keeps_append h _).kept r (List.getElem?_eq_some_iff.mp hcell).1]
        exact hcell
      have hrun : env.filterAt (levels + 1) (.ref r) h =
          (.ref h.length, env.filterEntries (env.filterAt levels) h.length entries.entries
            (h ++ [.dict Dict.empty])) := by
        unfold filterAt
        rw [cell]
      have hnew : (h ++ [.dict Dict.empty])[h.length]? = some (.dict (Dict.empty : Dict String PyValue)) := by simp
      have hnone : ShowsFields (h ++ [.dict Dict.empty]) (fun r => h.length < r)
        (Dict.empty : Dict String PyValue).entries [] := .nil
      obtain ⟨filled, hlength, hkept, hfilled, hfields'⟩ := env.filterEntries_shows ih entries.entries
        (fun r hr => Nat.ne_of_lt hr) hfields hnew hnone entries.nodup (fun e _ => Dict.get?_empty e.1)
      obtain ⟨hkeys, hvalues⟩ := showsFields_iff.mp hfields'
      rw [hrun, filterJson_obj]
      refine ⟨⟨?_, fun r hr => ?_⟩, .obj (le_refl _) hfilled hkeys fun i e f he hf => ?_⟩
      · rw [List.length_append, List.length_singleton] at hlength
        exact le_of_lt hlength
      · rw [hkept r (by simp; omega) (by omega), List.getElem?_append_left hr]
      · exact (hvalues i e f he hf).mono fun r cell hr hcell => ⟨le_of_lt hr, hcell⟩
    | @arr r items values here cell length parts =>
      obtain ⟨hkeeps, hitems⟩ := filterItems_shows ih items (forall₂_iff_getElem?.mpr ⟨length, parts⟩)
      have hrun : env.filterAt (levels + 1) (.ref r) h = (.ref (filterItems (env.filterAt levels) items h).2.length,
          (filterItems (env.filterAt levels) items h).2 ++
            [.list (filterItems (env.filterAt levels) items h).1]) := by
        unfold filterAt
        rw [cell]
      obtain ⟨hlength, hparts⟩ := forall₂_iff_getElem?.mp hitems
      have happend := PyHeap.keeps_append (filterItems (env.filterAt levels) items h).2
        (.list (filterItems (env.filterAt levels) items h).1)
      rw [hrun, filterJson_arr]
      exact ⟨hkeeps.trans happend, .arr hkeeps.length_le (by simp) hlength fun i v j hv hj =>
        (hparts i v j hv hj).keeps happend⟩
    | null => exact ⟨.refl h, .null⟩
    | bool value => exact ⟨.refl h, .bool value⟩
    | int value => exact ⟨.refl h, .int value⟩
    | float value => exact ⟨.refl h, .float value⟩
    | str value => exact ⟨.refl h, .str value⟩

/-- The filter of a payload: its result shows one tree, which is the same for every payload that differs under sensitive keys
only, has every leaf that is not below the depth limit and under no sensitive key, and is left as it is by the filter; the objects
of the program are left as they were. -/
theorem filterPayload_faithful {h : PyHeap} {p : Nat → Prop} {v : PyValue} {payload : Json}
    (hshows : Shows h p v payload) :
    ∃ filtered, Shows (env.filterPayload v h).2 (fun r => h.length ≤ r) (env.filterPayload v h).1 filtered ∧
      (∀ {h' : PyHeap} {p' : Nat → Prop} {v' : PyValue} {payload' : Json}, Shows h' p' v' payload' →
        env.Agree payload payload' →
        Shows (env.filterPayload v' h').2 (fun r => h'.length ≤ r) (env.filterPayload v' h').1 filtered) ∧
      (∀ (path : List PathStep) (leaf : Json), path.length ≤ maxDepth → env.Open path → leaf.Leaf →
        payload.at path = some leaf →
        filtered.at path = some leaf) ∧
      (∀ {h' : PyHeap} {p' : Nat → Prop} {v' : PyValue}, Shows h' p' v' filtered →
        Shows (env.filterPayload v' h').2 (fun r => h'.length ≤ r) (env.filterPayload v' h').1 filtered) ∧
      h.Keeps (env.filterPayload v h).2 := by
  obtain ⟨hkeeps, hresult⟩ := env.filterAt_shows (maxDepth + 1) hshows
  refine ⟨_, hresult, fun {h' p' v' payload'} hshows' hagree => ?_, fun path leaf hpath hopen hleaf hat => ?_,
    fun {h' p' v'} hshows' => ?_, hkeeps⟩
  · rw [env.filterJson_agree (maxDepth + 1) hagree]
    exact (env.filterAt_shows (maxDepth + 1) hshows').2
  · exact env.filterJson_at hleaf path (Nat.lt_succ_of_le hpath) hopen hat
  · have hagain := (env.filterAt_shows (maxDepth + 1) hshows').2
    rw [env.filterJson_idempotent] at hagain
    exact hagain

end Deployment

/-- A runtime that knows the case and the letters of ASCII. -/
def sampleFilter : Deployment where
  settings := {}
  upperText := String.toUpper
  lowerText := String.toLower
  isAlnumChar _ := false
  sha256Hex _ := ""
  hmacHex _ _ := ""
  jsonLoads _ := none

/-- `{"data": {"card_no": "4111", "amount": 1000}}`. -/
def sampleCard : PyHeap := [
  .dict (Dict.ofList [("data", .ref 1)]),
  .dict (Dict.ofList [("card_no", .str "4111"), ("amount", .int 1000)])]

theorem sampleCard_shows : Shows sampleCard (fun _ => True) (.ref 0)
    (.obj [("data", .obj [("card_no", .str "4111"), ("amount", .int 1000)])]) := by
  have hdata : Shows sampleCard (fun _ => True) (.ref 1)
    (.obj [("card_no", .str "4111"), ("amount", .int 1000)]) := by
    obtain ⟨keys, values⟩ := showsFields_iff.mp (.cons ⟨rfl, .str "4111"⟩ (.cons ⟨rfl, .int 1000⟩ .nil) :
      ShowsFields sampleCard (fun _ => True) [("card_no", .str "4111"), ("amount", .int 1000)]
        [("card_no", .str "4111"), ("amount", .int 1000)])
    exact .obj trivial rfl keys values
  obtain ⟨keys, values⟩ := showsFields_iff.mp (.cons ⟨rfl, hdata⟩ .nil :
    ShowsFields sampleCard (fun _ => True) [("data", .ref 1)]
      [("data", .obj [("card_no", .str "4111"), ("amount", .int 1000)])])
  exact .obj trivial rfl keys values

theorem filterPayload_card : ∃ filtered,
    Shows (sampleFilter.filterPayload (.ref 0) sampleCard).2 (fun r => 2 ≤ r)
      (sampleFilter.filterPayload (.ref 0) sampleCard).1 filtered ∧
      filtered.at [.key "data", .key "amount"] = some (.int 1000) ∧
      sampleCard.Keeps (sampleFilter.filterPayload (.ref 0) sampleCard).2 := by
  obtain ⟨filtered, hshows, -, hkept, -, hkeeps⟩ := sampleFilter.filterPayload_faithful sampleCard_shows
  have hopen : sampleFilter.Open [.key "data", .key "amount"] := by
    intro key hkey
    simp only [List.mem_cons, PathStep.key.injEq, List.not_mem_nil, or_false] at hkey
    rcases hkey with rfl | rfl
    · decide
    · decide
  exact ⟨filtered, hshows, hkept _ _ (by decide) hopen trivial rfl, hkeeps⟩

end NovaCommerce
