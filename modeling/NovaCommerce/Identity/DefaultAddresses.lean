import NovaCommerce.Identity.Addresses

/-!
# The default address

* `call_effect` : a call is refused or lost without a trace, or commits its `Effect`;
* `Untouched`, `Effect.untouched` : the rows of other users;
* `UpdateKeeps`, `Effect.updateKeeps` : what an update does not name;
* `AddressBook.OneDefault`, `run_oneDefault` : one default address, as long as no update clears the flag.
-/

namespace NovaCommerce.Addresses

open Sql

/-! ## What a call leaves -/

theorem noCommit_clearDefault (userId : Nat) (exceptId : Option Nat) : (clearDefault userId exceptId).NoCommit := by
  unfold clearDefault
  grind

theorem noCommit_writeAddress (id : Nat) (f : UserAddress → UserAddress) : (writeAddress id f).NoCommit := by
  unfold writeAddress
  grind

theorem noCommit_addAddress (a : UserAddress) : (addAddress a).NoCommit := by
  unfold addAddress
  grind

theorem noCommit_getAddress (userId addressId : Nat) : (getAddress userId addressId).NoCommit := by
  unfold getAddress
  grind

attribute [grind .] noCommit_clearDefault noCommit_writeAddress noCommit_addAddress noCommit_getAddress

theorem addAddress_eq_ok {a : UserAddress} {id : Nat} {e e' : Exec AddressBook} :
    (addAddress a).run e = (.ok id, e') ↔ a.Checked ∧ id = e.next ∧
      e' = { e with view := { e.view with addresses := e.view.addresses.set e.next a }, next := e.next + 1 } := by
  unfold addAddress
  rw [run_bind, run_newId, andThen_ok, run_bind_eq_ok]
  simp only [run_raiseIf_eq_ok, run_bind, run_update, andThen_ok, run_pure, Prod.mk.injEq, not_not]
  constructor
  · rintro ⟨_, e₁, ⟨hc, rfl⟩, hid, rfl⟩
    cases hid
    exact ⟨hc, rfl, rfl⟩
  · rintro ⟨hc, rfl, rfl⟩
    exact ⟨(), _, ⟨hc, rfl⟩, rfl, rfl⟩

/-- What a call writes when it ends in a value. -/
theorem leaves_create (userId : Nat) (merchantId : Option Nat) (fields : AddressCreate) (d : AddressBook) (next : Nat) :
    Leaves (Call.program (.create userId merchantId fields)) (Exec.start d next)
      (Effect next d (.create userId merchantId fields)) := by
  refine leaves_transaction_bind (by grind) (fun _ => noCommit_pure ()) fun id e hrun => ?_
  rw [run_bind, run_query, andThen_ok, run_bind_eq_ok] at hrun
  obtain ⟨_, e₁, hroom, hrun⟩ := hrun
  rw [run_raiseIf_eq_ok] at hroom
  obtain ⟨hroom, rfl⟩ := hroom
  rw [run_bind, run_query, andThen_ok] at hrun
  have hlt : (d.live userId).length < maxAddressesPerUser := not_le.mp hroom
  by_cases hdefault : (fields.isDefault || decide ((d.live userId).length = 0)) = true
  · have hcond : (fields.isDefault || decide (((Exec.start d next).view.live userId).length = 0)) = true := hdefault
    rw [if_pos hcond, run_bind, run_clearDefault, andThen_ok, addAddress_eq_ok] at hrun
    obtain ⟨-, -, rfl⟩ := hrun
    have h : Effect next d (.create userId merchantId fields) _ _ := .created hlt hdefault.symm
    rwa [if_pos rfl, ← hdefault] at h
  · have hcond : ¬ (fields.isDefault || decide (((Exec.start d next).view.live userId).length = 0)) = true := hdefault
    rw [if_neg hcond] at hrun
    simp only [addAddress_eq_ok] at hrun
    obtain ⟨-, -, rfl⟩ := hrun
    have hfalse : (fields.isDefault || decide ((d.live userId).length = 0)) = false := Bool.eq_false_of_not_eq_true hdefault
    have h : Effect next d (.create userId merchantId fields) _ _ := .created hlt hfalse.symm
    rwa [if_neg Bool.false_ne_true, ← hfalse] at h

theorem leaves_update (userId addressId : Nat) (changes : AddressUpdate) (d : AddressBook) (next : Nat) :
    Leaves (update userId addressId changes) (Exec.start d next) (Effect next d (.update userId addressId changes)) := by
  refine leaves_transaction (by grind) fun _ e hrun => ?_
  rw [run_bind_eq_ok] at hrun
  obtain ⟨a, e₁, hread, hrun⟩ := hrun
  obtain ⟨howned, rfl⟩ := getAddress_eq_ok.mp hread
  rw [run_bind_eq_ok] at hrun
  obtain ⟨_, e₁, hknown, hrun⟩ := hrun
  rw [run_raiseIf_eq_ok, not_not] at hknown
  obtain ⟨hknown, rfl⟩ := hknown
  have hget : d.addresses.get? addressId = some a := (getOwned_eq_some.mp howned).1
  by_cases hdefault : changes.isDefault = some true
  · rw [if_pos hdefault, run_bind, run_clearDefault, andThen_ok, writeAddress_eq_ok] at hrun
    obtain ⟨hchecked, rfl⟩ := hrun
    have hkept : (d.cleared userId (some addressId)).addresses.get? addressId = some a := by
      simp [AddressBook.cleared, hget]
    have h : Effect next d _ _ _ := .changed howned hknown (hchecked a hkept)
    rwa [if_pos hdefault] at h
  · rw [if_neg hdefault] at hrun
    simp only [writeAddress_eq_ok] at hrun
    obtain ⟨hchecked, rfl⟩ := hrun
    have h : Effect next d _ _ _ := .changed howned hknown (hchecked a hget)
    rwa [if_neg hdefault] at h

theorem leaves_delete (userId addressId : Nat) (now : Time) (d : AddressBook) (next : Nat) :
    Leaves (delete userId addressId now) (Exec.start d next) (Effect next d (.delete userId addressId now)) := by
  refine leaves_transaction (by grind [softDelete]) fun _ e hrun => ?_
  rw [run_bind_eq_ok] at hrun
  obtain ⟨a, e₁, hread, hrun⟩ := hrun
  obtain ⟨howned, rfl⟩ := getAddress_eq_ok.mp hread
  rw [run_bind_eq_ok] at hrun
  obtain ⟨_, e₁, hremoved, hrun⟩ := hrun
  obtain ⟨-, rfl⟩ := writeAddress_eq_ok.mp hremoved
  have h : Effect next d (.delete userId addressId now) _ _ := .deleted howned rfl
  by_cases hdefault : a.isDefault = true
  · rw [if_pos hdefault, run_bind, run_query, andThen_ok] at hrun
    rw [if_pos hdefault, AddressBook.promoted] at h
    dsimp only [Exec.start] at hrun h
    split at h
    next hnone =>
      rw [hnone] at hrun
      cases hrun
      exact h
    next promoted _ _ hsome =>
      rw [hsome] at hrun
      obtain ⟨-, rfl⟩ := writeAddress_eq_ok.mp hrun
      exact h
  · rw [if_neg hdefault] at hrun h
    cases hrun
    exact h

theorem leaves_setDefault (userId addressId : Nat) (d : AddressBook) (next : Nat) :
    Leaves (setDefault userId addressId) (Exec.start d next) (Effect next d (.setDefault userId addressId)) := by
  refine leaves_transaction (by grind) fun _ e hrun => ?_
  rw [run_bind_eq_ok] at hrun
  obtain ⟨a, e₁, hread, hrun⟩ := hrun
  obtain ⟨howned, rfl⟩ := getAddress_eq_ok.mp hread
  rw [run_bind, run_clearDefault, andThen_ok, writeAddress_eq_ok] at hrun
  obtain ⟨-, rfl⟩ := hrun
  exact .chosen howned

/-- A call is refused or lost without a trace, or commits its effect. -/
theorem call_effect (s : Site) (call : Call) (n : Nat) :
    ((s.after call n).book = s.book ∧ s.next ≤ (s.after call n).next) ∨
      ∃ next, next ≤ (s.after call n).next ∧ Effect s.next s.book call next (s.after call n).book := by
  have hdrawn : s.next ≤ (s.after call n).next := le_runFor_next n _ (Exec.start s.book s.next)
  have hleaves : Leaves call.program (Exec.start s.book s.next) (Effect s.next s.book call) := by
    cases call with
    | create userId merchantId fields => exact leaves_create userId merchantId fields s.book s.next
    | update userId addressId changes => exact leaves_update userId addressId changes s.book s.next
    | delete userId addressId now => exact leaves_delete userId addressId now s.book s.next
    | setDefault userId addressId => exact leaves_setDefault userId addressId s.book s.next
  exact (hleaves n).imp (fun h => ⟨h, hdrawn⟩) id

/-! ## The rows of other users -/

/-- The rows of every other user are the same. -/
def AddressBook.Untouched (d d' : AddressBook) (userId : Nat) : Prop :=
  ∀ i a, a.userId ≠ userId → (d'.addresses.get? i = some a ↔ d.addresses.get? i = some a)

namespace AddressBook

theorem Untouched.refl (d : AddressBook) (userId : Nat) : d.Untouched d userId := fun _ _ _ => .rfl

theorem Untouched.trans {d d₁ d₂ : AddressBook} {userId : Nat} (h : d.Untouched d₁ userId) (h' : d₁.Untouched d₂ userId) :
    d.Untouched d₂ userId :=
  fun i a ha => (h' i a ha).trans (h i a ha)

theorem untouched_modify {d : AddressBook} {id userId : Nat} {a : UserAddress} {f : UserAddress → UserAddress}
    (hrow : d.addresses.get? id = some a) (howner : a.userId = userId) (hf : (f a).userId = a.userId) :
    d.Untouched { addresses := d.addresses.modify id f } userId := by
  intro i b hb
  rw [Dict.get?_modify]
  by_cases hi : i = id
  · subst hi
    rw [if_pos rfl, hrow]
    constructor
    · intro h
      cases h
      exact absurd (hf.trans howner) hb
    · intro h
      cases h
      exact absurd howner hb
  · rw [if_neg hi]

theorem get?_cleared (d : AddressBook) (userId : Nat) (exceptId : Option Nat) (i : Nat) :
    (d.cleared userId exceptId).addresses.get? i = (d.addresses.get? i).map fun a =>
      if a.userId = userId ∧ a.isDefault = true ∧ exceptId ≠ some i then { a with isDefault := false } else a :=
  Dict.get?_adjust _ _ _

theorem untouched_cleared (d : AddressBook) (userId : Nat) (exceptId : Option Nat) :
    d.Untouched (d.cleared userId exceptId) userId := by
  intro i a ha
  rw [get?_cleared, Option.map_eq_some_iff]
  constructor
  · rintro ⟨b, hb, h⟩
    split_ifs at h with hclear
    · subst h
      exact absurd hclear.1 ha
    · exact h ▸ hb
  · intro h
    exact ⟨a, h, if_neg fun hclear => ha hclear.1⟩

theorem untouched_set {d : AddressBook} {id userId : Nat} {a : UserAddress} (hfree : d.addresses.get? id = none)
    (howner : a.userId = userId) : d.Untouched { addresses := d.addresses.set id a } userId := by
  intro i b hb
  by_cases hi : i = id
  · subst hi
    rw [Dict.get?_set_self, hfree]
    constructor
    · intro h
      cases h
      exact absurd howner hb
    · intro h
      cases h
  · rw [Dict.get?_set_ne hi]

/-- The listed addresses are the live ones of the user. -/
theorem mem_listForUser {d : AddressBook} {userId i : Nat} {a : UserAddress} :
    (i, a) ∈ d.listForUser userId ↔ d.addresses.get? i = some a ∧ a.userId = userId ∧ a.Live := by
  unfold listForUser live
  rw [(List.perm_insertionSort _ _).mem_iff, Dict.mem_select, decide_eq_true_eq]

theorem untouched_promoted (d : AddressBook) (userId : Nat) : d.Untouched (d.promoted userId) userId := by
  unfold promoted
  split
  next => exact .refl d userId
  next i a _ hlist =>
    obtain ⟨hrow, howner, -⟩ := mem_listForUser.mp (hlist ▸ List.mem_cons_self : (i, a) ∈ d.listForUser userId)
    exact untouched_modify hrow howner rfl

end AddressBook

/-- A call writes rows of its own user only. -/
theorem Effect.untouched {next next' : Nat} {d d' : AddressBook} {call : Call} (h : Effect next d call next' d')
    (hfree : d.addresses.get? next = none) : d.Untouched d' call.userId := by
  cases h with
  | @created userId merchantId fields room makeDefault first =>
    have hcleared : d.Untouched (if makeDefault = true then d.cleared userId none else d) userId := by
      split_ifs
      · exact d.untouched_cleared userId none
      · exact .refl d userId
    have hfree' : (if makeDefault = true then d.cleared userId none else d).addresses.get? next = none := by
      split_ifs
      · rw [AddressBook.get?_cleared, hfree]
        rfl
      · exact hfree
    exact hcleared.trans (AddressBook.untouched_set hfree' rfl)
  | @changed userId addressId changes a owned known checked =>
    obtain ⟨hrow, howner, -⟩ := getOwned_eq_some.mp owned
    have hcleared : d.Untouched (if changes.isDefault = some true then d.cleared userId (some addressId) else d) userId := by
      split_ifs
      · exact d.untouched_cleared userId (some addressId)
      · exact .refl d userId
    have hrow' : (if changes.isDefault = some true then d.cleared userId (some addressId) else d).addresses.get? addressId =
        some a := by
      split_ifs
      · simp [AddressBook.get?_cleared, hrow]
      · exact hrow
    exact hcleared.trans (AddressBook.untouched_modify hrow' howner rfl)
  | @deleted userId addressId now a owned d₁ removed =>
    obtain ⟨hrow, howner, -⟩ := getOwned_eq_some.mp owned
    have hremoved : d.Untouched d₁ userId := removed ▸ AddressBook.untouched_modify hrow howner rfl
    split_ifs
    · exact hremoved.trans (d₁.untouched_promoted userId)
    · exact hremoved
  | @chosen userId addressId a owned =>
    obtain ⟨hrow, howner, -⟩ := getOwned_eq_some.mp owned
    have hrow' : (d.cleared userId (some addressId)).addresses.get? addressId = some a := by
      simp [AddressBook.get?_cleared, hrow]
    exact (d.untouched_cleared userId (some addressId)).trans (AddressBook.untouched_modify hrow' howner rfl)

/-! ## What an update does not name -/

/-- `b` is `a` with nothing changed but what `changes` gives. -/
structure AddressUpdate.Keeps (changes : AddressUpdate) (a b : UserAddress) : Prop where
  userId : b.userId = a.userId
  merchantId : b.merchantId = a.merchantId
  deletedAt : b.deletedAt = a.deletedAt
  receiverName : changes.receiverName = none → b.receiverName = a.receiverName
  receiverPhone : changes.receiverPhone = none → b.receiverPhone = a.receiverPhone
  province : changes.province = none → b.province = a.province
  city : changes.city = none → b.city = a.city
  district : changes.district = none → b.district = a.district
  detail : changes.detail = none → b.detail = a.detail
  postalCode : changes.postalCode = none → b.postalCode = a.postalCode
  tag : changes.tag = none → b.tag = a.tag
  isDefault : changes.isDefault = none → b.isDefault = a.isDefault

theorem keeps_refl (changes : AddressUpdate) (a : UserAddress) : changes.Keeps a a := by
  constructor <;> intros <;> rfl

theorem keeps_changedBy (changes : AddressUpdate) (a : UserAddress) : changes.Keeps a (a.changedBy changes) := by
  constructor <;> intros <;> simp_all [UserAddress.changedBy]

/-- The updated address keeps what is not named; the others lose at most the flag, to an update that takes it. -/
structure UpdateKeeps (addressId : Nat) (changes : AddressUpdate) (d d' : AddressBook) : Prop where
  target : ∀ a, d.addresses.get? addressId = some a → ∃ b, d'.addresses.get? addressId = some b ∧ changes.Keeps a b
  elsewhere : ∀ i a, i ≠ addressId → d.addresses.get? i = some a →
    ∃ b, d'.addresses.get? i = some b ∧ (b = a ∨ changes.isDefault = some true ∧ b = { a with isDefault := false })

theorem UpdateKeeps.refl (addressId : Nat) (changes : AddressUpdate) (d : AddressBook) : UpdateKeeps addressId changes d d where
  target a h := ⟨a, h, keeps_refl changes a⟩
  elsewhere _ a _ h := ⟨a, h, .inl rfl⟩

theorem Effect.updateKeeps {next next' : Nat} {d d' : AddressBook} {userId addressId : Nat} {changes : AddressUpdate}
    (h : Effect next d (.update userId addressId changes) next' d') : UpdateKeeps addressId changes d d' := by
  cases h with
  | @changed _ _ _ a owned known checked =>
    obtain ⟨hrow, -, -⟩ := getOwned_eq_some.mp owned
    by_cases hdefault : changes.isDefault = some true
    · rw [if_pos hdefault]
      constructor
      · intro b hb
        have hsame := Option.some.inj (hrow.symm.trans hb)
        refine ⟨a.changedBy changes, ?_, hsame ▸ keeps_changedBy changes a⟩
        rw [Dict.get?_modify_self, AddressBook.get?_cleared, hrow]
        simp
      · intro i b hi hb
        rw [Dict.get?_modify_ne hi, AddressBook.get?_cleared, hb, Option.map_some]
        split_ifs
        · exact ⟨_, rfl, .inr ⟨hdefault, rfl⟩⟩
        · exact ⟨b, rfl, .inl rfl⟩
    · rw [if_neg hdefault]
      constructor
      · intro b hb
        refine ⟨b.changedBy changes, ?_, keeps_changedBy changes b⟩
        rw [Dict.get?_modify_self, hb, Option.map_some]
      · intro i b hi hb
        exact ⟨b, by rw [Dict.get?_modify_ne hi, hb], .inl rfl⟩

/-! ## One default -/

namespace AddressBook

/-- Address `i` is a live one of the user. -/
def LiveAt (d : AddressBook) (userId i : Nat) : Prop := ∃ a, d.addresses.get? i = some a ∧ a.userId = userId ∧ a.Live

/-- Address `i` is a live default of the user. -/
def DefaultAt (d : AddressBook) (userId i : Nat) : Prop :=
  ∃ a, d.addresses.get? i = some a ∧ a.userId = userId ∧ a.Live ∧ a.isDefault = true

/-- At most the maximum number of addresses, and one default among them unless there are none. -/
structure OneDefault (d : AddressBook) (userId : Nat) : Prop where
  room : (d.live userId).length ≤ maxAddressesPerUser
  unique : (∃ i, d.LiveAt userId i) → ∃! i, d.DefaultAt userId i

theorem DefaultAt.liveAt {d : AddressBook} {userId i : Nat} (h : d.DefaultAt userId i) : d.LiveAt userId i := by
  obtain ⟨a, hrow, howner, hlive, -⟩ := h
  exact ⟨a, hrow, howner, hlive⟩

theorem live_eq_nil {d : AddressBook} {userId : Nat} : (d.live userId).length = 0 ↔ ¬ ∃ i, d.LiveAt userId i := by
  rw [List.length_eq_zero_iff, List.eq_nil_iff_forall_not_mem]
  constructor
  · rintro h ⟨i, a, hrow, howner, hlive⟩
    exact h (i, a) (Dict.mem_select.mpr ⟨hrow, decide_eq_true ⟨howner, hlive⟩⟩)
  · rintro h ⟨i, a⟩ hmem
    obtain ⟨hrow, hsel⟩ := Dict.mem_select.mp hmem
    exact h ⟨i, a, hrow, of_decide_eq_true hsel⟩

theorem untouched_liveAt {d d' : AddressBook} {userId other i : Nat} (h : d.Untouched d' other) (hne : userId ≠ other) :
    d'.LiveAt userId i ↔ d.LiveAt userId i := by
  refine exists_congr fun a => ?_
  constructor
  · rintro ⟨hrow, rfl, hlive⟩
    exact ⟨(h i a hne).mp hrow, rfl, hlive⟩
  · rintro ⟨hrow, rfl, hlive⟩
    exact ⟨(h i a hne).mpr hrow, rfl, hlive⟩

theorem untouched_defaultAt {d d' : AddressBook} {userId other i : Nat} (h : d.Untouched d' other) (hne : userId ≠ other) :
    d'.DefaultAt userId i ↔ d.DefaultAt userId i := by
  refine exists_congr fun a => ?_
  constructor
  · rintro ⟨hrow, rfl, hrest⟩
    exact ⟨(h i a hne).mp hrow, rfl, hrest⟩
  · rintro ⟨hrow, rfl, hrest⟩
    exact ⟨(h i a hne).mpr hrow, rfl, hrest⟩

/-! ### One statement at a time -/

variable {d : AddressBook} {userId other i : Nat}

theorem liveAt_cleared {exceptId : Option Nat} : (d.cleared other exceptId).LiveAt userId i ↔ d.LiveAt userId i := by
  unfold LiveAt
  simp only [get?_cleared, Option.map_eq_some_iff]
  constructor
  · rintro ⟨b, ⟨a, hrow, rfl⟩, howner, hlive⟩
    refine ⟨a, hrow, ?_, ?_⟩
    · split_ifs at howner <;> exact howner
    · split_ifs at hlive <;> exact hlive
  · rintro ⟨a, hrow, howner, hlive⟩
    refine ⟨_, ⟨a, hrow, rfl⟩, ?_, ?_⟩
    · split_ifs <;> exact howner
    · split_ifs <;> exact hlive

theorem defaultAt_cleared {exceptId : Option Nat} :
    (d.cleared userId exceptId).DefaultAt userId i ↔ d.DefaultAt userId i ∧ exceptId = some i := by
  unfold DefaultAt
  simp only [get?_cleared, Option.map_eq_some_iff]
  constructor
  · rintro ⟨b, ⟨a, hrow, rfl⟩, howner, hlive, hdefault⟩
    split_ifs at howner hlive hdefault with hclear
    have hkept : exceptId = some i := by
      by_contra hne
      exact hclear ⟨howner, hdefault, hne⟩
    exact ⟨⟨a, hrow, howner, hlive, hdefault⟩, hkept⟩
  · rintro ⟨⟨a, hrow, howner, hlive, hdefault⟩, hkept⟩
    refine ⟨a, ⟨a, hrow, if_neg fun hclear => hclear.2.2 hkept⟩, howner, hlive, hdefault⟩

theorem liveAt_modify {id : Nat} {f : UserAddress → UserAddress} (hf : ∀ a, (f a).userId = a.userId)
    (hlive : ∀ a, (f a).Live ↔ a.Live) :
    AddressBook.LiveAt { addresses := d.addresses.modify id f } userId i ↔ d.LiveAt userId i := by
  unfold LiveAt
  simp only [Dict.get?_modify]
  split_ifs with hi
  · simp only [Option.map_eq_some_iff]
    constructor
    · rintro ⟨_, ⟨a, hrow, rfl⟩, howner, h⟩
      exact ⟨a, hrow, (hf a).symm.trans howner, (hlive a).mp h⟩
    · rintro ⟨a, hrow, howner, h⟩
      exact ⟨f a, ⟨a, hrow, rfl⟩, (hf a).trans howner, (hlive a).mpr h⟩
  · rfl

theorem defaultAt_modify_ne {id : Nat} {f : UserAddress → UserAddress} (hi : i ≠ id) :
    AddressBook.DefaultAt { addresses := d.addresses.modify id f } userId i ↔ d.DefaultAt userId i := by
  unfold DefaultAt
  simp only [Dict.get?_modify_ne hi]

theorem defaultAt_modify_self {id : Nat} {a : UserAddress} {f : UserAddress → UserAddress}
    (hrow : d.addresses.get? id = some a) :
    AddressBook.DefaultAt { addresses := d.addresses.modify id f } userId id ↔
      (f a).userId = userId ∧ (f a).Live ∧ (f a).isDefault = true := by
  unfold DefaultAt
  rw [Dict.get?_modify_self, hrow]
  constructor
  · rintro ⟨_, h, hrest⟩
    cases h
    exact hrest
  · intro hrest
    exact ⟨f a, rfl, hrest⟩

/-- A write that makes one of the user's live addresses the only default. -/
theorem unique_of_chosen {k : Nat} (hk : d.DefaultAt userId k) (hne : ∀ j, j ≠ k → ¬ d.DefaultAt userId j) :
    ∃! i, d.DefaultAt userId i := by
  refine ⟨k, hk, fun j hj => ?_⟩
  by_contra hjk
  exact hne j hjk hj

/-! ### Counting -/

theorem length_live_cleared (d : AddressBook) (other userId : Nat) (exceptId : Option Nat) :
    ((d.cleared other exceptId).live userId).length ≤ (d.live userId).length := by
  refine Dict.length_select_adjust_le d.addresses (p := fun a => decide (a.userId = userId ∧ a.Live)) fun i a h => ?_
  split_ifs at h
  · exact h
  · exact h

theorem length_live_modify (d : AddressBook) (id userId : Nat) (f : UserAddress → UserAddress)
    (hf : ∀ a, (f a).userId = a.userId) (hlive : ∀ a, (f a).Live → a.Live) :
    (AddressBook.live { addresses := d.addresses.modify id f } userId).length ≤ (d.live userId).length := by
  refine Dict.length_select_modify_le d.addresses id (p := fun a => decide (a.userId = userId ∧ a.Live)) fun a h => ?_
  obtain ⟨howner, h⟩ := of_decide_eq_true h
  exact decide_eq_true ⟨(hf a).symm.trans howner, hlive a h⟩

theorem length_live_promoted (d : AddressBook) (other userId : Nat) :
    ((d.promoted other).live userId).length ≤ (d.live userId).length := by
  unfold promoted
  split
  · exact le_rfl
  · exact length_live_modify d _ userId UserAddress.asDefault (fun _ => rfl) fun _ => id

end AddressBook

/-- No call puts a user over the maximum. -/
theorem Effect.room {next next' : Nat} {d d' : AddressBook} {call : Call} (h : Effect next d call next' d')
    (hfree : d.addresses.get? next = none) {userId : Nat} (hroom : (d.live userId).length ≤ maxAddressesPerUser) :
    (d'.live userId).length ≤ maxAddressesPerUser := by
  cases h with
  | @created owner merchantId fields room makeDefault first =>
    generalize hd₁ : (if makeDefault = true then d.cleared owner none else d) = d₁
    have hle : (d₁.live userId).length ≤ (d.live userId).length := by
      rw [← hd₁]
      split_ifs
      · exact d.length_live_cleared owner userId none
      · exact le_rfl
    have hfree₁ : d₁.addresses.get? next = none := by
      rw [← hd₁]
      split_ifs
      · rw [AddressBook.get?_cleared, hfree]
        rfl
      · exact hfree
    have hcount := Dict.length_select_set hfree₁ (fields.row owner merchantId makeDefault)
      fun a => decide (a.userId = userId ∧ a.Live)
    change ((d₁.addresses.set next _).select _).length ≤ _
    change _ = ((d₁.live userId).length : Int) + _ at hcount
    by_cases howner : owner = userId
    · subst howner
      split_ifs at hcount <;> omega
    · have hother : decide ((fields.row owner merchantId makeDefault).userId = userId ∧
          (fields.row owner merchantId makeDefault).Live) = false := decide_eq_false fun h => howner h.1
      rw [hother] at hcount
      simp only [Bool.false_eq_true, if_false] at hcount
      omega
  | @changed owner addressId changes a owned known checked =>
    refine (AddressBook.length_live_modify _ addressId userId (UserAddress.changedBy changes) (fun _ => rfl) fun _ => id).trans ?_
    split_ifs
    · exact (d.length_live_cleared owner userId (some addressId)).trans hroom
    · exact hroom
  | @deleted owner addressId now a owned d₁ removed =>
    have hle : (d₁.live userId).length ≤ maxAddressesPerUser := by
      rw [removed]
      refine (d.length_live_modify addressId userId (UserAddress.deletedBy now) (fun _ => rfl) fun a h => ?_).trans hroom
      exact absurd h (Option.some_ne_none now)
    split_ifs
    · exact (d₁.length_live_promoted owner userId).trans hle
    · exact hle
  | @chosen owner addressId a owned =>
    refine (AddressBook.length_live_modify _ addressId userId UserAddress.asDefault (fun _ => rfl) fun _ => id).trans ?_
    exact (d.length_live_cleared owner userId (some addressId)).trans hroom

/-- The call clears the flag of the user's default address. -/
def Call.Unsets (d : AddressBook) : Call → Prop
  | .update userId addressId changes =>
    changes.isDefault = some false ∧ changes.others = [] ∧
      ∃ a, d.getOwned addressId userId = some a ∧ a.isDefault = true ∧ (a.changedBy changes).Checked
  | _ => False

/-- A call that does not clear the flag of a default leaves one default to everyone who has an address. -/
theorem Effect.unique {next next' : Nat} {d d' : AddressBook} {call : Call} (h : Effect next d call next' d')
    (hfree : d.addresses.get? next = none) (hkeep : ¬ call.Unsets d)
    (hone : (∃ i, d.LiveAt call.userId i) → ∃! i, d.DefaultAt call.userId i)
    (hlive : ∃ i, d'.LiveAt call.userId i) : ∃! i, d'.DefaultAt call.userId i := by
  cases h with
  | @created userId merchantId fields room makeDefault first =>
    have hrow (d₁ : AddressBook) (i : Nat) (hi : i ≠ next) (a : UserAddress) :
        AddressBook.DefaultAt { addresses := d₁.addresses.set next a } userId i ↔ d₁.DefaultAt userId i := by
      unfold AddressBook.DefaultAt
      simp only [Dict.get?_set_ne hi]
    by_cases hdefault : makeDefault = true
    · rw [if_pos hdefault]
      refine AddressBook.unique_of_chosen (k := next) ⟨_, Dict.get?_set_self _ _ _, rfl, rfl, hdefault⟩ fun j hj h => ?_
      have hold := AddressBook.defaultAt_cleared.mp ((hrow _ j hj _).mp h)
      cases hold.2
    · rw [if_neg hdefault]
      have hsome : ∃ i, d.LiveAt userId i := by
        by_contra hnone
        rw [AddressBook.live_eq_nil.mpr hnone] at first
        simp [first] at hdefault
      obtain ⟨k, hk, hunique⟩ := hone hsome
      have hne : k ≠ next := by
        rintro rfl
        obtain ⟨a, hrow, -⟩ := hk
        rw [hfree] at hrow
        cases hrow
      refine ⟨k, (hrow d k hne _).mpr hk, fun j hj => ?_⟩
      by_cases hjn : j = next
      · subst hjn
        obtain ⟨a, hself, -, -, hflag⟩ := hj
        rw [Dict.get?_set_self] at hself
        cases hself
        exact absurd hflag hdefault
      · exact hunique j ((hrow d j hjn _).mp hj)
  | @changed userId addressId changes a owned known checked =>
    obtain ⟨hrow, howner, hliving⟩ := getOwned_eq_some.mp owned
    by_cases hdefault : changes.isDefault = some true
    · rw [if_pos hdefault]
      have hkept : (d.cleared userId (some addressId)).addresses.get? addressId = some a := by
        simp [AddressBook.get?_cleared, hrow]
      refine AddressBook.unique_of_chosen (k := addressId) ?_ fun j hj h => ?_
      · exact (AddressBook.defaultAt_modify_self hkept).mpr ⟨howner, hliving, by simp [UserAddress.changedBy, hdefault]⟩
      · have hold := (AddressBook.defaultAt_modify_ne hj).mp h
        exact hj (Option.some.inj (AddressBook.defaultAt_cleared.mp hold).2).symm
    · rw [if_neg hdefault]
      obtain ⟨k, hk, hunique⟩ := hone ⟨addressId, a, hrow, howner, hliving⟩
      -- the flag of the changed row stays, since clearing it is what `Unsets` excludes
      have hflag : (a.changedBy changes).isDefault = a.isDefault := by
        rcases hgiven : changes.isDefault with _ | _ | _
        · simp [UserAddress.changedBy, hgiven]
        · have hoff : ¬ a.isDefault = true := fun hon => hkeep ⟨hgiven, known, a, owned, hon, checked⟩
          simp [UserAddress.changedBy, hgiven, hoff]
        · exact absurd hgiven hdefault
      have hsame (i : Nat) : AddressBook.DefaultAt { addresses := d.addresses.modify addressId (UserAddress.changedBy changes) }
          userId i ↔ d.DefaultAt userId i := by
        by_cases hi : i = addressId
        · subst hi
          rw [AddressBook.defaultAt_modify_self hrow, hflag]
          constructor
          · rintro ⟨-, -, hon⟩
            exact ⟨a, hrow, howner, hliving, hon⟩
          · rintro ⟨b, hb, -, -, hon⟩
            cases hrow.symm.trans hb
            exact ⟨howner, hliving, hon⟩
        · exact AddressBook.defaultAt_modify_ne hi
      exact ⟨k, (hsame k).mpr hk, fun j hj => hunique j ((hsame j).mp hj)⟩
  | @deleted userId addressId now a owned d₁ removed =>
    obtain ⟨hrow, howner, hliving⟩ := getOwned_eq_some.mp owned
    obtain ⟨k, hk, hunique⟩ := hone ⟨addressId, a, hrow, howner, hliving⟩
    have hgone : ¬ d₁.DefaultAt userId addressId := by
      rw [removed, AddressBook.defaultAt_modify_self hrow]
      rintro ⟨-, h, -⟩
      exact Option.some_ne_none now h
    have hother (i : Nat) (hi : i ≠ addressId) : d₁.DefaultAt userId i ↔ d.DefaultAt userId i := by
      rw [removed]
      exact AddressBook.defaultAt_modify_ne hi
    by_cases hdefault : a.isDefault = true
    · have hkey : addressId = k := hunique addressId ⟨a, hrow, howner, hliving, hdefault⟩
      have hnone (i : Nat) : ¬ d₁.DefaultAt userId i := by
        intro h
        by_cases hi : i = addressId
        · exact hgone (hi ▸ h)
        · exact hi ((hunique i ((hother i hi).mp h)).trans hkey.symm)
      rw [if_pos hdefault] at hlive ⊢
      unfold AddressBook.promoted at hlive ⊢
      split at hlive
      next hempty =>
        obtain ⟨i, b, hb, hof, hb'⟩ := hlive
        have hmem : (i, b) ∈ d₁.listForUser userId := AddressBook.mem_listForUser.mpr ⟨hb, hof, hb'⟩
        rw [hempty] at hmem
        cases hmem
      next p b _ hlist =>
        obtain ⟨hb, hof, hb'⟩ := AddressBook.mem_listForUser.mp (hlist ▸ List.mem_cons_self : (p, b) ∈ d₁.listForUser userId)
        refine AddressBook.unique_of_chosen (k := p) ?_ fun j hj h => ?_
        · exact (AddressBook.defaultAt_modify_self hb).mpr ⟨hof, hb', rfl⟩
        · exact hnone j ((AddressBook.defaultAt_modify_ne hj).mp h)
    · rw [if_neg hdefault]
      have hne : k ≠ addressId := by
        rintro rfl
        obtain ⟨b, hb, -, -, hon⟩ := hk
        cases hrow.symm.trans hb
        exact hdefault hon
      refine ⟨k, (hother k hne).mpr hk, fun j hj => ?_⟩
      by_cases hi : j = addressId
      · exact absurd (hi ▸ hj) hgone
      · exact hunique j ((hother j hi).mp hj)
  | @chosen userId addressId a owned =>
    obtain ⟨hrow, howner, hliving⟩ := getOwned_eq_some.mp owned
    have hkept : (d.cleared userId (some addressId)).addresses.get? addressId = some a := by
      simp [AddressBook.get?_cleared, hrow]
    refine AddressBook.unique_of_chosen (k := addressId) ?_ fun j hj h => ?_
    · exact (AddressBook.defaultAt_modify_self hkept).mpr ⟨howner, hliving, rfl⟩
    · have hold := (AddressBook.defaultAt_modify_ne hj).mp h
      exact hj (Option.some.inj (AddressBook.defaultAt_cleared.mp hold).2).symm

/-- What one call does to a site whose users all have one default. -/
theorem after_oneDefault {s : Site} {call : Call} {n : Nat} (hfresh : s.Fresh) (hkeep : ¬ call.Unsets s.book)
    (hone : ∀ userId, s.book.OneDefault userId) (userId : Nat) : (s.after call n).book.OneDefault userId := by
  rcases call_effect s call n with ⟨hsame, -⟩ | ⟨next, -, heffect⟩
  · exact hsame ▸ hone userId
  · have hfree := hfresh s.next le_rfl
    refine ⟨heffect.room hfree (hone userId).room, fun hlive => ?_⟩
    by_cases hown : userId = call.userId
    · subst hown
      exact heffect.unique hfree hkeep (hone call.userId).unique hlive
    · have huntouched := heffect.untouched hfree
      obtain ⟨i, hi⟩ := hlive
      obtain ⟨k, hk, hunique⟩ := (hone userId).unique ⟨i, (AddressBook.untouched_liveAt huntouched hown).mp hi⟩
      refine ⟨k, (AddressBook.untouched_defaultAt huntouched hown).mpr hk, fun j hj => ?_⟩
      exact hunique j ((AddressBook.untouched_defaultAt huntouched hown).mp hj)

theorem Effect.fresh {next next' : Nat} {d d' : AddressBook} {call : Call} (h : Effect next d call next' d')
    (hfresh : ∀ i, next ≤ i → d.addresses.get? i = none) : ∀ i, next' ≤ i → d'.addresses.get? i = none := by
  intro i hi
  cases h with
  | @created userId merchantId fields room makeDefault first =>
    rw [Dict.get?_set_ne (by omega)]
    split_ifs
    · rw [AddressBook.get?_cleared, hfresh i (by omega)]
      rfl
    · exact hfresh i (by omega)
  | @changed userId addressId changes a owned known checked =>
    refine Dict.get?_modify_none ?_ addressId (UserAddress.changedBy changes)
    split_ifs
    · rw [AddressBook.get?_cleared, hfresh i hi]
      rfl
    · exact hfresh i hi
  | @deleted userId addressId now a owned d₁ removed =>
    have hremoved : d₁.addresses.get? i = none := by
      rw [removed]
      exact Dict.get?_modify_none (hfresh i hi) addressId (UserAddress.deletedBy now)
    split_ifs
    · unfold AddressBook.promoted
      split
      · exact hremoved
      · exact Dict.get?_modify_none hremoved _ UserAddress.asDefault
    · exact hremoved
  | @chosen userId addressId a owned =>
    refine Dict.get?_modify_none ?_ addressId UserAddress.asDefault
    rw [AddressBook.get?_cleared, hfresh i hi]
    rfl

theorem Site.Fresh.after {s : Site} (h : s.Fresh) (call : Call) (n : Nat) : (s.after call n).Fresh := by
  rcases call_effect s call n with ⟨hsame, hle⟩ | ⟨next, hle, heffect⟩
  · intro i hi
    rw [hsame]
    exact h i (hle.trans hi)
  · exact fun i hi => heffect.fresh h i (hle.trans hi)

theorem Site.Fresh.run {s : Site} (h : s.Fresh) (calls : List (Call × Nat)) : (Site.run calls s).Fresh := by
  induction calls generalizing s with
  | nil => exact h
  | cons step calls ih => exact ih (h.after step.1 step.2)

/-- No call of the list clears the flag of a default. -/
def Site.KeepsDefaults (s : Site) : List (Call × Nat) → Prop
  | [] => True
  | (call, n) :: calls => ¬ call.Unsets s.book ∧ (s.after call n).KeepsDefaults calls

theorem run_oneDefault {s : Site} {calls : List (Call × Nat)} (hfresh : s.Fresh) (hkeep : s.KeepsDefaults calls)
    (hone : ∀ userId, s.book.OneDefault userId) : ∀ userId, (Site.run calls s).book.OneDefault userId := by
  induction calls generalizing s with
  | nil => exact hone
  | cons step calls ih => exact ih (hfresh.after step.1 step.2) hkeep.2 (after_oneDefault hfresh hkeep.1 hone)

/-- Runs that clear no default keep one default a user, and no call ever reaches the rows of another user or a field that an
update does not name. -/
theorem addressBook_run {s : Site} (hfresh : s.Fresh) (hone : ∀ userId, s.book.OneDefault userId) (calls : List (Call × Nat)) :
    (s.KeepsDefaults calls → ∀ userId, (Site.run calls s).book.OneDefault userId) ∧
    ∀ call n, (Site.run calls s).book.Untouched ((Site.run calls s).after call n).book call.userId ∧
      ∀ userId addressId changes, call = .update userId addressId changes →
        UpdateKeeps addressId changes (Site.run calls s).book ((Site.run calls s).after call n).book := by
  refine ⟨fun hkeep => run_oneDefault hfresh hkeep hone, fun call n => ?_⟩
  have hfree := hfresh.run calls
  rcases call_effect (Site.run calls s) call n with ⟨hsame, -⟩ | ⟨next, -, heffect⟩
  · rw [hsame]
    exact ⟨.refl _ _, fun _ addressId changes _ => .refl addressId changes _⟩
  · refine ⟨heffect.untouched (hfree _ le_rfl), ?_⟩
    rintro userId addressId changes rfl
    exact heffect.updateKeeps

/-! ## A default that is cleared -/

def emptySite : Site := ⟨{}, 1⟩

theorem emptySite_fresh : emptySite.Fresh := fun _ _ => rfl

theorem emptySite_oneDefault (userId : Nat) : emptySite.book.OneDefault userId :=
  ⟨Nat.zero_le _, fun ⟨_, _, hrow, _⟩ => nomatch hrow⟩

def sampleAddress : AddressCreate where
  receiverName := "Li Wei"
  receiverPhone := "13800000000"
  province := "Zhejiang"
  city := "Hangzhou"
  district := "Xihu"
  detail := "Wensan Road 1"

/-- Two addresses, the second chosen as the default and removed again. -/
def sampleCalls : List (Call × Nat) :=
  [(.create 7 none sampleAddress, 100), (.create 7 none sampleAddress, 100), (.setDefault 7 2, 100),
    (.update 7 1 { city := some "Ningbo" }, 100), (.delete 7 2 100, 100)]

theorem addressBook_run_sample : (Site.run sampleCalls emptySite).book.OneDefault 7 ∧
    (Site.run sampleCalls emptySite).book.DefaultAt 7 1 := by
  refine ⟨(addressBook_run emptySite_fresh emptySite_oneDefault sampleCalls).1 ?_ 7, ?_⟩
  · exact ⟨id, id, id, fun h => (by decide : ¬ (none : Option Bool) = some false) h.1, id, trivial⟩
  · have h : ((Site.run sampleCalls emptySite).book.addresses.get? 1).map
        (fun a => decide (a.userId = 7 ∧ a.Live ∧ a.isDefault = true)) = some true := by decide +kernel
    obtain ⟨a, hrow, ha⟩ := Option.map_eq_some_iff.mp h
    exact ⟨a, hrow, of_decide_eq_true ha⟩

/-- The only address of a user loses its flag. -/
def clearedCalls : List (Call × Nat) :=
  [(.create 7 none sampleAddress, 100), (.update 7 1 { isDefault := some false }, 100)]

theorem addressBook_run_cleared : ¬ ∀ calls userId, (Site.run calls emptySite).book.OneDefault userId := by
  intro h
  have hrow : ((Site.run clearedCalls emptySite).book.addresses.get? 1).map
      (fun a => decide (a.userId = 7 ∧ a.Live)) = some true := by decide +kernel
  have hflags : ∀ e ∈ (Site.run clearedCalls emptySite).book.addresses.entries, e.2.isDefault = false := by decide +kernel
  obtain ⟨a, hget, ha⟩ := Option.map_eq_some_iff.mp hrow
  obtain ⟨k, ⟨b, hb, -, -, hon⟩, -⟩ := (h clearedCalls 7).unique ⟨1, a, hget, of_decide_eq_true ha⟩
  have hoff := hflags (k, b) (Dict.get?_eq_some.mp hb)
  rw [hoff] at hon
  cases hon

end NovaCommerce.Addresses
