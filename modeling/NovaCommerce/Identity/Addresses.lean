import NovaCommerce.Core

/-!
# Address books

* `UserAddress`, `AddressBook` : the rows of `user_addresses`;
* `getOwned`, `listForUser`, `clearDefault`, `softDelete` : the repository;
* `create`, `update`, `delete`, `setDefault` : the service, each a transaction of its own.
-/

namespace NovaCommerce.Addresses

open Sql

/-! ## Rows -/

inductive AddressTag where
  | home
  | office
  | school
  | other
  deriving DecidableEq, Repr

/-- A delivery address. -/
structure UserAddress where
  userId : Nat
  merchantId : Option Nat := none
  receiverName : String
  receiverPhone : String
  province : String := ""
  city : String := ""
  district : String := ""
  detail : String
  postalCode : Option String := none
  tag : AddressTag := .home
  isDefault : Bool := false
  deletedAt : Option Time := none
  deriving DecidableEq

namespace UserAddress

/-- The address was not deleted. -/
def Live (a : UserAddress) : Prop := a.deletedAt = none

instance decidableLive (a : UserAddress) : Decidable a.Live := by
  unfold Live
  infer_instance

/-- The CHECK constraints of `user_addresses`; `length` counts bytes. -/
def Checked (a : UserAddress) : Prop := 0 < a.receiverName.utf8ByteSize ∧ 6 ≤ a.receiverPhone.utf8ByteSize

instance decidableChecked (a : UserAddress) : Decidable a.Checked := by
  unfold Checked
  infer_instance

end UserAddress

/-- The table. -/
structure AddressBook where
  addresses : Dict Nat UserAddress := Dict.empty

/-- Programs over the address books; a lock is the id of a row. -/
abbrev AddressTx (α : Type) := Sql AddressBook Nat AppError α

/-! ## Reads and writes -/

/-- `get_owned`. -/
def AddressBook.getOwned (d : AddressBook) (addressId userId : Nat) : Option UserAddress :=
  (d.addresses.get? addressId).filter fun a => decide (a.userId = userId ∧ a.Live)

/-- The live addresses of a user. -/
def AddressBook.live (d : AddressBook) (userId : Nat) : List (Nat × UserAddress) :=
  d.addresses.select fun a => decide (a.userId = userId ∧ a.Live)

/-- `list_for_user`: the default first, then the newest. -/
def AddressBook.listForUser (d : AddressBook) (userId : Nat) : List (Nat × UserAddress) :=
  (d.live userId).insertionSort fun a b =>
    (a.2.isDefault = true ∧ b.2.isDefault = false) ∨ (a.2.isDefault = b.2.isDefault ∧ b.1 ≤ a.1)

/-- The table after `clear_default`. -/
def AddressBook.cleared (d : AddressBook) (userId : Nat) (exceptId : Option Nat) : AddressBook :=
  { d with addresses := d.addresses.adjust fun i a =>
      if a.userId = userId ∧ a.isDefault = true ∧ exceptId ≠ some i then { a with isDefault := false } else a }

/-- Clear the default flag in one statement. -/
def clearDefault (userId : Nat) (exceptId : Option Nat) : AddressTx Unit := do
  let _ ← lock (fun d => ((d.addresses.select fun a => decide (a.userId = userId ∧ a.isDefault = true)).map Prod.fst).filter
    fun i => exceptId ≠ some i) id
  Sql.update fun d => d.cleared userId exceptId

def addressViolation : AppError := { kind := .operational, message := "Check constraint 'user_addresses' is violated." }

/-- `UPDATE user_addresses` of one row, under its CHECK constraints. -/
def writeAddress (id : Nat) (f : UserAddress → UserAddress) : AddressTx Unit := do
  let row ← lock (fun _ => [id]) fun d => d.addresses.get? id
  raiseIf (∃ a ∈ row, ¬ (f a).Checked) addressViolation
  Sql.update fun d => { d with addresses := d.addresses.modify id f }

/-- Insert an address, under the same constraints. -/
def addAddress (a : UserAddress) : AddressTx Nat := do
  let id ← newId
  raiseIf (¬ a.Checked) addressViolation
  Sql.update fun d => { d with addresses := d.addresses.set id a }
  return id

def UserAddress.deletedBy (now : Time) (a : UserAddress) : UserAddress :=
  { a with
    deletedAt := some now
    isDefault := false }

def softDelete (id : Nat) (now : Time) : AddressTx Unit := writeAddress id (UserAddress.deletedBy now)

/-! ## The service -/

/-- `MAX_ADDRESSES_PER_USER`. -/
def maxAddressesPerUser : Nat := 20

/-- What an address is created from. -/
structure AddressCreate where
  receiverName : String
  receiverPhone : String
  province : String
  city : String
  district : String
  detail : String
  postalCode : Option String := none
  tag : AddressTag := .home
  isDefault : Bool := false

/-- The fields of an address that are changed; `others` are the names of fields that may not be. -/
structure AddressUpdate where
  receiverName : Option String := none
  receiverPhone : Option String := none
  province : Option String := none
  city : Option String := none
  district : Option String := none
  detail : Option String := none
  postalCode : Option (Option String) := none
  tag : Option AddressTag := none
  isDefault : Option Bool := none
  others : List String := []

/-- `text.strip() or None`. -/
def stripped? (text : String) : Option String := if strip text = "" then none else some (strip text)

/-- The owned address, or the error that does not tell whose it is. -/
def getAddress (userId addressId : Nat) : AddressTx UserAddress := do
  orRaise (← query fun d => d.getOwned addressId userId) { kind := .addressNotFound, message := "address not found" }

def AddressCreate.row (fields : AddressCreate) (userId : Nat) (merchantId : Option Nat) (makeDefault : Bool) : UserAddress where
  userId := userId
  merchantId := merchantId
  receiverName := strip fields.receiverName
  receiverPhone := strip fields.receiverPhone
  province := strip fields.province
  city := strip fields.city
  district := strip fields.district
  detail := strip fields.detail
  postalCode := stripped? (fields.postalCode.getD "")
  tag := fields.tag
  isDefault := makeDefault

/-- Create an address; the first of a user is the default. -/
def create (userId : Nat) (merchantId : Option Nat) (fields : AddressCreate) : AddressTx Nat :=
  transaction do
    let count ← query fun d => (d.live userId).length
    raiseIf (maxAddressesPerUser ≤ count) { kind := .validation, message := "at most 20 addresses are allowed" }
    let count ← query fun d => (d.live userId).length
    let makeDefault := fields.isDefault || decide (count = 0)
    if makeDefault = true then clearDefault userId none
    addAddress (fields.row userId merchantId makeDefault)

/-- The row with the given fields; a postal code that is given as `None` becomes the text of it. -/
def UserAddress.changedBy (changes : AddressUpdate) (a : UserAddress) : UserAddress :=
  { a with
    receiverName := (changes.receiverName.map strip).getD a.receiverName
    receiverPhone := (changes.receiverPhone.map strip).getD a.receiverPhone
    province := (changes.province.map strip).getD a.province
    city := (changes.city.map strip).getD a.city
    district := (changes.district.map strip).getD a.district
    detail := (changes.detail.map strip).getD a.detail
    postalCode := (changes.postalCode.map fun value => stripped? (value.getD "None")).getD a.postalCode
    tag := changes.tag.getD a.tag
    isDefault := changes.isDefault.getD a.isDefault }

/-- Change the given fields of an address. -/
def update (userId addressId : Nat) (changes : AddressUpdate) : AddressTx Unit :=
  transaction do
    let _ ← getAddress userId addressId
    raiseIf (changes.others ≠ []) {
      kind := .validation
      message := "fields cannot be modified: [" ++
        ", ".intercalate ((changes.others.insertionSort fun a b => a ≤ b).map fun name => "'" ++ name ++ "'") ++ "]" }
    if changes.isDefault = some true then clearDefault userId (some addressId)
    writeAddress addressId (UserAddress.changedBy changes)

def UserAddress.asDefault (a : UserAddress) : UserAddress := { a with isDefault := true }

/-- Remove an address, and promote another one when it was the default. -/
def delete (userId addressId : Nat) (now : Time) : AddressTx Unit :=
  transaction do
    let address ← getAddress userId addressId
    softDelete addressId now
    if address.isDefault = true then
      match ← query fun d => d.listForUser userId with
      | [] => return ()
      | (promoted, _) :: _ => writeAddress promoted UserAddress.asDefault
    else return ()

def setDefault (userId addressId : Nat) : AddressTx Unit :=
  transaction do
    let _ ← getAddress userId addressId
    clearDefault userId (some addressId)
    writeAddress addressId UserAddress.asDefault

/-! ## Calls -/

/-- A call of the service. -/
inductive Call where
  | create (userId : Nat) (merchantId : Option Nat) (fields : AddressCreate)
  | update (userId addressId : Nat) (changes : AddressUpdate)
  | delete (userId addressId : Nat) (now : Time)
  | setDefault (userId addressId : Nat)

/-- Whose address book it is about. -/
def Call.userId : Call → Nat
  | .create userId _ _ => userId
  | .update userId _ _ => userId
  | .delete userId _ _ => userId
  | .setDefault userId _ => userId

def Call.program : Call → AddressTx Unit
  | .create userId merchantId fields => do
    let _ ← Addresses.create userId merchantId fields
    return ()
  | .update userId addressId changes => Addresses.update userId addressId changes
  | .delete userId addressId now => Addresses.delete userId addressId now
  | .setDefault userId addressId => Addresses.setDefault userId addressId

/-- The committed table, and the next id to be drawn. -/
structure Site where
  book : AddressBook
  next : Nat

/-- The site after a call was lost behind its first `n` statements; a call that ends is lost behind its last one. -/
def Site.after (s : Site) (call : Call) (n : Nat) : Site :=
  let e := runFor n call.program (Exec.start s.book s.next)
  ⟨e.committed, e.next⟩

/-- The site after a list of calls. -/
def Site.run : List (Call × Nat) → Site → Site
  | [], s => s
  | (call, n) :: calls, s => Site.run calls (s.after call n)

/-- No address uses an id that is still to be drawn. -/
def Site.Fresh (s : Site) : Prop := ∀ i, s.next ≤ i → s.book.addresses.get? i = none

/-- The table after `remaining[0]` was promoted. -/
def AddressBook.promoted (d : AddressBook) (userId : Nat) : AddressBook :=
  match d.listForUser userId with
  | [] => d
  | (promoted, _) :: _ => { d with addresses := d.addresses.modify promoted UserAddress.asDefault }

/-- What a call commits when it commits. -/
inductive Effect (next : Nat) (d : AddressBook) : Call → Nat → AddressBook → Prop where
  | created {userId : Nat} {merchantId : Option Nat} {fields : AddressCreate} (room : (d.live userId).length < maxAddressesPerUser)
      {makeDefault : Bool} (first : makeDefault = (fields.isDefault || decide ((d.live userId).length = 0))) :
      Effect next d (.create userId merchantId fields) (next + 1)
        { addresses := (if makeDefault = true then d.cleared userId none else d).addresses.set next
            (fields.row userId merchantId makeDefault) }
  | changed {userId addressId : Nat} {changes : AddressUpdate} {a : UserAddress} (owned : d.getOwned addressId userId = some a)
      (known : changes.others = []) (checked : (a.changedBy changes).Checked) :
      Effect next d (.update userId addressId changes) next
        { addresses := (if changes.isDefault = some true then d.cleared userId (some addressId) else d).addresses.modify addressId
            (UserAddress.changedBy changes) }
  | deleted {userId addressId : Nat} {now : Time} {a : UserAddress} (owned : d.getOwned addressId userId = some a)
      {d₁ : AddressBook} (removed : d₁ = { d with addresses := d.addresses.modify addressId (UserAddress.deletedBy now) }) :
      Effect next d (.delete userId addressId now) next (if a.isDefault = true then d₁.promoted userId else d₁)
  | chosen {userId addressId : Nat} {a : UserAddress} (owned : d.getOwned addressId userId = some a) :
      Effect next d (.setDefault userId addressId) next
        { addresses := (d.cleared userId (some addressId)).addresses.modify addressId UserAddress.asDefault }

/-! ## What the calls do -/

@[simp] theorem run_clearDefault (userId : Nat) (exceptId : Option Nat) (e : Exec AddressBook) :
    (clearDefault userId exceptId).run e = (.ok (), { e with view := e.view.cleared userId exceptId }) := by
  unfold clearDefault
  rw [run_bind, run_lock, andThen_ok, run_update]

theorem writeAddress_eq_ok {id : Nat} {f : UserAddress → UserAddress} {e e' : Exec AddressBook} {u : Unit} :
    (writeAddress id f).run e = (.ok u, e') ↔ (∀ a, e.view.addresses.get? id = some a → (f a).Checked) ∧
      e' = { e with view := { e.view with addresses := e.view.addresses.modify id f } } := by
  unfold writeAddress
  rw [run_bind, run_lock, andThen_ok, run_bind_eq_ok]
  simp only [run_raiseIf_eq_ok, run_update, Prod.mk.injEq, Option.mem_def, not_exists, not_and, not_not]
  constructor
  · rintro ⟨_, e₁, ⟨hc, rfl⟩, _, rfl⟩
    exact ⟨hc, rfl⟩
  · rintro ⟨hc, rfl⟩
    exact ⟨(), e, ⟨hc, rfl⟩, trivial, rfl⟩

theorem getAddress_eq_ok {userId addressId : Nat} {e e' : Exec AddressBook} {a : UserAddress} :
    (getAddress userId addressId).run e = (.ok a, e') ↔ e.view.getOwned addressId userId = some a ∧ e = e' := by
  unfold getAddress
  rw [run_bind, run_query, andThen_ok, run_orRaise_eq_ok]

theorem getOwned_eq_some {d : AddressBook} {addressId userId : Nat} {a : UserAddress} :
    d.getOwned addressId userId = some a ↔ d.addresses.get? addressId = some a ∧ a.userId = userId ∧ a.Live := by
  unfold AddressBook.getOwned
  rw [Option.filter_eq_some_iff, decide_eq_true_eq]

end NovaCommerce.Addresses
