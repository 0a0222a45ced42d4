import NovaCommerce.Core

/-!
# Accounts and sessions: the tables

The rows of `users`, `roles`, `user_roles` and `auth_sessions`. A row keeps the columns that the modelled functions read or
write; no statement of the identity module locks a row before it writes it.
-/

namespace NovaCommerce.Identity

open Sql

/-! ## Vocabularies -/

inductive UserType where
  | consumer
  | staff
  deriving DecidableEq, Repr

def UserType.value : UserType → String
  | .consumer => "CONSUMER"
  | .staff => "STAFF"

inductive UserStatus where
  | active
  | inactive
  | locked
  | disabled
  deriving DecidableEq, Repr

/-- What an account may see. -/
inductive DataScope where
  | none
  | self
  | merchant
  | all
  deriving DecidableEq, Repr

namespace DataScope

def value : DataScope → String
  | .none => "NONE"
  | .self => "SELF"
  | .merchant => "MERCHANT"
  | .all => "ALL"

/-- `_SCOPE_RANK`. -/
def rank : DataScope → Nat
  | .none => 0
  | .self => 1
  | .merchant => 2
  | .all => 3

/-- `DataScope(raw)`, `none` for a `ValueError`. -/
def parse? (raw : String) : Option DataScope :=
  [DataScope.none, .self, .merchant, .all].find? fun scope => scope.value = raw

end DataScope

/-- Why a session stopped being valid. -/
inductive SessionRevokeReason where
  | logout
  | logoutAll
  | rotated
  | reuseDetected
  | expired
  | passwordChanged
  | adminRevoked
  | accountLocked
  deriving DecidableEq, Repr

/-! ## Rows -/

/-- An account. -/
structure User where
  merchantId : Option Nat := none
  username : String
  email : Option String := none
  phone : Option String := none
  passwordHash : String
  userType : UserType := .consumer
  status : UserStatus := .active
  dataScopeOverride : Option String := none
  failedLoginAttempts : Nat := 0
  lockedUntil : Option Time := none
  lastLoginAt : Option Time := none
  passwordChangedAt : Option Time := none
  deletedAt : Option Time := none
  deriving DecidableEq

def User.isStaff (u : User) : Bool := decide (u.userType = .staff)

/-- A role, with the codes of its permissions. -/
structure Role where
  code : String
  dataScope : String
  permissions : List String := []
  deriving DecidableEq

/-- A role that a user was given. -/
structure UserRole where
  userId : Nat
  roleId : Nat
  expiresAt : Option Time := none
  deriving DecidableEq

/-- A refresh-token session. -/
structure AuthSession where
  userId : Nat
  sessionId : String
  refreshTokenHash : String
  jti : String
  issuedAt : Time
  expiresAt : Time
  revokedAt : Option Time := none
  revokedReason : Option SessionRevokeReason := none
  rotatedFrom : Option Nat := none
  lastUsedAt : Option Time := none
  clientIp : Option String := none
  userAgent : Option String := none
  loginSource : String
  createdAt : Time
  deriving DecidableEq

namespace AuthSession

/-- The session was not revoked. -/
def Live (s : AuthSession) : Prop := s.revokedAt = none

instance decidableLive (s : AuthSession) : Decidable s.Live := by
  unfold Live
  infer_instance

/-- The CHECK constraint of `auth_sessions`. -/
def Checked (s : AuthSession) : Prop := ∀ t ∈ s.revokedAt, s.createdAt ≤ t

instance decidableChecked (s : AuthSession) : Decidable s.Checked := by
  unfold Checked
  infer_instance

/-- The columns of a revoked session. -/
def revokedBy (reason : SessionRevokeReason) (when_ : Time) (s : AuthSession) : AuthSession :=
  { s with revokedAt := some when_, revokedReason := some reason }

end AuthSession

/-- The tables. -/
structure Db where
  users : Dict Nat User := Dict.empty
  roles : Dict Nat Role := Dict.empty
  userRoles : Dict Nat UserRole := Dict.empty
  sessions : Dict Nat AuthSession := Dict.empty

/-- A row, or an entry of a unique index, that a statement locks. -/
inductive RowLock where
  | user (id : Nat)
  | session (id : Nat)
  | sessionId (sessionId : String)
  | refreshTokenHash (hash : String)
  | jti (jti : String)
  deriving DecidableEq

abbrev Tx (α : Type) := Sql Db RowLock AppError α

/-- No session uses an id that is still to be drawn. -/
def Db.FreshFrom (d : Db) (next : Nat) : Prop := ∀ i, next ≤ i → d.sessions.get? i = none

end NovaCommerce.Identity
