import Jkannel.Security.Roles

/-!
# User accounts

The row of a user, as the authentication service reads it, and the statements that write it.

* `SecurityPolicy` are the settings that signing in obeys; `merge` keeps each of them in its range.
* `recordFailedLogin`, `recordSuccessfulLogin`, `applyNewPassword` are the service's own writes, and
  `updateUser` and `archiveUser` an administrator's.
-/

namespace Jkannel.Security

open Roles (UserStatus UserChange)

/-! ## Policy -/

/-- The settings that sessions and lockout obey, each in its range. -/
structure SecurityPolicy where
  lockoutThreshold : Nat
  lockoutMinutes : Nat
  accessTokenTtlSeconds : Nat
  /-- Zero for none, as are the next two. -/
  sessionIdleTimeoutMinutes : Nat
  sessionMaxLifetimeHours : Nat
  maxConcurrentSessions : Nat
  threshold_range : 3 ≤ lockoutThreshold ∧ lockoutThreshold ≤ 20
  minutes_range : 1 ≤ lockoutMinutes ∧ lockoutMinutes ≤ 1440
  deriving DecidableEq

/-- A setting, if it is a finite number, cut to a whole one and kept between two bounds. -/
def toNumber (raw : Option Int) (fallback min max : Nat) : Nat :=
  match raw with
  | none => fallback
  | some value => Nat.min max (Nat.max min value.toNat)

/-- The same for a setting that can be turned off. -/
def toOptionalNumber (raw : Option Int) (fallback min max : Nat) : Nat :=
  match raw with
  | none => fallback
  | some value => if value ≤ 0 then 0 else Nat.min max (Nat.max min value.toNat)

theorem toNumber_range (raw : Option Int) {fallback min max : Nat} (hle : min ≤ max)
    (h : min ≤ fallback ∧ fallback ≤ max) :
    min ≤ toNumber raw fallback min max ∧ toNumber raw fallback min max ≤ max := by
  cases raw with
  | none => exact h
  | some value =>
    exact ⟨Nat.le_min.mpr ⟨hle, Nat.le_max_left ..⟩, Nat.min_le_left ..⟩

/-- The `security.*` settings of a tenant, those that are finite numbers, truncated. -/
structure SecuritySettings where
  lockoutThreshold : Option Int
  lockoutMinutes : Option Int
  accessTokenTtlSeconds : Option Int
  sessionIdleTimeoutMinutes : Option Int
  sessionMaxLifetimeHours : Option Int
  maxConcurrentSessions : Option Int

def merge (settings : SecuritySettings) : SecurityPolicy where
  lockoutThreshold := toNumber settings.lockoutThreshold 5 3 20
  lockoutMinutes := toNumber settings.lockoutMinutes 15 1 1440
  accessTokenTtlSeconds := toNumber settings.accessTokenTtlSeconds 900 300 3600
  sessionIdleTimeoutMinutes := toOptionalNumber settings.sessionIdleTimeoutMinutes 60 5 10080
  sessionMaxLifetimeHours := toOptionalNumber settings.sessionMaxLifetimeHours 168 1 8760
  maxConcurrentSessions := toOptionalNumber settings.maxConcurrentSessions 0 1 100
  threshold_range := toNumber_range _ (by decide) (by decide)
  minutes_range := toNumber_range _ (by decide) (by decide)

def DEFAULT_SECURITY_POLICY : SecurityPolicy := merge ⟨none, none, none, none, none, none⟩

/-! ## The row -/

/-- What `CREDENTIAL_SELECT` reads of a user. -/
structure Account where
  id : Nat
  tenantId : Nat
  username : String
  passwordHash : String
  status : UserStatus
  failedLoginCount : Nat
  /-- In milliseconds. -/
  lockedUntil : Option Int
  roles : List String
  permissions : List String

/-- The UPDATE of a failed login, with absolute values. -/
def recordFailedLogin (failedCount : Nat) (lockedUntil : Option Int) (row : Account) : Account :=
  { row with
    failedLoginCount := failedCount
    lockedUntil
    status := if lockedUntil = none then row.status else .locked }

def recordSuccessfulLogin (row : Account) : Account :=
  { row with
    failedLoginCount := 0
    lockedUntil := none
    status := if row.status = .locked then .active else row.status }

def applyNewPassword (passwordHash : String) (row : Account) : Account :=
  { row with
    passwordHash
    status := .active
    failedLoginCount := 0
    lockedUntil := none }

/-- The UPDATE of an administrator's change, when it names a status or a password. -/
def updateUser (value : UserChange) (row : Account) : Account :=
  if value.status.isSome ∨ value.passwordHash.isSome then
    { row with
      status := value.status.getD row.status
      passwordHash := value.passwordHash.getD row.passwordHash
      failedLoginCount := if value.status = some .active then 0 else row.failedLoginCount
      lockedUntil := if value.status = some .active then none else row.lockedUntil }
  else row

def archiveUser (row : Account) : Account := { row with status := .archived }

/-- A privilege change must not survive in an issued session: whether a change revokes them. -/
def revokesSessions (value : UserChange) : Bool :=
  value.status.any (· ≠ .active) || value.roleIds.isSome || value.passwordHash.isSome

/-- The statuses that a refresh accepts. -/
def usable (status : UserStatus) : Bool := status = .active || status = .locked

end Jkannel.Security
