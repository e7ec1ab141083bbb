import Jkannel.Security.Accounts
import Jkannel.Text
import Mathlib.Data.List.Count

/-!
# Signing in

Everything that reads or writes one user's row to let somebody in: logins, refreshes, password
resets, the API keys of the user, and what an administrator does to the row.

* A login reads the row once, and decides on what it has read: it hashes the password, asks for the
  second factor, and in the end writes the row back, with a failure counted or with none.  `step` is
  one statement, or one such check, of any number of these calls.
* `State.barred`, `State.trespassed`, `State.evaluated`, `State.refused` and `State.windows` are no
  columns.  They remember what has happened, for the promises to speak of.

A call whose process dies takes no further step.
-/

namespace Jkannel.Security.Login

open Roles (UserStatus UserChange)

/-! ## Calls -/

/-- What the service relies on. -/
structure Setting where
  /-- `passwords.verify`: whether a password is the one of a hash. -/
  verify : String → String → Bool
  sha256Hex : String → String

/-- The second factor, as sent. -/
structure MfaChallenge where
  totp : Option String
  recoveryCode : Option String

/-- An absent code is the first leg of a normal login; an empty one counts as absent. -/
def attempted (mfa : MfaChallenge) : Bool :=
  mfa.totp.any (· ≠ "") || mfa.recoveryCode.any (· ≠ "")

def lockUntil (policy : SecurityPolicy) (now : Int) (count : Nat) : Option Int :=
  if policy.lockoutThreshold ≤ count then some (now + policy.lockoutMinutes * 60000) else none

/-- What a login answers. -/
inductive Outcome where
  | signedIn
  | unauthorized (message : String)
  | mfaRequired (message : String)

def invalidCredentials : Outcome := .unauthorized "Invalid credentials"

def mfaRequired : Outcome := .mfaRequired "Multi-factor authentication required"

/-- How far a login has got. -/
inductive Phase where
  | started
  /-- It has read the user. -/
  | found (user : Account)
  /-- It has the time and the policy, and no lock was active: the password is hashed next. -/
  | opened (user : Account) (policy : SecurityPolicy) (now : Int)
  /-- The password was right: the second factor is next. -/
  | passed (user : Account) (policy : SecurityPolicy) (now : Int)
  /-- `recordFailedLogin` is next, and then this answer. -/
  | failing (user : Account) (policy : SecurityPolicy) (now : Int) (answer : Outcome)
  /-- `recordSuccessfulLogin` is next. -/
  | succeeding (user : Account)
  | ended (outcome : Outcome)

/-- A login at work. -/
structure Call where
  password : String
  mfa : MfaChallenge
  phase : Phase

/-- A login of which a failure is to be recorded. -/
def Call.failing (call : Call) : Bool :=
  match call.phase with
  | .failing .. => true
  | _ => false

/-- A refresh, with a token that verifies and a session that is live. -/
inductive Refresh where
  /-- The user is looked up next. -/
  | checked
  /-- The session is saved next. -/
  | rotating
  | ended (refreshed : Bool)
  deriving DecidableEq

/-- A row of `password_reset_tokens`. -/
structure ResetToken where
  expiresAt : Int
  usedAt : Option Int

/-- A request for a password reset, or its confirmation. -/
inductive Reset where
  /-- The user was found: a token is stored next. -/
  | targeted
  /-- The token is good: the new password is written next. -/
  | checked (token : Nat)
  /-- The token is marked used next. -/
  | applied (token : Nat) (now : Int)
  | ended

/-! ## API keys -/

/-- A row of `api_keys`. -/
structure ApiKey where
  id : Nat
  tenantId : Nat
  userId : Nat
  keyHash : String
  scopes : List String
  allowedIps : List String
  rateLimit : Option Nat
  expiresAt : Option Int
  isEnabled : Bool
  customerId : Option String

/-- Whom an API key stands for. -/
structure GatewayClient where
  apiKeyId : Nat
  keyPrefix : String
  tenantId : Nat
  userId : Nat
  scopes : List String
  allowedIps : List String
  rateLimit : Option Nat
  customerId : Option String

/-- `raw.trim().replace(/^ApiKey\s+/i, '').trim()`. -/
def withoutScheme (raw : String) : List Char :=
  let trimmed := (Text.trim raw).toList
  if (trimmed.take 6).map Char.toLower = "apikey".toList ∧ (trimmed.drop 6).head?.any Text.isSpace then
    Text.trimChars (trimmed.drop 6)
  else trimmed

/-- `jk_<prefix>.<secret>`, split at the first dot. -/
def parseKey (raw : String) : Option (String × String) :=
  let withoutScheme := withoutScheme raw
  if withoutScheme.take 3 = "jk_".toList then
    let body := withoutScheme.drop 3
    let dot := body.findIdx (· = '.')
    if dot = 0 ∨ body.length ≤ dot + 1 then none
    else some (String.ofList (body.take dot), String.ofList (body.drop (dot + 1)))
  else none

/-- The identity behind a presented key, or why there is none. -/
def authenticate (env : Setting) (keys : String → Option ApiKey) (now : Int) (rawKey : String) :
    Except String GatewayClient :=
  match parseKey rawKey with
  | none => .error "Malformed API key"
  | some (keyPrefix, secret) =>
    match keys keyPrefix with
    | none => .error "Invalid API key"
    | some row =>
      if env.sha256Hex secret ≠ row.keyHash then .error "Invalid API key"
      else if !row.isEnabled then .error "API key is disabled"
      else if row.expiresAt.any (· ≤ now) then .error "API key has expired"
      else .ok ⟨row.id, keyPrefix, row.tenantId, row.userId, row.scopes, row.allowedIps,
        row.rateLimit, row.customerId⟩

/-! ## The machine -/

/-- One account and the calls on it. -/
structure State where
  account : Account
  /-- In milliseconds, like every time here. -/
  clock : Int
  calls : List Call
  refreshes : List Refresh
  tokens : List ResetToken
  resets : List Reset
  keys : String → Option ApiKey
  /-- An administrator has deactivated the account, and has not activated it since. -/
  barred : Bool
  /-- Somebody got in while the account was barred. -/
  trespassed : Bool
  /-- The wrong passwords and second factors that logins have evaluated. -/
  evaluated : Nat
  /-- The logins that counted as failures for the account's status alone. -/
  refused : Nat
  /-- The ends of the lock windows that were ever written, with one there from the start. -/
  windows : List Int

def init (account : Account) (clock : Int) (keys : String → Option ApiKey) : State where
  account := account
  clock := clock
  calls := []
  refreshes := []
  tokens := []
  resets := []
  keys := keys
  barred := false
  trespassed := false
  evaluated := 0
  refused := 0
  windows := account.lockedUntil.toList

/-- One step of one call. -/
inductive Action where
  /-- Time passes. -/
  | tick (now : Int)
  | login (password : String) (mfa : MfaChallenge)
  /-- `findCredential`. -/
  | find (c : Nat)
  /-- It resolves the policy, and looks at the lock. -/
  | lock (c : Nat) (policy : SecurityPolicy)
  | verify (c : Nat)
  /-- The user has no confirmed device, or has one and the challenge met it or did not. -/
  | factor (c : Nat) (met : Option Bool)
  | recordFailedLogin (c : Nat)
  | recordSuccessfulLogin (c : Nat)
  | refresh
  /-- `findCredentialById`. -/
  | resolve (r : Nat)
  | rotate (r : Nat)
  | requestPasswordReset
  | createPasswordResetToken (r : Nat)
  | confirmPasswordReset (token : Nat)
  | applyNewPassword (r : Nat) (passwordHash : String)
  | markPasswordResetTokenUsed (r : Nat)
  | updateUser (value : UserChange)
  | archiveUser
  /-- A key is issued, changed or deleted. -/
  | changeKey (keyPrefix : String) (row : Option ApiKey)
  /-- A key is presented. -/
  | present (rawKey : String)

def State.setCall (s : State) (c : Nat) (call : Call) (phase : Phase) : State :=
  { s with calls := s.calls.set c { call with phase } }

/-- Somebody gets in. -/
def State.enter (s : State) : State := { s with trespassed := s.trespassed || s.barred }

/-- The statuses that keep a user out. -/
def bars (status : UserStatus) : Bool :=
  status = .disabled || status = .locked || status = .archived

/-- The statuses for which a login does not look at the password. -/
def shut (status : UserStatus) : Bool :=
  status = .disabled || status = .archived || status = .deleted

/-- The statuses that an administrator can set. -/
def settable (status : UserStatus) : Bool := status = .active || bars status

/-- Where a login goes from its password check. -/
def afterVerify (env : Setting) (password : String) (user : Account) (policy : SecurityPolicy)
    (now : Int) : Phase :=
  if shut user.status ∨ !env.verify password user.passwordHash then
    .failing user policy now invalidCredentials
  else if usable user.status then .passed user policy now
  else .ended (.unauthorized "Account is not active")

/-- And from its second factor. -/
def afterFactor (mfa : MfaChallenge) (user : Account) (policy : SecurityPolicy) (now : Int)
    (met : Option Bool) : Phase :=
  if met = some false then
    if attempted mfa then .failing user policy now mfaRequired else .ended mfaRequired
  else .succeeding user

/-- What one action does. -/
@[grind =] def step (env : Setting) (s : State) : Action → Option State
  | .tick now => if s.clock ≤ now then some { s with clock := now } else none
  | .login password mfa => some { s with calls := s.calls ++ [⟨password, mfa, .started⟩] }
  | .find c =>
    match s.calls[c]? with
    | some ⟨password, mfa, .started⟩ =>
      some (s.setCall c ⟨password, mfa, .started⟩ (.found s.account))
    | _ => none
  | .lock c policy =>
    match s.calls[c]? with
    | some ⟨password, mfa, .found user⟩ =>
      some (s.setCall c ⟨password, mfa, .found user⟩
        (if user.lockedUntil.any (s.clock < ·) then .ended invalidCredentials
          else .opened user policy s.clock))
    | _ => none
  | .verify c =>
    match s.calls[c]? with
    | some ⟨password, mfa, .opened user policy now⟩ =>
      some { s.setCall c ⟨password, mfa, .opened user policy now⟩
          (afterVerify env password user policy now) with
        evaluated := s.evaluated +
          if !shut user.status && !env.verify password user.passwordHash then 1 else 0
        refused := s.refused + if shut user.status then 1 else 0 }
    | _ => none
  | .factor c met =>
    match s.calls[c]? with
    | some ⟨password, mfa, .passed user policy now⟩ =>
      -- a challenge with no code in it is not met
      if met = some true ∧ !attempted mfa then none
      else
        some { s.setCall c ⟨password, mfa, .passed user policy now⟩
            (afterFactor mfa user policy now met) with
          evaluated := s.evaluated + if met = some false && attempted mfa then 1 else 0 }
    | _ => none
  | .recordFailedLogin c =>
    match s.calls[c]? with
    | some ⟨password, mfa, .failing user policy now answer⟩ =>
      let count := user.failedLoginCount + 1
      let lockedUntil := lockUntil policy now count
      some { s.setCall c ⟨password, mfa, .failing user policy now answer⟩ (.ended answer) with
        account := Security.recordFailedLogin count lockedUntil s.account
        windows := s.windows ++ lockedUntil.toList }
    | _ => none
  | .recordSuccessfulLogin c =>
    match s.calls[c]? with
    | some ⟨password, mfa, .succeeding user⟩ =>
      some { (s.setCall c ⟨password, mfa, .succeeding user⟩ (.ended .signedIn)).enter with
        account := Security.recordSuccessfulLogin s.account }
    | _ => none
  | .refresh => some { s with refreshes := s.refreshes ++ [.checked] }
  | .resolve r =>
    match s.refreshes[r]? with
    | some .checked =>
      some { s with refreshes :=
        s.refreshes.set r (if usable s.account.status then .rotating else .ended false) }
    | _ => none
  | .rotate r =>
    match s.refreshes[r]? with
    | some .rotating => some { s.enter with refreshes := s.refreshes.set r (.ended true) }
    | _ => none
  | .requestPasswordReset =>
    if s.account.status = .archived ∨ s.account.status = .deleted then some s
    else some { s with resets := s.resets ++ [.targeted] }
  | .createPasswordResetToken r =>
    match s.resets[r]? with
    | some .targeted =>
      some { s with
        tokens := s.tokens ++ [⟨s.clock + 3600000, none⟩]
        resets := s.resets.set r .ended }
    | _ => none
  | .confirmPasswordReset token =>
    match s.tokens[token]? with
    | some row =>
      some (if row.usedAt.isSome ∨ row.expiresAt ≤ s.clock then s
        else { s with resets := s.resets ++ [.checked token] })
    | none => some s
  | .applyNewPassword r passwordHash =>
    match s.resets[r]? with
    | some (.checked token) =>
      some { s with
        account := Security.applyNewPassword passwordHash s.account
        resets := s.resets.set r (.applied token s.clock) }
    | _ => none
  | .markPasswordResetTokenUsed r =>
    match s.resets[r]? with
    | some (.applied token now) =>
      some { s with
        tokens := s.tokens.modify token fun row => { row with usedAt := some now }
        resets := s.resets.set r .ended }
    | _ => none
  | .updateUser value =>
    if value.status.all settable then
      some { s with
        account := Security.updateUser value s.account
        barred := (value.status.map bars).getD s.barred }
    else none
  | .archiveUser => some { s with account := Security.archiveUser s.account, barred := true }
  | .changeKey keyPrefix row => some { s with keys := Function.update s.keys keyPrefix row }
  | .present rawKey =>
    match authenticate env s.keys s.clock rawKey with
    | .ok client => some (if client.userId = s.account.id then s.enter else s)
    | .error _ => some s

/-- Signing in to one account, as a transition system. -/
def signingIn (env : Setting) : Transition.System State Action := ⟨step env⟩

/-! ### A user, and two kinds of login -/

/-- Hashes that are the thing itself. -/
def plain : Setting := ⟨fun password hash => password = hash, id⟩

/-- A user. -/
def bob : Account := ⟨2, 1, "bob", "pw", .active, 0, none, ["Viewer"], ["users.view"]⟩

def noMfa : MfaChallenge := ⟨none, none⟩

def noKeys : String → Option ApiKey := fun _ => none

/-- A login up to its answer, with nothing else in between. -/
def fails (c : Nat) (password : String) : List Action :=
  [.login password noMfa, .find c, .lock c DEFAULT_SECURITY_POLICY, .verify c, .recordFailedLogin c]

def succeeds (c : Nat) (password : String) : List Action :=
  [.login password noMfa, .find c, .lock c DEFAULT_SECURITY_POLICY, .verify c, .factor c none,
    .recordSuccessfulLogin c]

end Jkannel.Security.Login
