import Jkannel.Lib.Redemption
import Jkannel.Security.Accounts
import Jkannel.Text

/-!
# One-time credentials

Password-reset tokens, invitations, recovery codes and time-based codes.  Each is looked up, acted on
and marked used by statements of their own; `step` is one of these, of any number of calls.

* `single_use` is the promise: nothing is good twice.  It holds in every run in which a credential is
  still fresh when it takes effect, or is marked; and in which no time-based code that was accepted is
  presented while it would be accepted again.
* `used_twice` is the rest: two overlapping redemptions both go through, as does a second one after
  a crash between the effect and the mark, and a time-based code is good for a minute and a half.

A call that is turned away, and one whose process dies, takes no further step.
-/

namespace Jkannel.Security.OneTime

open List
open Redemption (Phase Fresh Sound markedIn sound_nil)
open Text (trim)

/-- What the service relies on. -/
structure Setting where
  /-- SHA-256 in hexadecimal. -/
  digest : String → String
  /-- The six digits of a secret at a counter. -/
  hotp : String → Int → String

/-! ## Rows -/

/-- A row of `password_reset_tokens`. -/
structure PasswordResetToken where
  tenantId : Nat
  userId : Nat
  tokenHash : String
  /-- In milliseconds, like every time here. -/
  expiresAt : Int
  usedAt : Option Int

inductive InvitationStatus where
  | pending | accepted | revoked | expired
  deriving DecidableEq

/-- A row of `user_invitations`. -/
structure Invitation where
  tenantId : Nat
  roleId : Option Nat
  status : InvitationStatus
  tokenHash : String
  expiresAt : Int
  acceptedAt : Option Int

/-- A row of `mfa_recovery_codes`. -/
structure RecoveryCode where
  tenantId : Nat
  userId : Nat
  codeHash : String
  usedAt : Option Int

/-- A row of `mfa_devices`. -/
structure MfaDevice where
  tenantId : Nat
  userId : Nat
  secret : String
  confirmed : Bool

/-- `toLowerCase`, of the characters that have to do with these letters and digits: two others have
one of them in their lower case. -/
def lowerCase (c : Char) : Char :=
  if c = Char.ofNat 0x212A then 'k' else if c = Char.ofNat 0x130 then 'i' else c.toLower

def normalizeRecoveryCode (code : String) : String :=
  String.ofList ((code.toList.map lowerCase).filter fun c =>
    ('a' ≤ c && c ≤ 'z') || ('0' ≤ c && c ≤ '9'))

/-! ## Time-based codes -/

def PERIOD : Int := 30

def totpCounter (now : Int) : Int := now.fdiv (1000 * PERIOD)

/-- Whether a code is the one of this window, of the one before or of the one after. -/
def inWindow (env : Setting) (secret candidate : String) (now : Int) : Bool :=
  [-1, 0, 1].any fun window => env.hotp secret (totpCounter now + window) = candidate

/-- `/^\d\x7b6\x7d$/`. -/
def sixDigits (candidate : String) : Bool :=
  candidate.toList.length = 6 && candidate.toList.all fun c => '0' ≤ c && c ≤ '9'

def verifyTotp (env : Setting) (secret token : String) (now : Int) : Bool :=
  let candidate := trim token
  sixDigits candidate && inWindow env secret candidate now

/-! ## The machine -/

/-- A call of `confirmPasswordReset`. -/
inductive Reset where
  | found (token : Nat) (now : Int)
  /-- The new password is written. -/
  | applied (token : Nat) (now : Int)
  | marked

def Reset.phase : Reset → Phase Nat
  | .found token _ => .looked token
  | .applied token _ => .acted token
  | .marked => .idle

/-- A call of `acceptInvitation`. -/
inductive Acceptance where
  | found (invitation : Nat)
  /-- The user is there. -/
  | created (invitation userId : Nat) (acceptedAt : Int)
  /-- And has its role. -/
  | assigned (invitation userId : Nat) (acceptedAt : Int)
  | marked
  /-- The username was taken. -/
  | conflict

def Acceptance.phase : Acceptance → Phase Nat
  | .found invitation => .looked invitation
  | .created invitation .. => .acted invitation
  | .assigned invitation .. => .acted invitation
  | .marked => .idle
  | .conflict => .idle

/-- A login that presents a recovery code. -/
inductive Recovery where
  | found (code : Nat) (now : Int)
  /-- The challenge is met: the login goes on to let the user in. -/
  | burnt (code : Nat)
  | admitted

def Recovery.phase : Recovery → Phase Nat
  | .found code _ => .looked code
  | .burnt code => .marked code
  | .admitted => .idle

/-- The credentials and the calls. -/
structure State where
  clock : Int
  users : List Account
  userRoles : List (Nat × Nat)
  tokens : List PasswordResetToken
  resets : List Reset
  invitations : List Invitation
  acceptances : List Acceptance
  /-- Codes that were deleted leave a gap. -/
  codes : List (Option RecoveryCode)
  recoveries : List Recovery
  devices : List (Option MfaDevice)
  /-- The tokens that changed a password, once for each time. -/
  changed : List Nat
  /-- The invitations that created a user. -/
  invited : List Nat
  /-- The recovery codes that let somebody in. -/
  recovered : List Nat
  /-- The time-based codes that were accepted, with their devices. -/
  accepted : List (Nat × String)

def init (clock : Int) (users : List Account) : State where
  clock := clock
  users := users
  userRoles := []
  tokens := []
  resets := []
  invitations := []
  acceptances := []
  codes := []
  recoveries := []
  devices := []
  changed := []
  invited := []
  recovered := []
  accepted := []

/-- What a time-based code is presented for. -/
inductive Use where
  | confirm | login | disable
  deriving DecidableEq

/-- One statement of one call. -/
inductive Action where
  | tick (now : Int)
  | createPasswordResetToken (tenantId userId : Nat) (tokenHash : String)
  /-- `findPasswordResetToken`, and the check of what it finds. -/
  | confirmPasswordReset (token : String)
  | applyNewPassword (r : Nat) (passwordHash : String)
  | markPasswordResetTokenUsed (r : Nat)
  | invite (tenantId : Nat) (roleId : Option Nat) (tokenHash : String)
  | findPendingInvitation (token : String)
  /-- `INSERT INTO users`. -/
  | acceptInvitation (r userId : Nat) (username passwordHash : String)
  /-- `INSERT INTO user_roles`, if the invitation names a role. -/
  | assignRole (r : Nat)
  /-- `UPDATE user_invitations`. -/
  | markAccepted (r : Nat)
  | enroll (tenantId userId : Nat) (secret : String) (codeHashes : List String)
  /-- A login looks for a recovery code. -/
  | findActiveRecoveryCode (tenantId userId : Nat) (code : String)
  | burnRecoveryCode (r : Nat)
  /-- The login lets the user in. -/
  | letIn (r : Nat)
  | presentTotp (device : Nat) (token : String) (use : Use)

/-- `DELETE … WHERE user_id=$1`. -/
def State.deleteMfa (s : State) (userId : Nat) : State :=
  { s with
    devices := s.devices.map fun row => row.filter fun device => device.userId ≠ userId
    codes := s.codes.map fun row => row.filter fun code => code.userId ≠ userId }

/-- Pairs of numbers are compared as such. -/
local instance lawfulBEqPair : LawfulBEq (Nat × Nat) := inferInstance

/-- What one action does. -/
@[grind =] def step (env : Setting) (s : State) : Action → Option State
  | .tick now => if s.clock ≤ now then some { s with clock := now } else none
  | .createPasswordResetToken tenantId userId tokenHash =>
    -- `token_hash` is unique
    if s.tokens.any fun row => row.tokenHash = tokenHash then none
    else some { s with
      tokens := s.tokens ++ [⟨tenantId, userId, tokenHash, s.clock + 3600000, none⟩] }
  | .confirmPasswordReset token =>
    let k := s.tokens.findIdx fun row => row.tokenHash = env.digest token
    match s.tokens[k]? with
    | none => some s
    | some row =>
      if row.usedAt.isSome ∨ row.expiresAt ≤ s.clock then some s
      else some { s with resets := s.resets ++ [.found k s.clock] }
  | .applyNewPassword r passwordHash =>
    match s.resets[r]? with
    | some (.found k now) =>
      match s.tokens[k]? with
      | some token =>
        some { s with
          users := s.users.map fun row =>
            if row.id = token.userId then Security.applyNewPassword passwordHash row else row
          resets := s.resets.set r (.applied k now)
          changed := s.changed ++ [k] }
      | none => none
    | _ => none
  | .markPasswordResetTokenUsed r =>
    match s.resets[r]? with
    | some (.applied k now) =>
      some { s with
        tokens := s.tokens.modify k fun row => { row with usedAt := some now }
        resets := s.resets.set r .marked }
    | _ => none
  | .invite tenantId roleId tokenHash =>
    some { s with invitations :=
      s.invitations ++ [⟨tenantId, roleId, .pending, tokenHash, s.clock + 604800000, none⟩] }
  | .findPendingInvitation token =>
    let k := s.invitations.findIdx fun row =>
      row.tokenHash = env.digest token && row.status = .pending && s.clock < row.expiresAt
    if k < s.invitations.length then some { s with acceptances := s.acceptances ++ [.found k] }
    else some s
  | .acceptInvitation r userId username passwordHash =>
    match s.acceptances[r]? with
    | some (.found k) =>
      match s.invitations[k]? with
      | some invitation =>
        if trim username = "" ∨ s.users.any fun row => row.id = userId then none
        -- `(tenant_id, username)` is unique
        else if s.users.any fun row =>
            row.tenantId = invitation.tenantId && row.username = trim username then
          some { s with acceptances := s.acceptances.set r .conflict }
        else
          some { s with
            users := s.users ++ [⟨userId, invitation.tenantId, trim username, passwordHash,
              .active, 0, none, [], []⟩]
            acceptances := s.acceptances.set r (.created k userId s.clock)
            invited := s.invited ++ [k] }
      | none => none
    | _ => none
  | .assignRole r =>
    match s.acceptances[r]? with
    | some (.created k userId acceptedAt) =>
      match s.invitations[k]? with
      | some invitation =>
        some { s with
          userRoles := match invitation.roleId with
            | some roleId =>
              if (userId, roleId) ∈ s.userRoles then s.userRoles
              else s.userRoles ++ [(userId, roleId)]
            | none => s.userRoles
          acceptances := s.acceptances.set r (.assigned k userId acceptedAt) }
      | none => none
    | _ => none
  | .markAccepted r =>
    match s.acceptances[r]? with
    | some (.assigned k _ acceptedAt) =>
      some { s with
        invitations := s.invitations.modify k fun row =>
          { row with status := .accepted, acceptedAt := some acceptedAt }
        acceptances := s.acceptances.set r .marked }
    | _ => none
  | .enroll tenantId userId secret codeHashes =>
    -- a confirmed device is to be disabled first; `(tenant_id, user_id, code_hash)` is unique
    if (s.devices.any fun row => row.any fun device => device.userId = userId && device.confirmed) ∨
        ¬ codeHashes.Nodup then none
    else
      let s' := s.deleteMfa userId
      some { s' with
        devices := s'.devices ++ [some ⟨tenantId, userId, secret, false⟩]
        codes := s'.codes ++ codeHashes.map fun codeHash => some ⟨tenantId, userId, codeHash, none⟩ }
  | .findActiveRecoveryCode tenantId userId code =>
    let codeHash := env.digest (normalizeRecoveryCode code)
    let k := s.codes.findIdx fun row => row.any fun code =>
      code.tenantId = tenantId && code.userId = userId && code.codeHash = codeHash &&
        code.usedAt.isNone
    if k < s.codes.length then some { s with recoveries := s.recoveries ++ [.found k s.clock] }
    else some s
  | .burnRecoveryCode r =>
    match s.recoveries[r]? with
    | some (.found k now) =>
      -- `… AND used_at IS NULL`; how many rows it changed is not looked at
      some { s with
        codes := s.codes.modify k fun row => row.map fun code =>
          if code.usedAt.isNone then { code with usedAt := some now } else code
        recoveries := s.recoveries.set r (.burnt k) }
    | _ => none
  | .letIn r =>
    match s.recoveries[r]? with
    | some (.burnt k) =>
      some { s with
        recoveries := s.recoveries.set r .admitted
        recovered := s.recovered ++ [k] }
    | _ => none
  | .presentTotp d token use =>
    match s.devices[d]? with
    | some (some device) =>
      if device.confirmed ≠ decide (use ≠ .confirm) then none
      else if verifyTotp env device.secret token s.clock then
        let s' := { s with accepted := s.accepted ++ [(d, trim token)] }
        some (match use with
          | .confirm => { s' with devices := s'.devices.set d (some { device with confirmed := true }) }
          | .login => s'
          | .disable => s'.deleteMfa device.userId)
      else some s
    | _ => none

/-- One-time credentials as a transition system. -/
def redeeming (env : Setting) : Transition.System State Action := ⟨step env⟩

/-! ## What is promised -/

/-- The marks of a token, of an invitation and of a recovery code; one that is gone is as good as
used. -/
def tokenUsed (row : PasswordResetToken) : Bool := row.usedAt.isSome

def invitationUsed (row : Invitation) : Bool := row.status ≠ .pending

def codeUsed (row : Option RecoveryCode) : Bool := row.all fun code => code.usedAt.isSome

/-- Whether the username is taken that this acceptance asks for. -/
def taken (s : State) (k : Nat) (username : String) : Prop :=
  ∃ invitation ∈ s.invitations[k]?, s.users.any fun row =>
    row.tenantId = invitation.tenantId && row.username = trim username

/-- A step that uses nothing twice: what takes effect, or is marked, is still fresh (it carries no
mark, and no redemption has used it and has still to mark it), and a time-based code that was
accepted is not presented while it is in a window. -/
def Guarded (env : Setting) (s : State) : Action → Prop
  | .applyNewPassword r _ =>
    ∀ call ∈ s.resets[r]?, ∀ k ∈ call.phase.looking,
      Fresh (markedIn tokenUsed s.tokens) (s.resets.map Reset.phase) k
  | .acceptInvitation r _ username _ =>
    ∀ call ∈ s.acceptances[r]?, ∀ k ∈ call.phase.looking,
      taken s k username ∨ Fresh (markedIn invitationUsed s.invitations)
        (s.acceptances.map Acceptance.phase) k
  | .burnRecoveryCode r =>
    ∀ call ∈ s.recoveries[r]?, ∀ k ∈ call.phase.looking,
      Fresh (markedIn codeUsed s.codes) (s.recoveries.map Recovery.phase) k
  | .presentTotp d token _ =>
    ∀ row ∈ s.devices[d]?, ∀ device ∈ row, (d, trim token) ∈ s.accepted →
      inWindow env device.secret (trim token) s.clock = false
  | _ => True

/-- Nothing has been good twice. -/
structure Single (s : State) : Prop where
  resets : s.changed.Nodup
  invitations : s.invited.Nodup
  recoveryCodes : s.recovered.Nodup
  totp : s.accepted.Nodup

instance (s : State) (k : Nat) (username : String) : Decidable (taken s k username) :=
  inferInstanceAs (Decidable (∃ invitation ∈ s.invitations[k]?, _))

instance (env : Setting) (s : State) (a : Action) : Decidable (Guarded env s a) :=
  match a with
  | .applyNewPassword r _ => inferInstanceAs (Decidable (∀ call ∈ s.resets[r]?,
      ∀ k ∈ call.phase.looking, Fresh (markedIn tokenUsed s.tokens) (s.resets.map Reset.phase) k))
  | .acceptInvitation r _ username _ => inferInstanceAs (Decidable (∀ call ∈ s.acceptances[r]?,
      ∀ k ∈ call.phase.looking, taken s k username ∨
        Fresh (markedIn invitationUsed s.invitations) (s.acceptances.map Acceptance.phase) k))
  | .burnRecoveryCode r => inferInstanceAs (Decidable (∀ call ∈ s.recoveries[r]?,
      ∀ k ∈ call.phase.looking, Fresh (markedIn codeUsed s.codes) (s.recoveries.map Recovery.phase) k))
  | .presentTotp d token _ => inferInstanceAs (Decidable (∀ row ∈ s.devices[d]?,
      ∀ device ∈ row, (d, trim token) ∈ s.accepted →
        inWindow env device.secret (trim token) s.clock = false))
  | .tick _ | .createPasswordResetToken .. | .confirmPasswordReset _
  | .markPasswordResetTokenUsed _ | .invite .. | .findPendingInvitation _ | .assignRole _
  | .markAccepted _ | .enroll .. | .findActiveRecoveryCode .. | .letIn _ =>
    inferInstanceAs (Decidable True)

/-! ## Every step

One lemma for each action: it is about one of the four credentials, and leaves the others alone. -/

theorem codeUsed_burn (now : Int) (row : Option RecoveryCode) :
    codeUsed (row.map fun code =>
      if code.usedAt.isNone then { code with usedAt := some now } else code) := by
  cases row with
  | none => rfl
  | some code =>
    change (if code.usedAt.isNone then { code with usedAt := some now } else code).usedAt.isSome
    split
    · rfl
    · rename_i hused
      rw [Option.isNone_iff_eq_none] at hused
      exact Option.isSome_iff_ne_none.mpr hused

/-- What a step keeps of the credentials. -/
structure Inv (s : State) : Prop where
  resets : Sound tokenUsed s.tokens (s.resets.map Reset.phase) s.changed
  invitations : Sound invitationUsed s.invitations (s.acceptances.map Acceptance.phase) s.invited
  codes : Sound codeUsed s.codes (s.recoveries.map Recovery.phase) s.recovered
  totp : s.accepted.Nodup

theorem inv_init (clock : Int) (users : List Account) : Inv (init clock users) :=
  ⟨sound_nil _, sound_nil _, sound_nil _, nodup_nil⟩

section Steps

variable {env : Setting} {s s' : State}

theorem getElem?_map_eq {A B : Type} {l : List A} {i : Nat} {a : A} (f : A → B)
    (h : l[i]? = some a) : (l.map f)[i]? = some (f a) := by
  rw [getElem?_map, h]
  rfl

section

variable (h : Inv s) {users : List Account}
include h

/-- What concerns tokens alone. -/
theorem Inv.setResets {tokens : List PasswordResetToken} {resets : List Reset} {changed : List Nat}
    (hsound : Sound tokenUsed tokens (resets.map Reset.phase) changed) :
    Inv { s with users := users, tokens := tokens, resets := resets, changed := changed } :=
  ⟨hsound, h.invitations, h.codes, h.totp⟩

theorem Inv.setAcceptances {userRoles : List (Nat × Nat)}
    {invitations : List Invitation} {acceptances : List Acceptance} {invited : List Nat}
    (hsound : Sound invitationUsed invitations (acceptances.map Acceptance.phase) invited) :
    Inv { s with
      users := users, userRoles := userRoles, invitations := invitations
      acceptances := acceptances, invited := invited } :=
  ⟨h.resets, hsound, h.codes, h.totp⟩

theorem Inv.setRecoveries {codes : List (Option RecoveryCode)}
    {recoveries : List Recovery} {devices : List (Option MfaDevice)} {recovered : List Nat}
    (hsound : Sound codeUsed codes (recoveries.map Recovery.phase) recovered) :
    Inv { s with
      codes := codes, recoveries := recoveries, devices := devices, recovered := recovered } :=
  ⟨h.resets, h.invitations, hsound, h.totp⟩

theorem Inv.deleteMfa (userId : Nat) : Inv (s.deleteMfa userId) :=
  h.setRecoveries (h.codes.map fun row hrow => by
    cases row with
    | none => rfl
    | some code =>
      by_cases hkeep : code.userId ≠ userId
      · rw [Option.filter_some, if_pos (decide_eq_true hkeep)]
        exact hrow
      · rw [Option.filter_some, if_neg (by rwa [decide_eq_true_eq])]
        rfl)

/-- A time-based code is accepted that was not accepted before. -/
theorem Inv.accept {d : Nat} {candidate : String}
    (hnew : (d, candidate) ∉ s.accepted) : Inv { s with accepted := s.accepted ++ [(d, candidate)] } :=
  ⟨h.resets, h.invitations, h.codes, nodup_append.mpr ⟨h.totp, nodup_singleton _,
    fun a ha b hb => by
      obtain rfl := mem_singleton.mp hb
      exact fun he => hnew (he ▸ ha)⟩⟩

theorem Inv.confirmPasswordReset {token : String}
    (hs : step env s (.confirmPasswordReset token) = some s') : Inv s' := by
  simp only [step] at hs
  split at hs
  · cases hs
    exact h
  · rename_i row hrow
    obtain ⟨hlt, -⟩ := List.getElem?_eq_some_iff.mp hrow
    split at hs
    · cases hs
      exact h
    · cases hs
      refine h.setResets ?_
      rw [map_append]
      exact h.resets.look hlt

theorem Inv.applyNewPassword {r : Nat} {passwordHash : String}
    (hguard : Guarded env s (.applyNewPassword r passwordHash))
    (hs : step env s (.applyNewPassword r passwordHash) = some s') : Inv s' := by
  simp only [step] at hs
  split at hs
  · rename_i k now hr
    split at hs
    · cases hs
      refine h.setResets ?_
      rw [map_set]
      exact h.resets.act (getElem?_map_eq Reset.phase hr) (hguard _ hr k rfl)
    · cases hs
  · cases hs

theorem Inv.acceptInvitation {r userId : Nat} {username passwordHash : String}
    (hguard : Guarded env s (.acceptInvitation r userId username passwordHash))
    (hs : step env s (.acceptInvitation r userId username passwordHash) = some s') : Inv s' := by
  simp only [step] at hs
  split at hs
  · rename_i k hr
    have hi := getElem?_map_eq Acceptance.phase hr
    split at hs
    · rename_i invitation hinvitation
      split at hs
      · cases hs
      · split at hs
        · cases hs
          refine h.setAcceptances ?_
          rw [map_set]
          exact h.invitations.drop hi
        · rename_i hfree
          cases hs
          have hfresh := (hguard _ hr k rfl).resolve_left fun ⟨row, hrow, htaken⟩ => by
            obtain rfl := Option.some.inj (hinvitation.symm.trans hrow)
            exact hfree htaken
          refine h.setAcceptances ?_
          rw [map_set]
          exact h.invitations.act hi hfresh
    · cases hs
  · cases hs

theorem Inv.assignRole {r : Nat} (hs : step env s (.assignRole r) = some s') :
    Inv s' := by
  simp only [step] at hs
  split at hs
  · rename_i k userId acceptedAt hr
    split at hs
    · cases hs
      refine h.setAcceptances ?_
      -- it has still to mark the invitation
      have hsame : (s.acceptances.set r (.assigned k userId acceptedAt)).map Acceptance.phase =
          s.acceptances.map Acceptance.phase := by
        obtain ⟨hlt, he⟩ := List.getElem?_eq_some_iff.mp (getElem?_map_eq Acceptance.phase hr)
        rw [map_set]
        exact (congrArg _ he.symm).trans (set_getElem_self hlt)
      rw [hsame]
      exact h.invitations
    · cases hs
  · cases hs

theorem Inv.presentTotp {d : Nat} {token : String} {use : Use}
    (hguard : Guarded env s (.presentTotp d token use))
    (hs : step env s (.presentTotp d token use) = some s') : Inv s' := by
  simp only [step] at hs
  split at hs
  · rename_i device hd
    split at hs
    · cases hs
    · split at hs
      · rename_i hverified
        have hwindow : inWindow env device.secret (trim token) s.clock = true :=
          ((Bool.and_eq_true ..).mp hverified).2
        have haccepted : Inv { s with accepted := s.accepted ++ [(d, trim token)] } :=
          h.accept fun hmem => by
            rw [hguard _ hd device rfl hmem] at hwindow
            cases hwindow
        cases hs
        cases use with
        | confirm => exact haccepted.setRecoveries haccepted.codes
        | login => exact haccepted
        | disable => exact haccepted.deleteMfa device.userId
      · cases hs
        exact h
  · cases hs

/-- **One step.** -/
theorem inv_step {a : Action} (hguard : Guarded env s a)
    (hs : step env s a = some s') : Inv s' := by
  cases a with
  | tick now =>
    rw [step] at hs
    split at hs
    · cases hs
      exact ⟨h.resets, h.invitations, h.codes, h.totp⟩
    · cases hs
  | createPasswordResetToken tenantId userId tokenHash =>
    rw [step] at hs
    split at hs
    · cases hs
    · cases hs
      exact h.setResets (h.resets.append _)
  | confirmPasswordReset _ => exact h.confirmPasswordReset hs
  | applyNewPassword _ _ => exact h.applyNewPassword hguard hs
  | markPasswordResetTokenUsed r =>
    simp only [step] at hs
    split at hs
    · rename_i k now hr
      cases hs
      refine h.setResets ?_
      rw [map_set]
      exact h.resets.mark (getElem?_map_eq Reset.phase hr) fun _ => rfl
    · cases hs
  | invite tenantId roleId tokenHash =>
    cases hs
    exact h.setAcceptances (h.invitations.append _)
  | findPendingInvitation token =>
    simp only [step] at hs
    split at hs
    · rename_i hlt
      cases hs
      refine h.setAcceptances ?_
      rw [map_append]
      exact h.invitations.look hlt
    · cases hs
      exact h
  | acceptInvitation _ _ _ _ => exact h.acceptInvitation hguard hs
  | assignRole _ => exact h.assignRole hs
  | markAccepted r =>
    simp only [step] at hs
    split at hs
    · rename_i k userId acceptedAt hr
      cases hs
      refine h.setAcceptances ?_
      rw [map_set]
      exact h.invitations.mark (getElem?_map_eq Acceptance.phase hr) fun _ => rfl
    · cases hs
  | enroll tenantId userId secret codeHashes =>
    simp only [step] at hs
    split at hs
    · cases hs
    · cases hs
      have hdeleted := h.deleteMfa userId
      exact hdeleted.setRecoveries (hdeleted.codes.append _)
  | findActiveRecoveryCode tenantId userId code =>
    simp only [step] at hs
    split at hs
    · rename_i hlt
      cases hs
      refine h.setRecoveries ?_
      rw [map_append]
      exact h.codes.look hlt
    · cases hs
      exact h
  | burnRecoveryCode r =>
    simp only [step] at hs
    split at hs
    · rename_i k now hr
      cases hs
      refine h.setRecoveries ?_
      rw [map_set]
      exact h.codes.burn (getElem?_map_eq Recovery.phase hr) (hguard _ hr k rfl) (codeUsed_burn now)
    · cases hs
  | letIn r =>
    simp only [step] at hs
    split at hs
    · rename_i k hr
      cases hs
      refine h.setRecoveries ?_
      rw [map_set]
      exact h.codes.letIn (getElem?_map_eq Recovery.phase hr)
    · cases hs
  | presentTotp _ _ _ => exact h.presentTotp hguard hs

end

end Steps

/-- **One-time credentials work once**, in every run that is guarded. -/
theorem single_use (env : Setting) (clock : Int) (users : List Account) (actions : List Action)
    (s : State) (hguard : (redeeming env).Along (Guarded env) (init clock users) actions)
    (hrun : (redeeming env).run (init clock users) actions = some s) : Single s := by
  have hinv : Inv s := (redeeming env).invariant_along (P := Guarded env) (I := Inv)
    (fun _ _ _ hi ha hs => inv_step hi ha hs) (inv_init clock users) hguard hrun
  exact ⟨hinv.resets.once.nodup, hinv.invitations.once.nodup, hinv.codes.once.nodup, hinv.totp⟩

/-! ### Credentials that are good once, and some that are good twice -/

/-- Hashes that are the text itself, and codes that are the last six digits of the counter. -/
def plain : Setting where
  digest := id
  hotp := fun _ counter => String.ofList ([100000, 10000, 1000, 100, 10, 1].map fun unit =>
    Char.ofNat (48 + counter.toNat / unit % 10))

/-- A user who asked for a password reset and enrolled, and an invitation. -/
def carol : Account := ⟨3, 1, "carol", "old", .active, 0, none, [], []⟩

def issued : List Action :=
  [.createPasswordResetToken 1 3 "t", .invite 1 (some 9) "i", .enroll 1 3 "S" ["abc"]]

/-- Each credential is redeemed once, and presented again. -/
def redeemed : List Action :=
  issued ++
    [.confirmPasswordReset "t", .applyNewPassword 0 "new", .markPasswordResetTokenUsed 0,
      .confirmPasswordReset "t",
      .findPendingInvitation "i", .acceptInvitation 0 4 " dave " "h", .assignRole 0, .markAccepted 0,
      .findPendingInvitation "i",
      .findActiveRecoveryCode 1 3 "A-B-C", .burnRecoveryCode 0, .letIn 0,
      .findActiveRecoveryCode 1 3 "ABC",
      .presentTotp 0 "000000" .confirm, .tick 90000, .presentTotp 0 "000000" .login]

theorem single_use_redeemed :
    ∃ s, (redeeming plain).run (init 0 [carol]) redeemed = some s ∧ Single s :=
  ⟨_, rfl, single_use plain 0 [carol] redeemed _
    ((redeeming plain).along_of_check (Guarded plain) (by decide +kernel)) rfl⟩

/-- **Each kind is used twice**: a reset token and an invitation by a second call after the first
died before its mark, a recovery code by two logins that overlap, and a time-based code by presenting
it again. -/
theorem used_twice :
    (∃ s, (redeeming plain).run (init 0 [carol]) (issued ++
        [.confirmPasswordReset "t", .applyNewPassword 0 "new", .confirmPasswordReset "t",
          .applyNewPassword 1 "newer"]) = some s ∧ s.changed = [0, 0]) ∧
    (∃ s, (redeeming plain).run (init 0 [carol]) (issued ++
        [.findPendingInvitation "i", .acceptInvitation 0 4 "dave" "h", .findPendingInvitation "i",
          .acceptInvitation 1 5 "erin" "h"]) = some s ∧ s.invited = [0, 0] ∧ s.users.length = 3) ∧
    (∃ s, (redeeming plain).run (init 0 [carol]) (issued ++
        [.findActiveRecoveryCode 1 3 "abc", .findActiveRecoveryCode 1 3 "abc", .burnRecoveryCode 0,
          .burnRecoveryCode 1, .letIn 0, .letIn 1]) = some s ∧ s.recovered = [0, 0]) ∧
    ∃ s, (redeeming plain).run (init 0 [carol]) (issued ++
        [.presentTotp 0 "000000" .confirm, .presentTotp 0 "000000" .login]) = some s ∧
      s.accepted = [(0, "000000"), (0, "000000")] :=
  ⟨⟨_, rfl, by decide +kernel⟩, ⟨_, rfl, by decide +kernel⟩, ⟨_, rfl, by decide +kernel⟩,
    ⟨_, rfl, by decide +kernel⟩⟩

end Jkannel.Security.OneTime
