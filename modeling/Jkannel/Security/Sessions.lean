import Jkannel.Security.Accounts
import Mathlib.Data.List.Sort

/-!
# Sessions and refresh tokens

A session is a row with the hash of the refresh token that is current.  A refresh reads the row,
checks the token and the user, and writes the row back with the hash of the next token; a token that
is not current any more is a sign of theft, and revokes the session and its family.

* `step` is any number of refreshes, one statement at a time, among the calls that write sessions in
  one statement: logins, logouts, and revocations of all kinds.
* `sessions_final` is the promise: what is revoked stays so, and a token refreshes once.  It holds
  while a refresh that writes its row back finds it `Untouched`.  It writes what it has read, so it
  takes a revocation back, and two refreshes with one token both succeed (`revocation_is_undone`).
-/

namespace Jkannel.Security.Sessions

open Option
open Function (update update_self update_of_ne)
open Roles (UserChange)
open Updates (update_eq_some)

/-! ## Tokens and rows -/

inductive TokenType where
  | access | refresh
  deriving DecidableEq

/-- The claims of a token; who holds the key signs no others. -/
structure Token where
  typ : TokenType
  sub : Nat
  tid : Nat
  sid : Nat
  username : String
  roles : List String
  permissions : List String
  /-- A random UUID. -/
  jti : Nat
  /-- In seconds, as is the next. -/
  iat : Int
  exp : Int
  deriving DecidableEq

/-- What the service relies on. -/
structure Setting where
  /-- The SHA-256 of a token's text, in hexadecimal. -/
  digest : Token → String

/-- A row of `auth_sessions`.  Times are in milliseconds. -/
structure Session where
  id : Nat
  tenantId : Nat
  userId : Nat
  refreshTokenHash : String
  createdAt : Int
  expiresAt : Int
  lastSeenAt : Int
  revokedAt : Option Int
  ipAddress : Option String
  userAgent : Option String
  familyId : Option Nat
  supersededBy : Option Nat
  reusedAt : Option Int

/-- `issue`: the claims of a new token. -/
def issue (typ : TokenType) (user : Account) (sid jti : Nat) (now lifetimeSeconds : Int) : Token where
  typ
  sub := user.id
  tid := user.tenantId
  sid
  username := user.username
  roles := user.roles
  permissions := user.permissions
  jti
  iat := now.fdiv 1000
  exp := now.fdiv 1000 + lifetimeSeconds

/-- `verify`, of a token whose signature is right. -/
def verify (token : Token) (expectedType : TokenType) (now : Int) : Bool :=
  token.typ = expectedType && now.fdiv 1000 < token.exp && token.iat ≤ now.fdiv 1000 + 30

/-- How long a new session may last, in seconds. -/
def refreshTtlSeconds (policy : SecurityPolicy) : Int :=
  if 0 < policy.sessionMaxLifetimeHours then min 604800 (policy.sessionMaxLifetimeHours * 3600)
  else 604800

/-- The session that a login saves. -/
def newSession (env : Setting) (policy : SecurityPolicy) (refreshToken : Token) (familyId : Nat)
    (now : Int) (ipAddress userAgent : Option String) : Session where
  id := refreshToken.sid
  tenantId := refreshToken.tid
  userId := refreshToken.sub
  refreshTokenHash := env.digest refreshToken
  createdAt := now
  expiresAt := now + refreshTtlSeconds policy * 1000
  lastSeenAt := now
  revokedAt := none
  ipAddress
  userAgent
  familyId := some familyId
  supersededBy := none
  reusedAt := none

/-- `INSERT … ON CONFLICT(id) DO UPDATE`: the row that it leaves, of a session that is there
already or is not. -/
def saveOn (session : Session) : Option Session → Session
  | none => session
  | some row => { row with
      refreshTokenHash := session.refreshTokenHash
      lastSeenAt := session.lastSeenAt
      expiresAt := session.expiresAt
      revokedAt := session.revokedAt
      supersededBy := session.supersededBy
      reusedAt := session.reusedAt }

/-- Why the lifetime policy ends a session, if it does. -/
def expiredReason (policy : SecurityPolicy) (session : Session) (now : Int) : Option String :=
  let idleMs : Int := policy.sessionIdleTimeoutMinutes * 60000
  let maxMs : Int := policy.sessionMaxLifetimeHours * 3600000
  if 0 < idleMs ∧ idleMs < now - session.lastSeenAt then some "session_idle_timeout"
  else if 0 < maxMs ∧ maxMs < now - session.createdAt then some "session_max_lifetime"
  else none

/-- The lifetime of the rotated token: it may not outlive its session. -/
def remainingSeconds (session : Session) (now : Int) : Int :=
  max 1 ((session.expiresAt - now).fdiv 1000)

/-! ## The machine -/

/-- What a refresh answers. -/
inductive Outcome where
  | tokens (accessToken refreshToken : Token) (expiresIn : Nat)
  | unauthorized (message : String)

/-- Why a session is being revoked. -/
inductive Cause where
  | reuse | expired (reason : String) | inactive
  deriving DecidableEq

def Cause.message : Cause → String
  | .reuse => "Refresh token reuse detected"
  | .expired _ => "Session expired"
  | .inactive => "Account is no longer active"

/-- How far a refresh has got. -/
inductive Phase where
  | started
  /-- The token is the current one, and the session is live: the user is looked up next. -/
  | checking (session : Session) (policy : SecurityPolicy) (now : Int)
  /-- The session is saved next, as it is here, to rotate its token. -/
  | rotating (session : Session) (accessToken next : Token) (expiresIn : Nat) (lastSeenAt : Int)
  /-- The session is saved next, revoked. -/
  | revoking (session : Session) (cause : Cause) (now : Int)
  /-- Its family is revoked next. -/
  | burning (session : Session) (cause : Cause) (now : Int)
  /-- All sessions of its user are revoked next. -/
  | clearing (session : Session) (now : Int)
  | ended (outcome : Outcome)
  /-- The process died, or a statement failed. -/
  | crashed

/-- A refresh. -/
structure Call where
  token : Token
  phase : Phase
  /-- The session was revoked when the call came in. -/
  late : Bool
  /-- The token had been superseded when the call looked it up. -/
  stale : Bool

/-- Sessions, accounts and calls. -/
structure State where
  session : Nat → Option Session
  /-- The ids of the sessions, in the order they were created. -/
  created : List Nat
  account : Nat → Option Account
  call : Nat → Option Call
  /-- The next token's id. -/
  next : Nat
  /-- The tokens that a refresh has rotated. -/
  superseded : List Token

def init (account : Nat → Option Account) : State where
  session := fun _ => none
  created := []
  account := account
  call := fun _ => none
  next := 0
  superseded := []

/-- One statement of one call. -/
inductive Action where
  /-- A login comes to saving its session. -/
  | login (user : Account) (policy : SecurityPolicy) (sid familyId : Nat) (now : Int)
      (ipAddress userAgent : Option String)
  /-- And to the cap on its user's sessions. -/
  | enforceConcurrentSessionLimit (userId keep : Nat) (now : Int)
  /-- A refresh comes in, with a token that verifies. -/
  | refresh (c : Nat) (token : Token) (now : Int)
  /-- It reads its session, and checks token and policy. -/
  | lookup (c : Nat) (policy : SecurityPolicy) (now : Int)
  /-- It reads its user, and issues the tokens. -/
  | resolve (c : Nat) (lastSeenAt : Int)
  | save (c : Nat)
  | burn (c : Nat)
  | clear (c : Nat)
  | crash (c : Nat)
  | logout (token : Token) (now : Int)
  /-- An administrator revokes a session. -/
  | revoke (sid : Nat) (now : Int)
  | updateUser (userId : Nat) (value : UserChange) (now : Int)
  | archiveUser (userId : Nat) (now : Int)
  /-- A role's permissions are replaced: its holders' sessions end. -/
  | updateRole (holders : List Nat) (now : Int)
  /-- The last statement of a confirmed password reset. -/
  | revokeUserSessions (userId : Nat) (now : Int)

/-- `UPDATE auth_sessions SET revoked_at = … WHERE …`. -/
def State.revokeWhere (s : State) (p : Session → Bool) (now : Int) : State :=
  { s with
    session := fun id => (s.session id).map fun row =>
      if p row then { row with revokedAt := some now } else row }

def live (row : Session) : Bool := row.revokedAt.isNone

/-- `… WHERE user_id=$1 AND revoked_at IS NULL`. -/
def State.revokeUserSessions (s : State) (userId : Nat) (now : Int) : State :=
  s.revokeWhere (fun row => row.userId = userId && live row) now

def State.revokeSessionFamily (s : State) (familyId : Nat) (now : Int) : State :=
  s.revokeWhere (fun row => row.familyId = some familyId && live row) now

/-- `ORDER BY last_seen_at DESC, created_at DESC`. -/
def newestActive (a b : Session) : Bool :=
  b.lastSeenAt < a.lastSeenAt || (a.lastSeenAt = b.lastSeenAt && b.createdAt ≤ a.createdAt)

/-- The user's live sessions beyond the ones the policy allows. -/
def State.overLimit (s : State) (userId keep : Nat) (now : Int) : List Session :=
  (((s.created.filterMap s.session).filter fun row =>
    row.userId = userId && live row && now < row.expiresAt).insertionSort
      (newestActive · ·)).drop keep

def State.setAccount (s : State) (userId : Nat) (f : Account → Account) : State :=
  { s with account := update s.account userId ((s.account userId).map f) }

def State.setCall (s : State) (c : Nat) (call : Call) (phase : Phase) : State :=
  { s with call := update s.call c (some { call with phase := phase }) }

def State.saveSession (s : State) (session : Session) : State :=
  { s with session :=
      update s.session session.id (some (saveOn session (s.session session.id))) }

/-- What a refresh makes of the session it reads. -/
def afterFind (env : Setting) (token : Token) (policy : SecurityPolicy) (now : Int) :
    Option Session → Phase
  | none => .ended (.unauthorized "Invalid refresh token")
  | some session =>
    if session.revokedAt.isSome ∨ session.expiresAt ≤ now then
      .ended (.unauthorized "Invalid refresh token")
    else if session.refreshTokenHash ≠ env.digest token then
      .revoking { session with reusedAt := some now, revokedAt := some now } .reuse now
    else
      match expiredReason policy session now with
      | some reason => .revoking { session with revokedAt := some now } (.expired reason) now
      | none => .checking session policy now

/-- What it makes of the user. -/
def afterResolve (env : Setting) (token : Token) (session : Session) (policy : SecurityPolicy)
    (now lastSeenAt : Int) (next : Nat) (user : Option Account) : Phase :=
  match user.filter fun user => usable user.status && user.tenantId = session.tenantId with
  | none => .revoking { session with revokedAt := some now } .inactive now
  | some user =>
    let accessToken := issue .access user token.sid next lastSeenAt policy.accessTokenTtlSeconds
    let nextRefresh := issue .refresh user token.sid (next + 1) lastSeenAt
      (min 604800 (remainingSeconds session now))
    .rotating { session with refreshTokenHash := env.digest nextRefresh, lastSeenAt }
      accessToken nextRefresh policy.accessTokenTtlSeconds lastSeenAt

/-- Where a refresh goes once it has revoked its session: to its family, to its user's other
sessions, or to its end. -/
def afterRevoke (session : Session) (cause : Cause) (now : Int) : Phase :=
  match cause with
  | .expired _ => .ended (.unauthorized cause.message)
  | .reuse => .burning session .reuse now
  | .inactive => .burning session .inactive now

/-- What one action does. -/
@[grind =] def step (env : Setting) (s : State) : Action → Option State
  | .login user policy sid familyId now ipAddress userAgent =>
    match s.session sid with
    | some _ => none
    | none =>
      -- the access token takes the first of two ids
      let token := issue .refresh user sid (s.next + 1) now (refreshTtlSeconds policy)
      some { s.saveSession (newSession env policy token familyId now ipAddress userAgent) with
        created := s.created ++ [sid]
        next := s.next + 2 }
  | .enforceConcurrentSessionLimit userId keep now =>
    let beyond := (s.overLimit userId keep now).map Session.id
    some (s.revokeWhere (fun row => row.id ∈ beyond) now)
  | .refresh c token now =>
    match s.call c with
    | some _ => none
    | none =>
      if verify token .refresh now then
        let late := (s.session token.sid).any fun row => row.revokedAt.isSome
        some { s with call := update s.call c (some ⟨token, .started, late, false⟩) }
      else none
  | .lookup c policy now =>
    match s.call c with
    | some ⟨token, .started, late, _⟩ =>
      some (s.setCall c ⟨token, .started, late, token ∈ s.superseded⟩
        (afterFind env token policy now (s.session token.sid)))
    | _ => none
  | .resolve c lastSeenAt =>
    match s.call c with
    | some ⟨token, .checking session policy now, late, stale⟩ =>
      some { s.setCall c ⟨token, .checking session policy now, late, stale⟩
          (afterResolve env token session policy now lastSeenAt s.next (s.account session.userId)) with
        next := s.next + 2 }
    | _ => none
  | .save c =>
    match s.call c with
    | some ⟨token, .rotating session accessToken next expiresIn lastSeenAt, late, stale⟩ =>
      some { (s.saveSession session).setCall c
          ⟨token, .rotating session accessToken next expiresIn lastSeenAt, late, stale⟩
          (.ended (.tokens accessToken next expiresIn)) with
        superseded := token :: s.superseded }
    | some ⟨token, .revoking session cause now, late, stale⟩ =>
      some ((s.saveSession session).setCall c ⟨token, .revoking session cause now, late, stale⟩
        (afterRevoke session cause now))
    | _ => none
  | .burn c =>
    match s.call c with
    | some ⟨token, .burning session cause now, late, stale⟩ =>
      let s' := match session.familyId with
        | some family => s.revokeSessionFamily family now
        | none => s
      some (s'.setCall c ⟨token, .burning session cause now, late, stale⟩
        (if cause = .inactive then .clearing session now
          else .ended (.unauthorized cause.message)))
    | _ => none
  | .clear c =>
    match s.call c with
    | some ⟨token, .clearing session now, late, stale⟩ =>
      some ((s.revokeUserSessions session.userId now).setCall c
        ⟨token, .clearing session now, late, stale⟩
        (.ended (.unauthorized Cause.inactive.message)))
    | _ => none
  | .crash c => (s.call c).map fun call => s.setCall c call .crashed
  | .logout token now =>
    if verify token .refresh now then some (s.revokeWhere (fun row => row.id = token.sid) now)
    else none
  | .revoke sid now => some (s.revokeWhere (fun row => row.id = sid && live row) now)
  | .updateUser userId value now =>
    let s' := s.setAccount userId (Security.updateUser value)
    some (if revokesSessions value then s'.revokeUserSessions userId now else s')
  | .archiveUser userId now =>
    some ((s.setAccount userId Security.archiveUser).revokeUserSessions userId now)
  | .updateRole holders now =>
    some (s.revokeWhere (fun row => row.userId ∈ holders && live row) now)
  | .revokeUserSessions userId now => some (s.revokeUserSessions userId now)

/-- Sessions as a transition system. -/
def authenticating (env : Setting) : Transition.System State Action := ⟨step env⟩

/-! ## What is promised -/

/-- A session that has been revoked. -/
def Revoked (s : State) (sid : Nat) : Prop := ∃ row ∈ s.session sid, row.revokedAt ≠ none

/-- The answer of a refresh that has succeeded. -/
def Outcome.success : Outcome → Bool
  | .tokens _ _ _ => true
  | .unauthorized _ => false

/-- **Revocation is final, and a token is good for one refresh.** -/
structure Final (s : State) : Prop where
  /-- No refresh that came in after its session was revoked has succeeded. -/
  late : ∀ c call outcome, s.call c = some call → call.late = true →
    call.phase = .ended outcome → outcome.success = false
  /-- No token has been rotated twice. -/
  once : s.superseded.Nodup
  /-- And every refresh that has succeeded has rotated its token. -/
  rotated : ∀ c call outcome, s.call c = some call → call.phase = .ended outcome →
    outcome.success = true → call.token ∈ s.superseded
  /-- A refresh with a superseded token leaves its session revoked. -/
  stale : ∀ c call outcome, s.call c = some call → call.stale = true →
    call.phase = .ended outcome → Revoked s call.token.sid

/-- The condition of a rotation that is about to be saved: the row has not been revoked since the
refresh read it, nor has another token become current, and the next token's hash is a new one. -/
def Fresh (env : Setting) (s : State) (call : Call) : Prop :=
  match call.phase with
  | .rotating _ _ next _ _ =>
    (∃ row ∈ s.session call.token.sid, row.revokedAt = none ∧
      row.refreshTokenHash = env.digest call.token) ∧
        ∀ token ∈ call.token :: s.superseded, env.digest next ≠ env.digest token
  | _ => True

/-- **The condition.**  A rotation is saved over the row that the refresh read; and a superseded
token is presented while its session has not expired. -/
def Untouched (env : Setting) (s : State) : Action → Prop
  | .save c => ∀ call ∈ s.call c, Fresh env s call
  | .lookup c _ now => ∀ call ∈ s.call c, call.token ∈ s.superseded →
      ∀ row ∈ s.session call.token.sid, row.revokedAt = none → now < row.expiresAt
  | _ => True

instance (env : Setting) (s : State) (call : Call) : Decidable (Fresh env s call) := by
  unfold Fresh
  split <;> infer_instance

instance (env : Setting) (s : State) (a : Action) : Decidable (Untouched env s a) := by
  cases a <;> unfold Untouched <;> infer_instance

/-! ## The invariant -/

/-- What is known of a refresh at each of its steps. -/
def PhaseOk (env : Setting) (s : State) (token : Token) (late stale : Bool) : Phase → Prop
  | .started => stale = false
  | .checking session _ _ =>
    session.id = token.sid ∧ session.revokedAt = none ∧ late = false ∧ stale = false
  | .rotating session _ next _ _ =>
    session.id = token.sid ∧ session.revokedAt = none ∧
      session.refreshTokenHash = env.digest next ∧ late = false ∧ stale = false
  | .revoking session _ _ => session.id = token.sid ∧ session.revokedAt ≠ none
  | .burning _ _ _ => Revoked s token.sid
  | .clearing _ _ => Revoked s token.sid
  | .ended outcome =>
    (outcome.success = true → token ∈ s.superseded ∧ late = false) ∧
      (stale = true → Revoked s token.sid)
  | .crashed => True

/-- What holds of a refresh at work. -/
structure CallOk (env : Setting) (s : State) (call : Call) : Prop where
  late : call.late = true → Revoked s call.token.sid
  phase : PhaseOk env s call.token call.late call.stale call.phase

/-- What a step of the sessions keeps. -/
structure Inv (env : Setting) (s : State) : Prop where
  ids : ∀ sid row, s.session sid = some row → row.id = sid
  once : s.superseded.Nodup
  known : ∀ token ∈ s.superseded, (s.session token.sid).isSome
  /-- The current token of a live session is none that has been superseded. -/
  current : ∀ sid row, s.session sid = some row → row.revokedAt = none →
    ∀ token ∈ s.superseded, token.sid = sid → env.digest token ≠ row.refreshTokenHash
  calls : ∀ c call, s.call c = some call → CallOk env s call

theorem inv_init (env : Setting) (account : Nat → Option Account) : Inv env (init account) where
  ids _ _ h := by cases h
  once := List.nodup_nil
  known _ h := by cases h
  current _ _ h := by cases h
  calls _ _ h := by cases h

/-- The promise, from the invariant. -/
theorem Inv.final {env : Setting} {s : State} (h : Inv env s) : Final s where
  late c call outcome hc hlate hphase := by
    have hok := (h.calls c call hc).phase
    rw [hphase] at hok
    cases hs : outcome.success with
    | false => rfl
    | true =>
      rw [(hok.1 hs).2] at hlate
      cases hlate
  once := h.once
  rotated c call outcome hc hphase hs := by
    have hok := (h.calls c call hc).phase
    rw [hphase] at hok
    exact (hok.1 hs).1
  stale c call outcome hc hstale hphase := by
    have hok := (h.calls c call hc).phase
    rw [hphase] at hok
    exact hok.2 hstale

/-! ## Each step keeps it -/

/-- What a later state has kept: what was revoked, and what was superseded. -/
structure Later (s s' : State) : Prop where
  revoked : ∀ sid, Revoked s sid → Revoked s' sid
  superseded : s.superseded ⊆ s'.superseded

section Steps

variable {env : Setting} {s s' : State}

theorem Later.refl (s : State) : Later s s := ⟨fun _ h => h, List.Subset.refl _⟩

theorem Later.trans {t : State} (h : Later s t) (h' : Later t s') : Later s s' :=
  ⟨fun sid hs => h'.revoked sid (h.revoked sid hs), fun _ hx => h'.superseded (h.superseded hx)⟩

theorem CallOk.mono {call : Call} (h : CallOk env s call) (hl : Later s s') : CallOk env s' call where
  late hlate := hl.revoked _ (h.late hlate)
  phase := by
    have hphase := h.phase
    revert hphase
    cases call.phase with
    | started | checking _ _ _ | rotating _ _ _ _ _ | revoking _ _ _ => exact id
    | burning _ _ _ | clearing _ _ => exact hl.revoked _
    | ended outcome =>
      exact fun ⟨hsuccess, hstale⟩ => ⟨fun hs => ⟨hl.superseded (hsuccess hs).1, (hsuccess hs).2⟩,
        fun hs => hl.revoked _ (hstale hs)⟩
    | crashed => exact id

variable {c : Nat} {now : Int} {session : Session} {token : Token} {late stale : Bool}

/-- The calls after one of them has moved on. -/
theorem Inv.calls_update (h : Inv env s) (hl : Later s s') {call : Call}
    (hcall : s'.call = update s.call c (some call)) (hok : CallOk env s' call) :
    ∀ c call, s'.call c = some call → CallOk env s' call := by
  intro d other hd
  rw [hcall] at hd
  rcases update_eq_some hd with ⟨rfl, rfl⟩ | ⟨-, hd⟩
  · exact hok
  · exact (h.calls d other hd).mono hl

/-- A call moves on, and nothing else does. -/
theorem Inv.setCall (h : Inv env s) (c : Nat) (call : Call) (phase : Phase)
    (hlate : call.late = true → Revoked s call.token.sid)
    (hphase : PhaseOk env s call.token call.late call.stale phase) :
    Inv env (s.setCall c call phase) ∧ Later s (s.setCall c call phase) := by
  have hl : Later s (s.setCall c call phase) := ⟨fun _ h => h, List.Subset.refl _⟩
  exact ⟨⟨h.ids, h.once, h.known, h.current,
    h.calls_update hl rfl (CallOk.mono ⟨hlate, hphase⟩ hl)⟩, hl⟩

theorem revokeWhere_some {p : Session → Bool} {sid : Nat} {row' : Session}
    (h : (s.revokeWhere p now).session sid = some row') :
    ∃ row, s.session sid = some row ∧ row'.id = row.id ∧
      (row'.revokedAt = none → row' = row) := by
  obtain ⟨row, hrow, rfl⟩ := map_eq_some_iff.mp h
  refine ⟨row, hrow, ?_, fun hnone => ?_⟩
  · split <;> rfl
  · split at hnone
    · cases hnone
    · rename_i hp
      rw [if_neg hp]

theorem later_revokeWhere (s : State) (p : Session → Bool) (now : Int) :
    Later s (s.revokeWhere p now) := by
  refine ⟨fun sid hs => ?_, List.Subset.refl _⟩
  obtain ⟨row, hrow, hrevoked⟩ := hs
  refine ⟨if p row then { row with revokedAt := some now } else row,
    map_eq_some_iff.mpr ⟨row, hrow, rfl⟩, ?_⟩
  split
  · exact fun h => by cases h
  · exact hrevoked

/-- **Revoking keeps it**, whatever it is that is revoked. -/
theorem Inv.revokeWhere (h : Inv env s) (p : Session → Bool) (now : Int) :
    Inv env (s.revokeWhere p now) ∧ Later s (s.revokeWhere p now) := by
  have hl := later_revokeWhere s p now
  refine ⟨⟨fun sid row' hrow' => ?_, h.once, fun token htoken => ?_,
    fun sid row' hrow' hnone => ?_, fun c call hc => (h.calls c call hc).mono hl⟩, hl⟩
  · obtain ⟨row, hrow, hid, -⟩ := revokeWhere_some hrow'
    exact hid.trans (h.ids sid row hrow)
  · exact (isSome_map ..).trans (h.known token htoken)
  · obtain ⟨row, hrow, -, hsame⟩ := revokeWhere_some hrow'
    obtain rfl := hsame hnone
    exact h.current sid _ hrow hnone

/-- An account is changed. -/
theorem Inv.setAccount (h : Inv env s) (userId : Nat) (f : Account → Account) :
    Inv env (s.setAccount userId f) ∧ Later s (s.setAccount userId f) := by
  have hl : Later s (s.setAccount userId f) := ⟨fun _ h => h, List.Subset.refl _⟩
  exact ⟨⟨h.ids, h.once, h.known, h.current, fun c call hc => (h.calls c call hc).mono hl⟩, hl⟩

/-- A login saves a session under a new id. -/
theorem Inv.login (h : Inv env s) (hnone : s.session session.id = none) (created : List Nat)
    (next : Nat) :
    Inv env { s.saveSession session with created := created, next := next } ∧
      Later s { s.saveSession session with created := created, next := next } := by
  have hne : ∀ sid row, s.session sid = some row → sid ≠ session.id := by
    rintro sid row hrow rfl
    rw [hnone] at hrow
    cases hrow
  have hl : Later s { s.saveSession session with created := created, next := next } := by
    refine ⟨fun sid hs => ?_, List.Subset.refl _⟩
    obtain ⟨row, hrow, hrevoked⟩ := hs
    exact ⟨row, (update_of_ne (hne sid row hrow) ..).trans hrow, hrevoked⟩
  refine ⟨⟨fun sid row hrow => ?_, h.once, fun token htoken => ?_, fun sid row hrow hlive => ?_,
    fun c call hc => (h.calls c call hc).mono hl⟩, hl⟩
  · rcases update_eq_some hrow with ⟨rfl, rfl⟩ | ⟨-, hrow⟩
    · rw [hnone]
      rfl
    · exact h.ids sid row hrow
  · obtain ⟨row, hrow⟩ := isSome_iff_exists.mp (h.known token htoken)
    change (update s.session session.id _ token.sid).isSome
    rw [update_of_ne (hne _ row hrow), hrow]
    rfl
  · rcases update_eq_some hrow with ⟨rfl, rfl⟩ | ⟨-, hrow⟩
    · -- no token of a session that was not there has been superseded
      intro token htoken hsid
      obtain ⟨row, hrow⟩ := isSome_iff_exists.mp (h.known token htoken)
      exact absurd hsid (hne _ row hrow)
    · exact h.current sid row hrow hlive

theorem saveOn_revokedAt (session : Session) (row : Option Session) :
    (saveOn session row).revokedAt = session.revokedAt := by
  cases row <;> rfl

theorem saveOn_refreshTokenHash (session : Session) (row : Option Session) :
    (saveOn session row).refreshTokenHash = session.refreshTokenHash := by
  cases row <;> rfl

section

variable (h : Inv env s)
include h

theorem Inv.saved_id (session : Session) :
    (saveOn session (s.session session.id)).id = session.id := by
  cases hs : s.session session.id with
  | none => rfl
  | some row => exact h.ids _ row hs

/-- **A rotation is saved** over a row that is as it was read. -/
theorem Inv.rotate {accessToken next : Token} {expiresIn : Nat} {lastSeenAt : Int}
    (hc : s.call c =
      some ⟨token, .rotating session accessToken next expiresIn lastSeenAt, late, stale⟩)
    (hfresh : Fresh env s
      ⟨token, .rotating session accessToken next expiresIn lastSeenAt, late, stale⟩) (phase : Phase)
    (hphase : phase = .ended (.tokens accessToken next expiresIn)) :
    Inv env { (s.saveSession session).setCall c
        ⟨token, .rotating session accessToken next expiresIn lastSeenAt, late, stale⟩ phase with
      superseded := token :: s.superseded } ∧
    Later s { (s.saveSession session).setCall c
        ⟨token, .rotating session accessToken next expiresIn lastSeenAt, late, stale⟩ phase with
      superseded := token :: s.superseded } := by
  obtain ⟨hid, hlive, hhash, rfl, rfl⟩ := (h.calls c _ hc).phase
  obtain ⟨⟨row, hrow, hunrevoked, hcurrent⟩, hnew⟩ := hfresh
  have hrow' : s.session session.id = some row := by rw [hid]; exact hrow
  have hl : Later s { (s.saveSession session).setCall c
      ⟨token, .rotating session accessToken next expiresIn lastSeenAt, false, false⟩ phase with
        superseded := token :: s.superseded } := by
    refine ⟨fun sid hs => ?_, List.subset_cons_self ..⟩
    obtain ⟨row', hrow'', hrevoked⟩ := hs
    refine ⟨row', (update_of_ne ?_ ..).trans hrow'', hrevoked⟩
    rintro rfl
    obtain rfl := some.inj (hrow''.symm.trans hrow')
    exact hrevoked hunrevoked
  refine ⟨⟨fun sid row' hr => ?_, ?_, fun token' htoken' => ?_, fun sid row' hr hnone => ?_, ?_⟩, hl⟩
  · rcases update_eq_some hr with ⟨rfl, rfl⟩ | ⟨-, hr⟩
    · exact h.saved_id session
    · exact h.ids sid row' hr
  · -- the token is current, so it has not been superseded
    exact List.nodup_cons.mpr ⟨fun hmem => h.current _ row hrow hunrevoked token hmem rfl
      hcurrent.symm, h.once⟩
  · change (update s.session session.id _ token'.sid).isSome
    by_cases heq : token'.sid = session.id
    · rw [heq, update_self]
      rfl
    · rw [update_of_ne heq]
      rcases List.mem_cons.mp htoken' with rfl | htoken'
      · exact absurd hid.symm heq
      · exact h.known token' htoken'
  · rcases update_eq_some hr with ⟨rfl, rfl⟩ | ⟨hne, hr⟩
    · intro token' htoken' _
      rw [saveOn_refreshTokenHash, hhash]
      exact (hnew token' htoken').symm
    · intro token' htoken' hsid
      rcases List.mem_cons.mp htoken' with rfl | htoken'
      · exact absurd (hsid.symm.trans hid.symm) hne
      · exact h.current sid row' hr hnone token' htoken' hsid
  · refine h.calls_update hl rfl ⟨fun hlate => (by cases hlate), ?_⟩
    rw [hphase]
    exact ⟨fun _ => ⟨List.mem_cons_self .., rfl⟩, fun hs => by cases hs⟩

/-- **A revocation is saved.** -/
theorem Inv.revoke {cause : Cause}
    (hc : s.call c = some ⟨token, .revoking session cause now, late, stale⟩) :
    Inv env ((s.saveSession session).setCall c ⟨token, .revoking session cause now, late, stale⟩
        (afterRevoke session cause now)) ∧
      Later s ((s.saveSession session).setCall c ⟨token, .revoking session cause now, late, stale⟩
        (afterRevoke session cause now)) := by
  obtain ⟨hid, hrevoked⟩ := (h.calls c _ hc).phase
  have hself : Revoked (s.saveSession session) token.sid := by
    refine ⟨saveOn session (s.session session.id), ?_, ?_⟩
    · change update s.session session.id _ token.sid = _
      rw [hid]
      exact update_self ..
    · rw [saveOn_revokedAt]
      exact hrevoked
  have hl : Later s (s.saveSession session) := by
    refine ⟨fun sid hs => ?_, List.Subset.refl _⟩
    by_cases heq : sid = session.id
    · rw [heq, hid]
      exact hself
    · obtain ⟨row, hrow, hr⟩ := hs
      exact ⟨row, (update_of_ne heq ..).trans hrow, hr⟩
  have hsaved : Inv env (s.saveSession session) := by
    refine ⟨fun sid row' hr => ?_, h.once, fun token' htoken' => ?_, fun sid row' hr hnone => ?_,
      fun d call hd => (h.calls d call hd).mono hl⟩
    · rcases update_eq_some hr with ⟨rfl, rfl⟩ | ⟨-, hr⟩
      · exact h.saved_id session
      · exact h.ids sid row' hr
    · change (update s.session session.id _ token'.sid).isSome
      by_cases heq : token'.sid = session.id
      · rw [heq, update_self]
        rfl
      · rw [update_of_ne heq]
        exact h.known token' htoken'
    · rcases update_eq_some hr with ⟨rfl, rfl⟩ | ⟨-, hr⟩
      · rw [saveOn_revokedAt] at hnone
        exact absurd hnone hrevoked
      · exact h.current sid row' hr hnone
  obtain ⟨hinv, hl'⟩ := hsaved.setCall c ⟨token, .revoking session cause now, late, stale⟩
    (afterRevoke session cause now) (fun _ => hself) (by
      cases cause with
      | reuse | inactive => exact hself
      | expired reason => exact ⟨fun hs => (by cases hs), fun _ => hself⟩)
  exact ⟨hinv, hl.trans hl'⟩

/-- A refresh reads its session. -/
theorem Inv.lookup (hc : s.call c = some ⟨token, .started, late, stale⟩)
    (policy : SecurityPolicy)
    (hlive : token ∈ s.superseded → ∀ row ∈ s.session token.sid, row.revokedAt = none →
      now < row.expiresAt) :
    Inv env (s.setCall c ⟨token, .started, late, token ∈ s.superseded⟩
        (afterFind env token policy now (s.session token.sid))) ∧
      Later s (s.setCall c ⟨token, .started, late, token ∈ s.superseded⟩
        (afterFind env token policy now (s.session token.sid))) := by
  have hlate : late = true → Revoked s token.sid := (h.calls c _ hc).late
  refine h.setCall c _ _ hlate ?_
  cases hs : s.session token.sid with
  | none =>
    refine ⟨fun hs' => (by cases hs'), fun hstale => ?_⟩
    have := h.known token (of_decide_eq_true hstale)
    rw [hs] at this
    cases this
  | some row =>
    have hrow : row.id = token.sid := h.ids _ row hs
    simp only [afterFind]
    split
    · rename_i hdead
      refine ⟨fun hs' => (by cases hs'), fun hstale => ⟨row, hs, fun hnone => ?_⟩⟩
      rcases hdead with hrevoked | hexpired
      · rw [hnone] at hrevoked
        cases hrevoked
      · exact absurd (hlive (of_decide_eq_true hstale) row hs hnone) (not_lt.mpr hexpired)
    · rename_i hdead
      have hnone : row.revokedAt = none := by
        cases hr : row.revokedAt with
        | none => rfl
        | some t => exact absurd (.inl (by rw [hr]; rfl)) hdead
      split
      · exact ⟨hrow, fun hr => by cases hr⟩
      · rename_i hhash
        split
        · exact ⟨hrow, fun hr => by cases hr⟩
        · refine ⟨hrow, hnone, ?_, ?_⟩
          · cases hl : late with
            | false => rfl
            | true =>
              obtain ⟨row', hrow', hrevoked⟩ := hlate hl
              obtain rfl := some.inj (hs.symm.trans hrow')
              exact absurd hnone hrevoked
          · -- a superseded token is not the current one of a live session
            refine decide_eq_false fun hmem => ?_
            exact h.current _ row hs hnone token hmem rfl (not_not.mp hhash).symm

/-- A refresh comes in. -/
theorem Inv.refresh :
    Inv env { s with call := update s.call c (some ⟨token, .started,
        (s.session token.sid).any fun row => row.revokedAt.isSome, false⟩) } ∧
      Later s { s with call := update s.call c (some ⟨token, .started,
        (s.session token.sid).any fun row => row.revokedAt.isSome, false⟩) } := by
  have hl : Later s { s with call := update s.call c (some ⟨token, .started,
      (s.session token.sid).any fun row => row.revokedAt.isSome, false⟩) } :=
    ⟨fun _ h => h, List.Subset.refl _⟩
  refine ⟨⟨h.ids, h.once, h.known, h.current, h.calls_update hl rfl ⟨fun hlate => ?_, rfl⟩⟩, hl⟩
  obtain ⟨row, hrow, hrevoked⟩ := (Option.any_eq_true ..).mp hlate
  exact ⟨row, hrow, isSome_iff_ne_none.mp hrevoked⟩

/-- The account of a session is looked at. -/
theorem Inv.resolve {policy : SecurityPolicy}
    (hc : s.call c = some ⟨token, .checking session policy now, late, stale⟩) (lastSeenAt : Int) :
    let s' := { s.setCall c ⟨token, .checking session policy now, late, stale⟩
        (afterResolve env token session policy now lastSeenAt s.next (s.account session.userId)) with
      next := s.next + 2 }
    Inv env s' ∧ Later s s' := by
  have hok := h.calls c _ hc
  obtain ⟨hid, hlive, rfl, rfl⟩ := hok.phase
  obtain ⟨hinv, hl⟩ := h.setCall c ⟨token, .checking session policy now, false, false⟩
    (afterResolve env token session policy now lastSeenAt s.next (s.account session.userId))
    hok.late (by
      unfold afterResolve
      split
      · exact ⟨hid, fun hr => by cases hr⟩
      · exact ⟨hid, hlive, rfl, rfl, rfl⟩)
  exact ⟨⟨hinv.ids, hinv.once, hinv.known, hinv.current, fun d call hd =>
    (hinv.calls d call hd).mono ⟨fun _ h => h, List.Subset.refl _⟩⟩, hl.revoked, hl.superseded⟩

/-- A refresh moves on once the family of its session is revoked. -/
theorem Inv.burn {cause : Cause}
    (hc : s.call c = some ⟨token, .burning session cause now, late, stale⟩)
    (hs' : Inv env s' ∧ Later s s') :
    let s'' := s'.setCall c ⟨token, .burning session cause now, late, stale⟩
      (if cause = .inactive then .clearing session now
        else .ended (.unauthorized cause.message))
    Inv env s'' ∧ Later s s'' := by
  have hok := h.calls c _ hc
  obtain ⟨hinv, hl⟩ := hs'
  obtain ⟨hinv', hl'⟩ := hinv.setCall c ⟨token, .burning session cause now, late, stale⟩
    (if cause = .inactive then .clearing session now
      else .ended (.unauthorized cause.message))
    (fun hlate => hl.revoked _ (hok.late hlate)) (by
      split
      · exact hl.revoked _ hok.phase
      · exact ⟨fun hs => (by cases hs), fun _ => hl.revoked _ hok.phase⟩)
  exact ⟨hinv', hl.trans hl'⟩

/-- **One step**: the invariant is kept, and what was revoked stays revoked. -/
theorem inv_step {a : Action} (ha : Untouched env s a)
    (hs : step env s a = some s') : Inv env s' ∧ Later s s' := by
  cases a with
  | login user policy sid familyId now ipAddress userAgent =>
    rw [step] at hs
    split at hs
    · cases hs
    · rename_i hnone
      cases hs
      exact h.login hnone _ _
  | enforceConcurrentSessionLimit _ _ now | revoke _ now | updateRole _ now
  | revokeUserSessions _ now =>
    cases hs
    exact h.revokeWhere _ now
  | refresh c token now =>
    rw [step] at hs
    split at hs
    · cases hs
    · split at hs
      · cases hs
        exact h.refresh
      · cases hs
  | lookup c policy now =>
    rw [step] at hs
    split at hs
    · rename_i token late stale hc
      cases hs
      exact h.lookup hc policy (ha _ hc)
    · cases hs
  | resolve c lastSeenAt =>
    rw [step] at hs
    split at hs
    · rename_i token session policy now late stale hc
      cases hs
      exact h.resolve hc lastSeenAt
    · cases hs
  | save c =>
    rw [step] at hs
    split at hs
    · rename_i token session accessToken next expiresIn lastSeenAt late stale hc
      cases hs
      exact h.rotate hc (ha _ hc) _ rfl
    · rename_i token session cause now late stale hc
      cases hs
      exact h.revoke hc
    · cases hs
  | burn c =>
    rw [step] at hs
    split at hs
    · rename_i token session cause now late stale hc
      cases hs
      cases session.familyId with
      | none => exact h.burn hc ⟨h, Later.refl s⟩
      | some family => exact h.burn hc (h.revokeWhere _ now)
    · cases hs
  | clear c =>
    rw [step] at hs
    split at hs
    · rename_i token session now late stale hc
      cases hs
      have hok := h.calls c _ hc
      obtain ⟨hinv, hl⟩ := h.revokeWhere (fun row => row.userId = session.userId && live row) now
      obtain ⟨hinv', hl'⟩ := hinv.setCall c ⟨token, .clearing session now, late, stale⟩
        (.ended (.unauthorized Cause.inactive.message))
        (fun hlate => hl.revoked _ (hok.late hlate))
        ⟨fun hs => (by cases hs), fun _ => hl.revoked _ hok.phase⟩
      exact ⟨hinv', hl.trans hl'⟩
    · cases hs
  | crash c =>
    obtain ⟨call, hc, rfl⟩ := map_eq_some_iff.mp hs
    exact h.setCall c call .crashed (h.calls c call hc).late trivial
  | logout token now =>
    rw [step] at hs
    split at hs
    · cases hs
      exact h.revokeWhere _ now
    · cases hs
  | updateUser userId value now =>
    cases hs
    obtain ⟨hinv, hl⟩ := h.setAccount userId (Security.updateUser value)
    split
    · obtain ⟨hinv', hl'⟩ := hinv.revokeWhere (fun row => row.userId = userId && live row) now
      exact ⟨hinv', hl.trans hl'⟩
    · exact ⟨hinv, hl⟩
  | archiveUser userId now =>
    cases hs
    obtain ⟨hinv, hl⟩ := h.setAccount userId Security.archiveUser
    obtain ⟨hinv', hl'⟩ := hinv.revokeWhere (fun row => row.userId = userId && live row) now
    exact ⟨hinv', hl.trans hl'⟩

end

end Steps

/-- **Revocation is final and refresh tokens are single-use**, in every run in which rotations are
saved over what they read: what is revoked at one point is revoked at every later one, and no
refresh has succeeded that should not have. -/
theorem sessions_final (env : Setting) (account : Nat → Option Account)
    (earlier later : List Action) (s s' : State)
    (huntouched : (authenticating env).Along (Untouched env) (init account) (earlier ++ later))
    (hrun : (authenticating env).run (init account) earlier = some s)
    (hrun' : (authenticating env).run s later = some s') :
    (∀ sid, Revoked s sid → Revoked s' sid) ∧ Final s' := by
  have hinv : Inv env s := (authenticating env).invariant_along
    (fun _ _ _ hi ha hs => (inv_step hi ha hs).1) (inv_init env account)
    ((authenticating env).along_of_append huntouched) hrun
  have hlater := (authenticating env).along_suffix huntouched hrun
  refine ⟨fun sid => ?_, ?_⟩
  · exact ((authenticating env).monotone_along Later.refl (fun _ _ _ => Later.trans)
      (fun _ _ _ hi ha hs => inv_step hi ha hs) hinv hlater hrun').revoked sid
  · exact ((authenticating env).invariant_along (fun _ _ _ hi ha hs => (inv_step hi ha hs).1) hinv
      hlater hrun').final

/-! ### A session that ends, and two that do not -/

def jtiDigest : Setting := ⟨fun token => toString token.jti⟩

/-- A user. -/
def ann : Account := ⟨1, 1, "ann", "h", .active, 0, none, ["Operator"], ["users.view"]⟩

def onlyAnn : Nat → Option Account := fun id => if id = 1 then some ann else none

/-- She signs in; her refresh token is the second that is issued. -/
def signIn : Action := .login ann DEFAULT_SECURITY_POLICY 7 8 1000000 none none

def firstToken : Token := issue .refresh ann 7 1 1000000 604800

/-- A refresh that nothing comes in between of. -/
def refreshed (c : Nat) (now : Int) : List Action :=
  [.refresh c firstToken now, .lookup c DEFAULT_SECURITY_POLICY now, .resolve c now, .save c]

/-- The first token is refreshed, and presented again. -/
def replay : List Action :=
  [.refresh 1 firstToken 1060000, .lookup 1 DEFAULT_SECURITY_POLICY 1060000, .save 1, .burn 1]

theorem sessions_final_replay :
    ∃ s s', (authenticating jtiDigest).run (init onlyAnn) (signIn :: refreshed 0 1030000) = some s ∧
      (authenticating jtiDigest).run s replay = some s' ∧
      (∀ sid, Revoked s sid → Revoked s' sid) ∧ Final s' :=
  ⟨_, _, rfl, rfl, sessions_final jtiDigest onlyAnn (signIn :: refreshed 0 1030000) replay _ _
    ((authenticating jtiDigest).along_of_check (Untouched jtiDigest) (by decide +kernel)) rfl rfl⟩

/-- **A revocation is undone, and a token is used twice.**  An administrator revokes the session
while a refresh is looking up its user, and the refresh writes it back; two refreshes with one token
read the session before either saves. -/
theorem revocation_is_undone :
    (∃ s s', (authenticating jtiDigest).run (init onlyAnn) [signIn, .refresh 0 firstToken 1030000,
        .lookup 0 DEFAULT_SECURITY_POLICY 1030000, .resolve 0 1030000, .revoke 7 1030000] = some s ∧
      (authenticating jtiDigest).run s [.save 0] = some s' ∧
      ¬ ∀ sid, Revoked s sid → Revoked s' sid) ∧
    ∃ s, (authenticating jtiDigest).run (init onlyAnn) [signIn, .refresh 0 firstToken 1030000,
        .refresh 1 firstToken 1030000, .lookup 0 DEFAULT_SECURITY_POLICY 1030000,
        .lookup 1 DEFAULT_SECURITY_POLICY 1030000, .resolve 0 1030000, .resolve 1 1030000, .save 0,
        .save 1] = some s ∧ ¬ Final s := by
  refine ⟨⟨_, _, rfl, rfl, fun h => ?_⟩, _, rfl, fun h => absurd h.once (by decide +kernel)⟩
  obtain ⟨row, hrow, hrevoked⟩ := h 7 ⟨_, rfl, fun h => by cases h⟩
  obtain rfl := some.inj hrow
  exact hrevoked rfl

end Jkannel.Security.Sessions
