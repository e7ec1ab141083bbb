import Jkannel.Security.Login

/-!
# A deactivated account

What an administrator's `disabled`, `locked` or `archived` is worth, against everything else that
writes the status or reads it.

* `deactivated_stays_out` is the promise: nobody gets in while the account is barred.  It holds in
  every run that is `Kept`: the status is not `locked`, which logins accept, nothing is under way
  when it is set, nothing washes it off, and no key of the user is presented that is still good.
* `deactivated_gets_in` shows what does wash it off.  Enough wrong passwords turn `disabled` into
  `locked`; a password reset turns it into `active`; and an API key never looks at it.
-/

namespace Jkannel.Security.Login

open Roles (UserStatus UserChange)

/-! ## What is promised -/

/-- A login that will get in, unless its second factor stops it: it has read a status that it
accepts, and its password is right. -/
def Call.live (env : Setting) (call : Call) : Bool :=
  match call.phase with
  | .found user => usable user.status && env.verify call.password user.passwordHash
  | .opened user .. => usable user.status && env.verify call.password user.passwordHash
  | .passed .. => true
  | .succeeding _ => true
  | _ => false

/-- Nobody is on the way in. -/
def Quiet (env : Setting) (s : State) : Prop :=
  (∀ call ∈ s.calls, ¬ call.live env) ∧ ∀ r ∈ s.refreshes, r ≠ .rotating

/-- A key of the account's that opens: it is enabled, it has not expired, and this is its secret. -/
def Opens (env : Setting) (s : State) (row : ApiKey) (secret : String) : Prop :=
  row.userId = s.account.id ∧ row.keyHash = env.sha256Hex secret ∧ row.isEnabled ∧
    ∀ expiresAt ∈ row.expiresAt, s.clock < expiresAt

/-- The failure that this login records does not reach the lockout threshold. -/
def Call.belowThreshold (call : Call) : Prop :=
  match call.phase with
  | .failing user policy .. => user.failedLoginCount + 1 < policy.lockoutThreshold
  | _ => True

/-- A step that leaves a barred account barred.  An administrator does not lock the account, and
nobody is on the way in when it is deactivated; while it is barred no failure that is recorded
reaches the lockout threshold, no password reset goes through, and no key that opens is presented. -/
def Kept (env : Setting) (s : State) : Action → Prop
  | .updateUser value =>
    value.status ≠ some .locked ∧ (value.status.any bars → Quiet env s)
  | .archiveUser => Quiet env s
  | .recordFailedLogin c => s.barred → ∀ call ∈ s.calls[c]?, call.belowThreshold
  | .applyNewPassword _ _ => ¬ s.barred
  | .present rawKey => s.barred →
    ∀ parsed ∈ parseKey rawKey, ∀ row ∈ s.keys parsed.1, ¬ Opens env s row parsed.2
  | _ => True

instance (env : Setting) (s : State) : Decidable (Quiet env s) :=
  inferInstanceAs (Decidable (_ ∧ _))

instance (env : Setting) (s : State) (row : ApiKey) (secret : String) :
    Decidable (Opens env s row secret) :=
  inferInstanceAs (Decidable (_ ∧ _ ∧ _ ∧ _))

instance (call : Call) : Decidable call.belowThreshold := by
  unfold Call.belowThreshold
  split <;> infer_instance

instance (env : Setting) (s : State) (a : Action) : Decidable (Kept env s a) := by
  cases a <;> unfold Kept <;> infer_instance

/-! ## Every step -/

/-- While the account is barred its status keeps logins and refreshes out, and nobody is on the way
in. -/
structure Barred (env : Setting) (s : State) : Prop where
  outside : s.trespassed = false
  status : s.barred → s.account.status = .disabled ∨ s.account.status = .archived
  quiet : s.barred → Quiet env s

section Steps

variable {env : Setting} {s s' : State} {c : Nat} {policy : SecurityPolicy} {status : UserStatus}

theorem usable_of_barred (h : status = .disabled ∨ status = .archived) :
    usable status = false := by
  rcases h with rfl | rfl <;> rfl

theorem updateUser_status (value : UserChange) (row : Account) :
    (Security.updateUser value row).status = value.status.getD row.status := by
  unfold Security.updateUser
  split
  · rfl
  · rename_i h
    cases hs : value.status with
    | none => rfl
    | some status => exact absurd (.inl (by rw [hs]; rfl)) h

/-- A status that bars, other than `locked`. -/
theorem bars_of_ne_locked (h : bars status) (hne : status ≠ .locked) :
    status = .disabled ∨ status = .archived := by
  cases status with
  | disabled => exact .inl rfl
  | archived => exact .inr rfl
  | locked => exact absurd rfl hne
  | pending | active | expired | deleted => cases h

theorem Barred.mono (h : Barred env s) (htrespassed : s'.trespassed = s.trespassed)
    (hbarred : s'.barred = s.barred) (hstatus : s'.account.status = s.account.status)
    (hcalls : ∀ call ∈ s'.calls, call ∈ s.calls ∨ (s.barred → ¬ call.live env))
    (hrefreshes : ∀ r ∈ s'.refreshes, r ∈ s.refreshes ∨ (s.barred → r ≠ .rotating)) :
    Barred env s' := by
  refine ⟨htrespassed.trans h.outside, fun hb => ?_, fun hb => ?_⟩
  · rw [hstatus]
    exact h.status (hbarred ▸ hb)
  · have hb : s.barred := hbarred ▸ hb
    obtain ⟨hq, hq'⟩ := h.quiet hb
    refine ⟨fun call hcall => ?_, fun r hr => ?_⟩
    · rcases hcalls call hcall with hcall | hlive
      · exact hq call hcall
      · exact hlive hb
    · rcases hrefreshes r hr with hr | hne
      · exact hq' r hr
      · exact hne hb

/-- A login that goes on to a phase from which it does not get in while the account is barred. -/
theorem Barred.setCall (h : Barred env s) (c : Nat) (call : Call) (phase : Phase)
    (hphase : s.barred → ¬ Call.live env { call with phase }) :
    Barred env (s.setCall c call phase) :=
  h.mono rfl rfl rfl
    (fun _ hcall => by
      rcases List.mem_or_eq_of_mem_set hcall with hcall | rfl
      · exact .inl hcall
      · exact .inr hphase)
    fun _ hr => .inl hr

/-- The account is barred, and this login is not on its way in. -/
theorem Barred.dead (h : Barred env s) {c : Nat} {call : Call} (hc : s.calls[c]? = some call)
    (hb : s.barred) : ¬ call.live env :=
  (h.quiet hb).1 call (List.mem_of_getElem? hc)

theorem live_afterVerify {password : String} {mfa : MfaChallenge} {user : Account} {now : Int}
    (h : ¬ Call.live env ⟨password, mfa, .opened user policy now⟩) :
    ¬ Call.live env ⟨password, mfa, afterVerify env password user policy now⟩ := by
  unfold afterVerify
  split
  · exact Bool.false_ne_true
  · rename_i hright
    split
    · rename_i husable
      refine absurd ?_ h
      change (usable user.status && env.verify password user.passwordHash) = true
      cases hv : env.verify password user.passwordHash with
      | true => rw [husable]; rfl
      | false => exact absurd (.inr (by rw [hv]; rfl)) hright
    · exact Bool.false_ne_true

/-- Somebody gets in, and the account is not barred. -/
theorem outside_of_enter (h : Barred env s) (hb : ¬ s.barred) :
    (s.trespassed || s.barred) = false := by
  rw [h.outside, eq_false_of_ne_true hb]
  rfl

/-- A key that authenticates opens. -/
theorem opens_of_authenticate {keys : String → Option ApiKey} {now : Int} {rawKey : String}
    {client : GatewayClient} (h : authenticate env keys now rawKey = .ok client) :
    ∃ parsed ∈ parseKey rawKey, ∃ row ∈ keys parsed.1, row.userId = client.userId ∧
      row.keyHash = env.sha256Hex parsed.2 ∧ row.isEnabled ∧
      ∀ expiresAt ∈ row.expiresAt, now < expiresAt := by
  unfold authenticate at h
  cases hp : parseKey rawKey with
  | none => rw [hp] at h; cases h
  | some parsed =>
    obtain ⟨keyPrefix, secret⟩ := parsed
    rw [hp] at h
    simp only at h
    cases hrow : keys keyPrefix with
    | none => rw [hrow] at h; cases h
    | some row =>
      rw [hrow] at h
      simp only at h
      split at h
      · cases h
      · rename_i hhash
        split at h
        · cases h
        · rename_i henabled
          split at h
          · cases h
          · rename_i hexpired
            cases h
            refine ⟨_, rfl, row, hrow, rfl, (not_not.mp hhash).symm, ?_, fun expiresAt he => ?_⟩
            · simpa using henabled
            · have he : row.expiresAt = some expiresAt := he
              rw [he] at hexpired
              exact Int.not_le.mp fun hle => hexpired (decide_eq_true hle)

section

variable (h : Barred env s)
include h

/-- A status that an administrator sets keeps the account barred, or ends it. -/
theorem Barred.updateUser {value : UserChange} (hkept : Kept env s (.updateUser value)) :
    Barred env { s with
      account := Security.updateUser value s.account
      barred := (value.status.map bars).getD s.barred } := by
  have hstatus := updateUser_status value s.account
  refine ⟨h.outside, fun hb => ?_, fun hb => ?_⟩
  · change (Security.updateUser value s.account).status = .disabled ∨
      (Security.updateUser value s.account).status = .archived
    rw [hstatus]
    cases hs : value.status with
    | none =>
      rw [hs] at hb
      exact h.status hb
    | some status =>
      rw [hs] at hb
      exact bars_of_ne_locked hb fun he => hkept.1 (he ▸ hs)
  · cases hs : value.status with
    | none =>
      rw [hs] at hb
      exact h.quiet hb
    | some status =>
      rw [hs] at hb
      exact hkept.2 (by rw [hs]; exact hb)

theorem Barred.find (hs : step env s (.find c) = some s') : Barred env s' := by
  rw [step] at hs
  split at hs
  · cases hs
    refine h.setCall _ _ _ fun hb => ?_
    -- the status it reads is one that keeps it out
    change ¬ (usable s.account.status && _) = true
    rw [usable_of_barred (h.status hb), Bool.false_and]
    exact Bool.false_ne_true
  · cases hs

theorem Barred.lock (hs : step env s (.lock c policy) = some s') : Barred env s' := by
  rw [step] at hs
  split at hs
  · rename_i password mfa user hc
    cases hs
    refine h.setCall _ _ _ fun hb => ?_
    have hdead := h.dead hc hb
    split
    · exact Bool.false_ne_true
    · exact hdead
  · cases hs

theorem Barred.factor {met : Option Bool}
    (hs : step env s (.factor c met) = some s') : Barred env s' := by
  rw [step] at hs
  split at hs
  · rename_i password mfa user policy now hc
    split at hs
    · cases hs
    · cases hs
      have hset := h.setCall c ⟨password, mfa, .passed user policy now⟩
        (afterFactor mfa user policy now met) fun hb => absurd rfl (h.dead hc hb)
      exact ⟨hset.outside, hset.status, hset.quiet⟩
  · cases hs

theorem Barred.recordFailedLogin (hkept : Kept env s (.recordFailedLogin c))
    (hs : step env s (.recordFailedLogin c) = some s') : Barred env s' := by
  rw [step] at hs
  split at hs
  · rename_i password mfa user policy now answer hc
    cases hs
    have hset := h.setCall c ⟨password, mfa, .failing user policy now answer⟩ (.ended answer)
      fun _ => Bool.false_ne_true
    refine ⟨hset.outside, fun hb => ?_, hset.quiet⟩
    have hcount := hkept hb _ hc
    have hnone : lockUntil policy now (user.failedLoginCount + 1) = none :=
      if_neg (Nat.not_le.mpr hcount)
    have hstatus : (Security.recordFailedLogin (user.failedLoginCount + 1)
        (lockUntil policy now (user.failedLoginCount + 1)) s.account).status = s.account.status :=
      if_pos hnone
    rw [hstatus]
    exact h.status hb
  · cases hs

theorem Barred.resolve {r : Nat} (hs : step env s (.resolve r) = some s') :
    Barred env s' := by
  rw [step] at hs
  split at hs
  · cases hs
    refine h.mono rfl rfl rfl (fun _ hcall => .inl hcall) fun r' hr => ?_
    rcases List.mem_or_eq_of_mem_set hr with hr | rfl
    · exact .inl hr
    · refine .inr fun hb => ?_
      rw [usable_of_barred (h.status hb)]
      exact fun he => by cases he
  · cases hs

theorem Barred.present {rawKey : String} (hkept : Kept env s (.present rawKey))
    (hs : step env s (.present rawKey) = some s') : Barred env s' := by
  rw [step] at hs
  split at hs
  · rename_i client hclient
    cases hs
    split
    · rename_i huser
      obtain ⟨parsed, hparsed, row, hrow, huserId, hopens⟩ := opens_of_authenticate hclient
      have hb : ¬ s.barred := fun hb =>
        hkept hb parsed hparsed row hrow ⟨huserId.trans huser, hopens⟩
      exact ⟨outside_of_enter h hb, h.status, h.quiet⟩
    · exact h
  · cases hs
    exact h

/-- **One step.** -/
theorem barred_step {a : Action} (hkept : Kept env s a)
    (hs : step env s a = some s') : Barred env s' := by
  cases a with
  | tick _ | createPasswordResetToken _ | markPasswordResetTokenUsed _ =>
    rw [step] at hs
    split at hs
    · cases hs
      exact ⟨h.outside, h.status, h.quiet⟩
    · cases hs
  | login password mfa =>
    cases hs
    refine h.mono rfl rfl rfl (fun call hcall => ?_) fun _ hr => .inl hr
    rcases List.mem_append.mp hcall with hcall | hcall
    · exact .inl hcall
    · obtain rfl := List.mem_singleton.mp hcall
      exact .inr fun _ => Bool.false_ne_true
  | find _ => exact h.find hs
  | lock _ _ => exact h.lock hs
  | verify c =>
    rw [step] at hs
    split at hs
    · rename_i password mfa user policy now hc
      cases hs
      have hset := h.setCall c ⟨password, mfa, .opened user policy now⟩
        (afterVerify env password user policy now) fun hb => live_afterVerify (h.dead hc hb)
      exact ⟨hset.outside, hset.status, hset.quiet⟩
    · cases hs
  | factor _ _ => exact h.factor hs
  | recordFailedLogin _ => exact h.recordFailedLogin hkept hs
  | recordSuccessfulLogin c =>
    rw [step] at hs
    split at hs
    · rename_i password mfa user hc
      cases hs
      have hb : ¬ s.barred := fun hb => h.dead hc hb rfl
      have houtside := outside_of_enter h hb
      exact ⟨houtside, fun hb' => absurd hb' hb, fun hb' => absurd hb' hb⟩
    · cases hs
  | refresh =>
    cases hs
    refine h.mono rfl rfl rfl (fun _ hcall => .inl hcall) fun r hr => ?_
    rcases List.mem_append.mp hr with hr | hr
    · exact .inl hr
    · obtain rfl := List.mem_singleton.mp hr
      exact .inr fun _ he => by cases he
  | resolve _ => exact h.resolve hs
  | rotate r =>
    rw [step] at hs
    split at hs
    · rename_i hr
      cases hs
      have hb : ¬ s.barred := fun hb => (h.quiet hb).2 _ (List.mem_of_getElem? hr) rfl
      have houtside := outside_of_enter h hb
      exact ⟨houtside, fun hb' => absurd hb' hb, fun hb' => absurd hb' hb⟩
    · cases hs
  | requestPasswordReset =>
    rw [step] at hs
    split at hs
    · cases hs
      exact h
    · cases hs
      exact ⟨h.outside, h.status, h.quiet⟩
  | confirmPasswordReset token =>
    rw [step] at hs
    split at hs
    · cases hs
      split
      · exact h
      · exact ⟨h.outside, h.status, h.quiet⟩
    · cases hs
      exact h
  | applyNewPassword r passwordHash =>
    rw [step] at hs
    split at hs
    · cases hs
      exact ⟨h.outside, fun hb => absurd hb hkept, fun hb => absurd hb hkept⟩
    · cases hs
  | updateUser value =>
    rw [step] at hs
    split at hs
    · cases hs
      exact h.updateUser hkept
    · cases hs
  | archiveUser =>
    cases hs
    exact ⟨h.outside, fun _ => .inr rfl, fun _ => hkept⟩
  | changeKey keyPrefix row =>
    cases hs
    exact ⟨h.outside, h.status, h.quiet⟩
  | present _ => exact h.present hkept hs

end

end Steps

theorem barred_init (env : Setting) (account : Account) (clock : Int)
    (keys : String → Option ApiKey) : Barred env (init account clock keys) :=
  ⟨rfl, fun h => absurd h Bool.false_ne_true, fun h => absurd h Bool.false_ne_true⟩

/-- **A deactivated account stays out**, in every run that is kept: whoever was let in was let in
while the account was not barred. -/
theorem deactivated_stays_out (env : Setting) (account : Account) (clock : Int)
    (keys : String → Option ApiKey) (actions : List Action) (s : State)
    (hkept : (signingIn env).Along (Kept env) (init account clock keys) actions)
    (hrun : (signingIn env).run (init account clock keys) actions = some s) :
    s.trespassed = false := by
  have hbarred : Barred env s := (signingIn env).invariant_along (I := Barred env)
    (fun _ _ _ hi ha hs => barred_step hi ha hs) (barred_init env account clock keys) hkept hrun
  exact hbarred.outside

/-! ### An account that stays out, and the ways in -/

def setStatus (status : UserStatus) : Action := .updateUser ⟨some status, none, none⟩

/-- A password reset. -/
def resets (passwordHash : String) : List Action :=
  [.requestPasswordReset, .createPasswordResetToken 0, .confirmPasswordReset 0,
    .applyNewPassword 1 passwordHash, .markPasswordResetTokenUsed 1]

/-- Bob is deactivated, tries to sign in, asks for a reset, and signs in when he is active again. -/
def deactivation : List Action :=
  setStatus .disabled :: fails 0 "pw" ++ [.requestPasswordReset, .createPasswordResetToken 0] ++
    setStatus .active :: succeeds 1 "pw"

theorem deactivated_stays_out_bob :
    ∃ s, (signingIn plain).run (init bob 0 noKeys) deactivation = some s ∧ s.trespassed = false :=
  ⟨_, rfl, deactivated_stays_out plain bob 0 noKeys deactivation _
    ((signingIn plain).along_of_check (Kept plain) (by decide +kernel)) rfl⟩

/-- A key of Bob's. -/
def bobsKey : ApiKey := ⟨5, 1, 2, "secret", ["send"], [], none, none, true, none⟩

/-- **A deactivated account gets in**: with the right password once enough wrong ones have turned
`disabled` into `locked` and the lock has run out, after a password reset, with the right password
when what the administrator set was `locked`, and with an API key. -/
theorem deactivated_gets_in :
    (∃ s, (signingIn plain).run (init bob 0 noKeys)
      (setStatus .disabled :: fails 0 "x" ++ fails 1 "x" ++ fails 2 "x" ++ fails 3 "x" ++
        fails 4 "x" ++ .tick 900000 :: succeeds 5 "pw") = some s ∧ s.trespassed = true) ∧
    (∃ s, (signingIn plain).run (init bob 0 noKeys)
      (setStatus .disabled :: resets "new" ++ succeeds 0 "new") = some s ∧ s.trespassed = true) ∧
    (∃ s, (signingIn plain).run (init bob 0 noKeys) (setStatus .locked :: succeeds 0 "pw") = some s ∧
      s.trespassed = true) ∧
    ∃ s, (signingIn plain).run (init bob 0 noKeys)
      [.changeKey "p" (some bobsKey), .archiveUser, .present "jk_p.secret"] = some s ∧
      s.trespassed = true :=
  ⟨⟨_, rfl, by decide +kernel⟩, ⟨_, rfl, by decide +kernel⟩, ⟨_, rfl, by decide +kernel⟩,
    ⟨_, rfl, by decide +kernel⟩⟩

end Jkannel.Security.Login
