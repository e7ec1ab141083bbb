import Jkannel.Security.Login
import Mathlib.Algebra.Order.Group.Int

/-!
# Guessing at one account

Logins that all fail, any number of them at a time.  A failure writes the counter and the lock as
absolute values, from the row that its login read before it hashed the password.

* `lockout_bounds_guessing` is the promise: every wrong guess counts, no lock is lifted or shortened
  while it lasts, and the threshold and the locks bound the guesses.  It holds in every run in which
  a login that is about to fail is `Undisturbed`: no other failure is waiting to be recorded, and the
  counter and the lock are still as the login read them.
* `lockout_is_outrun` shows the rest: of two failures that overlap one is lost, a slow one takes a
  fresh lock away, and a burst of logins evaluates as many guesses as it has logins.
-/

namespace Jkannel.Security.Login

open List

/-! ## What is promised -/

/-- The failures that wait to be recorded. -/
def State.unrecorded (s : State) : Nat := s.calls.countP Call.failing

/-- No other failure is under way, and the account counts what this row of it does. -/
def Undisturbed (s : State) (user : Account) : Prop :=
  s.unrecorded = 0 ∧ s.account.failedLoginCount = user.failedLoginCount ∧
    s.account.lockedUntil = user.lockedUntil

/-- The login is not about to fail its password check, or is undisturbed. -/
def Call.verifiesAlone (env : Setting) (s : State) (call : Call) : Prop :=
  match call.phase with
  | .opened user .. =>
    (shut user.status ∨ !env.verify call.password user.passwordHash) → Undisturbed s user
  | _ => True

/-- The same for its second factor. -/
def Call.challengedAlone (s : State) (met : Option Bool) (call : Call) : Prop :=
  match call.phase with
  | .passed user .. => (met = some false ∧ attempted call.mfa) → Undisturbed s user
  | _ => True

/-- A step of guessing, under one policy: no login succeeds, no password is reset, and no
administrator touches the account; and a login that fails is undisturbed. -/
def Guessing (env : Setting) (policy : SecurityPolicy) (s : State) : Action → Prop
  | .lock _ policy' => policy' = policy
  | .verify c => ∀ call ∈ s.calls[c]?, call.verifiesAlone env s
  | .factor c met => ∀ call ∈ s.calls[c]?, call.challengedAlone s met
  | .recordSuccessfulLogin _ => False
  | .applyNewPassword _ _ => False
  | .updateUser _ => False
  | .archiveUser => False
  | _ => True

/-- What a lockout is for. -/
structure Bounded (policy : SecurityPolicy) (start : Account) (s : State) : Prop where
  /-- Each failure raises the counter by one. -/
  counted : s.account.failedLoginCount + s.unrecorded =
    start.failedLoginCount + s.evaluated + s.refused
  /-- A lock is neither cleared nor moved to an earlier time before it is over. -/
  held : ∀ w ∈ s.windows, s.clock < w → ∃ until' ∈ s.account.lockedUntil, w ≤ until'
  /-- The wrong guesses are as many as the threshold, and one for each lock that is over. -/
  bounded : s.evaluated ≤ policy.lockoutThreshold + s.windows.countP (· ≤ s.clock)

instance (s : State) (user : Account) : Decidable (Undisturbed s user) :=
  inferInstanceAs (Decidable (_ ∧ _ ∧ _))

instance (env : Setting) (s : State) (call : Call) : Decidable (call.verifiesAlone env s) :=
  match call with
  | ⟨password, _, .opened user ..⟩ => inferInstanceAs (Decidable
      ((shut user.status ∨ !env.verify password user.passwordHash) → Undisturbed s user))
  | ⟨_, _, .started⟩ | ⟨_, _, .found _⟩ | ⟨_, _, .passed ..⟩ | ⟨_, _, .failing ..⟩
  | ⟨_, _, .succeeding _⟩ | ⟨_, _, .ended _⟩ => inferInstanceAs (Decidable True)

instance (s : State) (met : Option Bool) (call : Call) : Decidable (call.challengedAlone s met) :=
  match call with
  | ⟨_, mfa, .passed user ..⟩ => inferInstanceAs (Decidable
      ((met = some false ∧ attempted mfa) → Undisturbed s user))
  | ⟨_, _, .started⟩ | ⟨_, _, .found _⟩ | ⟨_, _, .opened ..⟩ | ⟨_, _, .failing ..⟩
  | ⟨_, _, .succeeding _⟩ | ⟨_, _, .ended _⟩ => inferInstanceAs (Decidable True)

instance (env : Setting) (policy : SecurityPolicy) (s : State) (a : Action) :
    Decidable (Guessing env policy s a) :=
  match a with
  | .lock _ policy' => inferInstanceAs (Decidable (policy' = policy))
  | .verify c => inferInstanceAs (Decidable (∀ call ∈ s.calls[c]?, call.verifiesAlone env s))
  | .factor c met => inferInstanceAs (Decidable (∀ call ∈ s.calls[c]?, call.challengedAlone s met))
  | .recordSuccessfulLogin _ | .applyNewPassword .. | .updateUser _ | .archiveUser =>
    inferInstanceAs (Decidable False)
  | .tick _ | .login .. | .find _ | .recordFailedLogin _ | .refresh | .resolve _ | .rotate _
  | .requestPasswordReset | .createPasswordResetToken _ | .confirmPasswordReset _
  | .markPasswordResetTokenUsed _ | .changeKey .. | .present _ => inferInstanceAs (Decidable True)

/-! ## Every step -/

/-- What a login has read is not from the future, and no lock was active. -/
def Call.Stamped (policy : SecurityPolicy) (s : State) (call : Call) : Prop :=
  match call.phase with
  | .opened user policy' now => policy' = policy ∧ now ≤ s.clock ∧ ∀ w ∈ user.lockedUntil, w ≤ now
  | .passed user policy' now => policy' = policy ∧ now ≤ s.clock ∧ ∀ w ∈ user.lockedUntil, w ≤ now
  | .failing user policy' _ _ => policy' = policy ∧
    s.account.failedLoginCount = user.failedLoginCount
  | _ => True

/-- The state of guessing: at most one failure waits to be recorded, and while one does every lock
is over; otherwise all of them but the last. -/
structure Inv (policy : SecurityPolicy) (start : Account) (s : State) : Prop where
  counted : s.account.failedLoginCount + s.unrecorded =
    start.failedLoginCount + s.evaluated + s.refused
  calls : ∀ call ∈ s.calls, call.Stamped policy s
  one : s.unrecorded ≤ 1
  held : ∀ w ∈ s.windows, s.clock < w → s.account.lockedUntil = some w
  waiting : s.unrecorded = 1 → ∀ w ∈ s.windows, w ≤ s.clock
  earlier : ∀ w ∈ s.windows.dropLast, w ≤ s.clock
  bound : s.evaluated ≤
    min s.account.failedLoginCount (policy.lockoutThreshold - 1) + s.windows.length + s.unrecorded

section Steps

variable {env : Setting} {policy : SecurityPolicy} {start : Account} {s s' : State}

variable {c : Nat} {call : Call} {user : Account} {now : Int} {password : String}
  {mfa : MfaChallenge} {policy' : SecurityPolicy}

theorem unrecorded_setCall (hc : s.calls[c]? = some call) (phase : Phase) :
    (s.setCall c call phase).unrecorded + (if call.failing then 1 else 0) =
      s.unrecorded + if Call.failing { call with phase } then 1 else 0 := by
  obtain ⟨hlt, hget⟩ := List.getElem?_eq_some_iff.mp hc
  have hpos : call.failing → 0 < s.calls.countP Call.failing := fun hf =>
    countP_pos_iff.mpr ⟨call, mem_of_getElem? hc, hf⟩
  change (s.calls.set c { call with phase }).countP Call.failing + _ = s.calls.countP Call.failing + _
  rw [countP_set hlt, hget]
  split
  · rename_i hf
    have := hpos hf
    omega
  · omega

/-- What was read stays read, as time passes and as long as no failure waits that the account's
counter has moved on from. -/
theorem Call.Stamped.mono (h : call.Stamped policy s) (hclock : s.clock ≤ s'.clock)
    (hcount : call.failing → s'.account.failedLoginCount = s.account.failedLoginCount) :
    call.Stamped policy s' := by
  obtain ⟨password, mfa, phase⟩ := call
  cases phase with
  | opened _ _ _ | passed _ _ _ =>
    obtain ⟨hp, hn, hw⟩ := h
    exact ⟨hp, hn.trans hclock, hw⟩
  | failing user policy' now answer =>
    obtain ⟨hp, hn⟩ := h
    exact ⟨hp, (hcount rfl).trans hn⟩
  | _ => trivial

theorem not_failing_of_unrecorded (h : s.unrecorded = 0) (hcall : call ∈ s.calls) :
    call.failing = false :=
  eq_false_of_ne_true (countP_eq_zero.mp h call hcall)

theorem stamped_setCall {call' : Call} {phase : Phase} (h : ∀ call ∈ s.calls, call.Stamped policy s)
    (hphase : Call.Stamped policy s { call with phase })
    (hcall : call' ∈ (s.setCall c call phase).calls) : call'.Stamped policy s := by
  rcases mem_or_eq_of_mem_set hcall with hcall | rfl
  · exact h call' hcall
  · exact hphase

section

variable (h : Inv policy start s)
include h

/-- A login goes on, to a phase in which it does not fail. -/
theorem Inv.setCall (hc : s.calls[c]? = some call) (phase : Phase)
    (hfailing : call.failing = false) (hphase : Call.failing { call with phase } = false)
    (hstamped : Call.Stamped policy s { call with phase }) :
    Inv policy start (s.setCall c call phase) := by
  have hun := unrecorded_setCall hc phase
  rw [hfailing, hphase] at hun
  have hun : (s.setCall c call phase).unrecorded = s.unrecorded := hun
  refine ⟨?_, fun call' hcall => ?_, ?_, h.held, fun hw => ?_, h.earlier, ?_⟩
  · rw [hun]
    exact h.counted
  · exact (stamped_setCall h.calls hstamped hcall).mono le_rfl fun _ => rfl
  · rw [hun]
    exact h.one
  · rw [hun] at hw
    exact h.waiting hw
  · rw [hun]
    exact h.bound

/-- **A login fails**, undisturbed: its failure waits to be recorded. -/
theorem Inv.fail (hc : s.calls[c]? = some call) (hfailing : call.failing = false)
    (hund : Undisturbed s user) (hnow : now ≤ s.clock) (hlock : ∀ w ∈ user.lockedUntil, w ≤ now)
    (answer : Outcome) {evaluated refused : Nat} (hone : evaluated + refused = 1) :
    Inv policy start { s.setCall c call (.failing user policy now answer) with
      evaluated := s.evaluated + evaluated
      refused := s.refused + refused } := by
  obtain ⟨hnone, hcount, hlocked⟩ := hund
  have hun := unrecorded_setCall hc (.failing user policy now answer)
  rw [hfailing, hnone] at hun
  have hun : (s.setCall c call (.failing user policy now answer)).unrecorded = 1 := hun
  -- a lock that is not over would have turned the login away
  have hover : ∀ w ∈ s.windows, w ≤ s.clock := fun w hw => by
    by_contra hlt
    have hs := h.held w hw (Int.not_le.mp hlt)
    exact hlt ((hlock w (hlocked.symm.trans hs)).trans hnow)
  refine ⟨?_, fun call' hcall => ?_, ?_, h.held, fun _ => hover, h.earlier, ?_⟩
  · have hcounted := h.counted
    change s.account.failedLoginCount + (s.setCall c call _).unrecorded =
      start.failedLoginCount + (s.evaluated + evaluated) + (s.refused + refused)
    rw [hun]
    omega
  · have hstamped : Call.Stamped policy s { call with phase := .failing user policy now answer } :=
      ⟨rfl, hcount⟩
    exact (stamped_setCall h.calls hstamped hcall).mono le_rfl fun _ => rfl
  · exact hun.le
  · have hbound := h.bound
    change s.evaluated + evaluated ≤ min s.account.failedLoginCount (policy.lockoutThreshold - 1) +
      s.windows.length + (s.setCall c call _).unrecorded
    rw [hun]
    omega

/-- **A failure is recorded.** -/
theorem Inv.record {answer : Outcome}
    (hc : s.calls[c]? = some ⟨password, mfa, .failing user policy' now answer⟩) :
    Inv policy start { s.setCall c ⟨password, mfa, .failing user policy' now answer⟩ (.ended answer) with
      account := Security.recordFailedLogin (user.failedLoginCount + 1)
        (lockUntil policy' now (user.failedLoginCount + 1)) s.account
      windows := s.windows ++ (lockUntil policy' now (user.failedLoginCount + 1)).toList } := by
  obtain ⟨rfl, hcount⟩ := h.calls _ (mem_of_getElem? hc)
  have hun := unrecorded_setCall hc (.ended answer)
  have hun : (s.setCall c ⟨password, mfa, .failing user policy' now answer⟩ (.ended answer)).unrecorded +
    1 = s.unrecorded := hun
  have hone := h.one
  have hover := h.waiting (by omega)
  have hzero : (s.setCall c ⟨password, mfa, .failing user policy' now answer⟩
    (.ended answer)).unrecorded = 0 := by omega
  refine ⟨?_, fun call' hcall => ?_, ?_, fun w hw hlt => ?_, fun hw => ?_, fun w hw => ?_, ?_⟩
  · have hcounted := h.counted
    change user.failedLoginCount + 1 + (s.setCall c _ _).unrecorded = _
    rw [hzero]
    change _ = start.failedLoginCount + s.evaluated + s.refused
    omega
  · have hstamped : Call.Stamped policy' s ⟨password, mfa, .ended answer⟩ := trivial
    refine (stamped_setCall h.calls hstamped hcall).mono le_rfl fun hf => ?_
    rw [not_failing_of_unrecorded hzero hcall] at hf
    cases hf
  · exact hzero.le.trans (Nat.zero_le 1)
  · rcases mem_append.mp hw with hw | hw
    · exact absurd (hover w hw) (Int.not_le.mpr hlt)
    · exact Option.mem_toList.mp hw
  · exact absurd (hw.symm.trans hzero) Nat.one_ne_zero
  · -- all that came before are over
    refine hover w ?_
    cases hl : lockUntil policy' now (user.failedLoginCount + 1) with
    | none =>
      simp only [hl, Option.toList_none, append_nil] at hw
      exact dropLast_subset _ hw
    | some w' => simpa [hl] using hw
  · have hbound := h.bound
    change s.evaluated ≤ min (user.failedLoginCount + 1) (policy'.lockoutThreshold - 1) +
      (s.windows ++ _).length + (s.setCall c _ _).unrecorded
    rw [hzero, length_append]
    have hrange := policy'.threshold_range.1
    unfold lockUntil
    split
    · simp only [Option.toList_some, length_singleton]
      omega
    · simp only [Option.toList_none, length_nil]
      omega

/-- What has nothing to do with logins leaves everything as it is. -/
theorem Inv.congr (haccount : s'.account = s.account)
    (hclock : s'.clock = s.clock) (hcalls : s'.calls = s.calls)
    (hevaluated : s'.evaluated = s.evaluated) (hrefused : s'.refused = s.refused)
    (hwindows : s'.windows = s.windows) : Inv policy start s' := by
  have hun : s'.unrecorded = s.unrecorded := congrArg (List.countP Call.failing) hcalls
  refine ⟨?_, fun call hcall => ?_, ?_, ?_, ?_, ?_, ?_⟩
  · rw [haccount, hun, hevaluated, hrefused]
    exact h.counted
  · rw [hcalls] at hcall
    exact (h.calls call hcall).mono hclock.ge fun _ => congrArg Account.failedLoginCount haccount
  · exact hun.trans_le h.one
  · rw [hwindows, hclock, haccount]
    exact h.held
  · rw [hun, hwindows, hclock]
    exact h.waiting
  · rw [hwindows, hclock]
    exact h.earlier
  · rw [hevaluated, haccount, hwindows, hun]
    exact h.bound

theorem Inv.tick (hle : s.clock ≤ now) :
    Inv policy start { s with clock := now } :=
  ⟨h.counted, fun call hcall => (h.calls call hcall).mono hle fun _ => rfl, h.one,
    fun w hw hlt => h.held w hw (hle.trans_lt hlt), fun hu w hw => (h.waiting hu w hw).trans hle,
    fun w hw => (h.earlier w hw).trans hle, h.bound⟩

theorem Inv.login (password : String) (mfa : MfaChallenge) :
    Inv policy start { s with calls := s.calls ++ [⟨password, mfa, .started⟩] } := by
  have hun : State.unrecorded { s with calls := s.calls ++ [⟨password, mfa, .started⟩] } =
      s.unrecorded :=
    countP_append
  refine ⟨?_, fun call hcall => ?_, hun.trans_le h.one, h.held, fun hu => ?_, h.earlier, ?_⟩
  · rw [hun]
    exact h.counted
  · rcases mem_append.mp hcall with hcall | hcall
    · exact (h.calls call hcall).mono le_rfl fun _ => rfl
    · obtain rfl := mem_singleton.mp hcall
      trivial
  · exact h.waiting (hun ▸ hu)
  · rw [hun]
    exact h.bound

theorem Inv.lock (hc : s.calls[c]? = some ⟨password, mfa, .found user⟩) :
    Inv policy start (s.setCall c ⟨password, mfa, .found user⟩
      (if user.lockedUntil.any (s.clock < ·) then .ended invalidCredentials
        else .opened user policy s.clock)) := by
  split
  · exact h.setCall hc _ rfl rfl trivial
  · rename_i hlock
    refine h.setCall hc _ rfl rfl ⟨rfl, le_rfl, fun w hw => ?_⟩
    by_contra hlt
    obtain hw : user.lockedUntil = some w := hw
    exact hlock (by rw [hw]; exact decide_eq_true (Int.not_le.mp hlt))

theorem Inv.verify (hc : s.calls[c]? = some ⟨password, mfa, .opened user policy' now⟩)
    (halone : Call.verifiesAlone env s ⟨password, mfa, .opened user policy' now⟩) :
    Inv policy start { s.setCall c ⟨password, mfa, .opened user policy' now⟩
        (afterVerify env password user policy' now) with
      evaluated := s.evaluated +
        if !shut user.status && !env.verify password user.passwordHash then 1 else 0
      refused := s.refused + if shut user.status then 1 else 0 } := by
  obtain ⟨rfl, hnow, hlock⟩ := h.calls _ (mem_of_getElem? hc)
  by_cases hfails : shut user.status ∨ !env.verify password user.passwordHash
  · have hafter : afterVerify env password user policy' now =
        .failing user policy' now invalidCredentials := if_pos hfails
    rw [hafter]
    refine h.fail hc rfl (halone hfails) hnow hlock _ ?_
    cases hs : shut user.status with
    | true => rfl
    | false =>
      have hwrong : (!env.verify password user.passwordHash) = true :=
        hfails.resolve_left (by rw [hs]; exact Bool.false_ne_true)
      rw [hwrong]
      rfl
  · have hopen : shut user.status = false := eq_false_of_ne_true fun hs => hfails (.inl hs)
    have hright : (!env.verify password user.passwordHash) = false :=
      eq_false_of_ne_true fun hs => hfails (.inr hs)
    have hafter : afterVerify env password user policy' now =
        if usable user.status then .passed user policy' now
        else .ended (.unauthorized "Account is not active") := if_neg hfails
    rw [hafter, hopen, hright]
    split
    · exact h.setCall hc _ rfl rfl ⟨rfl, hnow, hlock⟩
    · exact h.setCall hc _ rfl rfl trivial

theorem Inv.factor {met : Option Bool}
    (hc : s.calls[c]? = some ⟨password, mfa, .passed user policy' now⟩)
    (halone : Call.challengedAlone s met ⟨password, mfa, .passed user policy' now⟩) :
    Inv policy start { s.setCall c ⟨password, mfa, .passed user policy' now⟩
        (afterFactor mfa user policy' now met) with
      evaluated := s.evaluated + if met = some false && attempted mfa then 1 else 0 } := by
  obtain ⟨rfl, hnow, hlock⟩ := h.calls _ (mem_of_getElem? hc)
  unfold afterFactor
  by_cases hmet : met = some false
  · rw [if_pos hmet, hmet]
    cases hatt : attempted mfa with
    | true =>
      have hfail := h.fail hc rfl (halone ⟨hmet, hatt⟩) hnow hlock mfaRequired (Nat.add_zero 1)
      exact hfail
    | false => exact h.setCall hc _ rfl rfl trivial
  · rw [if_neg hmet, decide_eq_false hmet]
    exact h.setCall hc _ rfl rfl trivial

/-- **One step.** -/
theorem inv_step {a : Action} (hguess : Guessing env policy s a)
    (hs : step env s a = some s') : Inv policy start s' := by
  cases a with
  | tick now =>
    rw [step] at hs
    split at hs
    · rename_i hle
      cases hs
      exact h.tick hle
    · cases hs
  | login password mfa =>
    cases hs
    exact h.login password mfa
  | find c =>
    rw [step] at hs
    split at hs
    · rename_i password mfa hc
      cases hs
      exact h.setCall hc _ rfl rfl trivial
    · cases hs
  | lock c policy' =>
    obtain rfl : policy' = policy := hguess
    rw [step] at hs
    split at hs
    · rename_i password mfa user hc
      cases hs
      exact h.lock hc
    · cases hs
  | verify c =>
    rw [step] at hs
    split at hs
    · rename_i password mfa user policy' now hc
      cases hs
      exact h.verify hc (hguess _ hc)
    · cases hs
  | factor c met =>
    rw [step] at hs
    split at hs
    · rename_i password mfa user policy' now hc
      split at hs
      · cases hs
      · cases hs
        exact h.factor hc (hguess _ hc)
    · cases hs
  | recordFailedLogin c =>
    rw [step] at hs
    split at hs
    · rename_i password mfa user policy' now answer hc
      cases hs
      exact h.record hc
    · cases hs
  | recordSuccessfulLogin _ | applyNewPassword _ _ | updateUser _ | archiveUser => exact hguess.elim
  | refresh | changeKey _ _ =>
    cases hs
    exact h.congr rfl rfl rfl rfl rfl rfl
  | resolve _ | rotate _ | createPasswordResetToken _ | markPasswordResetTokenUsed _ =>
    rw [step] at hs
    split at hs
    · cases hs
      exact h.congr rfl rfl rfl rfl rfl rfl
    · cases hs
  | requestPasswordReset =>
    rw [step] at hs
    split at hs
    · cases hs
      exact h
    · cases hs
      exact h.congr rfl rfl rfl rfl rfl rfl
  | confirmPasswordReset token =>
    rw [step] at hs
    split at hs
    · cases hs
      split
      · exact h
      · exact h.congr rfl rfl rfl rfl rfl rfl
    · cases hs
      exact h
  | present rawKey =>
    rw [step] at hs
    split at hs
    · cases hs
      split
      · exact h.congr rfl rfl rfl rfl rfl rfl
      · exact h
    · cases hs
      exact h

end

theorem inv_init (policy : SecurityPolicy) (account : Account) (clock : Int)
    (keys : String → Option ApiKey) : Inv policy account (init account clock keys) := by
  refine ⟨rfl, fun _ h => (by cases h), Nat.zero_le 1, fun w hw _ => Option.mem_toList.mp hw,
    fun hu => absurd hu Nat.zero_ne_one, fun w hw => ?_, Nat.zero_le _⟩
  change w ∈ account.lockedUntil.toList.dropLast at hw
  cases hl : account.lockedUntil with
  | none | some _ =>
    rw [hl] at hw
    cases hw

theorem Inv.bounded (h : Inv policy start s) : Bounded policy start s := by
  refine ⟨h.counted, fun w hw hlt => ⟨w, h.held w hw hlt, le_rfl⟩, ?_⟩
  have hbound := h.bound
  have hrange := policy.threshold_range.1
  rcases Nat.le_one_iff_eq_zero_or_eq_one.mp h.one with hu | hu
  · -- all the locks but the last are over
    have hcount : s.windows.length ≤ s.windows.countP (· ≤ s.clock) + 1 := by
      have hle := s.windows.dropLast_sublist.countP_le (p := (· ≤ s.clock))
      rw [countP_eq_length.mpr fun w hw => decide_eq_true (h.earlier w hw), length_dropLast] at hle
      omega
    omega
  · have hcount : s.windows.countP (· ≤ s.clock) = s.windows.length :=
      countP_eq_length.mpr fun w hw => decide_eq_true (h.waiting hu w hw)
    omega

end Steps

/-- **Lockout bounds guessing**, in every run of guesses, however they overlap, whose failures are
undisturbed. -/
theorem lockout_bounds_guessing (env : Setting) (policy : SecurityPolicy) (account : Account)
    (clock : Int) (keys : String → Option ApiKey) (actions : List Action) (s : State)
    (hguess : (signingIn env).Along (Guessing env policy) (init account clock keys) actions)
    (hrun : (signingIn env).run (init account clock keys) actions = some s) :
    Bounded policy account s := by
  have hinv : Inv policy account s := (signingIn env).invariant_along
    (P := Guessing env policy) (I := Inv policy account) (fun _ _ _ hi ha hs => inv_step hi ha hs)
    (inv_init policy account clock keys) hguess hrun
  exact hinv.bounded

/-! ### A lockout that holds, and three that do not -/

/-- Five wrong passwords, a right one while the lock lasts, and a sixth wrong one after it. -/
def guesses : List Action :=
  fails 0 "a" ++ fails 1 "b" ++ fails 2 "c" ++ fails 3 "d" ++ fails 4 "e" ++
    [.login "pw" noMfa, .find 5, .lock 5 DEFAULT_SECURITY_POLICY, .tick 900000] ++ fails 6 "f"

theorem lockout_bounds_guessing_bob :
    ∃ s, (signingIn plain).run (init bob 0 noKeys) guesses = some s ∧
      Bounded DEFAULT_SECURITY_POLICY bob s :=
  ⟨_, rfl, lockout_bounds_guessing plain DEFAULT_SECURITY_POLICY bob 0 noKeys guesses _
    ((signingIn plain).along_of_check (Guessing plain DEFAULT_SECURITY_POLICY) (by decide +kernel))
    rfl⟩

/-- A login that has looked at the lock. -/
def opens (c : Nat) : List Action :=
  [.login "x" noMfa, .find c, .lock c DEFAULT_SECURITY_POLICY]

/-- **Lockout is outrun.**  Two logins read the counter before either fails, and one failure is
lost.  A login reads the row, five others lock it, and the first one's failure writes the lock away.
And six logins that have all looked at the lock evaluate a password each. -/
theorem lockout_is_outrun :
    (∃ s, (signingIn plain).run (init bob 0 noKeys) (opens 0 ++ opens 1 ++
        [.verify 0, .verify 1, .recordFailedLogin 0, .recordFailedLogin 1]) = some s ∧
      s.evaluated = 2 ∧ s.unrecorded = 0 ∧ s.account.failedLoginCount = 1) ∧
    (∃ s, (signingIn plain).run (init bob 0 noKeys) (opens 0 ++ fails 1 "a" ++ fails 2 "b" ++
        fails 3 "c" ++ fails 4 "d" ++ fails 5 "e" ++ [.verify 0, .recordFailedLogin 0]) = some s ∧
      (∃ w ∈ s.windows, s.clock < w) ∧ s.account.lockedUntil = none) ∧
    ∃ s, (signingIn plain).run (init bob 0 noKeys) (opens 0 ++ opens 1 ++ opens 2 ++ opens 3 ++
        opens 4 ++ opens 5 ++
        [.verify 0, .verify 1, .verify 2, .verify 3, .verify 4, .verify 5]) = some s ∧
      DEFAULT_SECURITY_POLICY.lockoutThreshold + s.windows.countP (· ≤ s.clock) < s.evaluated :=
  ⟨⟨_, rfl, by decide +kernel⟩, ⟨_, rfl, by decide +kernel⟩, ⟨_, rfl, by decide +kernel⟩⟩

end Jkannel.Security.Login
