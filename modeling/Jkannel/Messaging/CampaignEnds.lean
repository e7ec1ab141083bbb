import Jkannel.Messaging.CampaignRuns

/-!
# Which campaigns end

From every state there is the question whether the services' own operations can end the campaign.

* `Live` is a campaign that is somebody's: queued, run by a call that is at work, or waiting for a hold
  that can still be released or cancelled.  `Live.finishes` ends it, step by step.
* `Live.step` keeps it so while steps are steady, and `Lost` is the state nothing leads out of.
* `campaign_dispatch` is the result for whole runs, with `campaign_stranded` for what is not steady.
-/

namespace Jkannel.Messaging.Campaigns

open List Option

/-! ## Ending a campaign -/

section Ending

variable {setting : Setting} {s t : State}

theorem finishes_of_run {actions : List Action}
    (hrun : (dispatching setting).run s actions = some t) (h : Finishes setting t) :
    Finishes setting s := by
  obtain ⟨more, u, hmore, hterminal⟩ := h
  refine ⟨actions ++ more, u, ?_, hterminal⟩
  rw [Transition.System.run_append, hrun]
  exact hmore

variable {a : Action} {p : Nat} {x : Phase} {row : ScheduledMessageRow}

theorem finishes_of_step (hs : step setting s a = some t) (h : Finishes setting t) :
    Finishes setting s := by
  have hrun : (dispatching setting).run s [a] = some t := by
    simp [Transition.System.run, dispatching, hs]
  exact finishes_of_run hrun h

theorem finishes_of_terminal (h : terminal s.job.status = true) : Finishes setting s :=
  ⟨[], s, rfl, h⟩

theorem step_process (ha : a.process = some p) (hp : s.processes[p]? = some x) :
    step setting s a = processStep setting s p x a := by
  cases a with
  | locked | claim | probe | send | finalise | crash =>
    cases ha
    exact congrArg (Option.bind · _) hp
  | _ => cases ha

theorem step_release {r : Nat} {call : Release} (ha : a.release = some r)
    (hr : s.releases[r]? = some call) : step setting s a = releaseStep setting s r call a := by
  cases a with
  | claimHold | expire | releaseBulk | record | crashRelease =>
    cases ha
    exact congrArg (Option.bind · _) hr
  | _ => cases ha

theorem setPhase_self {y : Phase} (hp : s.processes[p]? = some x) :
    (s.setPhase p y).processes[p]? = some y :=
  getElem?_set_self (List.getElem?_eq_some_iff.mp hp).1

/-- A call that is passing the recipients on passes the rest on and finalises. -/
theorem finishes_sending {claim : Claim} {outcomes : List Outcome} {rest : List Recipient}
    (hp : s.processes[p]? = some (.sending claim outcomes rest)) : Finishes setting s := by
  induction rest generalizing s outcomes with
  | nil =>
    refine finishes_of_step (a := .finalise p .ok) (step_process rfl hp) ?_
    exact finishes_of_terminal (finalStatus_terminal ..)
  | cons recipient rest ih =>
    refine finishes_of_step (a := .send p (.error "refused")) (step_process rfl hp) ?_
    exact ih (setPhase_self hp)

/-- A call that has claimed the job goes on. -/
theorem finishes_working (hp : s.processes[p]? = some x) (hx : x.working = true) :
    Finishes setting s := by
  cases x with
  | claimed claim =>
    refine finishes_of_step (a := .probe p false "down") (step_process rfl hp) ?_
    exact finishes_sending (setPhase_self hp)
  | sending claim outcomes rest => exact finishes_sending hp
  | started | ended => cases hx

/-- A job that is queued is found by a tick. -/
theorem finishes_queued (h : s.job.status = .queued) : Finishes setting s := by
  have hlist : step setting s .list = some s.process := if_pos (by rw [h]; exact mem_cons_self)
  refine finishes_of_step hlist ?_
  have hp : s.process.processes[s.processes.length]? = some .started := getElem?_concat_length
  have hclaim : ∃ claim, claimJob setting s.process.job s.process.recipients =
      some ({ s.job with status := .running }, claim) :=
    ⟨_, if_pos (by rw [show s.process.job.status = .queued from h]; exact mem_cons_self)⟩
  obtain ⟨claim, hclaim⟩ := hclaim
  have hs : step setting s.process (.claim s.processes.length .ok) =
      some (State.setPhase { s.process with job := { s.job with status := .running } }
        s.processes.length (.claimed claim)) := by
    rw [step_process rfl hp]
    simp only [processStep, hclaim]
    rfl
  have hclaimed : (State.setPhase { s.process with job := { s.job with status := .running } }
      s.processes.length (.claimed claim)).processes[s.processes.length]? = some (.claimed claim) :=
    getElem?_set_self (List.getElem?_eq_some_iff.mp hp).1
  exact finishes_of_step hs (finishes_working hclaimed rfl)

/-- A campaign whose hold is pending can be cancelled. -/
theorem finishes_pending (hsched : s.job.status = .scheduled)
    (hrow : s.hold = some row) (hpending : row.status = .pending) : Finishes setting s := by
  have hcancel : ∃ row', cancelHold (cancelDetail none) row = some row' := ⟨_, if_pos hpending⟩
  obtain ⟨row', hcancel⟩ := hcancel
  have hs : step setting s (.cancel none) = some
      { s.updateScheduled fun job =>
          { job with
            status := .failed
            detail := some (cancelDetail none)
            completedAt := some s.clock } with
        hold := some row' } := by
    rw [step, cancel, hrow, bind_some, hcancel]
    rfl
  refine finishes_of_step hs (finishes_of_terminal ?_)
  rw [State.updateScheduled, if_pos hsched]
  rfl

/-- A campaign whose hold can be released in time is released. -/
theorem finishes_releasing (hsched : s.job.status = .scheduled)
    (hrow : s.hold = some row) (hkind : row.kind ≠ .message) (hopen : row.status.open_ = true)
    (hintime : tooLate setting s.clock row = false) : Finishes setting s := by
  let context : ReleaseContext := ⟨"worker", 1, 1⟩
  let r := s.releases.length
  let call : Release := ⟨context, s.clock, .started⟩
  have hr : (s.releases ++ [call])[r]? = some call := getElem?_concat_length
  refine finishes_of_step (a := .callRelease context) rfl ?_
  -- the hold is claimed
  have hclaim : ∃ row', claimHold s.clock context.workerId row = some row' ∧
      row'.scheduledAt = row.scheduledAt ∧ row'.kind = row.kind ∧ row'.heldBy row'.releaseAttempts :=
    ⟨_, if_pos hopen, rfl, rfl, rfl, rfl⟩
  obtain ⟨row', hclaim, hat, hkind', hheld⟩ := hclaim
  let claimed : Release := ⟨context, s.clock, .claimed row'⟩
  have hs : step setting { s with releases := s.releases ++ [call] } (.claimHold r .ok) = some
      { s with
        releases := (s.releases ++ [call]).set r claimed
        hold := some row' } := by
    rw [step_release rfl hr]
    simp only [releaseStep, call, State.updateHold, hrow, bind_some, hclaim,
      Transition.Ack.committed, if_true]
    rfl
  refine finishes_of_step hs ?_
  have hr' : ((s.releases ++ [call]).set r claimed)[r]? = some claimed :=
    getElem?_set_self (List.getElem?_eq_some_iff.mp hr).1
  -- the campaign is released
  have hmark : ∃ row'', markBulkReleased s.clock (claimed.verdict setting row').late
      (claimed.verdict setting row').latenessMs row'.releaseAttempts row' = some row'' :=
    ⟨_, dif_pos ⟨hheld, hkind'.symm ▸ hkind⟩⟩
  obtain ⟨row'', hmark⟩ := hmark
  have hexpire : (claimed.verdict setting row').expire = false := by
    rw [Release.verdict, hat]
    exact hintime
  have hs' : ∃ t, step setting { s with
      releases := (s.releases ++ [call]).set r claimed
      hold := some row' } (.releaseBulk r .ok) = some t ∧ t.job.status = .queued := by
    rw [step_release rfl hr']
    simp only [releaseStep, claimed, hexpire, bind_some]
    rw [hmark]
    refine ⟨_, rfl, ?_⟩
    simp only [State.setRelease, State.process, State.updateScheduled, if_pos hsched]
  obtain ⟨t, hs', hqueued⟩ := hs'
  exact finishes_of_step hs' (finishes_queued hqueued)

end Ending

/-! ## Steady runs -/

/-- The hold of a campaign that waits is there, and is not being released too late. -/
def Waits (setting : Setting) (s : State) : Prop :=
  ∃ row ∈ s.hold, row.kind ≠ .message ∧ row.status.open_ = true ∧
    (row.status = .releasing → tooLate setting s.clock row = false)

/-- A campaign is somebody's. -/
structure Live (setting : Setting) (s : State) : Prop where
  waiting : s.job.status = .scheduled → Waits setting s
  running : s.job.status = .running →
    ∃ (p : Nat) (x : Phase), s.processes[p]? = some x ∧ x.working = true

variable {setting : Setting} {s : State} {x : Phase} {p : Nat}

theorem Live.finishes (h : Live setting s) : Finishes setting s := by
  cases hstatus : s.job.status with
  | scheduled =>
    obtain ⟨row, hrow, hkind, hopen, hintime⟩ := h.waiting hstatus
    cases hhold : row.status with
    | pending => exact finishes_pending hstatus hrow hhold
    | releasing => exact finishes_releasing hstatus hrow hkind hopen (hintime hhold)
    | _ =>
      rw [hhold] at hopen
      cases hopen
  | queued => exact finishes_queued hstatus
  | running =>
    obtain ⟨p, x, hp, hx⟩ := h.running hstatus
    exact finishes_working hp hx
  | completed | partial_ | failed => exact finishes_of_terminal (by rw [hstatus]; rfl)

theorem New.live (h : New s) (hheld : s.job.status = .scheduled → s.hold.isSome = true) :
    Live setting s where
  waiting hs := by
    obtain ⟨row, hrow⟩ := isSome_iff_exists.mp (hheld hs)
    obtain ⟨hkind, hpending⟩ := h.hold row hrow
    exact ⟨row, hrow, hkind, by rw [hpending]; rfl, fun hr => (by cases hpending.symm.trans hr)⟩
  running hs := by
    rcases h.status with hstatus | hstatus <;> cases hstatus.symm.trans hs

section Steady

variable {s' : State}

/-- A step that leaves the hold alone. -/
theorem Waits.same (h : Waits setting s) (hhold : s'.hold = s.hold) (hclock : s'.clock = s.clock) :
    Waits setting s' := by
  rw [Waits, hhold, hclock]
  exact h

/-- A statement whose row, if there is one, still waits. -/
theorem Waits.updateHold (h : Waits setting s)
    {f : ScheduledMessageRow → Option ScheduledMessageRow}
    (hf : ∀ row row', s.hold = some row → f row = some row' → row'.kind = row.kind ∧
      row'.status.open_ = true ∧ (row'.status = .releasing → tooLate setting s.clock row' = false)) :
    Waits setting (s.updateHold f) := by
  rw [State.updateHold]
  split
  · next row' hbind =>
    obtain ⟨row, hrow, hstmt⟩ := bind_eq_some_iff.mp hbind
    obtain ⟨hkind, hopen, hintime⟩ := hf row row' hrow hstmt
    obtain ⟨old, hold, hbulk, -⟩ := h
    obtain rfl : row = old := some.inj (hrow.symm.trans hold)
    exact ⟨row', rfl, hkind.symm ▸ hbulk, hopen, hintime⟩
  · exact h

variable {a : Action}

theorem Waits.releaseStep {r : Nat} {call : Release} (ha : a.release = some r)
    (hr : s.releases[r]? = some call) (h : Waits setting s) (hsched : s.job.status = .scheduled)
    (hsteady : Steady setting s a) (hs : Campaigns.releaseStep setting s r call a = some s')
    (hsched' : s'.job.status = .scheduled) : Waits setting s' := by
  cases a with
  | claimHold q ack =>
    simp only [Campaigns.releaseStep] at hs
    split at hs
    · cases hs
      split
      · next hack =>
        refine Waits.same (h.updateHold fun row row' hrow hstmt => ?_) rfl rfl
        obtain ⟨hwrite, hstatus, -, -⟩ := claimHold_spec hstmt
        refine ⟨hwrite.kind, by rw [hstatus]; rfl, fun _ => ?_⟩
        have hintime := hsteady hsched hack row hrow
        rw [claimHold, if_pos hwrite.live] at hstmt
        cases hstmt
        exact hintime
      · exact h.same rfl rfl
    · cases hs
  | expire q reason ack =>
    cases ha
    simp only [Campaigns.releaseStep] at hs
    split at hs
    · next row hphase =>
      split at hs
      · cases hs
        split
        · next hack =>
          refine Waits.same (h.updateHold fun current row' hcurrent hstmt => ?_) rfl rfl
          exact absurd ⟨current, hcurrent, (expireHold_spec hstmt).1.held⟩
            (hsteady hsched hack call hr row hphase)
        · exact h.same rfl rfl
      · cases hs
    · cases hs
  | releaseBulk q ack =>
    simp only [Campaigns.releaseStep] at hs
    split at hs
    · split at hs
      · cases hs
      · split at hs
        · cases hs
          exact h.same rfl rfl
        · cases hs
          exact h.same rfl rfl
        · cases hs
          simp only [State.setRelease, State.updateScheduled, if_pos hsched] at hsched'
          cases hsched'
        · cases hs
          simp only [State.setRelease, State.process, State.updateScheduled, if_pos hsched]
            at hsched'
          cases hsched'
    · cases hs
  | record q ack =>
    cases ha
    simp only [Campaigns.releaseStep] at hs
    split at hs
    · next row error hphase =>
      cases hs
      split
      · next hack =>
        refine Waits.same (h.updateHold fun current row' hcurrent hstmt => ?_) rfl rfl
        obtain ⟨hwrite, hstatus⟩ := recordReleaseFailure_spec hstmt
        cases hterminal : terminalFailure call.context error with
        | true =>
          exact absurd ⟨current, hcurrent, hwrite.held⟩
            (hsteady hsched hack call hr row error hphase hterminal)
        | false =>
          have hpending : row'.status = .pending := by rw [hstatus, hterminal]; rfl
          exact ⟨hwrite.kind, by rw [hpending]; rfl,
            fun hreleasing => (by cases hpending.symm.trans hreleasing)⟩
      · exact h.same rfl rfl
    · cases hs
  | crashRelease q =>
    cases hs
    exact h.same rfl rfl
  | _ => cases ha

/-- Outside `processJob`, a campaign that goes on waiting has its hold. -/
theorem Waits.step (ha : a.process = none) (h : Waits setting s)
    (hsched : s.job.status = .scheduled) (hsteady : Steady setting s a)
    (hs : Campaigns.step setting s a = some s') (hsched' : s'.job.status = .scheduled) :
    Waits setting s' := by
  have hrelease : ∀ r, a.release = some r →
      (s.releases[r]?.bind fun call => Campaigns.releaseStep setting s r call a) = some s' →
      Waits setting s' := by
    intro r hr hbind
    obtain ⟨call, hcall, hstep⟩ := bind_eq_some_iff.mp hbind
    exact h.releaseStep hr hcall hsched hsteady hstep hsched'
  cases a with
  | tick ms =>
    cases hs
    obtain ⟨row, hrow, hkind, hopen, -⟩ := h
    exact ⟨row, hrow, hkind, hopen, hsteady hsched row hrow⟩
  | list | kick =>
    simp only [Campaigns.step] at hs
    split at hs
    · cases hs
      exact h.same rfl rfl
    · cases hs
  | locked | claim | probe | send | finalise | crash => cases ha
  | callRelease context =>
    cases hs
    exact h.same rfl rfl
  | claimHold r _ | expire r _ _ | releaseBulk r _ | record r _ | crashRelease r =>
    exact hrelease r rfl hs
  | sweep =>
    cases hs
    refine h.updateHold fun row row' hrow hstmt => ?_
    cases (hsteady hsched row hrow).symm.trans hstmt
  | cancel reason =>
    obtain ⟨row', -, rfl⟩ := map_eq_some_iff.mp hs
    simp only [State.updateScheduled, if_pos hsched] at hsched'
    cases hsched'
  | reschedule epochSeconds queued =>
    obtain ⟨row, hrow, hs⟩ := bind_eq_some_iff.mp hs
    split at hs
    · cases hs
    · split at hs
      · obtain ⟨when_, -, hs⟩ := bind_eq_some_iff.mp hs
        obtain ⟨row', hstmt, rfl⟩ := map_eq_some_iff.mp hs
        obtain ⟨hwrite, -, hpending, -⟩ := rescheduleHold_spec hstmt
        obtain ⟨old, hold, hkind, -, -⟩ := h
        obtain rfl : row = old := some.inj (hrow.symm.trans hold)
        exact ⟨row', rfl, hwrite.kind.symm ▸ hkind, by rw [hpending]; rfl,
          fun hreleasing => (by cases hpending.symm.trans hreleasing)⟩
      · cases hs

/-- What the steps of `processJob` leave alone. -/
theorem processStep_waits (hs : Campaigns.processStep setting s p x a = some s') :
    s'.hold = s.hold ∧ s'.clock = s.clock ∧
      (s'.job.status = .scheduled → s.job.status = .scheduled) := by
  cases a with
  | claim q ack =>
    simp only [Campaigns.processStep] at hs
    split at hs
    · split at hs
      · cases hs
        exact ⟨rfl, rfl, id⟩
      · next job' claim hclaim =>
        cases hs
        obtain ⟨-, rfl, -⟩ := claimJob_some hclaim
        split
        · exact ⟨rfl, rfl, fun h => (by cases h)⟩
        · exact ⟨rfl, rfl, id⟩
    · cases hs
  | finalise q ack =>
    simp only [Campaigns.processStep] at hs
    split at hs
    · next claim outcomes =>
      cases hs
      split
      · refine ⟨rfl, rfl, fun h => ?_⟩
        have hterminal : terminal (Campaigns.finalise s.clock outcomes s.job).status = true :=
          finalStatus_terminal ..
        have h : (Campaigns.finalise s.clock outcomes s.job).status = .scheduled := h
        rw [h] at hterminal
        cases hterminal
      · exact ⟨rfl, rfl, id⟩
    · cases hs
  | locked _ | probe _ _ _ | send _ _ =>
    simp only [Campaigns.processStep] at hs
    split at hs
    · cases hs
      exact ⟨rfl, rfl, id⟩
    · cases hs
  | crash q =>
    cases hs
    exact ⟨rfl, rfl, id⟩
  | _ => cases hs

/-- Whoever is at work on a running job is so after a step of another call, and after its own. -/
theorem working_step (ha : a.process = some p) (hp : s.processes[p]? = some x)
    (hsteady : Steady setting s a) (hs : Campaigns.processStep setting s p x a = some s')
    (hrunning : s'.job.status = .running)
    (h : s.job.status = .running → ∃ (q : Nat) (y : Phase), s.processes[q]? = some y ∧
      y.working = true) :
    ∃ (q : Nat) (y : Phase), s'.processes[q]? = some y ∧ y.working = true := by
  -- a call that ends, and was not the one at work
  have hend : x.working = false → s.job.status = .running →
      ∃ (q : Nat) (y : Phase), (s.setPhase p .ended).processes[q]? = some y ∧ y.working = true := by
    intro hx hrunning
    obtain ⟨q, y, hq, hy⟩ := h hrunning
    have hne : p ≠ q := by
      rintro rfl
      rw [some.inj (hp.symm.trans hq), hy] at hx
      cases hx
    exact ⟨q, y, (getElem?_set_ne hne).trans hq, hy⟩
  cases a with
  | locked q =>
    simp only [Campaigns.processStep] at hs
    split at hs
    · cases hs
      exact hend rfl hrunning
    · cases hs
  | claim q ack =>
    simp only [Campaigns.processStep] at hs
    split at hs
    · split at hs
      · cases hs
        exact hend rfl hrunning
      · next job' claim hclaim =>
        cases hs
        obtain ⟨hqueued, rfl, -⟩ := claimJob_some hclaim
        cases ack with
        | ok => exact ⟨p, .claimed claim, setPhase_self (s := { s with job := _ }) hp, rfl⟩
        | lost error => exact absurd (hsteady hqueued rfl) (by simp)
        | refused error => cases hqueued.symm.trans hrunning
    · cases hs
  | probe q available evidence =>
    simp only [Campaigns.processStep] at hs
    split at hs
    · cases hs
      refine ⟨p, _, setPhase_self hp, ?_⟩
      split <;> rfl
    · cases hs
  | send q result =>
    simp only [Campaigns.processStep] at hs
    split at hs
    · cases hs
      exact ⟨p, _, setPhase_self (s := { s with sent := _ }) hp, rfl⟩
    · cases hs
  | finalise q ack =>
    simp only [Campaigns.processStep] at hs
    split at hs
    · next claim outcomes =>
      have hack : ack.committed = true := hsteady
      rw [if_pos hack] at hs
      cases hs
      have hterminal : terminal (Campaigns.finalise s.clock outcomes s.job).status = true :=
        finalStatus_terminal ..
      have h : (Campaigns.finalise s.clock outcomes s.job).status = .running := hrunning
      rw [h] at hterminal
      cases hterminal
    · cases hs
  | crash q =>
    cases ha
    cases hs
    exact hend (hsteady x hp) hrunning
  | _ => cases ha

theorem Live.step (h : Live setting s) (hsteady : Steady setting s a)
    (hs : Campaigns.step setting s a = some s') : Live setting s' := by
  cases ha : a.process with
  | some p =>
    obtain ⟨x, hp, hs⟩ := step_process_some ha hs
    obtain ⟨hhold, hclock, hstatus⟩ := processStep_waits hs
    exact ⟨fun hsched => (h.waiting (hstatus hsched)).same hhold hclock,
      fun hrunning => working_step ha hp hsteady hs hrunning h.running⟩
  | none =>
    have ho := outside_step ha hs
    constructor
    · intro hsched'
      have hsched : s.job.status = .scheduled := by
        rcases ho.status with hsame | ⟨hsched, -⟩
        · exact hsame ▸ hsched'
        · exact hsched
      exact (h.waiting hsched).step ha hsched hsteady hs hsched'
    · intro hrunning
      rcases ho.status with hsame | ⟨-, -, hqueued | ⟨hfailed, -⟩⟩
      · obtain ⟨p, x, hp, hx⟩ := h.running (hsame ▸ hrunning)
        refine ⟨p, x, ?_, hx⟩
        rcases ho.processes with he | he <;> rw [he]
        · exact hp
        · rw [getElem?_append_left (List.getElem?_eq_some_iff.mp hp).1]
          exact hp
      · cases hqueued.symm.trans hrunning
      · cases hfailed.symm.trans hrunning

end Steady

/-! ## Lost campaigns -/

/-- A campaign that is nobody's: running while no call is at work on it, or waiting for a hold that
there is not, or that has ended. -/
def Lost (s : State) : Prop :=
  (∀ (p : Nat) (x : Phase), s.processes[p]? = some x → x.working = false) ∧
    (s.job.status = .running ∨
      (s.job.status = .scheduled ∧ ∀ row ∈ s.hold, row.status.open_ = false))

/-- A call that has not claimed a job that is not queued ends. -/
theorem processStep_idle {s' : State} {a : Action} (hx : x.working = false)
    (hqueued : s.job.status ≠ .queued) (hs : processStep setting s p x a = some s') :
    s' = s.setPhase p .ended := by
  cases a with
  | locked q =>
    simp only [processStep] at hs
    split at hs
    · exact (some.inj hs).symm
    · cases hs
  | claim q ack =>
    simp only [processStep] at hs
    split at hs
    · split at hs
      · exact (some.inj hs).symm
      · next job' claim hclaim => exact absurd (claimJob_some hclaim).1 hqueued
    · cases hs
  | probe | send | finalise =>
    simp only [processStep] at hs
    split at hs
    · cases hx
    · cases hs
  | crash q => exact (some.inj hs).symm
  | _ => cases hs

theorem Lost.step {s' : State} {a : Action} (h : Lost s) (hs : step setting s a = some s') :
    Lost s' := by
  obtain ⟨hidle, hstatus⟩ := h
  have hqueued : s.job.status ≠ .queued := by
    rcases hstatus with hstatus | ⟨hstatus, -⟩ <;> rw [hstatus] <;> exact nofun
  cases ha : a.process with
  | some p =>
    obtain ⟨x, hp, hs⟩ := step_process_some ha hs
    obtain rfl := processStep_idle (hidle p x hp) hqueued hs
    refine ⟨fun q y hq => ?_, hstatus⟩
    rcases Updates.set_eq_some hq with ⟨-, rfl⟩ | ⟨-, hq⟩
    · rfl
    · exact hidle q y hq
  | none =>
    have ho := outside_step ha hs
    constructor
    · intro p x hp
      rcases ho.processes with he | he <;> rw [he] at hp
      · exact hidle p x hp
      · rcases Updates.concat_eq_some hp with rfl | hp
        · rfl
        · exact hidle p x hp
    · rcases hstatus with hrunning | ⟨hsched, hended⟩
      · rcases ho.status with hsame | ⟨hsched, -⟩
        · exact .inl (hsame.trans hrunning)
        · cases hsched.symm.trans hrunning
      · rcases ho.status with hsame | ⟨-, ⟨row, hrow, hopen⟩, -⟩
        · refine .inr ⟨hsame.trans hsched, ?_⟩
          rw [ho.hold hended]
          exact hended
        · cases hopen.symm.trans (hended row hrow)

/-- What is lost stays lost. -/
theorem Lost.not_finishes (h : Lost s) : ¬ Finishes setting s := by
  rintro ⟨actions, s', hrun, hterminal⟩
  have hlost : Lost s' :=
    (dispatching setting).invariant_run (fun _ _ _ h hs => Lost.step h hs) h hrun
  rcases hlost.2 with hstatus | ⟨hstatus, -⟩ <;> rw [hstatus] at hterminal <;> cases hterminal

/-- **Campaigns**, in every interleaving of their callers, with refusals and crashes anywhere.  No
recipient is passed to the send path twice; a campaign that has ended is accounted for, or was
cancelled; when it had its hold and every step was steady it can be ended by the services' own
operations; and when it is lost it cannot. -/
theorem campaign_dispatch (setting : Setting) (id holdId : Nat) (userId : String)
    (input : CreateBulkSendInput) (now : Int) (elapsed : Nat) (made : State)
    (hmade : submitBulk setting id holdId userId input now elapsed = .ok made)
    (actions : List Action) (s : State) (hrun : (dispatching setting).run made actions = some s) :
    AtMostOnce s ∧ AccountedFor s ∧
      ((made.job.status = .scheduled → made.hold.isSome = true) →
        (dispatching setting).Along (Steady setting) made actions → Finishes setting s) ∧
      (Lost s → ¬ Finishes setting s) := by
  have hnew := submitBulk_new hmade
  have hinv : Inv s := (dispatching setting).invariant_run
    (fun _ _ _ h (hs : step setting _ _ = some _) => Inv.step h hs) hnew.inv hrun
  refine ⟨hinv.once, hinv.ended, fun hheld hsteady => ?_, Lost.not_finishes⟩
  have hlive : Live setting s := (dispatching setting).invariant_along (P := Steady setting)
    (I := Live setting) (fun _ _ _ h hP hs => h.step hP hs) (hnew.live hheld) hsteady hrun
  exact hlive.finishes

/-! ### Two campaigns -/

def oneTenant : Setting := ⟨[], [], none, 100, ⟨600000, 900000⟩⟩

def promo : CreateBulkSendInput where
  name := "promo"
  smscId := none
  message := "hello"
  recipients := ["256700000001", "256700000002"]
  sender := none
  customerId := none
  priority := none
  schedule := none

/-- The same in two minutes. -/
def later : CreateBulkSendInput := { promo with schedule := some ⟨some 120000, none⟩ }

/-- Two replicas tick, and one recipient is refused. -/
def twoReplicas : List Action :=
  [.list, .list, .kick, .claim 1 .ok, .locked 2, .probe 1 true "", .claim 0 .ok, .send 1 (.ok 7),
    .send 1 (.error "blocked"), .finalise 1 .ok]

theorem campaign_dispatch_twoReplicas : ∃ made s,
    submitBulk oneTenant 1 1 "op" promo 0 0 = .ok made ∧
    (dispatching oneTenant).run made twoReplicas = some s ∧ s.job.status = .partial_ ∧
    AtMostOnce s ∧ AccountedFor s ∧ Finishes oneTenant s := by
  have hsteady : ∀ a ∈ twoReplicas, ∀ s, Steady oneTenant s a := by
    simp [twoReplicas, Steady, Transition.Ack.committed]
  obtain ⟨honce, haccounted, hfinishes, -⟩ :=
    campaign_dispatch oneTenant 1 1 "op" promo 0 0 _ rfl twoReplicas _ rfl
  exact ⟨_, _, rfl, rfl, rfl, honce, haccounted, hfinishes (fun h => by cases h)
    ((dispatching oneTenant).along_of_mem hsteady _)⟩

/-- **Campaigns that are left behind.**  A process dies between its claim and its `finalise`, and the
campaign is running for ever; a release comes too late, and the campaign waits for ever for a hold
that has expired. -/
theorem campaign_stranded :
    (∃ made s, submitBulk oneTenant 1 1 "op" promo 0 0 = .ok made ∧
      (dispatching oneTenant).run made [.list, .claim 0 .ok, .crash 0] = some s ∧
      s.job.status = .running ∧ ¬ Finishes oneTenant s) ∧
    ∃ made s, submitBulk oneTenant 1 1 "op" later 0 0 = .ok made ∧
      (dispatching oneTenant).run made [.tick 2000000, .callRelease ⟨"w", 1, 4⟩, .claimHold 0 .ok,
        .expire 0 "too late" .ok] = some s ∧
      s.job.status = .scheduled ∧ ¬ Finishes oneTenant s := by
  refine ⟨⟨_, _, rfl, rfl, rfl, Lost.not_finishes ⟨fun p x hp => ?_, .inl rfl⟩⟩,
    ⟨_, _, rfl, rfl, rfl, Lost.not_finishes ⟨fun p x hp => ?_, .inr ⟨rfl, fun row hrow => ?_⟩⟩⟩⟩
  · obtain rfl := mem_singleton.mp (mem_of_getElem? hp)
    rfl
  · cases mem_of_getElem? hp
  · obtain rfl := some.inj hrow
    rfl

end Jkannel.Messaging.Campaigns
