import Jkannel.Lib.Updates
import Jkannel.Messaging.HoldQueue

/-!
# No hold or campaign is forgotten

Hold, job and campaign are written by different operations with different guards.  Each write is
taken on its own here: what has to be true of it for the three to stay together.

* `Inv` is the invariant: a pending hold has a live job, a hold mid-release is one a sweep can get
  at, and a waiting campaign has an open hold.
* `Inv.setHold`, `Inv.setJob`, `Inv.setCampaign` and `Inv.enqueueRelease` are the writes.
* `Inv.workerStep` and `Inv.step` put every action together from them, and `kept_along` is the
  result for whole runs.
-/

namespace Jkannel.Messaging.HoldQueue

open Option
open Function (update update_self update_of_ne)
open Platform (JobRow)
open Transition (Ack)
open Transition.System (along_cons)
open Updates (update_eq_some)

/-! ## The invariant -/

/-- What a step of the holds keeps. -/
structure Inv (s : State) : Prop where
  /-- A hold and its release job name each other. -/
  link : ∀ id row, s.hold id = some row → ∃ jobId job, row.jobId = some jobId ∧
    s.job jobId = some job ∧ job.scheduledMessageId = id
  pending : ∀ id row, s.hold id = some row → row.status = .pending → s.HasReleaser row
  releasing : ∀ id row, s.hold id = some row → row.status = .releasing →
    row.claimedAt.isSome = true
  campaigns : ∀ id campaign, s.campaign id = some campaign → campaign.status = .scheduled →
    ∃ holdId row, s.hold holdId = some row ∧ row.kind = .bulk id ∧ row.status.open_ = true
  /-- A worker's copy of a hold is of a hold there is, and of its kind. -/
  snapshot : ∀ w worker row, s.worker w = some worker → worker.phase.row = some row →
    ∃ current, s.hold worker.scheduledMessageId = some current ∧ current.kind = row.kind

theorem inv_init (clock : Int) : Inv (init clock) where
  link _ _ h := by cases h
  pending _ _ h := by cases h
  releasing _ _ h := by cases h
  campaigns _ _ h := by cases h
  snapshot _ _ _ h := by cases h

variable {row : ScheduledMessageRow} {p : Phase} {w : Nat}

/-- A hold mid-release is past any bounds in the end. -/
theorem sweepable {cfg : Config} {s : State}
    (hstatus : row.status = .releasing) (hclaimed : row.claimedAt.isSome = true) :
    s.Sweepable cfg row := by
  obtain ⟨claimedAt, hat⟩ := isSome_iff_exists.mp hclaimed
  let wait := max 60 ((cfg.release.claimTimeoutMs + 500) / 1000) * 1000
  let ceiling := (cfg.release.maxLatenessMs + 500) / 1000 * 1000
  refine ⟨max s.clock (max (claimedAt + wait + 1) (row.scheduledAt + ceiling + 1)),
    le_max_left _ _, ?_⟩
  rw [sweepStalled, if_pos]
  · rfl
  · simp only [stalled, hstatus, hat, decide_true, Bool.true_and, any_some,
      Bool.and_eq_true, decide_eq_true_eq]
    omega

theorem Inv.nothingForgotten {s : State} (h : Inv s) (cfg : Config) : NothingForgotten cfg s where
  holds id row hrow hopen := by
    cases hstatus : row.status with
    | pending => exact .inl (h.pending id row hrow hstatus)
    | releasing => exact .inr (sweepable hstatus (h.releasing id row hrow hstatus))
    | _ => rw [hstatus] at hopen; cases hopen
  campaigns := h.campaigns

/-! ## One write -/

section Writes

variable {s : State}

/-- What a hold may be written over with.  To be pending it needs a live job, and to be at an end
that no campaign waits. -/
structure State.Admits (s : State) (row row' : ScheduledMessageRow) : Prop where
  kind : row'.kind = row.kind
  job : row'.jobId = row.jobId
  pending : row'.status = .pending → s.HasReleaser row
  releasing : row'.status = .releasing → row'.claimedAt.isSome = true
  ended : row'.status.open_ = false → s.NoCampaignWaits row

variable {row' : ScheduledMessageRow} {id : Nat}
  {f : ScheduledMessageRow → Option ScheduledMessageRow} {worker : Worker}

section

variable (h : Inv s)
include h

/-- A hold written over. -/
theorem Inv.setHold (hrow : s.hold id = some row) (hok : s.Admits row row') :
    Inv (s.setHold id row') where
  link i r hr := by
    rcases update_eq_some hr with ⟨rfl, rfl⟩ | ⟨-, hr'⟩
    · rw [hok.job]
      exact h.link i row hrow
    · exact h.link i r hr'
  pending i r hr hstatus := by
    rcases update_eq_some hr with ⟨rfl, rfl⟩ | ⟨-, hr'⟩
    · obtain ⟨jobId, job, hj, hrest⟩ := hok.pending hstatus
      exact ⟨jobId, job, hok.job.trans hj, hrest⟩
    · exact h.pending i r hr' hstatus
  releasing i r hr hstatus := by
    rcases update_eq_some hr with ⟨rfl, rfl⟩ | ⟨-, hr'⟩
    · exact hok.releasing hstatus
    · exact h.releasing i r hr' hstatus
  campaigns c campaign hc hstatus := by
    obtain ⟨i, r, hr, hk, hopen⟩ := h.campaigns c campaign hc hstatus
    by_cases hi : i = id
    · subst hi
      obtain rfl : row = r := some.inj (hrow.symm.trans hr)
      refine ⟨i, row', update_self .., hok.kind.trans hk, ?_⟩
      by_contra hnot
      exact hok.ended (by simpa using hnot) c campaign hk hc hstatus
    · exact ⟨i, r, by show update s.hold id _ i = _; rw [update_of_ne hi]; exact hr,
        hk, hopen⟩
  snapshot w worker r hw hr := by
    obtain ⟨current, hcurrent, hk⟩ := h.snapshot w worker r hw hr
    by_cases hi : worker.scheduledMessageId = id
    · rw [hi] at hcurrent ⊢
      obtain rfl : row = current := some.inj (hrow.symm.trans hcurrent)
      exact ⟨row', update_self .., hok.kind.trans hk⟩
    · refine ⟨current, ?_, hk⟩
      show update s.hold id _ _ = _
      rw [update_of_ne hi]
      exact hcurrent

/-- A release job written over.  It may only end when its hold is not waiting for it. -/
theorem Inv.setJob {job : ReleaseJob} {row' : JobRow}
    (hjob : s.job id = some job)
    (hlive : (ReleaseJob.mk row' job.scheduledMessageId).live ∨
      s.NotWaitedFor job.scheduledMessageId) :
    Inv (s.setJob id { job with row := row' }) where
  link i r hr := by
    obtain ⟨jobId, other, hj, hother, hid⟩ := h.link i r hr
    by_cases hji : jobId = id
    · subst hji
      obtain rfl : job = other := some.inj (hjob.symm.trans hother)
      exact ⟨jobId, _, hj, update_self .., hid⟩
    · refine ⟨jobId, other, hj, ?_, hid⟩
      show update s.job id _ jobId = _
      rw [update_of_ne hji]
      exact hother
  pending i r hr hstatus := by
    obtain ⟨jobId, other, hj, hother, hlive'⟩ := h.pending i r hr hstatus
    by_cases hji : jobId = id
    · subst hji
      refine ⟨jobId, _, hj, update_self .., ?_⟩
      rcases hlive with hlive | hnot
      · exact hlive
      · obtain ⟨jobId', other', hj', hother', hid⟩ := h.link i r hr
        obtain rfl : jobId = jobId' := some.inj (hj.symm.trans hj')
        obtain rfl : job = other' := some.inj (hjob.symm.trans hother')
        rw [hid] at hnot
        exact absurd hstatus (hnot r hr)
    · refine ⟨jobId, other, hj, ?_, hlive'⟩
      show update s.job id _ jobId = _
      rw [update_of_ne hji]
      exact hother
  __ := h

/-- A campaign written, which may only wait when there is an open hold of it. -/
theorem Inv.setCampaign {campaign : Campaign}
    (hwaits : campaign.status = .scheduled →
      ∃ holdId row, s.hold holdId = some row ∧ row.kind = .bulk id ∧ row.status.open_ = true) :
    Inv (s.setCampaign id campaign) where
  __ := h
  campaigns i c hi hsched := by
    rcases update_eq_some hi with ⟨rfl, rfl⟩ | ⟨-, hi'⟩
    · exact hwaits hsched
    · exact h.campaigns i c hi' hsched

/-- A worker that moves on and knows no other hold than it did. -/
theorem Inv.setPhase (hw : s.worker w = some worker)
    (hp : ∀ row, p.row = some row → worker.phase.row = some row ∨
      ∃ current, s.hold worker.scheduledMessageId = some current ∧ current.kind = row.kind) :
    Inv (s.setPhase w worker p) where
  __ := h
  snapshot v other row hv hrow := by
    rcases update_eq_some hv with ⟨rfl, rfl⟩ | ⟨-, hv'⟩
    · rcases hp row hrow with hold | hnew
      · exact h.snapshot v worker row hw hold
      · exact hnew
    · exact h.snapshot v other row hv' hrow

/-- A worker that has forgotten its hold. -/
theorem Inv.setPhase_none (hw : s.worker w = some worker)
    (hp : p.row = none) : Inv (s.setPhase w worker p) :=
  h.setPhase hw fun row hrow => by rw [hp] at hrow; cases hrow

/-- A new hold with its job. -/
theorem Inv.enqueueRelease {holdId jobId : Nat} {s' : State}
    (hstatus : row.status = .pending) (hs : s.enqueueRelease holdId jobId row = some s') :
    Inv s' ∧ s'.campaign = s.campaign ∧ (∀ i r, s.hold i = some r → s'.hold i = some r) ∧
      s'.hold holdId = some { row with jobId := some jobId } := by
  rw [State.enqueueRelease] at hs
  split at hs
  next job hhold hjob hinsert =>
    cases hs
    have hqueued : job.status = .queued := by
      rw [Platform.insert] at hinsert
      split at hinsert
      · cases hinsert
        rfl
      · cases hinsert
    have hnew : update s.job jobId (some ⟨job, holdId⟩) jobId = some ⟨job, holdId⟩ :=
      update_self ..
    -- no hold there is names the new job
    have holdJobs : ∀ i r j other, s.hold i = some r → r.jobId = some j → s.job j = some other →
        update s.job jobId (some ⟨job, holdId⟩) j = some other := by
      intro i r j other hr hj hother
      have hne : j ≠ jobId := fun heq => by rw [heq, hjob] at hother; cases hother
      rw [update_of_ne hne]
      exact hother
    have hkept : ∀ i r, s.hold i = some r →
        update s.hold holdId (some { row with jobId := some jobId }) i = some r := by
      intro i r hr
      have hne : i ≠ holdId := fun heq => by rw [heq, hhold] at hr; cases hr
      rw [update_of_ne hne]
      exact hr
    refine ⟨⟨?_, ?_, ?_, ?_, ?_⟩, rfl, hkept, update_self ..⟩
    · intro i r hr
      rcases update_eq_some hr with ⟨rfl, rfl⟩ | ⟨-, hr'⟩
      · exact ⟨jobId, _, rfl, hnew, rfl⟩
      · obtain ⟨j, other, hj, hother, hid⟩ := h.link i r hr'
        exact ⟨j, other, hj, holdJobs i r j other hr' hj hother, hid⟩
    · intro i r hr hpend
      rcases update_eq_some hr with ⟨rfl, rfl⟩ | ⟨-, hr'⟩
      · exact ⟨jobId, _, rfl, hnew, .inl hqueued⟩
      · obtain ⟨j, other, hj, hother, hlive⟩ := h.pending i r hr' hpend
        exact ⟨j, other, hj, holdJobs i r j other hr' hj hother, hlive⟩
    · intro i r hr hrel
      rcases update_eq_some hr with ⟨rfl, rfl⟩ | ⟨-, hr'⟩
      · exact absurd (hstatus.symm.trans hrel) (by decide)
      · exact h.releasing i r hr' hrel
    · intro c campaign hc hsched
      obtain ⟨i, r, hr, hrest⟩ := h.campaigns c campaign hc hsched
      exact ⟨i, r, hkept i r hr, hrest⟩
    · intro w worker r hw hr
      obtain ⟨current, hcurrent, hk⟩ := h.snapshot w worker r hw hr
      exact ⟨current, hkept _ current hcurrent, hk⟩
  · cases hs

end

/-! ### Statements -/

theorem Inv.updateHold (h : Inv s)
    (hf : ∀ row row', s.hold id = some row → f row = some row' → s.Admits row row') :
    Inv (s.updateHold id f) := by
  rw [State.updateHold]
  split
  next row' hbind =>
    obtain ⟨row, hrow, hstmt⟩ := bind_eq_some_iff.mp hbind
    exact h.setHold hrow (hf row row' hrow hstmt)
  · exact h

theorem updateHold_worker (s : State) (id : Nat)
    (f : ScheduledMessageRow → Option ScheduledMessageRow) :
    (s.updateHold id f).worker = s.worker := by
  rw [State.updateHold]
  split <;> rfl

theorem updateHold_self
    (h : (s.hold id).bind f = some row') : (s.updateHold id f).hold id = some row' := by
  rw [State.updateHold, h]
  exact update_self ..

theorem Inv.updateJob (h : Inv s) {f : JobRow → Option JobRow}
    (hf : ∀ job row', s.job id = some job → f job.row = some row' →
      (ReleaseJob.mk row' job.scheduledMessageId).live ∨
        s.NotWaitedFor job.scheduledMessageId) : Inv (s.updateJob id f) := by
  rw [State.updateJob]
  split
  next job hjob =>
    split
    next row' hstmt => exact h.setJob hjob (hf job row' hjob hstmt)
    · exact h
  · exact h

theorem updateJob_worker (s : State) (id : Nat) (f : JobRow → Option JobRow) :
    (s.updateJob id f).worker = s.worker := by
  rw [State.updateJob]
  split
  · split <;> rfl
  · rfl

theorem Inv.updateScheduled (h : Inv s) {f : Campaign → Campaign} :
    Inv (s.updateScheduled id f) := by
  rw [State.updateScheduled]
  split
  next campaign hc =>
    split
    next hsched => exact h.setCampaign fun _ => h.campaigns id campaign hc hsched
    · exact h
  · exact h

theorem updateScheduled_hold (s : State) (id : Nat) (f : Campaign → Campaign) :
    (s.updateScheduled id f).hold = s.hold := by
  rw [State.updateScheduled]
  split
  · split <;> rfl
  · rfl

theorem updateScheduled_worker (s : State) (id : Nat) (f : Campaign → Campaign) :
    (s.updateScheduled id f).worker = s.worker := by
  rw [State.updateScheduled]
  split
  · split <;> rfl
  · rfl

/-- A campaign taken out of `scheduled` waits no longer. -/
theorem updateScheduled_noWait {f : Campaign → Campaign}
    (hf : ∀ c, (f c).status ≠ .scheduled) (hkind : row.kind = .bulk id) :
    (s.updateScheduled id f).NoCampaignWaits row := by
  intro c campaign hc hcampaign hsched
  obtain rfl : id = c := HoldKind.bulk.inj (hkind.symm.trans hc)
  rw [State.updateScheduled] at hcampaign
  split at hcampaign
  next campaign₀ hc₀ =>
    split at hcampaign
    · rcases update_eq_some hcampaign with ⟨-, rfl⟩ | ⟨hne, -⟩
      · exact hf _ hsched
      · exact hne rfl
    next hnot =>
      obtain rfl : campaign₀ = campaign := some.inj (hc₀.symm.trans hcampaign)
      exact hnot hsched
  next hnone =>
    rw [hnone] at hcampaign
    cases hcampaign

/-- A fenced write that ends the hold. -/
theorem State.Admits.of_fenced {fence : Nat} (hwrite : FencedWrite fence row row')
    (hended : row'.status.open_ = false) (hnone : s.NoCampaignWaits row) : s.Admits row row' where
  kind := hwrite.kind
  job := hwrite.jobId
  pending hp := by rw [hp] at hended; cases hended
  releasing hr := by rw [hr] at hended; cases hended
  ended _ := hnone

end Writes

/-! ## Workers -/

section Workers

variable {cfg : Config} {s s' : State} {worker : Worker}

theorem afterAck_row (hp : p.row = none) (ack : Ack) : (afterAck p ack).row = none := by
  cases ack with
  | ok => exact hp
  | lost _ | refused _ => rfl

variable {ack : Ack} {processed : Except ReleaseError String}

theorem bulkOutcome_row {row r : ScheduledMessageRow}
    (h : (bulkOutcome row ack processed).row = some r) : some r = some row := by
  cases ack with
  | ok =>
    cases processed with
    | error error => exact h.symm
    | ok summary => cases h
  | lost _ | refused _ => exact h.symm

section

variable (h : Inv s) (hw : s.worker w = some worker)
include h hw

theorem Inv.claimHoldStep
    (hs : workerStep cfg s w worker (.claimHold w ack) = some s') : Inv s' := by
  rw [workerStep] at hs
  split at hs
  next now hphase =>
    cases hs
    let statement := claimHold s.clock worker.context.workerId
    have hclaim : Inv (s.updateHold worker.scheduledMessageId statement) := by
      refine h.updateHold fun row row' hrow hstmt => ?_
      obtain ⟨hwrite, hstatus, -, hat⟩ := claimHold_spec hstmt
      exact {
        kind := hwrite.kind
        job := hwrite.jobId
        pending := fun hp => absurd (hstatus.symm.trans hp) nofun
        releasing := fun _ => by rw [hat]; rfl
        ended := fun hended => by rw [hstatus] at hended; cases hended }
    have hworker : (s.updateHold worker.scheduledMessageId statement).worker w = some worker := by
      rw [updateHold_worker]
      exact hw
    cases ack with
    | ok =>
      refine hclaim.setPhase hworker fun row hrow => .inr ⟨row, ?_, rfl⟩
      cases hfound : (s.hold worker.scheduledMessageId).bind statement with
      | some row' =>
        rw [hfound] at hrow
        obtain rfl : row' = row := some.inj hrow
        exact updateHold_self hfound
      | none =>
        rw [hfound] at hrow
        cases hex : s.hold worker.scheduledMessageId <;> rw [hex] at hrow <;> cases hrow
    | lost error => exact hclaim.setPhase_none hworker rfl
    | refused error => exact h.setPhase_none hw rfl
  · cases hs

theorem Inv.expireStep {reason : String} (hkept : Kept cfg s (.expire w reason ack))
    (hs : workerStep cfg s w worker (.expire w reason ack) = some s') : Inv s' := by
  rw [workerStep] at hs
  split at hs
  next now row hphase =>
    simp only at hs
    split at hs
    · cases hs
      refine Inv.setPhase_none ?_ ?_ (afterAck_row rfl ack)
      · split
        next hack =>
          refine h.updateHold fun current row' hcurrent hstmt => ?_
          obtain ⟨hwrite, hstatus⟩ := expireHold_spec hstmt
          exact State.Admits.of_fenced hwrite (by rw [hstatus]; rfl)
            (hkept worker now row current hw hphase hcurrent hack hwrite.held)
        · exact h
      · split
        · rw [updateHold_worker]
          exact hw
        · exact hw
    · cases hs
  · cases hs

theorem Inv.sendStep {result : Except ReleaseError (Nat × Nat)}
    (hs : workerStep cfg s w worker (.send w result) = some s') : Inv s' := by
  rw [workerStep] at hs
  split at hs
  next now row hphase =>
    have hrow : worker.phase.row = some row := by rw [hphase]; rfl
    have hfailing : ∀ error, Inv (s.setPhase w worker (.failing row error)) := fun error =>
      h.setPhase hw fun r hr => .inl (hrow.trans hr)
    simp only at hs
    split at hs
    · cases hs
    next hgo =>
      split at hs
      · cases hs
        exact hfailing _
      · split at hs
        next row' hbind =>
          cases hs
          obtain ⟨current, hcurrent, hstmt⟩ := bind_eq_some_iff.mp hbind
          obtain ⟨hwrite, hstatus⟩ := markReleased_spec hstmt
          obtain ⟨current', hcurrent', hkind⟩ := h.snapshot w worker row hw hrow
          obtain rfl : current = current' := some.inj (hcurrent.symm.trans hcurrent')
          refine Inv.setPhase_none (h.setHold hcurrent
            (State.Admits.of_fenced hwrite (by rw [hstatus]; rfl) ?_)) hw rfl
          -- a held message has no campaign
          intro c campaign hc
          have hmessage : row.kind = .message := by
            by_contra hne
            exact hgo (.inr hne)
          rw [hkind, hmessage] at hc
          cases hc
        · cases hs
          exact hfailing _
  · cases hs

theorem Inv.releaseBulkStep
    (hs : workerStep cfg s w worker (.releaseBulk w ack processed) = some s') : Inv s' := by
  rw [workerStep] at hs
  split at hs
  next now row hphase =>
    have hrow : worker.phase.row = some row := by rw [hphase]; rfl
    have hfailing : ∀ error, Inv (s.setPhase w worker (.failing row error)) := fun error =>
      h.setPhase hw fun r hr => .inl (hrow.trans hr)
    simp only at hs
    split at hs
    next campaignId hexpire hbulk =>
      split at hs
      · cases hs
        exact hfailing _
      · cases hs
        exact hfailing _
      next ack' row' hack hbind =>
        cases hs
        obtain ⟨current, hcurrent, hstmt⟩ := bind_eq_some_iff.mp hbind
        obtain ⟨hwrite, hstatus⟩ := markBulkReleased_spec hstmt
        obtain ⟨current', hcurrent', hkind⟩ := h.snapshot w worker row hw hrow
        obtain rfl : current = current' := some.inj (hcurrent.symm.trans hcurrent')
        have hreleased : Inv ((s.updateScheduled campaignId fun c =>
            { c with status := .queued }).setHold worker.scheduledMessageId row') := by
          refine h.updateScheduled.setHold (by rw [updateScheduled_hold]; exact hcurrent)
            (State.Admits.of_fenced hwrite (by rw [hstatus]; rfl) ?_)
          exact updateScheduled_noWait (fun _ h => by cases h) (hkind.trans hbulk)
        refine hreleased.setPhase (by
          show (s.updateScheduled campaignId _).worker w = some worker
          rw [updateScheduled_worker]
          exact hw) fun r hr => .inl ?_
        rw [hrow]
        exact (bulkOutcome_row hr).symm
    · cases hs
  · cases hs

theorem Inv.recordStep (hkept : Kept cfg s (.record w ack))
    (hs : workerStep cfg s w worker (.record w ack) = some s') : Inv s' := by
  rw [workerStep] at hs
  split at hs
  next row error hphase =>
    cases hs
    refine Inv.setPhase_none ?_ ?_ rfl
    · split
      next hack =>
        refine h.updateHold fun current row' hcurrent hstmt => ?_
        obtain ⟨hwrite, hstatus⟩ := recordReleaseFailure_spec hstmt
        have hcond := hkept worker row error current hw hphase hcurrent hack hwrite.held
        by_cases hterminal : terminalFailure worker.context error = true
        · rw [if_pos hterminal] at hcond hstatus
          exact State.Admits.of_fenced hwrite (by rw [hstatus]; rfl) hcond
        · rw [if_neg hterminal] at hcond hstatus
          exact {
            kind := hwrite.kind
            job := hwrite.jobId
            pending := fun _ => hcond
            releasing := fun hr => absurd (hstatus.symm.trans hr) nofun
            ended := fun hended => by rw [hstatus] at hended; cases hended }
      · exact h
    · split
      · rw [updateHold_worker]
        exact hw
      · exact hw
  · cases hs

theorem Inv.completeStep (hkept : Kept cfg s (.complete w ack))
    (hs : workerStep cfg s w worker (.complete w ack) = some s') : Inv s' := by
  rw [workerStep] at hs
  split at hs
  next result hphase =>
    cases hs
    refine Inv.setPhase_none ?_ ?_ (afterAck_row rfl ack)
    · split
      next hack =>
        refine h.updateJob fun job row' hjob hstmt => .inr ?_
        obtain ⟨-, -, hrunning, -⟩ := Platform.completeJob_spec hstmt
        exact hkept worker job hw hjob hack hrunning
      · exact h
    · split
      · rw [updateJob_worker]
        exact hw
      · exact hw
  · cases hs

theorem Inv.failStep (hkept : Kept cfg s (.fail w ack))
    (hs : workerStep cfg s w worker (.fail w ack) = some s') : Inv s' := by
  rw [workerStep] at hs
  split at hs
  next message permanent hphase =>
    cases hs
    refine Inv.setPhase_none ?_ ?_ rfl
    · split
      next hack =>
        refine h.updateJob fun job row' hjob hstmt => ?_
        obtain ⟨-, -, hrunning, -⟩ := Platform.failAttempt_spec hstmt
        by_cases hlast : Platform.exhausted worker.job permanent = true
        · exact .inr (hkept worker job message permanent hw hphase hjob hack hrunning hlast)
        · rw [Platform.failAttempt, if_pos hrunning, if_neg hlast] at hstmt
          cases hstmt
          exact .inl (.inl rfl)
      · exact h
    · split
      · rw [updateJob_worker]
        exact hw
      · exact hw
  · cases hs

theorem Inv.workerStep {a : Action} (ha : a.worker = some w) (hkept : Kept cfg s a)
    (hs : HoldQueue.workerStep cfg s w worker a = some s') : Inv s' := by
  cases a with
  | tick | submitMessage | submitBulk | cancel | reschedule | cancelJob | claimJob | sweep | reap =>
    cases ha
  | progress v percent =>
    cases hs
    refine h.updateJob fun job row' hjob hstmt => .inl (.inr ?_)
    exact (Platform.reportProgress_spec hstmt).2.2.2
  | call v =>
    rw [HoldQueue.workerStep] at hs
    split at hs
    · cases hs
      exact h.setPhase_none hw rfl
    · cases hs
  | throwEarly v message =>
    rw [HoldQueue.workerStep] at hs
    split at hs
    · cases hs
      exact h.setPhase_none hw rfl
    · cases hs
      exact h.setPhase_none hw rfl
    · cases hs
  | claimHold v ack =>
    obtain rfl : v = w := some.inj ha
    exact h.claimHoldStep hw hs
  | expire v reason ack =>
    obtain rfl : v = w := some.inj ha
    exact h.expireStep hw hkept hs
  | send v result =>
    obtain rfl : v = w := some.inj ha
    exact h.sendStep hw hs
  | releaseBulk v ack processed =>
    obtain rfl : v = w := some.inj ha
    exact h.releaseBulkStep hw hs
  | record v ack =>
    obtain rfl : v = w := some.inj ha
    exact h.recordStep hw hkept hs
  | complete v ack =>
    obtain rfl : v = w := some.inj ha
    exact h.completeStep hw hkept hs
  | fail v ack =>
    obtain rfl : v = w := some.inj ha
    exact h.failStep hw hkept hs
  | crash v =>
    cases hs
    exact h.setPhase_none hw rfl

end

end Workers

/-! ## Submissions and operators -/

section Services

variable {cfg : Config} {s s' : State}

variable {holdId jobId : Nat} {schedule : MessageSchedule}

theorem Inv.submitMessage (h : Inv s)
    (hs : HoldQueue.submitMessage s holdId jobId schedule = some s') : Inv s' := by
  rw [HoldQueue.submitMessage] at hs
  split at hs
  · exact (h.enqueueRelease rfl hs).1
  · cases hs
    exact h

theorem parse_scheduledAt {epochSeconds validity : Option Int} {now : Int}
    (h : parseMessageSchedule epochSeconds validity now = .ok schedule) :
    schedule.scheduledAtMs = epochSeconds.map (· * 1000) := by
  simp only [parseMessageSchedule, bind, Except.bind, pure, Except.pure, throw, throwThe,
    MonadExceptOf.throw] at h
  repeat' split at h
  all_goals first
    | contradiction
    | (obtain rfl := Except.ok.inj h; rfl)

theorem setCampaign_enqueueRelease (s : State) (campaignId : Nat) (campaign : Campaign)
    (holdId jobId : Nat) (row : ScheduledMessageRow) :
    (s.setCampaign campaignId campaign).enqueueRelease holdId jobId row =
      (s.enqueueRelease holdId jobId row).map fun t => t.setCampaign campaignId campaign := by
  simp only [State.enqueueRelease, State.setCampaign]
  split <;> rfl

/-- A new campaign.  It waits only when it has a hold. -/
theorem Inv.submitBulk (h : Inv s) {campaignId : Nat} {elapsed : Nat}
    (hkept : ∀ when_, schedule.scheduledAtMs = some when_ → s.clock + elapsed < when_ →
      s.clock + SCHEDULE_PAST_GRACE_MS < when_)
    (hs : HoldQueue.submitBulk s campaignId holdId jobId schedule elapsed = some s') : Inv s' := by
  rw [HoldQueue.submitBulk] at hs
  split at hs
  · cases hs
  split at hs
  next when_ hwhen hhold =>
    rw [setCampaign_enqueueRelease] at hs
    obtain ⟨t, ht, rfl⟩ := map_eq_some_iff.mp hs
    obtain ⟨hinv, -, -, hnew⟩ := h.enqueueRelease rfl ht
    exact hinv.setCampaign fun _ => ⟨holdId, _, hnew, rfl, rfl⟩
  next hnot =>
    cases hs
    refine h.setCampaign fun hsched => ?_
    -- an instant past `createJob`'s clock is past the minute of grace, and needs a hold
    exfalso
    rw [createJob] at hsched
    split at hsched
    next hlater =>
      simp only [Option.any_eq_true, decide_eq_true_eq] at hlater
      obtain ⟨when_, hwhen, hlt⟩ := hlater
      have hpast := hkept when_ hwhen hlt
      exact hnot when_ hwhen (requiresHold_iff.mpr ⟨when_, hwhen, hpast⟩)
    · cases hsched

theorem updateScheduled_setHold (s : State) (campaignId holdId : Nat) (f : Campaign → Campaign)
    (row : ScheduledMessageRow) :
    (s.setHold holdId row).updateScheduled campaignId f =
      (s.updateScheduled campaignId f).setHold holdId row := by
  simp only [State.updateScheduled, State.setHold]
  split
  · split <;> rfl
  · rfl

theorem updateScheduled_updateJob (s : State) (campaignId jobId : Nat) (f : Campaign → Campaign)
    (g : JobRow → Option JobRow) :
    (s.updateJob jobId g).updateScheduled campaignId f =
      (s.updateScheduled campaignId f).updateJob jobId g := by
  have hjob : (s.updateScheduled campaignId f).job = s.job := by
    rw [State.updateScheduled]
    split
    · split <;> rfl
    · rfl
  simp only [State.updateJob, hjob]
  split
  · split
    · simp only [State.updateScheduled, State.setJob]
      split
      · split <;> rfl
      · rfl
    · rfl
  · rfl

/-- Once a hold is cancelled its job may be. -/
theorem Inv.cancelJobOf (h : Inv s) (hrow : s.hold holdId = some row)
    (hstatus : row.status = .cancelled) (hjobId : row.jobId = some jobId)
    {f : JobRow → Option JobRow} : Inv (s.updateJob jobId f) := by
  refine h.updateJob fun job row' hjob _ => .inr ?_
  obtain ⟨jobId', job', hj', hjob', hid⟩ := h.link holdId row hrow
  obtain rfl : jobId = jobId' := some.inj (hjobId.symm.trans hj')
  obtain rfl : job = job' := some.inj (hjob.symm.trans hjob')
  intro r hr hpending
  rw [hid] at hr
  obtain rfl : row = r := some.inj (hrow.symm.trans hr)
  rw [hstatus] at hpending
  cases hpending

theorem Inv.cancel (h : Inv s) {reason : Option String}
    (hs : HoldQueue.cancel s holdId reason = some s') : Inv s' := by
  rw [HoldQueue.cancel] at hs
  split at hs
  · cases hs
  next row hrow =>
  split at hs
  · cases hs
  next row' hcancel =>
    obtain ⟨hwrite, -, hstatus, -⟩ := cancelHold_spec hcancel
    obtain ⟨jobId, -, hjobId, -⟩ := h.link holdId row hrow
    have hended : row'.status.open_ = false := by rw [hstatus]; rfl
    -- with nothing waiting for it the hold may end, and then its job
    have hboth : ∀ t : State, Inv t → t.hold holdId = some row → t.NoCampaignWaits row →
        ∀ f, Inv ((t.setHold holdId row').updateJob jobId f) := by
      intro t ht htrow htnone f
      have hhold : Inv (t.setHold holdId row') := ht.setHold htrow {
        kind := hwrite.kind
        job := hwrite.jobId
        pending := fun hp => absurd (hstatus.symm.trans hp) (by decide)
        releasing := fun hr => absurd (hstatus.symm.trans hr) (by decide)
        ended := fun _ => htnone }
      exact hhold.cancelJobOf (update_self ..) hstatus (hwrite.jobId.trans hjobId)
    rw [hjobId] at hs
    cases hs
    split
    next campaignId hbulk =>
      -- the campaign is taken out of the way first; the order within the transaction is no matter
      simp only [updateScheduled_updateJob, updateScheduled_setHold]
      exact hboth _ h.updateScheduled (by rw [updateScheduled_hold]; exact hrow)
        (updateScheduled_noWait (fun _ hc => by cases hc) hbulk) _
    next hmessage =>
      exact hboth s h hrow (fun c campaign hc => by rw [hmessage] at hc; cases hc) _

theorem Inv.reschedule (h : Inv s) {epochSeconds : Int}
    (hs : HoldQueue.reschedule s holdId epochSeconds = some s') : Inv s' := by
  rw [HoldQueue.reschedule] at hs
  split at hs
  · cases hs
  next row hrow =>
  split at hs
  · cases hs
  next schedule hparse =>
  split at hs
  next when_ jobId hwhen hneeds hjobId =>
    split at hs
    next row' job hmove hjob =>
      split at hs
      next moved hmoved =>
        cases hs
        obtain ⟨hwrite, hpending, hstatus, -⟩ := rescheduleHold_spec hmove
        have hhold : Inv (s.setHold holdId row') := h.setHold hrow {
          kind := hwrite.kind
          job := hwrite.jobId
          pending := fun _ => h.pending holdId row hrow hpending
          releasing := fun hr => absurd (hstatus.symm.trans hr) nofun
          ended := fun hended => by rw [hstatus] at hended; cases hended }
        have hjobs : Inv ((s.setHold holdId row').setJob jobId { job with row := moved }) :=
          hhold.setJob hjob (.inl (.inl (Platform.rescheduleOn_spec hmoved).2.2.2))
        split
        · exact hjobs.updateScheduled
        · exact hjobs
      · cases hs
    · cases hs
  · cases hs

/-- A sweep leaves a hold alone, or fails it. -/
theorem swept_cases (tuning : ReleaseTuning) (now : Int) (row : ScheduledMessageRow) :
    (swept tuning now row).kind = row.kind ∧ (swept tuning now row).jobId = row.jobId ∧
      (swept tuning now row = row ∨ (swept tuning now row).status = .failed) := by
  rw [swept]
  cases h : sweepStalled tuning now row with
  | none => exact ⟨rfl, rfl, .inl rfl⟩
  | some row' =>
    obtain ⟨hwrite, -, hstatus, -⟩ := sweepStalled_spec h
    exact ⟨hwrite.kind, hwrite.jobId, .inr hstatus⟩

theorem Inv.sweep (h : Inv s) (hkept : Kept cfg s .sweep) :
    Inv { s with hold := fun id => (s.hold id).map (swept cfg.release s.clock) } := by
  refine ⟨?_, ?_, ?_, ?_, ?_⟩
  · intro id row' hr
    obtain ⟨row, hrow, rfl⟩ := map_eq_some_iff.mp hr
    rw [(swept_cases cfg.release s.clock row).2.1]
    exact h.link id row hrow
  · intro id row' hr hpending
    obtain ⟨row, hrow, rfl⟩ := map_eq_some_iff.mp hr
    rcases (swept_cases cfg.release s.clock row).2.2 with heq | hfailed
    · rw [heq] at hpending ⊢
      exact h.pending id row hrow hpending
    · rw [hfailed] at hpending
      cases hpending
  · intro id row' hr hreleasing
    obtain ⟨row, hrow, rfl⟩ := map_eq_some_iff.mp hr
    rcases (swept_cases cfg.release s.clock row).2.2 with heq | hfailed
    · rw [heq] at hreleasing ⊢
      exact h.releasing id row hrow hreleasing
    · rw [hfailed] at hreleasing
      cases hreleasing
  · intro c campaign hc hsched
    obtain ⟨id, row, hrow, hk, hopen⟩ := h.campaigns c campaign hc hsched
    have hnot : stalled cfg.release s.clock row ≠ true := fun hstalled =>
      hkept id row hrow hstalled c campaign hk hc hsched
    have hsame : swept cfg.release s.clock row = row := by
      rw [swept, sweepStalled, if_neg hnot]
      rfl
    refine ⟨id, row, ?_, hk, hopen⟩
    show (s.hold id).map (swept cfg.release s.clock) = some row
    rw [hrow, map_some, hsame]
  · intro w worker row hw hr
    obtain ⟨current, hcurrent, hk⟩ := h.snapshot w worker row hw hr
    refine ⟨swept cfg.release s.clock current, ?_,
      (swept_cases cfg.release s.clock current).1.trans hk⟩
    show (s.hold worker.scheduledMessageId).map (swept cfg.release s.clock) = _
    rw [hcurrent, map_some]

theorem Inv.reap (h : Inv s) {staleAfterMs : Int} (hkept : Kept cfg s (.reap staleAfterMs)) :
    Inv { s with job := fun id => (s.job id).map (reaped staleAfterMs s.clock) } := by
  have hreaped : ∀ jobId job, s.job jobId = some job →
      (s.job jobId).map (reaped staleAfterMs s.clock) = some (reaped staleAfterMs s.clock job) :=
    fun jobId job hjob => by rw [hjob, map_some]
  refine ⟨?_, ?_, h.releasing, h.campaigns, h.snapshot⟩
  · intro id row hrow
    obtain ⟨jobId, job, hj, hjob, hid⟩ := h.link id row hrow
    exact ⟨jobId, _, hj, hreaped jobId job hjob, hid⟩
  · intro id row hrow hpending
    obtain ⟨jobId, job, hj, hjob, hlive⟩ := h.pending id row hrow hpending
    obtain ⟨jobId', job', hj', hjob', hid⟩ := h.link id row hrow
    obtain rfl : jobId = jobId' := some.inj (hj.symm.trans hj')
    obtain rfl : job = job' := some.inj (hjob.symm.trans hjob')
    refine ⟨jobId, _, hj, hreaped jobId job hjob, ?_⟩
    cases hreap : Platform.reapStuck staleAfterMs s.clock job.row with
    | none => rwa [ReleaseJob.live, reaped, hreap]
    | some row' =>
      rw [ReleaseJob.live, reaped, hreap]
      by_cases hstale : Platform.stale staleAfterMs s.clock job.row = true
      · by_cases hlast : job.row.maxAttempts ≤ job.row.attempts
        · have hnot := hkept jobId job hjob hstale hlast
          rw [hid] at hnot
          exact absurd hpending (hnot row hrow)
        · rw [Platform.reapStuck, if_pos hstale, if_neg hlast] at hreap
          cases hreap
          exact .inl rfl
      · rw [Platform.reapStuck, if_neg hstale] at hreap
        cases hreap

/-- A worker that has just claimed a job knows no hold. -/
theorem Inv.newWorker (h : Inv s) {worker : Worker} (hnone : worker.phase.row = none) :
    Inv { s with worker := update s.worker w (some worker) } where
  __ := h
  snapshot v other row hv hrow := by
    rcases update_eq_some hv with ⟨-, rfl⟩ | ⟨-, hv'⟩
    · rw [hnone] at hrow
      cases hrow
    · exact h.snapshot v other row hv' hrow

/-! ## Steps and runs -/

theorem Inv.step (h : Inv s) {a : Action} (hkept : Kept cfg s a)
    (hs : HoldQueue.step cfg s a = some s') : Inv s' := by
  cases a with
  | tick ms =>
    cases hs
    exact ⟨h.link, h.pending, h.releasing, h.campaigns, h.snapshot⟩
  | submitMessage holdId jobId epochSeconds validity parsedAt =>
    rw [HoldQueue.step] at hs
    split at hs
    · exact h.submitMessage hs
    · cases hs
  | submitBulk campaignId holdId jobId epochSeconds validity parsedAt elapsed =>
    rw [HoldQueue.step] at hs
    split at hs
    next schedule hparse =>
      refine h.submitBulk (fun when_ hwhen hlt => ?_) hs
      rw [parse_scheduledAt hparse] at hwhen
      obtain ⟨seconds, hseconds, rfl⟩ := map_eq_some_iff.mp hwhen
      exact hkept seconds hseconds hlt
    · cases hs
  | cancel holdId reason => exact h.cancel hs
  | reschedule holdId epochSeconds => exact h.reschedule hs
  | cancelJob jobId reason =>
    cases hs
    exact h.updateJob fun job row' hjob _ => .inr (hkept job hjob)
  | claimJob w jobId workerId =>
    rw [HoldQueue.step] at hs
    split at hs
    next job hw hjob =>
      split at hs
      next row' hclaim =>
        cases hs
        have hrunning := (Platform.claimOn_spec hclaim).2.2.2
        exact (h.setJob hjob (.inl (.inr hrunning))).newWorker rfl
      · cases hs
    · cases hs
  | sweep =>
    cases hs
    exact h.sweep hkept
  | reap staleAfterMs =>
    cases hs
    exact h.reap hkept
  | _ =>
    obtain ⟨worker, hw, hstep⟩ := bind_eq_some_iff.mp hs
    exact h.workerStep hw rfl hkept hstep

/-- **No hold or campaign is forgotten**, in every run whose steps are `Kept`. -/
theorem kept_along {clock : Int} {as : List Action}
    (hP : (holds cfg).Along (Kept cfg) (init clock) as)
    (hrun : (holds cfg).run (init clock) as = some s) : NothingForgotten cfg s :=
  Inv.nothingForgotten ((holds cfg).invariant_along (I := Inv)
    (fun _ _ _ hi hk hs => hi.step hk hs) (inv_init clock) hP hrun) cfg

end Services

/-! ## Runs -/

/-- The defaults of the environment. -/
def defaultConfig : Config := ⟨⟨600000, 7200000⟩, ⟨5000, 300000⟩⟩

/-- A message and a campaign, both for one hour from now, and both released then. -/
def bothReleased : List Action :=
  [.submitMessage 1 1 (some 3600) none 0, .submitBulk 5 2 2 (some 3600) none 0 0, .tick 3600000,
    .claimJob 0 1 "worker", .call 0, .claimHold 0 .ok, .send 0 (.ok (10, 7)), .complete 0 .ok,
    .claimJob 1 2 "worker", .call 1, .claimHold 1 .ok, .releaseBulk 1 .ok (.ok ""),
    .complete 1 .ok]

theorem bothReleased_kept :
    (holds defaultConfig).Along (Kept defaultConfig) (init 0) bothReleased := by
  refine along_cons _ rfl trivial ?_
  refine along_cons _ rfl (fun seconds h _ => by cases h; decide) ?_
  iterate 5 refine along_cons _ rfl trivial ?_
  refine along_cons _ rfl
    (fun worker job hw hjob _ _ row hr => by cases hw; cases hjob; cases hr; nofun) ?_
  iterate 4 refine along_cons _ rfl trivial ?_
  exact along_cons _ rfl
    (fun worker job hw hjob _ _ row hr => by cases hw; cases hjob; cases hr; nofun) trivial

theorem kept_along_bothReleased :
    ∃ s, (holds defaultConfig).run (init 0) bothReleased = some s ∧
      NothingForgotten defaultConfig s :=
  ⟨_, rfl, kept_along bothReleased_kept rfl⟩

/-- A message whose release job is cancelled by itself. -/
def jobCancelled : List Action := [.submitMessage 1 1 (some 3600) none 0, .cancelJob 1 none]

/-- A campaign for half a minute from now. -/
def withinGrace : List Action := [.submitBulk 5 1 1 (some 30) none 0 0]

/-- A campaign nobody came to release until it was too late. -/
def campaignExpired : List Action :=
  [.submitBulk 5 1 1 (some 3600) none 0 0, .tick 10800001, .claimJob 0 1 "worker", .call 0,
    .claimHold 0 .ok, .expire 0 "too late" .ok]

/-- **Three ways to be forgotten.**  A pending hold whose job has been cancelled, a campaign that
waits and never had a hold, and one whose hold has expired. -/
theorem holds_are_forgotten :
    (∃ s, (holds defaultConfig).run (init 0) jobCancelled = some s ∧
      ¬ NothingForgotten defaultConfig s) ∧
    (∃ s, (holds defaultConfig).run (init 0) withinGrace = some s ∧
      ¬ NothingForgotten defaultConfig s) ∧
    ∃ s, (holds defaultConfig).run (init 0) campaignExpired = some s ∧
      ¬ NothingForgotten defaultConfig s := by
  refine ⟨⟨_, rfl, fun h => ?_⟩, ⟨_, rfl, fun h => ?_⟩, _, rfl, fun h => ?_⟩
  · rcases h.holds 1 _ rfl rfl with ⟨jobId, job, hj, hjob, hlive⟩ | ⟨later, -, hsweep⟩
    · cases hj
      cases hjob
      rcases hlive with hlive | hlive <;> cases hlive
    · simp [sweepStalled, stalled, insertHold] at hsweep
  · obtain ⟨holdId, row, hrow, -⟩ := h.campaigns 5 _ rfl rfl
    cases hrow
  · obtain ⟨holdId, row, hrow, -, hopen⟩ := h.campaigns 5 _ rfl rfl
    rcases holdId with _ | _ | id
    · cases hrow
    · cases hrow
      cases hopen
    · cases hrow

end Jkannel.Messaging.HoldQueue

