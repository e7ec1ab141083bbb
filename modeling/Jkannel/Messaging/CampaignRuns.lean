import Jkannel.Lib.Updates
import Jkannel.Messaging.Campaigns

/-!
# Every recipient once

`Inv` is what holds of a campaign however its callers are interleaved: only one call of `processJob`
ever gets past its claim, it passes the recipients on in their order, and nothing is written before
it is done (`Progress`).

* `Outside` says all that the steps outside `processJob` can do to a campaign, and `Inv.outside` that
  they keep the invariant.
* `Inv.claim`, `Inv.advance` and `Inv.finalise` are the steps of a call of `processJob`; what it
  writes at its end is what it has been told (`Told.agrees`).
* `Inv.step` puts them together, and `New.inv` is where a run begins.
-/

namespace Jkannel.Messaging.Campaigns

open Option (bind_eq_some_iff some.inj)
open List

/-! ## Outcomes -/

theorem write_id (outcome : Outcome) (row : Recipient) : (outcome.write row).id = row.id := by
  rw [Outcome.write]
  split <;> rfl

variable {outcomes : List Outcome} {rows : List Recipient} {s : State} {input : CreateBulkSendInput}
  {setting : Setting}

theorem writeOutcomes_cons {row : Recipient} (h : row.id ∉ outcomes.map Outcome.id) :
    writeOutcomes outcomes (row :: rows) = row :: writeOutcomes outcomes rows := by
  induction outcomes generalizing rows with
  | nil => rfl
  | cons outcome outcomes ih =>
    rw [map_cons, mem_cons, not_or] at h
    rw [writeOutcomes, foldl_cons, map_cons, if_neg h.1]
    exact ih h.2

/-- Each outcome is written to its own row. -/
theorem writeOutcomes_eq (hids : outcomes.map Outcome.id = rows.map Recipient.id)
    (hnodup : (rows.map Recipient.id).Nodup) :
    writeOutcomes outcomes rows = List.zipWith Outcome.write outcomes rows := by
  induction outcomes generalizing rows with
  | nil =>
    obtain rfl := map_eq_nil_iff.mp hids.symm
    rfl
  | cons outcome outcomes ih =>
    cases rows with
    | nil => cases hids
    | cons row rows =>
      obtain ⟨hid, hids⟩ := List.cons.inj hids
      obtain ⟨hnew, hnodup⟩ := nodup_cons.mp hnodup
      have hother : ∀ other ∈ rows,
          (if other.id = outcome.id then outcome.write other else other) = other := by
        intro other hmem
        refine if_neg fun he => hnew ?_
        rw [← hid, ← he]
        exact mem_map_of_mem hmem
      rw [writeOutcomes, foldl_cons, map_cons, if_pos hid.symm,
        map_congr_left hother, map_id', zipWith_cons_cons, ← ih hids hnodup]
      refine writeOutcomes_cons ?_
      rw [write_id, hids]
      exact hnew

theorem writeOutcomes_ids (outcomes : List Outcome) (rows : List Recipient) :
    (writeOutcomes outcomes rows).map Recipient.id = rows.map Recipient.id := by
  induction outcomes generalizing rows with
  | nil => rfl
  | cons outcome outcomes ih =>
    rw [writeOutcomes, foldl_cons]
    refine (ih _).trans ?_
    rw [map_map]
    refine map_congr_left fun row _ => ?_
    rw [Function.comp_apply]
    split
    · exact write_id outcome row
    · rfl

/-- A row that has been written has been written by the outcome of its recipient. -/
theorem mem_zipWith_write {row : Recipient} (hids : outcomes.map Outcome.id = rows.map Recipient.id)
    (h : row ∈ List.zipWith Outcome.write outcomes rows) :
    ∃ outcome ∈ outcomes, ∃ old, old.id = outcome.id ∧ row = outcome.write old := by
  induction outcomes generalizing rows with
  | nil => cases h
  | cons outcome outcomes ih =>
    cases rows with
    | nil => cases h
    | cons old rows =>
      obtain ⟨hid, hids⟩ := List.cons.inj hids
      rcases mem_cons.mp h with rfl | h
      · exact ⟨outcome, mem_cons_self, old, hid.symm, rfl⟩
      · obtain ⟨outcome', hmem, hrest⟩ := ih hids h
        exact ⟨outcome', mem_cons_of_mem _ hmem, hrest⟩

theorem countP_submitted (hlength : outcomes.length = rows.length) :
    (List.zipWith Outcome.write outcomes rows).countP (fun row => row.status = .submitted) =
      outcomes.countP Outcome.ok := by
  induction outcomes generalizing rows with
  | nil => rfl
  | cons outcome outcomes ih =>
    cases rows with
    | nil => cases hlength
    | cons row rows =>
      rw [zipWith_cons_cons, countP_cons, countP_cons, ih (Nat.succ.inj hlength),
        Outcome.write, Outcome.ok]
      cases outcome.result <;> rfl

theorem countP_failed (hlength : outcomes.length = rows.length) :
    (List.zipWith Outcome.write outcomes rows).countP (fun row => row.status = .failed) =
      outcomes.length - outcomes.countP Outcome.ok := by
  have hall : (List.zipWith Outcome.write outcomes rows).countP (fun row => row.status = .failed) =
      outcomes.countP fun outcome => !outcome.ok := by
    induction outcomes generalizing rows with
    | nil => rfl
    | cons outcome outcomes ih =>
      cases rows with
      | nil => cases hlength
      | cons row rows =>
        rw [zipWith_cons_cons, countP_cons, countP_cons, ih (Nat.succ.inj hlength),
          Outcome.write, Outcome.ok]
        cases outcome.result <;> rfl
  rw [hall, length_eq_countP_add_countP Outcome.ok, Nat.add_sub_cancel_left]
  refine countP_congr fun outcome _ => ?_
  cases outcome.ok <;> decide

theorem finalStatus_terminal (submitted failed : Nat) :
    terminal (finalStatus submitted failed) = true := by
  unfold finalStatus
  split
  · rfl
  · split <;> rfl

/-! ## The invariant -/

/-- The calls of the send path are the outcomes, in their order; there are none if SQLBox was not
there. -/
def Told (sent : List Sent) (outcomes : List Outcome) (rest : List Recipient) : Prop :=
  (sent.map fun call => Outcome.mk call.recipient call.result) = outcomes ∨
    (sent = [] ∧ rest = [] ∧ ∀ outcome ∈ outcomes, ∃ error, outcome.result = .error error)

/-- The rows as they are written agree with what has been told. -/
theorem Told.agrees {sent : List Sent} (htold : Told sent outcomes [])
    (hids : outcomes.map Outcome.id = rows.map Recipient.id)
    (hnodup : (rows.map Recipient.id).Nodup) :
    ∀ row ∈ List.zipWith Outcome.write outcomes rows, Agrees sent row := by
  intro row hrow
  obtain ⟨outcome, hmem, old, hid, rfl⟩ := mem_zipWith_write hids hrow
  rw [Agrees, write_id, hid, Outcome.write]
  cases hresult : outcome.result with
  | ok sqlId =>
    rcases htold with hcalls | ⟨-, -, herrors⟩
    · rw [← hcalls] at hmem
      obtain ⟨call, hcall, rfl⟩ := mem_map.mp hmem
      exact ⟨call, hcall, rfl, sqlId, hresult, rfl⟩
    · obtain ⟨error, herror⟩ := herrors outcome hmem
      cases hresult.symm.trans herror
  | error error =>
    intro call hcall hrecipient
    rcases htold with hcalls | ⟨rfl, -, -⟩
    · have htold : Outcome.mk call.recipient call.result ∈ outcomes := by
        rw [← hcalls]
        exact mem_map_of_mem hcall
      have hsame := inj_on_of_nodup_map (hids ▸ hnodup) htold hmem hrecipient
      exact ⟨error, (congrArg Outcome.result hsame).trans hresult, rfl⟩
    · cases hcall

/-- How far a call that has claimed the job is with the recipients. -/
def Progress (s : State) : Phase → Prop
  | .claimed claim => claim.recipients = s.recipients ∧ s.sent = []
  | .sending _ outcomes rest =>
    outcomes.map Outcome.id ++ rest.map Recipient.id = s.recipients.map Recipient.id ∧
      Told s.sent outcomes rest
  | _ => True

/-- What a step of a campaign keeps. -/
structure Inv (s : State) : Prop where
  ids : (s.recipients.map Recipient.id).Nodup
  total : s.job.total = s.recipients.length
  once : AtMostOnce s
  /-- One call at most works on the job. -/
  sole : ∀ (p q : Nat) (x y : Phase), s.processes[p]? = some x → s.processes[q]? = some y →
    x.working = true → y.working = true → p = q
  working : ∀ (p : Nat) (x : Phase), s.processes[p]? = some x → x.working = true →
    s.job.status = .running ∧ Progress s x
  fresh : s.job.status = .scheduled ∨ s.job.status = .queued → s.sent = []
  unwritten : terminal s.job.status = false →
    s.job.submitted = 0 ∧ s.job.failed = 0 ∧ ∀ row ∈ s.recipients, row.status = .pending
  ended : AccountedFor s

/-! ## Outside `processJob`

Creation, release and cancellation touch the hold and the status, and no recipient. -/

/-- All that the steps outside `processJob` can do. -/
structure Outside (s s' : State) : Prop where
  recipients : s'.recipients = s.recipients
  sent : s'.sent = s.sent
  total : s'.job.total = s.job.total
  submitted : s'.job.submitted = s.job.submitted
  failed : s'.job.failed = s.job.failed
  processes : s'.processes = s.processes ∨ s'.processes = s.processes ++ [.started]
  /-- A job is released, or cancelled with its hold, while that is open. -/
  status : s'.job.status = s.job.status ∨
    (s.job.status = .scheduled ∧ (∃ row ∈ s.hold, row.status.open_ = true) ∧
      (s'.job.status = .queued ∨
        (s'.job.status = .failed ∧ ∃ row ∈ s'.hold, row.status = .cancelled)))
  /-- A hold that has ended stays as it is. -/
  hold : (∀ row ∈ s.hold, row.status.open_ = false) → s'.hold = s.hold

theorem Inv.outside {s' : State} (h : Inv s) (ho : Outside s s') : Inv s' := by
  have hworking : ∀ (p : Nat) (x : Phase), s'.processes[p]? = some x → x.working = true →
      s.processes[p]? = some x := by
    intro p x hp hx
    rcases ho.processes with he | he <;> rw [he] at hp
    · exact hp
    · rcases Updates.concat_eq_some hp with rfl | hp
      · cases hx
      · exact hp
  have hprogress : ∀ x, Progress s x → Progress s' x := by
    intro x hx
    cases x with
    | claimed claim => exact ⟨hx.1.trans ho.recipients.symm, ho.sent.trans hx.2⟩
    | sending claim outcomes rest =>
      rw [Progress, ho.recipients, ho.sent]
      exact hx
    | started | ended => trivial
  refine ⟨ho.recipients ▸ h.ids, by rw [ho.total, ho.recipients]; exact h.total, ?_, ?_, ?_, ?_, ?_, ?_⟩
  · rw [AtMostOnce, ho.sent]
    exact h.once
  · intro p q x y hp hq hx hy
    exact h.sole p q x y (hworking p x hp hx) (hworking q y hq hy) hx hy
  · intro p x hp hx
    obtain ⟨hrunning, hx'⟩ := h.working p x (hworking p x hp hx) hx
    refine ⟨?_, hprogress x hx'⟩
    rcases ho.status with hs | ⟨hs, -⟩
    · exact hs.trans hrunning
    · cases hs.symm.trans hrunning
  · intro hs
    rw [ho.sent]
    rcases ho.status with hsame | ⟨hsched, -⟩
    · exact h.fresh (hsame ▸ hs)
    · exact h.fresh (.inl hsched)
  · intro hs
    rw [ho.submitted, ho.failed, ho.recipients]
    rcases ho.status with hsame | ⟨hsched, -⟩
    · exact h.unwritten (hsame ▸ hs)
    · exact h.unwritten (hsched ▸ rfl)
  · have haccounted : Accounted s → Accounted s' := by
      intro ⟨hsum, hsub, hfail, hagrees⟩
      refine ⟨?_, ?_, ?_, ?_⟩
      · rw [ho.submitted, ho.failed, ho.total]
        exact hsum
      · rw [ho.submitted, ho.recipients]
        exact hsub
      · rw [ho.failed, ho.recipients]
        exact hfail
      · rw [ho.recipients, ho.sent]
        exact hagrees
    constructor
    · intro hs
      rcases ho.status with hsame | ⟨-, -, hs' | ⟨hs', -⟩⟩
      · exact haccounted (h.ended.finalised (hsame ▸ hs))
      all_goals rcases hs with hs | hs <;> cases hs'.symm.trans hs
    · intro hs
      rcases ho.status with hsame | ⟨hsched, -, hs' | ⟨-, hhold⟩⟩
      · rcases h.ended.failed (hsame ▸ hs) with hacc | ⟨⟨row, hrow, hcancelled⟩, hsent, hpending⟩
        · exact .inl (haccounted hacc)
        · have hkept : s'.hold = s.hold := ho.hold fun other hother => by
            obtain rfl : row = other := some.inj (hrow.symm.trans hother)
            rw [hcancelled]
            rfl
          refine .inr ⟨⟨row, hkept.trans hrow, hcancelled⟩, ?_, ?_⟩
          · rw [ho.sent]
            exact hsent
          · rw [ho.recipients]
            exact hpending
      · cases hs'.symm.trans hs
      · refine .inr ⟨hhold, ?_, ?_⟩
        · rw [ho.sent]
          exact h.fresh (.inl hsched)
        · rw [ho.recipients]
          exact (h.unwritten (hsched ▸ rfl)).2.2

section Steps

variable {s' : State} {row row' : ScheduledMessageRow}

theorem Outside.refl (s : State) : Outside s s where
  recipients := rfl
  sent := rfl
  total := rfl
  submitted := rfl
  failed := rfl
  processes := .inl rfl
  status := .inl rfl
  hold _ := rfl

theorem Outside.process (h : Outside s s') (hsame : s'.processes = s.processes) :
    Outside s s'.process :=
  { h with processes := .inr (by rw [State.process, hsame]) }

theorem Outside.setRelease (h : Outside s s') (r : Nat) (call : Release) (phase : ReleasePhase) :
    Outside s (s'.setRelease r call phase) :=
  { h with }

/-- A hold that is open has not ended. -/
theorem not_ended (hrow : s.hold = some row)
    (hopen : row.status.open_ = true) (h : ∀ other ∈ s.hold, other.status.open_ = false) :
    some row' = s.hold := by
  cases hopen.symm.trans (h row hrow)

/-- A statement that looks for an open hold. -/
theorem Outside.updateHold {f : ScheduledMessageRow → Option ScheduledMessageRow}
    (hf : ∀ row row', f row = some row' → HoldWrite row row') : Outside s (s.updateHold f) := by
  rw [State.updateHold]
  split
  · next row' hbind =>
    obtain ⟨row, hrow, hstmt⟩ := bind_eq_some_iff.mp hbind
    exact { Outside.refl s with
      status := .inl rfl
      hold := not_ended hrow (hf row row' hstmt).live }
  · exact Outside.refl s

/-- The release of a campaign that waits. -/
theorem Outside.released (hrow : s.hold = some row) (hopen : row.status.open_ = true) :
    Outside s { s.updateScheduled fun job => { job with status := .queued } with
      hold := some row' } := by
  rw [State.updateScheduled]
  split
  · next hsched =>
    exact { Outside.refl s with
      status := .inr ⟨hsched, ⟨row, hrow, hopen⟩, .inl rfl⟩
      hold := not_ended hrow hopen }
  · exact { Outside.refl s with
      status := .inl rfl
      hold := not_ended hrow hopen }

variable {a : Action}

theorem outside_releaseStep {r : Nat} {call : Release}
    (hs : releaseStep setting s r call a = some s') : Outside s s' := by
  cases a with
  | claimHold _ ack =>
    rw [releaseStep] at hs
    split at hs
    · cases hs
      refine Outside.setRelease ?_ ..
      split
      · exact Outside.updateHold fun row row' h => (claimHold_spec h).1
      · exact Outside.refl s
    · cases hs
  | expire _ reason ack =>
    rw [releaseStep] at hs
    split at hs
    · simp only at hs
      split at hs
      · cases hs
        refine Outside.setRelease ?_ ..
        split
        · exact Outside.updateHold fun row row' h => (expireHold_spec h).1.toHoldWrite
        · exact Outside.refl s
      · cases hs
    · cases hs
  | releaseBulk _ ack =>
    rw [releaseStep] at hs
    split at hs
    · simp only at hs
      split at hs
      · cases hs
      · split at hs
        · cases hs
          exact (Outside.refl s).setRelease ..
        · cases hs
          exact (Outside.refl s).setRelease ..
        · next row' hbind =>
          cases hs
          obtain ⟨row, hrow, hstmt⟩ := bind_eq_some_iff.mp hbind
          exact (Outside.released hrow (markBulkReleased_spec hstmt).1.live).setRelease ..
        · next row' hbind =>
          cases hs
          obtain ⟨row, hrow, hstmt⟩ := bind_eq_some_iff.mp hbind
          refine Outside.setRelease ?_ ..
          refine (Outside.released hrow (markBulkReleased_spec hstmt).1.live).process ?_
          rw [State.updateScheduled]
          split <;> rfl
    · cases hs
  | record _ ack =>
    rw [releaseStep] at hs
    split at hs
    · cases hs
      refine Outside.setRelease ?_ ..
      split
      · exact Outside.updateHold fun row row' h => (recordReleaseFailure_spec h).1.toHoldWrite
      · exact Outside.refl s
    · cases hs
  | crashRelease _ =>
    cases hs
    exact (Outside.refl s).setRelease ..
  | _ => cases hs

theorem outside_cancel {reason : Option String} (hs : cancel s reason = some s') : Outside s s' := by
  obtain ⟨row', hbind, rfl⟩ := Option.map_eq_some_iff.mp hs
  obtain ⟨row, hrow, hstmt⟩ := bind_eq_some_iff.mp hbind
  obtain ⟨hwrite, -, hcancelled, -⟩ := cancelHold_spec hstmt
  rw [State.updateScheduled]
  split
  · next hsched =>
    exact { Outside.refl s with
      status := .inr ⟨hsched, ⟨row, hrow, hwrite.live⟩, .inr ⟨rfl, row', rfl, hcancelled⟩⟩
      hold := not_ended hrow hwrite.live }
  · exact { Outside.refl s with
      status := .inl rfl
      hold := not_ended hrow hwrite.live }

theorem outside_reschedule {epochSeconds : Int} {queued : Bool}
    (hs : reschedule s epochSeconds queued = some s') : Outside s s' := by
  obtain ⟨row, hrow, hs⟩ := bind_eq_some_iff.mp hs
  split at hs
  · cases hs
  · split at hs
    · obtain ⟨when_, -, hs⟩ := bind_eq_some_iff.mp hs
      obtain ⟨row', hstmt, rfl⟩ := Option.map_eq_some_iff.mp hs
      have hopen := (rescheduleHold_spec hstmt).1.live
      rw [State.updateScheduled]
      split
      all_goals
        exact { Outside.refl s with
          status := .inl rfl
          hold := not_ended hrow hopen }
    · cases hs

theorem outside_step (ha : a.process = none) (hs : step setting s a = some s') : Outside s s' := by
  have hrelease : ∀ r, (s.releases[r]?.bind fun call => releaseStep setting s r call a) = some s' →
      Outside s s' := by
    intro r hr
    obtain ⟨call, -, hr⟩ := bind_eq_some_iff.mp hr
    exact outside_releaseStep hr
  cases a with
  | tick _ | callRelease _ =>
    cases hs
    exact { Outside.refl s with }
  | list =>
    rw [step] at hs
    split at hs
    · cases hs
      exact (Outside.refl s).process rfl
    · cases hs
  | kick =>
    rw [step] at hs
    split at hs
    · cases hs
      exact { (Outside.refl s).process rfl with }
    · cases hs
  | locked | claim | probe | send | finalise | crash => cases ha
  | claimHold r _ | expire r _ _ | releaseBulk r _ | record r _ | crashRelease r =>
    exact hrelease r hs
  | sweep =>
    cases hs
    exact Outside.updateHold fun row row' h => (sweepStalled_spec h).1
  | cancel reason => exact outside_cancel hs
  | reschedule epochSeconds queued => exact outside_reschedule hs

/-! ## `processJob` -/

/-- Only the call that has just moved can be at work. -/
theorem working_set {l : List Phase} {p q : Nat} {x y : Phase}
    (hothers : ∀ (q : Nat) (y : Phase), q ≠ p → l[q]? = some y → y.working = false)
    (hq : (l.set p x)[q]? = some y) (hy : y.working = true) : q = p ∧ y = x := by
  rcases Updates.set_eq_some hq with heq | ⟨hne, hq⟩
  · exact heq
  · rw [hothers q y hne hq] at hy
    cases hy

variable {p : Nat} {x : Phase}

/-- While one call is at work no other is. -/
theorem Inv.others (h : Inv s) (hp : s.processes[p]? = some x) (hx : x.working = true) (q : Nat)
    (y : Phase) (hne : q ≠ p) (hq : s.processes[q]? = some y) : y.working = false := by
  rw [Bool.eq_false_iff]
  exact fun hy => hne (h.sole q p y x hq hp hy hx)

/-- A call that ends, or is not heard of again. -/
theorem Inv.end_ (h : Inv s) (p : Nat) : Inv (s.setPhase p .ended) := by
  have hworking : ∀ (q : Nat) (y : Phase), (s.setPhase p .ended).processes[q]? = some y →
      y.working = true → s.processes[q]? = some y := by
    intro q y hq hy
    rcases Updates.set_eq_some hq with ⟨-, rfl⟩ | ⟨-, hq⟩
    · cases hy
    · exact hq
  exact { h with
    sole := fun q r y z hq hr hy hz =>
      h.sole q r y z (hworking q y hq hy) (hworking r z hr hz) hy hz
    working := fun q y hq hy => h.working q y (hworking q y hq hy) hy
    ended := ⟨fun hs => { h.ended.finalised hs with }, fun hs =>
      (h.ended.failed hs).imp (fun hacc => { hacc with }) (fun hcan => { hcan with })⟩ }

theorem claimJob_some {job job' : BulkSendJob} {rows : List Recipient} {claim : Claim}
    (h : claimJob setting job rows = some (job', claim)) :
    job.status = .queued ∧ job' = { job with status := .running } ∧
      claim.recipients = rows.filter fun r => r.status = .pending := by
  rw [claimJob] at h
  split at h
  · next hstatus =>
    obtain ⟨rfl, rfl⟩ := Prod.mk.inj (some.inj h)
    exact ⟨mem_singleton.mp hstatus, rfl, rfl⟩
  · cases h

/-- A job that is queued is nobody's yet. -/
theorem Inv.idle (h : Inv s) (hqueued : s.job.status = .queued) (q : Nat) (y : Phase)
    (hq : s.processes[q]? = some y) : y.working = false := by
  rw [Bool.eq_false_iff]
  intro hy
  cases hqueued.symm.trans (h.working q y hq hy).1

/-- The job is running now, and the call of the claim is the one at work, or nobody is. -/
theorem Inv.claim (h : Inv s) (hqueued : s.job.status = .queued) (p : Nat) {claim : Claim}
    (hclaim : claim.recipients = s.recipients.filter fun r => r.status = .pending)
    {phase : Phase} (hphase : phase = .claimed claim ∨ phase = .ended) :
    Inv (State.setPhase { s with job := { s.job with status := .running } } p phase) := by
  obtain ⟨hsubmitted, hfailed, hpending⟩ := h.unwritten (hqueued ▸ rfl)
  have hall : claim.recipients = s.recipients := by
    rw [hclaim, filter_eq_self]
    exact fun row hrow => decide_eq_true (hpending row hrow)
  have hothers : ∀ (q : Nat) (y : Phase), q ≠ p → s.processes[q]? = some y → y.working = false :=
    fun q y _ hq => h.idle hqueued q y hq
  exact {
    __ := h
    sole := fun q r y z hq hr hy hz =>
      (working_set hothers hq hy).1.trans (working_set hothers hr hz).1.symm
    working := fun q y hq hy => by
      obtain ⟨-, rfl⟩ := working_set hothers hq hy
      rcases hphase with rfl | rfl
      · exact ⟨rfl, hall, h.fresh (.inr hqueued)⟩
      · cases hy
    fresh := fun hs => (by rcases hs with hs | hs <;> cases hs)
    unwritten := fun _ => ⟨hsubmitted, hfailed, hpending⟩
    ended := ⟨fun hs => (by rcases hs with hs | hs <;> cases hs), fun hs => (by cases hs)⟩ }

/-- A call at work goes on: it has told what it has done. -/
theorem Inv.advance (h : Inv s) (hp : s.processes[p]? = some x) (hx : x.working = true)
    {phase : Phase} {sent : List Sent} (honce : (sent.map Sent.recipient).Nodup)
    (hprogress : Progress { s with sent } phase) :
    Inv (State.setPhase { s with sent } p phase) := by
  have hrunning := (h.working p x hp hx).1
  have hothers := h.others hp hx
  exact {
    __ := h
    once := honce
    sole := fun q r y z hq hr hy hz =>
      (working_set hothers hq hy).1.trans (working_set hothers hr hz).1.symm
    working := fun q y hq hy => by
      obtain ⟨-, rfl⟩ := working_set hothers hq hy
      exact ⟨hrunning, hprogress⟩
    fresh := fun hs => (by rcases hs with hs | hs <;> cases hrunning.symm.trans hs)
    ended := ⟨fun hs => (by rcases hs with hs | hs <;> cases hrunning.symm.trans hs),
      fun hs => (by cases hrunning.symm.trans hs)⟩ }

/-- What a call that is done with all the recipients writes is what happened. -/
theorem Inv.finalise (h : Inv s) {claim : Claim} {outcomes : List Outcome}
    (hp : s.processes[p]? = some (.sending claim outcomes [])) :
    Inv (State.setPhase { s with
      job := Campaigns.finalise s.clock outcomes s.job
      recipients := writeOutcomes outcomes s.recipients } p .ended) := by
  obtain ⟨hrunning, hids, htold⟩ := h.working p _ hp rfl
  rw [map_nil, append_nil] at hids
  obtain ⟨hsubmitted, hfailed, -⟩ := h.unwritten (hrunning ▸ rfl)
  have hrows := writeOutcomes_eq hids h.ids
  have hlength : outcomes.length = s.recipients.length := by
    rw [← length_map Outcome.id, hids, length_map]
  have haccounted : Accounted (State.setPhase { s with
      job := Campaigns.finalise s.clock outcomes s.job
      recipients := writeOutcomes outcomes s.recipients } p .ended) := by
    refine ⟨?_, ?_, ?_, ?_⟩
    · show s.job.submitted + outcomes.countP Outcome.ok +
        (s.job.failed + (outcomes.length - outcomes.countP Outcome.ok)) = s.job.total
      have hle := countP_le_length (p := Outcome.ok) (l := outcomes)
      rw [hsubmitted, hfailed, h.total, ← hlength]
      omega
    · show s.job.submitted + outcomes.countP Outcome.ok =
        (writeOutcomes outcomes s.recipients).countP fun row => row.status = .submitted
      rw [hrows, countP_submitted hlength, hsubmitted, Nat.zero_add]
    · show s.job.failed + (outcomes.length - outcomes.countP Outcome.ok) =
        (writeOutcomes outcomes s.recipients).countP fun row => row.status = .failed
      rw [hrows, countP_failed hlength, hfailed, Nat.zero_add]
    · show ∀ row ∈ writeOutcomes outcomes s.recipients, Agrees s.sent row
      rw [hrows]
      exact htold.agrees hids h.ids
  have hterminal : terminal (Campaigns.finalise s.clock outcomes s.job).status = true :=
    finalStatus_terminal ..
  have hothers := h.others hp rfl
  exact {
    ids := by
      show ((writeOutcomes outcomes s.recipients).map Recipient.id).Nodup
      rw [writeOutcomes_ids]
      exact h.ids
    total := by
      show s.job.total = (writeOutcomes outcomes s.recipients).length
      rw [h.total, ← length_map Recipient.id, ← writeOutcomes_ids outcomes, length_map]
    once := h.once
    sole := fun q r y z hq hr hy hz =>
      (working_set hothers hq hy).1.trans (working_set hothers hr hz).1.symm
    working := fun q y hq hy => by
      obtain ⟨-, rfl⟩ := working_set hothers hq hy
      cases hy
    fresh := fun hs => by
      have hs : (Campaigns.finalise s.clock outcomes s.job).status = .scheduled ∨
        (Campaigns.finalise s.clock outcomes s.job).status = .queued := hs
      rcases hs with hs | hs <;> rw [hs] at hterminal <;> cases hterminal
    unwritten := fun hs => absurd (hterminal.symm.trans hs) nofun
    ended := ⟨fun _ => haccounted, fun _ => .inl haccounted⟩ }

theorem Inv.processStep (h : Inv s) (hp : s.processes[p]? = some x) (ha : a.process = some p)
    (hs : Campaigns.processStep setting s p x a = some s') : Inv s' := by
  cases a with
  | locked q =>
    simp only [Campaigns.processStep] at hs
    split at hs
    · cases hs
      exact h.end_ p
    · cases hs
  | claim q ack =>
    simp only [Campaigns.processStep] at hs
    split at hs
    · split at hs
      · cases hs
        exact h.end_ p
      · next job' claim hclaim =>
        cases hs
        obtain ⟨hqueued, rfl, hrecipients⟩ := claimJob_some hclaim
        cases ack with
        | ok => exact h.claim hqueued p hrecipients (.inl rfl)
        | lost error => exact h.claim hqueued p hrecipients (.inr rfl)
        | refused error => exact h.end_ p
    · cases hs
  | probe q available evidence =>
    simp only [Campaigns.processStep] at hs
    split at hs
    · next claim =>
      cases hs
      obtain ⟨hrecipients, hsent⟩ := (h.working p _ hp rfl).2
      refine h.advance hp rfl h.once ?_
      cases available with
      | true =>
        refine ⟨?_, .inl ?_⟩
        · rw [hrecipients]
          rfl
        · rw [hsent]
          rfl
      | false =>
        refine ⟨?_, .inr ⟨hsent, rfl, fun outcome hmem => ?_⟩⟩
        · rw [hrecipients, map_nil, append_nil, map_map]
          rfl
        · obtain ⟨recipient, -, rfl⟩ := mem_map.mp hmem
          exact ⟨_, rfl⟩
    · cases hs
  | send q result =>
    simp only [Campaigns.processStep] at hs
    split at hs
    · next claim outcomes recipient rest =>
      cases hs
      obtain ⟨hids, htold⟩ := (h.working p _ hp rfl).2
      rcases htold with hcalls | ⟨-, hrest, -⟩
      · refine h.advance hp rfl ?_ ⟨?_, .inl ?_⟩
        · have hsent : s.sent.map Sent.recipient = outcomes.map Outcome.id := by
            rw [← hcalls, map_map]
            rfl
          rw [map_append, hsent]
          have hnodup := hids ▸ h.ids
          refine hnodup.sublist (List.Sublist.append_left ?_ _)
          rw [map_cons]
          exact singleton_sublist.mpr mem_cons_self
        · rw [map_append, append_assoc]
          exact hids
        · rw [map_append, hcalls]
          rfl
      · cases hrest
    · cases hs
  | finalise q ack =>
    simp only [Campaigns.processStep] at hs
    split at hs
    · cases hs
      split
      · exact h.finalise hp
      · exact h.end_ p
    · cases hs
  | crash q =>
    cases hs
    exact h.end_ p
  | _ => cases ha

theorem step_process_some (ha : a.process = some p) (hs : step setting s a = some s') :
    ∃ x, s.processes[p]? = some x ∧ processStep setting s p x a = some s' := by
  cases a with
  | locked | claim | probe | send | finalise | crash =>
    cases ha
    exact bind_eq_some_iff.mp hs
  | _ => cases ha

theorem Inv.step (h : Inv s) (hs : Campaigns.step setting s a = some s') : Inv s' := by
  cases ha : a.process with
  | none => exact h.outside (outside_step ha hs)
  | some p =>
    obtain ⟨x, hp, hs⟩ := step_process_some ha hs
    exact h.processStep hp ha hs

end Steps

/-! ## A new campaign -/

theorem createJob_ok {id : Nat} {userId : String} {now : Int}
    {made : BulkSendJob × List Recipient} (h : createJob setting id userId input now = .ok made) :
    made = (newJob setting id userId input now, newRecipients input) := by
  unfold createJob at h
  repeat' split at h
  all_goals first
    | cases h; done
    | exact (Except.ok.inj h).symm

theorem newRecipients_nodup (input : CreateBulkSendInput) :
    ((newRecipients input).map Recipient.id).Nodup := by
  have hids : (newRecipients input).map Recipient.id = input.recipients.zipIdx.map Prod.snd := by
    rw [newRecipients, map_map]
    rfl
  rw [hids, zipIdx_map_snd]
  exact nodup_range'

/-- A campaign as it is made. -/
structure New (s : State) : Prop where
  ids : (s.recipients.map Recipient.id).Nodup
  total : s.job.total = s.recipients.length
  status : s.job.status = .scheduled ∨ s.job.status = .queued
  submitted : s.job.submitted = 0
  failed : s.job.failed = 0
  pending : ∀ row ∈ s.recipients, row.status = .pending
  processes : s.processes = []
  sent : s.sent = []
  /-- Its hold is of a campaign, and pending. -/
  hold : ∀ row ∈ s.hold, row.kind ≠ .message ∧ row.status = .pending

theorem submitBulk_new {id holdId : Nat} {userId : String} {now : Int} {elapsed : Nat}
    (h : submitBulk setting id holdId userId input now elapsed = .ok s) : New s := by
  rw [submitBulk] at h
  cases hcreate : createJob setting id userId input (now + elapsed) with
  | error message =>
    rw [hcreate] at h
    cases h
  | ok made =>
    rw [hcreate] at h
    obtain rfl := createJob_ok hcreate
    cases h
    refine ⟨newRecipients_nodup input, ?_, ?_, rfl, rfl, ?_, rfl, rfl, ?_⟩
    · show input.recipients.length = (newRecipients input).length
      rw [newRecipients, length_map, length_zipIdx]
    · show (newJob setting id userId input (now + elapsed)).status = .scheduled ∨ _
      rw [newJob]
      split
      · exact .inl rfl
      · exact .inr rfl
    · intro row hrow
      obtain ⟨_, -, rfl⟩ := mem_map.mp hrow
      rfl
    · intro row hrow
      obtain ⟨schedule, -, hrow⟩ := bind_eq_some_iff.mp hrow
      obtain ⟨when_, -, hrow⟩ := bind_eq_some_iff.mp hrow
      split at hrow
      · cases hrow
        exact ⟨nofun, rfl⟩
      · cases hrow

theorem New.inv (h : New s) : Inv s where
  __ := h
  once := by
    rw [AtMostOnce, h.sent]
    exact nodup_nil
  sole p q x y hp := by
    rw [h.processes] at hp
    cases hp
  working p x hp := by
    rw [h.processes] at hp
    cases hp
  fresh _ := h.sent
  unwritten _ := ⟨h.submitted, h.failed, h.pending⟩
  ended := by
    constructor
    · intro hs
      rcases h.status with hstatus | hstatus <;> rcases hs with hs | hs <;>
        cases hstatus.symm.trans hs
    · intro hs
      rcases h.status with hstatus | hstatus <;> cases hstatus.symm.trans hs

end Jkannel.Messaging.Campaigns

