import Jkannel.Lib.Updates
import Jkannel.Reporting.ReportCalls

/-!
# One report for each period

What the report jobs are meant for: every day and every ISO week of a tenant is reported, and no one
is told about it twice.  A replica only ever looks at the last day and the last week, and a report
that was sent is sent again when the call that sent it is rolled back.

* `Whole` is a period of the calendar, and `mem_periodsAt` says that a tick takes it up from its end
  to the end of the next.
* `Reported` is a period with its one row and its one total, and `ReportedOnce` is what the jobs are
  meant for.
* `Timely` says what a step may not do: let the end of a period pass while the one before it is
  unreported, and lose a report it has sent.  `reported_once` is about the runs of such steps.
-/

namespace Jkannel.Reporting

open List
open Function (update update_self update_of_ne)
open Transaction
open Platform (Connection tenantTransaction)
open Engine (SqlboxRow)

/-! ## The calendar -/

/-- How long a period is. -/
def ReportPeriodType.length : ReportPeriodType → ℤ
  | .daily => DAY
  | .weekly => 7 * DAY

/-- A day begins at midnight, a week at midnight on Monday. -/
def Begins : ReportPeriodType → ℤ → Prop
  | .daily, start => start % DAY = 0
  | .weekly, start => start % DAY = 0 ∧ getUTCDay start = 1

/-- A UTC day, or an ISO week. -/
structure ReportPeriod.Whole (p : ReportPeriod) : Prop where
  begins : Begins p.type p.start
  ends : p.end_ = p.start + p.type.length

/-- The end of the period after it. -/
def ReportPeriod.nextEnd (p : ReportPeriod) : ℤ := p.end_ + p.type.length

variable {p : ReportPeriod} {now : ℤ}

/-- A period that is over, but not the one after it, is one a tick takes up. -/
theorem mem_periodsAt (hwhole : p.Whole) (hover : p.end_ ≤ now)
    (hlast : now < p.nextEnd) : p ∈ periodsAt now := by
  obtain ⟨type, start, end_⟩ := p
  obtain ⟨hbegins, hends⟩ := hwhole
  cases type with
  | daily =>
    simp only [Begins, ReportPeriodType.length, ReportPeriod.nextEnd] at hbegins hends hlast hover
    have hstart : utcMidnight now = end_ := by
      rw [utcMidnight]
      rw [DAY] at *
      omega
    refine mem_cons.mpr (.inl ?_)
    rw [previousDay, hstart]
    congr 1
    omega
  | weekly =>
    simp only [Begins, getUTCDay, ReportPeriodType.length,
      ReportPeriod.nextEnd] at hbegins hends hlast hover
    have hstart : utcMidnight now - (getUTCDay (utcMidnight now) + 6) % 7 * DAY = end_ := by
      have hday : now / DAY * DAY / DAY = now / DAY := Int.mul_ediv_cancel _ (by decide)
      rw [utcMidnight, getUTCDay, hday]
      rw [DAY] at *
      omega
    refine mem_cons.mpr (.inr (mem_singleton.mpr ?_))
    rw [previousIsoWeek, hstart]
    congr 1
    omega

theorem nextEnd_emod (h : p.Whole) : p.nextEnd % DAY = 0 := by
  obtain ⟨type, start, end_⟩ := p
  obtain ⟨hbegins, hends⟩ := h
  cases type with
  | daily | weekly =>
    simp only [Begins, ReportPeriodType.length] at hbegins hends
    simp only [ReportPeriod.nextEnd, ReportPeriodType.length]
    rw [DAY] at *
    omega

/-! ## What the jobs are for -/

def Tables.snapshotsOf (t : Tables) (run : ReportJobRun) (scope : SnapshotScope) :
    List ReportSnapshot :=
  t.snapshots.filter fun row => row.run = run ∧ row.scope = scope

/-- The period has one row, and one total, which is the sum over its SMSCs. -/
structure Reported (t : Tables) (run : ReportJobRun) : Prop where
  once : t.runs.count run = 1
  total : ∃ row, t.snapshotsOf run .total = [row] ∧
    row.messageCount = ((t.snapshotsOf run .smsc).map ReportSnapshot.messageCount).sum ∧
    row.dlrCount = ((t.snapshotsOf run .smsc).map ReportSnapshot.dlrCount).sum

/-- Who is told what by a notification. -/
def UserNotification.key (n : UserNotification) : String × ReportJobRun := (n.userId, n.data.run)

/-- Which channel was given which report. -/
def SentReport.key (d : SentReport) : String × ReportJobRun := (d.channelId, d.payload.data.run)

def State.sentFor (s : State) (tenantId : ℕ) : List SentReport :=
  s.sent.filter fun d => d.tenantId = tenantId

/-- What the jobs are for. -/
structure ReportedOnce (tenantId : ℕ) (s : State) : Prop where
  /-- At the end of a tick in which nothing failed, everything that has ended since the first tick
  is reported. -/
  covered : ∀ replica tick first, s.ticking replica = some tick → tick.remaining = [] →
    tick.failed = false → tenantId ∈ tick.tenants → s.firstTick tenantId = some first →
    ∀ p : ReportPeriod, p.Whole → first < p.end_ → p.end_ ≤ tick.now →
      Reported (s.tables tenantId) p.run
  notified : ((s.tables tenantId).notifications.map UserNotification.key).Nodup
  delivered : ((s.sentFor tenantId).map SentReport.key).Nodup

/-- What a step may not do to a tenant. -/
def Timely (tenantId : ℕ) (s : State) : Action → Prop
  | .advance ms => ∀ first, s.firstTick tenantId = some first → ∀ p : ReportPeriod, p.Whole →
      first < p.end_ → s.now < p.nextEnd → p.nextEnd ≤ s.now + ms →
        p.run ∈ (s.tables tenantId).runs
  | .generate replica conn world => ∀ tick period remaining, s.ticking replica = some tick →
      tick.remaining = (tenantId, period) :: remaining →
        ¬ Lossy conn world period (s.tables tenantId)
  | _ => True

/-! ## The tables -/

/-- What the tables of a tenant, and the reports that were sent for it, look like. -/
structure Consistent (t : Tables) (sent : List SentReport) : Prop where
  complete : ∀ run ∈ t.runs, Reported t run
  snapshots : ∀ row ∈ t.snapshots, row.run ∈ t.runs
  notifications : ∀ n ∈ t.notifications, n.data.run ∈ t.runs
  notified : (t.notifications.map UserNotification.key).Nodup
  handed : ∀ d ∈ sent, d.payload.data.run ∈ t.runs
  delivered : (sent.map SentReport.key).Nodup

theorem Consistent.empty : Consistent .empty [] where
  complete _ h := absurd h not_mem_nil
  snapshots _ h := absurd h not_mem_nil
  notifications _ h := absurd h not_mem_nil
  notified := nodup_nil
  handed _ h := absurd h not_mem_nil
  delivered := nodup_nil

section Report

variable {world : World} {rows : List SqlboxRow} {period : ReportPeriod} {t : Tables}
  {sent : List SentReport} {tenantId : ℕ} {run : ReportJobRun}

theorem snapshotsOf_reported_of_ne (h : run ≠ period.run) (scope : SnapshotScope) :
    (reported world rows period t).snapshotsOf run scope = t.snapshotsOf run scope := by
  have hnone : (reportRows world rows period).filter
      (fun row => row.run = run ∧ row.scope = scope) = [] := by
    refine filter_eq_nil_iff.mpr fun row hrow hmatch => h ?_
    rw [← run_of_mem_reportRows hrow, (of_decide_eq_true hmatch).1]
  rw [Tables.snapshotsOf, reported, filter_append, hnone, append_nil]
  rfl

theorem snapshotsOf_reported (hsnapshots : ∀ row ∈ t.snapshots, row.run ∈ t.runs)
    (hnew : period.run ∉ t.runs) (scope : SnapshotScope) :
    (reported world rows period t).snapshotsOf period.run scope =
      (reportRows world rows period).filter fun row => row.scope = scope := by
  have hold : t.snapshots.filter (fun row => row.run = period.run ∧ row.scope = scope) = [] := by
    refine filter_eq_nil_iff.mpr fun row hrow hmatch => hnew ?_
    rw [← (of_decide_eq_true hmatch).1]
    exact hsnapshots row hrow
  rw [Tables.snapshotsOf, reported, filter_append, hold, nil_append]
  refine filter_congr fun row hrow => ?_
  rw [run_of_mem_reportRows hrow]
  simp

theorem total_of_reportRows :
    (reportRows world rows period).filter (fun row => row.scope = .total) =
      [totalSnapshot world.smscs (periodVolume world rows period) period] := by
  simp [reportRows, totalSnapshot, smscSnapshot, routeSnapshot, snapshot, filter_map,
    Function.comp_def]

theorem smscs_of_reportRows :
    (reportRows world rows period).filter (fun row => row.scope = .smsc) =
      world.smscs.map (smscSnapshot (periodVolume world rows period) period) := by
  simp [reportRows, totalSnapshot, smscSnapshot, routeSnapshot, snapshot, filter_map,
    Function.comp_def]

/-- The report of a period that had none is complete. -/
theorem reported_self (hsnapshots : ∀ row ∈ t.snapshots, row.run ∈ t.runs)
    (hnew : period.run ∉ t.runs) : Reported (reported world rows period t) period.run := by
  have htotal : (reported world rows period t).snapshotsOf period.run .total = _ :=
    (snapshotsOf_reported hsnapshots hnew .total).trans total_of_reportRows
  have hsmsc : (reported world rows period t).snapshotsOf period.run .smsc = _ :=
    (snapshotsOf_reported hsnapshots hnew .smsc).trans smscs_of_reportRows
  refine ⟨?_, _, htotal, ?_, ?_⟩
  · rw [reported, count_append, count_eq_zero_of_not_mem hnew, count_singleton_self]
  · rw [hsmsc, map_map]
    have hsum : (periodVolume world rows period).messages = _ :=
      volumeSummary_messages world.engineIds_nodup
    rwa [map_map] at hsum
  · rw [hsmsc, map_map]
    have hsum : (periodVolume world rows period).dlrs = _ :=
      volumeSummary_dlrs world.engineIds_nodup
    rwa [map_map] at hsum

theorem Reported.frame (h : Reported t run) (hne : run ≠ period.run) :
    Reported (reported world rows period t) run where
  once := by
    rw [reported, count_append, h.once, count_singleton, if_neg (by simpa using hne.symm)]
  total := by
    rw [snapshotsOf_reported_of_ne hne, snapshotsOf_reported_of_ne hne]
    exact h.total

/-- A call that goes through leaves the tables as they should be. -/
theorem Consistent.extend (h : Consistent t sent) (hnew : period.run ∉ t.runs) :
    Consistent (reported world rows period t)
      (sent ++ sentReports tenantId world (payloadOf world rows period)
        (optedInChannels world)) where
  complete := by
    intro run hrun
    rcases mem_append.mp hrun with hrun | hrun
    · exact (h.complete run hrun).frame fun heq => hnew (heq ▸ hrun)
    · rw [mem_singleton.mp hrun]
      exact reported_self h.snapshots hnew
  snapshots := by
    intro row hrow
    rcases mem_append.mp hrow with hrow | hrow
    · exact mem_append_left _ (h.snapshots row hrow)
    · exact mem_append_right _ (mem_singleton.mpr (run_of_mem_reportRows hrow))
  notifications := by
    intro n hn
    rcases mem_append.mp hn with hn | hn
    · exact mem_append_left _ (h.notifications n hn)
    · obtain ⟨user, -, rfl⟩ := mem_map.mp hn
      exact mem_append_right _ mem_cons_self
  notified := by
    have hnotifications : (notificationsOf world rows period).map UserNotification.key =
        (recipients world.grants).map fun user => (user, period.run) := map_map ..
    have hdistinct : ((recipients world.grants).map fun user => (user, period.run)).Nodup :=
      (nodup_dedup _).map fun a b heq => congrArg Prod.fst heq
    rw [reported, map_append, hnotifications]
    refine nodup_append.mpr ⟨h.notified, hdistinct, fun a ha b hb hab => hnew ?_⟩
    obtain ⟨n, hn, rfl⟩ := mem_map.mp ha
    obtain ⟨user, -, rfl⟩ := mem_map.mp hb
    have hrun : n.data.run = period.run := congrArg Prod.snd hab
    exact hrun ▸ h.notifications n hn
  handed := by
    intro d hd
    rcases mem_append.mp hd with hd | hd
    · exact mem_append_left _ (h.handed d hd)
    · obtain ⟨channel, -, rfl⟩ := mem_map.mp hd
      exact mem_append_right _ mem_cons_self
  delivered := by
    have hsent : (sentReports tenantId world (payloadOf world rows period)
        (optedInChannels world)).map SentReport.key =
          (((optedInChannels world).filter fun channel => (world.handOver channel).sent).map
            fun channel => channel.id).map fun id => (id, period.run) := by
      rw [sentReports, map_map, map_map]
      rfl
    have hsublist : ((optedInChannels world).filter fun channel =>
        (world.handOver channel).sent).Sublist world.channels :=
      filter_sublist.trans (filter_sublist.trans filter_sublist)
    rw [map_append, hsent]
    refine nodup_append.mpr ⟨h.delivered, ?_, fun a ha b hb hab => hnew ?_⟩
    · exact (world.channelIds_nodup.sublist (hsublist.map _)).map fun a b heq =>
        congrArg Prod.fst heq
    · obtain ⟨d, hd, rfl⟩ := mem_map.mp ha
      obtain ⟨id, -, rfl⟩ := mem_map.mp hb
      have hrun : d.payload.data.run = period.run := congrArg Prod.snd hab
      exact hrun ▸ h.handed d hd

end Report

/-! ## The runs -/

/-- What holds all along. -/
structure Invariant (tenantId : ℕ) (s : State) : Prop where
  consistent : Consistent (s.tables tenantId) (s.sentFor tenantId)
  /-- Every period but the last is reported. -/
  behind : ∀ first, s.firstTick tenantId = some first → ∀ p : ReportPeriod, p.Whole →
    first < p.end_ → p.nextEnd ≤ s.now → p.run ∈ (s.tables tenantId).runs
  started : ∀ replica tick, s.ticking replica = some tick → tick.now ≤ s.now
  /-- A tick has the last periods before it, or has reported them, unless something failed. -/
  taken : ∀ replica tick, s.ticking replica = some tick → tenantId ∈ tick.tenants →
    ∀ p ∈ periodsAt tick.now, (tenantId, p) ∈ tick.remaining ∨ tick.failed = true ∨
      p.run ∈ (s.tables tenantId).runs

section Runs

variable {tenantId : ℕ} {s s' : State} {sent : List SentReport} {period : ReportPeriod}

theorem Invariant.initial (tenantId : ℕ) (now : ℤ) : Invariant tenantId (.initial now) where
  consistent := .empty
  behind _ h := by cases h
  started _ _ h := by cases h
  taken _ _ h := by cases h

theorem end_lt_nextEnd (p : ReportPeriod) : p.end_ < p.nextEnd := by
  have hlength : 0 < p.type.length := by
    cases p.type with
    | daily | weekly => decide
  rw [ReportPeriod.nextEnd]
  omega

theorem Invariant.advance (h : Invariant tenantId s) {ms : ℕ}
    (htimely : Timely tenantId s (.advance ms)) :
    Invariant tenantId { s with now := s.now + ms } where
  __ := h
  behind first hfirst p hwhole hsince hover := by
    by_cases hbefore : p.nextEnd ≤ s.now
    · exact h.behind first hfirst p hwhole hsince hbefore
    · exact htimely first hfirst p hwhole hsince (not_le.mp hbefore) hover
  started replica tick htick :=
    (h.started replica tick htick).trans (le_add_of_nonneg_right (Int.natCast_nonneg ms))

/-- A tick takes up both periods of every enabled tenant. -/
theorem mem_start {rows : List TenantRow} (h : tenantId ∈ enabledTenants rows)
    (hp : p ∈ periodsAt now) :
    (tenantId, p) ∈ (Tick.start now rows).remaining :=
  mem_flatMap.mpr ⟨tenantId, h, mem_map_of_mem hp⟩

theorem Invariant.start (h : Invariant tenantId s) (replica : ℕ) (rows : List TenantRow) :
    Invariant tenantId { s with
      ticking := update s.ticking replica (some (Tick.start s.now rows))
      firstTick := fun tenant =>
        if tenant ∈ enabledTenants rows then some ((s.firstTick tenant).getD s.now)
        else s.firstTick tenant } where
  consistent := h.consistent
  behind first hfirst p hwhole hsince hover := by
    dsimp only at hfirst hover
    split at hfirst
    · cases hold : s.firstTick tenantId with
      | some old =>
        rw [hold] at hfirst
        exact h.behind first (hold.trans hfirst) p hwhole hsince hover
      | none =>
        rw [hold] at hfirst
        cases hfirst
        exact absurd (end_lt_nextEnd p) (not_lt.mpr (hover.trans hsince.le))
    · exact h.behind first hfirst p hwhole hsince hover
  started r tick htick := by
    rcases Updates.update_eq_some htick with ⟨-, rfl⟩ | ⟨-, htick⟩
    · exact le_rfl
    · exact h.started r tick htick
  taken r tick htick hmem p hp := by
    rcases Updates.update_eq_some htick with ⟨-, rfl⟩ | ⟨-, htick⟩
    · exact .inl (mem_start hmem hp)
    · exact h.taken r tick htick hmem p hp

/-- A replica ends its tick. -/
theorem Invariant.release (h : Invariant tenantId s) (replica : ℕ) :
    Invariant tenantId { s with ticking := update s.ticking replica none } where
  __ := h
  started r tick htick := h.started r tick (Updates.erase_eq_some htick).2
  taken r tick htick := h.taken r tick (Updates.erase_eq_some htick).2

/-- What a call leaves of the tenant it is for. -/
theorem Consistent.call {conn : Connection String} {world : World} {t : Tables}
    (h : Consistent t (sent.filter fun d => d.tenantId = tenantId))
    (hlossy : ¬ Lossy conn world period t) :
    Consistent (tenantTransaction conn (generateForTenant tenantId world period) t sent).2.1
        ((tenantTransaction conn (generateForTenant tenantId world period) t sent).2.2.filter
          fun d => d.tenantId = tenantId) ∧
      t.runs ⊆
        (tenantTransaction conn (generateForTenant tenantId world period) t sent).2.1.runs := by
  rcases call_spec h.snapshots hlossy with hcall | ⟨hnew, rows, -, hcall⟩
  · rw [hcall]
    exact ⟨h, fun _ hrun => hrun⟩
  · rw [hcall]
    have hsent : (sentReports tenantId world (payloadOf world rows period)
        (optedInChannels world)).filter (fun d => d.tenantId = tenantId) =
          sentReports tenantId world (payloadOf world rows period) (optedInChannels world) := by
      refine filter_eq_self.mpr fun d hd => ?_
      obtain ⟨channel, -, rfl⟩ := mem_map.mp hd
      exact decide_eq_true rfl
    rw [filter_append, hsent]
    exact ⟨h.extend hnew, subset_append_left _ _⟩

section

variable (h : Invariant tenantId s)
include h

/-- A replica makes the next of its calls. -/
theorem Invariant.call {replica tenant : ℕ} {tenants : List ℕ} {remaining : List (ℕ × ReportPeriod)}
    {failed failed' : Bool} {tables : ℕ → Tables}
    (htick : s.ticking replica = some ⟨now, tenants, (tenant, period) :: remaining, failed⟩)
    (hconsistent : Consistent (tables tenantId) (sent.filter fun d => d.tenantId = tenantId))
    (hruns : (s.tables tenantId).runs ⊆ (tables tenantId).runs)
    (hfailed : failed = true → failed' = true)
    (hdone : tenantId = tenant → failed' = true ∨ period.run ∈ (tables tenantId).runs) :
    Invariant tenantId { s with
      tables := tables
      sent := sent
      ticking :=
        update s.ticking replica (some ⟨now, tenants, remaining, failed'⟩) } where
  consistent := hconsistent
  behind first hfirst p hwhole hsince hover := hruns (h.behind first hfirst p hwhole hsince hover)
  started r tick hr := by
    rcases Updates.update_eq_some hr with ⟨-, rfl⟩ | ⟨-, hr⟩
    · have hstarted := h.started replica _ htick
      exact hstarted
    · exact h.started r tick hr
  taken r tick hr hmem p hp := by
    rcases Updates.update_eq_some hr with ⟨-, rfl⟩ | ⟨-, hr⟩
    · rcases h.taken replica _ htick hmem p hp with hremaining | hold | hrun
      · rcases mem_cons.mp hremaining with heq | hremaining
        · obtain ⟨htenant, rfl⟩ := Prod.mk.inj heq
          exact .inr (hdone htenant)
        · exact .inl hremaining
      · exact .inr (.inl (hfailed hold))
      · exact .inr (.inr (hruns hrun))
    · rcases h.taken r tick hr hmem p hp with hremaining | hold | hrun
      · exact .inl hremaining
      · exact .inr (.inl hold)
      · exact .inr (.inr (hruns hrun))

/-- **Every step keeps the invariant** that is timely. -/
theorem Invariant.step {a : Action} (htimely : Timely tenantId s a)
    (hs : step s a = some s') : Invariant tenantId s' := by
  cases a with
  | advance ms =>
    cases hs
    exact h.advance htimely
  | start replica available rows =>
    simp only [Reporting.step] at hs
    split at hs
    · exact Option.some.inj hs ▸ h
    · split at hs
      · exact Option.some.inj hs ▸ h.start replica rows
      · exact Option.some.inj hs ▸ h
  | generate replica conn world =>
    simp only [Reporting.step] at hs
    split at hs
    · next now tenants tenant period remaining failed htick =>
      cases hs
      by_cases hne : tenantId = tenant
      · subst hne
        obtain ⟨hconsistent, hruns⟩ := h.consistent.call (htimely _ period remaining htick rfl)
        refine h.call htick ?_ ?_ (fun hfailed => by simp [hfailed]) fun _ => ?_
        · rw [update_self]
          exact hconsistent
        · rw [update_self]
          exact hruns
        · rw [update_self]
          cases hsmooth : smooth conn (generateForTenant tenantId world period) (s.tables tenantId)
              s.sent with
          | true => exact .inr (run_mem_of_smooth h.consistent.snapshots hsmooth)
          | false => exact .inl (by simp)
      · refine h.call htick ?_ ?_ (fun hfailed => by simp [hfailed]) fun heq => absurd heq hne
        · rw [update_of_ne hne, call_others hne]
          exact h.consistent
        · rw [update_of_ne hne]
          exact List.Subset.refl _
    · cases hs
  | finish replica =>
    simp only [Reporting.step] at hs
    split at hs
    · exact Option.some.inj hs ▸ h.release replica
    · cases hs
  | stop replica =>
    cases hs
    exact h.release replica

/-- What the jobs are for follows. -/
theorem Invariant.reportedOnce : ReportedOnce tenantId s where
  covered replica tick first htick hremaining hfailed hmem hfirst p hwhole hsince hover := by
    refine h.consistent.complete _ ?_
    by_cases hlast : tick.now < p.nextEnd
    · rcases h.taken replica tick htick hmem p (mem_periodsAt hwhole hover hlast) with
        hcall | hcall | hrun
      · rw [hremaining] at hcall
        exact absurd hcall not_mem_nil
      · rw [hfailed] at hcall
        cases hcall
      · exact hrun
    · exact h.behind first hfirst p hwhole hsince
        ((not_lt.mp hlast).trans (h.started replica tick htick))
  notified := h.consistent.notified
  delivered := h.consistent.delivered

end

/-- **When every period is reported once**: in every run in which no period ends before the one
before it is reported, and no report is lost that was sent. -/
theorem reported_once (tenantId : ℕ) (now : ℤ) (as : List Action)
    (hrun : system.run (.initial now) as = some s)
    (htimely : system.Along (Timely tenantId) (.initial now) as) : ReportedOnce tenantId s :=
  (system.invariant_along (fun _ _ _ h hP hs => h.step hP hs) (Invariant.initial tenantId now)
    htimely hrun : Invariant tenantId s).reportedOnce

end Runs

/-- A connection nothing goes wrong with, up to the `COMMIT`. -/
def sound (commit : Platform.Commit String) : Connection String where
  statement _ := none
  aborted := "current transaction is aborted"
  free := true
  connect := none
  start := none
  setConfig := none
  commit := commit
  rollback := none

def webhook : ReportChannel where
  id := "hook"
  name := "operations"
  type := "webhook"
  enabled := true
  severities := []
  config := [("url", "https://hooks.example/reports")]
  createdAt := 0
  categories := none

/-- A tenant with one SMSC, one subscriber and one webhook that answers. -/
def quiet : World where
  smscs := [⟨"s", "mtn", "MTN"⟩]
  engineIds_nodup := nodup_singleton _
  routes := []
  routeIds_nodup := nodup_nil
  grants := [⟨"u", "active", "reports.view"⟩]
  channels := [webhook]
  channelIds_nodup := nodup_singleton _
  sentSms := .ok []
  handOver channel := ⟨true, .ok ⟨channel.id, channel.type, .succeeded, none, "200"⟩⟩

theorem not_lossy_sound (period : ReportPeriod) (t : Tables) :
    ¬ Lossy (sound .ok) quiet period t := by
  rintro ⟨-, -, ⟨e, h⟩ | ⟨c, -, e, h⟩ | ⟨k, -, -, h⟩⟩
  · cases h
  · cases h
  · exact h rfl

/-- Noon of a Wednesday. -/
def wednesday : ℤ := 1783512000000

/-- A tick of a replica, with the commits of its two calls. -/
def tick (daily weekly : Platform.Commit String) : List Action :=
  [.start 0 true [⟨7, true, false⟩], .generate 0 (sound daily) quiet,
    .generate 0 (sound weekly) quiet]

/-- What has to be reported before one o'clock on Friday: the Wednesday alone. -/
theorem due_wednesday (hwhole : p.Whole) (hfirst : wednesday < p.end_)
    (hnext : p.nextEnd ≤ 1783645200000) :
    p.run = ⟨.daily, 1783468800000⟩ ∧ p.nextEnd = 1783641600000 := by
  have hmidnight := nextEnd_emod hwhole
  have hends := hwhole.ends
  obtain ⟨type, start, end_⟩ := p
  cases type with
  | daily =>
    simp only [ReportPeriod.nextEnd, ReportPeriodType.length, wednesday, DAY] at *
    obtain rfl : start = 1783468800000 := by omega
    exact ⟨rfl, by omega⟩
  | weekly =>
    simp only [ReportPeriod.nextEnd, ReportPeriodType.length, wednesday, DAY] at *
    omega

/-- Ticks on three days: on Wednesday at noon, and at one o'clock on Thursday and on Friday. -/
def threeDays : List Action :=
  tick .ok .ok ++ [.finish 0, .advance 46800000] ++ tick .ok .ok ++
    [.finish 0, .advance 86400000] ++ tick .ok .ok

/-- The Wednesday and the Thursday are reported. -/
theorem reported_once_wednesday : ∃ s, system.run (.initial wednesday) threeDays = some s ∧
    ReportedOnce 7 s := by
  have hsound : ∀ {s : State}, Timely 7 s (.generate 0 (sound .ok) quiet) :=
    fun _ _ _ _ _ => not_lossy_sound _ _
  refine ⟨_, rfl, reported_once 7 wednesday threeDays rfl ?_⟩
  refine system.along_cons rfl trivial (system.along_cons rfl hsound (system.along_cons rfl hsound
    (system.along_cons rfl trivial (system.along_cons rfl ?_ (system.along_cons rfl trivial
    (system.along_cons rfl hsound (system.along_cons rfl hsound (system.along_cons rfl trivial
    (system.along_cons rfl ?_ (system.along_cons rfl trivial (system.along_cons rfl hsound
    (system.along_cons rfl hsound trivial))))))))))))
  · rintro first ⟨⟩ p hwhole hfirst _ hafter
    have hone : p.nextEnd ≤ 1783558800000 := hafter
    have hend := (due_wednesday hwhole hfirst (hone.trans (by decide))).2
    exact absurd (hend ▸ hone) (by decide)
  · rintro first ⟨⟩ p hwhole hfirst _ hafter
    have hone : p.nextEnd ≤ 1783645200000 := hafter
    exact (congrArg (· ∈ _) (due_wednesday hwhole hfirst hone).1).mpr
      (mem_of_elem_eq_true rfl)

/-- After three days without a tick the Wednesday is never reported; and when the `COMMIT` is
refused, the webhook gets the report twice. -/
theorem missed_and_doubled :
    (∃ s, system.run (.initial wednesday)
        (tick .ok .ok ++ [.finish 0, .advance 259200000] ++ tick .ok .ok) = some s ∧
      ¬ ReportedOnce 7 s) ∧
    ∃ s, system.run (.initial wednesday)
        (tick (.refused "disk full") .ok ++ [.finish 0] ++ tick .ok .ok) = some s ∧
      ¬ ReportedOnce 7 s := by
  refine ⟨?_, ?_⟩
  · have hmissed : (system.run (.initial wednesday)
        (tick .ok .ok ++ [.finish 0, .advance 259200000] ++ tick .ok .ok)).map
          (fun s => (s.ticking 0, s.firstTick 7, (s.tables 7).runs)) =
        some (some ⟨1783771200000, [7], [], false⟩, some 1783512000000,
          [⟨.daily, 1783382400000⟩, ⟨.weekly, 1782691200000⟩, ⟨.daily, 1783641600000⟩]) := by
      decide +kernel
    obtain ⟨s, hrun, hs⟩ := Option.map_eq_some_iff.mp hmissed
    obtain ⟨htick, hrest⟩ := Prod.mk.inj hs
    obtain ⟨hfirst, hruns⟩ := Prod.mk.inj hrest
    refine ⟨s, hrun, fun h => ?_⟩
    have hday : ReportPeriod.Whole ⟨.daily, 1783468800000, 1783555200000⟩ :=
      ⟨by rw [Begins, DAY]; rfl, rfl⟩
    have hreported := h.covered 0 _ _ htick rfl rfl mem_cons_self hfirst _ hday (by decide)
      (by decide)
    have honce := hreported.once
    rw [hruns] at honce
    exact absurd honce (by decide)
  · have hdoubled : (system.run (.initial wednesday)
        (tick (.refused "disk full") .ok ++ [.finish 0] ++ tick .ok .ok)).map
          (fun s => (s.sentFor 7).map SentReport.key) =
        some [("hook", ⟨.daily, 1783382400000⟩), ("hook", ⟨.weekly, 1782691200000⟩),
          ("hook", ⟨.daily, 1783382400000⟩)] := by
      decide +kernel
    obtain ⟨s, hrun, hs⟩ := Option.map_eq_some_iff.mp hdoubled
    refine ⟨s, hrun, fun h => ?_⟩
    have hdelivered := h.delivered
    rw [hs] at hdelivered
    exact absurd hdelivered (by decide)

end Jkannel.Reporting

