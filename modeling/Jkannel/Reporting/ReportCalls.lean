import Jkannel.Reporting.ReportJobs

/-!
# What a call comes to

A call of the report job either does nothing that stays, or it does everything: the claim, the
snapshots, the notifications.  The reports it hands to channels stay in any case.

* `volumeSummary_messages` and `volumeSummary_dlrs`: the volume of a period is the sum over the
  SMSCs that were asked for.
* `reported` is what a call that goes through makes of the tables, and `sentReports` what it sends.
* `Lossy` says which calls send something and keep nothing.  `call_spec` is what every other call
  comes to.
-/

namespace Jkannel.Reporting

open List
open Transaction
open Platform (Connection tenantTransaction worked)
open Engine (SqlboxRow)
open Work (bind_eq pure_eq bind_assoc brittle_statement brittle_each keeps_statement keeps_each run_bind)
open ReportChannel (optedIn)

/-! ## The volume adds up -/

section Volume

variable {rows : List SqlboxRow} {fromEpoch toEpoch : ℤ} {ids : List String}

/-- The groups of the query. -/
def groupKeys (rows : List SqlboxRow) (fromEpoch toEpoch : ℤ) (ids : List String) :
    List (Option String) :=
  ((rows.filter (inVolume fromEpoch toEpoch ids)).map SqlboxRow.smscId).dedup

theorem mem_groupKeys {k : Option String} (h : k ∈ groupKeys rows fromEpoch toEpoch ids) :
    ∃ s ∈ ids, k = some s := by
  obtain ⟨row, hrow, rfl⟩ := mem_map.mp (mem_dedup.mp h)
  have hin := (mem_filter.mp hrow).2
  rw [inVolume, Bool.and_eq_true] at hin
  cases hs : row.smscId with
  | none =>
    rw [hs] at hin
    cases hin.2
  | some s =>
    rw [hs] at hin
    exact ⟨s, contains_iff_mem.mp hin.2, rfl⟩

/-- The row of a group. -/
def groupRow (rows : List SqlboxRow) (fromEpoch toEpoch : ℤ) (ids : List String)
    (smscId : Option String) : VolumeBySmsc :=
  ⟨smscId.getD "unknown", countMessages (rows.filter (inVolume fromEpoch toEpoch ids)) smscId,
    countDlrs (rows.filter (inVolume fromEpoch toEpoch ids)) smscId⟩

theorem volumeSummary_bySmsc : (volumeSummary rows fromEpoch toEpoch ids).bySmsc =
    (groupKeys rows fromEpoch toEpoch ids).map (groupRow rows fromEpoch toEpoch ids) := by
  rw [volumeSummary]
  split
  · next hnil =>
    have hkeys : groupKeys rows fromEpoch toEpoch ids = [] := by
      refine eq_nil_iff_forall_not_mem.mpr fun k hk => ?_
      obtain ⟨s, hs, -⟩ := mem_groupKeys hk
      rw [hnil] at hs
      exact not_mem_nil hs
    rw [hkeys]
    rfl
  · rfl

theorem volumeSummary_get (s : String) : (volumeSummary rows fromEpoch toEpoch ids).get s =
    if some s ∈ groupKeys rows fromEpoch toEpoch ids then
      some (groupRow rows fromEpoch toEpoch ids (some s))
    else none := by
  rw [Volume.get, volumeSummary_bySmsc]
  split
  · next hmem =>
    cases hfind : List.find? (fun row : VolumeBySmsc => row.smscId = s) _ with
    | none =>
      have := find?_eq_none.mp hfind _
        (mem_reverse.mpr (mem_map_of_mem (f := groupRow rows fromEpoch toEpoch ids) hmem))
      exact absurd (decide_eq_true rfl) this
    | some row =>
      have hs : row.smscId = s := by simpa using find?_some hfind
      obtain ⟨k, hk, rfl⟩ := mem_map.mp (mem_reverse.mp (mem_of_find?_eq_some hfind))
      obtain ⟨s', -, rfl⟩ := mem_groupKeys hk
      rw [← hs]
      rfl
  · next hmem =>
    refine find?_eq_none.mpr fun row hrow hs => hmem ?_
    obtain ⟨k, hk, rfl⟩ := mem_map.mp (mem_reverse.mp hrow)
    obtain ⟨s', -, rfl⟩ := mem_groupKeys hk
    have hs : s' = s := of_decide_eq_true hs
    rwa [← hs]

theorem sum_filter_map {α : Type} (p : α → Prop) [DecidablePred p] (f : α → ℕ) (l : List α) :
    ((l.filter p).map f).sum = (l.map fun a => if p a then f a else 0).sum := by
  induction l with
  | nil => rfl
  | cons a l ih =>
    by_cases h : p a
    · simp [h, ih]
    · simp [h, ih]

/-- The groups are the SMSCs that were asked for, those that are in the log. -/
theorem sum_groups (count : Option String → ℕ) (hids : ids.Nodup) :
    ((groupKeys rows fromEpoch toEpoch ids).map count).sum =
      (ids.map fun s =>
        if some s ∈ groupKeys rows fromEpoch toEpoch ids then count (some s) else 0).sum := by
  have hperm : (groupKeys rows fromEpoch toEpoch ids).Perm
      ((ids.filter fun s => some s ∈ groupKeys rows fromEpoch toEpoch ids).map some) := by
    refine (perm_ext_iff_of_nodup (nodup_dedup _)
      ((hids.filter _).map (Option.some_injective _))).mpr fun k => ⟨fun hk => ?_, fun hk => ?_⟩
    · obtain ⟨s, hs, rfl⟩ := mem_groupKeys hk
      exact mem_map_of_mem (mem_filter.mpr ⟨hs, decide_eq_true hk⟩)
    · obtain ⟨s, hs, rfl⟩ := mem_map.mp hk
      exact of_decide_eq_true (mem_filter.mp hs).2
  rw [(hperm.map count).sum_nat, map_map, sum_filter_map]
  rfl

/-- What is summed over the groups is summed over the SMSCs. -/
theorem volumeSummary_sum (figure : VolumeBySmsc → ℕ) (hids : ids.Nodup) :
    ((volumeSummary rows fromEpoch toEpoch ids).bySmsc.map figure).sum = (ids.map fun s =>
      (((volumeSummary rows fromEpoch toEpoch ids).get s).map figure).getD 0).sum := by
  rw [volumeSummary_bySmsc, map_map, sum_groups _ hids]
  refine congrArg List.sum (map_congr_left fun s _ => ?_)
  rw [volumeSummary_get]
  split <;> rfl

theorem volumeSummary_messages (hids : ids.Nodup) :
    (volumeSummary rows fromEpoch toEpoch ids).messages =
      (ids.map fun s => (((volumeSummary rows fromEpoch toEpoch ids).get s).map
        VolumeBySmsc.messages).getD 0).sum := by
  rw [← volumeSummary_sum _ hids, volumeSummary]
  split <;> rfl

theorem volumeSummary_dlrs (hids : ids.Nodup) :
    (volumeSummary rows fromEpoch toEpoch ids).dlrs = (ids.map fun s =>
      (((volumeSummary rows fromEpoch toEpoch ids).get s).map VolumeBySmsc.dlrs).getD 0).sum := by
  rw [← volumeSummary_sum _ hids, volumeSummary]
  split <;> rfl

end Volume

/-! ## The tables a call leaves -/

/-- The snapshots of a report. -/
def reportRows (world : World) (rows : List SqlboxRow) (period : ReportPeriod) :
    List ReportSnapshot :=
  let volume := periodVolume world rows period
  totalSnapshot world.smscs volume period :: (world.smscs.map (smscSnapshot volume period) ++
    world.routes.map (routeSnapshot world.smscs volume period))

/-- The channels a report is for. -/
def optedInChannels (world : World) : List ReportChannel :=
  (externalChannels world.channels).filter optedIn

def payloadOf (world : World) (rows : List SqlboxRow) (period : ReportPeriod) :
    DeliverablePayload :=
  let volume := periodVolume world rows period
  reportPayload period volume.messages volume.dlrs

def notificationsOf (world : World) (rows : List SqlboxRow) (period : ReportPeriod) :
    List UserNotification :=
  let volume := periodVolume world rows period
  (recipients world.grants).map (notification period volume.messages volume.dlrs)

def deliveriesOf (world : World) (channels : List ReportChannel) : List ReportDelivery :=
  channels.filterMap fun channel => (world.handOver channel).attempt.toOption.map deliveryRow

/-- What leaves the process. -/
def sentReports (tenantId : ℕ) (world : World) (payload : DeliverablePayload)
    (channels : List ReportChannel) : List SentReport :=
  (channels.filter fun channel => (world.handOver channel).sent).map fun channel =>
    ⟨tenantId, channel.id, payload⟩

/-- The tables after a call that went through. -/
def reported (world : World) (rows : List SqlboxRow) (period : ReportPeriod) (t : Tables) :
    Tables where
  runs := t.runs ++ [period.run]
  snapshots := t.snapshots ++ reportRows world rows period
  notifications := t.notifications ++ notificationsOf world rows period
  deliveries := t.deliveries ++ deliveriesOf world (optedInChannels world)

theorem reportRows_nodup (world : World) (rows : List SqlboxRow) (period : ReportPeriod) :
    ((reportRows world rows period).map ReportSnapshot.key).Nodup := by
  have hsmscs : (world.smscs.map fun smsc => (smscSnapshot (periodVolume world rows period) period
      smsc).key).Nodup := by
    have : (fun smsc => (smscSnapshot (periodVolume world rows period) period smsc).key) =
        (fun id => (period.run, SnapshotScope.smsc, id)) ∘ SmscRow.engineId := rfl
    rw [this, ← map_map]
    exact world.engineIds_nodup.map fun a b h => congrArg (fun key => key.2.2) h
  have hroutes : (world.routes.map fun route => (routeSnapshot world.smscs
      (periodVolume world rows period) period route).key).Nodup := by
    have : (fun route => (routeSnapshot world.smscs (periodVolume world rows period) period
        route).key) = (fun id => (period.run, SnapshotScope.route, id)) ∘ RouteRow.id := rfl
    rw [this, ← map_map]
    exact world.routeIds_nodup.map fun a b h => congrArg (fun key => key.2.2) h
  rw [reportRows, map_cons, map_append, map_map, map_map, nodup_cons, nodup_append]
  refine ⟨fun h => ?_, hsmscs, hroutes, fun a ha b hb => ?_⟩
  · rcases mem_append.mp h with h | h
    · obtain ⟨smsc, -, h⟩ := mem_map.mp h
      exact SnapshotScope.noConfusion (congrArg (fun key => key.2.1) h)
    · obtain ⟨route, -, h⟩ := mem_map.mp h
      exact SnapshotScope.noConfusion (congrArg (fun key => key.2.1) h)
  · obtain ⟨smsc, -, rfl⟩ := mem_map.mp ha
    obtain ⟨route, -, rfl⟩ := mem_map.mp hb
    exact fun h => SnapshotScope.noConfusion (congrArg (fun key => key.2.1) h)

theorem run_of_mem_reportRows {world : World} {rows : List SqlboxRow} {period : ReportPeriod}
    {row : ReportSnapshot} (h : row ∈ reportRows world rows period) : row.run = period.run := by
  rcases mem_cons.mp h with rfl | h
  · rfl
  · rcases mem_append.mp h with h | h
    · obtain ⟨smsc, -, rfl⟩ := mem_map.mp h
      rfl
    · obtain ⟨route, -, rfl⟩ := mem_map.mp h
      rfl

/-- Rows with new keys are appended. -/
theorem foldl_upsert {t : Tables} {rows : List ReportSnapshot}
    (hnodup : (rows.map ReportSnapshot.key).Nodup)
    (hnew : ∀ row ∈ rows, row.key ∉ t.snapshots.map ReportSnapshot.key) :
    rows.foldl (fun t row => (upsertSnapshot row t).2 t) t =
      { t with snapshots := t.snapshots ++ rows } := by
  induction rows generalizing t with
  | nil => rw [append_nil]; rfl
  | cons row rows ih =>
    have hone : (upsertSnapshot row t).2 t = { t with snapshots := t.snapshots ++ [row] } :=
      congrArg (fun snapshots => { t with snapshots := snapshots })
        (if_neg (hnew row mem_cons_self))
    rw [map_cons, nodup_cons] at hnodup
    rw [foldl_cons, hone, ih hnodup.2, append_assoc, singleton_append]
    intro other hother hmem
    rw [map_append, mem_append] at hmem
    rcases hmem with hmem | hmem
    · exact hnew other (mem_cons_of_mem _ hother) hmem
    · rw [map_singleton, mem_singleton] at hmem
      exact hnodup.1 (hmem ▸ mem_map_of_mem hother)

theorem foldl_insertNotification {α : Type} (f : α → UserNotification) (l : List α) (t : Tables) :
    l.foldl (fun t a => (insertNotification (f a) t).2 t) t =
      { t with notifications := t.notifications ++ l.map f } := by
  induction l generalizing t with
  | nil => rw [map_nil, append_nil]; rfl
  | cons a l ih =>
    rw [foldl_cons, ih]
    simp [insertNotification]

/-! ## Before the channels -/

/-- What a call does before it turns to the channels: the payload and the channels, if the period is
its own. -/
def recordReport (world : World) (period : ReportPeriod) :
    ReportWork (Option (DeliverablePayload × List ReportChannel)) := do
  let claimed ← Work.statement (claimRun period)
  if claimed = 0 then return none
  let smscs ← Work.statement (reading world.smscs)
  let routes ← Work.statement (reading world.routes)
  match world.sentSms with
  | .error e => Work.throw e
  | .ok rows =>
    let volume := periodVolume world rows period
    Work.statement (upsertSnapshot (totalSnapshot smscs volume period))
    Work.each (fun smsc => Work.statement (upsertSnapshot (smscSnapshot volume period smsc))) smscs
    Work.each (fun route =>
      Work.statement (upsertSnapshot (routeSnapshot smscs volume period route))) routes
    let users ← Work.statement (reading (recipients world.grants))
    Work.each (fun user => Work.statement
      (insertNotification (notification period volume.messages volume.dlrs user))) users
    let channels ← Work.statement (reading (externalChannels world.channels))
    return some (reportPayload period volume.messages volume.dlrs, channels)

/-- What it does with the channels. -/
def handOut (tenantId : ℕ) (world : World) :
    Option (DeliverablePayload × List ReportChannel) → ReportWork Bool
  | none => .done false
  | some (payload, channels) =>
    (Work.each (deliverToChannel tenantId world.handOver payload) channels).bind fun _ => .done true

theorem generateForTenant_eq (tenantId : ℕ) (world : World) (period : ReportPeriod) :
    generateForTenant tenantId world period =
      (recordReport world period).bind (handOut tenantId world) := by
  simp only [generateForTenant, recordReport, notifySubscribers, deliverToChannels, bind_eq,
    pure_eq, bind_assoc]
  refine congrArg _ (funext fun claimed => ?_)
  split
  · rfl
  · simp only [bind_assoc]
    refine congrArg _ (funext fun smscs => congrArg _ (funext fun routes => ?_))
    cases world.sentSms with
    | error e => rfl
    | ok rows => simp only [bind_assoc, Work.done_bind, handOut]

theorem recordReport_brittle (world : World) (period : ReportPeriod) :
    (recordReport world period).Brittle := by
  refine (brittle_statement _).bind fun claimed => ?_
  split
  · trivial
  · refine (brittle_statement _).bind fun smscs =>
      (brittle_statement _).bind fun routes => ?_
    cases world.sentSms with
    | error e => trivial
    | ok rows =>
      exact (brittle_statement _).bind fun _ =>
        (brittle_each (fun _ => brittle_statement _) _).bind fun _ =>
        (brittle_each (fun _ => brittle_statement _) _).bind fun _ =>
        (brittle_statement _).bind fun _ =>
        (brittle_each (fun _ => brittle_statement _) _).bind fun _ =>
        (brittle_statement _).bind fun _ => trivial

theorem recordReport_keeps (world : World) (period : ReportPeriod) (P : List SentReport → Prop) :
    (recordReport world period).Keeps P := by
  refine (keeps_statement _).bind fun claimed => ?_
  split
  · trivial
  · refine (keeps_statement _).bind fun smscs => (keeps_statement _).bind fun routes => ?_
    cases world.sentSms with
    | error e => trivial
    | ok rows =>
      exact (keeps_statement _).bind fun _ =>
        (keeps_each (fun _ => keeps_statement _) _).bind fun _ =>
        (keeps_each (fun _ => keeps_statement _) _).bind fun _ =>
        (keeps_statement _).bind fun _ =>
        (keeps_each (fun _ => keeps_statement _) _).bind fun _ =>
        (keeps_statement _).bind fun _ => trivial

/-- The statements before the first channel. -/
def statementsBefore (world : World) : ℕ :=
  6 + world.smscs.length + world.routes.length + (recipients world.grants).length

section Record

variable {faults : Faults String} {world : World} {rows : List SqlboxRow} {period : ReportPeriod}
  {t : Tables} {sent : List SentReport} {n : ℕ}

theorem recordReport_claimed (h : period.run ∈ t.runs) :
    (recordReport world period).run faults.cleared ⟨t, false⟩ sent 0 =
      ⟨.ok none, ⟨t, false⟩, sent, 1⟩ := by
  have hclaim : claimRun period t = (0, id) := if_pos h
  rw [recordReport, bind_eq, Work.run_statement_bind_cleared, hclaim]
  rfl

theorem recordReport_unreadable (hnew : period.run ∉ t.runs) {e : String}
    (hrows : world.sentSms = .error e) :
    ((recordReport world period).run faults.cleared ⟨t, false⟩ sent 0).result = .error e := by
  have hclaim : claimRun period t = (1, fun t => { t with runs := t.runs ++ [period.run] }) :=
    if_neg hnew
  rw [recordReport, bind_eq, Work.run_statement_bind_cleared, hclaim, if_neg one_ne_zero, hrows]
  rfl

theorem recordReport_cleared (hfresh : ∀ row ∈ t.snapshots, row.run ∈ t.runs)
    (hnew : period.run ∉ t.runs) (hrows : world.sentSms = .ok rows) :
    (recordReport world period).run faults.cleared ⟨t, false⟩ sent 0 =
      ⟨.ok (some (payloadOf world rows period, externalChannels world.channels)),
        ⟨{ reported world rows period t with deliveries := t.deliveries }, false⟩, sent,
        statementsBefore world⟩ := by
  have hclaim : claimRun period t = (1, fun t => { t with runs := t.runs ++ [period.run] }) :=
    if_neg hnew
  have hsnapshots : world.routes.foldl (fun t route => (upsertSnapshot (routeSnapshot world.smscs
        (periodVolume world rows period) period route) t).2 t)
      (world.smscs.foldl (fun t smsc => (upsertSnapshot (smscSnapshot
        (periodVolume world rows period) period smsc) t).2 t)
      ((upsertSnapshot (totalSnapshot world.smscs (periodVolume world rows period) period)
        { t with runs := t.runs ++ [period.run] }).2 { t with runs := t.runs ++ [period.run] })) =
      { t with
        runs := t.runs ++ [period.run]
        snapshots := t.snapshots ++ reportRows world rows period } := by
    rw [← foldl_upsert (t := { t with runs := t.runs ++ [period.run] }) (reportRows_nodup _ _ _),
      reportRows, foldl_cons, foldl_append, foldl_map, foldl_map]
    rintro row hrow hmem
    obtain ⟨old, hold, hkey⟩ := mem_map.mp hmem
    have hrun : old.run = row.run := congrArg Prod.fst hkey
    rw [run_of_mem_reportRows hrow] at hrun
    exact hnew (hrun ▸ hfresh old hold)
  rw [recordReport, bind_eq, Work.run_statement_bind_cleared, hclaim, if_neg one_ne_zero, hrows]
  simp only [bind_eq, pure_eq, Work.run_statement_bind_cleared,
    Work.run_each_bind_cleared, reading, id, Work.run]
  rw [hsnapshots, foldl_insertNotification]
  have hcount : 0 + 1 + 1 + 1 + 1 + world.smscs.length + world.routes.length + 1 +
      (recipients world.grants).length + 1 = statementsBefore world := by
    rw [statementsBefore]
    omega
  rw [hcount]
  rfl

/-! ## The channels -/

variable {tenantId : ℕ} {handOver : ReportChannel → HandOver} {payload : DeliverablePayload}
  {channel : ReportChannel} {channels : List ReportChannel}

theorem deliverToChannel_other (h : channel.optedIn = false) :
    deliverToChannel tenantId handOver payload channel = .done () :=
  if_neg (h ▸ Bool.false_ne_true)

theorem deliverToChannel_cleared {a : Monitoring.NotificationAttempt}
    (h : channel.optedIn = true) (ha : (handOver channel).attempt = .ok a) :
    (deliverToChannel tenantId handOver payload channel).run faults.cleared ⟨t, false⟩ sent n =
      ⟨.ok (), ⟨{ t with deliveries := t.deliveries ++ [deliveryRow a] }, false⟩,
        (deliverPayload tenantId handOver payload channel sent).2, n + 1⟩ := by
  have hanswer : (deliverPayload tenantId handOver payload channel sent).1 = .ok a := ha
  rw [deliverToChannel, if_pos h]
  simp only [bind_eq, Work.perform, Work.bind, Work.run, hanswer, Work.attempt]
  rfl

theorem deliverToChannel_throws {e : String} (h : channel.optedIn = true)
    (he : (handOver channel).attempt = .error e) :
    (deliverToChannel tenantId handOver payload channel).run faults.cleared ⟨t, false⟩ sent n =
      ⟨.error e, ⟨t, false⟩, (deliverPayload tenantId handOver payload channel sent).2, n⟩ := by
  have hanswer : (deliverPayload tenantId handOver payload channel sent).1 = .error e := he
  rw [deliverToChannel, if_pos h]
  simp only [bind_eq, Work.perform, Work.bind, Work.run, hanswer]

/-- The channels that are gone through when all of them answer. -/
theorem each_cleared
    (h : ∀ c ∈ channels, c.optedIn = true → ∃ a, (world.handOver c).attempt = .ok a) :
    (Work.each (deliverToChannel tenantId world.handOver payload) channels).run faults.cleared
        ⟨t, false⟩ sent n =
      ⟨.ok (), ⟨{ t with
          deliveries := t.deliveries ++
            deliveriesOf world (channels.filter optedIn) }, false⟩,
        sent ++ sentReports tenantId world payload (channels.filter optedIn),
        n + (channels.filter optedIn).length⟩ := by
  induction channels generalizing t sent n with
  | nil => simp [Work.each, Work.run, deliveriesOf, sentReports]
  | cons c channels ih =>
    have hrest := fun c' hc' => h c' (mem_cons_of_mem c hc')
    rw [Work.each, run_bind]
    cases hopted : c.optedIn with
    | false =>
      rw [deliverToChannel_other hopted, filter_cons_of_neg (by simp [hopted])]
      exact ih hrest
    | true =>
      obtain ⟨a, ha⟩ := h c mem_cons_self hopted
      rw [deliverToChannel_cleared hopted ha, filter_cons_of_pos hopted]
      dsimp only
      rw [ih hrest]
      cases hsent : (world.handOver c).sent with
      | false | true =>
        simp [deliveriesOf, sentReports, deliverPayload, ha, hsent, Except.toOption]; omega

/-- When they are gone through, all of them have answered. -/
theorem answered_of_each
    (h : ((Work.each (deliverToChannel tenantId handOver payload) channels).run faults.cleared
      ⟨t, false⟩ sent n).result = .ok ()) :
    ∀ c ∈ channels, c.optedIn = true → ∃ a, (handOver c).attempt = .ok a := by
  induction channels generalizing t sent n with
  | nil => exact fun c hc => absurd hc not_mem_nil
  | cons c channels ih =>
    rw [Work.each, run_bind] at h
    cases hopted : c.optedIn with
    | false =>
      rw [deliverToChannel_other hopted] at h
      intro c' hc' hopted'
      rcases mem_cons.mp hc' with rfl | hc'
      · rw [hopted] at hopted'
        cases hopted'
      · exact ih h c' hc' hopted'
    | true =>
      cases hattempt : (handOver c).attempt with
      | error e =>
        rw [deliverToChannel_throws hopted hattempt] at h
        cases h
      | ok a =>
        rw [deliverToChannel_cleared hopted hattempt] at h
        intro c' hc' hopted'
        rcases mem_cons.mp hc' with rfl | hc'
        · exact ⟨a, hattempt⟩
        · exact ih h c' hc' hopted'

/-- One of the channels sends the report before one fails to answer. -/
def sends (handOver : ReportChannel → HandOver) : List ReportChannel → Bool
  | [] => false
  | c :: channels =>
    if c.optedIn then
      (handOver c).sent || ((handOver c).attempt.toBool && sends handOver channels)
    else sends handOver channels

theorem keeps_of_not_sends (h : sends handOver channels = false) (P : List SentReport → Prop) :
    (Work.each (deliverToChannel tenantId handOver payload) channels).Keeps P := by
  induction channels with
  | nil => trivial
  | cons c channels ih =>
    rw [sends] at h
    cases hopted : c.optedIn with
    | false =>
      rw [if_neg (by simp [hopted])] at h
      rw [Work.each, deliverToChannel_other hopted]
      exact ih h
    | true =>
      rw [if_pos hopted, Bool.or_eq_false_iff] at h
      rw [Work.each, deliverToChannel, if_pos hopted]
      refine fun o ho => ⟨?_, ?_⟩
      · rw [deliverPayload, h.1]
        exact ho
      · cases hattempt : (handOver c).attempt with
        | error e =>
          have : (deliverPayload tenantId handOver payload c o).1 = .error e := hattempt
          rw [this]
          trivial
        | ok a =>
          have : (deliverPayload tenantId handOver payload c o).1 = .ok a := hattempt
          rw [this]
          rw [hattempt] at h
          exact fun r => ih h.2

/-- Reports of one tenant are sent for that tenant. -/
theorem keeps_others {other : ℕ} (hother : other ≠ tenantId) (found : List SentReport) :
    (Work.each (deliverToChannel tenantId handOver payload) channels).Keeps
      fun sent => sent.filter (fun d => d.tenantId = other) = found := by
  refine keeps_each (fun c => ?_) channels
  rw [deliverToChannel]
  split
  · refine fun o ho => ⟨?_, ?_⟩
    · rw [deliverPayload]
      split
      · rw [filter_append, ho, filter_cons_of_neg (by simpa using hother.symm),
          filter_nil, append_nil]
      · exact ho
    · generalize (deliverPayload tenantId handOver payload c o).1 = answer
      cases answer with
      | error e => trivial
      | ok a => exact fun r => trivial
  · trivial

end Record

/-! ## One call -/

/-- The call gets as far as the channels. -/
structure Reaches (conn : Connection String) (world : World) (period : ReportPeriod)
    (t : Tables) : Prop where
  opened : conn.Opened
  unclaimed : period.run ∉ t.runs
  readable : ∃ rows, world.sentSms = .ok rows
  granted : ∀ k < statementsBefore world, conn.statement k = none

/-- Something goes wrong from the channels on: the `COMMIT` is refused, the process stops, or a row
of `notification_deliveries` is. -/
def Broken (conn : Connection String) (world : World) : Prop :=
  (∃ e, conn.commit = .refused e) ∨
    (∃ c ∈ optedInChannels world, ∃ e, (world.handOver c).attempt = .error e) ∨
    ∃ k, statementsBefore world ≤ k ∧
      k < statementsBefore world + (optedInChannels world).length ∧ conn.statement k ≠ none

/-- The call sends the report, and then something goes wrong. -/
def Lossy (conn : Connection String) (world : World) (period : ReportPeriod) (t : Tables) : Prop :=
  Reaches conn world period t ∧ sends world.handOver (externalChannels world.channels) = true ∧
    Broken conn world

section Call

variable {conn : Connection String} {tenantId : ℕ} {world : World} {rows : List SqlboxRow}
  {period : ReportPeriod} {t : Tables} {sent : List SentReport}

/-- A call without refusals. -/
theorem generate_cleared (faults : Faults String) (hfresh : ∀ row ∈ t.snapshots, row.run ∈ t.runs)
    (hnew : period.run ∉ t.runs) (hrows : world.sentSms = .ok rows)
    (hanswered : ∀ c ∈ optedInChannels world, ∃ a, (world.handOver c).attempt = .ok a) :
    (generateForTenant tenantId world period).run faults.cleared ⟨t, false⟩ sent 0 =
      ⟨.ok true, ⟨reported world rows period t, false⟩,
        sent ++ sentReports tenantId world (payloadOf world rows period) (optedInChannels world),
        statementsBefore world + (optedInChannels world).length⟩ := by
  rw [generateForTenant_eq, run_bind, recordReport_cleared hfresh hnew hrows]
  dsimp only
  rw [handOut, run_bind, each_cleared fun c hc hopted =>
    hanswered c (mem_filter.mpr ⟨hc, hopted⟩)]
  rfl

/-- A call in which nothing goes wrong. -/
theorem worked_of_reaches (hfresh : ∀ row ∈ t.snapshots, row.run ∈ t.runs)
    (hreaches : Reaches conn world period t) (hbroken : ¬ Broken conn world)
    (hrows : world.sentSms = .ok rows) :
    worked conn (generateForTenant tenantId world period) t sent =
      ⟨.ok true, ⟨reported world rows period t, false⟩,
        sent ++ sentReports tenantId world (payloadOf world rows period) (optedInChannels world),
        statementsBefore world + (optedInChannels world).length⟩ := by
  have hanswered : ∀ c ∈ optedInChannels world, ∃ a, (world.handOver c).attempt = .ok a := by
    intro c hc
    cases hattempt : (world.handOver c).attempt with
    | ok a => exact ⟨a, rfl⟩
    | error e => exact absurd (.inr (.inl ⟨c, hc, e, hattempt⟩)) hbroken
  rw [worked, Client.begin, Work.run_of_granted rfl,
    generate_cleared conn.toFaults hfresh hreaches.unclaimed hrows hanswered]
  intro k _ hk
  rw [generate_cleared conn.toFaults hfresh hreaches.unclaimed hrows hanswered] at hk
  by_cases hbefore : k < statementsBefore world
  · exact hreaches.granted k hbefore
  · by_contra hrefused
    exact hbroken (.inr (.inr ⟨k, not_lt.mp hbefore, hk, hrefused⟩))

/-- What a call that returns, and was not aborted, has done. -/
theorem worked_of_ok (hfresh : ∀ row ∈ t.snapshots, row.run ∈ t.runs) {b : Bool}
    (hok : (worked conn (generateForTenant tenantId world period) t sent).result = .ok b)
    (hunaborted : (worked conn (generateForTenant tenantId world period) t
      sent).client.aborted = false) :
    (period.run ∈ t.runs ∧
      (worked conn (generateForTenant tenantId world period) t sent).client.store = t ∧
      (worked conn (generateForTenant tenantId world period) t sent).outside = sent) ∨
    (period.run ∉ t.runs ∧ ∃ rows, world.sentSms = .ok rows ∧
      (worked conn (generateForTenant tenantId world period) t sent).client.store =
        reported world rows period t ∧
      (worked conn (generateForTenant tenantId world period) t sent).outside =
        sent ++ sentReports tenantId world (payloadOf world rows period)
          (optedInChannels world)) := by
  rw [worked, Client.begin] at hok hunaborted ⊢
  rw [(Work.cleared_of_unaborted hunaborted).1] at hok ⊢
  by_cases hclaimed : period.run ∈ t.runs
  · refine .inl ⟨hclaimed, ?_⟩
    rw [generateForTenant_eq, run_bind, recordReport_claimed hclaimed]
    exact ⟨rfl, rfl⟩
  · cases hrows : world.sentSms with
    | error e =>
      rw [generateForTenant_eq] at hok
      obtain ⟨a, ha⟩ := Work.ok_of_bind_ok hok
      rw [recordReport_unreadable hclaimed hrows] at ha
      cases ha
    | ok rows =>
      have hanswered : ∀ c ∈ optedInChannels world, ∃ a, (world.handOver c).attempt = .ok a := by
        rw [generateForTenant_eq, run_bind, recordReport_cleared hfresh hclaimed hrows] at hok
        obtain ⟨_, hgone⟩ := Work.ok_of_bind_ok hok
        intro c hc
        obtain ⟨hc, hopted⟩ := mem_filter.mp hc
        exact answered_of_each hgone c hc hopted
      refine .inr ⟨hclaimed, rows, rfl, ?_⟩
      rw [generate_cleared conn.toFaults hfresh hclaimed hrows hanswered]
      exact ⟨rfl, rfl⟩

/-- A call that comes to the channels has met no obstacle. -/
theorem reaches_of_record (hopened : conn.Opened) (hfresh : ∀ row ∈ t.snapshots, row.run ∈ t.runs)
    {payload : DeliverablePayload} {channels : List ReportChannel}
    (h : ((recordReport world period).run conn.toFaults ⟨t, false⟩ sent 0).result =
      .ok (some (payload, channels))) :
    Reaches conn world period t ∧ channels = externalChannels world.channels := by
  have hunaborted : ((recordReport world period).run conn.toFaults ⟨t, false⟩ sent
      0).client.aborted = false := by
    by_contra haborted
    obtain ⟨e, he⟩ := (recordReport_brittle world period).run rfl (eq_true_of_ne_false haborted)
    rw [h] at he
    cases he
  obtain ⟨hcleared, hgranted⟩ := Work.cleared_of_unaborted hunaborted
  rw [hcleared] at h hgranted
  by_cases hclaimed : period.run ∈ t.runs
  · rw [recordReport_claimed hclaimed] at h
    cases h
  cases hrows : world.sentSms with
  | error e =>
    rw [recordReport_unreadable hclaimed hrows] at h
    cases h
  | ok rows =>
    rw [recordReport_cleared hfresh hclaimed hrows] at h hgranted
    refine ⟨⟨hopened, hclaimed, ⟨rows, hrows⟩, fun k hk => hgranted k (Nat.zero_le k) hk⟩, ?_⟩
    exact (congrArg Prod.snd (Option.some.inj (Except.ok.inj h))).symm

/-- A call that does not get to a channel that sends leaves the outside alone. -/
theorem worked_silent (hopened : conn.Opened) (hfresh : ∀ row ∈ t.snapshots, row.run ∈ t.runs)
    (h : ¬ (Reaches conn world period t ∧
      sends world.handOver (externalChannels world.channels) = true)) :
    (worked conn (generateForTenant tenantId world period) t sent).outside = sent := by
  have hquiet : ((recordReport world period).run conn.toFaults ⟨t, false⟩ sent 0).outside = sent :=
    (recordReport_keeps world period (· = sent)).run rfl
  have hreaches := @reaches_of_record conn world period t sent hopened hfresh
  rw [worked, Client.begin, generateForTenant_eq, run_bind]
  generalize (recordReport world period).run conn.toFaults ⟨t, false⟩ sent 0 = r
    at hquiet hreaches ⊢
  obtain ⟨result, client, outside, count⟩ := r
  cases result with
  | error e => exact hquiet
  | ok answer =>
    cases answer with
    | none => exact hquiet
    | some given =>
      obtain ⟨payload, channels⟩ := given
      obtain ⟨hreach, rfl⟩ := hreaches rfl
      have hsilent : sends world.handOver (externalChannels world.channels) = false :=
        Bool.eq_false_iff.mpr fun hsends => h ⟨hreach, hsends⟩
      have hkeeps : (handOut tenantId world (some (payload, externalChannels world.channels))).Keeps
          (· = sent) :=
        (keeps_of_not_sends hsilent _).bind fun _ => trivial
      exact hkeeps.run hquiet

/-- Reports of one tenant are sent for that tenant, whatever goes wrong. -/
theorem worked_others {other : ℕ} (hother : other ≠ tenantId) :
    (worked conn (generateForTenant tenantId world period) t sent).outside.filter
        (fun d => d.tenantId = other) = sent.filter fun d => d.tenantId = other := by
  have hkeeps : (generateForTenant tenantId world period).Keeps fun s : List SentReport =>
      s.filter (fun d => d.tenantId = other) = sent.filter fun d => d.tenantId = other := by
    rw [generateForTenant_eq]
    refine (recordReport_keeps world period _).bind fun answer => ?_
    cases answer with
    | none => trivial
    | some given =>
      obtain ⟨payload, channels⟩ := given
      exact (keeps_others hother _).bind fun _ => trivial
  exact hkeeps.run rfl

/-- What stays of a call: what its work has left, unless that is rolled back. -/
theorem call_of_opened (hopened : conn.Opened) :
    (tenantTransaction conn (generateForTenant tenantId world period) t sent).2 =
        (t, (worked conn (generateForTenant tenantId world period) t sent).outside) ∨
      (∃ b, (worked conn (generateForTenant tenantId world period) t sent).result = .ok b) ∧
        (worked conn (generateForTenant tenantId world period) t sent).client.aborted = false ∧
        (tenantTransaction conn (generateForTenant tenantId world period) t sent).2 =
          ((worked conn (generateForTenant tenantId world period) t sent).client.store,
            (worked conn (generateForTenant tenantId world period) t sent).outside) := by
  cases hresult : (worked conn (generateForTenant tenantId world period) t sent).result with
  | error e =>
    rw [Platform.tenantTransaction_throws hopened hresult]
    exact .inl rfl
  | ok b =>
    rw [Platform.tenantTransaction_returns hopened hresult]
    cases haborted :
      (worked conn (generateForTenant tenantId world period) t sent).client.aborted with
    | true =>
      have hcommit : (worked conn (generateForTenant tenantId world period) t sent).client.commit
          t = t := Platform.commit_eq_old.mpr (.inl haborted)
      rw [hcommit]
      refine .inl ?_
      cases conn.commit <;> rfl
    | false =>
      have hcommit : (worked conn (generateForTenant tenantId world period) t sent).client.commit
          t = (worked conn (generateForTenant tenantId world period) t sent).client.store :=
        Platform.commit_eq_store.mpr (.inl haborted)
      rw [hcommit]
      cases conn.commit with
      | ok | lost _ => exact .inr ⟨⟨b, rfl⟩, rfl, rfl⟩
      | refused e => exact .inl rfl

/-- **What a call comes to** that does not lose a report it has sent: nothing, or everything. -/
theorem call_spec (hfresh : ∀ row ∈ t.snapshots, row.run ∈ t.runs)
    (hlossy : ¬ Lossy conn world period t) :
    (tenantTransaction conn (generateForTenant tenantId world period) t sent).2 = (t, sent) ∨
    period.run ∉ t.runs ∧ ∃ rows, world.sentSms = .ok rows ∧
      (tenantTransaction conn (generateForTenant tenantId world period) t sent).2 =
        (reported world rows period t,
          sent ++ sentReports tenantId world (payloadOf world rows period)
            (optedInChannels world)) := by
  by_cases hopened : conn.Opened
  · by_cases hsends : Reaches conn world period t ∧
        sends world.handOver (externalChannels world.channels) = true
    · have hbroken : ¬ Broken conn world := fun h => hlossy ⟨hsends.1, hsends.2, h⟩
      obtain ⟨rows, hrows⟩ := hsends.1.readable
      have hworked : worked conn (generateForTenant tenantId world period) t sent = _ :=
        worked_of_reaches hfresh hsends.1 hbroken hrows
      refine .inr ⟨hsends.1.unclaimed, rows, hrows, ?_⟩
      rw [Platform.tenantTransaction_returns hopened (congrArg Outcome.result hworked), hworked]
      cases hcommit : conn.commit with
      | ok | lost _ => rfl
      | refused e => exact absurd (.inl ⟨e, hcommit⟩) hbroken
    · have hsilent :
          (worked conn (generateForTenant tenantId world period) t sent).outside = sent :=
        worked_silent hopened hfresh hsends
      rcases call_of_opened hopened with hcall | ⟨⟨b, hok⟩, hunaborted, hcall⟩
      · rw [hcall, hsilent]
        exact .inl rfl
      · rw [hcall]
        rcases worked_of_ok hfresh hok hunaborted with
          ⟨-, hstore, hout⟩ | ⟨hnew, rows, hrows, hstore, hout⟩
        · rw [hstore, hout]
          exact .inl rfl
        · rw [hstore, hout]
          exact .inr ⟨hnew, rows, hrows, rfl⟩
  · obtain ⟨e, heq⟩ := Platform.tenantTransaction_unopened hopened
    exact .inl (congrArg Prod.snd heq)

/-- After a call in which nothing failed the period is reported. -/
theorem run_mem_of_smooth (hfresh : ∀ row ∈ t.snapshots, row.run ∈ t.runs)
    (h : smooth conn (generateForTenant tenantId world period) t sent = true) :
    period.run ∈
      (tenantTransaction conn (generateForTenant tenantId world period) t sent).2.1.runs := by
  rw [smooth, Bool.and_eq_true, Bool.not_eq_true'] at h
  obtain ⟨hresolved, hunaborted⟩ := h
  have hopened : conn.Opened := by
    by_contra hopened
    obtain ⟨e, heq⟩ := Platform.tenantTransaction_unopened hopened
    rw [heq] at hresolved
    cases hresolved
  cases hresult : (worked conn (generateForTenant tenantId world period) t sent).result with
  | error e =>
    rw [Platform.tenantTransaction_throws hopened hresult] at hresolved
    cases hresolved
  | ok b =>
    have hcommit : (worked conn (generateForTenant tenantId world period) t sent).client.commit
        t = (worked conn (generateForTenant tenantId world period) t sent).client.store :=
      Platform.commit_eq_store.mpr (.inl hunaborted)
    rw [Platform.tenantTransaction_returns hopened hresult, hcommit] at hresolved ⊢
    have hstored : period.run ∈
        (worked conn (generateForTenant tenantId world period) t sent).client.store.runs := by
      rcases worked_of_ok hfresh hresult hunaborted with
        ⟨hclaimed, hstore, -⟩ | ⟨-, rows, -, hstore, -⟩
      · rw [hstore]
        exact hclaimed
      · rw [hstore]
        exact mem_append_right _ mem_cons_self
    cases hanswer : conn.commit with
    | ok => exact hstored
    | lost e => exact hstored
    | refused e =>
      rw [hanswer] at hresolved
      cases hresolved

/-- A call sends no report for another tenant. -/
theorem call_others {other : ℕ} (hother : other ≠ tenantId) :
    (tenantTransaction conn (generateForTenant tenantId world period) t sent).2.2.filter
        (fun d => d.tenantId = other) = sent.filter fun d => d.tenantId = other := by
  by_cases hopened : conn.Opened
  · rcases call_of_opened hopened with hcall | ⟨-, -, hcall⟩
    all_goals
      rw [hcall]
      exact worked_others hother
  · obtain ⟨e, heq⟩ := Platform.tenantTransaction_unopened hopened
    rw [heq]

end Call

end Jkannel.Reporting
