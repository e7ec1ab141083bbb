import Jkannel.Lib.Transition
import Jkannel.Platform.TenantTransaction
import Jkannel.Platform.Grid
import Jkannel.Engine.Sqlbox
import Jkannel.Monitoring.Escalation

/-!
# Scheduled reports

Every now and then each replica runs the reports that are due.  For every enabled tenant it takes up
the day before and the ISO week before, and generates their reports unless there is a row in
`report_job_runs` that says that this was done.

* `previousDay` and `previousIsoWeek` are the two periods of a moment.
* `volumeSummary` counts the traffic of a period in the engine's log.
* `generateForTenant` is the work of one call: it claims the period, stores the snapshots, notifies
  the subscribers, and hands the report to the channels that opted in.  All of it is one
  transaction, and the channels are outside of it.
* `system` is everything together: replicas, their ticks, and the time that goes by.

Two calls for the same period of a tenant never overlap, because the second one waits at the claim
until the first has ended.  So a call is one step here.  What it reads from tables it does not write
is the `World` it finds, another one for every call.
-/

namespace Jkannel.Reporting

open Transaction
open Platform (Connection tenantTransaction worked)
open Engine (SqlboxRow)
open Monitoring (NotificationChannel NotificationAttempt DeliveryOutcome)

/-! ## Periods

A date is the moment it begins at, UTC, in milliseconds. -/

inductive ReportPeriodType where
  | daily | weekly
  deriving DecidableEq

/-- The period of a report. -/
structure ReportPeriod where
  type : ReportPeriodType
  /-- Inclusive. -/
  start : ℤ
  /-- Exclusive. -/
  end_ : ℤ
  deriving DecidableEq

/-- The milliseconds of a day. -/
def DAY : ℤ := 86400000

/-- The midnight before an instant. -/
def utcMidnight (date : ℤ) : ℤ := date / DAY * DAY

/-- The day of the week, Sunday being 0.  The epoch began on a Thursday. -/
def getUTCDay (date : ℤ) : ℤ := (date / DAY + 4) % 7

/-- The most recent day that is over. -/
def previousDay (now : ℤ) : ReportPeriod := ⟨.daily, utcMidnight now - DAY, utcMidnight now⟩

/-- The most recent ISO week that is over, from Monday to Monday. -/
def previousIsoWeek (now : ℤ) : ReportPeriod :=
  let today := utcMidnight now
  let dayOfWeek := (getUTCDay today + 6) % 7
  let currentWeekStart := today - dayOfWeek * DAY
  ⟨.weekly, currentWeekStart - 7 * DAY, currentWeekStart⟩

/-- The periods a tick takes up. -/
def periodsAt (now : ℤ) : List ReportPeriod := [previousDay now, previousIsoWeek now]

/-- The day of an instant. -/
def isoDate (date : ℤ) : String := String.ofList ((Platform.Grid.toISOString date).toList.take 10)

example : (previousDay 1783604700000, previousIsoWeek 1783604700000) =
    (⟨.daily, 1783468800000, 1783555200000⟩, ⟨.weekly, 1782691200000, 1783296000000⟩) := by decide

example : isoDate 1783468800000 = "2026-07-08" := by decide +kernel

/-! ## Rows -/

/-- A row of `report_job_runs`. -/
structure ReportJobRun where
  periodType : ReportPeriodType
  periodStart : ℤ
  deriving DecidableEq

/-- What a period is claimed by. -/
def ReportPeriod.run (p : ReportPeriod) : ReportJobRun := ⟨p.type, p.start⟩

inductive SnapshotScope where
  | total | smsc | route
  deriving DecidableEq

/-- The `details` of a snapshot. -/
inductive SnapshotDetails where
  | all (smscCount : ℕ)
  | plain
  | attributed (attribution : String) (targetSmscEngineId : Option String)

/-- A row of `report_snapshots`. -/
structure ReportSnapshot where
  periodType : ReportPeriodType
  periodStart : ℤ
  periodEnd : ℤ
  scope : SnapshotScope
  scopeKey : String
  scopeLabel : String
  messageCount : ℕ
  dlrCount : ℕ
  details : SnapshotDetails

def ReportSnapshot.run (row : ReportSnapshot) : ReportJobRun := ⟨row.periodType, row.periodStart⟩

/-- The unique key. -/
def ReportSnapshot.key (row : ReportSnapshot) : ReportJobRun × SnapshotScope × String :=
  (row.run, row.scope, row.scopeKey)

/-- The figures of a report. -/
structure ReportData where
  periodType : ReportPeriodType
  periodStart : ℤ
  periodEnd : ℤ
  messages : ℕ
  dlrs : ℕ

def ReportData.run (data : ReportData) : ReportJobRun := ⟨data.periodType, data.periodStart⟩

/-- A row of `user_notifications`. -/
structure UserNotification where
  userId : String
  category : String
  title : String
  body : String
  data : ReportData

/-- A row of `notification_deliveries`. -/
structure ReportDelivery where
  channelId : String
  channelType : String
  status : DeliveryOutcome
  target : Option String
  response : String
  attemptedBy : String
  category : String

/-- The tables of a tenant that its reports are written to. -/
structure Tables where
  runs : List ReportJobRun
  snapshots : List ReportSnapshot
  notifications : List UserNotification
  deliveries : List ReportDelivery

/-- What a channel is given. -/
structure DeliverablePayload where
  category : String
  subject : String
  body : String
  data : ReportData

/-- A report that has left the process. -/
structure SentReport where
  tenantId : ℕ
  channelId : String
  payload : DeliverablePayload

/-! ## What a call finds -/

/-- What a report reads of a bind. -/
structure SmscRow where
  id : String
  engineId : String
  name : String

/-- What a report reads of a route. -/
structure RouteRow where
  id : String
  name : String
  targetSmscId : String

/-- A row of the join of users with their permissions. -/
structure Grant where
  userId : String
  status : String
  code : String

/-- A channel, and the categories it restricts itself to. -/
structure ReportChannel extends NotificationChannel where
  categories : Option (List String)

/-- What comes of handing a report to a channel. -/
structure HandOver where
  /-- It left the process. -/
  sent : Bool
  /-- The answer; an error is that of a process that stops before there is one. -/
  attempt : Except String NotificationAttempt

/-- The tables a call reads, the engine's log, and the channels. -/
structure World where
  smscs : List SmscRow
  engineIds_nodup : (smscs.map SmscRow.engineId).Nodup
  routes : List RouteRow
  routeIds_nodup : (routes.map RouteRow.id).Nodup
  grants : List Grant
  channels : List ReportChannel
  channelIds_nodup : (channels.map fun c => c.id).Nodup
  /-- The engine's log, or why it cannot be read. -/
  sentSms : Except String (List SqlboxRow)
  handOver : ReportChannel → HandOver

/-! ## The engine's volume -/

/-- The traffic of one bind. -/
structure VolumeBySmsc where
  smscId : String
  messages : ℕ
  dlrs : ℕ

/-- The traffic of a period. -/
structure Volume where
  messages : ℕ
  dlrs : ℕ
  bySmsc : List VolumeBySmsc

/-- The condition of the query. -/
def inVolume (fromEpoch toEpoch : ℤ) (allowedSmscIds : List String) (row : SqlboxRow) : Bool :=
  row.time.any (fun time => fromEpoch ≤ time && time < toEpoch) &&
    row.smscId.any allowedSmscIds.contains

/-- `count(*) FILTER (WHERE momt IS DISTINCT FROM 'DLR')` of a group. -/
def countMessages (rows : List SqlboxRow) (smscId : Option String) : ℕ :=
  rows.countP fun row => row.smscId = smscId ∧ row.momt ≠ some "DLR"

/-- `count(*) FILTER (WHERE momt = 'DLR')` of a group. -/
def countDlrs (rows : List SqlboxRow) (smscId : Option String) : ℕ :=
  rows.countP fun row => row.smscId = smscId ∧ row.momt = some "DLR"

/-- The traffic of a period. -/
def volumeSummary (rows : List SqlboxRow) (fromEpoch toEpoch : ℤ) (allowedSmscIds : List String) :
    Volume :=
  if allowedSmscIds = [] then ⟨0, 0, []⟩
  else
    let selected := rows.filter (inVolume fromEpoch toEpoch allowedSmscIds)
    let bySmsc := (selected.map SqlboxRow.smscId).dedup.map fun smscId =>
      ⟨smscId.getD "unknown", countMessages selected smscId, countDlrs selected smscId⟩
    ⟨(bySmsc.map VolumeBySmsc.messages).sum, (bySmsc.map VolumeBySmsc.dlrs).sum, bySmsc⟩

/-- The volume of a period, with its bounds in seconds. -/
def periodVolume (world : World) (rows : List SqlboxRow) (period : ReportPeriod) : Volume :=
  volumeSummary rows (period.start / 1000) (period.end_ / 1000)
    (world.smscs.map SmscRow.engineId)

/-- `bySmscEngineId.get`. -/
def Volume.get (volume : Volume) (engineId : String) : Option VolumeBySmsc :=
  volume.bySmsc.reverse.find? fun row => row.smscId = engineId

/-! ## Statements -/

/-- `INSERT INTO report_job_runs … ON CONFLICT DO NOTHING`; the count of rows. -/
def claimRun (period : ReportPeriod) (t : Tables) : ℕ × (Tables → Tables) :=
  if period.run ∈ t.runs then (0, id)
  else (1, fun t => { t with runs := t.runs ++ [period.run] })

/-- A statement that only reads. -/
def reading {ρ : Type} (found : ρ) (_ : Tables) : ρ × (Tables → Tables) := (found, id)

/-- `ON CONFLICT (…) DO UPDATE`. -/
def upsertSnapshot (row : ReportSnapshot) (_ : Tables) : Unit × (Tables → Tables) :=
  ((), fun t =>
    { t with
      snapshots :=
        if row.key ∈ t.snapshots.map ReportSnapshot.key then
          t.snapshots.map fun old =>
            if old.key = row.key then
              { old with
                messageCount := row.messageCount
                dlrCount := row.dlrCount
                details := row.details }
            else old
        else t.snapshots ++ [row] })

def insertNotification (row : UserNotification) (_ : Tables) : Unit × (Tables → Tables) :=
  ((), fun t => { t with notifications := t.notifications ++ [row] })

def insertDelivery (row : ReportDelivery) (_ : Tables) : Unit × (Tables → Tables) :=
  ((), fun t => { t with deliveries := t.deliveries ++ [row] })

/-! ## The rows of a report -/

def snapshot (period : ReportPeriod) (scope : SnapshotScope) (scopeKey scopeLabel : String)
    (messages dlrs : ℕ) (details : SnapshotDetails) : ReportSnapshot :=
  ⟨period.type, period.start, period.end_, scope, scopeKey, scopeLabel, messages, dlrs, details⟩

def totalSnapshot (smscs : List SmscRow) (volume : Volume) (period : ReportPeriod) :
    ReportSnapshot :=
  snapshot period .total "" "All traffic" volume.messages volume.dlrs (.all smscs.length)

def smscSnapshot (volume : Volume) (period : ReportPeriod) (smsc : SmscRow) : ReportSnapshot :=
  let counts := volume.get smsc.engineId
  snapshot period .smsc smsc.engineId smsc.name ((counts.map VolumeBySmsc.messages).getD 0)
    ((counts.map VolumeBySmsc.dlrs).getD 0) .plain

/-- A route has the counts of the SMSC it targets. -/
def routeSnapshot (smscs : List SmscRow) (volume : Volume) (period : ReportPeriod)
    (route : RouteRow) : ReportSnapshot :=
  let target := smscs.reverse.find? fun row => row.id = route.targetSmscId
  let counts := target.bind fun target => volume.get target.engineId
  snapshot period .route route.id route.name ((counts.map VolumeBySmsc.messages).getD 0)
    ((counts.map VolumeBySmsc.dlrs).getD 0)
    (.attributed "target_smsc" (target.map SmscRow.engineId))

/-- `SELECT DISTINCT u.id`. -/
def recipients (grants : List Grant) : List String :=
  ((grants.filter fun g =>
    ["reports.view", "system.manage"].contains g.code && g.status = "active").map
      Grant.userId).dedup

def periodLabel : ReportPeriodType → String
  | .daily => "Daily"
  | .weekly => "Weekly"

def reportTitle (period : ReportPeriod) : String :=
  s!"{periodLabel period.type} message report — {isoDate period.start}"

def reportBody (period : ReportPeriod) (messages dlrs : ℕ) : String :=
  s!"{messages} messages and {dlrs} delivery reports between {isoDate period.start} " ++
    s!"and {isoDate period.end_}. Open Reports for per-route and per-SMSC detail."

def reportData (period : ReportPeriod) (messages dlrs : ℕ) : ReportData :=
  ⟨period.type, period.start, period.end_, messages, dlrs⟩

def reportPayload (period : ReportPeriod) (messages dlrs : ℕ) : DeliverablePayload :=
  ⟨"report", reportTitle period, reportBody period messages dlrs, reportData period messages dlrs⟩

def notification (period : ReportPeriod) (messages dlrs : ℕ) (userId : String) :
    UserNotification :=
  ⟨userId, "report", reportTitle period, reportBody period messages dlrs,
    reportData period messages dlrs⟩

/-- What is recorded of an attempt. -/
def deliveryRow (attempt : NotificationAttempt) : ReportDelivery :=
  ⟨attempt.channelId, attempt.channelType, attempt.status, attempt.target, attempt.response,
    "report-scheduler", "report"⟩

/-! ## The work

A report is one transaction: its own row comes first, and decides whether the rest is written. -/

/-- The work of a call, beside the reports that have left the process. -/
abbrev ReportWork := Work Tables (List SentReport) String

/-- `WHERE enabled = true AND type IN ('email', 'webhook')`. -/
def externalChannels (channels : List ReportChannel) : List ReportChannel :=
  channels.filter fun c => c.enabled && (c.type = "email" || c.type = "webhook")

/-- The channel takes reports. -/
def ReportChannel.optedIn (channel : ReportChannel) : Bool :=
  channel.categories.all fun categories => categories.contains "report"

/-- Hand a report to a channel. -/
def deliverPayload (tenantId : ℕ) (handOver : ReportChannel → HandOver)
    (payload : DeliverablePayload) (channel : ReportChannel) (sent : List SentReport) :
    Except String NotificationAttempt × List SentReport :=
  let given := handOver channel
  (given.attempt, if given.sent then sent ++ [⟨tenantId, channel.id, payload⟩] else sent)

/-- Hand the report to a channel, and try to record that. -/
def deliverToChannel (tenantId : ℕ) (handOver : ReportChannel → HandOver)
    (payload : DeliverablePayload) (channel : ReportChannel) : ReportWork Unit :=
  if channel.optedIn then do
    match ← Work.perform (deliverPayload tenantId handOver payload channel) with
    | .ok attempt =>
      let _ ← Work.attempt (insertDelivery (deliveryRow attempt))
    | .error e => Work.throw e
  else pure ()

def deliverToChannels (tenantId : ℕ) (world : World) (payload : DeliverablePayload) :
    ReportWork Unit := do
  let channels ← Work.statement (reading (externalChannels world.channels))
  Work.each (deliverToChannel tenantId world.handOver payload) channels

def notifySubscribers (tenantId : ℕ) (world : World) (period : ReportPeriod)
    (messages dlrs : ℕ) : ReportWork Unit := do
  let users ← Work.statement (reading (recipients world.grants))
  Work.each
    (fun user => Work.statement (insertNotification (notification period messages dlrs user))) users
  deliverToChannels tenantId world (reportPayload period messages dlrs)

/-- The work of a call.  It returns whether the report was generated. -/
def generateForTenant (tenantId : ℕ) (world : World) (period : ReportPeriod) :
    ReportWork Bool := do
  let claimed ← Work.statement (claimRun period)
  if claimed = 0 then return false
  let smscs ← Work.statement (reading world.smscs)
  let routes ← Work.statement (reading world.routes)
  match world.sentSms with
  | .error e => Work.throw e
  | .ok rows =>
    let volume := periodVolume world rows period
    Work.statement (upsertSnapshot (totalSnapshot smscs volume period))
    Work.each (fun smsc => Work.statement (upsertSnapshot (smscSnapshot volume period smsc))) smscs
    Work.each (fun route =>
      Work.statement (upsertSnapshot (routeSnapshot smscs volume period route))) routes
    notifySubscribers tenantId world period volume.messages volume.dlrs
    return true

/-! ## Ticks -/

/-- A row of `tenants`. -/
structure TenantRow where
  id : ℕ
  isEnabled : Bool
  isArchived : Bool

/-- `WHERE is_enabled AND NOT is_archived`. -/
def enabledTenants (rows : List TenantRow) : List ℕ :=
  (rows.filter fun row => row.isEnabled && !row.isArchived).map TenantRow.id

/-- A tick that is under way. -/
structure Tick where
  /-- The clock when it started. -/
  now : ℤ
  /-- The tenants it takes up. -/
  tenants : List ℕ
  /-- The calls it has yet to make. -/
  remaining : List (ℕ × ReportPeriod)
  /-- A statement or a `COMMIT` of it has failed, or the engine's log could not be read. -/
  failed : Bool
  deriving DecidableEq

/-- `runPending`, once the tenants are read. -/
def Tick.start (now : ℤ) (rows : List TenantRow) : Tick :=
  ⟨now, enabledTenants rows,
    (enabledTenants rows).flatMap fun tenant => (periodsAt now).map fun period => (tenant, period),
    false⟩

/-- The tables, and what has left. -/
structure State where
  now : ℤ
  tables : ℕ → Tables
  /-- Every report that has left a process. -/
  sent : List SentReport
  /-- The tick a replica is in. -/
  ticking : ℕ → Option Tick
  /-- When a tenant was first taken up. -/
  firstTick : ℕ → Option ℤ

def Tables.empty : Tables := ⟨[], [], [], []⟩

/-- The state everything begins in. -/
def State.initial (now : ℤ) : State := ⟨now, fun _ => .empty, [], fun _ => none, fun _ => none⟩

/-- One step of one replica. -/
inductive Action where
  /-- Time goes by. -/
  | advance (ms : ℕ)
  /-- A replica starts a tick; it ends at once when the engine's log is out of reach. -/
  | start (replica : ℕ) (available : Bool) (rows : List TenantRow)
  /-- It makes the next of its calls. -/
  | generate (replica : ℕ) (conn : Connection String) (world : World)
  /-- It has made them all. -/
  | finish (replica : ℕ)
  /-- It stops, between two calls. -/
  | stop (replica : ℕ)

/-- A call in which nothing failed. -/
def smooth (conn : Connection String) (work : ReportWork Bool) (t : Tables)
    (sent : List SentReport) : Bool :=
  (tenantTransaction conn work t sent).1.toBool && !(worked conn work t sent).client.aborted

/-- One step of one replica. -/
def step (s : State) : Action → Option State
  | .advance ms => some { s with now := s.now + ms }
  | .start replica available rows =>
    match s.ticking replica with
    -- The replica is still at it.
    | some _ => some s
    | none =>
      if available then
        some { s with
          ticking := Function.update s.ticking replica (some (Tick.start s.now rows))
          firstTick := fun tenant =>
            if tenant ∈ enabledTenants rows then some ((s.firstTick tenant).getD s.now)
            else s.firstTick tenant }
      else some s
  | .generate replica conn world =>
    match s.ticking replica with
    | some ⟨now, tenants, (tenant, period) :: remaining, failed⟩ =>
      let work := generateForTenant tenant world period
      let call := tenantTransaction conn work (s.tables tenant) s.sent
      some { s with
        tables := Function.update s.tables tenant call.2.1
        sent := call.2.2
        ticking := Function.update s.ticking replica (some ⟨now, tenants, remaining,
          failed || !smooth conn work (s.tables tenant) s.sent⟩) }
    | _ => none
  | .finish replica =>
    match s.ticking replica with
    | some ⟨_, _, [], _⟩ => some { s with ticking := Function.update s.ticking replica none }
    | _ => none
  | .stop replica => some { s with ticking := Function.update s.ticking replica none }

/-- The replicas as a system. -/
def system : Transition.System State Action := ⟨step⟩

end Jkannel.Reporting
