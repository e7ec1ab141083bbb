import Mathlib.Data.List.Sort
import Jkannel.Lib.Binary64
import Jkannel.Lib.Work
import Jkannel.Text
import Jkannel.Monitoring.Alerts

/-!
# Escalation

A tick of the escalation runner is one transaction over all open alerts of a tenant.  It takes an
advisory lock, reads the enabled policies and the oldest open alerts, and advances every alert by
at most one step of every policy.  A step that is due is delivered through a notification channel,
outside of the transaction, and then recorded in `alert_escalations`.

* `nextDueStep` is the step that comes next, when its time has come.
* `isSuppressed` says whether a maintenance window covers an alert.  A covered step is recorded as
  well, and not delivered.
* `routeToTarget` picks the channel of a step.
* `recordEscalation` delivers and records one step, and `runForTenant` is the tick.

The error of the row that mirrors a delivery in `notification_deliveries` is caught and dropped;
every other error ends the tick.
-/

namespace Jkannel.Monitoring

open Transaction
open Work (brittle_done brittle_statement)

/-! ## Rows -/

/-- A step of a policy. -/
structure EscalationStep where
  afterMinutes : ℚ
  channelType : String
  target : String
  severity : Option Severity

/-- A row of `escalation_policies`. -/
structure EscalationPolicy where
  id : Nat
  steps : List EscalationStep
  enabled : Bool

/-- What a maintenance window covers.  A list that is missing covers nothing. -/
structure MaintenanceScope where
  all : Bool
  smscs : List String
  routes : List String

/-- A row of `maintenance_windows`. -/
structure MaintenanceWindow where
  id : Nat
  startsAt : Nat
  endsAt : Nat
  scope : MaintenanceScope

/-- A channel; `config` has the entries that are strings. -/
structure NotificationChannel where
  id : String
  name : String
  type : String
  enabled : Bool
  severities : List Severity
  config : List (String × String)
  createdAt : Nat

inductive DeliveryOutcome where
  | succeeded | failed | skipped
  deriving DecidableEq

/-- What a channel answers. -/
structure NotificationAttempt where
  channelId : String
  channelType : String
  status : DeliveryOutcome
  target : Option String
  response : String

inductive TargetResolution where
  | targetMatch | targetOverride | typeDefault | none

/-- What is recorded of a delivery. -/
inductive RecordedDelivery where
  | attempted (attempt : NotificationAttempt)
  | undeliverable (reason : String)

/-- What is recorded of a page. -/
structure EscalationDetail where
  channelType : String
  target : String
  afterMinutes : ℚ
  targetResolution : Option TargetResolution
  delivery : Option RecordedDelivery

inductive EscalationStatus where
  | escalated | notified | failed | suppressed

/-- A row of `alert_escalations`. -/
structure AlertEscalation where
  alertId : Nat
  policyId : Nat
  stepIndex : Nat
  status : EscalationStatus
  detail : EscalationDetail
  cycle : Nat

/-- A row of `notification_deliveries`. -/
structure NotificationDelivery where
  alertId : Nat
  channelId : String
  channelType : String
  status : DeliveryOutcome
  target : Option String
  response : String
  attemptedBy : String

/-- The tables of a tenant that a tick works on. -/
structure Tables where
  alerts : List AlertInstance
  policies : List EscalationPolicy
  channels : List NotificationChannel
  windows : List MaintenanceWindow
  escalations : List AlertEscalation
  deliveries : List NotificationDelivery

/-! ## Maintenance -/

/-- The window is open from its start on, and no more at its end. -/
def isActive (window : MaintenanceWindow) (now : Nat) : Bool :=
  window.startsAt ≤ now && now < window.endsAt

/-- An alert is covered by its SMSC; escalation asks for no route. -/
def scopeCovers (scope : MaintenanceScope) (smsc : Option String) : Bool :=
  scope.all || (smsc.filter (· ≠ "")).any fun s => scope.smscs.contains s

/-- A maintenance window covers the bind. -/
def isSuppressed (now : Nat) (smsc : Option String) (windows : List MaintenanceWindow) : Bool :=
  windows.any fun w => isActive w now && scopeCovers w.scope smsc

/-! ## Steps -/

/-- A step whose time has come. -/
structure DueStep where
  stepIndex : Nat
  step : EscalationStep

/-- The minutes since `openedAt`, as a floating point number. -/
def elapsedMinutes (openedAt now : Nat) : ℚ := Binary64.round (((now : ℚ) - openedAt) / 60000)

/-- The step after the last one, when it is due. -/
def nextDueStep (steps : List EscalationStep) (openedAt now : Nat) (lastStepIndex : Option Nat) :
    Option DueStep :=
  let nextIndex := lastStepIndex.elim 0 (· + 1)
  match steps[nextIndex]? with
  | none => none
  | some step =>
    if step.afterMinutes ≤ elapsedMinutes openedAt now then some ⟨nextIndex, step⟩ else none

/-! ## Channels -/

/-- The addresses a channel goes by. -/
def addressOf (channel : NotificationChannel) : List String :=
  ([some channel.id, some channel.name, channel.config.lookup "to", channel.config.lookup "url",
    channel.config.lookup "msisdn", channel.config.lookup "recipient"].filterMap id).filter
      (· ≠ "") |>.map String.toLower

/-- The entry of a channel's configuration that has its address. -/
def addressKey : String → Option String
  | "email" => some "to"
  | "webhook" => some "url"
  | "sms" => some "msisdn"
  | _ => none

/-- The channel with another address. -/
def NotificationChannel.readdress (channel : NotificationChannel) (key target : String) :
    NotificationChannel :=
  { channel with config := (key, target) :: channel.config.filter (·.1 ≠ key) }

/-- The channel a step addresses: one that matches its target, the only one with the target as its
address, or the first of the type. -/
def routeToTarget (candidates : List NotificationChannel) (step : EscalationStep) :
    Option NotificationChannel × TargetResolution :=
  match candidates with
  | [] => (none, .none)
  | first :: rest =>
    let target := Text.trim step.target
    if target = "" then (some first, .typeDefault)
    else
      match (first :: rest).find? fun c => (addressOf c).contains target.toLower with
      | some matched => (some matched, .targetMatch)
      | none =>
        match rest, addressKey step.channelType with
        | [], some key => (some (first.readdress key target), .targetOverride)
        | _, _ => (some first, .typeDefault)

/-! ## Deliveries

They leave the process, and no rollback takes them back. -/

/-- A page that went out, and what it was for. -/
structure Page where
  alertId : Nat
  policyId : Nat
  stepIndex : Nat
  cycle : Nat
  deriving DecidableEq

/-- What a channel is given. -/
structure AlertNotification where
  id : Nat
  summary : String
  status : AlertStatus
  severity : Option Severity

/-- The channels: what they were given, and what they answer to the next page. -/
structure Outside where
  pages : List (Page × String)
  answer : List (Page × String) → AlertNotification → NotificationChannel →
    Except String NotificationAttempt

/-- The channel takes alerts of this severity. -/
def takes (channel : NotificationChannel) (severity : Option Severity) : Bool :=
  channel.enabled &&
    (channel.severities.isEmpty || severity.all fun s => channel.severities.contains s)

/-- Deliver a page.  A channel that does not take it is not given it, and a channel that throws has
failed. -/
def deliver (page : Page) (notification : AlertNotification) (channel : NotificationChannel)
    (o : Outside) : NotificationAttempt × Outside :=
  if takes channel notification.severity then
    let attempt : NotificationAttempt :=
      match o.answer o.pages notification channel with
      | .ok attempt => attempt
      | .error e => ⟨channel.id, channel.type, .failed, none, e⟩
    (attempt, { o with pages := o.pages ++ [(page, channel.id)] })
  else (⟨channel.id, channel.type, .skipped, some channel.name, "skipped"⟩, o)

/-! ## Statements -/

/-- An alert as a tick reads it. -/
structure OpenAlert where
  id : Nat
  cycleStartedAt : Nat
  escalationCycle : Nat
  smsc : Option String

/-- `max(opened_at, escalated_at, reopened_at)`. -/
def AlertInstance.cycleStartedAt (a : AlertInstance) : Nat :=
  max a.openedAt (max (a.escalatedAt.getD a.openedAt) (a.reopenedAt.getD a.openedAt))

def AlertInstance.toOpen (a : AlertInstance) : OpenAlert :=
  ⟨a.id, a.cycleStartedAt, a.escalationCycle, a.details.text "smsc"⟩

/-- A suppression that has run its course. -/
def AlertInstance.unpark (now : Nat) (a : AlertInstance) : AlertInstance :=
  if a.status = .suppressed ∧ a.suppressedUntil.any (· ≤ now) then
    { a with
      status := .opened
      suppressedUntil := none }
  else a

/-- Parked alerts are taken up again. -/
def unparkSuppressed (now : Nat) (_ : Tables) : Unit × (Tables → Tables) :=
  ((), fun t => { t with alerts := t.alerts.map (AlertInstance.unpark now) })

/-- A statement that only reads. -/
def reading {ρ : Type} (f : Tables → ρ) (t : Tables) : ρ × (Tables → Tables) := (f t, id)

def enabledPolicies (t : Tables) : List EscalationPolicy := t.policies.filter (·.enabled)

/-- The page of open alerts a tick looks at. -/
def PAGE : Nat := 500

/-- The oldest open alerts. -/
def openAlerts (t : Tables) : List OpenAlert :=
  (((t.alerts.filter fun a => a.status = .opened).insertionSort
    fun a b => a.openedAt ≤ b.openedAt).take PAGE).map AlertInstance.toOpen

def activeWindows (now : Nat) (t : Tables) : List MaintenanceWindow :=
  t.windows.filter fun w => isActive w now

/-- The steps recorded for an alert's cycle. -/
def recordedSteps (alertId policyId cycle : Nat) (t : Tables) : List Nat :=
  (t.escalations.filter fun e =>
    e.alertId = alertId ∧ e.policyId = policyId ∧ e.cycle = cycle).map AlertEscalation.stepIndex

def lastStepIndex (alertId policyId cycle : Nat) (t : Tables) : Option Nat :=
  (recordedSteps alertId policyId cycle t).max?

def candidateChannels (channelType : String) (t : Tables) : List NotificationChannel :=
  (t.channels.filter fun c => c.enabled ∧ c.type = channelType).insertionSort
    fun a b => a.createdAt ≤ b.createdAt

def findAlert (id : Nat) (t : Tables) : Option AlertInstance := t.alerts.find? fun a => a.id = id

def insertDelivery (row : NotificationDelivery) (_ : Tables) : Unit × (Tables → Tables) :=
  ((), fun t => { t with deliveries := t.deliveries ++ [row] })

/-- The row is of this step of this cycle. -/
def AlertEscalation.of (e : AlertEscalation) (page : Page) : Prop :=
  e.alertId = page.alertId ∧ e.policyId = page.policyId ∧ e.stepIndex = page.stepIndex ∧
    e.cycle = page.cycle

instance (e : AlertEscalation) (page : Page) : Decidable (e.of page) :=
  inferInstanceAs (Decidable (_ ∧ _))

/-- The page is on record. -/
def Recorded (t : Tables) (page : Page) : Prop := ∃ e ∈ t.escalations, e.of page

instance (t : Tables) (page : Page) : Decidable (Recorded t page) :=
  inferInstanceAs (Decidable (∃ e ∈ t.escalations, e.of page))

/-- `INSERT … ON CONFLICT … DO NOTHING`. -/
def insertEscalation (page : Page) (status : EscalationStatus) (detail : EscalationDetail)
    (_ : Tables) : Unit × (Tables → Tables) :=
  ((), fun t =>
    if Recorded t page then t
    else
      { t with
        escalations := t.escalations ++
          [⟨page.alertId, page.policyId, page.stepIndex, status, detail, page.cycle⟩] })

/-- The state an alert is marked with, if any; `notified` stays. -/
def markState (alertId : Nat) (state : NotificationState) (_ : Tables) :
    Unit × (Tables → Tables) :=
  ((), fun t =>
    { t with
      alerts := updateRow alertId (fun a =>
        if a.notificationState ≠ .notified ∨ state = .notified then
          { a with notificationState := state }
        else a) t.alerts })

/-! ## The tick -/

/-- The work of a tick. -/
abbrev TickWork := Work Tables Outside String

def markAlertNotificationState (alertId : Nat) : EscalationStatus → TickWork Unit
  | .notified => .statement (markState alertId .notified)
  | .suppressed => .statement (markState alertId .suppressed)
  | .failed => .statement (markState alertId .undeliverable)
  | .escalated => pure ()

def DueStep.detail (due : DueStep) (resolution : Option TargetResolution)
    (delivery : Option RecordedDelivery) : EscalationDetail :=
  ⟨due.step.channelType, due.step.target, due.step.afterMinutes, resolution, delivery⟩

/-- Record a step, and mark the alert with what came of it. -/
def insertAndMark (page : Page) (status : EscalationStatus) (detail : EscalationDetail) :
    TickWork Unit := do
  Work.statement (insertEscalation page status detail)
  markAlertNotificationState page.alertId status

/-- Why a step cannot be delivered. -/
def undeliverableReason (step : EscalationStep) : String :=
  if step.target = "" then s!"no enabled {step.channelType} channel"
  else s!"no enabled {step.channelType} channel for target '{step.target}'"

/-- The row that mirrors a delivery. -/
def mirror (page : Page) (due : DueStep) (channel : NotificationChannel)
    (attempt : NotificationAttempt) : NotificationDelivery :=
  ⟨page.alertId, channel.id, channel.type, attempt.status, some (attempt.target.getD due.step.target),
    attempt.response, "alert-escalation"⟩

/-- Deliver a step and record it.  A covered step is only recorded. -/
def recordEscalation (page : Page) (due : DueStep) (suppressed : Bool) : TickWork Unit :=
  if suppressed then insertAndMark page .suppressed (due.detail none none)
  else do
    let candidates ← Work.statement (reading (candidateChannels due.step.channelType))
    match routeToTarget candidates due.step with
    | (some channel, resolution) =>
      let alert ← Work.statement (reading (findAlert page.alertId))
      let notification : AlertNotification :=
        ⟨page.alertId, (alert.map AlertInstance.summary).getD "alert",
          (alert.map AlertInstance.status).getD .opened,
          due.step.severity.or (alert.map AlertInstance.severity)⟩
      let attempt ← Work.perform (deliver page notification channel)
      let _ ← Work.attempt (insertDelivery (mirror page due channel attempt))
      insertAndMark page (if attempt.status = .succeeded then .notified else .failed)
        (due.detail (some resolution) (some (.attempted attempt)))
    | (none, resolution) =>
      insertAndMark page .failed
        (due.detail (some resolution) (some (.undeliverable (undeliverableReason due.step))))

/-- Advance the alerts, one after the other, by a policy.  The count is of the steps recorded. -/
def escalateAlerts (now : Nat) (windows : List MaintenanceWindow) (policy : EscalationPolicy) :
    List OpenAlert → Nat → TickWork Nat
  | [], recorded => pure recorded
  | alert :: alerts, recorded => do
    let last ← Work.statement (reading (lastStepIndex alert.id policy.id alert.escalationCycle))
    match nextDueStep policy.steps alert.cycleStartedAt now last with
    | none => escalateAlerts now windows policy alerts recorded
    | some due => do
      recordEscalation ⟨alert.id, policy.id, due.stepIndex, alert.escalationCycle⟩ due
        (isSuppressed now alert.smsc windows)
      escalateAlerts now windows policy alerts (recorded + 1)

def escalatePolicies (now : Nat) (windows : List MaintenanceWindow) (alerts : List OpenAlert) :
    List EscalationPolicy → Nat → TickWork Nat
  | [], recorded => pure recorded
  | policy :: policies, recorded =>
    if policy.steps = [] then escalatePolicies now windows alerts policies recorded
    else do
      let recorded ← escalateAlerts now windows policy alerts recorded
      escalatePolicies now windows alerts policies recorded

/-- One tick for the tenant.  It returns how many steps it recorded. -/
def runForTenant (now : Nat) : TickWork Nat := do
  let locked ← Work.tryLock
  if !locked then return 0
  Work.statement (unparkSuppressed now)
  let policies ← Work.statement (reading enabledPolicies)
  if policies.isEmpty then return 0
  let alerts ← Work.statement (reading openAlerts)
  if alerts.isEmpty then return 0
  let windows ← Work.statement (reading (activeWindows now))
  escalatePolicies now windows alerts policies 0

/-! ## A tick with a failed statement

A tick ends with an error when one of its statements fails.  That of the mirrored delivery is no
exception: it is caught, and the statement that comes next fails in its place. -/

theorem brittle_markAlertNotificationState (alertId : Nat) (status : EscalationStatus) :
    (markAlertNotificationState alertId status).Brittle := by
  cases status with
  | escalated => exact brittle_done ()
  | notified | failed | suppressed => exact brittle_statement _

theorem brittle_insertAndMark (page : Page) (status : EscalationStatus)
    (detail : EscalationDetail) : (insertAndMark page status detail).Brittle :=
  (brittle_statement _).bind fun _ => brittle_markAlertNotificationState page.alertId status

theorem doomed_insertAndMark (page : Page) (status : EscalationStatus)
    (detail : EscalationDetail) : (insertAndMark page status detail).Doomed :=
  Work.doomed_statement_bind _ _

theorem brittle_recordEscalation (page : Page) (due : DueStep) (suppressed : Bool) :
    (recordEscalation page due suppressed).Brittle := by
  rw [recordEscalation]
  split
  · exact brittle_insertAndMark ..
  · refine (brittle_statement _).bind fun candidates => ?_
    split
    · refine (brittle_statement _).bind fun alert => ?_
      refine (Work.brittle_perform _).bind fun attempt => ?_
      exact Work.brittle_attempt_bind _ (fun _ => doomed_insertAndMark _ _ _)
        fun _ => brittle_insertAndMark ..
    · exact brittle_insertAndMark ..

theorem brittle_escalateAlerts (now : Nat) (windows : List MaintenanceWindow)
    (policy : EscalationPolicy) (alerts : List OpenAlert) (recorded : Nat) :
    (escalateAlerts now windows policy alerts recorded).Brittle := by
  induction alerts generalizing recorded with
  | nil => exact brittle_done recorded
  | cons alert alerts ih =>
    refine (brittle_statement _).bind fun last => ?_
    split
    · exact ih recorded
    · exact (brittle_recordEscalation ..).bind fun _ => ih (recorded + 1)

theorem brittle_escalatePolicies (now : Nat) (windows : List MaintenanceWindow)
    (alerts : List OpenAlert) (policies : List EscalationPolicy) (recorded : Nat) :
    (escalatePolicies now windows alerts policies recorded).Brittle := by
  induction policies generalizing recorded with
  | nil => exact brittle_done recorded
  | cons policy policies ih =>
    rw [escalatePolicies]
    split
    · exact ih recorded
    · exact (brittle_escalateAlerts ..).bind ih

/-- **No tick survives a failed statement.** -/
theorem brittle_runForTenant (now : Nat) : (runForTenant now).Brittle := by
  refine Work.brittle_tryLock.bind fun locked => ?_
  split
  · exact brittle_done 0
  refine (brittle_statement _).bind fun _ => ?_
  refine (brittle_statement _).bind fun policies => ?_
  split
  · exact brittle_done 0
  refine (brittle_statement _).bind fun alerts => ?_
  split
  · exact brittle_done 0
  refine (brittle_statement _).bind fun windows => ?_
  exact brittle_escalatePolicies ..

end Jkannel.Monitoring
