import Jkannel.Lib.Exclusive
import Jkannel.Lib.Transition
import Jkannel.Monitoring.Escalation

/-!
# A page is sent once

Any number of replicas run the escalation tick of a tenant, observers sharpen and resolve its alerts
and operators move them, and what is configured changes, all of it between two statements of a tick.
A page that went out is accounted for by its row in `alert_escalations`, which is written by the
same transaction, and is gone when that does not commit.

* `system` is the ticks with everything that happens beside them.
* `Recoverable` is the condition on a step: the tick that holds the lock does not fail while a page
  is out that has no committed row.  `paged_once` is about the runs of such steps.
-/

namespace Jkannel.Monitoring

open List
open Transaction

/-! ## What happens beside the ticks -/

/-- What observers and operators do to the alerts. -/
inductive AlertOperation where
  | upsert (now : ℕ) (alert : NewAlert)
  | insert (now : ℕ) (alert : NewAlert)
  | recover (now : ℕ) (key : String)
  | acknowledge (id : ℕ)
  | resolve (now id : ℕ)
  | suppress (now id thousandths : ℕ) (reason : Option String) (by' : String)
  | reopen (now id : ℕ)
  | close (now id : ℕ) (by' : String)

/-- The alerts after an operation; one that is turned down leaves them as they are. -/
def AlertOperation.apply (rows : List AlertInstance) : AlertOperation → List AlertInstance
  | .upsert now alert => (upsertAlert now alert rows).2
  | .insert now alert => insertAlert now alert rows
  | .recover now key => resolveAlert now key rows
  | .acknowledge id => (Monitoring.acknowledge id rows).toOption.getD rows
  | .resolve now id => (Monitoring.resolve now id rows).toOption.getD rows
  | .suppress now id thousandths reason by' =>
    (Monitoring.suppress now id thousandths reason by' rows).toOption.getD rows
  | .reopen now id => (Monitoring.reopen now id rows).toOption.getD rows
  | .close now id by' => (Monitoring.close now id by' rows).toOption.getD rows

/-! ## The ticks -/

/-- The shared tables and the ticks. -/
abbrev State := Shared Tables Outside String ℕ

/-- What replicas and operators do. -/
inductive Action where
  /-- A replica begins a tick. -/
  | tick (replica now : ℕ)
  /-- Something happens to the tick of a replica. -/
  | event (replica : ℕ) (event : Event String)
  | operate (operation : AlertOperation)
  /-- The policies, the channels and the windows are other ones now. -/
  | configure (policies : List EscalationPolicy) (channels : List NotificationChannel)
    (windows : List MaintenanceWindow)

/-- One event of a replica or an operator. -/
@[grind =] def step (s : State) : Action → Option State
  | .tick replica now => s.begin replica (runForTenant now)
  | .event replica event => s.step replica event
  | .operate operation =>
    some { s with
      store := { s.store with alerts := operation.apply s.store.alerts } }
  | .configure policies channels windows =>
    some { s with
      store := { s.store with
        policies := policies
        channels := channels
        windows := windows } }

/-- The replicas as a system. -/
def system : Transition.System State Action := ⟨step⟩

/-- Before the first tick no page is out. -/
def initialState (tables : Tables) (answer : List (Page × String) → AlertNotification →
    NotificationChannel → Except String NotificationAttempt) : State :=
  .quiet tables ⟨[], answer⟩

/-- Every page that is out has a row. -/
def Accounted (rows : List AlertEscalation) (o : Outside) : Prop :=
  ∀ sent ∈ o.pages, ∃ e ∈ rows, e.of sent.1

instance Accounted.decidable (rows : List AlertEscalation) (o : Outside) :
    Decidable (Accounted rows o) :=
  inferInstanceAs (Decidable (∀ sent ∈ o.pages, _))

/-- No page is out twice. -/
def PagedOnce (o : Outside) : Prop := (o.pages.map Prod.fst).Nodup

/-- What a step may not do: let the tick that holds the lock fail while a page is out that has no
committed row. -/
def Recoverable (s : State) : Action → Prop
  | .event replica event => Harmless Tables.escalations Accounted s replica event
  | _ => True

instance Recoverable.decidable (s : State) (a : Action) : Decidable (Recoverable s a) :=
  match a with
  | .event _ _ => inferInstanceAs (Decidable (_ → _ → Accounted _ _))
  | .tick _ _ | .operate _ | .configure _ _ _ => inferInstanceAs (Decidable True)

/-! ## A tick among others -/

section Tick

variable {rows : List AlertEscalation} {o : Outside} {now : ℕ}

/-- What a tick keeps between its statements. -/
def Going (rows : List AlertEscalation) (o : Outside) : Prop := Accounted rows o ∧ PagedOnce o

/-- A tick, or a part of one. -/
abbrev Careful {α : Type} (work : TickWork α) (rows : List AlertEscalation) (o : Outside) : Prop :=
  work.Guarded Tables.escalations PagedOnce (fun _ => Going) rows o

/-- A statement that leaves the rows alone. -/
theorem careful_query {ρ α : Type} {f : Tables → ρ × (Tables → Tables)} {g : ρ → TickWork α}
    (hframe : ∀ t t', ((f t).2 t').escalations = t'.escalations)
    (hnext : ∀ t, t.escalations = rows → Careful (g (f t).1) rows o) :
    Careful ((Work.statement f).bind g) rows o := by
  refine Work.Guarded.bind (Work.guarded_statement fun t ht => ⟨fun a b hab => ?_, ?_⟩)
  · rw [hframe, hframe]
    exact hab
  · rw [hframe, ht]
    exact hnext t ht

theorem careful_reading {ρ α : Type} {f : Tables → ρ} {g : ρ → TickWork α}
    (hnext : ∀ t, t.escalations = rows → Careful (g (f t)) rows o) :
    Careful ((Work.statement (reading f)).bind g) rows o :=
  careful_query (fun _ _ => rfl) hnext

/-- The rows with that of a page. -/
def withRow (page : Page) (row : AlertEscalation) (rows : List AlertEscalation) :
    List AlertEscalation :=
  if ∃ e ∈ rows, e.of page then rows else rows ++ [row]

theorem insertEscalation_escalations (page : Page) (status : EscalationStatus)
    (detail : EscalationDetail) (t t' : Tables) :
    ((insertEscalation page status detail t).2 t').escalations =
      withRow page ⟨page.alertId, page.policyId, page.stepIndex, status, detail, page.cycle⟩
        t'.escalations := by
  rw [withRow, insertEscalation]
  split
  · next h => exact congrArg Tables.escalations (if_pos h)
  · next h => exact congrArg Tables.escalations (if_neg h)

/-- All pages have a row, but perhaps the one whose row comes next. -/
def AccountedBut (page : Page) (rows : List AlertEscalation) (o : Outside) : Prop :=
  ∀ sent ∈ o.pages, sent.1 = page ∨ ∃ e ∈ rows, e.of sent.1

variable {page : Page}

theorem AccountedBut.withRow {row : AlertEscalation} (h : AccountedBut page rows o)
    (hrow : row.of page) : Accounted (withRow page row rows) o := by
  intro sent hsent
  rw [Monitoring.withRow]
  split
  · next hthere =>
    rcases h sent hsent with heq | hrecorded
    · rwa [heq]
    · exact hrecorded
  · rcases h sent hsent with heq | ⟨e, he, hof⟩
    · exact ⟨row, mem_append_right _ mem_cons_self, heq ▸ hrow⟩
    · exact ⟨e, mem_append_left _ he, hof⟩

theorem careful_markAlertNotificationState (alertId : ℕ) (status : EscalationStatus)
    (h : Going rows o) : Careful (markAlertNotificationState alertId status) rows o := by
  cases status with
  | escalated => exact h
  | notified | failed | suppressed =>
    refine Work.guarded_statement fun t ht => ⟨fun a b hab => hab, ?_⟩
    rw [← ht] at h
    exact h

theorem careful_insertAndMark (status : EscalationStatus) (detail : EscalationDetail)
    (haccounted : AccountedBut page rows o) (honce : PagedOnce o) :
    Careful (insertAndMark page status detail) rows o := by
  refine Work.Guarded.bind (Work.guarded_statement fun t ht => ⟨fun a b hab => ?_, ?_⟩)
  · rw [insertEscalation_escalations, insertEscalation_escalations, hab]
  · rw [insertEscalation_escalations, ht]
    exact careful_markAlertNotificationState _ _
      ⟨haccounted.withRow ⟨rfl, rfl, rfl, rfl⟩, honce⟩

/-- A page without a row, before and after it is delivered. -/
theorem deliver_spec (hgoing : Going rows o) (hnew : ¬ ∃ e ∈ rows, e.of page)
    (notification : AlertNotification) (channel : NotificationChannel) :
    AccountedBut page rows (deliver page notification channel o).2 ∧
      PagedOnce (deliver page notification channel o).2 := by
  obtain ⟨haccounted, honce⟩ := hgoing
  rw [deliver]
  split
  · refine ⟨fun sent hsent => ?_, ?_⟩
    · rcases mem_append.mp hsent with hsent | hsent
      · exact .inr (haccounted sent hsent)
      · exact .inl (by rw [mem_singleton.mp hsent])
    · rw [PagedOnce, map_append, map_singleton]
      refine nodup_append.mpr ⟨honce, nodup_singleton page, ?_⟩
      rintro a ha b hb rfl
      obtain ⟨sent, hsent, rfl⟩ := mem_map.mp ha
      have hpage : sent.1 = page := mem_singleton.mp hb
      exact hnew (hpage ▸ haccounted sent hsent)
  · exact ⟨fun sent hsent => .inr (haccounted sent hsent), honce⟩

theorem careful_recordEscalation (due : DueStep) (suppressed : Bool) (hgoing : Going rows o)
    (hnew : ¬ ∃ e ∈ rows, e.of page) : Careful (recordEscalation page due suppressed) rows o := by
  have hbut : AccountedBut page rows o := fun sent hsent => .inr (hgoing.1 sent hsent)
  rw [recordEscalation]
  split
  · exact careful_insertAndMark _ _ hbut hgoing.2
  · refine careful_reading fun t _ => ?_
    split
    · refine careful_reading fun t' _ => ?_
      obtain ⟨haccounted, honce⟩ := deliver_spec hgoing hnew _ _
      refine Work.Guarded.bind (Work.guarded_perform honce ?_)
      refine Work.guarded_attempt_bind (fun e => Work.silent_statement_bind _ _) fun s hs =>
        ⟨fun a b hab => hab, ?_⟩
      rw [← hs] at haccounted
      exact careful_insertAndMark _ _ haccounted honce
    · exact careful_insertAndMark _ _ hbut hgoing.2

/-- The step that comes next has no row in the cycle. -/
theorem not_recorded_of_due {steps : List EscalationStep} {openedAt now alertId policyId cycle : ℕ}
    {t : Tables} {due : DueStep}
    (h : nextDueStep steps openedAt now (lastStepIndex alertId policyId cycle t) = some due) :
    ¬ Recorded t ⟨alertId, policyId, due.stepIndex, cycle⟩ := by
  rintro ⟨e, he, halert, hpolicy, hindex, hcycle⟩
  have hmem : e.stepIndex ∈ recordedSteps alertId policyId cycle t :=
    mem_map_of_mem (mem_filter.mpr ⟨he, decide_eq_true ⟨halert, hpolicy, hcycle⟩⟩)
  obtain ⟨last, hlast⟩ : ∃ last, lastStepIndex alertId policyId cycle t = some last :=
    Option.isSome_iff_exists.mp (isSome_max?_of_mem hmem)
  have hle : e.stepIndex ≤ last := (max?_eq_some_iff.mp hlast).2 _ hmem
  have hnext : due.stepIndex = last + 1 := by
    rw [hlast, nextDueStep] at h
    dsimp only [Option.elim_some] at h
    split at h
    · cases h
    · split at h
      · rw [← Option.some.inj h]
      · cases h
  have hdue : e.stepIndex = due.stepIndex := hindex
  omega

theorem careful_escalateAlerts (now : ℕ) (windows : List MaintenanceWindow)
    (policy : EscalationPolicy) (alerts : List OpenAlert) (recorded : ℕ) (hgoing : Going rows o) :
    Careful (escalateAlerts now windows policy alerts recorded) rows o := by
  induction alerts generalizing recorded rows o with
  | nil => exact hgoing
  | cons alert alerts ih =>
    refine careful_reading fun t ht => ?_
    split
    · exact ih recorded hgoing
    · next due hdue =>
      have hnew := not_recorded_of_due hdue
      rw [Recorded, ht] at hnew
      exact Work.Guarded.bind ((careful_recordEscalation due _ hgoing hnew).mono
        fun _ _ _ hgoing => ih (recorded + 1) hgoing)

theorem careful_escalatePolicies (now : ℕ) (windows : List MaintenanceWindow)
    (alerts : List OpenAlert) (policies : List EscalationPolicy) (recorded : ℕ)
    (hgoing : Going rows o) :
    Careful (escalatePolicies now windows alerts policies recorded) rows o := by
  induction policies generalizing recorded rows o with
  | nil => exact hgoing
  | cons policy policies ih =>
    rw [escalatePolicies]
    split
    · exact ih recorded hgoing
    · exact Work.Guarded.bind ((careful_escalateAlerts now windows policy alerts recorded
        hgoing).mono fun _ recorded _ hgoing => ih _ hgoing)

/-- **A tick does nothing before it has the lock, and then takes care.** -/
theorem waits_runForTenant (now : ℕ) :
    (runForTenant now).Waits Tables.escalations PagedOnce Accounted := by
  refine ⟨fun _ => trivial, ⟨0, rfl⟩, fun rows o haccounted honce => ?_⟩
  have hgoing : Going rows o := ⟨haccounted, honce⟩
  suffices Careful ((Work.statement (unparkSuppressed now)).bind fun _ =>
      (Work.statement (reading enabledPolicies)).bind fun policies =>
        if policies.isEmpty then .done 0
        else (Work.statement (reading openAlerts)).bind fun alerts =>
          if alerts.isEmpty then .done 0
          else (Work.statement (reading (activeWindows now))).bind fun windows =>
            escalatePolicies now windows alerts policies 0) rows o from
    Work.Guarded.mono this fun _ _ _ h => h.1
  refine careful_query (fun _ _ => rfl) fun _ _ => careful_reading fun _ _ => ?_
  split
  · exact hgoing
  refine careful_reading fun _ _ => ?_
  split
  · exact hgoing
  exact careful_reading fun _ _ => careful_escalatePolicies now _ _ _ 0 hgoing

end Tick

/-! ## The runs -/

/-- A step in which nothing unrecoverable happens keeps everything accounted for. -/
theorem exclusive_step {s s' : State} {a : Action}
    (h : Exclusive Tables.escalations PagedOnce Accounted s) (ha : Recoverable s a)
    (hs : step s a = some s') : Exclusive Tables.escalations PagedOnce Accounted s' := by
  cases a with
  | tick replica now => exact h.begin (waits_runForTenant now) hs
  | event replica event => exact h.step ha hs
  | operate _ | configure _ _ _ =>
    cases hs
    exact h.disturb rfl

/-- **A page is sent once**, in every run in which no tick that has sent a page without a committed
row fails. -/
theorem paged_once {tables : Tables} {answer : List (Page × String) → AlertNotification →
    NotificationChannel → Except String NotificationAttempt} {as : List Action} {s : State}
    (halong : system.Along Recoverable (initialState tables answer) as)
    (hrun : system.run (initialState tables answer) as = some s) :
    (s.outside.pages.map Prod.fst).Nodup := by
  have hinitial : Exclusive Tables.escalations PagedOnce Accounted (initialState tables answer) :=
    Exclusive.quiet nodup_nil fun _ hsent => absurd hsent not_mem_nil
  have hexclusive := system.invariant_along (P := Recoverable)
    (I := Exclusive Tables.escalations PagedOnce Accounted)
    (fun _ _ _ h ha hs => exclusive_step h ha hs) hinitial halong hrun
  exact hexclusive.kept

/-! ## A page and its tick -/

/-- An open alert, and a policy with one step that is due at once. -/
def linkDown : Tables where
  alerts := [NewAlert.row ⟨none, .critical, "smsc", none, "link down", []⟩ 0 0]
  policies := [⟨0, [⟨0, "webhook", "", none⟩], true⟩]
  channels := [⟨"on-call", "on call", "webhook", true, [], [("url", "https://pager")], 0⟩]
  windows := []
  escalations := []
  deliveries := []

/-- A channel that takes every page. -/
def accepting (_ : List (Page × String)) (_ : AlertNotification) (channel : NotificationChannel) :
    Except String NotificationAttempt :=
  .ok ⟨channel.id, channel.type, .succeeded, none, "200"⟩

/-- A tick of the only replica, which sends one page. -/
def pagingTick (committed : Bool) : List Action :=
  .tick 0 0 :: List.replicate 8 (.event 0 (.issue none)) ++ .event 0 .act ::
    List.replicate 3 (.event 0 (.issue none)) ++ [.event 0 (.finish committed)]

/-- A tick of another replica, which finds nothing due. -/
def idleTick : List Action :=
  .tick 1 0 :: List.replicate 6 (.event 1 (.issue none)) ++ [.event 1 (.finish true)]

/-- The tick commits, and the next one sends nothing. -/
theorem paged_once_linkDown : ∃ s,
    system.run (initialState linkDown accepting) (pagingTick true ++ idleTick) = some s ∧
      s.outside.pages.length = 1 ∧ (s.outside.pages.map Prod.fst).Nodup := by
  obtain ⟨s, hrun, hlength⟩ := system.exists_run (s := initialState linkDown accepting)
    (w := pagingTick true ++ idleTick) (fun s => s.outside.pages.length == 1) (by decide +kernel)
  exact ⟨s, hrun, by simpa using hlength, paged_once (system.along_of_check Recoverable
    (by decide +kernel)) hrun⟩

/-- The tick sends its page and is not committed, and the next one sends the page again. -/
theorem paged_twice : ∃ as s, system.run (initialState linkDown accepting) as = some s ∧
    ¬ (s.outside.pages.map Prod.fst).Nodup := by
  obtain ⟨s, hrun, htwice⟩ := system.exists_run (s := initialState linkDown accepting)
    (w := pagingTick false ++ pagingTick true)
    (fun s => !decide (s.outside.pages.map Prod.fst).Nodup) (by decide +kernel)
  exact ⟨_, s, hrun, by simpa using htwice⟩

end Jkannel.Monitoring
