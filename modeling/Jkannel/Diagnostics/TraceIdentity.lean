import Jkannel.Diagnostics.MessageTrace

/-!
# Whose trace it is

The engine numbers its spool and its log independently, and logs a message under the number that it
had in the spool.  A trace compares the one id it is given with both numbers, in both tables, so it
may meet rows of other messages, and it finds a message's receipts under one of its two numbers only.

* `Own` are the rows that are a message's own, and `Faithful` is a trace that is made of them alone,
  under either number, and that reports what the message log reports.
* `Alone` is a message that nothing else mentions and that has nothing but its row in the log.
* `trace_faithful_iff` says that these are the same.
-/

namespace Jkannel.Diagnostics

open List
open Engine
open EngineEvent (direction)

/-- All the rows of the engine. -/
def allEvents (stores : Stores) : List EngineEvent :=
  stores.spool.rows.map spoolEvent ++ stores.sent.rows.map (sentEvent stores.sent.rows)

/-- The rows of the message `m` that was spooled as `f`: its spool row, its row in the log and its
receipts. -/
def Own (m : SqlboxRow) (f : String) (e : EngineEvent) : Prop :=
  match e.source with
  | .sendSms => toString e.row.sqlId = f
  | .sentSms => e.row = m ∨ (e.row.momt = some "DLR" ∧ e.row.foreignId = some f)

/-- The two numbers of a message. -/
def names (m : SqlboxRow) (f : String) : List String := [toString m.sqlId, f]

/-- A trace reports this delivery status, and no other. -/
def Reports (t : AssembledTrace) (status : String) : Prop :=
  (∃ stage ∈ t.stages, stage.kind = .receipt) ∧
    ∀ stage ∈ t.stages, stage.kind = .receipt → stage.facts.lookup "status" = some (.text status)

/-- What the trace under one number is made of. -/
structure MadeOfOwn (stores : Stores) (m : SqlboxRow) (f x : String) : Prop where
  events : ∀ e, e ∈ (trace stores true x).events ↔ e ∈ allEvents stores ∧ Own m f e
  decision : oldest stores.decisions (·.readBy x) =
    oldest stores.decisions (·.messageRef = some f)
  attempts : attemptsOf stores.attempts x = attemptsOf stores.attempts f

/-- The message log's status of a message. -/
def listedStatus (stores : Stores) (m : SqlboxRow) : DeliveryStatus :=
  (classify false stores.sent.rows m).deliveryStatus

/-- Under both its numbers, the trace of a message is its own. -/
structure Faithful (stores : Stores) (m : SqlboxRow) (f : String) : Prop where
  made : ∀ x ∈ names m f, MadeOfOwn stores m f x
  same : (trace stores true (toString m.sqlId)).lifecycle = (trace stores true f).lifecycle
  reports : ∀ x ∈ names m f, Reports (trace stores true x).lifecycle (listedStatus stores m).text
  pending : ∀ x ∈ names m f, Reports (trace stores true x).lifecycle "pending" ↔
    ∀ r ∈ stores.sent.rows, r.momt = some "DLR" → r.foreignId ≠ some f

/-- A row that the tenant may see. -/
def seen (stores : Stores) (row : SqlboxRow) : Bool :=
  (Text.truthy row.smscId).all stores.scope.contains

/-- Nothing but the message's row in the log is found under either of its numbers, or what is found
is its own and found under both. -/
structure Alone (stores : Stores) (m : SqlboxRow) (f : String) : Prop where
  /-- It has no receipt. -/
  unreported : ∀ r ∈ stores.sent.rows, r.momt = some "DLR" → r.foreignId ≠ some f
  /-- No other row of the log that the tenant sees carries one of its numbers. -/
  logged : ∀ x ∈ names m f, ∀ r ∈ stores.sent.rows, seen stores r = true → readBy x r = true → r = m
  /-- The spool row it was spooled as is not marked as a report. -/
  unmarked : ∀ s ∈ stores.spool.rows, toString s.sqlId = f → s.momt ≠ some "DLR"
  /-- The spool rows that carry one of its numbers are the one it was spooled as. -/
  spooled : ∀ x ∈ names m f, ∀ s ∈ stores.spool.rows,
    (seen stores s = true ∧ readBy x s = true) ↔ toString s.sqlId = f
  /-- The oldest decision that mentions one of its numbers is the oldest that was made for it. -/
  decided : ∀ x ∈ names m f, ∀ d,
    Ranking.Leads compareDecisions (stores.decisions.filter (·.readBy x)) d ↔
      Ranking.Leads compareDecisions (stores.decisions.filter (·.messageRef = some f)) d
  /-- An attempt of a chain is found under both numbers or under none. -/
  retried : ∀ a ∈ stores.attempts, a.originMessageRef = toString m.sqlId ↔ a.originMessageRef = f

variable {stores : Stores} {m : SqlboxRow} {f x y : String}

/-! ## What a trace fetches -/

instance : Std.TransCmp compareDecisions :=
  Ranking.transCmp_on compare DecisionRow.createdAt

/-- The rows fetched under one number, as far as the tenant sees them. -/
def fetched (stores : Stores) (x : String) (row : SqlboxRow) : Bool :=
  seen stores row && readBy x row

/-- A message that the tenant sees makes the trace its own to see. -/
structure Listed (stores : Stores) (m : SqlboxRow) (f : String) : Prop where
  mem : m ∈ stores.sent.rows
  mt : m.momt = some "MT"
  foreign : m.foreignId = some f
  bind : m.smscId.any stores.scope.contains = true

section

variable (h : Listed stores m f)
include h

theorem Listed.truthy :
    (Text.truthy m.smscId).any stores.scope.contains = true := by
  have hbind := h.bind
  cases hsmsc : m.smscId with
  | none =>
    rw [hsmsc] at hbind
    cases hbind
  | some id =>
    rw [hsmsc, Option.any_some, contains_iff_mem] at hbind
    have hne : id ≠ "" := fun he => stores.formatted (he ▸ hbind)
    rw [Text.truthy, if_neg hne, Option.any_some, contains_iff_mem]
    exact hbind

theorem Listed.seen : seen stores m = true := by
  have htruthy := h.truthy
  rw [Diagnostics.seen]
  cases hid : Text.truthy m.smscId with
  | none => rfl
  | some id =>
    rw [hid] at htruthy
    exact htruthy

theorem Listed.read (hx : x ∈ names m f) : readBy x m = true := by
  rcases mem_pair.mp hx with rfl | rfl
  · simp [readBy]
  · simp [readBy, h.foreign]

/-- What the trace fetches of the engine. -/
theorem trace_events (hx : x ∈ names m f) :
    (trace stores true x).events =
      (((stores.spool.rows.filter (fetched stores x)).insertionSort
          (compareRows · · ≠ .gt)).map spoolEvent ++
        ((stores.sent.rows.filter (fetched stores x)).insertionSort
          (compareRows · · ≠ .gt)).map (sentEvent stores.sent.rows)).insertionSort
        (compareEvents · · ≠ .gt) := by
  have howned : ((((stores.spool.rows.filter (readBy x)).insertionSort
          (compareRows · · ≠ .gt)).map spoolEvent ++
        ((stores.sent.rows.filter (readBy x)).insertionSort
          (compareRows · · ≠ .gt)).map (sentEvent stores.sent.rows)).any fun e =>
        (Text.truthy e.row.smscId).any stores.scope.contains) = true := by
    rw [any_append, Bool.or_eq_true, any_map, any_eq_true, any_map, any_eq_true]
    refine .inr ⟨m, ?_, h.truthy⟩
    rw [mem_insertionSort]
    exact mem_filter.mpr ⟨h.mem, h.read hx⟩
  have hfetched : ∀ event : SqlboxRow → EngineEvent, (∀ row, (event row).row = row) →
      ∀ rows : List SqlboxRow,
      (((rows.filter (readBy x)).insertionSort (compareRows · · ≠ .gt)).map event).filter
          (visible stores.scope) =
        ((rows.filter (fetched stores x)).insertionSort (compareRows · · ≠ .gt)).map event := by
    intro event hevent rows
    rw [filter_map, Ranking.filter_insertionSort, filter_filter]
    congr 3
    funext row
    simp [fetched, Diagnostics.seen, visible, hevent]
  simp only [trace, if_true, engineTrace]
  rw [if_pos howned, filter_append, hfetched spoolEvent fun _ => rfl,
    hfetched (sentEvent stores.sent.rows) fun _ => rfl]

end

variable {e : EngineEvent} {s : TraceStage} {stages : List TraceStage}

theorem mem_trace_events (h : Listed stores m f) (hx : x ∈ names m f) :
    e ∈ (trace stores true x).events ↔ e ∈ allEvents stores ∧ fetched stores x e.row = true := by
  rw [trace_events h hx, mem_insertionSort, allEvents, mem_append, mem_append]
  simp only [mem_map, mem_insertionSort, mem_filter]
  constructor
  · rintro (⟨row, ⟨hrow, hfetched⟩, rfl⟩ | ⟨row, ⟨hrow, hfetched⟩, rfl⟩)
    · exact ⟨.inl ⟨row, hrow, rfl⟩, hfetched⟩
    · exact ⟨.inr ⟨row, hrow, rfl⟩, hfetched⟩
  · rintro ⟨⟨row, hrow, rfl⟩ | ⟨row, hrow, rfl⟩, hfetched⟩
    · exact .inl ⟨row, ⟨hrow, hfetched⟩, rfl⟩
    · exact .inr ⟨row, ⟨hrow, hfetched⟩, rfl⟩

/-! ## What a trace reports -/

theorem mem_withLatency {previous : Option Int} {stage : TraceStage}
    (h : stage ∈ withLatency previous stages) :
    ∃ s ∈ stages, s.kind = stage.kind ∧ s.facts = stage.facts := by
  induction stages generalizing previous with
  | nil => cases h
  | cons s stages ih =>
    rcases mem_cons.mp h with rfl | h
    · exact ⟨s, mem_cons_self, rfl, rfl⟩
    · obtain ⟨s', hs', hkind, hfacts⟩ := ih h
      exact ⟨s', mem_cons_of_mem s hs', hkind, hfacts⟩

theorem exists_withLatency (previous : Option Int) (h : s ∈ stages) :
    ∃ stage ∈ withLatency previous stages, s.kind = stage.kind ∧ s.facts = stage.facts := by
  induction stages generalizing previous with
  | nil => cases h
  | cons s' stages ih =>
    rcases mem_cons.mp h with rfl | h
    · exact ⟨_, mem_cons_self, rfl, rfl⟩
    · obtain ⟨stage, hstage, hsame⟩ := ih (s'.at_.or previous) h
      exact ⟨stage, mem_cons_of_mem _ hstage, hsame⟩

section Stages

variable {decision : Option RouteDecisionInput} {events : List EngineEvent}
  {retries : List RetryAttemptInput}

theorem receiptStages_kind (h : s ∈ receiptStages events) : s.kind = .receipt := by
  rw [receiptStages] at h
  split at h
  · rw [mem_singleton] at h
    rw [h]
    rfl
  · split at h
    · rw [mem_singleton] at h
      rw [h]
      rfl
    · cases h

/-- The stages of kind `receipt` are those of the receipts. -/
theorem mem_unsortedStages_receipt (hkind : s.kind = .receipt) :
    s ∈ unsortedStages decision events retries ↔ s ∈ receiptStages events := by
  have hother : ∀ {t : TraceStage}, t.kind ≠ .receipt → s ≠ t := by
    rintro t ht rfl
    exact ht hkind
  have hno : ∀ {α : Type} {stage : α → TraceStage} {o : Option α},
      (∀ a, (stage a).kind ≠ .receipt) → s ∉ (o.map stage).toList := by
    intro α stage o hstage hs
    cases o with
    | none => cases hs
    | some a => exact hother (hstage a) (mem_singleton.mp hs)
  have hretries : s ∉ retries.map retryStage := by
    intro hs
    obtain ⟨a, -, rfl⟩ := mem_map.mp hs
    cases hkind
  simp only [unsortedStages, mem_append]
  constructor
  · rintro ((((h | h) | h) | h) | h)
    · exact absurd h (hno fun _ => by intro hk; cases hk)
    · exact absurd h (hno fun _ => by intro hk; cases hk)
    · exact absurd h (hno fun _ => by intro hk; cases hk)
    · exact absurd h hretries
    · exact h
  · exact fun h => .inr h

/-- A trace reports what its receipt stage says. -/
theorem reports_iff {status : String} :
    Reports (assembleTrace decision events retries) status ↔
      receiptStages events ≠ [] ∧
        ∀ s ∈ receiptStages events, s.facts.lookup "status" = some (.text status) := by
  have hsorted : ∀ {s : TraceStage}, s.kind = .receipt →
      (s ∈ (unsortedStages decision events retries).insertionSort (compareStages · · ≠ .gt) ↔
        s ∈ receiptStages events) := by
    intro s hkind
    rw [mem_insertionSort]
    exact mem_unsortedStages_receipt hkind
  constructor
  · rintro ⟨⟨stage, hstage, hkind⟩, hall⟩
    obtain ⟨s, hs, hskind, -⟩ := mem_withLatency hstage
    refine ⟨ne_nil_of_mem ((hsorted (hskind.trans hkind)).mp hs), fun s hs => ?_⟩
    have hskind := receiptStages_kind hs
    obtain ⟨stage, hstage, hkind, hfacts⟩ := exists_withLatency none ((hsorted hskind).mpr hs)
    rw [hfacts]
    exact hall stage hstage (hkind ▸ hskind)
  · rintro ⟨hne, hall⟩
    refine ⟨?_, fun stage hstage hkind => ?_⟩
    · obtain ⟨s, hs⟩ := exists_mem_of_ne_nil _ hne
      have hskind := receiptStages_kind hs
      obtain ⟨stage, hstage, hkind, -⟩ := exists_withLatency none ((hsorted hskind).mpr hs)
      exact ⟨stage, hstage, hkind ▸ hskind⟩
    · obtain ⟨s, hs, hskind, hfacts⟩ := mem_withLatency hstage
      rw [← hfacts]
      exact hall s ((hsorted (hskind.trans hkind)).mp hs)

/-- With a receipt, a trace reports the status of the last one. -/
theorem reports_of_receipt {e : EngineEvent} {status : String} (he : e ∈ events)
    (hdlr : e.direction = "DLR") (h : Reports (assembleTrace decision events retries) status) :
    ∃ receipt ∈ events, receipt.direction = "DLR" ∧ receipt.deliveryStatus.text = status := by
  have hmem : e ∈ events.filter (·.direction = "DLR") :=
    mem_filter.mpr ⟨he, decide_eq_true hdlr⟩
  obtain ⟨-, hall⟩ := reports_iff.mp h
  cases hlast : (events.filter (·.direction = "DLR")).getLast? with
  | none =>
    rw [getLast?_eq_none_iff] at hlast
    rw [hlast] at hmem
    cases hmem
  | some receipt =>
    obtain ⟨hreceipt, hdirection⟩ := mem_filter.mp (mem_of_getLast? hlast)
    refine ⟨receipt, hreceipt, of_decide_eq_true hdirection, ?_⟩
    have hstage := hall (receiptStage receipt (events.filter (·.direction = "DLR")).length) (by
      rw [receiptStages, hlast]
      exact mem_singleton_self _)
    exact Fact.text.inj (Option.some.inj hstage)

/-- Without one, it reports that the message is pending. -/
theorem reports_pending (hnone : ∀ e ∈ events, e.direction ≠ "DLR") {e : EngineEvent}
    (he : e ∈ events) (hsent : e.source = .sentSms) :
    Reports (assembleTrace decision events retries) "pending" := by
  have hreceipts : events.filter (·.direction = "DLR") = [] := by
    rw [filter_eq_nil_iff]
    exact fun e he hd => hnone e he (of_decide_eq_true hd)
  have hany : (events.any fun e => e.source = .sentSms ∧ e.direction ≠ "DLR") = true :=
    any_eq_true.mpr ⟨e, he, decide_eq_true ⟨hsent, hnone e he⟩⟩
  have hstages : receiptStages events = [pendingStage] := by
    rw [receiptStages, hreceipts, getLast?_nil]
    exact if_pos hany
  rw [reports_iff, hstages]
  refine ⟨cons_ne_nil _ _, fun s hs => ?_⟩
  rw [mem_singleton.mp hs]
  rfl

end Stages

/-! ## Faithful and alone -/

theorem mem_allEvents_sent {r : SqlboxRow} (h : r ∈ stores.sent.rows) :
    sentEvent stores.sent.rows r ∈ allEvents stores :=
  mem_append_right _ (mem_map_of_mem h)

theorem mem_allEvents_spool {s : SqlboxRow} (h : s ∈ stores.spool.rows) :
    spoolEvent s ∈ allEvents stores :=
  mem_append_left _ (mem_map_of_mem h)

/-- What the log says of a message is never what a receipt's row is marked with. -/
theorem listedStatus_ne (hmt : m.momt = some "MT") (he : e ∈ allEvents stores)
    (hdlr : e.direction = "DLR") : e.deliveryStatus.text ≠ (listedStatus stores m).text := by
  have hlisted : listedStatus stores m ≠ .queued ∧ listedStatus stores m ≠ .deliveryReport := by
    have hnot : m.momt ≠ some "DLR" := by rw [hmt]; decide
    simp only [listedStatus, classify, Bool.false_eq_true, if_false, deliveryStatusSql, if_neg hnot]
    split
    · exact ⟨by decide, by decide⟩
    · rw [decodeDlrMask]
      split_ifs <;> exact ⟨by decide, by decide⟩
  have hmarked : e.deliveryStatus = .queued ∨ e.deliveryStatus = .deliveryReport := by
    rcases mem_append.mp he with he | he
    · obtain ⟨row, -, rfl⟩ := mem_map.mp he
      exact .inl rfl
    · obtain ⟨row, -, rfl⟩ := mem_map.mp he
      have hrow : row.momt = some "DLR" := by
        cases hmomt : row.momt with
        | none =>
          simp [direction, sentEvent, hmomt] at hdlr
        | some momt =>
          simp only [direction, sentEvent, hmomt, Option.getD_some] at hdlr
          rw [hdlr]
      exact .inr (by simp [sentEvent, classify, deliveryStatusSql, hrow])
  intro h
  have hinj : ∀ {s t : DeliveryStatus}, s.text = t.text → s = t := by
    intro s t hst
    cases s <;> cases t <;> first | rfl | exact absurd hst (by decide)
  rcases hmarked with hs | hs
  · exact hlisted.1 (hinj h ▸ hs)
  · exact hlisted.2 (hinj h ▸ hs)

theorem direction_of_dlr (h : e.row.momt = some "DLR") : e.direction = "DLR" := by
  rw [direction, h]
  rfl

theorem momt_of_direction (h : e.direction = "DLR") : e.row.momt = some "DLR" := by
  cases hmomt : e.row.momt with
  | none =>
    rw [direction, hmomt] at h
    split at h
    · exact absurd h (by decide)
    · exact absurd h (by decide)
  | some momt =>
    rw [direction, hmomt] at h
    exact congrArg some h

theorem self_mem_names : f ∈ names m f := mem_pair.mpr (.inr rfl)

section

variable (hlisted : Listed stores m f)
include hlisted

/-- A faithful trace meets no receipt. -/
theorem Faithful.no_receipt (h : Faithful stores m f)
    (he : e ∈ allEvents stores) (hown : Own m f e) : e.row.momt ≠ some "DLR" := by
  intro hdlr
  have hmem := ((h.made f self_mem_names).events e).mpr ⟨he, hown⟩
  obtain ⟨receipt, hreceipt, hdirection, hstatus⟩ :=
    reports_of_receipt hmem (direction_of_dlr hdlr) (h.reports f self_mem_names)
  exact listedStatus_ne hlisted.mt (((h.made f self_mem_names).events receipt).mp hreceipt).1
    hdirection hstatus

theorem Faithful.alone (h : Faithful stores m f) :
    Alone stores m f := by
  have hunreported : ∀ r ∈ stores.sent.rows, r.momt = some "DLR" → r.foreignId ≠ some f :=
    fun r hr hdlr hforeign =>
      h.no_receipt hlisted (mem_allEvents_sent hr) (.inr ⟨hdlr, hforeign⟩) hdlr
  refine ⟨hunreported, fun x hx r hr hseen hread => ?_, fun s hs hf => ?_, fun x hx s hs => ?_,
    fun x hx d => ?_, fun a ha => ?_⟩
  · have hfetched : fetched stores x r = true := by rw [fetched, hseen, hread]; rfl
    have hmem := (mem_trace_events hlisted hx).mpr ⟨mem_allEvents_sent hr, hfetched⟩
    rcases (((h.made x hx).events _).mp hmem).2 with hm | ⟨hdlr, hforeign⟩
    · exact hm
    · exact absurd hforeign (hunreported r hr hdlr)
  · exact h.no_receipt hlisted (e := spoolEvent s) (mem_allEvents_spool hs) hf
  · have hiff := (mem_trace_events hlisted hx (e := spoolEvent s)).symm.trans
      ((h.made x hx).events (spoolEvent s))
    simp only [mem_allEvents_spool hs, true_and] at hiff
    rw [← Bool.and_eq_true]
    exact hiff
  · rw [← Ranking.head?_insertionSort_iff, ← Ranking.head?_insertionSort_iff]
    exact Eq.congr (h.made x hx).decision rfl
  · have hattempts := (h.made (toString m.sqlId) mem_cons_self).attempts
    have hmem : ∀ origin, a ∈ attemptsOf stores.attempts origin ↔ a.originMessageRef = origin := by
      intro origin
      rw [attemptsOf, mem_insertionSort, mem_filter, decide_eq_true_eq]
      exact and_iff_right ha
    rw [← hmem, ← hmem, hattempts]

section

variable (h : Alone stores m f)
include h

theorem Alone.mem_events (hx : x ∈ names m f) (e : EngineEvent) :
    e ∈ (trace stores true x).events ↔ e ∈ allEvents stores ∧ Own m f e := by
  rw [mem_trace_events hlisted hx]
  refine and_congr_right fun he => ?_
  rcases mem_append.mp he with he | he
  · obtain ⟨s, hs, rfl⟩ := mem_map.mp he
    rw [fetched, Bool.and_eq_true]
    exact h.spooled x hx s hs
  · obtain ⟨r, hr, rfl⟩ := mem_map.mp he
    rw [fetched, Bool.and_eq_true]
    constructor
    · exact fun hfetched => .inl (h.logged x hx r hr hfetched.1 hfetched.2)
    · rintro (hm | ⟨hdlr, hforeign⟩)
      · obtain rfl : r = m := hm
        exact ⟨hlisted.seen, hlisted.read hx⟩
      · exact absurd hforeign (h.unreported r hr hdlr)

theorem Alone.reports_pending
    (hx : x ∈ names m f) : Reports (trace stores true x).lifecycle "pending" := by
  have hm : sentEvent stores.sent.rows m ∈ (trace stores true x).events :=
    (h.mem_events hlisted hx _).mpr ⟨mem_allEvents_sent hlisted.mem, .inl rfl⟩
  refine Diagnostics.reports_pending (fun e he hdirection => ?_) hm rfl
  obtain ⟨hall, hown⟩ := (h.mem_events hlisted hx e).mp he
  have hdlr := momt_of_direction hdirection
  rcases mem_append.mp hall with hall | hall
  · obtain ⟨s, hs, rfl⟩ := mem_map.mp hall
    exact h.unmarked s hs hown hdlr
  · obtain ⟨r, hr, rfl⟩ := mem_map.mp hall
    rcases hown with hm | ⟨-, hforeign⟩
    · obtain rfl : r = m := hm
      rw [show (sentEvent stores.sent.rows r).row.momt = some "MT" from hlisted.mt] at hdlr
      exact absurd hdlr (by decide)
    · exact h.unreported r hr hdlr hforeign

theorem Alone.listedStatus :
    listedStatus stores m = .pending := by
  have hnot : m.momt ≠ some "DLR" := by rw [hlisted.mt]; decide
  have hlatest : latestDlr stores.sent.rows m = none := by
    have hnone : (stores.sent.rows.filter fun r =>
        r.momt = some "DLR" ∧ r.foreignId = m.foreignId) = [] := by
      rw [filter_eq_nil_iff]
      intro r hr hreceipt
      obtain ⟨hdlr, hforeign⟩ := of_decide_eq_true hreceipt
      exact h.unreported r hr hdlr (hforeign.trans hlisted.foreign)
    rw [latestDlr, hnone]
    split
    · rfl
    · rfl
  simp [Diagnostics.listedStatus, classify, deliveryStatusSql, hnot, hlatest]

/-- Under both numbers the same rows are fetched. -/
theorem Alone.events_eq :
    (trace stores true (toString m.sqlId)).events = (trace stores true f).events := by
  have hi : toString m.sqlId ∈ names m f := mem_cons_self
  have hiff : ∀ e ∈ allEvents stores, fetched stores (toString m.sqlId) e.row = true ↔
      fetched stores f e.row = true := by
    intro e he
    have hown := (h.mem_events hlisted hi e).trans (h.mem_events hlisted self_mem_names e).symm
    rw [mem_trace_events hlisted hi, mem_trace_events hlisted self_mem_names] at hown
    exact and_congr_right_iff.mp hown he
  have hspool : stores.spool.rows.filter (fetched stores (toString m.sqlId)) =
      stores.spool.rows.filter (fetched stores f) :=
    filter_congr fun s hs => Bool.eq_iff_iff.mpr (hiff _ (mem_allEvents_spool hs))
  have hsent : stores.sent.rows.filter (fetched stores (toString m.sqlId)) =
      stores.sent.rows.filter (fetched stores f) :=
    filter_congr fun r hr => Bool.eq_iff_iff.mpr (hiff _ (mem_allEvents_sent hr))
  rw [trace_events hlisted hi, trace_events hlisted self_mem_names, hspool, hsent]

theorem Alone.faithful :
    Faithful stores m f := by
  have hmade : ∀ x ∈ names m f, MadeOfOwn stores m f x := by
    intro x hx
    refine ⟨h.mem_events hlisted hx, ?_, ?_⟩
    · refine Option.ext fun d => ?_
      rw [oldest, oldest, Ranking.head?_insertionSort_iff, Ranking.head?_insertionSort_iff]
      exact h.decided x hx d
    · rcases mem_pair.mp hx with rfl | rfl
      · rw [attemptsOf, attemptsOf]
        congr 1
        refine filter_congr fun a ha => ?_
        exact decide_eq_decide.mpr (h.retried a ha)
      · rfl
  have hlifecycle : ∀ x, (trace stores true x).lifecycle =
      assembleTrace ((oldest stores.decisions (·.readBy x)).map DecisionRow.decision)
        (trace stores true x).events ((attemptsOf stores.attempts x).map AttemptRow.attempt) :=
    fun _ => rfl
  refine ⟨hmade, ?_, fun x hx => ?_, fun x hx => ?_⟩
  · have hi := hmade (toString m.sqlId) mem_cons_self
    have hf := hmade f self_mem_names
    rw [hlifecycle, hlifecycle, h.events_eq hlisted, hi.decision, hf.decision, hi.attempts]
  · rw [h.listedStatus hlisted]
    exact h.reports_pending hlisted hx
  · exact ⟨fun _ => h.unreported, fun _ => h.reports_pending hlisted hx⟩

end

end

/-- **When the trace of a message is its own**: exactly when it has no receipt and nothing else
carries either of its numbers, or everything that does is its own and carries both. -/
theorem trace_faithful_iff (hlisted : Listed stores m f) :
    Faithful stores m f ↔ Alone stores m f :=
  ⟨fun h => h.alone hlisted, fun h => h.faithful hlisted⟩

/-- A message out on the first bind, logged under 7 and spooled as 3. -/
def loggedMessage : SqlboxRow :=
  ⟨7, some "MT", some "ACME", some "256772123456", some "hi", some 100, some "smsc-a", some 31,
    some "3"⟩

/-- Its delivery receipt. -/
def loggedReceipt : SqlboxRow :=
  { loggedMessage with
    sqlId := 8
    momt := some "DLR"
    time := some 160
    dlrMask := some 1 }

/-- A log that the service made no decision for. -/
def replayed : Stores where
  sent := ⟨[loggedMessage], by decide, by decide⟩
  spool := ⟨[], nodup_nil, serial_nil⟩
  decisions := []
  attempts := []
  scope := ["smsc-a"]
  formatted := by decide

/-- The decision of a message that was routed. -/
def routedAs (ref : String) : DecisionRow :=
  ⟨some ref, none, 90000, ⟨some "uganda", some "priority", some "smsc-a", none, false,
    some "routed", none, some 1, none, some 90000⟩⟩

/-- A message that was routed and delivered. -/
def delivered : Stores :=
  { replayed with
    sent := ⟨[loggedMessage, loggedReceipt], by decide, by decide⟩
    decisions := [routedAs "3"] }

theorem trace_faithful_iff_replayed : Faithful replayed loggedMessage "3" := by
  refine (trace_faithful_iff ⟨by decide, by decide, by decide, by decide⟩).mpr ?_
  refine ⟨by decide, by decide, by decide, by decide, fun x _ d => Iff.rfl, by decide⟩

/-- The log shows a message as delivered, and its trace says neither. -/
theorem delivered_not_faithful : Listed delivered loggedMessage "3" ∧
    listedStatus delivered loggedMessage = .delivered ∧
    ¬ Faithful delivered loggedMessage "3" := by
  have hlisted : Listed delivered loggedMessage "3" := ⟨by decide, by decide, by decide, by decide⟩
  refine ⟨hlisted, by decide, fun h => ?_⟩
  have hpending : (trace delivered true "7").lifecycle.stages.all (fun stage =>
      stage.kind = .receipt → stage.facts.lookup "status" = some (.text "pending")) = true := by
    decide +kernel
  obtain ⟨⟨stage, hstage, hkind⟩, hall⟩ := h.reports "7" (by decide)
  have hstatus := of_decide_eq_true (all_eq_true.mp hpending stage hstage) hkind
  rw [hall stage hstage hkind] at hstatus
  exact absurd hstatus (by decide)

end Jkannel.Diagnostics
