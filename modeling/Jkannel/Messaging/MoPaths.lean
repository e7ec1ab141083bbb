import Jkannel.Messaging.MoFanOut

/-!
# Two ways in

An inbound message can be pushed over HTTP and can be found in the engine's log by a sweep, each
any number of times.  Every arrival is one transaction of the pipeline, and what makes a repeat
harmless is the key the message is inserted under.  The two ways derive different keys: a push goes
by the reference it carries, when it carries one, and a sweep by the engine's number.

* `Arrival` is one arrival of a message, and `arrive` its transaction.  The messages are the
  engine's, by number, and a push may carry any reference.
* `OnePath` is the condition under which a message ends up with one row: it is swept, and no push of
  it is new, or it is never swept, and one push of it is.  A push is new when it carries no
  reference, or is the first to carry the reference it does.
* `ingest_exactly_once_iff` says that the condition is exact, whatever else arrives and however the
  rules are edited in between.
* `push_and_sweep` is a message that came in both ways.
-/

namespace Jkannel.Messaging.Mo.Paths

open List
open Transition (Ack)

/-- How a message arrives. -/
inductive Path where
  /-- It is pushed, under a reference if the push carries one. -/
  | push (externalRef : Option String)
  /-- A sweep finds it in the engine's log. -/
  | sweep
  deriving DecidableEq

/-- One arrival of a message, with the rules its transaction reads. -/
structure Arrival where
  /-- The engine's number for the message. -/
  message : Nat
  path : Path
  tables : RuleTables
  now : Int
  /-- How the transaction ends. -/
  ack : Ack

/-- The pipeline's tables, and which message each row of `mo_messages` was ingested for. -/
structure State where
  store : Store
  origins : List Nat

def init : State := ⟨Store.empty, []⟩

section Paths

variable (text : TextEngine) (countryCode : Option String) (engine : Nat → IngestInput)

/-- What an arrival hands over. -/
def Arrival.input (a : Arrival) : IngestInput :=
  match a.path with
  | .push externalRef => { engine a.message with externalRef := externalRef }
  | .sweep => { engine a.message with externalRef := none }

/-- `prepareIngest`, as the two entry points call it. -/
def Arrival.prepared (a : Arrival) : Except String PreparedInbound :=
  match a.path with
  | .push _ => prepareIngest (a.input engine) .http none
  | .sweep => prepareIngest (a.input engine) .sqlbox (some (toString a.message))

/-- The transaction of an arrival. -/
def arrive (s : State) (a : Arrival) : State :=
  match a.prepared engine with
  -- refused before the transaction
  | .error _ => s
  | .ok p =>
    if a.ack.committed then
      let ingested := s.store.ingestInClient text countryCode a.tables a.now p
      { store := ingested.1
        origins := if ingested.2.duplicate then s.origins else s.origins ++ [a.message] }
    else s

/-- The pipeline as a transition system. -/
def pipeline : Transition.System State Arrival := ⟨fun s a => some (arrive text countryCode engine s a)⟩

/-- The rows a message was ingested as. -/
def State.rowsOf (s : State) (n : Nat) : List MoMessage :=
  ((s.store.messages.zip s.origins).filter fun p => decide (p.2 = n)).map Prod.fst

/-- **What ingest promises** of a message: one row, with the one set of deliveries and jobs that
the rules an arrival of it found ask for. -/
def IngestedOnce (arrivals : List Arrival) (s : State) (n : Nat) : Prop :=
  ∃ row, s.rowsOf n = [row] ∧
    ∃ a ∈ arrivals, a.message = n ∧ OneSet text countryCode a.tables s.store row

/-! ## The condition -/

/-- An arrival gets through: its message meets the checks, and its transaction commits. -/
def Lands (a : Arrival) : Bool :=
  a.ack.committed && decide (Accepts (engine a.message))

/-- The reference of a push, cut to what is stored of it; nothing when that is blank. -/
def Arrival.reference (a : Arrival) : Option String :=
  match a.path with
  | .push externalRef =>
    Text.truthy ((Text.truthy externalRef).map fun ref => Text.clip 190 (Text.trim ref))
  | .sweep => none

/-- A push that gets through and is new: it carries no reference, or no push before it that got
through carried the same. -/
def NewPush (before : List Arrival) (a : Arrival) : Bool :=
  Lands engine a && decide (a.path ≠ .sweep) &&
    (a.reference.isNone ||
      before.all fun b => !(Lands engine b && decide (b.reference = a.reference)))

/-- How many of the pushes of a message are new, each among those before it. -/
def newPushes (n : Nat) : List Arrival → List Arrival → Nat
  | _, [] => 0
  | before, a :: rest =>
    (if NewPush engine before a && decide (a.message = n) then 1 else 0) +
      newPushes n (before ++ [a]) rest

/-- A sweep brings the message in. -/
def Swept (arrivals : List Arrival) (n : Nat) : Bool :=
  arrivals.any fun a => Lands engine a && decide (a.path = .sweep) && decide (a.message = n)

/-- **The condition**: the message is swept and none of its pushes is new, or it is never swept and
one of its pushes is. -/
def OnePath (arrivals : List Arrival) (n : Nat) : Prop :=
  if Swept engine arrivals n then newPushes engine n [] arrivals = 0
  else newPushes engine n [] arrivals = 1

/-! ## Keys -/

/-- The key an arrival's message is inserted under. -/
def Arrival.key (a : Arrival) : Option String :=
  match a.path with
  | .push _ => a.reference.map ("http:" ++ ·)
  | .sweep => some (sqlboxKey (toString a.message))

theorem toString_ne_empty (n : Nat) : toString n ≠ "" := by
  intro h
  have hlen := congrArg String.length h
  simp at hlen

/-- A push is inserted under its reference. -/
theorem prepareIngest_push {input : IngestInput} (h : Accepts input) :
    ∃ p, prepareIngest input .http none = .ok p ∧ p.dedupeKey =
      (Text.truthy ((Text.truthy input.externalRef).map fun ref =>
        Text.clip 190 (Text.trim ref))).map ("http:" ++ ·) := by
  obtain ⟨hsender, hreceiver, hslen, hrlen, hbody⟩ := h
  rw [prepareIngest, if_neg hsender, if_neg hreceiver, if_neg (by omega), if_neg (by omega)]
  exact ⟨_, rfl, rfl⟩

variable {a : Arrival} {before : List Arrival} {s : State}

theorem prepared_ok (h : Accepts (engine a.message)) :
    ∃ p, a.prepared engine = .ok p ∧ p.dedupeKey = a.key := by
  have hchecks : ∀ externalRef,
      Accepts { engine a.message with externalRef := externalRef } := fun _ => h
  rcases hpath : a.path with ref | _
  · simp only [Arrival.prepared, Arrival.input, Arrival.key, Arrival.reference, hpath]
    exact prepareIngest_push (hchecks ref)
  · obtain ⟨p, hp, hkey⟩ := prepareIngest_ok (hchecks none) .sqlbox (some (toString a.message))
    have htruthy : Text.truthy (some (toString a.message)) = some (toString a.message) :=
      if_neg (toString_ne_empty _)
    rw [htruthy] at hkey
    simp only [Arrival.prepared, Arrival.input, Arrival.key, hpath]
    exact ⟨p, hp, hkey⟩

theorem prepared_error (h : ¬ Accepts (engine a.message)) : ∃ e, a.prepared engine = .error e := by
  have hchecks : ∀ externalRef,
      ¬ Accepts { engine a.message with externalRef := externalRef } := fun _ => h
  rcases hpath : a.path with ref | _
  · simp only [Arrival.prepared, Arrival.input, hpath]
    exact prepareIngest_error (hchecks ref) _ _
  · simp only [Arrival.prepared, Arrival.input, hpath]
    exact prepareIngest_error (hchecks none) _ _

/-- An arrival that gets through does so under a key no arrival before it had. -/
def Inserts (before : List Arrival) (a : Arrival) : Prop :=
  Lands engine a = true ∧
    ∀ key, a.key = some key → ∀ b ∈ before, Lands engine b = true → b.key ≠ some key

theorem key_eq_http {b : Arrival} {ref : String} :
    b.key = some ("http:" ++ ref) ↔ b.reference = some ref := by
  rcases hb : b.path with r | _
  · simp only [Arrival.key, hb]
    rcases b.reference with _ | ref' <;> simp
  · simp only [Arrival.key, Arrival.reference, hb, Option.some.injEq]
    exact ⟨fun h => absurd h.symm httpKey_ne, nofun⟩

theorem key_of_push (hpath : a.path ≠ .sweep) : a.key = a.reference.map ("http:" ++ ·) := by
  rcases hp : a.path with r | _
  · simp only [Arrival.key, hp]
  · exact absurd hp hpath

/-- A push inserts when it is new. -/
theorem inserts_push (hpath : a.path ≠ .sweep) :
    Inserts engine before a ↔ NewPush engine before a = true := by
  simp only [Inserts, NewPush, Bool.and_eq_true, Bool.or_eq_true, decide_eq_true_eq,
    all_eq_true, Bool.not_eq_true', Bool.and_eq_false_iff, decide_eq_false_iff_not]
  rcases href : a.reference with _ | ref
  · have hkey : a.key = none := by rw [key_of_push hpath, href, Option.map_none]
    simp [hkey, hpath]
  · have hkey : a.key = some ("http:" ++ ref) := by rw [key_of_push hpath, href, Option.map_some]
    constructor
    · rintro ⟨hl, hnew⟩
      refine ⟨⟨hl, hpath⟩, .inr fun b hb => ?_⟩
      by_cases hlb : Lands engine b = true
      · exact .inr fun heq => hnew _ hkey b hb hlb (key_eq_http.mpr heq)
      · exact .inl (by simpa using hlb)
    · rintro ⟨⟨hl, -⟩, hnew⟩
      refine ⟨hl, fun key heq b hb hlb hbkey => ?_⟩
      obtain rfl := Option.some.inj (hkey.symm.trans heq)
      rcases hnew with hnone | hall
      · cases hnone
      · rcases hall b hb with hno | hne
        · rw [hlb] at hno
          cases hno
        · exact hne (key_eq_http.mp hbkey)

/-- A sweep inserts the first time it brings the message in. -/
theorem inserts_sweep (hpath : a.path = .sweep) :
    Inserts engine before a ↔
      Lands engine a = true ∧ Swept engine before a.message = false := by
  have hkey : a.key = some (sqlboxKey (toString a.message)) := by
    simp only [Arrival.key, hpath]
  have hiff : ∀ b : Arrival, b.key = some (sqlboxKey (toString a.message)) ↔
      b.path = .sweep ∧ b.message = a.message := by
    intro b
    rcases hb : b.path with r | _
    · simp only [Arrival.key, hb]
      rcases b.reference with _ | ref
      · simp
      · simp [httpKey_ne]
    · simp only [Arrival.key, hb, Option.some.injEq, true_and]
      exact ⟨sqlboxKey_inj, fun h => by rw [h]⟩
  simp only [Inserts, hkey, Option.some.injEq, forall_eq', Swept, any_eq_false,
    Bool.and_eq_true, decide_eq_true_eq, not_and, ne_eq, hiff]
  constructor
  · rintro ⟨hl, hnew⟩
    exact ⟨hl, fun b hb ⟨hlb, hsweep⟩ hmsg => hnew b hb hlb hsweep hmsg⟩
  · rintro ⟨hl, hnew⟩
    exact ⟨hl, fun b hb hlb hsweep hmsg => hnew b hb ⟨hlb, hsweep⟩ hmsg⟩

/-! ## Runs -/

/-- What the tables hold after the arrivals `before`. -/
structure Traced (before : List Arrival) (s : State) : Prop where
  sound : s.store.Sound
  origins : s.origins.length = s.store.messages.length
  /-- The keys that are taken are those of the arrivals that got through. -/
  keys : ∀ key, (∃ m ∈ s.store.messages, m.inbound.dedupeKey = some key) ↔
    ∃ b ∈ before, Lands engine b = true ∧ b.key = some key
  /-- Every row has the one set an arrival of its message asked for. -/
  sets : ∀ p ∈ s.store.messages.zip s.origins, ∃ a ∈ before, a.message = p.2 ∧
    OneSet text countryCode a.tables s.store p.1

theorem traced_init : Traced text countryCode engine [] init where
  sound := Store.sound_empty
  origins := rfl
  keys := by simp [init, Store.empty]
  sets := by simp [init, Store.empty]

/-- What an arrival does: nothing when it does not insert, and otherwise one row with its set. -/
theorem arrive_cases (h : Traced text countryCode engine before s) (a : Arrival) :
    (¬ Inserts engine before a ∧ arrive text countryCode engine s a = s ∧
      (Lands engine a = true → ∀ key, a.key = some key →
        ∃ m ∈ s.store.messages, m.inbound.dedupeKey = some key)) ∨
    (Inserts engine before a ∧ ∃ row : MoMessage, row.id = s.store.messages.length ∧
      row.inbound.dedupeKey = a.key ∧
      row.fanoutCount =
        (targetsOf text countryCode a.tables row.inbound.context).length ∧
      arrive text countryCode engine s a = {
        store := s.store.withMessage a.now row
          (targetsOf text countryCode a.tables row.inbound.context)
        origins := s.origins ++ [a.message] }) := by
  by_cases hlands : Lands engine a = true
  · have hboth := hlands
    rw [Lands, Bool.and_eq_true, decide_eq_true_eq] at hboth
    obtain ⟨p, hp, hkey⟩ := prepared_ok engine hboth.2
    rcases s.store.ingestInClient_cases text countryCode a.tables a.now
        (fun _ hm => h.sound.message_lt hm) p with
      ⟨hstore, hdup, key, hpkey, m, hm, hmkey⟩ | ⟨hdup, hnew, row, hid, hrow, hcount, hstore⟩
    · refine .inl ⟨fun hins => ?_, ?_, fun _ key' hkey' => ?_⟩
      · obtain ⟨b, hb, hlb, hbkey⟩ := (h.keys key).mp ⟨m, hm, hmkey⟩
        exact hins.2 key (hkey.symm.trans hpkey) b hb hlb hbkey
      · rw [arrive, hp]
        simp only [hboth.1, if_true, hstore, hdup]
      · obtain rfl := Option.some.inj (hpkey.symm.trans (hkey.trans hkey'))
        exact ⟨m, hm, hmkey⟩
    · refine .inr ⟨⟨hlands, fun key hakey b hb hlb hbkey => ?_⟩, row, hid, ?_, ?_, ?_⟩
      · obtain ⟨m, hm, hmkey⟩ := (h.keys key).mpr ⟨b, hb, hlb, hbkey⟩
        exact hnew key (hkey.trans hakey) m hm hmkey
      · rw [hrow, hkey]
      · rw [hcount, hrow]
      · rw [arrive, hp]
        simp only [hboth.1, if_true, hstore, hdup, hrow]
        rfl
  · refine .inl ⟨fun hins => hlands hins.1, ?_, fun hl => absurd hl hlands⟩
    by_cases hchecks : Accepts (engine a.message)
    · obtain ⟨p, hp, -⟩ := prepared_ok engine hchecks
      have hack : ¬ a.ack.committed = true := fun hack => hlands (by
        rw [Lands, hack, decide_eq_true hchecks]
        rfl)
      rw [arrive, hp]
      simp only [if_neg hack]
    · obtain ⟨e, he⟩ := prepared_error engine hchecks
      rw [arrive, he]

/-- **One arrival.** -/
theorem Traced.arrive (h : Traced text countryCode engine before s) (a : Arrival) :
    Traced text countryCode engine (before ++ [a]) (arrive text countryCode engine s a) := by
  rcases arrive_cases text countryCode engine h a with
    ⟨-, hsame, htaken⟩ | ⟨hins, row, hid, hrow, hcount, harrive⟩
  · rw [hsame]
    refine ⟨h.sound, h.origins, fun key => ?_, fun p hp => ?_⟩
    · rw [h.keys key]
      simp only [mem_append, mem_singleton]
      constructor
      · rintro ⟨b, hb, hlb⟩
        exact ⟨b, .inl hb, hlb⟩
      · rintro ⟨b, hb | rfl, hlb, hbkey⟩
        · exact ⟨b, hb, hlb, hbkey⟩
        · exact (h.keys key).mp (htaken hlb key hbkey)
    · obtain ⟨b, hb, hset⟩ := h.sets p hp
      exact ⟨b, mem_append_left _ hb, hset⟩
  · rw [harrive]
    refine ⟨h.sound.withMessage a.now hid _, ?_, fun key => ?_, fun p hp => ?_⟩
    · simp only [Store.withMessage, length_append, length_singleton, h.origins]
    · simp only [Store.withMessage, mem_append, mem_singleton]
      constructor
      · rintro ⟨m, hm | rfl, hmkey⟩
        · obtain ⟨b, hb, hlb⟩ := (h.keys key).mp ⟨m, hm, hmkey⟩
          exact ⟨b, .inl hb, hlb⟩
        · exact ⟨a, .inr rfl, hins.1, hrow.symm.trans hmkey⟩
      · rintro ⟨b, hb | rfl, hlb, hbkey⟩
        · obtain ⟨m, hm, hmkey⟩ := (h.keys key).mpr ⟨b, hb, hlb, hbkey⟩
          exact ⟨m, .inl hm, hmkey⟩
        · exact ⟨row, .inr rfl, hrow.trans hbkey⟩
    · rw [Store.withMessage, zip_append h.origins.symm] at hp
      rcases mem_append.mp hp with hp | hp
      · obtain ⟨b, hb, hmsg, hset⟩ := h.sets p hp
        have hmem : p.1 ∈ s.store.messages := (of_mem_zip hp).1
        exact ⟨b, mem_append_left _ hb, hmsg,
          hset.withMessage text countryCode a.now h.sound hid _ hmem⟩
      · obtain rfl := mem_singleton.mp hp
        exact ⟨a, by simp, rfl, h.sound.oneSet_new text countryCode a.tables a.now hid hcount⟩

/-- An arrival adds a row of its own message when it inserts, and none otherwise. -/
theorem Traced.rowsOf (h : Traced text countryCode engine before s) (a : Arrival) (n : Nat)
    [Decidable (Inserts engine before a ∧ a.message = n)] :
    ((Paths.arrive text countryCode engine s a).rowsOf n).length =
      (s.rowsOf n).length + if Inserts engine before a ∧ a.message = n then 1 else 0 := by
  rcases arrive_cases text countryCode engine h a with
    ⟨hno, hsame, -⟩ | ⟨hins, row, -, -, -, harrive⟩
  · rw [hsame, if_neg fun hboth => hno hboth.1, Nat.add_zero]
  · simp only [harrive, State.rowsOf, Store.withMessage, zip_append h.origins.symm,
      filter_append, map_append, length_append]
    by_cases hmsg : a.message = n
    · rw [if_pos ⟨hins, hmsg⟩]
      simp [hmsg]
    · rw [if_neg fun hboth => hmsg hboth.2]
      simp [hmsg]

theorem swept_append (before : List Arrival) (a : Arrival) (n : Nat) :
    Swept engine (before ++ [a]) n = (Swept engine before n ||
      (Lands engine a && decide (a.path = .sweep) && decide (a.message = n))) := by
  rw [Swept, any_append, Swept, any_cons, any_nil, Bool.or_false]

/-- An arrival inserts as a new push or as a first sweep, and never as both. -/
theorem inserts_count (before : List Arrival) (a : Arrival) (n : Nat)
    [Decidable (Inserts engine before a ∧ a.message = n)] :
    (if Inserts engine before a ∧ a.message = n then 1 else 0) +
        (if Swept engine before n then 1 else 0) =
      (if NewPush engine before a && decide (a.message = n) then 1 else 0) +
        (if Swept engine (before ++ [a]) n then 1 else 0) := by
  by_cases hpath : a.path = .sweep
  · have hold : NewPush engine before a = false := by
      simp [NewPush, hpath]
    rw [swept_append, hold]
    simp only [hpath, Bool.false_and, Bool.and_true, decide_true, Bool.or_eq_true,
      Bool.and_eq_true, decide_eq_true_eq]
    by_cases hmsg : a.message = n
    · subst hmsg
      simp only [inserts_sweep engine hpath, and_true]
      by_cases hlands : Lands engine a = true <;> by_cases hswept : Swept engine before a.message <;>
        simp [hlands, hswept]
    · simp [hmsg]
  · rw [swept_append]
    simp only [inserts_push engine hpath, hpath, decide_false, Bool.and_false, Bool.false_and,
      Bool.or_false, Bool.and_eq_true, decide_eq_true_eq]

/-- **A run.**  The rows a message has gained are its new pushes and its first sweep. -/
theorem rowsOf_run (n : Nat) {rest : List Arrival} {s' : State}
    (h : Traced text countryCode engine before s)
    (hrun : (pipeline text countryCode engine).run s rest = some s') :
    Traced text countryCode engine (before ++ rest) s' ∧
      (s'.rowsOf n).length + (if Swept engine before n then 1 else 0) =
        (s.rowsOf n).length + newPushes engine n before rest +
          (if Swept engine (before ++ rest) n then 1 else 0) := by
  induction rest generalizing before s with
  | nil =>
    obtain rfl : s = s' := by simpa using hrun
    rw [append_nil]
    exact ⟨h, by rw [newPushes, Nat.add_zero]⟩
  | cons a rest ih =>
    obtain ⟨t, ht, hrest⟩ := Transition.System.run_cons_eq_some _ |>.mp hrun
    obtain rfl : arrive text countryCode engine s a = t := Option.some.inj ht
    obtain ⟨htraced, hcount⟩ := ih (h.arrive text countryCode engine a) hrest
    classical
    have hone := h.rowsOf text countryCode engine a n
    have hstep := inserts_count engine before a n
    rw [append_assoc, singleton_append] at htraced hcount
    refine ⟨htraced, ?_⟩
    rw [newPushes]
    omega

/-- The condition, as a count. -/
theorem onePath_iff (arrivals : List Arrival) (n : Nat) :
    OnePath engine arrivals n ↔ newPushes engine n [] arrivals +
      (if Swept engine arrivals n then 1 else 0) = 1 := by
  rw [OnePath]
  by_cases hswept : Swept engine arrivals n = true
  · rw [if_pos hswept, if_pos hswept]
    omega
  · rw [if_neg hswept, if_neg hswept, Nat.add_zero]

/-! ## Ingest, once and twice -/

/-- **A message is ingested once exactly when one path brings it in as new**, in every order and
with every repetition of its arrivals and of everyone else's. -/
theorem ingest_exactly_once_iff (arrivals : List Arrival) (s : State)
    (hrun : (pipeline text countryCode engine).run init arrivals = some s) (n : Nat) :
    IngestedOnce text countryCode arrivals s n ↔ OnePath engine arrivals n := by
  obtain ⟨htraced, hcount⟩ := rowsOf_run text countryCode engine n
    (traced_init text countryCode engine) hrun
  rw [nil_append] at htraced hcount
  have hrows : (s.rowsOf n).length = newPushes engine n [] arrivals +
      (if Swept engine arrivals n then 1 else 0) := by
    have hinit : (init.rowsOf n).length = 0 := rfl
    have hnone : Swept engine [] n = false := rfl
    rw [hinit, hnone] at hcount
    simpa using hcount
  rw [onePath_iff, ← hrows, length_eq_one_iff]
  constructor
  · rintro ⟨row, hrow, -⟩
    exact ⟨row, hrow⟩
  · rintro ⟨row, hrow⟩
    have hmem : row ∈ s.rowsOf n := by rw [hrow]; simp
    obtain ⟨p, hp, rfl⟩ := mem_map.mp hmem
    obtain ⟨hzip, hn⟩ := mem_filter.mp hp
    obtain ⟨a, ha, hmsg, hset⟩ := htraced.sets p hzip
    exact ⟨p.1, hrow, a, ha, hmsg.trans (by simpa using hn), hset⟩

end Paths

theorem one_rule : ["r"].Nodup := nodup_singleton _

theorem one_destination : ["d"].Nodup := nodup_singleton _

/-- One rule that takes everything, to one webhook. -/
def catchAll : RuleTables where
  rules := [{ id := "r", name := "all", priority := 0, createdAt := 0 }]
  destinations := [{
    id := "d", ruleId := "r", kind := .webhook, target := "https://mo.example/in"
    maxAttempts := 3, createdAt := 0 }]
  ruleIds := one_rule
  destinationIds := one_destination

/-- The engine's messages. -/
def greeting : Nat → IngestInput := fun _ => {
  sender := "256700000001", receiver := "8080", text := "hello", smscId := some "mtn" }

theorem ingest_exactly_once_sweeps :
    ∃ s, (pipeline .ascii none greeting).run init
        [⟨7, .sweep, catchAll, 0, .ok⟩, ⟨7, .sweep, catchAll, 1, .ok⟩] = some s ∧
      (IngestedOnce .ascii none [⟨7, .sweep, catchAll, 0, .ok⟩, ⟨7, .sweep, catchAll, 1, .ok⟩] s 7 ↔
        OnePath greeting [⟨7, .sweep, catchAll, 0, .ok⟩, ⟨7, .sweep, catchAll, 1, .ok⟩] 7) :=
  ⟨_, rfl, ingest_exactly_once_iff .ascii none greeting _ _ rfl 7⟩

/-- Message 7 is pushed under the engine's own number for it, and a sweep finds it. -/
def bothWays : List Arrival :=
  [⟨7, .push (some "7"), catchAll, 0, .ok⟩, ⟨7, .sweep, catchAll, 1, .ok⟩]

/-- Pushed and swept, it has two rows, and its webhook is called twice. -/
theorem push_and_sweep :
    ∃ s, (pipeline .ascii none greeting).run init bothWays = some s ∧
      (s.rowsOf 7).length = 2 ∧ s.store.deliveries.map MoDelivery.slot = [("r", "d"), ("r", "d")] ∧
      ¬ IngestedOnce .ascii none bothWays s 7 := by
  refine ⟨_, rfl, by decide +kernel, by decide +kernel, ?_⟩
  rintro ⟨row, hrow, -⟩
  have hlen := congrArg List.length hrow
  rw [length_singleton] at hlen
  revert hlen
  decide +kernel

end Jkannel.Messaging.Mo.Paths
