import Mathlib
import Jkannel.Engine.Paging
import Jkannel.Messaging.MoInbound

/-!
# One sweep of the log

A sweep reads one page of the log, the newest rows first, and moves the watermark over whatever of
that page it ingested.  This file says what a single sweep does, whatever goes wrong with it.

* `Fits` is a condition on the state a sweep starts in: its page holds every inbound row above the
  watermark, the `backlog`.
* `list_sweep` is what that buys: the fresh rows are the backlog, the oldest first.
* `sweepRows_spec` is all the loop does: it ingests a beginning of the fresh rows, and the watermark
  it arrives at is over a beginning of that beginning.
* `sweep_spec` is both together, the spec every statement about runs is derived from.
-/

namespace Jkannel.Messaging.Mo

open List
open Engine
open Transition (Ack)
open Text (trim jsLength truthy)

/-! ## The rows a tenant should have -/

/-- An inbound row of one of the binds. -/
def isMo (binds : List String) (r : SqlboxRow) : Bool :=
  r.smscId.any binds.contains && r.momt = some "MO"

/-- The inbound rows in the log. -/
def moRows (binds : List String) (s : State) : List SqlboxRow :=
  s.sent.rows.filter (isMo binds)

/-- The inbound rows above the watermark. -/
def backlog (binds : List String) (s : State) : List SqlboxRow :=
  (moRows binds s).filter fun r => decide (s.watermark < r.sqlId)

/-- The key a row is ingested under. -/
def rowKey (r : SqlboxRow) : String := sqlboxKey (engineId r)

/-- How many messages a row has become. -/
def copies (messages : List PreparedInbound) (r : SqlboxRow) : Nat :=
  messages.countP fun m => m.dedupeKey = some (rowKey r)

/-- The checks a message must meet. -/
def Accepts (input : IngestInput) : Prop :=
  trim input.sender ≠ "" ∧ trim input.receiver ≠ "" ∧
    jsLength (trim input.sender) ≤ 64 ∧
    jsLength (trim input.receiver) ≤ 64 ∧
    jsLength input.text ≤ 8000

instance (input : IngestInput) : Decidable (Accepts input) :=
  inferInstanceAs (Decidable (_ ∧ _ ∧ _ ∧ _ ∧ _))

/-- A row whose message meets the checks. -/
def Acceptable (r : SqlboxRow) : Prop := Accepts (inputOf r)

instance (r : SqlboxRow) : Decidable (Acceptable r) := inferInstanceAs (Decidable (Accepts _))

/-- A sweep's page holds every inbound row above the watermark. -/
def Fits (binds : List String) (s : State) : Action → Prop
  | .sweep env => env.available = true → (backlog binds s).length ≤ sweepLimit env.limit
  | _ => True

/-- Nothing goes wrong with a sweep: the engine answers, every transaction commits, and the process
lives. -/
structure Faultless (env : Conditions) : Prop where
  available : env.available = true
  ingest : ∀ n, env.ingest n = .ok
  lives : ∀ n, env.dies n = false
  record : env.record = .ok

variable {r : SqlboxRow} {input : IngestInput} {m : PreparedInbound}
  {messages : List PreparedInbound} {env : Conditions}

theorem mem_moRows {binds : List String} {s : State} :
    r ∈ moRows binds s ↔ r ∈ s.sent.rows ∧ isMo binds r = true :=
  mem_filter

theorem mem_backlog {binds : List String} {s : State} :
    r ∈ backlog binds s ↔ r ∈ moRows binds s ∧ s.watermark < r.sqlId := by
  rw [backlog, mem_filter, decide_eq_true_eq]

/-! ## Keys -/

theorem engineId_ne_empty (r : SqlboxRow) : engineId r ≠ "" := by
  intro h
  have hlen := congrArg String.length h
  simp [engineId] at hlen

theorem sqlboxKey_inj {a b : Nat} (h : sqlboxKey (toString a) = sqlboxKey (toString b)) : a = b :=
  Nat.repr_injective (String.append_right_inj _ |>.mp h)

/-- A pushed message has no key of the engine's. -/
theorem httpKey_ne {ref id : String} : "http:" ++ ref ≠ sqlboxKey id := by
  intro h
  have hl := congrArg (fun s => s.toList.head?) h
  simp [sqlboxKey] at hl

/-! ## One row -/

/-- A message that meets the checks is taken, under the key it is due. -/
theorem prepareIngest_ok (h : Accepts input) (source : Source) (id : Option String) :
    ∃ m, prepareIngest input source id = .ok m ∧ m.dedupeKey =
      match truthy id with
      | some id => some (sqlboxKey id)
      | none => (truthy m.externalRef).map ("http:" ++ ·) := by
  obtain ⟨hsender, hreceiver, hslen, hrlen, hbody⟩ := h
  rw [prepareIngest, if_neg hsender, if_neg hreceiver, if_neg (by omega), if_neg (by omega)]
  exact ⟨_, rfl, rfl⟩

theorem prepareIngest_error (h : ¬ Accepts input) (source : Source) (id : Option String) :
    ∃ e, prepareIngest input source id = .error e := by
  rw [prepareIngest]
  by_cases hsender : trim input.sender = ""
  · exact ⟨_, if_pos hsender⟩
  rw [if_neg hsender]
  by_cases hreceiver : trim input.receiver = ""
  · exact ⟨_, if_pos hreceiver⟩
  rw [if_neg hreceiver]
  by_cases hlen : 64 < jsLength (trim input.sender) ∨
      64 < jsLength (trim input.receiver)
  · exact ⟨_, if_pos hlen⟩
  rw [if_neg hlen]
  by_cases hbody : 8000 < jsLength input.text
  · exact ⟨_, if_pos hbody⟩
  exact absurd ⟨hsender, hreceiver, by omega, by omega, by omega⟩ h

/-- The only messages with a key of the engine's are those that came from it. -/
theorem prepareIngest_http_key (h : prepareIngest input .http none = .ok m) (id : String) :
    m.dedupeKey ≠ some (sqlboxKey id) := by
  by_cases hok : Accepts input
  · obtain ⟨m', hm', hkey⟩ := prepareIngest_ok hok .http none
    obtain rfl : m' = m := Except.ok.inj (hm'.symm.trans h)
    rw [hkey]
    show (truthy m'.externalRef).map ("http:" ++ ·) ≠ some (sqlboxKey id)
    intro heq
    obtain ⟨ref, -, hkey'⟩ := Option.map_eq_some_iff.mp heq
    exact httpKey_ne hkey'
  · obtain ⟨e, he⟩ := prepareIngest_error hok .http none
    rw [he] at h
    cases h

theorem prepareRow_ok (h : Acceptable r) :
    ∃ m, prepareRow r = .ok m ∧ m.dedupeKey = some (rowKey r) := by
  obtain ⟨m, hm, hkey⟩ := prepareIngest_ok h .sqlbox (some (engineId r))
  have htruthy : truthy (some (engineId r)) = some (engineId r) :=
    if_neg (engineId_ne_empty r)
  rw [htruthy] at hkey
  exact ⟨m, hm, hkey⟩

theorem prepareRow_error (h : ¬ Acceptable r) : ∃ e, prepareRow r = .error e :=
  prepareIngest_error h .sqlbox _

/-- A row has become a message. -/
def Ingested (messages : List PreparedInbound) (r : SqlboxRow) : Prop :=
  ∃ m ∈ messages, m.dedupeKey = some (rowKey r)

/-- No two messages share a key. -/
def KeysDistinct (messages : List PreparedInbound) : Prop :=
  (messages.filterMap PreparedInbound.dedupeKey).Nodup

theorem copies_eq_zero : copies messages r = 0 ↔ ¬ Ingested messages r := by
  simp [copies, Ingested, countP_eq_zero]

/-- With distinct keys a row that has become a message has become one message. -/
theorem copies_eq_one (h : KeysDistinct messages) :
    copies messages r = 1 ↔ Ingested messages r := by
  have hcount : copies messages r =
      (messages.filterMap PreparedInbound.dedupeKey).count (rowKey r) := by
    rw [copies, count_filterMap]
    refine countP_congr fun m _ => ?_
    simp
  have hle : (messages.filterMap PreparedInbound.dedupeKey).count (rowKey r) ≤ 1 :=
    nodup_iff_count_le_one.mp h _
  have hzero : copies messages r = 0 ↔ ¬ Ingested messages r := copies_eq_zero
  constructor
  · intro hone
    by_contra hno
    rw [hzero.mpr hno] at hone
    omega
  · intro hyes
    have : copies messages r ≠ 0 := fun h0 => hzero.mp h0 hyes
    omega

theorem ingestInClient_of_absent
    (h : ∀ key, m.dedupeKey = some key → ∀ m' ∈ messages, m'.dedupeKey ≠ some key) :
    ingestInClient messages m = messages ++ [m] := by
  rw [ingestInClient, if_neg]
  simp only [Bool.and_eq_true, any_eq_true, decide_eq_true_eq, not_and, not_exists]
  intro hsome m' hm' heq
  obtain ⟨key, hkey⟩ := Option.isSome_iff_exists.mp hsome
  exact h key hkey m' hm' (heq.trans hkey)

/-- What the INSERT does: nothing where the key is there already, and otherwise one more row. -/
theorem ingestInClient_cases (messages : List PreparedInbound) (m : PreparedInbound) :
    (ingestInClient messages m = messages ∧ ∃ m' ∈ messages, m'.dedupeKey = m.dedupeKey) ∨
    (ingestInClient messages m = messages ++ [m] ∧
      ∀ key, m.dedupeKey = some key → ∀ m' ∈ messages, m'.dedupeKey ≠ some key) := by
  by_cases hnew : ∀ key, m.dedupeKey = some key → ∀ m' ∈ messages, m'.dedupeKey ≠ some key
  · exact .inr ⟨ingestInClient_of_absent hnew, hnew⟩
  · push Not at hnew
    obtain ⟨key, hkey, m', hm', heq⟩ := hnew
    refine .inl ⟨?_, m', hm', heq.trans hkey.symm⟩
    rw [ingestInClient, if_pos]
    simp only [Bool.and_eq_true, any_eq_true, decide_eq_true_eq]
    exact ⟨by rw [hkey]; rfl, m', hm', heq.trans hkey.symm⟩

theorem ingestInClient_mem (messages : List PreparedInbound) (m : PreparedInbound) :
    ∃ m' ∈ ingestInClient messages m, m'.dedupeKey = m.dedupeKey := by
  rcases ingestInClient_cases messages m with ⟨h, m', hm', hkey⟩ | ⟨h, -⟩
  · exact ⟨m', by rwa [h], hkey⟩
  · exact ⟨m, by rw [h]; simp, rfl⟩

theorem ingestInClient_subset (messages : List PreparedInbound) (m : PreparedInbound) :
    messages ⊆ ingestInClient messages m := by
  rcases ingestInClient_cases messages m with ⟨h, -⟩ | ⟨h, -⟩
  · rw [h]
    exact fun _ hm => hm
  · rw [h]
    exact subset_append_left _ _

theorem mem_of_mem_ingestInClient {m' : PreparedInbound} (h : m' ∈ ingestInClient messages m) :
    m' ∈ messages ∨ m' = m := by
  rcases ingestInClient_cases messages m with ⟨heq, -⟩ | ⟨heq, -⟩
  · rw [heq] at h
    exact .inl h
  · rw [heq, mem_append, mem_singleton] at h
    exact h

theorem KeysDistinct.ingestInClient (h : KeysDistinct messages) (m : PreparedInbound) :
    KeysDistinct (ingestInClient messages m) := by
  rcases ingestInClient_cases messages m with ⟨heq, -⟩ | ⟨heq, hnew⟩
  · rwa [heq]
  · rw [KeysDistinct, heq, filterMap_append]
    cases hkey : m.dedupeKey with
    | none =>
      rw [filterMap_cons_none hkey, filterMap_nil, append_nil]
      exact h
    | some key =>
      rw [filterMap_cons_some hkey, filterMap_nil, nodup_append]
      refine ⟨h, nodup_singleton key, ?_⟩
      intro k hk k' hk' heq'
      rw [mem_singleton] at hk'
      obtain ⟨m', hm', hkm'⟩ := mem_filterMap.mp hk
      exact hnew key hkey m' hm' (by rw [hkm', heq', hk'])

/-! ## The loop -/

/-- Take one row. -/
def ingestRow (messages : List PreparedInbound) (r : SqlboxRow) : List PreparedInbound :=
  match prepareRow r with
  | .ok m => ingestInClient messages m
  | .error _ => messages

theorem ingestRow_ok (h : Acceptable r) (messages : List PreparedInbound) :
    ∃ m, m.dedupeKey = some (rowKey r) ∧ ingestRow messages r = ingestInClient messages m := by
  obtain ⟨m, hm, hkey⟩ := prepareRow_ok h
  exact ⟨m, hkey, by rw [ingestRow, hm]⟩

/-- A sweep gets a row in: the row is acceptable, the process lives to see it, and its transaction
commits. -/
def Takes (env : Conditions) (r : SqlboxRow) : Prop :=
  Acceptable r ∧ env.dies r.sqlId = false ∧ (env.ingest r.sqlId).committed = true

/-- What a loop over `rows` makes of `p`: it takes the rows `taken`, and passes all of `passed`,
which is everything or ends where the loop is stopped. -/
structure Swept (env : Conditions) (rows passed taken : List SqlboxRow) (p p' : Progress) :
    Prop where
  within : taken <+: rows
  behind : passed <+: taken
  takes : ∀ r ∈ taken, Takes env r
  messages : p'.messages = taken.foldl ingestRow p.messages
  highest : p'.highest = (passed.map SqlboxRow.sqlId).foldl max p.highest
  stops : passed = rows ∨
    ∃ b rest, rows = passed ++ b :: rest ∧ ¬ (Takes env b ∧ env.ingest b.sqlId = .ok)

/-- A loop stopped before it has taken the first row. -/
theorem Swept.stopped {rows : List SqlboxRow} (p : Progress)
    (h : ¬ (Takes env r ∧ env.ingest r.sqlId = .ok)) : Swept env (r :: rows) [] [] p p where
  within := nil_prefix
  behind := nil_prefix
  takes := by simp
  messages := rfl
  highest := rfl
  stops := .inr ⟨r, rows, rfl, h⟩

/-- **All a loop does**, however it ends. -/
theorem sweepRows_spec (env : Conditions) (rows : List SqlboxRow) (p : Progress) :
    ∃ passed taken, Swept env rows passed taken p (sweepRows env rows p).1 := by
  induction rows generalizing p with
  | nil =>
    exact ⟨[], [], nil_prefix, nil_prefix, by simp, rfl, rfl, .inl rfl⟩
  | cons r rows ih =>
    by_cases hdies : env.dies r.sqlId = true
    · rw [sweepRows, if_pos hdies]
      refine ⟨[], [], Swept.stopped p fun h => ?_⟩
      rw [h.1.2.1] at hdies
      cases hdies
    have hlives : env.dies r.sqlId = false := by simpa using hdies
    by_cases hacc : Acceptable r
    · obtain ⟨m, hm, -⟩ := prepareRow_ok hacc
      have hone : ingestInClient p.messages m = ingestRow p.messages r := by rw [ingestRow, hm]
      rw [sweepRows, if_neg hdies, hm]
      simp only [hone]
      cases hack : env.ingest r.sqlId with
      | ok =>
        obtain ⟨passed, taken, h⟩ := ih {
          messages := ingestRow p.messages r
          highest := max p.highest r.sqlId
          ingested := p.ingested + ((ingestRow p.messages r).length - p.messages.length) }
        refine ⟨r :: passed, r :: taken, by simpa using h.within, by simpa using h.behind, ?_,
          h.messages, h.highest, ?_⟩
        · intro x hx
          rcases mem_cons.mp hx with rfl | hx
          · exact ⟨hacc, hlives, by rw [hack]; rfl⟩
          · exact h.takes x hx
        · rcases h.stops with heq | ⟨b, rest, heq, hb⟩
          · exact .inl (by rw [heq])
          · exact .inr ⟨b, rest, by rw [heq]; rfl, hb⟩
      | lost error =>
        refine ⟨[], [r], by simp, nil_prefix, ?_, rfl, rfl,
          .inr ⟨r, rows, rfl, fun h => ?_⟩⟩
        · intro x hx
          rw [mem_singleton.mp hx]
          exact ⟨hacc, hlives, by rw [hack]; rfl⟩
        · rw [hack] at h
          cases h.2
      | refused error =>
        refine ⟨[], [], Swept.stopped p fun h => ?_⟩
        rw [hack] at h
        cases h.2
    · obtain ⟨e, he⟩ := prepareRow_error hacc
      rw [sweepRows, if_neg hdies, he]
      exact ⟨[], [], Swept.stopped p fun h => hacc h.1.1⟩

section Taken

variable {rows : List SqlboxRow}

theorem taken_subset (hall : ∀ r ∈ rows, Acceptable r) :
    messages ⊆ rows.foldl ingestRow messages := by
  induction rows generalizing messages with
  | nil => exact fun _ h => h
  | cons r rows ih =>
    obtain ⟨m, -, heq⟩ := ingestRow_ok (hall r (by simp)) messages
    rw [foldl_cons]
    refine List.Subset.trans ?_ (ih fun x hx => hall x (by simp [hx]))
    rw [heq]
    exact ingestInClient_subset _ _

theorem taken_keysDistinct (hall : ∀ r ∈ rows, Acceptable r) (h : KeysDistinct messages) :
    KeysDistinct (rows.foldl ingestRow messages) := by
  induction rows generalizing messages with
  | nil => exact h
  | cons r rows ih =>
    obtain ⟨m, -, heq⟩ := ingestRow_ok (hall r (by simp)) messages
    rw [foldl_cons]
    refine ih (fun x hx => hall x (by simp [hx])) ?_
    rw [heq]
    exact h.ingestInClient m

theorem taken_ingested (hall : ∀ r ∈ rows, Acceptable r) {r : SqlboxRow} (hr : r ∈ rows) :
    Ingested (rows.foldl ingestRow messages) r := by
  induction rows generalizing messages with
  | nil => cases hr
  | cons x rows ih =>
    have hrest : ∀ r ∈ rows, Acceptable r := fun r h => hall r (by simp [h])
    rw [foldl_cons]
    rcases mem_cons.mp hr with rfl | hr
    · obtain ⟨m, hkey, heq⟩ := ingestRow_ok (hall r (by simp)) messages
      obtain ⟨m', hm', hkey'⟩ := ingestInClient_mem messages m
      exact ⟨m', taken_subset hrest (by rwa [heq]), hkey'.trans hkey⟩
    · exact ih hrest hr

theorem taken_key (hall : ∀ r ∈ rows, Acceptable r) {m : PreparedInbound}
    (hm : m ∈ rows.foldl ingestRow messages) :
    m ∈ messages ∨ ∃ r ∈ rows, m.dedupeKey = some (rowKey r) := by
  induction rows generalizing messages with
  | nil => exact .inl hm
  | cons x rows ih =>
    obtain ⟨m', hkey, heq⟩ := ingestRow_ok (hall x (by simp)) messages
    rcases ih (fun r h => hall r (by simp [h])) hm with hm | ⟨r, hr, hmr⟩
    · rw [heq] at hm
      rcases mem_of_mem_ingestInClient hm with hm | rfl
      · exact .inl hm
      · exact .inr ⟨x, by simp, hkey⟩
    · exact .inr ⟨r, by simp [hr], hmr⟩

/-- A watermark moved over rows is where it was, or at one of them. -/
theorem foldl_max_cases (ns : List Nat) (w : Nat) :
    ns.foldl max w = w ∨ ns.foldl max w ∈ ns := by
  induction ns generalizing w with
  | nil => exact .inl rfl
  | cons n ns ih =>
    rw [foldl_cons]
    rcases ih (max w n) with h | h
    · rw [h]
      rcases max_choice w n with h | h
      · exact .inl h
      · exact .inr (by rw [h]; simp)
    · exact .inr (by simp [h])

end Taken

/-! ## One sweep -/

section Sweep

variable {text : TextEngine} {binds : List String} {s : State}

theorem whereAll_sweepOptions (rows : List SqlboxRow) (limit : Nat) :
    whereAll (filters text (sweepOptions binds limit)) rows = rows.filter (isMo binds) := by
  refine filter_congr fun r _ => ?_
  simp [filters, sweepOptions, clause, cursorClause, legacyStatusClause, queryClause, isMo, truthy]

theorem pageSize_sweepLimit (limit : Option Int) :
    pageSize (some (sweepLimit limit : Int)) = sweepLimit limit := by
  simp only [pageSize, sweepLimit, Option.getD_some]
  omega

/-- What the adapter selects for a sweep is the inbound rows. -/
theorem matchingRows_sweep (limit : Nat) :
    (matchingRows text s.sent (sweepOptions binds limit) none).map ClassifiedRow.row =
      moRows binds s := by
  have hid : (ClassifiedRow.row ∘ classify false s.sent.rows) = id := rfl
  show ((whereAll (filters text (sweepOptions binds limit)) s.sent.rows).map
    (classify false s.sent.rows)).map ClassifiedRow.row = moRows binds s
  rw [whereAll_sweepOptions, map_map, hid, map_id]
  rfl

theorem insertionSort_bySqlIdAsc (rows : List SqlboxRow) :
    (rows.insertionSort (bySqlIdAsc · ·)).Pairwise fun a b => a.sqlId ≤ b.sqlId := by
  have : Std.Total fun a b : SqlboxRow => bySqlIdAsc a b = true :=
    ⟨fun a b => by simp only [bySqlIdAsc, decide_eq_true_eq]; omega⟩
  have : IsTrans SqlboxRow fun a b => bySqlIdAsc a b = true :=
    ⟨fun a b c => by simp only [bySqlIdAsc, decide_eq_true_eq]; omega⟩
  refine (List.pairwise_insertionSort (bySqlIdAsc · ·) rows).imp fun {a b} h => ?_
  simpa [bySqlIdAsc] using h

/-- **The page holds the backlog.**  The fresh rows are the rows above the watermark, in the order
of their keys, as long as they fit on the page. -/
theorem list_sweep {limit : Option Int} (hfits : (backlog binds s).length ≤ sweepLimit limit) :
    ∃ page, list text s.sent.rows (sweepOptions binds (sweepLimit limit)) = .ok page ∧
      (freshRows s.watermark page.items).Perm (backlog binds s) ∧
      (freshRows s.watermark page.items).Pairwise fun a b => a.sqlId ≤ b.sqlId := by
  let o := sweepOptions binds (sweepLimit limit)
  have hlist := @list_keyset [] text o none s.sent.rows rfl rfl rfl rfl
  refine ⟨_, hlist, ?_, ?_⟩
  · -- the page is a beginning of the descending list of all of them
    have hsel : selectList text s.sent.rows o [] none =
        ((matchingRows text s.sent o none).insertionSort (orderBy text [] · ·)).filter
          fun x => Keyset.below none x.key :=
        @selectList_cursor [] none text s.sent o none nofun rfl
    have hsort := perm_insertionSort (orderBy text [] · ·) (matchingRows text s.sent o none)
    have hdesc : Keyset.Descending ClassifiedRow.key
        ((matchingRows text s.sent o none).insertionSort (orderBy text [] · ·)) :=
      Keyset.descending_insertionSort (orderBy_default rfl) matchingRows_nodup
    have hmap : ((matchingRows text s.sent o none).filter
        fun x => decide (s.watermark < x.key)).map ClassifiedRow.row = backlog binds s := by
      have hall : (matchingRows text s.sent o none).map ClassifiedRow.row = moRows binds s :=
        matchingRows_sweep (sweepLimit limit)
      rw [backlog, ← hall, filter_map]
      rfl
    have hperm := hsort.filter fun x => decide (s.watermark < x.key)
    have hlen : (((matchingRows text s.sent o none).insertionSort (orderBy text [] · ·)).filter
        fun x => decide (s.watermark < x.key)).length ≤ sweepLimit limit := by
      rwa [hperm.length_eq, ← length_map ClassifiedRow.row, hmap]
    have htake := hdesc.filter_above_take hlen
    refine (perm_insertionSort (bySqlIdAsc · ·) _).trans ?_
    rw [← hmap]
    refine List.Perm.trans ?_ (hperm.map ClassifiedRow.row)
    rw [← htake, hsel]
    simp only [Keyset.below_none, filter_true, filter_map]
    rw [show pageSize o.limit = sweepLimit limit from pageSize_sweepLimit limit]
    rfl
  · exact insertionSort_bySqlIdAsc _

theorem recordSweep_sent (s : State) (ack : Ack) (w : Option Nat) (error : Option String)
    (n : Nat) : (recordSweep s ack w error n).sent = s.sent := by
  rw [recordSweep]
  split <;> rfl

theorem recordSweep_messages (s : State) (ack : Ack) (w : Option Nat) (error : Option String)
    (n : Nat) : (recordSweep s ack w error n).messages = s.messages := by
  rw [recordSweep]
  split <;> rfl

theorem recordSweep_watermark (s : State) (ack : Ack) (w : Option Nat) (error : Option String)
    (n : Nat) : (recordSweep s ack w error n).watermark = s.watermark ∨
      (recordSweep s ack w error n).watermark = max s.watermark (w.getD 0) := by
  rw [recordSweep]
  split
  · exact .inr rfl
  · exact .inl rfl

/-- What a sweep does to the state: a loop over the backlog, and a watermark that stays or moves to
a row the loop passed. -/
structure SweepStep (binds : List String) (env : Conditions) (s s' : State)
    (fresh passed taken : List SqlboxRow) : Prop where
  perm : fresh.Perm (backlog binds s)
  sorted : fresh.Pairwise fun a b => a.sqlId ≤ b.sqlId
  within : taken <+: fresh
  behind : passed <+: taken
  takes : ∀ r ∈ taken, Takes env r
  sent : s'.sent = s.sent
  messages : s'.messages = taken.foldl ingestRow s.messages
  watermark : s'.watermark = s.watermark ∨ ∃ d ∈ passed, s'.watermark = d.sqlId
  stops : env.available = true → passed = fresh ∨
    ∃ b rest, fresh = passed ++ b :: rest ∧ ¬ (Takes env b ∧ env.ingest b.sqlId = .ok)

/-- A sweep that stops before it has read anything. -/
theorem SweepStep.idle {s' : State} (hsent : s'.sent = s.sent)
    (hmessages : s'.messages = s.messages) (hwatermark : s'.watermark = s.watermark)
    (hstops : env.available = true → backlog binds s = []) :
    SweepStep binds env s s' ((backlog binds s).insertionSort (bySqlIdAsc · ·)) [] [] where
  perm := perm_insertionSort _ _
  sorted := insertionSort_bySqlIdAsc _
  within := nil_prefix
  behind := nil_prefix
  takes := by simp
  sent := hsent
  messages := hmessages
  watermark := .inl hwatermark
  stops h := .inl (by rw [hstops h]; rfl)

/-- **All a sweep does** when its page holds the backlog. -/
theorem sweep_spec (hfits : Fits binds s (.sweep env)) :
    ∃ fresh passed taken,
      SweepStep binds env s (sweep text binds env s) fresh passed taken := by
  by_cases hav : env.available = true
  · by_cases hb : binds.isEmpty = true
    · rw [sweep, if_neg (by simp [hav]), if_pos hb]
      refine ⟨_, _, _, SweepStep.idle (recordSweep_sent _ _ _ _ _) (recordSweep_messages _ _ _ _ _)
        ?_ fun _ => ?_⟩
      · rcases recordSweep_watermark s env.record none (some "tenant has no SMSC definitions") 0
          with h | h
        · exact h
        · rw [h]
          exact Nat.max_zero _
      · obtain rfl : binds = [] := List.isEmpty_iff.mp hb
        have hnone : ∀ r : SqlboxRow, isMo [] r = false := fun r => by
          rw [isMo]
          cases r.smscId <;> rfl
        simp [backlog, moRows, hnone]
    · obtain ⟨page, hlist, hperm, hsorted⟩ := @list_sweep text binds s _ (hfits hav)
      obtain ⟨passed, taken, h⟩ := sweepRows_spec env (freshRows s.watermark page.items)
        ⟨s.messages, s.watermark, 0⟩
      refine ⟨freshRows s.watermark page.items, passed, taken, ?_⟩
      rw [sweep, if_neg (by simp [hav]), if_neg hb, hlist]
      simp only
      revert h
      generalize sweepRows env (freshRows s.watermark page.items) ⟨s.messages, s.watermark, 0⟩ = out
      obtain ⟨p, ending⟩ := out
      intro h
      -- wherever the watermark is recorded, it is over what the loop passed
      have hrecord : ∀ error n, SweepStep binds env s
          (recordSweep { s with messages := p.messages } env.record (some p.highest) error n)
          (freshRows s.watermark page.items) passed taken := fun error n =>
        { perm := hperm, sorted := hsorted, within := h.within, behind := h.behind
          takes := h.takes, stops := fun _ => h.stops
          sent := recordSweep_sent _ _ _ _ _
          messages := (recordSweep_messages _ _ _ _ _).trans h.messages
          watermark := by
            have hhigh : p.highest = s.watermark ∨ ∃ d ∈ passed, p.highest = d.sqlId := by
              rw [h.highest]
              rcases foldl_max_cases (passed.map SqlboxRow.sqlId) s.watermark with heq | hmem
              · exact .inl heq
              · obtain ⟨d, hd, heq⟩ := mem_map.mp hmem
                exact .inr ⟨d, hd, heq.symm⟩
            rcases recordSweep_watermark { s with messages := p.messages } env.record
              (some p.highest) error n with heq | heq
            · exact .inl heq
            · rw [heq]
              show max s.watermark p.highest = _ ∨ ∃ d ∈ passed, max s.watermark p.highest = _
              rcases max_choice s.watermark p.highest with hmax | hmax
              · exact .inl hmax
              · rw [hmax]
                exact hhigh }
      cases ending with
      | done => exact hrecord none p.ingested
      | stopped error => exact hrecord (some error) 0
      | aborted => exact { hrecord none 0 with sent := rfl, messages := h.messages, watermark := .inl rfl }
  · rw [sweep, if_pos (by simpa using hav)]
    refine ⟨_, _, _, SweepStep.idle (recordSweep_sent _ _ _ _ _) (recordSweep_messages _ _ _ _ _)
      ?_ fun h => absurd h hav⟩
    rcases recordSweep_watermark s env.record none (some "engine unavailable") 0 with h | h
    · exact h
    · rw [h]
      exact Nat.max_zero _

end Sweep

end Jkannel.Messaging.Mo
