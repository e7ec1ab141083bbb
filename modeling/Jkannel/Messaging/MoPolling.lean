import Jkannel.Messaging.MoSweep

/-!
# What polling brings in

Both habits of a sweep can lose messages: a row that did not fit on the page stays below the
watermark, and a row that is refused ends every sweep that comes to it.

* `Inv` is the invariant of the runs in which every sweep fits: what is at or below the watermark
  has been ingested, once, and nothing at or behind a refused row has been.
* `Stuck` is the second half of it for one row, and `stuck_along` what such a row does to those
  behind it.
* `polling_along` states both halves for every run.
-/

namespace Jkannel.Messaging.Mo

open List
open Engine

/-! ## The invariant -/

/-- A row that holds up those behind it: it is above the watermark, and nothing at or behind it has
been ingested. -/
structure Stuck (binds : List String) (s : State) (b : SqlboxRow) : Prop where
  mem : b ∈ moRows binds s
  above : s.watermark < b.sqlId
  behind : ∀ m ∈ s.messages, ∀ n, m.dedupeKey = some (sqlboxKey (toString n)) → n < b.sqlId

theorem Stuck.copies {binds : List String} {s : State} {b r : SqlboxRow} (h : Stuck binds s b)
    (hr : b.sqlId ≤ r.sqlId) : copies s.messages r = 0 := by
  rw [copies_eq_zero]
  rintro ⟨m, hm, hkey⟩
  have := h.behind m hm r.sqlId hkey
  omega

/-- What holds in every run whose sweeps fit. -/
structure Inv (binds : List String) (s : State) : Prop where
  /-- What is at or below the watermark has been ingested. -/
  covered : ∀ r ∈ moRows binds s, r.sqlId ≤ s.watermark → Ingested s.messages r
  /-- Nothing is ingested twice. -/
  distinct : KeysDistinct s.messages
  /-- The watermark is at a row or below one. -/
  marked : s.watermark = 0 ∨ ∃ r ∈ s.sent.rows, s.watermark ≤ r.sqlId
  /-- A key of the engine's belongs to one of its rows. -/
  numbered : ∀ m ∈ s.messages, ∀ n, m.dedupeKey = some (sqlboxKey (toString n)) →
    ∃ r ∈ s.sent.rows, r.sqlId = n
  /-- A row that is refused holds up those behind it. -/
  refused : ∀ b ∈ moRows binds s, ¬ Acceptable b → Stuck binds s b

theorem Inv.init (binds : List String) : Inv binds init where
  covered r hr := by simp [moRows, Mo.init] at hr
  distinct := nodup_nil
  marked := .inl rfl
  numbered m hm := by simp [Mo.init] at hm
  refused b hb := by simp [moRows, Mo.init] at hb

section Steps

variable {text : TextEngine} {binds : List String} {s : State}

variable {b row : SqlboxRow} {t : EngineTable} {a : Action} {s' : State} {env : Conditions}
  {m : PreparedInbound}

/-- A row a sweep does not take holds up everything behind it. -/
theorem Stuck.sweep (h : Stuck binds s b) (hfits : Fits binds s (.sweep env))
    (hblocks : ¬ Takes env b) : Stuck binds (sweep text binds env s) b := by
  obtain ⟨fresh, passed, taken, hs⟩ := @sweep_spec _ text _ _ hfits
  have hfresh : b ∈ fresh := hs.perm.symm.subset (mem_backlog.mpr ⟨h.mem, h.above⟩)
  -- the rows taken are in front of it
  have hfront : ∀ r ∈ taken, r.sqlId < b.sqlId := by
    intro r hr
    obtain ⟨rest, hrest⟩ := hs.within
    have hsorted := hs.sorted
    rw [← hrest, pairwise_append] at hsorted
    rw [← hrest, mem_append] at hfresh
    have hnot : b ∉ taken := fun hb => hblocks (hs.takes b hb)
    have hle := hsorted.2.2 r hr b (hfresh.resolve_left hnot)
    have hmem := (mem_backlog.mp (hs.perm.subset (hs.within.subset hr))).1
    have hne : r.sqlId ≠ b.sqlId := by
      intro heq
      have hsame : r = b := inj_on_of_nodup_map s.sent.distinct (mem_moRows.mp hmem).1
        (mem_moRows.mp h.mem).1 heq
      rw [hsame] at hr
      exact hnot hr
    omega
  refine ⟨?_, ?_, ?_⟩
  · rw [moRows, hs.sent]
    exact h.mem
  · rcases hs.watermark with heq | ⟨d, hd, heq⟩
    · rw [heq]
      exact h.above
    · rw [heq]
      exact hfront d (hs.behind.subset hd)
  · intro m hm n hkey
    rw [hs.messages] at hm
    rcases taken_key (fun r hr => (hs.takes r hr).1) hm with hm | ⟨r, hr, hmr⟩
    · exact h.behind m hm n hkey
    · have hn : r.sqlId = n := sqlboxKey_inj (Option.some.inj (hmr.symm.trans hkey))
      rw [← hn]
      exact hfront r hr

theorem Inv.sweep (h : Inv binds s) (hfits : Fits binds s (.sweep env)) :
    Inv binds (sweep text binds env s) := by
  obtain ⟨fresh, passed, taken, hs⟩ := @sweep_spec _ text _ _ hfits
  have hacc : ∀ r ∈ taken, Acceptable r := fun r hr => (hs.takes r hr).1
  have hmo : moRows binds (Mo.sweep text binds env s) = moRows binds s := by
    rw [moRows, hs.sent]
    rfl
  have htaken : ∀ r ∈ taken, r ∈ s.sent.rows := fun r hr =>
    (mem_moRows.mp (mem_backlog.mp (hs.perm.subset (hs.within.subset hr))).1).1
  refine ⟨?_, ?_, ?_, ?_, ?_⟩
  · intro r hr hle
    rw [hmo] at hr
    rw [hs.messages]
    by_cases hold : r.sqlId ≤ s.watermark
    · obtain ⟨m, hm, hkey⟩ := h.covered r hr hold
      exact ⟨m, taken_subset hacc hm, hkey⟩
    · -- the row is fresh, and the watermark is at a row the loop passed
      have hfresh : r ∈ fresh := hs.perm.symm.subset (mem_backlog.mpr ⟨hr, by omega⟩)
      rcases hs.watermark with heq | ⟨d, hd, heq⟩
      · omega
      obtain ⟨rest, hrest⟩ := hs.behind.trans hs.within
      rw [← hrest, mem_append] at hfresh
      rcases hfresh with hpassed | hlater
      · exact taken_ingested hacc (hs.behind.subset hpassed)
      · have hsorted := hs.sorted
        rw [← hrest, pairwise_append] at hsorted
        have hdr := hsorted.2.2 d hd r hlater
        have hsame : d = r := inj_on_of_nodup_map s.sent.distinct
          (htaken d (hs.behind.subset hd)) (mem_moRows.mp hr).1 (by omega)
        rw [← hsame]
        exact taken_ingested hacc (hs.behind.subset hd)
  · rw [hs.messages]
    exact taken_keysDistinct hacc h.distinct
  · rw [hs.sent]
    rcases hs.watermark with heq | ⟨d, hd, heq⟩
    · rw [heq]
      exact h.marked
    · exact .inr ⟨d, htaken d (hs.behind.subset hd), by omega⟩
  · intro m hm n hkey
    rw [hs.sent]
    rw [hs.messages] at hm
    rcases taken_key hacc hm with hm | ⟨r, hr, hmr⟩
    · exact h.numbered m hm n hkey
    · refine ⟨r, htaken r hr, sqlboxKey_inj ?_⟩
      exact Option.some.inj (hmr.symm.trans hkey)
  · intro b hb hnot
    rw [hmo] at hb
    exact (h.refused b hb hnot).sweep hfits fun ht => hnot ht.1

/-- A message from elsewhere has no key of the engine's and changes nothing for its rows. -/
theorem Stuck.push (h : Stuck binds s b) (hm : ∀ id, m.dedupeKey ≠ some (sqlboxKey id)) :
    Stuck binds { s with messages := ingestInClient s.messages m } b := by
  refine ⟨h.mem, h.above, ?_⟩
  intro m' hm' n hkey
  rcases mem_of_mem_ingestInClient hm' with hold | rfl
  · exact h.behind m' hold n hkey
  · exact absurd hkey (hm _)

theorem Inv.push (h : Inv binds s) (hm : ∀ id, m.dedupeKey ≠ some (sqlboxKey id)) :
    Inv binds { s with messages := ingestInClient s.messages m } := by
  refine ⟨?_, h.distinct.ingestInClient m, h.marked, ?_, fun b hb hnot => ?_⟩
  · intro r hr hle
    obtain ⟨m', hm', hkey⟩ := h.covered r hr hle
    exact ⟨m', ingestInClient_subset _ _ hm', hkey⟩
  · intro m' hm' n hkey
    rcases mem_of_mem_ingestInClient hm' with hold | rfl
    · exact h.numbered m' hold n hkey
    · exact absurd hkey (hm _)
  · exact (h.refused b hb hnot).push hm

/-- The log grows by one row at its end. -/
theorem grow_spec {t' : EngineTable} (h : grow t row = some t') :
    (∀ r ∈ t.rows, r.sqlId < row.sqlId) ∧ 0 < row.sqlId ∧ t'.rows = t.rows ++ [row] := by
  rw [grow] at h
  split at h
  next hnew =>
    cases h
    exact ⟨hnew.1, hnew.2.1, rfl⟩
  · cases h

theorem Stuck.grow (h : Stuck binds s b) (ht : Mo.grow s.sent row = some t) :
    Stuck binds { s with sent := t } b := by
  obtain ⟨-, -, hrows⟩ := grow_spec ht
  refine ⟨?_, h.above, h.behind⟩
  obtain ⟨hmem, hmo⟩ := mem_moRows.mp h.mem
  refine mem_moRows.mpr ⟨?_, hmo⟩
  show b ∈ t.rows
  rw [hrows]
  exact mem_append_left _ hmem

theorem Inv.grow (h : Inv binds s) (ht : Mo.grow s.sent row = some t) :
    Inv binds { s with sent := t } := by
  obtain ⟨hlast, hpos, hrows⟩ := grow_spec ht
  have hold : ∀ r ∈ s.sent.rows, r ∈ t.rows := fun r hr => by
    rw [hrows]
    exact mem_append_left _ hr
  have hcases : ∀ r ∈ moRows binds { s with sent := t }, r ∈ moRows binds s ∨ r = row := by
    intro r hr
    obtain ⟨hmem, hmo⟩ := mem_moRows.mp hr
    rw [hrows, mem_append, mem_singleton] at hmem
    exact hmem.imp_left fun hmem => mem_moRows.mpr ⟨hmem, hmo⟩
  have habove : s.watermark < row.sqlId := by
    rcases h.marked with hzero | ⟨r, hr, hle⟩
    · omega
    · have := hlast r hr
      omega
  refine ⟨?_, h.distinct, ?_, ?_, ?_⟩
  · intro r hr hle
    change r.sqlId ≤ s.watermark at hle
    rcases hcases r hr with hmem | rfl
    · exact h.covered r hmem hle
    · omega
  · exact h.marked.imp_right fun ⟨r, hr, hle⟩ => ⟨r, hold r hr, hle⟩
  · intro m hm n hkey
    obtain ⟨r, hr, hn⟩ := h.numbered m hm n hkey
    exact ⟨r, hold r hr, hn⟩
  · intro b hb hnot
    rcases hcases b hb with hmem | rfl
    · exact (h.refused b hmem hnot).grow ht
    · refine ⟨hb, habove, ?_⟩
      intro m hm n hkey
      obtain ⟨r, hr, hn⟩ := h.numbered m hm n hkey
      have := hlast r hr
      omega

/-- What an action is. -/
theorem step_cases (h : step text binds s a = some s') :
    (∃ row t, a = .grow row ∧ grow s.sent row = some t ∧ s' = { s with sent := t }) ∨
    (∃ input m, a = .push input ∧ (∀ id, m.dedupeKey ≠ some (sqlboxKey id)) ∧
      s' = { s with messages := ingestInClient s.messages m }) ∨
    (∃ env, a = .sweep env ∧ s' = sweep text binds env s) := by
  cases a with
  | grow row =>
    obtain ⟨t, ht, rfl⟩ := Option.map_eq_some_iff.mp h
    exact .inl ⟨row, t, rfl, ht, rfl⟩
  | push input =>
    rw [step] at h
    cases hm : prepareIngest input .http none with
    | error e =>
      rw [hm] at h
      cases h
    | ok m =>
      rw [hm] at h
      exact .inr (.inl ⟨input, m, rfl, prepareIngest_http_key hm, (Option.some.inj h).symm⟩)
  | sweep env => exact .inr (.inr ⟨env, rfl, (Option.some.inj h).symm⟩)

theorem Inv.step (h : Inv binds s) (hfits : Fits binds s a)
    (hstep : step text binds s a = some s') : Inv binds s' := by
  rcases step_cases hstep with ⟨row, t, rfl, ht, rfl⟩ | ⟨input, m, rfl, hm, rfl⟩ | ⟨env, rfl, rfl⟩
  · exact h.grow ht
  · exact h.push hm
  · exact h.sweep hfits

/-- A step that fits and does not take `b`. -/
def Passes (binds : List String) (b : SqlboxRow) (s : State) (a : Action) : Prop :=
  Fits binds s a ∧ ∀ env, a = .sweep env → ¬ Takes env b

theorem Stuck.step (h : Stuck binds s b) (hp : Passes binds b s a)
    (hstep : Mo.step text binds s a = some s') : Stuck binds s' b := by
  rcases step_cases hstep with ⟨row, t, rfl, ht, rfl⟩ | ⟨input, m, rfl, hm, rfl⟩ | ⟨env, rfl, rfl⟩
  · exact h.grow ht
  · exact h.push hm
  · exact h.sweep hp.1 (hp.2 env rfl)

end Steps

/-! ## Whole runs -/

section Runs

variable {text : TextEngine} {binds : List String} {as : List Action} {s s' : State}

theorem Inv.along (hP : (inbound text binds).Along (Fits binds) Mo.init as)
    (hrun : (inbound text binds).run Mo.init as = some s) : Inv binds s :=
  (inbound text binds).invariant_along (I := Inv binds)
    (fun _ _ _ hi hf hstep => hi.step hf hstep) (Inv.init binds) hP hrun

/-- **One row that is never taken holds up every row behind it**, for as long as the page of every
sweep reaches back to it: when it is refused each time, when its transaction fails each time. -/
theorem stuck_along {b r : SqlboxRow} (h : Stuck binds s b)
    (hP : (inbound text binds).Along (Passes binds b) s as)
    (hrun : (inbound text binds).run s as = some s') (hr : b.sqlId ≤ r.sqlId) :
    copies s'.messages r = 0 := by
  have hs : Stuck binds s' b := (inbound text binds).invariant_along
    (I := fun t => Stuck binds t b) (fun _ _ _ hi hp hstep => hi.step hp hstep) h hP hrun
  exact hs.copies hr

/-- A sweep that nothing goes wrong with takes a row, unless one in front of it is refused. -/
theorem Inv.faultless (h : Inv binds s) {env : Conditions} (hok : Faultless env)
    (hfits : Fits binds s (.sweep env)) {r : SqlboxRow} (hr : r ∈ moRows binds s)
    (hall : ∀ b ∈ moRows binds s, b.sqlId ≤ r.sqlId → Acceptable b) :
    Ingested (Mo.sweep text binds env s).messages r := by
  obtain ⟨fresh, passed, taken, hs⟩ := @sweep_spec _ text _ _ hfits
  have hacc : ∀ r ∈ taken, Acceptable r := fun r hr => (hs.takes r hr).1
  rw [hs.messages]
  by_cases hold : r.sqlId ≤ s.watermark
  · obtain ⟨m, hm, hkey⟩ := h.covered r hr hold
    exact ⟨m, taken_subset hacc hm, hkey⟩
  have hfresh : r ∈ fresh := hs.perm.symm.subset (mem_backlog.mpr ⟨hr, by omega⟩)
  have hpassed : r ∈ passed := by
    rcases hs.stops hok.available with heq | ⟨b, rest, heq, hb⟩
    · rwa [heq]
    -- the row the loop stopped at would have to be refused, and is not
    by_contra hnot
    have hsorted := hs.sorted
    rw [heq, pairwise_append, pairwise_cons] at hsorted
    have hbr : b.sqlId ≤ r.sqlId := by
      rw [heq, mem_append, mem_cons] at hfresh
      rcases hfresh.resolve_left hnot with rfl | hlater
      · exact Nat.le_refl _
      · exact hsorted.2.1.1 r hlater
    have hmem : b ∈ fresh := by simp [heq]
    have hbmo := (mem_backlog.mp (hs.perm.subset hmem)).1
    exact hb ⟨⟨hall b hbmo hbr, hok.lives _, by rw [hok.ingest]; rfl⟩, hok.ingest _⟩
  exact taken_ingested hacc (hs.behind.subset hpassed)

/-- **What polling brings in.**  In every run whose sweeps fit, every inbound row at or below the
watermark has become exactly one message; and the next sweep that fits and that nothing goes wrong
with brings in exactly the rows with no refused row in front of them, the others being out for
good. -/
theorem polling_along (hP : (inbound text binds).Along (Fits binds) init as)
    (hrun : (inbound text binds).run init as = some s) :
    (∀ r ∈ moRows binds s, r.sqlId ≤ s.watermark → copies s.messages r = 1) ∧
    ∀ env, Faultless env → Fits binds s (.sweep env) → ∀ r ∈ moRows binds s,
      copies (sweep text binds env s).messages r =
        if ∀ b ∈ moRows binds s, b.sqlId ≤ r.sqlId → Acceptable b then 1 else 0 := by
  have h : Inv binds s := Inv.along hP hrun
  refine ⟨fun r hr hle => (copies_eq_one h.distinct).mpr (h.covered r hr hle), ?_⟩
  intro env hok hfits r hr
  have h' : Inv binds (sweep text binds env s) := h.sweep hfits
  by_cases hall : ∀ b ∈ moRows binds s, b.sqlId ≤ r.sqlId → Acceptable b
  · rw [if_pos hall, copies_eq_one h'.distinct]
    exact h.faultless hok hfits hr hall
  · rw [if_neg hall]
    push Not at hall
    obtain ⟨b, hb, hbr, hnot⟩ := hall
    exact ((h.refused b hb hnot).sweep hfits fun ht => hnot ht.1).copies hbr

end Runs

/-! ## Two logs -/

/-- An inbound row of the bind `bind-a`. -/
def moRow (sqlId : Nat) (sender : String) : SqlboxRow where
  sqlId := sqlId
  momt := some "MO"
  sender := some sender
  receiver := some "7077"
  msgdata := some "hello"
  time := some 1700000000
  smscId := some "bind-a"
  dlrMask := none
  foreignId := none

/-- Where a run of the tenant that owns `bind-a` arrives. -/
def ran (as : List Action) : State :=
  ((inbound .ascii ["bind-a"]).run init as).getD init

/-- A row with a blank sender between two good ones, and a sweep. -/
def blankInTheMiddle : List Action :=
  [.grow (moRow 1 "+256700000001"), .grow (moRow 2 " "), .grow (moRow 3 "+256700000003"),
    .sweep {}]

theorem blankInTheMiddle_fits :
    (inbound .ascii ["bind-a"]).Along (Fits ["bind-a"]) init blankInTheMiddle := by
  iterate 3 refine Transition.System.along_cons _ rfl trivial ?_
  exact Transition.System.along_cons _ rfl (fun _ => by decide) trivial

theorem polling_along_blankInTheMiddle :
    (∀ r ∈ moRows ["bind-a"] (ran blankInTheMiddle), r.sqlId ≤ (ran blankInTheMiddle).watermark →
      copies (ran blankInTheMiddle).messages r = 1) ∧
    ∀ env, Faultless env → Fits ["bind-a"] (ran blankInTheMiddle) (.sweep env) →
      ∀ r ∈ moRows ["bind-a"] (ran blankInTheMiddle),
        copies (sweep .ascii ["bind-a"] env (ran blankInTheMiddle)).messages r =
          if ∀ b ∈ moRows ["bind-a"] (ran blankInTheMiddle), b.sqlId ≤ r.sqlId → Acceptable b
          then 1 else 0 :=
  polling_along blankInTheMiddle_fits rfl

/-- Two rows and a sweep that reads one. -/
def pageOfOne : List Action :=
  [.grow (moRow 1 "+256700000001"), .grow (moRow 2 "+256700000002"), .sweep { limit := some 1 }]

/-- **Both halves fail.**  The older of two rows is passed over by a page of one and lies below the
watermark with no message; and behind a row with a blank sender a good row stays out, whatever
sweeps follow, as long as they look at both. -/
theorem polling_loses_and_stalls :
    ((inbound .ascii ["bind-a"]).run init pageOfOne = some (ran pageOfOne) ∧
      moRow 1 "+256700000001" ∈ moRows ["bind-a"] (ran pageOfOne) ∧
      (moRow 1 "+256700000001").sqlId ≤ (ran pageOfOne).watermark ∧
      copies (ran pageOfOne).messages (moRow 1 "+256700000001") = 0) ∧
    ((inbound .ascii ["bind-a"]).run init blankInTheMiddle = some (ran blankInTheMiddle) ∧
      moRow 3 "+256700000003" ∈ moRows ["bind-a"] (ran blankInTheMiddle) ∧
      Acceptable (moRow 3 "+256700000003") ∧
      ∀ as s, (inbound .ascii ["bind-a"]).Along (Fits ["bind-a"]) (ran blankInTheMiddle) as →
        (inbound .ascii ["bind-a"]).run (ran blankInTheMiddle) as = some s →
          copies s.messages (moRow 3 "+256700000003") = 0) := by
  refine ⟨⟨rfl, by decide, by decide, by decide⟩, rfl, by decide, by decide, ?_⟩
  intro as s hP hrun
  have hinv : Inv ["bind-a"] (ran blankInTheMiddle) := Inv.along blankInTheMiddle_fits rfl
  have hrefused : ¬ Acceptable (moRow 2 " ") := by decide
  refine stuck_along (hinv.refused (moRow 2 " ") (by decide) hrefused) ?_ hrun (by decide)
  exact Transition.System.Along.imp _
    (fun t a hfits => ⟨hfits, fun env _ ht => hrefused ht.1⟩) hP

end Jkannel.Messaging.Mo
