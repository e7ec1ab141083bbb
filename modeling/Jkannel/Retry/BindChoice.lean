import Jkannel.Retry.BindSelection
import Jkannel.Routing.SelectionSpec

/-!
# What the choice of a bind promises

The bind of a retry has to satisfy several constraints at once and is chosen by a preference among
those that do.  This file says what a right choice is without saying how it is made, and when the
choice that is made is one.

* `Eligible` are the constraints, `Admissible` a bind and a reason that satisfy the constraints and
  the preference, and `Right` a choice that is admissible, and none only when nothing is.
* `selectRetryBind_right` says that the choice is right when the binds that are up have ordinary
  names.  Two kinds of name are not: the empty one, which the code takes for no bind, and one that
  every object inherits, under which the record of recent retries holds something that is no number
  until the bind has an entry.
* `selectRetryBind_right_iff` says that with any other name it is not always right.
-/

namespace Jkannel.Retry

open Option (some.inj some_ne_none)
open List
open BindSelectionInput (isEntitled isTried overBudget compareLoad leastLoaded)

/-! ## Right choices -/

/-- The retries aimed at a bind within the window. -/
def BindSelectionInput.load (input : BindSelectionInput) (bind : String) : Nat :=
  (input.recentByBind bind).getD 0

/-- The constraints on a bind: up, the customer's, and with retries to spare. -/
structure Eligible (input : BindSelectionInput) (bind : String) : Prop where
  available : bind ∈ input.available
  entitled : ∀ binds, input.entitled = some binds → bind ∈ binds
  underBudget : input.load bind < input.bindRetriesPerMinute

/-- An eligible bind the message has not been tried on. -/
def Fresh (input : BindSelectionInput) (bind : String) : Prop :=
  Eligible input bind ∧ bind ∉ input.tried

/-- No fresh bind has fewer recent retries, nor as few and a name that comes first. -/
def LeastLoaded (env : TextEngine) (input : BindSelectionInput) (bind : String) : Prop :=
  ∀ other, Fresh input other → input.load bind < input.load other ∨
    input.load bind = input.load other ∧ env.localeCompare bind other ≠ .gt

/-- A bind and a reason for it that satisfy the constraints and the preference. -/
structure Admissible (env : TextEngine) (input : BindSelectionInput) (bind : String)
    (selection : BindSelectionKind) : Prop where
  eligible : Eligible input bind
  untried : selection ≠ .sameBind → bind ∉ input.tried
  /-- The first bind again: only where the policy allows it and nothing fresh is left. -/
  again : selection = .sameBind → input.requireDifferentBind = false ∧
    (∀ other, ¬ Fresh input other) ∧ input.tried.head? = some bind
  routed : ∀ routed, input.routed = some routed → Fresh input routed → bind = routed
  least : (∀ routed, input.routed = some routed → ¬ Fresh input routed) →
    LeastLoaded env input bind

/-- A choice that is admissible, and that is none exactly when nothing is. -/
structure Right (env : TextEngine) (input : BindSelectionInput) (choice : BindSelection) :
    Prop where
  admissible : ∀ bind, choice.smscId = some bind →
    ∃ selection, choice.selection = some selection ∧ Admissible env input bind selection
  none_iff : choice.smscId = none ↔ ∀ bind selection, ¬ Admissible env input bind selection

/-- A name under which the code finds the bind's own count: not empty, and, where the bind has no
entry, not one that every object inherits. -/
def Ordinary (recentByBind : String → Option Nat) (bind : String) : Prop :=
  bind ≠ "" ∧ (recentByBind bind = none → bind ∉ Engine.inheritedKeys)

/-! ## The code's predicates on ordinary names -/

section Choice

variable {env : TextEngine} {input : BindSelectionInput} {bind : String}

theorem recent_of_ordinary (h : Ordinary input.recentByBind bind) :
    input.recent bind = some (input.load bind) := by
  rw [BindSelectionInput.recent, BindSelectionInput.load]
  cases hentry : input.recentByBind bind with
  | some count => rfl
  | none => exact if_neg (h.2 hentry)

theorem isEntitled_iff : input.isEntitled bind = true ↔
    ∀ binds, input.entitled = some binds → bind ∈ binds := by
  rw [isEntitled]
  cases input.entitled with
  | none => exact iff_of_true rfl fun binds h => by cases h
  | some binds =>
    rw [Option.all_some, contains_iff_mem]
    exact ⟨fun h other heq => some.inj heq ▸ h, fun h => h binds rfl⟩

theorem isTried_eq_false : input.isTried bind = false ↔ bind ∉ input.tried := by
  rw [isTried, ← Bool.not_eq_true, contains_iff_mem]

theorem overBudget_eq_false (h : Ordinary input.recentByBind bind) :
    input.overBudget bind = false ↔ input.load bind < input.bindRetriesPerMinute := by
  rw [overBudget, recent_of_ordinary h, Option.any_some, decide_eq_false_iff_not, Nat.not_le]

variable (hnames : ∀ bind ∈ input.available, Ordinary input.recentByBind bind)
include hnames

theorem eligible_iff : Eligible input bind ↔ bind ∈ input.available ∧
    input.isEntitled bind = true ∧ input.overBudget bind = false := by
  constructor
  · intro h
    exact ⟨h.available, isEntitled_iff.mpr h.entitled,
      (overBudget_eq_false (hnames bind h.available)).mpr h.underBudget⟩
  · rintro ⟨havailable, hentitled, hbudget⟩
    exact ⟨havailable, isEntitled_iff.mp hentitled,
      (overBudget_eq_false (hnames bind havailable)).mp hbudget⟩

theorem mem_candidates_iff_fresh : bind ∈ input.candidates ↔ Fresh input bind := by
  rw [mem_candidates, Fresh, eligible_iff hnames, isTried_eq_false]
  constructor
  · rintro ⟨havailable, huntried, hentitled, hbudget⟩
    exact ⟨⟨havailable, hentitled, hbudget⟩, huntried⟩
  · rintro ⟨⟨havailable, hentitled, hbudget⟩, huntried⟩
    exact ⟨havailable, huntried, hentitled, hbudget⟩

/-- The routing engine's pick is taken exactly when it is fresh. -/
theorem routed_iff {routed : String} :
    (Text.truthy input.routed).filter input.candidates.contains = some routed ↔
      input.routed = some routed ∧ Fresh input routed := by
  rw [Option.filter_eq_some_iff, contains_iff_mem, mem_candidates_iff_fresh hnames]
  refine and_congr_left fun hfresh => ?_
  have hne : routed ≠ "" := (hnames routed hfresh.1.available).1
  cases input.routed with
  | none => rfl
  | some other =>
    rw [Text.truthy]
    split
    · next hempty =>
      refine iff_of_false (fun h => by cases h) fun h => hne ?_
      rw [← some.inj h, hempty]
    · rfl

/-- The first bind again is offered exactly when the policy allows it and the bind is eligible. -/
theorem origin_iff : input.origin = some bind ↔ input.requireDifferentBind = false ∧
    input.tried.head? = some bind ∧ Eligible input bind := by
  rw [BindSelectionInput.origin]
  cases input.requireDifferentBind with
  | true => exact iff_of_false (fun h => by cases h) fun h => by cases h.1
  | false =>
    rw [if_neg (by decide), Option.filter_eq_some_iff, Bool.and_eq_true, Bool.and_eq_true,
      contains_iff_mem, Bool.not_eq_true', and_assoc, ← eligible_iff hnames]
    constructor
    · rintro ⟨htruthy, heligible⟩
      refine ⟨rfl, ?_, heligible⟩
      cases hhead : input.tried.head? with
      | none => rw [hhead] at htruthy; cases htruthy
      | some first =>
        rw [hhead, Text.truthy] at htruthy
        exact (Option.ite_none_left_eq_some.mp htruthy).2
    · rintro ⟨-, hhead, heligible⟩
      rw [hhead]
      exact ⟨if_neg (hnames bind heligible.available).1, heligible⟩

/-! ## The least loaded -/

/-- The comparison of the sort, on counts. -/
def byLoad (env : TextEngine) (input : BindSelectionInput) : String → String → Ordering :=
  compareLex (compareOn input.load) env.localeCompare

omit hnames in
theorem byLoad_ne_gt {a b : String} : byLoad env input a b ≠ .gt ↔
    input.load a < input.load b ∨
      input.load a = input.load b ∧ env.localeCompare a b ≠ .gt := by
  rw [byLoad, compareLex, compareOn, ne_eq, Ordering.then_eq_gt, Nat.compare_eq_gt,
    Nat.compare_eq_eq, not_or, not_and, Nat.not_lt]
  constructor
  · rintro ⟨hle, hties⟩
    exact (Nat.lt_or_eq_of_le hle).imp id fun heq => ⟨heq, hties heq⟩
  · rintro (hlt | ⟨heq, hname⟩)
    · exact ⟨Nat.le_of_lt hlt, fun heq => absurd heq (Nat.ne_of_lt hlt)⟩
    · exact ⟨Nat.le_of_eq heq, fun _ => hname⟩

theorem compareLoad_eq {a b : String} (ha : a ∈ input.candidates) (hb : b ∈ input.candidates) :
    input.compareLoad env a b = byLoad env input a b := by
  rw [compareLoad, recent_of_ordinary (hnames a (mem_candidates.mp ha).1),
    recent_of_ordinary (hnames b (mem_candidates.mp hb).1)]
  rfl

theorem leastLoaded_eq : input.leastLoaded env =
    (input.candidates.insertionSort (byLoad env input · · ≠ .gt)).head? := by
  have hsort := map_insertionSort (input.compareLoad env · · ≠ .gt)
    (byLoad env input · · ≠ .gt) id input.candidates fun a ha b hb => by
      rw [compareLoad_eq hnames ha hb]
      rfl
  rw [map_id, map_id] at hsort
  rw [leastLoaded, hsort]

/-- Something is offered exactly when there is a fresh bind. -/
theorem leastLoaded_eq_none : input.leastLoaded env = none ↔ ∀ other, ¬ Fresh input other := by
  rw [leastLoaded, head?_eq_none_iff]
  constructor
  · intro hnil other hother
    have hmem := (mem_insertionSort (input.compareLoad env · · ≠ .gt)).mpr
      ((mem_candidates_iff_fresh hnames).mpr hother)
    rw [hnil] at hmem
    cases hmem
  · intro hnone
    refine eq_nil_iff_forall_not_mem.mpr fun other hother => hnone other ?_
    exact (mem_candidates_iff_fresh hnames).mp ((mem_insertionSort _).mp hother)

theorem leastLoaded_spec [Std.TransCmp env.localeCompare] (h : input.leastLoaded env = some bind) :
    Fresh input bind ∧ LeastLoaded env input bind := by
  refine ⟨(mem_candidates_iff_fresh hnames).mp (leastLoaded_mem h), fun other hother => ?_⟩
  have : Std.TransCmp (byLoad env input) :=
    inferInstanceAs (Std.TransCmp (compareLex (compareOn input.load) env.localeCompare))
  rw [leastLoaded_eq hnames] at h
  have hleads := Ranking.head?_insertionSort_iff.mp h
  exact byLoad_ne_gt.mp (hleads.least other ((mem_candidates_iff_fresh hnames).mpr hother))

/-! ## The choice -/

omit hnames in
/-- An admissible bind is a right choice. -/
theorem Admissible.right {selection : BindSelectionKind} {choice : BindSelection}
    (h : Admissible env input bind selection) (hid : choice.smscId = some bind)
    (hselection : choice.selection = some selection) : Right env input choice := by
  refine ⟨fun other hother => ⟨selection, hselection, ?_⟩, ?_⟩
  · obtain rfl := some.inj (hid.symm.trans hother)
    exact h
  · rw [hid]
    exact iff_of_false (some_ne_none bind) fun hnone => hnone bind selection h

/-- **On ordinary names the choice is right.** -/
theorem selectRetryBind_right [Std.TransCmp env.localeCompare] :
    Right env input (selectRetryBind env input) := by
  rw [selectRetryBind]
  cases hpick : (Text.truthy input.routed).filter input.candidates.contains with
  | some routed =>
    obtain ⟨hrouted, hfresh⟩ := (routed_iff hnames).mp hpick
    have hadmissible : Admissible env input routed .route :=
      { eligible := hfresh.1
        untried := fun _ => hfresh.2
        again := fun h => by cases h
        routed := fun other h _ => some.inj (hrouted.symm.trans h)
        least := fun h => absurd hfresh (h routed hrouted) }
    exact hadmissible.right rfl rfl
  | none =>
    have hnopick : ∀ routed, input.routed = some routed → ¬ Fresh input routed := by
      intro routed hrouted hfresh
      have := (routed_iff hnames).mpr ⟨hrouted, hfresh⟩
      rw [hpick] at this
      cases this
    cases hleast : input.leastLoaded env with
    | some chosen =>
      obtain ⟨hfresh, hmin⟩ := leastLoaded_spec hnames hleast
      have hadmissible : Admissible env input chosen .leastLoaded :=
        { eligible := hfresh.1
          untried := fun _ => hfresh.2
          again := fun h => by cases h
          routed := fun other h hother => absurd hother (hnopick other h)
          least := fun _ => hmin }
      exact hadmissible.right rfl rfl
    | none =>
      have hnone := (leastLoaded_eq_none hnames).mp hleast
      cases horigin : input.origin with
      | some first =>
        obtain ⟨hpolicy, hfirst, heligible⟩ := (origin_iff hnames).mp horigin
        have hadmissible : Admissible env input first .sameBind :=
          { eligible := heligible
            untried := fun h => absurd rfl h
            again := fun _ => ⟨hpolicy, hnone, hfirst⟩
            routed := fun other _ hother => absurd hother (hnone other)
            least := fun _ other hother => absurd hother (hnone other) }
        exact hadmissible.right rfl rfl
      | none =>
        refine ⟨fun bind h => (some_ne_none bind h.symm).elim, iff_of_true rfl
          fun bind selection h => ?_⟩
        by_cases hselection : selection = .sameBind
        · obtain ⟨hpolicy, -, hfirst⟩ := h.again hselection
          have := (origin_iff hnames).mpr ⟨hpolicy, hfirst, h.eligible⟩
          rw [horigin] at this
          cases this
        · exact hnone bind ⟨h.eligible, h.untried hselection⟩

end Choice

/-! ## Names that are not ordinary -/

section Names

variable {env : TextEngine} {recentByBind : String → Option Nat}

/-- The only bind that is up has been tried, has retries to spare and may be used again. -/
def onlyAgain (recentByBind : String → Option Nat) (bind : String) : BindSelectionInput where
  available := [bind]
  tried := [bind]
  entitled := none
  recentByBind := recentByBind
  bindRetriesPerMinute := (recentByBind bind).getD 0 + 1
  routed := none
  requireDifferentBind := false

theorem onlyAgain_admissible (bind : String) :
    Admissible env (onlyAgain recentByBind bind) bind .sameBind := by
  have hnone : ∀ other, ¬ Fresh (onlyAgain recentByBind bind) other :=
    fun other h => h.2 h.1.available
  exact
    { eligible := ⟨mem_singleton.mpr rfl, fun _ h => (some_ne_none _ h.symm).elim,
        Nat.lt_succ_self _⟩
      untried := fun h => absurd rfl h
      again := fun _ => ⟨rfl, hnone, rfl⟩
      routed := fun routed h => by cases h
      least := fun _ other h => absurd h (hnone other) }

/-- The empty name is taken for no bind at all. -/
theorem onlyAgain_empty :
    (selectRetryBind env (onlyAgain recentByBind "")).smscId = none := by
  have hcandidates : (onlyAgain recentByBind "").candidates = [] := rfl
  have hleast : (onlyAgain recentByBind "").leastLoaded env = none := by
    rw [leastLoaded, hcandidates]
    rfl
  rw [selectRetryBind, hleast]
  rfl

/-- The only bind that is up, and no bind may have any retry. -/
def noRetries (recentByBind : String → Option Nat) (bind : String) : BindSelectionInput where
  available := [bind]
  tried := []
  entitled := none
  recentByBind := recentByBind
  bindRetriesPerMinute := 0
  routed := none
  requireDifferentBind := true

/-- Under an inherited name the count is no number, which no share is exceeded by. -/
theorem noRetries_inherited {bind : String} (hentry : recentByBind bind = none)
    (hinherited : bind ∈ Engine.inheritedKeys) :
    (selectRetryBind env (noRetries recentByBind bind)).smscId = some bind := by
  have hentry' : (noRetries recentByBind bind).recentByBind bind = none := hentry
  have hrecent : (noRetries recentByBind bind).recent bind = none := by
    rw [BindSelectionInput.recent, hentry']
    exact if_pos hinherited
  refine selectRetryBind_only (mem_candidates.mpr ⟨mem_singleton.mpr rfl, rfl, rfl, ?_⟩)
    fun other hother => mem_singleton.mp (mem_candidates.mp hother).1
  rw [overBudget, hrecent]
  rfl

end Names

/-- **Which names the choice is right on.**  For every set of names and counts of recent retries:
whatever binds of the set are up, have been tried, are the customer's or are picked by the routing
engine, and whatever the policy, the choice is right; this holds exactly when every name of the
set is ordinary. -/
theorem selectRetryBind_right_iff (env : TextEngine) [Std.TransCmp env.localeCompare]
    (names : Set String) (recentByBind : String → Option Nat) :
    (∀ input : BindSelectionInput, input.recentByBind = recentByBind →
      (∀ bind ∈ input.available, bind ∈ names) →
      Right env input (selectRetryBind env input)) ↔
    ∀ bind ∈ names, Ordinary recentByBind bind := by
  constructor
  · intro hright bind hbind
    have hsingle : ∀ other ∈ [bind], other ∈ names :=
      fun other hother => mem_singleton.mp hother ▸ hbind
    refine ⟨?_, fun hentry hinherited => ?_⟩
    · rintro rfl
      have hnone := (hright (onlyAgain recentByBind "") rfl hsingle).none_iff.mp onlyAgain_empty
      exact hnone "" .sameBind (onlyAgain_admissible "")
    · have hchosen : (selectRetryBind env (noRetries recentByBind bind)).smscId = some bind :=
        noRetries_inherited hentry hinherited
      obtain ⟨_, -, hadmissible⟩ :=
        (hright (noRetries recentByBind bind) rfl hsingle).admissible bind hchosen
      exact Nat.not_lt_zero _ hadmissible.eligible.underBudget
  · rintro hnames input rfl havailable
    exact selectRetryBind_right fun bind hbind => hnames bind (havailable bind hbind)

/-- Two binds are up and untried; the first has three recent retries, the second no entry. -/
def busyOrIdle (idle : String) : BindSelectionInput where
  available := ["airtel-ug", idle]
  tried := ["mtn-ug"]
  entitled := none
  recentByBind bind := if bind = "airtel-ug" then some 3 else none
  bindRetriesPerMinute := 10
  routed := none
  requireDifferentBind := true

theorem selectRetryBind_right_iff_idle :
    Right .ascii (busyOrIdle "utl-ug") (selectRetryBind .ascii (busyOrIdle "utl-ug")) :=
  (selectRetryBind_right_iff .ascii {"airtel-ug", "utl-ug"}
    (busyOrIdle "utl-ug").recentByBind).mpr
      (fun bind hbind => by rcases hbind with rfl | rfl <;> exact ⟨by decide, by decide⟩)
      (busyOrIdle "utl-ug") rfl (fun bind hbind => by simpa [busyOrIdle] using hbind)

/-- The name `constructor` is one that the validator and the schema accept for a bind, and the idle
bind of that name is passed over for a busy one. -/
theorem constructor_looks_busy :
    ¬ Right .ascii (busyOrIdle "constructor")
      (selectRetryBind .ascii (busyOrIdle "constructor")) := by
  intro hright
  have hchosen : (selectRetryBind .ascii (busyOrIdle "constructor")).smscId =
      some "airtel-ug" := by decide
  obtain ⟨_, -, hadmissible⟩ := hright.admissible "airtel-ug" hchosen
  have hfresh : Fresh (busyOrIdle "constructor") "constructor" :=
    ⟨⟨by decide, fun _ h => (some_ne_none _ h.symm).elim, by decide⟩, by decide⟩
  rcases hadmissible.least (fun _ h => (some_ne_none _ h.symm).elim) "constructor" hfresh
    with h | ⟨h, -⟩
  · revert h
    decide
  · revert h
    decide

end Jkannel.Retry
