import Jkannel.Messaging.MoFanOut
import Jkannel.Messaging.RuleCache
import Jkannel.Routing.SelectionSpec

/-!
# Which rules apply

The rules of a tenant are sorted twice, by the query and by the code that compiles them.  The order
is total on rules with different ids, so what comes of them can be said without it: `refused_iff`
for content rules, and `mem_targetsOf_iff` for inbound ones, which may go on after a match.
-/

namespace Jkannel.Messaging

open List
open Routing (compareText_eq_of_compare)
open RuleCache (blocking)

variable {text : TextEngine} {regex : RegexEngine} {table : List ContentRuleRow} {now : Int}

theorem transCmp_rules {R T : Type} [Ord T] [Std.TransOrd T] (priority : R → Int)
    (createdAtMs : R → T) (id : R → String) :
    Std.TransCmp fun a b => (compare (priority a) (priority b)).then <|
      (compare (createdAtMs a) (createdAtMs b)).then (Text.compareText (id a) (id b)) :=
  have : Std.TransCmp fun a b => Text.compareText (id a) (id b) :=
    Ranking.transCmp_on Text.compareText id
  inferInstanceAs (Std.TransCmp (compareLex (compareOn priority)
    (compareLex (compareOn createdAtMs) fun a b => Text.compareText (id a) (id b))))

instance : Std.TransCmp compareRules := transCmp_rules ..

instance : Std.TransCmp Mo.compareMoRules := transCmp_rules ..

theorem compileRule_id (row : ContentRuleRow) : (compileRule text regex row).id = row.id := by
  rw [compileRule]
  split
  · split <;> rfl
  · rfl

/-- No two compiled rules tie. -/
theorem compareRules_ties (text : TextEngine) (regex : RegexEngine) (now : Int)
    (hids : (table.map ContentRuleRow.id).Nodup) :
    ∀ a ∈ (enabledRules table now).map (compileRule text regex),
      ∀ b ∈ (enabledRules table now).map (compileRule text regex),
        compareRules a b = .eq → a = b := by
  intro a ha b hb htie
  obtain ⟨row, hrow, rfl⟩ := mem_map.mp ha
  obtain ⟨row', hrow', rfl⟩ := mem_map.mp hb
  simp only [compareRules, Ordering.then_eq_eq] at htie
  have hid := compareText_eq_of_compare htie.2.2
  rw [compileRule_id, compileRule_id] at hid
  have hmem : ∀ r ∈ enabledRules table now, r ∈ table := fun r hr =>
    mem_of_mem_filter ((mem_insertionSort _).mp (mem_of_mem_take hr))
  rw [inj_on_of_nodup_map hids (hmem row hrow) (hmem row' hrow') hid]

/-- **First match wins**: a message is refused exactly when some rule that is loaded applies to it
and blocks, and every other one that applies comes after that. -/
theorem refused_iff (hids : (table.map ContentRuleRow.id).Nodup) (now : Int)
    (context : ContentFilterContext) :
    let rules := (enabledRules table now).map (compileRule text regex)
    (evaluateContent text regex (compileRuleSet text regex table now).rules context).allowed =
        false ↔
      ∃ rule ∈ rules, Applies text regex context rule = true ∧ rule.action ≠ .allow ∧
        ∀ other ∈ rules, Applies text regex context other = true →
          compareRules rule other ≠ .gt := by
  intro rules
  have hties := compareRules_ties text regex now hids
  rw [compileRuleSet, evaluateContent_decided]
  constructor
  · intro h
    cases hfound : (rules.insertionSort (compareRules · · ≠ .gt)).find? (Applies text regex context)
    with
    | none => rw [hfound] at h; cases h
    | some rule =>
      obtain ⟨hrule, happlies, hfirst⟩ := (Ranking.find?_insertionSort_iff _ hties).mp hfound
      rw [hfound] at h
      exact ⟨rule, hrule, happlies, of_decide_eq_false h, hfirst⟩
  · rintro ⟨rule, hrule, happlies, hblocks, hfirst⟩
    rw [(Ranking.find?_insertionSort_iff _ hties).mpr ⟨hrule, happlies, hfirst⟩]
    exact decide_eq_false hblocks

/-- A rule that allows the word that `blocking` blocks, and comes after it. -/
def allowing : ContentRuleRow :=
  { blocking none with id := "trusted", action := .allow, priority := 200 }

/-- Both rules apply, and the order decides. -/
theorem refused_iff_blocking :
    (evaluateContent .ascii .never (compileRuleSet .ascii .never [allowing, blocking none] 0).rules
      ⟨"", "", "a free offer", none, none⟩).allowed = false :=
  (refused_iff (by decide) 0 _).mpr ⟨compileRule .ascii .never (blocking none),
    mem_map_of_mem (by decide), by decide +kernel, by decide, by decide +kernel⟩

namespace Mo

variable (text : TextEngine) (countryCode : Option String) (context : MoMessageContext)

theorem loadInClient_ascending (tables : RuleTables) :
    (loadInClient text countryCode tables).Pairwise (compareMoRules · · = .lt) := by
  have hids := pairwise_map.mp (loadInClient_nodup text countryCode tables)
  refine ((Ranking.pairwise_insertionSort _).and hids).imp fun {a b} ⟨hle, hne⟩ => ?_
  cases h : compareMoRules a b with
  | lt => rfl
  | eq =>
    rw [compareMoRules, Ordering.then_eq_eq, Ordering.then_eq_eq] at h
    exact absurd (compareText_eq_of_compare h.2.2) hne
  | gt => exact absurd h hle

theorem matchFrom_matched (rules : List CompiledMoRule) (found : List MoMatch) (evaluated : Nat) :
    (matchFrom text countryCode context rules found evaluated).matched =
      found ++ (Ranking.search (fun r => (matchMoRule text countryCode r context).isSome)
        (!·.continueAfterMatch) rules).filterMap (matchMoRule text countryCode · context) := by
  induction rules generalizing found evaluated with
  | nil => simp [matchFrom, Ranking.search]
  | cons rule rules ih =>
    rw [matchFrom, Ranking.search]
    cases hm : matchMoRule text countryCode rule context with
    | none => simp [ih]
    | some m =>
      have hcontinue : m.continueAfterMatch = rule.continueAfterMatch := by grind [matchMoRule]
      cases hstop : rule.continueAfterMatch <;> simp [hcontinue, hstop, hm, ih]

/-- **Who gets a message**: a destination of a rule that matches, when no rule before it matches and
ends the search. -/
theorem mem_targetsOf_iff (tables : RuleTables) (rule : CompiledMoRule) (d : Destination) :
    let rules := loadInClient text countryCode tables
    (rule, d) ∈ targetsOf text countryCode tables context ↔
      d ∈ rule.destinations ∧ rule ∈ rules ∧
        (matchMoRule text countryCode rule context).isSome = true ∧ ∀ other ∈ rules,
          (matchMoRule text countryCode other context).isSome = true →
            other.continueAfterMatch = false → compareMoRules rule other ≠ .gt := by
  intro rules
  have hfind : ∀ r ∈ rules, rules.find? (fun r' => decide (r'.id = r.id)) = some r := fun _ =>
    Ranking.find?_key (loadInClient_nodup text countryCode tables)
  have hsearch := fun r => Ranking.mem_search_iff (a := r)
    (fun r => (matchMoRule text countryCode r context).isSome) (!·.continueAfterMatch)
    (loadInClient_ascending text countryCode tables)
  simp only [Bool.not_eq_true'] at hsearch
  rw [← hsearch, targetsOf, fanOutTargets, matchMoRules, matchFrom_matched, nil_append, mem_flatMap]
  constructor
  · rintro ⟨m, hm, ht⟩
    obtain ⟨r, hr, hm⟩ := mem_filterMap.mp hm
    rw [matchMoRule_ruleId text countryCode hm, hfind r ((hsearch r).mp hr).1] at ht
    obtain ⟨d, hd, heq⟩ := mem_map.mp ht
    cases heq
    exact ⟨hd, hr⟩
  · rintro ⟨hd, hr⟩
    obtain ⟨hmem, hhits, -⟩ := (hsearch rule).mp hr
    obtain ⟨m, hm⟩ := Option.isSome_iff_exists.mp hhits
    refine ⟨m, mem_filterMap.mpr ⟨rule, hr, hm⟩, ?_⟩
    rw [matchMoRule_ruleId text countryCode hm, hfind rule hmem]
    exact mem_map_of_mem hd

end Mo

end Jkannel.Messaging
