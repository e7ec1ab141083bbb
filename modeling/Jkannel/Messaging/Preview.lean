import Jkannel.Messaging.ContentFilter

/-!
# The preview of the content filter

An operator who tries a rule out is shown every rule that matches, also those that come too late to
decide anything.  That is a second loop over the rules, written apart from the one every send goes
through, and it has to reach the same verdict.

* `explainContent` is that loop, one `explainRule` for each rule.
* `Judged` says where the loop stands: before the first match it has counted what `evaluateFrom`
  counts, and after it nothing moves the verdict.
* `preview_tells_the_truth` puts the two loops side by side, and adds that a set without a rule for
  one carrier reaches one verdict on all of them.
-/

namespace Jkannel.Messaging

/-- A rule that matches, and whether an earlier one has decided already. -/
structure ExplainedMatch where
  found : ContentRuleMatch
  shadowed : Bool

/-- What a preview shows. -/
structure Explanation where
  verdict : ContentFilterVerdict
  matched : List ExplainedMatch
  inScope : Nat
  skippedOutOfScope : Nat

/-- The variables of the loop. -/
structure Explaining where
  overBudgetRuleIds : List String
  matched : List ExplainedMatch
  inScope : Nat
  skipped : Nat
  decided : Option ContentRuleMatch
  evaluatedUntilDecision : Nat

def Explaining.start : Explaining := ⟨[], [], 0, 0, none, 0⟩

variable (text : TextEngine) (regex : RegexEngine) (context : ContentFilterContext)

/-- One round of the loop. -/
def explainRule (s : Explaining) (rule : CompiledContentRule) : Explaining :=
  if !ruleInScope rule context then { s with skipped := s.skipped + 1 }
  else
    let outcome := matchRule text regex rule context
    let s :=
      { s with
        inScope := s.inScope + 1
        evaluatedUntilDecision :=
          if s.decided.isNone then s.evaluatedUntilDecision + 1 else s.evaluatedUntilDecision
        overBudgetRuleIds :=
          if outcome.2 && !s.overBudgetRuleIds.contains rule.id then
            s.overBudgetRuleIds ++ [rule.id]
          else s.overBudgetRuleIds }
    match outcome.1 with
    | none => s
    | some found =>
      if s.decided.isNone then
        { s with decided := some found, matched := s.matched ++ [⟨found, false⟩] }
      else { s with matched := s.matched ++ [⟨found, true⟩] }

/-- The verdict the loop comes to. -/
def Explaining.verdict (s : Explaining) : ContentFilterVerdict :=
  match s.decided with
  | some decided =>
    { allowed := decide (decided.action = .allow)
      decidedBy := some decided
      reason := describeMatch decided
      rulesEvaluated := s.evaluatedUntilDecision
      overBudgetRuleIds := s.overBudgetRuleIds }
  | none =>
    { allowed := true
      decidedBy := none
      reason := if s.inScope = 0 then "no content rule is in scope"
        else "no content rule matched (" ++ toString s.inScope ++ " in scope)"
      rulesEvaluated := s.inScope
      overBudgetRuleIds := s.overBudgetRuleIds }

/-- Every rule that matches, in the order of evaluation, the deciding one unshadowed. -/
def explainContent (rules : List CompiledContentRule) : Explanation :=
  let s := rules.foldl (explainRule text regex context) .start
  ⟨s.verdict, s.matched, s.inScope, s.skipped⟩

variable {text : TextEngine} {regex : RegexEngine} {context : ContentFilterContext}
  {rule : CompiledContentRule}

/-! ## One round -/

theorem explainRule_of_skipped (s : Explaining) (h : ruleInScope rule context = false) :
    explainRule text regex context s rule = { s with skipped := s.skipped + 1 } := by
  rw [explainRule, h]
  rfl

/-- What a round leaves of a loop that has decided: only the list of matches grows, and by a
shadowed one. -/
theorem explainRule_decided (s : Explaining) (rule : CompiledContentRule) {found : ContentRuleMatch}
    (h : s.decided = some found) :
    (explainRule text regex context s rule).decided = some found ∧
      (explainRule text regex context s rule).evaluatedUntilDecision = s.evaluatedUntilDecision ∧
      ∃ later, (explainRule text regex context s rule).matched = s.matched ++ later ∧
        ∀ m ∈ later, m.shadowed = true := by
  by_cases hscope : ruleInScope rule context = true
  · cases hmatch : (matchRule text regex rule context).1 with
    | none | some _ => simp [explainRule, hscope, hmatch, h]
  · rw [explainRule_of_skipped s (by simpa using hscope)]
    exact ⟨h, rfl, [], by simp, by simp⟩

/-! ## The two loops -/

/-- The verdicts agree in everything an operator is shown. -/
structure SameVerdict (v w : ContentFilterVerdict) : Prop where
  allowed : v.allowed = w.allowed
  decidedBy : v.decidedBy = w.decidedBy
  reason : v.reason = w.reason
  rulesEvaluated : v.rulesEvaluated = w.rulesEvaluated

/-- The first match that is listed is the one that decides, and it is the only one that is not
shadowed. -/
def FirstDecides (decidedBy : Option ContentRuleMatch) : List ExplainedMatch → Prop
  | [] => decidedBy = none
  | first :: later =>
    decidedBy = some first.found ∧ first.shadowed = false ∧ ∀ m ∈ later, m.shadowed = true

/-- Once a loop has decided, the rules that are left change nothing of the verdict. -/
theorem foldl_decided (rules : List CompiledContentRule) (s : Explaining) {found : ContentRuleMatch}
    (h : s.decided = some found) :
    (rules.foldl (explainRule text regex context) s).decided = some found ∧
      (rules.foldl (explainRule text regex context) s).evaluatedUntilDecision =
        s.evaluatedUntilDecision ∧
      ∃ later, (rules.foldl (explainRule text regex context) s).matched = s.matched ++ later ∧
        ∀ m ∈ later, m.shadowed = true := by
  induction rules generalizing s with
  | nil => exact ⟨h, rfl, [], by simp, by simp⟩
  | cons rule rules ih =>
    obtain ⟨hdecided, hevaluated, later, hmatched, hshadowed⟩ :=
      @explainRule_decided text regex context s rule found h
    obtain ⟨hdecided', hevaluated', later', hmatched', hshadowed'⟩ := ih _ hdecided
    rw [List.foldl_cons]
    refine ⟨hdecided', hevaluated'.trans hevaluated, later ++ later', ?_, ?_⟩
    · rw [hmatched', hmatched, List.append_assoc]
    · intro m hm
      rcases List.mem_append.mp hm with hm | hm
      · exact hshadowed m hm
      · exact hshadowed' m hm

/-- A loop that has not decided yet: what is in scope has been counted once, and nothing is
listed. -/
structure Judged (s : Explaining) (evaluated : Nat) : Prop where
  decided : s.decided = none
  matched : s.matched = []
  inScope : s.inScope = evaluated
  evaluatedUntilDecision : s.evaluatedUntilDecision = evaluated

theorem Judged.start : Judged .start 0 := ⟨rfl, rfl, rfl, rfl⟩

/-- The rest of the loop reaches the verdict that the rest of an evaluation reaches. -/
theorem Judged.foldl {s : Explaining} {evaluated : Nat} (h : Judged s evaluated)
    (rules : List CompiledContentRule) (overBudget : List String) :
    SameVerdict (rules.foldl (explainRule text regex context) s).verdict
        (evaluateFrom text regex context rules evaluated overBudget) ∧
      FirstDecides (rules.foldl (explainRule text regex context) s).verdict.decidedBy
        (rules.foldl (explainRule text regex context) s).matched := by
  induction rules generalizing s evaluated overBudget with
  | nil =>
    rw [List.foldl_nil, Explaining.verdict, h.decided, h.matched, evaluateFrom, h.inScope]
    exact ⟨⟨rfl, rfl, rfl, rfl⟩, rfl⟩
  | cons rule rules ih =>
    rw [List.foldl_cons, evaluateFrom]
    by_cases hscope : ruleInScope rule context = true
    · simp only [hscope, Bool.not_true, Bool.false_eq_true, if_false]
      cases hmatch : (matchRule text regex rule context).1 with
      | none =>
        refine ih ?_ _
        simp only [explainRule, hscope, hmatch]
        exact ⟨h.decided, h.matched, by simp [h.inScope],
          by simp [h.decided, h.evaluatedUntilDecision]⟩
      | some found =>
        have hround : (explainRule text regex context s rule).decided = some found ∧
            (explainRule text regex context s rule).evaluatedUntilDecision = evaluated + 1 ∧
            (explainRule text regex context s rule).matched = [⟨found, false⟩] := by
          simp [explainRule, hscope, hmatch, h.decided, h.matched, h.evaluatedUntilDecision]
        obtain ⟨hdecided, hevaluated, hmatched⟩ := hround
        obtain ⟨hdecided', hevaluated', later, hmatched', hshadowed⟩ :=
          @foldl_decided text regex context rules _ found hdecided
        rw [Explaining.verdict, hdecided', hmatched', hmatched, hevaluated', hevaluated]
        exact ⟨⟨rfl, rfl, rfl, rfl⟩, rfl, rfl, hshadowed⟩
    · have hskip : ruleInScope rule context = false := by simpa using hscope
      rw [explainRule_of_skipped s hskip, if_pos (by simp [hskip])]
      exact ih (s := { s with skipped := s.skipped + 1 })
        ⟨h.decided, h.matched, h.inScope, h.evaluatedUntilDecision⟩ overBudget

/-! ## Before the carrier is known and after -/

theorem ruleInScope_smscId (h : Text.truthy rule.smscId = none)
    (context : ContentFilterContext) (smscId : Option String) :
    ruleInScope rule { context with smscId := smscId } = ruleInScope rule context := by
  rw [ruleInScope, ruleInScope, h]
  rfl

theorem evaluateFrom_smscId {rules : List CompiledContentRule}
    (h : ∀ rule ∈ rules, Text.truthy rule.smscId = none) (context : ContentFilterContext)
    (smscId : Option String) (evaluated : Nat) (overBudget : List String) :
    evaluateFrom text regex { context with smscId := smscId } rules evaluated overBudget =
      evaluateFrom text regex context rules evaluated overBudget := by
  induction rules generalizing evaluated overBudget with
  | nil => rfl
  | cons rule rules ih =>
    have hrest := ih fun r hr => h r (List.mem_cons_of_mem rule hr)
    rw [evaluateFrom, evaluateFrom, matchRule_smscId,
      ruleInScope_smscId (h rule List.mem_cons_self)]
    simp only [hrest]

/-- **The preview tells the truth.**  Its verdict is the one a send reaches, its first match is the
one that decides and every later one is shadowed.  And a set with no rule for one carrier reaches
the same verdict whatever the carrier, so that it can be judged before the carrier is chosen. -/
theorem preview_tells_the_truth (text : TextEngine) (regex : RegexEngine)
    (rules : List CompiledContentRule) (context : ContentFilterContext) :
    SameVerdict (explainContent text regex context rules).verdict
        (evaluateContent text regex rules context) ∧
      FirstDecides (explainContent text regex context rules).verdict.decidedBy
        (explainContent text regex context rules).matched ∧
      ((∀ rule ∈ rules, Text.truthy rule.smscId = none) → ∀ smscId smscId' : Option String,
        evaluateContent text regex rules { context with smscId := smscId } =
          evaluateContent text regex rules { context with smscId := smscId' }) := by
  obtain ⟨hverdict, hlisted⟩ := @Judged.foldl text regex context _ _ Judged.start rules []
  refine ⟨hverdict, hlisted, fun hscoped smscId smscId' => ?_⟩
  rw [evaluateContent, evaluateContent, evaluateFrom_smscId hscoped context smscId,
    evaluateFrom_smscId hscoped context smscId']

end Jkannel.Messaging
