import Mathlib.Data.List.Find
import Mathlib.Data.List.Sort
import Jkannel.Text

/-!
# Content filtering

The tenant's rules on the body, the sender and the recipient of a message, some of them for one
carrier or one customer only.  The rules are in one total order and the first that matches decides;
a message no rule matches is allowed.

* `matchRule` tests one rule, `evaluateContent` the whole set.
* `compileRule` prepares a stored row once; a pattern that cannot be compiled never matches.
* `CompiledRuleSet` is what is cached.  It knows whether any of its rules is for one carrier,
  because such a rule cannot be judged before the carrier is chosen.
* `evaluateContent_decided` says that the verdict is the action of the first rule that is in scope
  and matches, and `evaluateContent_smscId` that without a rule for one carrier the carrier does not
  matter.

Regular expressions are the language's: `RegexEngine` holds what the send path asks of them.
-/

namespace Jkannel.Messaging

inductive ContentMatchField where
  | body | sender | recipient | any
  deriving DecidableEq

def ContentMatchField.text : ContentMatchField → String
  | .body => "body"
  | .sender => "sender"
  | .recipient => "recipient"
  | .any => "any"

inductive ContentMatchType where
  | substring | exact | prefixed | regex
  deriving DecidableEq

def ContentMatchType.text : ContentMatchType → String
  | .substring => "substring"
  | .exact => "exact"
  | .prefixed => "prefix"
  | .regex => "regex"

inductive ContentRuleAction where
  | block | allow
  deriving DecidableEq

/-- Ceiling on the enabled rules of a tenant. -/
def MAX_RULES_PER_TENANT : Nat := 500

/-- A rule as it is stored. -/
structure ContentRuleRow where
  id : String
  name : String
  matchField : ContentMatchField
  matchType : ContentMatchType
  pattern : String
  caseSensitive : Bool
  action : ContentRuleAction
  /-- The one carrier the rule is for, or none for all of them. -/
  smscId : Option String
  /-- The one customer the rule is for, or none for all of them. -/
  customerId : Option String
  enabled : Bool
  priority : Int
  expiresAt : Option Int
  reason : Option String
  matchCount : Nat
  lastMatchedAt : Option Int
  quarantinedAt : Option Int
  quarantineReason : Option String
  createdAt : Int
  deriving DecidableEq

/-- A compiled regular expression. -/
structure RegExp where
  source : String
  ignoreCase : Bool

/-- What the send path asks of regular expressions. -/
structure RegexEngine where
  /-- Why a pattern is refused by the safety analysis, or none. -/
  checkRegexPattern : String → Option String
  /-- The outcome of a test, none when it throws, and the milliseconds it took. -/
  test : RegExp → String → Option Bool × Nat
  /-- `CONTENT_FILTER_REGEX_MAX_INPUT`. -/
  maxRegexInputLength : Nat
  /-- `CONTENT_FILTER_REGEX_BUDGET_MS`. -/
  regexBudgetMs : Nat

/-- Expressions that are all accepted and match nothing. -/
def RegexEngine.never : RegexEngine where
  checkRegexPattern _ := none
  test _ _ := (some false, 0)
  maxRegexInputLength := 2048
  regexBudgetMs := 50

/-- A rule prepared for evaluation. -/
structure CompiledContentRule where
  id : String
  name : String
  field : ContentMatchField
  matchType : ContentMatchType
  pattern : String
  /-- The pattern with its case folded, for the literal types. -/
  needle : Option String
  caseSensitive : Bool
  action : ContentRuleAction
  smscId : Option String
  customerId : Option String
  priority : Int
  reason : Option String
  createdAtMs : Int
  regex : Option RegExp
  /-- Set when the pattern could not be compiled; such a rule never matches. -/
  compileError : Option String

/-- The message being judged. -/
structure ContentFilterContext where
  sender : String
  /-- The canonical digits of the destination. -/
  recipient : String
  body : String
  /-- The bind, once it is known. -/
  smscId : Option String
  customerId : Option String

/-- The rule that decided. -/
structure ContentRuleMatch where
  ruleId : String
  ruleName : String
  action : ContentRuleAction
  field : ContentMatchField
  matchType : ContentMatchType
  pattern : String
  priority : Int
  /-- Which of the three actually matched. -/
  matchedOn : ContentMatchField
  reason : Option String

/-- What the filter says of a message. -/
structure ContentFilterVerdict where
  allowed : Bool
  decidedBy : Option ContentRuleMatch
  reason : String
  /-- How many rules were in scope and tested. -/
  rulesEvaluated : Nat
  /-- The rules whose expression took longer than its budget. -/
  overBudgetRuleIds : List String

/-! ## Rules -/

/-- Priority, then age, then id. -/
def compareRules (a b : CompiledContentRule) : Ordering :=
  (compare a.priority b.priority).then <|
    (compare a.createdAtMs b.createdAtMs).then (Text.compareText a.id b.id)

/-- Prepare a stored row for evaluation. -/
def compileRule (text : TextEngine) (regex : RegexEngine) (row : ContentRuleRow) :
    CompiledContentRule :=
  let base : CompiledContentRule :=
    { id := row.id, name := row.name, field := row.matchField, matchType := row.matchType
      pattern := row.pattern, needle := none, caseSensitive := row.caseSensitive
      action := row.action, smscId := row.smscId, customerId := row.customerId
      priority := row.priority, reason := row.reason, createdAtMs := row.createdAt
      regex := none, compileError := none }
  if row.matchType = .regex then
    match regex.checkRegexPattern row.pattern with
    | some error => { base with compileError := some error }
    | none => { base with regex := some ⟨row.pattern, !row.caseSensitive⟩ }
  else
    { base with
      needle := some (if row.caseSensitive then row.pattern else text.toLowerCase row.pattern) }

/-- What a rule looks at, in a fixed order. -/
def subjectsFor (field : ContentMatchField) (context : ContentFilterContext) :
    List (ContentMatchField × String) :=
  match field with
  | .body => [(.body, context.body)]
  | .sender => [(.sender, context.sender)]
  | .recipient => [(.recipient, context.recipient)]
  | .any => [(.body, context.body), (.sender, context.sender), (.recipient, context.recipient)]

/-- Whether a rule is in scope for a message.  A rule for one carrier is not while the carrier is
unknown. -/
def ruleInScope (rule : CompiledContentRule) (context : ContentFilterContext) : Bool :=
  ((Text.truthy rule.customerId).all fun id => decide (some id = context.customerId)) &&
    (Text.truthy rule.smscId).all fun id => decide (some id = context.smscId)

/-- `includes`, on characters. -/
def includes (haystack needle : List Char) : Bool := haystack.tails.any (needle.isPrefixOf ·)

/-- The rule types without a pattern. -/
def literalMatch (text : TextEngine) (rule : CompiledContentRule) (subject : String) : Bool :=
  let needle := (rule.needle.getD "").toList
  let haystack := (if rule.caseSensitive then subject else text.toLowerCase subject).toList
  if needle = [] then false
  else match rule.matchType with
    | .exact => haystack == needle
    | .prefixed => needle.isPrefixOf haystack
    | _ => includes haystack needle

/-- Test an expression against a bounded subject.  The second component says that it took longer
than its budget, or threw. -/
def runBoundedRegex (regex : RegexEngine) (expression : RegExp) (subject : String) : Bool × Bool :=
  let outcome := regex.test expression (Text.clip regex.maxRegexInputLength subject)
  match outcome.1 with
  | none => (false, true)
  | some matched => (matched, decide (regex.regexBudgetMs < outcome.2))

/-- Whether a rule matches one subject, and whether its expression went over budget there. -/
def matchSubject (text : TextEngine) (regex : RegexEngine) (rule : CompiledContentRule)
    (subject : String) : Bool × Bool :=
  if rule.matchType = .regex then
    match rule.regex with
    | some expression => runBoundedRegex regex expression subject
    | none => (false, false)
  else (literalMatch text rule subject, false)

/-- The first subject a rule matches, and whether it went over budget up to there. -/
def matchSubjects (text : TextEngine) (regex : RegexEngine) (rule : CompiledContentRule) :
    List (ContentMatchField × String) → Option ContentMatchField × Bool
  | [] => (none, false)
  | (name, value) :: subjects =>
    let (matched, overBudget) := matchSubject text regex rule value
    if matched then (some name, overBudget)
    else
      let rest := matchSubjects text regex rule subjects
      (rest.1, overBudget || rest.2)

/-- Test one rule: the match, if there is one, and whether its expression went over budget. -/
def matchRule (text : TextEngine) (regex : RegexEngine) (rule : CompiledContentRule)
    (context : ContentFilterContext) : Option ContentRuleMatch × Bool :=
  if rule.compileError.isSome then (none, false)
  else
    let found := matchSubjects text regex rule (subjectsFor rule.field context)
    (found.1.map fun matchedOn =>
        { ruleId := rule.id, ruleName := rule.name, action := rule.action, field := rule.field
          matchType := rule.matchType, pattern := rule.pattern, priority := rule.priority
          matchedOn := matchedOn, reason := rule.reason },
      found.2)

/-- The sentence an operator reads. -/
def describeMatch (found : ContentRuleMatch) : String :=
  let scope :=
    if found.field = .any then found.matchedOn.text ++ " (field: any)" else found.field.text
  let head := "content rule \"" ++ found.ruleName ++ "\" (" ++ found.ruleId ++ ", priority " ++
    toString found.priority ++ ") " ++
    (if found.action = .block then "blocked" else "allowed") ++ " this message: " ++
    found.matchType.text ++ " match on " ++ scope ++ " against " ++ Text.jsonString found.pattern
  match Text.truthy found.reason with
  | some reason => head ++ " — " ++ reason
  | none => head

/-- Evaluation over the sorted rules, from `evaluated` rules tested and `overBudget` found over budget. -/
def evaluateFrom (text : TextEngine) (regex : RegexEngine) (context : ContentFilterContext) :
    List CompiledContentRule → Nat → List String → ContentFilterVerdict
  | [], evaluated, overBudget =>
    { allowed := true
      decidedBy := none
      reason := if evaluated = 0 then "no content rule is in scope"
        else "no content rule matched (" ++ toString evaluated ++ " in scope)"
      rulesEvaluated := evaluated
      overBudgetRuleIds := overBudget }
  | rule :: rules, evaluated, overBudget =>
    if !ruleInScope rule context then evaluateFrom text regex context rules evaluated overBudget
    else
      let outcome := matchRule text regex rule context
      let overBudget :=
        if outcome.2 && !overBudget.contains rule.id then overBudget ++ [rule.id] else overBudget
      match outcome.1 with
      | none => evaluateFrom text regex context rules (evaluated + 1) overBudget
      | some found =>
        { allowed := decide (found.action = .allow)
          decidedBy := some found
          reason := describeMatch found
          rulesEvaluated := evaluated + 1
          overBudgetRuleIds := overBudget }

/-- Evaluate a sorted rule set.  The first match wins. -/
def evaluateContent (text : TextEngine) (regex : RegexEngine) (rules : List CompiledContentRule)
    (context : ContentFilterContext) : ContentFilterVerdict :=
  evaluateFrom text regex context rules 0 []

/-! ## The rule set of a tenant -/

/-- The rules of a tenant in the order they are evaluated in, with whether any of them is for one
carrier. -/
structure CompiledRuleSet where
  rules : List CompiledContentRule
  hasSmscScopedRules : Bool
  loadedAtMs : Int
  hasSmscScopedRules_eq : hasSmscScopedRules = rules.any fun rule => rule.smscId.isSome

/-- The rows that are enabled and have not lapsed, in the order of the query. -/
def enabledRules (table : List ContentRuleRow) (now : Int) : List ContentRuleRow :=
  ((table.filter fun row => row.enabled && row.expiresAt.all fun t => decide (now < t)).insertionSort
    fun a b => (compare a.priority b.priority).then
      ((compare a.createdAt b.createdAt).then (Text.compareText a.id b.id)) ≠ .gt).take
    MAX_RULES_PER_TENANT

/-- The rules in force, compiled in order. -/
def compileRuleSet (text : TextEngine) (regex : RegexEngine) (table : List ContentRuleRow)
    (now : Int) : CompiledRuleSet :=
  let rules := ((enabledRules table now).map (compileRule text regex)).insertionSort
    (compareRules · · ≠ .gt)
  ⟨rules, rules.any fun rule => rule.smscId.isSome, now, rfl⟩

/-- The cached rule set, as long as it is fresh. -/
def freshRules (cached : Option CompiledRuleSet) (cacheTtlMs now : Int) : Option CompiledRuleSet :=
  cached.filter fun set => decide (now - set.loadedAtMs < cacheTtlMs)

/-- The rules whose expression went over budget are disabled. -/
def quarantine (table : List ContentRuleRow) (ruleIds : List String) (now : Int) :
    List ContentRuleRow :=
  table.map fun row =>
    if row.enabled && ruleIds.contains row.id then
      { row with
        enabled := false
        quarantinedAt := some now
        quarantineReason := some
          ("Regex execution exceeded the send-path budget. The rule was disabled automatically to " ++
            "protect the sender; review the pattern and re-enable it.") }
    else row

/-- A rule that blocked is counted. -/
def recordHit (table : List ContentRuleRow) (ruleId : String) (now : Int) : List ContentRuleRow :=
  table.map fun row =>
    if row.id = ruleId then
      { row with matchCount := row.matchCount + 1, lastMatchedAt := some now }
    else row

/-- The bookkeeping after an evaluation, outside the transaction of the send. -/
def settle (table : List ContentRuleRow) (verdict : ContentFilterVerdict) (now : Int) :
    List ContentRuleRow :=
  let table := if verdict.overBudgetRuleIds = [] then table
    else quarantine table verdict.overBudgetRuleIds now
  match verdict.decidedBy with
  | some decided => if decided.action = .block then recordHit table decided.ruleId now else table
  | none => table

/-! ## First match wins -/

variable {text : TextEngine} {regex : RegexEngine} {rule : CompiledContentRule}

/-- A rule applies to a message: it is in scope and matches. -/
def Applies (text : TextEngine) (regex : RegexEngine) (context : ContentFilterContext)
    (rule : CompiledContentRule) : Bool :=
  ruleInScope rule context && (matchRule text regex rule context).1.isSome

theorem matchRule_action {context : ContentFilterContext}
    {found : ContentRuleMatch} (h : (matchRule text regex rule context).1 = some found) :
    found.action = rule.action := by
  rw [matchRule] at h
  split at h
  · cases h
  · obtain ⟨matchedOn, -, rfl⟩ := Option.map_eq_some_iff.mp h
    rfl

theorem evaluateFrom_allowed (context : ContentFilterContext) (rules : List CompiledContentRule)
    (evaluated : Nat) (overBudget : List String) :
    (evaluateFrom text regex context rules evaluated overBudget).allowed =
      (rules.find? (Applies text regex context)).all fun rule => decide (rule.action = .allow) := by
  induction rules generalizing evaluated overBudget with
  | nil => rfl
  | cons rule rules ih =>
    rw [evaluateFrom]
    by_cases hscope : ruleInScope rule context = true
    · cases hmatch : (matchRule text regex rule context).1 with
      | none =>
        have hno : ¬ Applies text regex context rule = true := by simp [Applies, hmatch]
        rw [List.find?_cons_of_neg hno]
        simp only [hscope, Bool.not_true, Bool.false_eq_true, if_false, hmatch]
        exact ih _ _
      | some found =>
        have hyes : Applies text regex context rule = true := by simp [Applies, hscope, hmatch]
        rw [List.find?_cons_of_pos hyes, Option.all_some, ← matchRule_action hmatch]
        simp only [hscope, Bool.not_true, Bool.false_eq_true, if_false, hmatch]
    · have hno : ¬ Applies text regex context rule = true := by simp [Applies, hscope]
      rw [List.find?_cons_of_neg hno, if_pos (by simpa using hscope)]
      exact ih _ _

/-- **The first rule that is in scope and matches decides**, and without one the message is
allowed. -/
theorem evaluateContent_decided (rules : List CompiledContentRule)
    (context : ContentFilterContext) :
    (evaluateContent text regex rules context).allowed =
      (rules.find? (Applies text regex context)).all fun rule => decide (rule.action = .allow) :=
  evaluateFrom_allowed context rules 0 []

/-- The subjects of a rule do not depend on the bind. -/
theorem matchRule_smscId (rule : CompiledContentRule) (context : ContentFilterContext)
    (smscId : Option String) :
    matchRule text regex rule { context with smscId := smscId } =
      matchRule text regex rule context := by
  have hsubjects : subjectsFor rule.field { context with smscId := smscId } =
      subjectsFor rule.field context := by
    cases rule.field <;> rfl
  rw [matchRule, matchRule, hsubjects]

theorem applies_smscId (h : rule.smscId = none)
    (context : ContentFilterContext) (smscId : Option String) :
    Applies text regex { context with smscId := smscId } rule =
      Applies text regex context rule := by
  rw [Applies, Applies, matchRule_smscId, ruleInScope, ruleInScope, h]
  rfl

/-- **Without a rule for one carrier, the carrier does not matter**, so the verdict that is reached
before the bind is chosen is the verdict on every bind. -/
theorem evaluateContent_smscId {set : CompiledRuleSet} (h : set.hasSmscScopedRules = false)
    (context : ContentFilterContext) (smscId : Option String) :
    (evaluateContent text regex set.rules { context with smscId := smscId }).allowed =
      (evaluateContent text regex set.rules context).allowed := by
  have hnone : ∀ rule ∈ set.rules, rule.smscId = none := by
    intro rule hrule
    have hscoped := set.hasSmscScopedRules_eq ▸ h
    rw [List.any_eq_false] at hscoped
    simpa using hscoped rule hrule
  rw [evaluateContent_decided, evaluateContent_decided,
    List.find?_congr fun rule hrule => applies_smscId (hnone rule hrule) context smscId]

end Jkannel.Messaging
