import Jkannel.Routing.Msisdn
import Jkannel.Messaging.ContentFilter

/-!
# Routing inbound messages

Which rules an inbound message matches, and so where copies of it go.  A rule's criteria are all
optional and all have to hold; the rules are tried in a fixed order, and the first one that matches
ends the search unless it says to go on.

* `matchMoRule` tests one rule, `matchMoRules` a sorted rule set.
* `loadInClient` is the rule set as the tables hold it: enabled rules with their enabled
  destinations, in evaluation order.
* `fanOutTargets` is the fan-out of one message: every destination of every rule it matches.
* `fanOutTargets_nodup` says that no pair of a rule and a destination comes up twice in it, which
  rests on the tables' primary keys alone.
-/

namespace Jkannel.Messaging.Mo

open List
open Routing (normalizeMsisdn digitsOnly)
open Text (trim truthy)

inductive MoDestinationMatchType where
  | any | exact | prefixed

def MoDestinationMatchType.text : MoDestinationMatchType → String
  | .any => "any"
  | .exact => "exact"
  | .prefixed => "prefix"

inductive MoKeywordMatchType where
  | any | firstWord | substring | exact
  deriving DecidableEq

def MoKeywordMatchType.text : MoKeywordMatchType → String
  | .any => "any"
  | .firstWord => "first_word"
  | .substring => "substring"
  | .exact => "exact"

inductive MoDeliveryKind where
  | webhook | email | sms
  deriving DecidableEq

def MoDeliveryKind.text : MoDeliveryKind → String
  | .webhook => "webhook"
  | .email => "email"
  | .sms => "sms"

/-- How many rules are loaded at most. -/
def MAX_MO_RULES_PER_TENANT : Nat := 200

/-- A row of `mo_routing_rules`.  Instants are microseconds. -/
structure MoRuleRow where
  id : String
  name : String
  enabled : Bool := true
  priority : Int
  matchSmscId : Option String := none
  matchDestination : Option String := none
  matchDestinationType : MoDestinationMatchType := .any
  matchSenderPrefix : Option String := none
  matchKeyword : Option String := none
  matchKeywordType : MoKeywordMatchType := .any
  caseSensitive : Bool := false
  continueAfterMatch : Bool := false
  createdAt : Nat

/-- A row of `mo_rule_destinations`. -/
structure MoDestinationRow where
  id : String
  ruleId : String
  kind : MoDeliveryKind
  target : String
  enabled : Bool := true
  /-- JSON. -/
  config : Option String := none
  maxAttempts : Nat
  createdAt : Nat

/-- A destination as a rule carries it. -/
structure Destination where
  id : String
  kind : MoDeliveryKind
  target : String
  config : String
  maxAttempts : Nat

/-- A rule with its destinations, ready to match. -/
structure CompiledMoRule where
  id : String
  name : String
  priority : Int
  smscId : Option String
  destination : Option String
  destinationType : MoDestinationMatchType
  senderPrefix : Option String
  keyword : Option String
  keywordType : MoKeywordMatchType
  caseSensitive : Bool
  continueAfterMatch : Bool
  createdAtMs : Nat
  destinations : List Destination

/-- An inbound message as the rules see it. -/
structure MoMessageContext where
  smscId : Option String
  sender : String
  receiver : String
  body : String

/-- A rule that matched. -/
structure MoMatch where
  ruleId : String
  ruleName : String
  priority : Int
  /-- The criteria that constrained the match. -/
  matchedOn : List String
  destinationCount : Nat
  continueAfterMatch : Bool

/-- The rules that matched, in order. -/
structure MoMatchResult where
  matched : List MoMatch
  rulesEvaluated : Nat
  /-- A rule ended the search with rules still unread. -/
  stoppedEarly : Bool

/-! ## Matching -/

section Matching

variable (text : TextEngine) (countryCode : Option String) {rules : List CompiledMoRule}
  {rule : CompiledMoRule}

/-- The form an address is compared in: canonical digits when it is a number, else whatever digits
it has, which is a short code, else its letters in lower case. -/
def canonicalAddress (value : Option String) : String :=
  let trimmed := trim (value.getD "")
  if trimmed = "" then ""
  else match truthy (normalizeMsisdn countryCode trimmed).digits with
    | some digits => digits
    | none => (truthy (some (digitsOnly (some trimmed)))).getD (text.toLowerCase trimmed)

/-- The first word of a body. -/
def firstWord (body : String) : String :=
  String.ofList ((Text.trimChars body.toList).takeWhile fun c => !Text.isSpace c)

/-- Prepare a stored rule. -/
def compileMoRule (row : MoRuleRow) (destinations : List MoDestinationRow) : CompiledMoRule where
  id := row.id
  name := row.name
  priority := row.priority
  smscId := row.matchSmscId
  destination := (truthy row.matchDestination).map fun d =>
    canonicalAddress text countryCode (some d)
  destinationType := row.matchDestinationType
  senderPrefix := (truthy row.matchSenderPrefix).map fun p => digitsOnly (some p)
  keyword := row.matchKeyword
  keywordType := row.matchKeywordType
  caseSensitive := row.caseSensitive
  continueAfterMatch := row.continueAfterMatch
  createdAtMs := row.createdAt / 1000
  destinations := (destinations.filter fun d => decide (d.ruleId = row.id) && d.enabled).map
    fun d => ⟨d.id, d.kind, d.target, d.config.getD "\x7b\x7d", d.maxAttempts⟩

/-- The text meets the rule's keyword. -/
def keywordMatches (rule : CompiledMoRule) (body : String) : Bool :=
  if rule.keywordType = .any then true
  else match truthy rule.keyword with
    | none => true
    | some keyword =>
      let fold := fun value : String => if rule.caseSensitive then value else text.toLowerCase value
      let needle := fold (trim keyword)
      if needle = "" then true
      else match rule.keywordType with
        | .firstWord => decide (fold (firstWord body) = needle)
        | .exact => decide (fold (trim body) = needle)
        | _ => includes (fold body).toList needle.toList

/-- A criterion of a rule: not set, or set and either failed or met under a label. -/
inductive Criterion where
  | unset | failed
  | met (label : String)
  deriving DecidableEq

/-- What the rule asks of the bind. -/
def smscCriterion (rule : CompiledMoRule) (context : MoMessageContext) : Criterion :=
  match truthy rule.smscId with
  | none => .unset
  | some id => if some id = context.smscId then .met ("smsc=" ++ id) else .failed

/-- What it asks of the destination. -/
def destinationCriterion (rule : CompiledMoRule) (context : MoMessageContext) : Criterion :=
  match truthy rule.destination with
  | none => .unset
  | some destination =>
    let receiver := canonicalAddress text countryCode (some context.receiver)
    let label := "destination " ++ rule.destinationType.text ++ " " ++ destination
    match rule.destinationType with
    | .any => .unset
    | .exact => if receiver = destination then .met label else .failed
    | .prefixed =>
      if destination.toList.isPrefixOf receiver.toList then .met label else .failed

/-- What it asks of the sender. -/
def senderCriterion (rule : CompiledMoRule) (context : MoMessageContext) : Criterion :=
  match truthy rule.senderPrefix with
  | none => .unset
  | some digits =>
    let sender := canonicalAddress text countryCode (some context.sender)
    if digits.toList.isPrefixOf sender.toList then .met ("sender prefix " ++ digits) else .failed

/-- What it asks of the text. -/
def keywordCriterion (rule : CompiledMoRule) (context : MoMessageContext) : Criterion :=
  match truthy rule.keyword with
  | none => .unset
  | some keyword =>
    if rule.keywordType = .any then .unset
    else if keywordMatches text rule context.body then
      .met ("keyword " ++ rule.keywordType.text ++ " " ++ Text.jsonString keyword)
    else .failed

/-- The criteria of a rule, in the order they are tried. -/
def criteria (rule : CompiledMoRule) (context : MoMessageContext) : List Criterion :=
  [smscCriterion rule context, destinationCriterion text countryCode rule context,
    senderCriterion text countryCode rule context, keywordCriterion text rule context]

/-- Test one rule. -/
def matchMoRule (rule : CompiledMoRule) (context : MoMessageContext) : Option MoMatch :=
  let tried := criteria text countryCode rule context
  if tried.contains .failed then none
  else
    let matchedOn := tried.filterMap fun | .met label => some label | _ => none
    some {
      ruleId := rule.id
      ruleName := rule.name
      priority := rule.priority
      matchedOn := if matchedOn = [] then ["catch-all (no criteria)"] else matchedOn
      destinationCount := rule.destinations.length
      continueAfterMatch := rule.continueAfterMatch }

/-- The loop of `matchMoRules`, which has found `found` and read `evaluated` rules. -/
def matchFrom (context : MoMessageContext) :
    List CompiledMoRule → List MoMatch → Nat → MoMatchResult
  | [], found, evaluated => ⟨found, evaluated, false⟩
  | rule :: rules, found, evaluated =>
    match matchMoRule text countryCode rule context with
    | none => matchFrom context rules found (evaluated + 1)
    | some m =>
      if m.continueAfterMatch then matchFrom context rules (found ++ [m]) (evaluated + 1)
      else ⟨found ++ [m], evaluated + 1, !rules.isEmpty⟩

/-- Match a message against a sorted rule set. -/
def matchMoRules (rules : List CompiledMoRule) (context : MoMessageContext) : MoMatchResult :=
  matchFrom text countryCode context rules [] 0

/-! ## The rule set -/

/-- Priority, then age, then id. -/
def compareMoRules (a b : CompiledMoRule) : Ordering :=
  (compare a.priority b.priority).then <|
    (compare a.createdAtMs b.createdAtMs).then (Text.compareText a.id b.id)

/-- `ORDER BY priority ASC, created_at ASC, id ASC`. -/
def compareRuleRows (a b : MoRuleRow) : Ordering :=
  (compare a.priority b.priority).then <|
    (compare a.createdAt b.createdAt).then (Text.compareText a.id b.id)

/-- The rule tables, with their primary keys. -/
structure RuleTables where
  rules : List MoRuleRow
  destinations : List MoDestinationRow
  ruleIds : (rules.map MoRuleRow.id).Nodup
  destinationIds : (destinations.map MoDestinationRow.id).Nodup

/-- The enabled rules that are loaded. -/
def enabledMoRules (tables : RuleTables) : List MoRuleRow :=
  ((tables.rules.filter MoRuleRow.enabled).insertionSort
    fun a b => compareRuleRows a b ≠ .gt).take MAX_MO_RULES_PER_TENANT

/-- The destinations of the loaded rules, the oldest first. -/
def enabledMoDestinations (tables : RuleTables) : List MoDestinationRow :=
  (tables.destinations.filter fun d =>
    d.enabled && (enabledMoRules tables).any fun r => decide (r.id = d.ruleId)).insertionSort
      fun a b => a.createdAt ≤ b.createdAt

/-- The rule set in evaluation order. -/
def loadInClient (tables : RuleTables) : List CompiledMoRule :=
  ((enabledMoRules tables).map fun row =>
    compileMoRule text countryCode row (enabledMoDestinations tables)).insertionSort
      fun a b => compareMoRules a b ≠ .gt

/-- The fan-out of a message: the matching rules with their destinations, in order. -/
def fanOutTargets (rules : List CompiledMoRule) (matched : List MoMatch) :
    List (CompiledMoRule × Destination) :=
  matched.flatMap fun m =>
    match rules.find? fun rule => decide (rule.id = m.ruleId) with
    | none => []
    | some rule => rule.destinations.map fun destination => (rule, destination)

/-! ## No destination twice -/

theorem matchMoRule_ruleId {context : MoMessageContext} {m : MoMatch}
    (h : matchMoRule text countryCode rule context = some m) : m.ruleId = rule.id := by
  rw [matchMoRule] at h
  split at h
  · cases h
  · cases h
    rfl

/-- The rules a search finds are among those it reads, in their order. -/
theorem matchFrom_ruleIds (context : MoMessageContext) (rules : List CompiledMoRule)
    (found : List MoMatch) (evaluated : Nat) :
    ∃ ids, ids.Sublist (rules.map CompiledMoRule.id) ∧
      (matchFrom text countryCode context rules found evaluated).matched.map MoMatch.ruleId =
        found.map MoMatch.ruleId ++ ids := by
  induction rules generalizing found evaluated with
  | nil => exact ⟨[], List.Sublist.refl _, by rw [matchFrom, append_nil]⟩
  | cons rule rules ih =>
    rw [matchFrom]
    split
    · obtain ⟨ids, hsub, heq⟩ := ih found (evaluated + 1)
      exact ⟨ids, hsub.cons _, heq⟩
    · rename_i m hm
      have hid : m.ruleId = rule.id := matchMoRule_ruleId text countryCode hm
      split
      · obtain ⟨ids, hsub, heq⟩ := ih (found ++ [m]) (evaluated + 1)
        refine ⟨rule.id :: ids, hsub.cons_cons _, ?_⟩
        rw [heq, map_append, append_assoc, map_singleton, hid]
        rfl
      · refine ⟨[rule.id], (nil_sublist _).cons_cons _, ?_⟩
        rw [map_append, map_singleton, hid]

theorem matchMoRules_nodup (h : (rules.map CompiledMoRule.id).Nodup) (context : MoMessageContext) :
    ((matchMoRules text countryCode rules context).matched.map MoMatch.ruleId).Nodup := by
  obtain ⟨ids, hsub, heq⟩ := matchFrom_ruleIds text countryCode context rules [] 0
  rw [matchMoRules, heq, map_nil, nil_append]
  exact h.sublist hsub

theorem enabledMoRules_nodup (tables : RuleTables) :
    ((enabledMoRules tables).map MoRuleRow.id).Nodup := by
  have hsorted : (((tables.rules.filter MoRuleRow.enabled).insertionSort
      fun a b => compareRuleRows a b ≠ .gt).map MoRuleRow.id).Nodup :=
    ((perm_insertionSort _ _).map _).nodup_iff.mpr
      (tables.ruleIds.sublist (filter_sublist.map _))
  exact hsorted.sublist ((take_sublist _ _).map _)

/-- The loaded rule set has no rule twice. -/
theorem loadInClient_nodup (tables : RuleTables) :
    ((loadInClient text countryCode tables).map CompiledMoRule.id).Nodup := by
  rw [loadInClient, ((perm_insertionSort _ _).map _).nodup_iff, map_map]
  exact enabledMoRules_nodup tables

/-- A loaded rule has no destination twice. -/
theorem loadInClient_destinations (tables : RuleTables)
    (h : rule ∈ loadInClient text countryCode tables) :
    (rule.destinations.map Destination.id).Nodup := by
  rw [loadInClient, mem_insertionSort] at h
  obtain ⟨row, -, rfl⟩ := mem_map.mp h
  have hloaded : ((enabledMoDestinations tables).map MoDestinationRow.id).Nodup := by
    rw [enabledMoDestinations, ((perm_insertionSort _ _).map _).nodup_iff]
    exact tables.destinationIds.sublist (filter_sublist.map _)
  simp only [compileMoRule, map_map]
  exact hloaded.sublist (filter_sublist.map _)

/-- **A fan-out has one target for each rule and destination.** -/
theorem fanOutTargets_nodup {matched : List MoMatch} (hmatched : (matched.map MoMatch.ruleId).Nodup)
    (hdestinations : ∀ rule ∈ rules, (rule.destinations.map Destination.id).Nodup) :
    ((fanOutTargets rules matched).map fun t => (t.1.id, t.2.id)).Nodup := by
  induction matched with
  | nil => exact nodup_nil
  | cons m matched ih =>
    rw [map_cons, nodup_cons] at hmatched
    rw [fanOutTargets, flatMap_cons, map_append, nodup_append]
    refine ⟨?_, ih hmatched.2, ?_⟩
    · split
      · exact nodup_nil
      · rename_i rule hfound
        rw [map_map]
        have hids := hdestinations rule (mem_of_find?_eq_some hfound)
        refine List.Nodup.of_map Prod.snd ?_
        rw [map_map]
        exact hids
    · -- a later target belongs to a later match, whose rule is another
      intro a ha b hb heq
      obtain ⟨t, ht, rfl⟩ := mem_map.mp ha
      obtain ⟨u, hu, rfl⟩ := mem_map.mp hb
      have hruleId : ∀ {m : MoMatch} {t : CompiledMoRule × Destination}, t ∈ (match
          rules.find? fun rule => decide (rule.id = m.ruleId) with
          | none => []
          | some rule => rule.destinations.map fun destination => (rule, destination)) →
          t.1.id = m.ruleId := by
        intro m t ht
        split at ht
        · cases ht
        · rename_i rule hfound
          obtain ⟨d, -, rfl⟩ := mem_map.mp ht
          simpa using find?_some hfound
      obtain ⟨m', hm', hu⟩ := mem_flatMap.mp hu
      refine hmatched.1 (mem_map.mpr ⟨m', hm', ?_⟩)
      rw [← hruleId ht, ← hruleId hu]
      exact (congrArg Prod.fst heq).symm

/-- The fan-out of a message by the rule tables has one target for each rule and destination. -/
theorem fanOutTargets_loaded (tables : RuleTables) (context : MoMessageContext) :
    ((fanOutTargets (loadInClient text countryCode tables)
      (matchMoRules text countryCode (loadInClient text countryCode tables) context).matched).map
        fun t => (t.1.id, t.2.id)).Nodup :=
  fanOutTargets_nodup
    (matchMoRules_nodup text countryCode (loadInClient_nodup text countryCode tables) context)
    fun _ h => loadInClient_destinations text countryCode tables h

end Matching

end Jkannel.Messaging.Mo
