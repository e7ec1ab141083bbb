import Jkannel.Text

/-!
# What a routing rule does to a message

Beyond choosing a bind, a matched rule may drop the message, or write its own sender, recipient or
body over the message's.  The result carries what was there before as well, because an override is
invisible afterwards unless something records it.

* `applyRouteRule` is the rule applied; it never changes the message it is given.
* `RouteRuleEffect.rewrite` is what comes out when the rule does not drop, field by field: an
  override wins wherever it is not blank.
-/

namespace Jkannel.Routing

inductive RouteAction where
  | route | drop
  deriving DecidableEq

/-- What a rule does once it has matched. -/
structure RouteRuleEffect where
  action : RouteAction
  overrideSender : Option String
  overrideRecipient : Option String
  overrideText : Option String
  dropReason : Option String

/-- The effect of no rule at all. -/
def RouteRuleEffect.none : RouteRuleEffect :=
  ⟨.route, Option.none, Option.none, Option.none, Option.none⟩

/-- What leaves. -/
structure OutboundMessage where
  sender : Option String
  recipient : String
  text : String

/-- One field a rule rewrote: what it was and what it became. -/
structure FieldChange where
  before : Option String
  after : String

/-- Everything a rule rewrote. -/
structure OverrideSet where
  sender : Option FieldChange
  recipient : Option FieldChange
  text : Option FieldChange

/-- What becomes of a message. -/
inductive RouteOutcome where
  | send (message : OutboundMessage) (overrides : OverrideSet) (summary : Option String)
  | drop (reason summary : String)

/-- Trims, and treats blank or absent as no override. -/
def clean (value : Option String) : Option String :=
  Text.truthy (value.map Text.trim)

/-- The change an override makes to a field that holds `current`; none when it changes nothing.
`shown` is what the record says was there. -/
def changeOf (override current shown : Option String) : Option FieldChange :=
  (clean override).bind fun value => if some value = current then none else some ⟨shown, value⟩

/-- The change set in words, or none when nothing changed. -/
def describeOverrides (overrides : OverrideSet) (ruleName : String) : Option String :=
  let parts :=
    (overrides.sender.map fun c => "sender " ++ c.before.getD "(none)" ++ " → " ++ c.after).toList ++
      (overrides.recipient.map fun c =>
        "recipient " ++ c.before.getD "null" ++ " → " ++ c.after).toList ++
      (overrides.text.map fun c => "body replaced (was " ++ c.before.getD "null" ++ ")").toList
  if parts = [] then none else some (ruleName ++ " rewrote " ++ ", ".intercalate parts ++ ".")

/-- What a rule that does not drop changes.  Of a replaced body only the length is recorded. -/
def overridesOf (message : OutboundMessage) (rule : RouteRuleEffect) : OverrideSet where
  sender := changeOf rule.overrideSender message.sender message.sender
  recipient := changeOf rule.overrideRecipient (some message.recipient) (some message.recipient)
  text := changeOf rule.overrideText (some message.text)
    (some (toString (Text.jsLength message.text) ++ " characters"))

/-- Apply a rule's action and overrides to a message. -/
def applyRouteRule (message : OutboundMessage) (rule : RouteRuleEffect) (ruleName : String) :
    RouteOutcome :=
  match rule.action with
  | .drop =>
    let reason := Text.trim (rule.dropReason.getD "")
    .drop (if reason = "" then "No reason recorded on the rule." else reason)
      ("Dropped by " ++ ruleName ++ ": " ++
        (if reason = "" then "no reason recorded on the rule" else reason) ++ ".")
  | .route =>
    let overrides := overridesOf message rule
    .send
      { sender := (overrides.sender.map FieldChange.after).or message.sender
        recipient := (overrides.recipient.map FieldChange.after).getD message.recipient
        text := (overrides.text.map FieldChange.after).getD message.text }
      overrides (describeOverrides overrides ruleName)

/-! ## What comes out -/

/-- The message a rule that does not drop leaves: an override wins wherever it is not blank. -/
def RouteRuleEffect.rewrite (rule : RouteRuleEffect) (message : OutboundMessage) :
    OutboundMessage where
  sender := (clean rule.overrideSender).or message.sender
  recipient := (clean rule.overrideRecipient).getD message.recipient
  text := (clean rule.overrideText).getD message.text

/-- The rule writes over none of the three fields. -/
def RouteRuleEffect.NoOverride (rule : RouteRuleEffect) : Prop :=
  clean rule.overrideSender = Option.none ∧ clean rule.overrideRecipient = Option.none ∧
    clean rule.overrideText = Option.none

/-- An override that would write what is there already is no change, and none is needed. -/
theorem changeOf_after (override current shown : Option String) :
    ((changeOf override current shown).map FieldChange.after).or current =
      (clean override).or current := by
  rw [changeOf]
  cases clean override with
  | none => rfl
  | some value =>
    rw [Option.bind_some]
    by_cases h : some value = current
    · rw [if_pos h, h]; cases current <;> rfl
    · rw [if_neg h]; rfl

theorem changeOf_after_getD (override shown : Option String) (current : String) :
    ((changeOf override (some current) shown).map FieldChange.after).getD current =
      (clean override).getD current := by
  have h := changeOf_after override (some current) shown
  rw [Option.or_some, Option.or_some] at h
  exact Option.some.inj h

variable {rule : RouteRuleEffect}

/-- A rule that does not drop rewrites the message. -/
theorem applyRouteRule_route (message : OutboundMessage) (ruleName : String)
    (h : rule.action = .route) :
    applyRouteRule message rule ruleName =
      .send (rule.rewrite message) (overridesOf message rule)
        (describeOverrides (overridesOf message rule) ruleName) := by
  rw [applyRouteRule, h]
  simp only [overridesOf, changeOf_after, changeOf_after_getD]
  rfl

/-- What is sent on is the rewritten message, under a rule that does not drop. -/
theorem applyRouteRule_send {message out : OutboundMessage} {ruleName : String}
    {overrides : OverrideSet} {summary : Option String}
    (h : applyRouteRule message rule ruleName = .send out overrides summary) :
    rule.action = .route ∧ out = rule.rewrite message := by
  cases haction : rule.action with
  | drop => rw [applyRouteRule, haction] at h; cases h
  | route =>
    rw [applyRouteRule_route message ruleName haction] at h
    exact ⟨rfl, (RouteOutcome.send.inj h).1.symm⟩

theorem RouteRuleEffect.NoOverride.rewrite (h : rule.NoOverride) (message : OutboundMessage) :
    rule.rewrite message = message := by
  rw [RouteRuleEffect.rewrite, h.1, h.2.1, h.2.2]
  rfl

end Jkannel.Routing
