import Jkannel.Messaging.Admission

/-!
# Whose name a message goes out under

Once a customer has any sender registered, the list is closed: a message goes out under an approved
sender or not at all.  The check comes after the rule that rewrites a message, so it is made on the
sender that is sent; but it is only made where there is a sender, and a message without one goes out
under a blank.

`submitted_sender_approved_iff` is the exact condition: the list holds for a message that has a
sender, from its caller or from the rule.
-/

namespace Jkannel.Messaging.Send

open Jkannel.Routing
open Jkannel.Engine
open Transition (Ack)

variable {env : SendEnv} {faults : Faults} {actor : Actor} {req : SendRequest} {digits : String}

/-- The caller names a sender, or the rule of the bind that is chosen does. -/
def NamesSender (env : SendEnv) (req : SendRequest) (tables : RoutingTables) (digits : String)
    (rotation : Nat) : Prop :=
  req.sender.getD "" ≠ "" ∨ ∃ chosen, chooseBind env req tables digits rotation = .ok chosen ∧
    clean (chosen.effect.getD .none).overrideSender ≠ none

/-- The rewritten message has a sender exactly when the request or the rule has one. -/
theorem rewrite_sender (rule : RouteRuleEffect) :
    ∃ sender, (rule.rewrite (originalMessage req digits)).sender = some sender ∧
      (sender ≠ "" ↔ req.sender.getD "" ≠ "" ∨ clean rule.overrideSender ≠ none) := by
  rw [RouteRuleEffect.rewrite, originalMessage]
  cases hover : clean rule.overrideSender with
  | none => exact ⟨_, rfl, by simp⟩
  | some sender => exact ⟨sender, rfl, iff_of_true ((Text.truthy_eq_some_iff.mp hover).2) (.inr (by simp))⟩

theorem namesSender_iff {tables : RoutingTables} {rotation : Nat} {chosen : ChosenBind}
    (h : chooseBind env req tables digits rotation = .ok chosen) :
    NamesSender env req tables digits rotation ↔
      req.sender.getD "" ≠ "" ∨ clean (chosen.effect.getD .none).overrideSender ≠ none := by
  rw [NamesSender]
  refine or_congr_right ⟨?_, fun hrule => ⟨chosen, h, hrule⟩⟩
  rintro ⟨other, hother, hrule⟩
  obtain rfl := Except.ok.inj (h.symm.trans hother)
  exact hrule

variable {ack : Ack} {sys : Sys} {row : SendSmsRow} {customerId : String}

/-- **Exactly when a closed list of senders holds.**  A customer with senders registered is active
and enabled when a row of it is submitted, and the row goes out under an approved sender, if and
only if the message has a sender (or the blank is itself an approved one). -/
theorem submitted_sender_approved_iff (h : Submits env faults actor req ack sys row)
    (hcustomer : req.customerId = some customerId) (hattributed : customerId ≠ "") :
    (Registered sys.db.accounts.senderIds customerId →
        Approved sys.db.accounts.senderIds customerId row.sender ∧
          Sendable sys.db.accounts.customers customerId) ↔
      (Registered sys.db.accounts.senderIds customerId →
        NamesSender env req sys.db.routing (canonicalReceiver env.countryCode req.receiver)
            (nextRotation sys.rotation) ∨
          Approved sys.db.accounts.senderIds customerId (some "")) := by
  obtain ⟨digits, a, hdigits, hpassed, rfl⟩ := send_submits h
  have hreceiver : canonicalReceiver env.countryCode req.receiver = digits := by
    rw [canonicalReceiver, hdigits, Option.getD_some]
  obtain ⟨sender, hsender, hnamed⟩ := rewrite_sender (a.chosen.effect.getD .none)
  rw [← hpassed.rewritten] at hsender
  have hrow : (rowOf sys.spool.nextSqlId (env.nowMs / 1000)
      (submission env req digits (some ("+" ++ digits)) a.chosen a.message)).sender =
        some sender := by
    rw [rowOf, submission, hsender, Option.getD_some]
  have hnames : NamesSender env req sys.db.routing digits (nextRotation sys.rotation) ↔
      sender ≠ "" := (namesSender_iff hpassed.chosen).trans hnamed.symm
  obtain ⟨accounts, hconsume⟩ := hpassed.entitled
  obtain ⟨hsendable, happroved⟩ := consumeInClient_ok hconsume
    (show Text.truthy req.customerId = some customerId from hcustomer ▸ Text.truthy_of_ne hattributed)
  rw [hrow, hreceiver, hnames]
  refine forall_congr' fun hregistered => ⟨?_, ?_⟩
  · rintro ⟨hmember, -⟩
    by_cases hblank : sender = ""
    · exact .inr (hblank ▸ hmember)
    · exact .inl hblank
  · rintro (hpresent | hblank)
    · refine ⟨happroved sender ?_ hregistered, hsendable⟩
      rw [entitlementCheck, hsender, Text.truthy_of_ne hpresent]
    · refine ⟨?_, hsendable⟩
      by_cases hpresent : sender = ""
      · exact hpresent ▸ hblank
      · refine happroved sender ?_ hregistered
        rw [entitlementCheck, hsender, Text.truthy_of_ne hpresent]

/-! ## A customer with one approved sender -/

/-- The only customer, with `INFO` for its only sender. -/
def curatedDb : TenantDb :=
  { TenantDb.oneBind true none with
    accounts := ⟨[⟨"acme", "active", true, 0⟩], [⟨"acme", "INFO", "approved", none⟩], [], [], [],
      []⟩ }

/-- A message of the customer. -/
def customerRequest (sender : Option String) : SendRequest :=
  { SendRequest.console "+256772000001" "hello" (some "mtn") with
    customerId := some "acme"
    sender := sender }

/-- The row it is submitted as. -/
def customerRow (sender : String) : SendSmsRow where
  sqlId := 1
  momt := some "MT"
  sender := some sender
  receiver := some "+256772000001"
  msgdata := some "hello"
  time := some 3600
  smscId := some "mtn"
  dlrMask := some 31
  foreignId := none
  dlrUrl := none
  deferred := none
  validity := none
  priority := none

/-- A message under the approved sender goes out under it. -/
theorem named_sender_approved :
    (Registered curatedDb.accounts.senderIds "acme" →
        Approved curatedDb.accounts.senderIds "acme" (customerRow "INFO").sender ∧
          Sendable curatedDb.accounts.customers "acme") ↔
      (Registered curatedDb.accounts.senderIds "acme" →
        NamesSender .plain (customerRequest (some "INFO")) curatedDb.routing
            (canonicalReceiver none "+256772000001") (nextRotation 0) ∨
          Approved curatedDb.accounts.senderIds "acme" (some "")) :=
  submitted_sender_approved_iff
    (show Submits .plain (fun _ => none) ⟨"1", "operator"⟩ (customerRequest (some "INFO")) .ok
      (.fresh curatedDb) (customerRow "INFO") by decide +kernel) rfl (by decide)

/-- A message without a sender goes out all the same, under a blank. -/
theorem blank_sender_goes_out :
    ¬ ∀ (env : SendEnv) (faults : Faults) (actor : Actor) (req : SendRequest) (ack : Ack) (sys : Sys)
        (row : SendSmsRow) (customerId : String), Submits env faults actor req ack sys row →
      req.customerId = some customerId → customerId ≠ "" →
      Registered sys.db.accounts.senderIds customerId →
      Approved sys.db.accounts.senderIds customerId row.sender ∧
        Sendable sys.db.accounts.customers customerId := by
  intro hall
  obtain ⟨⟨r, hr, -, -, hsender⟩, -⟩ := hall .plain (fun _ => none) ⟨"1", "operator"⟩
    (customerRequest none) .ok (.fresh curatedDb) (customerRow "") "acme" (by decide +kernel) rfl
    (by decide) ⟨⟨"acme", "INFO", "approved", none⟩, by decide, rfl⟩
  obtain rfl := List.mem_singleton.mp hr
  revert hsender
  decide

end Jkannel.Messaging.Send
