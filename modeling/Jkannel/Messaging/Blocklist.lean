import Jkannel.Routing.Msisdn

/-!
# Blacklist, whitelist and do-not-disturb

The list a destination is checked against before a route is chosen for it.  Entries are stored
under the canonical digits of a number; an entry without a customer is the tenant's own and applies
to everybody.

* `evaluateInClient` is the verdict on one destination.  A do-not-disturb entry refuses, then a
  blacklist entry; and once any whitelist entry is in scope only what is on the whitelist may be
  sent to.
-/

namespace Jkannel.Messaging

inductive BlocklistType where
  | blacklist | whitelist | dnd
  deriving DecidableEq

/-- The type as the table spells it. -/
def BlocklistType.text : BlocklistType → String
  | .blacklist => "blacklist"
  | .whitelist => "whitelist"
  | .dnd => "dnd"

structure BlocklistRow where
  /-- The customer the entry belongs to, or none for the whole tenant. -/
  customerId : Option String
  listType : BlocklistType
  msisdn : String
  reason : Option String
  enabled : Bool
  /-- When the entry lapses, in milliseconds. -/
  expiresAt : Option Int

/-- The verdict on one destination. -/
structure BlocklistVerdict where
  allowed : Bool
  listType : Option BlocklistType
  reason : Option String

/-- Whether an entry is in force for a customer's traffic. -/
def BlocklistRow.inForce (customerId : Option String) (now : Int) (row : BlocklistRow) : Bool :=
  row.enabled && (row.expiresAt.all fun t => decide (now < t)) &&
    (row.customerId.isNone || (customerId.isSome && decide (row.customerId = customerId)))

/-- The rows the query reads: what is in force on the destination, and the whole whitelist. -/
def blocklistRows (rows : List BlocklistRow) (destination : String) (customerId : Option String)
    (now : Int) : List BlocklistRow :=
  rows.filter fun row =>
    row.inForce customerId now && decide (row.msisdn = destination ∨ row.listType = .whitelist)

/-- The first entry of a list on the destination. -/
def hit (rows : List BlocklistRow) (destination : String) (type : BlocklistType) :
    Option BlocklistRow :=
  rows.find? fun row => decide (row.listType = type ∧ row.msisdn = destination)

/-- Evaluate one destination for a customer. -/
def evaluateInClient (table : List BlocklistRow) (destination : String)
    (customerId : Option String) (now : Int) : BlocklistVerdict :=
  let rows := blocklistRows table destination customerId now
  match hit rows destination .dnd with
  | some dnd =>
    ⟨false, some .dnd, some (dnd.reason.getD "destination is registered do-not-disturb")⟩
  | none =>
    match hit rows destination .blacklist with
    | some blacklisted =>
      ⟨false, some .blacklist, some (blacklisted.reason.getD "destination is blacklisted")⟩
    | none =>
      if (rows.any fun row => decide (row.listType = .whitelist)) &&
          (hit rows destination .whitelist).isNone then
        ⟨false, some .whitelist, some "a whitelist is active and this destination is not on it"⟩
      else ⟨true, none, none⟩

/-- The text of a refusal. -/
def blocklistRefusal (verdict : BlocklistVerdict) : String :=
  "Destination refused by " ++ (verdict.listType.map BlocklistType.text).getD "null" ++ ": " ++
    verdict.reason.getD "null"

end Jkannel.Messaging
