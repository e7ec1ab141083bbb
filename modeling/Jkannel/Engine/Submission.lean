import Jkannel.Engine.Sqlbox
import Jkannel.Lib.Transition

/-!
# Handing a message to the engine

The one row the repository writes into the engine's database.  The insert is a transaction of its
own there: nothing the caller does afterwards takes it back.

* `Spool` is `send_sms`, with the serial the next row gets.
* `submit` inserts one row.  The insert can be refused, and it can go through without the caller
  learning of it.
-/

namespace Jkannel.Engine

open Transition (Ack)

/-- A row of the spool, with the columns only a submission writes. -/
structure SendSmsRow extends SqlboxRow where
  dlrUrl : Option String
  deferred : Option Int
  validity : Option Int
  priority : Option Int
  deriving DecidableEq

/-- The spool. -/
structure Spool where
  rows : List SendSmsRow
  /-- The serial the next row gets. -/
  nextSqlId : Nat
  fresh : ∀ r ∈ rows, r.sqlId < nextSqlId

/-- What the caller hands over. -/
structure SqlboxSubmission where
  sender : String
  receiver : String
  text : String
  smscId : Option String
  dlrMask : Option Int
  dlrUrl : Option String
  foreignId : Option String
  deferredMinutes : Option Int
  validityMinutes : Option Int
  priority : Option Int

/-- What the caller gets back. -/
structure SqlboxQueued where
  sqlId : Nat
  status : String
  source : String
  deferredMinutes : Option Int
  validityMinutes : Option Int
  priority : Option Int

/-- How a submission fails. -/
inductive SubmitError where
  /-- A 400, with its text. -/
  | badRequest (message : String)
  /-- The engine's database refuses the statement, or does not answer. -/
  | statement (message : String)

def MESSAGE_PRIORITY_MIN : Int := 0
def MESSAGE_PRIORITY_MAX : Int := 3

/-- A priority in its range, none being no preference. -/
def parseMessagePriority (value : Option Int) : Except SubmitError (Option Int) :=
  match value with
  | none => .ok none
  | some parsed =>
    if parsed < MESSAGE_PRIORITY_MIN ∨ MESSAGE_PRIORITY_MAX < parsed then
      .error (.badRequest ("priority must be a whole number between " ++
        toString MESSAGE_PRIORITY_MIN ++ " and " ++ toString MESSAGE_PRIORITY_MAX ++
        " (SMPP priority_flag, higher leaves the queue first); received \"" ++ toString parsed ++
        "\""))
    else .ok (some parsed)

/-- The row a submission is written as. -/
def rowOf (sqlId : Nat) (time : Int) (value : SqlboxSubmission) : SendSmsRow where
  sqlId := sqlId
  momt := some "MT"
  sender := some value.sender
  receiver := some value.receiver
  msgdata := some value.text
  time := some time
  smscId := value.smscId
  dlrMask := some (value.dlrMask.getD 31)
  foreignId := value.foreignId
  dlrUrl := value.dlrUrl
  deferred := value.deferredMinutes
  validity := value.validityMinutes
  priority := value.priority

/-- The spool with one more row. -/
def Spool.insert (spool : Spool) (time : Int) (value : SqlboxSubmission) : Spool where
  rows := spool.rows ++ [rowOf spool.nextSqlId time value]
  nextSqlId := spool.nextSqlId + 1
  fresh := by
    intro r hr
    rcases List.mem_append.mp hr with hr | hr
    · exact Nat.lt_succ_of_lt (spool.fresh r hr)
    · rw [List.mem_singleton.mp hr]
      exact Nat.lt_succ_self _

/-- Submit one message.  `ack` is how the insert ends. -/
def submit (ack : Ack) (time : Int) (value : SqlboxSubmission) (spool : Spool) :
    Except SubmitError SqlboxQueued × Spool :=
  match parseMessagePriority value.priority with
  | .error e => (.error e, spool)
  | .ok priority =>
    match ack with
    | .refused error => (.error (.statement error), spool)
    | .lost error => (.error (.statement error), spool.insert time value)
    | .ok =>
      (.ok ⟨spool.nextSqlId, "queued", "kamex-sqlbox", value.deferredMinutes,
        value.validityMinutes, priority⟩, spool.insert time value)

theorem Spool.insert_ne (spool : Spool) (time : Int) (value : SqlboxSubmission) :
    spool.insert time value ≠ spool := by
  intro h
  have := congrArg Spool.nextSqlId h
  exact absurd this (Nat.succ_ne_self _)

/-- The insert takes effect: the priority is in its range and the statement is not refused. -/
def Inserts (ack : Ack) (value : SqlboxSubmission) : Prop :=
  (∃ priority, parseMessagePriority value.priority = .ok priority) ∧ ack.committed = true

/-- What a submission does to the spool. -/
theorem submit_spool (ack : Ack) (time : Int) (value : SqlboxSubmission) (spool : Spool) :
    (Inserts ack value ∧ (submit ack time value spool).2 = spool.insert time value) ∨
      (¬ Inserts ack value ∧ (submit ack time value spool).2 = spool ∧
        ∃ e, (submit ack time value spool).1 = .error e) := by
  rw [submit, Inserts]
  cases parseMessagePriority value.priority with
  | error e => exact .inr ⟨by simp, rfl, e, rfl⟩
  | ok priority =>
    cases ack with
    | ok | lost _ => exact .inl ⟨⟨⟨priority, rfl⟩, rfl⟩, rfl⟩
    | refused error => exact .inr ⟨by simp [Ack.committed], rfl, _, rfl⟩

variable {value : SqlboxSubmission}

/-- The spool changes exactly when the insert takes effect. -/
theorem submit_changes_iff {ack : Ack} {time : Int} {spool : Spool} :
    (submit ack time value spool).2 ≠ spool ↔ Inserts ack value := by
  rcases submit_spool ack time value spool with ⟨h, heq⟩ | ⟨h, heq, -⟩
  · rw [heq]
    exact ⟨fun _ => h, fun _ => spool.insert_ne time value⟩
  · rw [heq]
    exact ⟨fun hne => absurd rfl hne, fun hinserts => absurd hinserts h⟩

/-- A row that was not in the spool before is the submission's. -/
theorem submit_new_row {ack : Ack} {time : Int} {spool : Spool}
    {row : SendSmsRow} (hnew : row ∈ (submit ack time value spool).2.rows)
    (hold : row ∉ spool.rows) : row = rowOf spool.nextSqlId time value := by
  rcases submit_spool ack time value spool with ⟨-, heq⟩ | ⟨-, heq, -⟩
  · rw [heq, Spool.insert] at hnew
    rcases List.mem_append.mp hnew with hnew | hnew
    · exact absurd hnew hold
    · exact List.mem_singleton.mp hnew
  · rw [heq] at hnew
    exact absurd hnew hold

end Jkannel.Engine
