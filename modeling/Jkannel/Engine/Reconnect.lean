import Jkannel.Text
import Mathlib.Data.List.Infix

/-!
# Reconnecting a bind

To reconnect a bind the adapter stops it, waits until the engine reports it down, starts it again
and waits until it is reported up.  Both waits have a budget, either command can be refused, and the
engine's status may not be readable at any moment.

* `reconnect` is `controlSmsc('reconnect')` for a script of all that comes from outside: the status
  at each look with its time, and the answers to the two commands.
* `Honest` is the promise: a cycle that is reported as verified was seen, and a bind that was
  stopped is started again.
* `reconnect_honest_iff` says for which scripts it is kept.  The second half always is
  (`start_issued`); but the verdict looks at the drop only, and at the first connection only.
-/

namespace Jkannel.Engine.Reconnect

open Option
open Text

/-! ## Looking at the engine -/

/-- A connection of the engine's status, which several can have one engine id. -/
structure EngineBindSnapshot where
  engineId : String
  status : String

/-- The binds of a snapshot; `none` where its source is unavailable. -/
abbrev Snapshot := Option (List EngineBindSnapshot)

/-- One look at a bind. -/
structure Observation where
  observable : Bool
  status : Option String

/-- What a snapshot says of a bind. -/
def observeBind (engineId : String) : Snapshot → Observation
  | none => ⟨false, none⟩
  | some binds => ⟨true, (binds.find? fun bind => bind.engineId = engineId).map (·.status)⟩

inductive Want where
  | online
  | offline

/-- The wait may end. -/
def satisfied (want : Want) (observed : Observation) : Bool :=
  match want with
  | .online => observed.status = some "online"
  | .offline => observed.status ≠ some "online"

/-- A look at the engine, and `Date.now()` after it. -/
structure Poll where
  snapshot : Snapshot
  now : Nat

/-- `none` while the wait goes on. -/
def awaitBindState (engineId : String) (want : Want) (deadline : Nat) :
    List Poll → Option Observation
  | [] => none
  | poll :: rest =>
    let observed := observeBind engineId poll.snapshot
    if !observed.observable then some observed
    else if satisfied want observed || deadline ≤ poll.now then some observed
    else awaitBindState engineId want deadline rest

/-! ## The commands -/

/-- What the engine answers to a command. -/
inductive Answer where
  /-- The request fails. -/
  | thrown (message : String)
  | response (ok : Bool) (status : Nat) (detail : String)

/-- `/…/i.test(text)` for a phrase of small letters. -/
def mentions (text phrase : String) : Bool := phrase.toList <:+: text.toList.map Char.toLower

/-- The body of the answer, or the error that is thrown. -/
def adminCommand (operation : String) : Answer → Except String String
  | .thrown message => .error message
  | .response ok status detail =>
    if !ok || mentions detail "could not" || mentions detail "not given" ||
        mentions detail "denied" then
      let message := if trim detail = "" then s!"HTTP {status}" else trim detail
      let hint :=
        if mentions detail "denied" || mentions detail "not given" then
          " The engine rejected the credential — check KAMEX_ADMIN_PASSWORD against the " ++
            "engine's admin-password. Repeated bad authentications make the admin port " ++
            "progressively slower until bearerbox is restarted."
        else ""
      .error s!"Kamex SMSC {operation} failed: {message}.{hint}"
    else .ok detail

/-- The command was accepted. -/
def Answer.accepted (answer : Answer) : Bool := (adminCommand "" answer).isOk

/-! ## The call -/

/-- The states seen through a cycle. -/
structure States where
  before : Option String
  afterStop : Option String
  afterStart : Option String
  cycleVerified : Bool

/-- What a control call returns. -/
structure SmscControlResult where
  engineId : String
  accepted : Bool
  detail : String
  states : States

def Observation.text (o : Observation) : String :=
  if !o.observable then "unobservable" else o.status.getD "absent"

/-- What a cycle is reported as. -/
def report (engineId : String) (before afterStop afterStart : Observation)
    (stopped started : String) : SmscControlResult :=
  let observable := before.observable && afterStop.observable && afterStart.observable
  let cycled := afterStop.observable && decide (afterStop.status ≠ some "online")
  let commands := s!"stop: {trim stopped}; start: {trim started}"
  let drop :=
    if cycled then "The bind was observed to drop and be re-established."
    else "WARNING: the bind was never observed off-line, so the drop could not be confirmed."
  { engineId
    accepted := true
    detail :=
      if !observable then
        s!"Reconnect issued stop-smsc then start-smsc for {engineId}. bearerbox /status.json is " ++
          s!"unavailable, so the bind cycle could NOT be verified. {commands}"
      else
        s!"Reconnect cycled {engineId}: {before.text} -> {afterStop.text} -> {afterStart.text}. " ++
          s!"{drop} {commands}"
    states := ⟨before.status, afterStop.status, afterStart.status, observable && cycled⟩ }

inductive Command where
  | stopSmsc
  | startSmsc
  deriving DecidableEq

/-- How long each wait may last. -/
structure Timing where
  stopMs : Nat
  startMs : Nat

/-- What comes from outside during a call. -/
structure Script where
  before : Snapshot
  stop : Answer
  stoppedAt : Nat
  offline : List Poll
  start : Answer
  startedAt : Nat
  online : List Poll

/-- A call that is over: the commands it issued, and what it returned or threw. -/
structure Call where
  commands : List Command
  result : Except String SmscControlResult

variable (timing : Timing) (engineId : String) (script : Script)

/-- `controlSmsc('reconnect', engineId)`; `none` while it waits. -/
def reconnect : Option Call :=
  let before := observeBind engineId script.before
  match adminCommand "reconnect (stop)" script.stop with
  | .error message => some ⟨[.stopSmsc], .error message⟩
  | .ok stopped =>
    (awaitBindState engineId .offline (script.stoppedAt + timing.stopMs) script.offline).bind
      fun afterStop =>
        match adminCommand "reconnect (start)" script.start with
        | .error message => some ⟨[.stopSmsc, .startSmsc], .error message⟩
        | .ok started =>
          (awaitBindState engineId .online (script.startedAt + timing.startMs) script.online).map
            fun afterStart =>
              ⟨[.stopSmsc, .startSmsc],
                .ok (report engineId before afterStop afterStart stopped started)⟩

/-! ## What is promised -/

/-- Some connection of the bind is online. -/
def Online : Snapshot → Prop
  | none => False
  | some binds => ∃ bind ∈ binds, bind.engineId = engineId ∧ bind.status = "online"

/-- The status was read, and no connection of the bind is online. -/
def Down (snapshot : Snapshot) : Prop := snapshot.isSome = true ∧ ¬ Online engineId snapshot

/-- The look is the last of its wait. -/
def ends (want : Want) (deadline : Nat) (poll : Poll) : Bool :=
  let observed := observeBind engineId poll.snapshot
  !observed.observable || satisfied want observed || decide (deadline ≤ poll.now)

/-- The looks of a wait, the last included. -/
def looks (want : Want) (deadline : Nat) : List Poll → List Poll
  | [] => []
  | poll :: rest =>
    if ends engineId want deadline poll then [poll] else poll :: looks want deadline rest

/-- The looks that wait for the drop. -/
def looksAfterStop : List Poll :=
  looks engineId .offline (script.stoppedAt + timing.stopMs) script.offline

/-- The looks that wait for the return. -/
def looksAfterStart : List Poll :=
  looks engineId .online (script.startedAt + timing.startMs) script.online

/-- What a verified cycle has to mean. -/
structure Honest : Prop where
  verified : ∀ call r, reconnect timing engineId script = some call → call.result = .ok r →
    r.states.cycleVerified = true →
      Online engineId script.before ∧
        (∃ poll ∈ looksAfterStop timing engineId script, Down engineId poll.snapshot) ∧
        ∃ poll ∈ looksAfterStart timing engineId script, Online engineId poll.snapshot
  restarted : ∀ call, reconnect timing engineId script = some call →
    script.stop.accepted = true → .startSmsc ∈ call.commands

/-- Both commands are accepted, the status can be read at the three looks that count, and the first
connection is not online at the last look after the stop. -/
structure Dropped : Prop where
  stopped : script.stop.accepted = true
  started : script.start.accepted = true
  before : script.before.isSome = true
  afterStop : ∃ poll,
    script.offline.find? (ends engineId .offline (script.stoppedAt + timing.stopMs)) = some poll ∧
      poll.snapshot.isSome = true ∧ (observeBind engineId poll.snapshot).status ≠ some "online"
  afterStart : ∃ poll,
    script.online.find? (ends engineId .online (script.startedAt + timing.startMs)) = some poll ∧
      poll.snapshot.isSome = true

/-! ## The waits -/

variable {timing engineId script} {want : Want} {deadline : Nat} {polls : List Poll} {poll : Poll}

theorem awaitBindState_eq : awaitBindState engineId want deadline polls =
    (polls.find? (ends engineId want deadline)).map fun poll =>
      observeBind engineId poll.snapshot := by
  induction polls with
  | nil => rfl
  | cons poll rest ih =>
    rw [awaitBindState, List.find?_cons, ih]
    dsimp only [ends]
    cases (observeBind engineId poll.snapshot).observable <;>
      cases satisfied want (observeBind engineId poll.snapshot) <;>
        cases decide (deadline ≤ poll.now) <;> rfl

theorem observable_eq (snapshot : Snapshot) :
    (observeBind engineId snapshot).observable = snapshot.isSome := by
  cases snapshot <;> rfl

/-- What is reported of the first connection is true of the bind. -/
theorem online_of_status {snapshot : Snapshot}
    (h : (observeBind engineId snapshot).status = some "online") : Online engineId snapshot := by
  cases snapshot with
  | none => cases h
  | some binds =>
    obtain ⟨bind, hfind, hstatus⟩ := map_eq_some_iff.mp h
    exact ⟨bind, List.mem_of_find?_eq_some hfind, by simpa using List.find?_some hfind, hstatus⟩

theorem ends_of_mem_looks : poll ∈ looks engineId want deadline polls →
    ends engineId want deadline poll = false ∨
      polls.find? (ends engineId want deadline) = some poll := by
  induction polls with
  | nil => exact fun h => by cases h
  | cons first rest ih =>
    rw [looks, List.find?_cons]
    cases hends : ends engineId want deadline first with
    | true =>
      rw [if_pos rfl]
      exact fun h => .inr (congrArg some (List.mem_singleton.mp h).symm)
    | false =>
      rw [if_neg Bool.false_ne_true]
      rintro (_ | ⟨_, hmem⟩)
      · exact .inl hends
      · exact ih hmem

theorem mem_looks_of_find (h : polls.find? (ends engineId want deadline) = some poll) :
    poll ∈ looks engineId want deadline polls := by
  induction polls with
  | nil => cases h
  | cons first rest ih =>
    rw [List.find?_cons] at h
    rw [looks]
    cases hends : ends engineId want deadline first with
    | true =>
      rw [hends] at h
      cases h
      exact List.mem_singleton_self ..
    | false =>
      rw [hends] at h
      exact List.mem_cons_of_mem _ (ih h)

/-- A bind can only be seen down at the last look after the stop. -/
theorem seen_down_iff
    (h : script.offline.find? (ends engineId .offline (script.stoppedAt + timing.stopMs)) =
      some poll)
    (hread : poll.snapshot.isSome = true) :
    (∃ poll ∈ looksAfterStop timing engineId script, Down engineId poll.snapshot) ↔
      ¬ Online engineId poll.snapshot := by
  refine ⟨fun ⟨other, hlook, hdown⟩ => ?_, fun hnot => ⟨poll, mem_looks_of_find h, hread, hnot⟩⟩
  obtain hgoes | hlast := ends_of_mem_looks hlook
  · -- the wait went on because the bind was online
    have hstatus : (observeBind engineId other.snapshot).status = some "online" := by
      by_contra hnot
      simp [ends, satisfied, hnot] at hgoes
    exact absurd (online_of_status hstatus) hdown.2
  · obtain rfl := some.inj (h.symm.trans hlast)
    exact hdown.2

/-! ## The verdict -/

theorem accepted_iff (operation : String) {answer : Answer} :
    answer.accepted = true ↔ ∃ detail, adminCommand operation answer = .ok detail := by
  cases answer with
  | thrown message => exact iff_of_false Bool.false_ne_true fun ⟨_, h⟩ => by cases h
  | response ok status detail =>
    rw [Answer.accepted, adminCommand, adminCommand]
    split
    · exact iff_of_false Bool.false_ne_true fun ⟨_, h⟩ => by cases h
    · exact iff_of_true rfl ⟨detail, rfl⟩

theorem reconnect_of_accepted (h : script.stop.accepted = true) {call : Call}
    (hcall : reconnect timing engineId script = some call) :
    call.commands = [.stopSmsc, .startSmsc] := by
  obtain ⟨stopped, hstop⟩ := (accepted_iff "reconnect (stop)").mp h
  simp only [reconnect, hstop] at hcall
  obtain ⟨afterStop, -, hcall⟩ := bind_eq_some_iff.mp hcall
  cases hstart : adminCommand "reconnect (start)" script.start with
  | error message =>
    rw [hstart] at hcall
    exact congrArg Call.commands (some.inj hcall).symm
  | ok started =>
    rw [hstart] at hcall
    obtain ⟨afterStart, -, rfl⟩ := map_eq_some_iff.mp hcall
    rfl

/-- A bind that was stopped is started again, whatever the call returns or throws. -/
theorem start_issued (h : script.stop.accepted = true) {call : Call}
    (hcall : reconnect timing engineId script = some call) : .startSmsc ∈ call.commands := by
  rw [reconnect_of_accepted h hcall]
  decide

/-- **What is reported as verified**: a drop of the first connection, between two looks of which
only that they could be read is known. -/
theorem verified_iff :
    (∃ call r, reconnect timing engineId script = some call ∧ call.result = .ok r ∧
      r.states.cycleVerified = true) ↔ Dropped timing engineId script := by
  constructor
  · rintro ⟨call, r, hcall, hr, hverified⟩
    rw [reconnect, awaitBindState_eq, awaitBindState_eq] at hcall
    cases hstop : adminCommand "reconnect (stop)" script.stop with
    | error message =>
      simp only [hstop] at hcall
      cases hcall
      cases hr
    | ok stopped =>
      simp only [hstop] at hcall
      obtain ⟨_, hoffline, hcall⟩ := bind_eq_some_iff.mp hcall
      obtain ⟨down, hdown, rfl⟩ := map_eq_some_iff.mp hoffline
      cases hstart : adminCommand "reconnect (start)" script.start with
      | error message =>
        simp only [hstart] at hcall
        cases hcall
        cases hr
      | ok started =>
        simp only [hstart] at hcall
        obtain ⟨_, honline, rfl⟩ := map_eq_some_iff.mp hcall
        obtain ⟨up, hup, rfl⟩ := map_eq_some_iff.mp honline
        cases hr
        simp only [report, observable_eq, Bool.and_eq_true, decide_eq_true_eq] at hverified
        obtain ⟨⟨⟨hbefore, hread⟩, hback⟩, -, hstatus⟩ := hverified
        exact ⟨(accepted_iff _).mpr ⟨_, hstop⟩, (accepted_iff _).mpr ⟨_, hstart⟩, hbefore,
          ⟨down, hdown, hread, hstatus⟩, ⟨up, hup, hback⟩⟩
  · intro h
    obtain ⟨stopped, hstop⟩ := (accepted_iff "reconnect (stop)").mp h.stopped
    obtain ⟨started, hstart⟩ := (accepted_iff "reconnect (start)").mp h.started
    obtain ⟨down, hdown, hread, hstatus⟩ := h.afterStop
    obtain ⟨up, hup, hback⟩ := h.afterStart
    refine ⟨⟨[.stopSmsc, .startSmsc], .ok (report engineId (observeBind engineId script.before)
      (observeBind engineId down.snapshot) (observeBind engineId up.snapshot) stopped started)⟩,
      _, ?_, rfl, ?_⟩
    · simp [reconnect, awaitBindState_eq, hstop, hstart, hdown, hup]
    · simp only [report, observable_eq, Bool.and_eq_true, decide_eq_true_eq]
      exact ⟨⟨⟨h.before, hread⟩, hback⟩, hread, hstatus⟩

/-- **A reconnect is honest** exactly when, wherever a drop of the first connection is read, the
bind was online before, no other connection of it is online at that look, and it came back. -/
theorem reconnect_honest_iff (timing : Timing) (engineId : String) (script : Script) :
    Honest timing engineId script ↔ (Dropped timing engineId script →
      Online engineId script.before ∧
        (∀ poll, script.offline.find?
            (ends engineId .offline (script.stoppedAt + timing.stopMs)) = some poll →
          ¬ Online engineId poll.snapshot) ∧
        ∃ poll ∈ looksAfterStart timing engineId script, Online engineId poll.snapshot) := by
  constructor
  · intro hhonest hdropped
    obtain ⟨call, r, hcall, hr, hverified⟩ := verified_iff.mpr hdropped
    obtain ⟨hbefore, hdown, hback⟩ := hhonest.verified call r hcall hr hverified
    refine ⟨hbefore, fun poll hpoll => ?_, hback⟩
    obtain ⟨last, hlast, hread, -⟩ := hdropped.afterStop
    obtain rfl := some.inj (hlast.symm.trans hpoll)
    exact (seen_down_iff hlast hread).mp hdown
  · refine fun h => ⟨fun call r hcall hr hverified => ?_, fun call hcall hstop => ?_⟩
    · have hdropped := verified_iff.mp ⟨call, r, hcall, hr, hverified⟩
      obtain ⟨hbefore, hnot, hback⟩ := h hdropped
      obtain ⟨last, hlast, hread, -⟩ := hdropped.afterStop
      exact ⟨hbefore, (seen_down_iff hlast hread).mpr (hnot last hlast), hback⟩
    · exact start_issued hstop hcall

/-! ## A bind that is down all along -/

/-- The bind is dead at every look, and never comes back. -/
def deadAllAlong : Script where
  before := some [⟨"carrier-a", "dead"⟩]
  stop := .response true 200 "SMSC stopped"
  stoppedAt := 0
  offline := [⟨some [⟨"carrier-a", "dead"⟩], 0⟩]
  start := .response true 200 "SMSC started"
  startedAt := 0
  online := [⟨some [⟨"carrier-a", "dead"⟩], 10000⟩]

/-- Its cycle is reported as verified. -/
theorem dead_cycle_verified : ¬ Honest ⟨5000, 10000⟩ "carrier-a" deadAllAlong := by
  intro h
  have hdropped : Dropped ⟨5000, 10000⟩ "carrier-a" deadAllAlong :=
    ⟨by decide, by decide, rfl, ⟨_, rfl, rfl, by decide⟩, ⟨_, rfl, rfl⟩⟩
  obtain ⟨call, r, hcall, hr, hverified⟩ := verified_iff.mpr hdropped
  obtain ⟨bind, hbind, -, honline⟩ := (h.verified call r hcall hr hverified).1
  obtain rfl := List.mem_singleton.mp hbind
  exact absurd honline (by decide)

end Jkannel.Engine.Reconnect
