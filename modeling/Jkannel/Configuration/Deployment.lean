import Jkannel.Lib.Updates
import Jkannel.Lib.Files
import Jkannel.Lib.Transition

/-!
# Deploying a configuration

A deployment reads what the engine's file holds, writes its text to a temporary file, renames it
over the target and has the engine reload; when that fails it puts what it read back the same way.
All deployments of a process share the name of the temporary file.

* `runStep` is what one call of `deploy` does, and `step` the machine of any number of them.
* `AllOrNothing` is what is asked: the target always holds one whole text, and a deployment that
  throws after its rename leaves the target as it was when it was called, unless another one has
  returned since.
* `Orderly` is the condition: the temporary file is opened when nobody is writing it, a deployment
  whose reload fails has read a file, its rollback does not fail, and no rename of another one gets
  between it and what it restores.
* `all_or_nothing` is the result; `first_deployment_stays` is a run that breaks without it.

What a run knows of the moments it was called, read the target and put it back is for the proof;
the code keeps none of it.
-/

namespace Jkannel.Configuration.Deployment

open List Option
open Files
open Updates (set_eq_some)

inductive Path where
  | target
  /-- `${target}.${pid}.tmp`. -/
  | temporary
  deriving DecidableEq

/-- Which of the two is being put in place. -/
inductive Side where
  | deployed | previous
  deriving DecidableEq

/-- How a call ends. -/
inductive Outcome where
  /-- The validator or `mkdir` throws. -/
  | refused
  /-- It is the nth that returns. -/
  | returned (nth : Nat)
  /-- It throws: whether it has renamed, what the target holds, and how many have returned. -/
  | threw (renamed : Bool) (left : Option Bytes) (returned : Nat)
  deriving DecidableEq

/-- Where a call of `deploy` is. -/
inductive Phase where
  | called
  /-- The target is open, and this much of it is read. -/
  | reading (inode : Nat) (acc : Bytes)
  /-- The temporary file is next. -/
  | ready (side : Side)
  | writing (side : Side) (inode : Nat) (offset : Nat)
  /-- The target is renamed; the reload is next. -/
  | reloading (side : Side)
  | ended (outcome : Outcome)
  deriving DecidableEq

/-- A call of `deploy`. -/
structure Run where
  content : Bytes
  previous : Option Bytes
  phase : Phase
  /-- What the target held when it was called. -/
  before : Option Bytes
  /-- How many had returned then. -/
  returnedBefore : Nat
  /-- How many renames there had been then, when it opened the target, and when it put it back. -/
  movesBefore : Nat
  movesAtLook : Nat
  movesAtRestore : Nat

def Run.text (run : Run) : Side → Bytes
  | .deployed => run.content
  | .previous => run.previous.getD []

/-- The disk and the calls made so far. -/
structure State where
  initial : Option Bytes
  disk : Disk Path
  runs : List Run
  /-- Renames onto the target. -/
  moves : Nat
  /-- Calls that have returned. -/
  returned : Nat
  /-- The text of the last of them. -/
  last : Option Bytes

/-- One system call, or the end of a process. -/
inductive Action where
  | call (content : Bytes)
  | refuse (i : Nat)
  /-- The text is valid, and the target is opened for reading. -/
  | look (i : Nat)
  | read (i : Nat) (n : Nat)
  | readEnd (i : Nat)
  /-- The target cannot be read. -/
  | readFails (i : Nat)
  /-- The temporary file is opened. -/
  | create (i : Nat)
  | write (i : Nat) (n : Nat)
  | rename (i : Nat)
  /-- The open, a write, the sync or the rename fails. -/
  | fail (i : Nat)
  /-- The reload and what is verified after it. -/
  | reload (i : Nat) (ok : Bool)

def State.setRun (s : State) (i : Nat) (run : Run) : State := { s with runs := s.runs.set i run }

def State.setDisk (s : State) (disk : Disk Path) : State := { s with disk := disk }

/-- A call throws. -/
def throws (s : State) (i : Nat) (run : Run) (renamed : Bool) : State :=
  s.setRun i { run with phase := .ended (.threw renamed (s.disk.file .target) s.returned) }

/-- Whether the target has been renamed by the time this side is written. -/
def Side.renamed : Side → Bool
  | .deployed => false
  | .previous => true

/-- The rename, which fails when the temporary file is gone. -/
def renames (s : State) (i : Nat) (run : Run) (side : Side) : State :=
  match s.disk.rename .temporary .target with
  | none => throws s i run side.renamed
  | some disk => { s with disk := disk, moves := s.moves + 1 }.setRun i
      { run with phase := .reloading side, movesAtRestore := s.moves + 1 }

/-- What follows from a reload. -/
def reloads (s : State) (i : Nat) (run : Run) (ok : Bool) : Side → State
  | .deployed =>
    if ok then { s with returned := s.returned + 1, last := some run.content }.setRun i
      { run with phase := .ended (.returned (s.returned + 1)) }
    else match run.previous with
      | some _ => s.setRun i { run with phase := .ready .previous }
      | none => throws s i run true
  -- the original error is what is thrown, however the second reload ends
  | .previous => throws s i run true

theorem renames_eq {s : State} {disk : Disk Path} (h : s.disk.rename .temporary .target = some disk)
    (i : Nat) (run : Run) (side : Side) :
    renames s i run side = { s with disk := disk, moves := s.moves + 1 }.setRun i
      { run with phase := .reloading side, movesAtRestore := s.moves + 1 } := by
  rw [renames, h]

theorem reloads_back {run : Run} {content : Bytes} (h : run.previous = some content) (s : State)
    (i : Nat) : reloads s i run false .deployed = s.setRun i { run with phase := .ready .previous } := by
  rw [reloads, h]
  rfl

/-- The step of one call. -/
def runStep (s : State) (i : Nat) (run : Run) : Phase → Action → Option State
  | .called, .refuse _ => some (s.setRun i { run with phase := .ended .refused })
  | .called, .look _ =>
    match s.disk.entry .target with
    -- the first deployment
    | none => some (s.setRun i { run with phase := .ready .deployed, movesAtLook := s.moves })
    | some k => some (s.setRun i { run with phase := .reading k [], movesAtLook := s.moves })
  | .called, .readFails _ | .reading _ _, .readFails _ =>
    some (s.setRun i { run with phase := .ready .deployed })
  | .reading k acc, .read _ n =>
    some (s.setRun i
      { run with phase := .reading k (acc ++ ((s.disk.content k).drop acc.length).take n) })
  | .reading k acc, .readEnd _ =>
    if acc.length < (s.disk.content k).length then none
    else some (s.setRun i { run with phase := .ready .deployed, previous := some acc })
  | .ready side, .create _ =>
    some ((s.setDisk (s.disk.create .temporary).1).setRun i
      { run with phase := .writing side (s.disk.create .temporary).2 0 })
  | .writing side k offset, .write _ n =>
    if offset + n ≤ (run.text side).length then
      some ((s.setDisk (s.disk.write k offset (((run.text side).drop offset).take n))).setRun i
        { run with phase := .writing side k (offset + n) })
    else none
  | .writing side _ offset, .rename _ =>
    if offset = (run.text side).length then some (renames s i run side) else none
  | .ready side, .fail _ | .writing side _ _, .fail _ => some (throws s i run side.renamed)
  | .reloading side, .reload _ ok => some (reloads s i run ok side)
  | _, _ => none

def State.call (s : State) (content : Bytes) : State :=
  { s with
    runs := s.runs ++
      [⟨content, none, .called, s.disk.file .target, s.returned, s.moves, 0, 0⟩] }

/-- One system call of one deployment. -/
def step (s : State) (a : Action) : Option State :=
  match a with
  | .call content => some (s.call content)
  | .refuse i | .look i | .read i _ | .readEnd i | .readFails i | .create i | .write i _
  | .rename i | .fail i | .reload i _ => s.runs[i]?.bind fun run => runStep s i run run.phase a

/-- The machine. -/
def deployment : Transition.System State Action := ⟨step⟩

/-- A disk with or without a target, and with or without a temporary file somebody left. -/
def disk (target temporary : Option Bytes) : Disk Path where
  content
    | 0 => target.getD []
    | _ => temporary.getD []
  entry
    | .target => target.map fun _ => 0
    | .temporary => temporary.map fun _ => 1
  next := 2
  known p k h := by
    cases p <;> obtain ⟨_, -, rfl⟩ := map_eq_some_iff.mp h <;> decide
  single p q k hp hq := by
    cases p <;> cases q <;> first
      | rfl
      | obtain ⟨_, -, rfl⟩ := map_eq_some_iff.mp hp
        obtain ⟨_, -, heq⟩ := map_eq_some_iff.mp hq
        cases heq

def init (target temporary : Option Bytes) : State :=
  ⟨target, disk target temporary, [], 0, 0, none⟩

theorem init_file (target temporary : Option Bytes) :
    (init target temporary).disk.file .target = target := by
  cases target <;> rfl

/-! ## All or nothing -/

/-- The text has passed the validator. -/
def Phase.validated : Phase → Bool
  | .called | .ended .refused => false
  | _ => true

/-- What the target held at first, or the text of one deployment. -/
def Known (s : State) (content : Bytes) : Prop :=
  s.initial = some content ∨ ∃ run ∈ s.runs, run.phase.validated = true ∧ run.content = content

/-- **All or nothing.** -/
structure AllOrNothing (s : State) : Prop where
  /-- The target holds one whole text. -/
  whole : ∀ content, s.disk.file .target = some content → Known s content
  /-- It is only absent when it was absent at first. -/
  absent : s.disk.file .target = none → s.initial = none
  /-- A call that throws after its rename leaves the target as it was. -/
  restored : ∀ run ∈ s.runs, ∀ left returned, run.phase = .ended (.threw true left returned) →
    returned = run.returnedBefore → left = run.before

/-- Nobody else has renamed between the call and the opening of the target, nor since the target was
put back. -/
def Undisturbed (s : State) (run : Run) : Prop :=
  run.movesAtLook = run.movesBefore ∧ s.moves = run.movesAtRestore

def Phase.isWriting : Phase → Bool
  | .writing _ _ _ => true
  | _ => false

/-- The call is putting the previous file back. -/
def Phase.isRollback : Phase → Bool
  | .ready .previous | .writing .previous _ _ => true
  | _ => false

/-- The temporary file is opened while nobody is writing it. -/
def Exclusive (s : State) : Action → Prop
  | .create _ => ∀ run ∈ s.runs, run.phase.isWriting = false
  | _ => True

/-- A call puts back what there was, unless another one has returned since it was called. -/
def Restoring (s : State) : Action → Prop
  | .fail i => ∀ run ∈ s.runs[i]?, run.phase.isRollback = true → s.returned ≠ run.returnedBefore
  | .reload i ok => ∀ run ∈ s.runs[i]?,
      (run.phase = .reloading .deployed → ok = false → run.previous = none →
        s.returned ≠ run.returnedBefore) ∧
      (run.phase = .reloading .previous → Undisturbed s run ∨ s.returned ≠ run.returnedBefore)
  | _ => True

instance (s : State) (run : Run) : Decidable (Undisturbed s run) :=
  inferInstanceAs (Decidable (_ ∧ _))

/-- One writer at a time, and rollbacks that restore. -/
def Orderly (s : State) (a : Action) : Prop := Exclusive s a ∧ Restoring s a

instance (s : State) (a : Action) : Decidable (Exclusive s a) := by
  unfold Exclusive
  split <;> infer_instance

instance (s : State) (a : Action) : Decidable (Restoring s a) := by
  unfold Restoring
  split <;> infer_instance

instance (s : State) (a : Action) : Decidable (Orderly s a) :=
  inferInstanceAs (Decidable (_ ∧ _))

/-! ## What a step does -/

/-- The steps there are. -/
inductive Moves (s : State) : Action → State → Prop where
  | call (content : Bytes) : Moves s (.call content) (s.call content)
  | refuse {i : Nat} {run : Run} (hrun : s.runs[i]? = some run) (hphase : run.phase = .called) :
    Moves s (.refuse i) (s.setRun i { run with phase := .ended .refused })
  | absent {i : Nat} {run : Run} (hrun : s.runs[i]? = some run) (hphase : run.phase = .called)
    (hentry : s.disk.entry .target = none) :
    Moves s (.look i) (s.setRun i { run with phase := .ready .deployed, movesAtLook := s.moves })
  | look {i k : Nat} {run : Run} (hrun : s.runs[i]? = some run) (hphase : run.phase = .called)
    (hentry : s.disk.entry .target = some k) :
    Moves s (.look i) (s.setRun i { run with phase := .reading k [], movesAtLook := s.moves })
  | readFails {i : Nat} {run : Run} (hrun : s.runs[i]? = some run)
    (hphase : run.phase = .called ∨ ∃ k acc, run.phase = .reading k acc) :
    Moves s (.readFails i) (s.setRun i { run with phase := .ready .deployed })
  | read {i k n : Nat} {run : Run} {acc : Bytes} (hrun : s.runs[i]? = some run)
    (hphase : run.phase = .reading k acc) :
    Moves s (.read i n) (s.setRun i
      { run with phase := .reading k (acc ++ ((s.disk.content k).drop acc.length).take n) })
  | readEnd {i k : Nat} {run : Run} {acc : Bytes} (hrun : s.runs[i]? = some run)
    (hphase : run.phase = .reading k acc) (hend : ¬ acc.length < (s.disk.content k).length) :
    Moves s (.readEnd i) (s.setRun i { run with phase := .ready .deployed, previous := some acc })
  | create {i : Nat} {run : Run} {side : Side} (hrun : s.runs[i]? = some run)
    (hphase : run.phase = .ready side) :
    Moves s (.create i) ((s.setDisk (s.disk.create .temporary).1).setRun i
      { run with phase := .writing side (s.disk.create .temporary).2 0 })
  | write {i k offset n : Nat} {run : Run} {side : Side} (hrun : s.runs[i]? = some run)
    (hphase : run.phase = .writing side k offset) (hn : offset + n ≤ (run.text side).length) :
    Moves s (.write i n)
      ((s.setDisk (s.disk.write k offset (((run.text side).drop offset).take n))).setRun i
        { run with phase := .writing side k (offset + n) })
  | rename {i k offset : Nat} {run : Run} {side : Side} (hrun : s.runs[i]? = some run)
    (hphase : run.phase = .writing side k offset) (hall : offset = (run.text side).length) :
    Moves s (.rename i) (renames s i run side)
  | fail {i : Nat} {run : Run} {side : Side} (hrun : s.runs[i]? = some run)
    (hphase : run.phase = .ready side ∨ ∃ k offset, run.phase = .writing side k offset) :
    Moves s (.fail i) (throws s i run side.renamed)
  | reload {i : Nat} {run : Run} {side : Side} {ok : Bool} (hrun : s.runs[i]? = some run)
    (hphase : run.phase = .reloading side) : Moves s (.reload i ok) (reloads s i run ok side)

variable {a : Action}

theorem moves_of_runStep {s s' : State} {i : Nat} {run : Run}
    (hrun : s.runs[i]? = some run)
    (hnamed : a = .refuse i ∨ a = .look i ∨ a = .readFails i ∨ (∃ n, a = .read i n) ∨
      a = .readEnd i ∨ a = .create i ∨ (∃ n, a = .write i n) ∨ a = .rename i ∨ a = .fail i ∨
      ∃ ok, a = .reload i ok)
    (hstep : runStep s i run run.phase a = some s') : Moves s a s' := by
  rcases hnamed with rfl | rfl | rfl | ⟨n, rfl⟩ | rfl | rfl | ⟨n, rfl⟩ | rfl | rfl | ⟨ok, rfl⟩
  · cases hphase : run.phase with
    | called =>
      rw [hphase] at hstep
      cases hstep
      exact .refuse hrun hphase
    | _ => rw [hphase] at hstep; cases hstep
  · cases hphase : run.phase with
    | called =>
      rw [hphase, runStep] at hstep
      split at hstep
      · next hentry =>
        cases hstep
        exact .absent hrun hphase hentry
      · next k hentry =>
        cases hstep
        exact .look hrun hphase hentry
    | _ => rw [hphase] at hstep; cases hstep
  · cases hphase : run.phase with
    | called =>
      rw [hphase] at hstep
      cases hstep
      exact .readFails hrun (.inl hphase)
    | reading k acc =>
      rw [hphase] at hstep
      cases hstep
      exact .readFails hrun (.inr ⟨k, acc, hphase⟩)
    | _ => rw [hphase] at hstep; cases hstep
  · cases hphase : run.phase with
    | reading k acc =>
      rw [hphase] at hstep
      cases hstep
      exact .read hrun hphase
    | _ => rw [hphase] at hstep; cases hstep
  · cases hphase : run.phase with
    | reading k acc =>
      rw [hphase, runStep] at hstep
      split at hstep
      · cases hstep
      · next hend =>
        cases hstep
        exact .readEnd hrun hphase hend
    | _ => rw [hphase] at hstep; cases hstep
  · cases hphase : run.phase with
    | ready side =>
      rw [hphase] at hstep
      cases hstep
      exact .create hrun hphase
    | _ => rw [hphase] at hstep; cases hstep
  · cases hphase : run.phase with
    | writing side k offset =>
      rw [hphase, runStep] at hstep
      split at hstep
      · next hn =>
        cases hstep
        exact .write hrun hphase hn
      · cases hstep
    | _ => rw [hphase] at hstep; cases hstep
  · cases hphase : run.phase with
    | writing side k offset =>
      rw [hphase, runStep] at hstep
      split at hstep
      · next hall =>
        cases hstep
        exact .rename hrun hphase hall
      · cases hstep
    | _ => rw [hphase] at hstep; cases hstep
  · cases hphase : run.phase with
    | ready side =>
      rw [hphase] at hstep
      cases hstep
      exact .fail hrun (.inl hphase)
    | writing side k offset =>
      rw [hphase] at hstep
      cases hstep
      exact .fail hrun (.inr ⟨k, offset, hphase⟩)
    | _ => rw [hphase] at hstep; cases hstep
  · cases hphase : run.phase with
    | reloading side =>
      rw [hphase] at hstep
      cases hstep
      exact .reload hrun hphase
    | _ => rw [hphase] at hstep; cases hstep

/-- **What a step does**, with the call that does it. -/
theorem moves_of_step {s s' : State} (hstep : deployment.step s a = some s') :
    Moves s a s' := by
  cases a with
  | call content =>
    cases hstep
    exact .call content
  | _ =>
    obtain ⟨run, hrun, hstep⟩ := bind_eq_some_iff.mp hstep
    exact moves_of_runStep hrun (by simp) hstep

/-! ## The invariant

Where nobody else opens the temporary file, what is renamed is the whole text of one call. -/

/-- What holds of a call, wherever it is. -/
structure RunOk (s : State) (run : Run) : Prop where
  bounds : run.movesBefore ≤ s.moves ∧ run.movesAtRestore ≤ s.moves
  called : run.phase = .called → run.previous = none ∧
    (s.moves = run.movesBefore → s.disk.file .target = run.before)
  /-- The file that is read is not the temporary one. -/
  reading : ∀ k acc, run.phase = .reading k acc →
    k < s.disk.next ∧ s.disk.entry .temporary ≠ some k ∧ acc <+: s.disk.content k ∧
      Known s (s.disk.content k) ∧
      (run.movesAtLook = run.movesBefore → run.before = some (s.disk.content k))
  previous : ∀ content, run.previous = some content →
    Known s content ∧ (run.movesAtLook = run.movesBefore → run.before = some content)
  rollback : run.phase.isRollback = true ∨ run.phase = .reloading .previous →
    run.previous.isSome = true
  /-- The temporary file holds as much of the text as has been written. -/
  writing : ∀ side k offset, run.phase = .writing side k offset →
    s.disk.entry .temporary = some k ∧ offset ≤ (run.text side).length ∧
      s.disk.content k = (run.text side).take offset
  /-- What has been renamed is in place until the next rename. -/
  placed : ∀ side, run.phase = .reloading side → s.moves = run.movesAtRestore →
    s.disk.file .target = some (run.text side)

/-- What a step of a deployment keeps. -/
structure Inv (s : State) : Prop where
  whole : ∀ content, s.disk.file .target = some content → Known s content
  absent : s.disk.file .target = none → s.initial = none
  one : ∀ (i j : Nat) (run other : Run), s.runs[i]? = some run → s.runs[j]? = some other →
    run.phase.isWriting = true → other.phase.isWriting = true → i = j
  runs : ∀ (i : Nat) (run : Run), s.runs[i]? = some run → RunOk s run

theorem inv_init (target temporary : Option Bytes) : Inv (init target temporary) where
  whole content h := by
    rw [init_file] at h
    exact .inl h
  absent h := by
    rw [init_file] at h
    exact h
  one i j run other h := by cases h
  runs i run h := by cases h

section Step

variable {s s' : State} {i : Nat} {run : Run}

/-- What was known stays so when a call moves on with its text. -/
theorem Known.setRun {content : Bytes} (h : Known s content) (hrun : s.runs[i]? = some run)
    (new : Run) (hcontent : new.content = run.content)
    (hvalidated : run.phase.validated = true → new.phase.validated = true)
    (hinitial : s'.initial = s.initial) (hruns : s'.runs = s.runs.set i new) :
    Known s' content := by
  rcases h with h | ⟨other, hother, hphase, rfl⟩
  · exact .inl (hinitial.trans h)
  · obtain ⟨j, hj⟩ := mem_iff_getElem?.mp hother
    have hi : i < s.runs.length := (List.getElem?_eq_some_iff.mp hrun).1
    by_cases hij : j = i
    · subst hij
      obtain rfl := some.inj (hrun.symm.trans hj)
      refine .inr ⟨new, ?_, hvalidated hphase, hcontent⟩
      rw [hruns]
      exact List.mem_set hi _
    · refine .inr ⟨other, mem_iff_getElem?.mpr ⟨j, ?_⟩, hphase, rfl⟩
      rw [hruns, getElem?_set_ne (fun h => hij h.symm)]
      exact hj

/-- A call that does not move keeps what holds of it, when the files it has open keep what they hold
and the target only changes with a rename. -/
theorem RunOk.frame (h : RunOk s run) (hmoves : s.moves ≤ s'.moves)
    (htarget : s'.moves = s.moves → s'.disk.file .target = s.disk.file .target)
    (hknown : ∀ content, Known s content → Known s' content)
    (hread : ∀ k acc, run.phase = .reading k acc → k < s.disk.next →
      s.disk.entry .temporary ≠ some k → k < s'.disk.next ∧ s'.disk.entry .temporary ≠ some k ∧
        s'.disk.content k = s.disk.content k)
    (hwrite : ∀ side k offset, run.phase = .writing side k offset →
      s'.disk.entry .temporary = s.disk.entry .temporary ∧
        s'.disk.content k = s.disk.content k) : RunOk s' run where
  bounds := ⟨Nat.le_trans h.bounds.1 hmoves, Nat.le_trans h.bounds.2 hmoves⟩
  called hphase := by
    obtain ⟨hnone, hbefore⟩ := h.called hphase
    refine ⟨hnone, fun heq => ?_⟩
    have hsame : s'.moves = s.moves :=
      Nat.le_antisymm (Nat.le_trans (Nat.le_of_eq heq) h.bounds.1) hmoves
    rw [htarget hsame]
    exact hbefore (hsame.symm.trans heq)
  reading k acc hphase := by
    obtain ⟨hk, htemp, hacc, hk', hbefore⟩ := h.reading k acc hphase
    obtain ⟨hnext, htemp', hcontent⟩ := hread k acc hphase hk htemp
    rw [hcontent]
    exact ⟨hnext, htemp', hacc, hknown _ hk', hbefore⟩
  previous content hprevious :=
    ⟨hknown _ (h.previous content hprevious).1, (h.previous content hprevious).2⟩
  rollback := h.rollback
  writing side k offset hphase := by
    obtain ⟨hentry, hlength, hcontent⟩ := h.writing side k offset hphase
    obtain ⟨hentry', hcontent'⟩ := hwrite side k offset hphase
    exact ⟨hentry'.trans hentry, hlength, hcontent'.trans hcontent⟩
  placed side hphase heq := by
    have hsame : s'.moves = s.moves :=
      Nat.le_antisymm (Nat.le_trans (Nat.le_of_eq heq) h.bounds.2) hmoves
    rw [htarget hsame]
    exact h.placed side hphase (hsame.symm.trans heq)

/-- A step of a call that leaves the disk alone. -/
theorem Inv.setRun (h : Inv s) (hrun : s.runs[i]? = some run) (new : Run)
    (hcontent : new.content = run.content)
    (hvalidated : run.phase.validated = true → new.phase.validated = true)
    (hwriting : new.phase.isWriting = false) (hdisk : s'.disk = s.disk)
    (hmoves : s'.moves = s.moves) (hinitial : s'.initial = s.initial)
    (hruns : s'.runs = s.runs.set i new)
    (hnew : (∀ content, Known s content → Known s' content) → RunOk s' new) : Inv s' := by
  have hknown : ∀ content, Known s content → Known s' content :=
    fun _ hc => hc.setRun hrun new hcontent hvalidated hinitial hruns
  constructor
  case whole =>
    intro content hfile
    rw [hdisk] at hfile
    exact hknown _ (h.whole content hfile)
  case absent =>
    intro hfile
    rw [hdisk] at hfile
    rw [hinitial]
    exact h.absent hfile
  case one =>
    intro a b one other ha hb hone hother
    rw [hruns] at ha hb
    rcases set_eq_some ha with ⟨-, rfl⟩ | ⟨-, ha⟩
    · rw [hwriting] at hone
      cases hone
    · rcases set_eq_some hb with ⟨-, rfl⟩ | ⟨-, hb⟩
      · rw [hwriting] at hother
        cases hother
      · exact h.one a b one other ha hb hone hother
  case runs =>
    intro j other hj
    rw [hruns] at hj
    rcases set_eq_some hj with ⟨-, rfl⟩ | ⟨-, hj⟩
    · exact hnew hknown
    · refine (h.runs j other hj).frame (Nat.le_of_eq hmoves.symm) (fun _ => by rw [hdisk])
        hknown ?_ ?_
      · intro k acc _ hk htemp
        rw [hdisk]
        exact ⟨hk, htemp, rfl⟩
      · intro side k offset _
        rw [hdisk]
        exact ⟨rfl, rfl⟩

/-- A phase in which a call has no file open and nothing in place that may be put back. -/
def Phase.idle : Phase → Bool
  | .ready _ | .ended _ => true
  | _ => false

variable {phase : Phase} {k offset : Nat} {side : Side}

theorem RunOk.next (h : RunOk s run) (hmoves : s'.moves = s.moves)
    (hknown : ∀ content, Known s content → Known s' content) (hidle : phase.idle = true)
    (hrollback : phase.isRollback = true → run.previous.isSome = true) :
    RunOk s' { run with phase := phase } where
  bounds := hmoves ▸ h.bounds
  called hphase := by subst hphase; cases hidle
  reading k acc hphase := by subst hphase; cases hidle
  previous content hprevious :=
    ⟨hknown _ (h.previous content hprevious).1, (h.previous content hprevious).2⟩
  rollback hphase := by
    rcases hphase with hphase | hphase
    · exact hrollback hphase
    · subst hphase; cases hidle
  writing side k offset hphase := by subst hphase; cases hidle
  placed side hphase := by subst hphase; cases hidle

theorem Phase.validated_of_idle (h : phase.idle = true) (hnot : phase ≠ .ended .refused) :
    phase.validated = true := by
  cases phase with
  | ended outcome =>
    cases outcome with
    | refused => exact absurd rfl hnot
    | _ => rfl
  | called | reading k acc => cases h
  | _ => rfl

theorem Phase.not_writing_of_idle (h : phase.idle = true) : phase.isWriting = false := by
  cases phase with
  | writing side k offset => cases h
  | _ => rfl

section

variable (h : Inv s)
include h

/-- A call moves on to a phase in which it has no file open. -/
theorem Inv.idle (hrun : s.runs[i]? = some run) (hidle : phase.idle = true)
    (hvalidated : run.phase.validated = true → phase ≠ .ended .refused) (hdisk : s'.disk = s.disk)
    (hmoves : s'.moves = s.moves) (hinitial : s'.initial = s.initial)
    (hruns : s'.runs = s.runs.set i { run with phase := phase })
    (hrollback : phase.isRollback = true → run.previous.isSome = true) : Inv s' :=
  h.setRun hrun { run with phase := phase } rfl
    (fun hv => Phase.validated_of_idle hidle (hvalidated hv)) (Phase.not_writing_of_idle hidle)
    hdisk hmoves hinitial hruns
    fun hknown => (h.runs i run hrun).next hmoves hknown hidle hrollback

theorem Inv.throws (hrun : s.runs[i]? = some run) (renamed : Bool) :
    Inv (throws s i run renamed) :=
  h.idle hrun rfl (fun _ heq => by cases heq) rfl rfl rfl rfl (fun hr => by cases hr)

theorem Inv.call (content : Bytes) : Inv (s.call content) := by
  have hcases : ∀ {j : Nat} {other : Run}, (s.runs ++
      [⟨content, none, .called, s.disk.file .target, s.returned, s.moves, 0, 0⟩])[j]? = some other →
      s.runs[j]? = some other ∨
        other = ⟨content, none, .called, s.disk.file .target, s.returned, s.moves, 0, 0⟩ := by
    intro j other hj
    rw [getElem?_append] at hj
    split at hj
    · exact .inl hj
    · exact .inr (mem_singleton.mp (mem_of_getElem? hj))
  have hknown : ∀ c, Known s c → Known (s.call content) c := by
    rintro c (hc | ⟨other, hother, hrest⟩)
    · exact .inl hc
    · exact .inr ⟨other, mem_append_left _ hother, hrest⟩
  constructor
  case whole =>
    intro c hc
    exact hknown c (h.whole c hc)
  case absent => exact h.absent
  case one =>
    intro a b one other ha hb hone hother
    rcases hcases ha with ha | rfl
    · rcases hcases hb with hb | rfl
      · exact h.one a b one other ha hb hone hother
      · cases hother
    · cases hone
  case runs =>
    intro j other hj
    rcases hcases hj with hj | rfl
    · exact (h.runs j other hj).frame (Nat.le_refl _) (fun _ => rfl) hknown
        (fun k acc _ hk htemp => ⟨hk, htemp, rfl⟩) (fun side k offset _ => ⟨rfl, rfl⟩)
    · exact {
        bounds := ⟨Nat.le_refl _, Nat.zero_le _⟩
        called := fun _ => ⟨rfl, fun _ => rfl⟩
        reading := fun k acc hphase => by cases hphase
        previous := fun c hc => by cases hc
        rollback := fun hphase => by rcases hphase with hphase | hphase <;> cases hphase
        writing := fun side k offset hphase => by cases hphase
        placed := fun side hphase => by cases hphase }

section

variable (hrun : s.runs[i]? = some run)
include hrun

/-- The target is not there. -/
theorem Inv.absentTarget (hphase : run.phase = .called) :
    Inv (s.setRun i { run with phase := .ready .deployed, movesAtLook := s.moves }) := by
  have hok := h.runs i run hrun
  refine h.setRun hrun { run with phase := .ready .deployed, movesAtLook := s.moves } rfl
    (fun _ => rfl) rfl rfl rfl rfl rfl fun hknown => ?_
  exact {
    bounds := hok.bounds
    called := fun hp => by cases hp
    reading := fun k acc hp => by cases hp
    previous := fun c hc => by cases (hok.called hphase).1.symm.trans hc
    rollback := fun hp => by rcases hp with hp | hp <;> cases hp
    writing := fun side k offset hp => by cases hp
    placed := fun side hp => by cases hp }

theorem Inv.look (hphase : run.phase = .called) (hk : s.disk.entry .target = some k) :
    Inv (s.setRun i { run with phase := .reading k [], movesAtLook := s.moves }) := by
  have hok := h.runs i run hrun
  obtain ⟨hnone, hbefore⟩ := hok.called hphase
  have hfile : s.disk.file .target = some (s.disk.content k) := by
    rw [Disk.file, hk]
    rfl
  refine h.setRun hrun { run with phase := .reading k [], movesAtLook := s.moves } rfl
    (fun _ => rfl) rfl rfl rfl rfl rfl fun hknown => ?_
  exact {
    bounds := hok.bounds
    called := fun hp => by cases hp
    reading := fun k' acc hp => by
      obtain ⟨rfl, rfl⟩ := Phase.reading.inj hp
      refine ⟨s.disk.known _ _ hk, fun htemp => ?_, nil_prefix, hknown _ (h.whole _ hfile),
        fun hmoves => ?_⟩
      · cases s.disk.single _ _ _ hk htemp
      · rw [← hbefore hmoves]
        exact hfile
    previous := fun c hc => by cases hnone.symm.trans hc
    rollback := fun hp => by rcases hp with hp | hp <;> cases hp
    writing := fun side k offset hp => by cases hp
    placed := fun side hp => by cases hp }

theorem Inv.read {acc : Bytes} (hphase : run.phase = .reading k acc) (n : Nat) :
    Inv (s.setRun i
      { run with phase := .reading k (acc ++ ((s.disk.content k).drop acc.length).take n) }) := by
  have hok := h.runs i run hrun
  obtain ⟨hk, htemp, hacc, hknown', hbefore⟩ := hok.reading k acc hphase
  refine h.setRun hrun
    { run with phase := .reading k (acc ++ ((s.disk.content k).drop acc.length).take n) }
    rfl (fun _ => rfl) rfl rfl rfl rfl rfl fun hknown => ?_
  exact {
    bounds := hok.bounds
    called := fun hp => by cases hp
    reading := fun k' acc' hp => by
      obtain ⟨rfl, rfl⟩ := Phase.reading.inj hp
      refine ⟨hk, htemp, ?_, hknown _ hknown', hbefore⟩
      have htake : acc ++ ((s.disk.content k).drop acc.length).take n =
          (s.disk.content k).take (acc.length + n) := by
        rw [take_add, ← prefix_iff_eq_take.mp hacc]
      exact htake ▸ take_prefix _ _
    previous := fun c hc => ⟨hknown _ (hok.previous c hc).1, (hok.previous c hc).2⟩
    rollback := fun hp => by rcases hp with hp | hp <;> cases hp
    writing := fun side k offset hp => by cases hp
    placed := fun side hp => by cases hp }

/-- All of the file is read. -/
theorem Inv.readEnd {acc : Bytes}
    (hphase : run.phase = .reading k acc) (hend : ¬ acc.length < (s.disk.content k).length) :
    Inv (s.setRun i { run with phase := .ready .deployed, previous := some acc }) := by
  have hok := h.runs i run hrun
  obtain ⟨-, -, hacc, hknown', hbefore⟩ := hok.reading k acc hphase
  have hall : s.disk.content k = acc := (hacc.eq_of_length_le (Nat.not_lt.mp hend)).symm
  rw [hall] at hknown' hbefore
  refine h.setRun hrun { run with phase := .ready .deployed, previous := some acc } rfl
    (fun _ => rfl) rfl rfl rfl rfl rfl fun hknown => ?_
  exact {
    bounds := hok.bounds
    called := fun hp => by cases hp
    reading := fun k acc hp => by cases hp
    previous := fun c hc => by
      cases hc
      exact ⟨hknown _ hknown', hbefore⟩
    rollback := fun hp => by rcases hp with hp | hp <;> cases hp
    writing := fun side k offset hp => by cases hp
    placed := fun side hp => by cases hp }

/-- The only call that has the temporary file open writes to it. -/
theorem Inv.onTemporary
    (halone : ∀ j other, s.runs[j]? = some other → other.phase.isWriting = true → j = i)
    {disk : Disk Path} (hrollback : side = .previous → run.previous.isSome = true)
    (htarget : disk.file .target = s.disk.file .target) (hnext : s.disk.next ≤ disk.next)
    (hentry : disk.entry .temporary = some k) (hlength : offset ≤ (run.text side).length)
    (hcontent : disk.content k = (run.text side).take offset)
    (hothers : ∀ j, j < s.disk.next → s.disk.entry .temporary ≠ some j →
      k ≠ j ∧ disk.content j = s.disk.content j) :
    Inv ((s.setDisk disk).setRun i { run with phase := .writing side k offset }) := by
  have hok := h.runs i run hrun
  have hknown : ∀ content, Known s content → Known ((s.setDisk disk).setRun i
      { run with phase := .writing side k offset }) content :=
    fun _ hc => hc.setRun hrun { run with phase := .writing side k offset } rfl (fun _ => rfl)
      rfl rfl
  constructor
  case whole =>
    intro c hc
    exact hknown c (h.whole c (htarget.symm.trans hc))
  case absent =>
    intro hnone
    exact h.absent (htarget.symm.trans hnone)
  case one =>
    have hmover : ∀ j other, (s.runs.set i { run with phase := .writing side k offset })[j]? =
        some other → other.phase.isWriting = true → j = i := by
      intro j other hj hwriting
      rcases set_eq_some hj with ⟨rfl, -⟩ | ⟨-, hj⟩
      · rfl
      · exact halone j other hj hwriting
    intro a b one other ha hb hone hother
    rw [hmover a one ha hone, hmover b other hb hother]
  case runs =>
    intro j other hj
    rcases set_eq_some hj with ⟨-, rfl⟩ | ⟨hji, hj⟩
    · exact {
        bounds := hok.bounds
        called := fun hp => by cases hp
        reading := fun k acc hp => by cases hp
        previous := fun c hc => ⟨hknown _ (hok.previous c hc).1, (hok.previous c hc).2⟩
        rollback := fun hp => by
          rcases hp with hp | hp
          · cases side with
            | deployed => cases hp
            | previous => exact hrollback rfl
          · cases hp
        writing := fun side' k' offset' hp => by
          obtain ⟨rfl, rfl, rfl⟩ := Phase.writing.inj hp
          exact ⟨hentry, hlength, hcontent⟩
        placed := fun side hp => by cases hp }
    · refine (h.runs j other hj).frame (Nat.le_refl _) (fun _ => htarget) hknown ?_ ?_
      · intro k' acc _ hk' htemp
        obtain ⟨hne, hsame⟩ := hothers k' hk' htemp
        refine ⟨Nat.lt_of_lt_of_le hk' hnext, fun heq => ?_, hsame⟩
        exact hne (some.inj (hentry.symm.trans heq))
      · intro side' k' offset' hp
        exact absurd (halone j other hj (by rw [hp]; rfl)) hji

theorem Inv.create (hphase : run.phase = .ready side)
    (halone : ∀ other ∈ s.runs, other.phase.isWriting = false) :
    Inv ((s.setDisk (s.disk.create .temporary).1).setRun i
      { run with phase := .writing side (s.disk.create .temporary).2 0 }) := by
  refine h.onTemporary hrun (fun j other hj hwriting => ?_) (fun hside => ?_)
    (Disk.file_create_of_ne (by decide)) Disk.next_le_create Disk.create_entry_self (Nat.zero_le _)
    Disk.create_content_self
    (fun j hj htemp => ⟨Disk.create_ne hj htemp, Disk.create_content_of_ne hj htemp⟩)
  · rw [halone other (mem_of_getElem? hj)] at hwriting
    cases hwriting
  · exact (h.runs i run hrun).rollback (.inl (by rw [hphase, hside]; rfl))

theorem Inv.write {n : Nat}
    (hphase : run.phase = .writing side k offset) (hn : offset + n ≤ (run.text side).length) :
    Inv ((s.setDisk (s.disk.write k offset (((run.text side).drop offset).take n))).setRun i
      { run with phase := .writing side k (offset + n) }) := by
  have hok := h.runs i run hrun
  obtain ⟨hentry, hlength, hcontent⟩ := hok.writing side k offset hphase
  refine h.onTemporary hrun (fun j other hj hwriting => ?_) (fun hside => ?_)
    (Disk.file_write_of_ne (fun htarget => ?_) _ _) (Nat.le_refl _) hentry hn ?_
    (fun j hj htemp => ?_)
  · exact h.one j i other run hj hrun hwriting (by rw [hphase]; rfl)
  · exact hok.rollback (.inl (by rw [hphase, hside]; rfl))
  · cases s.disk.single _ _ _ htarget hentry
  · rw [Disk.write_content_self, hcontent, overwrite_take hlength]
  · have hne : j ≠ k := by
      rintro rfl
      exact htemp hentry
    exact ⟨hne.symm, Disk.write_content_of_ne hne _ _⟩

/-- The whole text is renamed onto the target. -/
theorem Inv.renames
    (hphase : run.phase = .writing side k offset) (hall : offset = (run.text side).length) :
    Inv (renames s i run side) := by
  have hok := h.runs i run hrun
  obtain ⟨hentry, -, hcontent⟩ := hok.writing side k offset hphase
  have htext : s.disk.file .temporary = some (run.text side) := by
    rw [Disk.file, hentry, map_some, hcontent, hall, take_length]
  rw [Deployment.renames]
  split
  · next hnone => exact absurd hnone (Disk.rename_ne_none hentry)
  · next disk hdisk =>
    have hfile : disk.file .target = some (run.text side) := (Disk.rename_file hdisk).trans htext
    have hfree : disk.entry .temporary = none := Disk.rename_entry hdisk (by decide)
    obtain ⟨-, -, hsame, hnext, -⟩ := Disk.rename_spec hdisk
    have hsome : side = .previous → run.previous = some (run.text side) := by
      rintro rfl
      obtain ⟨content, hp⟩ := isSome_iff_exists.mp
        (hok.rollback (.inl (by rw [hphase]; rfl)))
      rw [Run.text, hp]
      rfl
    have hknown : ∀ content, Known s content → Known ({ s with
        disk := disk, moves := s.moves + 1 }.setRun i
          { run with phase := .reloading side, movesAtRestore := s.moves + 1 }) content :=
      fun _ hc => hc.setRun hrun
        { run with phase := .reloading side, movesAtRestore := s.moves + 1 } rfl (fun _ => rfl)
        rfl rfl
    have hnow : Known s (run.text side) := by
      cases hside : side with
      | deployed =>
        exact .inr ⟨run, mem_of_getElem? hrun, by rw [hphase]; rfl, rfl⟩
      | previous =>
        rw [← hside]
        exact (hok.previous _ (hsome hside)).1
    constructor
    case whole =>
      intro c hc
      obtain rfl := some.inj (hfile.symm.trans hc)
      exact hknown _ hnow
    case absent =>
      intro hnone
      cases hfile.symm.trans hnone
    case one =>
      intro a b one other ha hb hone hother
      rcases set_eq_some ha with ⟨-, rfl⟩ | ⟨-, ha⟩
      · cases hone
      · rcases set_eq_some hb with ⟨-, rfl⟩ | ⟨-, hb⟩
        · cases hother
        · exact h.one a b one other ha hb hone hother
    case runs =>
      intro j other hj
      rcases set_eq_some hj with ⟨-, rfl⟩ | ⟨hji, hj⟩
      · exact {
          bounds := ⟨Nat.le_succ_of_le hok.bounds.1, Nat.le_refl _⟩
          called := fun hp => by cases hp
          reading := fun k acc hp => by cases hp
          previous := fun c hc => ⟨hknown _ (hok.previous c hc).1, (hok.previous c hc).2⟩
          rollback := fun hp => by
            rcases hp with hp | hp
            · cases hp
            · rw [hsome (Phase.reloading.inj hp)]
              rfl
          writing := fun side k offset hp => by cases hp
          placed := fun side' hp _ => by
            obtain rfl := Phase.reloading.inj hp
            exact hfile }
      · refine (h.runs j other hj).frame (Nat.le_succ _) (fun heq => ?_) hknown ?_ ?_
        · exact absurd heq (Nat.succ_ne_self _)
        · intro k' acc _ hk' _
          refine ⟨Nat.lt_of_lt_of_eq hk' hnext.symm, fun htemp => ?_, by
            show disk.content k' = s.disk.content k'
            rw [hsame]⟩
          cases hfree.symm.trans htemp
        · intro side' k' offset' hp
          exact absurd (h.one j i other run hj hrun (by rw [hp]; rfl) (by rw [hphase]; rfl)) hji

theorem Inv.reloads (side : Side) (ok : Bool) :
    Inv (reloads s i run ok side) := by
  cases side with
  | deployed =>
    rw [Deployment.reloads]
    split
    · exact h.idle hrun rfl (fun _ heq => by cases heq) rfl rfl rfl rfl (fun hr => by cases hr)
    · split
      · next content hprevious =>
        exact h.idle hrun rfl (fun _ heq => by cases heq) rfl rfl rfl rfl
          (fun _ => by rw [hprevious]; rfl)
      · exact h.throws hrun true
  | previous => exact h.throws hrun true

end

/-- **What a step keeps** when the temporary file is opened while nobody is writing it. -/
theorem inv_step (hexclusive : Exclusive s a) (hstep : deployment.step s a = some s') : Inv s' := by
  cases moves_of_step hstep with
  | call content => exact h.call content
  | refuse hrun hphase =>
    exact h.idle hrun rfl (fun hv => by rw [hphase] at hv; cases hv) rfl rfl rfl rfl
      (fun hr => by cases hr)
  | absent hrun hphase hentry => exact h.absentTarget hrun hphase
  | look hrun hphase hentry => exact h.look hrun hphase hentry
  | readFails hrun hphase =>
    exact h.idle hrun rfl (fun _ heq => by cases heq) rfl rfl rfl rfl (fun hr => by cases hr)
  | read hrun hphase => exact h.read hrun hphase _
  | readEnd hrun hphase hend => exact h.readEnd hrun hphase hend
  | create hrun hphase => exact h.create hrun hphase hexclusive
  | write hrun hphase hn => exact h.write hrun hphase hn
  | rename hrun hphase hall => exact h.renames hrun hphase hall
  | fail hrun hphase => exact h.throws hrun _
  | reload hrun hphase => exact h.reloads hrun _ _

end

/-! ## What a call that throws leaves -/

/-- A rollback that is through leaves the target as it was. -/
theorem Inv.left (h : Inv s) (hrun : s.runs[i]? = some run)
    (hphase : run.phase = .reloading .previous) (hundisturbed : Undisturbed s run) :
    s.disk.file .target = run.before := by
  have hok := h.runs i run hrun
  obtain ⟨content, hprevious⟩ := isSome_iff_exists.mp (hok.rollback (.inr hphase))
  rw [hok.placed .previous hphase hundisturbed.2,
    (hok.previous content hprevious).2 hundisturbed.1, Run.text, hprevious]
  rfl

/-- Every call that has thrown after its rename has left what there was. -/
def Restored (s : State) : Prop :=
  ∀ run ∈ s.runs, ∀ left returned, run.phase = .ended (.threw true left returned) →
    returned = run.returnedBefore → left = run.before

section

variable (h : Restored s)
include h

theorem Restored.set {new : Run} (hruns : s'.runs = s.runs.set i new)
    (hnew : ∀ left returned, new.phase = .ended (.threw true left returned) →
      returned = new.returnedBefore → left = new.before) : Restored s' := by
  intro other hmem
  rw [hruns] at hmem
  rcases mem_or_eq_of_mem_set hmem with hold | rfl
  · exact h other hold
  · exact hnew

theorem Restored.throws {renamed : Bool} (hleft : renamed = true →
    s.returned = run.returnedBefore → s.disk.file .target = run.before) :
    Restored (throws s i run renamed) := by
  refine h.set rfl fun left returned heq hreturned => ?_
  obtain ⟨rfl, rfl, rfl⟩ := Outcome.threw.inj (Phase.ended.inj heq)
  exact hleft rfl hreturned

theorem Restored.renames (hinv : Inv s) (hrun : s.runs[i]? = some run)
    (hphase : run.phase = .writing side k offset) : Restored (renames s i run side) := by
  have hentry := ((hinv.runs i run hrun).writing side k offset hphase).1
  rw [Deployment.renames]
  split
  · next hnone => exact absurd hnone (Disk.rename_ne_none hentry)
  · exact h.set rfl fun _ _ heq => by cases heq

theorem Restored.reloads (hinv : Inv s) (hrun : s.runs[i]? = some run) {ok : Bool}
    (hphase : run.phase = .reloading side) (hrestoring : Restoring s (.reload i ok)) :
    Restored (reloads s i run ok side) := by
  obtain ⟨hfirst, hsecond⟩ := hrestoring run hrun
  cases side with
  | deployed =>
    rw [Deployment.reloads]
    split
    · exact h.set rfl fun _ _ heq => by cases heq
    · next hok =>
      split
      · exact h.set rfl fun _ _ heq => by cases heq
      · next hprevious =>
        exact h.throws fun _ heq =>
          absurd heq (hfirst hphase (Bool.not_eq_true _ ▸ hok) hprevious)
  | previous =>
    refine h.throws fun _ heq => ?_
    rcases hsecond hphase with hundisturbed | hothers
    · exact hinv.left hrun hphase hundisturbed
    · exact absurd heq hothers

theorem Restored.fail (hrun : s.runs[i]? = some run)
    (hphase : run.phase = .ready side ∨ ∃ k offset, run.phase = .writing side k offset)
    (hrestoring : Restoring s (.fail i)) : Restored (Deployment.throws s i run side.renamed) := by
  refine h.throws fun hrenamed heq => ?_
  cases side with
  | deployed => cases hrenamed
  | previous =>
    refine absurd heq (hrestoring run hrun ?_)
    rcases hphase with hphase | ⟨k, offset, hphase⟩
    · rw [hphase]
      rfl
    · rw [hphase]
      rfl

theorem restored_step (hinv : Inv s) (hrestoring : Restoring s a)
    (hstep : deployment.step s a = some s') : Restored s' := by
  cases moves_of_step hstep with
  | call content =>
    intro other hmem left returned heq
    rcases mem_append.mp hmem with hold | hnew
    · exact h other hold left returned heq
    · obtain rfl := mem_singleton.mp hnew
      cases heq
  | refuse | absent | look | readFails | read | readEnd | create | write =>
    exact h.set rfl fun _ _ heq => by cases heq
  | rename hrun hphase hall => exact h.renames hinv hrun hphase
  | fail hrun hphase => exact h.fail hrun hphase hrestoring
  | reload hrun hphase => exact h.reloads hinv hrun hphase hrestoring

end

end Step

/-- **A deployment is all or nothing** in every run in which the temporary file is opened while
nobody is writing it and, unless another call has returned since: a call whose reload fails has read
a file to put back, its rollback does not fail, and nobody renames between it and what it
restores. -/
theorem all_or_nothing (target temporary : Option Bytes) (as : List Action) (s : State)
    (horderly : deployment.Along Orderly (init target temporary) as)
    (hrun : deployment.run (init target temporary) as = some s) : AllOrNothing s := by
  have hinit : Inv (init target temporary) ∧ Restored (init target temporary) :=
    ⟨inv_init target temporary, fun _ hmem => by cases hmem⟩
  obtain ⟨hinv, hrestored⟩ := deployment.invariant_along (I := fun s => Inv s ∧ Restored s)
    (fun _ _ _ hi hp hs => ⟨inv_step hi.1 hp.1 hs, restored_step hi.2 hi.1 hp.2 hs⟩)
    hinit horderly hrun
  exact ⟨hinv.whole, hinv.absent, hrestored⟩

/-! ## Three runs -/

/-- A deployment is called while another one reloads; both fail, and put back what they read. -/
def overlapping : List Action :=
  [.call [1, 1], .look 0, .read 0 9, .readEnd 0, .create 0, .write 0 1, .write 0 1, .rename 0,
    .reload 0 false, .create 0, .write 0 1, .rename 0, .reload 0 false,
    .call [2, 2, 2], .look 1, .read 1 9, .readEnd 1, .create 1, .call [3], .write 1 3, .rename 1,
    .reload 1 true, .look 2, .read 2 9, .readEnd 2, .create 2, .write 2 1, .rename 2]

theorem overlapping_all_or_nothing : ∃ s,
    deployment.run (init (some [0]) (some [7, 7])) overlapping = some s ∧ AllOrNothing s := by
  obtain ⟨s, hs, -⟩ := deployment.exists_run (s := init (some [0]) (some [7, 7]))
    (w := overlapping) (fun s => decide (s.disk.file .target = some [3])) (by decide +kernel)
  exact ⟨s, hs, all_or_nothing _ _ overlapping s
    (deployment.along_of_check _ (by decide +kernel)) hs⟩

/-- The first deployment, which the engine does not come back from. -/
def first : List Action :=
  [.call [1, 1], .look 0, .create 0, .write 0 2, .rename 0, .reload 0 false]

/-- The call throws and says it was rolled back, and its text stays. -/
theorem first_deployment_stays : ∃ s,
    deployment.run (init none none) first = some s ∧ ¬ AllOrNothing s := by
  obtain ⟨s, hs, hcheck⟩ := deployment.exists_run (s := init none none) (w := first)
    (fun s => decide (∃ run ∈ s.runs, run.phase = .ended (.threw true (some [1, 1]) 0) ∧
      run.returnedBefore = 0 ∧ run.before = none)) (by decide +kernel)
  obtain ⟨run, hmem, hphase, hreturned, hbefore⟩ := of_decide_eq_true hcheck
  refine ⟨s, hs, fun h => ?_⟩
  have heq := h.restored run hmem _ _ hphase hreturned.symm
  rw [hbefore] at heq
  cases heq

end Jkannel.Configuration.Deployment
