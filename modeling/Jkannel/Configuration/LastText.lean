import Jkannel.Configuration.Deployment

/-!
# Deployments one at a time

When the calls that work on the engine's file do so one at a time, what the target holds while
nobody is at work is the text of the call that returned last, whatever failed in between.

* `Serial` is that condition, with the two failures a call cannot undo ruled out.
* `SerialInv` is the invariant: before its rename the call at work finds the last text in the
  target, and from then on the last text is what it would put back.
-/

namespace Jkannel.Configuration.Deployment

open List Option
open Files
open Updates (set_eq_some)

/-- From the opening of the target to the end of the call. -/
def Phase.working : Phase → Bool
  | .reading _ _ | .ready _ | .writing _ _ _ | .reloading _ => true
  | .called | .ended _ => false

/-- Nobody else is at work. -/
def Alone (s : State) (i : Nat) : Prop :=
  ∀ j ∈ List.range s.runs.length, ∀ other ∈ s.runs[j]?, other.phase.working = true → j = i

/-- One call at a time works on the file, one whose reload fails has read what it puts back, and no
rollback fails. -/
def Serial (s : State) : Action → Prop
  | .look i | .readFails i => Alone s i
  | .fail i => ∀ run ∈ s.runs[i]?, run.phase.isRollback = false
  | .reload i ok => ∀ run ∈ s.runs[i]?, run.phase = .reloading .deployed → ok = false →
      run.previous.isSome = true
  | _ => True

instance (s : State) (i : Nat) : Decidable (Alone s i) :=
  inferInstanceAs (Decidable (∀ j ∈ List.range s.runs.length, _))

instance (s : State) (a : Action) : Decidable (Serial s a) :=
  match a with
  | .look i | .readFails i => inferInstanceAs (Decidable (Alone s i))
  | .fail i => inferInstanceAs (Decidable (∀ run ∈ s.runs[i]?, run.phase.isRollback = false))
  | .reload i ok => inferInstanceAs (Decidable (∀ run ∈ s.runs[i]?,
      run.phase = .reloading .deployed → ok = false → run.previous.isSome = true))
  | .call _ | .refuse _ | .read .. | .readEnd _ | .create _ | .write .. | .rename _ =>
    inferInstanceAs (Decidable True)

/-- What the target holds, and what would be put back, when `c` is the last text. -/
def WorkOk (s : State) (run : Run) (c : Bytes) : Prop :=
  match run.phase with
  | .called | .ended _ => True
  | .reading k _ => s.disk.file .target = some c ∧ s.disk.content k = c ∧
      ∀ p ∈ run.previous, p = c
  | .ready .deployed | .writing .deployed _ _ => s.disk.file .target = some c ∧
      ∀ p ∈ run.previous, p = c
  | .reloading .deployed => s.disk.file .target = some run.content ∧ ∀ p ∈ run.previous, p = c
  | .ready .previous | .writing .previous _ _ => run.previous = some c
  | .reloading .previous => s.disk.file .target = some c

/-- The invariant with one call at a time. -/
structure SerialInv (s : State) : Prop where
  inv : Inv s
  only : ∀ (i j : Nat) (run other : Run), s.runs[i]? = some run → s.runs[j]? = some other →
    run.phase.working = true → other.phase.working = true → i = j
  idle : (∀ run ∈ s.runs, run.phase.working = false) → ∀ c, s.last = some c →
    s.disk.file .target = some c
  work : ∀ (i : Nat) (run : Run), s.runs[i]? = some run → ∀ c, s.last = some c → WorkOk s run c
  placed : ∀ (i : Nat) (run : Run), s.runs[i]? = some run → run.phase = .reloading .deployed →
    s.disk.file .target = some run.content

theorem serialInv_init (target temporary : Option Bytes) : SerialInv (init target temporary) where
  inv := inv_init target temporary
  only i j run other h := by cases h
  idle _ c h := by cases h
  work i run h := by cases h
  placed i run h := by cases h

section Step

variable {s s' : State} {i : Nat} {run new : Run}

theorem workOk_of_not_working {c : Bytes} (h : run.phase.working = false) : WorkOk s run c := by
  rw [WorkOk]
  cases hphase : run.phase with
  | called | ended outcome => trivial
  | _ =>
    rw [hphase] at h
    cases h

/-- A call that is at work is alone, and one that begins to be is asked to. -/
theorem SerialInv.alone (h : SerialInv s) (hrun : s.runs[i]? = some run)
    (hworking : run.phase.working = true) (j : Nat) (other : Run) (hj : s.runs[j]? = some other)
    (hother : other.phase.working = true) : j = i :=
  h.only j i other run hj hrun hother hworking

theorem Alone.eq (h : Alone s i) (j : Nat) (other : Run) (hj : s.runs[j]? = some other)
    (hother : other.phase.working = true) : j = i :=
  h j (mem_range.mpr (List.getElem?_eq_some_iff.mp hj).1) other hj hother

/-- The one call at work makes a step. -/
theorem SerialInv.set (hinv : Inv s') (hrun : s.runs[i]? = some run)
    (hruns : s'.runs = s.runs.set i new)
    (halone : ∀ j other, s.runs[j]? = some other → other.phase.working = true → j = i)
    (hwork : ∀ c, s'.last = some c → WorkOk s' new c)
    (hplaced : new.phase = .reloading .deployed → s'.disk.file .target = some new.content)
    (hidle : new.phase.working = false → ∀ c, s'.last = some c → s'.disk.file .target = some c) :
    SerialInv s' where
  inv := hinv
  only a b one other ha hb hone hother := by
    have hmover : ∀ j other, s'.runs[j]? = some other → other.phase.working = true → j = i := by
      intro j other hj hworking
      rw [hruns] at hj
      rcases set_eq_some hj with ⟨rfl, -⟩ | ⟨-, hj⟩
      · rfl
      · exact halone j other hj hworking
    rw [hmover a one ha hone, hmover b other hb hother]
  idle hall := by
    have hi : i < s.runs.length := (List.getElem?_eq_some_iff.mp hrun).1
    exact hidle (hall new (by rw [hruns]; exact List.mem_set hi _))
  work j other hj c hc := by
    rw [hruns] at hj
    rcases set_eq_some hj with ⟨-, rfl⟩ | ⟨hji, hj⟩
    · exact hwork c hc
    · refine workOk_of_not_working (Bool.not_eq_true _ ▸ fun hworking => ?_)
      exact hji (halone j other hj hworking)
  placed j other hj hphase := by
    rw [hruns] at hj
    rcases set_eq_some hj with ⟨-, rfl⟩ | ⟨hji, hj⟩
    · exact hplaced hphase
    · exact absurd (halone j other hj (by rw [hphase]; rfl)) hji

/-- A call that is not at work ends. -/
theorem SerialInv.refuse (h : SerialInv s) (hinv : Inv s') (hruns : s'.runs = s.runs.set i new)
    (hold : s.runs[i]? = some run) (hwas : run.phase.working = false)
    (hnew : new.phase.working = false) (hdisk : s'.disk = s.disk) (hlast : s'.last = s.last) :
    SerialInv s' where
  inv := hinv
  only a b one other ha hb hone hother := by
    rw [hruns] at ha hb
    rcases set_eq_some ha with ⟨-, rfl⟩ | ⟨-, ha⟩
    · rw [hnew] at hone
      cases hone
    · rcases set_eq_some hb with ⟨-, rfl⟩ | ⟨-, hb⟩
      · rw [hnew] at hother
        cases hother
      · exact h.only a b one other ha hb hone hother
  idle hall c hc := by
    rw [hlast] at hc
    rw [hdisk]
    refine h.idle (fun other hmem => ?_) c hc
    obtain ⟨j, hj⟩ := mem_iff_getElem?.mp hmem
    by_cases hji : j = i
    · subst hji
      obtain rfl := some.inj (hold.symm.trans hj)
      exact hwas
    · refine hall other (mem_iff_getElem?.mpr ⟨j, ?_⟩)
      rw [hruns, getElem?_set_ne (fun heq => hji heq.symm)]
      exact hj
  work j other hj c hc := by
    rw [hruns] at hj
    rw [hlast] at hc
    rcases set_eq_some hj with ⟨-, rfl⟩ | ⟨-, hj⟩
    · exact workOk_of_not_working hnew
    · have hok := h.work j other hj c hc
      unfold WorkOk at hok ⊢
      rw [hdisk]
      exact hok
  placed j other hj hphase := by
    rw [hruns] at hj
    rw [hdisk]
    rcases set_eq_some hj with ⟨-, rfl⟩ | ⟨-, hj⟩
    · rw [hphase] at hnew
      cases hnew
    · exact h.placed j other hj hphase

theorem SerialInv.call (h : SerialInv s) (content : Bytes) : SerialInv (s.call content) where
  inv := h.inv.call content
  only a b one other ha hb hone hother := by
    have hold : ∀ {j : Nat} {other : Run}, (s.call content).runs[j]? = some other →
        other.phase.working = true → s.runs[j]? = some other := by
      intro j other hj hworking
      rw [State.call, getElem?_append] at hj
      split at hj
      · exact hj
      · obtain rfl := mem_singleton.mp (mem_of_getElem? hj)
        cases hworking
    exact h.only a b one other (hold ha hone) (hold hb hother) hone hother
  idle hall := h.idle fun other hmem => hall other (mem_append_left _ hmem)
  work j other hj c hc := by
    rw [State.call, getElem?_append] at hj
    split at hj
    · exact h.work j other hj c hc
    · obtain rfl := mem_singleton.mp (mem_of_getElem? hj)
      trivial
  placed j other hj hphase := by
    rw [State.call, getElem?_append] at hj
    split at hj
    · exact h.placed j other hj hphase
    · obtain rfl := mem_singleton.mp (mem_of_getElem? hj)
      cases hphase

variable {a : Action} {k : Nat} {side : Side}

section

variable (h : SerialInv s)
include h

/-- Whoever opens the temporary file is the one at work. -/
theorem SerialInv.exclusive (hstep : deployment.step s a = some s') :
    Exclusive s a := by
  cases moves_of_step hstep with
  | create hrun hphase =>
    intro other hmem
    by_contra hwriting
    rw [Bool.not_eq_false] at hwriting
    obtain ⟨j, hj⟩ := mem_iff_getElem?.mp hmem
    have hworking : other.phase.working = true := by
      cases hother : other.phase with
      | writing side k offset => rfl
      | _ => rw [hother] at hwriting; cases hwriting
    obtain rfl := h.alone hrun (by rw [hphase]; rfl) j other hj hworking
    obtain rfl := some.inj (hrun.symm.trans hj)
    rw [hphase] at hwriting
    cases hwriting
  | _ => trivial

section

variable (hrun : s.runs[i]? = some run)
include hrun

/-- A call throws; what is in the target is the last text. -/
theorem SerialInv.throws (hworking : run.phase.working = true) (renamed : Bool)
    (hleft : ∀ c, s.last = some c → s.disk.file .target = some c) :
    SerialInv (throws s i run renamed) :=
  .set (h.inv.throws hrun renamed) hrun rfl (h.alone hrun hworking) (fun _ _ => trivial)
    (fun heq => by cases heq) (fun _ => hleft)

/-- The target holds the last text when a call that is not at work is alone. -/
theorem SerialInv.still
    (hwas : run.phase.working = false) (halone : Alone s i) (c : Bytes) (hc : s.last = some c) :
    s.disk.file .target = some c := by
  refine h.idle (fun other hmem => ?_) c hc
  obtain ⟨j, hj⟩ := mem_iff_getElem?.mp hmem
  rw [← Bool.not_eq_true]
  intro hworking
  obtain rfl := halone.eq j other hj hworking
  obtain rfl := some.inj (hrun.symm.trans hj)
  rw [hwas] at hworking
  cases hworking

theorem SerialInv.absentTarget (hphase : run.phase = .called) (halone : Alone s i) :
    SerialInv (s.setRun i { run with phase := .ready .deployed, movesAtLook := s.moves }) := by
  refine .set (h.inv.absentTarget hrun hphase) hrun rfl halone.eq (fun c hc => ⟨?_, ?_⟩)
    (fun heq => by cases heq) (fun hnot => by cases hnot)
  · exact h.still hrun (by rw [hphase]; rfl) halone c hc
  · intro p hp
    cases ((h.inv.runs i run hrun).called hphase).1.symm.trans hp

theorem SerialInv.look
    (hphase : run.phase = .called) (hk : s.disk.entry .target = some k) (halone : Alone s i) :
    SerialInv (s.setRun i { run with phase := .reading k [], movesAtLook := s.moves }) := by
  refine .set (h.inv.look hrun hphase hk) hrun rfl halone.eq (fun c hc => ?_)
    (fun heq => by cases heq) (fun hnot => by cases hnot)
  have hfile := h.still hrun (by rw [hphase]; rfl) halone c hc
  refine ⟨hfile, ?_, fun p hp => ?_⟩
  · rw [Disk.file, hk] at hfile
    exact some.inj hfile
  · cases ((h.inv.runs i run hrun).called hphase).1.symm.trans hp

end

theorem SerialInv.readFails (hinv : Inv (s.setRun i
    { run with phase := .ready .deployed })) (hrun : s.runs[i]? = some run)
    (hphase : run.phase = .called ∨ ∃ k acc, run.phase = .reading k acc) (halone : Alone s i) :
    SerialInv (s.setRun i { run with phase := .ready .deployed }) := by
  refine .set hinv hrun rfl halone.eq (fun c hc => ?_) (fun heq => by cases heq)
    (fun hnot => by cases hnot)
  rcases hphase with hphase | ⟨k, acc, hphase⟩
  · refine ⟨h.still hrun (by rw [hphase]; rfl) halone c hc, fun p hp => ?_⟩
    cases ((h.inv.runs i run hrun).called hphase).1.symm.trans hp
  · have hok := h.work i run hrun c hc
    rw [WorkOk, hphase] at hok
    exact ⟨hok.1, hok.2.2⟩

section

variable (hrun : s.runs[i]? = some run)
include hrun

theorem SerialInv.read {acc : Bytes} (hphase : run.phase = .reading k acc) (n : Nat) :
    SerialInv (s.setRun i
      { run with phase := .reading k (acc ++ ((s.disk.content k).drop acc.length).take n) }) := by
  refine .set (h.inv.read hrun hphase n) hrun rfl (h.alone hrun (by rw [hphase]; rfl))
    (fun c hc => ?_) (fun heq => by cases heq) (fun hnot => by cases hnot)
  have hok := h.work i run hrun c hc
  rw [WorkOk, hphase] at hok
  exact hok

theorem SerialInv.readEnd {acc : Bytes}
    (hphase : run.phase = .reading k acc) (hend : ¬ acc.length < (s.disk.content k).length) :
    SerialInv (s.setRun i { run with phase := .ready .deployed, previous := some acc }) := by
  refine .set (h.inv.readEnd hrun hphase hend) hrun rfl (h.alone hrun (by rw [hphase]; rfl))
    (fun c hc => ?_) (fun heq => by cases heq) (fun hnot => by cases hnot)
  have hok := h.work i run hrun c hc
  rw [WorkOk, hphase] at hok
  obtain ⟨hfile, hcontent, -⟩ := hok
  obtain ⟨-, -, hacc, -⟩ := (h.inv.runs i run hrun).reading k acc hphase
  refine ⟨hfile, fun p hp => ?_⟩
  cases hp
  rw [hacc.eq_of_length_le (Nat.not_lt.mp hend), hcontent]

/-- A step of the call at work on the temporary file. -/
theorem SerialInv.onTemporary
    (hphase : run.phase = .ready side ∨ ∃ k offset, run.phase = .writing side k offset)
    {disk : Disk Path} (htarget : disk.file .target = s.disk.file .target) {offset : Nat}
    (hinv : Inv ((s.setDisk disk).setRun i { run with phase := .writing side k offset })) :
    SerialInv ((s.setDisk disk).setRun i { run with phase := .writing side k offset }) := by
  have hworking : run.phase.working = true := by
    rcases hphase with hphase | ⟨k, offset, hphase⟩ <;> rw [hphase] <;> rfl
  refine .set hinv hrun rfl (h.alone hrun hworking) (fun c hc => ?_) (fun heq => by cases heq)
    (fun hnot => by cases hnot)
  have hok := h.work i run hrun c hc
  cases side with
  | deployed =>
    have hboth : s.disk.file .target = some c ∧ ∀ p ∈ run.previous, p = c := by
      rcases hphase with hphase | ⟨k, offset, hphase⟩ <;> rw [WorkOk, hphase] at hok <;> exact hok
    exact ⟨htarget.trans hboth.1, hboth.2⟩
  | previous =>
    have hprevious : run.previous = some c := by
      rcases hphase with hphase | ⟨k, offset, hphase⟩ <;> rw [WorkOk, hphase] at hok <;> exact hok
    exact hprevious

theorem SerialInv.renames {offset : Nat}
    (hphase : run.phase = .writing side k offset) (hall : offset = (run.text side).length) :
    SerialInv (renames s i run side) := by
  have hinv := h.inv.renames hrun hphase hall
  have hentry := ((h.inv.runs i run hrun).writing side k offset hphase).1
  have halone := h.alone hrun (by rw [hphase]; rfl)
  obtain ⟨disk, hdisk⟩ := ne_none_iff_exists'.mp
    (Disk.rename_ne_none (q := Path.target) hentry)
  rw [renames_eq hdisk] at hinv ⊢
  have hi : i < s.runs.length := (List.getElem?_eq_some_iff.mp hrun).1
  have hfile := (hinv.runs i _ (getElem?_set_self hi)).placed side rfl rfl
  cases side with
  | deployed =>
    refine .set hinv hrun rfl halone (fun c hc => ⟨hfile, ?_⟩) (fun _ => hfile)
      (fun hnot => by cases hnot)
    have hok := h.work i run hrun c hc
    rw [WorkOk, hphase] at hok
    exact hok.2
  | previous =>
    refine .set hinv hrun rfl halone (fun c hc => ?_) (fun heq => by cases heq)
      (fun hnot => by cases hnot)
    have hok := h.work i run hrun c hc
    rw [WorkOk, hphase] at hok
    refine hfile.trans ?_
    show some (run.previous.getD []) = some c
    rw [hok]
    rfl

theorem SerialInv.fail
    (hphase : run.phase = .ready side ∨ ∃ k offset, run.phase = .writing side k offset)
    (hserial : run.phase.isRollback = false) :
    SerialInv (Deployment.throws s i run side.renamed) := by
  have hworking : run.phase.working = true := by
    rcases hphase with hphase | ⟨k, offset, hphase⟩ <;> rw [hphase] <;> rfl
  refine h.throws hrun hworking _ fun c hc => ?_
  have hok := h.work i run hrun c hc
  cases side with
  | deployed =>
    rcases hphase with hphase | ⟨k, offset, hphase⟩ <;> rw [WorkOk, hphase] at hok <;> exact hok.1
  | previous =>
    rcases hphase with hphase | ⟨k, offset, hphase⟩ <;> rw [hphase] at hserial <;> cases hserial

theorem SerialInv.reloads {ok : Bool} (hphase : run.phase = .reloading side)
    (hserial : run.phase = .reloading .deployed → ok = false → run.previous.isSome = true) :
    SerialInv (reloads s i run ok side) := by
  have hworking : run.phase.working = true := by rw [hphase]; rfl
  have hinv := h.inv.reloads hrun side ok
  cases side with
  | deployed =>
    cases ok with
    | true =>
      refine .set hinv hrun rfl (h.alone hrun hworking) (fun _ _ => trivial)
        (fun heq => by cases heq) (fun _ c hc => ?_)
      cases hc
      exact h.placed i run hrun hphase
    | false =>
      obtain ⟨content, hprevious⟩ := isSome_iff_exists.mp (hserial hphase rfl)
      rw [reloads_back hprevious] at hinv ⊢
      refine .set hinv hrun rfl (h.alone hrun hworking) (fun c hc => ?_)
        (fun heq => by cases heq) (fun hnot => by cases hnot)
      have hwork := h.work i run hrun c hc
      rw [WorkOk, hphase] at hwork
      show run.previous = some c
      rw [hprevious, hwork.2 content hprevious]
  | previous =>
    refine h.throws hrun hworking true fun c hc => ?_
    have hwork := h.work i run hrun c hc
    rw [WorkOk, hphase] at hwork
    exact hwork

end

theorem serial_step (hserial : Serial s a)
    (hstep : deployment.step s a = some s') : SerialInv s' := by
  have hinv : Inv s' := inv_step h.inv (h.exclusive hstep) hstep
  cases moves_of_step hstep with
  | call content => exact h.call content
  | refuse hrun hphase => exact h.refuse hinv rfl hrun (by rw [hphase]; rfl) rfl rfl rfl
  | absent hrun hphase hentry => exact h.absentTarget hrun hphase hserial
  | look hrun hphase hentry => exact h.look hrun hphase hentry hserial
  | readFails hrun hphase => exact h.readFails hinv hrun hphase hserial
  | read hrun hphase => exact h.read hrun hphase _
  | readEnd hrun hphase hend => exact h.readEnd hrun hphase hend
  | create hrun hphase =>
    exact h.onTemporary hrun (.inl hphase) (Disk.file_create_of_ne (by decide)) hinv
  | write hrun hphase hn =>
    have hentry := ((h.inv.runs _ _ hrun).writing _ _ _ hphase).1
    refine h.onTemporary hrun (.inr ⟨_, _, hphase⟩) (Disk.file_write_of_ne (fun htarget => ?_) _ _)
      hinv
    cases s.disk.single _ _ _ htarget hentry
  | rename hrun hphase hall => exact h.renames hrun hphase hall
  | fail hrun hphase => exact h.fail hrun hphase (hserial _ hrun)
  | reload hrun hphase => exact h.reloads hrun hphase (hserial _ hrun)

end

/-! ## The calls themselves -/

def Phase.isEnded : Phase → Bool
  | .ended _ => true
  | _ => false

/-- A step that is not a new call moves one call that is not over; either nobody returns by it, or
that one does. -/
theorem step_set (hstep : deployment.step s a = some s') (hnew : ∀ content, a ≠ .call content) :
    ∃ i run new, s.runs[i]? = some run ∧ run.phase.isEnded = false ∧
      s'.runs = s.runs.set i new ∧ new.content = run.content ∧
      ((s'.returned = s.returned ∧ s'.last = s.last ∧ ∀ n, new.phase ≠ .ended (.returned n)) ∨
        (s'.returned = s.returned + 1 ∧ s'.last = some run.content ∧
          new.phase = .ended (.returned (s.returned + 1)))) := by
  cases moves_of_step hstep with
  | call content => exact absurd rfl (hnew content)
  | refuse hrun hphase | absent hrun hphase _ | look hrun hphase _ | read hrun hphase
  | readEnd hrun hphase _ | create hrun hphase | write hrun hphase _ =>
    exact ⟨_, _, _, hrun, by rw [hphase]; rfl, rfl, rfl, .inl ⟨rfl, rfl, by simp⟩⟩
  | readFails hrun hphase =>
    refine ⟨_, _, _, hrun, ?_, rfl, rfl, .inl ⟨rfl, rfl, by simp⟩⟩
    rcases hphase with hphase | ⟨k, acc, hphase⟩ <;> rw [hphase] <;> rfl
  | fail hrun hphase =>
    refine ⟨_, _, _, hrun, ?_, rfl, rfl, .inl ⟨rfl, rfl, by simp⟩⟩
    rcases hphase with hphase | ⟨k, offset, hphase⟩ <;> rw [hphase] <;> rfl
  | rename hrun hphase _ =>
    rw [Deployment.renames]
    split
    all_goals exact ⟨_, _, _, hrun, by rw [hphase]; rfl, rfl, rfl, .inl ⟨rfl, rfl, by simp⟩⟩
  | @reload i run side ok hrun hphase =>
    have hnot : run.phase.isEnded = false := by rw [hphase]; rfl
    cases side with
    | previous => exact ⟨_, _, _, hrun, hnot, rfl, rfl, .inl ⟨rfl, rfl, by simp⟩⟩
    | deployed =>
      cases ok with
      | true => exact ⟨_, _, _, hrun, hnot, rfl, rfl, .inr ⟨rfl, rfl, rfl⟩⟩
      | false =>
        cases hprevious : run.previous with
        | none =>
          rw [Deployment.reloads, hprevious]
          exact ⟨_, _, _, hrun, hnot, rfl, rfl, .inl ⟨rfl, rfl, by simp⟩⟩
        | some content =>
          rw [reloads_back hprevious]
          exact ⟨_, _, _, hrun, hnot, rfl, rfl, .inl ⟨rfl, rfl, by simp⟩⟩

/-- A call keeps its text, and one that is over stays as it is. -/
theorem step_run (hstep : deployment.step s a = some s') (hnew : ∀ content, a ≠ .call content)
    {j : Nat} {other : Run} (hj : s.runs[j]? = some other) :
    ∃ other', s'.runs[j]? = some other' ∧ other'.content = other.content ∧
      (other.phase.isEnded = true → other' = other) := by
  obtain ⟨i, run, new, hrun, hnot, hruns, hcontent, -⟩ := step_set hstep hnew
  have hi : i < s.runs.length := (List.getElem?_eq_some_iff.mp hrun).1
  by_cases hji : j = i
  · subst hji
    obtain rfl := some.inj (hrun.symm.trans hj)
    refine ⟨new, by rw [hruns, getElem?_set_self hi], hcontent, fun hended => ?_⟩
    rw [hnot] at hended
    cases hended
  · refine ⟨other, ?_, rfl, fun _ => rfl⟩
    rw [hruns, getElem?_set_ne (fun heq => hji heq.symm), hj]

/-- The calls that have returned are counted, and the text of the last is kept. -/
def Counted (s : State) : Prop :=
  ∀ (i : Nat) (run : Run) (n : Nat), s.runs[i]? = some run → run.phase = .ended (.returned n) →
    1 ≤ n ∧ n ≤ s.returned ∧ (n = s.returned → s.last = some run.content)

theorem counted_call (h : Counted s) (content : Bytes) : Counted (s.call content) := by
  intro j other n hj hphase
  rw [State.call, getElem?_append] at hj
  split at hj
  · exact h j other n hj hphase
  · obtain rfl := mem_singleton.mp (mem_of_getElem? hj)
    cases hphase

theorem counted_step (h : Counted s) (hstep : deployment.step s a = some s')
    (hnew : ∀ content, a ≠ .call content) : Counted s' := by
  obtain ⟨i, run, new, hrun, -, hruns, hcontent, hcount⟩ := step_set hstep hnew
  intro j other n hj hphase
  rw [hruns] at hj
  rcases hcount with ⟨hreturned, hlast, hnone⟩ | ⟨hreturned, hlast, hnow⟩
  · rw [hreturned, hlast]
    rcases set_eq_some hj with ⟨-, rfl⟩ | ⟨-, hj⟩
    · exact absurd hphase (hnone n)
    · exact h j other n hj hphase
  · rw [hreturned, hlast]
    rcases set_eq_some hj with ⟨-, rfl⟩ | ⟨-, hj⟩
    · rw [hnow] at hphase
      obtain rfl := Outcome.returned.inj (Phase.ended.inj hphase)
      exact ⟨Nat.succ_le_succ (Nat.zero_le _), Nat.le_refl _, fun _ => congrArg some hcontent.symm⟩
    · obtain ⟨hn, hle, -⟩ := h j other n hj hphase
      exact ⟨hn, Nat.le_succ_of_le hle, fun heq => absurd heq (by omega)⟩

end Step

end Jkannel.Configuration.Deployment
