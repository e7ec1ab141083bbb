import Jkannel.Configuration.Lifecycle

/-!
# Rolling back to a version

A rollback reads a version, has its text validated, creates a new version of the same content with
the id of the old one in it, approves that one and deploys it.  The new row is refused when its
scope has a version of the same checksum, and the second rollback to a version has the content of
the first.

* `Served` is a step of the rollback itself while nothing fails: the validator accepts, every
  transaction is committed, the engine's file can be read and written, and the engine reloads.
* `Available` is what is asked: the rollback ends, and however it is served it ends well, with the
  text of the version deployed and in the engine's file.
* `Taken` is what is in the way, and `rollback_available_iff` the result.
* `Stage` is what holds of the rollback in each of its phases, and `going_step` what a step keeps.
-/

namespace Jkannel.Configuration.Versions

open Option (any_some bind_none bind_some getD_some isSome_some map_some some.inj)
open List
open Files (Bytes)
open Transition (Ack)
open Deployment (renames_eq runStep)

/-! ## Available -/

/-- No transaction holds a row. -/
def Unlocked (s : State) : Prop := ∀ id, s.locked id = none

/-- A rollback is asked for. -/
def State.askRollback (s : State) (actor : String) (id : Nat) : State :=
  { s with calls := s.calls ++ [⟨actor, true, .rollback id⟩] }

/-- A step of the `i`th request, or of the call of `deploy` it makes, while nothing fails. -/
def Served (i run : Nat) : Action → Prop
  | .read j result => j = i ∧ result.isSome = true
  | .select j | .lockRow j | .resume j => j = i
  | .commit j ack => j = i ∧ ack = .ok
  | .engine (.look j) | .engine (.read j _) | .engine (.readEnd j) | .engine (.create j)
  | .engine (.write j _) | .engine (.rename j) => j = run
  | .engine (.reload j ok) => j = run ∧ ok = true
  | _ => False

/-- The rollback that is asked for is served by these steps alone, and they leave this state. -/
def Serves (w : Service) (s : State) (actor : String) (id : Nat) (as : List Action) (t : State) :
    Prop :=
  (versions w).Along (fun _ => Served s.calls.length s.engine.runs.length)
    (s.askRollback actor id) as ∧ (versions w).run (s.askRollback actor id) as = some t

/-- Its request is over. -/
def Over (s t : State) (ok : Bool) : Prop :=
  (t.calls[s.calls.length]?).map Call.phase = some (.ended ok)

/-- A text is the one that is deployed in a scope, and the engine's file holds it. -/
structure Restored (t : State) (scope text : String) : Prop where
  deployed : ∃ (k : Nat) (u : Version), t.versions[k]? = some u ∧ u.scope = scope ∧
    u.status = .deployed ∧ rendered u.content = some text ∧
      ∀ (l : Nat) (v : Version), t.versions[l]? = some v → v.scope = scope →
        v.status = .deployed → l = k
  file : t.engine.disk.file .target = some (bytes text)

/-- **A rollback to a version is available.** -/
structure Available (w : Service) (s : State) (actor : String) (id : Nat) (scope text : String) :
    Prop where
  ends : ∃ as t ok, Serves w s actor id as t ∧ Over s t ok
  restores : ∀ as t ok, Serves w s actor id as t → Over s t ok → ok = true ∧ Restored t scope text

/-- `{ ...target.content, rollbackOf: target.id }`. -/
def rollbackContent (w : Service) (id : Nat) (v : Version) : Content :=
  put v.content "rollbackOf" (.string (w.uuid id))

/-- The scope has a version with the checksum that the new one would have. -/
def Taken (w : Service) (s : State) (id : Nat) (v : Version) : Prop :=
  ∃ u ∈ s.versions, u.scope = v.scope ∧ u.checksum = checksum w (rollbackContent w id v)

instance (w : Service) (s : State) (id : Nat) (v : Version) : Decidable (Taken w s id v) :=
  inferInstanceAs (Decidable (∃ u ∈ s.versions, _))

/-! ## The content of a rollback -/

theorem lookup_put_of_ne {content : Content} {key other : String} {value : Value}
    (h : other ≠ key) : (put content key value).lookup other = content.lookup other := by
  have hmap : (content.map fun p => if p.1 = key then (key, value) else p).lookup other =
      content.lookup other := by
    induction content with
    | nil => rfl
    | cons p content ih =>
      rw [map_cons]
      by_cases hp : p.1 = key
      · rw [if_pos hp, lookup_cons, lookup_cons, beq_eq_false_iff_ne.mpr h,
          beq_eq_false_iff_ne.mpr (by rw [hp]; exact h), ih]
      · rw [if_neg hp, lookup_cons, lookup_cons, ih]
  rw [put]
  split
  · exact hmap
  · rw [lookup_append, lookup_cons, beq_eq_false_iff_ne.mpr h]
    exact Option.or_none

theorem keyLe_of_eq {p q : String × Value} (h : p.1 = q.1) : keyLe p q = true := by
  simp [keyLe, h]

section

variable (content : Content)
include content

/-- The properties of one key keep their order. -/
theorem insertionSort_filter_key (key : String) :
    (content.insertionSort fun p q => keyLe p q = true).filter (fun p => p.1 == key) =
      content.filter fun p => p.1 == key := by
  have hsub : (content.filter fun p => p.1 == key).Sublist
      (content.insertionSort fun p q => keyLe p q = true) := by
    refine sublist_insertionSort ?_ filter_sublist
    refine pairwise_of_forall_mem_list fun p hp q hq => keyLe_of_eq ?_
    rw [beq_iff_eq.mp (mem_filter.mp hp).2, beq_iff_eq.mp (mem_filter.mp hq).2]
  have hsub' := hsub.filter fun p => p.1 == key
  rw [filter_filter] at hsub'
  simp only [Bool.and_self] at hsub'
  exact (hsub'.eq_of_length ((perm_insertionSort _ content).filter _).length_eq.symm).symm

theorem lookup_eq_head_filter (key : String) :
    content.lookup key = ((content.filter fun p => p.1 == key).head?).map Prod.snd := by
  induction content with
  | nil => rfl
  | cons p content ih =>
    rw [lookup_cons, filter_cons]
    by_cases h : p.1 = key
    · rw [beq_iff_eq.mpr h, beq_iff_eq.mpr h.symm]
      rfl
    · rw [beq_eq_false_iff_ne.mpr h, beq_eq_false_iff_ne.mpr fun heq => h heq.symm]
      exact ih

theorem lookup_map_snd (f : String × Value → Value) (key : String) :
    (content.map fun p => (p.1, f p)).lookup key =
      (content.lookup key).map fun value => f (key, value) := by
  induction content with
  | nil => rfl
  | cons p content ih =>
    rw [map_cons, lookup_cons, lookup_cons]
    by_cases h : key = p.1
    · rw [beq_iff_eq.mpr h, h]
      rfl
    · rw [beq_eq_false_iff_ne.mpr h]
      exact ih

@[simp] theorem rendered_put (value : Value) :
    rendered (put content "rollbackOf" value) = rendered content := by
  rw [rendered, rendered, lookup_put_of_ne (by decide)]

end

/-- A jsonb column keeps the text. -/
@[simp] theorem rendered_jsonb (w : Service) (content : Content) :
    rendered (jsonb w content) = rendered content := by
  have hlookup : (content.insertionSort fun p q => keyLe p q = true).lookup "rendered" =
      content.lookup "rendered" := by
    rw [lookup_eq_head_filter, lookup_eq_head_filter, insertionSort_filter_key]
  rw [rendered, rendered, jsonb, lookup_map_snd, hlookup]
  cases content.lookup "rendered" with
  | none => rfl
  | some value => cases value <;> rfl

/-! ## The deployment of the text -/

/-- Where the text of a deployment is. -/
def Placed (e : Deployment.State) (content : Bytes) : Deployment.Phase → Prop
  | .called | .reading _ _ | .ready .deployed => True
  | .writing .deployed k offset => e.disk.entry .temporary = some k ∧
      offset ≤ content.length ∧ e.disk.content k = content.take offset
  | .reloading .deployed | .ended (.returned _) => e.disk.file .target = some content
  | _ => False

/-- A deployment puts its text in place. -/
def Placing (e : Deployment.State) (run : Nat) (content : Bytes) : Prop :=
  ∃ r, e.runs[run]? = some r ∧ r.content = content ∧ Placed e content r.phase

/-- The deployment has returned, and the target has its text. -/
def InPlace (e : Deployment.State) (run : Nat) (content : Bytes) : Prop :=
  (∃ r n, e.runs[run]? = some r ∧ r.phase = .ended (.returned n)) ∧
    e.disk.file .target = some content

section Placing

variable {e e' : Deployment.State} {run : Nat} {content : Bytes} {a : Deployment.Action} {i : Nat}

theorem placing_setRun {r new : Deployment.Run} (hr : e.runs[run]? = some r)
    (hruns : e'.runs = e.runs.set run new) (hcontent : new.content = content)
    (hplaced : Placed e' content new.phase) : Placing e' run content := by
  refine ⟨new, ?_, hcontent, hplaced⟩
  rw [hruns, getElem?_set_self (List.getElem?_eq_some_iff.mp hr).1]

/-- **What a step of the deployment keeps**, while nothing fails. -/
theorem Placing.step (h : Placing e run content) (hserved : Served i run (.engine a))
    (hstep : Deployment.deployment.step e a = some e') : Placing e' run content := by
  obtain ⟨r, hr, hcontent, hplaced⟩ := h
  have hsame : ∀ {r' : Deployment.Run}, e.runs[run]? = some r' → r' = r := fun hr' =>
    some.inj (hr'.symm.trans hr)
  cases Deployment.moves_of_step hstep with
  | call | refuse | readFails | fail => exact hserved.elim
  | absent hrun _ _ | look hrun _ _ | read hrun _ | readEnd hrun _ =>
    obtain rfl : _ = run := hserved
    obtain rfl := hsame hrun
    exact placing_setRun hr rfl hcontent trivial
  | create hrun hphase =>
    rename_i j r' side
    obtain rfl : j = run := hserved
    obtain rfl := hsame hrun
    rw [hphase] at hplaced
    cases side with
    | previous => exact hplaced.elim
    | deployed =>
      refine placing_setRun hr rfl hcontent ⟨Files.Disk.create_entry_self, Nat.zero_le _, ?_⟩
      rw [take_zero]
      exact Files.Disk.create_content_self
  | write hrun hphase hn =>
    rename_i j k offset n r' side
    obtain rfl : j = run := hserved
    obtain rfl := hsame hrun
    rw [hphase] at hplaced
    cases side with
    | previous => exact hplaced.elim
    | deployed =>
      obtain ⟨hentry, -, hwritten⟩ := hplaced
      rw [Deployment.Run.text, hcontent] at hn
      refine placing_setRun hr rfl hcontent ⟨hentry, hn, ?_⟩
      show (e.disk.write k offset _).content k = _
      rw [Files.Disk.write_content_self, hwritten, Deployment.Run.text, hcontent,
        Files.overwrite_take (by omega)]
  | rename hrun hphase hall =>
    rename_i j k offset r' side
    obtain rfl : j = run := hserved
    obtain rfl := hsame hrun
    rw [hphase] at hplaced
    cases side with
    | previous => exact hplaced.elim
    | deployed =>
      obtain ⟨hentry, -, hwritten⟩ := hplaced
      obtain ⟨disk, hdisk⟩ := Option.ne_none_iff_exists'.mp
        (Files.Disk.rename_ne_none (q := .target) hentry)
      rw [renames_eq hdisk]
      refine placing_setRun hr rfl hcontent ?_
      show disk.file .target = some content
      rw [Files.Disk.rename_file hdisk, Files.Disk.file, hentry, map_some, hwritten, hall,
        Deployment.Run.text, hcontent, take_length]
  | reload hrun hphase =>
    rename_i j r' side ok
    obtain ⟨rfl, rfl⟩ := hserved
    obtain rfl := hsame hrun
    rw [hphase] at hplaced
    cases side with
    | previous => exact hplaced.elim
    | deployed => exact placing_setRun hr rfl hcontent hplaced

/-- A deployment that has returned takes no step. -/
theorem InPlace.no_step (h : InPlace e run content)
    (hserved : Served i run (.engine a)) : Deployment.step e a = none := by
  obtain ⟨⟨r, n, hr, hphase⟩, -⟩ := h
  have hnone : ∀ a, runStep e run r r.phase a = none := fun a => by
    rw [hphase]
    cases a <;> rfl
  cases a with
  | look j | read j | readEnd j | create j | write j | rename j =>
    obtain rfl : j = run := hserved
    rw [Deployment.step, hr, bind_some, hnone]
  | reload j ok =>
    obtain rfl : j = run := hserved.1
    rw [Deployment.step, hr, bind_some, hnone]
  | _ => exact hserved.elim

/-- One that has not been called takes none. -/
theorem no_step_of_new (hserved : Served i e.runs.length (.engine a)) :
    Deployment.step e a = none := by
  have hnone : e.runs[e.runs.length]? = none := getElem?_eq_none (Nat.le_refl _)
  cases a with
  | look j | read j | readEnd j | create j | write j | rename j =>
    obtain rfl : j = e.runs.length := hserved
    rw [Deployment.step, hnone, bind_none]
  | reload j ok =>
    obtain rfl : j = e.runs.length := hserved.1
    rw [Deployment.step, hnone, bind_none]
  | _ => exact hserved.elim

end Placing

/-! ## The stages of a rollback -/

/-- What is known of the new row. -/
def Row (w : Service) (s₀ : State) (id : Nat) (v : Version) (text : String) (status : Status)
    (s : State) : Prop :=
  ∃ u, s.versions[s₀.versions.length]? = some u ∧ u.scope = v.scope ∧
    rendered u.content = some text ∧ u.checksum = checksum w (rollbackContent w id v) ∧
      u.status = status

/-- What holds in each phase of a rollback to `v` that began in `s₀`. -/
def Stage (w : Service) (s₀ : State) (id : Nat) (v : Version) (text : String) (s : State) :
    Phase → Prop
  | .rollback k => k = id ∧ s.versions = s₀.versions ∧ s.engine = s₀.engine ∧ Unlocked s
  | .create scope content => scope = v.scope ∧ content = rollbackContent w id v ∧
      s.versions = s₀.versions ∧ s.engine = s₀.engine ∧ Unlocked s
  | .insert scope content number => scope = v.scope ∧ content = rollbackContent w id v ∧
      number = nextNumber s₀ v.scope ∧ s.versions = s₀.versions ∧ s.engine = s₀.engine ∧ Unlocked s
  | .approve k | .approveUpdate k => k = s₀.versions.length ∧ Row w s₀ id v text .draft s ∧
      s.engine = s₀.engine ∧ Unlocked s
  | .deploy k => k = s₀.versions.length ∧ Row w s₀ id v text .approved s ∧
      s.engine = s₀.engine ∧ Unlocked s
  | .engine k run => k = s₀.versions.length ∧ run = s₀.engine.runs.length ∧
      Row w s₀ id v text .approved s ∧ Placing s.engine run (bytes text) ∧ Unlocked s
  | .mark k _ => k = s₀.versions.length ∧ Row w s₀ id v text .approved s ∧
      InPlace s.engine s₀.engine.runs.length (bytes text) ∧ Unlocked s
  | .supersede k _ scope => k = s₀.versions.length ∧ scope = v.scope ∧
      Row w s₀ id v text .approved s ∧ InPlace s.engine s₀.engine.runs.length (bytes text) ∧
        Unlocked s
  | .lock k _ scope todo done => k = s₀.versions.length ∧ scope = v.scope ∧
      Row w s₀ id v text .approved s ∧ InPlace s.engine s₀.engine.runs.length (bytes text) ∧
        (∀ l j, s.locked l = some j → j = s₀.calls.length) ∧
          ∀ l ∈ deployedIn s scope, l ∈ done ∨ l ∈ todo
  | .ended ok => ok = true ∧ InPlace s.engine s₀.engine.runs.length (bytes text) ∧
      Row w s₀ id v text .deployed s ∧ Restored s v.scope text
  | _ => False

/-- The rollback is in one of its phases, and what belongs to it holds. -/
def Going (w : Service) (s₀ : State) (actor : String) (id : Nat) (v : Version) (text : String)
    (s : State) : Prop :=
  ∃ phase, s.calls[s₀.calls.length]? = some ⟨actor, true, phase⟩ ∧ Stage w s₀ id v text s phase

section Stages

variable {w : Service} {s₀ s s' : State} {actor : String} {id : Nat} {v : Version} {text : String}
  {phase : Phase}

theorem going_set (hcall : s.calls[s₀.calls.length]? = some ⟨actor, true, phase⟩) {next : Phase}
    (hcalls : s'.calls = s.calls.set s₀.calls.length ⟨actor, true, next⟩)
    (hstage : Stage w s₀ id v text s' next) : Going w s₀ actor id v text s' := by
  refine ⟨next, ?_, hstage⟩
  rw [hcalls, getElem?_set_self (List.getElem?_eq_some_iff.mp hcall).1]

/-- The number of the new version is above every other one of its scope. -/
theorem number_lt_next (s : State) {u : Version} (hmem : u ∈ s.versions) :
    u.number < nextNumber s u.scope := by
  have hfold : ∀ (l : List Version) (n : Nat), n ≤ l.foldl (fun n v => max n v.number) n ∧
      ∀ u ∈ l, u.number ≤ l.foldl (fun n v => max n v.number) n := by
    intro l
    induction l with
    | nil => exact fun n => ⟨Nat.le_refl n, fun u hu => by cases hu⟩
    | cons a l ih =>
      intro n
      obtain ⟨hle, hall⟩ := ih (max n a.number)
      refine ⟨(Nat.le_max_left _ _).trans hle, fun u hu => ?_⟩
      rcases mem_cons.mp hu with rfl | hu
      · exact (Nat.le_max_right _ _).trans hle
      · exact hall u hu
  rw [nextNumber]
  exact Nat.lt_succ_of_le ((hfold _ 0).2 u (mem_filter.mpr ⟨hmem, beq_self_eq_true _⟩))

/-- Only the checksum can be in the way. -/
theorem clashes_next_iff : clashes w s v.scope (rollbackContent w id v) (nextNumber s v.scope) =
    true ↔ Taken w s id v := by
  rw [clashes, any_eq_true]
  constructor
  · rintro ⟨u, hmem, h⟩
    simp only [Bool.and_eq_true, Bool.or_eq_true, beq_iff_eq] at h
    obtain ⟨hscope, hnumber | hchecksum⟩ := h
    · have hlt := number_lt_next s hmem
      rw [hscope, hnumber] at hlt
      exact absurd hlt (Nat.lt_irrefl _)
    · exact ⟨u, hmem, hscope, hchecksum⟩
  · rintro ⟨u, hmem, hscope, hchecksum⟩
    exact ⟨u, hmem, by simp [hscope, hchecksum]⟩

theorem not_clashes (hfree : ¬ Taken w s₀ id v) (hversions : s.versions = s₀.versions) :
    clashes w s v.scope (rollbackContent w id v) (nextNumber s₀ v.scope) = false := by
  rw [← Bool.not_eq_true, clashes, hversions]
  exact fun h => hfree (clashes_next_iff.mp h)

theorem status_of_mem_deployedIn {scope : String} {k : Nat} (h : k ∈ deployedIn s scope) :
    s.versions[k]?.map Version.status = some .deployed := by
  have hany := (mem_filter.mp h).2
  cases hk : s.versions[k]? with
  | none => rw [hk] at hany; cases hany
  | some u =>
    rw [hk, any_some, Bool.and_eq_true, beq_iff_eq, beq_iff_eq] at hany
    rw [map_some, hany.2]

theorem not_held (h : Unlocked s) (i k : Nat) : held s i k = false := by
  rw [held, h k]
  rfl

theorem stage_read {result : Option Value} (hv : s₀.versions[id]? = some v)
    (htext : rendered v.content = some text)
    (hcall : s.calls[s₀.calls.length]? = some ⟨actor, true, phase⟩)
    (hstage : Stage w s₀ id v text s phase) (hresult : result.isSome = true)
    (hstep : callStep w s s₀.calls.length ⟨actor, true, phase⟩ phase
      (.read s₀.calls.length result) = some s') : Going w s₀ actor id v text s' := by
  cases phase with
  | rollback k =>
    obtain ⟨rfl, hversions, hengine, hlocked⟩ := hstage
    have hread : s.versions[k]? = some v := by rw [hversions]; exact hv
    simp only [callStep, hread, htext, hresult, isSome_some, and_self, if_true] at hstep
    cases hstep
    exact going_set hcall rfl ⟨rfl, rfl, hversions, hengine, hlocked⟩
  | deploy k =>
    obtain ⟨rfl, ⟨u, hu, hscope, hrendered, hchecksum, hstatus⟩, hengine, hlocked⟩ := hstage
    simp only [callStep, hu, hrendered, hstatus] at hstep
    cases hstep
    refine going_set hcall rfl ⟨rfl, by rw [hengine],
      ⟨u, hu, hscope, hrendered, hchecksum, hstatus⟩, ?_, hlocked⟩
    exact ⟨_, getElem?_concat_length, rfl, trivial⟩
  | validate => exact hstage.elim
  | _ => cases hstep

theorem stage_select (hcall : s.calls[s₀.calls.length]? = some ⟨actor, true, phase⟩)
    (hstage : Stage w s₀ id v text s phase)
    (hstep : callStep w s s₀.calls.length ⟨actor, true, phase⟩ phase
      (.select s₀.calls.length) = some s') : Going w s₀ actor id v text s' := by
  cases phase with
  | create scope content =>
    obtain ⟨rfl, rfl, hversions, hengine, hlocked⟩ := hstage
    cases hstep
    refine going_set hcall rfl ⟨rfl, rfl, ?_, hversions, hengine, hlocked⟩
    rw [nextNumber, nextNumber, hversions]
  | approve k =>
    obtain ⟨rfl, ⟨u, hu, hscope, hrendered, hchecksum, hstatus⟩, hengine, hlocked⟩ := hstage
    simp only [callStep, hu, hstatus, true_or, if_true] at hstep
    cases hstep
    exact going_set hcall rfl
      ⟨rfl, ⟨u, hu, hscope, hrendered, hchecksum, hstatus⟩, hengine, hlocked⟩
  | mark k run =>
    obtain ⟨rfl, ⟨u, hu, hscope, hrendered, hchecksum, hstatus⟩, hplace, hlocked⟩ := hstage
    simp only [callStep, hu, hstatus, if_true] at hstep
    cases hstep
    exact going_set hcall rfl
      ⟨rfl, hscope, ⟨u, hu, hscope, hrendered, hchecksum, hstatus⟩, hplace, hlocked⟩
  | supersede k run scope =>
    obtain ⟨rfl, rfl, hrow, hplace, hlocked⟩ := hstage
    cases hstep
    refine going_set hcall rfl ⟨rfl, rfl, hrow, hplace, fun l j hl => ?_, fun l hl => .inr hl⟩
    exact absurd (hl.symm.trans (hlocked l)) (Option.some_ne_none j)
  | validateSelect => exact hstage.elim
  | _ => cases hstep

/-- The new row in an updated table. -/
theorem Row.update {status status' : Status} {f : Nat → Version → Version}
    (h : Row w s₀ id v text status s) (hversions : s'.versions = (s.update f).versions)
    (hf : ∀ u : Version, u.status = status → (f s₀.versions.length u).scope = u.scope ∧
      (f s₀.versions.length u).content = u.content ∧
        (f s₀.versions.length u).checksum = u.checksum ∧
          (f s₀.versions.length u).status = status') : Row w s₀ id v text status' s' := by
  obtain ⟨u, hu, hscope, hrendered, hchecksum, hstatus⟩ := h
  obtain ⟨hscope', hcontent', hchecksum', hstatus'⟩ := hf u hstatus
  refine ⟨f s₀.versions.length u, ?_, hscope'.trans hscope, by rw [hcontent', hrendered],
    hchecksum'.trans hchecksum, hstatus'⟩
  rw [hversions, update_versions, hu]
  rfl

/-- Where the text is deployed. -/
theorem restored_deployedRow {done : List Nat} (hrow : Row w s₀ id v text .approved s)
    (hplace : InPlace s.engine s₀.engine.runs.length (bytes text))
    (hdone : ∀ l ∈ deployedIn s v.scope, l ∈ done)
    (hversions : s'.versions = (s.update (deployedRow s₀.versions.length done actor)).versions)
    (hengine : s'.engine = s.engine) :
    Row w s₀ id v text .deployed s' ∧ Restored s' v.scope text := by
  have hnew : Row w s₀ id v text .deployed s' := by
    refine hrow.update hversions fun u _ => ?_
    rw [deployedRow, if_pos rfl]
    exact ⟨rfl, rfl, rfl, rfl⟩
  refine ⟨hnew, ?_, by rw [hengine]; exact hplace.2⟩
  obtain ⟨u, hu, hscope, hrendered, -, hstatus⟩ := hnew
  refine ⟨_, u, hu, hscope, hstatus, hrendered, fun l other hother hsame hdeployed => ?_⟩
  rw [hversions] at hother
  obtain ⟨old, hold, rfl⟩ := update_cases hother
  rw [deployedRow_scope] at hsame
  rcases deployedRow_cases hdeployed with hl | ⟨-, hnot, hstill, -⟩
  · exact hl
  · exact absurd (hdone l (mem_deployedIn hold hsame hstill)) hnot

theorem stage_commit (hfree : ¬ Taken w s₀ id v) (htext : rendered v.content = some text)
    (hcall : s.calls[s₀.calls.length]? = some ⟨actor, true, phase⟩)
    (hstage : Stage w s₀ id v text s phase)
    (hstep : callStep w s s₀.calls.length ⟨actor, true, phase⟩ phase
      (.commit s₀.calls.length .ok) = some s') : Going w s₀ actor id v text s' := by
  cases phase with
  | insert scope content number =>
    obtain ⟨rfl, rfl, rfl, hversions, hengine, hlocked⟩ := hstage
    have hclash := not_clashes hfree hversions
    simp only [callStep, hclash, Ack.committed, Bool.not_true, Bool.or_self, Bool.false_eq_true,
      if_false] at hstep
    cases hstep
    refine going_set hcall rfl ⟨by rw [hversions], ?_, hengine, hlocked⟩
    refine ⟨newVersion w v.scope (rollbackContent w id v) (nextNumber s₀ v.scope), ?_, rfl, ?_,
      rfl, rfl⟩
    · show (s.versions ++ [_])[s₀.versions.length]? = _
      rw [← hversions]
      exact getElem?_concat_length
    · rw [newVersion, rendered_jsonb, rollbackContent, rendered_put, htext]
  | approveUpdate k =>
    obtain ⟨rfl, hrow, hengine, hlocked⟩ := hstage
    simp only [callStep, not_held hlocked, Ack.committed, Bool.false_eq_true, if_false,
      if_true] at hstep
    cases hstep
    refine going_set hcall rfl ⟨rfl, hrow.update rfl fun u _ => ?_, hengine, hlocked⟩
    rw [approvedRow, if_pos rfl]
    exact ⟨rfl, rfl, rfl, rfl⟩
  | lock k run scope todo done =>
    obtain ⟨rfl, rfl, hrow, hplace, -, hfound⟩ := hstage
    rw [callStep] at hstep
    split at hstep
    · cases hstep
    · next hready =>
      cases hstep
      simp only [Bool.or_eq_true, Bool.not_eq_true', isEmpty_eq_false_iff, not_or,
        not_not] at hready
      refine going_set hcall rfl ⟨rfl, hplace, ?_⟩
      refine restored_deployedRow hrow hplace (fun l hl => ?_) rfl rfl
      exact (hfound l hl).resolve_right (by rw [hready.1]; exact not_mem_nil)
  | validateUpdate => exact hstage.elim
  | _ => cases hstep

section

variable (hcall : s.calls[s₀.calls.length]? = some ⟨actor, true, phase⟩)
include hcall

section

variable (hstage : Stage w s₀ id v text s phase)
include hstage

theorem stage_lockRow (hstep : callStep w s s₀.calls.length ⟨actor, true, phase⟩ phase
      (.lockRow s₀.calls.length) = some s') : Going w s₀ actor id v text s' := by
  cases phase with
  | lock k run scope todo done =>
    obtain ⟨rfl, rfl, hrow, hplace, hmine, hfound⟩ := hstage
    cases todo with
    | nil => cases hstep
    | cons l todo =>
      rw [callStep, lockNext] at hstep
      split at hstep
      · cases hstep
      · split at hstep
        · cases hstep
          refine going_set hcall rfl ⟨rfl, rfl, hrow, hplace, fun m j hm => ?_, fun m hm => ?_⟩
          · rcases Updates.update_eq_some hm with ⟨-, rfl⟩ | ⟨-, hm⟩
            · rfl
            · exact hmine m j hm
          · rcases hfound m hm with hdone | htodo
            · exact .inl (mem_append_left _ hdone)
            · rcases mem_cons.mp htodo with rfl | htodo
              · exact .inl (mem_append_right _ (mem_singleton_self _))
              · exact .inr htodo
        · next hnot =>
          cases hstep
          refine going_set hcall rfl ⟨rfl, rfl, hrow, hplace, hmine, fun m hm => ?_⟩
          rcases hfound m hm with hdone | htodo
          · exact .inl hdone
          · rcases mem_cons.mp htodo with rfl | htodo
            · exact absurd (status_of_mem_deployedIn hm) hnot
            · exact .inr htodo
  | _ => cases hstep

theorem stage_resume (hstep : callStep w s s₀.calls.length ⟨actor, true, phase⟩ phase
      (.resume s₀.calls.length) = some s') : Going w s₀ actor id v text s' := by
  cases phase with
  | engine k run =>
    obtain ⟨rfl, rfl, hrow, ⟨r, hr, hcontent, hplaced⟩, hlocked⟩ := hstage
    simp only [callStep, hr, map_some] at hstep
    cases hphase : r.phase with
    | ended outcome =>
      rw [hphase] at hplaced hstep
      cases outcome with
      | returned n =>
        cases hstep
        exact going_set hcall rfl ⟨rfl, hrow, ⟨⟨r, n, hr, hphase⟩, hplaced⟩, hlocked⟩
      | refused | threw => exact hplaced.elim
    | _ => rw [hphase] at hstep; cases hstep
  | _ => cases hstep

theorem stage_engine {a : Deployment.Action}
    (hserved : Served s₀.calls.length s₀.engine.runs.length (.engine a))
    {engine : Deployment.State} (hstep : Deployment.step s.engine a = some engine) :
    Going w s₀ actor id v text { s with engine := engine } := by
  refine ⟨phase, hcall, ?_⟩
  have hnew : s.engine = s₀.engine → False := fun h => by
    rw [h, no_step_of_new hserved] at hstep
    cases hstep
  have hover : InPlace s.engine s₀.engine.runs.length (bytes text) → False := fun h => by
    rw [h.no_step hserved] at hstep
    cases hstep
  cases phase with
  | rollback _ | approve _ | approveUpdate _ | deploy _ => exact (hnew hstage.2.2.1).elim
  | create scope content => exact (hnew hstage.2.2.2.1).elim
  | insert scope content number => exact (hnew hstage.2.2.2.2.1).elim
  | engine k run =>
    obtain ⟨rfl, rfl, hrow, hplacing, hlocked⟩ := hstage
    exact ⟨rfl, rfl, hrow, hplacing.step hserved hstep, hlocked⟩
  | mark k run => exact (hover hstage.2.2.1).elim
  | supersede k run scope | lock k run scope todo done => exact (hover hstage.2.2.2.1).elim
  | ended ok => exact (hover hstage.2.1).elim
  | _ => exact hstage.elim

end

end

/-- **What a step of the rollback keeps.** -/
theorem going_step {a : Action} (hv : s₀.versions[id]? = some v)
    (htext : rendered v.content = some text) (hfree : ¬ Taken w s₀ id v)
    (h : Going w s₀ actor id v text s) (hserved : Served s₀.calls.length s₀.engine.runs.length a)
    (hstep : (versions w).step s a = some s') : Going w s₀ actor id v text s' := by
  obtain ⟨phase, hcall, hstage⟩ := h
  change step w s a = some s' at hstep
  cases a with
  | call _ _ | fail _ => exact hserved.elim
  | read j result =>
    obtain ⟨rfl, hresult⟩ := hserved
    rw [step, hcall, bind_some] at hstep
    exact stage_read hv htext hcall hstage hresult hstep
  | select j =>
    obtain rfl : j = s₀.calls.length := hserved
    rw [step, hcall, bind_some] at hstep
    exact stage_select hcall hstage hstep
  | lockRow j =>
    obtain rfl : j = s₀.calls.length := hserved
    rw [step, hcall, bind_some] at hstep
    exact stage_lockRow hcall hstage hstep
  | commit j ack =>
    obtain ⟨rfl, rfl⟩ := hserved
    rw [step, hcall, bind_some] at hstep
    exact stage_commit hfree htext hcall hstage hstep
  | resume j =>
    obtain rfl : j = s₀.calls.length := hserved
    rw [step, hcall, bind_some] at hstep
    exact stage_resume hcall hstage hstep
  | engine a =>
    cases a with
    | call content => cases hstep
    | _ =>
      obtain ⟨engine, hengine, rfl⟩ := Option.map_eq_some_iff.mp hstep
      exact stage_engine hcall hstage hserved hengine

theorem going_askRollback (actor : String) (hlocked : Unlocked s₀) :
    Going w s₀ actor id v text (s₀.askRollback actor id) :=
  ⟨.rollback id, getElem?_concat_length, rfl, rfl, rfl, hlocked⟩

/-- **Every way the rollback is served ends well.** -/
theorem Serves.restored {as : List Action} {ok : Bool} (hlocked : Unlocked s₀)
    (hv : s₀.versions[id]? = some v) (htext : rendered v.content = some text)
    (hfree : ¬ Taken w s₀ id v) (h : Serves w s₀ actor id as s) (hover : Over s₀ s ok) :
    ok = true ∧ Row w s₀ id v text .deployed s ∧ Restored s v.scope text := by
  obtain ⟨phase, hcall, hstage⟩ : Going w s₀ actor id v text s :=
    (versions w).invariant_along (fun _ _ _ hi hp hs => going_step hv htext hfree hi hp hs)
      (going_askRollback actor hlocked) h.1 h.2
  rw [Over, hcall] at hover
  cases hover
  exact ⟨hstage.1, hstage.2.2⟩

end Stages

/-! ## The rollback ends -/

/-- How far a deployment is from its end. -/
def deploymentRank (e : Deployment.State) (r : Deployment.Run) : Deployment.Phase → Nat
  | .called => 8
  | .reading k acc => if acc.length < (e.disk.content k).length then 7 else 6
  | .ready _ => 5
  | .writing side _ offset => if offset < (r.text side).length then 4 else 3
  | .reloading _ => 2
  | .ended _ => 1

/-- How far a rollback is from its end. -/
def phaseRank (s : State) : Phase → Nat
  | .rollback _ => s.versions.length + 32
  | .create _ _ => s.versions.length + 31
  | .insert _ _ _ => s.versions.length + 30
  | .approve _ => s.versions.length + 22
  | .approveUpdate _ => s.versions.length + 21
  | .deploy _ => s.versions.length + 20
  | .engine _ run => s.versions.length + 5 +
      ((s.engine.runs[run]?).map fun r => deploymentRank s.engine r r.phase).getD 0
  | .mark _ _ => s.versions.length + 4
  | .supersede _ _ _ => s.versions.length + 3
  | .lock _ _ _ todo _ => todo.length + 1
  | _ => 0

/-- How far a call is from its end. -/
def rank (i : Nat) (s : State) : Nat :=
  ((s.calls[i]?).map fun call => phaseRank s call.phase).getD 0

section Progress

variable {w : Service} {s₀ s s' : State} {actor : String} {id : Nat} {v : Version} {text : String}
  {phase : Phase}

variable {i : Nat} {call : Call}

theorem rank_eq (h : s.calls[i]? = some call) : rank i s = phaseRank s call.phase := by
  rw [rank, h]
  rfl

theorem rank_set {new : Call} (h : s.calls[i]? = some call)
    (hcalls : s'.calls = s.calls.set i new) : rank i s' = phaseRank s' new.phase := by
  refine rank_eq ?_
  rw [hcalls, getElem?_set_self (List.getElem?_eq_some_iff.mp h).1]

theorem length_deployedIn_le (s : State) (scope : String) :
    (deployedIn s scope).length ≤ s.versions.length := by
  calc (deployedIn s scope).length ≤ (List.range s.versions.length).length :=
        length_filter_le ..
    _ = s.versions.length := length_range

/-- The deployment takes a step towards its end. -/
def Advances (i : Nat) (e : Deployment.State) (run : Nat) (r : Deployment.Run) : Prop :=
  ∃ a e' r', Served i run (.engine a) ∧ Deployment.step e a = some e' ∧
    e'.runs[run]? = some r' ∧ deploymentRank e' r' r'.phase < deploymentRank e r r.phase

section Advances

variable {run : Nat} {e e' : Deployment.State} {r : Deployment.Run} {content : Bytes}

theorem advances_of_step (a : Deployment.Action) {new : Deployment.Run} (hr : e.runs[run]? = some r)
    (hserved : Served i run (.engine a))
    (hstep : Deployment.step e a = (e.runs[run]?).bind fun r => runStep e run r r.phase a)
    (hrunStep : runStep e run r r.phase a = some e') (hruns : e'.runs = e.runs.set run new)
    (hrank : deploymentRank e' new new.phase < deploymentRank e r r.phase) :
    Advances i e run r := by
  refine ⟨a, e', new, hserved, ?_, ?_, hrank⟩
  · rw [hstep, hr, bind_some, hrunStep]
  · rw [hruns, getElem?_set_self (List.getElem?_eq_some_iff.mp hr).1]

section

variable (hr : e.runs[run]? = some r)
include hr

theorem advances_called (hphase : r.phase = .called) :
    Advances i e run r := by
  have hold : deploymentRank e r r.phase = 8 := by rw [hphase]; rfl
  have hlook : ∃ e' new, runStep e run r r.phase (.look run) = some e' ∧
      e'.runs = e.runs.set run new ∧ deploymentRank e' new new.phase < 8 := by
    rw [hphase, runStep]
    cases e.disk.entry .target with
    | none => exact ⟨_, _, rfl, rfl, (by decide : 5 < 8)⟩
    | some k =>
      refine ⟨_, _, rfl, rfl, ?_⟩
      show (if _ then 7 else 6) < 8
      split <;> decide
  obtain ⟨e', new, hstep, hruns, hrank⟩ := hlook
  exact advances_of_step (.look run) hr rfl rfl hstep hruns (by rw [hold]; exact hrank)

theorem advances_reading {k : Nat} {acc : Bytes}
    (hphase : r.phase = .reading k acc) : Advances i e run r := by
  by_cases hmore : acc.length < (e.disk.content k).length
  · have hold : deploymentRank e r r.phase = 7 := by rw [hphase]; exact if_pos hmore
    refine advances_of_step (.read run (e.disk.content k).length) hr rfl rfl
      (by rw [hphase]; rfl) rfl ?_
    rw [hold]
    show (if _ then 7 else 6) < 7
    split
    · next hleft =>
      change (acc ++ ((e.disk.content k).drop acc.length).take (e.disk.content k).length).length <
        (e.disk.content k).length at hleft
      rw [length_append, length_take, length_drop] at hleft
      omega
    · decide
  · have hold : deploymentRank e r r.phase = 6 := by rw [hphase]; exact if_neg hmore
    refine advances_of_step (.readEnd run) hr rfl rfl
      (by rw [hphase, runStep, if_neg hmore]) rfl ?_
    rw [hold]
    exact (by decide : 5 < 6)

theorem advances_ready {side : Deployment.Side}
    (hphase : r.phase = .ready side) : Advances i e run r := by
  have hold : deploymentRank e r r.phase = 5 := by rw [hphase]; rfl
  refine advances_of_step (.create run) hr rfl rfl (by rw [hphase]; rfl) rfl ?_
  rw [hold]
  show (if _ then 4 else 3) < 5
  split <;> decide

theorem advances_writing {k offset : Nat}
    (hphase : r.phase = .writing .deployed k offset) (hcontent : r.content = content)
    (hplaced : Placed e content (.writing .deployed k offset)) : Advances i e run r := by
  obtain ⟨hentry, hle, -⟩ := hplaced
  have htext : r.text .deployed = content := hcontent
  by_cases hmore : offset < content.length
  · have hlength : offset + (content.length - offset) = content.length := by omega
    have hold : deploymentRank e r r.phase = 4 := by
      rw [hphase]
      exact if_pos (by rw [htext]; exact hmore)
    refine advances_of_step (.write run (content.length - offset)) hr rfl rfl
      (by rw [hphase, runStep, htext, if_pos (Nat.le_of_eq hlength)]) rfl ?_
    rw [hold]
    show (if _ then 4 else 3) < 4
    split
    · next hleft =>
      change offset + (content.length - offset) < r.content.length at hleft
      rw [hcontent] at hleft
      omega
    · decide
  · have hall : offset = (r.text .deployed).length := by rw [htext]; omega
    have hold : deploymentRank e r r.phase = 3 := by
      rw [hphase]
      exact if_neg (by rw [← hall]; exact Nat.lt_irrefl _)
    obtain ⟨disk, hdisk⟩ := Option.ne_none_iff_exists'.mp
      (Files.Disk.rename_ne_none (q := .target) hentry)
    refine advances_of_step (.rename run) hr rfl rfl
      (by rw [hphase, runStep, if_pos hall, renames_eq hdisk]) rfl ?_
    rw [hold]
    exact (by decide : 2 < 3)

theorem advances_reloading (hphase : r.phase = .reloading .deployed) : Advances i e run r := by
  have hold : deploymentRank e r r.phase = 2 := by rw [hphase]; rfl
  refine advances_of_step (.reload run true) hr ⟨rfl, rfl⟩ rfl
    (by rw [hphase, runStep, Deployment.reloads, if_pos rfl]) rfl ?_
  rw [hold]
  exact (by decide : 1 < 2)

/-- **A deployment that puts its text in place and is not over takes a step towards its end.** -/
theorem advances (hcontent : r.content = content)
    (hplaced : Placed e content r.phase) (hnot : r.phase.isEnded = false) :
    Advances i e run r := by
  cases hphase : r.phase with
  | called => exact advances_called hr hphase
  | reading k acc => exact advances_reading hr hphase
  | ready side => exact advances_ready hr hphase
  | writing side k offset =>
    rw [hphase] at hplaced
    cases side with
    | previous => exact hplaced.elim
    | deployed => exact advances_writing hr hphase hcontent hplaced
  | reloading side =>
    rw [hphase] at hplaced
    cases side with
    | previous => exact hplaced.elim
    | deployed => exact advances_reloading hr hphase
  | ended outcome => rw [hphase] at hnot; cases hnot

end

end Advances

theorem step_of_callStep {a : Action} (hcall : s.calls[i]? = some call)
    (hstep : (versions w).step s a =
      (s.calls[i]?).bind fun call => callStep w s i call call.phase a) :
    (versions w).step s a = callStep w s i call call.phase a := by
  rw [hstep, hcall, bind_some]

/-- A statement of the rollback takes it towards its end. -/
theorem progress_of_callStep (a : Action) {next : Phase}
    (hcall : s.calls[s₀.calls.length]? = some ⟨actor, true, phase⟩)
    (hserved : Served s₀.calls.length s₀.engine.runs.length a)
    (hstep : (versions w).step s a = (s.calls[s₀.calls.length]?).bind fun call =>
      callStep w s s₀.calls.length call call.phase a)
    (hcallStep : callStep w s s₀.calls.length ⟨actor, true, phase⟩ phase a = some s')
    (hcalls : s'.calls = s.calls.set s₀.calls.length ⟨actor, true, next⟩)
    (hrank : phaseRank s' next < phaseRank s phase) :
    ∃ a s', Served s₀.calls.length s₀.engine.runs.length a ∧ (versions w).step s a = some s' ∧
      rank s₀.calls.length s' < rank s₀.calls.length s := by
  refine ⟨a, s', hserved, ?_, ?_⟩
  · rw [step_of_callStep hcall hstep, hcallStep]
  · rw [rank_set hcall hcalls, rank_eq hcall]
    exact hrank

theorem progress_engine {k run : Nat}
    (hcall : s.calls[s₀.calls.length]? = some ⟨actor, true, .engine k run⟩)
    (hstage : Stage w s₀ id v text s (.engine k run)) :
    ∃ a s', Served s₀.calls.length s₀.engine.runs.length a ∧ (versions w).step s a = some s' ∧
      rank s₀.calls.length s' < rank s₀.calls.length s := by
  obtain ⟨rfl, rfl, -, ⟨r, hr, hcontent, hplaced⟩, -⟩ := hstage
  cases hended : r.phase.isEnded with
  | true =>
    cases hphase : r.phase with
    | ended outcome =>
      rw [hphase] at hplaced
      cases outcome with
      | returned n =>
        refine progress_of_callStep (.resume _) hcall rfl rfl
          (by simp only [callStep, hr, map_some, hphase]; rfl) rfl ?_
        show s.versions.length + 4 < s.versions.length + 5 + _
        omega
      | refused | threw => exact hplaced.elim
    | _ => rw [hphase] at hended; cases hended
  | false =>
    obtain ⟨a, e', r', hserved, hstep, hr', hrank⟩ := advances hr hcontent hplaced hended
    refine ⟨.engine a, { s with engine := e' }, hserved, ?_, ?_⟩
    · cases a with
      | call content => exact hserved.elim
      | _ =>
        show (Deployment.step s.engine _).map _ = _
        rw [hstep]
        rfl
    · rw [rank_eq (s := { s with engine := e' }) hcall, rank_eq hcall]
      show s.versions.length + 5 + ((e'.runs[s₀.engine.runs.length]?).map fun r =>
        deploymentRank e' r r.phase).getD 0 < s.versions.length + 5 + _
      rw [hr, hr', map_some, map_some, getD_some, getD_some]
      omega

/-- **A rollback that is not over takes a step towards its end.** -/
theorem going_progress (hv : s₀.versions[id]? = some v) (htext : rendered v.content = some text)
    (hfree : ¬ Taken w s₀ id v) (h : Going w s₀ actor id v text s) (hnot : ¬ ∃ ok, Over s₀ s ok) :
    ∃ a s', Served s₀.calls.length s₀.engine.runs.length a ∧ (versions w).step s a = some s' ∧
      rank s₀.calls.length s' < rank s₀.calls.length s := by
  obtain ⟨phase, hcall, hstage⟩ := h
  cases phase with
  | rollback k =>
    obtain ⟨rfl, hversions, -⟩ := hstage
    have hread : s.versions[k]? = some v := by rw [hversions]; exact hv
    refine progress_of_callStep (.read _ (some (.other "true"))) hcall ⟨rfl, rfl⟩ rfl
      (by simp only [callStep, hread, htext, isSome_some, and_self, if_true]; rfl) rfl ?_
    show s.versions.length + 31 < s.versions.length + 32
    omega
  | create scope content =>
    refine progress_of_callStep (.select _) hcall rfl rfl rfl rfl ?_
    show s.versions.length + 30 < s.versions.length + 31
    omega
  | insert scope content number =>
    obtain ⟨rfl, rfl, rfl, hversions, -⟩ := hstage
    have hclash := not_clashes hfree hversions
    refine progress_of_callStep (.commit _ .ok) hcall ⟨rfl, rfl⟩ rfl
      (by simp only [callStep, hclash, Ack.committed, Bool.not_true, Bool.or_self,
        Bool.false_eq_true, if_false]; rfl) rfl ?_
    show (s.versions ++ [_]).length + 22 < s.versions.length + 30
    rw [length_append, length_singleton]
    omega
  | approve k =>
    obtain ⟨rfl, ⟨u, hu, -, -, -, hstatus⟩, -⟩ := hstage
    refine progress_of_callStep (.select _) hcall rfl rfl
      (by simp only [callStep, hu, hstatus, true_or, if_true]; rfl) rfl ?_
    show s.versions.length + 21 < s.versions.length + 22
    omega
  | approveUpdate k =>
    obtain ⟨rfl, -, -, hlocked⟩ := hstage
    refine progress_of_callStep (.commit _ .ok) hcall ⟨rfl, rfl⟩ rfl
      (by simp only [callStep, not_held hlocked, Ack.committed, Bool.false_eq_true, if_false,
        if_true]; rfl) rfl ?_
    show (s.versions.mapIdx _).length + 20 < s.versions.length + 21
    rw [length_mapIdx]
    omega
  | deploy k =>
    obtain ⟨rfl, ⟨u, hu, -, hrendered, -, hstatus⟩, -⟩ := hstage
    refine progress_of_callStep (.read _ (some (.other "true"))) hcall ⟨rfl, rfl⟩ rfl
      (by simp only [callStep, hu, hrendered, hstatus]; rfl) rfl ?_
    show s.versions.length + 5 + (((s.engine.runs ++ [_])[s.engine.runs.length]?).map fun r =>
      deploymentRank _ r r.phase).getD 0 < s.versions.length + 20
    rw [getElem?_concat_length]
    show s.versions.length + 5 + 8 < s.versions.length + 20
    omega
  | engine k run => exact progress_engine hcall hstage
  | mark k run =>
    obtain ⟨rfl, ⟨u, hu, -, -, -, hstatus⟩, -⟩ := hstage
    refine progress_of_callStep (.select _) hcall rfl rfl
      (by simp only [callStep, hu, hstatus, if_true]; rfl) rfl ?_
    show s.versions.length + 3 < s.versions.length + 4
    omega
  | supersede k run scope =>
    refine progress_of_callStep (.select _) hcall rfl rfl rfl rfl ?_
    show (deployedIn s scope).length + 1 < s.versions.length + 3
    have hle := length_deployedIn_le s scope
    omega
  | lock k run scope todo done =>
    obtain ⟨rfl, rfl, -, -, hmine, -⟩ := hstage
    have hheld : ∀ l, held s s₀.calls.length l = false := fun l => by
      cases hl : s.locked l with
      | none => rw [held, hl]; rfl
      | some j => rw [held, hl, hmine l j hl, any_some, bne_self_eq_false]
    cases todo with
    | nil =>
      refine progress_of_callStep (.commit _ .ok) hcall ⟨rfl, rfl⟩ rfl
        (by simp only [callStep, hheld]; rfl) rfl ?_
      show 0 < 0 + 1
      omega
    | cons l todo =>
      by_cases hstill : (s.versions[l]?.map Version.status) = some .deployed
      · refine progress_of_callStep (.lockRow _) hcall rfl rfl
          (by simp only [callStep, lockNext, hheld, hstill]; rfl) rfl ?_
        show todo.length + 1 < (l :: todo).length + 1
        rw [length_cons]
        omega
      · refine progress_of_callStep (.lockRow _) hcall rfl rfl
          (by simp only [callStep, lockNext, hheld, if_neg hstill]; rfl) rfl ?_
        show todo.length + 1 < (l :: todo).length + 1
        rw [length_cons]
        omega
  | ended ok => exact absurd ⟨ok, by rw [Over, hcall]; rfl⟩ hnot
  | _ => exact hstage.elim

end Progress

/-! ## What is in the way stays -/

/-- The rows keep their scopes and their checksums. -/
def Hashed (s s' : State) : Prop :=
  ∀ (id : Nat) (u : Version), s.versions[id]? = some u → ∃ u', s'.versions[id]? = some u' ∧
    u'.scope = u.scope ∧ u'.checksum = u.checksum

section Stays

variable {w : Service} {s s' t : State} {id : Nat} {v v' : Version} {actor text : String}

theorem hashed_of_eq (h : s'.versions = s.versions) : Hashed s s' := by
  intro id u hu
  exact ⟨u, by rw [h]; exact hu, rfl, rfl⟩

theorem hashed_trans (hs : Hashed s s') (ht : Hashed s' t) : Hashed s t := by
  intro id u hu
  obtain ⟨u', hu', hscope, hchecksum⟩ := hs id u hu
  obtain ⟨u'', hu'', hscope', hchecksum'⟩ := ht id u' hu'
  exact ⟨u'', hu'', hscope'.trans hscope, hchecksum'.trans hchecksum⟩

theorem hashed_update {f : Nat → Version → Version}
    (hversions : s'.versions = (s.update f).versions)
    (h : ∀ k u, (f k u).scope = u.scope ∧ (f k u).checksum = u.checksum) : Hashed s s' := by
  intro id u hu
  exact ⟨f id u, by rw [hversions, update_versions, hu]; rfl, h id u⟩

/-- What a step keeps of the rows, whatever it is. -/
theorem hashed_step {a : Action} (hstep : (versions w).step s a = some s') : Hashed s s' := by
  cases moves_of_step hstep with
  | call | advance | throw | begin | engine => exact hashed_of_eq rfl
  | insert hcall hphase =>
    intro id u hu
    refine ⟨u, ?_, rfl, rfl⟩
    exact (getElem?_append_left (List.getElem?_eq_some_iff.mp hu).1).trans hu
  | validated hcall hphase =>
    refine hashed_update rfl fun k u => ?_
    rw [validatedRow]
    split <;> exact ⟨rfl, rfl⟩
  | approved hcall hphase =>
    refine hashed_update rfl fun k u => ?_
    rw [approvedRow]
    split <;> exact ⟨rfl, rfl⟩
  | marked hcall hphase =>
    refine hashed_update rfl fun k u => ?_
    rw [deployedRow]
    split
    · exact ⟨rfl, rfl⟩
    · split <;> exact ⟨rfl, rfl⟩

theorem hashed_run {as : List Action} (hrun : (versions w).run s as = some s') : Hashed s s' :=
  (versions w).invariant_run (I := Hashed s)
    (fun _ _ _ hi hs => hashed_trans hi (hashed_step hs)) (hashed_of_eq rfl) hrun

/-- A checksum that is in the way stays in the way, while the version has its content. -/
theorem Taken.stays (h : Taken w s id v) (hkept : Hashed s s') (hscope : v'.scope = v.scope)
    (hcontent : v'.content = v.content) : Taken w s' id v' := by
  obtain ⟨u, hmem, hu, hchecksum⟩ := h
  obtain ⟨k, hk⟩ := mem_iff_getElem?.mp hmem
  obtain ⟨u', hu', hscope', hchecksum'⟩ := hkept k u hk
  refine ⟨u', mem_of_getElem? hu', by rw [hscope', hu, hscope], ?_⟩
  rw [hchecksum', hchecksum, rollbackContent, rollbackContent, hcontent]

theorem getElem?_setCall {i : Nat} {call : Call} (hcall : s.calls[i]? = some call) (phase : Phase) :
    (s.setCall i call phase).calls[i]? = some { call with phase := phase } :=
  getElem?_set_self (List.getElem?_eq_some_iff.mp hcall).1

/-- The version is read, and its text accepted. -/
theorem step_read (w : Service) (actor : String) (hv : s.versions[id]? = some v)
    (htext : rendered v.content = some text) :
    ∃ t, (versions w).step (s.askRollback actor id)
        (.read s.calls.length (some (.other "true"))) = some t ∧ t.versions = s.versions ∧
      t.calls[s.calls.length]? = some ⟨actor, true, .create v.scope (rollbackContent w id v)⟩ := by
  have hcall : (s.askRollback actor id).calls[s.calls.length]? =
      some ⟨actor, true, .rollback id⟩ := getElem?_concat_length
  have hread : (s.askRollback actor id).versions[id]? = some v := hv
  refine ⟨(s.askRollback actor id).setCall s.calls.length ⟨actor, true, .rollback id⟩
    (.create v.scope (rollbackContent w id v)), ?_, rfl, getElem?_setCall hcall _⟩
  rw [step_of_callStep hcall rfl]
  simp only [callStep, hread, htext, isSome_some, and_self, if_true]
  rfl

/-- A row is refused when it clashes. -/
theorem run_insert {i : Nat} {scope : String} {content : Content}
    (hcall : s.calls[i]? = some ⟨actor, true, .create scope content⟩)
    (hclash : clashes w s scope content (nextNumber s scope) = true) :
    ∃ t, (versions w).run s [.select i, .commit i .ok] = some t ∧
      t.calls[i]? = some ⟨actor, true, .ended false⟩ := by
  have hselect : (versions w).step s (.select i) = some (s.setCall i
      ⟨actor, true, .create scope content⟩ (.insert scope content (nextNumber s scope))) :=
    step_of_callStep hcall rfl
  have hcall' := getElem?_setCall hcall (.insert scope content (nextNumber s scope))
  have hcommit := step_of_callStep (w := w) (a := .commit i .ok) hcall' rfl
  have hrefused : (clashes w (s.setCall i ⟨actor, true, .create scope content⟩
      (.insert scope content (nextNumber s scope))) scope content (nextNumber s scope) ||
        !Ack.ok.committed) = true := by
    rw [Bool.or_eq_true]
    exact .inl hclash
  exact ⟨_, (versions w).run_cons_eq_some.mpr ⟨_, hselect,
    (versions w).run_cons_eq_some.mpr ⟨_, hcommit.trans (if_pos hrefused), rfl⟩⟩,
    getElem?_setCall hcall' _⟩

/-- A new row with a checksum that is in the way is refused. -/
theorem not_available_of_taken (hv : s.versions[id]? = some v)
    (htext : rendered v.content = some text) (h : Taken w s id v) :
    ¬ Available w s actor id v.scope text := by
  intro havailable
  obtain ⟨t, hread, hversions, hcall⟩ := step_read w actor hv htext
  obtain ⟨t', hrun, hended⟩ := run_insert hcall
    (by rw [clashes, nextNumber, hversions]; exact clashes_next_iff.mpr h)
  have hserved : ∀ a ∈ [Action.select s.calls.length, .commit s.calls.length .ok],
      Served s.calls.length s.engine.runs.length a := by
    intro a ha
    rcases mem_cons.mp ha with rfl | ha
    · exact rfl
    · obtain rfl := mem_singleton.mp ha
      exact ⟨rfl, rfl⟩
  obtain ⟨hok, -⟩ := havailable.restores _ t' false
    ⟨(versions w).along_cons hread ⟨rfl, rfl⟩
      ((versions w).along_of_mem (fun a ha _ => hserved a ha) t),
      (versions w).run_cons_eq_some.mpr ⟨t, hread, hrun⟩⟩ (by rw [Over, hended]; rfl)
  cases hok

end Stays

/-- **A rollback is available exactly where no version of the scope has the checksum of the new
one**, and after a rollback that is over one has it, in every later state in which the version has
the content it had. -/
theorem rollback_available_iff (w : Service) (s : State) (actor : String) (id : Nat) (v : Version)
    (text : String) (hlocked : Unlocked s) (hv : s.versions[id]? = some v)
    (htext : rendered v.content = some text) :
    (Available w s actor id v.scope text ↔ ¬ Taken w s id v) ∧
      ∀ as t ok, Serves w s actor id as t → Over s t ok →
        ∀ bs t' v', (versions w).run t bs = some t' → t'.versions[id]? = some v' →
          v'.content = v.content → Taken w t' id v' := by
  refine ⟨⟨fun h htaken => not_available_of_taken hv htext htaken h, fun hfree => ?_⟩, ?_⟩
  · constructor
    case ends =>
      have hprogress : ∀ t, Going w s actor id v text t → ¬ (∃ ok, Over s t ok) →
          ∃ a t', Served s.calls.length s.engine.runs.length a ∧ (versions w).step t a = some t' ∧
            Going w s actor id v text t' ∧ rank s.calls.length t' < rank s.calls.length t := by
        intro t hgoing hnot
        obtain ⟨a, t', hserved, hstep, hrank⟩ := going_progress hv htext hfree hgoing hnot
        exact ⟨a, t', hserved, hstep, going_step hv htext hfree hgoing hserved hstep, hrank⟩
      obtain ⟨as, t, halong, hrun, ok, hover⟩ :=
        (versions w).exists_run_of_rank (rank s.calls.length) hprogress
          (going_askRollback actor hlocked)
      exact ⟨as, t, ok, ⟨halong, hrun⟩, hover⟩
    case restores =>
      intro as t ok hserves hover
      obtain ⟨hok, -, hrestored⟩ := hserves.restored hlocked hv htext hfree hover
      exact ⟨hok, hrestored⟩
  · intro as t ok hserves hover bs t' v' hrun hv' hcontent
    have hbefore : Hashed s t :=
      hashed_trans (hashed_of_eq rfl : Hashed s (s.askRollback actor id)) (hashed_run hserves.2)
    have hafter : Hashed t t' := hashed_run hrun
    obtain ⟨u, hu, hscope, -⟩ := hashed_trans hbefore hafter id v hv
    obtain rfl := some.inj (hv'.symm.trans hu)
    by_cases htaken : Taken w s id v
    · exact htaken.stays (hashed_trans hbefore hafter) hscope hcontent
    · obtain ⟨-, ⟨new, hnew, hnewScope, -, hchecksum, -⟩, -⟩ :=
        hserves.restored hlocked hv htext htaken hover
      have htaken' : Taken w t id v := ⟨new, mem_of_getElem? hnew, hnewScope, hchecksum⟩
      exact htaken'.stays hafter hscope hcontent

/-- A tenant with one version. -/
def oneVersion : State :=
  { init none none with versions := [newVersion plain "global" [("rendered", .string "a")] 1] }

theorem rollback_available_once : Available plain oneVersion "operator" 0 "global" "a" :=
  (rollback_available_iff plain oneVersion "operator" 0
    (newVersion plain "global" [("rendered", .string "a")] 1) "a" (fun _ => rfl) rfl
    (by decide)).1.mpr (by decide)

/-- The version that `rolledBack` has rolled back to cannot be rolled back to again. -/
theorem rollback_unavailable_twice :
    ∃ s, (versions plain).run (init none none) rolledBack = some s ∧
    ∃ v, s.versions[0]? = some v ∧ rendered v.content = some "a" ∧
      ¬ Available plain s "operator" 0 v.scope "a" := by
  obtain ⟨s, hs, hcheck⟩ := (versions plain).exists_run (s := init none none) (w := rolledBack)
    (fun s => decide (∃ v ∈ (s.versions[0]? : Option Version),
      rendered v.content = some "a" ∧ Taken plain s 0 v)) (by decide +kernel)
  obtain ⟨v, hv, htext, htaken⟩ := of_decide_eq_true hcheck
  exact ⟨s, hs, v, hv, htext, not_available_of_taken hv htext htaken⟩

end Jkannel.Configuration.Versions
