import Jkannel.Configuration.Versions

/-!
# The lifecycle of a configuration version

The invariant of the machine of `Versions`, in three parts: what holds of the rows (`RowsOk`), what
a call knows of the version and of the deployment it is for (`CallOk`), and how the version that was
marked last and the text that was put in place last agree (`Inv.latest`, `Inv.pending`).

* `Keeps` is what no step does to a row: change its content, take its approval away, or lead back
  from `deployed` or `superseded`.
* `lifecycle` is the result.
* `stale_validation_returns` is a run that breaks without the condition.
-/

namespace Jkannel.Configuration.Versions

open List Option
open Files (Bytes)
open Transition (Ack)

/-! ## Rows -/

/-- What no step does to a row. -/
def Keeps (s s' : State) : Prop :=
  ∀ (id : Nat) (v : Version), s.versions[id]? = some v → ∃ v', s'.versions[id]? = some v' ∧
    v'.content = v.content ∧ (v.approvedBy.isSome = true → v'.approvedBy.isSome = true) ∧
      (v.status.final = true → v'.status.final = true)

/-- The committed rows of a lifecycle. -/
structure RowsOk (w : Service) (s : State) : Prop where
  one : ∀ (i j : Nat) (a b : Version), s.versions[i]? = some a → s.versions[j]? = some b →
    a.status = .deployed → b.status = .deployed → a.scope = b.scope → i = j
  approved : ∀ (id : Nat) (v : Version), s.versions[id]? = some v →
    v.status = .approved ∨ v.status = .deployed → v.approvedBy.isSome = true
  hashed : ∀ (id : Nat) (v : Version), s.versions[id]? = some v →
    v.checksum = checksum w v.content

section Rows

variable {w : Service} {s s' : State}

theorem keeps_of_eq (h : s'.versions = s.versions) : Keeps s s' := by
  intro id v hv
  exact ⟨v, by rw [h]; exact hv, rfl, fun h => h, fun h => h⟩

theorem Keeps.kept (h : Keeps s s') : Kept s s' := by
  intro id v hv hfinal
  obtain ⟨v', hv', -, -, hkeeps⟩ := h id v hv
  exact ⟨v', hv', hkeeps hfinal⟩

theorem update_versions (f : Nat → Version → Version) (id : Nat) :
    (s.update f).versions[id]? = s.versions[id]?.map (f id) :=
  getElem?_mapIdx

variable {f : Nat → Version → Version} {new v : Version} {actor : String} {done : List Nat}
  {id : Nat} {content : Content}

/-- A row of an updated table. -/
theorem update_cases {v' : Version} (h : (s.update f).versions[id]? = some v') :
    ∃ v, s.versions[id]? = some v ∧ v' = f id v := by
  rw [update_versions] at h
  obtain ⟨v, hv, heq⟩ := map_eq_some_iff.mp h
  exact ⟨v, hv, heq.symm⟩

theorem keeps_update (hversions : s'.versions = (s.update f).versions)
    (h : ∀ id v, s.versions[id]? = some v → (f id v).content = v.content ∧
      (v.approvedBy.isSome = true → (f id v).approvedBy.isSome = true) ∧
        (v.status.final = true → (f id v).status.final = true)) : Keeps s s' := by
  intro id v hv
  exact ⟨f id v, by rw [hversions, update_versions, hv]; rfl, h id v hv⟩

theorem RowsOk.of_eq (h : RowsOk w s) (heq : s'.versions = s.versions) : RowsOk w s' := by
  constructor
  case one => rw [heq]; exact h.one
  case approved => rw [heq]; exact h.approved
  case hashed => rw [heq]; exact h.hashed

/-- An update that deploys nothing, and marks as approved only what it approves. -/
theorem RowsOk.update (h : RowsOk w s) (hversions : s'.versions = (s.update f).versions)
    (hdeployed : ∀ id v, s.versions[id]? = some v → (f id v).status = .deployed →
      v.status = .deployed ∧ (f id v).scope = v.scope)
    (happroved : ∀ id v, s.versions[id]? = some v →
      (f id v).status = .approved ∨ (f id v).status = .deployed →
        (f id v).approvedBy.isSome = true)
    (hhashed : ∀ id v, s.versions[id]? = some v → (f id v).checksum = checksum w (f id v).content) :
    RowsOk w s' where
  one i j a b ha hb hda hdb hscope := by
    rw [hversions] at ha hb
    obtain ⟨old, hold, rfl⟩ := update_cases ha
    obtain ⟨other, hother, rfl⟩ := update_cases hb
    obtain ⟨hda', hsa⟩ := hdeployed i old hold hda
    obtain ⟨hdb', hsb⟩ := hdeployed j other hother hdb
    exact h.one i j old other hold hother hda' hdb' (hsa.symm.trans (hscope.trans hsb))
  approved id v hv hstatus := by
    rw [hversions] at hv
    obtain ⟨old, hold, rfl⟩ := update_cases hv
    exact happroved id old hold hstatus
  hashed id v hv := by
    rw [hversions] at hv
    obtain ⟨old, hold, rfl⟩ := update_cases hv
    exact hhashed id old hold

/-! ### A new row -/

theorem append_cases (h : (s.versions ++ [new])[id]? = some v) :
    s.versions[id]? = some v ∨ (id = s.versions.length ∧ v = new) := by
  rw [getElem?_append] at h
  split at h
  · exact .inl h
  · next hle =>
    obtain ⟨hlt, hv⟩ := List.getElem?_eq_some_iff.mp h
    rw [length_singleton] at hlt
    refine .inr ⟨by omega, ?_⟩
    rw [← hv]
    exact mem_singleton.mp (getElem_mem _)

theorem keeps_append (hversions : s'.versions = s.versions ++ [new]) : Keeps s s' := by
  intro id v hv
  refine ⟨v, ?_, rfl, fun h => h, fun h => h⟩
  rw [hversions, getElem?_append_left (List.getElem?_eq_some_iff.mp hv).1, hv]

theorem RowsOk.append (h : RowsOk w s) (hversions : s'.versions = s.versions ++ [new])
    (hdraft : new.status = .draft) (hhashed : new.checksum = checksum w new.content) :
    RowsOk w s' where
  one i j a b ha hb hda hdb hscope := by
    rw [hversions] at ha hb
    rcases append_cases ha with ha | ⟨-, rfl⟩
    · rcases append_cases hb with hb | ⟨-, rfl⟩
      · exact h.one i j a b ha hb hda hdb hscope
      · rw [hdraft] at hdb
        cases hdb
    · rw [hdraft] at hda
      cases hda
  approved id v hv hstatus := by
    rw [hversions] at hv
    rcases append_cases hv with hv | ⟨-, rfl⟩
    · exact h.approved id v hv hstatus
    · rw [hdraft] at hstatus
      rcases hstatus with heq | heq <;> cases heq
  hashed id v hv := by
    rw [hversions] at hv
    rcases append_cases hv with hv | ⟨-, rfl⟩
    · exact h.hashed id v hv
    · exact hhashed

/-! ### The transactions -/

theorem keeps_validated (hversions : s'.versions = (s.update (validatedRow id content)).versions)
    (horderly : ∀ v ∈ s.versions[id]?, content = v.content ∧ v.status.final = false) :
    Keeps s s' := by
  refine keeps_update hversions fun k v hv => ?_
  rw [validatedRow]
  split
  · next hk =>
    obtain ⟨hcontent, hfinal⟩ := horderly v (hk ▸ hv)
    exact ⟨hcontent, fun h => h, fun h => by rw [hfinal] at h; cases h⟩
  · exact ⟨rfl, fun h => h, fun h => h⟩

theorem RowsOk.validated (h : RowsOk w s)
    (hversions : s'.versions = (s.update (validatedRow id content)).versions)
    (horderly : ∀ v ∈ s.versions[id]?, content = v.content ∧ v.status.final = false) :
    RowsOk w s' := by
  refine h.update hversions (fun k v hv hd => ?_) (fun k v hv hs => ?_) fun k v hv => ?_
  · rw [validatedRow] at hd ⊢
    split at hd
    · cases hd
    · next hk =>
      rw [if_neg hk]
      exact ⟨hd, rfl⟩
  · rw [validatedRow] at hs ⊢
    split at hs
    · rcases hs with hs | hs <;> cases hs
    · next hk =>
      rw [if_neg hk]
      exact h.approved k v hv hs
  · rw [validatedRow]
    split
    · next hk =>
      obtain ⟨rfl, -⟩ := horderly v (hk ▸ hv)
      exact h.hashed k v hv
    · exact h.hashed k v hv

theorem keeps_approved (hversions : s'.versions = (s.update (approvedRow id actor)).versions)
    (horderly : ∀ v ∈ s.versions[id]?, v.status.final = false) : Keeps s s' := by
  refine keeps_update hversions fun k v hv => ?_
  rw [approvedRow]
  split
  · next hk =>
    exact ⟨rfl, fun _ => rfl, fun h => by rw [horderly v (hk ▸ hv)] at h; cases h⟩
  · exact ⟨rfl, fun h => h, fun h => h⟩

theorem RowsOk.approvedBy (h : RowsOk w s)
    (hversions : s'.versions = (s.update (approvedRow id actor)).versions) : RowsOk w s' := by
  refine h.update hversions (fun k v hv hd => ?_) (fun k v hv hs => ?_) fun k v hv => ?_
  · rw [approvedRow] at hd ⊢
    split at hd
    · cases hd
    · next hk =>
      rw [if_neg hk]
      exact ⟨hd, rfl⟩
  · rw [approvedRow] at hs ⊢
    split at hs
    · next hk =>
      rw [if_pos hk]
      rfl
    · next hk =>
      rw [if_neg hk]
      exact h.approved k v hv hs
  · rw [approvedRow]
    split <;> exact h.hashed k v hv

theorem keeps_deployed
    (hversions : s'.versions = (s.update (deployedRow id done actor)).versions) : Keeps s s' := by
  refine keeps_update hversions fun k v _ => ?_
  rw [deployedRow]
  split
  · exact ⟨rfl, fun h => h, fun _ => rfl⟩
  · split
    · exact ⟨rfl, fun h => h, fun _ => rfl⟩
    · exact ⟨rfl, fun h => h, fun h => h⟩

theorem mem_deployedIn {scope : String} (hv : s.versions[id]? = some v)
    (hscope : v.scope = scope) (hstatus : v.status = .deployed) : id ∈ deployedIn s scope := by
  refine mem_filter.mpr ⟨mem_range.mpr (List.getElem?_eq_some_iff.mp hv).1, ?_⟩
  rw [hv, any_some, hscope, hstatus]
  simp

/-- A row that is deployed after the two UPDATEs: the one that is marked, or one as it was. -/
theorem deployedRow_cases {id k : Nat} (h : (deployedRow id done actor k v).status = .deployed) :
    k = id ∨ (k ≠ id ∧ k ∉ done ∧ v.status = .deployed ∧ deployedRow id done actor k v = v) := by
  by_cases hk : k = id
  · exact .inl hk
  · by_cases hdone : k ∈ done
    · rw [deployedRow, if_neg hk, if_pos hdone] at h
      cases h
    · rw [deployedRow, if_neg hk, if_neg hdone] at h
      exact .inr ⟨hk, hdone, h, by rw [deployedRow, if_neg hk, if_neg hdone]⟩

theorem deployedRow_scope (id k : Nat) (done : List Nat) (actor : String) (v : Version) :
    (deployedRow id done actor k v).scope = v.scope := by
  rw [deployedRow]
  split
  · rfl
  · split <;> rfl

/-- Marking a version leaves one deployed in its scope, when the UPDATE that supersedes has found
the others. -/
theorem RowsOk.deployed (h : RowsOk w s)
    (hversions : s'.versions = (s.update (deployedRow id done actor)).versions)
    (hv : s.versions[id]? = some v) (happroved : v.approvedBy.isSome = true)
    (horderly : ∀ k ∈ deployedIn s v.scope, k = id ∨ k ∈ done) : RowsOk w s' where
  one i j a b ha hb hda hdb hscope := by
    rw [hversions] at ha hb
    obtain ⟨old, hold, rfl⟩ := update_cases ha
    obtain ⟨other, hother, rfl⟩ := update_cases hb
    rw [deployedRow_scope, deployedRow_scope] at hscope
    have hfound : ∀ {k : Nat} {u : Version}, s.versions[k]? = some u → u.scope = v.scope →
        u.status = .deployed → k ≠ id → k ∈ done := fun hu hs hd hk =>
      (horderly _ (mem_deployedIn hu hs hd)).resolve_left hk
    rcases deployedRow_cases hda with hi | ⟨hi, hnoti, hdi, -⟩ <;>
      rcases deployedRow_cases hdb with hj | ⟨hj, hnotj, hdj, -⟩
    · exact hi.trans hj.symm
    · subst hi
      obtain rfl := some.inj (hv.symm.trans hold)
      exact absurd (hfound hother hscope.symm hdj hj) hnotj
    · subst hj
      obtain rfl := some.inj (hv.symm.trans hother)
      exact absurd (hfound hold hscope hdi hi) hnoti
    · exact h.one i j old other hold hother hdi hdj hscope
  approved k u hu hstatus := by
    rw [hversions] at hu
    obtain ⟨old, hold, rfl⟩ := update_cases hu
    by_cases hk : k = id
    · subst hk
      obtain rfl := some.inj (hv.symm.trans hold)
      rw [deployedRow, if_pos rfl]
      exact happroved
    · by_cases hdone : k ∈ done
      · rw [deployedRow, if_neg hk, if_pos hdone] at hstatus
        rcases hstatus with heq | heq <;> cases heq
      · rw [deployedRow, if_neg hk, if_neg hdone] at hstatus ⊢
        exact h.approved k old hold hstatus
  hashed k u hu := by
    rw [hversions] at hu
    obtain ⟨old, hold, rfl⟩ := update_cases hu
    rw [deployedRow]
    split
    · exact h.hashed k old hold
    · split <;> exact h.hashed k old hold

end Rows

/-! ## Calls -/

/-- What a call knows of the version and of the deployment it is for. -/
structure CallOk (s : State) (phase : Phase) : Prop where
  text : ∀ id run, phase.deploying = some (id, run) → ∃ v text r, s.versions[id]? = some v ∧
    rendered v.content = some text ∧ s.engine.runs[run]? = some r ∧ r.content = bytes text
  returned : ∀ id run, phase.deploying = some (id, run) → phase.marking = true →
    ∃ r n, s.engine.runs[run]? = some r ∧ r.phase = .ended (.returned n)
  seen : ∀ id run, phase.deploying = some (id, run) → phase.seen = true →
    ∃ v, s.versions[id]? = some v ∧ v.approvedBy.isSome = true

/-- The deployments of the engine's file keep their texts, and those that are over do not change. -/
def EngineKeeps (e e' : Deployment.State) : Prop :=
  ∀ (j : Nat) (r : Deployment.Run), e.runs[j]? = some r → ∃ r', e'.runs[j]? = some r' ∧
    r'.content = r.content ∧ (r.phase.isEnded = true → r' = r)

theorem engineKeeps_refl (e : Deployment.State) : EngineKeeps e e :=
  fun _ r hr => ⟨r, hr, rfl, fun _ => rfl⟩

theorem engineKeeps_call (e : Deployment.State) (content : Bytes) :
    EngineKeeps e (e.call content) := by
  intro j r hr
  refine ⟨r, ?_, rfl, fun _ => rfl⟩
  rw [Deployment.State.call, getElem?_append_left (List.getElem?_eq_some_iff.mp hr).1, hr]

section Calls

variable {w : Service} {s s' : State} {i : Nat} {call : Call} {phase : Phase}

theorem callOk_of_idle (h : phase.deploying = none) : CallOk s phase where
  text id run hd := by rw [h] at hd; cases hd
  returned id run hd := by rw [h] at hd; cases hd
  seen id run hd := by rw [h] at hd; cases hd

theorem CallOk.frame (h : CallOk s phase) (hrows : Keeps s s')
    (hengine : EngineKeeps s.engine s'.engine) : CallOk s' phase where
  text id run hd := by
    obtain ⟨v, text, r, hv, htext, hr, hcontent⟩ := h.text id run hd
    obtain ⟨v', hv', hsame, -⟩ := hrows id v hv
    obtain ⟨r', hr', hkeeps, -⟩ := hengine run r hr
    exact ⟨v', text, r', hv', by rw [hsame]; exact htext, hr', hkeeps.trans hcontent⟩
  returned id run hd hmarking := by
    obtain ⟨r, n, hr, hphase⟩ := h.returned id run hd hmarking
    obtain ⟨r', hr', -, hsame⟩ := hengine run r hr
    obtain rfl := hsame (by rw [hphase]; rfl)
    exact ⟨r', n, hr', hphase⟩
  seen id run hd hseen := by
    obtain ⟨v, hv, happroved⟩ := h.seen id run hd hseen
    obtain ⟨v', hv', -, hkeeps, -⟩ := hrows id v hv
    exact ⟨v', hv', hkeeps happroved⟩

theorem ticket_eq {run n : Nat} {r : Deployment.Run} (hr : s.engine.runs[run]? = some r)
    (hphase : r.phase = .ended (.returned n)) : ticket s run = n := by
  rw [ticket, hr, map_some, hphase]

/-- A return that a call has stays the same one. -/
theorem ticket_keeps {run : Nat} (hengine : EngineKeeps s.engine s'.engine)
    (h : ticket s run ≠ 0) : ticket s' run = ticket s run := by
  cases hr : s.engine.runs[run]? with
  | none =>
    rw [ticket, hr] at h
    exact absurd rfl h
  | some r =>
    obtain ⟨r', hr', -, hsame⟩ := hengine run r hr
    cases hphase : r.phase with
    | ended outcome =>
      obtain rfl := hsame (by rw [hphase]; rfl)
      rw [ticket, ticket, hr, hr']
    | _ =>
      rw [ticket, hr, map_some, hphase] at h
      exact absurd rfl h

end Calls

/-! ## The invariant -/

/-- What a step of the lifecycle keeps. -/
structure Inv (w : Service) (s : State) : Prop where
  rows : RowsOk w s
  calls : ∀ (i : Nat) (call : Call), s.calls[i]? = some call → CallOk s call.phase
  serial : Deployment.SerialInv s.engine
  counted : Deployment.Counted s.engine
  /-- A call of `deploy` that is not over has a request waiting for it. -/
  owned : ∀ (run : Nat) (r : Deployment.Run), s.engine.runs[run]? = some r →
    r.phase.isEnded = false → ∃ (i : Nat) (call : Call) (id : Nat), s.calls[i]? = some call ∧
      call.phase = .engine id run
  /-- A version that was marked for the last return has the text of it. -/
  latest : ∀ id n, s.latest = some (id, n) → 1 ≤ n ∧ n ≤ s.engine.returned ∧
    (n = s.engine.returned → ∃ v text, s.versions[id]? = some v ∧ rendered v.content = some text ∧
      s.engine.last = some (bytes text))
  /-- The last return is being marked, or has been. -/
  pending : s.engine.returned = 0 ∨
    (∃ (i : Nat) (call : Call) (id run : Nat), s.calls[i]? = some call ∧
      call.phase.deploying = some (id, run) ∧ ticket s run = s.engine.returned) ∨
        ∃ id, s.latest = some (id, s.engine.returned)

theorem inv_init (w : Service) (target temporary : Option Bytes) :
    Inv w (init target temporary) where
  rows := ⟨fun _ _ _ _ h => (by cases h), fun _ _ h => (by cases h), fun _ _ h => (by cases h)⟩
  calls i call h := by cases h
  serial := Deployment.serialInv_init target temporary
  counted i run n h := by cases h
  owned run r h := by cases h
  latest id n h := by cases h
  pending := .inl rfl

section Step

variable {w : Service} {s s' : State} {i : Nat} {call : Call} {phase : Phase}

section

variable (h : Inv w s)
include h

/-- A call moves on; rows may change, the engine does not. -/
theorem Inv.setCall (hcall : s.calls[i]? = some call)
    (hrows : RowsOk w s') (hkeeps : Keeps s s') (hcalls : s'.calls =
      s.calls.set i { call with phase := phase }) (hengine : s'.engine = s.engine)
    (hlatest : s'.latest = s.latest) (hnew : CallOk s' phase)
    (hended : ∀ id run, call.phase = .engine id run →
      ∃ r, s.engine.runs[run]? = some r ∧ r.phase.isEnded = true)
    (hpending : ∀ id run, call.phase.deploying = some (id, run) →
      ticket s run = s.engine.returned → s.engine.returned ≠ 0 →
        phase.deploying = some (id, run)) : Inv w s' where
  rows := hrows
  calls j other hj := by
    rw [hcalls] at hj
    rcases Updates.set_eq_some hj with ⟨-, rfl⟩ | ⟨-, hj⟩
    · exact hnew
    · exact (h.calls j other hj).frame hkeeps (by rw [hengine]; exact engineKeeps_refl _)
  serial := by rw [hengine]; exact h.serial
  counted := by rw [hengine]; exact h.counted
  owned run r hr hnot := by
    rw [hengine] at hr
    obtain ⟨j, other, id, hj, hphase⟩ := h.owned run r hr hnot
    have hji : j ≠ i := by
      rintro rfl
      obtain rfl := some.inj (hcall.symm.trans hj)
      obtain ⟨r', hr', hend⟩ := hended id run hphase
      obtain rfl := some.inj (hr.symm.trans hr')
      rw [hnot] at hend
      cases hend
    refine ⟨j, other, id, ?_, hphase⟩
    rw [hcalls, getElem?_set_ne (fun heq => hji heq.symm), hj]
  latest id n hl := by
    rw [hlatest] at hl
    obtain ⟨hpos, hle, htext⟩ := h.latest id n hl
    rw [hengine]
    refine ⟨hpos, hle, fun heq => ?_⟩
    obtain ⟨v, text, hv, hrendered, hlast⟩ := htext heq
    obtain ⟨v', hv', hsame, -⟩ := hkeeps id v hv
    exact ⟨v', text, hv', by rw [hsame]; exact hrendered, hlast⟩
  pending := by
    have hticket : ∀ run, ticket s' run = ticket s run := fun run => by
      rw [ticket, ticket, hengine]
    rw [hengine, hlatest]
    rcases h.pending with hzero | ⟨j, other, id, run, hj, hd, ht⟩ | hmarked
    · exact .inl hzero
    · by_cases hzero : s.engine.returned = 0
      · exact .inl hzero
      · refine .inr (.inl ?_)
        by_cases hji : j = i
        · subst hji
          obtain rfl := some.inj (hcall.symm.trans hj)
          refine ⟨j, { call with phase := phase }, id, run, ?_, hpending id run hd ht hzero, ?_⟩
          · rw [hcalls, getElem?_set_self (List.getElem?_eq_some_iff.mp hj).1]
          · rw [hticket, ht]
        · refine ⟨j, other, id, run, ?_, hd, by rw [hticket, ht]⟩
          rw [hcalls, getElem?_set_ne (fun heq => hji heq.symm), hj]
    · exact .inr (.inr hmarked)

theorem Inv.ticket_le {run n : Nat} {r : Deployment.Run}
    (hr : s.engine.runs[run]? = some r) (hphase : r.phase = .ended (.returned n)) :
    1 ≤ ticket s run ∧ ticket s run ≤ s.engine.returned ∧
      (ticket s run = s.engine.returned → s.engine.last = some r.content) := by
  rw [ticket_eq hr hphase]
  exact h.counted run r n hr hphase

theorem Inv.newCall (actor : String) (request : Request) :
    Inv w { s with calls := s.calls ++ [⟨actor, request.rolling, request.phase⟩] } where
  rows := h.rows.of_eq rfl
  calls j other hj := by
    rw [getElem?_append] at hj
    split at hj
    · exact (h.calls j other hj).frame (keeps_of_eq rfl) (engineKeeps_refl _)
    · obtain rfl := mem_singleton.mp (mem_of_getElem? hj)
      exact callOk_of_idle (by cases request <;> rfl)
  __ := h
  owned run r hr hnot := by
    obtain ⟨j, other, id, hj, hphase⟩ := h.owned run r hr hnot
    exact ⟨j, other, id, by
      rw [getElem?_append_left (List.getElem?_eq_some_iff.mp hj).1, hj], hphase⟩
  pending := by
    rcases h.pending with hzero | ⟨j, other, id, run, hj, hd, ht⟩ | hmarked
    · exact .inl hzero
    · refine .inr (.inl ⟨j, other, id, run, ?_, hd, ht⟩)
      rw [getElem?_append_left (List.getElem?_eq_some_iff.mp hj).1, hj]
    · exact .inr (.inr hmarked)

/-- A call moves on, and nothing else happens. -/
theorem Inv.advance (locked : Nat → Option Nat) (hcall : s.calls[i]? = some call)
    (hdeploying : phase.deploying = call.phase.deploying)
    (hmarking : ∀ id run, call.phase = .engine id run → EngineEnded s run true)
    (hseen : ∀ id run, phase.deploying = some (id, run) → phase.seen = true →
      call.phase.seen = true ∨ ∃ v, s.versions[id]? = some v ∧ v.status = .approved) :
    Inv w ({ s with locked := locked }.setCall i call phase) := by
  have hok := h.calls i call hcall
  refine h.setCall hcall (h.rows.of_eq rfl) (keeps_of_eq rfl) rfl rfl rfl ?_ ?_ ?_
  · constructor
    case text =>
      intro id run hd
      exact hok.text id run (hdeploying.symm.trans hd)
    case returned =>
      intro id run hd hm
      have hd' := hdeploying.symm.trans hd
      cases hphase : call.phase with
      | engine id' run' =>
        rw [hphase] at hd'
        obtain ⟨rfl, rfl⟩ := Prod.mk.inj (some.inj hd')
        obtain ⟨r, outcome, hr, houtcome, hreturned⟩ := hmarking _ _ hphase
        obtain ⟨n, rfl⟩ := hreturned.mp rfl
        exact ⟨r, n, hr, houtcome⟩
      | mark | supersede | lock => exact hok.returned id run hd' (by rw [hphase]; rfl)
      | _ => rw [hphase] at hd'; cases hd'
    case seen =>
      intro id run hd hs
      rcases hseen id run hd hs with hold | ⟨v, hv, happroved⟩
      · exact hok.seen id run (hdeploying.symm.trans hd) hold
      · exact ⟨v, hv, h.rows.approved id v hv (.inl happroved)⟩
  · intro id run heq
    obtain ⟨r, outcome, hr, houtcome, -⟩ := hmarking id run heq
    exact ⟨r, hr, by rw [houtcome]; rfl⟩
  · intro id run hd _ _
    exact hdeploying.trans hd

section

variable (hcall : s.calls[i]? = some call)
include hcall

/-- A call ends with an error; if its text was put in place, another one has replaced it. -/
theorem Inv.throw (hend : OrderlyEnd s call.phase)
    (hengine : ∀ id run, call.phase = .engine id run → EngineEnded s run false) :
    Inv w (s.throw i call) := by
  refine h.setCall hcall (h.rows.of_eq rfl) (keeps_of_eq rfl) rfl rfl rfl (callOk_of_idle rfl)
    (fun id run heq => ?_) fun id run hd ht hpos => ?_
  · obtain ⟨r, outcome, hr, houtcome, -⟩ := hengine id run heq
    exact ⟨r, hr, by rw [houtcome]; rfl⟩
  · exfalso
    cases hphase : call.phase with
    | engine id' run' =>
      rw [hphase] at hd
      obtain ⟨rfl, rfl⟩ := Prod.mk.inj (some.inj hd)
      obtain ⟨r, outcome, hr, houtcome, hreturned⟩ := hengine _ _ hphase
      have hzero : ticket s run' = 0 := by
        rw [ticket, hr, map_some, houtcome]
        cases outcome with
        | returned n => cases hreturned.mpr ⟨n, rfl⟩
        | refused | threw => rfl
      exact hpos (ht.symm.trans hzero)
    | mark id' run' | supersede id' run' scope | lock id' run' scope todo done =>
      rw [hphase] at hd hend
      obtain ⟨rfl, rfl⟩ := Prod.mk.inj (some.inj hd)
      exact absurd ht (Nat.ne_of_lt hend)
    | _ => rw [hphase] at hd; cases hd

/-- A call of `deploy` begins. -/
theorem Inv.begin {id : Nat} (hphase : call.phase = .deploy id) {v : Version} {text : String}
    (hv : s.versions[id]? = some v) (htext : rendered v.content = some text) :
    Inv w ({ s with engine := s.engine.call (bytes text) }.setCall i call
      (.engine id s.engine.runs.length)) := by
  have hkeeps : Keeps s ({ s with engine := s.engine.call (bytes text) }.setCall i call
      (.engine id s.engine.runs.length)) := keeps_of_eq rfl
  have hengine := engineKeeps_call s.engine (bytes text)
  have hi : i < s.calls.length := (List.getElem?_eq_some_iff.mp hcall).1
  constructor
  case rows => exact h.rows.of_eq rfl
  case serial => exact h.serial.call _
  case counted => exact Deployment.counted_call h.counted _
  case calls =>
    intro j other hj
    rcases Updates.set_eq_some hj with ⟨-, rfl⟩ | ⟨-, hj⟩
    · constructor
      case text =>
        intro id' run' hd
        obtain ⟨rfl, rfl⟩ := Prod.mk.inj (some.inj hd)
        exact ⟨v, text, _, hv, htext, getElem?_concat_length, rfl⟩
      case returned => exact fun _ _ _ hm => by cases hm
      case seen => exact fun _ _ _ hs => by cases hs
    · exact (h.calls j other hj).frame hkeeps hengine
  case owned =>
    intro run r hr hnot
    by_cases hrun : run = s.engine.runs.length
    · subst hrun
      exact ⟨i, { call with phase := .engine id s.engine.runs.length }, id,
        getElem?_set_self hi, rfl⟩
    · have hlt : run < s.engine.runs.length := by
        have hlength := (List.getElem?_eq_some_iff.mp hr).1
        have hconcat : (s.engine.call (bytes text)).runs.length = s.engine.runs.length + 1 :=
          length_append
        have hle : run < s.engine.runs.length + 1 := hconcat ▸ hlength
        omega
      have hr' : s.engine.runs[run]? = some r := (getElem?_append_left hlt).symm.trans hr
      obtain ⟨j, other, id', hj, hother⟩ := h.owned run r hr' hnot
      have hji : j ≠ i := by
        rintro rfl
        obtain rfl := some.inj (hcall.symm.trans hj)
        rw [hphase] at hother
        cases hother
      exact ⟨j, other, id', (getElem?_set_ne (fun heq => hji heq.symm)).trans hj, hother⟩
  case latest => exact h.latest
  case pending =>
    rcases h.pending with hzero | ⟨j, other, id', run, hj, hd, ht⟩ | hmarked
    · exact .inl hzero
    · by_cases hzero : s.engine.returned = 0
      · exact .inl hzero
      · have hji : j ≠ i := by
          rintro rfl
          obtain rfl := some.inj (hcall.symm.trans hj)
          rw [hphase] at hd
          cases hd
        refine .inr (.inl ⟨j, other, id', run,
          (getElem?_set_ne (fun heq => hji heq.symm)).trans hj, hd, ?_⟩)
        exact (ticket_keeps hengine (by rw [ht]; exact hzero)).trans ht
    · exact .inr (.inr hmarked)

/-- A version is marked. -/
theorem Inv.marked {id run : Nat} {scope : String}
    {todo done : List Nat} (hphase : call.phase = .lock id run scope todo done) (ok : Bool)
    (hfound : ∀ v ∈ s.versions[id]?, ∀ k ∈ deployedIn s v.scope, k = id ∨ k ∈ done)
    (horder : ∀ l ∈ s.latest, l.2 < ticket s run) :
    Inv w ({ (s.update (deployedRow id done call.actor)).unlock i with
      latest := some (id, ticket s run) }.setCall i call (.ended ok)) := by
  have hok := h.calls i call hcall
  have hd : call.phase.deploying = some (id, run) := by rw [hphase]; rfl
  obtain ⟨v, text, r, hv, htext, hr, hcontent⟩ := hok.text id run hd
  obtain ⟨r', n, hr', hreturned⟩ := hok.returned id run hd (by rw [hphase]; rfl)
  obtain rfl := some.inj (hr.symm.trans hr')
  obtain ⟨v', hv', happroved⟩ := hok.seen id run hd (by rw [hphase]; rfl)
  obtain rfl := some.inj (hv.symm.trans hv')
  obtain ⟨hpos, hle, hlast⟩ := h.ticket_le hr hreturned
  have hkeeps : Keeps s ({ (s.update (deployedRow id done call.actor)).unlock i with
      latest := some (id, ticket s run) }.setCall i call (.ended ok)) := keeps_deployed rfl
  constructor
  case rows => exact h.rows.deployed rfl hv happroved (hfound v hv)
  case serial => exact h.serial
  case counted => exact h.counted
  case calls =>
    intro j other hj
    rcases Updates.set_eq_some hj with ⟨-, rfl⟩ | ⟨-, hj⟩
    · exact callOk_of_idle rfl
    · exact (h.calls j other hj).frame hkeeps (engineKeeps_refl _)
  case owned =>
    intro run' r' hr' hnot
    obtain ⟨j, other, id', hj, hother⟩ := h.owned run' r' hr' hnot
    have hji : j ≠ i := by
      rintro rfl
      obtain rfl := some.inj (hcall.symm.trans hj)
      rw [hphase] at hother
      cases hother
    exact ⟨j, other, id', (getElem?_set_ne (fun heq => hji heq.symm)).trans hj, hother⟩
  case latest =>
    intro id' n' hl
    obtain ⟨rfl, rfl⟩ := Prod.mk.inj (some.inj hl)
    obtain ⟨u, hu, hsame, -⟩ := hkeeps _ v hv
    exact ⟨hpos, hle, fun heq =>
      ⟨u, text, hu, by rw [hsame]; exact htext, by rw [← hcontent]; exact hlast heq⟩⟩
  case pending =>
    rcases h.pending with hzero | ⟨j, other, id', run', hj, hd', ht⟩ | ⟨id', hmarked⟩
    · exact .inl hzero
    · by_cases hji : j = i
      · subst hji
        obtain rfl := some.inj (hcall.symm.trans hj)
        obtain ⟨rfl, rfl⟩ := Prod.mk.inj (some.inj (hd.symm.trans hd'))
        exact .inr (.inr ⟨id, congrArg (fun n => some (id, n)) ht⟩)
      · exact .inr (.inl ⟨j, other, id', run',
          (getElem?_set_ne (fun heq => hji heq.symm)).trans hj, hd', ht⟩)
    · have hlt := horder _ hmarked
      exact absurd hle (Nat.not_le_of_lt hlt)

end

/-- A step of the deployments of the engine's file. -/
theorem Inv.engine {a : Deployment.Action} {engine : Deployment.State}
    (hnew : ∀ content, a ≠ .call content) (hserial : Deployment.Serial s.engine a)
    (hstep : Deployment.deployment.step s.engine a = some engine) :
    Inv w { s with engine := engine } := by
  have hkeeps : EngineKeeps s.engine engine :=
    fun _ _ hr => Deployment.step_run hstep hnew hr
  have hrows : Keeps s { s with engine := engine } := keeps_of_eq rfl
  obtain ⟨j, run, new, hrun, hnot, hruns, -, hcount⟩ := Deployment.step_set hstep hnew
  have hj : j < s.engine.runs.length := (List.getElem?_eq_some_iff.mp hrun).1
  constructor
  case rows => exact h.rows.of_eq rfl
  case serial => exact Deployment.serial_step h.serial hserial hstep
  case counted => exact Deployment.counted_step h.counted hstep hnew
  case calls => exact fun i call hcall => (h.calls i call hcall).frame hrows hkeeps
  case owned =>
    intro k r hr hrnot
    rw [hruns] at hr
    rcases Updates.set_eq_some hr with ⟨rfl, -⟩ | ⟨-, hr⟩
    · exact h.owned k run hrun hnot
    · exact h.owned k r hr hrnot
  case latest =>
    intro id n hl
    obtain ⟨hpos, hle, htext⟩ := h.latest id n hl
    rcases hcount with ⟨hreturned, hlast, -⟩ | ⟨hreturned, -, -⟩
    · show 1 ≤ n ∧ n ≤ engine.returned ∧ (n = engine.returned → _)
      rw [hreturned, hlast]
      exact ⟨hpos, hle, htext⟩
    · show 1 ≤ n ∧ n ≤ engine.returned ∧ (n = engine.returned → _)
      rw [hreturned]
      exact ⟨hpos, Nat.le_succ_of_le hle, fun heq => absurd heq (by omega)⟩
  case pending =>
    show engine.returned = 0 ∨ (∃ (i : Nat) (call : Call) (id run : Nat), s.calls[i]? = some call ∧
      call.phase.deploying = some (id, run) ∧ ticket { s with engine := engine } run =
        engine.returned) ∨ ∃ id, s.latest = some (id, engine.returned)
    rcases hcount with ⟨hreturned, -, -⟩ | ⟨hreturned, -, hphase⟩
    · rw [hreturned]
      rcases h.pending with hzero | ⟨i, call, id, k, hcall, hd, ht⟩ | hmarked
      · exact .inl hzero
      · by_cases hzero : s.engine.returned = 0
        · exact .inl hzero
        · refine .inr (.inl ⟨i, call, id, k, hcall, hd, ?_⟩)
          exact (ticket_keeps hkeeps (by rw [ht]; exact hzero)).trans ht
      · exact .inr (.inr hmarked)
    · obtain ⟨i, call, id, hcall, hd⟩ := h.owned j run hrun hnot
      refine .inr (.inl ⟨i, call, id, j, hcall, by rw [hd]; rfl, ?_⟩)
      rw [hreturned]
      refine ticket_eq (r := new) ?_ hphase
      show engine.runs[j]? = some new
      rw [hruns, getElem?_set_self hj]

end

theorem after_deploying {next : Phase} (h : next.deploying = none) (ack : Ack) :
    (call.after next ack).deploying = none := by
  cases ack with
  | ok =>
    rw [Call.after]
    split
    · exact h
    · rfl
  | lost error | refused error => rfl

/-- A transaction on the rows is committed by a call that is not deploying. -/
theorem Inv.commit (h : Inv w s) (hcall : s.calls[i]? = some call)
    (hphase : call.phase.deploying = none) (hnext : phase.deploying = none) (hrows : RowsOk w s')
    (hkeeps : Keeps s s') (hcalls : s'.calls = s.calls.set i { call with phase := phase })
    (hengine : s'.engine = s.engine) (hlatest : s'.latest = s.latest) : Inv w s' := by
  refine h.setCall hcall hrows hkeeps hcalls hengine hlatest (callOk_of_idle hnext)
    (fun id run heq => ?_) fun id run hd => ?_
  · rw [heq] at hphase
    cases hphase
  · rw [hphase] at hd
    cases hd

/-- **What a step keeps**, and what it keeps of the rows. -/
theorem inv_step {a : Action} (h : Inv w s) (horderly : Orderly w s a)
    (hstep : (versions w).step s a = some s') : Inv w s' ∧ Keeps s s' := by
  cases moves_of_step hstep with
  | call actor request => exact ⟨h.newCall actor request, keeps_of_eq rfl⟩
  | advance locked hcall hdeploying _ hmarking hseen =>
    exact ⟨h.advance locked hcall hdeploying hmarking hseen, keeps_of_eq rfl⟩
  | throw hcall hend hengine =>
    exact ⟨h.throw hcall (hend horderly) hengine, keeps_of_eq rfl⟩
  | begin hcall hphase hv htext => exact ⟨h.begin hcall hphase hv htext, keeps_of_eq rfl⟩
  | insert hcall hphase =>
    have hcommit := horderly _ hcall
    rw [hphase] at hcommit
    exact ⟨h.commit hcall (by rw [hphase]; rfl) (after_deploying rfl _)
      (h.rows.append rfl rfl (congrArg (checksum w) (Eq.symm hcommit))) (keeps_append rfl)
      rfl rfl rfl, keeps_append rfl⟩
  | validated hcall hphase =>
    have hcommit := horderly _ hcall
    rw [hphase] at hcommit
    exact ⟨h.commit hcall (by rw [hphase]; rfl) rfl (h.rows.validated rfl hcommit)
      (keeps_validated rfl hcommit) rfl rfl rfl, keeps_validated rfl hcommit⟩
  | approved hcall hphase =>
    have hcommit := horderly _ hcall
    rw [hphase] at hcommit
    exact ⟨h.commit hcall (by rw [hphase]; rfl) (after_deploying rfl _)
      (h.rows.approvedBy rfl) (keeps_approved rfl hcommit) rfl rfl rfl,
      keeps_approved rfl hcommit⟩
  | marked hcall hphase hack =>
    have hcommit := horderly _ hcall
    rw [hphase, OrderlyCommit, if_pos hack] at hcommit
    exact ⟨h.marked hcall hphase _ hcommit.1 hcommit.2, keeps_deployed rfl⟩
  | engine hnew hengine => exact ⟨h.engine hnew horderly hengine, keeps_of_eq rfl⟩

/-- While nobody deploys, no call of `deploy` is at work. -/
theorem Inv.still (h : Inv w s) (hidle : ∀ call ∈ s.calls, call.phase.deploying = none)
    (r : Deployment.Run) (hmem : r ∈ s.engine.runs) : r.phase.working = false := by
  obtain ⟨run, hr⟩ := mem_iff_getElem?.mp hmem
  rw [← Bool.not_eq_true]
  intro hworking
  have hnot : r.phase.isEnded = false := by
    cases hphase : r.phase with
    | ended outcome => rw [hphase] at hworking; cases hworking
    | _ => rfl
  obtain ⟨i, call, id, hcall, hphase⟩ := h.owned run r hr hnot
  have hnone := hidle call (mem_of_getElem? hcall)
  rw [hphase] at hnone
  cases hnone

theorem Inv.timely (h : Inv w s) : Lifecycle w s where
  one := h.rows.one
  approved v hmem hstatus := by
    obtain ⟨id, hv⟩ := mem_iff_getElem?.mp hmem
    exact h.rows.approved id v hv (.inr hstatus)
  hashed v hmem := by
    obtain ⟨id, hv⟩ := mem_iff_getElem?.mp hmem
    exact h.rows.hashed id v hv
  file hidle id n hl := by
    obtain ⟨hpos, hle, htext⟩ := h.latest id n hl
    rcases h.pending with hzero | ⟨i, call, id', run, hcall, hd, -⟩ | ⟨id', hmarked⟩
    · omega
    · rw [hidle call (mem_of_getElem? hcall)] at hd
      cases hd
    · obtain ⟨rfl, rfl⟩ := Prod.mk.inj (some.inj (hl.symm.trans hmarked))
      obtain ⟨v, text, hv, hrendered, hlast⟩ := htext rfl
      exact ⟨v, text, hv, hrendered, h.serial.idle (h.still hidle) _ hlast⟩

end Step

theorem keeps_trans {s t u : State} (hst : Keeps s t) (htu : Keeps t u) : Keeps s u := by
  intro id v hv
  obtain ⟨v', hv', hcontent, happroved, hfinal⟩ := hst id v hv
  obtain ⟨v'', hv'', hcontent', happroved', hfinal'⟩ := htu id v' hv'
  exact ⟨v'', hv'', hcontent'.trans hcontent, fun h => happroved' (happroved h),
    fun h => hfinal' (hfinal h)⟩

/-- **Versions follow their lifecycle** in every run whose steps are orderly: in every state that
is reached the lifecycle holds, and what is deployed or superseded there is so in every later
one. -/
theorem lifecycle (w : Service) (target temporary : Option Bytes) (as bs : List Action)
    (s s' : State) (horderly : (versions w).Along (Orderly w) (init target temporary) (as ++ bs))
    (hrun : (versions w).run (init target temporary) as = some s)
    (hrest : (versions w).run s bs = some s') : Lifecycle w s ∧ Kept s s' := by
  have hinv : Inv w s := (versions w).invariant_along
    (fun _ _ _ hi hp hs => (inv_step hi hp hs).1) (inv_init w target temporary)
    ((versions w).along_of_append horderly) hrun
  refine ⟨hinv.timely, Keeps.kept ?_⟩
  exact (versions w).monotone_along (R := Keeps) (I := Inv w) (fun s => keeps_of_eq rfl)
    (fun _ _ _ => keeps_trans) (fun _ _ _ hi hp hs => inv_step hi hp hs) hinv
    ((versions w).along_suffix horderly hrun) hrest

/-! ## Four runs -/

/-- A service whose checksum is the text itself. -/
def plain : Service := ⟨fun text => text, fun json => json, fun id => toString id⟩

/-- A version is created and approved. -/
def createApproved (i j id : Nat) (content : Content) : List Action :=
  [.call "operator" (.create "global" content), .select i, .commit i .ok,
    .call "operator" (.approve id), .select j, .commit j .ok]

/-- The first deployment of the engine's file, and of its version. -/
def deployFirst (i id : Nat) : List Action :=
  [.call "operator" (.deploy id), .read i none, .engine (.look 0), .engine (.create 0),
    .engine (.write 0 1), .engine (.rename 0), .engine (.reload 0 true), .resume i, .select i,
    .select i, .commit i .ok]

/-- The next deployment of the engine's file. -/
def engineNext (i : Nat) : List Action :=
  [.engine (.look 1), .engine (.read 1 9), .engine (.readEnd 1), .engine (.create 1),
    .engine (.write 1 1), .engine (.rename 1), .engine (.reload 1 true), .resume i]

/-- A version is deployed and rolled back to. -/
def rolledBack : List Action :=
  createApproved 0 1 0 [("rendered", .string "a")] ++ deployFirst 2 0 ++
    [.call "operator" (.rollback 0), .read 3 (some (.other "true")), .select 3, .commit 3 .ok,
      .select 3, .commit 3 .ok, .read 3 none] ++ engineNext 3 ++
    [.select 3, .select 3, .lockRow 3, .commit 3 .ok]

theorem rolledBack_lifecycle : ∃ s s', (versions plain).run (init none none) rolledBack = some s ∧
    (versions plain).run s [.call "operator" (.validate 0)] = some s' ∧
      Lifecycle plain s ∧ Kept s s' := by
  obtain ⟨s, hs, hsome⟩ := (versions plain).exists_run (s := init none none) (w := rolledBack)
    (fun s => ((versions plain).run s [.call "operator" (.validate 0)]).isSome)
    (by decide +kernel)
  obtain ⟨s', hs'⟩ := isSome_iff_exists.mp hsome
  exact ⟨s, s', hs, hs', lifecycle plain none none rolledBack [.call "operator" (.validate 0)] s s'
    ((versions plain).along_of_check _ (by decide +kernel)) hs hs'⟩

/-- A validation reads a draft, which is approved and deployed before the validation writes. -/
def overtaken : List Action :=
  [.call "operator" (.create "global" [("rendered", .string "a")]), .select 0, .commit 0 .ok,
    .call "operator" (.validate 0), .read 1 (some (.other "true")), .select 1,
    .call "operator" (.approve 0), .select 2, .commit 2 .ok] ++ deployFirst 3 0

/-- The deployed version is validated again. -/
theorem stale_validation_returns : ∃ s s',
    (versions plain).run (init none none) overtaken = some s ∧
      (versions plain).run s [.commit 1 .ok] = some s' ∧ ¬ Kept s s' := by
  obtain ⟨s, hs, hcheck⟩ := (versions plain).exists_run (s := init none none) (w := overtaken)
    (fun s => decide ((∃ v ∈ (s.versions[0]? : Option Version), v.status.final = true) ∧
      ∃ s' ∈ (versions plain).run s [.commit 1 .ok], ∃ v ∈ (s'.versions[0]? : Option Version),
        v.status = .validated)) (by decide +kernel)
  obtain ⟨⟨v, hv, hfinal⟩, s', hs', v', hv', hstatus⟩ := of_decide_eq_true hcheck
  refine ⟨s, s', hs, hs', fun h => ?_⟩
  obtain ⟨u, hu, hstill⟩ := h 0 v hv hfinal
  obtain rfl := some.inj (hv'.symm.trans hu)
  rw [hstatus] at hstill
  cases hstill

end Jkannel.Configuration.Versions

