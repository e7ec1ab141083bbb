import Mathlib.Data.List.Basic

/-!
# Reading frames off a stream

A stream comes in pieces, cut anywhere.  A reader keeps what it has not used, and at each piece
takes one frame after another off the front until there is no whole frame left, a frame answers
what it waits for, or what it has cannot be the front of any frame.

* `Decoder` says what the front of a buffer is, and that more bytes at the end do not change that.
* `Runs` is the loop over a buffer and `drain` computes it: the loop always ends (`runs_drain`).
* `foldl_resume`: however the stream is cut, the reader gets what it would get from the whole of it.
* `drain_answered_iff` says which streams are answered, in terms of `Frames`.
-/

namespace Framing

variable {α F E R : Type}

/-- The front of a buffer: not yet a frame, never a frame, or a frame and what follows it. -/
inductive Next (α F E : Type) where
  | wait
  | bad (e : E)
  | frame (f : F) (rest : List α)

/-- A decoder that reads one frame. -/
structure Decoder (α F E : Type) where
  next : List α → Next α F E
  shorter : ∀ {b : List α} {f : F} {rest : List α}, next b = .frame f rest → rest.length < b.length
  frame_append : ∀ {b : List α} {f : F} {rest : List α} (c : List α),
    next b = .frame f rest → next (b ++ c) = .frame f (rest ++ c)
  bad_append : ∀ {b : List α} {e : E} (c : List α), next b = .bad e → next (b ++ c) = .bad e

/-- What the loop ends with: it waits for more, it gives up, or it has its answer. -/
inductive Outcome (α E R : Type) where
  | waiting (rest : List α)
  | bad (e : E)
  | answered (r : R)

/-! ## The loop -/

section Loop

variable (d : Decoder α F E) (answer : F → Option R)

/-- The loop, one constructor for each way a turn can go. -/
inductive Runs : List α → Outcome α E R → Prop where
  | wait {b : List α} : d.next b = .wait → Runs b (.waiting b)
  | bad {b : List α} {e : E} : d.next b = .bad e → Runs b (.bad e)
  | answered {b : List α} {f : F} {rest : List α} {r : R} :
      d.next b = .frame f rest → answer f = some r → Runs b (.answered r)
  | passed {b : List α} {f : F} {rest : List α} {o : Outcome α E R} :
      d.next b = .frame f rest → answer f = none → Runs rest o → Runs b o

/-- At most `n` turns of the loop. -/
def turns : Nat → List α → Outcome α E R
  | 0, b => .waiting b
  | n + 1, b =>
    match d.next b with
    | .wait => .waiting b
    | .bad e => .bad e
    | .frame f rest =>
      match answer f with
      | some r => .answered r
      | none => turns n rest

/-- The loop over a buffer: each turn but the last makes it shorter. -/
def drain (b : List α) : Outcome α E R := turns d answer (b.length + 1) b

variable {b : List α} {o : Outcome α E R}

theorem runs_turns {n : Nat} (h : b.length < n) : Runs d answer b (turns d answer n b) := by
  induction n generalizing b with
  | zero => exact absurd h (Nat.not_lt_zero _)
  | succ n ih =>
    rw [turns]
    cases hn : d.next b with
    | wait => exact .wait hn
    | bad e => exact .bad hn
    | frame f rest =>
      have hrest := Nat.lt_of_lt_of_le (d.shorter hn) (Nat.le_of_lt_succ h)
      cases hf : answer f with
      | some r =>
        simp only [hf]
        exact .answered hn hf
      | none =>
        simp only [hf]
        exact .passed hn hf (ih hrest)

/-- **The loop ends**, with what `drain` computes. -/
theorem runs_drain (b : List α) : Runs d answer b (drain d answer b) :=
  runs_turns d answer (Nat.lt_succ_self _)

variable {d answer}

theorem Runs.unique {o' : Outcome α E R} (h : Runs d answer b o) (h' : Runs d answer b o') :
    o' = o := by
  induction h with
  | wait hn =>
    cases h' with
    | wait => rfl
    | bad hn' | answered hn' | passed hn' => cases hn.symm.trans hn'
  | bad hn =>
    cases h' with
    | wait hn' | answered hn' | passed hn' => cases hn.symm.trans hn'
    | bad hn' => cases hn.symm.trans hn'; rfl
  | answered hn hf =>
    cases h' with
    | wait hn' => cases hn.symm.trans hn'
    | bad hn' => cases hn.symm.trans hn'
    | answered hn' hf' =>
      cases hn.symm.trans hn'
      cases hf.symm.trans hf'
      rfl
    | passed hn' hf' =>
      cases hn.symm.trans hn'
      cases hf.symm.trans hf'
  | passed hn hf _ ih =>
    cases h' with
    | wait hn' => cases hn.symm.trans hn'
    | bad hn' => cases hn.symm.trans hn'
    | answered hn' hf' =>
      cases hn.symm.trans hn'
      cases hf.symm.trans hf'
    | passed hn' hf' h' =>
      cases hn.symm.trans hn'
      exact ih h'

theorem drain_eq_iff : drain d answer b = o ↔ Runs d answer b o := by
  refine ⟨fun h => h ▸ runs_drain d answer b, fun h => ?_⟩
  exact h.unique (runs_drain d answer b)

/-! ## Streams in pieces -/

/-- What more bytes at the end of a buffer do to the outcome. -/
def resume (d : Decoder α F E) (answer : F → Option R) (o : Outcome α E R) (c : List α) :
    Outcome α E R :=
  match o with
  | .waiting rest => drain d answer (rest ++ c)
  | .bad e => .bad e
  | .answered r => .answered r

theorem Runs.append (h : Runs d answer b o) (c : List α) :
    Runs d answer (b ++ c) (resume d answer o c) := by
  induction h with
  | wait => exact runs_drain d answer _
  | bad hn => exact .bad (d.bad_append c hn)
  | answered hn hf => exact .answered (d.frame_append c hn) hf
  | passed hn hf _ ih => exact .passed (d.frame_append c hn) hf ih

theorem resume_drain (b c : List α) :
    resume d answer (drain d answer b) c = drain d answer (b ++ c) :=
  (drain_eq_iff.mpr ((runs_drain d answer b).append c)).symm

/-- **A stream is read the same however it is cut.** -/
theorem foldl_resume (b : List α) (chunks : List (List α)) :
    chunks.foldl (resume d answer) (drain d answer b) = drain d answer (b ++ chunks.flatten) := by
  induction chunks generalizing b with
  | nil => rw [List.foldl_nil, List.flatten_nil, List.append_nil]
  | cons c chunks ih =>
    rw [List.foldl_cons, resume_drain, ih, List.flatten_cons, List.append_assoc]

/-! ## The frames of a stream -/

/-- The frames at the front of a stream, and what follows them. -/
inductive Frames (d : Decoder α F E) : List α → List F → List α → Prop where
  | nil (b : List α) : Frames d b [] b
  | cons {b : List α} {f : F} {rest : List α} {fs : List F} {rest' : List α} :
      d.next b = .frame f rest → Frames d rest fs rest' → Frames d b (f :: fs) rest'

/-- **A stream is answered** by the first of its frames that is an answer. -/
theorem runs_answered_iff {r : R} :
    Runs d answer b (.answered r) ↔
      ∃ fs f rest, Frames d b (fs ++ [f]) rest ∧ (∀ g ∈ fs, answer g = none) ∧ answer f = some r := by
  constructor
  · intro h
    generalize ho : Outcome.answered r = o at h
    induction h with
    | wait | bad => cases ho
    | answered hn hf =>
      cases ho
      exact ⟨[], _, _, .cons hn (.nil _), by simp, hf⟩
    | passed hn hf _ ih =>
      obtain ⟨fs, f, rest, hframes, hnone, hsome⟩ := ih ho
      exact ⟨_ :: fs, f, rest, .cons hn hframes, List.forall_mem_cons.mpr ⟨hf, hnone⟩, hsome⟩
  · rintro ⟨fs, f, rest, hframes, hnone, hsome⟩
    induction fs generalizing b with
    | nil =>
      cases hframes with
      | cons hn _ => exact .answered hn hsome
    | cons g fs ih =>
      obtain ⟨hg, hnone⟩ := List.forall_mem_cons.mp hnone
      cases hframes with
      | cons hn hframes => exact .passed hn hg (ih hframes hnone)

end Loop

end Framing
