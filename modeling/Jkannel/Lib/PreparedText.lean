import Mathlib.Data.List.Infix

/-!
# The text of a prepared statement

A statement that takes parameters is a text put together from three kinds of pieces: fixed words,
expressions that somebody wrote beforehand, and references to parameters by their number.  Each
reference is made for a value, and the driver will put in its place whatever stands at that number
in the list of parameters.

* `Piece` is a piece, and `render` the text of a list of them.
* `Closed` says that a list of pieces has no other fixed words than those of a list, no other
  expressions than the allowed ones, and no reference that the parameters do not keep.
* `Closed.mono` says that appending parameters breaks no reference, and `closed_ref` that the
  number of a parameter just appended is kept.
-/

namespace PreparedText

open List

variable {E P : Type}

/-- A piece of a statement's text.  Parameters are counted from one. -/
inductive Piece (E P : Type) where
  | keyword (text : String)
  | expr (expression : E)
  | ref (number : Nat) (value : P)

/-- The text of a piece. -/
def Piece.render (text : E → String) : Piece E P → String
  | .keyword word => word
  | .expr expression => text expression
  | .ref number _ => "$" ++ toString number

/-- The text of a statement. -/
def render (text : E → String) (pieces : List (Piece E P)) : String :=
  String.join (pieces.map (Piece.render text))

/-- What a piece may be. -/
def Piece.Closed (keywords : List String) (allowed : E → Prop) (params : List P) :
    Piece E P → Prop
  | .keyword word => word ∈ keywords
  | .expr expression => allowed expression
  | .ref number value => 0 < number ∧ params[number - 1]? = some value

/-- What a statement may be. -/
def Closed (keywords : List String) (allowed : E → Prop) (params : List P)
    (pieces : List (Piece E P)) : Prop :=
  ∀ piece ∈ pieces, piece.Closed keywords allowed params

section Closed

variable {keywords : List String} {allowed : E → Prop} {params params' : List P}
  {pieces pieces' : List (Piece E P)}

theorem closed_nil : Closed keywords allowed params ([] : List (Piece E P)) :=
  fun _ h => by cases h

theorem closed_append : Closed keywords allowed params (pieces ++ pieces') ↔
    Closed keywords allowed params pieces ∧ Closed keywords allowed params pieces' :=
  forall_mem_append

theorem closed_cons {piece : Piece E P} : Closed keywords allowed params (piece :: pieces) ↔
    piece.Closed keywords allowed params ∧ Closed keywords allowed params pieces :=
  forall_mem_cons

theorem closed_keyword {word : String} (hword : word ∈ keywords)
    (hrest : Closed keywords allowed params pieces) :
    Closed keywords allowed params (.keyword word :: pieces) :=
  closed_cons.mpr ⟨hword, hrest⟩

theorem closed_expr {expression : E} (hexpression : allowed expression)
    (hrest : Closed keywords allowed params pieces) :
    Closed keywords allowed params (.expr expression :: pieces) :=
  closed_cons.mpr ⟨hexpression, hrest⟩

/-- Pieces that are closed, with closed separators between them. -/
theorem closed_intercalate {lists : List (List (Piece E P))}
    (hsep : Closed keywords allowed params pieces)
    (hlists : ∀ list ∈ lists, Closed keywords allowed params list) :
    Closed keywords allowed params (pieces.intercalate lists) := by
  induction lists with
  | nil => exact closed_nil
  | cons list lists ih =>
    have hrest := ih fun other hother => hlists other (mem_cons_of_mem _ hother)
    cases lists with
    | nil =>
      rw [intercalate_singleton]
      exact hlists list mem_cons_self
    | cons other lists =>
      rw [intercalate_cons_cons]
      exact closed_append.mpr ⟨closed_append.mpr ⟨hlists list mem_cons_self, hsep⟩, hrest⟩

/-- Appending parameters keeps every reference. -/
theorem Closed.mono (h : Closed keywords allowed params pieces) (hprefixed : params <+: params') :
    Closed keywords allowed params' pieces := by
  intro piece hpiece
  have hclosed := h piece hpiece
  cases piece with
  | keyword _ | expr _ => exact hclosed
  | ref number value =>
    refine ⟨hclosed.1, ?_⟩
    obtain ⟨hlt, -⟩ := List.getElem?_eq_some_iff.mp hclosed.2
    obtain ⟨appended, rfl⟩ := hprefixed
    rw [getElem?_append_left hlt]
    exact hclosed.2

/-- The number of the parameter appended last is its reference. -/
theorem closed_ref (value : P) : (Piece.ref (params ++ [value]).length value : Piece E P).Closed
    keywords allowed (params ++ [value]) := by
  refine ⟨by rw [length_append]; exact Nat.succ_pos _, ?_⟩
  rw [length_append, length_singleton, Nat.add_sub_cancel, getElem?_concat_length]

end Closed

end PreparedText
