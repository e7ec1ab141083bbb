import Mathlib.Data.List.Basic

/-!
# Placeholders in a text

A placeholder is `${NAME}`, with a name of a kind that is given.  `placeholders` lists the names in
a text in its order.

* `placeholders_append_cons`: a character that is in no placeholder separates what stands on its two
  sides, so that a text is scanned line by line and entry by entry.
* `placeholders_braced`: what is written as a placeholder is found as one.
-/

namespace Placeholders

open List Option

variable (isName : List Char → Bool)

/-- What stands before the first closing brace. -/
def untilClose : List Char → Option (List Char)
  | [] => none
  | c :: rest => if c = '\x7d' then some [] else (untilClose rest).map (c :: ·)

/-- The name in the placeholder that a text begins with. -/
def nameAt (isName : List Char → Bool) : List Char → Option String
  | '$' :: '\x7b' :: rest => ((untilClose rest).filter isName).map String.ofList
  | _ => none

/-- The names in a text, in its order. -/
def placeholders (isName : List Char → Bool) : List Char → List String
  | [] => []
  | c :: rest => (nameAt isName (c :: rest)).toList ++ placeholders isName rest

theorem nameAt_of_ne {c : Char} (hc : c ≠ '$') (rest : List Char) :
    nameAt isName (c :: rest) = none := by
  rw [nameAt]
  rintro rest' heq
  exact hc (List.cons.inj heq).1

theorem nameAt_dollar_of_ne {c : Char} (hc : c ≠ '\x7b') (rest : List Char) :
    nameAt isName ('$' :: c :: rest) = none := by
  rw [nameAt]
  rintro rest' heq
  exact hc (List.cons.inj (List.cons.inj heq).2).1

variable {a name : List Char} {sep : Char}

/-- What has no `$` brings no placeholder, and none begins in it. -/
theorem placeholders_append (ha : '$' ∉ a) (b : List Char) :
    placeholders isName (a ++ b) = placeholders isName b := by
  induction a with
  | nil => rfl
  | cons c a ih =>
    have hc : c ≠ '$' := fun h => ha (h ▸ mem_cons_self)
    rw [cons_append, placeholders, nameAt_of_ne isName hc,
      ih fun hmem => ha (mem_cons_of_mem c hmem)]
    rfl

theorem placeholders_of_notMem (ha : '$' ∉ a) : placeholders isName a = [] := by
  have h := placeholders_append isName ha []
  rwa [append_nil] at h

variable {isName}

/-- A character that is in no placeholder. -/
structure Separates (isName : List Char → Bool) (sep : Char) : Prop where
  dollar : sep ≠ '$'
  brace : sep ≠ '\x7b'
  close : sep ≠ '\x7d'
  name : ∀ cs, isName cs = true → sep ∉ cs

theorem untilClose_append (h : untilClose a = some name) (b : List Char) :
    untilClose (a ++ b) = some name := by
  induction a generalizing name with
  | nil => cases h
  | cons c a ih =>
    rw [untilClose] at h
    rw [cons_append, untilClose]
    split at h
    · next hc => rw [if_pos hc, h]
    · next hc =>
      obtain ⟨name', hname', rfl⟩ := map_eq_some_iff.mp h
      rw [if_neg hc, ih hname']
      rfl

/-- A name that is not closed before a separator has the separator in it. -/
theorem mem_of_untilClose (hsep : sep ≠ '\x7d') {b : List Char} (hnone : untilClose a = none)
    (h : untilClose (a ++ sep :: b) = some name) : sep ∈ name := by
  induction a generalizing name with
  | nil =>
    rw [nil_append, untilClose, if_neg hsep] at h
    obtain ⟨name', -, rfl⟩ := map_eq_some_iff.mp h
    exact mem_cons_self
  | cons c a ih =>
    rw [cons_append, untilClose] at h
    rw [untilClose] at hnone
    split at h
    · next hc =>
      rw [if_pos hc] at hnone
      exact (some_ne_none _ hnone).elim
    · next hc =>
      rw [if_neg hc, map_eq_none_iff] at hnone
      obtain ⟨name', hname', rfl⟩ := map_eq_some_iff.mp h
      exact mem_cons_of_mem c (ih hnone hname')

section

variable (hsep : Separates isName sep)
include hsep

theorem nameAt_append_cons (c : Char) (a b : List Char) :
    nameAt isName (c :: a ++ sep :: b) = nameAt isName (c :: a) := by
  by_cases hc : c = '$'
  · subst hc
    cases a with
    | nil =>
      rw [cons_append, nil_append, nameAt_dollar_of_ne isName hsep.brace]
      rfl
    | cons d a =>
      by_cases hd : d = '\x7b'
      · subst hd
        simp only [cons_append, nameAt]
        cases hclose : untilClose a with
        | some name => rw [untilClose_append hclose]
        | none =>
          -- without a brace on the left of it the separator is in what would be the name
          cases hname : untilClose (a ++ sep :: b) with
          | none => rfl
          | some name =>
            have hmem := mem_of_untilClose hsep.close hclose hname
            rw [filter_some, if_neg fun h => hsep.name name h hmem]
            rfl
      · rw [cons_append, cons_append, nameAt_dollar_of_ne isName hd, nameAt_dollar_of_ne isName hd]
  · rw [cons_append, nameAt_of_ne isName hc, nameAt_of_ne isName hc]

theorem placeholders_append_cons (a b : List Char) :
    placeholders isName (a ++ sep :: b) = placeholders isName a ++ placeholders isName b := by
  induction a with
  | nil =>
    show (nameAt isName (sep :: b)).toList ++ placeholders isName b = placeholders isName b
    rw [nameAt_of_ne isName hsep.dollar]
    rfl
  | cons c a ih =>
    rw [cons_append, placeholders, placeholders, ih, ← cons_append,
      nameAt_append_cons hsep, append_assoc]

theorem placeholders_intercalate (pieces : List (List Char)) :
    placeholders isName ([sep].intercalate pieces) = pieces.flatMap (placeholders isName) := by
  induction pieces with
  | nil => rfl
  | cons p ps ih =>
    cases ps with
    | nil => rw [intercalate_singleton, flatMap_singleton]
    | cons q qs =>
      rw [intercalate_cons_cons, append_assoc, singleton_append, placeholders_append_cons hsep, ih]
      rfl

end

theorem untilClose_concat (h : '\x7d' ∉ name) : untilClose (name ++ ['\x7d']) = some name := by
  induction name with
  | nil => rfl
  | cons c name ih =>
    rw [cons_append, untilClose, if_neg (fun hc : c = '\x7d' => h (hc ▸ mem_cons_self)),
      ih fun hmem => h (mem_cons_of_mem c hmem)]
    rfl

/-- **What is written as a placeholder is found as one.** -/
theorem placeholders_braced (hname : isName name = true) (hdollar : '$' ∉ name)
    (hclose : '\x7d' ∉ name) :
    placeholders isName ('$' :: '\x7b' :: (name ++ ['\x7d'])) = [String.ofList name] := by
  have hrest : placeholders isName ('\x7b' :: (name ++ ['\x7d'])) = [] := by
    refine placeholders_of_notMem isName fun hmem => ?_
    rcases mem_cons.mp hmem with hc | hmem
    · exact absurd hc (by decide)
    · rcases mem_append.mp hmem with hmem | hmem
      · exact hdollar hmem
      · exact absurd (mem_singleton.mp hmem) (by decide)
  rw [placeholders, nameAt, untilClose_concat hclose, filter_some, if_pos hname, hrest]
  rfl

end Placeholders
