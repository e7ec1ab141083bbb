import Mathlib.Tactic.NormNum
import Jkannel.Messaging.RegexSafety

/-!
# What the regular-expression scan counts

The scan of a content rule's pattern keeps two counters and two marks.  Here is what they know of a
stretch of the pattern, and that the scan reads a quantifier as the language does.

* `Safe` is what the scan promises, about the tree the language reads.
* `Covers` says what the counters know of the terms read so far; `Covers.seq` puts two stretches
  together, `Covers.alt` a bar after one, and `Covers.group` a group around one.
* `quantifyAtom_counted` compares the two readings of a quantifier.
-/

namespace Jkannel.Messaging

open List
open AnnexB

/-! ## The promise -/

/-- No bound of the repetition is above the greatest one. -/
def BoundedRepeat (q : Quantifier) : Prop :=
  q.least ≤ MAX_REPEAT_BOUND ∧ ∀ most ∈ q.most, most ≤ MAX_REPEAT_BOUND

/-- A node of the tree is none that the scan refuses: no reference and no lookbehind, no bound too
large, and no repeated group with a quantifier or a bar in it. -/
structure Harmless (t : Tree) : Prop where
  notNested : ∀ kind body q, t = .group kind body (some q) →
    body.quantifiers = [] ∧ body.alternates = false
  noReference : t.isReference = false
  noLookbehind : t.isLookbehind = false
  bounded : ∀ q ∈ t.quantifier?, BoundedRepeat q

def isUnbounded (q : Quantifier) : Bool := q.most.isNone

/-- What the scan promises of a pattern it lets in. -/
structure Safe (t : Tree) : Prop where
  harmless : ∀ s ∈ t.subtrees, Harmless s
  fewQuantifiers : t.quantifiers.length ≤ MAX_QUANTIFIERS
  fewUnbounded : t.quantifiers.countP isUnbounded ≤ MAX_UNBOUNDED_QUANTIFIERS

/-- A class of the pattern has no members. -/
def hasEmptyClass (t : Tree) : Bool := t.subtrees.any Tree.isEmptyClass

/-! ## Trees piece by piece -/

section Trees

variable {before : Option Tree} {sofar left right body t : Tree} {kind : GroupKind}
  {q : Option Quantifier}

theorem quantifiers_seq :
    (Tree.seq left right).quantifiers = left.quantifiers ++ right.quantifiers := by
  rw [Tree.quantifiers, Tree.subtrees, filterMap_cons_none rfl, filterMap_append]
  rfl

theorem quantifiers_alt :
    (Tree.alt left right).quantifiers = left.quantifiers ++ right.quantifiers := by
  rw [Tree.quantifiers, Tree.subtrees, filterMap_cons_none rfl, filterMap_append]
  rfl

theorem quantifiers_group :
    (Tree.group kind body q).quantifiers = q.toList ++ body.quantifiers := by
  cases q with
  | none => exact filterMap_cons_none rfl
  | some q => exact filterMap_cons_some rfl

theorem alternates_seq :
    (Tree.seq left right).alternates = (left.alternates || right.alternates) := by
  simp [Tree.alternates, Tree.subtrees, Tree.isAlt]

theorem hasEmptyClass_seq :
    hasEmptyClass (.seq left right) = (hasEmptyClass left || hasEmptyClass right) := by
  simp [hasEmptyClass, Tree.subtrees, Tree.isEmptyClass]

theorem hasEmptyClass_alt :
    hasEmptyClass (.alt left right) = (hasEmptyClass left || hasEmptyClass right) := by
  simp [hasEmptyClass, Tree.subtrees, Tree.isEmptyClass]

theorem hasEmptyClass_group : hasEmptyClass (.group kind body q) = hasEmptyClass body := by
  simp [hasEmptyClass, Tree.subtrees, Tree.isEmptyClass]

theorem hasEmptyClass_joined :
    hasEmptyClass (joined before (.seq sofar t)) =
      (hasEmptyClass (joined before sofar) || hasEmptyClass t) := by
  cases before with
  | none => exact hasEmptyClass_seq
  | some before => simp only [joined, hasEmptyClass_alt, hasEmptyClass_seq, Bool.or_assoc]

/-- A node that is neither a leaf nor a group is harmless. -/
theorem harmless_seq : Harmless (.seq left right) := by
  refine ⟨?_, rfl, rfl, ?_⟩
  · intro kind body q h
    cases h
  · intro q h
    cases h

theorem harmless_alt : Harmless (.alt left right) := by
  refine ⟨?_, rfl, rfl, ?_⟩
  · intro kind body q h
    cases h
  · intro q h
    cases h

/-- An empty class that was read stays in the tree. -/
theorem hasEmptyClass_of_disjunction {fuel : ℕ} {cs rest : Source}
    (hread : disjunction fuel before sofar cs = some (t, rest)) (ht : hasEmptyClass t = false) :
    hasEmptyClass (joined before sofar) = false := by
  induction fuel generalizing before sofar cs with
  | zero => cases hread
  | succ fuel ih =>
    simp only [disjunction] at hread
    split at hread
    · cases hread
    · cases hread
      exact ht
    · have h := ih hread
      simp only [joined, hasEmptyClass_alt, Bool.or_eq_false_iff] at h
      exact h.1
    · have h := ih hread
      rw [hasEmptyClass_joined, Bool.or_eq_false_iff] at h
      exact h.1
    · split at hread
      · cases hread
      · cases hread
      · split at hread
        · cases hread
        · have h := ih hread
          rw [hasEmptyClass_joined, Bool.or_eq_false_iff] at h
          exact h.1

end Trees

/-! ## The counters -/

section Counters

variable {base state state' : ScanState} {found found' bar bar' : Bool} {left right t : Tree}

/-- From the counters `base` on, the scan has counted what is in a stretch, met a quantifier or a
bar if there is one, and found nothing to refuse. -/
structure Covers (base state : ScanState) (found bar : Bool) (t : Tree) : Prop where
  quantifiers : base.quantifiers + t.quantifiers.length ≤ state.quantifiers
  unbounded : base.unbounded + t.quantifiers.countP isUnbounded ≤ state.unbounded
  found : t.quantifiers ≠ [] → found = true
  bar : t.alternates = true → bar = true
  harmless : ∀ s ∈ t.subtrees, Harmless s

def Capped (state : ScanState) : Prop :=
  state.quantifiers ≤ MAX_QUANTIFIERS ∧ state.unbounded ≤ MAX_UNBOUNDED_QUANTIFIERS

theorem Covers.empty : Covers base base false false .empty := by
  refine ⟨Nat.le_refl _, Nat.le_refl _, fun h => absurd rfl h, fun h => ?_, ?_⟩
  · cases h
  · intro s hs
    obtain rfl := mem_singleton.mp hs
    refine ⟨?_, rfl, rfl, ?_⟩
    · intro kind body q h
      cases h
    · intro q h
      cases h

/-- One stretch after the other. -/
theorem Covers.seq (hleft : Covers base state found bar left)
    (hright : Covers state state' found' bar' right) :
    Covers base state' (found || found') (bar || bar') (.seq left right) := by
  refine ⟨?_, ?_, ?_, ?_, ?_⟩
  · rw [quantifiers_seq, length_append, ← Nat.add_assoc]
    exact (Nat.add_le_add_right hleft.quantifiers _).trans hright.quantifiers
  · rw [quantifiers_seq, countP_append, ← Nat.add_assoc]
    exact (Nat.add_le_add_right hleft.unbounded _).trans hright.unbounded
  · intro h
    rw [quantifiers_seq] at h
    by_cases hempty : left.quantifiers = []
    · rw [hempty, nil_append] at h
      rw [hright.found h, Bool.or_true]
    · rw [hleft.found hempty, Bool.true_or]
  · intro h
    rw [alternates_seq, Bool.or_eq_true] at h
    obtain h | h := h
    · rw [hleft.bar h, Bool.true_or]
    · rw [hright.bar h, Bool.or_true]
  · intro s hs
    obtain rfl | hs := mem_cons.mp hs
    · exact harmless_seq
    · obtain hs | hs := mem_append.mp hs
      · exact hleft.harmless s hs
      · exact hright.harmless s hs

/-- A bar after the stretch. -/
theorem Covers.alt (h : Covers base state found bar t) :
    Covers base state found true (joined (some t) .empty) := by
  refine ⟨?_, ?_, ?_, fun _ => rfl, ?_⟩
  · rw [joined, quantifiers_alt, length_append]
    exact h.quantifiers
  · rw [joined, quantifiers_alt, countP_append]
    exact h.unbounded
  · intro hne
    rw [joined, quantifiers_alt] at hne
    exact h.found fun hempty => hne (by rw [hempty]; rfl)
  · intro s hs
    obtain rfl | hs := mem_cons.mp hs
    · exact harmless_alt
    · obtain hs | hs := mem_append.mp hs
      · exact h.harmless s hs
      · exact (@Covers.empty base).harmless s hs

/-- Where the terms of an alternative hang in the tree does not matter. -/
theorem Covers.joined {before : Option Tree} {sofar : Tree}
    (h : Covers base state found bar (.seq (joined before sofar) t)) :
    Covers base state found bar (joined before (.seq sofar t)) := by
  cases before with
  | none => exact h
  | some before =>
    have hquantifiers : (Tree.alt before (.seq sofar t)).quantifiers =
        (Tree.seq (.alt before sofar) t).quantifiers := by
      simp only [quantifiers_alt, quantifiers_seq, append_assoc]
    have hlength := h.quantifiers
    have hunbounded := h.unbounded
    have hfound := h.found
    simp only [AnnexB.joined] at hlength hunbounded hfound
    rw [← hquantifiers] at hlength hunbounded hfound
    refine ⟨hlength, hunbounded, hfound, fun _ => h.bar ?_, ?_⟩
    · rw [alternates_seq]
      exact Bool.true_or _
    · have hharmless := h.harmless
      simp only [AnnexB.joined, Tree.subtrees, mem_cons, mem_append] at hharmless ⊢
      rintro s (rfl | hs | rfl | hs | hs)
      · exact harmless_alt
      · exact hharmless s (.inr (.inl (.inr (.inl hs))))
      · exact harmless_seq
      · exact hharmless s (.inr (.inl (.inr (.inr hs))))
      · exact hharmless s (.inr (.inr hs))

end Counters

/-! ## Reading a quantifier -/

section Quantifiers

variable {cs rest digits body : Source} {state state' : ScanState}

theorem decimal_foldl_lt (h : ∀ u ∈ digits, isDigit u = true) (n : ℕ) :
    digits.foldl (fun (n : ℕ) u => 10 * n + (u.toNat - 48)) n < (n + 1) * 10 ^ digits.length := by
  induction digits generalizing n with
  | nil => simp
  | cons u digits ih =>
    have hdigit := h u (mem_cons_self ..)
    simp only [isDigit, between, decide_eq_true_eq] at hdigit
    have hnine : u.toNat ≤ 57 := hdigit.2
    rw [foldl_cons, length_cons, Nat.pow_succ']
    refine (ih (fun v hv => h v (mem_cons_of_mem _ hv)) _).trans_le ?_
    rw [← Nat.mul_assoc]
    exact Nat.mul_le_mul_right _ (by omega)

theorem pow_ten_le {a k : ℕ} (hk : 10 * a ≤ k) : 10 ^ (3 * a) ≤ 2 ^ k :=
  calc 10 ^ (3 * a) = (10 ^ 3) ^ a := Nat.pow_mul ..
    _ ≤ (2 ^ 10) ^ a := Nat.pow_le_pow_left (by decide) a
    _ = 2 ^ (10 * a) := (Nat.pow_mul ..).symm
    _ ≤ 2 ^ k := Nat.pow_le_pow_right Nat.two_pos hk

theorem pow_ten_le_infinityFrom {a n top half : ℕ} (hn : n ≤ 3 * a) (htop : 10 * a < top)
    (hhalf : half < top) : 10 ^ n ≤ infinityFrom top half := by
  cases top with
  | zero => cases hhalf
  | succ k =>
    have hten : 10 ^ n ≤ 10 ^ (3 * a) := Nat.pow_le_pow_right (by decide) hn
    have hpow := pow_ten_le (Nat.le_of_lt_succ htop)
    have hgap : 2 ^ half ≤ 2 ^ k := Nat.pow_le_pow_right Nat.two_pos (Nat.le_of_lt_succ hhalf)
    rw [infinityFrom, Nat.pow_succ']
    omega

/-- In a pattern that is not too long, no number overflows. -/
theorem numberOfDigits_eq (h : ∀ u ∈ digits, isDigit u = true)
    (hlength : digits.length ≤ MAX_PATTERN_LENGTH) :
    numberOfDigits digits = some (decimal digits) := by
  have hlt : decimal digits < 10 ^ digits.length := by
    have := decimal_foldl_lt h 0
    rwa [Nat.zero_add, Nat.one_mul] at this
  have hn : digits.length ≤ 3 * 86 := hlength.trans (by decide)
  have hfinite : decimal digits < infinityFrom 1024 970 :=
    hlt.trans_le (pow_ten_le_infinityFrom hn (by decide) (by decide))
  rw [numberOfDigits, if_pos hfinite]

variable {least : Source} {most : Option Source} {reading : QuantifierReading}

theorem bounds_digits (h : bounds body = some (least, most)) :
    ((∀ u ∈ least, isDigit u = true) ∧ least.length ≤ body.length) ∧
      ∀ digits ∈ most, (∀ u ∈ digits, isDigit u = true) ∧ digits.length ≤ body.length := by
  have hleast : (∀ u ∈ body.takeWhile isDigit, isDigit u = true) ∧
      (body.takeWhile isDigit).length ≤ body.length :=
    ⟨all_eq_true.mp all_takeWhile, ( takeWhile_prefix _).length_le⟩
  unfold bounds at h
  split at h
  · cases h
  · split at h
    · cases h
      refine ⟨hleast, ?_⟩
      intro digits hdigits
      cases hdigits
    · rename_i u most hdrop
      split at h
      · rename_i hmost
        cases h
        refine ⟨hleast, ?_⟩
        intro digits hdigits
        cases hdigits
        exact ⟨all_eq_true.mp hmost.2, (length_of_dropWhile hdrop).le⟩
      · cases h

theorem braced_append (h : braced cs = some (body, rest)) : cs = body ++ unit '\x7d' :: rest := by
  unfold braced at h
  split at h
  · cases h
  · rename_i u tail hdrop
    cases h
    have hclosing := head?_dropWhile_not (fun u => decide (u ≠ unit '\x7d')) cs
    rw [hdrop] at hclosing
    have hu : u = unit '\x7d' := by simpa using hclosing
    have happend :=
      takeWhile_append_dropWhile (p := fun u => decide (u ≠ unit '\x7d')) (l := cs)
    rw [hdrop, hu] at happend
    exact happend.symm

/-- Where the language reads no quantifier, the scan reads none. -/
theorem readQuantifier_of_none (h : quantifierPrefix cs = none) :
    readQuantifier cs = .ok noQuantifier := by
  cases cs with
  | nil => rfl
  | cons u cs =>
    simp only [quantifierPrefix] at h
    split at h
    · cases h
    · split at h
      · cases h
      · split at h
        · cases h
        · rename_i hstar hplus hquestion
          rw [readQuantifier, if_neg (by simp only [hstar, hplus, or_self, not_false_eq_true]),
            if_neg hquestion]
          by_cases hbrace : u = unit '\x7b'
          · rw [if_pos hbrace] at h
            rw [if_neg (not_not_intro hbrace)]
            cases hbraced : braced cs with
            | none => rfl
            | some read =>
              obtain ⟨body, after⟩ := read
              cases hbounds : bounds body with
              | none => simp only [hbounds]
              | some numbers =>
                simp only [hbraced, hbounds] at h
                cases h
          · rw [if_pos hbrace]

/-- A mark of laziness is skipped by both. -/
theorem drop_lazy {n : ℕ} (hrest : quantifierPrefix (afterLazy rest) = none)
    (hdrop : cs.drop n = rest) :
    cs.drop (n + if isLazy rest then 1 else 0) = afterLazy rest := by
  rw [← drop_drop, hdrop]
  cases rest with
  | nil => rfl
  | cons u rest =>
    by_cases hquestion : u = unit '?'
    · simp [isLazy, afterLazy, hquestion]
    · by_cases hplus : u = unit '+'
      · rw [afterLazy, if_neg hquestion, hplus] at hrest
        cases hrest
      · simp [isLazy, afterLazy, hquestion, hplus]

theorem maxOf_ofBounds (hlength : body.length ≤ MAX_PATTERN_LENGTH)
    (h : bounds body = some (least, most)) :
    maxOf (numberOfDigits least) most = (Quantifier.ofBounds least most).most := by
  obtain ⟨⟨hleast, hshort⟩, hmost⟩ := bounds_digits h
  cases most with
  | none => exact numberOfDigits_eq hleast (hshort.trans hlength)
  | some digits =>
    obtain ⟨hdigits, hdigitsShort⟩ := hmost digits rfl
    simp only [maxOf, Quantifier.ofBounds]
    split
    · rfl
    · exact numberOfDigits_eq hdigits (hdigitsShort.trans hlength)

theorem boundedRepeat_of_exceeds {q : Quantifier} (h : exceedsBound (some q.least) q.most = false) :
    BoundedRepeat q := by
  simp only [exceedsBound, Option.all_some, Bool.or_eq_false_iff, decide_eq_false_iff_not,
    Nat.not_lt] at h
  refine ⟨h.1, fun most hmost => ?_⟩
  have hmax := h.2
  rw [Option.mem_def.mp hmost, Option.any_some, decide_eq_false_iff_not, Nat.not_lt] at hmax
  exact hmax

theorem readQuantifier_braces (hlength : cs.length ≤ MAX_PATTERN_LENGTH)
    (hbraced : braced cs = some (body, rest)) (hbounds : bounds body = some (least, most))
    (h : readQuantifier (unit '\x7b' :: cs) = .ok reading) :
    reading = ⟨body.length + 2 + if isLazy rest then 1 else 0,
        isUnbounded (.ofBounds least most)⟩ ∧ BoundedRepeat (.ofBounds least most) := by
  have hbody : body.length ≤ MAX_PATTERN_LENGTH := by
    have happend := congrArg List.length (braced_append hbraced)
    rw [length_append] at happend
    omega
  have hleast : numberOfDigits least = some (Quantifier.ofBounds least most).least := by
    obtain ⟨⟨hdigits, hshort⟩, -⟩ := bounds_digits hbounds
    exact numberOfDigits_eq hdigits (hshort.trans hbody)
  rw [readQuantifier, if_neg (by decide), if_neg (by decide), if_neg (by decide)] at h
  simp only [hbraced, hbounds, maxOf_ofBounds hbody hbounds] at h
  rw [hleast] at h
  split at h
  · cases h
  · rename_i hexceeds
    cases h
    exact ⟨rfl, boundedRepeat_of_exceeds (Bool.eq_false_of_not_eq_true hexceeds)⟩

/-- The quantifier the scan reads is the language's, and it is within the bound. -/
theorem readQuantifier_of_prefix {q : Quantifier}
    (hlength : cs.length ≤ MAX_PATTERN_LENGTH) (hleading : quantifierPrefix cs = some (q, rest))
    (hrest : quantifierPrefix (afterLazy rest) = none) (h : readQuantifier cs = .ok reading) :
    reading.width ≠ 0 ∧ reading.unbounded = isUnbounded q ∧ BoundedRepeat q ∧
      cs.drop reading.width = afterLazy rest := by
  have hsingle {u : UInt16} {after : Source} (hafter : quantifierPrefix (afterLazy after) = none) :
      (u :: after).drop (if isLazy after then 2 else 1) = afterLazy after := by
    have hdrop : (u :: after).drop (1 + if isLazy after then 1 else 0) = afterLazy after :=
      drop_lazy hafter rfl
    split
    · rwa [if_pos ‹_›] at hdrop
    · rwa [if_neg ‹_›] at hdrop
  cases cs with
  | nil => cases hleading
  | cons u cs =>
    simp only [quantifierPrefix] at hleading
    split at hleading
    · rename_i hstar
      cases hleading
      rw [readQuantifier, if_pos (.inl hstar)] at h
      cases h
      refine ⟨by dsimp only; split <;> decide, rfl, ⟨by decide, ?_⟩, hsingle hrest⟩
      intro most hmost
      cases hmost
    · split at hleading
      · rename_i hplus
        cases hleading
        rw [readQuantifier, if_pos (.inr hplus)] at h
        cases h
        refine ⟨by dsimp only; split <;> decide, rfl, ⟨by decide, ?_⟩, hsingle hrest⟩
        intro most hmost
        cases hmost
      · split at hleading
        · rename_i hstar hplus hquestion
          cases hleading
          rw [readQuantifier, if_neg (not_or_intro hstar hplus), if_pos hquestion] at h
          cases h
          refine ⟨by dsimp only; split <;> decide, rfl, ⟨by decide, ?_⟩, hsingle hrest⟩
          intro most hmost
          cases hmost
          decide
        · split at hleading
          · rename_i hbrace
            split at hleading
            · cases hleading
            · rename_i body after hbraced
              split at hleading
              · cases hleading
              · rename_i least most hbounds
                cases hleading
                rw [hbrace] at h
                obtain ⟨rfl, hbounded⟩ :=
                  readQuantifier_braces (Nat.le_of_lt hlength) hbraced hbounds h
                refine ⟨by dsimp only; omega, rfl, hbounded, drop_lazy hrest ?_⟩
                rw [drop_succ_cons, braced_append hbraced]
                exact drop_length_add_append 1
          · cases hleading

end Quantifiers

/-! ## An atom and its quantifier -/

section Atoms

variable {cs rest : Source} {state state' : ScanState} {q : Option Quantifier} {found : Bool}

/-- The counters after the quantifier of an atom, where it has one. -/
structure Counted (state state' : ScanState) (found : Bool) (q : Option Quantifier) : Prop where
  quantifiers : state.quantifiers + q.toList.length ≤ state'.quantifiers
  unbounded : state.unbounded + q.toList.countP isUnbounded ≤ state'.unbounded
  found : q ≠ none → found = true
  bounded : ∀ x ∈ q, BoundedRepeat x
  capped : Capped state'

theorem Counted.none (hcapped : Capped state) : Counted state state false none := by
  refine ⟨Nat.le_refl _, Nat.le_refl _, fun h => absurd rfl h, ?_, hcapped⟩
  intro x hx
  cases hx

theorem countQuantifier_counted {x : Quantifier} (hbounded : BoundedRepeat x)
    (h : countQuantifier (isUnbounded x) state = .ok state') :
    Counted state state' true (some x) := by
  simp only [countQuantifier] at h
  generalize hn : (if isUnbounded x = true then state.unbounded + 1 else state.unbounded) = n at h
  split at h
  · cases h
  · rename_i htotal
    split at h
    · cases h
    · rename_i hunbounded
      cases h
      refine ⟨Nat.le_refl _, ?_, fun _ => rfl, ?_, Nat.le_of_not_lt htotal,
        Nat.le_of_not_lt hunbounded⟩
      · rw [Option.toList_some, countP_singleton, ← hn]
        split <;> exact Nat.le_refl _
      · intro y hy
        cases hy
        exact hbounded

/-- A node without children. -/
structure IsLeaf (t : Tree) (q : Option Quantifier) : Prop where
  subtrees : t.subtrees = [t]
  quantifier : t.quantifier? = q
  notAlt : t.isAlt = false
  noReference : t.isReference = false
  noLookbehind : t.isLookbehind = false
  noGroup : ∀ kind body q, t ≠ .group kind body q

theorem isLeaf_atom : IsLeaf (.atom q) q := by
  refine ⟨rfl, rfl, rfl, rfl, rfl, ?_⟩
  intro kind body x h
  cases h

theorem isLeaf_charClass {isEmpty : Bool} : IsLeaf (.charClass isEmpty q) q := by
  refine ⟨rfl, rfl, rfl, rfl, rfl, ?_⟩
  intro kind body x h
  cases h

theorem isLeaf_assertion : IsLeaf .assertion none := by
  refine ⟨rfl, rfl, rfl, rfl, rfl, ?_⟩
  intro kind body x h
  cases h

theorem IsLeaf.quantifiers {t : Tree} (h : IsLeaf t q) : t.quantifiers = q.toList := by
  rw [Tree.quantifiers, h.subtrees, ← h.quantifier]
  cases hq : t.quantifier? with
  | none => exact filterMap_cons_none hq
  | some x => exact filterMap_cons_some hq

theorem Counted.leaf {t : Tree} (hleaf : IsLeaf t q) (h : Counted state state' found q) :
    Covers state state' found false t := by
  refine ⟨?_, ?_, ?_, ?_, ?_⟩
  · rw [hleaf.quantifiers]
    exact h.quantifiers
  · rw [hleaf.quantifiers]
    exact h.unbounded
  · intro hne
    rw [hleaf.quantifiers] at hne
    exact h.found fun hnone => hne (by rw [hnone]; rfl)
  · intro halt
    rw [Tree.alternates, hleaf.subtrees, any_cons, hleaf.notAlt] at halt
    cases halt
  · intro s hs
    rw [hleaf.subtrees] at hs
    obtain rfl := mem_singleton.mp hs
    refine ⟨?_, hleaf.noReference, hleaf.noLookbehind, ?_⟩
    · intro kind body x hgroup
      exact absurd hgroup (hleaf.noGroup kind body (some x))
    · rw [hleaf.quantifier]
      exact h.bounded

/-- A group after its body: repeated only where the body has no quantifier and no bar. -/
theorem Covers.group {kind : GroupKind} {body : Tree} {inner bar : Bool} {middle : ScanState}
    (hkind : kind ≠ .lookbehind) (hbody : Covers state middle inner bar body)
    (hcounted : Counted middle state' found q) (hflat : q ≠ none → inner = false ∧ bar = false) :
    Covers state state' (inner || found) bar (.group kind body q) := by
  refine ⟨?_, ?_, ?_, ?_, ?_⟩
  · rw [quantifiers_group, length_append, Nat.add_comm q.toList.length, ← Nat.add_assoc]
    exact (Nat.add_le_add_right hbody.quantifiers _).trans hcounted.quantifiers
  · rw [quantifiers_group, countP_append, Nat.add_comm (q.toList.countP _), ← Nat.add_assoc]
    exact (Nat.add_le_add_right hbody.unbounded _).trans hcounted.unbounded
  · intro hne
    rw [quantifiers_group] at hne
    by_cases hempty : body.quantifiers = []
    · rw [hempty, append_nil] at hne
      rw [hcounted.found fun hnone => hne (by rw [hnone]; rfl), Bool.or_true]
    · rw [hbody.found hempty, Bool.true_or]
  · intro halt
    exact hbody.bar halt
  · intro s hs
    obtain rfl | hs := mem_cons.mp hs
    · refine ⟨?_, rfl, beq_eq_false_iff_ne.mpr hkind, hcounted.bounded⟩
      intro kind' body' x h
      cases h
      obtain ⟨hinner, hbar⟩ := hflat (Option.some_ne_none x)
      refine ⟨?_, ?_⟩
      · by_contra hne
        rw [hbody.found hne] at hinner
        cases hinner
      · by_contra hne
        rw [hbody.bar (Bool.eq_true_of_not_eq_false hne)] at hbar
        cases hbar
    · exact hbody.harmless s hs

/-- The two readings of the quantifier after an atom. -/
theorem quantifyAtom_counted {left : Source} (hlength : cs.length ≤ MAX_PATTERN_LENGTH)
    (hcapped : Capped state) (hq : quantified cs = some (q, rest))
    (hrest : quantifierPrefix rest = none) (h : quantifyAtom cs state = .ok (left, state', found)) :
    left = rest ∧ Counted state state' found q := by
  unfold quantifyAtom at h
  split at h
  · cases h
  · rename_i reading hreading
    unfold quantified at hq
    split at hq
    · rename_i hleading
      rw [readQuantifier_of_none hleading] at hreading
      cases hreading
      cases hq
      cases h
      exact ⟨rfl, Counted.none hcapped⟩
    · rename_i x after hleading
      split at hq
      · cases hq
        obtain ⟨hwidth, hunbounded, hbounded, hdrop⟩ :=
          readQuantifier_of_prefix hlength hleading hrest hreading
        rw [if_pos hwidth, hunbounded] at h
        split at h
        · cases h
        · rename_i counted hcounted
          cases h
          exact ⟨hdrop, countQuantifier_counted hbounded hcounted⟩
      · cases hq

end Atoms

end Jkannel.Messaging
