import Mathlib.Data.List.Forall2
import Jkannel.Lib.RegExp
import Jkannel.Routing.Wildcard

/-!
# Wildcard patterns as regular expressions

The source matches a pattern by writing the source text of a regular expression and handing it to the
engine.  `matchesAlternative` says what the pattern means; here is what the program does.

* `compileAlternative` and `compileWildcard` write the text, `matchesCompiled` runs what it parses
  to.
* `compileAlternative_reads` is the compiler's correctness on the side of the syntax: the text of an
  alternative reads as one term for each of its characters, whatever they are.
* `run_terms` is that on the side of the meaning: the terms match what the alternative matches.
* `matchesCompiled_iff` puts them together.
-/

namespace Jkannel.Routing

open List
open RegExp

/-- Every character that means something to a regular expression, escaped to its literal. -/
def escapeLiteral (character : Char) : List Char :=
  if character ∈ ['.', '*', '+', '?', '^', '$', '\x7b', '\x7d', '(', ')', '|', '[', ']', '\\'] then
    ['\\', character]
  else [character]

def compileCharacter (character : Char) : List Char :=
  if character = '*' then ['[', '\\', 's', '\\', 'S', ']', '*']
  else if character = '#' then ['[', '0', '-', '9', ']']
  else if character = '$' then ['[', 'A', '-', 'Z', 'a', '-', 'z', ']']
  else escapeLiteral character

/-- One alternative to a fragment of source text. -/
def compileAlternative (alternative : String) : List Char :=
  alternative.toList.flatMap compileCharacter

/-- The source text of a pattern, anchored on both ends. -/
def wildcardSource (pattern : String) : List Char :=
  ['^'] ++ ((['(', '?', ':'] ++
    (List.intercalate ['|'] ((splitAlternatives pattern).map compileAlternative) ++ [')'])) ++ ['$'])

/-- What `compileWildcard` throws. -/
inductive WildcardError where
  | problem (problem : WildcardProblem)
  /-- The engine's `SyntaxError`. -/
  | refused

/-- A pattern as a regular expression. -/
def compileWildcard (pattern : String) : Except WildcardError Regex :=
  match describeWildcardProblem pattern with
  | some problem => .error (.problem problem)
  | none =>
    match parse (wildcardSource pattern) with
    | some regex => .ok regex
    | none => .error .refused

/-- What the engine compares characters by: the flag `i` is left out when case matters. -/
def wildcardFold (env : TextEngine) (caseSensitive : Bool) : Char → Char :=
  if caseSensitive then id else env.regexFold

def wildcardEngine (env : TextEngine) (caseSensitive : Bool) : Engine where
  fold := wildcardFold env caseSensitive
  space := Text.isSpace

/-- `matchesWildcard` as the source computes it.  What the compiler throws is caught. -/
def matchesCompiled (env : TextEngine) (value : Option String) (pattern : String)
    (caseSensitive : Bool) : Bool :=
  match value with
  | none => false
  | some value =>
    match compileWildcard pattern with
    | .ok regex => regex.test (wildcardEngine env caseSensitive) value.toList
    | .error _ => false

/-! ## The syntax -/

/-- The term a character is compiled to. -/
def term (character : Char) : Regex :=
  if character = '*' then .star (.set [.space true, .space false])
  else if character = '#' then .set [.range '0' '9']
  else if character = '$' then .set [.range 'A' 'Z', .range 'a' 'z']
  else .char character

theorem escapeLiteral_reads (c : Char) : Reads (escapeLiteral c) [.char c] := by
  have hsame : c ∈ ['.', '*', '+', '?', '^', '$', '\x7b', '\x7d', '(', ')', '|', '[', ']', '\\'] ↔
      c ∈ syntaxCharacters := by
    simp only [syntaxCharacters, mem_cons, not_mem_nil]
    tauto
  rw [escapeLiteral]
  split
  · next h => exact .escaped (hsame.mp h)
  · next h => exact .literal fun hc => h (hsame.mpr hc)

theorem compileCharacter_reads (c : Char) : Reads (compileCharacter c) [term c] := by
  rw [compileCharacter, term]
  split
  · intro q frame outer
    refine ⟨false, ?_⟩
    simp [RegExp.read, step, punctuation, State.push, State.repeatLast, syntaxCharacters]
  split
  · exact fun _ _ _ => ⟨true, rfl⟩
  split
  · exact fun _ _ _ => ⟨true, rfl⟩
  · exact escapeLiteral_reads c

theorem compileAlternative_reads (alternative : String) :
    Reads (compileAlternative alternative) (alternative.toList.map term) :=
  .flatMap compileCharacter_reads alternative.toList

theorem splitAlternatives_ne_nil (pattern : String) : splitAlternatives pattern ≠ [] := by
  have hpieces : ∀ cs, Text.splitChars '|' cs ≠ [] := by
    intro cs
    induction cs with
    | nil => exact cons_ne_nil _ _
    | cons c cs ih =>
      rw [Text.splitChars]
      split
      · exact cons_ne_nil _ _
      · split
        all_goals exact cons_ne_nil _ _
  simp [splitAlternatives, Text.split, hpieces]

/-- Whatever the pattern, its source text is an expression of the language. -/
theorem parse_wildcardSource (pattern : String) : parse (wildcardSource pattern) =
    some (disjunction [sequence [.start,
      disjunction ((splitAlternatives pattern).map fun a => sequence (a.toList.map term)),
      .stop]]) := by
  have hpieces : List.Forall₂ Reads ((splitAlternatives pattern).map compileAlternative)
      ((splitAlternatives pattern).map fun a => a.toList.map term) := by
    rw [forall₂_map_left_iff, forall₂_map_right_iff, forall₂_same]
    exact fun a _ => compileAlternative_reads a
  have hgroup := Reads.group hpieces (by simpa using splitAlternatives_ne_nil pattern)
  have hreads := Reads.start.append (hgroup.append .stop)
  rw [map_map] at hreads
  exact hreads.parse

/-! ## The meaning -/

/-- What the language says of the comparison under the flag `i`: an ASCII character becomes its upper
case, and no other character becomes an ASCII one. -/
structure Canonicalizes (fold : Char → Char) : Prop where
  ascii : ∀ c, c.toNat < 128 → fold c = c.toUpper
  beyond : ∀ c, 128 ≤ c.toNat → 128 ≤ (fold c).toNat

/-- What both comparisons are on ASCII characters. -/
def asciiFolds : List (Char → Char) := [id, Char.toUpper]

variable {c : Char} {engine : Engine}

/-- A fact that holds of the first 128 characters holds of every ASCII character. -/
theorem of_ascii {P : Char → Bool} (h : (List.range 128).all (fun n => P (Char.ofNat n)) = true)
    (hc : c.toNat < 128) : P c = true := by
  have hP := all_eq_true.mp h c.toNat (mem_range.mpr hc)
  rwa [Char.ofNat_toNat] at hP

theorem fold_cases {fold : Char → Char} (h : fold = id ∨ Canonicalizes fold) :
    (∃ g ∈ asciiFolds, ∀ c, c.toNat < 128 → fold c = g c ∧ (fold c).toNat < 128) ∧
      ∀ c, 128 ≤ c.toNat → 128 ≤ (fold c).toNat := by
  rcases h with rfl | h
  · exact ⟨⟨id, by simp [asciiFolds], fun _ hc => ⟨rfl, hc⟩⟩, fun _ hc => hc⟩
  · refine ⟨⟨Char.toUpper, by simp [asciiFolds], fun c hc => ⟨h.ascii c hc, ?_⟩⟩, h.beyond⟩
    rw [h.ascii c hc]
    exact of_decide_eq_true (of_ascii (P := fun c => c.toUpper.toNat < 128) (by decide +kernel) hc)

theorem toNat_ofNat_le (n : Nat) : (Char.ofNat n).toNat ≤ n := by
  by_cases h : n.isValidChar
  · have hvalid : Char.ofNat n = Char.ofNatAux n h := dif_pos h
    rw [hvalid]
    exact Nat.le_of_eq rfl
  · have hzero : Char.ofNat n = Char.ofNat 0 := dif_neg h
    rw [hzero]
    exact Nat.zero_le n

/-- The engine that compares by `g`; no class of ranges asks it for white space. -/
def comparing (g : Char → Char) : Engine := ⟨g, fun _ => false⟩

/-- A class of ASCII ranges takes ASCII characters only, and both comparisons take the same. -/
theorem ranges_has (h : engine.fold = id ∨ Canonicalizes engine.fold) (ranges : List (Char × Char))
    (p : Char → Bool) (hranges : ∀ r ∈ ranges, r.1 ≤ r.2 ∧ r.2.toNat < 128)
    (hbeyond : ∀ x : Char, 128 ≤ x.toNat → p x = false)
    (hascii : ∀ g ∈ asciiFolds, ∀ x : Char, x.toNat < 128 →
      (ranges.map fun r => Item.range r.1 r.2).any (Item.has (comparing g) x) = p x) (x : Char) :
    (ranges.map fun r => Item.range r.1 r.2).any (Item.has engine x) = p x := by
  obtain ⟨⟨g, hg, hfold⟩, hfold'⟩ := fold_cases h
  have hmember : ∀ r ∈ ranges, ∀ i ∈ List.range (r.2.toNat - r.1.toNat + 1),
      (Char.ofNat (r.1.toNat + i)).toNat < 128 := by
    intro r hr i hi
    obtain ⟨hle, hlt⟩ := hranges r hr
    have hle : r.1.toNat ≤ r.2.toNat := hle
    have hi := mem_range.mp hi
    have := toNat_ofNat_le (r.1.toNat + i)
    omega
  by_cases hx : x.toNat < 128
  · rw [← hascii g hg x hx, any_map, any_map, Bool.eq_iff_iff, any_eq_true, any_eq_true]
    refine exists_congr fun r => and_congr_right fun hr => ?_
    simp only [Function.comp, Item.has, any_eq_true, comparing]
    refine exists_congr fun i => and_congr_right fun hi => ?_
    rw [(hfold _ (hmember r hr i hi)).1, (hfold x hx).1]
  · rw [hbeyond x (Nat.le_of_not_lt hx), any_map, any_eq_false]
    intro r hr hhas
    obtain ⟨i, hi, heq⟩ := any_eq_true.mp hhas
    have hlow := (hfold _ (hmember r hr i hi)).2
    have hhigh := hfold' x (Nat.le_of_not_lt hx)
    rw [beq_iff_eq.mp heq] at hlow
    omega

theorem not_le_of_beyond {x : Char} (hx : 128 ≤ x.toNat) (hc : c.toNat < 128) : ¬ x ≤ c := by
  intro h
  have h : x.toNat ≤ c.toNat := h
  omega

section

variable (h : engine.fold = id ∨ Canonicalizes engine.fold)
include h

theorem digit_class (x : Char) :
    [Item.range '0' '9'].any (Item.has engine x) = decide ('0' ≤ x ∧ x ≤ '9') := by
  refine ranges_has h [('0', '9')] (fun x => decide ('0' ≤ x ∧ x ≤ '9')) (by decide)
    (fun x hx => decide_eq_false fun hle => not_le_of_beyond hx (by decide) hle.2)
    (fun g hg x hx => ?_) x
  have hcheck : ∀ g ∈ asciiFolds, (List.range 128).all (fun n =>
      [Item.range '0' '9'].any (Item.has (comparing g) (Char.ofNat n)) ==
        decide ('0' ≤ Char.ofNat n ∧ Char.ofNat n ≤ '9')) = true := by decide +kernel
  exact beq_iff_eq.mp (of_ascii (P := fun x => [Item.range '0' '9'].any (Item.has (comparing g) x) ==
    decide ('0' ≤ x ∧ x ≤ '9')) (hcheck g hg) hx)

theorem letter_class (x : Char) :
    [Item.range 'A' 'Z', .range 'a' 'z'].any (Item.has engine x) =
      decide (('a' ≤ x ∧ x ≤ 'z') ∨ ('A' ≤ x ∧ x ≤ 'Z')) := by
  refine ranges_has h [('A', 'Z'), ('a', 'z')]
    (fun x => decide (('a' ≤ x ∧ x ≤ 'z') ∨ ('A' ≤ x ∧ x ≤ 'Z'))) (by decide)
    (fun x hx => decide_eq_false fun hle => ?_) (fun g hg x hx => ?_) x
  · rcases hle with hle | hle
    all_goals exact not_le_of_beyond hx (by decide) hle.2
  · have hcheck : ∀ g ∈ asciiFolds, (List.range 128).all (fun n =>
        [Item.range 'A' 'Z', .range 'a' 'z'].any (Item.has (comparing g) (Char.ofNat n)) ==
          decide (('a' ≤ Char.ofNat n ∧ Char.ofNat n ≤ 'z') ∨
            ('A' ≤ Char.ofNat n ∧ Char.ofNat n ≤ 'Z'))) = true := by decide +kernel
    exact beq_iff_eq.mp (of_ascii (P := fun x => [Item.range 'A' 'Z', .range 'a' 'z'].any
      (Item.has (comparing g) x) == decide (('a' ≤ x ∧ x ≤ 'z') ∨ ('A' ≤ x ∧ x ≤ 'Z')))
      (hcheck g hg) hx)

/-- The term of a character that is not `*` takes what the character takes. -/
theorem run_term (hstar : c ≠ '*')
    (atStart : Bool) (text : List Char) (next : Bool → List Char → Bool) :
    (term c).run engine atStart text next =
      match text with
      | [] => false
      | x :: text => matchesCharacter engine.fold c x && next false text := by
  rw [term, if_neg hstar]
  cases text with
  | nil =>
    split
    · rfl
    split
    · rfl
    · rfl
  | cons x text =>
    dsimp only
    rw [matchesCharacter]
    split
    · rw [Regex.run, digit_class h]
    split
    · rw [Regex.run, letter_class h]
    · rfl

end

theorem run_term_star (engine : Engine) (atStart : Bool) (text : List Char)
    (next : List Char → Bool) :
    (term '*').run engine atStart text (fun _ => next) = text.tails.any next := by
  refine run_star_of_any fun atStart text next => ?_
  cases text with
  | nil => rfl
  | cons x text => cases hx : engine.space x <;> simp [Regex.run, Item.has, hx]

/-- The terms of an alternative match a text as a whole just when the alternative does. -/
theorem run_terms (h : engine.fold = id ∨ Canonicalizes engine.fold) (pattern : List Char)
    (atStart : Bool) (text : List Char) :
    (sequence (pattern.map term)).run engine atStart text (fun _ text => text.isEmpty) =
      matchesAlternative engine.fold pattern text := by
  induction pattern generalizing atStart text with
  | nil => simp [RegExp.sequence, Regex.run, matchesAlternative]
  | cons c pattern ih =>
    have hrest : (fun atStart text => (sequence (pattern.map term)).run engine atStart text
        fun _ text => text.isEmpty) =
        fun _ text => matchesAlternative engine.fold pattern text := by
      funext atStart text
      exact ih atStart text
    show (term c).run engine atStart text (fun atStart text =>
      (sequence (pattern.map term)).run engine atStart text fun _ text => text.isEmpty) = _
    rw [hrest]
    by_cases hstar : c = '*'
    · subst hstar
      rw [run_term_star]
      simp [matchesAlternative]
    · rw [run_term h hstar]
      cases text with
      | nil | cons _ _ => simp [matchesAlternative, hstar]

/-- What a pattern compiles to is tested for any of its alternatives. -/
theorem test_wildcardSource (h : engine.fold = id ∨ Canonicalizes engine.fold) (pattern : String)
    (text : List Char) :
    (parse (wildcardSource pattern)).any (·.test engine text) =
      (splitAlternatives pattern).any fun alternative =>
        matchesAlternative engine.fold alternative.toList text := by
  rw [parse_wildcardSource, Option.any_some, test_anchored, run_disjunction, any_map]
  exact any_congr rfl fun alternative => run_terms h alternative.toList true text

theorem matchesCompiled_some {env : TextEngine} (h : Canonicalizes env.regexFold) (value : String)
    (pattern : String) (caseSensitive : Bool) :
    matchesCompiled env (some value) pattern caseSensitive =
      ((describeWildcardProblem pattern).isNone &&
        (splitAlternatives pattern).any fun alternative =>
          matchesAlternative (wildcardFold env caseSensitive) alternative.toList value.toList) := by
  have hfold : (wildcardEngine env caseSensitive).fold = id ∨
      Canonicalizes (wildcardEngine env caseSensitive).fold := by
    cases caseSensitive with
    | true => exact .inl rfl
    | false => exact .inr h
  have htest := test_wildcardSource hfold pattern value.toList
  rw [matchesCompiled, compileWildcard]
  cases describeWildcardProblem pattern with
  | some problem => rfl
  | none =>
    cases hparse : parse (wildcardSource pattern) with
    | none =>
      rw [parse_wildcardSource] at hparse
      cases hparse
    | some regex =>
      rw [hparse] at htest
      exact htest

/-- A pattern is refused for one of four reasons. -/
theorem describeWildcardProblem_eq_none {pattern : String} :
    describeWildcardProblem pattern = none ↔
      Text.trim pattern ≠ "" ∧ Text.jsLength pattern ≤ MAX_PATTERN_LENGTH ∧
        (splitAlternatives pattern).length ≤ MAX_ALTERNATIVES ∧
        ∀ alternative ∈ splitAlternatives pattern, alternative ≠ "" := by
  rw [describeWildcardProblem]
  constructor
  · intro h
    split at h
    · cases h
    split at h
    · cases h
    split at h
    · cases h
    split at h
    · cases h
    next htrim hlength halternatives hempty =>
    exact ⟨htrim, Nat.le_of_not_lt hlength, Nat.le_of_not_lt halternatives,
      fun a ha he => hempty (he ▸ ha)⟩
  · rintro ⟨htrim, hlength, halternatives, hempty⟩
    rw [if_neg htrim, if_neg (Nat.not_lt.mpr hlength), if_neg (Nat.not_lt.mpr halternatives),
      if_neg fun he => hempty "" he rfl]

/-- **Wildcard matching is its grammar**: the compiled pattern matches a value just when the pattern
is valid and one of its trimmed alternatives matches the whole of it. -/
theorem matchesCompiled_iff {env : TextEngine} (h : Canonicalizes env.regexFold) (value : String)
    (pattern : String) (caseSensitive : Bool) :
    matchesCompiled env (some value) pattern caseSensitive = true ↔
      (Text.trim pattern ≠ "" ∧ Text.jsLength pattern ≤ MAX_PATTERN_LENGTH ∧
        (splitAlternatives pattern).length ≤ MAX_ALTERNATIVES ∧
        ∀ alternative ∈ splitAlternatives pattern, alternative ≠ "") ∧
      ∃ alternative ∈ splitAlternatives pattern,
        matchesAlternative (wildcardFold env caseSensitive) alternative.toList value.toList = true := by
  rw [matchesCompiled_some h, Bool.and_eq_true, any_eq_true, Option.isNone_iff_eq_none,
    describeWildcardProblem_eq_none]

theorem canonicalizes_toUpper : Canonicalizes Char.toUpper where
  ascii _ _ := rfl
  beyond c hc := by
    have hsame : c.toUpper = c :=
      dif_neg fun hlower => absurd hlower.2 (not_le_of_beyond hc (by decide))
    rw [hsame]
    exact hc

theorem matchesCompiled_iff_mtn :
    matchesCompiled .ascii (some "256782123456") "25677* | 25678*" false = true := by
  refine (matchesCompiled_iff canonicalizes_toUpper _ _ _).mpr ⟨by decide +kernel, ?_⟩
  exact ⟨"25678*", by decide +kernel, by decide +kernel⟩

end Jkannel.Routing
