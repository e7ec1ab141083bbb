import Jkannel.Messaging.RegexCounters

/-!
# What the regular-expression scan lets in

The scan of a content rule's pattern follows the language's own reading of it term by term, so what
it lets in has the shape it promises.

* `Follows` says that the loop goes on behind a term with what it has counted in it; `follows_term`
  compares the two readings of a term, and `scanLoop_body` those of a group.
* `scanLoop_disjunction` follows a whole disjunction, by the language's recursion.

The two part at one place: a `]` in the first place of a class ends it for the language and is a
member of it for the scan, which then takes the text up to the next `]` for part of the class.
-/

namespace Jkannel.Messaging

open List Option
open AnnexB

/-! ## Units that mean nothing to the scan -/

section Plain

variable {u : UInt16} {cs : Source}

def specials : List Char := ['\\', '[', '(', ')', '|', '*', '+', '?', '\x7b']

/-- A unit that neither scan nor language reads as more than a character. -/
def isPlain (u : UInt16) : Bool := specials.all fun c => decide (u ≠ unit c)

theorem ne_of_isPlain {c : Char} (h : isPlain u = true) (hc : c ∈ specials) : u ≠ unit c :=
  of_decide_eq_true (all_eq_true.mp h c hc)

/-- No special character is between the two. -/
def clearOfSpecials (low high : Char) : Bool :=
  specials.all fun c => decide (c.toNat < 65536 ∧ (c.toNat < low.toNat ∨ high.toNat < c.toNat))

theorem isPlain_of_between {low high : Char} (h : between low high u = true)
    (hclear : clearOfSpecials low high = true) : isPlain u = true := by
  refine all_eq_true.mpr fun c hc => decide_eq_true fun hu => ?_
  obtain ⟨hsmall, hout⟩ := of_decide_eq_true (all_eq_true.mp hclear c hc)
  have hvalue : u.toNat = c.toNat := by
    rw [hu, unit, UInt16.toNat_ofNat']
    exact Nat.mod_eq_of_lt hsmall
  have hbetween := of_decide_eq_true h
  omega

theorem isPlain_of_isOctal (h : isOctal u = true) : isPlain u = true :=
  isPlain_of_between h (by decide)

theorem isPlain_of_isLetter (h : isLetter u = true) : isPlain u = true := by
  obtain h | h := Bool.or_eq_true_iff.mp h
  all_goals exact isPlain_of_between h (by decide)

theorem isPlain_of_isHex (h : isHex u = true) : isPlain u = true := by
  obtain h | h := Bool.or_eq_true_iff.mp h
  · obtain h | h := Bool.or_eq_true_iff.mp h
    all_goals exact isPlain_of_between h (by decide)
  · exact isPlain_of_between h (by decide)

theorem isPlain_of_isModifier (h : isModifier u = true) : isPlain u = true := by
  simp only [isModifier, Bool.or_eq_true, decide_eq_true_eq] at h
  rcases h with ((rfl | rfl) | rfl) | rfl <;> decide

theorem quantifierPrefix_of_isPlain (h : isPlain u = true) :
    quantifierPrefix (u :: cs) = none := by
  rw [quantifierPrefix, if_neg (ne_of_isPlain h (by decide)), if_neg (ne_of_isPlain h (by decide)),
    if_neg (ne_of_isPlain h (by decide)), if_neg (ne_of_isPlain h (by decide))]

theorem isPlain_of_countP {n : ℕ} (h : n ≤ (cs.take n).countP isHex) :
    ∀ v ∈ cs.take n, isPlain v = true := by
  have hlength : (cs.take n).countP isHex = (cs.take n).length :=
    Nat.le_antisymm countP_le_length ((length_take_le n cs).trans h)
  exact fun v hv => isPlain_of_isHex (countP_eq_length.mp hlength v hv)

theorem isPlain_of_takeWhile {p : UInt16 → Bool} {n : ℕ} (hp : ∀ v, p v = true → isPlain v = true) :
    ∀ v ∈ cs.take ((cs.take n).takeWhile p).length, isPlain v = true := by
  intro v hv
  have hleading : (cs.take n).takeWhile p <+: cs :=
    ( takeWhile_prefix p).trans ( take_prefix n cs)
  rw [← prefix_iff_eq_take.mp hleading] at hv
  exact hp v (all_eq_true.mp all_takeWhile v hv)

/-- What belongs to an escape besides its first two units is plain. -/
theorem isPlain_of_escapeTail : ∀ v ∈ cs.take (escapeTail u cs), isPlain v = true := by
  have hnone : ∀ v ∈ cs.take 0, isPlain v = true := by
    intro v hv
    cases hv
  unfold escapeTail
  split
  · split
    · rename_i hhex
      exact isPlain_of_countP hhex
    · exact hnone
  · split
    · split
      · rename_i hhex
        exact isPlain_of_countP hhex
      · exact hnone
    · split
      · exact isPlain_of_takeWhile fun v => isPlain_of_isLetter
      · split
        · exact isPlain_of_takeWhile fun v => isPlain_of_isOctal
        · exact hnone

end Plain

/-! ## A term -/

section Terms

variable {u v : UInt16} {cs rest : Source} {fuel : ℕ} {state : ScanState} {found bar : Bool}
  {q : Option Quantifier} {tree : Option Quantifier → Tree} {x : Tree}
  {result : GroupSummary × ScanState}

/-- The rest of the loop from a place where the quantifier of an atom may stand. -/
def scanAtom (fuel : ℕ) (cs : Source) (state : ScanState) (found bar : Bool) :
    Except UnsafeRegexError (GroupSummary × ScanState) :=
  match quantifyAtom cs state with
  | .error e => .error e
  | .ok (rest, counted, quantified) => scanLoop fuel rest counted (found || quantified) bar

theorem scanLoop_escape (hdigit : between '1' '9' v = false) (hk : v ≠ unit 'k') :
    scanLoop (fuel + 1) (unit '\\' :: v :: cs) state found bar =
      scanAtom fuel cs state found bar := by
  have hname : ¬ (v :: cs).head? = some (unit 'k') := fun h => hk (some.inj h)
  have hnumber : ¬ ((v :: cs).head?).any (between '1' '9') = true := by
    rw [head?_cons, any_some, hdigit]
    exact Bool.false_ne_true
  simp only [scanLoop, if_true, if_neg hnumber, if_neg hname]
  rfl

theorem scanLoop_class :
    scanLoop (fuel + 1) (unit '[' :: cs) state found bar =
      scanAtom fuel (skipCharClass cs) state found bar := by
  rw [scanLoop, if_neg (by decide), if_pos rfl]
  rfl

theorem scanLoop_ordinary (hescape : u ≠ unit '\\') (hclass : u ≠ unit '[')
    (hopen : u ≠ unit '(') (hclose : u ≠ unit ')') (hbar : u ≠ unit '|') :
    scanLoop (fuel + 1) (u :: cs) state found bar = scanAtom fuel cs state found bar := by
  rw [scanLoop, if_neg hescape, if_neg hclass, if_neg hopen, if_neg hclose, if_neg hbar]
  rfl

theorem scanLoop_plain (h : isPlain u = true) :
    scanLoop (fuel + 1) (u :: cs) state found bar = scanAtom fuel cs state found bar :=
  scanLoop_ordinary (ne_of_isPlain h (by decide)) (ne_of_isPlain h (by decide))
    (ne_of_isPlain h (by decide)) (ne_of_isPlain h (by decide)) (ne_of_isPlain h (by decide))

theorem scanAtom_of_none (h : quantifierPrefix cs = none) :
    scanAtom fuel cs state found bar = scanLoop fuel cs state found bar := by
  rw [scanAtom, quantifyAtom, readQuantifier_of_none h]
  simp only [noQuantifier, ne_eq, not_true_eq_false, if_false, Bool.or_false]

/-- Plain units between an atom and its quantifier make no difference. -/
theorem scanAtom_run {ds : Source} (hplain : ∀ d ∈ ds, isPlain d = true)
    (hfuel : (ds ++ cs).length < fuel) :
    ∃ fuel', cs.length < fuel' ∧
      scanAtom fuel (ds ++ cs) state found bar = scanAtom fuel' cs state found bar := by
  induction ds generalizing fuel with
  | nil => exact ⟨fuel, hfuel, rfl⟩
  | cons d ds ih =>
    have hd := hplain d (mem_cons_self ..)
    cases fuel with
    | zero => cases hfuel
    | succ fuel =>
      obtain ⟨fuel', hfuel', heq⟩ :=
        ih (fun e he => hplain e (mem_cons_of_mem d he)) (Nat.lt_of_succ_lt_succ hfuel)
      refine ⟨fuel', hfuel', ?_⟩
      rw [cons_append, scanAtom_of_none (quantifierPrefix_of_isPlain hd), scanLoop_plain hd, heq]

/-- From a place in the loop on, the scan goes on after the term `x` with what it has counted in
it. -/
def Follows (result : GroupSummary × ScanState) (rest : Source) (state : ScanState)
    (found bar : Bool) (x : Tree) : Prop :=
  ∃ fuel state' found', rest.length < fuel ∧ Capped state' ∧ Covers state state' found' false x ∧
    scanLoop fuel rest state' (found || found') bar = .ok result

theorem follows_assertion (hfuel : rest.length < fuel) (hcapped : Capped state)
    (hrest : quantifierPrefix rest = none) (h : scanAtom fuel rest state found bar = .ok result) :
    Follows result rest state found bar .assertion := by
  refine ⟨fuel, state, false, hfuel, hcapped, (Counted.none hcapped).leaf isLeaf_assertion, ?_⟩
  rw [← h, scanAtom_of_none hrest, Bool.or_false]

/-- The quantifier of an atom is read, and the loop goes on behind it. -/
theorem counted_of_scanAtom (hlength : cs.length ≤ MAX_PATTERN_LENGTH) (hcapped : Capped state)
    (hq : quantified cs = some (q, rest)) (hrest : quantifierPrefix rest = none)
    (h : scanAtom fuel cs state found bar = .ok result) :
    ∃ state' found', Counted state state' found' q ∧
      scanLoop fuel rest state' (found || found') bar = .ok result := by
  unfold scanAtom at h
  split at h
  · cases h
  · rename_i left state' found' hatom
    obtain ⟨rfl, hcounted⟩ := quantifyAtom_counted hlength hcapped hq hrest hatom
    exact ⟨state', found', hcounted, h⟩

theorem follows_leaf (hleaf : ∀ q, IsLeaf (tree q) q) (hfuel : cs.length < fuel)
    (hlength : cs.length ≤ MAX_PATTERN_LENGTH) (hcapped : Capped state)
    (hterm : termOf tree cs = some (.term x rest)) (hrest : quantifierPrefix rest = none)
    (h : scanAtom fuel cs state found bar = .ok result) :
    Follows result rest state found bar x := by
  unfold termOf at hterm
  split at hterm
  · cases hterm
  · rename_i q after hq
    cases hterm
    obtain ⟨state', found', hcounted, hloop⟩ := counted_of_scanAtom hlength hcapped hq hrest h
    exact ⟨fuel, state', found', (quantified_length hq).trans_lt hfuel, hcounted.capped,
      hcounted.leaf (hleaf q), hloop⟩

/-- A backslash before a `c` that is no control character: two characters to the language, one step
of the scan. -/
theorem follows_loneControl (hfuel : cs.length < fuel)
    (hlength : cs.length ≤ MAX_PATTERN_LENGTH) (hcapped : Capped state)
    (hterm : termOf (fun q => .seq (.atom none) (.atom q)) cs = some (.term x rest))
    (hrest : quantifierPrefix rest = none) (h : scanAtom fuel cs state found bar = .ok result) :
    Follows result rest state found bar x := by
  unfold termOf at hterm
  split at hterm
  · cases hterm
  · rename_i q after hq
    cases hterm
    obtain ⟨state', found', hcounted, hloop⟩ := counted_of_scanAtom hlength hcapped hq hrest h
    have hcovers := ((Counted.none hcapped).leaf isLeaf_atom).seq (hcounted.leaf isLeaf_atom)
    exact ⟨fuel, state', found', (quantified_length hq).trans_lt hfuel, hcounted.capped, hcovers,
      hloop⟩

theorem follows_escape (hescape : escape cs = some (.term x rest))
    (hfuel : cs.length < fuel) (hlength : cs.length ≤ MAX_PATTERN_LENGTH)
    (hcapped : Capped state) (hrest : quantifierPrefix rest = none)
    (h : scanLoop (fuel + 1) (unit '\\' :: cs) state found bar = .ok result) :
    Follows result rest state found bar x := by
  cases cs with
  | nil => cases hescape
  | cons v cs =>
    have hshort : cs.length < fuel := Nat.lt_of_succ_lt hfuel
    have hcs : cs.length ≤ MAX_PATTERN_LENGTH := (Nat.le_succ _).trans hlength
    by_cases hdigit : between '1' '9' v = true
    · rw [scanLoop, if_pos rfl, if_pos (by rw [head?_cons, any_some, hdigit])] at h
      cases h
    · by_cases hk : v = unit 'k'
      · rw [scanLoop, if_pos rfl, head?_cons, any_some, if_neg hdigit, if_pos (by rw [hk])] at h
        cases h
      · rw [scanLoop_escape (Bool.eq_false_of_not_eq_true hdigit) hk] at h
        simp only [escape, if_neg hdigit, if_neg hk] at hescape
        split at hescape
        · cases hescape
          exact follows_assertion hshort hcapped hrest h
        · split at hescape
          · exact follows_loneControl hshort hcs hcapped hescape hrest h
          · rw [← take_append_drop (escapeTail v cs) cs] at h
            have hplain : ∀ d ∈ cs.take (escapeTail v cs), isPlain d = true := isPlain_of_escapeTail
            obtain ⟨fuel', hfuel', heq⟩ := scanAtom_run hplain (by rwa [take_append_drop])
            rw [heq] at h
            have hdrop : (cs.drop (escapeTail v cs)).length ≤ MAX_PATTERN_LENGTH := by
              rw [length_drop]
              omega
            exact follows_leaf (fun q => isLeaf_atom) hfuel' hdrop hcapped hescape hrest h

theorem skipMembers_classEnd (h : classEnd cs = some rest) : skipMembers cs = rest := by
  fun_induction classEnd cs with
  | case1 => cases h
  | case2 =>
    cases h
    rfl
  | case3 => cases h
  | case4 v cs =>
    cases h
    rw [skipMembers, if_neg (by decide), if_pos rfl]
  | case5 v cs hclosing ih =>
    rw [skipMembers, if_pos rfl]
    exact ih h
  | case6 u v cs hclosing hescape ih =>
    rw [skipMembers, if_neg hescape, if_neg hclosing]
    exact ih h

/-- Where the class has a member, both end it at the same `]`. -/
theorem skipCharClass_eq (h : characterClass cs = some (false, rest)) :
    skipCharClass cs = rest := by
  cases hcaret : afterCaret cs with
  | nil =>
    simp only [characterClass, hcaret] at h
    cases h
  | cons u members =>
    simp only [characterClass, hcaret] at h
    simp only [skipCharClass, hcaret]
    by_cases hclosing : u = unit ']'
    · rw [if_pos hclosing] at h
      cases h
    · rw [if_neg hclosing] at h
      obtain ⟨after, hend, hafter⟩ := map_eq_some_iff.mp h
      cases hafter
      rw [if_neg hclosing]
      exact skipMembers_classEnd hend

theorem hasEmptyClass_of_termOf {isEmpty : Bool}
    (hterm : termOf (.charClass isEmpty) cs = some (.term x rest))
    (hx : hasEmptyClass x = false) : isEmpty = false := by
  unfold termOf at hterm
  split at hterm
  · cases hterm
  · cases hterm
    cases isEmpty with
    | false => rfl
    | true => cases hx

variable {step : Step} {kind : GroupKind}

theorem angled_opening (h : angled cs = some step) : ∃ kind rest, step = .opening kind rest := by
  unfold angled at h
  split at h
  · cases h
  · split at h
    · cases h
      exact ⟨_, _, rfl⟩
    · split at h
      · cases h
      · cases h
        exact ⟨_, _, rfl⟩

theorem groupOpening_opening (h : groupOpening cs = some step) :
    ∃ kind rest, step = .opening kind rest := by
  unfold groupOpening at h
  split at h
  · cases h
    exact ⟨_, _, rfl⟩
  · split at h
    · unfold special at h
      split at h
      · cases h
      · split at h
        · cases h
          exact ⟨_, _, rfl⟩
        · split at h
          · cases h
            exact ⟨_, _, rfl⟩
          · split at h
            · exact angled_opening h
            · split at h
              · cases h
              · split at h
                · cases h
                  exact ⟨_, _, rfl⟩
                · cases h
    · cases h
      exact ⟨_, _, rfl⟩

theorem termOf_term (h : termOf tree cs = some step) : ∃ x rest, step = .term x rest := by
  unfold termOf at h
  split at h
  · cases h
  · cases h
    exact ⟨_, _, rfl⟩

theorem escape_term (h : escape cs = some step) : ∃ x rest, step = .term x rest := by
  unfold escape at h
  split at h
  · cases h
  · split at h
    · cases h
      exact ⟨_, _, rfl⟩
    · split at h
      · exact termOf_term h
      · split at h
        · exact termOf_term h
        · split at h
          · exact termOf_term h
          · exact termOf_term h

/-- The scan reads a term as the language does, unless the term is a class without members. -/
theorem follows_term (hread : readTerm cs = some (.term x rest)) (hx : hasEmptyClass x = false)
    (hfuel : cs.length < fuel) (hlength : cs.length ≤ MAX_PATTERN_LENGTH) (hcapped : Capped state)
    (hrest : quantifierPrefix rest = none) (h : scanLoop fuel cs state found bar = .ok result) :
    Follows result rest state found bar x := by
  cases cs with
  | nil => cases hread
  | cons u cs =>
    cases fuel with
    | zero => cases hfuel
    | succ fuel =>
      have hshort : cs.length < fuel := Nat.lt_of_succ_lt_succ hfuel
      have hcs : cs.length ≤ MAX_PATTERN_LENGTH := (Nat.le_succ _).trans hlength
      simp only [readTerm] at hread
      split at hread
      · cases hread
      · split at hread
        · cases hread
        · rename_i hclose
          split at hread
          · cases hread
          · rename_i hbar
            split at hread
            · obtain ⟨kind, after, hopening⟩ := groupOpening_opening hread
              cases hopening
            · rename_i hopen
              split at hread
              · rename_i hescape
                rw [hescape] at h
                exact follows_escape hread hshort hcs hcapped hrest h
              · rename_i hescape
                split at hread
                · rename_i hclass
                  split at hread
                  · cases hread
                  · rename_i isEmpty after hafter
                    rw [hclass, scanLoop_class] at h
                    obtain rfl := hasEmptyClass_of_termOf hread hx
                    rw [skipCharClass_eq hafter] at h
                    have hlt := characterClass_length hafter
                    exact follows_leaf (fun q => isLeaf_charClass) (hlt.trans hshort)
                      (hlt.le.trans hcs) hcapped hread hrest h
                · rename_i hclass
                  rw [scanLoop_ordinary hescape hclass hopen hclose hbar] at h
                  split at hread
                  · cases hread
                    exact follows_assertion hshort hcapped hrest h
                  · exact follows_leaf (fun q => isLeaf_atom) hshort hcs hcapped hread hrest h

/-! ## A group -/

theorem angled_eq (h : angled cs = some (.opening kind rest))
    (hbehind : startsLookbehind (unit '?' :: unit '<' :: cs) = false) :
    kind ≠ .lookbehind ∧
      ∃ closing, cs.dropWhile (fun v => decide (v ≠ unit '>')) = closing :: rest := by
  unfold angled at h
  split at h
  · cases h
  · rename_i fourth after
    split at h
    · rename_i hfourth
      have hstarts : startsLookbehind (unit '?' :: unit '<' :: fourth :: after) = true := by
        simpa [startsLookbehind] using hfourth
      rw [hstarts] at hbehind
      cases hbehind
    · split at h
      · cases h
      · rename_i closing body hdrop
        cases h
        exact ⟨by decide, closing, hdrop⟩

/-- A text that does not start a lookbehind has the same group to both, except for the flags that
the scan takes for characters of the body. -/
theorem groupOpening_eq (h : groupOpening cs = some (.opening kind rest))
    (hbehind : startsLookbehind cs = false) :
    kind ≠ .lookbehind ∧ ∃ ds, (∀ d ∈ ds, isPlain d = true) ∧ groupBodyStart cs = ds ++ rest := by
  have hnone : ∀ d ∈ ([] : Source), isPlain d = true := by
    intro d hd
    cases hd
  unfold groupOpening at h
  split at h
  · cases h
    exact ⟨by decide, [], hnone, rfl⟩
  · rename_i second after
    split at h
    · rename_i hsecond
      subst hsecond
      unfold special at h
      split at h
      · cases h
      · rename_i third after
        rw [groupBodyStart, if_neg (not_not_intro rfl)]
        split at h
        · rename_i hcolon
          cases h
          exact ⟨by decide, [], hnone, if_pos (.inl hcolon)⟩
        · rename_i hcolon
          split at h
          · rename_i hahead
            cases h
            exact ⟨by decide, [], hnone, if_pos (.inr hahead)⟩
          · rename_i hahead
            rw [if_neg (not_or_intro hcolon hahead)]
            split at h
            · rename_i hangle
              subst hangle
              obtain ⟨hkind, closing, hdrop⟩ := angled_eq h hbehind
              rw [if_pos rfl, dropWhile_cons_of_pos (by decide), hdrop]
              exact ⟨hkind, [], hnone, rfl⟩
            · rename_i hangle
              rw [if_neg hangle]
              split at h
              · cases h
              · rename_i closing body hdrop
                split at h
                · rename_i hclosing
                  cases h
                  refine ⟨by decide, (third :: after).takeWhile isModifier ++ [closing], ?_, ?_⟩
                  · intro d hd
                    obtain hd | hd := mem_append.mp hd
                    · exact isPlain_of_isModifier (all_eq_true.mp all_takeWhile d hd)
                    · obtain rfl := mem_singleton.mp hd
                      rw [hclosing]
                      decide
                  · rw [append_assoc, singleton_append, ← hdrop, takeWhile_append_dropWhile]
                · cases h
    · rename_i hsecond
      cases h
      refine ⟨by decide, [], hnone, ?_⟩
      cases after with
      | nil => exact if_neg hsecond
      | cons third after => exact if_pos hsecond

/-! ## A disjunction -/

/-- What a text may start with. -/
theorem readTerm_cases (h : readTerm (u :: cs) = some step) :
    u = unit ')' ∧ step = .stop ∨ u = unit '|' ∧ step = .bar cs ∨
      (∃ kind rest, u = unit '(' ∧ step = .opening kind rest ∧ groupOpening cs = some step) ∨
      ∃ x rest, step = .term x rest := by
  simp only [readTerm] at h
  split at h
  · cases h
  · split at h
    · rename_i hclose
      cases h
      exact .inl ⟨hclose, rfl⟩
    · split at h
      · rename_i hbar
        cases h
        exact .inr (.inl ⟨hbar, rfl⟩)
      · split at h
        · rename_i hopen
          obtain ⟨kind, rest, hstep⟩ := groupOpening_opening h
          exact .inr (.inr (.inl ⟨kind, rest, hopen, hstep, h⟩))
        · split at h
          · exact .inr (.inr (.inr (escape_term h)))
          · split at h
            · split at h
              · cases h
              · exact .inr (.inr (.inr (termOf_term h)))
            · split at h
              · cases h
                exact .inr (.inr (.inr ⟨_, _, rfl⟩))
              · exact .inr (.inr (.inr (termOf_term h)))

theorem quantifierPrefix_of_readTerm (h : readTerm cs = some step) :
    quantifierPrefix cs = none := by
  cases cs with
  | nil => rfl
  | cons u cs =>
    simp only [readTerm] at h
    split at h
    · cases h
    · rename_i hleading
      exact not_isSome_iff_eq_none.mp hleading

/-- A disjunction does not go on with a quantifier. -/
theorem quantifierPrefix_of_disjunction {before : Option Tree} {sofar t : Tree}
    (h : disjunction fuel before sofar cs = some (t, rest)) : quantifierPrefix cs = none := by
  cases fuel with
  | zero => cases h
  | succ fuel =>
    cases hread : readTerm cs with
    | none =>
      simp only [disjunction, hread] at h
      cases h
    | some step => exact quantifierPrefix_of_readTerm hread

/-- What a turn of the loop at a group does. -/
theorem scanLoop_group (h : scanLoop (fuel + 1) (unit '(' :: cs) state found bar = .ok result) :
    startsLookbehind cs = false ∧ ∃ inner middle left counted quantified,
      scanLoop fuel (groupBodyStart cs) state false false = .ok (inner, middle) ∧
      quantifyAtom inner.next middle = .ok (left, counted, quantified) ∧
      (quantified = true → inner.hasQuantifier = false ∧ inner.hasAlternation = false) ∧
      scanLoop fuel left counted (found || (inner.hasQuantifier || quantified))
        (bar || inner.hasAlternation) = .ok result := by
  rw [scanLoop, if_neg (by decide), if_neg (by decide), if_pos rfl] at h
  split at h
  · cases h
  · rename_i hbehind
    refine ⟨Bool.eq_false_of_not_eq_true hbehind, ?_⟩
    split at h
    · cases h
    · rename_i inner middle hinner
      split at h
      · cases h
      · rename_i reading hreading
        split at h
        · rename_i hwidth
          split at h
          · cases h
          · rename_i hflat
            rw [Bool.not_eq_true, Bool.or_eq_false_iff] at hflat
            split at h
            · cases h
            · rename_i counted hcounted
              refine ⟨inner, middle, inner.next.drop reading.width, counted, true, hinner, ?_,
                fun _ => hflat, ?_⟩
              · simp only [quantifyAtom, hreading, if_pos hwidth, hcounted]
              · rw [Bool.or_true, Bool.or_true]
                exact h
        · rename_i hwidth
          refine ⟨inner, middle, inner.next, middle, false, hinner, ?_, ?_, ?_⟩
          · simp only [quantifyAtom, hreading, if_neg hwidth]
          · intro hfalse
            cases hfalse
          · rw [Bool.or_false]
            exact h

theorem groupBodyStart_length (cs : Source) : (groupBodyStart cs).length ≤ cs.length := by
  unfold groupBodyStart
  split
  · exact Nat.le_refl _
  · split
    · exact Nat.zero_le _
    · exact Nat.le_refl _
  · rename_i second third rest
    simp only [length_cons]
    split
    · exact Nat.le_refl _
    · split
      · omega
      · split
        · split
          · omega
          · rename_i closing body hdrop
            have hlength := length_of_dropWhile hdrop
            rw [length_cons] at hlength
            omega
        · rw [length_cons]
          omega

/-- The body that the scan reads is the language's. -/
theorem scanLoop_body (hopening : groupOpening cs = some (.opening kind rest))
    (hbehind : startsLookbehind cs = false) (hfuel : cs.length < fuel)
    (hbody : quantifierPrefix rest = none)
    (h : scanLoop fuel (groupBodyStart cs) state false false = .ok result) :
    kind ≠ .lookbehind ∧ ∃ fuel', rest.length < fuel' ∧
      scanLoop fuel' rest state false false = .ok result := by
  obtain ⟨hkind, ds, hplain, hstart⟩ := groupOpening_eq hopening hbehind
  have hlength := groupBodyStart_length cs
  rw [hstart] at h hlength
  refine ⟨hkind, ?_⟩
  cases ds with
  | nil => exact ⟨fuel, Nat.lt_of_le_of_lt hlength hfuel, h⟩
  | cons d ds =>
    cases fuel with
    | zero => cases hfuel
    | succ fuel =>
      rw [cons_append, length_cons] at hlength
      have hrun : ∃ fuel', rest.length < fuel' ∧ scanAtom fuel (ds ++ rest) state false false =
          scanAtom fuel' rest state false false :=
        scanAtom_run (fun e he => hplain e (mem_cons_of_mem d he)) (by omega)
      obtain ⟨fuel', hfuel', heq⟩ := hrun
      refine ⟨fuel', hfuel', ?_⟩
      rw [cons_append, scanLoop_plain (hplain d (mem_cons_self ..)), heq,
        scanAtom_of_none hbody] at h
      exact h

end Terms

/-! ## A disjunction, and the pattern -/

section Patterns

variable {fuel n : ℕ} {cs rest : Source} {before : Option Tree} {sofar t : Tree}
  {base state state' : ScanState} {found bar : Bool} {inner : GroupSummary}

/-- The scan of a disjunction covers it and ends where it does. -/
theorem scanLoop_disjunction (hread : disjunction n before sofar cs = some (t, rest))
    (ht : hasEmptyClass t = false) (hfuel : cs.length < fuel)
    (hlength : cs.length ≤ MAX_PATTERN_LENGTH) (hcapped : Capped state)
    (hcovers : Covers base state found bar (joined before sofar))
    (h : scanLoop fuel cs state found bar = .ok (inner, state')) :
    Capped state' ∧ Covers base state' inner.hasQuantifier inner.hasAlternation t ∧
      inner.next = rest.drop 1 := by
  induction n generalizing before sofar cs t rest fuel state base found bar inner state' with
  | zero => cases hread
  | succ n ih =>
    cases fuel with
    | zero => cases hfuel
    | succ fuel =>
      cases cs with
      | nil =>
        cases hread
        cases h
        exact ⟨hcapped, hcovers, rfl⟩
      | cons u cs =>
        have hshort : cs.length < fuel := Nat.lt_of_succ_lt_succ hfuel
        have hcs : cs.length ≤ MAX_PATTERN_LENGTH := (Nat.le_succ _).trans hlength
        cases hstep : readTerm (u :: cs) with
        | none =>
          simp only [disjunction, hstep] at hread
          cases hread
        | some step =>
          simp only [disjunction, hstep] at hread
          obtain ⟨rfl, rfl⟩ | ⟨rfl, rfl⟩ | ⟨kind, after, rfl, rfl, hopening⟩ | ⟨x, after, rfl⟩ :=
            readTerm_cases hstep
          · cases hread
            rw [scanLoop, if_neg (by decide), if_neg (by decide), if_neg (by decide),
              if_pos rfl] at h
            cases h
            exact ⟨hcapped, hcovers, rfl⟩
          · rw [scanLoop, if_neg (by decide), if_neg (by decide), if_neg (by decide),
              if_neg (by decide), if_pos rfl] at h
            exact ih hread ht hshort hcs hcapped hcovers.alt h
          · dsimp only at hread
            split at hread
            · cases hread
            · cases hread
            · rename_i body closing outside hbody
              split at hread
              · cases hread
              · rename_i q left hgroup
                have hsofar := hasEmptyClass_of_disjunction hread ht
                rw [hasEmptyClass_joined, hasEmptyClass_group, Bool.or_eq_false_iff] at hsofar
                obtain ⟨hbehind, inner', middle, left', counted, quantified, hinner, hatom, hflat,
                  hloop⟩ := scanLoop_group h
                obtain ⟨hkind, fuel', hfuel', hscan⟩ := scanLoop_body hopening hbehind hshort
                  (quantifierPrefix_of_disjunction hbody) hinner
                have hafter : after.length ≤ cs.length := groupOpening_within hopening
                obtain ⟨hmiddle, hcoversBody, hnext⟩ := ih hbody hsofar.2 hfuel'
                  (hafter.trans hcs) hcapped Covers.empty hscan
                rw [hnext, drop_succ_cons, drop_zero] at hatom
                rw [afterGroup, if_neg hkind] at hgroup
                have houtside := disjunction_length hbody
                rw [length_cons] at houtside
                obtain ⟨rfl, hcounted⟩ := quantifyAtom_counted (by omega) hmiddle hgroup
                  (quantifierPrefix_of_disjunction hread) hatom
                have hleft := quantified_length hgroup
                have hcoversGroup := hcoversBody.group hkind hcounted fun hq =>
                  hflat (hcounted.found hq)
                exact ih hread ht (by omega) (by omega) hcounted.capped
                  (hcovers.seq hcoversGroup).joined hloop
          · have hsofar := hasEmptyClass_of_disjunction hread ht
            rw [hasEmptyClass_joined, Bool.or_eq_false_iff] at hsofar
            obtain ⟨fuel', middle, found', hfuel', hmiddle, hcoversTerm, hloop⟩ :=
              follows_term hstep hsofar.2 hfuel hlength hcapped
                (quantifierPrefix_of_disjunction hread) h
            have hafter : after.length ≤ cs.length := readTerm_within hstep
            have hjoined := (hcovers.seq hcoversTerm).joined
            rw [Bool.or_false] at hjoined
            exact ih hread ht hfuel' (hafter.trans hcs) hmiddle hjoined hloop

/-- A pattern that is let in has a tree. -/
theorem parse_of_checkRegexPattern {syntaxErrors : SyntaxErrors}
    (h : checkRegexPattern syntaxErrors cs = .ok ()) :
    cs.length ≤ MAX_PATTERN_LENGTH ∧ (∃ tree, parse cs = some tree) ∧
      ∃ result, scanBody cs ⟨0, 0⟩ = .ok result := by
  unfold checkRegexPattern at h
  split at h
  · cases h
  · split at h
    · cases h
    · rename_i hlong
      split at h
      · cases h
      · rename_i hsyntax
        rw [Bool.not_eq_true, Bool.or_eq_false_iff] at hsyntax
        split at h
        · cases h
        · rename_i result hscan
          have hread : (parse cs).isSome = true := by
            rw [← not_isNone, hsyntax.1]
            rfl
          exact ⟨Nat.le_of_not_lt hlong, isSome_iff_exists.mp hread, result, hscan⟩

/-- **A pattern that is let in, and in which no class is without members, has the shape the scan
promises**, as the language reads it. -/
theorem checkRegexPattern_sound (syntaxErrors : SyntaxErrors) (pattern : Source)
    (h : checkRegexPattern syntaxErrors pattern = .ok ()) :
    ∃ tree, parse pattern = some tree ∧ (hasEmptyClass tree = false → Safe tree) := by
  obtain ⟨hlength, ⟨tree, hparse⟩, ⟨inner, state⟩, hscan⟩ := parse_of_checkRegexPattern h
  refine ⟨tree, hparse, fun hclasses => ?_⟩
  unfold parse at hparse
  split at hparse
  · rename_i read hread
    cases hparse
    have hcapped : Capped ⟨0, 0⟩ := ⟨Nat.zero_le _, Nat.zero_le _⟩
    obtain ⟨⟨hquantifiers, hunbounded⟩, hcovers, -⟩ := scanLoop_disjunction hread hclasses
      (Nat.lt_succ_self _) hlength hcapped Covers.empty hscan
    refine ⟨hcovers.harmless, ?_, ?_⟩
    · exact (Nat.le_add_left _ _).trans (hcovers.quantifiers.trans hquantifiers)
    · exact (Nat.le_add_left _ _).trans (hcovers.unbounded.trans hunbounded)
  · cases hparse

end Patterns

/-- An engine without early errors. -/
def lenient : SyntaxErrors where
  early _ := false
  message _ := "Invalid regular expression"

/-- `(a|b)[^c]+`. -/
def smallPattern : Source := ['(', 'a', '|', 'b', ')', '[', '^', 'c', ']', '+'].map unit

theorem checkRegexPattern_sound_small :
    ∃ tree, parse smallPattern = some tree ∧ (hasEmptyClass tree = false → Safe tree) :=
  checkRegexPattern_sound lenient smallPattern rfl

/-- `[](a+)+]`: for the language a class without members, a repeated group with a repetition in it,
and a bracket; for the scan one class. -/
def hiddenNesting : Source := ['[', ']', '(', 'a', '+', ')', '+', ']'].map unit

theorem empty_class_hides_nesting :
    checkRegexPattern lenient hiddenNesting = .ok () ∧
      ¬ ∃ tree, parse hiddenNesting = some tree ∧ Safe tree := by
  refine ⟨rfl, ?_⟩
  rintro ⟨tree, hparse, hsafe⟩
  have htree : parse hiddenNesting = some (.seq (.seq (.seq .empty (.charClass true none))
      (.group .capturing (.seq .empty (.atom (some ⟨1, none⟩))) (some ⟨1, none⟩)))
      (.atom none)) := rfl
  obtain rfl := some.inj (hparse.symm.trans htree)
  have hgroup := hsafe.harmless (.group .capturing (.seq .empty (.atom (some ⟨1, none⟩)))
    (some ⟨1, none⟩)) (by decide)
  have hflat := (hgroup.notNested _ _ _ rfl).1
  cases hflat

end Jkannel.Messaging
