import Mathlib.Data.List.Basic

/-!
# The pattern grammar of ECMAScript, as web engines read it

The patterns of ECMAScript without the flags `u` and `v`, with the productions its Annex B adds: a
brace that does not start a quantifier is a character, so is a `]` that closes nothing, a lookahead
may be repeated, and `\c` before something other than a letter is two characters.

* `Tree` keeps of a pattern what its cost depends on: where its groups, its alternatives and its
  quantifiers are, and which characters an atom stands for is left out.
* `readTerm` reads what a text starts with: a term with its quantifier, the opening of a group, a
  bar, or the end of a disjunction.
* `parse` reads a whole pattern.

The early errors that do not show in this shape (a range of a class out of order, a group name that
is no identifier or stands twice, a flag that stands twice) are not looked for, so `parse` reads
every pattern the language accepts, and some more.
-/

namespace AnnexB

/-! ## Quantifiers -/

/-- The UTF-16 code units of a pattern. -/
abbrev Source := List UInt16

/-- The code unit of a character of the first plane. -/
def unit (c : Char) : UInt16 := UInt16.ofNat c.toNat

def between (low high : Char) (u : UInt16) : Bool :=
  decide (low.toNat ≤ u.toNat ∧ u.toNat ≤ high.toNat)

def isDigit (u : UInt16) : Bool := between '0' '9' u

def isOctal (u : UInt16) : Bool := between '0' '7' u

def isLetter (u : UInt16) : Bool := between 'a' 'z' u || between 'A' 'Z' u

def isHex (u : UInt16) : Bool := isDigit u || between 'a' 'f' u || between 'A' 'F' u

/-- How often an atom is repeated: `most` is absent where there is no bound. -/
structure Quantifier where
  least : ℕ
  most : Option ℕ
  deriving DecidableEq

/-- The two bounds are in order. -/
def Quantifier.ordered (q : Quantifier) : Bool := q.most.all fun most => decide (q.least ≤ most)

/-- The number decimal digits stand for. -/
def decimal (digits : Source) : ℕ := digits.foldl (fun (n : ℕ) u => 10 * n + (u.toNat - 48)) 0

/-- The text up to the next closing brace, and what follows the brace. -/
def braced (cs : Source) : Option (Source × Source) :=
  match cs.dropWhile fun u => decide (u ≠ unit '}') with
  | [] => none
  | _ :: rest => some (cs.takeWhile fun u => decide (u ≠ unit '}'), rest)

/-- The digits of `n`, of `n,` or of `n,m`; of `n,` the second digits are empty. -/
def bounds (body : Source) : Option (Source × Option Source) :=
  if body.takeWhile isDigit = [] then none
  else
    match body.dropWhile isDigit with
    | [] => some (body.takeWhile isDigit, none)
    | u :: most =>
      if u = unit ',' ∧ most.all isDigit then some (body.takeWhile isDigit, some most) else none

/-- The quantifier that `n`, `n,` or `n,m` in braces is. -/
def Quantifier.ofBounds (least : Source) (most : Option Source) : Quantifier where
  least := decimal least
  most :=
    match most with
    | none => some (decimal least)
    | some digits => if digits = [] then none else some (decimal digits)

/-- The quantifier a text starts with, before it is said whether it is lazy. -/
def quantifierPrefix : Source → Option (Quantifier × Source)
  | [] => none
  | u :: cs =>
    if u = unit '*' then some (⟨0, none⟩, cs)
    else if u = unit '+' then some (⟨1, none⟩, cs)
    else if u = unit '?' then some (⟨0, some 1⟩, cs)
    else if u = unit '\x7b' then
      match braced cs with
      | none => none
      | some (body, rest) =>
        match bounds body with
        | none => none
        | some (least, most) => some (.ofBounds least most, rest)
    else none

/-- What is left of a text after the mark of a lazy quantifier. -/
def afterLazy : Source → Source
  | [] => []
  | u :: cs => if u = unit '?' then cs else u :: cs

/-- The quantifier after an atom, where there is one.  Bounds out of order are an error. -/
def quantified (cs : Source) : Option (Option Quantifier × Source) :=
  match quantifierPrefix cs with
  | none => some (none, cs)
  | some (q, rest) => if q.ordered then some (some q, afterLazy rest) else none

/-! ## Trees -/

inductive GroupKind where
  | capturing | nonCapturing | lookahead | lookbehind
  deriving DecidableEq

/-- A pattern, as far as its cost depends on it. -/
inductive Tree where
  | empty
  /-- `^`, `$`, `\b` or `\B`. -/
  | assertion
  /-- A character, or an escape that stands for one or for a set of them. -/
  | atom (quantifier : Option Quantifier)
  | charClass (isEmpty : Bool) (quantifier : Option Quantifier)
  /-- `\1` to `\9`, or `\k`.  Where the pattern has not so many groups, or no names, the language
  takes it for a character; the tree does not tell. -/
  | reference (quantifier : Option Quantifier)
  | group (kind : GroupKind) (body : Tree) (quantifier : Option Quantifier)
  | seq (left right : Tree)
  | alt (left right : Tree)
  deriving DecidableEq

namespace Tree

/-- The tree itself and every tree in it, at any depth. -/
def subtrees : Tree → List Tree
  | empty => [empty]
  | assertion => [assertion]
  | atom q => [atom q]
  | charClass isEmpty q => [charClass isEmpty q]
  | reference q => [reference q]
  | group kind body q => group kind body q :: body.subtrees
  | seq left right => seq left right :: (left.subtrees ++ right.subtrees)
  | alt left right => alt left right :: (left.subtrees ++ right.subtrees)

/-- The quantifier applied to the tree itself. -/
def quantifier? : Tree → Option Quantifier
  | atom q => q
  | charClass _ q => q
  | reference q => q
  | group _ _ q => q
  | _ => none

def isAlt : Tree → Bool
  | alt _ _ => true
  | _ => false

def isReference : Tree → Bool
  | reference _ => true
  | _ => false

def isLookbehind : Tree → Bool
  | group kind _ _ => kind == .lookbehind
  | _ => false

/-- `[]` or `[^]`. -/
def isEmptyClass : Tree → Bool
  | charClass isEmpty _ => isEmpty
  | _ => false

/-- Every quantifier of the pattern. -/
def quantifiers (t : Tree) : List Quantifier := t.subtrees.filterMap quantifier?

/-- There is a bar at some depth. -/
def alternates (t : Tree) : Bool := t.subtrees.any isAlt

attribute [local grind =] subtrees isAlt isEmptyClass quantifier?

end Tree

/-! ## Terms -/

/-- Past the `]` that closes a class. -/
def classEnd : Source → Option Source
  | [] => none
  | [u] => if u = unit ']' then some [] else none
  | u :: v :: cs =>
    if u = unit ']' then some (v :: cs)
    else if u = unit '\\' then classEnd cs
    else classEnd (v :: cs)

/-- What is left of a class after the `^` that negates it. -/
def afterCaret : Source → Source
  | [] => []
  | u :: cs => if u = unit '^' then cs else u :: cs

/-- The class after a `[`: whether it has no members, and what follows it.  A `]` in the first place
closes it. -/
def characterClass (cs : Source) : Option (Bool × Source) :=
  match afterCaret cs with
  | [] => none
  | u :: members =>
    if u = unit ']' then some (true, members)
    else (classEnd (u :: members)).map fun rest => (false, rest)

/-- How many units belong to an escape besides the backslash and the unit after it. -/
def escapeTail (u : UInt16) (cs : Source) : ℕ :=
  if u = unit 'x' then if 2 ≤ (cs.take 2).countP isHex then 2 else 0
  else if u = unit 'u' then if 4 ≤ (cs.take 4).countP isHex then 4 else 0
  else if u = unit 'c' then ((cs.take 1).takeWhile isLetter).length
  else if u = unit '0' then ((cs.take 2).takeWhile isOctal).length
  else 0

/-- The name between angle brackets that a text starts with is skipped. -/
def afterName : Source → Source
  | [] => []
  | u :: cs =>
    if u = unit '<' then ((u :: cs).dropWhile fun v => decide (v ≠ unit '>')).drop 1 else u :: cs

/-- What a text starts with. -/
inductive Step where
  /-- A `)`, or nothing any more. -/
  | stop
  | bar (rest : Source)
  | opening (kind : GroupKind) (rest : Source)
  | term (tree : Tree) (rest : Source)

/-- A quantified atom. -/
def termOf (tree : Option Quantifier → Tree) (cs : Source) : Option Step :=
  match quantified cs with
  | none => none
  | some (q, rest) => some (.term (tree q) rest)

/-- The escape after a backslash. -/
def escape : Source → Option Step
  | [] => none
  | u :: cs =>
    if u = unit 'b' ∨ u = unit 'B' then some (.term .assertion cs)
    else if between '1' '9' u then termOf .reference (cs.dropWhile isDigit)
    else if u = unit 'k' then termOf .reference (afterName cs)
    -- `\c` before something else than a letter is a backslash and a `c`
    else if u = unit 'c' ∧ escapeTail u cs = 0 then termOf (fun q => .seq (.atom none) (.atom q)) cs
    else termOf .atom (cs.drop (escapeTail u cs))

/-- The flags that a group may set or clear for its body. -/
def isModifier (u : UInt16) : Bool :=
  u = unit 'i' || u = unit 'm' || u = unit 's' || u = unit '-'

/-- What follows `(?<`. -/
def angled : Source → Option Step
  | [] => none
  | u :: cs =>
    if u = unit '=' ∨ u = unit '!' then some (.opening .lookbehind cs)
    else
      match (u :: cs).dropWhile fun v => decide (v ≠ unit '>') with
      | [] => none
      | _ :: rest => some (.opening .capturing rest)

/-- What follows `(?`. -/
def special : Source → Option Step
  | [] => none
  | u :: cs =>
    if u = unit ':' then some (.opening .nonCapturing cs)
    else if u = unit '=' ∨ u = unit '!' then some (.opening .lookahead cs)
    else if u = unit '<' then angled cs
    else
      match (u :: cs).dropWhile isModifier with
      | [] => none
      | v :: rest => if v = unit ':' then some (.opening .nonCapturing rest) else none

/-- What follows `(`. -/
def groupOpening : Source → Option Step
  | [] => some (.opening .capturing [])
  | u :: cs => if u = unit '?' then special cs else some (.opening .capturing (u :: cs))

/-- What a text starts with, or none where nothing may start so: a quantifier that follows no atom,
an escape or a class that does not end, a group of no known kind. -/
def readTerm : Source → Option Step
  | [] => some .stop
  | u :: cs =>
    if (quantifierPrefix (u :: cs)).isSome then none
    else if u = unit ')' then some .stop
    else if u = unit '|' then some (.bar cs)
    else if u = unit '(' then groupOpening cs
    else if u = unit '\\' then escape cs
    else if u = unit '[' then
      match characterClass cs with
      | none => none
      | some (isEmpty, rest) => termOf (.charClass isEmpty) rest
    else if u = unit '^' ∨ u = unit '$' then some (.term .assertion cs)
    else termOf .atom cs

/-! ## Patterns -/

/-- The disjunction of the alternatives `before` and of the terms `sofar`. -/
def joined (before : Option Tree) (sofar : Tree) : Tree :=
  match before with
  | none => sofar
  | some before => .alt before sofar

/-- The quantifier after the `)` of a group; a lookbehind takes none. -/
def afterGroup (kind : GroupKind) (cs : Source) : Option (Option Quantifier × Source) :=
  if kind = .lookbehind then some (none, cs) else quantified cs

/-- The rest of a disjunction whose alternatives `before` and the terms `sofar` of the next one are
read, and the text from the `)` on that ends it, or nothing. -/
def disjunction : ℕ → Option Tree → Tree → Source → Option (Tree × Source)
  | 0, _, _, _ => none
  | fuel + 1, before, sofar, cs =>
    match readTerm cs with
    | none => none
    | some .stop => some (joined before sofar, cs)
    | some (.bar rest) => disjunction fuel (some (joined before sofar)) .empty rest
    | some (.term tree rest) => disjunction fuel before (.seq sofar tree) rest
    | some (.opening kind rest) =>
      match disjunction fuel none .empty rest with
      | none => none
      | some (_, []) => none
      | some (body, _ :: rest) =>
        match afterGroup kind rest with
        | none => none
        | some (q, rest) => disjunction fuel before (.seq sofar (.group kind body q)) rest

/-- The tree of a pattern; none where a `)` closes nothing. -/
def parse (cs : Source) : Option Tree :=
  match disjunction (cs.length + 1) none .empty cs with
  | some (tree, []) => some tree
  | _ => none

/-! ## The fuel -/

theorem dropWhile_length (p : UInt16 → Bool) (cs : Source) :
    (cs.dropWhile p).length ≤ cs.length := (List.dropWhile_suffix p).length_le

variable {cs rest : Source} {step : Step} {q : Option Quantifier}

theorem length_of_dropWhile {p : UInt16 → Bool} {u : UInt16} (h : cs.dropWhile p = u :: rest) :
    rest.length < cs.length := by
  have hlength := dropWhile_length p cs
  rw [h] at hlength
  exact hlength

theorem braced_length {body : Source} (h : braced cs = some (body, rest)) :
    rest.length < cs.length := by
  unfold braced at h
  split at h
  · cases h
  · rename_i hdrop
    cases h
    exact length_of_dropWhile hdrop

theorem quantifierPrefix_length {q : Quantifier} (h : quantifierPrefix cs = some (q, rest)) :
    rest.length < cs.length := by
  cases cs with
  | nil => cases h
  | cons u cs =>
    rw [List.length_cons]
    simp only [quantifierPrefix] at h
    split at h
    · cases h
      exact Nat.lt_succ_self _
    · split at h
      · cases h
        exact Nat.lt_succ_self _
      · split at h
        · cases h
          exact Nat.lt_succ_self _
        · split at h
          · split at h
            · cases h
            · rename_i body after hbraced
              split at h
              · cases h
              · cases h
                exact Nat.lt_succ_of_lt (braced_length hbraced)
          · cases h

theorem afterLazy_length (cs : Source) : (afterLazy cs).length ≤ cs.length := by
  unfold afterLazy
  split
  · exact Nat.le_refl _
  · split
    · exact Nat.le_succ _
    · exact Nat.le_refl _

theorem quantified_length (h : quantified cs = some (q, rest)) :
    rest.length ≤ cs.length := by
  unfold quantified at h
  split at h
  · cases h
    exact Nat.le_refl _
  · rename_i quantifier after hleading
    split at h
    · cases h
      exact Nat.le_trans (afterLazy_length after) (Nat.le_of_lt (quantifierPrefix_length hleading))
    · cases h

/-- What is left of the text is no longer than `n`. -/
def Step.Within (n : ℕ) : Step → Prop
  | stop => True
  | bar rest => rest.length ≤ n
  | opening _ rest => rest.length ≤ n
  | term _ rest => rest.length ≤ n

theorem Step.Within.mono {m n : ℕ} (h : step.Within m) (hmn : m ≤ n) : step.Within n := by
  cases step with
  | stop => trivial
  | bar _ | opening _ _ | term _ _ => exact Nat.le_trans h hmn

theorem termOf_within {tree : Option Quantifier → Tree} (h : termOf tree cs = some step) :
    step.Within cs.length := by
  unfold termOf at h
  split at h
  · cases h
  · rename_i q rest hquantified
    cases h
    exact quantified_length hquantified

theorem classEnd_length (h : classEnd cs = some rest) : rest.length < cs.length := by
  fun_induction classEnd cs with
  | case1 => cases h
  | case2 =>
    cases h
    exact Nat.zero_lt_one
  | case3 => cases h
  | case4 v cs =>
    cases h
    exact Nat.lt_succ_self _
  | case5 v cs hclosing ih => exact Nat.lt_succ_of_lt (Nat.lt_succ_of_lt (ih h))
  | case6 u v cs hclosing hescape ih => exact Nat.lt_succ_of_lt (ih h)

theorem afterCaret_length (cs : Source) : (afterCaret cs).length ≤ cs.length := by
  unfold afterCaret
  split
  · exact Nat.le_refl _
  · split
    · exact Nat.le_succ _
    · exact Nat.le_refl _

theorem characterClass_length {isEmpty : Bool} (h : characterClass cs = some (isEmpty, rest)) :
    rest.length < cs.length := by
  have hcaret := afterCaret_length cs
  unfold characterClass at h
  split at h
  · cases h
  · rename_i u members hmembers
    rw [hmembers] at hcaret
    split at h
    · cases h
      exact hcaret
    · obtain ⟨rest', hend, hrest⟩ := Option.map_eq_some_iff.mp h
      cases hrest
      exact Nat.lt_of_lt_of_le (classEnd_length hend) hcaret

theorem afterName_length (cs : Source) : (afterName cs).length ≤ cs.length := by
  unfold afterName
  split
  · exact Nat.le_refl _
  · split
    · rw [List.length_drop]
      exact Nat.le_trans (Nat.sub_le _ _) (dropWhile_length _ _)
    · exact Nat.le_refl _

theorem escape_within (h : escape cs = some step) : step.Within cs.length := by
  unfold escape at h
  split at h
  · cases h
  · rename_i u cs
    have hle : cs.length ≤ (u :: cs).length := Nat.le_succ _
    split at h
    · cases h
      exact hle
    · split at h
      · exact (termOf_within h).mono (Nat.le_trans (dropWhile_length _ _) hle)
      · split at h
        · exact (termOf_within h).mono (Nat.le_trans (afterName_length _) hle)
        · split at h
          · exact (termOf_within h).mono hle
          · refine (termOf_within h).mono (Nat.le_trans ?_ hle)
            rw [List.length_drop]
            exact Nat.sub_le _ _

theorem angled_within (h : angled cs = some step) : step.Within cs.length := by
  unfold angled at h
  split at h
  · cases h
  · rename_i u cs
    split at h
    · cases h
      exact Nat.le_succ _
    · split at h
      · cases h
      · rename_i closing rest hdrop
        cases h
        exact Nat.le_of_lt (length_of_dropWhile hdrop)

theorem special_within (h : special cs = some step) : step.Within cs.length := by
  unfold special at h
  split at h
  · cases h
  · rename_i u cs
    have hle : cs.length ≤ (u :: cs).length := Nat.le_succ _
    split at h
    · cases h
      exact hle
    · split at h
      · cases h
        exact hle
      · split at h
        · exact (angled_within h).mono hle
        · split at h
          · cases h
          · rename_i closing rest hdrop
            split at h
            · cases h
              exact Nat.le_of_lt (length_of_dropWhile hdrop)
            · cases h

theorem groupOpening_within (h : groupOpening cs = some step) : step.Within cs.length := by
  unfold groupOpening at h
  split at h
  · cases h
    exact Nat.le_refl _
  · split at h
    · exact (special_within h).mono (Nat.le_succ _)
    · cases h
      exact Nat.le_refl _

/-- A term takes a unit of the text at least. -/
theorem readTerm_within {u : UInt16} (h : readTerm (u :: cs) = some step) :
    step.Within cs.length := by
  simp only [readTerm] at h
  split at h
  · cases h
  · split at h
    · cases h
      trivial
    · split at h
      · cases h
        exact Nat.le_refl _
      · split at h
        · exact groupOpening_within h
        · split at h
          · exact escape_within h
          · split at h
            · split at h
              · cases h
              · rename_i isEmpty rest hclass
                exact (termOf_within h).mono (Nat.le_of_lt (characterClass_length hclass))
            · split at h
              · cases h
                exact Nat.le_refl _
              · exact termOf_within h

theorem afterGroup_length {kind : GroupKind}
    (h : afterGroup kind cs = some (q, rest)) : rest.length ≤ cs.length := by
  unfold afterGroup at h
  split at h
  · cases h
    exact Nat.le_refl _
  · exact quantified_length h

theorem readTerm_shorter (h : readTerm cs = some step) :
    step = .stop ∨ 0 < cs.length ∧ step.Within (cs.length - 1) := by
  cases cs with
  | nil => exact .inl (Option.some.inj h).symm
  | cons u cs => exact .inr ⟨Nat.succ_pos _, readTerm_within h⟩

/-- A disjunction ends where a text ends that is left of the given one. -/
theorem disjunction_length {fuel : ℕ} {before : Option Tree} {sofar tree : Tree}
    (h : disjunction fuel before sofar cs = some (tree, rest)) : rest.length ≤ cs.length := by
  induction fuel generalizing before sofar tree cs rest with
  | zero => cases h
  | succ fuel ih =>
    simp only [disjunction] at h
    split at h
    · cases h
    · cases h
      exact Nat.le_refl _
    · rename_i after hread
      obtain hstop | ⟨-, hwithin⟩ := readTerm_shorter hread
      · cases hstop
      · exact Nat.le_trans (ih h) (Nat.le_trans hwithin (Nat.sub_le _ _))
    · rename_i term after hread
      obtain hstop | ⟨-, hwithin⟩ := readTerm_shorter hread
      · cases hstop
      · exact Nat.le_trans (ih h) (Nat.le_trans hwithin (Nat.sub_le _ _))
    · rename_i kind after hread
      obtain hstop | ⟨-, hwithin⟩ := readTerm_shorter hread
      · cases hstop
      · split at h
        · cases h
        · cases h
        · rename_i body closing outside hbody
          split at h
          · cases h
          · rename_i q left hgroup
            have hinner := ih hbody
            have houter := ih h
            have hquantifier := afterGroup_length hgroup
            simp only [Step.Within, List.length_cons] at hwithin hinner
            omega

end AnnexB
