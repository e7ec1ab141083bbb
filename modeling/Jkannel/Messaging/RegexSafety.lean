import Mathlib.Algebra.Ring.Nat
import Jkannel.Lib.AnnexB

/-!
# The scan that admits a content rule's regular expression

`messaging-depth/content-rule-regex.ts` refuses an operator's pattern that a backtracking engine
could take exponential time for.  The scan goes over the pattern by hand; what is left of the
pattern at its index stands here for the pattern and the index.

* `readQuantifier`, `skipCharClass` and `groupBodyStart` find where a quantifier, a class and the
  body of a group end or begin.
* `scanBody` goes over the body of a group, or over the whole pattern.
* `checkRegexPattern` asks the language first whether the pattern is one at all; its early errors
  and the text of its complaint are parameters, the rest of its grammar is `AnnexB.parse`.
-/

namespace Jkannel.Messaging

open AnnexB

/-! ## Refusals -/

def MAX_PATTERN_LENGTH : ℕ := 256

def MAX_REPEAT_BOUND : ℕ := 100

def MAX_QUANTIFIERS : ℕ := 12

def MAX_UNBOUNDED_QUANTIFIERS : ℕ := 3

inductive RegexRejection where
  | empty | tooLong | invalidSyntax | backreference | lookbehind | nestedQuantifier
  | repeatBoundTooLarge | tooManyQuantifiers | tooManyUnboundedQuantifiers

/-- A refusal with its text. -/
structure UnsafeRegexError where
  rejection : RegexRejection
  message : String

namespace UnsafeRegexError

def empty : UnsafeRegexError := ⟨.empty, "pattern is required"⟩

def tooLong : UnsafeRegexError :=
  ⟨.tooLong, s!"pattern is longer than {MAX_PATTERN_LENGTH} characters; " ++
    "a filter that long is unreviewable as well as slow"⟩

def invalidSyntax (message : String) : UnsafeRegexError :=
  ⟨.invalidSyntax, s!"pattern is not a valid regular expression: {message}"⟩

def backreference : UnsafeRegexError :=
  ⟨.backreference, "backreferences (\\1, \\2, ...) are not accepted: " ++
    "they force the engine to re-scan and are a common source of catastrophic backtracking"⟩

def namedBackreference : UnsafeRegexError :=
  ⟨.backreference, "named backreferences (\\k<name>) are not accepted"⟩

def lookbehind : UnsafeRegexError :=
  ⟨.lookbehind, "lookbehind assertions ((?<=...), (?<!...)) are not accepted on the send path"⟩

def nestedQuantifier : UnsafeRegexError :=
  ⟨.nestedQuantifier,
    "a quantifier applied to a group that itself contains a quantifier or an alternation " ++
    "(for example (a+)+ or (a|b)*) can backtrack exponentially and is not accepted"⟩

def repeatBoundTooLarge (body : Source) : UnsafeRegexError :=
  ⟨.repeatBoundTooLarge,
    "repetition \x7b" ++ String.ofList (body.map fun u => Char.ofNat u.toNat) ++
    s!"\x7d exceeds the maximum bound of {MAX_REPEAT_BOUND}"⟩

def tooManyQuantifiers : UnsafeRegexError :=
  ⟨.tooManyQuantifiers, s!"pattern uses more than {MAX_QUANTIFIERS} quantifiers; " ++
    "simplify it or split it into several rules"⟩

def tooManyUnbounded : UnsafeRegexError :=
  ⟨.tooManyUnboundedQuantifiers,
    s!"pattern uses more than {MAX_UNBOUNDED_QUANTIFIERS} unbounded quantifiers " ++
    "(* + \x7bn,\x7d); unbounded repetition multiplies backtracking cost " ++
    "and is capped for that reason"⟩

end UnsafeRegexError

/-! ## The scan -/

/-- The counts of the scan. -/
structure ScanState where
  quantifiers : ℕ
  unbounded : ℕ

/-- `next` is what is left of the pattern after the body. -/
structure GroupSummary where
  next : Source
  hasQuantifier : Bool
  hasAlternation : Bool

/-- The quantifier read at an index; none has width 0. -/
structure QuantifierReading where
  width : ℕ
  unbounded : Bool

def noQuantifier : QuantifierReading := ⟨0, false⟩

/-- A mark of laziness, or what the scan takes for one. -/
def isLazy : Source → Bool
  | [] => false
  | char :: _ => char = unit '?' || char = unit '+'

/-- The least number that rounds to infinity, where the numbers end below `2 ^ top` and the last gap
between two of them is `2 ^ (half + 1)`. -/
def infinityFrom (top half : ℕ) : ℕ := 2 ^ top - 2 ^ half

/-- `Number(digits)`; none is infinity.  Rounding keeps every smaller number on its side of the
bound it is compared with. -/
def numberOfDigits (digits : Source) : Option ℕ :=
  if decimal digits < infinityFrom 1024 970 then some (decimal digits) else none

/-- `max` of the repetition; the absent and the empty text of it are infinity or `min`. -/
def maxOf (min : Option ℕ) (maxText : Option Source) : Option ℕ :=
  match maxText with
  | none => min
  | some digits => if digits = [] then none else numberOfDigits digits

/-- A bound is above the greatest one: of two numbers of which the first may be infinite, and of
which the second only counts when it is finite. -/
def exceedsBound (min max : Option ℕ) : Bool :=
  min.all (fun n => decide (MAX_REPEAT_BOUND < n)) || max.any fun n => decide (MAX_REPEAT_BOUND < n)

/-- The quantifier a text begins with. -/
def readQuantifier : Source → Except UnsafeRegexError QuantifierReading
  | [] => .ok noQuantifier
  | char :: after =>
    if char = unit '*' ∨ char = unit '+' then .ok ⟨if isLazy after then 2 else 1, true⟩
    else if char = unit '?' then .ok ⟨if isLazy after then 2 else 1, false⟩
    else if char ≠ unit '\x7b' then .ok noQuantifier
    else
      match braced after with
      | none => .ok noQuantifier
      | some (body, rest) =>
        -- `/^(\d+)(,(\d*)?)?$/`
        match bounds body with
        | none => .ok noQuantifier
        | some (minText, maxText) =>
          let max := maxOf (numberOfDigits minText) maxText
          if exceedsBound (numberOfDigits minText) max then .error (.repeatBoundTooLarge body)
          else .ok ⟨body.length + 2 + if isLazy rest then 1 else 0, max.isNone⟩

/-- The loop of `skipCharClass`. -/
def skipMembers : Source → Source
  | [] => []
  | [_] => []
  | char :: next :: after =>
    if char = unit '\\' then skipMembers after
    else if char = unit ']' then next :: after
    else skipMembers (next :: after)

/-- What follows the class after a `[`.  A `]` in the first place is taken for a member. -/
def skipCharClass (members : Source) : Source :=
  match afterCaret members with
  | [] => []
  | char :: after => skipMembers (if char = unit ']' then after else char :: after)

/-- The body of the group after a `(`. -/
def groupBodyStart (after : Source) : Source :=
  match after with
  | [] => []
  | [second] => if second = unit '?' then [] else after
  | second :: third :: rest =>
    if second ≠ unit '?' then after
    else if third = unit ':' ∨ third = unit '=' ∨ third = unit '!' then rest
    else if third = unit '<' then
      match (third :: rest).dropWhile fun u => decide (u ≠ unit '>') with
      | [] => rest
      | _ :: body => body
    else third :: rest

/-- `(?<=` or `(?<!`, after the parenthesis. -/
def startsLookbehind : Source → Bool
  | second :: third :: fourth :: _ =>
    second = unit '?' && third = unit '<' && (fourth = unit '=' || fourth = unit '!')
  | _ => false

/-- The counts with one more quantifier. -/
def countQuantifier (unbounded : Bool) (state : ScanState) : Except UnsafeRegexError ScanState :=
  let counted : ScanState :=
    { quantifiers := state.quantifiers + 1
      unbounded := if unbounded then state.unbounded + 1 else state.unbounded }
  if MAX_QUANTIFIERS < counted.quantifiers then .error .tooManyQuantifiers
  else if MAX_UNBOUNDED_QUANTIFIERS < counted.unbounded then .error .tooManyUnbounded
  else .ok counted

/-- The quantifier that may follow an atom, counted: what is left of the pattern after it, and
whether there was one. -/
def quantifyAtom (after : Source) (state : ScanState) :
    Except UnsafeRegexError (Source × ScanState × Bool) :=
  match readQuantifier after with
  | .error e => .error e
  | .ok quantifier =>
    if quantifier.width ≠ 0 then
      match countQuantifier quantifier.unbounded state with
      | .error e => .error e
      | .ok counted => .ok (after.drop quantifier.width, counted, true)
    else .ok (after, state, false)

/-- The loop of `scanBody`, with the quantifiers and alternations of the body met so far. -/
def scanLoop : ℕ → Source → ScanState → Bool → Bool →
    Except UnsafeRegexError (GroupSummary × ScanState)
  | 0, pattern, state, hasQuantifier, hasAlternation =>
    .ok (⟨pattern, hasQuantifier, hasAlternation⟩, state)
  | _ + 1, [], state, hasQuantifier, hasAlternation =>
    .ok (⟨[], hasQuantifier, hasAlternation⟩, state)
  | fuel + 1, char :: after, state, hasQuantifier, hasAlternation =>
    let atom (rest : Source) : Except UnsafeRegexError (GroupSummary × ScanState) :=
      match quantifyAtom rest state with
      | .error e => .error e
      | .ok (rest, counted, found) =>
        scanLoop fuel rest counted (hasQuantifier || found) hasAlternation
    if char = unit '\\' then
      if (after.head?).any (between '1' '9') then .error .backreference
      else if after.head? = some (unit 'k') then .error .namedBackreference
      else atom (after.drop 1)
    else if char = unit '[' then atom (skipCharClass after)
    else if char = unit '(' then
      if startsLookbehind after then .error .lookbehind
      else
        match scanLoop fuel (groupBodyStart after) state false false with
        | .error e => .error e
        | .ok (inner, state) =>
          match readQuantifier inner.next with
          | .error e => .error e
          | .ok quantifier =>
            if quantifier.width ≠ 0 then
              if inner.hasQuantifier || inner.hasAlternation then .error .nestedQuantifier
              else
                match countQuantifier quantifier.unbounded state with
                | .error e => .error e
                | .ok counted =>
                  scanLoop fuel (inner.next.drop quantifier.width) counted true
                    (hasAlternation || inner.hasAlternation)
            else
              scanLoop fuel inner.next state (hasQuantifier || inner.hasQuantifier)
                (hasAlternation || inner.hasAlternation)
    else if char = unit ')' then .ok (⟨after, hasQuantifier, hasAlternation⟩, state)
    else if char = unit '|' then scanLoop fuel after state hasQuantifier true
    else atom after

/-- The body from `pattern` on, up to an unmatched `)` or the end; each turn of the loop takes a
unit of the pattern at least. -/
def scanBody (pattern : Source) (state : ScanState) :
    Except UnsafeRegexError (GroupSummary × ScanState) :=
  scanLoop (pattern.length + 1) pattern state false false

/-! ## Admission -/

/-- What `new RegExp` refuses besides the shapes the grammar does not have, and its complaint. -/
structure SyntaxErrors where
  early : Source → Bool
  message : Source → String

/-- The check every pattern passes. -/
def checkRegexPattern (syntaxErrors : SyntaxErrors) (pattern : Source) :
    Except UnsafeRegexError Unit :=
  if pattern = [] then .error .empty
  else if MAX_PATTERN_LENGTH < pattern.length then .error .tooLong
  else if (parse pattern).isNone || syntaxErrors.early pattern then
    .error (.invalidSyntax (syntaxErrors.message pattern))
  else
    match scanBody pattern ⟨0, 0⟩ with
    | .error e => .error e
    | .ok _ => .ok ()

end Jkannel.Messaging
