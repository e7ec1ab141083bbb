import Jkannel.Text

/-!
# The wildcard grammar

The patterns operators write for destinations and senders: `*` is any run of characters, `#` one
digit, `$` one letter, and `|` separates whole patterns.  The source compiles a pattern to an
anchored regular expression without regard to case; `matchesAlternative` is what that expression
accepts.

An invalid pattern matches nothing.
-/

namespace Jkannel.Routing

/-- Ceiling on the length of a pattern. -/
def MAX_PATTERN_LENGTH : Nat := 512

/-- Ceiling on the alternatives in one pattern. -/
def MAX_ALTERNATIVES : Nat := 64

/-- The alternatives of a pattern, each without the space around the separator. -/
def splitAlternatives (pattern : String) : List String :=
  (Text.split '|' pattern).map Text.trim

inductive WildcardProblem where
  | empty | tooLong | tooManyAlternatives | emptyAlternative

/-- Why a pattern would be rejected, or none. -/
def describeWildcardProblem (pattern : String) : Option WildcardProblem :=
  if Text.trim pattern = "" then some .empty
  else if MAX_PATTERN_LENGTH < Text.jsLength pattern then some .tooLong
  else if MAX_ALTERNATIVES < (splitAlternatives pattern).length then some .tooManyAlternatives
  else if "" ∈ splitAlternatives pattern then some .emptyAlternative
  else none

/-- Whether the pattern's character `c`, which is not `*`, takes the character `x`. -/
def matchesCharacter (fold : Char → Char) (c x : Char) : Bool :=
  if c = '#' then decide ('0' ≤ x ∧ x ≤ '9')
  else if c = '$' then decide (('a' ≤ x ∧ x ≤ 'z') ∨ ('A' ≤ x ∧ x ≤ 'Z'))
  else fold c == fold x

/-- One alternative against a whole text.  Everything but the three wildcards stands for itself. -/
def matchesAlternative (fold : Char → Char) : List Char → List Char → Bool
  | [], text => text.isEmpty
  | c :: pattern, text =>
    if c = '*' then text.tails.any (matchesAlternative fold pattern)
    else match text with
      | [] => false
      | x :: text => matchesCharacter fold c x && matchesAlternative fold pattern text

/-- Whether `value` matches `pattern`, without regard to case.  A value that is absent matches no
pattern, not even `*`. -/
def matchesWildcard (env : TextEngine) (value : Option String) (pattern : String) : Bool :=
  match value with
  | none => false
  | some value =>
    (describeWildcardProblem pattern).isNone &&
      (splitAlternatives pattern).any fun alternative =>
        matchesAlternative env.regexFold alternative.toList value.toList

/-- How specific a pattern is: the literal characters of its least specific alternative. -/
def wildcardSpecificity (pattern : String) : Nat :=
  let literals := (Text.split '|' pattern).map fun alternative =>
    Text.jsLength (String.ofList (alternative.toList.filter fun c => c ∉ ['*', '#', '$']))
  (literals.min?).getD 0

example : matchesWildcard .ascii (some "256782123456") "25677* | 25678* | 25676*" = true := by
  decide +kernel

end Jkannel.Routing
