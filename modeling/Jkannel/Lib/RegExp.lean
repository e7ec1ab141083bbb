import Mathlib.Data.List.Basic

/-!
# Regular expressions from their source text

The regular expressions of ECMAScript, as far as a program needs them that writes the source text of
an expression and hands it to the engine: the syntax is read character by character, and what was
read is matched by backtracking with continuations, the way the language defines it without the
flags `m` and `u`.

* `Regex` is an expression, and `Regex.run` matches it.
* `step` reads one character of a source text, `parse` the whole of it.  A construct outside the
  subset (captures, counted and lazy repetition, negated classes, lookaround, back references) is
  refused, and so is what the language refuses.
* `Reads` says what terms a piece of source text adds to those read before it.  Its rules
  (`Reads.append`, `Reads.group`, …) go by the pieces, so that a compiler to source text is verified
  one piece at a time.
-/

namespace RegExp

open List Option

/-! ## Expressions -/

/-- A member of a character class. -/
inductive Item where
  | range (lo hi : Char)
  /-- `\s`, or `\S` when it is not `inside`. -/
  | space (inside : Bool)

inductive Regex where
  | empty
  | char (c : Char)
  /-- `.` -/
  | dot
  | set (items : List Item)
  | seq (r s : Regex)
  | alt (r s : Regex)
  | star (r : Regex)
  /-- `^` -/
  | start
  /-- `$` -/
  | stop

/-- What an engine compares characters by, and what it takes for white space. -/
structure Engine where
  /-- The identity, or the case folding of the flag `i`. -/
  fold : Char → Char
  space : Char → Bool

/-- One after the other. -/
def sequence (rs : List Regex) : Regex := rs.foldr .seq .empty

/-- Any of them. -/
def disjunction (rs : List Regex) : Regex := rs.foldr .alt (.set [])

variable (engine : Engine) {pieces : List (List Char)} {rss : List (List Regex)}

/-- Some character of the class is the same as `x`.  White space has no case. -/
def Item.has (x : Char) : Item → Bool
  | .range lo hi => (List.range (hi.toNat - lo.toNat + 1)).any fun i =>
      engine.fold (Char.ofNat (lo.toNat + i)) == engine.fold x
  | .space inside => engine.space x == inside

/-- Repetition as the language has it: one round more, as long as rounds take something, and then
what follows; or what follows at once. -/
def repeated (round : Bool → List Char → (Bool → List Char → Bool) → Bool) :
    Nat → Bool → List Char → (Bool → List Char → Bool) → Bool
  | 0, atStart, text, next => next atStart text
  | fuel + 1, atStart, text, next =>
    round atStart text (fun atStart' text' =>
      text'.length < text.length && repeated round fuel atStart' text' next) ||
    next atStart text

/-- Whether the expression matches a beginning of `text` so that `next` takes the rest.  `atStart`
is whether nothing stands before `text`. -/
def Regex.run : Regex → Bool → List Char → (Bool → List Char → Bool) → Bool
  | .empty, atStart, text, next => next atStart text
  | .char c, _, text, next =>
    match text with
    | [] => false
    | x :: text => engine.fold c == engine.fold x && next false text
  | .dot, _, text, next =>
    match text with
    | [] => false
    | x :: text => x.toNat ∉ [0x0A, 0x0D, 0x2028, 0x2029] && next false text
  | .set items, _, text, next =>
    match text with
    | [] => false
    | x :: text => items.any (Item.has engine x) && next false text
  | .seq r s, atStart, text, next =>
    r.run atStart text fun atStart' text' => s.run atStart' text' next
  | .alt r s, atStart, text, next => r.run atStart text next || s.run atStart text next
  | .star r, atStart, text, next => repeated r.run text.length atStart text next
  | .start, atStart, text, next => atStart && next atStart text
  | .stop, atStart, text, next => text.isEmpty && next atStart text

/-- `RegExp.prototype.test`: whether the expression matches somewhere in the text. -/
def Regex.test (r : Regex) (text : List Char) : Bool :=
  r.run engine true text (fun _ _ => true) ||
    text.tails.tail.any fun text => r.run engine false text fun _ _ => true

/-! ## Source text -/

/-- The characters that mean something, and stand for themselves behind a `\`. -/
def syntaxCharacters : List Char :=
  ['^', '$', '\\', '.', '*', '+', '?', '(', ')', '[', ']', '\x7b', '\x7d', '|']

/-- Where in a source text the reader stands. -/
inductive Mode where
  /-- Between terms; the last one may be `repeatable`. -/
  | text (repeatable : Bool)
  /-- Behind a `\`. -/
  | escape
  /-- Behind `(`. -/
  | group
  /-- Behind `(?`. -/
  | extension
  /-- In a class. -/
  | members (items : List Item)
  /-- In a class, behind a character that may begin a range. -/
  | member (items : List Item) (lo : Char)
  /-- In a class, behind the `-` of a range. -/
  | range (items : List Item) (lo : Char)
  /-- In a class, behind a `\`. -/
  | memberEscape (items : List Item)

/-- What was read of a group: the alternatives that are closed, and the terms of the open one. -/
structure Frame where
  alternatives : List Regex
  terms : List Regex

def Frame.regex (frame : Frame) : Regex :=
  disjunction (frame.alternatives ++ [sequence frame.terms])

/-- What was read of a source text: the innermost open group, and those around it. -/
structure State where
  mode : Mode
  frame : Frame
  outer : List Frame

/-- One more term. -/
def State.push (st : State) (r : Regex) (repeatable : Bool) : State :=
  { st with
    mode := .text repeatable
    frame := { st.frame with terms := st.frame.terms ++ [r] } }

/-- The last term is replaced. -/
def State.repeatLast (st : State) (f : Regex → Regex) : Option State :=
  st.frame.terms.getLast?.map fun r =>
    { st with
      mode := .text false
      frame := { st.frame with terms := st.frame.terms.dropLast ++ [f r] } }

/-- A character that means something, between terms. -/
def punctuation (st : State) (repeatable : Bool) (c : Char) : Option State :=
  match c with
  | '\\' => some { st with mode := .escape }
  | '(' => some { st with mode := .group }
  | ')' =>
    match st.outer with
    | [] => none
    | frame :: outer => some (State.push ⟨st.mode, frame, outer⟩ st.frame.regex true)
  | '[' => some { st with mode := .members [] }
  | '|' =>
    some { st with
      mode := .text false
      frame := ⟨st.frame.alternatives ++ [sequence st.frame.terms], []⟩ }
  | '^' => some (st.push .start false)
  | '$' => some (st.push .stop false)
  | '.' => some (st.push .dot true)
  | '*' => if repeatable then st.repeatLast .star else none
  | '+' => if repeatable then st.repeatLast fun r => .seq r (.star r) else none
  | '?' => if repeatable then st.repeatLast fun r => .alt r .empty else none
  | _ => none

/-- One character of a source text. -/
def step (st : State) (c : Char) : Option State :=
  match st.mode with
  | .text repeatable =>
    if c ∈ syntaxCharacters then punctuation st repeatable c else some (st.push (.char c) true)
  | .escape =>
    if c ∈ syntaxCharacters then some (st.push (.char c) true)
    else if c = 's' then some (st.push (.set [.space true]) true)
    else if c = 'S' then some (st.push (.set [.space false]) true)
    else none
  | .group => if c = '?' then some { st with mode := .extension } else none
  | .extension =>
    if c = ':' then some ⟨.text false, ⟨[], []⟩, st.frame :: st.outer⟩ else none
  | .members items =>
    if c = ']' then some (st.push (.set items) true)
    else if c = '\\' then some { st with mode := .memberEscape items }
    else if c = '^' ∨ c = '-' then none
    else some { st with mode := .member items c }
  | .member items lo =>
    if c = ']' then some (st.push (.set (items ++ [.range lo lo])) true)
    else if c = '\\' then some { st with mode := .memberEscape (items ++ [.range lo lo]) }
    else if c = '-' then some { st with mode := .range items lo }
    else some { st with mode := .member (items ++ [.range lo lo]) c }
  | .range items lo =>
    if c = ']' ∨ c = '\\' ∨ c < lo then none
    else some { st with mode := .members (items ++ [.range lo c]) }
  | .memberEscape items =>
    if c = 's' then some { st with mode := .members (items ++ [.space true]) }
    else if c = 'S' then some { st with mode := .members (items ++ [.space false]) }
    else none

/-- A source text, from where the reader stands. -/
def read : State → List Char → Option State
  | st, [] => some st
  | st, c :: source => (step st c).bind fun st => read st source

/-- The expression of a source text, or none when the engine refuses it. -/
def parse (source : List Char) : Option Regex :=
  match read ⟨.text false, ⟨[], []⟩, []⟩ source with
  | some ⟨.text _, frame, []⟩ => some frame.regex
  | _ => none

/-! ## What a piece of source text reads as -/

theorem read_append (st : State) (source source' : List Char) :
    read st (source ++ source') = (read st source).bind fun st => read st source' := by
  induction source generalizing st with
  | nil => rfl
  | cons c source ih =>
    rw [cons_append, read, read, bind_assoc]
    congr 1
    funext st'
    exact ih st'

/-- Wherever terms may stand, the piece adds these. -/
def Reads (piece : List Char) (rs : List Regex) : Prop :=
  ∀ (q : Bool) (frame : Frame) (outer : List Frame), ∃ q', read ⟨.text q, frame, outer⟩ piece =
    some ⟨.text q', { frame with terms := frame.terms ++ rs }, outer⟩

theorem Reads.nil : Reads [] [] := by
  intro q frame outer
  refine ⟨q, ?_⟩
  rw [read, append_nil]

theorem Reads.append {piece piece' : List Char} {rs rs' : List Regex} (h : Reads piece rs)
    (h' : Reads piece' rs') : Reads (piece ++ piece') (rs ++ rs') := by
  intro q frame outer
  obtain ⟨q₁, hread⟩ := h q frame outer
  obtain ⟨q₂, hread'⟩ := h' q₁ { frame with terms := frame.terms ++ rs } outer
  refine ⟨q₂, ?_⟩
  rw [read_append, hread, bind_some, hread', append_assoc]

/-- Pieces that read as one term each. -/
theorem Reads.flatMap {α : Type} {piece : α → List Char} {term : α → Regex}
    (h : ∀ a, Reads (piece a) [term a]) (l : List α) : Reads (l.flatMap piece) (l.map term) := by
  induction l with
  | nil => exact .nil
  | cons a l ih => exact (h a).append ih

theorem Reads.literal {c : Char} (h : c ∉ syntaxCharacters) : Reads [c] [.char c] := by
  intro q frame outer
  refine ⟨true, ?_⟩
  simp [read, step, h, State.push]

theorem Reads.escaped {c : Char} (h : c ∈ syntaxCharacters) : Reads ['\\', c] [.char c] := by
  intro q frame outer
  refine ⟨true, ?_⟩
  have hescape : '\\' ∈ syntaxCharacters := by decide
  simp [read, step, h, hescape, punctuation, State.push]

theorem Reads.start : Reads ['^'] [.start] :=
  fun _ _ _ => ⟨false, rfl⟩

theorem Reads.stop : Reads ['$'] [.stop] :=
  fun _ _ _ => ⟨false, rfl⟩

/-- Alternatives up to the last one: all but it are closed. -/
theorem read_alternatives (h : List.Forall₂ Reads pieces rss) (hne : pieces ≠ []) (q : Bool)
    (closed : List Regex) (outer : List Frame) :
    ∃ q' frame, read ⟨.text q, ⟨closed, []⟩, outer⟩ (List.intercalate ['|'] pieces) =
        some ⟨.text q', frame, outer⟩ ∧
      frame.regex = disjunction (closed ++ rss.map sequence) := by
  induction h generalizing q closed with
  | nil => exact absurd rfl hne
  | @cons piece rs pieces rss hpiece hpieces ih =>
    obtain ⟨q₁, hread⟩ := hpiece q ⟨closed, []⟩ outer
    rw [nil_append] at hread
    cases hpieces with
    | nil => exact ⟨q₁, ⟨closed, rs⟩, by rw [intercalate_singleton, hread], rfl⟩
    | @cons piece' rs' pieces rss hpiece' hpieces =>
      obtain ⟨q₂, frame, hread', hframe⟩ := ih (cons_ne_nil _ _) false (closed ++ [sequence rs])
      have hbar : read ⟨.text q₁, ⟨closed, rs⟩, outer⟩ ['|'] =
          some ⟨.text false, ⟨closed ++ [sequence rs], []⟩, outer⟩ := rfl
      refine ⟨q₂, frame, ?_, ?_⟩
      · rw [intercalate_cons_cons, append_assoc, read_append, hread, bind_some,
          read_append, hbar, bind_some, hread']
      · rw [hframe, map_cons, append_assoc]
        rfl

/-- A group of alternatives is one term. -/
theorem Reads.group (h : List.Forall₂ Reads pieces rss) (hne : pieces ≠ []) :
    Reads (['(', '?', ':'] ++ (List.intercalate ['|'] pieces ++ [')']))
      [disjunction (rss.map sequence)] := by
  intro q frame outer
  obtain ⟨q', inner, hread, hinner⟩ := read_alternatives h hne false [] (frame :: outer)
  have hopen : read ⟨.text q, frame, outer⟩ ['(', '?', ':'] =
      some ⟨.text false, ⟨[], []⟩, frame :: outer⟩ := rfl
  have hclose : read ⟨.text q', inner, frame :: outer⟩ [')'] =
      some ⟨.text true, { frame with terms := frame.terms ++ [inner.regex] }, outer⟩ := rfl
  refine ⟨true, ?_⟩
  rw [read_append, hopen, bind_some, read_append, hread, bind_some, hclose, hinner, nil_append]

/-- A source text that reads as a list of terms is their sequence. -/
theorem Reads.parse {source : List Char} {rs : List Regex} (h : Reads source rs) :
    parse source = some (disjunction [sequence rs]) := by
  obtain ⟨q, hread⟩ := h false ⟨[], []⟩ []
  rw [RegExp.parse, hread]
  rfl

/-! ## What an expression matches -/

variable {engine}

theorem run_disjunction (rs : List Regex) (atStart : Bool) (text : List Char)
    (next : Bool → List Char → Bool) :
    (disjunction rs).run engine atStart text next = rs.any (·.run engine atStart text next) := by
  induction rs with
  | nil => cases text <;> rfl
  | cons r rs ih =>
    rw [any_cons, ← ih]
    rfl

/-- A term that takes any one character, repeated, takes any beginning of the text. -/
theorem run_star_of_any {r : Regex} {atStart : Bool} {text : List Char} {next : List Char → Bool}
    (h : ∀ atStart text next, r.run engine atStart text next = match text with
      | [] => false
      | _ :: text => next false text) :
    (Regex.star r).run engine atStart text (fun _ => next) = text.tails.any next := by
  have hrepeated : ∀ fuel atStart (text : List Char), text.length ≤ fuel →
      repeated (r.run engine) fuel atStart text (fun _ => next) = text.tails.any next := by
    intro fuel
    induction fuel with
    | zero =>
      intro atStart text hfuel
      obtain rfl := eq_nil_of_length_eq_zero (Nat.le_zero.mp hfuel)
      simp [repeated]
    | succ fuel ih =>
      intro atStart text hfuel
      rw [repeated, h]
      cases text with
      | nil => simp
      | cons x text =>
        have hlength : text.length ≤ fuel := by simpa using hfuel
        simp [List.tails, ih false text hlength, Bool.or_comm]
  exact hrepeated text.length atStart text (Nat.le_refl _)

/-- An expression between `^` and `$` matches the whole text or nothing. -/
theorem test_anchored (r : Regex) (text : List Char) :
    (disjunction [sequence [.start, r, .stop]]).test engine text =
      r.run engine true text fun _ text => text.isEmpty := by
  have hlater : ∀ text, (disjunction [sequence [.start, r, .stop]]).run engine false text
      (fun _ _ => true) = false := by
    intro text
    rw [run_disjunction]
    rfl
  rw [Regex.test, any_eq_false.mpr fun text _ => by rw [hlater]; exact Bool.false_ne_true,
    Bool.or_false, run_disjunction]
  simp [sequence, Regex.run]

end RegExp
