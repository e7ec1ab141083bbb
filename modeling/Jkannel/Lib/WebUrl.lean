import Mathlib.Data.List.DropRight
import Mathlib.Algebra.Ring.Nat

/-!
# The parser of absolute web addresses

What the URL Standard makes of the text of an absolute `https` address, as far as the name of the
host: the text is trimmed, a scheme is read, then an authority, and of the authority the name and
the port.  What becomes of the decoded name is a parameter.

* `parse` is the parser, and `HostParser` what it leaves to others.
* `percentDecode` and `decode` turn the name of a host into octets, and the octets into text.
* `Piece` is a text with holes in it.  Every step of the parser treats a text with its holes filled
  as it treats the pieces, as long as the filling is `Inert`; `parse_render` is what follows for two
  fillings of one text, when the first of them is an escape that lacks a digit.
-/

namespace WebUrl

open List Option

/-! ## Octets -/

/-- The value of a hexadecimal digit. -/
def hexValue (c : Char) : Option Nat :=
  if '0' ≤ c ∧ c ≤ '9' then some (c.toNat - 48)
  else if 'a' ≤ c ∧ c ≤ 'f' then some (c.toNat - 87)
  else if 'A' ≤ c ∧ c ≤ 'F' then some (c.toNat - 55)
  else none

/-- The octets of a character in UTF-8. -/
def utf8 (c : Char) : List Nat :=
  let n := c.toNat
  if n < 0x80 then [n]
  else if n < 0x800 then [0xC0 + n / 64, 0x80 + n % 64]
  else if n < 0x10000 then [0xE0 + n / 4096, 0x80 + n / 64 % 64, 0x80 + n % 64]
  else [0xF0 + n / 262144, 0x80 + n / 4096 % 64, 0x80 + n / 64 % 64, 0x80 + n % 64]

/-- A percent sign and two hexadecimal digits are an octet; everything else is its UTF-8. -/
def percentDecode : List Char → List Nat
  | '%' :: x :: y :: rest =>
    match hexValue x, hexValue y with
    | some a, some b => (16 * a + b) :: percentDecode rest
    | _, _ => 0x25 :: percentDecode (x :: y :: rest)
  | c :: rest => utf8 c ++ percentDecode rest
  | [] => []

/-- What the octet after the first of a character may be. -/
inductive Bounds where
  | full | afterE0 | afterED | afterF0 | afterF4
  deriving DecidableEq

def Bounds.lower : Bounds → Nat
  | .afterE0 => 0xA0
  | .afterF0 => 0x90
  | _ => 0x80

def Bounds.upper : Bounds → Nat
  | .afterED => 0x9F
  | .afterF4 => 0x8F
  | _ => 0xBF

/-- Where the decoder stands between two octets. -/
inductive Decoder where
  | start
  /-- One octet within the bounds is owed, and `more` after it; `bits` is what there is of the code
  point. -/
  | within (bounds : Bounds) (more bits : Nat)
  deriving DecidableEq

/-- One octet: the state after it and the character it completes, or `none` where UTF-8 cannot hold
it. -/
def Decoder.next : Decoder → Nat → Option (Decoder × Option Char)
  | .start, b =>
    if b ≤ 0x7F then some (.start, some (Char.ofNat b))
    else if 0xC2 ≤ b ∧ b ≤ 0xDF then some (.within .full 0 (b % 32), none)
    else if b = 0xE0 then some (.within .afterE0 1 0, none)
    else if b = 0xED then some (.within .afterED 1 13, none)
    else if 0xE1 ≤ b ∧ b ≤ 0xEF then some (.within .full 1 (b % 16), none)
    else if b = 0xF0 then some (.within .afterF0 2 0, none)
    else if b = 0xF4 then some (.within .afterF4 2 4, none)
    else if 0xF1 ≤ b ∧ b ≤ 0xF3 then some (.within .full 2 (b % 8), none)
    else none
  | .within bounds more bits, b =>
    if bounds.lower ≤ b ∧ b ≤ bounds.upper then
      match more with
      | 0 => some (.start, some (Char.ofNat (64 * bits + b % 64)))
      | more + 1 => some (.within .full more (64 * bits + b % 64), none)
    else none

/-- The text that octets are the UTF-8 of.  Where they are not, the standard's decoder puts U+FFFD,
which no name of a host may contain. -/
def decode : Decoder → List Nat → Option (List Char)
  | .start, [] => some []
  | .within _ _ _, [] => none
  | q, b :: rest => (q.next b).bind fun p => (decode p.1 rest).map (p.2.toList ++ ·)

/-! ## The parser -/

/-- What is left to others. -/
structure HostParser where
  /-- "Domain to ASCII" of a decoded name, and the parser of IPv4 addresses. -/
  domain : List Char → Option String
  /-- The parser of IPv6 addresses, of what is between the brackets. -/
  ipv6 : List Char → Option String
  /-- The host of an address whose scheme, the first argument, is another one. -/
  other : String → List Char → Option String
  /-- U+0025 is a forbidden domain code point. -/
  domain_percent : ∀ name, '%' ∈ name → domain name = none
  /-- And it is no part of an IPv6 address. -/
  ipv6_percent : ∀ name, '%' ∈ name → ipv6 name = none

/-- What is kept of an address. -/
structure Location where
  protocol : String
  hostname : String

/-- A C0 control or a space. -/
def isBlank (c : Char) : Bool := c.toNat ≤ 0x20

def isTabOrNewline (c : Char) : Bool := c = '\t' || c = '\n' || c = '\r'

def isAlpha (c : Char) : Bool := ('a' ≤ c && c ≤ 'z') || ('A' ≤ c && c ≤ 'Z')

def isDigit (c : Char) : Bool := '0' ≤ c && c ≤ '9'

def isSchemeChar (c : Char) : Bool := isAlpha c || isDigit c || c = '+' || c = '-' || c = '.'

/-- The ASCII lower case of a character. -/
def lower (c : Char) : Char := if 'A' ≤ c ∧ c ≤ 'Z' then Char.ofNat (c.toNat + 32) else c

/-- A slash of either kind, as a special scheme has it. -/
def isSlash (c : Char) : Bool := c = '/' || c = '\\'

/-- What ends an authority. -/
def endsAuthority (c : Char) : Bool := isSlash c || c = '?' || c = '#'

/-- The host of an authority, and the port if there is a colon outside brackets. -/
def splitHost : Bool → List Char → List Char × Option (List Char)
  | _, [] => ([], none)
  | inside, c :: rest =>
    if c = ':' ∧ inside = false then ([], some rest)
    else
      let r := splitHost (if c = '[' then true else if c = ']' then false else inside) rest
      (c :: r.1, r.2)

/-- A port is empty or a number below 65536. -/
def isPort (port : List Char) : Bool :=
  port.all isDigit && port.foldl (fun n c => 10 * n + (c.toNat - 48)) 0 < 65536

/-- The host parser. -/
def parseHost (host : HostParser) : List Char → Option String
  | [] => none
  | '[' :: rest => if rest.getLast? = some ']' then host.ipv6 rest.dropLast else none
  | name => (decode .start (percentDecode name)).bind host.domain

/-- The host of an `https` address, from behind the colon of its scheme. -/
def httpsHost (host : HostParser) (rest : List Char) : Option String :=
  let authority := (rest.dropWhile isSlash).takeWhile fun c => !endsAuthority c
  let r := splitHost false (authority.rtakeWhile fun c => c ≠ '@')
  if r.2.all isPort then parseHost host r.1 else none

/-- The text that is parsed: blanks go at both ends, and tabs and newlines everywhere. -/
def clean (input : List Char) : List Char :=
  ((input.dropWhile isBlank).rdropWhile isBlank).filter fun c => !isTabOrNewline c

/-- The parser, from a cleaned text. -/
def parseClean (host : HostParser) (input : List Char) : Option Location :=
  let scheme := input.takeWhile isSchemeChar
  match input.dropWhile isSchemeChar with
  | ':' :: rest =>
    if scheme.head?.any isAlpha then
      let name := String.ofList (scheme.map lower)
      (if name = "https" then httpsHost host rest else host.other name rest).map
        (Location.mk (name ++ ":"))
    else none
  | _ => none

/-- The parser, after the stripping. -/
def parse (host : HostParser) (input : String) : Option Location :=
  parseClean host (clean input.toList)

/-! ## Texts with holes -/

/-- A piece of a text with holes in it. -/
inductive Piece where
  | keep (c : Char)
  | hole
  deriving DecidableEq

/-- The text, with something in each hole. -/
def render (fill : List Char) : List Piece → List Char
  | [] => []
  | .keep c :: rest => c :: render fill rest
  | .hole :: rest => fill ++ render fill rest

/-- A character that the parser neither trims nor splits at. -/
def inert (c : Char) : Bool :=
  !isBlank c && !isTabOrNewline c && !endsAuthority c && c ≠ '@' && c ≠ ':' && c ≠ '[' && c ≠ ']'

/-- A filling that the parser treats as one piece. -/
structure Inert (fill : List Char) : Prop where
  nonempty : fill ≠ []
  inert : ∀ c ∈ fill, inert c = true

attribute [local grind =] render splitHost decode percentDecode

variable {c : Char} {fill name : List Char} {p : Char → Bool} {b : Nat} {q : Decoder}
  {bs : List Nat} {cs : List Char} {y z : Char}

theorem inert_eq_true_iff : inert c = true ↔
    isBlank c = false ∧ isTabOrNewline c = false ∧ endsAuthority c = false ∧
      c ≠ '@' ∧ c ≠ ':' ∧ c ≠ '[' ∧ c ≠ ']' := by
  simp only [inert, Bool.and_eq_true, Bool.not_eq_true', decide_eq_true_eq, and_assoc]

theorem isSlash_of_inert (h : inert c = true) : isSlash c = false := by
  have := (inert_eq_true_iff.mp h).2.2.1
  simp only [endsAuthority, Bool.or_eq_false_iff] at this
  exact this.1.1

theorem Inert.reverse (h : Inert fill) : Inert fill.reverse :=
  ⟨fun hnil => h.nonempty (reverse_eq_nil_iff.mp hnil),
    fun c hc => h.inert c (mem_reverse.mp hc)⟩

theorem render_append (fill : List Char) (t u : List Piece) :
    render fill (t ++ u) = render fill t ++ render fill u := by
  induction t with
  | nil => rfl
  | cons piece t ih =>
    cases piece with
    | keep c => simp only [cons_append, render, ih]
    | hole => simp only [cons_append, render, ih, append_assoc]

theorem render_reverse (fill : List Char) (t : List Piece) :
    (render fill t).reverse = render fill.reverse t.reverse := by
  induction t with
  | nil => rfl
  | cons piece t ih =>
    rw [reverse_cons, render_append, ← ih]
    cases piece with
    | keep c => simp only [render, reverse_cons]
    | hole => simp only [render, reverse_append, append_nil]

theorem render_map_keep (fill : List Char) (cs : List Char) :
    render fill (cs.map Piece.keep) = cs := by
  induction cs with
  | nil => rfl
  | cons c cs ih => simp only [map_cons, render, ih]

/-- A text without holes is what it is. -/
theorem render_of_notMem (fill fill' : List Char) {t : List Piece} (h : Piece.hole ∉ t) :
    render fill t = render fill' t := by
  induction t with
  | nil => rfl
  | cons piece t ih =>
    have ih := ih fun hmem => h (mem_cons_of_mem piece hmem)
    cases piece with
    | keep c => simp only [render, ih]
    | hole => exact absurd mem_cons_self h

/-! Each step of the parser takes pieces to pieces, whatever the holes are filled with. -/

theorem exists_dropWhile (hp : ∀ c, inert c = true → p c = false) (t : List Piece) :
    ∃ u, ∀ fill, Inert fill → (render fill t).dropWhile p = render fill u := by
  induction t with
  | nil => exact ⟨[], fun _ _ => rfl⟩
  | cons piece t ih =>
    cases piece with
    | keep c =>
      obtain ⟨u, hu⟩ := ih
      cases hc : p c with
      | true => exact ⟨u, fun fill hf => by rw [render, dropWhile_cons_of_pos hc, hu fill hf]⟩
      | false =>
        exact ⟨.keep c :: t, fun fill _ => by
          rw [render, dropWhile_cons_of_neg (by rw [hc]; exact Bool.false_ne_true)]⟩
    | hole =>
      refine ⟨.hole :: t, fun fill hf => ?_⟩
      obtain ⟨c, cs, rfl⟩ := exists_cons_of_ne_nil hf.nonempty
      have hc : p c = false := hp c (hf.inert c mem_cons_self)
      rw [render, cons_append, dropWhile_cons_of_neg (by rw [hc]; exact Bool.false_ne_true)]

theorem exists_takeWhile (hp : ∀ c, inert c = true → p c = true) (t : List Piece) :
    ∃ u, ∀ fill, Inert fill → (render fill t).takeWhile p = render fill u := by
  induction t with
  | nil => exact ⟨[], fun _ _ => rfl⟩
  | cons piece t ih =>
    obtain ⟨u, hu⟩ := ih
    cases piece with
    | keep c =>
      cases hc : p c with
      | true =>
        exact ⟨.keep c :: u, fun fill hf => by
          rw [render, takeWhile_cons_of_pos hc, hu fill hf, render]⟩
      | false =>
        exact ⟨[], fun fill _ => by
          simp only [render]
          rw [takeWhile_cons_of_neg (by rw [hc]; exact Bool.false_ne_true)]⟩
    | hole =>
      refine ⟨.hole :: u, fun fill hf => ?_⟩
      rw [render, takeWhile_append_of_pos fun c hc => hp c (hf.inert c hc), hu fill hf, render]

theorem exists_filter (hp : ∀ c, inert c = true → p c = true) (t : List Piece) :
    ∃ u, ∀ fill, Inert fill → (render fill t).filter p = render fill u := by
  induction t with
  | nil => exact ⟨[], fun _ _ => rfl⟩
  | cons piece t ih =>
    obtain ⟨u, hu⟩ := ih
    cases piece with
    | keep c =>
      cases hc : p c with
      | true =>
        exact ⟨.keep c :: u, fun fill hf => by
          rw [render, filter_cons_of_pos hc, hu fill hf, render]⟩
      | false =>
        exact ⟨u, fun fill hf => by
          rw [render, filter_cons_of_neg (by rw [hc]; exact Bool.false_ne_true), hu fill hf]⟩
    | hole =>
      refine ⟨.hole :: u, fun fill hf => ?_⟩
      rw [render, filter_append, hu fill hf, render,
        filter_eq_self.mpr fun c hc => hp c (hf.inert c hc)]

theorem exists_rdropWhile (hp : ∀ c, inert c = true → p c = false) (t : List Piece) :
    ∃ u, ∀ fill, Inert fill → (render fill t).rdropWhile p = render fill u := by
  obtain ⟨u, hu⟩ := exists_dropWhile hp t.reverse
  refine ⟨u.reverse, fun fill hf => ?_⟩
  rw [List.rdropWhile, render_reverse, hu _ hf.reverse, render_reverse, reverse_reverse]

theorem exists_rtakeWhile (hp : ∀ c, inert c = true → p c = true) (t : List Piece) :
    ∃ u, ∀ fill, Inert fill → (render fill t).rtakeWhile p = render fill u := by
  obtain ⟨u, hu⟩ := exists_takeWhile hp t.reverse
  refine ⟨u.reverse, fun fill hf => ?_⟩
  rw [List.rtakeWhile, render_reverse, hu _ hf.reverse, render_reverse, reverse_reverse]

/-- What ends a host is not in an inert text. -/
theorem splitHost_append (hf : ∀ c ∈ fill, inert c = true) (inside : Bool) (s : List Char) :
    splitHost inside (fill ++ s) = (fill ++ (splitHost inside s).1, (splitHost inside s).2) := by
  induction fill with
  | nil => rfl
  | cons c fill ih =>
    obtain ⟨-, -, -, -, hcolon, hopen, hclose⟩ := inert_eq_true_iff.mp (hf c mem_cons_self)
    have ih := ih fun d hd => hf d (mem_cons_of_mem c hd)
    rw [cons_append, splitHost, if_neg fun h => hcolon h.1, if_neg hopen, if_neg hclose, ih]
    rfl

theorem exists_splitHost (t : List Piece) (inside : Bool) :
    ∃ (u : List Piece) (port : Option (List Piece)), ∀ fill, Inert fill →
      splitHost inside (render fill t) = (render fill u, port.map (render fill)) := by
  induction t generalizing inside with
  | nil => exact ⟨[], none, fun _ _ => rfl⟩
  | cons piece t ih =>
    cases piece with
    | keep c =>
      by_cases hc : c = ':' ∧ inside = false
      · exact ⟨[], some t, fun fill _ => by
          simp only [render]
          rw [splitHost, if_pos hc]
          rfl⟩
      · obtain ⟨u, port, hu⟩ := ih (if c = '[' then true else if c = ']' then false else inside)
        exact ⟨.keep c :: u, port, fun fill hf => by
          simp only [render]
          rw [splitHost, if_neg hc, hu fill hf]⟩
    | hole =>
      obtain ⟨u, port, hu⟩ := ih inside
      exact ⟨.hole :: u, port, fun fill hf => by
        simp only [render]
        rw [splitHost_append hf.inert, hu fill hf]⟩

theorem exists_clean (t : List Piece) :
    ∃ u, ∀ fill, Inert fill → clean (render fill t) = render fill u := by
  have hblank : ∀ c, inert c = true → isBlank c = false := fun c hc =>
    (inert_eq_true_iff.mp hc).1
  obtain ⟨u, hu⟩ := exists_dropWhile hblank t
  obtain ⟨v, hv⟩ := exists_rdropWhile hblank u
  obtain ⟨w, hw⟩ := exists_filter (p := fun c => !isTabOrNewline c)
    (fun c hc => by rw [(inert_eq_true_iff.mp hc).2.1, Bool.not_false]) v
  exact ⟨w, fun fill hf => by rw [clean, hu fill hf, hv fill hf, hw fill hf]⟩

/-- The name of a host is made of pieces, and so is the port. -/
theorem exists_httpsHost (host : HostParser) (t : List Piece) :
    ∃ name port, ∀ fill, Inert fill → httpsHost host (render fill t) =
      if (Option.map (render fill) port).all isPort then parseHost host (render fill name)
      else none := by
  obtain ⟨u, hu⟩ := exists_dropWhile (fun c hc => isSlash_of_inert hc) t
  obtain ⟨v, hv⟩ := exists_takeWhile (p := fun c => !endsAuthority c)
    (fun c hc => by rw [(inert_eq_true_iff.mp hc).2.2.1, Bool.not_false]) u
  obtain ⟨w, hw⟩ := exists_rtakeWhile (p := fun c => c ≠ '@')
    (fun c hc => decide_eq_true (inert_eq_true_iff.mp hc).2.2.2.1) v
  obtain ⟨name, port, hsplit⟩ := exists_splitHost w false
  refine ⟨name, port, fun fill hf => ?_⟩
  rw [httpsHost, hu fill hf]
  simp only [hv fill hf, hw fill hf, hsplit fill hf]

/-- What a text begins with before any percent sign is in no hole that begins with one. -/
theorem render_eq_append (cs : List Char) {rest : List Char} {t : List Piece} (hcs : '%' ∉ cs)
    (h : render ('%' :: fill) t = cs ++ rest) :
    ∃ u, t = cs.map Piece.keep ++ u ∧ rest = render ('%' :: fill) u := by
  induction cs generalizing t with
  | nil => exact ⟨t, rfl, h.symm⟩
  | cons c cs ih =>
    cases t with
    | nil => exact (cons_ne_nil _ _ h.symm).elim
    | cons piece t =>
      cases piece with
      | keep d =>
        obtain ⟨hd, htail⟩ := List.cons.inj h
        obtain ⟨u, rfl, hu⟩ := ih (fun hmem => hcs (mem_cons_of_mem _ hmem)) htail
        subst hd
        exact ⟨u, rfl, hu⟩
      | hole =>
        obtain ⟨rfl, -⟩ := List.cons.inj h
        exact absurd mem_cons_self hcs

/-! ## Decoding the name of a host -/

theorem hexValue_spec {a : Nat} (h : hexValue c = some a) : c ≠ '%' ∧ c.toNat < 0x80 := by
  constructor
  · rintro rfl
    exact some_ne_none _ (h.symm.trans rfl)
  · unfold hexValue at h
    split at h
    · next hc => exact Nat.lt_of_le_of_lt hc.2 (by decide)
    · split at h
      · next hc => exact Nat.lt_of_le_of_lt hc.2 (by decide)
      · split at h
        · next hc => exact Nat.lt_of_le_of_lt hc.2 (by decide)
        · exact (some_ne_none _ h.symm).elim

theorem percent_notMem (hy : y ≠ '%') (hz : z ≠ '%') : '%' ∉ [y, z] :=
  not_mem_cons_of_ne_of_not_mem hy.symm
    (not_mem_cons_of_ne_of_not_mem hz.symm not_mem_nil)

theorem utf8_of_lt (h : c.toNat < 0x80) : utf8 c = [c.toNat] := if_pos h

/-- The first octet of a character is no continuation. -/
theorem exists_utf8 (c : Char) : ∃ b bs, utf8 c = b :: bs ∧ (b < 0x80 ∨ 0xBF < b) := by
  unfold utf8
  dsimp only
  split
  · exact ⟨_, _, rfl, .inl ‹_›⟩
  · split
    · exact ⟨_, _, rfl, .inr (by omega)⟩
    · split
      all_goals exact ⟨_, _, rfl, .inr (by omega)⟩

theorem percentDecode_cons (h : c ≠ '%') (rest : List Char) :
    percentDecode (c :: rest) = utf8 c ++ percentDecode rest := by
  rw [percentDecode]
  rintro x y rest' rfl -
  exact h rfl

/-- A percent sign begins an octet or stands for itself. -/
theorem percentDecode_percent (s : List Char) :
    (∃ x y rest a b, s = x :: y :: rest ∧ hexValue x = some a ∧ hexValue y = some b ∧
      percentDecode ('%' :: s) = (16 * a + b) :: percentDecode rest) ∨
    percentDecode ('%' :: s) = 0x25 :: percentDecode s := by
  match s with
  | [] => exact .inr rfl
  | [x] => exact .inr rfl
  | x :: y :: rest =>
    rw [percentDecode]
    cases hx : hexValue x with
    | none => exact .inr rfl
    | some a =>
      cases hy : hexValue y with
      | none => exact .inr rfl
      | some b => exact .inl ⟨x, y, rest, a, b, rfl, hx, hy, rfl⟩

theorem percentDecode_octet {x y : Char} {a : Nat} (hx : hexValue x = some a)
    (hy : hexValue y = some b) (rest : List Char) :
    percentDecode ('%' :: x :: y :: rest) = (16 * a + b) :: percentDecode rest := by
  rw [percentDecode, hx, hy]

theorem percentDecode_ascii (h : ∀ c ∈ cs, c ≠ '%' ∧ c.toNat < 0x80) (rest : List Char) :
    percentDecode (cs ++ rest) = cs.map Char.toNat ++ percentDecode rest := by
  induction cs with
  | nil => rfl
  | cons c cs ih =>
    obtain ⟨hc, hlt⟩ := h c mem_cons_self
    rw [cons_append, percentDecode_cons hc, utf8_of_lt hlt,
      ih fun d hd => h d (mem_cons_of_mem c hd)]
    rfl

theorem decode_cons (q : Decoder) (b : Nat) (bs : List Nat) :
    decode q (b :: bs) = (q.next b).bind fun p => (decode p.1 bs).map (p.2.toList ++ ·) := by
  cases q <;> rfl

theorem Bounds.le (bounds : Bounds) : 0x80 ≤ bounds.lower ∧ bounds.upper ≤ 0xBF := by
  cases bounds <;> decide

/-- Inside a character only continuations follow. -/
theorem next_within {bounds : Bounds} {more bits : Nat} {p : Decoder × Option Char}
    (h : (Decoder.within bounds more bits).next b = some p) : 0x80 ≤ b ∧ b ≤ 0xBF := by
  obtain ⟨hlower, hupper⟩ := bounds.le
  unfold Decoder.next at h
  dsimp only at h
  split at h
  · next hb => omega
  · exact (some_ne_none _ h.symm).elim

/-- An ASCII octet is a character of its own. -/
theorem next_ascii {p : Decoder × Option Char} (hb : b ≤ 0x7F) (h : q.next b = some p) :
    q = .start ∧ p = (.start, some (Char.ofNat b)) := by
  cases q with
  | start =>
    rw [Decoder.next, if_pos hb] at h
    exact ⟨rfl, (some.inj h).symm⟩
  | within bounds more bits =>
    have := next_within h
    omega

theorem next_start_of_continuation (hb : 0x80 ≤ b ∧ b ≤ 0xBF) : Decoder.start.next b = none := by
  rw [Decoder.next, if_neg (by omega), if_neg (by omega), if_neg (by omega), if_neg (by omega),
    if_neg (by omega), if_neg (by omega), if_neg (by omega), if_neg (by omega)]

/-- A lead octet begins a character. -/
theorem next_lead {p : Decoder × Option Char} (hb : 0xBF < b) (h : q.next b = some p) :
    q = .start ∧ ∃ bounds more bits, p.1 = .within bounds more bits := by
  cases q with
  | start =>
    refine ⟨rfl, ?_⟩
    rw [Decoder.next, if_neg (by omega)] at h
    repeat' split at h
    all_goals first
      | exact (some_ne_none _ h.symm).elim
      | exact ⟨_, _, _, by rw [← some.inj h]⟩
  | within bounds more bits =>
    have := next_within h
    omega

theorem decode_cons_eq_some (h : decode q (b :: bs) = some name) :
    ∃ p rest, q.next b = some p ∧ decode p.1 bs = some rest ∧ name = p.2.toList ++ rest := by
  rw [decode_cons] at h
  obtain ⟨p, hp, h⟩ := bind_eq_some_iff.mp h
  obtain ⟨rest, hrest, rfl⟩ := map_eq_some_iff.mp h
  exact ⟨p, rest, hp, hrest, rfl⟩

/-- A percent sign that begins no octet is in the text. -/
theorem mem_of_decode_percent (h : decode q (0x25 :: bs) = some name) : '%' ∈ name := by
  obtain ⟨p, rest, hp, -, rfl⟩ := decode_cons_eq_some h
  obtain ⟨-, rfl⟩ := next_ascii (by decide) hp
  exact mem_cons_self

/-- Two texts that begin with the same octets are in the same state behind them. -/
theorem decode_append (bs : List Nat) {rest : List Nat} (h : decode q (bs ++ rest) = some name) :
    ∃ q' tail, decode q' rest = some tail ∧ (∀ c ∈ tail, c ∈ name) ∧
      ∀ rest' name', decode q (bs ++ rest') = some name' →
        ∃ tail', decode q' rest' = some tail' := by
  induction bs generalizing q name with
  | nil => exact ⟨q, name, h, fun _ hc => hc, fun _ name' h' => ⟨name', h'⟩⟩
  | cons b bs ih =>
    obtain ⟨p, tail, hp, htail, rfl⟩ := decode_cons_eq_some h
    obtain ⟨q', tail', htail', hsub, hall⟩ := ih htail
    refine ⟨q', tail', htail', fun c hc => mem_append_right _ (hsub c hc), ?_⟩
    intro rest' name' h'
    obtain ⟨p', tail'', hp', htail'', -⟩ := decode_cons_eq_some h'
    obtain rfl := some.inj (hp.symm.trans hp')
    exact hall rest' tail'' htail''

theorem decode_ascii (h : ∀ c ∈ cs, c.toNat < 0x80)
    (hdecode : decode q (cs.map Char.toNat ++ bs) = some name) (hne : cs ≠ []) :
    ∃ tail, decode .start bs = some tail := by
  induction cs generalizing q name with
  | nil => exact absurd rfl hne
  | cons c cs ih =>
    obtain ⟨p, tail, hp, htail, -⟩ := decode_cons_eq_some hdecode
    obtain ⟨-, rfl⟩ := next_ascii (Nat.le_of_lt_succ (h c mem_cons_self)) hp
    cases cs with
    | nil => exact ⟨tail, htail⟩
    | cons d cs => exact ih (fun e he => h e (mem_cons_of_mem c he)) htail (cons_ne_nil _ _)

/-! ## Two fillings of one address -/

section Fillings

variable {x : Char} {a : Nat}

/-- What follows a lead octet is a continuation, so it is an octet that is written out. -/
theorem exists_continuation {bounds : Bounds} {more bits : Nat} {s name : List Char}
    (h : decode (.within bounds more bits) (percentDecode s) = some name) (hname : '%' ∉ name) :
    ∃ y z rest b c, s = '%' :: y :: z :: rest ∧ hexValue y = some b ∧ hexValue z = some c ∧
      0x80 ≤ 16 * b + c ∧ 16 * b + c ≤ 0xBF := by
  cases s with
  | nil => exact (some_ne_none _ h.symm).elim
  | cons d s =>
    by_cases hd : d = '%'
    · subst hd
      rcases percentDecode_percent s with ⟨y, z, rest, b, c, rfl, hy, hz, heq⟩ | heq
      · rw [heq] at h
        obtain ⟨p, tail, hp, -, -⟩ := decode_cons_eq_some h
        exact ⟨y, z, rest, b, c, rfl, hy, hz, next_within hp⟩
      · rw [heq] at h
        exact absurd (mem_of_decode_percent h) hname
    · obtain ⟨b, bs, hb, hrange⟩ := exists_utf8 d
      rw [percentDecode_cons hd, hb] at h
      obtain ⟨p, tail, hp, -, -⟩ := decode_cons_eq_some h
      have := next_within hp
      omega

variable {t : List Piece} {host : HostParser}

/-- An octet that is written out is in no hole, as it is none that the hole could begin. -/
theorem exists_of_render_octet {b : Nat} {rest : List Char} (hx : hexValue x = some a)
    (hy : hexValue y = some b) (hz : z ≠ '%') (hab : a ≠ b)
    (h : render ['%', x] t = '%' :: y :: z :: rest) :
    ∃ u, t = .keep '%' :: .keep y :: .keep z :: u ∧ render ['%', x] u = rest := by
  cases t with
  | nil => exact (cons_ne_nil _ _ h.symm).elim
  | cons piece t =>
    cases piece with
    | hole =>
      obtain ⟨-, h⟩ := List.cons.inj h
      obtain ⟨rfl, -⟩ := List.cons.inj h
      exact absurd (some.inj (hx.symm.trans hy)) hab
    | keep c =>
      obtain ⟨hc, htail⟩ := List.cons.inj h
      obtain ⟨u, rfl, hu⟩ := render_eq_append [y, z] (percent_notMem (hexValue_spec hy).1 hz) htail
      subst hc
      exact ⟨u, rfl, hu.symm⟩

/-- A continuation behind an ASCII character is refused. -/
theorem decode_ascii_continuation {b c : Nat}
    (hcs : ∀ d ∈ cs, d ≠ '%' ∧ d.toNat < 0x80) (hne : cs ≠ []) (hy : hexValue y = some b)
    (hz : hexValue z = some c) (hrange : 0x80 ≤ 16 * b + c ∧ 16 * b + c ≤ 0xBF) (q : Decoder)
    (rest : List Char) : decode q (percentDecode (cs ++ '%' :: y :: z :: rest)) = none := by
  rw [eq_none_iff_forall_ne_some]
  intro name h
  rw [percentDecode_ascii hcs, percentDecode_octet hy hz] at h
  obtain ⟨tail, htail⟩ := decode_ascii (fun d hd => (hcs d hd).2) h hne
  obtain ⟨p, _, hp, -, -⟩ := decode_cons_eq_some htail
  exact some_ne_none _ (hp.symm.trans (next_start_of_continuation hrange))

/-- Of two fillings of a name, one an escape that lacks a digit and would begin a character, the
other in ASCII, only one can be decoded. -/
theorem hole_notMem (hx : hexValue x = some a) (ha : 12 ≤ a)
    (hfill : ∀ c ∈ fill, c ≠ '%' ∧ c.toNat < 0x80) (n : Nat) : ∀ (t : List Piece), t.length ≤ n →
    ∀ (q : Decoder) (name name' : List Char),
      decode q (percentDecode (render ['%', x] t)) = some name → '%' ∉ name →
      decode q (percentDecode (render fill t)) = some name' → Piece.hole ∉ t := by
  have hxpercent := (hexValue_spec hx).1
  induction n with
  | zero =>
    intro t ht
    rw [eq_nil_of_length_eq_zero (Nat.le_zero.mp ht)]
    exact fun _ _ _ _ _ _ => not_mem_nil
  | succ n ih =>
    intro t ht q name name' hsource hname htarget
    cases t with
    | nil => exact not_mem_nil
    | cons piece t =>
      have htn : t.length ≤ n := Nat.le_of_succ_le_succ ht
      cases piece with
      | hole =>
        -- the escape is a lead octet, and what follows it is not a continuation any more
        exfalso
        rcases percentDecode_percent (x :: render ['%', x] t) with
          ⟨x', z, rest, a', b, hs, hx', hz, heq⟩ | heq
        · obtain ⟨rfl, hrest⟩ := List.cons.inj hs
          obtain rfl := some.inj (hx.symm.trans hx')
          obtain ⟨p, tail, hp, htail, rfl⟩ :=
            decode_cons_eq_some ((congrArg (decode q) heq).symm.trans hsource)
          obtain ⟨rfl, bounds, more, bits, hwithin⟩ := next_lead (by omega) hp
          rw [hwithin] at htail
          obtain ⟨y, w, rest, b', c', rfl, hy, hw, hlow, hhigh⟩ := exists_continuation htail
            fun hmem => hname (mem_append_right _ hmem)
          obtain ⟨t₁, rfl, ht₁⟩ := render_eq_append [z]
            (fun hmem => (hexValue_spec hz).1 (mem_singleton.mp hmem).symm) hrest
          obtain ⟨t₂, rfl, -⟩ := exists_of_render_octet hx hy (hexValue_spec hw).1 (by omega)
            ht₁.symm
          have hascii : ∀ c ∈ fill ++ [z], c ≠ '%' ∧ c.toNat < 0x80 := by
            intro c hc
            rcases mem_append.mp hc with hc | hc
            · exact hfill c hc
            · rw [mem_singleton.mp hc]
              exact hexValue_spec hz
          have hnone := decode_ascii_continuation hascii
            (append_ne_nil_of_right_ne_nil _ (cons_ne_nil _ _)) hy hw ⟨hlow, hhigh⟩ .start
            (render fill t₂)
          rw [append_assoc] at hnone
          exact some_ne_none _ (htarget.symm.trans hnone)
        · exact hname (mem_of_decode_percent ((congrArg (decode q) heq).symm.trans hsource))
      | keep c =>
        refine not_mem_cons_of_ne_of_not_mem Piece.noConfusion ?_
        simp only [render] at hsource htarget
        by_cases hc : c = '%'
        · subst hc
          rcases percentDecode_percent (render ['%', x] t) with
            ⟨y, z, rest, b, d, hs, hy, hz, heq⟩ | heq
          · obtain ⟨t₁, rfl, rfl⟩ := render_eq_append [y, z]
              (percent_notMem (hexValue_spec hy).1 (hexValue_spec hz).1) hs
            rw [heq] at hsource
            obtain ⟨q', tail, htail, hsub, hall⟩ := decode_append [16 * b + d] hsource
            obtain ⟨tail', htail'⟩ := hall (percentDecode (render fill t₁)) name'
              ((congrArg (decode q) (percentDecode_octet hy hz _)).symm.trans htarget)
            have hnot := ih t₁ (Nat.le_of_succ_le (Nat.le_of_succ_le htn)) q' tail tail' htail
              (fun hmem => hname (hsub _ hmem)) htail'
            exact not_mem_cons_of_ne_of_not_mem Piece.noConfusion
              (not_mem_cons_of_ne_of_not_mem Piece.noConfusion hnot)
          · rw [heq] at hsource
            exact absurd (mem_of_decode_percent hsource) hname
        · rw [percentDecode_cons hc] at hsource htarget
          obtain ⟨q', tail, htail, hsub, hall⟩ := decode_append _ hsource
          obtain ⟨tail', htail'⟩ := hall _ _ htarget
          exact ih t htn q' tail tail' htail (fun hmem => hname (hsub _ hmem)) htail'

theorem inert_escape (hx : inert x = true) : Inert ['%', x] := by
  refine ⟨cons_ne_nil _ _, fun c hc => ?_⟩
  rcases mem_cons.mp hc with rfl | hc
  · decide
  · rwa [mem_singleton.mp hc]

theorem percent_mem_render (h : Piece.hole ∈ t) : '%' ∈ render ['%', x] t := by
  induction t with
  | nil => exact absurd h not_mem_nil
  | cons piece t ih =>
    cases piece with
    | keep c =>
      have hmem : Piece.hole ∈ t := (mem_cons.mp h).resolve_left Piece.noConfusion
      exact mem_cons_of_mem c (ih hmem)
    | hole => exact mem_cons_self

/-- A host that does not begin with a bracket is a domain. -/
theorem parseHost_domain (host : HostParser) {s : List Char} (hne : s ≠ [])
    (hs : s.head? ≠ some '[') :
    parseHost host s = (decode .start (percentDecode s)).bind host.domain := by
  cases s with
  | nil => exact absurd rfl hne
  | cons c s =>
    rw [parseHost]
    · exact cons_ne_nil _ _
    · exact fun rest h => hs (congrArg some (List.cons.inj h).1)

/-- Two fillings of a host that are both accepted are the same host. -/
theorem parseHost_render (hx : hexValue x = some a) (ha : 12 ≤ a)
    (hfill : ∀ c ∈ fill, c ≠ '%' ∧ c.toNat < 0x80) (hinert : Inert fill) {h h' : String}
    (hsource : parseHost host (render ['%', x] t) = some h)
    (htarget : parseHost host (render fill t) = some h') : h' = h := by
  by_cases hhole : Piece.hole ∈ t
  · exfalso
    have hdomain : ∀ head tail, t = head :: tail → head ≠ .keep '[' → False := by
      rintro head tail rfl hhead
      have hhead_source : (render ['%', x] (head :: tail)).head? ≠ some '[' := by
        cases head with
        | keep c => exact fun heq => hhead (congrArg Piece.keep (some.inj heq))
        | hole => exact fun heq => absurd (some.inj heq) (by decide)
      have hhead_target : (render fill (head :: tail)).head? ≠ some '[' := by
        cases head with
        | keep c => exact fun heq => hhead (congrArg Piece.keep (some.inj heq))
        | hole =>
          obtain ⟨c, cs, rfl⟩ := exists_cons_of_ne_nil hinert.nonempty
          have hc := inert_eq_true_iff.mp (hinert.inert c mem_cons_self)
          exact fun heq => hc.2.2.2.2.2.1 (some.inj heq)
      rw [parseHost_domain host (by rintro heq; rw [heq] at hsource; cases hsource) hhead_source]
        at hsource
      rw [parseHost_domain host (by rintro heq; rw [heq] at htarget; cases htarget) hhead_target]
        at htarget
      obtain ⟨name, hname, hdomain⟩ := bind_eq_some_iff.mp hsource
      obtain ⟨name', hname', -⟩ := bind_eq_some_iff.mp htarget
      have hpercent : '%' ∉ name := fun hmem =>
        some_ne_none _ (hdomain.symm.trans (host.domain_percent name hmem))
      exact hole_notMem hx ha hfill _ _ (Nat.le_refl _) .start name name' hname hpercent hname'
        hhole
    cases t with
    | nil => exact not_mem_nil hhole
    | cons head tail =>
      by_cases hhead : head = .keep '['
      · -- between brackets there is no percent sign
        subst hhead
        have hmem : '%' ∈ render ['%', x] tail :=
          percent_mem_render ((mem_cons.mp hhole).resolve_left Piece.noConfusion)
        simp only [render, parseHost] at hsource
        split at hsource
        · next hlast =>
          obtain ⟨init, hinit⟩ := getLast?_eq_some_iff.mp hlast
          rw [hinit, dropLast_concat] at hsource
          rw [hinit] at hmem
          have hmem := (mem_append.mp hmem).resolve_right
            fun hc => absurd (mem_singleton.mp hc) (by decide)
          exact some_ne_none _ (hsource.symm.trans (host.ipv6_percent init hmem))
        · exact some_ne_none _ hsource.symm
      · exact hdomain head tail rfl hhead
  · rw [render_of_notMem ['%', x] fill hhole] at hsource
    exact some.inj (htarget.symm.trans hsource)

theorem parseClean_append (host : HostParser) {scheme : List Char}
    (hscheme : ∀ c ∈ scheme, isSchemeChar c = true) (rest : List Char) :
    parseClean host (scheme ++ ':' :: rest) =
      if scheme.head?.any isAlpha then
        (if String.ofList (scheme.map lower) = "https" then httpsHost host rest
          else host.other (String.ofList (scheme.map lower)) rest).map
          (Location.mk (String.ofList (scheme.map lower) ++ ":"))
      else none := by
  have hcolon : ¬ isSchemeChar ':' = true := by decide
  rw [parseClean, dropWhile_append_of_pos hscheme, takeWhile_append_of_pos hscheme,
    dropWhile_cons_of_neg hcolon, takeWhile_cons_of_neg hcolon, append_nil]
  rfl

theorem exists_of_parseClean {s : List Char} {url : Location} (h : parseClean host s = some url) :
    ∃ scheme rest, s = scheme ++ ':' :: rest ∧ ∀ c ∈ scheme, isSchemeChar c = true := by
  refine ⟨s.takeWhile isSchemeChar, (s.dropWhile isSchemeChar).tail, ?_,
    fun c hc => mem_takeWhile_imp hc⟩
  rw [parseClean] at h
  split at h
  · next rest heq =>
    rw [heq]
    exact (heq ▸ takeWhile_append_dropWhile).symm
  · exact (some_ne_none _ h.symm).elim

/-- **Two fillings of one address that are both accepted are addresses of one host**, when one of
them is an escape that lacks a digit and would begin a character, and the other is in ASCII. -/
theorem parse_render (hx : hexValue x = some a) (ha : 12 ≤ a) (hxinert : inert x = true)
    (hfill : ∀ c ∈ fill, c ≠ '%' ∧ c.toNat < 0x80) (hinert : Inert fill) {url url' : Location}
    (hsource : parse host (String.ofList (render ['%', x] t)) = some url)
    (hhttps : url.protocol = "https:")
    (htarget : parse host (String.ofList (render fill t)) = some url') : url' = url := by
  have hescape := inert_escape hxinert
  obtain ⟨u, hu⟩ := exists_clean t
  rw [parse, String.toList_ofList, hu _ hescape] at hsource
  rw [parse, String.toList_ofList, hu _ hinert] at htarget
  obtain ⟨scheme, rest, hrender, hscheme⟩ := exists_of_parseClean hsource
  have hcolon : '%' ∉ scheme ++ [':'] := by
    intro hmem
    rcases mem_append.mp hmem with hc | hc
    · exact absurd (hscheme _ hc) (by decide)
    · exact absurd (mem_singleton.mp hc) (by decide)
  have hrender' : render ['%', x] u = (scheme ++ [':']) ++ rest := by
    rw [hrender, append_assoc, singleton_append]
  obtain ⟨v, rfl, rfl⟩ := render_eq_append _ hcolon hrender'
  have htext : render fill ((scheme ++ [':']).map Piece.keep ++ v) =
      scheme ++ ':' :: render fill v := by
    rw [render_append, render_map_keep, append_assoc, singleton_append]
  rw [hrender, parseClean_append host hscheme] at hsource
  rw [htext, parseClean_append host hscheme] at htarget
  split at hsource
  · next halpha =>
    rw [if_pos halpha] at htarget
    obtain ⟨h, hhost_source, rfl⟩ := map_eq_some_iff.mp hsource
    obtain ⟨h', hhost_target, rfl⟩ := map_eq_some_iff.mp htarget
    have hname : String.ofList (scheme.map lower) = "https" :=
      (String.append_left_inj ":").mp hhttps
    rw [if_pos hname] at hhost_source hhost_target
    obtain ⟨name, port, hhost⟩ := exists_httpsHost host v
    rw [hhost _ hescape] at hhost_source
    rw [hhost _ hinert] at hhost_target
    split at hhost_source
    · split at hhost_target
      · rw [parseHost_render hx ha hfill hinert hhost_source hhost_target]
      · exact (some_ne_none _ hhost_target.symm).elim
    · exact (some_ne_none _ hhost_source.symm).elim
  · exact (some_ne_none _ hsource.symm).elim

end Fillings

end WebUrl
