import Jkannel.Platform.CivilDate
import Mathlib.Data.Vector.Basic
import Mathlib.Data.Int.Lemmas

/-!
# Instants

Every filter and every schedule names its instants in ISO 8601, and one function reads them.  A text
is matched against the grammar, handed to `Date.parse`, and the date that the result shows in UTC is
compared with the date that was written, since `Date.parse` takes the thirty-first of February
for a day in March.

* `DateTime` is a text of the grammar, piece by piece; `ISO_8601` reads one, and
  `ISO_8601_eq_some_iff` says that it reads these texts and no others.
* `dateParse` is `Date.parse` on the texts of the grammar.
* `parseInstant` reads a parameter.
-/

namespace Jkannel.Messaging

open List Option
open Calendar
open Platform.Grid (civilDate)

/-! ## Digits -/

abbrev Digit := Fin 10

def Digit.char (d : Digit) : Char := Char.ofNat (48 + d)

/-- `\d` -/
def digitOf (c : Char) : Option Digit :=
  if h : 48 ≤ c.toNat ∧ c.toNat - 48 < 10 then some ⟨c.toNat - 48, h.2⟩ else none

/-- `Number` of some digits. -/
def decimalValue (ds : List Digit) : ℕ := ds.foldl (fun (n : ℕ) (d : Digit) => 10 * n + d.val) 0

/-- What `\d{k}` captures. -/
abbrev Digits (k : ℕ) := List.Vector Digit k

namespace Digits

variable {k : ℕ}

def text (ds : Digits k) : List Char := ds.toList.map Digit.char

def value (ds : Digits k) : ℕ := decimalValue ds.toList

end Digits

/-- `\d{k}` and what comes after. -/
def readDigits : (k : ℕ) → List Char → Option (Digits k × List Char)
  | 0, cs => some (.nil, cs)
  | _ + 1, [] => none
  | k + 1, c :: cs => do
    let d ← digitOf c
    let (ds, rest) ← readDigits k cs
    return (.cons d ds, rest)

/-- At most `k` digits, as many as there are. -/
def readUpTo : ℕ → List Char → List Digit × List Char
  | 0, cs => ([], cs)
  | _ + 1, [] => ([], [])
  | k + 1, c :: cs =>
    match digitOf c with
    | some d => let (ds, rest) := readUpTo k cs; (d :: ds, rest)
    | none => ([], c :: cs)

/-- One character and what comes after. -/
def expect (c : Char) : List Char → Option (List Char)
  | [] => none
  | c' :: cs => if c' = c then some cs else none

/-! ## The grammar -/

/-- `+hh:mm` or `-hh:mm`, the colon being optional. -/
structure Offset where
  west : Bool
  hours : Digits 2
  colon : Bool
  minutes : Digits 2

/-- How an instant names its zone. -/
inductive Zone where
  | utc
  | offset (o : Offset)

/-- `.f`, of one to six digits. -/
structure Fraction where
  digits : List Digit
  ne_nil : digits ≠ []
  length_le : digits.length ≤ 6

/-- The seconds of a clock, as written. -/
structure Seconds where
  second : Digits 2
  fraction : Option Fraction

/-- The clock of an instant, as written. -/
structure Clock where
  /-- The separator is a space. -/
  spaced : Bool
  hour : Digits 2
  minute : Digits 2
  seconds : Option Seconds
  zone : Option Zone

/-- A text of the shape `YYYY-MM-DD`, with a time or without. -/
structure DateTime where
  year : Digits 4
  month : Digits 2
  day : Digits 2
  clock : Option Clock

def Zone.text : Zone → List Char
  | .utc => ['Z']
  | .offset o => (if o.west then '-' else '+') ::
      (o.hours.text ++ (if o.colon then [':'] else []) ++ o.minutes.text)

def Fraction.text (f : Fraction) : List Char := '.' :: f.digits.map Digit.char

def Seconds.text (s : Seconds) : List Char :=
  ':' :: (s.second.text ++ (s.fraction.map Fraction.text).getD [])

def Clock.text (c : Clock) : List Char :=
  (if c.spaced then ' ' else 'T') :: (c.hour.text ++ ':' :: (c.minute.text ++
    ((c.seconds.map Seconds.text).getD [] ++ (c.zone.map Zone.text).getD [])))

def DateTime.text (w : DateTime) : List Char :=
  w.year.text ++ '-' :: (w.month.text ++ '-' :: (w.day.text ++ (w.clock.map Clock.text).getD []))

/-! ## The regular expression -/

/-- `(Z|[+-]\d{2}:?\d{2})?` and the end. -/
def readZone : List Char → Option (Option Zone)
  | [] => some none
  | c :: cs =>
    if c = 'Z' then if cs = [] then some (some .utc) else none
    else if c = '+' ∨ c = '-' then do
      let (hours, cs) ← readDigits 2 cs
      let (colon, cs) := match expect ':' cs with
        | some cs => (true, cs)
        | none => (false, cs)
      let (minutes, cs) ← readDigits 2 cs
      if cs = [] then some (some (.offset ⟨c = '-', hours, colon, minutes⟩)) else none
    else none

theorem readUpTo_length : ∀ (k : ℕ) (cs : List Char), (readUpTo k cs).1.length ≤ k
  | 0, _ => le_rfl
  | _ + 1, [] => Nat.zero_le _
  | k + 1, c :: cs => by
    rw [readUpTo]
    split
    · exact Nat.succ_le_succ (readUpTo_length k cs)
    · exact Nat.zero_le _

/-- `(?:\.(\d{1,6}))?` and what comes after. -/
def readFraction (cs : List Char) : Option (Option Fraction × List Char) :=
  match expect '.' cs with
  | none => some (none, cs)
  | some cs =>
    if h : (readUpTo 6 cs).1 = [] then none
    else some (some ⟨(readUpTo 6 cs).1, h, readUpTo_length 6 cs⟩, (readUpTo 6 cs).2)

/-- `(?::(\d{2})(?:\.(\d{1,6}))?)?` and what comes after. -/
def readSeconds (cs : List Char) : Option (Option Seconds × List Char) :=
  match expect ':' cs with
  | none => some (none, cs)
  | some cs => do
    let (second, cs) ← readDigits 2 cs
    let (fraction, cs) ← readFraction cs
    return (some ⟨second, fraction⟩, cs)

/-- `(?:[T ](\d{2}):(\d{2})…)?` and the end. -/
def readClock : List Char → Option (Option Clock)
  | [] => some none
  | c :: cs =>
    if c = 'T' ∨ c = ' ' then do
      let (hour, cs) ← readDigits 2 cs
      let cs ← expect ':' cs
      let (minute, cs) ← readDigits 2 cs
      let (seconds, cs) ← readSeconds cs
      let zone ← readZone cs
      return some ⟨c = ' ', hour, minute, seconds, zone⟩
    else none

/-- `ISO_8601.exec`. -/
def ISO_8601 (cs : List Char) : Option DateTime := do
  let (year, cs) ← readDigits 4 cs
  let cs ← expect '-' cs
  let (month, cs) ← readDigits 2 cs
  let cs ← expect '-' cs
  let (day, cs) ← readDigits 2 cs
  let clock ← readClock cs
  return ⟨year, month, day, clock⟩

/-! ## A text is read as it was written -/

theorem digitOf_char (d : Digit) : digitOf d.char = some d := by
  revert d
  decide

variable {c : Char} {k : ℕ} {cs rest : List Char} {zone : Option Zone}

theorem digitOf_eq_some {d : Digit} (h : digitOf c = some d) : d.char = c := by
  rw [digitOf] at h
  split at h
  next hdigit =>
    cases h
    have hsum : 48 + (c.toNat - 48) = c.toNat := by omega
    calc Char.ofNat (48 + (c.toNat - 48)) = Char.ofNat c.toNat := by rw [hsum]
      _ = c := Char.ofNat_toNat c
  · cases h

theorem Digits.text_cons (d : Digit) (ds : Digits k) :
    Digits.text (.cons d ds) = d.char :: ds.text := by
  rw [Digits.text, List.Vector.toList_cons, map_cons]
  rfl

theorem readDigits_text (ds : Digits k) (rest : List Char) :
    readDigits k (ds.text ++ rest) = some (ds, rest) := by
  induction k with
  | zero =>
    rw [List.Vector.eq_nil ds]
    rfl
  | succ k ih =>
    rw [← List.Vector.cons_head_tail ds, Digits.text_cons, cons_append, readDigits]
    simp [digitOf_char, ih]

theorem text_of_readDigits {ds : Digits k} (h : readDigits k cs = some (ds, rest)) :
    cs = ds.text ++ rest := by
  induction k generalizing cs with
  | zero =>
    cases h
    rfl
  | succ k ih =>
    cases cs with
    | nil => cases h
    | cons c cs =>
      simp only [readDigits, bind_eq_bind, bind_eq_some_iff] at h
      obtain ⟨d, hd, ⟨ds', rest'⟩, hds, heq⟩ := h
      cases heq
      rw [Digits.text_cons, digitOf_eq_some hd, ih hds, cons_append]

theorem readUpTo_text {ds : List Digit} (hk : ds.length ≤ k)
    (hrest : ∀ c ∈ rest.head?, digitOf c = none) :
    readUpTo k (ds.map Digit.char ++ rest) = (ds, rest) := by
  induction ds generalizing k with
  | nil =>
    cases k with
    | zero => rfl
    | succ k =>
      cases rest with
      | nil => rfl
      | cons c rest => simp [readUpTo, hrest c rfl]
  | cons d ds ih =>
    cases k with
    | zero => cases hk
    | succ k =>
      rw [map_cons, cons_append, readUpTo, digitOf_char]
      simp only [ih (Nat.le_of_succ_le_succ hk)]

theorem text_of_readUpTo (k : ℕ) (cs : List Char) :
    cs = (readUpTo k cs).1.map Digit.char ++ (readUpTo k cs).2 := by
  induction k generalizing cs with
  | zero => rfl
  | succ k ih =>
    cases cs with
    | nil => rfl
    | cons c cs =>
      rw [readUpTo]
      split
      next d hd =>
        rw [map_cons, cons_append, digitOf_eq_some hd, ← ih cs]
      · rfl

theorem expect_cons (c : Char) (cs : List Char) : expect c (c :: cs) = some cs := if_pos rfl

theorem expect_eq_some (h : expect c cs = some rest) : cs = c :: rest := by
  cases cs with
  | nil => cases h
  | cons c' cs =>
    rw [expect] at h
    split at h
    next heq =>
      cases h
      rw [heq]
    · cases h

theorem expect_of_head (h : c ∉ cs.head?) : expect c cs = none := by
  cases cs with
  | nil => rfl
  | cons c' cs => exact if_neg fun heq => h (by rw [heq]; rfl)

/-- How the text of a zone can begin. -/
theorem head_zoneText (h : c ∈ ((zone.map Zone.text).getD []).head?) :
    c = 'Z' ∨ c = '+' ∨ c = '-' := by
  cases zone with
  | none => cases h
  | some zone =>
    cases zone with
    | utc =>
      cases h
      exact .inl rfl
    | offset o =>
      cases h
      cases o.west
      · exact .inr (.inl rfl)
      · exact .inr (.inr rfl)

theorem Digit.char_ne (d : Digit) : d.char ≠ ':' ∧ d.char ≠ '.' ∧ d.char ≠ ' ' := by
  revert d
  decide

theorem expect_digits (ds : Digits (k + 1)) : expect ':' ds.text = none := by
  rw [← List.Vector.cons_head_tail ds, Digits.text_cons]
  exact if_neg (Digit.char_ne _).1

theorem readZone_text (zone : Option Zone) :
    readZone ((zone.map Zone.text).getD []) = some zone := by
  cases zone with
  | none => rfl
  | some zone =>
    cases zone with
    | utc => rfl
    | offset o =>
      obtain ⟨west, hours, colon, minutes⟩ := o
      have hminutes := readDigits_text minutes []
      rw [append_nil] at hminutes
      cases west <;> cases colon <;>
        simp [readZone, Zone.text, readDigits_text, expect_digits, expect_cons, hminutes]

theorem text_of_readZone (h : readZone cs = some zone) :
    cs = (zone.map Zone.text).getD [] := by
  cases cs with
  | nil =>
    cases h
    rfl
  | cons c cs =>
    rw [readZone] at h
    split at h
    next hz =>
      split at h
      next hend =>
        cases h
        rw [hz, hend]
        rfl
      · cases h
    split at h
    next hsign =>
      simp only [bind_eq_bind, bind_eq_some_iff] at h
      obtain ⟨⟨hours, cs₁⟩, hhours, ⟨minutes, cs₂⟩, hminutes, hend⟩ := h
      dsimp only at hminutes hend
      split at hend
      next hnil =>
        cases hend
        have hsignText : (if c = '-' then '-' else '+') = c := by
          rcases hsign with rfl | rfl <;> rfl
        rw [text_of_readDigits hhours]
        cases hcolon : expect ':' cs₁ with
        | none =>
          simp only [hcolon] at hminutes ⊢
          rw [text_of_readDigits hminutes, hnil]
          simp [Zone.text, hsignText]
        | some cs₃ =>
          simp only [hcolon] at hminutes ⊢
          rw [expect_eq_some hcolon, text_of_readDigits hminutes, hnil]
          simp [Zone.text, hsignText]
      · cases hend
    · cases h

theorem readFraction_text (fraction : Option Fraction) (hdigit : ∀ c ∈ rest.head?, digitOf c = none)
    (hdot : '.' ∉ rest.head?) :
    readFraction ((fraction.map Fraction.text).getD [] ++ rest) = some (fraction, rest) := by
  cases fraction with
  | none =>
    rw [readFraction, map_none, getD_none, nil_append, expect_of_head hdot]
  | some f =>
    have hread := readUpTo_text f.length_le hdigit
    rw [map_some, getD_some, Fraction.text, cons_append, readFraction, expect_cons]
    simp [hread, f.ne_nil]

theorem text_of_readFraction {fraction : Option Fraction}
    (h : readFraction cs = some (fraction, rest)) :
    cs = (fraction.map Fraction.text).getD [] ++ rest := by
  rw [readFraction] at h
  split at h
  · cases h
    rfl
  next cs' hdot =>
    split at h
    · cases h
    · cases h
      rw [expect_eq_some hdot, map_some, getD_some, Fraction.text, cons_append, ← text_of_readUpTo]

theorem readSeconds_text (seconds : Option Seconds) {rest : List Char}
    (hdigit : ∀ c ∈ rest.head?, digitOf c = none) (hdot : '.' ∉ rest.head?)
    (hcolon : ':' ∉ rest.head?) :
    readSeconds ((seconds.map Seconds.text).getD [] ++ rest) = some (seconds, rest) := by
  cases seconds with
  | none =>
    rw [readSeconds, map_none, getD_none, nil_append, expect_of_head hcolon]
  | some s =>
    rw [map_some, getD_some, Seconds.text, cons_append, readSeconds, expect_cons]
    simp [readDigits_text, readFraction_text s.fraction hdigit hdot]

theorem text_of_readSeconds {seconds : Option Seconds} (h : readSeconds cs = some (seconds, rest)) :
    cs = (seconds.map Seconds.text).getD [] ++ rest := by
  rw [readSeconds] at h
  split at h
  · cases h
    rfl
  next cs' hcolon =>
    simp only [bind_eq_bind, bind_eq_some_iff] at h
    obtain ⟨⟨second, cs₁⟩, hsecond, ⟨fraction, cs₂⟩, hfraction, heq⟩ := h
    cases heq
    dsimp only at hfraction ⊢
    rw [expect_eq_some hcolon, text_of_readDigits hsecond, text_of_readFraction hfraction]
    simp [Seconds.text]

theorem readClock_text (clock : Option Clock) :
    readClock ((clock.map Clock.text).getD []) = some clock := by
  cases clock with
  | none => rfl
  | some c =>
    obtain ⟨spaced, hour, minute, seconds, zone⟩ := c
    have hseconds := @readSeconds_text seconds ((zone.map Zone.text).getD [])
      (fun c hc => by rcases head_zoneText hc with rfl | rfl | rfl <;> decide)
      (fun hc => by rcases head_zoneText hc with h | h | h <;> simp at h)
      (fun hc => by rcases head_zoneText hc with h | h | h <;> simp at h)
    cases spaced <;>
      simp [readClock, Clock.text, readDigits_text, expect_cons, hseconds, readZone_text]

theorem text_of_readClock {clock : Option Clock} (h : readClock cs = some clock) :
    cs = (clock.map Clock.text).getD [] := by
  cases cs with
  | nil =>
    cases h
    rfl
  | cons c cs =>
    rw [readClock] at h
    split at h
    next hsep =>
      simp only [bind_eq_bind, bind_eq_some_iff] at h
      obtain ⟨⟨hour, cs₁⟩, hhour, cs₂, hcolon, ⟨minute, cs₃⟩, hminute, ⟨seconds, cs₄⟩, hseconds,
        zone, hzone, heq⟩ := h
      cases heq
      dsimp only at hcolon hminute hseconds hzone ⊢
      have hsepText : (if c = ' ' then ' ' else 'T') = c := by
        rcases hsep with rfl | rfl <;> rfl
      rw [text_of_readDigits hhour, expect_eq_some hcolon, text_of_readDigits hminute,
        text_of_readSeconds hseconds, text_of_readZone hzone]
      simp [Clock.text, hsepText]
    · cases h

/-- **The expression reads the texts of the grammar and no others.** -/
theorem ISO_8601_eq_some_iff {w : DateTime} : ISO_8601 cs = some w ↔ cs = w.text := by
  constructor
  · intro h
    simp only [ISO_8601, bind_eq_bind, bind_eq_some_iff] at h
    obtain ⟨⟨year, cs₁⟩, hyear, cs₂, hdash, ⟨month, cs₃⟩, hmonth, cs₄, hdash', ⟨day, cs₅⟩, hday,
      clock, hclock, heq⟩ := h
    cases heq
    dsimp only at hdash hmonth hdash' hday hclock ⊢
    rw [text_of_readDigits hyear, expect_eq_some hdash, text_of_readDigits hmonth,
      expect_eq_some hdash', text_of_readDigits hday, text_of_readClock hclock]
    rfl
  · rintro rfl
    simp [ISO_8601, DateTime.text, readDigits_text, expect_cons, readClock_text]

/-! ## `Date.parse` -/

namespace Zone

/-- The offset in seconds, east of Greenwich being positive. -/
def seconds : Zone → ℤ
  | .utc => 0
  | .offset o => (if o.west then -1 else 1) * (o.hours.value * 3600 + o.minutes.value * 60 : ℕ)

/-- There is such an offset. -/
def Real : Zone → Prop
  | .utc => True
  | .offset o => o.hours.value ≤ 23 ∧ o.minutes.value ≤ 59

instance decidableReal (zone : Zone) : Decidable zone.Real :=
  match zone with
  | .utc => inferInstanceAs (Decidable True)
  | .offset _ => inferInstanceAs (Decidable (_ ∧ _))

end Zone

namespace Clock

/-- The seconds, none meaning zero. -/
def second (c : Clock) : ℕ := (c.seconds.map fun s => s.second.value).getD 0

def fractionDigits (c : Clock) : List Digit :=
  ((c.seconds.bind Seconds.fraction).map Fraction.digits).getD []

/-- The first three digits of the fraction. -/
def millisecond (c : Clock) : ℕ := decimalValue ((c.fractionDigits ++ [0, 0, 0]).take 3)

def secondOfDay (c : Clock) : ℕ := c.hour.value * 3600 + c.minute.value * 60 + c.second

/-- The midnight at the end of the day. -/
def IsMidnight24 (c : Clock) : Prop :=
  c.hour.value = 24 ∧ c.minute.value = 0 ∧ c.second = 0 ∧ ∀ d ∈ c.fractionDigits, d = 0

instance decidableIsMidnight24 (c : Clock) : Decidable c.IsMidnight24 :=
  inferInstanceAs (Decidable (_ ∧ _ ∧ _ ∧ _))

/-- The times that `Date.parse` takes. -/
def Parses (c : Clock) : Prop :=
  (c.hour.value ≤ 23 ∨ c.IsMidnight24) ∧ c.minute.value ≤ 59 ∧ c.second ≤ 59 ∧
    ∀ zone ∈ c.zone, zone.Real

instance decidableParses (c : Clock) : Decidable c.Parses :=
  inferInstanceAs (Decidable ((_ ∨ _) ∧ _ ∧ _ ∧ _))

end Clock

namespace DateTime

def offset (w : DateTime) : ℤ := ((w.clock.bind Clock.zone).map Zone.seconds).getD 0

def secondOfDay (w : DateTime) : ℕ := (w.clock.map Clock.secondOfDay).getD 0

def millisecond (w : DateTime) : ℕ := (w.clock.map Clock.millisecond).getD 0

def dayNumber (w : DateTime) : ℤ := makeDay w.year.value w.month.value w.day.value

/-- The epoch second of the instant. -/
def epoch (w : DateTime) : ℤ := w.dayNumber * 86400 + w.secondOfDay - w.offset

/-- The date-times that `Date.parse` takes: any month with thirty-one days. -/
def Parses (w : DateTime) : Prop :=
  1 ≤ w.month.value ∧ w.month.value ≤ 12 ∧ 1 ≤ w.day.value ∧ w.day.value ≤ 31 ∧
    ∀ c ∈ w.clock, c.Parses

instance decidableParses (w : DateTime) : Decidable w.Parses :=
  inferInstanceAs (Decidable (_ ∧ _ ∧ _ ∧ _ ∧ _))

/-- The format of the language: the separator is a `T`, and a time names its zone.  (Without one it
is a local time, which nobody asks for here.) -/
def InUtcFormat (w : DateTime) : Prop := ∀ c ∈ w.clock, c.spaced = false ∧ c.zone.isSome

instance decidableInUtcFormat (w : DateTime) : Decidable w.InUtcFormat :=
  inferInstanceAs (Decidable (∀ _ ∈ _, _))

end DateTime

/-- `Date.parse` of a text of the grammar, in milliseconds; none is `NaN`. -/
def dateParse (text : List Char) : Option ℤ := do
  let w ← ISO_8601 text
  if w.InUtcFormat ∧ w.Parses then some (w.epoch * 1000 + w.millisecond) else none

/-! ## The parameter -/

/-- The value of a parameter. -/
inductive Param where
  /-- `undefined` or `null`. -/
  | missing
  | text (s : String)
  /-- Anything else, with its `String`. -/
  | other (rendering : String)

def Param.present : Param → Bool
  | .missing => false
  | .text s => Text.trim s ≠ ""
  | .other rendering => Text.trim rendering ≠ ""

/-- Why an instant is refused, each a 400. -/
inductive InstantError where
  | notText
  | notIso (raw : String)
  | notReal (raw : String)
  | notCalendar (raw : String)
  deriving DecidableEq

/-- `replace(c, d)`: the first occurrence. -/
def replaceFirst (c d : Char) : List Char → List Char
  | [] => []
  | c' :: cs => if c' = c then d :: cs else c' :: replaceFirst c d cs

/-- The text that is handed to `Date.parse`. -/
def normalized (raw : List Char) (w : DateTime) : List Char :=
  let spaced := replaceFirst ' ' 'T' raw
  if w.clock = none ∨ (w.clock.bind Clock.zone).isSome then spaced else spaced ++ ['Z']

/-- ISO 8601 to epoch seconds.  No parameter is no instant. -/
def parseInstant (value : Param) : Except InstantError (Option ℤ) :=
  if value.present then
    match value with
    | .text s =>
      let raw := Text.trimChars s.toList
      match ISO_8601 raw with
      | none => .error (.notIso (String.ofList raw))
      | some w =>
        match dateParse (normalized raw w) with
        | none => .error (.notReal (String.ofList raw))
        | some parsed =>
          -- the written date against the one that the instant shows in UTC
          if civilDate (parsed.fdiv 86400000) ≠ ((w.year.value : ℤ), w.month.value, w.day.value) then
            .error (.notCalendar (String.ofList raw))
          else .ok (some (parsed.fdiv 1000))
    | _ => .error .notText
  else .ok none

end Jkannel.Messaging
