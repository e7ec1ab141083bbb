import Jkannel.Messaging.Instants

/-!
# What `parseInstant` makes of a date and a time

The check on the date compares what was written with what the instant shows in UTC.  Without an
offset the two agree exactly for the dates of the calendar.  With one they agree as long as the
offset does not carry the clock across midnight, so that a date-time of the first hours of a day
is refused east of Greenwich, and one of the last hours west of it.

* `DateTime.Exists` says which texts of the grammar name a date and a time.
* `parseInstant_text` says what becomes of each text of the grammar.
* `parseInstant_exact_iff`: the ones that exist are read and the others refused, unless the offset
  crosses midnight.
-/

namespace Jkannel.Messaging

open List Option
open Calendar
open Platform.Grid (civilDate civilDate_spec civilDate_makeDay)

/-! ## What was written, and what it means -/

namespace Clock

/-- There is such a time of the day, and such an offset. -/
def Exists (c : Clock) : Prop :=
  c.hour.value ≤ 23 ∧ c.minute.value ≤ 59 ∧ c.second ≤ 59 ∧ ∀ zone ∈ c.zone, zone.Real

/-- Twenty-four hours sharp, in an offset that exists. -/
def EndsDay (c : Clock) : Prop := c.IsMidnight24 ∧ ∀ zone ∈ c.zone, zone.Real

end Clock

namespace DateTime

/-- The year, the month and the day are a date. -/
def OnCalendar (w : DateTime) : Prop := IsDate w.year.value w.month.value w.day.value

/-- There is such a date and time. -/
def Exists (w : DateTime) : Prop := w.OnCalendar ∧ ∀ c ∈ w.clock, c.Exists

/-- A date with the twenty-fourth hour for its time. -/
def EndsDay (w : DateTime) : Prop := w.OnCalendar ∧ ∃ c ∈ w.clock, c.EndsDay

/-- The instant falls on the date that was written, as seen from Greenwich. -/
def StaysOnDate (w : DateTime) : Prop :=
  0 ≤ (w.secondOfDay : ℤ) - w.offset ∧ (w.secondOfDay : ℤ) - w.offset < 86400

/-- What is promised of a text of the grammar: the epoch second of a date-time that exists, and a
refusal of any other. -/
def Exact (w : DateTime) : Prop :=
  (w.Exists → parseInstant (.text (String.ofList w.text)) = .ok (some w.epoch)) ∧
    (¬ w.Exists → ∃ e, parseInstant (.text (String.ofList w.text)) = .error e)

end DateTime

/-! ## Trimming -/

/-- The last character is no white space. -/
def Closed (cs : List Char) : Prop := ∃ c, cs.getLast? = some c ∧ Text.isSpace c = false

variable {cs : List Char}

theorem Closed.append (h : Closed cs) (before : List Char) : Closed (before ++ cs) := by
  obtain ⟨c, hlast, hspace⟩ := h
  exact ⟨c, by rw [getLast?_append, hlast]; rfl, hspace⟩

theorem Closed.cons {cs : List Char} (h : Closed cs) (c : Char) : Closed (c :: cs) :=
  h.append [c]

theorem Closed.append_option (h : Closed cs) {rest : Option (List Char)}
    (hrest : ∀ cs' ∈ rest, Closed cs') : Closed (cs ++ rest.getD []) := by
  cases rest with
  | none =>
    rw [getD_none, append_nil]
    exact h
  | some rest => exact (hrest rest rfl).append cs

theorem isSpace_digit (d : Digit) : Text.isSpace d.char = false := by
  revert d
  decide

theorem closed_digits {ds : List Digit} (h : ds ≠ []) : Closed (ds.map Digit.char) := by
  refine ⟨(ds.getLast h).char, ?_, isSpace_digit _⟩
  rw [getLast?_map, getLast?_eq_some_getLast h, map_some]

theorem Digits.closed {k : ℕ} (ds : Digits (k + 1)) : Closed ds.text := by
  refine closed_digits fun h => ?_
  have hlength := ds.toList_length
  rw [h] at hlength
  cases hlength

theorem Zone.closed (zone : Zone) : Closed zone.text := by
  cases zone with
  | utc => exact ⟨'Z', rfl, by decide⟩
  | offset o => exact (o.minutes.closed.append _).cons _

theorem Seconds.closed (s : Seconds) : Closed s.text := by
  refine (s.second.closed.append_option fun cs hcs => ?_).cons _
  obtain ⟨f, -, rfl⟩ := Option.mem_map.mp hcs
  exact (closed_digits f.ne_nil).cons _

theorem Clock.closed (c : Clock) : Closed c.text := by
  have hseconds : Closed (c.minute.text ++ (c.seconds.map Seconds.text).getD []) := by
    refine c.minute.closed.append_option fun cs hcs => ?_
    obtain ⟨s, -, rfl⟩ := Option.mem_map.mp hcs
    exact s.closed
  have hzone : Closed (c.minute.text ++ (c.seconds.map Seconds.text).getD [] ++
      (c.zone.map Zone.text).getD []) := by
    refine hseconds.append_option fun cs hcs => ?_
    obtain ⟨zone, -, rfl⟩ := Option.mem_map.mp hcs
    exact zone.closed
  rw [append_assoc] at hzone
  exact ((hzone.cons ':').append _).cons _

theorem DateTime.closed (w : DateTime) : Closed w.text := by
  have hclock : Closed (w.day.text ++ (w.clock.map Clock.text).getD []) := by
    refine w.day.closed.append_option fun cs hcs => ?_
    obtain ⟨c, -, rfl⟩ := Option.mem_map.mp hcs
    exact c.closed
  exact (((hclock.cons '-').append _).cons '-').append _

/-- Trimming takes nothing from a text that neither begins nor ends with white space. -/
theorem trimChars_of_closed {c : Char} (hc : Text.isSpace c = false) (h : Closed (c :: cs)) :
    Text.trimChars (c :: cs) = c :: cs := by
  obtain ⟨last, hlast, hspace⟩ := h
  have hreverse : (c :: cs).reverse.dropWhile Text.isSpace = (c :: cs).reverse := by
    rw [← head?_reverse] at hlast
    cases hrev : (c :: cs).reverse with
    | nil => rfl
    | cons last' rest =>
      rw [hrev] at hlast
      cases hlast
      rw [dropWhile_cons_of_neg (by simp [hspace])]
  rw [Text.trimChars, dropWhile_cons_of_neg (by simp [hc]), hreverse, reverse_reverse]

theorem DateTime.text_eq_cons (w : DateTime) :
    ∃ cs, w.text = w.year.head.char :: cs := by
  rw [DateTime.text, ← List.Vector.cons_head_tail w.year, Digits.text_cons]
  exact ⟨_, rfl⟩

theorem DateTime.trimChars_text (w : DateTime) : Text.trimChars w.text = w.text := by
  obtain ⟨cs, hcs⟩ := w.text_eq_cons
  have hclosed := w.closed
  rw [hcs] at hclosed ⊢
  exact trimChars_of_closed (isSpace_digit _) hclosed

/-! ## The text that is parsed -/

namespace DateTime

/-- The same date and time in the format of the language: with a `T`, and the offset zero if none
was written. -/
def utcFormat (w : DateTime) : DateTime :=
  { w with clock := w.clock.map fun c =>
      { c with spaced := false, zone := some (c.zone.getD .utc) } }

variable (w : DateTime)

theorem utcFormat_inUtcFormat : w.utcFormat.InUtcFormat := by
  intro c hc
  obtain ⟨c', -, rfl⟩ := Option.mem_map.mp hc
  exact ⟨rfl, rfl⟩

theorem utcFormat_epoch : w.utcFormat.epoch = w.epoch := by
  obtain ⟨year, month, day, clock⟩ := w
  cases clock with
  | none => rfl
  | some c =>
    obtain ⟨spaced, hour, minute, seconds, zone⟩ := c
    cases zone <;> rfl

theorem utcFormat_millisecond : w.utcFormat.millisecond = w.millisecond := by
  obtain ⟨year, month, day, clock⟩ := w
  cases clock <;> rfl

theorem utcFormat_parses : w.utcFormat.Parses ↔ w.Parses := by
  obtain ⟨year, month, day, clock⟩ := w
  cases clock with
  | none => rfl
  | some c =>
    obtain ⟨spaced, hour, minute, seconds, zone⟩ := c
    cases zone with
    | none =>
      simp [Parses, utcFormat, Clock.Parses, Clock.IsMidnight24, Clock.second,
        Clock.fractionDigits, Zone.Real]
    | some zone =>
      simp [Parses, utcFormat, Clock.Parses, Clock.IsMidnight24, Clock.second, Clock.fractionDigits]

end DateTime

theorem replaceFirst_append {c d : Char} {cs : List Char} (h : c ∉ cs) (rest : List Char) :
    replaceFirst c d (cs ++ rest) = cs ++ replaceFirst c d rest := by
  induction cs with
  | nil => rfl
  | cons c' cs ih =>
    rw [mem_cons, not_or] at h
    rw [cons_append, replaceFirst, if_neg (Ne.symm h.1), ih h.2, cons_append]

theorem replaceFirst_of_not_mem {c d : Char} (h : c ∉ cs) : replaceFirst c d cs = cs := by
  have := @replaceFirst_append c d cs h []
  rwa [append_nil, replaceFirst, append_nil] at this

@[simp] theorem Digit.char_ne_space (d : Digit) : ¬ d.char = ' ' := d.char_ne.2.2

@[simp] theorem Digits.not_mem_text {k : ℕ} (ds : Digits k) : ' ' ∉ ds.text := by
  simp [Digits.text]

@[simp] theorem Zone.not_mem_text (zone : Zone) : ' ' ∉ zone.text := by
  cases zone with
  | utc => decide
  | offset o => cases hwest : o.west <;> cases hcolon : o.colon <;> simp [Zone.text, hwest, hcolon]

@[simp] theorem Seconds.not_mem_text (s : Seconds) : ' ' ∉ s.text := by
  cases hfraction : s.fraction <;> simp [Seconds.text, Fraction.text, hfraction]

/-- After the separator there is no space. -/
theorem Clock.not_mem_rest (c : Clock) :
    ' ' ∉ c.hour.text ++ ':' :: (c.minute.text ++
      ((c.seconds.map Seconds.text).getD [] ++ (c.zone.map Zone.text).getD [])) := by
  cases c.seconds <;> cases c.zone <;> simp

theorem Clock.replaceFirst_text (c : Clock) :
    replaceFirst ' ' 'T' c.text = Clock.text { c with spaced := false } := by
  have hrest := replaceFirst_of_not_mem (d := 'T') c.not_mem_rest
  cases hspaced : c.spaced with
  | true => simp [Clock.text, hspaced, replaceFirst]
  | false =>
    rw [Clock.text, hspaced, if_neg (by decide), replaceFirst, if_neg (by decide), hrest]
    rfl

theorem DateTime.replaceFirst_text (w : DateTime) :
    replaceFirst ' ' 'T' w.text =
      DateTime.text { w with clock := w.clock.map fun c => { c with spaced := false } } := by
  rw [DateTime.text, replaceFirst_append w.year.not_mem_text, replaceFirst, if_neg (by decide),
    replaceFirst_append w.month.not_mem_text, replaceFirst, if_neg (by decide),
    replaceFirst_append w.day.not_mem_text, DateTime.text]
  cases w.clock with
  | none => rfl
  | some c =>
    rw [map_some, getD_some, c.replaceFirst_text]
    rfl

theorem DateTime.normalized_text (w : DateTime) : normalized w.text w = w.utcFormat.text := by
  rw [normalized, w.replaceFirst_text]
  obtain ⟨year, month, day, clock⟩ := w
  cases clock with
  | none => rfl
  | some c =>
    obtain ⟨spaced, hour, minute, seconds, zone⟩ := c
    cases zone with
    | none => simp [DateTime.text, Clock.text, DateTime.utcFormat, Zone.text]
    | some zone => simp [DateTime.utcFormat]

/-! ## The whole function -/

theorem foldl_digits_lt (ds : List Digit) (n : ℕ) :
    ds.foldl (fun (n : ℕ) (d : Digit) => 10 * n + d.val) n < (n + 1) * 10 ^ ds.length := by
  induction ds generalizing n with
  | nil => simp
  | cons d ds ih =>
    calc (d :: ds).foldl (fun (n : ℕ) (d : Digit) => 10 * n + d.val) n
        < (10 * n + d.val + 1) * 10 ^ ds.length := ih _
      _ ≤ (n + 1) * 10 * 10 ^ ds.length := Nat.mul_le_mul_right _ (by omega)
      _ = (n + 1) * 10 ^ (d :: ds).length := by
        rw [length_cons, pow_succ, mul_assoc, mul_comm 10]

theorem decimalValue_lt (ds : List Digit) : decimalValue ds < 10 ^ ds.length := by
  have hlt := foldl_digits_lt ds 0
  rwa [zero_add, one_mul] at hlt

theorem DateTime.millisecond_lt (w : DateTime) : w.millisecond < 1000 := by
  rw [DateTime.millisecond]
  cases w.clock with
  | none => decide
  | some c =>
    have hlt := decimalValue_lt ((c.fractionDigits ++ [0, 0, 0]).take 3)
    have hlength : ((c.fractionDigits ++ [0, 0, 0]).take 3).length = 3 := by simp
    rw [hlength] at hlt
    exact hlt

/-- What `Date.parse` makes of the text that it is handed. -/
theorem dateParse_normalized (w : DateTime) :
    dateParse (normalized w.text w) =
      if w.Parses then some (w.epoch * 1000 + w.millisecond) else none := by
  rw [w.normalized_text, dateParse, ISO_8601_eq_some_iff.mpr rfl]
  simp [w.utcFormat_inUtcFormat, w.utcFormat_parses, w.utcFormat_epoch, w.utcFormat_millisecond]

/-- What becomes of a text of the grammar. -/
theorem parseInstant_text (w : DateTime) :
    parseInstant (.text (String.ofList w.text)) =
      if w.Parses then
        if civilDate (w.epoch.fdiv 86400) = ((w.year.value : ℤ), w.month.value, w.day.value) then
          .ok (some w.epoch)
        else .error (.notCalendar (String.ofList w.text))
      else .error (.notReal (String.ofList w.text)) := by
  have hpresent : (Param.text (String.ofList w.text)).present = true := by
    obtain ⟨cs, hcs⟩ := w.text_eq_cons
    simp [Param.present, Text.trim, w.trimChars_text]
    simp [hcs]
  have hms := w.millisecond_lt
  have hday : (w.epoch * 1000 + w.millisecond).fdiv 86400000 = w.epoch.fdiv 86400 := by
    rw [Int.fdiv_eq_ediv_of_nonneg _ (by omega), Int.fdiv_eq_ediv_of_nonneg _ (by omega)]
    omega
  have hsecond : (w.epoch * 1000 + w.millisecond).fdiv 1000 = w.epoch := by
    rw [Int.fdiv_eq_ediv_of_nonneg _ (by omega)]
    omega
  rw [parseInstant, if_pos hpresent]
  simp only [String.toList_ofList, w.trimChars_text, ISO_8601_eq_some_iff.mpr rfl,
    dateParse_normalized]
  by_cases hparses : w.Parses
  · simp only [if_pos hparses, hday, hsecond]
    exact ite_not ..
  · simp only [if_neg hparses]

/-! ## Midnight -/

theorem Zone.Real.seconds_lt {zone : Zone} (h : zone.Real) : zone.seconds < 86400 := by
  cases zone with
  | utc => decide
  | offset o =>
    obtain ⟨hhours, hminutes⟩ := h
    rw [Zone.seconds]
    split_ifs <;> omega

namespace DateTime

variable {w : DateTime}

/-- The date that the instant shows is the one that was written exactly for a date of the calendar
that the offset does not leave. -/
theorem civilDate_epoch_iff :
    civilDate (w.epoch.fdiv 86400) = ((w.year.value : ℤ), w.month.value, w.day.value) ↔
      w.OnCalendar ∧ w.StaysOnDate := by
  rw [Int.fdiv_eq_ediv_of_nonneg _ (by omega)]
  constructor
  · intro h
    obtain ⟨hdate, hday⟩ := civilDate_spec (w.epoch / 86400)
    rw [h] at hdate hday
    dsimp only at hday
    refine ⟨hdate, ?_⟩
    rw [epoch, dayNumber] at hday
    rw [StaysOnDate]
    omega
  · rintro ⟨hdate, hlow, hhigh⟩
    have hday : w.epoch / 86400 = w.dayNumber := by
      rw [epoch]
      omega
    rw [hday]
    exact civilDate_makeDay hdate

/-- `Date.parse` takes the dates of the calendar with a time that exists, or with the
twenty-fourth hour. -/
theorem parses_iff (h : w.OnCalendar) : w.Parses ↔ w.Exists ∨ w.EndsDay := by
  have hday : w.day.value ≤ 31 := by
    have := h.day_le
    rw [monthLength] at this
    split_ifs at this <;> omega
  rw [Parses, Exists, EndsDay, and_iff_right h, and_iff_right h, and_iff_right h.month_pos,
    and_iff_right h.month_le, and_iff_right h.day_pos, and_iff_right hday]
  cases w.clock with
  | none => simp
  | some c =>
    simp only [mem_some_iff, forall_eq', exists_eq_left', Clock.Parses, Clock.Exists, Clock.EndsDay]
    constructor
    · rintro ⟨hhour | hmidnight, hminute, hsecond, hzone⟩
      · exact .inl ⟨hhour, hminute, hsecond, hzone⟩
      · exact .inr ⟨hmidnight, hzone⟩
    · rintro (⟨hhour, hminute, hsecond, hzone⟩ | ⟨hmidnight, hzone⟩)
      · exact ⟨.inl hhour, hminute, hsecond, hzone⟩
      · obtain ⟨-, hminute, hsecond, -⟩ := id hmidnight
        exact ⟨.inr hmidnight, by omega, by omega, hzone⟩

theorem EndsDay.not_exists (h : w.EndsDay) : ¬ w.Exists := by
  obtain ⟨-, c, hc, ⟨hhour, -⟩, -⟩ := h
  intro hexists
  have := (hexists.2 c hc).1
  omega

/-- At the end of the day, only an offset that takes something off the clock keeps the date. -/
theorem EndsDay.staysOnDate_iff (h : w.EndsDay) : w.StaysOnDate ↔ 0 < w.offset := by
  obtain ⟨-, c, hc, ⟨hhour, hminute, hsecond, -⟩, hzone⟩ := h
  have hsecondOfDay : w.secondOfDay = 86400 := by
    rw [secondOfDay, hc, map_some, getD_some, Clock.secondOfDay]
    omega
  have hoffset : w.offset < 86400 := by
    rw [offset, hc, bind_some]
    cases hz : c.zone with
    | none => decide
    | some zone => exact (hzone zone hz).seconds_lt
  rw [StaysOnDate, hsecondOfDay]
  omega

theorem parseInstant_of_accepted (h : w.Exists ∨ w.EndsDay) (hstays : w.StaysOnDate) :
    parseInstant (.text (String.ofList w.text)) = .ok (some w.epoch) := by
  have hcalendar : w.OnCalendar := h.elim And.left And.left
  rw [parseInstant_text, if_pos ((parses_iff hcalendar).mpr h),
    if_pos (civilDate_epoch_iff.mpr ⟨hcalendar, hstays⟩)]

theorem parseInstant_of_refused (h : ¬ ((w.Exists ∨ w.EndsDay) ∧ w.StaysOnDate)) :
    ∃ e, parseInstant (.text (String.ofList w.text)) = .error e := by
  rw [parseInstant_text]
  by_cases hparses : w.Parses
  · rw [if_pos hparses, if_neg]
    · exact ⟨_, rfl⟩
    · intro hdate
      obtain ⟨hcalendar, hstays⟩ := civilDate_epoch_iff.mp hdate
      exact h ⟨(parses_iff hcalendar).mp hparses, hstays⟩
  · rw [if_neg hparses]
    exact ⟨_, rfl⟩

/-- **An instant is read exactly, unless its offset carries it across midnight.**  A text of the
grammar that names a date and a time is read if it is the same date in UTC.  One that does not is
refused, but for twenty-four hours sharp in an offset east of Greenwich. -/
theorem parseInstant_exact_iff (w : DateTime) :
    w.Exact ↔ (w.Exists → w.StaysOnDate) ∧ (w.EndsDay → w.offset ≤ 0) := by
  constructor
  · rintro ⟨hread, hrefused⟩
    refine ⟨fun hexists => ?_, fun hends => ?_⟩
    · by_contra hstays
      obtain ⟨e, he⟩ := parseInstant_of_refused fun h => hstays h.2
      rw [hread hexists] at he
      cases he
    · by_contra hoffset
      obtain ⟨e, he⟩ := hrefused hends.not_exists
      rw [parseInstant_of_accepted (.inr hends) (hends.staysOnDate_iff.mpr (not_le.mp hoffset))] at he
      cases he
  · rintro ⟨hstays, hoffset⟩
    refine ⟨fun hexists => parseInstant_of_accepted (.inl hexists) (hstays hexists), fun hnot => ?_⟩
    refine parseInstant_of_refused ?_
    rintro ⟨hexists | hends, hstays'⟩
    · exact hnot hexists
    · have := hends.staysOnDate_iff.mp hstays'
      have := hoffset hends
      omega

end DateTime

theorem lastDigit_lt (n : ℕ) : n % 10 < 10 := Nat.mod_lt n (by decide)

def lastDigit (n : ℕ) : Digit := ⟨n % 10, lastDigit_lt n⟩

/-- The number below a hundred, in two digits. -/
def twoDigits (n : ℕ) : Digits 2 := .cons (lastDigit (n / 10)) (.cons (lastDigit n) .nil)

def fourDigits (n : ℕ) : Digits 4 :=
  .cons (lastDigit (n / 1000)) (.cons (lastDigit (n / 100)) (twoDigits n))

/-- Half past midnight on New Year's Day, two hours east of Greenwich. -/
def newYear : DateTime where
  year := fourDigits 2026
  month := twoDigits 1
  day := twoDigits 1
  clock := some {
    spaced := false
    hour := twoDigits 0
    minute := twoDigits 30
    seconds := none
    zone := some (.offset ⟨false, twoDigits 2, true, twoDigits 0⟩) }

theorem newYear_exists : newYear.Exists := by
  refine ⟨⟨by decide, by decide, by decide, by decide⟩, fun c hc => ?_⟩
  cases hc
  refine ⟨by decide, by decide, by decide, fun zone hzone => ?_⟩
  cases hzone
  exact ⟨by decide, by decide⟩

/-- It is the thirty-first of December in UTC, and is refused for no real calendar date. -/
theorem new_year_is_refused :
    newYear.text = "2026-01-01T00:30+02:00".toList ∧ newYear.Exists ∧
      parseInstant (.text "2026-01-01T00:30+02:00") =
        .error (.notCalendar "2026-01-01T00:30+02:00") ∧ ¬ newYear.Exact := by
  have hrefused : parseInstant (.text "2026-01-01T00:30+02:00") =
      .error (.notCalendar "2026-01-01T00:30+02:00") := by
    decide +kernel
  refine ⟨by decide +kernel, newYear_exists, hrefused, fun h => ?_⟩
  have htext : String.ofList newYear.text = "2026-01-01T00:30+02:00" := by decide +kernel
  have hread := h.1 newYear_exists
  rw [htext, hrefused] at hread
  cases hread

example : parseInstant (.text "2026-01-01T24:00+01:00") = .ok (some 1767308400) := by decide +kernel

end Jkannel.Messaging
