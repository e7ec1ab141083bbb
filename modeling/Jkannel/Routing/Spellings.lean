import Jkannel.Routing.Msisdn
import Mathlib.Data.Bool.AllAny

/-!
# The spellings of a number

One subscriber is written in several ways: behind a plus, with whatever separators a person puts
between the digits; behind the international access prefix `00`; and bare.  The blocklist, the
router and the send path see one number only if the normaliser takes every one of them to the same
digits.

* `Number` is a string of digits that can begin an international number, and `Spelling` the three
  ways of writing one.
* `Spells` says that a text is a way of writing a number, separators behind a plus included.
* `normalizeMsisdn_spelling` is the identity of a subscriber: every spelling comes out as the
  number, what comes out normalises to itself, and what is accepted has the shape of a number.
-/

namespace Jkannel.Routing

open List
open Text (isSpace trim)

/-! ## Digits, trimmed -/

theorem toList_digitsOnly (s : String) :
    (digitsOnly (some s)).toList = s.toList.filter fun c => '0' ≤ c ∧ c ≤ '9' := by
  rw [digitsOnly, Option.getD_some, Text.digits, String.toList_ofList]

theorem digitsOnly_of_digits {s : String} (h : ∀ c ∈ s.toList, '0' ≤ c ∧ c ≤ '9') :
    digitsOnly (some s) = s := by
  rw [← String.toList_inj, toList_digitsOnly]
  exact filter_eq_self.mpr fun c hc => by simpa using h c hc

/-- White space holds no digit, so trimming loses none. -/
theorem filter_digits_dropWhile (cs : List Char) :
    (cs.dropWhile isSpace).filter (fun c => '0' ≤ c ∧ c ≤ '9') =
      cs.filter fun c => '0' ≤ c ∧ c ≤ '9' := by
  induction cs with
  | nil => rfl
  | cons c cs ih =>
    by_cases hspace : isSpace c = true
    · have hdigit : ¬ ('0' ≤ c ∧ c ≤ '9') := fun h => by
        rw [isSpace_of_digit h] at hspace
        cases hspace
      rw [dropWhile_cons_of_pos hspace, ih, filter_cons_of_neg (by simpa using hdigit)]
    · rw [dropWhile_cons_of_neg hspace]

theorem digitsOnly_trim (s : String) : digitsOnly (some (trim s)) = digitsOnly (some s) := by
  rw [← String.toList_inj, toList_digitsOnly, toList_digitsOnly, trim, String.toList_ofList,
    Text.trimChars, filter_reverse, filter_digits_dropWhile, filter_reverse,
    reverse_reverse, filter_digits_dropWhile]

/-- A text that begins with something other than white space begins with it when trimmed. -/
theorem head?_dropWhile_concat {c : Char} (hc : isSpace c = false) (cs : List Char) :
    ∃ rest, (cs ++ [c]).dropWhile isSpace = rest ++ [c] := by
  induction cs with
  | nil => exact ⟨[], by rw [nil_append, dropWhile_cons_of_neg (by simp [hc])]⟩
  | cons d cs ih =>
    by_cases hspace : isSpace d = true
    · obtain ⟨rest, hrest⟩ := ih
      exact ⟨rest, by rw [cons_append, dropWhile_cons_of_pos hspace, hrest]⟩
    · exact ⟨d :: cs, dropWhile_cons_of_neg hspace⟩

theorem head?_trim_cons {c : Char} {s : String} {cs : List Char} (hs : s.toList = c :: cs)
    (hc : isSpace c = false) : (trim s).toList.head? = some c := by
  rw [trim, String.toList_ofList, Text.trimChars, hs,
    dropWhile_cons_of_neg (by simp [hc]), reverse_cons]
  obtain ⟨rest, hrest⟩ := head?_dropWhile_concat hc cs.reverse
  rw [hrest, reverse_append]
  rfl

/-! ## Numbers and the ways of writing them -/

/-- The digits of an international number, of whatever length: no country code begins with 0. -/
structure Number (d : String) : Prop where
  all_digits : ∀ c ∈ d.toList, '0' ≤ c ∧ c ≤ '9'
  ne_empty : d ≠ ""
  head_ne_zero : d.toList.head? ≠ some '0'

/-- The length of a number that a subscriber can have. -/
def Dialable (d : String) : Prop := E164_MIN_DIGITS ≤ d.length ∧ d.length ≤ E164_MAX_DIGITS

instance (d : String) : Decidable (Dialable d) :=
  inferInstanceAs (Decidable (_ ∧ _))

theorem checkDigits_eq_none {digits : List Char} :
    checkDigits digits = none ↔ E164_MIN_DIGITS ≤ digits.length ∧
      digits.length ≤ E164_MAX_DIGITS ∧ digits.head? ≠ some '0' := by
  rw [checkDigits]
  by_cases hmin : digits.length < E164_MIN_DIGITS
  · rw [if_pos hmin]
    exact iff_of_false (Option.some_ne_none _) fun h => absurd h.1 (Nat.not_le.mpr hmin)
  by_cases hmax : E164_MAX_DIGITS < digits.length
  · rw [if_neg hmin, if_pos hmax]
    exact iff_of_false (Option.some_ne_none _) fun h => absurd h.2.1 (Nat.not_le.mpr hmax)
  by_cases hzero : digits.head? = some '0'
  · rw [if_neg hmin, if_neg hmax, if_pos hzero]
    exact iff_of_false (Option.some_ne_none _) fun h => h.2.2 hzero
  · rw [if_neg hmin, if_neg hmax, if_neg hzero]
    exact iff_of_true rfl ⟨Nat.not_lt.mp hmin, Nat.not_lt.mp hmax, hzero⟩

/-- A canonical number is a number of a length that a subscriber's can have. -/
theorem canonical_iff {d : String} : Canonical d ↔ Number d ∧ Dialable d := by
  rw [Dialable, ← String.length_toList]
  constructor
  · intro h
    obtain ⟨hmin, hmax, hzero⟩ := checkDigits_eq_none.mp h.accepted
    refine ⟨⟨h.all_digits, fun hempty => h.ne_nil (by rw [hempty]; rfl), hzero⟩, hmin, hmax⟩
  · rintro ⟨hnumber, hmin, hmax⟩
    exact ⟨hnumber.all_digits, checkDigits_eq_none.mpr ⟨hmin, hmax, hnumber.head_ne_zero⟩⟩

/-- The ways of writing a number. -/
inductive Spelling where
  | plus | international | bare
  deriving DecidableEq

def Spelling.write : Spelling → String → String
  | .plus, d => "+" ++ d
  | .international, d => "00" ++ d
  | .bare, d => d

/-- A text writes a number: behind a plus, with anything but digits between its digits, behind `00`,
or bare. -/
inductive Spells (d : String) : String → Prop where
  | plus {rest : String} (separated : digitsOnly (some rest) = d) : Spells d ("+" ++ rest)
  | international : Spells d ("00" ++ d)
  | bare : Spells d d

section Spelt

variable {d : String} (h : Number d)
include h

theorem Spelling.write_spells (s : Spelling) : Spells d (s.write d) := by
  cases s with
  | plus => exact .plus (digitsOnly_of_digits h.all_digits)
  | international => exact .international
  | bare => exact .bare

/-- Digits without a leading zero are in international form already. -/
theorem Number.expandPrefix_eq (cc : String) : expandPrefix cc d.toList = d.toList := by
  unfold expandPrefix
  split
  · next hzero => exact absurd (by rw [hzero]; rfl) h.head_ne_zero
  · next hzero => exact absurd (by rw [hzero]; rfl) h.head_ne_zero
  · rfl

theorem Number.digits_zeros : ∀ c ∈ ("00" ++ d).toList, '0' ≤ c ∧ c ≤ '9' := by
  intro c hc
  have hzeros : ∀ c ∈ "00".toList, '0' ≤ c ∧ c ≤ '9' :=
    all_iff_forall_prop.mp (by decide)
  rw [String.toList_append] at hc
  rcases mem_append.mp hc with hc | hc
  · exact hzeros c hc
  · exact h.all_digits c hc

variable {text : String}

/-- **The digits of every spelling are the number's**, once the prefix is resolved. -/
theorem internationalDigits_spells (hspells : Spells d text) (countryCode : Option String) :
    internationalDigits countryCode (trim text) = d.toList := by
  rw [internationalDigits, digitsOnly_trim]
  cases hspells with
  | @plus rest hrest =>
    have hlist : ("+" ++ rest).toList = '+' :: rest.toList := by rw [String.toList_append]; rfl
    have hfound : digitsOnly (some ("+" ++ rest)) = d := by
      rw [← hrest, ← String.toList_inj, toList_digitsOnly, toList_digitsOnly, hlist,
        filter_cons_of_neg (by decide)]
    rw [if_pos (head?_trim_cons hlist (by decide)), hfound]
  | international =>
    have hlist : ("00" ++ d).toList = '0' :: '0' :: d.toList := by rw [String.toList_append]; rfl
    rw [if_neg, digitsOnly_of_digits h.digits_zeros, hlist, expandPrefix]
    rw [head?_trim_cons hlist (by decide)]
    decide
  | bare =>
    rw [if_neg, digitsOnly_of_digits h.all_digits, h.expandPrefix_eq]
    cases hlist : d.toList with
    | nil => exact absurd (String.toList_inj.mp hlist) h.ne_empty
    | cons c cs =>
      have hdigit := h.all_digits c (by rw [hlist]; exact mem_cons_self)
      rw [head?_trim_cons hlist (isSpace_of_digit hdigit)]
      intro hplus
      cases hplus
      revert hdigit
      decide

/-- A spelling is not blank and has digits. -/
theorem digitsOnly_spells (hspells : Spells d text) :
    digitsOnly (some (trim text)) ≠ "" ∧ trim text ≠ "" := by
  have hdigits : digitsOnly (some (trim text)) ≠ "" := by
    intro hempty
    have hfound := internationalDigits_spells h hspells none
    rw [internationalDigits, hempty] at hfound
    refine h.ne_empty (String.toList_inj.mp (hfound.symm.trans ?_))
    split
    · rfl
    · rfl
  refine ⟨hdigits, fun hempty => hdigits ?_⟩
  rw [hempty]
  rfl

/-- What a spelling normalises to rests on the number alone. -/
theorem normalizeMsisdn_spells (hspells : Spells d text) (countryCode : Option String) :
    normalizeMsisdn countryCode text = acceptDigits text d.toList := by
  obtain ⟨hdigits, hempty⟩ := digitsOnly_spells h hspells
  rw [normalizeMsisdn, if_neg hempty, if_neg hdigits, internationalDigits_spells h hspells]

end Spelt

theorem acceptDigits_canonical {d : String} (h : Canonical d) (value : String) :
    acceptDigits value d.toList = ⟨value, some d, some ("+" ++ d), none⟩ := by
  rw [acceptDigits, h.accepted, String.ofList_toList]

/-- A normalisation without a problem has digits. -/
theorem digits_of_problem {countryCode : Option String} {value : String}
    (h : (normalizeMsisdn countryCode value).problem = none) :
    ∃ d, (normalizeMsisdn countryCode value).digits = some d := by
  rw [normalizeMsisdn] at h ⊢
  split at h
  · cases h
  · split at h
    · cases h
    · next hempty hdigits =>
      rw [if_neg hempty, if_neg hdigits]
      rw [acceptDigits] at h ⊢
      cases hcheck : checkDigits (internationalDigits countryCode (trim value)) with
      | some problem => rw [hcheck] at h; cases h
      | none => exact ⟨_, rfl⟩

/-- **One subscriber, one identity.**  Whatever the default country codes, every spelling of a
number of six to fifteen digits normalises to the number; the digits and the form behind a plus of
a number that was accepted normalise to that number again; and a number that is accepted has six to
fifteen digits, the first of which is no zero. -/
theorem normalizeMsisdn_spelling (countryCode countryCode' : Option String) :
    (∀ d text : String, Number d → Dialable d → Spells d text →
      normalizeMsisdn countryCode text = ⟨text, some d, some ("+" ++ d), none⟩) ∧
    (∀ value d : String, (normalizeMsisdn countryCode value).digits = some d →
      (normalizeMsisdn countryCode value).e164 = some ("+" ++ d) ∧
      normalizeMsisdn countryCode' d = ⟨d, some d, some ("+" ++ d), none⟩ ∧
      normalizeMsisdn countryCode' ("+" ++ d) = ⟨"+" ++ d, some d, some ("+" ++ d), none⟩) ∧
    ∀ value : String, (normalizeMsisdn countryCode value).problem = none →
      ∃ d, (normalizeMsisdn countryCode value).digits = some d ∧ Number d ∧ Dialable d := by
  have hspelt : ∀ (code : Option String) (d text : String), Canonical d → Spells d text →
      normalizeMsisdn code text = ⟨text, some d, some ("+" ++ d), none⟩ := by
    intro code d text hd hspells
    rw [normalizeMsisdn_spells (canonical_iff.mp hd).1 hspells, acceptDigits_canonical hd]
  refine ⟨fun d text hnumber hlength hspells =>
    hspelt _ d text (canonical_iff.mpr ⟨hnumber, hlength⟩) hspells, ?_, ?_⟩
  · intro value d hvalue
    obtain ⟨hd, he164⟩ := normalizeMsisdn_canonical hvalue
    exact ⟨he164, hspelt _ d d hd .bare,
      hspelt _ d _ hd (.plus (digitsOnly_of_digits hd.all_digits))⟩
  · intro value hvalid
    obtain ⟨d, hd⟩ := digits_of_problem hvalid
    exact ⟨d, hd, canonical_iff.mp (normalizeMsisdn_canonical hd).1⟩

theorem number_uganda : Number "256700000000" :=
  ⟨all_iff_forall_prop.mp (by decide), by decide, by decide⟩

theorem spells_uganda : Spells "256700000000" ("+" ++ "256 (700) 000-000") :=
  .plus (by decide)

theorem normalizeMsisdn_spelling_uganda :
    normalizeMsisdn (some "256") ("+" ++ "256 (700) 000-000") =
      ⟨"+" ++ "256 (700) 000-000", some "256700000000", some ("+" ++ "256700000000"), none⟩ :=
  (normalizeMsisdn_spelling (some "256") none).1 "256700000000" ("+" ++ "256 (700) 000-000")
    number_uganda (by decide) spells_uganda

end Jkannel.Routing
