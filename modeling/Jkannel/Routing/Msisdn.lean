import Jkannel.Text

/-!
# Numbers

The one normaliser the router, the blocklist and the send path share.  The canonical form of a
number is its digits in international form, without a plus; the form on the wire has the plus.

* `normalizeMsisdn` resolves the plus, the `00` and the national `0`, and refuses what cannot be a
  number.
* `Canonical` is what a string it accepts looks like, and `normalizeMsisdn_e164` says that writing
  a canonical number with its plus and normalising it again gives the number back.  So a check made
  on the digits is a check of the number that goes out.
-/

namespace Jkannel.Routing

open List
open Text (trim isSpace)
open String (toList_ofList ofList_toList)

/-- The widest national number there is. -/
def E164_MAX_DIGITS : Nat := 15

/-- The shortest thing that can be a subscriber's number. -/
def E164_MIN_DIGITS : Nat := 6

/-- Why an address is refused. -/
inductive MsisdnProblem where
  | empty | noDigits | tooShort | tooLong

/-- A number, as it was understood. -/
structure NormalizedMsisdn where
  /-- What the caller passed, untouched. -/
  input : String
  /-- The canonical digits, or none when unusable. -/
  digits : Option String
  /-- The digits behind a plus, or none when unusable. -/
  e164 : Option String
  problem : Option MsisdnProblem

/-- The digits of an address. -/
def digitsOnly (value : Option String) : String := Text.digits (value.getD "")

/-- The digits of an address written without a plus, in international form.  `cc` are the digits
of the default country code; without one, a national number keeps its zero and is refused for it. -/
def expandPrefix (cc : String) (digits : List Char) : List Char :=
  match digits with
  | '0' :: '0' :: rest => rest
  | '0' :: rest => if cc = "" then '0' :: rest else cc.toList ++ rest.dropWhile (· = '0')
  | _ => digits

/-- The length and the first digit decide. -/
def checkDigits (digits : List Char) : Option MsisdnProblem :=
  if digits.length < E164_MIN_DIGITS then some .tooShort
  else if E164_MAX_DIGITS < digits.length then some .tooLong
  else if digits.head? = some '0' then some .noDigits
  else none

/-- The digits of a trimmed address in international form. -/
def internationalDigits (countryCode : Option String) (trimmed : String) : List Char :=
  let found := (digitsOnly (some trimmed)).toList
  if trimmed.toList.head? = some '+' then found else expandPrefix (digitsOnly countryCode) found

/-- What an address with these digits normalises to. -/
def acceptDigits (value : String) (digits : List Char) : NormalizedMsisdn :=
  match checkDigits digits with
  | some problem => ⟨value, none, none, some problem⟩
  | none => ⟨value, some (String.ofList digits), some ("+" ++ String.ofList digits), none⟩

/-- Normalise an address to canonical international digits.  `countryCode` is the setting
`DEFAULT_COUNTRY_CODE`. -/
def normalizeMsisdn (countryCode : Option String) (value : String) : NormalizedMsisdn :=
  if trim value = "" then ⟨value, none, none, some .empty⟩
  else if digitsOnly (some (trim value)) = "" then ⟨value, none, none, some .noDigits⟩
  else acceptDigits value (internationalDigits countryCode (trim value))

/-- The reason an address was refused, for a human. -/
def describeMsisdnProblem (result : NormalizedMsisdn) : String :=
  match result.problem with
  | some .empty => "destination is required"
  | some .noDigits => "destination is not a dialable international number"
  | some .tooShort => "destination has fewer than " ++ toString E164_MIN_DIGITS ++ " digits"
  | some .tooLong =>
    "destination has more than " ++ toString E164_MAX_DIGITS ++ " digits (E.164 maximum)"
  | none => "destination is valid"

/-! ## Canonical numbers -/

/-- What a canonical number looks like. -/
structure Canonical (digits : String) : Prop where
  all_digits : ∀ c ∈ digits.toList, '0' ≤ c ∧ c ≤ '9'
  accepted : checkDigits digits.toList = none

variable {c : Char} {countryCode : Option String} {digits : String}

theorem digitsOnly_digit {value : Option String} (hc : c ∈ (digitsOnly value).toList) :
    '0' ≤ c ∧ c ≤ '9' := by
  rw [digitsOnly, Text.digits, toList_ofList] at hc
  simpa using (mem_filter.mp hc).2

theorem digitsOnly_ne {s : String} (hc : c ∈ s.toList) (hdigit : '0' ≤ c ∧ c ≤ '9') :
    digitsOnly (some s) ≠ "" := by
  intro h
  have hmem : c ∈ (digitsOnly (some s)).toList := by
    rw [digitsOnly, Text.digits, toList_ofList]
    exact mem_filter.mpr ⟨hc, decide_eq_true hdigit⟩
  rw [h] at hmem
  cases hmem

/-- Nothing but digits comes out of the expansion of digits. -/
theorem expandPrefix_digit {digits : List Char} (hdigits : ∀ c ∈ digits, '0' ≤ c ∧ c ≤ '9') :
    ∀ c ∈ expandPrefix (digitsOnly countryCode) digits, '0' ≤ c ∧ c ≤ '9' := by
  intro c hc
  unfold expandPrefix at hc
  split at hc
  · exact hdigits c (mem_cons_of_mem _ (mem_cons_of_mem _ hc))
  · split at hc
    · exact hdigits c hc
    · rcases mem_append.mp hc with hcode | hrest
      · exact digitsOnly_digit hcode
      · exact hdigits c (mem_cons_of_mem _ ((dropWhile_sublist _).mem hrest))
  · exact hdigits c hc

theorem internationalDigits_digit {trimmed : String} :
    ∀ c ∈ internationalDigits countryCode trimmed, '0' ≤ c ∧ c ≤ '9' := by
  intro c hc
  rw [internationalDigits] at hc
  split at hc
  · exact digitsOnly_digit hc
  · exact expandPrefix_digit (fun c hc => digitsOnly_digit hc) c hc

theorem acceptDigits_some {value : String} {found : List Char}
    (h : (acceptDigits value found).digits = some digits) :
    checkDigits found = none ∧ digits = String.ofList found ∧
      (acceptDigits value found).e164 = some ("+" ++ digits) := by
  rw [acceptDigits] at h ⊢
  cases hcheck : checkDigits found with
  | some problem => rw [hcheck] at h; cases h
  | none =>
    rw [hcheck] at h
    cases h
    exact ⟨rfl, rfl, rfl⟩

/-- What is accepted is canonical, and the form on the wire is the digits behind a plus. -/
theorem normalizeMsisdn_canonical {value : String}
    (h : (normalizeMsisdn countryCode value).digits = some digits) :
    Canonical digits ∧ (normalizeMsisdn countryCode value).e164 = some ("+" ++ digits) := by
  rw [normalizeMsisdn] at h ⊢
  by_cases hempty : trim value = ""
  · rw [if_pos hempty] at h; cases h
  by_cases hfound : digitsOnly (some (trim value)) = ""
  · rw [if_neg hempty, if_pos hfound] at h; cases h
  rw [if_neg hempty, if_neg hfound] at h ⊢
  obtain ⟨hcheck, rfl, he164⟩ := acceptDigits_some h
  refine ⟨⟨fun c hc => ?_, ?_⟩, he164⟩
  · rw [toList_ofList] at hc
    exact internationalDigits_digit c hc
  · rw [toList_ofList]
    exact hcheck

theorem isSpace_of_digit (hc : '0' ≤ c ∧ c ≤ '9') : isSpace c = false := by
  have hlow : 48 ≤ c.toNat := hc.1
  have hhigh : c.toNat ≤ 57 := hc.2
  simp only [isSpace, Bool.or_eq_false_iff, Bool.and_eq_false_iff, decide_eq_false_iff_not]
  omega

/-- Trimming takes nothing from a text without white space. -/
theorem trimChars_of_no_space {cs : List Char} (h : ∀ c ∈ cs, isSpace c = false) :
    Text.trimChars cs = cs := by
  have hdrop : ∀ l : List Char, (∀ c ∈ l, isSpace c = false) → l.dropWhile isSpace = l := by
    intro l hl
    cases l with
    | nil => rfl
    | cons c l => rw [dropWhile_cons_of_neg]; simp [hl c mem_cons_self]
  rw [Text.trimChars, hdrop cs h, hdrop _ (fun c hc => h c (mem_reverse.mp hc)), reverse_reverse]

theorem Canonical.ne_nil (h : Canonical digits) : digits.toList ≠ [] := by
  intro hnil
  have := h.accepted
  rw [hnil] at this
  cases this

/-- **A canonical number written with its plus normalises to itself**, whatever the country. -/
theorem normalizeMsisdn_e164 (countryCode : Option String) (h : Canonical digits) :
    (normalizeMsisdn countryCode ("+" ++ digits)).digits = some digits := by
  have hlist : ("+" ++ digits).toList = '+' :: digits.toList := by
    rw [String.toList_append]; rfl
  have hspace : ∀ c ∈ '+' :: digits.toList, isSpace c = false := by
    intro c hc
    rcases mem_cons.mp hc with rfl | hc
    · decide
    · exact isSpace_of_digit (h.all_digits c hc)
  have htrim : trim ("+" ++ digits) = "+" ++ digits := by
    rw [trim, hlist, trimChars_of_no_space hspace, ← hlist, ofList_toList]
  have hfound : digitsOnly (some ("+" ++ digits)) = digits := by
    rw [digitsOnly, Option.getD_some, Text.digits, hlist, filter_cons_of_neg (by decide),
      filter_eq_self.mpr fun c hc => by simpa using h.all_digits c hc, ofList_toList]
  have hinternational : internationalDigits countryCode ("+" ++ digits) = digits.toList := by
    rw [internationalDigits, hfound, hlist, head?_cons, if_pos rfl]
  have hne : "+" ++ digits ≠ "" := by
    intro heq
    rw [heq] at hlist
    cases hlist
  have hne' : digits ≠ "" := by
    intro heq
    exact h.ne_nil (by rw [heq]; rfl)
  rw [normalizeMsisdn, htrim, if_neg hne, hfound, if_neg hne', hinternational, acceptDigits,
    h.accepted, ofList_toList]

/-- The number a receiver stands for: its canonical digits when it is one, and otherwise the
receiver as it is written. -/
def canonicalReceiver (countryCode : Option String) (receiver : String) : String :=
  (normalizeMsisdn countryCode receiver).digits.getD receiver

theorem Canonical.head_ne_zero (h : Canonical digits) : digits.toList.head? ≠ some '0' := by
  intro hzero
  have haccepted := h.accepted
  rw [checkDigits] at haccepted
  split at haccepted
  · cases haccepted
  · split at haccepted
    · cases haccepted
    · cases haccepted

/-- A canonical number without its plus is in international form already. -/
theorem expandPrefix_canonical (cc : String) (h : Canonical digits) :
    expandPrefix cc digits.toList = digits.toList := by
  unfold expandPrefix
  split
  · next hzero => exact absurd (by rw [hzero]; rfl) h.head_ne_zero
  · next hzero => exact absurd (by rw [hzero]; rfl) h.head_ne_zero
  · rfl

theorem canonicalReceiver_canonical (countryCode : Option String) (h : Canonical digits) :
    canonicalReceiver countryCode digits = digits := by
  have hspace : ∀ c ∈ digits.toList, isSpace c = false :=
    fun c hc => isSpace_of_digit (h.all_digits c hc)
  have htrim : trim digits = digits := by
    rw [trim, trimChars_of_no_space hspace, ofList_toList]
  have hfound : digitsOnly (some digits) = digits := by
    rw [digitsOnly, Option.getD_some, Text.digits,
      filter_eq_self.mpr fun c hc => by simpa using h.all_digits c hc, ofList_toList]
  have hplus : digits.toList.head? ≠ some '+' := by
    intro hplus
    have := h.all_digits '+' (mem_of_mem_head? hplus)
    revert this
    decide
  have hinternational : internationalDigits countryCode digits = digits.toList := by
    rw [internationalDigits, hfound, if_neg hplus, expandPrefix_canonical _ h]
  have hne : digits ≠ "" := by
    intro heq
    exact h.ne_nil (by rw [heq]; rfl)
  rw [canonicalReceiver, normalizeMsisdn, htrim, if_neg hne, hfound, if_neg hne, hinternational,
    acceptDigits, h.accepted, ofList_toList, Option.getD_some]

theorem canonicalReceiver_e164 (countryCode : Option String) (h : Canonical digits) :
    canonicalReceiver countryCode ("+" ++ digits) = digits := by
  rw [canonicalReceiver, normalizeMsisdn_e164 countryCode h, Option.getD_some]

end Jkannel.Routing
