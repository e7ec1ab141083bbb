import Jkannel.Messaging.MoRouting
import Jkannel.Routing.Spellings

/-!
# What a spelling changes for an inbound rule

A rule and a message may write one number differently: behind a plus, behind `00`, or bare.  The
addresses of the message and the destination of the rule are compared in `canonicalAddress`, which
resolves the prefix of a number that can be dialled and otherwise only strips what is no digit; the
rule's sender prefix is stripped and never resolved.

* `canonicalAddress_write` is the one value of a spelling: the number, except for a number that is
  too short or too long and is written behind `00`.
* `SpeltAlike` is when two spellings therefore come out the same, and `digitsOnly_write_iff` when
  two spellings of a sender prefix do.
* `ruleMatches_respelled_iff` goes through the fields of a rule and of a message: writing one of
  them differently changes no match exactly when the two spellings come out the same there.
-/

namespace Jkannel.Messaging.Mo

open Routing (digitsOnly Number Spelling Dialable)
open Text (trim isSpace truthy_of_ne)

variable (text : TextEngine) (countryCode : Option String)

/-- Whether a stored rule matches a message, which is `compileMoRule` followed by `matchMoRule`. -/
def ruleMatches (row : MoRuleRow) (destinations : List MoDestinationRow)
    (context : MoMessageContext) : Bool :=
  (matchMoRule text countryCode (compileMoRule text countryCode row destinations) context).isSome

/-! ## One number, spelt -/

/-- The two spellings of a number come out as one address: the number can be dialled, or `00` stands
before both or neither. -/
def SpeltAlike (d : String) (s s' : Spelling) : Prop :=
  Dialable d ∨ (s = .international ↔ s' = .international)

instance (d : String) (s s' : Spelling) : Decidable (SpeltAlike d s s') :=
  inferInstanceAs (Decidable (_ ∨ _))

section Spelt

variable {d : String} (h : Number d)
include h

theorem write_ne_empty (s : Spelling) : s.write d ≠ "" := by
  intro hempty
  have hlist := String.toList_inj.mpr hempty
  cases s with
  | plus | international => rw [Spelling.write, String.toList_append] at hlist; cases hlist
  | bare => exact h.ne_empty hempty

theorem trim_write (s : Spelling) : trim (s.write d) = s.write d := by
  have hdigits : ∀ c ∈ d.toList, isSpace c = false :=
    fun c hc => Routing.isSpace_of_digit (h.all_digits c hc)
  have hspace : ∀ c ∈ (s.write d).toList, isSpace c = false := by
    have hplus : ∀ c ∈ "+".toList, isSpace c = false :=
      List.all_iff_forall_prop.mp (by decide)
    have hzeros : ∀ c ∈ "00".toList, isSpace c = false :=
      List.all_iff_forall_prop.mp (by decide)
    intro c hc
    cases s with
    | plus =>
      rw [Spelling.write, String.toList_append] at hc
      exact (List.mem_append.mp hc).elim (hplus c) (hdigits c)
    | international =>
      rw [Spelling.write, String.toList_append] at hc
      exact (List.mem_append.mp hc).elim (hzeros c) (hdigits c)
    | bare => exact hdigits c hc
  rw [trim, Routing.trimChars_of_no_space hspace, String.ofList_toList]

/-- The digits of a spelling: `00` is among them. -/
theorem digitsOnly_write (s : Spelling) :
    digitsOnly (some (s.write d)) = if s = .international then "00" ++ d else d := by
  cases s with
  | plus =>
    have hlist : ("+" ++ d).toList = '+' :: d.toList := by rw [String.toList_append]; rfl
    rw [if_neg (by decide), Spelling.write, ← String.toList_inj, Routing.toList_digitsOnly, hlist,
      List.filter_cons_of_neg (by decide), ← Routing.toList_digitsOnly,
      Routing.digitsOnly_of_digits h.all_digits]
  | international => exact Routing.digitsOnly_of_digits h.digits_zeros
  | bare => exact Routing.digitsOnly_of_digits h.all_digits

/-- **The address a spelling comes out as**: the number, save that the `00` of one that cannot be
dialled stays. -/
theorem canonicalAddress_write (s : Spelling) :
    canonicalAddress text countryCode (some (s.write d)) =
      if s = .international ∧ ¬ Dialable d then "00" ++ d else d := by
  rw [canonicalAddress, Option.getD_some, trim_write h, if_neg (write_ne_empty h s),
    Routing.normalizeMsisdn_spells h (s.write_spells h)]
  by_cases hdial : Dialable d
  · rw [Routing.acceptDigits_canonical (Routing.canonical_iff.mpr ⟨h, hdial⟩),
      truthy_of_ne h.ne_empty, if_neg fun hboth => hboth.2 hdial]
  · have hrefused : (Routing.acceptDigits (s.write d) d.toList).digits = none := by
      cases hcheck : Routing.checkDigits d.toList with
      | some problem => rw [Routing.acceptDigits, hcheck]
      | none =>
        exact absurd (Routing.canonical_iff.mp ⟨h.all_digits, hcheck⟩).2 hdial
    have hzeros : "00" ++ d ≠ "" := write_ne_empty h .international
    rw [hrefused]
    show (Text.truthy (some (digitsOnly (some (s.write d))))).getD _ = _
    rw [digitsOnly_write h]
    by_cases hs : s = .international
    · rw [if_pos hs, if_pos ⟨hs, hdial⟩, truthy_of_ne hzeros, Option.getD_some]
    · rw [if_neg hs, if_neg fun hboth => hs hboth.1, truthy_of_ne h.ne_empty, Option.getD_some]

omit h in
theorem zeros_ne : "00" ++ d ≠ d := by
  intro heq
  have hlist := congrArg (fun s => s.toList.length) heq
  simp only [String.toList_append, List.length_append] at hlist
  have : "00".toList.length = 2 := rfl
  omega

theorem canonicalAddress_write_iff (s s' : Spelling) :
    canonicalAddress text countryCode (some (s.write d)) =
      canonicalAddress text countryCode (some (s'.write d)) ↔ SpeltAlike d s s' := by
  rw [canonicalAddress_write text countryCode h, canonicalAddress_write text countryCode h,
    SpeltAlike]
  by_cases hdial : Dialable d
  · simp [hdial]
  · by_cases hs : s = .international <;> by_cases hs' : s' = .international <;>
      simp [hs, hs', hdial, zeros_ne.symm]

theorem digitsOnly_write_iff (s s' : Spelling) :
    digitsOnly (some (s.write d)) = digitsOnly (some (s'.write d)) ↔
      (s = .international ↔ s' = .international) := by
  rw [digitsOnly_write h, digitsOnly_write h]
  by_cases hs : s = .international <;> by_cases hs' : s' = .international <;>
    simp [hs, hs', zeros_ne.symm]

/-- Behind `00`, the digits of a number do not begin with it, nor it with them. -/
theorem not_isPrefixOf_zeros : d.toList.isPrefixOf ("00" ++ d).toList = false ∧
    ("00" ++ d).toList.isPrefixOf d.toList = false := by
  have hlist : ("00" ++ d).toList = '0' :: '0' :: d.toList := by rw [String.toList_append]; rfl
  rw [hlist]
  cases hd : d.toList with
  | nil => exact absurd (String.toList_inj.mp hd) h.ne_empty
  | cons c cs =>
    have hzero : c ≠ '0' := fun hc => h.head_ne_zero (by rw [hd, hc]; rfl)
    refine ⟨?_, ?_⟩
    · rw [List.isPrefixOf, beq_false_of_ne hzero, Bool.false_and]
    · rw [List.isPrefixOf, beq_false_of_ne hzero.symm, Bool.false_and]

end Spelt

/-! ## What a match reads of an address -/

variable {text} {countryCode}

variable {row : MoRuleRow} {destinations : List MoDestinationRow} {context : MoMessageContext}
  {a b : String}

section

variable (h : canonicalAddress text countryCode (some a) = canonicalAddress text countryCode (some b))
include h

/-- A match reads the sender by its canonical form. -/
theorem ruleMatches_sender :
    ruleMatches text countryCode row destinations { context with sender := a } =
      ruleMatches text countryCode row destinations { context with sender := b } := by
  simp only [ruleMatches, matchMoRule, criteria, smscCriterion, destinationCriterion,
    senderCriterion, keywordCriterion, h]

/-- A match reads the receiver by its canonical form. -/
theorem ruleMatches_receiver :
    ruleMatches text countryCode row destinations { context with receiver := a } =
      ruleMatches text countryCode row destinations { context with receiver := b } := by
  simp only [ruleMatches, matchMoRule, criteria, smscCriterion, destinationCriterion,
    senderCriterion, keywordCriterion, h]

end

/-- A rule is compiled with the canonical form of its destination. -/
theorem ruleMatches_destination (row : MoRuleRow) (ha : a ≠ "") (hb : b ≠ "")
    (h : canonicalAddress text countryCode (some a) = canonicalAddress text countryCode (some b)) :
    ruleMatches text countryCode { row with matchDestination := some a } destinations context =
      ruleMatches text countryCode { row with matchDestination := some b } destinations
        context := by
  simp only [ruleMatches, compileMoRule, truthy_of_ne ha, truthy_of_ne hb, Option.map_some, h]

/-- A rule is compiled with the digits of its sender prefix. -/
theorem ruleMatches_senderPrefix (ha : a ≠ "") (hb : b ≠ "")
    (h : digitsOnly (some a) = digitsOnly (some b)) :
    ruleMatches text countryCode { row with matchSenderPrefix := some a } destinations context =
      ruleMatches text countryCode { row with matchSenderPrefix := some b } destinations
        context := by
  simp only [ruleMatches, compileMoRule, truthy_of_ne ha, truthy_of_ne hb, Option.map_some, h]

/-! ## Rules with one criterion -/

/-- A rule that matches every message. -/
def catchAll : MoRuleRow where
  id := ""
  name := ""
  priority := 0
  createdAt := 0

/-- A message from one address to another. -/
def messageBetween (sender receiver : String) : MoMessageContext where
  smscId := none
  sender := sender
  receiver := receiver
  body := ""

section OneCriterion

variable {sender receiver : String} (ha : a ≠ "")
include ha

theorem ruleMatches_onlySender (hdigits : digitsOnly (some a) ≠ "") :
    ruleMatches text countryCode { catchAll with matchSenderPrefix := some a } []
        (messageBetween sender receiver) =
      (digitsOnly (some a)).toList.isPrefixOf
        (canonicalAddress text countryCode (some sender)).toList := by
  have hcompiled : (compileMoRule text countryCode
      { catchAll with matchSenderPrefix := some a } []).senderPrefix =
        some (digitsOnly (some a)) := by
    rw [compileMoRule, truthy_of_ne ha]
    rfl
  have hsender : senderCriterion text countryCode
      (compileMoRule text countryCode { catchAll with matchSenderPrefix := some a } [])
      (messageBetween sender receiver) =
        if (digitsOnly (some a)).toList.isPrefixOf
          (canonicalAddress text countryCode (some sender)).toList
        then .met ("sender prefix " ++ digitsOnly (some a)) else .failed := by
    rw [senderCriterion, hcompiled, truthy_of_ne hdigits]
    rfl
  rw [ruleMatches, matchMoRule, criteria, hsender]
  by_cases hprefixed : (digitsOnly (some a)).toList.isPrefixOf
      (canonicalAddress text countryCode (some sender)).toList = true
  · rw [if_pos hprefixed, hprefixed]
    rfl
  · rw [if_neg hprefixed, Bool.eq_false_iff.mpr hprefixed]
    rfl

section

variable (haddress : canonicalAddress text countryCode (some a) ≠ "")
include haddress

theorem ruleMatches_onlyExact :
    ruleMatches text countryCode
        { catchAll with matchDestination := some a, matchDestinationType := .exact } []
        (messageBetween sender receiver) =
      decide (canonicalAddress text countryCode (some receiver) =
        canonicalAddress text countryCode (some a)) := by
  have hcompiled : (compileMoRule text countryCode
      { catchAll with matchDestination := some a, matchDestinationType := .exact }
        []).destination = some (canonicalAddress text countryCode (some a)) := by
    rw [compileMoRule, truthy_of_ne ha]
    rfl
  have hreceiver : destinationCriterion text countryCode
      (compileMoRule text countryCode
        { catchAll with matchDestination := some a, matchDestinationType := .exact } [])
      (messageBetween sender receiver) =
        if canonicalAddress text countryCode (some receiver) =
          canonicalAddress text countryCode (some a)
        then .met ("destination exact " ++ canonicalAddress text countryCode (some a))
        else .failed := by
    rw [destinationCriterion, hcompiled, truthy_of_ne haddress]
    rfl
  rw [ruleMatches, matchMoRule, criteria, hreceiver]
  by_cases heq : canonicalAddress text countryCode (some receiver) =
      canonicalAddress text countryCode (some a)
  · rw [if_pos heq, decide_eq_true heq]
    rfl
  · rw [if_neg heq, decide_eq_false heq]
    rfl

theorem ruleMatches_onlyPrefixed :
    ruleMatches text countryCode
        { catchAll with matchDestination := some a, matchDestinationType := .prefixed } []
        (messageBetween sender receiver) =
      (canonicalAddress text countryCode (some a)).toList.isPrefixOf
        (canonicalAddress text countryCode (some receiver)).toList := by
  have hcompiled : (compileMoRule text countryCode
      { catchAll with matchDestination := some a, matchDestinationType := .prefixed }
        []).destination = some (canonicalAddress text countryCode (some a)) := by
    rw [compileMoRule, truthy_of_ne ha]
    rfl
  have hreceiver : destinationCriterion text countryCode
      (compileMoRule text countryCode
        { catchAll with matchDestination := some a, matchDestinationType := .prefixed } [])
      (messageBetween sender receiver) =
        if (canonicalAddress text countryCode (some a)).toList.isPrefixOf
          (canonicalAddress text countryCode (some receiver)).toList
        then .met ("destination prefix " ++ canonicalAddress text countryCode (some a))
        else .failed := by
    rw [destinationCriterion, hcompiled, truthy_of_ne haddress]
    rfl
  rw [ruleMatches, matchMoRule, criteria, hreceiver]
  by_cases hprefixed : (canonicalAddress text countryCode (some a)).toList.isPrefixOf
      (canonicalAddress text countryCode (some receiver)).toList = true
  · rw [if_pos hprefixed, hprefixed]
    rfl
  · rw [if_neg hprefixed, Bool.eq_false_iff.mpr hprefixed]
    rfl

end

end OneCriterion

/-! ## The fields of a rule and of a message -/

section Fields

variable {d : String} (h : Number d) (s s' : Spelling)
include h

theorem canonicalAddress_write_ne (s : Spelling) :
    canonicalAddress text countryCode (some (s.write d)) ≠ "" := by
  rw [canonicalAddress_write text countryCode h]
  split
  · exact write_ne_empty h .international
  · exact h.ne_empty

theorem digitsOnly_write_ne (s : Spelling) : digitsOnly (some (s.write d)) ≠ "" := by
  rw [digitsOnly_write h]
  split
  · exact write_ne_empty h .international
  · exact h.ne_empty

theorem canonicalAddress_bare : canonicalAddress text countryCode (some d) = d :=
  (canonicalAddress_write text countryCode h .bare).trans (if_neg fun hboth => by cases hboth.1)

/-- A number begins with itself and with no number behind `00`, so a comparison of beginnings with
it tells the two apart. -/
theorem isPrefixOf_tells {a b : String} (ha : a = d ∨ a = "00" ++ d) (hb : b = d ∨ b = "00" ++ d)
    (hsame : a.toList.isPrefixOf d.toList = b.toList.isPrefixOf d.toList) : a = b := by
  have hself : d.toList.isPrefixOf d.toList = true :=
    List.isPrefixOf_iff_prefix.mpr (List.prefix_refl _)
  rcases ha with rfl | rfl <;> rcases hb with rfl | rfl
  · rfl
  · rw [hself, (not_isPrefixOf_zeros h).2] at hsame
    cases hsame
  · rw [hself, (not_isPrefixOf_zeros h).2] at hsame
    cases hsame
  · rfl

theorem canonicalAddress_cases (s : Spelling) :
    canonicalAddress text countryCode (some (s.write d)) = d ∨
      canonicalAddress text countryCode (some (s.write d)) = "00" ++ d := by
  rw [canonicalAddress_write text countryCode h]
  split
  · exact .inr rfl
  · exact .inl rfl

theorem digitsOnly_cases (s : Spelling) :
    digitsOnly (some (s.write d)) = d ∨ digitsOnly (some (s.write d)) = "00" ++ d := by
  rw [digitsOnly_write h]
  split
  · exact .inr rfl
  · exact .inl rfl

theorem sender_respelled :
    (∀ (row : MoRuleRow) (destinations : List MoDestinationRow) (context : MoMessageContext),
      ruleMatches text countryCode row destinations { context with sender := s.write d } =
        ruleMatches text countryCode row destinations { context with sender := s'.write d }) ↔
      SpeltAlike d s s' := by
  rw [← canonicalAddress_write_iff text countryCode h]
  refine ⟨fun hsame => ?_, fun heq row destinations context => ruleMatches_sender heq⟩
  have hdigits : digitsOnly (some d) = d := Routing.digitsOnly_of_digits h.all_digits
  have hmatch := hsame { catchAll with matchSenderPrefix := some d } [] (messageBetween "" "")
  have hone : ∀ t : Spelling, ruleMatches text countryCode
      { catchAll with matchSenderPrefix := some d } []
      { messageBetween "" "" with sender := t.write d } =
        d.toList.isPrefixOf (canonicalAddress text countryCode (some (t.write d))).toList := by
    intro t
    exact (ruleMatches_onlySender h.ne_empty (by rw [hdigits]; exact h.ne_empty)).trans
      (by rw [hdigits])
  rw [hone, hone] at hmatch
  have hself : d.toList.isPrefixOf d.toList = true :=
    List.isPrefixOf_iff_prefix.mpr (List.prefix_refl _)
  rcases canonicalAddress_cases h s with ha | ha <;> rcases canonicalAddress_cases h s' with hb | hb
  · rw [ha, hb]
  · rw [ha, hb, hself, (not_isPrefixOf_zeros h).1] at hmatch
    cases hmatch
  · rw [ha, hb, hself, (not_isPrefixOf_zeros h).1] at hmatch
    cases hmatch
  · rw [ha, hb]

theorem receiver_respelled :
    (∀ (row : MoRuleRow) (destinations : List MoDestinationRow) (context : MoMessageContext),
      ruleMatches text countryCode row destinations { context with receiver := s.write d } =
        ruleMatches text countryCode row destinations { context with receiver := s'.write d }) ↔
      SpeltAlike d s s' := by
  rw [← canonicalAddress_write_iff text countryCode h]
  refine ⟨fun hsame => ?_, fun heq row destinations context => ruleMatches_receiver heq⟩
  have hmatch := hsame
    { catchAll with matchDestination := some (s.write d), matchDestinationType := .exact } []
    (messageBetween "" "")
  have hone : ∀ t : Spelling, ruleMatches text countryCode
      { catchAll with matchDestination := some (s.write d), matchDestinationType := .exact } []
      { messageBetween "" "" with receiver := t.write d } =
        decide (canonicalAddress text countryCode (some (t.write d)) =
          canonicalAddress text countryCode (some (s.write d))) :=
    fun t => ruleMatches_onlyExact (write_ne_empty h s) (canonicalAddress_write_ne h s)
  rw [hone, hone, decide_eq_true rfl] at hmatch
  exact (of_decide_eq_true hmatch.symm).symm

theorem destination_respelled :
    (∀ (row : MoRuleRow) (destinations : List MoDestinationRow) (context : MoMessageContext),
      ruleMatches text countryCode
          { row with matchDestination := some (s.write d), matchDestinationType := .exact }
          destinations context =
        ruleMatches text countryCode
          { row with matchDestination := some (s'.write d), matchDestinationType := .exact }
          destinations context) ↔
      SpeltAlike d s s' := by
  rw [← canonicalAddress_write_iff text countryCode h]
  refine ⟨fun hsame => ?_, fun heq row destinations context =>
    ruleMatches_destination { row with matchDestinationType := .exact } (write_ne_empty h s)
      (write_ne_empty h s') heq⟩
  have hmatch := hsame catchAll [] (messageBetween "" (s.write d))
  rw [ruleMatches_onlyExact (write_ne_empty h s) (canonicalAddress_write_ne h s),
    ruleMatches_onlyExact (write_ne_empty h s') (canonicalAddress_write_ne h s'),
    decide_eq_true rfl] at hmatch
  exact of_decide_eq_true hmatch.symm

theorem destinationPrefix_respelled :
    (∀ (row : MoRuleRow) (destinations : List MoDestinationRow) (context : MoMessageContext),
      ruleMatches text countryCode
          { row with matchDestination := some (s.write d), matchDestinationType := .prefixed }
          destinations context =
        ruleMatches text countryCode
          { row with matchDestination := some (s'.write d), matchDestinationType := .prefixed }
          destinations context) ↔
      SpeltAlike d s s' := by
  rw [← canonicalAddress_write_iff text countryCode h]
  refine ⟨fun hsame => ?_, fun heq row destinations context =>
    ruleMatches_destination { row with matchDestinationType := .prefixed } (write_ne_empty h s)
      (write_ne_empty h s') heq⟩
  have hmatch := hsame catchAll [] (messageBetween "" d)
  rw [ruleMatches_onlyPrefixed (write_ne_empty h s) (canonicalAddress_write_ne h s),
    ruleMatches_onlyPrefixed (write_ne_empty h s') (canonicalAddress_write_ne h s'),
    canonicalAddress_bare h] at hmatch
  exact isPrefixOf_tells h (canonicalAddress_cases h s) (canonicalAddress_cases h s') hmatch

theorem senderPrefix_respelled :
    (∀ (row : MoRuleRow) (destinations : List MoDestinationRow) (context : MoMessageContext),
      ruleMatches text countryCode { row with matchSenderPrefix := some (s.write d) }
          destinations context =
        ruleMatches text countryCode { row with matchSenderPrefix := some (s'.write d) }
          destinations context) ↔
      (s = .international ↔ s' = .international) := by
  rw [← digitsOnly_write_iff h]
  refine ⟨fun hsame => ?_, fun heq row destinations context =>
    ruleMatches_senderPrefix (write_ne_empty h s) (write_ne_empty h s') heq⟩
  have hmatch := hsame catchAll [] (messageBetween d "")
  rw [ruleMatches_onlySender (write_ne_empty h s) (digitsOnly_write_ne h s),
    ruleMatches_onlySender (write_ne_empty h s') (digitsOnly_write_ne h s'),
    canonicalAddress_bare h] at hmatch
  exact isPrefixOf_tells h (digitsOnly_cases h s) (digitsOnly_cases h s') hmatch

end Fields

/-- The fields of a rule and of a message that hold a number. -/
inductive SpeltField where
  | sender | receiver | destination | destinationPrefix | senderPrefix

/-- A rule and a message with a value put into a field. -/
def SpeltField.put (value : String) (row : MoRuleRow) (context : MoMessageContext) :
    SpeltField → MoRuleRow × MoMessageContext
  | .sender => (row, { context with sender := value })
  | .receiver => (row, { context with receiver := value })
  | .destination =>
    ({ row with matchDestination := some value, matchDestinationType := .exact }, context)
  | .destinationPrefix =>
    ({ row with matchDestination := some value, matchDestinationType := .prefixed }, context)
  | .senderPrefix => ({ row with matchSenderPrefix := some value }, context)

/-- Two values of a field change no match. -/
def Indifferent (text : TextEngine) (countryCode : Option String) (field : SpeltField)
    (a b : String) : Prop :=
  ∀ (row : MoRuleRow) (destinations : List MoDestinationRow) (context : MoMessageContext),
    ruleMatches text countryCode (field.put a row context).1 destinations
        (field.put a row context).2 =
      ruleMatches text countryCode (field.put b row context).1 destinations
        (field.put b row context).2

/-- Two spellings of a number come out the same in a field. -/
def SpeltField.Alike (d : String) (s s' : Spelling) : SpeltField → Prop
  | .senderPrefix => s = .international ↔ s' = .international
  | _ => SpeltAlike d s s'

/-- **Which spellings a rule and a message tell apart.**  For every number, default country code
and two spellings: in the sender and the receiver of a message, and in the exact destination and
the destination prefix of a rule, writing one for the other changes no match exactly when the
number can be dialled or `00` stands before both or neither; in the sender prefix of a rule, exactly
when `00` stands before both or neither, whatever the number. -/
theorem ruleMatches_respelled_iff (text : TextEngine) (countryCode : Option String) (d : String)
    (h : Number d) (field : SpeltField) (s s' : Spelling) :
    Indifferent text countryCode field (s.write d) (s'.write d) ↔ field.Alike d s s' := by
  cases field with
  | sender => exact sender_respelled h s s'
  | receiver => exact receiver_respelled h s s'
  | destination => exact destination_respelled h s s'
  | destinationPrefix => exact destinationPrefix_respelled h s s'
  | senderPrefix => exact senderPrefix_respelled h s s'

/-- A number that can be dialled is one number in a message, whichever way it is written. -/
theorem ruleMatches_respelled_iff_uganda :
    Indifferent TextEngine.ascii (some "256") .sender ("00" ++ "256700000000")
      ("+" ++ "256700000000") :=
  (ruleMatches_respelled_iff TextEngine.ascii (some "256") "256700000000" Routing.number_uganda
    .sender .international .plus).mpr (.inl (by decide))

/-- A rule for the senders `00256700` does not see a sender that one for `+256700` sees. -/
theorem zeros_hide_sender :
    ¬ Indifferent TextEngine.ascii (some "256") .senderPrefix ("00" ++ "256700")
      ("+" ++ "256700") := by
  intro hsame
  have hmatch := hsame catchAll [] (messageBetween "256700000000" "8080")
  revert hmatch
  decide

end Jkannel.Messaging.Mo
