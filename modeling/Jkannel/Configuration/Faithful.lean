import Jkannel.Configuration.Rendering
import Jkannel.Lib.Transaction

/-!
# When a configuration is rendered faithfully

A model that is accepted has most of its strings screened, and a screened string is written and
read back as it is.  The ones that are written and not screened decide: the type and the name of a
link, the aliases of a service, the host and database of SQLBox and its two variables, what the
delivery reports are stored in, and the variable that each reference maps onto.

* `Clean` is the condition on these.
* `generated_faithful_iff` says that it is exact.
-/

namespace Jkannel.Configuration

open List
open Directives

/-! ## The condition -/

/-- A string that is written bare, is read back and brings no word of its own. -/
structure Plain (s : String) : Prop extends Bare s where
  word : ¬ Mentions includeWord s.toList

/-- A list that is written bare, is read back and brings no word of its own. -/
structure PlainList (entries : List String) : Prop extends Listed entries where
  quoted : ¬ Quoted (join entries).toList
  word : ∀ e ∈ entries, ¬ Mentions includeWord e.toList

/-- A reference to a variable whose name does not have the word in it. -/
def QuietSecret (env : Runtime) (reference : String) : Prop :=
  ∀ name, envName env reference = .ok name → ¬ Mentions includeWord name.toList

/-- A link of a kind that has credentials. -/
def hasCredentials (smsc : EngineSmsc) : Prop := smsc.type = "smpp" ∨ smsc.type = "http"

/-- What the strings that are written and not screened have to be. -/
structure Clean (env : Runtime) (model : EngineConfiguration) : Prop where
  type : ∀ smsc ∈ model.smsc, smsc.enabled = true → Plain smsc.type
  username : ∀ smsc ∈ model.smsc, smsc.enabled = true → hasCredentials smsc →
    Text.truthy smsc.usernameSecretRef = none → ∀ s, smsc.username = some s → Plain s
  aliases : ∀ service ∈ model.services, service.aliases.getD [] ≠ [] →
    PlainList (service.aliases.getD [])
  sqlbox : ∀ sqlbox, model.sqlbox = some sqlbox → sqlbox.enabled = true →
    Plain sqlbox.host ∧ Plain sqlbox.database ∧
      ¬ Mentions includeWord sqlbox.usernameEnv.toList ∧
      ¬ Mentions includeWord sqlbox.passwordEnv.toList
  storage : ∀ storage, model.dlrStorage = some storage → Plain storage.type
  connection : ∀ storage, model.dlrStorage = some storage →
    storage.type = "pgsql" ∨ storage.type = "mysql" →
      (∀ s, storage.connectionId = some s → Plain s) ∧ ∀ s, storage.table = some s → Plain s
  adminSecret : QuietSecret env model.adminSecretRef
  statusSecret : QuietSecret env (model.statusSecretRef.getD DEFAULT_STATUS_SECRET_REF)
  smscSecrets : ∀ smsc ∈ model.smsc, smsc.enabled = true → hasCredentials smsc →
    ∀ reference, Text.truthy smsc.usernameSecretRef = some reference ∨
      Text.truthy smsc.passwordSecretRef = some reference → QuietSecret env reference
  userSecrets : ∀ user ∈ model.users, QuietSecret env user.passwordSecretRef

/-! ## The calls -/

/-- A call that reads and is quiet. -/
def Emit.Fine (c : Emit) : Prop := c.Reads ∧ c.Quiet

def Value.Plain : Value → Prop
  | .text s => Configuration.Plain s
  | _ => True

variable {s : String} {o : Option String} {entries : List String} {smsc : EngineSmsc}
  {env : Runtime} {model : EngineConfiguration} {sections : List Section} {engine : SupportedEngine}
  {requireSecrets : Option Bool} {generated : GeneratedConfiguration} {key : String} {α β ε : Type}
  {l' : List β} {ok : isSingleKey key = true} {f : α → Except ε β} {seen : List String}

theorem Screened.plain (h : Screened s) : Plain s :=
  ⟨⟨h.newline, not_quoted_of_not_mem h.quote⟩, h.word⟩

theorem plain_empty : Plain "" := screened_empty.plain

theorem quiet_iff {c : Emit} {i : Item} (h : c.item = some i) :
    c.Quiet ↔ ¬ Mentions includeWord i.line.toList := by
  constructor
  · exact fun hq => hq i h
  · intro hi j hj
    rw [h] at hj
    exact Option.some.inj hj ▸ hi

theorem quiet_of_none {c : Emit} (h : c.item = none) : c.Quiet := fun i hi => by
  rw [h] at hi
  cases hi

theorem mentions_own {key value : String} (hkey : isOwnKey key = true) :
    Mentions includeWord (assign key value).toList ↔ Mentions includeWord value.toList := by
  rw [mentions_assign (by decide) (by decide) (by decide)]
  exact or_iff_right (isKey_of_own hkey).2.2

theorem mentions_join (entries : List String) :
    Mentions includeWord (join entries).toList ↔ ∃ e ∈ entries, Mentions includeWord e.toList := by
  rw [join_toList, mentions_intercalate (by decide) (by decide)]
  simp

/-- The word is in no number. -/
theorem number_word (n : JsNumber) : ¬ Mentions includeWord n.text.toList :=
  not_mentions_of_not_mem (c := 'c') (by decide)
    fun d hd => JsNumber.toLower_ne_of_numeral (n.numeral_of_mem_text d hd)

theorem Value.not_mentions {v : Value} (h : v.Plain) :
    ¬ Mentions includeWord v.written.toList := by
  cases v with
  | text s => exact h.word
  | number n => exact number_word n
  | flag b => cases b <;> decide
  | emptyLiteral => decide

/-- **A bare call** is fine when its string is plain. -/
theorem fine_push {value : Option Value} :
    (Emit.push key value ok).Fine ↔ ∀ v, value = some v → v.Plain := by
  have hkey := (ownKey_of_single ok).1
  constructor
  · rintro ⟨hreads, hquiet⟩ v rfl
    cases v with
    | text s =>
      by_cases hempty : s = ""
      · exact hempty ▸ plain_empty
      · have hitem : (Emit.push key (some (.text s)) ok).item = some (.bare key s) := by
          simp [Emit.item, Value.isEmpty, hempty, Value.written]
        exact ⟨hreads s rfl, (mentions_own hkey).not.mp ((quiet_iff hitem).mp hquiet)⟩
    | _ => trivial
  · intro h
    refine ⟨fun s hs => (h _ hs).toBare, ?_⟩
    cases value with
    | none => exact quiet_of_none rfl
    | some v =>
      by_cases hempty : v.isEmpty = true
      · exact quiet_of_none (by simp [Emit.item, hempty])
      · have hitem : (Emit.push key (some v) ok).item = some (.bare key v.written) := by
          simp [Emit.item, hempty]
        exact (quiet_iff hitem).mpr ((mentions_own hkey).not.mpr (Value.not_mentions (h v rfl)))

@[simp] theorem fine_text :
    (Emit.push key (text s) ok).Fine ↔ Plain s := by
  simp [fine_push, text, Value.Plain]

@[simp] theorem fine_textOf :
    (Emit.push key (textOf o) ok).Fine ↔ ∀ s, o = some s → Plain s := by
  cases o <;> simp [fine_push, textOf, Value.Plain]

@[simp] theorem fine_number {n : JsNumber} :
    (Emit.push key (some (.number n)) ok).Fine ↔ True := by
  simp [fine_push, Value.Plain]

@[simp] theorem fine_numberOf {n : Option JsNumber} :
    (Emit.push key (numberOf n) ok).Fine ↔ True := by
  cases n <;> simp [fine_push, numberOf, Value.Plain]

@[simp] theorem fine_flagOf {b : Option Bool} :
    (Emit.push key (flagOf b) ok).Fine ↔ True := by
  cases b <;> simp [fine_push, flagOf, Value.Plain]

@[simp] theorem fine_pushList {ok : isManyKey key = true} :
    (Emit.pushList key entries ok).Fine ↔ PlainList entries := by
  have hkey := (ownKey_of_many ok).1
  have hquiet : Listed entries → ((Emit.pushList key entries ok).Quiet ↔
      ∀ e ∈ entries, ¬ Mentions includeWord e.toList) := by
    intro hlisted
    have hne : join entries ≠ "" := fun heq =>
      (join_eq_empty heq).elim hlisted.nonempty hlisted.single
    have hitem : (Emit.pushList key entries ok).item = some (.bare key (join entries)) :=
      if_neg hne
    rw [quiet_iff hitem, show (Item.bare key (join entries)).line = assign key (join entries) from rfl,
      mentions_own hkey, mentions_join]
    simp
  constructor
  · rintro ⟨⟨hlisted, hquoted⟩, hq⟩
    exact ⟨hlisted, hquoted, (hquiet hlisted).mp hq⟩
  · intro h
    exact ⟨⟨h.toListed, h.quoted⟩, (hquiet h.toListed).mpr h.word⟩

theorem quote_of_screened (h : Screened s) : quote s.toList = '"' :: (s.toList ++ ['"']) := by
  rw [quote, flatMap_escapeChar h.quote h.backslash]

theorem quiet_quoted (hkey : isOwnKey key = true) (h : Screened s) :
    ¬ Mentions includeWord (Item.quoted key s).line.toList := by
  show ¬ Mentions includeWord (assign key _).toList
  rw [mentions_own hkey, String.toList_ofList, quote_of_screened h,
    mentions_cons (by decide) (by decide), mentions_append_cons (by decide) (by decide)]
  exact not_or.mpr ⟨h.word, by decide⟩

/-- **A quoted call** is fine when its string is screened. -/
theorem fine_quoted (h : ∀ s, o = some s → Screened s) : (Emit.quoted key o ok).Fine := by
  refine ⟨fun s hs => (h s hs).newline, ?_⟩
  cases o with
  | none => exact quiet_of_none rfl
  | some s =>
    by_cases hempty : s = ""
    · exact quiet_of_none (by simp [Emit.item, hempty])
    · have hitem : (Emit.quoted key (some s) ok).item = some (.quoted key s) := by
        simp [Emit.item, hempty]
      exact (quiet_iff hitem).mpr (quiet_quoted (ownKey_of_single ok).1 (h s rfl))

theorem screened_join (h : ∀ e ∈ entries, Screened e) : Screened (join entries) := by
  have hnot : ∀ c : Char, c ≠ ';' → (∀ e ∈ entries, c ∉ e.toList) → c ∉ (join entries).toList := by
    intro c hc he hmem
    rw [join_toList] at hmem
    rcases mem_intercalate_cases hmem with rfl | ⟨piece, hp, hpiece⟩
    · exact hc rfl
    · obtain ⟨e, hmem, rfl⟩ := mem_map.mp hp
      exact he e hmem hpiece
  refine ⟨hnot _ (by decide) fun e he => (h e he).newline,
    hnot _ (by decide) fun e he => (h e he).quote,
    hnot _ (by decide) fun e he => (h e he).backslash, ?_⟩
  rw [mentions_join]
  rintro ⟨e, he, hword⟩
  exact (h e he).word hword

theorem fine_quotedList {ok : isManyKey key = true} (hlisted : Listed entries)
    (h : ∀ e ∈ entries, Screened e) : (Emit.quotedList key entries ok).Fine := by
  refine ⟨hlisted, ?_⟩
  have hne : join entries ≠ "" := fun heq =>
    (join_eq_empty heq).elim hlisted.nonempty hlisted.single
  have hitem : (Emit.quotedList key entries ok).item = some (.quoted key (join entries)) :=
    if_neg hne
  exact (quiet_iff hitem).mpr (quiet_quoted (ownKey_of_many ok).1 (screened_join h))

/-! ## What an accepted model has -/

theorem ofOption_eq_string (h : o = some s) : Unknown.ofOption o = .string s := by
  rw [h]
  rfl

/-- The strings of an accepted model that are screened, and its lists. -/
structure Accepted (model : EngineConfiguration) : Prop where
  smsc : ∀ smsc ∈ model.smsc, ∀ field s, (field, .string s) ∈ smscEntries smsc → Screened s
  lists : ∀ smsc ∈ model.smsc, ∀ list ∈ ROUTING_LISTS, ∀ e ∈ (list.list smsc).getD [],
    Screened e ∧ Text.trim e ≠ "" ∧ ';' ∉ e.toList
  smsbox : ∀ smsbox, model.smsbox = some smsbox → ∀ field s,
    (field, .string s) ∈ smsboxEntries smsbox → Screened s
  users : ∀ user ∈ model.users, ∃ index, ∀ field s,
    (field, .string s) ∈ userEntries index user → Screened s
  services : ∀ service ∈ model.services, ∃ index, ∀ field s,
    (field, .string s) ∈ serviceEntries index service → Screened s
  environment : ∀ sqlbox, model.sqlbox = some sqlbox → sqlbox.enabled = true →
    isEnvName sqlbox.usernameEnv.toList = true ∧ isEnvName sqlbox.passwordEnv.toList = true

theorem validateSmsc_of_mem {l : List EngineSmsc}
    (h : validateSmscs seen l = []) (hmem : smsc ∈ l) : ∃ seen, validateSmsc seen smsc = [] := by
  induction l generalizing seen with
  | nil => cases hmem
  | cons first rest ih =>
    rw [validateSmscs, append_eq_nil_iff] at h
    rcases mem_cons.mp hmem with rfl | hmem
    · exact ⟨seen, h.1⟩
    · exact ih h.2 hmem

theorem entry_ok (h : validateSmsc seen smsc = []) {list : RoutingList}
    (hlist : list ∈ ROUTING_LISTS) {e : String} (he : e ∈ (list.list smsc).getD []) :
    Text.trim e ≠ "" ∧ ';' ∉ e.toList := by
  simp only [validateSmsc, validateSmscAttributes, validateSmscRouting, append_eq_nil_iff,
    flatMap_eq_nil_iff] at h
  have hentry := h.2.1.1.2.1 list hlist e he
  rw [validateEntry] at hentry
  split at hentry
  · cases hentry
  · rename_i htrim
    exact ⟨htrim, fails_eq_nil.mp hentry⟩

/-- **What is known of an accepted model.** -/
theorem accepted_of_validate (h : validate env model = []) : Accepted model := by
  simp only [validate, append_eq_nil_iff] at h
  obtain ⟨⟨⟨⟨-, hsqlbox⟩, hsmscs⟩, -⟩, hvalues⟩ := h
  rw [validateRenderedValues, map_eq_nil_iff] at hvalues
  have hscreened := fun field s =>
    show (field, Unknown.string s) ∈ _ → Screened s from screened_of_collect hvalues
  simp only [mem_append] at hscreened
  have hsmsc : ∀ smsc ∈ model.smsc, ∀ field s,
      (field, .string s) ∈ smscEntries smsc → Screened s := fun smsc hmem field s hs =>
    hscreened field s (.inl (.inl (.inl (mem_flatMap.mpr ⟨smsc, hmem, hs⟩))))
  refine ⟨hsmsc, fun smsc hmem list hlist e he => ?_, fun smsbox hbox field s hs => ?_,
    fun user hmem => ?_, fun service hmem => ?_, fun sqlbox hbox henabled => ?_⟩
  · obtain ⟨seen, hvalid⟩ := validateSmsc_of_mem hsmscs hmem
    refine ⟨?_, entry_ok hvalid hlist he⟩
    obtain ⟨index, hlt, rfl⟩ := getElem_of_mem he
    refine hsmsc smsc hmem s!"{smsc.id}.{list.field}[{index}]" _ (mem_append_right _ ?_)
    exact mem_flatMap.mpr ⟨list, hlist, mem_mapIdx.mpr ⟨index, hlt, rfl⟩⟩
  · refine hscreened field s (.inl (.inl (.inr (mem_flatMap.mpr ⟨smsbox, ?_, hs⟩))))
    rw [hbox]
    exact mem_singleton_self _
  · obtain ⟨index, hlt, rfl⟩ := getElem_of_mem hmem
    refine ⟨index, fun field s hs => hscreened field s (.inl (.inr ?_))⟩
    exact mem_flatten.mpr ⟨_, mem_mapIdx.mpr ⟨index, hlt, rfl⟩, hs⟩
  · obtain ⟨index, hlt, rfl⟩ := getElem_of_mem hmem
    refine ⟨index, fun field s hs => hscreened field s (.inr ?_)⟩
    exact mem_flatten.mpr ⟨_, mem_mapIdx.mpr ⟨index, hlt, rfl⟩, hs⟩
  · rw [hbox] at hsqlbox
    simp only [henabled, if_pos, append_eq_nil_iff, fails_eq_nil] at hsqlbox
    have hvariables := hsqlbox.2
    simp only [isEnvironmentVariable, Bool.or_eq_true, Bool.not_eq_true', Bool.and_eq_false_iff,
      not_or, Bool.not_eq_false] at hvariables
    exact ⟨hvariables.1.1, hvariables.2.1⟩

/-! ## Section by section -/

theorem isEnvChar_newline {c : Char} (h : c ∈ ['\n', '"']) : isEnvChar c = false := by
  simp only [mem_cons, not_mem_nil, or_false] at h
  rcases h with rfl | rfl <;> decide

/-- A placeholder is plain unless the variable's name has the word in it. -/
theorem plain_braced {name : String} (h : ∀ c ∈ name.toList, isEnvChar c = true) :
    Plain (braced name) ↔ ¬ Mentions includeWord name.toList := by
  rw [← braced_mentions]
  refine ⟨fun hp => hp.word, fun hword => ⟨⟨?_, not_quoted_of_not_mem ?_⟩, hword⟩⟩
  all_goals exact braced_not_mem h (isEnvChar_newline (by decide)) (by decide)

theorem plain_placeholder {reference token : String} (h : placeholder env reference = .ok token) :
    Plain token ↔ QuietSecret env reference := by
  rw [placeholder] at h
  cases hname : envName env reference with
  | error e =>
    rw [hname] at h
    cases h
  | ok name =>
    rw [hname] at h
    cases h
    rw [plain_braced (envName_chars hname), QuietSecret, hname]
    constructor
    · exact fun hword name' hname' => Except.ok.inj hname' ▸ hword
    · exact fun hquiet => hquiet name rfl

/-- What is rendered from a reference, or from the value beside it. -/
theorem plain_secretOr {reference other rendered : Option String}
    (h : secretOr env reference other = .ok rendered) :
    (∀ s, rendered = some s → Plain s) ↔
      (∀ r, Text.truthy reference = some r → QuietSecret env r) ∧
        (Text.truthy reference = none → ∀ s, other = some s → Plain s) := by
  rw [secretOr] at h
  cases href : Text.truthy reference with
  | none =>
    rw [href] at h
    cases h
    simp
  | some r =>
    rw [href] at h
    dsimp only at h
    cases htoken : placeholder env r with
    | error e =>
      rw [htoken] at h
      cases h
    | ok token =>
      rw [htoken] at h
      cases h
      simp [plain_placeholder htoken]

theorem coreSection_fine {core : Section} (h : coreSection env model = .ok core) :
    (∀ c ∈ core.calls, c.Fine) ↔
      QuietSecret env model.adminSecretRef ∧
        QuietSecret env (model.statusSecretRef.getD DEFAULT_STATUS_SECRET_REF) ∧
        ∀ storage, model.dlrStorage = some storage → Plain storage.type := by
  obtain ⟨admin, hadmin, h⟩ := Transaction.bind_eq_ok h
  obtain ⟨status, hstatus, h⟩ := Transaction.bind_eq_ok h
  cases h
  have hjson : Plain "json" := ⟨⟨by decide, by decide⟩, by decide⟩
  simp only [forall_mem_cons, fine_number, fine_text, fine_textOf, plain_placeholder hadmin,
    plain_placeholder hstatus, hjson, true_and, Option.map_eq_some_iff, not_mem_nil,
    false_implies, implies_true, and_true]
  refine and_congr_right fun _ => and_congr_right fun _ => ?_
  exact ⟨fun hplain storage hs => hplain _ ⟨storage, hs, rfl⟩,
    fun hplain _ h => h.elim fun storage hs => hs.2 ▸ hplain storage hs.1⟩

section

variable (hok : Accepted model) {service : EngineSmsService}
include hok

theorem smscCalls_fine (hmem : smsc ∈ model.smsc) (username password : Option String) :
    (∀ c ∈ smscCalls smsc username password, c.Fine) ↔
      Plain smsc.type ∧ (hasCredentials smsc →
        (∀ s, username = some s → Plain s) ∧ ∀ s, password = some s → Plain s) := by
  have hscreened := hok.smsc smsc hmem
  simp only [smscEntries, mem_append, mem_cons, not_mem_nil, or_false, Prod.mk.injEq] at hscreened
  have hid : Plain smsc.id := (hscreened _ _ (.inl (.inr (.inl ⟨rfl, rfl⟩)))).plain
  have hhost : ∀ s, smsc.host = some s → Plain s := fun s hs =>
    (hscreened _ s (.inl (.inl ⟨rfl, (ofOption_eq_string hs).symm⟩))).plain
  have hsystem : ∀ s, smsc.systemType = some s → Plain s := fun s hs =>
    (hscreened _ s (.inl (.inr (.inr (.inl ⟨rfl, (ofOption_eq_string hs).symm⟩))))).plain
  have hrange : ∀ s, smsc.addressRange = some s → Plain s := fun s hs =>
    (hscreened _ s (.inl (.inr (.inr (.inr (.inl ⟨rfl, (ofOption_eq_string hs).symm⟩)))))).plain
  have hcharset : ∀ s, smsc.altCharset = some s → Plain s := fun s hs =>
    (hscreened _ s (.inl (.inr (.inr (.inr (.inr (.inl
      ⟨rfl, (ofOption_eq_string hs).symm⟩))))))).plain
  have hurl : ∀ s, smsc.sendUrl = some s → Screened s := fun s hs =>
    hscreened _ s (.inl (.inr (.inr (.inr (.inr (.inr ⟨rfl, (ofOption_eq_string hs).symm⟩))))))
  have hrouting : ∀ c ∈ renderSmscRouting smsc, c.Fine := by
    intro c hc
    obtain ⟨⟨list, hlist⟩, -, hc⟩ := mem_flatMap.mp hc
    dsimp only at hc
    split at hc
    · cases hc
    · rename_i hne
      obtain rfl := mem_singleton.mp hc
      have hentry := hok.lists smsc hmem list hlist
      refine fine_quotedList ⟨hne, fun h => ?_, fun e he => (hentry e he).1.newline,
        fun e he => (hentry e he).2.2⟩ fun e he => (hentry e he).1
      exact (hentry "" (h ▸ mem_singleton_self _)).2.1 (by decide)
  have hempty : ∀ v, (smsc.systemType.map fun s => if s = "" then Value.emptyLiteral
      else .text s) = some v → v.Plain := by
    rintro v hv
    obtain ⟨s, hs, rfl⟩ := Option.map_eq_some_iff.mp hv
    split
    · trivial
    · exact hsystem s hs
  have hkannel : Plain (smsc.systemType.getD "kannel") := by
    cases hs : smsc.systemType with
    | none => exact ⟨⟨by decide, by decide⟩, by decide⟩
    | some s => exact hsystem s hs
  have hsmpp : (∀ c ∈ renderSmppSmsc smsc username password, c.Fine) ↔
      (∀ s, username = some s → Plain s) ∧ ∀ s, password = some s → Plain s := by
    simp only [renderSmppSmsc, forall_mem_cons, fine_numberOf, fine_textOf, fine_flagOf,
      fine_number, true_and, not_mem_nil, false_implies, implies_true, and_true]
    rw [fine_push]
    exact and_congr_right fun _ => and_iff_left ⟨hempty, hrange⟩
  have hhttp : (∀ c ∈ renderHttpSmsc smsc username password, c.Fine) ↔
      (∀ s, username = some s → Plain s) ∧ ∀ s, password = some s → Plain s := by
    simp only [renderHttpSmsc, forall_mem_cons, fine_textOf, fine_text, hkannel,
      fine_quoted hurl, true_and, not_mem_nil, false_implies, implies_true, and_true]
  simp only [smscCalls, forall_mem_append, forall_mem_cons, fine_text, fine_textOf,
    fine_numberOf, hid, and_true, not_mem_nil, false_implies, implies_true,
    eq_true hrouting, eq_true hhost, eq_true hcharset, and_assoc]
  refine and_congr_right fun _ => ?_
  rw [hasCredentials]
  by_cases hs : smsc.type = "smpp"
  · have hh : smsc.type ≠ "http" := fun h => absurd (hs.symm.trans h) (by decide)
    rw [if_pos hs, if_neg hh, hsmpp]
    simp [hs]
  · by_cases hh : smsc.type = "http"
    · rw [if_neg hs, if_pos hh, hhttp]
      simp [hh]
    · rw [if_neg hs, if_neg hh]
      simp [hs, hh]

theorem smscSection_fine (hmem : smsc ∈ model.smsc) {s : Section}
    (h : smscSection env smsc = .ok s) :
    (∀ c ∈ s.calls, c.Fine) ↔
      Plain smsc.type ∧ (hasCredentials smsc →
        ((∀ r, Text.truthy smsc.usernameSecretRef = some r → QuietSecret env r) ∧
          (Text.truthy smsc.usernameSecretRef = none → ∀ s, smsc.username = some s → Plain s)) ∧
        ∀ r, Text.truthy smsc.passwordSecretRef = some r → QuietSecret env r) := by
  obtain ⟨⟨username, password⟩, hcredentials, h⟩ := Transaction.bind_eq_ok h
  cases h
  rw [smscCalls_fine hok hmem]
  refine and_congr_right fun _ => ?_
  rw [smscCredentials] at hcredentials
  by_cases hkind : smsc.type = "smpp" ∨ smsc.type = "http"
  · rw [if_pos hkind] at hcredentials
    obtain ⟨u, hu, hcredentials⟩ := Transaction.bind_eq_ok hcredentials
    obtain ⟨p, hp, hcredentials⟩ := Transaction.bind_eq_ok hcredentials
    obtain ⟨rfl, rfl⟩ := Prod.mk.inj (Except.ok.inj hcredentials)
    refine imp_congr_right fun _ => ?_
    rw [plain_secretOr hu, plain_secretOr hp]
    exact and_congr_right fun _ => and_iff_left fun _ s hs => (by cases hs)
  · exact ⟨fun _ h => absurd h hkind, fun _ h => absurd h hkind⟩

theorem smsboxSection_fine {smsbox : EngineSmsbox}
    (hbox : model.smsbox = some smsbox) : ∀ c ∈ (smsboxSection model smsbox).calls, c.Fine := by
  have hscreened := hok.smsbox smsbox hbox
  simp only [smsboxEntries, mem_cons, not_mem_nil, or_false, Prod.mk.injEq] at hscreened
  have hhost : Plain smsbox.bearerboxHost := (hscreened _ _ (.inl ⟨rfl, rfl⟩)).plain
  have hid : ∀ s, smsbox.smsboxId = some s → Plain s := fun s hs =>
    (hscreened _ s (.inr (.inl ⟨rfl, (ofOption_eq_string hs).symm⟩))).plain
  have hsender : ∀ s, smsbox.globalSender = some s → Plain s := fun s hs =>
    (hscreened _ s (.inr (.inr ⟨rfl, (ofOption_eq_string hs).symm⟩))).plain
  have hjson : Plain "json" := ⟨⟨by decide, by decide⟩, by decide⟩
  simp only [smsboxSection, forall_mem_cons, fine_text, fine_textOf, fine_number, hhost, hjson,
    eq_true hid, eq_true hsender, not_mem_nil, false_implies, implies_true, and_true]

theorem userSection_fine {user : EngineSendsmsUser}
    (hmem : user ∈ model.users) {s : Section} (h : userSection env user = .ok s) :
    (∀ c ∈ s.calls, c.Fine) ↔ QuietSecret env user.passwordSecretRef := by
  obtain ⟨index, hscreened⟩ := hok.users user hmem
  simp only [userEntries, mem_cons, not_mem_nil, or_false, Prod.mk.injEq] at hscreened
  have hname : Plain user.username := (hscreened _ _ (.inl ⟨rfl, rfl⟩)).plain
  have hips : ∀ s, user.allowedIps = some s → Plain s := fun s hs =>
    (hscreened _ s (.inr (.inl ⟨rfl, (ofOption_eq_string hs).symm⟩))).plain
  have hdefault : ∀ s, user.defaultSmsc = some s → Plain s := fun s hs =>
    (hscreened _ s (.inr (.inr (.inl ⟨rfl, (ofOption_eq_string hs).symm⟩)))).plain
  have hforced : ∀ s, user.forcedSmsc = some s → Plain s := fun s hs =>
    (hscreened _ s (.inr (.inr (.inr (.inl ⟨rfl, (ofOption_eq_string hs).symm⟩))))).plain
  have hsender : ∀ s, user.defaultSender = some s → Plain s := fun s hs =>
    (hscreened _ s (.inr (.inr (.inr (.inr ⟨rfl, (ofOption_eq_string hs).symm⟩))))).plain
  obtain ⟨token, htoken, h⟩ := Transaction.bind_eq_ok h
  cases h
  simp only [forall_mem_cons, fine_text, fine_textOf, fine_numberOf, fine_flagOf, hname,
    eq_true hips, eq_true hdefault, eq_true hforced, eq_true hsender, plain_placeholder htoken,
    not_mem_nil, false_implies, implies_true, true_and, and_true]

/-- The texts of a service are screened. -/
theorem Accepted.serviceTexts (hmem : service ∈ model.services) :
    Screened service.keyword ∧ (∀ s, service.text = some s → Screened s) ∧
      (∀ s, service.getUrl = some s → Screened s) ∧
      ∀ s, service.postUrl = some s → Screened s := by
  obtain ⟨index, hscreened⟩ := hok.services service hmem
  simp only [serviceEntries, mem_cons, not_mem_nil, or_false, Prod.mk.injEq] at hscreened
  exact ⟨hscreened _ _ (.inl ⟨rfl, rfl⟩),
    fun s hs => hscreened _ s (.inr (.inr (.inl ⟨rfl, (ofOption_eq_string hs).symm⟩))),
    fun s hs => hscreened _ s (.inr (.inr (.inr (.inl ⟨rfl, (ofOption_eq_string hs).symm⟩)))),
    fun s hs => hscreened _ s (.inr (.inr (.inr (.inr ⟨rfl, (ofOption_eq_string hs).symm⟩))))⟩

theorem serviceSection_fine (hmem : service ∈ model.services) :
    (∀ c ∈ (serviceSection service).calls, c.Fine) ↔
      (service.aliases.getD [] ≠ [] → PlainList (service.aliases.getD [])) := by
  obtain ⟨hkeyword, htext, hget, hpost⟩ := hok.serviceTexts hmem
  by_cases haliases : service.aliases.getD [] = []
  all_goals
    simp [serviceSection, haliases, hkeyword.plain, fine_quoted htext, fine_quoted hget,
      fine_quoted hpost]

theorem sqlboxSection_fine {sqlbox : EngineSqlbox}
    (hbox : model.sqlbox = some sqlbox) (henabled : sqlbox.enabled = true) :
    (∀ c ∈ (sqlboxSection sqlbox).calls, c.Fine) ↔
      Plain sqlbox.host ∧ Plain sqlbox.database ∧
        ¬ Mentions includeWord sqlbox.usernameEnv.toList ∧
        ¬ Mentions includeWord sqlbox.passwordEnv.toList := by
  obtain ⟨husername, hpassword⟩ := hok.environment sqlbox hbox henabled
  have hid : Plain "jkannel-sqlbox" := ⟨⟨by decide, by decide⟩, by decide⟩
  simp only [sqlboxSection, forall_mem_cons, fine_text, fine_number, hid,
    plain_braced (isEnvChar_of_isEnvName husername), plain_braced (isEnvChar_of_isEnvName hpassword),
    true_and, not_mem_nil, false_implies, implies_true, and_true]

end

theorem dlrSection_fine (storage : EngineDlrStorage) :
    (∀ c ∈ (dlrSection storage).calls, c.Fine) ↔
      (∀ s, storage.connectionId = some s → Plain s) ∧ ∀ s, storage.table = some s → Plain s := by
  have hfields : ∀ s ∈ ["smsc", "ts", "destination", "source", "service", "url", "mask", "status",
      "boxc", "dlr"], Plain s := by
    intro s hs
    have hall : ∀ s ∈ ["smsc", "ts", "destination", "source", "service", "url", "mask", "status",
      "boxc", "dlr"], ('\n' ∉ s.toList ∧ ¬ Quoted s.toList) ∧ ¬ Mentions includeWord s.toList := by
      decide
    exact ⟨⟨(hall s hs).1.1, (hall s hs).1.2⟩, (hall s hs).2⟩
  simp only [forall_mem_cons, not_mem_nil, false_implies, implies_true] at hfields
  have htable : Plain (storage.table.getD "dlr") ↔ ∀ s, storage.table = some s → Plain s := by
    cases storage.table with
    | none => simp [hfields]
    | some s => simp
  simp only [dlrSection, forall_mem_cons, fine_text, fine_textOf, htable, hfields, and_true,
    not_mem_nil, false_implies, implies_true]

/-! ## The whole file -/

theorem forall_mem_mapM {P : β → Prop} {l : List α} (h : l.mapM f = .ok l') :
    (∀ b ∈ l', P b) ↔ ∀ a ∈ l, ∀ b, f a = .ok b → P b := by
  induction l generalizing l' with
  | nil =>
    cases h
    simp
  | cons a l ih =>
    rw [mapM_cons] at h
    obtain ⟨b, hb, h⟩ := Transaction.bind_eq_ok h
    obtain ⟨bs, hbs, h⟩ := Transaction.bind_eq_ok h
    cases h
    rw [forall_mem_cons, forall_mem_cons, ih hbs]
    refine and_congr_left fun _ => ⟨fun hp b' hb' => ?_, fun hp => hp b hb⟩
    rw [hb] at hb'
    exact Except.ok.inj hb' ▸ hp

theorem exists_ok_of_mapM {l : List α} (h : l.mapM f = .ok l') : ∀ a ∈ l, ∃ b, f a = .ok b := by
  induction l generalizing l' with
  | nil => exact fun a ha => (by cases ha)
  | cons a l ih =>
    rw [mapM_cons] at h
    obtain ⟨b, hb, h⟩ := Transaction.bind_eq_ok h
    obtain ⟨bs, hbs, -⟩ := Transaction.bind_eq_ok h
    exact forall_mem_cons.mpr ⟨⟨b, hb⟩, ih hbs⟩

theorem forall_mapM_iff {P : β → Prop} {Q : α → Prop} {l : List α} (h : l.mapM f = .ok l')
    (hiff : ∀ a ∈ l, ∀ b, f a = .ok b → (P b ↔ Q a)) : (∀ b ∈ l', P b) ↔ ∀ a ∈ l, Q a := by
  rw [forall_mem_mapM h]
  constructor
  · intro hp a ha
    obtain ⟨b, hb⟩ := exists_ok_of_mapM h a ha
    exact (hiff a ha b hb).mp (hp a ha b hb)
  · exact fun hq a ha b hb => (hiff a ha b hb).mpr (hq a ha)

theorem mem_sortBy {α : Type} {compare : α → α → Ordering} {l : List α} {a : α} :
    a ∈ sortBy compare l ↔ a ∈ l := mem_insertionSort _

/-- **The calls of an accepted model** are fine exactly when the model is clean. -/
theorem sections_fine (hok : Accepted model) (h : renderSections env model = .ok sections) :
    (∀ s ∈ sections, ∀ c ∈ s.calls, c.Fine) ↔ Clean env model := by
  obtain ⟨core, hcore, h⟩ := Transaction.bind_eq_ok h
  obtain ⟨smscs, hsmscs, h⟩ := Transaction.bind_eq_ok h
  obtain ⟨users, husers, h⟩ := Transaction.bind_eq_ok h
  cases h
  have hsmsc := forall_mapM_iff hsmscs fun smsc hmem s hs =>
    smscSection_fine hok (mem_of_mem_filter (mem_sortBy.mp hmem)) hs
  have huser := forall_mapM_iff husers fun user hmem s hs =>
    userSection_fine hok (mem_sortBy.mp hmem) hs
  have hmem : ∀ smsc, smsc ∈ enabledSmscs env model ↔ smsc ∈ model.smsc ∧ smsc.enabled = true :=
    fun smsc => mem_sortBy.trans mem_filter
  simp only [cons_append, forall_mem_cons, forall_mem_append, coreSection_fine hcore,
    hsmsc, huser, connectionSections, forall_mem_map, hmem,
    Option.mem_toList, Option.filter_eq_some_iff, dlrSection_fine]
  constructor
  · rintro ⟨⟨hadmin, hstatus, hstorage⟩, ⟨⟨⟨hlinks, -⟩, hpasswords⟩, hservices⟩, hsqlbox, hdlr⟩
    refine ⟨fun smsc hm he => (hlinks smsc ⟨hm, he⟩).1,
      fun smsc hm he hk => ((hlinks smsc ⟨hm, he⟩).2 hk).1.2,
      fun service hm => (serviceSection_fine hok hm).mp (hservices service (mem_sortBy.mpr hm)),
      fun sqlbox hbox he => (sqlboxSection_fine hok hbox he).mp (hsqlbox sqlbox ⟨hbox, he⟩),
      hstorage, fun storage hs htype => hdlr storage ⟨hs, by simpa using htype⟩, hadmin, hstatus,
      fun smsc hm he hk reference href => ?_, fun user hm => hpasswords user (mem_sortBy.mpr hm)⟩
    obtain ⟨⟨husername, -⟩, hpassword⟩ := (hlinks smsc ⟨hm, he⟩).2 hk
    exact href.elim (husername reference) (hpassword reference)
  · intro hclean
    refine ⟨⟨hclean.adminSecret, hclean.statusSecret, hclean.storage⟩,
      ⟨⟨⟨fun smsc ⟨hm, he⟩ => ⟨hclean.type smsc hm he, fun hk => ⟨⟨?_, ?_⟩, ?_⟩⟩,
        fun smsbox hbox => smsboxSection_fine hok hbox⟩,
        fun user hm => hclean.userSecrets user (mem_sortBy.mp hm)⟩, fun service hm => ?_⟩,
      fun sqlbox ⟨hbox, he⟩ => ?_, fun storage ⟨hs, htype⟩ => ?_⟩
    · exact fun r hr => hclean.smscSecrets smsc hm he hk r (.inl hr)
    · exact hclean.username smsc hm he hk
    · exact fun r hr => hclean.smscSecrets smsc hm he hk r (.inr hr)
    · exact (serviceSection_fine hok (mem_sortBy.mp hm)).mpr
        (hclean.aliases service (mem_sortBy.mp hm))
    · exact (sqlboxSection_fine hok hbox he).mpr (hclean.sqlbox sqlbox hbox he)
    · exact hclean.connection storage hs (by simpa using htype)

section

variable (h : generate env model engine requireSecrets = .ok generated)
include h

/-- What is generated is rendered, from a model that was accepted. -/
theorem renderKamex_of_generate :
    validate env model = [] ∧ renderKamex env model (secretReferences model) = .ok generated := by
  rw [generate] at h
  by_cases hvalid : validate env model = []
  · refine ⟨hvalid, ?_⟩
    simp only [hvalid, ne_eq, not_true_eq_false, if_false] at h
    cases engine with
    | kannel =>
      split at h
      · obtain ⟨-, -, h⟩ := Transaction.bind_eq_ok h
        cases h
      · cases h
    | kamex =>
      split at h
      · obtain ⟨-, -, h⟩ := Transaction.bind_eq_ok h
        exact h
      · exact h
  · simp only [ne_eq, hvalid, not_false_eq_true, if_true] at h
    cases h

theorem generate_ok :
    validate env model = [] ∧ ∃ sections, renderSections env model = .ok sections ∧
      generated.content = contentOf sections := by
  obtain ⟨hvalid, hrender⟩ := renderKamex_of_generate h
  obtain ⟨sections, hsections, hrender⟩ := Transaction.bind_eq_ok hrender
  obtain ⟨names, -, hrender⟩ := Transaction.bind_eq_ok hrender
  cases hrender
  exact ⟨hvalid, sections, hsections, rfl⟩

end

theorem length_of_mapM {l : List α} (h : l.mapM f = .ok l') : l'.length = l.length := by
  induction l generalizing l' with
  | nil =>
    cases h
    rfl
  | cons a l ih =>
    rw [mapM_cons] at h
    obtain ⟨b, -, h⟩ := Transaction.bind_eq_ok h
    obtain ⟨bs, hbs, h⟩ := Transaction.bind_eq_ok h
    cases h
    rw [length_cons, length_cons, ih hbs]

theorem length_sortBy {α : Type} {compare : α → α → Ordering} {l : List α} :
    (sortBy compare l).length = l.length := length_insertionSort _ _

/-- The kinds of the groups of a model: one core, then one for each enabled link, for the smsbox,
for each user and service, and for each connection. -/
def groupKinds (model : EngineConfiguration) : List String :=
  "core" :: List.replicate (model.smsc.filter fun smsc => smsc.enabled).length "smsc" ++
    model.smsbox.toList.map (fun _ => "smsbox") ++
    List.replicate model.users.length "sendsms-user" ++
    List.replicate model.services.length "sms-service" ++
    (model.sqlbox.filter EngineSqlbox.enabled).toList.map (fun _ => "pgsql-connection") ++
    (model.dlrStorage.filter fun storage => ["pgsql", "mysql"].contains storage.type).toList.map
      fun _ => "dlr-db"

theorem map_kind_of_mapM {α : Type} {f : α → Except Thrown Section} {kind : String} {l : List α}
    {l' : List Section} (h : l.mapM f = .ok l') (hkind : ∀ a s, f a = .ok s → s.kind = kind) :
    l'.map Section.kind = List.replicate l.length kind := by
  rw [eq_replicate_iff, length_map, length_of_mapM h, forall_mem_map]
  exact ⟨rfl, (forall_mem_mapM h).mpr fun a _ s hs => hkind a s hs⟩

theorem renderSections_kinds (h : renderSections env model = .ok sections) :
    sections.map Section.kind = groupKinds model := by
  obtain ⟨core, hcore, h⟩ := Transaction.bind_eq_ok h
  obtain ⟨smscs, hsmscs, h⟩ := Transaction.bind_eq_ok h
  obtain ⟨users, husers, h⟩ := Transaction.bind_eq_ok h
  cases h
  have hkind : core.kind = "core" := by
    obtain ⟨admin, -, hcore⟩ := Transaction.bind_eq_ok hcore
    obtain ⟨status, -, hcore⟩ := Transaction.bind_eq_ok hcore
    rw [← Except.ok.inj hcore]
  have hsmsc : smscs.map Section.kind = List.replicate _ "smsc" :=
      map_kind_of_mapM hsmscs fun smsc s hs => by
    obtain ⟨⟨username, password⟩, -, hs⟩ := Transaction.bind_eq_ok hs
    rw [← Except.ok.inj hs]
  have huser : users.map Section.kind = List.replicate _ "sendsms-user" :=
      map_kind_of_mapM husers fun user s hs => by
    obtain ⟨password, -, hs⟩ := Transaction.bind_eq_ok hs
    rw [← Except.ok.inj hs]
  have hservices : ((sortedServices env model).map serviceSection).map Section.kind =
      List.replicate model.services.length "sms-service" := by
    rw [map_map, eq_replicate_iff, length_map, sortedServices, length_sortBy]
    exact ⟨rfl, forall_mem_map.mpr fun _ _ => rfl⟩
  rw [enabledSmscs, length_sortBy] at hsmsc
  rw [sortedUsers, length_sortBy] at huser
  simp only [cons_append, map_cons, map_append, hkind, hsmsc, huser, hservices,
    groupKinds, connectionSections, map_map, append_assoc]
  rfl

/-- A generated file says exactly what the model says when, and only when, the model is clean. -/
theorem faithful_iff_clean (h : generate env model engine requireSecrets = .ok generated)
    (hsections : renderSections env model = .ok sections) :
    Faithful sections generated.content ↔ Clean env model := by
  obtain ⟨hvalid, sections', hsections', hcontent⟩ := generate_ok h
  obtain rfl := Except.ok.inj (hsections'.symm.trans hsections)
  have hne : sections' ≠ [] := by
    rintro rfl
    cases renderSections_kinds hsections
  rw [hcontent, faithful_iff hne]
  exact sections_fine (accepted_of_validate hvalid) hsections

/-- **A generated file** is one group for the core and one for each enabled link, smsbox, user,
service and connection of the model, and it says exactly what the model says when, and only when,
the model is clean. -/
theorem generated_faithful_iff (env : Runtime) (model : EngineConfiguration)
    (engine : SupportedEngine) (requireSecrets : Option Bool) (generated : GeneratedConfiguration)
    (h : generate env model engine requireSecrets = .ok generated) :
    ∃ sections, renderSections env model = .ok sections ∧
      sections.map Section.kind = groupKinds model ∧
      (Faithful sections generated.content ↔ Clean env model) := by
  obtain ⟨-, sections, hsections, -⟩ := generate_ok h
  exact ⟨sections, hsections, renderSections_kinds hsections, faithful_iff_clean h hsections⟩

/-! ### Two models -/

theorem exists_of_isOk {α ε : Type} {x : Except ε α} (h : x.isOk = true) : ∃ a, x = .ok a := by
  cases x with
  | error e => cases h
  | ok a => exact ⟨a, rfl⟩

/-- A runtime for plain ASCII. -/
def Runtime.ascii : Runtime where
  text := TextEngine.ascii
  toUpperCase s := String.ofList (s.toList.map Char.toUpper)
  sha256 _ := ""
  processEnv _ := none

/-- A gateway with one link. -/
def oneLink (smsc : EngineSmsc) : EngineConfiguration where
  adminPort := JsNumber.ofInt 13000
  smsboxPort := JsNumber.ofInt 13001
  adminSecretRef := "secret://kamex/admin-password"
  logLevel := JsNumber.ofInt 0
  smsc := [smsc]

/-- A fake link. -/
def labLink : EngineSmsc where
  id := "lab"
  type := "fake"
  port := some (JsNumber.ofInt 10000)
  enabled := true

/-- A link that is bound to a carrier. -/
def boundLink : EngineSmsc where
  id := "carrier"
  type := "smpp"
  host := some "smpp.example"
  port := some (JsNumber.ofInt 2775)
  enabled := true
  username := some "esme"
  systemType := some ""
  allowedPrefixes := some ["25677", "25678"]

/-- The gateway with both links. -/
def twoLinks : EngineConfiguration :=
  { oneLink labLink with smsc := [labLink, boundLink] }

theorem generated_faithful_iff_twoLinks : ∃ generated,
    generate Runtime.ascii twoLinks .kamex (some false) = .ok generated ∧
      ∃ sections, renderSections Runtime.ascii twoLinks = .ok sections ∧
        sections.map Section.kind = groupKinds twoLinks ∧
        (Faithful sections generated.content ↔ Clean Runtime.ascii twoLinks) := by
  obtain ⟨generated, hgenerated⟩ := exists_of_isOk
    (show (generate Runtime.ascii twoLinks .kamex (some false)).isOk = true by decide +kernel)
  exact ⟨generated, hgenerated, generated_faithful_iff _ _ _ _ _ hgenerated⟩

/-- A link whose system id has a second line. -/
def injectingLink : EngineSmsc :=
  { boundLink with username := some "esme\ninclude = /etc/passwd" }

/-- **A name brings a directive of its own.** -/
theorem username_injects_a_directive :
    ¬ ∀ (env : Runtime) (model : EngineConfiguration) (engine : SupportedEngine)
      (requireSecrets : Option Bool) (generated : GeneratedConfiguration),
      generate env model engine requireSecrets = .ok generated →
        ∃ sections, renderSections env model = .ok sections ∧
          Faithful sections generated.content := by
  intro hall
  obtain ⟨generated, hgenerated⟩ := exists_of_isOk
    (show (generate Runtime.ascii (oneLink injectingLink) .kamex (some false)).isOk = true by
      decide +kernel)
  obtain ⟨sections, hsections, hfaithful⟩ := hall _ _ _ _ _ hgenerated
  have hplain : Plain "esme\ninclude = /etc/passwd" :=
    ((faithful_iff_clean hgenerated hsections).mp hfaithful).username injectingLink
      (mem_singleton_self _) rfl (.inl rfl) rfl _ rfl
  exact hplain.1.newline (by decide)

end Jkannel.Configuration
