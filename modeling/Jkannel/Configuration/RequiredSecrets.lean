import Jkannel.Configuration.Faithful
import Jkannel.Lib.Placeholders

/-!
# Which variables a rendered file needs

Beside the file `generate` returns `requiredSecrets`, the variables that the file expects.  They are
collected by a walk over the references of the model, and the placeholders are written by another.

* `sources` are the strings that a file is written from, in its order: the names of variables, and
  the strings of the model that are written as they are.  `placeholders_eq_sources` connects them to
  the text of the file.
* `requiredSecrets_exact_iff` says when the two walks agree, and no other string brings a
  placeholder of its own.
-/

namespace Jkannel.Configuration

open List
open Directives
open Placeholders (placeholders Separates)

/-! ## The strings of a file -/

/-- The placeholders in a text. -/
def names (s : String) : List String := placeholders isEnvName s.toList

/-- A string that a file is written from. -/
inductive Source
  /-- The name of a variable, written as a placeholder. -/
  | credential (name : String)
  /-- A string of the model, written as it is. -/
  | literal (text : String)

def Source.names : Source → List String
  | .credential name => [name]
  | .literal text => Configuration.names text

/-- The placeholders that a list of strings brings. -/
def namesOf (sources : List Source) : List String := sources.flatMap Source.names

/-- The variable that a reference maps onto. -/
def named (env : Runtime) (reference : String) : List Source :=
  (envName env reference).toOption.toList.map .credential

def literals (value : Option String) : List Source := value.toList.map .literal

/-- The fields of the `core` group. -/
def coreSources (env : Runtime) (model : EngineConfiguration) : List Source :=
  named env model.adminSecretRef ++
    named env (model.statusSecretRef.getD DEFAULT_STATUS_SECRET_REF) ++
    literals (model.dlrStorage.map EngineDlrStorage.type)

/-- A credential is written from its reference, if there is one. -/
def secretSources (env : Runtime) (reference other : Option String) : List Source :=
  match Text.truthy reference with
  | some reference => named env reference
  | none => literals other

/-- The credentials of a link. -/
def credentialSources (env : Runtime) (smsc : EngineSmsc) : List Source :=
  secretSources env smsc.usernameSecretRef smsc.username ++
    secretSources env smsc.passwordSecretRef none

/-- The routing lists of a link. -/
def routingSources (smsc : EngineSmsc) : List Source :=
  ROUTING_LISTS.flatMap fun list => ((list.list smsc).getD []).map .literal

/-- The fields of a link that are written. -/
def smscSources (env : Runtime) (smsc : EngineSmsc) : List Source :=
  [.literal smsc.type, .literal smsc.id] ++ literals smsc.host ++
    (if smsc.type = "smpp" then credentialSources env smsc ++ literals smsc.systemType ++
      literals smsc.addressRange else []) ++
    (if smsc.type = "http" then literals smsc.systemType ++ literals smsc.sendUrl ++
      credentialSources env smsc else []) ++
    literals smsc.altCharset ++ routingSources smsc

def smsboxSources (smsbox : EngineSmsbox) : List Source :=
  [.literal smsbox.bearerboxHost] ++ literals smsbox.smsboxId ++ literals smsbox.globalSender

def userSources (env : Runtime) (user : EngineSendsmsUser) : List Source :=
  [.literal user.username] ++ named env user.passwordSecretRef ++ literals user.allowedIps ++
    literals user.defaultSender ++ literals user.forcedSmsc ++ literals user.defaultSmsc

def serviceSources (service : EngineSmsService) : List Source :=
  [.literal service.keyword] ++ (service.aliases.getD []).map .literal ++ literals service.text ++
    literals service.getUrl ++ literals service.postUrl

def sqlboxSources (sqlbox : EngineSqlbox) : List Source :=
  [.literal sqlbox.host, .literal sqlbox.database, .credential sqlbox.usernameEnv,
    .credential sqlbox.passwordEnv]

def dlrSources (storage : EngineDlrStorage) : List Source :=
  literals storage.connectionId ++ literals storage.table

/-- **The strings that a file is written from**, in its order. -/
def sources (env : Runtime) (model : EngineConfiguration) : List Source :=
  coreSources env model ++ (enabledSmscs env model).flatMap (smscSources env) ++
    model.smsbox.toList.flatMap smsboxSources ++ (sortedUsers env model).flatMap (userSources env) ++
    (sortedServices env model).flatMap serviceSources ++
    (model.sqlbox.filter EngineSqlbox.enabled).toList.flatMap sqlboxSources ++
    (model.dlrStorage.filter fun storage => ["pgsql", "mysql"].contains storage.type).toList.flatMap
      dlrSources

/-! ## What is promised -/

/-- The comment that every file begins with; its second line says what a placeholder looks like. -/
def HEADER : List String :=
  ["# Generated by JKANNEL. Do not edit by hand.",
    "# Credentials appear only as $\x7bENV\x7d placeholders resolved by the engine runtime."]

/-- The placeholders of a file behind its comment, in their order. -/
def placeholdersOf (content : String) : List String :=
  placeholders isEnvName (content.toList.drop (unlines HEADER).toList.length)

def Source.credential? : Source → Option String
  | .credential name => some name
  | .literal _ => none

/-- The names of the variables that a file is written from, in its order. -/
def credentials (env : Runtime) (model : EngineConfiguration) : List String :=
  (sources env model).filterMap Source.credential?

/-- **The variables that are reported are those of the placeholders, and each placeholder is one
that was written for a reference or for a variable of SQLBox.** -/
structure ExactSecrets (env : Runtime) (model : EngineConfiguration)
    (generated : GeneratedConfiguration) : Prop where
  required : ∀ name, name ∈ generated.requiredSecrets ↔ name ∈ placeholdersOf generated.content
  origin : placeholdersOf generated.content = credentials env model

/-! ## The condition -/

/-- A reference beside a link. -/
def RefersTo (smsc : EngineSmsc) (reference : String) : Prop :=
  Text.truthy smsc.usernameSecretRef = some reference ∨
    Text.truthy smsc.passwordSecretRef = some reference

/-- A reference that is written. -/
def Written (model : EngineConfiguration) (reference : String) : Prop :=
  reference = model.adminSecretRef ∨
    reference = model.statusSecretRef.getD DEFAULT_STATUS_SECRET_REF ∨
    (∃ smsc ∈ model.smsc, smsc.enabled = true ∧ hasCredentials smsc ∧ RefersTo smsc reference) ∨
    ∃ user ∈ model.users, reference = user.passwordSecretRef

/-- A reference beside an enabled link of a kind without credentials: it is not written. -/
def Idle (model : EngineConfiguration) (reference : String) : Prop :=
  ∃ smsc ∈ model.smsc, smsc.enabled = true ∧ ¬ hasCredentials smsc ∧ RefersTo smsc reference

/-- A variable of SQLBox's. -/
def IsSqlboxVariable (model : EngineConfiguration) (name : String) : Prop :=
  ∃ sqlbox, model.sqlbox = some sqlbox ∧ sqlbox.enabled = true ∧
    (name = sqlbox.usernameEnv ∨ name = sqlbox.passwordEnv)

/-- **The condition.**  A reference maps onto each variable of SQLBox; what a reference maps onto
that is not written is written for something else; and no other string that is written has a
placeholder in it. -/
structure SecretsAgree (env : Runtime) (model : EngineConfiguration) : Prop where
  sqlbox : ∀ name, IsSqlboxVariable model name →
    ∃ reference, (Written model reference ∨ Idle model reference) ∧
      envName env reference = .ok name
  idle : ∀ reference name, Idle model reference → envName env reference = .ok name →
    (∃ reference', Written model reference' ∧ envName env reference' = .ok name) ∨
      IsSqlboxVariable model name
  literal : ∀ text, .literal text ∈ sources env model → names text = []

/-! ## One call -/

theorem separates_of_not_isEnvChar {c : Char} (hc : isEnvChar c = false) (hdollar : c ≠ '$')
    (hbrace : c ≠ '\x7b') (hclose : c ≠ '\x7d') : Separates isEnvName c := by
  refine ⟨hdollar, hbrace, hclose, fun cs hcs hmem => ?_⟩
  rw [isEnvChar_of_isEnvName hcs c hmem] at hc
  cases hc

theorem separates_newline : Separates isEnvName '\n' :=
  separates_of_not_isEnvChar (by decide) (by decide) (by decide) (by decide)

theorem separates_semicolon : Separates isEnvName ';' :=
  separates_of_not_isEnvChar (by decide) (by decide) (by decide) (by decide)

theorem separates_quote : Separates isEnvName '"' :=
  separates_of_not_isEnvChar (by decide) (by decide) (by decide) (by decide)

variable {name reference : String} {env : Runtime} {model : EngineConfiguration} {core s : Section}
  {user : EngineSendsmsUser} {smsc : EngineSmsc} {key : String} {generated : GeneratedConfiguration}
  {requireSecrets : Option Bool} {service : EngineSmsService} {ok : isManyKey key = true}
  {engine : SupportedEngine} {sections : List Section} {entries : List String} {o : Option String}

theorem names_braced (h : isEnvName name.toList = true) : names (braced name) = [name] := by
  have hnot : ∀ c, isEnvChar c = false → c ∉ name.toList := fun c hc hmem => by
    rw [isEnvChar_of_isEnvName h c hmem] at hc
    cases hc
  rw [names, braced_toList, Placeholders.placeholders_braced h (hnot _ (by decide))
    (hnot _ (by decide)), String.ofList_toList]

theorem names_assign {key value : String} (hkey : isKey key = true) :
    names (assign key value) = names value := by
  have hdollar : '$' ∉ key.toList ++ [' ', '=', ' '] := by
    intro hmem
    rcases mem_append.mp hmem with hmem | hmem
    · exact not_mem_key hkey (by decide) hmem
    · exact absurd hmem (by decide)
  have hline : (assign key value).toList = (key.toList ++ [' ', '=', ' ']) ++ value.toList := by
    rw [assign_toList, append_assoc, append_assoc]
    rfl
  rw [names, hline, Placeholders.placeholders_append _ hdollar]
  rfl

theorem names_join (entries : List String) : names (join entries) = entries.flatMap names := by
  rw [names, join_toList, Placeholders.placeholders_intercalate separates_semicolon, flatMap_map]
  rfl

theorem names_quote {s : String} (h : Screened s) :
    names (String.ofList (quote s.toList)) = names s := by
  rw [names, String.toList_ofList, quote_of_screened h, ← singleton_append,
    Placeholders.placeholders_append _ (by decide),
    Placeholders.placeholders_append_cons separates_quote]
  exact append_nil _

theorem names_number (n : JsNumber) : names n.text = [] := by
  refine Placeholders.placeholders_of_notMem _ fun hmem => ?_
  have := n.numeral_of_mem_text _ hmem
  revert this
  decide

/-- The placeholders in the line of a call. -/
def Emit.names (c : Emit) : List String :=
  c.item.toList.flatMap fun i => Configuration.names i.line

def Value.names (v : Value) : List String := Configuration.names v.written

@[simp] theorem Value.names_text (s : String) :
    (Value.text s).names = Configuration.names s := rfl

@[simp] theorem Value.names_number (n : JsNumber) : (Value.number n).names = [] :=
  Configuration.names_number n

@[simp] theorem Value.names_flag (b : Bool) : (Value.flag b).names = [] := by
  cases b <;> decide

theorem Value.names_of_isEmpty {v : Value} (h : v.isEmpty = true) : v.names = [] := by
  cases v with
  | text s =>
    rw [beq_iff_eq.mp h]
    decide
  | _ => cases h

theorem Emit.names_push {value : Option Value} {ok : isSingleKey key = true} :
    (Emit.push key value ok).names = value.toList.flatMap Value.names := by
  cases value with
  | none => rfl
  | some v =>
    rw [Option.toList_some, flatMap_singleton, Emit.names, Emit.item, Option.bind_some]
    by_cases hv : v.isEmpty = true
    · rw [if_pos hv, Value.names_of_isEmpty hv]
      rfl
    · rw [if_neg hv, Option.toList_some, flatMap_singleton]
      exact names_assign (isKey_of_own (ownKey_of_single ok).1).1

@[simp] theorem Emit.names_text {key s : String} {ok : isSingleKey key = true} :
    (Emit.push key (text s) ok).names = Configuration.names s := by
  rw [Emit.names_push, text, Option.toList_some, flatMap_singleton, Value.names_text]

@[simp] theorem Emit.names_textOf {ok : isSingleKey key = true} :
    (Emit.push key (textOf o) ok).names = namesOf (literals o) := by
  rw [Emit.names_push]
  cases o <;> rfl

@[simp] theorem Emit.names_number {n : JsNumber} {ok : isSingleKey key = true} :
    (Emit.push key (some (.number n)) ok).names = [] := by
  rw [Emit.names_push, Option.toList_some, flatMap_singleton, Value.names_number]

@[simp] theorem Emit.names_numberOf {n : Option JsNumber}
    {ok : isSingleKey key = true} : (Emit.push key (numberOf n) ok).names = [] := by
  rw [Emit.names_push]
  cases n with
  | none => rfl
  | some n =>
    rw [numberOf, Option.map_some, Option.toList_some, flatMap_singleton, Value.names_number]

@[simp] theorem Emit.names_flagOf {b : Option Bool} {ok : isSingleKey key = true} :
    (Emit.push key (flagOf b) ok).names = [] := by
  rw [Emit.names_push]
  cases b with
  | none => rfl
  | some b =>
    rw [flagOf, Option.map_some, Option.toList_some, flatMap_singleton, Value.names_flag]

@[simp] theorem Emit.names_pushList :
    (Emit.pushList key entries ok).names = entries.flatMap Configuration.names := by
  rw [← names_join, Emit.names, Emit.item]
  by_cases h : join entries = ""
  · rw [if_pos h, h]
    decide
  · rw [if_neg h, Option.toList_some, flatMap_singleton]
    exact names_assign (isKey_of_own (ownKey_of_many ok).1).1

theorem Emit.names_quoted {ok : isSingleKey key = true}
    (h : ∀ s, o = some s → Screened s) : (Emit.quoted key o ok).names = namesOf (literals o) := by
  cases o with
  | none => rfl
  | some s =>
    rw [Emit.names, Emit.item, Option.bind_some]
    by_cases hs : s = ""
    · rw [if_pos hs, hs]
      decide
    · rw [if_neg hs, Option.toList_some, flatMap_singleton]
      exact (names_assign (isKey_of_own (ownKey_of_single ok).1).1).trans
        ((names_quote (h s rfl)).trans (append_nil _).symm)

theorem Emit.names_quotedList (h : ∀ e ∈ entries, Screened e) :
    (Emit.quotedList key entries ok).names = entries.flatMap Configuration.names := by
  rw [← names_join, Emit.names, Emit.item]
  by_cases hjoin : join entries = ""
  · rw [if_pos hjoin, hjoin]
    decide
  · rw [if_neg hjoin, Option.toList_some, flatMap_singleton]
    exact (names_assign (isKey_of_own (ownKey_of_many ok).1).1).trans
      (names_quote (screened_join h))

/-! ## Section by section -/

/-- The placeholders in the lines of a section's calls. -/
def Section.names (s : Section) : List String := s.calls.flatMap Emit.names

@[simp] theorem namesOf_append (a b : List Source) : namesOf (a ++ b) = namesOf a ++ namesOf b :=
  flatMap_append

@[simp] theorem namesOf_cons_literal (s : String) (rest : List Source) :
    namesOf (.literal s :: rest) = names s ++ namesOf rest := rfl

@[simp] theorem namesOf_cons_credential (name : String) (rest : List Source) :
    namesOf (.credential name :: rest) = name :: namesOf rest := rfl

@[simp] theorem namesOf_nil : namesOf [] = [] := rfl

theorem namesOf_map_literal (entries : List String) :
    namesOf (entries.map .literal) = entries.flatMap names := by
  rw [namesOf, flatMap_map]
  rfl

theorem isEnvName_of_envName (h : envName env reference = .ok name) :
    isEnvName name.toList = true := by
  rw [envName] at h
  split at h
  · dsimp only at h
    split at h
    · next hname =>
      cases h
      rwa [String.toList_ofList]
    · cases h
  · cases h

/-- What is written for a reference. -/
theorem names_placeholder {token : String} (h : placeholder env reference = .ok token) :
    names token = namesOf (named env reference) := by
  rw [placeholder] at h
  cases hname : envName env reference with
  | error e =>
    rw [hname] at h
    cases h
  | ok name =>
    rw [hname] at h
    cases h
    rw [names_braced (isEnvName_of_envName hname), named, hname]
    rfl

theorem names_secretOr {reference other rendered : Option String}
    (h : secretOr env reference other = .ok rendered) :
    namesOf (literals rendered) = namesOf (secretSources env reference other) := by
  rw [secretOr] at h
  rw [secretSources]
  cases href : Text.truthy reference with
  | none =>
    rw [href] at h
    cases h
    rfl
  | some r =>
    rw [href] at h
    dsimp only at h
    cases htoken : placeholder env r with
    | error e =>
      rw [htoken] at h
      cases h
    | ok token =>
      rw [htoken] at h
      cases h
      exact (append_nil _).trans (names_placeholder htoken)

theorem coreSection_names (h : coreSection env model = .ok core) :
    core.names = namesOf (coreSources env model) := by
  obtain ⟨admin, hadmin, h⟩ := Transaction.bind_eq_ok h
  obtain ⟨status, hstatus, h⟩ := Transaction.bind_eq_ok h
  cases h
  have hjson : names "json" = [] := by decide
  simp only [Section.names, coreSources, flatMap_cons, flatMap_nil, Emit.names_number,
    Emit.names_text, Emit.names_textOf, hjson, names_placeholder hadmin, names_placeholder hstatus,
    namesOf_append, nil_append, append_nil, append_assoc]

theorem smsboxSection_names (model : EngineConfiguration) (smsbox : EngineSmsbox) :
    (smsboxSection model smsbox).names = namesOf (smsboxSources smsbox) := by
  have hjson : names "json" = [] := by decide
  simp only [Section.names, smsboxSection, smsboxSources, flatMap_cons, flatMap_nil,
    Emit.names_number, Emit.names_text, Emit.names_textOf, hjson, namesOf_append,
    namesOf_cons_literal, namesOf_nil, nil_append, append_nil, append_assoc]

theorem userSection_names (h : userSection env user = .ok s) :
    s.names = namesOf (userSources env user) := by
  obtain ⟨token, htoken, h⟩ := Transaction.bind_eq_ok h
  cases h
  simp only [Section.names, userSources, flatMap_cons, flatMap_nil, Emit.names_numberOf,
    Emit.names_flagOf, Emit.names_text, Emit.names_textOf, names_placeholder htoken, namesOf_append,
    namesOf_cons_literal, namesOf_nil, nil_append, append_nil, append_assoc]

theorem sqlboxSection_names (hok : Accepted model) {sqlbox : EngineSqlbox}
    (hbox : model.sqlbox = some sqlbox) (henabled : sqlbox.enabled = true) :
    (sqlboxSection sqlbox).names = namesOf (sqlboxSources sqlbox) := by
  obtain ⟨husername, hpassword⟩ := hok.environment sqlbox hbox henabled
  have hid : names "jkannel-sqlbox" = [] := by decide
  simp only [Section.names, sqlboxSection, sqlboxSources, flatMap_cons, flatMap_nil,
    Emit.names_number, Emit.names_text, hid, names_braced husername, names_braced hpassword,
    namesOf_cons_literal, namesOf_cons_credential, namesOf_nil, nil_append, append_nil, cons_append]

theorem dlrSection_names (storage : EngineDlrStorage) :
    (dlrSection storage).names = namesOf (dlrSources storage) := by
  have hfixed : ∀ s ∈ ["smsc", "ts", "destination", "source", "service", "url", "mask", "status",
      "boxc", "dlr"], names s = [] := by
    decide
  simp only [forall_mem_cons, not_mem_nil, false_implies, implies_true] at hfixed
  have htable : names (storage.table.getD "dlr") = namesOf (literals storage.table) := by
    cases storage.table with
    | none => exact hfixed.2.2.2.2.2.2.2.2.2.1
    | some s => exact (append_nil _).symm
  simp only [Section.names, dlrSection, dlrSources, flatMap_cons, flatMap_nil,
    Emit.names_text, Emit.names_textOf, htable, hfixed, namesOf_append, append_nil]

section

variable (hok : Accepted model)
include hok

theorem serviceSection_names (hmem : service ∈ model.services) :
    (serviceSection service).names = namesOf (serviceSources service) := by
  obtain ⟨-, htext, hget, hpost⟩ := hok.serviceTexts hmem
  by_cases haliases : service.aliases.getD [] = []
  · simp only [Section.names, serviceSection, serviceSources, haliases, if_true, append_nil,
      flatMap_append, flatMap_cons, flatMap_nil, Emit.names_text, Emit.names_quoted htext,
      Emit.names_quoted hget, Emit.names_quoted hpost, Emit.names_numberOf, Emit.names_flagOf,
      map_nil, namesOf_append, namesOf_cons_literal, namesOf_nil, append_assoc]
  · simp only [Section.names, serviceSection, serviceSources, haliases, if_false, append_nil,
      flatMap_append, flatMap_cons, flatMap_nil, Emit.names_text,
      Emit.names_quoted htext, Emit.names_quoted hget, Emit.names_quoted hpost, Emit.names_numberOf,
      Emit.names_flagOf, Emit.names_pushList, namesOf_map_literal, namesOf_append,
      namesOf_cons_literal, namesOf_nil, append_assoc]

theorem renderSmscRouting_names (hmem : smsc ∈ model.smsc) :
    (renderSmscRouting smsc).flatMap Emit.names = namesOf (routingSources smsc) := by
  have hlists : routingSources smsc =
      ROUTING_LISTS.attach.flatMap fun list => ((list.1.list smsc).getD []).map .literal := by
    rw [routingSources]
    conv_lhs => rw [← attach_map_subtype_val ROUTING_LISTS]
    rw [flatMap_map]
  rw [renderSmscRouting, flatMap_assoc, hlists, namesOf, flatMap_assoc]
  refine flatMap_congr fun list _ => ?_
  obtain ⟨list, hlist⟩ := list
  dsimp only
  split
  · next hnil => rw [hnil]; rfl
  · rw [flatMap_singleton,
      Emit.names_quotedList fun e he => (hok.lists smsc hmem list hlist e he).1]
    exact (namesOf_map_literal _).symm

theorem smscCalls_names (hmem : smsc ∈ model.smsc)
    {username password : Option String} (hcredentials : hasCredentials smsc →
      namesOf (literals username) ++ namesOf (literals password) =
        namesOf (credentialSources env smsc)) :
    (smscCalls smsc username password).flatMap Emit.names = namesOf (smscSources env smsc) := by
  have hscreened := hok.smsc smsc hmem
  simp only [smscEntries, mem_append, mem_cons, not_mem_nil, or_false, Prod.mk.injEq] at hscreened
  have hurl : ∀ s, smsc.sendUrl = some s → Screened s := fun s hs =>
    hscreened _ s (.inl (.inr (.inr (.inr (.inr (.inr ⟨rfl, (ofOption_eq_string hs).symm⟩))))))
  have hkannel : names (smsc.systemType.getD "kannel") = namesOf (literals smsc.systemType) := by
    cases smsc.systemType with
    | none => show names "kannel" = []; decide
    | some s => exact (append_nil _).symm
  have hempty : ∀ ok, (Emit.push "system-type" (Option.map
      (fun s => if s = "" then Value.emptyLiteral else .text s) smsc.systemType) ok).names =
        namesOf (literals smsc.systemType) := by
    intro ok
    rw [Emit.names_push]
    cases smsc.systemType with
    | none => rfl
    | some s =>
      by_cases hs : s = ""
      · rw [hs]
        decide
      · simp only [Option.map_some, if_neg hs]
        rfl
  have hsmpp : smsc.type = "smpp" → (renderSmppSmsc smsc username password).flatMap Emit.names =
      namesOf (credentialSources env smsc) ++ namesOf (literals smsc.systemType) ++
        namesOf (literals smsc.addressRange) := by
    intro htype
    rw [← hcredentials (.inl htype)]
    simp only [renderSmppSmsc, flatMap_cons, flatMap_nil, Emit.names_numberOf, Emit.names_textOf,
      Emit.names_flagOf, Emit.names_number, hempty, nil_append, append_nil, append_assoc]
  have hhttp : smsc.type = "http" → (renderHttpSmsc smsc username password).flatMap Emit.names =
      namesOf (literals smsc.systemType) ++ namesOf (literals smsc.sendUrl) ++
        namesOf (credentialSources env smsc) := by
    intro htype
    rw [← hcredentials (.inr htype)]
    simp only [renderHttpSmsc, flatMap_cons, flatMap_nil, Emit.names_text,
      Emit.names_textOf, Emit.names_quoted hurl, hkannel, append_nil, append_assoc]
  simp only [smscCalls, smscSources, flatMap_append, flatMap_cons, flatMap_nil,
    Emit.names_text, Emit.names_textOf, Emit.names_numberOf, renderSmscRouting_names hok hmem,
    namesOf_append, namesOf_cons_literal, namesOf_nil, nil_append, append_nil]
  congr 2
  by_cases hs : smsc.type = "smpp"
  · have hh : smsc.type ≠ "http" := fun h => absurd (hs.symm.trans h) (by decide)
    rw [if_pos hs, if_pos hs, if_neg hh, if_neg hh, hsmpp hs]
    simp
  · by_cases hh : smsc.type = "http"
    · rw [if_neg hs, if_neg hs, if_pos hh, if_pos hh, hhttp hh]
      simp
    · rw [if_neg hs, if_neg hs, if_neg hh, if_neg hh]
      simp

theorem smscSection_names (hmem : smsc ∈ model.smsc)
    (h : smscSection env smsc = .ok s) : s.names = namesOf (smscSources env smsc) := by
  obtain ⟨⟨username, password⟩, hcredentials, h⟩ := Transaction.bind_eq_ok h
  cases h
  refine smscCalls_names hok hmem fun hkind => ?_
  rw [hasCredentials] at hkind
  rw [smscCredentials, if_pos hkind] at hcredentials
  obtain ⟨u, hu, hcredentials⟩ := Transaction.bind_eq_ok hcredentials
  obtain ⟨p, hp, hcredentials⟩ := Transaction.bind_eq_ok hcredentials
  obtain ⟨rfl, rfl⟩ := Prod.mk.inj (Except.ok.inj hcredentials)
  rw [names_secretOr hu, names_secretOr hp, credentialSources, namesOf_append]

end

/-! ## The whole file -/

theorem flatMap_of_mapM {α β γ ε : Type} {f : α → Except ε β} {g : β → List γ} {k : α → List γ}
    {l : List α} {l' : List β} (h : l.mapM f = .ok l')
    (hfg : ∀ a ∈ l, ∀ b, f a = .ok b → g b = k a) : l'.flatMap g = l.flatMap k := by
  induction l generalizing l' with
  | nil =>
    cases h
    rfl
  | cons a l ih =>
    rw [mapM_cons] at h
    obtain ⟨b, hb, h⟩ := Transaction.bind_eq_ok h
    obtain ⟨bs, hbs, h⟩ := Transaction.bind_eq_ok h
    cases h
    rw [flatMap_cons, flatMap_cons, hfg a mem_cons_self b hb,
      ih hbs fun a ha => hfg a (mem_cons_of_mem _ ha)]

theorem unlines_toList (lines : List String) :
    (unlines lines).toList = ['\n'].intercalate (lines.map String.toList) ++ ['\n'] := by
  rw [unlines, String.toList_append, String.toList_intercalate]
  rfl

theorem unlines_cons (line : String) {lines : List String} (h : lines ≠ []) :
    (unlines (line :: lines)).toList = (line.toList ++ ['\n']) ++ (unlines lines).toList := by
  obtain ⟨line', lines, rfl⟩ := exists_cons_of_ne_nil h
  rw [unlines_toList, unlines_toList, map_cons, map_cons, intercalate_cons_cons,
    append_assoc, append_assoc]

theorem unlines_append {lines lines' : List String} (h : lines ≠ []) (h' : lines' ≠ []) :
    (unlines (lines ++ lines')).toList = (unlines lines).toList ++ (unlines lines').toList := by
  induction lines with
  | nil => exact absurd rfl h
  | cons line lines ih =>
    cases lines with
    | nil =>
      rw [singleton_append, unlines_cons line h']
      congr 1
      rw [unlines_toList, map_singleton, intercalate_singleton]
    | cons line' lines =>
      rw [cons_append, unlines_cons line (cons_ne_nil line' lines),
        unlines_cons line (append_ne_nil_of_left_ne_nil (cons_ne_nil line' lines) _),
        ih (cons_ne_nil _ _), append_assoc _ _ (unlines lines').toList]

/-- A text is scanned line by line. -/
theorem names_unlines (lines : List String) : names (unlines lines) = lines.flatMap names := by
  rw [names, unlines_toList, Placeholders.placeholders_append_cons separates_newline,
    Placeholders.placeholders_intercalate separates_newline, flatMap_map]
  exact append_nil _

/-- The lines of a section behind its remarks. -/
def Section.body (s : Section) : List Item := .header s.kind :: s.calls.filterMap Emit.item

theorem Section.body_names (s : Section) :
    (s.body.map Item.line).flatMap Configuration.names = s.names := by
  have hheader : Configuration.names (Item.header s.kind).line = [] := by
    rw [Item.line, names_assign (by decide)]
    exact Placeholders.placeholders_of_notMem _ (not_mem_key s.kind_ok.1 (by decide))
  have hcalls : ((s.calls.filterMap Emit.item).map Item.line).flatMap Configuration.names =
      s.calls.flatMap Emit.names := by
    induction s.calls with
    | nil => rfl
    | cons c calls ih =>
      rw [flatMap_cons, ← ih, Emit.names]
      cases hitem : c.item with
      | none => rw [filterMap_cons_none hitem]; rfl
      | some i =>
        rw [filterMap_cons_some hitem, map_cons, flatMap_cons, Option.toList_some,
          flatMap_singleton]
  rw [Section.body, map_cons, flatMap_cons, hheader, hcalls]
  rfl

theorem Section.items_names (h : ∀ line ∈ s.remarks, Configuration.names line = []) :
    (s.items.map Item.line).flatMap Configuration.names = s.names := by
  have hremarks : ((s.remarks.map Item.remark).map Item.line).flatMap Configuration.names = [] := by
    rw [map_map, flatMap_map, flatMap_eq_nil_iff]
    exact h
  have hitems : s.items = s.remarks.map Item.remark ++ s.body := rfl
  rw [hitems, map_append, flatMap_append, hremarks, s.body_names]
  rfl

/-- The remarks of a section bring no placeholder. -/
def Section.Silent (s : Section) : Prop := ∀ line ∈ s.remarks, Configuration.names line = []

theorem names_sections (h : ∀ s ∈ sections, s.Silent) :
    ((sections.flatMap Section.items).map Item.line).flatMap names =
      sections.flatMap Section.names := by
  rw [map_flatMap, flatMap_assoc]
  exact flatMap_congr fun s hs => Section.items_names (h s hs)

theorem smscSection_silent (h : smscSection env smsc = .ok s) : s.Silent := by
  obtain ⟨⟨username, password⟩, -, h⟩ := Transaction.bind_eq_ok h
  cases h
  exact forall_mem_singleton.mpr rfl

theorem userSection_silent (h : userSection env user = .ok s) : s.Silent := by
  obtain ⟨token, -, h⟩ := Transaction.bind_eq_ok h
  cases h
  exact forall_mem_singleton.mpr rfl

theorem connectionSections_silent (model : EngineConfiguration) :
    ∀ s ∈ connectionSections model, s.Silent := by
  rw [connectionSections, forall_mem_append, forall_mem_map, forall_mem_map]
  refine ⟨fun sqlbox _ => ?_, fun storage _ => ?_⟩
  all_goals exact forall_mem_cons.mpr ⟨rfl, forall_mem_singleton.mpr (by decide)⟩

/-- The core is the comment of the file, and lines of its own. -/
theorem coreSection_items (h : coreSection env model = .ok core) :
    core.items.map Item.line = HEADER ++ core.body.map Item.line := by
  obtain ⟨admin, -, h⟩ := Transaction.bind_eq_ok h
  obtain ⟨status, -, h⟩ := Transaction.bind_eq_ok h
  cases h
  rfl

theorem placeholdersOf_contentOf (hcore : coreSection env model = .ok core) {rest : List Section}
    (hrest : ∀ s ∈ rest, s.Silent) :
    placeholdersOf (contentOf (core :: rest)) = core.names ++ rest.flatMap Section.names := by
  have hne : core.body.map Item.line ++ (rest.flatMap Section.items).map Item.line ≠ [] :=
    append_ne_nil_of_left_ne_nil (cons_ne_nil _ _) _
  have hcontent : (contentOf (core :: rest)).toList = (unlines HEADER).toList ++
      (unlines (core.body.map Item.line ++ (rest.flatMap Section.items).map Item.line)).toList := by
    rw [contentOf, flatMap_cons, map_append, coreSection_items hcore, append_assoc]
    exact unlines_append (cons_ne_nil _ _) hne
  rw [placeholdersOf, hcontent, drop_left]
  refine (names_unlines _).trans ?_
  rw [flatMap_append, core.body_names, names_sections hrest]

/-- **The placeholders of a file** are those of the strings it is written from. -/
theorem placeholders_eq_sources (hok : Accepted model)
    (h : renderSections env model = .ok sections) :
    placeholdersOf (contentOf sections) = namesOf (sources env model) := by
  obtain ⟨core, hcore, h⟩ := Transaction.bind_eq_ok h
  obtain ⟨smscs, hsmscs, h⟩ := Transaction.bind_eq_ok h
  obtain ⟨users, husers, h⟩ := Transaction.bind_eq_ok h
  cases h
  have hsmsc : ∀ smsc, smsc ∈ enabledSmscs env model → smsc ∈ model.smsc := fun smsc hmem =>
    mem_of_mem_filter (mem_sortBy.mp hmem)
  have hlinks := flatMap_of_mapM hsmscs fun smsc hmem s hs =>
    smscSection_names hok (hsmsc smsc hmem) hs
  have hpasswords := flatMap_of_mapM husers fun user _ s hs => userSection_names hs
  have hservices : ((sortedServices env model).map serviceSection).flatMap Section.names =
      (sortedServices env model).flatMap fun service => namesOf (serviceSources service) := by
    rw [flatMap_map]
    exact flatMap_congr fun service hmem => serviceSection_names hok (mem_sortBy.mp hmem)
  have hconnections : (connectionSections model).flatMap Section.names =
      ((model.sqlbox.filter EngineSqlbox.enabled).toList.flatMap fun sqlbox =>
        namesOf (sqlboxSources sqlbox)) ++
      ((model.dlrStorage.filter fun storage => ["pgsql", "mysql"].contains storage.type).toList.flatMap
        fun storage => namesOf (dlrSources storage)) := by
    rw [connectionSections, flatMap_append, flatMap_map, flatMap_map]
    congr 1
    · refine flatMap_congr fun sqlbox hmem => ?_
      obtain ⟨hbox, henabled⟩ := Option.filter_eq_some_iff.mp (Option.mem_toList.mp hmem)
      exact sqlboxSection_names hok hbox henabled
    · exact flatMap_congr fun storage _ => dlrSection_names storage
  have hsilent : ∀ s ∈ smscs ++ model.smsbox.toList.map (smsboxSection model) ++ users ++
      (sortedServices env model).map serviceSection ++ connectionSections model, s.Silent := by
    simp only [forall_mem_append, forall_mem_map]
    refine ⟨⟨⟨⟨?_, fun smsbox _ => forall_mem_singleton.mpr rfl⟩, ?_⟩,
      fun service _ => forall_mem_singleton.mpr rfl⟩, connectionSections_silent model⟩
    · exact (forall_mem_mapM hsmscs).mpr fun smsc _ s hs => smscSection_silent hs
    · exact (forall_mem_mapM husers).mpr fun user _ s hs => userSection_silent hs
  rw [show core :: smscs ++ model.smsbox.toList.map (smsboxSection model) ++ users ++
      (sortedServices env model).map serviceSection ++ connectionSections model =
      core :: (smscs ++ model.smsbox.toList.map (smsboxSection model) ++ users ++
        (sortedServices env model).map serviceSection ++ connectionSections model) from rfl,
    placeholdersOf_contentOf hcore hsilent, coreSection_names hcore]
  simp only [flatMap_append, hlinks, hpasswords, hservices, hconnections, sources,
    namesOf_append, append_assoc]
  simp only [namesOf, flatMap_assoc, flatMap_map, smsboxSection_names]

/-! ## The two walks -/

theorem length_filterMap_credential_le (l : List Source) :
    (l.filterMap Source.credential?).length ≤ (namesOf l).length := by
  induction l with
  | nil => exact Nat.le_refl _
  | cons source l ih =>
    cases source with
    | credential name => exact Nat.succ_le_succ ih
    | literal text =>
      rw [namesOf_cons_literal, length_append]
      exact Nat.le_trans ih (Nat.le_add_left _ _)

/-- The placeholders are those of the credentials exactly when the other strings have none. -/
theorem namesOf_eq_credentials_iff (l : List Source) :
    namesOf l = l.filterMap Source.credential? ↔ ∀ text, .literal text ∈ l → names text = [] := by
  induction l with
  | nil => exact iff_of_true rfl fun _ h => absurd h not_mem_nil
  | cons source l ih =>
    cases source with
    | credential name =>
      rw [namesOf_cons_credential, filterMap_cons_some (show Source.credential? _ = _ from rfl),
        cons_inj_right, ih]
      refine forall_congr' fun text => ?_
      rw [mem_cons, or_iff_right Source.noConfusion]
    | literal text =>
      rw [namesOf_cons_literal, filterMap_cons_none (show Source.credential? _ = _ from rfl)]
      constructor
      · intro h
        -- one placeholder more would make the list too long
        have hlength := congrArg List.length h
        have hle := length_filterMap_credential_le l
        rw [length_append] at hlength
        have hnil : names text = [] := eq_nil_of_length_eq_zero (by omega)
        rw [hnil, nil_append] at h
        intro text' hmem
        rcases mem_cons.mp hmem with heq | hmem
        · rwa [Source.literal.inj heq]
        · exact ih.mp h text' hmem
      · intro h
        rw [h text mem_cons_self, nil_append]
        exact ih.mpr fun text' hmem => h text' (mem_cons_of_mem _ hmem)

theorem credential_mem_named :
    .credential name ∈ named env reference ↔ envName env reference = .ok name := by
  rw [named]
  cases envName env reference with
  | error e => exact iff_of_false not_mem_nil fun h => by cases h
  | ok name' =>
    show .credential name ∈ [Source.credential name'] ↔ _
    rw [mem_singleton, Source.credential.injEq, Except.ok.injEq, eq_comm]

theorem credential_notMem_literals (value : Option String) : .credential name ∉ literals value := by
  cases value <;> simp [literals]

theorem credential_mem_secretSources {reference other : Option String} :
    .credential name ∈ secretSources env reference other ↔
      ∃ r, Text.truthy reference = some r ∧ envName env r = .ok name := by
  rw [secretSources]
  cases Text.truthy reference with
  | none =>
    exact iff_of_false (credential_notMem_literals other) fun ⟨_, h, _⟩ =>
      Option.some_ne_none _ h.symm
  | some r =>
    rw [credential_mem_named]
    exact ⟨fun h => ⟨r, rfl, h⟩, fun ⟨_, h, hname⟩ => Option.some.inj h ▸ hname⟩

theorem credential_mem_credentialSources :
    .credential name ∈ credentialSources env smsc ↔
      ∃ r, RefersTo smsc r ∧ envName env r = .ok name := by
  rw [credentialSources, mem_append, credential_mem_secretSources,
    credential_mem_secretSources, ← exists_or]
  exact exists_congr fun r => or_and_right.symm

theorem credential_mem_smscSources :
    .credential name ∈ smscSources env smsc ↔
      hasCredentials smsc ∧ ∃ r, RefersTo smsc r ∧ envName env r = .ok name := by
  have hrouting : .credential name ∉ routingSources smsc := by
    simp [routingSources]
  by_cases hs : smsc.type = "smpp"
  · have hh : smsc.type ≠ "http" := fun h => absurd (hs.symm.trans h) (by decide)
    simp [smscSources, hasCredentials, hs, credential_notMem_literals,
      credential_mem_credentialSources, hrouting]
  · by_cases hh : smsc.type = "http"
    · simp [smscSources, hasCredentials, hh, credential_notMem_literals,
        credential_mem_credentialSources, hrouting]
    · simp [smscSources, hasCredentials, hs, hh, credential_notMem_literals, hrouting]

theorem credential_mem_serviceSources :
    .credential name ∉ serviceSources service := by
  simp [serviceSources, credential_notMem_literals]

theorem credential_mem_dlrSources {storage : EngineDlrStorage} :
    .credential name ∉ dlrSources storage := by
  simp [dlrSources, credential_notMem_literals]

theorem credential_mem_smsboxSources {smsbox : EngineSmsbox} :
    .credential name ∉ smsboxSources smsbox := by
  simp [smsboxSources, credential_notMem_literals]

theorem credential_mem_userSources :
    .credential name ∈ userSources env user ↔ envName env user.passwordSecretRef = .ok name := by
  simp [userSources, credential_notMem_literals, credential_mem_named]

/-- The variables of a file. -/
theorem mem_credentials_iff :
    name ∈ credentials env model ↔
      (∃ r, Written model r ∧ envName env r = .ok name) ∨ IsSqlboxVariable model name := by
  have hmem : name ∈ credentials env model ↔ .credential name ∈ sources env model := by
    rw [credentials, mem_filterMap]
    constructor
    · rintro ⟨source, hsource, hname⟩
      cases source with
      | credential name' => rwa [← Option.some.inj hname]
      | literal text => exact (Option.some_ne_none _ hname.symm).elim
    · exact fun h => ⟨_, h, rfl⟩
  have hsmsc : ∀ smsc, smsc ∈ enabledSmscs env model ↔ smsc ∈ model.smsc ∧ smsc.enabled = true :=
    fun smsc => mem_sortBy.trans mem_filter
  have huser : ∀ user, user ∈ sortedUsers env model ↔ user ∈ model.users := fun user => mem_sortBy
  rw [hmem]
  simp only [sources, coreSources, mem_append, mem_flatMap, credential_mem_named,
    credential_notMem_literals, credential_mem_smscSources, credential_mem_smsboxSources,
    credential_mem_userSources, credential_mem_serviceSources, credential_mem_dlrSources, and_false,
    exists_false, or_false, hsmsc, huser, Option.mem_toList, Option.filter_eq_some_iff]
  constructor
  · rintro ((((hadmin | hstatus) | ⟨smsc, ⟨hin, henabled⟩, hkind, r, hr, hname⟩) |
      ⟨user, hin, hname⟩) | ⟨sqlbox, ⟨hbox, henabled⟩, hname⟩)
    · exact .inl ⟨_, .inl rfl, hadmin⟩
    · exact .inl ⟨_, .inr (.inl rfl), hstatus⟩
    · exact .inl ⟨r, .inr (.inr (.inl ⟨smsc, hin, henabled, hkind, hr⟩)), hname⟩
    · exact .inl ⟨_, .inr (.inr (.inr ⟨user, hin, rfl⟩)), hname⟩
    · refine .inr ⟨sqlbox, hbox, henabled, ?_⟩
      simpa [sqlboxSources] using hname
  · rintro (⟨r, rfl | rfl | ⟨smsc, hin, henabled, hkind, hr⟩ | ⟨user, hin, rfl⟩, hname⟩ |
      ⟨sqlbox, hbox, henabled, hname⟩)
    · exact .inl (.inl (.inl (.inl hname)))
    · exact .inl (.inl (.inl (.inr hname)))
    · exact .inl (.inl (.inr ⟨smsc, ⟨hin, henabled⟩, hkind, r, hr, hname⟩))
    · exact .inl (.inr ⟨user, hin, hname⟩)
    · refine .inr ⟨sqlbox, ⟨hbox, henabled⟩, ?_⟩
      simpa [sqlboxSources] using hname

/-- The references that are collected. -/
theorem mem_secretReferences_iff {r : String} (hr : startsWithScheme r = true) :
    r ∈ secretReferences model ↔ Written model r ∨ Idle model r := by
  have hne : r ≠ "" := by
    rintro rfl
    revert hr
    decide
  have hrefers : ∀ smsc : EngineSmsc, RefersTo smsc r ↔
      some r = smsc.usernameSecretRef ∨ some r = smsc.passwordSecretRef := fun smsc => by
    rw [RefersTo, Text.truthy_eq_some_iff, Text.truthy_eq_some_iff, and_iff_left hne,
      and_iff_left hne, eq_comm, @eq_comm _ smsc.passwordSecretRef]
  simp only [secretReferences, mem_filter, mem_filterMap, id, exists_eq_right, hr, and_true,
    mem_append, mem_cons, not_mem_nil, or_false, Option.some.injEq, mem_flatMap, mem_map]
  constructor
  · rintro (((rfl | rfl) | ⟨smsc, ⟨hin, henabled⟩, hr⟩) | ⟨user, hin, rfl⟩)
    · exact .inl (.inl rfl)
    · exact .inl (.inr (.inl rfl))
    · by_cases hkind : hasCredentials smsc
      · exact .inl (.inr (.inr (.inl ⟨smsc, hin, henabled, hkind, (hrefers smsc).mpr hr⟩)))
      · exact .inr ⟨smsc, hin, henabled, hkind, (hrefers smsc).mpr hr⟩
    · exact .inl (.inr (.inr (.inr ⟨user, hin, rfl⟩)))
  · rintro ((rfl | rfl | ⟨smsc, hin, henabled, -, hr⟩ | ⟨user, hin, rfl⟩) |
      ⟨smsc, hin, henabled, -, hr⟩)
    · exact .inl (.inl (.inl rfl))
    · exact .inl (.inl (.inr rfl))
    · exact .inl (.inr ⟨smsc, ⟨hin, henabled⟩, (hrefers smsc).mp hr⟩)
    · exact .inr ⟨user, hin, rfl⟩
    · exact .inl (.inr ⟨smsc, ⟨hin, henabled⟩, (hrefers smsc).mp hr⟩)

theorem startsWithScheme_of_envName (h : envName env reference = .ok name) :
    startsWithScheme reference = true := by
  rw [envName] at h
  split at h
  · next href => exact (Bool.and_eq_true_iff.mp href).1
  · cases h

theorem mem_mapM_iff {α β ε : Type} {f : α → Except ε β} {l : List α} {l' : List β}
    (h : l.mapM f = .ok l') {b : β} : b ∈ l' ↔ ∃ a ∈ l, f a = .ok b := by
  rw [← not_iff_not]
  have hall := forall_mem_mapM (P := fun b' => b' ≠ b) h
  constructor
  · rintro hnot ⟨a, ha, hb⟩
    exact hall.mp (fun b' hb' heq => hnot (heq ▸ hb')) a ha b hb rfl
  · intro hnot hmem
    exact hall.mpr (fun a ha b' hb' heq => hnot ⟨a, ha, heq ▸ hb'⟩) b hmem rfl

section

variable (h : generate env model engine requireSecrets = .ok generated)
include h

theorem mem_requiredSecrets : name ∈ generated.requiredSecrets ↔
      ∃ r ∈ secretReferences model, envName env r = .ok name := by
  obtain ⟨-, hrender⟩ := renderKamex_of_generate h
  obtain ⟨sections, -, hrender⟩ := Transaction.bind_eq_ok hrender
  obtain ⟨found, hfound, hrender⟩ := Transaction.bind_eq_ok hrender
  cases hrender
  show name ∈ sortBy Text.compareText found.eraseDups ↔ _
  rw [mem_sortBy, mem_eraseDups, mem_mapM_iff hfound]

theorem mem_requiredSecrets_iff : name ∈ generated.requiredSecrets ↔
      ∃ r, (Written model r ∨ Idle model r) ∧ envName env r = .ok name := by
  rw [mem_requiredSecrets h]
  constructor
  · rintro ⟨r, hr, hname⟩
    exact ⟨r, (mem_secretReferences_iff (startsWithScheme_of_envName hname)).mp hr, hname⟩
  · rintro ⟨r, hr, hname⟩
    exact ⟨r, (mem_secretReferences_iff (startsWithScheme_of_envName hname)).mpr hr, hname⟩

end

/-- **The variables that are reported are exact if and only if the condition holds.** -/
theorem requiredSecrets_exact_iff (env : Runtime) (model : EngineConfiguration)
    (engine : SupportedEngine) (requireSecrets : Option Bool) (generated : GeneratedConfiguration)
    (h : generate env model engine requireSecrets = .ok generated) :
    ExactSecrets env model generated ↔ SecretsAgree env model := by
  obtain ⟨hvalid, sections, hsections, hcontent⟩ := generate_ok h
  have hplaceholders : placeholdersOf generated.content = namesOf (sources env model) := by
    rw [hcontent, placeholders_eq_sources (accepted_of_validate hvalid) hsections]
  have horigin : placeholdersOf generated.content = credentials env model ↔
      ∀ text, .literal text ∈ sources env model → names text = [] := by
    rw [hplaceholders, credentials]
    exact namesOf_eq_credentials_iff _
  constructor
  · rintro ⟨hrequired, heq⟩
    have hsame : ∀ name, (∃ r, (Written model r ∨ Idle model r) ∧ envName env r = .ok name) ↔
        (∃ r, Written model r ∧ envName env r = .ok name) ∨ IsSqlboxVariable model name := by
      intro name
      rw [← mem_requiredSecrets_iff h, hrequired name, heq, mem_credentials_iff]
    refine ⟨fun name hname => (hsame name).mpr (.inr hname), fun r name hidle hr => ?_,
      horigin.mp heq⟩
    exact (hsame name).mp ⟨r, .inr hidle, hr⟩
  · intro hagree
    have heq := horigin.mpr hagree.literal
    refine ⟨fun name => ?_, heq⟩
    rw [heq, mem_credentials_iff, mem_requiredSecrets_iff h]
    constructor
    · rintro ⟨r, hr | hr, hname⟩
      · exact .inl ⟨r, hr, hname⟩
      · exact hagree.idle r name hr hname
    · rintro (⟨r, hr, hname⟩ | hvariable)
      · exact ⟨r, .inl hr, hname⟩
      · exact hagree.sqlbox name hvariable

/-! ### Two models -/

/-- A link with both its credentials in references. -/
def carrierLink : EngineSmsc where
  id := "carrier"
  type := "smpp"
  host := some "smpp.example"
  port := some (JsNumber.ofInt 2775)
  enabled := true
  usernameSecretRef := some "secret://carrier/username"
  passwordSecretRef := some "secret://carrier/password"
  systemType := some ""

/-- The variables of a gateway with one such link are reported exactly. -/
theorem requiredSecrets_exact_carrier : ∃ generated,
    generate Runtime.ascii (oneLink carrierLink) .kamex (some false) = .ok generated ∧
      ExactSecrets Runtime.ascii (oneLink carrierLink) generated := by
  obtain ⟨generated, hgenerated⟩ := exists_of_isOk
    (show (generate Runtime.ascii (oneLink carrierLink) .kamex (some false)).isOk = true by
      decide +kernel)
  refine ⟨generated, hgenerated, (requiredSecrets_exact_iff _ _ _ _ _ hgenerated).mpr ⟨?_, ?_, ?_⟩⟩
  · rintro name ⟨sqlbox, hsqlbox, -⟩
    exact (Option.some_ne_none _ hsqlbox.symm).elim
  · rintro reference name ⟨smsc, hmem, -, hkind, -⟩
    rw [mem_singleton.mp hmem] at hkind
    exact absurd (Or.inl rfl) hkind
  · exact (namesOf_eq_credentials_iff _).mp (by decide +kernel)

/-- A gateway whose messages go through SQLBox. -/
def sqlboxGateway : EngineConfiguration :=
  { oneLink labLink with
    sqlbox := some {
      enabled := true
      serviceHost := "sqlbox"
      host := "postgres"
      port := JsNumber.ofInt 5432
      database := "jkannel"
      usernameEnv := "POSTGRES_USER"
      passwordEnv := "POSTGRES_PASSWORD" } }

/-- **The variables of SQLBox are in the file, and are not reported.** -/
theorem sqlbox_variables_unreported : ∃ generated,
    generate Runtime.ascii sqlboxGateway .kamex (some false) = .ok generated ∧
      "POSTGRES_USER" ∈ placeholdersOf generated.content ∧
      "POSTGRES_USER" ∉ generated.requiredSecrets ∧
      ¬ ExactSecrets Runtime.ascii sqlboxGateway generated := by
  obtain ⟨generated, hgenerated⟩ := exists_of_isOk
    (show (generate Runtime.ascii sqlboxGateway .kamex (some false)).isOk = true by
      decide +kernel)
  obtain ⟨hvalid, sections, hsections, hcontent⟩ := generate_ok hgenerated
  have hmem : "POSTGRES_USER" ∈ placeholdersOf generated.content := by
    rw [hcontent, placeholders_eq_sources (accepted_of_validate hvalid) hsections]
    decide +kernel
  have hnot : "POSTGRES_USER" ∉ generated.requiredSecrets := by
    rw [mem_requiredSecrets hgenerated]
    rintro ⟨r, hr, hname⟩
    have hall : ((secretReferences sqlboxGateway).all fun r =>
        (envName Runtime.ascii r).toOption != some "POSTGRES_USER") = true := by
      decide +kernel
    have hne := all_eq_true.mp hall r hr
    rw [hname] at hne
    exact absurd hne (by decide)
  exact ⟨generated, hgenerated, hmem, hnot, fun hexact => hnot ((hexact.required _).mpr hmem)⟩

end Jkannel.Configuration
