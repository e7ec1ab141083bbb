import Jkannel.Configuration.Faithful

/-!
# Whether the engine can build the links of a rendered file

The engine builds each link from the directives of its group, and stops when one that it cannot do
without is missing.  Which those are depends on the type of the link, and the emitter drops a
directive whose value is empty.

* `Constructible` says of a rendered group that it has the directives of its type.
* `rendered_constructible_iff` says for which of the accepted models every group of a link is so:
  an accepted HTTP link may have an empty system type, which is dropped.
-/

namespace Jkannel.Configuration

open Option (bind_some some.inj some_ne_none)
open List
open Directives
open Transaction (bind_eq_ok)
open Text (truthy)

/-! ## The directives of a group -/

/-- The text of a line with a key. -/
def Item.textAt (key : String) : Item → Option String
  | .bare key' text | .quoted key' text => if key' = key then some text else none
  | .header _ | .remark _ => none

/-- The texts that a group has under a key. -/
def Section.textsAt (s : Section) (key : String) : List String :=
  s.items.filterMap (Item.textAt key)

/-- **A group that the engine can build a link from**, by the type it states. -/
def Constructible (s : Section) : Prop :=
  (s.textsAt "smsc" = ["smpp"] ∧
    ∀ key ∈ ["host", "port", "smsc-username", "system-type"], s.textsAt key ≠ []) ∨
  (s.textsAt "smsc" = ["http"] ∧
    ∀ key ∈ ["host", "port", "system-type", "send-url"], s.textsAt key ≠ []) ∨
  (s.textsAt "smsc" = ["fake"] ∧ s.textsAt "port" ≠ [])

/-- **The condition.**  Every enabled link is of one of the types that are rendered, and an HTTP
link's system type is not the empty string. -/
structure Startable (smsc : EngineSmsc) : Prop where
  type : smsc.type ∈ ["smpp", "http", "fake"]
  systemType : smsc.type = "http" → smsc.systemType ≠ some ""

/-! ## One call -/

def Emit.key : Emit → String
  | .push key _ _ | .pushList key _ _ | .quoted key _ _ | .quotedList key _ _ => key

/-- The text that a call writes under a key. -/
def Emit.textAt (key : String) (c : Emit) : Option String := c.item.bind (Item.textAt key)

variable {c : Emit} {value : Option String} {s : Section} {smsc : EngineSmsc} {env : Runtime}
  {key : String} {ok : isSingleKey key = true}

theorem Emit.textAt_of_ne (h : c.key ≠ key) : c.textAt key = none := by
  rw [Emit.textAt, Option.bind_eq_none_iff]
  intro i hi
  cases c with
  | push key' value ok =>
    obtain ⟨v, -, hv⟩ := Option.bind_eq_some_iff.mp hi
    obtain ⟨-, hv⟩ := Option.ite_none_left_eq_some.mp hv
    rw [← some.inj hv]
    exact if_neg h
  | quoted key' value ok =>
    obtain ⟨s, -, hs⟩ := Option.bind_eq_some_iff.mp hi
    obtain ⟨-, hs⟩ := Option.ite_none_left_eq_some.mp hs
    rw [← some.inj hs]
    exact if_neg h
  | pushList _ _ _ | quotedList _ _ _ =>
    obtain ⟨-, he⟩ := Option.ite_none_left_eq_some.mp hi
    rw [← some.inj he]
    exact if_neg h

theorem Emit.textAt_push {value : Option Value} :
    (Emit.push key value ok).textAt key =
      value.bind fun v => if v.isEmpty then none else some v.written := by
  cases value with
  | none => rfl
  | some v =>
    rw [Emit.textAt, Emit.item, bind_some, bind_some]
    by_cases hv : v.isEmpty = true
    · rw [if_pos hv, if_pos hv]
      rfl
    · rw [if_neg hv, if_neg hv]
      exact if_pos rfl

theorem Emit.textAt_textOf :
    (Emit.push key (textOf value) ok).textAt key = truthy value := by
  rw [Emit.textAt_push]
  cases value with
  | none => rfl
  | some s => simp [textOf, Value.isEmpty, Value.written, truthy]

theorem Emit.textAt_numberOf {value : Option JsNumber} :
    (Emit.push key (numberOf value) ok).textAt key = value.map JsNumber.text := by
  rw [Emit.textAt_push]
  cases value <;> rfl

theorem Emit.textAt_quoted :
    (Emit.quoted key value ok).textAt key = truthy value := by
  cases value with
  | none => rfl
  | some s =>
    rw [Emit.textAt, Emit.item, bind_some, truthy]
    by_cases hs : s = ""
    · rw [if_pos hs, if_pos hs]
      rfl
    · rw [if_neg hs, if_neg hs]
      exact if_pos rfl

theorem Section.textsAt_eq (s : Section) (key : String) :
    s.textsAt key = s.calls.filterMap (Emit.textAt key) := by
  have hremarks : (s.remarks.map Item.remark).filterMap (Item.textAt key) = [] := by
    rw [filterMap_map, filterMap_eq_nil_iff]
    exact fun _ _ => rfl
  rw [Section.textsAt, Section.items, filterMap_append, hremarks, nil_append,
    filterMap_cons_none rfl, filterMap_filterMap]
  rfl

theorem Section.textsAt_ne_nil {key text : String} (hc : c ∈ s.calls)
    (htext : c.textAt key = some text) : s.textsAt key ≠ [] := by
  rw [Section.textsAt_eq]
  exact ne_nil_of_mem (mem_filterMap.mpr ⟨c, hc, htext⟩)

/-! ## One link -/

theorem renderSmscRouting_key (hc : c ∈ renderSmscRouting smsc) :
    c.key ∈ ROUTING_LISTS.map RoutingList.directive := by
  obtain ⟨⟨list, hlist⟩, -, hc⟩ := mem_flatMap.mp hc
  dsimp only at hc
  split at hc
  · cases hc
  · rw [mem_singleton.mp hc]
    exact mem_map_of_mem hlist

theorem forall_mem_ite {α : Type} {p : Prop} [Decidable p] {l : List α} {P : α → Prop}
    (h : p → ∀ a ∈ l, P a) : ∀ a ∈ (if p then l else []), P a := by
  split
  · next hp => exact h hp
  · exact fun a ha => absurd ha not_mem_nil

theorem routing_key_ne (hkey : key ∉ ROUTING_LISTS.map RoutingList.directive) :
    ∀ c ∈ renderSmscRouting smsc, c.key ≠ key := by
  rintro c hc rfl
  exact hkey (renderSmscRouting_key hc)

section Link

variable {username password : Option String}

/-- The type is stated once. -/
theorem textsAt_smsc :
    (smscCalls smsc username password).filterMap (Emit.textAt "smsc") =
      if smsc.type = "" then [] else [smsc.type] := by
  have hsmpp : ∀ c ∈ renderSmppSmsc smsc username password, c.key ≠ "smsc" := by
    simp [renderSmppSmsc, Emit.key]
  have hhttp : ∀ c ∈ renderHttpSmsc smsc username password, c.key ≠ "smsc" := by
    simp [renderHttpSmsc, Emit.key]
  have hrest : ∀ c ∈ (smscCalls smsc username password).tail, c.key ≠ "smsc" := by
    rw [smscCalls]
    simp only [cons_append, tail_cons, forall_mem_cons, forall_mem_append,
      nil_append, not_mem_nil, false_implies, implies_true, and_true, Emit.key]
    refine ⟨by decide, by decide, by decide, by decide,
      ⟨⟨forall_mem_ite fun _ => hsmpp, forall_mem_ite fun _ => hhttp⟩, by decide, by decide,
        by decide, by decide⟩, routing_key_ne (by decide)⟩
  have hfirst : (Emit.push "smsc" (text smsc.type)).textAt "smsc" =
      if smsc.type = "" then none else some smsc.type := by
    rw [Emit.textAt_push]
    simp [text, Value.isEmpty, Value.written]
  have hnone : (smscCalls smsc username password).tail.filterMap (Emit.textAt "smsc") = [] :=
    filterMap_eq_nil_iff.mpr fun c hc => Emit.textAt_of_ne (hrest c hc)
  have hcons : smscCalls smsc username password =
      Emit.push "smsc" (text smsc.type) :: (smscCalls smsc username password).tail := rfl
  rw [hcons]
  by_cases htype : smsc.type = ""
  · rw [if_pos htype] at hfirst ⊢
    rw [filterMap_cons_none hfirst, hnone]
  · rw [if_neg htype] at hfirst ⊢
    rw [filterMap_cons_some hfirst, hnone]

theorem textsAt_smsc_eq_iff {type : String} (hne : type ≠ "") :
    (smscCalls smsc username password).filterMap (Emit.textAt "smsc") = [type] ↔
      smsc.type = type := by
  rw [textsAt_smsc]
  split
  · next hempty =>
    rw [hempty]
    exact iff_of_false (cons_ne_nil _ _).symm (Ne.symm hne)
  · exact ⟨fun h => (List.cons.inj h).1, fun h => by rw [h]⟩

theorem host_mem (ok : isSingleKey "host" = true) :
    Emit.push "host" (textOf smsc.host) ok ∈ smscCalls smsc username password := by
  rw [smscCalls]
  iterate 4 refine mem_append_left _ ?_
  exact .tail _ (.tail _ (.tail _ (.head _)))

theorem port_mem (ok : isSingleKey "port" = true) :
    Emit.push "port" (numberOf smsc.port) ok ∈ smscCalls smsc username password := by
  rw [smscCalls]
  iterate 4 refine mem_append_left _ ?_
  exact .tail _ (.tail _ (.tail _ (.tail _ (.head _))))

theorem smpp_mem (htype : smsc.type = "smpp") {c : Emit}
    (hc : c ∈ renderSmppSmsc smsc username password) : c ∈ smscCalls smsc username password := by
  simp [smscCalls, htype, hc]

theorem http_mem (htype : smsc.type = "http") {c : Emit}
    (hc : c ∈ renderHttpSmsc smsc username password) : c ∈ smscCalls smsc username password := by
  simp [smscCalls, htype, hc]

/-- An empty system type of an HTTP link is dropped. -/
theorem textsAt_systemType (htype : smsc.type = "http") (hsystem : smsc.systemType = some "") :
    (smscCalls smsc username password).filterMap (Emit.textAt "system-type") = [] := by
  have hdropped : (Emit.push "system-type" (text (smsc.systemType.getD "kannel"))).textAt
      "system-type" = none := by
    rw [Emit.textAt_push, hsystem]
    rfl
  have hhttp : ∀ c ∈ renderHttpSmsc smsc username password, c.textAt "system-type" = none := by
    rw [renderHttpSmsc]
    simp only [forall_mem_cons, not_mem_nil, false_implies, implies_true, and_true]
    exact ⟨hdropped, Emit.textAt_of_ne (by simp only [Emit.key]; decide),
      Emit.textAt_of_ne (by simp only [Emit.key]; decide),
      Emit.textAt_of_ne (by simp only [Emit.key]; decide)⟩
  have hhead : ∀ c ∈ [Emit.push "smsc" (text smsc.type), .push "smsc-id" (text smsc.id),
      .push "instances" (numberOf (smsc.connectionCount.filter fun n => n.above 1)),
      .push "host" (textOf smsc.host), .push "port" (numberOf smsc.port)],
      c.key ≠ "system-type" := by
    simp [Emit.key]
  have htail : ∀ c ∈ [Emit.push "throughput" (numberOf smsc.throughput),
      .push "reconnect-delay" (numberOf smsc.reconnectDelaySeconds),
      .push "max-error-count" (numberOf smsc.maxErrorCount),
      .push "alt-charset" (textOf smsc.altCharset)], c.key ≠ "system-type" := by
    simp [Emit.key]
  have hsmpp : smsc.type ≠ "smpp" := fun h => absurd (h.symm.trans htype) (by decide)
  rw [filterMap_eq_nil_iff, smscCalls, if_neg hsmpp, if_pos htype, append_nil]
  intro c hc
  rcases mem_append.mp hc with hc | hc
  · rcases mem_append.mp hc with hc | hc
    · rcases mem_append.mp hc with hc | hc
      · exact Emit.textAt_of_ne (hhead c hc)
      · exact hhttp c hc
    · exact Emit.textAt_of_ne (htail c hc)
  · exact Emit.textAt_of_ne (routing_key_ne (by decide) c hc)

end Link

/-! ## What an accepted link has -/

/-- What a link was checked for, as far as the directives of its type go. -/
structure Checked (smsc : EngineSmsc) : Prop where
  host : smsc.type ≠ "fake" → ∃ s, truthy smsc.host = some s
  port : smsc.type ≠ "fake" ∨ smsc.enabled = true → ∃ n, smsc.port = some n
  username : smsc.enabled = true → smsc.type = "smpp" →
    (∃ s, truthy smsc.username = some s) ∨ ∃ r, truthy smsc.usernameSecretRef = some r
  systemType : smsc.enabled = true → smsc.type = "smpp" → ∃ s, smsc.systemType = some s
  sendUrl : smsc.enabled = true → smsc.type = "http" → ∃ s, truthy smsc.sendUrl = some s

theorem exists_of_not_blank (h : ¬ blank value = true) : ∃ s, truthy value = some s := by
  rw [blank, Option.isNone_iff_eq_none] at h
  exact Option.ne_none_iff_exists'.mp h

theorem exists_of_not_zero {value : Option JsNumber} (h : ¬ zero value = true) :
    ∃ n, value = some n := by
  rw [zero, Bool.not_eq_true', Bool.not_eq_false, Option.any_eq_true] at h
  obtain ⟨n, hn, -⟩ := h
  exact ⟨n, hn⟩

theorem checked_of_validateSmsc {seen : List String} (h : validateSmsc seen smsc = []) :
    Checked smsc := by
  simp only [validateSmsc, append_eq_nil_iff, fails_eq_nil] at h
  obtain ⟨⟨⟨⟨⟨⟨⟨-, hhost⟩, hport⟩, husername⟩, hsystem⟩, -⟩, -⟩, hattributes⟩ := h
  simp only [validateSmscAttributes, append_eq_nil_iff, fails_eq_nil] at hattributes
  have hurl := hattributes.1.2
  refine ⟨fun hfake => ?_, fun hkind => ?_, fun henabled htype => ?_, fun henabled htype => ?_,
    fun henabled htype => ?_⟩
  · exact exists_of_not_blank fun hblank => hhost ⟨hfake, .inl hblank⟩
  · refine exists_of_not_zero fun hzero => ?_
    by_cases hfake : smsc.type = "fake"
    · exact hport ⟨hkind.resolve_left (not_not_intro hfake), hfake, hzero⟩
    · exact hhost ⟨hfake, .inr hzero⟩
  · by_cases hblank : blank smsc.username = true
    · exact .inr (exists_of_not_blank fun href => husername ⟨henabled, htype, hblank, href⟩)
    · exact .inl (exists_of_not_blank hblank)
  · exact Option.ne_none_iff_exists'.mp fun hnone => hsystem ⟨henabled, htype, hnone⟩
  · exact exists_of_not_blank fun hblank => hurl ⟨htype, henabled, hblank⟩

/-! ## The group of a link -/

theorem exists_of_placeholder {reference token : String}
    (h : placeholder env reference = .ok token) : ∃ name, token = braced name := by
  rw [placeholder] at h
  cases hname : envName env reference with
  | error e =>
    rw [hname] at h
    cases h
  | ok name =>
    rw [hname] at h
    exact ⟨name, (Except.ok.inj h).symm⟩

/-- What is written for a credential is not dropped. -/
theorem truthy_secretOr {reference other rendered : Option String}
    (h : secretOr env reference other = .ok rendered)
    (hsome : (∃ s, truthy other = some s) ∨ ∃ r, truthy reference = some r) :
    ∃ s, truthy rendered = some s := by
  rw [secretOr] at h
  cases href : truthy reference with
  | none =>
    rw [href] at h
    cases h
    refine hsome.resolve_right fun hex => ?_
    obtain ⟨r, hr⟩ := hex
    exact some_ne_none _ (hr.symm.trans href)
  | some r =>
    rw [href] at h
    dsimp only at h
    cases htoken : placeholder env r with
    | error e =>
      rw [htoken] at h
      cases h
    | ok token =>
      rw [htoken] at h
      cases h
      obtain ⟨name, rfl⟩ := exists_of_placeholder htoken
      refine ⟨braced name, Text.truthy_of_ne fun hempty => ?_⟩
      exact cons_ne_nil _ _ ((braced_toList name).symm.trans (congrArg String.toList hempty))

theorem exists_of_smscSection (h : smscSection env smsc = .ok s) : ∃ username password,
      smscCredentials env smsc = .ok (username, password) ∧ s.kind = "smsc" ∧
        s.calls = smscCalls smsc username password := by
  obtain ⟨⟨username, password⟩, hcredentials, h⟩ := bind_eq_ok h
  cases h
  exact ⟨username, password, hcredentials, rfl, rfl⟩

theorem smscSection_constructible_iff (hchecked : Checked smsc) (henabled : smsc.enabled = true)
    (h : smscSection env smsc = .ok s) : Constructible s ↔ Startable smsc := by
  obtain ⟨username, password, hcredentials, -, hcalls⟩ := exists_of_smscSection h
  have hstated : ∀ type, type ≠ "" → (s.textsAt "smsc" = [type] ↔ smsc.type = type) := by
    intro type hne
    rw [Section.textsAt_eq, hcalls, textsAt_smsc_eq_iff hne]
  have hwritten : ∀ {key c} text, c ∈ smscCalls smsc username password →
      c.textAt key = some text → s.textsAt key ≠ [] := fun text hc htext =>
    Section.textsAt_ne_nil (hcalls ▸ hc) htext
  rw [Constructible, hstated _ (by decide), hstated _ (by decide), hstated _ (by decide)]
  constructor
  · rintro (⟨htype, -⟩ | ⟨htype, hkeys⟩ | ⟨htype, -⟩)
    · refine ⟨by rw [htype]; decide, fun hhttp => ?_⟩
      exact absurd (htype.symm.trans hhttp) (by decide)
    · refine ⟨by rw [htype]; decide, fun _ hempty => hkeys "system-type" (by decide) ?_⟩
      rw [Section.textsAt_eq, hcalls, textsAt_systemType htype hempty]
    · refine ⟨by rw [htype]; decide, fun hhttp => ?_⟩
      exact absurd (htype.symm.trans hhttp) (by decide)
  · rintro ⟨htype, hsystem⟩
    obtain ⟨n, hn⟩ := hchecked.port (.inr henabled)
    have hport : s.textsAt "port" ≠ [] := hwritten n.text (port_mem (by decide +kernel)) (by
      rw [Emit.textAt_numberOf, hn]
      rfl)
    simp only [mem_cons, not_mem_nil, or_false] at htype
    rcases htype with htype | htype | htype
    · refine .inl ⟨htype, ?_⟩
      obtain ⟨host, hhost⟩ := hchecked.host (by rw [htype]; decide)
      obtain ⟨systemType, hsystemType⟩ := hchecked.systemType henabled htype
      rw [smscCredentials, if_pos (.inl htype)] at hcredentials
      obtain ⟨u, hu, hcredentials⟩ := bind_eq_ok hcredentials
      obtain ⟨p, -, hcredentials⟩ := bind_eq_ok hcredentials
      obtain ⟨rfl, rfl⟩ := Prod.mk.inj (Except.ok.inj hcredentials)
      obtain ⟨name, hname⟩ := truthy_secretOr hu (hchecked.username henabled htype)
      have husername : Emit.push "smsc-username" (textOf u) ∈ renderSmppSmsc smsc u p := by
        simp [renderSmppSmsc]
      have hsystem : Emit.push "system-type"
          (smsc.systemType.map fun s => if s = "" then .emptyLiteral else .text s) ∈
            renderSmppSmsc smsc u p := by
        simp [renderSmppSmsc]
      simp only [forall_mem_cons, not_mem_nil, false_implies, implies_true, and_true]
      refine ⟨hwritten host (host_mem (by decide +kernel)) (Emit.textAt_textOf.trans hhost), hport,
        hwritten name (smpp_mem htype husername) (Emit.textAt_textOf.trans hname),
        hwritten (if systemType = "" then "\"\"" else systemType) (smpp_mem htype hsystem) ?_⟩
      -- an empty one is written as a pair of quotes
      rw [Emit.textAt_push, hsystemType, Option.map_some, bind_some]
      split
      · rfl
      · next hne => simp [Value.isEmpty, Value.written, hne]
    · refine .inr (.inl ⟨htype, ?_⟩)
      obtain ⟨host, hhost⟩ := hchecked.host (by rw [htype]; decide)
      obtain ⟨url, hurl⟩ := hchecked.sendUrl henabled htype
      have hsend : Emit.quoted "send-url" smsc.sendUrl ∈ renderHttpSmsc smsc username password := by
        simp [renderHttpSmsc]
      have hkind : Emit.push "system-type" (text (smsc.systemType.getD "kannel")) ∈
          renderHttpSmsc smsc username password := by
        simp [renderHttpSmsc]
      have hne : smsc.systemType.getD "kannel" ≠ "" := by
        cases hvalue : smsc.systemType with
        | none => decide
        | some value => exact fun hempty => hsystem htype (hvalue.trans (congrArg some hempty))
      simp only [forall_mem_cons, not_mem_nil, false_implies, implies_true, and_true]
      refine ⟨hwritten host (host_mem (by decide +kernel)) (Emit.textAt_textOf.trans hhost), hport,
        hwritten (smsc.systemType.getD "kannel") (http_mem htype hkind) ?_,
        hwritten url (http_mem htype hsend) (Emit.textAt_quoted.trans hurl)⟩
      rw [Emit.textAt_push]
      simp [text, Value.isEmpty, Value.written, hne]
    · exact .inr (.inr ⟨htype, hport⟩)

/-- The groups of links are those that are rendered for the enabled links. -/
theorem links_of_renderSections {model : EngineConfiguration} {sections : List Section}
    (h : renderSections env model = .ok sections) (P : Section → Prop) :
    ∃ smscs, (enabledSmscs env model).mapM (smscSection env) = .ok smscs ∧
      ((∀ s ∈ sections, s.kind = "smsc" → P s) ↔ ∀ s ∈ smscs, s.kind = "smsc" → P s) := by
  obtain ⟨core, hcore, h⟩ := bind_eq_ok h
  obtain ⟨smscs, hsmscs, h⟩ := bind_eq_ok h
  obtain ⟨users, husers, h⟩ := bind_eq_ok h
  cases h
  refine ⟨smscs, hsmscs, ?_⟩
  have hother : ∀ {s : Section} (kind : String), s.kind = kind → kind ≠ "smsc" →
      (s.kind = "smsc" → P s) := fun _ hkind hne h => absurd (hkind.symm.trans h) hne
  have hcorekind : core.kind = "core" := by
    obtain ⟨admin, -, hcore⟩ := bind_eq_ok hcore
    obtain ⟨status, -, hcore⟩ := bind_eq_ok hcore
    rw [← Except.ok.inj hcore]
  have huser : ∀ s ∈ users, s.kind = "sendsms-user" := by
    refine (forall_mem_mapM husers).mpr fun user _ s hs => ?_
    obtain ⟨password, -, hs⟩ := bind_eq_ok hs
    rw [← Except.ok.inj hs]
  simp only [cons_append, forall_mem_cons, forall_mem_append, forall_mem_map, connectionSections]
  constructor
  · exact fun hall => hall.2.1.1.1.1
  · intro hall
    exact ⟨hother "core" hcorekind (by decide),
      ⟨⟨⟨hall, fun smsbox _ => hother "smsbox" rfl (by decide)⟩,
        fun s hs => hother "sendsms-user" (huser s hs) (by decide)⟩,
        fun service _ => hother "sms-service" rfl (by decide)⟩,
      fun sqlbox _ => hother "pgsql-connection" rfl (by decide),
      fun storage _ => hother "dlr-db" rfl (by decide)⟩

/-- **Every group of a link can be built exactly when the links meet the condition.** -/
theorem rendered_constructible_iff (env : Runtime) (model : EngineConfiguration)
    (engine : SupportedEngine) (requireSecrets : Option Bool) (generated : GeneratedConfiguration)
    (h : generate env model engine requireSecrets = .ok generated) :
    ∃ sections, renderSections env model = .ok sections ∧
      generated.content = contentOf sections ∧
      ((∀ s ∈ sections, s.kind = "smsc" → Constructible s) ↔
        ∀ smsc ∈ model.smsc, smsc.enabled = true → Startable smsc) := by
  obtain ⟨hvalid, sections, hsections, hcontent⟩ := generate_ok h
  refine ⟨sections, hsections, hcontent, ?_⟩
  simp only [validate, append_eq_nil_iff] at hvalid
  obtain ⟨⟨⟨-, hsmscs⟩, -⟩, -⟩ := hvalid
  have hlink : ∀ smsc ∈ enabledSmscs env model, ∀ s, smscSection env smsc = .ok s →
      ((s.kind = "smsc" → Constructible s) ↔ Startable smsc) := by
    intro smsc hmem s hs
    obtain ⟨hin, henabled⟩ := mem_filter.mp (mem_sortBy.mp hmem)
    obtain ⟨seen, hseen⟩ := validateSmsc_of_mem hsmscs hin
    obtain ⟨-, -, -, hkind, -⟩ := exists_of_smscSection hs
    rw [← smscSection_constructible_iff (checked_of_validateSmsc hseen) henabled hs]
    exact forall_prop_of_true hkind
  obtain ⟨smscs, hmapM, hiff⟩ := links_of_renderSections hsections Constructible
  rw [hiff, forall_mapM_iff hmapM hlink]
  constructor
  · exact fun hall smsc hin henabled =>
      hall smsc (mem_sortBy.mpr (mem_filter.mpr ⟨hin, henabled⟩))
  · intro hall smsc hmem
    obtain ⟨hin, henabled⟩ := mem_filter.mp (mem_sortBy.mp hmem)
    exact hall smsc hin henabled

/-! ### Two models -/

/-- A link to a carrier's HTTP interface. -/
def httpLink (systemType : Option String) : EngineSmsc where
  id := "web"
  type := "http"
  host := some "sms.example"
  port := some (JsNumber.ofInt 8080)
  enabled := true
  systemType := systemType
  sendUrl := some "https://sms.example/send"

/-- Without a system type the link is of the type that the emitter falls back on. -/
theorem rendered_constructible_web : ∃ generated sections,
    generate Runtime.ascii (oneLink (httpLink none)) .kamex (some false) = .ok generated ∧
      renderSections Runtime.ascii (oneLink (httpLink none)) = .ok sections ∧
      generated.content = contentOf sections ∧
      ∀ s ∈ sections, s.kind = "smsc" → Constructible s := by
  obtain ⟨generated, hgenerated⟩ := exists_of_isOk
    (show (generate Runtime.ascii (oneLink (httpLink none)) .kamex (some false)).isOk = true by
      decide +kernel)
  obtain ⟨sections, hsections, hcontent, hiff⟩ :=
    rendered_constructible_iff _ _ _ _ _ hgenerated
  refine ⟨generated, sections, hgenerated, hsections, hcontent, hiff.mpr fun smsc hmem _ => ?_⟩
  rw [mem_singleton.mp hmem]
  exact ⟨by decide, fun _ hempty => some_ne_none "" hempty.symm⟩

/-- **An empty system type is accepted, and dropped.** -/
theorem empty_system_type_dropped : ∃ generated sections,
    generate Runtime.ascii (oneLink (httpLink (some ""))) .kamex (some false) = .ok generated ∧
      renderSections Runtime.ascii (oneLink (httpLink (some ""))) = .ok sections ∧
      ¬ ∀ s ∈ sections, s.kind = "smsc" → Constructible s := by
  obtain ⟨generated, hgenerated⟩ := exists_of_isOk
    (show (generate Runtime.ascii (oneLink (httpLink (some ""))) .kamex (some false)).isOk = true by
      decide +kernel)
  obtain ⟨hvalid, sections, hsections, -⟩ := generate_ok hgenerated
  refine ⟨generated, sections, hgenerated, hsections, fun hall => ?_⟩
  obtain ⟨smscs, hsmscs, hiff⟩ := links_of_renderSections hsections Constructible
  have hlink : httpLink (some "") ∈
      enabledSmscs Runtime.ascii (oneLink (httpLink (some ""))) :=
    mem_sortBy.mpr (mem_singleton_self _)
  obtain ⟨s, hs⟩ := exists_ok_of_mapM hsmscs _ hlink
  obtain ⟨username, password, -, hkind, hcalls⟩ := exists_of_smscSection hs
  have hconstructible := (forall_mem_mapM hsmscs).mp (hiff.mp hall) _ hlink s hs hkind
  have htype : s.textsAt "smsc" = ["http"] := by
    rw [Section.textsAt_eq, hcalls, textsAt_smsc]
    rfl
  have hsystem : s.textsAt "system-type" = [] := by
    rw [Section.textsAt_eq, hcalls, textsAt_systemType rfl rfl]
  rcases hconstructible with ⟨hother, -⟩ | ⟨-, hkeys⟩ | ⟨hother, -⟩
  · exact absurd (htype.symm.trans hother) (by decide)
  · exact hkeys "system-type" (by decide) hsystem
  · exact absurd (htype.symm.trans hother) (by decide)

end Jkannel.Configuration
