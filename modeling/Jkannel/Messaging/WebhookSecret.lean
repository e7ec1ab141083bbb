import Jkannel.Engine.MessageSegments
import Jkannel.Lib.Transaction
import Jkannel.Messaging.MoRouting

/-!
# The secrets of webhooks

A webhook's secret is kept encrypted in the destination's configuration, and a marker is shown in
its place.  A plain secret, an encrypted one and the marker are told apart by how they look.  What is
encrypted is the UTF-8 of a secret, and that has no surrogates without their other halves.

* `decoded` is what the UTF-8 of a text holds, and `wellFormed_iff` when it holds the text.
* `sealSecret` and `openSecret` are the way in and the way out, and `addDestination` stores a
  configuration whole.
* `open_seal_iff` is when a secret survives, and `open_echo` what is left of one when its
  destination is submitted as it was shown.
* `secrets_survive_iff` is the two together, and `secrets_lost` a secret that is lost in each way.
-/

namespace Jkannel.Messaging.WebhookSecret

open List Option
open Engine (JsText isHighSurrogate isLowSurrogate characters trimUnits)
open Mo (MoDeliveryKind)
open Function (update)
open Function (update_self update_of_ne)

/-! ## Texts and their UTF-8

A text is a list of UTF-16 code units, as everywhere in the language; a `String` stands for its
UTF-8, which every Lean string is. -/

/-- The character of a surrogate pair, or of a unit that is none; U+FFFD for half of a pair. -/
def decodeCharacter : JsText → Char
  | [u] => if isHighSurrogate u || isLowSurrogate u then '\ufffd' else Char.ofNat u.toNat
  | [u, v] => Char.ofNat (0x10000 + (u.toNat - 0xD800) * 0x400 + (v.toNat - 0xDC00))
  | _ => '\ufffd'

/-- What the UTF-8 of a text holds. -/
def decoded (text : JsText) : List Char := (characters text).map decodeCharacter

/-- The code units of a character. -/
def encodeCharacter (c : Char) : JsText :=
  if c.toNat < 0x10000 then [UInt16.ofNat c.toNat]
  else [UInt16.ofNat (0xD800 + (c.toNat - 0x10000) / 0x400),
    UInt16.ofNat (0xDC00 + (c.toNat - 0x10000) % 0x400)]

def encoded (cs : List Char) : JsText := cs.flatMap encodeCharacter

/-- A literal of the source. -/
def ofString (s : String) : JsText := encoded s.toList

/-- Every surrogate of the text has its other half. -/
def WellFormed (text : JsText) : Prop :=
  ∀ character ∈ characters text, ∀ u, character = [u] → (isHighSurrogate u || isLowSurrogate u) = false

theorem toNat_ofNat {n : ℕ} (h : n.isValidChar) : (Char.ofNat n).toNat = n := by
  rw [Char.ofNat, dif_pos h]
  rfl

theorem encode_unit {u : UInt16} (h : (isHighSurrogate u || isLowSurrogate u) = false) :
    encodeCharacter (decodeCharacter [u]) = [u] := by
  have hlt := u.toNat_lt
  simp only [isHighSurrogate, isLowSurrogate, Bool.or_eq_false_iff, decide_eq_false_iff_not] at h
  have hvalid : u.toNat.isValidChar := by
    rw [Nat.isValidChar]
    omega
  rw [decodeCharacter, if_neg (by simp [isHighSurrogate, isLowSurrogate, h.1, h.2]),
    encodeCharacter, toNat_ofNat hvalid, if_pos (by omega), UInt16.ofNat_toNat]

theorem encode_pair {u v : UInt16} (h : (isHighSurrogate u && isLowSurrogate v) = true) :
    encodeCharacter (decodeCharacter [u, v]) = [u, v] := by
  simp only [isHighSurrogate, isLowSurrogate, Bool.and_eq_true, decide_eq_true_eq] at h
  have hvalid : (0x10000 + (u.toNat - 0xD800) * 0x400 + (v.toNat - 0xDC00)).isValidChar := by
    rw [Nat.isValidChar]
    omega
  have hhigh : 0xD800 + (0x10000 + (u.toNat - 0xD800) * 0x400 + (v.toNat - 0xDC00) - 0x10000) /
      0x400 = u.toNat := by omega
  have hlow : 0xDC00 + (0x10000 + (u.toNat - 0xD800) * 0x400 + (v.toNat - 0xDC00) - 0x10000) %
      0x400 = v.toNat := by omega
  rw [decodeCharacter, encodeCharacter, toNat_ofNat hvalid, if_neg (by omega), hhigh, hlow,
    UInt16.ofNat_toNat,
    UInt16.ofNat_toNat]

/-- Half of a pair is not what comes back. -/
theorem encode_half {u : UInt16} (h : (isHighSurrogate u || isLowSurrogate u) = true) :
    ∃ v, encodeCharacter (decodeCharacter [u]) = [v] ∧ v ≠ u := by
  rw [decodeCharacter, if_pos h]
  refine ⟨0xFFFD, by decide, ?_⟩
  rintro rfl
  revert h
  decide

/-- **UTF-8 holds a text** exactly if that is well formed. -/
theorem wellFormed_iff (text : JsText) : encoded (decoded text) = text ↔ WellFormed text := by
  have hsingle (u : UInt16) (rest : JsText) (hrest : encoded (decoded rest) = rest ↔ WellFormed rest)
      (hcharacters : characters (u :: rest) = [u] :: characters rest) :
      encoded (decoded (u :: rest)) = u :: rest ↔ WellFormed (u :: rest) := by
    rw [WellFormed, hcharacters, forall_mem_cons, ← WellFormed, ← hrest, decoded, hcharacters,
      map_cons, encoded, flatMap_cons, ← encoded, ← decoded]
    cases hhalf : isHighSurrogate u || isLowSurrogate u with
    | false =>
      rw [encode_unit hhalf, singleton_append, cons_inj_right]
      refine (and_iff_right fun v hv => ?_).symm
      obtain rfl := singleton_inj.mp hv
      exact hhalf
    | true =>
      obtain ⟨v, hv, hne⟩ := encode_half hhalf
      rw [hv]
      refine iff_of_false (fun h => hne (List.cons.inj h).1) fun h => ?_
      rw [h.1 u rfl] at hhalf
      cases hhalf
  induction text using Engine.characters.induct with
  | case1 => exact iff_of_true rfl fun _ h => by cases h
  | case2 u => exact hsingle u [] (iff_of_true rfl fun _ h => by cases h) rfl
  | case3 u v text hpair ih =>
    have hcharacters : characters (u :: v :: text) = [u, v] :: characters text := by
      rw [characters, if_pos hpair]
    have hrest : encoded (decoded text) = text ↔ WellFormed text := ih
    rw [WellFormed, hcharacters, forall_mem_cons, ← WellFormed, ← hrest, decoded, hcharacters,
      map_cons, encoded, flatMap_cons, ← encoded, ← decoded, encode_pair hpair]
    refine Iff.trans ?_ (and_iff_right fun w hw => (by cases hw)).symm
    exact append_right_inj [u, v]
  | case4 u v text hpair ih =>
    exact hsingle u (v :: text) ih (by rw [characters, if_neg hpair])

/-! ## Sealing and opening -/

/-- A value of a JSON body. -/
inductive Json where
  | null
  | string (s : JsText)
  | object (fields : List (JsText × Json))
  /-- Anything else, as `String` shows it. -/
  | other (text : JsText)

/-- The fields of a configuration; of one that is null or missing there are none. -/
abbrev Config := String → Option Json

def COLON : UInt16 := 58

/-- The cipher, as the code relies on it. -/
structure Setting (I : Type) where
  /-- The nonce, the tag and the ciphertext of AES-GCM, in base 64, of a text in UTF-8. -/
  parts : I → List Char → List JsText
  length_parts : ∀ iv cs, (parts iv cs).length = 3
  base64 : ∀ iv cs, ∀ part ∈ parts iv cs, COLON ∉ part
  nonempty : ∀ iv cs, cs ≠ [] → ∀ part ∈ parts iv cs, part ≠ []
  /-- Nothing, where it throws. -/
  decipher : List JsText → Option (List Char)
  decipher_parts : ∀ iv cs, decipher (parts iv cs) = some cs
  toUpperCase : JsText → JsText

def REDACTED : JsText := ofString "__redacted__"

variable {I : Type} (env : Setting I)

/-- A sealed text. -/
def encryptSecret (iv : I) (plaintext : JsText) : JsText :=
  [COLON].intercalate (ofString "v1" :: env.parts iv (decoded plaintext))

/-- The text that was sealed. -/
def decryptSecret (text : JsText) : Option JsText :=
  match text.splitOn COLON with
  | version :: iv :: tag :: data :: _ =>
    if version = ofString "v1" ∧ iv ≠ [] ∧ tag ≠ [] ∧ data ≠ [] then
      (env.decipher [iv, tag, data]).map encoded
    else none
  | _ => none

/-- A value in the form of a sealed one. -/
def looksEncrypted (value : JsText) : Bool :=
  let parts := value.splitOn COLON
  parts.length = 4 && parts.head? = some (ofString "v1") && parts.tail.all (· ≠ [])

/-- The config as it is stored. -/
def sealSecret (iv : I) (config : Config) : Config :=
  match config "secret" with
  | some (.string secret) =>
    if secret = [] then config
    else if secret = REDACTED then update config "secret" none
    else if looksEncrypted secret then config
    else update config "secret" (some (.string (encryptSecret env iv secret)))
  | _ => config

/-- The secret the dispatcher signs with. -/
def openSecret (config : Config) : Option JsText :=
  match config "secret" with
  | some (.string secret) =>
    if secret = [] ∨ secret = REDACTED then none
    else if looksEncrypted secret then decryptSecret env secret
    else some secret
  | _ => none

/-- `REDACTED_CONFIG`. -/
def redactedConfig (config : Config) : Config :=
  if (config "secret").isSome then update config "secret" (some (.string REDACTED)) else config

/-! ## Storing a destination -/

def Json.text : Json → JsText
  | .null => ofString "null"
  | .string s => s
  | .object _ => ofString "[object Object]"
  | .other text => text

/-- A field that is neither missing nor null. -/
def present (source : Config) (key : String) : Option Json :=
  (source key).bind fun value => match value with
    | .null => none
    | value => some value

/-- Copies a field that is present, as `read` has it. -/
def copied (source : Config) (key : String) (read : Json → Except String Json) (out : Config) :
    Except String Config :=
  match present source key with
  | none => .ok out
  | some value => (read value).map fun v => update out key (some v)

/-- A string that a check lets pass. -/
def readString (check : JsText → Option JsText) (message : String) :
    Json → Except String Json
  | .string s => ((check s).map Json.string).elim (.error message) .ok
  | _ => .error message

def isAlphanumeric (c : Char) : Bool := c.isDigit || ('a' ≤ c && c ≤ 'z')

/-- `/^[a-z0-9][a-z0-9._-]*$/`. -/
def isEngineId (s : JsText) : Bool :=
  let s := decoded s
  s.head?.any isAlphanumeric && s.all fun c => isAlphanumeric c || "._-".toList.contains c

/-- `/^[0-9a-f]\x7b8\x7d-[0-9a-f]\x7b4\x7d-[1-5][0-9a-f]\x7b3\x7d-[89ab][0-9a-f]\x7b3\x7d-[0-9a-f]\x7b12\x7d$/i`. -/
def isUuid (s : JsText) : Bool :=
  let groups := ((decoded s).map Char.toLower).splitOn '-'
  groups.map List.length = [8, 4, 4, 4, 12] &&
    groups.all (fun group => group.all fun c => c.isDigit || ('a' ≤ c && c ≤ 'f')) &&
    ((groups.drop 2).head?.bind List.head?).any ("12345".toList.contains ·) &&
    ((groups.drop 3).head?.bind List.head?).any ("89ab".toList.contains ·)

/-- One header, if it is allowed. -/
def readHeader (field : JsText × Json) : Except String (JsText × Json) :=
  let key := decoded field.1
  if field.1 = [] ∨ 64 < field.1.length ∨
      ¬ key.all (fun c => isAlphanumeric c.toLower || c = '-') then
    .error ("config.headers key \"" ++ String.ofList key ++ "\" is not a valid header name")
  else if key.map Char.toLower ∈ ["host".toList, "content-length".toList] then
    .error ("config.headers may not set \"" ++ String.ofList key ++ "\"")
  else .ok (field.1, .string (field.2.text.take 1024))

def readHeaders : Json → Except String Json
  | .object fields => (fields.mapM readHeader).map .object
  | _ => .error "config.headers must be an object of string values"

/-- The config as it is accepted. -/
def validateDestinationConfig (source : Config) : MoDeliveryKind → Except String Config
  | .webhook =>
    let method := env.toUpperCase ((present source "method").elim (ofString "POST") Json.text)
    if method ≠ ofString "POST" ∧ method ≠ ofString "PUT" then
      .error "config.method must be POST or PUT"
    else do
      let out ← copied source "secret"
        (readString (fun s => if 512 < s.length then none else some s)
          "config.secret must be a string of at most 512 characters")
        fun key => if key = "method" then some (.string method) else none
      copied source "headers" readHeaders out
  | .email =>
    copied source "subject" (readString (fun s => if 200 < s.length then none else some s)
      "config.subject must be a string of at most 200 characters") fun _ => none
  | .sms => do
    let out ← copied source "sender"
      (readString (fun s => if trimUnits s = [] ∨ 20 < s.length then none
        else some (trimUnits s)) "config.sender must be a sender ID of at most 20 characters")
      fun _ => none
    let out ← copied source "smscId" (readString (fun s => if isEngineId s then some s else none)
      "config.smscId must be an engine-level SMSC identifier") out
    copied source "customerId" (readString (fun s => if isUuid s then some s else none)
      "config.customerId must be a UUID") out

/-- A row of `mo_rule_destinations`. -/
structure DestinationRow where
  ruleId : String
  kind : MoDeliveryKind
  target : String
  config : Config

def MAX_DESTINATIONS_PER_RULE : ℕ := 20

/-- What the unique index identifies. -/
def DestinationRow.isAt (ruleId : String) (kind : MoDeliveryKind) (target : String)
    (row : DestinationRow) : Bool :=
  row.ruleId = ruleId ∧ row.kind = kind ∧ row.target = target

/-- `addDestination`, of a kind and a target that are valid. -/
def addDestination (iv : I) (rules : List String) (rows : List DestinationRow) (ruleId : String)
    (kind : MoDeliveryKind) (target : String) (config : Config) :
    Except String (List DestinationRow) := do
  let config ← validateDestinationConfig env config kind
  if ruleId ∉ rules then .error "MO routing rule not found"
  else if MAX_DESTINATIONS_PER_RULE ≤ (rows.filter (·.ruleId = ruleId)).length then
    .error "A rule may fan out to at most 20 destinations"
  else if rows.any (DestinationRow.isAt ruleId kind target) then
    .ok (rows.map fun row =>
      if row.isAt ruleId kind target then { row with config := sealSecret env iv config } else row)
  else .ok (rows ++ [⟨ruleId, kind, target, sealSecret env iv config⟩])

/-! ## A secret there and back -/

variable {env} {iv : I} {config : Config} {s : JsText} {source out out' : Config}

theorem splitOn_encryptSecret (iv : I) (s : JsText) :
    (encryptSecret env iv s).splitOn COLON = ofString "v1" :: env.parts iv (decoded s) :=
  splitOn_intercalate COLON (forall_mem_cons.mpr ⟨by decide, env.base64 iv _⟩)
    (cons_ne_nil _ _)

theorem decoded_ne_nil (hs : s ≠ []) : decoded s ≠ [] := by
  have hcharacters : characters s ≠ [] := by
    rcases s with _ | ⟨u, _ | ⟨v, s⟩⟩
    · exact absurd rfl hs
    · exact cons_ne_nil _ _
    · rw [characters]
      split <;> exact cons_ne_nil _ _
  exact fun h => hcharacters (map_eq_nil_iff.mp h)

theorem looksEncrypted_encryptSecret (hs : s ≠ []) :
    looksEncrypted (encryptSecret env iv s) = true := by
  have hall : (env.parts iv (decoded s)).all (· ≠ []) = true :=
    all_eq_true.mpr fun part hpart =>
      decide_eq_true (env.nonempty iv _ (decoded_ne_nil hs) part hpart)
  simp only [looksEncrypted, splitOn_encryptSecret, length_cons, env.length_parts,
    head?_cons, tail_cons, hall]
  rfl

theorem decryptSecret_encryptSecret (hs : s ≠ []) :
    decryptSecret env (encryptSecret env iv s) = some (encoded (decoded s)) := by
  have hparts := env.nonempty iv _ (decoded_ne_nil hs)
  have hback := congrArg (Option.map encoded) (env.decipher_parts iv (decoded s))
  rw [decryptSecret, splitOn_encryptSecret]
  obtain ⟨nonce, tag, data, hthree⟩ := length_eq_three.mp (env.length_parts iv (decoded s))
  rw [hthree] at hparts hback ⊢
  refine Eq.trans (if_pos ⟨rfl, hparts _ ?_, hparts _ ?_, hparts _ ?_⟩) hback <;> simp

theorem not_redacted_of_looksEncrypted (h : looksEncrypted s = true) :
    ¬ (s = [] ∨ s = REDACTED) := by
  rintro (rfl | rfl) <;> exact absurd h (by decide)

/-- **A secret survives** if it does not look like an encrypted one and UTF-8 holds it. -/
theorem open_seal_iff (iv : I) (hconfig : config "secret" = some (.string s)) (hs : s ≠ [])
    (hmarker : s ≠ REDACTED) :
    (openSecret env (sealSecret env iv config) = some s ∧
      sealSecret env iv config "secret" ≠ some (.string s)) ↔
        looksEncrypted s = false ∧ WellFormed s := by
  simp only [sealSecret, hconfig, if_neg hs, if_neg hmarker]
  cases hlooks : looksEncrypted s with
  | true => exact iff_of_false (fun h => h.2 hconfig) fun h => Bool.noConfusion h.1
  | false =>
    have hencrypted : looksEncrypted (encryptSecret env iv s) = true :=
      looksEncrypted_encryptSecret hs
    have hopened : openSecret env (update config "secret"
        (some (.string (encryptSecret env iv s)))) = some (encoded (decoded s)) := by
      simp only [openSecret, update_self, hencrypted,
        if_neg (not_redacted_of_looksEncrypted hencrypted), if_true]
      exact decryptSecret_encryptSecret hs
    rw [if_neg Bool.false_ne_true, hopened, some_inj, wellFormed_iff, and_iff_right rfl]
    refine and_iff_left fun heq => ?_
    · simp only [update_self] at heq
      rw [Json.string.inj (some.inj heq), hlooks] at hencrypted
      cases hencrypted

/-- What is sealed is not sealed again, and nothing but the secret is. -/
theorem sealSecret_spec (iv iv' : I) (config : Config) :
    sealSecret env iv' (sealSecret env iv config) = sealSecret env iv config ∧
      ∀ key ≠ "secret", sealSecret env iv config key = config key := by
  -- what is left in place is left in place again
  have hkept (config : Config) (h : ∀ iv, sealSecret env iv config = config) :
      sealSecret env iv' (sealSecret env iv config) = sealSecret env iv config ∧
        ∀ key ≠ "secret", sealSecret env iv config key = config key := by
    rw [h iv, h iv']
    exact ⟨rfl, fun _ _ => rfl⟩
  cases hsecret : config "secret" with
  | none => exact hkept config fun iv => by rw [sealSecret, hsecret]
  | some value =>
    cases value with
    | null | object _ | other _ => exact hkept config fun iv => by rw [sealSecret, hsecret]
    | string s =>
      by_cases hempty : s = []
      · exact hkept config fun iv => by simp only [sealSecret, hsecret, if_pos hempty]
      by_cases hmarker : s = REDACTED
      · have hdropped : sealSecret env iv config = update config "secret" none := by
          simp only [sealSecret, hsecret, if_neg hempty, if_pos hmarker]
        rw [hdropped, sealSecret, update_self]
        exact ⟨rfl, fun key hkey => update_of_ne hkey ..⟩
      cases hlooks : looksEncrypted s with
      | true =>
        exact hkept config fun iv => by
          simp only [sealSecret, hsecret, if_neg hempty, if_neg hmarker, if_pos hlooks]
      | false =>
        have hencrypted : looksEncrypted (encryptSecret env iv s) = true :=
          looksEncrypted_encryptSecret hempty
        have hne := not_or.mp (not_redacted_of_looksEncrypted hencrypted)
        have hsealed : sealSecret env iv config =
            update config "secret" (some (.string (encryptSecret env iv s))) := by
          simp only [sealSecret, hsecret, if_neg hempty, if_neg hmarker, hlooks,
            Bool.false_eq_true, if_false]
        refine ⟨?_, fun key hkey => by rw [hsealed, update_of_ne hkey]⟩
        rw [hsealed]
        simp only [sealSecret, update_self, if_neg hne.1, if_neg hne.2, hencrypted, if_true]

/-! ## A secret and its marker -/

theorem copied_secret {key : String} {read : Json → Except String Json}
    (hkey : key ≠ "secret") (h : copied source key read out = .ok out') :
    out' "secret" = out "secret" := by
  rw [copied] at h
  split at h
  · rw [← Except.ok.inj h]
  · next value _ =>
    cases hread : read value with
    | error e => rw [hread] at h; cases h
    | ok v =>
      rw [hread] at h
      cases h
      exact update_of_ne hkey.symm ..

/-- The secret of what is submitted as it was shown is the marker, if there is one. -/
theorem copied_redacted (hout : out "secret" = none) {check : JsText → Option JsText}
    (hcheck : ∀ s s', check s = some s' → s' = s) {message : String}
    (h : copied (redactedConfig source) "secret" (readString check message) out = .ok out') :
    out' "secret" = none ∨ out' "secret" = some (.string REDACTED) := by
  rw [copied, present, redactedConfig] at h
  cases hsource : source "secret" with
  | none =>
    simp only [hsource, isSome_none, Bool.false_eq_true, if_false, bind_none] at h
    cases h
    exact .inl hout
  | some value =>
    simp only [hsource, isSome_some, if_true, update_self, bind_some, readString] at h
    cases hread : check REDACTED with
    | none => rw [hread] at h; cases h
    | some s =>
      obtain rfl := hcheck _ s hread
      rw [hread] at h
      cases h
      exact .inr (update_self ..)

/-- A configuration that is submitted as it was shown has no secret but the marker. -/
theorem validate_redacted {source config : Config} {kind : MoDeliveryKind}
    (h : validateDestinationConfig env (redactedConfig source) kind = .ok config) :
    config "secret" = none ∨ config "secret" = some (.string REDACTED) := by
  cases kind with
  | webhook =>
    simp only [validateDestinationConfig] at h
    split at h
    · cases h
    · obtain ⟨out, hout, h⟩ := Transaction.bind_eq_ok h
      rw [copied_secret (by decide) h]
      refine copied_redacted rfl (fun s s' hs => ?_) hout
      split at hs
      · cases hs
      · exact (some.inj hs).symm
  | email => exact .inl (copied_secret (by decide) h)
  | sms =>
    obtain ⟨sender, hsender, h⟩ := Transaction.bind_eq_ok h
    obtain ⟨smscId, hsmscId, h⟩ := Transaction.bind_eq_ok h
    rw [copied_secret (by decide) h, copied_secret (by decide) hsmscId,
      copied_secret (by decide) hsender]
    exact .inl rfl

theorem open_seal_redacted (iv : I)
    (h : config "secret" = none ∨ config "secret" = some (.string REDACTED)) :
    openSecret env (sealSecret env iv config) = none := by
  rcases h with h | h
  · simp only [sealSecret, h, openSecret]
  · rw [sealSecret, h]
    rfl

/-- **The marker takes a secret away**: when a destination is submitted as it was shown, what is
stored has none. -/
theorem open_echo {rules : List String} {rows rows' : List DestinationRow} {row : DestinationRow}
    (hrow : row ∈ rows) (h : addDestination env iv rules rows row.ruleId row.kind row.target
      (redactedConfig row.config) = .ok rows') :
    ∀ r ∈ rows', r.isAt row.ruleId row.kind row.target = true → openSecret env r.config = none := by
  obtain ⟨config, hconfig, h⟩ := Transaction.bind_eq_ok h
  have hnone : openSecret env (sealSecret env iv config) = none :=
    open_seal_redacted iv (validate_redacted hconfig)
  have hself : row.isAt row.ruleId row.kind row.target = true := decide_eq_true ⟨rfl, rfl, rfl⟩
  rw [if_pos (any_eq_true.mpr ⟨row, hrow, hself⟩)] at h
  split at h
  · cases h
  split at h
  · cases h
  cases h
  intro r hr hat
  obtain ⟨old, hold, rfl⟩ := mem_map.mp hr
  by_cases holdAt : old.isAt row.ruleId row.kind row.target = true
  · rw [if_pos holdAt]
    exact hnone
  · rw [if_neg holdAt] at hat
    exact absurd hat holdAt

/-- **When secrets survive storage.**  What is stored is opened again, and is not what was given,
exactly if that does not look encrypted and has no half of a surrogate pair; what is sealed is
sealed once, and nothing else is touched; and a destination that is submitted as it was shown keeps
its secret exactly if it had none. -/
theorem secrets_survive_iff :
    (∀ iv config s, config "secret" = some (.string s) → s ≠ [] → s ≠ REDACTED →
      ((openSecret env (sealSecret env iv config) = some s ∧
        sealSecret env iv config "secret" ≠ some (.string s)) ↔
          looksEncrypted s = false ∧ WellFormed s)) ∧
      (∀ iv iv' config, sealSecret env iv' (sealSecret env iv config) = sealSecret env iv config ∧
          ∀ key ≠ "secret", sealSecret env iv config key = config key) ∧
      ∀ iv rules rows rows', ∀ row ∈ rows,
        addDestination env iv rules rows row.ruleId row.kind row.target
          (redactedConfig row.config) = .ok rows' →
        ∀ r ∈ rows', r.isAt row.ruleId row.kind row.target = true →
          (openSecret env r.config = openSecret env row.config ↔
            openSecret env row.config = none) := by
  refine ⟨fun iv config s => open_seal_iff iv, sealSecret_spec, ?_⟩
  intro iv rules rows rows' row hrow h r hr hat
  rw [open_echo hrow h r hr hat]
  exact eq_comm

/-! ## Secrets that are lost -/

/-- A cipher without a key: two units a character, neither of them a colon. -/
def enciphered (cs : List Char) : JsText :=
  cs.flatMap fun c =>
    [UInt16.ofNat (1000 + c.toNat / 2048), UInt16.ofNat (1000 + c.toNat % 2048)]

def deciphered : JsText → List Char
  | u :: v :: text => Char.ofNat ((u.toNat - 1000) * 2048 + (v.toNat - 1000)) :: deciphered text
  | _ => []

/-- Both units are in the range of one. -/
theorem units_toNat (c : Char) :
    (UInt16.ofNat (1000 + c.toNat / 2048)).toNat = 1000 + c.toNat / 2048 ∧
      (UInt16.ofNat (1000 + c.toNat % 2048)).toNat = 1000 + c.toNat % 2048 := by
  have hlt : c.toNat < 0x110000 := by
    have hvalid : c.toNat.isValidChar := c.valid
    rw [Nat.isValidChar] at hvalid
    omega
  have hsize : UInt16.size = 65536 := rfl
  constructor <;> exact UInt16.toNat_ofNat_of_lt (by omega)

theorem deciphered_enciphered (cs : List Char) : deciphered (enciphered cs) = cs := by
  induction cs with
  | nil => rfl
  | cons c cs ih =>
    have hback : (1000 + c.toNat / 2048 - 1000) * 2048 + (1000 + c.toNat % 2048 - 1000) =
        c.toNat := by omega
    rw [enciphered, flatMap_cons, ← enciphered, cons_append, singleton_append,
      deciphered, (units_toNat c).1, (units_toNat c).2, hback, ih, Char.ofNat_toNat]

theorem colon_notMem_enciphered (cs : List Char) : COLON ∉ enciphered cs := by
  rw [enciphered, mem_flatMap]
  rintro ⟨c, -, hc⟩
  have hcolon : COLON.toNat = 58 := rfl
  obtain ⟨hhigh, hlow⟩ := units_toNat c
  rcases mem_pair.mp hc with h | h <;> rw [h] at hcolon <;> omega

def exampleSetting : Setting Unit where
  parts _ cs := [[110], [116], enciphered cs]
  length_parts _ _ := rfl
  base64 _ cs := by simpa [COLON] using colon_notMem_enciphered cs
  nonempty _ cs hcs := by
    cases cs with
    | nil => exact absurd rfl hcs
    | cons c cs => simp [enciphered]
  decipher parts := parts.getLast?.map deciphered
  decipher_parts _ cs := congrArg some (deciphered_enciphered cs)
  toUpperCase text := encoded ((decoded text).map Char.toUpper)

def webhook (secret : JsText) : Config := fun key =>
  if key = "secret" then some (.string secret) else none

def stored : Config := sealSecret exampleSetting () (webhook (ofString "hunter2"))

/-- A secret that looks encrypted is never opened, half of a surrogate pair is opened as another
text, and a secret that is shown and submitted is gone. -/
theorem secrets_lost :
    openSecret exampleSetting (sealSecret exampleSetting () (webhook (ofString "v1:a:b:0c"))) ≠
        some (ofString "v1:a:b:0c") ∧
      openSecret exampleSetting (sealSecret exampleSetting () (webhook [0xD800])) ≠
        some [0xD800] ∧
      openSecret exampleSetting stored = some (ofString "hunter2") ∧
      ((addDestination exampleSetting () ["rule"] [⟨"rule", .webhook, "https://a", stored⟩] "rule"
        .webhook "https://a" (redactedConfig stored)).toOption.map
          fun rows => rows.map fun r => openSecret exampleSetting r.config) = some [none] := by
  decide +kernel

end Jkannel.Messaging.WebhookSecret
