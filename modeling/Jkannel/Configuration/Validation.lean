import Jkannel.Configuration.Secrets
import Jkannel.Lib.JsNumber

/-!
# The model of a configuration, and what it is checked for

An `EngineConfiguration` is what a configuration is rendered from.  `validate` lists everything that
is wrong with one; nothing is rendered unless the list is empty.  The fields that the types of the
source restrict to a few strings or numbers are strings and numbers here, since a model can come
from a request's body, where nothing else restricts them.

* `validateSmscs`, `validateBoxes` and `validateRenderedValues` are the three parts of the check.
* `ROUTING_LISTS` are the list fields of a link, with the directive each is rendered as.
* `Accepted` is what an accepted model is known to have, as far as its strings are written out.
-/

namespace Jkannel.Configuration

open Directives

/-! ## The model -/

/-- One engine SMSC link. -/
structure EngineSmsc where
  id : String
  type : String
  host : Option String := none
  port : Option JsNumber := none
  receivePort : Option JsNumber := none
  enabled : Bool
  username : Option String := none
  usernameSecretRef : Option String := none
  passwordSecretRef : Option String := none
  systemType : Option String := none
  bindMode : Option String := none
  interfaceVersion : Option JsNumber := none
  addressRange : Option String := none
  sourceAddrTon : Option JsNumber := none
  sourceAddrNpi : Option JsNumber := none
  destAddrTon : Option JsNumber := none
  destAddrNpi : Option JsNumber := none
  windowSize : Option JsNumber := none
  throughput : Option JsNumber := none
  keepaliveSeconds : Option JsNumber := none
  reconnectDelaySeconds : Option JsNumber := none
  waitAckSeconds : Option JsNumber := none
  maxErrorCount : Option JsNumber := none
  useTls : Option Bool := none
  altCharset : Option String := none
  sendUrl : Option String := none
  connectionCount : Option JsNumber := none
  connectionTimeoutSeconds : Option JsNumber := none
  waitAckExpireAction : Option JsNumber := none
  retryOnAuthFailure : Option Bool := none
  allowedSmscIds : Option (List String) := none
  deniedSmscIds : Option (List String) := none
  preferredSmscIds : Option (List String) := none
  allowedPrefixes : Option (List String) := none
  deniedPrefixes : Option (List String) := none
  preferredPrefixes : Option (List String) := none

/-- The `smsbox` group of the model. -/
structure EngineSmsbox where
  bearerboxHost : String
  sendsmsPort : JsNumber
  smsboxId : Option String := none
  globalSender : Option String := none
  logLevel : Option JsNumber := none

/-- One `sendsms-user` group. -/
structure EngineSendsmsUser where
  username : String
  passwordSecretRef : String
  defaultSender : Option String := none
  allowedIps : Option String := none
  maxMessages : Option JsNumber := none
  concatenation : Option Bool := none
  forcedSmsc : Option String := none
  defaultSmsc : Option String := none

/-- One `sms-service` group. -/
structure EngineSmsService where
  keyword : String
  aliases : Option (List String) := none
  text : Option String := none
  getUrl : Option String := none
  postUrl : Option String := none
  maxMessages : Option JsNumber := none
  concatenation : Option Bool := none
  catchAll : Option Bool := none
  omitEmpty : Option Bool := none
  acceptXKannelHeaders : Option Bool := none
  sendSender : Option Bool := none

/-- Where delivery reports are kept. -/
structure EngineDlrStorage where
  type : String
  connectionId : Option String := none
  table : Option String := none

/-- The `sqlbox` group and its database. -/
structure EngineSqlbox where
  enabled : Bool
  serviceHost : String
  host : String
  port : JsNumber
  database : String
  usernameEnv : String
  passwordEnv : String

/-- The model a file is generated from. -/
structure EngineConfiguration where
  adminPort : JsNumber
  smsboxPort : JsNumber
  adminSecretRef : String
  statusSecretRef : Option String := none
  logLevel : JsNumber
  sqlbox : Option EngineSqlbox := none
  smsc : List EngineSmsc
  smsbox : Option EngineSmsbox := none
  sendsmsUsers : Option (List EngineSendsmsUser) := none
  smsServices : Option (List EngineSmsService) := none
  dlrStorage : Option EngineDlrStorage := none

def EngineConfiguration.users (model : EngineConfiguration) : List EngineSendsmsUser :=
  model.sendsmsUsers.getD []

def EngineConfiguration.services (model : EngineConfiguration) : List EngineSmsService :=
  model.smsServices.getD []

def DEFAULT_STATUS_SECRET_REF : String := "secret://kamex/status-password"

/-- A list field of a link, and the directive it is rendered as. -/
structure RoutingList where
  field : String
  directive : String
  list : EngineSmsc → Option (List String)

def ROUTING_LISTS : List RoutingList :=
  [⟨"allowedSmscIds", "allowed-smsc-id", EngineSmsc.allowedSmscIds⟩,
    ⟨"deniedSmscIds", "denied-smsc-id", EngineSmsc.deniedSmscIds⟩,
    ⟨"preferredSmscIds", "preferred-smsc-id", EngineSmsc.preferredSmscIds⟩,
    ⟨"allowedPrefixes", "allowed-prefix", EngineSmsc.allowedPrefixes⟩,
    ⟨"deniedPrefixes", "denied-prefix", EngineSmsc.deniedPrefixes⟩,
    ⟨"preferredPrefixes", "preferred-prefix", EngineSmsc.preferredPrefixes⟩]

/-! ## The check -/

/-- `errors.push(message)` under a condition. -/
def fails (condition : Prop) [Decidable condition] (message : String) : List String :=
  if condition then [message] else []

@[simp] theorem fails_eq_nil {condition : Prop} [Decidable condition] {message : String} :
    fails condition message = [] ↔ ¬ condition := by
  rw [fails]
  split <;> simp [*]

/-- A string that is missing or empty. -/
def blank (value : Option String) : Bool := (Text.truthy value).isNone

/-- A number that is missing, zero or not a number. -/
def zero (value : Option JsNumber) : Bool := !(value.any JsNumber.truthy)

/-- `value !== undefined && !isInteger(value, low, high)`. -/
def outside (low high : ℤ) (value : Option JsNumber) : Bool :=
  value.any fun n => !n.integerBetween low high

/-- `value !== undefined && ![…].includes(value)`. -/
def noneOf (values : List ℤ) (value : Option JsNumber) : Bool :=
  value.any fun n => !values.any n.isInt

/-- Parallel-bind count and the reconnect and idle-detection attributes. -/
def validateSmscResilience (smsc : EngineSmsc) : List String :=
  (match smsc.connectionCount with
    | none => []
    | some count =>
      if !count.integerBetween 1 64 then
        [s!"{smsc.id} connectionCount must be an integer between 1 and 64"]
      else fails (count.above 1 ∧ smsc.type ≠ "smpp")
        (s!"{smsc.id} connectionCount above 1 is only supported for SMPP links; " ++
          s!"the {smsc.type} adapter listens on a single local port")) ++
  fails (outside 0 86400 smsc.connectionTimeoutSeconds)
    s!"{smsc.id} connectionTimeoutSeconds must be an integer between 0 and 86400" ++
  fails (noneOf [0, 1, 2] smsc.waitAckExpireAction)
    s!"{smsc.id} waitAckExpireAction must be 0, 1 or 2"

/-- One entry of a list field. -/
def validateEntry (smsc : EngineSmsc) (list : RoutingList) (entry : String) : List String :=
  if Text.trim entry = "" then
    [s!"{smsc.id} {list.field} entries must be non-empty strings"]
  else fails (';' ∈ entry.toList)
    (s!"{smsc.id} {list.field} entry \"{entry}\" may not contain \";\": " ++
      s!"it separates values in {list.directive}")

/-- The allowed, denied and preferred smsc-id and prefix lists. -/
def validateSmscRouting (smsc : EngineSmsc) : List String :=
  (ROUTING_LISTS.flatMap fun list =>
    ((list.list smsc).getD []).flatMap (validateEntry smsc list)) ++
  fails ((smsc.allowedSmscIds.getD []) ≠ [] ∧ (smsc.deniedSmscIds.getD []) ≠ [])
    (s!"{smsc.id} cannot set both allowedSmscIds and deniedSmscIds: the engine ignores " ++
      "denied-smsc-id whenever allowed-smsc-id is present")

def validateSmscAttributes (smsc : EngineSmsc) : List String :=
  fails (smsc.bindMode.any fun mode =>
      mode ≠ "" && mode ∉ ["transceiver", "transmitter", "receiver"])
    s!"{smsc.id} bindMode must be transceiver, transmitter or receiver" ++
  fails (smsc.bindMode = some "receiver" ∧ zero (smsc.receivePort <|> smsc.port))
    s!"{smsc.id} receiver bind requires receivePort or port" ++
  fails (noneOf [33, 34, 50] smsc.interfaceVersion)
    s!"{smsc.id} interfaceVersion must be 33, 34 or 50" ++
  ([("sourceAddrTon", smsc.sourceAddrTon), ("sourceAddrNpi", smsc.sourceAddrNpi),
      ("destAddrTon", smsc.destAddrTon), ("destAddrNpi", smsc.destAddrNpi)].flatMap
    fun (field, value) =>
      fails (outside 0 255 value) s!"{smsc.id} {field} must be an integer between 0 and 255") ++
  fails (outside 1 1000 smsc.windowSize)
    s!"{smsc.id} windowSize must be an integer between 1 and 1000" ++
  fails (smsc.throughput.any fun n => !n.above 0)
    s!"{smsc.id} throughput must be a positive number" ++
  fails (outside 0 3600 smsc.keepaliveSeconds)
    s!"{smsc.id} keepaliveSeconds must be an integer between 0 and 3600" ++
  fails (outside 0 3600 smsc.reconnectDelaySeconds)
    s!"{smsc.id} reconnectDelaySeconds must be an integer between 0 and 3600" ++
  fails (outside 1 3600 smsc.waitAckSeconds)
    s!"{smsc.id} waitAckSeconds must be an integer between 1 and 3600" ++
  validateSmscResilience smsc ++ validateSmscRouting smsc ++
  fails (smsc.type = "http" ∧ smsc.enabled ∧ blank smsc.sendUrl)
    s!"{smsc.id} HTTP SMSC requires sendUrl" ++
  fails (smsc.type = "at" ∧ smsc.enabled)
    (s!"{smsc.id} AT modem SMSCs cannot be rendered: the modem device, speed and " ++
      "modem type attributes are not modelled yet")

/-- A reference that is there and is none. -/
def notReference (value : Option String) : Bool := value.any fun s => s ≠ "" && !startsWithScheme s

/-- One link, behind links with the ids `seen`. -/
def validateSmsc (seen : List String) (smsc : EngineSmsc) : List String :=
  fails (smsc.id ∈ seen) s!"duplicate SMSC id: {smsc.id}" ++
  fails (smsc.type ≠ "fake" ∧ (blank smsc.host ∨ zero smsc.port))
    s!"{smsc.id} requires host and port" ++
  fails (smsc.enabled ∧ smsc.type = "fake" ∧ zero smsc.port)
    s!"{smsc.id} is a fake SMSC and requires a port for bearerbox to listen on" ++
  fails (smsc.enabled ∧ smsc.type = "smpp" ∧ blank smsc.username ∧ blank smsc.usernameSecretRef)
    (s!"{smsc.id} is an SMPP bind and requires a system id or a username secret reference — " ++
      "without one the engine logs \"Configuration file does not specify username\" and never binds") ++
  fails (smsc.enabled ∧ smsc.type = "smpp" ∧ smsc.systemType = none)
    (s!"{smsc.id} is an SMPP bind and needs its system type set — without the directive " ++
      "bearerbox panics on startup and takes every other SMSC down with it, not just " ++
      "this one. Use the value the carrier issued, or an empty one if they issue none; " ++
      "empty is a valid answer, absent is not.") ++
  fails (notReference smsc.usernameSecretRef) s!"{smsc.id} credential must be a secret reference" ++
  fails (notReference smsc.passwordSecretRef) s!"{smsc.id} password must be a secret reference" ++
  validateSmscAttributes smsc

/-- The links, each with the ids before it. -/
def validateSmscs (seen : List String) : List EngineSmsc → List String
  | [] => []
  | smsc :: rest => validateSmsc seen smsc ++ validateSmscs (smsc.id :: seen) rest

/-- Every `secret://` reference the model carries, in render order. -/
def secretReferences (model : EngineConfiguration) : List String :=
  let references := [some model.adminSecretRef,
      some (model.statusSecretRef.getD DEFAULT_STATUS_SECRET_REF)] ++
    ((model.smsc.filter fun smsc => smsc.enabled).flatMap fun smsc =>
      [smsc.usernameSecretRef, smsc.passwordSecretRef]) ++
    model.users.map fun user => some user.passwordSecretRef
  (references.filterMap id).filter startsWithScheme

/-- `/^https?:\/\/[^\s"]+$/`. -/
def isHttpUrl (url : String) : Bool :=
  ["http://", "https://"].any fun scheme =>
    scheme.toList.isPrefixOf url.toList &&
      (let rest := url.toList.drop scheme.toList.length
       !rest.isEmpty && rest.all fun c => !Text.isSpace c && c != '"')

/-- An smsbox must not be able to bypass SQLBox. -/
def validateSmsboxUpstream (smsbox : EngineSmsbox) (sqlbox : Option EngineSqlbox) : List String :=
  match sqlbox with
  | none => []
  | some sqlbox =>
    fails (sqlbox.enabled ∧ sqlbox.serviceHost ≠ "" ∧ smsbox.bearerboxHost ≠ sqlbox.serviceHost)
      (s!"smsbox.bearerboxHost is \"{smsbox.bearerboxHost}\" but SQLBox (\"{sqlbox.serviceHost}\") " ++
        "is deployed between smsbox and bearerbox: this configuration would bypass SQLBox, " ++
        "and message history (sent_sms) plus MO ingest would stop without any error. " ++
        s!"Set it to \"{sqlbox.serviceHost}\".")

/-- One sendsms-user, behind users with the names `seen`. -/
def validateUsers (seen : List String) : List EngineSendsmsUser → List String
  | [] => []
  | user :: rest =>
    fails (user.username = "") "sendsms-user username is required" ++
    fails (user.username ∈ seen) s!"duplicate sendsms-user username: {user.username}" ++
    fails (!startsWithScheme user.passwordSecretRef)
      s!"sendsms-user {user.username} password must be a secret reference" ++
    validateUsers (user.username :: seen) rest

/-- One `sms-service` group. -/
def validateService (service : EngineSmsService) : List String :=
  fails (service.keyword = "") "sms-service keyword is required" ++
  fails (([service.text, service.getUrl, service.postUrl].filter Option.isSome).length ≠ 1)
    s!"sms-service {service.keyword} must declare exactly one of text, getUrl or postUrl" ++
  ([("getUrl", service.getUrl), ("postUrl", service.postUrl)].flatMap fun (field, value) =>
    fails (value.any fun url => !isHttpUrl url)
      s!"sms-service {service.keyword} {field} must be an absolute http:// or https:// URL") ++
  fails ((!blank service.getUrl || !blank service.postUrl) ∧
      (!service.maxMessages.any fun n => n.isInt 0) ∧ service.keyword = "default")
    ("sms-service default forwards to a URL, so it must set maxMessages: 0; otherwise " ++
      "the callback's response body is sent back to the sender as an SMS")

/-- What the boxes ask of each other. -/
def validateBoxes (env : Runtime) (model : EngineConfiguration) : List String :=
  fails ((model.users ≠ [] ∨ model.services ≠ []) ∧ model.smsbox.isNone)
    "sendsms-user and sms-service groups require an smsbox group" ++
  (match model.smsbox with
    | none => []
    | some smsbox =>
      fails (smsbox.bearerboxHost = "") "smsbox.bearerboxHost is required" ++
      fails (!smsbox.sendsmsPort.integerBetween 1 65535)
        "smsbox.sendsmsPort must be a valid port" ++
      fails (smsbox.sendsmsPort.strictEq model.adminPort ||
          smsbox.sendsmsPort.strictEq model.smsboxPort)
        "smsbox.sendsmsPort must differ from adminPort and smsboxPort" ++
      validateSmsboxUpstream smsbox model.sqlbox) ++
  validateUsers [] model.users ++
  (if model.services = [] then []
    else fails ((model.services.filter fun service => service.keyword = "default").length ≠ 1)
        "sms-service list must contain exactly one service with keyword \"default\"" ++
      model.services.flatMap validateService) ++
  (match model.dlrStorage with
    | none => []
    | some storage =>
      fails (storage.type ∈ ["pgsql", "mysql"] ∧ blank storage.connectionId)
        s!"dlrStorage type {storage.type} requires connectionId") ++
  (secretReferences model).flatMap fun reference =>
    match envName env reference with
    | .ok _ => []
    | .error _ => [s!"{reference} does not map to an environment variable name"]

/-- The strings of a link that are screened. -/
def smscEntries (smsc : EngineSmsc) : List (String × Unknown) :=
  [(s!"{smsc.id}.host", .ofOption smsc.host), (s!"{smsc.id}.id", .string smsc.id),
    (s!"{smsc.id}.systemType", .ofOption smsc.systemType),
    (s!"{smsc.id}.addressRange", .ofOption smsc.addressRange),
    (s!"{smsc.id}.altCharset", .ofOption smsc.altCharset),
    (s!"{smsc.id}.sendUrl", .ofOption smsc.sendUrl)] ++
  ROUTING_LISTS.flatMap fun list =>
    ((list.list smsc).getD []).mapIdx fun index entry =>
      (s!"{smsc.id}.{list.field}[{index}]", .string entry)

def smsboxEntries (smsbox : EngineSmsbox) : List (String × Unknown) :=
  [("smsbox.bearerboxHost", .string smsbox.bearerboxHost),
    ("smsbox.smsboxId", .ofOption smsbox.smsboxId),
    ("smsbox.globalSender", .ofOption smsbox.globalSender)]

def userEntries (index : Nat) (user : EngineSendsmsUser) : List (String × Unknown) :=
  [(s!"sendsmsUsers[{index}].username", .string user.username),
    (s!"sendsmsUsers[{index}].allowedIps", .ofOption user.allowedIps),
    (s!"sendsmsUsers[{index}].defaultSmsc", .ofOption user.defaultSmsc),
    (s!"sendsmsUsers[{index}].forcedSmsc", .ofOption user.forcedSmsc),
    (s!"sendsmsUsers[{index}].defaultSender", .ofOption user.defaultSender)]

def serviceEntries (index : Nat) (service : EngineSmsService) : List (String × Unknown) :=
  [(s!"smsServices[{index}].keyword", .string service.keyword),
    (s!"smsServices[{index}].aliases", .ofList service.aliases),
    (s!"smsServices[{index}].text", .ofOption service.text),
    (s!"smsServices[{index}].getUrl", .ofOption service.getUrl),
    (s!"smsServices[{index}].postUrl", .ofOption service.postUrl)]

/-- Screens the strings that will be written into the file. -/
def validateRenderedValues (model : EngineConfiguration) : List String :=
  let entries := model.smsc.flatMap smscEntries ++ (model.smsbox.toList.flatMap smsboxEntries) ++
    (model.users.mapIdx userEntries).flatten ++ (model.services.mapIdx serviceEntries).flatten
  (collectConfigValueProblems entries).map formatConfigValueProblem

/-- `/^[A-Z][A-Z0-9_]+$/`. -/
def isEnvironmentVariable (name : String) : Bool := isEnvName name.toList && decide (2 ≤ name.toList.length)

/-- Everything that is wrong with a model. -/
def validate (env : Runtime) (model : EngineConfiguration) : List String :=
  fails (model.adminPort.strictEq model.smsboxPort) "adminPort and smsboxPort must differ" ++
  fails (!startsWithScheme model.adminSecretRef) "adminSecretRef must be a secret reference" ++
  fails (notReference model.statusSecretRef) "statusSecretRef must be a secret reference" ++
  (match model.sqlbox with
    | none => []
    | some sqlbox =>
      if sqlbox.enabled then
        fails (sqlbox.host = "" ∨ sqlbox.database = "") "SQLBox host and database are required" ++
        fails (sqlbox.serviceHost = "") "SQLBox serviceHost is required" ++
        fails (!isEnvironmentVariable sqlbox.usernameEnv ||
            !isEnvironmentVariable sqlbox.passwordEnv)
          "SQLBox credentials must be environment variable names"
      else []) ++
  validateSmscs [] model.smsc ++ validateBoxes env model ++ validateRenderedValues model

end Jkannel.Configuration
