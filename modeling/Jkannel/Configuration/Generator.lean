import Mathlib.Data.List.Sort
import Jkannel.Configuration.Validation

/-!
# Rendering a configuration

`generate` checks a model, resolves its references and writes the engine's file.  The file is
written by two emitters: `push` writes a value as it is and drops an empty one, and `quoted` writes
it between quotes.  A call of either is an `Emit` here, and a `Section` is a group of the file with
the calls that fill it, so that what is written (`Emit.item`) can be set against what the call is
there to say (`Emit.own`).

* `renderSections` are the groups, in the order of the file.
* `generate` is the whole, with the ways it can refuse.
* `Faithful` says of a file that it is read back as what its calls say, and that the word that
  stops the engine is in none of its lines.
-/

namespace Jkannel.Configuration

open Directives

/-! ## The emitters

Every directive comes out of one of four calls, which decide how its value is written. -/

/-- The keys that have a list of values. -/
def LIST_KEYS : List String := "aliases" :: ROUTING_LISTS.map RoutingList.directive

def isListKey (key : String) : Bool := LIST_KEYS.contains key

/-- A key that makes a line of its own. -/
def isOwnKey (key : String) : Bool :=
  isKey key && key != "group" && !decide (Mentions includeWord key.toList)

/-- A key of the generator with one value. -/
def isSingleKey (key : String) : Bool := isOwnKey key && !isListKey key

/-- A key of the generator with a list of values. -/
def isManyKey (key : String) : Bool := isOwnKey key && isListKey key

/-- A value `push` is called with. -/
inductive Value
  | text (s : String)
  | number (n : JsNumber)
  | flag (b : Bool)
  /-- The two-character literal `""`. -/
  | emptyLiteral

/-- What is written of a value. -/
def Value.written : Value → String
  | .text s => s
  | .number n => n.text
  | .flag b => if b then "true" else "false"
  | .emptyLiteral => "\"\""

/-- `value === ''`. -/
def Value.isEmpty : Value → Bool
  | .text s => s == ""
  | _ => false

/-- What the value is in the model. -/
def Value.own : Value → String
  | .emptyLiteral => ""
  | value => value.written

/-- A call of an emitter.  The ones with a list are called with `list.join(';')`. -/
inductive Emit
  | push (key : String) (value : Option Value) (ok : isSingleKey key = true := by decide +kernel)
  | pushList (key : String) (entries : List String) (ok : isManyKey key = true := by decide +kernel)
  | quoted (key : String) (value : Option String) (ok : isSingleKey key = true := by decide +kernel)
  | quotedList (key : String) (entries : List String) (ok : isManyKey key = true := by decide +kernel)

/-- `list.join(';')`. -/
def join (entries : List String) : String := ";".intercalate entries

/-- The line a call pushes, unless it drops the value. -/
def Emit.item : Emit → Option Item
  | .push key value _ =>
    value.bind fun v => if v.isEmpty then none else some (.bare key v.written)
  | .pushList key entries _ =>
    if join entries = "" then none else some (.bare key (join entries))
  | .quoted key value _ => value.bind fun s => if s = "" then none else some (.quoted key s)
  | .quotedList key entries _ =>
    if join entries = "" then none else some (.quoted key (join entries))

/-- What a call is there to say: the value, or the values, that the model has under the key.  A
string that is empty is one the model does not have. -/
def Emit.own : Emit → List Directive
  | .push key value _ =>
    value.toList.flatMap fun v => if v.isEmpty then [] else [⟨key, [v.own]⟩]
  | .pushList key entries _ | .quotedList key entries _ => [⟨key, entries⟩]
  | .quoted key value _ => value.toList.flatMap fun s => if s = "" then [] else [⟨key, [s]⟩]

/-- A group of the file: the lines before it, its kind, and the calls that fill it. -/
structure Section where
  remarks : List String
  kind : String
  calls : List Emit
  remarks_skipped : (remarks.all fun line => skipped line.toList && !line.toList.contains '\n' &&
    !decide (Mentions includeWord line.toList)) = true := by decide +kernel
  kind_isKey : (isKey kind && !decide (Mentions includeWord kind.toList)) = true := by
    decide +kernel

/-- The lines of a section. -/
def Section.items (s : Section) : List Item :=
  s.remarks.map .remark ++ .header s.kind :: s.calls.filterMap Emit.item

/-- The group that is meant. -/
def Section.group (s : Section) : Group := ⟨s.kind, s.calls.flatMap Emit.own⟩

/-! ## The groups

One section for each group, with its calls in the order of the source. -/

def text (s : String) : Option Value := some (.text s)
def textOf (s : Option String) : Option Value := s.map .text
def numberOf (n : Option JsNumber) : Option Value := n.map .number
def flagOf (b : Option Bool) : Option Value := b.map .flag

/-- `ref ? placeholder(ref) : other`. -/
def secretOr (env : Runtime) (reference other : Option String) :
    Except Thrown (Option String) :=
  match Text.truthy reference with
  | some reference => (placeholder env reference).map some
  | none => .ok other

/-- The `core` group. -/
def coreSection (env : Runtime) (model : EngineConfiguration) : Except Thrown Section := do
  let admin ← placeholder env model.adminSecretRef
  let status ← placeholder env (model.statusSecretRef.getD DEFAULT_STATUS_SECRET_REF)
  return {
    remarks := ["# Generated by JKANNEL. Do not edit by hand.",
      "# Credentials appear only as $\x7bENV\x7d placeholders resolved by the engine runtime."]
    kind := "core"
    calls := [
      .push "admin-port" (some (.number model.adminPort)),
      .push "smsbox-port" (some (.number model.smsboxPort)),
      .push "admin-password" (text admin),
      .push "status-password" (text status),
      .push "log-level" (some (.number model.logLevel)),
      .push "log-format" (text "json"),
      .push "dlr-storage" (textOf (model.dlrStorage.map EngineDlrStorage.type))] }

/-- The directives of an SMPP link. -/
def renderSmppSmsc (smsc : EngineSmsc) (username password : Option String) : List Emit :=
  let bindMode := smsc.bindMode.getD "transceiver"
  [.push "receive-port" (numberOf (if bindMode = "receiver" then smsc.receivePort <|> smsc.port
      else smsc.receivePort.filter JsNumber.truthy)),
    .push "smsc-username" (textOf username),
    .push "smsc-password" (textOf password),
    .push "system-type" (smsc.systemType.map fun s => if s = "" then .emptyLiteral else .text s),
    .push "interface-version" (numberOf smsc.interfaceVersion),
    .push "address-range" (textOf smsc.addressRange),
    .push "transceiver-mode"
      (some (.number (JsNumber.ofInt (if bindMode = "transceiver" then 1 else 0)))),
    .push "source-addr-ton" (numberOf smsc.sourceAddrTon),
    .push "source-addr-npi" (numberOf smsc.sourceAddrNpi),
    .push "dest-addr-ton" (numberOf smsc.destAddrTon),
    .push "dest-addr-npi" (numberOf smsc.destAddrNpi),
    .push "max-pending-submits" (numberOf smsc.windowSize),
    .push "enquire-link-interval" (numberOf smsc.keepaliveSeconds),
    .push "wait-ack" (numberOf smsc.waitAckSeconds),
    .push "wait-ack-expire" (numberOf smsc.waitAckExpireAction),
    .push "connection-timeout" (numberOf smsc.connectionTimeoutSeconds),
    .push "retry" (flagOf (smsc.retryOnAuthFailure.filter id)),
    .push "use-ssl" (flagOf (smsc.useTls.filter id))]

/-- The directives of an HTTP link. -/
def renderHttpSmsc (smsc : EngineSmsc) (username password : Option String) : List Emit :=
  [.push "system-type" (text (smsc.systemType.getD "kannel")),
    .quoted "send-url" smsc.sendUrl,
    .push "username" (textOf username),
    .push "password" (textOf password)]

theorem manyKey_of_mem {list : RoutingList} (h : list ∈ ROUTING_LISTS) :
    isManyKey list.directive = true := by
  have hall : (ROUTING_LISTS.all fun list => isManyKey list.directive) = true := by decide
  exact List.all_eq_true.mp hall list h

/-- All are optional, and left out when empty. -/
def renderSmscRouting (smsc : EngineSmsc) : List Emit :=
  ROUTING_LISTS.attach.flatMap fun ⟨list, h⟩ =>
    let entries := (list.list smsc).getD []
    if entries = [] then [] else [.quotedList list.directive entries (manyKey_of_mem h)]

/-- The calls for one link. -/
def smscCalls (smsc : EngineSmsc) (username password : Option String) : List Emit :=
  [.push "smsc" (text smsc.type),
    .push "smsc-id" (text smsc.id),
    .push "instances" (numberOf (smsc.connectionCount.filter fun n => n.above 1)),
    .push "host" (textOf smsc.host),
    .push "port" (numberOf smsc.port)] ++
  (if smsc.type = "smpp" then renderSmppSmsc smsc username password else []) ++
  (if smsc.type = "http" then renderHttpSmsc smsc username password else []) ++
  [.push "throughput" (numberOf smsc.throughput),
    .push "reconnect-delay" (numberOf smsc.reconnectDelaySeconds),
    .push "max-error-count" (numberOf smsc.maxErrorCount),
    .push "alt-charset" (textOf smsc.altCharset)] ++
  renderSmscRouting smsc

/-- The credentials of a link, of the kinds that have some. -/
def smscCredentials (env : Runtime) (smsc : EngineSmsc) :
    Except Thrown (Option String × Option String) :=
  if smsc.type = "smpp" ∨ smsc.type = "http" then do
    let username ← secretOr env smsc.usernameSecretRef smsc.username
    let password ← secretOr env smsc.passwordSecretRef none
    return (username, password)
  else return (none, none)

/-- The `smsc` group of one link. -/
def smscSection (env : Runtime) (smsc : EngineSmsc) : Except Thrown Section := do
  let (username, password) ← smscCredentials env smsc
  return { remarks := [""], kind := "smsc", calls := smscCalls smsc username password }

/-- The `smsbox` group. -/
def smsboxSection (model : EngineConfiguration) (smsbox : EngineSmsbox) : Section where
  remarks := [""]
  kind := "smsbox"
  calls := [
    .push "bearerbox-host" (text smsbox.bearerboxHost),
    .push "sendsms-port" (some (.number smsbox.sendsmsPort)),
    .push "smsbox-id" (textOf smsbox.smsboxId),
    .push "global-sender" (textOf smsbox.globalSender),
    .push "log-level" (some (.number (smsbox.logLevel.getD model.logLevel))),
    .push "log-format" (text "json")]

/-- One `sendsms-user` group. -/
def userSection (env : Runtime) (user : EngineSendsmsUser) : Except Thrown Section := do
  let password ← placeholder env user.passwordSecretRef
  return {
    remarks := [""]
    kind := "sendsms-user"
    calls := [
      .push "username" (text user.username),
      .push "password" (text password),
      .push "user-allow-ip" (textOf user.allowedIps),
      .push "default-sender" (textOf user.defaultSender),
      .push "max-messages" (numberOf user.maxMessages),
      .push "concatenation" (flagOf user.concatenation),
      .push "forced-smsc" (textOf user.forcedSmsc),
      .push "default-smsc" (textOf user.defaultSmsc)] }

/-- One `sms-service` group. -/
def serviceSection (service : EngineSmsService) : Section where
  remarks := [""]
  kind := "sms-service"
  calls := [.push "keyword" (text service.keyword)] ++
    (if service.aliases.getD [] = [] then []
      else [.pushList "aliases" (service.aliases.getD [])]) ++
    [.quoted "text" service.text,
      .quoted "get-url" service.getUrl,
      .quoted "post-url" service.postUrl,
      .push "max-messages" (numberOf service.maxMessages),
      .push "concatenation" (flagOf service.concatenation),
      .push "catch-all" (flagOf service.catchAll),
      .push "omit-empty" (flagOf service.omitEmpty),
      .push "accept-x-kannel-headers" (flagOf service.acceptXKannelHeaders),
      .push "send-sender" (flagOf service.sendSender)]

/-- The `pgsql-connection` group of SQLBox. -/
def sqlboxSection (sqlbox : EngineSqlbox) : Section where
  remarks := ["", "# SQLBox PostgreSQL connection (consumed by the SQLBox process)"]
  kind := "pgsql-connection"
  calls := [
    .push "id" (text "jkannel-sqlbox"),
    .push "host" (text sqlbox.host),
    .push "port" (some (.number sqlbox.port)),
    .push "database" (text sqlbox.database),
    .push "username" (text (braced sqlbox.usernameEnv)),
    .push "password" (text (braced sqlbox.passwordEnv))]

/-- The groups that store delivery reports. -/
def dlrSection (storage : EngineDlrStorage) : Section where
  remarks := ["", "# Delivery report persistence (survives an engine restart)"]
  kind := "dlr-db"
  calls := [
    .push "id" (textOf storage.connectionId),
    .push "table" (text (storage.table.getD "dlr")),
    .push "field-smsc" (text "smsc"),
    .push "field-timestamp" (text "ts"),
    .push "field-destination" (text "destination"),
    .push "field-source" (text "source"),
    .push "field-service" (text "service"),
    .push "field-url" (text "url"),
    .push "field-mask" (text "mask"),
    .push "field-status" (text "status"),
    .push "field-boxc-id" (text "boxc")]

/-- `sort` with a comparison. -/
def sortBy {α : Type} (compare : α → α → Ordering) (l : List α) : List α :=
  l.insertionSort fun a b => (compare a b != .gt) = true

/-- 'default' last. -/
def compareServices (env : Runtime) (a b : EngineSmsService) : Ordering :=
  if a.keyword = "default" then .gt
  else if b.keyword = "default" then .lt
  else env.text.localeCompare a.keyword b.keyword

/-- The enabled links, by their ids. -/
def enabledSmscs (env : Runtime) (model : EngineConfiguration) : List EngineSmsc :=
  sortBy (fun a b => env.text.localeCompare a.id b.id) (model.smsc.filter fun smsc => smsc.enabled)

def sortedUsers (env : Runtime) (model : EngineConfiguration) : List EngineSendsmsUser :=
  sortBy (fun a b => env.text.localeCompare a.username b.username) model.users

def sortedServices (env : Runtime) (model : EngineConfiguration) : List EngineSmsService :=
  sortBy (compareServices env) model.services

/-- The connections of the databases: SQLBox's, and the one of the delivery reports. -/
def connectionSections (model : EngineConfiguration) : List Section :=
  ((model.sqlbox.filter EngineSqlbox.enabled).toList.map sqlboxSection) ++
    ((model.dlrStorage.filter fun storage => ["pgsql", "mysql"].contains storage.type).toList.map
      dlrSection)

/-- **The groups of the file**: the core, and one for each enabled link, for the smsbox, for each
user and service, and for each connection. -/
def renderSections (env : Runtime) (model : EngineConfiguration) : Except Thrown (List Section) := do
  let core ← coreSection env model
  let smscs ← (enabledSmscs env model).mapM (smscSection env)
  let users ← (sortedUsers env model).mapM (userSection env)
  return core :: smscs ++ model.smsbox.toList.map (smsboxSection model) ++ users ++
    (sortedServices env model).map serviceSection ++ connectionSections model

/-! ## The file -/

/-- `lines.join('\n')`, with an end of line behind it. -/
def contentOf (sections : List Section) : String :=
  unlines ((sections.flatMap Section.items).map Item.line)

/-- What `generate` returns. -/
structure GeneratedConfiguration where
  content : String
  checksum : String
  requiredSecrets : List String

inductive SupportedEngine
  | kamex
  | kannel

/-- The whole file. -/
def renderKamex (env : Runtime) (model : EngineConfiguration) (references : List String) :
    Except Thrown GeneratedConfiguration := do
  let sections ← renderSections env model
  let content := contentOf sections
  let names ← references.mapM (envName env)
  return ⟨content, env.sha256 content, sortBy Text.compareText names.eraseDups⟩

/-- Renders a model that has been checked. -/
def generate (env : Runtime) (model : EngineConfiguration) (engine : SupportedEngine)
    (requireSecrets : Option Bool) : Except Thrown GeneratedConfiguration := do
  let errors := validate env model
  if errors ≠ [] then throw (.error ("; ".intercalate errors))
  let references := secretReferences model
  if requireSecrets.getD (strictByDefault env) then assertResolvable env references
  match engine with
  | .kamex => renderKamex env model references
  | .kannel =>
    throw (.error "Kannel configuration rendering is not implemented yet; only \"kamex\" is supported")

/-! ## What is asked of the file -/

/-- **The file says what the model says**: it is read back as the groups that are meant, each with
the generator's keys and the model's values, and the word that the engine looks for in the raw line
is in none of its lines. -/
def Faithful (sections : List Section) (content : String) : Prop :=
  readGroups isListKey content = some (sections.map Section.group) ∧
    ∀ line ∈ linesOf content, ¬ Mentions includeWord line

instance (sections : List Section) (content : String) : Decidable (Faithful sections content) :=
  inferInstanceAs (Decidable (_ ∧ _))

end Jkannel.Configuration
