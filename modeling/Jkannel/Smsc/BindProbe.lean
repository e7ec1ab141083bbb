import Jkannel.Lib.Framing
import Jkannel.Text

/-!
# The SMPP bind probe

The probe of a carrier's endpoint opens a socket, sends a bind, and reads what comes back until the
response to that bind, which it reports.  What comes back is a stream of octets that the network
cuts where it likes.

* `step` is what the probe does at each event of its socket; `bind` is its result for a connection
  on which the peer sends some pieces of data and then, perhaps, ends it.
* `decoder` is how a PDU is taken off the buffer and `answer` what is done with it, so that the loop
  over the buffer is `Framing.drain`.
* `framing_exact` is the promise: the result depends on the octets alone and not on the pieces, and
  it is a bind exactly when the first PDU that answers the bind says so, all before it being
  well-formed.
-/

namespace Jkannel.Smsc.BindProbe

open List

/-- Octets. -/
abbrev Buffer := List UInt8

/-! ## Writing a PDU -/

def BIND_RECEIVER : Nat := 0x00000001
def BIND_TRANSMITTER : Nat := 0x00000002
def BIND_TRANSCEIVER : Nat := 0x00000009
def UNBIND : Nat := 0x00000006

def RESPONSE_BIT : Nat := 0x80000000

/-- The command_status values a bind realistically returns. -/
def COMMAND_STATUS : List (Nat × String) :=
  [(0x00000000, "ESME_ROK"),
   (0x00000001, "ESME_RINVMSGLEN"),
   (0x00000002, "ESME_RINVCMDLEN"),
   (0x00000003, "ESME_RINVCMDID"),
   (0x00000004, "ESME_RINVBNDSTS"),
   (0x00000005, "ESME_RALYBND"),
   (0x00000006, "ESME_RINVPRTFLG"),
   (0x00000008, "ESME_RSYSERR"),
   (0x0000000a, "ESME_RINVSRCADR"),
   (0x0000000d, "ESME_RBINDFAIL"),
   (0x0000000e, "ESME_RINVPASWD"),
   (0x0000000f, "ESME_RINVSYSID"),
   (0x00000058, "ESME_RTHROTTLED")]

inductive BindMode where
  | transceiver
  | transmitter
  | receiver

def BindMode.text : BindMode → String
  | transceiver => "transceiver"
  | transmitter => "transmitter"
  | receiver => "receiver"

/-- What a probe is given. -/
structure SmppBindOptions where
  systemId : String
  password : String
  systemType : Option String
  interfaceVersion : Option Int
  bindMode : Option BindMode
  addressRange : Option String
  addrTon : Option Int
  addrNpi : Option Int
  timeoutMs : Option Nat

/-- `interface_version` stored as decimal 33/34/50 maps to the SMPP octet. -/
def interfaceOctet (value : Option Int) : Int :=
  match value with
  | none => 0x34
  | some 33 => 0x33
  | some 34 => 0x34
  | some 50 => 0x50
  | some value => if 0 ≤ value ∧ value ≤ 0xff then value else 0x34

/-- The UTF-16 code units of a text. -/
def codeUnits (text : String) : List Nat :=
  text.toList.flatMap fun c =>
    if c.toNat < 0x10000 then [c.toNat]
    else [0xD800 + (c.toNat - 0x10000) / 0x400, 0xDC00 + (c.toNat - 0x10000) % 0x400]

/-- A NUL-terminated string, of which each code unit gives its low octet. -/
def cString (value : Option String) (max : Nat) : Buffer :=
  ((codeUnits (value.getD "")).take max).map UInt8.ofNat ++ [0]

/-- `writeUInt32BE`. -/
def uint32BE (n : Nat) : Buffer :=
  [UInt8.ofNat (n / 0x1000000), UInt8.ofNat (n / 0x10000), UInt8.ofNat (n / 0x100), UInt8.ofNat n]

def buildPdu (commandId sequence : Nat) (body : Buffer) : Buffer :=
  uint32BE (16 + body.length) ++ uint32BE commandId ++ uint32BE 0 ++ uint32BE sequence ++ body

def bindCommandId (mode : Option BindMode) : Nat :=
  match mode with
  | some .transmitter => BIND_TRANSMITTER
  | some .receiver => BIND_RECEIVER
  | _ => BIND_TRANSCEIVER

/-- `n & 0xff` as an octet. -/
def lowOctet (n : Int) : UInt8 := UInt8.ofNat (n % 256).toNat

/-- The PDU that is sent when the socket opens. -/
def bindPdu (options : SmppBindOptions) : Buffer :=
  buildPdu (bindCommandId options.bindMode) 1 <|
    cString (some options.systemId) 15 ++
    cString (some options.password) 8 ++
    cString options.systemType 12 ++
    [lowOctet (interfaceOctet options.interfaceVersion), lowOctet (options.addrTon.getD 0),
      lowOctet (options.addrNpi.getD 0)] ++
    cString options.addressRange 40

/-! ## Reading a PDU -/

/-- `readUInt32BE`. -/
def readUInt32BE (buffer : Buffer) (offset : Nat) : Nat :=
  ((buffer.drop offset).take 4).foldl (fun n octet => n * 0x100 + octet.toNat) 0

/-- `(commandId | RESPONSE_BIT) >>> 0`: the bits as a signed number, and back as an unsigned one. -/
def responseTo (commandId : Nat) : Nat :=
  let signed := (BitVec.ofNat 32 commandId ||| BitVec.ofNat 32 RESPONSE_BIT).toInt
  (BitVec.ofInt 32 signed).toNat

/-- In every mode, what answers a bind has its command id and the response bit. -/
theorem responseTo_bindCommandId (mode : Option BindMode) :
    responseTo (bindCommandId mode) = RESPONSE_BIT + bindCommandId mode := by
  rcases mode with _ | (_ | _ | _) <;> decide

/-- First NUL-terminated string in a bind response body, if any. -/
def firstCString (body : Buffer) : Option String :=
  if 0 ∈ body then
    let value := String.ofList ((body.takeWhile (· ≠ 0)).map fun octet => Char.ofNat (octet.toNat % 0x80))
    if value = "" then none else some value
  else none

/-- `status.toString(16).padStart(8, '0')`. -/
def hex8 (status : Nat) : String :=
  let digits := Nat.toDigits 16 status
  String.ofList (List.replicate (8 - digits.length) '0' ++ digits)

def statusName (status : Nat) : String := (COMMAND_STATUS.lookup status).getD ("0x" ++ hex8 status)

/-- The result without its latency. -/
structure SmppBindResult where
  /-- True only when the carrier returned a bind response with ESME_ROK. -/
  bound : Bool
  /-- True when the socket opened, whatever the bind then said. -/
  connected : Bool
  /-- The carrier's command_status, or null when no response was read. -/
  commandStatus : Option Nat
  commandStatusName : Option String
  /-- The carrier's own system_id from the bind response, when it supplied one. -/
  peerSystemId : Option String
  detail : String

/-- What a response to the bind says. -/
structure Response where
  status : Nat
  peerSystemId : Option String

/-- A PDU shorter than its own header, or absurdly long, means that this is no SMPP peer at all. -/
def nextPdu (buffer : Buffer) : Framing.Next UInt8 Buffer Nat :=
  if buffer.length < 16 then .wait
  else
    let length := readUInt32BE buffer 0
    if length < 16 ∨ 1048576 < length then .bad length
    else if buffer.length < length then .wait
    else .frame (buffer.take length) (buffer.drop length)

/-- What the loop does with a PDU: it goes on to the next unless this one answers the bind. -/
def answer (commandId : Nat) (pdu : Buffer) : Option Response :=
  if readUInt32BE pdu 4 ≠ responseTo commandId then none
  else some ⟨readUInt32BE pdu 8, firstCString (pdu.drop 16)⟩

/-! ## The length field -/

variable {buffer pdu : Buffer}

theorem readUInt32BE_append {offset : Nat} (h : offset + 4 ≤ buffer.length) (more : Buffer) :
    readUInt32BE (buffer ++ more) offset = readUInt32BE buffer offset := by
  rw [readUInt32BE, readUInt32BE, drop_append_of_le_length (by omega),
    take_append_of_le_length (by rw [length_drop]; omega)]

/-- Octets that say how many they are. -/
structure WellFormed (pdu : Buffer) : Prop where
  length_eq : readUInt32BE pdu 0 = pdu.length
  ge : 16 ≤ pdu.length
  le : pdu.length ≤ 1048576

/-- **What is taken off a buffer** is a well-formed PDU at its front. -/
theorem nextPdu_eq_frame_iff {rest : Buffer} :
    nextPdu buffer = .frame pdu rest ↔ buffer = pdu ++ rest ∧ WellFormed pdu := by
  constructor
  · intro h
    simp only [nextPdu] at h
    split at h
    · cases h
    split at h
    · cases h
    split at h
    · cases h
    · next hlength hsize hwhole =>
      cases h
      have hpdu : (buffer.take (readUInt32BE buffer 0)).length = readUInt32BE buffer 0 := by
        rw [length_take]
        omega
      refine ⟨(take_append_drop _ _).symm, ?_, by omega, by omega⟩
      rw [hpdu]
      conv_rhs => rw [← take_append_drop (readUInt32BE buffer 0) buffer]
      exact (readUInt32BE_append (by omega) _).symm
  · rintro ⟨rfl, h⟩
    have hread : readUInt32BE (pdu ++ rest) 0 = pdu.length := by
      rw [readUInt32BE_append (by have := h.ge; omega), h.length_eq]
    have hge := h.ge
    have hle := h.le
    simp only [nextPdu]
    rw [if_neg (by rw [length_append]; omega), hread, if_neg (by omega),
      if_neg (by rw [length_append]; omega), take_left, drop_left]

theorem nextPdu_eq_bad_iff {length : Nat} :
    nextPdu buffer = .bad length ↔
      16 ≤ buffer.length ∧ readUInt32BE buffer 0 = length ∧ (length < 16 ∨ 1048576 < length) := by
  simp only [nextPdu]
  constructor
  · intro h
    split at h
    · cases h
    split at h
    · next hlength hsize =>
      cases h
      exact ⟨by omega, rfl, hsize⟩
    · split at h
      · cases h
      · cases h
  · rintro ⟨hlength, rfl, hsize⟩
    rw [if_neg (by omega), if_pos hsize]

/-- PDUs off the front of a buffer. -/
def decoder : Framing.Decoder UInt8 Buffer Nat where
  next := nextPdu
  shorter {buffer pdu rest} h := by
    obtain ⟨rfl, hpdu⟩ := nextPdu_eq_frame_iff.mp h
    have := hpdu.ge
    rw [length_append]
    omega
  frame_append {buffer pdu rest} more h := by
    obtain ⟨rfl, hpdu⟩ := nextPdu_eq_frame_iff.mp h
    exact nextPdu_eq_frame_iff.mpr ⟨append_assoc .., hpdu⟩
  bad_append {buffer length} more h := by
    obtain ⟨hlength, hread, hsize⟩ := nextPdu_eq_bad_iff.mp h
    refine nextPdu_eq_bad_iff.mpr ⟨?_, ?_, hsize⟩
    · rw [length_append]
      omega
    · rw [readUInt32BE_append (by omega), hread]

/-! ## The socket -/

/-- What happens on the socket. -/
inductive Event where
  | connect
  | data (chunk : Buffer)
  | close
  | error (message : String)
  | timeout

/-- How far the probe has come. -/
inductive Phase where
  | reading (buffer : Buffer)
  /-- The promise is resolved and the socket destroyed. -/
  | settled (result : SmppBindResult)

def Phase.result? : Phase → Option SmppBindResult
  | reading _ => none
  | settled result => some result

/-- A probe and what it wrote. -/
structure Probe where
  connected : Bool
  phase : Phase
  written : List Buffer

def init : Probe := ⟨false, .reading [], []⟩

/-- `finish` without a response. -/
def Probe.fail (s : Probe) (detail : String) : Probe :=
  { s with phase := .settled ⟨false, s.connected, none, none, none, detail⟩ }

def modeText (options : SmppBindOptions) : String := (options.bindMode.getD .transceiver).text

/-- `finish` with the response to the bind; a bind that succeeded is unbound. -/
def Probe.respond (options : SmppBindOptions) (s : Probe) (response : Response) : Probe :=
  let name := statusName response.status
  if response.status = 0 then
    { s with
      written := s.written ++ [buildPdu UNBIND 2 []]
      phase := .settled ⟨true, s.connected, some 0, some name, response.peerSystemId,
        "SMPP " ++ modeText options ++ " bind succeeded as \"" ++ options.systemId ++ "\"" ++
          match response.peerSystemId with
          | some peer => " (SMSC system_id \"" ++ peer ++ "\")"
          | none => ""⟩ }
  else
    { s with
      phase := .settled ⟨false, s.connected, some response.status, some name, response.peerSystemId,
        "SMPP bind rejected by the SMSC: " ++ name ++ " (command_status 0x" ++
          hex8 response.status ++ ")"⟩ }

/-- What the loop over the buffer leaves. -/
def Probe.take (options : SmppBindOptions) (s : Probe) :
    Framing.Outcome UInt8 Nat Response → Probe
  | .waiting rest => { s with phase := .reading rest }
  | .bad length =>
    s.fail ("The endpoint answered with a " ++ toString length ++
      "-octet frame, which is not a valid SMPP PDU")
  | .answered response => s.respond options response

def drain (options : SmppBindOptions) (buffer : Buffer) : Framing.Outcome UInt8 Nat Response :=
  Framing.drain decoder (answer (bindCommandId options.bindMode)) buffer

/-- What the probe does at an event; a destroyed socket has none. -/
def step (options : SmppBindOptions) (s : Probe) (event : Event) : Probe :=
  match s.phase with
  | .settled _ => s
  | .reading buffer =>
    match event with
    | .connect => { s with connected := true, written := s.written ++ [bindPdu options] }
    | .data chunk => s.take options (drain options (buffer ++ chunk))
    | .close =>
      s.fail (if s.connected then "The SMSC closed the connection before answering the bind"
        else "The connection closed before it was established")
    | .error message => s.fail (if s.connected then "SMPP bind failed: " ++ message else message)
    | .timeout =>
      let timeoutMs := toString (options.timeoutMs.getD 5000)
      s.fail (if s.connected then
          "SMPP bind timed out after " ++ timeoutMs ++
            "ms: the socket opened but no bind response arrived"
        else "Connection timed out after " ++ timeoutMs ++ "ms")

def run (options : SmppBindOptions) (s : Probe) (events : List Event) : Probe :=
  events.foldl (step options) s

/-- How the peer ends a connection. -/
inductive Ending where
  | close
  | error (message : String)

def Ending.event : Ending → Event
  | close => .close
  | error message => .error message

/-- The result on a connection on which the peer sends the pieces and then ends it, if it does. -/
def bind (options : SmppBindOptions) (chunks : List Buffer) (ending : Option Ending) :
    Option SmppBindResult :=
  (run options init (.connect :: chunks.map .data ++ (ending.map Ending.event).toList)).phase.result?

/-! ## What is promised -/

/-- The stream begins with well-formed PDUs, of which the last is the first that answers the bind
and says that it succeeded. -/
def AnswersBind (options : SmppBindOptions) (stream : Buffer) : Prop :=
  ∃ (pdus : List Buffer) (last rest : Buffer),
    stream = pdus.flatten ++ last ++ rest ∧
    (∀ pdu ∈ pdus, WellFormed pdu ∧
      readUInt32BE pdu 4 ≠ responseTo (bindCommandId options.bindMode)) ∧
    WellFormed last ∧ readUInt32BE last 4 = responseTo (bindCommandId options.bindMode) ∧
    readUInt32BE last 8 = 0

/-! ## The pieces do not matter -/

variable {options : SmppBindOptions}

/-- A probe that has sent its bind. -/
def opened (options : SmppBindOptions) : Probe := ⟨true, .reading [], [bindPdu options]⟩

theorem step_settled {s : Probe} {result : SmppBindResult} (h : s.phase = .settled result)
    (event : Event) : step options s event = s := by
  simp only [step, h]

theorem respond_settled (options : SmppBindOptions) (s : Probe) (response : Response) :
    ∃ result, (s.respond options response).phase = .settled result ∧
      (result.bound = true ↔ response.status = 0) := by
  simp only [Probe.respond]
  split
  · next h => exact ⟨_, rfl, fun _ => h, fun _ => rfl⟩
  · next h => exact ⟨_, rfl, fun hbound => absurd hbound Bool.false_ne_true, fun hs => absurd hs h⟩

/-- A piece of data resumes the loop. -/
theorem step_data (o : Framing.Outcome UInt8 Nat Response) (chunk : Buffer) :
    step options ((opened options).take options o) (.data chunk) =
      (opened options).take options
        (Framing.resume decoder (answer (bindCommandId options.bindMode)) o chunk) := by
  cases o with
  | waiting rest =>
    have hstep : step options ((opened options).take options (.waiting rest)) (.data chunk) =
        Probe.take options { opened options with phase := .reading rest }
          (drain options (rest ++ chunk)) := rfl
    rw [hstep, Framing.resume, ← drain]
    -- the loop leaves a phase of its own
    cases drain options (rest ++ chunk) <;> rfl
  | bad length => rfl
  | answered response =>
    obtain ⟨result, hresult, -⟩ := respond_settled options (opened options) response
    exact step_settled hresult _

theorem run_data (chunks : List Buffer) (o : Framing.Outcome UInt8 Nat Response) :
    run options ((opened options).take options o) (chunks.map .data) =
      (opened options).take options
        (chunks.foldl (Framing.resume decoder (answer (bindCommandId options.bindMode))) o) := by
  induction chunks generalizing o with
  | nil => rfl
  | cons chunk chunks ih =>
    rw [foldl_cons, ← ih, map_cons, run, foldl_cons, step_data, ← run]

theorem run_append (s : Probe) (events events' : List Event) :
    run options s (events ++ events') = run options (run options s events) events' :=
  foldl_append

/-- **The pieces of a stream leave what the loop leaves of all of it.** -/
theorem bind_eq (chunks : List Buffer) (ending : Option Ending) :
    bind options chunks ending =
      (run options ((opened options).take options (drain options chunks.flatten))
        (ending.map Ending.event).toList).phase.result? := by
  have hconnect : run options init [.connect] = (opened options).take options (drain options []) :=
    rfl
  have hevents : Event.connect :: chunks.map .data ++ (ending.map Ending.event).toList =
      ([.connect] ++ chunks.map .data) ++ (ending.map Ending.event).toList := rfl
  rw [bind, hevents, run_append, run_append, hconnect, run_data, drain, Framing.foldl_resume,
    nil_append, drain]

/-! ## When there is a bind -/

theorem frames_iff {b : Buffer} {pdus : List Buffer} {rest : Buffer} :
    Framing.Frames decoder b pdus rest ↔ b = pdus.flatten ++ rest ∧ ∀ pdu ∈ pdus, WellFormed pdu := by
  induction pdus generalizing b with
  | nil =>
    refine ⟨fun h => ?_, fun h => ?_⟩
    · cases h with
      | nil => simp
    · obtain ⟨rfl, -⟩ := h
      exact .nil _
  | cons pdu pdus ih =>
    rw [flatten_cons, append_assoc, forall_mem_cons]
    constructor
    · intro h
      cases h with
      | cons hnext hrest =>
        obtain ⟨rfl, hpdu⟩ := nextPdu_eq_frame_iff.mp hnext
        obtain ⟨rfl, hpdus⟩ := ih.mp hrest
        exact ⟨rfl, hpdu, hpdus⟩
    · rintro ⟨rfl, hpdu, hpdus⟩
      exact .cons (nextPdu_eq_frame_iff.mpr ⟨rfl, hpdu⟩) (ih.mpr ⟨rfl, hpdus⟩)

theorem answer_eq_none_iff {commandId : Nat} :
    answer commandId pdu = none ↔ readUInt32BE pdu 4 ≠ responseTo commandId := by
  rw [answer]
  split
  · next h => exact ⟨fun _ => h, fun _ => rfl⟩
  · next h => exact ⟨fun hnone => (by cases hnone), fun hne => absurd hne h⟩

theorem answer_eq_some_iff {commandId : Nat} {response : Response} :
    answer commandId pdu = some response ↔
      readUInt32BE pdu 4 = responseTo commandId ∧
        response = ⟨readUInt32BE pdu 8, firstCString (pdu.drop 16)⟩ := by
  rw [answer]
  split
  · next h => exact ⟨fun hsome => (by cases hsome), fun hsome => absurd hsome.1 h⟩
  · next h => exact ⟨fun hsome => ⟨not_not.mp h, (Option.some.inj hsome).symm⟩,
      fun hsome => congrArg some hsome.2.symm⟩

/-- The loop has the response of a bind that succeeded. -/
theorem drain_answered_iff {stream : Buffer} :
    (∃ response, drain options stream = .answered response ∧ response.status = 0) ↔
      AnswersBind options stream := by
  simp only [drain, Framing.drain_eq_iff, Framing.runs_answered_iff, frames_iff,
    answer_eq_none_iff, answer_eq_some_iff]
  constructor
  · rintro ⟨response, ⟨pdus, last, rest, ⟨hstream, hformed⟩, hnone, hlast, rfl⟩, hstatus⟩
    rw [forall_mem_append, forall_mem_singleton] at hformed
    refine ⟨pdus, last, rest, ?_, fun pdu hpdu => ⟨hformed.1 pdu hpdu, hnone pdu hpdu⟩, hformed.2,
      hlast, hstatus⟩
    rw [hstream, flatten_append, flatten_singleton]
  · rintro ⟨pdus, last, rest, hstream, hpdus, hformed, hlast, hstatus⟩
    refine ⟨_, ⟨pdus, last, rest, ⟨?_, ?_⟩, fun pdu hpdu => (hpdus pdu hpdu).2, hlast, rfl⟩, hstatus⟩
    · rw [hstream, flatten_append, flatten_singleton]
    · rw [forall_mem_append, forall_mem_singleton]
      exact ⟨fun pdu hpdu => (hpdus pdu hpdu).1, hformed⟩

/-- Whatever ends a connection whose loop has not its response, it is not a bind. -/
theorem bound_run_iff (o : Framing.Outcome UInt8 Nat Response) (ending : Option Ending) :
    (∃ result, (run options ((opened options).take options o)
        (ending.map Ending.event).toList).phase.result? = some result ∧ result.bound = true) ↔
      ∃ response, o = .answered response ∧ response.status = 0 := by
  cases o with
  | waiting rest =>
    refine ⟨?_, fun ⟨_, h, _⟩ => (by cases h)⟩
    rintro ⟨result, hresult, hbound⟩
    cases ending with
    | none => cases hresult
    | some ending =>
      cases ending with
      | close | error _ =>
        cases hresult
        cases hbound
  | bad length =>
    refine ⟨?_, fun ⟨_, h, _⟩ => (by cases h)⟩
    rintro ⟨result, hresult, hbound⟩
    cases ending with
    | none | some _ =>
      cases hresult
      cases hbound
  | answered response =>
    obtain ⟨result, hresult, hbound⟩ :=
      respond_settled options (opened options) response
    have hrun : run options ((opened options).take options (.answered response))
        (ending.map Ending.event).toList = (opened options).take options (.answered response) := by
      cases ending with
      | none => rfl
      | some ending => exact step_settled hresult _
    have hphase : ((opened options).take options (.answered response)).phase = .settled result :=
      hresult
    rw [hrun, hphase]
    constructor
    · rintro ⟨_, hsome, htrue⟩
      cases hsome
      exact ⟨response, rfl, hbound.mp htrue⟩
    · rintro ⟨_, h, hstatus⟩
      cases h
      exact ⟨result, rfl, hbound.mpr hstatus⟩

/-- **Framing is exact.**  However the stream is cut, the result is that of the stream in one piece;
it is a bind exactly when the first response to the bind says so after nothing but well-formed PDUs;
and the loop over a buffer ends. -/
theorem framing_exact (options : SmppBindOptions) (chunks : List Buffer) (ending : Option Ending) :
    bind options chunks ending = bind options [chunks.flatten] ending ∧
    ((∃ result, bind options chunks ending = some result ∧ result.bound = true) ↔
      AnswersBind options chunks.flatten) ∧
    ∀ buffer, ∃ outcome, Framing.Runs decoder (answer (bindCommandId options.bindMode)) buffer
      outcome ∧ drain options buffer = outcome := by
  refine ⟨?_, ?_, fun buffer => ⟨_, Framing.runs_drain _ _ buffer, rfl⟩⟩
  · rw [bind_eq, bind_eq, flatten_singleton]
  · rw [bind_eq, bound_run_iff, drain_answered_iff]

end Jkannel.Smsc.BindProbe
