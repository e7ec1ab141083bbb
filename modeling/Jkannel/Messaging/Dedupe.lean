import Jkannel.Text

/-!
# Duplicate control

The same content to the same recipient within a short window is a client's retry, and is refused.
A submission claims a key for the window; a caller's own reference, when there is one, is the key.

* `claimInClient` claims a key, or refuses with a 409.
* `stampInClient` writes the winning submission's id onto its key, `releaseInClient` gives the key
  of a send that failed back.
* `SendError` is how any step of the send path fails.
-/

namespace Jkannel.Messaging

/-- What a step of the send path throws. -/
inductive SendError where
  /-- An exception with an HTTP status. -/
  | http (status : Nat) (message : String)
  /-- Any other error: of a database, of the engine, of the caller's own code. -/
  | other (message : String)

/-- The text of an error. -/
def SendError.message : SendError → String
  | .http _ message => message
  | .other message => message

/-- Whether the error is a `ConflictException`. -/
def SendError.isConflict : SendError → Bool
  | .http status _ => status == 409
  | .other _ => false

def DEFAULT_DEDUPE_WINDOW_SECONDS : Int := 60
def MAX_DEDUPE_WINDOW_SECONDS : Int := 3600

/-- What makes two submissions the same. -/
structure DedupeSubject where
  tenantId : String
  sender : String
  recipient : String
  text : String
  foreignId : Option String

/-- A key that has been claimed. -/
structure DedupeKeyRow where
  dedupeKey : String
  /-- The submission that claimed it, once it has been sent. -/
  firstSqlId : Option String
  /-- In milliseconds. -/
  expiresAt : Int
  suppressedCount : Nat

/-- The caller's reference, empty when there is none. -/
def DedupeSubject.reference (subject : DedupeSubject) : String :=
  Text.trim (subject.foreignId.getD "")

/-- The key of a submission.  The fields are joined by a character none of them can contain. -/
def dedupeKey (sha256 : String → String) (subject : DedupeSubject) : String :=
  sha256 <| "\x00".intercalate <|
    if subject.reference ≠ "" then ["ref", subject.tenantId, subject.reference]
    else ["content", subject.tenantId, subject.sender, subject.recipient, subject.text]

/-- A configured window, clamped to what the schema accepts. -/
def normalizeWindowSeconds (value : Int) : Int := min (max value 0) MAX_DEDUPE_WINDOW_SECONDS

/-- What a suppressed caller is told. -/
def describeDuplicate (subject : DedupeSubject) (windowSeconds : Int)
    (firstSqlId : Option String) : String :=
  let origin := match Text.truthy firstSqlId with
    | some id => " The first one is message " ++ id ++ "."
    | none => ""
  if subject.reference ≠ "" then
    "A message with the reference \"" ++ subject.reference ++ "\" was submitted within the last " ++
      toString windowSeconds ++ "s and was treated as a retry, not a second message." ++ origin ++
      " Use a different reference if this really is a new message."
  else
    "An identical message to this recipient was submitted within the last " ++
      toString windowSeconds ++ "s and was treated as a retry." ++ origin ++
      " Supply a distinct foreignId if this really is a second message, or ask an administrator " ++
      "to shorten the duplicate window for this tenant."

/-- The keys without a lapsed claim on `key`. -/
def dropLapsed (keys : List DedupeKeyRow) (key : String) (now : Int) : List DedupeKeyRow :=
  keys.filter fun row => !(decide (row.dedupeKey = key ∧ row.expiresAt ≤ now))

/-- The claim on a key. -/
def claimOn (keys : List DedupeKeyRow) (key : String) : Option DedupeKeyRow :=
  keys.find? fun row => row.dedupeKey = key

/-- Claim the key of a submission for `windowSeconds`.  A key that has lapsed is claimed anew. -/
def claimInClient (sha256 : String → String) (keys : List DedupeKeyRow) (subject : DedupeSubject)
    (windowSeconds now : Int) : Except SendError (List DedupeKeyRow) :=
  let window := normalizeWindowSeconds windowSeconds
  if window = 0 then .ok keys
  else match claimOn (dropLapsed keys (dedupeKey sha256 subject) now) (dedupeKey sha256 subject) with
    | some row => .error (.http 409 (describeDuplicate subject window row.firstSqlId))
    | none => .ok (dropLapsed keys (dedupeKey sha256 subject) now ++
        [⟨dedupeKey sha256 subject, none, now + window * 1000, 0⟩])

/-- Stamp the submission's id onto its key. -/
def stampInClient (sha256 : String → String) (keys : List DedupeKeyRow) (subject : DedupeSubject)
    (sqlId : String) : List DedupeKeyRow :=
  keys.map fun row =>
    if row.dedupeKey = dedupeKey sha256 subject ∧ row.firstSqlId = none then
      { row with firstSqlId := some sqlId }
    else row

/-- Release the key of a send that then failed; a key that has been stamped stays. -/
def releaseInClient (sha256 : String → String) (keys : List DedupeKeyRow)
    (subject : DedupeSubject) : List DedupeKeyRow :=
  keys.filter fun row =>
    !(decide (row.dedupeKey = dedupeKey sha256 subject ∧ row.firstSqlId = none))

end Jkannel.Messaging
