import Jkannel.Configuration.ValueSafety

/-!
# References to secrets

A credential is stored as a reference `secret://namespace/name`, and the configuration that is
rendered holds the name of an environment variable in its place, `${NAME}`, for the engine's
container to fill in.

* `envName` is the variable a reference maps onto: letters, digits and underscores only
  (`envName_chars`), so that all that can go wrong with the placeholder is the word the engine looks
  for (`braced_mentions`).
-/

namespace Jkannel.Configuration

open Directives

/-- What the runtime supplies. -/
structure Runtime where
  text : TextEngine
  /-- `String.prototype.toUpperCase`. -/
  toUpperCase : String → String
  /-- The SHA-256 digest of a text, in hexadecimal. -/
  sha256 : String → String
  /-- `process.env`. -/
  processEnv : String → Option String

/-- What is thrown on the way to a configuration. -/
inductive Thrown
  | error (message : String)
  | invalidSecretReference (reference : String)
  | missingSecret (references envNames : List String)

/-- `PREFIX` of the references. -/
def SCHEME : String := "secret://"

/-- `value.startsWith('secret://')`. -/
def startsWithScheme (value : String) : Bool := SCHEME.toList.isPrefixOf value.toList

def isReference (value : String) : Bool :=
  startsWithScheme value && decide (SCHEME.toList.length < value.toList.length)

/-- `[A-Z0-9]`. -/
def isNameChar (c : Char) : Bool := c.isUpper || c.isDigit

/-- `replace(/[^A-Z0-9]+/g, '_')`: `inRun` when the character before was replaced. -/
def underscores (inRun : Bool) : List Char → List Char
  | [] => []
  | c :: cs =>
    if isNameChar c then c :: underscores false cs
    else if inRun then underscores true cs
    else '_' :: underscores true cs

/-- `replace(/^_+|_+$/g, '')`. -/
def trimUnderscores (cs : List Char) : List Char :=
  ((cs.dropWhile (· == '_')).reverse.dropWhile (· == '_')).reverse

/-- `/^[A-Z][A-Z0-9_]*$/`. -/
def isEnvName : List Char → Bool
  | [] => false
  | c :: cs => c.isUpper && cs.all fun c => isNameChar c || c == '_'

/-- `secret://kamex/admin-password` is `KAMEX_ADMIN_PASSWORD`. -/
def envName (env : Runtime) (reference : String) : Except Thrown String :=
  if isReference reference then
    let rest := String.ofList (reference.toList.drop SCHEME.toList.length)
    let name := trimUnderscores (underscores false (env.toUpperCase rest).toList)
    if isEnvName name then .ok (String.ofList name) else .error (.invalidSecretReference reference)
  else .error (.invalidSecretReference reference)

/-- `${NAME}`. -/
def braced (name : String) : String := "$\x7b" ++ name ++ "\x7d"

/-- The token written into a rendered configuration. -/
def placeholder (env : Runtime) (reference : String) : Except Thrown String :=
  (envName env reference).map braced

/-- All references have a variable that is set, or the missing ones are named. -/
def assertResolvable (env : Runtime) (references : List String) : Except Thrown Unit := do
  let names ← references.mapM (envName env)
  let missing := (references.zip names).filter fun p => (Text.truthy (env.processEnv p.2)).isNone
  if missing.isEmpty then .ok ()
  else .error (.missingSecret (missing.map Prod.fst) (missing.map Prod.snd))

/-- Whether a missing variable is an error when the caller does not say. -/
def strictByDefault (env : Runtime) : Bool :=
  env.processEnv "JKANNEL_SECRETS_STRICT" == some "true"

/-! ## What a placeholder is made of -/

/-- A character of a variable's name. -/
def isEnvChar (c : Char) : Bool := isNameChar c || c == '_'

theorem isEnvChar_of_isEnvName {cs : List Char} (h : isEnvName cs = true) :
    ∀ c ∈ cs, isEnvChar c = true := by
  cases cs with
  | nil => cases h
  | cons c cs =>
    rw [isEnvName, Bool.and_eq_true, List.all_eq_true] at h
    refine List.forall_mem_cons.mpr ⟨?_, h.2⟩
    rw [isEnvChar, isNameChar, h.1, Bool.true_or, Bool.true_or]

/-- **The variable a reference maps onto.** -/
theorem envName_chars {env : Runtime} {reference name : String}
    (h : envName env reference = .ok name) : ∀ c ∈ name.toList, isEnvChar c = true := by
  rw [envName] at h
  split at h
  · dsimp only at h
    split at h
    · rename_i hname
      cases h
      rw [String.toList_ofList]
      exact isEnvChar_of_isEnvName hname
    · cases h
  · cases h

theorem braced_toList (name : String) :
    (braced name).toList = '$' :: '\x7b' :: (name.toList ++ ['\x7d']) := by
  simp [braced]

/-- Only the name can bring the word. -/
theorem braced_mentions (name : String) :
    Mentions includeWord (braced name).toList ↔ Mentions includeWord name.toList := by
  rw [braced_toList, mentions_cons (by decide) (by decide), mentions_cons (by decide) (by decide),
    mentions_append_cons (by decide) (by decide)]
  exact or_iff_left (by decide)

/-- A placeholder is written and read back as it is. -/
theorem braced_not_mem {name : String} (hname : ∀ c ∈ name.toList, isEnvChar c = true) {c : Char}
    (hc : isEnvChar c = false) (hbrace : c ∉ ['$', '\x7b', '\x7d']) :
    c ∉ (braced name).toList := by
  rw [braced_toList]
  simp only [List.mem_cons, List.mem_append, List.not_mem_nil, or_false, not_or] at hbrace ⊢
  refine ⟨hbrace.1, hbrace.2.1, fun hmem => ?_, hbrace.2.2⟩
  rw [hname c hmem] at hc
  cases hc

end Jkannel.Configuration
