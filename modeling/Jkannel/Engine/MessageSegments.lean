import Jkannel.Lib.JsNumber
import Jkannel.Lib.Packing
import Jkannel.Text

/-!
# How many parts a message takes

A short message carries 140 octets.  Longer texts are split into parts, each of which gives up some
octets to a header that joins them, and a character is never split.  How many parts there are, and
how much room the last one has left, is what a composer is told and what a message costs.

* `resolveAlphabet` picks the alphabet: what the data coding says, then what the charset says, then
  GSM-7 if every character is in it and UCS-2 otherwise.
* `characterCosts` prices the characters in the units of the alphabet: the extension table of GSM-7
  costs two septets, a character outside the first plane two code units, and 8-bit text one octet a
  code unit.
* `describeSegments` counts.  A header that names the number of parts is believed; otherwise the
  text is packed greedily, which is the walk `Packing.tally`.

A text is a list of UTF-16 code units, whose surrogates need not be in pairs.
-/

namespace Jkannel.Engine

/-! ## Text -/

/-- A text of the language: its UTF-16 code units. -/
abbrev JsText := List UInt16

def isHighSurrogate (u : UInt16) : Bool := decide (0xD800 ≤ u.toNat ∧ u.toNat ≤ 0xDBFF)

def isLowSurrogate (u : UInt16) : Bool := decide (0xDC00 ≤ u.toNat ∧ u.toNat ≤ 0xDFFF)

/-- `[...text]`: a surrogate pair is one character, and so is a surrogate without its other half. -/
def characters : JsText → List JsText
  | [] => []
  | [u] => [[u]]
  | u :: v :: text =>
    if isHighSurrogate u && isLowSurrogate v then [u, v] :: characters text
    else [u] :: characters (v :: text)

/-- The code units of a text of the first plane. -/
def codeUnits (s : String) : JsText := s.toList.map fun c => UInt16.ofNat c.toNat

def isSpaceUnit (u : UInt16) : Bool := Text.isSpace (Char.ofNat u.toNat)

/-- `trim`. -/
def trimUnits (text : JsText) : JsText :=
  ((text.dropWhile isSpaceUnit).reverse.dropWhile isSpaceUnit).reverse

/-! ## The alphabets -/

/-- The GSM 03.38 default alphabet. -/
def GSM7_BASIC_CHARS : String :=
  "@£$¥èéùìòÇ\nØø\rÅåΔ_ΦΓΛΩΠΨΣΘΞ" ++
  " !\"#¤%&'()*+,-./0123456789:;<=>?" ++
  "¡ABCDEFGHIJKLMNOPQRSTUVWXYZÄÖÑÜ§" ++
  "¿abcdefghijklmnopqrstuvwxyzäöñüà" ++
  "ÆæßÉ"

/-- The GSM 03.38 extension table, each of which costs two septets. -/
def GSM7_EXTENDED_CHARS : String := "\x0c^\x7b\x7d\\[~]|€"

/-- The texts of one character of a set. -/
def charSet (chars : String) : List JsText := (codeUnits chars).map fun u => [u]

inductive MessageAlphabet where
  | gsm7 | ucs2 | binary

/-- The data coding of a row: a number, or the text of one. -/
inductive Coding where
  | number (value : JsNumber)
  | text (value : String)

/-- A body with its coding. -/
structure SegmentInput where
  /-- The body as the engine stores it. -/
  text : Option JsText
  /-- 0 for GSM-7, 1 for 8-bit, 2 for UCS-2, anything else for undeclared. -/
  coding : Option Coding
  charset : Option String
  /-- The header: raw octets, or their hexadecimal digits. -/
  udhData : Option JsText

/-- The count and what it rests on. -/
structure SegmentBreakdown where
  segments : Nat
  alphabet : MessageAlphabet
  /-- The units counted: septets, code units or octets. -/
  length : Nat
  singleCapacity : Nat
  multipartCapacity : Nat
  /-- The octets the header takes up on every part. -/
  udhOctets : Nat
  declaredByUdh : Bool
  /-- The capacity of the part the text ends in. -/
  perSegment : Nat
  /-- What is free in that part. -/
  remaining : Nat

/-- Octets of one message. -/
def PAYLOAD_OCTETS : Nat := 140

/-- Octets that joining parts adds where there is no header. -/
def CONCAT_UDH_OCTETS : Nat := 6

/-- Octets that it adds to a header there is. -/
def CONCAT_IE_OCTETS : Nat := 5

/-! ## `Number` of a text -/

/-- The value of a digit in some base up to 36. -/
def digitValue (c : Char) : Option Nat :=
  if '0' ≤ c ∧ c ≤ '9' then some (c.toNat - 48)
  else if 'a' ≤ c ∧ c ≤ 'z' then some (c.toNat - 87)
  else if 'A' ≤ c ∧ c ≤ 'Z' then some (c.toNat - 55)
  else none

/-- One digit or more, in a base. -/
def natural (base : Nat) (digits : List Char) : Option Nat :=
  if digits = [] then none
  else digits.foldlM (fun n c => (digitValue c).bind fun d =>
    if d < base then some (base * n + d) else none) 0

/-- What stands behind the `e`, or nothing. -/
def exponent : List Char → Option Int
  | [] => some 0
  | _ :: '+' :: digits => (natural 10 digits).map fun n => (n : Int)
  | _ :: '-' :: digits => (natural 10 digits).map fun n => -(n : Int)
  | _ :: digits => (natural 10 digits).map fun n => (n : Int)

/-- A decimal without a sign: digits, perhaps a point, perhaps an exponent. -/
def decimalValue (cs : List Char) : Option Rat :=
  let mantissa := cs.takeWhile fun c => c ≠ 'e' && c ≠ 'E'
  let whole := mantissa.takeWhile (· ≠ '.')
  let fraction := (mantissa.drop whole.length).drop 1
  match natural 10 (whole ++ fraction), exponent (cs.drop mantissa.length) with
  | some n, some e => some ((n : Rat) * 10 ^ (e - (fraction.length : Int)))
  | _, _ => none

/-- The nearest number, which is zero for what is half of the smallest one or less. -/
def nearest (q : Rat) : JsNumber :=
  .finite (Binary64.Number.ofRat (if |q| ≤ 1 / 2 ^ 1075 then 0 else q))

/-- A literal with its sign. -/
def signedLiteral (negative : Bool) (cs : List Char) : JsNumber :=
  if cs = "Infinity".toList then .infinity negative
  else match decimalValue cs with
    | some q => nearest (if negative then -q else q)
    | none => .nan

/-- `Number` of a text. -/
def numberOf (s : String) : JsNumber :=
  let literal (base : Nat) (digits : List Char) : JsNumber :=
    match natural base digits with
    | some n => nearest n
    | none => .nan
  match Text.trimChars s.toList with
  | [] => .ofInt 0
  | '0' :: 'x' :: digits | '0' :: 'X' :: digits => literal 16 digits
  | '0' :: 'o' :: digits | '0' :: 'O' :: digits => literal 8 digits
  | '0' :: 'b' :: digits | '0' :: 'B' :: digits => literal 2 digits
  | '+' :: cs => signedLiteral false cs
  | '-' :: cs => signedLiteral true cs
  | cs => signedLiteral false cs

/-- What the coding is as a number; none when it is absent or the empty text. -/
def Coding.value : Coding → Option JsNumber
  | .number n => some n
  | .text s => if s = "" then none else some (numberOf s)

/-! ## The header -/

def hexValue (u : UInt16) : Option Nat :=
  (digitValue (Char.ofNat u.toNat)).filter (· < 16)

/-- The octets of hexadecimal digits. -/
def hexOctets : JsText → List Nat
  | a :: b :: rest => (16 * (hexValue a).getD 0 + (hexValue b).getD 0) :: hexOctets rest
  | _ => []

/-- The header in octets: an even number of hexadecimal digits, or raw characters. -/
def udhOctetsOf (value : Option JsText) : List Nat :=
  let trimmed := trimUnits (value.getD [])
  if trimmed = [] then []
  else if trimmed.length % 2 = 0 ∧ trimmed.all fun u => (hexValue u).isSome then hexOctets trimmed
  else (characters trimmed).map fun character => (character.headD 0).toNat % 256

/-- The elements of a header from one on, of which `left` octets are within its length. -/
def partsFrom (octets : List Nat) (left : Nat) : Option Nat :=
  match octets with
  | iei :: length :: rest =>
    if 1 < left then
      let body := rest.take length
      if iei = 0x00 ∧ 2 ≤ body.length ∧ 0 < body.getD 1 0 then some (body.getD 1 0)
      else if iei = 0x08 ∧ 3 ≤ body.length ∧ 0 < body.getD 2 0 then some (body.getD 2 0)
      else partsFrom (rest.drop length) (left - (2 + length))
    else none
  | _ => none
termination_by octets.length
decreasing_by simp only [List.length_drop, List.length_cons]; omega

/-- The number of parts a joining element of the header names, or none. -/
def declaredParts : List Nat → Option Nat
  | [] => none
  | headerLength :: octets => partsFrom octets (min headerLength octets.length)

/-! ## Counting -/

/-- Every character is in the GSM 03.38 alphabet. -/
def isGsm7Encodable (text : JsText) : Bool :=
  (characters text).all fun character =>
    (charSet GSM7_BASIC_CHARS).contains character || (charSet GSM7_EXTENDED_CHARS).contains character

/-- What each character costs, in the alphabet's own units. -/
def characterCosts (text : JsText) : MessageAlphabet → List Nat
  | .gsm7 => (characters text).map fun character =>
      if (charSet GSM7_EXTENDED_CHARS).contains character then 2 else 1
  | .ucs2 => (characters text).map List.length
  | .binary => List.replicate text.length 1

/-- Greedy packing.  Where nothing fits, every character is a part of its own. -/
def pack (costs : List Nat) (capacity : Nat) : Packing.Tally :=
  if capacity = 0 then ⟨max 1 costs.length, 0⟩ else Packing.tally capacity costs

/-- Septets that fit into some octets. -/
def septets (octets : Nat) : Nat := octets * 8 / 7

/-- Units that fit besides a header. -/
def capacityFor (alphabet : MessageAlphabet) (headerOctets : Nat) : Nat :=
  let payload := PAYLOAD_OCTETS - headerOctets
  match alphabet with
  | .gsm7 => septets payload
  | .ucs2 => payload / 2
  | .binary => payload

/-- The charset has the word in it. -/
def mentions (charset word : String) : Bool :=
  charset.toList.tails.any (word.toList.isPrefixOf ·)

/-- The alphabet declared, or the one needed. -/
def resolveAlphabet (env : TextEngine) (input : SegmentInput) (text : JsText) : MessageAlphabet :=
  let coding := input.coding.bind Coding.value
  if coding.any (JsNumber.isInt 0) then .gsm7
  else if coding.any (JsNumber.isInt 1) then .binary
  else if coding.any (JsNumber.isInt 2) then .ucs2
  else
    let charset := env.toLowerCase (Text.trim (input.charset.getD ""))
    if ["ucs2", "ucs-2", "utf16", "utf-16"].any (mentions charset) then .ucs2
    else if ["binary", "octet"].any (mentions charset) then .binary
    else if isGsm7Encodable text then .gsm7 else .ucs2

/-- The octets of the header of every part. -/
def headerOctets (octets : List Nat) : Nat :=
  match octets with
  | [] => 0
  | length :: _ => min (length + 1) PAYLOAD_OCTETS

/-- The octets of the header once the parts are joined. -/
def joinedOctets (udhOctets : Nat) : Nat :=
  if udhOctets = 0 then CONCAT_UDH_OCTETS else min (udhOctets + CONCAT_IE_OCTETS) PAYLOAD_OCTETS

/-- The full accounting of one row. -/
def describeSegments (env : TextEngine) (input : SegmentInput) : SegmentBreakdown :=
  let text := input.text.getD []
  let alphabet := resolveAlphabet env input text
  let octets := udhOctetsOf input.udhData
  let udhOctets := headerOctets octets
  let singleCapacity := capacityFor alphabet udhOctets
  let multipartCapacity := capacityFor alphabet (joinedOctets udhOctets)
  let costs := characterCosts text alphabet
  let length := costs.sum
  match declaredParts octets with
  | some declared =>
    let segments := max 1 declared
    let perSegment := if 1 < segments then multipartCapacity else singleCapacity
    { segments, alphabet, length, singleCapacity, multipartCapacity, udhOctets
      declaredByUdh := true, perSegment, remaining := perSegment - length }
  | none =>
    if length ≤ singleCapacity then
      { segments := 1, alphabet, length, singleCapacity, multipartCapacity, udhOctets
        declaredByUdh := false, perSegment := singleCapacity
        remaining := singleCapacity - length }
    else
      let packed := pack costs multipartCapacity
      { segments := max 1 packed.groups, alphabet, length, singleCapacity, multipartCapacity
        udhOctets, declaredByUdh := false, perSegment := multipartCapacity
        remaining := multipartCapacity - packed.used }

end Jkannel.Engine
