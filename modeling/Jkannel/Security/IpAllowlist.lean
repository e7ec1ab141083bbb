import Jkannel.Text

/-!
# The allowlist of addresses

An entry of an allowlist is an address or a block of them, and a caller is let in when one of the
entries holds it.

* `parseIpv4`, `parseIpv6` and `parseIp` read an address as a number of 32 or of 128 bits.
* `isIpAllowed` is the check; a list with nothing in it lets everyone in.
-/

namespace Jkannel.Security

abbrev Chars := List Char

/-- `/^\d\x7b1,n\x7d$/`. -/
def isNumeral (n : ℕ) (cs : Chars) : Bool :=
  !cs.isEmpty && cs.length ≤ n && cs.all Char.isDigit

/-- `(\d\x7b1,3\x7d\.)\x7b3\x7d\d\x7b1,3\x7d`, of the whole text. -/
def isDottedQuad (cs : Chars) : Bool :=
  let parts := cs.splitOn '.'
  parts.length = 4 && parts.all (isNumeral 3)

def isLineTerminator (c : Char) : Bool :=
  c = '\n' || c = '\r' || c.toNat = 0x2028 || c.toNat = 0x2029

def digitValue (c : Char) : ℕ :=
  if c.isDigit then c.toNat - 48 else c.toLower.toNat - 87

/-- The number that the digits name. -/
def numeral (base : ℕ) (cs : Chars) : ℕ := cs.foldl (fun n c => n * base + digitValue c) 0

def parseIpv4 (value : Chars) : Option ℕ :=
  let parts := value.splitOn '.'
  if parts.length ≠ 4 then none
  else parts.foldlM (fun result part =>
    if isNumeral 3 part ∧ numeral 10 part ≤ 255 then some (result * 256 + numeral 10 part)
    else none) 0

/-- `split('::')`. -/
def splitDouble : Chars → List Chars
  | ':' :: ':' :: cs => [] :: splitDouble cs
  | c :: cs => (splitDouble cs).modifyHead (c :: ·)
  | [] => [[]]

def isHex (c : Char) : Bool := c.isDigit || ('a' ≤ c.toLower && c.toLower ≤ 'f')

/-- The text with the IPv4 address at its end, if there is one, as two groups.  The pattern takes
what is before the address from its own line only. -/
def expandTail (value : Chars) : Option Chars :=
  let tail := (value.reverse.takeWhile (· ≠ ':')).reverse
  let front := value.take (value.length - tail.length)
  if front ≠ [] ∧ isDottedQuad tail then
    (parseIpv4 tail).map fun v4 =>
      (front.reverse.takeWhile fun c => !isLineTerminator c).reverse ++
        Nat.toDigits 16 (v4 / 65536) ++ ':' :: Nat.toDigits 16 (v4 % 65536)
  else some value

/-- The groups between colons; none of nothing. -/
def groupsOf (half : Chars) : List Chars := if half = [] then [] else half.splitOn ':'

def parseIpv6 (value : Chars) : Option ℕ :=
  (expandTail value).bind fun text =>
    if text = [] ∨ ¬ text.all (fun c => isHex c || c = ':') then none
    else
      let groups := match splitDouble text with
        | [whole] => some (groupsOf whole)
        | [head, tail] =>
          let given := (groupsOf head).length + (groupsOf tail).length
          if 8 < given then none
          else some (groupsOf head ++ List.replicate (8 - given) ['0'] ++ groupsOf tail)
        | _ => none
      groups.bind fun groups =>
        if groups.length ≠ 8 then none
        else groups.foldlM (fun result group =>
          if !group.isEmpty && group.length ≤ 4 && group.all isHex then
            some (result * 65536 + numeral 16 group)
          else none) 0

/-- An address as a number. -/
structure ParsedIp where
  value : ℕ
  bits : ℕ

/-- An address of either kind. -/
def parseIp (value : Chars) : Option ParsedIp :=
  let trimmed := Text.trimChars value
  if trimmed = [] then none
  else if ':' ∈ trimmed then (parseIpv6 trimmed).map (⟨·, 128⟩)
  else (parseIpv4 trimmed).map (⟨·, 32⟩)

/-- The address is in the entry's block. -/
def matchesEntry (ip : ParsedIp) (entry : Chars) : Bool :=
  let trimmed := Text.trimChars entry
  if trimmed = [] then false
  else if '/' ∉ trimmed then
    (parseIp trimmed).any fun exact => exact.bits = ip.bits && exact.value = ip.value
  else
    let prefixText := (trimmed.dropWhile (· ≠ '/')).tail
    let length := numeral 10 prefixText
    (parseIp (trimmed.takeWhile (· ≠ '/'))).any fun network =>
      network.bits = ip.bits && isNumeral 3 prefixText && length ≤ ip.bits &&
        -- under the mask, only the bits of the block's own length are compared
        network.value >>> (ip.bits - length) = ip.value >>> (ip.bits - length)

/-- An empty list allows every address. -/
def isIpAllowed (ip : Option Chars) (allowlist : Option (List Chars)) : Bool :=
  let entries := ((allowlist.getD []).map Text.trimChars).filter (· ≠ [])
  entries.isEmpty || (((ip.filter (· ≠ [])).bind parseIp).any fun parsed =>
    entries.any (matchesEntry parsed))

end Jkannel.Security
